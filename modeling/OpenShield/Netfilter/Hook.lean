import OpenShield.Netfilter.Chain
import OpenShield.Netfilter.Packet

/-!
# Hooks and queues

A hook runs its entries in priority order. An accepting entry hands the packet to the next
one, and only a packet that every entry accepted leaves the hook. An entry may also hand the
packet to a userspace queue: the packet then waits until a consumer returns a verdict, which
resumes it behind the entry that queued it, runs that entry again, or discards it. Without a
consumer a queue discards the packet, unless it was declared with bypass.
-/

namespace Netfilter

/-- The error that a reject verdict sends back. -/
inductive RejectKind
  | tcpReset
  | portUnreachable
  deriving DecidableEq, Repr

inductive Verdict
  | accept
  | drop
  | reject (kind : RejectKind)
  | queue (num : BitVec 16) (bypass : Bool)
  deriving DecidableEq, Repr

inductive Outcome
  | accepted
  | dropped
  | rejected (kind : RejectKind)
  | queued (num : BitVec 16)
  deriving DecidableEq, Repr

inductive QueueVerdict
  | accept
  | drop
  | «repeat»
  deriving DecidableEq, Repr

/-- How a queue answers for a packet: a consumer's verdict, possibly with a new packet mark,
or no consumer that could take it. -/
inductive Answer
  | verdict (verdict : QueueVerdict) (mark : Option (BitVec 32))
  | absent
  deriving DecidableEq, Repr

variable {κ : Type}

abbrev Entry (κ : Type) := Meta κ → Meta κ × Verdict

/-- Where a run of hook entries stops: with an outcome, or in a queue, at the entry with the
given position. -/
inductive Stop
  | done (outcome : Outcome)
  | pending (num : BitVec 16) (bypass : Bool) (position : ℕ)
  deriving DecidableEq, Repr

/-- Run entries in order; `position` is the position of the first of them. -/
def advance : List (Entry κ) → ℕ → Meta κ → Meta κ × Stop
  | [], _, d => (d, .done .accepted)
  | entry :: rest, position, d =>
    match entry d with
    | (d', .accept) => advance rest (position + 1) d'
    | (d', .drop) => (d', .done .dropped)
    | (d', .reject kind) => (d', .done (.rejected kind))
    | (d', .queue num bypass) => (d', .pending num bypass position)

def Meta.withVerdictMark (d : Meta κ) : Option (BitVec 32) → Meta κ
  | some mark => d.setMark mark
  | none => d

/-- Run a hook from the entry at `position`. The list holds the answers of the queue
consumers, in the order in which they are needed; each may depend on the queue and on the
packet data. A packet whose queue has not answered yet stays queued. -/
def runFrom (hook : List (Entry κ)) (position : ℕ) (d : Meta κ) :
    List (BitVec 16 → Meta κ → Answer) → Meta κ × Outcome
  | [] =>
    match advance (hook.drop position) position d with
    | (d', .done outcome) => (d', outcome)
    | (d', .pending num _ _) => (d', .queued num)
  | answer :: answers =>
    match advance (hook.drop position) position d with
    | (d', .done outcome) => (d', outcome)
    | (d', .pending num bypass position') =>
      match answer num d' with
      | .verdict .accept mark =>
        runFrom hook (position' + 1) (d'.withVerdictMark mark) answers
      | .verdict .repeat mark => runFrom hook position' (d'.withVerdictMark mark) answers
      | .verdict .drop _ => (d', .dropped)
      | .absent => if bypass then runFrom hook (position' + 1) d' answers else (d', .dropped)

@[simp]
theorem advance_nil (position : ℕ) (d : Meta κ) :
    advance [] position d = (d, .done .accepted) := rfl

variable {d d' : Meta κ} {entry : Entry κ} {position : ℕ} {hook : List (Entry κ)}

variable (rest : List (Entry κ))

theorem advance_cons_accept (position : ℕ) (h : entry d = (d', .accept)) :
    advance (entry :: rest) position d = advance rest (position + 1) d' := by
  simp [advance, h]

theorem advance_cons_drop (position : ℕ) (h : entry d = (d', .drop)) :
    advance (entry :: rest) position d = (d', .done .dropped) := by
  simp [advance, h]

theorem advance_cons_reject (position : ℕ) {kind : RejectKind} (h : entry d = (d', .reject kind)) :
    advance (entry :: rest) position d = (d', .done (.rejected kind)) := by
  simp [advance, h]

theorem advance_cons_queue (position : ℕ) {num : BitVec 16} {bypass : Bool}
    (h : entry d = (d', .queue num bypass)) :
    advance (entry :: rest) position d = (d', .pending num bypass position) := by
  simp [advance, h]

theorem runFrom_of_done {outcome : Outcome}
    (h : advance (hook.drop position) position d = (d', .done outcome))
    (answers : List (BitVec 16 → Meta κ → Answer)) :
    runFrom hook position d answers = (d', outcome) := by
  cases answers <;> simp [runFrom, h]

/-- The same from the first entry on. -/
theorem runFrom_zero_of_done {outcome : Outcome} (h : advance hook 0 d = (d', .done outcome))
    (answers : List (BitVec 16 → Meta κ → Answer)) : runFrom hook 0 d answers = (d', outcome) :=
  runFrom_of_done (by rwa [List.drop_zero]) answers

section Resume

variable {hook rest : List (Entry κ)} {position : ℕ} {entry : Entry κ} {d d' : Meta κ}

theorem runFrom_of_accept (hhook : hook.drop position = entry :: rest)
    (hentry : entry d = (d', .accept)) (answers : List (BitVec 16 → Meta κ → Answer)) :
    runFrom hook position d answers = runFrom hook (position + 1) d' answers := by
  have hrest : hook.drop (position + 1) = rest := by
    rw [← List.tail_drop, hhook, List.tail_cons]
  have hstop : advance (hook.drop position) position d =
      advance (hook.drop (position + 1)) (position + 1) d' := by
    rw [hhook, hrest, advance_cons_accept rest position hentry]
  cases answers <;> simp [runFrom, hstop]

theorem runFrom_of_queue {num : BitVec 16} {bypass : Bool}
    (hhook : hook.drop position = entry :: rest) (hentry : entry d = (d', .queue num bypass))
    (answer : BitVec 16 → Meta κ → Answer) (answers : List (BitVec 16 → Meta κ → Answer)) :
    runFrom hook position d (answer :: answers) =
      match answer num d' with
      | .verdict .accept mark => runFrom hook (position + 1) (d'.withVerdictMark mark) answers
      | .verdict .repeat mark => runFrom hook position (d'.withVerdictMark mark) answers
      | .verdict .drop _ => (d', .dropped)
      | .absent => if bypass then runFrom hook (position + 1) d' answers else (d', .dropped) := by
  rw [runFrom, hhook, advance_cons_queue rest position hentry]

theorem runFrom_nil_of_queue {num : BitVec 16} {bypass : Bool}
    (hhook : hook.drop position = entry :: rest) (hentry : entry d = (d', .queue num bypass)) :
    runFrom hook position d [] = (d', .queued num) := by
  rw [runFrom, hhook, advance_cons_queue rest position hentry]

end Resume

def Verdict.outcome : Verdict → Outcome
  | .accept => .accepted
  | .drop => .dropped
  | .reject kind => .rejected kind
  | .queue num _ => .queued num

theorem advance_singleton (position : ℕ) (hfinal : ∀ num bypass, (entry d).2 ≠ .queue num bypass) :
    advance [entry] position d = ((entry d).1, .done (entry d).2.outcome) := by
  rcases hentry : entry d with ⟨d', v⟩
  cases v with
  | accept => exact advance_cons_accept [] position hentry
  | drop => exact advance_cons_drop [] position hentry
  | reject kind => exact advance_cons_reject [] position hentry
  | queue num bypass => exact absurd (by rw [hentry]) (hfinal num bypass)

theorem advance_singleton_fst (entry : Entry κ) (d : Meta κ) (position : ℕ) :
    (advance [entry] position d).1 = (entry d).1 := by
  rcases hentry : entry d with ⟨d', v⟩
  cases v <;> simp [advance, hentry]

theorem runFrom_eq_of_last (hlast : hook.drop position = [entry])
    (hfinal : ∀ num bypass, (entry d).2 ≠ .queue num bypass)
    (answers : List (BitVec 16 → Meta κ → Answer)) :
    runFrom hook position d answers = ((entry d).1, (entry d).2.outcome) :=
  runFrom_of_done (by rw [hlast, advance_singleton position hfinal]) answers

theorem runFrom_of_last (hlast : hook.drop position = [entry])
    (hfinal : ∀ num bypass, (entry d).2 ≠ .queue num bypass)
    (answers : List (BitVec 16 → Meta κ → Answer)) :
    (runFrom hook position d answers).2 = (entry d).2.outcome := by
  rw [runFrom_eq_of_last hlast hfinal]

end Netfilter
