import Mathlib

/-!
# Commands that change a state and may fail

A command runs on a state, returns a value or an error, and leaves a state behind in either
case. What it left behind after an error is the subject of its specification as much as what it
returns: a triple has a postcondition for each of the two ways to end.
-/

/-- A computation on a state that may fail. The state survives an error. -/
abbrev Command (σ ε α : Type) := ExceptT ε (StateM σ) α

namespace Command

variable {σ ε α β : Type}

def exec (command : Command σ ε α) (s : σ) : Except ε α × σ := (ExceptT.run command).run s

def attempt (command : Command σ ε α) : Command σ ε (Except ε α) :=
  ExceptT.mk (Except.ok <$> ExceptT.run command)

def ofExcept {δ : Type} (f : δ → ε) : Except δ α → Command σ ε α
  | .ok a => pure a
  | .error e => throw (f e)

@[simp]
theorem exec_pure (a : α) (s : σ) : (pure a : Command σ ε α).exec s = (.ok a, s) := rfl

@[simp]
theorem exec_throw (e : ε) (s : σ) : (throw e : Command σ ε α).exec s = (.error e, s) := rfl

@[simp]
theorem exec_get (s : σ) : (get : Command σ ε σ).exec s = (.ok s, s) := rfl

@[simp]
theorem exec_set (s s' : σ) : (set s' : Command σ ε PUnit).exec s = (.ok ⟨⟩, s') := rfl

theorem exec_bind (command : Command σ ε α) (next : α → Command σ ε β) (s : σ) :
    (command >>= next).exec s =
      match command.exec s with
      | (.ok a, s') => (next a).exec s'
      | (.error e, s') => (.error e, s') := by
  rcases h : (ExceptT.run command).run s with ⟨r, s'⟩
  cases r with
  | ok a =>
    simp only [exec, ExceptT.run_bind, StateT.run_bind, h]
    rfl
  | error e =>
    simp only [exec, ExceptT.run_bind, StateT.run_bind, h]
    rfl

/-- A sequence whose first part returns. -/
theorem exec_bind_ok {command : Command σ ε α} {next : α → Command σ ε β} {s s' : σ} {a : α}
    (h : command.exec s = (.ok a, s')) : (command >>= next).exec s = (next a).exec s' := by
  rw [exec_bind, h]

theorem exec_attempt (command : Command σ ε α) (s : σ) :
    command.attempt.exec s = (.ok (command.exec s).1, (command.exec s).2) := rfl

/-- From a state with `pre`, the command ends in `ok` if it returns and in `err` if it
fails. -/
def Triple (pre : σ → Prop) (command : Command σ ε α) (ok : α → σ → Prop)
    (err : ε → σ → Prop) : Prop :=
  ∀ s, pre s → match command.exec s with
    | (.ok a, s') => ok a s'
    | (.error e, s') => err e s'

namespace Triple

variable {pre pre' : σ → Prop} {ok : α → σ → Prop} {err : ε → σ → Prop}
  {command : Command σ ε α}

theorem of_ok (h : Triple pre command ok err) {s s' : σ} {a : α} (hs : pre s)
    (hrun : command.exec s = (.ok a, s')) : ok a s' := by
  have hpost := h s hs
  rwa [hrun] at hpost

theorem of_error (h : Triple pre command ok err) {s s' : σ} {e : ε} (hs : pre s)
    (hrun : command.exec s = (.error e, s')) : err e s' := by
  have hpost := h s hs
  rwa [hrun] at hpost

theorem assuming {p : Prop} (h : p → Triple pre command ok err) :
    Triple (fun s => pre s ∧ p) command ok err :=
  fun s hs => h hs.2 s hs.1

/-- A value is returned in the state it is met in. -/
theorem pure {a : α} (h : ∀ s, pre s → ok a s) :
    Triple pre (Pure.pure a : Command σ ε α) ok err := h

/-- An error is raised in the state it is met in. -/
theorem throw {e : ε} (h : ∀ s, pre s → err e s) :
    Triple pre (MonadExcept.throw e : Command σ ε α) ok err := h

theorem mono {ok' : α → σ → Prop} {err' : ε → σ → Prop} (h : Triple pre command ok err)
    (hpre : ∀ s, pre' s → pre s) (hok : ∀ a s, ok a s → ok' a s)
    (herr : ∀ e s, err e s → err' e s) : Triple pre' command ok' err' := by
  intro s hs
  have hpost := h s (hpre s hs)
  rcases hrun : command.exec s with ⟨r, s'⟩
  rw [hrun] at hpost
  cases r with
  | ok a => exact hok a s' hpost
  | error e => exact herr e s' hpost

/-- The second part of a sequence starts where the first part returns. -/
theorem bind {mid : α → σ → Prop} {ok : β → σ → Prop} {next : α → Command σ ε β}
    (hfirst : Triple pre command mid err) (hnext : ∀ a, Triple (mid a) (next a) ok err) :
    Triple pre (command >>= next) ok err := by
  intro s hs
  have hpost := hfirst s hs
  rw [exec_bind]
  rcases hrun : command.exec s with ⟨r, s'⟩
  rw [hrun] at hpost
  cases r with
  | ok a => exact hnext a s' hpost
  | error e => exact hpost

theorem attempt (h : Triple pre command ok err) :
    Triple pre command.attempt
      (fun r s => match r with | .ok a => ok a s | .error e => err e s) (fun _ _ => False) := by
  intro s hs
  have hpost := h s hs
  rw [exec_attempt]
  rcases hrun : command.exec s with ⟨r, s'⟩
  rw [hrun] at hpost
  cases r with
  | ok a => exact hpost
  | error e => exact hpost

/-- A pure computation leaves the state alone. -/
theorem ofExcept {δ : Type} {f : δ → ε} {x : Except δ α} (hok : ∀ a s, x = .ok a → pre s → ok a s)
    (herr : ∀ e s, pre s → err e s) : Triple pre (Command.ofExcept f x) ok err := by
  cases x with
  | ok a => exact pure fun s hs => hok a s rfl hs
  | error e => exact throw fun s hs => herr (f e) s hs

/-- A branch is taken in the state it is met in. -/
theorem ite {c : Prop} [Decidable c] {yes no : Command σ ε α}
    (hyes : c → Triple pre yes ok err) (hno : ¬ c → Triple pre no ok err) :
    Triple pre (if c then yes else no) ok err := by
  split
  · next h => exact hyes h
  · next h => exact hno h

/-- A loop keeps what each of its rounds keeps. -/
theorem forM {items : List β} {body : β → Command σ ε PUnit}
    (h : ∀ item ∈ items, Triple pre (body item) (fun _ => pre) err) :
    Triple pre (items.forM body) (fun _ => pre) err := by
  induction items with
  | nil => exact pure fun _ hs => hs
  | cons item rest ih =>
    exact bind (h item (by simp)) fun _ => ih fun item' hmem => h item' (by simp [hmem])

end Triple

end Command
