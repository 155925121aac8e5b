import Mathlib

/-!
# Rule chains

The control flow that packet filters share: a chain is a list of rules, each rule may change
the mutable data of the packet, and the first rule that reaches a verdict ends the chain.

Rules are an arbitrary type `ρ` with an execution function, so the same lemmas serve every
rule language.
-/

namespace Netfilter

/-- One transformation of the packet data `σ`, possibly with a verdict `ν`. -/
abbrev Step (σ ν : Type) := σ → σ × Option ν

variable {σ ν ρ α : Type}

def Step.skip : Step σ ν := fun s => (s, none)

/-- Continue with `g` unless `f` reaches a verdict. -/
def Step.andThen (f g : Step σ ν) : Step σ ν := fun s =>
  match f s with
  | (s', some v) => (s', some v)
  | (s', none) => g s'

def run (exec : ρ → Step σ ν) : List ρ → Step σ ν
  | [] => Step.skip
  | r :: rest => (exec r).andThen (run exec rest)

def decided (x : σ × ν) : σ × Option ν := (x.1, some x.2)

variable {s s' : σ} {a : List ρ} {exec : ρ → Step σ ν} {c : Bool} {x : σ × ν} {result : α → σ × ν}
  {applies : α → Bool} {items : List α} {rule : α → ρ}

theorem Step.andThen_of_some {f : Step σ ν} (g : Step σ ν) {v : ν} (h : f s = (s', some v)) :
    f.andThen g s = (s', some v) := by
  simp [Step.andThen, h]

theorem Step.andThen_of_none {f : Step σ ν} (g : Step σ ν) (h : f s = (s', none)) :
    f.andThen g s = g s' := by
  simp [Step.andThen, h]

@[simp]
theorem run_nil (exec : ρ → Step σ ν) (s : σ) : run exec [] s = (s, none) := rfl

@[simp]
theorem run_cons (exec : ρ → Step σ ν) (r : ρ) (rest : List ρ) (s : σ) :
    run exec (r :: rest) s = (exec r).andThen (run exec rest) s := rfl

/-- A chain is the sequence of its parts. -/
theorem run_append (exec : ρ → Step σ ν) (a b : List ρ) (s : σ) :
    run exec (a ++ b) s = (run exec a).andThen (run exec b) s := by
  induction a generalizing s with
  | nil => rfl
  | cons r rest ih =>
    simp only [List.cons_append, run_cons, Step.andThen]
    rcases hr : exec r s with ⟨s', _ | v⟩
    · simpa only [Step.andThen] using ih s'
    · rfl

theorem run_append_of_some (b : List ρ) {v : ν} (h : run exec a s = (s', some v)) :
    run exec (a ++ b) s = (s', some v) := by
  rw [run_append, Step.andThen_of_some _ h]

/-- A prefix without a verdict leaves the decision to the rest of the chain. -/
theorem run_append_of_none (b : List ρ) (h : run exec a s = (s', none)) :
    run exec (a ++ b) s = run exec b s' := by
  rw [run_append, Step.andThen_of_none _ h]

theorem run_append_guard (b : List ρ) (h : run exec a s = if c then decided x else (s', none)) :
    run exec (a ++ b) s = if c then decided x else run exec b s' := by
  cases c with
  | true => exact run_append_of_some b h
  | false => exact run_append_of_none b h

/-- The same for a single rule. -/
theorem run_cons_guard {r : ρ} (rest : List ρ) (h : exec r s =
  if c then decided x else (s', none)) :
    run exec (r :: rest) s = if c then decided x else run exec rest s' := by
  cases c with
  | true => exact Step.andThen_of_some _ h
  | false => exact Step.andThen_of_none _ h

theorem ite_ite_same {β : Type} (a b : Bool) (x y : β) :
    (if a then x else if b then x else y) = if a || b then x else y := by
  cases a <;> rfl

theorem run_append_elim (b : List ρ) {o : Option α}
    (h : run exec a s = o.elim (s, none) fun x => decided (result x)) :
    run exec (a ++ b) s = o.elim (run exec b s) fun x => decided (result x) := by
  cases o with
  | none => exact run_append_of_none b h
  | some x => exact run_append_of_some b h

theorem run_optional {P : Prop} [Decidable P]
    (h : P → run exec a s = if c then decided x else (s, none)) :
    run exec (if P then a else []) s = if decide P && c then decided x else (s, none) := by
  by_cases hP : P
  · simp [hP, h]
  · simp [hP]

/-- Rules generated per item are decided by the first item that applies, provided the rules of
the other items are skipped. -/
theorem run_flatMap_eq_find? {rules : α → List ρ}
    (h : ∀ x ∈ items, run exec (rules x) s = if applies x then decided (result x) else (s, none)) :
    run exec (items.flatMap rules) s =
      (items.find? applies).elim (s, none) fun x => decided (result x) := by
  induction items with
  | nil => rfl
  | cons x rest ih =>
    rw [List.flatMap_cons, run_append_guard _ (h x List.mem_cons_self), List.find?_cons]
    cases applies x with
    | true => rfl
    | false => exact ih fun y hy => h y (List.mem_cons_of_mem _ hy)

theorem run_flatMap_eq_any {rules : α → List ρ} {result : σ × ν}
    (h : ∀ x ∈ items, run exec (rules x) s = if applies x then decided result else (s, none)) :
    run exec (items.flatMap rules) s =
      if items.any applies then decided result else (s, none) := by
  induction items with
  | nil => rfl
  | cons x rest ih =>
    rw [List.flatMap_cons, run_append_guard _ (h x List.mem_cons_self), List.any_cons]
    cases applies x with
    | true => rfl
    | false => exact ih fun y hy => h y (List.mem_cons_of_mem _ hy)

/-- A chain of one rule. -/
theorem run_singleton (exec : ρ → Step σ ν) (r : ρ) (s : σ) : run exec [r] s = exec r s := by
  rw [run_cons, Step.andThen]
  rcases exec r s with ⟨s', _ | v⟩ <;> rfl

theorem run_map_eq_find?
    (h : ∀ x ∈ items, exec (rule x) s = if applies x then decided (result x) else (s, none)) :
    run exec (items.map rule) s =
      (items.find? applies).elim (s, none) fun x => decided (result x) := by
  rw [List.map_eq_flatMap]
  exact run_flatMap_eq_find? fun x hx => by rw [run_singleton, h x hx]

theorem run_map_eq_any {result : σ × ν}
    (h : ∀ x ∈ items, exec (rule x) s = if applies x then decided result else (s, none)) :
    run exec (items.map rule) s = if items.any applies then decided result else (s, none) := by
  rw [List.map_eq_flatMap]
  exact run_flatMap_eq_any fun x hx => by rw [run_singleton, h x hx]

theorem run_map_eq_update {update : σ → σ} (hidem : ∀ s, update (update s) = update s)
    (h : ∀ x ∈ items, ∀ s, exec (rule x) s = (if applies x then update s else s, none)) (s : σ) :
    run exec (items.map rule) s = (if items.any applies then update s else s, none) := by
  induction items generalizing s with
  | nil => rfl
  | cons x rest ih =>
    rw [List.map_cons, run_cons, Step.andThen_of_none _ (h x List.mem_cons_self s),
      ih fun y hy => h y (List.mem_cons_of_mem _ hy), List.any_cons]
    cases applies x with
    | true => simp [hidem]
    | false => simp

end Netfilter
