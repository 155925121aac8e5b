import Mathlib

/-!
# First matches and minimal matches

Two ways to pick one of several applicable items: the first one of an ordered list, and the
one with the least key. Only what the picked item has in common with every other choice is
stated here.
-/

namespace List

variable {α β : Type}

theorem find?_le_of_pairwise {r : α → α → Prop} {l : List α} {q : α → Bool} {a b : α}
    (hl : l.Pairwise r) (ha : l.find? q = some a) (hb : b ∈ l) (hq : q b = true) :
    a = b ∨ r a b := by
  induction l with
  | nil => cases hb
  | cons x rest ih =>
    obtain ⟨hx, hrest⟩ := pairwise_cons.mp hl
    rw [find?_cons] at ha
    cases hqx : q x with
    | true =>
      rw [hqx] at ha
      cases ha
      rcases mem_cons.mp hb with rfl | hb
      · exact .inl rfl
      · exact .inr (hx b hb)
    | false =>
      rw [hqx] at ha
      rcases mem_cons.mp hb with rfl | hb
      · rw [hq] at hqx
        cases hqx
      · exact ih hrest ha hb

theorem any_congr_of_mem {l : List α} {f g : α → Bool} (h : ∀ x ∈ l, f x = g x) :
    l.any f = l.any g := by
  induction l with
  | nil => rfl
  | cons x rest ih =>
    rw [any_cons, any_cons, h x mem_cons_self, ih fun y hy => h y (mem_cons_of_mem _ hy)]

theorem any_insertionSort (r : α → α → Prop) [DecidableRel r] (l : List α) (q : α → Bool) :
    (l.insertionSort r).any q = l.any q :=
  (perm_insertionSort r l).any_eq

theorem any_filter_eq (l : List α) (f q : α → Bool) :
    (l.filter f).any q = l.any fun x => f x && q x := by
  simp [any_filter]

theorem any_all_between (holds : α → Bool) (before after : List α) (alternatives : List (List α)) :
    (alternatives.any fun alternative => (before ++ alternative ++ after).all holds) =
      (before.all holds && alternatives.any (fun alternative => alternative.all holds) &&
        after.all holds) := by
  induction alternatives with
  | nil => simp
  | cons alternative rest ih =>
    rw [any_cons, ih, any_cons, all_append, all_append]
    cases before.all holds <;> cases after.all holds <;> simp

/-- A condition that does not depend on the item. -/
theorem any_and_right (l : List α) (f : α → Bool) (c : Bool) :
    (l.any fun x => f x && c) = (l.any f && c) := by
  cases c <;> simp

/-- Two kinds of matches in one scan. -/
theorem any_or_any (l : List α) (f g : α → Bool) :
    (l.any f || l.any g) = l.any fun x => f x || g x := by
  induction l with
  | nil => rfl
  | cons x rest ih =>
    simp only [any_cons, ← ih]
    ac_rfl

variable [LinearOrder β]

/-- Searching a list that was sorted by a key that identifies its elements picks the match with
the least key. -/
theorem find?_insertionSort_eq_argmin {r : α → α → Prop} [DecidableRel r] {key : α → β}
    (hr : ∀ a b, r a b ↔ key a ≤ key b) {l : List α}
    (hinj : ∀ a ∈ l, ∀ b ∈ l, key a = key b → a = b) (q : α → Bool) :
    (l.insertionSort r).find? q = (l.filter q).argmin key := by
  have : Std.Total r := ⟨fun a b => by rw [hr, hr]; exact le_total _ _⟩
  have : IsTrans α r := ⟨fun a b c => by rw [hr, hr, hr]; exact le_trans⟩
  cases hfind : (l.insertionSort r).find? q with
  | none =>
    symm
    rw [argmin_eq_none, filter_eq_nil_iff]
    intro a ha
    exact find?_eq_none.mp hfind a ((mem_insertionSort r).mpr ha)
  | some a =>
    have hmem : a ∈ l := (mem_insertionSort r).mp (mem_of_find?_eq_some hfind)
    have hqa : q a = true := find?_some hfind
    cases hmin : (l.filter q).argmin key with
    | none =>
      rw [argmin_eq_none, filter_eq_nil_iff] at hmin
      exact absurd hqa (hmin a hmem)
    | some b =>
      obtain ⟨hb, hqb⟩ := mem_filter.mp (argmin_mem (Option.mem_def.mpr hmin))
      -- each of the two is minimal, so their keys agree
      have hba : key b ≤ key a :=
        le_of_mem_argmin (mem_filter.mpr ⟨hmem, hqa⟩) (Option.mem_def.mpr hmin)
      have hab : key a ≤ key b := by
        rcases find?_le_of_pairwise (pairwise_insertionSort r l) hfind
          ((mem_insertionSort r).mpr hb) hqb with rfl | hrel
        · exact le_rfl
        · exact (hr a b).mp hrel
      rw [hinj a hmem b hb (le_antisymm hab hba)]

end List
