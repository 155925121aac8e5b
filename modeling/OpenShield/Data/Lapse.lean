import Mathlib

/-!
# Where a run goes wrong

A property that every step keeps, except for the steps that are lapses, holds along a whole run
exactly if no step of the run is a lapse.
-/

variable {σ α : Type} {step : σ → α → σ} {Sound Holds : σ → Prop} {Lapse : σ → α → Prop}

theorem foldl_holds_iff_no_lapse (hsound : ∀ s a, Sound s → Sound (step s a))
    (hstep : ∀ s a, Sound s → Holds s → (Holds (step s a) ↔ ¬Lapse s a)) {s : σ} (hs : Sound s)
    (hholds : Holds s) (actions : List α) :
    (∀ front back, actions = front ++ back → Holds (front.foldl step s)) ↔
      ∀ front a back, actions = front ++ a :: back → ¬Lapse (front.foldl step s) a := by
  induction actions generalizing s with
  | nil =>
    refine iff_of_true ?_ (by simp)
    intro front back heq
    obtain ⟨rfl, -⟩ := List.append_eq_nil_iff.mp heq.symm
    exact hholds
  | cons a rest ih =>
    constructor
    · intro hruns
      have hnext : Holds (step s a) := hruns [a] rest rfl
      have hrest := (ih (hsound s a hs) hnext).mp fun front back heq =>
        hruns (a :: front) back (by rw [heq, List.cons_append])
      intro front a' back heq
      cases front with
      | nil =>
        cases heq
        exact (hstep s a hs hholds).mp hnext
      | cons first front =>
        cases heq
        exact hrest front a' back rfl
    · intro hruns
      have hnext := (hstep s a hs hholds).mpr (hruns [] a rest rfl)
      have hrest := (ih (hsound s a hs) hnext).mpr fun front a' back heq =>
        hruns (a :: front) a' back (by rw [heq, List.cons_append])
      intro front back heq
      cases front with
      | nil => exact hholds
      | cons first front =>
        cases heq
        exact hrest front back rfl
