import Mathlib

/-!
# Search by halving

The last of a range of candidates that passes a test, found with few tests. The candidates that
pass have to come first: the search does not look at the others.
-/

/-- Halve the range `lower..upper` of candidates until it is empty. `best` is the last candidate
that passed so far. -/
def lastFit {α : Type} (fits : α → Bool) (candidate : ℕ → α) (lower upper : ℕ)
    (best : Option α) : Option α :=
  -- candidates are counted from one
  if h : 0 < lower ∧ lower ≤ upper then
    let count := lower + (upper - lower) / 2
    if fits (candidate count) then
      lastFit fits candidate (count + 1) upper (some (candidate count))
    else lastFit fits candidate lower (count - 1) best
  else best
termination_by upper + 1 - lower
decreasing_by all_goals omega

/-- If the candidates that pass come first, the last one of them is found, and the candidate
before the range if there is none. -/
theorem lastFit_spec {α : Type} {fits : α → Bool} {candidate : ℕ → α} {lower upper : ℕ}
    (best : Option α) (hlower : 0 < lower)
    (hfirst : ∀ i j, lower ≤ i → i ≤ j → j ≤ upper → fits (candidate j) = true →
      fits (candidate i) = true) :
    (∃ k, lower ≤ k ∧ k ≤ upper ∧ fits (candidate k) = true ∧
        (∀ j, k < j → j ≤ upper → fits (candidate j) = false) ∧
        lastFit fits candidate lower upper best = some (candidate k)) ∨
      (∀ k, lower ≤ k → k ≤ upper → fits (candidate k) = false) ∧
        lastFit fits candidate lower upper best = best := by
  induction lower, upper, best using lastFit.induct fits candidate with
  | case1 lower upper best h count hfits ih =>
    -- a candidate passed: the search goes on behind it
    have hcount : lower ≤ count ∧ count ≤ upper := ⟨Nat.le_add_right _ _, by omega⟩
    have hstep : lastFit fits candidate lower upper best =
        lastFit fits candidate (count + 1) upper (some (candidate count)) := by
      rw [lastFit, dif_pos h]
      exact if_pos hfits
    refine .inl ?_
    rcases ih (Nat.succ_pos _) fun i j hi hj => hfirst i j (by omega) hj with
      ⟨k, hk, hupper, hpass, hbehind, hfound⟩ | ⟨hnone, hfound⟩
    · exact ⟨k, by omega, hupper, hpass, hbehind, hstep.trans hfound⟩
    · exact ⟨count, hcount.1, hcount.2, hfits, fun j hj => hnone j hj, hstep.trans hfound⟩
  | case2 lower upper best h count hfits ih =>
    -- nothing passes from here on
    have hcount : lower ≤ count ∧ count ≤ upper := ⟨Nat.le_add_right _ _, by omega⟩
    have hstep : lastFit fits candidate lower upper best =
        lastFit fits candidate lower (count - 1) best := by
      rw [lastFit, dif_pos h]
      exact if_neg hfits
    have hafter : ∀ j, count ≤ j → j ≤ upper → fits (candidate j) = false := by
      intro j hj hupper
      by_contra hpass
      exact hfits (hfirst count j hcount.1 hj hupper (by simpa using hpass))
    rcases ih hlower fun i j hi hj hupper => hfirst i j hi hj (by omega) with
      ⟨k, hk, hupper, hpass, hbehind, hfound⟩ | ⟨hnone, hfound⟩
    · refine .inl ⟨k, hk, by omega, hpass, fun j hj hle => ?_, hstep.trans hfound⟩
      rcases Nat.lt_or_ge j count with hlt | hge
      · exact hbehind j hj (by omega)
      · exact hafter j hge hle
    · refine .inr ⟨fun k hk hle => ?_, hstep.trans hfound⟩
      rcases Nat.lt_or_ge k count with hlt | hge
      · exact hnone k hk (by omega)
      · exact hafter k hge hle
  | case3 lower upper best h =>
    refine .inr ⟨fun k hk hle => absurd ⟨hlower, Nat.le_trans hk hle⟩ h, ?_⟩
    rw [lastFit, dif_neg h]
