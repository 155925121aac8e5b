import OpenShield.Data.Text

/-!
# Addresses as text

The text of an address is a word of hexadecimal digits, dots and colons.
-/

namespace Text

variable {radix : ℕ}

def hexCharacters : List Char := "0123456789abcdef".toList

theorem digitChar_mem {d : ℕ} (hd : d < 16) : Nat.digitChar d ∈ hexCharacters := by
  revert d
  decide

theorem toDigits_of_le {n : ℕ} (hradix : 1 < radix) (hn : radix ≤ n) :
    Nat.toDigits radix n = Nat.toDigits radix (n / radix) ++ [Nat.digitChar (n % radix)] := by
  have hquotient : 0 < n / radix := Nat.div_pos hn (by omega)
  have hlast := Nat.mod_lt n (show 0 < radix by omega)
  have hsplit := Nat.toDigits_append_toDigits hradix hquotient hlast
  rw [Nat.toDigits_of_lt_base hlast, Nat.div_add_mod] at hsplit
  exact hsplit.symm

theorem mem_hexCharacters_of_mem_toDigits (hradix : 1 < radix) (h16 : radix ≤ 16) (n : ℕ) :
    ∀ c ∈ Nat.toDigits radix n, c ∈ hexCharacters := by
  induction n using Nat.strong_induction_on with
  | _ n ih =>
    intro c hc
    by_cases hn : n < radix
    · rw [Nat.toDigits_of_lt_base hn, List.mem_singleton] at hc
      rw [hc]
      exact digitChar_mem (by omega)
    · rw [toDigits_of_le hradix (by omega), List.mem_append, List.mem_singleton] at hc
      rcases hc with hfront | rfl
      · exact ih _ (Nat.div_lt_self (by omega) hradix) c hfront
      · exact digitChar_mem (by have := Nat.mod_lt n (show 0 < radix by omega); omega)

theorem digitValue_digitChar {d : ℕ} (hd : d < radix) (hradix : radix ≤ 16) :
    digitValue radix (Nat.digitChar d) = some d := by
  have hvalue : ∀ d < 16, hexDigitValue (Nat.digitChar d) = some d := by decide
  simp [digitValue, hvalue d (by omega), hd]

/-- A written number reads back. -/
theorem digitsValue_toDigits (hradix : 1 < radix) (h16 : radix ≤ 16) (n : ℕ) :
    digitsValue radix (Nat.toDigits radix n) = some n := by
  induction n using Nat.strong_induction_on with
  | _ n ih =>
    by_cases hn : n < radix
    · rw [Nat.toDigits_of_lt_base hn]
      simp [digitsValue, digitValue_digitChar hn h16]
    · have hlast := Nat.mod_lt n (show 0 < radix by omega)
      have hfront := ih _ (Nat.div_lt_self (by omega) hradix)
      rw [digitsValue] at hfront
      rw [toDigits_of_le hradix (by omega), digitsValue, List.foldlM_append, hfront]
      simp [digitValue_digitChar hlast h16, Nat.div_add_mod']

theorem digitsValue_zeros (hradix : 0 < radix) (count : ℕ) (digits : List Char) :
    digitsValue radix (List.replicate count '0' ++ digits) = digitsValue radix digits := by
  have hzero : digitValue radix '0' = some 0 := by
    have hvalue : hexDigitValue '0' = some 0 := by decide
    simp [digitValue, hvalue, hradix]
  induction count with
  | zero => rfl
  | succ count ih =>
    rw [← ih]
    simp [digitsValue, List.replicate_succ, hzero]

theorem parseUnsigned_toDigits {bound n : ℕ} (hradix : 1 < radix) (h16 : radix ≤ 16)
    (hn : n < bound) : parseUnsigned radix bound (Nat.toDigits radix n) = some n := by
  have hplus : stripPlus (Nat.toDigits radix n) = Nat.toDigits radix n := by
    cases hdigits : Nat.toDigits radix n with
    | nil => rfl
    | cons c rest =>
      refine if_neg fun hc => ?_
      have hmem := mem_hexCharacters_of_mem_toDigits hradix h16 n c (by simp [hdigits])
      rw [hc] at hmem
      exact absurd hmem (by decide)
  rw [parseUnsigned, hplus, if_neg Nat.toDigits_ne_nil, digitsValue_toDigits hradix h16]
  simp [hn]

theorem toList_toString (n : ℕ) : (toString n).toList = Nat.toDigits 10 n := by
  change (Nat.repr n).toList = _
  simp [Nat.repr]

theorem toList_hex (n : ℕ) : (hex n).toList = Nat.toDigits 16 n := by
  simp [hex]

end Text

namespace IpAddr

open Text

/-! ### IPv4 -/

def octets (addr : BitVec 32) : List ℕ :=
  [24, 16, 8, 0].map fun shift => (addr >>> shift).toNat % 256

theorem toList_displayV4 (addr : BitVec 32) :
    (displayV4 addr).toList = ['.'].intercalate ((octets addr).map (Nat.toDigits 10)) := by
  simp [displayV4, octets]

/-! ### IPv6 -/

theorem length_segments (addr : BitVec 128) : (segments addr).length = 8 := rfl

def groupsText (groups : List ℕ) : List Char :=
  [':'].intercalate (groups.map (Nat.toDigits 16))

theorem intercalate_append (c : Char) {front back : List (List Char)} (hfront : front ≠ [])
    (hback : back ≠ []) :
    [c].intercalate (front ++ back) = [c].intercalate front ++ c :: [c].intercalate back := by
  induction front with
  | nil => exact absurd rfl hfront
  | cons word rest ih =>
    cases rest with
    | nil =>
      obtain ⟨first, others, rfl⟩ := List.exists_cons_of_ne_nil hback
      simp [List.intercalate, List.intersperse]
    | cons second others =>
      have htail := ih (by simp)
      simp only [List.intercalate, List.cons_append, List.intersperse, List.flatten_cons] at htail ⊢
      simp [htail]

/-! ### Texts of addresses -/

def IsMapped (addr : BitVec 128) : Prop := (segments addr).take 6 = [0, 0, 0, 0, 0, 0xffff]

theorem toList_displayV6_mapped {addr : BitVec 128} (h : IsMapped addr) :
    (displayV6 addr).toList = "::ffff:".toList ++ (displayV4 (addr.setWidth 32)).toList := by
  unfold IsMapped at h
  simp only [displayV6]
  rw [if_pos h, String.toList_append]

theorem toList_intercalate_hex (groups : List ℕ) :
    (String.intercalate ":" (groups.map Text.hex)).toList = groupsText groups := by
  simp only [String.toList_intercalate, List.map_map, groupsText]
  congr 1
  exact List.map_congr_left fun n _ => toList_hex n

theorem toList_displayV6 {addr : BitVec 128} (h : ¬ IsMapped addr) :
    (displayV6 addr).toList =
      if 1 < (longestZeroRun (segments addr)).2 then
        groupsText ((segments addr).take (longestZeroRun (segments addr)).1) ++
          ':' :: ':' :: groupsText ((segments addr).drop
            ((longestZeroRun (segments addr)).1 + (longestZeroRun (segments addr)).2))
      else groupsText (segments addr) := by
  unfold IsMapped at h
  simp only [displayV6]
  rw [if_neg h]
  split
  · simp only [String.toList_append, toList_intercalate_hex]
    simp
  · exact toList_intercalate_hex _

theorem mem_intercalate {separator : Char} {words : List (List Char)} {c : Char}
    (h : c ∈ [separator].intercalate words) : c = separator ∨ ∃ word ∈ words, c ∈ word := by
  induction words with
  | nil => simp [List.intercalate] at h
  | cons word rest ih =>
    cases rest with
    | nil =>
      simp only [List.intercalate_singleton] at h
      exact .inr ⟨word, by simp, h⟩
    | cons second others =>
      have hjoin := @intercalate_append separator [word] (second :: others) (by simp) (by simp)
      rw [List.singleton_append] at hjoin
      simp only [hjoin, List.intercalate_singleton, List.mem_append, List.mem_cons] at h
      rcases h with h | rfl | h
      · exact .inr ⟨word, by simp, h⟩
      · exact .inl rfl
      · rcases ih h with heq | ⟨other, hmem, hc⟩
        · exact .inl heq
        · exact .inr ⟨other, List.mem_cons_of_mem _ hmem, hc⟩

def addressCharacters : List Char := hexCharacters ++ ['.', ':']

theorem mem_of_mem_displayV4 {addr : BitVec 32} {c : Char} (h : c ∈ (displayV4 addr).toList) :
    c ∈ hexCharacters ++ ['.'] := by
  rw [toList_displayV4] at h
  rcases mem_intercalate h with rfl | ⟨word, hmem, hc⟩
  · decide
  · obtain ⟨n, _, rfl⟩ := List.mem_map.mp hmem
    exact List.mem_append_left _ (mem_hexCharacters_of_mem_toDigits (by omega) (by omega) n c hc)

theorem mem_of_mem_groupsText {groups : List ℕ} {c : Char} (h : c ∈ groupsText groups) :
    c ∈ hexCharacters ++ [':'] := by
  rcases mem_intercalate h with rfl | ⟨word, hmem, hc⟩
  · decide
  · obtain ⟨n, _, rfl⟩ := List.mem_map.mp hmem
    exact List.mem_append_left _ (mem_hexCharacters_of_mem_toDigits (by omega) (by omega) n c hc)

theorem mem_of_mem_displayV6 {addr : BitVec 128} (hmapped : ¬ IsMapped addr) {c : Char}
    (h : c ∈ (displayV6 addr).toList) : c ∈ hexCharacters ++ [':'] := by
  have hcolon : ':' ∈ hexCharacters ++ [':'] := by decide
  rw [toList_displayV6 hmapped] at h
  split at h
  · rw [List.mem_append, List.mem_cons, List.mem_cons] at h
    rcases h with h | rfl | rfl | h
    · exact mem_of_mem_groupsText h
    · exact hcolon
    · exact hcolon
    · exact mem_of_mem_groupsText h
  · exact mem_of_mem_groupsText h

theorem dot_mem_displayV6 {addr : BitVec 128} (h : IsMapped addr) :
    '.' ∈ (displayV6 addr).toList := by
  rw [toList_displayV6_mapped h, toList_displayV4]
  simp [octets, List.intercalate]

theorem display_characters (addr : IpAddr) {c : Char} (h : c ∈ addr.display.toList) :
    c ∈ addressCharacters := by
  have hdots : ∀ c ∈ hexCharacters ++ ['.'], c ∈ addressCharacters :=
    List.all_iff_forall_prop.mp (by decide)
  have hcolons : ∀ c ∈ hexCharacters ++ [':'], c ∈ addressCharacters :=
    List.all_iff_forall_prop.mp (by decide)
  cases addr with
  | v4 addr => exact hdots c (mem_of_mem_displayV4 h)
  | v6 addr =>
    by_cases hmapped : IsMapped addr
    · change c ∈ (displayV6 addr).toList at h
      rw [toList_displayV6_mapped hmapped, List.mem_append] at h
      rcases h with h | h
      · exact List.all_iff_forall_prop.mp (by decide) c h
      · exact hdots c (mem_of_mem_displayV4 h)
    · exact hcolons c (mem_of_mem_displayV6 hmapped h)

theorem display_ne_nil (addr : IpAddr) : addr.display.toList ≠ [] := by
  intro h
  cases addr with
  | v4 addr =>
    change (displayV4 addr).toList = [] at h
    rw [toList_displayV4] at h
    simp [octets, List.intercalate] at h
  | v6 addr =>
    change (displayV6 addr).toList = [] at h
    by_cases hmapped : IsMapped addr
    · have hdot := dot_mem_displayV6 hmapped
      rw [h] at hdot
      cases hdot
    · have hcolon : ':' ∈ (displayV6 addr).toList := by
        rw [toList_displayV6 hmapped]
        split
        · simp
        · simp [groupsText, segments, List.intercalate]
      rw [h] at hcolon
      cases hcolon

end IpAddr
