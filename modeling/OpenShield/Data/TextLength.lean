import OpenShield.Data.IpText

/-!
# Sizes of printed values

Bounds on the texts that numbers and addresses are printed as, and what a text needs to pass
through trimming unchanged.
-/

namespace Text

theorem utf8ByteSize_ofList_cons (c : Char) (rest : List Char) :
    (String.ofList (c :: rest)).utf8ByteSize = c.utf8Size + (String.ofList rest).utf8ByteSize := by
  have hcons : String.ofList (c :: rest) = String.singleton c ++ String.ofList rest := by
    rw [String.singleton_eq_ofList, ← String.ofList_append]
    rfl
  rw [hcons, String.utf8ByteSize_append]
  simp

theorem utf8ByteSize_ofList_of_ascii {characters : List Char}
    (h : ∀ c ∈ characters, c.val ≤ 127) :
    (String.ofList characters).utf8ByteSize = characters.length := by
  induction characters with
  | nil => rfl
  | cons c rest ih =>
    have hone : c.utf8Size = 1 := Char.utf8Size_eq_one_iff.mpr (h c List.mem_cons_self)
    rw [utf8ByteSize_ofList_cons, hone, ih fun d hd => h d (List.mem_cons_of_mem c hd),
      List.length_cons, Nat.add_comm]

theorem utf8ByteSize_of_ascii {text : String} (h : ∀ c ∈ text.toList, c.val ≤ 127) :
    text.utf8ByteSize = text.toList.length := by
  simpa using utf8ByteSize_ofList_of_ascii h

theorem trim_eq_self {text : List Char}
    (hfirst : ∀ c, text.head? = some c → isWhitespace c = false)
    (hlast : ∀ c, text.getLast? = some c → isWhitespace c = false) : trim text = text := by
  have hkeep (characters : List Char)
      (h : ∀ c, characters.head? = some c → isWhitespace c = false) :
      characters.dropWhile isWhitespace = characters := by
    cases characters with
    | nil => rfl
    | cons c rest => simp [h c rfl]
  rw [trim, hkeep text hfirst, hkeep text.reverse (by simpa using hlast), List.reverse_reverse]

theorem length_intercalate_le {separator : Char} {words : List (List Char)} {bound : ℕ}
    (h : ∀ word ∈ words, word.length ≤ bound) :
    ([separator].intercalate words).length ≤ words.length * (bound + 1) := by
  induction words with
  | nil => simp [List.intercalate]
  | cons word rest ih =>
    have hword := h word List.mem_cons_self
    have hrest := ih fun other hother => h other (List.mem_cons_of_mem word hother)
    rw [List.length_cons, Nat.succ_mul]
    cases rest with
    | nil =>
      rw [List.intercalate_singleton]
      omega
    | cons second others =>
      rw [List.intercalate_cons_cons, List.length_append, List.length_append,
        List.length_singleton]
      omega

theorem length_toDigits_map_le {radix digits : ℕ} (hradix : 1 < radix) (hdigits : 0 < digits)
    {numbers : List ℕ} (h : ∀ n ∈ numbers, n < radix ^ digits) :
    ∀ word ∈ numbers.map (Nat.toDigits radix), word.length ≤ digits := by
  intro word hword
  obtain ⟨n, hn, rfl⟩ := List.mem_map.mp hword
  exact (Nat.length_toDigits_le_iff hradix hdigits).mpr (h n hn)

end Text

namespace IpAddr

theorem length_displayV4_le (addr : BitVec 32) : (displayV4 addr).toList.length ≤ 16 := by
  have hsmall : ∀ n ∈ octets addr, n < 10 ^ 3 := by
    intro n hn
    obtain ⟨shift, -, rfl⟩ := List.mem_map.mp hn
    omega
  rw [toList_displayV4]
  exact Text.length_intercalate_le (Text.length_toDigits_map_le (by omega) (by omega) hsmall)

theorem length_groupsText_le {groups : List ℕ} (h : ∀ n ∈ groups, n < 16 ^ 4) :
    (groupsText groups).length ≤ groups.length * 5 := by
  have hwords := Text.length_toDigits_map_le (by omega) (by omega) h
  have hjoined := @Text.length_intercalate_le ':' _ _ hwords
  rwa [List.length_map] at hjoined

theorem length_displayV6_le (addr : BitVec 128) : (displayV6 addr).toList.length ≤ 42 := by
  have hsmall : ∀ n ∈ segments addr, n < 16 ^ 4 := by
    intro n hn
    obtain ⟨shift, -, rfl⟩ := List.mem_map.mp hn
    omega
  by_cases hmapped : IsMapped addr
  · have hdotted := length_displayV4_le (addr.setWidth 32)
    have hlead : "::ffff:".toList.length = 7 := by decide
    rw [toList_displayV6_mapped hmapped, List.length_append]
    omega
  · rw [toList_displayV6 hmapped]
    generalize longestZeroRun (segments addr) = run
    have hlength := length_segments addr
    split
    · -- at most all eight groups are written, on the two sides of the elided run
      have hfront : (groupsText ((segments addr).take run.1)).length ≤ _ :=
        length_groupsText_le fun n hn => hsmall n (List.mem_of_mem_take hn)
      have hback : (groupsText ((segments addr).drop (run.1 + run.2))).length ≤ _ :=
        length_groupsText_le fun n hn => hsmall n (List.mem_of_mem_drop hn)
      rw [List.length_take, hlength] at hfront
      rw [List.length_drop, hlength] at hback
      simp only [List.length_append, List.length_cons]
      omega
    · have hall := length_groupsText_le hsmall
      omega

/-- No address needs more than 42 characters. -/
theorem length_display_le (addr : IpAddr) : addr.display.toList.length ≤ 42 := by
  cases addr with
  | v4 addr => exact Nat.le_trans (length_displayV4_le addr) (by omega)
  | v6 addr => exact length_displayV6_le addr

end IpAddr
