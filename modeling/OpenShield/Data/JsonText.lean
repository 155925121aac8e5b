import OpenShield.Data.IpText

/-!
# Arrays of strings in JSON

How an array is read whose elements should be strings. Only arrays and strings are spelled out:
how far a value of another kind reaches is left to a parameter.
-/

namespace JsonText

def isSpace (c : Char) : Bool := decide (c.toNat ∈ [0x20, 0x9, 0xa, 0xd])

def skipSpace (text : List Char) : List Char := text.dropWhile isSpace

def quote : Char := Char.ofNat 0x22

def backslash : Char := Char.ofNat 0x5c

def readUnit : List Char → Option (ℕ × List Char)
  | a :: b :: c :: d :: rest => (Text.digitsValue 16 [a, b, c, d]).map fun unit => (unit, rest)
  | _ => none

def readLowSurrogate : List Char → Option (ℕ × List Char)
  | a :: b :: rest =>
    if a = backslash ∧ b = 'u' then
      (readUnit rest).filter fun unit => decide (0xdc00 ≤ unit.1 ∧ unit.1 < 0xe000)
    else none
  | _ => none

/-- The character behind `\u`. Characters beyond the basic plane are written as a pair. -/
def readUnicode (text : List Char) : Option (Char × List Char) := do
  let (unit, rest) ← readUnit text
  if 0xd800 ≤ unit ∧ unit < 0xdc00 then
    let (low, rest) ← readLowSurrogate rest
    return (Char.ofNat (0x10000 + (unit - 0xd800) * 0x400 + (low - 0xdc00)), rest)
  else if 0xdc00 ≤ unit ∧ unit < 0xe000 then none
  else return (Char.ofNat unit, rest)

def readEscape : List Char → Option (Char × List Char)
  | [] => none
  | c :: rest =>
    match c.toNat with
    | 0x22 | 0x5c | 0x2f => some (c, rest)
    | 0x62 => some (Char.ofNat 0x08, rest)
    | 0x66 => some (Char.ofNat 0x0c, rest)
    | 0x6e => some (Char.ofNat 0x0a, rest)
    | 0x72 => some (Char.ofNat 0x0d, rest)
    | 0x74 => some (Char.ofNat 0x09, rest)
    | 0x75 => readUnicode rest
    | _ => none

def readChar : List Char → Option (Char × List Char)
  | [] => none
  | c :: rest =>
    if c = backslash then readEscape rest
    else if c = quote ∨ c.toNat < 0x20 then none
    else some (c, rest)

def readChars : ℕ → List Char → Option (List Char × List Char)
  | 0, _ => none
  | fuel + 1, text =>
    if text.head? = some quote then some ([], text.tail)
    else do
      let (c, rest) ← readChar text
      let (characters, rest) ← readChars fuel rest
      return (c :: characters, rest)

section Arrays

variable (skipOther : List Char → Option (List Char))

def readValue (text : List Char) : Option (Option String × List Char) :=
  if text.head? = some quote then
    (readChars text.length text.tail).map fun (characters, rest) =>
      (some (String.ofList characters), rest)
  else (skipOther text).map fun rest => (none, rest)

def readElements : ℕ → List Char → Option (List (Option String) × List Char)
  | 0, _ => none
  | fuel + 1, text => do
    let (value, rest) ← readValue skipOther (skipSpace text)
    match skipSpace rest with
    | [] => none
    | c :: rest =>
      if c = ']' then some ([value], rest)
      else if c = ',' then do
        let (values, rest) ← readElements fuel rest
        return (value :: values, rest)
      else none

def readArray (text : List Char) : Option (List (Option String)) := do
  let inside ← Text.stripBeginning ['['] (skipSpace text)
  let (values, rest) ←
    if (skipSpace inside).head? = some ']' then some ([], (skipSpace inside).tail)
    else readElements skipOther text.length inside
  if skipSpace rest = [] then some values else none

end Arrays

/-! ### Escaped strings -/

/-- A way to write characters that reads back. -/
structure Escaping (escape : Char → List Char) : Prop where
  closed : ∀ c rest, (escape c ++ rest).head? ≠ some quote
  reads : ∀ c rest, readChar (escape c ++ rest) = some (c, rest)

variable {escape : Char → List Char}

theorem Escaping.length_le (h : Escaping escape) (characters : List Char) :
    characters.length ≤ (characters.flatMap escape).length := by
  induction characters with
  | nil => exact Nat.zero_le _
  | cons c rest ih =>
    have hpos : 0 < (escape c).length := by
      refine List.length_pos_iff.mpr fun hnil => ?_
      have hread := h.reads c []
      rw [hnil] at hread
      cases hread
    rw [List.flatMap_cons, List.length_append, List.length_cons]
    omega

theorem Escaping.readChars (h : Escaping escape) (rest : List Char) {characters : List Char}
    {fuel : ℕ} (hfuel : characters.length < fuel) :
    readChars fuel (characters.flatMap escape ++ quote :: rest) = some (characters, rest) := by
  induction characters generalizing fuel with
  | nil =>
    obtain ⟨fuel, rfl⟩ := Nat.exists_eq_succ_of_ne_zero (Nat.ne_of_gt hfuel)
    simp [JsonText.readChars]
  | cons c characters ih =>
    obtain ⟨fuel, rfl⟩ := Nat.exists_eq_succ_of_ne_zero (Nat.ne_of_gt (Nat.zero_lt_of_lt hfuel))
    have htail := ih (Nat.lt_of_succ_lt_succ hfuel)
    rw [List.flatMap_cons, List.append_assoc, JsonText.readChars, if_neg (h.closed c _), h.reads]
    simp [htail]

def written (escape : Char → List Char) (text : String) : List Char :=
  quote :: text.toList.flatMap escape ++ [quote]

variable {skipOther : List Char → Option (List Char)}

theorem Escaping.readValue (h : Escaping escape) (text : String) (rest : List Char) :
    readValue skipOther (written escape text ++ rest) = some (some text, rest) := by
  have hfuel : text.toList.length < (written escape text ++ rest).length := by
    have := h.length_le text.toList
    simp only [written, List.length_append, List.length_cons]
    omega
  have hread := h.readChars rest hfuel
  rw [JsonText.readValue, if_pos (by rfl)]
  have htail : (written escape text ++ rest).tail =
      text.toList.flatMap escape ++ quote :: rest := by
    simp [written]
  rw [htail, hread]
  simp

theorem skipSpace_of_not {c : Char} (h : isSpace c = false) (rest : List Char) :
    skipSpace (c :: rest) = c :: rest := by
  simp [skipSpace, h]

theorem Escaping.readElements (h : Escaping escape) {texts : List String} (hne : texts ≠ [])
    {fuel : ℕ} (hfuel : texts.length ≤ fuel) :
    readElements skipOther fuel ([','].intercalate (texts.map (written escape)) ++ [']']) =
      some (texts.map some, []) := by
  have hquote (text : String) (rest : List Char) :
      skipSpace (written escape text ++ rest) = written escape text ++ rest :=
    skipSpace_of_not (by decide) _
  induction texts generalizing fuel with
  | nil => exact absurd rfl hne
  | cons text texts ih =>
    obtain ⟨fuel, rfl⟩ := Nat.exists_eq_succ_of_ne_zero (Nat.ne_of_gt (Nat.zero_lt_of_lt hfuel))
    cases texts with
    | nil =>
      rw [List.map_singleton, List.intercalate_singleton, JsonText.readElements, hquote,
        h.readValue]
      simp [skipSpace_of_not (show isSpace ']' = false by decide)]
    | cons second others =>
      have htail := ih (List.cons_ne_nil _ _) (Nat.le_of_succ_le_succ hfuel)
      rw [List.map_cons, List.map_cons, List.intercalate_cons_cons, List.append_assoc,
        JsonText.readElements, List.append_assoc, hquote, h.readValue]
      rw [List.map_cons] at htail
      simp [skipSpace_of_not (show isSpace ',' = false by decide), htail]

theorem length_le_intercalate (escape : Char → List Char) (texts : List String) :
    texts.length ≤ ([','].intercalate (texts.map (written escape))).length := by
  induction texts with
  | nil => exact Nat.zero_le _
  | cons text texts ih =>
    cases texts with
    | nil => simp [written]
    | cons second others =>
      rw [List.map_cons, List.map_cons, List.intercalate_cons_cons]
      rw [List.map_cons] at ih
      simp only [List.length_append, List.length_cons, List.length_nil] at ih ⊢
      omega

def writtenArray (escape : Char → List Char) (texts : List String) : List Char :=
  '[' :: [','].intercalate (texts.map (written escape)) ++ [']']

theorem readArray_strings (h : Escaping escape) (texts : List String) :
    readArray skipOther (writtenArray escape texts) = some (texts.map some) := by
  have hopen : Text.stripBeginning ['['] (skipSpace (writtenArray escape texts)) =
      some ([','].intercalate (texts.map (written escape)) ++ [']']) := by
    rw [writtenArray, List.cons_append, skipSpace_of_not (by decide)]
    simp [Text.stripBeginning]
  unfold readArray
  rw [hopen]
  cases texts with
  | nil => rfl
  | cons text others =>
    have hfuel : (text :: others).length ≤ (writtenArray escape (text :: others)).length := by
      have := length_le_intercalate escape (text :: others)
      simp only [writtenArray, List.length_append, List.length_cons] at this ⊢
      omega
    have hread := @Escaping.readElements _ skipOther h _ (List.cons_ne_nil text others) _ hfuel
    obtain ⟨tail, htail⟩ : ∃ tail, [','].intercalate ((text :: others).map (written escape)) ++
        [']'] = quote :: tail := by
      cases others with
      | nil => exact ⟨_, rfl⟩
      | cons second others =>
        rw [List.map_cons, List.map_cons, List.intercalate_cons_cons]
        exact ⟨_, rfl⟩
    have hfirst : (skipSpace (quote :: tail)).head? ≠ some ']' := by
      rw [skipSpace_of_not (by decide)]
      exact fun hquote => absurd (Option.some.inj hquote) (by decide)
    have hend : skipSpace [] = [] := rfl
    rw [htail] at hread ⊢
    simp [hfirst, hread, hend]

end JsonText
