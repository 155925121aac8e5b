import OpenShield.Data.TextLength

/-!
# Compact JSON

How a serializer without white space writes values, and how many bytes it needs. A value is
represented by its text.
-/

namespace CompactJson

open Text

def quote : Char := Char.ofNat 0x22

def escape (c : Char) : List Char :=
  let backslash := Char.ofNat 0x5c
  match c.toNat with
  | 0x22 | 0x5c => [backslash, c]
  | 0x08 => [backslash, 'b']
  | 0x09 => [backslash, 't']
  | 0x0a => [backslash, 'n']
  | 0x0c => [backslash, 'f']
  | 0x0d => [backslash, 'r']
  | code =>
    if code < 0x20 then
      [backslash, 'u', '0', '0', Nat.digitChar (code / 16), Nat.digitChar (code % 16)]
    else [c]

def string (text : String) : String :=
  String.ofList (quote :: text.toList.flatMap escape ++ [quote])

def nullable : Option String → String
  | none => "null"
  | some value => value

def boolean (b : Bool) : String := if b then "true" else "false"

def array (items : List String) : String := "[" ++ String.intercalate "," items ++ "]"

def member (key value : String) : String := string key ++ ":" ++ value

def object (members : List (String × String)) : String :=
  "\x7b" ++ String.intercalate "," (members.map fun m => member m.1 m.2) ++ "\x7d"

/-! ### Sizes -/

theorem utf8ByteSize_ofList_append (front back : List Char) :
    (String.ofList (front ++ back)).utf8ByteSize =
      (String.ofList front).utf8ByteSize + (String.ofList back).utf8ByteSize := by
  rw [String.ofList_append, String.utf8ByteSize_append]

theorem utf8ByteSize_string (text : String) :
    (string text).utf8ByteSize =
      (String.ofList (text.toList.flatMap escape)).utf8ByteSize + 2 := by
  have hquote : quote.utf8Size = 1 := by decide
  rw [string, List.cons_append, utf8ByteSize_ofList_cons, utf8ByteSize_ofList_append,
    utf8ByteSize_ofList_cons, hquote]
  have hempty : (String.ofList []).utf8ByteSize = 0 := rfl
  omega

theorem utf8ByteSize_string_of_plain {text : String}
    (h : ∀ c ∈ text.toList, escape c = [c]) : (string text).utf8ByteSize = text.utf8ByteSize + 2 := by
  have hsame : text.toList.flatMap escape = text.toList := by
    generalize text.toList = characters at h
    induction characters with
    | nil => rfl
    | cons c rest ih =>
      rw [List.flatMap_cons, h c List.mem_cons_self,
        ih fun d hd => h d (List.mem_cons_of_mem c hd)]
      rfl
  rw [utf8ByteSize_string, hsame, String.ofList_toList]

theorem utf8ByteSize_escape_le (c : Char) :
    (String.ofList (escape c)).utf8ByteSize ≤ 6 * c.utf8Size := by
  have hpos : 0 < c.utf8Size := Char.utf8Size_pos c
  have hshort (characters : List Char) (hascii : ∀ d ∈ characters, d.val ≤ 127)
      (hlength : characters.length ≤ 6) :
      (String.ofList characters).utf8ByteSize ≤ 6 * c.utf8Size := by
    rw [utf8ByteSize_ofList_of_ascii hascii]
    omega
  have hdigit (d : ℕ) (hd : d < 16) : (Nat.digitChar d).val ≤ 127 :=
    (List.all_iff_forall_prop.mp (by decide) : ∀ e ∈ hexCharacters, e.val ≤ 127) _ (digitChar_mem hd)
  have hsmall (code : ℕ) (hcode : c.toNat = code) (hlt : code ≤ 127) : c.val ≤ 127 := by
    rw [UInt32.le_iff_toNat_le]
    exact Nat.le_trans (Nat.le_of_eq hcode) hlt
  unfold escape
  dsimp only
  split
  · exact hshort _ (by simp [hsmall _ ‹_› (by omega)]) (by simp)
  · exact hshort _ (by simp [hsmall _ ‹_› (by omega)]) (by simp)
  · exact hshort _ (List.all_iff_forall_prop.mp (by decide)) (by simp)
  · exact hshort _ (List.all_iff_forall_prop.mp (by decide)) (by simp)
  · exact hshort _ (List.all_iff_forall_prop.mp (by decide)) (by simp)
  · exact hshort _ (List.all_iff_forall_prop.mp (by decide)) (by simp)
  · exact hshort _ (List.all_iff_forall_prop.mp (by decide)) (by simp)
  · split_ifs with hcontrol
    · refine hshort _ (fun d hd => ?_) (by simp)
      simp only [List.mem_cons, List.not_mem_nil, or_false] at hd
      rcases hd with rfl | rfl | rfl | rfl | rfl | rfl
      · decide
      · decide
      · decide
      · decide
      · exact hdigit _ (by omega)
      · exact hdigit _ (by omega)
    · rw [utf8ByteSize_ofList_cons]
      have hempty : (String.ofList []).utf8ByteSize = 0 := rfl
      omega

theorem utf8ByteSize_string_le_mul {text : String} {k : ℕ}
    (h : ∀ c ∈ text.toList, (String.ofList (escape c)).utf8ByteSize ≤ k * c.utf8Size) :
    (string text).utf8ByteSize ≤ k * text.utf8ByteSize + 2 := by
  have hlist (characters : List Char)
      (h : ∀ c ∈ characters, (String.ofList (escape c)).utf8ByteSize ≤ k * c.utf8Size) :
      (String.ofList (characters.flatMap escape)).utf8ByteSize ≤
        k * (String.ofList characters).utf8ByteSize := by
    induction characters with
    | nil => exact Nat.zero_le _
    | cons c rest ih =>
      have hc := h c List.mem_cons_self
      have hrest := ih fun d hd => h d (List.mem_cons_of_mem c hd)
      rw [List.flatMap_cons, utf8ByteSize_ofList_append, utf8ByteSize_ofList_cons, Nat.mul_add]
      omega
  have htext := hlist text.toList h
  rw [String.ofList_toList] at htext
  rw [utf8ByteSize_string]
  omega

theorem utf8ByteSize_string_le (text : String) :
    (string text).utf8ByteSize ≤ 6 * text.utf8ByteSize + 2 :=
  utf8ByteSize_string_le_mul fun c _ => utf8ByteSize_escape_le c

theorem utf8ByteSize_string_le_double {text : String} (h : ∀ c ∈ text.toList, 0x20 ≤ c.toNat) :
    (string text).utf8ByteSize ≤ 2 * text.utf8ByteSize + 2 := by
  refine utf8ByteSize_string_le_mul fun c hc => ?_
  have hcode := h c hc
  have hpos : 0 < c.utf8Size := Char.utf8Size_pos c
  have hempty : (String.ofList []).utf8ByteSize = 0 := rfl
  have hbackslash : (Char.ofNat 0x5c).utf8Size = 1 := by decide
  unfold escape
  dsimp only
  split
  · simp only [utf8ByteSize_ofList_cons, hbackslash, hempty]
    omega
  · simp only [utf8ByteSize_ofList_cons, hbackslash, hempty]
    omega
  · omega
  · omega
  · omega
  · omega
  · omega
  · rw [if_neg (by omega), utf8ByteSize_ofList_cons, hempty]
    omega

theorem utf8ByteSize_intercalate (words : List String) :
    (String.intercalate "," words).utf8ByteSize =
      (words.map String.utf8ByteSize).sum + (words.length - 1) := by
  induction words with
  | nil => rfl
  | cons word rest ih =>
    cases rest with
    | nil =>
      rw [String.intercalate_singleton]
      simp
    | cons second others =>
      have hcomma : ",".utf8ByteSize = 1 := by decide
      rw [String.intercalate_cons_cons, String.utf8ByteSize_append, String.utf8ByteSize_append,
        ih, hcomma]
      simp only [List.map_cons, List.sum_cons, List.length_cons]
      omega

theorem utf8ByteSize_member (key value : String) :
    (member key value).utf8ByteSize = (string key).utf8ByteSize + 1 + value.utf8ByteSize := by
  rw [member, String.utf8ByteSize_append, String.utf8ByteSize_append]
  rfl

theorem utf8ByteSize_member_le {key value : String} {k v : ℕ} (hkey : key.utf8ByteSize ≤ k)
    (hvalue : value.utf8ByteSize ≤ v) : (member key value).utf8ByteSize ≤ 6 * k + v + 3 := by
  have hstring := utf8ByteSize_string_le key
  rw [utf8ByteSize_member]
  omega

def membersSize (members : List (String × String)) : ℕ :=
  (members.map fun m => (member m.1 m.2).utf8ByteSize).sum

theorem utf8ByteSize_object (members : List (String × String)) :
    (object members).utf8ByteSize = membersSize members + (members.length - 1) + 2 := by
  have hopen : "\x7b".utf8ByteSize = 1 := by decide
  have hclose : "\x7d".utf8ByteSize = 1 := by decide
  rw [object, String.utf8ByteSize_append, String.utf8ByteSize_append, utf8ByteSize_intercalate,
    List.map_map, List.length_map, hopen, hclose]
  change 1 + (membersSize members + _) + 1 = _
  omega

theorem utf8ByteSize_object_le {members : List (String × String)} (count bound : ℕ)
    (hcount : members.length = count)
    (h : ∀ m ∈ members, (member m.1 m.2).utf8ByteSize ≤ bound) :
    (object members).utf8ByteSize ≤ count * (bound + 1) + 2 := by
  have hsum : membersSize members ≤ members.length * bound := by
    clear hcount
    unfold membersSize
    induction members with
    | nil => exact Nat.zero_le _
    | cons first rest ih =>
      have hfirst := h first List.mem_cons_self
      have hrest := ih fun m hm => h m (List.mem_cons_of_mem first hm)
      rw [List.map_cons, List.sum_cons, List.length_cons, Nat.succ_mul]
      omega
  rw [utf8ByteSize_object, ← hcount, Nat.mul_succ]
  omega

theorem utf8ByteSize_object_le_of_keys {members : List (String × String)} {bound : ℕ}
    (hkeys : ∀ key ∈ members.map Prod.fst, (string key).utf8ByteSize ≤ 20)
    (hbound : (members.map fun m => m.2.utf8ByteSize + 22).sum + 2 ≤ bound) :
    (object members).utf8ByteSize ≤ bound := by
  have hsum : membersSize members + members.length ≤
      (members.map fun m => m.2.utf8ByteSize + 22).sum := by
    clear hbound
    unfold membersSize
    induction members with
    | nil => exact Nat.le_refl _
    | cons first rest ih =>
      rw [List.map_cons, List.forall_mem_cons] at hkeys
      have hrest := ih hkeys.2
      simp only [List.map_cons, List.sum_cons, List.length_cons, utf8ByteSize_member] at hrest ⊢
      omega
  rw [utf8ByteSize_object]
  omega

theorem utf8ByteSize_object_cons {key value : String} {members members' : List (String × String)}
    (h : members'.Perm ((key, value) :: members)) :
    (object members').utf8ByteSize =
      (object members).utf8ByteSize + (member key value).utf8ByteSize +
        (if members = [] then 0 else 1) := by
  have hlength : members'.length = members.length + 1 := h.length_eq
  have hsum : membersSize members' = (member key value).utf8ByteSize + membersSize members :=
    (h.map _).sum_nat
  rw [utf8ByteSize_object, utf8ByteSize_object, hsum, hlength]
  cases members with
  | nil =>
    rw [if_pos rfl, List.length_nil]
    omega
  | cons first rest =>
    rw [if_neg (List.cons_ne_nil _ _), List.length_cons]
    omega

end CompactJson
