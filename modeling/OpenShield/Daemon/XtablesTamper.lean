import OpenShield.Daemon.XtablesSave
import OpenShield.Data.TextLength

/-!
# Tampered iptables rules

An installed policy is compared with the compiled one by the normal forms of its rules. Normal
forms lose nothing but three spellings: `--syn` for its flags, the match module of the protocol
of a rule, and the radix of marks. Words are separated by their lengths and chains are kept
apart by a stable sort, so that equal lists of normal forms mean equal rules in equal order in
every owned chain.

Rules are only compared if their line says something behind the name of the chain. A rule
without matches and target is printed without a blank there and is not seen.
-/

namespace OpenShield

open Except (bind_eq_ok_iff bind_unit_eq_ok_iff)

/-! ### Quoted words -/

def escapeWord (special : Char → Bool) (word : List Char) : Line :=
  word.flatMap fun c => if special c then [backslash, c] else [c]

def quoteWord (special : Char → Bool) (word : String) : Line :=
  doubleQuote :: escapeWord special word.toList ++ [doubleQuote]

section Quoting

variable {special : Char → Bool} (hquote : special doubleQuote = true)
  (hbackslash : special backslash = true)
include hquote hbackslash

theorem Tokenizer.scan_escapeWord (tokens : List String) (token word rest : Line) :
    scan ⟨tokens, token, true, some .double⟩ (escapeWord special word ++ doubleQuote :: rest) =
      scan ⟨tokens, token ++ word, true, none⟩ rest := by
  induction word generalizing token with
  | nil =>
    rw [escapeWord, List.flatMap_nil, List.nil_append, scan.eq_def]
    simp
  | cons c word ih =>
    have hdiffer : backslash ≠ doubleQuote := by decide
    have hnext := ih (token ++ [c])
    rw [List.append_assoc, List.singleton_append] at hnext
    rw [← hnext, escapeWord, List.flatMap_cons]
    cases hc : special c with
    | true =>
      rw [scan.eq_def]
      simp [hdiffer, push, escapeWord]
    | false =>
      have hplain : c ≠ doubleQuote ∧ c ≠ backslash :=
        ⟨fun h => by simp [h, hquote] at hc, fun h => by simp [h, hbackslash] at hc⟩
      rw [scan.eq_def]
      simp [hplain, push, escapeWord]

theorem Tokenizer.scan_quoteWord (tokens : List String) (word : String) (rest : Line) :
    scan ⟨tokens, [], false, none⟩ (quoteWord special word ++ rest) =
      scan ⟨tokens, word.toList, true, none⟩ rest := by
  have hspace : Text.isAsciiWhitespace doubleQuote = false := by decide
  have hsingle : doubleQuote ≠ singleQuote := by decide
  have hinside := scan_escapeWord hquote hbackslash tokens [] word.toList rest
  rw [quoteWord, List.cons_append, List.cons_append, List.append_assoc, scan.eq_def]
  simpa [hspace, hsingle] using hinside

theorem tokenize_quoted (words : List String) :
    tokenizeXtablesRule ([' '].intercalate (words.map (quoteWord special))) = .ok words := by
  have hscan (tokens : List String) : ∃ scanner : Tokenizer,
      Tokenizer.scan ⟨tokens, [], false, none⟩ ([' '].intercalate (words.map (quoteWord special))) =
        .ok scanner ∧ scanner.quote = none ∧ scanner.endToken.tokens = tokens ++ words := by
    induction words generalizing tokens with
    | nil => exact ⟨_, rfl, rfl, (List.append_nil _).symm⟩
    | cons word words ih =>
      cases words with
      | nil =>
        have hword := Tokenizer.scan_quoteWord hquote hbackslash tokens word []
        rw [List.append_nil] at hword
        refine ⟨⟨tokens, word.toList, true, none⟩, ?_, rfl, by simp [Tokenizer.endToken]⟩
        rw [List.map_singleton, List.intercalate_singleton, hword, Tokenizer.scan]
      | cons next words =>
        obtain ⟨scanner, hrest, hclosed, htokens⟩ := ih (tokens ++ [word])
        have hblank : Text.isAsciiWhitespace ' ' = true := by decide
        refine ⟨scanner, ?_, hclosed, by simp [htokens]⟩
        rw [List.map_cons, List.map_cons, List.intercalate_cons_cons, List.append_assoc,
          Tokenizer.scan_quoteWord hquote hbackslash, List.singleton_append, ← List.map_cons,
          Tokenizer.scan.eq_def]
        simpa [hblank, Tokenizer.endToken] using hrest
  obtain ⟨scanner, hrest, hclosed, htokens⟩ := hscan []
  rw [tokenizeXtablesRule, Tokenizer.start, hrest]
  simp [bind, Except.bind, ensure, hclosed, htokens, pure, Except.pure]

end Quoting

/-! ### Normal forms as texts -/

/-- Beginnings with the same number of bytes agree. -/
theorem eq_of_utf8ByteSize {front front' back back' : List Char}
    (h : front ++ back = front' ++ back')
    (hbytes : (String.ofList front).utf8ByteSize = (String.ofList front').utf8ByteSize) :
    front = front' ∧ back = back' := by
  have hpos (c : Char) (rest : List Char) :
      (String.ofList (c :: rest)).utf8ByteSize ≠ (String.ofList []).utf8ByteSize := by
    have := Char.utf8Size_pos c
    rw [Text.utf8ByteSize_ofList_cons]
    change _ ≠ 0
    omega
  induction front generalizing front' with
  | nil =>
    cases front' with
    | nil => exact ⟨rfl, h⟩
    | cons c front' => exact absurd hbytes.symm (hpos c front')
  | cons c front ih =>
    cases front' with
    | nil => exact absurd hbytes (hpos c front)
    | cons c' front' =>
      obtain ⟨rfl, hrest⟩ := List.cons.inj h
      rw [Text.utf8ByteSize_ofList_cons, Text.utf8ByteSize_ofList_cons, Nat.add_left_cancel_iff]
        at hbytes
      obtain ⟨rfl, hback⟩ := ih hrest hbytes
      exact ⟨rfl, hback⟩

theorem eq_of_separator {c : Char} {front front' back back' : List Char} (hfront : c ∉ front)
    (hfront' : c ∉ front') (h : front ++ c :: back = front' ++ c :: back') :
    front = front' ∧ back = back' := by
  have htake {front : List Char} (hfront : c ∉ front) (back : List Char) :
      (front ++ c :: back).takeWhile (· ≠ c) = front := by
    have hother : ∀ d ∈ front, decide (d ≠ c) = true := fun d hd =>
      decide_eq_true (ne_of_mem_of_not_mem hd hfront)
    rw [List.takeWhile_append_of_pos hother]
    simp
  have hsame : front = front' := by rw [← htake hfront back, h, htake hfront' back']
  subst hsame
  exact ⟨rfl, (List.cons.inj (List.append_cancel_left h)).2⟩

theorem notMem_toDigits {radix : ℕ} {c : Char} (hradix : 1 < radix) (h16 : radix ≤ 16)
    (hc : c ∉ Text.hexCharacters) (n : ℕ) : c ∉ Nat.toDigits radix n :=
  fun hmem => hc (Text.mem_hexCharacters_of_mem_toDigits hradix h16 n c hmem)

/-- Different numbers look different. -/
theorem toDigits_injective {radix : ℕ} (hradix : 1 < radix) (h16 : radix ≤ 16) :
    Function.Injective (Nat.toDigits radix) := by
  intro m n h
  have hm := Text.digitsValue_toDigits hradix h16 m
  rw [h, Text.digitsValue_toDigits hradix h16 n] at hm
  exact (Option.some.inj hm).symm

/-- Different sequences of words look different. -/
theorem lengthPrefixed_injective : Function.Injective lengthPrefixed := by
  intro words words' h
  induction words generalizing words' with
  | nil =>
    cases words' with
    | nil => rfl
    | cons word words' => simp [lengthPrefixed] at h
  | cons word words ih =>
    cases words' with
    | nil => simp [lengthPrefixed] at h
    | cons word' words' =>
      have hcolon := @notMem_toDigits 10 ':' (by omega) (by omega) (by decide)
      simp only [lengthPrefixed, List.flatMap_cons, List.append_assoc, List.cons_append] at h
      obtain ⟨hlength, hrest⟩ := eq_of_separator (hcolon _) (hcolon _) h
      have hbytes := toDigits_injective (by omega) (by omega) hlength
      rw [← @String.ofList_toList word, ← @String.ofList_toList word'] at hbytes
      obtain ⟨hword, htail⟩ := eq_of_utf8ByteSize (by simpa using hrest) hbytes
      rw [String.toList_inj.mp hword, ih htail]

/-! ### Marks -/

def readMark (argument : String) : Except String (ℕ × Option ℕ) :=
  match Text.splitOnce ['/'] argument.toList with
  | some (value, mask) => do
    let value ← parseU32Argument value
    let mask ← parseU32Argument mask
    return (value, some mask)
  | none => do
    let value ← parseU32Argument argument.toList
    return (value, none)

def writeMark : ℕ × Option ℕ → String
  | (value, some mask) => "0x" ++ Text.hex value ++ "/0x" ++ Text.hex mask
  | (value, none) => "0x" ++ Text.hex value

theorem normalizeMarkArgument_eq (argument : String) :
    normalizeMarkArgument argument = (readMark argument).map writeMark := by
  unfold normalizeMarkArgument readMark
  cases Text.splitOnce ['/'] argument.toList with
  | none => cases parseU32Argument argument.toList <;> rfl
  | some parts =>
    simp only
    cases parseU32Argument parts.1 with
    | error => rfl
    | ok value => cases parseU32Argument parts.2 <;> rfl

theorem writeMark_injective : Function.Injective writeMark := by
  have hslash := @notMem_toDigits 16 '/' (by omega) (by omega) (by decide)
  have hinj : Function.Injective (Nat.toDigits 16) := toDigits_injective (by omega) (by omega)
  have hlist (mark : ℕ × Option ℕ) : (writeMark mark).toList = '0' :: 'x' ::
      (Nat.toDigits 16 mark.1 ++ mark.2.elim [] fun mask => '/' :: '0' :: 'x' :: Nat.toDigits 16 mask) := by
    obtain ⟨value, _ | mask⟩ := mark <;> simp [writeMark, Text.toList_hex]
  intro left right h
  have h := congrArg String.toList h
  simp only [hlist, List.cons.injEq, true_and] at h
  obtain ⟨value, _ | mask⟩ := left <;> obtain ⟨value', _ | mask'⟩ := right
  · simp only [Option.elim, List.append_nil] at h
    rw [hinj h]
  · exact absurd (by simp at h; simp [h]) (hslash value)
  · exact absurd (by simp at h; simp [← h]) (hslash value')
  · obtain ⟨hvalue, hmask⟩ := eq_of_separator (hslash _) (hslash _) h
    rw [Prod.mk.injEq, Option.some.injEq]
    exact ⟨hinj hvalue, hinj (List.cons.inj (List.cons.inj hmask).2).2⟩

theorem isMarkOption_writeMark (mark : ℕ × Option ℕ) : isMarkOption (writeMark mark) = false := by
  have hhead : (writeMark mark).toList.head? = some '0' := by
    obtain ⟨value, _ | mask⟩ := mark <;> simp [writeMark]
  simp only [isMarkOption, Bool.or_eq_false_iff, decide_eq_false_iff_not]
  constructor
  · intro h
    exact absurd (h ▸ hhead) (by decide)
  · intro h
    exact absurd (h ▸ hhead) (by decide)

/-- Words that are equal, marks by their numbers. `isArgument` tells that the word in front is an
option that takes a mark. -/
inductive SameWords : Bool → List String → List String → Prop
  | nil (isArgument : Bool) : SameWords isArgument [] []
  | word {word : String} {left right : List String} :
      SameWords (isMarkOption word) left right → SameWords false (word :: left) (word :: right)
  | mark {mark mark' : String} {numbers : ℕ × Option ℕ} {left right : List String} :
      readMark mark = .ok numbers → readMark mark' = .ok numbers → SameWords false left right →
      SameWords true (mark :: left) (mark' :: right)

theorem readMark_of_normalize {isArgument : Bool} {token normal : String}
    (h : normalizeArgument isArgument token = .ok normal) :
    (isArgument = false ∧ token = normal) ∨
      (isArgument = true ∧ ∃ numbers, readMark token = .ok numbers ∧ writeMark numbers = normal) := by
  cases isArgument with
  | false => exact .inl ⟨rfl, Except.ok.inj h⟩
  | true =>
    change normalizeMarkArgument token = .ok normal at h
    rw [normalizeMarkArgument_eq] at h
    cases hread : readMark token with
    | error e =>
      rw [hread] at h
      cases h
    | ok numbers =>
      rw [hread] at h
      exact .inr ⟨rfl, numbers, rfl, Except.ok.inj h⟩

theorem sameWords_of_normalize {isArgument : Bool} {left right normal : List String}
    (hleft : normalizeMarks isArgument left = .ok normal)
    (hright : normalizeMarks isArgument right = .ok normal) : SameWords isArgument left right := by
  have hcons {isArgument : Bool} {token : String} {rest normal : List String}
      (h : normalizeMarks isArgument (token :: rest) = .ok normal) :
      ∃ first others, normalizeArgument isArgument token = .ok first ∧
        normalizeMarks (isMarkOption first) rest = .ok others ∧ first :: others = normal := by
    obtain ⟨first, hfirst, h⟩ := bind_eq_ok_iff.mp h
    obtain ⟨others, hothers, h⟩ := bind_eq_ok_iff.mp h
    exact ⟨first, others, hfirst, hothers, Except.ok.inj h⟩
  induction left generalizing isArgument right normal with
  | nil =>
    cases hleft
    cases right with
    | nil => exact .nil _
    | cons token right =>
      obtain ⟨first, others, -, -, h⟩ := hcons hright
      cases h
  | cons token left ih =>
    obtain ⟨first, others, hfirst, hothers, rfl⟩ := hcons hleft
    cases right with
    | nil => cases hright
    | cons token' right =>
      obtain ⟨first', others', hfirst', hothers', h⟩ := hcons hright
      cases h
      have hrest := ih hothers hothers'
      obtain ⟨rfl, rfl⟩ | ⟨rfl, numbers, hread, rfl⟩ := readMark_of_normalize hfirst
      · obtain ⟨-, rfl⟩ | ⟨h, -⟩ := readMark_of_normalize hfirst'
        · exact .word hrest
        · cases h
      · obtain ⟨h, -⟩ | ⟨-, numbers', hread', hwrite⟩ := readMark_of_normalize hfirst'
        · cases h
        · rw [writeMark_injective hwrite] at hread'
          rw [isMarkOption_writeMark] at hrest
          exact .mark hread hread' hrest

/-! ### Rules -/

/-- The words of two rules are the same after `--syn` is expanded and the match module of the
protocol is dropped, with marks compared by their numbers. -/
def SameRule (left right : Line) : Prop :=
  ∃ tokens tokens', tokenizeXtablesRule left = .ok tokens ∧
    tokenizeXtablesRule right = .ok tokens' ∧
    SameWords false (dropProtocolModule (expandSyn tokens)) (dropProtocolModule (expandSyn tokens'))

def appendsTo (chain : OwnedChain) (rule : Line) : Bool :=
  match tokenizeXtablesRule rule with
  | .ok (_ :: name :: _) => name = chain.name
  | _ => false

theorem dropModule_cons {module option : String} (hoption : option ≠ "-m") (rest : List String) :
    dropModule module (option :: rest) = option :: dropModule module rest := by
  cases rest with
  | nil => rfl
  | cons value rest => exact if_neg fun h => hoption h.1

theorem chain_kept {chain : OwnedChain} {rest normal : List String}
    (h : normalizeMarks false (dropProtocolModule (expandSyn ("-A" :: chain.name :: rest))) =
      .ok normal) : ∃ rest', normal = "-A" :: chain.name :: rest' := by
  have hname : chain.name ≠ "--syn" ∧ chain.name ≠ "-m" ∧ isMarkOption chain.name = false := by
    cases chain <;> decide
  have hexpand : expandSyn ("-A" :: chain.name :: rest) = "-A" :: chain.name :: expandSyn rest := by
    simp [expandSyn, hname.1]
  obtain ⟨dropped, hdrop⟩ : ∃ dropped, dropProtocolModule ("-A" :: chain.name :: expandSyn rest) =
      "-A" :: chain.name :: dropped := by
    have hmodule (module : String) : dropModule module ("-A" :: chain.name :: expandSyn rest) =
        "-A" :: chain.name :: dropModule module (expandSyn rest) := by
      rw [dropModule_cons (by decide), dropModule_cons hname.2.1]
    unfold dropProtocolModule
    split
    · split
      · exact ⟨_, hmodule _⟩
      · exact ⟨_, rfl⟩
    · exact ⟨_, rfl⟩
  rw [hexpand, hdrop] at h
  obtain ⟨first, hfirst, h⟩ := bind_eq_ok_iff.mp h
  cases hfirst
  obtain ⟨others, hothers, h⟩ := bind_eq_ok_iff.mp h
  obtain ⟨second, hsecond, hothers⟩ := bind_eq_ok_iff.mp hothers
  cases hsecond
  obtain ⟨rest', -, hothers⟩ := bind_eq_ok_iff.mp hothers
  cases hothers
  exact ⟨rest', (Except.ok.inj h).symm⟩

theorem normalizeOwned_eq_ok {rule : Line} {pair : String × Line}
    (h : normalizeOwnedXtablesRule rule = .ok pair) :
    ∃ (chain : OwnedChain) (rest normal : List String),
      tokenizeXtablesRule rule = .ok ("-A" :: chain.name :: rest) ∧
      normalizeMarks false (dropProtocolModule (expandSyn ("-A" :: chain.name :: rest))) =
        .ok normal ∧ pair = (chain.name, lengthPrefixed normal) := by
  obtain ⟨tokens, htokens, h⟩ := bind_eq_ok_iff.mp h
  match tokens with
  | [] | [_] => cases h
  | option :: name :: rest =>
    obtain ⟨hcheck, h⟩ := bind_unit_eq_ok_iff.mp h
    obtain ⟨normalized, hnormalized, h⟩ := bind_eq_ok_iff.mp h
    obtain ⟨-, hnormalized⟩ := bind_unit_eq_ok_iff.mp hnormalized
    obtain ⟨normal, hnormal, hline⟩ := bind_eq_ok_iff.mp hnormalized
    obtain ⟨rfl, hsome⟩ := (ensure_eq_ok_iff _ _ _).mp hcheck
    obtain ⟨chain, hchain⟩ := Option.isSome_iff_exists.mp hsome
    have hname : chain.name = name := by simpa using List.find?_some hchain
    subst hname
    cases hline
    exact ⟨chain, rest, normal, htokens, hnormal, (Except.ok.inj h).symm⟩

theorem appendsTo_eq {rule : Line} {pair : String × Line} (chain : OwnedChain)
    (h : normalizeOwnedXtablesRule rule = .ok pair) :
    appendsTo chain rule = decide (pair.1 = chain.name) := by
  obtain ⟨_, _, _, htokens, -, rfl⟩ := normalizeOwned_eq_ok h
  simp [appendsTo, htokens]

theorem same_of_normalized {left right : Line} {pair pair' : String × Line}
    (hleft : normalizeOwnedXtablesRule left = .ok pair)
    (hright : normalizeOwnedXtablesRule right = .ok pair') (h : pair.2 = pair'.2) :
    pair = pair' ∧ SameRule left right := by
  obtain ⟨chain, rest, normal, htokens, hnormal, rfl⟩ := normalizeOwned_eq_ok hleft
  obtain ⟨chain', rest', normal', htokens', hnormal', rfl⟩ := normalizeOwned_eq_ok hright
  cases lengthPrefixed_injective h
  refine ⟨?_, _, _, htokens, htokens', sameWords_of_normalize hnormal hnormal'⟩
  obtain ⟨others, hwords⟩ := chain_kept hnormal
  obtain ⟨others', hwords'⟩ := chain_kept hnormal'
  rw [hwords] at hwords'
  rw [(List.cons.inj (List.cons.inj hwords').2).1]

/-! ### Lists of rules -/

abbrev Normalized : List Line → List (String × Line) → Prop :=
  List.Forall₂ fun rule pair => normalizeOwnedXtablesRule rule = .ok pair

namespace Normalized

variable {rules : List Line} {pairs : List (String × Line)}

theorem exists_rule (h : Normalized rules pairs) :
    ∀ pair ∈ pairs, ∃ rule, normalizeOwnedXtablesRule rule = .ok pair := by
  induction h with
  | nil => simp
  | cons hfirst _ ih => exact List.forall_mem_cons.mpr ⟨⟨_, hfirst⟩, ih⟩

theorem exists_pair (h : Normalized rules pairs) :
    ∀ rule ∈ rules, ∃ pair, normalizeOwnedXtablesRule rule = .ok pair := by
  induction h with
  | nil => simp
  | cons hfirst _ ih => exact List.forall_mem_cons.mpr ⟨⟨_, hfirst⟩, ih⟩

theorem ofChain (h : Normalized rules pairs) (chain : OwnedChain) :
    Normalized (rules.filter (appendsTo chain)) (pairs.filter fun pair => pair.1 = chain.name) :=
  List.rel_filter (fun _ _ hpair => iff_of_eq (congrArg (· = true) (appendsTo_eq chain hpair))) h

theorem same {saved : List Line} (h : Normalized rules pairs) (hsaved : Normalized saved pairs) :
    List.Forall₂ SameRule rules saved := by
  induction h generalizing saved with
  | nil =>
    cases hsaved
    exact .nil
  | cons hfirst _ ih =>
    cases hsaved with
    | cons hsaved hrest => exact .cons (same_of_normalized hfirst hsaved rfl).2 (ih hrest)

end Normalized

theorem filter_insertionSort (rules : List (String × Line)) (name : String) :
    (rules.insertionSort fun left right => left.1 ≤ right.1).filter (fun rule => rule.1 = name) =
      rules.filter fun rule => rule.1 = name := by
  have hsorted : (rules.filter fun rule => rule.1 = name).Pairwise
      fun left right => left.1 ≤ right.1 := by
    refine List.pairwise_of_forall_mem_list fun left hleft right hright => ?_
    have hleft : left.1 = name := of_decide_eq_true (List.mem_filter.mp hleft).2
    have hright : right.1 = name := of_decide_eq_true (List.mem_filter.mp hright).2
    exact le_of_eq (hleft.trans hright.symm)
  have hsub := (List.sublist_insertionSort hsorted List.filter_sublist).filter
    fun rule => decide (rule.1 = name)
  rw [List.filter_filter] at hsub
  simp only [Bool.and_self] at hsub
  exact (hsub.eq_of_length ((List.perm_insertionSort _ rules).filter _).length_eq.symm).symm

theorem eq_of_normalForms {compiled saved : List (String × Line)}
    (hcompiled : ∀ pair ∈ compiled, ∃ rule, normalizeOwnedXtablesRule rule = .ok pair)
    (hsaved : ∀ pair ∈ saved, ∃ rule, normalizeOwnedXtablesRule rule = .ok pair)
    (h : compiled.map Prod.snd = saved.map Prod.snd) : compiled = saved := by
  induction compiled generalizing saved with
  | nil => exact (List.map_eq_nil_iff.mp h.symm).symm
  | cons pair compiled ih =>
    cases saved with
    | nil => cases h
    | cons pair' saved =>
      rw [List.map_cons, List.map_cons] at h
      obtain ⟨hpair, hrest⟩ := List.cons.inj h
      obtain ⟨rule, hrule⟩ := hcompiled pair List.mem_cons_self
      obtain ⟨rule', hrule'⟩ := hsaved pair' List.mem_cons_self
      rw [(same_of_normalized hrule hrule' hpair).1,
        ih (fun p hp => hcompiled p (List.mem_cons_of_mem _ hp))
          (fun p hp => hsaved p (List.mem_cons_of_mem _ hp)) hrest]

/-! ### Saved tables -/

/-- Words that have been read stay. -/
theorem Tokenizer.scan_tokens {scanner scanner' : Tokenizer} {rest : Line}
    (h : scanner.scan rest = .ok scanner') : scanner.tokens <+: scanner'.endToken.tokens := by
  have hend (scanner : Tokenizer) : scanner.tokens <+: scanner.endToken.tokens := by
    unfold endToken
    split
    · exact List.prefix_append _ _
    · exact List.prefix_rfl
  fun_induction scan scanner rest with
  | case1 =>
    cases h
    exact hend scanner'
  | case5 | case11 => cases h
  | case8 =>
    next ih => exact (hend _).trans (ih h)
  | case2 | case3 | case4 | case6 | case7 | case9 | case10 | case12 | case13 =>
    next ih => exact ih h

def isPlain (c : Char) : Bool :=
  !(Text.isAsciiWhitespace c || c = singleQuote || c = doubleQuote || c = backslash)

theorem Tokenizer.scan_word {word : Line} (hword : word.all isPlain = true) (tokens : List String)
    (token rest : Line) (inToken : Bool) (h : inToken = true ∨ word ≠ []) :
    scan ⟨tokens, token, inToken, none⟩ (word ++ ' ' :: rest) =
      scan ⟨tokens ++ [String.ofList (token ++ word)], [], false, none⟩ rest := by
  induction word generalizing token inToken with
  | nil =>
    have hblank : Text.isAsciiWhitespace ' ' = true := by decide
    rw [List.nil_append, scan.eq_def]
    simp [endToken, hblank, h.resolve_right (by simp)]
  | cons c word ih =>
    rw [List.all_cons, Bool.and_eq_true] at hword
    have hrest := ih hword.2 (token ++ [c]) true (.inl rfl)
    have hc := hword.1
    simp only [isPlain, Bool.not_eq_true', Bool.or_eq_false_iff, decide_eq_false_iff_not] at hc
    obtain ⟨⟨⟨hspace, hsingle⟩, hdouble⟩, hescape⟩ := hc
    rw [List.append_assoc, List.singleton_append] at hrest
    rw [← hrest, List.cons_append, scan.eq_def]
    simp [push, hspace, hsingle, hdouble, hescape]

theorem tokens_of_chainBeginning {chain : OwnedChain} {rule : Line} {tokens : List String}
    (hrule : (chainBeginning chain.name).isPrefixOf rule = true)
    (h : tokenizeXtablesRule rule = .ok tokens) : ["-A", chain.name] <+: tokens := by
  obtain ⟨rest, rfl⟩ := List.isPrefixOf_iff_prefix.mp hrule
  obtain ⟨scanner, hscan, h⟩ := bind_eq_ok_iff.mp h
  obtain ⟨-, h⟩ := bind_unit_eq_ok_iff.mp h
  cases h
  have hbeginning : Tokenizer.start.scan (chainBeginning chain.name ++ rest) =
      Tokenizer.scan ⟨["-A", chain.name], [], false, none⟩ rest := by
    have hname : chain.name.toList.all isPlain = true ∧ chain.name.toList ≠ [] := by
      cases chain <;> decide
    have hfirst := @Tokenizer.scan_word "-A".toList (by decide) [] []
      (chain.name.toList ++ ' ' :: rest) false (.inr (by decide))
    have hsecond := Tokenizer.scan_word hname.1 ["-A"] [] rest false (.inr hname.2)
    rw [List.nil_append, List.nil_append, String.ofList_toList] at hfirst
    rw [List.nil_append, String.ofList_toList] at hsecond
    rw [List.cons_append, List.nil_append] at hsecond
    rw [← hsecond, ← hfirst]
    simp [chainBeginning, Tokenizer.start]
  rw [hbeginning] at hscan
  exact Tokenizer.scan_tokens hscan

def isOwnedRule (rule : Line) : Bool :=
  allOwnedXtablesChains.any fun chain => (chainBeginning chain.name).isPrefixOf rule

theorem parseXtablesSave_normalized {lines : List Line} {snapshot : XtablesSnapshot}
    (h : parseXtablesSave lines = .ok snapshot) :
    ∃ pairs, Normalized (snapshot.orderedRules.filter isOwnedRule) pairs ∧
      snapshot.ownedRules = orderOwnedXtablesRules pairs := by
  obtain ⟨-, h⟩ := bind_unit_eq_ok_iff.mp h
  obtain ⟨-, h⟩ := bind_unit_eq_ok_iff.mp h
  obtain ⟨reader, hread, h⟩ := bind_eq_ok_iff.mp h
  cases h
  refine ⟨reader.ownedRules, ?_, rfl⟩
  have hrun (start : SaveReader)
      (hstart : Normalized (start.orderedRules.filter isOwnedRule) start.ownedRules)
      (hread : lines.foldlM SaveReader.readLine start = .ok reader) :
      Normalized (reader.orderedRules.filter isOwnedRule) reader.ownedRules := by
    clear * - hstart hread
    induction lines generalizing start with
    | nil =>
      cases hread
      exact hstart
    | cons line lines ih =>
      obtain ⟨next, hnext, hread⟩ := bind_eq_ok_iff.mp hread
      refine ih next ?_ hread
      unfold SaveReader.readLine at hnext
      split at hnext
      · split at hnext <;> cases hnext
        exact hstart
      · obtain ⟨saved, hsaved, hnext⟩ := bind_eq_ok_iff.mp hnext
        cases saved with
        | none =>
          cases hnext
          exact hstart
        | some saved =>
          obtain ⟨value, rule⟩ := saved
          simp only at hnext
          split at hnext
          · next howned =>
            obtain ⟨counters, -, hnext⟩ := bind_eq_ok_iff.mp hnext
            obtain ⟨pair, hpair, hnext⟩ := bind_eq_ok_iff.mp hnext
            cases hnext
            have howned : isOwnedRule rule = true := howned
            simp only [List.filter_append, List.filter_cons_of_pos howned, List.filter_nil]
            exact List.rel_append hstart (.cons hpair .nil)
          · next howned =>
            cases hnext
            have howned : ¬ isOwnedRule rule = true := howned
            simpa only [List.filter_append, List.filter_cons_of_neg howned, List.filter_nil,
              List.append_nil] using hstart
  exact hrun SaveReader.start .nil hread

theorem rulesForChain_eq {snapshot : XtablesSnapshot} {pairs : List (String × Line)}
    (h : Normalized (snapshot.orderedRules.filter isOwnedRule) pairs) (chain : OwnedChain) :
    snapshot.rulesForChain chain.name =
      (snapshot.orderedRules.filter isOwnedRule).filter (appendsTo chain) := by
  rw [XtablesSnapshot.rulesForChain, List.filter_filter]
  refine List.filter_congr fun rule hrule => ?_
  have hchain {other : OwnedChain} (hother : (chainBeginning other.name).isPrefixOf rule = true) :
      isOwnedRule rule = true ∧ (appendsTo chain rule = true ↔ other.name = chain.name) := by
    have howned : isOwnedRule rule = true :=
      List.any_eq_true.mpr ⟨other, by cases other <;> decide, hother⟩
    obtain ⟨pair, hpair⟩ := h.exists_pair rule (List.mem_filter.mpr ⟨hrule, howned⟩)
    obtain ⟨named, rest, normal, htokens, -, heq⟩ := normalizeOwned_eq_ok hpair
    obtain ⟨_, hnamed⟩ := tokens_of_chainBeginning hother htokens
    have hsame : other.name = named.name := (List.cons.inj (List.cons.inj hnamed).2).1
    rw [appendsTo_eq chain hpair, decide_eq_true_eq, heq, hsame]
    exact ⟨howned, Iff.rfl⟩
  rw [Bool.eq_iff_iff, Bool.and_eq_true]
  constructor
  · intro hbegins
    exact ⟨(hchain hbegins).2.mpr rfl, (hchain hbegins).1⟩
  · rintro ⟨happends, howned⟩
    obtain ⟨other, -, hother⟩ := List.any_eq_true.mp howned
    rw [← (hchain hother).2.mp happends]
    exact hother

/-! ### Compiled programs -/

def programRules (chain : OwnedChain) (program : List Line) : List Line :=
  (program.filter "-A ".toList.isPrefixOf).filter (appendsTo chain)

/-- The rules that have been read of a program. Both tables together have the rules of each
chain in the order of the program, since no chain belongs to both. -/
structure ProgramReader.Reads (reader : ProgramReader) (rules : List Line) : Prop where
  normalized : ∃ pairs, Normalized rules pairs ∧ ∀ chain : OwnedChain,
    (reader.mangle ++ reader.filter).filter (fun pair => pair.1 = chain.name) =
      pairs.filter fun pair => pair.1 = chain.name
  mangle : ∀ pair ∈ reader.mangle, ∃ chain ∈ ownedMangleChains, chain.name = pair.1
  filter : ∀ pair ∈ reader.filter, ∃ chain ∈ ownedChains, chain.name = pair.1

namespace ProgramReader

theorem Reads.readRule {reader next : ProgramReader} {rules : List Line} {line : Line}
    (h : reader.Reads rules) (hread : reader.readRule line = .ok next) :
    next.Reads (rules ++ [line]) := by
  have hdisjoint : ∀ left ∈ ownedMangleChains, ∀ right ∈ ownedChains, left.name ≠ right.name := by
    decide
  obtain ⟨⟨pairs, hpairs, hchains⟩, hmangle, hfilter⟩ := h
  unfold ProgramReader.readRule at hread
  split at hread
  · cases hread
  · next table _ =>
    obtain ⟨pair, hpair, hread⟩ := bind_eq_ok_iff.mp hread
    obtain ⟨hchain, hread⟩ := bind_unit_eq_ok_iff.mp hread
    have howned := (ensure_eq_ok_iff _ _ _).mp hchain
    have hnormalized : Normalized (rules ++ [line]) (pairs ++ [pair]) :=
      List.rel_append hpairs (.cons hpair .nil)
    cases table with
    | mangle =>
      cases hread
      refine ⟨⟨_, hnormalized, fun chain => ?_⟩, ?_, hfilter⟩
      · rw [List.filter_append pairs, ← hchains chain]
        by_cases hname : pair.1 = chain.name
        · -- no rule of the filter table is appended to this chain
          have hother : reader.filter.filter (fun pair => pair.1 = chain.name) = [] := by
            refine List.filter_eq_nil_iff.mpr fun other hother hsame => ?_
            obtain ⟨left, hleft, hleftName⟩ := howned
            obtain ⟨right, hright, hrightName⟩ := hfilter other hother
            refine hdisjoint left hleft right hright ?_
            rw [hleftName, hrightName, hname, of_decide_eq_true hsame]
          simp only [List.filter_append, hother, List.append_nil]
        · have hnone : [pair].filter (fun pair => pair.1 = chain.name) = [] := by simp [hname]
          simp only [List.filter_append, hnone, List.append_nil]
      · exact List.forall_mem_append.mpr ⟨hmangle, List.forall_mem_singleton.mpr howned⟩
    | filter =>
      cases hread
      refine ⟨⟨_, hnormalized, fun chain => ?_⟩, hmangle, ?_⟩
      · rw [← List.append_assoc, List.filter_append, List.filter_append pairs, ← hchains chain]
      · exact List.forall_mem_append.mpr ⟨hfilter, List.forall_mem_singleton.mpr howned⟩

theorem Reads.readLine {reader next : ProgramReader} {rules : List Line} {line : Line}
    (h : reader.Reads rules) (hread : reader.readLine line = .ok next) :
    next.Reads (rules ++ [line].filter "-A ".toList.isPrefixOf) := by
  have hkeep {next : ProgramReader} (hline : "-A ".toList.isPrefixOf line = false)
      (hmangle : next.mangle = reader.mangle) (hfilter : next.filter = reader.filter) :
      next.Reads (rules ++ [line].filter "-A ".toList.isPrefixOf) := by
    have hnone : [line].filter "-A ".toList.isPrefixOf = [] :=
      List.filter_cons_of_neg (Bool.eq_false_iff.mp hline)
    obtain ⟨hnormalized, htables⟩ := h
    rw [hnone, List.append_nil]
    constructor <;> simpa only [hmangle, hfilter]
  unfold ProgramReader.readLine openTable at hread
  split_ifs at hread with hfilterLine _ hmangleLine _ hcommit _ happend
  · cases hread
    exact hkeep (by rw [hfilterLine]; decide) rfl rfl
  · cases hread
    exact hkeep (by rw [hmangleLine]; decide) rfl rfl
  · cases hread
    exact hkeep (by rw [hcommit]; decide) rfl rfl
  · rw [List.filter_cons_of_pos happend]
    exact h.readRule hread
  · cases hread
    exact hkeep (Bool.eq_false_iff.mpr happend) rfl rfl

theorem Reads.run {program : List Line} {reader next : ProgramReader} {rules : List Line}
    (h : reader.Reads rules) (hread : program.foldlM ProgramReader.readLine reader = .ok next) :
    next.Reads (rules ++ program.filter "-A ".toList.isPrefixOf) := by
  induction program generalizing reader rules with
  | nil =>
    cases hread
    simpa using h
  | cons line program ih =>
    obtain ⟨middle, hline, hread⟩ := bind_eq_ok_iff.mp hread
    have hrest := ih (h.readLine hline) hread
    rwa [List.append_assoc, ← List.filter_append, List.singleton_append] at hrest

end ProgramReader

/-! ### Comparison -/

namespace Sample

def program : List Line :=
  ["*mangle", "COMMIT", "*filter",
    "-A OPENSHIELD_OUT -p tcp --syn -m mark --mark 0x10 -j DROP", "COMMIT"].map String.toList

def savedMangle : List Line := ["*mangle", "COMMIT"].map String.toList

def savedFilter (more : List String) : List Line :=
  (["*filter", "[7:420] -A OPENSHIELD_OUT -p tcp -m tcp --tcp-flags FIN,SYN,RST,ACK SYN " ++
    "-m mark --mark 16 -j DROP"] ++ more ++ ["COMMIT"]).map String.toList

end Sample

end OpenShield
