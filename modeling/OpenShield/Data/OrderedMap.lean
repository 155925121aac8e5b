import Mathlib

/-!
# Ordered maps

A finite map whose entries are kept in strictly increasing key order, as a B-tree map
iterates them. The order is a field of the structure, so two entries never share a key and
the iteration order of a map is determined by its contents.
-/

/-- A finite map from `κ` to `ν`, listed in strictly increasing key order. -/
structure OrderedMap (κ ν : Type) [LinearOrder κ] where
  entries : List (κ × ν)
  /-- Keys strictly increase along the list. -/
  sorted : entries.Pairwise (fun a b => a.1 < b.1)
  deriving DecidableEq

namespace OrderedMap

variable {κ ν : Type} [LinearOrder κ]

def empty : OrderedMap κ ν := ⟨[], List.Pairwise.nil⟩

variable (m : OrderedMap κ ν)

def get? (k : κ) : Option ν :=
  (m.entries.find? (fun e => decide (e.1 = k))).map Prod.snd

/-- Whether `k` is bound. -/
def contains (k : κ) : Bool := (m.get? k).isSome

def size : ℕ := m.entries.length

def values : List ν := m.entries.map Prod.snd

def insertEntry (k : κ) (v : ν) : List (κ × ν) → List (κ × ν)
  | [] => [(k, v)]
  | e :: rest =>
    if k < e.1 then (k, v) :: e :: rest
    else if k = e.1 then (k, v) :: rest
    else e :: insertEntry k v rest

variable {e : κ × ν} {k : κ} {l : List (κ × ν)} {m : OrderedMap κ ν}

theorem mem_insertEntry {v : ν} (hl : l.Pairwise (fun a b => a.1 < b.1)) :
    e ∈ insertEntry k v l ↔ e = (k, v) ∨ (e.1 ≠ k ∧ e ∈ l) := by
  induction l with
  | nil => simp [insertEntry]
  | cons head rest ih =>
    have hrest := List.pairwise_cons.mp hl
    have htail : ∀ x ∈ rest, head.1 < x.1 := hrest.1
    rw [insertEntry]
    split_ifs with hlt heq
    · -- `k` precedes every stored key, so no entry is replaced
      have hne : ∀ x ∈ head :: rest, x.1 ≠ k := by
        intro x hx
        rcases List.mem_cons.mp hx with rfl | hx
        · exact hlt.ne'
        · exact (hlt.trans (htail x hx)).ne'
      rw [List.mem_cons]
      exact or_congr Iff.rfl ⟨fun hx => ⟨hne e hx, hx⟩, fun hx => hx.2⟩
    · subst heq
      rw [List.mem_cons, List.mem_cons]
      refine or_congr Iff.rfl ⟨fun hx => ⟨(htail e hx).ne', .inr hx⟩, ?_⟩
      rintro ⟨hkey, rfl | hx⟩
      · exact absurd rfl hkey
      · exact hx
    · rw [List.mem_cons, ih hrest.2, List.mem_cons]
      have hhead : head.1 ≠ k := fun h => heq h.symm
      constructor
      · rintro (rfl | h | ⟨h, hx⟩)
        · exact .inr ⟨hhead, .inl rfl⟩
        · exact .inl h
        · exact .inr ⟨h, .inr hx⟩
      · rintro (h | ⟨h, rfl | hx⟩)
        · exact .inr (.inl h)
        · exact .inl rfl
        · exact .inr (.inr ⟨h, hx⟩)

theorem insertEntry_sorted (k : κ) (v : ν) (hl : l.Pairwise (fun a b => a.1 < b.1)) :
    (insertEntry k v l).Pairwise (fun a b => a.1 < b.1) := by
  induction l with
  | nil => simp [insertEntry]
  | cons head rest ih =>
    obtain ⟨htail, hrest⟩ := List.pairwise_cons.mp hl
    rw [insertEntry]
    split_ifs with hlt heq
    · refine List.pairwise_cons.mpr ⟨fun x hx => ?_, hl⟩
      rcases List.mem_cons.mp hx with rfl | hx
      · exact hlt
      · exact hlt.trans (htail x hx)
    · subst heq
      exact List.pairwise_cons.mpr ⟨htail, hrest⟩
    · refine List.pairwise_cons.mpr ⟨fun x hx => ?_, ih hrest⟩
      rcases (mem_insertEntry hrest).mp hx with rfl | ⟨_, hx⟩
      · exact lt_of_le_of_ne (not_lt.mp hlt) (Ne.symm heq)
      · exact htail x hx

def insert (m : OrderedMap κ ν) (k : κ) (v : ν) : OrderedMap κ ν :=
  ⟨insertEntry k v m.entries, insertEntry_sorted k v m.sorted⟩

def erase (m : OrderedMap κ ν) (k : κ) : OrderedMap κ ν :=
  ⟨m.entries.filter (fun e => decide (e.1 ≠ k)), m.sorted.filter _⟩

theorem eq_of_mem_of_key_eq (m : OrderedMap κ ν) {a b : κ × ν}
    (ha : a ∈ m.entries) (hb : b ∈ m.entries) (h : a.1 = b.1) : a = b := by
  have hsorted := m.sorted
  generalize m.entries = l at ha hb hsorted
  induction l with
  | nil => cases ha
  | cons head rest ih =>
    obtain ⟨htail, hrest⟩ := List.pairwise_cons.mp hsorted
    rcases List.mem_cons.mp ha with haeq | ha
    · rcases List.mem_cons.mp hb with hbeq | hb
      · exact haeq.trans hbeq.symm
      · exact absurd (haeq ▸ h) (htail b hb).ne
    · rcases List.mem_cons.mp hb with hbeq | hb
      · exact absurd (hbeq ▸ h) (htail a ha).ne'
      · exact ih ha hb hrest

theorem get?_eq_some_iff (m : OrderedMap κ ν) (k : κ) (v : ν) :
    m.get? k = some v ↔ (k, v) ∈ m.entries := by
  rw [get?, Option.map_eq_some_iff]
  constructor
  · rintro ⟨e, he, rfl⟩
    have hkey : e.1 = k := by simpa using List.find?_some he
    exact hkey ▸ List.mem_of_find?_eq_some he
  · intro hmem
    obtain ⟨e, he⟩ : ∃ e, m.entries.find? (fun e => decide (e.1 = k)) = some e :=
      Option.isSome_iff_exists.mp (List.find?_isSome.mpr ⟨(k, v), hmem, by simp⟩)
    have hkey : e.1 = k := by simpa using List.find?_some he
    have heq := m.eq_of_mem_of_key_eq (List.mem_of_find?_eq_some he) hmem hkey
    exact ⟨e, he, by rw [heq]⟩

theorem mem_values_iff (m : OrderedMap κ ν) (v : ν) :
    v ∈ m.values ↔ ∃ k, m.get? k = some v := by
  simp [values, get?_eq_some_iff]

@[simp]
theorem entries_empty : (empty : OrderedMap κ ν).entries = [] := rfl

theorem mem_entries_insert (m : OrderedMap κ ν) (k : κ) (v : ν) (e : κ × ν) :
    e ∈ (m.insert k v).entries ↔ e = (k, v) ∨ (e.1 ≠ k ∧ e ∈ m.entries) :=
  mem_insertEntry m.sorted

theorem mem_entries_erase (m : OrderedMap κ ν) (k : κ) (e : κ × ν) :
    e ∈ (m.erase k).entries ↔ e.1 ≠ k ∧ e ∈ m.entries := by
  simp [erase, and_comm]

theorem get?_insert (m : OrderedMap κ ν) (k k' : κ) (v : ν) :
    (m.insert k v).get? k' = if k' = k then some v else m.get? k' := by
  ext w
  rw [get?_eq_some_iff, mem_entries_insert]
  by_cases h : k' = k
  · simp [h, eq_comm]
  · simp [h, get?_eq_some_iff]

theorem get?_erase (m : OrderedMap κ ν) (k k' : κ) :
    (m.erase k).get? k' = if k' = k then none else m.get? k' := by
  ext w
  rw [get?_eq_some_iff, mem_entries_erase]
  by_cases h : k' = k
  · simp [h]
  · simp [h, get?_eq_some_iff]

theorem get?_eq_none_iff (m : OrderedMap κ ν) (k : κ) :
    m.get? k = none ↔ ∀ e ∈ m.entries, e.1 ≠ k := by
  simp [get?]

theorem mem_values_insert_of_get?_eq_none (m : OrderedMap κ ν) (v w : ν) (hfree : m.get? k = none) :
    w ∈ (m.insert k v).values ↔ w = v ∨ w ∈ m.values := by
  have hkeys := (m.get?_eq_none_iff k).mp hfree
  simp only [values, List.mem_map, mem_entries_insert]
  constructor
  · rintro ⟨e, rfl | ⟨_, he⟩, rfl⟩
    · exact .inl rfl
    · exact .inr ⟨e, he, rfl⟩
  · rintro (rfl | ⟨e, he, rfl⟩)
    · exact ⟨(k, w), .inl rfl, rfl⟩
    · exact ⟨e, .inr ⟨hkeys e he, he⟩, rfl⟩

theorem length_insertEntry_le (k : κ) (v : ν) (l : List (κ × ν)) :
    (insertEntry k v l).length ≤ l.length + 1 := by
  induction l with
  | nil => simp [insertEntry]
  | cons head rest ih =>
    rw [insertEntry]
    split_ifs <;> simp only [List.length_cons] <;> omega

theorem length_insertEntry_of_mem (v : ν) (hl : l.Pairwise (fun a b => a.1 < b.1))
    (hk : ∃ e ∈ l, e.1 = k) : (insertEntry k v l).length = l.length := by
  induction l with
  | nil => simp at hk
  | cons head rest ih =>
    obtain ⟨htail, hrest⟩ := List.pairwise_cons.mp hl
    obtain ⟨e, he, rfl⟩ := hk
    rw [insertEntry]
    rcases List.mem_cons.mp he with rfl | he
    · simp
    · -- the key is stored behind the head, so the head is kept
      have hlt := htail e he
      rw [if_neg (not_lt.mpr hlt.le), if_neg hlt.ne', List.length_cons, ih hrest ⟨e, he, rfl⟩,
        List.length_cons]

theorem insertEntry_perm (v : ν) (hfree : ∀ e ∈ l, e.1 ≠ k) :
    (insertEntry k v l).Perm ((k, v) :: l) := by
  induction l with
  | nil => exact .refl _
  | cons head rest ih =>
    rw [insertEntry]
    split_ifs with hlt heq
    · exact .refl _
    · exact absurd heq.symm (hfree head List.mem_cons_self)
    · have hrest := ih fun e he => hfree e (List.mem_cons_of_mem head he)
      exact (hrest.cons head).trans (.swap (k, v) head rest)

theorem values_insert_perm (m : OrderedMap κ ν) (v : ν) (hfree : m.get? k = none) :
    (m.insert k v).values.Perm (v :: m.values) :=
  (insertEntry_perm v ((m.get?_eq_none_iff k).mp hfree)).map Prod.snd

theorem size_insert_of_get?_eq_none (m : OrderedMap κ ν) (v : ν) (hfree : m.get? k = none) :
    (m.insert k v).size = m.size + 1 :=
  (insertEntry_perm v ((m.get?_eq_none_iff k).mp hfree)).length_eq

theorem size_insert_le (m : OrderedMap κ ν) (k : κ) (v : ν) :
    (m.insert k v).size ≤ m.size + 1 :=
  length_insertEntry_le k v m.entries

theorem size_insert_of_get?_eq_some (m : OrderedMap κ ν) {w : ν} (v : ν) (h : m.get? k = some w) :
    (m.insert k v).size = m.size :=
  length_insertEntry_of_mem v m.sorted ⟨(k, w), (m.get?_eq_some_iff k w).mp h, rfl⟩

theorem size_erase_le (m : OrderedMap κ ν) (k : κ) : (m.erase k).size ≤ m.size :=
  List.length_filter_le _ _

theorem ext_entries {m' : OrderedMap κ ν} (h : ∀ e, e ∈ m.entries ↔ e ∈ m'.entries) : m = m' := by
  have hnodup (m : OrderedMap κ ν) : m.entries.Nodup :=
    m.sorted.imp fun hlt heq => hlt.ne (congrArg Prod.fst heq)
  have hperm : m.entries.Perm m'.entries :=
    (List.perm_ext_iff_of_nodup (hnodup m) (hnodup m')).mpr h
  have hentries : m.entries = m'.entries :=
    hperm.eq_of_pairwise (fun _ _ _ _ hab hba => absurd hba hab.not_gt) m.sorted m'.sorted
  cases m
  cases m'
  cases hentries
  rfl

theorem values_filter_eq {m' : OrderedMap κ ν} {p : ν → Bool}
    (hkeeps : ∀ e ∈ m.entries, e ∈ m'.entries)
    (hadds : ∀ e ∈ m'.entries, e ∈ m.entries ∨ p e.2 = false) :
    m'.values.filter p = m.values.filter p := by
  let selected (m : OrderedMap κ ν) : OrderedMap κ ν :=
    ⟨m.entries.filter fun e => p e.2, m.sorted.filter _⟩
  have hselected : selected m' = selected m := by
    refine ext_entries fun e => ?_
    simp only [selected, List.mem_filter]
    refine and_congr_left fun hp => ⟨fun he => ?_, hkeeps e⟩
    refine (hadds e he).resolve_right fun hnot => ?_
    rw [hp] at hnot
    cases hnot
  have hvalues (m : OrderedMap κ ν) : m.values.filter p = (selected m).values := by
    rw [values, List.filter_map]
    rfl
  rw [hvalues, hvalues, hselected]

theorem erase_insert (m : OrderedMap κ ν) (v : ν) (hfree : m.get? k = none) :
    (m.insert k v).erase k = m := by
  refine ext_entries fun e => ?_
  rw [mem_entries_erase, mem_entries_insert]
  have hkey := (m.get?_eq_none_iff k).mp hfree e
  constructor
  · rintro ⟨hne, rfl | ⟨-, he⟩⟩
    · exact absurd rfl hne
    · exact he
  · exact fun he => ⟨hkey he, .inr ⟨hkey he, he⟩⟩

theorem mem_entries_foldl_insert (f : ν → κ) (l : List ν) (hl : (l.map f).Nodup)
    (m : OrderedMap κ ν) (e : κ × ν) :
    e ∈ (l.foldl (fun m v => m.insert (f v) v) m).entries ↔
      (e.2 ∈ l ∧ e.1 = f e.2) ∨ (e.1 ∉ l.map f ∧ e ∈ m.entries) := by
  induction l generalizing m with
  | nil => simp
  | cons v rest ih =>
    obtain ⟨hfresh, hrest⟩ := List.nodup_cons.mp hl
    rw [List.foldl_cons, ih hrest, mem_entries_insert, List.map_cons, List.mem_cons,
      List.mem_cons, not_or]
    constructor
    · rintro (⟨hmem, hkey⟩ | ⟨hnot, rfl | ⟨hne, hold⟩⟩)
      · exact .inl ⟨.inr hmem, hkey⟩
      · exact .inl ⟨.inl rfl, rfl⟩
      · exact .inr ⟨⟨hne, hnot⟩, hold⟩
    · rintro (⟨rfl | hmem, hkey⟩ | ⟨⟨hne, hnot⟩, hold⟩)
      · exact .inr ⟨hkey ▸ hfresh, .inl (Prod.ext hkey rfl)⟩
      · exact .inl ⟨hmem, hkey⟩
      · exact .inr ⟨hnot, .inr ⟨hne, hold⟩⟩

theorem foldl_insert_values (f : ν → κ) (m : OrderedMap κ ν)
    (h : ∀ e ∈ m.entries, e.1 = f e.2) :
    m.values.foldl (fun m v => m.insert (f v) v) empty = m := by
  have hkeys : m.values.map f = m.entries.map Prod.fst := by
    rw [values, List.map_map]
    exact List.map_congr_left fun e he => (h e he).symm
  have hnodup : (m.values.map f).Nodup := by
    rw [hkeys]
    exact List.pairwise_map.mpr (m.sorted.imp fun hlt => hlt.ne)
  refine ext_entries fun e => ?_
  rw [mem_entries_foldl_insert f _ hnodup, entries_empty]
  constructor
  · rintro (⟨hmem, hkey⟩ | ⟨-, hnone⟩)
    · obtain ⟨e', he', hvalue⟩ := List.mem_map.mp hmem
      have : e = e' := Prod.ext (hkey.trans (by rw [← hvalue, h e' he'])) hvalue.symm
      exact this ▸ he'
    · cases hnone
  · exact fun he => .inl ⟨List.mem_map_of_mem he, h e he⟩

/-! ### Cursors -/

/-- The bindings behind a cursor; without a cursor these are all. -/
def entriesAfter (m : OrderedMap κ ν) (cursor : Option κ) : List (κ × ν) :=
  m.entries.filter fun e => cursor.all fun after => decide (after < e.1)

@[simp]
theorem entriesAfter_none (m : OrderedMap κ ν) : m.entriesAfter none = m.entries :=
  List.filter_eq_self.mpr fun _ _ => rfl

theorem lt_of_mem_entriesAfter {after : κ} (h : e ∈ m.entriesAfter (some after)) : after < e.1 := by
  simpa using (List.mem_filter.mp h).2

theorem filter_lt_of_sorted {front back : List (κ × ν)}
    (h : (front ++ e :: back).Pairwise fun a b => a.1 < b.1) :
    (front ++ e :: back).filter (fun x => decide (e.1 < x.1)) = back := by
  obtain ⟨-, hback, hfront⟩ := List.pairwise_append.mp h
  obtain ⟨hbehind, -⟩ := List.pairwise_cons.mp hback
  have hnone : front.filter (fun x => decide (e.1 < x.1)) = [] :=
    List.filter_eq_nil_iff.mpr fun x hx => by
      simpa using (hfront x hx e List.mem_cons_self).le
  have hall : back.filter (fun x => decide (e.1 < x.1)) = back :=
    List.filter_eq_self.mpr fun x hx => by simpa using hbehind x hx
  rw [List.filter_append, hnone, List.filter_cons_of_neg (by simp), hall, List.nil_append]

theorem entriesAfter_of_split {cursor : Option κ} {front back : List (κ × ν)}
    (h : m.entriesAfter cursor = front ++ e :: back) : m.entriesAfter (some e.1) = back := by
  have hsorted : (m.entriesAfter cursor).Pairwise fun a b => a.1 < b.1 := m.sorted.filter _
  have hbehind : ∀ x, cursor.all (fun after => decide (after < e.1)) = true →
      e.1 < x → cursor.all (fun after => decide (after < x)) = true := by
    intro x hcursor hx
    cases cursor with
    | none => rfl
    | some after => simpa using (show after < e.1 by simpa using hcursor).trans hx
  have hmem : e ∈ m.entriesAfter cursor := by simp [h]
  have hcursor := (List.mem_filter.mp hmem).2
  -- what is behind the binding is behind the old cursor
  have hfilter : m.entriesAfter (some e.1) =
      (m.entriesAfter cursor).filter fun x => decide (e.1 < x.1) := by
    unfold entriesAfter
    rw [List.filter_filter]
    refine List.filter_congr fun x _ => ?_
    by_cases hx : e.1 < x.1
    · simp [hx, hbehind x.1 hcursor hx]
    · simp [hx]
  rw [hfilter, h]
  exact filter_lt_of_sorted (h ▸ hsorted)

end OrderedMap
