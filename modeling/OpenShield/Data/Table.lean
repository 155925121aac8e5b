import Mathlib

/-!
# Tables

A finite map as a list of bindings in no particular order, with at most one binding for a key.
Hash maps are iterated in such an order.
-/

namespace Table

variable {κ ν : Type} [DecidableEq κ]

def Unique (table : List (κ × ν)) : Prop := (table.map Prod.fst).Nodup

def find (table : List (κ × ν)) (key : κ) : Option ν :=
  (table.find? fun entry => decide (entry.1 = key)).map Prod.snd

def alter (key : κ) (f : ν → ν) (table : List (κ × ν)) : List (κ × ν) :=
  table.map fun entry => if entry.1 = key then (entry.1, f entry.2) else entry

def drop (key : κ) (table : List (κ × ν)) : List (κ × ν) :=
  table.filter fun entry => decide (entry.1 ≠ key)

variable {table : List (κ × ν)} {key : κ} {value value' : ν} {f : ν → ν}

omit [DecidableEq κ] in
theorem Unique.eq (h : Unique table) (hmem : (key, value) ∈ table)
    (hmem' : (key, value') ∈ table) : value = value' :=
  congrArg Prod.snd (List.inj_on_of_nodup_map h hmem hmem' rfl)

omit [DecidableEq κ] in
theorem Unique.sublist {table' : List (κ × ν)} (h : Unique table)
    (hsub : table'.Sublist table) : Unique table' :=
  List.Nodup.sublist (hsub.map Prod.fst) h

theorem Unique.find_eq_some_iff (h : Unique table) :
    find table key = some value ↔ (key, value) ∈ table := by
  rw [find, Option.map_eq_some_iff]
  constructor
  · rintro ⟨⟨found, value⟩, hfind, rfl⟩
    obtain rfl : found = key := by simpa using List.find?_some hfind
    exact List.mem_of_find?_eq_some hfind
  · intro hmem
    have hsome : (table.find? fun entry => decide (entry.1 = key)).isSome :=
      List.find?_isSome.mpr ⟨(key, value), hmem, by simp⟩
    obtain ⟨⟨found, other⟩, hfind⟩ := Option.isSome_iff_exists.mp hsome
    obtain rfl : found = key := by simpa using List.find?_some hfind
    rw [h.eq hmem (List.mem_of_find?_eq_some hfind)]
    exact ⟨_, hfind, rfl⟩

theorem find_eq_none_iff : find table key = none ↔ ∀ value, (key, value) ∉ table := by
  rw [find, Option.map_eq_none_iff, List.find?_eq_none]
  constructor
  · intro h value hmem
    simpa using h (key, value) hmem
  · rintro h ⟨found, value⟩ hmem
    have hne : found ≠ key := fun heq => h value (heq ▸ hmem)
    simpa using hne

@[simp]
theorem keys_alter : (alter key f table).map Prod.fst = table.map Prod.fst := by
  rw [alter, List.map_map]
  refine List.map_congr_left fun entry _ => ?_
  simp only [Function.comp_apply]
  split_ifs <;> rfl

@[simp]
theorem length_alter : (alter key f table).length = table.length := by simp [alter]

theorem Unique.alter (h : Unique table) : Unique (alter key f table) := by
  rw [Unique, keys_alter]
  exact h

theorem mem_alter {entry : κ × ν} :
    entry ∈ alter key f table ↔
      (entry.1 ≠ key ∧ entry ∈ table) ∨
        ∃ value, (key, value) ∈ table ∧ entry = (key, f value) := by
  rw [alter, List.mem_map]
  constructor
  · rintro ⟨⟨found, value⟩, hmem, rfl⟩
    by_cases hkey : found = key
    · subst hkey
      exact .inr ⟨value, hmem, by simp⟩
    · simp only [hkey, if_false]
      exact .inl ⟨hkey, hmem⟩
  · rintro (⟨hkey, hmem⟩ | ⟨value, hmem, rfl⟩)
    · exact ⟨entry, hmem, by simp [hkey]⟩
    · exact ⟨(key, value), hmem, by simp⟩

theorem alter_of_notMem (h : ∀ value, (key, value) ∉ table) : alter key f table = table := by
  refine (List.map_congr_left fun entry hentry => ?_).trans (List.map_id table)
  have hne : entry.1 ≠ key := fun heq => h entry.2 (heq ▸ hentry)
  simp [hne]

theorem mem_drop {entry : κ × ν} : entry ∈ drop key table ↔ entry ∈ table ∧ entry.1 ≠ key := by
  simp [drop]

theorem length_drop_lt (h : (key, value) ∈ table) : (drop key table).length < table.length :=
  List.length_filter_lt_length_iff_exists.mpr ⟨_, h, by simp⟩

theorem sum_alter (h : Unique table) (hmem : (key, value) ∈ table) (g : ν → ℕ) :
    ((alter key f table).map fun entry => g entry.2).sum + g value =
      (table.map fun entry => g entry.2).sum + g (f value) := by
  induction table with
  | nil => exact absurd hmem List.not_mem_nil
  | cons entry rest ih =>
    obtain ⟨hfresh, hrest⟩ := List.nodup_cons.mp h
    rcases List.mem_cons.mp hmem with rfl | hmem
    · have hsame : alter key f rest = rest :=
        alter_of_notMem fun _ hother => hfresh (List.mem_map.mpr ⟨_, hother, rfl⟩)
      have hcons : alter key f ((key, value) :: rest) = (key, f value) :: alter key f rest := by
        simp [alter]
      rw [hcons, hsame]
      simp only [List.map_cons, List.sum_cons]
      omega
    · have hne : entry.1 ≠ key := fun heq => hfresh (List.mem_map.mpr ⟨(key, value), hmem, heq.symm⟩)
      have hcons : alter key f (entry :: rest) = entry :: alter key f rest := by
        simp [alter, hne]
      have := ih hrest hmem
      rw [hcons, List.map_cons, List.map_cons, List.sum_cons, List.sum_cons]
      omega

omit [DecidableEq κ] in
theorem sum_filter {p : κ × ν → Bool} {g : ν → ℕ}
    (h : ∀ entry ∈ table, p entry = false → g entry.2 = 0) :
    ((table.filter p).map fun entry => g entry.2).sum = (table.map fun entry => g entry.2).sum := by
  induction table with
  | nil => rfl
  | cons entry rest ih =>
    have hrest := ih fun other hmem => h other (List.mem_cons_of_mem _ hmem)
    cases hp : p entry with
    | true => rw [List.filter_cons_of_pos hp, List.map_cons, List.map_cons, List.sum_cons,
        List.sum_cons, hrest]
    | false =>
      rw [List.filter_cons_of_neg (by simp [hp]), List.map_cons, List.sum_cons,
        h entry List.mem_cons_self hp, hrest, Nat.zero_add]

end Table
