import OpenShield.Data.OrderedMap

/-!
# Grouping

The items of a list collected under their keys in an ordered map. Items without a key are left
out, and the items of a group keep their order.
-/

namespace OrderedMap

variable {α κ : Type} [LinearOrder κ]

def push (groups : OrderedMap κ (List α)) (k : κ) (item : α) : OrderedMap κ (List α) :=
  groups.insert k ((groups.get? k).getD [] ++ [item])

def groupOn (key : α → Option κ) (items : List α) : OrderedMap κ (List α) :=
  items.foldl (fun groups item =>
    match key item with
    | some k => groups.push k item
    | none => groups) empty

theorem groupOn_append_singleton (key : α → Option κ) (items : List α) (item : α) :
    groupOn key (items ++ [item]) =
      match key item with
      | some k => (groupOn key items).push k item
      | none => groupOn key items := by
  simp only [groupOn, List.foldl_append, List.foldl_cons, List.foldl_nil]

theorem get?_groupOn (key : α → Option κ) (items : List α) (k : κ) :
    (groupOn key items).get? k =
      if items.filter (fun item => decide (key item = some k)) = [] then none
      else some (items.filter fun item => decide (key item = some k)) := by
  -- the groups grow at their end, so the induction is from the right
  induction items using List.reverseRecOn with
  | nil => rfl
  | append_singleton items item ih =>
    rw [groupOn_append_singleton, List.filter_append]
    cases hkey : key item with
    | none => simpa [hkey] using ih
    | some k' =>
      simp only [push, get?_insert]
      by_cases hk : k = k'
      · subst hk
        rw [if_pos rfl, ih]
        by_cases hempty : items.filter (fun item => decide (key item = some k)) = []
        · simp [hkey, hempty]
        · simp [hkey, hempty]
      · have hne : k' ≠ k := fun h => hk h.symm
        rw [if_neg hk, ih]
        simp [hkey, hne]

theorem mem_groupOn {key : α → Option κ} {items : List α} {k : κ} {group : List α} :
    (k, group) ∈ (groupOn key items).entries ↔
      group = items.filter (fun item => decide (key item = some k)) ∧ group ≠ [] := by
  rw [← get?_eq_some_iff, get?_groupOn]
  split_ifs with hempty
  · rw [hempty]
    simp
  · constructor
    · intro h
      cases h
      exact ⟨rfl, hempty⟩
    · rintro ⟨rfl, -⟩
      rfl

theorem exists_mem_groupOn {key : α → Option κ} {items : List α} {k : κ} {item : α}
    (hmem : item ∈ items) (hkey : key item = some k) :
    ∃ group, (k, group) ∈ (groupOn key items).entries ∧ item ∈ group := by
  have hgroup : item ∈ items.filter fun item => decide (key item = some k) := by
    simpa [hkey] using hmem
  exact ⟨_, mem_groupOn.mpr ⟨rfl, List.ne_nil_of_mem hgroup⟩, hgroup⟩

theorem nodup_keys (m : OrderedMap κ α) : (m.entries.map Prod.fst).Nodup :=
  List.pairwise_map.mpr (m.sorted.imp fun hlt => hlt.ne)

end OrderedMap
