import OpenShield.Data.Result

/-!
# A bounded queue with two levels of turns

Items wait in flows, and flows belong to users. Users take turns, and the flows of a user take
turns among themselves; in its turn a flow gives up at most a quantum of items. The queue counts
its items and refuses to hold more than a bound.
-/

open scoped List

structure FlowQueue (φ α : Type) where
  key : φ
  items : List α

structure UserQueue (υ φ α : Type) where
  key : υ
  flows : List (FlowQueue φ α)

/-- A queue of users, the next one first, and the number of waiting items. -/
structure FairQueue (υ φ α : Type) where
  users : List (UserQueue υ φ α)
  pending : ℕ

def modifyFirst {α : Type} (p : α → Bool) (f : α → α) : List α → Option (List α)
  | [] => none
  | a :: rest => if p a then some (f a :: rest) else (modifyFirst p f rest).map (a :: ·)

/-- An element is changed where it stands. -/
theorem modifyFirst_eq_some {α : Type} {p : α → Bool} {f : α → α} {l l' : List α}
    (h : modifyFirst p f l = some l') :
    ∃ front a back, l = front ++ a :: back ∧ p a = true ∧ l' = front ++ f a :: back := by
  induction l generalizing l' with
  | nil => simp [modifyFirst] at h
  | cons a rest ih =>
    rw [modifyFirst] at h
    split_ifs at h with ha
    · exact ⟨[], a, rest, rfl, ha, (Option.some.inj h).symm⟩
    · obtain ⟨changed, hchanged, rfl⟩ := Option.map_eq_some_iff.mp h
      obtain ⟨front, b, back, rfl, hb, rfl⟩ := ih hchanged
      exact ⟨a :: front, b, back, rfl, hb, rfl⟩

theorem modifyFirst_eq_none {α : Type} {p : α → Bool} {f : α → α} {l : List α}
    (h : modifyFirst p f l = none) : ∀ a ∈ l, p a = false := by
  induction l with
  | nil => exact List.forall_mem_nil _
  | cons a rest ih =>
    rw [modifyFirst] at h
    split_ifs at h with ha
    exact List.forall_mem_cons.mpr
      ⟨Bool.eq_false_iff.mpr ha, ih (Option.map_eq_none_iff.mp h)⟩

def requeue {β : Type} (isEmpty : Bool) (queue : β) (line : List β) : List β :=
  if isEmpty then line else line ++ [queue]

theorem flatMap_requeue {α β : Type} {isEmpty : Bool} {queue : β} (line : List β)
    {f : β → List α} (h : isEmpty = true → f queue = []) :
    (requeue isEmpty queue line).flatMap f = line.flatMap f ++ f queue := by
  unfold requeue
  split_ifs with hempty
  · rw [h hempty, List.append_nil]
  · simp

theorem length_requeue {β : Type} (isEmpty : Bool) (queue : β) (line : List β) :
    (requeue isEmpty queue line).length = line.length + if isEmpty then 0 else 1 := by
  unfold requeue
  split_ifs <;> simp

theorem sum_requeue {β : Type} {isEmpty : Bool} {queue : β} (line : List β) {f : β → ℕ}
    (h : isEmpty = true → f queue = 0) :
    ((requeue isEmpty queue line).map f).sum = (line.map f).sum + f queue := by
  unfold requeue
  split_ifs with hempty
  · rw [h hempty, Nat.add_zero]
  · simp

theorem forall_mem_requeue {β : Type} {isEmpty : Bool} {queue : β} {line : List β}
    {P : β → Prop} (hline : ∀ b ∈ line, P b) (hqueue : isEmpty = false → P queue) :
    ∀ b ∈ requeue isEmpty queue line, P b := by
  unfold requeue
  split_ifs with hempty
  · exact hline
  · exact List.forall_mem_append.mpr
      ⟨hline, List.forall_mem_singleton.mpr (hqueue (Bool.eq_false_iff.mpr hempty))⟩

theorem nodup_map_requeue {β κ : Type} (isEmpty : Bool) {queue : β} {line : List β} {key : β → κ}
    (h : (key queue :: line.map key).Nodup) : ((requeue isEmpty queue line).map key).Nodup := by
  unfold requeue
  split_ifs
  · exact (List.nodup_cons.mp h).2
  · rw [List.map_append, List.nodup_append_comm]
    exact h

namespace UserQueue

variable {υ φ α : Type}

def items (user : UserQueue υ φ α) : List α := user.flows.flatMap (·.items)

def push [DecidableEq φ] (flow : φ) (item : α) (user : UserQueue υ φ α) : UserQueue υ φ α :=
  match modifyFirst (fun queue => decide (queue.key = flow))
      (fun queue => { queue with items := queue.items ++ [item] }) user.flows with
  | some flows => { user with flows }
  | none => { user with flows := user.flows ++ [⟨flow, [item]⟩] }

theorem items_push [DecidableEq φ] (flow : φ) (item : α) (user : UserQueue υ φ α) :
    (user.push flow item).items.Perm (item :: user.items) := by
  unfold push
  split
  · next flows h =>
    obtain ⟨front, queue, back, hflows, -, rfl⟩ := modifyFirst_eq_some h
    simp only [items, hflows, List.flatMap_append, List.flatMap_cons]
    have hmiddle : (queue.items ++ [item] ++ back.flatMap (·.items)).Perm
        (item :: (queue.items ++ back.flatMap (·.items))) := by
      rw [List.append_assoc]
      exact List.perm_middle
    exact (hmiddle.append_left _).trans List.perm_middle
  · simp only [items, List.flatMap_append, List.flatMap_singleton]
    exact List.perm_append_comm

end UserQueue

namespace FairQueue

variable {υ φ α : Type}

def empty : FairQueue υ φ α := ⟨[], 0⟩

variable (q : FairQueue υ φ α)

def items : List α := q.users.flatMap (·.items)

def Counted : Prop := q.pending = q.items.length

def place [DecidableEq υ] [DecidableEq φ] (user : υ) (flow : φ) (item : α)
    (users : List (UserQueue υ φ α)) : List (UserQueue υ φ α) :=
  match modifyFirst (fun queue => decide (queue.key = user)) (·.push flow item) users with
  | some users => users
  | none => users ++ [⟨user, [⟨flow, [item]⟩]⟩]

def push [DecidableEq υ] [DecidableEq φ] (capacity : ℕ) (full : String) (user : υ) (flow : φ)
    (item : α) (q : FairQueue υ φ α) : Except String (FairQueue υ φ α) := do
  ensure (q.pending < capacity) full
  return ⟨place user flow item q.users, q.pending + 1⟩

def takeRounds (size quantum : ℕ) : ℕ → FairQueue υ φ α → List α → List α × FairQueue υ φ α
  | 0, q, batch => (batch, q)
  | fuel + 1, q, batch =>
    if batch.length < size then
      match q.users with
      | [] => (batch, q)
      | user :: users =>
        match user.flows with
        | [] => takeRounds size quantum fuel { q with users } batch
        | flow :: flows =>
          let count := min quantum (size - batch.length)
          let taken := flow.items.take count
          let rest := flow.items.drop count
          let flows := requeue rest.isEmpty { flow with items := rest } flows
          let users := requeue flows.isEmpty { user with flows } users
          takeRounds size quantum fuel ⟨users, q.pending - taken.length⟩ (batch ++ taken)
    else (batch, q)

def weight : ℕ :=
  q.users.length + (q.users.map (·.flows.length)).sum + q.items.length

def takeBatch (size quantum : ℕ) (q : FairQueue υ φ α) : List α × FairQueue υ φ α :=
  takeRounds size quantum (q.weight + 1) q []

theorem items_place [DecidableEq υ] [DecidableEq φ] (user : υ) (flow : φ) (item : α)
    (users : List (UserQueue υ φ α)) :
    ((place user flow item users).flatMap (·.items)).Perm (item :: users.flatMap (·.items)) := by
  unfold place
  split
  · next changed h =>
    obtain ⟨front, queue, back, rfl, -, rfl⟩ := modifyFirst_eq_some h
    simp only [List.flatMap_append, List.flatMap_cons]
    have hmiddle : ((queue.push flow item).items ++ back.flatMap (·.items)).Perm
        (item :: (queue.items ++ back.flatMap (·.items))) :=
      (queue.items_push flow item).append_right _
    exact (hmiddle.append_left _).trans List.perm_middle
  · simp only [List.flatMap_append, List.flatMap_singleton, UserQueue.items]
    exact List.perm_append_comm

theorem items_push [DecidableEq υ] [DecidableEq φ] {capacity : ℕ} {full : String} {user : υ}
    {flow : φ} {item : α} {q q' : FairQueue υ φ α}
    (h : q.push capacity full user flow item = .ok q') (hq : q.Counted) :
    q'.items.Perm (item :: q.items) ∧ q'.Counted := by
  simp only [push, Except.bind_unit_eq_ok_iff] at h
  obtain ⟨-, h⟩ := h
  obtain rfl := Except.ok.inj h
  have hperm := items_place user flow item q.users
  refine ⟨hperm, ?_⟩
  have hlength := hperm.length_eq
  simp only [Counted, items, List.length_cons] at hlength hq ⊢
  omega

theorem push_eq_ok [DecidableEq υ] [DecidableEq φ] {capacity : ℕ} (full : String) (user : υ)
    (flow : φ) (item : α) {q : FairQueue υ φ α} (h : q.pending < capacity) :
    ∃ q', q.push capacity full user flow item = .ok q' := by
  refine ⟨⟨place user flow item q.users, q.pending + 1⟩, ?_⟩
  simp [push, ensure, h]

/-- The queue after a turn, in which the first flow of the first user gives up `count` items. -/
def afterTurn (count : ℕ) (user : UserQueue υ φ α) (flow : FlowQueue φ α)
    (flows : List (FlowQueue φ α)) (users : List (UserQueue υ φ α)) (pending : ℕ) :
    FairQueue υ φ α :=
  let left := requeue (flow.items.drop count).isEmpty
    { flow with items := flow.items.drop count } flows
  ⟨requeue left.isEmpty { user with flows := left } users,
    pending - (flow.items.take count).length⟩

theorem takeRounds_keeps {size quantum : ℕ} {P : FairQueue υ φ α → List α → Prop}
    (hidle : ∀ user users pending batch, user.flows = [] →
      P ⟨user :: users, pending⟩ batch → P ⟨users, pending⟩ batch)
    (hturn : ∀ user flow flows users pending batch, user.flows = flow :: flows →
      batch.length < size → P ⟨user :: users, pending⟩ batch →
      P (afterTurn (min quantum (size - batch.length)) user flow flows users pending)
        (batch ++ flow.items.take (min quantum (size - batch.length))))
    (fuel : ℕ) (q : FairQueue υ φ α) (batch : List α) (h : P q batch) :
    P (takeRounds size quantum fuel q batch).2 (takeRounds size quantum fuel q batch).1 := by
  induction fuel generalizing q batch with
  | zero => exact h
  | succ fuel ih =>
    obtain ⟨users, pending⟩ := q
    rw [takeRounds]
    split_ifs with hroom
    · cases users with
      | nil => exact h
      | cons user users =>
        cases hflows : user.flows with
        | nil =>
          simp only [hflows]
          exact ih _ _ (hidle user users pending batch hflows h)
        | cons flow flows =>
          simp only [hflows]
          exact ih _ _ (hturn user flow flows users pending batch hflows hroom h)
    · exact h

theorem items_afterTurn (count : ℕ) (user : UserQueue υ φ α) (flow : FlowQueue φ α)
    (flows : List (FlowQueue φ α)) (users : List (UserQueue υ φ α)) (pending : ℕ) :
    (afterTurn count user flow flows users pending).items =
      users.flatMap (·.items) ++ (flows.flatMap (·.items) ++ flow.items.drop count) := by
  have hleft := @flatMap_requeue α _ (flow.items.drop count).isEmpty
    { flow with items := flow.items.drop count } flows (·.items) List.isEmpty_iff.mp
  rw [items, afterTurn, flatMap_requeue users, ← hleft]
  · rfl
  · intro hempty
    rw [UserQueue.items, List.isEmpty_iff.mp hempty, List.flatMap_nil]

theorem items_turn (count : ℕ) (user : UserQueue υ φ α) (flow : FlowQueue φ α)
    (flows : List (FlowQueue φ α)) (users : List (UserQueue υ φ α))
    (huser : user.flows = flow :: flows) (pending : ℕ) :
    (flow.items.take count ++ (afterTurn count user flow flows users pending).items).Perm
      ((user :: users).flatMap (·.items)) := by
  rw [items_afterTurn, List.flatMap_cons, UserQueue.items, huser, List.flatMap_cons]
  calc flow.items.take count ++
        (users.flatMap (·.items) ++ (flows.flatMap (·.items) ++ flow.items.drop count))
    _ ~ flow.items.take count ++
        ((flow.items.drop count ++ flows.flatMap (·.items)) ++ users.flatMap (·.items)) := by
      refine List.Perm.append_left _ (List.perm_append_comm.trans ?_)
      exact List.Perm.append_right _ List.perm_append_comm
    _ = flow.items ++ flows.flatMap (·.items) ++ users.flatMap (·.items) := by
      rw [← List.append_assoc, ← List.append_assoc, List.take_append_drop]

theorem Counted.turn {count : ℕ} {user : UserQueue υ φ α} {flow : FlowQueue φ α}
    {flows : List (FlowQueue φ α)} {users : List (UserQueue υ φ α)} {pending : ℕ}
    (h : Counted ⟨user :: users, pending⟩) (huser : user.flows = flow :: flows) :
    (afterTurn count user flow flows users pending).Counted := by
  have hlength := (items_turn count user flow flows users huser pending).length_eq
  rw [List.length_append] at hlength
  simp only [Counted, items] at h hlength ⊢
  rw [← h] at hlength
  simp only [afterTurn] at hlength ⊢
  omega

theorem takeRounds_spec (size quantum fuel : ℕ) (q : FairQueue υ φ α) (batch : List α)
    (hq : q.Counted) (hbatch : batch.length ≤ size) :
    let result := takeRounds size quantum fuel q batch
    (result.1 ++ result.2.items).Perm (batch ++ q.items) ∧ result.2.Counted ∧
      result.1.length ≤ size := by
  refine @takeRounds_keeps υ φ α size quantum
    (fun q' batch' => (batch' ++ q'.items).Perm (batch ++ q.items) ∧ q'.Counted ∧
      batch'.length ≤ size) ?_ ?_ fuel q batch ⟨List.Perm.refl _, hq, hbatch⟩
  · intro user users pending batch' hflows h
    have hsame : items ⟨user :: users, pending⟩ = items ⟨users, pending⟩ := by
      simp [items, UserQueue.items, hflows]
    rwa [Counted, hsame] at h
  · rintro user flow flows users pending batch' hflows hroom ⟨hperm, hcounted, -⟩
    refine ⟨?_, hcounted.turn hflows, ?_⟩
    · rw [List.append_assoc]
      exact ((items_turn _ user flow flows users hflows pending).append_left _).trans hperm
    · simp only [List.length_append, List.length_take]
      omega

theorem weight_turn {count : ℕ} (hcount : 0 < count) (user : UserQueue υ φ α)
    (flow : FlowQueue φ α) (flows : List (FlowQueue φ α)) (users : List (UserQueue υ φ α))
    (huser : user.flows = flow :: flows) (pending : ℕ) :
    (afterTurn count user flow flows users pending).weight < weight ⟨user :: users, pending⟩ := by
  have hitems := (items_turn count user flow flows users huser pending).length_eq
  rw [List.length_append] at hitems
  simp only [afterTurn, weight, items, List.length_cons, List.map_cons, List.sum_cons, huser]
    at hitems ⊢
  set left := requeue (flow.items.drop count).isEmpty
    { flow with items := flow.items.drop count } flows with hdef
  have hsum : ((requeue left.isEmpty { user with flows := left } users).map
      (·.flows.length)).sum = (users.map (·.flows.length)).sum + left.length :=
    sum_requeue users fun h => by simp [List.isEmpty_iff.mp h]
  have hleft : left.length = flows.length + if (flow.items.drop count).isEmpty then 0 else 1 :=
    length_requeue _ _ _
  have husers := length_requeue left.isEmpty { user with flows := left } users
  rw [hsum, husers, hleft]
  by_cases hrest : flow.items.drop count = []
  · simp only [hrest, List.isEmpty_nil, if_true]
    split_ifs <;> omega
  · -- The flow keeps its place, and has given up `count` items.
    have hlong : count < flow.items.length := by
      by_contra hshort
      exact hrest (List.drop_eq_nil_of_le (by omega))
    rw [List.length_take] at hitems
    simp only [List.isEmpty_iff, hrest, if_false]
    split_ifs <;> omega

theorem takeRounds_done {size quantum fuel : ℕ} (hquantum : 0 < quantum) (q : FairQueue υ φ α)
    (batch : List α) (hfuel : q.weight < fuel) :
    size ≤ (takeRounds size quantum fuel q batch).1.length ∨
      (takeRounds size quantum fuel q batch).2.users = [] := by
  induction fuel generalizing q batch with
  | zero => omega
  | succ fuel ih =>
    obtain ⟨users, pending⟩ := q
    rw [takeRounds]
    split_ifs with hroom
    · cases users with
      | nil => exact .inr rfl
      | cons user users =>
        cases hflows : user.flows with
        | nil =>
          simp only [hflows]
          refine ih ⟨users, pending⟩ batch ?_
          simp only [weight, items, List.length_cons, List.map_cons, List.sum_cons, hflows,
            List.flatMap_cons, List.length_append] at hfuel ⊢
          omega
        | cons flow flows =>
          have hcount : 0 < min quantum (size - batch.length) := by omega
          have hweight := weight_turn hcount user flow flows users hflows pending
          simp only [hflows]
          exact ih _ _ (by simp only [afterTurn] at hweight; omega)
    · exact .inl (Nat.le_of_not_lt hroom)

theorem items_takeBatch (size quantum : ℕ) (q : FairQueue υ φ α) (hq : q.Counted) :
    ((q.takeBatch size quantum).1 ++ (q.takeBatch size quantum).2.items).Perm q.items ∧
      (q.takeBatch size quantum).2.Counted :=
  have h := takeRounds_spec size quantum (q.weight + 1) q [] hq (Nat.zero_le _)
  ⟨h.1, h.2.1⟩

theorem length_takeBatch (size : ℕ) {quantum : ℕ} (hquantum : 0 < quantum)
    (q : FairQueue υ φ α) (hq : q.Counted) :
    (q.takeBatch size quantum).1.length = min size q.pending := by
  obtain ⟨hperm, -, hsize⟩ := takeRounds_spec size quantum (q.weight + 1) q [] hq (Nat.zero_le _)
  have hlength := hperm.length_eq
  rw [List.length_append, List.nil_append] at hlength
  rw [Counted] at hq
  change (takeRounds size quantum (q.weight + 1) q []).1.length = _
  have hdone : size ≤ (takeRounds size quantum (q.weight + 1) q []).1.length ∨ _ :=
    takeRounds_done hquantum q [] (Nat.lt_succ_self q.weight)
  rcases hdone with hfull | hnone
  · omega
  · have hempty : (takeRounds size quantum (q.weight + 1) q []).2.items = [] := by
      simp [items, hnone]
    rw [hempty, List.length_nil] at hlength
    omega

end FairQueue

/-! ### Order and turns

Every item has a user and a flow of its own. The items of one flow leave in the order in which
they came, and a user waits for at most one turn of every user ahead of it. -/

section Upsert

variable {α β κ : Type} [DecidableEq κ] {key : β → κ} {f : β → List α} {c : κ}

/-- Among queues of distinct keys, the items of one key do not depend on the queues' order. -/
theorem filter_flatMap_perm {p : α → Bool} {l l' : List β}
    (hp : ∀ b ∈ l, key b ≠ c → (f b).filter p = []) (hkeys : (l.map key).Nodup)
    (h : l.Perm l') : (l.flatMap f).filter p = (l'.flatMap f).filter p := by
  induction h with
  | nil => rfl
  | cons b _ ih =>
    rw [List.map_cons, List.nodup_cons] at hkeys
    simp only [List.flatMap_cons, List.filter_append,
      ih (fun b' hb' => hp b' (List.mem_cons_of_mem _ hb')) hkeys.2]
  | swap a b l =>
    have hne : key b ≠ key a := by
      intro heq
      simp [heq] at hkeys
    have hnone : (f a).filter p = [] ∨ (f b).filter p = [] := by
      by_cases ha : key a = c
      · exact .inr (hp b (by simp) fun hb => hne (hb.trans ha.symm))
      · exact .inl (hp a (by simp) ha)
    simp only [List.flatMap_cons, List.filter_append]
    rcases hnone with hnone | hnone <;> simp [hnone]
  | trans h₁ _ ih₁ ih₂ =>
    rw [ih₁ hp hkeys, ih₂ (fun b hb => hp b (h₁.mem_iff.mpr hb)) ((h₁.map key).nodup_iff.mp hkeys)]

theorem filter_flatMap_middle {p : α → Bool} {front back : List β} {b : β}
    (hp : ∀ b' ∈ front ++ b :: back, key b' ≠ c → (f b').filter p = [])
    (hkeys : ((front ++ b :: back).map key).Nodup) :
    ((front ++ b :: back).flatMap f).filter p =
      ((front ++ back).flatMap f).filter p ++ (f b).filter p := by
  rw [filter_flatMap_perm hp hkeys (List.perm_middle.trans (List.perm_append_singleton _ _).symm)]
  simp

/-- When an item joins the queue of its key, or a new queue behind all others, the queues stay
as they should be and the item is the last of its key. -/
theorem upsert_keeps {Good : β → Prop} {p : α → Bool} {g : β → β} {new : β} {item : α} {d : κ}
    {l : List β} (hkeys : (l.map key).Nodup) (hgood : ∀ b ∈ l, Good b)
    (hg : ∀ b ∈ l, key b = d → Good (g b) ∧ key (g b) = d ∧
      (f (g b)).filter p = (f b).filter p ++ [item].filter p)
    (hnew : Good new ∧ key new = d ∧ f new = [item])
    (hp : ∀ b, Good b → key b ≠ c → (f b).filter p = []) :
    let l' := (modifyFirst (fun b => decide (key b = d)) g l).getD (l ++ [new])
    l' ≠ [] ∧ (l'.map key).Nodup ∧ (∀ b ∈ l', Good b) ∧
      (l'.flatMap f).filter p = (l.flatMap f).filter p ++ [item].filter p := by
  cases h : modifyFirst (fun b => decide (key b = d)) g l with
  | none =>
    have hother : ∀ b ∈ l, key b ≠ d := fun b hb =>
      of_decide_eq_false (modifyFirst_eq_none h b hb)
    refine ⟨by simp, ?_, ?_, by simp [hnew.2.2]⟩
    · rw [Option.getD_none, List.map_append, List.map_singleton, hnew.2.1]
      refine hkeys.append (List.nodup_singleton _) (List.disjoint_singleton.mpr ?_)
      simpa using hother
    · exact List.forall_mem_append.mpr ⟨hgood, List.forall_mem_singleton.mpr hnew.1⟩
  | some l' =>
    obtain ⟨front, b, back, rfl, hb, rfl⟩ := modifyFirst_eq_some h
    obtain ⟨hgood', hkey', hitem⟩ := hg b (by simp) (of_decide_eq_true hb)
    have hall : ∀ b' ∈ front ++ g b :: back, Good b' := by
      intro b' hb'
      rcases List.mem_append.mp hb' with hb' | hb'
      · exact hgood b' (List.mem_append_left _ hb')
      · rcases List.mem_cons.mp hb' with rfl | hb'
        · exact hgood'
        · exact hgood b' (List.mem_append_right _ (List.mem_cons_of_mem _ hb'))
    have hsame : (front ++ g b :: back).map key = (front ++ b :: back).map key := by
      simp [hkey', of_decide_eq_true hb]
    refine ⟨by simp, by rwa [Option.getD_some, hsame], hall, ?_⟩
    rw [Option.getD_some, filter_flatMap_middle (fun b' hb' => hp b' (hall b' hb')) (hsame ▸ hkeys),
      filter_flatMap_middle (fun b' hb' => hp b' (hgood b' hb')) hkeys, hitem, List.append_assoc]

end Upsert

/-- Every flow of a user waits with items of its own, and no two flows share a key. -/
structure UserQueue.Filed {υ φ α : Type} (keyOf : α → υ × φ) (user : UserQueue υ φ α) : Prop where
  flows_ne_nil : user.flows ≠ []
  keys : (user.flows.map (·.key)).Nodup
  filed : ∀ flow ∈ user.flows, flow.items ≠ [] ∧
    ∀ a ∈ flow.items, keyOf a = (user.key, flow.key)

/-- The queue counts its items, nobody waits in vain, and no two users share a key. -/
structure FairQueue.Filed {υ φ α : Type} (keyOf : α → υ × φ) (q : FairQueue υ φ α) : Prop where
  counted : q.Counted
  keys : (q.users.map (·.key)).Nodup
  filed : ∀ user ∈ q.users, user.Filed keyOf

variable {υ φ α : Type} {keyOf : α → υ × φ}

theorem UserQueue.Filed.key_eq {user : UserQueue υ φ α} (h : user.Filed keyOf) {a : α}
    (ha : a ∈ user.items) : (keyOf a).1 = user.key := by
  obtain ⟨flow, hflow, ha⟩ := List.mem_flatMap.mp ha
  rw [(h.filed flow hflow).2 a ha]

variable [DecidableEq υ] [DecidableEq φ]

def laneOf (keyOf : α → υ × φ) (lane : υ × φ) (items : List α) : List α :=
  items.filter fun a => keyOf a = lane

theorem laneOf_append (lane : υ × φ) (l l' : List α) :
    laneOf keyOf lane (l ++ l') = laneOf keyOf lane l ++ laneOf keyOf lane l' :=
  List.filter_append ..

theorem laneOf_eq_nil {lane : υ × φ} {items : List α} (h : ∀ a ∈ items, keyOf a ≠ lane) :
    laneOf keyOf lane items = [] :=
  List.filter_eq_nil_iff.mpr fun a ha => by simpa using h a ha

namespace UserQueue.Filed

variable {user : UserQueue υ φ α} {lane : υ × φ}

theorem lane_eq_nil (h : user.Filed keyOf) (hne : user.key ≠ lane.1) :
    laneOf keyOf lane user.items = [] :=
  laneOf_eq_nil fun _ ha heq => hne ((h.key_eq ha).symm.trans (congrArg Prod.fst heq))

theorem flow_lane_eq_nil (h : user.Filed keyOf) {flow : FlowQueue φ α} (hflow : flow ∈ user.flows)
    (hne : flow.key ≠ lane.2) : laneOf keyOf lane flow.items = [] := by
  refine laneOf_eq_nil fun a ha heq => hne ?_
  rw [← heq, (h.filed flow hflow).2 a ha]

theorem push (h : user.Filed keyOf) {flow : φ} {item : α} (hitem : keyOf item = (user.key, flow))
    (lane : υ × φ) :
    (user.push flow item).Filed keyOf ∧ (user.push flow item).key = user.key ∧
      laneOf keyOf lane (user.push flow item).items =
        laneOf keyOf lane user.items ++ laneOf keyOf lane [item] := by
  have heq : user.push flow item = { user with
      flows := (modifyFirst (fun queue => decide (queue.key = flow))
        (fun queue => { queue with items := queue.items ++ [item] }) user.flows).getD
          (user.flows ++ [⟨flow, [item]⟩]) } := by
    unfold UserQueue.push
    split <;> next hcase => rw [hcase]; rfl
  rw [heq]
  obtain ⟨hne, hkeys, hgood, hlane⟩ := @upsert_keeps α _ φ _ (·.key) (·.items) lane.2
    (fun queue : FlowQueue φ α => queue.items ≠ [] ∧
      ∀ a ∈ queue.items, keyOf a = (user.key, queue.key))
    (fun a => keyOf a = lane) (fun queue => { queue with items := queue.items ++ [item] })
    ⟨flow, [item]⟩ item flow user.flows h.keys h.filed
    (by
      intro queue hqueue hkey
      refine ⟨⟨by simp, ?_⟩, hkey, List.filter_append ..⟩
      exact List.forall_mem_append.mpr ⟨(h.filed queue hqueue).2,
        List.forall_mem_singleton.mpr (hkey ▸ hitem)⟩)
    ⟨⟨by simp, List.forall_mem_singleton.mpr hitem⟩, rfl, rfl⟩
    (fun queue hqueue hkey => laneOf_eq_nil fun a ha heq => hkey (by
      rw [← heq, hqueue.2 a ha]))
  exact ⟨⟨hne, hkeys, hgood⟩, rfl, hlane⟩

end UserQueue.Filed

namespace FairQueue

variable {q q' : FairQueue υ φ α} {lane : υ × φ}

omit [DecidableEq υ] [DecidableEq φ] in
theorem filed_empty : (empty : FairQueue υ φ α).Filed keyOf :=
  ⟨rfl, List.nodup_nil, List.forall_mem_nil _⟩

theorem Filed.push (h : q.Filed keyOf) {capacity : ℕ} {full : String} {item : α}
    (hpush : q.push capacity full (keyOf item).1 (keyOf item).2 item = .ok q') (lane : υ × φ) :
    q'.Filed keyOf ∧
      laneOf keyOf lane q'.items = laneOf keyOf lane q.items ++ laneOf keyOf lane [item] := by
  have hcounted := (items_push hpush h.counted).2
  simp only [FairQueue.push, Except.bind_unit_eq_ok_iff] at hpush
  obtain rfl := Except.ok.inj hpush.2
  have heq : place (keyOf item).1 (keyOf item).2 item q.users =
      (modifyFirst (fun user => decide (user.key = (keyOf item).1))
        (·.push (keyOf item).2 item) q.users).getD
          (q.users ++ [⟨(keyOf item).1, [⟨(keyOf item).2, [item]⟩]⟩]) := by
    unfold place
    split <;> next hcase => rw [hcase]; rfl
  obtain ⟨-, hkeys, hgood, hlane⟩ := @upsert_keeps α _ υ _ UserQueue.key UserQueue.items lane.1
    (UserQueue.Filed keyOf) (fun a => keyOf a = lane)
    (·.push (keyOf item).2 item) ⟨(keyOf item).1, [⟨(keyOf item).2, [item]⟩]⟩ item (keyOf item).1
    q.users h.keys h.filed
    (by
      intro user huser hkey
      have hitem : keyOf item = (user.key, (keyOf item).2) := hkey ▸ rfl
      obtain ⟨hfiled, hkey', hlane⟩ := (h.filed user huser).push hitem lane
      exact ⟨hfiled, hkey'.trans hkey, hlane⟩)
    ⟨⟨by simp, by simp, by simp⟩, rfl, rfl⟩
    (fun _ huser hne => huser.lane_eq_nil hne)
  exact ⟨⟨hcounted, heq ▸ hkeys, heq ▸ hgood⟩, heq ▸ hlane⟩

section Turn

variable {user : UserQueue υ φ α} {flow : FlowQueue φ α} {flows : List (FlowQueue φ α)}
  {users : List (UserQueue υ φ α)} {pending count : ℕ}

omit [DecidableEq υ] [DecidableEq φ] in
theorem Filed.turn (h : Filed keyOf ⟨user :: users, pending⟩) (huser : user.flows = flow :: flows) :
    (afterTurn count user flow flows users pending).Filed keyOf := by
  obtain ⟨hfiled, hothers⟩ := List.forall_mem_cons.mp h.filed
  have hflows := hfiled.keys
  have hown := hfiled.filed
  rw [huser] at hflows
  rw [huser, List.forall_mem_cons] at hown
  refine ⟨h.counted.turn huser, nodup_map_requeue _ h.keys, forall_mem_requeue hothers ?_⟩
  intro hleft
  refine ⟨by simpa using hleft, nodup_map_requeue _ hflows, forall_mem_requeue hown.2 ?_⟩
  exact fun hrest => ⟨by simpa using hrest, fun a ha => hown.1.2 a (List.mem_of_mem_drop ha)⟩

theorem Filed.lane_turn (h : Filed keyOf ⟨user :: users, pending⟩)
    (huser : user.flows = flow :: flows) (lane : υ × φ) :
    laneOf keyOf lane (flow.items.take count) ++
        laneOf keyOf lane (afterTurn count user flow flows users pending).items =
      laneOf keyOf lane (items ⟨user :: users, pending⟩) := by
  obtain ⟨hfiled, hothers⟩ := List.forall_mem_cons.mp h.filed
  have hitems : user.items = flow.items ++ flows.flatMap (·.items) := by
    rw [UserQueue.items, huser, List.flatMap_cons]
  have hwhole : laneOf keyOf lane flow.items = laneOf keyOf lane (flow.items.take count) ++
      laneOf keyOf lane (flow.items.drop count) := by
    rw [← laneOf_append, List.take_append_drop]
  rw [items_afterTurn, items, List.flatMap_cons, hitems]
  simp only [laneOf_append, hwhole]
  -- Only the queues of the lane itself matter, and the others of its user come after it.
  by_cases hlane : user.key = lane.1
  · have hnone : laneOf keyOf lane (users.flatMap (·.items)) = [] := by
      refine laneOf_eq_nil fun a ha heq => (List.nodup_cons.mp h.keys).1 ?_
      obtain ⟨other, hother, ha⟩ := List.mem_flatMap.mp ha
      have hkey := (hothers other hother).key_eq ha
      exact List.mem_map.mpr ⟨other, hother, by rw [← hkey, heq, ← hlane]⟩
    by_cases hflow : flow.key = lane.2
    · have hnone' : laneOf keyOf lane (flows.flatMap (·.items)) = [] := by
        have hkeys := hfiled.keys
        rw [huser] at hkeys
        refine laneOf_eq_nil fun a ha heq => (List.nodup_cons.mp hkeys).1 ?_
        obtain ⟨other, hother, ha⟩ := List.mem_flatMap.mp ha
        have hkey := (hfiled.filed other (huser ▸ List.mem_cons_of_mem _ hother)).2 a ha
        rw [heq] at hkey
        exact List.mem_map.mpr ⟨other, hother, (congrArg Prod.snd hkey).symm.trans hflow.symm⟩
      simp [hnone, hnone']
    · have hnone' := hfiled.flow_lane_eq_nil (huser ▸ List.mem_cons_self) hflow
      rw [hwhole, List.append_eq_nil_iff] at hnone'
      simp [hnone, hnone'.1, hnone'.2]
  · have hnone := hfiled.lane_eq_nil hlane
    rw [hitems, laneOf_append, hwhole, List.append_eq_nil_iff, List.append_eq_nil_iff] at hnone
    simp [hnone.1.1, hnone.1.2, hnone.2]

end Turn

theorem Filed.takeBatch (h : q.Filed keyOf) (size quantum : ℕ) :
    (q.takeBatch size quantum).2.Filed keyOf ∧ ∀ lane,
      laneOf keyOf lane (q.takeBatch size quantum).1 ++
        laneOf keyOf lane (q.takeBatch size quantum).2.items = laneOf keyOf lane q.items := by
  refine @takeRounds_keeps υ φ α size quantum (fun q' batch => q'.Filed keyOf ∧ ∀ lane,
    laneOf keyOf lane batch ++ laneOf keyOf lane q'.items = laneOf keyOf lane q.items)
    ?_ ?_ _ q [] ⟨h, fun _ => rfl⟩
  · rintro user users pending batch hflows ⟨h', -⟩
    exact absurd hflows (h'.filed user List.mem_cons_self).flows_ne_nil
  · rintro user flow flows users pending batch hflows - ⟨h', hlanes⟩
    refine ⟨h'.turn hflows, fun lane => ?_⟩
    rw [laneOf_append, List.append_assoc, h'.lane_turn hflows, hlanes]

/-! ### Waiting for a turn -/

/-- What a user that waits for its next item has seen leave: that item, after at most `bound` items
of others, or so few items that every user ahead of it may still take a quantum. -/
def Owed (keyOf : α → υ × φ) (quantum : ℕ) (key : υ) (bound : ℕ) (q : FairQueue υ φ α)
    (out : List α) : Prop :=
  (∃ a ∈ out.take (bound + 1), (keyOf a).1 = key) ∨
    ∃ ahead behind, q.users.map (·.key) = ahead ++ key :: behind ∧
      out.length + quantum * ahead.length ≤ bound

namespace Owed

variable {quantum : ℕ} {key : υ} {bound : ℕ} {out : List α}

omit [DecidableEq υ] [DecidableEq φ] in
/-- Others may come behind. -/
theorem mono (h : q.Owed keyOf quantum key bound out)
    (hkeys : q.users.map (·.key) <+: q'.users.map (·.key)) :
    q'.Owed keyOf quantum key bound out := by
  refine h.imp_right ?_
  rintro ⟨ahead, behind, heq, hbound⟩
  obtain ⟨more, hmore⟩ := hkeys
  exact ⟨ahead, behind ++ more, by rw [← hmore, heq]; simp, hbound⟩

theorem push (h : q.Owed keyOf quantum key bound out) {capacity : ℕ} {full : String} {user : υ}
    {flow : φ} {item : α} (hpush : q.push capacity full user flow item = .ok q') :
    q'.Owed keyOf quantum key bound out := by
  simp only [FairQueue.push, Except.bind_unit_eq_ok_iff] at hpush
  obtain rfl := Except.ok.inj hpush.2
  refine h.mono ?_
  simp only [place]
  split
  · next hcase =>
    obtain ⟨front, user, back, heq, -, rfl⟩ := modifyFirst_eq_some hcase
    have hkey : (user.push flow item).key = user.key := by
      unfold UserQueue.push
      split <;> rfl
    simp [heq, hkey]
  · exact (List.prefix_append _ _).map _

omit [DecidableEq υ] [DecidableEq φ] in
theorem turn {user : UserQueue υ φ α} {flow : FlowQueue φ α} {flows : List (FlowQueue φ α)}
    {users : List (UserQueue υ φ α)} {pending count : ℕ}
    (h : Owed keyOf quantum key bound ⟨user :: users, pending⟩ out)
    (hfiled : user.Filed keyOf) (hflows : user.flows = flow :: flows) (hcount : 0 < count)
    (hquantum : count ≤ quantum) :
    (afterTurn count user flow flows users pending).Owed keyOf quantum key bound
      (out ++ flow.items.take count) := by
  rcases h with ⟨a, ha, hkey⟩ | ⟨ahead, behind, heq, hbound⟩
  · refine .inl ⟨a, ?_, hkey⟩
    rw [List.take_append]
    exact List.mem_append_left _ ha
  cases ahead with
  | nil =>
    -- It is the user's own turn, and its flow does not wait in vain.
    obtain ⟨rfl, -⟩ := List.cons.inj heq
    obtain ⟨hne, hown⟩ := hfiled.filed flow (hflows ▸ List.mem_cons_self)
    obtain ⟨a, rest, hitems⟩ := List.exists_cons_of_ne_nil hne
    obtain ⟨n, rfl⟩ := Nat.exists_eq_succ_of_ne_zero hcount.ne'
    obtain ⟨m, hm⟩ : ∃ m, bound + 1 - out.length = m + 1 :=
      ⟨bound - out.length, by simp at hbound; omega⟩
    refine .inl ⟨a, ?_, by rw [hown a (hitems ▸ List.mem_cons_self)]⟩
    rw [List.take_append, hm, hitems, List.take_succ_cons, List.take_succ_cons]
    exact List.mem_append_right _ List.mem_cons_self
  | cons first ahead =>
    obtain ⟨-, heq⟩ := List.cons.inj heq
    have hlength : (flow.items.take count).length ≤ quantum :=
      (List.length_take_le _ _).trans hquantum
    refine @mono υ φ α keyOf ⟨users, 0⟩ _ quantum key bound _ (.inr ⟨ahead, behind, heq, ?_⟩) ?_
    · rw [List.length_cons, Nat.mul_succ] at hbound
      rw [List.length_append]
      omega
    · simp only [afterTurn]
      unfold requeue
      split_ifs
      · exact List.prefix_refl _
      · exact (List.prefix_append _ _).map _
      · exact List.prefix_refl _
      · exact (List.prefix_append _ _).map _

omit [DecidableEq υ] [DecidableEq φ] in
theorem takeBatch (h : q.Owed keyOf quantum key bound out) (hfiled : q.Filed keyOf) (size : ℕ)
    (hquantum : 0 < quantum) :
    (q.takeBatch size quantum).2.Owed keyOf quantum key bound
      (out ++ (q.takeBatch size quantum).1) := by
  refine And.right (@takeRounds_keeps υ φ α size quantum
    (fun q' batch => q'.Filed keyOf ∧ q'.Owed keyOf quantum key bound (out ++ batch))
    ?_ ?_ _ q [] ⟨hfiled, by rwa [List.append_nil]⟩)
  · rintro user users pending batch hflows ⟨h', -⟩
    exact absurd hflows (h'.filed user List.mem_cons_self).flows_ne_nil
  · rintro user flow flows users pending batch hflows hroom ⟨h', howed⟩
    refine ⟨h'.turn hflows, ?_⟩
    rw [← List.append_assoc]
    exact howed.turn (h'.filed user List.mem_cons_self) hflows (by omega) (Nat.min_le_left _ _)

end Owed

end FairQueue
