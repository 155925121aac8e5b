import OpenShield.Daemon.Registry
import OpenShield.Data.Lapse

/-!
# The owner hints of Fast enforcement

The resolvers of Enforcing and Learning share a cache of process hints. A resolution prepares the
cache for its generation when it begins and seeds it with the owners it found when it ends; each of
these calls is skipped when the cache is locked, so any calls may come in any order.

Every hint is modelled with the resolution that seeded it, which the code does not keep. Which
owners a resolution seeds is an input.
-/

namespace OpenShield

def MAX_OWNER_HINTS : ℕ := 256

def OWNER_HINT_TTL : ℕ := 180000000000

structure Resolution where
  learning : Bool
  generation : BitVec 32
  deriving DecidableEq

/-- A resolution whose hints may be used in a generation: one of the generation itself, or of
Learning directly before it. -/
def Resolution.Serves (resolution : Resolution) (generation : BitVec 32) : Prop :=
  resolution.generation = generation ∨
    resolution.learning = true ∧ resolution.generation + 1 = generation
  deriving Decidable

structure OwnerHint where
  processId : BitVec 32
  anchorTid : BitVec 32
  anchorStart : BitVec 64
  lastVerifiedAt : Instant
  seededBy : Resolution

/-- The hints by user and process. -/
structure OwnerCache where
  generation : Option (BitVec 32)
  learningWarm : Bool
  entries : List ((BitVec 32 × BitVec 32) × OwnerHint)

namespace OwnerCache

def new : OwnerCache := ⟨none, false, []⟩

def retained (now : Instant) (c : OwnerCache) : List ((BitVec 32 × BitVec 32) × OwnerHint) :=
  c.entries.filter fun entry => decide (now - entry.2.lastVerifiedAt < OWNER_HINT_TTL)

variable (generation : BitVec 32)

def directTransition (c : OwnerCache) : Bool :=
  c.learningWarm && c.generation.any fun previous => decide (previous + 1 = generation)

def prepare (now : Instant) (c : OwnerCache) : OwnerCache where
  generation := some generation
  learningWarm := false
  entries :=
    if c.generation ≠ some generation ∧ c.directTransition generation = false then []
    else c.retained now

def prepareLearning (now : Instant) (c : OwnerCache) : OwnerCache where
  generation := some generation
  learningWarm := true
  entries := if c.generation ≠ some generation then [] else c.retained now

/-- Insert a hint; a full cache forgets the one that was verified first. -/
def insert (uid : BitVec 32) (hint : OwnerHint) (c : OwnerCache) : OwnerCache :=
  let key := (uid, hint.processId)
  let entries :=
    if Table.find c.entries key = none ∧ MAX_OWNER_HINTS ≤ c.entries.length then
      ((c.entries.argmin (·.2.lastVerifiedAt)).map Prod.fst).elim c.entries
        fun oldest => Table.drop oldest c.entries
    else c.entries
  { c with entries := Table.drop key entries ++ [(key, hint)] }

def seed (resolution : Resolution) (now : Instant)
    (owners : List (BitVec 32 × BitVec 32 × BitVec 32 × BitVec 64)) (c : OwnerCache) : OwnerCache :=
  owners.foldl (fun c owner =>
    c.insert owner.1 ⟨owner.2.1, owner.2.2.1, owner.2.2.2, now, resolution⟩) c

def touch (keys : List (BitVec 32 × BitVec 32)) (now : Instant) (c : OwnerCache) : OwnerCache :=
  { c with entries := c.entries.map fun entry =>
      if entry.1 ∈ keys then (entry.1, { entry.2 with lastVerifiedAt := now }) else entry }

inductive Call where
  | prepare (generation : BitVec 32) (now : Instant)
  | prepareLearning (generation : BitVec 32) (now : Instant)
  | seed (resolution : Resolution) (now : Instant)
      (owners : List (BitVec 32 × BitVec 32 × BitVec 32 × BitVec 64))
  | touch (keys : List (BitVec 32 × BitVec 32)) (now : Instant)
  | clear
  | clearAfterDetectedAmbiguity

variable (c : OwnerCache)

def step : Call → OwnerCache
  | .prepare generation now => c.prepare generation now
  | .prepareLearning generation now => c.prepareLearning generation now
  | .seed resolution now owners => c.seed resolution now owners
  | .touch keys now => c.touch keys now
  | .clear => new
  | .clearAfterDetectedAmbiguity => { c with entries := [] }

/-- Whatever the cache is prepared for, the hints left are few, verified lately, and of resolutions
that serve the generation. -/
def Clean : Prop :=
  ∀ generation now, (c.prepare generation now).entries.length ≤ MAX_OWNER_HINTS ∧
    ∀ entry ∈ (c.prepare generation now).entries,
      now - entry.2.lastVerifiedAt < OWNER_HINT_TTL ∧ entry.2.seededBy.Serves generation

def Fits (resolution : Resolution) : Prop :=
  ∀ generation, c.generation = some generation → resolution.Serves generation ∧
    (c.learningWarm = true → resolution.Serves (generation + 1))

/-- Owners are seeded after the cache has moved on to another generation, or a generation becomes
one of Learning while the cache holds other hints of it. -/
def Lapse : Call → Prop
  | .seed resolution _ owners => owners ≠ [] ∧ ¬c.Fits resolution
  | .prepareLearning generation now => c.generation = some generation ∧
      ∃ entry ∈ c.retained now, ¬entry.2.seededBy.Serves (generation + 1)
  | _ => False

/-! ### The bound -/

variable {c : OwnerCache}

theorem length_insert (h : c.entries.length ≤ MAX_OWNER_HINTS) (uid : BitVec 32)
    (hint : OwnerHint) : (c.insert uid hint).entries.length ≤ MAX_OWNER_HINTS := by
  simp only [insert, List.length_append, List.length_singleton]
  refine Nat.succ_le_of_lt ?_
  split_ifs with hfull
  · cases holdest : c.entries.argmin (·.2.lastVerifiedAt) with
    | none =>
      rw [List.argmin_eq_none.mp holdest] at hfull
      exact absurd hfull.2 (by decide)
    | some oldest =>
      exact lt_of_le_of_lt (List.length_filter_le _ _)
        ((Table.length_drop_lt (List.argmin_mem holdest)).trans_le h)
  · by_cases hnew : Table.find c.entries (uid, hint.processId) = none
    · exact lt_of_le_of_lt (List.length_filter_le _ _)
        (Nat.lt_of_not_le fun hle => hfull ⟨hnew, hle⟩)
    · obtain ⟨value, hmem⟩ : ∃ value, ((uid, hint.processId), value) ∈ c.entries :=
        not_forall_not.mp fun hnone => hnew (Table.find_eq_none_iff.mpr hnone)
      exact (Table.length_drop_lt hmem).trans_le h

theorem length_retained (h : c.entries.length ≤ MAX_OWNER_HINTS) (now : Instant) :
    (c.retained now).length ≤ MAX_OWNER_HINTS :=
  (List.length_filter_le _ _).trans h

theorem length_prepare (h : c.entries.length ≤ MAX_OWNER_HINTS) (generation : BitVec 32)
    (now : Instant) : (c.prepare generation now).entries.length ≤ MAX_OWNER_HINTS := by
  simp only [prepare]
  split_ifs
  · exact Nat.zero_le _
  · exact length_retained h now

theorem length_step (h : c.entries.length ≤ MAX_OWNER_HINTS) (call : Call) :
    (c.step call).entries.length ≤ MAX_OWNER_HINTS := by
  cases call with
  | prepare generation now => exact length_prepare h generation now
  | prepareLearning generation now =>
    simp only [step, prepareLearning]
    split_ifs
    · exact Nat.zero_le _
    · exact length_retained h now
  | seed resolution now owners =>
    exact List.foldlRecOn owners _ 
      (motive := fun c : OwnerCache => c.entries.length ≤ MAX_OWNER_HINTS) h
      fun _ h owner _ => length_insert h _ _
  | touch keys now => simpa [step, touch] using h
  | clear => exact Nat.zero_le _
  | clearAfterDetectedAmbiguity => exact Nat.zero_le _

/-! ### The generations -/

/-- A hint stays over a preparation exactly if it is recent and the cache stands at the generation
or in Learning directly before it. -/
theorem mem_prepare {generation : BitVec 32} {now : Instant}
    {entry : (BitVec 32 × BitVec 32) × OwnerHint} :
    entry ∈ (c.prepare generation now).entries ↔ entry ∈ c.retained now ∧
      ∃ current, c.generation = some current ∧
        (current = generation ∨ c.learningWarm = true ∧ current + 1 = generation) := by
  obtain ⟨_ | current, warm, entries⟩ := c
  · simp [prepare, directTransition]
  · by_cases hsame : current = generation <;> cases warm <;>
      simp [prepare, directTransition, retained, hsame, and_comm]

theorem clean_iff (h : c.entries.length ≤ MAX_OWNER_HINTS) :
    c.Clean ↔ ∀ entry ∈ c.entries, c.Fits entry.2.seededBy := by
  constructor
  · -- At time zero nothing has expired.
    intro hclean entry hentry current hcurrent
    have hretained : entry ∈ c.retained 0 :=
      List.mem_filter.mpr ⟨hentry, by simp [OWNER_HINT_TTL]⟩
    refine ⟨((hclean current 0).2 entry (mem_prepare.mpr ⟨hretained, current, hcurrent, ?_⟩)).2,
      fun hwarm => ((hclean (current + 1) 0).2 entry
        (mem_prepare.mpr ⟨hretained, current, hcurrent, ?_⟩)).2⟩
    · exact .inl rfl
    · exact .inr ⟨hwarm, rfl⟩
  · intro hfits generation now
    refine ⟨length_prepare h generation now, fun entry hentry => ?_⟩
    obtain ⟨hretained, current, hcurrent, hkept⟩ := mem_prepare.mp hentry
    obtain ⟨hentry, hrecent⟩ := List.mem_filter.mp hretained
    have hfit := hfits entry hentry current hcurrent
    refine ⟨of_decide_eq_true hrecent, ?_⟩
    rcases hkept with rfl | ⟨hwarm, rfl⟩
    · exact hfit.1
    · exact hfit.2 hwarm

theorem mem_insert {uid : BitVec 32} {hint : OwnerHint}
    {entry : (BitVec 32 × BitVec 32) × OwnerHint} (h : entry ∈ (c.insert uid hint).entries) :
    entry ∈ c.entries ∨ entry.2 = hint := by
  rcases List.mem_append.mp h with hold | hnew
  · have hold := (List.mem_filter.mp hold).1
    split_ifs at hold
    · cases holdest : c.entries.argmin (·.2.lastVerifiedAt) with
      | none => exact .inl (by simpa [holdest] using hold)
      | some oldest =>
        rw [holdest] at hold
        exact .inl (List.mem_filter.mp hold).1
    · exact .inl hold
  · exact .inr (by rw [List.mem_singleton.mp hnew])

theorem seed_spec (resolution : Resolution) (now : Instant)
    (owners : List (BitVec 32 × BitVec 32 × BitVec 32 × BitVec 64)) :
    (∀ entry ∈ (c.seed resolution now owners).entries,
      entry ∈ c.entries ∨ owners ≠ [] ∧ entry.2.seededBy = resolution) ∧
    (owners ≠ [] → ∃ entry ∈ (c.seed resolution now owners).entries,
      entry.2.seededBy = resolution) ∧
    (c.seed resolution now owners).generation = c.generation ∧
    (c.seed resolution now owners).learningWarm = c.learningWarm := by
  induction owners using List.reverseRecOn with
  | nil => exact ⟨fun _ => .inl, fun h => absurd rfl h, rfl, rfl⟩
  | append_singleton owners owner ih =>
    simp only [seed, List.foldl_append, List.foldl_cons, List.foldl_nil] at ih ⊢
    refine ⟨fun entry hentry => ?_, fun _ => ⟨_, List.mem_append_right _ (List.mem_singleton_self _),
      rfl⟩, ih.2.2⟩
    rcases mem_insert hentry with hold | heq
    · exact (ih.1 entry hold).imp_right fun hnew => ⟨by simp, hnew.2⟩
    · exact .inr ⟨by simp, by rw [heq]⟩

theorem step_clean_iff (h : c.entries.length ≤ MAX_OWNER_HINTS) (hclean : c.Clean) (call : Call) :
    (c.step call).Clean ↔ ¬c.Lapse call := by
  have hfits := (clean_iff h).mp hclean
  rw [clean_iff (length_step h call)]
  cases call with
  | prepare generation now =>
    refine iff_of_true (fun entry hentry => ?_) not_false
    intro current hcurrent
    obtain rfl := Option.some.inj hcurrent
    exact ⟨((hclean _ now).2 entry hentry).2, fun hwarm => absurd hwarm (by simp [step, prepare])⟩
  | prepareLearning generation now =>
    have hgeneration : (c.step (.prepareLearning generation now)).generation = some generation := rfl
    constructor
    · rintro hall ⟨hsame, entry, hentry, hnot⟩
      refine hnot ((hall entry ?_ generation hgeneration).2 rfl)
      simpa [step, prepareLearning, hsame] using hentry
    · intro hnot entry hentry current hcurrent
      obtain rfl := Option.some.inj hcurrent
      simp only [step, prepareLearning] at hentry
      split_ifs at hentry with hother
      · cases hentry
      · have hsame := not_not.mp hother
        refine ⟨(hfits entry (List.mem_filter.mp hentry).1 _ hsame).1, fun _ => ?_⟩
        exact not_not.mp fun hlate => hnot ⟨hsame, entry, hentry, hlate⟩
  | seed resolution now owners =>
    obtain ⟨hmem, hnew, hgeneration, hwarm⟩ := @seed_spec c resolution now owners
    have hsame : ∀ resolution', (c.seed resolution now owners).Fits resolution' ↔
        c.Fits resolution' := by
      intro resolution'
      rw [Fits, Fits, hgeneration, hwarm]
    constructor
    · rintro hall ⟨hne, hnot⟩
      obtain ⟨entry, hentry, rfl⟩ := hnew hne
      exact hnot ((hsame _).mp (hall entry hentry))
    · intro hnot entry hentry
      refine (hsame _).mpr ?_
      rcases hmem entry hentry with hold | ⟨hne, heq⟩
      · exact hfits entry hold
      · rw [heq]
        exact not_not.mp fun hlate => hnot ⟨hne, hlate⟩
  | touch keys now =>
    refine iff_of_true (fun entry hentry => ?_) not_false
    obtain ⟨old, hold, rfl⟩ := List.mem_map.mp hentry
    have hfit := hfits old hold
    split_ifs <;> exact hfit
  | clear => exact iff_of_true (List.forall_mem_nil _) not_false
  | clearAfterDetectedAmbiguity => exact iff_of_true (List.forall_mem_nil _) not_false

end OwnerCache

end OpenShield
