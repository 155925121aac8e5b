import OpenShield.Core.State

/-!
# Private mark domains

The two upper bits of the packet mark and the low 31 bits of the connmark carry OpenShield's
handshake between kernel rules and the daemon. Packet marks: a pending packet waits for the
daemon, a handed-off packet is authorised, a rejected one is to be refused. Connmarks: a flow
mark dates the authorisation of a connection, a reject mark the refusal of one, and bit 31
belongs to other programs.
-/

namespace OpenShield

def APPLICATION_QUEUE_NUMBER : BitVec 16 := 1337
def APPLICATION_LEARNING_QUEUE_NUMBER : BitVec 16 := 1338
def APPLICATION_REPLY_QUEUE_NUMBER : BitVec 16 := 1339

def APPLICATION_MARK_GENERATION_MASK : BitVec 32 := MAX_FLOW_GENERATION
def APPLICATION_MARK_DOMAIN_MASK : BitVec 32 := 0xc0000000
def APPLICATION_MARK_PAYLOAD_MASK : BitVec 32 := 0x3fffffff
def APPLICATION_PENDING_DOMAIN : BitVec 32 := 0x80000000
def APPLICATION_HANDOFF_DOMAIN : BitVec 32 := 0xc0000000
def APPLICATION_REJECT_DOMAIN : BitVec 32 := 0x40000000
def APPLICATION_FLOW_DOMAIN : BitVec 32 := 0x40000000
def APPLICATION_CONNMARK_MASK : BitVec 32 := 0x7fffffff
def APPLICATION_CONNMARK_FOREIGN_MASK : BitVec 32 := 0x80000000

def applicationPendingMark (packetMark : BitVec 32) : BitVec 32 :=
  APPLICATION_PENDING_DOMAIN ||| (packetMark &&& APPLICATION_MARK_PAYLOAD_MASK)

def applicationHandoffMark (packetMark : BitVec 32) : BitVec 32 :=
  APPLICATION_HANDOFF_DOMAIN ||| (packetMark &&& APPLICATION_MARK_PAYLOAD_MASK)

def applicationRejectMark (packetMark : BitVec 32) : BitVec 32 :=
  APPLICATION_REJECT_DOMAIN ||| (packetMark &&& APPLICATION_MARK_PAYLOAD_MASK)

def applicationReplyRetryMark (packetMark : BitVec 32) : BitVec 32 :=
  let attempts := packetMark >>> 30
  let nextAttempt := if attempts < 3 then attempts + 1 else 3
  (nextAttempt <<< 30) ||| (packetMark &&& APPLICATION_MARK_PAYLOAD_MASK)

def applicationFlowMark (flowGeneration : BitVec 32) : BitVec 32 :=
  APPLICATION_FLOW_DOMAIN ||| (flowGeneration &&& APPLICATION_MARK_GENERATION_MASK)

def applicationRejectConnmark (flowGeneration : BitVec 32) : BitVec 32 :=
  flowGeneration &&& APPLICATION_MARK_GENERATION_MASK

/-- The named traffic counters. -/
inductive Counter
  | acceptedIn
  | acceptedOut
  | droppedIn
  | droppedOut
  | learnedOut
  deriving DecidableEq, Repr

def ruleActionPriority : RuleAction → ℕ
  | .drop => 0
  | .reject => 1
  | .accept => 2

def decisionKey (rule : Rule) : ℕ ×ₗ Uuid :=
  toLex (ruleActionPriority rule.spec.action, rule.id)

def ruleOrder (a b : Rule) : Prop :=
  ruleActionPriority a.spec.action < ruleActionPriority b.spec.action ∨
    (ruleActionPriority a.spec.action = ruleActionPriority b.spec.action ∧ a.id ≤ b.id)

instance (a b : Rule) : Decidable (ruleOrder a b) := by
  unfold ruleOrder
  infer_instance

def hasEnabledOutboundReject (snapshot : Snapshot) : Bool :=
  snapshot.rules.any fun rule =>
    rule.spec.enabled && decide (rule.spec.direction = .outbound) &&
      decide (rule.spec.action = .reject)

theorem ruleActionPriority_le_of_key_le {a b : Rule} (h : decisionKey a ≤ decisionKey b) :
    ruleActionPriority a.spec.action ≤ ruleActionPriority b.spec.action := by
  rw [decisionKey, decisionKey, Prod.Lex.toLex_le_toLex] at h
  rcases h with h | ⟨h, -⟩
  · exact h.le
  · exact h.le

theorem ruleOrder_iff (a b : Rule) : ruleOrder a b ↔ decisionKey a ≤ decisionKey b := by
  rw [decisionKey, decisionKey, Prod.Lex.toLex_le_toLex, ruleOrder]

/-! ### Facts about the mark domains -/

theorem payloadMask_eq : APPLICATION_MARK_PAYLOAD_MASK = ~~~APPLICATION_MARK_DOMAIN_MASK := by
  decide

theorem foreignMask_eq : APPLICATION_CONNMARK_FOREIGN_MASK = ~~~APPLICATION_CONNMARK_MASK := by
  decide

variable (mark generation : BitVec 32)

theorem field_of_replaced (value mask : BitVec 32) :
    (mark &&& ~~~mask ||| value) &&& mask = value &&& mask := by
  ext i hi
  simp only [BitVec.getElem_and, BitVec.getElem_or, BitVec.getElem_not]
  cases mark[i] <;> cases value[i] <;> cases mask[i] <;> rfl

theorem xor_replace_eq_or (value mask : BitVec 32) (h : value &&& ~~~mask = 0) :
    mark &&& ~~~mask ^^^ value = mark &&& ~~~mask ||| value := by
  ext i hi
  have hbit := congrArg (fun b => b[i]) h
  simp only [BitVec.getElem_and, BitVec.getElem_or, BitVec.getElem_not,
    BitVec.getElem_xor] at hbit ⊢
  cases hx : mark[i] <;> cases hv : value[i] <;> cases hm : mask[i] <;> simp_all

theorem and_not_eq_self {mark mask : BitVec 32} (h : mark &&& mask = 0) :
    mark &&& ~~~mask = mark := by
  ext i hi
  have hbit := congrArg (fun b => b[i]) h
  simp only [BitVec.getElem_and, BitVec.getElem_not] at hbit ⊢
  cases hx : mark[i] <;> cases hm : mask[i] <;> simp_all

theorem domain_cases :
    mark &&& APPLICATION_MARK_DOMAIN_MASK = 0 ∨
      mark &&& APPLICATION_MARK_DOMAIN_MASK = APPLICATION_REJECT_DOMAIN ∨
      mark &&& APPLICATION_MARK_DOMAIN_MASK = APPLICATION_PENDING_DOMAIN ∨
      mark &&& APPLICATION_MARK_DOMAIN_MASK = APPLICATION_HANDOFF_DOMAIN := by
  have hmask : ∀ i : Fin 32, APPLICATION_MARK_DOMAIN_MASK.getLsbD i = decide (30 ≤ i.val) := by
    decide
  -- the domain is the part of the mark above bit 29, a number below four
  have hbits : mark &&& APPLICATION_MARK_DOMAIN_MASK = (mark >>> 30) <<< 30 := by
    ext i hi
    have hi' := hmask ⟨i, hi⟩
    rw [BitVec.getElem_and, ← BitVec.getLsbD_eq_getElem (x := APPLICATION_MARK_DOMAIN_MASK), hi']
    by_cases h : 30 ≤ i
    · simp [h, Nat.not_lt.mpr h, BitVec.getLsbD_eq_getElem, hi]
    · simp [h, Nat.lt_of_not_le h]
  have hcases : mark >>> 30 = 0 ∨ mark >>> 30 = 1 ∨ mark >>> 30 = 2 ∨ mark >>> 30 = 3 := by
    have hlt : (mark >>> 30).toNat < 4 := by
      rw [BitVec.toNat_ushiftRight, Nat.shiftRight_eq_div_pow]
      omega
    generalize mark >>> 30 = x at hlt ⊢
    bv_omega
  rw [hbits]
  rcases hcases with h | h | h | h <;> rw [h] <;> decide

theorem le_of_validFlowGeneration {generation : BitVec 32}
    (h : validFlowGeneration generation = true) : generation ≤ MAX_FLOW_GENERATION := by
  simp only [validFlowGeneration, Bool.and_eq_true, decide_eq_true_eq] at h
  exact h.2

theorem and_generationMask {generation : BitVec 32}
    (hle : generation ≤ MAX_FLOW_GENERATION) :
    generation &&& APPLICATION_MARK_GENERATION_MASK = generation := by
  have hlt : generation.toNat < 2 ^ 30 := Nat.lt_of_le_of_lt (BitVec.le_def.mp hle) (by decide)
  have hmask : APPLICATION_MARK_GENERATION_MASK.toNat = 2 ^ 30 - 1 := by decide
  apply BitVec.eq_of_toNat_eq
  rw [BitVec.toNat_and, hmask, Nat.and_two_pow_sub_one_eq_mod, Nat.mod_eq_of_lt hlt]

theorem applicationFlowMark_and (mask : BitVec 32) :
    applicationFlowMark generation &&& mask =
      APPLICATION_FLOW_DOMAIN &&& mask |||
        generation &&& (APPLICATION_MARK_GENERATION_MASK &&& mask) := by
  rw [applicationFlowMark, BitVec.and_or_distrib_right, BitVec.and_assoc]

theorem applicationFlowMark_own :
    applicationFlowMark generation &&& ~~~APPLICATION_CONNMARK_MASK = 0 := by
  have hdomain : APPLICATION_FLOW_DOMAIN &&& ~~~APPLICATION_CONNMARK_MASK = 0 := by decide
  have hmask : APPLICATION_MARK_GENERATION_MASK &&& ~~~APPLICATION_CONNMARK_MASK = 0 := by decide
  rw [applicationFlowMark_and, hdomain, hmask]
  simp

theorem applicationRejectConnmark_own :
    applicationRejectConnmark generation &&& ~~~APPLICATION_CONNMARK_MASK = 0 := by
  have hmask : APPLICATION_MARK_GENERATION_MASK &&& ~~~APPLICATION_CONNMARK_MASK = 0 := by decide
  rw [applicationRejectConnmark, BitVec.and_assoc, hmask]
  simp

theorem applicationFlowMark_injective {a b : BitVec 32} (ha : a ≤ MAX_FLOW_GENERATION)
    (hb : b ≤ MAX_FLOW_GENERATION) (h : applicationFlowMark a = applicationFlowMark b) :
    a = b := by
  have hpayload (x : BitVec 32) (hx : x ≤ MAX_FLOW_GENERATION) :
      applicationFlowMark x &&& APPLICATION_MARK_GENERATION_MASK = x := by
    have hdomain : APPLICATION_FLOW_DOMAIN &&& APPLICATION_MARK_GENERATION_MASK = 0 := by decide
    rw [applicationFlowMark_and, BitVec.and_self, hdomain, and_generationMask hx]
    simp
  rw [← hpayload a ha, h, hpayload b hb]

theorem applicationFlowMark_ne_rejectConnmark (a b : BitVec 32) :
    applicationFlowMark a ≠ applicationRejectConnmark b := by
  intro heq
  have hbit := congrArg (fun mark : BitVec 32 => mark.getLsbD 30) heq
  simp [applicationFlowMark, applicationRejectConnmark, APPLICATION_FLOW_DOMAIN,
    APPLICATION_MARK_GENERATION_MASK, MAX_FLOW_GENERATION] at hbit

theorem applicationFlowMark_ne_zero : applicationFlowMark generation ≠ 0 := by
  intro heq
  have hbit := congrArg (fun mark : BitVec 32 => mark.getLsbD 30) heq
  simp [applicationFlowMark, APPLICATION_FLOW_DOMAIN] at hbit

end OpenShield
