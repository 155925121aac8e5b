import OpenShield.Verdict.OutboundSafety

/-!
# Inbound packets

Packets from other hosts that do not answer anything are denied unless a rule about inbound
traffic accepts them. The input chain has many other reasons to accept a packet, among them
some that come from outbound rules and from marks; none of them applies to such packets.
-/

namespace OpenShield

open Netfilter

/-- Some inbound accept rule matches. Valid inbound rules have no application. -/
theorem networkMatch_inbound_iff (snapshot : ValidSnapshot) (p : Packet) :
    networkMatch snapshot.toSnapshot p .inbound .accept = true ↔
      ∃ r ∈ snapshot.rules, r.spec.enabled = true ∧ r.spec.direction = .inbound ∧
        r.spec.action = .accept ∧ selectorsMatch p r.spec .inbound false = true := by
  simp only [networkMatch, List.any_eq_true, networkRuleMatches, Bool.and_eq_true,
    decide_eq_true_eq]
  refine exists_congr fun r => and_congr_right fun hr => ?_
  constructor
  · rintro ⟨⟨⟨⟨henabled, hdirection⟩, -⟩, haction⟩, hselectors⟩
    exact ⟨henabled, hdirection, haction, hselectors⟩
  · rintro ⟨henabled, hdirection, haction, hselectors⟩
    refine ⟨⟨⟨⟨henabled, hdirection⟩, ?_⟩, haction⟩, hselectors⟩
    by_contra happlication
    have hsome : r.spec.application.isSome = true := by
      simpa [Option.isSome_iff_ne_none] using happlication
    rw [direction_of_application (snapshot.rule_valid hr).spec hsome] at hdirection
    cases hdirection

/-- Inbound default deny: a packet from another host that is no reply and none of the fixed
control messages is accepted exactly when it is valid and an inbound accept rule matches, and
dropped otherwise. Neither marks nor other rules nor any queue have a part in it. -/
theorem inbound_default_deny (backend : Backend) (snapshot : ValidSnapshot)
    (hmode : snapshot.mode ≠ .blockAll) (p : Packet) (d : Meta Counter)
    (hinterface : p.iif ≠ some "lo") (hreply : p.isReply = false)
    (hdhcp : dhcpBootstrap p = false) (hcontrol : ipv6HostControl p = false)
    (answers : List (BitVec 16 → Meta Counter → Answer)) :
    ((runFrom (backend.inputHook snapshot.toSnapshot p) 0 d answers).2 = .accepted ↔
        p.ct.bit ≠ .invalid ∧ ∃ r ∈ snapshot.rules, r.spec.enabled = true ∧
          r.spec.direction = .inbound ∧ r.spec.action = .accept ∧
          selectorsMatch p r.spec .inbound false = true) ∧
      ((runFrom (backend.inputHook snapshot.toSnapshot p) 0 d answers).2 = .accepted ∨
        (runFrom (backend.inputHook snapshot.toSnapshot p) 0 d answers).2 = .dropped) := by
  rw [← networkMatch_inbound_iff, backend.inputHook_eq snapshot p hmode]
  have hdecision : (inputDecision snapshot.toSnapshot p d).2 = _ :=
    inputDecision_of_new d hinterface hreply hdhcp hcontrol
  rw [runFrom_of_last rfl (by rw [hdecision]; split <;> simp) answers, hdecision]
  split <;> simp_all [Verdict.outcome]

/-- A policy that accepts inbound TCP traffic admits the first packet of a connection. -/
theorem inbound_default_deny_sample :
    (runFrom (Backend.nftables.inputHook (Sample.inboundAccept .enforcing).toSnapshot
      Sample.inboundPacket) 0 ⟨0, 0, []⟩ []).2 = .accepted :=
  (inbound_default_deny .nftables (Sample.inboundAccept .enforcing)
    (by decide +kernel) Sample.inboundPacket ⟨0, 0, []⟩ (by decide +kernel) (by decide +kernel)
    (by decide +kernel) (by decide +kernel) []).1.mpr
    ⟨by decide +kernel, _, List.mem_singleton.mpr rfl, rfl, rfl, rfl, by decide +kernel⟩

end OpenShield
