import OpenShield.Daemon.Nfqueue
import OpenShield.Verdict.Iptables.Input
import OpenShield.Verdict.Iptables.Output
import OpenShield.Verdict.Nftables.Input
import OpenShield.Verdict.Nftables.Output

/-!
# The two backends

A backend compiles the same snapshot into its own chains and expects the daemon's verdicts in
its own form. Outside `blockAll` its hooks are lists of decision functions.
-/

namespace OpenShield

open Netfilter

/-- The packet filter that enforces a policy. -/
inductive Backend
  | nftables
  | iptables
  deriving DecidableEq, Repr

namespace Backend

def outputHook (backend : Backend) (snapshot : Snapshot) (p : Packet) : List (Entry Counter) :=
  match backend with
  | .nftables => (Nftables.policy snapshot).outputHook p
  | .iptables => (Iptables.policy snapshot).outputHook p

def inputHook (backend : Backend) (snapshot : Snapshot) (p : Packet) : List (Entry Counter) :=
  match backend with
  | .nftables => (Nftables.policy snapshot).inputHook p
  | .iptables => (Iptables.policy snapshot).inputHook p

def queueVerdictStrategy : Backend → QueueVerdictStrategy
  | .nftables => .accept
  | .iptables => .repeatWithHandoffMark

theorem compile_nftables (snapshot : ValidSnapshot) :
    Nftables.compile snapshot.toSnapshot = .ok (Nftables.policy snapshot.toSnapshot) := by
  rw [Nftables.compile, snapshot.valid]
  rfl

theorem compile_iptables (snapshot : ValidSnapshot) :
    Iptables.compile snapshot.toSnapshot = .ok (Iptables.policy snapshot.toSnapshot) := by
  rw [Iptables.compile, snapshot.valid]
  rfl

theorem ofFamily_policy (snapshot : Snapshot) (family : Family) :
    (Iptables.policy snapshot).ofFamily family =
      Iptables.compileFamily snapshot family snapshot.applicationInterception := by
  cases family <;> rfl

section Hooks

variable (snapshot : ValidSnapshot) (p : Packet)

theorem outputHook_nftables (hmode : snapshot.mode ≠ .blockAll) :
    Backend.nftables.outputHook snapshot.toSnapshot p =
      [fun d => (withDomain 0 d, .accept), Nftables.outputDecision snapshot.toSnapshot p,
        Nftables.authorizeDecision snapshot.toSnapshot p] := by
  have hsanitize := funext (Nftables.entry_outputSanitize snapshot p)
  have houtput := funext fun d => Nftables.entry_output snapshot p d hmode
  have hauthorize := funext fun d => Nftables.entry_outputAuthorize snapshot p d hmode
  show [_, _, _] = _
  rw [hsanitize, houtput, hauthorize]

theorem outputHook_iptables (hmode : snapshot.mode ≠ .blockAll) :
    Backend.iptables.outputHook snapshot.toSnapshot p =
      [Iptables.mangleDecision snapshot.toSnapshot p,
        Iptables.outputDecision snapshot.toSnapshot p] := by
  have hmangle := funext fun d => Iptables.entry_mangle p d snapshot.toSnapshot
  have houtput := funext fun d => Iptables.entry_output snapshot p d hmode
  show ((Iptables.policy snapshot.toSnapshot).ofFamily p.family).outputHook p = _
  rw [ofFamily_policy, ← hmangle, ← houtput]
  rfl

theorem inputHook_eq (backend : Backend) (hmode : snapshot.mode ≠ .blockAll) :
    backend.inputHook snapshot.toSnapshot p = [inputDecision snapshot.toSnapshot p] := by
  cases backend with
  | nftables =>
    have hinput := funext fun d => Nftables.entry_input snapshot p d hmode
    show [_] = _
    rw [hinput]
  | iptables =>
    have hinput := fun goto => funext fun d => Iptables.entry_input snapshot p goto d hmode
    show ((Iptables.policy snapshot.toSnapshot).ofFamily p.family).inputHook p = _
    rw [ofFamily_policy]
    exact congrArg (fun entry => [entry]) (hinput _)

/-- In `blockAll` the output hook of both backends clears the private mark and drops. -/
theorem outputHook_blockAll (backend : Backend) (hmode : snapshot.mode = .blockAll) :
    ∃ later, backend.outputHook snapshot.toSnapshot p =
        (fun d => (withDomain 0 d, .accept)) :: (fun d => (d.count .droppedOut, .drop)) :: later ∧
      ∀ entry ∈ later, entry = fun d => (d.count .droppedOut, .drop) := by
  cases backend with
  | nftables =>
    have hsanitize := funext (Nftables.entry_outputSanitize snapshot p)
    have hdrop : (Nftables.policy snapshot.toSnapshot).output.entry p =
        fun d => (d.count .droppedOut, .drop) := by
      funext d
      refine Nft.BaseChain.entry_of_some ?_
      simp only [Nftables.policy, Nftables.appendChain, hmode, if_true, List.nil_append]
      rfl
    have hlast : (Nftables.policy snapshot.toSnapshot).outputAuthorize.entry p =
        fun d => (d.count .droppedOut, .drop) := by
      funext d
      refine Nft.BaseChain.entry_of_some ?_
      have hnone : snapshot.applicationInterception = .none := by
        simp [Snapshot.applicationInterception, classifyApplicationInterception, hmode]
      simp only [Nftables.policy, Nftables.appendApplicationAuthorizationChain,
        Nftables.authorizationRules, hmode, hnone, if_true, List.nil_append]
      rfl
    refine ⟨[(Nftables.policy snapshot.toSnapshot).outputAuthorize.entry p], ?_, ?_⟩
    · show [_, _, _] = _
      rw [hsanitize, hdrop]
    · intro entry hentry
      rw [List.mem_singleton.mp hentry, hlast]
  | iptables =>
    have hmangle := fun d => Iptables.entry_mangle p d snapshot.toSnapshot
    refine ⟨[], ?_, fun entry hentry => absurd hentry List.not_mem_nil⟩
    show ((Iptables.policy snapshot.toSnapshot).ofFamily p.family).outputHook p = _
    rw [ofFamily_policy]
    refine congrArg₂ (fun first second => [first, second]) (funext fun d => ?_)
      (funext fun d => ?_)
    · refine (hmangle d).trans ?_
      simp [Iptables.mangleDecision, hmode]
    · refine Xtables.builtinEntry_of_decided ?_
      simp only [FamilyPolicy.chain, Iptables.compileFamily, Iptables.appendOutputChain, hmode,
        if_true, List.append_nil, List.singleton_append]
      rw [run_cons, Step.andThen_of_none _ (Iptables.exec_ownership p _ d)]
      rfl

theorem inputHook_blockAll (backend : Backend) (hmode : snapshot.mode = .blockAll) :
    backend.inputHook snapshot.toSnapshot p = [fun d => (d.count .droppedIn, .drop)] := by
  cases backend with
  | nftables =>
    refine congrArg (fun entry => [entry]) (funext fun d => ?_)
    refine Nft.BaseChain.entry_of_some ?_
    simp only [Nftables.policy, Nftables.appendChain, hmode, if_true, List.nil_append]
    rfl
  | iptables =>
    show ((Iptables.policy snapshot.toSnapshot).ofFamily p.family).inputHook p = _
    rw [ofFamily_policy]
    refine congrArg (fun entry => [entry]) (funext fun d => ?_)
    refine Xtables.builtinEntry_of_decided ?_
    simp only [FamilyPolicy.chain, Iptables.compileFamily, Iptables.appendInputChain, hmode,
      if_true, List.append_nil, List.singleton_append]
    rw [run_cons, Step.andThen_of_none _ (Iptables.exec_ownership p _ d)]
    rfl

end Hooks

end Backend

namespace Sample

def packet (ct : Conntrack) (hct : ∀ a, ct.origDst? = some a → a.family = .ipv4) : Packet :=
  { iif := none
    oif := some "e"
    src := .v4 1
    dst := .v4 2
    l4proto := protoTcp
    ports := some (1, 2)
    tcpFlags := some tcpSyn
    icmp := none
    hopLimit := 64
    ct
    underLimit := false
    sameFamily := rfl
    ctFamily := hct }

def replyPacket : Packet :=
  packet (.tracked .established .reply (.v4 1) 1) (by simp [Conntrack.origDst?, IpAddr.family])

def invalidPacket : Packet := packet .invalid (by simp [Conntrack.origDst?])

def newPacket : Packet :=
  packet (.tracked .new .original (.v4 2) 2) (by simp [Conntrack.origDst?, IpAddr.family])

def inboundPacket : Packet := { newPacket with iif := some "e", oif := none }

end Sample

end OpenShield
