import OpenShield.Data.FirstMatch
import OpenShield.Netfilter.Hook

/-!
# xtables rules

The fragment of the iptables rule language that a host firewall needs. A rule is a
conjunction of matches and one target. `RETURN` leaves the current chain; a chain entered by
`-g` does not come back to the chain it was entered from, so leaving it leaves both.

The conntrack match is one test with several options. As in the kernel, a packet without a
conntrack entry is decided by the state option alone: without that option the match fails,
whatever the other options are.

`addrtype` lists are read as alternatives: a source is of type `UNSPEC,MULTICAST` when it is
unspecified or multicast.
-/

namespace Netfilter.Xtables

/-- Options of the conntrack match. -/
structure CtMatch where
  /-- `--ctstate`. -/
  states : Option (List CtStateBit)
  /-- `--ctdir`. -/
  dir : Option CtDir
  /-- `--ctorigdst`. -/
  origDst : Option IpNet
  /-- `--ctorigdstport`. -/
  origDport : Option (BitVec 16 × BitVec 16)
  deriving DecidableEq

/-- Address types of the `addrtype` match. -/
inductive AddrType
  | unspec
  | multicast
  deriving DecidableEq, Repr

inductive Match
  /-- `-s net`. -/
  | source (net : IpNet)
  /-- `-d net`. -/
  | destination (net : IpNet)
  /-- `-i name`. -/
  | inInterface (name : String)
  /-- `-o name`. -/
  | outInterface (name : String)
  /-- `-p proto`. -/
  | protocol (proto : L4Proto)
  /-- `! -p proto`. -/
  | protocolNot (proto : L4Proto)
  | sport (first last : BitVec 16)
  | dport (first last : BitVec 16)
  /-- `-m tcp --tcp-flags mask value`. -/
  | tcpFlags (mask value : BitVec 8)
  /-- `--icmp-type type` or `--icmpv6-type type`, with an optional code. -/
  | icmpType (type : BitVec 8) (code : Option (BitVec 8))
  /-- `-m conntrack`. -/
  | conntrack (options : CtMatch)
  /-- `-m mark --mark value/mask`. -/
  | mark (value mask : BitVec 32)
  /-- `-m mark ! --mark value/mask`. -/
  | markNot (value mask : BitVec 32)
  /-- `-m connmark --mark value/mask`. -/
  | connmark (value mask : BitVec 32)
  /-- `-m addrtype ! --src-type types`. -/
  | srcTypeNot (types : List AddrType)
  /-- `-m hl --hl-eq n`. -/
  | hlEq (hops : BitVec 8)
  /-- `-m limit --limit perSecond/sec --limit-burst burst`. -/
  | limit (perSecond burst : ℕ)
  deriving DecidableEq

/-- Rule targets; `χ` is the type of chains that can be entered. -/
inductive Target (χ : Type)
  /-- A rule without a target only counts. -/
  | none
  /-- `-j RETURN`. -/
  | ret
  /-- `-j DROP`. -/
  | drop
  /-- `-j REJECT --reject-with kind`. -/
  | reject (kind : RejectKind)
  /-- `-j MARK --set-xmark value/mask`. -/
  | mark (value mask : BitVec 32)
  /-- `-j CONNMARK --set-xmark value/mask`. -/
  | connmark (value mask : BitVec 32)
  /-- `-j NFQUEUE --queue-num num`, with or without `--queue-bypass`. -/
  | nfqueue (num : BitVec 16) (bypass : Bool)
  /-- `-g chain`. -/
  | goto (chain : χ)
  deriving DecidableEq

/-- A rule; its comment names the counters it stands for. -/
structure Rule (χ κ : Type) where
  tests : List Match
  counters : List κ
  /-- What happens to a matching packet. -/
  target : Target χ
  deriving DecidableEq

/-- How a packet leaves a user chain before its end. -/
inductive Exit
  | ret
  | final (v : Verdict)
  deriving DecidableEq, Repr

variable {χ κ : Type}

def CtMatch.holds (p : Packet) (options : CtMatch) : Bool :=
  options.states.all (fun states => decide (p.ct.bit ∈ states)) &&
    match p.ct with
    | .tracked _ dir dst port =>
      options.dir.all (fun wanted => decide (dir = wanted)) &&
        options.origDst.all (fun net => net.maskMatches dst) &&
        options.origDport.all (fun range => portInRange (some port) range.1 range.2)
    -- without an entry the kernel answers before it looks at the other options
    | _ => options.states.isSome

def AddrType.holds (addr : IpAddr) : AddrType → Bool
  | .unspec => decide (addr = .v6 0)
  | .multicast => (IpNet.v6 (0xff00#16 ++ 0#112) 8).maskMatches addr

def Match.holds (p : Packet) (d : Meta κ) : Match → Bool
  | .source net => net.maskMatches p.src
  | .destination net => net.maskMatches p.dst
  | .inInterface name => decide (p.iif = some name)
  | .outInterface name => decide (p.oif = some name)
  | .protocol proto => decide (p.l4proto = proto)
  | .protocolNot proto => decide (p.l4proto ≠ proto)
  | .sport first last => portInRange p.sport? first last
  | .dport first last => portInRange p.dport? first last
  | .tcpFlags mask value => p.tcpFlags.any fun flags => decide (flags &&& mask = value)
  | .icmpType type code => p.icmpIs type code
  | .conntrack options => options.holds p
  | .mark value mask => maskedEq d.mark mask value
  | .markNot value mask => !maskedEq d.mark mask value
  | .connmark value mask => p.ct.isTracked && maskedEq d.connmark mask value
  | .srcTypeNot types => !types.any fun type => type.holds p.src
  | .hlEq hops => decide (p.hopLimit = hops)
  | .limit _ _ => p.underLimit

def allHold (p : Packet) (d : Meta κ) (tests : List Match) : Bool :=
  tests.all fun m => m.holds p d

/-- The effect of a target. `goto` gives the chains that can be entered. -/
def Target.exec (p : Packet) (goto : χ → Step (Meta κ) Exit) :
    Target χ → Step (Meta κ) Exit
  | .none, d => (d, Option.none)
  | .ret, d => (d, some .ret)
  | .drop, d => (d, some (.final .drop))
  | .reject kind, d => (d, some (.final (.reject kind)))
  | .mark value mask, d => (d.setMark (d.mark &&& ~~~mask ^^^ value), Option.none)
  | .connmark value mask, d =>
    (d.setConnmark p (d.connmark &&& ~~~mask ^^^ value), Option.none)
  | .nfqueue num bypass, d => (d, some (.final (.queue num bypass)))
  | .goto chain, d =>
    match goto chain d with
    | (d', some exit) => (d', some exit)
    -- the end of the entered chain leaves the entering chain as well
    | (d', Option.none) => (d', some .ret)

def Rule.exec (p : Packet) (goto : χ → Step (Meta κ) Exit) (r : Rule χ κ) :
    Step (Meta κ) Exit := fun d =>
  if allHold p d r.tests then r.target.exec p goto (r.counters.foldl Meta.count d)
  else (d, Option.none)

/-- A built-in chain that dispatches to user chains in order. Rules of other programs are not
modelled: a packet that leaves every user chain is accepted. -/
def builtinEntry : List (Step (Meta κ) Exit) → Entry κ
  | [] => fun d => (d, .accept)
  | chain :: rest => fun d =>
    match chain d with
    | (d', some (.final v)) => (d', v)
    | (d', some .ret) => builtinEntry rest d'
    | (d', Option.none) => builtinEntry rest d'

@[simp]
theorem allHold_append (p : Packet) (d : Meta κ) (a b : List Match) :
    allHold p d (a ++ b) = (allHold p d a && allHold p d b) := by
  simp [allHold]

@[simp]
theorem allHold_cons (p : Packet) (d : Meta κ) (m : Match) (rest : List Match) :
    allHold p d (m :: rest) = (m.holds p d && allHold p d rest) := rfl

@[simp]
theorem allHold_nil (p : Packet) (d : Meta κ) : allHold p d [] = true := rfl

theorem any_allHold_between (p : Packet) (d : Meta κ) (before after : List Match)
    (alternatives : List (List Match)) :
    (alternatives.any fun alternative => allHold p d (before ++ alternative ++ after)) =
      (allHold p d before && alternatives.any (allHold p d) && allHold p d after) :=
  List.any_all_between _ before after alternatives

variable {d : Meta κ} {p : Packet} {goto : χ → Step (Meta κ) Exit} {x : Meta κ × Exit}

theorem Rule.exec_of_decided {r : Rule χ κ}
    (h : r.target.exec p goto (r.counters.foldl Meta.count d) = decided x) :
    r.exec p goto d = if allHold p d r.tests then decided x else (d, none) := by
  rw [Rule.exec, h]

theorem Rule.exec_unconditional (p : Packet) (goto : χ → Step (Meta κ) Exit) (target : Target χ)
    (d : Meta κ) : Rule.exec p goto ⟨[], [], target⟩ d = target.exec p goto d := rfl

theorem Target.exec_goto {chain : χ} (h : goto chain d = decided x) :
    Target.exec p goto (.goto chain) d = decided x := by
  simp [Target.exec, h, decided]

/-- Two rules with the same matches, of which the first only rewrites marks that the matches do
not look at. -/
theorem run_effect_then {tests : List Match} {effect target : Target χ} {counters : List κ}
    {d' : Meta κ} (hstable : allHold p d' tests = allHold p d tests)
    (heffect : effect.exec p goto d = (d', none))
    (htarget : target.exec p goto (counters.foldl Meta.count d') = decided x) :
    run (Rule.exec p goto) [⟨tests, [], effect⟩, ⟨tests, counters, target⟩] d =
      if allHold p d tests then decided x else (d, none) := by
  cases htests : allHold p d tests with
  | true =>
    have hfirst : Rule.exec p goto ⟨tests, [], effect⟩ d = (d', none) := by
      simpa [Rule.exec, htests] using heffect
    rw [run_cons, Step.andThen_of_none _ hfirst, run_singleton, Rule.exec_of_decided htarget,
      hstable, htests, if_pos rfl, if_pos rfl]
  | false =>
    have hskip (rule : Rule χ κ) (hrule : rule.tests = tests) :
        Rule.exec p goto rule d = (d, none) := by
      simp [Rule.exec, hrule, htests]
    rw [run_cons, Step.andThen_of_none _ (hskip _ rfl), run_singleton, hskip _ rfl]
    rfl

def Exit.ofVerdict : Verdict → Exit
  | .accept => .ret
  | v => .final v

theorem builtinEntry_of_ret {chain : Step (Meta κ) Exit} (rest : List (Step (Meta κ) Exit))
    {d' : Meta κ} (h : chain d = decided (d', Exit.ret)) :
    builtinEntry (chain :: rest) d = builtinEntry rest d' := by
  simp [builtinEntry, h, decided]

theorem builtinEntry_of_decided {chain : Step (Meta κ) Exit} {x : Meta κ × Verdict}
    (h : chain d = decided (x.1, Exit.ofVerdict x.2)) : builtinEntry [chain] d = x := by
  obtain ⟨d', v⟩ := x
  cases v <;> simp [builtinEntry, h, decided, Exit.ofVerdict]

end Netfilter.Xtables
