import OpenShield.Core.Iptables

/-!
# Tables and chains of the iptables programs
-/

namespace OpenShield

open Netfilter

abbrev Line := List Char

def IPTABLES_OWNERSHIP_COMMENT : String := "openshield:owner:v1"

/-- The tables that OpenShield fills. -/
inductive XTable
  | mangle
  | filter
  deriving DecidableEq, Repr

def XTable.name : XTable → String
  | .mangle => "mangle"
  | .filter => "filter"

inductive OwnedChain
  | mark
  | observe
  | input
  | output
  | forward
  | appTcp
  | appPacket
  deriving DecidableEq, Repr

def OwnedChain.name : OwnedChain → String
  | .mark => "OPENSHIELD_MARK"
  | .observe => "OPENSHIELD_OBSERVE"
  | .input => "OPENSHIELD_IN"
  | .output => "OPENSHIELD_OUT"
  | .forward => "OPENSHIELD_FWD"
  | .appTcp => "OPENSHIELD_APP_TCP"
  | .appPacket => "OPENSHIELD_APP_PKT"

def ownedChains : List OwnedChain := [.input, .output, .forward, .appTcp, .appPacket]

def ownedMangleChains : List OwnedChain := [.mark, .observe]

def XTable.chains : XTable → List OwnedChain
  | .mangle => ownedMangleChains
  | .filter => ownedChains

namespace Iptables

def counterWord : Counter → String
  | .acceptedIn => "accepted_in"
  | .acceptedOut => "accepted_out"
  | .droppedIn => "dropped_in"
  | .droppedOut => "dropped_out"
  | .learnedOut => "learned_out"

def tableLine (table : XTable) : Line := '*' :: table.name.toList

def commitLine : Line := "COMMIT".toList

end Iptables

end OpenShield
