import OpenShield.Daemon.XtablesSave
import OpenShield.Data.Command

/-!
# The iptables backend

IPv4 and IPv6 have separate tools and no transaction spans both. The backend therefore closes
both families before it opens the first one, and closes them again when anything goes wrong.

Every invocation of a tool may fail. A failed restore leaves the old or the new program behind,
and what a save prints is anything. Which invocation fails and how is decided by a script of
replies that every theorem quantifies over. The model remembers for each family which program
its owned chains hold and where that program came from, and what both families held after each
invocation.

Creating a missing chain adds nothing but its ownership comment, and moving a dispatcher changes
no owned chain, so these invocations leave the programs as they are.
-/

namespace OpenShield

def MAX_POLICY_BYTES : ℕ := 8 * 1024 * 1024

/-! ### Programs and replies -/

inductive Source
  /-- It was there before. -/
  | starting
  | blockAll
  /-- It is to be installed. -/
  | candidate
  deriving DecidableEq, Repr

structure Program where
  source : Source
  text : List Line
  deriving DecidableEq

abbrev Contents := Family → Program

/-- What the backend asks of its surroundings. -/
inductive Invocation
  /-- `iptables-save` of a table. -/
  | capture (family : Family) (table : XTable)
  /-- `iptables-restore`, with or without `--test`. -/
  | restore (family : Family) (text : List Line) (testOnly : Bool)
  /-- `iptables -I`. -/
  | insertDispatch (family : Family) (table : XTable) (builtin : BuiltinChain)
      (target : OwnedChain)
  /-- `iptables -A`. -/
  | appendDispatch (family : Family) (table : XTable) (builtin : BuiltinChain)
      (target : OwnedChain)
  /-- `iptables -D`. -/
  | deleteDispatch (family : Family) (table : XTable) (builtin : BuiltinChain)
      (target : OwnedChain)
  /-- The search for the nftables table of OpenShield. -/
  | nftArtifacts
  /-- The search for owned chains of the other kind of iptables tools. -/
  | alternateArtifacts (family : Family)
  | lockExpected
  deriving DecidableEq

/-- How an invocation turns out. -/
structure Reply where
  succeeded : Bool
  /-- Whether a failed restore left the new program behind. -/
  tookEffect : Bool
  found : Bool
  /-- What a save printed. -/
  output : List Line

inductive RuleMismatch
  | rule (index : ℕ) (expected installed : Line)
  | count (expected installed : ℕ)
  deriving DecidableEq

inductive Failure
  | message (text : String)
  | context (text : String) (cause : Failure)
  | ruleMismatch (family : Family) (mismatch : RuleMismatch)
  /-- The outcomes of an action on both families; an outcome is missing where it succeeded. -/
  | outcome (action : String) (ipv4 ipv6 : Option Failure)
  /-- Whether each family has artifacts of the other kind of tools; nothing where the inspection
  failed. -/
  | alternateArtifacts (ipv4 ipv6 : Option Bool)
  /-- Something failed, and so did the attempt to block everything. -/
  | emergencyAlsoFailed (text : String) (cause emergency : Failure)

def Failure.failedFor (family : Family) : Failure → Bool
  | .outcome _ ipv4 ipv6 =>
    match family with
    | .ipv4 => ipv4.isSome
    | .ipv6 => ipv6.isSome
  | _ => false

def Failure.emergencyFailedFor (family : Family) : Failure → Bool
  | .emergencyAlsoFailed _ _ emergency => emergency.failedFor family
  | _ => false

/-- The families, as far as the backend can tell. -/
structure XtablesHost where
  contents : Contents
  /-- The rules that were verified last. -/
  expected : Family → Option (List Line)
  /-- What the families ran after each invocation, the latest first. -/
  history : List Contents
  replies : ℕ → Invocation → Reply
  /-- The number of the next invocation. -/
  tick : ℕ

abbrev Call (α : Type) := Command XtablesHost Failure α

def programBytes (text : List Line) : ℕ :=
  (text.map fun line => (String.ofList line).utf8ByteSize + 1).sum

namespace IptablesBackend

/-! ### Tools -/

def invoke (invocation : Invocation) (effect : Reply → Contents → Contents) : Call Reply := do
  let host ← get
  let reply := host.replies host.tick invocation
  let contents := effect reply host.contents
  set { host with contents, history := contents :: host.history, tick := host.tick + 1 }
  return reply

def inspect (invocation : Invocation) (failure : String) : Call Reply := do
  let reply ← invoke invocation fun _ contents => contents
  if reply.succeeded then return reply else throw (.message failure)

variable (family : Family)

/-- Hand a text to `iptables-restore`. -/
def restoreText (text : List Line) (testOnly : Bool)
    (effect : Contents → Contents) : Call Unit :=
  if MAX_POLICY_BYTES < programBytes text then
    throw (.message ("compiled iptables policy exceeds " ++ toString MAX_POLICY_BYTES ++ " bytes"))
  else do
    let reply ← invoke (.restore family text testOnly) fun reply contents =>
      if reply.succeeded || reply.tookEffect then effect contents else contents
    if reply.succeeded then return () else throw (.message "rejected restore transaction")

def restore (program : Program) : Call Unit :=
  restoreText family program.text false fun contents => Function.update contents family program

def restoreTest (program : Program) : Call Unit :=
  restoreText family program.text true id

variable (table : XTable) (builtin : BuiltinChain)

def insertDispatch
    (target : OwnedChain) : Call Unit := do
  let _ ← inspect (.insertDispatch family table builtin target)
    ("cannot install fail-closed " ++ builtin.name ++ " dispatcher")

def appendDispatch
    (target : OwnedChain) : Call Unit := do
  let _ ← inspect (.appendDispatch family table builtin target)
    ("cannot append fail-closed " ++ builtin.name ++ " dispatcher")

def deleteDispatch
    (target : OwnedChain) : Call Unit := do
  let _ ← inspect (.deleteDispatch family table builtin target)
    ("cannot relocate " ++ builtin.name ++ " dispatcher")

def captureTable : Call XtablesSnapshot := do
  let reply ← inspect (.capture family table) "cannot inspect policy"
  Command.ofExcept Failure.message (parseXtablesSave reply.output)

def check (c : Prop) [Decidable c] (text : String) : Call Unit :=
  if c then return () else throw (.message text)

def withContext {α : Type} (text : String) (command : Call α) : Call α := do
  match ← command.attempt with
  | .ok a => return a
  | .error e => throw (.context text e)

/-! ### Installation of one family -/

def ownershipInitializationPolicy (chains : List OwnedChain) : List Line :=
  [Iptables.tableLine table] ++
    chains.map (fun chain => Text.unwords [":" ++ chain.name, "-", "[0:0]"]) ++
    chains.map (fun chain => Text.unwords
      ["-A", chain.name, "-m", "comment", "--comment", IPTABLES_OWNERSHIP_COMMENT]) ++
    [Iptables.commitLine]

variable (snapshot : XtablesSnapshot)

def verifyOwnership (chain : OwnedChain) : Call Unit :=
  Command.ofExcept Failure.message (snapshot.verifyChainOwnership chain)

def createChains (missing : List OwnedChain) : Call Unit :=
  if missing = [] then return ()
  else withContext "cannot atomically create owned iptables chains"
    (restoreText family (ownershipInitializationPolicy table missing) false id)

def ensureOwnedChains : Call XtablesSnapshot := do
  let snapshot ← captureTable family table
  let declared := fun (chain : OwnedChain) => chain.name ∈ snapshot.declaredChains
  table.chains.forM fun chain => do
    if declared chain then verifyOwnership snapshot chain else return ()
  createChains family table (table.chains.filter fun chain => ¬ declared chain)
  let installed ← captureTable family table
  table.chains.forM fun chain => do
    check (chain.name ∈ installed.declaredChains) ("required OpenShield iptables chain " ++
      chain.name ++ " is missing after initialization")
    verifyOwnership installed chain
  return installed

def installOwnedPolicy (program : Program) : Call Unit := do
  let _ ← ensureOwnedChains family .mangle
  let _ ← ensureOwnedChains family .filter
  restore family program

def captureVerifiedPolicy : Call (List Line × FirewallCounters) := do
  let filter ← captureTable family .filter
  let mangle ← captureTable family .mangle
  Command.ofExcept Failure.message filter.verifyFilterTopology
  Command.ofExcept Failure.message mangle.verifyMangleTopology
  let counters ←
    Command.ofExcept Failure.message (addFirewallCounters filter.counters mangle.counters)
  return (mangle.ownedRules ++ filter.ownedRules, counters)

def ensureFirst
    (pair : BuiltinChain × OwnedChain) : Call Unit :=
  if snapshot.firstRule pair.1.name ≠ some (dispatchRule pair.1 pair.2) then
    insertDispatch family table pair.1 pair.2
  else return ()

/-- Move a dispatcher to the end of its built-in chain unless it is there already. It is
appended before the old ones are deleted, so that one is always there. -/
def ensureLast
    (pair : BuiltinChain × OwnedChain) : Call Unit := do
  let canonical := dispatchRule pair.1 pair.2
  let targets := (snapshot.rulesForChain pair.1.name).filter (ruleJumpsTo pair.2)
  check (∀ rule ∈ targets, rule = canonical) ("refusing to relocate a noncanonical mangle " ++
    pair.1.name ++ " dispatcher to " ++ pair.2.name)
  if targets.length ≠ 1 ∨ snapshot.lastRule pair.1.name ≠ some canonical then
    appendDispatch family table pair.1 pair.2
    targets.forM fun _ => deleteDispatch family table pair.1 pair.2
  else return ()

def ensureTopology (blockProgram : Program) : Call Unit := do
  let _ ← ensureOwnedChains family .mangle
  let _ ← ensureOwnedChains family .filter
  restore family blockProgram
  let filter ← captureTable family .filter
  filterDispatcherPairs.forM (ensureFirst family .filter filter)
  let mangle ← captureTable family .mangle
  mangleFirstDispatcherPairs.forM (ensureFirst family .mangle mangle)
  mangleLastDispatcherPairs.forM (ensureLast family .mangle mangle)
  let _ ← captureVerifiedPolicy family
  return ()

/-! ### Installation of both families -/

def failureOf {α : Type} : Except Failure α → Option Failure
  | .ok _ => none
  | .error e => some e

def attemptBothFamilies (action : String) (command : Family → Call Unit) : Call Unit := do
  let ipv4 ← (command .ipv4).attempt
  let ipv6 ← (command .ipv6).attempt
  match ipv4, ipv6 with
  | .ok (), .ok () => return ()
  | ipv4, ipv6 => throw (.outcome action (failureOf ipv4) (failureOf ipv6))

def familyName : Family → String
  | .ipv4 => "IPv4"
  | .ipv6 => "IPv6"

def prepare (block : Contents) : Call Unit :=
  attemptBothFamilies "fail-closed topology preparation" fun family =>
    withContext ("cannot establish " ++ familyName family ++ " fail-closed topology")
      (ensureTopology family (block family))

def validatePair (policy : Contents) : Call Unit := do
  withContext "IPv4 policy validation failed" (restoreTest .ipv4 (policy .ipv4))
  withContext "IPv6 policy validation failed" (restoreTest .ipv6 (policy .ipv6))

def applyPair (policy : Contents) : Call Unit := do
  withContext "IPv4 policy transaction failed" (installOwnedPolicy .ipv4 (policy .ipv4))
  withContext "IPv6 policy transaction failed" (installOwnedPolicy .ipv6 (policy .ipv6))

def describeRuleMismatch (expected installed : List Line) : RuleMismatch :=
  let common := expected.zip installed
  match common.findIdx? fun pair => pair.1 ≠ pair.2 with
  | some index =>
    match common[index]? with
    | some pair => .rule index pair.1 pair.2
    | none => .count expected.length installed.length
  | none => .count expected.length installed.length

def compareRules (expected installed : List Line) : Call Unit :=
  if installed = expected then return ()
  else throw (.ruleMismatch family (describeRuleMismatch expected installed))

/-- Verify the installed rules of both families and remember them. Taking the lock fails when a
thread panicked with it. -/
def recordExpected (policy : Contents) : Call Unit := do
  let expected4 ← Command.ofExcept Failure.message (compiledOwnedRules (policy .ipv4).text)
  let expected6 ← Command.ofExcept Failure.message (compiledOwnedRules (policy .ipv6).text)
  let ipv4 ← captureVerifiedPolicy .ipv4
  let ipv6 ← captureVerifiedPolicy .ipv6
  compareRules .ipv4 expected4 ipv4.1
  compareRules .ipv6 expected6 ipv6.1
  let _ ← inspect .lockExpected "iptables expected-policy mutex is poisoned"
  let host ← get
  set { host with expected := fun family =>
          match family with
          | .ipv4 => some expected4
          | .ipv6 => some expected6 }

def emergencyBlockAll (block : Contents) : Call Unit := do
  attemptBothFamilies "emergency BlockAll installation" fun family =>
    installOwnedPolicy family (block family)
  recordExpected block

def blockAndReport (block : Contents) (what restored : String) (cause : Failure) :
    Call Unit := do
  match ← (emergencyBlockAll block).attempt with
  | .ok () => throw (.context restored cause)
  | .error emergency => throw (.emergencyAlsoFailed what cause emergency)

def ensureNoNftArtifacts : Call Unit := do
  let reply ← inspect .nftArtifacts "cannot safely inspect the previous nftables backend"
  check (reply.found = false)
    "refusing iptables activation while nft table inet openshield is still active"

def ensureNoAlternateXtablesArtifacts : Call Unit := do
  let ipv4 ← invoke (.alternateArtifacts .ipv4) fun _ contents => contents
  let ipv6 ← invoke (.alternateArtifacts .ipv6) fun _ contents => contents
  let report := fun (reply : Reply) => if reply.succeeded then some reply.found else none
  if report ipv4 = some false ∧ report ipv6 = some false then return ()
  else throw (.alternateArtifacts (report ipv4) (report ipv6))

/-- Install a policy: close both families, have the policy checked, close both families again,
open them one after the other, and verify the result. -/
def checkedApply (policy block : Contents) : Call Unit := do
  ensureNoNftArtifacts
  ensureNoAlternateXtablesArtifacts
  match ← (prepare block).attempt with
  | .error cause =>
    blockAndReport block "iptables preparation failed"
      "iptables preparation failed; emergency IPv4/IPv6 BlockAll was restored" cause
  | .ok () =>
    validatePair policy
    withContext "cannot enter cross-family BlockAll quarantine" (emergencyBlockAll block)
    match ← (applyPair policy).attempt with
    | .error cause =>
      blockAndReport block "iptables apply failed"
        "iptables apply failed; emergency IPv4/IPv6 BlockAll was restored" cause
    | .ok () =>
      match ← (recordExpected policy).attempt with
      | .error cause =>
        blockAndReport block "iptables verification failed"
          "applied iptables policy could not be verified; emergency BlockAll was restored" cause
      | .ok () => return ()

def policyObservation : Call FirewallCounters := do
  let ipv4 ← captureVerifiedPolicy .ipv4
  let ipv6 ← captureVerifiedPolicy .ipv6
  let _ ← inspect .lockExpected "iptables expected-policy mutex is poisoned"
  let host ← get
  check (host.expected .ipv4 = some ipv4.1 ∧ host.expected .ipv6 = some ipv6.1)
    "OpenShield iptables policy differs from the last verified transaction"
  Command.ofExcept Failure.message (addFirewallCounters ipv4.2 ipv6.2)

end IptablesBackend

end OpenShield
