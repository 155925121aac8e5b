import OpenShield.Core.XtablesChains

/-!
# Reading back an iptables policy

The daemon checks an installed policy by what `iptables-save -c` prints for it. Rules of owned
chains are split into words, brought into a normal form, sorted by chain and compared with the
rules of the compiled program, which go through the same functions. The normal form expands
`--syn`, drops the match module that only repeats the protocol, writes marks in one radix and
separates words by their lengths.

Besides the rules, the topology is checked: every owned chain exists and starts with its
ownership comment, and the built-in chains dispatch to the owned chains where they should.
-/

namespace OpenShield

/-! ### Words of a rule -/

/-- Quotation marks of a rule. -/
inductive Quote
  | single
  | double
  deriving DecidableEq, Repr

def singleQuote : Char := Char.ofNat 0x27
def doubleQuote : Char := Char.ofNat 0x22
def backslash : Char := Char.ofNat 0x5c

structure Tokenizer where
  tokens : List String
  token : List Char
  inToken : Bool
  quote : Option Quote
  deriving DecidableEq

namespace Tokenizer

def start : Tokenizer := ⟨[], [], false, none⟩

def push (scanner : Tokenizer) (c : Char) : Tokenizer :=
  { scanner with token := scanner.token ++ [c], inToken := true }

def endToken (scanner : Tokenizer) : Tokenizer :=
  if scanner.inToken then
    { scanner with
      tokens := scanner.tokens ++ [String.ofList scanner.token]
      token := []
      inToken := false }
  else scanner

/-- Read characters. Within single quotation marks nothing is special; within double ones a
backslash keeps the character behind it. -/
def scan : Tokenizer → Line → Except String Tokenizer
  | scanner, [] => .ok scanner
  | scanner, c :: rest =>
    match scanner.quote with
    | some .single =>
      if c = singleQuote then scan { scanner with quote := none } rest
      else scan (scanner.push c) rest
    | some .double =>
      if c = doubleQuote then scan { scanner with quote := none } rest
      else if c = backslash then
        match rest with
        | [] => .error "dangling escape in quoted xtables rule"
        | escaped :: rest' => scan (scanner.push escaped) rest'
      else scan (scanner.push c) rest
    | none =>
      if Text.isAsciiWhitespace c then scan scanner.endToken rest
      else if c = singleQuote then scan { scanner with quote := some .single, inToken := true } rest
      else if c = doubleQuote then scan { scanner with quote := some .double, inToken := true } rest
      else if c = backslash then
        match rest with
        | [] => .error "dangling escape in xtables rule"
        | escaped :: rest' => scan (scanner.push escaped) rest'
      else scan (scanner.push c) rest

end Tokenizer

def tokenizeXtablesRule (rule : Line) : Except String (List String) := do
  let scanner ← Tokenizer.start.scan rule
  ensure (scanner.quote = none) "unterminated quote in xtables rule"
  return scanner.endToken.tokens

/-! ### Normal form -/

/-- `--syn` stands for a mask and a value of TCP flags. -/
def expandSyn (tokens : List String) : List String :=
  tokens.flatMap fun token =>
    if token = "--syn" then ["--tcp-flags", "FIN,SYN,RST,ACK", "SYN"] else [token]

/-- The word behind the first `-p`. -/
def firstProtocol : List String → Option String
  | option :: value :: rest =>
    if option = "-p" then some value else firstProtocol (value :: rest)
  | _ => none

def dropModule (module : String) : List String → List String
  | option :: value :: rest =>
    if option = "-m" ∧ value = module then dropModule module rest
    else option :: dropModule module (value :: rest)
  | tokens => tokens

def dropProtocolModule (tokens : List String) : List String :=
  match firstProtocol tokens with
  | some protocol =>
    if protocol = "tcp" ∨ protocol = "udp" then dropModule protocol tokens else tokens
  | none => tokens

def parseU32Argument (argument : List Char) : Except String ℕ :=
  match (Text.stripBeginning "0x".toList argument).or (Text.stripBeginning "0X".toList argument) with
  | some digits =>
    match Text.parseUnsigned 16 (2 ^ 32) digits with
    | some value => .ok value
    | none => .error ("invalid hexadecimal xtables mark " ++ String.ofList argument)
  | none =>
    match Text.parseUnsigned 10 (2 ^ 32) argument with
    | some value => .ok value
    | none => .error ("invalid decimal xtables mark " ++ String.ofList argument)

def normalizeMarkArgument (argument : String) : Except String String :=
  match Text.splitOnce ['/'] argument.toList with
  | some (value, mask) => do
    let value ← parseU32Argument value
    let mask ← parseU32Argument mask
    return "0x" ++ Text.hex value ++ "/0x" ++ Text.hex mask
  | none => do
    let value ← parseU32Argument argument.toList
    return "0x" ++ Text.hex value

def isMarkOption (token : String) : Bool := token = "--mark" || token = "--set-xmark"

def normalizeArgument (isArgument : Bool) (token : String) : Except String String :=
  if isArgument then normalizeMarkArgument token else .ok token

/-- Normalise the arguments of mark options. `isArgument` tells that the word in front of the
list is such an option. -/
def normalizeMarks : Bool → List String → Except String (List String)
  | _, [] => .ok []
  | isArgument, token :: rest => do
    let token ← normalizeArgument isArgument token
    let rest ← normalizeMarks (isMarkOption token) rest
    return token :: rest

def lengthPrefixed (tokens : List String) : Line :=
  tokens.flatMap fun token =>
    Nat.toDigits 10 token.utf8ByteSize ++ ':' :: token.toList

def normalizeXtablesTokens (tokens : List String) : Except String Line := do
  ensure (tokens ≠ []) "empty xtables rule"
  let tokens ← normalizeMarks false (dropProtocolModule (expandSyn tokens))
  return lengthPrefixed tokens

def allOwnedXtablesChains : List OwnedChain := ownedChains ++ ownedMangleChains

def ownedChainOfName (name : String) : Option OwnedChain :=
  allOwnedXtablesChains.find? fun chain => chain.name = name

def normalizeOwnedXtablesRule (rule : Line) : Except String (String × Line) := do
  let tokens ← tokenizeXtablesRule rule
  match tokens with
  | option :: chain :: _ =>
    ensure (option = "-A" ∧ (ownedChainOfName chain).isSome)
      ("iptables policy appends to non-owned chain " ++ chain)
    let normalized ← normalizeXtablesTokens tokens
    return (chain, normalized)
  | _ => .error "iptables append rule has no chain"

/-- Rules sorted by the names of their chains. The order within a chain stays, that among
chains means nothing. -/
def orderOwnedXtablesRules (rules : List (String × Line)) : List Line :=
  (rules.insertionSort fun left right => left.1 ≤ right.1).map Prod.snd

/-! ### Counters -/

namespace FirewallCounters

def zero : FirewallCounters := ⟨⟨0, 0⟩, ⟨0, 0⟩, ⟨0, 0⟩, ⟨0, 0⟩, ⟨0, 0⟩⟩

def get (counters : FirewallCounters) : Counter → CounterValue
  | .acceptedIn => counters.acceptedIn
  | .acceptedOut => counters.acceptedOut
  | .droppedIn => counters.droppedIn
  | .droppedOut => counters.droppedOut
  | .learnedOut => counters.learnedOut

def set (counters : FirewallCounters) (value : CounterValue) : Counter → FirewallCounters
  | .acceptedIn => { counters with acceptedIn := value }
  | .acceptedOut => { counters with acceptedOut := value }
  | .droppedIn => { counters with droppedIn := value }
  | .droppedOut => { counters with droppedOut := value }
  | .learnedOut => { counters with learnedOut := value }

end FirewallCounters

def xtablesRuleComment (tokens : List String) : Except String (Option String) :=
  let rec go : Option String → List String → Except String (Option String)
    | comment, [] => .ok comment
    | comment, option :: rest =>
      if option = "--comment" then
        match rest with
        | [] => .error "xtables rule has --comment without a value"
        | value :: rest' =>
          if comment.isSome then .error "xtables rule contains more than one --comment option"
          else go (some value) rest'
      else go comment rest
  go none tokens

def commentCounters (comment : String) : List Counter :=
  if comment = "openshield:accepted_in" then [.acceptedIn]
  else if comment = "openshield:accepted_out" then [.acceptedOut]
  else if comment = "openshield:dropped_in" then [.droppedIn]
  else if comment = "openshield:dropped_out" then [.droppedOut]
  else if comment = "openshield:accepted_out+learned_out" then [.acceptedOut, .learnedOut]
  else if comment = "openshield:learned_out" then [.learnedOut]
  else []

def addCounter (what : String) (counters : FirewallCounters) (value : CounterValue)
    (counter : Counter) : Except String FirewallCounters := do
  let old := counters.get counter
  ensure (old.packets.toNat + value.packets.toNat < 2 ^ 64)
    (what ++ " " ++ Iptables.counterWord counter ++ " packet counter overflow")
  ensure (old.bytes.toNat + value.bytes.toNat < 2 ^ 64)
    (what ++ " " ++ Iptables.counterWord counter ++ " byte counter overflow")
  return counters.set ⟨old.packets + value.packets, old.bytes + value.bytes⟩ counter

def addXtablesCounter : FirewallCounters → CounterValue → Counter →
    Except String FirewallCounters :=
  addCounter "iptables"

def accumulateCommentCounter (counters : FirewallCounters) (rule : Line) (value : CounterValue) :
    Except String FirewallCounters := do
  let tokens ← tokenizeXtablesRule rule
  let comment ← xtablesRuleComment tokens
  (comment.elim [] commentCounters).foldlM
    (fun counters counter => addXtablesCounter counters value counter) counters

def addFirewallCounters (left right : FirewallCounters) : Except String FirewallCounters :=
  [Counter.acceptedIn, .acceptedOut, .droppedIn, .droppedOut, .learnedOut].foldlM
    (fun counters counter => addCounter "combined" counters (right.get counter) counter) left

/-! ### Saved tables -/

structure XtablesSnapshot where
  declaredChains : List String
  orderedRules : List Line
  ownedRules : List Line
  counters : FirewallCounters

/-- A saved rule with its counters. Rules without counters are refused. -/
def parseSavedRule (line : Line) : Except String (Option (CounterValue × Line)) :=
  if ['['].isPrefixOf line then
    match Text.splitOnce "] ".toList line with
    | none => .error "malformed xtables rule counter prefix"
    | some (counter, rule) =>
      match Text.splitOnce [':'] (counter.drop 1) with
      | none => .error "malformed xtables packet/byte counter"
      | some (packets, bytes) =>
        match Text.parseUnsigned 10 (2 ^ 64) packets with
        | none => .error "invalid xtables packet counter"
        | some packets =>
          match Text.parseUnsigned 10 (2 ^ 64) bytes with
          | none => .error "invalid xtables byte counter"
          | some bytes =>
            .ok (if "-A ".toList.isPrefixOf rule then
              some (⟨BitVec.ofNat 64 packets, BitVec.ofNat 64 bytes⟩, rule) else none)
  else if "-A ".toList.isPrefixOf line then
    .error "xtables-save omitted counters despite the mandatory -c query"
  else .ok none

def chainBeginning (chain : String) : Line := "-A ".toList ++ chain.toList ++ [' ']

structure SaveReader where
  declaredChains : List String
  orderedRules : List Line
  ownedRules : List (String × Line)
  counters : FirewallCounters

namespace SaveReader

def start : SaveReader := ⟨[], [], [], FirewallCounters.zero⟩

def declaration (line : Line) : Option String :=
  (Text.stripBeginning [':'] line).bind fun declaration =>
    (Text.splitOnce [' '] declaration).map fun parts => String.ofList parts.1

def readLine (reader : SaveReader) (line : Line) : Except String SaveReader :=
  match declaration line with
  | some chain =>
    if chain ∈ reader.declaredChains then
      .error "duplicate chain declaration in xtables-save output"
    else .ok { reader with declaredChains := reader.declaredChains ++ [chain] }
  | none => do
    match ← parseSavedRule line with
    | none => return reader
    | some (value, rule) =>
      let reader := { reader with orderedRules := reader.orderedRules ++ [rule] }
      if allOwnedXtablesChains.any fun chain => (chainBeginning chain.name).isPrefixOf rule then
        let counters ← accumulateCommentCounter reader.counters rule value
        let normalized ← normalizeOwnedXtablesRule rule
        return { reader with counters, ownedRules := reader.ownedRules ++ [normalized] }
      else return reader

end SaveReader

def parseXtablesSave (lines : List Line) : Except String XtablesSnapshot := do
  ensure (lines.countP (fun line => line = "*filter".toList ∨ line = "*mangle".toList) = 1)
    "missing or duplicated supported xtables table"
  ensure (Iptables.commitLine ∈ lines) "unterminated filter table"
  let reader ← lines.foldlM SaveReader.readLine SaveReader.start
  return ⟨reader.declaredChains, reader.orderedRules, orderOwnedXtablesRules reader.ownedRules,
    reader.counters⟩

/-! ### Compiled programs -/

structure ProgramReader where
  table : Option XTable
  filter : List (String × Line)
  mangle : List (String × Line)
  committed : ℕ
  deriving DecidableEq

namespace ProgramReader

def start : ProgramReader := ⟨none, [], [], 0⟩

variable (reader : ProgramReader)

def openTable (table : XTable) : Except String ProgramReader :=
  if reader.table.isSome then .error "nested xtables table"
  else .ok { reader with table := some table }

def readRule (line : Line) : Except String ProgramReader :=
  match reader.table with
  | none => .error "xtables rule is outside a table"
  | some table => do
    let normalized ← normalizeOwnedXtablesRule line
    ensure (∃ chain ∈ table.chains, chain.name = normalized.1)
      ("compiled iptables rule uses chain " ++ normalized.1 ++ " in the wrong table")
    match table with
    | .mangle => return { reader with mangle := reader.mangle ++ [normalized] }
    | .filter => return { reader with filter := reader.filter ++ [normalized] }

/-- Read a line. The number of closed tables saturates at the end of its range. -/
def readLine (line : Line) : Except String ProgramReader :=
  if line = "*filter".toList then reader.openTable .filter
  else if line = "*mangle".toList then reader.openTable .mangle
  else if line = Iptables.commitLine then
    if reader.table.isNone then .error "xtables COMMIT has no table"
    else .ok { reader with table := none, committed := min 255 (reader.committed + 1) }
  else if "-A ".toList.isPrefixOf line then reader.readRule line
  else .ok reader

end ProgramReader

/-- The normalised rules of a compiled program: those of `mangle`, then those of `filter`. -/
def compiledOwnedRules (program : List Line) : Except String (List Line) := do
  let reader ← program.foldlM ProgramReader.readLine ProgramReader.start
  ensure (reader.table = none ∧ reader.committed = 2)
    "compiled iptables policy is not a complete mangle/filter transaction"
  return orderOwnedXtablesRules reader.mangle ++ orderOwnedXtablesRules reader.filter

/-! ### Topology -/

/-- Chains of the kernel that dispatch to owned chains. -/
inductive BuiltinChain
  | input
  | output
  | forward
  deriving DecidableEq, Repr

def BuiltinChain.name : BuiltinChain → String
  | .input => "INPUT"
  | .output => "OUTPUT"
  | .forward => "FORWARD"

def filterDispatcherPairs : List (BuiltinChain × OwnedChain) :=
  [(.input, .input), (.output, .output), (.forward, .forward)]

def mangleFirstDispatcherPairs : List (BuiltinChain × OwnedChain) := [(.output, .mark)]

def mangleLastDispatcherPairs : List (BuiltinChain × OwnedChain) := [(.output, .observe)]

def dispatchRule (builtin : BuiltinChain) (target : OwnedChain) : Line :=
  Text.unwords ["-A", builtin.name, "-j", target.name]

def ruleJumpsTo (target : OwnedChain) (rule : Line) : Bool :=
  Text.endsWith rule (" -j ".toList ++ target.name.toList) ||
    Text.endsWith rule (" -g ".toList ++ target.name.toList)

def isExactOwnershipRule (rule : Line) (chain : OwnedChain) : Except String Bool := do
  let tokens ← tokenizeXtablesRule rule
  return tokens = ["-A", chain.name, "-m", "comment", "--comment", IPTABLES_OWNERSHIP_COMMENT]

namespace XtablesSnapshot

variable (snapshot : XtablesSnapshot)

def rulesForChain (chain : String) : List Line :=
  snapshot.orderedRules.filter fun rule => (chainBeginning chain).isPrefixOf rule

def firstRule (chain : String) : Option Line :=
  (snapshot.rulesForChain chain).head?

def lastRule (chain : String) : Option Line :=
  (snapshot.rulesForChain chain).getLast?

def verifyChainOwnership (chain : OwnedChain) :
    Except String Unit :=
  match snapshot.firstRule chain.name with
  | none => .error ("OpenShield iptables chain " ++ chain.name ++ " has no ownership sentinel")
  | some first => do
    let owned ← isExactOwnershipRule first chain
    ensure (owned = true) ("refusing to manage iptables chain " ++ chain.name ++
      ": ownership sentinel is missing or not first")

def dispatcherCount (builtin : BuiltinChain)
    (targets : List OwnedChain) : ℕ :=
  (snapshot.rulesForChain builtin.name).countP fun rule => targets.any fun t => ruleJumpsTo t rule

def verifyFilterTopology : Except String Unit := do
  ownedChains.forM fun chain => do
    ensure (chain.name ∈ snapshot.declaredChains)
      ("required OpenShield iptables chain " ++ chain.name ++ " is missing")
    snapshot.verifyChainOwnership chain
  filterDispatcherPairs.forM fun (builtin, target) => do
    ensure (snapshot.firstRule builtin.name = some (dispatchRule builtin target))
      ("OpenShield dispatcher is not first in built-in " ++ builtin.name)
    ensure (snapshot.dispatcherCount builtin ownedChains = 1)
      ("built-in " ++ builtin.name ++ " must contain exactly one OpenShield dispatcher")

def verifyMangleTopology : Except String Unit := do
  ownedMangleChains.forM fun chain => do
    ensure (chain.name ∈ snapshot.declaredChains)
      ("required OpenShield iptables mangle chain " ++ chain.name ++ " is missing")
    snapshot.verifyChainOwnership chain
  mangleFirstDispatcherPairs.forM fun (builtin, target) => do
    ensure (snapshot.firstRule builtin.name = some (dispatchRule builtin target))
      ("OpenShield mark sanitizer is not first in mangle " ++ builtin.name)
    ensure (snapshot.dispatcherCount builtin [target] = 1)
      ("mangle " ++ builtin.name ++ " must contain exactly one OpenShield mark sanitizer")
  mangleLastDispatcherPairs.forM fun (builtin, target) => do
    ensure (snapshot.lastRule builtin.name = some (dispatchRule builtin target))
      ("OpenShield Learning observer is not last in mangle " ++ builtin.name)
    ensure (snapshot.dispatcherCount builtin [target] = 1)
      ("mangle " ++ builtin.name ++ " must contain exactly one OpenShield Learning observer")
  mangleFirstDispatcherPairs.forM fun (builtin, _) =>
    ensure (snapshot.dispatcherCount builtin ownedMangleChains = 2)
      ("mangle " ++ builtin.name ++ " must contain exactly two OpenShield dispatchers")

end XtablesSnapshot

end OpenShield
