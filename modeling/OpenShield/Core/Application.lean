import OpenShield.Data.Text

/-!
# Application identities and selectors

Executable paths, command lines, file identities and the selectors that application rules
use, with their validation. Values that the source builds only through a checking constructor
carry the checked facts as fields.
-/

namespace OpenShield

def MAX_APPLICATION_PATH_BYTES : ℕ := 4096
def MAX_CGROUP_PATH_BYTES : ℕ := 1024
def MAX_COMMAND_ARGUMENTS : ℕ := 64
def MAX_COMMAND_LINE_BYTES : ℕ := 8 * 1024
def MAX_COMMAND_ARGUMENT_BYTES : ℕ := MAX_COMMAND_LINE_BYTES - 1

inductive ApplicationValidationError
  | invalidExecutablePath
  | invalidCgroupPath
  | invalidCommandArgument
  | invalidCommandLine
  | applicationSelectorNeedsExecutable
  | fileIdWithoutExecutablePath
  | invalidExecutableFileId
  | invalidProcessIdentity
  | invalidLearnedEndpoint
  | incompleteLearnedApplicationIdentity
  | invalidRedactedSelector
  deriving DecidableEq, Repr

def ApplicationValidationError.message : ApplicationValidationError → String
  | .invalidExecutablePath =>
    "executable path must be a bounded canonical-looking absolute UTF-8 path"
  | .invalidCgroupPath =>
    "cgroup path must be a bounded absolute path without traversal or controls"
  | .invalidCommandArgument =>
    "command argument exceeds its byte bound or contains an embedded NUL"
  | .invalidCommandLine => "command-line selector is empty or exceeds its fixed bounds"
  | .applicationSelectorNeedsExecutable =>
    "application selector requires an exact executable path"
  | .fileIdWithoutExecutablePath =>
    "executable file identity requires an executable path"
  | .invalidExecutableFileId => "executable file version identity is invalid"
  | .invalidProcessIdentity =>
    "runtime process identity is incomplete or exceeds its fixed bounds"
  | .invalidLearnedEndpoint =>
    "learned application endpoint is not an exact supported network endpoint"
  | .incompleteLearnedApplicationIdentity =>
    "learned application identity requires a filesystem UID and pinned executable file"
  | .invalidRedactedSelector => "redacted application selector has unexpected metadata"

def isUnsafeTextCharacter (c : Char) : Bool :=
  decide (c.toNat = 0) || Text.isControl c || Text.isDirectional c

/-- Whether a slash-separated path has a `.` or `..` component. -/
def hasTraversal (path : List Char) : Bool :=
  (path.splitOn '/').any fun component => component == ['.'] || component == ['.', '.']

/-- The checks of `ApplicationPath::new`. -/
def ApplicationPath.accepts (value : String) : Bool :=
  !(value.isEmpty || decide (MAX_APPLICATION_PATH_BYTES < value.utf8ByteSize)) &&
    !(value.toList.head? != some '/' ||
      Text.endsWith value.toList " (deleted)".toList ||
      value.toList.any isUnsafeTextCharacter || hasTraversal value.toList)

/-- A bounded absolute executable path. -/
structure ApplicationPath where
  /-- The path as reported by the kernel. -/
  value : String
  valid : ApplicationPath.accepts value = true
  deriving DecidableEq

def ApplicationPath.new (value : String) : Except ApplicationValidationError ApplicationPath :=
  if h : ApplicationPath.accepts value then .ok ⟨value, h⟩ else .error .invalidExecutablePath

/-- The checks of `CgroupPath::new`. -/
def CgroupPath.accepts (value : String) : Bool :=
  !(value.isEmpty || decide (MAX_CGROUP_PATH_BYTES < value.utf8ByteSize) ||
    value.toList.head? != some '/' || value.toList.any isUnsafeTextCharacter ||
    hasTraversal value.toList)

/-- One exact, bounded cgroup membership path. -/
structure CgroupPath where
  value : String
  valid : CgroupPath.accepts value = true
  deriving DecidableEq

def CgroupPath.new (value : String) : Except ApplicationValidationError CgroupPath :=
  if h : CgroupPath.accepts value then .ok ⟨value, h⟩ else .error .invalidCgroupPath

/-- The checks of `CommandArgument::new`. -/
def CommandArgument.accepts (value : String) : Bool :=
  !(decide (MAX_COMMAND_ARGUMENT_BYTES < value.utf8ByteSize) ||
    value.toList.any fun c => decide (c.toNat = 0))

/-- One bounded argument, kept as the process passed it. -/
structure CommandArgument where
  /-- The unmodified argument. -/
  value : String
  valid : CommandArgument.accepts value = true
  deriving DecidableEq

def CommandArgument.new (value : String) : Except ApplicationValidationError CommandArgument :=
  if h : CommandArgument.accepts value then .ok ⟨value, h⟩ else .error .invalidCommandArgument

/-- How a command-line selector compares arguments. -/
inductive CommandLineMatch
  | exactMatch
  | prefixMatch
  deriving DecidableEq, Repr

/-- An exact or leading part of a command line. -/
structure CommandLineSelector where
  kind : CommandLineMatch
  arguments : List CommandArgument
  deriving DecidableEq

/-- Addition of `usize` values; `none` on overflow. -/
def checkedAddUsize (a b : ℕ) : Option ℕ := if a + b < 2 ^ 64 then some (a + b) else none

/-- Byte size of a command line with one terminator per argument; `none` on overflow. -/
def commandLineBytes (arguments : List CommandArgument) : Option ℕ :=
  arguments.foldlM (fun total argument => do
    checkedAddUsize (← checkedAddUsize total argument.value.utf8ByteSize) 1) 0

def CommandLineSelector.validate (selector : CommandLineSelector) :
    Except ApplicationValidationError Unit :=
  if selector.arguments.isEmpty || decide (MAX_COMMAND_ARGUMENTS < selector.arguments.length) then
    .error .invalidCommandLine
  else if (commandLineBytes selector.arguments).all (fun total =>
      decide (MAX_COMMAND_LINE_BYTES < total)) then
    .error .invalidCommandLine
  else .ok ()

def CommandLineSelector.matches (selector : CommandLineSelector)
    (actual : List CommandArgument) : Bool :=
  match selector.kind with
  | .exactMatch => decide (selector.arguments = actual)
  | .prefixMatch => selector.arguments.isPrefixOf actual

structure ExecutableFileId where
  device : BitVec 64
  inode : BitVec 64
  size : BitVec 64
  ctimeSeconds : Int64
  ctimeNanoseconds : Int64
  deriving DecidableEq

def ExecutableFileId.validate (file : ExecutableFileId) :
    Except ApplicationValidationError Unit :=
  if file.inode = 0 ∨ ¬(0 ≤ file.ctimeNanoseconds ∧ file.ctimeNanoseconds < 1000000000) then
    .error .invalidExecutableFileId
  else .ok ()

/-- A conjunction of constraints on the identity of a process. -/
structure ApplicationSelector where
  executable : Option ApplicationPath
  executableFile : Option ExecutableFileId
  commandLine : Option CommandLineSelector
  uid : Option (BitVec 32)
  cgroup : Option CgroupPath
  metadataRedacted : Bool
  deriving DecidableEq

/-- The identity of a running process, as the daemon captured it. -/
structure ApplicationIdentity where
  pid : BitVec 32
  processStartTimeTicks : BitVec 64
  executable : ApplicationPath
  executableFile : ExecutableFileId
  commandLine : List CommandArgument
  uid : BitVec 32
  cgroups : List CgroupPath
  deriving DecidableEq

namespace ApplicationSelector

def validate (selector : ApplicationSelector) : Except ApplicationValidationError Unit :=
  if selector.metadataRedacted then
    if selector.executable.map ApplicationPath.value = some "/redacted" ∧
        selector.executableFile = none ∧ selector.commandLine = none ∧ selector.uid = none ∧
        selector.cgroup = none then
      .ok ()
    else .error .invalidRedactedSelector
  else if selector.executable = none then .error .applicationSelectorNeedsExecutable
  else if selector.executableFile ≠ none ∧ selector.executable = none then
    .error .fileIdWithoutExecutablePath
  else do
    if let some file := selector.executableFile then file.validate
    if let some commandLine := selector.commandLine then commandLine.validate

def new (executable : Option ApplicationPath) (executableFile : Option ExecutableFileId)
    (commandLine : Option CommandLineSelector) (uid : Option (BitVec 32))
    (cgroup : Option CgroupPath) : Except ApplicationValidationError ApplicationSelector := do
  let selector : ApplicationSelector :=
    { executable, executableFile, commandLine, uid, cgroup, metadataRedacted := false }
  selector.validate
  return selector

def «matches» (selector : ApplicationSelector) (identity : ApplicationIdentity) : Bool :=
  !selector.metadataRedacted &&
    selector.executable.all (fun expected => decide (expected = identity.executable)) &&
    selector.executableFile.all (fun expected => decide (expected = identity.executableFile)) &&
    selector.commandLine.all (fun expected => expected.matches identity.commandLine) &&
    selector.uid.all (fun expected => decide (expected = identity.uid)) &&
    selector.cgroup.all (fun expected => identity.cgroups.any fun actual =>
      decide (actual = expected))

end ApplicationSelector

end OpenShield
