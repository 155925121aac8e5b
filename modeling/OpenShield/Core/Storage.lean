import OpenShield.Core.Validity
import OpenShield.Data.Command
import OpenShield.Data.Disk

/-!
# The state file

`AtomicStateStore` writes a state to a new file beside the state file, synchronizes it, renames it
over the state file and synchronizes the directory; when a step fails it removes the new file. The
calls run on a machine that keeps every disk it has had, so that a loss of power can be placed
after any of them, and that is told in advance which calls fail.

The state file's path has a directory and a file name, so the two errors for paths without one
do not occur.
-/

namespace OpenShield

/-- The text of states, as it is written and read. -/
structure StateCodec where
  json : Serializer
  encode : State → List UInt8
  decode : List UInt8 → Except String State
  length_encode : ∀ s, (encode s).length = json.stateSize s
  decode_encode : ∀ s, s.validate json = .ok () → decode (encode s) = .ok s

inductive StorePath where
  | directory
  | state
  | temporary
  deriving DecidableEq

inductive StorageError where
  | io (operation : String) (path : StorePath)
  | unsafeFileType (path : StorePath)
  | wrongOwner (path : StorePath) (expected actual : BitVec 32)
  | insecureDirectoryMode (path : StorePath) (mode : BitVec 32)
  | insecureFileMode (path : StorePath) (mode : BitVec 32)
  | stateTooLarge (bytes : ℕ)
  | invalidJson (message : String)
  | invalidState (error : CoreError)
  deriving DecidableEq

inductive Syscall where
  | inspectDirectory
  | inspectState
  | create
  | inspectTemporary
  | write
  | syncFile
  | rename
  | openDirectory
  | syncDirectory
  | remove
  deriving DecidableEq

structure DiskEvent where
  call : Syscall
  succeeded : Bool
  disk : Disk

structure Machine where
  disk : Disk
  /-- The calls made, the last one first. -/
  history : List DiskEvent
  /-- The outcome of each call to come. A call fails if it has a leftover; a failed write leaves
  it in the file. -/
  faults : ℕ → Option (List UInt8)

namespace Machine

def start (disk : Disk) (faults : ℕ → Option (List UInt8)) : Machine := ⟨disk, [], faults⟩

def record (m : Machine) (call : Syscall) (succeeded : Bool) (disk : Disk) : Machine :=
  { m with disk, history := ⟨call, succeeded, disk⟩ :: m.history }

def disks (m : Machine) (first : Disk) : List Disk := first :: m.history.map (·.disk)

def Unrenamed (m : Machine) : Prop :=
  ∀ event ∈ m.history, event.call = .rename → event.succeeded = false

end Machine

abbrev Storage := Command Machine StorageError

/-- Make a call. `failed` is the disk a failed call leaves, `act` what the call does; `act` fails
when the disk does not allow the call. -/
def syscall {α : Type} (call : Syscall) (operation : String) (path : StorePath)
    (failed : List UInt8 → Disk → Disk) (act : Disk → Option (α × Disk)) : Storage α := do
  let m ← get
  match m.faults m.history.length with
  | some leftover =>
    set (m.record call false (failed leftover m.disk))
    throw (.io operation path)
  | none =>
    match act m.disk with
    | some (a, disk) =>
      set (m.record call true disk)
      return a
    | none =>
      set (m.record call false m.disk)
      throw (.io operation path)

def STATE_FILE_MODE : BitVec 32 := 0o600

def validateOwner (path : StorePath) (metadata : Metadata) (requiredOwner : BitVec 32) :
    Except StorageError Unit :=
  ensure (metadata.owner = requiredOwner) (.wrongOwner path requiredOwner metadata.owner)

/-- The process that saves: its user, its mask for new files and the next random identifier. -/
structure Process where
  user : BitVec 32
  mask : BitVec 32
  draw : Uuid

structure AtomicStateStore where
  fileName : String
  requiredOwner : BitVec 32

namespace AtomicStateStore

variable (store : AtomicStateStore)

def checkParent (metadata : Metadata) : Except StorageError Unit := do
  ensure (metadata.kind = .directory) (.unsafeFileType .directory)
  validateOwner .directory metadata store.requiredOwner
  ensure (metadata.permissions &&& 0o022 = 0)
    (.insecureDirectoryMode .directory metadata.permissions)

def checkFile (metadata : Metadata) : Except StorageError Unit := do
  ensure (metadata.kind = .regular) (.unsafeFileType .state)
  validateOwner .state metadata store.requiredOwner
  ensure (metadata.permissions = STATE_FILE_MODE) (.insecureFileMode .state metadata.permissions)

def validateParent : Storage Unit := do
  let metadata ← syscall .inspectDirectory "inspect state directory" .directory (fun _ disk => disk)
    fun disk => some (disk.directory, disk)
  Command.ofExcept id (store.checkParent metadata)

def validateExistingFile : Storage (Option Metadata) := do
  let found ← syscall .inspectState "inspect state file" .state (fun _ disk => disk)
    fun disk => some ((disk.entries store.fileName).map fun i => (disk.inodes i).metadata, disk)
  match found with
  | none => return none
  | some metadata =>
    Command.ofExcept id (store.checkFile metadata)
    return some metadata

def temporaryName (draw : Uuid) : String :=
  store.fileName ++ ("." ++ Uuid.display draw ++ ".tmp")

def createTemporary (process : Process) : Storage ℕ :=
  syscall .create "create temporary state file" .temporary (fun _ disk => disk) fun disk =>
    disk.create (store.temporaryName process.draw)
      ⟨.regular, process.user, STATE_FILE_MODE &&& ~~~process.mask⟩

def checkTemporary (metadata : Metadata) :
    Except StorageError Unit := do
  validateOwner .temporary metadata store.requiredOwner
  ensure (metadata.permissions = STATE_FILE_MODE)
    (.insecureFileMode .temporary metadata.permissions)

def replaceWith (process : Process) (temporary : ℕ)
    (bytes : List UInt8) : Storage Unit := do
  let metadata ← syscall .inspectTemporary "inspect temporary state file" .temporary
    (fun _ disk => disk) fun disk => some ((disk.inodes temporary).metadata, disk)
  Command.ofExcept id (store.checkTemporary metadata)
  syscall .write "write temporary state file" .temporary
    (fun leftover disk => disk.write temporary leftover)
    fun disk => some ((), disk.write temporary bytes)
  syscall .syncFile "sync temporary state file" .temporary (fun _ disk => disk)
    fun disk => some ((), disk.syncFile temporary)
  syscall .rename "replace state file" .state (fun _ disk => disk) fun disk =>
    (disk.rename (store.temporaryName process.draw) store.fileName).map fun disk => ((), disk)
  syscall .openDirectory "sync state directory" .directory (fun _ disk => disk)
    fun disk => some ((), disk)
  syscall .syncDirectory "sync state directory" .directory (fun _ disk => disk)
    fun disk => some ((), disk.syncDirectory)

def removeTemporary (process : Process) : Storage Unit :=
  syscall .remove "" .temporary (fun _ disk => disk) fun disk =>
    (disk.unlink (store.temporaryName process.draw)).map fun disk => ((), disk)

/-- Save a state. Once the new file exists, an error of a later step is followed by its removal,
whose own result is ignored. -/
def save (codec : StateCodec) (process : Process) (state : State) :
    Storage Unit := do
  Command.ofExcept .invalidState (state.validate codec.json)
  store.validateParent
  let _ ← store.validateExistingFile
  let bytes := codec.encode state
  Command.ofExcept id (ensure (bytes.length ≤ MAX_STATE_BYTES) (.stateTooLarge bytes.length))
  let temporary ← store.createTemporary process
  match ← (store.replaceWith process temporary bytes).attempt with
  | .ok () => return ()
  | .error error =>
    let _ ← (store.removeTemporary process).attempt
    throw error

/-- Load the state, from a disk on which every call succeeds. The open file is checked like the
file of the name was. -/
def load (codec : StateCodec) (disk : Disk) :
    Except StorageError (Option State) := do
  store.checkParent disk.directory
  match disk.entries store.fileName with
  | none => return none
  | some i =>
    store.checkFile (disk.inodes i).metadata
    store.checkFile (disk.inodes i).metadata
    let bytes := (disk.inodes i).content.take (MAX_STATE_BYTES + 1)
    ensure (bytes.length ≤ MAX_STATE_BYTES) (.stateTooLarge bytes.length)
    let state ← (codec.decode bytes).mapError .invalidJson
    (state.validate codec.json).mapError .invalidState
    return some state

/-! ### Durable states -/

section

variable (store : AtomicStateStore) (codec : StateCodec)

structure Holds (inode : Inode) (s : State) : Prop where
  synced : inode.synced = true
  accepted : store.checkFile inode.metadata = .ok ()
  content : inode.content = codec.encode s

/-- The state file is the file `i`, durably, and holds a state. -/
structure StoredAt (disk : Disk) (i : ℕ) (s : State) : Prop where
  directory : store.checkParent disk.directory = .ok ()
  entry : disk.durable store.fileName = some i
  untouched : ∀ change ∈ disk.pending, store.fileName ∉ change.names
  allocated : i < disk.next
  holds : store.Holds codec (disk.inodes i) s

def Stored (disk : Disk) (s : State) : Prop := ∃ i, store.StoredAt codec disk i s

/-- The state file was the durable file `i` and has just been replaced by the file `j`, which is
durable too; the replacement itself is not. -/
structure Replaced (temporary : String) (disk : Disk) (i j : ℕ) (old new : State) : Prop where
  directory : store.checkParent disk.directory = .ok ()
  entry : disk.durable store.fileName = some i
  pending : ∃ front, disk.pending = front ++ [.rename temporary store.fileName j] ∧
    ∀ change ∈ front, store.fileName ∉ change.names
  allocated : i < disk.next ∧ j < disk.next
  holdsOld : store.Holds codec (disk.inodes i) old
  holdsNew : store.Holds codec (disk.inodes j) new

end

variable {store : AtomicStateStore} {codec : StateCodec} {process : Process} {disk disk' : Disk}
  {i j : ℕ} {s old new : State} {temporary : String}

theorem load_of_holds (hvalid : s.validate codec.json = .ok ())
    (hparent : store.checkParent disk.directory = .ok ())
    (hentry : disk.entries store.fileName = some i)
    (hholds : store.Holds codec (disk.inodes i) s) : store.load codec disk = .ok (some s) := by
  have hlength : (codec.encode s).length ≤ MAX_STATE_BYTES := by
    rw [codec.length_encode]
    exact ((State.validate_eq_ok_iff codec.json s).mp hvalid).2.2.2
  have htake : (codec.encode s).take (MAX_STATE_BYTES + 1) = codec.encode s :=
    List.take_of_length_le (by omega)
  have hensure : ensure ((codec.encode s).length ≤ MAX_STATE_BYTES)
      (StorageError.stateTooLarge (codec.encode s).length) = .ok () := by simpa using hlength
  simp only [load, hparent, hentry, hholds.accepted, hholds.content, htake, hensure,
    codec.decode_encode s hvalid]
  change ((s.validate codec.json).mapError StorageError.invalidState >>= fun _ =>
    Except.ok (some s)) = _
  rw [hvalid]
  rfl

namespace StoredAt

theorem load_eq (h : store.StoredAt codec disk i s) (hvalid : s.validate codec.json = .ok ()) :
    store.load codec disk = .ok (some s) := by
  refine load_of_holds hvalid h.directory ?_ h.holds
  rw [Disk.entries_of_untouched h.untouched, h.entry]

theorem crash (h : store.StoredAt codec disk i s) (hcrash : disk.Crash disk') :
    store.StoredAt codec disk' i s where
  directory := hcrash.directory ▸ h.directory
  entry := (hcrash.durable_of_untouched h.untouched).trans h.entry
  untouched := by simp [hcrash.pending]
  allocated := hcrash.next ▸ h.allocated
  holds := hcrash.inodes i h.holds.synced ▸ h.holds

theorem survives (h : store.StoredAt codec disk i s) (hsurvives : disk.Survives disk') :
    store.StoredAt codec disk' i s := by
  induction hsurvives with
  | refl => exact h
  | tail _ hcrash ih => exact ih.crash hcrash

theorem append_pending (h : store.StoredAt codec disk i s) {change : EntryChange}
    (hchange : store.fileName ∉ change.names) :
    store.StoredAt codec { disk with pending := disk.pending ++ [change] } i s where
  directory := h.directory
  entry := h.entry
  untouched := by
    intro other hmem
    rcases List.mem_append.mp hmem with hmem | hmem
    · exact h.untouched other hmem
    · rw [List.mem_singleton.mp hmem]
      exact hchange
  allocated := h.allocated
  holds := h.holds

/-- Another file may be changed. -/
theorem update_inode (h : store.StoredAt codec disk i s) (hne : i ≠ j) (inode : Inode) :
    store.StoredAt codec { disk with inodes := Function.update disk.inodes j inode } i s where
  directory := h.directory
  entry := h.entry
  untouched := h.untouched
  allocated := h.allocated
  holds := by
    have hsame : Function.update disk.inodes j inode i = disk.inodes i :=
      Function.update_of_ne hne _ _
    simpa only [hsame] using h.holds

end StoredAt

namespace Replaced

theorem load_eq (h : store.Replaced codec temporary disk i j old new)
    (hvalid : new.validate codec.json = .ok ()) : store.load codec disk = .ok (some new) := by
  refine load_of_holds hvalid h.directory ?_ h.holdsNew
  obtain ⟨front, hpending, -⟩ := h.pending
  rw [Disk.entries, hpending, List.foldl_append]
  exact EntryChange.apply_rename_target _ _ _ _

theorem crash (h : store.Replaced codec temporary disk i j old new)
    (hcrash : disk.Crash disk') :
    store.StoredAt codec disk' i old ∨ store.StoredAt codec disk' j new := by
  obtain ⟨front, hpending, hfront⟩ := h.pending
  rcases hcrash.durable_of_last hpending hfront with hold | ⟨entries, hnew⟩
  · exact .inl
      { directory := hcrash.directory ▸ h.directory
        entry := hold.trans h.entry
        untouched := by simp [hcrash.pending]
        allocated := hcrash.next ▸ h.allocated.1
        holds := hcrash.inodes i h.holdsOld.synced ▸ h.holdsOld }
  · exact .inr
      { directory := hcrash.directory ▸ h.directory
        entry := hnew.trans (EntryChange.apply_rename_target _ _ _ _)
        untouched := by simp [hcrash.pending]
        allocated := hcrash.next ▸ h.allocated.2
        holds := hcrash.inodes j h.holdsNew.synced ▸ h.holdsNew }

theorem entries_temporary (h : store.Replaced codec temporary disk i j old new)
    (hne : temporary ≠ store.fileName) : disk.entries temporary = none := by
  obtain ⟨front, hpending, -⟩ := h.pending
  rw [Disk.entries, hpending, List.foldl_append]
  exact (Function.update_of_ne hne _ _).trans (Function.update_self _ _ _)

theorem syncDirectory (h : store.Replaced codec temporary disk i j old new) :
    store.StoredAt codec disk.syncDirectory j new where
  directory := h.directory
  entry := by
    obtain ⟨front, hpending, -⟩ := h.pending
    show disk.entries store.fileName = some j
    rw [Disk.entries, hpending, List.foldl_append]
    exact EntryChange.apply_rename_target _ _ _ _
  untouched := by simp [Disk.syncDirectory]
  allocated := h.allocated.2
  holds := h.holdsNew

end Replaced

/-! ### Runs of `save` -/

theorem temporaryName_ne (store : AtomicStateStore) (draw : Uuid) :
    store.temporaryName draw ≠ store.fileName := by
  intro h
  have hlength := congrArg String.length h
  simp only [temporaryName, String.length_append] at hlength
  have hdot : ".".length = 1 := rfl
  omega

def Recoverable (store : AtomicStateStore) (codec : StateCodec) (old new : State)
    (disk : Disk) : Prop :=
  ∀ disk', disk.Survives disk' →
    store.load codec disk' = .ok (some old) ∨ store.load codec disk' = .ok (some new)

theorem StoredAt.recoverable_old (h : store.StoredAt codec disk i old)
    (hvalid : old.validate codec.json = .ok ()) : store.Recoverable codec old new disk :=
  fun _ hsurvives => .inl ((h.survives hsurvives).load_eq hvalid)

theorem StoredAt.recoverable_new (h : store.StoredAt codec disk i new)
    (hvalid : new.validate codec.json = .ok ()) : store.Recoverable codec old new disk :=
  fun _ hsurvives => .inr ((h.survives hsurvives).load_eq hvalid)

theorem Replaced.recoverable (h : store.Replaced codec temporary disk i j old new)
    (hold : old.validate codec.json = .ok ()) (hnew : new.validate codec.json = .ok ()) :
    store.Recoverable codec old new disk := by
  intro disk' hsurvives
  -- The first crash decides which of the two states is durable; later ones change nothing.
  rcases Relation.ReflTransGen.cases_head hsurvives with rfl | ⟨crashed, hcrash, hrest⟩
  · exact .inr (h.load_eq hnew)
  · rcases h.crash hcrash with hstored | hstored
    · exact hstored.recoverable_old hold disk' hrest
    · exact hstored.recoverable_new hnew disk' hrest

theorem syscall_triple {α : Type} {call : Syscall} {operation : String} {path : StorePath}
    {failed : List UInt8 → Disk → Disk} {act : Disk → Option (α × Disk)}
    {pre : Machine → Prop} {ok : α → Machine → Prop} {err : StorageError → Machine → Prop}
    (hfault : ∀ m leftover, pre m →
      err (.io operation path) (m.record call false (failed leftover m.disk)))
    (hrefused : ∀ m, pre m → act m.disk = none →
      err (.io operation path) (m.record call false m.disk))
    (hok : ∀ m a disk, pre m → act m.disk = some (a, disk) → ok a (m.record call true disk)) :
    Command.Triple pre (syscall call operation path failed act) ok err := by
  intro m hm
  rw [syscall, Command.exec_bind, Command.exec_get]
  cases hf : m.faults m.history.length with
  | some leftover =>
    simp only [hf, Command.exec_bind, Command.exec_set, Command.exec_throw]
    exact hfault m leftover hm
  | none =>
    cases hact : act m.disk with
    | some result =>
      simp only [hf, hact, Command.exec_bind, Command.exec_set, Command.exec_pure]
      exact hok m result.1 result.2 hm hact
    | none =>
      simp only [hf, hact, Command.exec_bind, Command.exec_set, Command.exec_throw]
      exact hrefused m hm hact

theorem syscall_read {α : Type} {call : Syscall} {operation : String} {path : StorePath}
    {read : Disk → α} {pre : Machine → Prop} {err : StorageError → Machine → Prop}
    (hsame : ∀ m succeeded, pre m → pre (m.record call succeeded m.disk))
    (herr : ∀ e m, pre m → err e m) :
    Command.Triple pre
      (syscall call operation path (fun _ disk => disk) fun disk => some (read disk, disk))
      (fun a m => pre m ∧ a = read m.disk) err := by
  refine syscall_triple ?_ ?_ ?_
  · intro m leftover hm
    exact herr _ _ (hsame m false hm)
  · intro m hm hact
    exact absurd hact (by simp)
  · intro m a disk hm hact
    obtain ⟨rfl, rfl⟩ := Prod.mk.inj (Option.some.inj hact)
    exact ⟨hsame m true hm, rfl⟩

section

variable (store : AtomicStateStore) (codec : StateCodec) (old new : State) (first : Disk)

def Recorded (m : Machine) : Prop :=
  ∀ disk ∈ m.disks first, store.Recoverable codec old new disk

/-- The state file has not been replaced: the file `i` still holds the old state. -/
structure Before (i : ℕ) (m : Machine) : Prop where
  recorded : store.Recorded codec old new first m
  unrenamed : m.Unrenamed
  stored : store.StoredAt codec m.disk i old

/-- The new file `j` exists beside the state file. -/
structure Drafted (process : Process) (i j : ℕ) (m : Machine) : Prop
    extends store.Before codec old new first i m where
  distinct : i ≠ j
  allocated : j < m.disk.next
  named : m.disk.entries (store.temporaryName process.draw) = some j
  regular : (m.disk.inodes j).metadata.kind = .regular

structure Checked (process : Process) (i j : ℕ) (m : Machine) : Prop
    extends store.Drafted codec old new first process i j m where
  accepted : store.checkFile (m.disk.inodes j).metadata = .ok ()

/-- The new file has the new state's text. -/
structure Written (process : Process) (i j : ℕ) (m : Machine) : Prop
    extends store.Checked codec old new first process i j m where
  content : (m.disk.inodes j).content = codec.encode new

structure Synced (process : Process) (i j : ℕ) (m : Machine) : Prop
    extends store.Drafted codec old new first process i j m where
  holds : store.Holds codec (m.disk.inodes j) new

structure After (process : Process) (i j : ℕ) (m : Machine) : Prop where
  recorded : store.Recorded codec old new first m
  renamed : ¬ m.Unrenamed
  replaced : store.Replaced codec (store.temporaryName process.draw) m.disk i j old new

/-- The save has failed: every disk so far is recoverable, and unless the state file has been
replaced the old state is durable. -/
structure Failed (m : Machine) : Prop where
  recorded : store.Recorded codec old new first m
  stored : m.Unrenamed → store.Stored codec m.disk old

/-- The new state is durable. -/
structure Saved (m : Machine) : Prop where
  recorded : store.Recorded codec old new first m
  stored : store.Stored codec m.disk new

end

variable {first : Disk} {m : Machine} {call : Syscall} {succeeded : Bool}

theorem Recorded.record (h : store.Recorded codec old new first m)
    (hdisk : store.Recoverable codec old new disk) :
    store.Recorded codec old new first (m.record call succeeded disk) := by
  intro other hmem
  have hcases : other = first ∨ other = disk ∨ other ∈ m.history.map (·.disk) := by
    simpa [Machine.disks, Machine.record] using hmem
  rcases hcases with rfl | rfl | hmem
  · exact h _ List.mem_cons_self
  · exact hdisk
  · exact h other (List.mem_cons_of_mem _ hmem)

theorem Before.record (h : store.Before codec old new first i m)
    (hold : old.validate codec.json = .ok ()) (hcall : call = .rename → succeeded = false)
    (hstored : store.StoredAt codec disk i old) :
    store.Before codec old new first i (m.record call succeeded disk) where
  recorded := h.recorded.record (hstored.recoverable_old hold)
  unrenamed := by
    intro event hmem hrename
    rcases List.mem_cons.mp hmem with rfl | hmem
    · exact hcall hrename
    · exact h.unrenamed event hmem hrename
  stored := hstored

theorem Before.failed (h : store.Before codec old new first i m) :
    store.Failed codec old new first m where
  recorded := h.recorded
  stored := fun _ => ⟨i, h.stored⟩

theorem After.failed (h : store.After codec old new first process i j m) :
    store.Failed codec old new first m where
  recorded := h.recorded
  stored := fun hunrenamed => absurd hunrenamed h.renamed

theorem Drafted.record (h : store.Drafted codec old new first process i j m)
    (hold : old.validate codec.json = .ok ()) (hcall : call = .rename → succeeded = false)
    {inode : Inode} (hkind : inode.metadata.kind = .regular) :
    store.Drafted codec old new first process i j
      (m.record call succeeded
        { m.disk with inodes := Function.update m.disk.inodes j inode }) where
  toBefore := h.toBefore.record hold hcall (h.stored.update_inode h.distinct inode)
  distinct := h.distinct
  allocated := h.allocated
  named := h.named
  regular := by simpa [Machine.record] using hkind

theorem Drafted.record_same (h : store.Drafted codec old new first process i j m)
    (hold : old.validate codec.json = .ok ()) (hcall : call = .rename → succeeded = false) :
    store.Drafted codec old new first process i j (m.record call succeeded m.disk) where
  toBefore := h.toBefore.record hold hcall h.stored
  distinct := h.distinct
  allocated := h.allocated
  named := h.named
  regular := h.regular

/-- A replaced state file stays replaced. -/
theorem After.record_same (h : store.After codec old new first process i j m)
    (hold : old.validate codec.json = .ok ()) (hnew : new.validate codec.json = .ok ()) :
    store.After codec old new first process i j (m.record call succeeded m.disk) where
  recorded := h.recorded.record (h.replaced.recoverable hold hnew)
  renamed := fun hunrenamed =>
    h.renamed fun event hmem => hunrenamed event (List.mem_cons_of_mem _ hmem)
  replaced := h.replaced

theorem checkFile_of_checkTemporary {metadata : Metadata} (hkind : metadata.kind = .regular)
    (h : store.checkTemporary metadata = .ok ()) : store.checkFile metadata = .ok () := by
  simp only [checkTemporary, validateOwner, Except.bind_unit_eq_ok_iff, ensure_eq_ok_iff] at h
  simp only [checkFile, validateOwner, Except.bind_unit_eq_ok_iff, ensure_eq_ok_iff]
  exact ⟨hkind, h⟩

section

variable (hold : old.validate codec.json = .ok ()) (hnew : new.validate codec.json = .ok ())
include hold

theorem validateParent_triple :
    Command.Triple (store.Before codec old new first i) store.validateParent
      (fun _ => store.Before codec old new first i)
      (fun _ => store.Failed codec old new first) := by
  refine .bind (syscall_read ?_ fun _ _ hm => hm.failed) ?_
  · intro m succeeded hm
    exact hm.record hold (by simp) hm.stored
  · intro metadata
    exact .ofExcept (fun _ _ _ hm => hm.1) fun _ _ hm => hm.1.failed

theorem validateExistingFile_triple :
    Command.Triple (store.Before codec old new first i) store.validateExistingFile
      (fun _ => store.Before codec old new first i)
      (fun _ => store.Failed codec old new first) := by
  refine .bind (syscall_read ?_ fun _ _ hm => hm.failed) ?_
  · intro m succeeded hm
    exact hm.record hold (by simp) hm.stored
  · rintro (_ | metadata)
    · exact .pure fun _ hm => hm.1
    · exact .bind (.ofExcept (fun _ _ _ hm => hm.1) fun _ _ hm => hm.1.failed)
        fun _ => .pure fun _ hm => hm

theorem createTemporary_triple :
    Command.Triple (store.Before codec old new first i) (store.createTemporary process)
      (fun j => store.Drafted codec old new first process i j)
      (fun _ => store.Failed codec old new first) := by
  have hne := store.temporaryName_ne process.draw
  refine syscall_triple ?_ ?_ ?_
  · intro m leftover hm
    exact (hm.record hold (by simp) hm.stored).failed
  · intro m hm _
    exact (hm.record hold (by simp) hm.stored).failed
  · intro m j disk hm hact
    unfold Disk.create at hact
    cases hentry : m.disk.entries (store.temporaryName process.draw) with
    | some other => simp [hentry] at hact
    | none =>
      simp only [hentry, Option.some.injEq, Prod.mk.injEq] at hact
      obtain ⟨rfl, rfl⟩ := hact
      have hdistinct : i ≠ m.disk.next := Nat.ne_of_lt hm.stored.allocated
      have huntouched : store.fileName ∉
          (EntryChange.link (store.temporaryName process.draw) m.disk.next).names := by
        simpa [EntryChange.names] using hne.symm
      have hstored := (hm.stored.update_inode hdistinct
        ⟨⟨.regular, process.user, STATE_FILE_MODE &&& ~~~process.mask⟩, [], false⟩).append_pending
        huntouched
      exact
        { toBefore := hm.record hold (by simp)
            { hstored with allocated := Nat.lt_succ_of_lt hm.stored.allocated }
          distinct := hdistinct
          allocated := Nat.lt_succ_self _
          named := by
            simp [Machine.record, Disk.entries, List.foldl_append]
          regular := by simp [Machine.record] }

theorem Drafted.broken (h : store.Drafted codec old new first process i j m)
    (hcall : call = .rename → succeeded = false) :
    store.Before codec old new first i (m.record call succeeded m.disk) ∨
      store.After codec old new first process i j (m.record call succeeded m.disk) :=
  .inl (h.record_same hold hcall).toBefore

theorem Checked.write (h : store.Checked codec old new first process i j m) :
    store.Written codec old new first process i j
      (m.record .write true (m.disk.write j (codec.encode new))) where
  toDrafted := h.toDrafted.record hold (by simp) h.regular
  accepted := by simpa [Machine.record, Disk.write] using h.accepted
  content := by simp [Machine.record, Disk.write]

theorem Written.sync (h : store.Written codec old new first process i j m) :
    store.Synced codec old new first process i j
      (m.record .syncFile true (m.disk.syncFile j)) where
  toDrafted := h.toDrafted.record hold (by simp) h.regular
  holds :=
    { synced := by simp [Machine.record, Disk.syncFile]
      accepted := by simpa [Machine.record, Disk.syncFile] using h.accepted
      content := by simpa [Machine.record, Disk.syncFile] using h.content }

include hnew

/-- The replacement. -/
theorem Synced.rename (h : store.Synced codec old new first process i j m)
    (hrename : m.disk.rename (store.temporaryName process.draw) store.fileName = some disk) :
    store.After codec old new first process i j (m.record .rename true disk) := by
  unfold Disk.rename at hrename
  simp only [h.named, Option.some.injEq] at hrename
  subst hrename
  have hreplaced : store.Replaced codec (store.temporaryName process.draw)
      { m.disk with pending := m.disk.pending ++
          [.rename (store.temporaryName process.draw) store.fileName j] } i j old new :=
    { directory := h.stored.directory
      entry := h.stored.entry
      pending := ⟨m.disk.pending, rfl, h.stored.untouched⟩
      allocated := ⟨h.stored.allocated, h.allocated⟩
      holdsOld := h.stored.holds
      holdsNew := h.holds }
  exact
    { recorded := h.recorded.record (hreplaced.recoverable hold hnew)
      renamed := fun hunrenamed => absurd (hunrenamed _ List.mem_cons_self rfl) (by simp)
      replaced := hreplaced }

omit hold in
theorem After.syncDirectory (h : store.After codec old new first process i j m) :
    store.Saved codec old new first (m.record .syncDirectory true m.disk.syncDirectory) where
  recorded := h.recorded.record (h.replaced.syncDirectory.recoverable_new hnew)
  stored := ⟨j, h.replaced.syncDirectory⟩

theorem replaceWith_triple :
    Command.Triple (store.Drafted codec old new first process i j)
      (store.replaceWith process j (codec.encode new))
      (fun _ => store.Saved codec old new first)
      (fun _ m => store.Before codec old new first i m ∨
        store.After codec old new first process i j m) := by
  refine .bind (syscall_read (fun m _ hm => hm.record_same hold (by simp))
    fun _ _ hm => .inl hm.toBefore) fun metadata => ?_
  have hcheck (_ : Unit) (m : Machine) (hok : store.checkTemporary metadata = .ok ())
      (hm : store.Drafted codec old new first process i j m ∧
        metadata = (m.disk.inodes j).metadata) :
      store.Checked codec old new first process i j m :=
    { hm.1 with accepted := checkFile_of_checkTemporary hm.1.regular (hm.2 ▸ hok) }
  refine .bind (.ofExcept hcheck fun _ _ hm => .inl hm.1.toBefore) fun _ => ?_
  have hwrite (m : Machine) (_ : Unit) (disk : Disk)
      (hm : store.Checked codec old new first process i j m)
      (hact : some ((), m.disk.write j (codec.encode new)) = some ((), disk)) :
      store.Written codec old new first process i j (m.record .write true disk) := by
    obtain ⟨-, rfl⟩ := Prod.mk.inj (Option.some.inj hact)
    exact hm.write hold
  refine .bind (syscall_triple ?_ (by simp) hwrite) fun _ => ?_
  · intro m leftover hm
    have hpartial : store.Drafted codec old new first process i j
        (m.record .write false (m.disk.write j leftover)) :=
      hm.toDrafted.record hold (by simp) hm.regular
    exact .inl hpartial.toBefore
  have hsync (m : Machine) (_ : Unit) (disk : Disk)
      (hm : store.Written codec old new first process i j m)
      (hact : some ((), m.disk.syncFile j) = some ((), disk)) :
      store.Synced codec old new first process i j (m.record .syncFile true disk) := by
    obtain ⟨-, rfl⟩ := Prod.mk.inj (Option.some.inj hact)
    exact hm.sync hold
  refine .bind (syscall_triple (fun m _ hm => hm.toDrafted.broken hold (by simp)) (by simp) hsync)
    fun _ => ?_
  have hrename (m : Machine) (_ : Unit) (disk : Disk)
      (hm : store.Synced codec old new first process i j m)
      (hact : (m.disk.rename (store.temporaryName process.draw) store.fileName).map
        (fun disk => ((), disk)) = some ((), disk)) :
      store.After codec old new first process i j (m.record .rename true disk) := by
    obtain ⟨renamed, hrenamed, heq⟩ := Option.map_eq_some_iff.mp hact
    obtain ⟨-, rfl⟩ := Prod.mk.inj heq
    exact hm.rename hold hnew hrenamed
  refine .bind (syscall_triple (fun m _ hm => hm.toDrafted.broken hold (by simp))
    (fun m hm _ => hm.toDrafted.broken hold (by simp)) hrename) fun _ => ?_
  refine .bind (syscall_read (fun m _ hm => hm.record_same hold hnew) fun _ _ hm => .inr hm)
    fun _ => ?_
  refine syscall_triple ?_ ?_ ?_
  · intro m leftover hm
    exact .inr (hm.1.record_same hold hnew)
  · intro m _ hact
    exact absurd hact (by simp)
  · intro m _ disk hm hact
    obtain ⟨-, rfl⟩ := Prod.mk.inj (Option.some.inj hact)
    exact hm.1.syncDirectory hnew

theorem removeTemporary_triple :
    Command.Triple
      (fun m => store.Before codec old new first i m ∨
        store.After codec old new first process i j m)
      (store.removeTemporary process) (fun _ => store.Failed codec old new first)
      (fun _ => store.Failed codec old new first) := by
  have hne := store.temporaryName_ne process.draw
  have hfailed (m : Machine) (hm : store.Before codec old new first i m ∨
      store.After codec old new first process i j m) :
      store.Failed codec old new first (m.record .remove false m.disk) := by
    rcases hm with hm | hm
    · exact (hm.record hold (by simp) hm.stored).failed
    · exact (hm.record_same hold hnew).failed
  refine syscall_triple (fun m _ hm => hfailed m hm) (fun m hm _ => hfailed m hm) ?_
  intro m _ disk hm hact
  obtain ⟨removed, hunlink, heq⟩ := Option.map_eq_some_iff.mp hact
  obtain ⟨-, rfl⟩ := Prod.mk.inj heq
  unfold Disk.unlink at hunlink
  rcases hm with hm | hm
  · cases hentry : m.disk.entries (store.temporaryName process.draw) with
    | none => simp [hentry] at hunlink
    | some other =>
      simp only [hentry, Option.some.injEq] at hunlink
      subst hunlink
      have huntouched : store.fileName ∉
          (EntryChange.unlink (store.temporaryName process.draw)).names := by
        simpa [EntryChange.names] using hne.symm
      exact (hm.record hold (by simp) (hm.stored.append_pending huntouched)).failed
  · -- After the replacement the name is gone, and the call fails.
    simp [hm.replaced.entries_temporary hne] at hunlink

theorem save_triple :
    Command.Triple (store.Before codec old new first i) (store.save codec process new)
      (fun _ => store.Saved codec old new first)
      (fun _ => store.Failed codec old new first) := by
  refine .bind (.ofExcept (fun _ _ _ hm => hm) fun _ _ hm => hm.failed) fun _ => ?_
  refine .bind (validateParent_triple hold) fun _ => ?_
  refine .bind (validateExistingFile_triple hold) fun _ => ?_
  refine .bind (.ofExcept (fun _ _ _ hm => hm) fun _ _ hm => hm.failed) fun _ => ?_
  refine .bind (createTemporary_triple hold) fun j => ?_
  refine .bind ((replaceWith_triple hold hnew).attempt.mono (fun _ hm => hm)
    (fun _ _ hm => hm) fun _ _ hm => hm.elim) ?_
  rintro (error | _)
  · refine .bind ((removeTemporary_triple hold hnew).attempt.mono (fun _ hm => hm) ?_
      fun _ _ hm => hm.elim) fun _ => .throw fun _ hm => hm
    rintro (_ | _) m hm
    · exact hm
    · exact hm
  · exact .pure fun _ hm => hm

end

/-- Saving a valid state over a durable valid state, with any calls failing: from every disk of
the run, and after any losses of power, the old or the new state is loaded. If the save succeeds
it is the new state; if it fails without a replacement of the state file, the old one. -/
theorem save_atomic_under_crashes (store : AtomicStateStore) (codec : StateCodec)
    (process : Process) (disk : Disk) (faults : ℕ → Option (List UInt8)) (old new : State)
    (hold : old.validate codec.json = .ok ()) (hnew : new.validate codec.json = .ok ())
    (hstored : store.Stored codec disk old) :
    let run := (store.save codec process new).exec (Machine.start disk faults)
    (∀ reached ∈ run.2.disks disk, ∀ found, reached.Survives found →
        store.load codec found = .ok (some old) ∨ store.load codec found = .ok (some new)) ∧
      (run.1 = .ok () → ∀ found, run.2.disk.Survives found →
        store.load codec found = .ok (some new)) ∧
      (∀ error, run.1 = .error error → run.2.Unrenamed →
        ∀ found, run.2.disk.Survives found → store.load codec found = .ok (some old)) := by
  obtain ⟨i, hat⟩ := hstored
  have hstart : store.Before codec old new disk i (Machine.start disk faults) :=
    { recorded := by
        intro other hmem
        obtain rfl : other = disk := by simpa [Machine.disks, Machine.start] using hmem
        exact hat.recoverable_old hold
      unrenamed := by simp [Machine.Unrenamed, Machine.start]
      stored := hat }
  have htriple : Command.Triple (store.Before codec old new disk i)
      (store.save codec process new) (fun _ => store.Saved codec old new disk)
      (fun _ => store.Failed codec old new disk) := save_triple hold hnew
  have hpost := htriple _ hstart
  intro run
  rcases hrun : run with ⟨result, m⟩
  rw [show (store.save codec process new).exec (Machine.start disk faults) = (result, m) from hrun]
    at hpost
  cases result with
  | ok _ =>
    obtain ⟨hrecorded, j, hsaved⟩ := hpost
    exact ⟨hrecorded, fun _ found hsurvives => (hsaved.survives hsurvives).load_eq hnew,
      fun _ herror => by simp at herror⟩
  | error error =>
    refine ⟨hpost.recorded, fun hok => by simp at hok, ?_⟩
    intro _ _ hunrenamed found hsurvives
    obtain ⟨j, hkept⟩ := hpost.stored hunrenamed
    exact (hkept.survives hsurvives).load_eq hold

end AtomicStateStore

namespace Sample

def enforcingState : State := { State.new with mode := .enforcing }

/-- A codec of two states; every other state is too large. -/
def stateCodec : StateCodec where
  json :=
    { stateSize := fun s => if s = State.new then 0 else if s = enforcingState then 1
        else MAX_STATE_BYTES + 1
      ruleSize := fun _ => 0 }
  encode := fun s => if s = State.new then [] else if s = enforcingState then [0]
    else List.replicate (MAX_STATE_BYTES + 1) 0
  decode := fun bytes => if bytes = [] then .ok State.new else .ok enforcingState
  length_encode := by
    intro s
    by_cases hfirst : s = State.new
    · simp [hfirst]
    · simp only [if_neg hfirst]
      split_ifs <;> simp
  decode_encode := by
    intro s hvalid
    have hsize := ((State.validate_eq_ok_iff _ s).mp hvalid).2.2.2
    simp only at hsize
    split_ifs at hsize with hfirst hsecond
    · simp [hfirst]
    · simp [hsecond]
      decide
    · omega

def stateStore : AtomicStateStore := ⟨"state.json", 0⟩

def rootProcess : Process := ⟨0, 0o022, 7⟩

def stateDisk : Disk where
  directory := ⟨.directory, 0, 0o700⟩
  durable := fun name => if name = "state.json" then some 0 else none
  pending := []
  inodes := fun _ => ⟨⟨.regular, 0, 0o600⟩, [], true⟩
  next := 1

theorem stateDisk_stored : stateStore.Stored stateCodec stateDisk State.new :=
  ⟨0,
    { directory := by decide
      entry := rfl
      untouched := by simp [stateDisk]
      allocated := Nat.zero_lt_one
      holds := ⟨rfl, by decide, rfl⟩ }⟩

end Sample

/-- Every call after the replacement fails. -/
theorem save_atomic_under_crashes_sample :
    let faults : ℕ → Option (List UInt8) := fun n => if n < 7 then none else some []
    let run := (Sample.stateStore.save Sample.stateCodec Sample.rootProcess
      Sample.enforcingState).exec (Machine.start Sample.stateDisk faults)
    ∀ reached ∈ run.2.disks Sample.stateDisk, ∀ found, reached.Survives found →
      Sample.stateStore.load Sample.stateCodec found = .ok (some State.new) ∨
        Sample.stateStore.load Sample.stateCodec found = .ok (some Sample.enforcingState) :=
  (AtomicStateStore.save_atomic_under_crashes Sample.stateStore Sample.stateCodec
    Sample.rootProcess Sample.stateDisk _ State.new Sample.enforcingState (by decide) (by decide)
    Sample.stateDisk_stored).1

end OpenShield
