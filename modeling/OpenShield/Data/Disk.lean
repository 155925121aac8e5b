import Mathlib

/-!
# A directory on a disk that can lose its power

One directory and the files it names. A process sees every change at once; the disk has only
what was synchronized. The entries of the directory are a durable table and the list of changes
made to it since it was last synchronized; of those, a crash keeps any selection, in their order.
A file is synchronized or not; a crash may put anything in the place of one that is not. The
three calls that change entries (`link`, `rename`, `unlink`) are one change each, so a crash keeps
or loses each as a whole.
-/

inductive FileKind where
  | regular
  | directory
  | symlink
  | other
  deriving DecidableEq

/-- The attributes of a file or a directory. -/
structure Metadata where
  kind : FileKind
  owner : BitVec 32
  mode : BitVec 32
  deriving DecidableEq

def Metadata.permissions (metadata : Metadata) : BitVec 32 := metadata.mode &&& 0o777

/-- A file of the disk. -/
structure Inode where
  metadata : Metadata
  content : List UInt8
  /-- The attributes and the content are durable. -/
  synced : Bool
  deriving DecidableEq

/-- A change of the directory's table. -/
inductive EntryChange where
  | link (name : String) (inode : ℕ)
  | rename (source target : String) (inode : ℕ)
  | unlink (name : String)
  deriving DecidableEq

namespace EntryChange

def apply (entries : String → Option ℕ) : EntryChange → String → Option ℕ
  | .link name inode => Function.update entries name (some inode)
  | .rename source target inode =>
    Function.update (Function.update entries source none) target (some inode)
  | .unlink name => Function.update entries name none

def names : EntryChange → List String
  | .link name _ => [name]
  | .rename source target _ => [source, target]
  | .unlink name => [name]

theorem apply_of_untouched {change : EntryChange} {name : String} (h : name ∉ change.names)
    (entries : String → Option ℕ) : change.apply entries name = entries name := by
  cases change with
  | link other inode =>
    have hne : name ≠ other := by simpa [names] using h
    exact Function.update_of_ne hne _ _
  | rename source target inode =>
    obtain ⟨hsource, htarget⟩ : name ≠ source ∧ name ≠ target := by simpa [names] using h
    exact (Function.update_of_ne htarget _ _).trans (Function.update_of_ne hsource _ _)
  | unlink other =>
    have hne : name ≠ other := by simpa [names] using h
    exact Function.update_of_ne hne _ _

theorem foldl_apply_of_untouched {name : String} {changes : List EntryChange}
    (h : ∀ change ∈ changes, name ∉ change.names) (entries : String → Option ℕ) :
    changes.foldl apply entries name = entries name := by
  induction changes generalizing entries with
  | nil => rfl
  | cons change rest ih =>
    rw [List.foldl_cons, ih fun other hmem => h other (List.mem_cons_of_mem _ hmem),
      apply_of_untouched (h change List.mem_cons_self)]

@[simp]
theorem apply_rename_target (entries : String → Option ℕ) (source target : String) (inode : ℕ) :
    (rename source target inode).apply entries target = some inode :=
  Function.update_self _ _ _

@[simp]
theorem apply_link_self (entries : String → Option ℕ) (name : String) (inode : ℕ) :
    (link name inode).apply entries name = some inode :=
  Function.update_self _ _ _

end EntryChange

/-- A directory and the files it names. -/
structure Disk where
  directory : Metadata
  /-- The table as it was last synchronized. -/
  durable : String → Option ℕ
  pending : List EntryChange
  inodes : ℕ → Inode
  next : ℕ

namespace Disk

def entries (disk : Disk) : String → Option ℕ :=
  disk.pending.foldl EntryChange.apply disk.durable

def create (disk : Disk) (name : String) (metadata : Metadata) : Option (ℕ × Disk) :=
  match disk.entries name with
  | some _ => none
  | none => some (disk.next,
      { disk with
        pending := disk.pending ++ [.link name disk.next]
        inodes := Function.update disk.inodes disk.next ⟨metadata, [], false⟩
        next := disk.next + 1 })

def write (disk : Disk) (inode : ℕ) (content : List UInt8) : Disk :=
  { disk with
    inodes := Function.update disk.inodes inode
      { disk.inodes inode with content, synced := false } }

def syncFile (disk : Disk) (inode : ℕ) : Disk :=
  { disk with
    inodes := Function.update disk.inodes inode { disk.inodes inode with synced := true } }

def rename (disk : Disk) (source target : String) : Option Disk :=
  match disk.entries source with
  | none => none
  | some inode => some { disk with pending := disk.pending ++ [.rename source target inode] }

def unlink (disk : Disk) (name : String) : Option Disk :=
  match disk.entries name with
  | none => none
  | some _ => some { disk with pending := disk.pending ++ [.unlink name] }

def syncDirectory (disk : Disk) : Disk :=
  { disk with durable := disk.entries, pending := [] }

/-- What may be found after a loss of power: any selection of the pending changes, and anything in
the place of a file that was not synchronized. -/
structure Crash (disk disk' : Disk) : Prop where
  directory : disk'.directory = disk.directory
  durable : ∃ kept : List EntryChange, kept.Sublist disk.pending ∧
    disk'.durable = kept.foldl EntryChange.apply disk.durable
  pending : disk'.pending = []
  inodes : ∀ i, (disk.inodes i).synced = true → disk'.inodes i = disk.inodes i
  next : disk'.next = disk.next

def Survives : Disk → Disk → Prop := Relation.ReflTransGen Crash

theorem entries_of_untouched {disk : Disk} {name : String}
    (h : ∀ change ∈ disk.pending, name ∉ change.names) :
    disk.entries name = disk.durable name :=
  EntryChange.foldl_apply_of_untouched h _

theorem Crash.durable_of_untouched {disk disk' : Disk} (hcrash : Crash disk disk') {name : String}
    (h : ∀ change ∈ disk.pending, name ∉ change.names) :
    disk'.durable name = disk.durable name := by
  obtain ⟨kept, hkept, hdurable⟩ := hcrash.durable
  rw [hdurable]
  exact EntryChange.foldl_apply_of_untouched (fun change hmem => h change (hkept.subset hmem)) _

theorem Crash.durable_of_last {disk disk' : Disk} (hcrash : Crash disk disk') {name : String}
    {front : List EntryChange} {last : EntryChange} (hpending : disk.pending = front ++ [last])
    (h : ∀ change ∈ front, name ∉ change.names) :
    disk'.durable name = disk.durable name ∨
      ∃ entries, disk'.durable name = last.apply entries name := by
  obtain ⟨kept, hkept, hdurable⟩ := hcrash.durable
  rw [hpending] at hkept
  obtain ⟨kept₁, kept₂, rfl, hfront, hlast⟩ := List.sublist_append_iff.mp hkept
  have huntouched : kept₁.foldl EntryChange.apply disk.durable name = disk.durable name :=
    EntryChange.foldl_apply_of_untouched (fun change hmem => h change (hfront.subset hmem)) _
  rcases List.sublist_cons_iff.mp hlast with hnil | ⟨rest, rfl, hnil⟩ <;>
    obtain rfl := List.sublist_nil.mp hnil
  · exact .inl (by rw [hdurable, List.append_nil, huntouched])
  · exact .inr ⟨_, by rw [hdurable, List.foldl_append]; rfl⟩

end Disk
