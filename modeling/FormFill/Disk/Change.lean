import FormFill.Disk

/-!
# Changes to a disk

What has to be done to one disk so that it becomes another: folders are made in the order in which the
other disk lists them, files are written, and files that the other does not have are removed.
-/

namespace FormFill

/-- One thing that is done to a disk. -/
inductive DiskChange where
  | makeFolder (path : List Text)
  | write (path : List Text) (bytes : List UInt8)
  | remove (path : List Text)
  deriving DecidableEq, Repr

namespace Disk

/-- The change that brings an entry about, unless it is there. -/
def changeTo (disk : Disk) (entry : List Text × DiskEntry) : Option DiskChange :=
  if disk.get? entry.1 = some entry.2 then none
  else
    match entry with
    | (path, .folder) => some (.makeFolder path)
    | (path, .file bytes) => some (.write path bytes)

/-- The changes that turn a disk into another. -/
def changes (before after : Disk) : List DiskChange :=
  after.entries.filterMap before.changeTo ++
    (before.entries.filter fun entry => (after.get? entry.1).isNone).map fun entry => .remove entry.1

end Disk

end FormFill
