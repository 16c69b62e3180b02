import FormFill.Text.Quoted
import FormFill.Text.Search
import FormFill.Text.Utf8

/-!
# Files

A disk holds files and folders under paths. A location is a path as it is written; it is resolved by
walking from folder to folder. Files are read, replaced as a whole, and removed; folders are made with
all that lie above them.
-/

namespace FormFill

/-! ## Locations -/

/-- A location as it is written: its parts, without those that say nothing. A part of slashes stands at the
beginning of a location that does not depend on the working folder. -/
structure Location where
  parts : List Text
  deriving DecidableEq, Repr

namespace Location

/-- Whether a part leads nowhere else. -/
def saysNothing (part : Text) : Bool := part.isEmpty || part == ['.']

/-- Whether a part leads to the root. -/
def isRoot (part : Text) : Bool := part.head? == some '/'

/-- The part that slashes at the beginning of a text stand for. Two slashes are kept as they are, and any
other number counts as one. -/
def rootOf (text : Text) : List Text :=
  match text.takeWhile (· == '/') with
  | [] => []
  | ['/', '/'] => [['/', '/']]
  | _ => [['/']]

/-- The location that a text names. -/
def ofText (text : Text) : Location :=
  ⟨rootOf text ++ (Text.splitOn '/' text).filter (!saysNothing ·)⟩

/-- The text of a location. -/
def text (location : Location) : Text :=
  match location.parts with
  | [] => ['.']
  | first :: rest =>
    if isRoot first then first ++ Text.joined ['/'] rest else Text.joined ['/'] (first :: rest)

/-- The path of the folder from which a location leads, and the parts that lead on from there. -/
def origin (location : Location) : List Text × List Text :=
  match location.parts with
  | [] => ([], [])
  | first :: rest => if isRoot first then ([['/']], rest) else ([], first :: rest)

/-- The location of a member of a folder. -/
def child (location : Location) (name : Text) : Location := ⟨location.parts ++ [name]⟩

/-- The location of the folder around a location. -/
def parent (location : Location) : Location := ⟨location.parts.dropLast⟩

/-- The last part of a location. -/
def name (location : Location) : Text := location.parts.getLast?.getD []

/-- Whether a text can name a file: its last part is a name. -/
def canNameFile (text : Text) : Bool :=
  !((Text.splitOn '/' text).getLast?.all saysNothing)

end Location

/-! ## Disks -/

/-- What stands at a path. -/
inductive DiskEntry where
  | file (bytes : List UInt8)
  | folder
  deriving DecidableEq, Repr

/-- What keeps a file or a folder from being used. -/
inductive DiskProblem where
  | missing
  | exists
  | notFolder
  | isFolder
  | nameTooLong
  /-- A name with a null character, which names nothing. -/
  | notAName
  deriving DecidableEq, Repr

namespace DiskProblem

/-- The number of a problem, if it has one. -/
def number? : DiskProblem → Option Nat
  | .missing => some 2
  | .exists => some 17
  | .notFolder => some 20
  | .isFolder => some 21
  | .nameTooLong => some 36
  | .notAName => none

/-- The wording of a problem. -/
def wording : DiskProblem → Text
  | .nameTooLong => "File name too long"
  | .notAName => "embedded null byte"
  | .missing => "No such file or directory"
  | .exists => "File exists"
  | .notFolder => "Not a directory"
  | .isFolder => "Is a directory"

/-- The class of a problem. -/
def label : DiskProblem → Text
  | .nameTooLong => "OSError"
  | .notAName => "ValueError"
  | .missing => "FileNotFoundError"
  | .exists => "FileExistsError"
  | .notFolder => "NotADirectoryError"
  | .isFolder => "IsADirectoryError"

end DiskProblem

/-- A problem with a location, or with moving a file from it to another. -/
structure DiskFault where
  problem : DiskProblem
  location : Location
  target : Option Location := none
  deriving DecidableEq, Repr

/-- The wording of a fault. -/
def DiskFault.message (fault : DiskFault) : Text :=
  match fault.problem.number? with
  | none => fault.problem.wording
  | some number =>
    "[Errno ".toList ++ Text.ofNat number ++ "] ".toList ++ fault.problem.wording ++
      ": ".toList ++ Text.quoted fault.location.text ++
      match fault.target with
      | some target => " -> ".toList ++ Text.quoted target.text
      | none => []

/-- The files and folders by path. The working folder, those around it and the root are always
there. -/
structure Disk where
  entries : List (List Text × DiskEntry)
  deriving DecidableEq, Repr

namespace Disk

/-- The part that leads to the folder around. -/
def upward : Text := ['.', '.']

/-- Whether a path is that of a folder that is always there. -/
def isGiven (path : List Text) : Bool := path == [['/']] || path.all (· == upward)

/-- What stands at a path. -/
def get? (disk : Disk) (path : List Text) : Option DiskEntry :=
  if isGiven path then some .folder else disk.entries.lookup path

/-- The entries with one of them set. -/
def setEntry (path : List Text) (entry : DiskEntry) :
    List (List Text × DiskEntry) → List (List Text × DiskEntry)
  | [] => [(path, entry)]
  | (other, old) :: rest =>
    if other = path then (other, entry) :: rest else (other, old) :: setEntry path entry rest

/-- Sets what stands at a path. -/
def set (disk : Disk) (path : List Text) (entry : DiskEntry) : Disk :=
  ⟨setEntry path entry disk.entries⟩

theorem lookup_setEntry_self (path : List Text) (entry : DiskEntry)
    (entries : List (List Text × DiskEntry)) :
    (setEntry path entry entries).lookup path = some entry := by
  induction entries with
  | nil => simp [setEntry]
  | cons first rest ih =>
    obtain ⟨other, old⟩ := first
    by_cases hother : other = path
    · simp [setEntry, hother]
    · have hne : (path == other) = false := beq_eq_false_iff_ne.mpr (Ne.symm hother)
      simpa [setEntry, hother, List.lookup_cons, hne] using ih

theorem lookup_setEntry_of_ne {path other : List Text} (hne : other ≠ path) (entry : DiskEntry)
    (entries : List (List Text × DiskEntry)) :
    (setEntry path entry entries).lookup other = entries.lookup other := by
  induction entries with
  | nil => simp [setEntry, List.lookup_cons, beq_eq_false_iff_ne.mpr hne]
  | cons first rest ih =>
    obtain ⟨here, old⟩ := first
    by_cases hhere : here = path
    · subst hhere
      simp [setEntry, List.lookup_cons, beq_eq_false_iff_ne.mpr hne]
    · rw [setEntry, if_neg hhere, List.lookup_cons, List.lookup_cons, ih]

/-- Unless a folder is given there, a path that has been set holds what it was set to. -/
theorem get?_set_self {path : List Text} (hpath : isGiven path = false) (disk : Disk)
    (entry : DiskEntry) : (disk.set path entry).get? path = some entry := by
  simp [set, get?, hpath, lookup_setEntry_self]

/-- Setting a path leaves the other paths as they are. -/
theorem get?_set_of_ne {path other : List Text} (hne : other ≠ path) (disk : Disk)
    (entry : DiskEntry) : (disk.set path entry).get? other = disk.get? other := by
  simp [set, get?, lookup_setEntry_of_ne hne]

/-- Removes what stands at a path. -/
def erase (disk : Disk) (path : List Text) : Disk :=
  ⟨disk.entries.filter (·.1 != path)⟩

/-- The path that a part leads to. -/
def enter (path : List Text) (part : Text) : List Text :=
  if part = upward then
    if path = [['/']] then path
    else if path.all (· == upward) then path ++ [upward]
    else path.dropLast
  else path ++ [part]

/-- The greatest number of bytes in a name. -/
def nameLimit : Nat := 255

/-- The greatest number of bytes in the text of a location. -/
def textLimit : Nat := 4095

/-- Walks from a path on. All but the last path on the way must be folders, and a name must not be too
long. -/
def walk (disk : Disk) (path : List Text) : List Text → Except DiskProblem (List Text)
  | [] => .ok path
  | part :: rest =>
    match disk.get? path with
    | some .folder =>
      if nameLimit < (Utf8.encode part).length then .error .nameTooLong
      else walk disk (enter path part) rest
    | some (.file _) => .error .notFolder
    | none => .error .missing

/-- The path that a location leads to. -/
def resolve (disk : Disk) (location : Location) : Except DiskProblem (List Text) :=
  if location.text.contains '\x00' then .error .notAName
  else if textLimit < (Utf8.encode location.text).length then .error .nameTooLong
  else disk.walk location.origin.1 location.origin.2

/-- What stands at a location. -/
def at? (disk : Disk) (location : Location) : Option DiskEntry :=
  match disk.resolve location with
  | .ok path => disk.get? path
  | .error _ => none

/-- Whether a file stands at a location. -/
def isFile (disk : Disk) (location : Location) : Bool :=
  match disk.at? location with
  | some (.file _) => true
  | _ => false

/-- Whether a folder stands at a location. -/
def isFolder (disk : Disk) (location : Location) : Bool := disk.at? location == some .folder

/-- Whether anything stands at a location, unless its name is too long to tell. -/
def holds? (disk : Disk) (location : Location) : Option Bool :=
  match disk.resolve location with
  | .ok path => some (disk.get? path).isSome
  | .error .nameTooLong => none
  | .error _ => some false

/-- Reads the file at a location. -/
def read (disk : Disk) (location : Location) : Except DiskFault (List UInt8) :=
  match disk.resolve location with
  | .error problem => .error { problem, location }
  | .ok path =>
    match disk.get? path with
    | some (.file bytes) => .ok bytes
    | some .folder => .error { problem := .isFolder, location }
    | none => .error { problem := .missing, location }

/-- Makes one folder. -/
def makeOne (disk : Disk) (location : Location) : Except DiskProblem Disk :=
  match disk.resolve location with
  | .error problem => .error problem
  | .ok path =>
    match disk.get? path with
    | some _ => .error .exists
    | none => .ok (disk.set path .folder)

/-- Makes a folder where one may be already. -/
def makeOrKeep (disk : Disk) (location : Location) : Except DiskFault Disk :=
  match disk.makeOne location with
  | .ok disk => .ok disk
  | .error problem => if disk.isFolder location then .ok disk else .error { problem, location }

/-- Makes a folder and those around it that are missing; the fuel is the number of parts. -/
def makeAll : (fuel : Nat) → Disk → Location → Except DiskFault Disk
  | 0, disk, location => disk.makeOrKeep location
  | fuel + 1, disk, location =>
    match disk.makeOne location with
    | .error .missing => do (← makeAll fuel disk location.parent).makeOrKeep location
    | _ => disk.makeOrKeep location

/-- Makes a folder and those around it that are missing. -/
def makeFolders (disk : Disk) (location : Location) : Except DiskFault Disk :=
  makeAll location.parts.length disk location

/-- The location at which the new content of a file is written before it replaces the old. In place of
the asterisk stands what makes the name unique. -/
def temporary (location : Location) : Location :=
  location.parent.child (location.name ++ ".*.tmp".toList)

/-- Replaces the file at a location as a whole. If that fails, the new content stays where it was
written first. -/
def replace (disk : Disk) (location : Location) (bytes : List UInt8) : Disk × Option DiskFault :=
  let draft := temporary location
  match disk.resolve draft, disk.resolve location with
  | .ok draftPath, .ok path =>
    match disk.get? path with
    | some .folder =>
      (disk.set draftPath (.file bytes),
        some { problem := .isFolder, location := draft, target := some location })
    | _ => (disk.set path (.file bytes), none)
  | .error problem, _ => (disk, some { problem, location := draft })
  | _, .error problem => (disk, some { problem, location })

/-- Removes the file at a location, if there is one. -/
def remove (disk : Disk) (location : Location) : Disk × Option DiskFault :=
  match disk.resolve location with
  | .error .missing => (disk, none)
  | .error problem => (disk, some { problem, location })
  | .ok path =>
    match disk.get? path with
    | none => (disk, none)
    | some .folder => (disk, some { problem := .isFolder, location })
    | some (.file _) => (disk.erase path, none)

/-- Adds an entry and the folders around it. -/
def add (disk : Disk) (path : List Text) (entry : DiskEntry) : Disk :=
  let folders := (List.range path.length).map path.take
  (folders.foldl (fun disk folder => disk.set folder .folder) disk).set path entry

/-- The names of the folders in the root of every machine. -/
def rootFolders : List String :=
  ["bin", "boot", "dev", "etc", "home", "lib", "media", "mnt", "opt", "proc", "root", "run", "sbin",
    "srv", "sys", "tmp", "usr", "var"]

/-- The disk of a machine on which nobody has written anything: there are the folders in the root, and
the null device, which reads as an empty file. -/
def bare : Disk :=
  ⟨rootFolders.map (fun name => ([['/'], name.toList], .folder)) ++
    [([['/'], "dev".toList, "null".toList], .file [])]⟩

end Disk

end FormFill
