/-!
A disk: what stands at each place below a directory that is always there. Operations fail as those
of a file system do, with the cause and the number that the system gives it. A path is followed name
by name, and the first name that leads nowhere decides the cause.

Among the names of a path an empty one stands for a slash too many, `.` for the directory it is in, and
`..` for the one above, which for the top lies outside.
-/
namespace BridgeKeeper.Disk

/-! ## Paths -/

/-- The names between the slashes; the top itself is the empty path. -/
abbrev Path := List String

namespace Path

/-- A name that leads nowhere else. -/
def isIdle (name : String) : Bool := name = "" || name = "."

/-- The names that count. -/
def plain (p : Path) : Path := p.filter fun name => !isIdle name

/-- The path without the last of its names that count. -/
def parent (p : Path) : Path := p.plain.dropLast

/-- Whether a slash ends the path. -/
def endsInSlash (p : Path) : Bool := p.getLast? = some ""

def hasNul (p : Path) : Bool := p.any fun name => name.toList.contains '\x00'

/-- How many bytes the path takes up below the top: its names and the slashes between them. -/
def size (p : Path) : Nat := p.foldr (fun name n => name.utf8ByteSize + 1 + n) 0 - 1

/-- How many bytes a whole path may have. -/
def sizeLimit : Nat := 4095

/-- How many bytes a name may have. -/
def nameLimit : Nat := 255

end Path

/-! ## File names with another extension -/

/-- The name without its extension, which is what follows the last dot. A dot in front of the name starts
none. -/
def stem (name : List Char) : List Char :=
  match name.reverse.dropWhile (· != '.') with
  | [] => name
  | _ :: before => if before.isEmpty then name else before.reverse

def nameWithExtension (name extension : String) : String :=
  String.ofList (stem name.toList ++ '.' :: extension.toList)

/-- The path whose last name has the extension instead of its own. A path that ends in `..` has no
last name, and stays as it is; for the top, which has no name here, the path leads to a name beside
it. -/
def withExtension (p : Path) (extension : String) : Path :=
  match p.plain.getLast? with
  | none => ["..", nameWithExtension "" extension]
  | some name =>
    if name = ".." then p else p.parent ++ [nameWithExtension name extension]

/-! ## Disks -/

abbrev Bytes := List UInt8

/-- Where something stands: the names of the directories around it from the top down, and its own. -/
abbrev Place := List String

inductive Node where
  | file (content : Bytes)
  | directory
deriving DecidableEq

inductive IoError where
  | notFound
  | busy
  | exists
  | notDirectory
  | isDirectory
  | nameTooLong
  | nulInName
  | invalidUtf8
deriving DecidableEq

def IoError.message : IoError → String
  | notFound => "No such file or directory (os error 2)"
  | busy => "Device or resource busy (os error 16)"
  | «exists» => "File exists (os error 17)"
  | notDirectory => "Not a directory (os error 20)"
  | isDirectory => "Is a directory (os error 21)"
  | nameTooLong => "File name too long (os error 36)"
  | nulInName => "file name contained an unexpected NUL byte"
  | invalidUtf8 => "stream did not contain valid UTF-8"

/-- Where the top of a disk is mounted. -/
class Mount where
  /-- How many bytes of a whole path lead to the top. -/
  way : Nat
  reached : way ≤ Path.sizeLimit

/-- A directory for temporary files. -/
instance : Mount := ⟨16, by decide⟩

end Disk

/-- What stands at each place, at most once. The top and what lies above it are always there. -/
structure Disk where
  nodes : List (Disk.Place × Disk.Node)
  [mount : Disk.Mount]

namespace Disk

def empty : Disk := ⟨[]⟩

/-- The entry for the top in the directory above it, where the top has no name. -/
def topEntry : Place := ["..", ""]

/-- Whether a place is the top or a directory above it. -/
def isOuter (p : Place) : Bool := p.all (· = "..") || p = topEntry

/-- What stands at a place. -/
def at? (d : Disk) (p : Place) : Option Node :=
  if isOuter p then some .directory else d.nodes.lookup p

def put (d : Disk) (p : Place) (n : Node) : Disk :=
  { d with nodes := (p, n) :: d.nodes.filter (·.1 != p) }

def drop (d : Disk) (p : Place) : Disk :=
  { d with nodes := d.nodes.filter (·.1 != p) }

/-! ## Following paths -/

/-- How many bytes a path below the top may have. -/
def room (d : Disk) : Nat := Path.sizeLimit - d.mount.way

/-- The directory above another one. -/
def above (dir : Place) : Place := if isOuter dir then dir ++ [".."] else dir.dropLast

/-- What a directory has under a name. -/
def child (d : Disk) (dir : Place) (name : String) : Except IoError (Option Node) :=
  if Path.nameLimit < name.utf8ByteSize then .error .nameTooLong else .ok (d.at? (dir ++ [name]))

/-- The directory to which a name leads from another one. -/
def enter (d : Disk) (dir : Place) (name : String) : Except IoError Place :=
  if Path.isIdle name then .ok dir
  else if name = ".." then .ok (above dir)
  else do
    match ← d.child dir name with
    | some .directory => .ok (dir ++ [name])
    | some (.file _) => .error .notDirectory
    | none => .error .notFound

/-- The directory to which names lead from another one. -/
def walk (d : Disk) (dir : Place) : List String → Except IoError Place
  | [] => .ok dir
  | name :: rest => do walk d (← d.enter dir name) rest

/-- Where a path leads, whether or not something stands there. -/
inductive Spot where
  /-- A directory that the path names as `.` or as `..`. -/
  | inside (dir : Place)
  /-- A name in a directory. Only a directory may have it where a slash follows. -/
  | entry (dir : Place) (name : String) (slash : Bool)

/-- Follows a path up to its last name. -/
def locate (d : Disk) (p : Path) : Except IoError Spot :=
  if p.hasNul then .error .nulInName
  else if d.room < p.size then .error .nameTooLong
  else
    match p.reverse.dropWhile (· = "") with
    | [] => .ok (.entry [".."] "" true)
    | name :: names => do
      let dir ← d.walk [] names.reverse
      if name = "." then return .inside dir
      if name = ".." then return .inside (above dir)
      return .entry dir name p.endsInSlash

/-- What a path leads to. -/
def look (d : Disk) (p : Path) : Except IoError (Option Node) := do
  match ← d.locate p with
  | .inside _ => return some .directory
  | .entry dir name slash =>
    match ← d.child dir name with
    | some (.file content) => if slash then .error .notDirectory else return some (.file content)
    | n => return n

def exists? (d : Disk) (p : Path) : Bool := d.look p matches .ok (some _)

def isDirectory (d : Disk) (p : Path) : Bool := d.look p matches .ok (some .directory)

/-! ## Operations -/

def read (d : Disk) (p : Path) : Except IoError Bytes := do
  match ← d.look p with
  | some (.file content) => return content
  | some .directory => .error .isDirectory
  | none => .error .notFound

/-- Makes one directory. -/
def makeDirectory (d : Disk) (p : Path) : Except IoError Disk := do
  match ← d.locate p with
  | .inside _ => .error .exists
  | .entry dir name _ =>
    match ← d.child dir name with
    | some _ => .error .exists
    | none => return d.put (dir ++ [name]) .directory

/-- Makes a directory; one that is there already will do. -/
def ensureDirectory (d : Disk) (p : Path) : Except IoError Disk :=
  match d.makeDirectory p with
  | .ok d => .ok d
  | .error e => if e = .exists ∧ d.isDirectory p then .ok d else .error e

/-- The outcome of an operation and the disk afterwards: one that fails changes nothing. -/
def after (d : Disk) : Except IoError Disk → Except IoError Unit × Disk
  | .ok d => (.ok (), d)
  | .error e => (.error e, d)

/-- Makes a directory, and first those missing above it. The names of the path that count are given
from the bottom up. What was made stays where something further down fails. -/
def makeDirectoriesUp (d : Disk) (p : Path) : List String → Except IoError Unit × Disk
  | [] => d.after (d.ensureDirectory p)
  | _ :: rest =>
    match d.ensureDirectory p with
    | .error .notFound =>
      match makeDirectoriesUp d rest.reverse rest with
      | (.ok (), d) => d.after (d.ensureDirectory p)
      | failed => failed
    | r => d.after r

def makeDirectories (d : Disk) (p : Path) : Except IoError Unit × Disk :=
  d.makeDirectoriesUp p p.plain.reverse

/-- Writes a whole file, new or in place of an old one. -/
def write (d : Disk) (p : Path) (content : Bytes) : Except IoError Disk := do
  match ← d.locate p with
  | .inside _ | .entry _ _ true => .error .isDirectory
  | .entry dir name false =>
    match ← d.child dir name with
    | some .directory => .error .isDirectory
    | _ => return d.put (dir ++ [name]) (.file content)

/-- Gives a file another name; a file that has that name already is replaced. -/
def rename (d : Disk) (old new : Path) : Except IoError Disk := do
  match ← d.locate old, ← d.locate new with
  | .entry oldDir oldName oldSlash, .entry newDir newName newSlash =>
    match ← d.child oldDir oldName, ← d.child newDir newName with
    | none, _ => .error .notFound
    | some .directory, _ => .error .isDirectory
    | some (.file content), n =>
      if oldSlash || newSlash then .error .notDirectory
      else if n = some .directory then .error .isDirectory
      else return (d.drop (oldDir ++ [oldName])).put (newDir ++ [newName]) (.file content)
  | _, _ => .error .busy

/-- Copies a file; a file at the new path is replaced. -/
def copy (d : Disk) (old new : Path) : Except IoError Disk := do
  d.write new (← d.read old)

def removeFile (d : Disk) (p : Path) : Except IoError Disk := do
  match ← d.locate p with
  | .inside _ => .error .isDirectory
  | .entry dir name slash =>
    match ← d.child dir name with
    | none => .error .notFound
    | some .directory => .error .isDirectory
    | some (.file _) =>
      if slash then .error .notDirectory else return d.drop (dir ++ [name])

/-- What stands below the top. -/
def below (d : Disk) : List (Place × Node) := d.nodes.filter fun n => n.1.head? != some ".."

/-- Every place below the top in the order of its text, directories with a slash behind. -/
def listing (d : Disk) : List String :=
  let text : Place × Node → String
    | (p, .file _) => String.intercalate "/" p
    | (p, .directory) => String.intercalate "/" p ++ "/"
  (d.below.map text).mergeSort fun a b => a ≤ b

end Disk
end BridgeKeeper
