import FileSieve.Path
import FileSieve.Time.Instant

/-! Disks: trees of files, symbolic links and directories. A path is looked up one name at a time; a link
on the way is replaced by its target, and so is one at the end if it is to be followed. -/

namespace FileSieve

structure Stat where
  modified : Instant
  readOnly : Bool
  deriving DecidableEq, Repr

inductive Entry where
  | file (name : Bytes) (stat : Stat) (contents : Bytes)
  | link (name : Bytes) (stat : Stat) (target : Path)
  | directory (name : Bytes) (stat : Stat) (entries : List Entry)
  deriving Repr

inductive DiskError where
  | missing
  | notDirectory
  | isDirectory
  | nameTooLong
  | tooManyLinks
  | nulByte
  | notUtf8
  deriving DecidableEq, Repr

def DiskError.message : DiskError → String
  | missing => "No such file or directory (os error 2)"
  | notDirectory => "Not a directory (os error 20)"
  | isDirectory => "Is a directory (os error 21)"
  | nameTooLong => "File name too long (os error 36)"
  | tooManyLinks => "Too many levels of symbolic links (os error 40)"
  | nulByte => "file name contained an unexpected NUL byte"
  | notUtf8 => "stream did not contain valid UTF-8"

namespace Entry

def name : Entry → Bytes
  | file name _ _ | link name _ _ | directory name _ _ => name

def stat : Entry → Stat
  | file _ stat _ | link _ stat _ | directory _ stat _ => stat

def isDirectory : Entry → Bool
  | directory _ _ _ => true
  | _ => false

def isLink : Entry → Bool
  | link _ _ _ => true
  | _ => false

def size : Entry → Nat
  | file _ _ contents => contents.length
  | link _ _ target => target.bytes.length
  | directory _ _ _ => 0

def find? (name : Bytes) (entries : List Entry) : Option Entry :=
  entries.find? fun entry => entry.name == name

end Entry

/-- The entries of the root directory. Relative paths continue the working directory. -/
structure Disk where
  entries : List Entry
  working : Path
  deriving Repr

namespace Disk

def maxLinks : Nat := 40

def maxName : Nat := 255

def maxPath : Nat := 4095

def root (disk : Disk) : Entry := .directory [] ⟨⟨0, 0⟩, false⟩ disk.entries

/-- The names to look up, in order; `.` and `..` are among them. A separator at the end asks for a
directory, as `.` does. -/
def steps (path : Path) : List Bytes :=
  let names := (Bytes.split Path.separator path.bytes).filter (· ≠ [])
  if path.bytes.getLast? = some Path.separator then names ++ [[0x2E]] else names

/-- Looks names up from a directory on, with the directories above it, the nearest first. -/
def walk (disk : Disk) (follow : Bool) (links : Nat) (above : List Entry) (here : Entry) :
    List Bytes → Except DiskError Entry
  | [] => .ok here
  | name :: rest =>
    match here with
    | .directory _ _ entries =>
      if name = [0x2E] then walk disk follow links above here rest
      else if name = [0x2E, 0x2E] then
        match above with
        | [] => walk disk follow links [] here rest
        | parent :: above => walk disk follow links above parent rest
      else if maxName < name.length then .error .nameTooLong
      else match Entry.find? name entries with
        | none => .error .missing
        | some (.link linkName stat target) =>
          if rest = [] ∧ !follow then .ok (.link linkName stat target)
          else match links with
            | 0 => .error .tooManyLinks
            | links + 1 =>
              if target.isAbsolute then walk disk follow links [] disk.root (steps target ++ rest)
              else walk disk follow links above here (steps target ++ rest)
        | some entry => walk disk follow links (here :: above) entry rest
    | _ => .error .notDirectory
termination_by names => (links, names.length)

def lookup (disk : Disk) (path : Path) (follow : Bool) : Except DiskError Entry :=
  if path.bytes.contains 0 then .error .nulByte
  else if path.bytes = [] then .error .missing
  else if maxPath < path.bytes.length then .error .nameTooLong
  else walk disk follow maxLinks [] disk.root (steps (disk.working.join path))

def contents (disk : Disk) (path : Path) : Except DiskError Bytes :=
  match disk.lookup path true with
  | .ok (.file _ _ contents) => .ok contents
  | .ok _ => .error .isDirectory
  | .error e => .error e

def readText (disk : Disk) (path : Path) : Except DiskError (List Char) := do
  match Utf8.decode? (← disk.contents path) with
  | some text => .ok text
  | none => .error .notUtf8

def list (disk : Disk) (path : Path) : Except DiskError (List Entry) :=
  match disk.lookup path true with
  | .ok (.directory _ _ entries) => .ok entries
  | .ok _ => .error .notDirectory
  | .error e => .error e

end Disk
end FileSieve
