import FileSieve.Json.Reader
import FileSieve.Text.Basic

namespace FileSieve

/-- No threads stand for as many as the machine has. Loadlines are in order of their names, which all
differ. -/
structure Settings where
  threads : Nat
  loadlines : List (List Char × List Char)
  deriving DecidableEq, Repr

namespace Settings

def initial : Settings := ⟨0, []⟩

def putLine (name line : List Char) :
    List (List Char × List Char) → List (List Char × List Char)
  | [] => [(name, line)]
  | (other, kept) :: rest =>
    match compareText name other with
    | .lt => (name, line) :: (other, kept) :: rest
    | .eq => (name, line) :: rest
    | .gt => (other, kept) :: putLine name line rest

def entries (settings : Settings) : List (String × String) :=
  settings.loadlines.map fun (name, line) => (String.ofList name, String.ofList line)

/- Reading -/

def threads? : JsonValue → Option Nat
  | .number spelling => (Number.natural? spelling).filter (· < UInt64.size)
  | _ => none

/-- Of members with one name the last counts. -/
def linesFrom (lines : List (List Char × List Char)) :
    List (List Nat × JsonValue) → Option (List (List Char × List Char))
  | [] => some lines
  | (key, value) :: rest => do
    linesFrom (putLine (← Utf16.characters? key) (← value.text?) lines) rest

def lines? : JsonValue → Option (List (List Char × List Char))
  | .object members => linesFrom [] members
  | _ => none

structure Members where
  threads : Option Nat
  loadlines : Option (List (List Char × List Char))

def Members.settings (members : Members) : Settings :=
  ⟨members.threads.getD initial.threads, members.loadlines.getD initial.loadlines⟩

/-- Takes in members one by one; a known one may not come twice, unknown ones do not count. -/
def ofMembers? (sofar : Members) : List (List Nat × JsonValue) → Option Settings
  | [] => some sofar.settings
  | (key, value) :: rest => do
    let name ← Utf16.characters? key
    if name = "scan_threads".toList then
      guard sofar.threads.isNone
      ofMembers? { sofar with threads := some (← threads? value) } rest
    else if name = "loadlines".toList then
      guard sofar.loadlines.isNone
      ofMembers? { sofar with loadlines := some (← lines? value) } rest
    else ofMembers? sofar rest

/-- The two members may also stand in an array, where the last ones may be missing. -/
def ofJson? : JsonValue → Option Settings
  | .object members => ofMembers? ⟨none, none⟩ members
  | .array [] => some initial
  | .array [threads] => do return ⟨← threads? threads, initial.loadlines⟩
  | .array [threads, loadlines] => do return ⟨← threads? threads, ← lines? loadlines⟩
  | _ => none

def ofText? (text : List Char) : Option Settings := (JsonValue.read? text).bind ofJson?

/- Writing -/

def shortEscape? (c : Char) : Option Char :=
  match c with
  | '"' => some '"'
  | '\\' => some '\\'
  | '\n' => some 'n'
  | '\r' => some 'r'
  | '\t' => some 't'
  | c => if c.toNat = 0x08 then some 'b' else if c.toNat = 0x0C then some 'f' else none

def escaped (c : Char) : List Char :=
  match shortEscape? c with
  | some letter => ['\\', letter]
  | none =>
    if c.toNat < 0x20 then ['\\', 'u', '0', '0', Hex.digit (c.toNat / 16), Hex.digit (c.toNat % 16)]
    else [c]

def quoted (text : List Char) : List Char := '"' :: text.flatMap escaped ++ ['"']

def member (level : Nat) (name value : List Char) : List Char :=
  '\n' :: List.replicate (2 * level) ' ' ++ quoted name ++ ':' :: ' ' :: value

def object (level : Nat) : List (List Char) → List Char
  | [] => ['\x7b', '\x7d']
  | members =>
    '\x7b' :: [','].intercalate members ++ '\n' :: List.replicate (2 * level) ' ' ++ ['\x7d']

def written (settings : Settings) : List Char :=
  object 0 [
    member 1 "scan_threads".toList (Nat.toDigits 10 settings.threads),
    member 1 "loadlines".toList
      (object 1 (settings.loadlines.map fun (name, line) => member 2 name (quoted line)))]

end Settings
end FileSieve
