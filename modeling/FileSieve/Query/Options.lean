import FileSieve.Path

namespace FileSieve

inductive SortKey where
  | name
  | path
  | size
  | modified
  | created
  | accessed
  deriving DecidableEq, Repr

structure SortOrder where
  key : SortKey
  descending : Bool
  deriving DecidableEq, Repr

inductive LineFormat where
  | bare
  | long
  | template (text : String)
  deriving DecidableEq, Repr

inductive Encoding where
  | utf8
  | utf16
  deriving DecidableEq, Repr

def SortKey.ofName? (name : List Char) : Option SortKey :=
  match String.ofList (name.map Char.toLower) with
  | "name" => some .name
  | "path" => some .path
  | "size" => some .size
  | "modified" | "mtime" | "date" => some .modified
  | "created" | "ctime" => some .created
  | "accessed" | "atime" => some .accessed
  | _ => none

def Encoding.ofName? (name : List Char) : Option Encoding :=
  match String.ofList (name.map Char.toLower) with
  | "utf8" | "utf-8" => some .utf8
  | "utf16" | "utf-16" | "unicode" => some .utf16
  | _ => none

/-- The timeout is in milliseconds. Relative paths continue the base directory. -/
structure ScanOptions where
  order : Option SortOrder
  format : LineFormat
  encoding : Encoding
  limit : Option Nat
  timeout : Option Nat
  recursive : Bool
  debug : Bool
  progress : Bool
  roots : List Path
  base : Path
  deriving DecidableEq, Repr

def ScanOptions.initial (base : Path) : ScanOptions :=
  { order := none, format := .bare, encoding := .utf8, limit := none, timeout := none
    recursive := true, debug := false, progress := false, roots := [], base }

end FileSieve
