import FileSieve.File.Facts
import FileSieve.Text.Basic

namespace FileSieve

inductive TemplateField where
  | path
  | name
  | directory
  | size
  | modified
  | created
  | accessed
  | attributes
  | imageTime
  | digest (algorithm : Algorithm)
  deriving DecidableEq, Repr

inductive TemplatePiece where
  | copied (text : List Char)
  | braced (name : List Char)
  deriving DecidableEq, Repr

def timeColumn : Option Instant → List Char
  | some time => time.text ' '
  | none => List.replicate 19 '-'

namespace TemplateField

/-- Names are in small letters, those of digests in any letter case. -/
def ofName? (name : List Char) : Option TemplateField :=
  match String.ofList name with
  | "path" => some path
  | "name" => some TemplateField.name
  | "dir" => some directory
  | "size" => some size
  | "mtime" => some modified
  | "ctime" => some created
  | "atime" => some accessed
  | "attrs" => some attributes
  | "pets" => some imageTime
  | _ => (Algorithm.ofName? name).map digest

def value (file : File) : TemplateField → List Char
  | path => file.path.chars
  | name => (file.path.fileName?.map Utf8.decodeLossy).getD []
  | directory => (file.path.parent?.map Path.chars).getD []
  | size => Nat.toDigits 10 file.size
  | modified => timeColumn file.modified
  | created => timeColumn file.created
  | accessed => timeColumn file.accessed
  | attributes => file.attributes.letters
  | imageTime => timeColumn file.imageTime?
  | digest algorithm => ((file.digest? algorithm).map Hex.encode).getD []

end TemplateField

namespace TemplatePiece

def written : TemplatePiece → List Char
  | copied text => text
  | braced name => '\x7b' :: name ++ ['\x7d']

def value (file : File) : TemplatePiece → List Char
  | copied text => text
  | braced name =>
    match TemplateField.ofName? name with
    | some field => field.value file
    | none => (braced name).written

end TemplatePiece

namespace Template

/-- The pieces of a template, with the name read so far where a brace is open. A brace that is never
closed is copied. -/
def pieces : Option (List Char) → List Char → List TemplatePiece
  | none, [] => []
  | some name, [] => [.copied ('\x7b' :: name)]
  | none, c :: rest =>
    if c = '\x7b' then pieces (some []) rest else .copied [c] :: pieces none rest
  | some name, c :: rest =>
    if c = '\x7d' then .braced name :: pieces none rest else pieces (some (name ++ [c])) rest

def render (template : List Char) (file : File) : List Char :=
  (pieces none template).flatMap (TemplatePiece.value file)

end Template
end FileSieve
