import FileSieve.Output.Template
import FileSieve.Query.Options
import FileSieve.Text.Basic
import FileSieve.Text.Utf16
import FileSieve.Text.Utf8
import FileSieve.Unicode.Lowercase

namespace FileSieve

def LineFormat.render (file : File) : LineFormat → List Char
  | bare => file.path.chars
  | long =>
    let size := Nat.toDigits 10 file.size
    timeColumn file.modified ++ ' ' :: ' ' :: List.replicate (14 - size.length) ' ' ++ size ++
      ' ' :: ' ' :: file.attributes.letters ++ ' ' :: ' ' :: file.path.chars
  | template text => Template.render text.toList file

structure Match where
  path : Path
  size : Nat
  modified : Option Instant
  created : Option Instant
  accessed : Option Instant
  line : List Char
  deriving DecidableEq, Repr

namespace Match

def ofFile (format : LineFormat) (file : File) : Match :=
  { path := file.path, size := file.size, modified := file.modified, created := file.created
    accessed := file.accessed, line := format.render file }

def nameKey (found : Match) : List Char :=
  Unicode.lowercase ((found.path.fileName?.map Utf8.decodeLossy).getD [])

def pathKey (found : Match) : List Char := Unicode.lowercase found.path.chars

end Match

def compareTimes : Option Instant → Option Instant → Ordering
  | none, none => .eq
  | none, some _ => .lt
  | some _, none => .gt
  | some a, some b => a.compare b

def SortKey.compare (a b : Match) : SortKey → Ordering
  | name => compareText a.nameKey b.nameKey
  | path => compareText a.pathKey b.pathKey
  | size => Ord.compare a.size b.size
  | modified => compareTimes a.modified b.modified
  | created => compareTimes a.created b.created
  | accessed => compareTimes a.accessed b.accessed

namespace SortOrder

/-- Equal keys are told apart by the paths; a descending order turns both around. -/
def compare (order : SortOrder) (a b : Match) : Ordering :=
  let ascending := (order.key.compare a b).then (a.path.compare b.path)
  if order.descending then ascending.swap else ascending

def sort (order : SortOrder) (found : List Match) : List Match :=
  found.mergeSort fun a b => order.compare a b != .gt

end SortOrder
end FileSieve

namespace FileSieve.Stream

/-- UTF-16 has a byte order mark in front, and a carriage return in every line break. -/
def encoded (lines : List (List Char)) : Encoding → Bytes
  | .utf8 => lines.flatMap fun line => Utf8.encode line ++ [0x0A]
  | .utf16 => Utf16.byteOrderMark ++ lines.flatMap fun line => Utf16.encode (line ++ ['\r', '\n'])

def escapeSequence (code : List Char) : List Char := '\x1b' :: '[' :: code ++ ['m']

def plainStyle : List Char := escapeSequence ['0']

def pathStyle : List Char := plainStyle ++ escapeSequence ['3', '5']

/-- On a terminal, a line that is a bare path is set in magenta. -/
def styled (format : LineFormat) (lines : List (List Char)) : Bytes :=
  encoded (if format = .bare then lines.map (pathStyle ++ · ++ plainStyle) else lines) .utf8

end FileSieve.Stream
