import FileSieve.Criteria.Pattern
import FileSieve.File.Facts
import FileSieve.Regex.Parser
import FileSieve.Text.Basic
import FileSieve.Unicode.Property

namespace FileSieve

inductive Cost where
  | fastAttribute
  | slowAttribute
  | pathMatch
  | imageHeader
  | contentSearch
  | digestCheck
  | signatureCheck
  deriving DecidableEq, Repr

namespace Cost

def rank : Cost → Nat
  | fastAttribute => 1
  | slowAttribute => 2
  | pathMatch => 3
  | imageHeader => 4
  | contentSearch => 5
  | digestCheck => 6
  | signatureCheck => 7

def max (a b : Cost) : Cost := if a.rank ≤ b.rank then b else a

end Cost

inductive AttributeTest where
  | archive
  | compressed
  | directory
  | encrypted
  | file
  | hidden
  | notContentIndexed
  | reparsePoint
  | offline
  | sparse
  | readOnly
  | system
  | temporary
  | image
  | dll
  | image32
  | image64
  | managed
  | checksumValid
  | signed
  | protectedFile
  deriving DecidableEq, Repr

namespace AttributeTest

def ofLetter? (letter : Char) : Option AttributeTest :=
  match letter.toUpper with
  | 'A' => some archive
  | 'C' => some compressed
  | 'D' => some directory
  | 'E' => some encrypted
  | 'F' => some file
  | 'H' => some hidden
  | 'I' => some notContentIndexed
  | 'J' => some reparsePoint
  | 'O' => some offline
  | 'P' => some sparse
  | 'R' => some readOnly
  | 'S' => some system
  | 'T' => some temporary
  | 'X' => some image
  | 'L' => some dll
  | '2' => some image32
  | '6' => some image64
  | 'N' => some managed
  | 'K' => some checksumValid
  | 'Z' => some signed
  | 'W' => some protectedFile
  | _ => none

def name : AttributeTest → String
  | archive => "IsArchive"
  | compressed => "IsCompressed"
  | directory => "IsDirectory"
  | encrypted => "IsEncrypted"
  | file => "IsFile"
  | hidden => "IsHidden"
  | notContentIndexed => "IsNotContentIndexed"
  | reparsePoint => "IsReparsePoint"
  | offline => "IsOffline"
  | sparse => "IsSparse"
  | readOnly => "IsReadOnly"
  | system => "IsSystem"
  | temporary => "IsTemporary"
  | image => "IsPeImage"
  | dll => "IsDll"
  | image32 => "IsPe32"
  | image64 => "IsPe64"
  | managed => "IsDotNet"
  | checksumValid => "HasValidChecksum"
  | signed => "IsSigned"
  | protectedFile => "IsSfcProtected"

def fact? : AttributeTest → Option Fact
  | image | dll | image32 | image64 | managed => some .image
  | checksumValid => some .checksum
  | signed => some .signature
  | protectedFile => some .protection
  | _ => none

def cost : AttributeTest → Cost
  | image | dll | image32 | image64 | managed | checksumValid => .imageHeader
  | signed | protectedFile => .signatureCheck
  | _ => .fastAttribute

def evaluate (file : File) : AttributeTest → Bool
  | archive => file.attributes.contains Attributes.archive
  | compressed => file.attributes.contains Attributes.compressed
  | directory => file.attributes.isDirectory
  | encrypted => file.attributes.contains Attributes.encrypted
  | .file => !file.attributes.isDirectory
  | hidden => file.attributes.contains Attributes.hidden
  | notContentIndexed => file.attributes.contains Attributes.notContentIndexed
  | reparsePoint => file.attributes.contains Attributes.reparsePoint
  | offline => file.attributes.contains Attributes.offline
  | sparse => file.attributes.contains Attributes.sparse
  | readOnly => file.attributes.contains Attributes.readOnly
  | system => file.attributes.contains Attributes.system
  | temporary => file.attributes.contains Attributes.temporary
  | image => file.image?.isSome
  | dll => file.image?.any Image.isDll
  | image32 => file.image?.any (!·.is64Bit)
  | image64 => file.image?.any (·.is64Bit)
  | managed => file.image?.any (·.hasClrHeader)
  | checksumValid => file.checksumValid
  | signed => file.isSigned
  | protectedFile => file.isProtected

end AttributeTest

inductive SizeComparison where
  | less
  | greater
  | equal
  deriving DecidableEq, Repr

inductive DateField where
  | created
  | modified
  | accessed
  | header
  deriving DecidableEq, Repr

inductive DateComparison where
  | before
  | after
  deriving DecidableEq, Repr

structure PathRegex where
  text : String
  regex : Regex
  deriving Repr

inductive Leaf where
  | type (test : AttributeTest)
  | size (comparison : SizeComparison) (bytes : Nat)
  | date (field : DateField) (comparison : DateComparison) (reference : Instant)
  | wildcard (pattern : PathPattern)
  | regex (expression : PathRegex)
  | skip (rule : SkipDirectory)
  | content (needle : Bytes) (isHex : Bool)
  | digest (algorithm : Algorithm) (digests : List Bytes)
  deriving Repr

def SizeComparison.holds (size bytes : Nat) : SizeComparison → Bool
  | less => size < bytes
  | greater => bytes < size
  | equal => size == bytes

def SizeComparison.label : SizeComparison → String
  | less => "LessThanSize"
  | greater => "GreaterThanSize"
  | equal => "EqualsSize"

def DateComparison.holds (time reference : Instant) : DateComparison → Bool
  | before => time.isBefore reference
  | after => reference.isBefore time

def DateComparison.label : DateComparison → String
  | before => "Before"
  | after => "After"

def DateField.read? (file : File) : DateField → Option Instant
  | created => file.created
  | modified => file.modified
  | accessed => file.accessed
  | header => file.imageTime?

def DateField.label : DateField → String
  | created => "Created"
  | modified => "Modified"
  | accessed => "Accessed"
  | header => "HeaderTime"

namespace Leaf

/-- A file that lacks what the test asks for does not pass it. -/
def evaluate (file : File) : Leaf → Bool
  | type test => test.evaluate file
  | size comparison bytes => comparison.holds file.size bytes
  | date field comparison reference => (field.read? file).any (comparison.holds · reference)
  | wildcard pattern => pattern.matches file.path
  | regex expression => expression.regex.matches file.path.chars
  | skip rule => !rule.covers file.path
  | content needle _ => file.contents.any needle.holds
  | digest algorithm digests => (file.digest? algorithm).any digests.contains

def cost : Leaf → Cost
  | type test => test.cost
  | size _ _ => .slowAttribute
  | date .header _ _ => .imageHeader
  | date _ _ _ => .slowAttribute
  | wildcard _ | regex _ | skip _ => .pathMatch
  | content _ _ => .contentSearch
  | digest _ _ => .digestCheck

/-- The expensive fact that evaluation asks for, even of a file that lacks it. -/
def fact? : Leaf → Option Fact
  | type test => test.fact?
  | date .header _ _ => some .image
  | content _ _ => some .contents
  | digest algorithm _ => some (.digest algorithm)
  | _ => none

def decision (directory : Path) : Leaf → Decision
  | wildcard pattern => pattern.decision directory
  | skip rule => rule.decision directory
  | _ => .indifferent

def withoutPruning : Leaf → Leaf
  | wildcard pattern => .wildcard pattern.withoutPruning
  | leaf => leaf

def parenthesized (label : String) (inner : List Char) : List Char :=
  label.toList ++ '(' :: inner ++ [')']

def describe : Leaf → List Char
  | type test => test.name.toList
  | size comparison bytes => parenthesized comparison.label (Nat.toDigits 10 bytes)
  | date field comparison reference =>
    parenthesized (field.label ++ comparison.label) (reference.text 'T' ++ ['Z'])
  | wildcard pattern => parenthesized "Pattern" pattern.text.toList
  | regex expression => parenthesized "Regex" expression.text.toList
  | skip rule => parenthesized "SkipDirectory" rule.text.toList
  | content needle true => parenthesized "ContainsHex" (Hex.encode needle)
  | content needle false => parenthesized "Contains" (Quoted.quote (Utf8.decodeLossy needle))
  | digest algorithm digests =>
    algorithm.name.toList ++ ['I', 'n', '['] ++ [','].intercalate (digests.map Hex.encode) ++ [']']

end Leaf
end FileSieve
