import FileSieve.Path
import FileSieve.Unicode.Lowercase

namespace FileSieve.PathText

def normalize (text : List Char) : List Char := text.map fun c => if c = '\\' then '/' else c

def ofPath (path : Path) : List Char := normalize path.chars

/-- A directory's key ends with a separator, so that a key starts with another exactly if its
directory lies inside the other's. -/
def closed (key : List Char) : List Char := if key.getLast? = some '/' then key else key ++ ['/']

def directoryKey (path : Path) : List Char := closed (Unicode.lowercase (ofPath path))

/-- A text that starts with a separator or a drive letter is absolute. -/
def isAbsolute : List Char → Bool
  | '/' :: _ => true
  | c :: ':' :: _ => c.isAlpha
  | _ => false

def dropFinalSeparators (text : List Char) : List Char :=
  (text.reverse.dropWhile (· == '/')).reverse

def dropCurrent : List Char → List Char
  | '.' :: '/' :: rest => rest
  | text => text

def absolute (base : Path) (text : List Char) : List Char :=
  if isAbsolute text then text
  else dropFinalSeparators (ofPath base) ++ '/' :: dropCurrent text

end FileSieve.PathText
