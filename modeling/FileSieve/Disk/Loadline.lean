import FileSieve.Disk.Basic
import FileSieve.Query.Loadline

namespace FileSieve

namespace Lines

/-- A carriage return at the end of a line, read backwards, belongs to the line break. -/
def dropReturn : List Char → List Char
  | '\r' :: line => line
  | line => line

/-- Lines behind the part of one that has been read, which is kept backwards. The last line may lack
its line break. -/
def splitFrom (reversed : List Char) : List Char → List (List Char)
  | [] => if reversed = [] then [] else [reversed.reverse]
  | c :: rest =>
    if c = '\n' then (dropReturn reversed).reverse :: splitFrom [] rest
    else splitFrom (c :: reversed) rest

def split (text : List Char) : List (List Char) := splitFrom [] text

end Lines

namespace LoadlineSource

def byteOrderMark : Char := '\uFEFF'

def ofText (text : List Char) : String :=
  String.ofList ([' '].intercalate (Lines.split (text.dropWhile (· == byteOrderMark))))

def ofFiles (disk : Disk) (base : Path) : LoadlineSource := fun name =>
  let path := base.join (Path.ofString name)
  match disk.readText path with
  | .ok text => .ok (ofText text)
  | .error e => .error ("cannot read " ++ path.text ++ ": " ++ e.message)

end LoadlineSource
end FileSieve
