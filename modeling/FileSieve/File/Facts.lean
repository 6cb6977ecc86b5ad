import FileSieve.Digest.Algorithm
import FileSieve.File.Attributes
import FileSieve.File.Image
import FileSieve.Path
import FileSieve.Time.Instant

namespace FileSieve

structure File where
  path : Path
  size : Nat
  created : Option Instant
  modified : Option Instant
  accessed : Option Instant
  attributes : Attributes
  contents : Option Bytes
  isSigned : Bool
  isProtected : Bool
  deriving DecidableEq, Repr

inductive Fact where
  | contents
  | image
  | checksum
  | digest (algorithm : Algorithm)
  | signature
  | protection
  deriving DecidableEq, Repr

def Fact.fresh (known : List Fact) : List Fact → List Fact
  | [] => []
  | fact :: rest =>
    if known.contains fact then fresh known rest else fact :: fresh (fact :: known) rest

namespace File

def absent (path : Path) : File :=
  { path, size := 0, created := none, modified := none, accessed := none
    attributes := Attributes.none, contents := none, isSigned := false, isProtected := false }

def image? (file : File) : Option Image := file.contents.bind Image.read?

def imageTime? (file : File) : Option Instant :=
  file.image?.map fun image => Instant.ofSeconds image.timestamp

def checksumValid (file : File) : Bool :=
  match file.image?, file.contents with
  | some image, some data => image.checksumMatches data
  | _, _ => false

def digest? (file : File) (algorithm : Algorithm) : Option Bytes :=
  file.contents.map fun data => algorithm.digest data

end File
end FileSieve
