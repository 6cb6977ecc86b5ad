namespace FileSieve

structure Attributes where
  bits : UInt32
  deriving DecidableEq, Repr

namespace Attributes

def readOnly : UInt32 := 0x0001
def hidden : UInt32 := 0x0002
def system : UInt32 := 0x0004
def directory : UInt32 := 0x0010
def archive : UInt32 := 0x0020
def temporary : UInt32 := 0x0100
def sparse : UInt32 := 0x0200
def reparsePoint : UInt32 := 0x0400
def compressed : UInt32 := 0x0800
def offline : UInt32 := 0x1000
def notContentIndexed : UInt32 := 0x2000
def encrypted : UInt32 := 0x4000

def none : Attributes := ⟨0⟩

def contains (attributes : Attributes) (mask : UInt32) : Bool := attributes.bits &&& mask == mask

def isDirectory (attributes : Attributes) : Bool := attributes.contains directory

def setIf (attributes : Attributes) (condition : Bool) (mask : UInt32) : Attributes :=
  if condition then ⟨attributes.bits ||| mask⟩ else attributes

def listed : List (UInt32 × Char) :=
  [(directory, 'D'), (archive, 'A'), (readOnly, 'R'), (system, 'S'), (hidden, 'H'),
   (compressed, 'C'), (encrypted, 'E'), (reparsePoint, 'J')]

def letters (attributes : Attributes) : List Char :=
  listed.map fun (mask, letter) => if attributes.contains mask then letter else '-'

end Attributes
end FileSieve
