import FileSieve.Disk.Basic
import FileSieve.File.Facts

namespace FileSieve.Disk

def dot : UInt8 := 0x2E

def isHidden (path : Path) : Bool :=
  match path.fileName? with
  | some name => name.head? == some dot
  | none => false

def shown (disk : Disk) (path : Path) (entry : Entry) : Entry :=
  if entry.isLink then
    match disk.lookup path true with
    | .ok target => target
    | .error _ => entry
  else entry

def attributes (path : Path) (isLink : Bool) (shown : Entry) : Attributes :=
  Attributes.none.setIf shown.isDirectory Attributes.directory
    |>.setIf shown.stat.readOnly Attributes.readOnly
    |>.setIf isLink Attributes.reparsePoint
    |>.setIf (isHidden path) Attributes.hidden

/-- A disk keeps no times but the last modification; a path that leads nowhere has no facts. -/
def record (disk : Disk) (path : Path) : File :=
  match disk.lookup path false with
  | .error _ => File.absent path
  | .ok entry =>
    let shown := disk.shown path entry
    { path
      size := shown.size
      created := none
      modified := some shown.stat.modified
      accessed := none
      attributes := attributes path entry.isLink shown
      contents := (disk.contents path).toOption
      isSigned := false
      isProtected := false }

end FileSieve.Disk
