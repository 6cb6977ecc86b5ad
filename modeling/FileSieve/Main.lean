import FileSieve.CommandLine
import FileSieve.Disk.Insert
import FileSieve.Watchdog

/-! The program. It reads the directories that a command line is about, contents included, and leaves all
else to the library; what it can not read is not there. -/

namespace FileSieve.Program

def instantOf (time : IO.FS.SystemTime) : Instant := ⟨time.sec, time.nsec.toNat⟩

def statOf (facts : IO.FS.Metadata) : Stat := ⟨instantOf facts.modified, false⟩

partial def readEntry? (found : IO.FS.DirEntry) : IO (Option Entry) := do
  try
    let name := Utf8.encode found.fileName.toList
    let facts ← found.path.symlinkMetadata
    match facts.type with
    | .dir =>
      let below ← found.path.readDir
      return some (.directory name (statOf facts) (← below.toList.filterMapM readEntry?))
    | .symlink =>
      let target ← IO.FS.realPath found.path
      return some (.link name (statOf facts) (Path.ofString target.toString))
    | _ =>
      let contents ← IO.FS.readBinFile found.path
      return some (.file name (statOf facts) contents.toList)
  catch _ => return none

def addDirectory (disk : Disk) (path : Path) : IO Disk := do
  try
    let place ← IO.FS.realPath path.text
    let facts ← place.metadata
    let entries ← (← place.readDir).toList.filterMapM readEntry?
    let spot := if path.components.contains .parent then Path.ofString place.toString else path
    match spot.parent?, spot.fileName? with
    | some parent, some name =>
      return disk.put (statOf facts) parent (.directory name (statOf facts) entries)
    | _, _ => return { disk with entries }
  catch _ => return disk

def currentTime : IO Instant := do
  let (_, path) ← IO.FS.createTempFile
  let facts ← path.metadata
  IO.FS.removeFile path
  return instantOf facts.modified

def settingsDirectory : IO Path := do
  let program := (← IO.appPath).fileStem.getD "settings"
  let home := (← IO.getEnv "HOME").getD ""
  let place := match ← IO.getEnv "XDG_DATA_HOME" with
    | some place => if place.startsWith "/" then place else home ++ "/.local/share"
    | none => home ++ "/.local/share"
  return (Path.ofString place).join (Path.ofString program)

def deliver (outcome : CommandOutcome) : IO UInt32 := do
  IO.eprint outcome.errors
  (← IO.getStdout).write ⟨outcome.output.toArray⟩
  return UInt32.ofNat outcome.code

/-- Delivers the outcome, unless the time is up before it is there. -/
def deliverInTime (timeout : Option Nat) (outcome : Unit → CommandOutcome) : IO UInt32 := do
  match timeout with
  | none => deliver (outcome ())
  | some timeout =>
    let work := (Task.spawn outcome).map some
    let timer ← IO.asTask (IO.sleep (UInt32.ofNat timeout))
    match ← IO.waitAny [work, timer.map fun _ => none] with
    | some outcome => deliver outcome
    | none => return UInt32.ofNat Watchdog.exitCode

def refusal (text : String) : String := "cannot read '" ++ text ++ "'"

end FileSieve.Program

open FileSieve Program in
def main (words : List String) : IO UInt32 := do
  let now ← currentTime
  let working := Path.ofString (← IO.currentDir).toString
  let directory ← settingsDirectory
  IO.FS.createDirAll directory.text
  let settingsPath := directory.push (.name (Path.ofString "config.json").bytes)
  let disk ← addDirectory (← addDirectory ⟨[], working⟩ working) directory
  match CommandLine.searchOptions? disk settingsPath now words with
  | none => deliver (CommandLine.run refusal disk settingsPath now words)
  | some (criterion, options) =>
    let disk ← (scanRoots disk criterion options).foldlM addDirectory disk
    deliverInTime options.timeout fun _ => CommandLine.run refusal disk settingsPath now words
