import FileSieve.Disk.Basic

namespace FileSieve

def Entry.setAmong (entry : Entry) : List Entry → List Entry
  | [] => [entry]
  | old :: rest =>
    if old.name = entry.name then entry :: rest else old :: setAmong entry rest

/-- Puts an entry in the directory of a list of names; directories that are missing are made. A directory
that is put where there is one keeps what that one holds. -/
def Entry.putIn (missing : Stat) (entry : Entry) : List Bytes → List Entry → List Entry
  | [], entries =>
    match entry, Entry.find? entry.name entries with
    | .directory name stat [], some (.directory _ _ kept) =>
      setAmong (.directory name stat kept) entries
    | entry, _ => setAmong entry entries
  | name :: rest, entries =>
    match Entry.find? name entries with
    | some (.directory _ stat below) =>
      setAmong (.directory name stat (putIn missing entry rest below)) entries
    | _ => setAmong (.directory name missing (putIn missing entry rest [])) entries

def Disk.put (disk : Disk) (missing : Stat) (directory : Path) (entry : Entry) : Disk :=
  { disk with entries := entry.putIn missing (Disk.steps directory) disk.entries }

end FileSieve
