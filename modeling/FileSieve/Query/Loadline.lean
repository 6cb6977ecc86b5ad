import FileSieve.Unicode.Lowercase

namespace FileSieve

abbrev LoadlineSource := String → Except String String

namespace LoadlineSource

/-- Names are compared in lowercase; of several equal ones the last counts. -/
def ofEntries (entries : List (String × String)) : LoadlineSource := fun name =>
  match entries.reverse.find? fun (key, _) => Unicode.lower key == Unicode.lower name with
  | some (_, line) => .ok line
  | none => .error ("no loadline named '" ++ name ++ "' is configured")

/-- The first line that a source gives, or else the reasons of all of them. -/
def firstLine (name : String) (failures : List String) :
    List LoadlineSource → Except String String
  | [] =>
    if failures.isEmpty then .error ("no loadline source available for '" ++ name ++ "'")
    else .error ("; ".intercalate failures)
  | source :: rest =>
    match source name with
    | .ok line => .ok line
    | .error failure => firstLine name (failures ++ [failure]) rest

def chain (sources : List LoadlineSource) : LoadlineSource := fun name => firstLine name [] sources

end LoadlineSource
end FileSieve
