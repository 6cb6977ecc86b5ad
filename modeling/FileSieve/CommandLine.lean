import FileSieve.Criteria.Describe
import FileSieve.Output.Match
import FileSieve.Query.Parser
import FileSieve.Scan.Basic
import FileSieve.Settings.Disk

namespace FileSieve

inductive Invocation where
  | search (words : List String)
  | tree (words : List String)
  | loadlines
  | help
  | refused
  deriving DecidableEq, Repr

structure CommandOutcome where
  code : Nat
  output : Bytes
  errors : String
  deriving DecidableEq, Repr

namespace Invocation

/-- A cluster of flags asks for help if each of them does. -/
def asksHelp (word : String) : Bool :=
  match word.toList with
  | '-' :: '-' :: name => name = "help".toList
  | '-' :: flags => flags ≠ [] && flags.all (· == 'h')
  | _ => false

def valuesHelp (word : String) : Bool := "--help=".toList.isPrefixOf word.toList

def ofExpression (form : List String → Invocation) : List String → Invocation
  | [] => form []
  | first :: rest =>
    if first = "--" then form rest
    else if asksHelp first then help
    else if valuesHelp first then refused
    else form (first :: rest)

def ofLoadlineWords : List String → Invocation
  | [] => loadlines
  | ["--"] => loadlines
  | first :: _ =>
    if first = "--help" || ['-', 'h'].isPrefixOf first.toList then help else refused

def ofHelpWords : List String → Invocation
  | [] => help
  | [topic] => if ["tree", "loadlines", "help"].contains topic then help else refused
  | _ => refused

def ofWords : List String → Invocation
  | [] => search []
  | first :: rest =>
    if first = "tree" then ofExpression tree rest
    else if first = "loadlines" then ofLoadlineWords rest
    else if first = "help" then ofHelpWords rest
    else ofExpression search (first :: rest)

end Invocation

namespace CommandLine

/-- A word that holds blanks was quoted, unless it is a modifier, whose payload may hold them. -/
def quotedWord (word : String) : List Char :=
  let text := word.toList
  if text.any isBlank && text.head? != some '-' then '"' :: text ++ ['"'] else text

def expression (words : List String) : String :=
  String.ofList ([' '].intercalate (words.map quotedWord))

def textBytes (text : String) : Bytes := Utf8.encode text.toList

def parseWords (disk : Disk) (settings : Settings) (now : Instant) (words : List String) :
    Except ParseError (Criterion × ScanOptions) :=
  parse (settings.loadlineSource disk disk.working) now (ScanOptions.initial disk.working)
    (expression words)

def settings (disk : Disk) (path : Path) : Settings :=
  (Settings.load disk path).toOption.getD Settings.initial

section

variable (refusal : String → String)

def failed (error : ParseError) : CommandOutcome :=
  let causes := match error.cause? refusal with
    | none => ""
    | some cause => "\n\nCaused by:" ++ "".intercalate ((cause.splitOn "\n").map ("\n    " ++ ·))
  ⟨1, [], "Error: " ++ error.message refusal ++ causes ++ "\n"⟩

def withExpression (parsed : Except ParseError (Criterion × ScanOptions))
    (next : Criterion → ScanOptions → CommandOutcome) : CommandOutcome :=
  match parsed with
  | .error e => failed refusal e
  | .ok (criterion, options) => next (Scan.prepare criterion options) options

end

def tree (criterion : Criterion) (_ : ScanOptions) : CommandOutcome :=
  ⟨0, textBytes criterion.describe, ""⟩

def counts (outcome : ScanOutcome) : String :=
  toString outcome.found.length ++ " matched, " ++ toString outcome.visited ++ " visited, " ++
    toString outcome.pruned ++ " directories pruned\n"

def search (disk : Disk) (criterion : Criterion) (options : ScanOptions) : CommandOutcome :=
  let outcome := Scan.run disk criterion options
  { code := 0
    output := Stream.encoded (outcome.found.map Match.line) options.encoding
    errors := if options.debug then criterion.describe ++ "\n" ++ counts outcome else "" }

def loadlineLine (entry : String × String) : String := entry.1 ++ ": " ++ entry.2 ++ "\n"

def loadlines (settings : Settings) (settingsPath : Path) : CommandOutcome :=
  let lines := match settings.entries with
    | [] => ["No loadlines configured\n", "Add a \"loadlines\" map to " ++ settingsPath.text ++ "\n"]
    | entries => entries.map loadlineLine
  ⟨0, textBytes ("".intercalate lines), ""⟩

def usage : String :=
  "Usage: [EXPRESSION]...\n       tree [EXPRESSION]...\n       loadlines\n"

/-- The outcome of a command line on a disk. Settings that can not be read count as the initial ones. -/
def run (refusal : String → String) (disk : Disk) (settingsPath : Path) (now : Instant) (words : List String) :
    CommandOutcome :=
  let settings := settings disk settingsPath
  match Invocation.ofWords words with
  | .search words => withExpression refusal (parseWords disk settings now words) (search disk)
  | .tree words => withExpression refusal (parseWords disk settings now words) tree
  | .loadlines => loadlines settings settingsPath
  | .help => ⟨0, textBytes usage, ""⟩
  | .refused => ⟨2, [], usage⟩

def searchOptions? (disk : Disk) (settingsPath : Path) (now : Instant) (words : List String) :
    Option (Criterion × ScanOptions) :=
  match Invocation.ofWords words with
  | .search words => (parseWords disk (settings disk settingsPath) now words).toOption
  | _ => none

end CommandLine
end FileSieve
