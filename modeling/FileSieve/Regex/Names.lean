import FileSieve.Regex.CharSet
import FileSieve.Unicode.Binary
import FileSieve.Unicode.Script

namespace FileSieve.Regex

inductive ShortClass where
  | digit
  | blank
  | word
  deriving DecidableEq, Repr

namespace ShortClass

open Unicode in
def unicodeRanges : ShortClass → Ranges
  | digit => Ranges.ofText Category.decimalNumberText
  | blank => Ranges.ofText "9-D 20 85 A0 1680 2000-200A 2028-2029 202F 205F 3000"
  | word => otherAlphabetic ++ [(0x200C, 0x200D)] ++
      [Category.uppercaseLetterText, Category.lowercaseLetterText, Category.titlecaseLetterText,
        Category.modifierLetterText, Category.otherLetterText, Category.letterNumberText,
        Category.nonspacingMarkText, Category.spacingMarkText, Category.enclosingMarkText,
        Category.decimalNumberText, Category.connectorPunctuationText].flatMap Ranges.ofText

def asciiRanges : ShortClass → Unicode.Ranges
  | digit => [(0x30, 0x39)]
  | blank => [(0x09, 0x0D), (0x20, 0x20)]
  | word => [(0x30, 0x39), (0x41, 0x5A), (0x5F, 0x5F), (0x61, 0x7A)]

end ShortClass

def bracketedNames : List (String × Unicode.Ranges) :=
  [("alnum", [(0x30, 0x39), (0x41, 0x5A), (0x61, 0x7A)]), ("alpha", [(0x41, 0x5A), (0x61, 0x7A)]),
   ("ascii", [(0x00, 0x7F)]), ("blank", [(0x09, 0x09), (0x20, 0x20)]),
   ("cntrl", [(0x00, 0x1F), (0x7F, 0x7F)]), ("digit", [(0x30, 0x39)]), ("graph", [(0x21, 0x7E)]),
   ("lower", [(0x61, 0x7A)]), ("print", [(0x20, 0x7E)]),
   ("punct", [(0x21, 0x2F), (0x3A, 0x40), (0x5B, 0x60), (0x7B, 0x7E)]),
   ("space", [(0x09, 0x0D), (0x20, 0x20)]), ("upper", [(0x41, 0x5A)]),
   ("word", [(0x30, 0x39), (0x41, 0x5A), (0x5F, 0x5F), (0x61, 0x7A)]),
   ("xdigit", [(0x30, 0x39), (0x41, 0x46), (0x61, 0x66)])]

namespace Property

/-- The form in which names are compared: an initial `is`, blanks, hyphens, underscores and letter
case do not count. -/
def loose (name : List Char) : List Char :=
  let lowered := name.map Char.toLower
  let (hasIs, body) := match lowered with
    | 'i' :: 's' :: rest => (true, rest)
    | rest => (false, rest)
  let kept := body.filter fun c => c.toNat < 0x80 && c != ' ' && c != '_' && c != '-'
  if hasIs ∧ kept = ['c'] then ['i', 's', 'c'] else kept

open Unicode.Category in
def categories : List (List String × List String) :=
  let letters := [uppercaseLetterText, lowercaseLetterText, titlecaseLetterText]
  let allLetters := letters ++ [modifierLetterText, otherLetterText]
  let marks := [nonspacingMarkText, spacingMarkText, enclosingMarkText]
  let numbers := [decimalNumberText, letterNumberText, otherNumberText]
  let punctuation := [connectorPunctuationText, dashPunctuationText, openPunctuationText,
    closePunctuationText, initialPunctuationText, finalPunctuationText, otherPunctuationText]
  let symbols := [mathSymbolText, currencySymbolText, modifierSymbolText, otherSymbolText]
  let separators := [spaceSeparatorText, lineSeparatorText, paragraphSeparatorText]
  [(["l", "letter"], allLetters), (["lc", "casedletter"], letters),
   (["lu", "uppercaseletter"], [uppercaseLetterText]),
   (["ll", "lowercaseletter"], [lowercaseLetterText]),
   (["lt", "titlecaseletter"], [titlecaseLetterText]),
   (["lm", "modifierletter"], [modifierLetterText]), (["lo", "otherletter"], [otherLetterText]),
   (["m", "mark", "combiningmark"], marks), (["mn", "nonspacingmark"], [nonspacingMarkText]),
   (["mc", "spacingmark"], [spacingMarkText]), (["me", "enclosingmark"], [enclosingMarkText]),
   (["n", "number"], numbers), (["nd", "decimalnumber", "digit"], [decimalNumberText]),
   (["nl", "letternumber"], [letterNumberText]), (["no", "othernumber"], [otherNumberText]),
   (["p", "punctuation", "punct"], punctuation),
   (["pc", "connectorpunctuation"], [connectorPunctuationText]),
   (["pd", "dashpunctuation"], [dashPunctuationText]),
   (["ps", "openpunctuation"], [openPunctuationText]),
   (["pe", "closepunctuation"], [closePunctuationText]),
   (["pi", "initialpunctuation"], [initialPunctuationText]),
   (["pf", "finalpunctuation"], [finalPunctuationText]),
   (["po", "otherpunctuation"], [otherPunctuationText]), (["s", "symbol"], symbols),
   (["sm", "mathsymbol"], [mathSymbolText]), (["sc", "currencysymbol"], [currencySymbolText]),
   (["sk", "modifiersymbol"], [modifierSymbolText]), (["so", "othersymbol"], [otherSymbolText]),
   (["z", "separator"], separators), (["zs", "spaceseparator"], [spaceSeparatorText]),
   (["zl", "lineseparator"], [lineSeparatorText]),
   (["zp", "paragraphseparator"], [paragraphSeparatorText]),
   (["cc", "control", "cntrl"], [controlText]), (["cf", "format"], [formatText]),
   (["co", "privateuse"], [privateUseText]), (["ascii"], ["0-7F"]), (["any"], ["0-10FFFF"])]

def unassigned : CharSet :=
  .complement (.ranges (Unicode.Category.table.flatMap Prod.snd))

def category? (name : List Char) : Option CharSet :=
  let name := String.ofList name
  if name = "cn" ∨ name = "unassigned" then some unassigned
  else if name = "assigned" then some (.complement unassigned)
  else if name = "c" ∨ name = "other" then
    some (.union unassigned (.ranges ([Unicode.Category.controlText, Unicode.Category.formatText,
      Unicode.Category.privateUseText].flatMap Unicode.Ranges.ofText)))
  else (categories.find? (·.1.contains name)).map fun (_, texts) =>
    .ranges (texts.flatMap Unicode.Ranges.ofText)

def script? (name : List Char) : Option CharSet :=
  (Unicode.Script.table.find? fun script =>
    loose script.short.toList == name || loose script.long.toList == name).map fun script =>
      .ranges script.ranges

open Unicode.Category in
def identifierStart : CharSet :=
  .difference (.ranges ([uppercaseLetterText, lowercaseLetterText, titlecaseLetterText,
      modifierLetterText, otherLetterText, letterNumberText, "1885-1886 2118 212E 309B-309C"].flatMap
        Unicode.Ranges.ofText))
    (.ranges [(0x2E2F, 0x2E2F)])

open Unicode.Category in
def identifierPart : CharSet :=
  .union identifierStart (.ranges ([nonspacingMarkText, spacingMarkText, decimalNumberText,
    connectorPunctuationText, "B7 387 1369-1371 19DA 200C-200D 30FB FF65"].flatMap
      Unicode.Ranges.ofText))

/-- Characters whose compatibility forms can not start an identifier, and those whose forms can not
continue one either. -/
def unstableStart : CharSet :=
  .ranges (Unicode.Ranges.ofText
    "37A E33 EB3 309B-309C FC5E-FC63 FDFA-FDFB FE70 FE72 FE74 FE76 FE78 FE7A FE7C FE7E FF9E-FF9F")

def unstablePart : CharSet :=
  .ranges (Unicode.Ranges.ofText
    "37A 309B-309C FC5E-FC63 FDFA-FDFB FE70 FE72 FE74 FE76 FE78 FE7A FE7C FE7E")

open Unicode Unicode.Category in
def graphemeExtend : CharSet :=
  .ranges ([nonspacingMarkText, enclosingMarkText].flatMap Ranges.ofText ++ otherGraphemeExtend)

open Unicode.Category in
def graphemeBase : CharSet :=
  .complement (.union (.union unassigned graphemeExtend)
    (.ranges ([controlText, formatText, privateUseText, lineSeparatorText,
      paragraphSeparatorText].flatMap Unicode.Ranges.ofText)))

open Unicode Unicode.Category in
def binary? (name : List Char) : Option CharSet :=
  let ranges (texts : List String) (further : Ranges) : Option CharSet :=
    some (.ranges (texts.flatMap Ranges.ofText ++ further))
  let lower := Ranges.ofText lowercaseLetterText ++ otherLowercase
  let upper := Ranges.ofText uppercaseLetterText ++ otherUppercase
  match String.ofList name with
  | "alpha" | "alphabetic" =>
    ranges [uppercaseLetterText, lowercaseLetterText, titlecaseLetterText, modifierLetterText,
      otherLetterText, letterNumberText] otherAlphabetic
  | "lower" | "lowercase" => ranges [] lower
  | "upper" | "uppercase" => ranges [] upper
  | "cased" => ranges [titlecaseLetterText] (lower ++ upper)
  | "ci" | "caseignorable" =>
    ranges [nonspacingMarkText, enclosingMarkText, formatText, modifierLetterText,
      modifierSymbolText] wordPunctuation
  | "space" | "wspace" | "whitespace" => ranges [] (ShortClass.unicodeRanges .blank)
  | "grext" | "graphemeextend" => some graphemeExtend
  | "grbase" | "graphemebase" => some graphemeBase
  | "ids" | "idstart" => some identifierStart
  | "idc" | "idcontinue" => some identifierPart
  | "xids" | "xidstart" => some (.difference identifierStart unstableStart)
  | "xidc" | "xidcontinue" => some (.difference identifierPart unstablePart)
  | "joinc" | "joincontrol" => ranges ["200C-200D"] []
  | "ahex" | "asciihexdigit" => ranges ["30-39 41-46 61-66"] []
  | "hex" | "hexdigit" => ranges ["30-39 41-46 61-66 FF10-FF19 FF21-FF26 FF41-FF46"] []
  | name => (binaryProperties.find? (·.1.contains name)).map fun (_, ranges) => .ranges ranges

/-- The class of a property, a general category or a script, looked up in this order. -/
def class? (name : List Char) : Option CharSet :=
  let name := loose name
  let property := if [['c', 'f'], ['s', 'c'], ['l', 'c']].contains name then none else binary? name
  property.or ((category? name).or (script? name))

def valued? (property value : List Char) : Option CharSet :=
  match String.ofList (loose property) with
  | "gc" | "generalcategory" => category? (loose value)
  | "sc" | "script" => script? (loose value)
  | _ => none

end Property
end FileSieve.Regex
