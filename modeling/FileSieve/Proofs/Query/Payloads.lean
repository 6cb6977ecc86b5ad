import Mathlib.Data.List.DropRight
import Mathlib.Data.List.Forall2
import FileSieve.Proofs.Query.Emission
import FileSieve.Proofs.Query.RoundTrip
import FileSieve.Proofs.Text.Hex
import FileSieve.Query.Parser

namespace FileSieve

theorem doubled_plain {payload : List Char} (plain : '#' ∉ payload) : doubled payload = payload := by
  induction payload with
  | nil => rfl
  | cons c payload ih =>
      simp only [List.mem_cons, not_or] at plain
      rw [doubled, List.flatMap_cons, if_neg (Ne.symm plain.1), List.singleton_append]
      exact congrArg (c :: ·) (ih plain.2)

/-- A modifier with a payload, alone on its line. -/
def payloadLine (lexeme payload : List Char) : String := String.ofList (lexeme ++ '#' :: doubled payload ++ ['#'])

namespace Lexer

theorem isModifier_of_toLower {lexeme : List Char} (modifier : isModifier (lexeme.map Char.toLower) = true) :
    isModifier lexeme = true := by
  have inner (c : Char) (blank : isBlank c.toLower = false) : isBlank c = false := by
    by_cases ascii : c.toNat < 0x80
    · revert blank
      apply Ascii.of_codes c ascii
      decide
    · rwa [Ascii.toLower_of_not_ascii c (by omega)] at blank
  cases lexeme with
  | nil => cases modifier
  | cons first rest =>
      simp only [isModifier, List.map_cons, Bool.and_eq_true, beq_iff_eq, List.all_map, List.all_eq_true,
        Function.comp_apply, Bool.not_eq_true', bne_iff_ne] at modifier ⊢
      refine ⟨Ascii.eq_of_toLower first '-' modifier.1 rfl, fun c member => ?_⟩
      obtain ⟨blank, hash⟩ := modifier.2 c member
      refine ⟨inner c blank, ?_⟩
      rintro rfl
      exact hash rfl

end Lexer

theorem parse_payloadLine {lexeme payload : List Char} (modifier : Lexer.isModifier lexeme = true)
    (source : LoadlineSource) {now : Instant} {options : ScanOptions} {result : Except ParseError Leaf}
    (interpreted : Modifier.interpret (String.ofList lexeme) (some (String.ofList payload)) now options =
      result.map Modifier.leaf) :
    parse source now options (payloadLine lexeme payload) = result.map fun test => (.leaf test, options) := by
  have tokens : tokenize (payloadLine lexeme payload) =
      .ok [.modifier (String.ofList lexeme) (some (String.ofList payload)), .finish] := by
    have yields := Lexer.yields_payload lexeme payload modifier [] nofun
    rw [List.append_nil] at yields
    rw [tokenize, tokenizeFragment, payloadLine, String.toList_ofList, yields]
    rfl
  rw [parse, tokens]
  show parseTokens source now options _ = _
  rw [parseTokens, Parser.read, interpreted]
  cases result with
  | error refusal => rfl
  | ok test =>
      simp only [Except.map, Modifier.leaf, Parser.read]
      rfl

namespace Modifier

theorem splitItems_eq (text : List Char) : splitItems text = text.splitOn ',' := by
  induction text with
  | nil => rfl
  | cons c rest ih =>
      rw [splitItems, ih, List.splitOn_cons_eq_if_modifyHead]
      simp only [beq_iff_eq]
      split
      · rfl
      · obtain ⟨item, items, split⟩ := List.exists_cons_of_ne_nil (List.splitOn_ne_nil ',' rest)
        rw [split, List.modifyHead_cons]

def listItems (payload : List Char) : List (List Char) :=
  ((payload.splitOn ',').map fun item => (item.dropWhile isBlank).rdropWhile isBlank).filter (· ≠ [])

/-- Whether a text has as many digits as a digest of the algorithm, and nothing else. -/
def isDigestText (algorithm : Algorithm) (item : List Char) : Bool :=
  item.length == 2 * algorithm.digestLength && item.all Hex.isDigit

section

variable {algorithm : Algorithm} {item : List Char}

theorem digestItem_of_spells {digest : Bytes} (spells : Hex.Spells item digest)
    (whole : digest.length = algorithm.digestLength) : digestItem algorithm item = .ok digest := by
  rw [digestItem, (Hex.decode?_eq_some_iff item digest).mpr spells]
  simp [Option.filter, whole]

theorem exists_digest (text : isDigestText algorithm item = true) :
    ∃ digest, Hex.Spells item digest ∧ digest.length = algorithm.digestLength := by
  simp only [isDigestText, Bool.and_eq_true, beq_iff_eq] at text
  obtain ⟨digest, spells⟩ := (Hex.exists_spells_iff item).mpr ⟨by omega, text.2⟩
  have length := Hex.length_of_spells spells
  exact ⟨digest, spells, by omega⟩

theorem digestItem_refused (other : isDigestText algorithm item = false) :
    digestItem algorithm item = .error (.invalidHash (String.ofList item)) := by
  rw [digestItem]
  split
  case h_2 => rfl
  case h_1 digest found =>
    obtain ⟨decoded, whole⟩ := Option.filter_eq_some_iff.mp found
    have spells := (Hex.decode?_eq_some_iff item digest).mp decoded
    have length := Hex.length_of_spells spells
    simp [isDigestText, Hex.digits_of_spells spells, length, of_decide_eq_true whole] at other

end

theorem digestItems_read {algorithm : Algorithm} {items : List (List Char)}
    (texts : items.all (isDigestText algorithm) = true) :
    ∃ digests, List.Forall₂ Hex.Spells items digests ∧ items.mapM (digestItem algorithm) = .ok digests := by
  induction items with
  | nil => exact ⟨[], .nil, rfl⟩
  | cons item rest ih =>
      simp only [List.all_cons, Bool.and_eq_true] at texts
      obtain ⟨digest, spells, whole⟩ := exists_digest texts.1
      obtain ⟨digests, others, read⟩ := ih texts.2
      refine ⟨digest :: digests, .cons spells others, ?_⟩
      rw [List.mapM_cons, digestItem_of_spells spells whole, read]
      rfl

theorem rendered {items : List (List Char)} {digests : List Bytes} (spells : List.Forall₂ Hex.Spells items digests) :
    digests.map Hex.encode = items.map (·.map Char.toLower) := by
  induction spells with
  | nil => rfl
  | cons first rest ih => rw [List.map_cons, List.map_cons, Hex.encode_of_spells first, ih]

theorem digestItems_refused {algorithm : Algorithm} {items : List (List Char)} {wrong : List Char}
    (first : items.find? (!isDigestText algorithm ·) = some wrong) :
    items.mapM (digestItem algorithm) = .error (.invalidHash (String.ofList wrong)) := by
  induction items with
  | nil => cases first
  | cons item rest ih =>
      rw [List.mapM_cons]
      cases text : isDigestText algorithm item with
      | true =>
          obtain ⟨digest, spells, whole⟩ := exists_digest text
          rw [digestItem_of_spells spells whole, ih (by simpa [text] using first)]
          rfl
      | false =>
          obtain rfl : item = wrong := by simpa [text] using first
          rw [digestItem_refused text]
          rfl

theorem digestList_eq (algorithm : Algorithm) (payload : List Char) :
    digestList algorithm payload =
      if listItems payload = [] then .error (.invalidHash (String.ofList payload))
      else (listItems payload).mapM (digestItem algorithm) := by
  have items : ((splitItems payload).map trimBlanks).filter (· ≠ []) = listItems payload := by
    rw [splitItems_eq]
    rfl
  rw [digestList, items]
  cases listItems payload <;> rfl

theorem interpret_withPayload {lexeme name payload : List Char}
    (named : lexeme.map Char.toLower = '-' :: '-' :: name) (needs : needsPayload (String.ofList name) = true)
    (inhabited : payload ≠ []) (now : Instant) (options : ScanOptions) :
    interpret (String.ofList lexeme) (some (String.ofList payload)) now options =
      withPayload (String.ofList lexeme) (String.ofList name) payload options := by
  rw [interpret_long name (by rwa [String.toList_ofList]), long, needs, if_pos rfl, Option.getD_some,
    String.toList_ofList]
  · cases payload with
    | nil => exact absurd rfl inhabited
    | cons c rest => rfl
  all_goals
    intro same
    rw [same] at needs
    cases needs

theorem interpret_digestList {algorithm : Algorithm} {lexeme payload : List Char}
    (named : lexeme.map Char.toLower = '-' :: '-' :: algorithm.name.toList.map Char.toLower) (inhabited : payload ≠ [])
    (now : Instant) (options : ScanOptions) :
    interpret (String.ofList lexeme) (some (String.ofList payload)) now options =
      ((digestList algorithm payload).map (Leaf.digest algorithm)).map leaf := by
  have needs : needsPayload (String.ofList (algorithm.name.toList.map Char.toLower)) = true := by
    cases algorithm <;> rfl
  have listed (lexeme : String) :
      withPayload lexeme (String.ofList (algorithm.name.toList.map Char.toLower)) payload options =
        (digestList algorithm payload).map fun digests => leaf (.digest algorithm digests) := by
    cases algorithm <;> rfl
  rw [interpret_withPayload named needs inhabited, listed]
  cases digestList algorithm payload <;> rfl

/-- A list of digests makes one test that holds what its items spell. Otherwise the modifier is refused and adds
nothing: the message names the first item that is no digest, or the whole payload if it has no items. -/
theorem digests_read_exactly (algorithm : Algorithm) (lexeme payload : List Char)
    (named : lexeme.map Char.toLower = '-' :: '-' :: algorithm.name.toList.map Char.toLower) (plain : '#' ∉ payload)
    (inhabited : payload ≠ []) (source : LoadlineSource) (now : Instant) (options : ScanOptions) :
    (listItems payload ≠ [] ∧ (listItems payload).all (isDigestText algorithm) = true →
      ∃ digests, List.Forall₂ Hex.Spells (listItems payload) digests ∧
        (Leaf.digest algorithm digests).describe =
          algorithm.name.toList ++ "In[".toList ++
            [','].intercalate ((listItems payload).map (·.map Char.toLower)) ++ [']'] ∧
        interpret (String.ofList lexeme) (some (String.ofList payload)) now options =
          .ok (.criteria [.leaf (.digest algorithm digests)]) ∧
        parse source now options (String.ofList (lexeme ++ '#' :: payload ++ ['#'])) =
          .ok (.leaf (.digest algorithm digests), options)) ∧
    (¬ (listItems payload ≠ [] ∧ (listItems payload).all (isDigestText algorithm) = true) →
      let wrong := String.ofList (((listItems payload).find? (!isDigestText algorithm ·)).getD payload)
      interpret (String.ofList lexeme) (some (String.ofList payload)) now options = .error (.invalidHash wrong) ∧
        parse source now options (String.ofList (lexeme ++ '#' :: payload ++ ['#'])) = .error (.invalidHash wrong)) := by
  have modifier : Lexer.isModifier lexeme = true := by
    apply Lexer.isModifier_of_toLower
    rw [named]
    cases algorithm <;> rfl
  have interpreted := interpret_digestList named inhabited now options
  have parsed := parse_payloadLine modifier source interpreted
  rw [payloadLine, doubled_plain plain] at parsed
  rw [interpreted, parsed, digestList_eq]
  constructor
  · rintro ⟨some, texts⟩
    obtain ⟨digests, spells, read⟩ := digestItems_read texts
    rw [if_neg some, read]
    refine ⟨digests, spells, ?_, rfl, rfl⟩
    rw [Leaf.describe, rendered spells]
    rfl
  · intro refused
    by_cases none : listItems payload = []
    · simp [none, Except.map]
    · obtain ⟨wrong, first⟩ : ∃ wrong, (listItems payload).find? (!isDigestText algorithm ·) = some wrong := by
        simpa [none, ← Option.isSome_iff_exists] using refused
      rw [if_neg none, digestItems_refused first, first]
      exact ⟨rfl, rfl⟩

def twoDigests : List Char := "\u00A0D41D8CD98F00B204E9800998ECF8427E,\t, 900150983cd24fb0d6963f7d28e17F72".toList

def signedDigest : List Char := "d41d8cd98f00b204e9800998ecf8427e,+41d8cd98f00b204e9800998ecf8427e".toList

theorem digests_read_exactly_md5 :
    ("--Md5".toList.map Char.toLower = '-' :: '-' :: Algorithm.md5.name.toList.map Char.toLower ∧
      '#' ∉ twoDigests ∧ twoDigests ≠ [] ∧ '#' ∉ signedDigest ∧ signedDigest ≠ []) ∧
    (∃ digests, List.Forall₂ Hex.Spells
        ["D41D8CD98F00B204E9800998ECF8427E".toList, "900150983cd24fb0d6963f7d28e17F72".toList] digests ∧
      parse (fun _ => .ok "") ⟨0, 0⟩ (.initial (.ofString "/"))
          (String.ofList ("--Md5".toList ++ '#' :: twoDigests ++ ['#'])) =
        .ok (.leaf (.digest .md5 digests), .initial (.ofString "/"))) ∧
    parse (fun _ => .ok "") ⟨0, 0⟩ (.initial (.ofString "/"))
        (String.ofList ("--Md5".toList ++ '#' :: signedDigest ++ ['#'])) =
      .error (.invalidHash "+41d8cd98f00b204e9800998ecf8427e") := by
  have named : "--Md5".toList.map Char.toLower = '-' :: '-' :: Algorithm.md5.name.toList.map Char.toLower := by decide
  refine ⟨⟨named, by decide⟩, ?_, ?_⟩
  · have items : listItems twoDigests =
        ["D41D8CD98F00B204E9800998ECF8427E".toList, "900150983cd24fb0d6963f7d28e17F72".toList] := by decide
    have read := digests_read_exactly .md5 "--Md5".toList twoDigests named (by decide) (by decide)
      (fun _ => .ok "") ⟨0, 0⟩ (.initial (.ofString "/"))
    rw [items] at read
    obtain ⟨digests, spells, _, _, parsed⟩ := read.1 (by decide)
    exact ⟨digests, spells, parsed⟩
  · have items : listItems signedDigest =
        ["d41d8cd98f00b204e9800998ecf8427e".toList, "+41d8cd98f00b204e9800998ecf8427e".toList] := by decide
    have first : ["d41d8cd98f00b204e9800998ecf8427e".toList, "+41d8cd98f00b204e9800998ecf8427e".toList].find?
        (!isDigestText .md5 ·) = some "+41d8cd98f00b204e9800998ecf8427e".toList := by decide
    have read := digests_read_exactly .md5 "--Md5".toList signedDigest named (by decide) (by decide)
      (fun _ => .ok "") ⟨0, 0⟩ (.initial (.ofString "/"))
    rw [items, first, Option.getD_some, String.ofList_toList] at read
    exact (read.2 (by decide)).2

theorem hexNeedle?_eq_some_iff (payload : List Char) (needle : Bytes) :
    hexNeedle? payload = some needle ↔
      payload.filter (!isBlank ·) ≠ [] ∧ Hex.decode? (payload.filter (!isBlank ·)) = some needle := by
  rw [hexNeedle?, Option.filter_eq_some_iff, and_comm]
  refine and_congr_left fun decoded => ?_
  have length := Hex.length_of_spells ((Hex.decode?_eq_some_iff _ _).mp decoded)
  rw [decide_eq_true_iff, ← List.length_pos_iff, ← List.length_pos_iff, length]
  omega

theorem interpret_hex {lexeme payload : List Char} (named : lexeme.map Char.toLower = '-' :: '-' :: "hex".toList)
    (now : Instant) (options : ScanOptions) :
    ∃ refusal, interpret (String.ofList lexeme) (some (String.ofList payload)) now options =
      ((orElse refusal (hexNeedle? payload)).map fun needle => Leaf.content needle true).map leaf := by
  by_cases inhabited : payload = []
  · refine ⟨.missingArgument (String.ofList lexeme), ?_⟩
    rw [interpret_long "hex".toList (by rwa [String.toList_ofList]), inhabited]
    rfl
  · refine ⟨.invalidHex (String.ofList payload), ?_⟩
    rw [interpret_withPayload named rfl inhabited]
    show (orElse _ (hexNeedle? payload)).map _ = _
    cases hexNeedle? payload <;> rfl

/-- Bytes are written and read back, what is read is as it was written but for its letter case, and a payload between
blanks is searched for exactly if it spells some bytes. -/
theorem hex_read_back :
    (∀ bytes, Hex.decode? (Hex.encode bytes) = some bytes) ∧
    (∀ text, (∃ bytes, Hex.decode? text = some bytes) ↔ text.length % 2 = 0 ∧ text.all Hex.isDigit = true) ∧
    (∀ text bytes, Hex.decode? text = some bytes → Hex.encode bytes = text.map Char.toLower) ∧
    ∀ (lexeme payload : List Char) (source : LoadlineSource) (now : Instant) (options : ScanOptions)
      (result : Criterion × ScanOptions), lexeme.map Char.toLower = "--hex".toList →
      (parse source now options (payloadLine lexeme payload) = .ok result ↔
        ∃ needle, payload.filter (!isBlank ·) ≠ [] ∧ Hex.decode? (payload.filter (!isBlank ·)) = some needle ∧
          result = (.leaf (.content needle true), options)) := by
  simp only [Hex.decode?_eq_some_iff]
  refine ⟨Hex.spells_encode, Hex.exists_spells_iff, fun _ _ => Hex.encode_of_spells, ?_⟩
  intro lexeme payload source now options result named
  have modifier : Lexer.isModifier lexeme = true := by
    apply Lexer.isModifier_of_toLower
    rw [named]
    rfl
  obtain ⟨refusal, interpreted⟩ := interpret_hex named now options
  rw [parse_payloadLine modifier source interpreted]
  simp only [← and_assoc, ← Hex.decode?_eq_some_iff, ← hexNeedle?_eq_some_iff]
  cases hexNeedle? payload with
  | none => simp [orElse, Except.map]
  | some needle => simp [orElse, Except.map, eq_comm]

def spacedHex : List Char := "4D\u00A05a\t 9\u30000".toList

theorem hex_read_back_spaced :
    "--HeX".toList.map Char.toLower = "--hex".toList ∧
      parse (fun _ => .ok "") ⟨0, 0⟩ (.initial (.ofString "/")) (payloadLine "--HeX".toList spacedHex) =
        .ok (.leaf (.content [0x4D, 0x5A, 0x90] true), .initial (.ofString "/")) := by
  refine ⟨by decide, ?_⟩
  apply (hex_read_back.2.2.2 "--HeX".toList spacedHex (fun _ => .ok "") ⟨0, 0⟩ (.initial (.ofString "/")) _
    (by decide)).mpr
  exact ⟨[0x4D, 0x5A, 0x90], by decide, by decide, rfl⟩

end Modifier
end FileSieve
