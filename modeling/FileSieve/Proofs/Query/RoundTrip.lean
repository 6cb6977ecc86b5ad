import FileSieve.Proofs.Query.Spelling
import FileSieve.Proofs.Text.Ascii

/-! Written tokens. Structural words are written as they are spelled, patterns in quotes, and payloads between
hashes with every hash of their own doubled. Whatever blanks come between them, the lexer reads the tokens
back. -/

namespace FileSieve

/-- A payload as it stands between its hashes. -/
def doubled (payload : List Char) : List Char :=
  payload.flatMap fun c => if c = '#' then ['#', '#'] else [c]

namespace Keyword

def word : Keyword → List Char
  | openBrace => ['{']
  | closeBrace => ['}']
  | and => ['A', 'N', 'D']
  | or => ['O', 'R']
  | xor => ['X', 'O', 'R']
  | not => ['N', 'O', 'T']
  | ifWord => ['I', 'F']
  | elseWord => ['E', 'L', 'S', 'E']

theorem ofText?_of_upper (kind : Keyword) (text : List Char) (upper : text.map Char.toUpper = kind.word) :
    ofText? text = some kind := by
  rw [ofText?, upper]
  cases kind <;> rfl

end Keyword

namespace Token

/-- Tokens that can be written: structural words spell their own word in any letter case, patterns hold no
quote, and lexemes of modifiers start with a dash and hold neither blanks nor hashes. -/
def isWritable : Token → Bool
  | keyword kind spelling => spelling.toList.map Char.toUpper == kind.word
  | pattern text => !text.toList.contains '"'
  | modifier lexeme _ => Lexer.isModifier lexeme.toList
  | finish => false

def written : Token → List Char
  | keyword _ spelling => spelling.toList
  | pattern text => '"' :: text.toList ++ ['"']
  | modifier lexeme none => lexeme.toList
  | modifier lexeme (some payload) => lexeme.toList ++ '#' :: doubled payload.toList ++ ['#']
  | finish => []

end Token

def isInner (c : Char) : Bool := !isBlank c && c != '"' && c != '-'

theorem isLower_iff (c : Char) : c.isLower = true ↔ c.val ≥ 'a'.val ∧ c.val ≤ 'z'.val := by
  have bounds : c.isLower = (decide (c.val ≥ 'a'.val) && decide (c.val ≤ 'z'.val)) := rfl
  rw [bounds, Bool.and_eq_true, decide_eq_true_iff, decide_eq_true_iff]

theorem isInner_of_isLower (c : Char) (lower : c.isLower = true) : isInner c = true := by
  have ascii : c.toNat < 0x80 := by
    have bound : c.val.toNat ≤ 0x7A := UInt32.le_iff_toNat_le.mp ((isLower_iff c).mp lower).2
    have value : c.toNat = c.val.toNat := rfl
    omega
  revert lower
  apply Ascii.of_codes c ascii
  decide

theorem isInner_of_toUpper (c : Char) (inner : isInner c.toUpper = true) : isInner c = true := by
  by_cases lower : c.isLower = true
  · exact isInner_of_isLower c lower
  · have same : c.toUpper = c := by
      rw [isLower_iff] at lower
      exact dif_neg lower
    rwa [same] at inner

namespace Lexer

theorem isWord_of_inner (text : List Char) (inhabited : text ≠ [])
    (inner : ∀ c ∈ text, isInner c = true) : isWord text = true := by
  cases text with
  | nil => exact absurd rfl inhabited
  | cons first text =>
      simp only [isInner, Bool.and_eq_true] at inner
      simp only [isWord, Bool.and_eq_true, List.all_eq_true]
      exact ⟨(inner first List.mem_cons_self).2, fun c member => (inner c member).1⟩

theorem isWord_of_upper (kind : Keyword) (text : List Char) (upper : text.map Char.toUpper = kind.word) :
    isWord text = true := by
  have inhabited : kind.word ≠ [] := by cases kind <;> decide
  have whole : kind.word.all isInner = true := by cases kind <;> decide
  have inner := List.all_eq_true.mp whole
  rw [← upper] at inhabited inner
  apply isWord_of_inner text
  · rintro rfl
    exact inhabited rfl
  · intro c member
    exact isInner_of_toUpper c (inner _ (List.mem_map_of_mem member))

theorem read_quote (text : List Char) (plain : '"' ∉ text) (before opening rest : List Char) :
    read (.quote before opening) (text ++ '"' :: rest) = read (.word (before ++ text) true) rest := by
  induction text generalizing before with
  | nil => simp [read, step]
  | cons c text ih =>
      simp only [List.mem_cons, not_or] at plain
      obtain ⟨quote, others⟩ := plain
      have moves : step c (text ++ '"' :: rest) (.quote before opening) =
          (.quote (before ++ [c]) opening, none) := by
        simp only [step, Ne.symm quote, if_false]
      rw [List.cons_append, read, moves]
      have read := ih others (before ++ [c])
      rwa [List.append_assoc] at read

theorem yields_quoted (text : List Char) (plain : '"' ∉ text) :
    Yields ('"' :: text ++ ['"']) (.pattern (String.ofList text)) := by
  intro rest ends
  calc
    read .between ('"' :: text ++ ['"'] ++ rest)
        = read (.quote [] ('"' :: text ++ ['"'] ++ rest)) (text ++ '"' :: rest) := by
      simp [read, step, start, isBlank]
    _ = read (.word text true) rest := read_quote text plain [] _ rest
    _ = _ := read_word_ended text true rest ends

theorem read_payload (payload : List Char) (lexeme before opening rest : List Char) :
    read (.payload lexeme before opening) (doubled payload ++ rest) =
      read (.payload lexeme (before ++ payload) opening) rest := by
  induction payload generalizing before with
  | nil => simp [doubled]
  | cons c payload ih =>
      have next := ih (before ++ [c])
      rw [List.append_assoc, List.singleton_append] at next
      rw [← next]
      by_cases hash : c = '#'
      · simp [doubled, hash, read, step]
      · simp [doubled, hash, read, step]

theorem read_payload_closed (lexeme text opening rest : List Char) (ends : Ends rest) :
    read (.payload lexeme text opening) ('#' :: rest) =
      (read .between rest).map (modifierToken lexeme (some text) :: ·) := by
  have closed (c : Char) (rest : List Char) (blank : isBlank c = true) :
      step c rest (.hash lexeme text opening) =
        (.between, some (modifierToken lexeme (some text))) := by
    have other : c ≠ '#' := by
      rintro rfl
      exact absurd blank (by decide)
    simp only [step, start, other, blank, if_false, if_true]
  have moves : step '#' rest (.payload lexeme text opening) = (.hash lexeme text opening, none) := rfl
  rw [read, moves]
  exact read_ended _ _ rfl closed rest ends

theorem yields_payload (lexeme payload : List Char) (modifier : isModifier lexeme = true) :
    Yields (lexeme ++ '#' :: doubled payload ++ ['#']) (modifierToken lexeme (some payload)) := by
  intro rest ends
  let opening := '#' :: (doubled payload ++ '#' :: rest)
  calc
    read .between (lexeme ++ '#' :: doubled payload ++ ['#'] ++ rest)
        = read (.modifier lexeme) opening := by
      have read := read_lexeme lexeme modifier opening
      rwa [show lexeme ++ opening = lexeme ++ '#' :: doubled payload ++ ['#'] ++ rest by
        simp [opening]] at read
    _ = read (.payload lexeme [] opening) (doubled payload ++ '#' :: rest) := by
      simp [opening, read, step, isBlank]
    _ = read (.payload lexeme payload opening) ('#' :: rest) := read_payload payload lexeme [] opening _
    _ = _ := read_payload_closed lexeme payload opening rest ends

end Lexer

theorem Token.yields_written (token : Token) (writable : token.isWritable = true) :
    Lexer.Yields token.written token := by
  cases token with
  | keyword kind spelling =>
      have upper := beq_iff_eq.mp writable
      have known := Keyword.ofText?_of_upper kind _ upper
      have yields := Lexer.yields_word _ (Lexer.isWord_of_upper kind _ upper)
      simp only [ofWord, Bool.false_eq_true, if_false, known, String.ofList_toList] at yields
      exact yields
  | pattern text =>
      have plain : '"' ∉ text.toList := by simpa [isWritable] using writable
      have yields := Lexer.yields_quoted text.toList plain
      rwa [String.ofList_toList] at yields
  | modifier lexeme payload =>
      cases payload with
      | none =>
          have yields := Lexer.yields_modifier lexeme.toList writable
          simp only [Lexer.modifierToken, String.ofList_toList, Option.map_none] at yields
          exact yields
      | some payload =>
          have yields := Lexer.yields_payload lexeme.toList payload.toList writable
          simp only [Lexer.modifierToken, String.ofList_toList, Option.map_some] at yields
          exact yields
  | finish => cases writable

/-- A line of tokens, each with the blanks that come behind it. -/
def writtenLine (line : List (Token × List Char)) : List Char :=
  line.flatMap fun part => part.1.written ++ part.2

theorem Lexer.read_written (line : List (Token × List Char))
    (writable : ∀ part ∈ line, part.1.isWritable = true)
    (blank : ∀ part ∈ line, ∀ c ∈ part.2, isBlank c = true)
    (apart : ∀ part ∈ line.dropLast, part.2 ≠ []) :
    read .between (writtenLine line) = .ok (line.map Prod.fst) := by
  induction line with
  | nil => rfl
  | cons part line ih =>
      obtain ⟨token, gap⟩ := part
      obtain ⟨first, others⟩ := List.forall_mem_cons.mp writable
      obtain ⟨gapBlank, othersBlank⟩ := List.forall_mem_cons.mp blank
      -- A token ends at a blank: the first one of its gap, or no character at all behind the last token.
      have ends : Ends (gap ++ writtenLine line) := by
        intro c head
        cases gap with
        | cons b gap =>
            cases head
            exact gapBlank _ List.mem_cons_self
        | nil =>
            cases line with
            | nil => cases head
            | cons next line => exact absurd rfl (apart (token, []) List.mem_cons_self)
      have behind : ∀ part ∈ line.dropLast, part.2 ≠ [] := by
        intro part member
        apply apart part
        cases line with
        | nil => cases member
        | cons next line => exact List.mem_cons_of_mem _ member
      calc
        read .between (writtenLine ((token, gap) :: line))
            = read .between (token.written ++ (gap ++ writtenLine line)) := by
          rw [writtenLine, List.flatMap_cons, List.append_assoc, writtenLine]
        _ = (read .between (gap ++ writtenLine line)).map (token :: ·) :=
          token.yields_written first _ ends
        _ = (.ok (line.map Prod.fst) : Except Unclosed (List Token)).map (token :: ·) := by
          rw [read_blanks gap _ gapBlank, ih others othersBlank behind]
        _ = .ok (((token, gap) :: line).map Prod.fst) := rfl

/-- Tokens that are written with blanks in front, behind and, at least one, between them are read back. -/
theorem tokenizeFragment_written (lead : List Char) (line : List (Token × List Char))
    (writable : ∀ part ∈ line, part.1.isWritable = true)
    (leads : ∀ c ∈ lead, isBlank c = true)
    (blank : ∀ part ∈ line, ∀ c ∈ part.2, isBlank c = true)
    (apart : ∀ part ∈ line.dropLast, part.2 ≠ []) :
    tokenizeFragment (String.ofList (lead ++ writtenLine line)) = .ok (line.map Prod.fst) := by
  have read := Lexer.read_written line writable blank apart
  rw [← Lexer.read_blanks lead _ leads] at read
  rw [tokenizeFragment, String.toList_ofList, read]
  rfl

def mixedLine : List (Token × List Char) :=
  [(.modifier "--contains" (some "##a \"b #"), [' ', '\t']), (.keyword .elseWord "eLsE", ['\n']),
    (.pattern "-tD {AND} #", [])]

theorem tokenizeFragment_mixedLine :
    tokenizeFragment (String.ofList ([' '] ++ writtenLine mixedLine)) =
      .ok [.modifier "--contains" (some "##a \"b #"), .keyword .elseWord "eLsE",
        .pattern "-tD {AND} #"] := by
  have writable : (mixedLine.all fun part => part.1.isWritable) = true := by decide
  have leads : [' '].all isBlank = true := by decide
  have blank : (mixedLine.all fun part => part.2.all isBlank) = true := by decide
  have apart : (mixedLine.dropLast.all fun part => !part.2.isEmpty) = true := by decide
  simp only [List.all_eq_true, Bool.not_eq_true', List.isEmpty_eq_false_iff] at writable leads blank apart
  exact tokenizeFragment_written [' '] mixedLine writable leads blank apart

end FileSieve
