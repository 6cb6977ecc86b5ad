import FileSieve.Criteria.GlobSyntax
import FileSieve.Proofs.Criteria.Rooted
import FileSieve.Proofs.Path.Components

/-! Globs that spell patterns. Reading one always succeeds, and what it reads as matches what the pattern's own glob
does. Beside double stars every character of the pattern becomes one token, in front of whatever follows; double stars
between separators take a token back, so the two are compared component by component. -/

namespace FileSieve

open GlobSyntax GlobToken Glob PathPattern

def GlobToken.ofChar (c : Char) : GlobToken :=
  if c = '*' then .many
  else if c = '?' then .one
  else if isBracket c then .oneOf false [(c, c)]
  else .literal c

theorem GlobToken.ofChar_ne_leading (c : Char) : ofChar c ≠ .leading := by
  rw [ofChar]
  split
  · exact GlobToken.noConfusion
  · split
    · exact GlobToken.noConfusion
    · split <;> exact GlobToken.noConfusion

namespace Glob

def pieces (text : List Char) : List Bytes := Bytes.split Path.separator (Utf8.encode text)

theorem pieces_separator (rest : List Char) : pieces ('/' :: rest) = [] :: pieces rest :=
  Bytes.split_separator Path.separator (Utf8.encode rest)

theorem separator_not_mem_encodeChar {c : Char} (inside : c ≠ '/') : Path.separator ∉ String.utf8EncodeChar c := by
  intro member
  exact inside (Utf8.eq_of_ascii_mem_encodeChar (by decide) member).symm

theorem isPlain_encodeChar {c : Char} (plain : isWildcard c = false) :
    ∀ byte ∈ String.utf8EncodeChar c, IsPlain byte := by
  have single := isPlain_of_not_wildcard [c] (by rwa [List.forall_mem_singleton])
  rwa [Utf8.encode_cons, Utf8.encode, List.flatMap_nil, List.append_nil] at single

theorem pieces_cons {c : Char} (inside : c ≠ '/') {rest : List Char} {piece : Bytes} {others : List Bytes}
    (tail : pieces rest = piece :: others) :
    pieces (c :: rest) = (String.utf8EncodeChar c ++ piece) :: others :=
  Bytes.split_plain_append (separator_not_mem_encodeChar inside) tail

theorem exists_pieces (text : List Char) : ∃ piece others, pieces text = piece :: others :=
  List.exists_cons_of_ne_nil (Bytes.split_ne_nil _ _)

def onwards (text : List Char) : Glob :=
  match pieces text with
  | [] => []
  | piece :: others => piece.map segment ++ afterComponent false others

theorem onwards_separator (rest : List Char) : onwards ('/' :: rest) = afterComponent false (pieces rest) := by
  rw [onwards, pieces_separator]
  rfl

theorem onwards_cons {c : Char} (inside : c ≠ '/') (rest : List Char) :
    onwards (c :: rest) = (String.utf8EncodeChar c).map segment ++ onwards rest := by
  obtain ⟨piece, others, tail⟩ := exists_pieces rest
  rw [onwards, onwards, pieces_cons inside tail, tail]
  simp only [List.map_append, List.append_assoc]

/-- Double stars that are a component of their own come first. -/
inductive Doubled : List Char → Prop where
  | last : Doubled ['*', '*']
  | before (rest : List Char) : Doubled ('*' :: '*' :: '/' :: rest)

theorem pieces_doubled (rest : List Char) : pieces ('*' :: '*' :: '/' :: rest) = doubleStar :: pieces rest :=
  pieces_cons (by decide) (pieces_cons (by decide) (pieces_separator rest))

theorem ended_of_pieces {text : List Char} {others : List Bytes} (first : pieces text = [] :: others) :
    text = [] ∨ ∃ rest, text = '/' :: rest := by
  cases text with
  | nil => exact .inl rfl
  | cons c rest =>
      right
      by_cases slash : c = '/'
      · exact ⟨rest, congrArg (· :: rest) slash⟩
      · obtain ⟨piece, further, tail⟩ := exists_pieces rest
        rw [pieces_cons slash tail] at first
        exact absurd (List.append_eq_nil_iff.mp (List.cons.inj first).1).1 (Utf8.encodeChar_ne_nil c)

theorem star_of_pieces {text : List Char} {piece : Bytes} {others : List Bytes}
    (first : pieces text = (0x2A :: piece) :: others) :
    ∃ rest, text = '*' :: rest ∧ pieces rest = piece :: others := by
  cases text with
  | nil => cases first
  | cons c rest =>
      have inside : c ≠ '/' := by
        intro slash
        rw [slash, pieces_separator] at first
        cases first
      obtain ⟨tail, further, split⟩ := exists_pieces rest
      rw [pieces_cons inside split, List.cons.injEq] at first
      obtain ⟨lead, following, encoded⟩ := List.exists_cons_of_ne_nil (Utf8.encodeChar_ne_nil c)
      rw [encoded, List.cons_append, List.cons.injEq] at first
      have member : 0x2A ∈ String.utf8EncodeChar c := by
        rw [encoded, first.1.1]
        exact List.mem_cons_self
      have star : '*' = c := Utf8.eq_of_ascii_mem_encodeChar (by decide) member
      subst star
      cases encoded
      refine ⟨rest, rfl, ?_⟩
      rw [split, first.2, ← first.1.2]
      rfl

theorem doubled_of_pieces {text : List Char} {others : List Bytes} (first : pieces text = doubleStar :: others) :
    Doubled text := by
  obtain ⟨behind, rfl, second⟩ := star_of_pieces first
  obtain ⟨rest, rfl, third⟩ := star_of_pieces second
  cases ended_of_pieces third with
  | inl ended =>
      subst ended
      exact .last
  | inr separated =>
      obtain ⟨further, rfl⟩ := separated
      exact .before further

variable {text : List Char} (single : ¬ Doubled text)

include single

theorem exists_pieces_single : ∃ piece others, pieces text = piece :: others ∧ piece ≠ doubleStar := by
  obtain ⟨piece, others, first⟩ := exists_pieces text
  refine ⟨piece, others, first, ?_⟩
  intro double
  rw [double] at first
  exact single (doubled_of_pieces first)

theorem afterComponent_single (starred : Bool) :
    afterComponent starred (pieces text) = (if starred then .middle else .byte Path.separator) :: onwards text := by
  obtain ⟨piece, others, first, other⟩ := exists_pieces_single single
  rw [onwards, first, afterComponent, if_neg other]
  rfl

theorem afterLeading_single (inhabited : text ≠ []) : afterLeading (pieces text) = .leading :: onwards text := by
  obtain ⟨piece, others, first, other⟩ := exists_pieces_single single
  have more : ¬ (piece = [] ∧ others = []) := by
    intro ended
    rw [ended.1, ended.2] at first
    cases ended_of_pieces first with
    | inl empty => exact inhabited empty
    | inr separated =>
        obtain ⟨rest, rfl⟩ := separated
        rw [pieces_separator, List.cons.injEq] at first
        exact Bytes.split_ne_nil _ _ first.2
  rw [onwards, first, afterLeading, if_neg other, if_neg more]
  rfl

theorem ofBytes_single : ofBytes (Utf8.encode text) = onwards text := by
  obtain ⟨piece, others, first, other⟩ := exists_pieces_single single
  have split : Bytes.split Path.separator (Utf8.encode text) = piece :: others := first
  rw [onwards, first, ofBytes, split]
  exact if_neg other

end Glob

namespace GlobSyntax

theorem escape_cons (c : Char) (rest : List Char) : escape (c :: rest) = escape [c] ++ escape rest := by
  rw [escape, escape, escape, List.flatMap_cons, List.flatMap_cons, List.flatMap_nil, List.append_nil]

theorem isBracket_cases {c : Char} (bracket : isBracket c = true) :
    c = '[' ∨ c = ']' ∨ c = '\x7b' ∨ c = '\x7d' := by
  simpa only [isBracket, Bool.or_eq_true, decide_eq_true_eq, or_assoc] using bracket

theorem head?_escape {c : Char} (plain : isBracket c = false) (rest : List Char) :
    (escape rest).head? = some c ↔ rest.head? = some c := by
  cases rest with
  | nil => rfl
  | cons head rest =>
      rw [escape_cons, escape, List.flatMap_cons]
      split
      next bracket =>
        constructor
        · intro opening
          cases opening
          cases plain
        · intro same
          rw [← Option.some.inj same, bracket] at plain
          cases plain
      next => rfl

theorem read_other {reading : Reading} {c : Char} {rest : List Char} (single : c = '*' → rest.head? ≠ some '*')
    (outside : c ≠ '[') :
    read reading (c :: rest) = match reading.step c with
      | .error failure => .error failure
      | .ok reading => read reading rest := by
  have alone (behind : List Char) (star : c = '*') (stars : rest = '*' :: behind) : False := by
    rw [stars] at single
    exact single star rfl
  exact (read.eq_5 reading c rest alone).trans (if_neg outside)

theorem read_set (reading : Reading) {c : Char} (affirmed : c ≠ '!' ∧ c ≠ '^') (rest : List Char) :
    read reading ('[' :: c :: ']' :: rest) = read (reading.push (.oneOf false [(c, c)])) rest := by
  have opened : ¬ (c = ']' && !OpenSet.empty.ranges.isEmpty) = true := by
    rw [OpenSet.empty, List.isEmpty_nil, Bool.not_true, Bool.and_false]
    decide
  have first : OpenSet.empty.step c = .ok ⟨false, [(c, c)], false⟩ := by
    simp only [OpenSet.empty, OpenSet.step, affirmed.1, affirmed.2, decide_false, Bool.or_self, Bool.and_false,
      Bool.false_eq_true, if_false]
  have entered : read reading ('[' :: c :: ']' :: rest) = readSet reading .empty (c :: ']' :: rest) := by
    rw [read, if_pos rfl]
    intro behind star
    exact absurd star (by decide)
  rw [entered, readSet, if_neg opened, first]
  dsimp only
  rw [readSet]
  exact if_pos rfl

theorem step_literal {c : Char} (plain : isBracket c = false) (tokens : List GlobToken) (behind : Bool) :
    Reading.step ⟨[], tokens, behind⟩ c = .ok ⟨[], ofChar c :: tokens, c = '/'⟩ := by
  unfold Reading.step
  split
  case h_1 => rfl
  case h_2 => rfl
  case h_3 => cases plain
  case h_4 => rfl
  case h_5 => cases plain
  case h_6 star mark _ _ _ =>
    rw [ofChar, if_neg star, if_neg mark, plain]
    rfl

theorem read_escape_cons (tokens : List GlobToken) (behind : Bool) {c : Char} {rest : List Char}
    (single : c = '*' → rest.head? ≠ some '*') :
    read ⟨[], tokens, behind⟩ (escape (c :: rest)) = read ⟨[], ofChar c :: tokens, c = '/'⟩ (escape rest) := by
  rw [escape_cons]
  cases bracket : isBracket c with
  | true => rcases isBracket_cases bracket with rfl | rfl | rfl | rfl <;> exact read_set _ (by decide) _
  | false =>
      have itself : escape [c] = [c] := by
        rw [escape, List.flatMap_cons, List.flatMap_nil, bracket]
        rfl
      have alone (star : c = '*') : (escape rest).head? ≠ some '*' :=
        fun second => single star ((head?_escape (by decide) rest).mp second)
      have outside : c ≠ '[' := by
        rintro rfl
        cases bracket
      rw [itself, List.singleton_append, read_other alone outside, step_literal bracket]

theorem read_stars_none {reading : Reading} {rest : List Char} (none : reading.doubleStar? rest.head? = none) :
    read reading ('*' :: '*' :: rest) = read ((reading.push .many).push .many) rest :=
  read.eq_2 reading rest none

theorem read_stars_separator {reading starred : Reading} {rest : List Char}
    (some : reading.doubleStar? (some '/') = some starred) :
    read reading ('*' :: '*' :: '/' :: rest) = read starred rest :=
  read.eq_3 reading starred rest some

theorem read_stars_last {reading starred : Reading} (some : reading.doubleStar? none = some starred) :
    read reading ['*', '*'] = starred.finish := by
  rw [read.eq_4 reading [] starred _ some]
  · rfl
  · intro rest separated
    cases separated

end GlobSyntax

namespace GlobToken

theorem fits_plain {bytes : Bytes} (plain : ∀ byte ∈ bytes, IsPlain byte) (glob : Glob) :
    bytes.foldr (fun byte => afterByte (Bytes.lowerByte · == Bytes.lowerByte byte)) (fits glob) =
      fits (bytes.map segment ++ glob) := by
  induction bytes with
  | nil => rfl
  | cons byte bytes ih =>
      obtain ⟨first, others⟩ := List.forall_mem_cons.mp plain
      rw [List.foldr_cons, ih others, List.map_cons, segment_plain byte first]
      rfl

theorem holds_bracket {c : Char} (bracket : isBracket c = true) (byte : UInt8) :
    holds [(c, c)] byte = (Bytes.lowerByte byte == Bytes.lowerByte (UInt8.ofNat c.toNat)) := by
  have single (ascii : c.toNat < 0x80) : holds [(c, c)] byte = true ↔
      byte = UInt8.ofNat c.toNat ∨ otherCase byte = UInt8.ofNat c.toNat := by
    simp only [holds, byteRanges, Utf8.encodeChar_ascii c ascii, List.flatMap_cons, List.flatMap_nil, List.map_cons,
      List.map_nil, List.append_nil, if_true, List.any_cons, List.any_nil, Bool.or_false, Bool.or_eq_true,
      Bool.and_eq_true, decide_eq_true_eq]
    grind
  have cases_unlettered (mark : UInt8) (unlettered : mark = 0x5B ∨ mark = 0x5D ∨ mark = 0x7B ∨ mark = 0x7D) :
      (byte = mark ∨ otherCase byte = mark) ↔ Bytes.lowerByte byte = Bytes.lowerByte mark := by
    rw [otherCase, Bytes.lowerByte, Bytes.lowerByte]
    rcases unlettered with rfl | rfl | rfl | rfl <;> grind
  rw [Bool.eq_iff_iff, beq_iff_eq]
  rcases isBracket_cases bracket with rfl | rfl | rfl | rfl <;>
    exact (single (by decide)).trans (cases_unlettered _ (by decide))

theorem starts_bracket {c : Char} (bracket : isBracket c = true) (test : Bytes → Bool) :
    (oneOf false [(c, c)]).starts test =
      afterByte (Bytes.lowerByte · == Bytes.lowerByte (UInt8.ofNat c.toNat)) test := by
  rw [starts]
  congr 1
  funext byte
  rw [holds_bracket bracket, Bool.false_bne]

theorem starts_ofChar (c : Char) (glob : Glob) :
    (ofChar c).starts (fits glob) = fits ((String.utf8EncodeChar c).map segment ++ glob) := by
  by_cases star : c = '*'
  · subst star
    rfl
  by_cases mark : c = '?'
  · subst mark
    rfl
  have plain : isWildcard c = false := by
    rw [isWildcard, decide_eq_false star, decide_eq_false mark]
    rfl
  rw [← fits_plain (isPlain_encodeChar plain), ofChar, if_neg star, if_neg mark]
  split
  next bracket =>
    have ascii : c.toNat < 0x80 := by
      rcases isBracket_cases bracket with rfl | rfl | rfl | rfl <;> decide
    rw [Utf8.encodeChar_ascii c ascii]
    exact starts_bracket bracket (fits glob)
  next => rw [starts]

end GlobToken

namespace GlobSyntax

theorem finish_closed {tokens : List GlobToken} (more : tokens ≠ [.leading]) (behind : Bool) :
    Reading.finish ⟨[], tokens, behind⟩ = .ok tokens.reverse := by
  unfold Reading.finish
  split
  next only => exact absurd only more
  next => rfl
  next opened => cases opened

theorem doubleStar?_none {tokens : List GlobToken} {behind : Bool} {rest : List Char}
    (single : ¬ Doubled ('*' :: '*' :: rest) ∨ (tokens ≠ [] ∧ behind = false)) :
    Reading.doubleStar? ⟨[], tokens, behind⟩ (escape rest).head? = none := by
  cases single with
  | inr inside =>
      obtain ⟨last, before, rfl⟩ := List.exists_cons_of_ne_nil inside.1
      rw [inside.2]
      rfl
  | inl single =>
      have more : (escape rest).head? ≠ none := by
        intro ended
        cases rest with
        | nil => exact single .last
        | cons c rest =>
            rw [List.head?_eq_none_iff, escape, List.flatMap_cons] at ended
            split at ended <;> cases ended
      have other : (escape rest).head? ≠ some '/' := by
        intro separator
        obtain ⟨further, rfl⟩ := List.head?_eq_some_iff.mp ((head?_escape (by decide) rest).mp separator)
        exact single (.before further)
      cases tokens with
      | nil => exact if_neg (not_or.mpr ⟨more, other⟩)
      | cons last before =>
          simp only [Reading.doubleStar?, more, other, if_false, ne_eq, not_true_eq_false, false_and, or_self, ite_self]

/-- The rest of a text adds tokens to those before it, and the added ones match what a glob does. -/
def Completes (reading : Reading) (before : List GlobToken) (rest : List Char) (glob : Glob) : Prop :=
  ∃ more, read reading (escape rest) = .ok (before.reverse ++ more) ∧ startsAll List.isEmpty more = fits glob

theorem Completes.joined {reading : Reading} {before : List GlobToken} {token : GlobToken} {rest : List Char}
    {glob further : Glob} (completes : Completes reading (token :: before) rest glob)
    (stands : token.starts (fits glob) = fits further) : Completes reading before rest further := by
  obtain ⟨more, succeeds, same⟩ := completes
  refine ⟨token :: more, ?_, ?_⟩
  · rw [succeeds, List.reverse_cons, List.append_assoc]
    rfl
  · rw [startsAll, same, stands]

theorem Completes.of_read {reading other : Reading} {before : List GlobToken} {rest text : List Char} {glob : Glob}
    (completes : Completes other before rest glob) (same : read reading (escape text) = read other (escape rest)) :
    Completes reading before text glob := by
  rw [Completes, same]
  exact completes

def behindSeparator (starred : Bool) (before : List GlobToken) : Reading :=
  ⟨[], (if starred then .middle else .literal '/') :: before, true⟩

theorem behindSeparator_last (starred : Bool) (before : List GlobToken) :
    (behindSeparator starred before).doubleStar? none = some ⟨[], .trailing :: before, false⟩ := by
  cases starred <;> rfl

theorem behindSeparator_separator (starred : Bool) (before : List GlobToken) :
    (behindSeparator starred before).doubleStar? (some '/') = some (behindSeparator true before) := by
  cases starred <;> rfl

-- The induction is on the characters left. Leading double stars with nothing behind them are finished in a way of their
-- own, so `more` keeps them out here; `single` keeps out double stars that would take the last token back.
mutual

theorem component_completes (rest : List Char) (tokens : List GlobToken) (behind : Bool)
    (more : tokens ≠ [.leading] ∨ rest ≠ []) (single : ¬ Doubled rest ∨ (tokens ≠ [] ∧ behind = false)) :
    Completes ⟨[], tokens, behind⟩ tokens rest (onwards rest) := by
  cases rest with
  | nil =>
      refine ⟨[], ?_, rfl⟩
      rw [escape, List.flatMap_nil, read, List.append_nil]
      exact finish_closed (more.resolve_right (absurd rfl)) behind
  | cons c rest =>
      by_cases stars : c = '*' ∧ rest.head? = some '*'
      · obtain ⟨rfl, second⟩ := stars
        obtain ⟨rest, rfl⟩ := List.head?_eq_some_iff.mp second
        have further : Completes ⟨[], .many :: .many :: tokens, false⟩ (.many :: .many :: tokens) rest
            (onwards rest) :=
          component_completes rest _ false (.inl (by simp)) (.inr (by simp))
        have one : Completes ⟨[], .many :: .many :: tokens, false⟩ (.many :: tokens) rest (.many :: onwards rest) :=
          further.joined rfl
        rw [onwards_cons (by decide), onwards_cons (by decide)]
        exact (one.joined rfl).of_read (read_stars_none (doubleStar?_none single))
      · have alone (star : c = '*') : rest.head? ≠ some '*' := fun second => stars ⟨star, second⟩
        by_cases slash : c = '/'
        · subst slash
          rw [onwards_separator]
          exact (separator_completes rest false tokens).of_read (read_escape_cons tokens behind alone)
        · have further : Completes ⟨[], ofChar c :: tokens, c = '/'⟩ (ofChar c :: tokens) rest (onwards rest) :=
            component_completes rest _ _ (.inl (by simp [ofChar_ne_leading])) (.inr ⟨by simp, decide_eq_false slash⟩)
          rw [onwards_cons slash]
          exact (further.joined (starts_ofChar c _)).of_read (read_escape_cons tokens behind alone)
termination_by (rest.length, 0)

theorem separator_completes (rest : List Char) (starred : Bool) (before : List GlobToken) :
    Completes (behindSeparator starred before) before rest (afterComponent starred (pieces rest)) := by
  -- Double stars change the last token only, so what stands before it is the same in every case.
  by_cases doubled : Doubled rest
  · cases doubled with
    | last =>
        have closed : GlobToken.trailing :: before ≠ [.leading] := by simp
        refine ⟨[.trailing], ?_, rfl⟩
        rw [← List.reverse_cons, ← finish_closed closed false]
        exact read_stars_last (behindSeparator_last starred before)
    | before rest =>
        rw [pieces_doubled, afterComponent, if_pos rfl]
        exact (separator_completes rest true before).of_read
          (read_stars_separator (behindSeparator_separator starred before))
  · rw [afterComponent_single doubled]
    cases starred with
    | true => exact (component_completes rest (.middle :: before) true (.inl (by simp)) (.inl doubled)).joined rfl
    | false =>
        exact (component_completes rest (.literal '/' :: before) true (.inl (by simp)) (.inl doubled)).joined rfl
termination_by (rest.length, 1)

end

theorem leading_completes (rest : List Char) :
    Completes ⟨[], [.leading], true⟩ [] rest (afterLeading (pieces rest)) := by
  by_cases doubled : Doubled rest
  · cases doubled with
    | last => exact ⟨[.many], rfl, rfl⟩
    | before rest =>
        rw [pieces_doubled, afterLeading, if_pos rfl]
        exact (leading_completes rest).of_read (read_stars_separator rfl)
  · by_cases ended : rest = []
    · subst ended
      exact ⟨[.many], rfl, rfl⟩
    · rw [afterLeading_single doubled ended]
      exact (component_completes rest [.leading] true (.inr ended) (.inl doubled)).joined rfl
termination_by rest.length

theorem text_completes (text : List Char) : Completes .empty [] text (ofBytes (Utf8.encode text)) := by
  by_cases doubled : Doubled text
  · cases doubled with
    | last => exact ⟨[.many], rfl, rfl⟩
    | before rest =>
        have first : Bytes.split Path.separator (Utf8.encode ('*' :: '*' :: '/' :: rest)) = doubleStar :: pieces rest :=
          pieces_doubled rest
        rw [ofBytes, first]
        exact (leading_completes rest).of_read (read_stars_separator rfl)
  · rw [ofBytes_single doubled]
    exact component_completes text [] false (.inl (by simp)) (.inl doubled)

/-- A text that is spelled in a glob is always read, and it matches what the text's own glob does. -/
theorem parse_escape (text : List Char) :
    ∃ tokens, parse (escape text) = .ok tokens ∧
      ∀ candidate, accept tokens candidate = (ofBytes (Utf8.encode text)).accepts candidate := by
  obtain ⟨tokens, succeeds, same⟩ := text_completes text
  refine ⟨tokens, succeeds, ?_⟩
  intro candidate
  rw [accept, same, accepts_eq_fits]

end GlobSyntax

end FileSieve
