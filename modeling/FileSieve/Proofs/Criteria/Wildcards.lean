import FileSieve.Proofs.Criteria.Glob
import FileSieve.Proofs.Criteria.GlobSyntax

/-! Wildcards are all that is special in a pattern. Every pattern is compiled, whatever its text and the base directory
are. Without double stars it matches by a relation between characters and bytes, in which brackets, braces and the other
marks of globs are characters like any other. -/

namespace FileSieve

open GlobSyntax Glob PathPattern

/-- The bytes that a text with wildcards stands for: a star for any, a question mark for one, any other character for
its own up to the case of ASCII letters. -/
inductive Wild : List Char → Bytes → Prop where
  | done : Wild [] []
  | star (front : Bytes) {rest : List Char} {bytes : Bytes} (behind : Wild rest bytes) :
      Wild ('*' :: rest) (front ++ bytes)
  | mark (byte : UInt8) {rest : List Char} {bytes : Bytes} (behind : Wild rest bytes) :
      Wild ('?' :: rest) (byte :: bytes)
  | own {c : Char} {front : Bytes} {rest : List Char} {bytes : Bytes} (plain : isWildcard c = false)
      (same : front.map Bytes.lowerByte = (String.utf8EncodeChar c).map Bytes.lowerByte) (behind : Wild rest bytes) :
      Wild (c :: rest) (front ++ bytes)

namespace Wild

theorem nil_iff (bytes : Bytes) : Wild [] bytes ↔ bytes = [] := by
  constructor
  · intro wild
    cases wild
    rfl
  · intro empty
    rw [empty]
    exact .done

theorem star_iff (rest : List Char) (bytes : Bytes) :
    Wild ('*' :: rest) bytes ↔ ∃ front back, bytes = front ++ back ∧ Wild rest back := by
  constructor
  · intro wild
    cases wild with
    | star front behind => exact ⟨front, _, rfl, behind⟩
    | own plain same behind => cases plain
  · intro found
    obtain ⟨front, back, split, behind⟩ := found
    rw [split]
    exact .star front behind

theorem mark_iff (rest : List Char) (bytes : Bytes) :
    Wild ('?' :: rest) bytes ↔ ∃ byte back, bytes = byte :: back ∧ Wild rest back := by
  constructor
  · intro wild
    cases wild with
    | mark byte behind => exact ⟨byte, _, rfl, behind⟩
    | own plain same behind => cases plain
  · intro found
    obtain ⟨byte, back, split, behind⟩ := found
    rw [split]
    exact .mark byte behind

theorem own_iff {c : Char} (plain : isWildcard c = false) (rest : List Char) (bytes : Bytes) :
    Wild (c :: rest) bytes ↔
      ∃ front back, bytes = front ++ back ∧
        front.map Bytes.lowerByte = (String.utf8EncodeChar c).map Bytes.lowerByte ∧ Wild rest back := by
  constructor
  · intro wild
    cases wild with
    | star front behind => cases plain
    | mark byte behind => cases plain
    | own plain same behind => exact ⟨_, _, rfl, same, behind⟩
  · intro found
    obtain ⟨front, back, split, same, behind⟩ := found
    rw [split]
    exact .own plain same behind

end Wild

namespace Glob

theorem fits_many_iff (glob : Glob) (text : Bytes) :
    fits (.many :: glob) text = true ↔ ∃ front back, text = front ++ back ∧ fits glob back = true :=
  anyEnd_iff (fits glob) text

theorem fits_one_iff (glob : Glob) (text : Bytes) :
    fits (.one :: glob) text = true ↔ ∃ byte back, text = byte :: back ∧ fits glob back = true := by
  constructor
  · intro fit
    cases text with
    | nil => cases fit
    | cons byte back => exact ⟨byte, back, rfl, fit⟩
  · intro found
    obtain ⟨byte, back, split, fit⟩ := found
    rw [split]
    exact fit

theorem fits_plain_iff {bytes : Bytes} (plain : ∀ byte ∈ bytes, IsPlain byte) (glob : Glob) (text : Bytes) :
    fits (bytes.map segment ++ glob) text = true ↔
      ∃ front back, text = front ++ back ∧ front.map Bytes.lowerByte = bytes.map Bytes.lowerByte ∧
        fits glob back = true := by
  induction bytes generalizing text with
  | nil =>
      constructor
      · intro fit
        exact ⟨[], text, rfl, rfl, fit⟩
      · intro found
        obtain ⟨front, back, split, same, fit⟩ := found
        rw [List.map_nil, List.map_eq_nil_iff] at same
        rw [split, same]
        exact fit
  | cons byte bytes ih =>
      obtain ⟨first, others⟩ := List.forall_mem_cons.mp plain
      rw [List.map_cons, segment_plain byte first, List.cons_append]
      constructor
      · intro fit
        obtain ⟨lead, behind, split, lowered, fit⟩ := fits_byte _ _ text fit
        obtain ⟨front, back, further, same, fit⟩ := (ih others behind).mp fit
        refine ⟨lead :: front, back, ?_, ?_, fit⟩
        · rw [split, further, List.cons_append]
        · rw [List.map_cons, List.map_cons, lowered, same]
      · intro found
        obtain ⟨front, back, split, same, fit⟩ := found
        cases front with
        | nil => cases same
        | cons lead front =>
            rw [List.map_cons, List.map_cons, List.cons.injEq] at same
            have further := (ih others (front ++ back)).mpr ⟨front, back, rfl, same.2, fit⟩
            rw [split, List.cons_append, fits, startedBy, afterByte_cons, further, same.1, beq_self_eq_true]
            rfl

theorem fits_iff_wild (text : List Char) (bytes : Bytes) :
    fits ((Utf8.encode text).map segment) bytes = true ↔ Wild text bytes := by
  induction text generalizing bytes with
  | nil => exact List.isEmpty_iff.trans (Wild.nil_iff bytes).symm
  | cons c rest ih =>
      rw [Utf8.encode_cons, List.map_append]
      by_cases plain : isWildcard c = false
      · rw [fits_plain_iff (isPlain_encodeChar plain), Wild.own_iff plain]
        simp only [ih]
      rw [isWildcard, Bool.not_eq_false, Bool.or_eq_true, decide_eq_true_eq, decide_eq_true_eq] at plain
      cases plain with
      | inl star =>
          subst star
          refine (fits_many_iff ((Utf8.encode rest).map segment) bytes).trans ?_
          simp only [Wild.star_iff, ih]
      | inr mark =>
          subst mark
          refine (fits_one_iff ((Utf8.encode rest).map segment) bytes).trans ?_
          simp only [Wild.mark_iff, ih]

theorem not_doubled {text : List Char} (single : ¬ ['*', '*'] <:+: text) : ¬ Doubled text := by
  intro doubled
  cases doubled with
  | last => exact single (List.infix_refl _)
  | before rest => exact single (List.prefix_append ['*', '*'] ('/' :: rest)).isInfix

theorem onwards_eq_map {text : List Char} (single : ¬ ['*', '*'] <:+: text) :
    onwards text = (Utf8.encode text).map segment := by
  induction text with
  | nil => rfl
  | cons c rest ih =>
      have behind : ¬ ['*', '*'] <:+: rest := fun inside => single (inside.trans (List.suffix_cons c rest).isInfix)
      rw [Utf8.encode_cons, List.map_append, ← ih behind]
      by_cases slash : c = '/'
      · subst slash
        rw [onwards_separator, afterComponent_single (not_doubled behind)]
        rfl
      · exact onwards_cons slash rest

end Glob

namespace GlobSyntax

theorem infix_escape {text : List Char} (double : ['*', '*'] <:+: text) : ['*', '*'] <:+: escape text := by
  obtain ⟨front, back, split⟩ := double
  refine ⟨escape front, escape back, ?_⟩
  rw [← split, escape, escape, escape, List.flatMap_append, List.flatMap_append]
  rfl

end GlobSyntax

namespace PathPattern

theorem matches_eq (pattern : PathPattern) (path : Path) :
    pattern.matches path = (candidate? pattern.wholePath path).any pattern.glob.accepts := by
  rw [PathPattern.matches, candidate?]
  split
  · rfl
  · cases path.fileName? <;> rfl

/-- The marks of wildcards are all that is special in a pattern. It is always compiled and then matches as its own glob
does, and without double stars it matches what its text stands for. -/
theorem wildcards_alone_special (text : String) (base : Path) :
    ∃ compiled, compile? text base = .ok compiled ∧
      (∀ path, compiled.matches path = (ofText text base).matches path) ∧
      (∀ path, '/' ∉ PathText.normalize text.toList → path.fileName? = none → compiled.matches path = false) ∧
      (¬ ['*', '*'] <:+: escape (target text base) →
        ∀ path, compiled.matches path = true ↔
          ∃ candidate, candidate? ((PathText.normalize text.toList).contains '/') path = some candidate ∧
            Wild (target text base) candidate) := by
  obtain ⟨tokens, succeeds, same⟩ := parse_escape (target text base)
  let compiled : CompiledPattern := ⟨tokens, (PathText.normalize text.toList).contains '/'⟩
  refine ⟨compiled, ?_, ?_, ?_, ?_⟩
  · rw [compile?, succeeds]
  · intro path
    rw [matches_eq, CompiledPattern.matches, funext same]
    rfl
  · intro path separatorFree nameless
    have wholePath : compiled.wholePath = false := by
      rw [← Bool.not_eq_true]
      exact fun whole => separatorFree (List.contains_iff_mem.mp whole)
    rw [CompiledPattern.matches, wholePath, candidate?, nameless]
    rfl
  · intro single path
    have alone : ¬ ['*', '*'] <:+: target text base := fun double => single (infix_escape double)
    have wild (candidate : Bytes) : GlobToken.accept tokens candidate = true ↔ Wild (target text base) candidate := by
      rw [same, accepts_eq_fits, ofBytes_single (not_doubled alone), onwards_eq_map alone, fits_iff_wild]
    rw [CompiledPattern.matches, Option.any_eq_true]
    exact exists_congr fun candidate => and_congr_right fun _ => wild candidate

theorem wildcards_alone_special_brackets :
    ∃ compiled, compile? "[draft]*.doc" (.ofString "/base") = .ok compiled ∧
      compiled.matches (.ofString "/x/d notes.doc") = false ∧
      ∃ candidate, candidate? false (.ofString "/x/[Draft] notes.doc") = some candidate ∧
        Wild "[draft]*.doc".toList candidate := by
  obtain ⟨compiled, succeeds, same, nameless, wild⟩ := wildcards_alone_special "[draft]*.doc" (.ofString "/base")
  -- The search through all infixes is too long for the elaborator.
  have single : ¬ ['*', '*'] <:+: escape (target "[draft]*.doc" (.ofString "/base")) := by decide +kernel
  have matched : compiled.matches (.ofString "/x/[Draft] notes.doc") = true := by
    rw [same]
    decide
  refine ⟨compiled, succeeds, ?_, (wild single _).mp matched⟩
  rw [same]
  decide

end PathPattern

end FileSieve
