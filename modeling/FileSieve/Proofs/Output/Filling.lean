import FileSieve.Output.Template
import Mathlib.Tactic.ByContra
import Mathlib.Tactic.SplitIfs

/-! Filling in templates. A placeholder is the name of a field between braces. Rendering fills in those that stand
behind no open brace and copies all else. So a template is filled in completely if no brace is left open in front of a
placeholder; where one is, the placeholder is taken for the end of a name that is no field, and copied. -/

namespace FileSieve

theorem TemplatePiece.written_braced (name : List Char) : (braced name).written = '\x7b' :: name ++ ['\x7d'] := rfl

namespace TemplateField

theorem eq_toList_of_ofList {name : List Char} {text : String} (same : String.ofList name = text) :
    name = text.toList := by
  rw [← same, String.toList_ofList]

theorem braceless_of_ofName? {name : List Char} {field : TemplateField} (known : ofName? name = some field) :
    '\x7b' ∉ name ∧ '\x7d' ∉ name := by
  unfold ofName? at known
  split at known
  case h_10 =>
    rcases Option.map_eq_some_iff.mp known with ⟨algorithm, found, -⟩
    have raised : algorithm.name.toList = name.map Char.toUpper := by
      simpa using List.find?_some found
    have brace (c : Char) (steady : c.toUpper = c) (member : c ∈ name) : c ∈ algorithm.name.toList := by
      rw [raised, ← steady]
      exact List.mem_map_of_mem member
    constructor
    · intro member
      have among := brace _ rfl member
      cases algorithm <;> revert among <;> decide
    · intro member
      have among := brace _ rfl member
      cases algorithm <;> revert among <;> decide
  all_goals
    rename_i same
    rw [eq_toList_of_ofList same]
    decide

end TemplateField

namespace Template

open TemplateField (ofName?)

/-- The placeholder that the text starts with, by its name and field, and what follows it. -/
def leading? : List Char → Option (List Char × TemplateField × List Char)
  | [] => none
  | c :: rest =>
    if c = '\x7b' ∧ '\x7d' ∈ rest then
      (ofName? (rest.takeWhile (· ≠ '\x7d'))).map fun field =>
        (rest.takeWhile (· ≠ '\x7d'), field, (rest.dropWhile (· ≠ '\x7d')).tail)
    else none

theorem leading?_braced (name behind : List Char) (plain : '\x7d' ∉ name) :
    leading? ((TemplatePiece.braced name).written ++ behind) =
      (ofName? name).map fun field => (name, field, behind) := by
  have passes : ∀ c ∈ name, decide (c ≠ '\x7d') = true := by
    intro c member
    apply decide_eq_true
    rintro rfl
    exact plain member
  have rest : name ++ ['\x7d'] ++ behind = name ++ '\x7d' :: behind := by simp
  rw [TemplatePiece.written_braced, List.cons_append, List.cons_append, rest, leading?,
    List.takeWhile_append_of_pos passes, List.dropWhile_append_of_pos passes]
  simp

theorem leading?_eq_some_iff (text name behind : List Char) (field : TemplateField) :
    leading? text = some (name, field, behind) ↔
      text = (TemplatePiece.braced name).written ++ behind ∧ ofName? name = some field := by
  constructor
  · intro found
    cases text with
    | nil => cases found
    | cons c rest =>
        by_cases brace : c = '\x7b' ∧ '\x7d' ∈ rest
        · rcases List.eq_append_cons_of_mem brace.2 with ⟨front, back, whole, plain⟩
          have split : c :: rest = (TemplatePiece.braced front).written ++ back := by
            rw [brace.1, whole, TemplatePiece.written_braced]
            simp
          rw [split, leading?_braced front back plain] at found
          rcases Option.map_eq_some_iff.mp found with ⟨_, known, same⟩
          cases same
          exact ⟨split, known⟩
        · rw [leading?, if_neg brace] at found
          cases found
  · intro both
    rw [both.1, leading?_braced name behind (TemplateField.braceless_of_ofName? both.2).2, both.2]
    rfl

theorem filter_leading? (text : List Char) : ((leading? text).filter fun _ => true) = leading? text := by
  cases leading? text <;> rfl

/-- Whether no opening brace stands behind the last closing one. -/
def isClosed (front : List Char) : Bool := decide ('\x7b' ∉ front.reverse.takeWhile (· ≠ '\x7d'))

theorem isClosed_concat (front : List Char) (c : Char) :
    isClosed (front ++ [c]) = if c = '\x7d' then true else if c = '\x7b' then false else isClosed front := by
  rw [isClosed, isClosed, List.reverse_append, List.reverse_singleton, List.singleton_append, List.takeWhile_cons]
  by_cases closing : c = '\x7d'
  · simp [closing]
  · by_cases opening : c = '\x7b'
    · simp [opening]
    · simp [closing, opening, Ne.symm opening]

theorem isClosed_braced (front name : List Char) : isClosed (front ++ (TemplatePiece.braced name).written) = true := by
  rw [TemplatePiece.written_braced, ← List.append_assoc, isClosed_concat, if_pos rfl]

/-- The text with the values of a file in place of the placeholders that count behind what is in front of them. All
other characters are copied, and values are not read again. -/
def fill (counts : List Char → Bool) (file : File) (front text : List Char) : List Char :=
  match text with
  | [] => []
  | c :: rest =>
    match _found : (leading? (c :: rest)).filter fun _ => counts front with
    | some (name, field, behind) =>
      field.value file ++ fill counts file (front ++ (TemplatePiece.braced name).written) behind
    | none => c :: fill counts file (front ++ [c]) rest
termination_by text.length
decreasing_by
  · have whole := ((leading?_eq_some_iff _ _ _ _).mp (Option.filter_eq_some_iff.mp _found).1).1
    rw [whole, TemplatePiece.written_braced]
    simp
    omega
  · simp

def filled (file : File) (template : List Char) : List Char := fill (fun _ => true) file [] template

section

variable (counts : List Char → Bool) (file : File) (front : List Char)

theorem fill_nil : fill counts file front [] = [] := by rw [fill]

theorem fill_braced {name : List Char} {field : TemplateField} (behind : List Char) (known : ofName? name = some field)
    (counted : counts front = true) :
    fill counts file front ((TemplatePiece.braced name).written ++ behind) =
      field.value file ++ fill counts file (front ++ (TemplatePiece.braced name).written) behind := by
  have leads := (leading?_eq_some_iff _ _ behind _).mpr ⟨rfl, known⟩
  have found : (leading? ((TemplatePiece.braced name).written ++ behind)).filter (fun _ => counts front) =
      some (name, field, behind) := by
    rw [leads, Option.filter_some, counted, if_pos rfl]
  generalize (TemplatePiece.braced name).written ++ behind = text at found
  cases text with
  | nil => cases found
  | cons c rest =>
      rw [fill]
      split
      · rename_i other
        rw [found] at other
        cases other
        rfl
      · rename_i none
        rw [found] at none
        cases none

theorem fill_cons (c : Char) (rest : List Char) (copied : counts front = true → leading? (c :: rest) = none) :
    fill counts file front (c :: rest) = c :: fill counts file (front ++ [c]) rest := by
  have none : ((leading? (c :: rest)).filter fun _ => counts front) = none := by
    cases counted : counts front with
    | true => rw [copied counted]; rfl
    | false => simp
  rw [fill]
  split
  · rename_i found
    rw [none] at found
    cases found
  · rfl

end

section

variable (file : File) (front : List Char)

theorem fill_open (text behind : List Char) (opened : isClosed front = false) (plain : '\x7d' ∉ text) :
    fill isClosed file front (text ++ behind) = text ++ fill isClosed file (front ++ text) behind := by
  induction text generalizing front with
  | nil => rw [List.nil_append, List.append_nil, List.nil_append]
  | cons c text ih =>
      rw [List.mem_cons, not_or] at plain
      have still : isClosed (front ++ [c]) = false := by
        rw [isClosed_concat, if_neg (Ne.symm plain.1), opened, ite_self]
      have copied : isClosed front = true → leading? (c :: (text ++ behind)) = none := by
        intro closed
        rw [opened] at closed
        cases closed
      rw [List.cons_append, fill_cons isClosed file front c _ copied, ih _ still plain.2, List.append_assoc,
        List.singleton_append, List.cons_append]

theorem isClosed_opening : isClosed (front ++ ['\x7b']) = false := by
  rw [isClosed_concat]
  rfl

theorem fill_unclosed (rest : List Char) (plain : '\x7d' ∉ rest) :
    fill isClosed file front ('\x7b' :: rest) = '\x7b' :: rest := by
  have copied : leading? ('\x7b' :: rest) = none := by
    rw [leading?, if_neg fun both => plain both.2]
  have behind := fill_open file _ rest [] (isClosed_opening front) plain
  rw [List.append_nil, fill_nil, List.append_nil] at behind
  rw [fill_cons isClosed file front _ rest fun _ => copied, behind]

theorem fill_unknown (name behind : List Char) (plain : '\x7d' ∉ name) (unknown : ofName? name = none) :
    fill isClosed file front ((TemplatePiece.braced name).written ++ behind) =
      (TemplatePiece.braced name).written ++
        fill isClosed file (front ++ (TemplatePiece.braced name).written) behind := by
  have copied := leading?_braced name behind plain
  rw [unknown, Option.map_none] at copied
  rw [TemplatePiece.written_braced] at copied ⊢
  rw [List.cons_append, List.cons_append, List.append_assoc, List.singleton_append] at copied ⊢
  have closing : leading? ('\x7d' :: behind) = none := by
    rw [leading?, if_neg fun both => absurd both.1 (by decide)]
  rw [fill_cons isClosed file front _ _ fun _ => copied, fill_open file _ name _ (isClosed_opening front) plain,
    fill_cons isClosed file _ _ behind fun _ => closing]
  simp

end

theorem pieces_closed (before name behind : List Char) (plain : '\x7d' ∉ name) :
    pieces (some before) (name ++ '\x7d' :: behind) = .braced (before ++ name) :: pieces none behind := by
  induction name generalizing before with
  | nil => simp [pieces]
  | cons c name ih =>
      rw [List.mem_cons, not_or] at plain
      rw [List.cons_append, pieces, if_neg (Ne.symm plain.1), ih _ plain.2, List.append_assoc, List.singleton_append]

theorem pieces_unclosed (before rest : List Char) (plain : '\x7d' ∉ rest) :
    pieces (some before) rest = [.copied ('\x7b' :: (before ++ rest))] := by
  induction rest generalizing before with
  | nil => simp [pieces]
  | cons c rest ih =>
      rw [List.mem_cons, not_or] at plain
      rw [pieces, if_neg (Ne.symm plain.1), ih _ plain.2, List.append_assoc, List.singleton_append]

theorem exists_braced {rest : List Char} (ends : '\x7d' ∈ rest) :
    ∃ name behind, '\x7d' ∉ name ∧ rest = name ++ '\x7d' :: behind ∧
      '\x7b' :: rest = (TemplatePiece.braced name).written ++ behind := by
  rcases List.eq_append_cons_of_mem ends with ⟨name, behind, whole, plain⟩
  refine ⟨name, behind, plain, whole, ?_⟩
  rw [whole, TemplatePiece.written_braced]
  simp

theorem flatMap_pieces (file : File) (front text : List Char) (closed : isClosed front = true) :
    (pieces none text).flatMap (TemplatePiece.value file) = fill isClosed file front text := by
  match text with
  | [] => rw [fill_nil, pieces, List.flatMap_nil]
  | c :: rest =>
    by_cases opening : c = '\x7b'
    · subst opening
      by_cases ends : '\x7d' ∈ rest
      · rcases exists_braced ends with ⟨name, behind, plain, whole, split⟩
        have ih := flatMap_pieces file _ behind (isClosed_braced front name)
        rw [pieces, if_pos rfl, whole, pieces_closed [] name behind plain, List.nil_append, List.flatMap_cons, ih,
          ← whole, split, TemplatePiece.value]
        cases known : ofName? name with
        | some field => rw [fill_braced isClosed file front behind known closed]
        | none => rw [fill_unknown file front name behind plain known]
      · rw [pieces, if_pos rfl, pieces_unclosed [] rest ends, fill_unclosed file front rest ends]
        simp [TemplatePiece.value]
    · have copied : leading? (c :: rest) = none := by
        rw [leading?, if_neg fun both => opening both.1]
      have still : isClosed (front ++ [c]) = true := by
        rw [isClosed_concat, if_neg opening, closed, ite_self]
      rw [pieces, if_neg opening, List.flatMap_cons, flatMap_pieces file (front ++ [c]) rest still,
        fill_cons isClosed file front c rest fun _ => copied]
      rfl
termination_by text.length
decreasing_by
  · have length := congrArg List.length whole
    simp at length ⊢
    omega
  · simp

/-- Every placeholder in the text counts behind what is in front of it. -/
def AllCount (counts : List Char → Bool) (front text : List Char) : Prop :=
  ∀ before behind, text = before ++ behind → (leading? behind).isSome → counts (front ++ before) = true

section

variable {counts : List Char → Bool} {front : List Char}

theorem allCount_cons_iff {c : Char} {rest : List Char} (copied : leading? (c :: rest) = none) :
    AllCount counts front (c :: rest) ↔ AllCount counts (front ++ [c]) rest := by
  constructor
  · intro all before behind split leads
    rw [List.append_assoc]
    exact all (c :: before) behind (congrArg (c :: ·) split) leads
  · intro all before behind split leads
    cases before with
    | nil =>
        rw [← List.nil_append behind, ← split, copied] at leads
        cases leads
    | cons d before =>
        rcases List.cons.inj split with ⟨rfl, further⟩
        have counted := all before behind further leads
        rwa [List.append_assoc] at counted

theorem append_of_leading? {name behind before last : List Char} {field : TemplateField}
    (known : ofName? name = some field) (inhabited : before ≠ []) (leads : (leading? last).isSome)
    (split : (TemplatePiece.braced name).written ++ behind = before ++ last) :
    ∃ further, before = (TemplatePiece.braced name).written ++ further ∧ behind = further ++ last := by
  rcases List.append_eq_append_iff.mp split with ⟨further, whole, rest⟩ | ⟨inside, whole, rest⟩
  · exact ⟨further, whole, rest⟩
  · -- a brace that opens inside would be part of a name that has none
    cases inside with
    | nil =>
        rw [List.append_nil] at whole
        exact ⟨[], by rw [whole, List.append_nil], rest.symm⟩
    | cons c inside =>
        rcases Option.isSome_iff_exists.mp leads with ⟨⟨other, _, further⟩, found⟩
        have opens := ((leading?_eq_some_iff _ _ _ _).mp found).1
        rw [rest] at opens
        rcases List.exists_cons_of_ne_nil inhabited with ⟨d, ahead, rfl⟩
        have later : name ++ ['\x7d'] = ahead ++ c :: inside := (List.cons.inj whole).2
        have among : '\x7b' ∈ name ++ ['\x7d'] := by
          rw [later, (List.cons.inj opens).1]
          simp
        have plain := (TemplateField.braceless_of_ofName? known).1
        simp [plain] at among

theorem allCount_braced_iff {name behind : List Char} {field : TemplateField} (known : ofName? name = some field) :
    AllCount counts front ((TemplatePiece.braced name).written ++ behind) ↔
      counts front = true ∧ AllCount counts (front ++ (TemplatePiece.braced name).written) behind := by
  have found := (leading?_eq_some_iff _ _ behind _).mpr ⟨rfl, known⟩
  constructor
  · intro all
    constructor
    · have counted := all [] ((TemplatePiece.braced name).written ++ behind) rfl (by rw [found]; rfl)
      rwa [List.append_nil] at counted
    · intro before last split leads
      rw [List.append_assoc]
      exact all _ last (by rw [split, List.append_assoc]) leads
  · intro both before last split leads
    cases before with
    | nil =>
        rw [List.append_nil]
        exact both.1
    | cons c before =>
        rcases append_of_leading? known (List.cons_ne_nil c before) leads split with ⟨further, whole, rest⟩
        rw [whole, ← List.append_assoc]
        exact both.2 further last rest leads

end

section

variable (counts : List Char → Bool) (file : File) (front text : List Char)

theorem fill_of_allCount (all : AllCount counts front text) :
    fill counts file front text = fill (fun _ => true) file front text := by
  fun_induction fill (fun _ => true) file front text with
  | case1 front => rw [fill_nil]
  | case2 front c rest name field behind found ih =>
      rw [filter_leading?] at found
      rcases (leading?_eq_some_iff _ _ _ _).mp found with ⟨whole, known⟩
      rw [whole, allCount_braced_iff known] at all
      rw [whole, fill_braced counts file front behind known all.1, ih all.2]
  | case3 front c rest missed ih =>
      rw [filter_leading?] at missed
      rw [allCount_cons_iff missed] at all
      rw [fill_cons counts file front c rest fun _ => missed, ih all]

/-- Two fillings of a text differ at its first placeholder that does not count in both, as long as the values can be
told from it. -/
theorem allCount_of_fill (visible : ∀ field : TemplateField, ∃ c rest, field.value file = c :: rest ∧ c ≠ '\x7b')
    (same : fill counts file front text = fill (fun _ => true) file front text) : AllCount counts front text := by
  fun_induction fill (fun _ => true) file front text with
  | case1 front =>
      intro before behind split leads
      rw [(List.append_eq_nil_iff.mp split.symm).2] at leads
      cases leads
  | case2 front c rest name field behind found ih =>
      rw [filter_leading?] at found
      rcases (leading?_eq_some_iff _ _ _ _).mp found with ⟨whole, known⟩
      have counted : counts front = true := by
        -- one of them goes on with the brace, the other one with the value
        by_contra passed
        rw [fill_cons counts file front c rest fun counted => absurd counted passed] at same
        rcases visible field with ⟨d, value, shown, other⟩
        rw [shown] at same
        exact other ((List.cons.inj same).1.symm.trans (List.cons.inj whole).1)
      rw [whole] at same ⊢
      rw [fill_braced counts file front behind known counted] at same
      rw [allCount_braced_iff known]
      exact ⟨counted, ih (List.append_cancel_left same)⟩
  | case3 front c rest missed ih =>
      rw [filter_leading?] at missed
      rw [fill_cons counts file front c rest fun _ => missed] at same
      rw [allCount_cons_iff missed]
      exact ih (List.cons.inj same).2

end

def shownFile : File := { File.absent (.ofString "/a/b") with contents := some [] }

theorem digit_ne_brace : ∀ value < 16, Hex.digit value ≠ '\x7b' := by decide

theorem shownFile_visible (field : TemplateField) : ∃ c rest, field.value shownFile = c :: rest ∧ c ≠ '\x7b' := by
  cases field with
  | digest algorithm =>
      have length := algorithm.length_digest []
      cases bytes : algorithm.digest [] with
      | nil =>
          rw [bytes] at length
          cases algorithm <;> cases length
      | cons byte rest =>
          refine ⟨Hex.digit (byte.toNat / 16), Hex.digit (byte.toNat % 16) :: Hex.encode rest, ?_, ?_⟩
          · show Hex.encode (algorithm.digest []) = _
            rw [bytes]
            rfl
          · apply digit_ne_brace
            have small := byte.toNat_lt
            omega
  | _ => exact ⟨_, _, rfl, by decide⟩

/-- Rendering fills in the placeholders that stand behind no open brace, and copies all else. So it fills in all of
them, whatever the file, if and only if no placeholder of the template stands behind an open brace. -/
theorem render_complete_iff (template : List Char) :
    (∀ file, render template file = fill isClosed file [] template) ∧
      ((∀ file, render template file = filled file template) ↔
        ∀ front name behind, template = front ++ (TemplatePiece.braced name).written ++ behind →
          (ofName? name).isSome → isClosed front = true) := by
  have seen (file : File) : render template file = fill isClosed file [] template :=
    flatMap_pieces file [] template rfl
  refine ⟨seen, ?_⟩
  constructor
  · intro complete front name behind split known
    have all : AllCount isClosed [] template := by
      apply allCount_of_fill isClosed shownFile [] template shownFile_visible
      rw [← seen]
      exact complete shownFile
    rcases Option.isSome_iff_exists.mp known with ⟨field, names⟩
    have leads := (leading?_eq_some_iff _ _ behind _).mpr ⟨rfl, names⟩
    rw [List.append_assoc] at split
    apply all front _ split
    rw [leads]
    rfl
  · intro closed file
    rw [seen]
    apply fill_of_allCount
    intro before behind split leads
    rcases Option.isSome_iff_exists.mp leads with ⟨⟨name, field, rest⟩, found⟩
    rcases (leading?_eq_some_iff _ _ _ _).mp found with ⟨whole, known⟩
    apply closed before name rest
    · rw [split, whole, List.append_assoc]
    · rw [known]
      rfl

example : render "\x7bnope\x7d \x7bname\x7d \x7bunclosed".toList shownFile = "\x7bnope\x7d b \x7bunclosed".toList := by
  decide

/-- The brace around the whole is taken for the opening one of the name, which is then no field. -/
theorem nested_placeholder_copied : ¬ ∀ template file, render template file = filled file template := by
  intro complete
  have same := complete "\x7b\"name\": \"\x7bname\x7d\"\x7d".toList shownFile
  rw [render, flatMap_pieces shownFile [] _ rfl] at same
  have counted := allCount_of_fill isClosed shownFile [] _ shownFile_visible same
    "\x7b\"name\": \"".toList "\x7bname\x7d\"\x7d".toList (by decide) (by decide)
  revert counted
  decide

end Template
end FileSieve
