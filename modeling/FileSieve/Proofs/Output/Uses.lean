import FileSieve.Output.Consult
import FileSieve.Proofs.Criteria.Consult

/-! A record in use. What a record has kept never shows: every use of it is answered as on a fresh record, which is
what the file itself says. The record computes what the facts asked for need, each at most once, and reports a fact
once until it is told to forget. -/

namespace FileSieve

open Record

def TemplateField.fact? : TemplateField → Option Fact
  | imageTime => some .image
  | digest algorithm => some (.digest algorithm)
  | _ => none

def TemplatePiece.fact? : TemplatePiece → Option Fact
  | copied _ => none
  | braced name => (TemplateField.ofName? name).bind TemplateField.fact?

def LineFormat.facts : LineFormat → List Fact
  | template text => (Template.pieces none text.toList).flatMap (·.fact?.toList)
  | _ => []

theorem TemplateField.consult_asks (file : File) (field : TemplateField) :
    Asks file field.consult (field.value file) field.fact?.toList := by
  cases field with
  | imageTime =>
    exact (ask_asks file .image).map fun header? =>
      timeColumn (header?.map fun header => Instant.ofSeconds header.timestamp)
  | digest algorithm => exact (ask_asks file (.digest algorithm)).map fun digest? => (digest?.map Hex.encode).getD []
  | _ => exact (readFile_asks file).map (TemplateField.value · _)

theorem TemplatePiece.consult_asks (file : File) (piece : TemplatePiece) :
    Asks file piece.consult (piece.value file) piece.fact?.toList := by
  cases piece with
  | copied text => exact asks_pure file text
  | braced name =>
    rw [consult, value, fact?]
    cases TemplateField.ofName? name with
    | none => exact asks_pure file _
    | some field => exact field.consult_asks file

theorem LineFormat.consult_asks (file : File) (format : LineFormat) :
    Asks file format.consult (format.render file) format.facts := by
  cases format with
  | template text =>
    have pieces := mapM_asks fun piece (_ : piece ∈ Template.pieces none text.toList) => piece.consult_asks file
    exact pieces.map List.flatten
  | _ => exact (readFile_asks file).map (LineFormat.render · _)

namespace Use

/-- What the use is answered where nothing is kept. -/
def answer (file : File) : Use → Answer
  | evaluate criterion => .verdict (criterion.evaluate file)
  | render format => .line (format.render file)
  | forget => .done

/-- The facts that the use asks for, in order and with repetitions. -/
def facts (file : File) : Use → List Fact
  | evaluate criterion => criterion.facts file
  | render format => format.facts
  | forget => []

/-- What a record that has been asked for the known facts is taken to have been asked for after the use. -/
def asked (file : File) (known : List Fact) : Use → List Fact
  | forget => []
  | use => known ++ Fact.fresh known (use.facts file)

structure Serves (file : File) (record next : Record) (use : Use) : Prop where
  kept : next.file = file
  sound : next.Sound
  touched : next.touched = use.asked file record.touched
  computed : ∀ fact, fact ∈ next.computed ↔ fact ∈ record.computed ∨ ∃ one ∈ use.facts file, fact ∈ one.needs

theorem serves_of_asks {file : File} {use : Use} (asks : Asks file use.consult (use.answer file) (use.facts file))
    (lasting : ∀ known, use.asked file known = known ++ Fact.fresh known (use.facts file)) (record : Record)
    (same : record.file = file) (sound : record.Sound) :
    ∃ next, use.report.run record = (⟨use.answer file, Fact.fresh record.touched (use.facts file)⟩, next) ∧
      use.Serves file record next := by
  obtain ⟨next, run, leaves⟩ := asks record same sound
  refine ⟨next, ?_, leaves.file.trans same, leaves.sound, ?_, ?_⟩
  · rw [report, StateT.run_bind, StateT.run_get, pure_bind, StateT.run_bind, run]
    show (Report.mk _ (next.touched.drop record.touched.length), next) = _
    rw [leaves.touched, List.drop_left]
  · rw [leaves.touched, lasting]
  · intro fact
    rw [leaves.computed, List.mem_flatMap]

theorem report_serves {file : File} (use : Use) (record : Record) (same : record.file = file) (sound : record.Sound) :
    ∃ next, use.report.run record = (⟨use.answer file, Fact.fresh record.touched (use.facts file)⟩, next) ∧
      use.Serves file record next := by
  cases use with
  | evaluate criterion =>
    exact serves_of_asks ((criterion.consult_agrees file).map Answer.verdict) (fun _ => rfl) record same sound
  | render format =>
    exact serves_of_asks ((format.consult_asks file).map Answer.line) (fun _ => rfl) record same sound
  | forget =>
    refine ⟨{ record with touched := [] }, ?_, same, sound.retouched List.nodup_nil, rfl, ?_⟩
    · show (Report.mk _ (List.drop record.touched.length []), _) = _
      rw [List.drop_nil]
      rfl
    · intro fact
      simp [facts]

def reported (file : File) (known : List Fact) : List Use → List Report
  | [] => []
  | use :: rest => ⟨use.answer file, Fact.fresh known (use.facts file)⟩ :: reported file (use.asked file known) rest

theorem reports_serve (file : File) (uses : List Use) (record : Record) (same : record.file = file)
    (sound : record.Sound) :
    ∃ last, (Record.reports uses).run record = (reported file record.touched uses, last) ∧ last.file = file ∧
      last.Sound ∧ ∀ fact, fact ∈ last.computed ↔
        fact ∈ record.computed ∨ ∃ use ∈ uses, ∃ one ∈ use.facts file, fact ∈ one.needs := by
  induction uses generalizing record with
  | nil => exact ⟨record, rfl, same, sound, fun fact => by simp⟩
  | cons use rest ih =>
    obtain ⟨next, run, serves⟩ := use.report_serves record same sound
    obtain ⟨last, runOn, kept, soundLast, computed⟩ := ih next serves.kept serves.sound
    refine ⟨last, ?_, kept, soundLast, fun fact => ?_⟩
    · rw [Record.reports, List.mapM_cons, StateT.run_bind, run]
      show (do let p ← (rest.mapM report).run next; pure (_ :: p.1, p.2) : Id _) = _
      rw [← Record.reports, runOn, serves.touched]
      rfl
    · rw [computed, serves.computed, or_assoc]
      simp only [List.mem_cons, exists_eq_or_imp]

theorem map_answer_reported (file : File) (known : List Fact) (uses : List Use) :
    (reported file known uses).map Report.answer = uses.map (answer file) := by
  induction uses generalizing known with
  | nil => rfl
  | cons use rest ih => rw [reported, List.map_cons, List.map_cons, ih]

theorem length_reported (file : File) (known : List Fact) (uses : List Use) :
    (reported file known uses).length = uses.length := by
  rw [← List.length_map Report.answer, map_answer_reported, List.length_map]

theorem reported_append (file : File) (known : List Fact) (uses others : List Use) :
    reported file known (uses ++ others) =
      reported file known uses ++ reported file (uses.foldl (asked file) known) others := by
  induction uses generalizing known with
  | nil => rfl
  | cons use rest ih => rw [List.cons_append, reported, reported, ih, List.cons_append, List.foldl_cons]

theorem asked_of_ne_forget {use : Use} (lasting : use ≠ forget) (file : File) (known : List Fact) :
    use.asked file known = known ++ Fact.fresh known (use.facts file) := by
  cases use with
  | forget => exact absurd rfl lasting
  | _ => rfl

theorem flatMap_touched_reported (file : File) (known : List Fact) {uses : List Use} (lasting : forget ∉ uses) :
    (reported file known uses).flatMap Report.touched = Fact.fresh known (uses.flatMap (facts file)) := by
  induction uses generalizing known with
  | nil => rfl
  | cons use rest ih =>
    obtain ⟨different, lastingRest⟩ := not_or.mp (mt List.mem_cons.mpr lasting)
    rw [reported, List.flatMap_cons, List.flatMap_cons, ih _ lastingRest, Fact.fresh_append,
      asked_of_ne_forget (Ne.symm different)]

theorem consult_fresh (file : File) (use : Use) : (use.consult.run (fresh file)).1 = use.answer file := by
  cases use with
  | evaluate criterion =>
    obtain ⟨_, run, _⟩ := (criterion.consult_agrees file).map Answer.verdict (fresh file) rfl (fresh_sound file)
    exact congrArg Prod.fst run
  | render format =>
    obtain ⟨_, run, _⟩ := (format.consult_asks file).map Answer.line (fresh file) rfl (fresh_sound file)
    exact congrArg Prod.fst run
  | forget => rfl

end Use

/-- The reports of uses of a fresh record, and the record that is left. -/
def Record.session (file : File) (uses : List Use) : List Report × Record := (Record.reports uses).run (fresh file)

theorem Record.session_transparent (file : File) (uses : List Use) :
    (session file uses).1.map Report.answer = uses.map (fun use => (use.consult.run (fresh file)).1) ∧
      (session file uses).1.map Report.answer = uses.map (Use.answer file) ∧
      (session file uses).2.computed.Nodup ∧
      (∀ fact, fact ∈ (session file uses).2.computed ↔
        ∃ use ∈ uses, ∃ one ∈ use.facts file, fact ∈ one.needs) ∧
      ∀ before between after : List Use, uses = before ++ (between ++ after) → Use.forget ∉ between →
        ((((session file uses).1.drop before.length).take between.length).flatMap Report.touched).Nodup := by
  obtain ⟨last, run, _, sound, computed⟩ := Use.reports_serve file uses (fresh file) rfl (fresh_sound file)
  have answers : (Use.reported file [] uses).map Report.answer = uses.map (Use.answer file) :=
    Use.map_answer_reported file [] uses
  rw [session, run]
  refine ⟨?_, answers, sound.once, fun fact => ?_, ?_⟩
  · rw [funext (Use.consult_fresh file)]
    exact answers
  · rw [computed]
    exact or_iff_right List.not_mem_nil
  · rintro before between after rfl lasting
    have middle : ((Use.reported file [] (before ++ (between ++ after))).drop before.length).take between.length =
        Use.reported file (before.foldl (Use.asked file) []) between := by
      rw [Use.reported_append, List.drop_left' (Use.length_reported ..), Use.reported_append,
        List.take_left' (Use.length_reported ..)]
    show (((((Use.reported file [] _).drop before.length).take between.length)).flatMap Report.touched).Nodup
    rw [middle, Use.flatMap_touched_reported file _ lasting]
    exact Fact.nodup_fresh _ _

def Record.note : File := { File.absent ⟨[0x2F, 0x6E]⟩ with contents := some [0x6E] }

def Record.digestUses : List Use :=
  [.evaluate (.not (.leaf (.digest .md5 []))), .render (.template "\x7bMD5\x7d \x7bsha1\x7d")]

theorem Record.session_transparent_digests :
    (session note (digestUses ++ (digestUses ++ [.forget]))).2.computed.Nodup ∧
      Use.forget ∉ digestUses ++ digestUses ∧
      (((session note (digestUses ++ (digestUses ++ [.forget]))).1.take 4).flatMap Report.touched).Nodup :=
  have transparent := session_transparent note (digestUses ++ (digestUses ++ [Use.forget]))
  have lasting : Use.forget ∉ digestUses ++ digestUses := by simp [digestUses]
  ⟨transparent.2.2.1, lasting, transparent.2.2.2.2 [] (digestUses ++ digestUses) [.forget] rfl lasting⟩

example : (Record.session Record.note (Record.digestUses ++ .forget :: Record.digestUses)).1.map Report.touched =
    [[.digest .md5], [.digest .sha1], [], [.digest .md5], [.digest .sha1]] := by decide

example : (Record.session Record.note (Record.digestUses ++ Record.digestUses)).2.computed =
    [.contents, .digest .md5, .digest .sha1] := by decide

end FileSieve
