import FileSieve.File.Record

/-! Records keep what the file says. A sound record has kept the facts that it has computed as its file says them, and
no others, and has computed none of them twice. Reading leaves a record sound, answers what the file says, and
computes what the answer needs and nothing else. -/

namespace FileSieve

namespace Fact

/-- What is computed for the sake of a fact, itself included. Signatures and protection are not kept. -/
def needs : Fact → List Fact
  | contents => [contents]
  | image => [contents, image]
  | checksum => [contents, image, checksum]
  | digest algorithm => [contents, digest algorithm]
  | signature | protection => []

theorem mem_fresh (known asked : List Fact) (fact : Fact) :
    fact ∈ fresh known asked ↔ fact ∈ asked ∧ fact ∉ known := by
  induction asked generalizing known with
  | nil => simp [fresh]
  | cons first rest ih =>
    rw [fresh]
    split <;> rename_i member <;> simp only [List.contains_iff_mem] at member
    · rw [ih]
      grind
    · rw [List.mem_cons, ih]
      grind

theorem nodup_fresh (known asked : List Fact) : (fresh known asked).Nodup := by
  induction asked generalizing known with
  | nil => exact List.nodup_nil
  | cons first rest ih =>
    rw [fresh]
    split
    · exact ih known
    · refine List.nodup_cons.mpr ⟨fun member => ?_, ih _⟩
      exact ((mem_fresh _ _ _).mp member).2 List.mem_cons_self

theorem nodup_append_fresh {known : List Fact} (asked : List Fact) (once : known.Nodup) :
    (known ++ fresh known asked).Nodup := by
  refine List.nodup_append.mpr ⟨once, nodup_fresh known asked, ?_⟩
  rintro fact before other after rfl
  exact ((mem_fresh known asked fact).mp after).2 before

theorem fresh_congr {known others : List Fact} (asked : List Fact)
    (alike : ∀ fact, fact ∈ known ↔ fact ∈ others) : fresh known asked = fresh others asked := by
  induction asked generalizing known others with
  | nil => rfl
  | cons first rest ih =>
    have same : known.contains first = others.contains first := by
      rw [Bool.eq_iff_iff, List.contains_iff_mem, List.contains_iff_mem, alike]
    have onward : fresh (first :: known) rest = fresh (first :: others) rest :=
      ih fun fact => by rw [List.mem_cons, List.mem_cons, alike]
    rw [fresh, fresh, same, ih alike, onward]

theorem fresh_append (known asked further : List Fact) :
    fresh known (asked ++ further) = fresh known asked ++ fresh (known ++ fresh known asked) further := by
  induction asked generalizing known with
  | nil => rw [List.nil_append, fresh, List.append_nil, List.nil_append]
  | cons first rest ih =>
    rw [List.cons_append, fresh, fresh]
    split
    · exact ih known
    · rw [ih, List.cons_append]
      congr 2
      refine fresh_congr further fun fact => ?_
      simp only [List.mem_cons, List.mem_append]
      exact or_left_comm

end Fact

def File.value (file : File) : (fact : Fact) → fact.Value
  | .contents => file.contents
  | .image => file.image?
  | .checksum => file.checksumValid
  | .digest algorithm => file.digest? algorithm
  | .signature => file.isSigned
  | .protection => file.isProtected

namespace Record

structure Sound (record : Record) : Prop where
  held : ∀ fact ∈ record.computed, record.kept fact = some (record.file.value fact)
  empty : ∀ fact, fact ∉ record.computed → record.kept fact = none
  needed : ∀ fact ∈ record.computed, fact.needs ⊆ record.computed
  once : record.computed.Nodup
  asked : record.touched.Nodup

theorem fresh_sound (file : File) : (fresh file).Sound where
  held _ member := absurd member List.not_mem_nil
  empty _ _ := rfl
  needed _ member := absurd member List.not_mem_nil
  once := List.nodup_nil
  asked := List.nodup_nil

theorem Sound.retouched {record : Record} (sound : record.Sound) {touched : List Fact} (once : touched.Nodup) :
    Sound { record with touched } :=
  { sound with asked := once }

@[simp] theorem kept_put (fact : Fact) (value : fact.Value) (record : Record) :
    (put fact value record).kept fact = some value := dif_pos rfl

theorem kept_put_of_ne {fact other : Fact} (different : other ≠ fact) (value : fact.Value) (record : Record) :
    (put fact value record).kept other = record.kept other := dif_neg different

/-- How a record comes out of a reading that asks for facts and needs some, be they there or not. -/
structure Leaves (record next : Record) (asked needed : List Fact) : Prop where
  file : next.file = record.file
  sound : next.Sound
  touched : next.touched = record.touched ++ Fact.fresh record.touched asked
  computed : ∀ fact, fact ∈ next.computed ↔ fact ∈ record.computed ∨ fact ∈ needed

namespace Leaves

variable {record next last : Record} {asked needed further more : List Fact}

theorem unchanged (sound : record.Sound) (present : needed ⊆ record.computed) : record.Leaves record [] needed where
  file := rfl
  sound := sound
  touched := by rw [Fact.fresh, List.append_nil]
  computed fact := ⟨Or.inl, fun either => either.elim id fun member => present member⟩

theorem trans (first : record.Leaves next asked needed) (second : next.Leaves last further more) :
    record.Leaves last (asked ++ further) (needed ++ more) where
  file := second.file.trans first.file
  sound := second.sound
  touched := by rw [second.touched, first.touched, Fact.fresh_append, List.append_assoc]
  computed fact := by rw [second.computed, first.computed, List.mem_append, or_assoc]

end Leaves

def Reads {α : Type} (file : File) (action : Reading α) (value : α) (asked needed : List Fact) : Prop :=
  ∀ record : Record, record.file = file → record.Sound →
    ∃ next : Record, action.run record = (value, next) ∧ record.Leaves next asked needed

section Reading

variable {α β : Type} {file : File} {value : α} {result : β} {asked needed further more : List Fact}

theorem reads_pure (file : File) (value : α) : Reads file (pure value) value [] [] := by
  intro record _ sound
  exact ⟨record, rfl, .unchanged sound (List.nil_subset _)⟩

theorem Reads.bind {action : Reading α} {rest : α → Reading β} (first : Reads file action value asked needed)
    (second : Reads file (rest value) result further more) :
    Reads file (action >>= rest) result (asked ++ further) (needed ++ more) := by
  intro record same sound
  obtain ⟨next, run, leaves⟩ := first record same sound
  obtain ⟨last, runOn, leavesOn⟩ := second next (leaves.file.trans same) leaves.sound
  refine ⟨last, ?_, leaves.trans leavesOn⟩
  rw [StateT.run_bind, run]
  exact runOn

theorem Reads.needing {action : Reading α} (reads : Reads file action value asked needed)
    (same : ∀ fact, fact ∈ needed ↔ fact ∈ more) : Reads file action value asked more := by
  intro record of sound
  obtain ⟨next, run, leaves⟩ := reads record of sound
  exact ⟨next, run, { leaves with computed := fun fact => by rw [leaves.computed, same] }⟩

theorem Reads.map {action : Reading α} (reads : Reads file action value asked needed) (f : α → β) :
    Reads file (do return f (← action)) (f value) asked needed := by
  have whole : Reads file (do return f (← action)) (f value) (asked ++ []) (needed ++ []) :=
    reads.bind (reads_pure file (f value))
  rwa [List.append_nil, List.append_nil] at whole

theorem readFile_reads (file : File) : Reads file readFile file [] [] := by
  rintro record rfl sound
  exact ⟨record, rfl, .unchanged sound (List.nil_subset _)⟩

theorem Leaves.put {record next : Record} {fact : Fact} (leaves : record.Leaves next [] needed)
    (needs : fact.needs = needed ++ [fact]) (new : fact ∉ next.computed) :
    record.Leaves (put fact (record.file.value fact) { next with computed := next.computed ++ [fact] }) []
      fact.needs := by
  have computed : ∀ other, other ∈ next.computed ++ [fact] ↔ other ∈ record.computed ∨ other ∈ fact.needs := by
    intro other
    rw [needs, List.mem_append, List.mem_append, leaves.computed, or_assoc]
  refine ⟨leaves.file, ⟨?held, ?empty, ?needed, ?once, leaves.sound.asked⟩, leaves.touched, computed⟩
  -- What was kept is kept still, and what is new is the value of the file.
  case held =>
    intro other member
    by_cases same : other = fact
    · subst same
      rw [kept_put]
      exact congrArg (fun file => some (File.value file other)) leaves.file.symm
    · rw [kept_put_of_ne same]
      exact leaves.sound.held other ((List.mem_append.mp member).resolve_right (same ∘ List.mem_singleton.mp))
  case empty =>
    intro other absent
    have absent := not_or.mp (absent ∘ List.mem_append.mpr)
    rw [kept_put_of_ne (absent.2 ∘ List.mem_singleton.mpr)]
    exact leaves.sound.empty other absent.1
  case needed =>
    intro other member one among
    rcases List.mem_append.mp member with before | now
    · exact List.mem_append_left _ (leaves.sound.needed other before among)
    · rw [List.mem_singleton.mp now] at among
      exact (computed one).mpr (Or.inr among)
  case once =>
    refine List.nodup_append.mpr ⟨leaves.sound.once, List.pairwise_singleton _ fact, ?_⟩
    rintro other before _ after rfl
    exact new (List.mem_singleton.mp after ▸ before)

theorem keep_reads {fact : Fact} {source : Reading fact.Value}
    (reads : Reads file source (file.value fact) [] needed) (needs : fact.needs = needed ++ [fact])
    (apart : fact ∉ needed) : Reads file (keep fact source) (file.value fact) [] fact.needs := by
  rintro record rfl sound
  by_cases known : fact ∈ record.computed
  · have present := sound.held fact known
    refine ⟨record, ?_, .unchanged sound (sound.needed fact known)⟩
    simp only [keep, StateT.run_bind, StateT.run_get, pure_bind, present]
    rfl
  · have empty := sound.empty fact known
    obtain ⟨next, run, leaves⟩ := reads record rfl sound
    have new : fact ∉ next.computed := by
      rw [leaves.computed]
      exact not_or.mpr ⟨known, apart⟩
    refine ⟨_, ?_, Leaves.put leaves needs new⟩
    simp only [keep, compute, StateT.run_bind, StateT.run_get, pure_bind, empty]
    rw [run]
    rfl

theorem readContents_reads (file : File) : Reads file readContents file.contents [] Fact.contents.needs :=
  keep_reads ((readFile_reads file).map File.contents) rfl (by decide)

theorem readImage_reads (file : File) : Reads file readImage file.image? [] Fact.image.needs :=
  keep_reads ((readContents_reads file).map (·.bind Image.read?)) rfl (by decide)

theorem readChecksum_reads (file : File) : Reads file readChecksum file.checksumValid [] Fact.checksum.needs := by
  have pair : ∀ fact, fact ∈ Fact.image.needs ++ (Fact.contents.needs ++ []) ↔ fact ∈ [.contents, .image] := by
    simp [Fact.needs, or_comm]
  refine keep_reads (Reads.needing ?_ pair) rfl (by decide)
  refine (readImage_reads file).bind ((readContents_reads file).bind ?_)
  rw [File.value, File.checksumValid]
  cases file.image? <;> cases file.contents <;> exact reads_pure file _

theorem readDigest_reads (file : File) (algorithm : Algorithm) :
    Reads file (readDigest algorithm) (file.digest? algorithm) [] (Fact.digest algorithm).needs :=
  keep_reads ((readContents_reads file).map (·.map fun data => algorithm.digest data)) rfl (by simp [Fact.needs])

theorem read_reads (file : File) (fact : Fact) : Reads file (read fact) (file.value fact) [] fact.needs := by
  cases fact with
  | contents => exact readContents_reads file
  | image => exact readImage_reads file
  | checksum => exact readChecksum_reads file
  | digest algorithm => exact readDigest_reads file algorithm
  | signature => exact (readFile_reads file).map File.isSigned
  | protection => exact (readFile_reads file).map File.isProtected

theorem touch_reads (file : File) (fact : Fact) : Reads file (touch fact) () [fact] [] := by
  rintro record rfl sound
  have touched : (if record.touched.contains fact then record.touched else record.touched ++ [fact]) =
      record.touched ++ Fact.fresh record.touched [fact] := by
    rw [Fact.fresh, Fact.fresh, Fact.fresh]
    split
    · rw [List.append_nil]
    · rfl
  refine ⟨{ record with touched := record.touched ++ Fact.fresh record.touched [fact] }, ?_, rfl, ?_, rfl, ?_⟩
  · rw [← touched]
    rfl
  · exact sound.retouched (Fact.nodup_append_fresh [fact] sound.asked)
  · intro other
    simp only [List.not_mem_nil, or_false]

/-- The reading asks for the facts, and computes what they need. -/
def Asks (file : File) (action : Reading α) (value : α) (facts : List Fact) : Prop :=
  Reads file action value facts (facts.flatMap Fact.needs)

theorem asks_pure (file : File) (value : α) : Asks file (pure value) value [] := reads_pure file value

theorem Asks.bind {action : Reading α} {rest : α → Reading β} (first : Asks file action value asked)
    (second : Asks file (rest value) result further) : Asks file (action >>= rest) result (asked ++ further) := by
  rw [Asks, List.flatMap_append]
  exact Reads.bind first second

theorem Asks.map {action : Reading α} (asks : Asks file action value asked) (f : α → β) :
    Asks file (do return f (← action)) (f value) asked :=
  Reads.map asks f

theorem mapM_asks {items : List β} {action : β → Reading α} {stated : β → α} {facts : β → List Fact}
    (asks : ∀ item ∈ items, Asks file (action item) (stated item) (facts item)) :
    Asks file (items.mapM action) (items.map stated) (items.flatMap facts) := by
  induction items with
  | nil => exact asks_pure file []
  | cons item rest ih =>
    obtain ⟨first, others⟩ := List.forall_mem_cons.mp asks
    rw [List.mapM_cons, List.map_cons, List.flatMap_cons]
    exact first.bind ((ih others).map _)

theorem readFile_asks (file : File) : Asks file readFile file [] := readFile_reads file

theorem ask_asks (file : File) (fact : Fact) : Asks file (ask fact) (file.value fact) [fact] := by
  rw [Asks, List.flatMap_singleton]
  exact (touch_reads file fact).bind (read_reads file fact)

theorem mem_computed_of_asks {action : Reading α} {facts : List Fact}
    (asks : Asks file action value facts) (fact : Fact) :
    fact ∈ (action.run (fresh file)).2.computed ↔ ∃ one ∈ facts, fact ∈ one.needs := by
  obtain ⟨next, run, leaves⟩ := asks (fresh file) rfl (fresh_sound file)
  rw [run, leaves.computed, List.mem_flatMap]
  exact or_iff_right List.not_mem_nil

end Reading

end Record
end FileSieve
