import FileSieve.Proofs.Settings.RoundTrip

/-! Configured loadlines. Names are told apart as they are configured, but looked up in lowercase, so of several names
with the same lowercase form only the last one is heard; what it gives, every one of them gives, and no file is read. -/

namespace FileSieve

theorem Unicode.lower_beq (first second : List Char) :
    (lower (String.ofList first) == lower (String.ofList second)) = decide (lowercase first = lowercase second) := by
  have same : lower (String.ofList first) = lower (String.ofList second) ↔ lowercase first = lowercase second := by
    rw [lower, lower, String.toList_ofList, String.toList_ofList, String.ofList_inj]
  rw [← decide_eq_decide.mpr same]
  rfl

theorem find?_reverse_eq_some_iff {α : Type} {qualifies : α → Bool} {items : List α} {item : α} :
    items.reverse.find? qualifies = some item ↔
      qualifies item = true ∧ ∃ front back, items = front ++ item :: back ∧
        ∀ other ∈ back, qualifies other = false := by
  rw [List.find?_eq_some_iff_append]
  refine and_congr_right fun _ => ⟨?_, ?_⟩
  · rintro ⟨back, front, split, none⟩
    refine ⟨front.reverse, back.reverse, ?_, fun other member => ?_⟩
    · rw [← List.reverse_reverse items, split, List.reverse_append, List.reverse_cons, List.append_assoc,
        List.singleton_append]
    · exact Bool.not_eq_true' _ ▸ none other (List.mem_reverse.mp member)
  · rintro ⟨front, back, rfl, none⟩
    refine ⟨back.reverse, front.reverse, by simp, fun other member => ?_⟩
    rw [none other (List.mem_reverse.mp member)]
    rfl

theorem LoadlineSource.chain_first {source : LoadlineSource} {name line : String} (given : source name = .ok line)
    (others : List LoadlineSource) : chain (source :: others) name = .ok line := by
  rw [chain, firstLine, given]

namespace Settings

/-- The configured name that is heard for a name, and its line: of those with the same lowercase form the last. -/
structure Hears (settings : Settings) (name owner line : List Char) : Prop where
  configured : (owner, line) ∈ settings.loadlines
  same : Unicode.lowercase owner = Unicode.lowercase name
  last : ∀ other ∈ settings.loadlines, owner < other.1 → Unicode.lowercase other.1 ≠ Unicode.lowercase name

variable {settings : Settings} {name owner line : List Char}

theorem InOrder.apart {front back : List (List Char × List Char)}
    (order : InOrder (front ++ (owner, line) :: back)) :
    (∀ entry ∈ front, entry.1 < owner) ∧ ∀ entry ∈ back, owner < entry.1 := by
  obtain ⟨_, behind, across⟩ := List.pairwise_append.mp order
  constructor
  · intro entry member
    exact (compareText_eq_lt_iff _ _).mp (across entry member _ List.mem_cons_self)
  · intro entry member
    exact (compareText_eq_lt_iff _ _).mp ((List.pairwise_cons.mp behind).1 entry member)

theorem hears_iff (order : InOrder settings.loadlines) :
    (settings.loadlines.reverse.find? fun entry => decide (Unicode.lowercase entry.1 = Unicode.lowercase name)) =
        some (owner, line) ↔
      settings.Hears name owner line := by
  rw [find?_reverse_eq_some_iff]
  constructor
  · rintro ⟨same, front, back, split, others⟩
    obtain ⟨earlier, _⟩ := InOrder.apart (split ▸ order)
    have configured : (owner, line) ∈ settings.loadlines := split ▸ List.mem_append_right _ List.mem_cons_self
    refine ⟨configured, of_decide_eq_true same, ?_⟩
    intro other member after
    rw [split] at member
    rcases List.mem_append.mp member with before | member
    · exact absurd after (List.lt_asymm (earlier other before))
    · rcases List.mem_cons.mp member with rfl | behind
      · exact absurd after (List.lt_irrefl _)
      · exact of_decide_eq_false (others other behind)
  · intro hears
    obtain ⟨front, back, split⟩ := List.append_of_mem hears.configured
    obtain ⟨_, later⟩ := InOrder.apart (split ▸ order)
    refine ⟨decide_eq_true hears.same, front, back, split, ?_⟩
    intro other behind
    have member : other ∈ settings.loadlines :=
      split ▸ List.mem_append_right _ (List.mem_cons_of_mem _ behind)
    exact decide_eq_false (hears.last other member (later other behind))

theorem exists_hears (order : InOrder settings.loadlines) (configured : (name, line) ∈ settings.loadlines) :
    ∃ owner kept, settings.Hears name owner kept := by
  cases found : settings.loadlines.reverse.find? fun entry =>
      decide (Unicode.lowercase entry.1 = Unicode.lowercase name) with
  | some entry => exact ⟨entry.1, entry.2, (hears_iff order).mp found⟩
  | none =>
      have differs := List.find?_eq_none.mp found (name, line) (List.mem_reverse.mpr configured)
      simp at differs

theorem loadlineSource_of_hears (order : InOrder settings.loadlines) (disk : Disk) (base : Path)
    (hears : settings.Hears name owner line) :
    settings.loadlineSource disk base (String.ofList name) = .ok (String.ofList line) := by
  refine LoadlineSource.chain_first ?_ _
  have found := (hears_iff order).mpr hears
  rw [LoadlineSource.ofEntries, entries, ← List.map_reverse, List.find?_map]
  simp only [Function.comp_def, Unicode.lower_beq, found, Option.map_some]

/-- A configured name gives the line of the last name with its lowercase form. That is its own line if and only if the
last such name has the same line. -/
theorem configured_line_given (settings : Settings) (valid : settings.Valid) (disk : Disk) (base : Path)
    (name line : List Char) (configured : (name, line) ∈ settings.loadlines) :
    (∃ owner kept, settings.Hears name owner kept ∧
        settings.loadlineSource disk base (String.ofList name) = .ok (String.ofList kept)) ∧
      (settings.loadlineSource disk base (String.ofList name) = .ok (String.ofList line) ↔
        ∀ owner kept, settings.Hears name owner kept → kept = line) := by
  obtain ⟨owner, kept, hears⟩ := exists_hears valid.loadlines configured
  have given := loadlineSource_of_hears valid.loadlines disk base hears
  refine ⟨⟨owner, kept, hears, given⟩, ?_, ?_⟩
  · intro own other line' heard
    have again := loadlineSource_of_hears valid.loadlines disk base heard
    exact String.ofList_inj.mp (Except.ok.inj (again.symm.trans own))
  · intro same
    rw [given, same owner kept hears]

def twoSpellings : Settings := ⟨0, [(['A'], ['x']), (['a'], ['y'])]⟩

theorem twoSpellings_valid : twoSpellings.Valid := ⟨by decide, by simp [InOrder, twoSpellings]; decide⟩

theorem twoSpellings_hears : twoSpellings.Hears ['A'] ['a'] ['y'] := ⟨by decide, by decide, by decide⟩

theorem configured_line_given_twoSpellings :
    twoSpellings.Valid ∧ (['a'], ['y']) ∈ twoSpellings.loadlines ∧
      twoSpellings.loadlineSource ⟨[], ⟨[]⟩⟩ ⟨[]⟩ (String.ofList ['a']) = .ok (String.ofList ['y']) := by
  have configured : (['a'], ['y']) ∈ twoSpellings.loadlines := by decide
  have given := (configured_line_given twoSpellings twoSpellings_valid ⟨[], ⟨[]⟩⟩ ⟨[]⟩ ['a'] ['y'] configured).2
  refine ⟨twoSpellings_valid, configured, given.mpr ?_⟩
  intro owner kept hears
  rcases List.mem_cons.mp hears.configured with first | second
  · cases first
    exact absurd rfl (hears.last _ configured (by decide))
  · cases List.mem_singleton.mp second
    rfl

/-- The line of a name is not given if a later name differs from it only in letter case. -/
theorem other_spelling_heard :
    ¬ ∀ (settings : Settings) (disk : Disk) (base : Path) (name line : List Char), settings.Valid →
      (name, line) ∈ settings.loadlines →
      settings.loadlineSource disk base (String.ofList name) = .ok (String.ofList line) := by
  intro every
  have own := every twoSpellings ⟨[], ⟨[]⟩⟩ ⟨[]⟩ ['A'] ['x'] twoSpellings_valid (by decide)
  have heard := loadlineSource_of_hears twoSpellings_valid.loadlines ⟨[], ⟨[]⟩⟩ ⟨[]⟩ twoSpellings_hears
  have same : ['x'] = ['y'] := String.ofList_inj.mp (Except.ok.inj (own.symm.trans heard))
  exact absurd same (by decide)

end Settings
end FileSieve
