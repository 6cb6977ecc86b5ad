import FileSieve.Proofs.Query.Modifiers
import FileSieve.Proofs.Text.Ascii

namespace FileSieve

namespace Token

/-- Whether the token asks for a loadline, in any letter case. -/
def asksLoadline : Token → Bool
  | modifier lexeme _ => lexeme.toList.map Char.toLower == "--loadline".toList
  | _ => false

/-- A modifier that is understood and asks for no loadline, or any other token. -/
def Applies (now : Instant) (base : Path) : Token → Prop
  | modifier lexeme payload =>
    (modifier lexeme payload).asksLoadline = false ∧
      ∃ effect, Modifier.interpret lexeme payload now (.initial base) = .ok effect
  | _ => True

def criteria (now : Instant) (base : Path) : Token → List Criterion
  | pattern text => [.leaf (.wildcard (.ofText text base))]
  | modifier lexeme payload =>
    match Modifier.interpret lexeme payload now (.initial base) with
    | .ok (.criteria items) => items
    | _ => []
  | _ => []

end Token

namespace Modifier

inductive Alike (base : Path) : Except ParseError Effect → Except ParseError Effect → Prop
  | error (error : ParseError) : Alike base (.error error) (.error error)
  | criteria (items : List Criterion) : Alike base (.ok (.criteria items)) (.ok (.criteria items))
  | options (first second : ScanOptions) (kept : first.base = base) (same : second.base = base) :
      Alike base (.ok (.options first)) (.ok (.options second))

theorem leaf_alike {α : Type} (base : Path) (first : Except ParseError α) (test : α → Leaf) :
    Alike base (first.map fun value => leaf (test value)) (first.map fun value => leaf (test value)) := by
  cases first with
  | error error => exact .error error
  | ok value => exact .criteria _

theorem options_alike {α : Type} (base : Path) (first : Except ParseError α)
    (set other : α → ScanOptions) (kept : ∀ value, (set value).base = base)
    (same : ∀ value, (other value).base = base) :
    Alike base (first.map fun value => .options (set value))
      (first.map fun value => .options (other value)) := by
  cases first with
  | error error => exact .error error
  | ok value => exact .options _ _ (kept value) (same value)

section

variable (lexeme : String) (payload : Option String) (now : Instant) (first second : ScanOptions)
variable (same : second.base = first.base)

include same

theorem short_alike :
    Alike first.base (short lexeme payload now first) (short lexeme payload now second) := by
  unfold short
  split
  · exact .error _
  · extract_lets argument
    clear_value argument
    split
    · split
      · exact .error _
      · cases typeTests argument with
        | error error => exact .error error
        | ok items => exact .criteria items
    · split
      · exact .criteria _
      · exact .error _
    · exact leaf_alike _ _ id
    · exact leaf_alike _ _ id
    · exact leaf_alike _ _ id
    · exact leaf_alike _ _ id
    · split
      · exact .options _ _ rfl same
      · exact .error _
    · exact .error _

theorem withPayload_alike (name : String) (text : List Char) :
    Alike first.base (withPayload lexeme name text first) (withPayload lexeme name text second) := by
  unfold withPayload
  dsimp only
  rw [same]
  split
  · exact .criteria _
  · exact leaf_alike _ _ fun needle => .content needle true
  · exact leaf_alike _ _ fun regex => .regex ⟨_, regex⟩
  · exact .criteria _
  · exact .options _ _ rfl rfl
  · exact options_alike _ _ _ _ (fun _ => rfl) fun _ => rfl
  · exact options_alike _ _ _ _ (fun _ => rfl) fun _ => rfl
  · exact options_alike _ _ _ _ (fun _ => rfl) fun _ => rfl
  · exact .options _ _ rfl rfl
  · exact options_alike _ _ _ _ (fun _ => rfl) fun _ => rfl
  · split
    · exact leaf_alike _ _ fun digests => .digest _ digests
    · exact .error _

theorem long_alike (name : String) (other : name ≠ "loadline") :
    Alike first.base (long lexeme name payload first) (long lexeme name payload second) := by
  unfold long
  split
  · exact absurd rfl other
  · exact .options _ _ rfl same
  · exact .options _ _ rfl same
  · exact .options _ _ rfl same
  · exact .options _ _ rfl same
  · split
    · split
      · exact .error _
      · exact withPayload_alike lexeme first second same _ _
    · exact .error _

/-- Of the options, only the base directory decides what a modifier adds or is refused for. -/
theorem interpret_alike (free : (Token.modifier lexeme payload).asksLoadline = false) :
    Alike first.base (interpret lexeme payload now first) (interpret lexeme payload now second) := by
  unfold interpret
  split
  · rename_i name spelled
    apply long_alike lexeme payload first second same
    intro loadline
    have lowered : name.map Char.toLower = "loadline".toList := by
      rw [← loadline, String.toList_ofList]
    rw [Token.asksLoadline, spelled, List.map_cons, List.map_cons, lowered] at free
    exact absurd free (by decide)
  · exact short_alike lexeme payload now first second same

end

section

variable {lexeme : String} {payload : Option String} {now : Instant} {options : ScanOptions}

theorem criteria_of_interpret {items : List Criterion}
    (free : (Token.modifier lexeme payload).asksLoadline = false)
    (interpreted : interpret lexeme payload now options = .ok (.criteria items)) :
    (Token.modifier lexeme payload).criteria now options.base = items ∧
      (Token.modifier lexeme payload).Applies now options.base := by
  have alike := interpret_alike lexeme payload now options (.initial options.base) rfl free
  rw [interpreted] at alike
  generalize initially : interpret lexeme payload now (.initial options.base) = result at alike
  cases alike
  exact ⟨by rw [Token.criteria, initially], free, _, initially⟩

theorem options_of_interpret {changed : ScanOptions}
    (free : (Token.modifier lexeme payload).asksLoadline = false)
    (interpreted : interpret lexeme payload now options = .ok (.options changed)) :
    changed.base = options.base ∧ (Token.modifier lexeme payload).criteria now options.base = [] ∧
      (Token.modifier lexeme payload).Applies now options.base := by
  have alike := interpret_alike lexeme payload now options (.initial options.base) rfl free
  rw [interpreted] at alike
  generalize initially : interpret lexeme payload now (.initial options.base) = result at alike
  cases alike with
  | options first second kept same =>
      exact ⟨kept, by rw [Token.criteria, initially], free, _, initially⟩

theorem interpret_long (name : List Char) (spelled : lexeme.toList.map Char.toLower = '-' :: '-' :: name) :
    interpret lexeme payload now options = long lexeme (String.ofList name) payload options := by
  obtain ⟨first, rest, word, dash, spelled⟩ := List.map_eq_cons_iff.mp spelled
  obtain ⟨second, letters, rfl, again, lowered⟩ := List.map_eq_cons_iff.mp spelled
  have dash := Ascii.eq_of_toLower first '-' dash rfl
  have again := Ascii.eq_of_toLower second '-' again rfl
  subst dash again
  simp only [interpret, word, lowered]

theorem interpret_loadline
    (asks : (Token.modifier lexeme payload).asksLoadline = true) :
    interpret lexeme payload now options = .ok (.loadline payload) := by
  have spelled : lexeme.toList.map Char.toLower = '-' :: '-' :: "loadline".toList := eq_of_beq asks
  rw [interpret_long _ spelled]
  rfl

theorem asksLoadline_of_interpret {name : Option String}
    (interpreted : interpret lexeme payload now options = .ok (.loadline name)) :
    (Token.modifier lexeme payload).asksLoadline = true := by
  cases free : (Token.modifier lexeme payload).asksLoadline with
  | true => rfl
  | false =>
      have alike := interpret_alike lexeme payload now options options rfl free
      rw [interpreted] at alike
      cases alike

theorem asksLoadline_of_criteria {base : Path}
    (yields : (Token.modifier lexeme payload).criteria now base ≠ []) :
    (Token.modifier lexeme payload).asksLoadline = false := by
  apply Bool.eq_false_iff.mpr
  intro asks
  rw [Token.criteria, interpret_loadline asks] at yields
  exact yields rfl

theorem interpret_of_criteria
    (yields : (Token.modifier lexeme payload).criteria now options.base ≠ []) :
    interpret lexeme payload now options =
      .ok (.criteria ((Token.modifier lexeme payload).criteria now options.base)) := by
  have free := asksLoadline_of_criteria yields
  have alike := interpret_alike lexeme payload now (.initial options.base) options rfl free
  generalize interpret lexeme payload now options = result at alike ⊢
  rw [Token.criteria] at yields ⊢
  generalize interpret lexeme payload now (.initial options.base) = initially at alike yields ⊢
  cases alike with
  | criteria items => rfl
  | error | options => exact absurd rfl yields

end

end Modifier
end FileSieve
