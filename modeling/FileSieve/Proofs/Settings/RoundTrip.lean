import Mathlib.Data.Option.Basic
import FileSieve.Proofs.Disk.Places
import FileSieve.Proofs.Ordering
import FileSieve.Proofs.Settings.Tokens
import FileSieve.Proofs.Text.Number
import FileSieve.Settings.Disk

/-! Settings are read back as they were written. Reading the text of a value in an object leaves the reader behind that
value, whatever is open around it; so the whole text is read as one object of two members, from which come the number
of threads and the loadlines, in the same order. -/

namespace FileSieve

open JsonToken (Stops stops_cons)

namespace JsonState

def readOn (state : JsonState) (text : List Char) : Option JsonState :=
  (JsonToken.scan .between text).bind state.run

theorem readOn_nil (state : JsonState) : state.readOn [] = some state := rfl

theorem readOn_space (state : JsonState) {c : Char} (blank : JsonToken.isSpace c = true) (rest : List Char) :
    state.readOn (c :: rest) = state.readOn rest := by
  have stepped : JsonToken.step c .between = some ([], .between) := if_pos blank
  rw [readOn, JsonToken.scan_silent stepped, readOn]

theorem readOn_spaces (state : JsonState) (count : Nat) (rest : List Char) :
    state.readOn (List.replicate count ' ' ++ rest) = state.readOn rest := by
  induction count with
  | zero => rfl
  | succ count ih =>
      rw [List.replicate_succ, List.cons_append, readOn_space state (by decide), ih]

theorem readOn_token {state next : JsonState} {token : JsonToken} {text rest : List Char}
    (scanned : JsonToken.scan .between text = (JsonToken.scan .between rest).map (token :: ·))
    (stepped : state.step token = some next) : state.readOn text = next.readOn rest := by
  rw [readOn, scanned, readOn, Option.bind_map]
  congr 1
  funext tokens
  rw [Function.comp_apply, run, stepped, Option.bind_some]

theorem readOn_mark {state next : JsonState} {mark : JsonMark} {c : Char} (rest : List Char)
    (started : JsonToken.start c = some ([.mark mark], .between)) (stepped : state.step (.mark mark) = some next) :
    state.readOn (c :: rest) = next.readOn rest := by
  have marked : JsonToken.step c .between = some ([.mark mark], .between) := started
  exact readOn_token (JsonToken.scan_step marked rest) stepped

theorem readOn_quoted {state next : JsonState} (text rest : List Char)
    (stepped : state.step (.scalar (.string (text.flatMap Utf16.units))) = some next) :
    state.readOn (Settings.quoted text ++ rest) = next.readOn rest :=
  readOn_token (JsonToken.scan_quoted text rest) stepped

/-- Where a value is expected, the text is read as this one. -/
def Spells (text : List Char) (found : JsonValue) : Prop :=
  ∀ outer rest, Stops rest → (value outer).readOn (text ++ rest) = (place found outer).readOn rest

theorem spells_quoted (text : List Char) : Spells (Settings.quoted text) (.string (text.flatMap Utf16.units)) := by
  intro outer rest _
  exact readOn_quoted text rest rfl

theorem spells_toDigits (n : Nat) : Spells (Nat.toDigits 10 n) (.number (Nat.toDigits 10 n)) := by
  intro outer rest stops
  exact readOn_token (JsonToken.scan_toDigits n stops) rfl

structure WrittenMember where
  name : List Char
  text : List Char
  found : JsonValue

namespace WrittenMember

def lines (level : Nat) (written : WrittenMember) : List Char := Settings.member level written.name written.text

def pair (written : WrittenMember) : List Nat × JsonValue := (written.name.flatMap Utf16.units, written.found)

end WrittenMember

theorem readOn_member {state : JsonState} {outer : List JsonFrame} {members : List (List Nat × JsonValue)}
    (level : Nat) (written : WrittenMember) (spells : Spells written.text written.found)
    (named : ∀ name, state.step (.scalar (.string name)) = some (colon members name outer)) {rest : List Char}
    (stops : Stops rest) :
    state.readOn (written.lines level ++ rest) = (behindMember (written.pair :: members) outer).readOn rest := by
  have value := spells (.member members (written.name.flatMap Utf16.units) :: outer) rest stops
  rw [WrittenMember.lines, Settings.member, List.append_assoc, List.append_assoc, List.cons_append, List.cons_append,
    List.cons_append, readOn_space state (by decide), readOn_spaces, readOn_quoted _ _ (named _),
    readOn_mark _ rfl rfl, readOn_space _ (by decide), value]
  rfl

theorem readOn_members {outer : List JsonFrame} (members : List (List Nat × JsonValue)) (level : Nat)
    (others : List WrittenMember) (spells : ∀ written ∈ others, Spells written.text written.found)
    {rest : List Char} (stops : Stops rest) :
    (behindMember members outer).readOn (others.flatMap (fun written => ',' :: written.lines level) ++ rest) =
      (behindMember ((others.map WrittenMember.pair).reverse ++ members) outer).readOn rest := by
  induction others generalizing members with
  | nil => rfl
  | cons written others ih =>
      obtain ⟨first, later⟩ := List.forall_mem_cons.mp spells
      have following : Stops (others.flatMap (fun written => ',' :: written.lines level) ++ rest) := by
        cases others with
        | nil => exact stops
        | cons next others => exact stops_cons (by decide) _
      rw [List.flatMap_cons, List.append_assoc, List.cons_append, readOn_mark _ rfl rfl,
        readOn_member level written first (fun _ => rfl) following, ih _ later, List.map_cons, List.reverse_cons,
        List.append_assoc, List.singleton_append]

theorem intercalate_comma (first : List Char) (others : List (List Char)) :
    [','].intercalate (first :: others) = first ++ others.flatMap (',' :: ·) := by
  induction others generalizing first with
  | nil => simp [List.intercalate]
  | cons next others ih =>
      rw [List.intercalate_cons_cons, ih, List.flatMap_cons, List.append_assoc, List.singleton_append,
        List.cons_append]

theorem spells_object (level : Nat) (members : List WrittenMember)
    (spells : ∀ written ∈ members, Spells written.text written.found) :
    Spells (Settings.object level (members.map (WrittenMember.lines (level + 1))))
      (.object (members.map WrittenMember.pair)) := by
  intro outer rest stops
  cases members with
  | nil =>
      have opened : (value outer).step (.mark .openBrace) = some (firstKey outer) := rfl
      have closed : (firstKey outer).step (.mark .closeBrace) = some (place (.object []) outer) := rfl
      exact (readOn_mark _ rfl opened).trans (readOn_mark _ rfl closed)
  | cons written others =>
      obtain ⟨first, later⟩ := List.forall_mem_cons.mp spells
      have closing : Stops ('\n' :: (List.replicate (2 * level) ' ' ++ '\x7d' :: rest)) := stops_cons (by decide) _
      have behind : Stops (others.flatMap (fun written => ',' :: written.lines (level + 1)) ++
          '\n' :: (List.replicate (2 * level) ' ' ++ '\x7d' :: rest)) := by
        cases others with
        | nil => exact closing
        | cons next others => exact stops_cons (by decide) _
      have whole : Settings.object level ((written :: others).map (WrittenMember.lines (level + 1))) ++ rest =
          '\x7b' :: (written.lines (level + 1) ++ (others.flatMap (fun written => ',' :: written.lines (level + 1)) ++
            '\n' :: (List.replicate (2 * level) ' ' ++ '\x7d' :: rest))) := by
        rw [List.map_cons, Settings.object, intercalate_comma, List.flatMap_map]
        · simp
        · exact List.cons_ne_nil _ _
      rw [whole, readOn_mark _ rfl rfl, readOn_member _ written first (fun _ => rfl) behind,
        readOn_members _ _ _ later closing, readOn_space _ (by decide), readOn_spaces, readOn_mark _ rfl rfl]
      simp

theorem read?_of_spells {text : List Char} {found : JsonValue} (spells : Spells text found) :
    JsonValue.read? text = some found := by
  have whole := spells [] [] nofun
  rw [List.append_nil, readOn_nil, readOn] at whole
  obtain ⟨tokens, scanned, ran⟩ := Option.bind_eq_some_iff.mp whole
  simp only [JsonValue.read?, scanned, Option.bind_eq_bind, Option.bind_some, ran, place]

end JsonState

namespace Settings

/-- Names come in order, and none comes twice. -/
def InOrder (lines : List (List Char × List Char)) : Prop :=
  lines.Pairwise fun earlier later => compareText earlier.1 later.1 = .lt

theorem putLine_behind (name line : List Char) (lines : List (List Char × List Char))
    (behind : ∀ entry ∈ lines, compareText name entry.1 = .gt) : putLine name line lines = lines ++ [(name, line)] := by
  induction lines with
  | nil => rfl
  | cons entry lines ih =>
      obtain ⟨first, others⟩ := List.forall_mem_cons.mp behind
      rw [putLine, first, List.cons_append]
      exact congrArg (entry :: ·) (ih others)

theorem linesFrom_inOrder (front back : List (List Char × List Char)) (order : InOrder (front ++ back)) :
    linesFrom front (back.map fun (name, line) => (name.flatMap Utf16.units, .string (line.flatMap Utf16.units))) =
      some (front ++ back) := by
  induction back generalizing front with
  | nil => rw [List.map_nil, linesFrom, List.append_nil]
  | cons entry back ih =>
      obtain ⟨name, line⟩ := entry
      have behind : ∀ other ∈ front, compareText name other.1 = .gt := by
        intro other member
        have before := (List.pairwise_append.mp order).2.2 other member (name, line) List.mem_cons_self
        exact Std.OrientedCmp.gt_of_lt before
      have rest := ih (front ++ [(name, line)]) (by rwa [List.append_assoc])
      simp only [List.map_cons, linesFrom, JsonValue.text?, Utf16.characters?_flatMap_units, Option.bind_eq_bind,
        Option.bind_some, putLine_behind name line front behind, rest, List.append_assoc, List.singleton_append]

/-- What a number of threads can be, and that the loadlines are in order. -/
structure Valid (settings : Settings) : Prop where
  threads : settings.threads < UInt64.size
  loadlines : InOrder settings.loadlines

theorem mem_putLine {name line : List Char} {lines : List (List Char × List Char)} {entry : List Char × List Char}
    (member : entry ∈ putLine name line lines) : entry = (name, line) ∨ entry ∈ lines := by
  fun_induction putLine name line lines with
  | case1 => exact .inl (List.mem_singleton.mp member)
  | case2 other kept rest _ => exact List.mem_cons.mp member
  | case3 other kept rest _ => exact (List.mem_cons.mp member).imp_right (List.mem_cons_of_mem _)
  | case4 other kept rest _ ih =>
      rcases List.mem_cons.mp member with rfl | later
      · exact .inr List.mem_cons_self
      · exact (ih later).imp_right (List.mem_cons_of_mem _)

theorem putLine_inOrder (name line : List Char) (lines : List (List Char × List Char)) (order : InOrder lines) :
    InOrder (putLine name line lines) := by
  fun_induction putLine name line lines with
  | case1 => exact List.pairwise_singleton _ _
  | case2 other kept rest before =>
      refine List.pairwise_cons.mpr ⟨?_, order⟩
      intro entry member
      rcases List.mem_cons.mp member with rfl | later
      · exact before
      · exact Std.TransCmp.lt_trans before ((List.pairwise_cons.mp order).1 entry later)
  | case3 other kept rest same =>
      obtain ⟨first, others⟩ := List.pairwise_cons.mp order
      refine List.pairwise_cons.mpr ⟨?_, others⟩
      intro entry later
      exact Std.TransCmp.lt_of_eq_of_lt same (first entry later)
  | case4 other kept rest behind ih =>
      obtain ⟨first, others⟩ := List.pairwise_cons.mp order
      refine List.pairwise_cons.mpr ⟨?_, ih others⟩
      intro entry member
      rcases mem_putLine member with rfl | later
      · exact Std.OrientedCmp.lt_of_gt behind
      · exact first entry later

theorem inOrder_of_linesFrom {lines result : List (List Char × List Char)} {members : List (List Nat × JsonValue)}
    (order : InOrder lines) (taken : linesFrom lines members = some result) : InOrder result := by
  induction members generalizing lines with
  | nil =>
      cases taken
      exact order
  | cons member members ih =>
      obtain ⟨key, value⟩ := member
      simp only [linesFrom, Option.bind_eq_bind, Option.bind_eq_some_iff] at taken
      obtain ⟨name, _, line, _, rest⟩ := taken
      exact ih (putLine_inOrder name line lines order) rest

theorem inOrder_of_lines? {value : JsonValue} {lines : List (List Char × List Char)}
    (read : lines? value = some lines) : InOrder lines := by
  cases value with
  | object members => exact inOrder_of_linesFrom List.Pairwise.nil read
  | null | boolean | number | string | array => cases read

theorem bounded_of_threads? {value : JsonValue} {threads : Nat} (read : threads? value = some threads) :
    threads < UInt64.size := by
  cases value with
  | number spelling => exact of_decide_eq_true (Option.filter_eq_some_iff.mp read).2
  | null | boolean | string | array | object => cases read

theorem valid_of_ofMembers? {sofar : Members} {members : List (List Nat × JsonValue)} {settings : Settings}
    (threads : ∀ threads ∈ sofar.threads, threads < UInt64.size) (lines : ∀ lines ∈ sofar.loadlines, InOrder lines)
    (read : ofMembers? sofar members = some settings) : settings.Valid := by
  induction members generalizing sofar with
  | nil =>
      cases read
      constructor
      · cases found : sofar.threads with
        | none => simp [Members.settings, found, initial, UInt64.size]
        | some count => simpa [Members.settings, found] using threads count found
      · cases found : sofar.loadlines with
        | none => simp [Members.settings, found, initial, InOrder]
        | some kept => simpa [Members.settings, found] using lines kept found
  | cons member members ih =>
      obtain ⟨key, value⟩ := member
      simp only [ofMembers?, Option.bind_eq_bind, Option.bind_eq_some_iff] at read
      obtain ⟨name, _, read⟩ := read
      split at read
      · simp only [Option.bind_eq_some_iff] at read
        obtain ⟨_, _, count, counted, rest⟩ := read
        -- A repeated member is refused, so each is read once.
        refine ih ?_ ?_ rest
        · rintro _ ⟨⟩
          exact bounded_of_threads? counted
        · exact lines
      · split at read
        · simp only [Option.bind_eq_some_iff] at read
          obtain ⟨_, _, kept, taken, rest⟩ := read
          refine ih ?_ ?_ rest
          · exact threads
          · rintro _ ⟨⟩
            exact inOrder_of_lines? taken
        · exact ih threads lines read

theorem valid_initial : initial.Valid := ⟨by decide, List.Pairwise.nil⟩

theorem valid_of_ofText? {text : List Char} {settings : Settings} (read : ofText? text = some settings) :
    settings.Valid := by
  obtain ⟨value, _, found⟩ := Option.bind_eq_some_iff.mp read
  unfold ofJson? at found
  split at found
  · refine valid_of_ofMembers? ?_ ?_ found <;> exact fun _ => nofun
  · cases found
    exact valid_initial
  · obtain ⟨count, counted, made⟩ := Option.bind_eq_some_iff.mp found
    cases made
    exact ⟨bounded_of_threads? counted, List.Pairwise.nil⟩
  · obtain ⟨count, counted, more⟩ := Option.bind_eq_some_iff.mp found
    obtain ⟨lines, taken, made⟩ := Option.bind_eq_some_iff.mp more
    cases made
    exact ⟨bounded_of_threads? counted, inOrder_of_lines? taken⟩
  · cases found

def numberMember (name : List Char) (n : Nat) : JsonState.WrittenMember :=
  ⟨name, Nat.toDigits 10 n, .number (Nat.toDigits 10 n)⟩

def textMember (entry : List Char × List Char) : JsonState.WrittenMember :=
  ⟨entry.1, quoted entry.2, .string (entry.2.flatMap Utf16.units)⟩

def objectMember (name : List Char) (members : List JsonState.WrittenMember) : JsonState.WrittenMember :=
  ⟨name, object 1 (members.map (JsonState.WrittenMember.lines 2)), .object (members.map JsonState.WrittenMember.pair)⟩

theorem written_eq (settings : Settings) :
    settings.written =
      object 0 ([numberMember "scan_threads".toList settings.threads,
        objectMember "loadlines".toList (settings.loadlines.map textMember)].map
          (JsonState.WrittenMember.lines 1)) := by
  rw [written, List.map_cons, List.map_cons, List.map_nil, JsonState.WrittenMember.lines,
    JsonState.WrittenMember.lines, numberMember, objectMember, List.map_map]
  rfl

theorem read?_written (settings : Settings) :
    JsonValue.read? settings.written =
      some (.object [(numberMember "scan_threads".toList settings.threads).pair,
        (objectMember "loadlines".toList (settings.loadlines.map textMember)).pair]) := by
  have lines : ∀ written ∈ settings.loadlines.map textMember, JsonState.Spells written.text written.found := by
    intro written member
    obtain ⟨entry, _, rfl⟩ := List.mem_map.mp member
    exact JsonState.spells_quoted entry.2
  rw [written_eq]
  refine JsonState.read?_of_spells (JsonState.spells_object 0 _ ?_)
  intro written member
  rcases List.mem_cons.mp member with rfl | member
  · exact JsonState.spells_toDigits settings.threads
  · obtain rfl := List.mem_singleton.mp member
    exact JsonState.spells_object 1 _ lines

theorem threads?_toDigits {threads : Nat} (bounded : threads < UInt64.size) :
    threads? (.number (Nat.toDigits 10 threads)) = some threads := by
  rw [threads?, Number.natural?_toDigits, Option.filter_some, decide_eq_true bounded, if_pos rfl]

theorem lines?_written {lines : List (List Char × List Char)} (order : InOrder lines) :
    lines? (.object ((lines.map textMember).map JsonState.WrittenMember.pair)) = some lines := by
  rw [lines?, List.map_map]
  exact linesFrom_inOrder [] lines order

theorem ofText?_written (settings : Settings) (valid : settings.Valid) :
    ofText? settings.written = some settings := by
  have threads := threads?_toDigits valid.threads
  have lines := lines?_written valid.loadlines
  have other : "loadlines".toList ≠ "scan_threads".toList := by decide
  rw [ofText?, read?_written, Option.bind_some, ofJson?]
  simp only [ofMembers?, JsonState.WrittenMember.pair, numberMember, objectMember, Utf16.characters?_flatMap_units,
    Option.bind_eq_bind, Option.bind_some, if_true, if_neg other, threads, lines]
  rfl

/-- A file that holds settings as they are written is loaded as the same settings. -/
theorem load_written (settings : Settings) (valid : settings.Valid) (disk : Disk) (path : Path)
    (kept : disk.contents path = .ok (Utf8.encode settings.written)) : load disk path = .ok settings := by
  have there : ∃ entry, disk.lookup path true = .ok entry := by
    cases found : disk.lookup path true with
    | ok entry => exact ⟨entry, rfl⟩
    | error e =>
        rw [Disk.contents, found] at kept
        cases kept
  have text : disk.readText path = .ok settings.written := by
    simp only [Disk.readText, kept, bind, Except.bind, Utf8.decode?_encode]
  obtain ⟨entry, found⟩ := there
  simp only [load, found, text, ofText?_written settings valid]

def twoThreads : Settings := ⟨2, [([], ['"', '\\', '\x01']), ("logs".toList, "*.log".toList)]⟩

theorem load_written_twoThreads :
    twoThreads.Valid ∧
      (Disk.mk [.file [0x61] ⟨⟨0, 0⟩, false⟩ (Utf8.encode twoThreads.written)] ⟨[]⟩).contents (.absolute [[0x61]]) =
        .ok (Utf8.encode twoThreads.written) ∧
      load (Disk.mk [.file [0x61] ⟨⟨0, 0⟩, false⟩ (Utf8.encode twoThreads.written)] ⟨[]⟩) (.absolute [[0x61]]) =
        .ok twoThreads := by
  have valid : twoThreads.Valid := ⟨by decide, by simp [InOrder, twoThreads]; decide⟩
  have kept : (Disk.mk [.file [0x61] ⟨⟨0, 0⟩, false⟩ (Utf8.encode twoThreads.written)] ⟨[]⟩).contents
      (.absolute [[0x61]]) = .ok (Utf8.encode twoThreads.written) := by
    rw [Disk.contents, Disk.lookup_at _ (by decide) [[0x61]] _ rfl rfl (by decide)]
  exact ⟨valid, kept, load_written twoThreads valid _ _ kept⟩

end Settings
end FileSieve
