import Discern.Detection.Detector
import Discern.Proofs.Stream.History
import Mathlib.Data.List.Find

/-!
# One read for all rules

The detector of a table reads once, as much as the widest of its rules with an asked tag wants
to see, and shows every rule the beginning of what was read.  This is as good as a stream for
each rule of its own, of which the rule sees its window (`RuleTable.detectApart`): the first rule
in the order of the table that holds for the content gives the tag (`RuleTable.Tells`), whatever
the pieces are in which streams hand the content out.  Rules with other tags have no part in it
(`RuleTable.look_tells`).
-/

namespace Discern

section Counting

variable {σ : Type}

/-- A stream that counts the bytes it hands out. -/
def StreamKind.counting (kind : StreamKind σ) : StreamKind (σ × Nat) where
  toReader := kind.toReader.counting
  rewind s := ((kind.rewind s.1).1, (kind.rewind s.1).2, s.2)
  limit bound s := (kind.limit bound s.1, s.2)

/-- The same stream, with a count of the bytes it hands out from now on. -/
def ByteStream.counted (stream : ByteStream) : ByteStream :=
  ⟨stream.kind.counting, stream.state, 0⟩

/-- A count changes nothing about reading up to a limit, which takes no more than that however it
ends. -/
theorem Reader.counting_readUpTo (reader : Reader σ) (limit count : Nat) (s : σ) :
    ∃ total ≤ count + limit, reader.counting.readUpTo (some limit) (s, count) =
      ((reader.readUpTo (some limit) s).1, (reader.readUpTo (some limit) s).2, total) := by
  induction limit using Nat.strongRecOn generalizing s count with
  | ind limit ih =>
      rw [Reader.readUpTo, Reader.readUpTo]
      split
      · exact ⟨count, Nat.le_add_right _ _, rfl⟩
      · have small := (reader.taken_le (request (some limit)) s).trans (request_le limit)
        have counted : reader.counting.read (request (some limit)) (s, count) =
            ((reader.read (request (some limit)) s).1, (reader.read (request (some limit)) s).2,
              count + taken (reader.read (request (some limit)) s).1) := rfl
        rcases reads : reader.read (request (some limit)) s with ⟨answer, next⟩
        rw [reads] at small counted
        rw [counted]
        rcases answer with fault | _ | ⟨byte, bytes⟩
        · exact ⟨count, Nat.le_add_right _ _, rfl⟩
        · exact ⟨count, Nat.le_add_right _ _, rfl⟩
        · rw [taken_ok, List.length_cons] at small
          obtain ⟨total, within, further⟩ := ih (limit - (bytes.length + 1)) (by omega)
            (count + (bytes.length + 1)) next
          refine ⟨total, by omega, ?_⟩
          simp only [Option.map_some, taken_ok, List.length_cons, further]
          rcases reader.readUpTo (some (limit - (bytes.length + 1))) next with ⟨_ | _, last⟩ <;> rfl

end Counting

section Widest

variable {entry : TableEntry} {entries : List TableEntry}

namespace RuleTable

theorem foldl_window (n : Nat) (entries : List TableEntry) :
    entries.foldl (fun n entry => Nat.max n entry.rule.window) n = max n (windowOf entries) := by
  induction entries generalizing n with
  | nil => exact (Nat.max_zero n).symm
  | cons entry entries ih =>
      rw [windowOf, List.foldl_cons, List.foldl_cons, ih, ih]
      change max (max n entry.rule.window) _ = max n (max (max 0 entry.rule.window) _)
      rw [Nat.zero_max, Nat.max_assoc]

theorem windowOf_cons (entry : TableEntry) (rest : List TableEntry) :
    windowOf (entry :: rest) = max entry.rule.window (windowOf rest) := by
  rw [windowOf, List.foldl_cons, foldl_window]
  change max (max 0 entry.rule.window) _ = _
  rw [Nat.zero_max]

/-- No entry of a table looks further than the table's shared window. -/
theorem window_le_windowOf (member : entry ∈ entries) :
    entry.rule.window ≤ windowOf entries := by
  induction entries with
  | nil => cases member
  | cons first rest ih =>
      rw [windowOf_cons]
      rcases List.mem_cons.mp member with rfl | later
      · exact Nat.le_max_left _ _
      · exact (ih later).trans (Nat.le_max_right _ _)

/-- Some entry wants to see what the widest wants, unless there is none. -/
theorem exists_window_eq (entries : List TableEntry) :
    windowOf entries = 0 ∨ ∃ entry ∈ entries, entry.rule.window = windowOf entries := by
  induction entries with
  | nil => exact .inl rfl
  | cons first rest ih =>
      right
      rw [windowOf_cons]
      rcases Nat.le_total (windowOf rest) first.rule.window with wide | narrow
      · exact ⟨first, List.mem_cons_self, (Nat.max_eq_left wide).symm⟩
      · rw [Nat.max_eq_right narrow]
        rcases ih with nothing | ⟨entry, member, same⟩
        · exact ⟨first, List.mem_cons_self, by omega⟩
        · exact ⟨entry, List.mem_cons_of_mem _ member, same⟩

end RuleTable

/-- More than its window a rule does not see. -/
theorem Rule.holdsFor_take {rule : Rule} {n : Nat} (wide : rule.window ≤ n) (content : Bytes) :
    rule.holdsFor (content.take n) = rule.holdsFor content := by
  rw [holdsFor, holdsFor, List.take_take, Nat.min_eq_left wide]

end Widest

/-- **An entry has an asked tag and holds for a content,** of which it sees its window. -/
def TableEntry.Answers (asked : TagSet) (content : Bytes) (entry : TableEntry) : Prop :=
  entry.tag ∈ asked ∧ entry.rule.accepts (content.take entry.rule.window) = true

instance (asked : TagSet) (content : Bytes) (entry : TableEntry) :
    Decidable (entry.Answers asked content) :=
  inferInstanceAs (Decidable (_ ∧ _))

/-- The rules judge by the bytes in the window of the widest of them. -/
theorem Detector.ofTable_run (table : RuleTable) (asked : TagSet) (stream : ByteStream) :
    ((ofTable table).look asked).run stream =
      (Probe.judge (some (RuleTable.windowOf (table.enabled asked)))
        (table.detect asked)).run stream := by
  obtain ⟨kind, s⟩ := stream
  cases entries : table.enabled asked with
  | nil =>
      have idle : (ofTable table).look asked = .answer (.ok .unknown) := by
        simp only [ofTable, entries, List.isEmpty_nil, ↓reduceIte]
      have silent : kind.readUpTo (some 0) s = (.ok [], s) := by
        rw [Reader.readUpTo, if_pos rfl]
      have unmatched : table.detect asked [] = .unknown := by
        rw [RuleTable.detect, entries]
        rfl
      have judged : (Probe.judge (some 0) (table.detect asked)).run ⟨kind, s⟩ =
          ((kind.readUpTo (some 0) s).1.map (table.detect asked),
            ⟨kind, (kind.readUpTo (some 0) s).2⟩) := rfl
      have nothing : (Except.ok [] : Except Fault Bytes).map (table.detect asked) =
          .ok .unknown := congrArg Except.ok unmatched
      rw [idle]
      change (Except.ok FormatId.unknown, _) =
        (Probe.judge (some 0) (table.detect asked)).run ⟨kind, s⟩
      rw [judged, silent, nothing]
  | cons entry rest =>
      simp only [ofTable, entries, List.isEmpty_cons, Bool.false_eq_true, ↓reduceIte]

namespace RuleTable

/-- **What a table tells about a content,** asked for some tags: the tag of the first entry that
answers. -/
inductive Tells (table : RuleTable) (asked : TagSet) (content : Bytes) : FormatId → Prop
  | first {before entry after} : table.entries = before ++ entry :: after →
      entry.Answers asked content → (∀ earlier ∈ before, ¬earlier.Answers asked content) →
      Tells table asked content { tag := entry.tag }
  | none : (∀ entry ∈ table.entries, ¬entry.Answers asked content) →
      Tells table asked content .unknown

/-- **A read for each rule,** from a stream of its own.  A fault ends the search. -/
def detectApart (fresh : TableEntry → ByteStream) : List TableEntry → Except Fault FormatId
  | [] => .ok .unknown
  | entry :: rest =>
    match ((fresh entry).readUpTo (some entry.rule.window)).1 with
    | .error fault => .error fault
    | .ok lead =>
      if entry.rule.accepts lead then .ok { tag := entry.tag } else detectApart fresh rest

variable {table : RuleTable} {asked : TagSet} {content : Bytes}

/-- The enabled entries are those of the table whose tag was asked for. -/
theorem mem_enabled {entry : TableEntry} :
    entry ∈ table.enabled asked ↔ entry ∈ table.entries ∧ entry.tag ∈ asked := by
  rw [enabled, List.mem_filter, TagSet.contains_iff]

/-- The first enabled entry that matches is the first entry that answers. -/
theorem firstMatch?_enabled (table : RuleTable) (asked : TagSet) (content : Bytes) :
    firstMatch? (table.enabled asked) content =
      table.entries.find? fun entry => decide (entry.Answers asked content) := by
  rw [firstMatch?, enabled, List.find?_filter]
  refine List.find?_congr fun entry _ => decide_eq_decide.mpr ?_
  rw [TagSet.contains_iff, Rule.holdsFor, TableEntry.Answers]

/-- An entry is found exactly if it answers and no entry before it does. -/
theorem firstMatch?_eq_some_iff {entry : TableEntry} :
    firstMatch? (table.enabled asked) content = some entry ↔
      entry.Answers asked content ∧ ∃ before after, table.entries = before ++ entry :: after ∧
        ∀ earlier ∈ before, ¬earlier.Answers asked content := by
  rw [firstMatch?_enabled, List.find?_eq_some_iff_append]
  simp only [decide_eq_true_eq, Bool.not_eq_true', decide_eq_false_iff_not]

/-- Nothing is found exactly if no entry of the table answers. -/
theorem firstMatch?_eq_none_iff :
    firstMatch? (table.enabled asked) content = none ↔
      ∀ entry ∈ table.entries, ¬entry.Answers asked content := by
  rw [firstMatch?_enabled, List.find?_eq_none]
  simp only [decide_eq_true_eq]

/-- **A table tells what its detector answers,** and nothing else. -/
theorem tells_iff {id : FormatId} :
    table.Tells asked content id ↔ table.detect asked content = id := by
  rw [detect]
  constructor
  · rintro (⟨split, answers, silent⟩ | silent)
    · rw [firstMatch?_eq_some_iff.mpr ⟨answers, _, _, split, silent⟩]
    · rw [firstMatch?_eq_none_iff.mpr silent]
  · rintro rfl
    cases found : firstMatch? (table.enabled asked) content with
    | some entry =>
        obtain ⟨answers, before, after, split, silent⟩ := firstMatch?_eq_some_iff.mp found
        exact .first split answers silent
    | none => exact .none (firstMatch?_eq_none_iff.mp found)

/-- The bytes behind the widest enabled window do not bear on the answer. -/
theorem detect_take (table : RuleTable) (asked : TagSet) (content : Bytes) :
    table.detect asked (content.take (windowOf (table.enabled asked))) =
      table.detect asked content := by
  have same : firstMatch? (table.enabled asked)
      (content.take (windowOf (table.enabled asked))) =
        firstMatch? (table.enabled asked) content :=
    List.find?_congr fun entry member => Rule.holdsFor_take (window_le_windowOf member) content
  rw [detect, same, ← detect]

/-- Asking each entry on a fresh stream of its own finds the first that matches. -/
theorem detectApart_eq {fresh : TableEntry → ByteStream} (entries : List TableEntry)
    (shown : ∀ entry ∈ entries, (fresh entry).Shows (some content)) :
    detectApart fresh entries = .ok (match firstMatch? entries content with
      | some entry => { tag := entry.tag }
      | none => .unknown) := by
  induction entries with
  | nil => rfl
  | cons entry rest ih =>
      obtain ⟨here, later⟩ := List.forall_mem_cons.mp shown
      have lead : ((fresh entry).readUpTo (some entry.rule.window)).1 =
          .ok (content.take entry.rule.window) := (here.readUpTo (some entry.rule.window)).1
      rw [detectApart, lead, firstMatch?, List.find?_cons, Rule.holdsFor]
      dsimp only
      cases entry.rule.accepts (content.take entry.rule.window) with
      | true => rfl
      | false => exact ih later

/-- **One read is as good as one for each rule.**  The detector of a table, asked for some tags,
answers what the table tells about the content that a stream shows, as it would if each rule with
an asked tag read its window from a stream of its own.  From any stream it takes no more bytes
than the widest of these rules wants to see.  Tables that differ in rules with other tags only
take the same look. -/
theorem look_tells (table : RuleTable) (asked : TagSet) {stream : ByteStream} {content : Bytes}
    (shown : stream.Shows (some content)) :
    (∃ id, (((Detector.ofTable table).look asked).run stream).1 = .ok id ∧
      ∀ other, table.Tells asked content other ↔ other = id) ∧
    (∀ fresh : TableEntry → ByteStream,
      (∀ entry ∈ table.enabled asked, (fresh entry).Shows (some content)) →
        (((Detector.ofTable table).look asked).run stream).1 =
          detectApart fresh (table.enabled asked)) ∧
    (∃ state taken, (((Detector.ofTable table).look asked).run stream).2 = ⟨stream.kind, state⟩ ∧
      (((Detector.ofTable table).look asked).run stream.counted).2 =
        ⟨stream.kind.counting, state, taken⟩ ∧
      (taken = 0 ∨ ∃ entry ∈ table.entries, entry.tag ∈ asked ∧ taken ≤ entry.rule.window)) ∧
    ∀ other : RuleTable, other.enabled asked = table.enabled asked →
      (Detector.ofTable other).look asked = (Detector.ofTable table).look asked := by
  have answer : (((Detector.ofTable table).look asked).run stream).1 =
      .ok (table.detect asked content) := by
    rw [Detector.ofTable_run, ← detect_take]
    exact congrArg (Except.map _) (shown.readUpTo (some _)).1
  refine ⟨⟨_, answer, fun other => tells_iff.trans eq_comm⟩, fun fresh shows => ?_, ?_,
    fun other same => ?_⟩
  · rw [answer, detectApart_eq _ shows]
    rfl
  · obtain ⟨taken, within, counted⟩ := stream.kind.counting_readUpTo
      (windowOf (table.enabled asked)) 0 stream.state
    refine ⟨_, taken, congrArg Prod.snd (Detector.ofTable_run table asked stream), ?_, ?_⟩
    · rw [Detector.ofTable_run]
      exact congrArg (fun answered => (⟨stream.kind.counting, answered.2⟩ : ByteStream)) counted
    · rw [Nat.zero_add] at within
      rcases exists_window_eq (table.enabled asked) with nothing | ⟨entry, member, widest⟩
      · exact .inl (Nat.le_zero.mp (nothing ▸ within))
      · obtain ⟨listed, wanted⟩ := mem_enabled.mp member
        exact .inr ⟨entry, listed, wanted, widest ▸ within⟩
  · have verdicts : other.detect asked = table.detect asked := by
      funext lead
      rw [detect, same, ← detect]
    simp only [Detector.ofTable, same, verdicts]

/-- Rules that count what they see.  The first has a tag that is not asked for. -/
def countingTable : RuleTable :=
  ⟨[⟨.ofString "any", .foreign 4096 fun _ => true⟩,
    ⟨.ofString "three", .foreign 3 fun lead => lead.length == 3⟩, ⟨.base64, .base64⟩,
    ⟨.ofString "two", .foreign 2 fun lead => lead.length == 2⟩]⟩

/-- What the counting table is asked for; it holds no rule for the first of them. -/
def countingTags : TagSet := .ofList [.base64, .ofString "three", .ofString "two"]

/-- On two bytes the second rule of the counting table answers, shared or apart. -/
theorem look_tells_two :
    (ByteStream.ofBytes [1, 2]).Shows (some [1, 2]) ∧
    (∃ id, (((Detector.ofTable countingTable).look countingTags).run (.ofBytes [1, 2])).1 = .ok id ∧
      ∀ other, countingTable.Tells countingTags [1, 2] other ↔ other = id) ∧
    (((Detector.ofTable countingTable).look countingTags).run (.ofBytes [1, 2])).1 =
      detectApart (fun _ => .ofBytes [1, 2]) (countingTable.enabled countingTags) ∧
    countingTable.detect countingTags [1, 2] = { tag := .ofString "two" } := by
  have shown : (ByteStream.ofBytes [1, 2]).Shows (some [1, 2]) := Cursor.shows _
  obtain ⟨answered, apart, -⟩ := look_tells countingTable countingTags shown
  exact ⟨shown, answered, apart _ fun _ _ => shown, by decide⟩

end RuleTable

end Discern
