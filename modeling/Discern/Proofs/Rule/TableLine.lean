import Discern.Proofs.Success
import Discern.Proofs.Text.Cut
import Discern.Rule.Table
import Mathlib.Data.List.Forall2

/-!
# The lines of a table

Each line of a table stands for itself: it says nothing, or it is well formed and lists one rule,
or it has a flaw.  `RuleTable.Line` gives the rules for what a line told, for any reader of
patterns.  A table is read if and only if none of its lines has a flaw, and the flaw that is
reported is that of the first line with one (`RuleTable.readWith_first_flaw`).
-/

namespace Discern

open Text

namespace RuleTable

/-- **A line that says nothing:** a blank one, or a comment. -/
def Silent (line : List Char) : Prop :=
  Blanks line ∨ ∃ before after, line = before ++ '#' :: after ∧ Blanks before

/-- A text is a word in letters of any case, with blanks around it. -/
def Names (text : List Char) (word : String) : Prop := (trim text).map Char.toLower = word.toList

/-- The built-in rules by their names. -/
inductive BuiltIn : String → Rule → Prop
  | base64 : BuiltIn "base64" .base64
  | gzip : BuiltIn "gzip" .gzip
  | zip : BuiltIn "zip" .zip

/-- **What a mode makes of its parameters.** -/
inductive Makes (patterns : PatternReader) (mode params : List Char) : Except LineFlaw Rule → Prop
  | literal {bytes} : Names mode "string" → Literal.read (String.ofList params) = .ok bytes →
      Makes patterns mode params (.ok (.literal bytes))
  | badLiteral {flaw} : Names mode "string" → Literal.read (String.ofList params) = .error flaw →
      Makes patterns mode params (.error (.literal flaw))
  | pattern {rule} : Names mode "regexp" → patterns (String.ofList params) = .ok rule →
      Makes patterns mode params (.ok rule)
  | badPattern {message} : Names mode "regexp" → patterns (String.ofList params) = .error message →
      Makes patterns mode params (.error (.pattern message))
  | builtIn {name rule} : Names mode "class" → BuiltIn name rule → Names params name →
      Makes patterns mode params (.ok rule)
  | unknownRule : Names mode "class" → (∀ name rule, BuiltIn name rule → ¬ Names params name) →
      Makes patterns mode params (.error (.unknownRule (String.ofList (trim params))))
  | unknownMode : ¬ Names mode "string" → ¬ Names mode "regexp" → ¬ Names mode "class" →
      Makes patterns mode params (.error (.unknownMode (String.ofList (trim mode))))

/-- **What a line says** that is neither blank nor a comment: an entry if it is well formed, and
else a flaw. -/
inductive Line (patterns : PatternReader) : List Char → Except LineFlaw TableEntry → Prop
  | parts {tag mode params result} : '=' ∉ tag → ¬ Blanks tag → ':' ∉ mode →
      Makes patterns mode params result →
      Line patterns (tag ++ '=' :: (mode ++ ':' :: params))
        (result.map (TableEntry.mk (.ofString (String.ofList tag))))
  | noEquals {line} : '=' ∉ line → Line patterns line (.error .noEquals)
  | noTag {tag rest} : Blanks tag → Line patterns (tag ++ '=' :: rest) (.error .noTag)
  | noColon {tag rest} : '=' ∉ tag → ¬ Blanks tag → ':' ∉ rest →
      Line patterns (tag ++ '=' :: rest) (.error .noColon)

/-- A line that does not stop a table from being read. -/
def Passes (patterns : PatternReader) (line : List Char) : Prop :=
  Silent line ∨ ∃ entry, Line patterns line (.ok entry)

variable {patterns : PatternReader} {line before mode params : List Char}
  {rows earlier : List (List Char)} {entries : List TableEntry} {word : String} {n : Nat}
  {flaw : LineFlaw}

/-! ## Silent lines -/

/-- The test of the reader tells the silent lines. -/
theorem isSilent_iff : isSilent line = true ↔ Silent line := by
  unfold isSilent
  constructor
  · intro silent
    split at silent
    · rename_i blank
      exact .inl (List.dropWhile_eq_nil_iff.1 blank)
    · rename_i c after starts
      cases beq_iff_eq.1 silent
      refine .inr ⟨line.takeWhile isBlank, after, ?_, fun c => List.mem_takeWhile_imp⟩
      rw [← starts, trimStart, List.takeWhile_append_dropWhile]
  · rintro (blanks | ⟨before, after, rfl, blanks⟩)
    · rw [trimStart, List.dropWhile_eq_nil_iff.2 blanks]
    · rw [trimStart_of_blanks blanks ⟨'#', rfl, rfl⟩]
      rfl

instance (line : List Char) : Decidable (Silent line) := decidable_of_iff _ isSilent_iff

/-! ## Modes -/

instance (text : List Char) (word : String) : Decidable (Names text word) :=
  inferInstanceAs (Decidable (_ = _))

/-- A mode trimmed and put in lower case is a word exactly if it names that word. -/
theorem ofList_eq_iff_names :
    String.ofList ((trim mode).map Char.toLower) = word ↔ Names mode word := by
  rw [Names, ← String.toList_inj, String.toList_ofList]

/-- A built-in rule is found exactly under the name it goes by, blanks around it aside. -/
theorem builtInRule?_eq_some_iff {rule : Rule} :
    builtInRule? (trim params) = some rule ↔ ∃ name, BuiltIn name rule ∧ Names params name := by
  constructor
  · intro found
    unfold builtInRule? at found
    split at found
    · cases found
      exact ⟨_, .base64, ofList_eq_iff_names.1 ‹_›⟩
    · cases found
      exact ⟨_, .gzip, ofList_eq_iff_names.1 ‹_›⟩
    · cases found
      exact ⟨_, .zip, ofList_eq_iff_names.1 ‹_›⟩
    · cases found
  · rintro ⟨name, listed, named⟩
    rw [builtInRule?, ofList_eq_iff_names.2 named]
    cases listed <;> rfl

/-- What a mode and its parameters make is what the reader answers for them. -/
theorem readRule_of_makes {result : Except LineFlaw Rule}
    (makes : Makes patterns mode params result) :
    readRule patterns (trim mode) params = result := by
  unfold readRule
  cases makes with
  | literal named read =>
      rw [ofList_eq_iff_names.2 named, read]
      rfl
  | badLiteral named read =>
      rw [ofList_eq_iff_names.2 named, read]
      rfl
  | pattern named read =>
      rw [ofList_eq_iff_names.2 named, read]
      rfl
  | badPattern named read =>
      rw [ofList_eq_iff_names.2 named, read]
      rfl
  | builtIn named listed called =>
      rw [ofList_eq_iff_names.2 named, builtInRule?_eq_some_iff.2 ⟨_, listed, called⟩]
      rfl
  | unknownRule named unlisted =>
      have none : builtInRule? (trim params) = none := by
        refine Option.eq_none_iff_forall_not_mem.2 fun rule found => ?_
        obtain ⟨name, listed, called⟩ := builtInRule?_eq_some_iff.1 found
        exact unlisted name rule listed called
      rw [ofList_eq_iff_names.2 named, none]
      rfl
  | unknownMode noString noPattern noClass =>
      split
      · exact absurd (ofList_eq_iff_names.1 ‹_›) noString
      · exact absurd (ofList_eq_iff_names.1 ‹_›) noPattern
      · exact absurd (ofList_eq_iff_names.1 ‹_›) noClass
      · rfl

/-- Every mode and parameters make what the reader answers, be it a rule or a flaw. -/
theorem makes_readRule (patterns : PatternReader) (mode params : List Char) :
    Makes patterns mode params (readRule patterns (trim mode) params) := by
  unfold readRule
  split
  · have named := ofList_eq_iff_names.1 ‹_›
    cases read : Literal.read (String.ofList params) with
    | ok bytes => exact .literal named read
    | error flaw => exact .badLiteral named read
  · have named := ofList_eq_iff_names.1 ‹_›
    cases read : patterns (String.ofList params) with
    | ok rule => exact .pattern named read
    | error message => exact .badPattern named read
  · have named := ofList_eq_iff_names.1 ‹_›
    split
    · obtain ⟨name, listed, called⟩ := builtInRule?_eq_some_iff.1 ‹_›
      exact .builtIn named listed called
    · refine .unknownRule named fun name rule listed called => ?_
      have found := builtInRule?_eq_some_iff.2 ⟨name, listed, called⟩
      rw [‹builtInRule? (trim params) = none›] at found
      cases found
  · rename_i noString noPattern noClass
    exact .unknownMode (fun named => noString (ofList_eq_iff_names.2 named))
      (fun named => noPattern (ofList_eq_iff_names.2 named))
      fun named => noClass (ofList_eq_iff_names.2 named)

/-! ## One line -/

/-- What a line says is what the reader answers for it. -/
theorem readLine_of_line {result : Except LineFlaw TableEntry}
    (told : Line patterns line result) : readLine patterns line = result := by
  unfold readLine
  cases told with
  | @parts tag mode params result apart filled undivided makes =>
      have named : (trim tag).isEmpty = false :=
        List.isEmpty_eq_false_iff.2 (mt trim_eq_nil_iff.1 filled)
      rw [splitAtFirst?_append apart]
      simp only [named, Bool.false_eq_true, ↓reduceIte, splitAtFirst?_append undivided,
        readRule_of_makes makes]
      cases result <;> rfl
  | noEquals absent => rw [splitAtFirst?_eq_none_iff.2 absent]
  | @noTag tag _ blanks =>
      have apart : '=' ∉ tag := fun member => absurd (blanks _ member) (by decide)
      rw [splitAtFirst?_append apart]
      simp only [trim_eq_nil_iff.2 blanks, List.isEmpty_nil, ↓reduceIte]
  | noColon apart filled undivided =>
      have named := List.isEmpty_eq_false_iff.2 (mt trim_eq_nil_iff.1 filled)
      rw [splitAtFirst?_append apart]
      simp only [named, Bool.false_eq_true, ↓reduceIte, splitAtFirst?_eq_none_iff.2 undivided]

/-- Every line says what the reader answers, be it an entry or a flaw. -/
theorem line_readLine (patterns : PatternReader) (line : List Char) :
    Line patterns line (readLine patterns line) := by
  unfold readLine
  split
  · exact .noEquals (splitAtFirst?_eq_none_iff.1 ‹_›)
  · rename_i tag rest cut
    obtain ⟨apart, rfl⟩ := splitAtFirst?_eq_some_iff.1 cut
    split
    · exact .noTag (trim_eq_nil_iff.1 (List.isEmpty_iff.1 ‹_›))
    · rename_i named
      have filled : ¬ Blanks tag := fun blanks =>
        named (List.isEmpty_iff.2 (trim_eq_nil_iff.2 blanks))
      split
      · exact .noColon apart filled (splitAtFirst?_eq_none_iff.1 ‹_›)
      · rename_i mode params cut
        obtain ⟨undivided, rfl⟩ := splitAtFirst?_eq_some_iff.1 cut
        have makes := makes_readRule patterns mode params
        have told := Line.parts apart filled undivided makes
        cases read : readRule patterns (trim mode) params <;> rw [read] at told <;> exact told

/-- Blanks before a line do not change what it says. -/
theorem Line.pad {result : Except LineFlaw TableEntry} (told : Line patterns line result)
    (blanks : Blanks before) : Line patterns (before ++ line) result := by
  have apart : '=' ∉ before := fun member => absurd (blanks _ member) (by decide)
  cases told with
  | @parts tag mode params result undivided filled colon makes =>
      have same : FormatTag.ofString (String.ofList (before ++ tag)) =
          .ofString (String.ofList tag) := by
        refine FormatTag.ext_text ?_
        change FormatTag.normalize _ = FormatTag.normalize _
        rw [FormatTag.normalize, FormatTag.normalize, String.toList_ofList, String.toList_ofList,
          trim_append_of_blanks blanks]
      rw [← List.append_assoc, ← same]
      exact .parts (List.not_mem_append apart undivided)
        (fun all => filled fun c member => all c (List.mem_append_right _ member)) colon makes
  | noEquals absent => exact .noEquals (List.not_mem_append apart absent)
  | noTag none =>
      rw [← List.append_assoc]
      exact .noTag (blanks.append none)
  | noColon undivided filled colon =>
      rw [← List.append_assoc]
      exact .noColon (List.not_mem_append apart undivided)
        (fun all => filled fun c member => all c (List.mem_append_right _ member)) colon

/-- What is read of a line is what it says. -/
theorem line_iff {result : Except LineFlaw TableEntry} :
    Line patterns line result ↔ readLine patterns (trimStart line) = result := by
  -- the reader drops the blanks before the line, and they are put back here
  have padded : Line patterns line (readLine patterns (trimStart line)) := by
    have whole : line.takeWhile isBlank ++ trimStart line = line := List.takeWhile_append_dropWhile
    have blanks : Blanks (line.takeWhile isBlank) := fun c => List.mem_takeWhile_imp
    have told := (line_readLine patterns (trimStart line)).pad blanks
    rwa [whole] at told
  constructor
  · intro told
    rw [← readLine_of_line told, readLine_of_line padded]
  · rintro rfl
    exact padded

/-- Every line says something. -/
theorem exists_line (patterns : PatternReader) (line : List Char) :
    ∃ result, Line patterns line result :=
  ⟨_, line_iff.2 rfl⟩

/-- A line does not say two things. -/
theorem Line.unique {first second : Except LineFlaw TableEntry} (one : Line patterns line first)
    (other : Line patterns line second) : first = second :=
  (line_iff.1 one).symm.trans (line_iff.1 other)

/-! ## Line after line -/

/-- A silent line is passed over, though it counts as a line. -/
theorem readLines_silent (silent : Silent line) :
    readLines patterns n (line :: rows) = readLines patterns (n + 1) rows := by
  rw [readLines, if_pos (isSilent_iff.2 silent)]

/-- A line that says an entry puts it in front of the entries behind. -/
theorem readLines_entry {entry : TableEntry} (speaks : ¬ Silent line)
    (told : Line patterns line (.ok entry)) :
    readLines patterns n (line :: rows) =
      (readLines patterns (n + 1) rows).map (entry :: ·) := by
  rw [readLines, if_neg (mt isSilent_iff.1 speaks), line_iff.1 told]
  cases readLines patterns (n + 1) rows <;> rfl

/-- A flawed line ends the reading with its number, whatever stands behind it. -/
theorem readLines_flaw (speaks : ¬ Silent line) (told : Line patterns line (.error flaw)) :
    readLines patterns n (line :: rows) = .error ⟨n, flaw⟩ := by
  rw [readLines, if_neg (mt isSilent_iff.1 speaks), line_iff.1 told]
  rfl

/-- The entries that are read are those of the lines that say something, in their order. -/
theorem readLines_eq_ok_iff :
    readLines patterns n rows = .ok entries ↔
      List.Forall₂ (fun line entry => Line patterns line (.ok entry))
        (rows.filter fun line => ¬ Silent line) entries := by
  induction rows generalizing n entries with
  | nil =>
      rw [readLines, List.filter_nil, List.forall₂_nil_left_iff, Except.ok.injEq, eq_comm]
  | cons line rows ih =>
      by_cases silent : Silent line
      · rw [readLines_silent silent, ih, List.filter_cons_of_neg (by simpa using silent)]
      · rw [List.filter_cons_of_pos (by simpa using silent), List.forall₂_cons_left_iff]
        obtain ⟨flaw | entry, told⟩ := exists_line patterns line
        · rw [readLines_flaw silent told]
          refine iff_of_false nofun ?_
          rintro ⟨entry, _, well, _⟩
          cases told.unique well
        · rw [readLines_entry silent told, map_eq_ok_iff]
          constructor
          · rintro ⟨later, read, rfl⟩
            exact ⟨entry, later, told, ih.1 read, rfl⟩
          · rintro ⟨found, later, well, listed, rfl⟩
            cases told.unique well
            exact ⟨later, ih.2 listed, rfl⟩

/-- Lines that pass do not keep the lines after them from being read. -/
theorem readLines_past {error : TableError} (pass : ∀ row ∈ earlier, Passes patterns row)
    (failed : readLines patterns (n + earlier.length) rows = .error error) :
    readLines patterns n (earlier ++ rows) = .error error := by
  induction earlier generalizing n with
  | nil => exact failed
  | cons line earlier ih =>
      have rest : readLines patterns (n + 1) (earlier ++ rows) = .error error := by
        refine ih (fun row member => pass row (List.mem_cons_of_mem line member)) ?_
        rwa [Nat.add_assoc, Nat.add_comm 1]
      rw [List.cons_append]
      by_cases silent : Silent line
      · rwa [readLines_silent silent]
      · obtain ⟨entry, told⟩ := (pass line List.mem_cons_self).resolve_left silent
        rw [readLines_entry silent told, map_eq_error_iff]
        exact rest

/-- What stops the reading is the first line with a flaw, and the lines before it are all
counted. -/
theorem readLines_eq_error_iff {error : TableError} :
    readLines patterns n rows = .error error ↔
      ∃ earlier line later, rows = earlier ++ line :: later ∧
        (∀ row ∈ earlier, Passes patterns row) ∧ ¬ Silent line ∧
        Line patterns line (.error error.flaw) ∧ error.line = n + earlier.length := by
  constructor
  · intro failed
    induction rows generalizing n with
    | nil => cases failed
    | cons line rows ih =>
        -- the first line passes, and the one that stops the reading is among the others
        have step (pass : Passes patterns line)
            (failed : readLines patterns (n + 1) rows = .error error) :
            ∃ earlier bad later, line :: rows = earlier ++ bad :: later ∧
              (∀ row ∈ earlier, Passes patterns row) ∧ ¬ Silent bad ∧
              Line patterns bad (.error error.flaw) ∧ error.line = n + earlier.length := by
          obtain ⟨earlier, bad, later, rfl, all, speaks, told, number⟩ := ih failed
          refine ⟨line :: earlier, bad, later, rfl, List.forall_mem_cons.2 ⟨pass, all⟩, speaks,
            told, ?_⟩
          rw [number, List.length_cons, Nat.add_assoc, Nat.add_comm 1]
        by_cases silent : Silent line
        · rw [readLines_silent silent] at failed
          exact step (.inl silent) failed
        · obtain ⟨flaw | entry, told⟩ := exists_line patterns line
          · rw [readLines_flaw silent told] at failed
            cases failed
            exact ⟨[], line, rows, rfl, nofun, silent, told, rfl⟩
          · rw [readLines_entry silent told, map_eq_error_iff] at failed
            exact step (.inr ⟨entry, told⟩) failed
  · rintro ⟨earlier, line, later, rfl, pass, speaks, told, number⟩
    refine readLines_past pass ?_
    rw [readLines_flaw speaks told, ← number]

/-! ## A whole table -/

theorem exists_forall₂_iff {α β : Type} {relation : α → β → Prop} {xs : List α} :
    (∃ ys, List.Forall₂ relation xs ys) ↔ ∀ x ∈ xs, ∃ y, relation x y := by
  induction xs with
  | nil => exact iff_of_true ⟨[], .nil⟩ nofun
  | cons x xs ih =>
      rw [List.forall_mem_cons, ← ih]
      constructor
      · rintro ⟨_, related | ⟨related, pairs⟩⟩
        exact ⟨⟨_, related⟩, _, pairs⟩
      · rintro ⟨⟨y, related⟩, ys, pairs⟩
        exact ⟨y :: ys, .cons related pairs⟩

/-- Every speaking line says an entry exactly if every line passes. -/
theorem forall_speaking_iff :
    (∀ line ∈ rows.filter fun line => ¬ Silent line, ∃ entry, Line patterns line (.ok entry)) ↔
      ∀ line ∈ rows, Passes patterns line := by
  simp only [List.mem_filter, decide_eq_true_eq, and_imp, Passes, or_iff_not_imp_left]

/-- A text is read as a table exactly if its lines, from the first, give the entries. -/
theorem readWith_eq_ok_iff {text : String} {table : RuleTable} :
    readWith patterns text = .ok table ↔
      readLines patterns 1 (lines text.toList) = .ok table.entries := by
  rw [readWith, map_eq_ok_iff]
  constructor
  · rintro ⟨entries, read, rfl⟩
    exact read
  · intro read
    exact ⟨table.entries, read, rfl⟩

/-- A line with a flaw has the same flaw in a table of its own. -/
theorem readWith_flaw (unbroken : '\n' ∉ line) (speaks : ¬ Silent line)
    (told : Line patterns line (.error flaw)) :
    readWith patterns (String.ofList line) = .error ⟨1, flaw⟩ := by
  have filled : line ≠ [] := by
    rintro rfl
    exact speaks (.inl nofun)
  rw [readWith, String.toList_ofList, lines_of_unbroken unbroken filled,
    readLines_flaw speaks told]
  rfl

/-- **A table fails at its first bad line.**  It is read if and only if each of its lines is
silent or well formed by itself, and then its entries are those of the lines that say something, in
the order of the lines.  Else the flaw is that of the first line that is neither, the same as this
line has in a table of its own, and it is reported with the number of the line, for which silent
lines count like others. -/
theorem readWith_first_flaw (patterns : PatternReader) (text : String) :
    ((∃ table, readWith patterns text = .ok table) ↔
      ∀ line ∈ lines text.toList, Passes patterns line) ∧
    (∀ table, readWith patterns text = .ok table ↔
      List.Forall₂ (fun line entry => Line patterns line (.ok entry))
        ((lines text.toList).filter fun line => ¬ Silent line) table.entries) ∧
    ∀ error, readWith patterns text = .error error ↔
      ∃ earlier line later, lines text.toList = earlier ++ line :: later ∧
        (∀ row ∈ earlier, Passes patterns row) ∧ ¬ Silent line ∧
        Line patterns line (.error error.flaw) ∧
        readWith patterns (String.ofList line) = .error ⟨1, error.flaw⟩ ∧
        error.line = earlier.length + 1 := by
  refine ⟨?_, ?_, ?_⟩
  · rw [← forall_speaking_iff, ← exists_forall₂_iff]
    constructor
    · rintro ⟨table, read⟩
      exact ⟨table.entries, readLines_eq_ok_iff.1 (readWith_eq_ok_iff.1 read)⟩
    · rintro ⟨entries, pairs⟩
      exact ⟨⟨entries⟩, readWith_eq_ok_iff.2 (readLines_eq_ok_iff.2 pairs)⟩
  · intro table
    rw [readWith_eq_ok_iff, readLines_eq_ok_iff]
  · intro error
    rw [readWith, map_eq_error_iff, readLines_eq_error_iff]
    constructor
    · rintro ⟨earlier, line, later, split, pass, speaks, told, number⟩
      have member : line ∈ lines text.toList := by
        rw [split]
        exact List.mem_append_right _ List.mem_cons_self
      have alone := readWith_flaw (not_mem_of_mem_lines member) speaks told
      exact ⟨earlier, line, later, split, pass, speaks, told, alone, by rw [number, Nat.add_comm]⟩
    · rintro ⟨earlier, line, later, split, pass, speaks, told, -, number⟩
      exact ⟨earlier, line, later, split, pass, speaks, told, by rw [number, Nat.add_comm]⟩

example : read "# tables\n\npdf=string:%PDF-\n zip = Magic :PK\n=" =
    .error ⟨4, .unknownMode "Magic"⟩ := by
  rfl

end RuleTable

end Discern
