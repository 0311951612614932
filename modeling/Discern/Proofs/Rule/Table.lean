import Discern.Proofs.Rule.Literal
import Discern.Proofs.Rule.TableLine

/-!
# Tables of literals

A table that tells formats by the bytes they begin with is written a line for each of its rules,
with blank lines and comments between them.  `RuleTable.Written` says which texts are written for
which rules.  Every list of rules can be written, and whatever is written for it is read as a
table with these rules (`RuleTable.literals_expressible`).
-/

namespace Discern

open Text

/-- A tag does not change when it is trimmed. -/
theorem FormatTag.trim_text (tag : FormatTag) : trim tag.text.toList = tag.text.toList := by
  have lowered : (trim tag.text.toList).map Char.toLower = tag.text.toList := by
    have normal := congrArg String.toList tag.normal
    rwa [normalize, String.toList_ofList] at normal
  calc trim tag.text.toList
      = trim ((trim tag.text.toList).map Char.toLower) := by rw [lowered]
    _ = (trim tag.text.toList).map Char.toLower := by rw [trim_map isBlank_toLower, trim_trim]
    _ = tag.text.toList := lowered

/-- **A rule that can be written on a line:** a tag that a line may begin with, and the bytes that
a content of this format begins with. -/
structure LiteralEntry where
  tag : FormatTag
  bytes : Bytes
  named : tag.text.toList ≠ []
  unbroken : '\n' ∉ tag.text.toList
  undivided : '=' ∉ tag.text.toList
  noComment : tag.text.toList.head? ≠ some '#'
  filled : bytes ≠ []

namespace LiteralEntry

/-- The entry of a table. -/
def toEntry (entry : LiteralEntry) : TableEntry := ⟨entry.tag, .literal entry.bytes⟩

/-- The line of a rule, with a text of its bytes. -/
def line (entry : LiteralEntry) (text : List Char) : List Char :=
  entry.tag.text.toList ++ '=' :: ("string:".toList ++ text)

theorem line_eq (entry : LiteralEntry) (text : List Char) :
    entry.line text = entry.tag.text.toList ++ "=string:".toList ++ text := by
  rw [List.append_assoc]
  rfl

/-- A rule asks for its bytes at the beginning of a content, and looks no further. -/
theorem toEntry_accepts_iff (entry : LiteralEntry) (lead : Bytes) :
    entry.toEntry.rule.accepts lead = true ↔ entry.bytes <+: lead :=
  List.isPrefixOf_iff_prefix

/-- A literal's tag begins with a character that neither is blank nor opens a comment. -/
theorem exists_head (entry : LiteralEntry) :
    ∃ c rest, entry.tag.text.toList = c :: rest ∧ isBlank c = false ∧ c ≠ '#' := by
  obtain ⟨c, rest, begins⟩ := List.exists_cons_of_ne_nil entry.named
  have first : entry.tag.text.toList.head? = some c := by rw [begins]; rfl
  refine ⟨c, rest, begins, ?_, ?_⟩
  · exact starts_of_trim entry.tag.trim_text c first
  · rintro rfl
    exact entry.noComment first

end LiteralEntry

namespace RuleTable

/-- **What a line says:** nothing, if it is blank or a comment, or one rule. -/
inductive Declares : List Char → List LiteralEntry → Prop
  | blank {line} : '\n' ∉ line → Blanks line → Declares line []
  | comment {before after} : '\n' ∉ before → Blanks before → '\n' ∉ after →
      Declares (before ++ '#' :: after) []
  | entry {entry text} : Literal.Written text entry.bytes → Declares (entry.line text) [entry]

/-- **How rules are written,** in lines that end with a line feed; the last line has none, and
there may be nothing on it. -/
inductive Written : List Char → List LiteralEntry → Prop
  | last {line said} : Declares line said → Written line said
  | line {line said text entries} : Declares line said → Written text entries →
      Written (line ++ '\n' :: text) (said ++ entries)

variable {line text : List Char} {said entries : List LiteralEntry} {entry : LiteralEntry}
  {patterns : PatternReader}

/-- Any rules can be written. -/
theorem exists_written (entries : List LiteralEntry) : ∃ text, Written text entries := by
  induction entries with
  | nil => exact ⟨[], .last (.blank nofun nofun)⟩
  | cons entry entries ih =>
      obtain ⟨rest, written⟩ := ih
      obtain ⟨text, spelled⟩ := Literal.exists_written entry.bytes
      exact ⟨_, .line (.entry spelled) written⟩

/-! ## Lines -/

/-- A character the tag, the mode and the literal all lack is not in the line either. -/
theorem line_not_mem {c : Char} (absent : c ∉ entry.tag.text.toList)
    (apart : c ∉ "=string:".toList) (outside : c ∉ text) : c ∉ entry.line text := by
  rw [entry.line_eq, List.mem_append, List.mem_append]
  rintro ((member | member) | member)
  · exact absent member
  · exact apart member
  · exact outside member

/-- A declared line holds no line feed, so the table's text is cut around it. -/
theorem Declares.unbroken (declares : Declares line said) : '\n' ∉ line := by
  cases declares with
  | blank unbroken _ => exact unbroken
  | comment front _ back =>
      rw [List.mem_append, List.mem_cons]
      rintro (member | same | member)
      · exact front member
      · cases same
      · exact back member
  | @entry entry text written =>
      exact line_not_mem entry.unbroken (by decide) (written.not_mem (by decide))

/-- A carriage return before the end of a line does not change what the line says, because no
text of a literal ends with one. -/
theorem Declares.dropReturn (declares : Declares line said) : Declares (dropReturn line) said := by
  cases declares with
  | blank unbroken blanks =>
      exact .blank (fun member => unbroken (mem_of_mem_dropReturn member))
        fun c member => blanks c (mem_of_mem_dropReturn member)
  | @comment before after front blanks back =>
      unfold Text.dropReturn
      split
      · rename_i ends
        have more : after ≠ [] := by
          rintro rfl
          simp at ends
        rw [List.dropLast_append_of_ne_nil (List.cons_ne_nil '#' after),
          List.dropLast_cons_of_ne_nil more]
        exact .comment front blanks fun member => back (List.dropLast_subset after member)
      · exact .comment front blanks back
  | @entry entry text written =>
      have ends : (entry.line text).getLast? = text.getLast? := by
        rw [entry.line_eq, List.getLast?_append_of_ne_nil _ (written.ne_nil entry.filled)]
      have kept : Text.dropReturn (entry.line text) = entry.line text := by
        refine if_neg fun stray => ?_
        rw [ends] at stray
        exact written.not_mem (by decide) (List.mem_of_getLast? stray)
      rw [kept]
      exact .entry written

/-! ## Reading -/

/-- The line of a written literal says its entry, whatever reads the patterns. -/
theorem line_of_written (written : Literal.Written text entry.bytes) :
    Line patterns (entry.line text) (.ok entry.toEntry) := by
  have filled : ¬ Blanks entry.tag.text.toList := by
    rw [← trim_eq_nil_iff, entry.tag.trim_text]
    exact entry.named
  have makes : Makes patterns "string".toList text (.ok (.literal entry.bytes)) :=
    .literal (by decide) (Literal.read_of_written written entry.filled)
  have told := Line.parts entry.undivided filled (by decide) makes
  rwa [String.ofList_toList, FormatTag.ofString_text] at told

/-- The line of an entry is neither blank nor a comment. -/
theorem not_silent_line : ¬ Silent (entry.line text) := by
  obtain ⟨c, rest, begins, ink, noComment⟩ := entry.exists_head
  rw [← isSilent_iff, LiteralEntry.line, begins, isSilent, trimStart, List.cons_append,
    List.dropWhile_cons_of_neg (Bool.not_eq_true _ ▸ ink)]
  exact mt beq_iff_eq.1 noComment

/-- Reading a declared line puts what it says in front of what is read behind it. -/
theorem readLines_cons (declares : Declares line said) {n : Nat} {rest : List (List Char)}
    {later : List TableEntry} (read : readLines patterns (n + 1) rest = .ok later) :
    readLines patterns n (line :: rest) = .ok (said.map LiteralEntry.toEntry ++ later) := by
  cases declares with
  | blank _ blanks =>
      rw [readLines_silent (.inl blanks), read]
      rfl
  | comment _ blanks _ =>
      rw [readLines_silent (.inr ⟨_, _, rfl, blanks⟩), read]
      rfl
  | entry written =>
      rw [readLines_entry not_silent_line (line_of_written written), read]
      rfl

/-- The lines of a written table are read as its entries, at any line number. -/
theorem readLines_of_written (written : Written text entries) (n : Nat) :
    readLines patterns n (lines text) = .ok (entries.map LiteralEntry.toEntry) := by
  induction written generalizing n with
  | @last line said declares =>
      have single : readLines patterns n [line] = .ok (said.map LiteralEntry.toEntry ++ []) :=
        readLines_cons declares rfl
      rw [List.append_nil] at single
      by_cases empty : line = []
      · subst empty
        exact single
      · rw [lines_of_unbroken declares.unbroken empty]
        exact single
  | line declares _ ih =>
      rw [lines_append declares.unbroken, List.map_append]
      exact readLines_cons declares.dropReturn (ih (n + 1))

/-- **What is written for rules is read as these rules.** -/
theorem read_of_written (written : Written text entries) :
    read (String.ofList text) = .ok ⟨entries.map LiteralEntry.toEntry⟩ := by
  rw [read, readWith, String.toList_ofList, readLines_of_written written]
  rfl

/-- **Tables of literals can be written.**  There is a text for any rules that ask for bytes at the
beginning.  Each text that is written for them, with the bytes as escapes or as characters and
with blank lines and comments between the rules, is read as a table with the same tags in the same
order, and each of its rules wants to see as many bytes as it asks for and holds exactly for what
begins with them. -/
theorem literals_expressible (entries : List LiteralEntry) :
    (∃ text, Written text entries) ∧
    ∀ text, Written text entries → ∃ table, read (String.ofList text) = .ok table ∧
      table.tags = entries.map LiteralEntry.tag ∧
      List.Forall₂ (fun entry found => found.tag = entry.tag ∧
        found.rule.window = entry.bytes.length ∧
        ∀ lead, found.rule.accepts lead = true ↔ entry.bytes <+: lead) entries table.entries := by
  refine ⟨exists_written entries, ?_⟩
  intro text written
  refine ⟨_, read_of_written written, ?_, ?_⟩
  · exact List.map_map
  · rw [List.forall₂_map_right_iff, List.forall₂_same]
    intro entry _
    exact ⟨rfl, rfl, entry.toEntry_accepts_iff⟩

/-- A rule for links, of which the bytes hold what else divides a line. -/
def linkEntry : LiteralEntry where
  tag := ⟨"link", by decide⟩
  bytes := "http://a=b#c ".toList.map fun c => UInt8.ofNat c.toNat
  named := by decide
  unbroken := by decide
  undivided := by decide
  noComment := by decide
  filled := by decide

/-- A rule for a space, a backslash and a line feed. -/
def signEntry : LiteralEntry where
  tag := ⟨"sign", by decide⟩
  bytes := [0x20, 0x5C, 0x0A]
  named := by decide
  unbroken := by decide
  undivided := by decide
  noComment := by decide
  filled := by decide

/-- Both rules, below a comment and with a blank line between them. -/
def linkText : List Char :=
  " # places".toList ++ '\n' :: (linkEntry.line "http://a=b#c ".toList ++ '\n' ::
    ("\t".toList ++ '\n' :: signEntry.line " \\x5C\\x0a".toList))

example : String.ofList linkText =
    " # places\nlink=string:http://a=b#c \n\t\nsign=string: \\x5C\\x0a" := by
  decide

/-- The table of a link and a sign literal is read back as those two entries. -/
theorem literals_expressible_links :
    Written linkText [linkEntry, signEntry] ∧
    ∃ table, read (String.ofList linkText) = .ok table ∧
      table.tags = [linkEntry.tag, signEntry.tag] ∧
      List.Forall₂ (fun entry found => found.tag = entry.tag ∧
        found.rule.window = entry.bytes.length ∧
        ∀ lead, found.rule.accepts lead = true ↔ entry.bytes <+: lead)
        [linkEntry, signEntry] table.entries := by
  have digit : ∀ n < 16, Hex.Digit (Hex.lowerDigit n) (UInt8.ofNat n) ∧
      Hex.Digit (Hex.upperDigit n) (UInt8.ofNat n) := by
    unfold Hex.Digit
    decide
  have plain : "http://a=b#c ".toList.all (fun c => decide (Literal.Plain c)) = true := by decide
  have link : Literal.Written "http://a=b#c ".toList linkEntry.bytes :=
    Literal.written_of_plain fun c member => of_decide_eq_true (List.all_eq_true.1 plain c member)
  have sign : Literal.Written " \\x5C\\x0a".toList signEntry.bytes :=
    .next (.plain (c := ' ') (by decide))
      (.next (.escaped (digit 5 (by decide)).1 (digit 12 (by decide)).2)
        (.next (.escaped (digit 0 (by decide)).1 (digit 10 (by decide)).1) .done))
  have comment : Declares ([' '] ++ '#' :: " places".toList) [] :=
    .comment (by decide) (by decide) (by decide)
  have blank : Declares "\t".toList [] := .blank (by decide) (by decide)
  have written : Written linkText [linkEntry, signEntry] :=
    .line comment (.line (.entry link) (.line blank (.last (.entry sign))))
  exact ⟨written, (literals_expressible _).2 linkText written⟩

end RuleTable

end Discern
