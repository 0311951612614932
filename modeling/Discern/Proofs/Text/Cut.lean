import Discern.Text.Blank
import Discern.Text.Lines
import Mathlib.Data.List.Basic
import Mathlib.Data.List.TakeWhile

/-!
# Cutting texts

Where the readers cut a text: at the first character of a kind, between the blanks at its ends
and what they surround, and at the ends of its lines.
-/

namespace Discern

namespace Text

variable {before after first last inner cs : List Char}

/-! ## At a character -/

theorem not_mem_takeWhile_bne (d : Char) (cs : List Char) : d ∉ cs.takeWhile (· != d) :=
  fun mem => by simpa using List.mem_takeWhile_imp mem

/-- What a cut at the first `d` gives. -/
theorem eq_of_dropWhile_bne {c d : Char} (stopped : cs.dropWhile (· != d) = c :: after) :
    c = d ∧ cs = cs.takeWhile (· != d) ++ d :: after := by
  have same : c = d := by
    have stops := List.head?_dropWhile_not (· != d) cs
    simpa [stopped] using stops
  refine ⟨same, ?_⟩
  rw [← same, ← stopped, same, List.takeWhile_append_dropWhile]

theorem takeWhile_bne_append {d : Char} (apart : d ∉ before) :
    (before ++ d :: after).takeWhile (· != d) = before := by
  have others : ∀ c ∈ before, (c != d) = true :=
    fun c mem => bne_iff_ne.2 (ne_of_mem_of_not_mem mem apart)
  rw [List.takeWhile_append_of_pos others,
    List.takeWhile_cons_of_neg (by simp), List.append_nil]

theorem dropWhile_bne_append {d : Char} (apart : d ∉ before) :
    (before ++ d :: after).dropWhile (· != d) = d :: after := by
  have others : ∀ c ∈ before, (c != d) = true :=
    fun c mem => bne_iff_ne.2 (ne_of_mem_of_not_mem mem apart)
  rw [List.dropWhile_append_of_pos others,
    List.dropWhile_cons_of_neg (by simp)]

/-- A text is cut at a delimiter behind which no earlier one stands. -/
theorem splitAtFirst?_append {d : Char} (apart : d ∉ before) :
    splitAtFirst? d (before ++ d :: after) = some (before, after) := by
  rw [splitAtFirst?, dropWhile_bne_append apart, takeWhile_bne_append apart]

/-- A text is not cut exactly if it lacks the delimiter. -/
theorem splitAtFirst?_eq_none_iff {d : Char} : splitAtFirst? d cs = none ↔ d ∉ cs := by
  unfold splitAtFirst?
  split
  · rename_i whole
    have others := List.dropWhile_eq_nil_iff.1 whole
    exact iff_of_true rfl fun member => by simpa using others d member
  · rename_i stopped
    obtain ⟨-, split⟩ := eq_of_dropWhile_bne stopped
    refine iff_of_false nofun fun absent => absent ?_
    rw [split]
    exact List.mem_append_right _ List.mem_cons_self

/-- A cut is the parts around the first delimiter, and there is only one such cut. -/
theorem splitAtFirst?_eq_some_iff {d : Char} :
    splitAtFirst? d cs = some (before, after) ↔ d ∉ before ∧ cs = before ++ d :: after := by
  constructor
  · intro cut
    unfold splitAtFirst? at cut
    split at cut
    · cases cut
    · rename_i stopped
      cases cut
      exact ⟨not_mem_takeWhile_bne d cs, (eq_of_dropWhile_bne stopped).2⟩
  · rintro ⟨apart, rfl⟩
    exact splitAtFirst?_append apart

/-! ## At blanks -/

/-- A text of blanks. -/
def Blanks (cs : List Char) : Prop := ∀ c ∈ cs, isBlank c = true

instance (cs : List Char) : Decidable (Blanks cs) :=
  decidable_of_iff (cs.all isBlank = true) List.all_eq_true

/-- The blanks of the small alphabet are blanks. -/
theorem isBlank_of_isAsciiBlank {c : Char} (blank : isAsciiBlank c = true) : isBlank c = true := by
  simp only [isAsciiBlank, Bool.or_eq_true, beq_iff_eq] at blank
  rcases blank with (((rfl | rfl) | rfl) | rfl) | rfl <;> rfl

theorem Blanks.append (front : Blanks before) (back : Blanks after) : Blanks (before ++ after) :=
  fun c mem => (List.mem_append.1 mem).elim (front c) (back c)

/-- A text begins and ends with a character that is no blank. -/
def Bare (cs : List Char) : Prop :=
  (∃ c ∈ cs.head?, isBlank c = false) ∧ ∃ c ∈ cs.getLast?, isBlank c = false

/-- A text that is not empty and holds no blank is bare. -/
theorem bare_of_forall (nonempty : cs ≠ []) (none : ∀ c ∈ cs, isBlank c = false) : Bare cs :=
  ⟨⟨cs.head nonempty, List.head_mem_head? nonempty, none _ (List.head_mem nonempty)⟩,
    ⟨cs.getLast nonempty, List.getLast_mem_getLast? nonempty, none _ (List.getLast_mem nonempty)⟩⟩

/-- A text is bare whatever it holds inside, if its first and last parts are so at the ends. -/
theorem bare_append (starts : ∃ c ∈ first.head?, isBlank c = false)
    (ends : ∃ c ∈ last.getLast?, isBlank c = false) : Bare (first ++ inner ++ last) := by
  obtain ⟨c, starts, bareStart⟩ := starts
  obtain ⟨d, ends, bareEnd⟩ := ends
  refine ⟨⟨c, ?_, bareStart⟩, ⟨d, ?_, bareEnd⟩⟩
  · rw [List.append_assoc]
    exact List.mem_head?_append_of_mem_head? starts
  · exact List.mem_getLast?_append_of_mem_getLast? ends

/-- What `trim` leaves behind the blanks that a text begins with. -/
theorem exists_trim_end (cs : List Char) :
    ∃ after, cs = cs.takeWhile isBlank ++ trim cs ++ after ∧ Blanks after := by
  refine ⟨((trimStart cs).reverse.takeWhile isBlank).reverse, ?_, ?_⟩
  · rw [List.append_assoc, trim, trimEnd, ← List.reverse_append, List.takeWhile_append_dropWhile,
      List.reverse_reverse, trimStart, List.takeWhile_append_dropWhile]
  · exact fun c mem => List.mem_takeWhile_imp (List.mem_reverse.1 mem)

/-- `trim` cuts blanks off a text, and nothing else. -/
theorem exists_trim (cs : List Char) :
    ∃ before after, cs = before ++ trim cs ++ after ∧ Blanks before ∧ Blanks after := by
  obtain ⟨after, split, back⟩ := exists_trim_end cs
  exact ⟨_, after, split, fun c mem => List.mem_takeWhile_imp mem, back⟩

/-- Trimming the start takes the blanks before the first character that is none. -/
theorem trimStart_of_blanks (blanks : Blanks before) (starts : ∃ c ∈ cs.head?, isBlank c = false) :
    trimStart (before ++ cs) = cs := by
  obtain ⟨c, starts, bare⟩ := starts
  rw [trimStart, List.dropWhile_append_of_pos blanks]
  cases cs with
  | nil => cases starts
  | cons d cs =>
      cases starts
      exact List.dropWhile_cons_of_neg (by simp [bare])

/-- Trimming the end takes the blanks behind the last character that is none. -/
theorem trimEnd_of_blanks (blanks : Blanks after) (ends : ∃ c ∈ cs.getLast?, isBlank c = false) :
    trimEnd (cs ++ after) = cs := by
  have reversed : trimStart (after.reverse ++ cs.reverse) = cs.reverse :=
    trimStart_of_blanks (fun c mem => blanks c (List.mem_reverse.1 mem))
      (by rwa [List.head?_reverse])
  rw [trimEnd, List.reverse_append]
  exact (congrArg List.reverse reversed).trans (List.reverse_reverse cs)

/-- A trimmed text does not end in a blank. -/
theorem getLast?_trim (cs : List Char) : ∀ c ∈ (trim cs).getLast?, isBlank c = false := by
  intro c ends
  rw [trim, trimEnd, List.getLast?_reverse] at ends
  have stops := List.head?_dropWhile_not isBlank (trimStart cs).reverse
  rw [Option.mem_def.1 ends] at stops
  exact stops

/-- A text without the blanks at its end begins as before. -/
theorem trimEnd_eq (filled : trim cs ≠ []) : trimEnd cs = cs.takeWhile isBlank ++ trim cs := by
  obtain ⟨after, split, back⟩ := exists_trim_end cs
  have last := List.getLast_mem_getLast? filled
  have ends : ∃ c ∈ (cs.takeWhile isBlank ++ trim cs).getLast?, isBlank c = false :=
    ⟨_, List.mem_getLast?_append_of_mem_getLast? last, getLast?_trim cs _ last⟩
  calc trimEnd cs = trimEnd (cs.takeWhile isBlank ++ trim cs ++ after) := by rw [← split]
    _ = cs.takeWhile isBlank ++ trim cs := trimEnd_of_blanks back ends

/-- Trimming leaves nothing exactly of blanks. -/
theorem trim_eq_nil_iff : trim cs = [] ↔ Blanks cs := by
  constructor
  · intro none
    obtain ⟨before, after, split, front, back⟩ := exists_trim cs
    rw [split, none, List.append_nil]
    exact front.append back
  · intro blanks
    rw [trim, trimStart, List.dropWhile_eq_nil_iff.2 blanks]
    rfl

/-- Blanks put in front are trimmed away. -/
theorem trim_append_of_blanks (blanks : Blanks before) : trim (before ++ cs) = trim cs := by
  rw [trim, trimStart, List.dropWhile_append_of_pos blanks]
  rfl

/-- `trim` finds what stands between blanks. -/
theorem trim_of_bare (front : Blanks before) (bare : Bare inner) (back : Blanks after) :
    trim (before ++ inner ++ after) = inner := by
  obtain ⟨c, starts, bareStart⟩ := bare.1
  have begins : ∃ c ∈ (inner ++ after).head?, isBlank c = false :=
    ⟨c, List.mem_head?_append_of_mem_head? starts, bareStart⟩
  rw [trim, List.append_assoc, trimStart_of_blanks front begins, trimEnd_of_blanks back bare.2]

/-- A text without blanks at its ends is what `trim` finds between blanks. -/
theorem trim_of_ends (front : Blanks before) (starts : ∀ c ∈ inner.head?, isBlank c = false)
    (ends : ∀ c ∈ inner.getLast?, isBlank c = false) (back : Blanks after) :
    trim (before ++ inner ++ after) = inner := by
  by_cases empty : inner = []
  · subst empty
    rw [List.append_nil, trim_eq_nil_iff]
    exact front.append back
  · have bare : Bare inner :=
      ⟨⟨_, List.head_mem_head? empty, starts _ (List.head_mem_head? empty)⟩,
        ⟨_, List.getLast_mem_getLast? empty, ends _ (List.getLast_mem_getLast? empty)⟩⟩
    exact trim_of_bare front bare back

/-- A text that was trimmed does not begin with a blank. -/
theorem starts_of_trim (trimmed : trim cs = cs) : ∀ c ∈ cs.head?, isBlank c = false := by
  cases cs with
  | nil => nofun
  | cons c rest =>
      intro d member
      cases member
      rw [← Bool.not_eq_true]
      intro blank
      have cut : trim (c :: rest) = trim rest := by
        rw [trim, trimStart, List.dropWhile_cons_of_pos blank]
        rfl
      obtain ⟨before, after, split, -, -⟩ := exists_trim rest
      rw [← cut, trimmed] at split
      have lengths := congrArg List.length split
      simp only [List.length_append, List.length_cons] at lengths
      omega

/-! ## At line ends -/

/-- Characters that break no line are gathered, last first, in the line being read. -/
theorem lines_go_append {line : List Char} (unbroken : '\n' ∉ line) (start text : List Char) :
    lines.go start (line ++ text) = lines.go (line.reverse ++ start) text := by
  induction line generalizing start with
  | nil => rfl
  | cons c line ih =>
      have other : c ≠ '\n' := fun same => unbroken (same ▸ List.mem_cons_self)
      have later : '\n' ∉ line := fun member => unbroken (List.mem_cons_of_mem c member)
      rw [List.cons_append, lines.go, ih later, List.reverse_cons, List.append_assoc]
      · rfl
      · exact other

/-- The first line ends at the first line feed, less a carriage return before it. -/
theorem lines_append {line : List Char} (unbroken : '\n' ∉ line) (text : List Char) :
    lines (line ++ '\n' :: text) = dropReturn line :: lines text := by
  rw [lines, lines_go_append unbroken, List.append_nil, lines.go, List.reverse_reverse]
  rfl

/-- A text without a line feed is one line. -/
theorem lines_of_unbroken {line : List Char} (unbroken : '\n' ∉ line) (filled : line ≠ []) :
    lines line = [line] := by
  have whole := lines_go_append unbroken [] []
  rw [List.append_nil, List.append_nil] at whole
  rw [lines, whole, lines.go, if_neg, List.reverse_reverse]
  rwa [List.isEmpty_reverse, List.isEmpty_iff]

theorem mem_of_mem_dropReturn {c : Char} (member : c ∈ dropReturn cs) : c ∈ cs := by
  unfold dropReturn at member
  split at member
  · exact List.dropLast_subset cs member
  · exact member

/-- No line holds a line feed. -/
theorem not_mem_of_mem_lines_go {line start text : List Char} (unbroken : '\n' ∉ start)
    (member : line ∈ lines.go start text) : '\n' ∉ line := by
  fun_induction lines.go start text with
  | case1 start empty => cases member
  | case2 start filled =>
      cases List.mem_singleton.1 member
      exact fun within => unbroken (List.mem_reverse.1 within)
  | case3 start rest ih =>
      rcases List.mem_cons.1 member with rfl | later
      · exact fun within => unbroken (List.mem_reverse.1 (mem_of_mem_dropReturn within))
      · exact ih List.not_mem_nil later
  | case4 start c rest other ih =>
      exact ih (List.not_mem_cons_of_ne_of_not_mem (Ne.symm other) unbroken) member

/-- No line goes on behind a line feed. -/
theorem not_mem_of_mem_lines {line text : List Char} (member : line ∈ lines text) : '\n' ∉ line :=
  not_mem_of_mem_lines_go List.not_mem_nil member

end Text

end Discern
