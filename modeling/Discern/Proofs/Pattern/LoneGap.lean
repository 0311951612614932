import Discern.Proofs.Pattern.Rendering

/-!
# Gaps alone and in patterns

The gap before a chain is a text of its own, and the gaps inside a chain are tokens of its pattern.
Both are spelled alike: a text that has no blanks at its ends is read as a gap by itself if and
only if it is read as this gap between two fragments (`readGap_iff_between`).
-/

namespace Discern.Pattern

open Text

variable {text : List Char} {t : Token} {tokens : List Token} {gap : Gap} {cell : Option UInt8}
  {sub : SubSequence}

/-! ## Blanks around a token -/

/-- Before the first token of a text there are blanks. -/
theorem Written.exists_first (written : Written text (t :: tokens)) :
    ∃ before spelled rest, text = before ++ spelled ++ rest ∧ Blanks before ∧ Spells spelled t ∧
      Written rest tokens := by
  generalize whole : t :: tokens = row at written
  induction written with
  | done => cases whole
  | @blank c _ _ blank _ ih =>
      obtain ⟨before, spelled, rest, rfl, blanks, spells, later⟩ := ih whole
      exact ⟨c :: before, spelled, rest, rfl,
        List.forall_mem_cons.2 ⟨isBlank_of_isAsciiBlank blank, blanks⟩, spells, later⟩
  | @token spelled _ rest _ spells written =>
      cases whole
      exact ⟨[], spelled, rest, rfl, nofun, spells, written⟩

/-- A text that writes no tokens is blank. -/
theorem Written.blanks (written : Written text []) : Blanks text := by
  generalize whole : [] = row at written
  induction written with
  | done => nofun
  | blank blank _ ih =>
      exact List.forall_mem_cons.2 ⟨isBlank_of_isAsciiBlank blank, ih whole⟩
  | token => cases whole

/-! ## Between fragments -/

/-- Tokens without a gap among them that describe one cell are one token. -/
theorem eq_singleton_of_described (solid : ∀ t ∈ tokens, t.isGap = false → t.row ≠ [])
    (fragments : (described tokens).fragments = [⟨[cell]⟩]) (gaps : (described tokens).gaps = []) :
    tokens = [.cells [cell]] := by
  have noGap : ∀ t ∈ tokens, t.isGap = false := by
    intro t member
    cases t with
    | cells _ => rfl
    | gap _ => cases List.filterMap_eq_nil_iff.1 gaps _ member
  have single : tokens.flatMap Token.row = [cell] := by
    rw [described, List.splitOnP_eq_singleton noGap] at fragments
    exact congrArg Fragment.cells (List.cons.inj fragments).1
  cases tokens with
  | nil => cases single
  | cons t tokens =>
      obtain ⟨filled, laterFilled⟩ := List.forall_mem_cons.1 fun t member =>
        solid t member (noGap t member)
      cases t with
      | gap _ => cases noGap _ List.mem_cons_self
      | cells row =>
          obtain ⟨head, more, rfl⟩ := List.exists_cons_of_ne_nil filled
          obtain ⟨rfl, rest⟩ := List.cons.inj single
          obtain ⟨rfl, nothing⟩ := List.append_eq_nil_iff.1 rest
          cases tokens with
          | nil => rfl
          | cons t tokens =>
              have empty := List.flatMap_eq_nil_iff.1 nothing t List.mem_cons_self
              exact absurd empty (laterFilled t List.mem_cons_self)

/-- Behind one cell, tokens that are assembled to two cells with a gap between them are this gap
and a token for the second cell. -/
theorem eq_gap_of_assemble {first second : Option UInt8}
    (solid : ∀ t ∈ tokens, t.isGap = false → t.row ≠ [])
    (assembled : assemble [] [first] tokens = some sub)
    (fragments : sub.fragments = [⟨[first]⟩, ⟨[second]⟩]) (gaps : sub.gaps = [gap]) :
    tokens = [.gap gap, .cells [second]] := by
  cases tokens with
  | nil =>
      cases assembled
      cases gaps
  | cons t tokens =>
      obtain ⟨filled, later⟩ := List.forall_mem_cons.1 solid
      cases t with
      | cells more =>
          -- these cells would stand in the first fragment, behind its only cell
          obtain ⟨-, rfl⟩ := (assemble_eq_some_iff solid).1 assembled
          dsimp only at fragments
          rw [fragments_cons_cells, modifyHead_prepend] at fragments
          cases described : (described tokens).fragments with
          | nil =>
              rw [described] at fragments
              cases fragments
          | cons fragment rest =>
              rw [described] at fragments
              have alone : more ++ fragment.cells = [] := by
                simpa [prepend] using (List.cons.inj fragments).1
              exact absurd (List.append_eq_nil_iff.1 alone).1 (filled rfl)
      | gap found =>
          rw [assemble, List.isEmpty_cons, if_neg Bool.false_ne_true] at assembled
          obtain ⟨-, rfl⟩ := (assemble_eq_some_iff later).1 assembled
          rw [modifyHead_prepend_nil] at fragments
          obtain ⟨-, fragments⟩ := List.cons.inj fragments
          obtain ⟨rfl, noGap⟩ := List.cons.inj gaps
          rw [eq_singleton_of_described later fragments noGap]

/-- A text with one token, which is for one byte, ends with the two digits of this byte and has
blanks before them, unless it ends with a blank or a quote. -/
theorem Written.exists_digits {last : Char} {byte : UInt8}
    (written : Written text [.cells [some byte]]) (ending : text.getLast? = some last)
    (ink : isBlank last = false) (unquoted : last ≠ '\'') :
    ∃ front high, text = front ++ [high, last] ∧ Blanks front := by
  obtain ⟨before, spelled, rest, rfl, blanks, spells, written⟩ := written.exists_first
  have back : rest = [] := by
    by_contra filled
    rw [List.getLast?_append_of_ne_nil _ filled] at ending
    exact Bool.false_ne_true (ink.symm.trans (written.blanks last (List.mem_of_getLast? ending)))
  subst back
  rw [List.append_nil] at ending ⊢
  generalize same : Token.cells [some byte] = t at spells
  cases spells with
  | @byte high low _ _ _ _ =>
      have digits : low = last := by simpa using ending
      subst digits
      exact ⟨before, high, rfl, blanks⟩
  | any => cases same
  | @quoted run _ _ =>
      rw [← List.cons_append, ← List.append_assoc, List.getLast?_concat] at ending
      exact absurd (Option.some.inj ending).symm unquoted
  | star => cases same
  | braced => cases same

/-- What stands before a byte at the end of a text, and is the gap before this byte, spells it. -/
theorem spells_of_written_before {high low : Char} {byte : UInt8}
    (starts : ∀ c ∈ text.head?, isBlank c = false) (ends : ∀ c ∈ text.getLast?, isBlank c = false)
    (ink : isBlank low = false) (unquoted : low ≠ '\'')
    (written : Written ([' '] ++ text ++ [' '] ++ [high, low]) [.gap gap, .cells [some byte]]) :
    Spells text (.gap gap) := by
  obtain ⟨before, spelled, rest, whole, blanks, spells, written⟩ := written.exists_first
  have filled : rest ≠ [] := by
    rintro rfl
    cases written.eq_nil
  have ending : rest.getLast? = some low := by
    rw [← List.getLast?_append_of_ne_nil (before ++ spelled) filled, ← whole,
      List.getLast?_append_cons]
    rfl
  obtain ⟨between, digit, rfl, back⟩ := written.exists_digits ending ink unquoted
  rw [← List.append_assoc] at whole
  have alone : [' '] ++ text ++ [' '] = before ++ spelled ++ between :=
    List.append_inj_left' whole rfl
  have space : Blanks [' '] := List.forall_mem_singleton.2 rfl
  have same : text = spelled := by
    calc text = trim ([' '] ++ text ++ [' ']) := (trim_of_ends space starts ends space).symm
      _ = trim (before ++ spelled ++ between) := by rw [alone]
      _ = spelled := trim_of_bare blanks spells.bare_of_gap back
  rw [same]
  exact spells

/-- **A gap reads alike alone and in a pattern.**  A text that neither begins nor ends with a blank
is read as a gap if and only if, between the bytes `AA` and `BB`, it is read as this gap between
the two of them. -/
theorem readGap_iff_between {text : String}
    (starts : ∀ c ∈ text.toList.head?, isBlank c = false)
    (ends : ∀ c ∈ text.toList.getLast?, isBlank c = false) (gap : Gap) :
    readGap text = .ok gap ↔ read ("AA " ++ text ++ " BB") =
      .ok { fragments := [.literal [0xAA], .literal [0xBB]], gaps := [gap] } := by
  have noBlanks : Blanks [] := nofun
  have trimmed : trim text.toList = text.toList := by
    simpa using trim_of_ends noBlanks starts ends noBlanks
  have whole : ("AA " ++ text ++ " BB").toList =
      'A' :: 'A' :: ([' '] ++ text.toList ++ [' '] ++ ['B', 'B']) := by
    simp [String.toList_append]
  have first : token 'A' ('A' :: ([' '] ++ text.toList ++ [' '] ++ ['B', 'B'])) =
      .ok (.cells [some 0xAA], [' '] ++ text.toList ++ [' '] ++ ['B', 'B']) := rfl
  rw [readGap_eq_ok_iff, trimmed, read, mapError_eq_ok_iff, scan_eq_ok_iff, whole]
  constructor
  · intro spells
    have space : Written [' '] [] := .blank rfl .done
    have last : Written ['B', 'B'] [.cells [some 0xBB]] :=
      (written_cons_of_token rfl).2 ⟨[], .done, rfl⟩
    refine ⟨[.cells [some 0xAA], .gap gap, .cells [some 0xBB]], ?_, rfl⟩
    rw [written_cons_of_token first]
    exact ⟨_, ((space.append spells.written).append space).append last, rfl⟩
  · rintro ⟨tokens, written, assembled⟩
    obtain ⟨later, behind, rfl⟩ := (written_cons_of_token first).1 written
    have row : later = [.gap gap, .cells [some 0xBB]] :=
      eq_gap_of_assemble behind.solid assembled rfl rfl
    subst row
    exact spells_of_written_before starts ends rfl (by decide) behind

/-- A gap with blanks and signs in its braces. -/
theorem readGap_iff_between_spaced :
    (∀ c ∈ "\x7b +1 - 016 \x7d".toList.head?, isBlank c = false) ∧
    (∀ c ∈ "\x7b +1 - 016 \x7d".toList.getLast?, isBlank c = false) ∧
    readGap "\x7b +1 - 016 \x7d" = .ok (.between 1 16) ∧
    read ("AA " ++ "\x7b +1 - 016 \x7d" ++ " BB") =
      .ok { fragments := [.literal [0xAA], .literal [0xBB]], gaps := [.between 1 16] } := by
  have starts : ∀ c ∈ "\x7b +1 - 016 \x7d".toList.head?, isBlank c = false := by
    intro c first
    cases first
    rfl
  have ends : ∀ c ∈ "\x7b +1 - 016 \x7d".toList.getLast?, isBlank c = false := by
    intro c last
    cases last
    rfl
  have alone : readGap "\x7b +1 - 016 \x7d" = .ok (.between 1 16) := by decide
  exact ⟨starts, ends, alone, (readGap_iff_between starts ends _).1 alone⟩

end Discern.Pattern
