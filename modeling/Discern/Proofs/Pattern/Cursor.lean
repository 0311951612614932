import Discern.Proofs.Pattern.Grammar
import Discern.Proofs.Text.Utf8
import Discern.Signature.Cursor

/-!
# Positions in patterns

A cursor in the bytes of a pattern stops between two characters only.  So it takes the same tokens
as a reader of characters does, and each slice that it takes of the text begins and ends at a
boundary (`Cursor.Sound`).  In front of a token that is refused there are complete tokens; an error
points there.  Both together are `read_points_at_token`.
-/

namespace Discern

namespace Utf8

variable {cs rest before inside text : List Char}

/-! ## Slices -/

/-- A text can be cut behind whole characters. -/
theorem drop?_size (before rest : List Char) :
    drop? (size before) (before ++ rest) = some rest := by
  induction before with
  | nil => cases rest <;> rfl
  | cons c before ih =>
      obtain ⟨n, positive⟩ := Nat.exists_eq_add_one_of_ne_zero c.utf8Size_pos.ne'
      have longer : size (c :: before) = n + size before + 1 := by rw [size, positive]; omega
      rw [longer, List.cons_append, drop?, if_pos (by omega), positive]
      have left : n + size before + 1 - (n + 1) = size before := by omega
      rw [left, ih]

/-- What is cut off there are these characters. -/
theorem take?_size (inside rest : List Char) :
    take? (size inside) (inside ++ rest) = some inside := by
  induction inside with
  | nil => cases rest <;> rfl
  | cons c inside ih =>
      obtain ⟨n, positive⟩ := Nat.exists_eq_add_one_of_ne_zero c.utf8Size_pos.ne'
      have longer : size (c :: inside) = n + size inside + 1 := by rw [size, positive]; omega
      rw [longer, List.cons_append, take?, if_pos (by omega), positive]
      have left : n + size inside + 1 - (n + 1) = size inside := by omega
      rw [left, ih]
      rfl

/-- The slice between two boundaries. -/
theorem slice?_offset (within : inside ++ rest <:+ text) :
    slice? text ⟨offset text (inside ++ rest), offset text rest⟩ = some inside := by
  obtain ⟨before, rfl⟩ := within
  have stop : offset (before ++ (inside ++ rest)) rest = size before + size inside := by
    rw [← List.append_assoc, offset_append, size_append]
  rw [slice?, offset_append, stop, if_pos (Nat.le_add_right ..), drop?_size, Option.bind_some,
    Nat.add_sub_cancel_left, take?_size]

/-- A slice between the offsets of two suffixes has the bytes of what stands between them. -/
theorem byteSlice?_offset (within : inside ++ rest <:+ text) :
    byteSlice? (encode text) ⟨offset text (inside ++ rest), offset text rest⟩ =
      some (encode inside) := by
  have start := drop_encode_offset within
  have stop := offset_add within
  have total : offset text rest + size rest = size text := by
    obtain ⟨before, rfl⟩ := (List.suffix_append inside rest).trans within
    rw [offset_append, size_append]
  have ordered : offset text (inside ++ rest) ≤ offset text rest := by omega
  have bounded : offset text rest ≤ (encode text).length := by rw [length_encode]; omega
  rw [byteSlice?, if_pos ⟨ordered, bounded⟩, start, encode_append]
  have width : offset text rest - offset text (inside ++ rest) = (encode inside).length := by
    rw [length_encode]
    omega
  rw [width, List.take_left]

end Utf8

namespace Pattern

open Text Utf8

namespace Cursor

variable {α β : Type} {text rest cs : List Char} {c d : Char} {b : UInt8}

/-! ## Bytes at boundaries -/

/-- At the offset of a suffix stands the first byte of its first character. -/
theorem peek_offset (inside : rest <:+ text) :
    peek text (offset text rest) = rest.head?.map lead := by
  rw [peek, ← List.head?_drop, drop_encode_offset inside, head?_encode]

/-- Where bytes of a kind end, so do characters of this kind. -/
theorem skip_offset {kind : UInt8 → Bool} {q : Char → Bool} (inside : rest <:+ text)
    (alike : ∀ c, ∀ b ∈ String.utf8EncodeChar c, kind b = q c) :
    skip text kind (offset text rest) = offset text (rest.dropWhile q) := by
  rw [skip, drop_encode_offset inside, takeWhile_encode alike, length_encode]
  have split : rest.takeWhile q ++ rest.dropWhile q = rest := List.takeWhile_append_dropWhile
  have total : offset text (rest.takeWhile q ++ rest.dropWhile q) + size (rest.takeWhile q) =
      offset text (rest.dropWhile q) := offset_add (by rwa [split])
  rwa [split] at total

/-- The first byte of a character is an ASCII byte if the character is. -/
theorem lead_eq_iff (ascii : d.toNat < 128) : lead c = d.toUInt8 ↔ c = d :=
  eq_toUInt8_iff (lead_mem c) ascii

/-- No other byte of a character is taken for an ASCII character. -/
theorem beq_toUInt8 (member : b ∈ String.utf8EncodeChar c) (ascii : d.toNat < 128) :
    (b == d.toUInt8) = (c == d) := by
  rw [Bool.eq_iff_iff, beq_iff_eq, beq_iff_eq]
  exact eq_toUInt8_iff member ascii

/-- A byte is blank if its character is. -/
theorem isBlankByte_eq (member : b ∈ String.utf8EncodeChar c) : isBlankByte b = isAsciiBlank c := by
  rw [isBlankByte, beq_toUInt8 member (by decide), beq_toUInt8 member (by decide),
    beq_toUInt8 member (by decide), beq_toUInt8 member (by decide),
    beq_toUInt8 member (by decide)]
  rfl

/-- A digit is read from the first byte as from the character. -/
theorem digit?_lead (c : Char) : digit? (lead c) = Hex.value? c := by
  by_cases narrow : c.toNat < 128
  · rw [(lead_eq_iff narrow).2 rfl, digit?]
    exact congrArg Hex.value? (ofNat_toNat_of_ascii narrow)
  · have noDigit : ∀ {d : Char}, 128 ≤ d.toNat → Hex.value? d = none := by
      intro d wide
      cases read : Hex.value? d with
      | none => rfl
      | some n =>
          have small := (Hex.value?_eq_some_iff.1 read).toNat.2
          omega
    have wide : 128 ≤ (Char.ofNat (lead c).toNat).toNat := by
      rw [toNat_ofNat_toNat]
      exact le_toNat_of_wide narrow _ (lead_mem c)
    rw [digit?, noDigit wide, noDigit (Nat.le_of_not_lt narrow)]

/-! ## Steps that keep to the boundaries -/

/-- **What a step comes to,** with slices that begin and end at boundaries. -/
structure Sound (text : List Char) (step : Traced α) (outcome : Except Halt α) : Prop where
  outcome_eq : step.outcome = outcome
  boundaries : ∀ span ∈ step.slices, Boundary text span.start ∧ Boundary text span.stop

variable {first : Traced α} {next : α → Traced β} {a : α} {outcome : Except Halt β}
  {flaw : PatternFlaw}

theorem Sound.pure (a : α) : Sound text (pure a : Traced α) (.ok a) := ⟨rfl, nofun⟩

/-- A report of a flaw at a boundary stops. -/
theorem Sound.report (rest : List Char) (flaw : PatternFlaw) :
    Sound (α := α) text (report text (offset text rest) flaw)
      (.error (.flawed (Fault.report text ⟨rest, flaw⟩))) :=
  ⟨rfl, nofun⟩

/-- What follows a sound step is sound if it is so on its outcome. -/
theorem Sound.bind (begun : Sound text first (.ok a)) (goesOn : Sound text (next a) outcome) :
    Sound text (first >>= next) outcome := by
  rw [Traced.bind_of_ok begun.outcome_eq]
  exact ⟨goesOn.outcome_eq, fun span member =>
    (List.mem_append.1 member).elim (begun.boundaries span) (goesOn.boundaries span)⟩

/-- What follows a step that stops is not taken. -/
theorem Sound.bind_error {reason : Halt} (stopped : Sound text first (.error reason)) :
    Sound text (first >>= next) (.error reason) := by
  rw [Traced.bind_of_error stopped.outcome_eq]
  exact ⟨rfl, stopped.boundaries⟩

/-- A slice between two boundaries is there. -/
theorem Sound.slice (within : cs ++ rest <:+ text) :
    Sound text (slice text ⟨offset text (cs ++ rest), offset text rest⟩) (.ok cs) := by
  refine ⟨by rw [Cursor.slice, slice?_offset within]; rfl, fun span member => ?_⟩
  cases List.mem_singleton.1 member
  exact ⟨boundary_offset within, boundary_offset ((List.suffix_append cs rest).trans within)⟩

/-- So are its bytes. -/
theorem Sound.byteSlice (within : cs ++ rest <:+ text) :
    Sound text (byteSlice text ⟨offset text (cs ++ rest), offset text rest⟩) (.ok (encode cs)) := by
  refine ⟨by rw [Cursor.byteSlice, byteSlice?_offset within]; rfl, fun span member => ?_⟩
  cases List.mem_singleton.1 member
  exact ⟨boundary_offset within, boundary_offset ((List.suffix_append cs rest).trans within)⟩

/-- What a reader of characters takes or refuses, by positions. -/
def placed (text here : List Char) : Except PatternFlaw (α × List Char) → Except Halt (α × Nat)
  | .ok (a, rest) => .ok (a, offset text rest)
  | .error flaw => .error (.flawed (Fault.report text ⟨here, flaw⟩))

theorem offset_succ (inside : c :: cs <:+ text) (ascii : c.toNat < 128) :
    offset text (c :: cs) + 1 = offset text cs := by
  have total : offset text ([c] ++ cs) + size [c] = offset text cs := offset_add inside
  have one : size [c] = 1 := Char.utf8Size_eq_one_iff.mpr (Nat.le_of_lt_succ ascii)
  rwa [one] at total

theorem offset_succ_succ (inside : c :: d :: cs <:+ text) (ascii : c.toNat < 128)
    (asciiNext : d.toNat < 128) : offset text (c :: d :: cs) + 2 = offset text cs := by
  have first := offset_succ inside ascii
  have second := offset_succ ((List.suffix_cons c _).trans inside) asciiNext
  omega

/-- A gap in braces is scanned by positions as by characters. -/
theorem sound_braced (inside : '\x7b' :: cs <:+ text) :
    Sound text (braced text (offset text ('\x7b' :: cs)))
      (placed text ('\x7b' :: cs) (bracedGap cs)) := by
  have opened : peek text (offset text ('\x7b' :: cs)) = some '\x7b'.toUInt8 := peek_offset inside
  have stop : offset text [] = size text := rfl
  have after := offset_succ inside (by decide)
  rw [braced, if_pos opened, ← stop]
  have whole : Sound text _ (.ok ('\x7b' :: cs)) := .slice (by rwa [List.append_nil])
  rw [List.append_nil] at whole
  refine whole.bind ?_
  have cut : ('\x7b' :: cs).dropWhile (· != '\x7d') = cs.dropWhile (· != '\x7d') := rfl
  rw [cut, bracedGap]
  cases stopped : cs.dropWhile (· != '\x7d') with
  | nil => exact .report _ _
  | cons d rest =>
      obtain ⟨rfl, split⟩ := eq_of_dropWhile_bne stopped
      have taken : ('\x7b' :: cs).takeWhile (· != '\x7d') =
          '\x7b' :: cs.takeWhile (· != '\x7d') := rfl
      generalize cs.takeWhile (· != '\x7d') = body at split taken ⊢
      have close : offset text ('\x7b' :: body ++ '\x7d' :: rest) + size ('\x7b' :: body) =
          offset text ('\x7d' :: rest) := offset_add (by rwa [List.cons_append, ← split])
      rw [List.cons_append, ← split] at close
      dsimp only
      rw [taken, close, after]
      have within : body ++ '\x7d' :: rest <:+ text :=
        split ▸ (List.suffix_cons _ cs).trans inside
      have next := offset_succ ((List.suffix_append body _).trans within) (by decide)
      rw [split]
      refine (Sound.slice within).bind ?_
      rw [← split]
      cases gapBody body with
      | ok gap => rw [next]; exact .pure _
      | error flaw => exact .report _ _

/-- So is a quoted text. -/
theorem sound_quoted (inside : '\'' :: cs <:+ text) :
    Sound text (quoted text (offset text ('\'' :: cs)))
      (placed text ('\'' :: cs) (Pattern.quoted cs)) := by
  have after := offset_succ inside (by decide)
  have within : cs <:+ text := (List.suffix_cons _ cs).trans inside
  have others : ∀ c, ∀ b ∈ String.utf8EncodeChar c, (b != '\''.toUInt8) = (c != '\'') := by
    intro c b member
    rw [bne, bne, beq_toUInt8 member (by decide)]
  have close := skip_offset within others
  rw [Cursor.quoted, Pattern.quoted, after, close]
  cases stopped : cs.dropWhile (· != '\'') with
  | nil =>
      have ended : peek text (offset text []) = none := peek_offset List.nil_suffix
      rw [if_pos ended]
      exact .report _ _
  | cons d rest =>
      obtain ⟨rfl, split⟩ := eq_of_dropWhile_bne stopped
      generalize cs.takeWhile (· != '\'') = run at split ⊢
      subst split
      have behind : '\'' :: rest <:+ text := (List.suffix_append run _).trans within
      have found : peek text (offset text ('\'' :: rest)) ≠ none := by
        rw [peek_offset behind]
        exact Option.some_ne_none _
      have width := offset_add within
      rw [if_neg found, offset_succ behind (by decide)]
      cases run with
      | nil =>
          rw [if_pos (by rfl)]
          exact .report _ _
      | cons c run =>
          have positive := c.utf8Size_pos
          rw [size] at width
          rw [if_neg (by omega)]
          exact (Sound.byteSlice within).bind (.pure _)

/-- So is every token. -/
theorem sound_token (inside : c :: cs <:+ text) :
    Sound text (token text (offset text (c :: cs)) (lead c))
      (placed text (c :: cs) (Pattern.token c cs)) := by
  have within : cs <:+ text := (List.suffix_cons c cs).trans inside
  unfold Cursor.token Pattern.token
  simp only [lead_eq_iff (d := '*') (by decide), lead_eq_iff (d := '\x7b') (by decide),
    lead_eq_iff (d := '?') (by decide), lead_eq_iff (d := '\'') (by decide)]
  split
  · subst c
    rw [offset_succ inside (by decide)]
    exact .pure _
  split
  · subst c
    have gap := sound_braced inside
    cases read : bracedGap cs with
    | error flaw => rw [read] at gap; exact gap.bind_error
    | ok taken => rw [read] at gap; exact gap.bind (.pure _)
  split
  · subst c
    rw [offset_succ inside (by decide), peek_offset within]
    cases cs with
    | nil => exact .report _ _
    | cons d rest =>
        have marked : (d :: rest).head?.map lead = some '?'.toUInt8 ↔ d = '?' := by
          rw [List.head?_cons, Option.map_some, Option.some.injEq, lead_eq_iff (by decide)]
        by_cases mark : d = '?'
        · rw [if_pos (marked.2 mark)]
          subst d
          rw [offset_succ_succ inside (by decide) (by decide)]
          exact .pure _
        · rw [if_neg (mt marked.1 mark)]
          split
          · rename_i same
            cases same
            exact absurd rfl mark
          · exact .report _ _
  split
  · subst c
    have run := sound_quoted inside
    cases read : Pattern.quoted cs with
    | error flaw => rw [read] at run; exact run.bind_error
    | ok taken => rw [read] at run; exact run.bind (.pure _)
  · rw [digit?_lead]
    cases high : Hex.value? c with
    | none => exact .report _ _
    | some h =>
        have ascii := (Hex.value?_eq_some_iff.1 high).toNat.2
        dsimp only
        rw [offset_succ inside ascii, peek_offset within]
        cases cs with
        | nil => exact .report _ _
        | cons d rest =>
            rw [List.head?_cons, Option.map_some, Option.bind_some, digit?_lead]
            dsimp only
            rw [Hex.pair?, high]
            cases low : Hex.value? d with
            | none => exact .report _ _
            | some l =>
                have asciiLow := (Hex.value?_eq_some_iff.1 low).toNat.2
                dsimp only
                rw [offset_succ_succ inside ascii asciiLow]
                exact .pure _

/-! ## Reading to the end -/

/-- What a reader of characters has read, with the position of the last gap. -/
def Draft.ofChars (text : List Char) (draft : Pattern.Draft) : Draft where
  closed := draft.closed
  cells := draft.cells
  lastGap := draft.lastGap.map (offset text)

/-- A token is put to a draft by positions as to one by characters. -/
theorem Draft.ofChars_push (draft : Pattern.Draft) (here : List Char) (t : Token) :
    (ofChars text draft).push (offset text here) t = ofChars text (draft.push here t) := by
  cases t <;> rfl

/-- A draft is finished by positions as by characters. -/
theorem sound_finish (draft : Pattern.Draft) :
    Sound text ((Draft.ofChars text draft).finish text)
      ((draft.finish text).mapError fun fault => .flawed (fault.report text)) := by
  unfold Draft.finish Pattern.Draft.finish
  obtain ⟨closed, cells, lastGap⟩ := draft
  cases cells with
  | cons cell cells => exact .pure _
  | nil =>
      cases lastGap with
      | some gap => exact .report _ _
      | none => rw [← offset_self text]; exact .report _ _

/-- At the end of the text the draft is finished. -/
theorem readFrom_of_none {draft : Draft} {position : Nat}
    (ended : peek text (skip text isBlankByte position) = none) :
    readFrom text draft position = draft.finish text := by
  rw [readFrom]
  split
  · rfl
  · rename_i found
    cases ended.symm.trans found

/-- At a token that does not open a gap in the wrong place the scan takes it and goes on behind
it. -/
theorem readFrom_of_some {draft : Draft} {position start : Nat}
    (here : skip text isBlankByte position = start) (found : peek text start = some b) :
    readFrom text draft position =
      if (b == '\x7b'.toUInt8 || b == '*'.toUInt8) && draft.cells.isEmpty then
        report text start draft.gapFlaw
      else
        token text start b >>= fun taken => readFrom text (draft.push start taken.1) taken.2 := by
  subst here
  rw [readFrom]
  split
  · rename_i ended
    cases ended.symm.trans found
  · rename_i again
    cases again.symm.trans found
    split
    · rfl
    · dsimp only
      split
      · rename_i stops
        rw [Traced.bind_of_error stops]
      · rename_i goesOn
        rw [Traced.bind_of_ok goesOn]

/-- Blanks in front of a position make no difference. -/
theorem readFrom_blank {draft : Draft} (inside : c :: cs <:+ text) (blank : isAsciiBlank c = true) :
    readFrom text draft (offset text (c :: cs)) = readFrom text draft (offset text cs) := by
  have within : cs <:+ text := (List.suffix_cons c cs).trans inside
  have same : skip text isBlankByte (offset text (c :: cs)) =
      skip text isBlankByte (offset text cs) := by
    rw [skip_offset inside fun _ _ => isBlankByte_eq, skip_offset within fun _ _ => isBlankByte_eq,
      List.dropWhile_cons_of_pos blank]
  cases found : peek text (skip text isBlankByte (offset text cs)) with
  | none => rw [readFrom_of_none found, readFrom_of_none (same ▸ found)]
  | some b => rw [readFrom_of_some rfl found, readFrom_of_some same found]

/-- Where no blank stands, there is a token or a flaw. -/
theorem readFrom_of_ink {draft : Pattern.Draft} (inside : c :: cs <:+ text)
    (ink : isAsciiBlank c = false) :
    readFrom text (Draft.ofChars text draft) (offset text (c :: cs)) =
      if opensGap c && draft.cells.isEmpty then
        report text (offset text (c :: cs)) draft.gapFlaw
      else
        token text (offset text (c :: cs)) (lead c) >>= fun taken =>
          readFrom text ((Draft.ofChars text draft).push (offset text (c :: cs)) taken.1)
            taken.2 := by
  have here : skip text isBlankByte (offset text (c :: cs)) = offset text (c :: cs) := by
    rw [skip_offset inside fun _ _ => isBlankByte_eq,
      List.dropWhile_cons_of_neg (by simp [ink])]
  rw [readFrom_of_some here (peek_offset inside), beq_toUInt8 (lead_mem c) (by decide),
    beq_toUInt8 (lead_mem c) (by decide)]
  rfl

/-- From every boundary the rest is scanned by positions as by characters. -/
theorem sound_readFrom (draft : Pattern.Draft) (inside : rest <:+ text) :
    Sound text (readFrom text (Draft.ofChars text draft) (offset text rest))
      ((scan text draft rest).mapError fun fault => .flawed (fault.report text)) := by
  fun_induction scan text draft rest with
  | case1 draft =>
      have ended : peek text (skip text isBlankByte (offset text [])) = none := by
        rw [skip_offset inside fun _ _ => isBlankByte_eq]
        exact peek_offset List.nil_suffix
      rw [readFrom_of_none ended]
      exact sound_finish draft
  | case2 draft c cs blank ih =>
      rw [readFrom_blank inside blank]
      exact ih ((List.suffix_cons c cs).trans inside)
  | case3 draft c cs ink gapped =>
      rw [readFrom_of_ink inside (eq_false_of_ne_true ink), if_pos gapped]
      exact .report _ _
  | case4 draft c cs ink placed flaw failed =>
      have first := sound_token inside
      rw [failed] at first
      rw [readFrom_of_ink inside (eq_false_of_ne_true ink), if_neg placed]
      exact first.bind_error
  | case5 draft c cs ink placed t rest read ih =>
      have first := sound_token inside
      rw [read] at first
      obtain ⟨spelled, rfl, -⟩ := spells_of_token read
      rw [readFrom_of_ink inside (eq_false_of_ne_true ink), if_neg placed]
      refine first.bind ?_
      dsimp only
      rw [Draft.ofChars_push]
      exact ih ((List.suffix_append (c :: spelled) rest).trans inside)

/-- **A cursor reads as a reader of characters does,** and slices the text at boundaries only. -/
theorem sound_read (text : String) :
    Sound text.toList (read text) ((Pattern.read text).mapError .flawed) := by
  have whole := sound_readFrom {} (List.suffix_refl text.toList)
  rw [offset_self] at whole
  have same : (Pattern.read text).mapError .flawed =
      (scan text.toList {} text.toList).mapError fun fault =>
        Halt.flawed (fault.report text.toList) := by
    rw [Pattern.read]
    cases scan text.toList {} text.toList <;> rfl
  rw [same]
  exact whole

/-- A quoted run, the text from a brace on, and what stands in the braces. -/
example : (read "'é' \x7b5\x7d AA").slices = [⟨1, 3⟩, ⟨5, 11⟩, ⟨6, 7⟩] := by
  decide +kernel

end Cursor

/-! ## Where errors point -/

variable {text rest before : List Char} {tokens : List Token}

/-- In front of a position stand complete tokens. -/
def Reached (text rest : List Char) : Prop :=
  ∃ before tokens, text = before ++ rest ∧ Written before tokens

/-- Where a scan fails there are complete tokens in front. -/
theorem reached_of_scan {draft : Draft} {fault : Fault} (here : Reached text rest)
    (gap : ∀ gap ∈ draft.lastGap, Reached text gap) (failed : scan text draft rest = .error fault) :
    Reached text fault.rest := by
  fun_induction scan text draft rest with
  | case1 draft =>
      unfold Draft.finish at failed
      split at failed
      · split at failed
        · rename_i last
          cases failed
          exact gap _ last
        · cases failed
          exact ⟨[], [], rfl, .done⟩
      · cases failed
  | case2 draft c cs blank ih =>
      obtain ⟨before, tokens, rfl, written⟩ := here
      refine ih ⟨before ++ [c], tokens, by simp, ?_⟩ gap failed
      have more := written.append (.blank blank .done)
      rwa [List.append_nil] at more
  | case3 draft c cs ink gapped =>
      cases failed
      exact here
  | case4 draft c cs ink placed flaw stops =>
      cases failed
      exact here
  | case5 draft c cs ink placed t rest read ih =>
      obtain ⟨spelled, rfl, spells⟩ := spells_of_token read
      refine ih ?_ ?_ failed
      · obtain ⟨before, tokens, rfl, written⟩ := here
        exact ⟨before ++ c :: spelled, tokens ++ [t], by simp, written.append spells.written⟩
      · cases t with
        | cells _ => exact gap
        | gap _ =>
            intro last same
            cases same
            exact here

/-- **Errors of patterns point at a token.**  An error that a pattern is refused with carries the
text of the pattern and a position in it, between two characters, and what stands in front of the
position are complete tokens.  A reader that goes by positions gets to the same answer; it never
breaks off, and each slice that it takes of the text begins and ends between two characters. -/
theorem read_points_at_token (text : String) :
    ((Cursor.read text).outcome ≠ .error .broken ∧
      (Cursor.read text).outcome = (read text).mapError .flawed ∧
      ∀ span ∈ (Cursor.read text).slices,
        Boundary text.toList span.start ∧ Boundary text.toList span.stop) ∧
    ∀ error, read text = .error error →
      error.text = text ∧ error.position ≤ size text.toList ∧
      Boundary text.toList error.position ∧
      ∃ before after tokens, text.toList = before ++ after ∧ size before = error.position ∧
        Written before tokens := by
  constructor
  · have sound := Cursor.sound_read text
    refine ⟨fun stops => ?_, sound.outcome_eq, sound.boundaries⟩
    obtain ⟨cause, -, same⟩ := mapError_eq_error_iff.1 (sound.outcome_eq.symm.trans stops)
    cases same
  · intro error failed
    obtain ⟨fault, scanned, rfl⟩ := mapError_eq_error_iff.1 failed
    have start : Reached text.toList text.toList := ⟨[], [], rfl, .done⟩
    have noGap : ∀ gap ∈ ({} : Draft).lastGap, Reached text.toList gap := nofun
    obtain ⟨before, tokens, split, written⟩ := reached_of_scan start noGap scanned
    have position : (fault.report text.toList).position = size before := by
      rw [Fault.report, split]
      exact offset_append before fault.rest
    refine ⟨String.ofList_toList, ?_, ?_, before, _, tokens, split, position.symm, written⟩
    · rw [position, split, size_append]
      exact Nat.le_add_right ..
    · exact ⟨before, _, split, position.symm⟩

/-- The token that is refused stands behind a character of two bytes. -/
theorem read_points_at_token_inverted :
    read "'é' ?? \x7b5-2\x7d" = .error ⟨"'é' ?? \x7b5-2\x7d", 8, .invertedBounds⟩ ∧
    Boundary "'é' ?? \x7b5-2\x7d".toList 8 ∧
    ∃ before after tokens, "'é' ?? \x7b5-2\x7d".toList = before ++ after ∧ size before = 8 ∧
      Written before tokens := by
  have failed : read "'é' ?? \x7b5-2\x7d" =
      .error ⟨"'é' ?? \x7b5-2\x7d", 8, .invertedBounds⟩ := by
    decide +kernel
  obtain ⟨-, -, boundary, tokens⟩ := (read_points_at_token _).2 _ failed
  exact ⟨failed, boundary, tokens⟩

end Pattern

end Discern
