import Discern.Proofs.Pattern.LoneGap

/-!
# Blanks in the braces of a gap

A gap may have blanks behind its opening brace, before its closing brace and on both sides of its
dash.  Alone and in a pattern it is then read as without them, with one exception: the star of
`{n-*}` has to stand directly behind the dash (`spaced_alike_iff`).
-/

namespace Discern.Pattern

open Text

/-- The decimal text of a number. -/
structure Number where
  digits : List Char
  value : Nat
  numeral : Word.Numeral digits value

/-- **What the braces of a gap say,** but for blanks. -/
inductive Extent where
  | exactly (n : Number)
  | between (min max : Number)
  | atLeast (min : Number)

/-- **Where blanks may stand in the braces of a gap.** -/
structure Spacing where
  opening : List Char := []
  beforeDash : List Char := []
  afterDash : List Char := []
  closing : List Char := []
  blank_opening : Blanks opening := by decide
  blank_beforeDash : Blanks beforeDash := by decide
  blank_afterDash : Blanks afterDash := by decide
  blank_closing : Blanks closing := by decide

namespace Extent

/-- The text between the braces. -/
def body (spacing : Spacing) : Extent → List Char
  | exactly n => spacing.opening ++ n.digits ++ spacing.closing
  | between min max =>
    spacing.opening ++ min.digits ++ spacing.beforeDash ++
      '-' :: (spacing.afterDash ++ max.digits ++ spacing.closing)
  | atLeast min =>
    spacing.opening ++ min.digits ++ spacing.beforeDash ++
      '-' :: (spacing.afterDash ++ '*' :: spacing.closing)

/-- **The text of a gap.** -/
def text (extent : Extent) (spacing : Spacing := {}) : String :=
  String.ofList ('\x7b' :: (extent.body spacing ++ ['\x7d']))

/-- No blank parts a star from the dash before it. -/
def Admits (spacing : Spacing) : Extent → Prop
  | exactly _ => True
  | between _ _ => True
  | atLeast _ => spacing.afterDash = []

/-- **The gap that an extent stands for,** if its numbers are words in the right order. -/
inductive Denotes : Extent → Gap → Prop
  | exactly {n : Number} {w : UInt64} : n.value = w.toNat → Denotes (.exactly n) (.exactly w)
  | between {min max : Number} {v w : UInt64} : min.value = v.toNat → max.value = w.toNat →
      v ≤ w → Denotes (.between min max) (.between v w)
  | atLeast {min : Number} {v : UInt64} : min.value = v.toNat → Denotes (.atLeast min) (.atLeast v)

end Extent

variable {front rest before after : List Char} {tokens row : List Token} {gap : Gap}
  {number : Number} {extent : Extent} {spacing : Spacing} {c : Char}

/-! ## What the braces hold -/

/-- Blanks around a number make no difference. -/
theorem Number.padded_iff {n : UInt64} (front : Blanks before) (back : Blanks after) :
    Word.Padded (before ++ number.digits ++ after) n ↔ number.value = n.toNat := by
  rw [← Word.read64?_trim_eq_some_iff, trim_of_bare front number.numeral.bare back,
    Word.read64?_eq_some_iff, ← Word.readNat?_eq_some_iff,
    Word.readNat?_eq_some_iff.2 number.numeral, Option.some.injEq]

/-- In a number with blanks around it there is no dash, no star and no brace. -/
theorem Number.not_mem (front : Blanks before) (back : Blanks after) (bare : isBlank c = false)
    (other : c.isDigit = false) (noSign : c ≠ '+') : c ∉ before ++ number.digits ++ after := by
  obtain ⟨digits, -, isDigit, -, written⟩ := number.numeral
  have notDigit : c ∉ digits := fun mem => by simp [isDigit c mem] at other
  have notInner : c ∉ number.digits := by
    rcases written with same | same
    · rwa [same]
    · rw [same]
      exact List.not_mem_cons_of_ne_of_not_mem noSign notDigit
  simp only [List.mem_append, not_or]
  exact ⟨⟨fun mem => by simp [front c mem] at bare, notInner⟩,
    fun mem => by simp [back c mem] at bare⟩

/-- Without a dash there is one bound. -/
theorem bounds_iff_of_not_mem (whole : '-' ∉ before) :
    Bounds before gap ↔ ∃ n, Word.Padded before n ∧ gap = .exactly n := by
  constructor
  · intro bounds
    cases bounds with
    | exactly padded => exact ⟨_, padded, rfl⟩
    | between => simp at whole
    | atLeast => simp at whole
  · rintro ⟨n, padded, rfl⟩
    exact .exactly padded

/-- What stands around the first dash are two bounds, or one and a star. -/
theorem bounds_dash_iff (apart : '-' ∉ before) :
    Bounds (before ++ '-' :: after) gap ↔
      (∃ min max, Word.Padded before min ∧ Word.Padded after max ∧ min ≤ max ∧
        gap = .between min max) ∨
      ∃ min blanks, Word.Padded before min ∧ after = '*' :: blanks ∧ Blanks blanks ∧
        gap = .atLeast min := by
  have cut : splitAtFirst? '-' (before ++ '-' :: after) = some (before, after) :=
    splitAtFirst?_append apart
  constructor
  · intro bounds
    generalize whole : before ++ '-' :: after = body at bounds cut
    cases bounds with
    | exactly padded => exact absurd (whole ▸ by simp) (not_mem_of_padded padded)
    | between isLow isHigh ordered =>
        rw [splitAtFirst?_append (not_mem_of_padded isLow)] at cut
        cases cut
        exact .inl ⟨_, _, isLow, isHigh, ordered, rfl⟩
    | atLeast isLow blanks =>
        rw [splitAtFirst?_append (not_mem_of_padded isLow)] at cut
        cases cut
        exact .inr ⟨_, _, isLow, rfl, blanks, rfl⟩
  · rintro (⟨min, max, isLow, isHigh, ordered, rfl⟩ | ⟨min, blanks, isLow, rfl, isBlanks, rfl⟩)
    · exact .between isLow isHigh ordered
    · exact .atLeast isLow isBlanks

/-- The text between the braces gives the bounds of a gap if its spacing does not part a star from
the dash. -/
theorem bounds_body_iff :
    Bounds (extent.body spacing) gap ↔ extent.Denotes gap ∧ extent.Admits spacing := by
  have opening := spacing.blank_opening
  have closing := spacing.blank_closing
  have beforeDash := spacing.blank_beforeDash
  have afterDash := spacing.blank_afterDash
  cases extent with
  | exactly n =>
      have whole : '-' ∉ spacing.opening ++ n.digits ++ spacing.closing :=
        n.not_mem opening closing (by decide) (by decide) (by decide)
      rw [Extent.body, bounds_iff_of_not_mem whole]
      simp only [n.padded_iff opening closing, Extent.Admits, and_true]
      constructor
      · rintro ⟨w, value, rfl⟩
        exact .exactly value
      · intro denotes
        cases denotes with
        | exactly value => exact ⟨_, value, rfl⟩
  | between min max =>
      have apart : '-' ∉ spacing.opening ++ min.digits ++ spacing.beforeDash :=
        min.not_mem opening beforeDash (by decide) (by decide) (by decide)
      have noStar : '*' ∉ spacing.afterDash ++ max.digits ++ spacing.closing :=
        max.not_mem afterDash closing (by decide) (by decide) (by decide)
      rw [Extent.body, bounds_dash_iff apart]
      simp only [min.padded_iff opening beforeDash, max.padded_iff afterDash closing,
        Extent.Admits, and_true]
      constructor
      · rintro (⟨v, w, low, high, ordered, rfl⟩ | ⟨v, blanks, -, same, -, -⟩)
        · exact .between low high ordered
        · exact absurd (same ▸ List.mem_cons_self) noStar
      · intro denotes
        cases denotes with
        | between low high ordered => exact .inl ⟨_, _, low, high, ordered, rfl⟩
  | atLeast min =>
      have apart : '-' ∉ spacing.opening ++ min.digits ++ spacing.beforeDash :=
        min.not_mem opening beforeDash (by decide) (by decide) (by decide)
      rw [Extent.body, bounds_dash_iff apart]
      simp only [min.padded_iff opening beforeDash, Extent.Admits]
      constructor
      · rintro (⟨v, w, -, padded, -, -⟩ | ⟨v, blanks, low, same, -, rfl⟩)
        · exact absurd (List.mem_append_right _ List.mem_cons_self)
            (padded.not_mem (c := '*') (by decide) (by decide) (by decide))
        · refine ⟨.atLeast low, ?_⟩
          cases blank : spacing.afterDash with
          | nil => rfl
          | cons c more =>
              rw [blank] at same afterDash
              cases same
              exact nomatch afterDash '*' List.mem_cons_self
      · rintro ⟨denotes, joined⟩
        cases denotes with
        | atLeast low => exact .inr ⟨_, _, low, by rw [joined]; rfl, closing, rfl⟩

/-- No brace stands between the braces. -/
theorem not_mem_body : '\x7d' ∉ extent.body spacing := by
  have noBrace : ∀ {blanks : List Char}, Blanks blanks → '\x7d' ∉ blanks :=
    fun blanks member => nomatch blanks _ member
  have noDigit : ∀ n : Number, '\x7d' ∉ n.digits := by
    intro n
    have noBlanks : Blanks [] := nofun
    simpa using n.not_mem (c := '\x7d') noBlanks noBlanks (by decide) (by decide) (by decide)
  cases extent <;>
    simp [Extent.body, noBrace spacing.blank_opening, noBrace spacing.blank_closing,
      noBrace spacing.blank_beforeDash, noBrace spacing.blank_afterDash, noDigit]

/-! ## In a pattern -/

/-- Behind tokens a text goes on with tokens. -/
theorem Written.append_iff (written : Written front tokens) :
    Written (front ++ rest) row ↔ ∃ later, Written rest later ∧ row = tokens ++ later := by
  induction written generalizing row with
  | done => simp
  | blank blank _ ih => exact (written_cons_of_blank blank).trans ih
  | @token spelled t text tokens spells _ ih =>
      obtain ⟨first, spelled, rfl⟩ := spells.exists_cons
      have read := token_of_spells spells (text ++ rest)
      rw [List.append_assoc, List.cons_append, written_cons_of_token read]
      simp only [ih]
      constructor
      · rintro ⟨_, ⟨later, behind, rfl⟩, rfl⟩
        exact ⟨later, behind, rfl⟩
      · rintro ⟨later, behind, rfl⟩
        exact ⟨_, ⟨later, behind, rfl⟩, rfl⟩

/-- What an opening brace begins, up to the next closing one, is the gap that stands between. -/
theorem token_braced_iff {body left : List Char} {t : Token} (apart : '\x7d' ∉ body) :
    token '\x7b' (body ++ '\x7d' :: rest) = .ok (t, left) ↔
      ∃ gap, Bounds body gap ∧ t = .gap gap ∧ left = rest := by
  have opened : token '\x7b' (body ++ '\x7d' :: rest) =
      (bracedGap (body ++ '\x7d' :: rest)).map fun taken => (.gap taken.1, taken.2) := rfl
  rw [opened, bracedGap, dropWhile_bne_append apart, takeWhile_bne_append apart, map_eq_ok_iff]
  dsimp only
  constructor
  · rintro ⟨_, read, same⟩
    obtain ⟨gap, inside, rfl⟩ := map_eq_ok_iff.1 read
    cases same
    exact ⟨gap, bounds_of_gapBody inside, rfl, rfl⟩
  · rintro ⟨gap, bounds, rfl, rfl⟩
    exact ⟨(gap, _), map_eq_ok_iff.2 ⟨gap, gapBody_of_bounds bounds, rfl⟩, rfl⟩

/-- Braces spell a gap if the text between them gives its bounds. -/
theorem spells_braced_iff {body : List Char} (apart : '\x7d' ∉ body) :
    Spells ('\x7b' :: (body ++ ['\x7d'])) (.gap gap) ↔ Bounds body gap := by
  rw [spells_cons_iff, token_braced_iff apart]
  simp

/-- Braces in front of a text write a gap in front of its tokens. -/
theorem written_braced_iff {body : List Char} (apart : '\x7d' ∉ body) :
    Written ('\x7b' :: (body ++ '\x7d' :: rest)) row ↔
      ∃ gap later, Bounds body gap ∧ Written rest later ∧ row = .gap gap :: later := by
  cases read : token '\x7b' (body ++ '\x7d' :: rest) with
  | error flaw =>
      refine iff_of_false (not_written_of_error rfl read) ?_
      rintro ⟨gap, -, bounds, -, -⟩
      have accepted : token '\x7b' (body ++ '\x7d' :: rest) = .ok (.gap gap, rest) :=
        (token_braced_iff apart).2 ⟨gap, bounds, rfl, rfl⟩
      cases read.symm.trans accepted
  | ok taken =>
      obtain ⟨t, left⟩ := taken
      obtain ⟨gap, bounds, rfl, rfl⟩ := (token_braced_iff apart).1 read
      rw [written_cons_of_token read]
      constructor
      · rintro ⟨later, behind, rfl⟩
        exact ⟨gap, later, bounds, behind, rfl⟩
      · rintro ⟨other, later, again, behind, rfl⟩
        cases (gapBody_of_bounds bounds).symm.trans (gapBody_of_bounds again)
        exact ⟨later, behind, rfl⟩

/-- The text of a gap is read as what it denotes if its spacing is admitted. -/
theorem readGap_text_iff :
    readGap (extent.text spacing) = .ok gap ↔ extent.Denotes gap ∧ extent.Admits spacing := by
  have whole : trim (extent.text spacing).toList = '\x7b' :: (extent.body spacing ++ ['\x7d']) := by
    have noBlanks : Blanks [] := nofun
    have bare : Bare (['\x7b'] ++ extent.body spacing ++ ['\x7d']) :=
      bare_append ⟨_, rfl, rfl⟩ ⟨_, rfl, rfl⟩
    simpa [Extent.text] using trim_of_bare noBlanks bare noBlanks
  rw [readGap_eq_ok_iff, whole, spells_braced_iff not_mem_body, bounds_body_iff]

/-- **Blanks in braces are insignificant, but between a dash and a star.**  A gap with blanks in its
braces is read as the gap that it is without them, alone and in a pattern, unless it has blanks
between its dash and its star; then it is refused. -/
theorem spaced_alike_iff (extent : Extent) (spacing : Spacing) :
    (∀ gap, readGap (extent.text spacing) = .ok gap ↔
      readGap extent.text = .ok gap ∧ extent.Admits spacing) ∧
    ∀ (front back : String) (tokens : List Token), Written front.toList tokens →
      ∀ sub, read (front ++ extent.text spacing ++ back) = .ok sub ↔
        read (front ++ extent.text ++ back) = .ok sub ∧ extent.Admits spacing := by
  have always : extent.Admits {} := by cases extent <;> trivial
  constructor
  · intro gap
    rw [readGap_text_iff, readGap_text_iff, and_iff_left always]
  · intro front back tokens written sub
    have opened : ∀ spacing, read (front ++ extent.text spacing ++ back) = .ok sub ↔
        ∃ gap later, (extent.Denotes gap ∧ extent.Admits spacing) ∧ Written back.toList later ∧
          assemble [] [] (tokens ++ .gap gap :: later) = some sub := by
      intro spacing
      have whole : (front ++ extent.text spacing ++ back).toList = front.toList ++
          ('\x7b' :: (extent.body spacing ++ '\x7d' :: back.toList)) := by
        simp [Extent.text]
      rw [read, mapError_eq_ok_iff, scan_eq_ok_iff, whole]
      simp only [written.append_iff, written_braced_iff not_mem_body, bounds_body_iff]
      constructor
      · rintro ⟨_, ⟨_, ⟨gap, later, denotes, behind, rfl⟩, rfl⟩, assembled⟩
        exact ⟨gap, later, denotes, behind, assembled⟩
      · rintro ⟨gap, later, denotes, behind, assembled⟩
        exact ⟨_, ⟨_, ⟨gap, later, denotes, behind, rfl⟩, rfl⟩, assembled⟩
    rw [opened, opened]
    simp only [and_iff_left always]
    constructor
    · rintro ⟨gap, later, ⟨denotes, admitted⟩, behind, assembled⟩
      exact ⟨⟨gap, later, denotes, behind, assembled⟩, admitted⟩
    · rintro ⟨⟨gap, later, denotes, behind, assembled⟩, admitted⟩
      exact ⟨gap, later, ⟨denotes, admitted⟩, behind, assembled⟩

/-- The gap `{1-16}`. -/
def oneToSixteen : Extent :=
  .between ⟨['1'], 1, Word.readNat?_eq_some_iff.1 rfl⟩
    ⟨['1', '6'], 16, Word.readNat?_eq_some_iff.1 rfl⟩

/-- Spaces and tabs wherever they may stand. -/
def roomy : Spacing where
  opening := [' ']
  beforeDash := ['\t', ' ']
  afterDash := ['\t']
  closing := [' ', ' ']

/-- The gap `{1-16}` with spaces and tabs, alone and between two bytes. -/
theorem spaced_alike_iff_roomy :
    Written "AA ".toList [.cells [some 0xAA]] ∧
    readGap oneToSixteen.text = .ok (.between 1 16) ∧
    readGap (oneToSixteen.text roomy) = .ok (.between 1 16) ∧
    read ("AA " ++ oneToSixteen.text roomy ++ " BB") =
      .ok { fragments := [.literal [0xAA], .literal [0xBB]], gaps := [.between 1 16] } := by
  have front : Written "AA ".toList [.cells [some 0xAA]] :=
    (written_cons_of_token rfl).2 ⟨[], .blank rfl .done, rfl⟩
  have alone : readGap oneToSixteen.text = .ok (.between 1 16) := by decide
  have within : read ("AA " ++ oneToSixteen.text ++ " BB") =
      .ok { fragments := [.literal [0xAA], .literal [0xBB]], gaps := [.between 1 16] } := by
    decide +kernel
  obtain ⟨gaps, patterns⟩ := spaced_alike_iff oneToSixteen roomy
  exact ⟨front, alone, (gaps _).2 ⟨alone, trivial⟩,
    (patterns "AA " " BB" _ front _).2 ⟨within, trivial⟩⟩

/-- A star with a blank before it is taken for a number. -/
theorem star_apart_refused :
    readGap "\x7b0-*\x7d" = .ok (.atLeast 0) ∧
    readGap "\x7b0- *\x7d" = .error ⟨"\x7b0- *\x7d", 0, .boundNotNumber⟩ ∧
    read "AA \x7b0-*\x7d BB" =
      .ok { fragments := [.literal [0xAA], .literal [0xBB]], gaps := [.atLeast 0] } ∧
    read "AA \x7b0- *\x7d BB" = .error ⟨"AA \x7b0- *\x7d BB", 3, .boundNotNumber⟩ :=
  ⟨by decide, by decide, by decide +kernel, by decide +kernel⟩

end Discern.Pattern
