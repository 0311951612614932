import Discern.Proofs.Success
import Discern.Proofs.Text.Numeral
import Discern.Signature.Pattern

/-!
# The tokens of a pattern

How each token of a pattern is written.  `Spells` says it by rules, one for each kind of token.
The reader of one token accepts a text that begins with a token, and leaves what follows it; a gap
that stands alone is spelled like one among other tokens.
-/

namespace Discern

namespace Text.Hex

/-- A hexadecimal digit of either case. -/
def Digit (c : Char) (d : UInt8) : Prop :=
  d.toNat < 16 ∧ (c = lowerDigit d.toNat ∨ c = upperDigit d.toNat)

/-- What has the value of a digit is one. -/
theorem digit_of_value? {c : Char} {d : UInt8} (read : value? c = some d) : Digit c d := by
  have toNat : ∀ n < 16, n.toUInt8.toNat = n := by decide
  unfold value? at read
  split at read
  · rename_i inside
    have first : 48 ≤ c.toNat := inside.1
    have last : c.toNat ≤ 57 := inside.2
    have value : d.toNat = c.toNat - 48 := by
      cases read
      exact toNat (c.toNat - 48) (by omega)
    refine ⟨by omega, .inl ?_⟩
    rw [value, lowerDigit, if_pos (by omega), Nat.add_sub_cancel' first, Char.ofNat_toNat]
  split at read
  · rename_i inside
    have first : 97 ≤ c.toNat := inside.1
    have last : c.toNat ≤ 102 := inside.2
    have value : d.toNat = c.toNat - 87 := by
      cases read
      exact (toNat (c.toNat - 97 + 10) (by omega)).trans (by omega)
    refine ⟨by omega, .inl ?_⟩
    rw [value, lowerDigit, if_neg (by omega), Nat.add_sub_cancel' (by omega), Char.ofNat_toNat]
  split at read
  · rename_i inside
    have first : 65 ≤ c.toNat := inside.1
    have last : c.toNat ≤ 70 := inside.2
    have value : d.toNat = c.toNat - 55 := by
      cases read
      exact (toNat (c.toNat - 65 + 10) (by omega)).trans (by omega)
    refine ⟨by omega, .inr ?_⟩
    rw [value, upperDigit, if_neg (by omega), Nat.add_sub_cancel' (by omega), Char.ofNat_toNat]
  · cases read

/-- What the reader of a digit accepts. -/
theorem value?_eq_some_iff {c : Char} {d : UInt8} : value? c = some d ↔ Digit c d := by
  constructor
  · exact digit_of_value?
  · rintro ⟨small, rfl | rfl⟩
    · exact (value?_lowerDigit _ small).trans (congrArg some UInt8.ofNat_toNat)
    · exact (value?_upperDigit _ small).trans (congrArg some UInt8.ofNat_toNat)

/-- A digit is no character without a value. -/
theorem Digit.ne {c d : Char} {n : UInt8} (digit : Digit c n) (other : value? d = none) :
    c ≠ d := by
  rintro rfl
  exact nomatch other.symm.trans (value?_eq_some_iff.2 digit)

/-- Digits are ASCII characters from `0` on. -/
theorem Digit.toNat {c : Char} {d : UInt8} (digit : Digit c d) : 48 ≤ c.toNat ∧ c.toNat < 128 := by
  have digits : ∀ n < 16,
      (48 ≤ (lowerDigit n).toNat ∧ (lowerDigit n).toNat < 128) ∧
        48 ≤ (upperDigit n).toNat ∧ (upperDigit n).toNat < 128 := by
    decide
  obtain ⟨small, rfl | rfl⟩ := digit
  · exact (digits _ small).1
  · exact (digits _ small).2

/-- A byte is read from its two digits. -/
theorem pair?_eq_some_iff {high low : Char} {byte : UInt8} :
    pair? high low = some byte ↔ ∃ h l, Digit high h ∧ Digit low l ∧ 16 * h + l = byte := by
  unfold pair?
  constructor
  · intro read
    split at read
    · rename_i h l readHigh readLow
      exact ⟨h, l, value?_eq_some_iff.1 readHigh, value?_eq_some_iff.1 readLow,
        Option.some.inj read⟩
    · cases read
  · rintro ⟨h, l, isHigh, isLow, rfl⟩
    rw [value?_eq_some_iff.2 isHigh, value?_eq_some_iff.2 isLow]

end Text.Hex

namespace Pattern

open Text

variable {cs rest : List Char} {gap : Gap} {cells : List (Option UInt8)} {t : Token} {c : Char}

/-- **What the braces of a gap may hold.** -/
inductive Bounds : List Char → Gap → Prop
  | exactly {body n} : Word.Padded body n → Bounds body (.exactly n)
  | between {low high min max} : Word.Padded low min → Word.Padded high max → min ≤ max →
      Bounds (low ++ '-' :: high) (.between min max)
  | atLeast {low blanks min} : Word.Padded low min → Blanks blanks →
      Bounds (low ++ '-' :: '*' :: blanks) (.atLeast min)

/-- **How a token is written.** -/
inductive Spells : List Char → Token → Prop
  | byte {high low h l} : Hex.Digit high h → Hex.Digit low l →
      Spells [high, low] (.cells [some (16 * h + l)])
  | any : Spells ['?', '?'] (.cells [none])
  | quoted {run} : run ≠ [] → '\'' ∉ run →
      Spells ('\'' :: (run ++ ['\''])) (.cells ((Utf8.encode run).map some))
  | star : Spells ['*'] (.gap (.atLeast 0))
  | braced {body gap} : '\x7d' ∉ body → Bounds body gap →
      Spells ('\x7b' :: (body ++ ['\x7d'])) (.gap gap)

/-! ## Gaps -/

/-- A bound is a number with blanks around it. -/
theorem bound_eq_ok_iff {n : UInt64} : bound cs = .ok n ↔ Word.Padded cs n := by
  rw [← Word.read64?_trim_eq_some_iff, bound]
  cases Word.read64? (trim cs) with
  | none => exact iff_of_false nofun nofun
  | some m => rw [Except.ok.injEq, Option.some.injEq]

/-- Without a dash the one number is both bounds. -/
theorem gapBody_of_number (apart : '-' ∉ trim cs) :
    gapBody cs = do return .exactly (← bound (trim cs)) := by
  have whole : (trim cs).dropWhile (· != '-') = [] :=
    List.dropWhile_eq_nil_iff.2 fun c mem => bne_iff_ne.2 (ne_of_mem_of_not_mem mem apart)
  simp only [gapBody, whole]

/-- With a star behind the dash there is no upper bound. -/
theorem gapBody_of_star {low : List Char} (cut : trim cs = low ++ ['-', '*']) (apart : '-' ∉ low) :
    gapBody cs = do return .atLeast (← bound low) := by
  simp only [gapBody, cut, dropWhile_bne_append apart, takeWhile_bne_append apart]

/-- Two numbers are bounds if they are in order. -/
theorem gapBody_of_dash {low high : List Char} (cut : trim cs = low ++ '-' :: high)
    (apart : '-' ∉ low) (other : high ≠ ['*']) :
    gapBody cs = do
      let min ← bound low
      let max ← bound high
      if max < min then throw .invertedBounds else return .between min max := by
  simp only [gapBody, cut, dropWhile_bne_append apart, takeWhile_bne_append apart]
  split
  · rename_i same; cases same
  · rename_i same; cases same; exact absurd rfl other
  · rename_i same; cases same; rfl

/-- Blanks around bounds make no difference. -/
theorem Bounds.pad {before after : List Char} (bounds : Bounds cs gap) (front : Blanks before)
    (back : Blanks after) : Bounds (before ++ cs ++ after) gap := by
  cases bounds with
  | exactly padded => exact .exactly (padded.pad front back)
  | @between low high _ _ isLow isHigh ordered =>
      have joined : before ++ (low ++ '-' :: high) ++ after =
          (before ++ low ++ []) ++ '-' :: ([] ++ high ++ after) := by simp
      rw [joined]
      exact .between (isLow.pad front nofun) (isHigh.pad nofun back) ordered
  | @atLeast low blanks _ isLow isBlanks =>
      have joined : before ++ (low ++ '-' :: '*' :: blanks) ++ after =
          (before ++ low ++ []) ++ '-' :: '*' :: (blanks ++ after) := by simp
      rw [joined]
      exact .atLeast (isLow.pad front nofun) (isBlanks.append back)

/-- A number has no dash. -/
theorem not_mem_of_padded {n : UInt64} (padded : Word.Padded cs n) : '-' ∉ cs :=
  padded.not_mem (by decide) (by decide) (by decide)

/-- Bounds can be read. -/
theorem gapBody_of_bounds (bounds : Bounds cs gap) : gapBody cs = .ok gap := by
  cases bounds with
  | exactly padded =>
      rw [gapBody_of_number (not_mem_of_padded padded.trim), bound_eq_ok_iff.2 padded.trim]
      rfl
  | between isLow isHigh ordered =>
      obtain ⟨before, low, rfl, front, isLow, starts⟩ := isLow.exists_start
      obtain ⟨high, after, rfl, back, isHigh, ends⟩ := isHigh.exists_end
      have cut : trim (before ++ low ++ '-' :: (high ++ after)) = low ++ '-' :: high := by
        have bare : Bare (low ++ ['-'] ++ high) := bare_append starts ends
        simpa using trim_of_bare front bare back
      have other : high ≠ ['*'] := by
        rintro rfl
        exact isHigh.not_mem (by decide) (by decide) (by decide) (List.mem_singleton.2 rfl)
      rw [gapBody_of_dash cut (not_mem_of_padded isLow) other, bound_eq_ok_iff.2 isLow,
        bound_eq_ok_iff.2 isHigh]
      exact if_neg (UInt64.not_lt.2 ordered)
  | @atLeast _ blanks _ isLow isBlanks =>
      obtain ⟨before, low, rfl, front, isLow, starts⟩ := isLow.exists_start
      have cut : trim (before ++ low ++ '-' :: '*' :: blanks) = low ++ ['-', '*'] := by
        have bare : Bare (low ++ ['-'] ++ ['*']) := bare_append starts ⟨'*', rfl, rfl⟩
        simpa using trim_of_bare front bare isBlanks
      rw [gapBody_of_star cut (not_mem_of_padded isLow), bound_eq_ok_iff.2 isLow]
      rfl

/-- What can be read are bounds. -/
theorem bounds_of_gapBody (read : gapBody cs = .ok gap) : Bounds cs gap := by
  obtain ⟨before, after, split, front, back⟩ := exists_trim cs
  suffices inner : Bounds (trim cs) gap by
    have padded := inner.pad front back
    rwa [← split] at padded
  by_cases dash : '-' ∈ trim cs
  · obtain ⟨low, high, cut, apart⟩ := List.eq_append_cons_of_mem dash
    by_cases star : high = ['*']
    · subst star
      rw [gapBody_of_star cut apart] at read
      obtain ⟨min, readLow, same⟩ := bind_eq_ok_iff.1 read
      cases same
      rw [cut]
      exact .atLeast (bound_eq_ok_iff.1 readLow) nofun
    · rw [gapBody_of_dash cut apart star] at read
      obtain ⟨min, readLow, read⟩ := bind_eq_ok_iff.1 read
      obtain ⟨max, readHigh, read⟩ := bind_eq_ok_iff.1 read
      by_cases inverted : max < min
      · rw [if_pos inverted] at read
        cases read
      · rw [if_neg inverted] at read
        cases read
        rw [cut]
        exact .between (bound_eq_ok_iff.1 readLow) (bound_eq_ok_iff.1 readHigh)
          (UInt64.not_lt.1 inverted)
  · rw [gapBody_of_number dash] at read
    obtain ⟨n, readAll, same⟩ := bind_eq_ok_iff.1 read
    cases same
    exact .exactly (bound_eq_ok_iff.1 readAll)

/-- A gap in braces is read up to the first closing brace. -/
theorem bracedGap_eq_ok_iff :
    bracedGap cs = .ok (gap, rest) ↔
      ∃ body, cs = body ++ '\x7d' :: rest ∧ '\x7d' ∉ body ∧ Bounds body gap := by
  constructor
  · intro read
    unfold bracedGap at read
    split at read
    · cases read
    · rename_i stopped
      obtain ⟨-, split⟩ := eq_of_dropWhile_bne stopped
      obtain ⟨bounds, readBody, same⟩ := map_eq_ok_iff.1 read
      cases same
      exact ⟨_, split, not_mem_takeWhile_bne _ _, bounds_of_gapBody readBody⟩
  · rintro ⟨body, rfl, apart, bounds⟩
    rw [bracedGap, dropWhile_bne_append apart, takeWhile_bne_append apart,
      gapBody_of_bounds bounds]
    rfl

/-! ## Quoted runs and tokens -/

/-- A quoted text is read up to the next quote, and is not empty. -/
theorem quoted_eq_ok_iff :
    quoted cs = .ok (cells, rest) ↔ ∃ run, cs = run ++ '\'' :: rest ∧ '\'' ∉ run ∧ run ≠ [] ∧
      cells = (Utf8.encode run).map some := by
  constructor
  · intro read
    unfold quoted at read
    split at read
    · cases read
    · rename_i stopped
      obtain ⟨-, split⟩ := eq_of_dropWhile_bne stopped
      split at read
      · cases read
      · rename_i nonempty
        cases read
        exact ⟨_, split, not_mem_takeWhile_bne _ _, nonempty, rfl⟩
  · rintro ⟨run, rfl, apart, nonempty, rfl⟩
    rw [quoted, dropWhile_bne_append apart, takeWhile_bne_append apart]
    cases run with
    | nil => exact absurd rfl nonempty
    | cons c run => rfl

/-- A token that was read is spelled by the characters that were taken. -/
theorem spells_of_token (read : token c cs = .ok (t, rest)) :
    ∃ spelled, cs = spelled ++ rest ∧ Spells (c :: spelled) t := by
  unfold token at read
  split at read
  · subst c
    cases read
    exact ⟨[], rfl, .star⟩
  split at read
  · subst c
    obtain ⟨⟨gap, after⟩, readGap, same⟩ := map_eq_ok_iff.1 read
    cases same
    obtain ⟨body, rfl, apart, bounds⟩ := bracedGap_eq_ok_iff.1 readGap
    exact ⟨body ++ ['\x7d'], by simp, .braced apart bounds⟩
  split at read
  · subst c
    split at read
    · cases read
      exact ⟨['?'], rfl, .any⟩
    · cases read
  split at read
  · subst c
    obtain ⟨⟨cells, after⟩, readRun, same⟩ := map_eq_ok_iff.1 read
    cases same
    obtain ⟨run, rfl, apart, nonempty, rfl⟩ := quoted_eq_ok_iff.1 readRun
    exact ⟨run ++ ['\''], by simp, .quoted nonempty apart⟩
  split at read
  · cases read
  split at read
  · split at read
    · rename_i byte readByte
      cases read
      obtain ⟨h, l, isHigh, isLow, rfl⟩ := Hex.pair?_eq_some_iff.1 readByte
      exact ⟨[_], rfl, .byte isHigh isLow⟩
    · cases read
  · cases read

/-- A token that is spelled can be read, whatever follows. -/
theorem token_of_spells {spelled : List Char} (spells : Spells (c :: spelled) t)
    (rest : List Char) : token c (spelled ++ rest) = .ok (t, rest) := by
  cases spells with
  | byte isHigh isLow =>
      have read := Hex.pair?_eq_some_iff.2 ⟨_, _, isHigh, isLow, rfl⟩
      rw [token.eq_def, if_neg (isHigh.ne (by decide)), if_neg (isHigh.ne (by decide)),
        if_neg (isHigh.ne (by decide)), if_neg (isHigh.ne (by decide)),
        Hex.value?_eq_some_iff.2 isHigh]
      simp only [List.cons_append, List.nil_append, read]
  | any => rfl
  | @quoted run nonempty apart =>
      have read : quoted (run ++ ['\''] ++ rest) = .ok (_, rest) :=
        quoted_eq_ok_iff.2 ⟨run, by simp, apart, nonempty, rfl⟩
      rw [token.eq_def, if_neg (by decide), if_neg (by decide), if_neg (by decide), if_pos rfl,
        read]
      rfl
  | star => rfl
  | @braced body gap apart bounds =>
      have read : bracedGap (body ++ ['\x7d'] ++ rest) = .ok (gap, rest) :=
        bracedGap_eq_ok_iff.2 ⟨body, by simp, apart, bounds⟩
      rw [token.eq_def, if_neg (by decide), if_pos rfl, read]
      rfl

/-- Whether a token is a gap. -/
def Token.isGap : Token → Bool
  | .cells _ => false
  | .gap _ => true

/-- A token is spelled by at least one character. -/
theorem Spells.exists_cons {spelled : List Char} (spells : Spells spelled t) :
    ∃ c more, spelled = c :: more := by
  cases spells <;> exact ⟨_, _, rfl⟩

/-- It does not begin with a blank. -/
theorem Spells.isAsciiBlank_eq {spelled : List Char} (spells : Spells (c :: spelled) t) :
    isAsciiBlank c = false := by
  cases spells with
  | byte isHigh _ =>
      simp only [isAsciiBlank, Bool.or_eq_false_iff, beq_eq_false_iff_ne]
      refine ⟨⟨⟨⟨?_, ?_⟩, ?_⟩, ?_⟩, ?_⟩ <;> exact isHigh.ne (by decide)
  | _ => rfl

/-- Its first character says whether it is a gap. -/
theorem Spells.opensGap_eq {spelled : List Char} (spells : Spells (c :: spelled) t) :
    opensGap c = t.isGap := by
  cases spells with
  | byte isHigh _ =>
      simp only [opensGap, Token.isGap, Bool.or_eq_false_iff, beq_eq_false_iff_ne]
      exact ⟨isHigh.ne (by decide), isHigh.ne (by decide)⟩
  | _ => rfl

/-- A token of cells has some. -/
theorem Spells.cells_ne_nil {spelled : List Char} (spells : Spells spelled (.cells cells)) :
    cells ≠ [] := by
  cases spells with
  | byte => nofun
  | any => nofun
  | @quoted run nonempty _ =>
      obtain ⟨c, run, rfl⟩ := List.exists_cons_of_ne_nil nonempty
      intro none
      have bytes := congrArg List.length none
      rw [List.length_map, Utf8.length_encode, Utf8.size, List.length_nil] at bytes
      have positive := c.utf8Size_pos
      omega

/-! ## Gaps that stand alone -/

/-- A text spells a token if the reader of a token leaves nothing of it. -/
theorem spells_cons_iff : Spells (c :: cs) t ↔ token c cs = .ok (t, []) := by
  constructor
  · intro spells
    have read := token_of_spells spells []
    rwa [List.append_nil] at read
  · intro read
    obtain ⟨spelled, rfl, spells⟩ := spells_of_token read
    rwa [List.append_nil]

/-- What is read as a gap that stands alone: what spells it, with blanks around it. -/
theorem readGap_eq_ok_iff {text : String} :
    readGap text = .ok gap ↔ Spells (trim text.toList) (.gap gap) := by
  unfold readGap
  dsimp only
  generalize trim text.toList = inner
  split
  · rename_i rest
    rw [spells_cons_iff]
    have star : token '*' rest = .ok (.gap (.atLeast 0), rest) := rfl
    rw [star]
    cases rest <;> simp
  · rename_i cs
    have braced : token '\x7b' cs =
        (bracedGap cs).map fun taken => (.gap taken.1, taken.2) := rfl
    rw [spells_cons_iff, braced]
    cases bracedGap cs with
    | error flaw =>
        exact iff_of_false (fun failed => by cases failed) fun failed => by cases failed
    | ok taken =>
        obtain ⟨found, rest⟩ := taken
        cases rest <;> simp [Except.map]
  · rename_i noStar noBrace
    refine iff_of_false (fun failed => by cases failed) fun spells => ?_
    cases spells with
    | star => exact noStar [] rfl
    | @braced body _ _ _ => exact noBrace (body ++ ['\x7d']) rfl

/-- A gap has no blanks around it. -/
theorem Spells.bare_of_gap (spells : Spells cs (.gap gap)) : Bare cs := by
  cases spells with
  | star => exact ⟨⟨'*', rfl, rfl⟩, ⟨'*', rfl, rfl⟩⟩
  | @braced body _ _ _ =>
      refine ⟨⟨'\x7b', rfl, rfl⟩, ⟨'\x7d', ?_, rfl⟩⟩
      rw [← List.cons_append]
      exact List.getLast?_concat

end Pattern

end Discern
