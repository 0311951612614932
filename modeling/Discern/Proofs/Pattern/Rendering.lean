import Discern.Proofs.Library.Preparation
import Discern.Proofs.Pattern.Grammar
import Discern.Proofs.Signature.Row

/-!
# Patterns read back

A chain is written as its fragments and gaps in turn, each as it is displayed, with a space
between two neighbours.  What is displayed is spelled with tokens, so that the grammar of
patterns gives back the chain, and a gap is read back from what stands between its braces.
-/

namespace Discern

/-- The text of a gap or of a fragment. -/
def Piece.display : Piece → String
  | skip gap => gap.display
  | take fragment => fragment.display

/-- **The text of a chain:** its fragments with the gaps between them. -/
def SubSequence.patternText (sub : SubSequence) : String :=
  " ".intercalate ((interleave sub.fragments sub.gaps).map Piece.display)

namespace Pattern

open Text

variable {gap : Gap}

/-! ## Gaps -/

/-- The text of a gap of one length. -/
theorem display_exactly (n : UInt64) :
    (Gap.exactly n).display = "\x7b" ++ n.toNat.repr ++ "\x7d" := if_pos rfl

/-- The text of a gap between two bounds. -/
theorem display_between {min max : UInt64} (apart : max ≠ min) :
    (Gap.between min max).display = "\x7b" ++ min.toNat.repr ++ "-" ++ max.toNat.repr ++ "\x7d" :=
  if_neg apart

/-- The text of a gap without an upper bound. -/
theorem display_atLeast (n : UInt64) :
    (Gap.atLeast n).display = "\x7b" ++ n.toNat.repr ++ "-*\x7d" := rfl

/-- A gap is displayed between braces, by its bounds. -/
theorem exists_body_display (upright : gap.inverted? = none) :
    ∃ body, gap.display.toList = '\x7b' :: (body ++ ['\x7d']) ∧ '\x7d' ∉ body ∧
      Bounds body gap := by
  have padded : ∀ n : UInt64, Word.Padded (Nat.toDigits 10 n.toNat) n :=
    fun n => (Word.numeral_toDigits n.toNat).padded
  have closed : ∀ n : UInt64, '\x7d' ∉ Nat.toDigits 10 n.toNat :=
    fun n => (padded n).not_mem (by decide) (by decide) (by decide)
  obtain ⟨min, max⟩ := gap
  cases max with
  | none =>
      have shown : (Gap.atLeast min).display.toList =
          '\x7b' :: (Nat.toDigits 10 min.toNat ++ ['-', '*'] ++ ['\x7d']) := by
        simp [display_atLeast]
      exact ⟨_, shown, by simp [closed], .atLeast (padded min) nofun⟩
  | some max =>
      by_cases same : max = min
      · subst same
        have shown : (Gap.exactly max).display.toList =
            '\x7b' :: (Nat.toDigits 10 max.toNat ++ ['\x7d']) := by
          simp [display_exactly]
        exact ⟨_, shown, closed max, .exactly (padded max)⟩
      · have ordered : min ≤ max := by simpa [Gap.inverted?] using upright
        have shown : (Gap.between min max).display.toList =
            '\x7b' :: (Nat.toDigits 10 min.toNat ++ '-' :: Nat.toDigits 10 max.toNat ++
              ['\x7d']) := by
          simp [display_between same]
        exact ⟨_, shown, by simp [closed], .between (padded min) (padded max) ordered⟩

/-- A gap that is not inverted is spelled by its text. -/
theorem spells_display (upright : gap.inverted? = none) :
    Spells gap.display.toList (.gap gap) := by
  obtain ⟨body, shown, apart, bounds⟩ := exists_body_display upright
  rw [shown]
  exact .braced apart bounds

/-- A gap that stands alone is read back. -/
theorem readGap_display (upright : gap.inverted? = none) : readGap gap.display = .ok gap := by
  have spells := spells_display upright
  have noBlanks : Blanks [] := nofun
  have whole : trim gap.display.toList = gap.display.toList := by
    simpa using trim_of_bare noBlanks spells.bare_of_gap noBlanks
  rw [readGap_eq_ok_iff, whole]
  exact spells

/-! ## Fragments -/

variable {text more : List Char} {tokens later : List Token}

/-- Parts with spaces between them are written with the tokens of all parts. -/
theorem written_intercalate {α : Type} {display : α → String} {tokens : α → List Token}
    {parts : List α} (written : ∀ part ∈ parts, Written (display part).toList (tokens part)) :
    Written (" ".intercalate (parts.map display)).toList (parts.flatMap tokens) := by
  induction parts with
  | nil => exact .done
  | cons part parts ih =>
      obtain ⟨first, written⟩ := List.forall_mem_cons.1 written
      cases parts with
      | nil => simpa using first
      | cons next parts =>
          have space : Written (" " : String).toList [] := .blank rfl .done
          rw [List.map_cons, List.map_cons, String.intercalate_cons_cons, String.toList_append,
            String.toList_append, List.flatMap_cons]
          simpa using (first.append space).append (ih written)

/-- A byte is spelled by its two digits. -/
theorem spells_upper (byte : UInt8) : Spells (Hex.upper byte) (.cells [some byte]) := by
  obtain ⟨high, low, isHigh, isLow, rfl⟩ := Hex.pair?_eq_some_iff.1 (Hex.pair?_upper byte)
  exact .byte isHigh isLow

/-- The tokens of a gap, or of a fragment cell by cell. -/
def tokensOf : Piece → List Token
  | .skip gap => [.gap gap]
  | .take fragment => fragment.cells.map fun cell => .cells [cell]

/-- A fragment is written by its text. -/
theorem written_display_fragment (fragment : Fragment) :
    Written fragment.display.toList (tokensOf (.take fragment)) := by
  have single : tokensOf (.take fragment) =
      fragment.cells.flatMap fun cell => [Token.cells [cell]] := List.map_eq_flatMap ..
  rw [single]
  refine written_intercalate fun cell _ => ?_
  cases cell with
  | none => exact Spells.any.written
  | some byte => simpa using (spells_upper byte).written

/-! ## Chains -/

/-- A chain is written with the tokens of its fragments and gaps in turn. -/
theorem written_patternText {sub : SubSequence}
    (upright : ∀ gap ∈ sub.gaps, gap.inverted? = none) :
    Written sub.patternText.toList ((interleave sub.fragments sub.gaps).flatMap tokensOf) := by
  refine written_intercalate fun piece member => ?_
  cases piece with
  | skip gap => exact (spells_display (upright gap (mem_gaps_of_skip member))).written
  | take fragment => exact written_display_fragment fragment

variable {closed : List (Fragment × Gap)} {cells : List (Option UInt8)}

/-- The cells of a fragment are put behind those of the open one. -/
theorem assemble_fragment (fragment : Fragment) :
    assemble closed cells (tokensOf (.take fragment) ++ later) =
      assemble closed (cells ++ fragment.cells) later := by
  obtain ⟨row⟩ := fragment
  induction row generalizing cells with
  | nil => simp [tokensOf]
  | cons cell row ih =>
      simp only [tokensOf, List.map_cons, List.cons_append, assemble] at ih ⊢
      rw [ih, List.append_assoc]
      rfl

/-- The tokens of a chain are assembled to its fragments and gaps. -/
theorem assemble_interleave {fragments : List Fragment} {gaps : List Gap}
    (solid : ∀ fragment ∈ fragments, fragment.cells ≠ [])
    (aligned : gaps.length + 1 = fragments.length) :
    assemble closed [] ((interleave fragments gaps).flatMap tokensOf) =
      some {
        fragments := (closed.map Prod.fst).reverse ++ fragments
        gaps := (closed.map Prod.snd).reverse ++ gaps } := by
  -- Each gap closes the fragment in front of it; without gaps one fragment is left.
  induction gaps generalizing closed fragments with
  | nil =>
      obtain ⟨fragment, rfl⟩ := List.length_eq_one_iff.mp aligned.symm
      have filled : fragment.cells ≠ [] := solid fragment List.mem_cons_self
      rw [interleave, List.flatMap_cons, List.flatMap_nil, assemble_fragment, List.nil_append,
        assemble, if_neg (List.isEmpty_iff.not.2 filled), List.append_nil]
  | cons gap gaps ih =>
      cases fragments with
      | nil => simp at aligned
      | cons fragment fragments =>
          have shorter : gaps.length + 1 = fragments.length := by simpa using aligned
          obtain ⟨filled, solid⟩ := List.forall_mem_cons.1 solid
          rw [interleave, List.flatMap_cons, List.flatMap_cons, assemble_fragment,
            List.nil_append, tokensOf, List.singleton_append, assemble,
            if_neg (List.isEmpty_iff.not.2 filled), ih solid shorter]
          simp

/-- **What is displayed is read back.**  The text of a sound chain is read as its fragments and
gaps, and each of its gaps, the leading one included, is read from its own text. -/
theorem read_patternText {sub : SubSequence} (sound : sub.flaw? = none) :
    read sub.patternText = .ok { sub with offset := Gap.none } ∧
      ∀ gap ∈ sub.offset :: sub.gaps, readGap gap.display = .ok gap := by
  obtain ⟨-, solid, aligned, upright⟩ := (SubSequence.flaw?_eq_none_iff sub).mp sound
  refine ⟨?_, fun gap member => readGap_display (upright gap member)⟩
  rw [read, mapError_eq_ok_iff, scan_eq_ok_iff]
  refine ⟨_, written_patternText (List.forall_mem_cons.1 upright).2, ?_⟩
  simpa using @assemble_interleave [] _ _ solid aligned

/-- A chain with all forms of gaps between rows of bytes and wildcards. -/
def manyGaps : SubSequence where
  offset := .between 2 0xFFFFFFFFFFFFFFFF
  fragments := [.literal [0x50, 0x4B], ⟨[none, some 0x0A, none]⟩, .literal [0xFF], ⟨[none]⟩]
  gaps := [.exactly 3, .atLeast 0xFFFFFFFFFFFFFFFF, .between 1 4]

/-- The chain of all forms of gaps is read back from its text. -/
theorem read_patternText_manyGaps :
    manyGaps.flaw? = none ∧ read manyGaps.patternText = .ok { manyGaps with offset := Gap.none } ∧
      ∀ gap ∈ manyGaps.offset :: manyGaps.gaps, readGap gap.display = .ok gap := by
  have sound : manyGaps.flaw? = none := by decide
  exact ⟨sound, read_patternText sound⟩

end Pattern

end Discern
