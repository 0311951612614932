import Discern.Proofs.Pattern.Token
import Mathlib.Data.List.Chain

/-!
# The grammar of patterns

A pattern is a row of tokens with ASCII blanks between them.  `Written` says which texts are
written with which tokens, `WellPlaced` where gaps may stand, and `described` which sub-sequence
the tokens describe.
-/

namespace Discern.Pattern

open Text

/-- **The tokens that a text is written with,** from the left to the right. -/
inductive Written : List Char → List Token → Prop
  | done : Written [] []
  | blank {c text tokens} : isAsciiBlank c = true → Written text tokens →
      Written (c :: text) tokens
  | token {spelled t text tokens} : Spells spelled t → Written text tokens →
      Written (spelled ++ text) (t :: tokens)

/-- The cells of a token that is no gap. -/
def Token.row : Token → List (Option UInt8)
  | .cells row => row
  | .gap _ => []

/-- The gap of a token that is one. -/
def Token.gap? : Token → Option Gap
  | .cells _ => none
  | .gap bounds => some bounds

/-- Not both of two neighbours are gaps. -/
def Apart (before after : Bool) : Prop := (before && after) = false

/-- **Where gaps may stand:** neither first nor last, and not side by side. -/
structure WellPlaced (tokens : List Token) : Prop where
  starts : ∃ t ∈ tokens.head?, t.isGap = false
  ends : ∃ t ∈ tokens.getLast?, t.isGap = false
  apart : (tokens.map Token.isGap).IsChain Apart

/-- **What tokens describe:** a fragment for each run of tokens between gaps, of their cells in
order, and the gaps in order. -/
def described (tokens : List Token) : SubSequence where
  offset := Gap.none
  fragments := (tokens.splitOnP Token.isGap).map fun run => ⟨run.flatMap Token.row⟩
  gaps := tokens.filterMap Token.gap?

variable {text : List Char} {tokens : List Token} {t : Token} {c : Char}
  {closed : List (Fragment × Gap)} {cells : List (Option UInt8)} {sub : SubSequence}

/-! ## Reading token by token -/

theorem Written.append {more : List Char} {later : List Token} (front : Written text tokens)
    (back : Written more later) : Written (text ++ more) (tokens ++ later) := by
  induction front with
  | done => exact back
  | blank blank _ ih => exact .blank blank ih
  | token spells _ ih =>
      rw [List.append_assoc]
      exact .token spells ih

/-- A single token is a written text. -/
theorem Spells.written (spells : Spells text t) : Written text [t] := by
  have alone := Written.token spells .done
  rwa [List.append_nil] at alone

/-- A written text begins with a blank or with a token. -/
theorem Written.cons_cases (written : Written (c :: text) tokens) :
    isAsciiBlank c = true ∧ Written text tokens ∨
      ∃ spelled t rest later, text = spelled ++ rest ∧ Spells (c :: spelled) t ∧
        Written rest later ∧ tokens = t :: later := by
  generalize whole : c :: text = long at written
  cases written with
  | done => cases whole
  | blank blank written => cases whole; exact .inl ⟨blank, written⟩
  | @token _ t rest later spells written =>
      obtain ⟨first, spelled, rfl⟩ := spells.exists_cons
      obtain ⟨rfl, rfl⟩ := List.cons.inj whole
      exact .inr ⟨spelled, t, rest, later, rfl, spells, written, rfl⟩

/-- The empty text writes no tokens. -/
theorem Written.eq_nil (written : Written [] tokens) : tokens = [] := by
  generalize whole : [] = text at written
  cases written with
  | done => rfl
  | blank => cases whole
  | token spells _ =>
      obtain ⟨first, spelled, rfl⟩ := spells.exists_cons
      cases whole

/-- Tokens that are no gaps have cells. -/
theorem Written.solid (written : Written text tokens) :
    ∀ t ∈ tokens, t.isGap = false → t.row ≠ [] := by
  induction written with
  | done => nofun
  | blank _ _ ih => exact ih
  | @token _ t _ _ spells _ ih =>
      refine List.forall_mem_cons.2 ⟨fun noGap => ?_, ih⟩
      cases t with
      | cells row => exact spells.cells_ne_nil
      | gap _ => cases noGap

/-- A blank at the beginning makes no difference. -/
theorem written_cons_of_blank (blank : isAsciiBlank c = true) :
    Written (c :: text) tokens ↔ Written text tokens := by
  constructor
  · intro written
    rcases written.cons_cases with ⟨-, written⟩ | ⟨_, _, _, _, -, spells, -, -⟩
    · exact written
    · simp [spells.isAsciiBlank_eq] at blank
  · exact .blank blank

/-- Where a token can be read it is the first one. -/
theorem written_cons_of_token {rest : List Char} (read : token c text = .ok (t, rest)) :
    Written (c :: text) tokens ↔ ∃ later, Written rest later ∧ tokens = t :: later := by
  obtain ⟨spelled, rfl, spells⟩ := spells_of_token read
  constructor
  · intro written
    rcases written.cons_cases with ⟨blank, -⟩ | ⟨_, _, left, later, split, again, written, rfl⟩
    · simp [spells.isAsciiBlank_eq] at blank
    · have same := token_of_spells again left
      rw [← split, read] at same
      cases same
      exact ⟨later, written, rfl⟩
  · rintro ⟨later, written, rfl⟩
    exact .token spells written

/-- Where none can be read nothing is written. -/
theorem not_written_of_error {flaw : PatternFlaw} (ink : isAsciiBlank c = false)
    (failed : token c text = .error flaw) : ¬ Written (c :: text) tokens := by
  intro written
  rcases written.cons_cases with ⟨blank, -⟩ | ⟨spelled, t, rest, later, rfl, spells, -, -⟩
  · simp [ink] at blank
  · rw [token_of_spells spells] at failed
    cases failed

/-- What the reader makes of tokens, from the closed fragments and the open one on. -/
def assemble (closed : List (Fragment × Gap)) (cells : List (Option UInt8)) :
    List Token → Option SubSequence
  | [] =>
    if cells.isEmpty then none
    else some {
      fragments := (closed.map Prod.fst).reverse ++ [⟨cells⟩]
      gaps := (closed.map Prod.snd).reverse }
  | .cells more :: tokens => assemble closed (cells ++ more) tokens
  | .gap gap :: tokens =>
    if cells.isEmpty then none else assemble ((⟨cells⟩, gap) :: closed) [] tokens

/-- A draft is finished if it can be put together. -/
theorem finish_eq_ok_iff {whole : List Char} {draft : Draft} :
    draft.finish whole = .ok sub ↔ assemble draft.closed draft.cells [] = some sub := by
  unfold Draft.finish assemble
  split
  · refine iff_of_false ?_ nofun
    split <;> nofun
  · rw [Except.ok.injEq, Option.some.injEq]

/-- A token may be put to the draft before it is put together or after. -/
theorem assemble_push {draft : Draft} {here : List Char}
    (placed : t.isGap = true → draft.cells.isEmpty = false) :
    assemble (draft.push here t).closed (draft.push here t).cells tokens =
      assemble draft.closed draft.cells (t :: tokens) := by
  cases t with
  | cells _ => rfl
  | gap _ => rw [assemble, placed rfl]; rfl

/-- The scanner reads tokens and assembles them at once. -/
theorem scan_eq_ok_iff {whole : List Char} {draft : Draft} :
    scan whole draft text = .ok sub ↔
      ∃ tokens, Written text tokens ∧ assemble draft.closed draft.cells tokens = some sub := by
  fun_induction scan whole draft text with
  | case1 draft =>
      rw [finish_eq_ok_iff]
      constructor
      · exact fun assembled => ⟨[], .done, assembled⟩
      · rintro ⟨tokens, written, assembled⟩
        cases written.eq_nil
        exact assembled
  | case2 draft c cs blank ih => simp only [ih, written_cons_of_blank blank]
  | case3 draft c cs ink gapped =>
      -- a gap follows no cell: the tokens may go on as they like, they are not assembled
      obtain ⟨opens, empty⟩ := Bool.and_eq_true_iff.1 gapped
      refine iff_of_false nofun ?_
      rintro ⟨tokens, written, assembled⟩
      rcases written.cons_cases with ⟨blank, -⟩ | ⟨spelled, t, rest, later, -, spells, -, rfl⟩
      · exact ink blank
      · cases t with
        | cells _ => cases opens.symm.trans spells.opensGap_eq
        | gap _ => rw [assemble, if_pos empty] at assembled; cases assembled
  | case4 draft c cs ink placed flaw failed =>
      refine iff_of_false nofun ?_
      rintro ⟨tokens, written, -⟩
      exact not_written_of_error (eq_false_of_ne_true ink) failed written
  | case5 draft c cs ink placed t rest read ih =>
      obtain ⟨spelled, rfl, spells⟩ := spells_of_token read
      have fits : t.isGap = true → draft.cells.isEmpty = false := by
        intro isGap
        cases empty : draft.cells.isEmpty with
        | false => rfl
        | true => exact absurd (by rw [spells.opensGap_eq, isGap, empty]; rfl) placed
      rw [ih]
      simp only [written_cons_of_token read, assemble_push fits]
      constructor
      · rintro ⟨later, written, assembled⟩
        exact ⟨_, ⟨later, written, rfl⟩, assembled⟩
      · rintro ⟨_, ⟨later, written, rfl⟩, assembled⟩
        exact ⟨later, written, assembled⟩

/-! ## Fragments and gaps -/

/-- The same fragment with cells before it. -/
def prepend (cells : List (Option UInt8)) (fragment : Fragment) : Fragment :=
  ⟨cells ++ fragment.cells⟩

/-- Cells are put before the first fragment in two steps as in one. -/
theorem modifyHead_prepend (first second : List (Option UInt8)) (fragments : List Fragment) :
    (fragments.modifyHead (prepend second)).modifyHead (prepend first) =
      fragments.modifyHead (prepend (first ++ second)) := by
  cases fragments <;> simp [prepend]

/-- No cells before the first fragment make no difference. -/
theorem modifyHead_prepend_nil (fragments : List Fragment) :
    fragments.modifyHead (prepend []) = fragments := by
  cases fragments <;> rfl

/-- Cells in front belong to the first fragment. -/
theorem fragments_cons_cells (tokens : List Token) :
    (described (.cells cells :: tokens)).fragments =
      (described tokens).fragments.modifyHead (prepend cells) := by
  simp only [described, List.splitOnP_cons_eq_if_modifyHead, Token.isGap]
  cases tokens.splitOnP Token.isGap <;> rfl

/-- A gap in front opens a fragment without cells. -/
theorem fragments_cons_gap (gap : Gap) (tokens : List Token) :
    (described (.gap gap :: tokens)).fragments = ⟨[]⟩ :: (described tokens).fragments := by
  simp only [described, List.splitOnP_cons_eq_if_modifyHead, Token.isGap]
  rfl

/-- Gaps may stand where they would if there was a gap before the tokens and one after them. -/
theorem wellPlaced_iff :
    WellPlaced tokens ↔ (true :: (tokens.map Token.isGap ++ [true])).IsChain Apart := by
  rw [List.isChain_cons, List.isChain_append]
  constructor
  · rintro ⟨⟨first, isFirst, starts⟩, ⟨last, isLast, ends⟩, apart⟩
    cases tokens with
    | nil => cases isFirst
    | cons t tokens =>
        cases isFirst
        refine ⟨fun _ mem => ?_, apart, .singleton _, fun after mem _ _ => ?_⟩
        · cases mem
          exact (Bool.true_and _).trans starts
        · rw [List.getLast?_map, isLast] at mem
          cases mem
          exact congrArg (· && _) ends
  · rintro ⟨starts, apart, -, ends⟩
    cases tokens with
    | nil => cases starts true rfl
    | cons t tokens =>
        have isLast := List.getLast?_eq_some_getLast (List.cons_ne_nil t tokens)
        have last := ends _ (by rw [List.getLast?_map, isLast]; rfl) true rfl
        exact ⟨⟨t, rfl, starts _ rfl⟩, ⟨_, isLast, (Bool.and_true _).symm.trans last⟩, apart⟩

/-- Tokens are assembled behind an open fragment, which while it is empty forbids a gap as another
gap would. -/
theorem assemble_eq_some_iff (solid : ∀ t ∈ tokens, t.isGap = false → t.row ≠ []) :
    assemble closed cells tokens = some sub ↔
      (cells.isEmpty :: (tokens.map Token.isGap ++ [true])).IsChain Apart ∧
        { fragments := (closed.map Prod.fst).reverse ++
            (described tokens).fragments.modifyHead (prepend cells)
          gaps := (closed.map Prod.snd).reverse ++ (described tokens).gaps } = sub := by
  induction tokens generalizing closed cells with
  | nil =>
      have chained : (cells.isEmpty :: [true]).IsChain Apart ↔ cells.isEmpty = false := by
        simp [Apart]
      rw [List.map_nil, List.nil_append, chained, assemble]
      cases cells.isEmpty with
      | true => exact iff_of_false nofun nofun
      | false => simp [described, prepend]
  | cons t tokens ih =>
      obtain ⟨solid, later⟩ := List.forall_mem_cons.1 solid
      rw [List.map_cons, List.cons_append, List.isChain_cons_cons]
      cases t with
      | cells more =>
          have filled : (cells ++ more).isEmpty = false :=
            List.isEmpty_eq_false_iff.2 (List.append_ne_nil_of_right_ne_nil _ (solid rfl))
          have apart : Apart cells.isEmpty (Token.cells more).isGap := Bool.and_false _
          rw [assemble, ih later, fragments_cons_cells, modifyHead_prepend, filled,
            and_iff_right apart]
          rfl
      | gap gap =>
          rw [assemble, fragments_cons_gap, List.modifyHead_cons]
          cases empty : cells.isEmpty with
          | true => exact iff_of_false nofun fun placed => nomatch placed.1.1
          | false =>
              have apart : Apart false (Token.gap gap).isGap := rfl
              rw [if_neg nofun, ih later, and_iff_right apart, modifyHead_prepend_nil]
              simp [prepend, described, Token.isGap, Token.gap?]

/-- What is put together has cells in every fragment and a gap between any two. -/
theorem assemble_shape (assembled : assemble closed cells tokens = some sub)
    (solid : ∀ part ∈ closed, part.1.cells ≠ []) :
    (∀ fragment ∈ sub.fragments, fragment.cells ≠ []) ∧
      sub.gaps.length + 1 = sub.fragments.length := by
  induction tokens generalizing closed cells with
  | nil =>
      rw [assemble] at assembled
      split at assembled
      · cases assembled
      · rename_i filled
        cases assembled
        refine ⟨fun fragment mem => ?_, by simp⟩
        rcases List.mem_append.1 mem with mem | mem
        · obtain ⟨part, isClosed, rfl⟩ := List.mem_map.1 (List.mem_reverse.1 mem)
          exact solid part isClosed
        · cases List.mem_singleton.1 mem
          exact fun none => filled (List.isEmpty_iff.2 none)
  | cons t tokens ih =>
      cases t with
      | cells more => exact ih assembled solid
      | gap gap =>
          rw [assemble] at assembled
          split at assembled
          · cases assembled
          · rename_i filled
            have isSolid : cells ≠ [] := fun none => filled (List.isEmpty_iff.2 none)
            exact ih assembled (List.forall_mem_cons.2 ⟨isSolid, solid⟩)

/-- A text is written with one row of tokens at most. -/
theorem Written.unique {others : List Token} (written : Written text tokens)
    (again : Written text others) : tokens = others := by
  induction written generalizing others with
  | done => exact again.eq_nil.symm
  | blank blank _ ih => exact ih ((written_cons_of_blank blank).1 again)
  | @token _ _ text _ spells _ ih =>
      obtain ⟨first, spelled, rfl⟩ := spells.exists_cons
      obtain ⟨later, written, rfl⟩ :=
        (written_cons_of_token (token_of_spells spells text)).1 again
      exact congrArg _ (ih written)

/-- **The grammar of patterns.**  A pattern is read if and only if it is written with tokens among
which the gaps are well placed, and then it is read as what the tokens describe.  No fragment of
it is empty, and there is one gap fewer than there are fragments. -/
theorem read_follows_grammar (text : String) (sub : SubSequence) :
    (read text = .ok sub ↔
      ∃ tokens, Written text.toList tokens ∧ WellPlaced tokens ∧ described tokens = sub) ∧
    (read text = .ok sub → (∀ fragment ∈ sub.fragments, fragment.cells ≠ []) ∧
      sub.gaps.length + 1 = sub.fragments.length) := by
  rw [read, mapError_eq_ok_iff, scan_eq_ok_iff]
  constructor
  · refine exists_congr fun tokens => and_congr_right fun written => ?_
    rw [assemble_eq_some_iff written.solid, wellPlaced_iff, modifyHead_prepend_nil]
    rfl
  · rintro ⟨tokens, -, assembled⟩
    exact assemble_shape assembled nofun

example : (read "50 ??4b * 03").toOption = some {
    fragments := [⟨[some 0x50, none, some 0x4b]⟩, ⟨[some 0x03]⟩], gaps := [.atLeast 0] } := by
  decide +kernel

end Discern.Pattern
