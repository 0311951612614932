import Discern.Proofs.Signature.Search
import Mathlib.Data.Finset.Prod
import Mathlib.Order.Interval.Finset.Nat

/-!
# What dead ends are worth

A search is run with a log of all its calls (`Search.placeLogged`): whether a call found its pair
of steps left and position among the dead ends, got past that question, failed or succeeded, and
which dead ends were known at that moment.  The log changes nothing about the search
(`Search.outcome_placeLogged`).

Whatever is known as a dead end at any moment is one for a search that remembers nothing
(`Search.plain`); what is known once stays known; a call that fails leaves its pair behind; and no
pair gets past the question twice (`ByteSequence.searchLog_useful`).  The last of these holds
because a pair that got past the question is either remembered as soon as its call fails, or its
call succeeds and the search is over.  Calls within a call have fewer steps left.
-/

namespace Discern

namespace Search

/-! ## A search that remembers nothing -/

/-- Whether all steps can be placed after a position, found out without dead ends. -/
def plain (content : Array UInt8) : List Step → Nat → Bool
  | [], _ => true
  | step :: rest, position =>
    if content.size < step.fragment.length then false
    else
      let (count, start) := candidates content.size position step
      (List.range' start count).any fun start =>
        step.fragment.occursAt content start && plain content rest (start + step.fragment.length)

/-- The search that remembers nothing succeeds exactly if the steps can be placed. -/
theorem plain_iff_placed (content : Array UInt8) (remaining : List Step) (position : Nat) :
    plain content remaining position = true ↔ Placed content.toList remaining position := by
  induction remaining generalizing position with
  | nil => exact iff_of_true rfl trivial
  | cons step rest ih =>
      rw [plain]
      split_ifs with short
      · refine iff_of_false (fun failed => nomatch failed) ?_
        rintro ⟨skipped, -, ⟨inside, -⟩, -⟩
        rw [Array.length_toList] at inside
        omega
      rw [Nat.not_lt] at short
      simp only [placed_cons_iff short, List.any_eq_true, List.mem_range'_1, Bool.and_eq_true, ih,
        and_assoc]
      refine exists_congr fun start => and_congr_right fun low => and_congr_right fun high => ?_
      obtain ⟨skipped, -, -, inside⟩ := (mem_candidates_iff short start).mp ⟨low, high⟩
      rw [step.fragment.occursAt_iff content start inside]

/-! ## Logs -/

/-- **What happens in a call** of the search: its pair is a dead end already, or gets past that
question; in the end all steps are placed, or the call fails and its pair becomes a dead end. -/
inductive Event where
  | known
  | expanded
  | placed
  | failed
deriving DecidableEq

/-- Whether a call ends without success. -/
def Event.fails : Event → Bool
  | known | failed => true
  | expanded | placed => false

/-- **A moment of a search:** what happens in the call for some steps left and a position, and the
dead ends that are known then. -/
structure Moment where
  event : Event
  remaining : List Step
  position : Nat
  dead : DeadEnds

/-- What a call is remembered by. -/
def Moment.pair (moment : Moment) : Nat × Nat := (moment.remaining.length, moment.position)

/-- **The log of a search:** what comes of it, and its moments in the order of time. -/
structure Log where
  answer : Bool
  dead : DeadEnds
  moments : List Moment

namespace Log

/-- The log of a search that makes no call. -/
def idle (dead : DeadEnds) : Log := ⟨false, dead, []⟩

/-- The log of a search that goes on after a failure. -/
def followedBy (log later : Log) : Log := ⟨later.answer, later.dead, log.moments ++ later.moments⟩

/-- The last moment of a call that got past the question, after its tries. -/
def closing (tries : Log) (remaining : List Step) (position : Nat) : Moment :=
  if tries.answer then ⟨.placed, remaining, position, tries.dead⟩
  else ⟨.failed, remaining, position, tries.dead.insert (remaining.length, position)⟩

/-- The log of a call that got past the question, around the log of its tries. -/
def around (tries : Log) (remaining : List Step) (position : Nat) (dead : DeadEnds) : Log :=
  ⟨tries.answer, (tries.closing remaining position).dead,
    ⟨.expanded, remaining, position, dead⟩ ::
      (tries.moments ++ [tries.closing remaining position])⟩

/-- What comes of a search. -/
def outcome (log : Log) : Bool × DeadEnds := (log.answer, log.dead)

/-- The pairs that got past the question whether they are dead ends, in the order of time. -/
def expanded (log : Log) : List (Nat × Nat) :=
  (log.moments.filter (·.event = .expanded)).map Moment.pair

end Log

/-- Try positions until one succeeds, with a log. -/
def firstSuccessLogged (attempt : Nat → DeadEnds → Log) : (count start : Nat) → DeadEnds → Log
  | 0, _, dead => .idle dead
  | count + 1, start, dead =>
    let log := attempt start dead
    if log.answer then log
    else log.followedBy (firstSuccessLogged attempt count (start + 1) log.dead)

/-- **Place all steps after a position,** with a log. -/
def placeLogged (content : Array UInt8) : List Step → Nat → DeadEnds → Log
  | [], position, dead => ⟨true, dead, [⟨.placed, [], position, dead⟩]⟩
  | step :: rest, position, dead =>
    if dead.contains (rest.length + 1, position) then
      ⟨false, dead, [⟨.known, step :: rest, position, dead⟩]⟩
    else if content.size < step.fragment.length then
      (Log.idle dead).around (step :: rest) position dead
    else
      let (count, start) := candidates content.size position step
      let attempt := fun start dead =>
        if step.fragment.occursAt content start then
          placeLogged content rest (start + step.fragment.length) dead
        else .idle dead
      (firstSuccessLogged attempt count start dead).around (step :: rest) position dead

/-- Trying positions with a log comes to what trying them without one does. -/
theorem outcome_firstSuccessLogged {attempt : Nat → DeadEnds → Log}
    {other : Nat → DeadEnds → Bool × DeadEnds}
    (agree : ∀ place dead, (attempt place dead).outcome = other place dead)
    (count start : Nat) (dead : DeadEnds) :
    (firstSuccessLogged attempt count start dead).outcome =
      firstSuccess other count start dead := by
  induction count generalizing start dead with
  | zero => rfl
  | succ count ih =>
      rw [firstSuccessLogged, firstSuccess, ← agree]
      obtain ⟨answer, known, moments⟩ := attempt start dead
      cases answer with
      | true => rfl
      | false => exact ih (start + 1) known

/-- A call comes to what its tries do, and leaves a dead end if they fail. -/
theorem outcome_around (tries : Log) (remaining : List Step) (position : Nat) (dead : DeadEnds) :
    (tries.around remaining position dead).outcome =
      match tries.outcome with
      | (true, dead) => (true, dead)
      | (false, dead) => (false, dead.insert (remaining.length, position)) := by
  obtain ⟨answer, known, moments⟩ := tries
  cases answer <;> rfl

/-- **A log changes nothing** about a search. -/
theorem outcome_placeLogged (content : Array UInt8) (remaining : List Step) (position : Nat)
    (dead : DeadEnds) :
    (placeLogged content remaining position dead).outcome =
      place content remaining position dead := by
  induction remaining generalizing position dead with
  | nil => rfl
  | cons step rest ih =>
      have agree : ∀ start dead,
          (if step.fragment.occursAt content start then
              placeLogged content rest (start + step.fragment.length) dead
            else .idle dead).outcome =
          if step.fragment.occursAt content start then
            place content rest (start + step.fragment.length) dead
          else (false, dead) := by
        intro start dead
        split
        · exact ih _ _
        · rfl
      rw [placeLogged, place]
      split_ifs with known short
      · rfl
      · rfl
      dsimp only
      rw [outcome_around, outcome_firstSuccessLogged agree]
      rfl

/-! ## What one call keeps -/

/-- A search that fails is a dead end from then on. -/
theorem pair_mem_place {content : Array UInt8} {remaining : List Step} {position : Nat}
    {dead : DeadEnds} (failed : (place content remaining position dead).1 = false) :
    (remaining.length, position) ∈ (place content remaining position dead).2 := by
  cases remaining with
  | nil => cases failed
  | cons step rest =>
      rw [place] at failed ⊢
      split_ifs at failed ⊢ with known short
      · exact Std.HashSet.contains_iff_mem.mp known
      · exact Std.HashSet.mem_insert_self
      dsimp only at failed ⊢
      split at failed
      · cases failed
      · exact Std.HashSet.mem_insert_self

/-- What is known once is known later. -/
def Grows (one other : DeadEnds) : Prop := ∀ pair ∈ one, pair ∈ other

namespace Grows

variable {one other third : DeadEnds}

theorem refl (dead : DeadEnds) : Grows dead dead := fun _ => id

theorem trans (first : Grows one other) (second : Grows other third) : Grows one third :=
  fun pair known => second pair (first pair known)

theorem insert (dead : DeadEnds) (pair : Nat × Nat) : Grows dead (dead.insert pair) :=
  fun _ known => Std.HashSet.mem_insert.mpr (.inr known)

end Grows

/-- **What a log keeps** that starts with some dead ends and has at most `depth` steps left: the
dead ends grow from moment to moment, by pairs that got past the question; and these pairs are
new, different, and remembered if the search fails. -/
structure Log.Keeps (depth size : Nat) (dead : DeadEnds) (log : Log) : Prop where
  widens : Grows dead log.dead
  between : ∀ moment ∈ log.moments, Grows dead moment.dead ∧ Grows moment.dead log.dead
  ordered : log.moments.Pairwise fun earlier later => Grows earlier.dead later.dead
  failing : ∀ moment ∈ log.moments, moment.event.fails = true → moment.pair ∈ moment.dead
  origin : ∀ pair ∈ log.dead, pair ∈ dead ∨ pair ∈ log.expanded
  fresh : ∀ pair ∈ log.expanded, pair ∉ dead
  spent : log.answer = false → ∀ pair ∈ log.expanded, pair ∈ log.dead
  once : log.expanded.Nodup
  range : ∀ pair ∈ log.expanded, 1 ≤ pair.1 ∧ pair.1 ≤ depth ∧ pair.2 ≤ size

namespace Log

theorem expanded_followedBy (log later : Log) :
    (log.followedBy later).expanded = log.expanded ++ later.expanded := by
  rw [expanded, followedBy, List.filter_append, List.map_append]
  rfl

section Closing

variable (tries : Log) (remaining : List Step) (position : Nat)

/-- The last moment of a call knows what its tries have come to know. -/
theorem grows_closing : Grows tries.dead (tries.closing remaining position).dead := by
  unfold closing
  split
  · exact .refl _
  · exact .insert _ _

/-- A call that fails knows its own pair at its last moment. -/
theorem pair_mem_closing {tries : Log} (failed : tries.answer = false) :
    (remaining.length, position) ∈ (tries.closing remaining position).dead := by
  rw [closing, failed]
  exact Std.HashSet.mem_insert_self

/-- If the last moment of a call is a failure, its pair is a dead end then. -/
theorem closing_failing (fails : (tries.closing remaining position).event.fails = true) :
    (tries.closing remaining position).pair ∈ (tries.closing remaining position).dead := by
  unfold closing at fails ⊢
  split at fails
  · cases fails
  · rename_i failed
    rw [if_neg failed]
    exact Std.HashSet.mem_insert_self

/-- The last moment of a call adds no dead end but the pair of the call. -/
theorem mem_of_mem_closing {tries : Log} {pair : Nat × Nat}
    (known : pair ∈ (tries.closing remaining position).dead) :
    pair ∈ tries.dead ∨ pair = (remaining.length, position) := by
  unfold closing at known
  split at known
  · exact .inl known
  · rcases Std.HashSet.mem_insert.mp known with same | before
    · exact .inr (beq_iff_eq.mp same).symm
    · exact .inl before

/-- A call that gets past the question puts its pair before those of its tries. -/
theorem expanded_around (dead : DeadEnds) :
    (tries.around remaining position dead).expanded =
      (remaining.length, position) :: tries.expanded := by
  obtain ⟨answer, known, moments⟩ := tries
  cases answer <;> simp [expanded, around, closing, Moment.pair]

end Closing

namespace Keeps

variable {depth size : Nat} {dead : DeadEnds} {log later : Log}

/-- A log without a call keeps its dead ends and has nothing else to keep. -/
theorem idle (depth size : Nat) (dead : DeadEnds) : Keeps depth size dead (idle dead) where
  widens := .refl dead
  between _ member := nomatch member
  ordered := .nil
  failing _ member := nomatch member
  origin _ known := .inl known
  fresh _ member := nomatch member
  spent _ _ member := nomatch member
  once := .nil
  range _ member := nomatch member

/-- A call that does not get past the question changes no dead ends. -/
theorem single (moment : Moment) (answer : Bool) (closed : moment.event ≠ .expanded)
    (failing : moment.event.fails = true → moment.pair ∈ moment.dead) :
    Keeps depth size moment.dead ⟨answer, moment.dead, [moment]⟩ := by
  have unopened : expanded ⟨answer, moment.dead, [moment]⟩ = [] := by
    rw [expanded, List.filter_singleton, decide_eq_false closed]
    rfl
  refine ⟨.refl _, ?_, List.pairwise_singleton _ _, ?_, fun _ => .inl, ?_, ?_, ?_, ?_⟩
  · intro other member
    rw [List.mem_singleton.mp member]
    exact ⟨.refl _, .refl _⟩
  · intro other member
    rwa [List.mem_singleton.mp member]
  all_goals simp [unopened]

/-- What failed is known to what follows, so nothing gets past the question again. -/
theorem followedBy (first : Keeps depth size dead log) (failed : log.answer = false)
    (second : Keeps depth size log.dead later) : Keeps depth size dead (log.followedBy later) where
  widens := first.widens.trans second.widens
  between moment member := by
    rcases List.mem_append.mp member with before | behind
    · obtain ⟨low, high⟩ := first.between moment before
      exact ⟨low, high.trans second.widens⟩
    · obtain ⟨low, high⟩ := second.between moment behind
      exact ⟨first.widens.trans low, high⟩
  ordered := by
    refine List.pairwise_append.mpr ⟨first.ordered, second.ordered, ?_⟩
    intro earlier before last behind
    exact (first.between earlier before).2.trans (second.between last behind).1
  failing moment member := by
    rcases List.mem_append.mp member with before | behind
    · exact first.failing moment before
    · exact second.failing moment behind
  origin pair known := by
    rw [expanded_followedBy, List.mem_append]
    rcases second.origin pair known with known | behind
    · exact (first.origin pair known).imp_right .inl
    · exact .inr (.inr behind)
  fresh pair member := by
    rw [expanded_followedBy, List.mem_append] at member
    rcases member with before | behind
    · exact first.fresh pair before
    · exact fun known => second.fresh pair behind (first.widens pair known)
  spent answer pair member := by
    rw [expanded_followedBy, List.mem_append] at member
    rcases member with before | behind
    · exact second.widens pair (first.spent failed pair before)
    · exact second.spent answer pair behind
  once := by
    rw [expanded_followedBy]
    refine first.once.append second.once fun pair before behind => ?_
    exact second.fresh pair behind (first.spent failed pair before)
  range pair member := by
    rw [expanded_followedBy, List.mem_append] at member
    exact member.elim (first.range pair) (second.range pair)

/-- A call has more steps left than the calls within it, and its pair is remembered in the end if
it fails. -/
theorem around {tries : Log} {step : Step} {rest : List Step} {position : Nat}
    (within : Keeps rest.length size dead tries) (inside : position ≤ size)
    (new : (rest.length + 1, position) ∉ dead) :
    Keeps (rest.length + 1) size dead (tries.around (step :: rest) position dead) := by
  have later := grows_closing tries (step :: rest) position
  have pairs := expanded_around tries (step :: rest) position dead
  have widens := within.widens.trans later
  constructor
  case widens => exact widens
  case between =>
    intro moment member
    rcases List.mem_cons.mp member with rfl | member
    · exact ⟨.refl dead, widens⟩
    rcases List.mem_append.mp member with inner | last
    · obtain ⟨low, high⟩ := within.between moment inner
      exact ⟨low, high.trans later⟩
    · rw [List.mem_singleton.mp last]
      exact ⟨widens, .refl _⟩
  case ordered =>
    refine List.pairwise_cons.mpr ⟨fun moment member => ?_, List.pairwise_append.mpr
      ⟨within.ordered, List.pairwise_singleton _ _, fun moment inner last member => ?_⟩⟩
    · rcases List.mem_append.mp member with inner | last
      · exact (within.between moment inner).1
      · rw [List.mem_singleton.mp last]
        exact widens
    · rw [List.mem_singleton.mp member]
      exact (within.between moment inner).2.trans later
  case failing =>
    intro moment member fails
    rcases List.mem_cons.mp member with rfl | member
    · cases fails
    rcases List.mem_append.mp member with inner | last
    · exact within.failing moment inner fails
    · rw [List.mem_singleton.mp last] at fails ⊢
      exact closing_failing _ _ _ fails
  case origin =>
    intro pair known
    rw [pairs, List.mem_cons]
    rcases mem_of_mem_closing _ _ known with before | own
    · exact (within.origin pair before).imp_right .inr
    · exact .inr (.inl own)
  case fresh =>
    intro pair member
    rw [pairs] at member
    rcases List.mem_cons.mp member with rfl | inner
    · exact new
    · exact within.fresh pair inner
  case spent =>
    intro failed pair member
    rw [pairs] at member
    rcases List.mem_cons.mp member with rfl | inner
    · exact pair_mem_closing _ _ failed
    · exact later pair (within.spent failed pair inner)
  case once =>
    rw [pairs]
    refine List.nodup_cons.mpr ⟨fun again => ?_, within.once⟩
    have shorter := (within.range _ again).2.1
    exact Nat.not_succ_le_self _ shorter
  case range =>
    intro pair member
    rw [pairs] at member
    rcases List.mem_cons.mp member with rfl | inner
    · exact ⟨Nat.le_add_left 1 _, Nat.le_refl _, inside⟩
    · obtain ⟨low, high, fits⟩ := within.range pair inner
      exact ⟨low, Nat.le_succ_of_le high, fits⟩

end Keeps

end Log

/-- Positions that are tried in a row keep what every one of them keeps. -/
theorem firstSuccessLogged_keeps {attempt : Nat → DeadEnds → Log} {depth size count start : Nat}
    (attempts : ∀ place dead, start ≤ place → place < start + count →
      (attempt place dead).Keeps depth size dead) (dead : DeadEnds) :
    (firstSuccessLogged attempt count start dead).Keeps depth size dead := by
  induction count generalizing start dead with
  | zero => exact .idle depth size dead
  | succ count ih =>
      have first := attempts start dead (Nat.le_refl start) (by omega)
      rw [firstSuccessLogged]
      split_ifs with success
      · exact first
      · refine first.followedBy (Bool.eq_false_of_not_eq_true success) (ih ?_ _)
        exact fun place known low high => attempts place known (by omega) (by omega)

/-- **Every search keeps its dead ends,** whichever it starts with. -/
theorem placeLogged_keeps (content : Array UInt8) (remaining : List Step) (position : Nat)
    (dead : DeadEnds) (inside : position ≤ content.size) :
    (placeLogged content remaining position dead).Keeps remaining.length content.size dead := by
  induction remaining generalizing position dead with
  | nil =>
      exact .single ⟨.placed, [], position, dead⟩ true nofun nofun
  | cons step rest ih =>
      rw [placeLogged]
      split_ifs with known short
      · exact .single ⟨.known, step :: rest, position, dead⟩ false nofun fun _ =>
          Std.HashSet.contains_iff_mem.mp known
      all_goals rw [Std.HashSet.contains_iff_mem] at known
      · exact (Log.Keeps.idle _ _ dead).around inside known
      · rw [Nat.not_lt] at short
        refine (firstSuccessLogged_keeps (fun start dead low high => ?_) dead).around inside known
        obtain ⟨skipped, -, -, fits⟩ := (mem_candidates_iff short start).mp ⟨low, high⟩
        split_ifs
        · exact ih _ _ fits
        · exact .idle _ _ _

/-! ## Whole searches -/

/-- The dead ends of a search that started with none are about its steps. -/
theorem Log.Keeps.exists_suffix {steps : List Step} {size : Nat} {log : Log}
    (keeps : log.Keeps steps.length size ∅) {pair : Nat × Nat} (known : pair ∈ log.dead) :
    ∃ remaining, remaining <:+ steps ∧ remaining.length = pair.1 := by
  have expanded := (keeps.origin pair known).resolve_left Std.HashSet.not_mem_empty
  have short := (keeps.range pair expanded).2.1
  exact ⟨steps.drop (steps.length - pair.1), List.drop_suffix _ _, by
    rw [List.length_drop]; omega⟩

/-- Only as many different pairs can be asked about. -/
theorem Log.Keeps.length_expanded_le {depth size : Nat} {dead : DeadEnds} {log : Log}
    (keeps : log.Keeps depth size dead) : log.expanded.length ≤ depth * (size + 1) := by
  have bounded : log.expanded.toFinset ⊆ Finset.Icc 1 depth ×ˢ Finset.range (size + 1) := by
    intro pair member
    obtain ⟨low, high, fits⟩ := keeps.range pair (List.mem_toFinset.mp member)
    exact Finset.mem_product.mpr
      ⟨Finset.mem_Icc.mpr ⟨low, high⟩, Finset.mem_range.mpr (Nat.lt_succ_of_le fits)⟩
  calc log.expanded.length
      = log.expanded.toFinset.card := (List.toFinset_card_of_nodup keeps.once).symm
    _ ≤ (Finset.Icc 1 depth ×ˢ Finset.range (size + 1)).card := Finset.card_le_card bounded
    _ = depth * (size + 1) := by rw [Finset.card_product, Nat.card_Icc, Finset.card_range]; rfl

/-- **What the dead ends of a search are worth.**  At every moment they are dead ends for a search
that remembers nothing; they grow; a call that fails is among them; and no pair gets past the
question whether it is one of them twice. -/
structure Log.Useful (content : Array UInt8) (steps : List Step) (log : Log) : Prop where
  sound : ∀ moment ∈ log.moments, ∀ pair ∈ moment.dead, ∃ remaining, remaining <:+ steps ∧
    remaining.length = pair.1 ∧ plain content remaining pair.2 = false
  grows : log.moments.Pairwise fun earlier later => ∀ pair ∈ earlier.dead, pair ∈ later.dead
  failing : ∀ moment ∈ log.moments, moment.event.fails = true → moment.pair ∈ moment.dead
  once : log.expanded.Nodup

/-- A search from no dead ends has a log whose dead ends are worth keeping. -/
theorem placeLogged_useful (content : Array UInt8) (steps : List Step) :
    (placeLogged content steps 0 ∅).Useful content steps := by
  have keeps := placeLogged_keeps content steps 0 ∅ (Nat.zero_le _)
  have sound : Sound content.toList steps (placeLogged content steps 0 ∅).dead := by
    have placed := place_spec content steps steps List.suffix_rfl 0 ∅ (.empty _ _)
    rw [← outcome_placeLogged] at placed
    exact placed.2
  refine ⟨fun moment member pair known => ?_, keeps.ordered, keeps.failing, keeps.once⟩
  -- What is known at a moment is known in the end.
  have later := (keeps.between moment member).2 pair known
  obtain ⟨remaining, suffix, length⟩ := keeps.exists_suffix later
  refine ⟨remaining, suffix, length, Bool.eq_false_of_not_eq_true fun success => ?_⟩
  exact sound remaining pair.2 suffix (length ▸ later) ((plain_iff_placed _ _ _).mp success)

end Search

namespace ByteSequence

/-- The log of looking for a sequence in a content. -/
def searchLog (sequence : ByteSequence) (content : Bytes) : Search.Log :=
  Search.placeLogged (sequence.view content) sequence.steps 0 ∅

/-- Looking at a content from its end changes its order, not its size. -/
theorem size_view (sequence : ByteSequence) (content : Bytes) :
    (sequence.view content).size = content.length := by
  unfold view
  cases sequence.anchor <;> simp

/-- **Remembering dead ends is sound and worth it.**  Every call that fails leaves a dead end.  The
log of a search has its answer and its dead ends, and the answer is that of a search that remembers
nothing.  At every moment the dead ends are what they ought to be, and at most one pair gets past
the question for each step and each position in the content or at its end. -/
theorem searchLog_useful (sequence : ByteSequence) (content : Bytes) :
    (∀ remaining position dead,
        (Search.place (sequence.view content) remaining position dead).1 = false →
          (remaining.length, position) ∈
            (Search.place (sequence.view content) remaining position dead).2) ∧
      (sequence.searchLog content).outcome =
        Search.place (sequence.view content) sequence.steps 0 ∅ ∧
      sequence.occursIn content =
        (!sequence.steps.isEmpty && (sequence.searchLog content).answer) ∧
      (sequence.searchLog content).answer =
        Search.plain (sequence.view content) sequence.steps 0 ∧
      (sequence.searchLog content).Useful (sequence.view content) sequence.steps ∧
      (sequence.searchLog content).expanded.length ≤
        sequence.steps.length * (content.length + 1) := by
  have outcome := Search.outcome_placeLogged (sequence.view content) sequence.steps 0 ∅
  have answer : (sequence.searchLog content).answer =
      (Search.place (sequence.view content) sequence.steps 0 ∅).1 := congrArg Prod.fst outcome
  refine ⟨fun _ _ _ => Search.pair_mem_place, outcome, ?_, ?_, Search.placeLogged_useful _ _, ?_⟩
  · rw [answer]
    rfl
  · have placed := (Search.place_spec (sequence.view content) sequence.steps sequence.steps
      List.suffix_rfl 0 ∅ (.empty _ _)).1
    rw [answer, Bool.eq_iff_iff, placed, Search.plain_iff_placed]
  · rw [← sequence.size_view]
    exact (Search.placeLogged_keeps _ _ 0 ∅ (Nat.zero_le _)).length_expanded_le

/-- Three bytes in this order, anywhere. -/
def scattered : ByteSequence where
  anchor := .variable
  subSequences := [{
    offset := .atLeast 0
    fragments := [.literal [0x41], .literal [0x42], .literal [0x43]]
    gaps := [.atLeast 0, .atLeast 0] }]

-- The last step is reached behind the same byte twice, and is looked for once.
example : ((scattered.prepare.searchLog [0x41, 0x41, 0x42]).moments.map fun moment =>
    (moment.event, moment.pair)) =
      [(.expanded, 3, 0), (.expanded, 2, 1), (.expanded, 1, 3), (.failed, 1, 3), (.failed, 2, 1),
        (.expanded, 2, 2), (.known, 1, 3), (.failed, 2, 2), (.failed, 3, 0)] := by
  cbv

end ByteSequence

end Discern
