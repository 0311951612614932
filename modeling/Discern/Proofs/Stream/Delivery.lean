import Discern.Stream.Decoded
import Mathlib.Tactic.Common

/-!
# What a reader shows

A reader hands out its content in pieces of its own choice.  It `Shows` a content if its
pieces, however large the requests are, make up that content, and the first empty answer to
a request for more comes at its end.  A reader that shows `none` has a content that cannot
be read to its end: it hands out pieces until it fails.

Reading up to a limit does not depend on the pieces (`Reader.Shows.readUpTo`,
`Reader.Shows.not_readUpTo`).
-/

namespace Discern

namespace Reader

variable {σ : Type}

/-- **A relation between states and what is left to be shown,** which requests keep.  A
failure ends every promise. -/
structure Delivery (reader : Reader σ) (left : σ → Option Bytes → Prop) : Prop where
  ok : ∀ {s content n bytes}, left s content → (reader.read n s).1 = .ok bytes →
    (∃ later, content = later.map (bytes ++ ·) ∧ left (reader.read n s).2 later) ∧
      (bytes = [] → n ≠ 0 → content = some [])
  error : ∀ {s content n fault}, left s content → (reader.read n s).1 = .error fault →
    content = none

/-- **What a reader shows** from a state on. -/
def Shows (reader : Reader σ) (s : σ) (content : Option Bytes) : Prop :=
  ∃ left, reader.Delivery left ∧ left s content

variable {reader : Reader σ} {s : σ}

/-- A relation that requests keep is all it takes to show a content. -/
theorem Delivery.shows {left : σ → Option Bytes → Prop} (delivery : reader.Delivery left)
    {content : Option Bytes} (here : left s content) : reader.Shows s content :=
  ⟨left, delivery, here⟩

/-- What is shown is itself kept by requests. -/
theorem delivery_shows (reader : Reader σ) : reader.Delivery reader.Shows where
  ok := by
    rintro s content n bytes ⟨left, delivery, here⟩ answered
    obtain ⟨⟨later, same, next⟩, ends⟩ := delivery.ok here answered
    exact ⟨⟨later, same, delivery.shows next⟩, ends⟩
  error := by
    rintro s content n fault ⟨left, delivery, here⟩ failed
    exact delivery.error here failed

/-- Below its limit reading always asks for something. -/
theorem request_ne_zero {limit : Option Nat} (unfinished : limit ≠ some 0) :
    request limit ≠ 0 := by
  cases limit with
  | none => exact Nat.succ_ne_zero _
  | some limit =>
      have positive : limit ≠ 0 := fun zero => unfinished (congrArg some zero)
      have blocks : block ≠ 0 := Nat.succ_ne_zero _
      rw [request]
      omega

theorem request_le (limit : Nat) : request (some limit) ≤ limit := Nat.min_le_left _ _

namespace Shows

/-- An answer is the next bytes of the content, and an empty one to a real request is its end. -/
theorem ok {content : Option Bytes} {n : Nat} {bytes : Bytes} (shown : reader.Shows s content)
    (answered : (reader.read n s).1 = .ok bytes) :
    (∃ later, content = later.map (bytes ++ ·) ∧ reader.Shows (reader.read n s).2 later) ∧
      (bytes = [] → n ≠ 0 → content = some []) :=
  (delivery_shows reader).ok shown answered

/-- A request is answered as long as the content can be read to its end. -/
theorem read {content : Bytes} (shown : reader.Shows s (some content)) (n : Nat) :
    ∃ bytes later, (reader.read n s).1 = .ok bytes ∧ content = bytes ++ later ∧
      reader.Shows (reader.read n s).2 (some later) ∧ (bytes = [] → n ≠ 0 → content = []) := by
  cases answered : (reader.read n s).1 with
  | error fault => cases (delivery_shows reader).error shown answered
  | ok bytes =>
      obtain ⟨⟨later, same, next⟩, ends⟩ := shown.ok answered
      obtain ⟨later, rfl, rfl⟩ := Option.map_eq_some_iff.mp same.symm
      exact ⟨bytes, later, rfl, rfl, next, fun empty more => Option.some.inj (ends empty more)⟩

/-- **Reading up to a limit** brings the content up to that limit. -/
theorem readUpTo {content : Bytes} (shown : reader.Shows s (some content))
    (limit : Option Nat) :
    (reader.readUpTo limit s).1 = .ok (limit.elim content content.take) ∧
      reader.Shows (reader.readUpTo limit s).2 (some (limit.elim [] content.drop)) := by
  fun_induction reader.readUpTo limit s generalizing content with
  | case1 s => exact ⟨rfl, shown⟩
  | case2 limit s unfinished fault next reads =>
      obtain ⟨bytes, later, answered, -⟩ := shown.read (request limit)
      rw [reads] at answered
      cases answered
  | case3 limit s unfinished next reads =>
      obtain ⟨bytes, later, answered, rfl, further, ends⟩ := shown.read (request limit)
      rw [reads] at answered further
      obtain rfl : [] = bytes := Except.ok.inj answered
      obtain rfl : later = [] := ends rfl (request_ne_zero unfinished)
      cases limit <;> exact ⟨by simp, by simpa using further⟩
  | case4 limit s unfinished byte bytes next reads rest last deeper ih =>
      -- What is asked for is within the limit, so the piece is the beginning of the answer.
      obtain ⟨got, later, answered, rfl, further, -⟩ := shown.read (request limit)
      rw [reads] at answered further
      obtain rfl : byte :: bytes = got := Except.ok.inj answered
      obtain ⟨whole, finally_⟩ := ih further
      rw [deeper] at whole finally_
      have rest_eq := Except.ok.inj whole
      cases limit with
      | none => exact ⟨by rw [rest_eq]; rfl, finally_⟩
      | some limit =>
          have short := reader.taken_le (request (some limit)) s
          rw [reads] at short
          have within : (byte :: bytes).length ≤ limit := Nat.le_trans short (request_le limit)
          constructor
          · simp only [rest_eq, Option.map_some, Option.elim_some, List.take_append,
              List.take_of_length_le within, List.length_cons]
          · simpa only [Option.map_some, Option.elim_some, List.drop_append,
              List.drop_of_length_le within, List.length_cons, List.nil_append] using finally_
  | case5 limit s unfinished byte bytes next reads fault last deeper ih =>
      obtain ⟨got, later, answered, rfl, further, -⟩ := shown.read (request limit)
      rw [reads] at answered further
      have whole := (ih further).1
      rw [deeper] at whole
      cases whole

/-- A content that cannot be read to its end is not read to its end. -/
theorem not_readUpTo (shown : reader.Shows s none) (bytes : Bytes) :
    (reader.readUpTo none s).1 ≠ .ok bytes := by
  generalize unlimited : (none : Option Nat) = limit
  fun_induction reader.readUpTo limit s generalizing bytes with
  | case1 s => cases unlimited
  | case2 limit s unfinished fault next reads => exact nofun
  | case3 limit s unfinished next reads =>
      have ends := (shown.ok (congrArg Prod.fst reads)).2 rfl (request_ne_zero unfinished)
      cases ends
  | case4 limit s unfinished byte got next reads rest last deeper ih =>
      obtain ⟨⟨later, same, further⟩, -⟩ := shown.ok (congrArg Prod.fst reads)
      obtain rfl : later = none := Option.map_eq_none_iff.mp same.symm
      subst unlimited
      rw [reads] at further
      have never := ih further rest rfl
      rw [deeper] at never
      exact (never rfl).elim
  | case5 limit s unfinished byte got next reads fault last deeper ih => exact nofun

end Shows

end Reader

/-- What a stream shows from where it stands. -/
def ByteStream.Shows (stream : ByteStream) (content : Option Bytes) : Prop :=
  stream.kind.toReader.Shows stream.state content

/-- A content in memory is shown from the position in it. -/
theorem Cursor.shows (s : Cursor) : Cursor.kind.toReader.Shows s (some s.rest) := by
  have delivery : Cursor.kind.toReader.Delivery fun s content => content = some s.rest := by
    constructor
    · rintro s content n bytes rfl answered
      obtain rfl : s.rest.take n = bytes := Except.ok.inj answered
      refine ⟨⟨some (s.rest.drop n), ?_, rfl⟩, fun empty more => ?_⟩
      · rw [Option.map_some, List.take_append_drop]
      · rw [(List.take_eq_nil_iff.mp empty).resolve_left more]
    · intro s content n fault _ failed
      cases failed
  exact delivery.shows rfl

section Rationed

variable {σ : Type} {reader : Reader σ} {input : Rationed σ}

/-- The budget is spent. -/
theorem Rationed.read_of_spent {n : Nat} (spent : input.allowance n = 0 ∧ n ≠ 0) :
    Rationed.read reader n input = (.ok [], { input with truncated := true }) := by
  rw [Rationed.read, if_pos spent]

/-- What a request brings is taken off the budget. -/
theorem Rationed.read_of_allowed {n : Nat} (allowed : ¬ (input.allowance n = 0 ∧ n ≠ 0)) :
    Rationed.read reader n input = ((reader.read (input.allowance n) input.base).1,
      { input with
        base := (reader.read (input.allowance n) input.base).2
        consumed := input.consumed + taken (reader.read (input.allowance n) input.base).1 }) := by
  rw [Rationed.read, if_neg allowed]
  generalize reader.read (input.allowance n) input.base = answer
  obtain ⟨fault | bytes, base⟩ := answer <;> rfl

/-- Without a budget an input is read as the stream below it. -/
theorem Rationed.read_of_unlimited (unlimited : input.budget = none) (n : Nat) :
    Rationed.read reader n input = ((reader.read n input.base).1,
      { input with
        base := (reader.read n input.base).2
        consumed := input.consumed + taken (reader.read n input.base).1 }) := by
  have whole : input.allowance n = n := by rw [allowance, unlimited]
  rw [read_of_allowed fun spent => spent.2 (whole.symm.trans spent.1), whole]

/-- Without a budget a request is answered as below, and what it brings is counted. -/
theorem Rationed.read_of_reads {n consumed : Nat} {s next : σ} {got : Except Fault Bytes}
    (reads : reader.read n s = (got, next)) :
    Rationed.read reader n ⟨s, none, consumed, false⟩ =
      (got, ⟨next, none, consumed + taken got, false⟩) := by
  rw [Rationed.read_of_unlimited rfl, reads]

/-- Without a budget a decoder sees what the stream below shows. -/
theorem Rationed.shows (unlimited : input.budget = none) {content : Option Bytes}
    (shown : reader.Shows input.base content) :
    (Rationed.reader reader).Shows input content := by
  have delivery : (Rationed.reader reader).Delivery fun input content =>
      input.budget = none ∧ reader.Shows input.base content := by
    constructor
    · rintro input content n bytes ⟨unlimited, here⟩ answered
      change (Rationed.read reader n input).1 = _ at answered
      change (∃ later, _ ∧ (Rationed.read reader n input).2.budget = none ∧
        reader.Shows (Rationed.read reader n input).2.base later) ∧ _
      rw [read_of_unlimited unlimited] at answered ⊢
      obtain ⟨⟨later, split, next⟩, ends⟩ := here.ok answered
      exact ⟨⟨later, split, unlimited, next⟩, ends⟩
    · rintro input content n fault ⟨unlimited, here⟩ failed
      change (Rationed.read reader n input).1 = _ at failed
      rw [read_of_unlimited unlimited] at failed
      exact (Reader.delivery_shows reader).error here failed
  exact delivery.shows ⟨unlimited, shown⟩

/-- Under a budget it sees no more than what the budget still allows. -/
theorem Rationed.shows_of_budget {budget : Nat} (given : input.budget = some budget)
    {content : Bytes} (shown : reader.Shows input.base (some content)) :
    (Rationed.reader reader).Shows input (some (content.take (budget - input.consumed))) := by
  have delivery : (Rationed.reader reader).Delivery fun input seen =>
      input.budget = some budget ∧ ∃ content, reader.Shows input.base (some content) ∧
        seen = some (content.take (budget - input.consumed)) := by
    constructor
    · rintro input _ n bytes ⟨given, content, here, rfl⟩ answered
      have allowed : input.allowance n = min n (budget - input.consumed) := by
        rw [allowance, given]
      change (Rationed.read reader n input).1 = _ at answered
      change (∃ later, _ ∧ (Rationed.read reader n input).2.budget = some budget ∧
        ∃ content, reader.Shows (Rationed.read reader n input).2.base (some content) ∧
          later = some (content.take (budget - (Rationed.read reader n input).2.consumed))) ∧ _
      by_cases spent : input.allowance n = 0 ∧ n ≠ 0
      · rw [read_of_spent spent] at answered ⊢
        obtain rfl : [] = bytes := Except.ok.inj answered
        refine ⟨⟨_, rfl, given, content, here, rfl⟩, fun _ _ => ?_⟩
        have nothing : budget - input.consumed = 0 := by omega
        rw [nothing, List.take_zero]
      · obtain ⟨got, later, reads, rfl, next, ends⟩ := here.read (input.allowance n)
        have short := reader.taken_le (input.allowance n) input.base
        rw [reads, taken_ok] at short
        rw [read_of_allowed spent, reads] at answered ⊢
        obtain rfl : got = bytes := Except.ok.inj answered
        refine ⟨⟨_, ?_, given, later, next, rfl⟩, fun empty more => ?_⟩
        · rw [Option.map_some, List.take_append, List.take_of_length_le (by omega), taken_ok,
            Nat.sub_add_eq]
        · rw [ends empty fun nothing => spent ⟨nothing, more⟩, List.take_nil]
    · rintro input _ n fault ⟨-, content, here, rfl⟩ failed
      change (Rationed.read reader n input).1 = _ at failed
      by_cases spent : input.allowance n = 0 ∧ n ≠ 0
      · rw [read_of_spent spent] at failed
        cases failed
      · obtain ⟨got, later, reads, -⟩ := here.read (input.allowance n)
        rw [read_of_allowed spent, reads] at failed
        cases failed
  exact delivery.shows ⟨given, content, shown, rfl⟩

end Rationed

end Discern
