import Discern.Proofs.Stream.Delivery

/-!
# What a reader brings before it fails

`Reader.Shows` says of a content that cannot be read to its end no more than that.  A `Flow`
tells such contents apart: it is what a reader hands out before it ends or fails, with the
fault that it fails with.  A reader `Brings` a flow if its pieces, however large the requests
are, make up the bytes of the flow, and behind them comes its end or its fault.  Some readers
work on more than a piece at a time and fail early: they do not hand out the bytes before a
fault if the request reaches up to it.

Reading up to a limit is a function of the flow all the same (`Reader.Brings.readUpTo`).
-/

namespace Discern

/-- **Bytes and what comes behind them,** which is a fault or, without one, the end. -/
structure Flow where
  bytes : Bytes
  fault : Option Fault
deriving DecidableEq, Inhabited

namespace Flow

/-- What reading to the end comes to. -/
def whole (flow : Flow) : Except Fault Bytes :=
  match flow.fault with
  | none => .ok flow.bytes
  | some fault => .error fault

/-- **What reading up to a limit comes to.**  A fault behind the limit is not met. -/
def lead (limit : Option Nat) (flow : Flow) : Except Fault Bytes :=
  match limit with
  | none => flow.whole
  | some limit => if limit ≤ flow.bytes.length then .ok (flow.bytes.take limit) else flow.whole

/-- A piece in front of a flow is in front of what reading it all comes to. -/
theorem whole_append (piece later : Bytes) (fault : Option Fault) :
    whole ⟨piece ++ later, fault⟩ = (whole ⟨later, fault⟩).map (piece ++ ·) := by
  cases fault <;> rfl

/-- A piece within the limit is the beginning of what is read. -/
theorem lead_append {limit : Option Nat} {piece : Bytes}
    (within : ∀ most, limit = some most → piece.length ≤ most) (later : Bytes)
    (fault : Option Fault) :
    lead limit ⟨piece ++ later, fault⟩ =
      (lead (limit.map (· - piece.length)) ⟨later, fault⟩).map (piece ++ ·) := by
  cases limit with
  | none => exact whole_append piece later fault
  | some limit =>
      have inside := within limit rfl
      have lengths : (piece ++ later).length = piece.length + later.length := List.length_append
      simp only [lead, Option.map_some]
      by_cases enough : limit ≤ (piece ++ later).length
      · rw [if_pos enough, if_pos (by omega), List.take_append, List.take_of_length_le inside]
        rfl
      · rw [if_neg enough, if_neg (by omega)]
        exact whole_append piece later fault

end Flow

namespace Reader

variable {σ : Type} {early : Prop}

/-- **A relation between states and what they still bring,** which requests keep.  Where
`early` holds, a request for more than the bytes before a fault may fail at once.  A failure
ends every promise. -/
structure Bringing (early : Prop) (reader : Reader σ) (left : σ → Flow → Prop) : Prop where
  ok : ∀ {s flow n bytes}, left s flow → (reader.read n s).1 = .ok bytes →
    (∃ later, flow.bytes = bytes ++ later ∧ left (reader.read n s).2 ⟨later, flow.fault⟩) ∧
      (bytes = [] → n ≠ 0 → flow = ⟨[], none⟩)
  error : ∀ {s flow n fault}, left s flow → (reader.read n s).1 = .error fault →
    flow.fault = some fault ∧ (flow.bytes = [] ∨ early ∧ flow.bytes.length < n)

/-- **What a reader brings** from a state on. -/
def Brings (early : Prop) (reader : Reader σ) (s : σ) (flow : Flow) : Prop :=
  ∃ left, reader.Bringing early left ∧ left s flow

variable {reader : Reader σ} {s : σ} {flow : Flow}

/-- What is brought is itself kept by requests. -/
theorem bringing_brings (early : Prop) (reader : Reader σ) :
    reader.Bringing early (reader.Brings early) where
  ok := by
    rintro s flow n bytes ⟨left, bringing, here⟩ answered
    obtain ⟨⟨later, same, next⟩, ends⟩ := bringing.ok here answered
    exact ⟨⟨later, same, left, bringing, next⟩, ends⟩
  error := by
    rintro s flow n fault ⟨left, bringing, here⟩ failed
    exact bringing.error here failed

namespace Brings

/-- An answer is the next bytes of the flow, and an empty one to a real request is a faultless
end. -/
theorem ok {n : Nat} {bytes : Bytes} (brings : reader.Brings early s flow)
    (answered : (reader.read n s).1 = .ok bytes) :
    (∃ later, flow.bytes = bytes ++ later ∧
      reader.Brings early (reader.read n s).2 ⟨later, flow.fault⟩) ∧
      (bytes = [] → n ≠ 0 → flow = ⟨[], none⟩) :=
  (bringing_brings early reader).ok brings answered

/-- A failure is the fault of the flow; it comes behind the bytes, or early if the request reaches
it. -/
theorem error {n : Nat} {fault : Fault} (brings : reader.Brings early s flow)
    (failed : (reader.read n s).1 = .error fault) :
    flow.fault = some fault ∧ (flow.bytes = [] ∨ early ∧ flow.bytes.length < n) :=
  (bringing_brings early reader).error brings failed

/-- A flow that may fail early under one condition may do so under a weaker one. -/
theorem mono {late : Prop} (weaker : early → late) (brings : reader.Brings early s flow) :
    reader.Brings late s flow := by
  obtain ⟨left, bringing, here⟩ := brings
  exact ⟨left, ⟨bringing.ok, fun here failed =>
    (bringing.error here failed).imp_right (Or.imp_right (And.imp_left weaker))⟩, here⟩

/-- A reader that never fails early fails behind all its bytes. -/
theorem error_of_late {n : Nat} {fault : Fault} (brings : reader.Brings False s flow)
    (failed : (reader.read n s).1 = .error fault) : flow = ⟨[], some fault⟩ := by
  obtain ⟨same, spent⟩ := brings.error failed
  obtain ⟨bytes, other⟩ := flow
  obtain rfl : bytes = [] := spent.resolve_right And.left
  obtain rfl : other = some fault := same
  rfl

/-- A piece is the beginning of what is read. -/
theorem lead_of_piece {limit : Option Nat} {piece : Bytes} {next : σ}
    (brings : reader.Brings early s flow)
    (reads : reader.read (request limit) s = (.ok piece, next)) :
    ∃ rest, reader.Brings early next rest ∧
      flow.lead limit = (rest.lead (limit.map (· - piece.length))).map (piece ++ ·) := by
  obtain ⟨⟨later, split, further⟩, -⟩ := brings.ok (congrArg Prod.fst reads)
  rw [reads] at further
  have within : ∀ most, limit = some most → piece.length ≤ most := by
    rintro most rfl
    have short := reader.taken_le (request (some most)) s
    rw [reads] at short
    exact Nat.le_trans short (request_le most)
  obtain ⟨content, fault⟩ := flow
  obtain rfl : content = piece ++ later := split
  exact ⟨_, further, Flow.lead_append within later fault⟩

/-- A request that fails asks for more than there is before the fault, so reading up to the
limit meets it as well. -/
theorem lead_of_fault {limit : Option Nat} {fault : Fault} (unfinished : limit ≠ some 0)
    (brings : reader.Brings early s flow)
    (failed : (reader.read (request limit) s).1 = .error fault) :
    flow.lead limit = .error fault := by
  obtain ⟨same, short⟩ := brings.error failed
  have whole : flow.whole = .error fault := by rw [Flow.whole, same]
  cases limit with
  | none => exact whole
  | some limit =>
      have positive : limit ≠ 0 := fun zero => unfinished (congrArg some zero)
      have behind : ¬ limit ≤ flow.bytes.length := by
        have asked := request_le limit
        rcases short with empty | ⟨-, short⟩
        · rw [empty, List.length_nil]
          omega
        · omega
      rw [Flow.lead, if_neg behind, whole]

/-- **Reading up to a limit** depends on the flow alone. -/
theorem readUpTo (brings : reader.Brings early s flow) (limit : Option Nat) :
    (reader.readUpTo limit s).1 = flow.lead limit := by
  fun_induction reader.readUpTo limit s generalizing flow with
  | case1 s => rw [Flow.lead, if_pos (Nat.zero_le _), List.take_zero]
  | case2 limit s unfinished fault next reads =>
      exact (brings.lead_of_fault unfinished (congrArg Prod.fst reads)).symm
  | case3 limit s unfinished next reads =>
      obtain rfl := (brings.ok (congrArg Prod.fst reads)).2 rfl (request_ne_zero unfinished)
      cases limit with
      | none => rfl
      | some limit =>
          rw [Flow.lead, List.take_nil]
          split <;> rfl
  | case4 limit s unfinished byte bytes next reads rest last deeper ih =>
      obtain ⟨flow, further, lead⟩ := brings.lead_of_piece reads
      have inner := ih further
      rw [deeper] at inner
      rw [lead, List.length_cons, ← inner]
      rfl
  | case5 limit s unfinished byte bytes next reads fault last deeper ih =>
      obtain ⟨flow, further, lead⟩ := brings.lead_of_piece reads
      have inner := ih further
      rw [deeper] at inner
      rw [lead, List.length_cons, ← inner]
      rfl

end Brings

/-- Reading up to a limit ends with the fault of its next request. -/
theorem readUpTo_of_fault {limit : Option Nat} {fault : Fault} (unfinished : limit ≠ some 0)
    (failed : (reader.read (request limit) s).1 = .error fault) :
    (reader.readUpTo limit s).1 = .error fault := by
  fun_cases Reader.readUpTo reader limit s with
  | case1 finished => exact absurd finished unfinished
  | case2 _ other next reads => rwa [reads] at failed
  | case3 _ next reads => cases failed.symm.trans (congrArg Prod.fst reads)
  | case4 _ byte bytes next reads => cases failed.symm.trans (congrArg Prod.fst reads)
  | case5 _ byte bytes next reads => cases failed.symm.trans (congrArg Prod.fst reads)

/-- Reading is over with a piece of all that is wanted. -/
theorem readUpTo_of_piece {limit : Nat} {piece : Bytes} (some_limit : limit ≠ 0)
    (answered : (reader.read (request (some limit)) s).1 = .ok piece)
    (full : piece.length = limit) : (reader.readUpTo (some limit) s).1 = .ok piece := by
  have behind : ∀ {next}, reader.readUpTo (some (limit - piece.length)) next = (.ok [], next) := by
    intro next
    rw [full, Nat.sub_self, Reader.readUpTo, if_pos rfl]
  fun_cases Reader.readUpTo reader (some limit) s with
  | case1 finished => exact absurd (Option.some.inj finished) some_limit
  | case2 _ other next reads => cases answered.symm.trans (congrArg Prod.fst reads)
  | case3 _ next reads => exact answered ▸ reads ▸ rfl
  | case4 _ byte bytes next reads rest last deeper =>
      obtain rfl := Except.ok.inj (answered.symm.trans (congrArg Prod.fst reads))
      cases behind.symm.trans deeper
      rw [List.append_nil]
  | case5 _ byte bytes next reads fault last deeper =>
      obtain rfl := Except.ok.inj (answered.symm.trans (congrArg Prod.fst reads))
      cases behind.symm.trans deeper

/-- To bring a content and end is to show it. -/
theorem brings_iff_shows {content : Bytes} :
    reader.Brings early s ⟨content, none⟩ ↔ reader.Shows s (some content) := by
  constructor
  · intro brings
    have delivery : reader.Delivery fun s shown =>
        ∃ content, shown = some content ∧ reader.Brings early s ⟨content, none⟩ := by
      constructor
      · rintro s _ n bytes ⟨content, rfl, here⟩ answered
        obtain ⟨⟨later, same, next⟩, ends⟩ := here.ok answered
        refine ⟨⟨some later, congrArg some same, later, rfl, next⟩, fun empty more => ?_⟩
        rw [(Flow.mk.injEq _ _ _ _).mp (ends empty more) |>.1]
      · rintro s _ n fault ⟨content, rfl, here⟩ failed
        cases (here.error failed).1
    exact delivery.shows ⟨content, rfl, brings⟩
  · intro shown
    refine ⟨fun s flow => flow.fault = none ∧ reader.Shows s (some flow.bytes), ⟨?_, ?_⟩,
      rfl, shown⟩
    · rintro s ⟨content, fault⟩ n bytes ⟨rfl, here⟩ answered
      obtain ⟨got, later, same, split, next, ends⟩ := here.read n
      obtain rfl : bytes = got := Except.ok.inj (answered.symm.trans same)
      refine ⟨⟨later, split, rfl, next⟩, fun empty more => ?_⟩
      obtain rfl : content = [] := ends empty more
      rfl
    · rintro s flow n fault ⟨-, here⟩ failed
      obtain ⟨got, later, answered, -⟩ := here.read n
      rw [failed] at answered
      cases answered

end Reader

/-- What a stream brings from where it stands. -/
def ByteStream.Brings (early : Prop) (stream : ByteStream) (flow : Flow) : Prop :=
  stream.kind.toReader.Brings early stream.state flow

/-- Reading a stream up to a limit is a function of its flow. -/
theorem ByteStream.Brings.readUpTo {early : Prop} {stream : ByteStream} {flow : Flow}
    (brings : stream.Brings early flow) (limit : Option Nat) :
    (stream.readUpTo limit).1 = flow.lead limit :=
  Reader.Brings.readUpTo brings limit

/-- Without a budget a decoder sees what the stream below brings. -/
theorem Rationed.brings {σ : Type} {early : Prop} {reader : Reader σ} {input : Rationed σ}
    {flow : Flow} (unlimited : input.budget = none)
    (brings : reader.Brings early input.base flow) :
    (Rationed.reader reader).Brings early input flow := by
  refine ⟨fun input flow => input.budget = none ∧ reader.Brings early input.base flow, ⟨?_, ?_⟩,
    unlimited, brings⟩
  · rintro input flow n bytes ⟨unlimited, here⟩ answered
    change (Rationed.read reader n input).1 = _ at answered
    change (∃ later, _ ∧ (Rationed.read reader n input).2.budget = none ∧
      reader.Brings early (Rationed.read reader n input).2.base _) ∧ _
    rw [read_of_unlimited unlimited] at answered ⊢
    obtain ⟨⟨later, split, next⟩, ends⟩ := here.ok answered
    exact ⟨⟨later, split, unlimited, next⟩, ends⟩
  · rintro input flow n fault ⟨unlimited, here⟩ failed
    change (Rationed.read reader n input).1 = _ at failed
    rw [read_of_unlimited unlimited] at failed
    exact here.error failed

end Discern
