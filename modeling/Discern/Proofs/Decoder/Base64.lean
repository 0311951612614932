import Discern.Decoder.Base64
import Discern.Proofs.Decoder.Output

/-!
# The output of the base64 decoder

However its input comes in and its output is asked for, the base64 decoder brings what the
text without its blanks writes (`Decoder.base64_computes`).  It decodes as many quads at a
time as it can, and a text may be decoded in two parts after each complete quad that is not
padded (`Base64.decode?_append`).
-/

namespace Discern

namespace Base64

/-- A text of one quad is its last quad. -/
theorem decode?_quad (a b c d : UInt8) : decode? [a, b, c, d] = lastQuad a b c d := by
  simp [decode?, decode?.go]

/-- What was decoded before stands in front of the rest. -/
theorem decode?_go : ∀ (symbols : Bytes) (done : Array UInt8),
    decode?.go done symbols = (decode? symbols).map (done.toList ++ ·)
  | [], done => by simp [decode?, decode?.go]
  | [a, b, c, d], done => by
      rw [decode?_quad, decode?.go]
      cases lastQuad a b c d <;> simp
  | a :: b :: c :: d :: e :: rest, done => by
      rw [decode?]
      simp only [decode?.go, Option.bind_eq_bind]
      cases fullQuad a b c d with
      | none => rfl
      | some quad =>
          have before := decode?_go (e :: rest) (done ++ quad)
          have alone := decode?_go (e :: rest) ((#[] : Array UInt8) ++ quad)
          simp only [Option.bind_some, before, alone, Option.map_map, Function.comp_def,
            Array.toList_appendList, List.nil_append, List.append_assoc]
  | [_], _ => rfl
  | [_, _], _ => rfl
  | [_, _, _], _ => rfl

/-- A quad with more behind it is a full one, and the rest is decoded on its own. -/
theorem decode?_cons (a b c d : UInt8) {rest : Bytes} (more : rest ≠ []) :
    decode? (a :: b :: c :: d :: rest) =
      (fullQuad a b c d).bind fun quad => (decode? rest).map (quad ++ ·) := by
  obtain ⟨e, rest, rfl⟩ := List.exists_cons_of_ne_nil more
  rw [decode?, decode?.go, Option.bind_eq_bind]
  simp only [decode?_go, Array.toList_appendList, List.nil_append]
  exact nofun

/-- No quad with padding is full. -/
theorem fullQuad_pad (a b c : UInt8) : fullQuad a b c pad = none := by
  have none_of_pad : value? pad = none := by decide
  simp [fullQuad, none_of_pad]

/-- Two texts of which the first is in quads are decoded one after the other, unless the first is
padded. -/
theorem decode?_append : ∀ (symbols : Bytes) {rest : Bytes}, symbols.length % 4 = 0 →
    rest ≠ [] → decode? (symbols ++ rest) = if isPadded symbols then none
      else (decode? symbols).bind fun bytes => (decode? rest).map (bytes ++ ·)
  | [], rest, _, _ => by simp [isPadded, decode?, decode?.go]
  | [a, b, c, d], rest, _, more => by
      rw [List.cons_append, List.cons_append, List.cons_append, List.cons_append, List.nil_append,
        decode?_cons a b c d more, decode?_quad]
      by_cases padded : d = pad
      · have closed : isPadded [a, b, c, d] = true := by simp [isPadded, padded]
        rw [if_pos closed, padded, fullQuad_pad, Option.bind_none]
      · have unpadded : ¬ isPadded [a, b, c, d] = true := by simpa [isPadded] using padded
        rw [if_neg unpadded, lastQuad, if_neg padded]
  | a :: b :: c :: d :: e :: symbols, rest, whole, more => by
      have shorter : (e :: symbols).length % 4 = 0 := by
        simp only [List.length_cons] at whole ⊢
        omega
      have same : isPadded (a :: b :: c :: d :: e :: symbols) = isPadded (e :: symbols) := by
        simp only [isPadded, List.getLast?_cons_cons]
      have ih := decode?_append (e :: symbols) shorter more
      rw [List.cons_append, List.cons_append, List.cons_append, List.cons_append,
        decode?_cons a b c d (List.append_ne_nil_of_left_ne_nil (List.cons_ne_nil e symbols) rest),
        decode?_cons a b c d (List.cons_ne_nil e symbols), ih, same]
      cases fullQuad a b c d with
      | none => simp
      | some quad =>
          by_cases padded : isPadded (e :: symbols) = true
          · simp [padded]
          · simp only [padded, Bool.false_eq_true, ↓reduceIte, Option.bind_some]
            cases decode? (e :: symbols) <;> simp [Function.comp_def]
  | [_], _, whole, _ | [_, _], _, whole, _ | [_, _, _], _, whole, _ => by cases whole

theorem fullQuad_ne_nil {a b c d : UInt8} {bytes : Bytes}
    (decoded : fullQuad a b c d = some bytes) : bytes ≠ [] := by
  simp only [fullQuad, Option.bind_eq_bind, Option.pure_def, Option.bind_eq_some_iff] at decoded
  obtain ⟨_, -, _, -, _, -, _, -, written⟩ := decoded
  cases written
  exact List.cons_ne_nil _ _

theorem lastQuad_ne_nil {a b c d : UInt8} {bytes : Bytes}
    (decoded : lastQuad a b c d = some bytes) : bytes ≠ [] := by
  rintro rfl
  rw [lastQuad] at decoded
  split_ifs at decoded
  · simp [Option.bind_eq_some_iff] at decoded
  · simp [Option.bind_eq_some_iff] at decoded
  · exact fullQuad_ne_nil decoded rfl

/-- Every text but the empty one writes something. -/
theorem decode?_ne_nil : ∀ {symbols bytes : Bytes}, symbols ≠ [] →
    decode? symbols = some bytes → bytes ≠ []
  | [a, b, c, d], bytes, _, decoded => by
      rw [decode?_quad] at decoded
      exact lastQuad_ne_nil decoded
  | a :: b :: c :: d :: e :: rest, bytes, _, decoded => by
      rw [decode?_cons a b c d (List.cons_ne_nil e rest)] at decoded
      obtain ⟨quad, first, others⟩ := Option.bind_eq_some_iff.mp decoded
      obtain ⟨later, -, rfl⟩ := Option.map_eq_some_iff.mp others
      exact List.append_ne_nil_of_left_ne_nil (fullQuad_ne_nil first) later
  | [], _, more, _ => absurd rfl more
  | [_], _, _, decoded | [_, _], _, _, decoded | [_, _, _], _, _, decoded => by cases decoded

/-- The bytes that `left` and the text after it write.  Behind padding the text is over. -/
def written (padded : Bool) (left symbols : Bytes) : Option Bytes :=
  if padded then if symbols = [] then some left else none
  else (decode? symbols).map (left ++ ·)

/-- Bytes that were left over are written first. -/
theorem written_left (padded : Bool) (handed left symbols : Bytes) :
    written padded (handed ++ left) symbols = (written padded left symbols).map (handed ++ ·) := by
  unfold written
  split_ifs
  · rfl
  · rfl
  · rw [Option.map_map]
    simp only [Function.comp_def, List.append_assoc]

/-- A text is decoded in parts up to a complete quad, or whole at its end. -/
theorem written_append {symbols more : Bytes} (whole : symbols.length % 4 = 0 ∨ more = []) :
    written false [] (symbols ++ more) =
      (decode? symbols).bind fun bytes => written (isPadded symbols) bytes more := by
  unfold written
  simp only [Bool.false_eq_true, ↓reduceIte, List.nil_append, Option.map_id']
  by_cases finished : more = []
  · rw [finished, List.append_nil]
    cases decode? symbols with
    | none => rfl
    | some bytes => simp [decode?, decode?.go]
  · rw [decode?_append symbols (whole.resolve_right finished) finished]
    cases isPadded symbols with
    | false => rfl
    | true => cases decode? symbols <;> simp [finished]

namespace Work

/-- The bytes that are still to be handed out when `rest` is still to come in. -/
def output (w : Work) (rest : Bytes) : Option Bytes :=
  written w.padded w.left (w.held ++ rest.filter (!isBlankByte ·))

/-- The account of the decoder's output.  Once it has run dry, nothing is to come in. -/
def Yields (w : Work) (rest output : Option Bytes) : Prop :=
  output = rest.bind w.output ∧ (w.news = .none ∨ w.news = .dry ∧ rest = some [])

/-- A portion is some of the held symbols, in quads unless it is all that is left at the end. -/
theorem portion_spec {w : Work} (n : Nat)
    (ready : 4 ≤ w.held.length ∨ w.news = .dry ∧ w.held ≠ []) :
    0 < w.portion n ∧ w.portion n ≤ w.held.length ∧
      (w.portion n % 4 = 0 ∨ w.news = .dry ∧ w.portion n = w.held.length) := by
  have quads : 1 ≤ max 1 (n / 3) := Nat.le_max_left _ _
  unfold portion
  generalize max 1 (n / 3) = many at quads
  by_cases dry : w.news = .dry
  · have some_held : 0 < w.held.length := by
      rcases ready with enough | ⟨-, some_held⟩
      · omega
      · exact List.length_pos_iff.mpr some_held
    simp only [dry, ↓reduceIte, true_and]
    omega
  · have enough : 4 ≤ w.held.length := ready.resolve_right fun late => dry late.1
    simp only [dry, ↓reduceIte, false_and, or_false]
    omega

section Agrees

variable {w : Work} {n : Nat} {rest output : Option Bytes}

/-- What is decoded at a time may be split off. -/
theorem Yields.eq_decoded (account : w.Yields rest output) (spent : w.left = [])
    (ready : 4 ≤ w.held.length ∨ w.news = .dry ∧ w.held ≠ []) :
    output = rest.bind fun more => if w.padded then none else
      (decode? (w.held.take (w.portion n))).bind fun bytes =>
        written (isPadded (w.held.take (w.portion n))) bytes
          (w.held.drop (w.portion n) ++ more.filter (!isBlankByte ·)) := by
  obtain ⟨some_symbols, inside, quads⟩ := portion_spec n ready
  obtain ⟨same, news⟩ := account
  rw [same]
  cases rest with
  | none => rfl
  | some more =>
      rw [Option.bind_some, Option.bind_some, Work.output, spent]
      cases w.padded with
      | true =>
          have some_held : w.held ≠ [] := List.length_pos_iff.mp (by omega)
          have behind := List.append_ne_nil_of_left_ne_nil some_held (more.filter (!isBlankByte ·))
          rw [written, if_pos rfl, if_neg behind, if_pos rfl]
      | false =>
          -- A portion that is not made of quads is all there is, and nothing comes after it.
          have whole : (w.held.take (w.portion n)).length % 4 = 0 ∨
              w.held.drop (w.portion n) ++ more.filter (!isBlankByte ·) = [] := by
            refine quads.imp (fun quads => ?_) fun ⟨dry, all⟩ => ?_
            · rwa [List.length_take_of_le inside]
            · have ended : some more = some [] :=
                (news.resolve_left fun quiet => nomatch quiet.symm.trans dry).2
              rw [Option.some.inj ended, all, List.drop_length, List.filter_nil, List.append_nil]
          have split := written_append whole
          rw [← List.append_assoc, List.take_append_drop] at split
          rw [split, if_neg Bool.false_ne_true]

/-- Decoding a portion hands out the beginning of what the text writes. -/
theorem decode_agrees (account : w.Yields rest output) (asked : n ≠ 0) (spent : w.left = [])
    (ready : 4 ≤ w.held.length ∨ w.news = .dry ∧ w.held ≠ []) :
    (decode n w).Agrees Yields n (serving n) rest output := by
  have same := account.eq_decoded (n := n) spent ready
  obtain ⟨some_symbols, inside, -⟩ := portion_spec n ready
  rw [← List.length_take_of_le inside] at some_symbols
  unfold decode
  dsimp only
  cases decoded : decode? (w.held.take (w.portion n)) with
  | none =>
      change output = none
      rw [same, decoded]
      cases rest <;> simp
  | some bytes =>
      have some_bytes : bytes ≠ [] := decode?_ne_nil (List.length_pos_iff.mp some_symbols) decoded
      have busy : bytes.isEmpty = false := List.isEmpty_eq_false_iff.mpr some_bytes
      rw [decoded] at same
      cases padded : w.padded with
      | true =>
          -- Whatever is decoded behind padding is refused.
          rw [padded] at same
          simp only [busy, Bool.not_false, Bool.and_self, ↓reduceIte]
          change output = none
          rw [same]
          cases rest <;> simp
      | false =>
          rw [padded] at same
          simp only [Bool.false_and, Bool.false_eq_true, ↓reduceIte, Bool.false_or,
            Option.bind_some] at same ⊢
          refine ⟨⟨_, ?_, rfl, .inl rfl⟩, fun empty => ?_⟩
          · rw [same, Option.map_bind]
            congr 1
            funext more
            rw [Function.comp_apply, Work.output, ← written_left, List.take_append_drop]
          · exact absurd ((List.take_eq_nil_iff.mp empty).resolve_left asked) some_bytes

/-- Taking in what comes next does not change what is still to be handed out. -/
theorem output_absorb (w : Work) {bytes : Bytes} (some_bytes : bytes ≠ []) (later : Bytes) :
    w.output (bytes ++ later) = (w.absorb (.ok bytes)).output later := by
  obtain ⟨byte, bytes, rfl⟩ := List.exists_cons_of_ne_nil some_bytes
  simp only [output, absorb, List.filter_append, List.append_assoc]

/-- A pull takes symbols in, finds the end, or brings a fault to be reported. -/
theorem pull_agrees (account : w.Yields rest output) (asked : n ≠ 0) (spent : w.left = [])
    (quiet : w.news = .none) (short : w.held.length < 4) :
    (Move.pull (capacity - w.held.length) w.absorb).Agrees Yields n (serving n) rest output := by
  obtain ⟨same, -⟩ := account
  refine ⟨?_, fun bytes later split ends => ?_, ?_⟩
  · rw [capacity]
    omega
  · by_cases empty : bytes = []
    · subst empty
      have ended := ends rfl
      obtain rfl : later = some [] := by
        rw [ended] at split
        simpa using split.symm
      rw [ended] at same
      exact ⟨same, .inr ⟨rfl, rfl⟩⟩
    · refine ⟨?_, .inl ?_⟩
      · rw [same, split]
        cases later with
        | none => rfl
        | some later => exact output_absorb w empty later
      · obtain ⟨byte, bytes, rfl⟩ := List.exists_cons_of_ne_nil empty
        exact quiet
  · rintro rfl
    refine ⟨same, fun fault => ⟨fault, { w with news := .none }, ?_⟩⟩
    rw [serving, if_neg asked]
    simp only [absorb, spent, List.isEmpty_nil, Bool.not_true, Bool.false_eq_true, ↓reduceIte]

end Agrees

/-- **Every move agrees** with what the text writes. -/
theorem yields : machine.Yields Yields := by
  intro n (w : Work) rest output account
  change (serving n w).Agrees Yields n (serving n) rest output
  unfold serving
  by_cases asked : n = 0
  · rw [if_pos asked]
    refine ⟨⟨output, ?_, account⟩, fun _ more => absurd asked more⟩
    simp only [List.nil_append, Option.map_id']
  · rw [if_neg asked]
    obtain ⟨same, news⟩ := id account
    by_cases spent : w.left = []
    · have none_left : (!w.left.isEmpty) = false := by simp [spent]
      simp only [none_left, Bool.false_eq_true, ↓reduceIte]
      rcases news with quiet | ⟨dry, ended⟩
      · rw [quiet]
        by_cases short : w.held.length < 4
        · simp only [short, ↓reduceIte]
          exact pull_agrees account asked spent quiet short
        · simp only [short, ↓reduceIte]
          exact decode_agrees account asked spent (.inl (Nat.le_of_not_lt short))
      · rw [dry]
        by_cases none_held : w.held = []
        · have nothing : (w.held.isEmpty) = true := by simp [none_held]
          have finished : output = some [] := by
            rw [same, ended, Option.bind_some, Work.output, spent, none_held]
            cases w.padded <;> rfl
          simp only [nothing, ↓reduceIte]
          refine ⟨⟨output, ?_, same, .inl rfl⟩, fun _ _ => finished⟩
          simp only [List.nil_append, Option.map_id']
        · have some_held : w.held.isEmpty = false := by simp [none_held]
          simp only [some_held, Bool.false_eq_true, ↓reduceIte]
          exact decode_agrees account asked spent (.inr ⟨dry, none_held⟩)
    · have some_left : (!w.left.isEmpty) = true := by simp [spent]
      rw [if_pos some_left]
      refine ⟨⟨_, ?_, rfl, news⟩, fun empty => ?_⟩
      · rw [same, Option.map_bind]
        congr 1
        funext more
        rw [Function.comp_apply, Work.output, Work.output, ← written_left, List.take_append_drop]
      · exact absurd ((List.take_eq_nil_iff.mp empty).resolve_left asked) spent

end Work

end Base64

namespace Decoder

/-- **The base64 decoder brings what its text writes,** blanks left out. -/
theorem base64_computes :
    base64.Computes fun text => Base64.decode? (text.filter (!Base64.isBlankByte ·)) := by
  intro base content shown
  have account : base64.machine.Yields Base64.Work.Yields := Base64.Work.yields
  exact account.shows rfl shown ⟨Option.map_id'.symm, .inl rfl⟩

/-- Text that cannot be read to its end is not decoded to its end. -/
theorem base64_strict : base64.Strict := by
  intro base shown
  have account : base64.machine.Yields Base64.Work.Yields := Base64.Work.yields
  exact account.shows rfl shown ⟨rfl, .inl rfl⟩

end Decoder

end Discern
