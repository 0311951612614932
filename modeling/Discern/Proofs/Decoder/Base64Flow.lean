import Discern.Proofs.Decoder.Base64
import Discern.Proofs.Decoder.Flow

/-!
# What the base64 decoder makes of a flow

The decoder hands out what the quads of a text write up to the first one that writes nothing,
the flaw, and behind it it fails (`Base64.clear`).  Which of these bytes come in front of its
failure depends on the requests, because quads that are decoded together fail together: over
a flawed text it fails early (`Decoder.base64_brings`).  Over other texts, which may still end
in the middle of a quad or with a fault, it does not.
-/

namespace Discern

namespace Base64

/-- **What the complete quads of a text write** up to the first flaw, and whether there is one.
Behind padding every quad is a flaw. -/
def clear (padded : Bool) : Bytes → Bytes × Bool
  | a :: b :: c :: d :: rest =>
    if padded then ([], true)
    else
      match lastQuad a b c d with
      | none => ([], true)
      | some quad => (quad ++ (clear (d == pad) rest).1, (clear (d == pad) rest).2)
  | _ => ([], false)

/-- Fewer symbols than a quad write nothing, and are no flaw before the end. -/
theorem clear_of_short {padded : Bool} : ∀ {symbols : Bytes}, symbols.length < 4 →
    clear padded symbols = ([], false)
  | [], _ | [_], _ | [_, _], _ | [_, _, _], _ => rfl
  | _ :: _ :: _ :: _ :: _, short => by
      simp only [List.length_cons] at short
      omega

/-- A quad behind padding is a flaw. -/
theorem clear_of_padded : ∀ {symbols : Bytes}, 4 ≤ symbols.length →
    clear true symbols = ([], true)
  | _ :: _ :: _ :: _ :: _, _ => rfl
  | [], long | [_], long | [_, _], long | [_, _, _], long => by
      simp only [List.length_cons, List.length_nil] at long
      omega

/-- A quad that writes something is followed by what comes of the rest. -/
theorem clear_quad {a b c d : UInt8} {quad : Bytes} (written : lastQuad a b c d = some quad)
    (rest : Bytes) :
    clear false (a :: b :: c :: d :: rest) =
      (quad ++ (clear (d == pad) rest).1, (clear (d == pad) rest).2) := by
  rw [clear, if_neg Bool.false_ne_true, written]

/-- A quad that writes nothing is a flaw, at which the text is over. -/
theorem clear_flaw {a b c d : UInt8} (flaw : lastQuad a b c d = none) (rest : Bytes) :
    clear false (a :: b :: c :: d :: rest) = ([], true) := by
  rw [clear, if_neg Bool.false_ne_true, flaw]

/-- Without padding the last quad is like any other. -/
theorem lastQuad_of_ne_pad {a b c d : UInt8} (unpadded : d ≠ pad) :
    lastQuad a b c d = fullQuad a b c d := by
  rw [lastQuad, if_neg unpadded]

/-- What can be decoded at a time comes first. -/
theorem clear_append_of_decode : ∀ (symbols : Bytes) {bytes : Bytes} (rest : Bytes),
    symbols ≠ [] → decode? symbols = some bytes →
    clear false (symbols ++ rest) =
      (bytes ++ (clear (isPadded symbols) rest).1, (clear (isPadded symbols) rest).2)
  | [a, b, c, d], bytes, rest, _, decoded => by
      rw [decode?_quad] at decoded
      exact clear_quad decoded rest
  | a :: b :: c :: d :: e :: symbols, bytes, rest, _, decoded => by
      rw [decode?_cons a b c d (List.cons_ne_nil e symbols)] at decoded
      obtain ⟨quad, first, others⟩ := Option.bind_eq_some_iff.mp decoded
      obtain ⟨later, behind, rfl⟩ := Option.map_eq_some_iff.mp others
      have unpadded : d ≠ pad := by
        rintro rfl
        rw [fullQuad_pad] at first
        cases first
      have unmarked : (d == pad) = false := beq_eq_false_iff_ne.mpr unpadded
      have same : isPadded (a :: b :: c :: d :: e :: symbols) = isPadded (e :: symbols) := by
        simp only [isPadded, List.getLast?_cons_cons]
      have ih := clear_append_of_decode (e :: symbols) rest (List.cons_ne_nil e symbols) behind
      rw [List.cons_append, List.cons_append, List.cons_append, List.cons_append,
        clear_quad ((lastQuad_of_ne_pad unpadded).trans first), unmarked, ih, same,
        List.append_assoc]
  | [], _, _, more, _ => absurd rfl more
  | [_], _, _, _, decoded | [_, _], _, _, _, decoded | [_, _, _], _, _, _, decoded => by
      cases decoded

/-- What cannot be decoded at a time has a flaw, and its last quad writes nothing. -/
theorem clear_append_of_flaw : ∀ (symbols rest : Bytes), symbols.length % 4 = 0 →
    decode? symbols = none →
    (clear false (symbols ++ rest)).2 = true ∧
      4 * (clear false (symbols ++ rest)).1.length + 12 ≤ 3 * symbols.length
  | [], _, _, decoded => by cases decoded
  | [a, b, c, d], rest, _, failed => by
      rw [decode?_quad] at failed
      rw [List.cons_append, List.cons_append, List.cons_append, List.cons_append,
        clear_flaw failed]
      exact ⟨rfl, Nat.le_refl 12⟩
  | a :: b :: c :: d :: e :: symbols, rest, whole, failed => by
      have shorter : (e :: symbols).length % 4 = 0 := by
        simp only [List.length_cons] at whole ⊢
        omega
      have quads : 4 ≤ (e :: symbols).length := by
        simp only [List.length_cons] at shorter ⊢
        omega
      have total : (a :: b :: c :: d :: e :: symbols).length = (e :: symbols).length + 4 := rfl
      rw [decode?_cons a b c d (List.cons_ne_nil e symbols)] at failed
      rw [List.cons_append, List.cons_append, List.cons_append, List.cons_append, total]
      cases written : lastQuad a b c d with
      | none =>
          rw [clear_flaw written]
          refine ⟨rfl, ?_⟩
          rw [List.length_nil]
          omega
      | some quad =>
          have short := length_of_lastQuad written
          rw [clear_quad written]
          by_cases padded : d = pad
          · have longer : 4 ≤ (e :: symbols ++ rest).length := by
              rw [List.length_append]
              omega
            rw [beq_iff_eq.mpr padded, clear_of_padded longer]
            refine ⟨rfl, ?_⟩
            rw [List.append_nil]
            dsimp only
            omega
          · rw [← lastQuad_of_ne_pad padded, written, Option.bind_some,
              Option.map_eq_none_iff] at failed
            obtain ⟨flawed, bounded⟩ := clear_append_of_flaw (e :: symbols) rest shorter failed
            rw [beq_eq_false_iff_ne.mpr padded]
            refine ⟨flawed, ?_⟩
            rw [List.length_append]
            omega
  | [_], _, whole, _ | [_, _], _, whole, _ | [_, _, _], _, whole, _ => by cases whole

/-- The beginning of a text without a flaw has none either, and its quads come first. -/
theorem clear_prefix (padded : Bool) : ∀ (lead rest : Bytes),
    (clear padded (lead ++ rest)).2 = false →
    (clear padded lead).2 = false ∧ (clear padded lead).1 <+: (clear padded (lead ++ rest)).1
  | a :: b :: c :: d :: lead, rest, unflawed => by
      rw [List.cons_append, List.cons_append, List.cons_append, List.cons_append] at unflawed ⊢
      cases padded with
      | true => cases unflawed
      | false =>
          cases written : lastQuad a b c d with
          | none =>
              rw [clear_flaw written] at unflawed
              cases unflawed
          | some quad =>
              rw [clear_quad written] at unflawed
              obtain ⟨clean, beginning⟩ := clear_prefix (d == pad) lead rest unflawed
              rw [clear_quad written, clear_quad written]
              exact ⟨clean, (List.prefix_append_right_inj quad).mpr beginning⟩
  | [], _, _ | [_], _, _ | [_, _], _, _ | [_, _, _], _, _ => ⟨rfl, List.nil_prefix⟩

/-- **What comes of a text** behind the bytes `left`: a fault at a flaw, and else at its end
where it ends with a fault or in the middle of a quad. -/
def outcome (padded : Bool) (left symbols : Bytes) (fault : Option Fault) : Flow where
  bytes := left ++ (clear padded symbols).1
  fault :=
    if (clear padded symbols).2 then some .badBase64
    else fault.or (if symbols.length % 4 = 0 then none else some .badBase64)

/-- **What the decoder makes of a flow.** -/
def flow (input : Flow) : Flow :=
  outcome false [] (input.bytes.filter (!isBlankByte ·)) input.fault

/-- A text with a complete quad that writes nothing or follows padding. -/
def Flawed (text : Bytes) : Prop := (clear false (text.filter (!isBlankByte ·))).2 = true

instance (text : Bytes) : Decidable (Flawed text) :=
  inferInstanceAs (Decidable (_ = true))

/-- The beginning of a text without a flaw has none either, and writes the beginning of what the
whole writes. -/
theorem prefix_of_unflawed {lead text : Bytes} (beginning : lead <+: text)
    (unflawed : ¬ Flawed text) :
    ¬ Flawed lead ∧ (flow ⟨lead, none⟩).bytes <+: (flow ⟨text, none⟩).bytes := by
  obtain ⟨rest, rfl⟩ := beginning
  rw [Flawed, List.filter_append, Bool.not_eq_true] at unflawed
  obtain ⟨clean, begins⟩ := clear_prefix false _ _ unflawed
  rw [← List.filter_append] at begins
  exact ⟨Bool.eq_false_iff.mp clean, begins⟩

namespace Work

/-- The symbols that are to be decoded when `rest` is still to come in. -/
def symbols (w : Work) (rest : Bytes) : Bytes := w.held ++ rest.filter (!isBlankByte ·)

/-- The account of the decoder's output.  Only at a flaw it may fail early.  Once it has run
dry nothing is to come in, and no complete quad is held. -/
structure Turns (early : Prop) (w : Work) (rest output : Flow) : Prop where
  same : output = outcome w.padded w.left (w.symbols rest.bytes) rest.fault
  flawed : (clear w.padded (w.symbols rest.bytes)).2 = true → early
  news : w.news = .none ∨ w.news = .dry ∧ rest = ⟨[], none⟩ ∧ w.held.length < 4

section Conforms

variable {early : Prop} {w : Work} {n : Nat} {rest output : Flow}

/-- Nothing but complete quads is decoded before the end. -/
theorem portion_of_quiet (quiet : w.news = .none) (ready : 4 ≤ w.held.length) (n : Nat) :
    w.portion n % 4 = 0 ∧ 0 < w.portion n ∧ w.portion n ≤ w.held.length ∧
      w.portion n ≤ 4 * max 1 (n / 3) := by
  obtain ⟨some_symbols, inside, quads⟩ := portion_spec n (.inl ready)
  refine ⟨quads.resolve_right fun late => ?_, some_symbols, inside, Nat.min_le_left _ _⟩
  cases quiet.symm.trans late.1

/-- The symbols are those of the portion, those held behind it, and those still to come in. -/
theorem symbols_eq_portion_append (w : Work) (n : Nat) (rest : Bytes) :
    w.symbols rest = w.held.take (w.portion n) ++
      (w.held.drop (w.portion n) ++ rest.filter (!isBlankByte ·)) := by
  rw [symbols, ← List.append_assoc, List.take_append_drop]

/-- A portion with a flaw is refused as a whole, and so are the quads in front of the flaw. -/
theorem Turns.conforms_of_flaw (account : w.Turns early rest output) (asked : n ≠ 0)
    (spent : w.left = []) (quiet : w.news = .none) (ready : 4 ≤ w.held.length)
    (refused : w.padded = true ∨ decode? (w.held.take (w.portion n)) = none) :
    output.fault = some .badBase64 ∧ (output.bytes = [] ∨ early ∧ output.bytes.length < n) := by
  obtain ⟨quads, some_symbols, inside, most⟩ := portion_of_quiet quiet ready n
  obtain ⟨rfl, flawed, -⟩ := account
  have bound : (clear w.padded (w.symbols rest.bytes)).2 = true ∧
      (clear w.padded (w.symbols rest.bytes)).1.length < n := by
    cases padded : w.padded with
    | true =>
        have longer : 4 ≤ (w.symbols rest.bytes).length := by
          rw [symbols, List.length_append]
          omega
        rw [clear_of_padded longer]
        exact ⟨rfl, Nat.pos_of_ne_zero asked⟩
    | false =>
        have failed := refused.resolve_left (Bool.eq_false_iff.mp padded)
        have whole : (w.held.take (w.portion n)).length % 4 = 0 := by
          rwa [List.length_take_of_le inside]
        obtain ⟨flaw, short⟩ := clear_append_of_flaw _
          (w.held.drop (w.portion n) ++ rest.bytes.filter (!isBlankByte ·)) whole failed
        rw [← symbols_eq_portion_append] at flaw short
        rw [List.length_take_of_le inside] at short
        refine ⟨flaw, ?_⟩
        omega
  obtain ⟨flaw, short⟩ := bound
  refine ⟨?_, .inr ⟨flawed flaw, ?_⟩⟩
  · rw [outcome, flaw, if_pos rfl]
  · rwa [outcome, spent, List.nil_append]

/-- Decoding a portion of quads hands out what comes of them, or fails at their flaw. -/
theorem Turns.conforms_decode (account : w.Turns early rest output) (asked : n ≠ 0)
    (spent : w.left = []) (quiet : w.news = .none) (ready : 4 ≤ w.held.length) :
    (decode n w).Conforms early (Turns early) n (serving n) rest output := by
  obtain ⟨quads, some_symbols, inside, -⟩ := portion_of_quiet quiet ready n
  rw [← List.length_take_of_le inside] at some_symbols
  unfold decode
  dsimp only
  cases decoded : decode? (w.held.take (w.portion n)) with
  | none => exact account.conforms_of_flaw asked spent quiet ready (.inr decoded)
  | some bytes =>
      have some_held := List.length_pos_iff.mp some_symbols
      have some_bytes : bytes ≠ [] := decode?_ne_nil some_held decoded
      have busy : bytes.isEmpty = false := List.isEmpty_eq_false_iff.mpr some_bytes
      cases padded : w.padded with
      | true =>
          simp only [busy, Bool.not_false, Bool.and_self, ↓reduceIte]
          exact account.conforms_of_flaw asked spent quiet ready (.inl padded)
      | false =>
          simp only [Bool.false_and, Bool.false_eq_true, ↓reduceIte, Bool.false_or]
          obtain ⟨rfl, flawed, -⟩ := account
          have split := clear_append_of_decode _
            (w.held.drop (w.portion n) ++ rest.bytes.filter (!isBlankByte ·)) some_held decoded
          rw [← symbols_eq_portion_append, ← padded] at split
          have lengths : (w.symbols rest.bytes).length % 4 =
              (w.held.drop (w.portion n) ++ rest.bytes.filter (!isBlankByte ·)).length % 4 := by
            rw [symbols, List.length_append, List.length_append, List.length_drop]
            omega
          rw [split] at flawed
          refine ⟨⟨bytes.drop n ++ (clear (isPadded (w.held.take (w.portion n)))
            (w.held.drop (w.portion n) ++ rest.bytes.filter (!isBlankByte ·))).1, ?_, ?_⟩,
            fun empty => ?_⟩
          · rw [outcome, split, spent, List.nil_append, ← List.append_assoc,
              List.take_append_drop]
          · refine ⟨?_, flawed, .inl rfl⟩
            rw [outcome, split, lengths]
            rfl
          · exact absurd ((List.take_eq_nil_iff.mp empty).resolve_left asked) some_bytes

/-- Symbols that make up no quad are refused at the end. -/
theorem Turns.conforms_dry (account : w.Turns early rest output) (spent : w.left = [])
    (ended : rest = ⟨[], none⟩) (dry : w.news = .dry) (short : w.held.length < 4)
    (some_held : w.held ≠ []) :
    (decode n w).Conforms early (Turns early) n (serving n) rest output := by
  have few : w.portion n = w.held.length := by
    rw [portion, if_pos dry]
    omega
  have no_quad : decode? w.held = none := by
    match held : w.held with
    | [] => exact absurd held some_held
    | [_] | [_, _] | [_, _, _] => rfl
    | _ :: _ :: _ :: _ :: _ =>
        rw [held] at short
        simp only [List.length_cons] at short
        omega
  have some_length := List.length_pos_iff.mpr some_held
  have left_over : (w.symbols rest.bytes).length % 4 ≠ 0 := by
    rw [ended, symbols, List.filter_nil, List.append_nil]
    omega
  have all : (w.symbols rest.bytes).length < 4 := by
    rwa [ended, symbols, List.filter_nil, List.append_nil]
  unfold decode
  dsimp only
  rw [few, List.take_length, no_quad]
  obtain ⟨rfl, -, -⟩ := account
  rw [ended] at all left_over ⊢
  refine ⟨?_, .inl ?_⟩
  · rw [outcome, clear_of_short all, if_neg left_over]
    rfl
  · rw [outcome, clear_of_short all, spent]
    rfl

/-- Taking in what comes next does not change the symbols that are to be decoded. -/
theorem symbols_absorb (w : Work) {bytes : Bytes} (some_bytes : bytes ≠ []) (later : Bytes) :
    (w.absorb (.ok bytes)).symbols later = w.symbols (bytes ++ later) := by
  obtain ⟨byte, bytes, rfl⟩ := List.exists_cons_of_ne_nil some_bytes
  simp only [symbols, absorb, List.filter_append, List.append_assoc]

/-- A pull takes symbols in, finds the end, or brings a fault to be reported. -/
theorem Turns.conforms_pull (account : w.Turns early rest output) (asked : n ≠ 0)
    (spent : w.left = []) (quiet : w.news = .none) (short : w.held.length < 4) :
    (Move.pull (capacity - w.held.length) w.absorb).Conforms early (Turns early) n (serving n)
      rest output := by
  obtain ⟨rfl, flawed, -⟩ := account
  refine ⟨?_, fun bytes later split ends => ?_, ?_⟩
  · rw [capacity]
    omega
  · by_cases empty : bytes = []
    · subst empty
      obtain rfl := ends rfl
      obtain rfl : later = [] := split.symm
      exact ⟨rfl, flawed, .inr ⟨rfl, rfl, short⟩⟩
    · obtain ⟨byte, bytes, rfl⟩ := List.exists_cons_of_ne_nil empty
      have same := symbols_absorb w empty later
      rw [← split] at same
      refine ⟨?_, ?_, .inl quiet⟩
      · rw [same]
        rfl
      · rw [same]
        exact flawed
  · rintro fault rfl
    refine ⟨fault, { w with news := .none }, ?_, ?_⟩
    · have few : (w.symbols []).length < 4 := by
        rwa [symbols, List.filter_nil, List.append_nil]
      rw [outcome, clear_of_short few, spent]
      rfl
    · rw [serving, if_neg asked]
      simp only [absorb, spent, List.isEmpty_nil, Bool.not_true, Bool.false_eq_true, ↓reduceIte]

/-- Bytes that were left over are handed out first. -/
theorem Turns.conforms_left (account : w.Turns early rest output) (asked : n ≠ 0)
    (some_left : w.left ≠ []) :
    (Move.answer (.ok (w.left.take n)) { w with left := w.left.drop n }).Conforms early
      (Turns early) n (serving n) rest output := by
  obtain ⟨rfl, flawed, news⟩ := account
  refine ⟨⟨w.left.drop n ++ (clear w.padded (w.symbols rest.bytes)).1, ?_, rfl, flawed, news⟩,
    fun empty => ?_⟩
  · rw [outcome, ← List.append_assoc, List.take_append_drop]
  · exact absurd ((List.take_eq_nil_iff.mp empty).resolve_left asked) some_left

end Conforms

/-- **Every move agrees** with what comes of the text. -/
theorem turns (early : Prop) : machine.Turns early (Turns early) := by
  intro n (w : Work) rest output account
  change (serving n w).Conforms early (Turns early) n (serving n) rest output
  unfold serving
  by_cases asked : n = 0
  · rw [if_pos asked]
    exact ⟨⟨output.bytes, rfl, account⟩, fun _ more => absurd asked more⟩
  · rw [if_neg asked]
    by_cases spent : w.left = []
    · have none_left : (!w.left.isEmpty) = false := by simp [spent]
      simp only [none_left, Bool.false_eq_true, ↓reduceIte]
      rcases account.news with quiet | ⟨dry, ended, short⟩
      · rw [quiet]
        by_cases short : w.held.length < 4
        · simp only [short, ↓reduceIte]
          exact account.conforms_pull asked spent quiet short
        · simp only [short, ↓reduceIte]
          exact account.conforms_decode asked spent quiet (Nat.le_of_not_lt short)
      · rw [dry]
        by_cases none_held : w.held = []
        · have nothing : w.held.isEmpty = true := by simp [none_held]
          have finished : output = ⟨[], none⟩ := by
            rw [account.same, ended, outcome, symbols, spent, none_held]
            rfl
          simp only [nothing, ↓reduceIte]
          refine ⟨⟨output.bytes, rfl, account.same, account.flawed, .inl rfl⟩, fun _ _ => finished⟩
        · have some_held : w.held.isEmpty = false := by simp [none_held]
          simp only [some_held, Bool.false_eq_true, ↓reduceIte]
          exact account.conforms_dry spent ended dry short none_held
    · have some_left : (!w.left.isEmpty) = true := by simp [spent]
      rw [if_pos some_left]
      exact account.conforms_left asked spent

end Work

end Base64

/-- **The base64 decoder's output is a function of its input,** but over a flawed text it may
fail early. -/
theorem Decoder.base64_brings {base : ByteStream} {input : Flow}
    (brings : base.Brings False input) :
    (base.decoded base64).Brings (Base64.Flawed input.bytes) (Base64.flow input) := by
  have account : base64.machine.Turns (Base64.Flawed input.bytes)
      (Base64.Work.Turns (Base64.Flawed input.bytes)) := Base64.Work.turns _
  exact account.brings rfl brings ⟨rfl, id, .inl rfl⟩

end Discern
