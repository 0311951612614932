import Discern.Proofs.Glob.Below

/-!
# Everything inside the directories of a glob

A pattern with `/**` behind it speaks of what lies inside the directories that it accepts by
itself.  It is read as its own tokens and two more, and what these tokens accept has a front that
the own tokens accept, up to a `/`.

That is so unless the pattern ends in a `**` itself.  A `**` behind another is left out, and its
`/` with it: such a pattern accepts the same with `/**` behind it as it does without.
-/

namespace Discern

namespace Glob

variable {tokens : List GlobToken} {token : GlobToken} {directory text rest tail : List Char}

/-! ## Reading -/

/-- A suffix does not end in what the whole does not end in. -/
theorem getLast?_ne_of_suffix {α : Type} {rest whole : List α} {a : α} (inside : rest <:+ whole)
    (ends : whole.getLast? ≠ some a) : rest.getLast? ≠ some a := by
  obtain ⟨before, rfl⟩ := inside
  exact fun same => ends (List.mem_getLast?_append_of_mem_getLast? same)

/-- What is pushed comes first. -/
theorem head?_pushComponents (done : List GlobToken) :
    (pushComponents done).head? = some .components := by
  unfold pushComponents
  split <;> rfl

/-- What is put behind a pattern to speak of everything inside. -/
def insideText : List Char := ['/', '*', '*']

/-- The tokens for everything inside: those of a `/` and a `**`, but a `**` behind another one
swallows the `/`. -/
def insideTokens (tokens : List GlobToken) : List GlobToken :=
  if tokens.getLast? = some .components then (pushComponents tokens.reverse).reverse
  else tokens ++ [.char '/', .components]

/-- The glob for everything inside. -/
def inside (glob : Glob) : Glob := ⟨insideTokens glob.tokens⟩

/-- What stands behind a set stands at the end of the pattern. -/
theorem suffix_of_set {cs after : List Char} (bracket : bracket? cs = some (token, after)) :
    after <:+ '[' :: cs :=
  ((List.suffix_cons ..).trans (suffix_of_bracket? bracket)).trans (List.suffix_cons ..)

/-- Brackets that are not closed hold nothing. -/
theorem toBracket?_of_not_mem {first : Char} {cs : List Char} (unclosed : ']' ∉ cs) :
    toBracket? (first :: cs) = none := by
  have dropped : cs.dropWhile (· != ']') = [] :=
    List.dropWhile_eq_nil_iff.2 fun c mem => bne_iff_ne.2 (ne_of_mem_of_not_mem mem unclosed)
  simp [toBracket?, dropped]

/-- Brackets hold what stands before the first `]` behind their first character. -/
theorem toBracket?_of_not_mem_before {first : Char} {before after : List Char}
    (apart : ']' ∉ before) :
    toBracket? (first :: (before ++ ']' :: after)) = some (first :: before, after) := by
  simp [toBracket?, Text.dropWhile_bne_append apart, Text.takeWhile_bne_append apart]

/-- What is put behind a pattern to speak of everything inside closes no bracket. -/
theorem toBracket?_append_insideText (cs : List Char) :
    toBracket? (cs ++ insideText) =
      (toBracket? cs).map fun (set, after) => (set, after ++ insideText) := by
  cases cs with
  | nil => rfl
  | cons first cs =>
      by_cases closed : ']' ∈ cs
      · obtain ⟨before, after, rfl, apart⟩ := List.eq_append_cons_of_mem closed
        rw [toBracket?_of_not_mem_before apart, List.cons_append, List.append_assoc,
          List.cons_append, toBracket?_of_not_mem_before apart]
        rfl
      · have unclosed : ']' ∉ cs ++ insideText := by simpa [insideText] using closed
        rw [toBracket?_of_not_mem closed, List.cons_append, toBracket?_of_not_mem unclosed]
        rfl

/-- A set is closed before `/**`, or not at all. -/
theorem bracket?_append_insideText (cs : List Char) :
    bracket? (cs ++ insideText) =
      (bracket? cs).map fun (token, after) => (token, after ++ insideText) := by
  cases cs with
  | nil => rfl
  | cons c cs =>
      by_cases negated : c = '!'
      · subst negated
        simp only [List.cons_append, bracket?, toBracket?_append_insideText, Option.map_map]
        rfl
      · have whole := toBracket?_append_insideText (c :: cs)
        rw [List.cons_append] at whole
        simp [bracket?, negated, whole, Function.comp_def]

variable {position : Nat} {fresh : Bool} {done : List GlobToken}

/-- A `**` inside of a component is an error at the character before it. -/
theorem readFrom_of_stale {cs : List Char} (stale : ¬ fresh = true)
    (star : ∀ tail, cs = '*' :: tail → False) :
    readFrom position fresh done ('*' :: '*' :: cs) = .error ⟨position - 1, .recursive⟩ := by
  cases cs with
  | nil => rw [readFrom, if_neg stale]
  | cons c cs =>
      by_cases slash : c = '/'
      · subst slash
        rw [readFrom, if_neg stale]
      · rw [readFrom, if_neg stale]
        · exact star
        · exact List.cons_ne_nil c cs
        · exact fun _ same => slash (List.cons.inj same).1

/-- Brackets are read as one token. -/
theorem readFrom_of_bracket {cs after : List Char} (bracket : bracket? cs = some (token, after)) :
    readFrom position fresh done ('[' :: cs) =
      readFrom (position + 1 + (cs.length - after.length)) false (token :: done) after := by
  rw [readFrom]
  split
  · rename_i found
    cases bracket.symm.trans found
    rfl
  · rename_i missed
    cases bracket.symm.trans missed

/-- A bracket that is not closed is an error where it stands. -/
theorem readFrom_of_bracket_eq_none {cs : List Char} (bracket : bracket? cs = none) :
    readFrom position fresh done ('[' :: cs) = .error ⟨position, .range⟩ := by
  rw [readFrom]
  split
  · rename_i found
    cases bracket.symm.trans found
  · rfl

/-- **The pattern for everything inside is read as the pattern itself,** with the same error if
there is one. -/
theorem readFrom_append_insideText (ends : text.getLast? ≠ some '/')
    (other : text = [] → done.head? ≠ some .components) :
    readFrom position fresh done (text ++ insideText) =
      (readFrom position fresh done text).map inside := by
  have apart : ∀ {cs : List Char}, (∀ tail, cs = '*' :: tail → False) →
      ∀ tail, cs ++ insideText = '*' :: tail → False := by
    intro cs other tail same
    cases cs with
    | nil => cases same
    | cons c cs => exact other cs (by rw [(List.cons.inj same).1])
  -- what is read of `/**` shows only where the pattern itself ends
  fun_induction readFrom position fresh done text with
  | case1 position fresh done =>
      have last : ¬ done.head? = some .components := other rfl
      simp [insideText, readFrom, pushComponents, Except.map, inside, insideTokens, last]
  | case2 position fresh done cs ih =>
      rw [List.cons_append, readFrom, ih (getLast?_ne_of_suffix (List.suffix_cons ..) ends)
        (by simp)]
  | case3 position fresh done cs => simp [readFrom, Except.map]
  | case4 position done =>
      -- a final `**` reads the `/` behind it as its own
      simp [insideText, readFrom, Except.map, inside, insideTokens, head?_pushComponents]
  | case5 position done after _ ih =>
      have more : after ≠ [] := by
        rintro rfl
        exact ends rfl
      simp only [List.cons_append, readFrom]
      exact ih (getLast?_ne_of_suffix (List.suffix_append ['*', '*', '/'] after) ends)
        fun none => absurd none more
  | case6 position done cs star filled slash =>
      obtain ⟨c, cs, rfl⟩ := List.exists_cons_of_ne_nil filled
      have notStar : c ≠ '*' := fun same => star cs (by rw [same])
      have notSlash : c ≠ '/' := fun same => slash cs (by rw [same])
      simp [readFrom, Except.map, notStar, notSlash]
  | case7 position fresh done cs star stale =>
      rw [List.cons_append, List.cons_append, readFrom_of_stale stale (apart star)]
      rfl
  | case8 position fresh done cs _ single ih =>
      rw [List.cons_append, readFrom, ih (getLast?_ne_of_suffix (List.suffix_cons ..) ends)
        (by simp)]
      · exact fun tail => apart single ('*' :: tail)
      · exact apart single
  | case9 position fresh done cs token after bracket ih =>
      have longer : bracket? (cs ++ insideText) = some (token, after ++ insideText) := by
        rw [bracket?_append_insideText, bracket]
        rfl
      -- the position moves on by the length of the set, whatever stands behind it
      have same : (cs ++ insideText).length - (after ++ insideText).length =
          cs.length - after.length := by
        simp only [List.length_append]
        omega
      rw [List.cons_append, readFrom_of_bracket longer, same]
      exact ih (getLast?_ne_of_suffix (suffix_of_set bracket) ends)
        fun _ last => bracket?_ne_components bracket (Option.some.inj last)
  | case10 position fresh done cs bracket =>
      have longer : bracket? (cs ++ insideText) = none := by
        rw [bracket?_append_insideText, bracket]
        rfl
      rw [List.cons_append, readFrom_of_bracket_eq_none longer]
      rfl
  | case11 position fresh done c cs mark _ _ star bracket ih =>
      rw [List.cons_append, readFrom, ih (getLast?_ne_of_suffix (List.suffix_cons ..) ends)
        (by simp)]
      · exact mark
      · exact fun _ same => absurd same star
      · exact fun _ same => absurd same star
      · exact star
      · exact bracket

/-- A pattern with `/**` behind it is read as the glob for everything inside, or fails where the
pattern fails. -/
theorem read_inside {pattern : String} (ends : pattern.toList.getLast? ≠ some '/') :
    Glob.read (String.ofList (pattern.toList ++ insideText)) = (Glob.read pattern).map inside := by
  rw [Glob.read, String.toList_ofList]
  exact readFrom_append_insideText ends (by simp)

/-- A glob ends in a `**` if and only if its pattern does. -/
theorem getLast?_readFrom_iff {glob : Glob} (ends : text.getLast? ≠ some '/')
    (other : text = [] → done.head? ≠ some .components)
    (read : readFrom position fresh done text = .ok glob) :
    glob.tokens.getLast? = some .components ↔ ['*', '*'] <:+ text := by
  fun_induction readFrom position fresh done text with
  | case1 position fresh done =>
      cases read
      simpa using other rfl
  | case2 position fresh done cs ih =>
      rw [ih (getLast?_ne_of_suffix (List.suffix_cons ..) ends) (by simp) read]
      simp [List.suffix_cons_iff]
  | case3 => cases read
  | case4 position done =>
      cases read
      simp [List.getLast?_reverse, head?_pushComponents]
  | case5 position done after _ ih =>
      have more : after ≠ [] := by
        rintro rfl
        exact ends rfl
      rw [ih (getLast?_ne_of_suffix (List.suffix_append ['*', '*', '/'] after) ends)
        (fun none => absurd none more) read]
      simp [List.suffix_cons_iff, more]
  | case6 => cases read
  | case7 => cases read
  | case8 position fresh done cs _ single ih =>
      rw [ih (getLast?_ne_of_suffix (List.suffix_cons ..) ends) (by simp) read,
        List.suffix_cons_iff, or_iff_right]
      exact fun same => single [] (List.cons.inj same).2.symm
  | case9 position fresh done cs token after bracket ih =>
      have behind := suffix_of_set bracket
      rw [ih (getLast?_ne_of_suffix behind ends)
        (fun _ last => bracket?_ne_components bracket (Option.some.inj last)) read]
      refine ⟨fun atEnd => atEnd.trans behind, fun atEnd => ?_⟩
      have atEnd : ['*', '*'] <:+ cs := by simpa [List.suffix_cons_iff] using atEnd
      -- no bracket closes inside of `**`
      rcases List.suffix_or_suffix_of_suffix atEnd (suffix_of_bracket? bracket) with
        within | within
      · simpa [List.suffix_cons_iff] using within
      · exact absurd (within.subset (.head _)) (by decide)
  | case10 => cases read
  | case11 position fresh done c cs mark _ _ star bracket ih =>
      rw [ih (getLast?_ne_of_suffix (List.suffix_cons ..) ends) (by simp) read,
        List.suffix_cons_iff, or_iff_right]
      exact fun same => star (List.cons.inj same).1.symm

/-- A glob ends in `**` where its pattern does. -/
theorem getLast?_read_iff {pattern : String} {glob : Glob}
    (ends : pattern.toList.getLast? ≠ some '/') (read : Glob.read pattern = .ok glob) :
    glob.tokens.getLast? = some .components ↔ ['*', '*'] <:+ pattern.toList :=
  getLast?_readFrom_iff ends (by simp) read

/-! ## Matching -/

/-- A glob matches a text of which it leaves nothing. -/
theorem matchTokens_iff_reaches : matchTokens tokens text = true ↔ Reaches tokens text [] := by
  have whole := @matchTokens_append tokens [] text
  rw [List.append_nil] at whole
  simp [whole, matchTokens]

/-- Wildcards that are content with nothing also take any text, if the last of them is not a
`**`. -/
theorem Reaches.take (reached : Reaches tokens [] []) (filled : tokens ≠ [])
    (last : tokens.getLast? ≠ some .components) (inside : rest <:+ text) :
    Reaches tokens text rest := by
  induction tokens with
  | nil => exact absurd rfl filled
  | cons token tokens ih =>
      have later : tokens ≠ [] → Reaches tokens [] [] → Reaches tokens text rest :=
        fun filled reached => ih reached filled (getLast?_ne_of_suffix (List.suffix_cons ..) last)
      cases reached with
      | text starts reached =>
          cases List.suffix_nil.1 (mem_suffixes.1 starts)
          by_cases alone : tokens = []
          · subst alone
            exact .text (mem_suffixes.2 inside) .done
          · exact .text (mem_suffixes.2 (List.suffix_refl text)) (later alone reached)
      | components starts reached =>
          cases List.suffix_nil.1 (suffix_of_mem_componentStarts starts)
          have more : tokens ≠ [] := by
            rintro rfl
            exact last rfl
          exact .components (Glob.mem_componentStarts.2 (.inl rfl)) (later more reached)

/-- What is reached in a text is reached in a longer one, if the last of the tokens is not a
`**`: one that took the text to its end could have left all of it to the tokens behind. -/
theorem Reaches.extend_of_last (reached : Reaches tokens text rest)
    (last : tokens.getLast? ≠ some .components) (tail : List Char) :
    Reaches tokens (text ++ tail) (rest ++ tail) := by
  induction reached with
  | done => exact .done
  | one admitted _ ih =>
      exact .one admitted (ih (getLast?_ne_of_suffix (List.suffix_cons ..) last))
  | text starts _ ih =>
      obtain ⟨before, rfl⟩ := mem_suffixes.1 starts
      rw [List.append_assoc]
      exact .text (mem_suffixes.2 (List.suffix_append ..))
        (ih (getLast?_ne_of_suffix (List.suffix_cons ..) last))
  | @components tokens text middle rest starts reached ih =>
      have lastBehind := getLast?_ne_of_suffix (List.suffix_cons ..) last
      rcases Glob.mem_componentStarts.1 starts with rfl | rfl | ⟨before, inside⟩
      · exact .components (Glob.mem_componentStarts.2 (.inl rfl)) (ih lastBehind)
      · -- the tokens behind were content with the empty rest, and can also take all of the text
        cases List.suffix_nil.1 reached.suffix
        have more : tokens ≠ [] := by
          rintro rfl
          exact last rfl
        exact .components (Glob.mem_componentStarts.2 (.inl rfl))
          (reached.take more lastBehind (List.suffix_append text tail))
      · have longer : middle ++ tail ∈ componentStarts (text ++ tail) :=
          Glob.mem_componentStarts.2 (.inr (.inr ⟨before, by rw [← inside]; simp⟩))
        exact .components longer (ih lastBehind)

/-- Behind tokens that do not end in a `**`, the tokens for everything inside cut a text in two
at a `/`. -/
theorem matchTokens_append_slash (last : tokens.getLast? ≠ some .components) :
    matchTokens (tokens ++ [.char '/', .components]) text = true ↔
      ∃ directory rest, text = directory ++ '/' :: rest ∧ matchTokens tokens directory = true := by
  rw [List.append_cons, matchTokens_components]
  constructor
  · rintro ⟨rest, reached⟩
    obtain ⟨middle, first, slash⟩ := reached.split
    obtain rfl : middle = '/' :: rest := by
      cases slash with
      | one admitted done => cases done; rw [beq_iff_eq.1 admitted]
    obtain ⟨directory, rfl⟩ := first.suffix
    exact ⟨directory, rest, rfl, matchTokens_iff_reaches.2 (Reaches.retract first)⟩
  · rintro ⟨directory, rest, rfl, matched⟩
    have longer := (matchTokens_iff_reaches.1 matched).extend_of_last last ('/' :: rest)
    exact ⟨rest, longer.append (.one (beq_self_eq_true '/') .done)⟩

/-- Whatever stands behind a text makes no difference to a final `**`. -/
theorem matchTokens_longer (last : tokens.getLast? = some .components)
    (matched : matchTokens tokens text = true) (tail : List Char) :
    matchTokens tokens (text ++ tail) = true := by
  obtain ⟨front, rfl⟩ := List.getLast?_eq_some_iff.1 last
  obtain ⟨rest, reached⟩ := matchTokens_components.1 matched
  rcases reached.extend tail with longer | ⟨-, longer⟩
  · exact matchTokens_components.2 ⟨_, longer⟩
  · exact matchTokens_components.2 ⟨_, longer⟩

/-- A second `**` at the end makes no difference. -/
theorem matchTokens_pushComponents (last : tokens.getLast? = some .components) :
    matchTokens (pushComponents tokens.reverse).reverse text = matchTokens tokens text := by
  obtain ⟨front, rfl⟩ := List.getLast?_eq_some_iff.1 last
  rw [List.reverse_append, List.reverse_singleton, List.singleton_append]
  cases reversed : front.reverse with
  | nil =>
      cases List.reverse_eq_nil_iff.1 reversed
      have one : matchTokens [.components] text = true :=
        (@matchTokens_components [] text).2 ⟨text, .done⟩
      have two : matchTokens [.components, .components] text = true :=
        (@matchTokens_components [.components] text).2
          ⟨[], .components (nil_mem_componentStarts text) .done⟩
      exact two.trans one.symm
  | cons before earlier => simp [pushComponents, ← reversed]

/-- **What the tokens for everything inside accept:** a text of which the tokens accept a front
up to a `/`.  If they end in a `**` they accept such a text themselves, and also what else they
accept is then accepted. -/
theorem matchTokens_insideTokens :
    matchTokens (insideTokens tokens) text = true ↔
      (∃ directory rest, text = directory ++ '/' :: rest ∧ matchTokens tokens directory = true) ∨
      tokens.getLast? = some .components ∧ matchTokens tokens text = true := by
  by_cases last : tokens.getLast? = some .components
  · rw [insideTokens, if_pos last, matchTokens_pushComponents last]
    refine ⟨fun matched => .inr ⟨last, matched⟩, ?_⟩
    rintro (⟨directory, rest, rfl, matched⟩ | ⟨-, matched⟩)
    · exact matchTokens_longer last matched _
    · exact matched
  · rw [insideTokens, if_neg last, matchTokens_append_slash last]
    exact ⟨.inl, fun split => split.resolve_right fun ended => last ended.1⟩

end Glob

end Discern
