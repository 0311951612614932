import Discern.Proofs.Glob.Reach

/-!
# Everything below a directory

Whether a glob that accepts every name directly in a directory also accepts what lies deeper:
it does.  Behind its last wildcard such a glob can only have tokens that stand for one character
each and that refuse nothing but a final `/`.
-/

namespace Discern

/-- What a name can be: it has characters, and none of them is a `/`. -/
def Name (name : List Char) : Prop := name ≠ [] ∧ '/' ∉ name

/-- What names with `/` between them can be: a text that neither begins nor ends with one. -/
structure Joined (text : List Char) : Prop where
  nonempty : text ≠ []
  first : text.head? ≠ some '/'
  final : text.getLast? ≠ some '/'

/-- A single name has no slash at its ends. -/
theorem Name.joined {name : List Char} (isName : Name name) : Joined name where
  nonempty := isName.1
  first := fun slash => isName.2 (List.mem_of_head? slash)
  final := fun slash => isName.2 (List.mem_of_getLast? slash)

/-- Two joined texts are joined by a slash between them. -/
theorem Joined.append {before after : List Char} (front : Joined before) (back : Joined after) :
    Joined (before ++ '/' :: after) where
  nonempty := by simp
  first := by rw [List.head?_append_of_ne_nil _ front.nonempty]; exact front.first
  final := by
    obtain ⟨c, after, rfl⟩ := List.exists_cons_of_ne_nil back.nonempty
    rw [List.getLast?_append_cons, List.getLast?_cons_cons]
    exact back.final

theorem name_replicate {c : Char} (inside : c ≠ '/') (n : Nat) :
    Name (List.replicate (n + 1) c) :=
  ⟨nofun, fun mem => inside (List.eq_of_mem_replicate mem).symm⟩

theorem name_xs (n : Nat) : Name (List.replicate (n + 1) 'x') := name_replicate (by decide) n

namespace Glob

variable {tokens front back : List GlobToken} {directory text rest : List Char}

/-- Tokens for one character each that refuse nothing but a `/` as the last one. -/
def Lenient : List GlobToken → Prop
  | [] => True
  | token :: tokens =>
      (∀ c, (tokens = [] → c ≠ '/') → token.admits c = true) ∧ Lenient tokens

/-- Lenient tokens fit every text of their length, unless it ends in a slash. -/
theorem Lenient.fits (lenient : Lenient tokens) (same : text.length = tokens.length)
    (final : text.getLast? ≠ some '/') :
    Fits tokens text := by
  induction tokens generalizing text with
  | nil => cases List.length_eq_zero_iff.1 same; exact .nil
  | cons token tokens ih =>
      obtain ⟨c, text, rfl⟩ := List.exists_cons_of_length_eq_add_one same
      have admitted : token.admits c = true := by
        refine lenient.1 c fun alone slash => final ?_
        subst alone
        cases List.length_eq_zero_iff.1 (Nat.succ.inj same)
        exact congrArg some slash
      refine .cons admitted (ih lenient.2 (Nat.succ.inj same) fun ended => final ?_)
      rw [List.getLast?_cons, ended]
      rfl

/-- A suffix that is as long as an ending is that ending. -/
theorem eq_of_suffix_append {ending : List Char} (before : List Char)
    (inside : text <:+ before ++ ending) (same : text.length = ending.length) : text = ending :=
  (List.suffix_of_suffix_length_le inside (List.suffix_append before ending) same.le).eq_of_length
    same

/-- A text has endings of every length up to its own. -/
theorem exists_suffix_of_length_le {n : Nat} (fewer : n ≤ text.length) :
    ∃ ending, ending <:+ text ∧ ending.length = n :=
  ⟨text.drop (text.length - n), List.drop_suffix .., by rw [List.length_drop]; omega⟩

/-- If tokens for one character each fit the end of every name, then they are lenient. -/
theorem lenient_of_names
    (fits : ∀ name, Name name → ∃ ending, ending <:+ directory ++ '/' :: name ∧
      Fits tokens ending) : Lenient tokens := by
  induction tokens with
  | nil => trivial
  | cons token tokens ih =>
      refine ⟨fun c final => ?_, ih fun name isName => ?_⟩
      · by_cases slash : c = '/'
        · -- names of as many characters as there are tokens behind this one
          subst slash
          obtain ⟨next, later, rfl⟩ := List.exists_cons_of_ne_nil fun alone => final alone rfl
          obtain ⟨ending, inside, fit⟩ := fits _ (name_xs later.length)
          have same : ending = '/' :: List.replicate (later.length + 1) 'x' :=
            eq_of_suffix_append _ inside (by simp [← fit.length_eq])
          subst same
          exact (List.forall₂_cons.1 fit).1
        · -- names of as many characters as there are tokens
          obtain ⟨ending, inside, fit⟩ := fits _ (name_replicate slash tokens.length)
          have same : ending = List.replicate (tokens.length + 1) c :=
            eq_of_suffix_append (directory ++ ['/']) (by rwa [List.append_assoc])
              (by simp [← fit.length_eq])
          subst same
          exact (List.forall₂_cons.1 fit).1
      · obtain ⟨ending, inside, fit⟩ := fits name isName
        obtain ⟨c, later, -, laterFit, rfl⟩ := List.forall₂_cons_left_iff.1 fit
        exact ⟨later, (List.suffix_cons c later).trans inside, laterFit⟩

/-- A glob without wildcards does not accept names of two lengths. -/
theorem not_accepts_of_single (single : ∀ token ∈ tokens, token.isWild = false) :
    ¬ ∀ name, Name name → matchTokens tokens (directory ++ '/' :: name) = true := by
  intro names
  have one := (matchTokens_eq_fits single).1 (names _ (name_xs 0))
  have two := (matchTokens_eq_fits single).1 (names _ (name_xs 1))
  have same := one.length_eq.symm.trans two.length_eq
  simp at same

/-- A `**` is not the last wildcard of a glob that accepts every name, unless nothing is behind
it: what it leaves would begin a component, and a long name has none where the tokens behind the
`**` begin. -/
theorem eq_nil_of_names
    (standing : (front ++ [GlobToken.components]).IsChain GlobToken.MayPrecede)
    (fits : ∀ name, Name name → ∃ ending,
      Reaches (front ++ [GlobToken.components]) (directory ++ '/' :: name) ending ∧
      Fits back ending) : back = [] := by
  by_contra more
  obtain ⟨ending, reached, fit⟩ := fits _ (name_xs back.length)
  rcases Glob.mem_componentStarts.1 (reached.mem_componentStarts standing) with
    whole | ended | inside
  · have := congrArg List.length whole
    simp [← fit.length_eq] at this
    omega
  · subst ended
    cases fit
    exact more rfl
  · have same : '/' :: ending = List.replicate (back.length + 1) 'x' :=
      eq_of_suffix_append (directory ++ ['/']) (by rwa [List.append_assoc])
        (by simp [← fit.length_eq])
    cases same

/-- What the front of a glob reaches in a text leaves room, in a longer text, for as many final
characters as before. -/
theorem Reaches.extend_suffix {ending longEnding tail : List Char}
    (reached : Reaches front text rest) (inside : ending <:+ rest)
    (atEnd : longEnding <:+ text ++ tail) (same : longEnding.length = ending.length) :
    ∃ middle, Reaches front (text ++ tail) middle ∧ longEnding <:+ middle := by
  rcases reached.extend tail with longer | ⟨rfl, longer⟩
  · have fewer : longEnding.length ≤ (rest ++ tail).length := by
      rw [same, List.length_append]
      exact inside.length_le.trans (Nat.le_add_right ..)
    exact ⟨_, longer, List.suffix_of_suffix_length_le atEnd longer.suffix fewer⟩
  · rw [List.suffix_nil.1 inside] at same
    exact ⟨_, longer, (List.length_eq_zero_iff.1 same) ▸ List.nil_suffix⟩

/-- A wildcard takes what it has to, if nothing is to be left behind a `**`. -/
theorem Reaches.wild {wild : GlobToken} {ending : List Char} (isWild : wild.isWild = true)
    (reached : Reaches front text rest) (inside : ending <:+ rest)
    (last : wild = .components → ending = []) : Reaches (front ++ [wild]) text ending := by
  cases wild <;> try cases isWild
  · exact reached.append (.text (mem_suffixes.2 inside) .done)
  · rw [last rfl]
    exact reached.append (.components (nil_mem_componentStarts rest) .done)

/-- **A glob that accepts every name in a directory accepts everything below it.** -/
theorem accepts_below (standing : tokens.IsChain GlobToken.MayPrecede)
    (names : ∀ name, Name name → matchTokens tokens (directory ++ '/' :: name) = true)
    (joined : Joined rest) : matchTokens tokens (directory ++ '/' :: rest) = true := by
  obtain single | ⟨front, wild, back, rfl, isWild, single⟩ := exists_last_wild tokens
  · exact absurd names (not_accepts_of_single single)
  rw [List.append_cons] at names standing ⊢
  have fits : ∀ name, Name name → ∃ ending,
      Reaches (front ++ [wild]) (directory ++ '/' :: name) ending ∧
      Fits back ending := by
    intro name isName
    obtain ⟨ending, reached, matched⟩ := matchTokens_append.1 (names name isName)
    exact ⟨ending, reached, (matchTokens_eq_fits single).1 matched⟩
  have lenient : Lenient back := lenient_of_names fun name isName => by
    obtain ⟨ending, reached, fit⟩ := fits name isName
    exact ⟨ending, reached.suffix, fit⟩
  -- the glob meets the name of the first character alone, and from there the whole text
  obtain ⟨c, tail, rfl⟩ := List.exists_cons_of_ne_nil joined.nonempty
  have isName : Name [c] :=
    ⟨nofun, fun mem => joined.first (congrArg some (List.mem_singleton.1 mem).symm)⟩
  obtain ⟨ending, reached, fit⟩ := fits [c] isName
  obtain ⟨middle, reachedFront, reachedWild⟩ := reached.split
  have whole : directory ++ '/' :: c :: tail = directory ++ '/' :: [c] ++ tail := by simp
  rw [whole]
  obtain ⟨longEnding, atEnd, same⟩ := exists_suffix_of_length_le
    (reached.suffix.length_le.trans ((List.prefix_append _ tail).length_le))
  obtain ⟨longMiddle, longReached, inside⟩ :=
    reachedFront.extend_suffix reachedWild.suffix atEnd same
  refine matchTokens_append.2 ⟨longEnding, longReached.wild isWild inside ?_, ?_⟩
  · rintro rfl
    cases eq_nil_of_names standing.left_of_append fits
    cases fit
    exact List.length_eq_zero_iff.1 same
  · refine (matchTokens_eq_fits single).2 (lenient.fits (same.trans fit.length_eq.symm) ?_)
    intro slash
    obtain ⟨before, cut⟩ := whole ▸ atEnd
    have ends : '/' ∈ (before ++ longEnding).getLast? :=
      List.mem_getLast?_append_of_mem_getLast? slash
    rw [cut, List.getLast?_append_cons, List.getLast?_cons_cons] at ends
    exact joined.final ends

/-! ## Globs that end in a double star -/

/-- A `**` at the end matches whatever the tokens before it leave. -/
theorem matchTokens_components :
    matchTokens (front ++ [GlobToken.components]) text = true ↔
      ∃ rest, Reaches front text rest := by
  constructor
  · intro matched
    obtain ⟨rest, reached, -⟩ := matchTokens_append.1 matched
    exact ⟨rest, reached⟩
  · rintro ⟨rest, reached⟩
    have last := nil_mem_componentStarts rest
    exact matchTokens_append.2 ⟨rest, reached, List.any_eq_true.2 ⟨[], last, rfl⟩⟩

/-- What is left behind a slash in front of a name holds the name. -/
theorem Name.suffix_of_slash {name left : List Char} (isName : Name name)
    (inside : '/' :: left <:+ directory ++ '/' :: name) : name <:+ left := by
  have after : name <:+ directory ++ '/' :: name :=
    (List.suffix_cons '/' name).trans (List.suffix_append ..)
  rcases List.suffix_or_suffix_of_suffix inside after with slash | longer
  · exact absurd (slash.subset (.head _)) isName.2
  · rcases List.suffix_cons_iff.1 longer with same | longer
    · exact absurd (same ▸ .head _) isName.2
    · exact longer

/-- **A final `**` does not tell names apart:** a glob that ends in one and accepts some name in
a directory accepts whatever stands behind the directory. -/
theorem accepts_of_components {name : List Char}
    (standing : (front ++ [GlobToken.components]).IsChain GlobToken.MayPrecede)
    (isName : Name name)
    (accepted : matchTokens (front ++ [GlobToken.components]) (directory ++ '/' :: name) = true)
    (rest : List Char) :
    matchTokens (front ++ [GlobToken.components]) (directory ++ '/' :: rest) = true := by
  induction front using List.reverseRecOn with
  | nil => exact matchTokens_components.2 ⟨_, .done⟩
  | append_singleton front before ih =>
      obtain ⟨left, reached⟩ := matchTokens_components.1 accepted
      obtain ⟨middle, first, second⟩ := reached.split
      obtain ⟨earlier, -, adjacent⟩ := List.isChain_append.1 standing
      rcases adjacent before (by simp) .components rfl rfl with rfl | rfl
      · -- the `/` before the `**` stands before the name, so that the name plays no part
        have slash : middle = '/' :: left := by
          cases second with
          | one admitted done => cases done; rw [beq_iff_eq.1 admitted]
        obtain ⟨kept, rfl⟩ := Name.suffix_of_slash isName (slash ▸ first.suffix)
        rw [List.append_cons directory] at reached ⊢
        rcases reached.retract.extend rest with longer | ⟨-, longer⟩
        · exact matchTokens_components.2 ⟨_, longer⟩
        · exact matchTokens_components.2 ⟨_, longer⟩
      · obtain ⟨left, reached⟩ := matchTokens_components.1
          (ih earlier (matchTokens_components.2 ⟨middle, first⟩))
        have last := nil_mem_componentStarts left
        exact matchTokens_components.2 ⟨[], reached.append (.components last .done)⟩

end Glob

end Discern
