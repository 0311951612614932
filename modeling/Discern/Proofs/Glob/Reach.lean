import Discern.Glob
import Discern.Proofs.Text.Cut
import Mathlib.Data.List.Chain

/-!
# How far a glob reaches

Tokens at the front of a glob take the front of a text and leave the rest to the tokens behind
them.  `Reaches` is that relation; it turns the matching of a whole glob into the matching of
its parts.  What a glob reaches in a text it also reaches in a longer one.

A glob that was read has its `**` only where a component begins, and there they only end where
one begins.
-/

namespace Discern

namespace GlobToken

/-- Whether a token that stands for one character stands for this one. -/
def admits : GlobToken → Char → Bool
  | char c, d => c == d
  | anyChar, _ => true
  | within set, d => set.any (·.contains d)
  | outside set, d => !set.any (·.contains d)
  | anyText, _ => false
  | components, _ => false

/-- Whether a token stands for texts of any length. -/
def isWild : GlobToken → Bool
  | anyText => true
  | components => true
  | _ => false

/-- What may stand before a token: a `**` follows a `/` or another `**`. -/
def MayPrecede (before token : GlobToken) : Prop :=
  token = components → before = char '/' ∨ before = components

end GlobToken

namespace Glob

/-- **What the front of a glob leaves of a text.** -/
inductive Reaches : List GlobToken → List Char → List Char → Prop
  | done {text} : Reaches [] text text
  | one {token tokens c text rest} : token.admits c = true → Reaches tokens text rest →
      Reaches (token :: tokens) (c :: text) rest
  | text {tokens text middle rest} : middle ∈ suffixes text → Reaches tokens middle rest →
      Reaches (.anyText :: tokens) text rest
  | components {tokens text middle rest} : middle ∈ componentStarts text →
      Reaches tokens middle rest → Reaches (.components :: tokens) text rest

variable {tokens front back : List GlobToken} {token : GlobToken}
  {text middle rest tail : List Char} {c : Char}

/-! ## Rests of a text -/

theorem mem_suffixes : middle ∈ suffixes text ↔ middle <:+ text := by
  induction text with
  | nil => simp [suffixes]
  | cons c text ih => simp [suffixes, ih, List.suffix_cons_iff]

/-- Components begin behind slashes, and nothing is left at the end. -/
theorem mem_componentStarts_go :
    middle ∈ componentStarts.go text ↔ middle = [] ∨ '/' :: middle <:+ text := by
  induction text with
  | nil => simp [componentStarts.go]
  | cons c text ih =>
      rw [componentStarts.go, List.suffix_cons_iff, List.cons.injEq]
      by_cases slash : c = '/'
      · simp [slash, ih, or_left_comm]
      · simp [slash, Ne.symm slash, ih]

/-- A component begins with the text too. -/
theorem mem_componentStarts :
    middle ∈ componentStarts text ↔ middle = text ∨ middle = [] ∨ '/' :: middle <:+ text := by
  rw [componentStarts, List.mem_cons, mem_componentStarts_go]

/-- All of a text may be skipped. -/
theorem nil_mem_componentStarts (text : List Char) : [] ∈ componentStarts text :=
  mem_componentStarts.2 (.inr (.inl rfl))

/-- What begins with a component is a suffix. -/
theorem suffix_of_mem_componentStarts (starts : middle ∈ componentStarts text) :
    middle <:+ text := by
  rcases mem_componentStarts.1 starts with rfl | rfl | inside
  · exact List.suffix_refl _
  · exact List.nil_suffix
  · exact (List.suffix_cons '/' middle).trans inside

/-- Components can be skipped in two steps. -/
theorem mem_componentStarts_trans (starts : middle ∈ componentStarts text)
    (later : rest ∈ componentStarts middle) : rest ∈ componentStarts text := by
  rcases mem_componentStarts.1 later with rfl | rfl | inside
  · exact starts
  · exact nil_mem_componentStarts text
  · exact mem_componentStarts.2
      (.inr (.inr (inside.trans (suffix_of_mem_componentStarts starts))))

/-! ## Matching, part by part -/

/-- A token for one character takes the first one. -/
theorem matchTokens_one (single : token.isWild = false) :
    matchTokens (token :: tokens) text = true ↔
      ∃ c middle, text = c :: middle ∧ token.admits c = true ∧
        matchTokens tokens middle = true := by
  cases token <;> cases text <;> simp_all [matchTokens, GlobToken.admits, GlobToken.isWild]

/-- The back of a glob matches what its front leaves. -/
theorem matchTokens_append :
    matchTokens (front ++ back) text = true ↔
      ∃ rest, Reaches front text rest ∧ matchTokens back rest = true := by
  constructor
  · intro matched
    induction front generalizing text with
    | nil => exact ⟨text, .done, matched⟩
    | cons token front ih =>
        by_cases wild : token.isWild = true
        · cases token <;> try cases wild
          · obtain ⟨middle, starts, matched⟩ := List.any_eq_true.1 matched
            obtain ⟨rest, reached, matched⟩ := ih matched
            exact ⟨rest, .text starts reached, matched⟩
          · obtain ⟨middle, starts, matched⟩ := List.any_eq_true.1 matched
            obtain ⟨rest, reached, matched⟩ := ih matched
            exact ⟨rest, .components starts reached, matched⟩
        · obtain ⟨c, middle, rfl, admitted, matched⟩ :=
            (matchTokens_one (eq_false_of_ne_true wild)).1 matched
          obtain ⟨rest, reached, matched⟩ := ih matched
          exact ⟨rest, .one admitted reached, matched⟩
  · rintro ⟨rest, reached, matched⟩
    induction reached with
    | done => exact matched
    | @one token _ _ _ _ admitted _ ih =>
        have single : token.isWild = false := by cases token <;> first | rfl | cases admitted
        exact (matchTokens_one single).2 ⟨_, _, rfl, admitted, ih matched⟩
    | text starts _ ih => exact List.any_eq_true.2 ⟨_, starts, ih matched⟩
    | components starts _ ih => exact List.any_eq_true.2 ⟨_, starts, ih matched⟩

theorem Reaches.suffix (reached : Reaches tokens text rest) : rest <:+ text := by
  induction reached with
  | done => exact List.suffix_refl _
  | one _ _ ih => exact ih.trans (List.suffix_cons _ _)
  | text starts _ ih => exact ih.trans (mem_suffixes.1 starts)
  | components starts _ ih => exact ih.trans (suffix_of_mem_componentStarts starts)

/-- What the front leaves can be taken on by the back. -/
theorem Reaches.append (first : Reaches front text middle) (second : Reaches back middle rest) :
    Reaches (front ++ back) text rest := by
  induction first with
  | done => exact second
  | one admitted _ ih => exact .one admitted (ih second)
  | text starts _ ih => exact .text starts (ih second)
  | components starts _ ih => exact .components starts (ih second)

/-- What is left by a whole is left by its back of what its front leaves. -/
theorem Reaches.split (reached : Reaches (front ++ back) text rest) :
    ∃ middle, Reaches front text middle ∧ Reaches back middle rest := by
  induction front generalizing text with
  | nil => exact ⟨text, .done, reached⟩
  | cons token front ih =>
      cases reached with
      | one admitted later =>
          obtain ⟨middle, first, second⟩ := ih later
          exact ⟨middle, .one admitted first, second⟩
      | text starts later =>
          obtain ⟨middle, first, second⟩ := ih later
          exact ⟨middle, .text starts first, second⟩
      | components starts later =>
          obtain ⟨middle, first, second⟩ := ih later
          exact ⟨middle, .components starts first, second⟩

/-- What is reached in a text is reached in a longer one, unless it was the end of the text: a
`**` may then have to take the longer text to its own end. -/
theorem Reaches.extend (reached : Reaches tokens text rest) (tail : List Char) :
    Reaches tokens (text ++ tail) (rest ++ tail) ∨
      rest = [] ∧ Reaches tokens (text ++ tail) [] := by
  induction reached with
  | done => exact .inl .done
  | one admitted _ ih => exact ih.imp (.one admitted) (And.imp_right (.one admitted))
  | @text _ text middle _ starts _ ih =>
      have longer : middle ++ tail ∈ suffixes (text ++ tail) := by
        obtain ⟨before, rfl⟩ := mem_suffixes.1 starts
        exact mem_suffixes.2 ⟨before, (List.append_assoc ..).symm⟩
      exact ih.imp (.text longer) (And.imp_right (.text longer))
  | @components tokens text middle rest starts reached ih =>
      rcases mem_componentStarts.1 starts with rfl | rfl | ⟨before, inside⟩
      · have longer : middle ++ tail ∈ componentStarts (middle ++ tail) :=
          mem_componentStarts.2 (.inl rfl)
        exact ih.imp (.components longer) (And.imp_right (.components longer))
      · have ended : rest = [] := List.suffix_nil.1 reached.suffix
        subst ended
        exact .inr ⟨rfl, .components (nil_mem_componentStarts _) reached⟩
      · have longer : middle ++ tail ∈ componentStarts (text ++ tail) :=
          mem_componentStarts.2 (.inr (.inr ⟨before, by rw [← inside]; simp⟩))
        exact ih.imp (.components longer) (And.imp_right (.components longer))

/-- What is reached in a text, and is more than a certain end of it, is reached without that
end. -/
theorem Reaches.retract (reached : Reaches tokens (text ++ tail) (rest ++ tail)) :
    Reaches tokens text rest := by
  generalize whole : text ++ tail = long at reached
  generalize left : rest ++ tail = longRest at reached
  induction reached generalizing text with
  | done => cases List.append_cancel_right (whole.trans left.symm); exact .done
  | one admitted reached ih =>
      subst left
      cases text with
      | nil =>
          have shorter := reached.suffix.length_le
          have longer := congrArg List.length whole
          simp only [List.length_append, List.nil_append, List.length_cons] at shorter longer
          omega
      | cons d text =>
          obtain ⟨rfl, same⟩ := List.cons.inj ((List.cons_append ..).symm.trans whole)
          exact .one admitted (ih same rfl)
  | text starts reached ih =>
      subst left whole
      obtain ⟨before, split⟩ := reached.suffix
      rw [← List.append_assoc] at split
      subst split
      have inside := List.suffix_append_inj_of_length_eq rfl |>.1 (mem_suffixes.1 starts)
      exact .text (mem_suffixes.2 inside.1) (ih rfl rfl)
  | components starts reached ih =>
      subst left whole
      obtain ⟨before, split⟩ := reached.suffix
      rw [← List.append_assoc] at split
      subst split
      have starts : before ++ rest ∈ componentStarts text := by
        rcases mem_componentStarts.1 starts with same | ended | inside
        · exact mem_componentStarts.2 (.inl (List.append_cancel_right same))
        · exact mem_componentStarts.2 (.inr (.inl (List.append_eq_nil_iff.1 ended).1))
        · rw [← List.cons_append] at inside
          exact mem_componentStarts.2
            (.inr (.inr (List.suffix_append_inj_of_length_eq rfl |>.1 inside).1))
      exact .components starts (ih rfl rfl)

/-- Tokens and characters one to one. -/
abbrev Fits (tokens : List GlobToken) (text : List Char) : Prop :=
  List.Forall₂ (fun token c => token.admits c = true) tokens text

/-- Where no token is a wildcard, the tokens and the characters stand one to one. -/
theorem matchTokens_eq_fits (single : ∀ token ∈ tokens, token.isWild = false) :
    matchTokens tokens text = true ↔ Fits tokens text := by
  induction tokens generalizing text with
  | nil => cases text <;> simp [matchTokens]
  | cons token tokens ih =>
      have later : ∀ text, matchTokens tokens text = true ↔ Fits tokens text :=
        fun _ => ih fun token mem => single token (.tail _ mem)
      rw [matchTokens_one (single token (.head _)), Fits, List.forall₂_cons_left_iff]
      simp only [later]
      constructor
      · rintro ⟨c, middle, rfl, admitted, matched⟩
        exact ⟨c, middle, admitted, matched, rfl⟩
      · rintro ⟨c, middle, admitted, matched, rfl⟩
        exact ⟨c, middle, rfl, admitted, matched⟩

/-- The last wildcard of a glob, if it has one. -/
theorem exists_last_wild (tokens : List GlobToken) :
    (∀ token ∈ tokens, token.isWild = false) ∨
      ∃ front wild back, tokens = front ++ wild :: back ∧ wild.isWild = true ∧
        ∀ token ∈ back, token.isWild = false := by
  induction tokens with
  | nil => exact .inl nofun
  | cons token tokens ih =>
      rcases ih with single | ⟨front, wild, back, rfl, isWild, single⟩
      · by_cases isWild : token.isWild = true
        · exact .inr ⟨[], token, tokens, rfl, isWild, single⟩
        · exact .inl (List.forall_mem_cons.2 ⟨eq_false_of_ne_true isWild, single⟩)
      · exact .inr ⟨token :: front, wild, back, rfl, isWild, single⟩

/-! ## Where components begin -/

/-- **A `**` only ends where a component begins,** or at the end of the text, if every `**` of
the glob stands where one begins. -/
theorem Reaches.mem_componentStarts
    (standing : (front ++ [GlobToken.components]).IsChain GlobToken.MayPrecede)
    (reached : Reaches (front ++ [GlobToken.components]) text rest) :
    rest ∈ componentStarts text := by
  induction front using List.reverseRecOn generalizing rest with
  | nil =>
      cases reached with
      | one admitted _ => cases admitted
      | components starts later => cases later; exact starts
  | append_singleton front before ih =>
      obtain ⟨earlier, -, adjacent⟩ := List.isChain_append.1 standing
      obtain ⟨middle, first, second⟩ := reached.split
      have later : rest ∈ componentStarts middle := by
        cases second with
        | one admitted _ => cases admitted
        | components starts done => cases done; exact starts
      -- what precedes the last `**` ends where a component begins
      have starts : middle ∈ componentStarts text := by
        rcases adjacent before (by simp) .components rfl rfl with rfl | rfl
        · obtain ⟨slash, reached, ended⟩ := first.split
          cases ended with
          | one admitted done =>
              cases done
              cases beq_iff_eq.1 admitted
              exact Glob.mem_componentStarts.2 (.inr (.inr reached.suffix))
        · exact ih earlier first
      exact mem_componentStarts_trans starts later

/-- A component may begin behind these parts, which were read last first. -/
def Fresh (done : List GlobToken) : Prop :=
  ∀ token ∈ done.head?, token = .char '/' ∨ token = .components

/-- A component may begin behind a `**`. -/
theorem fresh_pushComponents (done : List GlobToken) : Fresh (pushComponents done) := by
  unfold Fresh pushComponents
  split <;> simp

/-- A `**` that is pushed where a component begins stands where it may. -/
theorem isChain_pushComponents {done : List GlobToken} (fresh : Fresh done)
    (chained : done.IsChain (flip GlobToken.MayPrecede)) :
    (pushComponents done).IsChain (flip GlobToken.MayPrecede) := by
  unfold pushComponents
  split
  · exact chained
  · exact List.isChain_cons.2 ⟨fun token mem _ => fresh token mem, chained⟩

/-- Any other token may stand anywhere. -/
theorem isChain_cons_of_ne {done : List GlobToken} (other : token ≠ .components)
    (chained : done.IsChain (flip GlobToken.MayPrecede)) :
    (token :: done).IsChain (flip GlobToken.MayPrecede) :=
  List.isChain_cons.2 ⟨fun _ _ same => absurd same other, chained⟩

/-- Brackets are no `**`. -/
theorem bracket?_ne_components {set after : List Char}
    (read : bracket? set = some (token, after)) : token ≠ .components := by
  unfold bracket? at read
  split at read <;>
    obtain ⟨parts, -, same⟩ := Option.map_eq_some_iff.1 read <;> cases same <;> nofun

/-- A glob that was read has its `**` only at its beginning, behind a `/` or behind another. -/
theorem isChain_readFrom {position : Nat} {fresh : Bool} {done : List GlobToken} {glob : Glob}
    (starts : fresh = true → Fresh done)
    (chained : done.IsChain (flip GlobToken.MayPrecede))
    (read : readFrom position fresh done text = .ok glob) :
    glob.tokens.IsChain GlobToken.MayPrecede := by
  fun_induction readFrom position fresh done text with
  | case1 => cases read; exact List.isChain_reverse.2 chained
  | case2 _ _ _ _ ih => exact ih nofun (isChain_cons_of_ne nofun chained) read
  | case3 => cases read
  | case4 => cases read; exact List.isChain_reverse.2 (isChain_pushComponents (starts rfl) chained)
  | case5 _ done _ _ ih =>
      exact ih (fun _ => fresh_pushComponents done)
        (isChain_pushComponents (starts rfl) chained) read
  | case6 => cases read
  | case7 => cases read
  | case8 _ _ _ _ _ _ ih => exact ih nofun (isChain_cons_of_ne nofun chained) read
  | case9 _ _ _ _ _ _ bracket ih =>
      exact ih nofun (isChain_cons_of_ne (bracket?_ne_components bracket) chained) read
  | case10 => cases read
  | case11 _ _ done c _ _ _ _ _ _ ih =>
      have slash : (c == '/') = true → Fresh (.char c :: done) := by
        intro same token mem
        cases beq_iff_eq.1 same
        cases mem
        exact .inl rfl
      exact ih slash (isChain_cons_of_ne nofun chained) read

/-- What stands behind brackets follows a `]` of the text. -/
theorem suffix_of_toBracket? {cs set after : List Char} (read : toBracket? cs = some (set, after)) :
    ']' :: after <:+ cs := by
  unfold toBracket? at read
  split at read
  · cases read
  · split at read
    · cases read
    · rename_i first cs _ c more stopped
      obtain ⟨-, split⟩ := Text.eq_of_dropWhile_bne stopped
      cases read
      exact ⟨first :: cs.takeWhile (· != ']'), by rw [List.cons_append, ← split]⟩

/-- So it does behind brackets that are read as a set. -/
theorem suffix_of_bracket? {set after : List Char} (read : bracket? set = some (token, after)) :
    ']' :: after <:+ set := by
  unfold bracket? at read
  split at read <;> obtain ⟨⟨items, behind⟩, parted, same⟩ := Option.map_eq_some_iff.1 read <;>
    cases same
  · exact (suffix_of_toBracket? parted).trans (List.suffix_cons ..)
  · exact suffix_of_toBracket? parted

/-- A glob that was read from a text with `/**` at its end has a `**` at its end. -/
theorem getLast?_readFrom {position : Nat} {fresh : Bool} {done : List GlobToken} {glob : Glob}
    (ends : fresh = true ∧ text = ['*', '*'] ∨ ['/', '*', '*'] <:+ text)
    (read : readFrom position fresh done text = .ok glob) :
    glob.tokens.getLast? = some .components := by
  fun_induction readFrom position fresh done text with
  | case1 => simp at ends
  | case2 _ _ _ _ ih => exact ih (.inr (by simpa [List.suffix_cons_iff] using ends)) read
  | case3 => cases read
  | case4 =>
      cases read
      rw [List.getLast?_reverse]
      unfold pushComponents
      split <;> rfl
  | case5 _ _ _ _ ih =>
      exact ih (by simpa [List.suffix_cons_iff, @eq_comm _ ['*', '*']] using ends) read
  | case6 => cases read
  | case7 => cases read
  | case8 _ _ _ rest _ single ih =>
      refine ih (.inr ?_) read
      rcases ends with ⟨-, same⟩ | ends
      · exact absurd (List.cons.inj same).2 (single [])
      · simpa [List.suffix_cons_iff] using ends
  | case9 _ _ _ rest token after bracket ih =>
      have ends : ['/', '*', '*'] <:+ rest := by simpa [List.suffix_cons_iff] using ends
      -- no bracket closes inside of `/**`
      rcases List.suffix_or_suffix_of_suffix ends (suffix_of_bracket? bracket) with inside | inside
      · exact ih (.inr (by simpa [List.suffix_cons_iff] using inside)) read
      · exact absurd (inside.subset (.head _)) (by decide)
  | case10 => cases read
  | case11 _ _ _ c rest _ _ _ single _ ih =>
      refine ih ?_ read
      rcases ends with ⟨-, same⟩ | ends
      · exact absurd (List.cons.inj same).1 single
      · rcases List.suffix_cons_iff.1 ends with same | ends
        · cases same
          exact .inl ⟨rfl, rfl⟩
        · exact .inr ends

/-- In a glob that was read every `**` stands where it may. -/
theorem isChain_read {pattern : String} {glob : Glob} (read : Glob.read pattern = .ok glob) :
    glob.tokens.IsChain GlobToken.MayPrecede :=
  isChain_readFrom (fun _ _ mem => by cases mem) .nil read

end Glob

end Discern
