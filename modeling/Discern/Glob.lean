/-!
# Glob patterns

A glob matches whole paths, which are read as texts with `/` between components.
`?` stands for any character, `*` for any text, and `[a-c]` or `[!a-c]` for a character
of a set or outside of it; all of them may stand for a `/`.  `**` is a component of its
own.  Together with the `/` behind it, it stands for any number of whole components;
at the end of a glob it stands for any rest.

`Glob.read` reads a pattern and `Glob.accepts` is the matching.
-/

namespace Discern

/-- **An item of a set of characters.** -/
inductive CharSpan where
  | single (c : Char)
  | range (first last : Char)
deriving DecidableEq, Inhabited

def CharSpan.contains : CharSpan → Char → Bool
  | single c, d => c == d
  | range first last, d => first ≤ d && d ≤ last

/-- **A part of a glob.** -/
inductive GlobToken where
  | char (c : Char)
  /-- Any character. -/
  | anyChar
  | within (set : List CharSpan)
  | outside (set : List CharSpan)
  /-- Any text. -/
  | anyText
  /-- Any number of whole components, or the rest. -/
  | components
deriving DecidableEq, Inhabited

/-- **A glob,** part by part. -/
structure Glob where
  tokens : List GlobToken
deriving DecidableEq, Inhabited

/-- **What can be wrong with a pattern.** -/
inductive GlobFlaw where
  | wildcards
  | recursive
  | range
deriving DecidableEq, Inhabited

/-- **A flaw at a position,** counted in characters. -/
structure GlobError where
  position : Nat
  flaw : GlobFlaw
deriving DecidableEq, Inhabited

def GlobFlaw.message : GlobFlaw → String
  | wildcards => "wildcards are either regular `*` or recursive `**`"
  | recursive => "recursive wildcards must form a single path component"
  | range => "invalid range pattern"

def GlobError.message (e : GlobError) : String :=
  s!"Pattern syntax error near position {e.position}: {e.flaw.message}"

namespace Glob

/-! ## Reading -/

/-- The items between brackets. -/
def spans : List Char → List CharSpan
  | first :: '-' :: last :: rest => .range first last :: spans rest
  | c :: rest => .single c :: spans rest
  | [] => []

/-- What stands before and after the next `]`, of which the first character is never
one. -/
def toBracket? : List Char → Option (List Char × List Char)
  | [] => none
  | first :: rest =>
    match rest.dropWhile (· != ']') with
    | [] => none
    | _ :: after => some (first :: rest.takeWhile (· != ']'), after)

/-- The set that a text behind `[` begins with, and the text after it. -/
def bracket? : List Char → Option (GlobToken × List Char)
  | '!' :: rest => (toBracket? rest).map fun (set, after) => (.outside (spans set), after)
  | rest => (toBracket? rest).map fun (set, after) => (.within (spans set), after)

theorem length_toBracket? {cs set after : List Char} (h : toBracket? cs = some (set, after)) :
    after.length < cs.length := by
  unfold toBracket? at h
  split at h
  · cases h
  · rename_i first rest
    split at h
    · cases h
    · rename_i c more hd
      cases h
      have := (List.dropWhile_sublist (l := rest) (· != ']')).length_le
      rw [hd] at this
      simp only [List.length_cons] at this ⊢
      omega

theorem length_bracket? {cs after : List Char} {token : GlobToken}
    (h : bracket? cs = some (token, after)) : after.length < cs.length := by
  unfold bracket? at h
  split at h <;> obtain ⟨⟨set, after'⟩, hb, he⟩ := Option.map_eq_some_iff.1 h <;> cases he
  · have := length_toBracket? hb
    simp only [List.length_cons]
    omega
  · exact length_toBracket? hb

/-- Put a component wildcard behind the parts that were read, last first.  One that
follows another changes nothing and is left out, unless the other is the first part. -/
def pushComponents (done : List GlobToken) : List GlobToken :=
  match done with
  | .components :: _ :: _ => done
  | _ => .components :: done

/-- The rest of a pattern from a position on.  `fresh` says whether a component begins
here; `done` holds the parts that were read, last first. -/
def readFrom (position : Nat) (fresh : Bool) (done : List GlobToken) (cs : List Char) :
    Except GlobError Glob :=
  match cs with
  | [] => .ok ⟨done.reverse⟩
  | '?' :: rest => readFrom (position + 1) false (.anyChar :: done) rest
  | '*' :: '*' :: '*' :: _ => .error ⟨position + 2, .wildcards⟩
  | '*' :: '*' :: rest =>
    if fresh then
      match rest with
      | [] => .ok ⟨(pushComponents done).reverse⟩
      | '/' :: after => readFrom (position + 3) true (pushComponents done) after
      | _ => .error ⟨position + 2, .recursive⟩
    else .error ⟨position - 1, .recursive⟩
  | '*' :: rest => readFrom (position + 1) false (.anyText :: done) rest
  | '[' :: rest =>
    match _h : bracket? rest with
    | some (token, after) =>
      readFrom (position + 1 + (rest.length - after.length)) false (token :: done) after
    | none => .error ⟨position, .range⟩
  | c :: rest => readFrom (position + 1) (c == '/') (.char c :: done) rest
termination_by cs.length
decreasing_by
  all_goals simp_wf
  all_goals try omega
  have := length_bracket? _h
  omega

/-- **Read a pattern.** -/
def read (pattern : String) : Except GlobError Glob := readFrom 0 true [] pattern.toList

/-! ## Matching -/

/-- The suffixes of a text, itself and the empty one included. -/
def suffixes : List Char → List (List Char)
  | [] => [[]]
  | c :: rest => (c :: rest) :: suffixes rest

/-- The suffixes of a text at which a component begins, which the front of the text does
by assumption, and the empty suffix. -/
def componentStarts (text : List Char) : List (List Char) :=
  text :: go text
where
  go : List Char → List (List Char)
    | [] => [[]]
    | c :: rest => if c == '/' then rest :: go rest else go rest

/-- **Whether parts of a glob match a text** as a whole. -/
def matchTokens : List GlobToken → List Char → Bool
  | [], text => text.isEmpty
  | .char c :: rest, d :: text => c == d && matchTokens rest text
  | .anyChar :: rest, _ :: text => matchTokens rest text
  | .within set :: rest, d :: text => set.any (·.contains d) && matchTokens rest text
  | .outside set :: rest, d :: text => !set.any (·.contains d) && matchTokens rest text
  | .anyText :: rest, text => (suffixes text).any (matchTokens rest)
  | .components :: rest, text => (componentStarts text).any (matchTokens rest)
  | _ :: _, [] => false

/-- **Whether a glob matches a path.** -/
def accepts (glob : Glob) (path : String) : Bool := matchTokens glob.tokens path.toList

end Glob

end Discern
