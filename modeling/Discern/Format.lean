import Discern.Text.Blank

/-!
# Format tags and identities

A format is named by a `FormatTag`: a short text, trimmed and in lower case, so
that `ZIP`, ` zip` and `zip` are one tag.  The tag space is open.  A `FormatId`
adds a free-form version to a tag.  The tag `unknown` stands for "nothing was
recognised".

The type of tags carries its normal form: a tag can only be built from a text by
`FormatTag.ofString`, and building it again from its own text gives it back
(`FormatTag.ofString_text`).
-/

namespace Discern

open Text

/-- **Normal form** of a tag's text: blanks cut off both ends, ASCII capitals
made small. -/
def FormatTag.normalize (s : String) : String :=
  String.ofList ((trim s.toList).map Char.toLower)

private theorem toLower_of_not_capital {c : Char} (h : ¬ (c.val ≥ 'A'.val ∧ c.val ≤ 'Z'.val)) :
    c.toLower = c := by
  unfold Char.toLower
  rw [dif_neg h]

private theorem toLower_toLower (c : Char) : c.toLower.toLower = c.toLower := by
  by_cases h : c.val ≥ 'A'.val ∧ c.val ≤ 'Z'.val
  · have low : 65 ≤ c.val.toNat ∧ c.val.toNat ≤ 90 := h
    have value : c.toLower.val.toNat = c.val.toNat + 32 := by
      unfold Char.toLower
      rw [dif_pos h]
      change (c.val + 32).toNat = c.val.toNat + 32
      rw [UInt32.toNat_add]
      change (c.val.toNat + 32) % 4294967296 = c.val.toNat + 32
      omega
    refine toLower_of_not_capital fun h' => ?_
    have : c.toLower.val.toNat ≤ 90 := h'.2
    omega
  · rw [toLower_of_not_capital h, toLower_of_not_capital h]

/-- Normalising twice is normalising once. -/
theorem FormatTag.normalize_normalize (s : String) :
    normalize (normalize s) = normalize s := by
  have step (cs : List Char) :
      (trim ((trim cs).map Char.toLower)).map Char.toLower = (trim cs).map Char.toLower := by
    rw [trim_map isBlank_toLower, trim_trim, List.map_map]
    congr 1
    funext c
    exact toLower_toLower c
  simp [normalize, step]

/-- A tag naming a format, kept in normal form. -/
structure FormatTag where
  text : String
  normal : FormatTag.normalize text = text
deriving DecidableEq

namespace FormatTag

/-- The tag that a text names. -/
def ofString (s : String) : FormatTag := ⟨normalize s, normalize_normalize s⟩

instance : Inhabited FormatTag := ⟨ofString ""⟩

instance : ToString FormatTag := ⟨text⟩

/-- A tag is named by its own text. -/
@[simp] theorem ofString_text (tag : FormatTag) : ofString tag.text = tag := by
  cases tag with
  | mk text normal => simp only [ofString, normal]

theorem ext_text {a b : FormatTag} (h : a.text = b.text) : a = b := by
  cases a; cases b; simp_all

/-- The tag of content that nothing recognised. -/
def unknown : FormatTag := ofString "unknown"

def base64 : FormatTag := ofString "base64"

def gzip : FormatTag := ofString "gzip"

/-- Whether this is the tag of unrecognised content. -/
def isUnknown (tag : FormatTag) : Bool := tag == unknown

end FormatTag

/-- **Identity of a format:** its tag and a version, which may be empty. -/
structure FormatId where
  tag : FormatTag
  version : String := ""
deriving DecidableEq, Inhabited

namespace FormatId

def unknown : FormatId := { tag := FormatTag.unknown }

def isUnknown (id : FormatId) : Bool := id.tag.isUnknown

/-- The tag, followed by the version unless that is empty. -/
def display (id : FormatId) : String :=
  if id.version.isEmpty then id.tag.text else id.tag.text ++ " " ++ id.version

instance : ToString FormatId := ⟨display⟩

end FormatId

end Discern
