import Discern.Decoder.Base64
import Discern.Decoder.Gzip
import Discern.Format.TagSet

/-!
# Decoder registries

A registry holds at most one decoder for each tag.
-/

namespace Discern

/-- **Decoders by the tags of their formats.** -/
structure DecoderRegistry where
  decoders : List Decoder
  distinct : (decoders.map Decoder.tag).Nodup

namespace DecoderRegistry

def empty : DecoderRegistry := ⟨[], .nil⟩

instance : Inhabited DecoderRegistry := ⟨empty⟩

/-- The decoder for a format. -/
def get? (r : DecoderRegistry) (tag : FormatTag) : Option Decoder :=
  r.decoders.find? (·.tag == tag)

def contains (r : DecoderRegistry) (tag : FormatTag) : Bool := (r.get? tag).isSome

/-- Take the decoder for a format out. -/
def remove (r : DecoderRegistry) (tag : FormatTag) : DecoderRegistry where
  decoders := r.decoders.filter (·.tag != tag)
  distinct := (List.filter_sublist.map Decoder.tag).nodup r.distinct

/-- **Put a decoder in,** in place of the one for its format. -/
def register (r : DecoderRegistry) (d : Decoder) : DecoderRegistry where
  decoders := d :: (r.remove d.tag).decoders
  distinct := by
    refine List.nodup_cons.2 ⟨?_, (r.remove d.tag).distinct⟩
    simp [remove]

/-- The decoders for base64 and gzip. -/
def defaults : DecoderRegistry := (empty.register .base64).register .gzip

/-- The formats that can be decoded. -/
def tags (r : DecoderRegistry) : TagSet := .ofList (r.decoders.map Decoder.tag)

def size (r : DecoderRegistry) : Nat := r.decoders.length

def isEmpty (r : DecoderRegistry) : Bool := r.decoders.isEmpty

/-- The decoders of both, of two for one format the one of `other`. -/
def addAll (r other : DecoderRegistry) : DecoderRegistry := other.decoders.foldl register r

/-- What was put in is found, and nothing else is changed. -/
theorem get?_register (r : DecoderRegistry) (d : Decoder) (tag : FormatTag) :
    (r.register d).get? tag = if d.tag = tag then some d else r.get? tag := by
  simp only [get?, register, remove, List.find?_cons, List.find?_filter]
  by_cases h : d.tag = tag
  · simp [h]
  · simp only [beq_iff_eq, h, if_false]
    rw [show (d.tag == tag) = false by simpa using h]
    simp only
    congr 1
    funext a
    by_cases ha : a.tag = tag
    · subst ha
      simp [Ne.symm h, bne_iff_ne]
    · simp [ha]

/-- What was taken out is not found, and nothing else is changed. -/
theorem get?_remove (r : DecoderRegistry) (tag other : FormatTag) :
    (r.remove tag).get? other = if other = tag then none else r.get? other := by
  simp only [get?, remove, List.find?_filter]
  split
  · rename_i h
    subst h
    simp
  · rename_i h
    congr 1
    funext a
    by_cases ha : a.tag = other
    · subst ha
      simp [h]
    · simp [ha]

end DecoderRegistry

end Discern
