import Discern.Library
import Mathlib.Data.List.Induction
import Mathlib.Data.List.Nodup

/-!
# Linking signatures to formats

Preparation enters the formats as owners one after the other: each looks up the signatures that
it lists and is added to their owners where it is not one yet.  A pass of one format changes the
signatures that it lists and no others (`enterAll_eq_map`), and after all passes the owners of a
signature are the formats that list it, in the order of their declaration (`link_disown`).
-/

namespace Discern

namespace Signature

@[simp] theorem disown_id (signature : Signature) : signature.disown.id = signature.id := rfl

@[simp]
theorem addOwner_id (format : UInt32) (signature : Signature) :
    (signature.addOwner format).id = signature.id := by
  unfold addOwner
  split <;> rfl

/-- A format owns a signature once. -/
theorem addOwner_addOwner (format : UInt32) (signature : Signature) :
    (signature.addOwner format).addOwner format = signature.addOwner format := by
  by_cases member : format ∈ signature.owners
  · simp only [addOwner, member, ↓reduceIte]
  · simp [addOwner, member]

end Signature

namespace Library

/-- The formats that list a signature, in the order of their declaration. -/
def ownersOf (formats : List FileFormat) (id : UInt32) : List UInt32 :=
  (formats.filter (id ∈ ·.signatures)).map FileFormat.id

variable {formats : List FileFormat} {signatures : List Signature}

/-- An update of the first signature with an id is one of all signatures with it, where ids are
distinct. -/
theorem modify_findIdx_eq_map (distinct : (signatures.map Signature.id).Nodup) (id : UInt32)
    (update : Signature → Signature) :
    signatures.modify (signatures.findIdx (·.id = id)) update =
      signatures.map fun signature => if signature.id = id then update signature else signature := by
  induction signatures with
  | nil => rfl
  | cons signature later ih =>
      rw [List.map_cons, List.nodup_cons] at distinct
      obtain ⟨single, distinct⟩ := distinct
      rw [List.findIdx_cons, List.map_cons]
      by_cases same : signature.id = id
      · have others : ∀ other ∈ later, other.id ≠ id := by
          rintro other member rfl
          exact single (same ▸ List.mem_map_of_mem member)
        have kept : later.map (fun other => if other.id = id then update other else other) =
            later := by
          refine (List.map_congr_left fun other member => ?_).trans (List.map_id _)
          exact if_neg (others other member)
        simp [same, kept]
      · simp [same, ih distinct]

/-- One pass over the ids that a format lists. -/
theorem foldl_enter_eq_map (distinct : (signatures.map Signature.id).Nodup) (format : UInt32)
    (ids : List UInt32) :
    ids.foldl (enter format) signatures =
      signatures.map fun signature =>
        if signature.id ∈ ids then signature.addOwner format else signature := by
  induction ids generalizing signatures with
  | nil => simp
  | cons id ids ih =>
      have entered := modify_findIdx_eq_map distinct id (Signature.addOwner format)
      have named : (enter format signatures id).map Signature.id = signatures.map Signature.id := by
        rw [enter, entered, List.map_map]
        refine List.map_congr_left fun signature _ => ?_
        rw [Function.comp_apply]
        split_ifs
        · exact signature.addOwner_id format
        · rfl
      rw [List.foldl_cons, ih (named ▸ distinct), enter, entered, List.map_map]
      refine List.map_congr_left fun signature _ => ?_
      rw [Function.comp_apply]
      by_cases first : signature.id = id
      · by_cases again : signature.id ∈ ids
        · simp [first, first ▸ again, Signature.addOwner_addOwner]
        · simp [first, first ▸ again]
      · simp [first]

/-- Entering the signatures of a format gives it to those that it lists. -/
theorem enterAll_eq_map (distinct : (signatures.map Signature.id).Nodup) (format : FileFormat) :
    enterAll signatures format =
      signatures.map fun signature =>
        if signature.id ∈ format.signatures then signature.addOwner format.id else signature :=
  foldl_enter_eq_map distinct format.id format.signatures

/-- The last format is the last owner, if it lists the signature. -/
theorem ownersOf_concat (formats : List FileFormat) (format : FileFormat) (id : UInt32) :
    ownersOf (formats ++ [format]) id =
      if id ∈ format.signatures then ownersOf formats id ++ [format.id] else ownersOf formats id := by
  rw [ownersOf, List.filter_append, List.filter_singleton, List.map_append]
  by_cases lists : id ∈ format.signatures <;> simp [lists, ownersOf]

/-- The ids of the owners stand in the order in which the formats are declared. -/
theorem ownersOf_sublist (formats : List FileFormat) (id : UInt32) :
    (ownersOf formats id).Sublist (formats.map FileFormat.id) :=
  List.filter_sublist.map _

/-- **After linking,** the owners of a signature are the formats that list it, whatever owners it
had before. -/
theorem link_disown (formatIds : (formats.map FileFormat.id).Nodup)
    (signatureIds : (signatures.map Signature.id).Nodup) :
    link formats (signatures.map Signature.disown) =
      signatures.map fun signature =>
        { signature with owners := ownersOf formats signature.id } := by
  induction formats using List.reverseRecOn with
  | nil => rfl
  | append_singleton formats format ih =>
      rw [List.map_append, List.map_singleton, List.nodup_append] at formatIds
      obtain ⟨formatIds, -, apart⟩ := formatIds
      -- The last pass meets owners that were entered by earlier formats, whose ids differ.
      have fresh : ∀ id, format.id ∉ ownersOf formats id := fun id member =>
        apart _ ((ownersOf_sublist formats id).subset member) _ (List.mem_singleton.mpr rfl) rfl
      have linked : link (formats ++ [format]) (signatures.map Signature.disown) =
          enterAll (link formats (signatures.map Signature.disown)) format := by
        rw [link, List.foldl_append]
        rfl
      rw [linked, ih formatIds, enterAll_eq_map (by simpa [Function.comp_def] using signatureIds),
        List.map_map]
      refine List.map_congr_left fun signature _ => ?_
      rw [Function.comp_apply, ownersOf_concat]
      by_cases lists : signature.id ∈ format.signatures
      · simp [lists, Signature.addOwner, fresh]
      · simp [lists]

end Library

end Discern
