import Discern.Proofs.Detection.Outcome

/-!
# Bounds and missing decoders cut a run short

How a layer is detected depends on neither the bound of the run nor the decoders of its
registry: they only decide whether the run goes on behind the layer.  So a run with a smaller
bound, or with some decoders taken out of its registry, comes to the first layers of the run
without these restrictions (`Completes.cut_short`, `layers_cut_short`).  The only error that
it can have of its own is that its last rewind fails.
-/

namespace Discern

/-- Take the decoders for some formats out. -/
def DecoderRegistry.without (decoders : DecoderRegistry) (tags : List FormatTag) :
    DecoderRegistry :=
  tags.foldl remove decoders

/-- A registry without some tags finds the decoders of the others. -/
theorem DecoderRegistry.get?_without (decoders : DecoderRegistry) (tags : List FormatTag)
    (tag : FormatTag) :
    (decoders.without tags).get? tag = if tag ∈ tags then none else decoders.get? tag := by
  induction tags generalizing decoders with
  | nil => rfl
  | cons first rest ih =>
      change ((decoders.remove first).without rest).get? tag = _
      rw [ih, get?_remove]
      simp only [List.mem_cons]
      by_cases later : tag ∈ rest
      · simp only [later, or_true, ↓reduceIte]
      · simp only [later, or_false, ↓reduceIte]

namespace DetectionRun

/-- **What a run comes to that should end after some layers:** these layers, unless its last
rewind fails. -/
def EndsAfter (layers : List FormatId) : Except StreamError Detection → Prop
  | .ok detection => detection.layers = layers
  | .error error => error.activity = .resettingDecoded

/-- The last rewind ends a run after its layer or fails. -/
theorem endsAfter_finish (stream : ByteStream) (id : FormatId) :
    EndsAfter [id] ((finish stream).map (Detection.mk [id])) := by
  rw [finish]
  generalize (stream.setLimit none).rewind = back
  obtain ⟨fault | done, last⟩ := back <;> rfl

/-- What ends after some layers inside a layer ends after all of them. -/
theorem EndsAfter.cons {layers : List FormatId} {result : Except StreamError Detection}
    (ends : EndsAfter layers result) (id : FormatId) :
    EndsAfter (id :: layers) (result.map fun d => { d with layers := id :: d.layers }) := by
  cases result with
  | error error => exact ends
  | ok detection => exact congrArg (id :: ·) ends

section Run

variable {enabled : TagSet} {detectors : List Detector} {decoders : DecoderRegistry}
  {limit : Option Nat} {recursion : Nat} {stream : ByteStream} {id : FormatId}
  (settled : (firstPass enabled detectors limit stream).result = .ok id)
include settled

/-- A run ends after a layer without a decoder. -/
theorem endsAfter_of_undecoded (absent : decoders.get? id.tag = none) :
    EndsAfter [id] (run enabled detectors decoders limit recursion stream).result := by
  rw [run_eq_of_undecoded settled absent]
  exact endsAfter_finish _ id

/-- A run ends after the first layer if it may have no other. -/
theorem endsAfter_of_bounded {decoder : Decoder} (found : decoders.get? id.tag = some decoder) :
    EndsAfter [id] (run enabled detectors decoders limit 0 stream).result := by
  rw [run_zero_of_decoded settled found]
  exact endsAfter_finish _ id

/-- A run with a decoder for its first layer ends where the run inside does. -/
theorem EndsAfter.deeper {decoder : Decoder} {layers : List FormatId}
    (found : decoders.get? id.tag = some decoder)
    (inner : EndsAfter layers (run enabled detectors decoders limit recursion
      ((firstPass enabled detectors limit stream).stream.decoded decoder)).result) :
    EndsAfter (id :: layers)
      (run enabled detectors decoders limit (recursion + 1) stream).result := by
  rw [run_succ_of_decoded settled found]
  exact inner.cons id

end Run

variable {enabled : TagSet} {detectors : List Detector} {decoders : DecoderRegistry}
  {limit : Option Nat} {recursion : Nat} {stream : ByteStream} {detection : Detection}

/-- **A run that is cut short** by a bound and by missing decoders, whichever comes first.  The
induction is on what the unrestricted run has done: both runs pass over the same stream as
long as the shorter one goes on. -/
theorem Completes.cut_short
    (completes : Completes enabled detectors decoders limit recursion stream detection)
    (tags : List FormatTag) {bound : Nat} (bounded : bound ≤ recursion) :
    EndsAfter (detection.layers.take
        (min (detection.layers.findIdx (·.tag ∈ tags)) bound + 1))
      (run enabled detectors (decoders.without tags) limit bound stream).result := by
  have removed : ∀ {id : FormatId}, id.tag ∈ tags → (decoders.without tags).get? id.tag = none :=
    fun member => by rw [DecoderRegistry.get?_without, if_pos member]
  have kept : ∀ {id : FormatId}, id.tag ∉ tags →
      (decoders.without tags).get? id.tag = decoders.get? id.tag :=
    fun stays => by rw [DecoderRegistry.get?_without, if_neg stays]
  have only : ∀ (id : FormatId) (count : Nat), [id].take (count + 1) = [id] := fun id count => by
    rw [List.take_succ_cons, List.take_nil]
  induction completes generalizing bound with
  | @undecoded recursion stream last id settled absent finished =>
      have nowhere : (decoders.without tags).get? id.tag = none := by
        by_cases member : id.tag ∈ tags
        · exact removed member
        · rw [kept member, absent]
      rw [only]
      exact endsAfter_of_undecoded settled nowhere
  | @bounded stream last id decoder settled found finished =>
      obtain rfl := Nat.le_zero.mp bounded
      rw [only]
      by_cases member : id.tag ∈ tags
      · exact endsAfter_of_undecoded settled (removed member)
      · exact endsAfter_of_bounded settled ((kept member).trans found)
  | @deeper recursion stream id decoder inner settled found inside ih =>
      by_cases member : id.tag ∈ tags
      · rw [List.findIdx_cons, decide_eq_true member]
        exact endsAfter_of_undecoded settled (removed member)
      · have stays := (kept member).trans found
        rw [List.findIdx_cons, decide_eq_false member]
        cases bound with
        | zero => exact endsAfter_of_bounded settled stays
        | succ bound =>
            have later := EndsAfter.deeper settled stays (ih (Nat.le_of_succ_le_succ bounded))
            rwa [cond_false, Nat.succ_min_succ]

/-- A run has no more layers than its bound allows. -/
theorem Completes.length_le
    (completes : Completes enabled detectors decoders limit recursion stream detection) :
    detection.layers.length ≤ recursion + 1 := by
  induction completes with
  | undecoded => exact Nat.succ_le_succ (Nat.zero_le _)
  | bounded => exact Nat.le_refl 1
  | deeper _ _ _ ih => exact Nat.succ_le_succ ih

/-- **Bounds and missing decoders only cut a run short.**  If a run comes to layers, then the
run with a smaller bound comes to the first layers of these, as many as its bound allows, and
the run without the decoders for some tags comes to those up to the first one with such a tag.
Apart from that a shorter run can only fail with its last rewind. -/
theorem layers_cut_short (enabled : TagSet) (detectors : List Detector)
    (decoders : DecoderRegistry) (limit : Option Nat) (recursion : Nat) (stream : ByteStream)
    (detection : Detection)
    (result : (run enabled detectors decoders limit recursion stream).result = .ok detection) :
    (∀ bound, bound ≤ recursion → EndsAfter (detection.layers.take (bound + 1))
      (run enabled detectors decoders limit bound stream).result) ∧
    ∀ tags : List FormatTag, EndsAfter
      (detection.layers.take (detection.layers.findIdx (·.tag ∈ tags) + 1))
      (run enabled detectors (decoders.without tags) limit recursion stream).result := by
  have completes := Completes.of_result result
  have short := completes.length_le
  constructor
  · intro bound bounded
    have cut := completes.cut_short [] bounded
    have nowhere : detection.layers.findIdx (·.tag ∈ ([] : List FormatTag)) =
        detection.layers.length := by
      rw [List.findIdx_eq_length]
      exact fun id _ => rfl
    rw [nowhere] at cut
    have same : detection.layers.take (min detection.layers.length bound + 1) =
        detection.layers.take (bound + 1) := by
      rw [List.take_eq_take_iff]
      omega
    rwa [same] at cut
  · intro tags
    have cut := completes.cut_short tags (Nat.le_refl recursion)
    have same : detection.layers.take
          (min (detection.layers.findIdx (·.tag ∈ tags)) recursion + 1) =
        detection.layers.take (detection.layers.findIdx (·.tag ∈ tags) + 1) := by
      rw [List.take_eq_take_iff]
      omega
    rwa [same] at cut

end DetectionRun

end Discern
