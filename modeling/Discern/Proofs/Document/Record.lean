import Discern.Classification.Record
import Discern.Configuration.Record
import Discern.Library.Schema
import Mathlib.Data.List.Nodup

/-!
# Records are read back

A record is written with the fields that are there, and a reader looks for each field by its name.
The names are distinct, so a reader finds each field that was written, and nothing where a field
was left out (`Datum.fields?_of_present`).  From this, what is written of a library document, of a
configuration, of a hit and of a classification is read back as the same value
(`Datum.records_survive`).
-/

namespace Discern

namespace Datum

variable {α : Type} {read : Datum → Option α} {write : α → Datum} {name : String}

/-! ## Fields -/

/-- The entries of the fields that are there. -/
def entries (fields : List (String × Option Datum)) : List (String × Datum) :=
  fields.filterMap fun field => field.2.map (field.1, ·)

/-- **What is written of a record:** names of fields, and their values where there are any. -/
def present (names : List String) (values : List (Option Datum)) : Datum :=
  .map (entries (names.zip values))

section Entries

variable {fields : List (String × Option Datum)}

/-- The keys of a record are those of its fields that are there. -/
theorem keys_entries_sublist (fields : List (String × Option Datum)) :
    ((entries fields).map Prod.fst).Sublist (fields.map Prod.fst) := by
  induction fields with
  | nil => exact .slnil
  | cons field rest ih =>
      obtain ⟨key, value⟩ := field
      cases value with
      | none => exact ih.cons key
      | some d => exact ih.cons_cons key

/-- A record has no key of which there is no field. -/
theorem find?_entries_of_not_mem (absent : name ∉ fields.map Prod.fst) :
    find? name (entries fields) = none := by
  have missing : name ∉ (entries fields).map Prod.fst :=
    fun member => absent ((keys_entries_sublist fields).subset member)
  rw [find?, Option.map_eq_none_iff, List.find?_eq_none]
  intro entry listed same
  exact missing (List.mem_map.mpr ⟨entry, listed, eq_of_beq same⟩)

/-- A record has under a key what its field has. -/
theorem find?_entries_of_mem (distinct : (fields.map Prod.fst).Nodup) {value : Option Datum}
    (member : (name, value) ∈ fields) : find? name (entries fields) = value := by
  induction fields with
  | nil => cases member
  | cons field rest ih =>
      obtain ⟨key, first⟩ := field
      rw [List.map_cons, List.nodup_cons] at distinct
      rcases List.mem_cons.mp member with here | later
      · cases here
        cases value with
        | none =>
            have absent : find? name (entries rest) = none := find?_entries_of_not_mem distinct.1
            exact absent
        | some d =>
            have found : ((name, d) :: entries rest).find? (·.1 == name) = some (name, d) :=
              List.find?_cons_of_pos (beq_self_eq_true name)
            exact congrArg (Option.map Prod.snd) found
      · have listed : name ∈ rest.map Prod.fst := List.mem_map.mpr ⟨_, later, rfl⟩
        have other : key ≠ name := (ne_of_mem_of_not_mem listed distinct.1).symm
        cases first with
        | none => exact ih distinct.2 later
        | some d =>
            have passed : ((key, d) :: entries rest).find? (·.1 == name) =
                (entries rest).find? (·.1 == name) :=
              List.find?_cons_of_neg fun same => other (eq_of_beq same)
            exact (congrArg (Option.map Prod.snd) passed).trans (ih distinct.2 later)

end Entries

/-- **Fields are found by their names,** and one that was left out is not there. -/
theorem fields?_of_present {names : List String} {values : List (Option Datum)} {record : Datum}
    {strict : Bool} (written : record = present names values) (distinct : names.Nodup)
    (paired : names.length = values.length) :
    record.fields? names strict = some values := by
  have keys : (names.zip values).map Prod.fst = names := List.map_fst_zip (Nat.le_of_eq paired)
  have whole : (names.zip values).map Prod.snd = values :=
    List.map_snd_zip (Nat.le_of_eq paired.symm)
  have sublist := keys_entries_sublist (names.zip values)
  rw [keys] at sublist
  have once : names.any (fun name =>
      1 < ((entries (names.zip values)).map Prod.fst).count name) = false := by
    rw [List.any_eq_false]
    intro name _
    rw [decide_eq_true_eq, Nat.not_lt]
    exact List.nodup_iff_count_le_one.mp (distinct.sublist sublist) name
  have known : ((entries (names.zip values)).map Prod.fst).any
      (fun key => !names.contains key) = false := by
    rw [List.any_eq_false]
    intro key member
    rw [List.contains_iff_mem.mpr (sublist.subset member)]
    exact Bool.false_ne_true
  have found : names.map (find? · (entries (names.zip values))) = values := by
    calc names.map (find? · (entries (names.zip values)))
        = (names.zip values).map fun field => find? field.1 (entries (names.zip values)) := by
          conv_lhs => rw [← keys, List.map_map]
          rw [keys]
          rfl
      _ = (names.zip values).map Prod.snd := by
          apply List.map_congr_left
          intro field member
          exact find?_entries_of_mem (keys.symm ▸ distinct) member
      _ = values := whole
  rw [written, present, Datum.fields?, if_neg (Bool.eq_false_iff.mp once), known, Bool.and_false, found]
  rfl

/-! ## Values -/

/-- A required field that is there is read. -/
@[simp] theorem required_some (read : Datum → Option α) (d : Datum) :
    required read (some d) = read d :=
  rfl

/-- A field that is there has no need of its default. -/
@[simp] theorem withDefault_some (default : α) (read : Datum → Option α) (d : Datum) :
    withDefault default read (some d) = read d :=
  rfl

@[simp] theorem string?_text (s : String) : string? (.text s) = some s := rfl

@[simp] theorem bool?_bool (b : Bool) : bool? (.bool b) = some b := rfl

@[simp] theorem word32?_nat (n : UInt32) : word32? (.nat n.toNat) = some n := by
  have inside : n.toNat < UInt32.size := n.toNat_lt_size
  change (if n.toNat < UInt32.size then some (UInt32.ofNat n.toNat) else none) = some n
  rw [if_pos inside, UInt32.ofNat_toNat]

@[simp] theorem word64?_nat (n : UInt64) : word64? (.nat n.toNat) = some n := by
  have inside : n.toNat < UInt64.size := n.toNat_lt_size
  change (if n.toNat < UInt64.size then some (UInt64.ofNat n.toNat) else none) = some n
  rw [if_pos inside, UInt64.ofNat_toNat]

section Combined

variable (restored : ∀ a, read (write a) = some a)
include restored

/-- A sequence is read item by item. -/
theorem seq?_map (items : List α) : seq? read (.seq (items.map write)) = some items := by
  change (items.map write).mapM read = some items
  induction items with
  | nil => rfl
  | cons first rest ih =>
      rw [List.map_cons, List.mapM_cons, restored, ih]
      rfl

/-- A list that is left out where it is empty. -/
theorem withDefault_filled (items : List α) :
    withDefault [] (seq? read)
      (if items = [] then none else some (.seq (items.map write))) = some items := by
  cases items with
  | nil => rfl
  | cons first rest => exact seq?_map restored (first :: rest)

variable (full : ∀ a, nullable? read (write a) = (read (write a)).map some)
include full

/-- A value that may be missing is read as it was written, missing or not. -/
theorem optional_ofOption (value : Option α) :
    optional read (some (ofOption write value)) = some value := by
  cases value with
  | none => rfl
  | some a => exact (full a).trans (congrArg (Option.map some) (restored a))

/-- A field that is left out where there is nothing. -/
theorem optional_map (value : Option α) : optional read (value.map write) = some value := by
  cases value with
  | none => rfl
  | some a => exact optional_ofOption restored full (some a)

end Combined

@[simp] theorem seq?_texts (ss : List String) : seq? string? (.texts ss) = some ss :=
  seq?_map string?_text ss

@[simp] theorem optional_text (value : Option String) :
    optional string? (value.map .text) = some value :=
  optional_map string?_text (fun _ => rfl) value

end Datum

open Datum

/-! ## Formats and hits -/

/-- A tag is read as it was written. -/
@[simp] theorem FormatTag.ofDatum?_toDatum (tag : FormatTag) : ofDatum? tag.toDatum = some tag :=
  congrArg some tag.ofString_text

namespace FormatId

theorem fields?_toDatum (id : FormatId) :
    id.toDatum.fields? ["tag", "version"] false =
      some [some id.tag.toDatum, some (.text id.version)] :=
  fields?_of_present rfl (by decide) rfl

/-- An id of a format is read as it was written. -/
@[simp] theorem ofDatum?_toDatum (id : FormatId) : ofDatum? id.toDatum = some id := by
  simp [ofDatum?, fields?_toDatum]

end FormatId

namespace FileFormat

theorem fields?_toDatum (format : FileFormat) :
    format.toDatum.fields? ["id", "name", "tag", "version", "mime_type", "extensions",
      "signatures", "has_priority_over"] true =
      some [some (.nat format.id.toNat), some (.text format.name), some (.text format.tag.text),
        some (.text format.version), format.mimeType.map .text, some (.texts format.extensions),
        some (.seq (format.signatures.map fun id => .nat id.toNat)),
        some (.seq (format.hasPriorityOver.map fun id => .nat id.toNat))] := by
  cases format with
  | mk _ _ _ _ mimeType => cases mimeType <;> exact fields?_of_present rfl (by decide) rfl

/-- A format is read as it was written. -/
@[simp] theorem ofDatum?_toDatum (format : FileFormat) :
    ofDatum? format.toDatum = some format := by
  simp [ofDatum?, fields?_toDatum, seq?_map word32?_nat]

end FileFormat

/-- A confidence is read by its name. -/
@[simp] theorem Confidence.ofDatum?_name (confidence : Confidence) :
    ofDatum? (.text confidence.name) = some confidence := by
  cases confidence <;> rfl

/-- So is a warning. -/
theorem HitWarning.ofDatum?_name (warning : HitWarning) :
    ofDatum? (.text warning.name) = some warning := by
  cases warning
  rfl

/-- So is a status. -/
@[simp] theorem Status.ofDatum?_name (status : Status) :
    ofDatum? (.text status.name) = some status := by
  cases status <;> rfl

namespace Hit

theorem fields?_toDatum (hit : Hit) :
    hit.toDatum.fields? ["format", "format_id", "name", "mime_type", "hit_type", "specific",
      "warning"] false =
      some [some (.nat hit.format.toNat), some hit.formatId.toDatum, some (.text hit.name),
        hit.mimeType.map .text, some (.text hit.confidence.name), some (.bool hit.specific),
        hit.warning.map fun warning => .text warning.name] := by
  cases hit with
  | mk _ _ _ mimeType _ _ warning =>
      cases mimeType <;> cases warning <;> exact fields?_of_present rfl (by decide) rfl

/-- A hit is read as it was written. -/
@[simp] theorem ofDatum?_toDatum (hit : Hit) : ofDatum? hit.toDatum = some hit := by
  simp [ofDatum?, fields?_toDatum, optional_map HitWarning.ofDatum?_name fun _ => rfl]

end Hit

namespace Classification

theorem fields?_toDatum (classification : Classification) :
    classification.toDatum.fields? ["hits", "status"] false =
      some [some (.seq (classification.hits.map Hit.toDatum)),
        some (.text classification.status.name)] :=
  fields?_of_present rfl (by decide) rfl

/-- A classification is read as it was written. -/
theorem ofDatum?_toDatum (classification : Classification) :
    ofDatum? classification.toDatum = some classification := by
  simp [ofDatum?, fields?_toDatum, seq?_map Hit.ofDatum?_toDatum]

end Classification

/-! ## Library documents -/

/-- An anchor is read by its name. -/
@[simp] theorem Anchor.ofDatum?_name (anchor : Anchor) :
    ofDatum? (.text anchor.name) = some anchor := by
  cases anchor <;> rfl

namespace SubSequenceEntry

theorem fields?_toDatum (entry : SubSequenceEntry) :
    entry.toDatum.fields? ["gap", "pattern"] true =
      some [entry.gap.map .text, some (.text entry.pattern)] := by
  cases entry with
  | mk gap _ => cases gap <;> exact fields?_of_present rfl (by decide) rfl

/-- A sub-sequence is read as it was written. -/
theorem ofDatum?_toDatum (entry : SubSequenceEntry) : ofDatum? entry.toDatum = some entry := by
  simp [ofDatum?, fields?_toDatum]

end SubSequenceEntry

namespace SequenceEntry

theorem fields?_toDatum (entry : SequenceEntry) :
    entry.toDatum.fields? ["anchor", "offset", "pattern", "sub_sequences"] true =
      some [some (.text entry.anchor.name), some (.nat entry.offset.toNat),
        entry.pattern.map .text, if entry.subSequences = [] then none
          else some (.seq (entry.subSequences.map SubSequenceEntry.toDatum))] := by
  cases entry with
  | mk _ _ pattern subSequences =>
      cases pattern <;> cases subSequences <;> exact fields?_of_present rfl (by decide) rfl

/-- A sequence is read as it was written. -/
theorem ofDatum?_toDatum (entry : SequenceEntry) : ofDatum? entry.toDatum = some entry := by
  simp [ofDatum?, fields?_toDatum, withDefault_filled SubSequenceEntry.ofDatum?_toDatum]

end SequenceEntry

namespace SignatureEntry

theorem fields?_toDatum (entry : SignatureEntry) :
    entry.toDatum.fields? ["id", "specific", "sequences"] true =
      some [some (.nat entry.id.toNat), some (.bool entry.specific),
        some (.seq (entry.sequences.map SequenceEntry.toDatum))] :=
  fields?_of_present rfl (by decide) rfl

/-- A signature is read as it was written. -/
theorem ofDatum?_toDatum (entry : SignatureEntry) : ofDatum? entry.toDatum = some entry := by
  simp [ofDatum?, fields?_toDatum, seq?_map SequenceEntry.ofDatum?_toDatum]

end SignatureEntry

namespace LibraryDocument

theorem fields?_toDatum (document : LibraryDocument) :
    document.toDatum.fields? ["version", "date_created", "formats", "signatures"] true =
      some [some (.text document.version), document.dateCreated.map .text,
        some (.seq (document.formats.map FileFormat.toDatum)),
        some (.seq (document.signatures.map SignatureEntry.toDatum))] := by
  cases document with
  | mk _ dateCreated => cases dateCreated <;> exact fields?_of_present rfl (by decide) rfl

/-- A library document is read as it was written. -/
theorem ofDatum?_toDatum (document : LibraryDocument) :
    ofDatum? document.toDatum = some document := by
  simp [ofDatum?, fields?_toDatum, seq?_map FileFormat.ofDatum?_toDatum,
    seq?_map SignatureEntry.ofDatum?_toDatum]

end LibraryDocument

/-! ## Configurations -/

namespace Configuration

theorem fields?_toDatum (configuration : Configuration) :
    configuration.toDatum.fields? (fields.map Field.name) true =
      some (fields.map fun field => some (field.write configuration)) :=
  fields?_of_present rfl (by decide) rfl

/-- A configuration is read as it was written. -/
theorem ofDatum?_toDatum (configuration : Configuration) :
    ofDatum? configuration.toDatum = some configuration := by
  rw [ofDatum?, fields?_toDatum]
  simp [fields, optional_ofOption string?_text fun _ => rfl,
    optional_ofOption word64?_nat fun _ => rfl]

end Configuration

/-- **Records survive.**  A library document, a configuration, a hit and a classification are
read back from the records that are written of them, whatever fields are there. -/
theorem Datum.records_survive :
    (∀ document : LibraryDocument, LibraryDocument.ofDatum? document.toDatum = some document) ∧
    (∀ configuration : Configuration,
      Configuration.ofDatum? configuration.toDatum = some configuration) ∧
    (∀ hit : Hit, Hit.ofDatum? hit.toDatum = some hit) ∧
    ∀ classification : Classification,
      Classification.ofDatum? classification.toDatum = some classification :=
  ⟨LibraryDocument.ofDatum?_toDatum, Configuration.ofDatum?_toDatum, Hit.ofDatum?_toDatum,
    Classification.ofDatum?_toDatum⟩

end Discern
