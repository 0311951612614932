import Discern.Format

/-!
# Sets of format tags

A `TagSet` lists its tags in ascending order of their text, each once.  The order
is part of the type, so two sets with the same members are equal (`TagSet.ext`)
and every listing of a set is the same.
-/

namespace Discern

/-- **A finite set of tags,** listed in ascending order. -/
structure TagSet where
  tags : List FormatTag
  ascending : tags.Pairwise (fun a b => a.text < b.text)

namespace TagSet

instance : DecidableEq TagSet := fun a b =>
  decidable_of_iff (a.tags = b.tags) ⟨fun h => by cases a; cases b; simp_all, fun h => h ▸ rfl⟩

instance : Membership FormatTag TagSet := ⟨fun s tag => tag ∈ s.tags⟩

instance (tag : FormatTag) (s : TagSet) : Decidable (tag ∈ s) :=
  inferInstanceAs (Decidable (tag ∈ s.tags))

theorem mem_def {tag : FormatTag} {s : TagSet} : tag ∈ s ↔ tag ∈ s.tags := Iff.rfl

/-- The set without members. -/
def empty : TagSet := ⟨[], .nil⟩

instance : EmptyCollection TagSet := ⟨empty⟩

instance : Inhabited TagSet := ⟨empty⟩

def contains (s : TagSet) (tag : FormatTag) : Bool := decide (tag ∈ s)

def size (s : TagSet) : Nat := s.tags.length

def isEmpty (s : TagSet) : Bool := s.tags.isEmpty

/-- Put a tag into an ascending list that may already hold it. -/
def insertTag (tag : FormatTag) : List FormatTag → List FormatTag
  | [] => [tag]
  | head :: rest =>
    if tag = head then head :: rest
    else if tag.text < head.text then tag :: head :: rest
    else head :: insertTag tag rest

@[simp] theorem mem_insertTag {tag other : FormatTag} {tags : List FormatTag} :
    other ∈ insertTag tag tags ↔ other = tag ∨ other ∈ tags := by
  induction tags with
  | nil => simp [insertTag]
  | cons head rest ih =>
    unfold insertTag
    split
    · rename_i h
      subst h
      simp
    · split
      · simp
      · simp only [List.mem_cons, ih]
        constructor
        · rintro (h | h | h) <;> simp [h]
        · rintro (h | h | h) <;> simp [h]

private theorem lt_or_eq_or_gt (a b : FormatTag) :
    a.text < b.text ∨ a = b ∨ b.text < a.text := by
  by_cases h : a.text < b.text
  · exact .inl h
  · by_cases h' : b.text < a.text
    · exact .inr (.inr h')
    · exact .inr (.inl (FormatTag.ext_text (String.le_antisymm h' h)))

theorem insertTag_ascending {tag : FormatTag} {tags : List FormatTag}
    (h : tags.Pairwise (fun a b => a.text < b.text)) :
    (insertTag tag tags).Pairwise (fun a b => a.text < b.text) := by
  induction tags with
  | nil => simp [insertTag]
  | cons head rest ih =>
    rw [List.pairwise_cons] at h
    unfold insertTag
    split
    · exact List.pairwise_cons.2 h
    · rename_i hne
      split
      · rename_i hlt
        refine List.pairwise_cons.2 ⟨?_, List.pairwise_cons.2 h⟩
        intro other hother
        rcases List.mem_cons.1 hother with rfl | hmem
        · exact hlt
        · exact String.lt_trans hlt (h.1 other hmem)
      · rename_i hnlt
        refine List.pairwise_cons.2 ⟨?_, ih h.2⟩
        intro other hother
        rcases mem_insertTag.1 hother with rfl | hmem
        · rcases lt_or_eq_or_gt other head with h' | h' | h'
          · exact absurd h' hnlt
          · exact absurd h' hne
          · exact h'
        · exact h.1 other hmem

/-- The set with one more member. -/
def insert (s : TagSet) (tag : FormatTag) : TagSet :=
  ⟨insertTag tag s.tags, insertTag_ascending s.ascending⟩

/-- The members that a test keeps. -/
def filter (s : TagSet) (keep : FormatTag → Bool) : TagSet :=
  ⟨s.tags.filter keep, s.ascending.filter keep⟩

def erase (s : TagSet) (tag : FormatTag) : TagSet := s.filter (· != tag)

/-- The members of `s` that are not in `other`. -/
def removeAll (s other : TagSet) : TagSet := s.filter (fun tag => !other.contains tag)

/-- The set of the listed tags. -/
def ofList (tags : List FormatTag) : TagSet := tags.foldl insert empty

/-- The members of either set. -/
def union (s other : TagSet) : TagSet := other.tags.foldl insert s

/-- Whether the two sets share a member. -/
def intersects (s other : TagSet) : Bool := s.tags.any other.contains

section Membership

variable {s other : TagSet} {tag tag' : FormatTag}

@[simp] theorem not_mem_empty : ¬ tag ∈ (∅ : TagSet) := List.not_mem_nil

@[simp] theorem contains_iff : s.contains tag = true ↔ tag ∈ s := by simp [contains]

@[simp] theorem mem_insert : tag' ∈ s.insert tag ↔ tag' = tag ∨ tag' ∈ s := mem_insertTag

@[simp] theorem mem_filter {keep : FormatTag → Bool} :
    tag ∈ s.filter keep ↔ tag ∈ s ∧ keep tag = true := List.mem_filter

@[simp] theorem mem_erase : tag' ∈ s.erase tag ↔ tag' ∈ s ∧ tag' ≠ tag := by simp [erase]

@[simp] theorem mem_removeAll : tag ∈ s.removeAll other ↔ tag ∈ s ∧ ¬ tag ∈ other := by
  rw [removeAll, mem_filter, Bool.not_eq_true', ← Bool.not_eq_true, contains_iff]

private theorem mem_foldl_insert {tags : List FormatTag} :
    tag ∈ tags.foldl insert s ↔ tag ∈ tags ∨ tag ∈ s := by
  induction tags generalizing s with
  | nil => simp
  | cons head rest ih =>
    simp only [List.foldl_cons, ih, mem_insert, List.mem_cons]
    constructor
    · rintro (h | h | h) <;> simp [h]
    · rintro ((h | h) | h) <;> simp [h]

@[simp] theorem mem_union : tag ∈ s.union other ↔ tag ∈ other ∨ tag ∈ s := mem_foldl_insert

@[simp] theorem mem_ofList {tags : List FormatTag} : tag ∈ ofList tags ↔ tag ∈ tags := by
  rw [ofList, mem_foldl_insert]
  constructor
  · rintro (h | h)
    · exact h
    · exact absurd h not_mem_empty
  · exact .inl

theorem intersects_iff : s.intersects other = true ↔ ∃ tag, tag ∈ s ∧ tag ∈ other := by
  simp [intersects, List.any_eq_true, mem_def]

end Membership

/-- Sets with the same members are equal. -/
theorem ext {s other : TagSet} (h : ∀ tag, tag ∈ s ↔ tag ∈ other) : s = other := by
  have lists : ∀ (a b : List FormatTag), a.Pairwise (fun x y => x.text < y.text) →
      b.Pairwise (fun x y => x.text < y.text) → (∀ tag, tag ∈ a ↔ tag ∈ b) → a = b := by
    intro a
    induction a with
    | nil =>
      intro b _ _ hmem
      cases b with
      | nil => rfl
      | cons y ys => exact absurd ((hmem y).2 (by simp)) (by simp)
    | cons x xs ih =>
      intro b ha hb hmem
      cases b with
      | nil => exact absurd ((hmem x).1 (by simp)) (by simp)
      | cons y ys =>
        rw [List.pairwise_cons] at ha hb
        have hxy : x = y := by
          rcases List.mem_cons.1 ((hmem x).1 (by simp)) with hx | hx
          · exact hx
          · rcases List.mem_cons.1 ((hmem y).2 (by simp)) with hy | hy
            · exact hy.symm
            · exact absurd (String.lt_trans (ha.1 y hy) (hb.1 x hx)) (String.lt_irrefl _)
        subst hxy
        congr 1
        refine ih ys ha.2 hb.2 fun tag => ?_
        constructor
        · intro htag
          rcases List.mem_cons.1 ((hmem tag).1 (by simp [htag])) with rfl | h'
          · exact absurd (ha.1 tag htag) (String.lt_irrefl _)
          · exact h'
        · intro htag
          rcases List.mem_cons.1 ((hmem tag).2 (by simp [htag])) with rfl | h'
          · exact absurd (hb.1 tag htag) (String.lt_irrefl _)
          · exact h'
  cases s with
  | mk a ha =>
    cases other with
    | mk b hb =>
      obtain rfl := lists a b ha hb h
      rfl

end TagSet

end Discern
