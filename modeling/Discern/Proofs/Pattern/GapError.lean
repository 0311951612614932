import Discern.Proofs.Pattern.Token
import Discern.Proofs.Text.Utf8

/-!
# Errors of gaps that stand alone

An error of a gap is meant to carry the text that was to be read, and a position in this text
behind the blanks at its beginning.  Where no gap is found and where text stands behind one it
does.  What is wrong in the braces is reported for the text without the blanks around it, so it
does only if there are none (`readGap_points_into_iff`).
-/

namespace Discern

open Text

/-- **An error is about a text:** it carries the text, and a position in it that lies behind the
blanks at its beginning. -/
structure PatternError.PointsInto (error : PatternError) (text : String) : Prop where
  text_eq : error.text = text
  behind : Utf8.size (text.toList.takeWhile isBlank) ≤ error.position
  inside : Utf8.Boundary text.toList error.position

/-- What can be wrong with the braces of a gap, or in them. -/
def PatternFlaw.InBraces : PatternFlaw → Prop
  | unterminatedGap => True
  | boundNotNumber => True
  | invertedBounds => True
  | _ => False

namespace Pattern

variable {cs : List Char} {flaw : PatternFlaw} {gap : Gap} {text : String} {error : PatternError}

/-! ## What is wrong in braces -/

/-- A bound that cannot be read is wrong inside the braces. -/
theorem inBraces_of_bound (failed : bound cs = .error flaw) : flaw.InBraces := by
  unfold bound at failed
  split at failed
  · cases failed
  · cases failed
    trivial

/-- What is wrong with the bounds of a gap is wrong inside its braces. -/
theorem inBraces_of_gapBody (failed : gapBody cs = .error flaw) : flaw.InBraces := by
  unfold gapBody at failed
  dsimp only at failed
  split at failed
  · rcases bind_eq_error_iff.1 failed with bad | ⟨_, -, done⟩
    · exact inBraces_of_bound bad
    · cases done
  · rcases bind_eq_error_iff.1 failed with bad | ⟨_, -, done⟩
    · exact inBraces_of_bound bad
    · cases done
  · rcases bind_eq_error_iff.1 failed with bad | ⟨min, -, failed⟩
    · exact inBraces_of_bound bad
    · rcases bind_eq_error_iff.1 failed with bad | ⟨max, -, failed⟩
      · exact inBraces_of_bound bad
      · split at failed
        · cases failed
          trivial
        · cases failed

/-- What is wrong with a gap in braces is wrong with them or inside. -/
theorem inBraces_of_bracedGap (failed : bracedGap cs = .error flaw) : flaw.InBraces := by
  unfold bracedGap at failed
  split at failed
  · cases failed
    trivial
  · exact inBraces_of_gapBody (map_eq_error_iff.1 failed)

/-! ## What is wrong with a gap -/

/-- **What a gap is refused for:** its braces, the text behind it, or that there is none. -/
theorem readGap_error_cases (failed : readGap text = .error error) :
    (∃ flaw : PatternFlaw, flaw.InBraces ∧
      error = ⟨String.ofList (trim text.toList), 0, flaw⟩) ∨
    (∃ spelled rest, trim text.toList = spelled ++ rest ∧ rest ≠ [] ∧
      error = ⟨text, Utf8.size (trimEnd text.toList) - Utf8.size rest, .textAfterGap⟩) ∨
    error = ⟨text, Utf8.size text.toList - Utf8.size (trimStart text.toList), .notGap⟩ := by
  unfold readGap at failed
  dsimp only at failed
  split at failed
  · rename_i rest starts
    cases rest with
    | nil => cases failed
    | cons c rest =>
        cases failed
        exact .inr (.inl ⟨['*'], c :: rest, starts, nofun, rfl⟩)
  · rename_i cs starts
    split at failed
    · rename_i gap rest read
      cases rest with
      | nil => cases failed
      | cons c rest =>
          cases failed
          obtain ⟨body, rfl, -, -⟩ := bracedGap_eq_ok_iff.1 read
          exact .inr (.inl ⟨'\x7b' :: (body ++ ['\x7d']), c :: rest, by simp [starts], nofun, rfl⟩)
    · rename_i flaw read
      cases failed
      refine .inl ⟨flaw, inBraces_of_bracedGap read, ?_⟩
      rw [Fault.report, Nat.sub_self]
  · cases failed
    exact .inr (.inr rfl)

/-- A position behind the blanks that a text begins with, and some more of the text. -/
theorem pointsInto_of_append {taken rest : List Char} {position : Nat}
    (split : text.toList = text.toList.takeWhile isBlank ++ taken ++ rest)
    (here : position = Utf8.size (text.toList.takeWhile isBlank ++ taken)) :
    PatternError.PointsInto ⟨text, position, flaw⟩ text where
  text_eq := rfl
  behind := by
    rw [here, Utf8.size_append]
    exact Nat.le_add_right ..
  inside := ⟨_, rest, split, here.symm⟩

/-- **Errors of gaps point into the text,** but for those of the braces of a gap with blanks around
it: they carry the text without the blanks, and its beginning as the position. -/
theorem readGap_points_into_iff (failed : readGap text = .error error) :
    (error.PointsInto text ↔ ¬ error.flaw.InBraces ∨ trim text.toList = text.toList) ∧
    (error.flaw.InBraces → error.text = String.ofList (trim text.toList) ∧ error.position = 0) := by
  rcases readGap_error_cases failed with
    ⟨flaw, inBraces, rfl⟩ | ⟨spelled, rest, trimmed, filled, rfl⟩ | rfl
  · refine ⟨⟨fun points => .inr ?_, ?_⟩, fun _ => ⟨rfl, rfl⟩⟩
    · have same := congrArg String.toList points.text_eq
      rwa [String.toList_ofList] at same
    · rintro (other | whole)
      · exact absurd inBraces other
      · have noBlanks : text.toList.takeWhile isBlank = [] := by
          have starts := starts_of_trim whole
          cases inner : text.toList with
          | nil => rfl
          | cons c rest =>
              rw [inner] at starts
              exact List.takeWhile_cons_of_neg (by simp [starts c rfl])
        rw [whole, String.ofList_toList]
        have start : text.toList = text.toList.takeWhile isBlank ++ [] ++ text.toList := by
          rw [noBlanks, List.nil_append, List.nil_append]
        exact pointsInto_of_append start (by rw [noBlanks]; rfl)
  · refine ⟨iff_of_true ?_ (.inl nofun), nofun⟩
    obtain ⟨after, split, -⟩ := exists_trim_end text.toList
    have inner : trim text.toList ≠ [] := trimmed ▸ List.append_ne_nil_of_right_ne_nil _ filled
    have cut : text.toList = text.toList.takeWhile isBlank ++ spelled ++ (rest ++ after) := by
      rw [trimmed] at split
      simpa using split
    refine pointsInto_of_append cut ?_
    rw [trimEnd_eq inner, trimmed, ← List.append_assoc, Utf8.size_append, Nat.add_sub_cancel]
  · refine ⟨iff_of_true ?_ (.inl nofun), nofun⟩
    have cut : text.toList = text.toList.takeWhile isBlank ++ [] ++ trimStart text.toList := by
      rw [List.append_nil]
      exact List.takeWhile_append_dropWhile.symm
    refine pointsInto_of_append cut ?_
    have total := congrArg Utf8.size cut
    rw [Utf8.size_append] at total
    omega

/-- A wide blank, and text behind a gap. -/
theorem readGap_points_into_iff_textAfter :
    readGap "\u3000* AA " = .error ⟨"\u3000* AA ", 4, .textAfterGap⟩ ∧
    PatternError.PointsInto ⟨"\u3000* AA ", 4, .textAfterGap⟩ "\u3000* AA " := by
  have failed : readGap "\u3000* AA " = .error ⟨"\u3000* AA ", 4, .textAfterGap⟩ := by decide
  exact ⟨failed, (readGap_points_into_iff failed).1.2 (.inl id)⟩

/-- What is wrong in braces is looked for in another text if there are blanks in front of them. -/
theorem braces_reported_trimmed :
    readGap " \x7bx\x7d" = .error ⟨"\x7bx\x7d", 0, .boundNotNumber⟩ ∧
    ¬ PatternError.PointsInto ⟨"\x7bx\x7d", 0, .boundNotNumber⟩ " \x7bx\x7d" :=
  ⟨by decide, fun points => absurd points.text_eq (by decide)⟩

end Pattern

end Discern
