import PictureReport.Picture.Spec
import PictureReport.Proofs.Text

/-!
# Lines of names

The names on a line are its pieces between commas without the blanks around them, up to the last one that
is not empty.  So names of this kind come back from a line on which they are joined by commas.
-/

namespace PictureReport

namespace Spec

/-- Names as a line can hold them. -/
structure Names (names : List String) : Prop where
  trimmed : ∀ name ∈ names, Text.IsTrimmed name.toList
  comma : ∀ name ∈ names, ',' ∉ name.toList
  last : ∀ name ∈ names.getLast?, name ≠ ""

/-- Each name is a piece of the line without the blanks around it, and the last one is not empty. -/
theorem namesOf_eq (raw : Text) :
    namesOf raw = (((Text.separate ',' raw).map Text.trim).rdropWhile List.isEmpty).map Text.str := rfl

theorem mem_namesOf {raw : Text} {name : String} (h : name ∈ namesOf raw) :
    ∃ piece ∈ Text.separate ',' raw, name.toList = piece.trim := by
  rw [namesOf_eq] at h
  obtain ⟨t, ht, rfl⟩ := List.mem_map.mp h
  obtain ⟨piece, hpiece, rfl⟩ := List.mem_map.mp ((List.rdropWhile_prefix _ _).subset ht)
  exact ⟨piece, hpiece, String.toList_ofList⟩

theorem namesOf_names (raw : Text) : Names (namesOf raw) := by
  refine ⟨fun name hname => ?_, fun name hname => ?_, fun name hname => ?_⟩
  · obtain ⟨piece, -, hpiece⟩ := mem_namesOf hname
    rw [hpiece]
    exact Text.isTrimmed_trim piece
  · obtain ⟨piece, hmem, hpiece⟩ := mem_namesOf hname
    rw [hpiece]
    exact fun hcomma => Text.not_mem_of_mem_separate hmem (Text.mem_of_mem_trim hcomma)
  · rw [namesOf_eq, List.getLast?_map] at hname
    obtain ⟨t, ht, rfl⟩ := Option.map_eq_some_iff.mp hname
    have hne : ((Text.separate ',' raw).map Text.trim).rdropWhile List.isEmpty ≠ [] := by
      intro hnil
      rw [hnil] at ht
      cases ht
    have hlast := List.rdropWhile_last_not _ _ hne
    rw [List.getLast?_eq_some_getLast hne] at ht
    obtain rfl := Option.some.inj ht
    intro hempty
    have hnil := congrArg String.toList hempty
    rw [Text.str, String.toList_ofList] at hnil
    rw [hnil] at hlast
    exact hlast rfl

/-- A character of a name is one of its line. -/
theorem mem_of_mem_namesOf {raw : Text} {name : String} (h : name ∈ namesOf raw) {c : Char}
    (hc : c ∈ name.toList) : c ∈ raw := by
  obtain ⟨piece, hmem, hpiece⟩ := mem_namesOf h
  rw [hpiece] at hc
  exact Text.mem_of_mem_separate hmem (Text.mem_of_mem_trim hc)

/-- A line that holds the names.  Without the space in front it would be a comment if the first name starts
with the mark of one. -/
def nameLine (names : List String) : Text :=
  ' ' :: Text.joinWith [',', ' '] (names.map String.toList)

theorem not_comment_nameLine (names : List String) : isComment (nameLine names) = false := rfl

theorem namesOf_nameLine {names : List String} (h : Names names) (hne : names ≠ []) :
    namesOf (nameLine names) = names := by
  have hseparate : Text.separate ',' (nameLine names) = (names.map String.toList).map (' ' :: ·) := by
    refine Text.separate_joinWith (by decide) (by simpa using hne) fun piece hpiece => ?_
    obtain ⟨name, hname, rfl⟩ := List.mem_map.mp hpiece
    exact h.comma name hname
  have htrim : (Text.separate ',' (nameLine names)).map Text.trim = names.map String.toList := by
    rw [hseparate, List.map_map, List.map_map]
    refine List.map_congr_left fun name hname => ?_
    have hspace : Text.AllBlank [' '] := Text.allBlank_spaces 1
    have hnone : Text.AllBlank [] := fun _ hc => absurd hc List.not_mem_nil
    have htrimmed := Text.trim_of_isTrimmed (h.trimmed name hname) hspace hnone
    rwa [List.append_nil] at htrimmed
  have hlast : (names.map String.toList).rdropWhile List.isEmpty = names.map String.toList := by
    refine List.rdropWhile_eq_self_iff.mpr fun hmap hempty => ?_
    rw [List.getLast_map, List.isEmpty_iff] at hempty
    refine h.last _ (List.getLast?_eq_some_getLast hne) ?_
    exact String.toList_eq_nil_iff.mp hempty
  rw [namesOf_eq, htrim, hlast, List.map_map]
  have hid : (Text.str ∘ String.toList) = id := funext fun name => String.ofList_toList
  rw [hid, List.map_id]

/-- Names of a line without separators of lines are written on such a line. -/
theorem isBreak_of_mem_nameLine {raw : Text} (h : ∀ c ∈ raw, Text.isBreak c = false) {c : Char}
    (hc : c ∈ nameLine (namesOf raw)) : Text.isBreak c = false := by
  rcases List.mem_cons.mp hc with rfl | hc
  · decide
  · obtain hc | ⟨piece, hpiece, hc⟩ := Text.mem_joinWith hc
    · simp only [List.mem_cons, List.not_mem_nil, or_false] at hc
      rcases hc with rfl | rfl <;> decide
    · obtain ⟨name, hname, rfl⟩ := List.mem_map.mp hpiece
      exact h c (mem_of_mem_namesOf hname hc)

end Spec

end PictureReport
