/-!
# Cutting a text at a character

Cutting at every occurrence of a character, and at the first one only.  Joining the pieces with that
character gives the text back.
-/

set_option autoImplicit false

namespace CallChain.Text

/-- The pieces between the occurrences of a character; a text without it is one piece. -/
def splitAll (sep : Char) : List Char → List (List Char)
  | [] => [[]]
  | c :: r =>
    if c = sep then [] :: splitAll sep r
    else match splitAll sep r with
      | [] => [[c]]
      | piece :: pieces => (c :: piece) :: pieces

/-- What stands before and after the first occurrence of a character, if it occurs. -/
def splitFirst (sep : Char) : List Char → Option (List Char × List Char)
  | [] => none
  | c :: r =>
    if c = sep then some ([], r)
    else (splitFirst sep r).map fun p => (c :: p.1, p.2)

/-- Texts one after the other with a separator between them. -/
def joinWith (sep : String) : List String → String
  | [] => ""
  | [s] => s
  | s :: r => s ++ sep ++ joinWith sep r

theorem splitAll_eq_splitOn (sep : Char) (s : List Char) : splitAll sep s = s.splitOn sep := by
  induction s with
  | nil => rfl
  | cons c r ih =>
    rw [List.splitOn_cons_eq_if_modifyHead, splitAll, ih]
    by_cases h : c = sep
    · simp [h]
    · cases hpieces : r.splitOn sep with
      | nil => exact absurd hpieces (List.splitOn_ne_nil sep r)
      | cons piece pieces => simp [h]

/-- The pieces joined again are the text. -/
theorem intercalate_splitAll (sep : Char) (s : List Char) :
    List.intercalate [sep] (splitAll sep s) = s := by
  rw [splitAll_eq_splitOn, List.intercalate_splitOn]

/-- Pieces without the character, joined by it, are found again. -/
theorem splitAll_intercalate {sep : Char} {pieces : List (List Char)} (hne : pieces ≠ [])
    (h : ∀ piece ∈ pieces, sep ∉ piece) :
    splitAll sep (List.intercalate [sep] pieces) = pieces := by
  rw [splitAll_eq_splitOn, List.splitOn_intercalate sep h hne]

theorem splitAll_ne_nil (sep : Char) (s : List Char) : splitAll sep s ≠ [] := by
  rw [splitAll_eq_splitOn]
  exact List.splitOn_ne_nil sep s

/-- A text that is cut at one occurrence has the pieces of both parts. -/
theorem splitAll_append_cons (sep : Char) (a b : List Char) :
    splitAll sep (a ++ sep :: b) = splitAll sep a ++ splitAll sep b := by
  simp only [splitAll_eq_splitOn, List.splitOn_append_cons_self]

theorem splitAll_of_not_mem {sep : Char} {s : List Char} (h : sep ∉ s) : splitAll sep s = [s] := by
  rw [splitAll_eq_splitOn, List.splitOn_eq_singleton h]

/-- Texts after a first one, each with its separator before it. -/
theorem joinWith_cons_append (sep s : String) (l m : List String) :
    joinWith sep (s :: (l ++ m)) = joinWith sep (s :: l) ++ joinWith sep ("" :: m) := by
  induction l generalizing s with
  | nil => cases m <;> simp [joinWith, String.append_assoc]
  | cons t l ih => simp only [List.cons_append, joinWith, ih, String.append_assoc]

/-- The same for one text. -/
theorem joinWith_blank_cons (sep s : String) (l : List String) :
    joinWith sep ("" :: s :: l) = sep ++ s ++ joinWith sep ("" :: l) := by
  calc joinWith sep ("" :: s :: l)
      = sep ++ joinWith sep (s :: ([] ++ l)) := by simp [joinWith]
    _ = sep ++ s ++ joinWith sep ("" :: l) := by
        rw [joinWith_cons_append, joinWith, String.append_assoc]

theorem toList_joinWith (sep : String) (pieces : List String) :
    (joinWith sep pieces).toList = List.intercalate sep.toList (pieces.map String.toList) := by
  induction pieces with
  | nil => rfl
  | cons s r ih =>
    cases r with
    | nil => simp [joinWith]
    | cons t r =>
      rw [joinWith, String.toList_append, String.toList_append, ih, List.map_cons, List.map_cons,
        List.map_cons, List.intercalate_cons_cons]
      simp

/-- Texts without the character, joined by it, are found again. -/
theorem splitAll_joinWith {sep : Char} {pieces : List String} (hne : pieces ≠ [])
    (h : ∀ piece ∈ pieces, sep ∉ piece.toList) :
    splitAll sep (joinWith (String.singleton sep) pieces).toList = pieces.map String.toList := by
  rw [toList_joinWith, String.toList_singleton]
  refine splitAll_intercalate (by simpa using hne) fun piece hpiece => ?_
  obtain ⟨s, hs, rfl⟩ := List.mem_map.mp hpiece
  exact h s hs

theorem not_mem_of_mem_splitAll {sep : Char} {s piece : List Char} (h : piece ∈ splitAll sep s) :
    sep ∉ piece := by
  induction s generalizing piece with
  | nil => simp_all [splitAll]
  | cons c r ih =>
    simp only [splitAll] at h
    by_cases hc : c = sep
    · simp only [hc, if_true, List.mem_cons] at h
      rcases h with rfl | h
      · exact List.not_mem_nil
      · exact ih h
    · rw [if_neg hc] at h
      cases hpieces : splitAll sep r with
      | nil => simp_all [Ne.symm hc]
      | cons first rest =>
        rw [hpieces] at h ih
        rcases List.mem_cons.mp h with rfl | h
        · simpa [Ne.symm hc] using ih List.mem_cons_self
        · exact ih (List.mem_cons_of_mem first h)

/-- Cutting at the first occurrence: what stands before it is free of the character. -/
theorem splitFirst_eq_some_iff {sep : Char} {s a b : List Char} :
    splitFirst sep s = some (a, b) ↔ sep ∉ a ∧ s = a ++ sep :: b := by
  induction s generalizing a with
  | nil => simp [splitFirst]
  | cons c r ih =>
    by_cases hc : c = sep
    · cases a <;> simp_all [splitFirst]
    · cases a with
      | nil => simp [splitFirst, hc]
      | cons x a =>
        have hcut : splitFirst sep (c :: r) = some (x :: a, b) ↔
            splitFirst sep r = some (a, b) ∧ c = x := by
          simp [splitFirst, hc]
        rw [hcut, ih, List.cons_append, List.cons.injEq, List.mem_cons, not_or]
        constructor
        · rintro ⟨⟨ha, hr⟩, rfl⟩
          exact ⟨⟨Ne.symm hc, ha⟩, rfl, hr⟩
        · rintro ⟨⟨-, ha⟩, rfl, hr⟩
          exact ⟨⟨ha, hr⟩, rfl⟩

end CallChain.Text
