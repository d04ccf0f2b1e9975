import Scribe.Document.Lines
import Scribe.Text.Blank

/-!
# The text of some lines

`joinLines` on characters: the lines with a line feed between any two of them.  Ending the last line
too gives the text that `unlines` gives.
-/

namespace Scribe.Document

open Scribe.Text

theorem toList_joinLines (ls : List String) :
    (joinLines ls).toList = ['\n'].intercalate (ls.map String.toList) := by
  induction ls with
  | nil => rfl
  | cons line rest ih =>
    cases rest with
    | nil => simp
    | cons next rest => simp [ih, List.intercalate_cons_cons]

theorem intercalate_append_cons {a b : List (List Char)} (ha : a ≠ []) (hb : b ≠ []) :
    ['\n'].intercalate (a ++ b) = ['\n'].intercalate a ++ '\n' :: ['\n'].intercalate b := by
  induction a with
  | nil => exact absurd rfl ha
  | cons line rest ih =>
    cases rest with
    | nil =>
      obtain ⟨next, more, rfl⟩ := List.exists_cons_of_ne_nil hb
      simp [List.intercalate_cons_cons]
    | cons next rest =>
      have ih := ih (by simp)
      rw [List.cons_append] at ih
      rw [List.cons_append, List.cons_append, List.intercalate_cons_cons, ih,
        List.intercalate_cons_cons]
      simp

theorem unlines_eq_intercalate {ls : List (List Char)} (h : ls ≠ []) :
    unlines ls = ['\n'].intercalate ls ++ ['\n'] := by
  induction ls with
  | nil => exact absurd rfl h
  | cons line rest ih =>
    cases rest with
    | nil => simp
    | cons next rest =>
      rw [unlines_cons, ih (by simp), List.intercalate_cons_cons]
      simp

end Scribe.Document
