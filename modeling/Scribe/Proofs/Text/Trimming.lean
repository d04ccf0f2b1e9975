import Mathlib.Data.List.TakeWhile
import Mathlib.Tactic.Conv
import Scribe.Text.Blank

/-!
# Trimming

What trimming takes from a text and what it leaves.  The ways in which blanks are cut off the end
of a text have one property in common, `CutsBlanks`, and most facts follow from it alone.
-/

namespace Scribe.Text

/-! ## Where a list is cut -/

section
variable {α : Type} {p : α → Bool} {l rest : List α} {a : α}

/-- What is dropped from a list stops before an element that is not dropped. -/
theorem eq_false_of_dropWhile (h : l.dropWhile p = a :: rest) : p a = false := by
  have hhead := List.head?_dropWhile_not p l
  rw [h] at hhead
  simpa using hhead

/-- What is dropped from the end of a list stops after an element that is not dropped. -/
theorem eq_false_of_dropWhile_reverse (h : (l.reverse.dropWhile p).reverse.getLast? = some a) :
    p a = false := by
  rw [List.getLast?_reverse] at h
  have hhead := List.head?_dropWhile_not p l.reverse
  rw [h] at hhead
  simpa using hhead

end

/-! ## Cutting blanks off the end -/

/-- `cut` takes blanks off the end of a text, and nothing else. -/
def CutsBlanks (cut : List Char → List Char) : Prop :=
  ∀ s, ∃ w, (∀ c ∈ w, isBlank c) ∧ s = cut s ++ w

theorem cutsBlanks_id : CutsBlanks id := fun s => ⟨[], by simp, by simp⟩

theorem cutsBlanks_dropReturn : CutsBlanks dropReturn := by
  intro s
  by_cases h : s.getLast? = some '\r'
  · obtain ⟨t, rfl⟩ := List.getLast?_eq_some_iff.1 h
    exact ⟨['\r'], by simp, by simp [dropReturn]⟩
  · exact ⟨[], by simp, by simp [dropReturn, h]⟩

theorem cutsBlanks_trimEnd : CutsBlanks trimEnd := by
  intro s
  refine ⟨(s.reverse.takeWhile isBlank).reverse, ?_, ?_⟩
  · intro c hc
    exact List.all_eq_true.1 (List.all_takeWhile (l := s.reverse)) c (List.mem_reverse.1 hc)
  · rw [trimEnd, ← List.reverse_append, List.takeWhile_append_dropWhile, List.reverse_reverse]

namespace CutsBlanks

variable {cut : List Char → List Char}

theorem nil (h : CutsBlanks cut) : cut [] = [] := by
  obtain ⟨w, -, hw⟩ := h []
  exact (List.append_eq_nil_iff.1 hw.symm).1

/-- What begins with a character that is not blank still does after the cut. -/
theorem cons (h : CutsBlanks cut) {c : Char} (hc : isBlank c = false) (s : List Char) :
    ∃ t w, cut (c :: s) = c :: t ∧ (∀ d ∈ w, isBlank d) ∧ s = t ++ w := by
  obtain ⟨w, hw, hs⟩ := h (c :: s)
  cases hcut : cut (c :: s) with
  | nil =>
    rw [hcut, List.nil_append] at hs
    exact absurd (hw c (hs ▸ List.mem_cons_self)) (by simp [hc])
  | cons d t =>
    rw [hcut, List.cons_append, List.cons.injEq] at hs
    exact ⟨t, w, by rw [hs.1], hw, hs.2⟩

theorem mem (h : CutsBlanks cut) {c : Char} {s : List Char} (hc : c ∈ cut s) : c ∈ s := by
  obtain ⟨w, -, hs⟩ := h s
  rw [hs]
  exact List.mem_append_left _ hc

/-- A text and what is left of it agree but for blanks. -/
theorem filter (h : CutsBlanks cut) (s : List Char) :
    (cut s).filter (!isBlank ·) = s.filter (!isBlank ·) := by
  obtain ⟨w, hw, hs⟩ := h s
  have hnil : w.filter (!isBlank ·) = [] := List.filter_eq_nil_iff.2 fun c hc => by simp [hw c hc]
  conv_rhs => rw [hs, List.filter_append, hnil, List.append_nil]

end CutsBlanks

/-! ## Trimming the end -/

theorem trimEnd_append_blanks (s : List Char) {w : List Char} (hw : ∀ c ∈ w, isBlank c) :
    trimEnd (s ++ w) = trimEnd s := by
  rw [trimEnd, List.reverse_append,
    List.dropWhile_append_of_pos fun c hc => hw c (List.mem_reverse.1 hc)]
  rfl

theorem trimEnd_eq_nil {w : List Char} (hw : ∀ c ∈ w, isBlank c) : trimEnd w = [] := by
  simpa using trimEnd_append_blanks [] hw

theorem trimEnd_append (s : List Char) {t : List Char} (ht : trimEnd t ≠ []) :
    trimEnd (s ++ t) = s ++ trimEnd t := by
  unfold trimEnd at ht ⊢
  rw [List.reverse_append, List.dropWhile_append]
  have hne : (t.reverse.dropWhile isBlank).isEmpty = false := by
    simpa using ht
  simp [hne]

theorem trimEnd_cons {c : Char} (hc : isBlank c = false) (s : List Char) :
    trimEnd (c :: s) = c :: trimEnd s := by
  by_cases hs : trimEnd s = []
  · obtain ⟨w, hw, hsw⟩ := cutsBlanks_trimEnd s
    rw [hs, List.nil_append] at hsw
    subst hsw
    rw [hs, ← List.singleton_append, trimEnd_append_blanks [c] hw]
    simp [trimEnd, hc]
  · exact trimEnd_append [c] hs

theorem trimEnd_eq_self {s : List Char} (h : ∀ c ∈ s.getLast?, isBlank c = false) :
    trimEnd s = s := by
  rcases List.eq_nil_or_concat s with rfl | ⟨s, c, rfl⟩
  · rfl
  · rw [List.concat_eq_append] at h ⊢
    have hc : isBlank c = false := h c (by simp)
    simp [trimEnd, hc]

@[simp] theorem trimEnd_trimEnd (s : List Char) : trimEnd (trimEnd s) = trimEnd s := by
  obtain ⟨w, hw, hs⟩ := cutsBlanks_trimEnd s
  conv_rhs => rw [hs, trimEnd_append_blanks _ hw]

/-! ## Trimming both ends -/

theorem mem_trim {s : List Char} {c : Char} (h : c ∈ trim s) : c ∈ s :=
  (List.dropWhile_sublist isBlank).mem (cutsBlanks_trimEnd.mem h)

theorem trim_append {g s : List Char} (hg : ∀ c ∈ g, isBlank c) : trim (g ++ s) = trim s := by
  rw [trim, trim, trimStart, trimStart, List.dropWhile_append_of_pos hg]

theorem trim_cons {c : Char} (hc : isBlank c = false) (s : List Char) :
    trim (c :: s) = c :: trimEnd s := by
  rw [trim, trimStart, List.dropWhile_cons_of_neg (by simp [hc]), trimEnd_cons hc]

theorem trim_eq_nil {s : List Char} (hs : ∀ c ∈ s, isBlank c) : trim s = [] := by
  simpa using trim_append (s := []) hs

theorem trim_dropReturn (s : List Char) : trim (dropReturn s) = trim s := by
  obtain ⟨w, hw, hs⟩ := cutsBlanks_dropReturn s
  by_cases hall : ∀ c ∈ dropReturn s, isBlank c
  · have hall' : ∀ c ∈ s, isBlank c := by
      intro c hc
      rw [hs] at hc
      rcases List.mem_append.1 hc with hc | hc
      · exact hall c hc
      · exact hw c hc
    rw [trim_eq_nil hall, trim_eq_nil hall']
  · have hne : ¬ (dropReturn s).dropWhile isBlank = [] := by
      rw [List.dropWhile_eq_nil_iff]
      exact hall
    conv_rhs => rw [hs]
    rw [trim, trim, trimStart, trimStart, List.dropWhile_append]
    simp only [List.isEmpty_iff, hne, if_false]
    rw [trimEnd_append_blanks _ hw]

/-! ## What trimming leaves -/

theorem exists_cons_of_trimStart {s : List Char} (h : trimStart s ≠ []) :
    ∃ c rest, trimStart s = c :: rest ∧ isBlank c = false := by
  obtain ⟨c, rest, hcons⟩ := List.exists_cons_of_ne_nil h
  exact ⟨c, rest, hcons, eq_false_of_dropWhile hcons⟩

theorem filter_trim (s : List Char) : (trim s).filter (!isBlank ·) = s.filter (!isBlank ·) := by
  rw [trim, cutsBlanks_trimEnd.filter, trimStart]
  conv_rhs => rw [← List.takeWhile_append_dropWhile (p := isBlank) (l := s), List.filter_append]
  have hnil : (s.takeWhile isBlank).filter (!isBlank ·) = [] :=
    List.filter_eq_nil_iff.2 fun c hc => by
      simp [List.all_eq_true.1 (List.all_takeWhile (l := s)) c hc]
  rw [hnil, List.nil_append]

end Scribe.Text
