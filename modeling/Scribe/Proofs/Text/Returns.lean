import Scribe.Proofs.Text.Lines

/-!
# Line ends of two kinds

A text whose lines end in a carriage return and a line feed, beside the text without its carriage
returns.  Where carriage returns stand at line ends only, taking them away commutes with what is
done to texts here: a scan that stops at one would have stopped at the line feed after it.
-/

namespace Scribe.Text

/-! ## Taking carriage returns away -/

/-- A text without its carriage returns. -/
def withoutReturns (s : List Char) : List Char := s.filter (· ≠ '\r')

@[simp] theorem withoutReturns_nil : withoutReturns [] = [] := rfl

@[simp] theorem withoutReturns_return (s : List Char) :
    withoutReturns ('\r' :: s) = withoutReturns s := rfl

theorem withoutReturns_cons {c : Char} (h : c ≠ '\r') (s : List Char) :
    withoutReturns (c :: s) = c :: withoutReturns s :=
  List.filter_cons_of_pos (by simpa using h)

@[simp] theorem withoutReturns_append (s t : List Char) :
    withoutReturns (s ++ t) = withoutReturns s ++ withoutReturns t :=
  List.filter_append s t

theorem no_return_withoutReturns (s : List Char) : '\r' ∉ withoutReturns s := by
  simp [withoutReturns]

theorem withoutReturns_eq_self {s : List Char} (h : '\r' ∉ s) : withoutReturns s = s := by
  apply List.filter_eq_self.2
  intro c hc
  have hne : c ≠ '\r' := by
    rintro rfl
    exact h hc
  simpa using hne

@[simp] theorem newlines_withoutReturns (s : List Char) :
    newlines (withoutReturns s) = newlines s :=
  List.count_filter (by simp)

/-! ## What is cut off the ends of a text -/

section
variable {p : Char → Bool} (hp : p '\r' = true)
include hp

theorem takeWhile_withoutReturns (s : List Char) :
    (withoutReturns s).takeWhile p = withoutReturns (s.takeWhile p) := by
  induction s with
  | nil => rfl
  | cons c s ih =>
    by_cases hr : c = '\r'
    · subst hr
      rw [List.takeWhile_cons_of_pos hp, withoutReturns_return, withoutReturns_return, ih]
    rw [withoutReturns_cons hr]
    by_cases hc : p c
    · rw [List.takeWhile_cons_of_pos hc, List.takeWhile_cons_of_pos hc, withoutReturns_cons hr, ih]
    · rw [List.takeWhile_cons_of_neg hc, List.takeWhile_cons_of_neg hc, withoutReturns_nil]

theorem dropWhile_withoutReturns (s : List Char) :
    (withoutReturns s).dropWhile p = withoutReturns (s.dropWhile p) := by
  induction s with
  | nil => rfl
  | cons c s ih =>
    by_cases hr : c = '\r'
    · subst hr
      rw [List.dropWhile_cons_of_pos hp, withoutReturns_return, ih]
    by_cases hc : p c
    · rw [withoutReturns_cons hr, List.dropWhile_cons_of_pos hc, List.dropWhile_cons_of_pos hc, ih]
    · rw [List.dropWhile_cons_of_neg hc, withoutReturns_cons hr, List.dropWhile_cons_of_neg hc]

end

theorem trim_withoutReturns (s : List Char) :
    trim (withoutReturns s) = withoutReturns (trim s) := by
  have hreverse : ∀ t : List Char, (withoutReturns t).reverse = withoutReturns t.reverse := by
    intro t
    exact List.filter_reverse.symm
  rw [trim, trimEnd, trimStart, dropWhile_withoutReturns isBlank_return, hreverse,
    dropWhile_withoutReturns isBlank_return, hreverse]
  rfl

theorem withoutReturns_dropReturn (s : List Char) :
    withoutReturns (dropReturn s) = withoutReturns s := by
  rw [dropReturn]
  split
  · rename_i h
    obtain ⟨t, rfl⟩ := List.getLast?_eq_some_iff.1 h
    simp
  · rfl

theorem dropReturn_eq_self {s : List Char} (h : '\r' ∉ s) : dropReturn s = s := by
  refine if_neg ?_
  intro hlast
  exact h (List.mem_of_getLast? hlast)

/-! ## Where carriage returns stand at line ends only -/

theorem returnsEndLines_cons {c : Char} {s : List Char} :
    ReturnsEndLines (c :: s) ↔ (c = '\r' → s.head? = some '\n') ∧ ReturnsEndLines s := by
  constructor
  · intro h
    refine ⟨?_, h.tail⟩
    rintro rfl
    exact h [] s rfl
  · rintro ⟨hc, hs⟩ a b heq
    cases a with
    | nil =>
      obtain ⟨rfl, rfl⟩ := List.cons.inj heq
      exact hc rfl
    | cons d a => exact hs a b (List.cons.inj heq).2

theorem ReturnsEndLines.suffix {s t : List Char} (h : ReturnsEndLines (s ++ t)) :
    ReturnsEndLines t := by
  intro a b ht
  exact h (s ++ a) b (by rw [ht, List.append_assoc])

/-- The next character is the same, unless a line ends there. -/
theorem ReturnsEndLines.head?_iff {s : List Char} (h : ReturnsEndLines s) {c : Char}
    (hr : c ≠ '\r') (hn : c ≠ '\n') :
    (withoutReturns s).head? = some c ↔ s.head? = some c := by
  cases s with
  | nil => rfl
  | cons d s =>
    by_cases hd : d = '\r'
    · subst hd
      obtain ⟨more, rfl⟩ := List.head?_eq_some_iff.1 ((returnsEndLines_cons.1 h).1 rfl)
      rw [withoutReturns_return, withoutReturns_cons (by decide)]
      simp [hr.symm, hn.symm]
    · rw [withoutReturns_cons hd]
      rfl

/-- A scan that stops at line ends stops at the same place. -/
theorem ReturnsEndLines.span {s : List Char} (h : ReturnsEndLines s) {p : Char → Bool}
    (hr : p '\r' = false) (hn : p '\n' = false) :
    (withoutReturns s).takeWhile p = withoutReturns (s.takeWhile p) ∧
      (withoutReturns s).dropWhile p = withoutReturns (s.dropWhile p) := by
  induction s with
  | nil => exact ⟨rfl, rfl⟩
  | cons c s ih =>
    obtain ⟨hend, hs⟩ := returnsEndLines_cons.1 h
    by_cases hc : c = '\r'
    · subst hc
      obtain ⟨more, rfl⟩ := List.head?_eq_some_iff.1 (hend rfl)
      simp [withoutReturns_cons, hr, hn]
    rw [withoutReturns_cons hc]
    cases hpc : p c with
    | true =>
      obtain ⟨htake, hdrop⟩ := ih hs
      simp [hpc, withoutReturns_cons hc, htake, hdrop]
    | false => simp [hpc, withoutReturns_cons hc]

theorem lines_withoutReturns {s : List Char} (h : ReturnsEndLines s) :
    lines (withoutReturns s) = lines s := by
  induction s with
  | nil => rfl
  | cons c s ih =>
    obtain ⟨hend, hs⟩ := returnsEndLines_cons.1 h
    by_cases hc : c = '\r'
    · rw [lines_cons, if_pos ⟨hc, hend hc⟩, hc, withoutReturns_return, ih hs]
    · have hcut : ∀ t : List Char, ¬ (c = '\r' ∧ t.head? = some '\n') := by
        intro t ht
        exact hc ht.1
      rw [withoutReturns_cons hc, lines_cons, lines_cons, if_neg (hcut _), if_neg (hcut _), ih hs]

/-- Within a line a carriage return can only be the last character. -/
theorem ReturnsEndLines.no_return_dropReturn {s t : List Char} (h : ReturnsEndLines s)
    (ht : t <:+: s) (hn : '\n' ∉ t) : '\r' ∉ dropReturn t := by
  obtain ⟨before, after, rfl⟩ := ht
  rcases List.eq_nil_or_concat t with rfl | ⟨init, c, rfl⟩
  · simp
  rw [List.concat_eq_append] at h hn ⊢
  have hinit : '\r' ∉ init := by
    intro hmem
    obtain ⟨a, b, rfl⟩ := List.append_of_mem hmem
    have hend := h (before ++ a) (b ++ (c :: after)) (by simp)
    cases b with
    | nil =>
      obtain rfl : c = '\n' := by simpa using hend
      simp at hn
    | cons d b =>
      obtain rfl : d = '\n' := by simpa using hend
      simp at hn
  by_cases hc : c = '\r'
  · simpa [dropReturn, hc] using hinit
  · simp [dropReturn, hc, hinit, Ne.symm hc]

/-! ## Putting carriage returns in -/

/-- A text with a carriage return put before each of its line feeds. -/
def withReturns (s : List Char) : List Char :=
  s.flatMap fun c => if c = '\n' then ['\r', '\n'] else [c]

@[simp] theorem withReturns_nil : withReturns [] = [] := rfl

theorem withReturns_newline (s : List Char) :
    withReturns ('\n' :: s) = '\r' :: '\n' :: withReturns s := rfl

theorem withReturns_cons {c : Char} (h : c ≠ '\n') (s : List Char) :
    withReturns (c :: s) = c :: withReturns s := by
  simp [withReturns, h]

theorem returnsEndLines_withReturns {s : List Char} (h : '\r' ∉ s) :
    ReturnsEndLines (withReturns s) := by
  induction s with
  | nil => simp [returnsEndLines_iff]
  | cons c s ih =>
    rw [List.mem_cons, not_or] at h
    by_cases hc : c = '\n'
    · rw [hc, withReturns_newline]
      simpa [returnsEndLines_cons] using ih h.2
    · rw [withReturns_cons hc, returnsEndLines_cons]
      exact ⟨fun hr => absurd hr.symm h.1, ih h.2⟩

theorem withoutReturns_withReturns {s : List Char} (h : '\r' ∉ s) :
    withoutReturns (withReturns s) = s := by
  induction s with
  | nil => rfl
  | cons c s ih =>
    rw [List.mem_cons, not_or] at h
    by_cases hc : c = '\n'
    · rw [hc, withReturns_newline, withoutReturns_return, withoutReturns_cons (by decide), ih h.2]
    · rw [withReturns_cons hc, withoutReturns_cons fun hr => h.1 hr.symm, ih h.2]

end Scribe.Text
