import Scribe.Text.Blank

/-!
# Lines and their ends

`lines` forgets how each line of a text was ended, and `unlines` ends every line by a line feed.
Together they leave a text as it is, but for the carriage returns before its line feeds
(`dropReturns`) and for the end of a last line that has none.
-/

namespace Scribe.Text

/-! ## Carriage returns before line feeds -/

/-- A text without the carriage returns that stand directly before a line feed. -/
def dropReturns : List Char → List Char
  | [] => []
  | c :: s => if c = '\r' ∧ s.head? = some '\n' then dropReturns s else c :: dropReturns s

@[simp] theorem dropReturns_nil : dropReturns [] = [] := rfl

theorem dropReturns_cons_cons (c d : Char) (s : List Char) :
    dropReturns (c :: d :: s) =
      if c = '\r' ∧ d = '\n' then dropReturns (d :: s) else c :: dropReturns (d :: s) := by
  simp [dropReturns]

theorem dropReturns_cons_of_ne {c : Char} (h : c ≠ '\r') (s : List Char) :
    dropReturns (c :: s) = c :: dropReturns s := by
  simp [dropReturns, h]

/-- The two parts of a text can be taken apart unless a line end is cut in two. -/
theorem dropReturns_append {a b : List Char}
    (h : a.getLast? ≠ some '\r' ∨ b.head? ≠ some '\n') :
    dropReturns (a ++ b) = dropReturns a ++ dropReturns b := by
  induction a with
  | nil => rfl
  | cons c a ih =>
    cases a with
    | nil =>
      have hc : ¬ (c = '\r' ∧ b.head? = some '\n') := by
        rintro ⟨rfl, hb⟩
        rcases h with h | h
        · exact h rfl
        · exact h hb
      simp [dropReturns, hc]
    | cons d a =>
      have ih := ih (by simpa using h)
      rw [List.cons_append] at ih
      by_cases hcd : c = '\r' ∧ d = '\n'
      · simpa [dropReturns_cons_cons, hcd] using ih
      · simp [dropReturns_cons_cons, hcd, ih]

theorem dropReturns_sublist (s : List Char) : (dropReturns s).Sublist s := by
  induction s with
  | nil => exact List.Sublist.refl _
  | cons c s ih =>
    rw [dropReturns]
    split
    · exact ih.cons c
    · exact ih.cons_cons c

theorem dropReturns_eq_self_of_no_return {s : List Char} (h : '\r' ∉ s) : dropReturns s = s := by
  induction s with
  | nil => rfl
  | cons c s ih =>
    rw [List.mem_cons, not_or] at h
    rw [dropReturns_cons_of_ne (fun hc => h.1 hc.symm), ih h.2]

theorem dropReturns_eq_self_of_no_newline {s : List Char} (h : '\n' ∉ s) : dropReturns s = s := by
  induction s with
  | nil => rfl
  | cons c s ih =>
    rw [List.mem_cons, not_or] at h
    have hs : s.head? ≠ some '\n' := by
      intro hs
      exact h.2 (List.mem_of_mem_head? hs)
    simp [dropReturns, hs, ih h.2]

@[simp] theorem newlines_dropReturns (s : List Char) : newlines (dropReturns s) = newlines s := by
  induction s with
  | nil => rfl
  | cons c s ih =>
    rw [dropReturns]
    split
    · rename_i hc
      rw [ih]
      simp [newlines, hc.1]
    · simp only [newlines, List.count_cons] at ih ⊢
      rw [ih]

/-- The end of a line takes at most one carriage return along. -/
theorem dropReturns_newline {s : List Char} (h : '\n' ∉ s) :
    dropReturns (s ++ ['\n']) = dropReturn s ++ ['\n'] := by
  rcases List.eq_nil_or_concat s with rfl | ⟨s, c, rfl⟩
  · rfl
  rw [List.concat_eq_append] at h ⊢
  have hs : '\n' ∉ s := by
    intro hs
    exact h (by simp [hs])
  have hc : c ≠ '\n' := by
    intro hc
    exact h (by simp [hc])
  have hcut : dropReturns (s ++ (c :: ['\n'])) = dropReturns s ++ dropReturns (c :: ['\n']) :=
    dropReturns_append (.inr (by simpa using hc))
  rw [List.append_assoc, List.singleton_append, hcut, dropReturns_eq_self_of_no_newline hs]
  by_cases hr : c = '\r'
  · simp [dropReturns, dropReturn, hr]
  · simp [dropReturns, dropReturn, hr]

/-- Nothing goes where no line ends in a carriage return and a line feed. -/
theorem dropReturns_eq_self_of_no_pair {s : List Char} (h : ¬ ['\r', '\n'] <:+: s) :
    dropReturns s = s := by
  induction s with
  | nil => rfl
  | cons c s ih =>
    have hrest : ¬ ['\r', '\n'] <:+: s := by
      intro hs
      exact h (List.infix_cons hs)
    rw [dropReturns, if_neg, ih hrest]
    rintro ⟨rfl, hnext⟩
    obtain ⟨more, rfl⟩ := List.head?_eq_some_iff.1 hnext
    exact h ⟨[], more, rfl⟩

theorem filter_dropReturns (s : List Char) :
    (dropReturns s).filter (!isBlank ·) = s.filter (!isBlank ·) := by
  induction s with
  | nil => rfl
  | cons c s ih =>
    rw [dropReturns]
    split
    · rename_i h
      rw [ih, List.filter_cons_of_neg (by simp [h.1])]
    · rw [List.filter_cons, List.filter_cons, ih]

/-- Every carriage return of a text stands directly before a line feed. -/
def ReturnsEndLines (s : List Char) : Prop :=
  ∀ a b, s = a ++ '\r' :: b → b.head? = some '\n'

theorem ReturnsEndLines.tail {c : Char} {s : List Char} (h : ReturnsEndLines (c :: s)) :
    ReturnsEndLines s :=
  fun a b hs => h (c :: a) b (by rw [hs, List.cons_append])

theorem ReturnsEndLines.no_return {s : List Char} (h : ReturnsEndLines s) :
    '\r' ∉ dropReturns s := by
  induction s with
  | nil => simp
  | cons c s ih =>
    rw [dropReturns]
    split
    · exact ih h.tail
    · rename_i hc
      have hne : c ≠ '\r' := by
        intro hr
        exact hc ⟨hr, h [] s (by rw [hr, List.nil_append])⟩
      rw [List.mem_cons, not_or]
      exact ⟨fun hr => hne hr.symm, ih h.tail⟩

theorem returnsEndLines_iff {s : List Char} : ReturnsEndLines s ↔ '\r' ∉ dropReturns s := by
  constructor
  · exact ReturnsEndLines.no_return
  · intro h a b hs
    apply Decidable.byContradiction
    intro hb
    have happ : dropReturns s = dropReturns a ++ dropReturns ('\r' :: b) := by
      rw [hs]
      exact dropReturns_append (.inr (by simp))
    rw [happ, dropReturns, if_neg fun hr => hb hr.2] at h
    exact h (List.mem_append_right _ List.mem_cons_self)

instance (s : List Char) : Decidable (ReturnsEndLines s) :=
  decidable_of_iff _ returnsEndLines_iff.symm

/-! ## Reading a text line by line -/

/-- Lines with a text before the first of them. -/
def joinFirst (a : List Char) : List (List Char) → List (List Char)
  | [] => [a]
  | line :: rest => (a ++ line) :: rest

theorem joinFirst_append (a b : List Char) (ls : List (List Char)) :
    joinFirst (a ++ b) ls = joinFirst a (joinFirst b ls) := by
  cases ls <;> simp [joinFirst]

/-- What is read of a line before the rest of a text only comes before the first line of the
rest, unless a line end is cut in two. -/
theorem lines_go {line s : List Char} (hne : line ≠ [])
    (h : line.head? ≠ some '\r' ∨ s.head? ≠ some '\n') :
    lines.go line s = joinFirst line.reverse (lines.go [] s) := by
  induction s generalizing line with
  | nil => simp [lines.go, joinFirst, hne]
  | cons c s ih =>
    by_cases hc : c = '\n'
    · subst hc
      have hr : line.head? ≠ some '\r' := by simpa using h
      simp [lines.go, joinFirst, dropReturn, hr]
    have hgo : ∀ l, lines.go l (c :: s) = lines.go (c :: l) s := by
      intro l
      rw [lines.go]
      exact hc
    rw [hgo, hgo]
    by_cases hend : c = '\r' ∧ s.head? = some '\n'
    · obtain ⟨rfl, hs⟩ := hend
      cases s with
      | nil => simp at hs
      | cons d s =>
        obtain rfl : d = '\n' := by simpa using hs
        simp [lines.go, joinFirst, dropReturn]
    · have hend' : some c ≠ some '\r' ∨ s.head? ≠ some '\n' := by
        rw [ne_eq, Option.some.injEq]
        by_cases hr : c = '\r'
        · exact .inr fun hs => hend ⟨hr, hs⟩
        · exact .inl hr
      have hl := @ih (c :: line) (by simp) hend'
      have hc := @ih [c] (by simp) hend'
      rw [hl, hc, List.reverse_cons, joinFirst_append]
      rfl

/-- `lines` by recursion on the text: a carriage return before a line feed counts for nothing, a
line feed ends a line, and any other character begins the line that follows it. -/
theorem lines_cons (c : Char) (s : List Char) :
    lines (c :: s) =
      if c = '\r' ∧ s.head? = some '\n' then lines s
      else if c = '\n' then [] :: lines s
      else joinFirst [c] (lines s) := by
  by_cases hc : c = '\n'
  · subst hc
    simp [lines, lines.go]
  have hgo : lines (c :: s) = lines.go [c] s := by
    rw [lines, lines.go]
    exact hc
  by_cases hend : c = '\r' ∧ s.head? = some '\n'
  · rw [if_pos hend, hgo]
    obtain ⟨rfl, hs⟩ := hend
    obtain ⟨d, t, rfl⟩ := List.exists_cons_of_ne_nil (l := s) (by rintro rfl; simp at hs)
    obtain rfl : d = '\n' := by simpa using hs
    simp [lines, lines.go, dropReturn]
  · have hcut : [c].head? ≠ some '\r' ∨ s.head? ≠ some '\n' := by
      rw [List.head?_cons, ne_eq, Option.some.injEq]
      exact Decidable.not_and_iff_or_not.1 hend
    rw [if_neg hend, if_neg hc, hgo, lines_go (by simp) hcut]
    rfl

theorem lines_eq_nil_iff {s : List Char} : lines s = [] ↔ s = [] := by
  induction s with
  | nil => simp
  | cons c s ih =>
    rw [lines_cons]
    split
    · rename_i hc
      rw [ih]
      constructor
      · rintro rfl
        simp at hc
      · simp
    split
    · simp
    · cases lines s <;> simp [joinFirst]

/-- A line feed separates what is read before it from what is read after it. -/
theorem lines_append_newline (a b : List Char) :
    lines (a ++ '\n' :: b) = lines (a ++ ['\n']) ++ lines b := by
  have hgo : ∀ line, lines.go line (a ++ '\n' :: b) = lines.go line (a ++ ['\n']) ++ lines b := by
    induction a with
    | nil =>
      intro line
      simp [lines.go, lines]
    | cons c a ih =>
      intro line
      by_cases hc : c = '\n'
      · subst hc
        simp [lines.go, ih]
      · rw [List.cons_append, List.cons_append, lines.go, lines.go, ih]
        · exact hc
        · exact hc
  exact hgo []

theorem length_lines_newline (s : List Char) :
    (lines (s ++ ['\n'])).length = newlines s + 1 := by
  have hgo : ∀ line, (lines.go line (s ++ ['\n'])).length = newlines s + 1 := by
    induction s with
    | nil =>
      intro line
      simp [lines.go]
    | cons c s ih =>
      intro line
      by_cases hc : c = '\n'
      · subst hc
        simp [lines.go, ih, newlines]
      · rw [List.cons_append, lines.go, ih]
        · simp [newlines, hc]
        · exact hc
  exact hgo []

theorem length_lines_le (s : List Char) : (lines s).length ≤ newlines s + 1 := by
  induction s with
  | nil => simp
  | cons c s ih =>
    have hcount : newlines s ≤ newlines (c :: s) := by simp [newlines, List.count_cons]
    rw [lines_cons]
    split
    · omega
    split
    · rename_i hc
      simpa [newlines, hc] using ih
    · cases hl : lines s with
      | nil => simp [joinFirst]
      | cons line rest =>
        rw [hl] at ih
        simp only [joinFirst, List.length_cons] at ih ⊢
        omega

/-! ## Writing the lines of a text -/

theorem unlines_joinFirst (a : List Char) {ls : List (List Char)} (h : ls ≠ []) :
    unlines (joinFirst a ls) = a ++ unlines ls := by
  cases ls with
  | nil => exact absurd rfl h
  | cons line rest => simp [joinFirst]

/-- A text that does not begin with the end of a line begins with a line. -/
theorem exists_lines_cons {c : Char} (hr : c ≠ '\r') (hn : c ≠ '\n') (s : List Char) :
    ∃ line rest, lines (c :: s) = (c :: line) :: rest := by
  rw [lines_cons, if_neg fun h => hr h.1, if_neg hn]
  cases lines s with
  | nil => exact ⟨[], [], rfl⟩
  | cons line rest => exact ⟨line, rest, rfl⟩

/-- What a last line lacks to be ended. -/
def missingEnd (s : List Char) : List Char :=
  match s.getLast? with
  | none => []
  | some c => if c = '\n' then [] else ['\n']

theorem missingEnd_cons {s : List Char} (c : Char) (h : s ≠ []) :
    missingEnd (c :: s) = missingEnd s := by
  obtain ⟨d, t, rfl⟩ := List.exists_cons_of_ne_nil h
  simp [missingEnd, List.getLast?_cons_cons]

@[simp] theorem missingEnd_newline (s : List Char) : missingEnd (s ++ ['\n']) = [] := by
  simp [missingEnd]

/-- **Reading and writing lines** changes the ends of lines and nothing else. -/
theorem unlines_lines (s : List Char) : unlines (lines s) = dropReturns s ++ missingEnd s := by
  induction s with
  | nil => rfl
  | cons c s ih =>
    rw [lines_cons, dropReturns]
    by_cases hend : c = '\r' ∧ s.head? = some '\n'
    · have hs : s ≠ [] := by
        rintro rfl
        simp at hend
      rw [if_pos hend, if_pos hend, ih, missingEnd_cons c hs]
    rw [if_neg hend, if_neg hend]
    cases s with
    | nil => by_cases hc : c = '\n' <;> simp [hc, joinFirst, missingEnd]
    | cons d s =>
      rw [missingEnd_cons c (by simp)]
      by_cases hc : c = '\n'
      · rw [if_pos hc, unlines_cons, ih, hc]
        rfl
      · have hne : lines (d :: s) ≠ [] := by
          intro h
          simpa using lines_eq_nil_iff.1 h
        rw [if_neg hc, unlines_joinFirst _ hne, ih]
        rfl

/-- Characters before the first line end, when a line is begun after them, are the beginning of
the first line. -/
theorem lines_append {g s : List Char} (hg : '\n' ∉ g) (hne : g ++ s ≠ [])
    (hs : s.head? ≠ some '\n') : lines (g ++ s) = joinFirst g (lines s) := by
  induction g with
  | nil =>
    obtain ⟨line, rest, hl⟩ := List.exists_cons_of_ne_nil (mt lines_eq_nil_iff.1 hne)
    rw [List.nil_append] at hl ⊢
    rw [hl]
    rfl
  | cons c g ih =>
    rw [List.mem_cons, not_or] at hg
    have hhead : (g ++ s).head? ≠ some '\n' := by
      cases g with
      | nil => exact hs
      | cons d g =>
        intro hd
        exact hg.2 (by simp [show d = '\n' by simpa using hd])
    rw [List.cons_append, lines_cons, if_neg (fun h => hhead h.2), if_neg (fun h => hg.1 h.symm)]
    by_cases hgs : g ++ s = []
    · obtain ⟨rfl, rfl⟩ := List.append_eq_nil_iff.1 hgs
      rfl
    · rw [ih hg.2 hgs, ← joinFirst_append]
      rfl

/-- A text without line feeds is one line. -/
theorem lines_of_no_newline {s : List Char} (h : '\n' ∉ s) (hne : s ≠ []) : lines s = [s] := by
  simpa [joinFirst] using lines_append (s := []) h (by simpa using hne) (by simp)

theorem lines_newline_of_no_newline {s : List Char} (h : '\n' ∉ s) :
    lines (s ++ ['\n']) = [dropReturn s] := by
  have hgo : ∀ line, lines.go line (s ++ ['\n']) = [dropReturn (line.reverse ++ s)] := by
    induction s with
    | nil =>
      intro line
      simp [lines.go]
    | cons c s ih =>
      intro line
      rw [List.mem_cons, not_or] at h
      rw [List.cons_append, lines.go, ih h.2]
      · simp
      · exact fun hc => h.1 hc.symm
  exact hgo []

/-- Lines that hold no part of a line end are read back as they were written. -/
theorem lines_unlines {ls : List (List Char)} (hn : ∀ line ∈ ls, '\n' ∉ line)
    (hr : ∀ line ∈ ls, '\r' ∉ line) : lines (unlines ls) = ls := by
  induction ls with
  | nil => rfl
  | cons line ls ih =>
    obtain ⟨hnl, hn⟩ := List.forall_mem_cons.1 hn
    obtain ⟨hrl, hr⟩ := List.forall_mem_cons.1 hr
    have hself : dropReturn line = line := if_neg fun hlast => hrl (List.mem_of_getLast? hlast)
    rw [unlines_cons, lines_append_newline, lines_newline_of_no_newline hnl, hself, ih hn hr,
      List.singleton_append]

theorem no_newline_lines {s line : List Char} (h : line ∈ lines s) : '\n' ∉ line := by
  induction s generalizing line with
  | nil => simp at h
  | cons c s ih =>
    rw [lines_cons] at h
    split at h
    · exact ih h
    split at h
    · rcases List.mem_cons.1 h with rfl | h
      · simp
      · exact ih h
    rename_i hc
    have hfirst : ∀ first, '\n' ∉ first → '\n' ∉ c :: first := by
      intro first hfirst hmem
      rcases List.mem_cons.1 hmem with hmem | hmem
      · exact hc hmem.symm
      · exact hfirst hmem
    cases hs : lines s with
    | nil =>
      rw [hs, joinFirst, List.mem_singleton] at h
      rw [h]
      exact hfirst [] (by simp)
    | cons first rest =>
      rw [hs] at h ih
      rcases List.mem_cons.1 h with rfl | h
      · exact hfirst first (ih List.mem_cons_self)
      · exact ih (List.mem_cons_of_mem first h)

theorem getLast?_unlines {ls : List (List Char)} (h : ls ≠ []) :
    (unlines ls).getLast? = some '\n' := by
  rcases List.eq_nil_or_concat ls with rfl | ⟨init, last, rfl⟩
  · exact absurd rfl h
  · rw [List.concat_eq_append, unlines_append, unlines_cons, unlines_nil, ← List.append_assoc,
      List.getLast?_concat]

/-- Lines the last of which is not empty make up a text that does not end in an empty line. -/
theorem not_suffix_unlines {ls : List (List Char)} (hn : ∀ line ∈ ls, '\n' ∉ line)
    (hlast : ls.getLast? ≠ some []) : ¬ ['\n', '\n'] <:+ unlines ls := by
  rcases List.eq_nil_or_concat ls with rfl | ⟨init, last, rfl⟩
  · simp
  rw [List.concat_eq_append] at hn hlast ⊢
  have hne : last ≠ [] := by simpa using hlast
  rintro ⟨front, hfront⟩
  have hcut : (front ++ ['\n']) ++ ['\n'] = (unlines init ++ last) ++ ['\n'] := by
    simpa using hfront
  have hend := congrArg List.getLast? (List.append_cancel_right hcut)
  rw [List.getLast?_concat, List.getLast?_append, List.getLast?_eq_some_getLast hne] at hend
  have hmem : '\n' ∈ last := by
    rw [Option.some.inj hend]
    exact List.getLast_mem hne
  exact hn last (by simp) hmem

end Scribe.Text
