import Scribe.Proofs.Text.Lines

/-!
# Separators behind a backslash

Two formats of the generated files put several values into one text with a separator between them,
and write a backslash before each separator that belongs to a value: the settings of a tag stand
between semicolons, the cells of a grid between bars.  A reader of such a text cuts it at every
separator that no backslash directly precedes (`parts`), and then takes the backslash before a
separator away (`dropEscapes`).

The escape is a weak one, since a backslash itself is written as it is.  What is read back of one
escaped value is that value (`dropEscapes_escape`), and it stays in one part whatever it contains
(`cutFrom_escape_append`); but a value that ends in a backslash hides the separator after it, and is
read as one value with the next.  `absorb` says what the reader makes of a list of values, and
`absorb_eq_self_iff` when that is the list itself.
-/

namespace Scribe.Text

/-! ## The reader -/

/-- A text cut at every separator that no backslash directly precedes; `escaped` says whether a
backslash stands directly before the text. -/
def cutFrom (sep : Char) (escaped : Bool) : List Char → List (List Char)
  | [] => [[]]
  | c :: s =>
    if c = sep && !escaped then [] :: cutFrom sep (c = '\\') s
    else joinFirst [c] (cutFrom sep (c = '\\') s)

/-- A text cut at every separator that no backslash directly precedes. -/
def parts (sep : Char) (s : List Char) : List (List Char) := cutFrom sep false s

/-- A text without the backslashes that stand directly before a separator. -/
def dropEscapes (sep : Char) : List Char → List Char
  | [] => []
  | c :: s => if c = '\\' ∧ s.head? = some sep then dropEscapes sep s else c :: dropEscapes sep s

theorem joinFirst_ne_nil (a : List Char) (ls : List (List Char)) : joinFirst a ls ≠ [] := by
  cases ls <;> simp [joinFirst]

theorem joinFirst_nil {ls : List (List Char)} (h : ls ≠ []) : joinFirst [] ls = ls := by
  cases ls with
  | nil => exact absurd rfl h
  | cons line rest => rfl

theorem cutFrom_ne_nil {sep : Char} (escaped : Bool) (s : List Char) :
    cutFrom sep escaped s ≠ [] := by
  cases s with
  | nil => simp [cutFrom]
  | cons c s =>
    rw [cutFrom]
    split
    · simp
    · exact joinFirst_ne_nil _ _

/-! ## The writer -/

/-- A text with a backslash before each separator. -/
def escape (sep : Char) (s : List Char) : List Char :=
  s.flatMap fun c => if c = sep then ['\\', sep] else [c]

variable {sep : Char}

@[simp] theorem escape_nil : escape sep [] = [] := rfl

@[simp] theorem escape_append (a b : List Char) :
    escape sep (a ++ b) = escape sep a ++ escape sep b := by
  simp [escape]

theorem escape_cons_self (s : List Char) : escape sep (sep :: s) = '\\' :: sep :: escape sep s := by
  simp [escape]

theorem escape_cons_of_ne {c : Char} (h : c ≠ sep) (s : List Char) :
    escape sep (c :: s) = c :: escape sep s := by
  simp [escape, h]

theorem escape_eq_self {s : List Char} (h : sep ∉ s) : escape sep s = s := by
  induction s with
  | nil => rfl
  | cons c s ih =>
    rw [List.mem_cons, not_or] at h
    rw [escape_cons_of_ne (Ne.symm h.1), ih h.2]

/-- An escaped text does not begin with a separator. -/
theorem head?_escape_append_ne (hsep : sep ≠ '\\') {t : List Char} (ht : t.head? ≠ some sep)
    (s : List Char) : (escape sep s ++ t).head? ≠ some sep := by
  cases s with
  | nil => exact ht
  | cons c s =>
    by_cases hc : c = sep
    · rw [hc, escape_cons_self]
      simpa using hsep.symm
    · rw [escape_cons_of_ne hc]
      simpa using hc

/-! ## One value -/

/-- What is read back of an escaped text before another one. -/
theorem dropEscapes_escape_append (hsep : sep ≠ '\\') {t : List Char} (ht : t.head? ≠ some sep)
    (s : List Char) : dropEscapes sep (escape sep s ++ t) = s ++ dropEscapes sep t := by
  induction s with
  | nil => rfl
  | cons c s ih =>
    by_cases hc : c = sep
    · rw [hc, escape_cons_self, List.cons_append, List.cons_append, dropEscapes,
        if_pos ⟨rfl, rfl⟩, dropEscapes, if_neg fun h => hsep h.1, ih, List.cons_append]
    · rw [escape_cons_of_ne hc, List.cons_append, dropEscapes,
        if_neg fun h => head?_escape_append_ne hsep ht s h.2, ih, List.cons_append]

theorem dropEscapes_escape (hsep : sep ≠ '\\') (s : List Char) :
    dropEscapes sep (escape sep s) = s := by
  have h := dropEscapes_escape_append hsep (t := []) (by simp) s
  rw [List.append_nil] at h
  rw [h]
  exact List.append_nil s

/-- Whether a backslash stands directly before what follows the text `s`, when `escaped` says it of
what follows the empty text. -/
def endsEscaped (escaped : Bool) (s : List Char) : Bool :=
  match s.getLast? with
  | none => escaped
  | some c => c = '\\'

theorem endsEscaped_cons (escaped : Bool) (c : Char) (s : List Char) :
    endsEscaped escaped (c :: s) = endsEscaped (c = '\\') s := by
  rw [endsEscaped, endsEscaped, List.getLast?_cons]
  cases s.getLast? <;> rfl

theorem endsEscaped_eq_true {s : List Char} :
    endsEscaped false s = true ↔ s.getLast? = some '\\' := by
  unfold endsEscaped
  cases s.getLast? <;> simp

/-- **An escaped text is never cut**: it all comes before the first part of what follows. -/
theorem cutFrom_escape_append (hsep : sep ≠ '\\') (escaped : Bool) (s t : List Char) :
    cutFrom sep escaped (escape sep s ++ t) =
      joinFirst (escape sep s) (cutFrom sep (endsEscaped escaped s) t) := by
  induction s generalizing escaped with
  | nil =>
    show cutFrom sep escaped t = joinFirst [] (cutFrom sep escaped t)
    rw [joinFirst_nil (cutFrom_ne_nil escaped t)]
  | cons c s ih =>
    rw [endsEscaped_cons]
    by_cases hc : c = sep
    · have hfirst : ('\\' = sep && !escaped) = false := by simp [hsep.symm]
      rw [hc, escape_cons_self, List.cons_append, List.cons_append, cutFrom, hfirst, cutFrom]
      simp only [Bool.false_eq_true, if_false, decide_true, Bool.not_true, Bool.and_false]
      rw [ih, ← joinFirst_append, ← joinFirst_append]
      rfl
    · have hcut : (c = sep && !escaped) = false := by simp [hc]
      rw [escape_cons_of_ne hc, List.cons_append, cutFrom, hcut, ih]
      simp only [Bool.false_eq_true, if_false]
      rw [← joinFirst_append]
      rfl

/-- An escaped text that does not end in a backslash is a part of its own. -/
theorem parts_escape_append (hsep : sep ≠ '\\') {s : List Char}
    (h : s.getLast? ≠ some '\\') (t : List Char) :
    parts sep (escape sep s ++ sep :: t) = escape sep s :: parts sep t := by
  have hend : endsEscaped false s = false := by
    rw [← Bool.not_eq_true, endsEscaped_eq_true]
    exact h
  rw [parts, cutFrom_escape_append hsep, hend, cutFrom]
  simp [joinFirst, parts, hsep]

/-- One that does takes the separator along. -/
theorem parts_escape_append_hidden (hsep : sep ≠ '\\') {s : List Char}
    (h : s.getLast? = some '\\') (t : List Char) :
    parts sep (escape sep s ++ sep :: t) = joinFirst (escape sep s ++ [sep]) (parts sep t) := by
  rw [parts, cutFrom_escape_append hsep, endsEscaped_eq_true.2 h, cutFrom]
  simp [joinFirst_append, parts, hsep]

theorem parts_escape (hsep : sep ≠ '\\') (s : List Char) :
    parts sep (escape sep s) = [escape sep s] := by
  have h := cutFrom_escape_append hsep false s []
  rw [List.append_nil] at h
  rw [parts, h]
  simp [cutFrom, joinFirst]

/-! ## Several values -/

/-- What is read of some values: one that ends in a backslash gives the backslash up and is joined
to the next, with the separator between them. -/
def absorb (sep : Char) : List (List Char) → List (List Char)
  | [] => []
  | [s] => [s]
  | s :: t :: rest =>
    if s.getLast? = some '\\' then joinFirst (s.dropLast ++ [sep]) (absorb sep (t :: rest))
    else s :: absorb sep (t :: rest)

/-- The parts of a text before the first of which another text is put. -/
theorem map_dropEscapes_joinFirst {a b : List Char} {ps : List (List Char)}
    (h : ∀ p, dropEscapes sep (a ++ p) = b ++ dropEscapes sep p) :
    (joinFirst a ps).map (dropEscapes sep) = joinFirst b (ps.map (dropEscapes sep)) := by
  cases ps with
  | nil =>
    have ha := h []
    rw [List.append_nil] at ha
    simp [joinFirst, ha, dropEscapes]
  | cons p ps => simp [joinFirst, h]

/-- **Reading values back**: each comes back, up to `absorb`. -/
theorem map_dropEscapes_parts_intercalate (hsep : sep ≠ '\\') {ss : List (List Char)}
    (hne : ss ≠ []) :
    (parts sep ([sep].intercalate (ss.map (escape sep)))).map (dropEscapes sep) =
      absorb sep ss := by
  induction ss with
  | nil => exact absurd rfl hne
  | cons s ss ih =>
    cases ss with
    | nil => simp [absorb, parts_escape hsep, dropEscapes_escape hsep]
    | cons t rest =>
      have ih := ih (by simp)
      have hjoin : [sep].intercalate ((s :: t :: rest).map (escape sep)) =
          escape sep s ++ sep :: [sep].intercalate ((t :: rest).map (escape sep)) := by
        simp [List.intercalate_cons_cons]
      rw [hjoin, absorb]
      split
      · rename_i hs
        obtain ⟨u, rfl⟩ := List.getLast?_eq_some_iff.1 hs
        rw [parts_escape_append_hidden hsep hs, ← ih, List.dropLast_concat]
        refine map_dropEscapes_joinFirst fun p => ?_
        -- The backslash at the end of the value is the one before the separator.
        have hsingle : escape sep ['\\'] = ['\\'] := escape_cons_of_ne (Ne.symm hsep) []
        have hhead : ('\\' :: sep :: p).head? ≠ some sep := by simpa using Ne.symm hsep
        rw [escape_append, hsingle, List.append_assoc, List.append_assoc, List.singleton_append,
          List.singleton_append, dropEscapes_escape_append hsep hhead, dropEscapes,
          if_pos ⟨rfl, rfl⟩, dropEscapes, if_neg fun h => hsep h.1]
        simp
      · rename_i hs
        rw [parts_escape_append hsep hs, List.map_cons, ih, dropEscapes_escape hsep]

/-- Values with a separator after each, the last one included, come back as they are if none ends in
a backslash. -/
theorem parts_ended (hsep : sep ≠ '\\') {ss : List (List Char)}
    (h : ∀ s ∈ ss, s.getLast? ≠ some '\\') :
    parts sep (ss.flatMap fun s => escape sep s ++ [sep]) = ss.map (escape sep) ++ [[]] := by
  induction ss with
  | nil => rfl
  | cons s ss ih =>
    rw [List.forall_mem_cons] at h
    rw [List.flatMap_cons, List.append_assoc, List.singleton_append,
      parts_escape_append hsep h.1, ih h.2]
    rfl

theorem length_joinFirst_le (a : List Char) (ls : List (List Char)) :
    (joinFirst a ls).length ≤ max 1 ls.length := by
  cases ls <;> simp [joinFirst]

theorem length_absorb_le (ss : List (List Char)) : (absorb sep ss).length ≤ ss.length := by
  fun_induction absorb sep ss with
  | case1 => simp
  | case2 => simp
  | case3 s t rest _ ih =>
    have hjoin := length_joinFirst_le (s.dropLast ++ [sep]) (absorb sep (t :: rest))
    simp only [List.length_cons] at ih ⊢
    omega
  | case4 s t rest _ ih => simpa using ih

/-- The values come back as they are exactly if no value before the last ends in a backslash. -/
theorem absorb_eq_self_iff {ss : List (List Char)} :
    absorb sep ss = ss ↔ ∀ s ∈ ss.dropLast, s.getLast? ≠ some '\\' := by
  fun_induction absorb sep ss with
  | case1 => simp
  | case2 => simp
  | case3 s t rest hs _ =>
    constructor
    · intro h
      have hlen := congrArg List.length h
      have hjoin := length_joinFirst_le (s.dropLast ++ [sep]) (absorb sep (t :: rest))
      have hle : (absorb sep (t :: rest)).length ≤ _ := length_absorb_le (t :: rest)
      simp only [List.length_cons] at hlen hle
      omega
    · intro h
      exact absurd hs (h s (by simp))
  | case4 s t rest hs ih =>
    rw [List.cons.injEq, ih, List.dropLast_cons_cons, List.forall_mem_cons]
    exact ⟨fun h => ⟨hs, h.2⟩, fun h => ⟨rfl, h.2⟩⟩

end Scribe.Text
