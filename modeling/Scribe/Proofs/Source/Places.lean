import Scribe.Proofs.Source.Segmentation

/-!
# Where tokens stand

The tokens of a source follow each other line by line: each starts on the line that the one before
it left off at, and the texts of the tokens alone say where that is.  A line end is the last token of
its line (`Successive`).  The lines of the tokens never go back, so the tokens before a line, those on
it and those after it are all of them in their order (`filter_line_append`).
-/

namespace Scribe.Source

open Scribe.Text

/-- The tokens stand one after the other, the first of them on line `line`. -/
def Placed (line : Nat) : List Token → Prop
  | [] => True
  | t :: ts =>
    t.line = line ∧ t.endLine = (if t.isNewline then line else line + newlines t.text) ∧
      Placed (line + newlines t.text) ts

theorem placed_of_tokenizeFrom {line : Nat} {s : List Char} {ts : List Token}
    (h : tokenizeFrom line s = .ok ts) : Placed line ts := by
  fun_induction tokenizeFrom line s generalizing ts with
  | case1 =>
    obtain rfl := Except.ok.inj h
    trivial
  | case2 => simp at h
  | case3 line s c rest _ kind text left _ next endLine =>
    rename_i ih
    obtain ⟨ts, hts, rfl⟩ := exists_of_map_eq_ok h
    exact ⟨rfl, by simp [Token.isNewline, endLine, next], ih hts⟩

namespace Placed

variable {line : Nat} {ts us : List Token}

theorem suffix (h : Placed line (ts ++ us)) : ∃ line', Placed line' us := by
  induction ts generalizing line with
  | nil => exact ⟨line, h⟩
  | cons t ts ih => exact ih h.2.2

/-- The tokens after a token start on the line that it leaves off at. -/
theorem after {t : Token} (h : Placed line (ts ++ t :: us)) :
    Placed (t.line + newlines t.text) us := by
  obtain ⟨line', hline, -, hrest⟩ := h.suffix
  rw [hline]
  exact hrest

theorem of_append (h : Placed line (ts ++ us)) : Placed line ts := by
  induction ts generalizing line with
  | nil => trivial
  | cons t ts ih => exact ⟨h.1, h.2.1, ih h.2.2⟩

theorem le_line (h : Placed line ts) {t : Token} (ht : t ∈ ts) : line ≤ t.line := by
  induction ts generalizing line with
  | nil => simp at ht
  | cons u ts ih =>
    rcases List.mem_cons.1 ht with rfl | ht
    · exact Nat.le_of_eq h.1.symm
    · have := ih h.2.2 ht
      omega

theorem endLine_eq (h : Placed line ts) {t : Token} (ht : t ∈ ts) :
    t.endLine = if t.isNewline then t.line else t.line + newlines t.text := by
  induction ts generalizing line with
  | nil => simp at ht
  | cons u ts ih =>
    rcases List.mem_cons.1 ht with rfl | ht
    · rw [h.1]
      exact h.2.1
    · exact ih h.2.2 ht

theorem pairwise (h : Placed line ts) : ts.Pairwise fun t u => t.line ≤ u.line := by
  induction ts generalizing line with
  | nil => exact .nil
  | cons t ts ih =>
    obtain ⟨hline, -, hrest⟩ := h
    refine List.pairwise_cons.2 ⟨?_, ih hrest⟩
    intro u hu
    have := hrest.le_line hu
    omega

end Placed

/-! ## Tokens that follow each other -/

/-- A token is over where another starts, and a line end is the last of its line. -/
structure Token.Leads (t u : Token) : Prop where
  endLine_le : t.endLine ≤ u.line
  lt_of_isNewline : t.isNewline → t.line < u.line

/-- Tokens that follow each other. -/
structure Successive (ts : List Token) : Prop where
  line_le : ∀ t ∈ ts, t.line ≤ t.endLine
  leads : ts.Pairwise Token.Leads

section
variable {ts us : List Token} {line : Nat}

theorem Successive.sublist (h : Successive ts) (hsub : us.Sublist ts) : Successive us :=
  ⟨fun t ht => h.line_le t (hsub.mem ht), h.leads.sublist hsub⟩

theorem Placed.successive (h : Placed line ts)
    (hnewline : ∀ t ∈ ts, t.isNewline → newlines t.text = 1) : Successive ts where
  line_le t ht := by
    rw [h.endLine_eq ht]
    split <;> omega
  leads := by
    induction ts generalizing line with
    | nil => exact .nil
    | cons t ts ih =>
      obtain ⟨hline, hend, hrest⟩ := h
      obtain ⟨hone, hnewline⟩ := List.forall_mem_cons.1 hnewline
      refine List.pairwise_cons.2 ⟨?_, ih hrest hnewline⟩
      intro u hu
      have hle := hrest.le_line hu
      constructor
      · rw [hend]
        split <;> omega
      · intro ht
        have := hone ht
        omega

/-- A line end is one line feed. -/
theorem newlines_of_isNewline {s : List Char} (h : tokenizeFrom line s = .ok ts) {t : Token}
    (ht : t ∈ ts) (hn : t.isNewline) : newlines t.text = 1 := by
  obtain ⟨⟨next, hfits⟩, -⟩ := (segmentation_of_tokenizeFrom h).mem (List.mem_map_of_mem ht)
  have hkind : t.kind = .newline := by simpa [Token.isNewline] using hn
  simp only [Token.face, hkind] at hfits
  generalize t.text = text at hfits
  cases hfits
  rfl

theorem successive_of_tokenizeFrom {s : List Char} (h : tokenizeFrom line s = .ok ts) :
    Successive ts :=
  (placed_of_tokenizeFrom h).successive fun _ ht hn => newlines_of_isNewline h ht hn

end

/-! ## The tokens before a place -/

variable {ts : List Token}

theorem reverse_take_succ {t : Token} {i : Nat} (h : ts[i]? = some t) :
    (ts.take (i + 1)).reverse = t :: (ts.take i).reverse := by
  rw [List.take_add_one, h, List.reverse_append]
  rfl

/-! ## The tokens of a line -/

/-- The tokens before a line, those that start on it, and those after it. -/
theorem filter_line_append (h : ts.Pairwise fun t u => t.line ≤ u.line) (n : Nat) :
    ts.filter (·.line < n) ++ (ts.filter (·.line = n) ++ ts.filter (n < ·.line)) = ts := by
  induction ts with
  | nil => rfl
  | cons t ts ih =>
    obtain ⟨hle, hrest⟩ := List.pairwise_cons.1 h
    have ih := ih hrest
    have hnone : ∀ p : Token → Bool, (∀ u, t.line ≤ u.line → p u = false) → ts.filter p = [] := by
      intro p hp
      rw [List.filter_eq_nil_iff]
      intro u hu
      simp [hp u (hle u hu)]
    rcases Nat.lt_trichotomy t.line n with hlt | heq | hgt
    · have h1 : ¬ t.line = n := by omega
      have h2 : ¬ n < t.line := by omega
      simpa [hlt, h1, h2] using ih
    · have hbefore := hnone (·.line < n) fun u hu => decide_eq_false (by omega)
      rw [hbefore, List.nil_append] at ih
      simpa [heq, hbefore] using ih
    · have hbefore := hnone (·.line < n) fun u hu => decide_eq_false (by omega)
      have hon := hnone (·.line = n) fun u hu => decide_eq_false (by omega)
      have h1 : ¬ t.line = n := by omega
      have h2 : ¬ t.line < n := by omega
      rw [hbefore, hon, List.nil_append, List.nil_append] at ih
      simpa [hgt, h1, h2, hbefore, hon] using ih

theorem takeWhile_line (h : ts.Pairwise fun t u => t.line ≤ u.line) (n : Nat) :
    ts.takeWhile (·.line < n) = ts.filter (·.line < n) := by
  have hsplit := filter_line_append h n
  have hstop : (ts.filter (·.line = n) ++ ts.filter (n < ·.line)).takeWhile (·.line < n) = [] := by
    have hrest : ∀ t ∈ ts.filter (·.line = n) ++ ts.filter (n < ·.line), ¬ t.line < n := by
      intro t ht
      rw [List.mem_append, List.mem_filter, List.mem_filter] at ht
      simp only [decide_eq_true_eq] at ht
      omega
    rw [List.takeWhile_eq_nil_iff]
    intro hlen
    simpa using hrest _ (List.getElem_mem hlen)
  conv_lhs => rw [← hsplit]
  rw [List.takeWhile_append_of_pos, hstop, List.append_nil]
  intro t ht
  exact (List.mem_filter.1 ht).2

end Scribe.Source
