import Scribe.Proofs.Layout.Lines

/-!
# Laying out the rows of a source

`Rows.lay` lays out a source by its rows: it carries the nesting depth from row to row, leaves out
rows without a token that follow such a row, and leaves them out at both ends.  `layout_chars` says
that this is what laying out a source by its lines comes to, so that everything about the laid-out
source can be proved by induction on rows.
-/

namespace Scribe.Source

open Scribe.Text

/-! ## Rows laid out -/

namespace Rows

/-- The rows of the laid-out source from a row on, where `depth` brackets are open; `afterEmpty`
says whether the row before has no token, or there is none. -/
def lay (depth : Nat) (afterEmpty : Bool) : Rows → List Row
  | last r =>
    if r.pieces = [] then [] else [r.lay (depth - r.closers) (r.cutEnd false)]
  | cons r rest =>
    if r.pieces = [] then
      let laid := rest.lay depth true
      if afterEmpty ∨ laid = [] then laid else Row.empty :: laid
    else
      r.lay (depth - r.closers) (r.cutEnd true) :: rest.lay (r.depthAfter depth) false

/-- Rows each of which is ended. -/
def allEnded : List Row → Rows
  | [] => last .empty
  | r :: rs => cons r (allEnded rs)

/-- The rows of the laid-out source.  A source without a token becomes one empty row. -/
def laid (R : Rows) : Rows :=
  allEnded (if R.lay 0 true = [] then [.empty] else R.lay 0 true)

theorem chars_allEnded (rs : List Row) :
    (allEnded rs).chars = rs.flatMap fun r => r.chars ++ ['\n'] := by
  induction rs with
  | nil => rfl
  | cons r rs ih => simp [allEnded, chars, ih]

theorem isWellCut_allEnded {rs : List Row} (h : ∀ r ∈ rs, r.IsWellCut) :
    (allEnded rs).IsWellCut := by
  induction rs with
  | nil => exact Row.isWellCut_empty
  | cons r rs ih =>
    obtain ⟨hr, hrs⟩ := List.forall_mem_cons.1 h
    exact ⟨hr, ih hrs⟩

theorem IsWellCut.lay {R : Rows} (h : R.IsWellCut) (depth : Nat) (afterEmpty : Bool) :
    ∀ r ∈ R.lay depth afterEmpty, r.IsWellCut := by
  induction R generalizing depth afterEmpty with
  | last r =>
    rw [Rows.lay]
    split
    · simp
    · intro q hq
      rw [List.mem_singleton.1 hq]
      exact Row.IsWellCut.lay (Row.cutsBlanks_cutEnd false r) h _
  | cons r rest ih =>
    obtain ⟨hr, hrest⟩ := h
    rw [Rows.lay]
    split
    · dsimp only
      split
      · exact ih hrest depth true
      · intro q hq
        rcases List.mem_cons.1 hq with rfl | hq
        · exact Row.isWellCut_empty
        · exact ih hrest depth true q hq
    · intro q hq
      rcases List.mem_cons.1 hq with rfl | hq
      · exact Row.IsWellCut.lay (Row.cutsBlanks_cutEnd true r) hr _
      · exact ih hrest _ false q hq

theorem IsWellCut.laid {R : Rows} (h : R.IsWellCut) : R.laid.IsWellCut := by
  refine isWellCut_allEnded ?_
  split
  · intro r hr
    rw [List.mem_singleton.1 hr]
    exact Row.isWellCut_empty
  · exact h.lay 0 true

end Rows

/-! ## Empty lines at the end -/

theorem dropTrailingEmpty_cons (l : List Char) (ls : List (List Char)) :
    dropTrailingEmpty (l :: ls) =
      if dropTrailingEmpty ls = [] ∧ l = [] then [] else l :: dropTrailingEmpty ls := by
  unfold dropTrailingEmpty
  rw [List.reverse_cons, List.dropWhile_append]
  by_cases hnil : ls.reverse.dropWhile (fun x => decide (x = [])) = []
  · by_cases hl : l = []
    · simp [hnil, hl]
    · simp [hnil, hl]
  · simp [hnil]

/-- A line that is not empty keeps all lines before it. -/
theorem dropTrailingEmpty_append {xs : List (List Char)} (h : xs.getLast? ≠ some [])
    (ys : List (List Char)) :
    dropTrailingEmpty (xs ++ ys) = xs ++ dropTrailingEmpty ys := by
  induction xs with
  | nil => rfl
  | cons x xs ih =>
    rw [List.cons_append, dropTrailingEmpty_cons]
    cases xs with
    | nil =>
      have hx : x ≠ [] := by simpa using h
      simp [hx]
    | cons y xs =>
      rw [ih (by simpa [List.getLast?_cons_cons] using h), if_neg (by simp)]
      rfl

theorem unlines_eq_nil_iff {ls : List (List Char)} : unlines ls = [] ↔ ls = [] := by
  cases ls <;> simp

/-- Lines that make up a text that does not end in a line feed end in a line that is not empty. -/
theorem getLast?_of_unlines {ls : List (List Char)} {s : List Char} (hs : s ≠ [])
    (hlast : s.getLast? ≠ some '\n') (h : unlines ls = s ++ ['\n']) : ls.getLast? ≠ some [] := by
  intro hls
  obtain ⟨init, rfl⟩ := List.getLast?_eq_some_iff.1 hls
  rw [unlines_append, unlines_cons, unlines_nil, List.nil_append] at h
  have hinit : unlines init = s := List.append_cancel_right h
  rcases List.eq_nil_or_concat init with rfl | ⟨front, line, rfl⟩
  · exact hs hinit.symm
  · rw [List.concat_eq_append, unlines_append, unlines_cons, unlines_nil] at hinit
    refine hlast ?_
    rw [← hinit, ← List.append_assoc]
    simp

/-! ## Lines that are kept -/

theorem layLines_append (ts : List Token) (number : Nat) (xs ys : List (List Char)) :
    layLines ts number (xs ++ ys) =
      layLines ts number xs ++ layLines ts (number + xs.length) ys := by
  induction xs generalizing number with
  | nil => rfl
  | cons x xs ih =>
    rw [List.cons_append, layLines, layLines, ih, List.length_cons, Nat.add_right_comm,
      Nat.add_assoc]
    rfl

theorem layLines_eq_keep {ts : List Token} {number : Nat} {ls : List (List Char)}
    (h : ∀ k < ls.length, LineRule.of ts (number + k) = .keep) :
    layLines ts number ls = ls.map fun l => (.keep, l) := by
  induction ls generalizing number with
  | nil => rfl
  | cons l ls ih =>
    have h0 : LineRule.of ts number = .keep := h 0 (Nat.succ_pos _)
    have hrest : ∀ k < ls.length, LineRule.of ts (number + 1 + k) = .keep := by
      intro k hk
      rw [Nat.add_right_comm]
      exact h (k + 1) (Nat.succ_lt_succ hk)
    rw [layLines, h0, ih hrest]
    rfl

theorem dropRepeatedEmpty_keep (afterEmpty : Bool) (ls : List (List Char))
    (rest : List (LineRule × List Char)) :
    dropRepeatedEmpty afterEmpty ((ls.map fun l => (LineRule.keep, l)) ++ rest) =
      ls ++ dropRepeatedEmpty (match ls.getLast? with
        | none => afterEmpty
        | some l => decide (l = [])) rest := by
  induction ls generalizing afterEmpty with
  | nil => rfl
  | cons l ls ih =>
    rw [List.map_cons, List.cons_append, dropRepeatedEmpty, if_neg (by simp), ih]
    cases ls <;> rfl

/-! ## The pass over a whole source -/

/-- The lines of a row with a token, which keep each other and are followed by `rest`. -/
theorem dropRepeatedEmpty_row {first : List Char} {more : List (List Char)} {rule : LineRule}
    (hfirst : first ≠ []) (hlast : (first :: more).getLast? ≠ some []) (afterEmpty : Bool)
    (rest : List (LineRule × List Char)) :
    dropRepeatedEmpty afterEmpty ((rule, first) :: (more.map fun l => (.keep, l)) ++ rest) =
      (first :: more) ++ dropRepeatedEmpty false rest := by
  rw [List.cons_append, dropRepeatedEmpty, if_neg (by simp [hfirst]), dropRepeatedEmpty_keep]
  cases hm : more.getLast? with
  | none => simp [hfirst]
  | some l =>
    have hl : l ≠ [] := by
      rintro rfl
      obtain ⟨init, rfl⟩ := List.getLast?_eq_some_iff.1 hm
      exact hlast (by simp [List.getLast?_cons])
    simp [hl]

variable {before after : List Token} {line : Nat} {r : Row}

/-- A row with a token becomes the laid-out row, whatever stands around it. -/
theorem layLines_row (hr : r.IsWellCut) (hne : r.pieces ≠ []) (ended : Bool)
    (hbefore : ∀ t ∈ before, t.line < line ∧ t.endLine < line)
    (hafter : ∀ t ∈ after, line + r.height ≤ t.line ∧ (t.line = line + r.height → t.isNewline)) :
    ∃ ls, ls.getLast? ≠ some [] ∧
      unlines ls = (r.lay (openAfter before - r.closers) (r.cutEnd ended)).chars ++ ['\n'] ∧
      ∀ afterEmpty rest, dropRepeatedEmpty afterEmpty
        (layLines (before ++ (tokensOf line r.pieces ++ after)) line
          (lines (r.chars ++ endOf ended)) ++ rest) = ls ++ dropRepeatedEmpty false rest := by
  obtain ⟨first, more, hlines, hfirst, hunlines⟩ :=
    Row.exists_lines hr hne ended (openAfter before - r.closers)
  have hlaid := hr.lay (Row.cutsBlanks_cutEnd ended r) (openAfter before - r.closers)
  have hnil : (r.lay (openAfter before - r.closers) (r.cutEnd ended)).chars ≠ [] := by
    intro h
    rw [h, List.nil_append] at hunlines
    rw [unlines_cons] at hunlines
    obtain ⟨c, s, hc⟩ := List.exists_cons_of_ne_nil hfirst
    rw [hc] at hunlines
    simp at hunlines
  have hlast := getLast?_of_unlines hnil (Row.getLast?_chars hlaid) hunlines
  have hkeep : layLines (before ++ (tokensOf line r.pieces ++ after)) (line + 1) more =
      more.map fun l => (.keep, l) := by
    refine layLines_eq_keep fun k hk => LineRule.of_inside_row hr ?_
    have hlen := Row.length_lines r hr ended
    rw [hlines, List.length_cons] at hlen
    omega
  refine ⟨_, hlast, hunlines, ?_⟩
  intro afterEmpty rest
  rw [hlines, layLines, LineRule.of_row hr hbefore hafter, hkeep,
    dropRepeatedEmpty_row hfirst hlast]

/-- A row without a token becomes an empty line. -/
theorem layLines_blank (hr : r.IsWellCut) (hnil : r.pieces = []) (ended : Bool) (ts : List Token)
    (hrule : ∃ tabs, LineRule.of ts line = .indent tabs false) (h : r.chars ++ endOf ended ≠ []) :
    ∃ tabs, layLines ts line (lines (r.chars ++ endOf ended)) = [(.indent tabs false, [])] := by
  obtain ⟨tabs, hrule⟩ := hrule
  have hchars : r.chars = r.tail := by simp [Row.chars, hnil]
  have hblank : ∀ c ∈ (if ended then dropReturn else id) r.tail, isBlank c := by
    intro c hc
    have hmem : c ∈ r.tail := by
      cases ended with
      | true => exact cutsBlanks_dropReturn.mem hc
      | false => exact hc
    exact isBlank_of_isGap (hr.2 c hmem)
  have hlines : lines (r.tail ++ endOf ended) = [(if ended then dropReturn else id) r.tail] := by
    have hn := no_newline_of_gap hr.2
    cases ended with
    | true => exact lines_newline_of_no_newline hn
    | false =>
      rw [hchars] at h
      exact lines_endOf false hn (by simpa [endOf] using h)
  refine ⟨tabs, ?_⟩
  rw [hchars, hlines, layLines, hrule]
  simp [LineRule.apply, trim_eq_nil hblank, layLines]

theorem openAfter_row (before : List Token) (line : Nat) (r : Row) :
    openAfter (before ++ (tokensOf line r.pieces ++ [lineEnd (line + r.height)])) =
      r.depthAfter (openAfter before) := by
  rw [openAfter, List.foldl_append, List.foldl_append, foldl_depthAfter_congr rfl line 0]
  rfl

theorem before_row (hbefore : ∀ t ∈ before, t.line < line ∧ t.endLine < line) :
    ∀ t ∈ before ++ (tokensOf line r.pieces ++ [lineEnd (line + r.height)]),
      t.line < line + r.height + 1 ∧ t.endLine < line + r.height + 1 := by
  intro t ht
  rw [List.mem_append, List.mem_append, List.mem_singleton] at ht
  rcases ht with ht | ht | rfl
  · have := hbefore t ht
    omega
  · have := mem_tokensOf ht
    unfold Row.height
    omega
  · simp [lineEnd]

/-- The lines of a first row and those of the other rows are laid out apart. -/
theorem layLines_cons (hr : r.IsWellCut) (rest : Rows) :
    layLines (before ++ (Rows.cons r rest).tokens line) line (lines (Rows.cons r rest).chars) =
      layLines (before ++ (tokensOf line r.pieces ++
          lineEnd (line + r.height) :: rest.tokens (line + r.height + 1))) line
        (lines (r.chars ++ endOf true)) ++
      layLines (before ++ (tokensOf line r.pieces ++ [lineEnd (line + r.height)]) ++
          rest.tokens (line + r.height + 1)) (line + r.height + 1) (lines rest.chars) := by
  have hlines : lines (Rows.cons r rest).chars =
      lines (r.chars ++ endOf true) ++ lines rest.chars :=
    lines_append_newline r.chars rest.chars
  have hlength : (lines (r.chars ++ endOf true)).length = r.height + 1 := by
    rw [← Row.newlines_chars hr]
    exact length_lines_newline r.chars
  rw [hlines, layLines_append, hlength, Rows.tokens, ← Nat.add_assoc]
  simp

theorem unlines_layLines_last (hr : r.IsWellCut) (afterEmpty : Bool)
    (hbefore : ∀ t ∈ before, t.line < line ∧ t.endLine < line) :
    unlines (dropTrailingEmpty (dropRepeatedEmpty afterEmpty
        (layLines (before ++ (tokensOf line r.pieces ++ [])) line (lines r.chars)))) =
      (Rows.allEnded ((Rows.last r).lay (openAfter before) afterEmpty)).chars := by
  have hchars : r.chars = r.chars ++ endOf false := by simp [endOf]
  have hafter : ∀ t ∈ ([] : List Token), line + r.height ≤ t.line ∧
      (t.line = line + r.height → t.isNewline) := by simp
  rw [Rows.lay]
  by_cases hnil : r.pieces = []
  · rw [if_pos hnil]
    by_cases hempty : r.chars = []
    · rw [hempty]
      rfl
    · have hheight : r.height = 0 := by simp [Row.height, hnil]
      have hrule := LineRule.of_row hr hbefore hafter
      rw [hheight] at hrule
      rw [hchars] at hempty ⊢
      obtain ⟨tabs, hlay⟩ := layLines_blank hr hnil false _ ⟨_, hrule⟩ hempty
      rw [hlay]
      cases afterEmpty <;> rfl
  · rw [if_neg hnil]
    obtain ⟨ls, hlast, hunlines, hdrop⟩ :=
      layLines_row hr hnil false hbefore hafter
    have hlay := hdrop afterEmpty []
    rw [List.append_nil, ← hchars] at hlay
    rw [hlay, dropTrailingEmpty_append hlast]
    simp [dropRepeatedEmpty, dropTrailingEmpty, Rows.chars_allEnded, hunlines]

/-- An empty line before lines that are laid out as rows. -/
theorem unlines_emptyLine {entries : List (LineRule × List Char)} {laid : List Row}
    (tabs : Nat) (spans afterEmpty : Bool)
    (h : unlines (dropTrailingEmpty (dropRepeatedEmpty true entries)) =
      (Rows.allEnded laid).chars) :
    unlines (dropTrailingEmpty (dropRepeatedEmpty afterEmpty
        ((LineRule.indent tabs spans, []) :: entries))) =
      (Rows.allEnded (if afterEmpty ∨ laid = [] then laid else Row.empty :: laid)).chars := by
  have hiff : laid = [] ↔ dropTrailingEmpty (dropRepeatedEmpty true entries) = [] := by
    rw [← unlines_eq_nil_iff, h, Rows.chars_allEnded]
    cases laid <;> simp
  cases afterEmpty with
  | true => simpa [dropRepeatedEmpty] using h
  | false =>
    have hfirst : dropRepeatedEmpty false ((LineRule.indent tabs spans, []) :: entries) =
        [] :: dropRepeatedEmpty true entries := rfl
    rw [hfirst, dropTrailingEmpty_cons]
    by_cases hlaid : laid = []
    · rw [if_pos ⟨hiff.1 hlaid, rfl⟩]
      simp [hlaid, Rows.chars_allEnded]
    · rw [if_neg fun h => hlaid (hiff.2 h.1), unlines_cons, h, Rows.chars_allEnded,
        Rows.chars_allEnded]
      simp [hlaid, Row.empty, Row.chars]

/-- **Laying out the lines of a source is laying out its rows.**  By induction on the rows that are
left, with the tokens of the rows before them in `before`. -/
theorem unlines_layLines {R : Rows} (hR : R.IsWellCut) (afterEmpty : Bool)
    (hbefore : ∀ t ∈ before, t.line < line ∧ t.endLine < line) :
    unlines (dropTrailingEmpty (dropRepeatedEmpty afterEmpty
        (layLines (before ++ R.tokens line) line (lines R.chars)))) =
      (Rows.allEnded (R.lay (openAfter before) afterEmpty)).chars := by
  induction R generalizing before line afterEmpty with
  | last r =>
    have h := unlines_layLines_last hR afterEmpty hbefore
    rw [List.append_nil] at h
    exact h
  | cons r rest ih =>
    obtain ⟨hr, hrest⟩ := hR
    have hafter : ∀ t ∈ lineEnd (line + r.height) :: rest.tokens (line + r.height + 1),
        line + r.height ≤ t.line ∧ (t.line = line + r.height → t.isNewline) := by
      intro t ht
      rcases List.mem_cons.1 ht with rfl | ht
      · exact ⟨Nat.le_refl _, fun _ => rfl⟩
      · have := Rows.le_line ht
        exact ⟨by omega, fun h => by omega⟩
    have ih := fun afterEmpty => ih hrest afterEmpty (before_row (r := r) hbefore)
    rw [openAfter_row] at ih
    rw [layLines_cons hr, Rows.lay]
    by_cases hnil : r.pieces = []
    · rw [if_pos hnil]
      have hheight : r.height = 0 := by simp [Row.height, hnil]
      have hdepth : r.depthAfter (openAfter before) = openAfter before := by
        simp [Row.depthAfter, hnil, tokensOf]
      have hrule := LineRule.of_row hr hbefore hafter
      rw [show decide (0 < r.height) = false by simp [hheight]] at hrule
      obtain ⟨tabs, hlay⟩ := layLines_blank hr hnil true _ ⟨_, hrule⟩ (by simp [endOf])
      rw [hdepth] at ih
      rw [hlay, List.singleton_append]
      exact unlines_emptyLine tabs false afterEmpty (ih true)
    · rw [if_neg hnil]
      obtain ⟨ls, hlast, hunlines, hdrop⟩ := layLines_row hr hnil true hbefore hafter
      rw [hdrop, dropTrailingEmpty_append hlast, unlines_append, hunlines, ih false,
        Rows.chars_allEnded, Rows.chars_allEnded, List.flatMap_cons]

/-- **Laying out a source lays out its rows.** -/
theorem layOut_chars {R : Rows} (hR : R.IsWellCut) :
    layOut (R.tokens 1) R.chars = R.laid.chars := by
  have hbefore : ∀ t ∈ ([] : List Token), t.line < 1 ∧ t.endLine < 1 := by simp
  have h := unlines_layLines hR true hbefore
  rw [List.nil_append, show openAfter [] = 0 from rfl] at h
  rw [layOut, Rows.laid]
  split
  · rename_i hnil
    rw [hnil, unlines_nil] at h
    have hlay : R.lay 0 true = [] := by
      rw [Rows.chars_allEnded] at h
      cases hl : R.lay 0 true with
      | nil => rfl
      | cons r rs => simp [hl] at h
    have hempty : (Rows.allEnded [Row.empty]).chars = ['\n'] := rfl
    rw [if_pos hlay, hempty]
  · rename_i hne
    rw [h]
    have hlay : R.lay 0 true ≠ [] := by
      intro hl
      rw [hl] at h
      exact hne (unlines_eq_nil_iff.1 h)
    rw [if_neg hlay]

/-- What laying out a source gives, in terms of its rows. -/
theorem layout_chars {R : Rows} (hR : R.IsWellCut) :
    layout R.chars = match checkBrackets [] (R.tokens 1) with
      | .error e => .error (.brackets e)
      | .ok () => .ok R.laid.chars := by
  rw [layout, Rows.tokenize_chars hR]
  dsimp only
  cases checkBrackets [] (R.tokens 1) with
  | error e => rfl
  | ok u => exact congrArg Except.ok (layOut_chars hR)

/-- A source that can be laid out is cut into rows whose brackets nest, and its layout is theirs. -/
theorem exists_rows_of_layout {s t : List Char} (h : layout s = .ok t) :
    ∃ R : Rows, R.IsWellCut ∧ R.chars = s ∧ checkBrackets [] (R.tokens 1) = .ok () ∧
      R.laid.chars = t := by
  cases hts : tokenize s with
  | error e =>
    rw [layout, hts] at h
    exact absurd h (by simp)
  | ok ts =>
    obtain ⟨R, hR, rfl, -⟩ := exists_rows hts
    rw [layout_chars hR] at h
    cases hb : checkBrackets [] (R.tokens 1) with
    | error e =>
      rw [hb] at h
      exact absurd h (by simp)
    | ok u =>
      rw [hb] at h
      exact ⟨R, hR, rfl, hb, Except.ok.inj h⟩

end Scribe.Source
