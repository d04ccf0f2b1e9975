import Scribe.Proofs.Layout.Row

/-!
# The lines of a row and their rules

The layout pass works line by line, and looks up in the tokens of the whole source how each line is
to be laid out.  Here this is brought down to rows.  Seen from the tokens of a source, the first
line of a row is indented by the brackets open before the row, less the closing brackets that the
row begins with (`LineRule.of_row`), and its other lines are kept (`LineRule.of_inside_row`).  The
lines of a row, laid out by these rules, are the characters of the laid-out row
(`Row.exists_lines`).
-/

namespace Scribe.Source

open Scribe.Text

/-! ## The tokens of a row -/

theorem mem_tokensOf {line : Nat} {ps : List Piece} {t : Token} (h : t ∈ tokensOf line ps) :
    line ≤ t.line ∧ t.line ≤ t.endLine ∧ t.endLine ≤ line + newlines (written ps) := by
  induction ps generalizing line with
  | nil => simp [tokensOf] at h
  | cons p ps ih =>
    rw [written_cons, newlines_append, newlines_append]
    rcases List.mem_cons.1 h with rfl | h
    · refine ⟨Nat.le_refl _, ?_, ?_⟩ <;> simp only <;> omega
    · have := ih h
      omega

theorem Rows.le_line {R : Rows} {line : Nat} {t : Token} (h : t ∈ R.tokens line) :
    line ≤ t.line := by
  induction R generalizing line with
  | last r => exact (mem_tokensOf h).1
  | cons r rest ih =>
    rcases List.mem_append.1 h with h | h
    · exact (mem_tokensOf h).1
    rcases List.mem_cons.1 h with rfl | h
    · exact Nat.le_add_right line r.height
    · have := ih h
      omega

/-- A closing bracket stays on its line. -/
theorem newlines_of_isClose {kind : TokenKind} {text : List Char} {next : Char} {line endLine : Nat}
    (h : Fits kind text next) (hclose : (Token.mk kind text line endLine).isClose) :
    newlines text = 0 := by
  cases h with
  | punct hb =>
    rw [newlines_eq_zero, List.mem_singleton]
    rintro rfl
    simp at hb
  | _ => simp [Token.isClose, Token.closes?] at hclose

namespace Row

/-- The number of closing brackets that a row begins with. -/
def closers (r : Row) : Nat := ((tokensOf 0 r.pieces).takeWhile Token.isClose).length

/-- The nesting depth after a row. -/
def depthAfter (r : Row) (depth : Nat) : Nat :=
  (tokensOf 0 r.pieces).foldl (fun d t => t.depthAfter d) depth

end Row

/-- The depth after a row depends on the kinds of its tokens alone. -/
theorem foldl_depthAfter_congr {ps qs : List Piece}
    (h : ps.map Piece.kind = qs.map Piece.kind) (line line' depth : Nat) :
    (tokensOf line ps).foldl (fun d t => t.depthAfter d) depth =
      (tokensOf line' qs).foldl (fun d t => t.depthAfter d) depth := by
  induction ps generalizing qs line line' depth with
  | nil =>
    obtain rfl : qs = [] := by simpa using h.symm
    rfl
  | cons p ps ih =>
    obtain ⟨q, qs, rfl⟩ := List.exists_cons_of_ne_nil (l := qs) (by rintro rfl; simp at h)
    rw [List.map_cons, List.map_cons, List.cons.injEq] at h
    rw [tokensOf, tokensOf, List.foldl_cons, List.foldl_cons, ih h.2]
    rw [h.1]
    rfl

theorem closers_congr {ps qs : List Piece} (h : ps.map Piece.kind = qs.map Piece.kind)
    (line line' : Nat) :
    ((tokensOf line ps).takeWhile Token.isClose).length =
      ((tokensOf line' qs).takeWhile Token.isClose).length := by
  induction ps generalizing qs line line' with
  | nil =>
    obtain rfl : qs = [] := by simpa using h.symm
    rfl
  | cons p ps ih =>
    obtain ⟨q, qs, rfl⟩ := List.exists_cons_of_ne_nil (l := qs) (by rintro rfl; simp at h)
    rw [List.map_cons, List.map_cons, List.cons.injEq] at h
    have hclose : (Token.mk p.kind p.text line (line + newlines p.text)).isClose =
        (Token.mk q.kind q.text line' (line' + newlines q.text)).isClose := by
      rw [h.1]
      rfl
    rw [tokensOf, tokensOf, List.takeWhile_cons, List.takeWhile_cons, hclose]
    split
    · rw [List.length_cons, List.length_cons, ih h.2]
    · rfl

/-! ## The rule of a line in a row -/

section
variable {line : Nat} {ps : List Piece} {after : List Char}

/-- The closing brackets at the start of a row are all on its first line. -/
theorem closers_starting (hps : WellCut after ps) :
    (((tokensOf line ps).filter (·.line = line)).takeWhile Token.isClose).length =
      ((tokensOf line ps).takeWhile Token.isClose).length := by
  induction ps with
  | nil => rfl
  | cons p ps ih =>
    obtain ⟨-, -, hfits, hrest⟩ := hps
    rw [tokensOf, List.filter_cons_of_pos (by simp)]
    by_cases hclose : (Token.mk p.kind p.text line (line + newlines p.text)).isClose
    · rw [List.takeWhile_cons_of_pos hclose, List.takeWhile_cons_of_pos hclose,
        newlines_of_isClose hfits hclose, Nat.add_zero, List.length_cons, List.length_cons,
        ih hrest]
    · rw [List.takeWhile_cons_of_neg hclose, List.takeWhile_cons_of_neg hclose]

/-- A token that goes on past the first line of a row starts on that line. -/
theorem any_spansLines_starting (hps : WellCut after ps) :
    ((tokensOf line ps).filter (·.line = line)).any Token.spansLines =
      decide (0 < newlines (written ps)) := by
  induction ps with
  | nil => rfl
  | cons p ps ih =>
    obtain ⟨hgap, -, -, hrest⟩ := hps
    have hn : newlines p.gap = 0 := newlines_eq_zero.2 (no_newline_of_gap hgap)
    rw [tokensOf, List.filter_cons_of_pos (by simp), List.any_cons, written_cons, newlines_append,
      newlines_append, hn]
    by_cases hp : newlines p.text = 0
    · rw [hp, Nat.add_zero, ih hrest]
      simp [Token.spansLines]
    · have hpos : 0 < newlines p.text := Nat.pos_of_ne_zero hp
      have htotal : 0 < newlines p.text + newlines (written ps) := by omega
      simp [Token.spansLines, hpos, htotal]

/-- Every line of a row but the first is reached by a token begun before it. -/
theorem exists_reaching (line : Nat) (hps : WellCut after ps) {k : Nat}
    (hk : k < newlines (written ps)) :
    ∃ t ∈ tokensOf line ps, t.line < line + 1 + k ∧ line + 1 + k ≤ t.endLine := by
  induction ps generalizing line k with
  | nil => simp at hk
  | cons p ps ih =>
    obtain ⟨hgap, -, -, hrest⟩ := hps
    have hn : newlines p.gap = 0 := newlines_eq_zero.2 (no_newline_of_gap hgap)
    rw [written_cons, newlines_append, newlines_append, hn, Nat.zero_add] at hk
    rw [tokensOf]
    by_cases hp : k < newlines p.text
    · refine ⟨_, List.mem_cons_self, ?_, ?_⟩ <;> simp only <;> omega
    · have hmore : k - newlines p.text < newlines (written ps) := by omega
      obtain ⟨t, ht, h1, h2⟩ := ih (line + newlines p.text) hrest hmore
      exact ⟨t, List.mem_cons_of_mem _ ht, by omega, by omega⟩

end

variable {before after : List Token} {line : Nat} {r : Row}

section

variable (hr : r.IsWellCut) (hbefore : ∀ t ∈ before, t.line < line ∧ t.endLine < line)
  (hafter : ∀ t ∈ after, line + r.height ≤ t.line ∧ (t.line = line + r.height → t.isNewline))
include hbefore hafter

/-- No token begun before a row reaches its first line. -/
theorem any_reaching_row : (before ++ (tokensOf line r.pieces ++ after)).any
    (fun t => decide (t.line < line) && decide (line ≤ t.endLine)) = false := by
  rw [List.any_eq_false]
  intro t ht
  rw [List.mem_append, List.mem_append] at ht
  rw [Bool.and_eq_true, decide_eq_true_eq, decide_eq_true_eq]
  rcases ht with ht | ht | ht
  · have := hbefore t ht
    omega
  · have := mem_tokensOf ht
    omega
  · have := hafter t ht
    omega

theorem takeWhile_before_row : (before ++ (tokensOf line r.pieces ++ after)).takeWhile
    (fun t => decide (t.line < line)) = before := by
  rw [List.takeWhile_append_of_pos fun t ht => decide_eq_true (hbefore t ht).1]
  have hrest : ∀ t ∈ tokensOf line r.pieces ++ after, ¬ t.line < line := by
    intro t ht
    rcases List.mem_append.1 ht with ht | ht
    · have := mem_tokensOf ht
      omega
    · have := hafter t ht
      omega
  cases hts : tokensOf line r.pieces ++ after with
  | nil => simp
  | cons t ts =>
    rw [hts] at hrest
    simp [hrest t List.mem_cons_self]

include hr

theorem startingOn_row : startingOn line (before ++ (tokensOf line r.pieces ++ after)) =
    (tokensOf line r.pieces).filter (·.line = line) := by
  have hb : before.filter (fun t => decide (t.line = line) && !t.isNewline) = [] := by
    rw [List.filter_eq_nil_iff]
    intro t ht
    have := hbefore t ht
    simp [show t.line ≠ line by omega]
  have ha : after.filter (fun t => decide (t.line = line) && !t.isNewline) = [] := by
    rw [List.filter_eq_nil_iff]
    intro t ht
    have h := hafter t ht
    by_cases hl : t.line = line
    · simp [h.2 (by omega)]
    · simp [hl]
  rw [startingOn, List.filter_append, List.filter_append, hb, ha, List.nil_append, List.append_nil]
  refine List.filter_congr ?_
  intro t ht
  simp [isNewline_tokensOf hr.1 ht]

/-- The first line of a row is indented, by the brackets that are open before it, less those that
its first tokens close. -/
theorem LineRule.of_row : LineRule.of (before ++ (tokensOf line r.pieces ++ after)) line =
    .indent (openAfter before - r.closers) (decide (0 < r.height)) := by
  rw [LineRule.of, any_reaching_row hbefore hafter, if_neg (by simp)]
  dsimp only
  rw [takeWhile_before_row hbefore hafter, startingOn_row hr hbefore hafter,
    closers_starting hr.1, any_spansLines_starting hr.1, closers_congr rfl line 0]
  rfl

end

theorem LineRule.of_inside_row (hr : r.IsWellCut) {k : Nat} (hk : k < r.height) :
    LineRule.of (before ++ (tokensOf line r.pieces ++ after)) (line + 1 + k) = .keep := by
  obtain ⟨t, ht, h1, h2⟩ := exists_reaching line hr.1 hk
  have hany : (before ++ (tokensOf line r.pieces ++ after)).any
      (fun t => decide (t.line < line + 1 + k) && decide (line + 1 + k ≤ t.endLine)) = true := by
    rw [List.any_eq_true]
    exact ⟨t, by simp [ht], by simp [h1, h2]⟩
  rw [LineRule.of, hany, if_pos rfl]

/-! ## The lines of a row -/

/-- What follows a row directly. -/
def endOf (ended : Bool) : List Char := if ended then ['\n'] else []

theorem dropReturns_endOf (ended : Bool) {s : List Char} (h : '\n' ∉ s) :
    dropReturns (s ++ endOf ended) = (if ended then dropReturn else id) s ++ endOf ended := by
  cases ended with
  | true => exact dropReturns_newline h
  | false => simpa [endOf] using dropReturns_eq_self_of_no_newline h

theorem lines_endOf (ended : Bool) {s : List Char} (h : '\n' ∉ s) (hne : s ≠ []) :
    lines (s ++ endOf ended) = [(if ended then dropReturn else id) s] := by
  cases ended with
  | true => exact lines_newline_of_no_newline h
  | false => simpa [endOf] using lines_of_no_newline h hne

namespace Row

theorem length_lines (r : Row) (hr : r.IsWellCut) (ended : Bool) :
    (lines (r.chars ++ endOf ended)).length ≤ r.height + 1 := by
  rw [← newlines_chars hr]
  cases ended with
  | true => exact (length_lines_newline r.chars).le
  | false => simpa [endOf] using length_lines_le r.chars

variable {tabs : Nat} {cut : List Char → List Char}

/-- The blanks before the first token of a row. -/
def leading (r : Row) : List Char := (r.pieces.head?.map Piece.gap).getD []

/-- The pieces of a row without the blanks before the first token. -/
def body (r : Row) : List Piece := r.pieces.modifyHead fun p => { p with gap := [] }

theorem chars_eq_leading_append (r : Row) :
    r.chars = r.leading ++ (written r.body ++ r.tail) := by
  obtain ⟨pieces, tail⟩ := r
  cases pieces with
  | nil => rfl
  | cons p ps => simp [chars, leading, body]

theorem chars_lay {r : Row} (hne : r.pieces ≠ []) :
    (r.lay tabs cut).chars =
      List.replicate tabs '\t' ++ (written (r.body.map (Piece.lay cut)) ++ cut r.tail) := by
  obtain ⟨pieces, tail⟩ := r
  cases pieces with
  | nil => exact absurd rfl hne
  | cons p ps => simp [lay, chars, body, Piece.lay]

theorem isGap_leading {r : Row} (hr : r.IsWellCut) : ∀ c ∈ r.leading, isGap c := by
  obtain ⟨pieces, tail⟩ := r
  cases pieces with
  | nil => simp [leading]
  | cons p ps => exact hr.1.1

theorem wellCut_body {r : Row} (hr : r.IsWellCut) : WellCut r.tail r.body := by
  obtain ⟨pieces, tail⟩ := r
  cases pieces with
  | nil => trivial
  | cons p ps =>
    obtain ⟨⟨-, hkind, hfits, hps⟩, -⟩ := hr
    exact ⟨by simp, hkind, hfits, hps⟩

theorem height_eq_body {r : Row} (hr : r.IsWellCut) : r.height = newlines (written r.body) := by
  have h := newlines_chars hr
  rw [chars_eq_leading_append, newlines_append, newlines_append,
    newlines_eq_zero.2 (no_newline_of_gap (isGap_leading hr)),
    newlines_eq_zero.2 (no_newline_of_gap hr.2)] at h
  omega

/-- What stands after the leading blanks of a row with a token starts with a character that is not
blank, in the laid-out row too. -/
theorem exists_cons_body {r : Row} (hr : r.IsWellCut) (hne : r.pieces ≠ []) :
    ∃ p ps c more, r.body = p :: ps ∧ p.gap = [] ∧ p.text = c :: more ∧ isBlank c = false := by
  obtain ⟨pieces, tail⟩ := r
  cases pieces with
  | nil => exact absurd rfl hne
  | cons p ps =>
    obtain ⟨⟨-, hkind, hfits, -⟩, -⟩ := hr
    obtain ⟨c, more, htext, hc⟩ := hfits.exists_cons hkind
    exact ⟨_, ps, c, more, rfl, rfl, htext, hc⟩

/-- A row on one line is trimmed. -/
theorem exists_line {r : Row} (hr : r.IsWellCut) (hne : r.pieces ≠ []) (hheight : r.height = 0)
    (ended : Bool) (tabs : Nat) :
    ∃ line, lines (r.chars ++ endOf ended) = [line] ∧ trim line ≠ [] ∧
      List.replicate tabs '\t' ++ trim line = (r.lay tabs trimEnd).chars := by
  obtain ⟨p, ps, c, more, hbody, hgap, htext, hc⟩ := exists_cons_body hr hne
  have hn : '\n' ∉ r.chars := by
    rw [← newlines_eq_zero, newlines_chars hr, hheight]
  have hstart : written r.body ++ r.tail = c :: (more ++ written ps ++ r.tail) := by
    simp [hbody, hgap, htext]
  have hcut : trim ((if ended then dropReturn else id) r.chars) = trim r.chars := by
    cases ended with
    | true => exact trim_dropReturn r.chars
    | false => rfl
  have hbodyCut := wellCut_body hr
  have hbodyLine : '\n' ∉ written r.body := by
    rw [← newlines_eq_zero, ← height_eq_body hr, hheight]
  rw [hbody] at hbodyCut hbodyLine
  have htrim : trim r.chars = written (r.body.map (Piece.lay trimEnd)) := by
    rw [chars_eq_leading_append, trim_append fun d hd => isBlank_of_isGap (isGap_leading hr d hd),
      hstart, trim_cons hc, ← trimEnd_cons hc, ← hstart, hbody,
      trimEnd_written hbodyCut hr.2 hbodyLine]
  refine ⟨_, lines_endOf ended hn ?_, ?_, ?_⟩
  · rw [chars_eq_leading_append, hstart]
    simp
  · obtain ⟨more', hmore'⟩ := layText_cons cutsBlanks_trimEnd p.kind hc more
    rw [hcut, htrim, hbody]
    simp [Piece.lay, htext, hmore']
  · rw [hcut, htrim, chars_lay hne, trimEnd_eq_nil fun d hd => isBlank_of_isGap (hr.2 d hd),
      List.append_nil]

theorem missingEnd_chars {r : Row} (hr : r.IsWellCut) (hne : r.chars ≠ []) (ended : Bool) :
    endOf ended ++ missingEnd (r.chars ++ endOf ended) = ['\n'] := by
  cases ended with
  | true => simp [endOf]
  | false =>
    have hlast := getLast?_chars hr
    rw [List.getLast?_eq_some_getLast hne] at hlast
    have hlast' : r.chars.getLast hne ≠ '\n' := by simpa using hlast
    simp [endOf, missingEnd, List.getLast?_eq_some_getLast hne, hlast']

/-- The lines of a row from its first token on, laid out. -/
theorem unlines_lines_body {r : Row} (hr : r.IsWellCut) (hne : written r.body ++ r.tail ≠ [])
    (ended : Bool) :
    unlines (lines (written r.body ++ r.tail ++ endOf ended)) =
      written (r.body.map (Piece.lay (if ended then dropReturn else id))) ++
        ((if ended then dropReturn else id) r.tail ++ ['\n']) := by
  have hbare : Row.IsWellCut ⟨r.body, r.tail⟩ := ⟨wellCut_body hr, hr.2⟩
  have hcut : CutsBlanks (if ended then dropReturn else id) := by
    cases ended with
    | true => exact cutsBlanks_dropReturn
    | false => exact cutsBlanks_id
  have hmissing := missingEnd_chars hbare hne ended
  rw [chars] at hmissing
  rw [unlines_lines, ← hmissing, List.append_assoc,
    dropReturns_written hcut (fun _ h => dropReturns_endOf ended h) hbare.1 hr.2,
    List.append_assoc, List.append_assoc]

/-- Of a row on several lines, the blanks before the first token are replaced. -/
theorem exists_lines_of_height_pos {r : Row} (hr : r.IsWellCut) (hne : r.pieces ≠ [])
    (ended : Bool) (tabs : Nat) :
    ∃ line rest, lines (r.chars ++ endOf ended) = (r.leading ++ line) :: rest ∧ line ≠ [] ∧
      trimStart (r.leading ++ line) = line ∧
      unlines ((List.replicate tabs '\t' ++ line) :: rest) =
        (r.lay tabs (if ended then dropReturn else id)).chars ++ ['\n'] := by
  obtain ⟨p, ps, c, more, hbody, hgap, htext, hc⟩ := exists_cons_body hr hne
  have hcn : c ≠ '\n' := by
    rintro rfl
    simp at hc
  have hcr : c ≠ '\r' := by
    rintro rfl
    simp at hc
  obtain ⟨s, hs⟩ : ∃ s, written r.body ++ r.tail = c :: s := ⟨more ++ written ps ++ r.tail, by
    simp [hbody, hgap, htext]⟩
  obtain ⟨line, rest, hline⟩ := exists_lines_cons hcr hcn (s ++ endOf ended)
  have hunlines := unlines_lines_body hr (by simp [hs]) ended
  rw [hs, List.cons_append, hline] at hunlines
  refine ⟨c :: line, rest, ?_, by simp, ?_, ?_⟩
  · rw [chars_eq_leading_append, hs, List.append_assoc,
      lines_append (no_newline_of_gap (isGap_leading hr)) (by simp) (by simpa using hcn),
      List.cons_append, hline]
    rfl
  · have hblank : ∀ d ∈ r.leading, isBlank d := by
      intro d hd
      exact isBlank_of_isGap (isGap_leading hr d hd)
    rw [trimStart, List.dropWhile_append_of_pos hblank,
      List.dropWhile_cons_of_neg (by simp [hc])]
  · rw [unlines_cons, List.append_assoc, ← unlines_cons, hunlines, chars_lay hne]
    simp

/-- **The lines of a row, laid out, are the characters of the laid-out row.** -/
theorem exists_lines {r : Row} (hr : r.IsWellCut) (hne : r.pieces ≠ []) (ended : Bool)
    (tabs : Nat) :
    ∃ first more, lines (r.chars ++ endOf ended) = first :: more ∧
      (LineRule.indent tabs (decide (0 < r.height))).apply first ≠ [] ∧
      unlines ((LineRule.indent tabs (decide (0 < r.height))).apply first :: more) =
        (r.lay tabs (r.cutEnd ended)).chars ++ ['\n'] := by
  by_cases hheight : r.height = 0
  · obtain ⟨line, hline, hnil, hlay⟩ := exists_line hr hne hheight ended tabs
    refine ⟨line, [], hline, ?_, ?_⟩
    · simp [LineRule.apply, hheight, hnil]
    · simp [LineRule.apply, cutEnd, hheight, hnil, ← hlay]
  · obtain ⟨line, rest, hline, hnil, hstart, hlay⟩ :=
      exists_lines_of_height_pos hr hne ended tabs
    refine ⟨r.leading ++ line, rest, hline, ?_, ?_⟩
    · simp [LineRule.apply, Nat.pos_of_ne_zero hheight, hstart, hnil]
    · simpa [LineRule.apply, cutEnd, hheight, Nat.pos_of_ne_zero hheight, hstart, hnil] using hlay

end Row

end Scribe.Source
