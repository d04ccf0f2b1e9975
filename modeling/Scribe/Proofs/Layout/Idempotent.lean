import Scribe.Proofs.Layout.Tokens

/-!
# Laying out twice

Laying out a layout changes nothing, when every carriage return of the source stands before a line
feed.  Such carriage returns all go the first time (`no_return_layOut`), so the second time only
trims and indents; rows keep their tokens and their order, and each finds itself at the same depth
(`Rows.lay_lay`).

Without that the last line of a raw string can be followed by a carriage return that ends the
source.  It stays the first time, and goes the second time, when a line feed follows it.
-/

namespace Scribe.Source

open Scribe.Text

/-! ## Carriage returns -/

theorem mem_unlines {ls : List (List Char)} {line : List Char} {c : Char} (hl : line ∈ ls)
    (hc : c ∈ line) : c ∈ unlines ls := by
  obtain ⟨before, after, rfl⟩ := List.append_of_mem hl
  rw [unlines_append, unlines_cons]
  simp [hc]

theorem no_return_unlines {ls : List (List Char)} (h : ∀ line ∈ ls, '\r' ∉ line) :
    '\r' ∉ unlines ls := by
  induction ls with
  | nil => simp
  | cons line ls ih =>
    obtain ⟨hline, hmore⟩ := List.forall_mem_cons.1 h
    rw [unlines_cons, List.mem_append, List.mem_cons]
    rintro (hr | hr | hr)
    · exact hline hr
    · simp at hr
    · exact ih hmore hr

/-- The lines of a text hold none of the carriage returns that end them. -/
theorem no_return_lines {s : List Char} (hs : ReturnsEndLines s) {line : List Char}
    (hl : line ∈ lines s) : '\r' ∉ line := by
  intro hr
  have hmem := mem_unlines hl hr
  rw [unlines_lines, List.mem_append] at hmem
  rcases hmem with hmem | hmem
  · exact hs.no_return hmem
  · unfold missingEnd at hmem
    split at hmem <;> simp at hmem

/-- Laying out a line puts no character into it but tabs. -/
theorem mem_apply {rule : LineRule} {line : List Char} {c : Char} (h : c ∈ rule.apply line) :
    c ∈ line ∨ c = '\t' := by
  cases rule with
  | keep => exact .inl h
  | indent tabs keepTail =>
    have htext : ∀ {d}, d ∈ (if keepTail then trimStart line else trim line) → d ∈ line := by
      intro d hd
      split at hd
      · exact (List.dropWhile_sublist isBlank).mem hd
      · exact mem_trim hd
    simp only [LineRule.apply] at h
    generalize (if keepTail then trimStart line else trim line) = text at h htext
    split at h
    · simp at h
    · rcases List.mem_append.1 h with h | h
      · exact .inr (List.eq_of_mem_replicate h)
      · exact .inl (htext h)

theorem mem_layLines {ts : List Token} {number : Nat} {ls : List (List Char)}
    {e : LineRule × List Char} (h : e ∈ layLines ts number ls) :
    ∃ line ∈ ls, e.2 = e.1.apply line := by
  induction ls generalizing number with
  | nil => simp [layLines] at h
  | cons line ls ih =>
    rcases List.mem_cons.1 h with rfl | h
    · exact ⟨line, List.mem_cons_self, rfl⟩
    · obtain ⟨l, hl, he⟩ := ih h
      exact ⟨l, List.mem_cons_of_mem line hl, he⟩

theorem mem_dropRepeatedEmpty {afterEmpty : Bool} {entries : List (LineRule × List Char)}
    {line : List Char} (h : line ∈ dropRepeatedEmpty afterEmpty entries) :
    ∃ e ∈ entries, e.2 = line := by
  induction entries generalizing afterEmpty with
  | nil => simp [dropRepeatedEmpty] at h
  | cons e entries ih =>
    rw [dropRepeatedEmpty] at h
    split at h
    · obtain ⟨e', he', hl⟩ := ih h
      exact ⟨e', List.mem_cons_of_mem e he', hl⟩
    · rcases List.mem_cons.1 h with rfl | h
      · exact ⟨e, List.mem_cons_self, rfl⟩
      · obtain ⟨e', he', hl⟩ := ih h
        exact ⟨e', List.mem_cons_of_mem e he', hl⟩

/-- The lines of a layout hold no character that the lines of the source do not hold, but tabs. -/
theorem mem_laidLines {s : List Char} {ts : List Token} {line : List Char} {c : Char}
    (hl : line ∈ dropTrailingEmpty (dropRepeatedEmpty true (layLines ts 1 (lines s))))
    (hc : c ∈ line) : c = '\t' ∨ ∃ l ∈ lines s, c ∈ l := by
  have hl := (List.dropWhile_sublist _).mem (List.mem_reverse.1 hl)
  obtain ⟨e, he, rfl⟩ := mem_dropRepeatedEmpty (List.mem_reverse.1 hl)
  obtain ⟨l, hmem, heq⟩ := mem_layLines he
  rw [heq] at hc
  rcases mem_apply hc with hc | hc
  · exact .inr ⟨l, hmem, hc⟩
  · exact .inl hc

/-- No carriage return is left in a layout. -/
theorem no_return_layOut {s : List Char} (hs : ReturnsEndLines s) (ts : List Token) :
    '\r' ∉ layOut ts s := by
  have hlines : ∀ line ∈ dropTrailingEmpty (dropRepeatedEmpty true (layLines ts 1 (lines s))),
      '\r' ∉ line := by
    intro line hl hr
    rcases mem_laidLines hl hr with hr | ⟨l, hmem, hr⟩
    · simp at hr
    · exact no_return_lines hs hmem hr
  rw [layOut]
  split
  · simp
  · exact no_return_unlines hlines

/-! ## One row -/

theorem layText_layText {cut cut' : List Char → List Char} {kind : TokenKind} {text : List Char}
    (hcut : '\r' ∉ cut text → cut' (cut text) = cut text) (hr : '\r' ∉ layText cut kind text) :
    layText cut' kind (layText cut kind text) = layText cut kind text := by
  cases kind with
  | lineComment => exact hcut hr
  | rawString => exact dropReturns_eq_self_of_no_return hr
  | blockComment => exact dropReturns_eq_self_of_no_return hr
  | _ => rfl

namespace Row

variable {cut cut' : List Char → List Char} {r : Row}

theorem map_kind_lay (tabs : Nat) (cut : List Char → List Char) (r : Row) :
    (r.lay tabs cut).pieces.map Piece.kind = r.pieces.map Piece.kind := by
  unfold lay
  split
  · rename_i hp
    rw [hp]
    rfl
  · rename_i p ps hp
    rw [hp, List.map_cons, List.map_cons, List.map_map]
    rfl

theorem closers_lay (tabs : Nat) (cut : List Char → List Char) (r : Row) :
    (r.lay tabs cut).closers = r.closers :=
  closers_congr (map_kind_lay tabs cut r) 0 0

theorem depthAfter_lay (tabs : Nat) (cut : List Char → List Char) (r : Row) (depth : Nat) :
    (r.lay tabs cut).depthAfter depth = r.depthAfter depth :=
  foldl_depthAfter_congr (map_kind_lay tabs cut r) 0 0 depth

/-- A row that is laid out twice is as after the first time, if a second cut cuts off nothing. -/
theorem lay_lay (hcut : ∀ s, '\r' ∉ cut s → cut' (cut s) = cut s) {tabs : Nat}
    (hr : '\r' ∉ (r.lay tabs cut).chars) : (r.lay tabs cut).lay tabs cut' = r.lay tabs cut := by
  cases hp : r.pieces with
  | nil =>
    have hempty : r.lay tabs cut = empty := by simp [lay, hp]
    rw [hempty]
    rfl
  | cons p ps =>
    have hlay : r.lay tabs cut = ⟨{ p.lay cut with gap := List.replicate tabs '\t' } ::
        ps.map (Piece.lay cut), cut r.tail⟩ := by simp [lay, hp]
    rw [hlay] at hr ⊢
    have hno : ∀ q ∈ p :: ps, '\r' ∉ layText cut q.kind q.text := by
      intro q hq hmem
      refine hr (List.mem_append_left _ ?_)
      rw [written_cons]
      rcases List.mem_cons.1 hq with rfl | hq
      · exact List.mem_append_right _ (List.mem_append_left _ hmem)
      · refine List.mem_append_right _ (List.mem_append_right _ ?_)
        exact List.mem_flatMap.2 ⟨q.lay cut, List.mem_map_of_mem hq, List.mem_append_right _ hmem⟩
    have htext : ∀ q ∈ p :: ps, layText cut' q.kind (layText cut q.kind q.text) =
        layText cut q.kind q.text := by
      intro q hq
      exact layText_layText (hcut q.text) (hno q hq)
    have hfirst : ({ p.lay cut with gap := List.replicate tabs '\t' } : Piece).lay cut' =
        { p.lay cut with gap := List.replicate tabs '\t' } :=
      congrArg (Piece.mk (List.replicate tabs '\t') p.kind) (htext p List.mem_cons_self)
    have hps : (ps.map (Piece.lay cut)).map (Piece.lay cut') = ps.map (Piece.lay cut) := by
      rw [List.map_map]
      refine List.map_congr_left ?_
      intro q hq
      exact congrArg (Piece.mk q.gap q.kind) (htext q (List.mem_cons_of_mem p hq))
    have htail : cut' (cut r.tail) = cut r.tail :=
      hcut _ fun hmem => hr (List.mem_append_right _ hmem)
    rw [lay]
    simp only [hps, htail, hfirst]

/-- What a row loses at its end the first time, it does not lose again. -/
theorem cutEnd_cutEnd {cut : List Char → List Char} (hcut : CutsBlanks cut) (hr : r.IsWellCut)
    (tabs : Nat) (ended ended' : Bool) {s : List Char} (hs : '\r' ∉ r.cutEnd ended s) :
    (r.lay tabs cut).cutEnd ended' (r.cutEnd ended s) = r.cutEnd ended s := by
  have hself : dropReturn (r.cutEnd ended s) = r.cutEnd ended s :=
    if_neg fun hlast => hs (List.mem_of_getLast? hlast)
  have hheight := height_lay hcut hr tabs
  rw [cutEnd, hheight]
  split
  · rename_i h
    rw [cutEnd, if_pos h, trimEnd_trimEnd]
  split
  · exact hself
  · rfl

/-- A row that is laid out twice, each time with what is cut off its end. -/
theorem lay_lay_cutEnd (hr : r.IsWellCut) {tabs : Nat} {ended : Bool} (ended' : Bool)
    (h : '\r' ∉ (r.lay tabs (r.cutEnd ended)).chars) :
    (r.lay tabs (r.cutEnd ended)).lay tabs ((r.lay tabs (r.cutEnd ended)).cutEnd ended') =
      r.lay tabs (r.cutEnd ended) :=
  lay_lay (fun _ hs => cutEnd_cutEnd (cutsBlanks_cutEnd ended r) hr tabs ended ended' hs) h

end Row

/-! ## All rows -/

namespace Rows

/-- **Laid-out rows stay as they are.** -/
theorem lay_lay {R : Rows} (hR : R.IsWellCut) (depth : Nat) (afterEmpty : Bool)
    (hno : ∀ r ∈ R.lay depth afterEmpty, '\r' ∉ r.chars) :
    (allEnded (R.lay depth afterEmpty)).lay depth afterEmpty = R.lay depth afterEmpty := by
  induction R generalizing depth afterEmpty with
  | last r =>
    rw [lay] at hno ⊢
    by_cases hnil : r.pieces = []
    · rw [if_pos hnil]
      rfl
    · rw [if_neg hnil] at hno ⊢
      obtain ⟨hlaid, -⟩ := List.forall_mem_cons.1 hno
      rw [allEnded, lay, if_neg (by rwa [Row.lay_pieces_eq_nil]), Row.closers_lay,
        Row.lay_lay_cutEnd hR true hlaid]
      rfl
  | cons r rest ih =>
    obtain ⟨hr, hrest⟩ := hR
    rw [lay] at hno ⊢
    by_cases hnil : r.pieces = []
    · rw [if_pos hnil] at hno ⊢
      dsimp only at hno ⊢
      split
      · rename_i hskip
        rw [if_pos hskip] at hno
        have ih := ih hrest depth true hno
        rcases hskip with rfl | hlay
        · exact ih
        · rw [hlay]
          rfl
      · rename_i hkeep
        rw [if_neg hkeep] at hno
        obtain ⟨-, hmore⟩ := List.forall_mem_cons.1 hno
        have ih := ih hrest depth true hmore
        rw [allEnded, lay, if_pos (by rfl), ih]
        exact if_neg hkeep
    · rw [if_neg hnil] at hno ⊢
      obtain ⟨hlaid, hmore⟩ := List.forall_mem_cons.1 hno
      have ih := ih hrest (r.depthAfter depth) false hmore
      rw [allEnded, lay, if_neg (by rwa [Row.lay_pieces_eq_nil]), Row.closers_lay,
        Row.depthAfter_lay, Row.lay_lay_cutEnd hr true hlaid, ih]

theorem laid_laid {R : Rows} (hR : R.IsWellCut) (hno : '\r' ∉ R.laid.chars) :
    R.laid.laid = R.laid := by
  by_cases hnil : R.lay 0 true = []
  · have hlaid : R.laid = allEnded [.empty] := by rw [laid, if_pos hnil]
    rw [hlaid]
    rfl
  · have hlaid : R.laid = allEnded (R.lay 0 true) := by rw [laid, if_neg hnil]
    rw [hlaid, chars_allEnded] at hno
    have hlay := lay_lay hR 0 true fun r hr hmem => hno
      (List.mem_flatMap.2 ⟨r, hr, List.mem_append_left _ hmem⟩)
    conv_rhs => rw [hlaid]
    rw [hlaid, laid, hlay, if_neg hnil]

end Rows

/-- **Laying out is idempotent** on sources whose carriage returns all stand before line feeds. -/
theorem layout_layout {s t : List Char} (hs : ReturnsEndLines s) (h : layout s = .ok t) :
    layout t = .ok t := by
  obtain ⟨R, hR, rfl, hbrackets, rfl⟩ := exists_rows_of_layout h
  have hno : '\r' ∉ R.laid.chars := by
    rw [← layOut_chars hR]
    exact no_return_layOut hs _
  have hcloses := (R.laid_settled hR 1 1).closes (checkBrackets_eq_ok_iff.1 hbrackets)
  have hcheck : checkBrackets [] (R.laid.tokens 1) = .ok () := checkBrackets_eq_ok_iff.2 hcloses
  rw [layout_chars hR.laid, hcheck, Rows.laid_laid hR hno]

/-- Line ends of both kinds, empty lines, and a row that ends one raw string and starts another. -/
theorem layout_layout_raw_strings :
    let s := "f(\r\n\r\n\n  \x60a\r\n  \x60 + \x60\n b\x60  \r\n )".toList
    let t := "f(\n\n\t\x60a\n  \x60 + \x60\n b\x60  \n)\n".toList
    ReturnsEndLines s ∧ layout s = .ok t ∧ layout t = .ok t := by
  have hs : ReturnsEndLines
      "f(\r\n\r\n\n  \x60a\r\n  \x60 + \x60\n b\x60  \r\n )".toList := by decide
  have h : layout "f(\r\n\r\n\n  \x60a\r\n  \x60 + \x60\n b\x60  \r\n )".toList =
      .ok "f(\n\n\t\x60a\n  \x60 + \x60\n b\x60  \n)\n".toList := by cbv
  exact ⟨hs, h, layout_layout hs h⟩

end Scribe.Source
