import Scribe.Source.Layout
import Scribe.Proofs.Source.Rows

/-!
# Laying out one row

What laying out does to a source is said here row by row: `Row.lay` replaces the blanks before the
first token by tabs, cuts blanks off the end of the row, and leaves every other character as it is,
but for the carriage returns before line feeds inside raw strings and block comments.

How much is cut off the end depends on how the row ends (`Row.cutEnd`).  A row on one line is
trimmed.  The last line of a longer row is kept as it stands, so that only the carriage return of
its line end goes, if it has one.
-/

namespace Scribe.Source

open Scribe.Text

/-! ## The text of a token -/

/-- The text that a token has in the laid-out source, where `cut` is what happens to the end of its
row. -/
def layText (cut : List Char → List Char) (kind : TokenKind) (text : List Char) : List Char :=
  match kind with
  | .lineComment => cut text
  | .rawString | .blockComment => dropReturns text
  | _ => text

variable {cut : List Char → List Char} {kind : TokenKind} {text : List Char} {next : Char}

theorem Fits.layText (hcut : CutsBlanks cut) (h : Fits kind text next) :
    Fits kind (layText cut kind text) next := by
  cases kind with
  | lineComment => exact h.cut_lineComment hcut
  | rawString => exact h.dropReturns_rawString
  | blockComment => exact h.dropReturns_blockComment
  | _ => exact h

/-- The first character stays. -/
theorem layText_cons (hcut : CutsBlanks cut) (kind : TokenKind) {c : Char} (hc : isBlank c = false)
    (more : List Char) : ∃ more', layText cut kind (c :: more) = c :: more' := by
  have hr : c ≠ '\r' := by
    rintro rfl
    simp at hc
  cases kind with
  | lineComment =>
    obtain ⟨t, -, ht, -⟩ := hcut.cons hc more
    exact ⟨t, ht⟩
  | rawString => exact ⟨_, dropReturns_cons_of_ne hr more⟩
  | blockComment => exact ⟨_, dropReturns_cons_of_ne hr more⟩
  | _ => exact ⟨more, rfl⟩

theorem newlines_layText (hcut : CutsBlanks cut) (h : Fits kind text next) :
    newlines (layText cut kind text) = newlines text := by
  cases kind with
  | lineComment =>
    have hn : '\n' ∉ text := h.no_newline (by simp) (by simp) (by simp)
    have hn' : '\n' ∉ cut text := by
      intro hm
      exact hn (hcut.mem hm)
    rw [layText, newlines_eq_zero.2 hn, newlines_eq_zero.2 hn']
  | rawString => exact newlines_dropReturns text
  | blockComment => exact newlines_dropReturns text
  | _ => rfl

/-- Carriage returns before line feeds are all that a token loses beside blanks at its end. -/
theorem layText_eq_dropReturns (h : Fits kind text next) (hk : kind ≠ .newline)
    (hline : kind ≠ .lineComment) : layText cut kind text = dropReturns text := by
  by_cases hraw : kind = .rawString
  · rw [hraw]
    rfl
  by_cases hblock : kind = .blockComment
  · rw [hblock]
    rfl
  rw [dropReturns_eq_self_of_no_newline (h.no_newline hk hraw hblock)]
  cases kind <;> first | rfl | contradiction

/-! ## Pieces -/

namespace Piece

/-- A piece as it stands in the laid-out source, inside its row. -/
def lay (cut : List Char → List Char) (p : Piece) : Piece :=
  { p with text := layText cut p.kind p.text }

end Piece

theorem firstOf_written_lay (hcut : CutsBlanks cut) {tail : List Char} {p : Piece}
    {ps : List Piece} (hp : WellCut tail (p :: ps)) (after after' : List Char) :
    firstOf (written ((p :: ps).map (Piece.lay cut)) ++ after') =
      firstOf (written (p :: ps) ++ after) := by
  obtain ⟨hgap, hkind, hfits, -⟩ := hp
  obtain ⟨c, more, htext, hc⟩ := hfits.exists_cons hkind
  obtain ⟨more', hmore'⟩ := layText_cons hcut p.kind hc more
  rw [List.map_cons, written_cons, written_cons]
  change firstOf (p.gap ++ (layText cut p.kind p.text ++ _) ++ after') = _
  rw [htext, hmore']
  cases p.gap <;> rfl

/-- Cutting blanks off the end of a row brings its last token to the end, where it still fits. -/
theorem WellCut.lay (hcut : CutsBlanks cut) {tail : List Char} {ps : List Piece}
    (h : WellCut tail ps) : WellCut (cut tail) (ps.map (Piece.lay cut)) := by
  induction ps with
  | nil => trivial
  | cons p ps ih =>
    obtain ⟨hgap, hkind, hfits, hrest⟩ := h
    refine ⟨hgap, hkind, ?_, ih hrest⟩
    refine Fits.layText hcut ?_
    cases ps with
    | nil =>
      simp only [List.map_nil, written_nil, List.nil_append] at hfits ⊢
      obtain ⟨w, -, hw⟩ := hcut tail
      cases hct : cut tail with
      | nil => exact hfits.at_lineEnd
      | cons c t =>
        rw [hct] at hw
        rw [hw] at hfits
        exact hfits
    | cons q ps =>
      rw [firstOf_written_lay hcut hrest tail (cut tail)]
      exact hfits

theorem newlines_written_lay (hcut : CutsBlanks cut) {tail : List Char} {ps : List Piece}
    (h : WellCut tail ps) :
    newlines (written (ps.map (Piece.lay cut))) = newlines (written ps) := by
  induction ps with
  | nil => rfl
  | cons p ps ih =>
    obtain ⟨-, -, hfits, hrest⟩ := h
    have htext : newlines (p.lay cut).text = newlines p.text := newlines_layText hcut hfits
    rw [List.map_cons, written_cons, written_cons, newlines_append, newlines_append,
      newlines_append, newlines_append, ih hrest, htext]
    rfl

/-! ## Rows -/

namespace Row

/-- A row laid out with `tabs` tabs before its first token. -/
def lay (tabs : Nat) (cut : List Char → List Char) (r : Row) : Row :=
  match r.pieces with
  | [] => empty
  | p :: ps => ⟨{ p.lay cut with gap := List.replicate tabs '\t' } :: ps.map (Piece.lay cut),
      cut r.tail⟩

/-- What is cut off the end of a row. -/
def cutEnd (ended : Bool) (r : Row) : List Char → List Char :=
  if r.height = 0 then trimEnd else if ended then dropReturn else id

theorem cutsBlanks_cutEnd (ended : Bool) (r : Row) : CutsBlanks (r.cutEnd ended) := by
  unfold cutEnd
  split
  · exact cutsBlanks_trimEnd
  split
  · exact cutsBlanks_dropReturn
  · exact cutsBlanks_id

theorem lay_pieces_eq_nil {tabs : Nat} {r : Row} :
    (r.lay tabs cut).pieces = [] ↔ r.pieces = [] := by
  unfold lay
  split <;> rename_i hp <;> simp [hp, empty]

theorem IsWellCut.lay (hcut : CutsBlanks cut) {r : Row} (h : r.IsWellCut) (tabs : Nat) :
    (r.lay tabs cut).IsWellCut := by
  unfold Row.lay
  split
  · exact isWellCut_empty
  · rename_i p ps hp
    obtain ⟨hcutPieces, htail⟩ := h
    rw [hp] at hcutPieces
    obtain ⟨-, hkind, hfits, hrest⟩ := hcutPieces.lay hcut
    have htabs : ∀ c ∈ List.replicate tabs '\t', isGap c := by
      intro c hc
      rw [List.eq_of_mem_replicate hc]
      rfl
    have htail' : ∀ c ∈ cut r.tail, isGap c := by
      intro c hc
      exact htail c (hcut.mem hc)
    exact ⟨⟨htabs, hkind, hfits, hrest⟩, htail'⟩

theorem height_lay (hcut : CutsBlanks cut) {r : Row} (h : r.IsWellCut) (tabs : Nat) :
    (r.lay tabs cut).height = r.height := by
  have hn : newlines (List.replicate tabs '\t') = 0 := newlines_eq_zero.2 (by simp)
  unfold Row.lay height
  split
  · rename_i hp
    rw [hp]
    rfl
  · rename_i p ps hp
    obtain ⟨hcutPieces, -⟩ := h
    rw [hp] at hcutPieces ⊢
    have hgap := no_newline_of_gap hcutPieces.1
    rw [← newlines_written_lay hcut hcutPieces, List.map_cons, written_cons, written_cons,
      newlines_append, newlines_append, newlines_append, newlines_append, hn]
    change _ = newlines p.gap + _
    rw [newlines_eq_zero.2 hgap]

/-- A row with a token does not end in a line feed of its own. -/
theorem getLast?_chars {r : Row} (h : r.IsWellCut) : r.chars.getLast? ≠ some '\n' := by
  obtain ⟨hcut, htail⟩ := h
  intro hlast
  rw [chars, List.getLast?_append] at hlast
  cases htl : r.tail.getLast? with
  | some c =>
    rw [htl] at hlast
    obtain rfl : c = '\n' := by simpa using hlast
    exact no_newline_of_gap htail (List.mem_of_getLast? htl)
  | none =>
    rw [htl] at hlast
    simp only [Option.none_or] at hlast
    rcases List.eq_nil_or_concat r.pieces with hp | ⟨ps, p, hp⟩
    · rw [hp] at hlast
      simp at hlast
    · have hmem : p ∈ r.pieces := by simp [hp]
      obtain ⟨hgap, hkind, next, hfits⟩ := hcut.mem hmem
      have hwritten : written r.pieces = written ps ++ p.gap ++ p.text := by
        rw [hp, List.concat_eq_append]
        simp [written]
      rw [hwritten, List.getLast?_append] at hlast
      obtain ⟨c, hc⟩ : ∃ c, p.text.getLast? = some c :=
        ⟨_, List.getLast?_eq_some_getLast hfits.ne_nil⟩
      rw [hc] at hlast
      obtain rfl : c = '\n' := by simpa using hlast
      by_cases hline : p.kind = .lineComment
      · rw [hline] at hfits
        exact hfits.no_newline (by simp) (by simp) (by simp) (List.mem_of_getLast? hc)
      · have := hfits.isBlank_getLast hkind hline '\n' hc
        simp at this

end Row

/-! ## The characters of a laid-out row -/

/-- A line end follows a row directly only where the row is over. -/
theorem eq_nil_of_firstOf {tail : List Char} {ps : List Piece} (h : WellCut tail ps)
    (htail : ∀ c ∈ tail, isGap c) (hfirst : firstOf (written ps ++ tail) = '\n') :
    ps = [] ∧ tail = [] := by
  have hgap : ∀ {g : List Char}, (∀ c ∈ g, isGap c) → ∀ s, firstOf (g ++ s) = '\n' →
      g = [] := by
    intro g hg s hs
    cases g with
    | nil => rfl
    | cons c g =>
      rw [List.cons_append, firstOf_cons] at hs
      exact absurd (hs ▸ List.mem_cons_self) (no_newline_of_gap hg)
  cases ps with
  | nil =>
    rw [written_nil, List.nil_append, ← List.append_nil tail] at hfirst
    exact ⟨rfl, hgap htail [] hfirst⟩
  | cons p ps =>
    obtain ⟨hg, hkind, hfits, -⟩ := h
    obtain ⟨c, more, htext, hc⟩ := hfits.exists_cons hkind
    rw [written_cons, List.append_assoc] at hfirst
    rw [hgap hg _ hfirst, htext] at hfirst
    obtain rfl : c = '\n' := hfirst
    simp at hc

theorem layText_eq_self (h : Fits kind text next) (hk : kind ≠ .newline)
    (hline : kind ≠ .lineComment) (hn : '\n' ∉ text) : layText cut kind text = text := by
  rw [layText_eq_dropReturns h hk hline, dropReturns_eq_self_of_no_newline hn]

/-- Dropping the carriage returns of a row is laying out its pieces, when `cut` is what happens to
the end of a line that `ending` follows. -/
theorem dropReturns_written {ending : List Char} (hcut : CutsBlanks cut)
    (hending : ∀ s, '\n' ∉ s → dropReturns (s ++ ending) = cut s ++ ending) {tail : List Char}
    {ps : List Piece} (h : WellCut tail ps) (htail : ∀ c ∈ tail, isGap c) :
    dropReturns (written ps ++ (tail ++ ending)) =
      written (ps.map (Piece.lay cut)) ++ (cut tail ++ ending) := by
  induction ps with
  | nil => exact hending tail (no_newline_of_gap htail)
  | cons p ps ih =>
    obtain ⟨hgap, hkind, hfits, hrest⟩ := h
    obtain ⟨c, more, htext, hc⟩ := hfits.exists_cons hkind
    have hhead : (p.text ++ (written ps ++ (tail ++ ending))).head? ≠ some '\n' := by
      rw [htext, List.cons_append, List.head?_cons]
      rintro hcn
      obtain rfl := Option.some.inj hcn
      simp at hc
    have hself : dropReturns p.gap = p.gap :=
      dropReturns_eq_self_of_no_newline (no_newline_of_gap hgap)
    have hpiece : dropReturns (p.text ++ (written ps ++ (tail ++ ending))) =
        layText cut p.kind p.text ++
          (written (ps.map (Piece.lay cut)) ++ (cut tail ++ ending)) := by
      by_cases hline : p.kind = .lineComment
      · -- Nothing follows a line comment on its row, so that its end is the end of the row.
        rw [hline] at hfits
        obtain ⟨rfl, rfl⟩ := eq_nil_of_firstOf hrest htail hfits.next_of_lineComment
        have hn := hfits.no_newline (by simp) (by simp) (by simp)
        simpa [hline, layText, hcut.nil] using hending p.text hn
      · have hlast : p.text.getLast? ≠ some '\r' := by
          intro hr
          have := hfits.isBlank_getLast hkind hline '\r' hr
          simp at this
        rw [dropReturns_append (.inl hlast), ih hrest,
          layText_eq_dropReturns hfits hkind hline]
    rw [written_cons, List.append_assoc, List.append_assoc, dropReturns_append (.inr hhead), hself,
      hpiece, List.map_cons, written_cons]
    simp [Piece.lay]

/-- Trimming the end of a row on one line is laying out its pieces and dropping its tail. -/
theorem trimEnd_written {tail : List Char} {p : Piece} {ps : List Piece}
    (h : WellCut tail (p :: ps)) (htail : ∀ c ∈ tail, isGap c)
    (hn : '\n' ∉ written (p :: ps)) :
    trimEnd (written (p :: ps) ++ tail) = written ((p :: ps).map (Piece.lay trimEnd)) := by
  have hne : ∀ {t : List Char}, (∃ c more, t = c :: more ∧ isBlank c = false) → trimEnd t ≠ [] := by
    rintro t ⟨c, more, rfl, hc⟩
    rw [trimEnd_cons hc]
    simp
  induction ps generalizing p with
  | nil =>
    obtain ⟨hgap, hkind, hfits, -⟩ := h
    have htext : trimEnd p.text = layText trimEnd p.kind p.text := by
      by_cases hline : p.kind = .lineComment
      · rw [hline]
        rfl
      · have hn' : '\n' ∉ p.text := by
          intro hm
          exact hn (by simp [hm])
        rw [trimEnd_eq_self (hfits.isBlank_getLast hkind hline),
          layText_eq_self hfits hkind hline hn']
    rw [trimEnd_append_blanks _ fun c hc => isBlank_of_isGap (htail c hc)]
    simp only [written_cons, written_nil, List.append_nil, List.map_cons, List.map_nil]
    rw [trimEnd_append _ (hne (hfits.exists_cons hkind)), htext]
    rfl
  | cons q ps ih =>
    obtain ⟨hgap, hkind, hfits, hrest⟩ := h
    have hline : p.kind ≠ .lineComment := by
      intro hline
      rw [hline] at hfits
      exact absurd (eq_nil_of_firstOf hrest htail hfits.next_of_lineComment).1 (by simp)
    rw [written_cons] at hn
    have hn' : '\n' ∉ p.text := by
      intro hm
      exact hn (by simp [hm])
    have hrest' := ih hrest fun hm => hn (by simp only [List.mem_append, hm, or_true])
    have hnil : trimEnd (written (q :: ps) ++ tail) ≠ [] := by
      have hq := hrest.2.2.1
      obtain ⟨c, more, hc, hb⟩ := (hq.layText cutsBlanks_trimEnd).exists_cons hrest.2.1
      rw [hrest', List.map_cons, written_cons]
      simp [Piece.lay, hc]
    rw [written_cons, ← List.append_assoc, List.append_assoc, trimEnd_append _ hnil, hrest',
      List.map_cons (a := p), written_cons]
    simp [Piece.lay, layText_eq_self hfits hkind hline hn']

end Scribe.Source
