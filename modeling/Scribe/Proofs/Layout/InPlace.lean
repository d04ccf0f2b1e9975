import Mathlib.Data.List.Forall2
import Scribe.Proofs.Layout.Rows
import Scribe.Proofs.Source.Brackets
import Scribe.Proofs.Source.Spelling

/-!
# Sources whose lines are in place

A generated file is written with its indentation, so laying it out should change nothing but the
blanks at the ends of its lines.  This module says when that is so.  A `CodeLine` is a line with the
tokens that it spells and the tabs before them.  Going down the lines, `CodeLine.place` keeps the
stack of open brackets and whether the line before was empty, and checks of each line that its tabs
are the ones laying out would give it.  A `Sheet` is a list of lines that passes: it starts outside
all brackets, as if after an empty line, and ends outside all brackets, after a line with tokens.

The check looks at kinds of tokens alone, so it can be evaluated on lines whose identifiers and
literals are not known (`Sheet.layout_source`, `Sheet.tokenize_laid`).  Lines of unknown number are
passed over at once when they hold no brackets (`foldlM_place_of_plain`).
-/

namespace Scribe.Source

open Scribe.Text

/-! ## Brackets as a stack -/

/-- The brackets that are open after some tokens, innermost first, if those nest. -/
def nest (stack : List Bracket) : List Token → Option (List Bracket)
  | [] => some stack
  | t :: ts =>
    match t.opens?, t.closes? with
    | some b, _ => nest (b :: stack) ts
    | none, none => nest stack ts
    | none, some b =>
      match stack with
      | [] => none
      | o :: outer => if o = b then nest outer ts else none

theorem Closes.of_nest {stack stack' : List Bracket} {ts us : List Token}
    (h : nest stack ts = some stack') (hus : Closes stack' us) : Closes stack (ts ++ us) := by
  induction ts generalizing stack with
  | nil =>
    obtain rfl := Option.some.inj h
    exact hus
  | cons t ts ih =>
    rw [nest] at h
    cases ho : t.opens? with
    | some b =>
      rw [ho] at h
      exact .opening ho (ih h)
    | none =>
      cases hc : t.closes? with
      | none =>
        rw [ho, hc] at h
        exact .other ho hc (ih h)
      | some b =>
        rw [ho, hc] at h
        cases stack with
        | nil => simp at h
        | cons o outer =>
          dsimp only at h
          split at h
          · rename_i hob
            exact hob ▸ .closing hc (ih h)
          · simp at h

/-- Counting open brackets gives the height of the stack. -/
theorem foldl_depthAfter_of_nest {stack stack' : List Bracket} {ts : List Token}
    (h : nest stack ts = some stack') :
    ts.foldl (fun d t => t.depthAfter d) stack.length = stack'.length := by
  induction ts generalizing stack with
  | nil =>
    obtain rfl := Option.some.inj h
    rfl
  | cons t ts ih =>
    rw [nest] at h
    rw [List.foldl_cons]
    cases ho : t.opens? with
    | some b =>
      rw [ho] at h
      rw [Token.depthAfter_of_opens? ho, ← ih h, List.length_cons]
    | none =>
      cases hc : t.closes? with
      | none =>
        rw [ho, hc] at h
        rw [Token.depthAfter_of_other ho hc, ← ih h]
      | some b =>
        rw [ho, hc] at h
        cases stack with
        | nil => simp at h
        | cons o outer =>
          dsimp only at h
          split at h
          · rw [Token.depthAfter_of_closes? hc, List.length_cons, Nat.add_sub_cancel, ih h]
          · simp at h

theorem nest_on (stack : List Bracket) (fs : List Face) (line line' : Nat) :
    nest stack (fs.map (Face.on line)) = nest stack (fs.map (Face.on line')) := by
  induction fs generalizing stack with
  | nil => rfl
  | cons f fs ih =>
    have hopens : (f.on line).opens? = (f.on line').opens? := rfl
    have hcloses : (f.on line).closes? = (f.on line').closes? := rfl
    rw [List.map_cons, List.map_cons, nest, nest, hopens, hcloses]
    simp only [ih]

/-- A token that is no bracket. -/
def Token.NoBracket (t : Token) : Prop := t.opens? = none ∧ t.closes? = none

instance (t : Token) : Decidable t.NoBracket :=
  inferInstanceAs (Decidable (t.opens? = none ∧ t.closes? = none))

/-! ## Lines -/

/-- A line of code: the tabs before its text, and the tokens of the text. -/
structure CodeLine where
  tabs : Nat
  text : List Char
  faces : List Face
  spells : Spells text faces '\n'
  /-- All blanks before the first token are tabs. -/
  starts : text.head?.all (!isBlank ·)

namespace CodeLine

/-- The characters of a line. -/
def chars (l : CodeLine) : List Char := List.replicate l.tabs '\t' ++ l.text

/-- The number of closing brackets that a line begins with. -/
def closers (l : CodeLine) : Nat :=
  ((l.faces.map (Face.on 0)).takeWhile Token.isClose).length

/-- Checks that a line is in place where some brackets are open and the line before is empty or not,
and gives the same for the line after it. -/
def place (state : List Bracket × Bool) (l : CodeLine) : Option (List Bracket × Bool) :=
  match l.faces with
  | [] => if state.2 then none else some (state.1, true)
  | _ :: _ =>
    if l.tabs = state.1.length - l.closers then
      (nest state.1 (l.faces.map (Face.on 0))).map fun stack => (stack, false)
    else none

/-- What becomes of a token when its line is laid out. -/
def layFace (f : Face) : Face := if f.1 = .lineComment then (f.1, trimEnd f.2) else f

theorem noBracket_layFace {f : Face} : ((layFace f).on 0).NoBracket ↔ (f.on 0).NoBracket := by
  unfold layFace
  split <;> rfl

/-- The tokens of a line that is laid out. -/
def laidFaces (l : CodeLine) : List Face := l.faces.map layFace

theorem newline_not_mem_chars (l : CodeLine) : '\n' ∉ l.chars := by
  rw [chars, List.mem_append, not_or]
  exact ⟨by simp [List.mem_replicate], l.spells.1⟩

theorem text_eq_nil {l : CodeLine} (h : l.faces = []) : l.text = [] := by
  have hread := l.spells.tokenize_eq
  cases htext : l.text with
  | nil => rfl
  | cons c rest =>
    have hc : isBlank c = false := by simpa [htext] using l.starts
    rw [h, htext, tokenize, tokenizeFrom_cons (isGap_of_not_isBlank hc)] at hread
    cases hx : lexeme c rest with
    | error e => simp [hx] at hread
    | ok x =>
      rw [hx] at hread
      obtain ⟨ts, -, hts⟩ := exists_of_map_eq_ok hread
      exact absurd hts (by simp)

theorem exists_text {l : CodeLine} (h : l.faces ≠ []) :
    ∃ c rest, l.text = c :: rest ∧ isBlank c = false := by
  cases htext : l.text with
  | nil =>
    have hread := l.spells.tokenize_eq
    rw [htext, tokenize, tokenizeFrom_of_gap (by simp)] at hread
    have hnil := List.map_eq_nil_iff.1 (Except.ok.inj hread).symm
    exact absurd hnil h
  | cons c rest => exact ⟨c, rest, rfl, by simpa [htext] using l.starts⟩

end CodeLine

/-! ## Lines as rows -/

theorem tokensOf_eq_map_on {ps : List Piece} (h : '\n' ∉ written ps) (line : Nat) :
    tokensOf line ps = (ps.map fun p => (p.kind, p.text)).map (Face.on line) := by
  rw [tokensOf_of_no_newline h, ← map_face_tokensOf 1, List.map_map]
  have hlines : ∀ t ∈ tokensOf 1 ps, t.onLine line = (t.face).on line := fun _ _ => rfl
  exact List.map_congr_left hlines

namespace CodeLine

/-- The row that is a line. -/
structure Is (l : CodeLine) (r : Row) : Prop where
  cut : r.IsWellCut
  chars_eq : r.chars = l.chars
  faces_eq : r.pieces.map (fun p => (p.kind, p.text)) = l.faces

theorem exists_is (l : CodeLine) : ∃ r, l.Is r := by
  have htabs : ∀ c ∈ List.replicate l.tabs '\t', isGap c := by
    intro c hc
    rw [List.eq_of_mem_replicate hc]
    rfl
  have hread : tokenize l.chars = .ok (l.faces.map (Face.on 1)) := by
    rw [tokenize, chars, tokenizeFrom_gap htabs]
    exact l.spells.tokenize_eq
  obtain ⟨r, hr, hchars, htokens⟩ := exists_row hread l.newline_not_mem_chars
  refine ⟨r, hr, hchars, ?_⟩
  rw [← map_face_tokensOf 1, htokens, map_face_on]

namespace Is

variable {l : CodeLine} {r : Row}

theorem no_newline (h : l.Is r) : '\n' ∉ written r.pieces := by
  intro hn
  have hmem : '\n' ∈ r.chars := List.mem_append_left _ hn
  rw [h.chars_eq] at hmem
  exact l.newline_not_mem_chars hmem

theorem height_eq (h : l.Is r) : r.height = 0 := newlines_eq_zero.2 h.no_newline

theorem tokensOf_eq (h : l.Is r) (line : Nat) :
    tokensOf line r.pieces = l.faces.map (Face.on line) := by
  rw [tokensOf_eq_map_on h.no_newline, h.faces_eq]

theorem closers_eq (h : l.Is r) : r.closers = l.closers := by
  rw [Row.closers, h.tokensOf_eq, CodeLine.closers]

theorem pieces_eq_nil_iff (h : l.Is r) : r.pieces = [] ↔ l.faces = [] := by
  rw [← h.faces_eq, List.map_eq_nil_iff]

end Is

/-- The row that is a line when it is laid out. -/
structure IsLaid (l : CodeLine) (r : Row) : Prop where
  cut : r.IsWellCut
  chars_eq : r.chars = trimEnd l.chars
  faces_eq : r.pieces.map (fun p => (p.kind, p.text)) = l.laidFaces

theorem isLaid_empty {l : CodeLine} (h : l.faces = []) : l.IsLaid .empty := by
  refine ⟨Row.isWellCut_empty, ?_, by simp [laidFaces, h, Row.empty]⟩
  have hblank : ∀ c ∈ List.replicate l.tabs '\t', isBlank c := by
    intro c hc
    rw [List.eq_of_mem_replicate hc]
    rfl
  rw [chars, text_eq_nil h, List.append_nil, trimEnd_eq_nil hblank]
  rfl

theorem layText_eq (f : Face) (h : '\n' ∉ f.2) : (f.1, layText trimEnd f.1 f.2) = layFace f := by
  obtain ⟨kind, text⟩ := f
  have hself : dropReturns text = text := dropReturns_eq_self_of_no_newline h
  cases kind <;> simp [layText, layFace, hself]

/-- **A line that is in place only loses the blanks at its end.** -/
theorem Is.lay {l : CodeLine} {r : Row} (h : l.Is r) (hne : l.faces ≠ []) :
    l.IsLaid (r.lay l.tabs trimEnd) := by
  have hpieces : r.pieces ≠ [] := mt h.pieces_eq_nil_iff.1 hne
  refine ⟨h.cut.lay cutsBlanks_trimEnd l.tabs, ?_, ?_⟩
  · obtain ⟨line, hlines, -, hlay⟩ := Row.exists_line h.cut hpieces h.height_eq false l.tabs
    obtain ⟨c, rest, htext, hc⟩ := exists_text hne
    have hself : lines (r.chars ++ endOf false) = [r.chars] := by
      have hn : '\n' ∉ r.chars := h.chars_eq ▸ l.newline_not_mem_chars
      have hnil : r.chars ≠ [] := by simp [h.chars_eq, chars, htext]
      simpa [endOf] using lines_of_no_newline hn hnil
    obtain rfl : r.chars = line := by simpa [hself] using hlines
    have htabs : ∀ d ∈ List.replicate l.tabs '\t', isBlank d := by
      intro d hd
      rw [List.eq_of_mem_replicate hd]
      rfl
    have htrim : trimEnd l.text ≠ [] := by
      rw [htext, trimEnd_cons hc]
      simp
    rw [← hlay, h.chars_eq, chars, trim_append htabs, trimEnd_append _ htrim, htext, trim_cons hc,
      trimEnd_cons hc]
  · have hfaces : (r.lay l.tabs trimEnd).pieces.map (fun p => (p.kind, p.text)) =
        r.pieces.map fun p => (p.kind, layText trimEnd p.kind p.text) := by
      rw [Row.lay]
      split
      · rename_i hnil
        exact absurd hnil hpieces
      · rename_i p ps hp
        simp [hp, Piece.lay, Function.comp_def]
    rw [hfaces, laidFaces, ← h.faces_eq, List.map_map]
    refine List.map_congr_left fun p hp => layText_eq (p.kind, p.text) ?_
    intro hn
    exact h.no_newline (List.mem_flatMap.2 ⟨p, hp, List.mem_append_right _ hn⟩)

end CodeLine

/-! ## Lines one after the other -/

theorem exists_forall₂ {α β : Type} {P : α → β → Prop} {xs : List α}
    (h : ∀ x ∈ xs, ∃ y, P x y) : ∃ ys, List.Forall₂ P xs ys := by
  induction xs with
  | nil => exact ⟨[], .nil⟩
  | cons x xs ih =>
    rw [List.forall_mem_cons] at h
    obtain ⟨y, hy⟩ := h.1
    obtain ⟨ys, hys⟩ := ih h.2
    exact ⟨y :: ys, .cons hy hys⟩

namespace Rows

/-- Rows with a line feed between any two of them. -/
def joined : List Row → Rows
  | [] => last .empty
  | [r] => last r
  | r :: s :: rs => cons r (joined (s :: rs))

theorem chars_joined (rs : List Row) :
    (joined rs).chars = ['\n'].intercalate (rs.map Row.chars) := by
  induction rs with
  | nil => rfl
  | cons r rs ih =>
    cases rs with
    | nil => simp [joined, chars]
    | cons s rs => simp [joined, chars, ih, List.intercalate_cons_cons]

theorem isWellCut_joined {rs : List Row} (h : ∀ r ∈ rs, r.IsWellCut) : (joined rs).IsWellCut := by
  induction rs with
  | nil => exact Row.isWellCut_empty
  | cons r rs ih =>
    rw [List.forall_mem_cons] at h
    cases rs with
    | nil => exact h.1
    | cons s rs => exact ⟨h.1, ih h.2⟩

end Rows

/-- The tokens of some lines, each of which is ended. -/
def tokensOn (line : Nat) : List (List Face) → List Token
  | [] => []
  | fs :: rest => fs.map (Face.on line) ++ lineEnd line :: tokensOn (line + 1) rest

namespace CodeLine

variable {stack outer : List Bracket} {afterEmpty : Bool} {l : CodeLine} {r : Row}
  {next : List Bracket × Bool}

/-- What the check says of a line. -/
theorem place_cases (h : place (stack, afterEmpty) l = some next) :
    (l.faces = [] ∧ afterEmpty = false ∧ next = (stack, true)) ∨
      (l.faces ≠ [] ∧ l.tabs = stack.length - l.closers ∧
        ∃ stack', nest stack (l.faces.map (Face.on 0)) = some stack' ∧ next = (stack', false)) := by
  unfold place at h
  split at h
  · rename_i hnil
    split at h
    · simp at h
    · rename_i hempty
      exact .inl ⟨hnil, by simpa using hempty, (Option.some.inj h).symm⟩
  · rename_i f fs hcons
    split at h
    · rename_i htabs
      obtain ⟨stack', hnest, rfl⟩ := Option.map_eq_some_iff.1 h
      exact .inr ⟨by simp [hcons], htabs, stack', hnest, rfl⟩
    · simp at h

theorem foldlM_place_cons {ls : List CodeLine} {state final : List Bracket × Bool}
    (h : (l :: ls).foldlM place state = some final) :
    ∃ next, place state l = some next ∧ ls.foldlM place next = some final := by
  rw [List.foldlM_cons] at h
  exact Option.bind_eq_some_iff.1 h

theorem depthAfter_row (h : l.Is r) {stack' : List Bracket}
    (hnest : nest stack (l.faces.map (Face.on 0)) = some stack') :
    r.depthAfter stack.length = stack'.length := by
  rw [Row.depthAfter, h.tokensOf_eq, foldl_depthAfter_of_nest hnest]

theorem cutEnd_row (h : l.Is r) (ended : Bool) : r.cutEnd ended = trimEnd := by
  rw [Row.cutEnd, if_pos h.height_eq]

/-- **Lines in place are laid out one by one.**  By induction on the lines, with the brackets that
are open and what is known of the line before. -/
theorem lay_joined {ls : List CodeLine} {rs : List Row} (h : List.Forall₂ Is ls rs)
    (hplace : ls.foldlM place (stack, afterEmpty) = some (outer, false)) :
    List.Forall₂ IsLaid ls ((Rows.joined rs).lay stack.length afterEmpty) := by
  induction h generalizing stack afterEmpty with
  | nil => exact .nil
  | @cons l r ls rs hr hrest ih =>
    obtain ⟨next, hfirst, hmore⟩ := foldlM_place_cons hplace
    obtain ⟨hnil, rfl, rfl⟩ | ⟨hne, htabs, stack', hnest, rfl⟩ := place_cases hfirst
    · -- An empty line stays, because a line with tokens comes after it.
      have hlaid := ih hmore
      have hpieces : r.pieces = [] := hr.pieces_eq_nil_iff.2 hnil
      cases hrest with
      | nil => simp at hmore
      | @cons l' r' ls' rs' hr' hrest' =>
        have hsome : (Rows.joined (r' :: rs')).lay stack.length true ≠ [] := by
          intro hlay
          rw [hlay] at hlaid
          cases hlaid
        rw [Rows.joined, Rows.lay, if_pos hpieces]
        dsimp only
        rw [if_neg (by simp [hsome])]
        exact .cons (isLaid_empty hnil) hlaid
    · have hlaid := ih hmore
      have hpieces : ¬ r.pieces = [] := mt hr.pieces_eq_nil_iff.1 hne
      have hline := hr.lay hne
      rw [htabs, ← hr.closers_eq] at hline
      cases hrest with
      | nil =>
        rw [Rows.joined, Rows.lay, if_neg hpieces, cutEnd_row hr]
        exact .cons hline .nil
      | @cons l' r' ls' rs' hr' hrest' =>
        rw [Rows.joined, Rows.lay, if_neg hpieces, cutEnd_row hr, depthAfter_row hr hnest]
        exact .cons hline hlaid

/-- Lines in place that end outside all brackets nest. -/
theorem closes_joined {ls : List CodeLine} {rs : List Row} (h : List.Forall₂ Is ls rs)
    (hplace : ls.foldlM place (stack, afterEmpty) = some ([], false)) (line : Nat) :
    Closes stack ((Rows.joined rs).tokens line) := by
  induction h generalizing stack afterEmpty line with
  | nil =>
    obtain ⟨rfl, -⟩ := Prod.mk.inj (Option.some.inj hplace)
    exact .nil
  | @cons l r ls rs hr hrest ih =>
    obtain ⟨next, hfirst, hmore⟩ := foldlM_place_cons hplace
    obtain ⟨stack', hnest, hnext⟩ : ∃ stack', nest stack (l.faces.map (Face.on line)) =
        some stack' ∧ next.1 = stack' := by
      obtain ⟨hnil, -, rfl⟩ | ⟨-, -, stack', hnest, rfl⟩ := place_cases hfirst
      · exact ⟨stack, by simp [hnil, nest], rfl⟩
      · exact ⟨stack', by rw [nest_on stack l.faces line 0, hnest], rfl⟩
    have htokens := hr.tokensOf_eq line
    cases hrest with
    | nil =>
      obtain rfl := Option.some.inj hmore
      obtain rfl : [] = stack' := hnext
      have hclose := Closes.of_nest hnest .nil
      rw [List.append_nil] at hclose
      rw [Rows.joined, Rows.tokens, htokens]
      exact hclose
    | @cons l' r' ls' rs' hr' hrest' =>
      have hline : (lineEnd (line + r.height)).isSignificant = false := rfl
      subst hnext
      rw [Rows.joined, Rows.tokens, htokens]
      exact Closes.of_nest hnest ((Closes.insignificant_iff hline).2 (ih hmore _))

/-- The tokens of lines that are laid out. -/
theorem tokens_allEnded {ls : List CodeLine} {rs : List Row} (h : List.Forall₂ IsLaid ls rs)
    (line : Nat) :
    (Rows.allEnded rs).tokens line = tokensOn line (ls.map laidFaces) := by
  induction h generalizing line with
  | nil => rfl
  | @cons l r ls rs hr _ ih =>
    have hn : '\n' ∉ written r.pieces := by
      intro hn
      have hmem : '\n' ∈ r.chars := List.mem_append_left _ hn
      rw [hr.chars_eq] at hmem
      exact l.newline_not_mem_chars (cutsBlanks_trimEnd.mem hmem)
    have hheight : r.height = 0 := newlines_eq_zero.2 hn
    rw [Rows.allEnded, Rows.tokens, hheight, Nat.add_zero, ih, tokensOf_eq_map_on hn, hr.faces_eq]
    rfl

theorem chars_allEnded {ls : List CodeLine} {rs : List Row} (h : List.Forall₂ IsLaid ls rs) :
    (Rows.allEnded rs).chars = unlines (ls.map fun l => trimEnd l.chars) := by
  induction h with
  | nil => rfl
  | @cons l r ls rs hr _ ih => simp [Rows.allEnded, Rows.chars, ih, hr.chars_eq]

theorem exists_rows_is (ls : List CodeLine) : ∃ rs, List.Forall₂ Is ls rs :=
  exists_forall₂ fun l _ => l.exists_is

theorem map_chars_of_is {ls : List CodeLine} {rs : List Row} (h : List.Forall₂ Is ls rs) :
    rs.map Row.chars = ls.map chars := by
  induction h with
  | nil => rfl
  | cons hr _ ih => simp [hr.chars_eq, ih]

theorem isWellCut_of_is {ls : List CodeLine} {rs : List Row} (h : List.Forall₂ Is ls rs) :
    ∀ r ∈ rs, r.IsWellCut := by
  induction h with
  | nil => simp
  | cons hr _ ih => exact List.forall_mem_cons.2 ⟨hr.cut, ih⟩

/-- Lines without brackets, as deep as the brackets around them, are in place. -/
theorem foldlM_place_of_plain {ls : List CodeLine}
    (h : ∀ l ∈ ls, l.faces ≠ [] ∧ l.tabs = stack.length ∧
      ∀ f ∈ l.faces, (f.on 0).NoBracket) :
    ls.foldlM place (stack, false) = some (stack, false) := by
  have hnest : ∀ fs : List Face, (∀ f ∈ fs, (f.on 0).NoBracket) →
      nest stack (fs.map (Face.on 0)) = some stack := by
    intro fs hfs
    induction fs with
    | nil => rfl
    | cons f fs ih =>
      rw [List.forall_mem_cons] at hfs
      rw [List.map_cons, nest, hfs.1.1, hfs.1.2]
      exact ih hfs.2
  induction ls with
  | nil => rfl
  | cons l ls ih =>
    obtain ⟨⟨hne, htabs, hplain⟩, hrest⟩ := List.forall_mem_cons.1 h
    have hclosers : l.closers = 0 := by
      rw [closers, List.length_eq_zero_iff, List.takeWhile_eq_nil_iff]
      intro hlen
      obtain ⟨f, hf, hget⟩ := List.mem_map.1
        (List.get_mem (l.faces.map (Face.on 0)) ⟨0, hlen⟩)
      rw [← hget, Token.isClose, (hplain f hf).2]
      simp
    have hplace : place (stack, false) l = some (stack, false) := by
      obtain ⟨f, fs, hfaces⟩ := List.exists_cons_of_ne_nil hne
      unfold place
      rw [hfaces]
      dsimp only
      rw [← hfaces, if_pos (by rw [htabs, hclosers]; rfl), hnest _ hplain]
      rfl
    rw [List.foldlM_cons, hplace]
    exact ih hrest

/-- Lines around lines without brackets, one level deep, are in place when they are so without
them. -/
theorem foldlM_place_inside {above inside below : List CodeLine} {state : List Bracket × Bool}
    (habove : above.foldlM place state = some (stack, false))
    (hinside : ∀ l ∈ inside, l.faces ≠ [] ∧ l.tabs = stack.length ∧
      ∀ f ∈ l.faces, (f.on 0).NoBracket)
    {final : List Bracket × Bool} (hbelow : below.foldlM place (stack, false) = some final) :
    (above ++ (inside ++ below)).foldlM place state = some final := by
  rw [List.foldlM_append, habove]
  show (inside ++ below).foldlM place (stack, false) = _
  rw [List.foldlM_append, foldlM_place_of_plain hinside]
  exact hbelow

end CodeLine

/-! ## Whole sources -/

/-- A source whose lines are all in place. -/
structure Sheet where
  lines : List CodeLine
  placed : lines.foldlM CodeLine.place ([], true) = some ([], false)

namespace Sheet

/-- The source, its last line not ended. -/
def source (s : Sheet) : List Char := ['\n'].intercalate (s.lines.map CodeLine.chars)

/-- The source with each line ended, and without blanks before the line ends. -/
def laid (s : Sheet) : List Char := unlines (s.lines.map fun l => trimEnd l.chars)

theorem exists_rows (s : Sheet) :
    ∃ rs : List Row, List.Forall₂ CodeLine.Is s.lines rs ∧
      List.Forall₂ CodeLine.IsLaid s.lines ((Rows.joined rs).lay 0 true) := by
  obtain ⟨rs, hrs⟩ := CodeLine.exists_rows_is s.lines
  exact ⟨rs, hrs, CodeLine.lay_joined hrs s.placed⟩

theorem laid_rows {s : Sheet} {rs : List Row}
    (h : List.Forall₂ CodeLine.IsLaid s.lines ((Rows.joined rs).lay 0 true)) :
    (Rows.joined rs).laid = Rows.allEnded ((Rows.joined rs).lay 0 true) := by
  rw [Rows.laid, if_neg]
  intro hnil
  rw [hnil] at h
  have hplaced := s.placed
  rw [List.forall₂_nil_right_iff.1 h] at hplaced
  simp at hplaced

/-- **Laying out a source whose lines are in place** ends its last line and takes the blanks away
that its lines end in. -/
theorem layout_source (s : Sheet) : layout s.source = .ok s.laid := by
  obtain ⟨rs, hrs, hlaid⟩ := s.exists_rows
  have hcut := Rows.isWellCut_joined (CodeLine.isWellCut_of_is hrs)
  have hsource : (Rows.joined rs).chars = s.source := by
    rw [Rows.chars_joined, CodeLine.map_chars_of_is hrs, source]
  have hnest : checkBrackets [] ((Rows.joined rs).tokens 1) = .ok () :=
    checkBrackets_eq_ok_iff.2 (CodeLine.closes_joined hrs s.placed 1)
  rw [← hsource, layout_chars hcut, hnest, laid_rows hlaid, CodeLine.chars_allEnded hlaid, laid]

/-- The tokens of the laid-out source are those of its lines. -/
theorem tokenize_laid (s : Sheet) :
    tokenize s.laid = .ok (tokensOn 1 (s.lines.map CodeLine.laidFaces)) := by
  obtain ⟨rs, hrs, hlaid⟩ := s.exists_rows
  have hcut := (Rows.isWellCut_joined (CodeLine.isWellCut_of_is hrs)).laid
  rw [laid_rows hlaid] at hcut
  rw [laid, ← CodeLine.chars_allEnded hlaid, Rows.tokenize_chars hcut,
    CodeLine.tokens_allEnded hlaid]

end Sheet

end Scribe.Source
