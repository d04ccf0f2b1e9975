import Mathlib
import Scribe.Proofs.Layout.Rows
import Scribe.Proofs.Source.Brackets
import Scribe.Proofs.Source.Places

/-!
# Laying out keeps the tokens

`layout_tokens` compares the tokens of a source with those of its layout: apart from line ends they
are the same, one for one, up to what `Token.LaidAs` allows, and the line ends between two of them
are as many as before but never more than two.

The comparison is an induction on rows (`Rows.laid_settled`), whose result `Settled` says where the
line ends of the two sources stand; the statements about all tokens and about the numbers of line
ends are read off it.
-/

namespace Scribe.Source

open Scribe.Text

/-! ## How a token may change -/

/-- The token `u` is what laying out makes of `t`: a line comment may lose blanks at its end, a raw
string or block comment loses the carriage returns before its line feeds, any other token keeps its
text.  The blanks of a line comment are no line feeds. -/
def Token.LaidAs (t u : Token) : Prop :=
  u.kind = t.kind ∧
    match t.kind with
    | .lineComment => ∃ blanks, (∀ c ∈ blanks, isGap c) ∧ t.text = u.text ++ blanks
    | .rawString | .blockComment => u.text = dropReturns t.text
    | _ => u.text = t.text

variable {t u : Token} {ts us ts' us' : List Token}

theorem laidAs_layText {cut : List Char → List Char} (hcut : CutsBlanks cut) {kind : TokenKind}
    {text : List Char} {next : Char} (h : Fits kind text next) (line line' endLine endLine' : Nat) :
    Token.LaidAs ⟨kind, text, line, endLine⟩
      ⟨kind, layText cut kind text, line', endLine'⟩ := by
  refine ⟨rfl, ?_⟩
  cases kind with
  | lineComment =>
    obtain ⟨blanks, hblanks, heq⟩ := hcut text
    have hn := h.no_newline (by simp) (by simp) (by simp)
    refine ⟨blanks, fun c hc => isGap_eq_true.2 ⟨?_, hblanks c hc⟩, heq⟩
    rintro rfl
    rw [heq] at hn
    exact hn (List.mem_append_right _ hc)
  | _ => rfl

/-- The pieces of a row, in their old and new places. -/
theorem forall₂_lay {cut : List Char → List Char} (hcut : CutsBlanks cut) {after : List Char}
    {ps : List Piece} (h : WellCut after ps) (line line' : Nat) :
    List.Forall₂ Token.LaidAs (tokensOf line ps) (tokensOf line' (ps.map (Piece.lay cut))) := by
  induction ps generalizing line line' with
  | nil => exact .nil
  | cons p ps ih =>
    obtain ⟨-, -, hfits, hrest⟩ := h
    exact .cons (laidAs_layText hcut hfits ..) (ih hrest _ _)

theorem Row.IsWellCut.forall₂_lay {cut : List Char → List Char} (hcut : CutsBlanks cut) {r : Row}
    (hr : r.IsWellCut) (tabs line line' : Nat) :
    List.Forall₂ Token.LaidAs (tokensOf line r.pieces)
      (tokensOf line' (r.lay tabs cut).pieces) := by
  unfold Row.lay
  split
  · rename_i hp
    rw [hp]
    exact .nil
  · rename_i p ps hp
    have hcutPieces := hr.1
    rw [hp] at hcutPieces ⊢
    exact Scribe.Source.forall₂_lay hcut hcutPieces line line'

/-! ## Line ends between tokens -/

/-- Two lists of tokens that begin and end with tokens other than line ends, agree in these, and
have between two of them as many line ends, but at most two in the second list. -/
inductive Spaced : List Token → List Token → Prop where
  | single {t u : Token} (ht : t.isNewline = false) (h : t.LaidAs u) : Spaced [t] [u]
  | cons {t u : Token} {a b ts us : List Token} (ht : t.isNewline = false) (h : t.LaidAs u)
      (ha : LineEnds a) (hb : LineEnds b) (hab : b.length = min a.length 2)
      (hrest : Spaced ts us) : Spaced (t :: (a ++ ts)) (u :: (b ++ us))

theorem Spaced.append {a b : List Token} (h : Spaced ts us) (ha : LineEnds a) (hb : LineEnds b)
    (hab : b.length = min a.length 2) (h' : Spaced ts' us') :
    Spaced (ts ++ (a ++ ts')) (us ++ (b ++ us')) := by
  induction h with
  | single ht h =>
    rw [List.singleton_append, List.singleton_append]
    exact .cons ht h ha hb hab h'
  | cons ht h ha' hb' hab' _ ih =>
    rw [List.cons_append, List.cons_append, List.append_assoc, List.append_assoc]
    exact .cons ht h ha' hb' hab' ih

theorem spaced_of_forall₂ (h : List.Forall₂ Token.LaidAs ts us)
    (hts : ∀ t ∈ ts, t.isNewline = false) (hne : ts ≠ []) : Spaced ts us := by
  induction h with
  | nil => exact absurd rfl hne
  | @cons t u ts us h hrest ih =>
    obtain ⟨ht, hts⟩ := List.forall_mem_cons.1 hts
    cases ts with
    | nil =>
      cases hrest
      exact .single ht h
    | cons t' ts =>
      have ih := ih hts (List.cons_ne_nil t' ts)
      exact Spaced.cons ht h lineEnds_nil lineEnds_nil rfl ih

/-- What laying out makes of the tokens of a source: line ends before the first and after the last
of the other tokens are left out, and one line end is put at the end. -/
inductive Settled : List Token → List Token → Prop where
  | lineEnds {a : List Token} {n : Token} (ha : LineEnds a) (hn : n.isNewline) : Settled a [n]
  | tokens {a b ts us : List Token} {n : Token} (ha : LineEnds a) (h : Spaced ts us)
      (hb : LineEnds b) (hn : n.isNewline) : Settled (a ++ (ts ++ b)) (us ++ [n])

/-- A row with a token, laid out. -/
theorem Row.spaced {cut : List Char → List Char} (hcut : CutsBlanks cut) {r : Row}
    (hr : r.IsWellCut) (hne : r.pieces ≠ []) (tabs line line' : Nat) :
    Spaced (tokensOf line r.pieces) (tokensOf line' (r.lay tabs cut).pieces) := by
  refine spaced_of_forall₂ (hr.forall₂_lay hcut tabs line line')
    (fun t ht => isNewline_tokensOf hr.1 ht) ?_
  obtain ⟨p, ps, hp⟩ := List.exists_cons_of_ne_nil hne
  rw [hp]
  exact List.cons_ne_nil _ _

/-! ## The rows of a laid-out source -/

/-- The tokens `ts` of a source from a row on, and those of its layout, where `out line` are the
tokens that the layout has if its rows start on line `line`.  Line ends before the first of the
other tokens come down to one, and to none after an empty row. -/
def Resumes (afterEmpty : Bool) (ts : List Token) (out : Nat → List Token) : Prop :=
  ∃ a core b, LineEnds a ∧ LineEnds b ∧ ts = a ++ (core ++ b) ∧
    ∀ line, ∃ a' us n, LineEnds a' ∧ n.isNewline ∧ out line = a' ++ (us ++ [n]) ∧
      a'.length = (if afterEmpty then 0 else min a.length 1) ∧ Spaced core us

namespace Resumes

variable {ts core b : List Token} {n : Token} {out : Nat → List Token}

/-- An empty row after another one is left out. -/
theorem skip (h : Resumes true ts out) (hn : n.isNewline) : Resumes true (n :: ts) out := by
  obtain ⟨a, core, b, ha, hb, rfl, hout⟩ := h
  exact ⟨n :: a, core, b, .cons hn ha, hb, rfl, hout⟩

/-- An empty row after another row is kept. -/
theorem keep (h : Resumes true ts out) (hn : n.isNewline) (height : Nat) :
    Resumes false (n :: ts) fun line => lineEnd (line + height) :: out (line + height + 1) := by
  obtain ⟨a, core, b, ha, hb, rfl, hout⟩ := h
  refine ⟨n :: a, core, b, .cons hn ha, hb, rfl, ?_⟩
  intro line
  obtain ⟨a', us, n', ha', hn', hus, hlen, hspaced⟩ := hout (line + height + 1)
  refine ⟨lineEnd (line + height) :: a', us, n', .cons rfl ha', hn', ?_, ?_, hspaced⟩
  · show lineEnd (line + height) :: out (line + height + 1) = _
    rw [hus, List.cons_append]
  · rw [List.length_cons, List.length_cons, hlen]
    simp

/-- The last row with a token. -/
theorem last (afterEmpty : Bool) {row : Nat → List Token} (height : Nat)
    (hrow : ∀ line, Spaced core (row line)) (hb : LineEnds b) :
    Resumes afterEmpty (core ++ b) fun line => row line ++ [lineEnd (line + height)] := by
  refine ⟨[], core, b, lineEnds_nil, hb, rfl, ?_⟩
  intro line
  exact ⟨[], row line, lineEnd (line + height), lineEnds_nil, rfl, rfl, by simp, hrow line⟩

/-- A row with a token, before others. -/
theorem row (h : Resumes false ts out) (afterEmpty : Bool) {row : Nat → List Token} (height : Nat)
    (hrow : ∀ line, Spaced core (row line)) (hn : n.isNewline) :
    Resumes afterEmpty (core ++ n :: ts) fun line =>
      row line ++ lineEnd (line + height) :: out (line + height + 1) := by
  obtain ⟨a, more, b, ha, hb, rfl, hout⟩ := h
  refine ⟨[], core ++ (n :: a ++ more), b, lineEnds_nil, hb, by simp, ?_⟩
  intro line
  obtain ⟨a', us, n', ha', hn', hus, hlen, hspaced⟩ := hout (line + height + 1)
  have hruns : (lineEnd (line + height) :: a').length = min (n :: a).length 2 := by
    rw [List.length_cons, List.length_cons, hlen]
    simp only [Bool.false_eq_true, if_false]
    omega
  have hall := (hrow line).append (.cons hn ha) (.cons (t := lineEnd (line + height)) rfl ha') hruns
    hspaced
  exact ⟨[], _, n', lineEnds_nil, hn', by simp [hus], by simp, hall⟩

end Resumes

namespace Rows

/-- Laying out some rows leaves nothing of them, if they have no tokens but line ends, or else
resumes with their tokens. -/
theorem lay_resumes {R : Rows} (hR : R.IsWellCut) (depth : Nat) (afterEmpty : Bool) (line : Nat) :
    (R.lay depth afterEmpty = [] ∧ LineEnds (R.tokens line)) ∨
      (R.lay depth afterEmpty ≠ [] ∧
        Resumes afterEmpty (R.tokens line) (allEnded (R.lay depth afterEmpty)).tokens) := by
  induction R generalizing depth afterEmpty line with
  | last r =>
    rw [lay, tokens]
    by_cases hnil : r.pieces = []
    · rw [if_pos hnil, hnil]
      exact .inl ⟨rfl, lineEnds_nil⟩
    · rw [if_neg hnil]
      have hrow := Row.spaced (r.cutsBlanks_cutEnd false) hR hnil (depth - r.closers) line
      have hlast := Resumes.last afterEmpty
        (r.lay (depth - r.closers) (r.cutEnd false)).height hrow lineEnds_nil
      rw [List.append_nil] at hlast
      exact .inr ⟨List.cons_ne_nil _ _, hlast⟩
  | cons r rest ih =>
    obtain ⟨hr, hrest⟩ := hR
    have hend : (lineEnd (line + r.height)).isNewline := rfl
    rw [lay, tokens]
    by_cases hnil : r.pieces = []
    · rw [if_pos hnil, hnil]
      dsimp only
      rcases ih hrest depth true (line + r.height + 1) with ⟨hlay, hends⟩ | ⟨hlay, hresumes⟩
      · rw [if_pos (.inr hlay)]
        exact .inl ⟨hlay, .cons hend hends⟩
      · cases afterEmpty with
        | true =>
          rw [if_pos (.inl rfl)]
          exact .inr ⟨hlay, hresumes.skip hend⟩
        | false =>
          rw [if_neg (by simp [hlay])]
          exact .inr ⟨List.cons_ne_nil _ _, hresumes.keep hend Row.empty.height⟩
    · rw [if_neg hnil]
      have hrow := Row.spaced (r.cutsBlanks_cutEnd true) hr hnil (depth - r.closers) line
      refine .inr ⟨List.cons_ne_nil _ _, ?_⟩
      rcases ih hrest (r.depthAfter depth) false (line + r.height + 1) with
        ⟨hlay, hends⟩ | ⟨-, hresumes⟩
      · rw [hlay]
        exact .last afterEmpty _ hrow (.cons hend hends)
      · exact hresumes.row afterEmpty _ hrow hend

/-- **Laying out settles the tokens of a source.** -/
theorem laid_settled {R : Rows} (hR : R.IsWellCut) (line line' : Nat) :
    Settled (R.tokens line) (R.laid.tokens line') := by
  rw [laid]
  rcases lay_resumes hR 0 true line with ⟨hlay, hends⟩ | ⟨hlay, a, ts, b, ha, hb, hts, hout⟩
  · rw [if_pos hlay]
    exact .lineEnds hends rfl
  · rw [if_neg hlay, hts]
    obtain ⟨a', us, n, -, hn, hus, hlen, hspaced⟩ := hout line'
    obtain rfl := List.length_eq_zero_iff.1 hlen
    have hus : (allEnded (R.lay 0 true)).tokens line' = us ++ [n] := hus
    rw [hus]
    exact .tokens ha hspaced hb hn

end Rows

/-! ## The other tokens -/

theorem Token.LaidAs.isNewline (h : t.LaidAs u) : u.isNewline = t.isNewline := by
  simp [Token.isNewline, h.1]

theorem Spaced.forall₂ (h : Spaced ts us) :
    List.Forall₂ Token.LaidAs (ts.filter (!·.isNewline)) (us.filter (!·.isNewline)) := by
  induction h with
  | single ht h =>
    have hu := h.isNewline.trans ht
    rw [List.filter_cons_of_pos (by simp [ht]), List.filter_cons_of_pos (by simp [hu])]
    exact .cons h .nil
  | cons ht h ha hb _ _ ih =>
    have hu := h.isNewline.trans ht
    rw [List.filter_cons_of_pos (by simp [ht]), List.filter_cons_of_pos (by simp [hu]),
      List.filter_append, List.filter_append, ha.filter, hb.filter]
    exact .cons h ih

/-- Apart from line ends, the tokens agree one for one. -/
theorem Settled.forall₂ (h : Settled ts us) :
    List.Forall₂ Token.LaidAs (ts.filter (!·.isNewline)) (us.filter (!·.isNewline)) := by
  cases h with
  | lineEnds ha hn =>
    rw [ha.filter, (lineEnds_nil.cons hn).filter]
    exact .nil
  | tokens ha h hb hn =>
    rw [List.filter_append, List.filter_append, List.filter_append, ha.filter, hb.filter,
      (lineEnds_nil.cons hn).filter, List.nil_append, List.append_nil, List.append_nil]
    exact h.forall₂

theorem map_kind_of_laidAs (h : List.Forall₂ Token.LaidAs ts us) :
    ts.map Token.kind = us.map Token.kind := by
  induction h with
  | nil => rfl
  | cons h _ ih => rw [List.map_cons, List.map_cons, h.1, ih]

/-- Brackets nest in a layout as they do in the source. -/
theorem Settled.closes (h : Settled ts us) {stack : List Bracket} (hts : Closes stack ts) :
    Closes stack us :=
  Closes.filter_iff.1 ((Closes.filter_iff.2 hts).congr (map_kind_of_laidAs h.forall₂))

/-! ## The numbers of line ends -/

/-- How many line ends stand before each other token and after the last one, when `count` of them
have been met. -/
def lineEndRuns (count : Nat) : List Token → List Nat
  | [] => [count]
  | t :: ts => if t.isNewline then lineEndRuns (count + 1) ts else count :: lineEndRuns 0 ts

/-- The numbers of line ends in a layout: none before the first other token, one after the last,
and at most two between two of them. -/
def settledRuns : List Nat → List Nat
  | [] => []
  | [_] => [1]
  | _ :: runs => 0 :: (runs.dropLast.map (min · 2) ++ [1])

theorem lineEndRuns_append {a : List Token} (ha : LineEnds a) (count : Nat) (ts : List Token) :
    lineEndRuns count (a ++ ts) = lineEndRuns (count + a.length) ts := by
  induction a generalizing count with
  | nil => rfl
  | cons n a ih =>
    obtain ⟨hn, ha⟩ := lineEnds_cons.1 ha
    rw [List.cons_append, lineEndRuns, if_pos hn, ih ha, List.length_cons, Nat.add_right_comm,
      Nat.add_assoc]

theorem lineEndRuns_of_lineEnds {a : List Token} (ha : LineEnds a) (count : Nat) :
    lineEndRuns count a = [count + a.length] := by
  have h := lineEndRuns_append ha count []
  rwa [List.append_nil] at h

theorem Spaced.exists_runs (h : Spaced ts us) : ∃ runs : List Nat,
    (∀ count rest, lineEndRuns count (ts ++ rest) = count :: (runs ++ lineEndRuns 0 rest)) ∧
    ∀ count rest, lineEndRuns count (us ++ rest) =
      count :: (runs.map (min · 2) ++ lineEndRuns 0 rest) := by
  induction h with
  | single ht h =>
    have hu := h.isNewline.trans ht
    exact ⟨[], by simp [lineEndRuns, ht], by simp [lineEndRuns, hu]⟩
  | @cons t u a b ts us ht h ha hb hab _ ih =>
    have hu := h.isNewline.trans ht
    obtain ⟨runs, hts, hus⟩ := ih
    refine ⟨a.length :: runs, ?_, ?_⟩
    · intro count rest
      rw [List.cons_append, lineEndRuns, if_neg (by simp [ht]), List.append_assoc,
        lineEndRuns_append ha, Nat.zero_add, hts]
      rfl
    · intro count rest
      rw [List.cons_append, lineEndRuns, if_neg (by simp [hu]), List.append_assoc,
        lineEndRuns_append hb, Nat.zero_add, hus, hab]
      rfl

theorem settledRuns_concat (first : Nat) (runs : List Nat) (last : Nat) :
    settledRuns (first :: (runs ++ [last])) = 0 :: (runs.map (min · 2) ++ [1]) := by
  cases runs with
  | nil => rfl
  | cons n runs =>
    change 0 :: ((n :: runs ++ [last]).dropLast.map (min · 2) ++ [1]) = _
    rw [List.dropLast_concat]

/-- A layout has the numbers of line ends that it should have. -/
theorem Settled.lineEndRuns_eq (h : Settled ts us) :
    lineEndRuns 0 us = settledRuns (lineEndRuns 0 ts) := by
  cases h with
  | lineEnds ha hn =>
    rw [lineEndRuns_of_lineEnds ha, lineEndRuns_of_lineEnds (lineEnds_nil.cons hn)]
    rfl
  | tokens ha h hb hn =>
    obtain ⟨runs, hts, hus⟩ := h.exists_runs
    rw [lineEndRuns_append ha, hts, hus, lineEndRuns_of_lineEnds hb,
      lineEndRuns_of_lineEnds (lineEnds_nil.cons hn), settledRuns_concat]
    rfl

/-! ## Sources -/

/-- A source that can be laid out consists of tokens that close all brackets, its layout consists
of tokens, and these are the settled tokens of the source. -/
theorem exists_settled_of_layout {s t : List Char} (h : layout s = .ok t) :
    ∃ ts us, tokenize s = .ok ts ∧ tokenize t = .ok us ∧ Closes [] ts ∧ Settled ts us := by
  obtain ⟨R, hR, rfl, hbrackets, rfl⟩ := exists_rows_of_layout h
  exact ⟨_, _, Rows.tokenize_chars hR, Rows.tokenize_chars hR.laid,
    checkBrackets_eq_ok_iff.1 hbrackets, R.laid_settled hR 1 1⟩

/-- **Laying out keeps the tokens.**  A layout consists of the tokens of the source, one for one and
up to what `Token.LaidAs` allows, with at most two line ends between two of them, none before the
first and one after the last. -/
theorem layout_tokens {s t : List Char} (h : layout s = .ok t) :
    ∃ ts us, tokenize s = .ok ts ∧ tokenize t = .ok us ∧
      List.Forall₂ Token.LaidAs (ts.filter (!·.isNewline)) (us.filter (!·.isNewline)) ∧
      lineEndRuns 0 us = settledRuns (lineEndRuns 0 ts) := by
  obtain ⟨ts, us, hts, hus, -, hsettled⟩ := exists_settled_of_layout h
  exact ⟨ts, us, hts, hus, hsettled.forall₂, hsettled.lineEndRuns_eq⟩

/-- Blanks before and after the tokens, a raw string and a line comment that lose characters, and
line ends at all places. -/
theorem layout_tokens_raw_string :
    let s := "\n( a  \r\n\n\n\n\x60x \r\n\x60 // y \r\n\n)".toList
    let t := "( a\n\n\t\x60x \n\x60 // y \n\n)\n".toList
    layout s = .ok t ∧ ∃ ts us, tokenize s = .ok ts ∧ tokenize t = .ok us ∧
      List.Forall₂ Token.LaidAs (ts.filter (!·.isNewline)) (us.filter (!·.isNewline)) ∧
      lineEndRuns 0 us = settledRuns (lineEndRuns 0 ts) := by
  have h : layout "\n( a  \r\n\n\n\n\x60x \r\n\x60 // y \r\n\n)".toList =
      .ok "( a\n\n\t\x60x \n\x60 // y \n\n)\n".toList := by cbv
  exact ⟨h, layout_tokens h⟩

end Scribe.Source
