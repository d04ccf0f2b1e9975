import Scribe.Proofs.Source.Rows

/-!
# Texts on one line

A text on one line has its tokens wherever it stands, as long as a blank follows it
(`tokenizeFrom_line`): nothing after the blank can make its last token longer.  Only a line comment
would go on, so the text must hold none.  This is how the tokens of a source are found when the
source is put together from parts.
-/

namespace Scribe.Source

open Scribe.Text

/-! ## Blanks after tokens -/

/-- A blank can follow every token but a line comment. -/
theorem Fits.before_blank {kind : TokenKind} {text : List Char} {next : Char}
    (h : Fits kind text next) (hk : kind ≠ .lineComment) {c : Char} (hc : isBlank c) :
    Fits kind text c := by
  have hnumber : continuesNumber c = false := by
    by_contra hcon
    have hblank := isBlank_of_continuesNumber (Bool.not_eq_false _ ▸ hcon)
    rw [hc] at hblank
    exact Bool.noConfusion hblank
  have hident : continuesIdent c = false := by
    by_contra hcon
    have hcontinues := continuesNumber_of_continuesIdent (Bool.not_eq_false _ ▸ hcon)
    rw [hnumber] at hcontinues
    exact Bool.noConfusion hcontinues
  cases h with
  | newline => exact .newline
  | ident hstart hmore _ => exact .ident hstart hmore hident
  | number hstart hmore _ => exact .number hstart hmore hnumber
  | literal hquote hbody => exact .literal hquote hbody
  | rawString hbody => exact .rawString hbody
  | lineComment _ => exact absurd rfl hk
  | blockComment hbody => exact .blockComment hbody
  | punct hb hi hd h1 h2 h3 _ =>
    refine .punct hb hi hd h1 h2 h3 fun _ => ⟨?_, ?_⟩
    · rintro rfl
      exact absurd hc (by decide)
    · rintro rfl
      exact absurd hc (by decide)

/-- Pieces without line comments stay well cut when a blank comes to stand after them. -/
theorem WellCut.before_blank {after after' : List Char} {ps : List Piece} (h : WellCut after ps)
    (hcomment : ∀ p ∈ ps, p.kind ≠ .lineComment) (hafter : isBlank (firstOf after')) :
    WellCut after' ps := by
  induction ps with
  | nil => trivial
  | cons p ps ih =>
    obtain ⟨hgap, hkind, hfits, hrest⟩ := h
    obtain ⟨hp, hmore⟩ := List.forall_mem_cons.1 hcomment
    have hrest' := ih hrest hmore
    refine ⟨hgap, hkind, ?_, hrest'⟩
    by_cases hnil : written ps = []
    · rw [hnil, List.nil_append]
      exact hfits.before_blank hp hafter
    · rw [firstOf_append hnil] at hfits ⊢
      exact hfits

/-! ## Tokens on one line -/

/-- A token with another place, on one line. -/
def Token.onLine (line : Nat) (t : Token) : Token := { t with line := line, endLine := line }

theorem tokensOf_of_no_newline {ps : List Piece} (h : '\n' ∉ written ps) (line : Nat) :
    tokensOf line ps = (tokensOf 1 ps).map (Token.onLine line) := by
  induction ps with
  | nil => rfl
  | cons p ps ih =>
    rw [written_cons, List.mem_append, List.mem_append, not_or, not_or] at h
    have hzero : newlines p.text = 0 := newlines_eq_zero.2 h.2.1
    rw [tokensOf, tokensOf, hzero, List.map_cons, Nat.add_zero, Nat.add_zero, ih h.2.2]
    rfl

theorem exists_mem_tokensOf {p : Piece} {ps : List Piece} (hp : p ∈ ps) (line : Nat) :
    ∃ t ∈ tokensOf line ps, t.kind = p.kind ∧ t.text = p.text := by
  induction ps generalizing line with
  | nil => simp at hp
  | cons q ps ih =>
    rcases List.mem_cons.1 hp with rfl | hp
    · exact ⟨_, List.mem_cons_self, rfl, rfl⟩
    · obtain ⟨t, ht, hkind⟩ := ih hp (line + newlines q.text)
      exact ⟨t, List.mem_cons_of_mem _ ht, hkind⟩

/-- A source on one line is one row. -/
theorem exists_row {s : List Char} {ts : List Token} (h : tokenize s = .ok ts) (hs : '\n' ∉ s) :
    ∃ r : Row, r.IsWellCut ∧ r.chars = s ∧ tokensOf 1 r.pieces = ts := by
  obtain ⟨R, hR, rfl, rfl⟩ := exists_rows h
  cases R with
  | last r => exact ⟨r, hR, rfl, rfl⟩
  | cons r rest => exact absurd (List.mem_append_right _ List.mem_cons_self) hs

theorem isNewline_of_tokenize_line {s : List Char} {ts : List Token} (h : tokenize s = .ok ts)
    (hs : '\n' ∉ s) : ∀ t ∈ ts, t.isNewline = false := by
  obtain ⟨r, ⟨hcut, -⟩, -, rfl⟩ := exists_row h hs
  intro t ht
  exact isNewline_tokensOf hcut ht

/-- **A text on one line has its own tokens, when a blank follows it.** -/
theorem tokenizeFrom_line {s : List Char} {ts : List Token} (h : tokenize s = .ok ts)
    (hs : '\n' ∉ s) (hcomment : ∀ t ∈ ts, t.kind ≠ .lineComment) {after : List Char}
    (hafter : isBlank (firstOf after)) (line : Nat) :
    tokenizeFrom line (s ++ after) =
      (tokenizeFrom line after).map (ts.map (Token.onLine line) ++ ·) := by
  obtain ⟨r, ⟨hcut, htail⟩, rfl, rfl⟩ := exists_row h hs
  have hwritten : '\n' ∉ written r.pieces := by
    intro hn
    exact hs (List.mem_append_left _ hn)
  have hkinds : ∀ p ∈ r.pieces, p.kind ≠ .lineComment := by
    intro p hp hkind
    obtain ⟨t, ht, htk, -⟩ := exists_mem_tokensOf hp 1
    exact hcomment t ht (htk.trans hkind)
  have hfirst : isBlank (firstOf (r.tail ++ after)) := by
    cases htl : r.tail with
    | nil => exact hafter
    | cons c tail =>
      rw [htl] at htail
      exact isBlank_of_isGap (htail c List.mem_cons_self)
  rw [Row.chars, List.append_assoc, tokenizeFrom_written (hcut.before_blank hkinds hfirst),
    tokenizeFrom_gap htail, newlines_eq_zero.2 hwritten, Nat.add_zero,
    tokensOf_of_no_newline hwritten]

/-- A source that is one identifier is on one line. -/
theorem no_newline_of_tokenize_ident {s : List Char}
    (h : tokenize s = .ok [⟨.ident, s, 1, 1⟩]) : '\n' ∉ s := by
  obtain ⟨R, hR, -, htokens⟩ := exists_rows h
  cases R with
  | cons r rest =>
    have hmem : lineEnd (1 + r.height) ∈ (Rows.cons r rest).tokens 1 :=
      List.mem_append_right _ List.mem_cons_self
    rw [htokens, List.mem_singleton] at hmem
    exact absurd (congrArg Token.kind hmem) (by simp [lineEnd])
  | last r =>
    have hlast : tokensOf 1 r.pieces = [⟨.ident, s, 1, 1⟩] := htokens
    cases hp : r.pieces with
    | nil => simp [hp, tokensOf] at hlast
    | cons p ps =>
      rw [hp, tokensOf] at hlast
      have hcut := hR.1
      rw [hp] at hcut
      obtain ⟨-, -, hfits, -⟩ := hcut
      have hfirst := (List.cons.inj hlast).1
      have hkind : p.kind = .ident := congrArg Token.kind hfirst
      have htext : p.text = s := congrArg Token.text hfirst
      rw [hkind, htext] at hfits
      exact hfits.no_newline (by simp) (by simp) (by simp)

/-! ## Sources put together from parts -/

/-- The characters `s`, when they start on line `line`, have the tokens `ts` and leave off on line
`next`, whatever comes after them. -/
def Lexes (line : Nat) (s : List Char) (next : Nat) (ts : List Token) : Prop :=
  ∀ after, tokenizeFrom line (s ++ after) = (tokenizeFrom next after).map (ts ++ ·)

namespace Lexes

variable {line middle next : Nat} {s s' : List Char} {ts us : List Token}

theorem append (h : Lexes line s middle ts) (h' : Lexes middle s' next us) :
    Lexes line (s ++ s') next (ts ++ us) := by
  intro after
  rw [List.append_assoc, h, h']
  cases tokenizeFrom next after with
  | error e => rfl
  | ok rest => exact congrArg Except.ok (List.append_assoc ts us rest).symm

theorem gap (hs : ∀ c ∈ s, isGap c) : Lexes line s line [] := by
  intro after
  rw [tokenizeFrom_gap hs]
  cases tokenizeFrom line after <;> rfl

theorem newline (line : Nat) : Lexes line ['\n'] (line + 1) [lineEnd line] :=
  fun after => tokenizeFrom_newline line after

/-- A text on one line, before one that starts with a blank. -/
theorem before_blank (h : tokenize s = .ok ts) (hs : '\n' ∉ s)
    (hcomment : ∀ t ∈ ts, t.kind ≠ .lineComment) (hs' : ∃ c rest, s' = c :: rest ∧ isBlank c)
    (h' : Lexes line s' next us) :
    Lexes line (s ++ s') next (ts.map (Token.onLine line) ++ us) := by
  intro after
  have hfirst : isBlank (firstOf (s' ++ after)) := by
    obtain ⟨c, rest, rfl, hc⟩ := hs'
    exact hc
  rw [List.append_assoc, tokenizeFrom_line h hs hcomment hfirst, h']
  cases tokenizeFrom next after with
  | error e => rfl
  | ok rest => simp [Except.map]

/-- A line comment takes the rest of its line. -/
theorem lineComment {body : List Char} (hbody : '\n' ∉ body) (line : Nat) :
    Lexes line ('/' :: '/' :: body ++ ['\n']) (line + 1)
      [⟨.lineComment, '/' :: '/' :: body, line, line⟩, lineEnd line] := by
  intro after
  have hcut : WellCut ('\n' :: after) [⟨[], .lineComment, '/' :: '/' :: body⟩] :=
    ⟨by simp, by simp, .lineComment hbody, trivial⟩
  have hzero : newlines ('/' :: '/' :: body) = 0 := newlines_eq_zero.2 (by simp [hbody])
  have hwritten := tokenizeFrom_written hcut line
  rw [written_cons, written_nil, List.nil_append, List.append_nil, hzero, Nat.add_zero,
    tokenizeFrom_newline, tokensOf, tokensOf, hzero, Nat.add_zero] at hwritten
  rw [List.append_assoc, List.singleton_append, hwritten]
  cases tokenizeFrom (line + 1) after <;> rfl

/-- A whole source. -/
theorem tokenize_eq (h : Lexes 1 s next ts) : tokenize s = .ok ts := by
  have hnil : tokenizeFrom next [] = .ok [] := tokenizeFrom_of_gap (by simp) next
  have hs := h []
  rw [List.append_nil, hnil] at hs
  rw [tokenize, hs]
  exact congrArg Except.ok (List.append_nil ts)

end Lexes

end Scribe.Source
