import Scribe.Proofs.Source.Fits

/-!
# A source cut into rows

A *row* is what stands between two line ends that are tokens: some tokens with the blanks before
each of them, and the blanks before the line end.  A row takes more than one line when a raw string
or a block comment in it does.

Rows are the view of a source that the rest of this development works with.  They hold every
character of the source and, once the line that they start on is known, every token.  A source that
the lexer accepts is cut into rows (`exists_rows`), and rows that are well cut are read back as they
were written (`Rows.tokenizeFrom_chars`); so a source can be changed by changing its rows.
-/

namespace Scribe.Source

open Scribe.Text

/-! ## Gaps -/

theorem isGap_eq_true {c : Char} : isGap c = true ↔ c ≠ '\n' ∧ isBlank c = true := by
  simp [isGap]

theorem isBlank_of_isGap {c : Char} (h : isGap c) : isBlank c := (isGap_eq_true.1 h).2

theorem isGap_of_not_isBlank {c : Char} (h : isBlank c = false) : isGap c = false := by
  simp [isGap, h]

theorem no_newline_of_gap {g : List Char} (h : ∀ c ∈ g, isGap c) : '\n' ∉ g :=
  fun hn => (isGap_eq_true.1 (h _ hn)).1 rfl

theorem newlines_eq_zero {s : List Char} : newlines s = 0 ↔ '\n' ∉ s := List.count_eq_zero

@[simp] theorem newlines_cons (c : Char) (s : List Char) :
    newlines (c :: s) = newlines s + if c = '\n' then 1 else 0 := by
  simp [newlines, List.count_cons]

/-! ## Pieces -/

/-- A token with the blanks before it. -/
structure Piece where
  gap : List Char
  kind : TokenKind
  text : List Char

/-- The characters of some pieces. -/
def written (ps : List Piece) : List Char := ps.flatMap fun p => p.gap ++ p.text

@[simp] theorem written_nil : written [] = [] := rfl

@[simp] theorem written_cons (p : Piece) (ps : List Piece) :
    written (p :: ps) = p.gap ++ (p.text ++ written ps) := by
  simp [written]

/-- The tokens of some pieces that start on line `line`. -/
def tokensOf (line : Nat) : List Piece → List Token
  | [] => []
  | p :: ps =>
    ⟨p.kind, p.text, line, line + newlines p.text⟩ :: tokensOf (line + newlines p.text) ps

/-- Pieces that the lexer cuts as they are, when `after` follows them: blanks are blanks, each token
fits, and none is a line end. -/
def WellCut (after : List Char) : List Piece → Prop
  | [] => True
  | p :: ps =>
    (∀ c ∈ p.gap, isGap c) ∧ p.kind ≠ .newline ∧
      Fits p.kind p.text (firstOf (written ps ++ after)) ∧ WellCut after ps

theorem firstOf_append_congr {a b : List Char} (h : firstOf a = firstOf b) (s : List Char) :
    firstOf (s ++ a) = firstOf (s ++ b) := by
  cases s with
  | nil => exact h
  | cons c s => rfl

/-- Of what follows, only the first character matters. -/
theorem WellCut.congr {after after' : List Char} (h : firstOf after = firstOf after')
    {ps : List Piece} (hps : WellCut after ps) : WellCut after' ps := by
  induction ps with
  | nil => trivial
  | cons p ps ih =>
    obtain ⟨hgap, hkind, hfits, hrest⟩ := hps
    refine ⟨hgap, hkind, ?_, ih hrest⟩
    rw [← firstOf_append_congr h]
    exact hfits

theorem WellCut.mem {after : List Char} {ps : List Piece} (h : WellCut after ps) {p : Piece}
    (hp : p ∈ ps) :
    (∀ c ∈ p.gap, isGap c) ∧ p.kind ≠ .newline ∧ ∃ next, Fits p.kind p.text next := by
  induction ps with
  | nil => simp at hp
  | cons q ps ih =>
    obtain ⟨hgap, hkind, hfits, hrest⟩ := h
    rcases List.mem_cons.1 hp with rfl | hp
    · exact ⟨hgap, hkind, _, hfits⟩
    · exact ih hrest hp

theorem isNewline_tokensOf {after : List Char} {line : Nat} {ps : List Piece} {t : Token}
    (hps : WellCut after ps) (h : t ∈ tokensOf line ps) : t.isNewline = false := by
  induction ps generalizing line with
  | nil => simp [tokensOf] at h
  | cons p ps ih =>
    obtain ⟨-, hkind, -, hrest⟩ := hps
    rcases List.mem_cons.1 h with rfl | h
    · simpa [Token.isNewline] using hkind
    · exact ih hrest h

/-! ## Rows -/

/-- The pieces before a line end, and the blanks directly before it. -/
structure Row where
  pieces : List Piece
  tail : List Char

namespace Row

/-- A row without any character. -/
def empty : Row := ⟨[], []⟩

/-- The characters of a row. -/
def chars (r : Row) : List Char := written r.pieces ++ r.tail

/-- The number of lines that a row takes beyond its first. -/
def height (r : Row) : Nat := newlines (written r.pieces)

/-- A row that the lexer cuts as it is. -/
def IsWellCut (r : Row) : Prop := WellCut r.tail r.pieces ∧ ∀ c ∈ r.tail, isGap c

theorem isWellCut_empty : empty.IsWellCut := ⟨trivial, by simp [empty]⟩

theorem newlines_chars {r : Row} (h : r.IsWellCut) : newlines r.chars = r.height := by
  rw [chars, newlines_append, newlines_eq_zero.2 (no_newline_of_gap h.2), Nat.add_zero, height]

/-- A row with one more piece at its start. -/
def prepend (p : Piece) (r : Row) : Row := { r with pieces := p :: r.pieces }

end Row

/-- The rows of a source.  Each but the last is ended by a line feed. -/
inductive Rows where
  | last (row : Row)
  | cons (row : Row) (rest : Rows)

/-- The token of the line feed at the end of line `line`. -/
def lineEnd (line : Nat) : Token := ⟨.newline, ['\n'], line, line⟩

namespace Rows

/-- The source that some rows make up. -/
def chars : Rows → List Char
  | last r => r.chars
  | cons r rest => r.chars ++ '\n' :: rest.chars

/-- The tokens of rows that start on line `line`. -/
def tokens (line : Nat) : Rows → List Token
  | last r => tokensOf line r.pieces
  | cons r rest =>
    tokensOf line r.pieces ++ lineEnd (line + r.height) :: rest.tokens (line + r.height + 1)

/-- Rows that the lexer cuts as they are. -/
def IsWellCut : Rows → Prop
  | last r => r.IsWellCut
  | cons r rest => r.IsWellCut ∧ rest.IsWellCut

/-- Rows with one more piece at the start of the first. -/
def prepend (p : Piece) : Rows → Rows
  | last r => last (r.prepend p)
  | cons r rest => cons (r.prepend p) rest

end Rows

/-! ## Reading what is written -/

theorem tokenizeFrom_gap {g : List Char} (hg : ∀ c ∈ g, isGap c) (line : Nat) (s : List Char) :
    tokenizeFrom line (g ++ s) = tokenizeFrom line s := by
  rw [tokenizeFrom, tokenizeFrom, List.dropWhile_append_of_pos hg]

theorem tokenizeFrom_dropWhile (line : Nat) (s : List Char) :
    tokenizeFrom line (s.dropWhile isGap) = tokenizeFrom line s := by
  have hgap : ∀ c ∈ s.takeWhile isGap, isGap c := by
    intro c hc
    exact List.mem_takeWhile_imp hc
  have hsplit := tokenizeFrom_gap hgap line (s.dropWhile isGap)
  rw [List.takeWhile_append_dropWhile] at hsplit
  exact hsplit.symm

theorem tokenizeFrom_of_gap {g : List Char} (hg : ∀ c ∈ g, isGap c) (line : Nat) :
    tokenizeFrom line g = .ok [] := by
  have h := tokenizeFrom_gap hg line []
  rw [List.append_nil] at h
  rw [h, tokenizeFrom]
  rfl

theorem exists_of_map_eq_ok {ε α β : Type} {f : α → β} {x : Except ε α} {b : β}
    (h : x.map f = .ok b) : ∃ a, x = .ok a ∧ f a = b := by
  cases x with
  | error e => exact absurd h (by simp [Except.map])
  | ok a => exact ⟨a, rfl, Except.ok.inj h⟩

/-- One step of the lexer at the start of a token. -/
theorem tokenizeFrom_cons {c : Char} (hc : isGap c = false) (line : Nat) (rest : List Char) :
    tokenizeFrom line (c :: rest) =
      match lexeme c rest with
      | .error unclosed => .error ⟨unclosed, line⟩
      | .ok (kind, text, left) => (tokenizeFrom (line + newlines text) left).map fun ts =>
        ⟨kind, text, line, if kind = .newline then line else line + newlines text⟩ :: ts := by
  have hdrop : (c :: rest).dropWhile isGap = c :: rest :=
    List.dropWhile_cons_of_neg (by simp [hc])
  rw [tokenizeFrom]
  split
  · rename_i hs
    rw [hdrop] at hs
    exact absurd hs (by simp)
  · rename_i d more hs
    rw [hdrop] at hs
    obtain ⟨rfl, rfl⟩ := List.cons.inj hs
    split
    · rename_i hx
      rw [hx]
    · rename_i hx
      rw [hx]

theorem tokenizeFrom_newline (line : Nat) (s : List Char) :
    tokenizeFrom line ('\n' :: s) = (tokenizeFrom (line + 1) s).map (lineEnd line :: ·) :=
  tokenizeFrom_cons (by decide) line s

theorem tokenizeFrom_written {after : List Char} {ps : List Piece} (h : WellCut after ps)
    (line : Nat) :
    tokenizeFrom line (written ps ++ after) =
      (tokenizeFrom (line + newlines (written ps)) after).map (tokensOf line ps ++ ·) := by
  induction ps generalizing line with
  | nil =>
    rw [written_nil, List.nil_append, newlines_nil, Nat.add_zero]
    cases tokenizeFrom line after <;> rfl
  | cons p ps ih =>
    obtain ⟨hgap, hkind, hfits, hrest⟩ := h
    obtain ⟨c, more, htext, hc⟩ := hfits.exists_cons hkind
    rw [htext] at hfits
    have hlex := lexeme_of_fits hfits
    have hn : newlines p.gap = 0 := newlines_eq_zero.2 (no_newline_of_gap hgap)
    rw [written_cons, List.append_assoc, List.append_assoc, tokenizeFrom_gap hgap]
    conv_lhs => rw [htext, List.cons_append]
    rw [tokenizeFrom_cons (isGap_of_not_isBlank hc), hlex]
    dsimp only
    rw [ih hrest, if_neg hkind, ← htext, newlines_append, newlines_append, hn, Nat.zero_add,
      ← Nat.add_assoc]
    cases tokenizeFrom (line + newlines p.text + newlines (written ps)) after <;> rfl

theorem firstOf_chars_append (r : Row) (s : List Char) :
    firstOf (r.chars ++ '\n' :: s) = firstOf r.chars := by
  have h := firstOf_append_congr (a := '\n' :: s) (b := []) rfl r.chars
  rw [List.append_nil] at h
  exact h

namespace Rows

/-- **Rows that are well cut are read back as they were written.** -/
theorem tokenizeFrom_chars {R : Rows} (h : R.IsWellCut) (line : Nat) :
    tokenizeFrom line R.chars = .ok (R.tokens line) := by
  induction R generalizing line with
  | last r =>
    obtain ⟨hcut, htail⟩ := h
    rw [chars, Row.chars, tokenizeFrom_written hcut, tokenizeFrom_of_gap htail]
    simp [Except.map, tokens]
  | cons r rest ih =>
    obtain ⟨⟨hcut, htail⟩, hrest⟩ := h
    have hcut' : WellCut (r.tail ++ '\n' :: rest.chars) r.pieces := by
      have hfirst := firstOf_append_congr (a := []) (b := '\n' :: rest.chars) rfl r.tail
      rw [List.append_nil] at hfirst
      exact hcut.congr hfirst
    rw [chars, Row.chars, List.append_assoc, tokenizeFrom_written hcut', tokenizeFrom_gap htail,
      tokenizeFrom_newline, ih hrest]
    rfl

theorem tokenize_chars {R : Rows} (h : R.IsWellCut) : tokenize R.chars = .ok (R.tokens 1) :=
  tokenizeFrom_chars h 1

/-! ## Every source that the lexer accepts is cut into rows -/

theorem chars_prepend (p : Piece) (R : Rows) :
    (R.prepend p).chars = p.gap ++ (p.text ++ R.chars) := by
  cases R <;> simp [prepend, chars, Row.prepend, Row.chars]

theorem tokens_prepend {p : Piece} (h : ∀ c ∈ p.gap, isGap c) (R : Rows) (line : Nat) :
    (R.prepend p).tokens line =
      ⟨p.kind, p.text, line, line + newlines p.text⟩ :: R.tokens (line + newlines p.text) := by
  have hn : newlines p.gap = 0 := newlines_eq_zero.2 (no_newline_of_gap h)
  cases R with
  | last r => rfl
  | cons r rest =>
    simp [prepend, tokens, Row.prepend, tokensOf, Row.height, hn, Nat.add_assoc]

theorem IsWellCut.prepend {R : Rows} (h : R.IsWellCut) {p : Piece} (hgap : ∀ c ∈ p.gap, isGap c)
    (hkind : p.kind ≠ .newline) (hfits : Fits p.kind p.text (firstOf R.chars)) :
    (R.prepend p).IsWellCut := by
  cases R with
  | last r => exact ⟨⟨hgap, hkind, hfits, h.1⟩, h.2⟩
  | cons r rest =>
    rw [chars, firstOf_chars_append] at hfits
    exact ⟨⟨⟨hgap, hkind, hfits, h.1.1⟩, h.1.2⟩, h.2⟩

end Rows

/-- What the lexer can do: find no more tokens, or cut off one that fits what follows it. -/
theorem tokenizeFrom_cases {line : Nat} {s : List Char} {ts : List Token}
    (h : tokenizeFrom line s = .ok ts) :
    ∃ gap, (∀ c ∈ gap, isGap c) ∧ (s = gap ∧ ts = [] ∨
      ∃ kind text left rest, s = gap ++ (text ++ left) ∧ text ≠ [] ∧
        Fits kind text (firstOf left) ∧ tokenizeFrom (line + newlines text) left = .ok rest ∧
        ts = ⟨kind, text, line,
          if kind = .newline then line else line + newlines text⟩ :: rest) := by
  have hall : ∀ c ∈ s.takeWhile isGap, isGap c := by
    intro c hc
    exact List.mem_takeWhile_imp hc
  have hsplit := List.takeWhile_append_dropWhile (p := isGap) (l := s)
  refine ⟨s.takeWhile isGap, hall, ?_⟩
  rw [← tokenizeFrom_dropWhile] at h
  cases hs : s.dropWhile isGap with
  | nil =>
    rw [hs, List.append_nil] at hsplit
    rw [hs, tokenizeFrom_of_gap (g := []) (by simp)] at h
    exact .inl ⟨hsplit.symm, (Except.ok.inj h).symm⟩
  | cons c rest =>
    have hc : isGap c = false := eq_false_of_dropWhile hs
    rw [hs] at h hsplit
    rw [tokenizeFrom_cons hc] at h
    cases hx : lexeme c rest with
    | error unclosed =>
      rw [hx] at h
      exact absurd h (by simp)
    | ok x =>
      obtain ⟨kind, text, left⟩ := x
      rw [hx] at h
      obtain ⟨ts', hts', rfl⟩ := exists_of_map_eq_ok h
      have happ := lexeme_append hx
      have hne : text ≠ [] := by
        obtain ⟨more, rfl⟩ := lexeme_cons hx
        exact List.cons_ne_nil _ _
      rw [← happ] at hsplit
      exact .inr ⟨kind, text, left, ts', hsplit.symm, hne, fits_of_lexeme hc hx, hts', rfl⟩

/-- **A source that the lexer accepts is cut into rows.** -/
theorem exists_rows {line : Nat} {s : List Char} {ts : List Token}
    (h : tokenizeFrom line s = .ok ts) :
    ∃ R : Rows, R.IsWellCut ∧ R.chars = s ∧ R.tokens line = ts := by
  induction hlen : s.length using Nat.strong_induction_on generalizing line s ts with
  | h n ih =>
    obtain ⟨gap, hgap, ⟨rfl, rfl⟩ | ⟨kind, text, left, rest, rfl, hne, hfits, hrest, rfl⟩⟩ :=
      tokenizeFrom_cases h
    · exact ⟨.last ⟨[], s⟩, ⟨trivial, hgap⟩, rfl, rfl⟩
    · have hshort : left.length < n := by
        have := List.length_pos_iff.2 hne
        simp only [List.length_append] at hlen
        omega
      obtain ⟨R, hR, rfl, rfl⟩ := ih left.length hshort hrest rfl
      by_cases hkind : kind = .newline
      · subst hkind
        cases hfits
        refine ⟨.cons ⟨[], gap⟩ R, ⟨⟨trivial, hgap⟩, hR⟩, rfl, ?_⟩
        simp [Rows.tokens, tokensOf, Row.height, lineEnd]
      · refine ⟨R.prepend ⟨gap, kind, text⟩, hR.prepend hgap hkind hfits, ?_, ?_⟩
        · rw [Rows.chars_prepend]
        · rw [Rows.tokens_prepend hgap, if_neg hkind]

end Scribe.Source
