import Scribe.Proofs.Source.OneLine

/-!
# Texts that are known tokens

A generated line is put together from fixed text and from text that comes from outside, such as a
name or the inside of a literal.  `Spells s fs next` says what such a part is worth to the lexer:
the characters `s`, on one line and with the character `next` after them, are exactly the tokens
`fs`.  A token is given by its *face*, which is its kind and its text; the place follows from where
the part stands.

Parts are joined by `Spells.append`, where the first character of each part is what follows the part
before it.  So a blank that separates two tokens belongs to the part that it begins, and never to
the one that it ends.  Fixed text is evaluated (`Spells.fixed`); what varies is one token each, with
its own grammar (`Spells.word`, `Spells.literal`, `Spells.rawString`, `Spells.remark`).
-/

namespace Scribe.Source

open Scribe.Text

/-! ## Faces -/

/-- A token without its place. -/
abbrev Face := TokenKind × List Char

namespace Face

/-- The token with a face, on a line. -/
def on (line : Nat) (f : Face) : Token := ⟨f.1, f.2, line, line⟩

/-- An identifier or keyword. -/
def word (s : List Char) : Face := (.ident, s)

/-- A character of punctuation. -/
def mark (c : Char) : Face := (.punct c, [c])

end Face

/-- The face of a token. -/
def Token.face (t : Token) : Face := (t.kind, t.text)

theorem map_face_on (line : Nat) (fs : List Face) :
    (fs.map (Face.on line)).map Token.face = fs := by
  rw [List.map_map]
  exact List.map_id fs

theorem map_face_tokensOf (line : Nat) (ps : List Piece) :
    (tokensOf line ps).map Token.face = ps.map fun p => (p.kind, p.text) := by
  induction ps generalizing line with
  | nil => rfl
  | cons p ps ih =>
    rw [tokensOf, List.map_cons, ih]
    rfl

/-! ## What can follow a token -/

/-- Whether a token of some kind is over before a character. -/
def TokenKind.endsBefore (kind : TokenKind) (c : Char) : Bool :=
  match kind with
  | .ident => !continuesIdent c
  | .number => !continuesNumber c
  | .lineComment => c = '\n'
  | .punct d => d ≠ '/' || (c ≠ '/' && c ≠ '*')
  | .literal | .rawString | .blockComment | .newline => true

theorem Fits.before {kind : TokenKind} {text : List Char} {next c : Char}
    (h : Fits kind text next) (hc : kind.endsBefore c) : Fits kind text c := by
  cases h with
  | newline => exact .newline
  | ident hstart hmore _ => exact .ident hstart hmore (by simpa [TokenKind.endsBefore] using hc)
  | number hstart hmore _ => exact .number hstart hmore (by simpa [TokenKind.endsBefore] using hc)
  | literal hquote hbody => exact .literal hquote hbody
  | rawString hbody => exact .rawString hbody
  | lineComment hbody =>
    obtain rfl : c = '\n' := by simpa [TokenKind.endsBefore] using hc
    exact .lineComment hbody
  | blockComment hbody => exact .blockComment hbody
  | @punct d _ hb hi hd h1 h2 h3 _ =>
    refine .punct hb hi hd h1 h2 h3 ?_
    intro hslash
    simpa [TokenKind.endsBefore, hslash] using hc

theorem Fits.endsBefore_lineEnd {kind : TokenKind} {text : List Char} {next : Char}
    (h : Fits kind text next) : kind.endsBefore '\n' := by
  cases h with
  | ident _ _ _ => decide
  | number _ _ _ => decide
  | punct _ _ _ _ _ _ _ => simp [TokenKind.endsBefore]
  | _ => rfl

/-- Pieces without blanks after them stay well cut where their last token is over. -/
theorem WellCut.before {ps : List Piece} (h : WellCut [] ps) {after : List Char}
    (hlast : ∀ p ∈ ps.getLast?, p.kind.endsBefore (firstOf after)) : WellCut after ps := by
  induction ps with
  | nil => trivial
  | cons p ps ih =>
    obtain ⟨hgap, hkind, hfits, hrest⟩ := h
    cases ps with
    | nil =>
      rw [written_nil, List.nil_append] at hfits
      refine ⟨hgap, hkind, ?_, trivial⟩
      rw [written_nil, List.nil_append]
      exact hfits.before (hlast p rfl)
    | cons q ps =>
      refine ⟨hgap, hkind, ?_, ih hrest (by simpa using hlast)⟩
      obtain ⟨hgap', hkind', hfits', -⟩ := hrest
      have hne : written (q :: ps) ≠ [] := by
        rw [written_cons]
        simp [hfits'.ne_nil]
      rw [firstOf_append hne] at hfits ⊢
      exact hfits

/-! ## Parts of a line -/

/-- The characters `s` stand on one line and are the tokens `fs`, when `next` follows them. -/
def Spells (s : List Char) (fs : List Face) (next : Char) : Prop :=
  '\n' ∉ s ∧ ∀ line after, firstOf after = next →
    tokenizeFrom line (s ++ after) =
      (tokenizeFrom line after).map (fs.map (Face.on line) ++ ·)

namespace Spells

variable {s a b : List Char} {fs gs : List Face} {next : Char}

theorem nil : Spells [] [] next := by
  refine ⟨by simp, ?_⟩
  intro line after _
  cases h : tokenizeFrom line after <;> simp [h, Except.map]

/-- **Parts of a line are joined** where each is over before the next begins. -/
theorem append (ha : Spells a fs (b.headD next)) (hb : Spells b gs next) :
    Spells (a ++ b) (fs ++ gs) next := by
  obtain ⟨hna, ha⟩ := ha
  obtain ⟨hnb, hb⟩ := hb
  refine ⟨by simp [hna, hnb], ?_⟩
  intro line after hafter
  have hfirst : firstOf (b ++ after) = b.headD next := by
    cases b with
    | nil => exact hafter
    | cons c b => rfl
  rw [List.append_assoc, ha line _ hfirst, hb line _ hafter]
  cases tokenizeFrom line after with
  | error e => rfl
  | ok rest => simp [Except.map]

/-- One token, with the blanks before it. -/
theorem token {gap text : List Char} {kind : TokenKind} (hgap : ∀ c ∈ gap, isGap c)
    (h : Fits kind text next) (hkind : kind ≠ .newline) (hn : '\n' ∉ text) :
    Spells (gap ++ text) [(kind, text)] next := by
  refine ⟨by simp [no_newline_of_gap hgap, hn], ?_⟩
  intro line after hafter
  have hcut : WellCut after [⟨gap, kind, text⟩] := by
    refine ⟨hgap, hkind, ?_, trivial⟩
    rw [written_nil, List.nil_append, hafter]
    exact h
  have hread := tokenizeFrom_written hcut line
  rw [written_cons, written_nil, List.append_nil, newlines_append,
    newlines_eq_zero.2 (no_newline_of_gap hgap), newlines_eq_zero.2 hn] at hread
  rw [hread, tokensOf, tokensOf, newlines_eq_zero.2 hn]
  rfl

/-- Fixed text, whose tokens are found by evaluation. -/
theorem fixed (h : tokenize s = .ok (fs.map (Face.on 1))) (hn : '\n' ∉ s)
    (hlast : fs.getLast?.all (·.1.endsBefore next)) : Spells s fs next := by
  refine ⟨hn, ?_⟩
  intro line after hafter
  obtain ⟨r, ⟨hcut, htail⟩, rfl, htokens⟩ := exists_row h hn
  have hwritten : '\n' ∉ written r.pieces := fun hm => hn (List.mem_append_left _ hm)
  have hplaced : tokensOf line r.pieces = fs.map (Face.on line) := by
    rw [tokensOf_of_no_newline hwritten, htokens, List.map_map]
    rfl
  have hcut' : WellCut (r.tail ++ after) r.pieces := by
    cases htl : r.tail with
    | cons c tail =>
      rw [htl] at hcut
      refine hcut.congr ?_
      rfl
    | nil =>
      rw [htl] at hcut
      refine hcut.before ?_
      intro p hp
      have hfaces : r.pieces.map (fun p => (p.kind, p.text)) = fs := by
        rw [← map_face_tokensOf 1, htokens, map_face_on]
      have hface : (p.kind, p.text) ∈ fs.getLast? := by
        rw [← hfaces, List.getLast?_map, hp]
        rfl
      rw [List.nil_append, hafter]
      exact (Option.all_eq_true _ _).1 hlast _ hface
  rw [Row.chars, List.append_assoc, tokenizeFrom_written hcut', tokenizeFrom_gap htail,
    newlines_eq_zero.2 hwritten, hplaced]
  rfl

/-! ### Where nothing follows -/

/-- A part before a line end is a source of its own. -/
theorem tokenize_eq (h : Spells s fs '\n') : tokenize s = .ok (fs.map (Face.on 1)) := by
  have hs := h.2 1 [] rfl
  have hnil : tokenizeFrom 1 [] = .ok [] := tokenizeFrom_of_gap (by simp) 1
  rw [List.append_nil, hnil] at hs
  rw [tokenize, hs]
  exact congrArg Except.ok (List.append_nil _)

/-- Fixed text at the end of a line. -/
theorem fixedEnd (h : tokenize s = .ok (fs.map (Face.on 1))) (hn : '\n' ∉ s) :
    Spells s fs '\n' := by
  refine fixed h hn ((Option.all_eq_true _ _).2 ?_)
  intro f hf
  obtain ⟨r, ⟨hcut, -⟩, -, htokens⟩ := exists_row h hn
  have hfaces : r.pieces.map (fun p => (p.kind, p.text)) = fs := by
    rw [← map_face_tokensOf 1, htokens, map_face_on]
  rw [← hfaces] at hf
  obtain ⟨p, hp, rfl⟩ := List.mem_map.1 (List.mem_of_getLast? hf)
  obtain ⟨-, -, next, hfits⟩ := hcut.mem hp
  exact hfits.endsBefore_lineEnd

/-! ### Parts that vary -/

variable {gap : List Char}

theorem literal (hgap : gap.all isGap) {body : List Char} (h : Quoted '"' body) :
    Spells (gap ++ ('"' :: body ++ ['"'])) [(.literal, '"' :: body ++ ['"'])] next :=
  token (List.all_eq_true.1 hgap) (.literal (.inl rfl) h) (by simp) (by simpa using h.no_newline)

theorem rawString (hgap : gap.all isGap) {body : List Char} (h : '\x60' ∉ body)
    (hn : '\n' ∉ body) :
    Spells (gap ++ ('\x60' :: body ++ ['\x60'])) [(.rawString, '\x60' :: body ++ ['\x60'])] next :=
  token (List.all_eq_true.1 hgap) (.rawString h) (by simp) (by simpa using hn)

theorem remark (hgap : gap.all isGap) {body : List Char} (hn : '\n' ∉ body) :
    Spells (gap ++ '/' :: '/' :: body) [(.lineComment, '/' :: '/' :: body)] '\n' :=
  token (List.all_eq_true.1 hgap) (.lineComment hn) (by simp) (by simpa using hn)

end Spells

/-! ## Words -/

/-- A text that is one identifier. -/
def IsWord (s : List Char) : Prop := tokenize s = .ok [(Face.word s).on 1]

theorem IsWord.no_newline {s : List Char} (h : IsWord s) : '\n' ∉ s :=
  no_newline_of_tokenize_ident h

theorem IsWord.fits {s : List Char} (h : IsWord s) : Fits .ident s '\n' := by
  obtain ⟨r, ⟨hcut, -⟩, -, htokens⟩ := exists_row h h.no_newline
  have hfaces := map_face_tokensOf 1 r.pieces
  rw [htokens] at hfaces
  obtain ⟨p, hp, hface⟩ : ∃ p ∈ r.pieces, (p.kind, p.text) = Face.word s := by
    have hmem : Face.word s ∈ r.pieces.map fun p => (p.kind, p.text) := by
      rw [← hfaces]
      exact List.mem_singleton.2 rfl
    exact List.mem_map.1 hmem
  obtain ⟨-, -, next, hfits⟩ := hcut.mem hp
  obtain ⟨hkind, htext⟩ := Prod.mk.inj hface
  rw [hkind, htext] at hfits
  exact hfits.at_lineEnd

theorem Spells.word {s gap : List Char} {next : Char} (h : Fits .ident s '\n')
    (hgap : gap.all isGap) (hnext : continuesIdent next = false) :
    Spells (gap ++ s) [Face.word s] next := by
  have hn : '\n' ∉ s := h.no_newline (by simp) (by simp) (by simp)
  refine token (List.all_eq_true.1 hgap) (h.before ?_) (by simp) hn
  simp [TokenKind.endsBefore, hnext]

theorem isWord_iff {s : List Char} : IsWord s ↔ Fits .ident s '\n' := by
  constructor
  · exact IsWord.fits
  · intro h
    have hspells : Spells ([] ++ s) [Face.word s] '\n' := .word h rfl (by decide)
    exact hspells.tokenize_eq

end Scribe.Source
