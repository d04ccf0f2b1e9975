import Scribe.Proofs.Source.Nested
import Scribe.Proofs.Source.Relabel
import Scribe.Proofs.Source.Segmentation

/-!
# Sources joined end to end

The tokens of a source that is followed by another are its own, and then those of the other, with
the lines of the other counted from where the first one leaves off (`tokenizeFrom_append`).  The
only way for the two to run together is that the last token of the first could go on, and nothing
goes on after a line end.

Counting the lines of a source from further on changes the numbers of lines alone, in its tokens and
in the error if it has none (`tokenizeFrom_add`).
-/

namespace Scribe.Source

open Scribe.Text

variable {s : List Char} {ts : List Token} {line n : Nat}

/-! ## Tokens of both parts -/

/-- **Sources are joined** where the last token of the first is over before the second begins. -/
theorem tokenizeFrom_append (h : tokenizeFrom line s = .ok ts) (after : List Char)
    (hlast : ∀ t ∈ ts.getLast?, t.kind.endsBefore (firstOf after)) :
    tokenizeFrom line (s ++ after) =
      (tokenizeFrom (line + newlines s) after).map (ts ++ ·) := by
  induction hlen : s.length using Nat.strong_induction_on generalizing line s ts with
  | h len ih =>
    obtain ⟨gap, hgap, ⟨rfl, rfl⟩ | ⟨kind, text, left, rest, rfl, hne, hfits, hrest, rfl⟩⟩ :=
      tokenizeFrom_cases h
    · rw [tokenizeFrom_gap hgap, newlines_eq_zero.2 (no_newline_of_gap hgap), Nat.add_zero]
      cases tokenizeFrom line after <;> rfl
    · have hshort : left.length < len := by
        have := List.length_pos_iff.2 hne
        simp only [List.length_append] at hlen
        omega
      have hfits' : Fits kind text (firstOf (left ++ after)) := by
        cases left with
        | cons c left => exact hfits
        | nil =>
          rw [tokenizeFrom_of_gap (by simp)] at hrest
          obtain rfl := Except.ok.inj hrest
          exact hfits.before (hlast _ rfl)
      have hlast' : ∀ t ∈ rest.getLast?, t.kind.endsBefore (firstOf after) := by
        intro t ht
        apply hlast t
        rw [List.getLast?_cons, ht]
        rfl
      have hcount : newlines (gap ++ (text ++ left)) = newlines text + newlines left := by
        rw [newlines_append, newlines_append, newlines_eq_zero.2 (no_newline_of_gap hgap),
          Nat.zero_add]
      rw [List.append_assoc, List.append_assoc, tokenizeFrom_of_fits hgap hfits',
        ih left.length hshort hrest hlast' rfl, hcount, ← Nat.add_assoc]
      cases tokenizeFrom (line + newlines text + newlines left) after <;> rfl

/-- Only a line end ends in a line feed. -/
theorem Fits.kind_of_getLast? {kind : TokenKind} {text : List Char} {next : Char}
    (h : Fits kind text next) (hend : text.getLast? = some '\n') : kind = .newline := by
  by_contra hkind
  by_cases hcomment : kind = .lineComment
  · subst hcomment
    exact h.no_newline (by simp) (by simp) (by simp) (List.mem_of_getLast? hend)
  · have hblank := h.isBlank_getLast hkind hcomment '\n' hend
    exact absurd hblank (by decide)

/-- A source that ends in a line feed has a line end for its last token. -/
theorem isNewline_getLast?_of_tokenizeFrom (h : tokenizeFrom line s = .ok ts)
    (hend : s.getLast? = some '\n') : ∃ n, ts.getLast? = some n ∧ n.isNewline := by
  induction hlen : s.length using Nat.strong_induction_on generalizing line s ts with
  | h len ih =>
    obtain ⟨gap, hgap, ⟨rfl, rfl⟩ | ⟨kind, text, left, rest, rfl, hne, hfits, hrest, rfl⟩⟩ :=
      tokenizeFrom_cases h
    · exact absurd (List.mem_of_getLast? hend) (no_newline_of_gap hgap)
    · have hshort : left.length < len := by
        have := List.length_pos_iff.2 hne
        simp only [List.length_append] at hlen
        omega
      rw [← List.append_assoc, List.getLast?_append] at hend
      cases hleft : left.getLast? with
      | some c =>
        rw [hleft] at hend
        obtain ⟨n, hn, hnewline⟩ := ih left.length hshort hrest (hleft.trans hend) rfl
        exact ⟨n, by rw [List.getLast?_cons, hn]; rfl, hnewline⟩
      | none =>
        obtain rfl := List.getLast?_eq_none_iff.1 hleft
        rw [tokenizeFrom_of_gap (by simp)] at hrest
        obtain rfl := Except.ok.inj hrest
        have htext := List.getLast?_eq_some_getLast hne
        rw [hleft, Option.none_or, List.getLast?_append, htext, Option.some_or, ← htext] at hend
        exact ⟨_, rfl, decide_eq_true (hfits.kind_of_getLast? hend)⟩

/-- Nothing runs together with a source that ends in a line feed. -/
theorem lexes_of_getLast? (h : tokenizeFrom line s = .ok ts) (hend : s.getLast? = some '\n') :
    Lexes line s (line + newlines s) ts := by
  intro after
  obtain ⟨n, hn, hnewline⟩ := isNewline_getLast?_of_tokenizeFrom h hend
  apply tokenizeFrom_append h after
  intro t ht
  obtain rfl := Option.some.inj (hn.symm.trans ht)
  have hkind : n.kind = .newline := by simpa [Token.isNewline] using hnewline
  rw [hkind]
  rfl

/-! ## Parts of a source -/

namespace Lexes

variable {c : Char} {s' : List Char} {us : List Token} {next : Nat}

/-- A text on any lines, before one that its last token does not run into. -/
theorem before (h : tokenizeFrom line s = .ok ts)
    (hlast : ∀ t ∈ ts.getLast?, t.kind.endsBefore c)
    (h' : Lexes (line + newlines s) (c :: s') next us) :
    Lexes line (s ++ c :: s') next (ts ++ us) := by
  intro after
  rw [List.append_assoc, tokenizeFrom_append h (c :: s' ++ after) hlast, h']
  cases tokenizeFrom next after with
  | error e => rfl
  | ok rest => simp [Except.map]

/-- Punctuation other than the slash is over wherever it stands. -/
theorem mark (h : Fits (.punct c) [c] '\n') (hslash : c ≠ '/') (line : Nat) :
    Lexes line [c] line [⟨.punct c, [c], line, line⟩] := by
  intro after
  have hfits : Fits (.punct c) [c] (firstOf after) := by
    apply h.before
    simp [TokenKind.endsBefore, hslash]
  have hzero : newlines [c] = 0 :=
    newlines_eq_zero.2 (h.no_newline (by simp) (by simp) (by simp))
  have hread : tokenizeFrom line ([] ++ ([c] ++ after)) = _ :=
    tokenizeFrom_of_fits (by simp) hfits line
  rw [hzero] at hread
  exact hread

end Lexes

/-! ## Lines counted from further on -/

/-- The token `n` lines further down. -/
def Token.down (n : Nat) (t : Token) : Token :=
  { t with line := t.line + n, endLine := t.endLine + n }

/-- The error `n` lines further down. -/
def LexError.down (n : Nat) (e : LexError) : LexError := { e with line := e.line + n }

theorem relabels_down (n : Nat) : Relabels (Token.down n) (· + n) where
  kind _ := rfl
  word _ _ := rfl
  line _ := rfl
  endLine _ := rfl
  injective _ _ h := Nat.add_right_cancel h

/-- **Where a source stands only matters to the numbers of its lines.** -/
theorem tokenizeFrom_add (line n : Nat) (s : List Char) :
    tokenizeFrom (line + n) s =
      ((tokenizeFrom line s).mapError (LexError.down n)).map (List.map (Token.down n)) := by
  induction hlen : s.length using Nat.strong_induction_on generalizing line s with
  | h len ih =>
    rw [← tokenizeFrom_dropWhile, ← tokenizeFrom_dropWhile line]
    have hle := (List.dropWhile_sublist isGap (l := s)).length_le
    cases hs : s.dropWhile isGap with
    | nil =>
      rw [tokenizeFrom_of_gap (by simp), tokenizeFrom_of_gap (by simp)]
      rfl
    | cons c rest =>
      have hc : isGap c = false := eq_false_of_dropWhile hs
      rw [hs, List.length_cons] at hle
      rw [tokenizeFrom_cons hc, tokenizeFrom_cons hc]
      cases hx : lexeme c rest with
      | error unclosed => rfl
      | ok x =>
        obtain ⟨kind, text, left⟩ := x
        have hshort := lexeme_length hx
        have hnext := ih left.length (by omega) (line + newlines text) left rfl
        rw [Nat.add_right_comm] at hnext
        dsimp only
        rw [hnext]
        cases tokenizeFrom (line + newlines text) left with
        | error e => rfl
        | ok ts =>
          by_cases hkind : kind = .newline <;>
            simp [Except.mapError, Except.map, Token.down, hkind, Nat.add_right_comm]

theorem tokenizeFrom_down (h : tokenize s = .ok ts) (n : Nat) :
    tokenizeFrom (1 + n) s = .ok (ts.map (Token.down n)) := by
  have h : tokenizeFrom 1 s = .ok ts := h
  rw [tokenizeFrom_add, h]
  rfl

theorem nested_down (h : Nested ts) (n : Nat) : Nested (ts.map (Token.down n)) := by
  apply h.congr
  rw [List.map_map]
  rfl

end Scribe.Source
