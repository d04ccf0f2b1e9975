import Scribe.Proofs.Source.Brackets

/-!
# Relabelled tokens

What looks at tokens here looks at their kinds, at the texts of identifiers, and at the numbers of
lines.  A change of tokens that keeps the first two, and keeps lines apart, is not seen by any test of
a token.
-/

namespace Scribe.Source

/-- `f` changes no more of a token than the numbers of its lines, by `g`, and a text that is not an
identifier's; and `g` keeps lines apart. -/
structure Relabels (f : Token → Token) (g : Nat → Nat) : Prop where
  kind (t : Token) : (f t).kind = t.kind
  word (t : Token) : t.kind = .ident → (f t).text = t.text
  line (t : Token) : (f t).line = g t.line
  endLine (t : Token) : (f t).endLine = g t.endLine
  injective : Function.Injective g

namespace Relabels

variable {f : Token → Token} {g : Nat → Nat} (h : Relabels f g)
include h

theorem isComment (t : Token) : (f t).isComment = t.isComment := Token.isComment_congr (h.kind t)

theorem isNewline (t : Token) : (f t).isNewline = t.isNewline := Token.isNewline_congr (h.kind t)

theorem isSignificant (t : Token) : (f t).isSignificant = t.isSignificant :=
  Token.isSignificant_congr (h.kind t)

theorem isPunct (t : Token) (c : Char) : (f t).isPunct c = t.isPunct c :=
  Token.isPunct_congr (h.kind t) c

theorem opens? (t : Token) : (f t).opens? = t.opens? := by
  rw [Token.opens?, Token.opens?, h.kind]

theorem closes? (t : Token) : (f t).closes? = t.closes? := by
  rw [Token.closes?, Token.closes?, h.kind]

theorem isClose (t : Token) : (f t).isClose = t.isClose := by
  rw [Token.isClose, Token.isClose, h.closes?]

theorem depthAfter (t : Token) (depth : Nat) : (f t).depthAfter depth = t.depthAfter depth :=
  Token.depthAfter_congr (h.kind t) depth

theorem isWord (t : Token) (word : List Char) : (f t).isWord word = t.isWord word := by
  rw [Token.isWord, Token.isWord, h.kind]
  by_cases hk : t.kind = .ident
  · rw [h.word t hk]
  · simp [hk]

end Relabels

end Scribe.Source
