import Scribe.Proofs.Source.Fits
import Scribe.Text.Escape

/-!
# Reading string literals back

`stringLiteral` writes a text into the inside of a quoted literal; here is the way back.  `unquote`
undoes the escapes of a literal's inside and fails where the inside of a literal cannot be: at a
quote or a line feed that stands by itself, and at an escape that this library never writes.  So a
text that `unquote` accepts can stand between quotes and is one token there
(`quoted_of_unquote`), and what a reader finds in it is what `unquote` gives.

Escapes are undone piece by piece.  `ReadsAs a s` says that the piece `a` gives `s` wherever it
stands, which is closed under concatenation; an escape that works character by character is right as
soon as it is right for each character (`ReadsAs.flatMap`).
-/

namespace Scribe.Source

open Scribe.Text

/-! ## Undoing escapes -/

/-- The character that a backslash and the character `c` stand for. -/
def escapeMeaning? (c : Char) : Option Char :=
  if c = '\\' then some '\\'
  else if c = '"' then some '"'
  else if c = 'n' then some '\n'
  else if c = 'r' then some '\r'
  else if c = 't' then some '\t'
  else none

/-- The text that the inside of a quoted literal stands for. -/
def unquote : List Char → Option (List Char)
  | [] => some []
  | '\\' :: c :: s =>
    match escapeMeaning? c with
    | some d => (unquote s).map (d :: ·)
    | none => none
  | c :: s => if c = '\\' || c = '"' || c = '\n' then none else (unquote s).map (c :: ·)

/-- The text of a whole literal between double quotes. -/
def readLiteral (text : List Char) : Option (List Char) :=
  match text with
  | '"' :: rest =>
    match takeQuoted '"' rest with
    | some (taken, []) => unquote taken.dropLast
    | _ => none
  | _ => none

theorem unquote_cons {c : Char} (hb : c ≠ '\\') (hq : c ≠ '"') (hn : c ≠ '\n') (s : List Char) :
    unquote (c :: s) = (unquote s).map (c :: ·) := by
  rw [unquote]
  · simp [hb, hq, hn]
  · exact fun d rest h => absurd h hb

theorem unquote_escape {c d : Char} (h : escapeMeaning? c = some d) (s : List Char) :
    unquote ('\\' :: c :: s) = (unquote s).map (d :: ·) := by
  rw [unquote, h]

/-- A text that stands for another can be the inside of a literal. -/
theorem quoted_of_unquote {a s : List Char} (h : unquote a = some s) : Quoted '"' a := by
  fun_induction unquote a generalizing s with
  | case1 => exact .nil
  | case2 c rest d hd ih =>
    obtain ⟨t, ht, -⟩ := Option.map_eq_some_iff.1 h
    refine .escaped ?_ (ih ht)
    rintro rfl
    simp [escapeMeaning?] at hd
  | case3 => exact absurd h (by simp)
  | case4 => exact absurd h (by simp)
  | case5 c rest _ hc ih =>
    obtain ⟨t, ht, -⟩ := Option.map_eq_some_iff.1 h
    simp only [Bool.or_eq_true, decide_eq_true_eq, not_or] at hc
    exact .plain hc.2 hc.1.1 hc.1.2 (ih ht)

/-- Between quotes, such a text is one literal that stands for the other. -/
theorem readLiteral_of_unquote {a s : List Char} (h : unquote a = some s) :
    readLiteral ('"' :: a ++ ['"']) = some s := by
  have htake := takeQuoted_of_quoted (by decide) (by decide) (quoted_of_unquote h) []
  show (match takeQuoted '"' (a ++ ['"']) with
    | some (taken, []) => unquote taken.dropLast
    | _ => none) = some s
  rw [htake]
  simpa using h

/-! ## Piece by piece -/

/-- The characters `a` stand for the text `s` wherever they are in a literal. -/
def ReadsAs (a s : List Char) : Prop := ∀ b, unquote (a ++ b) = (unquote b).map (s ++ ·)

namespace ReadsAs

theorem nil : ReadsAs [] [] := by
  intro b
  simp

theorem append {a b s t : List Char} (ha : ReadsAs a s) (hb : ReadsAs b t) :
    ReadsAs (a ++ b) (s ++ t) := by
  intro rest
  rw [List.append_assoc, ha, hb, Option.map_map]
  refine congrArg (fun f => (unquote rest).map f) ?_
  funext r
  simp

/-- An ordinary character stands for itself. -/
theorem plain {c : Char} (hb : c ≠ '\\') (hq : c ≠ '"') (hn : c ≠ '\n') : ReadsAs [c] [c] :=
  fun b => unquote_cons hb hq hn b

/-- A character that an escape means. -/
theorem escape {c d e : Char} (hd : d = e) (h : escapeMeaning? c = some e) :
    ReadsAs ['\\', c] [d] :=
  fun b => hd ▸ unquote_escape h b

theorem flatMap {f g : Char → List Char} {s : List Char} (h : ∀ c ∈ s, ReadsAs (f c) (g c)) :
    ReadsAs (s.flatMap f) (s.flatMap g) := by
  induction s with
  | nil => exact nil
  | cons c s ih =>
    rw [List.forall_mem_cons] at h
    rw [List.flatMap_cons, List.flatMap_cons]
    exact h.1.append (ih h.2)

theorem unquote_eq {a s : List Char} (h : ReadsAs a s) : unquote a = some s := by
  have ha := h []
  rw [List.append_nil] at ha
  rw [ha]
  simp [unquote]

end ReadsAs

/-! ## What is written into literals -/

theorem readsAs_literalChar (c : Char) : ReadsAs (literalChar c) [c] := by
  unfold literalChar
  split
  · rename_i h
    exact .escape h (by decide)
  split
  · rename_i h
    exact .escape h (by decide)
  split
  · rename_i h
    exact .escape h (by decide)
  split
  · rename_i h
    exact .escape h (by decide)
  split
  · rename_i h
    exact .escape h (by decide)
  · rename_i hb hq hn _ _
    exact .plain hb hq hn

/-- **Every text comes back from the literal that it is written into.** -/
theorem readsAs_stringLiteral (s : List Char) : ReadsAs (stringLiteral s) s := by
  have h := ReadsAs.flatMap (s := s) (fun c _ => readsAs_literalChar c)
  rw [List.flatMap_singleton'] at h
  exact h

/-- So a text between quotes is one literal, whatever it contains. -/
theorem quoted_stringLiteral (s : List Char) : Quoted '"' (stringLiteral s) :=
  quoted_of_unquote (readsAs_stringLiteral s).unquote_eq

theorem readLiteral_stringLiteral (s : List Char) :
    readLiteral ('"' :: stringLiteral s ++ ['"']) = some s :=
  readLiteral_of_unquote (readsAs_stringLiteral s).unquote_eq

example : readLiteral "\"a \\\"b\\\"\\n\"".toList = some "a \"b\"\n".toList := by decide

end Scribe.Source
