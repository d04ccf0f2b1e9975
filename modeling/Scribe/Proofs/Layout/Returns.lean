import Scribe.Proofs.Source.Relabel
import Scribe.Proofs.Source.Returns

/-!
# Laying out a source with carriage returns

The layout of a source is made of its lines, and of the kinds and lines of its tokens.  Carriage
returns at line ends change none of these, so the layout is the same without them, and so is the
error of a source that has none.
-/

namespace Scribe.Source

open Scribe.Text

/-! ## Tokens whose texts are changed -/

section
variable {f : Token → Token} (h : Relabels f id)
include h

theorem checkBrackets_map (stack : List (Bracket × Nat)) (ts : List Token) :
    checkBrackets stack (ts.map f) = checkBrackets stack ts := by
  induction ts generalizing stack with
  | nil => rfl
  | cons t ts ih =>
    rw [List.map_cons, checkBrackets, checkBrackets, h.opens?, h.closes?, h.line]
    simp only [ih, id_eq]

theorem openAfter_map (ts : List Token) : openAfter (ts.map f) = openAfter ts := by
  rw [openAfter, openAfter, List.foldl_map]
  simp only [h.depthAfter]

theorem LineRule.of_map (ts : List Token) (line : Nat) :
    LineRule.of (ts.map f) line = LineRule.of ts line := by
  have hstarting : startingOn line (ts.map f) = (startingOn line ts).map f := by
    simp only [startingOn, List.filter_map, Function.comp_def, h.line, h.isNewline, id_eq]
  simp only [LineRule.of, hstarting, List.any_map, List.takeWhile_map, List.length_map,
    Function.comp_def, openAfter_map h, h.line, h.endLine, h.isClose, Token.spansLines, id_eq]
  rfl

theorem layLines_map (ts : List Token) (number : Nat) (ls : List (List Char)) :
    layLines (ts.map f) number ls = layLines ts number ls := by
  induction ls generalizing number with
  | nil => rfl
  | cons line rest ih => simp only [layLines, LineRule.of_map h, ih]

end

/-! ## Tokens without carriage returns -/

theorem relabels_withoutReturns : Relabels Token.withoutReturns id where
  kind := Token.kind_withoutReturns
  word t ht := by rw [Token.withoutReturns_of_ident ht]
  line := Token.line_withoutReturns
  endLine := Token.endLine_withoutReturns
  injective := Function.injective_id

/-- **Carriage returns at line ends do not change the layout of a source.** -/
theorem layout_withoutReturns {s : List Char} (h : ReturnsEndLines s) :
    layout (withoutReturns s) = layout s := by
  have hrelabels := relabels_withoutReturns
  rw [layout, layout, tokenize_withoutReturns h]
  cases tokenize s with
  | error e => rfl
  | ok ts =>
    have hlaid : layOut (ts.map Token.withoutReturns) (withoutReturns s) = layOut ts s := by
      rw [layOut, layOut, layLines_map hrelabels, lines_withoutReturns h]
    simp only [Except.map, checkBrackets_map hrelabels, hlaid]

end Scribe.Source
