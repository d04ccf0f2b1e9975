import Scribe.Proofs.Constants.Steps
import Scribe.Proofs.Layout.Braces
import Scribe.Proofs.Source.Nested

/-!
# Sources without commented constants

The reader of constants only looks at two keywords, and only outside all brackets.  Tokens without
them there are *quiet*: they are passed over (`readFrom_append_of_quiet`), and reading them alone
finds nothing (`readFrom_quiet`).  Inside brackets it does not matter what the words are
(`quiet_of_nested`), so whether tokens are quiet can be evaluated line by line (`quiet_tokensOn`).
-/

namespace Scribe.Source

open Scribe.Text

/-- Whether no keyword that the reader of constants looks at stands outside all brackets, where
`depth` brackets are open before the tokens. -/
def quiet (depth : Nat) : List Token → Bool
  | [] => true
  | t :: ts =>
    (decide (0 < depth) || !(t.isWord "const".toList || t.isWord "package".toList)) &&
      quiet (t.depthAfter depth) ts

/-- Quiet tokens are passed over. -/
theorem readFrom_append_of_quiet {depth : Nat} {ts : List Token} (h : quiet depth ts)
    (us : List Token) :
    readFrom depth (ts ++ us) =
      readFrom (ts.foldl (fun depth t => t.depthAfter depth) depth) us := by
  induction ts generalizing depth with
  | nil => rfl
  | cons t ts ih =>
    rw [quiet, Bool.and_eq_true] at h
    obtain ⟨hword, hrest⟩ := h
    have hconst : (decide (depth = 0) && t.isWord "const".toList) = false := by
      by_cases hd : depth = 0
      · simp_all
      · simp [hd]
    have hpackage : packageAt depth t (ts ++ us) = none := by
      unfold packageAt
      by_cases hd : depth = 0
      · simp_all
      · simp [hd]
    rw [List.cons_append, readFrom_other hconst, ih hrest, hpackage, List.foldl_cons]
    cases readFrom (ts.foldl (fun depth t => t.depthAfter depth) (t.depthAfter depth)) us <;> rfl

theorem readFrom_quiet {depth : Nat} {ts : List Token} (h : quiet depth ts) :
    readFrom depth ts = .ok ⟨none, []⟩ := by
  have hread := readFrom_append_of_quiet h []
  rw [List.append_nil] at hread
  rw [hread, readFrom]

theorem quiet_append (depth : Nat) (ts us : List Token) :
    quiet depth (ts ++ us) =
      (quiet depth ts && quiet (ts.foldl (fun depth t => t.depthAfter depth) depth) us) := by
  induction ts generalizing depth with
  | nil => rfl
  | cons t ts ih => rw [List.cons_append, quiet, ih, quiet, List.foldl_cons, Bool.and_assoc]

/-- Tokens without either keyword are quiet at every depth. -/
theorem quiet_of_not_isWord {ts : List Token}
    (h : ∀ t ∈ ts, t.isWord "const".toList = false ∧ t.isWord "package".toList = false)
    (depth : Nat) : quiet depth ts := by
  induction ts generalizing depth with
  | nil => rfl
  | cons t ts ih =>
    obtain ⟨⟨hconst, hpackage⟩, hrest⟩ := List.forall_mem_cons.1 h
    rw [quiet, hconst, hpackage, ih hrest]
    simp

/-! ## Inside brackets -/

/-- Well-nested tokens leave the depth as it was. -/
theorem Nested.foldl_depthAfter {ts : List Token} (h : Nested ts) (depth : Nat) :
    ts.foldl (fun depth t => t.depthAfter depth) depth = depth := by
  induction h generalizing depth with
  | nil => rfl
  | other hopens hcloses _ ih =>
    rw [List.foldl_cons, Token.depthAfter_of_other hopens hcloses, ih]
  | pair hopens _ hcloses _ ihinner ih =>
    rw [List.foldl_cons, Token.depthAfter_of_opens? hopens, List.foldl_append, ihinner,
      List.foldl_cons, Token.depthAfter_of_closes? hcloses, Nat.add_sub_cancel, ih]

/-- Inside brackets, well-nested tokens are quiet whatever they are. -/
theorem quiet_of_nested {ts : List Token} (h : Nested ts) {depth : Nat} (hdepth : 0 < depth) :
    quiet depth ts := by
  induction h generalizing depth with
  | nil => rfl
  | other hopens hcloses _ ih =>
    rw [quiet, decide_eq_true hdepth, Token.depthAfter_of_other hopens hcloses, ih hdepth]
    rfl
  | pair hopens hinner hcloses _ ihinner ih =>
    rw [quiet, decide_eq_true hdepth, Token.depthAfter_of_opens? hopens, quiet_append,
      ihinner (Nat.succ_pos depth), hinner.foldl_depthAfter, quiet,
      decide_eq_true (Nat.succ_pos depth), Token.depthAfter_of_closes? hcloses,
      Nat.add_sub_cancel, ih hdepth]
    rfl

/-- Lines without brackets, inside brackets. -/
theorem quiet_tokensOn {depth : Nat} (hdepth : 0 < depth) {ls : List (List Face)}
    (h : ∀ fs ∈ ls, ∀ f ∈ fs, (f.on 0).NoBracket) (line : Nat) (ts : List Token) :
    quiet depth (tokensOn line ls ++ ts) = quiet depth ts := by
  have hplain : ∀ (us ts : List Token), (∀ t ∈ us, t.NoBracket) →
      quiet depth (us ++ ts) = quiet depth ts := by
    intro us ts hus
    induction us with
    | nil => rfl
    | cons t us ih =>
      obtain ⟨ht, hrest⟩ := List.forall_mem_cons.1 hus
      rw [List.cons_append, quiet, decide_eq_true hdepth, Token.depthAfter_of_other ht.1 ht.2,
        ih hrest]
      rfl
  exact hplain _ ts (noBracket_tokensOn h line)

end Scribe.Source
