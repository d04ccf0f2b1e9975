import Mathlib
import Scribe.Proofs.Source.Nested

/-!
# Which bracket is to blame

A source that consists of tokens is laid out exactly when its brackets nest, and otherwise one
bracket is to blame (`layout_blames`): the first closing bracket that does not match the innermost
bracket still open or, when every closing bracket matches, the innermost bracket left open.

The specification does not mention a stack.  A bracket is the innermost one open after some tokens
if it stands among them and the tokens after it nest (`Innermost`).  The stack of the check comes in
through `LeavesOpen`, which lists the brackets open after some tokens whose closing brackets all
match.  It is carried along the check (`blames_of_checkBrackets`), and the check can be resumed from
it at any token (`LeavesOpen.checkBrackets_append`), so that each bracket that is to blame is found.
-/

namespace Scribe.Source

variable {ts us before : List Token} {o t : Token} {b : Bracket} {line : Nat}
  {stack : List (Bracket × Nat)} {e : BracketError}

/-! ## Matching brackets -/

/-- The token `o` opens the innermost bracket that is open after some tokens, of kind `b`. -/
def Innermost (before : List Token) (o : Token) (b : Bracket) : Prop :=
  o.opens? = some b ∧ ∃ outer inner, before = outer ++ o :: inner ∧ Nested inner

/-- Every closing bracket matches the innermost bracket that is open before it. -/
def ClosersMatch (ts : List Token) : Prop :=
  ∀ before c after b, ts = before ++ c :: after → c.closes? = some b → ∃ o, Innermost before o b

theorem closersMatch_nil : ClosersMatch [] := by
  intro before c after b h
  simp at h

theorem ClosersMatch.of_append (h : ClosersMatch (ts ++ us)) : ClosersMatch ts := by
  intro before c after b hts hc
  exact h before c (after ++ us) b (by simp [hts]) hc

theorem ClosersMatch.snoc (h : ClosersMatch ts)
    (ht : ∀ b, t.closes? = some b → ∃ o, Innermost ts o b) : ClosersMatch (ts ++ [t]) := by
  intro before c after b hsplit hc
  rcases List.eq_nil_or_concat after with rfl | ⟨init, last, rfl⟩
  · obtain ⟨rfl, hlast⟩ := List.append_inj' hsplit rfl
    obtain rfl : t = c := (List.cons.inj hlast).1
    exact ht b hc
  · have hsplit' : ts ++ [t] = (before ++ c :: init) ++ [last] := by simpa using hsplit
    exact h before c init b (List.append_inj' hsplit' rfl).1 hc

/-! ## The brackets left open -/

/-- All closing brackets among some tokens match, and `stack` holds the brackets open after them
with their lines, innermost first. -/
inductive LeavesOpen : List (Bracket × Nat) → List Token → Prop where
  | nested {ts : List Token} (h : Nested ts) : LeavesOpen [] ts
  | opened {stack : List (Bracket × Nat)} {outer inner : List Token} {o : Token} {b : Bracket}
      (houter : LeavesOpen stack outer) (hopens : o.opens? = some b) (hinner : Nested inner) :
      LeavesOpen ((b, o.line) :: stack) (outer ++ o :: inner)

namespace LeavesOpen

theorem append (h : LeavesOpen stack ts) (hus : Nested us) : LeavesOpen stack (ts ++ us) := by
  cases h with
  | nested h => exact .nested (h.append hus)
  | opened houter hopens hinner =>
    rw [List.append_assoc, List.cons_append]
    exact .opened houter hopens (hinner.append hus)

/-- Closing the innermost bracket leaves the others open. -/
theorem close (h : LeavesOpen ((b, line) :: stack) ts) (hc : t.closes? = some b) :
    LeavesOpen stack (ts ++ [t]) := by
  cases h with
  | @opened stack outer inner o b houter hopens hinner =>
    have hpair : Nested (o :: (inner ++ [t])) := .pair hopens hinner hc .nil
    simpa using houter.append hpair

theorem innermost (h : LeavesOpen ((b, line) :: stack) ts) :
    ∃ o, Innermost ts o b ∧ o.line = line := by
  cases h with
  | @opened stack outer inner o b houter hopens hinner =>
    exact ⟨o, ⟨hopens, outer, inner, rfl, hinner⟩, rfl⟩

/-- The check can be resumed from the brackets left open. -/
theorem checkBrackets_append (h : LeavesOpen stack ts) (us : List Token) :
    checkBrackets [] (ts ++ us) = checkBrackets stack us := by
  induction h generalizing us with
  | nested h => exact Source.checkBrackets_append h [] us
  | opened houter hopens hinner ih =>
    rw [List.append_assoc, ih, List.cons_append, checkBrackets, hopens]
    exact Source.checkBrackets_append hinner _ us

/-- Where no bracket is left open, none is the innermost. -/
theorem not_innermost (h : LeavesOpen [] ts) (hopen : LeavesOpen ((b, line) :: stack) ts) :
    False := by
  have hend := h.checkBrackets_append []
  rw [hopen.checkBrackets_append []] at hend
  simp [checkBrackets] at hend

end LeavesOpen

/-- Where all closing brackets match, the brackets left open can be listed.  By induction on the
length, since a closing bracket goes back to the tokens before the bracket that it matches. -/
theorem ClosersMatch.exists_leavesOpen (h : ClosersMatch ts) : ∃ stack, LeavesOpen stack ts := by
  induction hlen : ts.length using Nat.strong_induction_on generalizing ts with
  | h len ih =>
    rcases List.eq_nil_or_concat ts with rfl | ⟨init, t, rfl⟩
    · exact ⟨[], .nested .nil⟩
    rw [List.concat_eq_append] at h hlen ⊢
    rw [List.length_append, List.length_singleton] at hlen
    cases hc : t.closes? with
    | some b =>
      obtain ⟨o, hopens, outer, inner, rfl, hinner⟩ := h init t [] b rfl hc
      have hshort : outer.length < len := by
        rw [List.length_append] at hlen
        omega
      obtain ⟨stack, hstack⟩ := ih outer.length hshort h.of_append.of_append rfl
      exact ⟨stack, (hstack.opened hopens hinner).close hc⟩
    | none =>
      obtain ⟨stack, hstack⟩ := ih init.length (by omega) h.of_append rfl
      cases ho : t.opens? with
      | some b => exact ⟨_, hstack.opened ho .nil⟩
      | none => exact ⟨stack, hstack.append (.single ho hc)⟩

theorem Innermost.exists_leavesOpen (ho : Innermost ts o b) (h : ClosersMatch ts) :
    ∃ stack, LeavesOpen ((b, o.line) :: stack) ts := by
  obtain ⟨hopens, outer, inner, rfl, hinner⟩ := ho
  obtain ⟨stack, hstack⟩ := h.of_append.exists_leavesOpen
  exact ⟨stack, hstack.opened hopens hinner⟩

/-! ## The bracket to blame -/

/-- What is wrong with the brackets of some tokens, at the first place where something is. -/
inductive Blames : List Token → BracketError → Prop where
  /-- A closing bracket that does not match the innermost open one. -/
  | mismatch {before after : List Token} {c o : Token} {b b' : Bracket}
      (hbefore : ClosersMatch before) (hc : c.closes? = some b) (ho : Innermost before o b')
      (hne : b' ≠ b) : Blames (before ++ c :: after) (.mismatch c.line b b' o.line)
  /-- A closing bracket where none is open. -/
  | unexpected {before after : List Token} {c : Token} {b : Bracket}
      (hbefore : ClosersMatch before) (hc : c.closes? = some b)
      (hnone : ∀ o b', ¬ Innermost before o b') :
      Blames (before ++ c :: after) (.unexpected c.line b)
  /-- The innermost bracket left open at the end. -/
  | unclosed {ts : List Token} {o : Token} {b : Bracket} (h : ClosersMatch ts)
      (ho : Innermost ts o b) : Blames ts (.unclosed b o.line)

/-- The check finds the bracket that is to blame. -/
theorem checkBrackets_of_blames (h : Blames ts e) : checkBrackets [] ts = .error e := by
  cases h with
  | @mismatch before after c o b b' hbefore hc ho hne =>
    obtain ⟨stack, hstack⟩ := ho.exists_leavesOpen hbefore
    rw [hstack.checkBrackets_append, checkBrackets, Token.opens?_of_closes? hc, hc]
    exact if_neg hne
  | @unexpected before after c b hbefore hc hnone =>
    obtain ⟨stack, hstack⟩ := hbefore.exists_leavesOpen
    cases stack with
    | nil => rw [hstack.checkBrackets_append, checkBrackets, Token.opens?_of_closes? hc, hc]
    | cons top stack =>
      obtain ⟨o, ho, -⟩ := hstack.innermost
      exact absurd ho (hnone o _)
  | @unclosed _ o b h ho =>
    obtain ⟨stack, hstack⟩ := ho.exists_leavesOpen h
    rw [← List.append_nil ts, hstack.checkBrackets_append, checkBrackets]

/-- What the check reports is to blame.  By induction on the tokens that are left, with the brackets
open after those already read as the stack. -/
theorem blames_of_checkBrackets (hbefore : ClosersMatch before) (hopen : LeavesOpen stack before)
    (h : checkBrackets stack ts = .error e) : Blames (before ++ ts) e := by
  induction ts generalizing before stack with
  | nil =>
    rw [List.append_nil]
    cases stack with
    | nil => simp [checkBrackets] at h
    | cons top stack =>
      obtain ⟨o, ho, hline⟩ := hopen.innermost
      obtain rfl := Except.error.inj h
      rw [← hline]
      exact .unclosed hbefore ho
  | cons t ts ih =>
    have hsplit : before ++ t :: ts = before ++ [t] ++ ts := by simp
    rw [checkBrackets] at h
    cases ho : t.opens? with
    | some b =>
      rw [ho] at h
      have hmatch : ClosersMatch (before ++ [t]) :=
        hbefore.snoc fun b' hc => by simp [Token.closes?_of_opens? ho] at hc
      rw [hsplit]
      exact ih hmatch (hopen.opened ho .nil) h
    | none =>
      cases hc : t.closes? with
      | none =>
        rw [ho, hc] at h
        have hmatch : ClosersMatch (before ++ [t]) := hbefore.snoc fun b' hc' => by simp [hc] at hc'
        rw [hsplit]
        exact ih hmatch (hopen.append (.single ho hc)) h
      | some b =>
        rw [ho, hc] at h
        cases stack with
        | nil =>
          obtain rfl := Except.error.inj h
          refine .unexpected hbefore hc ?_
          intro o b' ho'
          obtain ⟨stack, hstack⟩ := ho'.exists_leavesOpen hbefore
          exact hopen.not_innermost hstack
        | cons top stack =>
          obtain ⟨b', line⟩ := top
          obtain ⟨o, hinnermost, hline⟩ := hopen.innermost
          by_cases heq : b' = b
          · subst heq
            have hmatch : ClosersMatch (before ++ [t]) := by
              refine hbefore.snoc ?_
              intro b hc'
              obtain rfl := Option.some.inj (hc.symm.trans hc')
              exact ⟨o, hinnermost⟩
            simp only [if_true] at h
            rw [hsplit]
            exact ih hmatch (hopen.close hc) h
          · simp only [heq, if_false] at h
            obtain rfl := Except.error.inj h
            rw [← hline]
            exact .mismatch hbefore hc hinnermost heq

theorem checkBrackets_eq_error_iff : checkBrackets [] ts = .error e ↔ Blames ts e := by
  constructor
  · intro h
    have hblames := blames_of_checkBrackets closersMatch_nil (.nested .nil) h
    rwa [List.nil_append] at hblames
  · exact checkBrackets_of_blames

/-! ## Laying out -/

/-- **A source is laid out exactly when it consists of tokens whose brackets nest,** and a source of
tokens whose brackets do not nest is refused for the one bracket that is to blame. -/
theorem layout_blames (s : List Char) :
    ((∃ t, layout s = .ok t) ↔ ∃ ts, tokenize s = .ok ts ∧ Nested ts) ∧
      ∀ ts, tokenize s = .ok ts → ¬ Nested ts →
        ∃ e, layout s = .error (.brackets e) ∧ ∀ e', Blames ts e' ↔ e' = e := by
  constructor
  · constructor
    · rintro ⟨t, ht⟩
      exact exists_nested_of_layout ht
    · rintro ⟨ts, hts, hnested⟩
      refine ⟨layOut ts s, ?_⟩
      rw [layout, hts]
      dsimp only
      rw [checkBrackets_nested_iff.2 hnested]
  · intro ts hts hnot
    cases hcheck : checkBrackets [] ts with
    | ok u => exact absurd (checkBrackets_nested_iff.1 hcheck) hnot
    | error e =>
      refine ⟨e, ?_, ?_⟩
      · rw [layout, hts]
        dsimp only
        rw [hcheck]
      · intro e'
        rw [← checkBrackets_eq_error_iff, hcheck, Except.error.injEq]
        exact eq_comm

/-- A bracket is closed by one of another kind, on the line where a raw string ends. -/
theorem layout_blames_after_raw_string :
    let s := "\x7b\n[f(\x60a)\nb\x60]\x7d".toList
    ∃ ts, tokenize s = .ok ts ∧ ¬ Nested ts ∧
      layout s = .error (.brackets (.mismatch 3 .square .round 2)) ∧
      Blames ts (.mismatch 3 .square .round 2) := by
  have hlayout : layout "\x7b\n[f(\x60a)\nb\x60]\x7d".toList =
      .error (.brackets (.mismatch 3 .square .round 2)) := by cbv
  obtain ⟨haccepts, hblames⟩ := layout_blames "\x7b\n[f(\x60a)\nb\x60]\x7d".toList
  cases hts : tokenize "\x7b\n[f(\x60a)\nb\x60]\x7d".toList with
  | error e =>
    rw [layout, hts] at hlayout
    simp at hlayout
  | ok ts =>
    have hnot : ¬ Nested ts := by
      intro hnested
      obtain ⟨t, ht⟩ := haccepts.2 ⟨ts, hts, hnested⟩
      rw [hlayout] at ht
      simp at ht
    obtain ⟨e, he, hiff⟩ := hblames ts hts hnot
    rw [hlayout] at he
    obtain rfl := LayoutError.brackets.inj (Except.error.inj he)
    exact ⟨ts, hts, hnot, hlayout, (hiff _).2 rfl⟩

end Scribe.Source
