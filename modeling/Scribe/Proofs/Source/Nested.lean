import Mathlib.Data.Nat.Init
import Scribe.Proofs.Source.Brackets

/-!
# Well-nested brackets

`Nested` is the grammar of tokens whose brackets nest: an opening bracket, well-nested tokens, and
the closing bracket of the same kind make up a pair, and tokens that are no brackets stand anywhere.
The grammar knows no stack.  That tokens close the empty stack is the same thing
(`nested_iff_closes`), so the grammar can stand wherever the check of a source is meant.
-/

namespace Scribe.Source

/-- Tokens whose brackets form a well-nested word. -/
inductive Nested : List Token → Prop where
  | nil : Nested []
  | other {t : Token} {ts : List Token} (hopens : t.opens? = none) (hcloses : t.closes? = none)
      (h : Nested ts) : Nested (t :: ts)
  | pair {o c : Token} {inner ts : List Token} {b : Bracket} (hopens : o.opens? = some b)
      (hinner : Nested inner) (hcloses : c.closes? = some b) (h : Nested ts) :
      Nested (o :: (inner ++ c :: ts))

variable {ts us : List Token} {b : Bracket} {stack : List Bracket}

namespace Nested

theorem append (h : Nested ts) (hus : Nested us) : Nested (ts ++ us) := by
  induction h with
  | nil => exact hus
  | other hopens hcloses _ ih => exact .other hopens hcloses ih
  | @pair o c inner ts b hopens hinner hcloses _ _ ih =>
    have hpair := Nested.pair hopens hinner hcloses ih
    simpa using hpair

theorem single {t : Token} (hopens : t.opens? = none) (hcloses : t.closes? = none) :
    Nested [t] :=
  .other hopens hcloses .nil

/-- Well-nested tokens close no bracket that was open before them, and leave none open. -/
theorem closes_append_iff (h : Nested ts) : Closes stack (ts ++ us) ↔ Closes stack us := by
  induction h generalizing stack us with
  | nil => rfl
  | other hopens hcloses _ ih => rw [List.cons_append, Closes.other_iff hopens hcloses, ih]
  | @pair o c inner ts b hopens hinner hcloses _ ihinner ih =>
    rw [List.cons_append, Closes.opening_iff hopens, List.append_assoc, ihinner, List.cons_append,
      Closes.closing_iff hcloses]
    constructor
    · rintro ⟨outer, houter, hrest⟩
      rw [(List.cons.inj houter).2]
      exact ih.1 hrest
    · intro hrest
      exact ⟨stack, rfl, ih.2 hrest⟩

end Nested

/-- Where brackets are open, the innermost is closed after well-nested tokens. -/
theorem exists_closer (h : Closes (b :: stack) ts) :
    ∃ inner c rest, ts = inner ++ c :: rest ∧ Nested inner ∧ c.closes? = some b ∧
      Closes stack rest := by
  induction hlen : ts.length using Nat.strong_induction_on generalizing ts b stack with
  | h len ih =>
    cases h with
    | @closing t ts b stack hcloses h => exact ⟨[], t, ts, rfl, .nil, hcloses, h⟩
    | @other t ts stack hopens hcloses h =>
      obtain ⟨inner, c, rest, rfl, hinner, hc, hrest⟩ := ih ts.length (by simp [← hlen]) h rfl
      exact ⟨t :: inner, c, rest, rfl, .other hopens hcloses hinner, hc, hrest⟩
    | @opening t ts b' stack hopens h =>
      -- First the bracket that is opened here is closed, then the one asked for.
      obtain ⟨inner, c, rest, rfl, hinner, hc, hrest⟩ := ih ts.length (by simp [← hlen]) h rfl
      have hshort : rest.length < len := by
        simp only [List.length_cons, List.length_append] at hlen
        omega
      obtain ⟨inner', c', rest', rfl, hinner', hc', hrest'⟩ := ih rest.length hshort hrest rfl
      exact ⟨t :: (inner ++ c :: inner'), c', rest', by simp, .pair hopens hinner hc hinner', hc',
        hrest'⟩

/-- **The grammar and the stack agree.** -/
theorem nested_iff_closes : Nested ts ↔ Closes [] ts := by
  constructor
  · intro h
    have hclosed : Closes [] (ts ++ []) := h.closes_append_iff.2 .nil
    rwa [List.append_nil] at hclosed
  · intro h
    induction hlen : ts.length using Nat.strong_induction_on generalizing ts with
    | h len ih =>
      cases h with
      | nil => exact .nil
      | @other t ts stack hopens hcloses h =>
        exact .other hopens hcloses (ih ts.length (by simp [← hlen]) h rfl)
      | @opening t ts b stack hopens h =>
        obtain ⟨inner, c, rest, rfl, hinner, hc, hrest⟩ := exists_closer h
        have hshort : rest.length < len := by
          simp only [List.length_cons, List.length_append] at hlen
          omega
        exact .pair hopens hinner hc (ih rest.length hshort hrest rfl)

/-- Only the kinds of tokens matter. -/
theorem Nested.congr (h : Nested ts) (hkinds : ts.map Token.kind = us.map Token.kind) :
    Nested us :=
  nested_iff_closes.2 ((nested_iff_closes.1 h).congr hkinds)

/-- The check passes over well-nested tokens. -/
theorem checkBrackets_append (h : Nested ts) (stack : List (Bracket × Nat)) (us : List Token) :
    checkBrackets stack (ts ++ us) = checkBrackets stack us := by
  induction h generalizing stack us with
  | nil => rfl
  | other hopens hcloses _ ih => rw [List.cons_append, checkBrackets, hopens, hcloses, ih]
  | @pair o c inner ts b hopens hinner hcloses _ ihinner ih =>
    rw [List.cons_append, checkBrackets, hopens]
    show checkBrackets ((b, o.line) :: stack) (inner ++ c :: ts ++ us) = checkBrackets stack us
    rw [List.append_assoc, ihinner, List.cons_append, checkBrackets,
      Token.opens?_of_closes? hcloses, hcloses]
    show (if b = b then checkBrackets stack (ts ++ us) else _) = checkBrackets stack us
    rw [if_pos rfl, ih]

theorem checkBrackets_nested_iff : checkBrackets [] ts = .ok () ↔ Nested ts := by
  rw [checkBrackets_eq_ok_iff, nested_iff_closes, List.map_nil]

/-- A source that is laid out consists of tokens whose brackets nest. -/
theorem exists_nested_of_layout {s t : List Char} (h : layout s = .ok t) :
    ∃ ts, tokenize s = .ok ts ∧ Nested ts := by
  rw [layout] at h
  split at h
  · simp at h
  rename_i ts hts
  split at h
  · simp at h
  rename_i hcheck
  exact ⟨ts, hts, checkBrackets_nested_iff.1 hcheck⟩

end Scribe.Source
