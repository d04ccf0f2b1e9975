import Mathlib.Data.List.Forall2
import Scribe.Source.Constants
import Scribe.Proofs.Source.Kinds

/-!
# Tokens that read alike

Two lists of tokens read alike when they agree in the tokens other than line ends, up to a relation
`sim`, and wherever one of them has a single line end the other has one too; several line ends in a
row stand for any other number above one.  Reading constants looks no closer: an entry ends at a
first line end, and a block of comments ends at a second one.

The relation is kept by what the reader does to tokens: taking apart, putting together, reversing,
and running over tokens of certain kinds.
-/

namespace Scribe.Source

open Scribe.Text

/-- A relation between tokens that look the same to the reader of constants, but for the text of
their comments. -/
structure Mirrors (sim : Token → Token → Prop) : Prop where
  kind {t u : Token} (h : sim t u) : u.kind = t.kind
  word {t u : Token} (h : sim t u) (ht : t.kind = .ident) : u.text = t.text
  newlines {t u : Token} (h : sim t u) : newlines u.text = newlines t.text

/-- The two lists read alike. -/
inductive Alike (sim : Token → Token → Prop) : List Token → List Token → Prop where
  | nil : Alike sim [] []
  | token {t u : Token} {ts us : List Token} (ht : t.isNewline = false) (h : sim t u)
      (hrest : Alike sim ts us) : Alike sim (t :: ts) (u :: us)
  /-- One line end on each side, or several on each. -/
  | lineEnds {m n : Token} {a b ts us : List Token} (ha : LineEnds (m :: a))
      (hb : LineEnds (n :: b)) (hsingle : a = [] ↔ b = []) (hrest : Alike sim ts us) :
      Alike sim (m :: (a ++ ts)) (n :: (b ++ us))

namespace Alike

variable {sim : Token → Token → Prop} {ts us ts' us' a b : List Token} {t m n : Token}

theorem self (h : ∀ t ∈ ts, sim t t) : Alike sim ts ts := by
  induction ts with
  | nil => exact .nil
  | cons t ts ih =>
    obtain ⟨ht, hrest⟩ := List.forall_mem_cons.1 h
    cases hnewline : t.isNewline with
    | true =>
      have hends : LineEnds [t] := LineEnds.cons hnewline lineEnds_nil
      exact .lineEnds hends hends Iff.rfl (ih hrest)
    | false => exact .token hnewline ht (ih hrest)

/-! ## Putting together -/

theorem append (h : Alike sim ts us) (h' : Alike sim ts' us') :
    Alike sim (ts ++ ts') (us ++ us') := by
  induction h with
  | nil => exact h'
  | token ht h _ ih => exact .token ht h ih
  | lineEnds ha hb hsingle _ ih =>
    simp only [List.cons_append, List.append_assoc]
    exact .lineEnds ha hb hsingle ih

/-- As many line ends on both sides, or several on both. -/
theorem runs (ha : LineEnds a) (hb : LineEnds b)
    (hlen : a.length = b.length ∨ 2 ≤ a.length ∧ 2 ≤ b.length) (h : Alike sim ts us) :
    Alike sim (a ++ ts) (b ++ us) := by
  cases a with
  | nil =>
    have hb : b = [] := by
      rw [← List.length_eq_zero_iff]
      simp only [List.length_nil] at hlen
      omega
    rw [hb]
    exact h
  | cons m a =>
    cases b with
    | nil => simp at hlen
    | cons n b =>
      refine .lineEnds ha hb ?_ h
      rw [← List.length_eq_zero_iff, ← List.length_eq_zero_iff]
      simp only [List.length_cons] at hlen
      omega

theorem reverse_lineEnds (ha : LineEnds (m :: a)) (hb : LineEnds (n :: b))
    (hsingle : a = [] ↔ b = []) : Alike sim (m :: a).reverse (n :: b).reverse := by
  have hback : LineEnds (m :: a).reverse := by
    intro t ht
    exact ha t (List.mem_reverse.1 ht)
  have hback' : LineEnds (n :: b).reverse := by
    intro t ht
    exact hb t (List.mem_reverse.1 ht)
  have hlen : (m :: a).reverse.length = (n :: b).reverse.length ∨
      2 ≤ (m :: a).reverse.length ∧ 2 ≤ (n :: b).reverse.length := by
    rw [← List.length_eq_zero_iff, ← List.length_eq_zero_iff] at hsingle
    simp only [List.length_reverse, List.length_cons]
    omega
  have hruns : Alike sim _ _ := runs hback hback' hlen .nil
  rw [List.append_nil, List.append_nil] at hruns
  exact hruns

theorem reverse (h : Alike sim ts us) : Alike sim ts.reverse us.reverse := by
  induction h with
  | nil => exact .nil
  | token ht h _ ih =>
    rw [List.reverse_cons, List.reverse_cons]
    exact ih.append (.token ht h .nil)
  | lineEnds ha hb hsingle _ ih =>
    rw [← List.cons_append, ← List.cons_append, List.reverse_append, List.reverse_append]
    exact ih.append (reverse_lineEnds ha hb hsingle)

/-! ## Taking apart -/

/-- What a token other than a line end is alike to. -/
theorem exists_cons (h : Alike sim (t :: ts) us) (ht : t.isNewline = false) :
    ∃ u us', us = u :: us' ∧ sim t u ∧ Alike sim ts us' := by
  cases h with
  | token _ h hrest => exact ⟨_, _, rfl, h, hrest⟩
  | lineEnds ha =>
    have hm := (lineEnds_cons.1 ha).1
    simp [ht] at hm

theorem exists_concat (h : Alike sim (ts ++ [t]) us) (ht : t.isNewline = false) :
    ∃ us' u, us = us' ++ [u] ∧ sim t u := by
  have hreverse := h.reverse
  rw [List.reverse_append, List.reverse_singleton, List.singleton_append] at hreverse
  obtain ⟨u, us', hus, hsim, -⟩ := hreverse.exists_cons ht
  refine ⟨us'.reverse, u, ?_, hsim⟩
  rw [← List.reverse_reverse us, hus, List.reverse_cons]

theorem nil_iff (h : Alike sim ts us) : ts = [] ↔ us = [] := by
  cases h <;> simp

section
variable {p : Token → Bool}

theorem all_lineEnds (hp : ∀ {t u : Token}, u.kind = t.kind → p u = p t) (hm : m.isNewline)
    (ha : LineEnds a) : ∀ t ∈ a, p t = p m := by
  intro t ht
  have hnewline := ha t ht
  exact hp (by simp_all [Token.isNewline])

/-- Running over tokens keeps two lists alike on both sides of the place where it stops. -/
theorem span (hsim : Mirrors sim) (hp : ∀ {t u : Token}, u.kind = t.kind → p u = p t)
    (h : Alike sim ts us) :
    Alike sim (ts.takeWhile p) (us.takeWhile p) ∧ Alike sim (ts.dropWhile p) (us.dropWhile p) := by
  induction h with
  | nil => exact ⟨.nil, .nil⟩
  | @token t u ts us ht h hrest ih =>
    have hpu := hp (hsim.kind h)
    cases hpt : p t with
    | true =>
      rw [hpt] at hpu
      simpa [hpt, hpu] using ⟨token ht h ih.1, ih.2⟩
    | false =>
      rw [hpt] at hpu
      simpa [hpt, hpu] using ⟨nil, token ht h hrest⟩
  | @lineEnds m n a b ts us ha hb hsingle hrest ih =>
    have hm := (lineEnds_cons.1 ha).1
    have hpa := all_lineEnds hp hm ha
    have hpb := all_lineEnds hp hm hb
    cases hpm : p m with
    | true =>
      simp only [hpm] at hpa hpb
      simp only [← List.cons_append]
      rw [List.takeWhile_append_of_pos hpa, List.takeWhile_append_of_pos hpb,
        List.dropWhile_append_of_pos hpa, List.dropWhile_append_of_pos hpb]
      exact ⟨lineEnds ha hb hsingle ih.1, ih.2⟩
    | false =>
      have hpn := (hpb n List.mem_cons_self).trans hpm
      simpa [hpm, hpn] using ⟨nil, lineEnds ha hb hsingle hrest⟩

theorem any_eq (hsim : Mirrors sim) (hp : ∀ {t u : Token}, u.kind = t.kind → p u = p t)
    (h : Alike sim ts us) : us.any p = ts.any p := by
  induction h with
  | nil => rfl
  | token ht h _ ih => rw [List.any_cons, List.any_cons, hp (hsim.kind h), ih]
  | @lineEnds m n a b ts us ha hb _ _ ih =>
    have hm := (lineEnds_cons.1 ha).1
    have hany : ∀ {k : Token} {c : List Token}, LineEnds (k :: c) → (k :: c).any p = p m := by
      intro k c hc
      have hall := all_lineEnds hp hm hc
      cases hpm : p m with
      | true => simp [hall k List.mem_cons_self, hpm]
      | false =>
        rw [List.any_eq_false]
        intro t ht
        simp [hall t ht, hpm]
    rw [← List.cons_append, ← List.cons_append, List.any_append, List.any_append, hany ha, hany hb,
      ih]

end

/-- Lists without line ends that read alike agree one for one. -/
theorem forall₂ (h : Alike sim ts us) (hts : ∀ t ∈ ts, t.isNewline = false) :
    List.Forall₂ sim ts us := by
  induction h with
  | nil => exact .nil
  | token _ h _ ih => exact .cons h (ih (List.forall_mem_cons.1 hts).2)
  | lineEnds ha =>
    have hm := (lineEnds_cons.1 ha).1
    simp [(List.forall_mem_cons.1 hts).1] at hm

end Alike

end Scribe.Source
