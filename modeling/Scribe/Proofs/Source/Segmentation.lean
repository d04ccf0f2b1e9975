import Scribe.Proofs.Source.Spelling

/-!
# The grammar of a source

A segmentation of a source is a way to read it as tokens: their texts make up the source but for
blanks between them, and each token fits its kind where it stands.  Nothing in the definition says
how tokens are searched for, and a source could well have several segmentations.  It has at most
one, because a token that fits cannot be shorter or longer; and the lexer finds it
(`tokenize_accepts`).

The route is through the lexer.  It cuts off a token that fits (`tokenizeFrom_cases`), so what it
returns is a segmentation; and it cuts off any token that fits (`lexeme_of_fits`), so it follows
every segmentation to its end.  Two segmentations of one source are then both what the lexer
returns.
-/

namespace Scribe.Source

open Scribe.Text

/-! ## Segmentations -/

/-- The tokens `fs` make up the source `s`, with blanks other than line feeds before each of them
and after the last.  What follows a token decides whether it could go on. -/
inductive Segmentation : List Char → List Face → Prop
  | done {gap : List Char} : (∀ c ∈ gap, isGap c) → Segmentation gap []
  | token {gap text rest : List Char} {kind : TokenKind} {fs : List Face} :
      (∀ c ∈ gap, isGap c) → Fits kind text (firstOf rest) → Segmentation rest fs →
      Segmentation (gap ++ (text ++ rest)) ((kind, text) :: fs)

/-- No token begins with a blank that can stand between tokens. -/
theorem Fits.isGap_first {kind : TokenKind} {text : List Char} {next : Char}
    (h : Fits kind text next) : ∃ c more, text = c :: more ∧ isGap c = false := by
  by_cases hk : kind = .newline
  · subst hk
    cases h
    exact ⟨'\n', [], rfl, by decide⟩
  · obtain ⟨c, more, htext, hc⟩ := h.exists_cons hk
    exact ⟨c, more, htext, isGap_of_not_isBlank hc⟩

/-- The lexer cuts off a token that fits, whatever comes after it. -/
theorem tokenizeFrom_of_fits {gap text rest : List Char} {kind : TokenKind}
    (hgap : ∀ c ∈ gap, isGap c) (hfits : Fits kind text (firstOf rest)) (line : Nat) :
    tokenizeFrom line (gap ++ (text ++ rest)) =
      (tokenizeFrom (line + newlines text) rest).map fun ts =>
        ⟨kind, text, line, if kind = .newline then line else line + newlines text⟩ :: ts := by
  obtain ⟨c, more, rfl, hc⟩ := hfits.isGap_first
  rw [tokenizeFrom_gap hgap, List.cons_append, tokenizeFrom_cons hc, lexeme_of_fits hfits]

/-- The lexer follows a segmentation to its end. -/
theorem Segmentation.exists_tokens {s : List Char} {fs : List Face} (h : Segmentation s fs)
    (line : Nat) : ∃ ts, tokenizeFrom line s = .ok ts ∧ ts.map Token.face = fs := by
  induction h generalizing line with
  | done hgap => exact ⟨[], tokenizeFrom_of_gap hgap line, rfl⟩
  | @token gap text rest kind fs hgap hfits _ ih =>
    obtain ⟨ts, hts, hfaces⟩ := ih (line + newlines text)
    refine ⟨_, by rw [tokenizeFrom_of_fits hgap hfits, hts]; rfl, ?_⟩
    rw [List.map_cons, hfaces]
    rfl

/-- What the lexer returns is a segmentation. -/
theorem segmentation_of_tokenizeFrom {line : Nat} {s : List Char} {ts : List Token}
    (h : tokenizeFrom line s = .ok ts) : Segmentation s (ts.map Token.face) := by
  induction hlen : s.length using Nat.strong_induction_on generalizing line s ts with
  | h n ih =>
    obtain ⟨gap, hgap, ⟨rfl, rfl⟩ | ⟨kind, text, left, rest, rfl, hne, hfits, hrest, rfl⟩⟩ :=
      tokenizeFrom_cases h
    · exact .done hgap
    · have hshort : left.length < n := by
        have := List.length_pos_iff.2 hne
        simp only [List.length_append] at hlen
        omega
      exact .token hgap hfits (ih left.length hshort hrest rfl)

/-- Each token of a segmentation fits its kind, and is a part of the source. -/
theorem Segmentation.mem {s : List Char} {fs : List Face} (h : Segmentation s fs) {f : Face}
    (hf : f ∈ fs) : (∃ next, Fits f.1 f.2 next) ∧ f.2 <:+: s := by
  induction h with
  | done _ => simp at hf
  | @token gap text rest kind fs _ hfits _ ih =>
    rcases List.mem_cons.1 hf with rfl | hf
    · exact ⟨⟨_, hfits⟩, gap, rest, by simp⟩
    · obtain ⟨hnext, hin⟩ := ih hf
      have hrest : rest <:+: gap ++ (text ++ rest) := ⟨gap ++ text, [], by simp⟩
      exact ⟨hnext, hin.trans hrest⟩

/-- **The lexer accepts exactly the sources that have a segmentation,** returns one, and there is no
other. -/
theorem tokenize_accepts (s : List Char) :
    ((∃ ts, tokenize s = .ok ts) ↔ ∃ fs, Segmentation s fs) ∧
      (∀ ts, tokenize s = .ok ts → Segmentation s (ts.map Token.face)) ∧
      ∀ fs fs', Segmentation s fs → Segmentation s fs' → fs = fs' := by
  refine ⟨⟨?_, ?_⟩, ?_, ?_⟩
  · rintro ⟨ts, hts⟩
    exact ⟨_, segmentation_of_tokenizeFrom hts⟩
  · rintro ⟨fs, hfs⟩
    obtain ⟨ts, hts, -⟩ := hfs.exists_tokens 1
    exact ⟨ts, hts⟩
  · intro ts hts
    exact segmentation_of_tokenizeFrom hts
  · intro fs fs' hfs hfs'
    obtain ⟨ts, hts, rfl⟩ := hfs.exists_tokens 1
    obtain ⟨ts', hts', rfl⟩ := hfs'.exists_tokens 1
    rw [Except.ok.inj (hts.symm.trans hts')]

end Scribe.Source
