import Scribe.Proofs.Source.Rows
import Scribe.Proofs.Text.Returns
import Scribe.Source.Layout

/-!
# Tokens of a source with carriage returns

Where carriage returns stand at line ends only, a source and the source without them are cut into
the same tokens, up to the carriage returns in their texts, or fail alike
(`tokenize_withoutReturns`).  A carriage return is a blank between tokens, so what has to be shown is
that no scanner goes another way because of one: a scan that ends at a line end does so one character
earlier, an escaped carriage return is followed by the line feed that no literal goes over, and all
other scans run over it.
-/

namespace Scribe.Source

open Scribe.Text

/-! ## Scanners -/

/-- What a scanner took and what it left, without carriage returns. -/
def cutWithoutReturns (cut : List Char × List Char) : List Char × List Char :=
  (withoutReturns cut.1, withoutReturns cut.2)

theorem map_cons_cutWithoutReturns {c : Char} (hc : c ≠ '\r')
    (x : Option (List Char × List Char)) :
    (x.map cutWithoutReturns).map (fun (taken, left) => (c :: taken, left)) =
      (x.map fun (taken, left) => (c :: taken, left)).map cutWithoutReturns := by
  cases x with
  | none => rfl
  | some cut => simp [cutWithoutReturns, withoutReturns_cons hc]

theorem map_return_cutWithoutReturns (x : Option (List Char × List Char)) :
    x.map cutWithoutReturns =
      (x.map fun (taken, left) => ('\r' :: taken, left)).map cutWithoutReturns := by
  cases x <;> rfl

theorem takeBlock_cons {c : Char} {s : List Char} (h : ¬ (c = '*' ∧ s.head? = some '/')) :
    takeBlock (c :: s) = (takeBlock s).map fun (taken, left) => (c :: taken, left) := by
  rw [takeBlock]
  rintro more rfl rfl
  exact h ⟨rfl, rfl⟩

theorem takeBlock_withoutReturns {s : List Char} (h : ReturnsEndLines s) :
    takeBlock (withoutReturns s) = (takeBlock s).map cutWithoutReturns := by
  fun_induction takeBlock s with
  | case1 rest => rfl
  | case2 c rest hmark ih =>
    have hrest := h.tail
    by_cases hc : c = '\r'
    · rw [hc, withoutReturns_return, ih hrest, map_return_cutWithoutReturns]
    have hmark' : ¬ (c = '*' ∧ (withoutReturns rest).head? = some '/') := by
      rintro ⟨rfl, hslash⟩
      rw [hrest.head?_iff (by decide) (by decide)] at hslash
      obtain ⟨more, rfl⟩ := List.head?_eq_some_iff.1 hslash
      exact hmark more rfl rfl
    rw [withoutReturns_cons hc, takeBlock_cons hmark', ih hrest, map_cons_cutWithoutReturns hc]
  | case3 => rfl

theorem takeQuoted_newline (quote : Char) (s : List Char) : takeQuoted quote ('\n' :: s) = none := by
  rw [takeQuoted]
  · rfl
  · intro c more hc
    simp at hc

theorem takeQuoted_escaped {quote c : Char} (hc : c ≠ '\n') (s : List Char) :
    takeQuoted quote ('\\' :: c :: s) =
      (takeQuoted quote s).map fun (taken, left) => ('\\' :: c :: taken, left) := by
  rw [takeQuoted, if_neg hc]

theorem takeQuoted_cons {quote c : Char} (hn : c ≠ '\n') (hb : c ≠ '\\') (s : List Char) :
    takeQuoted quote (c :: s) =
      if c = quote then some ([c], s)
      else (takeQuoted quote s).map fun (taken, left) => (c :: taken, left) := by
  rw [takeQuoted]
  · simp [hn, hb]
  · intro d more hc
    exact absurd hc hb

theorem takeQuoted_withoutReturns {quote : Char} (hquote : quote ≠ '\r') {s : List Char}
    (h : ReturnsEndLines s) :
    takeQuoted quote (withoutReturns s) = (takeQuoted quote s).map cutWithoutReturns := by
  fun_induction takeQuoted quote s with
  | case1 => rfl
  | case2 rest =>
    rw [withoutReturns_cons (by decide), withoutReturns_cons (by decide), takeQuoted]
    rfl
  | case3 c rest hn ih =>
    have hafter := h.tail
    by_cases hc : c = '\r'
    · subst hc
      -- The escaped carriage return leads to a line feed, and so does the backslash without it.
      obtain ⟨more, rfl⟩ := List.head?_eq_some_iff.1 ((returnsEndLines_cons.1 hafter).1 rfl)
      rw [takeQuoted_newline, withoutReturns_cons (by decide), withoutReturns_return,
        withoutReturns_cons (by decide), takeQuoted]
      rfl
    · rw [withoutReturns_cons (by decide), withoutReturns_cons hc, takeQuoted_escaped hn,
        ih hafter.tail, Option.map_map, Option.map_map]
      congr 1
      funext cut
      simp [cutWithoutReturns, withoutReturns_cons (show '\\' ≠ '\r' by decide),
        withoutReturns_cons hc]
  | case4 c rest hescape hstop =>
    rcases (by simpa using hstop : c = '\n' ∨ c = '\\') with rfl | rfl
    · rw [withoutReturns_cons (by decide), takeQuoted_newline]
      rfl
    · cases rest with
      | nil => rfl
      | cons d more => exact absurd rfl (hescape d more rfl)
  | case5 rest hescape hstop =>
    rw [Bool.or_eq_true, not_or, decide_eq_true_eq, decide_eq_true_eq] at hstop
    rw [withoutReturns_cons hquote, takeQuoted_cons hstop.1 hstop.2, if_pos rfl]
    simp [cutWithoutReturns, withoutReturns_cons hquote]
  | case6 c rest hescape hstop hother ih =>
    have hrest := h.tail
    rw [Bool.or_eq_true, not_or, decide_eq_true_eq, decide_eq_true_eq] at hstop
    by_cases hc : c = '\r'
    · rw [hc, withoutReturns_return, ih hrest, map_return_cutWithoutReturns]
    · rw [withoutReturns_cons hc, takeQuoted_cons hstop.1 hstop.2, if_neg hother, ih hrest,
        map_cons_cutWithoutReturns hc]

theorem takeRaw_withoutReturns (s : List Char) :
    takeRaw (withoutReturns s) = (takeRaw s).map cutWithoutReturns := by
  induction s with
  | nil => rfl
  | cons c s ih =>
    by_cases hc : c = '\r'
    · rw [hc, withoutReturns_return, takeRaw, if_neg (by decide), ih,
        map_return_cutWithoutReturns]
    rw [withoutReturns_cons hc, takeRaw, takeRaw]
    by_cases hq : c = '\x60'
    · rw [if_pos hq, if_pos hq, hq]
      rfl
    · rw [if_neg hq, if_neg hq, ih, map_cons_cutWithoutReturns hc]

theorem takeRun_withoutReturns {p : Char → Bool} {s : List Char}
    (h : p '\r' = true ∨ p '\n' = false ∧ ReturnsEndLines s) :
    takeRun p (withoutReturns s) = cutWithoutReturns (takeRun p s) := by
  rw [takeRun, takeRun]
  cases hr : p '\r' with
  | true => rw [takeWhile_withoutReturns hr, dropWhile_withoutReturns hr, cutWithoutReturns]
  | false =>
    obtain ⟨hn, hs⟩ := h.resolve_left (by simp [hr])
    obtain ⟨htake, hdrop⟩ := hs.span hr hn
    rw [htake, hdrop, cutWithoutReturns]

/-! ## Tokens -/

/-- **The lexer cuts off the same token,** up to carriage returns. -/
theorem lexeme_withoutReturns {c : Char} (hc : c ≠ '\r') {s : List Char} (h : ReturnsEndLines s) :
    lexeme c (withoutReturns s) = (lexeme c s).map fun (kind, text, left) =>
      (kind, withoutReturns text, withoutReturns left) := by
  have hself : withoutReturns [c] = [c] := withoutReturns_cons hc []
  have hslash := h.head?_iff (c := '/') (by decide) (by decide)
  have hstar := h.head?_iff (c := '*') (by decide) (by decide)
  simp only [lexeme, hslash, hstar]
  -- One case for each kind of token, in the order in which the lexer tries them.
  split
  · simp [Except.map, hself]
  split
  · rw [takeRun_withoutReturns (.inl (by decide))]
    simp [Except.map, cutWithoutReturns, withoutReturns_cons hc]
  split
  · rename_i hopen
    obtain ⟨more, rfl⟩ : ∃ more, s = '*' :: more := by
      simp only [Bool.and_eq_true, decide_eq_true_eq] at hopen
      exact List.head?_eq_some_iff.1 hopen.2
    rw [withoutReturns_cons (by decide), List.tail_cons, List.tail_cons,
      takeBlock_withoutReturns h.tail]
    cases takeBlock more with
    | none => rfl
    | some cut =>
      simp [Except.map, cutWithoutReturns, withoutReturns_cons hc,
        withoutReturns_cons (show '*' ≠ '\r' by decide)]
  split
  · rw [takeQuoted_withoutReturns hc h]
    cases takeQuoted c s with
    | none => rfl
    | some cut => simp [Except.map, cutWithoutReturns, withoutReturns_cons hc]
  split
  · rw [takeRaw_withoutReturns]
    cases takeRaw s with
    | none => rfl
    | some cut => simp [Except.map, cutWithoutReturns, withoutReturns_cons hc]
  split
  · rw [takeRun_withoutReturns (.inr ⟨by decide, h⟩)]
    simp [Except.map, cutWithoutReturns, withoutReturns_cons hc]
  split
  · rw [takeRun_withoutReturns (.inr ⟨by decide, h⟩)]
    simp [Except.map, cutWithoutReturns, withoutReturns_cons hc]
  · simp [Except.map, hself]

/-- A token without the carriage returns of its text.  An identifier has none. -/
def Token.withoutReturns (t : Token) : Token :=
  if t.kind = .ident then t else { t with text := Text.withoutReturns t.text }

namespace Token

@[simp] theorem kind_withoutReturns (t : Token) : t.withoutReturns.kind = t.kind := by
  rw [withoutReturns]
  split <;> rfl

@[simp] theorem line_withoutReturns (t : Token) : t.withoutReturns.line = t.line := by
  rw [withoutReturns]
  split <;> rfl

@[simp] theorem endLine_withoutReturns (t : Token) : t.withoutReturns.endLine = t.endLine := by
  rw [withoutReturns]
  split <;> rfl

theorem withoutReturns_of_ident {t : Token} (h : t.kind = .ident) : t.withoutReturns = t := by
  rw [withoutReturns, if_pos h]

end Token

theorem Fits.no_return_ident {text : List Char} {next : Char} (h : Fits .ident text next) :
    '\r' ∉ text := by
  cases h with
  | ident hstart hmore _ =>
    intro hmem
    rcases List.mem_cons.1 hmem with rfl | hmem
    · exact absurd hstart (by decide)
    · exact absurd (hmore _ hmem) (by decide)

theorem Fits.token_withoutReturns {kind : TokenKind} {text : List Char} {next : Char}
    (h : Fits kind text next) (line endLine : Nat) :
    Token.withoutReturns ⟨kind, text, line, endLine⟩ =
      ⟨kind, withoutReturns text, line, endLine⟩ := by
  by_cases hk : kind = .ident
  · subst hk
    rw [Token.withoutReturns_of_ident rfl, withoutReturns_eq_self h.no_return_ident]
  · rw [Token.withoutReturns, if_neg hk]

theorem tokenizeFrom_withoutReturns {s : List Char} (h : ReturnsEndLines s) (line : Nat) :
    tokenizeFrom line (withoutReturns s) =
      (tokenizeFrom line s).map (List.map Token.withoutReturns) := by
  induction hlen : s.length using Nat.strong_induction_on generalizing s line with
  | h len ih =>
    rw [← tokenizeFrom_dropWhile line (withoutReturns s), ← tokenizeFrom_dropWhile line s,
      dropWhile_withoutReturns (by decide)]
    have hsplit := List.takeWhile_append_dropWhile (p := isGap) (l := s)
    have hfirst := List.head?_dropWhile_not isGap s
    generalize s.takeWhile isGap = gap, s.dropWhile isGap = more at hsplit hfirst ⊢
    subst hsplit
    cases more with
    | nil =>
      rw [withoutReturns_nil, tokenizeFrom_of_gap (g := []) (by simp)]
      rfl
    | cons c rest =>
      have hc : isGap c = false := by simpa using hfirst
      have hr : c ≠ '\r' := by
        rintro rfl
        exact absurd hc (by decide)
      have hrest := h.suffix.tail
      rw [withoutReturns_cons hr, tokenizeFrom_cons hc, tokenizeFrom_cons hc,
        lexeme_withoutReturns hr hrest]
      cases hx : lexeme c rest with
      | error unclosed => rfl
      | ok x =>
        obtain ⟨kind, text, left⟩ := x
        have happ := lexeme_append hx
        have hleft : ReturnsEndLines left := by
          have hall := h.suffix
          rw [← happ] at hall
          exact hall.suffix
        have hshort := lexeme_length hx
        simp only [List.length_append, List.length_cons] at hlen
        simp only [Except.map, newlines_withoutReturns, ih left.length (by omega) hleft _ rfl]
        cases tokenizeFrom (line + newlines text) left with
        | error e => rfl
        | ok ts =>
          simp [(fits_of_lexeme hc hx).token_withoutReturns]

theorem tokenize_withoutReturns {s : List Char} (h : ReturnsEndLines s) :
    tokenize (withoutReturns s) = (tokenize s).map (List.map Token.withoutReturns) :=
  tokenizeFrom_withoutReturns h 1

end Scribe.Source
