import Scribe.Source.Lexer
import Scribe.Proofs.Text.Lines
import Scribe.Proofs.Text.Trimming

/-!
# What the text of a token looks like

`Fits kind text next` is the grammar of a token of each kind, without reference to the scanners.
The character `next` that follows the token matters where a token could go on; the end of the
source counts as a line feed there.

The lexer cuts a token off exactly when the token fits (`fits_of_lexeme`, `lexeme_of_fits`).  The
rest of this module says how the text of a token may change and still fit.  That is all that laying
out a source needs to know about its tokens.
-/

namespace Scribe.Source

open Scribe.Text

/-! ## The grammar -/

/-- The inside of a string or rune literal: a backslash pairs with the character after it, and no
quote stands unpaired. -/
inductive Quoted (quote : Char) : List Char → Prop
  | nil : Quoted quote []
  | plain {c : Char} {s : List Char} :
      c ≠ '\n' → c ≠ '\\' → c ≠ quote → Quoted quote s → Quoted quote (c :: s)
  | escaped {c : Char} {s : List Char} :
      c ≠ '\n' → Quoted quote s → Quoted quote ('\\' :: c :: s)

theorem Quoted.no_newline {quote : Char} {body : List Char} (h : Quoted quote body) :
    '\n' ∉ body := by
  induction h with
  | nil => simp
  | plain hn _ _ _ ih => simpa using ⟨fun h => hn h.symm, ih⟩
  | escaped hn _ ih => simpa using ⟨fun h => hn h.symm, ih⟩

/-- The texts of each kind of token, where `next` follows. -/
inductive Fits : TokenKind → List Char → Char → Prop
  | newline {next : Char} : Fits .newline ['\n'] next
  | ident {c : Char} {more : List Char} {next : Char} :
      startsIdent c → (∀ d ∈ more, continuesIdent d) → continuesIdent next = false →
      Fits .ident (c :: more) next
  | number {c : Char} {more : List Char} {next : Char} :
      c.isDigit → (∀ d ∈ more, continuesNumber d) → continuesNumber next = false →
      Fits .number (c :: more) next
  | literal {quote : Char} {body : List Char} {next : Char} :
      quote = '"' ∨ quote = '\'' → Quoted quote body → Fits .literal (quote :: body ++ [quote]) next
  | rawString {body : List Char} {next : Char} :
      '\x60' ∉ body → Fits .rawString ('\x60' :: body ++ ['\x60']) next
  | lineComment {body : List Char} :
      '\n' ∉ body → Fits .lineComment ('/' :: '/' :: body) '\n'
  /-- The end mark is the first one after the opening. -/
  | blockComment {body : List Char} {next : Char} :
      ¬ ['*', '/'] <:+: body ++ ['*'] → Fits .blockComment ('/' :: '*' :: body ++ ['*', '/']) next
  | punct {c next : Char} :
      isBlank c = false → startsIdent c = false → c.isDigit = false →
      c ≠ '"' → c ≠ '\'' → c ≠ '\x60' → (c = '/' → next ≠ '/' ∧ next ≠ '*') →
      Fits (.punct c) [c] next

/-- The character that comes first, where the end of the source counts as a line feed. -/
def firstOf (s : List Char) : Char := s.headD '\n'

@[simp] theorem firstOf_nil : firstOf [] = '\n' := rfl

@[simp] theorem firstOf_cons (c : Char) (s : List Char) : firstOf (c :: s) = c := rfl

theorem firstOf_append {s : List Char} (h : s ≠ []) (t : List Char) :
    firstOf (s ++ t) = firstOf s := by
  obtain ⟨c, s, rfl⟩ := List.exists_cons_of_ne_nil h
  rfl

/-! ## Classes of characters -/

/-- The characters that are blank. -/
def blanks : List Char :=
  [' ', '\t', '\n', '\x0b', '\x0c', '\r', '\u0085', '\u00a0', '\u1680', '\u2000', '\u2001',
    '\u2002', '\u2003', '\u2004', '\u2005', '\u2006', '\u2007', '\u2008', '\u2009', '\u200a',
    '\u2028', '\u2029', '\u202f', '\u205f', '\u3000']

theorem eq_of_toNat_eq {c d : Char} (h : c.toNat = d.toNat) : c = d := by
  rw [← Char.ofNat_toNat c, ← Char.ofNat_toNat d, h]

theorem mem_blanks {c : Char} (h : isBlank c) : c ∈ blanks := by
  have hle : ∀ a b : Char, a ≤ b ↔ a.toNat ≤ b.toNat := by
    intro _ _
    rfl
  simp only [isBlank, Bool.or_eq_true, Bool.and_eq_true, decide_eq_true_eq, hle] at h
  have hmem : c.toNat ∈ blanks.map Char.toNat := by
    rcases h with ((((((((((rfl | h) | rfl) | rfl) | rfl) | h) | rfl) | rfl) | rfl) | rfl) | rfl)
    case inl.inl.inl.inl.inl.inl.inl.inl.inl.inr =>
      have h1 : 9 ≤ c.toNat := h.1
      have h2 : c.toNat ≤ 13 := h.2
      simp only [blanks, List.map_cons]
      have : c.toNat = 9 ∨ c.toNat = 10 ∨ c.toNat = 11 ∨ c.toNat = 12 ∨ c.toNat = 13 := by omega
      rcases this with h | h | h | h | h <;> rw [h] <;> decide
    case inl.inl.inl.inl.inl.inr =>
      have h1 : 0x2000 ≤ c.toNat := h.1
      have h2 : c.toNat ≤ 0x200a := h.2
      have : c.toNat = 0x2000 ∨ c.toNat = 0x2001 ∨ c.toNat = 0x2002 ∨ c.toNat = 0x2003 ∨
          c.toNat = 0x2004 ∨ c.toNat = 0x2005 ∨ c.toNat = 0x2006 ∨ c.toNat = 0x2007 ∨
          c.toNat = 0x2008 ∨ c.toNat = 0x2009 ∨ c.toNat = 0x200a := by omega
      rcases this with h | h | h | h | h | h | h | h | h | h | h <;> rw [h] <;> decide
    all_goals decide
  obtain ⟨d, hd, hdc⟩ := List.mem_map.1 hmem
  exact eq_of_toNat_eq hdc ▸ hd

/-- No blank is part of a number or an identifier. -/
theorem isBlank_of_continuesNumber {c : Char} (h : continuesNumber c) : isBlank c = false := by
  have hall : blanks.all fun d => !continuesNumber d := by decide +kernel
  cases hb : isBlank c with
  | false => rfl
  | true =>
    have hc := List.all_eq_true.1 hall c (mem_blanks hb)
    rw [h] at hc
    exact absurd hc (by simp)

theorem continuesNumber_of_continuesIdent {c : Char} (h : continuesIdent c) :
    continuesNumber c := by
  simp only [continuesNumber, continuesIdent, Bool.or_eq_true] at h ⊢
  exact .inl h

theorem continuesIdent_of_startsIdent {c : Char} (h : startsIdent c) : continuesIdent c := by
  simp only [startsIdent, continuesIdent, isAlnum, Bool.or_eq_true] at h ⊢
  exact h.imp .inl id

theorem isDigit_iff {c : Char} : c.isDigit ↔ 48 ≤ c.toNat ∧ c.toNat ≤ 57 := by
  simp only [Char.isDigit, Bool.and_eq_true, decide_eq_true_eq]
  exact Iff.rfl

theorem continuesNumber_of_isDigit {c : Char} (h : c.isDigit) : continuesNumber c := by
  have hc : c.toNat < 128 := by
    have := isDigit_iff.1 h
    omega
  simp [continuesNumber, isAlnum, isNumeral, hc, h]

theorem isDigit_of_startsIdent {c : Char} (h : startsIdent c) : c.isDigit = false := by
  have hall : ['0', '1', '2', '3', '4', '5', '6', '7', '8', '9'].all fun d => !startsIdent d := by
    decide +kernel
  cases hd : c.isDigit with
  | false => rfl
  | true =>
    have hn := isDigit_iff.1 hd
    have : c.toNat = 48 ∨ c.toNat = 49 ∨ c.toNat = 50 ∨ c.toNat = 51 ∨ c.toNat = 52 ∨
        c.toNat = 53 ∨ c.toNat = 54 ∨ c.toNat = 55 ∨ c.toNat = 56 ∨ c.toNat = 57 := by omega
    have hmem : c ∈ ['0', '1', '2', '3', '4', '5', '6', '7', '8', '9'] := by
      rcases this with h | h | h | h | h | h | h | h | h | h <;>
        simp [← Char.toNat_inj, h]
    have hc := List.all_eq_true.1 hall c hmem
    rw [h] at hc
    exact absurd hc (by simp)

/-! ## The scanners take what the grammar describes -/

theorem takeBlock_eq_some {s taken left : List Char} (h : takeBlock s = some (taken, left)) :
    ∃ body, taken = body ++ ['*', '/'] ∧ ¬ ['*', '/'] <:+: body ++ ['*'] := by
  fun_induction takeBlock s generalizing taken left with
  | case1 rest =>
    obtain ⟨rfl, rfl⟩ := Prod.mk.inj (Option.some.inj h)
    exact ⟨[], rfl, by decide⟩
  | case2 c rest hne ih =>
    obtain ⟨⟨a, b⟩, hab, heq⟩ := Option.map_eq_some_iff.1 h
    obtain ⟨rfl, rfl⟩ := Prod.mk.inj heq
    obtain ⟨body, rfl, hbody⟩ := ih hab
    refine ⟨c :: body, rfl, ?_⟩
    intro hin
    rw [List.cons_append, List.infix_cons_iff] at hin
    rcases hin with hpre | hin
    · -- The mark would have been found at `c` itself.
      obtain ⟨rfl, hslash⟩ := List.cons_prefix_cons.1 hpre
      have hrest := takeBlock_append hab
      obtain ⟨t, ht⟩ := hslash
      cases body with
      | nil => simp at ht
      | cons d body =>
        obtain rfl : '/' = d := by simpa using (List.cons.inj ht).1
        exact hne _ rfl (by rw [← hrest]; rfl)
    · exact hbody hin
  | case3 => simp at h

theorem takeBlock_of_first {body : List Char} (h : ¬ ['*', '/'] <:+: body ++ ['*'])
    (left : List Char) :
    takeBlock (body ++ '*' :: '/' :: left) = some (body ++ ['*', '/'], left) := by
  induction body with
  | nil => rfl
  | cons c body ih =>
    rw [List.cons_append, List.infix_cons_iff, not_or] at h
    have hne : ∀ rest, c = '*' → body ++ '*' :: '/' :: left = '/' :: rest → False := by
      rintro rest rfl hrest
      refine h.1 (List.cons_prefix_cons.2 ⟨rfl, ?_⟩)
      cases body with
      | nil => simp at hrest
      | cons d body =>
        obtain rfl : d = '/' := by simpa using (List.cons.inj hrest).1
        exact ⟨body ++ ['*'], rfl⟩
    rw [List.cons_append, takeBlock, ih h.2]
    · rfl
    · exact hne

theorem takeQuoted_eq_some {quote : Char} {s taken left : List Char}
    (h : takeQuoted quote s = some (taken, left)) :
    ∃ body, taken = body ++ [quote] ∧ Quoted quote body := by
  fun_induction takeQuoted quote s generalizing taken left with
  | case1 => simp at h
  | case2 => simp at h
  | case3 c rest hc ih =>
    obtain ⟨⟨a, b⟩, hab, heq⟩ := Option.map_eq_some_iff.1 h
    obtain ⟨rfl, rfl⟩ := Prod.mk.inj heq
    obtain ⟨body, rfl, hbody⟩ := ih hab
    exact ⟨'\\' :: c :: body, rfl, .escaped hc hbody⟩
  | case4 => simp at h
  | case5 rest _ _ =>
    obtain ⟨rfl, rfl⟩ := Prod.mk.inj (Option.some.inj h)
    exact ⟨[], rfl, .nil⟩
  | case6 c rest _ hc hq ih =>
    obtain ⟨⟨a, b⟩, hab, heq⟩ := Option.map_eq_some_iff.1 h
    obtain ⟨rfl, rfl⟩ := Prod.mk.inj heq
    obtain ⟨body, rfl, hbody⟩ := ih hab
    simp only [Bool.or_eq_true, decide_eq_true_eq, not_or] at hc
    exact ⟨c :: body, rfl, .plain hc.1 hc.2 hq hbody⟩

theorem takeQuoted_of_quoted {quote : Char} (hn : quote ≠ '\n') (hb : quote ≠ '\\')
    {body : List Char} (h : Quoted quote body) (left : List Char) :
    takeQuoted quote (body ++ quote :: left) = some (body ++ [quote], left) := by
  induction h with
  | nil =>
    rw [List.nil_append, takeQuoted]
    · simp [hn, hb]
    · exact fun c rest hc => absurd hc hb
  | plain hcn hcb hcq _ ih =>
    rw [List.cons_append, takeQuoted, ih]
    · simp [hcn, hcb, hcq]
    · exact fun c rest hc => absurd hc hcb
  | escaped hcn _ ih =>
    rw [List.cons_append, List.cons_append, takeQuoted, ih]
    simp [hcn]

theorem takeRaw_eq_some {s taken left : List Char} (h : takeRaw s = some (taken, left)) :
    ∃ body, taken = body ++ ['\x60'] ∧ '\x60' ∉ body := by
  induction s generalizing taken left with
  | nil => simp [takeRaw] at h
  | cons c rest ih =>
    rw [takeRaw] at h
    split at h
    · rename_i hc
      obtain ⟨rfl, rfl⟩ := Prod.mk.inj (Option.some.inj h)
      exact ⟨[], by rw [hc]; rfl, by simp⟩
    · rename_i hc
      obtain ⟨⟨a, b⟩, hab, heq⟩ := Option.map_eq_some_iff.1 h
      obtain ⟨rfl, rfl⟩ := Prod.mk.inj heq
      obtain ⟨body, rfl, hbody⟩ := ih hab
      exact ⟨c :: body, rfl, by simpa [hbody] using fun hq => hc hq.symm⟩

theorem takeRaw_of_not_mem {body : List Char} (h : '\x60' ∉ body) (left : List Char) :
    takeRaw (body ++ '\x60' :: left) = some (body ++ ['\x60'], left) := by
  induction body with
  | nil => simp [takeRaw]
  | cons c body ih =>
    rw [List.mem_cons, not_or] at h
    rw [List.cons_append, takeRaw, if_neg (fun hc => h.1 hc.symm), ih h.2]
    rfl

theorem forall_mem_takeRun (p : Char → Bool) (s : List Char) : ∀ c ∈ (takeRun p s).1, p c :=
  fun c hc => List.all_eq_true.1 (List.all_takeWhile (l := s)) c hc

/-- A run stops at a character that is not part of it, or at the end of the source. -/
theorem firstOf_takeRun {p : Char → Bool} (hp : p '\n' = false) (s : List Char) :
    p (firstOf (takeRun p s).2) = false := by
  have h := List.head?_dropWhile_not p s
  rw [takeRun, firstOf, List.headD_eq_head?_getD]
  cases hd : (s.dropWhile p).head? with
  | none => exact hp
  | some c =>
    rw [hd] at h
    simpa using h

theorem takeRun_append_of_stop {p : Char → Bool} {run left : List Char} (hrun : ∀ c ∈ run, p c)
    (hleft : left = [] ∨ p (firstOf left) = false) : takeRun p (run ++ left) = (run, left) := by
  rw [takeRun, List.takeWhile_append_of_pos hrun, List.dropWhile_append_of_pos hrun]
  cases left with
  | nil => simp
  | cons c left =>
    have hc : p c = false := by simpa using hleft
    simp [hc]

/-! ## The lexer cuts off exactly the tokens that fit -/

theorem head?_eq_some_tail {s : List Char} {c : Char} (h : s.head? = some c) :
    s = c :: s.tail := by
  cases s with
  | nil => simp at h
  | cons d s => simpa using h

theorem firstOf_of_head? {s : List Char} {c : Char} (h : s.head? = some c) : firstOf s = c := by
  rw [head?_eq_some_tail h, firstOf_cons]

theorem firstOf_ne {s : List Char} {c : Char} (hc : c ≠ '\n') (h : s.head? ≠ some c) :
    firstOf s ≠ c := by
  cases s with
  | nil => exact hc.symm
  | cons d s => simpa using h

/-- What is left of a line after the first slash of a comment. -/
theorem fits_lineComment_takeRun {s : List Char} (h : s.head? = some '/') :
    Fits .lineComment ('/' :: (takeRun (· ≠ '\n') s).1) (firstOf (takeRun (· ≠ '\n') s).2) := by
  have hstop := firstOf_takeRun (p := (· ≠ '\n')) (by simp) s
  have hrun := forall_mem_takeRun (· ≠ '\n') s
  have hhead : (takeRun (· ≠ '\n') s).1 = '/' :: s.tail.takeWhile (· ≠ '\n') := by
    rw [head?_eq_some_tail h]
    simp [takeRun]
  rw [hhead] at hrun ⊢
  rw [show firstOf (takeRun (· ≠ '\n') s).2 = '\n' by simpa using hstop]
  refine .lineComment ?_
  intro hm
  simpa using hrun _ (List.mem_cons_of_mem _ hm)

theorem takeRun_lineComment {body left : List Char} (hbody : '\n' ∉ body)
    (hleft : firstOf left = '\n') :
    takeRun (· ≠ '\n') ('/' :: body ++ left) = ('/' :: body, left) := by
  have hall : ∀ d ∈ '/' :: body, decide (d ≠ '\n') = true := by
    intro d hd
    rcases List.mem_cons.1 hd with rfl | hd
    · decide
    · exact decide_eq_true fun hdn => hbody (hdn ▸ hd)
  have hstop : decide (firstOf left ≠ '\n') = false := by
    rw [hleft]
    rfl
  exact takeRun_append_of_stop hall (.inr hstop)

theorem fits_of_lexeme {c : Char} {s : List Char} {kind : TokenKind} {text left : List Char}
    (hc : isGap c = false) (h : lexeme c s = .ok (kind, text, left)) :
    Fits kind text (firstOf left) := by
  unfold lexeme at h
  split at h
  · rename_i hn
    simp only [Except.ok.injEq, Prod.mk.injEq] at h
    obtain ⟨rfl, rfl, rfl⟩ := h
    rw [hn]
    exact .newline
  rename_i hn
  split at h
  · rename_i hslash
    simp only [Bool.and_eq_true, decide_eq_true_eq] at hslash
    simp only [Except.ok.injEq, Prod.mk.injEq] at h
    obtain ⟨rfl, rfl, rfl⟩ := h
    rw [hslash.1]
    exact fits_lineComment_takeRun hslash.2
  split at h
  · rename_i hstar
    simp only [Bool.and_eq_true, decide_eq_true_eq] at hstar
    split at h
    · rename_i taken left' ht
      simp only [Except.ok.injEq, Prod.mk.injEq] at h
      obtain ⟨rfl, rfl, rfl⟩ := h
      obtain ⟨body, rfl, hbody⟩ := takeBlock_eq_some ht
      rw [hstar.1]
      exact .blockComment hbody
    · simp at h
  split at h
  · rename_i hquote
    simp only [Bool.or_eq_true, decide_eq_true_eq] at hquote
    split at h
    · rename_i taken left' ht
      simp only [Except.ok.injEq, Prod.mk.injEq] at h
      obtain ⟨rfl, rfl, rfl⟩ := h
      obtain ⟨body, rfl, hbody⟩ := takeQuoted_eq_some ht
      exact .literal hquote hbody
    · simp at h
  split at h
  · rename_i hraw
    split at h
    · rename_i taken left' ht
      simp only [Except.ok.injEq, Prod.mk.injEq] at h
      obtain ⟨rfl, rfl, rfl⟩ := h
      obtain ⟨body, rfl, hbody⟩ := takeRaw_eq_some ht
      rw [hraw]
      exact .rawString hbody
    · simp at h
  split at h
  · rename_i hdigit
    simp only [Except.ok.injEq, Prod.mk.injEq] at h
    obtain ⟨rfl, rfl, rfl⟩ := h
    exact .number hdigit (forall_mem_takeRun _ s) (firstOf_takeRun (by decide) s)
  split at h
  · rename_i hident
    simp only [Except.ok.injEq, Prod.mk.injEq] at h
    obtain ⟨rfl, rfl, rfl⟩ := h
    exact .ident hident (forall_mem_takeRun _ s) (firstOf_takeRun (by decide) s)
  · rename_i hline hblock hquote hraw hdigit hident
    simp only [Except.ok.injEq, Prod.mk.injEq] at h
    obtain ⟨rfl, rfl, rfl⟩ := h
    simp only [Bool.or_eq_true, decide_eq_true_eq, not_or] at hquote
    have hblank : isBlank c = false := by simpa [isGap, hn] using hc
    have hnext : c = '/' → firstOf s ≠ '/' ∧ firstOf s ≠ '*' := by
      intro hslash
      simp only [hslash, decide_true, Bool.true_and, decide_eq_true_eq] at hline hblock
      exact ⟨firstOf_ne (by decide) hline, firstOf_ne (by decide) hblock⟩
    exact .punct hblank (by simpa using hident) (by simpa using hdigit) hquote.1 hquote.2 hraw hnext

theorem lexeme_of_fits {c : Char} {more left : List Char} {kind : TokenKind}
    (h : Fits kind (c :: more) (firstOf left)) :
    lexeme c (more ++ left) = .ok (kind, c :: more, left) := by
  generalize htext : c :: more = text at h
  generalize hnext : firstOf left = next at h
  cases h with
  | newline =>
    obtain ⟨rfl, rfl⟩ := List.cons.inj htext
    rfl
  | ident hc hmore hstop =>
    obtain ⟨rfl, rfl⟩ := List.cons.inj htext
    have hne : ∀ d, startsIdent d = false → c ≠ d := by
      rintro d hd rfl
      rw [hc] at hd
      exact absurd hd (by simp)
    have hrun := takeRun_append_of_stop hmore (.inr (hnext ▸ hstop))
    simp [lexeme, hne '\n' (by decide), hne '/' (by decide), hne '"' (by decide),
      hne '\'' (by decide), hne '\x60' (by decide), isDigit_of_startsIdent hc, hc, hrun]
  | number hc hmore hstop =>
    obtain ⟨rfl, rfl⟩ := List.cons.inj htext
    have hne : ∀ d : Char, d.isDigit = false → c ≠ d := by
      rintro d hd rfl
      rw [hc] at hd
      exact absurd hd (by simp)
    have hrun := takeRun_append_of_stop hmore (.inr (hnext ▸ hstop))
    simp [lexeme, hne '\n' (by decide), hne '/' (by decide), hne '"' (by decide),
      hne '\'' (by decide), hne '\x60' (by decide), hc, hrun]
  | @literal quote body _ hquote hbody =>
    obtain ⟨rfl, rfl⟩ := List.cons.inj htext
    rcases hquote with rfl | rfl
    · simp [lexeme, takeQuoted_of_quoted (by decide) (by decide) hbody]
    · simp [lexeme, takeQuoted_of_quoted (by decide) (by decide) hbody]
  | @rawString body _ hbody =>
    obtain ⟨rfl, rfl⟩ := List.cons.inj htext
    simp [lexeme, takeRaw_of_not_mem hbody]
  | @lineComment body hbody =>
    obtain ⟨rfl, rfl⟩ := List.cons.inj htext
    rw [lexeme, if_neg (by decide), if_pos (by rfl), takeRun_lineComment hbody hnext]
  | @blockComment body _ hbody =>
    obtain ⟨rfl, rfl⟩ := List.cons.inj htext
    simp [lexeme, takeBlock_of_first hbody]
  | punct hblank hident hdigit hdouble hsingle hraw hslash =>
    obtain ⟨rfl, rfl⟩ := List.cons.inj htext
    have hn : c ≠ '\n' := by
      rintro rfl
      simp at hblank
    have hline : ¬ (c = '/' ∧ left.head? = some '/') := by
      rintro ⟨hc, hd⟩
      exact (hslash hc).1 (hnext.symm.trans (firstOf_of_head? hd))
    have hblock : ¬ (c = '/' ∧ left.head? = some '*') := by
      rintro ⟨hc, hd⟩
      exact (hslash hc).2 (hnext.symm.trans (firstOf_of_head? hd))
    simp [lexeme, hn, hline, hblock, hdouble, hsingle, hraw, hdigit, hident]

/-! ## What the text of a token is made of -/

namespace Fits

variable {kind : TokenKind} {text : List Char} {next : Char}

/-- A line end can follow every token. -/
theorem at_lineEnd (h : Fits kind text next) : Fits kind text '\n' := by
  cases h with
  | newline => exact .newline
  | ident hc hmore _ => exact .ident hc hmore (by decide)
  | number hc hmore _ => exact .number hc hmore (by decide)
  | literal hquote hbody => exact .literal hquote hbody
  | rawString hbody => exact .rawString hbody
  | lineComment hbody => exact .lineComment hbody
  | blockComment hbody => exact .blockComment hbody
  | punct hb hi hd h1 h2 h3 _ => exact .punct hb hi hd h1 h2 h3 fun _ => by decide

theorem next_of_lineComment (h : Fits .lineComment text next) : next = '\n' := by
  cases h
  rfl

theorem exists_cons (h : Fits kind text next) (hk : kind ≠ .newline) :
    ∃ c more, text = c :: more ∧ isBlank c = false := by
  cases h with
  | newline => exact absurd rfl hk
  | ident hc _ _ =>
    have hcont := continuesNumber_of_continuesIdent (continuesIdent_of_startsIdent hc)
    exact ⟨_, _, rfl, isBlank_of_continuesNumber hcont⟩
  | number hc _ _ =>
    exact ⟨_, _, rfl, isBlank_of_continuesNumber (continuesNumber_of_isDigit hc)⟩
  | literal hquote _ => rcases hquote with rfl | rfl <;> exact ⟨_, _, rfl, by decide⟩
  | rawString _ => exact ⟨_, _, rfl, by decide⟩
  | lineComment _ => exact ⟨_, _, rfl, by decide⟩
  | blockComment _ => exact ⟨_, _, rfl, by decide⟩
  | punct hb _ _ _ _ _ _ => exact ⟨_, _, rfl, hb⟩

theorem ne_nil (h : Fits kind text next) : text ≠ [] := by
  cases h <;> simp

/-- Only a line comment can end in a blank. -/
theorem isBlank_getLast (h : Fits kind text next) (hk : kind ≠ .newline)
    (hline : kind ≠ .lineComment) : ∀ c ∈ text.getLast?, isBlank c = false := by
  have hrun : ∀ {c : Char} {more : List Char}, continuesNumber c →
      (∀ d ∈ more, continuesNumber d) → ∀ d ∈ (c :: more).getLast?, isBlank d = false := by
    intro c more hc hmore d hd
    rcases List.mem_cons.1 (List.mem_of_getLast? hd) with rfl | hd
    · exact isBlank_of_continuesNumber hc
    · exact isBlank_of_continuesNumber (hmore d hd)
  cases h with
  | newline => exact absurd rfl hk
  | ident hc hmore _ =>
    exact hrun (continuesNumber_of_continuesIdent (continuesIdent_of_startsIdent hc))
      fun d hd => continuesNumber_of_continuesIdent (hmore d hd)
  | number hc hmore _ => exact hrun (continuesNumber_of_isDigit hc) hmore
  | literal hquote _ =>
    rcases hquote with rfl | rfl <;> simp [List.getLast?_cons] <;> decide
  | rawString _ => simp [List.getLast?_cons]; decide
  | lineComment _ => exact absurd rfl hline
  | blockComment _ => simp [List.getLast?_cons]; decide
  | punct hb _ _ _ _ _ _ => simpa using hb

/-- The tokens that can span lines are raw strings and block comments. -/
theorem no_newline (h : Fits kind text next) (hk : kind ≠ .newline) (hraw : kind ≠ .rawString)
    (hblock : kind ≠ .blockComment) : '\n' ∉ text := by
  have hrun : ∀ {more : List Char}, (∀ d ∈ more, continuesNumber d) → '\n' ∉ more := by
    intro more hmore hn
    exact absurd (hmore _ hn) (by decide)
  cases h with
  | newline => exact absurd rfl hk
  | ident hc hmore _ =>
    refine hrun ?_
    intro d hd
    rcases List.mem_cons.1 hd with rfl | hd
    · exact continuesNumber_of_continuesIdent (continuesIdent_of_startsIdent hc)
    · exact continuesNumber_of_continuesIdent (hmore d hd)
  | number hc hmore _ =>
    refine hrun ?_
    intro d hd
    rcases List.mem_cons.1 hd with rfl | hd
    · exact continuesNumber_of_isDigit hc
    · exact hmore d hd
  | literal hquote hbody =>
    rcases hquote with rfl | rfl <;> simpa using hbody.no_newline
  | rawString _ => exact absurd rfl hraw
  | lineComment hbody => simpa using hbody
  | blockComment _ => exact absurd rfl hblock
  | punct hb _ _ _ _ _ _ =>
    intro hn
    rw [List.mem_singleton] at hn
    rw [← hn] at hb
    exact absurd hb (by decide)

/-! ## Changes of the text -/

theorem cut_lineComment {cut : List Char → List Char} (hcut : CutsBlanks cut)
    (h : Fits .lineComment text next) : Fits .lineComment (cut text) next := by
  cases h with
  | @lineComment body hbody =>
    obtain ⟨t, w, ht, hw, hs⟩ := hcut.cons (c := '/') (by decide) ('/' :: body)
    cases t with
    | nil =>
      rw [List.nil_append] at hs
      exact absurd (hw '/' (hs ▸ List.mem_cons_self)) (by decide)
    | cons d t =>
      obtain ⟨rfl, rfl⟩ := List.cons.inj hs
      rw [ht]
      exact .lineComment fun hn => hbody (List.mem_append_left _ hn)

end Fits

/-- Leaving out carriage returns does not bring the two characters of an end mark together. -/
theorem infix_of_infix_dropReturns {s : List Char} (h : ['*', '/'] <:+: dropReturns s) :
    ['*', '/'] <:+: s := by
  induction s with
  | nil => simp at h
  | cons c s ih =>
    rw [dropReturns] at h
    split at h
    · exact (ih h).trans (List.suffix_cons c s).isInfix
    rw [List.infix_cons_iff] at h
    rcases h with hpre | hin
    · obtain ⟨rfl, hslash⟩ := List.cons_prefix_cons.1 hpre
      cases s with
      | nil => simp at hslash
      | cons d s =>
        rw [dropReturns] at hslash
        split at hslash
        · rename_i hd
          rw [head?_eq_some_tail hd.2, dropReturns_cons_of_ne (by decide)] at hslash
          simp at hslash
        · obtain ⟨rfl, -⟩ := List.cons_prefix_cons.1 hslash
          exact List.infix_cons_iff.2 (.inl ⟨s, rfl⟩)
    · exact (ih hin).trans (List.suffix_cons c s).isInfix

theorem Fits.dropReturns_rawString {text : List Char} {next : Char}
    (h : Fits .rawString text next) : Fits .rawString (dropReturns text) next := by
  cases h with
  | @rawString body _ hbody =>
    have htext : dropReturns ('\x60' :: body ++ ['\x60']) =
        '\x60' :: dropReturns body ++ ['\x60'] := by
      rw [dropReturns_append (.inr (by decide)), dropReturns_cons_of_ne (by decide)]
      rfl
    rw [htext]
    exact .rawString fun hm => hbody ((dropReturns_sublist body).subset hm)

theorem Fits.dropReturns_blockComment {text : List Char} {next : Char}
    (h : Fits .blockComment text next) : Fits .blockComment (dropReturns text) next := by
  cases h with
  | @blockComment body _ hbody =>
    have htext : dropReturns ('/' :: '*' :: body ++ ['*', '/']) =
        '/' :: '*' :: dropReturns body ++ ['*', '/'] := by
      rw [dropReturns_append (.inr (by decide)), dropReturns_cons_of_ne (by decide),
        dropReturns_cons_of_ne (by decide)]
      rfl
    rw [htext]
    refine .blockComment fun hin => hbody (infix_of_infix_dropReturns ?_)
    rw [dropReturns_append (.inr (by decide))]
    exact hin

end Scribe.Source
