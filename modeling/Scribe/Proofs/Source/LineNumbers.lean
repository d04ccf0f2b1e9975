import Scribe.Proofs.Source.Segmentation

/-!
# The lines that are reported

The lexer counts lines as it goes: at a line end, and at each line feed that it meets on its way
through a raw string or a block comment.  The count comes out right.  A token is on the line that the
line feeds before it put it on, and a literal or comment that is not closed is reported on the line
of its opening, however far the search for its end went (`tokenize_lines`).

To say where something stands, the source is cut there.  `CutAt left read fs` says that `read` is a
source up to a place, made up of the tokens `fs`, and that `left` follows; each token fits what really
comes after it.  The lexer reads on from such a place with the line feeds of `read` counted
(`tokenizeFrom_of_cutAt`), and both a token and an error are found at such a place.
-/

namespace Scribe.Source

open Scribe.Text

/-! ## Places -/

/-- The characters `read` of a source that goes on with `left` are the tokens `fs`, with blanks other
than line feeds before each of them and after the last. -/
inductive CutAt (left : List Char) : List Char → List Face → Prop
  | start {gap : List Char} : (∀ c ∈ gap, isGap c) → CutAt left gap []
  | token {gap text read : List Char} {kind : TokenKind} {fs : List Face} :
      (∀ c ∈ gap, isGap c) → Fits kind text (firstOf (read ++ left)) → CutAt left read fs →
      CutAt left (gap ++ (text ++ read)) ((kind, text) :: fs)

variable {s read left : List Char} {fs : List Face} {line : Nat} {e : LexError}

/-- The lexer reads up to a place, and on from there. -/
theorem tokenizeFrom_of_cutAt (h : CutAt left read fs) (line : Nat) :
    ∃ us, us.map Token.face = fs ∧ tokenizeFrom line (read ++ left) =
      (tokenizeFrom (line + newlines read) left).map (us ++ ·) := by
  induction h generalizing line with
  | @start gap hgap =>
    refine ⟨[], rfl, ?_⟩
    rw [tokenizeFrom_gap hgap, newlines_eq_zero.2 (no_newline_of_gap hgap), Nat.add_zero]
    cases tokenizeFrom line left <;> rfl
  | @token gap text read kind fs hgap hfits _ ih =>
    obtain ⟨us, rfl, hread⟩ := ih (line + newlines text)
    refine ⟨⟨kind, text, line, if kind = .newline then line else line + newlines text⟩ :: us,
      rfl, ?_⟩
    have hcount : newlines (gap ++ (text ++ read)) = newlines text + newlines read := by
      rw [newlines_append, newlines_append, newlines_eq_zero.2 (no_newline_of_gap hgap),
        Nat.zero_add]
    rw [List.append_assoc, List.append_assoc, tokenizeFrom_of_fits hgap hfits, hread, hcount,
      ← Nat.add_assoc]
    cases tokenizeFrom (line + newlines text + newlines read) left <;> rfl

/-- Each token of a source stands at a place, on the line of that place. -/
theorem exists_cutAt {us vs : List Token} {t : Token}
    (h : tokenizeFrom line s = .ok (us ++ t :: vs)) :
    ∃ read left, s = read ++ (t.text ++ left) ∧ CutAt (t.text ++ left) read (us.map Token.face) ∧
      Fits t.kind t.text (firstOf left) ∧ t.line = line + newlines read ∧
      t.endLine = t.line + if t.kind = .newline then 0 else newlines t.text := by
  induction us generalizing line s with
  | nil =>
    obtain ⟨gap, hgap, ⟨-, hnil⟩ | ⟨kind, text, left, rest, rfl, -, hfits, -, hts⟩⟩ :=
      tokenizeFrom_cases h
    · simp at hnil
    · obtain ⟨rfl, rfl⟩ := List.cons.inj hts
      refine ⟨gap, left, rfl, .start hgap, hfits, ?_, ?_⟩
      · rw [newlines_eq_zero.2 (no_newline_of_gap hgap), Nat.add_zero]
      · by_cases hkind : kind = .newline <;> simp [hkind]
  | cons u us ih =>
    obtain ⟨gap, hgap, ⟨-, hnil⟩ | ⟨kind, text, left, rest, rfl, -, hfits, hrest, hts⟩⟩ :=
      tokenizeFrom_cases h
    · simp at hnil
    · obtain ⟨rfl, rfl⟩ := List.cons.inj hts
      obtain ⟨read, after, rfl, hcut, hfits', hline, hend⟩ := ih hrest
      refine ⟨gap ++ (text ++ read), after, by simp, .token hgap hfits hcut, hfits', ?_, hend⟩
      rw [hline, newlines_append, newlines_append, newlines_eq_zero.2 (no_newline_of_gap hgap)]
      omega

/-- And what stands at a place is a token of the source. -/
theorem getElem?_of_cutAt {kind : TokenKind} {text : List Char} {ts : List Token}
    (hcut : CutAt (text ++ left) read fs) (hfits : Fits kind text (firstOf left))
    (h : tokenizeFrom line (read ++ (text ++ left)) = .ok ts) :
    ts[fs.length]? = some ⟨kind, text, line + newlines read,
      if kind = .newline then line + newlines read else line + newlines read + newlines text⟩ := by
  obtain ⟨us, rfl, hread⟩ := tokenizeFrom_of_cutAt hcut line
  have htoken : tokenizeFrom (line + newlines read) ([] ++ (text ++ left)) = _ :=
    tokenizeFrom_of_fits (by simp) hfits _
  rw [hread] at h
  obtain ⟨_, hrest, rfl⟩ := exists_of_map_eq_ok h
  obtain ⟨vs, -, rfl⟩ := exists_of_map_eq_ok (htoken.symm.trans hrest)
  simp

/-! ## What is left open -/

/-- The texts that begin with a literal or comment that is never closed. -/
inductive LeftOpen : Unclosed → List Char → Prop
  | comment {s : List Char} : ¬ ['*', '/'] <:+: s → LeftOpen .comment ('/' :: '*' :: s)
  | string {s : List Char} :
      (∀ body after, Quoted '"' body → s ≠ body ++ '"' :: after) → LeftOpen .string ('"' :: s)
  | rune {s : List Char} :
      (∀ body after, Quoted '\'' body → s ≠ body ++ '\'' :: after) → LeftOpen .rune ('\'' :: s)
  | rawString {s : List Char} : '\x60' ∉ s → LeftOpen .rawString ('\x60' :: s)

theorem takeBlock_eq_none_iff : takeBlock s = none ↔ ¬ ['*', '/'] <:+: s := by
  fun_induction takeBlock s with
  | case1 rest => simp [List.infix_cons_iff]
  | case2 c rest hne ih =>
    have hpre : ¬ ['*', '/'] <+: c :: rest := by
      intro hpre
      obtain ⟨rfl, after, rfl⟩ := List.cons_prefix_cons.1 hpre
      exact hne after rfl rfl
    rw [Option.map_eq_none_iff, ih, List.infix_cons_iff]
    simp [hpre]
  | case3 => simp

theorem takeQuoted_eq_none_iff {quote : Char} (hn : quote ≠ '\n') (hb : quote ≠ '\\') :
    takeQuoted quote s = none ↔ ∀ body after, Quoted quote body → s ≠ body ++ quote :: after := by
  constructor
  · rintro h body after hbody rfl
    rw [takeQuoted_of_quoted hn hb hbody] at h
    simp at h
  · intro h
    cases htake : takeQuoted quote s with
    | none => rfl
    | some p =>
      obtain ⟨body, hbody, hquoted⟩ := takeQuoted_eq_some htake
      have happ := takeQuoted_append htake
      rw [hbody, List.append_assoc] at happ
      exact absurd happ.symm (h body p.2 hquoted)

theorem takeRaw_eq_none_iff : takeRaw s = none ↔ '\x60' ∉ s := by
  constructor
  · intro h hmem
    obtain ⟨body, after, rfl, hbody⟩ := List.eq_append_cons_of_mem hmem
    rw [takeRaw_of_not_mem hbody] at h
    simp at h
  · intro h
    cases htake : takeRaw s with
    | none => rfl
    | some p =>
      obtain ⟨body, hbody, -⟩ := takeRaw_eq_some htake
      have happ := takeRaw_append htake
      rw [← happ, hbody] at h
      simp at h

/-- The lexer gives up exactly on what is left open. -/
theorem lexeme_eq_error_iff {c : Char} {unclosed : Unclosed} :
    lexeme c s = .error unclosed ↔ LeftOpen unclosed (c :: s) := by
  constructor
  · intro h
    unfold lexeme at h
    split at h
    · simp at h
    split at h
    · simp at h
    split at h
    · rename_i hstar
      simp only [Bool.and_eq_true, decide_eq_true_eq] at hstar
      obtain ⟨rfl, hstar⟩ := hstar
      split at h
      · simp at h
      · rename_i hnone
        obtain rfl := Except.error.inj h
        rw [head?_eq_some_tail hstar]
        exact .comment (takeBlock_eq_none_iff.1 hnone)
    split at h
    · rename_i hquote
      split at h
      · simp at h
      · rename_i hnone
        obtain rfl := Except.error.inj h
        simp only [Bool.or_eq_true, decide_eq_true_eq] at hquote
        rcases hquote with rfl | rfl
        · exact .string ((takeQuoted_eq_none_iff (by decide) (by decide)).1 hnone)
        · exact .rune ((takeQuoted_eq_none_iff (by decide) (by decide)).1 hnone)
    split at h
    · rename_i hraw
      subst hraw
      split at h
      · simp at h
      · rename_i hnone
        obtain rfl := Except.error.inj h
        exact .rawString (takeRaw_eq_none_iff.1 hnone)
    split at h
    · simp at h
    split at h <;> simp at h
  · intro h
    generalize htext : c :: s = text at h
    cases h with
    | comment hopen =>
      obtain ⟨rfl, rfl⟩ := List.cons.inj htext
      simp [lexeme, takeBlock_eq_none_iff.2 hopen]
    | string hopen =>
      obtain ⟨rfl, rfl⟩ := List.cons.inj htext
      simp [lexeme, (takeQuoted_eq_none_iff (by decide) (by decide)).2 hopen]
    | rune hopen =>
      obtain ⟨rfl, rfl⟩ := List.cons.inj htext
      simp [lexeme, (takeQuoted_eq_none_iff (by decide) (by decide)).2 hopen]
    | rawString hopen =>
      obtain ⟨rfl, rfl⟩ := List.cons.inj htext
      simp [lexeme, takeRaw_eq_none_iff.2 hopen]

/-- What is left open is found where it stands. -/
theorem tokenizeFrom_of_leftOpen {unclosed : Unclosed} (h : LeftOpen unclosed left) (line : Nat) :
    tokenizeFrom line left = .error ⟨unclosed, line⟩ := by
  obtain ⟨c, s, rfl, hgap⟩ : ∃ c s, left = c :: s ∧ isGap c = false := by
    cases h <;> exact ⟨_, _, rfl, by decide⟩
  rw [tokenizeFrom_cons hgap, lexeme_eq_error_iff.2 h]

theorem eq_error_of_map_eq_error {ε α β : Type} {f : α → β} {x : Except ε α} {e : ε}
    (h : x.map f = .error e) : x = .error e := by
  cases x with
  | error e' => exact congrArg Except.error (Except.error.inj h)
  | ok a => exact absurd h (by simp [Except.map])

/-- An error is found where something is left open, and reported on the line of that place. -/
theorem exists_leftOpen (h : tokenizeFrom line s = .error e) :
    ∃ read fs left, s = read ++ left ∧ CutAt left read fs ∧ LeftOpen e.unclosed left ∧
      e.line = line + newlines read := by
  induction hlen : s.length using Nat.strong_induction_on generalizing line s with
  | h len ih =>
    have hgap : ∀ c ∈ s.takeWhile isGap, isGap c := by
      intro c hc
      exact List.mem_takeWhile_imp hc
    have hzero := newlines_eq_zero.2 (no_newline_of_gap hgap)
    have hsplit := List.takeWhile_append_dropWhile (p := isGap) (l := s)
    rw [← tokenizeFrom_dropWhile] at h
    cases hs : s.dropWhile isGap with
    | nil =>
      rw [hs, tokenizeFrom_of_gap (g := []) (by simp)] at h
      simp at h
    | cons c rest =>
      have hc : isGap c = false := eq_false_of_dropWhile hs
      rw [hs] at h hsplit
      rw [tokenizeFrom_cons hc] at h
      cases hx : lexeme c rest with
      | error unclosed =>
        rw [hx] at h
        obtain rfl := Except.error.inj h
        exact ⟨s.takeWhile isGap, [], c :: rest, hsplit.symm, .start hgap,
          lexeme_eq_error_iff.1 hx, by rw [hzero, Nat.add_zero]⟩
      | ok x =>
        obtain ⟨kind, text, after⟩ := x
        rw [hx] at h
        have hafter : tokenizeFrom (line + newlines text) after = .error e :=
          eq_error_of_map_eq_error h
        have hshort := lexeme_length hx
        have hle := congrArg List.length hsplit
        rw [List.length_append, List.length_cons] at hle
        obtain ⟨read, fs, left, rfl, hcut, hopen, hline⟩ :=
          ih after.length (by omega) hafter rfl
        rw [← lexeme_append hx] at hsplit
        refine ⟨s.takeWhile isGap ++ (text ++ read), (kind, text) :: fs, left,
          by rw [List.append_assoc, List.append_assoc, hsplit],
          .token hgap (fits_of_lexeme hc hx) hcut, hopen, ?_⟩
        rw [hline, newlines_append, newlines_append, hzero]
        omega

/-! ## Line numbers -/

/-- **Lines are counted exactly.**  A source has a token exactly where one stands, on the line that
the line feeds before it make, and up to the line that those in it make; and a source without tokens
is refused for what is left open at a place, on the line of the opening. -/
theorem tokenize_lines (s : List Char) :
    (∀ ts, tokenize s = .ok ts → ∀ (i : Nat) (t : Token), ts[i]? = some t ↔
      ∃ read fs left, s = read ++ (t.text ++ left) ∧ CutAt (t.text ++ left) read fs ∧
        fs.length = i ∧ Fits t.kind t.text (firstOf left) ∧ t.line = 1 + newlines read ∧
        t.endLine = t.line + if t.kind = .newline then 0 else newlines t.text) ∧
    ∀ e, tokenize s = .error e ↔
      ∃ read fs left, s = read ++ left ∧ CutAt left read fs ∧ LeftOpen e.unclosed left ∧
        e.line = 1 + newlines read := by
  refine ⟨?_, ?_⟩
  · intro ts hts i t
    constructor
    · intro ht
      obtain ⟨hi, rfl⟩ := List.getElem?_eq_some_iff.1 ht
      have hsplit : ts = ts.take i ++ ts[i] :: ts.drop (i + 1) := by simp
      have hread : tokenizeFrom 1 s = .ok (ts.take i ++ ts[i] :: ts.drop (i + 1)) := by
        rw [← hsplit]
        exact hts
      obtain ⟨read, left, hs, hcut, hfits, hline, hend⟩ := exists_cutAt hread
      exact ⟨read, _, left, hs, hcut, by simp; omega, hfits, hline, hend⟩
    · obtain ⟨kind, text, line, endLine⟩ := t
      rintro ⟨read, fs, left, rfl, hcut, rfl, hfits, hline, hend⟩
      dsimp only at hcut hfits hline hend
      rw [getElem?_of_cutAt hcut hfits hts, hend, hline]
      split <;> rfl
  · intro e
    constructor
    · exact exists_leftOpen
    · rintro ⟨read, fs, left, rfl, hcut, hopen, hline⟩
      obtain ⟨us, -, hread⟩ := tokenizeFrom_of_cutAt hcut 1
      rw [tokenize, hread, tokenizeFrom_of_leftOpen hopen, ← hline]
      rfl

/-- A raw string that opens behind a block comment over two lines and runs to the end. -/
example : tokenize "/* a\n */ \x60b\nc\n".toList = .error ⟨.rawString, 2⟩ := by cbv

end Scribe.Source
