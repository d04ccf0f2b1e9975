import Scribe.Source.Token
import Scribe.Text.Letter

/-!
# Cutting source into tokens

`tokenize` skips blanks other than the line feed and takes the token that the next character
starts.  Each scanner below takes the characters after the opening of a token and gives back the
token's remaining characters and what follows them; what it takes and what it leaves make up what
it was given (`takeBlock_append` and its siblings), so the loop ends and nothing is lost but blanks.

A literal or comment that is not closed is the only error.  It is reported at the line that it
opens on, however far the search for its end went.
-/

namespace Scribe.Source

open Scribe.Text

/-! ### Errors -/

/-- What can be left open. -/
inductive Unclosed where
  | comment
  | string
  | rune
  | rawString
  deriving Repr, DecidableEq

/-- A literal or comment that is never closed, with the line that it opens on. -/
structure LexError where
  unclosed : Unclosed
  line : Nat
  deriving Repr, DecidableEq

def LexError.message (e : LexError) : String :=
  match e.unclosed with
  | .comment => "comment not terminated"
  | .string => "string literal not terminated"
  | .rune => "rune literal not terminated"
  | .rawString => "raw string literal not terminated"

/-! ### Scanners -/

/-- Up to and with the first end mark of a block comment.  The star of the mark has to follow the
opening, so the characters are looked at in pairs. -/
def takeBlock : List Char → Option (List Char × List Char)
  | '*' :: '/' :: rest => some (['*', '/'], rest)
  | c :: rest => (takeBlock rest).map fun (taken, left) => (c :: taken, left)
  | [] => none

/-- Up to and with the closing quote.  A backslash takes the character after it along; a line
feed ends the search. -/
def takeQuoted (quote : Char) : List Char → Option (List Char × List Char)
  | [] => none
  | '\\' :: c :: rest =>
    if c = '\n' then none
    else (takeQuoted quote rest).map fun (taken, left) => ('\\' :: c :: taken, left)
  | c :: rest =>
    if c = '\n' || c = '\\' then none
    else if c = quote then some ([c], rest)
    else (takeQuoted quote rest).map fun (taken, left) => (c :: taken, left)

/-- Up to and with the closing backquote. -/
def takeRaw : List Char → Option (List Char × List Char)
  | [] => none
  | c :: rest =>
    if c = '\x60' then some ([c], rest)
    else (takeRaw rest).map fun (taken, left) => (c :: taken, left)

/-- Whether an identifier can start with a character. -/
def startsIdent (c : Char) : Bool := isLetter c || c = '_'

/-- Whether an identifier can go on with a character. -/
def continuesIdent (c : Char) : Bool := isAlnum c || c = '_'

/-- Whether a number can go on with a character. -/
def continuesNumber (c : Char) : Bool := isAlnum c || c = '_' || c = '.'

/-- The longest beginning of a text whose characters satisfy `p`, and the rest. -/
def takeRun (p : Char → Bool) (s : List Char) : List Char × List Char :=
  (s.takeWhile p, s.dropWhile p)

/-! ### Nothing is lost -/

theorem takeBlock_append {s taken left : List Char} (h : takeBlock s = some (taken, left)) :
    taken ++ left = s := by
  fun_induction takeBlock s generalizing taken left with
  | case1 rest =>
    obtain ⟨rfl, rfl⟩ := Prod.mk.inj (Option.some.inj h)
    rfl
  | case2 c rest _ ih =>
    obtain ⟨⟨a, b⟩, hab, heq⟩ := Option.map_eq_some_iff.1 h
    obtain ⟨rfl, rfl⟩ := Prod.mk.inj heq
    simp [ih hab]
  | case3 => simp at h

theorem takeQuoted_append {quote : Char} {s taken left : List Char}
    (h : takeQuoted quote s = some (taken, left)) : taken ++ left = s := by
  fun_induction takeQuoted quote s generalizing taken left with
  | case1 => simp at h
  | case2 => simp at h
  | case3 c rest _ ih =>
    obtain ⟨⟨a, b⟩, hab, heq⟩ := Option.map_eq_some_iff.1 h
    obtain ⟨rfl, rfl⟩ := Prod.mk.inj heq
    simp [ih hab]
  | case4 => simp at h
  | case5 rest _ _ =>
    obtain ⟨rfl, rfl⟩ := Prod.mk.inj (Option.some.inj h)
    rfl
  | case6 c rest _ _ _ ih =>
    obtain ⟨⟨a, b⟩, hab, heq⟩ := Option.map_eq_some_iff.1 h
    obtain ⟨rfl, rfl⟩ := Prod.mk.inj heq
    simp [ih hab]

theorem takeRaw_append {s taken left : List Char} (h : takeRaw s = some (taken, left)) :
    taken ++ left = s := by
  induction s generalizing taken left with
  | nil => simp [takeRaw] at h
  | cons c rest ih =>
    unfold takeRaw at h
    split at h
    · obtain ⟨rfl, rfl⟩ := Prod.mk.inj (Option.some.inj h)
      rfl
    · obtain ⟨⟨a, b⟩, hab, heq⟩ := Option.map_eq_some_iff.1 h
      obtain ⟨rfl, rfl⟩ := Prod.mk.inj heq
      simp [ih hab]

theorem takeRun_append (p : Char → Bool) (s : List Char) :
    (takeRun p s).1 ++ (takeRun p s).2 = s := by
  simp [takeRun]

/-! ### One token -/

/-- The kind and the text of the token that starts with `c`, where `s` follows, and what comes
after the token. -/
def lexeme (c : Char) (s : List Char) :
    Except Unclosed (TokenKind × List Char × List Char) :=
  if c = '\n' then .ok (.newline, [c], s)
  else if c = '/' && s.head? = some '/' then
    let (taken, left) := takeRun (· ≠ '\n') s
    .ok (.lineComment, c :: taken, left)
  else if c = '/' && s.head? = some '*' then
    match takeBlock s.tail with
    | some (taken, left) => .ok (.blockComment, c :: '*' :: taken, left)
    | none => .error .comment
  else if c = '"' || c = '\'' then
    match takeQuoted c s with
    | some (taken, left) => .ok (.literal, c :: taken, left)
    | none => .error (if c = '"' then .string else .rune)
  else if c = '\x60' then
    match takeRaw s with
    | some (taken, left) => .ok (.rawString, c :: taken, left)
    | none => .error .rawString
  else if c.isDigit then
    let (taken, left) := takeRun continuesNumber s
    .ok (.number, c :: taken, left)
  else if startsIdent c then
    let (taken, left) := takeRun continuesIdent s
    .ok (.ident, c :: taken, left)
  else .ok (.punct c, [c], s)

/-- A token's text and what follows it are the characters that it was cut from. -/
theorem lexeme_append {c : Char} {s : List Char} {kind : TokenKind} {text left : List Char}
    (h : lexeme c s = .ok (kind, text, left)) : text ++ left = c :: s := by
  unfold lexeme at h
  split at h
  · simp only [Except.ok.injEq, Prod.mk.injEq] at h
    obtain ⟨-, rfl, rfl⟩ := h
    rfl
  split at h
  · simp only [Except.ok.injEq, Prod.mk.injEq] at h
    obtain ⟨-, rfl, rfl⟩ := h
    simpa using takeRun_append _ s
  split at h
  · rename_i hstar
    split at h
    · rename_i taken left' ht
      simp only [Except.ok.injEq, Prod.mk.injEq] at h
      obtain ⟨-, rfl, rfl⟩ := h
      have := takeBlock_append ht
      cases s with
      | nil => simp at hstar
      | cons d s => simp_all
    · simp at h
  split at h
  · split at h
    · rename_i taken left' ht
      simp only [Except.ok.injEq, Prod.mk.injEq] at h
      obtain ⟨-, rfl, rfl⟩ := h
      simp [takeQuoted_append ht]
    · simp at h
  split at h
  · split at h
    · rename_i taken left' ht
      simp only [Except.ok.injEq, Prod.mk.injEq] at h
      obtain ⟨-, rfl, rfl⟩ := h
      simp [takeRaw_append ht]
    · simp at h
  split at h
  · simp only [Except.ok.injEq, Prod.mk.injEq] at h
    obtain ⟨-, rfl, rfl⟩ := h
    simpa using takeRun_append _ s
  split at h
  · simp only [Except.ok.injEq, Prod.mk.injEq] at h
    obtain ⟨-, rfl, rfl⟩ := h
    simpa using takeRun_append _ s
  · simp only [Except.ok.injEq, Prod.mk.injEq] at h
    obtain ⟨-, rfl, rfl⟩ := h
    rfl

/-- A token is not empty: it takes its first character. -/
theorem lexeme_cons {c : Char} {s : List Char} {kind : TokenKind} {text left : List Char}
    (h : lexeme c s = .ok (kind, text, left)) : ∃ more, text = c :: more := by
  unfold lexeme at h
  repeat' split at h
  all_goals simp_all
  all_goals exact ⟨_, h.2.1.symm⟩

/-- What follows a token is shorter than what the token was cut from. -/
theorem lexeme_length {c : Char} {s : List Char} {kind : TokenKind} {text left : List Char}
    (h : lexeme c s = .ok (kind, text, left)) : left.length ≤ s.length := by
  obtain ⟨more, rfl⟩ := lexeme_cons h
  have := congrArg List.length (lexeme_append h)
  simp at this
  omega

/-! ### All tokens -/

/-- Whether a character stands between tokens without being part of any. -/
def isGap (c : Char) : Bool := c ≠ '\n' && isBlank c

/-- The tokens of a text that starts on line `line`. -/
def tokenizeFrom (line : Nat) (s : List Char) : Except LexError (List Token) :=
  match _hs : s.dropWhile isGap with
  | [] => .ok []
  | c :: rest =>
    match _hx : lexeme c rest with
    | .error unclosed => .error ⟨unclosed, line⟩
    | .ok (kind, text, left) =>
      let next := line + newlines text
      let endLine := if kind = .newline then line else next
      (tokenizeFrom next left).map fun ts => ⟨kind, text, line, endLine⟩ :: ts
termination_by s.length
decreasing_by
  have h1 := lexeme_length _hx
  have h2 := (List.dropWhile_sublist isGap (l := s)).length_le
  rw [_hs] at h2
  simp at h2
  omega

/-- The tokens of a source text. -/
def tokenize (s : List Char) : Except LexError (List Token) := tokenizeFrom 1 s

end Scribe.Source
