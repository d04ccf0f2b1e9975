import Scribe.Proofs.Constants.Printed
import Scribe.Proofs.Source.OneLine

/-!
# The tokens of a file of constants

What the lexer makes of a written file, line by line: `File.tokens` are its tokens in their places.
-/

namespace Scribe.Source.Printed

open Scribe.Text

/-! ## Lines -/

/-- The token of the identifier `text`. -/
def identOn (line : Nat) (text : List Char) : Token := ⟨.ident, text, line, line⟩

def punctOn (line : Nat) (c : Char) : Token := ⟨.punct c, [c], line, line⟩

def Remark.tokenOn (line : Nat) (r : Remark) : Token := ⟨.lineComment, r.mark, line, line⟩

def Above.tokens (line : Nat) : Above → List Token
  | empty _ => [lineEnd line]
  | comment _ remark => [remark.tokenOn line, lineEnd line]

/-- The tokens of lines from line `line` on. -/
def aboveTokens (line : Nat) : List Above → List Token
  | [] => []
  | l :: ls => l.tokens line ++ aboveTokens (line + 1) ls

/-- The tokens of an entry without its name, up to the end of its line. -/
def Entry.tailTokens (line : Nat) (e : Entry) : List Token :=
  e.tail.tokens.map (Token.onLine line)

def Entry.besideTokens (line : Nat) (e : Entry) : List Token :=
  (e.beside.map (Remark.tokenOn line)).toList

def Entry.tokens (line : Nat) (e : Entry) : List Token :=
  identOn line e.name.text :: (e.tailTokens line ++ (e.besideTokens line ++ [lineEnd line]))

def memberTokens (line : Nat) : List Member → List Token
  | [] => []
  | m :: ms =>
    aboveTokens line m.above ++ (m.entry.tokens (line + m.above.length) ++
      memberTokens (line + m.above.length + 1) ms)

/-- The line after some members. -/
def afterMembers (line : Nat) : List Member → Nat
  | [] => line
  | m :: ms => afterMembers (line + m.above.length + 1) ms

theorem remark_lexes (r : Remark) (line : Nat) :
    Lexes line (r.mark ++ ['\n']) (line + 1) [r.tokenOn line, lineEnd line] :=
  .lineComment r.no_newline line

theorem above_lexes (l : Above) (line : Nat) :
    Lexes line l.print (line + 1) (l.tokens line) := by
  cases l with
  | empty blanks => exact (Lexes.gap blanks.blank).append (.newline line)
  | comment indent remark =>
    rw [Above.print, List.append_assoc]
    exact (Lexes.gap indent.blank).append (remark_lexes remark line)

theorem aboves_lex (ls : List Above) (line : Nat) :
    Lexes line (ls.flatMap Above.print) (line + ls.length) (aboveTokens line ls) := by
  induction ls generalizing line with
  | nil => exact Lexes.gap (by simp)
  | cons l ls ih =>
    have hrest := ih (line + 1)
    rw [Nat.add_right_comm, Nat.add_assoc] at hrest
    exact (above_lexes l line).append hrest

/-- A word before a blank. -/
theorem word_lexes (w : Word) {s : List Char} {line next : Nat} {ts : List Token}
    (hs : ∃ c rest, s = c :: rest ∧ isBlank c) (h : Lexes line s next ts) :
    Lexes line (w.text ++ s) next (identOn line w.text :: ts) := by
  have hline := no_newline_of_tokenize_ident w.single
  have hall := Lexes.before_blank w.single hline (by simp) hs h
  exact hall

theorem keyword_lexes (w : Word) (line : Nat) :
    Lexes line (w.text ++ [' ']) line [identOn line w.text] := by
  have hspace : Lexes line [' '] line [] := .gap (by simp [isGap])
  exact word_lexes w ⟨_, _, rfl, rfl⟩ hspace

theorem beside_lexes (beside : Option Remark) (line : Nat) :
    Lexes line (printBeside beside) (line + 1)
      ((beside.map (Remark.tokenOn line)).toList ++ [lineEnd line]) := by
  cases beside with
  | none => exact .newline line
  | some remark =>
    have hspace : Lexes line [' '] line [] := .gap (by simp [isGap])
    exact hspace.append (remark_lexes remark line)

theorem starts_beside (beside : Option Remark) :
    ∃ c rest, printBeside beside = c :: rest ∧ isBlank c := by
  cases beside <;> exact ⟨_, _, rfl, rfl⟩

theorem tail_lexes (e : Entry) (line : Nat) :
    Lexes line (e.tail.text ++ printBeside e.beside) (line + 1)
      (e.tailTokens line ++ (e.besideTokens line ++ [lineEnd line])) := by
  have hcomment : ∀ t ∈ e.tail.tokens, t.kind ≠ .lineComment := by
    intro t ht hkind
    have hnone := e.tail.no_comment t ht
    simp [Token.isComment, hkind] at hnone
  exact .before_blank e.tail.cut e.tail.on_line hcomment (starts_beside e.beside)
    (beside_lexes e.beside line)

theorem entry_lexes (e : Entry) (line : Nat) :
    Lexes line e.print (line + 1) (e.tokens line) := by
  have hblank : ∃ c rest, e.gap.text ++ (e.tail.text ++ printBeside e.beside) = c :: rest ∧
      isBlank c := by
    cases hgap : e.gap.text with
    | nil =>
      rw [e.parted hgap]
      exact starts_beside e.beside
    | cons c gap =>
      have hc : isGap c := e.gap.blank c (by simp [hgap])
      exact ⟨c, _, rfl, isBlank_of_isGap hc⟩
  have hgap : Lexes line e.gap.text line [] := .gap e.gap.blank
  have hall := word_lexes e.name hblank (hgap.append (tail_lexes e line))
  simpa [Entry.print, Entry.tokens] using hall

theorem members_lex (ms : List Member) (line : Nat) :
    Lexes line (ms.flatMap Member.print) (afterMembers line ms) (memberTokens line ms) := by
  induction ms generalizing line with
  | nil => exact Lexes.gap (by simp)
  | cons m ms ih =>
    have habove := aboves_lex m.above line
    have hindent : Lexes (line + m.above.length) m.indent.text (line + m.above.length) [] :=
      .gap m.indent.blank
    have hentry := entry_lexes m.entry (line + m.above.length)
    have hall := habove.append ((hindent.append hentry).append (ih (line + m.above.length + 1)))
    simpa [Member.print, memberTokens, afterMembers] using hall

/-! ## Declarations -/

/-- The line of the closing bracket of a group that opens on line `line`. -/
def groupEnd (line : Nat) (members : List Member) (below : List Above) : Nat :=
  afterMembers (line + 1) members + below.length

/-- The tokens of a declaration after its keyword. -/
def Declaration.body (line : Nat) : Declaration → List Token
  | alone _ entry => entry.tokens line
  | group _ members below =>
    punctOn line '(' :: lineEnd line :: (memberTokens (line + 1) members ++
      (aboveTokens (afterMembers (line + 1) members) below ++
        [punctOn (groupEnd line members below) ')', lineEnd (groupEnd line members below)]))

def Declaration.tokens (line : Nat) (d : Declaration) : List Token :=
  aboveTokens line d.above ++ identOn (line + d.above.length) constWord.text ::
    d.body (line + d.above.length)

/-- The line after a declaration whose keyword stands on line `line`. -/
def Declaration.after (line : Nat) : Declaration → Nat
  | alone _ _ => line + 1
  | group _ members below => groupEnd line members below + 1

theorem bracket_lexes {c : Char} (h : tokenize [c] = .ok [⟨.punct c, [c], 1, 1⟩]) (hc : c ≠ '\n')
    (line : Nat) : Lexes line [c, '\n'] (line + 1) [punctOn line c, lineEnd line] :=
  .before_blank h (by simpa using hc.symm) (by simp) ⟨_, _, rfl, rfl⟩ (.newline line)

theorem body_lexes (d : Declaration) (line : Nat) :
    Lexes line d.printBody (d.after line) (d.body line) := by
  cases d with
  | alone above entry => exact entry_lexes entry line
  | group above members below =>
    have hopen : Lexes line ['(', '\n'] (line + 1) _ :=
      bracket_lexes (by cbv) (by decide) line
    have hmembers := members_lex members (line + 1)
    have hbelow := aboves_lex below (afterMembers (line + 1) members)
    have hclose : Lexes (groupEnd line members below) [')', '\n'] _ _ :=
      bracket_lexes (by cbv) (by decide) (groupEnd line members below)
    have hall := ((hopen.append hmembers).append hbelow).append hclose
    simpa [Declaration.printBody, Declaration.body, Declaration.after] using hall

theorem declaration_lexes (d : Declaration) (line : Nat) :
    Lexes line d.print (d.after (line + d.above.length)) (d.tokens line) := by
  have habove := aboves_lex d.above line
  have hconst := keyword_lexes constWord (line + d.above.length)
  have hall := (habove.append hconst).append (body_lexes d (line + d.above.length))
  simpa [Declaration.print, Declaration.tokens] using hall

/-! ## Files -/

def declarationTokens (line : Nat) : List Declaration → List Token
  | [] => []
  | d :: ds => d.tokens line ++ declarationTokens (d.after (line + d.above.length)) ds

def File.tokens (f : File) : List Token :=
  identOn 1 packageWord.text :: identOn 1 f.package.text :: lineEnd 1 ::
    declarationTokens 2 f.declarations

theorem declarations_lex (ds : List Declaration) (line : Nat) :
    ∃ next, Lexes line (ds.flatMap Declaration.print) next (declarationTokens line ds) := by
  induction ds generalizing line with
  | nil => exact ⟨line, Lexes.gap (by simp)⟩
  | cons d ds ih =>
    obtain ⟨next, hrest⟩ := ih (d.after (line + d.above.length))
    exact ⟨next, (declaration_lexes d line).append hrest⟩

/-- **A written file has the tokens that it should have.** -/
theorem tokenize_print (f : File) : tokenize f.print = .ok f.tokens := by
  have hkeyword := keyword_lexes packageWord 1
  have hname := word_lexes f.package ⟨_, _, rfl, rfl⟩ (.newline 1)
  obtain ⟨next, hdeclarations⟩ := declarations_lex f.declarations 2
  have hall := (hkeyword.append hname).append hdeclarations
  have htokens := hall.tokenize_eq
  simpa [File.print, File.tokens] using htokens

end Scribe.Source.Printed
