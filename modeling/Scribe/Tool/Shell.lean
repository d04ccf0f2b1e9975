import Scribe.Text.Blank
import Scribe.Tool.Program

/-!
# A command shell

Runs a script of simple commands: words with quotes, separated by semicolons, line ends and the
two marks that make a command depend on the success of the one before, with redirections of the
two outputs.  The commands are the ones that write texts and end the script: `echo`, `printf`,
`exit`, `kill` of the shell itself, `true`, `false`, `:` and `cat`, for which no input is left.
Any other command is not found.

A script is read line by line, and a line that makes no sense ends it, so that the lines before it
have been run by then.
-/

namespace Scribe.Tool

open Scribe.Text

/-! ### Words -/

structure Word where
  /-- The line on which the word starts. -/
  line : Nat
  chars : List Char
  /-- Whether a part of it is in quotes. -/
  quoted : Bool
  deriving Repr, DecidableEq

/-- What ends a command. -/
inductive Mark where
  | lineEnd
  | semicolon
  /-- The next command is run if this one succeeds. -/
  | onSuccess
  | onFailure
  deriving Repr, DecidableEq

def Mark.text : Mark → String
  | lineEnd => "newline"
  | semicolon => ";"
  | onSuccess => "&&"
  | onFailure => "||"

/-- A piece of a script. -/
inductive Piece where
  | word (w : Word)
  /-- The output `source` goes where the next word says; `duplicate` if that word is the number of
  an output. -/
  | redirect (source : Nat) (duplicate : Bool)
  | stop (mark : Mark) (line : Nat)
  deriving Repr, DecidableEq

/-- Where the reader of a script is. -/
inductive Place where
  | bare
  | single
  | double
  /-- After a backslash outside quotes. -/
  | escape
  /-- After a backslash between double quotes. -/
  | doubleEscape
  | comment
  /-- After the mark of a redirection of an output. -/
  | redirection (source : Nat)
  /-- After the first character of a mark of two. -/
  | mark (c : Char)
  deriving Repr, DecidableEq

/-- How far a script has been read; the characters of the word are kept last first. -/
structure Reading where
  place : Place
  line : Nat
  word : Option Word
  deriving Repr, DecidableEq

namespace Reading

def start : Reading := ⟨.bare, 1, none⟩

def moveTo (r : Reading) (place : Place) : Reading := { r with place }

/-- The word being read, which starts here if there is none yet. -/
def current (r : Reading) : Word := r.word.getD ⟨r.line, [], false⟩

/-- One more character of the word. -/
def extend (r : Reading) (c : Char) : Reading :=
  { r with word := some { r.current with chars := c :: r.current.chars } }

/-- A part of the word in quotes starts. -/
def quote (r : Reading) (place : Place) : Reading :=
  { r with place, word := some { r.current with quoted := true } }

/-- The word ends, and some pieces follow it. -/
def finish (r : Reading) (place : Place) (ps : List Piece) : Reading × List Piece :=
  ({ r with place, word := none },
    match r.word with
    | none => ps
    | some w => .word { w with chars := w.chars.reverse } :: ps)

/-- Reads a character outside quotes. -/
def readBare (r : Reading) (c : Char) : Reading × List Piece :=
  if c = '\'' then (r.quote .single, [])
  else if c = '"' then (r.quote .double, [])
  else if c = '\\' then (r.moveTo .escape, [])
  else if c = '\n' then r.finish .bare [.stop .lineEnd r.line]
  else if c = ';' then r.finish .bare [.stop .semicolon r.line]
  else if c = '&' || c = '|' then r.finish (.mark c) []
  else if c = '#' && r.word.isNone then (r.moveTo .comment, [])
  else if c = '>' then
    match r.word.map fun w => (w.chars, w.quoted) with
    | some (['2'], false) => ({ r with place := .redirection 2, word := none }, [])
    | some (['1'], false) => ({ r with place := .redirection 1, word := none }, [])
    | _ => r.finish (.redirection 1) []
  else if c = ' ' || c = '\t' then r.finish .bare []
  else ((r.moveTo .bare).extend c, [])

/-- Reads a character; the line is not counted. -/
def readChar (r : Reading) (c : Char) : Reading × List Piece :=
  match r.place with
  | .bare => r.readBare c
  | .single => if c = '\'' then (r.moveTo .bare, []) else (r.extend c, [])
  | .double =>
    if c = '"' then (r.moveTo .bare, [])
    else if c = '\\' then (r.moveTo .doubleEscape, [])
    else (r.extend c, [])
  | .escape => if c = '\n' then (r.moveTo .bare, []) else ((r.quote .bare).extend c, [])
  | .doubleEscape =>
    if c = '"' || c = '\\' || c = '$' || c = '\x60' then ((r.moveTo .double).extend c, [])
    else if c = '\n' then (r.moveTo .double, [])
    else (((r.moveTo .double).extend '\\').extend c, [])
  | .comment => if c = '\n' then r.readBare c else (r, [])
  | .redirection source =>
    if c = '&' then (r.moveTo .bare, [.redirect source true])
    else
      let (r, ps) := r.readBare c
      (r, .redirect source false :: ps)
  | .mark first =>
    if c = first then
      (r.moveTo .bare, [.stop (if c = '&' then .onSuccess else .onFailure) r.line])
    else
      let (r, ps) := r.readBare c
      (r, .stop .semicolon r.line :: ps)

/-- The pieces of a script, and the reading at its end. -/
def readAll (r : Reading) : List Char → Reading × List Piece
  | [] => r.finish r.place []
  | c :: rest =>
    let (next, ps) := r.readChar c
    let (last, more) := readAll { next with line := r.line + if c = '\n' then 1 else 0 } rest
    (last, ps ++ more)

end Reading

/-! ### Commands -/

/-- Where an output of a command goes. -/
inductive Sink where
  | output
  | errors
  | nowhere
  deriving Repr, DecidableEq

/-- A command, the mark before it, and where its outputs go. -/
structure Command where
  after : Mark
  words : List Word
  output : Sink
  errors : Sink
  deriving Repr, DecidableEq

def Command.start (after : Mark) : Command := ⟨after, [], .output, .errors⟩

/-- Redirects an output of a command. -/
def Command.redirect (c : Command) (source : Nat) (duplicate : Bool) (target : List Char) :
    Command :=
  let sink :=
    if duplicate then (if target = ['2'] then c.errors else c.output) else .nowhere
  if source = 2 then { c with errors := sink } else { c with output := sink }

/-- A line of a script: commands, or why it makes no sense. -/
inductive Line where
  | commands (cs : List Command)
  | senseless (number : Nat) (reason : String)
  deriving Repr, DecidableEq

/-- A line with one more command in front. -/
def Line.cons (c : Command) : Line → Line
  | commands cs => commands (c :: cs)
  | senseless n reason => senseless n reason

/-- The words that only have a meaning after the start of a command of several parts. -/
def closingWords : List String := ["\x7d", "then", "else", "elif", "fi", "do", "done", "esac"]

/-- The closing word that a command starts with, which is out of place. -/
def Command.misplaced? (c : Command) : Option Word :=
  c.words.head?.filter fun w => !w.quoted && closingWords.contains (String.ofList w.chars)

def unexpected (text : String) : String := "\"" ++ text ++ "\" unexpected"

/-- The lines of a script.  `isOpen` says whether a quote is open at its end, where the number of the
line is `last`. -/
def lines (isOpen : Bool) (last : Nat) (current : Command) : List Piece → List Line
  | [] =>
    if isOpen then [.senseless last "Unterminated quoted string"]
    else
      match current.misplaced? with
      | some w => [.senseless w.line (unexpected (String.ofList w.chars))]
      | none => [.commands [current]]
  | .redirect source duplicate :: .word target :: rest =>
    lines isOpen last (current.redirect source duplicate target.chars) rest
  | .redirect .. :: rest => lines isOpen last current rest
  | .word w :: rest => lines isOpen last { current with words := current.words ++ [w] } rest
  | .stop mark number :: rest =>
    match current.misplaced? with
    | some w => [.senseless w.line (unexpected (String.ofList w.chars))]
    | none =>
      let isJoint := current.after = .onSuccess || current.after = .onFailure
      if current.words = [] && mark ≠ .lineEnd then [.senseless number (unexpected mark.text)]
      else if current.words = [] && isJoint then lines isOpen last current rest
      else
        let more := lines isOpen last (.start mark) rest
        if mark = .lineEnd then .commands [current] :: more
        else
          match more with
          | [] => [.commands [current]]
          | l :: ls => l.cons current :: ls

/-! ### Texts that commands write -/

def bytes (s : List Char) : List UInt8 := (String.ofList s).toUTF8.toList

def isOctal (c : Char) : Bool := '0' ≤ c && c ≤ '7'

/-- The value of octal digits as a byte. -/
def octal (digits : List Char) : UInt8 :=
  UInt8.ofNat (digits.foldl (fun n c => n * 8 + (c.toNat - '0'.toNat)) 0)

/-- What the letter after a backslash stands for. -/
def escaped (c : Char) : Option UInt8 :=
  [('a', 7), ('b', 8), ('t', 9), ('n', 10), ('v', 11), ('f', 12), ('r', 13), ('\\', 92)].lookup c

/-- The octal digits at the start of a text, at most three. -/
def octalDigits (s : List Char) : List Char := (s.takeWhile isOctal).take 3

/-- A text with its escapes replaced, up to the one that ends all output, and whether that is
there; `skip` characters belong to an escape already replaced. -/
def unescape (skip : Nat) : List Char → List UInt8 × Bool
  | [] => ([], false)
  | c :: rest =>
    match skip with
    | n + 1 => unescape n rest
    | 0 =>
      let before (b : List UInt8) (more : List UInt8 × Bool) := (b ++ more.1, more.2)
      match c, rest with
      | '\\', 'c' :: _ => ([], true)
      | '\\', '0' :: more =>
        before [octal (octalDigits more)] (unescape (1 + (octalDigits more).length) rest)
      | '\\', d :: _ => before ((escaped d).elim (bytes [c, d]) fun b => [b]) (unescape 1 rest)
      | _, _ => before (bytes [c]) (unescape 0 rest)

/-- What a conversion of a format makes of its argument. -/
def convert (conversion : Char) (arg : List Char) : List UInt8 :=
  if conversion = 'b' then (unescape 0 arg).1
  else if conversion = 'c' then bytes (arg.take 1)
  else if conversion = 'd' && arg = [] then bytes ['0']
  else bytes arg

/-- One pass of a format over its arguments: what is written, and the arguments left; `skip`
characters of the format have already been dealt with. -/
def formatOnce (skip : Nat) (args : List (List Char)) :
    List Char → List UInt8 × List (List Char)
  | [] => ([], args)
  | c :: rest =>
    match skip with
    | n + 1 => formatOnce n args rest
    | 0 =>
      let (written, skip, args) : List UInt8 × Nat × List (List Char) :=
        match c, rest with
        | '\\', d :: _ =>
          if isOctal d then ([octal (octalDigits rest)], (octalDigits rest).length, args)
          else ((escaped d).elim (bytes [c, d]) fun b => [b], 1, args)
        | '%', '%' :: _ => (bytes [c], 1, args)
        | '%', conversion :: _ => (convert conversion (args.headD []), 1, args.tail)
        | _, _ => (bytes [c], 0, args)
      let (more, left) := formatOnce skip args rest
      (written ++ more, left)

/-- A format, repeated while it uses arguments up; at most `rounds` times more. -/
def formatAll (format : List Char) : Nat → List (List Char) → List UInt8
  | 0, args => (formatOnce 0 args format).1
  | rounds + 1, args =>
    let (out, left) := formatOnce 0 args format
    if left = [] || left.length = args.length then out else out ++ formatAll format rounds left

/-! ### Running a script -/

/-- The number of a signal named on a command line. -/
def signalNumber (w : List Char) : Option Nat :=
  match (String.ofList w).toNat? with
  | some n => some n
  | none =>
    let name := "SIG" ++ String.ofList w
    (signalNames.find? fun e => e.2 = name || e.2 = String.ofList w).map (·.1)

/-- What a command does. -/
inductive Effect where
  /-- It writes to its outputs and leaves a status. -/
  | write (output : List UInt8) (errors : List UInt8) (status : Nat)
  /-- It ends the script, perhaps with a complaint. -/
  | finish (errors : List UInt8) (ending : Ending)

/-- A complaint of the shell. -/
def complaint (line : Nat) (text : String) : List UInt8 :=
  bytes ("sh: " ++ toString line ++ ": " ++ text ++ "\n").toList

/-- What a command with some words does; `status` is the status of the command before. -/
def effect (line status : Nat) : List (List Char) → Effect
  | [] => .write [] [] status
  | name :: args =>
    match String.ofList name with
    | "echo" =>
      let (args, ending) :=
        if args.head? = some "-n".toList then (args.tail, []) else (args, bytes ['\n'])
      let (text, ended) := unescape 0 ([' '].intercalate args)
      .write (text ++ if ended then [] else ending) [] 0
    | "printf" =>
      match args with
      | [] => .write [] (complaint line "printf: usage: printf format [arg ...]") 2
      | format :: args => .write (formatAll format args.length args) [] 0
    | "exit" =>
      match args with
      | [] => .finish [] (.exit status)
      | n :: _ =>
        if n ≠ [] && n.all Char.isDigit then
          .finish [] (.exit (((String.ofList n).toNat?.getD 0) % 256))
        else
          .finish (complaint line ("exit: Illegal number: " ++ String.ofList n)) (.exit 2)
    | "kill" =>
      let signal :=
        match args with
        | ('-' :: 's' :: []) :: s :: _ => signalNumber s
        | ('-' :: s) :: _ => signalNumber s
        | _ => some 15
      match signal with
      | some n => if args.getLast? = some "$$".toList then .finish [] (.signal n) else .write [] [] 1
      | none => .write [] [] 1
    | "true" | ":" | "cat" => .write [] [] 0
    | "false" => .write [] [] 1
    | other =>
      if name.all (· = '/') then
        .write [] (complaint line (other ++ ": Permission denied")) (if name = [] then 127 else 126)
      else .write [] (complaint line (other ++ ": not found")) 127

/-- Adds bytes to an outcome where a sink leads. -/
def Sink.write (sink : Sink) (b : List UInt8) (o : Outcome) : Outcome :=
  match sink with
  | .output => { o with output := o.output ++ b }
  | .errors => { o with errors := o.errors ++ b }
  | .nowhere => o

/-- Whether a command is run after a status. -/
def Command.isDue (c : Command) (status : Nat) : Bool :=
  match c.after with
  | .onSuccess => status = 0
  | .onFailure => status ≠ 0
  | _ => true

/-- Runs the commands of a line: what they leave, and the last status unless the script has
ended. -/
def runCommands (sofar : Outcome) (status : Nat) : List Command → Outcome × Option Nat
  | [] => (sofar, some status)
  | c :: rest =>
    if !c.isDue status then runCommands sofar status rest
    else
      match effect ((c.words.head?.map (·.line)).getD 0) status (c.words.map (·.chars)) with
      | .finish errors ending => ({ c.errors.write errors sofar with ending }, none)
      | .write output errors status =>
        runCommands (c.errors.write errors (c.output.write output sofar)) status rest

def runLines (sofar : Outcome) (status : Nat) : List Line → Outcome
  | [] => { sofar with ending := .exit status }
  | .senseless number reason :: _ =>
    { Sink.errors.write (complaint number ("Syntax error: " ++ reason)) sofar with
      ending := .exit 2 }
  | .commands cs :: rest =>
    match runCommands sofar status cs with
    | (o, none) => o
    | (o, some status) => runLines o status rest

/-- The program that runs its input as a script. -/
def shell : Program := fun input =>
  let script := ((String.fromUTF8? ⟨input.toArray⟩).getD "").toList
  let (r, pieces) := Reading.start.readAll script
  let isOpen := r.place = .single || r.place = .double || r.place = .doubleEscape
  runLines ⟨.exit 0, [], []⟩ 0 (lines isOpen r.line (.start .lineEnd) pieces)

end Scribe.Tool
