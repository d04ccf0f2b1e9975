/-!
# Programs

A program reads its whole input and ends, leaving what it wrote to its output and its error
output.  That is all that a formatter outside this library is to it, so a program is a function.
-/

namespace Scribe.Tool

/-- How a program ends. -/
inductive Ending where
  | exit (code : Nat)
  | signal (number : Nat)
  deriving Repr, DecidableEq

/-- The names of the signals, by number. -/
def signalNames : List (Nat × String) := [
  (1, "SIGHUP"), (2, "SIGINT"), (3, "SIGQUIT"), (4, "SIGILL"), (5, "SIGTRAP"), (6, "SIGABRT"),
  (7, "SIGBUS"), (8, "SIGFPE"), (9, "SIGKILL"), (10, "SIGUSR1"), (11, "SIGSEGV"),
  (12, "SIGUSR2"), (13, "SIGPIPE"), (14, "SIGALRM"), (15, "SIGTERM"), (16, "SIGSTKFLT"),
  (17, "SIGCHLD"), (18, "SIGCONT"), (19, "SIGSTOP"), (20, "SIGTSTP"), (21, "SIGTTIN"),
  (22, "SIGTTOU"), (23, "SIGURG"), (24, "SIGXCPU"), (25, "SIGXFSZ"), (26, "SIGVTALRM"),
  (27, "SIGPROF"), (28, "SIGWINCH"), (29, "SIGIO"), (30, "SIGPWR"), (31, "SIGSYS")]

def Ending.message : Ending → String
  | .exit code => "exit status: " ++ toString code
  | .signal number =>
    "signal: " ++ toString number ++
      (match signalNames.lookup number with
        | some name => " (" ++ name ++ ")"
        | none => "")

/-- Whether a program did what it was asked to. -/
def Ending.succeeded (e : Ending) : Bool := e = .exit 0

/-- What a program leaves. -/
structure Outcome where
  ending : Ending
  output : List UInt8
  errors : List UInt8
  deriving Repr, DecidableEq

/-- What a program does with its input. -/
abbrev Program := List UInt8 → Outcome

/-- The program that writes its input out. -/
def copy : Program := fun input => ⟨.exit 0, input, []⟩

end Scribe.Tool
