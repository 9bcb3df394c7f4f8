import ReportBinding.Files.Basic

/-!
# External programs

A host runs programs.  Seen from here a program is a function of its arguments
and the file system: it may change files, and it ends in some way, with the
bytes that it wrote.  A program that cannot be started is a fault instead, and
leaves the file system as it was.
-/

namespace ReportBinding
namespace Program

/-- How a program came to its end. -/
inductive Status where
  /-- By itself, with an exit status.  Zero means success. -/
  | exited (code : Nat)
  /-- By a signal.  The second value says whether its memory was dumped. -/
  | signaled (signal : Nat) (dumped : Bool)
deriving DecidableEq, Repr

/-- The names of signals, from the first on. -/
def signalNames : List String :=
  ["SIGHUP", "SIGINT", "SIGQUIT", "SIGILL", "SIGTRAP", "SIGABRT", "SIGBUS",
    "SIGFPE", "SIGKILL", "SIGUSR1", "SIGSEGV", "SIGUSR2", "SIGPIPE", "SIGALRM",
    "SIGTERM", "SIGSTKFLT", "SIGCHLD", "SIGCONT", "SIGSTOP", "SIGTSTP",
    "SIGTTIN", "SIGTTOU", "SIGURG", "SIGXCPU", "SIGXFSZ", "SIGVTALRM",
    "SIGPROF", "SIGWINCH", "SIGIO", "SIGPWR", "SIGSYS"]

/-- The wording of a signal: its number, and its name if it has one. -/
def signalText : Nat → String
  | 0 => "0"
  | index + 1 =>
      match signalNames[index]? with
      | some name => toString (index + 1) ++ " (" ++ name ++ ")"
      | none => toString (index + 1)

/-- The wording of a status. -/
def Status.text : Status → String
  | .exited code => "exit status: " ++ toString code
  | .signaled signal dumped =>
      "signal: " ++ signalText signal ++
        if dumped then " (core dumped)" else ""

/-- The number that a shell has for a status. -/
def Status.number : Status → Nat
  | .exited code => code
  | .signaled signal _ => 128 + signal

/-- How a program ended. -/
structure Outcome where
  status : Status
  /-- What was written to the standard output. -/
  output : Bytes
  /-- What was written to the standard error. -/
  errors : Bytes
deriving DecidableEq, Repr

/-- Whether the program reports success. -/
def Outcome.succeeded (outcome : Outcome) : Bool :=
  outcome.status == .exited 0

/-- The wording of the status that a program ended with. -/
def Outcome.statusText (outcome : Outcome) : String :=
  outcome.status.text

/-- A host, as what it does with a program name, arguments and files. -/
abbrev Host :=
  HostText → List HostText → FileSystem →
    Except Files.Fault (Outcome × FileSystem)

end Program
end ReportBinding
