import RouterConf.Files.Access

/-!
# Hosts

A host runs programs and delivers signals. What it does is a parameter of all that is carried out on
it; a machine is the state that an action may change: its files and the processes signalled so far.
-/

namespace RouterConf

inductive ExitStatus where
  | code (n : Nat)
  | signal (n : Nat)
  deriving DecidableEq, Repr, Inhabited

namespace ExitStatus

/-- The names of the signals in the order of their numbers, from one. -/
def signalNames : List String :=
  ["SIGHUP", "SIGINT", "SIGQUIT", "SIGILL", "SIGTRAP", "SIGABRT", "SIGBUS", "SIGFPE", "SIGKILL",
    "SIGUSR1", "SIGSEGV", "SIGUSR2", "SIGPIPE", "SIGALRM", "SIGTERM"]

def message : ExitStatus → String
  | code n => "exit status: " ++ toString n
  | signal n =>
    let label := match n with
      | 0 => none
      | i + 1 => signalNames[i]?
    match label with
    | some name => "signal: " ++ toString n ++ " (" ++ name ++ ")"
    | none => "signal: " ++ toString n

def isSuccess : ExitStatus → Bool
  | code n => n = 0
  | signal _ => false

end ExitStatus

inductive Delivery where
  | delivered
  | absent
  | refused (cause : OsError)
  deriving DecidableEq, Repr, Inhabited

/-- What programs do and what becomes of signals. -/
structure Host where
  /-- Runs a program with arguments until it ends, and yields the files after it. -/
  spawn : (program : String) → (arguments : List String) → FileTree →
    Except OsError ExitStatus × FileTree
  terminate : (pid : Nat) → Delivery

/-- The files of a host and the processes that were asked to end, in order. -/
structure Machine where
  files : FileTree
  signalled : List Nat := []
  deriving Inhabited

end RouterConf
