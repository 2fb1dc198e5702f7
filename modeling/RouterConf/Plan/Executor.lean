import RouterConf.Files.Change
import RouterConf.Host.Basic
import RouterConf.Plan.Action

/-!
# Carrying out a plan

An executor carries out one action at a time and has a state of its own. A plan is run through an
executor to its end whatever fails; the report says how many actions succeeded and which failed.

Main statements: `ExecutionReport.total_runOrdered`, `runPlan_sortPlan`.
-/

namespace RouterConf

inductive ActionError where
  | io (fault : FileFault)
  | emptyCommand
  | spawn (program : String) (cause : OsError)
  /-- A program did not end well. -/
  | exitStatus (program : String) (status : ExitStatus)
  /-- A file does not hold the number of a process. -/
  | invalidPid (path : Path) (contents : String)
  | signal (pid : Nat) (cause : OsError)
  deriving DecidableEq, Repr

def ActionError.message : ActionError → String
  | io fault => fault.message
  | emptyCommand => "start action has an empty command line"
  | spawn program cause => "failed to spawn " ++ program ++ ": " ++ cause.message
  | exitStatus program status => program ++ " exited with " ++ status.message
  | invalidPid path contents =>
    "pid file " ++ path ++ " does not contain a process id: " ++ Text.quoted contents
  | signal pid cause => "failed to signal process " ++ toString pid ++ ": " ++ cause.message

/-- Carries out single actions on a state. -/
abbrev Executor (σ : Type) :=
  Action → EStateM ActionError σ Unit

namespace Executor

def idle {σ : Type} : Executor σ :=
  fun _ => pure ()

/-- Fails the actions that a test picks, before anything is done. -/
def refusing {σ : Type} (picks : Action → Bool) (execute : Executor σ) : Executor σ := fun a =>
  if picks a then throw .emptyCommand else execute a

/-- Notes the actions in the order in which they arrive. -/
def logged {σ : Type} (execute : Executor σ) : Executor (σ × List Action) := fun a (s, seen) =>
  match execute a s with
  | .ok () s' => .ok () (s', seen ++ [a])
  | .error e s' => .error e (s', seen ++ [a])

end Executor

structure ExecutionReport where
  executed : Nat := 0
  /-- The actions that failed, in the order in which they were tried. -/
  failures : List (PlannedAction × ActionError) := []
  deriving DecidableEq, Repr, Inhabited

namespace ExecutionReport

def isSuccess (r : ExecutionReport) : Bool :=
  r.failures.isEmpty

def total (r : ExecutionReport) : Nat :=
  r.executed + r.failures.length

end ExecutionReport

def runOrdered {σ : Type} (execute : Executor σ) : List PlannedAction → σ → ExecutionReport × σ
  | [], s => ({}, s)
  | a :: rest, s =>
    match execute a.action s with
    | .ok () s' =>
      let (report, s'') := runOrdered execute rest s'
      ({ report with executed := report.executed + 1 }, s'')
    | .error e s' =>
      let (report, s'') := runOrdered execute rest s'
      ({ report with failures := (a, e) :: report.failures }, s'')

/-- Every action is tried once. -/
theorem ExecutionReport.total_runOrdered {σ : Type} (execute : Executor σ)
    (plan : List PlannedAction) (s : σ) : (runOrdered execute plan s).1.total = plan.length := by
  induction plan generalizing s with
  | nil => rfl
  | cons a rest ih =>
    simp only [runOrdered]
    split
    · rename_i s' _
      have := ih s'
      simp only [total, List.length_cons] at *
      omega
    · rename_i e s' _
      have := ih s'
      simp only [total, List.length_cons] at *
      omega

/-- Carries out a plan in ascending priority. -/
def runPlan {σ : Type} (execute : Executor σ) (plan : List PlannedAction) (s : σ) :
    ExecutionReport × σ :=
  runOrdered execute (sortPlan plan) s

/-- A plan in order is carried out in the order of the list. -/
@[simp] theorem runPlan_sortPlan {σ : Type} (execute : Executor σ) (plan : List PlannedAction)
    (s : σ) : runPlan execute (sortPlan plan) s = runPlan execute plan s := by
  simp [runPlan]

end RouterConf
