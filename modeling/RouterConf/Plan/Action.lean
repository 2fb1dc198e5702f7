import RouterConf.Files.Path
import RouterConf.Record.Basic

/-!
# Planned actions

What is to be done to processes and files is planned as a list of actions first. Every action has a
priority and the section that it is for. Actions are carried out in ascending priority; those of one
priority keep the order in which they were planned.

Main statements: `sortPlan_perm`, `sortPlan_sorted`, `sortPlan_of_sorted`.
-/

namespace RouterConf

inductive Action where
  | start (argv : List String)
  /-- Ask the process whose number is in a file to end. -/
  | killPidFile (pidFile : Path)
  | removeFile (path : Path)
  deriving DecidableEq, Repr, Inhabited

namespace Action

def text : Action → String
  | start argv => "start " ++ " ".intercalate argv
  | killPidFile pidFile => "kill pid from " ++ pidFile
  | removeFile path => "remove " ++ path

def tag : Action → String
  | start _ => "start"
  | killPidFile _ => "kill_pid_file"
  | removeFile _ => "remove_file"

def json (a : Action) : Json :=
  let detail := match a with
    | start argv => ("argv", Json.list (argv.map .ofText))
    | killPidFile pidFile => ("pid_file", .ofText pidFile)
    | removeFile path => ("path", .ofText path)
  .ofFields [("type", .ofText a.tag), detail]

end Action

/-- An action with its priority and the section that it is for. -/
structure PlannedAction where
  priority : Int
  owner : SectionId
  action : Action
  deriving DecidableEq, Repr, Inhabited

namespace PlannedAction

def json (p : PlannedAction) : Json :=
  .ofFields [("priority", .ofInt p.priority), ("owner", p.owner.json), ("action", p.action.json)]

/-- Whether one action may come before another. -/
def precedes (p q : PlannedAction) : Bool :=
  p.priority ≤ q.priority

theorem precedes_trans {p q r : PlannedAction} (h : p.precedes q = true)
    (h' : q.precedes r = true) : p.precedes r = true := by
  simp only [precedes, decide_eq_true_eq] at *
  omega

theorem precedes_total (p q : PlannedAction) : (p.precedes q || q.precedes p) = true := by
  simp only [precedes, Bool.or_eq_true, decide_eq_true_eq]
  omega

end PlannedAction

/-- Actions in the order in which they are carried out. -/
def sortPlan (plan : List PlannedAction) : List PlannedAction :=
  plan.mergeSort PlannedAction.precedes

/-- Every action is kept as often as it was planned. -/
theorem sortPlan_perm (plan : List PlannedAction) : (sortPlan plan).Perm plan :=
  List.mergeSort_perm plan _

/-- Priorities ascend. -/
theorem sortPlan_sorted (plan : List PlannedAction) :
    (sortPlan plan).Pairwise fun p q => p.precedes q = true :=
  @List.pairwise_mergeSort _ PlannedAction.precedes (fun _ _ _ => PlannedAction.precedes_trans)
    PlannedAction.precedes_total plan

/-- A list that is in order stays as it is. -/
theorem sortPlan_of_sorted {plan : List PlannedAction}
    (h : plan.Pairwise fun p q => p.precedes q = true) : sortPlan plan = plan :=
  List.mergeSort_of_pairwise h

/-- Actions of one priority keep the order in which they were planned. -/
theorem sortPlan_of_priority {plan : List PlannedAction} {priority : Int}
    (h : ∀ a ∈ plan, a.priority = priority) : sortPlan plan = plan := by
  refine sortPlan_of_sorted (List.pairwise_of_forall_mem_list fun p hp q hq => ?_)
  simp [PlannedAction.precedes, h p hp, h q hq]

@[simp] theorem sortPlan_sortPlan (plan : List PlannedAction) :
    sortPlan (sortPlan plan) = sortPlan plan :=
  sortPlan_of_sorted (sortPlan_sorted plan)

end RouterConf
