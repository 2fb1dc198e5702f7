import RouterConf.Plan.Executor

/-!
# The order of a plan

A plan is sorted by priority before it is carried out, and the sort is stable. So a group of actions
that have one priority comes to the executor in the order in which it was planned, whatever else is
in the plan and whatever its priorities are (`filter_sortPlan`): other actions may come between, but
never turn two of the group around.

The executor has no say in this. It is handed one action after the other, also after one that fails
(`Executor.runOrdered_logged`).

Main statements: `filter_sortPlan`, `Executor.handed_eq`.
-/

namespace RouterConf

/-- The file that an action is on. A daemon that is started has its files in its arguments, and the
action itself is on none. -/
def Action.path? : Action → Option Path
  | start _ => none
  | killPidFile pidFile => some pidFile
  | removeFile path => some path

/-- **Actions of one priority keep their order** among any others. -/
theorem filter_sortPlan {plan : List PlannedAction} {group : PlannedAction → Bool} {priority : Int}
    (h : ∀ a ∈ plan, group a = true → a.priority = priority) :
    (sortPlan plan).filter group = plan.filter group := by
  have level : (plan.filter group).Pairwise fun p q => p.precedes q = true := by
    refine List.pairwise_of_forall_mem_list fun p hp q hq => ?_
    obtain ⟨hp, gp⟩ := List.mem_filter.1 hp
    obtain ⟨hq, gq⟩ := List.mem_filter.1 hq
    simp [PlannedAction.precedes, h p hp gp, h q hq gq]
  have kept : (plan.filter group).Sublist (sortPlan plan) :=
    @List.sublist_mergeSort _ PlannedAction.precedes _
      (fun _ _ _ => PlannedAction.precedes_trans) PlannedAction.precedes_total _ level
      List.filter_sublist
  have among := kept.filter group
  simp only [List.filter_filter, Bool.and_self] at among
  -- There are as many of them before and after, so the one list is the other.
  exact (among.eq_of_length ((sortPlan_perm plan).filter group).length_eq.symm).symm

namespace Executor

variable {σ : Type}

/-- To note the actions changes nothing about how they are carried out. -/
theorem runOrdered_logged (execute : Executor σ) (plan : List PlannedAction) (s : σ)
    (seen : List Action) : runOrdered execute.logged plan (s, seen) =
      ((runOrdered execute plan s).1, (runOrdered execute plan s).2,
        seen ++ plan.map (·.action)) := by
  induction plan generalizing s seen with
  | nil => simp [runOrdered]
  | cons a rest ih =>
    cases h : execute a.action s with
    | ok u s' => simp [runOrdered, logged, h, ih]
    | error e s' => simp [runOrdered, logged, h, ih]

/-- The actions of a plan as an executor is handed them, one after the other. -/
def handed (execute : Executor σ) (plan : List PlannedAction) (s : σ) : List Action :=
  (runPlan execute.logged plan (s, [])).2.2

theorem handed_eq (execute : Executor σ) (plan : List PlannedAction) (s : σ) :
    execute.handed plan s = (sortPlan plan).map (·.action) := by
  rw [handed, runPlan, runOrdered_logged, List.nil_append]

end Executor

end RouterConf
