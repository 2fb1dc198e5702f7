import RouterConf.Dnsmasq.Lifecycle
import RouterConf.Proofs.Plan.Order
import RouterConf.Proofs.Plan.System

/-!
# What carrying out a plan amounts to

To carry out a plan is to try all its actions one after the other, each in the state that the one
before it has left, whether that one succeeded or failed (`Executor.Runs`). The order in which they
are tried is fixed by the plan alone: the same actions, in ascending priority, and those of one
priority as they were planned (`Arranges`). There is one such order (`arranges_iff`), so that an
executor has no part in it, however its answers depend on what it was handed before.

The report is read off the attempts. How many succeeded is all that it says about those that did;
those that failed it names, each with its error, in the order in which they were tried.

Main statements: `arranges_iff`, `Executor.exists_runs`, `Executor.runPlan_exact`.
-/

namespace RouterConf

/-! ### The order -/

/-- Priorities ascend, where they differ. -/
def Ascending (plan : List PlannedAction) : Prop :=
  plan.Pairwise fun p q => p.priority ≤ q.priority

/-- To ascend is to be sorted by which action precedes which. -/
theorem ascending_iff {plan : List PlannedAction} :
    Ascending plan ↔ plan.Pairwise fun p q => p.precedes q = true := by
  simp only [Ascending, PlannedAction.precedes, decide_eq_true_eq]

/-- A plan that has been sorted ascends. -/
theorem ascending_sortPlan (plan : List PlannedAction) : Ascending (sortPlan plan) :=
  ascending_iff.2 (sortPlan_sorted plan)

/-- **The stable order of a plan**: its actions, each as often as it was planned, in ascending
priority, and those of any one priority in the order in which they were planned. -/
structure Arranges (plan ordered : List PlannedAction) : Prop where
  perm : ordered.Perm plan
  ascending : Ascending ordered
  stable : ∀ priority : Int,
    ordered.filter (·.priority = priority) = plan.filter (·.priority = priority)

/-- To sort a plan is to arrange it. -/
theorem arranges_sortPlan (plan : List PlannedAction) : Arranges plan (sortPlan plan) where
  perm := sortPlan_perm plan
  ascending := ascending_sortPlan plan
  stable _ := filter_sortPlan fun _ _ h => of_decide_eq_true h

/-- In ascending order, a list is known from what it has of each priority. -/
theorem Ascending.eq_of_filter_eq {l l' : List PlannedAction} (h : Ascending l)
    (h' : Ascending l') (same : ∀ priority : Int,
      l.filter (·.priority = priority) = l'.filter (·.priority = priority)) : l = l' := by
  -- An action is among those of its own priority, so the two lists have the same actions.
  have among : ∀ a, a ∈ l ↔ a ∈ l' := fun a => by
    have := congrArg (a ∈ ·) (same a.priority)
    simpa using this
  induction l generalizing l' with
  | nil =>
    refine (List.eq_nil_iff_forall_not_mem.2 fun a ha => ?_).symm
    exact List.not_mem_nil ((among a).2 ha)
  | cons a l ih =>
    cases l' with
    | nil => exact absurd ((among a).1 List.mem_cons_self) List.not_mem_nil
    | cons b l' =>
      obtain ⟨first, later⟩ := List.pairwise_cons.1 h
      obtain ⟨first', later'⟩ := List.pairwise_cons.1 h'
      -- Each head is somewhere in the other list, and no priority there is below the head's.
      have le : a.priority ≤ b.priority := by
        rcases List.mem_cons.1 ((among b).2 List.mem_cons_self) with rfl | hb
        · exact Int.le_refl _
        · exact first b hb
      have ge : b.priority ≤ a.priority := by
        rcases List.mem_cons.1 ((among a).1 List.mem_cons_self) with rfl | ha
        · exact Int.le_refl _
        · exact first' a ha
      have level : b.priority = a.priority := Int.le_antisymm ge le
      have heads := same a.priority
      rw [List.filter_cons_of_pos (by simp), List.filter_cons_of_pos (by simp [level])] at heads
      obtain ⟨rfl, -⟩ := List.cons.inj heads
      -- With equal heads gone, the rests have the same of each priority.
      have rest : ∀ priority : Int,
          l.filter (·.priority = priority) = l'.filter (·.priority = priority) := by
        intro priority
        have := same priority
        by_cases hp : a.priority = priority
        · rw [List.filter_cons_of_pos (by simp [hp]), List.filter_cons_of_pos (by simp [hp])]
            at this
          exact (List.cons.inj this).2
        · rwa [List.filter_cons_of_neg (by simp [hp]), List.filter_cons_of_neg (by simp [hp])]
            at this
      rw [ih later later' rest fun p => by simpa using congrArg (p ∈ ·) (rest p.priority)]

/-- **A plan has one stable order**, and that is the one into which it is sorted. -/
theorem arranges_iff {plan ordered : List PlannedAction} :
    Arranges plan ordered ↔ ordered = sortPlan plan := by
  constructor
  · intro h
    have sorted := arranges_sortPlan plan
    exact h.ascending.eq_of_filter_eq sorted.ascending fun priority =>
      (h.stable priority).trans (sorted.stable priority).symm
  · rintro rfl
    exact arranges_sortPlan plan

/-- A plan keeps its order just if it is in order already. -/
theorem sortPlan_eq_self_iff {plan : List PlannedAction} :
    sortPlan plan = plan ↔ Ascending plan :=
  ⟨fun h => h ▸ ascending_sortPlan plan, fun h => sortPlan_of_sorted (ascending_iff.1 h)⟩

/-! ### Attempts -/

/-- An action that was tried, and what became of it. -/
abbrev Attempt :=
  PlannedAction × Except ActionError Unit

namespace Attempt

/-- What is reported of an attempt, if it failed. -/
def failure? : Attempt → Option (PlannedAction × ActionError)
  | (_, .ok ()) => none
  | (a, .error e) => some (a, e)

/-- Nothing is reported of an attempt just if it succeeded. -/
theorem failure?_eq_none_iff {attempt : Attempt} :
    attempt.failure? = none ↔ attempt.2 = .ok () := by
  obtain ⟨a, e | u⟩ := attempt <;> simp [failure?]

end Attempt

/-- The report on some attempts. -/
def ExecutionReport.ofAttempts (attempts : List Attempt) : ExecutionReport where
  executed := attempts.countP (·.2.isOk)
  failures := attempts.filterMap Attempt.failure?

/-- A report is one of success just if every attempt was one. -/
theorem ExecutionReport.isSuccess_ofAttempts {attempts : List Attempt} :
    (ofAttempts attempts).isSuccess = true ↔ ∀ attempt ∈ attempts, attempt.2 = .ok () := by
  simp only [isSuccess, ofAttempts, List.isEmpty_iff, List.filterMap_eq_nil_iff,
    Attempt.failure?_eq_none_iff]

namespace Executor

variable {σ : Type}

/-- **A run**: actions are tried one after the other, each in the state that was left before. -/
inductive Runs (execute : Executor σ) : σ → List Attempt → σ → Prop where
  | nil (s : σ) : Runs execute s [] s
  | done {a : PlannedAction} {s s₁ s' : σ} {attempts : List Attempt}
      (h : execute a.action s = .ok () s₁) (later : Runs execute s₁ attempts s') :
      Runs execute s ((a, .ok ()) :: attempts) s'
  | failed {a : PlannedAction} {e : ActionError} {s s₁ s' : σ} {attempts : List Attempt}
      (h : execute a.action s = .error e s₁) (later : Runs execute s₁ attempts s') :
      Runs execute s ((a, .error e) :: attempts) s'

/-- Every action of a list is tried in its turn, and the report is about all of them. -/
theorem exists_runs (execute : Executor σ) (plan : List PlannedAction) (s : σ) :
    ∃ attempts, execute.Runs s attempts (runOrdered execute plan s).2 ∧
      attempts.map Prod.fst = plan ∧
      (runOrdered execute plan s).1 = .ofAttempts attempts := by
  -- What comes after an action starts from the state that it leaves, also where it fails.
  induction plan generalizing s with
  | nil => exact ⟨[], .nil s, rfl, rfl⟩
  | cons a rest ih =>
    cases ha : execute a.action s with
    | ok u s₁ =>
      obtain ⟨attempts, runs, tried, report⟩ := ih s₁
      rw [runOrdered_cons_ok ha, report]
      refine ⟨_, .done ha runs, by rw [List.map_cons, tried], ?_⟩
      rw [ExecutionReport.ofAttempts, ExecutionReport.ofAttempts, List.countP_cons_of_pos rfl]
      rfl
    | error e s₁ =>
      obtain ⟨attempts, runs, tried, report⟩ := ih s₁
      rw [runOrdered_cons_error ha, report]
      refine ⟨_, .failed ha runs, by rw [List.map_cons, tried], ?_⟩
      rw [ExecutionReport.ofAttempts, ExecutionReport.ofAttempts,
        List.countP_cons_of_neg (by simp [Except.isOk, Except.toBool])]
      rfl

/-- The actions of a plan determine the run, as they determine where it leads. -/
theorem Runs.unique {execute : Executor σ} {s s₁ s₂ : σ} {attempts others : List Attempt}
    (h : execute.Runs s attempts s₁) (h' : execute.Runs s others s₂)
    (same : attempts.map Prod.fst = others.map Prod.fst) : attempts = others ∧ s₁ = s₂ := by
  induction h generalizing others with
  | nil s =>
    cases h' with
    | nil => exact ⟨rfl, rfl⟩
    | done => cases same
    | failed => cases same
  | done ha _ ih =>
    cases h' with
    | nil => cases same
    | done hb later =>
      obtain ⟨rfl, rest⟩ := List.cons.inj same
      -- One action in one state cannot both succeed and fail, so the runs stay together.
      cases ha.symm.trans hb
      obtain ⟨rfl, rfl⟩ := ih later rest
      exact ⟨rfl, rfl⟩
    | failed hb later =>
      obtain ⟨rfl, rest⟩ := List.cons.inj same
      cases ha.symm.trans hb
  | failed ha _ ih =>
    cases h' with
    | nil => cases same
    | done hb later =>
      obtain ⟨rfl, rest⟩ := List.cons.inj same
      cases ha.symm.trans hb
    | failed hb later =>
      obtain ⟨rfl, rest⟩ := List.cons.inj same
      cases ha.symm.trans hb
      obtain ⟨rfl, rfl⟩ := ih later rest
      exact ⟨rfl, rfl⟩

/-- **What carrying out a plan is**: the one run that tries its actions in their stable order, and
the report on it. -/
theorem runPlan_eq_iff {execute : Executor σ} {plan : List PlannedAction} {s s' : σ}
    {report : ExecutionReport} : runPlan execute plan s = (report, s') ↔
      ∃ attempts, execute.Runs s attempts s' ∧ Arranges plan (attempts.map Prod.fst) ∧
        report = .ofAttempts attempts := by
  obtain ⟨attempts, runs, tried, about⟩ := exists_runs execute (sortPlan plan) s
  simp only [arranges_iff, runPlan]
  constructor
  · intro h
    rw [h] at runs about
    exact ⟨attempts, runs, tried, about⟩
  · rintro ⟨others, runs', tried', rfl⟩
    obtain ⟨rfl, rfl⟩ := runs.unique runs' (tried.trans tried'.symm)
    rw [← about]

/-- **Every action is tried once, in the stable order, whatever fails.** There is a run of a plan,
and of any state an executor may have, in which the actions of the plan are tried in their stable
order; the executor is handed these and no others. As many succeed as the report says, and those
that fail are the ones that it names, with their errors, in the order of the run. So together they
are as many as were planned, and success is that none fails. A plan is tried in its own order just
if it ascends, as the plans of a cycle and of a teardown do. -/
theorem runPlan_exact (execute : Executor σ) (plan : List PlannedAction) (s : σ) :
    (∃ attempts : List Attempt,
      execute.Runs s attempts (runPlan execute plan s).2 ∧
      Arranges plan (attempts.map Prod.fst) ∧
      execute.handed plan s = attempts.map (·.1.action) ∧
      (runPlan execute plan s).1.executed = attempts.countP (·.2.isOk) ∧
      (runPlan execute plan s).1.failures = attempts.filterMap Attempt.failure? ∧
      (runPlan execute plan s).1.executed + (runPlan execute plan s).1.failures.length =
        plan.length ∧
      ((runPlan execute plan s).1.isSuccess = true ↔
        ∀ attempt ∈ attempts, attempt.2 = .ok ()) ∧
      (attempts.map Prod.fst = plan ↔ Ascending plan)) ∧
    ∀ (c : Compiler) (now : Timestamp) (x : SectionIndex) (st : ApplyState),
      Ascending (c.applyAll now x st).1.actions ∧ Ascending (c.revertAll st x).actions := by
  refine ⟨?_, fun c now x st => ⟨ascending_sortPlan _, ascending_sortPlan _⟩⟩
  obtain ⟨attempts, runs, arranged, (report : (runPlan execute plan s).1 = .ofAttempts attempts)⟩ :=
    runPlan_eq_iff.1 (Eq.refl (runPlan execute plan s))
  have tried : attempts.map Prod.fst = sortPlan plan := arranges_iff.1 arranged
  -- Sorting loses no action, and each is either counted or reported.
  have total : (runPlan execute plan s).1.total = plan.length := by
    rw [runPlan, ExecutionReport.total_runOrdered, (sortPlan_perm plan).length_eq]
  refine ⟨attempts, runs, arranged, ?_, by rw [report]; rfl, by rw [report]; rfl, total, ?_, ?_⟩
  · rw [handed_eq, ← tried, List.map_map]
    rfl
  · rw [report, ExecutionReport.isSuccess_ofAttempts]
  · rw [tried, sortPlan_eq_self_iff]

end Executor

end RouterConf
