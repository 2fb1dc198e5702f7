import RouterConf.Plan.System
import RouterConf.Proofs.Files.Changes

/-!
# Actions on a machine

What the actions of a teardown do to a machine. Asking a process to end changes no file; removing a
file succeeds whether or not the file is there. A plan of such actions that all succeed takes away
the files that it names, and nothing else.

Main statements: `mem_of_mem_failures`, `runPlan_keeps`, `Executor.killPidFile_cases`,
`Executor.removeFile_of_denotes`, `Executor.Leaves.start`, `Executor.pathExists_of_succeeded`.
-/

namespace RouterConf

/-! ### One action after the other -/

section Steps

variable {σ : Type} {execute : Executor σ} {a : PlannedAction} {s s' : σ}

/-- An action that succeeds is counted, and the rest is tried in the state that it leaves. -/
theorem runOrdered_cons_ok (h : execute a.action s = .ok () s') (rest : List PlannedAction) :
    runOrdered execute (a :: rest) s =
      ({ (runOrdered execute rest s').1 with
          executed := (runOrdered execute rest s').1.executed + 1 },
        (runOrdered execute rest s').2) := by
  rw [runOrdered, h]

/-- One that fails is reported, and the rest is tried all the same. -/
theorem runOrdered_cons_error {e : ActionError} (h : execute a.action s = .error e s')
    (rest : List PlannedAction) :
    runOrdered execute (a :: rest) s =
      ({ (runOrdered execute rest s').1 with
          failures := (a, e) :: (runOrdered execute rest s').1.failures },
        (runOrdered execute rest s').2) := by
  rw [runOrdered, h]

/-- If nothing failed, then the first action succeeded, and nothing failed after it. -/
theorem runOrdered_cons_succeeded {rest : List PlannedAction}
    (h : (runOrdered execute (a :: rest) s).1.failures = []) :
    ∃ s', execute a.action s = .ok () s' ∧ (runOrdered execute rest s').1.failures = [] ∧
      (runOrdered execute (a :: rest) s).2 = (runOrdered execute rest s').2 := by
  cases ha : execute a.action s with
  | ok u s' =>
    rw [runOrdered_cons_ok ha] at h ⊢
    exact ⟨s', rfl, h, rfl⟩
  | error e s' =>
    rw [runOrdered_cons_error ha] at h
    cases h

/-- The actions that failed are some of those that were tried, in the order in which they were. -/
theorem failures_runOrdered_sublist (execute : Executor σ) (plan : List PlannedAction) (s : σ) :
    ((runOrdered execute plan s).1.failures.map Prod.fst).Sublist plan := by
  induction plan generalizing s with
  | nil => exact .slnil
  | cons a rest ih =>
    cases h : execute a.action s with
    | ok u s' =>
      rw [runOrdered_cons_ok h]
      exact (ih s').cons a
    | error e s' =>
      rw [runOrdered_cons_error h]
      exact (ih s').cons_cons a

/-- What fails when a plan is carried out is an action of the plan. -/
theorem mem_of_mem_failures {report : ExecutionReport} {plan : List PlannedAction}
    (h : runPlan execute plan s = (report, s')) {f : PlannedAction × ActionError}
    (hf : f ∈ report.failures) : f.1 ∈ plan := by
  have tried := failures_runOrdered_sublist execute (sortPlan plan) s
  rw [runPlan] at h
  rw [h] at tried
  exact (sortPlan_perm plan).mem_iff.1 (tried.subset (List.mem_map_of_mem hf))

/-- An action is tried, and leaves a state whether it succeeds or fails. -/
def Executor.Leaves (execute : Executor σ) (a : Action) (s s' : σ) : Prop :=
  execute a s = .ok () s' ∨ ∃ e, execute a s = .error e s'

/-- What every action of a plan keeps is kept by the plan, whichever of them fail. -/
theorem runOrdered_keeps {P : σ → Prop} {plan : List PlannedAction}
    (step : ∀ a ∈ plan, ∀ s s', execute.Leaves a.action s s' → P s → P s') (h : P s) :
    P (runOrdered execute plan s).2 := by
  induction plan generalizing s with
  | nil => exact h
  | cons a rest ih =>
    have first := step a List.mem_cons_self s
    have later := fun a ha => step a (List.mem_cons_of_mem _ ha)
    -- Whether it fails or not, an action is passed over by those that come after it.
    cases ha : execute a.action s with
    | ok u s' =>
      rw [runOrdered_cons_ok ha]
      exact ih later (first s' (.inl ha) h)
    | error e s' =>
      rw [runOrdered_cons_error ha]
      exact ih later (first s' (.inr ⟨e, ha⟩) h)

/-- The order in which the actions are tried makes no difference to that. -/
theorem runPlan_keeps {P : σ → Prop} {plan : List PlannedAction}
    (step : ∀ a ∈ plan, ∀ s s', execute.Leaves a.action s s' → P s → P s') (h : P s) :
    P (runPlan execute plan s).2 :=
  runOrdered_keeps (fun a ha => step a ((sortPlan_perm plan).mem_iff.1 ha)) h

end Steps

/-! ### Actions on a machine -/

namespace Executor

variable {m : Machine} {p : Path} {l : Location}

/-- A process that is asked to end is remembered, whatever becomes of it. -/
theorem terminate_cases (host : Host) (pid : Nat) (m : Machine) : ∃ signalled,
    terminate host pid m = .ok () ⟨m.files, signalled⟩ ∨
      ∃ e, terminate host pid m = .error e ⟨m.files, signalled⟩ := by
  refine ⟨m.signalled ++ [pid], ?_⟩
  unfold terminate
  cases host.terminate pid with
  | delivered => exact .inl rfl
  | absent => exact .inl rfl
  | refused cause => exact .inr ⟨_, rfl⟩

/-- **Asking a process to end changes no file**, whatever becomes of it. -/
theorem killPidFile_cases (host : Host) (p : Path) (m : Machine) : ∃ signalled,
    killPidFile host p m = .ok () ⟨m.files, signalled⟩ ∨
      ∃ e, killPidFile host p m = .error e ⟨m.files, signalled⟩ := by
  unfold killPidFile
  split
  · exact ⟨m.signalled, .inl rfl⟩
  · exact ⟨m.signalled, .inr ⟨_, rfl⟩⟩
  · split
    · exact ⟨m.signalled, .inr ⟨_, rfl⟩⟩
    · exact terminate_cases host _ m

/-- **A file is removed** from where its path leads, if there is one. -/
theorem removeFile_of_denotes (host : Host) (hd : m.files.Denotes p l)
    (hn : m.files.get? l ≠ some .directory) :
    ∃ t, system host (.removeFile p) m = .ok () ⟨t, m.signalled⟩ ∧ m.files.Without [l] t := by
  obtain ⟨t, removed, without⟩ := Change.removeIfPresent_of_denotes hd hn
  refine ⟨t, ?_, without⟩
  simp only [system, onFiles, removed]

/-! What an action leaves of the files, whether it succeeds or fails. -/

/-- Asking a process to end leaves the files as they are. -/
theorem Leaves.killPidFile {host : Host} {m' : Machine}
    (h : (system host).Leaves (.killPidFile p) m m') : m'.files = m.files := by
  obtain ⟨signalled, same⟩ := killPidFile_cases host p m
  rcases h with h | ⟨e, h⟩ <;> change Executor.killPidFile host p m = _ at h <;>
    rcases same with same | ⟨e', same⟩ <;> rw [same] at h <;> cases h <;> rfl

/-- Removing a file leaves what the removal leaves, and a failure to remove nothing else. -/
theorem Leaves.removeFile {host : Host} {m' : Machine}
    (h : (system host).Leaves (.removeFile p) m m') :
    Change.removeIfPresent p m.files = .ok () m'.files ∨ m'.files = m.files := by
  rcases h with h | ⟨e, h⟩ <;> simp only [system, onFiles] at h <;> split at h <;> cases h
  · exact .inl ‹_›
  · exact .inr (Change.removeIfPresent_error ‹_›)

/-- A program that is started is the only thing that may change files as it likes. -/
theorem Leaves.start {host : Host} {argv : List String} {m' : Machine}
    (h : (system host).Leaves (.start argv) m m') : m'.files = m.files ∨
      ∃ program arguments, argv = program :: arguments ∧
        m'.files = (host.spawn program arguments m.files).2 := by
  unfold Leaves system Executor.start at h
  cases argv with
  | nil =>
    rcases h with h | ⟨e, h⟩ <;> cases h
    exact .inl rfl
  | cons program arguments =>
    dsimp only at h
    split at h
    · rcases h with h | ⟨e, h⟩ <;> cases h
      exact .inl rfl
    · -- A program that was started may have written files before it failed.
      rcases hs : host.spawn program arguments m.files with ⟨e | status, files⟩
      · rw [hs] at h
        rcases h with h | ⟨e, h⟩ <;> cases h
        exact .inr ⟨program, arguments, rfl, by rw [hs]⟩
      · rw [hs] at h
        dsimp only at h
        split at h <;> rcases h with h | ⟨e, h⟩ <;> cases h <;>
          exact .inr ⟨program, arguments, rfl, by rw [hs]⟩

/-! ### Plans that take away -/

/-- What is left where actions only take away and all of them succeed. -/
theorem pathExists_runOrdered {host : Host} {plan : List PlannedAction}
    (takes : ∀ a ∈ plan, ∀ argv, a.action ≠ .start argv)
    (h : (runOrdered (system host) plan m).1.failures = []) (p : Path) :
    (runOrdered (system host) plan m).2.files.pathExists p = true ↔
      m.files.pathExists p = true ∧ ∀ a ∈ plan, ∀ q, a.action = .removeFile q →
        ¬ m.files.SamePlace p q := by
  induction plan generalizing m with
  | nil => simp [runOrdered]
  | cons a rest ih =>
    -- The first action has succeeded, and so have the rest from where it left the files.
    obtain ⟨m₁, first, succeeded, same⟩ := runOrdered_cons_succeeded h
    rw [same, ih (fun a ha => takes a (List.mem_cons_of_mem _ ha)) succeeded, List.forall_mem_cons]
    cases action : a.action with
    | start argv => exact absurd action (takes a List.mem_cons_self argv)
    | killPidFile q =>
      rw [action] at first
      rw [Leaves.killPidFile (.inl first)]
      simp
    | removeFile q =>
      rw [action] at first
      have removed : Change.removeIfPresent q m.files = .ok () m₁.files := by
        simp only [system, onFiles] at first
        split at first <;> cases first
        assumption
      -- Every path leads where it led before the file was removed.
      have touched := (Change.Touches.removeIfPresent (List.mem_singleton_self q)).ok removed
      have places : ∀ q, m₁.files.SamePlace p q ↔ m.files.SamePlace p q := fun q =>
        ⟨fun h => h.of_grows (Change.grows_of_removeIfPresent removed),
          fun h => h.of_grows touched.toGrows⟩
      rw [Change.pathExists_of_removeIfPresent removed]
      simp only [places, Action.removeFile.injEq, forall_eq', and_assoc]

/-- **What a teardown leaves**: if all its actions succeed, then the files are gone that it was to
remove, under whatever path, and nothing else is. -/
theorem pathExists_of_succeeded {host : Host} {plan : List PlannedAction} {m' : Machine}
    {report : ExecutionReport} (takes : ∀ a ∈ plan, ∀ argv, a.action ≠ .start argv)
    (h : runPlan (system host) plan m = (report, m')) (succeeded : report.failures = [])
    (p : Path) : m'.files.pathExists p = true ↔
      m.files.pathExists p = true ∧ ∀ a ∈ plan, ∀ q, a.action = .removeFile q →
        ¬ m.files.SamePlace p q := by
  have among : ∀ a, a ∈ sortPlan plan ↔ a ∈ plan := fun a => (sortPlan_perm plan).mem_iff
  rw [runPlan] at h
  have none_failed : (runOrdered (system host) (sortPlan plan) m).1.failures = [] := by
    rw [h]
    exact succeeded
  have left := pathExists_runOrdered (fun a ha => takes a ((among a).1 ha)) none_failed p
  rw [h] at left
  simpa only [among] using left

end Executor

end RouterConf
