import RouterConf.Proofs.Dnsmasq.Teardown

/-!
# Committing to a teardown

A teardown of many instances is carried out as one plan, in which some actions may fail. Committing
to it forgets the owners of whose actions none failed (`Compiler.dueOwners`), one after the other,
and leaves the others as they are: their records, and with them their part of the plan. So the next
teardown is what is left of this one (`Plan.without`), and can be tried again.

That the records of the instances are different files cannot be left out, and that their paths
differ is not enough (`Compiler.commitRevert_takes_another`).

Main statements: `Compiler.forgetOwners_eq`, `Compiler.revertEach_without`,
`Compiler.revertAll_commitRevert`.
-/

namespace RouterConf

open FileTree (Grows)

/-! ### Parts of a plan -/

/-- What is left of a plan without the part that is for some sections. -/
def Plan.without (p : Plan) (ids : List SectionId) : Plan where
  actions := p.actions.filter (·.owner ∉ ids)
  failures := p.failures.filter (·.1 ∉ ids)

namespace Plan

variable {p : Plan} {ids : List SectionId} {id : SectionId}
  {outcome : Except CompileError (List PlannedAction)}

/-- The outcome of a section is for that section: it is left out with it. -/
theorem without_prepend_of_mem
    (own : ∀ actions, outcome = .ok actions → ∀ a ∈ actions, a.owner = id) (h : id ∈ ids) :
    (p.prepend id outcome).without ids = p.without ids := by
  cases outcome with
  | error e =>
    simp only [prepend, without]
    rw [List.filter_cons_of_neg (by simpa using h)]
  | ok actions =>
    have none : actions.filter (·.owner ∉ ids) = [] :=
      List.filter_eq_nil_iff.2 fun a ha => by simp [own actions rfl a ha, h]
    simp only [prepend, without]
    rw [List.filter_append, none, List.nil_append]

/-- It stays with any other. -/
theorem without_prepend_of_notMem
    (own : ∀ actions, outcome = .ok actions → ∀ a ∈ actions, a.owner = id) (h : id ∉ ids) :
    (p.prepend id outcome).without ids = (p.without ids).prepend id outcome := by
  cases outcome with
  | error e =>
    simp only [prepend, without]
    rw [List.filter_cons_of_pos (by simpa using h)]
  | ok actions =>
    have all : actions.filter (·.owner ∉ ids) = actions :=
      List.filter_eq_self.2 fun a ha => by simp [own actions rfl a ha, h]
    simp only [prepend, without]
    rw [List.filter_append, all]

end Plan

namespace Compiler

variable {c : Compiler} {x : SectionIndex} {s : Section} {st st' st₁ : ApplyState}
  {id : SectionId} {ids kept forgotten : List SectionId} {actions : List PlannedAction}

/-! ### What a teardown consists of -/

/-- A section is torn down with all three actions or with none. -/
theorem revertIfApplied_ok (h : c.revertIfApplied st s = .ok actions) :
    actions = [] ∨ ∃ paths, actions = teardown s.id paths := by
  unfold revertIfApplied isApplied revert at h
  -- It matters first whether there is a record to tear down from, and only then what the section
  -- declares.
  rcases hp : c.recordedPaths st s.id with e | _ | paths
  · simp [hp, bind, Except.bind] at h
  · simp [hp, bind, Except.bind, pure, Except.pure] at h
    exact .inl h
  · rcases hi : instanceOf s with e | d
    · simp [hp, hi, bind, Except.bind, pure, Except.pure] at h
    · simp [hp, hi, bind, Except.bind, pure, Except.pure] at h
      exact .inr ⟨paths, h.symm⟩

/-- All that a section contributes to a teardown is for that section. -/
theorem owner_of_revertIfApplied (h : c.revertIfApplied st s = .ok actions) :
    ∀ a ∈ actions, a.owner = s.id := by
  rcases revertIfApplied_ok h with rfl | ⟨paths, rfl⟩ <;> simp [teardown]

/-- The actions of a teardown are of one priority, and each is for one of the sections. -/
theorem mem_revertEach_actions {ss : List Section} {a : PlannedAction}
    (h : a ∈ (c.revertEach st ss).actions) :
    a.priority = -startPriority ∧ a.owner ∈ ss.map (·.id) := by
  induction ss with
  | nil => cases h
  | cons s rest ih =>
    unfold revertEach Plan.prepend at h
    -- An action of the plan is one of the section at the head or one of the rest.
    have later (h : a ∈ (c.revertEach st rest).actions) :
        a.priority = -startPriority ∧ a.owner ∈ (s :: rest).map (·.id) :=
      ⟨(ih h).1, List.mem_cons_of_mem _ (ih h).2⟩
    split at h
    · rename_i actions hr
      rcases List.mem_append.1 h with h | h
      · rcases revertIfApplied_ok hr with rfl | ⟨paths, rfl⟩
        · cases h
        · refine ⟨?_, List.mem_cons.2 (.inl (owner_of_revertIfApplied hr a h))⟩
          obtain ⟨action, -, rfl⟩ := List.mem_map.1 h
          rfl
      · exact later h
    · exact later h

/-- All actions of a teardown have one priority, so that they stay in the order of loading. -/
theorem revertAll_eq (c : Compiler) (st : ApplyState) (x : SectionIndex) :
    c.revertAll st x = c.revertEach st (x.ofKind .dnsmasq) := by
  rw [revertAll, Plan.sorted, sortPlan_of_priority fun a ha => (mem_revertEach_actions ha).1]

/-- **A teardown after some have been forgotten** is what is left of the one before. -/
theorem revertEach_without {ss : List Section}
    (gone : ∀ id ∈ ids, c.recordedPaths st' id = .ok none)
    (same : ∀ s ∈ ss, s.id ∉ ids → c.recordedPaths st' s.id = c.recordedPaths st s.id) :
    c.revertEach st' ss = (c.revertEach st ss).without ids := by
  induction ss with
  | nil => rfl
  | cons s rest ih =>
    rw [List.forall_mem_cons] at same
    have own : ∀ actions, c.revertIfApplied st s = .ok actions → ∀ a ∈ actions, a.owner = s.id :=
      fun _ => owner_of_revertIfApplied
    unfold revertEach
    rw [ih same.2]
    by_cases h : s.id ∈ ids
    · -- What is not applied any more is not torn down any more.
      have nothing : c.revertIfApplied st' s = .ok [] := by
        rw [revertIfApplied, isApplied, gone s.id h]
        rfl
      rw [nothing, Plan.without_prepend_of_mem own h]
      rfl
    · have alike : c.revertIfApplied st' s = c.revertIfApplied st s := by
        rw [revertIfApplied, revertIfApplied, isApplied, isApplied, revert, revert, same.1 h]
      rw [alike, Plan.without_prepend_of_notMem own h]

/-! ### Forgetting one after the other -/

/-- The owners that are still to be forgotten, each once, in the order of their first actions. -/
def dueOwners (kept forgotten : List SectionId) (actions : List PlannedAction) : List SectionId :=
  ((actions.map (·.owner)).filter fun id => id ∉ kept ∧ id ∉ forgotten).eraseDups

/-- **The loop over the actions** forgets the owners that are due, one after the other. -/
theorem forgetOwners_eq (c : Compiler) (kept forgotten : List SectionId)
    (actions : List PlannedAction) :
    c.forgetOwners kept actions forgotten =
      (forM (dueOwners kept forgotten actions) c.forget >>= fun _ =>
        pure (forgotten ++ dueOwners kept forgotten actions)) := by
  induction actions generalizing forgotten with
  | nil => simp [forgetOwners, dueOwners]
  | cons a rest ih =>
    unfold forgetOwners
    split_ifs with h
    · have due : dueOwners kept forgotten (a :: rest) = dueOwners kept forgotten rest := by
        rw [dueOwners, List.map_cons,
          List.filter_cons_of_neg (by simpa [or_iff_not_imp_left] using h)]
        rfl
      rw [ih, due]
    · -- Once the owner of the first action is forgotten, it is no longer due.
      have due : dueOwners kept forgotten (a :: rest) =
          a.owner :: dueOwners kept (forgotten ++ [a.owner]) rest := by
        rw [dueOwners, List.map_cons, List.filter_cons_of_pos (by simpa [not_or] using h),
          List.eraseDups_cons, List.filter_filter, dueOwners]
        congr 3
        funext id
        by_cases hid : id = a.owner <;> simp [hid]
      rw [due, List.forM_cons, bind_assoc]
      simp only [ih, List.append_assoc, List.singleton_append]

/-- What is gone stays gone when others are forgotten. -/
theorem gone_of_forgetAll (h : forM ids c.forget st = .ok () st')
    (gone : st.applied.get? id = none ∧ c.settings.store.load id st.files = .ok none) :
    st'.applied.get? id = none ∧ c.settings.store.load id st'.files = .ok none := by
  induction ids generalizing st with
  | nil =>
    cases h
    exact gone
  | cons id' rest ih =>
    rw [List.forM_cons] at h
    obtain ⟨_, st₁, h₁, h⟩ := run_bind_eq_ok.1 h
    obtain ⟨removed, memory⟩ := forget_ok h₁
    refine ih h ⟨?_, ?_⟩
    · rw [memory, Applied.get?_erase, gone.1, ite_self]
    · -- The file that is removed may be the record in question or not; neither brings a record
      -- back.
      rcases RecordStore.load_of_remove_cases removed id with same | ⟨none, -⟩
      · rw [same, gone.2]
      · exact none

/-- **All that is forgotten is gone.** -/
theorem forgetAll_gone (h : forM ids c.forget st = .ok () st') :
    ∀ id ∈ ids, st'.applied.get? id = none ∧ c.settings.store.load id st'.files = .ok none := by
  induction ids generalizing st with
  | nil => exact fun id hid => absurd hid List.not_mem_nil
  | cons id rest ih =>
    rw [List.forM_cons] at h
    obtain ⟨_, st₁, h₁, h⟩ := run_bind_eq_ok.1 h
    exact List.forall_mem_cons.2 ⟨gone_of_forgetAll h (gone_of_forget h₁), ih h⟩

/-- **All else is as it was**, if its record is in none of the files that went. -/
theorem forgetAll_spares (h : forM ids c.forget st = .ok () st') (hid : id ∉ ids)
    (own : c.OwnRecord id ids st.files) :
    st'.applied.get? id = st.applied.get? id ∧
      c.settings.store.load id st'.files = c.settings.store.load id st.files := by
  induction ids generalizing st with
  | nil =>
    cases h
    exact ⟨rfl, rfl⟩
  | cons id' rest ih =>
    rw [List.forM_cons] at h
    obtain ⟨_, st₁, h₁, h⟩ := run_bind_eq_ok.1 h
    obtain ⟨removed, memory⟩ := forget_ok h₁
    rw [List.mem_cons, not_or] at hid
    -- Forgetting makes no directory, so that records that were apart still are.
    have own₁ := own.of_grows (Change.grows_of_removeIfPresent removed)
    obtain ⟨later_memory, later_record⟩ := ih h hid.2 (own₁.mono (List.subset_cons_self _ _))
    refine ⟨?_, ?_⟩
    · rw [later_memory, memory, Applied.get?_erase, if_neg hid.1]
    · rcases RecordStore.load_of_remove_cases removed id with same | ⟨-, l, hl, hl'⟩
      · rw [later_record, same]
      · -- Else the record of the other one would have been in that very file.
        exact absurd hl' (own id' List.mem_cons_self (Ne.symm hid.1) l hl)

/-! ### Two instances, of which the second refuses -/

/-- Two instances without options that are remembered. -/
def remembering (m n : String) (t : FileTree) : ApplyState :=
  ⟨t, [m, n].map fun name => (⟨.dnsmasq, name⟩, atHome.paths (.plain name) .plain)⟩

/-- The daemon of an instance cannot be asked to end; all else goes well. -/
def refusingKill (name : String) : Executor FileTree :=
  .refusing (· = .killPidFile (atHome.paths (.plain name) .plain).pid) .idle

/-- How the teardown of two instances goes if the second is refused. -/
def refusal (name : String) : ExecutionReport where
  executed := 5
  failures := [(⟨-startPriority, ⟨.dnsmasq, name⟩,
    .killPidFile (atHome.paths (.plain name) .plain).pid⟩, .emptyCommand)]

/-- The plan of the two instances: all of the first, then all of the second. -/
theorem revertAll_remembering {m n : String} (hne : m ≠ n) (t : FileTree) :
    atHome.revertAll (remembering m n t) (.ofList [.plain m, .plain n]) =
      { actions := teardown ⟨.dnsmasq, m⟩ (atHome.paths (.plain m) .plain) ++
          teardown ⟨.dnsmasq, n⟩ (atHome.paths (.plain n) .plain) } := by
  have other : ((⟨.dnsmasq, n⟩ : SectionId) == ⟨.dnsmasq, m⟩) = false :=
    beq_false_of_ne (by simp [Ne.symm hne])
  have recorded : ∀ name, (name = m ∨ name = n) →
      atHome.recordedPaths (remembering m n t) ⟨.dnsmasq, name⟩ =
        .ok (some (atHome.paths (.plain name) .plain)) := by
    rintro name (rfl | rfl) <;>
      simp [recordedPaths, remembering, Applied.get?, List.lookup_cons, *]
  have torn : ∀ name, (name = m ∨ name = n) →
      atHome.revertIfApplied (remembering m n t) (.plain name) =
        .ok (teardown ⟨.dnsmasq, name⟩ (atHome.paths (.plain name) .plain)) := by
    intro name hname
    have there := recorded name hname
    simp only [revertIfApplied, isApplied, revert, Section.plain, there]
    rfl
  rw [revertAll_eq]
  change Compiler.revertEach _ _ [.plain m, .plain n] = _
  simp only [revertEach, torn m (.inl rfl), torn n (.inr rfl)]
  simp [Plan.prepend, Section.plain]

/-- It is carried out but for one action, which is refused; no file changes. -/
theorem run_refusingKill {m n : String} (hne : m ≠ n)
    (hpid : (atHome.paths (.plain m) .plain).pid ≠ (atHome.paths (.plain n) .plain).pid)
    (t : FileTree) :
    runPlan (refusingKill n)
        (atHome.revertAll (remembering m n t) (.ofList [.plain m, .plain n])).actions t =
      (refusal n, t) := by
  have refused {a : PlannedAction}
      (ha : a.action = .killPidFile (atHome.paths (.plain n) .plain).pid) :
      refusingKill n a.action t = .error .emptyCommand t := by
    simp only [refusingKill, Executor.refusing, ha, decide_true, if_true]
    rfl
  have done {a : PlannedAction}
      (ha : a.action ≠ .killPidFile (atHome.paths (.plain n) .plain).pid) :
      refusingKill n a.action t = .ok () t := by
    simp [refusingKill, Executor.refusing, ha, Executor.idle, pure, EStateM.pure]
  have level : ∀ a ∈ teardown ⟨.dnsmasq, m⟩ (atHome.paths (.plain m) .plain) ++
      teardown ⟨.dnsmasq, n⟩ (atHome.paths (.plain n) .plain), a.priority = -startPriority := by
    simp [teardown]
  -- Six actions are tried in their order, and only the kill of the second instance is refused.
  rw [revertAll_remembering hne, runPlan, sortPlan_of_priority level, teardown_eq, teardown_eq]
  simp only [List.cons_append, List.nil_append]
  rw [runOrdered_cons_ok (done ?_), runOrdered_cons_ok (done ?_), runOrdered_cons_ok (done ?_),
    runOrdered_cons_error (refused ?_), runOrdered_cons_ok (done ?_), runOrdered_cons_ok (done ?_)]
  · rfl
  all_goals simp [hpid]

/-- Committing forgets the first instance only. -/
theorem commitRevert_refusal {m n : String} (hne : m ≠ n) {t : FileTree}
    (h : atHome.forget ⟨.dnsmasq, m⟩ (remembering m n t) = .ok () st') :
    atHome.commitRevert (atHome.revertAll (remembering m n t) (.ofList [.plain m, .plain n]))
      (refusal n) (remembering m n t) = .ok [⟨.dnsmasq, m⟩] st' := by
  have due : dueOwners [⟨.dnsmasq, n⟩] []
      (teardown ⟨.dnsmasq, m⟩ (atHome.paths (.plain m) .plain) ++
        teardown ⟨.dnsmasq, n⟩ (atHome.paths (.plain n) .plain)) = [⟨.dnsmasq, m⟩] := by
    simp [dueOwners, teardown, hne, List.eraseDups_cons]
  have kept : failedOwners (refusal n) = [⟨.dnsmasq, n⟩] := rfl
  rw [revertAll_remembering hne, commitRevert, forgetOwners_eq, kept, due, List.forM_cons]
  exact run_bind_eq_ok.2 ⟨(), st', run_bind_eq_ok.2 ⟨(), st', h, rfl⟩, rfl⟩

/-! ### Committing -/

/-- **How a commit ends** that forgets some identities, between the state `st` and the state `st'`,
after the teardown of an index that was planned as `plan` and went as `report` says. -/
structure Committed (c : Compiler) (x : SectionIndex) (plan : Plan) (report : ExecutionReport)
    (st : ApplyState) (forgotten : List SectionId) (st' : ApplyState) : Prop where
  /-- Only actions of the plan were tried, and so only those can have failed. -/
  failed : ∀ f ∈ report.failures, f.1 ∈ plan.actions
  /-- Those that own actions of which none failed, each once, in the order of first actions. -/
  owners : forgotten =
    ((plan.actions.map (·.owner)).filter (· ∉ failedOwners report)).eraseDups
  gone : ∀ id ∈ forgotten,
    st'.applied.get? id = none ∧ c.settings.store.load id st'.files = .ok none
  spared : ∀ id ∉ forgotten, c.OwnRecord id forgotten st.files →
    st'.applied.get? id = st.applied.get? id ∧
      c.settings.store.load id st'.files = c.settings.store.load id st.files
  next : c.revertAll st' x = plan.without forgotten

/-- **A teardown can be tried again.** The actions of a teardown are carried out by any executor,
which may fail at any of them but leaves the records as they are, and the records of the instances
are different files. If the commit succeeds, it forgets those of whose actions none failed, and no
others; these are gone, and the next teardown is the same without them. -/
theorem revertAll_commitRevert {σ : Type} (c : Compiler) (x : SectionIndex) (st : ApplyState)
    (execute : Executor σ) (files : σ → FileTree) {before after : σ} {report : ExecutionReport}
    (ran : runPlan execute (c.revertAll st x).actions before = (report, after))
    (kept : ∀ id, c.settings.store.load id (files after) = c.settings.store.load id st.files)
    (apart : c.RecordsApart ((x.ofKind .dnsmasq).map (·.id)) (files after))
    (h : c.commitRevert (c.revertAll st x) report ⟨files after, st.applied⟩ = .ok forgotten st') :
    c.Committed x (c.revertAll st x) report ⟨files after, st.applied⟩ forgotten st' := by
  rw [commitRevert, forgetOwners_eq] at h
  obtain ⟨_, st₁, all, h⟩ := run_bind_eq_ok.1 h
  cases h
  have owners : dueOwners (failedOwners report) [] (c.revertAll st x).actions =
      (((c.revertAll st x).actions.map (·.owner)).filter
        (· ∉ failedOwners report)).eraseDups := by
    simp [dueOwners]
  rw [List.nil_append]
  -- From here on only which sections are due matters, and not how they are computed.
  generalize dueOwners (failedOwners report) [] (c.revertAll st x).actions = due at owners all
  -- Only instances of the index own actions, so the records of those that are due are apart.
  have sections : ∀ id ∈ due, id ∈ (x.ofKind .dnsmasq).map (·.id) := by
    intro id hid
    rw [owners, List.mem_eraseDups, List.mem_filter] at hid
    obtain ⟨a, ha, rfl⟩ := List.mem_map.1 hid.1
    rw [revertAll_eq] at ha
    exact (mem_revertEach_actions ha).2
  refine ⟨fun f => mem_of_mem_failures ran, owners, forgetAll_gone all,
    fun id => forgetAll_spares all, ?_⟩
  rw [revertAll_eq, revertAll_eq]
  refine revertEach_without (fun id hid => ?_) fun s hs hdue => ?_
  · obtain ⟨memory, record⟩ := forgetAll_gone all id hid
    -- Neither remembered nor recorded: such a section is not applied.
    rw [recordedPaths, memory, record]
    rfl
  · have own : c.OwnRecord s.id due (files after) := fun id' hid' hne =>
      apart s.id (List.mem_map_of_mem hs) id' (sections id' hid') (Ne.symm hne)
    obtain ⟨memory, record⟩ := forgetAll_spares all hdue own
    rw [recordedPaths, recordedPaths, memory, record, kept]

/-- Two instances are taken down, and the second daemon cannot be asked to end: only the first is
forgotten, and the next teardown is that of the second. -/
theorem revertAll_commitRevert_refused :
    let index := SectionIndex.ofList [.plain "m", .plain "n"]
    let st := remembering "m" "n" { home := [], entries := [] }
    ∃ st', atHome.commitRevert (atHome.revertAll st index) (refusal "n") st =
        .ok [⟨.dnsmasq, "m"⟩] st' ∧
      atHome.revertAll st' index =
        { actions := teardown ⟨.dnsmasq, "n"⟩ (atHome.paths (.plain "n") .plain) } := by
  intro index st
  have different : "m" ≠ "n" := by decide
  have ran := run_refusingKill different (by decide) st.files
  have forgot := commitRevert_refusal different (t := st.files) rfl
  have committed := revertAll_commitRevert atHome index st (refusingKill "n") (fun t => t) ran
    (fun _ => rfl) (recordsApart_of_slashless _ (by decide) _) forgot
  -- Without the actions of the first, those of the second are left.
  have left := congrArg (Plan.without · [⟨.dnsmasq, "m"⟩])
    (revertAll_remembering different st.files)
  exact ⟨_, forgot, committed.next.trans left⟩

/-- A tree with the record of an instance whose name leads through a directory among the records. -/
def recordShared : FileTree where
  home := []
  entries := [(["state"], .directory), (["state", "dnsmasq-x"], .directory),
    (["state", "dnsmasq-m.json"], .file (.text (ApplyRecord.text ⟨⟨.dnsmasq, "x/../dnsmasq-m"⟩,
      .epoch, atHome.paths (.plain "x/../dnsmasq-m") .plain⟩)))]

/-- **Different paths are not enough.** The records of two instances may have different paths and
still be one file. If only one of the two is forgotten, the record of the other is gone with it. -/
theorem commitRevert_takes_another :
    ¬ ∀ {σ : Type} (c : Compiler) (x : SectionIndex) (st st' : ApplyState) (execute : Executor σ)
      (files : σ → FileTree) (before after : σ) (report : ExecutionReport)
      (forgotten : List SectionId), files before = st.files →
      runPlan execute (c.revertAll st x).actions before = (report, after) →
      (∀ id, c.settings.store.load id (files after) = c.settings.store.load id st.files) →
      (∀ s ∈ x.toList, ∀ s' ∈ x.toList, s.id ≠ s'.id →
        c.settings.store.pathOf s.id ≠ c.settings.store.pathOf s'.id) →
      c.commitRevert (c.revertAll st x) report ⟨files after, st.applied⟩ = .ok forgotten st' →
      ∀ id, (∀ id' ∈ forgotten, c.settings.store.pathOf id ≠ c.settings.store.pathOf id') →
        st'.applied.get? id = st.applied.get? id ∧
          c.settings.store.load id st'.files = c.settings.store.load id st.files := by
  intro spared
  have different : "m" ≠ "x/../dnsmasq-m" := by decide
  have ran := run_refusingKill different (by decide) recordShared
  have forgot := commitRevert_refusal different (t := recordShared) rfl
  have kept := (spared atHome _ _ _ _ (fun t => t) _ _ _ _ rfl ran (fun _ => rfl) (by decide)
    forgot ⟨.dnsmasq, "x/../dnsmasq-m"⟩ (by decide)).2
  -- There was a record before, and there is none now.
  rw [RecordStore.load_of_missing rfl, RecordStore.load_of_text rfl
    (ApplyRecord.ofText?_text (by decide))] at kept
  cases kept

end Compiler

end RouterConf
