import RouterConf.Proofs.Dnsmasq.Session

/-!
# What stays on record

Once an instance has been applied, its paths are on record until it is applied again or forgotten,
whatever else is done: other instances come and go, operations fail, processes end and others take
their place, and files are changed by others.

* `Compiler.OnRecord`: the record of an identity names some paths, and nothing else is remembered.
* `Compiler.Undisturbed`: a state comes after another while an identity is neither applied nor
  forgotten, and nobody else writes its record.

Every operation keeps what is on record of an identity that it does not affect. A forget that fails
may cost the memory of it, but not the record. So what an instance was applied with is what it is
reverted with, however it has been edited in the meantime.

Main statements: `Compiler.OnRecord.of_apply`, `Compiler.OnRecord.run`,
`Compiler.Undisturbed.onRecord`, `Compiler.OnRecord.revert_eq_teardown`.
-/

namespace RouterConf

open FileTree (Denotes ChangesOnly Grows)

/-! ### The identities that an operation affects -/

/-- A list that is had from the outcome of a step, and is empty if the step failed. -/
def ApplyStep.onSuccess {α β : Type} (outcome : EStateM.Result CompileError ApplyState α)
    (list : α → ApplyState → List β) : List β :=
  match outcome with
  | .ok a st => list a st
  | .error _ _ => []

/-- The identities that are forgotten when owners are forgotten one after the other. The first that
cannot be forgotten is the end of it. -/
def Compiler.ownersForgotten (c : Compiler) (kept : List SectionId) :
    List PlannedAction → (forgotten : List SectionId) → ApplyState → List SectionId
  | [], _, _ => []
  | a :: rest, forgotten, st =>
    if a.owner ∈ kept ∨ a.owner ∈ forgotten then c.ownersForgotten kept rest forgotten st
    else
      ApplyStep.onSuccess (c.forget a.owner st) fun _ st' =>
        a.owner :: c.ownersForgotten kept rest (forgotten ++ [a.owner]) st'

/-- The identities that an operation does apply, which own the actions that it plans, or does
forget. -/
def Operation.affected (c : Compiler) (now : Timestamp) (o : Operation) (st : ApplyState) :
    List SectionId :=
  match o with
  | apply x s => ApplyStep.onSuccess (c.apply now x s st) fun actions _ => actions.map (·.owner)
  | forget id => ApplyStep.onSuccess (c.forget id st) fun _ _ => [id]
  | applyAll x => (c.applyAll now x st).1.actions.map (·.owner)
  | commitRevert plan report => c.ownersForgotten (Compiler.failedOwners report) plan.actions [] st
  | revert _ => []
  | isApplied _ => []
  | revertAll _ => []

namespace Compiler

variable {c : Compiler} {now : Timestamp} {x : SectionIndex} {s : Section} {st st' : ApplyState}
  {t t' : FileTree} {id id' : SectionId} {ids : List SectionId} {paths : InstancePaths}

/-! ### A record of its own -/

/-- No other of some identities has its record where that of `id` is. -/
def OwnRecord (c : Compiler) (id : SectionId) (ids : List SectionId) (t : FileTree) : Prop :=
  ∀ id' ∈ ids, id' ≠ id → ∀ l, t.Denotes (c.settings.store.pathOf id) l →
    ¬ t.Denotes (c.settings.store.pathOf id') l

/-- A record that is a file of its own later on has been one before. -/
theorem OwnRecord.of_grows (h : c.OwnRecord id ids t') (hg : Grows t t') : c.OwnRecord id ids t :=
  fun id' hid' hne l hl hl' => h id' hid' hne l (hg.denotes hl) (hg.denotes hl')

/-- It is one also among fewer identities. -/
theorem OwnRecord.mono {ids' : List SectionId} (h : c.OwnRecord id ids t) (hsub : ids' ⊆ ids) :
    c.OwnRecord id ids' t :=
  fun id' hid' => h id' (hsub hid')

/-! ### On record -/

/-- **The paths of an identity are on record.** Its record names them, and if it is remembered at
all, then with these paths. -/
structure OnRecord (c : Compiler) (id : SectionId) (paths : InstancePaths) (st : ApplyState) :
    Prop where
  memory : ∀ {other}, st.applied.get? id = some other → other = paths
  record : ∃ r, c.settings.store.load id st.files = .ok (some r) ∧ r.paths = paths

namespace OnRecord

/-- What has been applied is on record. -/
theorem of_apply (hn : now.isValid = true) {actions : List PlannedAction}
    (ha : c.apply now x s st = .ok actions st') {d : DnsmasqInstance} (hd : s.asDnsmasq = some d) :
    c.OnRecord s.id (c.paths s d) st' := by
  obtain ⟨d', text, t₁, hd', -, -, hr, memory, -⟩ := Compiler.apply_ok ha
  obtain rfl := Option.some.inj (hd.symm.trans (instanceOf_eq_ok.1 hd'))
  refine ⟨fun {other} h => ?_, ⟨_, RecordStore.load_of_save hn hr, rfl⟩⟩
  rw [memory, Applied.get?_insert_self] at h
  exact (Option.some.inj h).symm

/-- A restart drops what is remembered, and that is all. -/
theorem restart (h : c.OnRecord id paths st) : c.OnRecord id paths st.restart := by
  refine ⟨fun hm => ?_, h.record⟩
  cases hm

/-- So a call by a new process finds the same on record. -/
theorem start (h : c.OnRecord id paths st) (call : Call) : c.OnRecord id paths (call.start st) := by
  unfold Call.start
  split
  · exact h.restart
  · exact h

/-- What is on record stays so over a step that remembers nothing new of the identity and touches no
file that its record is in. -/
theorem of_changesOnly (h : c.OnRecord id paths st)
    (memory : ∀ {q}, st'.applied.get? id = some q → st.applied.get? id = some q) {ps : List Path}
    (ht : ChangesOnly ps st.files st'.files)
    (apart : ∀ p ∈ ps, ∀ l, st'.files.Denotes (c.settings.store.pathOf id) l →
      ¬ st'.files.Denotes p l) : c.OnRecord id paths st' := by
  obtain ⟨r, hr, rfl⟩ := h.record
  exact ⟨fun hq => h.memory (memory hq), ⟨r, RecordStore.load_of_changesOnly ht apart hr, rfl⟩⟩

/-- An apply that fails takes nothing from the record, not even that of its own section. -/
theorem apply_error (h : c.OnRecord id paths st) {e : CompileError}
    (ha : c.apply now x s st = .error e st') : c.OnRecord id paths st' := by
  have same := applied_of_apply_error ha
  refine h.of_changesOnly (fun hq => ?_) (changesOnly_apply_error ha) fun _ hp _ => record_apart hp
  rwa [same] at hq

/-- An apply of another section remembers that section and writes its record, which is another file.
-/
theorem apply_ok (h : c.OnRecord id paths st) (hne : s.id ≠ id) {actions : List PlannedAction}
    (ha : c.apply now x s st = .ok actions st') (own : c.OwnRecord id [s.id] st'.files) :
    c.OnRecord id paths st' := by
  obtain ⟨d, text, t₁, -, -, -, -, memory, -⟩ := Compiler.apply_ok ha
  refine h.of_changesOnly (fun hq => ?_) (changesOnly_apply_ok ha) fun p hp l hl => ?_
  · rw [memory, Applied.get?_insert, if_neg (Ne.symm hne)] at hq
    exact hq
  · rcases List.mem_cons.1 hp with rfl | hp
    · exact own s.id (List.mem_singleton_self _) hne l hl
    · exact record_apart hp hl

/-- A forget that fails costs the memory of its identity, and no record. -/
theorem forget_error (h : c.OnRecord id paths st) {e : CompileError}
    (hf : c.forget id' st = .error e st') : c.OnRecord id paths st' := by
  obtain ⟨files, memory⟩ := Compiler.forget_error hf
  have same : ChangesOnly [] st.files st'.files := by
    rw [files]
    exact .refl _ _
  refine h.of_changesOnly (fun hq => ?_) same (by simp)
  rw [memory, Applied.get?_erase] at hq
  split at hq
  · cases hq
  · exact hq

/-- A forget of another identity drops the memory and the record of that one. -/
theorem forget_ok (h : c.OnRecord id paths st) (hne : id' ≠ id)
    (hf : c.forget id' st = .ok () st') (own : c.OwnRecord id [id'] st'.files) :
    c.OnRecord id paths st' := by
  obtain ⟨removed, memory⟩ := Compiler.forget_ok hf
  refine h.of_changesOnly (fun hq => ?_) ((RecordStore.touches_remove _ _).ok removed)
    fun p hp l hl => ?_
  · rw [memory, Applied.get?_erase, if_neg (Ne.symm hne)] at hq
    exact hq
  · rw [List.mem_singleton.1 hp]
    exact own id' (List.mem_singleton_self _) hne l hl

/-- Applying sections one after the other keeps what is on record of one that none of them applies.
-/
theorem applyEach {ss : List Section} (h : c.OnRecord id paths st)
    (hid : id ∉ (c.applyEach now x ss st).1.actions.map (·.owner))
    (own : c.OwnRecord id (ss.map (·.id)) (c.applyEach now x ss st).2.files) :
    c.OnRecord id paths (c.applyEach now x ss st).2 := by
  induction ss generalizing st with
  | nil => exact h
  | cons s rest ih =>
    have own_rest := own.mono (List.subset_cons_self s.id (rest.map (·.id)))
    unfold Compiler.applyEach at hid own own_rest ⊢
    split at hid
    · rename_i actions st₁ ha
      rw [ha] at own own_rest
      obtain ⟨d, _, _, -, -, -, -, -, ha'⟩ := Compiler.apply_ok ha
      -- The start of the section is in the plan, so it is not the one in question.
      simp only [Plan.prepend, List.map_append, List.mem_append, not_or] at hid
      have hne : s.id ≠ id := by
        rintro rfl
        exact hid.1 (by simp [ha'])
      -- Records that are apart in the end are apart right after this section.
      have later := grows_applyEach c now x rest st₁
      have first := h.apply_ok hne ha ((own.of_grows later).mono (by simp))
      exact ih first hid.2 own_rest
    · rename_i e st₁ ha
      rw [ha] at own own_rest
      exact ih (h.apply_error ha) hid own_rest

/-- Forgetting owners one after the other keeps what is on record of one that is not forgotten. -/
theorem forgetOwners {kept forgotten : List SectionId} {actions : List PlannedAction}
    (h : c.OnRecord id paths st) (hid : id ∉ c.ownersForgotten kept actions forgotten st) :
    (∀ {r st'}, c.forgetOwners kept actions forgotten st = .ok r st' →
      c.OwnRecord id (actions.map (·.owner)) st'.files → c.OnRecord id paths st') ∧
    ∀ {e st'}, c.forgetOwners kept actions forgotten st = .error e st' →
      c.OwnRecord id (actions.map (·.owner)) st'.files → c.OnRecord id paths st' := by
  induction actions generalizing forgotten st with
  | nil =>
    refine ⟨?_, ?_⟩
    · rintro r st' ⟨⟩ -
      exact h
    · rintro e st' ⟨⟩
  | cons a rest ih =>
    -- What is apart from all owners is apart from those that are left.
    have tail {t} (own : c.OwnRecord id (a.owner :: rest.map (·.owner)) t) :
        c.OwnRecord id (rest.map (·.owner)) t := own.mono (List.subset_cons_self _ _)
    unfold Compiler.ownersForgotten at hid
    unfold Compiler.forgetOwners
    split at hid
    · rename_i skipped
      rw [if_pos skipped]
      exact ⟨fun hr own => (ih h hid).1 hr (tail own), fun hr own => (ih h hid).2 hr (tail own)⟩
    · rename_i taken
      rw [if_neg taken]
      -- The owner at the head is forgotten, or it is the last that is tried.
      have first {st₁} (h₁ : c.forget a.owner st = .ok () st₁) {t} (hg : Grows st₁.files t)
          (own : c.OwnRecord id (a.owner :: rest.map (·.owner)) t) :
          c.OnRecord id paths st₁ ∧
            id ∉ c.ownersForgotten kept rest (forgotten ++ [a.owner]) st₁ := by
        simp only [h₁, ApplyStep.onSuccess, List.mem_cons, not_or] at hid
        obtain ⟨hne, hid⟩ := hid
        exact ⟨h.forget_ok (Ne.symm hne) h₁ ((own.of_grows hg).mono (by simp)), hid⟩
      refine ⟨fun hr own => ?_, fun hr own => ?_⟩
      · obtain ⟨_, st₁, h₁, hr⟩ := run_bind_eq_ok.1 hr
        obtain ⟨kept₁, hid₁⟩ := first h₁ ((grows_forgetOwners c kept rest _).ok hr) own
        exact (ih kept₁ hid₁).1 hr (tail own)
      · rcases run_bind_eq_error.1 hr with h₁ | ⟨_, st₁, h₁, hr⟩
        · exact h.forget_error h₁
        · obtain ⟨kept₁, hid₁⟩ := first h₁ ((grows_forgetOwners c kept rest _).error hr) own
          exact (ih kept₁ hid₁).2 hr (tail own)

/-- **An operation keeps on record** what it does not affect. -/
theorem run {o : Operation} (h : c.OnRecord id paths st) (hid : id ∉ o.affected c now st)
    (own : c.OwnRecord id o.touched (o.run c now st).2.files) :
    c.OnRecord id paths (o.run c now st).2 := by
  cases o with
  | apply x s =>
    -- An apply that succeeds affects its own section only, and one that fails affects none.
    simp only [Operation.affected] at hid
    simp only [Operation.run, Operation.touched] at own ⊢
    cases ha : c.apply now x s st with
    | ok actions st' =>
      rw [ha] at hid own
      simp only [ApplyStep.onSuccess] at hid
      obtain ⟨d, _, _, -, -, -, -, -, rfl⟩ := Compiler.apply_ok ha
      exact h.apply_ok (fun hs => hid (by simp [hs])) ha own
    | error e st' => exact h.apply_error ha
  | revert s => exact h
  | forget id' =>
    simp only [Operation.affected] at hid
    simp only [Operation.run, Operation.touched] at own ⊢
    cases hf : c.forget id' st with
    | ok u st' =>
      rw [hf] at hid own
      simp only [ApplyStep.onSuccess] at hid
      exact h.forget_ok (fun hs => hid (by simp [hs])) hf own
    | error e st' => exact h.forget_error hf
  | isApplied id' => exact h
  | applyAll x =>
    refine h.applyEach (fun hmem => hid ?_) own
    -- The plan is sorted, and has the same owners.
    rw [List.mem_map] at hmem
    obtain ⟨a, ha, hao⟩ := hmem
    exact List.mem_map.2 ⟨a, (sortPlan_perm _).mem_iff.2 ha, hao⟩
  | revertAll x => exact h
  | commitRevert plan report =>
    have kept := h.forgetOwners hid
    simp only [Operation.run, Operation.touched] at own ⊢
    cases hr : c.commitRevert plan report st with
    | ok r st' =>
      rw [hr] at own
      exact kept.1 hr own
    | error e st' =>
      rw [hr] at own
      exact kept.2 hr own

/-- The paths that are found for an identity are those on record. -/
theorem recordedPaths_eq (h : c.OnRecord id paths st) :
    c.recordedPaths st id = .ok (some paths) := by
  -- The memory is asked first, and if it is silent, the record; both give the same paths.
  unfold recordedPaths
  cases hm : st.applied.get? id with
  | some other => rw [h.memory hm]
  | none =>
    obtain ⟨r, hr, rfl⟩ := h.record
    rw [hr]
    rfl

/-- **A section is reverted with the paths on record**, whatever its options say now. -/
theorem revert_eq_teardown (h : c.OnRecord s.id paths st) (hs : s.asDnsmasq.isSome) :
    c.revert st s = .ok (teardown s.id paths) := by
  obtain ⟨d, hd⟩ := Option.isSome_iff_exists.1 hs
  simp only [revert, instanceOf, hd, h.recordedPaths_eq]
  rfl

/-- What is on record is so for every compiler with the same settings. -/
theorem of_settings {c' : Compiler} (h : c.OnRecord id paths st) (hc : c'.settings = c.settings) :
    c'.OnRecord id paths st :=
  ⟨h.memory, by rw [hc]; exact h.record⟩

end OnRecord

/-! ### As time passes -/

/-- **A state that comes later**, while an identity is neither applied nor forgotten and nobody else
writes its record. Calls are made, by the same process or by new ones, and files are changed from
outside. -/
inductive Undisturbed (c : Compiler) (id : SectionId) : ApplyState → ApplyState → Prop where
  | refl (st : ApplyState) : Undisturbed c id st st
  | call {st st' : ApplyState} (earlier : Undisturbed c id st st') (call : Call)
      (spared : id ∉ call.operation.affected c call.now (call.start st'))
      (own : c.OwnRecord id call.operation.touched (call.run c st').2.files) :
      Undisturbed c id st (call.run c st').2
  | outside {st st' : ApplyState} (earlier : Undisturbed c id st st') (files : FileTree)
      (kept : files.status (c.settings.store.pathOf id) =
        st'.files.status (c.settings.store.pathOf id)) :
      Undisturbed c id st { st' with files }

/-- **What is on record stays so** while nothing disturbs it. -/
theorem Undisturbed.onRecord (later : c.Undisturbed id st st') (h : c.OnRecord id paths st) :
    c.OnRecord id paths st' := by
  induction later with
  | refl => exact h
  | call earlier call spared own ih => exact (ih.start call).run spared own
  | outside earlier files kept ih =>
    obtain ⟨r, hr, rfl⟩ := ih.record
    -- Whatever happened to other files, this one is read as before.
    obtain ⟨text, ht, hr⟩ := RecordStore.load_eq_some_iff.1 hr
    exact ⟨ih.memory, ⟨r, RecordStore.load_eq_some_iff.2 ⟨text, kept.trans ht, hr⟩, rfl⟩⟩

end Compiler

end RouterConf
