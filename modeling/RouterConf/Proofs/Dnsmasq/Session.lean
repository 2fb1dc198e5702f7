import RouterConf.Proofs.Dnsmasq.Coherence
import RouterConf.Proofs.Record.Times

/-!
# Sessions

A session is a sequence of calls to a compiler, each with its answer. A call may be made by a new
process: the files are what they were, and nothing is remembered.

Restarts cannot be seen. As long as memory and store agree, what is remembered could as well be
loaded, so that every answer is a function of the files alone (`Compiler.recordedPaths_eq`). Applies
and forgets carry that over to the files after them, whatever the clock says, up to the times in
records.

That records are apart is not a matter of their paths alone: a name may lead through a directory to
the record of another (`Compiler.restart_not_transparent`). Names without slashes never do.

Main statements: `Operation.keepsCoherent_run`, `Operation.run_agree`,
`Compiler.restart_transparent`.
-/

namespace RouterConf

open FileTree (Grows)
open ApplyStep (Within)
open FileContent (SameButTime)
open Change (InParallel)

/-! ### Calls and their answers -/

/-- What a compiler can be asked to do. -/
inductive Operation where
  | apply (index : SectionIndex) (section_ : Section)
  | revert (section_ : Section)
  | forget (id : SectionId)
  | isApplied (id : SectionId)
  | applyAll (index : SectionIndex)
  | revertAll (index : SectionIndex)
  | commitRevert (plan : Plan) (report : ExecutionReport)

/-- What comes back. -/
inductive Answer where
  | actions (outcome : Except CompileError (List PlannedAction))
  | forgotten (outcome : Except CompileError Unit)
  | applied (outcome : Except CompileError Bool)
  | plan (p : Plan)
  | committed (outcome : Except CompileError (List SectionId))

/-- The answer that the outcome of a step is, and the state after it. -/
def answered {α : Type} (answer : Except CompileError α → Answer) :
    EStateM.Result CompileError ApplyState α → Answer × ApplyState
  | .ok a st => (answer (.ok a), st)
  | .error e st => (answer (.error e), st)

namespace Operation

/-- Carries out an operation at a time. -/
def run (c : Compiler) (now : Timestamp) (o : Operation) (st : ApplyState) : Answer × ApplyState :=
  match o with
  | apply x s => answered .actions (c.apply now x s st)
  | revert s => (.actions (c.revert st s), st)
  | forget id => answered .forgotten (c.forget id st)
  | isApplied id => (.applied (c.isApplied st id), st)
  | applyAll x => ((.plan (c.applyAll now x st).1), (c.applyAll now x st).2)
  | revertAll x => (.plan (c.revertAll st x), st)
  | commitRevert plan report => answered .committed (c.commitRevert plan report st)

/-- The identities whose records an operation may write or drop. -/
def touched : Operation → List SectionId
  | apply _ s => [s.id]
  | forget id => [id]
  | applyAll x => (x.ofKind .dnsmasq).map (·.id)
  | commitRevert plan _ => plan.actions.map (·.owner)
  | revert _ => []
  | isApplied _ => []
  | revertAll _ => []

end Operation

/-- A call: an operation, its time, and whether a new process makes it. -/
structure Call where
  operation : Operation
  now : Timestamp
  restarted : Bool

/-- A new process finds the files as they are and remembers nothing. -/
def ApplyState.restart (st : ApplyState) : ApplyState :=
  { st with applied := [] }

namespace Call

/-- The state in which a call is made. -/
def start (call : Call) (st : ApplyState) : ApplyState :=
  if call.restarted then st.restart else st

@[simp] theorem files_start (call : Call) (st : ApplyState) : (call.start st).files = st.files := by
  unfold start
  split <;> rfl

/-- Makes a call. -/
def run (c : Compiler) (call : Call) (st : ApplyState) : Answer × ApplyState :=
  call.operation.run c call.now (call.start st)

end Call

namespace Compiler

/-- Makes calls one after the other. -/
def runCalls (c : Compiler) : List Call → ApplyState → List Answer × ApplyState
  | [], st => ([], st)
  | call :: rest, st =>
    let (answer, st₁) := call.run c st
    let (answers, st₂) := c.runCalls rest st₁
    (answer :: answers, st₂)

/-- Settings without a template of their own make the same compiler on every tree. -/
theorem ofSettings_of_templateDir {settings : Settings} (h : settings.templateDir = none)
    (t : FileTree) : ofSettings t settings = .ok ⟨settings, .standard⟩ := by
  rw [ofSettings, h]

end Compiler

/-! ### Coherence over a session -/

variable {c : Compiler} {ids : List SectionId} {now now' : Timestamp} {x : SectionIndex}
  {s : Section} {st st' : ApplyState} {o : Operation} {id : SectionId}

/-- The state after an answer is within what the step stays within. -/
theorem within_answered {P : ApplyState → ApplyState → Prop} {α : Type} {m : ApplyStep α}
    (h : Within P m) (answer : Except CompileError α → Answer) (st : ApplyState) :
    P st (answered answer (m st)).2 := by
  cases hr : m st with
  | ok a st' => exact h.ok hr
  | error e st' => exact h.error hr

/-- No operation takes a directory away. -/
theorem Operation.grows_run (c : Compiler) (now : Timestamp) (o : Operation) (st : ApplyState) :
    Grows st.files (o.run c now st).2.files := by
  cases o with
  | apply x s => exact within_answered Compiler.grows_apply .actions st
  | forget id => exact within_answered Compiler.grows_forget .forgotten st
  | applyAll x => exact Compiler.grows_applyEach c now x _ st
  | commitRevert plan report =>
    exact within_answered (Compiler.grows_forgetOwners c _ _ _) .committed st
  | revert s => exact Grows.refl _
  | isApplied id => exact Grows.refl _
  | revertAll x => exact Grows.refl _

/-- **Every operation keeps memory and store in agreement**, whether it succeeds or not. -/
theorem Operation.keepsCoherent_run (hids : ∀ id ∈ o.touched, id ∈ ids) (hn : now.isValid = true)
    (st : ApplyState) : c.KeepsCoherent ids st (o.run c now st).2 := by
  cases o with
  | apply x s =>
    -- An apply touches the record of its section.
    have hid : s.id ∈ ids := hids _ (by simp [touched])
    exact within_answered (Compiler.keepsCoherent_apply hid hn) .actions st
  | forget id =>
    have hid : id ∈ ids := hids _ (by simp [touched])
    exact within_answered (Compiler.keepsCoherent_forget hid) .forgotten st
  | applyAll x =>
    refine Compiler.keepsCoherent_applyEach (fun s hs => hids _ ?_) hn st
    exact List.mem_map_of_mem hs
  | commitRevert plan report =>
    -- A commit touches the records of the owners of actions.
    have owners : ∀ a ∈ plan.actions, a.owner ∈ ids := fun a ha => hids _ (List.mem_map_of_mem ha)
    exact within_answered (Compiler.keepsCoherent_forgetOwners owners) .committed st
  | revert s => exact .refl c ids st
  | isApplied id => exact .refl c ids st
  | revertAll x => exact .refl c ids st

/-! ### Answers that only depend on files -/

/-- States whose files are the same but for the times in records. -/
def ApplyState.Alike (st st' : ApplyState) : Prop :=
  st.files.Corresponds SameButTime st'.files

namespace ApplyStep

/-- The same value is had, or the same error, on both sides. -/
theorem parallel_ofExcept {α : Type} {v v' : Except CompileError α} (same : v = v') :
    Parallel ApplyState.Alike Eq (ofExcept v) (ofExcept v') := by
  subst same
  refine ⟨fun h => ?_⟩
  cases v with
  | ok a => exact .ok rfl h
  | error e => exact .error e h

/-- Changes that run in parallel do so as steps, whatever is remembered. -/
theorem parallel_onFiles {α : Type} {m m' : Change α} (hm : InParallel SameButTime m m') :
    Parallel ApplyState.Alike (fun _ _ => True) (onFiles m) (onFiles m') := by
  refine ⟨fun {st st'} h => ?_⟩
  have files := hm.run h
  unfold onFiles
  cases hr : m st.files <;> cases hr' : m' st'.files <;> rw [hr, hr'] at files <;> cases files
  · rename_i h
    exact .ok trivial h
  · rename_i h
    exact .error _ h

end ApplyStep

namespace Compiler

/-- With a steady renderer, an apply has one outcome on files, whatever is remembered and whatever
the time is. -/
theorem parallel_apply (hc : c.renderer.Steady) (x : SectionIndex) (s : Section)
    (hn : now.isValid = true) (hn' : now'.isValid = true) :
    Parallel ApplyState.Alike Eq (c.apply now x s) (c.apply now' x s) := by
  refine .bind (ApplyStep.parallel_ofExcept rfl) ?_
  rintro d _ rfl
  refine .bind (ApplyStep.parallel_ofExcept (renderInstance_steady hc d now now')) ?_
  rintro text _ rfl
  -- The configuration is the same text on both sides; the record is the same but for its time.
  have placed : InParallel SameButTime (place (c.paths s d) text) (place (c.paths s d) text) :=
    .bind (InParallel.ensureParent _) fun _ => .bind (InParallel.ensureParent _) fun _ =>
      InParallel.replace _ (.inl rfl)
  refine .bind (ApplyStep.parallel_onFiles placed) fun _ => ?_
  refine .bind (ApplyStep.parallel_onFiles (RecordStore.parallel_save _ _ _ hn hn')) fun _ => ?_
  exact ⟨fun h => .ok rfl h⟩

/-- To forget ends alike on files, whatever is remembered. -/
theorem parallel_forget (c : Compiler) (id : SectionId) :
    Parallel ApplyState.Alike (fun _ _ => True) (c.forget id) (c.forget id) := by
  -- Memory is no part of what is compared.
  have memory : Parallel ApplyState.Alike (fun _ _ => True)
      (modify fun st => { st with applied := st.applied.erase id } : ApplyStep Unit)
      (modify fun st => { st with applied := st.applied.erase id } : ApplyStep Unit) :=
    ⟨fun h => .ok trivial h⟩
  exact .bind memory fun _ => ApplyStep.parallel_onFiles (RecordStore.parallel_remove _ _)

/-- So does the forgetting of several owners. -/
theorem parallel_forgetOwners (c : Compiler) (kept : List SectionId) (actions : List PlannedAction)
    (forgotten : List SectionId) :
    Parallel ApplyState.Alike Eq (c.forgetOwners kept actions forgotten)
      (c.forgetOwners kept actions forgotten) := by
  induction actions generalizing forgotten with
  | nil => exact .pure rfl
  | cons a rest ih =>
    unfold forgetOwners
    split
    · exact ih forgotten
    · exact .bind (parallel_forget c _) fun _ => ih _

/-- Cycles run in parallel if the applies of their sections do: they give one plan. -/
theorem applyEach_parallel {S : ApplyState → ApplyState → Prop} {x' : SectionIndex}
    (ss : List Section)
    (steps : ∀ s ∈ ss, Parallel S Eq (c.apply now x s) (c.apply now' x' s)) (h : S st st') :
    (c.applyEach now x ss st).1 = (c.applyEach now' x' ss st').1 ∧
      S (c.applyEach now x ss st).2 (c.applyEach now' x' ss st').2 := by
  induction ss generalizing st st' with
  | nil => exact ⟨rfl, h⟩
  | cons s rest ih =>
    -- The first sections end alike, and the rest starts from related states.
    have first := (steps s List.mem_cons_self).run h
    have later := fun s hs => steps s (List.mem_cons_of_mem _ hs)
    unfold applyEach
    cases hr : c.apply now x s st <;> cases hr' : c.apply now' x' s st' <;>
      rw [hr, hr'] at first <;> cases first
    · rename_i ha h
      obtain ⟨plans, states⟩ := ih later h
      dsimp only
      rw [plans, ha]
      exact ⟨rfl, states⟩
    · rename_i h
      obtain ⟨plans, states⟩ := ih later h
      dsimp only
      rw [plans]
      exact ⟨rfl, states⟩

/-- **What is remembered could as well be loaded.** While memory and store agree, the files of an
identity are those that its record names. -/
theorem Coherent.recordedPaths_eq (h : c.Coherent ids st) (id : SectionId) :
    c.recordedPaths st id = c.recordedPaths st.restart id := by
  unfold recordedPaths ApplyState.restart
  cases hm : st.applied.get? id with
  | none => rfl
  | some paths =>
    -- What is remembered is what the record says, and the record is what a new process reads.
    obtain ⟨-, r, hr, rfl⟩ := h id paths hm
    rw [hr]
    rfl

/-- A new process reads the same paths from files that are the same but for times. -/
theorem recordedPaths_restart_eq (h : st.Alike st') (id : SectionId) :
    c.recordedPaths st.restart id = c.recordedPaths st'.restart id := by
  have forgotten : ∀ st : ApplyState, st.restart.applied.get? id = none := fun _ => rfl
  unfold recordedPaths
  rw [forgotten, forgotten]
  dsimp only [ApplyState.restart]
  -- The two records name the same paths, or are missing or unreadable on both sides.
  rcases RecordStore.load_cases c.settings.store id h with
    ⟨e, hl, hl'⟩ | ⟨hl, hl'⟩ | ⟨r, r', hl, hl', -, same⟩ <;> rw [hl, hl']
  exact congrArg (fun paths => Except.ok (some paths)) same

/-- Coherent states with the same files but for times give the same paths for every identity. -/
theorem recordedPaths_agree (h : c.Coherent ids st) (h' : c.Coherent ids st') (ha : st.Alike st') :
    c.recordedPaths st = c.recordedPaths st' := by
  funext id
  rw [h.recordedPaths_eq, h'.recordedPaths_eq, recordedPaths_restart_eq ha]

/-- A teardown is planned from the recorded paths, and from nothing else in the state. -/
theorem revertEach_congr (h : c.recordedPaths st = c.recordedPaths st') (ss : List Section) :
    c.revertEach st ss = c.revertEach st' ss := by
  induction ss with
  | nil => rfl
  | cons s rest ih =>
    unfold revertEach revertIfApplied isApplied revert
    rw [ih, h]

end Compiler

/-- Results that agree are answered alike. -/
theorem answered_agree {α : Type} {answer : Except CompileError α → Answer}
    {r r' : EStateM.Result CompileError ApplyState α} (h : ResultsAgree ApplyState.Alike Eq r r') :
    (answered answer r).1 = (answered answer r').1 ∧
      (answered answer r).2.Alike (answered answer r').2 := by
  cases h with
  | ok ha hs =>
    subst ha
    exact ⟨rfl, hs⟩
  | error e hs => exact ⟨rfl, hs⟩

/-- **An operation has one answer**: from coherent states with the same files but for times, it
answers alike and leaves the same files but for times. -/
theorem Operation.run_agree (hc : c.renderer.Steady) (h : c.Coherent ids st)
    (h' : c.Coherent ids st') (ha : st.Alike st') (hn : now.isValid = true)
    (hn' : now'.isValid = true) (o : Operation) :
    (o.run c now st).1 = (o.run c now' st').1 ∧
      (o.run c now st).2.Alike (o.run c now' st').2 := by
  -- Operations that write run in parallel; the others only ask for recorded paths.
  have recorded := Compiler.recordedPaths_agree h h' ha
  cases o with
  | apply x s => exact answered_agree ((Compiler.parallel_apply hc x s hn hn').run ha)
  | forget id =>
    have agree := (Compiler.parallel_forget c id).run ha
    refine answered_agree ?_
    cases hr : c.forget id st <;> cases hr' : c.forget id st' <;> rw [hr, hr'] at agree <;>
      cases agree
    · exact .ok rfl ‹_›
    · exact .error _ ‹_›
  | applyAll x =>
    obtain ⟨plans, states⟩ := Compiler.applyEach_parallel (x.ofKind .dnsmasq)
      (fun s _ => Compiler.parallel_apply hc x s hn hn') ha
    refine ⟨?_, states⟩
    change Answer.plan (Plan.sorted _) = Answer.plan (Plan.sorted _)
    rw [plans]
  | commitRevert plan report =>
    exact answered_agree ((Compiler.parallel_forgetOwners c _ _ _).run ha)
  | revert s =>
    refine ⟨?_, ha⟩
    change Answer.actions (c.revert st s) = Answer.actions (c.revert st' s)
    rw [Compiler.revert, Compiler.revert, recorded]
  | isApplied id =>
    refine ⟨?_, ha⟩
    change Answer.applied (c.isApplied st id) = Answer.applied (c.isApplied st' id)
    rw [Compiler.isApplied, Compiler.isApplied, recorded]
  | revertAll x =>
    refine ⟨?_, ha⟩
    change Answer.plan (c.revertAll st x) = Answer.plan (c.revertAll st' x)
    rw [Compiler.revertAll, Compiler.revertAll, Compiler.revertEach_congr recorded]

/-! ### Sessions with and without restarts -/

namespace Compiler

/-- No session takes a directory away. -/
theorem grows_runCalls (c : Compiler) (calls : List Call) (st : ApplyState) :
    Grows st.files (c.runCalls calls st).2.files := by
  induction calls generalizing st with
  | nil => exact Grows.refl _
  | cons call rest ih =>
    have first := call.operation.grows_run c call.now (call.start st)
    rw [Call.files_start] at first
    exact first.trans (ih _)

/-- A new process starts coherent, since it remembers nothing. -/
theorem Coherent.start (h : c.Coherent ids st) (call : Call) : c.Coherent ids (call.start st) := by
  unfold Call.start
  split
  · exact Coherent.nil c ids _
  · exact h

/-- Records that are apart stay so in a corresponding tree. -/
theorem RecordsApart.of_corresponds {t t' : FileTree} (h : c.RecordsApart ids t)
    (ht : t.Corresponds SameButTime t') : c.RecordsApart ids t' :=
  fun id hid id' hid' hne l hl hl' =>
    h id hid id' hid' hne l (ht.denotes_iff.2 hl) (ht.denotes_iff.2 hl')

/-- Two sessions of the same operations, from coherent states with the same files but for times. -/
theorem runCalls_agree (hc : c.renderer.Steady) {calls calls' : List Call}
    (same : calls.map (·.operation) = calls'.map (·.operation))
    (valid : ∀ call ∈ calls ++ calls', call.now.isValid = true)
    (hids : ∀ call ∈ calls, ∀ id ∈ call.operation.touched, id ∈ ids)
    (h : c.Coherent ids st) (h' : c.Coherent ids st') (ha : st.Alike st')
    (apart : c.RecordsApart ids (c.runCalls calls st).2.files) :
    c.Coherent ids (c.runCalls calls st).2 ∧ c.Coherent ids (c.runCalls calls' st').2 ∧
      (c.runCalls calls st).1 = (c.runCalls calls' st').1 ∧
      (c.runCalls calls st).2.Alike (c.runCalls calls' st').2 := by
  induction calls generalizing calls' st st' with
  | nil =>
    obtain rfl : calls' = [] := by simpa using same.symm
    exact ⟨h, h', rfl, ha⟩
  | cons call rest ih =>
    -- The second session has as many calls as the first.
    obtain ⟨call', rest', rfl⟩ : ∃ call' rest', calls' = call' :: rest' := by
      cases calls' with
      | nil => simp at same
      | cons call' rest' => exact ⟨call', rest', rfl⟩
    rw [List.map_cons, List.map_cons, List.cons.injEq] at same
    obtain ⟨same, rest_same⟩ := same
    have hn : call.now.isValid = true := valid _ (by simp)
    have hn' : call'.now.isValid = true := valid _ (by simp)
    -- A restart changes neither the files nor the agreement of memory and store.
    have start := h.start call
    have start' := h'.start call'
    have alike : (call.start st).Alike (call'.start st') := by
      unfold ApplyState.Alike
      rw [Call.files_start, Call.files_start]
      exact ha
    have agree := call.operation.run_agree hc start start' alike hn hn'
    -- The records are apart at the end, and so they are after the first call: paths go on to denote
    -- what they have denoted.
    have later := apart.of_grows (grows_runCalls c rest (call.run c st).2)
    have first : c.Coherent ids (call.run c st).2 :=
      (Operation.keepsCoherent_run (hids call List.mem_cons_self) hn _).coherent start later
    have first' : c.Coherent ids (call'.run c st').2 := by
      unfold Call.run
      rw [← same]
      have kept := Operation.keepsCoherent_run (c := c) (hids call List.mem_cons_self) hn'
      exact (kept _).coherent start' (later.of_corresponds agree.2)
    have run_same : call'.run c st' = call.operation.run c call'.now (call'.start st') := by
      rw [Call.run, ← same]
    -- The second session makes the same operation, at a time of its own.
    rw [← run_same] at agree
    obtain ⟨coherent, coherent', answers, states⟩ := ih rest_same
      (fun call hc => valid call (by
        rw [List.mem_append] at hc ⊢
        exact hc.imp (List.mem_cons_of_mem _) (List.mem_cons_of_mem _)))
      (fun call hc => hids call (List.mem_cons_of_mem _ hc)) first first' agree.2 apart
    exact ⟨coherent, coherent', congrArg₂ List.cons agree.1 answers, states⟩

/-- **Restarts are transparent**, if the renderer is steady. Two sessions on one tree make the same
calls, at any times and with any restarts, and the records of the identities that they write are
different files in the end. Then what either process remembers at the end its records say, too; all
answers are the same; and so are the files, but for the times in records. -/
theorem restart_transparent (c : Compiler) (steady : c.renderer.Steady) (t : FileTree)
    (calls calls' : List Call)
    (same : calls.map (·.operation) = calls'.map (·.operation))
    (valid : ∀ call ∈ calls ++ calls', call.now.isValid = true)
    (apart : c.RecordsApart (calls.flatMap (·.operation.touched))
      (c.runCalls calls ⟨t, []⟩).2.files) :
    (∀ id paths, (c.runCalls calls ⟨t, []⟩).2.applied.get? id = some paths →
      ∃ r, c.settings.store.load id (c.runCalls calls ⟨t, []⟩).2.files = .ok (some r) ∧
        r.paths = paths) ∧
    (c.runCalls calls ⟨t, []⟩).1 = (c.runCalls calls' ⟨t, []⟩).1 ∧
    (c.runCalls calls ⟨t, []⟩).2.files.Corresponds SameButTime
      (c.runCalls calls' ⟨t, []⟩).2.files := by
  -- Both sessions start from one tree, and with nothing in memory.
  have start := Coherent.nil c (calls.flatMap (·.operation.touched)) t
  have hids : ∀ call ∈ calls, ∀ id ∈ call.operation.touched,
      id ∈ calls.flatMap (·.operation.touched) :=
    fun call hc id hid => List.mem_flatMap.2 ⟨call, hc, hid⟩
  have alike : ApplyState.Alike ⟨t, []⟩ ⟨t, []⟩ := FileTree.Corresponds.refl (fun _ => .inl rfl) t
  obtain ⟨coherent, -, answers, files⟩ :=
    runCalls_agree steady same valid hids start start alike apart
  exact ⟨fun id paths h => (coherent id paths h).2, answers, files⟩

/-- Records of identities without slashes in their names are always apart. -/
theorem recordsApart_of_slashless (c : Compiler) {ids : List SectionId}
    (h : ∀ id ∈ ids, '/' ∉ id.name.toList) (t : FileTree) : c.RecordsApart ids t :=
  fun id hid id' hid' hne _ hl => RecordStore.pathOf_apart (h id hid) (h id' hid') hne hl

/-- Two instances are applied; the first is taken down and forgotten, once by the process that
applied it and once by another. -/
theorem restart_transparent_plain :
    let index := SectionIndex.ofList [.plain "main", .plain "guest"]
    let calls := fun restarted => [
      Call.mk (.apply index (.plain "main")) .epoch false,
      Call.mk (.apply index (.plain "guest")) .epoch restarted,
      Call.mk (.revert (.plain "main")) .epoch restarted,
      Call.mk (.forget ⟨.dnsmasq, "main"⟩) .epoch restarted]
    (atHome.runCalls (calls false) ⟨{ home := [], entries := [] }, []⟩).1 =
      (atHome.runCalls (calls true) ⟨{ home := [], entries := [] }, []⟩).1 := by
  intro index calls
  refine (atHome.restart_transparent Renderer.steady_standard _ (calls false) (calls true) rfl ?_
    ?_).2.1
  · simp only [calls, List.cons_append, List.nil_append, List.forall_mem_cons]
    decide
  · refine recordsApart_of_slashless _ ?_ _
    simp only [calls, Operation.touched, List.flatMap_cons, List.flatMap_nil]
    decide

/-- A directory stands among the records that a name may lead through. -/
def recordsShared : FileTree where
  home := []
  entries := [(["state"], .directory), (["state", "dnsmasq-x"], .directory)]

/-- Forgetting an instance takes the record of another that has been applied. -/
theorem forget_recordsShared : ∃ a st st',
    atHome.apply .epoch (.ofList []) (.plain "m") ⟨recordsShared, []⟩ = .ok a st ∧
      atHome.forget ⟨.dnsmasq, "x/../dnsmasq-m"⟩ st = .ok () st' ∧
      st'.files.pathExists (atHome.settings.store.pathOf ⟨.dnsmasq, "m"⟩) = false := by
  have pools : (SectionIndex.ofList []).ofKind .dhcpPool = [] := rfl
  obtain ⟨text, ht⟩ := exists_renderInstance_atHome "m" pools .epoch
  exact ⟨_, _, _, apply_of_save_ok rfl ht rfl rfl, rfl, rfl⟩

/-- **Different paths are not enough.** The records of two identities may have different paths and
still be one file. What is remembered of one is then lost to the store when the other is forgotten.
-/
theorem restart_not_transparent :
    ¬ ∀ (c : Compiler) (t : FileTree) (calls calls' : List Call), c.renderer.Steady →
      calls.map (·.operation) = calls'.map (·.operation) →
      (∀ call ∈ calls ++ calls', call.now.isValid = true) →
      (∀ id ∈ calls.flatMap (·.operation.touched), ∀ id' ∈ calls.flatMap (·.operation.touched),
        id ≠ id' → c.settings.store.pathOf id ≠ c.settings.store.pathOf id') →
      (∀ id paths, (c.runCalls calls ⟨t, []⟩).2.applied.get? id = some paths →
        ∃ r, c.settings.store.load id (c.runCalls calls ⟨t, []⟩).2.files = .ok (some r) ∧
          r.paths = paths) ∧
      (c.runCalls calls ⟨t, []⟩).1 = (c.runCalls calls' ⟨t, []⟩).1 ∧
      (c.runCalls calls ⟨t, []⟩).2.files.Corresponds SameButTime
        (c.runCalls calls' ⟨t, []⟩).2.files := by
  intro transparent
  -- The paths of the two records differ, and yet one forget takes the record of the other.
  obtain ⟨a, st, st', applied, forgotten, missing⟩ := forget_recordsShared
  -- Forgetting one identity leaves the memory of the other.
  have memory : st'.applied.get? ⟨.dnsmasq, "m"⟩ = some (atHome.paths (.plain "m") .plain) := by
    obtain ⟨d, _, _, hd, -, -, -, memory, -⟩ := apply_ok applied
    cases hd
    rw [(forget_ok forgotten).2, Applied.get?_erase, if_neg (by decide), memory]
    exact Applied.get?_insert_self _ _ _
  have ended : (atHome.runCalls [⟨.apply (.ofList []) (.plain "m"), .epoch, false⟩,
      ⟨.forget ⟨.dnsmasq, "x/../dnsmasq-m"⟩, .epoch, false⟩] ⟨recordsShared, []⟩).2 = st' := by
    simp [runCalls, Call.run, Call.start, Operation.run, applied, forgotten, answered]
  have coherent := (transparent atHome recordsShared
    [⟨.apply (.ofList []) (.plain "m"), .epoch, false⟩,
      ⟨.forget ⟨.dnsmasq, "x/../dnsmasq-m"⟩, .epoch, false⟩] _ Renderer.steady_standard rfl
    (by decide) (by decide)).1
  rw [ended] at coherent
  obtain ⟨r, loaded, -⟩ := coherent _ _ memory
  rw [RecordStore.load_of_missing missing] at loaded
  cases loaded

end Compiler

end RouterConf
