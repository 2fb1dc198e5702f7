import RouterConf.Proofs.Dnsmasq.Relevance
import RouterConf.Proofs.Dnsmasq.Session

/-!
# A cycle with a section that cannot be rendered

In a cycle every instance has one outcome: the command that starts its daemon, or why there is none
(`Compiler.Cycle`). The plan is read off the outcomes in the order of loading (`Plan.ofOutcomes`).

An instance that cannot be rendered touches nothing, and no other instance looks at it. So a cycle
over a list with such an instance is the cycle over the list without it, and one more failure at its
place.

Main statements: `Compiler.exists_cycle`, `Compiler.Cycle.applyEach_eq`,
`Compiler.applyAll_insert_failing`.
-/

namespace RouterConf

/-! ### Outcomes -/

/-- What became of a section: the command that starts its daemon, or an error. -/
abbrev SectionOutcome :=
  SectionId × Except CompileError (List String)

namespace SectionOutcome

def start? : SectionOutcome → Option PlannedAction
  | (id, .ok command) => some ⟨startPriority, id, .start command⟩
  | (_, .error _) => none

def failure? : SectionOutcome → Option (SectionId × CompileError)
  | (_, .ok _) => none
  | (id, .error e) => some (id, e)

end SectionOutcome

/-- The plan with one start for every section that succeeded and one failure for every other. -/
def Plan.ofOutcomes (outcomes : List SectionOutcome) : Plan where
  actions := outcomes.filterMap SectionOutcome.start?
  failures := outcomes.filterMap SectionOutcome.failure?

/-- Starts have one priority, so that they stay in the order of loading. -/
theorem Plan.sorted_ofOutcomes (outcomes : List SectionOutcome) :
    (ofOutcomes outcomes).sorted = ofOutcomes outcomes := by
  have level : ∀ a ∈ outcomes.filterMap SectionOutcome.start?, a.priority = startPriority := by
    -- All that an outcome can plan is a start.
    intro a ha
    obtain ⟨⟨id, r⟩, -, hr⟩ := List.mem_filterMap.1 ha
    cases r <;> cases hr
    rfl
  rw [sorted, ofOutcomes, sortPlan_of_priority level]

/-- **The same state but for times**: the same is remembered, and the files differ only in the times
of records. -/
structure ApplyState.SameButTimes (st st' : ApplyState) : Prop where
  memory : ∀ id, st.applied.get? id = st'.applied.get? id
  files : st.Alike st'

namespace Compiler

variable {c : Compiler} {now now' : Timestamp} {x x' : SectionIndex} {s : Section}
  {ss ss' : List Section} {st st₁ st' : ApplyState} {os os' : List SectionOutcome}

/-! ### Applies that end alike -/

/-- An apply looks at the index only to render. -/
theorem apply_congr (h : c.render x s now = c.render x' s now) :
    c.apply now x s = c.apply now x' s := by
  unfold render at h
  unfold apply
  -- What declares no instance fails without a look at the index.
  cases hi : instanceOf s with
  | error e => rfl
  | ok d =>
    simp only [hi, bind, Except.bind] at h
    funext st
    simp only [ApplyStep.ofExcept, bind, EStateM.bind, h]

/-- An apply that succeeds remembers its paths, and one that fails changes nothing in memory,
whatever the time is. -/
theorem parallel_apply_sameButTimes (hc : c.renderer.Steady) (x : SectionIndex) (s : Section)
    (hn : now.isValid = true) (hn' : now'.isValid = true) :
    Parallel ApplyState.SameButTimes Eq (c.apply now x s) (c.apply now' x s) := by
  refine ⟨fun {st st'} same => ?_⟩
  have agree := (parallel_apply hc x s hn hn').run same.files
  cases hr : c.apply now x s st <;> cases hr' : c.apply now' x s st' <;> rw [hr, hr'] at agree <;>
    cases agree
  · rename_i ha files
    refine .ok ha ⟨fun id => ?_, files⟩
    -- Both remember the paths of the one instance that the section declares.
    obtain ⟨d, _, _, hd, -, -, -, memory, -⟩ := apply_ok hr
    obtain ⟨d', _, _, hd', -, -, -, memory', -⟩ := apply_ok hr'
    obtain rfl := Except.ok.inj (hd.symm.trans hd')
    rw [memory, memory', Applied.get?_insert, Applied.get?_insert, same.memory]
  · rename_i files
    refine .error _ ⟨fun id => ?_, files⟩
    rw [applied_of_apply_error hr, applied_of_apply_error hr', same.memory]

/-! ### Cycles -/

/-- **A cycle**: sections are applied one after the other, and each of them has an outcome. -/
inductive Cycle (c : Compiler) (now : Timestamp) (x : SectionIndex) :
    List Section → ApplyState → List SectionOutcome → ApplyState → Prop where
  | nil (st : ApplyState) : Cycle c now x [] st [] st
  | started {s : Section} {ss : List Section} {st st₁ st' : ApplyState}
      {os : List SectionOutcome} {command : List String}
      (h : c.apply now x s st = .ok [⟨startPriority, s.id, .start command⟩] st₁)
      (later : Cycle c now x ss st₁ os st') :
      Cycle c now x (s :: ss) st ((s.id, .ok command) :: os) st'
  | failed {s : Section} {ss : List Section} {st st₁ st' : ApplyState} {os : List SectionOutcome}
      {e : CompileError} (h : c.apply now x s st = .error e st₁)
      (later : Cycle c now x ss st₁ os st') :
      Cycle c now x (s :: ss) st ((s.id, .error e) :: os) st'

/-- Every section has an outcome, whatever became of those before it. -/
theorem exists_cycle (c : Compiler) (now : Timestamp) (x : SectionIndex) (ss : List Section)
    (st : ApplyState) : ∃ os st', c.Cycle now x ss st os st' := by
  -- By induction on the sections: each starts from where the one before has left the files.
  induction ss generalizing st with
  | nil => exact ⟨[], st, .nil st⟩
  | cons s ss ih =>
    cases ha : c.apply now x s st with
    | ok actions st₁ =>
      -- An apply that succeeds plans one start and nothing else.
      obtain ⟨d, _, _, -, -, -, -, -, rfl⟩ := apply_ok ha
      obtain ⟨os, st', later⟩ := ih st₁
      exact ⟨_, st', .started ha later⟩
    | error e st₁ =>
      obtain ⟨os, st', later⟩ := ih st₁
      exact ⟨_, st', .failed ha later⟩

namespace Cycle

/-- The outcomes are those of the sections, in their order. -/
theorem map_fst (h : c.Cycle now x ss st os st') : os.map Prod.fst = ss.map (·.id) := by
  induction h with
  | nil => rfl
  | started _ _ ih => rw [List.map_cons, List.map_cons, ih]
  | failed _ _ ih => rw [List.map_cons, List.map_cons, ih]

/-- **The plan is read off the outcomes.** -/
theorem applyEach_eq (h : c.Cycle now x ss st os st') :
    c.applyEach now x ss st = (Plan.ofOutcomes os, st') := by
  induction h with
  | nil => rfl
  | started h _ ih =>
    simp only [applyEach, h, ih]
    rfl
  | failed h _ ih =>
    simp only [applyEach, h, ih]
    rfl

/-- A cycle over two lists is one over the first and then one over the second. -/
theorem append (h : c.Cycle now x ss st os st₁) (h' : c.Cycle now x ss' st₁ os' st') :
    c.Cycle now x (ss ++ ss') st (os ++ os') st' := by
  induction h with
  | nil => exact h'
  | started h _ ih => exact .started h (ih h')
  | failed h _ ih => exact .failed h (ih h')

/-- A cycle goes the same way over an index that renders its sections alike. -/
theorem congr_index (h : c.Cycle now x ss st os st')
    (same : ∀ s ∈ ss, c.render x s now = c.render x' s now) : c.Cycle now x' ss st os st' := by
  induction h with
  | nil st => exact .nil st
  | started h _ ih =>
    -- The index matters to the first section only by how it is rendered.
    rw [List.forall_mem_cons] at same
    exact .started (apply_congr same.1 ▸ h) (ih same.2)
  | failed h _ ih =>
    rw [List.forall_mem_cons] at same
    exact .failed (apply_congr same.1 ▸ h) (ih same.2)

end Cycle

/-- A cycle over all instances of an index, seen from its outcomes. -/
theorem Cycle.applyAll_eq {ss : List Section}
    (h : c.Cycle now (.ofList ss) (SectionKind.dnsmasq.select ss) st os st') :
    c.applyAll now (.ofList ss) st = (Plan.ofOutcomes os, st') := by
  rw [applyAll, SectionIndex.ofKind_ofList, h.applyEach_eq]
  exact congrArg (Prod.mk · st') (Plan.sorted_ofOutcomes os)

/-- With a steady renderer, cycles at different times give one plan and end in the same state but
for times. -/
theorem applyAll_times (hc : c.renderer.Steady) (x : SectionIndex) (st : ApplyState)
    (hn : now.isValid = true) (hn' : now'.isValid = true) :
    (c.applyAll now x st).1 = (c.applyAll now' x st).1 ∧
      (c.applyAll now x st).2.SameButTimes (c.applyAll now' x st).2 := by
  -- Both cycles start from one state, and each of their steps keeps the states the same but for
  -- times.
  have same : st.SameButTimes st := ⟨fun _ => rfl, FileTree.Corresponds.refl (fun _ => .inl rfl) _⟩
  obtain ⟨plans, states⟩ := applyEach_parallel (x.ofKind .dnsmasq)
    (fun s _ => parallel_apply_sameButTimes hc x s hn hn') same
  exact ⟨congrArg Plan.sorted plans, states⟩

/-! ### One instance more -/

/-- **An instance that cannot be rendered does not disturb the others**, if the renderer is steady.
Where it stands in the list does not matter, nor does its name. With it and without it, the others
have the same outcomes, one each, so that the same daemons are started in the same order; its own
outcome is its error, at its place among theirs; and memory and files end up the same, but for the
times in records. -/
theorem applyAll_insert_failing (c : Compiler) (steady : c.renderer.Steady)
    (hn : now.isValid = true) (hn' : now'.isValid = true) {before after : List Section}
    {b : Section} (hb : b.id.kind = .dnsmasq) {e : CompileError} {asked : Timestamp}
    (he : c.render (.ofList (before ++ b :: after)) b asked = .error e) (st : ApplyState) :
    ∃ os os' : List SectionOutcome,
      os.map Prod.fst = (SectionKind.dnsmasq.select before).map (·.id) ∧
      os'.map Prod.fst = (SectionKind.dnsmasq.select after).map (·.id) ∧
      (c.applyAll now (.ofList (before ++ after)) st).1 = .ofOutcomes (os ++ os') ∧
      (c.applyAll now' (.ofList (before ++ b :: after)) st).1 =
        .ofOutcomes (os ++ (b.id, .error e) :: os') ∧
      (c.applyAll now' (.ofList (before ++ b :: after)) st).1.actions =
        (c.applyAll now (.ofList (before ++ after)) st).1.actions ∧
      (c.applyAll now (.ofList (before ++ after)) st).2.SameButTimes
        (c.applyAll now' (.ofList (before ++ b :: after)) st).2 := by
  -- No instance sees the one that fails, so all others are rendered as they are without it.
  have alike : ∀ s, c.render (.ofList (before ++ after)) s now =
      c.render (.ofList (before ++ b :: after)) s now := fun s =>
    (c.render_congr (fun d _ => SectionIndex.agreeFor_insert_dnsmasq hb d) now).symm
  have fails := (render_steady steady now asked).trans he
  obtain ⟨os, st₁, first⟩ := c.exists_cycle now (.ofList (before ++ after))
    (SectionKind.dnsmasq.select before) st
  obtain ⟨os', st₂, rest⟩ := c.exists_cycle now (.ofList (before ++ after))
    (SectionKind.dnsmasq.select after) st₁
  -- With the instance, the cycle goes the same way, and stands still where the instance is.
  have longer := (first.congr_index fun s _ => alike s).append
    (.failed (apply_of_render_error fails st₁) (rest.congr_index fun s _ => alike s))
  rw [← SectionKind.select_cons_of_kind hb, ← SectionKind.select_append] at longer
  -- Without the instance, the same two parts follow on each other.
  have shorter := first.append rest
  rw [← SectionKind.select_append] at shorter
  obtain ⟨plans, states⟩ := applyAll_times steady (.ofList (before ++ b :: after)) st hn hn'
  rw [longer.applyAll_eq] at plans states
  rw [shorter.applyAll_eq, ← plans]
  refine ⟨os, os', first.map_fst, rest.map_fst, rfl, rfl, ?_, states⟩
  -- An error is no start.
  change (os ++ (b.id, .error e) :: os').filterMap SectionOutcome.start? =
    (os ++ os').filterMap SectionOutcome.start?
  rw [List.filterMap_append, List.filterMap_append, List.filterMap_cons_none rfl]

/-- An instance lists an interface that is not there, between two that serve nothing. -/
theorem applyAll_insert_failing_unserved : ∃ os os' : List SectionOutcome,
    os.map Prod.fst = [⟨.dnsmasq, "m"⟩] ∧ os'.map Prod.fst = [⟨.dnsmasq, "n"⟩] ∧
    (atHome.applyAll .epoch (.ofList [.plain "m", .listing "m" ["lan"], .plain "n"])
      ⟨{ home := [], entries := [] }, []⟩).1 = .ofOutcomes (os ++ (⟨.dnsmasq, "m"⟩,
        .error (.reference (.notFound "network" "interface" "lan"))) :: os') := by
  have valid : Timestamp.epoch.isValid = true := by decide
  have missing : atHome.render (.ofList ([.plain "m"] ++ .listing "m" ["lan"] :: [.plain "n"]))
      (.listing "m" ["lan"]) .epoch =
        .error (.reference (.notFound "network" "interface" "lan")) := rfl
  obtain ⟨os, os', first, rest, -, plan, -⟩ := applyAll_insert_failing atHome
    Renderer.steady_standard valid valid rfl missing ⟨{ home := [], entries := [] }, []⟩
  exact ⟨os, os', first, rest, plan⟩

end Compiler

end RouterConf
