import RouterConf.Proofs.Dnsmasq.Commit
import RouterConf.Proofs.Plan.Order

/-!
# The daemon is asked to end first

A pid file that is not there counts as a daemon that has ended. If it were removed before the daemon
is asked to end, nothing would fail and the daemon would stay. That this does not happen rests on
the order alone: the actions of a teardown have one priority, so that they are carried out in the
order in which they were planned, and other plans with which they are run cannot turn them around.

A pid file can still be lost to another action: if the lease file of some instance is the pid file
of an instance after it, it is removed too early. That is to be excluded, and nothing else is. What
counts as the same file is left open (`names`): it may be that the paths are equal, or that they
lead to one place.

Main statements: `Compiler.handed_names`, `Compiler.revertAll_signals_first`.
-/

namespace RouterConf

/-! ### Signals before removals -/

/-- In the order of the actions, no pid file is removed that has not been read to ask the daemon to
end. -/
def SignalsBefore (actions : List Action) : Prop :=
  ∀ q l₁ l₂, actions = l₁ ++ .removeFile q :: l₂ → .killPidFile q ∈ l₁

namespace SignalsBefore

/-- Where nothing is removed, there is nothing to ask for before. -/
theorem nil : SignalsBefore [] := by
  intro q l₁ l₂ h
  simp at h

/-- The daemon is asked to end, and then its pid file goes. -/
theorem pair (p : Path) : SignalsBefore [.killPidFile p, .removeFile p] := by
  intro q l₁ l₂ h
  -- The removal is the second of the two, so that just the first is before it.
  match l₁ with
  | [] => simp at h
  | [a] =>
    simp only [List.cons_append, List.nil_append, List.cons.injEq, Action.removeFile.injEq] at h
    obtain ⟨rfl, rfl, -⟩ := h
    exact List.mem_singleton.2 rfl
  | a :: b :: rest => simp at h

/-- Two lists of actions in which signals come first may be put one after the other. -/
theorem append {as bs : List Action} (ha : SignalsBefore as) (hb : SignalsBefore bs) :
    SignalsBefore (as ++ bs) := by
  intro q l₁ l₂ h
  -- The removal is in the second list, and then its signal is too, or it is in the first.
  rcases List.append_eq_append_iff.1 h with ⟨between, rfl, tail⟩ | ⟨between, rfl, tail⟩
  · exact List.mem_append_right _ (hb q between l₂ tail)
  · cases between with
    | nil => exact absurd (hb q [] l₂ tail.symm) List.not_mem_nil
    | cons b between =>
      obtain ⟨rfl, rfl⟩ := List.cons.inj tail
      exact ha q l₁ between rfl

/-- What holds of the actions on some files holds of these files in the list of all. -/
theorem of_filter {actions : List Action} {group : Action → Bool} {q : Path}
    (h : SignalsBefore (actions.filter group)) (hq : group (.removeFile q) = true)
    {l₁ l₂ : List Action} (eq : actions = l₁ ++ .removeFile q :: l₂) : .killPidFile q ∈ l₁ := by
  -- To filter keeps the order, and the signal that is found is one of the list.
  rw [eq, List.filter_append, List.filter_cons_of_pos hq] at h
  exact (List.mem_filter.1 (h q _ _ rfl)).1

end SignalsBefore

namespace Compiler

variable {c : Compiler} {x : SectionIndex} {st : ApplyState} {before after : List PlannedAction}

/-! ### What is torn down -/

/-- The instances among some sections that are torn down, with their files, in order. -/
def tornDown (c : Compiler) (st : ApplyState) (ss : List Section) :
    List (SectionId × InstancePaths) :=
  ss.filterMap fun s =>
    match s.asDnsmasq, c.recordedPaths st s.id with
    | some _, .ok (some paths) => some (s.id, paths)
    | _, _ => none

/-- What is planned for some sections is the teardown of those that are torn down, in their order.
-/
theorem actions_revertEach (c : Compiler) (st : ApplyState) (ss : List Section) :
    (c.revertEach st ss).actions =
      (c.tornDown st ss).flatMap fun torn => teardown torn.1 torn.2 := by
  induction ss with
  | nil => rfl
  | cons s rest ih =>
    rw [revertEach, tornDown, List.filterMap_cons, ← tornDown]
    unfold revertIfApplied isApplied revert
    -- A section adds a teardown only if its files are found and it declares an instance.
    rcases hp : c.recordedPaths st s.id with e | _ | paths
    · cases s.asDnsmasq <;> exact ih
    · cases s.asDnsmasq <;> simp [Plan.prepend, ih, bind, Except.bind, pure, Except.pure]
    · cases hd : s.asDnsmasq with
      | none => simp [Plan.prepend, instanceOf, hd, ih, bind, Except.bind, pure, Except.pure]
      | some d => simp [Plan.prepend, instanceOf, hd, ih, bind, Except.bind, pure, Except.pure]

/-- The actions of a teardown are those for the instances that are torn down. -/
theorem mem_revertAll {a : PlannedAction} : a ∈ (c.revertAll st x).actions ↔
    ∃ torn ∈ c.tornDown st (x.ofKind .dnsmasq), a ∈ teardown torn.1 torn.2 := by
  rw [revertAll_eq, actions_revertEach, List.mem_flatMap]

/-- A teardown starts nothing. -/
theorem not_start_of_mem_teardown {id : SectionId} {paths : InstancePaths} {a : PlannedAction}
    (ha : a ∈ teardown id paths) (argv : List String) : a.action ≠ .start argv := by
  obtain ⟨action, among, rfl⟩ := List.mem_map.1 ha
  simp only [List.mem_cons, List.not_mem_nil, or_false] at among
  rcases among with rfl | rfl | rfl <;> simp

/-- The actions of a teardown start nothing. -/
theorem not_start_of_mem_revertAll {a : PlannedAction} (ha : a ∈ (c.revertAll st x).actions)
    (argv : List String) : a.action ≠ .start argv := by
  obtain ⟨torn, -, ha⟩ := mem_revertAll.1 ha
  exact not_start_of_mem_teardown ha argv

/-- An instance of the index has these files on record, in memory or in the store. -/
def Recorded (c : Compiler) (st : ApplyState) (x : SectionIndex) (paths : InstancePaths) : Prop :=
  ∃ s ∈ x.ofKind .dnsmasq, s.asDnsmasq.isSome ∧ c.recordedPaths st s.id = .ok (some paths)

/-- The files on record are those of the instances that are torn down. -/
theorem recorded_iff {paths : InstancePaths} :
    c.Recorded st x paths ↔ ∃ id, (id, paths) ∈ c.tornDown st (x.ofKind .dnsmasq) := by
  constructor
  · rintro ⟨s, hs, hd, hp⟩
    obtain ⟨d, hd⟩ := Option.isSome_iff_exists.1 hd
    exact ⟨s.id, List.mem_filterMap.2 ⟨s, hs, by rw [hd, hp]⟩⟩
  · rintro ⟨id, h⟩
    obtain ⟨s, hs, h⟩ := List.mem_filterMap.1 h
    split at h
    · rename_i d paths' hd hp
      cases h
      exact ⟨s, hs, by rw [hd]; rfl, hp⟩
    · cases h

/-! ### The actions on some files -/

variable {names : Path → Bool}

/-- Of a teardown whose lease file is not among the files, the other two actions are left, or
none. -/
theorem filter_teardown {id : SectionId} {paths : InstancePaths}
    (lease : names paths.lease = false) :
    ((teardown id paths).map (·.action)).filter (·.path?.any names) =
      if names paths.pid = true then [.killPidFile paths.pid, .removeFile paths.pid] else [] := by
  cases hp : names paths.pid <;> simp [teardown, Action.path?, lease, hp]

/-- In teardowns one after the other, no pid file goes before its signal, where no lease file is in
its place. -/
theorem signalsBefore_teardowns {torn : List (SectionId × InstancePaths)}
    (lease : ∀ r ∈ torn, names r.2.lease = false) :
    SignalsBefore (((torn.flatMap fun r => teardown r.1 r.2).map (·.action)).filter
      (·.path?.any names)) := by
  -- By induction on the teardowns: of each, either both actions on the pid file are left, or none
  -- is.
  induction torn with
  | nil => exact .nil
  | cons r rest ih =>
    obtain ⟨first, others⟩ := List.forall_mem_cons.1 lease
    rw [List.flatMap_cons, List.map_append, List.filter_append, filter_teardown first]
    split
    · exact (SignalsBefore.pair _).append (ih others)
    · exact SignalsBefore.nil.append (ih others)

/-- If there is a pid file among the files, then the first action on any of them is one that asks a
daemon to end. -/
theorem head?_teardowns {torn : List (SectionId × InstancePaths)}
    (lease : ∀ r ∈ torn, names r.2.lease = false) (pid : ∃ r ∈ torn, names r.2.pid = true) :
    ∃ q, names q = true ∧ (((torn.flatMap fun r => teardown r.1 r.2).map (·.action)).filter
      (·.path?.any names)).head? = some (.killPidFile q) := by
  induction torn with
  | nil =>
    obtain ⟨r, hr, -⟩ := pid
    cases hr
  | cons r rest ih =>
    obtain ⟨first, others⟩ := List.forall_mem_cons.1 lease
    rw [List.flatMap_cons, List.map_append, List.filter_append, filter_teardown first]
    -- Either the first teardown has a pid file among the files, or it leaves them all alone.
    split_ifs with hr
    · exact ⟨r.2.pid, hr, rfl⟩
    · obtain ⟨r', hr', named⟩ := pid
      rcases List.mem_cons.1 hr' with rfl | later
      · exact absurd named hr
      · exact ih others ⟨r', later, named⟩

/-! ### The actions that an executor is handed -/

/-- **The actions on some files are those of the teardown, in its order**, if the other plans leave
these files alone. -/
theorem handed_filter {σ : Type} (c : Compiler) (st : ApplyState) (x : SectionIndex)
    (foreign : ∀ a ∈ before ++ after, a.action.path?.any names = false) (execute : Executor σ)
    (s : σ) :
    (execute.handed (before ++ (c.revertAll st x).actions ++ after) s).filter (·.path?.any names) =
      (((c.tornDown st (x.ofKind .dnsmasq)).flatMap fun r => teardown r.1 r.2).map
        (·.action)).filter (·.path?.any names) := by
  obtain ⟨foreign_before, foreign_after⟩ := List.forall_mem_append.1 foreign
  -- What is left of the plan after filtering comes from the teardown, and has its priority.
  have level : ∀ a ∈ before ++ (c.revertAll st x).actions ++ after,
      a.action.path?.any names = true → a.priority = -startPriority := by
    intro a ha touches
    rw [List.append_assoc, List.mem_append, List.mem_append] at ha
    rcases ha with ha | ha | ha
    · simp [foreign_before a ha] at touches
    · rw [revertAll_eq] at ha
      exact (mem_revertEach_actions ha).1
    · simp [foreign_after a ha] at touches
  -- Nothing is left of the other plans.
  have none_of : ∀ {plan : List PlannedAction},
      (∀ a ∈ plan, a.action.path?.any names = false) →
        plan.filter (fun a => a.action.path?.any names) = [] :=
    fun h => List.filter_eq_nil_iff.2 fun a ha => by simp [h a ha]
  have taken : ((fun a : Action => a.path?.any names) ∘ fun a : PlannedAction => a.action) =
      fun a => a.action.path?.any names := rfl
  -- Of one priority, the actions are handed over in the order in which they were planned.
  rw [Executor.handed_eq, List.filter_map, List.filter_map, taken, filter_sortPlan level,
    List.filter_append, List.filter_append, none_of foreign_before, none_of foreign_after,
    List.nil_append, List.append_nil, revertAll_eq, actions_revertEach]

/-- **Signal before removal, for any notion of the same file.** Let some files be such that no
recorded lease file is among them, but a recorded pid file is, and run the teardown between plans
that leave them alone. Then the first action on any of these files asks a daemon to end, and none of
them is removed before. -/
theorem handed_names {σ : Type} (names : Path → Bool)
    (lease : ∀ r, c.Recorded st x r → names r.lease = false)
    (pid : ∃ r, c.Recorded st x r ∧ names r.pid = true)
    (foreign : ∀ a ∈ before ++ after, a.action.path?.any names = false) (execute : Executor σ)
    (s : σ) :
    (∃ q, names q = true ∧
      (execute.handed (before ++ (c.revertAll st x).actions ++ after) s).find?
        (·.path?.any names) = some (.killPidFile q)) ∧
    ∀ q l₁ l₂, names q = true →
      execute.handed (before ++ (c.revertAll st x).actions ++ after) s =
        l₁ ++ .removeFile q :: l₂ → .killPidFile q ∈ l₁ := by
  have group := handed_filter c st x foreign execute s
  -- What is on record and what is torn down are the same.
  have lease' : ∀ r ∈ c.tornDown st (x.ofKind .dnsmasq), names r.2.lease = false :=
    fun r hr => lease r.2 (recorded_iff.2 ⟨r.1, hr⟩)
  obtain ⟨r, recorded, named⟩ := pid
  obtain ⟨id, hr⟩ := recorded_iff.1 recorded
  constructor
  · rw [← List.head?_filter, group]
    exact head?_teardowns lease' ⟨(id, r), hr, named⟩
  · intro q l₁ l₂ hq
    have ordered := signalsBefore_teardowns lease'
    rw [← group] at ordered
    exact ordered.of_filter hq

/-- **A daemon is asked to end before its pid file is removed.** Take down all instances of an
index, of which no recorded lease file is a recorded pid file, and run the plan between any other
actions that are not on a certain one of the pid files. Whatever the executor makes of them, the
first action on this file that it is handed is the one that asks the daemon to end, and each that
removes it comes after one. -/
theorem revertAll_signals_first {σ : Type}
    (apart : ∀ r r', c.Recorded st x r → c.Recorded st x r' → r.lease ≠ r'.pid)
    {paths : InstancePaths} (recorded : c.Recorded st x paths)
    (foreign : ∀ a ∈ before ++ after, a.action.path? ≠ some paths.pid) (execute : Executor σ)
    (s : σ) :
    (execute.handed (before ++ (c.revertAll st x).actions ++ after) s).find?
        (fun a => a.path? = some paths.pid) = some (.killPidFile paths.pid) ∧
      ∀ l₁ l₂, execute.handed (before ++ (c.revertAll st x).actions ++ after) s =
        l₁ ++ .removeFile paths.pid :: l₂ → .killPidFile paths.pid ∈ l₁ := by
  -- The files are those at one path: here the same file means the same path.
  have on_path : ∀ o : Option Path,
      o.any (fun q => decide (q = paths.pid)) = decide (o = some paths.pid) := by
    intro o
    cases o <;> simp
  obtain ⟨⟨q, hq, first⟩, removed⟩ := handed_names (fun q => decide (q = paths.pid))
    (fun r hr => by simpa using apart r paths hr recorded) ⟨paths, recorded, by simp⟩
    (fun a ha => by simpa [on_path] using foreign a ha) execute s
  obtain rfl := of_decide_eq_true hq
  simp only [on_path] at first
  exact ⟨first, fun l₁ l₂ => removed _ l₁ l₂ (by simp)⟩

/-- Actions of another section, one of them before all and one after all of a teardown. -/
def foreignActions : List PlannedAction :=
  [⟨-100, ⟨.interface, "lan"⟩, .removeFile "lan.tmp"⟩, ⟨100, ⟨.interface, "lan"⟩, .start ["true"]⟩]

/-- Two instances are taken down, of which one is declared twice. -/
theorem revertAll_signals_first_remembering :
    let index := SectionIndex.ofList [.plain "m", .plain "n", .plain "m"]
    let st := remembering "m" "n" { home := [], entries := [] }
    let handed := Executor.handed (Executor.idle : Executor Unit)
      (foreignActions ++ (atHome.revertAll st index).actions ++ foreignActions) ()
    handed.find? (fun a => a.path? = some "dnsmasq-n.pid") = some (.killPidFile "dnsmasq-n.pid") ∧
      ∀ l₁ l₂, handed = l₁ ++ .removeFile "dnsmasq-n.pid" :: l₂ →
        .killPidFile "dnsmasq-n.pid" ∈ l₁ := by
  intro index st handed
  -- Memory holds the files of two instances, and the store is empty.
  have recorded_cases : ∀ r, atHome.Recorded st index r →
      r = atHome.paths (.plain "m") .plain ∨ r = atHome.paths (.plain "n") .plain := by
    rintro r ⟨s, hs, -, hr⟩
    have hs : s ∈ [Section.plain "m", .plain "n", .plain "m"] := hs
    simp only [List.mem_cons, List.not_mem_nil, or_false] at hs
    rcases hs with rfl | rfl | rfl
    · exact .inl (Option.some.inj (Except.ok.inj hr)).symm
    · exact .inr (Option.some.inj (Except.ok.inj hr)).symm
    · exact .inl (Option.some.inj (Except.ok.inj hr)).symm
  have apart : ∀ r r', atHome.Recorded st index r → atHome.Recorded st index r' →
      r.lease ≠ r'.pid := by
    intro r r' hr hr'
    rcases recorded_cases r hr with rfl | rfl <;> rcases recorded_cases r' hr' with rfl | rfl <;>
      decide
  have recorded : atHome.Recorded st index (atHome.paths (.plain "n") .plain) :=
    ⟨.plain "n", List.mem_cons_of_mem _ List.mem_cons_self, rfl, rfl⟩
  exact revertAll_signals_first apart recorded (by decide) _ ()

end Compiler

end RouterConf
