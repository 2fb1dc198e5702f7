import RouterConf.Proofs.Dnsmasq.SignalFirst
import RouterConf.Proofs.Dnsmasq.Teardown

/-!
# Applied again and again

An instance may be applied many times before it is torn down, and its options may change in between.
Every apply announces two files, which its daemon then writes: a lease file and a pid file. A record
holds the files of one apply, and each apply puts its own in place of the one before.

So a teardown removes the files of the last apply. The pid file has been the same all along. The
lease file is for the instance to choose, and one that it has chosen before and given up is nowhere
remembered: if it is still there when the instance is torn down, it stays
(`Compiler.revert_leaves_lease`). Nothing else stays (`Compiler.Reapplied.nothing_left`).

* `Compiler.Reapplied`: a run of applies of one identity, and the files that they have announced.
* `Compiler.LeasesApart`: no lease file that was announced is the record itself. A daemon would
  write over the record otherwise.
* `Compiler.TearsDown`: a plan by which an identity is torn down, alone or with others.

What carries a run to its end is that the last apply stays on record
(`Compiler.Reapplied.onRecord`), and what a plan leaves that succeeds is said by
`Executor.pathExists_of_succeeded`.

Main statements: `Compiler.pathExists_of_teardown`, `Compiler.Reapplied.nothing_left`.
-/

namespace RouterConf

open FileTree (ChangesOnly Grows)

namespace Compiler

variable {c c' : Compiler} {now : Timestamp} {x : SectionIndex} {s : Section} {st st' : ApplyState}
  {t t' : FileTree} {id : SectionId} {paths : InstancePaths} {announced : List InstancePaths}
  {plan : List PlannedAction}

/-! ### Runs of applies -/

/-- **A run of applies** of one identity, with the files that the successful ones have announced
since the record was last forgotten, the last ones first. What an apply announces is named by its
configuration and by the start of its daemon (`Reapplied.named`). -/
inductive Reapplied (c : Compiler) (id : SectionId) : List InstancePaths → ApplyState → Prop where
  | start (st : ApplyState) : Reapplied c id [] st
  | applied {announced : List InstancePaths} {st st' : ApplyState} {now : Timestamp}
      {x : SectionIndex} {s : Section} {d : DnsmasqInstance} {actions : List PlannedAction}
      (earlier : Reapplied c id announced st) (same : s.id = id) (declares : s.asDnsmasq = some d)
      (valid : now.isValid = true) (ha : c.apply now x s st = .ok actions st') :
      Reapplied c id (c.paths s d :: announced) st'
  | failed {announced : List InstancePaths} {st st' : ApplyState} {now : Timestamp}
      {x : SectionIndex} {s : Section} {e : CompileError} (earlier : Reapplied c id announced st)
      (same : s.id = id) (ha : c.apply now x s st = .error e st') : Reapplied c id announced st'
  | forgotten {announced : List InstancePaths} {st st' : ApplyState}
      (earlier : Reapplied c id announced st) (hf : c.forget id st = .ok () st') :
      Reapplied c id [] st'
  /-- The process ends, and another takes its place. -/
  | restarted {announced : List InstancePaths} {st : ApplyState}
      (earlier : Reapplied c id announced st) : Reapplied c id announced st.restart
  /-- A daemon writes or removes files that have been announced. -/
  | daemon {announced : List InstancePaths} {st : ApplyState} {files : FileTree}
      (earlier : Reapplied c id announced st)
      (own : ChangesOnly (announced.flatMap fun p => [p.lease, p.pid]) st.files files) :
      Reapplied c id announced { st with files }

/-- No lease file that was announced is where the record is. -/
def LeasesApart (c : Compiler) (id : SectionId) (announced : List InstancePaths) (t : FileTree) :
    Prop :=
  ∀ p ∈ announced, ∀ l, t.Denotes (c.settings.store.pathOf id) l → ¬ t.Denotes p.lease l

/-- Lease files that are apart from the record later on have been so before. -/
theorem LeasesApart.of_grows (h : c.LeasesApart id announced t') (hg : Grows t t') :
    c.LeasesApart id announced t :=
  fun p hp l hr hl => h p hp l (hg.denotes hr) (hg.denotes hl)

/-- Where the pid file of an identity goes, whatever its options say. -/
def pidOf (c : Compiler) (id : SectionId) : Path :=
  c.settings.path ("dnsmasq-" ++ id.name ++ ".pid")

/-- A pid file is never where a record is. -/
theorem pidOf_apart {l : Location} {id' : SectionId}
    (h : t.Denotes (c.settings.store.pathOf id') l) : ¬ t.Denotes (c.pidOf id) l := fun h' =>
  h'.ne_of_suffix h (show ".pid".toList <:+ _ from Path.suffix_lastSegment_join _ _ _ (by decide))
    (RecordStore.suffix_lastSegment_pathOf _ _) (by decide) (by decide) rfl

namespace Reapplied

/-- All applies of an identity announce the same pid file. -/
theorem pid_eq (run : c.Reapplied id announced st) : ∀ p ∈ announced, p.pid = c.pidOf id := by
  induction run with
  | start st => simp
  | applied earlier same declares valid ha ih =>
    obtain rfl := same
    exact List.forall_mem_cons.2 ⟨rfl, ih⟩
  | failed earlier same ha ih => exact ih
  | forgotten earlier hf ih => simp
  | restarted earlier ih => exact ih
  | daemon earlier own ih => exact ih

/-- What has been announced was named by a configuration and by the start of a daemon. -/
theorem named (run : c.Reapplied id announced st) (hc : c.renderer = .standard) :
    ∀ p ∈ announced, ∃ now s actions st', s.id = id ∧ c.NamesPaths now s p actions st' := by
  induction run with
  | start st => simp
  | applied earlier same declares valid ha ih =>
    exact List.forall_mem_cons.2 ⟨⟨_, _, _, _, same, namesPaths_of_apply hc valid ha declares⟩, ih⟩
  | failed earlier same ha ih => exact ih
  | forgotten earlier hf ih => simp
  | restarted earlier ih => exact ih
  | daemon earlier own ih => exact ih

/-- **What was applied last is on record.** -/
theorem onRecord (run : c.Reapplied id announced st) (apart : c.LeasesApart id announced st.files) :
    ∀ last ∈ announced.head?, c.OnRecord id last st := by
  induction run with
  | start st => simp
  | applied earlier same declares valid ha ih =>
    rintro last ⟨⟩
    exact same ▸ .of_apply valid ha declares
  | failed earlier same ha ih =>
    exact fun last hl => (ih (apart.of_grows (grows_apply.error ha)) last hl).apply_error ha
  | forgotten earlier hf ih => simp
  | restarted earlier ih => exact fun last hl => (ih apart last hl).restart
  | daemon earlier own ih =>
    intro last hl
    -- The daemon writes lease files and pid files, and the record is in none of these.
    have before := ih (apart.of_grows own.toGrows) last hl
    refine before.of_changesOnly (fun hm => hm) own fun q hq l hr => ?_
    obtain ⟨p, hp, hq⟩ := List.mem_flatMap.1 hq
    simp only [List.mem_cons, List.not_mem_nil, or_false] at hq
    rcases hq with rfl | rfl
    · exact apart p hp l hr
    · rw [earlier.pid_eq p hp]
      exact pidOf_apart hr

end Reapplied

/-! ### Plans of a teardown -/

/-- **A plan by which an identity is torn down**: that of one of its sections, or that of an index
in which there is one. -/
inductive TearsDown (c : Compiler) (id : SectionId) (st : ApplyState) :
    List PlannedAction → Prop where
  | alone {s : Section} {plan : List PlannedAction} (same : s.id = id)
      (h : c.revert st s = .ok plan) : TearsDown c id st plan
  | among {x : SectionIndex} {s : Section} (same : s.id = id) (hs : s ∈ x.ofKind .dnsmasq)
      (declares : s.asDnsmasq.isSome) : TearsDown c id st (c.revertAll st x).actions

/-- A revert that succeeds has found the files on record, and takes down just those. -/
theorem revert_ok (h : c.revert st s = .ok plan) :
    ∃ paths, c.recordedPaths st s.id = .ok (some paths) ∧ plan = teardown s.id paths := by
  unfold revert instanceOf at h
  rcases hd : s.asDnsmasq with _ | d
  · rw [hd] at h
    cases h
  rcases hp : c.recordedPaths st s.id with e | _ | paths <;> rw [hd, hp] at h <;> cases h
  exact ⟨paths, rfl, rfl⟩

namespace TearsDown

/-- A teardown starts no process. -/
theorem starts_nothing (h : c.TearsDown id st plan) :
    ∀ a ∈ plan, ∀ argv, a.action ≠ .start argv := by
  cases h with
  | alone same h =>
    obtain ⟨paths, -, rfl⟩ := revert_ok h
    exact fun a ha => not_start_of_mem_teardown ha
  | among same hs declares => exact fun a ha => not_start_of_mem_revertAll ha

/-- The files on record are among those that are taken down. -/
theorem teardown_subset (h : c.TearsDown id st plan) (known : c.OnRecord id paths st) :
    teardown id paths ⊆ plan := by
  have recorded := known.recordedPaths_eq
  cases h with
  | alone same h =>
    obtain ⟨paths', hp, rfl⟩ := revert_ok h
    obtain rfl := same
    rw [recorded] at hp
    cases hp
    exact List.Subset.refl _
  | among same hs declares =>
    obtain rfl := same
    obtain ⟨d, hd⟩ := Option.isSome_iff_exists.1 declares
    exact fun a ha => mem_revertAll.2 ⟨_, List.mem_filterMap.2 ⟨_, hs, by rw [hd, recorded]⟩, ha⟩

end TearsDown

/-! ### What a teardown leaves -/

section Left

variable {host : Host} {signalled : List Nat} {report : ExecutionReport} {m : Machine}

/-- What a teardown leaves in which nothing fails. -/
theorem pathExists_of_teardown
    (ran : runPlan (Executor.system host) (teardown id paths) ⟨t, signalled⟩ = (report, m))
    (succeeded : report.failures = []) (p : Path) :
    m.files.pathExists p = true ↔
      t.pathExists p = true ∧ ¬ t.SamePlace p paths.lease ∧ ¬ t.SamePlace p paths.pid := by
  have takes : ∀ a ∈ teardown id paths, ∀ argv, a.action ≠ .start argv :=
    fun a ha => not_start_of_mem_teardown ha
  rw [Executor.pathExists_of_succeeded takes ran succeeded, teardown_eq]
  simp only [List.forall_mem_cons, List.not_mem_nil, false_implies, implies_true, and_true,
    reduceCtorEq, true_and, Action.removeFile.injEq, forall_eq']

/-- **Nothing is left of the applies.** An identity has been applied any number of times, and is
torn down, by this process or another, with no action failing. If every lease file that is still
there then is the one that was announced last, then none of the lease files and pid files that have
been announced is there any more. -/
theorem Reapplied.nothing_left (run : c.Reapplied id announced st)
    (apart : c.LeasesApart id announced st.files)
    (current : ∀ last ∈ announced.head?, ∀ p ∈ announced,
      st.files.pathExists p.lease = true → st.files.SamePlace p.lease last.lease)
    (settings : c'.settings = c.settings) (torn : c'.TearsDown id st plan)
    (ran : runPlan (Executor.system host) plan ⟨st.files, signalled⟩ = (report, m))
    (succeeded : report.failures = []) :
    ∀ p ∈ announced, m.files.pathExists p.lease = false ∧ m.files.pathExists p.pid = false := by
  intro p hp
  obtain ⟨last, rest, rfl⟩ := List.exists_cons_of_ne_nil (List.ne_nil_of_mem hp)
  have taken := torn.teardown_subset ((run.onRecord apart last rfl).of_settings settings)
  simp only [teardown_eq, List.cons_subset] at taken
  obtain ⟨-, lease, pid, -⟩ := taken
  -- What is there in the end has been there before, and was not taken away by any action.
  have left := Executor.pathExists_of_succeeded torn.starts_nothing ran succeeded
  refine ⟨Bool.eq_false_iff.2 fun there => ?_, Bool.eq_false_iff.2 fun there => ?_⟩
  · obtain ⟨before, elsewhere⟩ := (left p.lease).1 there
    exact elsewhere _ lease last.lease rfl (current last rfl p hp before)
  · obtain ⟨-, elsewhere⟩ := (left p.pid).1 there
    -- The pid file has been the same all along.
    refine elsewhere _ pid last.pid rfl (.inl ?_)
    rw [run.pid_eq p hp, run.pid_eq last List.mem_cons_self]

end Left

/-! ### An instance that changes its lease file -/

/-- A daemon instance that keeps its leases in a file of its own choice. -/
def leasingAt (leaseFile : Path) : DnsmasqInstance :=
  { DnsmasqInstance.plain with leasefile := some leaseFile }

/-- The section of such an instance. -/
def leasing (leaseFile : Path) : Section where
  id := ⟨.dnsmasq, "m"⟩
  source := "router.yaml"
  options := []
  body := .dnsmasq (leasingAt leaseFile)

/-- The files of such an instance. -/
def pathsLeasing (leaseFile : Path) : InstancePaths :=
  atHome.paths (leasing leaseFile) (leasingAt leaseFile)

/-- What such an instance leaves when it has been applied, with the leases of its daemons. -/
def leased (config : String) (leaseFile : Path) (leases : List String) : FileTree where
  home := []
  entries := [(["state", "dnsmasq-m.json"],
      .file (.text (ApplyRecord.text ⟨⟨.dnsmasq, "m"⟩, .epoch, pathsLeasing leaseFile⟩))),
    (["dnsmasq-m.conf"], .file (.text config))] ++
      leases.map (fun name => ([name], .file (.text ""))) ++ [(["state"], .directory)]

/-- The instance is applied, its daemon writes leases, and it is applied again, with this lease file
or another. -/
theorem exists_reapplied {leaseFile : Path} (h : leaseFile ∈ ["a.leases", "b.leases"]) :
    ∃ config st, st.files = leased config leaseFile ["a.leases"] ∧
      atHome.Reapplied ⟨.dnsmasq, "m"⟩ [pathsLeasing leaseFile, pathsLeasing "a.leases"] st := by
  have rendered (leaseFile : Path) : ∃ text, atHome.renderInstance (.ofList []) (leasing leaseFile)
      (leasingAt leaseFile) .epoch = .ok text := exists_renderInstance rfl _ rfl rfl .epoch
  obtain ⟨first, h₁⟩ := rendered "a.leases"
  obtain ⟨config, h₂⟩ := rendered leaseFile
  -- The first apply makes the record, the daemon writes its leases, and the second apply comes upon
  -- both.
  have applied : ∃ st, atHome.Reapplied ⟨.dnsmasq, "m"⟩ [pathsLeasing "a.leases"] st ∧
      st.files = leased first "a.leases" [] :=
    ⟨_, .applied (.start ⟨recordsMade, []⟩) rfl rfl (by decide)
      (apply_of_save_ok rfl h₁ rfl rfl), rfl⟩
  obtain ⟨st₁, run₁, files₁⟩ := applied
  have lease : st₁.files.Denotes "a.leases" ["a.leases"] := by
    rw [files₁]
    exact ⟨[], _, rfl, by decide, rfl⟩
  have free : st₁.files.get? ["a.leases"] = none := by
    rw [files₁]
    rfl
  have run₂ := run₁.daemon
    (FileTree.changesOnly_insert_file lease (by simp [free]) (.text "") List.mem_cons_self)
  rw [files₁] at run₂
  have again : ∃ actions st₂, atHome.apply .epoch (.ofList []) (leasing leaseFile)
      ⟨(leased first "a.leases" []).insert ["a.leases"] (.file (.text "")), st₁.applied⟩ =
        .ok actions st₂ ∧ st₂.files = leased config leaseFile ["a.leases"] := by
    simp only [List.mem_cons, List.not_mem_nil, or_false] at h
    rcases h with rfl | rfl
    · exact ⟨_, _, apply_of_save_ok rfl h₂ rfl rfl, rfl⟩
    · exact ⟨_, _, apply_of_save_ok rfl h₂ rfl rfl, rfl⟩
  obtain ⟨actions, st₂, applied₂, files₂⟩ := again
  exact ⟨config, st₂, files₂, run₂.applied rfl rfl (by decide) applied₂⟩

/-- A lease file is never where the record is. -/
theorem leasesApart_leasing (leaseFiles : List Path)
    (h : ∀ name ∈ leaseFiles, name ∈ ["a.leases", "b.leases"]) (t : FileTree) :
    atHome.LeasesApart ⟨.dnsmasq, "m"⟩ (leaseFiles.map pathsLeasing) t := by
  intro p hp l hr hl
  obtain ⟨name, hname, rfl⟩ := List.mem_map.1 hp
  -- A lease file and a record have endings that no name can share.
  have ending : ".leases".toList <:+ name.lastSegment := by
    have known := h name hname
    simp only [List.mem_cons, List.not_mem_nil, or_false] at known
    rcases known with rfl | rfl <;> decide
  exact hl.ne_of_suffix hr ending (RecordStore.suffix_lastSegment_pathOf _ _) (by decide)
    (by decide) rfl

/-- A lease file that was kept to is gone after the teardown, though there had been leases. -/
theorem Reapplied.nothing_left_leasing : ∃ st report m,
    atHome.Reapplied ⟨.dnsmasq, "m"⟩ [pathsLeasing "a.leases", pathsLeasing "a.leases"] st ∧
      st.files.pathExists "a.leases" = true ∧
      runPlan (Executor.system Host.minimal)
        (teardown ⟨.dnsmasq, "m"⟩ (pathsLeasing "a.leases")) ⟨st.files, []⟩ = (report, m) ∧
      m.files.pathExists "a.leases" = false ∧ m.files.pathExists "dnsmasq-m.pid" = false := by
  obtain ⟨config, st, files, run⟩ := exists_reapplied (List.mem_cons_self (a := "a.leases"))
  have apart : atHome.LeasesApart ⟨.dnsmasq, "m"⟩
      [pathsLeasing "a.leases", pathsLeasing "a.leases"] st.files :=
    leasesApart_leasing ["a.leases", "a.leases"] (by simp) _
  have known := run.onRecord apart _ rfl
  have torn : atHome.TearsDown ⟨.dnsmasq, "m"⟩ st
      (teardown ⟨.dnsmasq, "m"⟩ (pathsLeasing "a.leases")) :=
    .alone (s := leasing "a.leases") rfl (known.revert_eq_teardown rfl)
  have ran : ∃ m, runPlan (Executor.system Host.minimal)
      (teardown ⟨.dnsmasq, "m"⟩ (pathsLeasing "a.leases")) ⟨st.files, []⟩ =
        ({ executed := 3 }, m) := by
    rw [runPlan, sortPlan_teardown, files]
    exact ⟨_, rfl⟩
  obtain ⟨m, ran⟩ := ran
  have gone := run.nothing_left apart (by simp [FileTree.SamePlace]) rfl torn ran rfl
    (pathsLeasing "a.leases") List.mem_cons_self
  refine ⟨st, _, m, run, ?_, ran, gone⟩
  rw [files]
  rfl

/-- **A lease file that was given up stays.** The instance is applied, its daemon writes leases, and
it is applied again with another lease file. All actions of the teardown succeed, and the leases are
still there. -/
theorem revert_leaves_lease :
    ¬ ∀ (c : Compiler) (id : SectionId) (announced : List InstancePaths) (st : ApplyState)
      (plan : List PlannedAction) (host : Host) (signalled : List Nat) (report : ExecutionReport)
      (m : Machine), c.Reapplied id announced st → c.TearsDown id st plan →
      runPlan (Executor.system host) plan ⟨st.files, signalled⟩ = (report, m) →
      report.failures = [] →
      ∀ p ∈ announced, m.files.pathExists p.lease = false ∧ m.files.pathExists p.pid = false := by
  intro claimed
  have other : "b.leases" ∈ ["a.leases", "b.leases"] := by simp
  obtain ⟨config, st, files, run⟩ := exists_reapplied other
  have known := run.onRecord
    (leasesApart_leasing ["b.leases", "a.leases"] (by simp) _) _ rfl
  have torn : atHome.TearsDown ⟨.dnsmasq, "m"⟩ st
      (teardown ⟨.dnsmasq, "m"⟩ (pathsLeasing "b.leases")) :=
    .alone (s := leasing "b.leases") rfl (known.revert_eq_teardown rfl)
  -- Neither a pid file nor a lease file of the last apply is there.
  have ran : runPlan (Executor.system Host.minimal)
      (teardown ⟨.dnsmasq, "m"⟩ (pathsLeasing "b.leases")) ⟨st.files, []⟩ =
        ({ executed := 3 }, ⟨st.files, []⟩) := by
    rw [runPlan, sortPlan_teardown, files]
    rfl
  have gone := (claimed _ _ _ _ _ _ _ _ _ run torn ran rfl (pathsLeasing "a.leases") (by simp)).1
  rw [files] at gone
  cases gone

end Compiler

end RouterConf
