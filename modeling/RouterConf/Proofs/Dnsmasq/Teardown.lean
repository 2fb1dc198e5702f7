import RouterConf.Host.Minimal
import RouterConf.Proofs.Dnsmasq.OnRecord
import RouterConf.Proofs.Plan.System

/-!
# From apply to teardown

An apply hands the paths of an instance to four places: the command line of the daemon, the
configuration that the daemon reads, the memory of the process, and the record. They are the same
paths everywhere (`Compiler.NamesPaths`), and the teardown is planned with them, by whatever process
and however the section has been edited (`Compiler.OnRecord.revert_eq_teardown`).

Carrying out the teardown takes away the lease file and the pid file and nothing else, even if the
daemon cannot be asked to end. Only if it could be, the record is dropped as well; else it stays,
and the teardown can be tried again (`Compiler.Teardown`). The configuration is left as it was
applied.

Main statement: `Compiler.apply_revert`.
-/

namespace RouterConf

open FileTree (AgreeBut Without)

/-- What is resolved has the lease file that it was resolved with. -/
theorem DnsmasqContext.resolve_leaseFile {x : SectionIndex} {s : Section} {d : DnsmasqInstance}
    {leaseFile : Path} {payload : DnsmasqContext} (h : resolve x s d leaseFile = .ok payload) :
    payload.leaseFile = leaseFile := by
  unfold resolve at h
  rcases hi : (effectiveInterfaces d x).mapM (ServedInterface.resolve x) with e | interfaces
  · rw [hi] at h
    cases h
  · rw [hi] at h
    cases h
    rfl

/-- The first directive of a configuration names the lease file. -/
theorem DnsmasqContext.lines_eq_leaseFile (payload : DnsmasqContext) : ∃ rest, payload.lines =
    payload.bannerLines ++ ("dhcp-leasefile=" ++ payload.leaseFile) :: rest := by
  unfold lines directiveLines
  simp only [List.append_assoc, List.cons_append, List.nil_append]
  exact ⟨_, rfl⟩

namespace Compiler

variable {c : Compiler} {now : Timestamp} {x : SectionIndex} {s : Section} {st st' : ApplyState}
  {t t' : FileTree} {id : SectionId} {paths : InstancePaths} {lease pid record : Location}

/-! ### The paths of an apply -/

/-- **The same paths everywhere**: where the daemon is told to read its configuration and to write
its pid, where the configuration says that leases go, in memory, and on record. -/
structure NamesPaths (c : Compiler) (now : Timestamp) (s : Section) (paths : InstancePaths)
    (actions : List PlannedAction) (st : ApplyState) : Prop where
  command : actions = [⟨startPriority, s.id, .start
    [c.settings.program, "--conf-file=" ++ paths.config, "--pid-file=" ++ paths.pid]⟩]
  config : ∃ (payload : DnsmasqContext) (rest : List String),
    st.files.status paths.config = .ok (.file (.text (Text.ofLines
      (payload.bannerLines ++ ("dhcp-leasefile=" ++ paths.lease) :: rest))))
  memory : st.applied.get? s.id = some paths
  record : c.settings.store.load s.id st.files = .ok (some ⟨s.id, now, paths⟩)

/-- The configuration that is put in place is still there when the record has been kept. -/
theorem config_of_save {d : DnsmasqInstance} {text : String} {r : ApplyRecord}
    (hp : place (c.paths s d) text t = .ok () t')
    (hr : c.settings.store.save s.id paths now t' = .ok r st'.files) :
    st'.files.status (c.configOf s) = .ok (.file (.text text)) := by
  have saved := (RecordStore.touches_save _ _ _ _).ok hr
  exact (config_of_changesOnly hp saved).1

/-- **An apply hands out the same paths everywhere.** -/
theorem namesPaths_of_apply (hc : c.renderer = .standard) (hn : now.isValid = true)
    {actions : List PlannedAction} (ha : c.apply now x s st = .ok actions st') {d : DnsmasqInstance}
    (hd : s.asDnsmasq = some d) : c.NamesPaths now s (c.paths s d) actions st' := by
  obtain ⟨d', text, t₁, hd', ht, hp, hr, memory, command⟩ := apply_ok ha
  obtain rfl := Option.some.inj (hd.symm.trans (instanceOf_eq_ok.1 hd'))
  obtain ⟨payload, resolved, rendered⟩ := (renderInstance_eq_ok_iff hc).1 ht
  obtain ⟨rest, hrest⟩ := payload.lines_eq_leaseFile
  have config := config_of_save hp hr
  rw [rendered, hrest, DnsmasqContext.resolve_leaseFile resolved] at config
  refine ⟨command, ⟨payload, rest, config⟩, ?_, RecordStore.load_of_save hn hr⟩
  rw [memory, Applied.get?_insert_self]

/-! ### Carrying out a teardown -/

/-- The three actions of a teardown: the daemon is asked to end before its files go. -/
theorem teardown_eq (id : SectionId) (paths : InstancePaths) : teardown id paths =
    [⟨-startPriority, id, .killPidFile paths.pid⟩, ⟨-startPriority, id, .removeFile paths.lease⟩,
      ⟨-startPriority, id, .removeFile paths.pid⟩] := rfl

/-- The actions of a teardown have one priority, so that their order is kept. -/
theorem sortPlan_teardown (id : SectionId) (paths : InstancePaths) :
    sortPlan (teardown id paths) = teardown id paths := by
  have level : ∀ a ∈ teardown id paths, a.priority = -startPriority := by simp [teardown]
  exact sortPlan_of_priority level

/-- **A teardown takes the lease file and the pid file**, and reports how asking the daemon to end
went. -/
theorem run_teardown (hl : t.Denotes paths.lease lease) (hp : t.Denotes paths.pid pid)
    (hdir : ∀ l ∈ [lease, pid], t.get? l ≠ some .directory) (id : SectionId) (host : Host)
    (signalled : List Nat) :
    ∃ t' signalled', t.Without [lease, pid] t' ∧
      (Executor.killPidFile host paths.pid ⟨t, signalled⟩ = .ok () ⟨t, signalled'⟩ ∧
          runPlan (Executor.system host) (teardown id paths) ⟨t, signalled⟩ =
            ({ executed := 3 }, ⟨t', signalled'⟩) ∨
        ∃ e, Executor.killPidFile host paths.pid ⟨t, signalled⟩ = .error e ⟨t, signalled'⟩ ∧
          runPlan (Executor.system host) (teardown id paths) ⟨t, signalled⟩ =
            ({ executed := 2, failures := [(⟨-startPriority, id, .killPidFile paths.pid⟩, e)] },
              ⟨t', signalled'⟩)) := by
  -- The kill changes no file, so the two removals start from the tree that there was.
  obtain ⟨signalled', killed⟩ := Executor.killPidFile_cases host paths.pid ⟨t, signalled⟩
  obtain ⟨t₁, removed₁, without₁⟩ := Executor.removeFile_of_denotes
    (m := ⟨t, signalled'⟩) host hl (hdir lease (by simp))
  have grows := without₁.grows fun l hm => hdir l (by simp [List.mem_singleton.1 hm])
  have hdir₁ : t₁.get? pid ≠ some .directory := by
    rw [without₁.get?]
    split
    · simp
    · exact hdir pid (by simp)
  obtain ⟨t₂, removed₂, without₂⟩ := Executor.removeFile_of_denotes
    (m := ⟨t₁, signalled'⟩) host (grows.denotes hp) hdir₁
  have removed : runOrdered (Executor.system host) [⟨-startPriority, id, .removeFile paths.lease⟩,
      ⟨-startPriority, id, .removeFile paths.pid⟩] ⟨t, signalled'⟩ =
      ({ executed := 2 }, ⟨t₂, signalled'⟩) := by
    rw [runOrdered_cons_ok removed₁, runOrdered_cons_ok removed₂]
    rfl
  refine ⟨t₂, signalled', without₁.trans without₂, ?_⟩
  rw [runPlan, sortPlan_teardown, teardown_eq]
  -- Whatever becomes of the daemon, the files go.
  rcases killed with killed | ⟨e, killed⟩
  · have first : Executor.system host (.killPidFile paths.pid) ⟨t, signalled⟩ =
        .ok () ⟨t, signalled'⟩ := killed
    exact .inl ⟨killed, by rw [runOrdered_cons_ok first, removed]⟩
  · have first : Executor.system host (.killPidFile paths.pid) ⟨t, signalled⟩ =
        .error e ⟨t, signalled'⟩ := killed
    exact .inr ⟨e, killed, by rw [runOrdered_cons_error first, removed]⟩

/-! ### Committing to a teardown -/

/-- A record that is where its path leads can be dropped. -/
theorem forget_of_denotes (hd : t.Denotes (c.settings.store.pathOf id) record)
    (hn : t.get? record ≠ some .directory) (a : Applied) :
    ∃ t', c.forget id ⟨t, a⟩ = .ok () ⟨t', a.erase id⟩ ∧ t.Without [record] t' := by
  obtain ⟨t', removed, without⟩ := Change.removeIfPresent_of_denotes hd hn
  refine ⟨t', run_bind_eq_ok.2 ⟨(), ⟨t, a.erase id⟩, rfl, ?_⟩, without⟩
  exact ApplyStep.onFiles_eq_ok.2 ⟨removed, rfl⟩

/-- What has been forgotten does not count as applied. -/
theorem isApplied_of_forget (h : c.forget id st = .ok () st') : c.isApplied st' id = .ok false := by
  -- Neither memory nor store knows the identity any more.
  obtain ⟨memory, record⟩ := gone_of_forget h
  rw [isApplied, recordedPaths, memory, record]
  rfl

/-- If nothing failed, the instance is forgotten, once for its three actions. -/
theorem commitRevert_of_success {report : ExecutionReport} (hr : report.failures = [])
    (hf : c.forget id st = .ok () st') :
    c.commitRevert { actions := teardown id paths } report st = .ok [id] st' := by
  rw [commitRevert, failedOwners, hr, teardown_eq]
  -- The other two actions have the same owner, who has been forgotten by then.
  have rest : c.forgetOwners [] [⟨-startPriority, id, .removeFile paths.lease⟩,
      ⟨-startPriority, id, .removeFile paths.pid⟩] [id] st' = .ok [id] st' := by
    simp only [forgetOwners, List.mem_singleton, or_true, if_true]
    rfl
  rw [List.map_nil, forgetOwners, if_neg (by simp)]
  exact run_bind_eq_ok.2 ⟨(), st', hf, rest⟩

/-- If an action failed, nothing is forgotten. -/
theorem commitRevert_of_failure {report : ExecutionReport} (hr : id ∈ failedOwners report)
    (st : ApplyState) :
    c.commitRevert { actions := teardown id paths } report st = .ok [] st := by
  rw [commitRevert, teardown_eq]
  simp only [forgetOwners, hr, true_or, if_true]
  rfl

/-- **How a teardown ends** that is carried out in the state `st` and committed to. The files had
been `t` when the instance had been applied. -/
structure Teardown (c : Compiler) (host : Host) (signalled : List Nat) (id : SectionId)
    (paths : InstancePaths) (lease pid record : Location) (t : FileTree) (st : ApplyState)
    (report : ExecutionReport) (m : Machine) : Prop where
  run : runPlan (Executor.system host) (teardown id paths) ⟨st.files, signalled⟩ = (report, m)
  files : t.Without [lease, pid] m.files
  config : m.files.status paths.config = t.status paths.config
  /-- If the daemon is gone or has been asked to end, the record is dropped. -/
  ended : ∀ {m'}, Executor.killPidFile host paths.pid ⟨st.files, signalled⟩ = .ok () m' →
    report = { executed := 3 } ∧
    ∃ st', c.commitRevert { actions := teardown id paths } report ⟨m.files, st.applied⟩ =
        .ok [id] st' ∧
      c.isApplied st' id = .ok false ∧ st'.applied = st.applied.erase id ∧
      t.Without [lease, pid, record] st'.files ∧
      st'.files.status paths.config = t.status paths.config
  /-- If it cannot be asked to end, everything stays on record. -/
  refused : ∀ {e m'}, Executor.killPidFile host paths.pid ⟨st.files, signalled⟩ = .error e m' →
    report = { executed := 2, failures := [(⟨-startPriority, id, .killPidFile paths.pid⟩, e)] } ∧
    c.commitRevert { actions := teardown id paths } report ⟨m.files, st.applied⟩ =
      .ok [] ⟨m.files, st.applied⟩

/-- What is on record can be torn down, if only its lease and pid files have changed. -/
theorem OnRecord.teardown {config : Location} (h : c.OnRecord id paths st)
    (hc : t.Denotes paths.config config) (hl : t.Denotes paths.lease lease)
    (hp : t.Denotes paths.pid pid) (hr : t.Denotes (c.settings.store.pathOf id) record)
    (apart : [config, lease, pid, record].Nodup) (same : t.AgreeBut [lease, pid] st.files)
    (host : Host) (signalled : List Nat) :
    ∃ report m, c.Teardown host signalled id paths lease pid record t st report m := by
  simp only [List.nodup_cons, List.mem_cons, List.not_mem_nil, not_or] at apart
  obtain ⟨⟨config_lease, config_pid, config_record, -⟩, ⟨-, lease_record, -⟩, ⟨pid_record, -⟩, -⟩ :=
    apart
  obtain ⟨t₁, signalled', gone, outcome⟩ := run_teardown (same.grows.denotes hl)
    (same.grows.denotes hp) same.after id host signalled
  -- What the daemon did to its two files no longer shows.
  have files := same.without gone
  have config := files.status_eq same.before hc (by simp [config_lease, config_pid])
  obtain ⟨r, loaded, -⟩ := h.record
  obtain ⟨text, there, -⟩ := RecordStore.load_eq_some_iff.1 loaded
  obtain ⟨l, hd, he⟩ := FileTree.status_eq_file_iff.1 there
  obtain rfl := hd.unique (same.grows.denotes hr)
  -- The record is no lease or pid file, so it is still there.
  have kept : t₁.get? l = some (.file (.text text)) := by
    rw [gone.get?, if_neg, he]
    simp [Ne.symm lease_record, Ne.symm pid_record]
  have file : t₁.get? l ≠ some .directory := by
    rw [kept]
    simp
  have hd₁ := (gone.grows same.after).denotes hd
  obtain ⟨t₂, forgotten, without⟩ := forget_of_denotes hd₁ file st.applied
  have config₁ := (files.grows same.before).denotes hc
  have config₂ := without.status_eq (by simp [file]) config₁ (by simp [config_record])
  rcases outcome with ⟨killed, ran⟩ | ⟨e, killed, ran⟩
  · refine ⟨_, _, ran, files, config, fun _ => ⟨rfl, ⟨t₂, _⟩, ?_, ?_, rfl, files.trans without,
      config₂.trans config⟩, fun hk => ?_⟩
    · exact commitRevert_of_success rfl forgotten
    · exact isApplied_of_forget forgotten
    · rw [killed] at hk
      cases hk
  · refine ⟨_, _, ran, files, config, fun hk => ?_, fun hk => ?_⟩
    · rw [killed] at hk
      cases hk
    · rw [killed] at hk
      cases hk
      exact ⟨rfl, commitRevert_of_failure List.mem_cons_self _⟩

/-- **Revert undoes apply.** An apply names the same paths in all that it hands out. From then on,
while the section is neither applied again nor forgotten and nobody else writes its record, a revert
of any section of that identity, by the same process or by a new one with the same settings, plans
to end the daemon and to remove the two files, with these paths. If, besides, its configuration,
lease file, pid file and record are four places, and only the lease file and the pid file have
changed, then this plan takes those two away and no more; and committing to it drops the record,
unless the daemon could not be asked to end. -/
theorem apply_revert (hc : c.renderer = .standard) (hn : now.isValid = true)
    {actions : List PlannedAction} {st₁ : ApplyState} (ha : c.apply now x s st = .ok actions st₁) :
    ∃ d, s.asDnsmasq = some d ∧ c.NamesPaths now s (c.paths s d) actions st₁ ∧
    ∀ st₂, c.Undisturbed s.id st₁ st₂ →
      (∀ (c' : Compiler) (s' : Section), c'.settings = c.settings → s'.id = s.id →
        s'.asDnsmasq.isSome → ∀ st' ∈ [st₂, st₂.restart], c'.revert st' s' = .ok
          [⟨-startPriority, s.id, .killPidFile (c.paths s d).pid⟩,
            ⟨-startPriority, s.id, .removeFile (c.paths s d).lease⟩,
            ⟨-startPriority, s.id, .removeFile (c.paths s d).pid⟩]) ∧
      ∀ config lease pid record, st₁.files.Denotes (c.paths s d).config config →
        st₁.files.Denotes (c.paths s d).lease lease → st₁.files.Denotes (c.paths s d).pid pid →
        st₁.files.Denotes (c.settings.store.pathOf s.id) record →
        [config, lease, pid, record].Nodup → st₁.files.AgreeBut [lease, pid] st₂.files →
        ∀ host signalled, ∃ report m, c.Teardown host signalled s.id (c.paths s d) lease pid record
          st₁.files st₂ report m := by
  obtain ⟨d, _, _, instance_, -⟩ := apply_ok ha
  have hd := instanceOf_eq_ok.1 instance_
  have applied := OnRecord.of_apply hn ha hd
  refine ⟨d, hd, namesPaths_of_apply hc hn ha hd, fun st₂ later => ⟨?_, ?_⟩⟩
  · intro c' s' settings same dnsmasq st' hst
    -- A process with the same settings knows what is on record, be it new or not.
    have known : c'.OnRecord s'.id (c.paths s d) st' := by
      rw [same]
      simp only [List.mem_cons, List.not_mem_nil, or_false] at hst
      rcases hst with rfl | rfl
      · exact (later.onRecord applied).of_settings settings
      · exact (later.onRecord applied).restart.of_settings settings
    rw [known.revert_eq_teardown dnsmasq, same, teardown_eq]
  · intro config lease pid record hc' hl hp hr apart agree host signalled
    exact (later.onRecord applied).teardown hc' hl hp hr apart agree host signalled

/-! ### An instance that has run -/

/-- A directory for records in the home directory. -/
def recordsMade : FileTree where
  home := []
  entries := [(["state"], .directory)]

/-- An instance without options is applied, and has neither leases nor a pid yet. -/
theorem apply_recordsMade : ∃ actions st,
    atHome.apply .epoch (.ofList []) (.plain "m") ⟨recordsMade, []⟩ = .ok actions st ∧
      st.files.get? ["dnsmasq-m.leases"] = none ∧ st.files.get? ["dnsmasq-m.pid"] = none := by
  have pools : (SectionIndex.ofList []).ofKind .dhcpPool = [] := rfl
  obtain ⟨text, ht⟩ := exists_renderInstance_atHome "m" pools .epoch
  exact ⟨_, _, apply_of_save_ok rfl ht rfl rfl, rfl, rfl⟩

/-- The daemon leaves its pid; another process reverts what has been applied, and commits to it. -/
theorem apply_revert_recordsMade : ∃ actions st₁,
    atHome.apply .epoch (.ofList []) (.plain "m") ⟨recordsMade, []⟩ = .ok actions st₁ ∧
    ∃ plan report m st', atHome.revert
        ⟨st₁.files.insert ["dnsmasq-m.pid"] (.file (.text "42")), []⟩ (.plain "m") = .ok plan ∧
      runPlan (Executor.system Host.minimal) plan
        ⟨st₁.files.insert ["dnsmasq-m.pid"] (.file (.text "42")), []⟩ = (report, m) ∧
      atHome.commitRevert { actions := plan } report ⟨m.files, []⟩ =
        .ok [⟨.dnsmasq, "m"⟩] st' ∧
      atHome.isApplied st' ⟨.dnsmasq, "m"⟩ = .ok false := by
  obtain ⟨actions, st₁, applied, no_lease, no_pid⟩ := apply_recordsMade
  have grows := grows_apply.ok applied
  have config := grows.denotes (p := "dnsmasq-m.conf") ⟨[], _, rfl, by decide, rfl⟩
  have lease := grows.denotes (p := "dnsmasq-m.leases") ⟨[], _, rfl, by decide, rfl⟩
  have pid := grows.denotes (p := "dnsmasq-m.pid") ⟨[], _, rfl, by decide, rfl⟩
  have record := grows.denotes (p := "state/dnsmasq-m.json") ⟨["state"], _, rfl, by decide, rfl⟩
  -- A new process asks whether the instance counts as applied, and then the daemon runs.
  have asked : atHome.Undisturbed ⟨.dnsmasq, "m"⟩ st₁ st₁.restart :=
    .call (.refl st₁) ⟨.isApplied ⟨.dnsmasq, "m"⟩, .epoch, true⟩ List.not_mem_nil
      fun _ hid => absurd hid List.not_mem_nil
  have agree : st₁.files.AgreeBut [["dnsmasq-m.leases"], ["dnsmasq-m.pid"]]
      (st₁.files.insert ["dnsmasq-m.pid"] (.file (.text "42"))) := by
    refine ⟨rfl, fun {l} hl => ?_, ?_, ?_⟩
    · rw [FileTree.get?_insert _ (by simp), if_neg]
      rintro rfl
      exact hl (by simp)
    · simp [no_lease, no_pid]
    · simp [FileTree.get?_insert, no_lease]
  have later := asked.outside (st₁.files.insert ["dnsmasq-m.pid"] (.file (.text "42")))
    (record.status_eq (agree.grows.denotes record) (agree.other (by decide)))
  obtain ⟨d, hd, -, after⟩ := atHome.apply_revert rfl (by decide) applied
  cases hd
  obtain ⟨reverted, torn⟩ := after _ later
  obtain ⟨report, m, ends⟩ := torn _ _ _ _ config lease pid record (by decide) agree Host.minimal []
  have ended : ∃ m', Executor.killPidFile Host.minimal "dnsmasq-m.pid"
      ⟨st₁.files.insert ["dnsmasq-m.pid"] (.file (.text "42")), []⟩ = .ok () m' := by
    have there := FileTree.status_eq_file_iff.2 ⟨_, agree.grows.denotes pid,
      (FileTree.get?_insert _ (by simp) _ _).trans (if_pos rfl)⟩
    have number : Executor.pidOfText "42" = some 42 := by decide
    rw [Executor.killPidFile, FileTree.readText_eq_ok_iff.2 there]
    simp only [number]
    exact ⟨_, rfl⟩
  obtain ⟨m', hm'⟩ := ended
  obtain ⟨-, st', committed, not_applied, -⟩ := ends.ended hm'
  exact ⟨actions, st₁, applied, _, report, m, st',
    reverted atHome (.plain "m") rfl rfl rfl _ List.mem_cons_self, ends.run, committed, not_applied⟩

end Compiler

end RouterConf
