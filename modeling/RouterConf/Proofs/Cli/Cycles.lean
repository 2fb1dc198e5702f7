import RouterConf.Host.Minimal
import RouterConf.Proofs.Cli.Records
import RouterConf.Proofs.Section.Index

/-!
# Apply and revert as commands

Each command is a process of its own, and what one leaves to the next are files. So a revert that is
only planned is as if it had not been: it reads the records and leaves all files as they are, and
whatever comes next finds the same tree (`Command.runEach_dry`).

A revert that is carried out drops the records of the sections that it has taken down, and an apply
drops none. Whether a command succeeds says whether all of it went well: the sections have been
loaded, the compiler has been made, no section and no action has failed, and what was to be
forgotten has been.

As everywhere, records of different paths may still be one file, and then the one goes with the
other (`Command.revert_takes_another`).

Main statement: `Command.cycles_dependable`.
-/

namespace RouterConf

namespace Command

variable {host : Host} {now : Timestamp} {source : Path} {settings : Settings} {execute json : Bool}
  {t : FileTree} {x : SectionIndex} {c : Compiler} {p : Plan} {id : SectionId}

/-! ### Processes -/

/-- Processes one after the other. Each finds the files that the one before it has left, and nothing
else. -/
def runEach : List (FileTree → Outcome × FileTree) → FileTree → List Outcome × FileTree
  | [], t => ([], t)
  | process :: rest, t =>
    let (outcome, t') := process t
    let (outcomes, t'') := runEach rest t'
    (outcome :: outcomes, t'')

/-- **Plans that are not carried out leave no trace**: each of them comes out as it would alone, and
so does what runs after them. -/
theorem runEach_dry (host : Host) (source : Path) (settings : Settings) (formats : List Bool)
    (next : FileTree → Outcome × FileTree) (t : FileTree) :
    runEach (formats.map (revert host source settings false) ++ [next]) t =
      (formats.map (fun json => (revert host source settings false json t).1) ++ [(next t).1],
        (next t).2) := by
  -- Each plan is made on the tree that it leaves, so the next process finds the same one.
  induction formats with
  | nil => rfl
  | cons json formats ih =>
    simp only [List.map_cons, List.cons_append, runEach]
    rw [revert_dry_files, ih]

/-! ### How a command ends -/

/-- The command has what it works with: sections that could be loaded, and a compiler. -/
structure Ready (source : Path) (settings : Settings) (t : FileTree) (x : SectionIndex)
    (c : Compiler) : Prop where
  index : Source.loadIndex t source = .ok x
  compiler : Compiler.ofSettings t settings = .ok c

/-- The compiler that a command gets has the settings of the command. -/
theorem Ready.settings_eq (h : Ready source settings t x c) : c.settings = settings := by
  have made := h.compiler
  unfold Compiler.ofSettings at made
  split at made
  · cases made
    rfl
  · split at made <;> cases made
    rfl

/-- The command gets ready in one way. -/
theorem Ready.exists_iff (h : Ready source settings t x c) {P : SectionIndex → Compiler → Prop} :
    (∃ x c, Ready source settings t x c ∧ P x c) ↔ P x c := by
  constructor
  · rintro ⟨x', c', h', hP⟩
    -- The index and the compiler are read off the same tree, and there is one of each.
    obtain rfl := Except.ok.inj (h.index.symm.trans h'.index)
    obtain rfl := Except.ok.inj (h.compiler.symm.trans h'.compiler)
    exact hP
  · exact fun hP => ⟨x, c, h, hP⟩

/-- A command that gives a reason for its failure ends with an error. -/
theorem exit_failed (output about : String) (causes : List String) :
    (failed output about causes).exit = 1 := rfl

/-- A cycle ends well just if no section and no action failed. -/
theorem exit_finish (operation : String) (p : Plan) (report : Option ExecutionReport)
    (json : Bool) : (finish operation p report json).exit = 0 ↔
      p.failures = [] ∧ ∀ r, report = some r → r.failures = [] := by
  -- A plan that has not been carried out has no failed actions.
  have none_failed : (p.isSuccess && decide ((report.map (·.failures.length)).getD 0 = 0)) = true ↔
      p.failures = [] ∧ ∀ r, report = some r → r.failures = [] := by
    cases report <;> simp [Plan.isSuccess]
  unfold finish
  dsimp only
  by_cases h : (p.isSuccess && decide ((report.map (·.failures.length)).getD 0 = 0)) = true
  · rw [if_pos h]
    exact ⟨fun _ => none_failed.1 h, fun _ => rfl⟩
  · rw [if_neg h, exit_failed]
    exact ⟨fun h' => absurd h' (by decide), fun h' => absurd (none_failed.2 h') h⟩

/-- A command that never gets ready fails and touches nothing; any other is what it does then. -/
theorem revert_cases (host : Host) (source : Path) (settings : Settings) (execute json : Bool)
    (t : FileTree) :
    ((¬ ∃ x c, Ready source settings t x c) ∧
      (revert host source settings execute json t).1.exit ≠ 0) ∨
    ∃ x c, Ready source settings t x c ∧ revert host source settings execute json t =
      if execute then
        match c.commitRevert (c.revertAll { files := t } x)
            (carryOut host (c.revertAll { files := t } x) t).1
            { files := (carryOut host (c.revertAll { files := t } x) t).2 } with
        | .error e st => (commitFailed e, st.files)
        | .ok _ st => (finish "revert" (c.revertAll { files := t } x)
            (some (carryOut host (c.revertAll { files := t } x) t).1) json, st.files)
      else (finish "revert" (c.revertAll { files := t } x) none json, t) := by
  unfold revert
  -- The sections are loaded first, and then the compiler is made; either may fail.
  cases hx : Source.loadIndex t source with
  | error e =>
    refine .inl ⟨?_, by simp [loadFailed, exit_failed]⟩
    rintro ⟨x, c, ready⟩
    cases hx.symm.trans ready.index
  | ok x =>
    cases hc : Compiler.ofSettings t settings with
    | error e =>
      refine .inl ⟨?_, by simp [compilerFailed, exit_failed]⟩
      rintro ⟨x, c, ready⟩
      cases hc.symm.trans ready.compiler
    | ok c => exact .inr ⟨x, c, ⟨hx, hc⟩, rfl⟩

/-- An apply that never gets ready fails and touches nothing; any other is what it does then. -/
theorem apply_cases (host : Host) (now : Timestamp) (source : Path) (settings : Settings)
    (execute json : Bool) (t : FileTree) :
    ((¬ ∃ x c, Ready source settings t x c) ∧
      (apply host now source settings execute json t).1.exit ≠ 0 ∧
      (apply host now source settings execute json t).2 = t) ∨
    ∃ x c, Ready source settings t x c ∧ apply host now source settings execute json t =
      if execute then
        (finish "apply" (c.applyAll now x { files := t }).1
          (some (carryOut host (c.applyAll now x { files := t }).1
            (c.applyAll now x { files := t }).2.files).1) json,
          (carryOut host (c.applyAll now x { files := t }).1
            (c.applyAll now x { files := t }).2.files).2)
      else (finish "apply" (c.applyAll now x { files := t }).1 none json,
        (c.applyAll now x { files := t }).2.files) := by
  unfold apply
  cases hx : Source.loadIndex t source with
  | error e =>
    refine .inl ⟨?_, by simp [loadFailed, exit_failed]⟩
    rintro ⟨x, c, ready⟩
    cases hx.symm.trans ready.index
  | ok x =>
    cases hc : Compiler.ofSettings t settings with
    | error e =>
      refine .inl ⟨?_, by simp [compilerFailed, exit_failed]⟩
      rintro ⟨x, c, ready⟩
      cases hc.symm.trans ready.compiler
    | ok c => exact .inr ⟨x, c, ⟨hx, hc⟩, rfl⟩

/-! ### What a revert does -/

/-- **What may be relied on when a source is reverted** with some settings, on a host and on a tree
of files. -/
structure RevertDependable (host : Host) (source : Path) (settings : Settings) (t : FileTree) :
    Prop where
  /-- Plans that are not carried out leave no trace, however often they are made. -/
  dry : ∀ (formats : List Bool) (next : FileTree → Outcome × FileTree),
    runEach (formats.map (revert host source settings false) ++ [next]) t =
      (formats.map (fun json => (revert host source settings false json t).1) ++ [(next t).1],
        (next t).2)
  /-- What they show is the plan for the tree, and all files stay as they are. -/
  planned : ∀ {x c}, Ready source settings t x c → ∀ json,
    revert host source settings false json t =
      (finish "revert" (c.revertAll { files := t } x) none json, t)
  /-- If the records of the sections are different files and the plan is on none of them, then after
  a commit that succeeds exactly the records are gone whose sections had actions that all
  succeeded; all others are as they were. -/
  dropped : ∀ {x c report files forgotten st}, Ready source settings t x c →
    carryOut host (c.revertAll { files := t } x) t = (report, files) →
    c.commitRevert (c.revertAll { files := t } x) report { files } = .ok forgotten st →
    ∀ ids, (∀ s ∈ x.ofKind .dnsmasq, s.id ∈ ids) → c.RecordsApart ids t →
      (c.revertAll { files := t } x).ApartFromRecords settings.store ids t →
      ∀ json, ∀ id ∈ ids,
        (settings.store.load id t ≠ .ok none ∧
            settings.store.load id (revert host source settings true json t).2 = .ok none ↔
          (∃ a ∈ (c.revertAll { files := t } x).actions, a.owner = id) ∧
            ∀ f ∈ report.failures, f.1.owner ≠ id) ∧
        (settings.store.load id (revert host source settings true json t).2 ≠ .ok none →
          settings.store.load id (revert host source settings true json t).2 =
            settings.store.load id t)
  /-- The command succeeds just if everything did. -/
  exit : ∀ execute json, (revert host source settings execute json t).1.exit = 0 ↔
    ∃ x c, Ready source settings t x c ∧ (c.revertAll { files := t } x).failures = [] ∧
      (execute = true → ∃ report files forgotten st,
        carryOut host (c.revertAll { files := t } x) t = (report, files) ∧ report.failures = [] ∧
          c.commitRevert (c.revertAll { files := t } x) report { files } = .ok forgotten st)

/-- **When a revert succeeds**: it got ready, every section could be planned for, and if the plan
was carried out, every action succeeded and the records could be dropped. -/
theorem exit_revert (host : Host) (source : Path) (settings : Settings) (t : FileTree)
    (execute json : Bool) : (revert host source settings execute json t).1.exit = 0 ↔
    ∃ x c, Ready source settings t x c ∧ (c.revertAll { files := t } x).failures = [] ∧
      (execute = true → ∃ report files forgotten st,
        carryOut host (c.revertAll { files := t } x) t = (report, files) ∧ report.failures = [] ∧
          c.commitRevert (c.revertAll { files := t } x) report { files } = .ok forgotten st) := by
  rcases revert_cases host source settings execute json t with ⟨unready, fails⟩ | ⟨x, c, ready, ran⟩
  · exact ⟨fun h => absurd h fails, fun ⟨x, c, ready, _⟩ => absurd ⟨x, c, ready⟩ unready⟩
  rw [ran, ready.exists_iff]
  cases execute with
  | false => simp [exit_finish]
  | true =>
    rcases hr : carryOut host (c.revertAll { files := t } x) t with ⟨report, files⟩
    -- The plan is carried out before it is shown, so a commit that fails is all that is shown.
    cases hc : c.commitRevert (c.revertAll { files := t } x) report { files } with
    | ok forgotten st => simp [hc, exit_finish]
    | error e st => simp [hc, commitFailed, exit_failed]

/-- A process that has just begun remembers nothing, and what it finds is on record. -/
theorem contains_of_recordedPaths {paths : InstancePaths}
    (h : c.recordedPaths { files := t } id = .ok (some paths)) :
    c.settings.store.Contains id t := by
  unfold Compiler.recordedPaths at h
  have nothing : Applied.get? [] id = none := rfl
  dsimp only at h
  rw [nothing] at h
  -- Nothing is remembered, so the paths come from a record.
  cases hl : c.settings.store.load id t with
  | error e =>
    rw [hl] at h
    cases h
  | ok r =>
    cases r with
    | none =>
      rw [hl] at h
      cases h
    | some r => exact ⟨r, hl⟩

/-- An action of a teardown is for a section that has a record. -/
theorem contains_of_mem_revertAll {a : PlannedAction}
    (ha : a ∈ (c.revertAll { files := t } x).actions) : c.settings.store.Contains a.owner t := by
  obtain ⟨⟨id, paths⟩, torn, ha⟩ := Compiler.mem_revertAll.1 ha
  obtain ⟨s, -, hs⟩ := List.mem_filterMap.1 torn
  obtain ⟨action, -, rfl⟩ := List.mem_map.1 ha
  -- Only a section with recorded paths is torn down.
  split at hs
  · rename_i hp
    cases hs
    exact contains_of_recordedPaths hp
  · cases hs

/-- **Which records are gone.** Between the tree and what is left after the commit, exactly those
records go whose sections had actions that all succeeded. -/
theorem dropped_of_commit {report : ExecutionReport} {files : FileTree}
    {forgotten : List SectionId} {st : ApplyState} {ids : List SectionId}
    (ran : carryOut host (c.revertAll { files := t } x) t = (report, files))
    (committed : c.commitRevert (c.revertAll { files := t } x) report { files } = .ok forgotten st)
    (among : ∀ s ∈ x.ofKind .dnsmasq, s.id ∈ ids) (apart : c.RecordsApart ids t)
    (off : (c.revertAll { files := t } x).ApartFromRecords c.settings.store ids t)
    (hid : id ∈ ids) :
    (c.settings.store.load id t ≠ .ok none ∧ c.settings.store.load id st.files = .ok none ↔
      (∃ a ∈ (c.revertAll { files := t } x).actions, a.owner = id) ∧
        ∀ f ∈ report.failures, f.1.owner ≠ id) ∧
    (c.settings.store.load id st.files ≠ .ok none →
      c.settings.store.load id st.files = c.settings.store.load id t) := by
  -- Until the commit, the records are as they were.
  have unchanged := carryOut_spares (fun a ha => Compiler.not_start_of_mem_revertAll ha) off ran
  rw [Compiler.commitRevert, Compiler.forgetOwners_eq] at committed
  obtain ⟨_, st₁, all, h⟩ := run_bind_eq_ok.1 committed
  cases h
  -- Those that are due have actions, and no failure among them.
  have due : ∀ id', id' ∈ Compiler.dueOwners (Compiler.failedOwners report) []
      (c.revertAll { files := t } x).actions ↔
        (∃ a ∈ (c.revertAll { files := t } x).actions, a.owner = id') ∧
          ∀ f ∈ report.failures, f.1.owner ≠ id' := by
    intro id'
    -- Owners are spared for failures of their own.
    have spared : id' ∉ Compiler.failedOwners report ↔
        ∀ f ∈ report.failures, f.1.owner ≠ id' := by
      simp only [Compiler.failedOwners, List.mem_map, not_exists, not_and, ne_eq]
    rw [Compiler.dueOwners, List.mem_eraseDups, List.mem_filter, List.mem_map, ← spared]
    simp
  rw [← due]
  -- What is due is forgotten, and its record goes. What is not due keeps its record, since no other
  -- is the same file.
  by_cases hdue : id ∈ Compiler.dueOwners (Compiler.failedOwners report) []
      (c.revertAll { files := t } x).actions
  · obtain ⟨-, gone⟩ := Compiler.forgetAll_gone all id hdue
    obtain ⟨⟨a, ha, rfl⟩, -⟩ := (due id).1 hdue
    obtain ⟨r, hr⟩ := contains_of_mem_revertAll ha
    exact ⟨⟨fun _ => hdue, fun _ => ⟨by simp [hr], gone⟩⟩, fun h => absurd gone h⟩
  · have own : c.OwnRecord id (Compiler.dueOwners (Compiler.failedOwners report) []
        (c.revertAll { files := t } x).actions) files := by
      intro id' hid' hne
      obtain ⟨⟨a, ha, rfl⟩, -⟩ := (due id').1 hid'
      rw [Compiler.revertAll_eq] at ha
      obtain ⟨s, hs, owner⟩ := List.mem_map.1 (Compiler.mem_revertEach_actions ha).2
      exact (apart.of_grows unchanged.shrinks) id hid _ (owner ▸ among s hs) (Ne.symm hne)
    obtain ⟨-, kept⟩ := Compiler.forgetAll_spares all hdue own
    have same := kept.trans (unchanged.load id hid)
    refine ⟨⟨fun h => absurd (same.symm.trans h.2) h.1, fun h => absurd h hdue⟩, fun _ => same⟩

/-- What a teardown that is carried out and committed to leaves. -/
theorem revert_files {report : ExecutionReport} {files : FileTree} {forgotten : List SectionId}
    {st : ApplyState} (ready : Ready source settings t x c)
    (ran : carryOut host (c.revertAll { files := t } x) t = (report, files))
    (committed : c.commitRevert (c.revertAll { files := t } x) report { files } = .ok forgotten st)
    (json : Bool) : (revert host source settings true json t).2 = st.files := by
  unfold revert
  rw [ready.index, ready.compiler]
  simp [ran, committed]

/-- **A revert can be depended on.** -/
theorem revert_dependable (host : Host) (source : Path) (settings : Settings) (t : FileTree) :
    RevertDependable host source settings t := by
  refine
    { dry := fun formats next => runEach_dry host source settings formats next t
      planned := ?_
      dropped := ?_
      exit := exit_revert host source settings t }
  · intro x c ready json
    unfold revert
    rw [ready.index, ready.compiler]
    rfl
  · intro x c report files forgotten st ready ran committed ids among apart off json id hid
    rw [revert_files ready ran committed]
    have store : settings.store = c.settings.store := by rw [ready.settings_eq]
    rw [store] at off ⊢
    exact dropped_of_commit ran committed among apart off hid

/-! ### What an apply does -/

/-- **What may be relied on when a source is applied.** -/
structure ApplyDependable (host : Host) (now : Timestamp) (source : Path) (settings : Settings)
    (t : FileTree) : Prop where
  /-- The command succeeds just if everything did. -/
  exit : ∀ execute json, (apply host now source settings execute json t).1.exit = 0 ↔
    ∃ x c, Ready source settings t x c ∧ (c.applyAll now x { files := t }).1.failures = [] ∧
      (execute = true → ∃ report files, carryOut host (c.applyAll now x { files := t }).1
        (c.applyAll now x { files := t }).2.files = (report, files) ∧ report.failures = [])
  /-- No record is dropped, whatever fails, if the daemons leave records alone. -/
  kept : ∀ execute json, (execute = true → host.SparesRecords settings) → ∀ id,
    settings.store.Contains id t →
      settings.store.Contains id (apply host now source settings execute json t).2

/-- **An apply can be depended on.** It needs a time that can be read back from its records. -/
theorem apply_dependable (host : Host) (source : Path) (settings : Settings) (t : FileTree)
    (hn : now.isValid = true) : ApplyDependable host now source settings t := by
  refine ⟨fun execute json => ?_, fun execute json spares id there => ?_⟩
  · rcases apply_cases host now source settings execute json t with
      ⟨unready, fails, -⟩ | ⟨x, c, ready, ran⟩
    · exact ⟨fun h => absurd h fails, fun ⟨x, c, ready, _⟩ => absurd ⟨x, c, ready⟩ unready⟩
    rw [ran, ready.exists_iff]
    cases execute with
    | false => simp [exit_finish]
    | true =>
      rcases hr : carryOut host (c.applyAll now x { files := t }).1
        (c.applyAll now x { files := t }).2.files with ⟨report, files⟩
      simp [exit_finish]
  · rcases apply_cases host now source settings execute json t with
      ⟨-, -, same⟩ | ⟨x, c, ready, ran⟩
    · rwa [same]
    have store : settings.store = c.settings.store := by rw [ready.settings_eq]
    -- The cycle of applies keeps the record, and so do the daemons that are started after it.
    have applied : settings.store.Contains id (c.applyAll now x { files := t }).2.files := by
      rw [store] at there ⊢
      exact c.contains_of_applyAll hn there
    rw [ran]
    cases execute with
    | false => exact applied
    | true =>
      refine contains_of_carryOut (spares rfl) (fun a ha => ?_) rfl applied
      rw [← ready.settings_eq]
      exact c.start_of_mem_applyAll ha

/-! ### An instance that was left behind -/

/-- A source that declares instances without options. -/
def declaring (names : List String) : String :=
  String.join (names.map fun name => "- kind: dhcp\n  type: dnsmasq\n  name: " ++ name ++ "\n")

/-- An instance as it is loaded from such a source. -/
def declared (name : String) : Section where
  id := ⟨.dnsmasq, name⟩
  source := "router.yaml"
  options :=
    [("authoritative", some (.flag true)), ("cachesize", some (.integer 150)), ("dhcp_boot", none),
      ("dhcpleasemax", some (.integer 1000)), ("domain", none), ("enable_tftp", some (.flag false)),
      ("expandhosts", some (.flag true)), ("interface", none), ("leasefile", none),
      ("noresolv", some (.flag false)), ("server", none), ("tftp_root", none)]
  body := .dnsmasq .plain

/-- A source, a record and a pid file. The directory among the records makes the name
`x/../dnsmasq-m` lead to the record of `m`. -/
def leftBehind (source record pid : String) : FileTree where
  home := []
  entries := [(["router.yaml"], .file (.text source)), (["state"], .directory),
    (["state", "dnsmasq-x"], .directory),
    (["state", "dnsmasq-m.json"], .file (.text record)), (["dnsmasq-m.pid"], .file (.text pid))]

/-- The files of an instance `m` that keeps them at home. -/
def pathsOfM : InstancePaths :=
  Compiler.atHome.paths (.plain "m") .plain

/-- The record of the instance `m`, as it was applied. -/
def recordOfM : ApplyRecord :=
  ⟨⟨.dnsmasq, "m"⟩, .epoch, pathsOfM⟩

/-- A command gets ready with the sections that the source declares. -/
theorem ready_leftBehind {text record pid : String} {sections : List Section}
    (h : (Source.parse "router.yaml" text).toOption = some sections) :
    Ready "router.yaml" Compiler.atHome.settings (leftBehind text record pid) (.ofList sections)
      Compiler.atHome := by
  have read : Source.loadPath (leftBehind text record pid) "router.yaml" =
      Source.parse "router.yaml" text := rfl
  refine ⟨?_, rfl⟩
  rw [Source.loadIndex, read]
  cases hp : Source.parse "router.yaml" text with
  | error e =>
    rw [hp] at h
    cases h
  | ok loaded =>
    rw [hp] at h
    cases h
    rfl

/-- Both names lead to the record of `m`. -/
theorem load_leftBehind (source pid : String) {name : String} (h : name ∈ ["m", "x/../dnsmasq-m"]) :
    Compiler.atHome.settings.store.load ⟨.dnsmasq, name⟩ (leftBehind source recordOfM.text pid) =
      .ok (some recordOfM) := by
  -- The status of a path does not depend on what the record says, so this can be computed.
  have there : ∀ record, (leftBehind source record pid).status
      (Compiler.atHome.settings.store.pathOf ⟨.dnsmasq, name⟩) = .ok (.file (.text record)) := by
    simp only [List.mem_cons, List.not_mem_nil, or_false] at h
    rcases h with rfl | rfl
    · exact fun _ => rfl
    · exact fun _ => rfl
  exact RecordStore.load_of_text (there _) (ApplyRecord.ofText?_text (by decide))

/-- Every instance of the source is found on record, with the files of `m`. -/
theorem tornDown_leftBehind (source pid : String) {names : List String}
    (h : ∀ name ∈ names, name ∈ ["m", "x/../dnsmasq-m"]) :
    Compiler.atHome.tornDown { files := leftBehind source recordOfM.text pid }
      (names.map declared) = names.map fun name => (⟨.dnsmasq, name⟩, pathsOfM) := by
  have recorded : ∀ name ∈ names,
      Compiler.atHome.recordedPaths { files := leftBehind source recordOfM.text pid }
        ⟨.dnsmasq, name⟩ = .ok (some pathsOfM) := by
    intro name hname
    unfold Compiler.recordedPaths
    simp only [load_leftBehind source pid (h name hname)]
    rfl
  induction names with
  | nil => rfl
  | cons name names ih =>
    rw [List.forall_mem_cons] at h recorded
    rw [List.map_cons, List.map_cons, Compiler.tornDown, List.filterMap_cons, ← Compiler.tornDown,
      ih h.2 recorded.2]
    simp only [declared, recorded.1]
    rfl

/-- Every instance of the source is taken down with the files of `m`. -/
theorem actions_leftBehind (source pid : String) {names : List String}
    (h : ∀ name ∈ names, name ∈ ["m", "x/../dnsmasq-m"]) :
    (Compiler.atHome.revertAll { files := leftBehind source recordOfM.text pid }
      (.ofList (names.map declared))).actions =
        names.flatMap fun name => Compiler.teardown ⟨.dnsmasq, name⟩ pathsOfM := by
  -- All sections of the source are instances.
  have all : (SectionIndex.ofList (names.map declared)).ofKind .dnsmasq = names.map declared := by
    rw [SectionIndex.ofKind_ofList]
    exact List.filter_eq_self.2 fun s hs => by
      obtain ⟨name, -, rfl⟩ := List.mem_map.1 hs
      rfl
  rw [Compiler.revertAll_eq, all, Compiler.actions_revertEach, tornDown_leftBehind source pid h,
    List.flatMap_map]

/-- None of the files of an instance is ever where a record is. -/
theorem pathsOfM_apart {q : Path} (hq : q = pathsOfM.pid ∨ q = pathsOfM.lease) {store : RecordStore}
    {l : Location} (h : t.Denotes (store.pathOf id) l) : ¬ t.Denotes q l := by
  intro h'
  have record := RecordStore.suffix_lastSegment_pathOf store id
  rcases hq with rfl | rfl
  · exact h'.ne_of_suffix h (show ".pid".toList <:+ _ by decide) record (by decide) (by decide) rfl
  · exact h'.ne_of_suffix h (show ".leases".toList <:+ _ by decide) record (by decide) (by decide)
      rfl

/-- So its teardown is on no record. -/
theorem apartFromRecords_leftBehind (source pid : String) {names : List String}
    (h : ∀ name ∈ names, name ∈ ["m", "x/../dnsmasq-m"]) (store : RecordStore)
    (ids : List SectionId) :
    (Compiler.atHome.revertAll { files := leftBehind source recordOfM.text pid }
      (.ofList (names.map declared))).ApartFromRecords store ids t := by
  intro a ha q hq id _ l
  rw [actions_leftBehind source pid h] at ha
  obtain ⟨name, -, ha⟩ := List.mem_flatMap.1 ha
  refine pathsOfM_apart ?_
  simp only [Compiler.teardown_eq, List.mem_cons, List.not_mem_nil, or_false] at ha
  rcases ha with rfl | rfl | rfl <;> cases hq <;> simp

/-! ### Both commands -/

/-- **Apply and revert can be depended on.** On any host, for any source, any settings and any tree
of files: plans of a teardown that are not carried out leave no trace, a teardown that is carried
out drops exactly the records whose sections went down as a whole, an apply drops none, and either
command succeeds just if all that it did went well. -/
theorem cycles_dependable (host : Host) (source : Path) (settings : Settings) (t : FileTree)
    (hn : now.isValid = true) :
    RevertDependable host source settings t ∧ ApplyDependable host now source settings t :=
  ⟨revert_dependable host source settings t, apply_dependable host source settings t hn⟩

/-- A daemon whose pid is known goes down and its record is dropped; an apply in its place would
have kept it. -/
theorem cycles_dependable_leftBehind :
    let t := leftBehind (declaring ["m"]) recordOfM.text "42"
    let store := Compiler.atHome.settings.store
    let reverted := (revert Host.minimal "router.yaml" Compiler.atHome.settings true false t).2
    let applied :=
      (apply Host.minimal .epoch "router.yaml" Compiler.atHome.settings false false t).2
    store.load ⟨.dnsmasq, "m"⟩ t = .ok (some recordOfM) ∧
      store.load ⟨.dnsmasq, "m"⟩ reverted = .ok none ∧ store.Contains ⟨.dnsmasq, "m"⟩ applied := by
  intro t store reverted applied
  -- The source is read as text, down to the defaults of its options.
  have loaded : (Source.parse "router.yaml" (declaring ["m"])).toOption = some [declared "m"] := by
    decide +kernel
  have ready : Ready "router.yaml" Compiler.atHome.settings t (.ofList [declared "m"])
      Compiler.atHome := ready_leftBehind loaded
  have known : ∀ name ∈ ["m"], name ∈ ["m", "x/../dnsmasq-m"] := by simp
  have there := load_leftBehind (declaring ["m"]) "42" (known "m" (List.mem_singleton_self _))
  have plan := actions_leftBehind (declaring ["m"]) "42" known
  -- The daemon is asked to end; there is no lease file; the pid file goes.
  have ran : carryOut Host.minimal
      (Compiler.atHome.revertAll { files := t } (.ofList (["m"].map declared))) t =
        ({ executed := 3 }, t.erase ["dnsmasq-m.pid"]) := by
    rw [carryOut_eq_iff, plan, runPlan, List.flatMap_singleton, Compiler.sortPlan_teardown]
    exact ⟨[42], rfl⟩
  have committed : Compiler.atHome.commitRevert
      (Compiler.atHome.revertAll { files := t } (.ofList (["m"].map declared))) { executed := 3 }
      { files := t.erase ["dnsmasq-m.pid"] } = .ok [⟨.dnsmasq, "m"⟩]
        { files := (t.erase ["dnsmasq-m.pid"]).erase ["state", "dnsmasq-m.json"] } := by
    rw [Compiler.commitRevert, plan]
    change Compiler.atHome.commitRevert
      { actions := Compiler.teardown ⟨.dnsmasq, "m"⟩ pathsOfM } _ _ = _
    exact Compiler.commitRevert_of_success rfl rfl
  -- The instance has actions, and none of them has failed.
  have owned : ∃ a ∈ (Compiler.atHome.revertAll { files := t }
      (.ofList (["m"].map declared))).actions, a.owner = ⟨.dnsmasq, "m"⟩ := by
    rw [plan]
    exact ⟨_, List.mem_cons_self, rfl⟩
  obtain ⟨revertDependable, applyDependable⟩ :=
    cycles_dependable Host.minimal "router.yaml" Compiler.atHome.settings t
      (show Timestamp.epoch.isValid = true by decide)
  have dropped := revertDependable.dropped ready ran committed [⟨.dnsmasq, "m"⟩]
    (fun s hs => by
      have hs : s ∈ [declared "m"] := hs
      rw [List.mem_singleton.1 hs]
      exact List.mem_singleton_self _)
    (Compiler.recordsApart_of_slashless _ (by decide) _)
    (apartFromRecords_leftBehind _ _ known _ _) false ⟨.dnsmasq, "m"⟩ (List.mem_singleton_self _)
  exact ⟨there, (dropped.1.2 ⟨owned, by simp⟩).2, applyDependable.kept false false (by simp) _
    ⟨_, there⟩⟩

/-- Two instances are declared, of which the records are one file, and the pid file holds no
number. -/
def recordOfTwo : FileTree :=
  leftBehind (declaring ["x/../dnsmasq-m", "m"]) recordOfM.text "zzz"

/-- The index of the two, in the order in which they are declared. -/
def twoInstances : SectionIndex :=
  .ofList (["x/../dnsmasq-m", "m"].map declared)

/-- A command gets ready with the two instances. -/
theorem ready_recordOfTwo :
    Ready "router.yaml" Compiler.atHome.settings recordOfTwo twoInstances Compiler.atHome := by
  have loaded : (Source.parse "router.yaml" (declaring ["x/../dnsmasq-m", "m"])).toOption =
      some (["x/../dnsmasq-m", "m"].map declared) := by decide +kernel
  exact ready_leftBehind loaded

/-- What is left of it after the teardown. -/
def filesOfTwo : FileTree :=
  recordOfTwo.erase ["dnsmasq-m.pid"]

/-- How the teardown of the two goes. The pid file is gone when it comes to the second daemon, which
counts as ended. -/
def reportOfTwo : ExecutionReport where
  executed := 5
  failures := [(⟨-startPriority, ⟨.dnsmasq, "x/../dnsmasq-m"⟩, .killPidFile pathsOfM.pid⟩,
    .invalidPid pathsOfM.pid "zzz")]

/-- **Different paths are not enough.** The daemon of one instance cannot be asked to end, since its
pid file holds no number. The records of the two instances are one file, and when that of the other
is dropped, both are gone. -/
theorem revert_takes_another :
    ¬ ∀ (host : Host) (source : Path) (settings : Settings) (t files : FileTree) (x : SectionIndex)
      (c : Compiler) (report : ExecutionReport) (forgotten : List SectionId) (st : ApplyState),
      Ready source settings t x c →
      carryOut host (c.revertAll { files := t } x) t = (report, files) →
      c.commitRevert (c.revertAll { files := t } x) report { files } = .ok forgotten st →
      (∀ s ∈ x.toList, ∀ s' ∈ x.toList, s.id ≠ s'.id →
        settings.store.pathOf s.id ≠ settings.store.pathOf s'.id) →
      (c.revertAll { files := t } x).ApartFromRecords settings.store (x.toList.map (·.id)) t →
      ∀ s ∈ x.ofKind .dnsmasq,
        (settings.store.load s.id t ≠ .ok none ∧
            settings.store.load s.id (revert host source settings true false t).2 = .ok none ↔
          (∃ a ∈ (c.revertAll { files := t } x).actions, a.owner = s.id) ∧
            ∀ f ∈ report.failures, f.1.owner ≠ s.id) := by
  intro claimed
  have known : ∀ name ∈ ["x/../dnsmasq-m", "m"], name ∈ ["m", "x/../dnsmasq-m"] := by decide
  have plan : (Compiler.atHome.revertAll { files := recordOfTwo } twoInstances).actions =
      ["x/../dnsmasq-m", "m"].flatMap fun name => Compiler.teardown ⟨.dnsmasq, name⟩ pathsOfM :=
    actions_leftBehind _ _ known
  -- All actions have one priority, so that the teardown of the first instance runs before that of
  -- the second.
  have level : ∀ a ∈ ["x/../dnsmasq-m", "m"].flatMap fun name =>
      Compiler.teardown ⟨.dnsmasq, name⟩ pathsOfM, a.priority = -startPriority := by
    simp [Compiler.teardown]
  have ran : carryOut Host.minimal
      (Compiler.atHome.revertAll { files := recordOfTwo } twoInstances) recordOfTwo =
        (reportOfTwo, filesOfTwo) := by
    rw [carryOut_eq_iff, plan, runPlan, sortPlan_of_priority level]
    exact ⟨[], rfl⟩
  have committed : Compiler.atHome.commitRevert
      (Compiler.atHome.revertAll { files := recordOfTwo } twoInstances) reportOfTwo
      { files := filesOfTwo } = .ok [⟨.dnsmasq, "m"⟩]
        { files := filesOfTwo.erase ["state", "dnsmasq-m.json"] } := by
    -- The first instance has failed, so that only the second is forgotten.
    have due : Compiler.dueOwners (Compiler.failedOwners reportOfTwo) []
        (["x/../dnsmasq-m", "m"].flatMap fun name =>
          Compiler.teardown ⟨.dnsmasq, name⟩ pathsOfM) = [⟨.dnsmasq, "m"⟩] := by decide
    have forgot : Compiler.atHome.forget ⟨.dnsmasq, "m"⟩ { files := filesOfTwo } =
        .ok () { files := filesOfTwo.erase ["state", "dnsmasq-m.json"] } := rfl
    rw [Compiler.commitRevert, plan, Compiler.forgetOwners_eq, due, List.forM_cons]
    exact run_bind_eq_ok.2 ⟨(), _, run_bind_eq_ok.2 ⟨(), _, forgot, rfl⟩, rfl⟩
  have listed : declared "x/../dnsmasq-m" ∈ twoInstances.ofKind .dnsmasq := List.mem_cons_self
  have exactly := claimed Host.minimal "router.yaml" Compiler.atHome.settings recordOfTwo _
    twoInstances Compiler.atHome _ _ _ ready_recordOfTwo ran committed (by decide)
    (apartFromRecords_leftBehind _ _ known _ _) _ listed
  rw [revert_files ready_recordOfTwo ran committed] at exactly
  -- The record was there and is gone, though asking the daemon to end has failed.
  have there := load_leftBehind (declaring ["x/../dnsmasq-m", "m"]) "zzz"
    (known _ List.mem_cons_self)
  have gone : Compiler.atHome.settings.store.load ⟨.dnsmasq, "x/../dnsmasq-m"⟩
      (filesOfTwo.erase ["state", "dnsmasq-m.json"]) = .ok none := RecordStore.load_of_missing rfl
  have before : Compiler.atHome.settings.store.load ⟨.dnsmasq, "x/../dnsmasq-m"⟩ recordOfTwo ≠
      .ok none := by
    intro none
    cases there.symm.trans none
  have unharmed := (exactly.1 ⟨before, gone⟩).2
  exact unharmed _ (List.mem_singleton_self _) rfl

end Command

end RouterConf
