import RouterConf.Proofs.Dnsmasq.Reapply
import RouterConf.Proofs.Files.NewDirectories
import RouterConf.Proofs.Files.Settled

/-!
# Applying again

To apply an instance that has just been applied has the same result, and changes nothing but the
time in its record, if the renderer is steady. Everything that the second apply needs the first one
has left (`Compiler.InPlace`): the directories have been made, the configuration and the record are
in their places, and their drafts are gone. A second apply leaves all of that as well, so that it
holds however often the instance is applied again.

That the first apply leaves no directory where the draft of the configuration goes has to be shown,
since it makes one more directory after the draft has been written: that of the records. It can be
no other, because the write directory has been reached by then, on the way to the pid file; and the
directory of the records is not called as a draft is. The lease file may be anywhere, also in the
place of all these, since its own directory is made first.

Main statements: `Compiler.inPlace_of_apply`, `Compiler.InPlace.apply_eq`,
`Compiler.apply_repeatedly`.
-/

namespace RouterConf

open FileTree (Grows AgreeBut)
open Change (Settled Touches draftOf)

variable {t t' : FileTree} {l record : Location}

/-! ### Records that are kept again -/

/-- **A record in its place can be kept again**, with any time. -/
theorem RecordStore.save_inPlace {store : RecordStore} {id : SectionId} {text : String}
    (settled : Settled (Change.makeDirectories store.directory) t)
    (h : t.InPlace (store.draftOf id) (store.pathOf id) record text) (paths : InstancePaths)
    (now : Timestamp) : ∃ t', store.save id paths now t = .ok ⟨id, now, paths⟩ t' ∧
      AgreeBut [record] t t' ∧ t'.InPlace (store.draftOf id) (store.pathOf id) record
        (ApplyRecord.text ⟨id, now, paths⟩) := by
  -- The draft is written and moved over the record, in a directory that is there.
  obtain ⟨t₁, t', written, moved, agree, again⟩ :=
    Change.write_rename_inPlace h (ApplyRecord.text ⟨id, now, paths⟩)
  refine ⟨t', run_bind_eq_ok.2 ⟨(), t, settled t (Grows.refl t), ?_⟩, agree, again⟩
  exact run_bind_eq_ok.2 ⟨(), t₁, written, run_bind_eq_ok.2 ⟨(), t', moved, rfl⟩⟩

/-- A record that has been saved is in its place, in a directory that need not be made again. -/
theorem RecordStore.inPlace_of_save {store : RecordStore} {id : SectionId} {paths : InstancePaths}
    {now : Timestamp} {r : ApplyRecord} (h : store.save id paths now t = .ok r t') :
    Settled (Change.makeDirectories store.directory) t' ∧ ∃ record,
      t'.InPlace (store.draftOf id) (store.pathOf id) record
        (ApplyRecord.text ⟨id, now, paths⟩) := by
  obtain ⟨rfl, held, draft⟩ := save_ok h
  obtain ⟨record, target, held⟩ := FileTree.status_eq_file_iff.1 held
  refine ⟨?_, record, target, held, draft⟩
  obtain ⟨_, t₁, made, kept⟩ := run_bind_eq_ok.1 h
  -- What follows on the making of the directory touches the record and its draft alone.
  have touches : Touches [store.pathOf id, store.draftOf id]
      (Change.write (store.draftOf id) (ApplyRecord.text ⟨id, now, paths⟩) >>= fun _ =>
        Change.rename (store.draftOf id) (store.pathOf id) >>= fun _ =>
          pure (⟨id, now, paths⟩ : ApplyRecord)) :=
    .bind (.write _ _ (by simp)) fun _ => .bind (.rename (by simp) (by simp)) fun _ => .pure _
  exact (Change.settled_makeDirectories made).of_grows (touches.ok kept).toGrows

/-- The memory of an identity that is written twice is that of writing it once. -/
theorem Applied.insert_insert (a : Applied) (id : SectionId) (paths : InstancePaths) :
    (a.insert id paths).insert id paths = a.insert id paths := by
  simp [insert, List.filter_filter]

namespace Compiler

variable {c : Compiler} {now : Timestamp} {x : SectionIndex} {s : Section} {d : DnsmasqInstance}
  {st st' : ApplyState} {text : String} {r : ApplyRecord} {actions : List PlannedAction}

/-! ### The directories of an apply -/

/-- The write directory is reached once the directory of the pid file has been made, even if the
name of the instance leads elsewhere from there. -/
theorem exists_reach_of_ensureParent
    (h : Change.ensureParent (c.paths s d).pid t = .ok () t') :
    ∃ w, t'.reach c.settings.writeDir = .ok w := by
  -- The pid file has a name of its own, so that making its directory makes the way to it.
  have ending : ".pid".toList <:+ (c.paths s d).pid.lastSegment :=
    Path.suffix_lastSegment_join _ _ _ (by decide)
  -- Its path is relative whatever the instance is called, and so goes through the write directory.
  have relative : Path.isAbsolute ("dnsmasq-" ++ s.id.name ++ ".pid") = false := by
    have start : "dnsmasq-" ++ s.id.name ++ ".pid" = "dnsmasq-" ++ (s.id.name ++ ".pid") :=
      String.append_assoc
    rw [start, Path.isAbsolute_append (by decide)]
    decide
  obtain ⟨⟨d', hd⟩, -⟩ := Change.ensureParent_ok (Path.named_of_suffix ending (by decide)).1 h
  exact FileTree.exists_reach_of_directoryOf_join relative hd

/-- The directory of the records has a plain name. -/
theorem isName_state : Path.IsName "state" :=
  .of_length (by decide) (by decide)

/-- The draft of a configuration is never where the directory of the records is. -/
theorem draftOf_ne_state {p : Path} {w : Location} (h : t.Denotes (draftOf p) l) :
    l ≠ w ++ ["state"] := by
  rintro rfl
  -- The one is called `state`, and the name of the other ends in `.pdconf.tmp`.
  have last := h.getLast?.1
  rw [List.getLast?_concat, Option.some.injEq] at last
  have ending := suffix_lastSegment_draftOf p
  rw [← String.ofList_toList (s := "state"), String.ofList_inj] at last
  rw [← last] at ending
  exact absurd ending (by decide)

/-- **No directory takes the place of the draft** while a record is kept, once the write directory
has been reached. -/
theorem free_of_save {w : Location} {paths : InstancePaths} {p : Path}
    (reached : t.reach c.settings.writeDir = .ok w)
    (h : c.settings.store.save s.id paths now t = .ok r t') (draft : t.Denotes (draftOf p) l)
    (free : t.get? l = none) : t'.get? l ≠ some .directory := by
  intro taken
  obtain ⟨_, t₁, made, h⟩ := run_bind_eq_ok.1 h
  obtain ⟨_, t₂, written, h⟩ := run_bind_eq_ok.1 h
  obtain ⟨_, t₃, moved, h⟩ := run_bind_eq_ok.1 h
  cases h
  -- Neither writing nor moving makes a directory, and only that of the records is made before.
  have later := ((Change.within_write [] _ _).ok written).trans
    ((Change.within_rename [] _ _).ok moved)
  rcases later.directory taken with earlier | ⟨_, hp, -⟩
  · rw [Change.get?_of_makeDirectories_join isName_state reached made (draftOf_ne_state draft),
      free] at earlier
    cases earlier
  · cases hp

/-! ### What an apply leaves -/

/-- **An instance in its place**: its directories have been made, its configuration and its record
are there without drafts, and what is remembered of it would be remembered again. -/
structure InPlace (c : Compiler) (s : Section) (d : DnsmasqInstance) (text : String)
    (record : Location) (r : ApplyRecord) (st : ApplyState) : Prop where
  lease : Settled (Change.ensureParent (c.paths s d).lease) st.files
  pid : Settled (Change.ensureParent (c.paths s d).pid) st.files
  folder : Settled (Change.ensureParent (c.configOf s)) st.files
  config : ∃ l, st.files.InPlace (draftOf (c.configOf s)) (c.configOf s) l text
  records : Settled (Change.makeDirectories c.settings.store.directory) st.files
  record : st.files.InPlace (c.settings.store.draftOf s.id) (c.settings.store.pathOf s.id) record
    r.text
  memory : st.applied.insert s.id (c.paths s d) = st.applied

/-- **An apply leaves the instance in its place**, whatever the tree was before and wherever the
lease file is. -/
theorem inPlace_of_apply (h : c.apply now x s st = .ok actions st') : ∃ d text record,
    instanceOf s = .ok d ∧ c.renderInstance x s d now = .ok text ∧
      actions = [⟨startPriority, s.id, .start (c.startCommand (c.paths s d))⟩] ∧
      c.InPlace s d text record ⟨s.id, now, c.paths s d⟩ st' := by
  obtain ⟨d, text, t₁, hd, ht, hp, hr, memory, command⟩ := apply_ok h
  obtain ⟨directory, record, kept⟩ := RecordStore.inPlace_of_save hr
  refine ⟨d, text, record, hd, ht, command, ?_⟩
  obtain ⟨_, u₁, lease, placed⟩ := run_bind_eq_ok.1 hp
  obtain ⟨_, u₂, pid, replaced⟩ := run_bind_eq_ok.1 placed
  have saved := (RecordStore.touches_save _ _ _ _).ok hr
  -- No step removes a directory that an earlier one has made.
  have grows₁ : Grows u₁ t₁ :=
    ((Touches.bind (.ensureParent _) fun _ => .replace _ text).ok placed).toGrows
  have grows₂ : Grows u₂ t₁ := ((Touches.replace _ text).ok replaced).toGrows
  obtain ⟨folder, l, -, -, l', draft, free⟩ := Change.inPlace_of_replace replaced
  obtain ⟨held, absent⟩ := config_of_changesOnly hp saved
  refine
    { lease := (Change.settled_ensureParent lease).of_grows (grows₁.trans saved.toGrows)
      pid := (Change.settled_ensureParent pid).of_grows (grows₂.trans saved.toGrows)
      folder := folder.of_grows saved.toGrows
      config := ?_
      records := directory
      record := kept
      memory := by rw [memory, Applied.insert_insert] }
  obtain ⟨l, target, held⟩ := FileTree.status_eq_file_iff.1 held
  refine ⟨l, target, held, l', saved.denotes draft, ?_⟩
  obtain ⟨w, reached⟩ := exists_reach_of_ensureParent pid
  -- Nothing was where the draft had been; keeping the record puts no file there, and no directory.
  rcases there : st'.files.get? l' with _ | f | _
  · rfl
  · exact absurd (FileTree.status_eq_file_iff.2 ⟨l', saved.denotes draft, there⟩) (absent f)
  · exact absurd there (free_of_save (grows₂.reach reached) hr draft free)

/-! ### Applying again -/

/-- **An instance in its place is applied again** with the same result. Nothing changes but its
record, which has the new time. -/
theorem InPlace.apply_eq {record : Location} (h : c.InPlace s d text record r st)
    (hd : instanceOf s = .ok d) (ht : c.renderInstance x s d now = .ok text) :
    ∃ st', c.apply now x s st =
        .ok [⟨startPriority, s.id, .start (c.startCommand (c.paths s d))⟩] st' ∧
      c.InPlace s d text record ⟨s.id, now, c.paths s d⟩ st' ∧ st'.applied = st.applied ∧
      AgreeBut [record] st.files st'.files := by
  obtain ⟨l, config⟩ := h.config
  obtain ⟨t₁, replaced, same⟩ := Change.replace_inPlace h.folder config
  -- No directory has to be made, and the configuration is replaced by the same text.
  have placed : place (c.paths s d) text st.files = .ok () t₁ :=
    run_bind_eq_ok.2 ⟨(), _, h.lease _ (Grows.refl _),
      run_bind_eq_ok.2 ⟨(), _, h.pid _ (Grows.refl _), replaced⟩⟩
  have kept := h.record.of_agreeBut same List.not_mem_nil fun _ _ => List.not_mem_nil
  obtain ⟨t₂, saved, changed, again⟩ :=
    RecordStore.save_inPlace (h.records.of_grows same.grows) kept (c.paths s d) now
  have agree : AgreeBut [record] st.files t₂ := same.of_nil changed
  -- The record is none of the other files, so that what is kept again spares them.
  have apart : ∀ p ∈ c.besidesRecord s, ∀ l, st.files.Denotes p l → l ∉ [record] := by
    intro p hp l hl hm
    rw [List.mem_singleton.1 hm] at hl
    exact record_apart hp h.record.target hl
  refine ⟨⟨t₂, st.applied⟩, ?_, ?_, rfl, agree⟩
  · rw [apply_of_save_ok hd ht placed saved, h.memory]
  · exact
      { lease := h.lease.of_grows agree.grows
        pid := h.pid.of_grows agree.grows
        folder := h.folder.of_grows agree.grows
        config := ⟨l, config.of_agreeBut agree (apart _ (by simp [besidesRecord]) l config.target)
          (apart _ (by simp [besidesRecord]))⟩
        records := h.records.of_grows agree.grows
        record := again
        memory := h.memory }

/-- Calls that apply a section at some times. -/
def applyCalls (x : SectionIndex) (s : Section) (times : List Timestamp) : List Call :=
  times.map fun now => ⟨.apply x s, now, false⟩

/-- **However often an instance in its place is applied again**, with the same text each time, it
stays there, and its record has the last time. -/
theorem InPlace.runCalls_eq {record : Location}
    (h : c.InPlace s d text record ⟨s.id, now, c.paths s d⟩ st) (hd : instanceOf s = .ok d)
    (ht : ∀ now, c.renderInstance x s d now = .ok text) (times : List Timestamp) :
    ∃ st', c.runCalls (applyCalls x s times) st = (times.map fun _ => .actions
        (.ok [⟨startPriority, s.id, .start (c.startCommand (c.paths s d))⟩]), st') ∧
      c.InPlace s d text record ⟨s.id, times.getLast?.getD now, c.paths s d⟩ st' ∧
      st'.applied = st.applied ∧ AgreeBut [record] st.files st'.files := by
  -- Each time it is applied from where the time before has left it, which is again in its place.
  induction times generalizing now st with
  | nil =>
    refine ⟨st, rfl, h, rfl, rfl, fun _ => rfl, ?_, ?_⟩ <;> simp [h.record.held]
  | cons next times ih =>
    obtain ⟨st₁, applied, inPlace, memory, files⟩ := h.apply_eq hd (ht next)
    obtain ⟨st₂, ran, later, memory', files'⟩ := ih inPlace
    refine ⟨st₂, ?_, ?_, memory'.trans memory, files.trans files'⟩
    · -- One call is one apply from the state as it is.
      have once : Call.run c ⟨.apply x s, next, false⟩ st = (.actions
          (.ok [⟨startPriority, s.id, .start (c.startCommand (c.paths s d))⟩]), st₁) := by
        simp [Call.run, Call.start, Operation.run, applied, answered]
      have rest : applyCalls x s (next :: times) =
          ⟨.apply x s, next, false⟩ :: applyCalls x s times := rfl
      rw [rest]
      simp only [runCalls, once, ran, List.map_cons]
    · rwa [List.getLast?_cons, Option.getD_some]

/-- **Applying is idempotent**, if the renderer is steady. Let an apply succeed, on whatever tree,
for whatever name and wherever the lease file is. Its record is in a file then; and however often
the section is applied again, at any times, each apply succeeds with the same actions, what is
remembered stays as it is, and no file or directory changes but this one file, in which the record
has the time of the last apply. -/
theorem apply_repeatedly (steady : c.renderer.Steady) (h : c.apply now x s st = .ok actions st') :
    ∃ d record, s.asDnsmasq = some d ∧
      st'.files.Denotes (c.settings.store.pathOf s.id) record ∧
      st'.files.get? record =
        some (.file (.text (ApplyRecord.text ⟨s.id, now, c.paths s d⟩))) ∧
      ∀ times : List Timestamp, ∃ st'',
        c.runCalls (applyCalls x s times) st' = (times.map fun _ => .actions (.ok actions), st'') ∧
        st''.applied = st'.applied ∧ AgreeBut [record] st'.files st''.files ∧
        st''.files.get? record = some (.file (.text
          (ApplyRecord.text ⟨s.id, times.getLast?.getD now, c.paths s d⟩))) := by
  obtain ⟨d, text, record, hd, ht, rfl, inPlace⟩ := inPlace_of_apply h
  have rendered (later : Timestamp) : c.renderInstance x s d later = .ok text :=
    (renderInstance_steady steady d later now).trans ht
  refine ⟨d, record, instanceOf_eq_ok.1 hd, inPlace.record.target, inPlace.record.held,
    fun times => ?_⟩
  obtain ⟨st'', ran, later, memory, files⟩ := inPlace.runCalls_eq hd rendered times
  exact ⟨st'', ran, memory, files, later.record.held⟩

/-- An instance that keeps its leases below the directory of the records is applied where nothing
is, and then twice again. -/
theorem apply_repeatedly_leasesAmongRecords : ∃ actions st₁,
    atHome.apply .epoch (.ofList []) (leasing "state/leases/m") ⟨⟨[], []⟩, []⟩ =
      .ok actions st₁ ∧
    ∃ record st₂,
      atHome.runCalls (applyCalls (.ofList []) (leasing "state/leases/m") [.epoch, .epoch]) st₁ =
        ([.actions (.ok actions), .actions (.ok actions)], st₂) ∧
      st₂.applied = st₁.applied ∧ AgreeBut [record] st₁.files st₂.files := by
  have rendered : ∃ text, atHome.renderInstance (.ofList []) (leasing "state/leases/m")
      (leasingAt "state/leases/m") .epoch = .ok text := exists_renderInstance rfl _ rfl rfl .epoch
  obtain ⟨text, ht⟩ := rendered
  have applied : ∃ actions st₁, atHome.apply .epoch (.ofList []) (leasing "state/leases/m")
      ⟨⟨[], []⟩, []⟩ = .ok actions st₁ := ⟨_, _, apply_of_save_ok rfl ht rfl rfl⟩
  obtain ⟨actions, st₁, applied⟩ := applied
  obtain ⟨d, record, -, -, -, again⟩ :=
    apply_repeatedly Renderer.steady_standard applied
  obtain ⟨st₂, ran, memory, files, -⟩ := again [.epoch, .epoch]
  exact ⟨actions, st₁, applied, record, st₂, ran, memory, files⟩

end Compiler

end RouterConf
