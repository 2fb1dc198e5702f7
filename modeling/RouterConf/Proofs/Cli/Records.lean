import RouterConf.Cli.Command
import RouterConf.Proofs.Dnsmasq.SignalFirst

/-!
# What commands do to records

A command works on records in two ways. The compiler writes and drops them, and the actions of its
plan may change any file on the way, records included: a teardown removes files, and a daemon that
is started does what it likes.

Neither does any harm. A teardown takes away the files that its actions are on and no others, so
that records stay if none of these is one (`Command.carryOut_spares`). An apply puts records in
place of records but never drops one (`Compiler.contains_of_applyAll`), and of the programs that it
starts nothing more is asked than that they leave records alone (`Command.contains_of_carryOut`).
-/

namespace RouterConf

open FileTree (Denotes ChangesOnly Grows)
open ApplyStep (Within)

namespace RecordStore

variable {store : RecordStore} {id : SectionId} {t t' : FileTree} {q : Path}

/-- The store has a record of the identity that can be read. -/
def Contains (store : RecordStore) (id : SectionId) (t : FileTree) : Prop :=
  ∃ r, store.load id t = .ok (some r)

end RecordStore

/-! ### Tearing down -/

/-- **The paths are on no record**: nothing that an action of the plan is on is the file of a record
of some identities. -/
def Plan.ApartFromRecords (p : Plan) (store : RecordStore) (ids : List SectionId) (t : FileTree) :
    Prop :=
  ∀ a ∈ p.actions, ∀ q, a.action.path? = some q → ∀ id ∈ ids, ∀ l,
    t.Denotes (store.pathOf id) l → ¬ t.Denotes q l

/-- **The records are as they were.** They are in the same places, and what is loaded is the
same. -/
structure RecordStore.Unchanged (store : RecordStore) (ids : List SectionId) (t t' : FileTree) :
    Prop where
  grows : Grows t t'
  shrinks : Grows t' t
  load : ∀ id ∈ ids, store.load id t' = store.load id t

namespace Command

variable {host : Host} {p : Plan} {store : RecordStore} {ids : List SectionId} {t files : FileTree}
  {report : ExecutionReport}

/-- A plan is carried out on a machine that has signalled nobody yet. -/
theorem carryOut_eq_iff : carryOut host p t = (report, files) ↔
    ∃ signalled,
      runPlan (Executor.system host) p.actions ⟨t, []⟩ = (report, ⟨files, signalled⟩) := by
  unfold carryOut
  rcases runPlan (Executor.system host) p.actions ⟨t, []⟩ with ⟨report', files', signalled'⟩
  constructor
  · intro h
    cases h
    exact ⟨signalled', rfl⟩
  · rintro ⟨signalled, h⟩
    cases h
    rfl

/-- What every action keeps of the files is kept when a plan is carried out. -/
theorem carryOut_keeps {P : FileTree → Prop}
    (step : ∀ a ∈ p.actions, ∀ m m' : Machine, (Executor.system host).Leaves a.action m m' →
      P m.files → P m'.files) (start : P t) (h : carryOut host p t = (report, files)) :
    P files := by
  obtain ⟨signalled, h⟩ := carryOut_eq_iff.1 h
  have kept := runPlan_keeps (P := fun m : Machine => P m.files) step (s := ⟨t, []⟩) start
  rwa [h] at kept

/-- **Carrying out a teardown leaves records alone** that none of its actions is on. -/
theorem carryOut_spares (teardown : ∀ a ∈ p.actions, ∀ argv, a.action ≠ .start argv)
    (apart : p.ApartFromRecords store ids t) (h : carryOut host p t = (report, files)) :
    store.Unchanged ids t files := by
  refine carryOut_keeps (P := store.Unchanged ids t) ?_
    ⟨Grows.refl t, Grows.refl t, fun _ _ => rfl⟩ h
  intro a ha m m' leaves kept
  -- To ask a daemon to end changes no file, and a removal changes one that is no record.
  cases action : a.action with
  | start argv => exact absurd action (teardown a ha argv)
  | killPidFile q =>
    rw [action] at leaves
    rwa [leaves.killPidFile]
  | removeFile q =>
    rw [action] at leaves
    rcases leaves.removeFile with removed | same
    · have touched := (Change.Touches.removeIfPresent (List.mem_singleton_self q)).ok removed
      have fewer := Change.grows_of_removeIfPresent removed
      refine ⟨kept.grows.trans touched.toGrows, fewer.trans kept.shrinks, fun id hid => ?_⟩
      rw [RecordStore.load_eq_of_toOption (Change.toOption_status_of_removeIfPresent removed ?_),
        kept.load id hid]
      -- Paths lead where they led before anything was removed.
      exact fun l hl hq => apart a ha q (by rw [action]; rfl) id hid l (kept.shrinks.denotes hl)
        (kept.shrinks.denotes hq)
    · rwa [same]

end Command

/-! ### Applying -/

namespace Compiler

variable {c : Compiler} {now : Timestamp} {x : SectionIndex} {s : Section} {st : ApplyState}

/-- **An apply drops no record.** If it succeeds, it may put its own record in the place of another;
then that is what is loaded for both. -/
theorem contains_of_apply (hn : now.isValid = true) :
    Within (fun st st' => ∀ id, c.settings.store.Contains id st.files →
      c.settings.store.Contains id st'.files) (c.apply now x s) := by
  refine ⟨fun {st st' actions} ha id => ?_, fun ha id => ?_⟩
  · rintro ⟨r, hr⟩
    obtain ⟨d, text, t₁, -, -, -, saved, -, -⟩ := apply_ok ha
    -- If the record of the section is the same file, it is the new record that is loaded; otherwise
    -- it has not been touched.
    by_cases shared : ∃ l, st'.files.Denotes (c.settings.store.pathOf id) l ∧
        st'.files.Denotes (c.settings.store.pathOf s.id) l
    · obtain ⟨l, hl, hl'⟩ := shared
      obtain ⟨text', there, read⟩ :=
        RecordStore.load_eq_some_iff.1 (RecordStore.load_of_save hn saved)
      obtain ⟨l', hd, he⟩ := FileTree.status_eq_file_iff.1 there
      obtain rfl := hd.unique hl'
      exact ⟨_, RecordStore.load_of_text (FileTree.status_eq_file_iff.2 ⟨l', hl, he⟩) read⟩
    · refine ⟨r, RecordStore.load_of_changesOnly (changesOnly_apply_ok ha) (fun p hp l hl => ?_) hr⟩
      rcases List.mem_cons.1 hp with rfl | hp
      · exact fun hl' => shared ⟨l, hl, hl'⟩
      · exact record_apart hp hl
  · rintro ⟨r, hr⟩
    exact ⟨r, load_of_apply_error ha hr⟩

/-- Applies one after the other drop no record. -/
theorem contains_of_applyEach (hn : now.isValid = true) {id : SectionId} {ss : List Section}
    (h : c.settings.store.Contains id st.files) :
    c.settings.store.Contains id (c.applyEach now x ss st).2.files := by
  induction ss generalizing st with
  | nil => exact h
  | cons s rest ih =>
    unfold applyEach
    split
    · exact ih ((contains_of_apply hn).ok ‹_› id h)
    · exact ih ((contains_of_apply hn).error ‹_› id h)

/-- A cycle of applies drops no record, however many of them fail. -/
theorem contains_of_applyAll (hn : now.isValid = true) {id : SectionId}
    (h : c.settings.store.Contains id st.files) :
    c.settings.store.Contains id (c.applyAll now x st).2.files :=
  contains_of_applyEach hn h

/-- The actions of a cycle of applies start the program of the settings. -/
theorem start_of_mem_applyAll {a : PlannedAction} (ha : a ∈ (c.applyAll now x st).1.actions) :
    ∃ arguments, a.action = .start (c.settings.program :: arguments) := by
  -- Sorting changes the order of the actions only.
  have each : ∀ (ss : List Section) (st : ApplyState), ∀ a ∈ (c.applyEach now x ss st).1.actions,
      ∃ arguments, a.action = .start (c.settings.program :: arguments) := by
    intro ss
    induction ss with
    | nil => simp [applyEach]
    | cons s rest ih =>
      intro st a ha
      unfold applyEach at ha
      split at ha
      · rename_i actions st₁ happ
        obtain ⟨d, _, _, -, -, -, -, -, rfl⟩ := apply_ok happ
        rcases List.mem_append.1 ha with first | later
        · rw [List.mem_singleton.1 first]
          exact ⟨_, rfl⟩
        · exact ih st₁ a later
      · exact ih _ a ha
  exact each _ st a ((sortPlan_perm _).mem_iff.1 ha)

end Compiler

/-- **A program that leaves records alone**: what a path of a record leads to is the same after it
has run. -/
def Host.SparesRecords (host : Host) (settings : Settings) : Prop :=
  ∀ arguments t id, (host.spawn settings.program arguments t).2.status (settings.store.pathOf id) =
    t.status (settings.store.pathOf id)

/-- **Starting daemons drops no record**, whether or not they start. -/
theorem Command.contains_of_carryOut {host : Host} {settings : Settings}
    (spares : host.SparesRecords settings) {p : Plan}
    (starts : ∀ a ∈ p.actions, ∃ arguments, a.action = .start (settings.program :: arguments))
    {t files : FileTree} {report : ExecutionReport} (h : carryOut host p t = (report, files))
    {id : SectionId} (there : settings.store.Contains id t) : settings.store.Contains id files := by
  refine carryOut_keeps (P := settings.store.Contains id) ?_ there h
  rintro a ha m m' leaves ⟨r, hr⟩
  obtain ⟨arguments, action⟩ := starts a ha
  rw [action] at leaves
  -- Either no program was started, or the one of the settings was.
  rcases leaves.start with same | ⟨program, arguments', argv, ran⟩
  · exact ⟨r, by rw [same, hr]⟩
  · obtain ⟨rfl, rfl⟩ := List.cons.inj argv
    have kept := spares arguments m.files id
    exact ⟨r, by rw [ran, RecordStore.load_eq_of_toOption (congrArg Except.toOption kept), hr]⟩

end RouterConf
