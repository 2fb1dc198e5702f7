import RouterConf.Proofs.Dnsmasq.Apply
import RouterConf.Proofs.Dnsmasq.Rendering

/-!
# What a failed apply leaves

An apply writes the configuration first and the record last, and takes nothing back. So what a
failure leaves depends on how far the apply got:

* a section that cannot be rendered leaves everything;
* a configuration that cannot be put in place leaves every file, up to what somebody left behind
  under the name of its draft, which is gone;
* a record that cannot be kept leaves the new configuration, whole, and every other file.

In no case is anything recorded or forgotten in memory, and no record is lost.

Main statement: `Compiler.apply_failure`. That the last two points cannot be left out is
`Compiler.apply_not_atomic`.
-/

namespace RouterConf

open FileTree (ChangesOnly)
open Change (draftOf)

/-- Every file is as before, except where one of the paths leads. -/
def FileTree.KeepsFiles (ps : List Path) (t t' : FileTree) : Prop :=
  ∀ {l c}, (∀ p ∈ ps, ¬ t'.Denotes p l) →
    (t'.get? l = some (.file c) ↔ t.get? l = some (.file c))

namespace Compiler

variable {c : Compiler} {now : Timestamp} {x : SectionIndex} {s : Section} {st st' : ApplyState}
  {t t' : FileTree} {id : SectionId}

/-- A record that cannot be kept leaves the configuration that has been put in place, and no draft
of it. -/
theorem config_of_save_error {d : DnsmasqInstance} {text : String} {fault : FileFault}
    {paths : InstancePaths} (hp : place (c.paths s d) text t = .ok () t')
    (hr : c.settings.store.save id paths now t' = .error fault st'.files) :
    st'.files.status (c.configOf s) = .ok (.file (.text text)) ∧
      ∀ f, st'.files.status (draftOf (c.configOf s)) ≠ .ok (.file f) := by
  have kept : ChangesOnly [c.settings.store.pathOf id, c.settings.store.draftOf id]
      t' st'.files := (RecordStore.save_error hr).mono (by simp)
  exact config_of_changesOnly hp kept

/-! ### Two trees on which an apply fails -/

/-- A file stands where the records would go. -/
def recordsBlocked : FileTree where
  home := []
  entries := [(["state"], .file (.text ""))]

/-- A directory stands where the configuration would go, and a draft of it has been left behind. -/
def configBlocked : FileTree where
  home := []
  entries := [(["dnsmasq-main.conf"], .directory),
    (["dnsmasq-main.conf.pdconf.tmp"], .file (.text ""))]

/-- An apply for the home directory that fails at the record leaves the configuration. -/
theorem apply_recordsBlocked : ∃ text fault t,
    atHome.apply .epoch (.ofList [.plain "main"]) (.plain "main") ⟨recordsBlocked, []⟩ =
      .error (.io fault) ⟨t, []⟩ ∧ t.get? ["dnsmasq-main.conf"] = some (.file (.text text)) := by
  have pools : (SectionIndex.ofList [.plain "main"]).ofKind .dhcpPool = [] := rfl
  obtain ⟨text, ht⟩ := exists_renderInstance_atHome "main" pools .epoch
  -- The directory of the records cannot be made where a file is.
  exact ⟨text, _, _, apply_of_save_error rfl ht rfl rfl, rfl⟩

/-- An apply for the home directory that fails at the configuration takes a draft with it. -/
theorem apply_configBlocked : ∃ fault t,
    atHome.apply .epoch (.ofList [.plain "main"]) (.plain "main") ⟨configBlocked, []⟩ =
      .error (.io fault) ⟨t, []⟩ ∧ t.get? ["dnsmasq-main.conf.pdconf.tmp"] = none := by
  have pools : (SectionIndex.ofList [.plain "main"]).ofKind .dhcpPool = [] := rfl
  obtain ⟨text, ht⟩ := exists_renderInstance_atHome "main" pools .epoch
  exact ⟨_, _, apply_of_place_error rfl ht rfl, rfl⟩

/-! ### What is left -/

/-- **What a failed apply leaves.** The memory and every record are as they were. If the section
could not be rendered, so is every file. Otherwise an operation on files failed: while the
configuration was put in place, and then no file is new or changed, and none is gone but the draft
of the configuration; or while the record was kept, and then the configuration holds what was
rendered, its draft is gone, and every other file is as it was, the draft of the record set aside.
-/
theorem apply_failure {e : CompileError} (h : c.apply now x s st = .error e st') :
    st'.applied = st.applied ∧
    (∀ {id r}, c.settings.store.load id st.files = .ok (some r) →
      c.settings.store.load id st'.files = .ok (some r)) ∧
    (c.render x s now = .error e ∧ st'.files = st.files ∨
      ∃ d text fault, s.asDnsmasq = some d ∧ c.render x s now = .ok text ∧ e = .io fault ∧
        ((place (c.paths s d) text st.files = .error fault st'.files ∧
            st.files.KeepsFiles [draftOf (c.configOf s)] st'.files ∧
            ∀ {l f}, st'.files.get? l = some (.file f) → st.files.get? l = some (.file f)) ∨
          ∃ t₁, place (c.paths s d) text st.files = .ok () t₁ ∧
            c.settings.store.save s.id (c.paths s d) now t₁ = .error fault st'.files ∧
            st'.files.status (c.configOf s) = .ok (.file (.text text)) ∧
            (∀ f, st'.files.status (draftOf (c.configOf s)) ≠ .ok (.file f)) ∧
            st.files.KeepsFiles [c.configOf s, draftOf (c.configOf s),
              c.settings.store.draftOf s.id] st'.files)) := by
  refine ⟨applied_of_apply_error h, load_of_apply_error h, ?_⟩
  have touched := changesOnly_apply_error h
  -- The cases are those of how far the apply got.
  rcases apply_error h with ⟨rfl, hr⟩ | ⟨d, text, fault, hd, ht, he, -, steps⟩
  · exact .inl ⟨hr, rfl⟩
  have rendered : c.render x s now = .ok text := by
    rw [render, hd]
    exact ht
  refine .inr ⟨d, text, fault, instanceOf_eq_ok.1 hd, rendered, he, ?_⟩
  rcases steps with hp | ⟨t₁, hp, hr⟩
  · obtain ⟨draft, none_new⟩ := place_error hp
    exact .inl ⟨hp, draft.get?_file, none_new⟩
  · obtain ⟨config, free⟩ := config_of_save_error hp hr
    exact .inr ⟨t₁, hp, hr, config, free, touched.get?_file⟩

/-- The apply that fails at its record has left the memory and a configuration. -/
theorem apply_failure_recordsBlocked : ∃ e st',
    atHome.apply .epoch (.ofList [.plain "main"]) (.plain "main") ⟨recordsBlocked, []⟩ =
      .error e st' ∧ st'.applied = [] := by
  obtain ⟨text, fault, t, h, -⟩ := apply_recordsBlocked
  exact ⟨_, _, h, (apply_failure h).1⟩

/-- **An apply is not all or nothing.** One that fails may leave a file that was not there, the
configuration; and one that fails may take a file that was there, a draft left behind. -/
theorem apply_not_atomic :
    (¬ ∀ (c : Compiler) (now : Timestamp) (x : SectionIndex) (s : Section) (st st' : ApplyState)
      (e : CompileError), c.apply now x s st = .error e st' →
        ∀ l f, st'.files.get? l = some (.file f) → st.files.get? l = some (.file f)) ∧
    ¬ ∀ (c : Compiler) (now : Timestamp) (x : SectionIndex) (s : Section) (st st' : ApplyState)
      (e : CompileError), c.apply now x s st = .error e st' →
        ∀ l f, st.files.get? l = some (.file f) → st'.files.get? l = some (.file f) := by
  constructor
  · intro none_new
    -- The configuration has been put in place before the record turns out to be blocked.
    obtain ⟨text, fault, t, h, there⟩ := apply_recordsBlocked
    have before := none_new _ _ _ _ _ _ _ h _ _ there
    cases before
  · intro none_gone
    -- What has been left behind is written over, and goes with the draft that cannot be moved.
    obtain ⟨fault, t, h, gone⟩ := apply_configBlocked
    have after := none_gone _ _ _ _ _ _ _ h ["dnsmasq-main.conf.pdconf.tmp"] (.text "") rfl
    rw [gone] at after
    cases after

end Compiler

end RouterConf
