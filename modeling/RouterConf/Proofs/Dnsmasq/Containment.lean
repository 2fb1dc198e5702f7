import RouterConf.Proofs.Dnsmasq.Apply
import RouterConf.Proofs.Record.Saving

/-!
# Files stay below the write directory

The files of an instance are named for it, and names are not checked. As long as a name does not go
up further than it has gone down, all that an apply writes, its drafts included, is below the write
directory, and the only other directories that it makes are those on the way there
(`Compiler.apply_contained`). A name that goes up further puts the configuration somewhere else
(`Compiler.apply_not_contained`).

Main statement: `Compiler.apply_contained`.
-/

namespace RouterConf

open FileTree (ChangesOnly Denotes MakesOnly)
open Change (Within draftOf)
open Location (Below)

/-- **All changes are below a directory**, but for the directories that have been made on the way
there, the directory itself included. -/
structure FileTree.ContainedIn (w : Path) (t t' : FileTree) : Prop where
  home : t'.home = t.home
  changed : ∀ l, t'.get? l = t.get? l ∨ Below (w.place t.home) l ∨
    t.get? l = none ∧ t'.get? l = some .directory ∧ w.Passes t.home l

namespace Compiler

variable {c : Compiler} {now : Timestamp} {x : SectionIndex} {s : Section} {st st' : ApplyState}
  {d : DnsmasqInstance} {t t' : FileTree} {p : Path} {home l : Location}

/-! ### Names of files -/

/-- The key of an instance is what all its files are named for. -/
theorem fileKey_eq (kind : s.id.kind = .dnsmasq) : s.id.fileKey = "dnsmasq-" ++ s.id.name := by
  rw [SectionId.fileKey, kind]
  rfl

/-- An ending behind an inward key makes an inward path to a name. -/
theorem inward_append {key ending : String} (h : Path.IsInward key)
    (slashless : '/' ∉ ending.toList) (long : 2 < ending.toList.length) :
    Path.IsInward (key ++ ending) ∧ Path.isIdle (Path.lastSegment (key ++ ending)) = false ∧
      Path.lastSegment (key ++ ending) ≠ ['.', '.'] := by
  refine ⟨h.of_siblings (Path.siblings_append key slashless), ?_⟩
  refine Path.named_of_suffix ?_ long
  rw [Path.lastSegment_append key ending slashless]
  exact List.suffix_append _ _

/-- Records are kept in a directory in the write directory. -/
theorem place_recordDir (settings : Settings) (home : Location) :
    settings.recordDir.place home = settings.writeDir.place home ++ ["state"] := by
  have last : (settings.recordDir).lastSegment = "state".toList :=
    Path.lastSegment_join _ (by decide)
  rw [Path.place_eq (by rw [last]; rfl) (by rw [last]; decide), last, String.ofList_toList,
    Settings.recordDir, Path.folder_join rfl]
  rfl

/-- The folders of all that an apply writes are the write directory or lie below it. -/
theorem prefix_folder (kind : s.id.kind = .dnsmasq) (inward : Path.IsInward s.id.fileKey)
    (hp : p ∈ c.settings.store.pathOf s.id :: c.besidesRecord s) (home : Location) :
    c.settings.writeDir.place home <+: p.folder home := by
  -- The two files that are written, each in its folder; a draft is beside the file it becomes.
  have config : c.settings.writeDir.place home <+: (c.configOf s).folder home := by
    have name := (inward_append inward (show '/' ∉ ".conf".toList by decide) (by decide)).1
    rw [fileKey_eq kind] at name
    exact name.prefix_folder _ home
  have record : c.settings.writeDir.place home <+: (c.settings.store.pathOf s.id).folder home := by
    have name := (inward_append inward (show '/' ∉ ".json".toList by decide) (by decide)).1
    have below := name.prefix_folder c.settings.recordDir home
    rw [place_recordDir] at below
    exact (List.prefix_append _ _).trans below
  simp only [besidesRecord, List.mem_cons, List.not_mem_nil, or_false] at hp
  rcases hp with rfl | rfl | rfl | rfl
  · exact record
  · exact config
  · rw [draftOf, (Path.siblings_append _ (show '/' ∉ ".pdconf.tmp".toList by decide)).folder_eq]
    exact config
  · rw [RecordStore.draftOf, (Path.siblings_of_withExtension _ (by decide)).folder_eq]
    exact record

/-- **All that an apply writes to is below the write directory**, drafts included. -/
theorem below_of_denotes (kind : s.id.kind = .dnsmasq) (inward : Path.IsInward s.id.fileKey)
    (hp : p ∈ c.settings.store.pathOf s.id :: c.besidesRecord s) (h : t.Denotes p l) :
    Below (c.settings.writeDir.place t.home) l := by
  obtain ⟨n, rfl⟩ := h.eq_folder
  exact Location.below_append_singleton (prefix_folder kind inward hp t.home) n

/-! ### New directories -/

/-- Placing an instance makes directories for its three files only. -/
theorem within_place (paths : InstancePaths) (text : String) :
    Within (MakesOnly [paths.lease, paths.pid, paths.config]) (place paths text) := by
  refine Change.within_bind (R := MakesOnly [paths.lease, paths.pid, paths.config]) MakesOnly.trans
    (Change.within_ensureParent (by simp)) fun _ =>
      Change.within_bind (R := MakesOnly [paths.lease, paths.pid, paths.config]) MakesOnly.trans
        (Change.within_ensureParent (by simp)) fun _ => Change.within_replace (by simp) text

/-- The paths that an apply makes directories for. -/
def directoriesFor (c : Compiler) (s : Section) (d : DnsmasqInstance) : List Path :=
  [(c.paths s d).lease, (c.paths s d).pid, (c.paths s d).config, c.settings.recordDir]

/-- An apply makes no directories but those for its files. -/
theorem makesOnly_apply (hd : s.asDnsmasq = some d) :
    ApplyStep.Within (fun st st' => MakesOnly (c.directoriesFor s d) st.files st'.files)
      (c.apply now x s) := by
  have placed {t t' : FileTree}
      (made : MakesOnly [(c.paths s d).lease, (c.paths s d).pid, (c.paths s d).config] t t') :
      MakesOnly (c.directoriesFor s d) t t' :=
    made.of_subset (by simp [directoriesFor])
  have kept {t t' : FileTree} (made : MakesOnly [c.settings.store.directory] t t') :
      MakesOnly (c.directoriesFor s d) t t' :=
    made.of_subset (by simp [directoriesFor, Settings.store])
  refine ⟨fun h => ?_, fun h => ?_⟩
  · obtain ⟨d', text, t₁, hd', -, hp, hr, -⟩ := apply_ok h
    -- The instance that was placed is the one that the section declares.
    have same : d = d' := Option.some.inj (hd.symm.trans (instanceOf_eq_ok.1 hd'))
    subst same
    exact (placed ((within_place _ _).ok hp)).trans
      (kept ((RecordStore.within_save _ _ _ _).ok hr))
  · rcases apply_error h with ⟨rfl, -⟩ | ⟨d', text, fault, hd', -, -, -, steps⟩
    · exact MakesOnly.refl _ _
    have same : d = d' := Option.some.inj (hd.symm.trans (instanceOf_eq_ok.1 hd'))
    subst same
    -- An apply fails while the files are placed or, these being there, while the record is kept.
    rcases steps with hp | ⟨t₁, hp, hr⟩
    · exact placed ((within_place _ _).error hp)
    · exact (placed ((within_place _ _).ok hp)).trans
        (kept ((RecordStore.within_save _ _ _ _).error hr))

/-- The way to all that an apply makes directories for goes to the write directory, and from there
on below it. -/
theorem passes_directoriesFor (kind : s.id.kind = .dnsmasq) (lease : d.leasefile = none)
    (inward : Path.IsInward s.id.fileKey) (hp : p ∈ c.directoriesFor s d) (h : p.Passes home l) :
    c.settings.writeDir.Passes home l ∨ Below (c.settings.writeDir.place home) l := by
  have named {ending : String} (slashless : '/' ∉ ending.toList) (long : 2 < ending.toList.length)
      (h : (c.settings.path ("dnsmasq-" ++ s.id.name ++ ending)).Passes home l) :
      c.settings.writeDir.Passes home l ∨ Below (c.settings.writeDir.place home) l := by
    obtain ⟨inward, active, not_up⟩ := inward_append inward slashless long
    rw [fileKey_eq kind] at inward active not_up
    exact Path.passes_join inward active not_up h
  simp only [directoriesFor, List.mem_cons, List.not_mem_nil, or_false] at hp
  rcases hp with rfl | rfl | rfl | rfl
  · -- Without a lease file of its own, the instance has a name for it below the write directory.
    rw [paths, lease] at h
    exact named (show '/' ∉ ".leases".toList by decide) (by decide) h
  · exact named (show '/' ∉ ".pid".toList by decide) (by decide) h
  · exact named (show '/' ∉ ".conf".toList by decide) (by decide) h
  · exact Path.passes_join (Path.isInward_of_slashless (by decide)) (by decide) (by decide) h

/-! ### Applies -/

/-- A change is contained in a directory if all that it touches is below it, and what it makes
directories for lies below it or leads there. -/
theorem containedIn_of_changesOnly {w : Path} {ps qs : List Path} (changed : ChangesOnly ps t t')
    (made : MakesOnly qs t t') (touched : ∀ p ∈ ps, ∀ l, t'.Denotes p l →
      Below (w.place t'.home) l)
    (passed : ∀ q ∈ qs, ∀ l, q.Passes t.home l →
      w.Passes t.home l ∨ Below (w.place t.home) l) : FileTree.ContainedIn w t t' := by
  refine ⟨changed.home, fun l => ?_⟩
  -- A place that a touched path leads to is below; any other is as it was or a new directory.
  by_cases denoted : ∃ p ∈ ps, t'.Denotes p l
  · obtain ⟨p, hp, hl⟩ := denoted
    have below := touched p hp l hl
    rw [changed.home] at below
    exact .inr (.inl below)
  · have untouched : ∀ p ∈ ps, ¬ t'.Denotes p l := fun p hp hl => denoted ⟨p, hp, hl⟩
    rcases changed.other untouched with same | ⟨free, new⟩
    · exact .inl same
    rcases made.directory new with old | ⟨q, hq, passes⟩
    · rw [free] at old
      cases old
    · rcases passed q hq l passes with leads | below
      · exact .inr (.inr ⟨free, new, leads⟩)
      · exact .inr (.inl below)

/-- **Applies stay below the write directory**, whatever comes of them, if the instance names no
lease file of its own and its name does not go up further than it has gone down. All that is written
to on the way, drafts included, is below the write directory; and in the end nothing else is
changed, but for the write directory and directories on the way to it, where they have been missing.
-/
theorem apply_contained (c : Compiler) (now : Timestamp) (x : SectionIndex) {s : Section}
    (kind : s.id.kind = .dnsmasq) (lease : ∀ d, s.asDnsmasq = some d → d.leasefile = none)
    (inward : Path.IsInward s.id.fileKey) :
    (∀ p ∈ c.settings.store.pathOf s.id :: c.besidesRecord s, ∀ t l, FileTree.Denotes t p l →
      Below (c.settings.writeDir.place t.home) l) ∧
    ApplyStep.Within
      (fun st st' => FileTree.ContainedIn c.settings.writeDir st.files st'.files)
      (c.apply now x s) := by
  refine ⟨fun p hp t l hl => below_of_denotes kind inward hp hl, ?_⟩
  have contained {d : DnsmasqInstance} (hd : s.asDnsmasq = some d) {t t' : FileTree}
      (changed : ChangesOnly (c.settings.store.pathOf s.id :: c.besidesRecord s) t t')
      (made : MakesOnly (c.directoriesFor s d) t t') :
      FileTree.ContainedIn c.settings.writeDir t t' :=
    containedIn_of_changesOnly changed made (fun p hp l hl => below_of_denotes kind inward hp hl)
      fun q hq l passes => passes_directoriesFor kind (lease d hd) inward hq passes
  cases hd : s.asDnsmasq with
  | some d =>
    refine ⟨fun h => ?_, fun h => ?_⟩
    · exact contained hd (changesOnly_apply_ok h) ((makesOnly_apply hd).ok h)
    · exact contained hd ((changesOnly_apply_error h).mono (List.subset_cons_self _ _))
        ((makesOnly_apply hd).error h)
  | none =>
    -- What declares no instance is not applied at all.
    have refused := fun st => apply_of_render_error (render_of_not_dnsmasq hd c x now) st
    refine ⟨fun {st st' _} h => ?_, fun {st st' _} h => ?_⟩
    · rw [refused st] at h
      cases h
    · rw [refused st] at h
      cases h
      exact ⟨rfl, fun l => .inl rfl⟩

/-- The compiler for a write directory. -/
def writingTo (directory : Path) : Compiler :=
  ⟨{ writeDir := directory }, .standard⟩

/-- A write directory in which names may go down one step further, also among the records. -/
def oneStepDown (step : String) : FileTree where
  home := []
  entries := [(["out"], .directory), (["out", "state"], .directory),
    (["out", "state", step], .directory)]

/-- The name goes down and up again, and so does the path of the write directory, through a
directory that has to be made first. -/
theorem apply_contained_oneStepDown : ∃ actions st',
    (writingTo "w/../out").apply .epoch (.ofList []) (.plain "a/../b")
      ⟨oneStepDown "dnsmasq-a", []⟩ = .ok actions st' ∧
    st'.files.get? ["w"] = some .directory ∧
    FileTree.ContainedIn "w/../out" (oneStepDown "dnsmasq-a") st'.files := by
  have lease : ∀ d, (Section.plain "a/../b").asDnsmasq = some d → d.leasefile = none := by
    rintro d ⟨⟩
    rfl
  have contained := (apply_contained (writingTo "w/../out") .epoch (.ofList []) rfl lease
    (by decide)).2
  have made : ((writingTo "w/../out").apply .epoch (.ofList []) (.plain "a/../b")
      ⟨oneStepDown "dnsmasq-a", []⟩).casesOn (motive := fun _ => Bool)
      (fun _ st' => decide (st'.files.get? ["w"] = some .directory)) (fun _ _ => false) = true := by
    decide +kernel
  cases h : (writingTo "w/../out").apply .epoch (.ofList []) (.plain "a/../b")
      ⟨oneStepDown "dnsmasq-a", []⟩ with
  | ok actions st' =>
    rw [h] at made
    exact ⟨actions, st', rfl, of_decide_eq_true made, contained.ok h⟩
  | error e st' =>
    rw [h] at made
    cases made

/-- **Not every name stays below the write directory.** One that goes up further than it has gone
down puts the configuration beside it. -/
theorem apply_not_contained :
    ¬ ∀ (c : Compiler) (now : Timestamp) (x : SectionIndex) (s : Section),
      s.id.kind = .dnsmasq → (∀ d, s.asDnsmasq = some d → d.leasefile = none) →
      ApplyStep.Within
        (fun st st' => FileTree.ContainedIn c.settings.writeDir st.files st'.files)
        (c.apply now x s) := by
  intro always
  have pools : (SectionIndex.ofList []).ofKind .dhcpPool = [] := rfl
  -- From a directory among the records, the name goes up twice, which is once too often.
  obtain ⟨text, ht⟩ :=
    exists_renderInstance_plain (c := writingTo "out") rfl "x/../../evil" pools .epoch
  have applied : ∃ actions st', (writingTo "out").apply .epoch (.ofList [])
      (.plain "x/../../evil") ⟨oneStepDown "dnsmasq-x", []⟩ = .ok actions st' ∧
      st'.files.get? ["evil.conf"] = some (.file (.text text)) :=
    ⟨_, _, apply_of_save_ok rfl ht rfl rfl, rfl⟩
  obtain ⟨actions, st', h, outside⟩ := applied
  have lease : ∀ d, (Section.plain "x/../../evil").asDnsmasq = some d → d.leasefile = none := by
    rintro d ⟨⟩
    rfl
  have contained := (always (writingTo "out") .epoch (.ofList []) (.plain "x/../../evil") rfl
    lease).ok h
  -- The configuration is new, not below the write directory, and no directory.
  rcases contained.changed ["evil.conf"] with same | below | ⟨-, directory, -⟩
  · rw [outside] at same
    cases same
  · exact absurd below.1 (by decide)
  · rw [outside] at directory
    cases directory

end Compiler

end RouterConf
