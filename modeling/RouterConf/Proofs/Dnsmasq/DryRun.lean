import RouterConf.Proofs.Dnsmasq.Relevance

/-!
# Rendering without applying

To render a section is a dry run of its apply: it reads no file and no memory, and an apply begins
with it. So what rendering says about a section is what any later apply does with it, whatever the
files are by then, if the renderer is steady. A section that cannot be rendered is not applied, for
the same reason; one that can be rendered is applied with the very text, unless an operation on
files fails.

Main statement: `Compiler.apply_agree_render`.
-/

namespace RouterConf

open FileTree (ChangesOnly)
open Change (draftOf)

variable {t : FileTree} {p : Path}

/-- Where the status of a path is never that of a file, there is none. -/
theorem FileTree.isFile_eq_false (h : ∀ f, t.status p ≠ .ok (.file f)) : t.isFile p = false := by
  unfold isFile
  split
  · exact absurd ‹_› (h _)
  · rfl

namespace Compiler

variable {c : Compiler} {now : Timestamp} {x : SectionIndex} {s : Section} {st st' : ApplyState}
  {d : DnsmasqInstance} {text : String}

/-- What can be rendered declares an instance. -/
theorem render_eq_ok_iff :
    c.render x s now = .ok text ↔
      ∃ d, s.asDnsmasq = some d ∧ c.renderInstance x s d now = .ok text := by
  unfold render
  constructor
  · intro h
    -- A text can only come from an instance.
    cases hd : instanceOf s with
    | error e =>
      rw [hd] at h
      cases h
    | ok d =>
      rw [hd] at h
      exact ⟨d, instanceOf_eq_ok.1 hd, h⟩
  · rintro ⟨d, hd, h⟩
    rw [instanceOf_eq_ok.2 hd]
    exact h

/-- Only an operation on files can keep what has been rendered from being applied. -/
theorem io_of_apply_error {e : CompileError} (ht : c.render x s now = .ok text)
    (h : c.apply now x s st = .error e st') : ∃ fault, e = .io fault := by
  rcases apply_error h with ⟨-, unrendered⟩ | ⟨d, text', fault, -, -, he, -⟩
  · -- The apply would have failed before it touched a file, and for a reason of rendering.
    rw [ht] at unrendered
    cases unrendered
  · exact ⟨fault, he⟩

/-- What has been rendered is what is put in place, and no draft is left of it or of its record. -/
theorem placed_of_apply_ok {actions : List PlannedAction} (hd : s.asDnsmasq = some d)
    (ht : c.renderInstance x s d now = .ok text) (h : c.apply now x s st = .ok actions st') :
    st'.files.status (c.paths s d).config = .ok (.file (.text text)) ∧
      actions = [⟨startPriority, s.id, .start (c.startCommand (c.paths s d))⟩] ∧
      st'.files.isFile (draftOf (c.paths s d).config) = false ∧
      st'.files.isFile (c.settings.store.draftOf s.id) = false := by
  obtain ⟨d', text', t₁, hd', ht', hp, hr, -, start⟩ := apply_ok h
  -- The section declares one instance, and for one index that has one text.
  have same : d = d' := Option.some.inj (hd.symm.trans (instanceOf_eq_ok.1 hd'))
  subst same
  have sameText : text = text' := Except.ok.inj (ht.symm.trans ht')
  subst sameText
  have saved := (RecordStore.touches_save _ _ _ _).ok hr
  obtain ⟨config, free⟩ := config_of_changesOnly hp saved
  obtain ⟨-, -, l, hl, gone⟩ := RecordStore.save_ok hr
  refine ⟨config, start, FileTree.isFile_eq_false free, FileTree.isFile_eq_false ?_⟩
  intro f hf
  -- The draft of the record is where it was moved from, and nothing is there any more.
  obtain ⟨l', hl', there⟩ := FileTree.status_eq_file_iff.1 hf
  rw [hl'.unique hl, gone] at there
  cases there

/-- **Rendering and applying agree**, if the renderer is steady. The outcome of rendering depends on
nothing but the compiler, the index and the section; at any time, with any files and any memory, an
apply then does as follows. Where rendering fails, the apply fails for the same reason and leaves
files and memory as they are. Where it yields a text, the apply fails only at an operation on files,
and if it succeeds, the configuration holds just that text, the one action is to start the daemon of
the section, and neither the configuration nor the record has left a draft. -/
theorem apply_agree_render (c : Compiler) (steady : c.renderer.Steady) (x : SectionIndex)
    (s : Section) (asked : Timestamp) :
    (∀ e, c.render x s asked = .error e → ∀ now st, c.apply now x s st = .error e st) ∧
    ∀ text, c.render x s asked = .ok text → ∃ d, s.asDnsmasq = some d ∧ ∀ now st,
      (∀ e st', c.apply now x s st = .error e st' → ∃ fault, e = .io fault) ∧
      ∀ actions st', c.apply now x s st = .ok actions st' →
        st'.files.status (c.paths s d).config = .ok (.file (.text text)) ∧
        actions = [⟨startPriority, s.id, .start (c.startCommand (c.paths s d))⟩] ∧
        st'.files.isFile (draftOf (c.paths s d).config) = false ∧
        st'.files.isFile (c.settings.store.draftOf s.id) = false := by
  constructor
  · intro e he now st
    -- The renderer is steady, so that the apply meets the same error at its own time.
    exact apply_of_render_error ((render_steady steady now asked).trans he) st
  · intro text ht
    obtain ⟨d, hd, rendered⟩ := render_eq_ok_iff.1 ht
    refine ⟨d, hd, fun now st => ⟨?_, ?_⟩⟩
    · intro e st' h
      exact io_of_apply_error ((render_steady steady now asked).trans ht) h
    · intro actions st' h
      exact placed_of_apply_ok hd ((renderInstance_steady steady d now asked).trans rendered) h

/-- A tree in which an earlier process has left drafts of a configuration and of its record. -/
def draftsLeft : FileTree where
  home := []
  entries := [(["dnsmasq-m.conf.pdconf.tmp"], .file (.text "interface=")), (["state"], .directory),
    (["state", "dnsmasq-m.json.tmp"], .file (.text "\x7b"))]

/-- Of two instances one lists an interface that is not there. It fails alike in every state; the
other takes the place of what was left of it. -/
theorem apply_agree_render_draftsLeft :
    let later : Timestamp := { Timestamp.epoch with nanos := 1 }
    (∀ now st, atHome.apply now (.ofList [.plain "m", .listing "n" ["lan"]]) (.listing "n" ["lan"])
      st = .error (.reference (.notFound "network" "interface" "lan")) st) ∧
    ∃ text actions st',
      atHome.render (.ofList [.plain "m", .listing "n" ["lan"]]) (.plain "m") .epoch = .ok text ∧
      atHome.apply later (.ofList [.plain "m", .listing "n" ["lan"]]) (.plain "m")
        ⟨draftsLeft, []⟩ = .ok actions st' ∧
      st'.files.status "dnsmasq-m.conf" = .ok (.file (.text text)) ∧
      st'.files.isFile "dnsmasq-m.conf.pdconf.tmp" = false ∧
      st'.files.isFile "state/dnsmasq-m.json.tmp" = false := by
  intro later
  -- The one instance cannot be rendered, the other can.
  have missing : atHome.render (.ofList [.plain "m", .listing "n" ["lan"]])
      (.listing "n" ["lan"]) .epoch =
        .error (.reference (.notFound "network" "interface" "lan")) := rfl
  refine ⟨(apply_agree_render atHome Renderer.steady_standard _ _ _).1 _ missing, ?_⟩
  have pools : (SectionIndex.ofList [.plain "m", .listing "n" ["lan"]]).ofKind .dhcpPool = [] := rfl
  obtain ⟨text, ht⟩ := exists_renderInstance_atHome "m" pools .epoch
  have rendered := render_eq_ok_iff.2 ⟨.plain, rfl, ht⟩
  have applied : ∃ actions st', atHome.apply later (.ofList [.plain "m", .listing "n" ["lan"]])
      (.plain "m") ⟨draftsLeft, []⟩ = .ok actions st' :=
    ⟨_, _, apply_of_save_ok rfl ht rfl rfl⟩
  obtain ⟨actions, st', h⟩ := applied
  obtain ⟨d, hd, agree⟩ :=
    (apply_agree_render atHome Renderer.steady_standard _ _ _).2 text rendered
  cases hd
  obtain ⟨config, -, draft, record⟩ := (agree later ⟨draftsLeft, []⟩).2 actions st' h
  exact ⟨text, actions, st', rendered, h, config, draft, record⟩

end Compiler

end RouterConf
