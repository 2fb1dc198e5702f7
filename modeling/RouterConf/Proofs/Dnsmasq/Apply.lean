import RouterConf.Dnsmasq.Compiler
import RouterConf.Proofs.Dnsmasq.Rendering
import RouterConf.Proofs.Record.Store

/-!
# Applying one instance

An apply renders, puts the configuration in place, and then keeps the record. It is read off its
outcome here, once and for all: `Compiler.apply_ok` for an apply that succeeds,
`Compiler.apply_error` for one that fails.

What it may touch is the configuration and the record of its section, and their drafts. These four
end differently, so none of them is ever in the place of another, and the configuration of one
section never in the place of the record of another (`Compiler.record_apart`).

Main statements: `Compiler.apply_ok`, `Compiler.apply_error`, `Compiler.changesOnly_apply_ok`,
`Compiler.changesOnly_apply_error`.
-/

namespace RouterConf

open FileTree (Denotes ChangesOnly Grows)
open Change (Touches draftOf)

/-! ### Steps on files -/

namespace ApplyStep

variable {α : Type} {change : Change α} {st st' : ApplyState}

/-- A change of files as a step succeeds when the change does, and leaves memory alone. -/
theorem onFiles_eq_ok {a : α} :
    onFiles change st = .ok a st' ↔
      change st.files = .ok a st'.files ∧ st'.applied = st.applied := by
  obtain ⟨files', applied'⟩ := st'
  unfold onFiles
  cases change st.files with
  | ok b files => simp [eq_comm, and_assoc]
  | error fault files => simp

/-- A change of files as a step fails with the fault of the change, and leaves memory alone. -/
theorem onFiles_eq_error {e : CompileError} :
    onFiles change st = .error e st' ↔
      ∃ fault, change st.files = .error fault st'.files ∧ e = .io fault ∧
        st'.applied = st.applied := by
  obtain ⟨files', applied'⟩ := st'
  unfold onFiles
  cases change st.files with
  | ok b files => simp
  | error fault files =>
    constructor
    · rintro ⟨⟩
      exact ⟨fault, rfl, rfl, rfl⟩
    · rintro ⟨_, h, rfl, rfl⟩
      cases h
      rfl

/-- A chain that starts with a value succeeds if there is one. -/
theorem ofExcept_bind_eq_ok {β : Type} {v : Except CompileError α} {f : α → ApplyStep β} {b : β} :
    (ofExcept v >>= f) st = .ok b st' ↔ ∃ a, v = .ok a ∧ f a st = .ok b st' := by
  rw [run_bind_eq_ok]
  unfold ofExcept
  cases v <;> simp [and_assoc]

/-- A chain that starts with a value fails if there is none, without having changed anything, or
later on. -/
theorem ofExcept_bind_eq_error {β : Type} {v : Except CompileError α} {f : α → ApplyStep β}
    {e : CompileError} : (ofExcept v >>= f) st = .error e st' ↔
      v = .error e ∧ st' = st ∨ ∃ a, v = .ok a ∧ f a st = .error e st' := by
  rw [run_bind_eq_error]
  unfold ofExcept
  cases v <;> simp [and_assoc, eq_comm]

/-- **A step within a relation.** The state after it is related to the state before it, whether it
succeeds or not. -/
structure Within (P : ApplyState → ApplyState → Prop) {α : Type} (m : ApplyStep α) : Prop where
  ok : ∀ {st st' : ApplyState} {a : α}, m st = .ok a st' → P st st'
  error : ∀ {st st' : ApplyState} {e : CompileError}, m st = .error e st' → P st st'

namespace Within

variable {P : ApplyState → ApplyState → Prop} {β : Type}

/-- What changes nothing stays within every reflexive relation. -/
theorem pure (refl : ∀ st, P st st) (a : α) : Within P (pure a : ApplyStep α) := by
  refine ⟨?_, ?_⟩
  · rintro st st' b ⟨⟩
    exact refl st
  · rintro st st' e ⟨⟩

/-- **A chain stays within a transitive relation** if its steps do, wherever it ends. -/
theorem bind (trans : ∀ {st st₁ st'}, P st st₁ → P st₁ st' → P st st') {m : ApplyStep α}
    {f : α → ApplyStep β} (hm : Within P m) (hf : ∀ a, Within P (f a)) : Within P (m >>= f) := by
  refine ⟨fun h => ?_, fun h => ?_⟩
  · obtain ⟨a, st₁, h₁, h₂⟩ := run_bind_eq_ok.1 h
    exact trans (hm.ok h₁) ((hf a).ok h₂)
  · -- The chain ends at its first step, or it is the rest of it that fails.
    rcases run_bind_eq_error.1 h with h₁ | ⟨a, st₁, h₁, h₂⟩
    · exact hm.error h₁
    · exact trans (hm.ok h₁) ((hf a).error h₂)

end Within

end ApplyStep

namespace Compiler

variable {c : Compiler} {now : Timestamp} {x : SectionIndex} {s : Section} {st st' : ApplyState}
  {t t' : FileTree} {l : Location} {id : SectionId}

/-! ### Names of configurations -/

/-- Where the configuration of a section goes, whatever its options say. -/
def configOf (c : Compiler) (s : Section) : Path :=
  c.settings.path ("dnsmasq-" ++ s.id.name ++ ".conf")

@[simp] theorem config_paths (c : Compiler) (s : Section) (d : DnsmasqInstance) :
    (c.paths s d).config = c.configOf s := rfl

/-- A configuration ends in `.conf`. -/
theorem suffix_lastSegment_configOf (c : Compiler) (s : Section) :
    ".conf".toList <:+ (c.configOf s).lastSegment :=
  Path.suffix_lastSegment_join _ _ _ (by decide)

/-- A draft ends in `.pdconf.tmp`. -/
theorem suffix_lastSegment_draftOf (p : Path) :
    ".pdconf.tmp".toList <:+ (draftOf p).lastSegment := by
  rw [draftOf, Path.lastSegment_append _ _ (by decide)]
  exact List.suffix_append _ _

/-- A configuration is never where the draft of a record is. -/
theorem configOf_apart (h : t.Denotes (c.configOf s) l) :
    ¬ t'.Denotes (c.settings.store.draftOf id) l := fun h' =>
  h.ne_of_suffix h' (suffix_lastSegment_configOf c s) (RecordStore.suffix_of_denotes_draftOf h')
    (by decide) (by decide) rfl

/-- The draft of a configuration is never where that of a record is. -/
theorem draftOf_apart {p : Path} (h : t.Denotes (draftOf p) l) :
    ¬ t'.Denotes (c.settings.store.draftOf id) l := fun h' =>
  h.ne_of_suffix h' (suffix_lastSegment_draftOf p) (RecordStore.suffix_of_denotes_draftOf h')
    (by decide) (by decide) rfl

/-- The paths that an apply writes to besides its record. -/
def besidesRecord (c : Compiler) (s : Section) : List Path :=
  [c.configOf s, draftOf (c.configOf s), c.settings.store.draftOf s.id]

/-- **Only a record is where a record is.** What else an apply writes is never in its place. -/
theorem record_apart {p : Path} (hp : p ∈ c.besidesRecord s)
    (h : t.Denotes (c.settings.store.pathOf id) l) : ¬ t.Denotes p l := by
  intro h'
  -- A record ends in `.json`, and none of the other paths does.
  have record := RecordStore.suffix_lastSegment_pathOf c.settings.store id
  simp only [besidesRecord, List.mem_cons, List.not_mem_nil, or_false] at hp
  rcases hp with rfl | rfl | rfl
  · exact h'.ne_of_suffix h (suffix_lastSegment_configOf c s) record (by decide) (by decide) rfl
  · exact h'.ne_of_suffix h (suffix_lastSegment_draftOf _) record (by decide) (by decide) rfl
  · exact RecordStore.draftOf_apart h' h

/-! ### The steps of an apply -/

/-- A section has an instance just if it declares one. -/
theorem instanceOf_eq_ok {d : DnsmasqInstance} :
    instanceOf s = .ok d ↔ s.asDnsmasq = some d := by
  unfold instanceOf
  cases s.asDnsmasq <;> simp

/-- With a steady renderer, the time does not matter to the text of an instance. -/
theorem renderInstance_steady (hc : c.renderer.Steady) (d : DnsmasqInstance)
    (now now' : Timestamp) : c.renderInstance x s d now = c.renderInstance x s d now' := by
  simp only [renderInstance, hc now now']

/-- With a steady renderer, the time does not matter to the configuration of a section. -/
theorem render_steady (hc : c.renderer.Steady) (now now' : Timestamp) :
    c.render x s now = c.render x s now' := by
  simp only [render, renderInstance_steady hc _ now now']

/-- With the standard renderer, what can be resolved can be rendered. -/
theorem renderInstance_eq_ok_iff (hc : c.renderer = .standard) {d : DnsmasqInstance}
    {text : String} : c.renderInstance x s d now = .ok text ↔
      ∃ payload, DnsmasqContext.resolve x s d (c.paths s d).lease = .ok payload ∧
        text = Text.ofLines payload.lines := by
  unfold renderInstance
  rw [hc]
  -- Rendering itself never fails.
  rcases DnsmasqContext.resolve x s d (c.paths s d).lease with e | payload
  · simp [bind, Except.bind]
  · simp [bind, Except.bind, Renderer.render_standard, Except.mapError, eq_comm]

/-- To put a configuration in place touches that and its draft. -/
theorem touches_place (paths : InstancePaths) (text : String) :
    Touches [paths.config, draftOf paths.config] (place paths text) :=
  .bind (.ensureParent _) fun _ => .bind (.ensureParent _) fun _ => .replace _ _

/-- A configuration that is put in place is there, and its draft is gone. -/
theorem place_ok {paths : InstancePaths} {text : String} (h : place paths text t = .ok () t') :
    t'.status paths.config = .ok (.file (.text text)) ∧
      ∃ l, t'.Denotes (draftOf paths.config) l ∧ t'.get? l = none := by
  obtain ⟨_, t₁, -, h⟩ := run_bind_eq_ok.1 h
  obtain ⟨_, t₂, -, h⟩ := run_bind_eq_ok.1 h
  exact Change.replace_ok h

/-- A configuration that is not put in place leaves every file, except for a draft of it. -/
theorem place_error {paths : InstancePaths} {text : String} {e : FileFault}
    (h : place paths text t = .error e t') :
    ChangesOnly [draftOf paths.config] t t' ∧
      ∀ {l c}, t'.get? l = some (.file c) → t.get? l = some (.file c) := by
  -- The directories of the lease file and of the pid file are made before anything is written.
  rcases run_bind_eq_error.1 h with h | ⟨_, t₁, h₁, h⟩
  · have lease : ChangesOnly [] t t' := (Touches.ensureParent _).error h
    exact ⟨lease.mono (by simp), (lease.get?_file (by simp)).1⟩
  have lease : ChangesOnly [] t t₁ := (Touches.ensureParent _).ok h₁
  rcases run_bind_eq_error.1 h with h | ⟨_, t₂, h₂, h⟩
  · have pid : ChangesOnly [] t₁ t' := (Touches.ensureParent _).error h
    exact ⟨(lease.trans pid).mono (by simp), ((lease.trans pid).get?_file (by simp)).1⟩
  have pid : ChangesOnly [] t₁ t₂ := (Touches.ensureParent _).ok h₂
  obtain ⟨config, kept⟩ := Change.replace_error h
  exact ⟨((lease.trans pid).mono (by simp)).trans config,
    fun hc => ((lease.trans pid).get?_file (by simp)).1 (kept hc)⟩

/-- A configuration that has been put in place stays there while a record is kept or not, and its
draft stays away. -/
theorem config_of_changesOnly {d : DnsmasqInstance} {text : String} {t₁ : FileTree}
    (hp : place (c.paths s d) text t = .ok () t₁)
    (h : ChangesOnly [c.settings.store.pathOf id, c.settings.store.draftOf id] t₁ t') :
    t'.status (c.configOf s) = .ok (.file (.text text)) ∧
      ∀ f, t'.status (draftOf (c.configOf s)) ≠ .ok (.file f) := by
  obtain ⟨config, l, hl, free⟩ := place_ok hp
  rw [config_paths] at config hl
  -- Neither the configuration nor its draft is in the place of the record or of its draft.
  have apart : ∀ p ∈ [c.configOf s, draftOf (c.configOf s)],
      ∀ q ∈ [c.settings.store.pathOf id, c.settings.store.draftOf id],
        ∀ l, t'.Denotes p l → ¬ t'.Denotes q l := by
    intro p hp q hq l hl hl'
    simp only [List.mem_cons, List.not_mem_nil, or_false] at hp hq
    rcases hq with rfl | rfl
    · have besides : p ∈ c.besidesRecord s := by
        rcases hp with rfl | rfl <;> simp [besidesRecord]
      exact record_apart besides hl' hl
    · rcases hp with rfl | rfl
      · exact configOf_apart hl hl'
      · exact draftOf_apart hl hl'
  refine ⟨h.status_file config (apart _ (by simp)), ?_⟩
  intro f hf
  obtain ⟨l', hl', hc⟩ := FileTree.status_eq_file_iff.1 hf
  have same : l = l' := (h.denotes hl).unique hl'
  rw [h.get?_file fun q hq => apart _ (by simp) q hq l' hl', ← same, free] at hc
  cases hc

/-- **An apply that succeeds** has rendered a text, put it in place and kept a record. -/
theorem apply_ok {actions : List PlannedAction} (h : c.apply now x s st = .ok actions st') :
    ∃ d text t₁, instanceOf s = .ok d ∧ c.renderInstance x s d now = .ok text ∧
      place (c.paths s d) text st.files = .ok () t₁ ∧
      c.settings.store.save s.id (c.paths s d) now t₁ =
        .ok ⟨s.id, now, c.paths s d⟩ st'.files ∧
      st'.applied = st.applied.insert s.id (c.paths s d) ∧
      actions = [⟨startPriority, s.id, .start (c.startCommand (c.paths s d))⟩] := by
  obtain ⟨d, hd, h⟩ := ApplyStep.ofExcept_bind_eq_ok.1 h
  obtain ⟨text, ht, h⟩ := ApplyStep.ofExcept_bind_eq_ok.1 h
  obtain ⟨_, st₁, h₁, h⟩ := run_bind_eq_ok.1 h
  obtain ⟨r, st₂, h₂, h⟩ := run_bind_eq_ok.1 h
  obtain ⟨hp, ha⟩ := ApplyStep.onFiles_eq_ok.1 h₁
  obtain ⟨hr, ha'⟩ := ApplyStep.onFiles_eq_ok.1 h₂
  -- Past the record nothing can fail.
  obtain ⟨rfl, -, -⟩ := RecordStore.save_ok hr
  cases h
  refine ⟨d, text, st₁.files, hd, ht, hp, hr, ?_, rfl⟩
  change st₂.applied.insert _ _ = _
  rw [ha', ha]

/-- **An apply that fails** has not rendered, not put its text in place, or not kept its record. -/
theorem apply_error {e : CompileError} (h : c.apply now x s st = .error e st') :
    st' = st ∧ c.render x s now = .error e ∨
      ∃ d text fault, instanceOf s = .ok d ∧ c.renderInstance x s d now = .ok text ∧
        e = .io fault ∧ st'.applied = st.applied ∧
        (place (c.paths s d) text st.files = .error fault st'.files ∨
          ∃ t₁, place (c.paths s d) text st.files = .ok () t₁ ∧
            c.settings.store.save s.id (c.paths s d) now t₁ = .error fault st'.files) := by
  -- An error that comes before the first change of a file is one of rendering.
  rcases ApplyStep.ofExcept_bind_eq_error.1 h with ⟨hd, same⟩ | ⟨d, hd, h⟩
  · exact .inl ⟨same, by rw [render, hd]; rfl⟩
  rcases ApplyStep.ofExcept_bind_eq_error.1 h with ⟨ht, same⟩ | ⟨text, ht, h⟩
  · exact .inl ⟨same, by rw [render, hd]; exact ht⟩
  right
  rcases run_bind_eq_error.1 h with h | ⟨_, st₁, h₁, h⟩
  · obtain ⟨fault, hp, he, ha⟩ := ApplyStep.onFiles_eq_error.1 h
    exact ⟨d, text, fault, hd, ht, he, ha, .inl hp⟩
  obtain ⟨hp, ha⟩ := ApplyStep.onFiles_eq_ok.1 h₁
  rcases run_bind_eq_error.1 h with h | ⟨r, st₂, -, h⟩
  · obtain ⟨fault, hr, he, ha'⟩ := ApplyStep.onFiles_eq_error.1 h
    exact ⟨d, text, fault, hd, ht, he, by rw [ha', ha], .inr ⟨st₁.files, hp, hr⟩⟩
  · cases h

/-- An apply that fails records nothing and forgets nothing in memory. -/
theorem applied_of_apply_error {e : CompileError} (h : c.apply now x s st = .error e st') :
    st'.applied = st.applied := by
  rcases apply_error h with ⟨rfl, -⟩ | ⟨d, text, fault, -, -, -, same, -⟩
  · rfl
  · exact same

/-- An apply that succeeds touches its configuration, its record and their drafts. -/
theorem changesOnly_apply_ok {actions : List PlannedAction}
    (h : c.apply now x s st = .ok actions st') :
    ChangesOnly (c.settings.store.pathOf s.id :: c.besidesRecord s) st.files st'.files := by
  obtain ⟨d, text, t₁, -, -, hp, hr, -, -⟩ := apply_ok h
  -- Nothing else is written than what is put in place and what is kept.
  have placed := (touches_place _ _).ok hp
  have kept := (RecordStore.touches_save _ _ _ _).ok hr
  exact (placed.mono (by simp [besidesRecord])).trans (kept.mono (by simp [besidesRecord]))

/-- An apply that fails does not touch its record. -/
theorem changesOnly_apply_error {e : CompileError} (h : c.apply now x s st = .error e st') :
    ChangesOnly (c.besidesRecord s) st.files st'.files := by
  rcases apply_error h with ⟨rfl, -⟩ | ⟨d, text, fault, -, -, -, -, hp | ⟨t₁, hp, hr⟩⟩
  · exact .refl _ _
  · exact (place_error hp).1.mono (by simp [besidesRecord])
  · -- The configuration has been put in place, and the record not been kept.
    have placed := (touches_place _ _).ok hp
    have kept := RecordStore.save_error hr
    exact (placed.mono (by simp [besidesRecord])).trans (kept.mono (by simp [besidesRecord]))

/-- Every record that was there before an apply that fails is there after it. -/
theorem load_of_apply_error {e : CompileError} (h : c.apply now x s st = .error e st')
    {r : ApplyRecord} (hr : c.settings.store.load id st.files = .ok (some r)) :
    c.settings.store.load id st'.files = .ok (some r) :=
  RecordStore.load_of_changesOnly (changesOnly_apply_error h)
    (fun _ hp _ hl => record_apart hp hl) hr

/-! ### Applies of which the steps are known -/

/-- An apply whose configuration cannot be put in place. -/
theorem apply_of_place_error {d : DnsmasqInstance} {text : String} {fault : FileFault}
    (hd : instanceOf s = .ok d) (ht : c.renderInstance x s d now = .ok text)
    (hp : place (c.paths s d) text st.files = .error fault t) :
    c.apply now x s st = .error (.io fault) ⟨t, st.applied⟩ := by
  refine ApplyStep.ofExcept_bind_eq_error.2 (.inr ⟨d, hd, ?_⟩)
  refine ApplyStep.ofExcept_bind_eq_error.2 (.inr ⟨text, ht, ?_⟩)
  exact run_bind_eq_error.2 (.inl (ApplyStep.onFiles_eq_error.2 ⟨fault, hp, rfl, rfl⟩))

/-- An apply whose record cannot be kept. -/
theorem apply_of_save_error {d : DnsmasqInstance} {text : String} {fault : FileFault}
    (hd : instanceOf s = .ok d) (ht : c.renderInstance x s d now = .ok text)
    (hp : place (c.paths s d) text st.files = .ok () t)
    (hr : c.settings.store.save s.id (c.paths s d) now t = .error fault t') :
    c.apply now x s st = .error (.io fault) ⟨t', st.applied⟩ := by
  refine ApplyStep.ofExcept_bind_eq_error.2 (.inr ⟨d, hd, ?_⟩)
  refine ApplyStep.ofExcept_bind_eq_error.2 (.inr ⟨text, ht, ?_⟩)
  refine run_bind_eq_error.2 (.inr ⟨(), ⟨t, st.applied⟩, ApplyStep.onFiles_eq_ok.2 ⟨hp, rfl⟩, ?_⟩)
  exact run_bind_eq_error.2 (.inl (ApplyStep.onFiles_eq_error.2 ⟨fault, hr, rfl, rfl⟩))

/-- An apply that gets to the end. -/
theorem apply_of_save_ok {d : DnsmasqInstance} {text : String} {r : ApplyRecord}
    (hd : instanceOf s = .ok d) (ht : c.renderInstance x s d now = .ok text)
    (hp : place (c.paths s d) text st.files = .ok () t)
    (hr : c.settings.store.save s.id (c.paths s d) now t = .ok r t') :
    c.apply now x s st = .ok
      [⟨startPriority, s.id, .start (c.startCommand (c.paths s d))⟩]
      ⟨t', st.applied.insert s.id (c.paths s d)⟩ := by
  refine ApplyStep.ofExcept_bind_eq_ok.2 ⟨d, hd, ApplyStep.ofExcept_bind_eq_ok.2 ⟨text, ht, ?_⟩⟩
  refine run_bind_eq_ok.2 ⟨(), ⟨t, st.applied⟩, ApplyStep.onFiles_eq_ok.2 ⟨hp, rfl⟩, ?_⟩
  exact run_bind_eq_ok.2 ⟨r, ⟨t', st.applied⟩, ApplyStep.onFiles_eq_ok.2 ⟨hr, rfl⟩, rfl⟩

end Compiler

/-! ### Instances without options -/

/-- A daemon instance that is declared without options. -/
def DnsmasqInstance.plain : DnsmasqInstance where
  authoritative := true
  cachesize := 150
  dhcpBoot := none
  dhcpleasemax := 1000
  domain := none
  enableTftp := false
  expandhosts := true
  interface := none
  leasefile := none
  noresolv := false
  server := none
  tftpRoot := none

/-- The section of a daemon instance that is declared without options. -/
def Section.plain (name : String) : Section where
  id := ⟨.dnsmasq, name⟩
  source := "router.yaml"
  options := []
  body := .dnsmasq .plain

namespace Compiler

/-- The compiler that keeps its files in the home directory. -/
def atHome : Compiler :=
  ⟨{ writeDir := "" }, .standard⟩

/-- An instance that names no interfaces is rendered where there are no pools: it serves nothing. -/
theorem exists_renderInstance {c : Compiler} (hc : c.renderer = .standard) (s : Section)
    {d : DnsmasqInstance} (hd : d.interface = none) {x : SectionIndex}
    (hx : x.ofKind .dhcpPool = []) (now : Timestamp) :
    ∃ text, c.renderInstance x s d now = .ok text := by
  -- Without pools there is no interface to resolve.
  have resolved : ∃ payload, DnsmasqContext.resolve x s d (c.paths s d).lease = .ok payload := by
    simp only [DnsmasqContext.resolve, effectiveInterfaces, hd, hx]
    exact ⟨_, rfl⟩
  obtain ⟨payload, hp⟩ := resolved
  exact ⟨_, (renderInstance_eq_ok_iff hc).2 ⟨payload, hp, rfl⟩⟩

/-- So is an instance without options. -/
theorem exists_renderInstance_plain {c : Compiler} (hc : c.renderer = .standard) (name : String)
    {x : SectionIndex} (hx : x.ofKind .dhcpPool = []) (now : Timestamp) :
    ∃ text, c.renderInstance x (.plain name) .plain now = .ok text :=
  exists_renderInstance hc _ rfl hx now

/-- So is one that keeps its files in the home directory. -/
theorem exists_renderInstance_atHome (name : String) {x : SectionIndex}
    (hx : x.ofKind .dhcpPool = []) (now : Timestamp) :
    ∃ text, atHome.renderInstance x (.plain name) .plain now = .ok text :=
  exists_renderInstance_plain rfl name hx now

end Compiler

end RouterConf
