import RouterConf.Proofs.Dnsmasq.Isolation
import RouterConf.Proofs.Files.Locality

/-!
# Instances that do not meet

Two instances with different names have files of their own. What they share are directories: the
write directory and the one of the records in it. If the write directory can be made, an apply is a
local change from then on (`Compiler.local_install`), and two applies commute. If it cannot be made,
both applies end there, and all that may depend on the order is what they are told
(`Compiler.InTheWay`): what the first one has made on the way lets the second one fail earlier.

Main statements: `Compiler.locations_disjoint`, `Compiler.local_install`, `Compiler.install_comm`,
`Compiler.apply_comm`, `Compiler.apply_not_comm`.
-/

namespace RouterConf

open FileTree (Grows)
open Change (Local LeadsTo Persists WithDirectory ensureParent)

/-! ### Keeping a record -/

namespace RecordStore

variable {store : RecordStore} {id : SectionId} {own : List Location} {d : Location} {n : String}
  {P : FileTree → Prop}

/-- The key of a name without a slash can be the name of a file. -/
theorem isName_fileKey (h : '/' ∉ id.name.toList) : Path.IsName id.fileKey := by
  -- The type of a kind has no slash either, and is long enough that no key is a dot or two.
  have slashless : '/' ∉ id.kind.type.toList := by cases id.kind <;> decide
  have long : 2 < id.kind.type.length := by cases id.kind <;> decide
  refine .of_length ?_ ?_
  · simp [SectionId.fileKey, String.toList_append, slashless, h]
  · rw [SectionId.fileKey, String.length_append, String.length_append]
    omega

/-- The draft of a record lies beside it, under its name with another ending. -/
theorem siblings_draftOf (store : RecordStore) (h : '/' ∉ id.name.toList) :
    Path.Siblings (store.draftOf id) (store.pathOf id) ∧
      (store.draftOf id).lastSegment = (id.fileKey ++ ".json.tmp").toList := by
  have key := isName_fileKey h
  -- A record ends in one dot and `json`, so that a draft is made by changing what is behind the
  -- dot.
  have last : (store.pathOf id).lastSegment = id.fileKey.toList ++ '.' :: "json".toList := by
    rw [lastSegment_pathOf store h, String.toList_append]
    rfl
  obtain ⟨sibling, ends⟩ := Path.siblings_withExtension last (by decide)
    (fun hn => key.named.1 (String.toList_inj.1 hn))
    (fun hn => key.named.2.1 (String.toList_inj.1 hn))
    (show '/' ∉ "json.tmp".toList by decide)
  refine ⟨sibling, ends.trans ?_⟩
  rw [String.toList_append]
  rfl

/-- **To keep a record** is a local change, but for the directory of the store. -/
theorem local_save (hP : Persists P) (hd : LeadsTo P store.directory d n)
    (size : n.utf8ByteSize ≤ FileTree.maxName) (hid : '/' ∉ id.name.toList)
    (hr : d ++ [n] ++ [id.fileKey ++ ".json"] ∈ own)
    (hr' : d ++ [n] ++ [id.fileKey ++ ".json.tmp"] ∈ own) (hs : d ++ [n] ∉ own)
    (paths : InstancePaths) (now : Timestamp) :
    Local own (d ++ [n]) P (WithDirectory P (d ++ [n])) (store.save id paths now) := by
  have persists : Persists (WithDirectory P (d ++ [n])) := hP.withDirectory _
  have key := isName_fileKey hid
  -- Once the directory of the records is there, the record and its draft are reached through it.
  have record : LeadsTo (WithDirectory P (d ++ [n])) (store.pathOf id) (d ++ [n])
      (id.fileKey ++ ".json") :=
    .join (key.append (by decide)) fun ht =>
      FileTree.reach_of_directory (hd.directory ht.1) hd.isName hd.last size ht.2
  have draft : LeadsTo (WithDirectory P (d ++ [n])) (store.draftOf id) (d ++ [n])
      (id.fileKey ++ ".json.tmp") := by
    obtain ⟨sibling, ends⟩ := siblings_draftOf store hid
    exact record.sibling sibling (key.append (by decide)) ends
  exact .bind (.makeDirectories hP hd hs) fun _ => .bind (.write persists draft hr' hs _) fun _ =>
    .bind (.rename persists draft record hr' hr hs) fun _ => .still fun _ => rfl

end RecordStore

namespace Compiler

variable {c : Compiler} {x : SectionIndex} {s s₁ s₂ : Section} {d d₁ d₂ : DnsmasqInstance}
  {l : Location} {t t₁ : FileTree} {name name' text text₁ text₂ : String}
  {now now₁ now₂ now₃ now₄ : Timestamp} {st : ApplyState}

/-! ### The write directory -/

theorem isName_file (h : '/' ∉ name.toList) {ending : String} (he : '/' ∉ ending.toList) :
    Path.IsName ("dnsmasq-" ++ name ++ ending) := by
  have prefixed : Path.IsName "dnsmasq-" := .of_length (by decide) (by decide)
  exact (prefixed.append h).append he

/-- The path of a file in the write directory ends in its name. -/
theorem path_not_idle (c : Compiler) (h : Path.IsName name) :
    Path.isIdle (Path.lastSegment (c.settings.path name)) = false := by
  rw [Settings.path, Path.lastSegment_join _ h.slashless]
  exact h.not_idle

/-- All files in the write directory have one parent to be made. -/
theorem ensureParent_path (c : Compiler) (h : Path.IsName name) (h' : Path.IsName name') :
    ensureParent (c.settings.path name) = ensureParent (c.settings.path name') :=
  Change.ensureParent_congr (Path.siblings_join h.slashless h'.slashless) (c.path_not_idle h)
    (c.path_not_idle h')

/-- The write directory is at `l`, and need not be made any more. -/
structure Ready (c : Compiler) (l : Location) (t : FileTree) : Prop where
  reach : t.reach c.settings.writeDir = .ok l
  made : ∀ {t'}, Grows t t' → ∀ {name}, Path.IsName name →
    ensureParent (c.settings.path name) t' = .ok () t'

/-- A write directory that is ready stays so, whatever is added. -/
theorem persists_ready (c : Compiler) (l : Location) : Persists (c.Ready l) :=
  fun hg h => ⟨hg.reach h.reach, fun hg' _ hn => h.made (hg.trans hg') hn⟩

/-- The write directory is ready once it has been made for some file in it. -/
theorem exists_ready (hn : Path.IsName name)
    (h : ensureParent (c.settings.path name) t = .ok () t₁) : ∃ l, c.Ready l t₁ := by
  -- All files in the directory ask for the same parent, so what was made for one is made for all.
  obtain ⟨⟨l, hl⟩, made⟩ := Change.ensureParent_ok (c.path_not_idle hn) h
  rw [Settings.path, t₁.directoryOf_join _ hn.slashless] at hl
  refine ⟨l, hl, fun {t'} hg {name'} hn' => ?_⟩
  rw [c.ensureParent_path hn' hn]
  exact made hg

/-! ### The files of an instance -/

/-- Where an apply puts files and drafts, with the write directory at `l`. -/
def locations (l : Location) (id : SectionId) : List Location :=
  [l ++ ["dnsmasq-" ++ id.name ++ ".conf"],
    l ++ ["dnsmasq-" ++ id.name ++ ".conf" ++ ".pdconf.tmp"],
    l ++ ["state"] ++ [id.fileKey ++ ".json"],
    l ++ ["state"] ++ [id.fileKey ++ ".json.tmp"]]

/-- What an apply does to files once its text has been rendered. -/
def install (c : Compiler) (s : Section) (d : DnsmasqInstance) (text : String) (now : Timestamp) :
    Change ApplyRecord := do
  place (c.paths s d) text
  c.settings.store.save s.id (c.paths s d) now

/-- Texts of which neither end is an end of the other are different. -/
theorem append_ne_of_suffix {w w' e e' : String} (h : ¬ e.toList <:+ e'.toList)
    (h' : ¬ e'.toList <:+ e.toList) : w ++ e ≠ w' ++ e' := by
  intro hw
  have ends (w e : String) : e.toList <:+ (w ++ e).toList := by
    rw [String.toList_append]
    exact List.suffix_append _ _
  -- Of two ends of one text, one is an end of the other.
  rcases List.suffix_or_suffix_of_suffix (hw ▸ ends w e) (ends w' e') with hs | hs
  · exact h hs
  · exact h' hs

/-- The directory of the records is none of the files of an instance. -/
theorem state_notMem_locations (l : Location) (id : SectionId) :
    l ++ ["state"] ∉ locations l id := by
  have config (w : String) : "state" ≠ w ++ ".conf" :=
    append_ne_of_suffix (w := "stat") (e := "e") (by decide) (by decide)
  have draft (w : String) : "state" ≠ w ++ ".pdconf.tmp" :=
    append_ne_of_suffix (w := "stat") (e := "e") (by decide) (by decide)
  simp [locations, config, draft]

/-- Instances of different names have no location in common. -/
theorem locations_disjoint {id id' : SectionId} (h : id.name ≠ id'.name) :
    ∀ l' ∈ locations l id, l' ∉ locations l id' := by
  -- Different names make different keys. The endings tell the four files of one instance from those
  -- of the other.
  have keys : id.fileKey ≠ id'.fileKey := fun hk =>
    h (congrArg SectionId.name (SectionId.eq_of_fileKey_eq hk))
  have config (w w' : String) : w ++ ".conf" ≠ w' ++ ".pdconf.tmp" :=
    append_ne_of_suffix (by decide) (by decide)
  have record (w w' : String) : w ++ ".json" ≠ w' ++ ".json.tmp" :=
    append_ne_of_suffix (by decide) (by decide)
  simp [locations, h, keys, config, record, (config _ _).symm, (record _ _).symm]

/-- **To install an instance** is a local change, but for the directory of the records. -/
theorem local_install (hd : d.leasefile = none) (hs : '/' ∉ s.id.name.toList) (text : String)
    (now : Timestamp) :
    Local (locations l s.id) (l ++ ["state"]) (c.Ready l)
      (WithDirectory (c.Ready l) (l ++ ["state"])) (c.install s d text now) := by
  -- With the write directory ready, making parents changes nothing. What is left are the draft, the
  -- configuration, the record and its draft, all of them at locations of the instance.
  have apart := state_notMem_locations l s.id
  have there {name : String} (hn : Path.IsName name) {t : FileTree} (ht : c.Ready l t) :
      ensureParent (c.settings.path name) t = .ok () t :=
    ht.made (Grows.refl t) hn
  have leads {name : String} (hn : Path.IsName name) :
      LeadsTo (c.Ready l) (c.settings.path name) l name :=
    .join hn fun ht => ht.reach
  have config := isName_file hs (show '/' ∉ ".conf".toList by decide)
  have placed : Local (locations l s.id) (l ++ ["state"]) (c.Ready l) (c.Ready l)
      (place (c.paths s d) text) := by
    -- Without a lease file of its own, the instance keeps its leases in the write directory.
    have lease : (c.paths s d).lease = c.settings.path ("dnsmasq-" ++ s.id.name ++ ".leases") := by
      rw [paths, Settings.instancePaths, hd]
      rfl
    rw [place, lease]
    exact .bind (.still (there (isName_file hs (by decide)))) fun _ =>
      .bind (.still (there (isName_file hs (by decide)))) fun _ =>
        .replace (persists_ready c l) (leads config) (there config) (by simp [locations])
          (by simp [locations]) apart text
  have state : Path.IsName "state" := .of_length (by decide) (by decide)
  exact .bind placed fun _ => RecordStore.local_save (persists_ready c l) (leads state) (by decide)
    hs (by simp [locations]) (by simp [locations]) apart _ now

/-- An installation starts by making the write directory. -/
theorem install_eq_bind (c : Compiler) (hd : d.leasefile = none) (hs : '/' ∉ s.id.name.toList)
    (text : String) (now : Timestamp) : ∃ rest : Unit → Change ApplyRecord,
      c.install s d text now = ensureParent (c.configOf s) >>= rest := by
  have lease : ensureParent (c.paths s d).lease = ensureParent (c.configOf s) := by
    rw [paths, Settings.instancePaths, hd]
    exact c.ensureParent_path (isName_file hs (by decide)) (isName_file hs (by decide))
  exact ⟨_, by rw [install, place, lease]; exact bind_assoc _ _ _⟩

/-- **Two outcomes of a step** where a directory at `p` cannot be made: if nobody has tried before,
the step may be told that a file is there already; if another has, that it is no directory. -/
def InTheWay {ε α : Type} (fault : FileFault → ε) (p : Path) (alone later : Except ε α) : Prop :=
  alone = .error (fault ⟨p, .alreadyExists⟩) ∧ later = .error (fault ⟨p, .notADirectory⟩)

/-- **Installations do not meet.** Each has the outcome that it would have alone, and the files in
the end do not depend on the order. Only if the write directory cannot be made, the one that comes
first may be told another cause of that than the one that comes next. -/
theorem install_comm (c : Compiler) (lease₁ : d₁.leasefile = none) (lease₂ : d₂.leasefile = none)
    (plain₁ : '/' ∉ s₁.id.name.toList) (plain₂ : '/' ∉ s₂.id.name.toList)
    (names : s₁.id.name ≠ s₂.id.name) (text₁ text₂ : String) (now₁ now₂ : Timestamp)
    (t : FileTree) :
    (after (c.install s₂ d₂ text₂ now₂) (after (c.install s₁ d₁ text₁ now₁) t)).Corresponds Eq
        (after (c.install s₁ d₁ text₁ now₁) (after (c.install s₂ d₂ text₂ now₂) t)) ∧
      (outcome (c.install s₁ d₁ text₁ now₁) (after (c.install s₂ d₂ text₂ now₂) t) =
          outcome (c.install s₁ d₁ text₁ now₁) t ∧
        outcome (c.install s₂ d₂ text₂ now₂) (after (c.install s₁ d₁ text₁ now₁) t) =
          outcome (c.install s₂ d₂ text₂ now₂) t ∨
      ∃ p, Path.parent? (c.configOf s₁) = some p ∧
        InTheWay id p (outcome (c.install s₁ d₁ text₁ now₁) t)
          (outcome (c.install s₁ d₁ text₁ now₁) (after (c.install s₂ d₂ text₂ now₂) t)) ∧
        InTheWay id p (outcome (c.install s₂ d₂ text₂ now₂) t)
          (outcome (c.install s₂ d₂ text₂ now₂) (after (c.install s₁ d₁ text₁ now₁) t))) := by
  -- Both start by making the same directory, and then each goes its own way.
  have conf₁ := isName_file plain₁ (show '/' ∉ ".conf".toList by decide)
  have conf₂ := isName_file plain₂ (show '/' ∉ ".conf".toList by decide)
  obtain ⟨rest₁, eq₁⟩ := c.install_eq_bind lease₁ plain₁ text₁ now₁
  obtain ⟨rest₂, eq₂⟩ := c.install_eq_bind lease₂ plain₂ text₂ now₂
  rw [show ensureParent (c.configOf s₂) = ensureParent (c.configOf s₁) from
    c.ensureParent_path conf₂ conf₁] at eq₂
  -- Whether the directory is made or there already makes no difference to the rest.
  have alike {t t' : FileTree}
      (h : ensureParent (c.configOf s₁) t = ensureParent (c.configOf s₁) t') :
      c.install s₁ d₁ text₁ now₁ t = c.install s₁ d₁ text₁ now₁ t' ∧
        c.install s₂ d₂ text₂ now₂ t = c.install s₂ d₂ text₂ now₂ t' := by
    rw [eq₁, eq₂]
    exact ⟨bind_congr_state h, bind_congr_state h⟩
  -- If it cannot be made, both installations end with that error.
  have ended {t t' : FileTree} {f : FileFault} (h : ensureParent (c.configOf s₁) t = .error f t') :
      c.install s₁ d₁ text₁ now₁ t = .error f t' ∧ c.install s₂ d₂ text₂ now₂ t = .error f t' := by
    rw [eq₁, eq₂]
    exact ⟨run_bind_eq_error.2 (.inl h), run_bind_eq_error.2 (.inl h)⟩
  cases hw : ensureParent (c.configOf s₁) t with
  | ok _ t₁ =>
    -- Once the directory has been made, both go on as if it had always been there.
    obtain ⟨l, ready⟩ := exists_ready conf₁ hw
    have still : ensureParent (c.configOf s₁) t₁ = .ok () t₁ := ready.made (Grows.refl t₁) conf₁
    obtain ⟨from₁, from₂⟩ := alike (hw.trans still.symm)
    obtain ⟨yields₁, yields₂, files⟩ := (local_install lease₁ plain₁ text₁ now₁).comm
      (persists_ready c l) (local_install lease₂ plain₂ text₂ now₂) (locations_disjoint names)
      (state_notMem_locations l s₁.id) (state_notMem_locations l s₂.id) ready
    simp only [outcome, after, from₁, from₂] at yields₁ yields₂ files ⊢
    exact ⟨files, .inl ⟨yields₁, yields₂⟩⟩
  | error f t₁ =>
    -- Both end there, and there is nothing more to be made for the one that comes next.
    obtain ⟨parent, e, hw', again⟩ := Change.ensureParent_again (c.path_not_idle conf₁) hw
    obtain ⟨first₁, first₂⟩ := ended hw
    obtain ⟨next₁, next₂⟩ := ended hw'
    simp only [outcome, after, first₁, first₂, next₁, next₂]
    refine ⟨.refl (fun _ => rfl) t₁, ?_⟩
    obtain ⟨path, cause⟩ := f
    -- The second try fails for the same cause, or for one that the first try has brought about.
    rcases again with rfl | ⟨rfl, rfl⟩
    · exact .inl ⟨rfl, rfl⟩
    · exact .inr ⟨path, parent, ⟨rfl, rfl⟩, ⟨rfl, rfl⟩⟩

/-! ### Applies -/

/-- **An apply of what can be rendered** is an installation, and is remembered if it succeeds. -/
theorem apply_eq_install (hd : instanceOf s = .ok d) (ht : c.renderInstance x s d now = .ok text)
    (st : ApplyState) : c.apply now x s st =
      match c.install s d text now st.files with
      | .ok _ t =>
        .ok [⟨startPriority, s.id, .start (c.startCommand (c.paths s d))⟩]
          ⟨t, st.applied.insert s.id (c.paths s d)⟩
      | .error fault t => .error (.io fault) ⟨t, st.applied⟩ := by
  -- An installation is what an apply does to files; the cases are where it may fail.
  cases hp : place (c.paths s d) text st.files with
  | error fault t₁ =>
    rw [apply_of_place_error hd ht hp, install, run_bind_eq_error.2 (.inl hp)]
  | ok _ t₁ =>
    cases hr : c.settings.store.save s.id (c.paths s d) now t₁ with
    | error fault t₂ =>
      rw [apply_of_save_error hd ht hp hr, install, run_bind_eq_error.2 (.inr ⟨_, _, hp, hr⟩)]
    | ok r t₂ =>
      rw [apply_of_save_ok hd ht hp hr, install, run_bind_eq_ok.2 ⟨_, _, hp, hr⟩]

/-- What an apply yields, by what its installation yields. -/
def started (c : Compiler) (s : Section) (d : DnsmasqInstance) :
    Except FileFault ApplyRecord → Except CompileError (List PlannedAction)
  | .ok _ => .ok [⟨startPriority, s.id, .start (c.startCommand (c.paths s d))⟩]
  | .error fault => .error (.io fault)

/-- What is remembered after an apply, by what its installation yields. -/
def remembered (c : Compiler) (s : Section) (d : DnsmasqInstance) (a : Applied) :
    Except FileFault ApplyRecord → Applied
  | .ok _ => a.insert s.id (c.paths s d)
  | .error _ => a

/-- What an apply yields is decided by its installation. -/
theorem outcome_apply (hd : instanceOf s = .ok d) (ht : c.renderInstance x s d now = .ok text)
    (st : ApplyState) : outcome (c.apply now x s) st =
      c.started s d (outcome (c.install s d text now) st.files) := by
  unfold outcome
  rw [apply_eq_install hd ht]
  cases c.install s d text now st.files <;> rfl

/-- What an apply leaves is decided by its installation. -/
theorem after_apply (hd : instanceOf s = .ok d) (ht : c.renderInstance x s d now = .ok text)
    (st : ApplyState) : after (c.apply now x s) st =
      ⟨after (c.install s d text now) st.files,
        c.remembered s d st.applied (outcome (c.install s d text now) st.files)⟩ := by
  unfold outcome after
  rw [apply_eq_install hd ht]
  cases c.install s d text now st.files <;> rfl

/-- Instances with different identities are remembered side by side. -/
theorem remembered_comm (h : s₁.id ≠ s₂.id) (a : Applied) (r₁ r₂ : Except FileFault ApplyRecord)
    (id : SectionId) : (c.remembered s₂ d₂ (c.remembered s₁ d₁ a r₁) r₂).get? id =
      (c.remembered s₁ d₁ (c.remembered s₂ d₂ a r₂) r₁).get? id := by
  -- Only where both succeed are there two entries to be told apart.
  rcases r₁ with _ | _ <;> rcases r₂ with _ | _ <;> simp only [remembered]
  rw [Applied.get?_insert, Applied.get?_insert, Applied.get?_insert, Applied.get?_insert]
  split
  · rename_i h₂
    rw [if_neg fun h₁ => h (h₁.symm.trans h₂)]
  · rfl

/-- Applies of two instances in either order, each at the same time in both. The renderer may be
any. -/
theorem apply_comm_at (c : Compiler) (x : SectionIndex) (h₁ : s₁.asDnsmasq = some d₁)
    (h₂ : s₂.asDnsmasq = some d₂)
    (lease₁ : d₁.leasefile = none) (lease₂ : d₂.leasefile = none)
    (plain₁ : '/' ∉ s₁.id.name.toList) (plain₂ : '/' ∉ s₂.id.name.toList)
    (names : s₁.id.name ≠ s₂.id.name) (now₁ now₂ : Timestamp) (st : ApplyState) :
    (∀ id, (after (c.apply now₂ x s₂) (after (c.apply now₁ x s₁) st)).applied.get? id =
      (after (c.apply now₁ x s₁) (after (c.apply now₂ x s₂) st)).applied.get? id) ∧
    (after (c.apply now₂ x s₂) (after (c.apply now₁ x s₁) st)).files.Corresponds Eq
      (after (c.apply now₁ x s₁) (after (c.apply now₂ x s₂) st)).files ∧
    (outcome (c.apply now₁ x s₁) (after (c.apply now₂ x s₂) st) = outcome (c.apply now₁ x s₁) st ∧
        outcome (c.apply now₂ x s₂) (after (c.apply now₁ x s₁) st) =
          outcome (c.apply now₂ x s₂) st ∨
      ∃ p, Path.parent? (c.configOf s₁) = some p ∧
        InTheWay CompileError.io p (outcome (c.apply now₁ x s₁) st)
          (outcome (c.apply now₁ x s₁) (after (c.apply now₂ x s₂) st)) ∧
        InTheWay CompileError.io p (outcome (c.apply now₂ x s₂) st)
          (outcome (c.apply now₂ x s₂) (after (c.apply now₁ x s₁) st))) := by
  rw [← instanceOf_eq_ok] at h₁ h₂
  rcases ht₁ : c.renderInstance x s₁ d₁ now₁ with e | text₁
  · -- What cannot be rendered makes no difference to the other.
    have still : ∀ st, c.apply now₁ x s₁ st = .error e st :=
      apply_of_render_error (by rw [render, h₁]; exact ht₁)
    simp only [outcome, after, still]
    exact ⟨fun _ => trivial, .refl (fun _ => rfl) _, .inl ⟨trivial, trivial⟩⟩
  rcases ht₂ : c.renderInstance x s₂ d₂ now₂ with e | text₂
  · have still : ∀ st, c.apply now₂ x s₂ st = .error e st :=
      apply_of_render_error (by rw [render, h₂]; exact ht₂)
    simp only [outcome, after, still]
    exact ⟨fun _ => trivial, .refl (fun _ => rfl) _, .inl ⟨trivial, trivial⟩⟩
  obtain ⟨files, outcomes⟩ := c.install_comm lease₁ lease₂ plain₁ plain₂ names text₁ text₂ now₁ now₂
    st.files
  simp only [outcome_apply h₁ ht₁, outcome_apply h₂ ht₂, after_apply h₁ ht₁, after_apply h₂ ht₂]
  -- Memory follows from the outcomes: an apply is remembered just if its installation succeeds.
  rcases outcomes with ⟨alike₁, alike₂⟩ | ⟨p, parent, ⟨alone₁, later₁⟩, ⟨alone₂, later₂⟩⟩
  · rw [alike₁, alike₂]
    have ids : s₁.id ≠ s₂.id := fun h => names (congrArg SectionId.name h)
    exact ⟨remembered_comm ids _ _ _, files, .inl ⟨rfl, rfl⟩⟩
  · rw [alone₁, later₁, alone₂, later₂]
    exact ⟨fun _ => rfl, files, .inr ⟨p, parent, ⟨rfl, rfl⟩, ⟨rfl, rfl⟩⟩⟩

/-- **Instances with different names do not interfere**, if the renderer is steady. For two
instances whose names have no slashes and that name no lease file of their own, the order of their
applies makes no difference, at whatever times they are made and at whatever step one of them fails:
each has the outcome that it would have alone, and memory and files end up the same, but for the
times in records.

If the write directory itself cannot be made, both applies fail in either order. Then the one that
comes first may be told that a file is there where a directory has to be, and the one that comes
next that it is no directory. -/
theorem apply_comm (c : Compiler) (steady : c.renderer.Steady) (x : SectionIndex)
    (h₁ : s₁.asDnsmasq = some d₁) (h₂ : s₂.asDnsmasq = some d₂)
    (lease₁ : d₁.leasefile = none) (lease₂ : d₂.leasefile = none)
    (plain₁ : '/' ∉ s₁.id.name.toList) (plain₂ : '/' ∉ s₂.id.name.toList)
    (names : s₁.id.name ≠ s₂.id.name) (valid₁ : now₁.isValid = true) (valid₂ : now₂.isValid = true)
    (valid₃ : now₃.isValid = true) (valid₄ : now₄.isValid = true) (st : ApplyState) :
    (after (c.apply now₂ x s₂) (after (c.apply now₁ x s₁) st)).SameButTimes
      (after (c.apply now₄ x s₁) (after (c.apply now₃ x s₂) st)) ∧
    (outcome (c.apply now₁ x s₁) st = outcome (c.apply now₄ x s₁) (after (c.apply now₃ x s₂) st) ∧
        outcome (c.apply now₂ x s₂) (after (c.apply now₁ x s₁) st) =
          outcome (c.apply now₃ x s₂) st ∨
      ∃ p, Path.parent? (c.configOf s₁) = some p ∧
        InTheWay CompileError.io p (outcome (c.apply now₁ x s₁) st)
          (outcome (c.apply now₄ x s₁) (after (c.apply now₃ x s₂) st)) ∧
        InTheWay CompileError.io p (outcome (c.apply now₃ x s₂) st)
          (outcome (c.apply now₂ x s₂) (after (c.apply now₁ x s₁) st))) := by
  obtain ⟨memory, files, outcomes⟩ :=
    apply_comm_at c x h₁ h₂ lease₁ lease₂ plain₁ plain₂ names now₁ now₂ st
  -- The other order goes the same way at other times.
  have same : st.SameButTimes st := ⟨fun _ => rfl, FileTree.Corresponds.refl (fun _ => .inl rfl) _⟩
  -- First the second section is moved to its other time, then the first section on top of it.
  obtain ⟨first, states⟩ := (parallel_apply_sameButTimes steady x s₂ valid₂ valid₃).outcome_eq same
  obtain ⟨second, ends⟩ := (parallel_apply_sameButTimes steady x s₁ valid₁ valid₄).outcome_eq states
  rw [← first, ← second]
  refine ⟨⟨fun id => (memory id).trans (ends.memory id), files.eq_trans ends.files⟩, ?_⟩
  rcases outcomes with ⟨alike₁, alike₂⟩ | apart
  · exact .inl ⟨alike₁.symm, alike₂⟩
  · exact .inr apart

/-- Two instances are applied at four times in an empty tree. -/
theorem apply_comm_plain :
    let later : Timestamp := { Timestamp.epoch with nanos := 1 }
    (after (atHome.apply later (.ofList []) (.plain "guest"))
        (after (atHome.apply .epoch (.ofList []) (.plain "main"))
          ⟨{ home := [], entries := [] }, []⟩)).SameButTimes
      (after (atHome.apply later (.ofList []) (.plain "main"))
        (after (atHome.apply .epoch (.ofList []) (.plain "guest"))
          ⟨{ home := [], entries := [] }, []⟩)) :=
  (apply_comm atHome Renderer.steady_standard (.ofList []) rfl rfl rfl rfl (by decide) (by decide)
    (by decide) (by decide) (by decide) (by decide) (by decide) _).1

/-- A write directory whose path goes up again and then through a file. -/
def astray : Compiler :=
  ⟨{ writeDir := "a/../f/w" }, .standard⟩

/-- A file stands in the way of the write directory, and the directory that the path starts with has
been made or not. -/
def fileOnTheWay (made : Bool) : FileTree where
  home := []
  entries := (if made then [(["a"], .directory)] else []) ++ [(["f"], .file (.text "x"))]

/-- For the write directory that goes astray, both instances fail, and the first try leaves a
directory behind. -/
theorem apply_astray (name : String) (h : name ∈ ["main", "guest"]) :
    astray.apply .epoch (.ofList []) (.plain name) ⟨fileOnTheWay false, []⟩ =
        .error (.io ⟨"a/../f/w", .alreadyExists⟩) ⟨fileOnTheWay true, []⟩ ∧
      astray.apply .epoch (.ofList []) (.plain name) ⟨fileOnTheWay true, []⟩ =
        .error (.io ⟨"a/../f/w", .notADirectory⟩) ⟨fileOnTheWay true, []⟩ := by
  obtain ⟨text, ht⟩ :=
    exists_renderInstance_plain (c := astray) (x := .ofList []) rfl name rfl .epoch
  simp only [List.mem_cons, List.not_mem_nil, or_false] at h
  rcases h with rfl | rfl
  · exact ⟨apply_of_place_error rfl ht rfl, apply_of_place_error rfl ht rfl⟩
  · exact ⟨apply_of_place_error rfl ht rfl, apply_of_place_error rfl ht rfl⟩

/-- **The order may be told from an error.** Neither of two instances can be applied, and it is the
order that says which of them is told that a file is there. -/
theorem apply_not_comm :
    ¬ ∀ (c : Compiler) (x : SectionIndex) (s₁ s₂ : Section) (d₁ d₂ : DnsmasqInstance)
        (now₁ now₂ now₃ now₄ : Timestamp) (st : ApplyState), c.renderer.Steady →
      s₁.asDnsmasq = some d₁ → s₂.asDnsmasq = some d₂ → d₁.leasefile = none →
      d₂.leasefile = none → '/' ∉ s₁.id.name.toList → '/' ∉ s₂.id.name.toList →
      s₁.id.name ≠ s₂.id.name → now₁.isValid = true → now₂.isValid = true → now₃.isValid = true →
      now₄.isValid = true →
      (after (c.apply now₂ x s₂) (after (c.apply now₁ x s₁) st)).SameButTimes
        (after (c.apply now₄ x s₁) (after (c.apply now₃ x s₂) st)) ∧
      outcome (c.apply now₁ x s₁) st =
        outcome (c.apply now₄ x s₁) (after (c.apply now₃ x s₂) st) ∧
      outcome (c.apply now₂ x s₂) (after (c.apply now₁ x s₁) st) =
        outcome (c.apply now₃ x s₂) st := by
  intro comm
  -- Alone the first instance is told that a file is there, and after the other that it is no
  -- directory.
  have same := (comm astray (.ofList []) (.plain "main") (.plain "guest") .plain .plain .epoch
    .epoch .epoch .epoch ⟨fileOnTheWay false, []⟩ Renderer.steady_standard rfl rfl rfl rfl
    (by decide) (by decide) (by decide) (by decide) (by decide) (by decide) (by decide)).2.1
  obtain ⟨first, next⟩ := apply_astray "main" (by decide)
  obtain ⟨other, -⟩ := apply_astray "guest" (by decide)
  simp only [outcome, after, first, other, next] at same
  cases same

end Compiler

end RouterConf
