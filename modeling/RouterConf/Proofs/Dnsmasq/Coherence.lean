import RouterConf.Dnsmasq.Lifecycle
import RouterConf.Proofs.Dnsmasq.Apply

/-!
# Memory and store

What a process has applied it remembers, and it keeps a record for other processes. The two agree as
long as nobody but compilers writes records and no two identities share the file of a record:

* `Compiler.Coherent`: what is remembered of an identity is what its record says.
* `Compiler.RecordsApart`: records of distinct identities are distinct files.

A failed apply cannot break the agreement, since it neither remembers anything nor touches a record.
A successful one remembers what it has just recorded. Forgetting drops the memory before the record,
so a record that cannot be dropped is all that is left.

Both are kept by every step that a compiler takes, and so by every chain of steps
(`Compiler.KeepsCoherent`).

Main statements: `Compiler.keepsCoherent_apply`, `Compiler.keepsCoherent_forget`,
`Compiler.keepsCoherent_applyEach`, `Compiler.keepsCoherent_forgetOwners`.
-/

namespace RouterConf

open FileTree (Denotes ChangesOnly Grows)
open ApplyStep (Within)

/-! ### The memory -/

namespace Applied

/-- Once erased, an identity is not looked up any more; the others are looked up as before. -/
theorem get?_erase (a : Applied) (id id' : SectionId) :
    (a.erase id).get? id' = if id' = id then none else a.get? id' :=
  FileTree.lookup_filter_ne id id' a

/-- What is inserted is looked up, whatever has been there; the others are looked up as before. -/
theorem get?_insert (a : Applied) (id : SectionId) (paths : InstancePaths) (id' : SectionId) :
    (a.insert id paths).get? id' = if id' = id then some paths else a.get? id' := by
  by_cases h : id' = id
  · rw [if_pos h, h, get?_insert_self]
  · have erased := get?_erase a id id'
    rw [if_neg h] at erased ⊢
    rw [← erased, get?, insert, List.lookup_cons, beq_false_of_ne h]
    rfl

end Applied

namespace Compiler

variable {c : Compiler} {ids : List SectionId} {now : Timestamp} {x : SectionIndex} {s : Section}
  {st st' : ApplyState} {t t' : FileTree} {id : SectionId} {e : CompileError}

/-! ### Forgetting -/

/-- A forget that succeeds drops both the record and what is remembered. -/
theorem forget_ok (h : c.forget id st = .ok () st') :
    c.settings.store.remove id st.files = .ok () st'.files ∧
      st'.applied = st.applied.erase id := by
  obtain ⟨_, st₁, h₁, h⟩ := run_bind_eq_ok.1 h
  cases h₁
  exact ApplyStep.onFiles_eq_ok.1 h

/-- What has been forgotten is gone from memory and from the store. -/
theorem gone_of_forget (h : c.forget id st = .ok () st') :
    st'.applied.get? id = none ∧ c.settings.store.load id st'.files = .ok none := by
  obtain ⟨removed, memory⟩ := forget_ok h
  refine ⟨?_, RecordStore.load_of_remove removed⟩
  rw [memory, Applied.get?_erase, if_pos rfl]

/-- A record that cannot be dropped stays, and so does every file; the memory is gone. -/
theorem forget_error (h : c.forget id st = .error e st') :
    st'.files = st.files ∧ st'.applied = st.applied.erase id := by
  rcases run_bind_eq_error.1 h with h | ⟨_, st₁, h₁, h⟩
  · cases h
  · cases h₁
    -- The memory has been cleared by then, and a record that cannot be removed is left in place.
    obtain ⟨fault, hr, -, ha⟩ := ApplyStep.onFiles_eq_error.1 h
    exact ⟨Change.removeIfPresent_error hr, ha⟩

/-! ### Directories persist -/

/-- An apply keeps every directory, whether it succeeds or not. -/
theorem grows_apply : Within (fun st st' => Grows st.files st'.files) (c.apply now x s) :=
  ⟨fun h => (changesOnly_apply_ok h).toGrows, fun h => (changesOnly_apply_error h).toGrows⟩

/-- So does a forget. -/
theorem grows_forget : Within (fun st st' => Grows st.files st'.files) (c.forget id) := by
  refine ⟨fun h => ((RecordStore.touches_remove _ _).ok (forget_ok h).1).toGrows, fun h => ?_⟩
  rw [(forget_error h).1]
  exact Grows.refl _

/-- So does a chain of applies, each of which may fail. -/
theorem grows_applyEach (c : Compiler) (now : Timestamp) (x : SectionIndex) (ss : List Section)
    (st : ApplyState) : Grows st.files (c.applyEach now x ss st).2.files := by
  induction ss generalizing st with
  | nil => exact Grows.refl _
  | cons s rest ih =>
    unfold applyEach
    split
    · -- Whatever comes of the first apply, the others go on from where it has ended.
      exact (grows_apply.ok ‹_›).trans (ih _)
    · exact (grows_apply.error ‹_›).trans (ih _)

/-- So does forgetting one owner after the other. -/
theorem grows_forgetOwners (c : Compiler) (kept : List SectionId) (actions : List PlannedAction)
    (forgotten : List SectionId) :
    Within (fun st st' => Grows st.files st'.files) (c.forgetOwners kept actions forgotten) := by
  induction actions generalizing forgotten with
  | nil => exact .pure (fun _ => Grows.refl _) forgotten
  | cons a rest ih =>
    unfold forgetOwners
    split
    · exact ih forgotten
    · exact .bind (fun h h' => h.trans h') grows_forget fun _ => ih _

/-! ### Coherence -/

/-- Records of distinct identities are distinct files. -/
def RecordsApart (c : Compiler) (ids : List SectionId) (t : FileTree) : Prop :=
  ∀ id ∈ ids, ∀ id' ∈ ids, id ≠ id' →
    ∀ l, t.Denotes (c.settings.store.pathOf id) l → ¬ t.Denotes (c.settings.store.pathOf id') l

/-- **The memory agrees with the store.** What is remembered is of some identities, and the record
of each names the paths that are remembered. -/
def Coherent (c : Compiler) (ids : List SectionId) (st : ApplyState) : Prop :=
  ∀ id paths, st.applied.get? id = some paths → id ∈ ids ∧
    ∃ r, c.settings.store.load id st.files = .ok (some r) ∧ r.paths = paths

/-- Records that are different files later on have been so before: what a path leads to, it still
leads to when directories are added. -/
theorem RecordsApart.of_grows (h : c.RecordsApart ids t') (hg : Grows t t') :
    c.RecordsApart ids t :=
  fun id hid id' hid' hne l hl hl' => h id hid id' hid' hne l (hg.denotes hl) (hg.denotes hl')

/-- The record of an identity survives a step that touches another record only. -/
theorem RecordsApart.load (apart : c.RecordsApart ids t') (hid : id ∈ ids) {id' : SectionId}
    (hid' : id' ∈ ids) (hne : id' ≠ id) {ps : List Path}
    (hps : ∀ p ∈ ps, ∀ l, t'.Denotes (c.settings.store.pathOf id') l → ¬ t'.Denotes p l)
    (ht : ChangesOnly (c.settings.store.pathOf id :: ps) t t') {r : ApplyRecord}
    (hr : c.settings.store.load id' t = .ok (some r)) :
    c.settings.store.load id' t' = .ok (some r) := by
  refine RecordStore.load_of_changesOnly ht (fun p hp l hl => ?_) hr
  -- What is touched is the record of another identity, or one of the paths given.
  rcases List.mem_cons.1 hp with rfl | hp
  · exact apart id' hid' id hid hne l hl
  · exact hps p hp l hl

/-- A new process remembers nothing, so that there is nothing to disagree about. -/
theorem Coherent.nil (c : Compiler) (ids : List SectionId) (t : FileTree) :
    c.Coherent ids ⟨t, []⟩ := by
  intro id paths h
  cases h

/-- What is remembered survives a step that remembers nothing new and loses no record. -/
theorem Coherent.of_load (h : c.Coherent ids st)
    (memory : ∀ {id paths}, st'.applied.get? id = some paths → st.applied.get? id = some paths)
    (store : ∀ {id r}, c.settings.store.load id st.files = .ok (some r) →
      c.settings.store.load id st'.files = .ok (some r)) : c.Coherent ids st' := by
  intro id paths hp
  obtain ⟨hid, r, hr, rfl⟩ := h id paths (memory hp)
  exact ⟨hid, r, store hr, rfl⟩

/-- **Memory and store stay in agreement** from a state to a later one, if the records are apart in
the end. -/
structure KeepsCoherent (c : Compiler) (ids : List SectionId) (st st' : ApplyState) : Prop where
  grows : Grows st.files st'.files
  coherent : c.Coherent ids st → c.RecordsApart ids st'.files → c.Coherent ids st'

/-- To do nothing keeps the agreement. -/
theorem KeepsCoherent.refl (c : Compiler) (ids : List SectionId) (st : ApplyState) :
    c.KeepsCoherent ids st st :=
  ⟨Grows.refl _, fun h _ => h⟩

/-- Two steps keep the agreement if each does. -/
theorem KeepsCoherent.trans {st₁ : ApplyState} (h : c.KeepsCoherent ids st st₁)
    (h' : c.KeepsCoherent ids st₁ st') : c.KeepsCoherent ids st st' := by
  refine ⟨h.grows.trans h'.grows, fun start apart => ?_⟩
  -- Records that are apart in the end have been apart half-way.
  exact h'.coherent (h.coherent start (apart.of_grows h'.grows)) apart

/-- A failed apply remembers nothing and touches no record; a successful one remembers what it has
recorded. -/
theorem keepsCoherent_apply (hid : s.id ∈ ids) (hn : now.isValid = true) :
    Within (c.KeepsCoherent ids) (c.apply now x s) := by
  refine ⟨fun ha => ⟨grows_apply.ok ha, fun h apart => ?_⟩,
    fun ha => ⟨grows_apply.error ha, fun h _ => ?_⟩⟩
  · -- Its own identity is remembered with what has just been recorded; the record of any other is
    -- another file and was not touched.
    have touched := changesOnly_apply_ok ha
    obtain ⟨d, text, t₁, -, -, -, hr, memory, -⟩ := Compiler.apply_ok ha
    intro id paths hp
    rw [memory, Applied.get?_insert] at hp
    split_ifs at hp with hs
    · cases hp
      rw [hs]
      exact ⟨hid, _, RecordStore.load_of_save hn hr, rfl⟩
    · obtain ⟨hid', r, hr', rfl⟩ := h id paths hp
      exact ⟨hid', r, apart.load hid hid' hs (fun _ hq _ hl => record_apart hq hl) touched hr',
        rfl⟩
  · -- Nothing is remembered anew, and no record is lost.
    have same := applied_of_apply_error ha
    refine h.of_load (fun hp => ?_) (load_of_apply_error ha)
    rwa [same] at hp

/-- Forgetting drops the memory first, so that at most the record is left. -/
theorem keepsCoherent_forget (hid : id ∈ ids) :
    Within (c.KeepsCoherent ids) (c.forget id) := by
  refine ⟨fun hf => ⟨grows_forget.ok hf, fun h apart => ?_⟩,
    fun hf => ⟨grows_forget.error hf, fun h _ => ?_⟩⟩
  · -- What is still remembered is of another identity, whose record is another file.
    obtain ⟨removed, memory⟩ := forget_ok hf
    have touched := (RecordStore.touches_remove _ _).ok removed
    intro id' paths hp
    rw [memory, Applied.get?_erase] at hp
    split_ifs at hp with hs
    obtain ⟨hid', r, hr, rfl⟩ := h id' paths hp
    exact ⟨hid', r, apart.load hid hid' hs (by simp) touched hr, rfl⟩
  · -- The files are as they were, and less is remembered.
    obtain ⟨files, memory⟩ := forget_error hf
    refine h.of_load (fun hp => ?_) fun hr => by rwa [files]
    rw [memory, Applied.get?_erase] at hp
    split_ifs at hp
    exact hp

/-- A chain of applies keeps the agreement, for each of its members does. -/
theorem keepsCoherent_applyEach {ss : List Section} (hids : ∀ s ∈ ss, s.id ∈ ids)
    (hn : now.isValid = true) (st : ApplyState) :
    c.KeepsCoherent ids st (c.applyEach now x ss st).2 := by
  induction ss generalizing st with
  | nil => exact .refl c ids st
  | cons s rest ih =>
    have first := keepsCoherent_apply (c := c) (x := x) (hids s List.mem_cons_self) hn
    have hrest := fun s hs => hids s (List.mem_cons_of_mem _ hs)
    unfold applyEach
    split
    · exact (first.ok ‹_›).trans (ih hrest _)
    · exact (first.error ‹_›).trans (ih hrest _)

/-- So does forgetting one owner after the other. -/
theorem keepsCoherent_forgetOwners {kept forgotten : List SectionId}
    {actions : List PlannedAction} (hids : ∀ a ∈ actions, a.owner ∈ ids) :
    Within (c.KeepsCoherent ids) (c.forgetOwners kept actions forgotten) := by
  induction actions generalizing forgotten with
  | nil => exact .pure (.refl c ids) forgotten
  | cons a rest ih =>
    have first := keepsCoherent_forget (c := c) (hids a List.mem_cons_self)
    have hrest := fun a ha => hids a (List.mem_cons_of_mem _ ha)
    unfold forgetOwners
    split
    · exact ih hrest
    · exact .bind .trans first fun _ => ih hrest

end Compiler

end RouterConf
