import Mathlib.Data.Finmap
import RouterConf.Proofs.Files.Directories
import RouterConf.Proofs.Record.Store

/-!
# A store over time

A store of records behaves as a finite map. A call that saves a record inserts it, one that removes
a record erases it, and one that fails does neither; what is loaded is what the map then says, so
that it is the record of the last save, if no remove has come after it.

That takes more than that record paths differ. Two of them may lead to one file, a path may lead to
what has long been there once a directory on its way has been made, and even to such a directory
(`RecordStore.load_not_history`). None of this happens to names without slashes in a directory that
can be reached.

The tree that is looked at for all of this is the one at the end. A path may lead somewhere only by
then, and what it leads to once it leads to ever after.

Main statements: `RecordStore.Separate.holds_run`, `RecordStore.load_history`.
-/

namespace RouterConf

open FileTree (Denotes ChangesOnly Grows)

/-! ### Calls and what they do to a map -/

/-- What a store can be asked to do. -/
inductive StoreCall where
  | save (id : SectionId) (paths : InstancePaths) (now : Timestamp)
  | remove (id : SectionId)
  | load (id : SectionId)

/-- What comes back. -/
inductive StoreAnswer where
  | done
  | failed (fault : FileFault)
  | loaded (outcome : Except RecordError (Option ApplyRecord))

/-- Calls with their answers, in order. -/
abbrev StoreHistory :=
  List (StoreCall × StoreAnswer)

/-- Records by identity. -/
abbrev RecordMap :=
  Finmap fun _ : SectionId => ApplyRecord

namespace StoreCall

/-- The identity that a call is for. -/
def id : StoreCall → SectionId
  | save id _ _ => id
  | remove id => id
  | load id => id

/-- Makes a call. -/
def run (store : RecordStore) (call : StoreCall) (t : FileTree) : StoreAnswer × FileTree :=
  match call with
  | save id paths now =>
    match store.save id paths now t with
    | .ok _ t' => (.done, t')
    | .error fault t' => (.failed fault, t')
  | remove id =>
    match store.remove id t with
    | .ok _ t' => (.done, t')
    | .error fault t' => (.failed fault, t')
  | load id => (.loaded (store.load id t), t)

/-- What a call does to a map, by its answer. -/
def onMap (call : StoreCall) (answer : StoreAnswer) (m : RecordMap) : RecordMap :=
  match call, answer with
  | save id paths now, .done => m.insert id ⟨id, now, paths⟩
  | remove id, .done => m.erase id
  | _, _ => m

/-- A call that is not answered by success changes no map. -/
theorem onMap_of_ne_done {answer : StoreAnswer} (h : answer ≠ .done) (call : StoreCall)
    (m : RecordMap) : call.onMap answer m = m := by
  cases answer with
  | done => exact absurd rfl h
  | failed fault => cases call <;> rfl
  | loaded outcome => cases call <;> rfl

/-- A call changes no entry but its own. -/
theorem lookup_onMap_of_ne {call : StoreCall} {id : SectionId} (h : call.id ≠ id)
    (answer : StoreAnswer) (m : RecordMap) :
    (call.onMap answer m).lookup id = m.lookup id := by
  by_cases done : answer = .done
  · subst done
    cases call with
    | save id' paths now => exact Finmap.lookup_insert_of_ne m (Ne.symm h)
    | remove id' => exact Finmap.lookup_erase_ne (Ne.symm h)
    | load id' => rfl
  · rw [onMap_of_ne_done done]

end StoreCall

namespace StoreHistory

variable {history : StoreHistory} {entry : StoreCall × StoreAnswer} {id : SectionId}
  {r : ApplyRecord}

/-- The map that a history leaves. -/
def records (history : StoreHistory) : RecordMap :=
  history.foldl (fun m entry => entry.1.onMap entry.2 m) ∅

/-- The map is put together call by call. -/
theorem records_append (history : StoreHistory) (entry : StoreCall × StoreAnswer) :
    records (history ++ [entry]) = entry.1.onMap entry.2 (records history) := by
  rw [records, List.foldl_append]
  rfl

/-- A save or a remove of an identity that has succeeded. -/
def Settles (entry : StoreCall × StoreAnswer) (id : SectionId) : Prop :=
  entry = (.remove id, .done) ∨ ∃ paths now, entry = (.save id paths now, .done)

/-- **The record of the last save**, if no remove has come after it. -/
def LastSaved (history : StoreHistory) (id : SectionId) (r : ApplyRecord) : Prop :=
  ∃ before paths now after, history = before ++ (.save id paths now, .done) :: after ∧
    r = ⟨id, now, paths⟩ ∧ ∀ entry ∈ after, ¬ Settles entry id

/-- At the start nothing has been saved. -/
theorem not_lastSaved_nil : ¬ LastSaved [] id r := by
  rintro ⟨before, paths, now, after, split, -⟩
  simp at split

/-- What has been saved last is decided by the last entry, if that settles it, and otherwise by
those before it. -/
theorem lastSaved_append_iff : LastSaved (history ++ [entry]) id r ↔
    (∃ paths now, entry = (.save id paths now, .done) ∧ r = ⟨id, now, paths⟩) ∨
      ¬ Settles entry id ∧ LastSaved history id r := by
  constructor
  · rintro ⟨before, paths, now, after, split, hr, later⟩
    rcases after.eq_nil_or_concat' with rfl | ⟨after, last, rfl⟩
    · have same := (List.append_inj' split rfl).2
      exact .inl ⟨paths, now, List.singleton_inj.1 same, hr⟩
    · rw [← List.cons_append, ← List.append_assoc] at split
      obtain ⟨rest, same⟩ := List.append_inj' split rfl
      rw [← List.singleton_inj.1 same] at later
      refine .inr ⟨later entry (by simp), before, paths, now, after, rest, hr, ?_⟩
      intro entry' he
      exact later entry' (List.mem_append_left _ he)
  · rintro (⟨paths, now, rfl, hr⟩ | ⟨unsettled, before, paths, now, after, rfl, hr, later⟩)
    · exact ⟨history, paths, now, [], rfl, hr, by simp⟩
    · refine ⟨before, paths, now, after ++ [entry], by simp, hr, ?_⟩
      intro entry' he
      rcases List.mem_append.1 he with he | he
      · exact later entry' he
      · rw [List.mem_singleton.1 he]
        exact unsettled

/-- An entry that does not settle an identity leaves it in the map as it is. -/
theorem lookup_onMap_of_not_settles (h : ¬ Settles entry id) (m : RecordMap) :
    (entry.1.onMap entry.2 m).lookup id = m.lookup id := by
  obtain ⟨call, answer⟩ := entry
  by_cases other : call.id = id
  · -- A call for the identity does not settle it only if it has not changed the map at all.
    have undone : call.onMap answer m = m := by
      subst other
      cases call <;> cases answer <;> first
        | rfl
        | exact absurd (.inl rfl) h
        | exact absurd (.inr ⟨_, _, rfl⟩) h
    rw [undone]
  · exact StoreCall.lookup_onMap_of_ne other answer m

/-- **The map holds what has been saved last.** -/
theorem lookup_records_eq_some_iff :
    (records history).lookup id = some r ↔ LastSaved history id r := by
  induction history using List.reverseRecOn with
  | nil =>
    change (∅ : RecordMap).lookup id = some r ↔ _
    rw [Finmap.lookup_empty]
    exact ⟨nofun, fun h => absurd h not_lastSaved_nil⟩
  | append_singleton history entry ih =>
    rw [records_append, lastSaved_append_iff]
    -- An entry that settles the identity decides for itself; any other leaves it to those before.
    by_cases settled : Settles entry id
    · rcases settled with rfl | ⟨paths, now, rfl⟩
      · change ((records history).erase id).lookup id = some r ↔ _
        rw [Finmap.lookup_erase]
        simp [Settles]
      · change ((records history).insert id ⟨id, now, paths⟩).lookup id = some r ↔ _
        rw [Finmap.lookup_insert]
        simp [Settles, eq_comm]
    · rw [lookup_onMap_of_not_settles settled, ih]
      constructor
      · intro h
        exact .inr ⟨settled, h⟩
      · rintro (⟨paths, now, rfl, -⟩ | ⟨-, h⟩)
        · exact absurd (.inr ⟨paths, now, rfl⟩) settled
        · exact h

end StoreHistory

/-! ### What is kept in files -/

namespace RecordStore

variable {store : RecordStore} {ids : Set SectionId} {id id' : SectionId} {t t' u : FileTree}
  {ps : List Path} {l : Location} {r : ApplyRecord} {r? : Option ApplyRecord}
  {paths : InstancePaths} {now : Timestamp} {calls before after : List StoreCall}
  {call : StoreCall} {m : RecordMap}

/-- Makes calls one after the other. -/
def runCalls (store : RecordStore) : List StoreCall → FileTree → StoreHistory × FileTree
  | [], t => ([], t)
  | call :: rest, t =>
    let (answer, t₁) := call.run store t
    let (history, t₂) := store.runCalls rest t₁
    ((call, answer) :: history, t₂)

/-- **Records in places of their own.** No two of the record paths lead to one place, and none of
them leads to a directory. -/
structure Separate (store : RecordStore) (ids : Set SectionId) (u : FileTree) : Prop where
  apart : ∀ id ∈ ids, ∀ id' ∈ ids, id ≠ id' → ∀ l, u.Denotes (store.pathOf id) l →
    ¬ u.Denotes (store.pathOf id') l
  noDirectory : ∀ id ∈ ids, ∀ l, u.Denotes (store.pathOf id) l → u.get? l ≠ some .directory

/-- What is kept for an identity: a record in its file; or nothing, in the place to which its path
leads, be it only in the tree `u` that comes later. -/
def Keeps (store : RecordStore) (u t : FileTree) (id : SectionId) : Option ApplyRecord → Prop
  | some r => t.status (store.pathOf id) = .ok (.file (.text r.text)) ∧ r.appliedAt.isValid = true
  | none => ∀ l, u.Denotes (store.pathOf id) l → t.get? l = none

/-- **What is kept is loaded.** -/
theorem Keeps.load (h : store.Keeps u t id r?) (grows : Grows t u) :
    store.load id t = .ok r? := by
  cases r? with
  | some r => exact load_of_text h.1 (ApplyRecord.ofText?_text h.2)
  | none =>
    -- Nothing is at the place to which the path will lead, so nothing is found at the path now.
    obtain ⟨active, named⟩ := Path.named_of_suffix (suffix_lastSegment_pathOf store id) (by decide)
    exact load_of_missing (FileTree.pathExists_eq_false_of_denotes active named
      fun l hl => h l (grows.denotes hl))

/-- What a file keeps it keeps through a change that does not touch it. -/
theorem Keeps.of_changesOnly (h : store.Keeps u t id r?) (changed : ChangesOnly ps t t')
    (later : Grows t' u)
    (noDirectory : ∀ l, u.Denotes (store.pathOf id) l → u.get? l ≠ some .directory)
    (apart : ∀ p ∈ ps, ∀ l, u.Denotes (store.pathOf id) l → ¬ u.Denotes p l) :
    store.Keeps u t' id r? := by
  cases r? with
  | some r =>
    refine ⟨changed.status_file h.1 ?_, h.2⟩
    intro q hq l hl hl'
    exact apart q hq l (later.denotes hl) (later.denotes hl')
  | none =>
    intro l hl
    -- The place is not touched, and a new directory there would still be there in the end.
    have untouched : ∀ p ∈ ps, ¬ t'.Denotes p l := fun p hp hp' =>
      apart p hp l hl (later.denotes hp')
    rcases changed.other untouched with same | ⟨-, made⟩
    · rw [same, h l hl]
    · exact absurd (later.directory made) (noDirectory l hl)

/-- A save that succeeds leaves the record in its file. -/
theorem keeps_of_save (hn : now.isValid = true) (h : store.save id paths now t = .ok r t') :
    store.Keeps u t' id (some ⟨id, now, paths⟩) := by
  obtain ⟨rfl, saved, -⟩ := save_ok h
  exact ⟨saved, hn⟩

/-- A remove that succeeds leaves nothing, whether or not a record was there. -/
theorem keeps_of_remove (h : store.remove id t = .ok () t') (later : Grows t u)
    (held : store.Keeps u t id r?) : store.Keeps u t' id none := by
  rcases Change.removeIfPresent_ok h with ⟨l, c, hl, -, rfl⟩ | ⟨missing, rfl⟩
  · intro l' hl'
    rw [(later.denotes hl).unique hl', FileTree.get?_erase _ hl'.ne_nil, if_pos rfl]
  · cases r? with
    | none => exact held
    | some r =>
      -- A record that is there would have been found.
      obtain ⟨l, hl, there⟩ := FileTree.status_eq_file_iff.1 held.1
      rw [FileTree.remove_of_file hl there] at missing
      cases missing

/-! ### Histories -/

/-- **The files hold a map**: what is kept for every identity is its entry. -/
structure Holds (store : RecordStore) (ids : Set SectionId) (u t : FileTree) (m : RecordMap) :
    Prop where
  grows : Grows t u
  keeps : ∀ id ∈ ids, store.Keeps u t id (m.lookup id)

/-- A record is loaded as the map has it. -/
theorem Holds.load (h : store.Holds ids u t m) (hid : id ∈ ids) :
    store.load id t = .ok (m.lookup id) :=
  (h.keeps id hid).load h.grows

/-- A call takes no directory away, whatever comes of it. -/
theorem grows_run (store : RecordStore) (call : StoreCall) (t : FileTree) :
    Grows t (call.run store t).2 := by
  cases call with
  | save id paths now =>
    unfold StoreCall.run
    dsimp only
    cases hs : store.save id paths now t with
    | ok r t' => exact ((touches_save _ _ _ _).ok hs).toGrows
    | error fault t' => exact ((touches_save _ _ _ _).error hs).toGrows
  | remove id =>
    unfold StoreCall.run
    dsimp only
    cases hr : store.remove id t with
    | ok _ t' => exact ((touches_remove _ _).ok hr).toGrows
    | error fault t' => exact ((touches_remove _ _).error hr).toGrows
  | load id => exact Grows.refl t

/-- **A call keeps files and map in step**, whether it succeeds or not. -/
theorem Separate.holds_run (sep : store.Separate ids u) (hc : call.id ∈ ids)
    (timely : ∀ id paths now, call = .save id paths now → now.isValid = true)
    (later : Grows (call.run store t).2 u) (h : store.Holds ids u t m) :
    store.Holds ids u (call.run store t).2 (call.onMap (call.run store t).1 m) := by
  refine ⟨later, ?_⟩
  intro id hid
  have held := h.keeps id hid
  cases call with
  | load id' => exact held
  | save id' paths now =>
    unfold StoreCall.run at later ⊢
    dsimp only at later ⊢
    cases hs : store.save id' paths now t with
    | ok r t' =>
      rw [hs] at later
      change store.Keeps u t' id ((m.insert id' ⟨id', now, paths⟩).lookup id)
      by_cases same : id = id'
      · subst same
        rw [Finmap.lookup_insert]
        exact keeps_of_save (timely _ _ _ rfl) hs
      · -- Another record is neither where this one is nor where its draft is.
        rw [Finmap.lookup_insert_of_ne m same]
        refine held.of_changesOnly ((touches_save _ _ _ _).ok hs) later (sep.noDirectory id hid) ?_
        intro p hp l hl hl'
        simp only [List.mem_cons, List.not_mem_nil, or_false] at hp
        rcases hp with rfl | rfl
        · exact sep.apart id hid id' hc same l hl hl'
        · exact draftOf_apart hl' hl
    | error fault t' =>
      rw [hs] at later
      change store.Keeps u t' id (m.lookup id)
      refine held.of_changesOnly (save_error hs) later (sep.noDirectory id hid) ?_
      intro p hp l hl hl'
      rw [List.mem_singleton.1 hp] at hl'
      exact draftOf_apart hl' hl
  | remove id' =>
    unfold StoreCall.run at later ⊢
    dsimp only at later ⊢
    cases hr : store.remove id' t with
    | ok _ t' =>
      rw [hr] at later
      change store.Keeps u t' id ((m.erase id').lookup id)
      by_cases same : id = id'
      · subst same
        rw [Finmap.lookup_erase]
        exact keeps_of_remove hr h.grows held
      · rw [Finmap.lookup_erase_ne same]
        refine held.of_changesOnly ((touches_remove _ _).ok hr) later (sep.noDirectory id hid) ?_
        intro p hp l hl hl'
        rw [List.mem_singleton.1 hp] at hl'
        exact sep.apart id hid id' hc same l hl hl'
    | error fault t' =>
      change store.Keeps u t' id (m.lookup id)
      rw [Change.removeIfPresent_error hr]
      exact held

/-- Calls are made in two parts as they are made in one. -/
theorem runCalls_append (store : RecordStore) (before after : List StoreCall) (t : FileTree) :
    store.runCalls (before ++ after) t =
      ((store.runCalls before t).1 ++ (store.runCalls after (store.runCalls before t).2).1,
        (store.runCalls after (store.runCalls before t).2).2) := by
  induction before generalizing t with
  | nil => rfl
  | cons call rest ih =>
    simp only [List.cons_append, runCalls, ih]

/-- Nor do calls one after the other. -/
theorem grows_runCalls (store : RecordStore) (calls : List StoreCall) (t : FileTree) :
    Grows t (store.runCalls calls t).2 := by
  induction calls generalizing t with
  | nil => exact Grows.refl t
  | cons call rest ih => exact (store.grows_run call t).trans (ih _)

/-- **Calls keep files and map in step**, one after the other. -/
theorem Separate.holds_runCalls (sep : store.Separate ids u) (among : ∀ call ∈ calls, call.id ∈ ids)
    (timely : ∀ id paths now, StoreCall.save id paths now ∈ calls → now.isValid = true)
    (later : Grows (store.runCalls calls t).2 u)
    (free : ∀ id ∈ ids, ∀ l, u.Denotes (store.pathOf id) l → t.get? l = none) :
    store.Holds ids u (store.runCalls calls t).2
      (StoreHistory.records (store.runCalls calls t).1) := by
  -- By induction from the end, as the map is put together.
  induction calls using List.reverseRecOn with
  | nil =>
    refine ⟨later, fun id hid => ?_⟩
    change store.Keeps u t id ((∅ : RecordMap).lookup id)
    rw [Finmap.lookup_empty]
    exact free id hid
  | append_singleton calls call ih =>
    rw [runCalls_append] at later ⊢
    have last := later
    have earlier := ih (fun call hc => among call (List.mem_append_left _ hc))
      (fun id paths now hc => timely id paths now (List.mem_append_left _ hc))
      ((store.grows_run call _).trans later)
    change store.Holds ids u (call.run store (store.runCalls calls t).2).2
      (StoreHistory.records ((store.runCalls calls t).1 ++
        [(call, (call.run store (store.runCalls calls t).2).1)]))
    rw [StoreHistory.records_append]
    refine sep.holds_run (among call (by simp)) ?_ last earlier
    rintro id paths now rfl
    exact timely id paths now (by simp)

/-- **A store is a finite map.** Calls are made one after the other, of which any may fail, for
identities whose record paths lead to places of their own in the end, where nothing has been at the
start. At any time each of these identities is then loaded as its entry in the map that the answers
so far leave: the record of its last save, or none if there is none or if a remove has come later.
And no call that fails changes what is loaded of any of them, nor does a call for one of them change
what is loaded of another. -/
theorem load_history (store : RecordStore) {ids : Set SectionId} {calls : List StoreCall}
    {t : FileTree} (among : ∀ call ∈ calls, call.id ∈ ids)
    (timely : ∀ id paths now, StoreCall.save id paths now ∈ calls → now.isValid = true)
    (separate : store.Separate ids (store.runCalls calls t).2)
    (free : ∀ id ∈ ids, ∀ l, (store.runCalls calls t).2.Denotes (store.pathOf id) l →
      t.get? l = none) :
    (∀ before after, calls = before ++ after → ∀ id ∈ ids, ∃ r?,
      store.load id (store.runCalls before t).2 = .ok r? ∧
      r? = (StoreHistory.records (store.runCalls before t).1).lookup id ∧
      ∀ r, r? = some r ↔ StoreHistory.LastSaved (store.runCalls before t).1 id r) ∧
    ∀ before call after, calls = before ++ call :: after → ∀ id ∈ ids,
      ((∃ fault, (call.run store (store.runCalls before t).2).1 = .failed fault) ∨ call.id ≠ id) →
        store.load id (call.run store (store.runCalls before t).2).2 =
          store.load id (store.runCalls before t).2 := by
  -- The map is right at the end of every initial part.
  have held : ∀ before after, calls = before ++ after →
      store.Holds ids (store.runCalls calls t).2 (store.runCalls before t).2
        (StoreHistory.records (store.runCalls before t).1) := by
    intro before after split
    have later : Grows (store.runCalls before t).2 (store.runCalls calls t).2 := by
      rw [split, runCalls_append]
      exact store.grows_runCalls after _
    refine separate.holds_runCalls (fun call hc => among call ?_)
      (fun id paths now hc => timely id paths now ?_) later free
    · rw [split]
      exact List.mem_append_left _ hc
    · rw [split]
      exact List.mem_append_left _ hc
  constructor
  · intro before after split id hid
    exact ⟨_, (held before after split).load hid, rfl,
      fun r => StoreHistory.lookup_records_eq_some_iff⟩
  · intro before call after split id hid unsettled
    have next := held (before ++ [call]) after (by rw [split]; simp)
    rw [runCalls_append] at next
    have loaded := next.load hid
    change store.load id (call.run store (store.runCalls before t).2).2 =
      .ok ((StoreHistory.records (_ ++ [(call, _)])).lookup id) at loaded
    rw [loaded, (held before _ split).load hid, StoreHistory.records_append]
    congr 1
    -- A call that fails changes no map, and one for another identity changes another entry.
    rcases unsettled with ⟨fault, failed⟩ | other
    · refine congrArg _ (StoreCall.onMap_of_ne_done ?_ call _)
      intro done
      cases failed.symm.trans done
    · exact StoreCall.lookup_onMap_of_ne other _ _

/-! ### Particular histories -/

/-- The record that is saved below for an identity. -/
def sampleOf (id : SectionId) : ApplyRecord :=
  ⟨id, .epoch, ⟨"é.conf", "\t", "\""⟩⟩

/-- The call that saves it. -/
def saveSample (id : SectionId) : StoreCall :=
  .save id (sampleOf id).paths (sampleOf id).appliedAt

/-- Of two records one is removed again, and a third one cannot be saved for its name. -/
def sampleCalls : List StoreCall :=
  [saveSample ⟨.dnsmasq, "m"⟩, saveSample ⟨.interface, "n"⟩, .remove ⟨.interface, "n"⟩,
    saveSample ⟨.dnsmasq, "\x00"⟩]

/-- The record that is left is loaded, and the one that has been removed is not. -/
theorem load_history_sampleCalls :
    RecordStore.load ⟨"state"⟩ ⟨.dnsmasq, "m"⟩
        (RecordStore.runCalls ⟨"state"⟩ sampleCalls { home := [], entries := [] }).2 =
      .ok (some (sampleOf ⟨.dnsmasq, "m"⟩)) ∧
    RecordStore.load ⟨"state"⟩ ⟨.interface, "n"⟩
        (RecordStore.runCalls ⟨"state"⟩ sampleCalls { home := [], entries := [] }).2 =
      .ok none := by
  have among : ∀ call ∈ sampleCalls, call.id ∈ {id | id ∈ sampleCalls.map StoreCall.id} := by
    intro call hc
    exact List.mem_map_of_mem hc
  have timely : ∀ id paths now, StoreCall.save id paths now ∈ sampleCalls →
      now.isValid = true := by
    intro id paths now hc
    simp only [sampleCalls, saveSample, List.mem_cons, StoreCall.save.injEq, List.not_mem_nil,
      or_false, reduceCtorEq, false_or] at hc
    rcases hc with ⟨-, -, rfl⟩ | ⟨-, -, rfl⟩ | ⟨-, -, rfl⟩ <;>
      exact (by decide : Timestamp.epoch.isValid = true)
  have separate : RecordStore.Separate ⟨"state"⟩ {id | id ∈ sampleCalls.map StoreCall.id}
      (RecordStore.runCalls ⟨"state"⟩ sampleCalls { home := [], entries := [] }).2 := by
    have slashless : ∀ id ∈ sampleCalls.map StoreCall.id, '/' ∉ id.name.toList := by decide
    refine ⟨?_, ?_⟩
    · intro id hid id' hid' hne l hl
      exact pathOf_apart (slashless id hid) (slashless id' hid') hne hl
    · intro id hid l hl there
      simp only [sampleCalls, saveSample, List.map_cons, List.map_nil, StoreCall.id,
        Set.mem_ofPred_eq, List.mem_cons, List.not_mem_nil, or_false] at hid
      rcases hid with rfl | rfl | rfl | rfl
      case inr.inr.inr =>
        obtain ⟨d, n, located, -⟩ := hl
        cases located
      all_goals
        have place := hl.unique ⟨["state"], _, rfl, by decide, rfl⟩
        rw [place] at there
        cases there
  have free : ∀ id ∈ {id | id ∈ sampleCalls.map StoreCall.id}, ∀ l,
      (RecordStore.runCalls ⟨"state"⟩ sampleCalls { home := [], entries := [] }).2.Denotes
        (RecordStore.pathOf ⟨"state"⟩ id) l →
      FileTree.get? { home := [], entries := [] } l = none := by
    intro id hid l hl
    exact if_neg hl.ne_nil
  obtain ⟨always, -⟩ := load_history ⟨"state"⟩ among timely separate free
  -- The third save fails, since no path has a null character in it.
  have history : (RecordStore.runCalls ⟨"state"⟩ sampleCalls { home := [], entries := [] }).1 =
      [(saveSample ⟨.dnsmasq, "m"⟩, .done), (saveSample ⟨.interface, "n"⟩, .done),
        (.remove ⟨.interface, "n"⟩, .done),
        (saveSample ⟨.dnsmasq, "\x00"⟩,
          .failed ⟨"state/dnsmasq-\x00.json.tmp", .nullInPath⟩)] := rfl
  have done : sampleCalls = sampleCalls ++ [] := (List.append_nil _).symm
  constructor
  · obtain ⟨r?, loaded, entry, -⟩ := always _ _ done ⟨.dnsmasq, "m"⟩ (by decide)
    rw [loaded, entry, history]
    rfl
  · obtain ⟨r?, loaded, entry, -⟩ := always _ _ done ⟨.interface, "n"⟩ (by decide)
    rw [loaded, entry, history]
    rfl

/-- A directory stands among the records that a name may lead through. -/
def directoryAmongRecords : FileTree where
  home := []
  entries := [(["state"], .directory), (["state", "dnsmasq-x"], .directory)]

/-- A file is there already, if not where the path of the store leads as yet. -/
def fileFromBefore : FileTree where
  home := []
  entries := [(["b"], .directory), (["b", "dnsmasq-m.json"], .file (.text ""))]

/-- A name leads through the directory to the record of another. -/
theorem load_directoryAmongRecords :
    RecordStore.load ⟨"state"⟩ ⟨.dnsmasq, "x/../dnsmasq-m"⟩ (RecordStore.runCalls ⟨"state"⟩
      [saveSample ⟨.dnsmasq, "m"⟩] directoryAmongRecords).2 =
        .ok (some (sampleOf ⟨.dnsmasq, "m"⟩)) :=
  load_of_text rfl (ApplyRecord.ofText?_text (by decide))

/-- To save a record makes the directory that the way to an old file goes through. -/
theorem load_fileFromBefore :
    RecordStore.load ⟨"a/../b"⟩ ⟨.dnsmasq, "m"⟩ (RecordStore.runCalls ⟨"a/../b"⟩
      [saveSample ⟨.dnsmasq, "n"⟩] fileFromBefore).2 = .error .malformed := by decide +kernel

/-- To save a record makes the directory that the way to another ends at. -/
theorem load_directoryOnTheWay :
    RecordStore.load ⟨"a.json/dnsmasq-x/.."⟩ ⟨.dnsmasq, "x/../../a"⟩ (RecordStore.runCalls
      ⟨"a.json/dnsmasq-x/.."⟩ [saveSample ⟨.dnsmasq, "n"⟩] { home := [], entries := [] }).2 =
        .error (.io ⟨"a.json/dnsmasq-x/../dnsmasq-x/../../a.json", .isADirectory⟩) := rfl

/-- **Different paths are not enough**, not even if nothing is found at any of them at first. One
file may be that of two records; with files of their own, one may have been there all along; and
with nothing there at first, one may be a directory in the end. -/
theorem load_not_history :
    (¬ ∀ (store : RecordStore) (ids : List SectionId) (calls : List StoreCall) (t : FileTree),
      (∀ call ∈ calls, call.id ∈ ids) →
      (∀ id paths now, StoreCall.save id paths now ∈ calls → now.isValid = true) →
      (∀ id ∈ ids, ∀ id' ∈ ids, id ≠ id' → store.pathOf id ≠ store.pathOf id') →
      (∀ id ∈ ids, t.pathExists (store.pathOf id) = false) →
      ∀ id ∈ ids, store.load id (store.runCalls calls t).2 =
        .ok ((StoreHistory.records (store.runCalls calls t).1).lookup id)) ∧
    (¬ ∀ (store : RecordStore) (ids : List SectionId) (calls : List StoreCall) (t : FileTree),
      (∀ call ∈ calls, call.id ∈ ids) →
      (∀ id paths now, StoreCall.save id paths now ∈ calls → now.isValid = true) →
      (∀ id ∈ ids, ∀ id' ∈ ids, id ≠ id' → ∀ l,
        (store.runCalls calls t).2.Denotes (store.pathOf id) l →
          ¬ (store.runCalls calls t).2.Denotes (store.pathOf id') l) →
      (∀ id ∈ ids, t.pathExists (store.pathOf id) = false) →
      ∀ id ∈ ids, store.load id (store.runCalls calls t).2 =
        .ok ((StoreHistory.records (store.runCalls calls t).1).lookup id)) ∧
    ¬ ∀ (store : RecordStore) (ids : List SectionId) (calls : List StoreCall) (t : FileTree),
      (∀ call ∈ calls, call.id ∈ ids) →
      (∀ id paths now, StoreCall.save id paths now ∈ calls → now.isValid = true) →
      (∀ id ∈ ids, ∀ id' ∈ ids, id ≠ id' → ∀ l,
        (store.runCalls calls t).2.Denotes (store.pathOf id) l →
          ¬ (store.runCalls calls t).2.Denotes (store.pathOf id') l) →
      (∀ id ∈ ids, ∀ l, (store.runCalls calls t).2.Denotes (store.pathOf id) l →
        t.get? l = none) →
      ∀ id ∈ ids, store.load id (store.runCalls calls t).2 =
        .ok ((StoreHistory.records (store.runCalls calls t).1).lookup id) := by
  have timely : ∀ id' id paths now, StoreCall.save id paths now ∈ [saveSample id'] →
      now.isValid = true := by
    intro id' id paths now hc
    obtain ⟨-, -, rfl⟩ := StoreCall.save.inj (List.mem_singleton.1 hc)
    change Timestamp.epoch.isValid = true
    decide
  -- One file for two records, a file from before, and a directory that is made on the way.
  refine ⟨fun always => ?_, fun always => ?_, fun always => ?_⟩
  · have loaded := always ⟨"state"⟩ [⟨.dnsmasq, "m"⟩, ⟨.dnsmasq, "x/../dnsmasq-m"⟩]
      [saveSample ⟨.dnsmasq, "m"⟩] directoryAmongRecords (by decide) (timely _) (by decide)
      (by decide) ⟨.dnsmasq, "x/../dnsmasq-m"⟩ (by decide)
    rw [load_directoryAmongRecords] at loaded
    cases loaded
  · have apart : ∀ id ∈ [SectionId.mk .dnsmasq "m", ⟨.dnsmasq, "n"⟩],
        ∀ id' ∈ [SectionId.mk .dnsmasq "m", ⟨.dnsmasq, "n"⟩], id ≠ id' → ∀ l,
          (RecordStore.runCalls ⟨"a/../b"⟩ [saveSample ⟨.dnsmasq, "n"⟩] fileFromBefore).2.Denotes
            (RecordStore.pathOf ⟨"a/../b"⟩ id) l →
          ¬ (RecordStore.runCalls ⟨"a/../b"⟩ [saveSample ⟨.dnsmasq, "n"⟩]
            fileFromBefore).2.Denotes (RecordStore.pathOf ⟨"a/../b"⟩ id') l := by
      have slashless : ∀ id ∈ [SectionId.mk .dnsmasq "m", ⟨.dnsmasq, "n"⟩],
          '/' ∉ id.name.toList := by decide
      intro id hid id' hid' hne l hl
      exact pathOf_apart (slashless id hid) (slashless id' hid') hne hl
    have loaded := always ⟨"a/../b"⟩ [⟨.dnsmasq, "m"⟩, ⟨.dnsmasq, "n"⟩]
      [saveSample ⟨.dnsmasq, "n"⟩] fileFromBefore (by decide) (timely _) apart (by decide)
      ⟨.dnsmasq, "m"⟩ (by decide)
    rw [load_fileFromBefore] at loaded
    cases loaded
  · have apart : ∀ id ∈ [SectionId.mk .dnsmasq "n", ⟨.dnsmasq, "x/../../a"⟩],
        ∀ id' ∈ [SectionId.mk .dnsmasq "n", ⟨.dnsmasq, "x/../../a"⟩], id ≠ id' → ∀ l,
          (RecordStore.runCalls ⟨"a.json/dnsmasq-x/.."⟩ [saveSample ⟨.dnsmasq, "n"⟩]
            { home := [], entries := [] }).2.Denotes
              (RecordStore.pathOf ⟨"a.json/dnsmasq-x/.."⟩ id) l →
          ¬ (RecordStore.runCalls ⟨"a.json/dnsmasq-x/.."⟩ [saveSample ⟨.dnsmasq, "n"⟩]
            { home := [], entries := [] }).2.Denotes
              (RecordStore.pathOf ⟨"a.json/dnsmasq-x/.."⟩ id') l := by
      have names : ∀ id ∈ [SectionId.mk .dnsmasq "n", ⟨.dnsmasq, "x/../../a"⟩],
          ∀ id' ∈ [SectionId.mk .dnsmasq "n", ⟨.dnsmasq, "x/../../a"⟩], id ≠ id' →
            (RecordStore.pathOf ⟨"a.json/dnsmasq-x/.."⟩ id).lastSegment ≠
              (RecordStore.pathOf ⟨"a.json/dnsmasq-x/.."⟩ id').lastSegment := by decide
      intro id hid id' hid' hne l hl hl'
      have same := hl.getLast?.1.symm.trans hl'.getLast?.1
      rw [Option.some.injEq, String.ofList_inj] at same
      exact names id hid id' hid' hne same
    have loaded := always ⟨"a.json/dnsmasq-x/.."⟩ [⟨.dnsmasq, "n"⟩, ⟨.dnsmasq, "x/../../a"⟩]
      [saveSample ⟨.dnsmasq, "n"⟩] { home := [], entries := [] } (by decide) (timely _) apart
      (fun id hid l hl => if_neg hl.ne_nil) ⟨.dnsmasq, "x/../../a"⟩ (by decide)
    rw [load_directoryOnTheWay] at loaded
    cases loaded

end RecordStore

end RouterConf
