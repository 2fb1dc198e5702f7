import RouterConf.Proofs.Dnsmasq.Resolution
import RouterConf.Proofs.Dnsmasq.Session
import RouterConf.Proofs.Dnsmasq.SignalFirst

/-!
# The plan of a teardown

A compiler knows the files of an instance from memory, or else from the file of its record. That
file may not be there, may not be readable, and may hold something that is no record
(`Compiler.Standing`, one rule for each case). Memory comes first, so that a broken record is never
seen while it is remembered what was applied.

A teardown looks twice: whether the instance is applied, and then for its files. Both looks see the
same (`Compiler.LookupsAgree`). So what is not applied is passed over and never fails for that
reason, what is applied gives its three actions, and the sections that fail are those with a broken
record. The plan is read off section by section, in the order of loading, and the actions of each
stay together.

Main statements: `Compiler.recordedPaths_eq_iff`, `Compiler.lookupsAgree`,
`Compiler.revertAll_exact`.
-/

namespace RouterConf

/-! ### What is known of an instance -/

/-- Why a record cannot be had: its file cannot be read, or holds no record. -/
inductive CompileError.OfRecord : CompileError → Prop
  | io (fault : FileFault) : OfRecord (.io fault)
  | malformed : OfRecord .malformedRecord

namespace Compiler

/-- **What a compiler knows of an identity**: the files it was applied with, that it is not applied,
or that there is a record which cannot be had. -/
inductive Standing (c : Compiler) (st : ApplyState) (id : SectionId) :
    Except CompileError (Option InstancePaths) → Prop
  | remembered {paths : InstancePaths} : st.applied.get? id = some paths →
    Standing c st id (.ok (some paths))
  | stored {text : String} {record : ApplyRecord} : st.applied.get? id = none →
    st.files.readText (c.settings.store.pathOf id) = .ok text →
    ApplyRecord.ofText? text = some record → Standing c st id (.ok (some record.paths))
  | absent : st.applied.get? id = none →
    st.files.pathExists (c.settings.store.pathOf id) = false → Standing c st id (.ok none)
  | unreadable {e : OsError} : st.applied.get? id = none →
    st.files.pathExists (c.settings.store.pathOf id) = true →
    st.files.readText (c.settings.store.pathOf id) = .error e →
    Standing c st id (.error (.io ⟨c.settings.store.pathOf id, e⟩))
  | malformed {text : String} : st.applied.get? id = none →
    st.files.readText (c.settings.store.pathOf id) = .ok text →
    ApplyRecord.ofText? text = none → Standing c st id (.error .malformedRecord)

variable {c : Compiler} {st : ApplyState} {id : SectionId} {s : Section} {x : SectionIndex}
  {known : Except CompileError (Option InstancePaths)}

/-- One of the rules applies to every identity. -/
theorem exists_standing (c : Compiler) (st : ApplyState) (id : SectionId) :
    ∃ known, c.Standing st id known := by
  cases hm : st.applied.get? id with
  | some paths => exact ⟨_, .remembered hm⟩
  | none =>
    cases he : st.files.pathExists (c.settings.store.pathOf id) with
    | false => exact ⟨_, .absent hm he⟩
    | true =>
      cases ht : st.files.readText (c.settings.store.pathOf id) with
      | error e => exact ⟨_, .unreadable hm he ht⟩
      | ok text =>
        cases hr : ApplyRecord.ofText? text with
        | none => exact ⟨_, .malformed hm ht hr⟩
        | some record => exact ⟨_, .stored hm ht hr⟩

/-- And what it says is what is looked up. -/
theorem recordedPaths_of_standing (h : c.Standing st id known) :
    c.recordedPaths st id = known := by
  -- What can be read is there.
  have there {text : String} (ht : st.files.readText (c.settings.store.pathOf id) = .ok text) :
      st.files.pathExists (c.settings.store.pathOf id) = true := by
    rw [FileTree.pathExists, FileTree.readText_eq_ok_iff.1 ht]
  cases h with
  | remembered hm => simp only [recordedPaths, hm]
  | stored hm ht hr => simp only [recordedPaths, hm, RecordStore.load, there ht, if_true, ht, hr,
      Option.map_some]
  | absent hm he => simp only [recordedPaths, hm, RecordStore.load_of_missing he, Option.map_none]
  | unreadable hm he ht => simp only [recordedPaths, hm, RecordStore.load, he, if_true, ht,
      CompileError.ofRecordError]
  | malformed hm ht hr => simp only [recordedPaths, hm, RecordStore.load, there ht, if_true, ht, hr,
      CompileError.ofRecordError]

/-- **The lookup goes by the rules**, and finds one answer. -/
theorem recordedPaths_eq_iff : c.recordedPaths st id = known ↔ c.Standing st id known := by
  constructor
  · rintro rfl
    obtain ⟨known, h⟩ := exists_standing c st id
    rwa [recordedPaths_of_standing h]
  · exact recordedPaths_of_standing

/-- The lookup fails for records only. -/
theorem Standing.ofRecord {e : CompileError} (h : c.Standing st id (.error e)) : e.OfRecord := by
  cases h with
  | unreadable => exact .io _
  | malformed => exact .malformed

/-- An identity counts as applied just if files of it are known. -/
theorem isApplied_of_standing (h : c.Standing st id known) :
    c.isApplied st id = known.map Option.isSome := by
  rw [isApplied, recordedPaths_of_standing h]
  cases known <;> rfl

/-! ### The two lookups -/

/-- **Both lookups see the same**: an instance is reverted just if it is applied, it is said not to
be applied just if it is not, and a record that one cannot have, the other cannot have for the same
reason. -/
structure LookupsAgree (c : Compiler) (st : ApplyState) (s : Section) : Prop where
  applied : c.isApplied st s.id = .ok true ↔ ∃ actions, c.revert st s = .ok actions
  notApplied : c.isApplied st s.id = .ok false ↔ ∃ text, c.revert st s = .error (.notApplied text)
  fails : ∀ e, c.isApplied st s.id = .error e ↔ c.revert st s = .error e ∧ e.OfRecord

/-- What a revert comes to, by what is known of the instance. -/
theorem revert_of_standing (hd : s.asDnsmasq.isSome) (h : c.Standing st s.id known) :
    c.revert st s = match known with
      | .ok (some paths) => .ok (teardown s.id paths)
      | .ok none => .error (.notApplied s.text)
      | .error e => .error e := by
  obtain ⟨d, hd⟩ := Option.isSome_iff_exists.1 hd
  have recorded := recordedPaths_of_standing h
  rcases known with e | _ | paths <;>
    simp only [revert, instanceOf, hd, recorded, bind, Except.bind, pure, Except.pure]

/-- **The two lookups agree** on every instance. -/
theorem lookupsAgree (hd : s.asDnsmasq.isSome) : c.LookupsAgree st s := by
  obtain ⟨known, h⟩ := exists_standing c st s.id
  -- Both answers are read off what is known, which leaves one case for each sort of it.
  have applied := isApplied_of_standing h
  have reverted := revert_of_standing hd h
  rcases known with e | _ | paths
  · -- The reason is the same, and none of the reasons is that nothing was applied.
    have fault := h.ofRecord
    refine ⟨?_, ?_, fun e' => ?_⟩ <;> rw [applied, reverted] <;> simp only [Except.map]
    · simp
    · constructor
      · simp
      · rintro ⟨text, same⟩
        cases Except.error.inj same
        cases fault
    · constructor
      · rintro ⟨⟩
        exact ⟨rfl, fault⟩
      · exact fun same => congrArg _ (Except.error.inj same.1)
  · refine ⟨?_, ?_, fun e' => ?_⟩ <;> rw [applied, reverted] <;> simp only [Except.map]
    · simp
    · simp
    · constructor
      · simp
      · rintro ⟨same, fault⟩
        cases Except.error.inj same
        cases fault
  · refine ⟨?_, ?_, fun e' => ?_⟩ <;> rw [applied, reverted] <;> simp [Except.map]

/-! ### The plan, section by section -/

/-- **The part of an identity in a teardown**, by what is known of it: its daemon is asked to end,
and then its lease file and its pid file go; or nothing, if it is not applied; or a failure. -/
def teardownPart (id : SectionId) : Except CompileError (Option InstancePaths) → Plan
  | .ok (some paths) =>
    { actions := [⟨-startPriority, id, .killPidFile paths.pid⟩,
        ⟨-startPriority, id, .removeFile paths.lease⟩,
        ⟨-startPriority, id, .removeFile paths.pid⟩] }
  | .ok none => {}
  | .error e => { failures := [(id, e)] }

/-- A section puts its part before those of the rest. -/
theorem prepend_of_standing (hd : s.asDnsmasq.isSome) (h : c.Standing st s.id known) (p : Plan) :
    p.prepend s.id (c.revertIfApplied st s) =
      ⟨(teardownPart s.id known).actions ++ p.actions,
        (teardownPart s.id known).failures ++ p.failures⟩ := by
  have applied := isApplied_of_standing h
  have reverted := revert_of_standing hd h
  rcases known with e | _ | paths <;>
    simp only [revertIfApplied, applied, reverted, Except.map, Option.isSome, bind, Except.bind,
      pure, Except.pure, if_true, if_false, Bool.false_eq_true] <;> rfl

/-- The plan is made up of the parts of the sections, each at its place. -/
theorem revertEach_eq_parts {known : SectionId → Except CompileError (Option InstancePaths)}
    (standing : ∀ id, c.Standing st id (known id)) {ss : List Section}
    (declares : ∀ s ∈ ss, s.asDnsmasq.isSome) :
    c.revertEach st ss = ⟨ss.flatMap fun s => (teardownPart s.id (known s.id)).actions,
      ss.flatMap fun s => (teardownPart s.id (known s.id)).failures⟩ := by
  induction ss with
  | nil => rfl
  | cons s ss ih =>
    -- Neither the actions nor the failures of a section mix with those of another.
    obtain ⟨here, later⟩ := List.forall_mem_cons.1 declares
    rw [revertEach, prepend_of_standing here (standing s.id), ih later, List.flatMap_cons,
      List.flatMap_cons]

/-- Only a record that cannot be had makes an identity fail. -/
theorem Standing.ofRecord_of_mem (h : c.Standing st id known) {f : SectionId × CompileError}
    (hf : f ∈ (teardownPart id known).failures) : f.2.OfRecord := by
  rcases known with e | _ | paths
  · obtain rfl := List.mem_singleton.1 hf
    exact h.ofRecord
  · cases hf
  · cases hf

/-! ### Teardowns one after the other -/

/-- To ask for a teardown is not to carry it out: nothing changes, and the same question has the
same answer, at whatever times it is asked. -/
theorem runCalls_revertAll (c : Compiler) (x : SectionIndex) (times : List Timestamp)
    (st : ApplyState) :
    c.runCalls (times.map fun now => ⟨.revertAll x, now, false⟩) st =
      (times.map fun _ => .plan (c.revertAll st x), st) := by
  induction times with
  | nil => rfl
  | cons now times ih =>
    have once : Call.run c ⟨.revertAll x, now, false⟩ st = (.plan (c.revertAll st x), st) := rfl
    simp only [List.map_cons, runCalls, once, ih]

/-! ### The plan -/

/-- **A teardown is planned of exactly the applied sections.** Load sections, of which every one of
the kind is an instance, and take what is known of each identity. Then each section has its part in
the plan, in the order of loading, and that is all of the plan: three actions if it is applied,
nothing if it is not, and a failure if its record cannot be had. That it was not applied is never
why a section fails. To ask whether an instance is applied and to revert it always agree. And the
plan can be asked for as often as one likes, which changes nothing. -/
theorem revertAll_exact {ss : List Section}
    (declares : ∀ s ∈ SectionKind.dnsmasq.select ss, s.asDnsmasq.isSome) (c : Compiler)
    (st : ApplyState) :
    (∃ known : SectionId → Except CompileError (Option InstancePaths),
      (∀ id, c.Standing st id (known id) ∧ c.isApplied st id = (known id).map Option.isSome) ∧
      (c.revertAll st (.ofList ss)).actions =
        (SectionKind.dnsmasq.select ss).flatMap
          (fun s => (teardownPart s.id (known s.id)).actions) ∧
      (c.revertAll st (.ofList ss)).failures =
        (SectionKind.dnsmasq.select ss).flatMap
          (fun s => (teardownPart s.id (known s.id)).failures)) ∧
    (∀ f ∈ (c.revertAll st (.ofList ss)).failures, ∀ text, f.2 ≠ .notApplied text) ∧
    (∀ s : Section, s.asDnsmasq.isSome → c.LookupsAgree st s) ∧
    ∀ times : List Timestamp,
      c.runCalls (times.map fun now => ⟨.revertAll (.ofList ss), now, false⟩) st =
        (times.map fun _ => .plan (c.revertAll st (.ofList ss)), st) := by
  -- What is known of each identity is what the lookup says of it.
  have standing : ∀ id, c.Standing st id (c.recordedPaths st id) :=
    fun id => recordedPaths_eq_iff.1 rfl
  have plan := revertEach_eq_parts standing declares
  rw [← SectionIndex.ofKind_ofList, ← revertAll_eq] at plan
  have answered := fun id => And.intro (standing id) (isApplied_of_standing (standing id))
  refine ⟨⟨c.recordedPaths st, answered, ?_, ?_⟩, ?_, fun s hd => lookupsAgree hd,
    fun times => runCalls_revertAll c _ times st⟩
  · rw [plan, SectionIndex.ofKind_ofList]
  · rw [plan, SectionIndex.ofKind_ofList]
  · intro f hf text same
    rw [plan] at hf
    obtain ⟨s, -, hf⟩ := List.mem_flatMap.1 hf
    have fault := (standing s.id).ofRecord_of_mem hf
    rw [same] at fault
    cases fault

/-! ### One section of each sort -/

/-- Files in which "n" has a record, "p" has a file that is none, and the place of the record of "m"
is taken by a directory. -/
def someRecords : FileTree where
  home := []
  entries := [(["state"], .directory), (["state", "dnsmasq-m.json"], .directory),
    (["state", "dnsmasq-n.json"], .file (.text
      (ApplyRecord.text ⟨⟨.dnsmasq, "n"⟩, .epoch, atHome.paths (.plain "n") .plain⟩))),
    (["state", "dnsmasq-p.json"], .file (.text "applied"))]

/-- What is remembered is taken down although its record is broken, what is stored is taken down,
what is neither is passed over, and one section fails. -/
theorem revertAll_exact_someRecords :
    let ss : List Section := ["m", "n", "o", "p"].map .plain
    let st : ApplyState := ⟨someRecords, [(⟨.dnsmasq, "m"⟩, atHome.paths (.plain "m") .plain)]⟩
    (∀ s ∈ SectionKind.dnsmasq.select ss, s.asDnsmasq.isSome) ∧
      (atHome.revertAll st (.ofList ss)).actions =
        teardown ⟨.dnsmasq, "m"⟩ (atHome.paths (.plain "m") .plain) ++
          teardown ⟨.dnsmasq, "n"⟩ (atHome.paths (.plain "n") .plain) ∧
      (atHome.revertAll st (.ofList ss)).failures = [(⟨.dnsmasq, "p"⟩, .malformedRecord)] := by
  intro ss st
  have declares : ∀ s ∈ SectionKind.dnsmasq.select ss, s.asDnsmasq.isSome := by decide
  obtain ⟨⟨known, standing, actions, failures⟩, -⟩ := revertAll_exact declares atHome st
  have answer (name : String) {r : Except CompileError (Option InstancePaths)}
      (h : atHome.Standing st ⟨.dnsmasq, name⟩ r) : known ⟨.dnsmasq, name⟩ = r :=
    (recordedPaths_of_standing (standing _).1).symm.trans (recordedPaths_of_standing h)
  -- Each of the four sections comes under a rule of its own.
  have m := answer "m" (.remembered rfl)
  have n := answer "n" (.stored rfl rfl (ApplyRecord.ofText?_text (by decide)))
  have o := answer "o" (.absent rfl rfl)
  have p := answer "p" (.malformed rfl rfl rfl)
  have selected : SectionKind.dnsmasq.select ss = ss := rfl
  refine ⟨declares, ?_, ?_⟩
  · rw [actions, selected]
    simp only [ss, List.map, List.flatMap_cons, List.flatMap_nil]
    simp only [Section.plain, m, n, o, p]
    rfl
  · rw [failures, selected]
    simp only [ss, List.map, List.flatMap_cons, List.flatMap_nil]
    simp only [Section.plain, m, n, o, p]
    rfl

end Compiler

end RouterConf
