import Mathlib.Data.List.Perm.Basic
import RouterConf.Proofs.Section.Index

/-!
# An index in place of its list

Whoever holds an index need not look at the list of sections again: every question that can be put
to the index has the answer that a search through the list would give, down to the counts that are
told where a name is ambiguous (`SectionIndex.Represents`). The answers rest on two facts about the
loop that fills the index:

* the positions under a key lead to the sections with that key (`SectionIndex.Sound`), from which
  all answers are read off;
* no position is kept that leads nowhere (`Groups.Within`), under whatever key it is kept.

A file and a type that declare no kind are a question like any other, about no section at all.

Main statement: `SectionIndex.represents_ofList`.
-/

namespace RouterConf

/-! ### Parts of a list by key -/

/-- The parts of a list by key make up the list, if every key has its turn once. -/
theorem flatMap_filter_perm {κ α : Type} [DecidableEq κ] (key : α → κ) {keys : List κ}
    (once : keys.Nodup) {as : List α} (all : ∀ a ∈ as, key a ∈ keys) :
    (keys.flatMap fun k => as.filter (key · = k)).Perm as := by
  induction keys generalizing as with
  | nil => simp [List.eq_nil_iff_forall_not_mem.2 fun a ha => List.not_mem_nil (all a ha)]
  | cons k keys ih =>
    obtain ⟨fresh, once⟩ := List.nodup_cons.1 once
    -- What is not under the first key is divided among the others.
    have others : ∀ a ∈ as.filter (¬ key · = k), key a ∈ keys := by
      intro a ha
      obtain ⟨there, other⟩ := List.mem_filter.1 ha
      exact (List.mem_cons.1 (all a there)).resolve_left (of_decide_eq_true other)
    have parts : (keys.flatMap fun k' => as.filter (key · = k')) =
        keys.flatMap fun k' => (as.filter (¬ key · = k)).filter (key · = k') := by
      refine List.flatMap_congr fun k' hk' => ?_
      rw [List.filter_filter]
      refine List.filter_congr fun a _ => ?_
      by_cases ha : key a = k'
      · have apart : key a ≠ k := fun h => fresh (h ▸ ha ▸ hk')
        simp [ha, ha ▸ apart]
      · simp [ha]
    rw [List.flatMap_cons, parts]
    refine ((ih once others).append_left _).trans ?_
    simpa using List.filter_append_perm (key · = k) as

/-! ### Positions within the list -/

namespace Groups

variable {κ : Type} [DecidableEq κ] {g : Groups κ} {bound : Nat}

/-- **No position leads nowhere**, under whatever key it is kept. -/
def Within (bound : Nat) (g : Groups κ) : Prop :=
  ∀ group ∈ g, ∀ i ∈ group.2, i < bound

/-- A position that is added is the only new one. -/
theorem eq_or_exists_of_mem_add {key : κ} {n : Nat} {group : κ × List Nat}
    (h : group ∈ add key n g) {i : Nat} (hi : i ∈ group.2) :
    i = n ∨ ∃ old ∈ g, i ∈ old.2 := by
  induction g with
  | nil =>
    rw [add, List.mem_singleton] at h
    rw [h] at hi
    exact .inl (List.mem_singleton.1 hi)
  | cons first rest ih =>
    unfold add at h
    split at h
    · rcases List.mem_cons.1 h with rfl | later
      · -- A key that is known gets the position behind its others.
        rcases List.mem_append.1 hi with before | new
        · exact .inr ⟨first, List.mem_cons_self, before⟩
        · exact .inl (List.mem_singleton.1 new)
      · exact .inr ⟨group, List.mem_cons_of_mem _ later, hi⟩
    · rcases List.mem_cons.1 h with rfl | later
      · exact .inr ⟨_, List.mem_cons_self, hi⟩
      · rcases ih later with new | ⟨old, there, held⟩
        · exact .inl new
        · exact .inr ⟨old, List.mem_cons_of_mem _ there, held⟩

/-- The loop adds the position of the section that is put behind the others. -/
theorem Within.add (h : Within bound g) (key : κ) : Within (bound + 1) (add key bound g) := by
  intro group hgroup i hi
  rcases eq_or_exists_of_mem_add hgroup hi with rfl | ⟨old, there, held⟩
  · exact Nat.lt_succ_self _
  · exact Nat.lt_succ_of_lt (h old there i held)

end Groups

namespace SectionIndex

variable {x : SectionIndex} {s : Section} {kind : SectionKind} {name : String}

/-- The positions of both groups are positions of sections. -/
structure InBounds (x : SectionIndex) : Prop where
  byKind : Groups.Within x.sections.size x.byKind
  byId : Groups.Within x.sections.size x.byId

/-- One more section comes with one more position. -/
theorem InBounds.push (h : x.InBounds) (s : Section) : (x.push s).InBounds := by
  have larger : (x.push s).sections.size = x.sections.size + 1 := Array.size_push _
  refine ⟨?_, ?_⟩
  · rw [larger]
    exact h.byKind.add s.id.kind
  · rw [larger]
    exact h.byId.add s.id

/-- So do as many as one likes. -/
theorem inBounds_foldl_push (h : x.InBounds) (ss : List Section) : (ss.foldl push x).InBounds := by
  induction ss generalizing x with
  | nil => exact h
  | cons s ss ih => exact ih (h.push s)

/-- No position of an index that is made from a list is out of bounds. -/
theorem inBounds_ofList (ss : List Section) : (ofList ss).InBounds :=
  inBounds_foldl_push ⟨by simp [Groups.Within], by simp [Groups.Within]⟩ ss

end SectionIndex

/-! ### What a reference may mean -/

/-- A pair that declares no kind is declared by no section. -/
theorem SectionKind.ofPair_eq_none_iff {file type : String} :
    SectionKind.ofPair file type = none ↔
      ∀ kind : SectionKind, ¬ (kind.file = file ∧ kind.type = type) := by
  rw [Option.eq_none_iff_forall_ne_some]
  exact forall_congr' fun kind => not_congr SectionKind.ofPair_eq_some_iff

/-- The sections of a list that a file, a type and a name may mean. -/
def Section.meant (file type name : String) (ss : List Section) : List Section :=
  ss.filter fun s => s.id.kind.file = file ∧ s.id.kind.type = type ∧ s.id.name = name

namespace Section

variable {file type : String} {kind : SectionKind}

/-- They are those of the kind that is declared so. -/
theorem meant_of_ofPair (h : SectionKind.ofPair file type = some kind) (name : String)
    (ss : List Section) : meant file type name ss = ss.filter (·.id = ⟨kind, name⟩) := by
  refine List.filter_congr fun s _ => decide_eq_decide.2 ?_
  -- A file and a type together declare one kind, so that asking by them is asking by the kind.
  have declared : s.id.kind = kind ↔ s.id.kind.file = file ∧ s.id.kind.type = type := by
    rw [← SectionKind.ofPair_eq_some_iff, h, Option.some.injEq, eq_comm]
  rw [← and_assoc, ← declared]
  constructor
  · rintro ⟨hkind, hname⟩
    exact congrArg₂ SectionId.mk hkind hname
  · intro hid
    rw [hid]
    exact ⟨rfl, rfl⟩

/-- Where no kind is declared so, none is meant. -/
theorem meant_of_ofPair_none (h : SectionKind.ofPair file type = none) (name : String)
    (ss : List Section) : meant file type name ss = [] := by
  refine List.filter_eq_nil_iff.2 fun s _ => ?_
  rw [decide_eq_true_eq]
  exact fun declared => SectionKind.ofPair_eq_none_iff.1 h s.id.kind ⟨declared.1, declared.2.1⟩

end Section

namespace Lookup

/-- The section that a name refers to, or what is wrong with the reference. -/
def orError (file type name : String) : Lookup → Except ReferenceError Section
  | found s => .ok s
  | notFound => .error (.notFound file type name)
  | ambiguous count => .error (.ambiguous file type name count)

variable {ss : List Section} {file type name : String}

/-- Nothing is found just if nobody bears the name, -/
theorem ofBearers_eq_notFound_iff : ofBearers ss = .notFound ↔ ss.length = 0 := by
  rcases ss with _ | ⟨s, _ | ⟨s', rest⟩⟩ <;> simp [ofBearers]

/-- a section just if it is the only bearer, -/
theorem ofBearers_eq_found_iff {s : Section} : ofBearers ss = .found s ↔ ss = [s] := by
  rcases ss with _ | ⟨s, _ | ⟨s', rest⟩⟩ <;> simp [ofBearers]

/-- and the bearers are counted just if there are two or more. -/
theorem ofBearers_eq_ambiguous_iff {n : Nat} :
    ofBearers ss = .ambiguous n ↔ ss.length = n ∧ 2 ≤ n := by
  rcases ss with _ | ⟨s, _ | ⟨s', rest⟩⟩
  · simp [ofBearers]
    omega
  · simp [ofBearers]
    omega
  · simp [ofBearers]
    omega

/-- A reference is resolved just to what was found, -/
theorem orError_eq_ok_iff {r : Lookup} {s : Section} :
    r.orError file type name = .ok s ↔ r = .found s := by
  cases r <;> simp [orError]

/-- and otherwise it fails for one of two reasons. -/
theorem orError_eq_error_iff {r : Lookup} {e : ReferenceError} :
    r.orError file type name = .error e ↔ r = .notFound ∧ e = .notFound file type name ∨
      ∃ n, r = .ambiguous n ∧ e = .ambiguous file type name n := by
  cases r <;> simp [orError, eq_comm]

end Lookup

namespace SectionIndex

/-! ### All questions -/

/-- By file, type and name, what is meant is found. -/
theorem findExactly_ofList (ss : List Section) (file type name : String) :
    (ofList ss).findExactly file type name =
      (Lookup.ofBearers (Section.meant file type name ss)).orError file type name := by
  unfold findExactly
  cases h : SectionKind.ofPair file type with
  | none =>
    rw [Section.meant_of_ofPair_none h]
    rfl
  | some kind =>
    rw [Section.meant_of_ofPair h]
    dsimp only
    rw [lookup_ofList]
    rfl

/-- By file and type, all that are declared so are found. -/
theorem findAll_ofList (ss : List Section) (file type : String) :
    (ofList ss).findAll file type =
      ss.filter fun s => s.id.kind.file = file ∧ s.id.kind.type = type := by
  unfold findAll
  cases h : SectionKind.ofPair file type with
  | none =>
    symm
    refine List.filter_eq_nil_iff.2 fun s _ => ?_
    rw [decide_eq_true_eq]
    exact SectionKind.ofPair_eq_none_iff.1 h s.id.kind
  | some kind =>
    dsimp only
    rw [ofKind_ofList, SectionKind.select]
    refine List.filter_congr fun s _ => decide_eq_decide.2 ?_
    rw [← SectionKind.ofPair_eq_some_iff, h, Option.some.injEq, eq_comm]

/-- **An index that stands for a list of sections.** What it answers is what a search through the
list would find. -/
structure Represents (x : SectionIndex) (ss : List Section) : Prop where
  sections : x.toList = ss ∧ x.size = ss.length
  ofKind : ∀ kind, x.ofKind kind = ss.filter (·.id.kind = kind)
  /-- The sections of all kinds are the sections of the list, each as often as it is there. -/
  kinds : (SectionKind.all.flatMap x.ofKind).Perm ss
  findAll : ∀ file type, x.findAll file type =
    ss.filter fun s => s.id.kind.file = file ∧ s.id.kind.type = type
  /-- A name of a kind refers to nothing if no section bears it, -/
  notFound : ∀ kind name,
    x.lookup kind name = .notFound ↔ (ss.filter (·.id = ⟨kind, name⟩)).length = 0
  /-- to a section if that one bears it and no other, -/
  found : ∀ kind name s, x.lookup kind name = .found s ↔ ss.filter (·.id = ⟨kind, name⟩) = [s]
  /-- so that it is found just where there is one, -/
  exists_found : ∀ kind name,
    (∃ s, x.lookup kind name = .found s) ↔ (ss.filter (·.id = ⟨kind, name⟩)).length = 1
  /-- and to as many as there are if there are two or more. -/
  ambiguous : ∀ kind name n,
    x.lookup kind name = .ambiguous n ↔ (ss.filter (·.id = ⟨kind, name⟩)).length = n ∧ 2 ≤ n
  /-- By file and type a section is found just if it alone is meant, -/
  findExactly_ok : ∀ file type name s,
    x.findExactly file type name = .ok s ↔ Section.meant file type name ss = [s]
  /-- and otherwise the error repeats what was asked for, with the number of those meant. -/
  findExactly_error : ∀ file type name e, x.findExactly file type name = .error e ↔
    (Section.meant file type name ss).length = 0 ∧ e = .notFound file type name ∨
      ∃ n, (Section.meant file type name ss).length = n ∧ 2 ≤ n ∧ e = .ambiguous file type name n
  /-- Asked by kind or by file and type, the index agrees with itself. -/
  agree : ∀ kind name,
    x.findExactly kind.file kind.type name = (x.lookup kind name).orError kind.file kind.type name ∧
      x.expectOne kind name = (x.lookup kind name).orError kind.file kind.type name
  /-- A file and a type that declare no kind find nothing. -/
  undeclared : ∀ file type, (∀ kind : SectionKind, ¬ (kind.file = file ∧ kind.type = type)) →
    x.findAll file type = [] ∧
      ∀ name, x.findExactly file type name = .error (.notFound file type name)
  /-- Every position that is kept is the position of a section. -/
  positions : (∀ group ∈ x.byKind, ∀ i ∈ group.2, i < ss.length) ∧
    ∀ group ∈ x.byId, ∀ i ∈ group.2, i < ss.length

/-- **The index of a list stands for it**, whatever sections the list has and however often. -/
theorem represents_ofList (ss : List Section) : (ofList ss).Represents ss := by
  -- Every position in bounds of the array is one of the list.
  have size : (ofList ss).sections.size = ss.length := by
    rw [← Array.length_toList, sections_ofList]
  have bounds := inBounds_ofList ss
  have kinds : ∀ kind, (ofList ss).ofKind kind = ss.filter (·.id.kind = kind) :=
    ofKind_ofList ss
  have agree : ∀ kind name, (ofList ss).findExactly kind.file kind.type name =
      ((ofList ss).lookup kind name).orError kind.file kind.type name := by
    intro kind name
    rw [findExactly_ofList, lookup_ofList,
      Section.meant_of_ofPair (SectionKind.ofPair_eq_some_iff.2 ⟨rfl, rfl⟩)]
  refine ⟨⟨sections_ofList ss, size⟩, kinds, ?_, findAll_ofList ss, ?_, ?_, ?_, ?_, ?_, ?_,
    fun kind name => ⟨agree kind name, agree kind name⟩, ?_, ?_⟩
  · -- Each kind has its turn, and every section has one of the kinds.
    rw [List.flatMap_congr fun kind _ => kinds kind]
    exact flatMap_filter_perm (fun s : Section => s.id.kind) (by decide) fun s _ =>
      SectionKind.mem_all _
  · intro kind name
    rw [lookup_ofList, Lookup.ofBearers_eq_notFound_iff]
  · intro kind name s
    rw [lookup_ofList, Lookup.ofBearers_eq_found_iff]
  · intro kind name
    simp only [lookup_ofList, Lookup.ofBearers_eq_found_iff, List.length_eq_one_iff]
  · intro kind name n
    rw [lookup_ofList, Lookup.ofBearers_eq_ambiguous_iff]
  · intro file type name s
    rw [findExactly_ofList, Lookup.orError_eq_ok_iff, Lookup.ofBearers_eq_found_iff]
  · intro file type name e
    simp only [findExactly_ofList, Lookup.orError_eq_error_iff, Lookup.ofBearers_eq_notFound_iff,
      Lookup.ofBearers_eq_ambiguous_iff, and_assoc]
  · intro file type undeclared
    -- A pair that declares no kind is not looked up at all.
    have none := SectionKind.ofPair_eq_none_iff.2 undeclared
    refine ⟨?_, fun name => ?_⟩
    · rw [findAll, none]
    · rw [findExactly_ofList, Section.meant_of_ofPair_none none]
      rfl
  · rw [← size]
    exact ⟨bounds.byKind, bounds.byId⟩

end SectionIndex

end RouterConf
