import RouterConf.Section.Index

/-!
# What an index answers

An index keeps positions, and its answers are those of the list of sections. The sections of a kind
are the part of the list that is of that kind, in its order. What a name refers to is seen from the
part of the list that bears it, and only the number of that part matters where it is not one
section.

Both groups of positions are filled by one loop, and one invariant speaks of both: the positions
under a key lead to the sections with that key (`Groups.Lists`).

Main statements: `SectionIndex.ofKind_ofList`, `SectionIndex.lookup_ofList`,
`SectionIndex.lookup_ofList_perm`.
-/

namespace RouterConf

/-! ### Positions and sections -/

namespace Groups

variable {κ : Type} [DecidableEq κ] {key : Section → κ} {sections : Array Section} {g : Groups κ}

/-- **Positions lead to the sections of their key**, to all of them and in their order. -/
def Lists (key : Section → κ) (sections : Array Section) (g : Groups κ) : Prop :=
  ∀ k, (get k g).map (sections[·]?) = (sections.toList.filter (key · = k)).map some

/-- At the start there are neither sections nor positions. -/
theorem Lists.nil (key : Section → κ) : Lists key #[] [] := by
  intro k
  simp

/-- No position is out of bounds. -/
theorem Lists.lt_size (h : Lists key sections g) {k : κ} {i : Nat} (hi : i ∈ get k g) :
    i < sections.size := by
  have there : sections[i]? ∈ (sections.toList.filter (key · = k)).map some :=
    h k ▸ List.mem_map_of_mem hi
  obtain ⟨s, -, hs⟩ := List.mem_map.1 there
  exact (Array.getElem?_eq_some_iff.1 hs.symm).1

/-- The loop over the list keeps the positions right. -/
theorem Lists.push (h : Lists key sections g) (s : Section) :
    Lists key (sections.push s) (add (key s) sections.size g) := by
  intro k
  -- The positions that were there lead where they led.
  have before : (get k g).map ((sections.push s)[·]?) = (get k g).map (sections[·]?) :=
    List.map_congr_left fun i hi => by
      rw [Array.getElem?_push, if_neg (Nat.ne_of_lt (h.lt_size hi))]
  rw [get_add, List.map_append, before, h k, Array.toList_push, List.filter_append,
    List.map_append]
  by_cases hk : key s = k <;> simp [hk]

/-- What the positions under a key lead to, all positions being in bounds. -/
theorem Lists.filterMap_get (h : Lists key sections g) (k : κ) :
    (get k g).filterMap (sections[·]?) = sections.toList.filter (key · = k) := by
  -- A position that is out of bounds would be dropped in silence, and there is none.
  have flat := congrArg (List.filterMap id) (h k)
  rwa [List.filterMap_map, List.filterMap_map, Function.id_comp, Function.id_comp,
    List.filterMap_some] at flat

end Groups

/-! ### References to bearers of a name -/

/-- What is referred to if these are the sections that bear the name. -/
def Lookup.ofBearers : List Section → Lookup
  | [] => .notFound
  | [s] => .found s
  | many => .ambiguous many.length

/-- Two or more bearers are only counted. -/
theorem Lookup.ofBearers_of_two_le {ss : List Section} (h : 2 ≤ ss.length) :
    ofBearers ss = .ambiguous ss.length := by
  rcases ss with _ | ⟨s, _ | ⟨s', rest⟩⟩
  · simp at h
  · simp at h
  · rfl

/-- The order of the bearers does not matter, not even to how many they are said to be. -/
theorem Lookup.ofBearers_perm {ss ss' : List Section} (h : ss.Perm ss') :
    ofBearers ss = ofBearers ss' := by
  by_cases two : 2 ≤ ss.length
  · rw [ofBearers_of_two_le two, h.length_eq, ofBearers_of_two_le (h.length_eq ▸ two)]
  · -- A list of one section or none has no other order.
    rcases ss with _ | ⟨s, _ | ⟨s', rest⟩⟩
    · rw [h.nil_eq]
    · rw [List.singleton_perm.1 h]
    · exact absurd (by simp) two

/-- The part of a list that is of a kind, in the order of the list. -/
def SectionKind.select (kind : SectionKind) (ss : List Section) : List Section :=
  ss.filter (·.id.kind = kind)

namespace SectionKind

variable {kind : SectionKind} {s : Section}

/-- Of two lists one after the other, each has its part. -/
theorem select_append (kind : SectionKind) (ss ss' : List Section) :
    kind.select (ss ++ ss') = kind.select ss ++ kind.select ss' :=
  List.filter_append _ _

/-- A section of the kind is selected, -/
theorem select_cons_of_kind (h : s.id.kind = kind) (ss : List Section) :
    kind.select (s :: ss) = s :: kind.select ss :=
  List.filter_cons_of_pos (by simpa using h)

/-- and one of another kind is not. -/
theorem select_cons_of_ne (h : s.id.kind ≠ kind) (ss : List Section) :
    kind.select (s :: ss) = kind.select ss :=
  List.filter_cons_of_neg (by simpa using h)

end SectionKind

namespace SectionIndex

/-! ### The answers of an index -/

/-- Both groups of an index list its sections. -/
structure Sound (x : SectionIndex) : Prop where
  byKind : Groups.Lists (·.id.kind) x.sections x.byKind
  byId : Groups.Lists (·.id) x.sections x.byId

/-- One more section leaves an index sound, -/
theorem Sound.push {x : SectionIndex} (h : x.Sound) (s : Section) : (x.push s).Sound :=
  ⟨h.byKind.push s, h.byId.push s⟩

/-- and so do as many as one likes. -/
theorem sound_foldl_push {x : SectionIndex} (h : x.Sound) (ss : List Section) :
    (ss.foldl push x).Sound := by
  induction ss generalizing x with
  | nil => exact h
  | cons s ss ih => exact ih (h.push s)

/-- An index that is made from a list is sound. -/
theorem sound_ofList (ss : List Section) : (ofList ss).Sound :=
  sound_foldl_push ⟨.nil _, .nil _⟩ ss

/-- **The sections of a kind** are those of the list, in its order. -/
theorem ofKind_ofList (ss : List Section) (kind : SectionKind) :
    (ofList ss).ofKind kind = kind.select ss := by
  rw [ofKind, at_, (sound_ofList ss).byKind.filterMap_get, sections_ofList, SectionKind.select]

/-- What a name refers to follows from the sections under its identity. -/
theorem Sound.lookup_eq {x : SectionIndex} (h : x.Sound) (kind : SectionKind) (name : String) :
    x.lookup kind name = .ofBearers (x.toList.filter (·.id = ⟨kind, name⟩)) := by
  have bearers := h.byId ⟨kind, name⟩
  unfold lookup toList
  generalize x.sections.toList.filter (·.id = ⟨kind, name⟩) = ss at bearers ⊢
  generalize x.byId.get ⟨kind, name⟩ = positions at bearers ⊢
  -- There are as many positions as bearers, and a single position leads to the single bearer.
  have counted := congrArg List.length bearers
  rw [List.length_map, List.length_map] at counted
  rcases positions with _ | ⟨i, _ | ⟨j, rest⟩⟩
  · obtain rfl := List.eq_nil_of_length_eq_zero counted.symm
    rfl
  · obtain ⟨s, rfl⟩ := List.length_eq_one_iff.1 counted.symm
    have there : x.sections[i]? = some s := (List.cons.inj bearers).1
    simp only [there, Lookup.ofBearers]
  · rw [Lookup.ofBearers_of_two_le (counted ▸ by simp), ← counted]

/-- **What a name refers to** is seen from the sections of the list that bear it. -/
theorem lookup_ofList (ss : List Section) (kind : SectionKind) (name : String) :
    (ofList ss).lookup kind name = .ofBearers (ss.filter (·.id = ⟨kind, name⟩)) := by
  rw [(sound_ofList ss).lookup_eq, toList, sections_ofList]

/-- Names refer to the same whatever the order of the sections of their kind. -/
theorem lookup_ofList_perm {ss ss' : List Section} {kind : SectionKind}
    (h : (kind.select ss).Perm (kind.select ss')) (name : String) :
    (ofList ss).lookup kind name = (ofList ss').lookup kind name := by
  -- The bearers of a name are found among the sections of its kind.
  have bearers : ∀ ss : List Section,
      ss.filter (·.id = ⟨kind, name⟩) = (kind.select ss).filter (·.id = ⟨kind, name⟩) := by
    intro ss
    rw [SectionKind.select, List.filter_filter]
    refine List.filter_congr fun s _ => ?_
    by_cases hs : s.id = ⟨kind, name⟩ <;> simp [hs]
  rw [lookup_ofList, lookup_ofList, bearers ss, bearers ss']
  exact Lookup.ofBearers_perm (h.filter _)

/-! ### One section more -/

section Insertion

variable {before after : List Section} {s : Section} {kind : SectionKind}

/-- A section more changes nothing for the other kinds. -/
theorem ofKind_insert (h : s.id.kind ≠ kind) :
    (ofList (before ++ s :: after)).ofKind kind = (ofList (before ++ after)).ofKind kind := by
  rw [ofKind_ofList, ofKind_ofList, SectionKind.select_append, SectionKind.select_cons_of_ne h,
    SectionKind.select_append]

/-- A section more changes nothing for the other names of its kind. -/
theorem lookup_insert {name : String} (h : s.id ≠ ⟨kind, name⟩) :
    (ofList (before ++ s :: after)).lookup kind name =
      (ofList (before ++ after)).lookup kind name := by
  rw [lookup_ofList, lookup_ofList, List.filter_append, List.filter_append,
    List.filter_cons_of_neg (by simpa using h)]

end Insertion

/-- The pair by which a kind is declared finds the kind. -/
theorem expectOne_congr {x x' : SectionIndex} {kind : SectionKind} {name : String}
    (h : x.lookup kind name = x'.lookup kind name) :
    x.expectOne kind name = x'.expectOne kind name := by
  have declared : SectionKind.ofPair kind.file kind.type = some kind :=
    SectionKind.ofPair_eq_some_iff.2 ⟨rfl, rfl⟩
  simp only [expectOne, findExactly, declared, h]

end SectionIndex

end RouterConf
