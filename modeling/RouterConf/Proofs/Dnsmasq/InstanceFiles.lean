import Mathlib.Data.List.Forall2
import Mathlib.Data.List.Nodup
import RouterConf.Proofs.Dnsmasq.Independence

/-!
# The files of instances

An instance has six files: its configuration and the draft of it, what the daemon is told to write,
and its record and the draft of that. Their paths are made in three ways, but all of them end in one
segment, which is the key of the instance with an ending (`Settings.endsIn_instanceFiles`). No
ending is an end of another, so a file name tells both the instance and which of its files it is
(`Settings.fileName_inj`), even where the name of the instance looks like an ending.

That is a matter of names alone. Two paths with different names are never to one place, whatever the
tree (`Path.apart_of_endsIn`). A name with a slash would not be one segment, and its files
may be those of another instance.

Main statement: `Settings.instanceFiles_apart`.
-/

namespace RouterConf

/-! ### Paths apart -/

namespace Path

variable {p q : Path}

/-- **Paths that have nothing to do with each other**: they end in different names, and are to
different places in every tree. -/
structure Apart (p q : Path) : Prop where
  names : fileName? p ≠ fileName? q
  places : ∀ t : FileTree, ¬ t.SamePlace p q

/-- In particular they are different paths. -/
theorem Apart.ne (h : Apart p q) : p ≠ q := fun same =>
  h.places default (.inl same)

/-- The path ends in a name. -/
def EndsIn (p : Path) (n : String) : Prop :=
  p.lastSegment = n.toList ∧ IsName n

/-- **Different names keep paths apart.** -/
theorem apart_of_endsIn {n n' : String} (h : p.EndsIn n) (h' : q.EndsIn n') (ne : n ≠ n') :
    Apart p q := by
  obtain ⟨last, isName⟩ := h
  obtain ⟨last', isName'⟩ := h'
  refine ⟨fun same => ne ?_, ?_⟩
  · -- A name is neither idle nor upward, so the last segment is the name that the file system sees.
    rw [fileName?_eq (last ▸ isName.not_idle) (last ▸ isName.not_upward),
      fileName?_eq (last' ▸ isName'.not_idle) (last' ▸ isName'.not_upward), last, last',
      Option.some.injEq, String.ofList_inj, String.toList_inj] at same
    exact same
  · rintro t (rfl | ⟨l, hp, hq⟩)
    · exact ne (String.toList_inj.1 (last.symm.trans last'))
    · -- One location has one last name.
      have same := hp.getLast?.1.symm.trans hq.getLast?.1
      rw [last, last', Option.some.injEq, String.ofList_inj, String.toList_inj] at same
      exact ne same

/-- Each of some paths ends in one of their names. -/
theorem exists_endsIn_of_mem {ps : List Path} {ns : List String} (h : List.Forall₂ EndsIn ps ns)
    (hp : p ∈ ps) : ∃ n ∈ ns, p.EndsIn n := by
  induction h with
  | nil => cases hp
  | cons ends _ ih =>
    rcases List.mem_cons.1 hp with rfl | hp
    · exact ⟨_, List.mem_cons_self, ends⟩
    · obtain ⟨n, hn, ends⟩ := ih hp
      exact ⟨n, List.mem_cons_of_mem _ hn, ends⟩

/-- Of paths that end in different names any two are apart. -/
theorem pairwise_apart {ps : List Path} {ns : List String} (h : List.Forall₂ EndsIn ps ns)
    (distinct : ns.Nodup) : ps.Pairwise Apart := by
  induction h with
  | nil => exact .nil
  | @cons p n ps ns ends others ih =>
    obtain ⟨fresh, distinct⟩ := List.nodup_cons.1 distinct
    refine .cons (fun q hq => ?_) (ih distinct)
    obtain ⟨n', hn', ends'⟩ := exists_endsIn_of_mem others hq
    exact apart_of_endsIn ends ends' fun same => fresh (same ▸ hn')

end Path

namespace RecordStore

variable {id id' : SectionId}

/-- A record ends in the key of its section, with the ending of a record. -/
theorem endsIn_pathOf (store : RecordStore) (h : '/' ∉ id.name.toList) :
    (store.pathOf id).EndsIn (id.fileKey ++ ".json") :=
  ⟨lastSegment_pathOf store h, (isName_fileKey h).append (by decide)⟩

/-- So does the draft of a record, with an ending of its own. -/
theorem endsIn_draftOf (store : RecordStore) (h : '/' ∉ id.name.toList) :
    (store.draftOf id).EndsIn (id.fileKey ++ ".json.tmp") :=
  ⟨(siblings_draftOf store h).2, (isName_fileKey h).append (by decide)⟩

/-- The records of different identities and their drafts are four files. -/
theorem records_apart (store : RecordStore) (h : '/' ∉ id.name.toList)
    (h' : '/' ∉ id'.name.toList) (ne : id ≠ id') :
    [store.pathOf id, store.draftOf id, store.pathOf id', store.draftOf id'].Pairwise
      Path.Apart := by
  -- Keys tell sections apart, and the endings tell a record from a draft, whatever is in front.
  have keys : id.fileKey ≠ id'.fileKey := fun same => ne (SectionId.eq_of_fileKey_eq same)
  have ends : List.Forall₂ Path.EndsIn
      [store.pathOf id, store.draftOf id, store.pathOf id', store.draftOf id']
      [id.fileKey ++ ".json", id.fileKey ++ ".json.tmp", id'.fileKey ++ ".json",
        id'.fileKey ++ ".json.tmp"] :=
    .cons (store.endsIn_pathOf h) (.cons (store.endsIn_draftOf h)
      (.cons (store.endsIn_pathOf h') (.cons (store.endsIn_draftOf h') .nil)))
  have record (w w' : String) : w ++ ".json" ≠ w' ++ ".json.tmp" :=
    Compiler.append_ne_of_suffix (by decide) (by decide)
  refine Path.pairwise_apart ends ?_
  simp [keys, record, (record _ _).symm]

end RecordStore

namespace Settings

variable {name name' : String}

/-! ### File names -/

/-- The files of an instance that names no lease file of its own. -/
def instanceFiles (s : Settings) (name : String) : List Path :=
  let paths := s.instancePaths name none
  let id : SectionId := ⟨.dnsmasq, name⟩
  [paths.config, Change.draftOf paths.config, paths.lease, paths.pid, s.store.pathOf id,
    s.store.draftOf id]

/-- The endings of the files of an instance, in the same order. -/
def fileEndings : List String :=
  [".conf", ".conf.pdconf.tmp", ".leases", ".pid", ".json", ".json.tmp"]

/-- The names of the files of an instance, in the same order. -/
def fileNames (name : String) : List String :=
  fileEndings.map fun ending => "dnsmasq-" ++ name ++ ending

/-- No ending is an end of another. -/
theorem fileEndings_not_suffix : ∀ e ∈ fileEndings, ∀ e' ∈ fileEndings, e ≠ e' →
    ¬ e.toList <:+ e'.toList := by
  decide

/-- **A file name tells the instance and the file.** -/
theorem fileName_inj {e e' : String} (he : e ∈ fileEndings) (he' : e' ∈ fileEndings)
    (same : "dnsmasq-" ++ name ++ e = "dnsmasq-" ++ name' ++ e') : name = name' ∧ e = e' := by
  by_cases ending : e = e'
  · -- With one ending the names differ only in what stands between it and the kind.
    subst ending
    rw [← String.toList_inj] at same
    simp only [String.toList_append, List.append_cancel_right_eq, List.append_cancel_left_eq,
      String.toList_inj] at same
    exact ⟨same, rfl⟩
  · exact absurd same (Compiler.append_ne_of_suffix (fileEndings_not_suffix e he e' he' ending)
      (fileEndings_not_suffix e' he' e he (Ne.symm ending)))

/-- The six names of one instance are different. -/
theorem nodup_fileNames (name : String) : (fileNames name).Nodup := by
  refine List.Nodup.map_on (fun e he e' he' same => ?_) (by decide)
  exact (fileName_inj he he' same).2

/-- No name of one instance is one of another. -/
theorem disjoint_fileNames (h : name ≠ name') : (fileNames name).Disjoint (fileNames name') := by
  intro n hn hn'
  obtain ⟨e, he, rfl⟩ := List.mem_map.1 hn
  obtain ⟨e', he', same⟩ := List.mem_map.1 hn'
  exact h (fileName_inj he' he same).1.symm

/-- **Each file ends in its name.** The draft of a configuration has an ending put behind, that of a
record has another extension, and the last dot of a record is the one of its ending. -/
theorem endsIn_instanceFiles (s : Settings) (h : '/' ∉ name.toList) :
    List.Forall₂ Path.EndsIn (s.instanceFiles name) (fileNames name) := by
  -- Three of the files are put into the write directory under their names.
  have below {ending : String} (he : '/' ∉ ending.toList) :
      (s.path ("dnsmasq-" ++ name ++ ending)).EndsIn ("dnsmasq-" ++ name ++ ending) :=
    ⟨Path.lastSegment_join _ (Compiler.isName_file h he).slashless, Compiler.isName_file h he⟩
  have draft : (Change.draftOf (s.path ("dnsmasq-" ++ name ++ ".conf"))).EndsIn
      ("dnsmasq-" ++ name ++ ".conf.pdconf.tmp") := by
    refine ⟨?_, Compiler.isName_file h (by decide)⟩
    rw [Change.draftOf, Path.lastSegment_append _ _ (by decide), (below (by decide)).1,
      ← String.toList_append, String.append_assoc]
    rfl
  exact .cons (below (by decide)) (.cons draft (.cons (below (by decide)) (.cons (below (by decide))
    (.cons (s.store.endsIn_pathOf h) (.cons (s.store.endsIn_draftOf h) .nil)))))

/-! ### No two files of instances are one -/

/-- **No two files of instances are one.** In one write directory, sections that are not one have
records of different keys, and neither the records nor their drafts are one file; and of instances
with different names the files are six each, and neither two of one instance nor one of each are one
file, whatever the names are like, as long as there is no slash in them. -/
theorem instanceFiles_apart (s : Settings) :
    (∀ id id' : SectionId, id ≠ id' → '/' ∉ id.name.toList → '/' ∉ id'.name.toList →
      id.fileKey ≠ id'.fileKey ∧
        [s.store.pathOf id, s.store.draftOf id, s.store.pathOf id', s.store.draftOf id'].Pairwise
          Path.Apart) ∧
      (∀ name name' : String, name ≠ name' → '/' ∉ name.toList → '/' ∉ name'.toList →
        (s.instanceFiles name).length = 6 ∧ (s.instanceFiles name).Nodup ∧
          (s.instanceFiles name).Disjoint (s.instanceFiles name') ∧
          (s.instanceFiles name ++ s.instanceFiles name').Pairwise Path.Apart) := by
  constructor
  · intro id id' ne h h'
    exact ⟨fun same => ne (SectionId.eq_of_fileKey_eq same), s.store.records_apart h h' ne⟩
  · intro name name' ne h h'
    -- All twelve names are different, so that any two of the twelve paths are apart.
    have ends := List.rel_append (s.endsIn_instanceFiles h) (s.endsIn_instanceFiles h')
    have distinct : (fileNames name ++ fileNames name').Nodup :=
      (nodup_fileNames name).append (nodup_fileNames name') (disjoint_fileNames ne)
    have apart := Path.pairwise_apart ends distinct
    obtain ⟨own, -, mixed⟩ := List.pairwise_append.1 apart
    refine ⟨rfl, own.imp Path.Apart.ne, fun p hp hp' => ?_, apart⟩
    exact (mixed p hp p hp').ne rfl

/-- Names that look like the endings of the files of others, or like nothing. -/
theorem instanceFiles_apart_endings :
    [RecordStore.pathOf ⟨"out/state"⟩ ⟨.dnsmasq, ".json"⟩,
        RecordStore.draftOf ⟨"out/state"⟩ ⟨.dnsmasq, ".json"⟩,
        RecordStore.pathOf ⟨"out/state"⟩ ⟨.dhcpPool, ".json"⟩,
        RecordStore.draftOf ⟨"out/state"⟩ ⟨.dhcpPool, ".json"⟩].Pairwise Path.Apart ∧
      (instanceFiles { writeDir := "out" } "" ++
        instanceFiles { writeDir := "out" } ".conf.pdconf.tmp").Pairwise Path.Apart ∧
      instanceFiles { writeDir := "out" } ".conf.pdconf.tmp" =
        ["out/dnsmasq-.conf.pdconf.tmp.conf", "out/dnsmasq-.conf.pdconf.tmp.conf.pdconf.tmp",
          "out/dnsmasq-.conf.pdconf.tmp.leases", "out/dnsmasq-.conf.pdconf.tmp.pid",
          "out/state/dnsmasq-.conf.pdconf.tmp.json",
          "out/state/dnsmasq-.conf.pdconf.tmp.json.tmp"] := by
  obtain ⟨records, files⟩ := instanceFiles_apart { writeDir := "out" }
  -- The directory of the records is spelled out here, so it has to be computed.
  have directory : Settings.store { writeDir := "out" } = ⟨"out/state"⟩ := by decide +kernel
  have kinds := (records ⟨.dnsmasq, ".json"⟩ ⟨.dhcpPool, ".json"⟩ (by decide) (by decide)
    (by decide)).2
  rw [directory] at kinds
  exact ⟨kinds, (files "" ".conf.pdconf.tmp" (by decide) (by decide) (by decide)).2.2.2,
    by decide +kernel⟩

end Settings

end RouterConf
