import RouterConf.Proofs.Files.Listing
import RouterConf.Proofs.Section.Options
import RouterConf.Proofs.Text.ByteOrder

/-!
# What is loaded from a directory

A file is loaded by what it holds (`Source.FileOutcome`): a text that is no list of sections is an
error before any section is looked at, and otherwise the first section that is not valid is.

Of a directory, the files are loaded whose names end as configurations do
(`Source.IsConfigName`), in the order of the bytes of their names, one after the other up to the
first that fails (`Source.DirectoryOutcome`). A directory is listed in no particular order, and it
makes no difference (`Source.loadDirectory_relists`).

A file is passed over without an error if its path is longer than a system takes, since it cannot be
told that it is a file (`Source.loadDirectory_incomplete`); all others are loaded.

Main statement: `Source.loadDirectory_exact`.
-/

namespace RouterConf.Source

variable {t t' : FileTree} {p : Path} {l : Location} {n : String} {names : List String}

/-! ### One file -/

/-- **What comes of a file**, by what it holds. -/
inductive FileOutcome (source : Path) : FileContent → Except LoadError (List Section) → Prop where
  | unreadable (bytes : ByteArray) :
      FileOutcome source (.raw bytes) (.error (.io source .notText))
  /-- A text that is no list of sections, whatever sections could be made out in it. -/
  | unparsed {text : String} (h : RawSection.listOfText text = none) :
      FileOutcome source (.text text) (.error (.parse source))
  /-- All sections before one that is not valid are. -/
  | invalid {text : String} {before after : List RawSection} {raw : RawSection}
      {valid : List Section} {cause : ValidationError}
      (parsed : RawSection.listOfText text = some (before ++ raw :: after))
      (made : List.Forall₂ (fun raw s => Section.ofRaw source raw = .ok s) before valid)
      (failed : Section.ofRaw source raw = .error cause) :
      FileOutcome source (.text text) (.error (.invalid source cause))
  /-- Each section of the text, in the order of the text. -/
  | loaded {text : String} {raws : List RawSection} {sections : List Section}
      (parsed : RawSection.listOfText text = some raws)
      (made : List.Forall₂ (fun raw s => Section.ofRaw source raw = .ok s) raws sections)
      (sourced : ∀ s ∈ sections, s.source = source) :
      FileOutcome source (.text text) (.ok sections)

/-- What comes of a text is settled by its sections alone. -/
theorem fileOutcome_parse (source : Path) (text : String) :
    FileOutcome source (.text text) (parse source text) := by
  unfold parse
  cases parsed : RawSection.listOfText text with
  | none => exact .unparsed parsed
  | some raws =>
    dsimp only
    cases hm : raws.mapM (Section.ofRaw source) with
    | error cause =>
      -- The sections are made in their order, up to the first that is not valid.
      obtain ⟨before, raw, after, valid, rfl, made, failed⟩ := mapM_eq_error_iff.1 hm
      exact .invalid parsed made failed
    | ok sections =>
      refine .loaded parsed (mapM_eq_ok_iff.1 hm) fun s hs => ?_
      -- The path is handed to every section as its source.
      obtain ⟨raw, -, made⟩ := exists_of_mem_mapM hm hs
      obtain ⟨kind, options, -, -, rfl⟩ := Section.ofRaw_eq_ok made
      rfl

theorem fileOutcome_loadFile {c : FileContent} (h : t.status p = .ok (.file c)) :
    FileOutcome p c (loadFile t p) := by
  unfold loadFile FileTree.readText FileTree.read
  rw [h]
  cases c with
  | text s => exact fileOutcome_parse p s
  | raw bytes => exact .unreadable bytes

/-- A path that a system refuses is the error. -/
theorem loadFile_of_refusal? {cause : OsError} (h : p.refusal? = some cause) :
    loadFile t p = .error (.io p cause) := by
  rw [loadFile, FileTree.readText, FileTree.read, FileTree.status, FileTree.locate_of_refusal? h]
  rfl

/-! ### Names of configuration files -/

/-- A name with the extension `yaml` or `yml`, which does not stand alone. -/
def IsConfigName (n : String) : Prop :=
  ∃ stem, stem ≠ "" ∧ (n = stem ++ ".yaml" ∨ n = stem ++ ".yml")

/-- The extension of a name is what the name has behind its stem. -/
theorem cutExtension_toList_iff {extension : String} (plain : '.' ∉ extension.toList) :
    (Path.cutExtension n.toList).2 = some extension.toList ↔
      ∃ stem, stem ≠ "" ∧ n = stem ++ ("." ++ extension) := by
  rw [Path.cutExtension_eq_some_iff]
  constructor
  · rintro ⟨stem, nonempty, split, -⟩
    refine ⟨String.ofList stem, fun empty => nonempty (String.ofList_eq_empty_iff.1 empty), ?_⟩
    rw [← String.toList_inj, String.toList_append, String.toList_append, String.toList_ofList,
      split]
    rfl
  · rintro ⟨stem, nonempty, rfl⟩
    refine ⟨stem.toList, fun empty => nonempty (String.toList_eq_nil_iff.1 empty), ?_, plain⟩
    rw [String.toList_append, String.toList_append]
    rfl

/-- Whether a path is one of a configuration is settled by its last name, the directory
notwithstanding. -/
theorem isConfigPath_join_iff (base : Path) (hn : Path.IsName n) :
    isConfigPath (Path.join base n) = true ↔ IsConfigName n := by
  have last : (Path.join base n).lastSegment = n.toList := Path.lastSegment_join base hn.slashless
  have extension : (Path.join base n).extension? =
      (Path.cutExtension n.toList).2.map String.ofList := by
    rw [Path.extension?_eq (by rw [last]; exact hn.not_idle) (by rw [last]; exact hn.not_upward),
      last]
  -- Both extensions are looked for in the same way.
  have marks (w : String) (plain : '.' ∉ w.toList) :
      (Path.join base n).extension? = some w ↔ ∃ stem, stem ≠ "" ∧ n = stem ++ ("." ++ w) := by
    rw [← cutExtension_toList_iff plain, extension, Option.map_eq_some_iff]
    constructor
    · rintro ⟨cs, cut, rfl⟩
      rw [cut, String.toList_ofList]
    · intro cut
      exact ⟨_, cut, String.ofList_toList⟩
  rw [isConfigPath, Bool.or_eq_true, decide_eq_true_eq, decide_eq_true_eq,
    marks "yaml" (by decide), marks "yml" (by decide)]
  constructor
  · rintro (⟨stem, nonempty, rfl⟩ | ⟨stem, nonempty, rfl⟩)
    · exact ⟨stem, nonempty, .inl rfl⟩
    · exact ⟨stem, nonempty, .inr rfl⟩
  · rintro ⟨stem, nonempty, rfl | rfl⟩
    · exact .inl ⟨stem, nonempty, rfl⟩
    · exact .inr ⟨stem, nonempty, rfl⟩

/-! ### The files of a directory -/

/-- The names of the configuration files among those in a directory. -/
def configNames (t : FileTree) (p : Path) (names : List String) : List String :=
  (names.mergeSort (· ≤ ·)).filter fun n =>
    t.isFile (Path.join p n) && isConfigPath (Path.join p n)

/-- The paths are those of the names, in the same order. -/
theorem configFiles_eq (t : FileTree) (p : Path) (names : List String) :
    configFiles t p names = (configNames t p names).map (Path.join p) :=
  List.filter_map

/-- Names are sorted by the order of texts, in which any two can be compared. -/
theorem pairwise_le_mergeSort (names : List String) :
    (names.mergeSort (· ≤ ·)).Pairwise (· ≤ ·) := by
  refine (List.pairwise_mergeSort ?_ ?_ names).imp fun le => of_decide_eq_true le
  · intro a b c hab hbc
    exact decide_eq_true (String.le_trans (of_decide_eq_true hab) (of_decide_eq_true hbc))
  · intro a b
    simpa using String.le_total a b

/-- Names are sorted alike in whatever order they come. -/
theorem mergeSort_eq_of_perm {names' : List String} (h : names.Perm names') :
    names.mergeSort (· ≤ ·) = names'.mergeSort (· ≤ ·) := by
  -- Two sorted lists of the same names are one list, since names that are equal in the order are
  -- equal.
  refine List.Perm.eq_of_pairwise (fun _ _ _ _ => String.le_antisymm) (pairwise_le_mergeSort names)
    (pairwise_le_mergeSort names') ?_
  exact (List.mergeSort_perm _ _).trans (h.trans (List.mergeSort_perm _ _).symm)

/-- Names that are not repeated are sorted by their bytes. -/
theorem pairwise_configNames (once : names.Nodup) (t : FileTree) (p : Path) :
    (configNames t p names).Pairwise fun n n' => Text.bytes n < Text.bytes n' := by
  -- Sorting leaves names that are equal next to each other, so that only distinct ones ascend
  -- strictly.
  have distinct : (names.mergeSort (· ≤ ·)).Pairwise (· ≠ ·) :=
    (List.mergeSort_perm names _).nodup_iff.2 once
  have ascending := (pairwise_le_mergeSort names).and distinct
  refine (ascending.imp fun {n n'} h => ?_).filter _
  exact Text.bytes_lt_of_lt (String.not_le.1 fun ge => h.2 (String.le_antisymm h.1 ge))

/-- **The configuration files of a directory** at the location `l`, in the order in which they are
loaded: all of them whose paths a system takes. -/
structure ConfigListing (t : FileTree) (p : Path) (l : Location) (files : List String) : Prop where
  ascending : files.Pairwise fun n n' => Text.bytes n < Text.bytes n'
  mem_iff : ∀ n, n ∈ files ↔ (∃ c, t.get? (l ++ [n]) = some (.file c)) ∧ IsConfigName n ∧
    (Path.join p n).utf8ByteSize ≤ FileTree.maxPath

/-- The names that are kept are those of the configuration files, for whether a path below the
directory is one of a file is told by the entry and by the length of the path. -/
theorem configListing_configNames (ht : t.WellFormed) (hp : p.refusal? = none)
    (hr : t.reach p = .ok l) : ConfigListing t p l (configNames t p (t.names l)) := by
  refine ⟨pairwise_configNames (FileTree.nodup_names ht l) t p, fun n => ?_⟩
  rw [configNames, List.mem_filter, List.mem_mergeSort, FileTree.mem_names_iff_get? ht,
    Bool.and_eq_true]
  constructor
  · rintro ⟨⟨e, there⟩, file, marked⟩
    have named := FileTree.isEntryName_of_get? ht there
    obtain ⟨held, fits⟩ := (FileTree.isFile_join_iff hp hr named).1 file
    exact ⟨held, (isConfigPath_join_iff p named.toIsName).1 marked, fits⟩
  · rintro ⟨⟨c, held⟩, marked, fits⟩
    have named := FileTree.isEntryName_of_get? ht held
    exact ⟨⟨_, held⟩, (FileTree.isFile_join_iff hp hr named).2 ⟨⟨c, held⟩, fits⟩,
      (isConfigPath_join_iff p named.toIsName).2 marked⟩

/-! ### One directory -/

/-- **What comes of a directory** with these files, by what comes of each of them. -/
inductive DirectoryOutcome (load : String → Except LoadError (List Section)) (files : List String) :
    Except LoadError (List Section) → Prop where
  /-- All files before one that fails are loaded. -/
  | failed {before after : List String} {n : String} {sections : List (List Section)}
      {e : LoadError} (split : files = before ++ n :: after)
      (made : List.Forall₂ (fun n ss => load n = .ok ss) before sections)
      (failed : load n = .error e) : DirectoryOutcome load files (.error e)
  | loaded {sections : List (List Section)}
      (made : List.Forall₂ (fun n ss => load n = .ok ss) files sections) :
      DirectoryOutcome load files (.ok sections.flatten)

/-- The loop over the files ends at the first that fails. -/
theorem directoryOutcome_mapM (load : String → Except LoadError (List Section))
    (files : List String) :
    DirectoryOutcome load files ((files.mapM load).map List.flatten) := by
  cases h : files.mapM load with
  | error e =>
    obtain ⟨before, n, after, sections, split, made, failed⟩ := mapM_eq_error_iff.1 h
    exact .failed split made failed
  | ok sections => exact .loaded (mapM_eq_ok_iff.1 h)

/-- A directory is loaded file by file, each under its path below the directory. -/
theorem loadDirectory_eq (hp : t.readDirectory p = .ok names) : loadDirectory t p =
    ((configNames t p names).mapM fun n => loadFile t (Path.join p n)).map List.flatten := by
  rw [loadDirectory, hp]
  dsimp only
  rw [configFiles_eq, List.mapM_map]
  rfl

/-- **A directory is loaded alike in whatever order it is listed.** -/
theorem loadDirectory_relists (ht : t.WellFormed) (h : t.Relists t') (p : Path) :
    loadDirectory t' p = loadDirectory t p := by
  have status := (h.corresponds ht).status_eq
  have file : loadFile t' = loadFile t := by
    funext q
    rw [loadFile, loadFile, FileTree.readText, FileTree.readText, FileTree.read, FileTree.read,
      status]
  have isFile (q : Path) : t'.isFile q = t.isFile q := by
    rw [FileTree.isFile, FileTree.isFile, status]
  rcases h.readDirectory ht p with ⟨e, hd, hd'⟩ | ⟨l, hd, hd'⟩
  · rw [loadDirectory, loadDirectory, hd, hd']
  · -- The listings differ in their order only, which sorting makes up for.
    have sorted : configNames t' p (t'.names l) = configNames t p (t.names l) := by
      simp only [configNames, mergeSort_eq_of_perm (h.names l), isFile]
    rw [loadDirectory_eq hd, loadDirectory_eq hd', sorted, file]

/-- **What is loaded from a directory.** In whatever order it is listed, its configuration files are
loaded in the order of the bytes of their names, up to the first that fails, each by what it holds
and with its path as the source of its sections. Nothing else in the directory matters. -/
theorem loadDirectory_exact (ht : t.WellFormed) (hp : t.isDirectory p = true) :
    (∀ t', t.Relists t' → loadDirectory t' p = loadDirectory t p) ∧
    ∃ l files, t.reach p = .ok l ∧ ConfigListing t p l files ∧
      DirectoryOutcome (fun n => loadFile t (Path.join p n)) files (loadDirectory t p) ∧
      ∀ n ∈ files, ∃ c, t.get? (l ++ [n]) = some (.file c) ∧
        FileOutcome (Path.join p n) c (loadFile t (Path.join p n)) := by
  obtain ⟨accepted, l, hr, hd⟩ := FileTree.exists_reach_of_isDirectory hp
  have listing := configListing_configNames ht accepted hr
  refine ⟨fun t' h => loadDirectory_relists ht h p, l, _, hr, listing, ?_, fun n hn => ?_⟩
  · rw [loadDirectory_eq hd]
    exact directoryOutcome_mapM _ _
  · obtain ⟨⟨c, held⟩, -, fits⟩ := (listing.mem_iff n).1 hn
    have named := FileTree.isEntryName_of_get? ht held
    refine ⟨c, held, fileOutcome_loadFile ?_⟩
    rw [FileTree.status_join hr named ((FileTree.refusal?_join accepted named).2 fits), held]
    rfl

/-! ### A directory that is loaded -/

/-- A directory with two configurations of no sections, the later one listed first, another file,
and a directory that is named like a configuration. -/
def sampleDirectory : FileTree where
  home := []
  entries := [(["conf"], .directory), (["conf", "20.yml"], .file (.text "")),
    (["conf", "10.yaml"], .file (.text "")), (["conf", "README.md"], .file (.text "")),
    (["conf", "old.yaml"], .directory)]

/-- Listed in the opposite order, the directory is loaded alike, from the files that it has. -/
theorem loadDirectory_exact_sample :
    loadDirectory { sampleDirectory with entries := sampleDirectory.entries.reverse } "conf" =
        loadDirectory sampleDirectory "conf" ∧
      ∃ l files, sampleDirectory.reach "conf" = .ok l ∧
        ConfigListing sampleDirectory "conf" l files := by
  have sample := loadDirectory_exact (t := sampleDirectory) (p := "conf") (by decide) rfl
  obtain ⟨relisted, l, files, reached, listing, -⟩ := sample
  exact ⟨relisted _ ⟨rfl, List.reverse_perm _⟩, l, files, reached, listing⟩

/-! ### A directory with a file that is passed over -/

/-- A configuration of one section. -/
def oneDomain : String :=
  "- kind: dhcp\n  type: domain\n  name: n\n"

/-- A directory with one configuration. -/
def oneFile : FileTree where
  home := []
  entries := [(["d"], .directory), (["d", "x.yaml"], .file (.text oneDomain))]

/-- A path to the directory that goes on the spot first. -/
def winding : (steps : Nat) → Path
  | 0 => "d"
  | steps + 1 => "./" ++ winding steps

/-- Each step on the spot makes the path longer by two bytes, -/
theorem utf8ByteSize_winding (steps : Nat) : (winding steps).utf8ByteSize = 2 * steps + 1 := by
  induction steps with
  | zero => rfl
  | succ steps ih =>
    rw [winding, String.utf8ByteSize_append, ih]
    change 2 + _ = _
    omega

/-- and by a segment that says nothing. -/
theorem segments_winding (steps : Nat) :
    (winding steps).segments = List.replicate steps ['.'] ++ [['d']] := by
  induction steps with
  | zero => rfl
  | succ steps ih =>
    rw [List.replicate_succ, List.cons_append, ← ih, winding, Path.segments, String.toList_append]
    exact Text.splitOn_append_cons ['.'] _

/-- A system takes the path up to the longest that fits, -/
theorem refusal?_winding {steps : Nat} (h : 2 * steps + 1 ≤ FileTree.maxPath) :
    (winding steps).refusal? = none := by
  have null : '\x00' ∉ (winding steps).toList := by
    clear h
    induction steps with
    | zero => decide
    | succ steps ih => simp [winding, String.toList_append, ih]
  unfold Path.refusal?
  rw [if_neg (by simpa using null), if_neg (by rw [utf8ByteSize_winding]; omega)]

/-- and by it finds the directory. -/
theorem locate_winding {steps : Nat} (h : 2 * steps + 1 ≤ FileTree.maxPath) :
    oneFile.locate (winding steps) = .ok (.entry [] "d" false) := by
  have split := segments_winding steps
  have last : (winding steps).lastSegment = ['d'] := by
    rw [Path.lastSegment, split, List.getLastD_concat]
  have directory : oneFile.directoryOf (winding steps) = .ok [] := by
    have silent : ∀ s ∈ List.replicate steps ['.'], Path.isIdle s = true := by
      intro s hs
      rw [List.eq_of_mem_replicate hs]
      rfl
    rw [FileTree.directoryOf, Path.above_eq split, FileTree.walk_idle _ _ silent]
    split_ifs <;> rfl
  rw [FileTree.locate_eq (by rw [last]; rfl), refusal?_winding h, directory, last]
  rfl

/-- **A file that cannot be loaded may be passed over.** By a path that is just short enough, a
directory can be listed, and the path of a file in it is too long. -/
theorem loadDirectory_incomplete :
    ¬ ∀ (t : FileTree) (p : Path) (l : Location) (n : String) (c : FileContent) (e : LoadError),
      t.WellFormed → t.isDirectory p = true → t.reach p = .ok l →
        t.get? (l ++ [n]) = some (.file c) → IsConfigName n →
          loadFile t (Path.join p n) = .error e → ∃ e', loadDirectory t p = .error e' := by
  intro complete
  have located : oneFile.locate (winding 2045) = .ok (.entry [] "d" false) :=
    locate_winding (by decide)
  have reached : oneFile.reach (winding 2045) = .ok ["d"] := FileTree.reach_of_locate located
  have directory : oneFile.isDirectory (winding 2045) = true :=
    FileTree.isDirectory_of_denotes ⟨[], "d", located, by decide, rfl⟩ rfl
  -- The directory is found by a path of 4091 bytes, which leaves no room for the name of the file.
  have long : FileTree.maxPath < (Path.join (winding 2045) "x.yaml").utf8ByteSize := by
    have below := Path.utf8ByteSize_add_le_join (q := "x.yaml") rfl (winding 2045)
    rw [utf8ByteSize_winding] at below
    exact Nat.lt_of_lt_of_le (by decide) below
  obtain ⟨cause, refused⟩ : ∃ cause, (Path.join (winding 2045) "x.yaml").refusal? = some cause := by
    refine Option.ne_none_iff_exists'.1 fun accepted => ?_
    have short := (FileTree.refusal?_join (refusal?_winding (by decide)) (by decide)).1 accepted
    exact absurd long (Nat.not_lt.2 short)
  obtain ⟨e, hd⟩ := complete oneFile (winding 2045) ["d"] "x.yaml" _ _ (by decide) directory reached
    rfl ⟨"x", by decide, .inl rfl⟩ (loadFile_of_refusal? refused)
  -- The only file is not among those that are loaded.
  obtain ⟨accepted, l, hr, listed⟩ := FileTree.exists_reach_of_isDirectory directory
  obtain rfl := Except.ok.inj (reached.symm.trans hr)
  have none : configNames oneFile (winding 2045) (oneFile.names ["d"]) = [] := by
    refine List.eq_nil_iff_forall_not_mem.2 fun n hn => ?_
    have listing := configListing_configNames (by decide) accepted hr
    obtain ⟨⟨c, held⟩, -, fits⟩ := (listing.mem_iff n).1 hn
    have only : n = "x.yaml" ∧ c = .text oneDomain := by
      rw [FileTree.get?_eq_some_iff (by decide) (by simp)] at held
      simpa [oneFile] using held
    rw [only.1] at fits
    exact absurd long (Nat.not_lt.2 fits)
  rw [loadDirectory_eq listed, none] at hd
  cases hd

end RouterConf.Source
