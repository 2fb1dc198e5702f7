import RouterConf.Proofs.Files.Changes

/-!
# Trees that agree up to the contents of files

Two trees correspond if they have the same directories and files at the same locations with related
contents. Operations look at contents only to carry them along, so on corresponding trees they have
the same outcome and leave corresponding trees. This is said for every operation and every change,
and carried over chains of steps by `Parallel.bind`.

The relation on contents is a parameter. Where it is equality, corresponding trees differ only in
how their entries are kept.

Main statements: `FileTree.Corresponds.locate_eq`, `Parallel.bind`, `Change.InParallel.replace`.
-/

namespace RouterConf

/-! ### Corresponding trees -/

section Entries

variable (R : FileContent → FileContent → Prop)

/-- Nothing, a directory, or files with related contents on both sides. -/
inductive EntriesCorrespond : Option FileEntry → Option FileEntry → Prop where
  | nothing : EntriesCorrespond none none
  | directory : EntriesCorrespond (some .directory) (some .directory)
  | file {c c' : FileContent} (h : R c c') : EntriesCorrespond (some (.file c)) (some (.file c'))

/-- The three ways in which entries correspond. -/
theorem EntriesCorrespond.cases {e e' : Option FileEntry} (h : EntriesCorrespond R e e') :
    e = none ∧ e' = none ∨ e = some .directory ∧ e' = some .directory ∨
      ∃ c c', R c c' ∧ e = some (.file c) ∧ e' = some (.file c') := by
  cases h with
  | nothing => exact .inl ⟨rfl, rfl⟩
  | directory => exact .inr (.inl ⟨rfl, rfl⟩)
  | file h => exact .inr (.inr ⟨_, _, h, rfl, rfl⟩)

/-- Entries with the same contents are the same. -/
theorem EntriesCorrespond.eq {e e' : Option FileEntry} (h : EntriesCorrespond Eq e e') :
    e = e' := by
  cases h with
  | nothing => rfl
  | directory => rfl
  | file h => rw [h]

/-- The same directories and files, with related contents. -/
structure FileTree.Corresponds (t t' : FileTree) : Prop where
  home : t'.home = t.home
  entry : ∀ l, EntriesCorrespond R (t.get? l) (t'.get? l)

/-- The same error, or corresponding trees. -/
inductive TreesCorrespond : Except OsError FileTree → Except OsError FileTree → Prop where
  | ok {t t' : FileTree} (h : t.Corresponds R t') : TreesCorrespond (.ok t) (.ok t')
  | error (e : OsError) : TreesCorrespond (.error e) (.error e)

/-- The two ways in which operations end alike. -/
theorem TreesCorrespond.cases {r r' : Except OsError FileTree} (h : TreesCorrespond R r r') :
    (∃ e, r = .error e ∧ r' = .error e) ∨
      ∃ t t', t.Corresponds R t' ∧ r = .ok t ∧ r' = .ok t' := by
  cases h with
  | ok h => exact .inr ⟨_, _, h, rfl, rfl⟩
  | error e => exact .inl ⟨e, rfl, rfl⟩

end Entries

variable {R : FileContent → FileContent → Prop} {t t' : FileTree} {p q : Path} {l : Location}

namespace FileTree

namespace Corresponds

/-- A tree corresponds to itself, if contents are related to themselves. -/
theorem refl (hR : ∀ c, R c c) (t : FileTree) : t.Corresponds R t := by
  refine ⟨rfl, fun l => ?_⟩
  rcases t.get? l with _ | c | _
  · exact .nothing
  · exact .file (hR c)
  · exact .directory

/-- Trees with the same entries correspond. -/
theorem of_get? (home : t'.home = t.home) (same : ∀ l, t'.get? l = t.get? l) :
    t.Corresponds Eq t' :=
  ⟨home, fun l => same l ▸ (refl (fun _ => rfl) t).entry l⟩

/-- Trees with the same entries correspond to the same trees. -/
theorem eq_trans {t'' : FileTree} (h : t.Corresponds Eq t') (h' : t'.Corresponds R t'') :
    t.Corresponds R t'' := by
  refine ⟨h'.home.trans h.home, fun l => ?_⟩
  rw [(h.entry l).eq]
  exact h'.entry l

/-- What is at a location of corresponding trees. -/
theorem cases (h : t.Corresponds R t') (l : Location) :
    t.get? l = none ∧ t'.get? l = none ∨
      t.get? l = some .directory ∧ t'.get? l = some .directory ∨
      ∃ c c', R c c' ∧ t.get? l = some (.file c) ∧ t'.get? l = some (.file c') :=
  (h.entry l).cases

/-- Corresponding entries may be put at one location of both trees. -/
theorem insert (h : t.Corresponds R t') (hl : l ≠ []) {e e' : FileEntry}
    (he : EntriesCorrespond R (some e) (some e')) :
    (t.insert l e).Corresponds R (t'.insert l e') := by
  refine ⟨h.home, fun l' => ?_⟩
  rw [get?_insert _ hl, get?_insert _ hl]
  split
  · exact he
  · exact h.entry l'

/-- One location of both trees may be emptied. -/
theorem erase (h : t.Corresponds R t') (hl : l ≠ []) : (t.erase l).Corresponds R (t'.erase l) := by
  refine ⟨h.home, fun l' => ?_⟩
  rw [get?_erase _ hl, get?_erase _ hl]
  split
  · exact .nothing
  · exact h.entry l'

/-! ### Resolution and status -/

/-- A way leads through directories, and these are the same. -/
theorem walk_eq (h : t.Corresponds R t') (start : Location) (segments : List String) :
    t.walk start segments = t'.walk start segments := by
  -- By induction on the segments; where the way starts changes with each of them.
  induction segments generalizing start with
  | nil => rfl
  | cons segment rest ih =>
    unfold walk
    split_ifs
    · exact ih start
    · exact ih _
    · rfl
    · -- Nothing and a file end the walk on both sides; a directory leads on.
      rcases h.cases (start ++ [segment]) with ⟨hs, hs'⟩ | ⟨hs, hs'⟩ | ⟨_, _, -, hs, hs'⟩ <;>
        rw [hs, hs']
      exact ih _

/-- **A path is resolved alike**: only directories matter to that. -/
theorem locate_eq (h : t.Corresponds R t') (p : Path) : t.locate p = t'.locate p := by
  unfold locate
  rw [h.home]
  simp only [h.walk_eq]

/-- A path denotes the same location in both trees. -/
theorem denotes_iff (h : t.Corresponds R t') : t.Denotes p l ↔ t'.Denotes p l := by
  unfold Denotes
  rw [h.locate_eq]

/-- An entry is refused on both sides for its name, or is of the same kind on both. -/
theorem entry?_cases (h : t.Corresponds R t') (d : Location) (n : String) :
    (∃ e, t.entry? d n = .error e ∧ t'.entry? d n = .error e) ∨
      t.entry? d n = .ok none ∧ t'.entry? d n = .ok none ∨
      t.entry? d n = .ok (some .directory) ∧ t'.entry? d n = .ok (some .directory) ∨
      ∃ c c', R c c' ∧ t.entry? d n = .ok (some (.file c)) ∧
        t'.entry? d n = .ok (some (.file c')) := by
  unfold entry?
  -- A name that is too long is refused before anything is looked up.
  split_ifs
  · exact .inl ⟨_, rfl, rfl⟩
  · right
    rcases h.cases (d ++ [n]) with ⟨hs, hs'⟩ | ⟨hs, hs'⟩ | ⟨c, c', hc, hs, hs'⟩ <;> rw [hs, hs']
    · exact .inl ⟨rfl, rfl⟩
    · exact .inr (.inl ⟨rfl, rfl⟩)
    · exact .inr (.inr ⟨c, c', hc, rfl, rfl⟩)

/-- What a path leads to is the same, up to the contents of a file. -/
theorem status_cases (h : t.Corresponds R t') (p : Path) :
    (∃ e, t.status p = .error e ∧ t'.status p = .error e) ∨
      t.status p = .ok .directory ∧ t'.status p = .ok .directory ∨
      ∃ c c', R c c' ∧ t.status p = .ok (.file c) ∧ t'.status p = .ok (.file c') := by
  unfold status
  rw [h.locate_eq]
  -- What a path leads to is decided by its last name, if it has one.
  rcases t'.locate p with e | ⟨d, n, slash⟩ | d
  · exact .inl ⟨e, rfl, rfl⟩
  · simp only [bind, Except.bind, pure, Except.pure]
    rcases h.entry?_cases d n with ⟨e, hs, hs'⟩ | ⟨hs, hs'⟩ | ⟨hs, hs'⟩ | ⟨c, c', hc, hs, hs'⟩ <;>
      rw [hs, hs']
    · exact .inl ⟨e, rfl, rfl⟩
    · exact .inl ⟨_, rfl, rfl⟩
    · exact .inr (.inl ⟨rfl, rfl⟩)
    · -- A slash after the name of a file is refused whatever the file holds.
      cases slash
      · exact .inr (.inr ⟨c, c', hc, rfl, rfl⟩)
      · exact .inl ⟨_, rfl, rfl⟩
  · exact .inr (.inl ⟨rfl, rfl⟩)

/-- With the same contents it is the same. -/
theorem status_eq (h : t.Corresponds Eq t') (p : Path) : t.status p = t'.status p := by
  rcases h.status_cases p with ⟨e, hs, hs'⟩ | ⟨hs, hs'⟩ | ⟨c, c', same, hs, hs'⟩ <;> rw [hs, hs']
  rw [same]

/-- Whether a directory is there does not depend on contents. -/
theorem isDirectory_eq (h : t.Corresponds R t') (p : Path) :
    t.isDirectory p = t'.isDirectory p := by
  unfold isDirectory
  rcases h.status_cases p with ⟨e, hs, hs'⟩ | ⟨hs, hs'⟩ | ⟨c, c', -, hs, hs'⟩ <;> rw [hs, hs']

/-! ### Operations -/

/-- To write related contents to one path. -/
theorem write (h : t.Corresponds R t') {c c' : FileContent} (hc : R c c') (p : Path) :
    TreesCorrespond R (t.write p c) (t'.write p c') := by
  unfold FileTree.write
  rw [h.locate_eq]
  -- Only a path that names an entry, without a slash after it, can be written to.
  rcases t'.locate p with e | ⟨d, n, _ | _⟩ | d
  · exact .error e
  · -- What is replaced has been a file on both sides, or on neither.
    have written := h.insert (show d ++ [n] ≠ [] by simp) (.file hc)
    simp only [bind, Except.bind, pure, Except.pure]
    rcases h.entry?_cases d n with ⟨e, hs, hs'⟩ | ⟨hs, hs'⟩ | ⟨hs, hs'⟩ | ⟨_, _, -, hs, hs'⟩ <;>
      rw [hs, hs']
    · exact .error e
    · exact .ok written
    · exact .error _
    · exact .ok written
  · exact .error _
  · exact .error _

/-- To remove a file from both trees. -/
theorem remove (h : t.Corresponds R t') (p : Path) :
    TreesCorrespond R (t.remove p) (t'.remove p) := by
  unfold FileTree.remove
  rw [h.locate_eq]
  rcases t'.locate p with e | ⟨d, n, slash⟩ | d
  · exact .error e
  · have removed := h.erase (show d ++ [n] ≠ [] by simp)
    simp only [bind, Except.bind, pure, Except.pure]
    rcases h.entry?_cases d n with ⟨e, hs, hs'⟩ | ⟨hs, hs'⟩ | ⟨hs, hs'⟩ | ⟨_, _, -, hs, hs'⟩ <;>
      rw [hs, hs']
    · exact .error e
    · exact .error _
    · exact .error _
    · cases slash
      · exact .ok removed
      · exact .error _
  · exact .error _

/-- To move a file in both trees. -/
theorem rename (h : t.Corresponds R t') (p q : Path) :
    TreesCorrespond R (t.rename p q) (t'.rename p q) := by
  unfold FileTree.rename
  rw [h.locate_eq, h.locate_eq]
  rcases t'.locate p with e | ⟨d, n, slash⟩ | d
  · exact .error e
  · rcases t'.locate q with e | ⟨d', n', slash'⟩ | d'
    · exact .error e
    · simp only [bind, Except.bind, pure, Except.pure]
      rcases h.entry?_cases d n with ⟨e, hs, hs'⟩ | ⟨hs, hs'⟩ | ⟨hs, hs'⟩ | ⟨c, c', hc, hs, hs'⟩ <;>
        rw [hs, hs']
      · exact .error e
      · exact .error _
      · exact .error _
      · -- The contents that are moved are related, as those of the source are.
        have moved := (h.erase (show d ++ [n] ≠ [] by simp)).insert
          (show d' ++ [n'] ≠ [] by simp) (.file hc)
        dsimp only
        rcases h.entry?_cases d' n' with
          ⟨e, hs, hs'⟩ | ⟨hs, hs'⟩ | ⟨hs, hs'⟩ | ⟨_, _, -, hs, hs'⟩ <;>
          rw [hs, hs'] <;> dsimp only
        · exact .error e
        · -- With a slash after it, the target would have to be a directory.
          split
          · exact .error _
          · exact .ok moved
        · split <;> exact .error _
        · split
          · exact .error _
          · exact .ok moved
    · exact .error _
  · rcases t'.locate q with e | ⟨d', n', slash'⟩ | d' <;> exact .error _

/-- To make one directory in both trees. -/
theorem makeDirectory (h : t.Corresponds R t') (p : Path) :
    TreesCorrespond R (t.makeDirectory p) (t'.makeDirectory p) := by
  unfold FileTree.makeDirectory
  rw [h.locate_eq]
  rcases t'.locate p with e | ⟨d, n, slash⟩ | d
  · exact .error e
  · have made := h.insert (show d ++ [n] ≠ [] by simp) EntriesCorrespond.directory
    simp only [bind, Except.bind, pure, Except.pure]
    rcases h.entry?_cases d n with ⟨e, hs, hs'⟩ | ⟨hs, hs'⟩ | ⟨hs, hs'⟩ | ⟨_, _, -, hs, hs'⟩ <;>
      rw [hs, hs']
    · exact .error e
    · exact .ok made
    · exact .error _
    · exact .error _
  · exact .error _

end Corresponds

/-- Making directories ends alike on corresponding trees and leaves corresponding trees. -/
theorem Corresponds.makeDirectoriesWith (fuel : Nat) {t t' : FileTree} (h : t.Corresponds R t')
    (p : Path) :
    (t.makeDirectoriesWith p fuel).1 = (t'.makeDirectoriesWith p fuel).1 ∧
      (t.makeDirectoriesWith p fuel).2.Corresponds R (t'.makeDirectoriesWith p fuel).2 := by
  -- By induction on the fuel: first the directory is tried, then the one above, then the directory
  -- again.
  induction fuel generalizing t t' p with
  | zero => exact ⟨rfl, h⟩
  | succ fuel ih =>
    unfold FileTree.makeDirectoriesWith
    rw [h.isDirectory_eq]
    split
    · exact ⟨rfl, h⟩
    -- Only a directory that is not found is looked into further.
    rcases (h.makeDirectory p).cases with ⟨e, hm, hm'⟩ | ⟨_, _, made, hm, hm'⟩
    · rw [hm, hm']
      cases e
      case notFound =>
        cases Path.parent? p with
        | none => exact ⟨rfl, h⟩
        | some parent =>
          dsimp only
          obtain ⟨same, above⟩ := ih h parent
          rcases hr : t.makeDirectoriesWith parent fuel with ⟨r, t₁⟩
          rcases hr' : t'.makeDirectoriesWith parent fuel with ⟨r', t₁'⟩
          rw [hr, hr'] at same above
          obtain rfl : r = r' := same
          cases r with
          | error e => exact ⟨rfl, above⟩
          | ok _ =>
            -- The directory above is there on both sides: the second try ends alike, too.
            dsimp only at above ⊢
            rw [above.isDirectory_eq]
            rcases (above.makeDirectory p).cases with ⟨e, hm, hm'⟩ | ⟨_, _, made, hm, hm'⟩
            · rw [hm, hm']
              dsimp only
              split <;> exact ⟨rfl, above⟩
            · rw [hm, hm']
              exact ⟨rfl, made⟩
      all_goals
        dsimp only
        split <;> exact ⟨rfl, h⟩
    · rw [hm, hm']
      exact ⟨rfl, made⟩

end FileTree

/-! ### Steps in parallel -/

section Steps

variable {ε σ σ' α α' β β' : Type} {S : σ → σ' → Prop} {A : α → α' → Prop} {B : β → β' → Prop}

/-- The same error, or related values; and related states in either case. -/
inductive ResultsAgree (S : σ → σ' → Prop) (A : α → α' → Prop) :
    EStateM.Result ε σ α → EStateM.Result ε σ' α' → Prop where
  | ok {a : α} {a' : α'} {s : σ} {s' : σ'} (ha : A a a') (hs : S s s') :
      ResultsAgree S A (.ok a s) (.ok a' s')
  | error (e : ε) {s : σ} {s' : σ'} (hs : S s s') : ResultsAgree S A (.error e s) (.error e s')

/-- **Steps that run in parallel**: from related states both end alike, in related states. -/
structure Parallel (S : σ → σ' → Prop) (A : α → α' → Prop) (m : EStateM ε σ α)
    (m' : EStateM ε σ' α') : Prop where
  run : ∀ {s s'}, S s s' → ResultsAgree S A (m s) (m' s')

/-- Steps that yield related values and change nothing run in parallel. -/
theorem Parallel.pure {a : α} {a' : α'} (h : A a a') :
    Parallel S A (Pure.pure a : EStateM ε σ α) (Pure.pure a' : EStateM ε σ' α') :=
  ⟨fun hs => .ok h hs⟩

/-- **Chains run in parallel** if their first steps do, and their rests from related values. -/
theorem Parallel.bind {m : EStateM ε σ α} {m' : EStateM ε σ' α'} {f : α → EStateM ε σ β}
    {f' : α' → EStateM ε σ' β'} (hm : Parallel S A m m')
    (hf : ∀ {a a'}, A a a' → Parallel S B (f a) (f' a')) :
    Parallel S B (m >>= f) (m' >>= f') := by
  refine ⟨fun {s s'} hs => ?_⟩
  -- The first steps end alike, so either both chains end there or both go on.
  have first := hm.run hs
  change ResultsAgree S B (EStateM.bind m f s) (EStateM.bind m' f' s')
  unfold EStateM.bind
  cases hr : m s <;> cases hr' : m' s' <;> rw [hr, hr'] at first <;> cases first
  · rename_i ha h
    exact (hf ha).run h
  · rename_i h
    exact .error _ h

end Steps

/-! ### Changes in parallel -/

namespace Change

/-- Changes that run in parallel on corresponding trees; their values do not matter. -/
abbrev InParallel (R : FileContent → FileContent → Prop) {α α' : Type} (m : Change α)
    (m' : Change α') : Prop :=
  Parallel (FileTree.Corresponds R) (fun _ _ => True) m m'

namespace InParallel

/-- Operations that end alike on corresponding trees are changes that run in parallel. -/
theorem ofStep {step step' : FileTree → Except OsError FileTree} (p : Path)
    (h : ∀ {t t'}, t.Corresponds R t' → TreesCorrespond R (step t) (step' t')) :
    InParallel R (Change.ofStep p step) (Change.ofStep p step') := by
  refine ⟨fun {t t'} ht => ?_⟩
  unfold Change.ofStep
  rcases (h ht).cases with ⟨e, hs, hs'⟩ | ⟨_, _, made, hs, hs'⟩ <;> rw [hs, hs']
  · exact .error _ ht
  · exact .ok trivial made

/-- To make directories for one path. -/
theorem makeDirectories (p : Path) :
    InParallel R (Change.makeDirectories p) (Change.makeDirectories p) := by
  refine ⟨fun {t t'} ht => ?_⟩
  unfold Change.makeDirectories FileTree.makeDirectories
  obtain ⟨same, made⟩ := ht.makeDirectoriesWith (p.length + 1) p
  rcases hr : t.makeDirectoriesWith p (p.length + 1) with ⟨r, t₁⟩
  rcases hr' : t'.makeDirectoriesWith p (p.length + 1) with ⟨r', t₁'⟩
  rw [hr, hr'] at same made
  obtain rfl : r = r' := same
  cases r with
  | error e => exact .error _ made
  | ok _ => exact .ok trivial made

/-- To make the directory of one path. -/
theorem ensureParent (p : Path) : InParallel R (Change.ensureParent p) (Change.ensureParent p) := by
  unfold Change.ensureParent
  split
  · exact .pure trivial
  · split
    · exact .pure trivial
    · exact makeDirectories _

/-- To write related texts to one path. -/
theorem write (p : Path) {s s' : String} (h : R (.text s) (.text s')) :
    InParallel R (Change.write p s) (Change.write p s') :=
  ofStep p fun ht => ht.write h p

/-- To move a file from one path to another. -/
theorem rename (p q : Path) : InParallel R (Change.rename p q) (Change.rename p q) :=
  ofStep q fun ht => ht.rename p q

/-- Steps that are undone when they fail. -/
theorem orUndo {step step' undo undo' : Change Unit} (hs : InParallel R step step')
    (hu : InParallel R undo undo') :
    InParallel R (Change.orUndo step undo) (Change.orUndo step' undo') := by
  refine ⟨fun {t t'} ht => ?_⟩
  have first := hs.run ht
  unfold Change.orUndo
  cases hr : step t <;> cases hr' : step' t' <;> rw [hr, hr'] at first <;> cases first
  · rename_i h
    exact .ok trivial h
  · -- The error that stands is that of the first step, however the undoing ends.
    rename_i t₁ t₁' h
    have second := hu.run h
    dsimp only
    cases hr : undo t₁ <;> cases hr' : undo' t₁' <;> rw [hr, hr'] at second <;> cases second
    · rename_i h
      exact .error _ h
    · rename_i h
      exact .error _ h

/-- **To replace one file by related texts** ends alike on corresponding trees. -/
theorem replace (p : Path) {s s' : String} (h : R (.text s) (.text s')) :
    InParallel R (Change.replace p s) (Change.replace p s') :=
  .bind (ensureParent p) fun _ => .bind (write _ h) fun _ =>
    orUndo (rename _ _) (ofStep _ fun ht => ht.remove _)

/-- To remove what may be there. -/
theorem removeIfPresent (p : Path) :
    InParallel R (Change.removeIfPresent p) (Change.removeIfPresent p) := by
  refine ⟨fun {t t'} ht => ?_⟩
  unfold Change.removeIfPresent
  rcases (ht.remove p).cases with ⟨e, hs, hs'⟩ | ⟨_, _, made, hs, hs'⟩ <;> rw [hs, hs']
  · -- A file that is not found counts as removed; every other refusal stands, and is the same.
    cases e
    case notFound => exact .ok trivial ht
    all_goals exact .error _ ht
  · exact .ok trivial made

end InParallel

end Change

end RouterConf
