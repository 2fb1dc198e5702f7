import RouterConf.Proofs.Files.Footprint

/-!
# What single operations on files do

An operation that succeeds puts an entry at a location or takes one away. Each has one statement
that says at which location, what was there, and which tree is left; that is all that later proofs
use of it. Trees that differ by one file or by one new directory change only what a path to it
denotes.

Main statements: `FileTree.write_ok`, `FileTree.remove_ok`, `FileTree.rename_ok`,
`FileTree.changesOnly_makeDirectories`, `FileTree.SamePlace.denotes_iff`.
-/

namespace RouterConf.FileTree

variable {t t' : FileTree} {p q : Path} {ps : List Path} {l : Location}

/-! ### One entry more or less -/

/-- A file does not take the place of a directory. -/
theorem grows_insert_file (hl : l ≠ []) (hn : t.get? l ≠ some .directory) (c : FileContent) :
    Grows t (t.insert l (.file c)) := by
  refine ⟨rfl, fun {l'} hl' => ?_⟩
  rw [get?_insert t hl, if_neg, hl']
  rintro rfl
  exact hn hl'

/-- A new file is at the location of one path. -/
theorem changesOnly_insert_file (hd : t.Denotes p l) (hn : t.get? l ≠ some .directory)
    (c : FileContent) (hp : p ∈ ps) : ChangesOnly ps t (t.insert l (.file c)) := by
  have grows := grows_insert_file hd.ne_nil hn c
  -- Any other location is as it was, and this one is denoted by one of the paths.
  refine ⟨grows, fun {l'} hl' => .inl ?_⟩
  rw [get?_insert t hd.ne_nil, if_neg]
  rintro rfl
  exact hl' p hp (grows.denotes hd)

/-- A file that goes takes no directory with it. -/
theorem grows_erase_file (hl : l ≠ []) {c : FileContent} (hc : t.get? l = some (.file c)) :
    Grows t (t.erase l) := by
  refine ⟨rfl, fun {l'} hl' => ?_⟩
  rw [get?_erase t hl, if_neg, hl']
  rintro rfl
  -- The entry that goes is a file, so it is not the directory in question.
  rw [hc] at hl'
  cases hl'

/-- A file that goes has been at the location of one path. -/
theorem changesOnly_erase_file (hd : t.Denotes p l) {c : FileContent}
    (hc : t.get? l = some (.file c)) (hp : p ∈ ps) : ChangesOnly ps t (t.erase l) := by
  have grows := grows_erase_file hd.ne_nil hc
  refine ⟨grows, fun {l'} hl' => .inl ?_⟩
  rw [get?_erase t hd.ne_nil, if_neg]
  rintro rfl
  exact hl' p hp (grows.denotes hd)

/-- A new directory adds to those that there were. -/
theorem grows_insert_directory (hl : l ≠ []) (t : FileTree) :
    Grows t (t.insert l .directory) := by
  refine ⟨rfl, fun {l'} hl' => ?_⟩
  rw [get?_insert t hl]
  split
  · rfl
  · exact hl'

/-- A new directory where nothing was is no change to any path. -/
theorem changesOnly_insert_directory (hn : t.get? l = none) (ps : List Path) :
    ChangesOnly ps t (t.insert l .directory) := by
  have hl : l ≠ [] := by
    rintro rfl
    simp at hn
  refine ⟨grows_insert_directory hl t, fun {l'} _ => ?_⟩
  rw [get?_insert t hl]
  split
  · -- The only location that differs is that of the new directory.
    rename_i heq
    rw [heq]
    exact .inr ⟨hn, rfl⟩
  · exact .inl rfl

/-! ### Operations -/

/-- What is under a name is looked up if the name is not too long. -/
theorem entry?_eq_ok {directory : Location} {name : String} {e : Option FileEntry}
    (h : t.entry? directory name = .ok e) :
    name.utf8ByteSize ≤ maxName ∧ e = t.get? (directory ++ [name]) := by
  unfold entry? at h
  split_ifs at h with hn
  cases h
  exact ⟨by omega, rfl⟩

/-- A file that is written is at the location of its path, which was no directory. -/
theorem write_ok {c : FileContent} (h : t.write p c = .ok t') :
    ∃ l, t.Denotes p l ∧ t.get? l ≠ some .directory ∧ t' = t.insert l (.file c) := by
  unfold write at h
  rcases hl : t.locate p with e | ⟨d, n, _ | _⟩ | d
  · simp [hl, bind, Except.bind] at h
  · rcases he : t.entry? d n with e | e
    · simp [hl, he, bind, Except.bind] at h
    · obtain ⟨hn, rfl⟩ := entry?_eq_ok he
      refine ⟨d ++ [n], ⟨d, n, hl, hn, rfl⟩, ?_⟩
      -- Nothing or a file may be replaced, a directory may not.
      rcases hg : t.get? (d ++ [n]) with _ | c' | _ <;>
        simp [hl, he, hg, bind, Except.bind, pure, Except.pure] at h
      · exact ⟨by simp, h.symm⟩
      · exact ⟨by simp, h.symm⟩
  · simp [hl, bind, Except.bind] at h
  · simp [hl, bind, Except.bind] at h

/-- A file that is removed was at the location of its path. -/
theorem remove_ok (h : t.remove p = .ok t') :
    ∃ l c, t.Denotes p l ∧ t.get? l = some (.file c) ∧ t' = t.erase l := by
  unfold remove at h
  rcases hl : t.locate p with e | ⟨d, n, slash⟩ | d
  · simp [hl, bind, Except.bind] at h
  · rcases he : t.entry? d n with e | e
    · simp [hl, he, bind, Except.bind] at h
    · obtain ⟨hn, rfl⟩ := entry?_eq_ok he
      rcases hg : t.get? (d ++ [n]) with _ | c | _
      · simp [hl, he, hg, bind, Except.bind] at h
      · cases slash
        · simp [hl, he, hg, bind, Except.bind, pure, Except.pure] at h
          exact ⟨d ++ [n], c, ⟨d, n, hl, hn, rfl⟩, hg, h.symm⟩
        · simp [hl, he, hg, bind, Except.bind] at h
      · simp [hl, he, hg, bind, Except.bind] at h
  · simp [hl, bind, Except.bind] at h

/-- A file that is there can be removed. -/
theorem remove_of_file {c : FileContent} (hd : t.Denotes p l) (hc : t.get? l = some (.file c)) :
    t.remove p = .ok (t.erase l) := by
  obtain ⟨d, n, hl, hn, rfl⟩ := hd
  simp [remove, hl, entry?, Nat.not_lt.2 hn, hc, bind, Except.bind, pure, Except.pure]

/-- A file that is not there is not found when it is to be removed. -/
theorem remove_of_none (hd : t.Denotes p l) (hn : t.get? l = none) :
    t.remove p = .error .notFound := by
  obtain ⟨d, n, hl, hsize, rfl⟩ := hd
  simp [remove, hl, entry?, Nat.not_lt.2 hsize, hn, bind, Except.bind]

/-- Something is found at a path just if its location is taken. -/
theorem pathExists_of_denotes (hd : t.Denotes p l) : t.pathExists p = (t.get? l).isSome := by
  obtain ⟨d, n, hl, hsize, rfl⟩ := hd
  rcases he : t.get? (d ++ [n]) with _ | _ | _ <;>
    simp [pathExists, status, hl, entry?, Nat.not_lt.2 hsize, he, bind, Except.bind, pure,
      Except.pure]

/-- A path to the location of a directory is to a directory. -/
theorem isDirectory_of_denotes (hd : t.Denotes p l) (there : t.get? l = some .directory) :
    t.isDirectory p = true := by
  obtain ⟨d, n, hl, hsize, rfl⟩ := hd
  simp [isDirectory, status, hl, entry?, Nat.not_lt.2 hsize, there, bind, Except.bind, pure,
    Except.pure]

/-- Nothing is found at a path whose location is empty. -/
theorem pathExists_eq_false (hd : t.Denotes p l) (hn : t.get? l = none) :
    t.pathExists p = false := by
  rw [pathExists_of_denotes hd, hn]
  rfl

/-- Whether something is there does not depend on why it is not. -/
theorem pathExists_congr (h : (t.status p).toOption = (t'.status q).toOption) :
    t.pathExists p = t'.pathExists q := by
  unfold pathExists
  cases hs : t.status p <;> cases hs' : t'.status q <;> rw [hs, hs'] at h <;> first | rfl | cases h

/-- A file that cannot be removed because it is not found is not there. -/
theorem pathExists_of_remove_eq_notFound (h : t.remove p = .error .notFound) :
    t.pathExists p = false := by
  unfold remove at h
  unfold pathExists status
  rcases hl : t.locate p with e | ⟨d, n, slash⟩ | d
  · simp [bind, Except.bind]
  · rcases he : t.entry? d n with e | _ | c | _
    · simp [he, bind, Except.bind]
    · simp [he, bind, Except.bind]
    · cases slash <;> simp [hl, he, bind, Except.bind, pure, Except.pure] at h
    · simp [hl, he, bind, Except.bind] at h
  · simp [hl, bind, Except.bind] at h

/-- What is there without an entry was there with it. -/
theorem grows_of_erase (hl : l ≠ []) : Grows (t.erase l) t := by
  refine ⟨rfl, fun {l'} hl' => ?_⟩
  rw [get?_erase t hl] at hl'
  split_ifs at hl'
  exact hl'

/-- Without a file, every path that does not denote it leads where it led, or still nowhere. -/
theorem toOption_status_erase {c : FileContent} (hl : l ≠ []) (hc : t.get? l = some (.file c))
    (hp : ¬ t.Denotes p l) : ((t.erase l).status p).toOption = (t.status p).toOption := by
  unfold status
  rcases he : t.locate p with e | target
  · -- The two may fail for different reasons: what was no directory is now missing.
    rcases he' : (t.erase l).locate p with e' | target
    · rfl
    · rw [(grows_of_erase hl).locate he'] at he
      cases he
  rw [(grows_erase_file hl hc).locate he]
  rcases target with ⟨d, n, slash⟩ | d
  · by_cases hn : maxName < n.utf8ByteSize
    · simp [bind, Except.bind, entry?, hn]
    simp only [bind, Except.bind, entry?, hn, if_false]
    rw [get?_erase t hl]
    by_cases hd : d ++ [n] = l
    · -- With a slash after its name, the file was not what the path asks for either.
      rw [if_pos hd, hd, hc]
      cases slash
      · exact absurd ⟨d, n, he, Nat.not_lt.1 hn, hd.symm⟩ hp
      · rfl
    · rw [if_neg hd]
  · rfl

/-- A file that is moved was at the location of the one path and is at that of the other. -/
theorem rename_ok (h : t.rename p q = .ok t') :
    ∃ l l' c, t.Denotes p l ∧ t.Denotes q l' ∧ t.get? l = some (.file c) ∧
      t.get? l' ≠ some .directory ∧ t' = (t.erase l).insert l' (.file c) := by
  unfold rename at h
  rcases hp : t.locate p with e | ⟨d, n, slash⟩ | d
  · simp [hp, bind, Except.bind] at h
  · -- The target is looked at next, and only then whether there is a file to move.
    rcases hq : t.locate q with e | ⟨d', n', slash'⟩ | d'
    · simp [hp, hq, bind, Except.bind] at h
    · rcases he : t.entry? d n with e | e
      · simp [hp, hq, he, bind, Except.bind] at h
      · obtain ⟨hn, rfl⟩ := entry?_eq_ok he
        rcases hg : t.get? (d ++ [n]) with _ | c | _
        · simp [hp, hq, he, hg, bind, Except.bind] at h
        · rcases he' : t.entry? d' n' with e | e
          · simp [hp, hq, he, hg, he', bind, Except.bind] at h
          · obtain ⟨hn', rfl⟩ := entry?_eq_ok he'
            cases slash <;> cases slash' <;>
              simp [hp, hq, he, hg, he', bind, Except.bind, pure, Except.pure] at h
            refine ⟨d ++ [n], d' ++ [n'], c, ⟨d, n, hp, hn, rfl⟩, ⟨d', n', hq, hn', rfl⟩, hg, ?_⟩
            -- The target may be a file or nothing.
            rcases hg' : t.get? (d' ++ [n']) with _ | c' | _ <;> simp [hg'] at h
            · exact ⟨by simp, h.symm⟩
            · exact ⟨by simp, h.symm⟩
        · simp [hp, hq, he, hg, bind, Except.bind] at h
    · simp [hp, hq, bind, Except.bind] at h
  · rcases hq : t.locate q with e | ⟨d', n', slash'⟩ | d' <;>
      simp [hp, hq, bind, Except.bind] at h

/-- A directory that is made was not there, with or without a slash after its name. -/
theorem makeDirectory_ok (h : t.makeDirectory p = .ok t') :
    ∃ d n slash, t.locate p = .ok (.entry d n slash) ∧ n.utf8ByteSize ≤ maxName ∧
      t.get? (d ++ [n]) = none ∧ t' = t.insert (d ++ [n]) .directory := by
  unfold makeDirectory at h
  rcases hl : t.locate p with e | ⟨d, n, slash⟩ | d
  · simp [hl, bind, Except.bind] at h
  · rcases he : t.entry? d n with e | e
    · simp [hl, he, bind, Except.bind] at h
    · obtain ⟨hn, rfl⟩ := entry?_eq_ok he
      rcases hg : t.get? (d ++ [n]) with _ | e <;>
        simp [hl, he, hg, bind, Except.bind, pure, Except.pure] at h
      exact ⟨d, n, slash, rfl, hn, hg, h.symm⟩
  · simp [hl, bind, Except.bind] at h

/-- So no path is affected by it. -/
theorem changesOnly_makeDirectory (h : t.makeDirectory p = .ok t') (ps : List Path) :
    ChangesOnly ps t t' := by
  obtain ⟨d, n, -, -, -, free, rfl⟩ := makeDirectory_ok h
  exact changesOnly_insert_directory free ps

/-- **Making directories is making one after the other**, whether it succeeds or not: what is true
of making one, and for a path if it is for its parent, is true of making all of them. -/
theorem makeDirectoriesWith_induct {R : Path → FileTree → FileTree → Prop}
    (refl : ∀ p t, R p t t) (trans : ∀ {p t t₁ t'}, R p t t₁ → R p t₁ t' → R p t t')
    (one : ∀ {p t t'}, t.makeDirectory p = .ok t' → R p t t')
    (parent : ∀ {p q t t'}, Path.parent? p = some q → R q t t' → R p t t')
    (fuel : Nat) (t : FileTree) (p : Path) : R p t (t.makeDirectoriesWith p fuel).2 := by
  induction fuel generalizing t p with
  | zero => exact refl p t
  | succ fuel ih =>
    unfold makeDirectoriesWith
    split
    · exact refl p t
    split
    · exact one ‹_›
    · split
      · exact refl p t
      · -- The directory above is made first, with less fuel, and then this one is tried again.
        rename_i above named
        have made := parent named (ih t above)
        split
        · rename_i heq
          rw [heq] at made
          exact made
        · rename_i heq
          rw [heq] at made
          split
          · exact trans made (one ‹_›)
          · split <;> exact made
    · split <;> exact refl p t

/-- Making directories touches no file, whether it succeeds or not. -/
theorem changesOnly_makeDirectoriesWith (fuel : Nat) (t : FileTree) (p : Path) (ps : List Path) :
    ChangesOnly ps t (t.makeDirectoriesWith p fuel).2 :=
  makeDirectoriesWith_induct (R := fun _ => ChangesOnly ps) (fun _ => ChangesOnly.refl ps)
    ChangesOnly.trans (fun made => changesOnly_makeDirectory made ps) (fun _ made => made) fuel t p

/-- The same for all directories above a path. -/
theorem changesOnly_makeDirectories (t : FileTree) (p : Path) (ps : List Path) :
    ChangesOnly ps t (t.makeDirectories p).2 :=
  changesOnly_makeDirectoriesWith _ t p ps

/-! ### Paths to one place -/

/-- Two paths are to the same place: they are one path, or they denote one location. -/
def SamePlace (t : FileTree) (p q : Path) : Prop :=
  p = q ∨ ∃ l, t.Denotes p l ∧ t.Denotes q l

namespace SamePlace

/-- Paths to one place denote the same. -/
theorem denotes_iff (h : t.SamePlace p q) : t.Denotes p l ↔ t.Denotes q l := by
  rcases h with rfl | ⟨l', hp, hq⟩
  · rfl
  · constructor
    · intro hl
      rwa [hl.unique hp]
    · intro hl
      rwa [hl.unique hq]

/-- So something is at both or at neither. -/
theorem pathExists_eq (h : t.SamePlace p q) : t.pathExists p = t.pathExists q := by
  rcases h with rfl | ⟨l, hp, hq⟩
  · rfl
  · rw [pathExists_of_denotes hp, pathExists_of_denotes hq]

/-- Paths that are to the same place stay so as long as all directories do. -/
theorem of_grows (h : t.SamePlace p q) (hg : Grows t t') : t'.SamePlace p q :=
  h.imp_right fun ⟨l, hp, hq⟩ => ⟨l, hg.denotes hp, hg.denotes hq⟩

end SamePlace

/-! ### Trees that differ in some files -/

/-- **Trees that agree but for some files.** Files at the locations `ls` come, go or change, and
nothing else does. -/
structure AgreeBut (ls : List Location) (t t' : FileTree) : Prop where
  home : t'.home = t.home
  other : ∀ {l}, l ∉ ls → t'.get? l = t.get? l
  before : ∀ l ∈ ls, t.get? l ≠ some .directory
  after : ∀ l ∈ ls, t'.get? l ≠ some .directory

/-- **A tree without some files.** Nothing is at the locations `ls` any more, and all else is as it
was. -/
structure Without (ls : List Location) (t t' : FileTree) : Prop where
  home : t'.home = t.home
  get? : ∀ l, t'.get? l = if l ∈ ls then none else t.get? l

variable {ls ls' : List Location}

/-- Files that come and go take no directory with them. -/
theorem AgreeBut.grows (h : AgreeBut ls t t') : Grows t t' := by
  refine ⟨h.home, fun {l} hl => ?_⟩
  by_cases hm : l ∈ ls
  · exact absurd hl (h.before l hm)
  · rw [h.other hm, hl]

/-- What was changed before it went away makes no difference. -/
theorem AgreeBut.without {t'' : FileTree} (h : AgreeBut ls t t') (hw : Without ls t' t'') :
    Without ls t t'' := by
  refine ⟨hw.home.trans h.home, fun l => ?_⟩
  rw [hw.get? l]
  by_cases hm : l ∈ ls
  · rw [if_pos hm, if_pos hm]
  · rw [if_neg hm, if_neg hm, h.other hm]

namespace Without

/-- A tree without some files still has its directories. -/
theorem grows (h : Without ls t t') (hls : ∀ l ∈ ls, t.get? l ≠ some .directory) : Grows t t' := by
  refine ⟨h.home, fun {l} hl => ?_⟩
  rw [h.get?, if_neg, hl]
  exact fun hm => hls l hm hl

/-- Files may go one after the other. -/
theorem trans {t'' : FileTree} (h : Without ls t t') (h' : Without ls' t' t'') :
    Without (ls ++ ls') t t'' := by
  refine ⟨h'.home.trans h.home, fun l => ?_⟩
  rw [h'.get?, h.get?]
  -- What went first is not brought back by what went next.
  by_cases hm : l ∈ ls
  · rw [if_pos hm, if_pos (List.mem_append_left _ hm), ite_self]
  · by_cases hm' : l ∈ ls'
    · rw [if_pos hm', if_pos (List.mem_append_right _ hm')]
    · rw [if_neg hm', if_neg hm, if_neg]
      exact fun hl => (List.mem_append.1 hl).elim hm hm'

/-- To take out an entry leaves the tree without it. -/
theorem erase (hl : l ≠ []) : Without [l] t (t.erase l) := by
  refine ⟨rfl, fun l' => ?_⟩
  rw [get?_erase t hl]
  simp only [List.mem_singleton]

/-- A tree is without what is not there. -/
theorem of_none (hn : t.get? l = none) : Without [l] t t := by
  refine ⟨rfl, fun l' => ?_⟩
  split
  · rename_i hm
    rw [List.mem_singleton.1 hm, hn]
  · rfl

/-- A path to another location leads to what it led to. -/
theorem status_eq (h : Without ls t t') (hls : ∀ l ∈ ls, t.get? l ≠ some .directory)
    (hd : t.Denotes p l) (hm : l ∉ ls) : t'.status p = t.status p := by
  refine hd.status_eq ((h.grows hls).denotes hd) ?_
  rw [h.get?, if_neg hm]

end Without

end RouterConf.FileTree
