import Mathlib.Data.List.Nodup
import RouterConf.Proofs.Files.Correspondence
import RouterConf.Proofs.Files.NewDirectories

/-!
# What is in a directory

A system keeps one entry at a place, under a name that is one segment of a path, and lists the
entries of a directory in whatever order it likes. A tree of that kind is well-formed
(`FileTree.WellFormed`), and whatever files are supplied to it stays of that kind
(`FileTree.within_supply`). The order of its entries makes no difference to what a path leads to
(`FileTree.Relists.corresponds`), and every order of names is one in which a directory may be listed
(`FileTree.exists_relists`).

Main statements: `FileTree.within_supply`, `FileTree.Relists.corresponds`,
`FileTree.exists_reach_of_isDirectory`, `FileTree.isFile_join_iff`.
-/

namespace RouterConf

/-- A name that a system gives to an entry. -/
structure Path.IsEntryName (n : String) : Prop extends Path.IsName n where
  no_null : '\x00' ∉ n.toList
  size : n.utf8ByteSize ≤ FileTree.maxName

instance (n : String) : Decidable (Path.IsEntryName n) :=
  decidable_of_iff
    ('/' ∉ n.toList ∧ (n ≠ "" ∧ n ≠ "." ∧ n ≠ "..") ∧ '\x00' ∉ n.toList ∧
      n.utf8ByteSize ≤ FileTree.maxName)
    ⟨fun ⟨slashless, named, no_null, size⟩ => ⟨⟨slashless, named⟩, no_null, size⟩,
      fun h => ⟨h.slashless, h.named, h.no_null, h.size⟩⟩

/-- A path below another is at least as long as the two. -/
theorem Path.utf8ByteSize_add_le_join {q : Path} (h : q.isAbsolute = false) (base : Path) :
    base.utf8ByteSize + q.utf8ByteSize ≤ (join base q).utf8ByteSize := by
  unfold join
  rw [if_neg (by simp [h])]
  split_ifs <;> simp only [String.utf8ByteSize_append] <;> omega

namespace FileTree

variable {t t' : FileTree} {p : Path} {l d : Location} {n : String} {e : FileEntry}

/-! ### Well-formed trees -/

/-- **A tree as a system keeps it**: one entry at a place, and each under a name. -/
structure WellFormed (t : FileTree) : Prop where
  once : (t.entries.map (·.1)).Nodup
  named : ∀ e ∈ t.entries, ∀ n ∈ e.1.getLast?, Path.IsEntryName n

instance (t : FileTree) : Decidable t.WellFormed :=
  decidable_of_iff ((t.entries.map (·.1)).Nodup ∧ ∀ e ∈ t.entries, ∀ n ∈ e.1.getLast?,
    Path.IsEntryName n) ⟨fun ⟨once, named⟩ => ⟨once, named⟩, fun h => ⟨h.once, h.named⟩⟩

/-- To take an entry out leaves a tree well-formed. -/
theorem WellFormed.erase (h : t.WellFormed) (l : Location) : (t.erase l).WellFormed := by
  refine ⟨?_, fun e he => h.named e ((List.mem_filter.1 he).1)⟩
  exact h.once.sublist (List.filter_sublist.map _)

/-- To put one in under a name leaves it well-formed. -/
theorem WellFormed.insert (h : t.WellFormed) (hn : Path.IsEntryName n) (e : FileEntry) :
    (t.insert (d ++ [n]) e).WellFormed := by
  have others := h.erase (d ++ [n])
  refine ⟨?_, ?_⟩
  · -- The entry that was there has been taken out.
    refine List.nodup_cons.2 ⟨fun again => ?_, others.once⟩
    obtain ⟨e', he', same⟩ := List.mem_map.1 again
    exact absurd same (by simpa using (List.mem_filter.1 he').2)
  · refine List.forall_mem_cons.2 ⟨fun n' hn' => ?_, others.named⟩
    rw [List.getLast?_concat, Option.mem_some_iff] at hn'
    exact hn' ▸ hn

/-- What a path names an entry by is a name. -/
theorem isEntryName_of_locate {slash : Bool} (h : t.locate p = .ok (.entry d n slash))
    (size : n.utf8ByteSize ≤ maxName) : Path.IsEntryName n := by
  -- It is one of the segments of the path, so no slash is in it, and no dots are left.
  obtain ⟨before, named, -, no_dot, not_up, -⟩ := locate_eq_ok_entry h
  obtain ⟨not_blank, blank, split, -⟩ := exists_segments_eq_of_dropWhile named
  have part : n ∈ p.segments.map String.ofList := by
    rw [split]
    simp
  obtain ⟨s, hs, rfl⟩ := List.mem_map.1 part
  refine ⟨⟨?_, not_blank, no_dot, not_up⟩, ?_, size⟩
  · rw [String.toList_ofList]
    exact Text.notMem_of_mem_splitOn hs
  · -- A path with a null character in it is refused.
    rw [String.toList_ofList]
    intro null
    have refused : p.toList.contains '\x00' = true := by
      simpa using Text.subset_of_mem_splitOn hs null
    rw [locate, if_pos refused] at h
    cases h

/-- So does writing a file, -/
theorem WellFormed.write (h : t.WellFormed) {c : FileContent} (hw : t.write p c = .ok t') :
    t'.WellFormed := by
  obtain ⟨l, ⟨d, n, located, size, rfl⟩, -, rfl⟩ := write_ok hw
  exact h.insert (isEntryName_of_locate located size) _

/-- making a directory, -/
theorem WellFormed.makeDirectory (h : t.WellFormed) (hm : t.makeDirectory p = .ok t') :
    t'.WellFormed := by
  unfold FileTree.makeDirectory at hm
  rcases located : t.locate p with e | ⟨d, n, slash⟩ | d
  · simp [located, bind, Except.bind] at hm
  · rcases he : t.entry? d n with e | e
    · simp [located, he, bind, Except.bind] at hm
    · have size := (entry?_eq_ok he).1
      rcases e with _ | e <;> simp [located, he, bind, Except.bind, pure, Except.pure] at hm
      exact hm ▸ h.insert (isEntryName_of_locate located size) _
  · simp [located, bind, Except.bind] at hm

/-- and making those above it, of which some may fail. -/
theorem WellFormed.makeDirectories (h : t.WellFormed) (p : Path) :
    (t.makeDirectories p).2.WellFormed :=
  makeDirectoriesWith_induct (R := fun _ t t' => t.WellFormed → t'.WellFormed) (fun _ _ h => h)
    (fun h h' ht => h' (h ht)) (fun made ht => ht.makeDirectory made) (fun _ h => h) _ t p h

/-- **Trees stay well-formed when something is supplied**, even if that fails half-way. -/
theorem within_supply (p : Path) (e : FileEntry) :
    Change.Within (fun t t' => t.WellFormed → t'.WellFormed) (Change.supply p e) := by
  have made (p : Path) :
      Change.Within (fun t t' => t.WellFormed → t'.WellFormed) (Change.makeDirectories p) :=
    Change.within_makeDirectories_of fun t ht => ht.makeDirectories p
  cases e with
  | directory => exact made p
  | file c =>
    refine Change.within_bind (R := fun t t' => t.WellFormed → t'.WellFormed)
      (fun h h' ht => h' (h ht)) ?_ fun _ => ?_
    · exact Change.within_ensureParent_of (fun _ ht => ht) fun parent _ => made parent
    · exact Change.within_ofStep (fun _ ht => ht) (fun written ht => ht.write written) p

/-! ### Names in a directory -/

/-- The names in a directory are those under which it has entries. -/
theorem mem_names_iff : n ∈ t.names l ↔ ∃ e, (l ++ [n], e) ∈ t.entries := by
  rw [names, List.mem_filterMap]
  constructor
  · rintro ⟨⟨k, e⟩, he, hk⟩
    dsimp only at hk
    split at hk
    · rename_i above
      rw [← above, List.dropLast_append_getLast? n hk]
      exact ⟨e, he⟩
    · cases hk
  · rintro ⟨e, he⟩
    exact ⟨_, he, by simp⟩

/-- No name is there twice. -/
theorem nodup_names (h : t.WellFormed) (l : Location) : (t.names l).Nodup := by
  unfold names
  refine List.Pairwise.filterMap _ ?_ (List.pairwise_map.1 h.once)
  rintro ⟨k, e⟩ ⟨k', e'⟩ apart n hn n' hn' rfl
  -- Two entries of one directory with one name are at one place.
  dsimp only at apart hn hn'
  split at hn <;> split at hn'
  · rename_i above above'
    refine apart ?_
    rw [← List.dropLast_append_getLast? n hn, ← List.dropLast_append_getLast? n hn', above, above']
  all_goals first | cases hn | cases hn'

/-- What is found at a place is the entry of that place. -/
theorem get?_eq_some_iff (h : t.WellFormed) (hl : l ≠ []) :
    t.get? l = some e ↔ (l, e) ∈ t.entries := by
  rw [get?, if_neg hl, List.lookup_eq_some_iff]
  constructor
  · rintro ⟨before, after, split, -⟩
    rw [split]
    simp
  · intro he
    obtain ⟨before, after, split, -⟩ := List.eq_append_cons_of_mem he
    refine ⟨before, after, split, fun e' he' => ?_⟩
    -- What comes before it is at another place.
    have once := h.once
    rw [split, List.map_append, List.map_cons, List.nodup_append] at once
    have apart := once.2.2 e'.1 (List.mem_map_of_mem he') l List.mem_cons_self
    simpa using Ne.symm apart

/-- The names in a directory are those under which something is found. -/
theorem mem_names_iff_get? (h : t.WellFormed) :
    n ∈ t.names l ↔ ∃ e, t.get? (l ++ [n]) = some e := by
  simp only [mem_names_iff, get?_eq_some_iff h (show l ++ [n] ≠ [] by simp)]

/-- Where there is something, it is under a name. -/
theorem isEntryName_of_get? (h : t.WellFormed) (there : t.get? (l ++ [n]) = some e) :
    Path.IsEntryName n :=
  h.named _ ((get?_eq_some_iff h (by simp)).1 there) n (by simp)

/-! ### The order of entries -/

/-- **One tree, listed in another order.** -/
structure Relists (t t' : FileTree) : Prop where
  home : t'.home = t.home
  entries : t'.entries.Perm t.entries

namespace Relists

/-- An order of entries does not make a tree ill-formed. -/
theorem wellFormed (h : t.Relists t') (ht : t.WellFormed) : t'.WellFormed :=
  ⟨(h.entries.map _).nodup_iff.2 ht.once, fun e he => ht.named e (h.entries.mem_iff.1 he)⟩

/-- Whatever the order, the same is found at every place. -/
theorem corresponds (h : t.Relists t') (ht : t.WellFormed) : t.Corresponds Eq t' := by
  refine .of_get? h.home fun l => ?_
  by_cases hl : l = []
  · rw [hl, get?_root, get?_root]
  · refine Option.ext fun e => ?_
    rw [get?_eq_some_iff (h.wellFormed ht) hl, get?_eq_some_iff ht hl, h.entries.mem_iff]

/-- The same names are listed, in another order. -/
theorem names (h : t.Relists t') (l : Location) : (t'.names l).Perm (t.names l) :=
  h.entries.filterMap _

/-- Whether a directory can be listed does not depend on the order either. -/
theorem readDirectory (h : t.Relists t') (ht : t.WellFormed) (p : Path) :
    (∃ e, t.readDirectory p = .error e ∧ t'.readDirectory p = .error e) ∨
      ∃ l, t.readDirectory p = .ok (t.names l) ∧ t'.readDirectory p = .ok (t'.names l) := by
  have same := h.corresponds ht
  unfold FileTree.readDirectory
  rw [same.locate_eq]
  rcases t'.locate p with e | ⟨d, n, slash⟩ | d
  · exact .inl ⟨e, rfl, rfl⟩
  · simp only [bind, Except.bind, pure, Except.pure]
    rcases same.entry?_cases d n with ⟨e, hs, hs'⟩ | ⟨hs, hs'⟩ | ⟨hs, hs'⟩ | ⟨_, _, -, hs, hs'⟩ <;>
      rw [hs, hs']
    · exact .inl ⟨e, rfl, rfl⟩
    · exact .inl ⟨_, rfl, rfl⟩
    · exact .inr ⟨d ++ [n], rfl, rfl⟩
    · exact .inl ⟨_, rfl, rfl⟩
  · exact .inr ⟨d, rfl, rfl⟩

end Relists

/-- Whatever a function finds in a list can be put in any order by putting the list in one. -/
theorem exists_perm_filterMap {α β : Type} {f : α → Option β} {bs : List β} {as : List α}
    (h : bs.Perm (as.filterMap f)) : ∃ as' : List α, as'.Perm as ∧ as'.filterMap f = bs := by
  induction bs generalizing as with
  | nil => exact ⟨as, .refl as, h.nil_eq.symm⟩
  | cons b bs ih =>
    obtain ⟨a, ha, found⟩ := List.mem_filterMap.1 (h.mem_iff.1 List.mem_cons_self)
    obtain ⟨before, after, rfl⟩ := List.append_of_mem ha
    -- The item in which the first is found comes to the front.
    have front : (before ++ a :: after).Perm (a :: (before ++ after)) := List.perm_middle
    have rest : bs.Perm ((before ++ after).filterMap f) := by
      have whole := h.trans (front.filterMap f)
      rw [List.filterMap_cons_some found] at whole
      exact whole.cons_inv
    obtain ⟨as', perm, ordered⟩ := ih rest
    refine ⟨a :: as', (perm.cons a).trans front.symm, ?_⟩
    rw [List.filterMap_cons_some found, ordered]

/-- **A directory may be listed in any order.** -/
theorem exists_relists {names : List String} (h : names.Perm (t.names l)) :
    ∃ t', t.Relists t' ∧ t'.names l = names := by
  obtain ⟨entries, perm, ordered⟩ := exists_perm_filterMap h
  exact ⟨⟨t.home, entries⟩, ⟨rfl, perm⟩, ordered⟩

/-! ### Reading a directory -/

/-- A path that is refused for its text names nothing. -/
theorem locate_of_refusal? {cause : OsError} (h : p.refusal? = some cause) :
    t.locate p = .error cause := by
  unfold Path.refusal? at h
  unfold locate
  split_ifs at h with null long
  · rw [if_pos null, Option.some.inj h]
  · -- What is too long is not empty.
    have nonempty : ¬ p.isEmpty = true := by
      rw [String.isEmpty_iff]
      rintro rfl
      exact absurd long (by decide)
    rw [if_neg null, if_neg nonempty, if_pos long, Option.some.inj h]

/-- And one that names something has not been refused. -/
theorem refusal?_of_locate {target : Target} (h : t.locate p = .ok target) : p.refusal? = none := by
  cases refused : p.refusal? with
  | none => rfl
  | some cause =>
    rw [locate_of_refusal? refused] at h
    cases h

/-- **A directory can be reached and listed.** -/
theorem exists_reach_of_isDirectory (h : t.isDirectory p = true) :
    p.refusal? = none ∧ ∃ l, t.reach p = .ok l ∧ t.readDirectory p = .ok (t.names l) := by
  unfold readDirectory
  rcases isDirectory_iff_locate.1 h with ⟨d, located⟩ | ⟨d, n, slash, located, size, there⟩
  · refine ⟨refusal?_of_locate located, d, reach_of_locate located, ?_⟩
    rw [located]
    rfl
  · refine ⟨refusal?_of_locate located, d ++ [n], ?_, ?_⟩
    · -- The directory is also what the segments of the path lead to.
      have named := (isEntryName_of_locate located size).toIsName
      rw [reach_of_locate located, Target.leads, walk_name t d named, if_neg (Nat.not_lt.2 size),
        there]
    · rw [located]
      simp [bind, Except.bind, pure, Except.pure, entry?, Nat.not_lt.2 size, there]

/-- A name below a directory is refused only for the length of the whole path. -/
theorem refusal?_join (hp : p.refusal? = none) (hn : Path.IsEntryName n) :
    (Path.join p n).refusal? = none ↔ (Path.join p n).utf8ByteSize ≤ maxPath := by
  have null : '\x00' ∉ (Path.join p n).toList := by
    -- No null character is in the directory, and none in the name.
    have above : '\x00' ∉ p.toList := by
      unfold Path.refusal? at hp
      split_ifs at hp with null
      simpa using null
    unfold Path.join
    split_ifs <;> simp [String.toList_append, above, hn.no_null]
  unfold Path.refusal?
  rw [if_neg (by simpa using null)]
  split_ifs with long
  · simpa using long
  · simpa using long

/-- **What a name below a directory leads to** is the entry of that name. -/
theorem status_join (hr : t.reach p = .ok l) (hn : Path.IsEntryName n)
    (hj : (Path.join p n).refusal? = none) :
    t.status (Path.join p n) = (t.get? (l ++ [n])).elim (.error .notFound) .ok := by
  have last : (Path.join p n).lastSegment = n.toList := Path.lastSegment_join p hn.slashless
  have located : t.locate (Path.join p n) = .ok (.entry l n false) := by
    rw [locate_eq (by rw [last]; exact hn.not_idle), hj, directoryOf_join t p hn.slashless, hr,
      last, String.ofList_toList]
    exact if_neg hn.not_upward
  unfold status
  rw [located]
  rcases there : t.get? (l ++ [n]) with _ | _ | _ <;>
    simp [there, entry?, Nat.not_lt.2 hn.size, bind, Except.bind, pure, Except.pure]

/-- A name below a directory leads to a file just if there is one and the path is not too long. -/
theorem isFile_join_iff (hp : p.refusal? = none) (hr : t.reach p = .ok l)
    (hn : Path.IsEntryName n) : t.isFile (Path.join p n) = true ↔
      (∃ c, t.get? (l ++ [n]) = some (.file c)) ∧ (Path.join p n).utf8ByteSize ≤ maxPath := by
  -- The path is refused just for its length; if it is not, the entry under the name decides.
  rw [← refusal?_join hp hn, isFile]
  cases hj : (Path.join p n).refusal? with
  | none =>
    rw [status_join hr hn hj]
    rcases t.get? (l ++ [n]) with _ | _ | _ <;> simp
  | some cause =>
    rw [status, locate_of_refusal? hj]
    simp [bind, Except.bind]

end FileTree

end RouterConf
