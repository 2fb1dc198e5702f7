import RouterConf.Proofs.Files.Directories
import RouterConf.Proofs.Files.Correspondence

/-!
# Changes that do not meet

A change is local (`Change.Local`) if it reads and writes some locations of its own only, except
that it may make one directory that it shares with others. Two local changes without a location in
common do not see each other: each has the outcome that it would have alone, and the tree in the end
does not depend on their order (`Change.Local.comm`).

What makes this a matter of locations is that the directories on the way to them are there already
and stay. This is a property of trees that persists (`Change.Persists`), and a path leads to one
location on all trees with that property (`Change.LeadsTo`).

Main statements: `Change.Local.bind`, `Change.Local.makeDirectories`, `Change.Local.rename`,
`Change.Local.comm`.
-/

namespace RouterConf

open FileTree (Grows)

/-! ### Steps seen from outside -/

section Steps

variable {ε σ α β : Type}

/-- What a step yields. -/
def outcome (m : EStateM ε σ α) (s : σ) : Except ε α :=
  match m s with
  | .ok a _ => .ok a
  | .error e _ => .error e

/-- The state that a step leaves, whether it succeeds or not. -/
def after (m : EStateM ε σ α) (s : σ) : σ :=
  match m s with
  | .ok _ s' => s'
  | .error _ s' => s'

variable {m : EStateM ε σ α} {f : α → EStateM ε σ β} {s : σ}

/-- What a chain of steps yields is what its second part yields after the first. -/
theorem outcome_bind : outcome (m >>= f) s =
    match outcome m s with
    | .ok a => outcome (f a) (after m s)
    | .error e => .error e := by
  change outcome (EStateM.bind m f) s = _
  unfold outcome after EStateM.bind
  cases m s <;> rfl

/-- What a chain leaves, a failure of its first part included. -/
theorem after_bind : after (m >>= f) s =
    match outcome m s with
    | .ok a => after (f a) (after m s)
    | .error _ => after m s := by
  change after (EStateM.bind m f) s = _
  unfold outcome after EStateM.bind
  cases m s <;> rfl

/-- Steps that run in parallel yield the same and leave related states. -/
theorem Parallel.outcome_eq {σ' : Type} {S : σ → σ' → Prop} {m' : EStateM ε σ' α} {s' : σ'}
    (h : Parallel S Eq m m') (hs : S s s') :
    outcome m s = outcome m' s' ∧ S (after m s) (after m' s') := by
  have ends := h.run hs
  unfold outcome after
  generalize m s = r, m' s' = r' at ends
  cases ends with
  | ok ha hs => exact ⟨congrArg Except.ok ha, hs⟩
  | error e hs => exact ⟨rfl, hs⟩

/-- What a chain of steps does depends on how its first step ends. -/
theorem bind_congr_state {s' : σ} (h : m s = m s') : (m >>= f) s = (m >>= f) s' := by
  change EStateM.bind m f s = EStateM.bind m f s'
  rw [EStateM.bind, EStateM.bind, h]

end Steps

namespace Change

variable {own own' : List Location} {shared : Location} {t t' u u' v v' : FileTree}

/-! ### Two runs of one change -/

/-- **Trees that are the same to a change** with locations of its own, except that the directory
which it shares with others may have been made in one of them only. -/
structure SameAt (own : List Location) (shared : Location) (t t' : FileTree) : Prop where
  at_own : ∀ l ∈ own, t'.get? l = t.get? l
  at_shared : t'.get? shared = t.get? shared ∨
    t.NoFileAt shared ∧ t'.NoFileAt shared

/-- **Two runs of one change**, from `t` to `u` and from `t'` to `u'`. Its own locations are the
same in the end, the shared directory has been made in both or in neither, and all else is as it
was. -/
structure Moves (own : List Location) (shared : Location) (t u t' u' : FileTree) : Prop where
  grows : Grows t u
  grows' : Grows t' u'
  at_own : ∀ l ∈ own, u'.get? l = u.get? l
  other : ∀ l ∉ own, l ≠ shared → u.get? l = t.get? l ∧ u'.get? l = t'.get? l
  at_shared : u.get? shared = t.get? shared ∧ u'.get? shared = t'.get? shared ∨
    t.NoFileAt shared ∧ u.get? shared = some .directory ∧ u'.get? shared = some .directory

/-- A tree is the same to a change as itself. -/
theorem SameAt.refl (own : List Location) (shared : Location) (t : FileTree) :
    SameAt own shared t t :=
  ⟨fun _ _ => rfl, .inl rfl⟩

/-- A file is in the way on both sides, or on neither. -/
theorem SameAt.file (same : SameAt own shared t t') {c : FileContent}
    (hc : t.get? shared = some (.file c)) : t'.get? shared = some (.file c) := by
  rcases same.at_shared with equal | ⟨free, -⟩
  · rw [equal, hc]
  · exact absurd hc (free c)

/-- If no file is in the place of the shared directory, none is on the other side either. -/
theorem SameAt.noFileAt (same : SameAt own shared t t') (free : t.NoFileAt shared) :
    t'.NoFileAt shared := by
  rcases same.at_shared with equal | ⟨-, free'⟩
  · simpa only [FileTree.NoFileAt, equal] using free
  · exact free'

namespace Moves

/-- Two runs that do nothing. -/
theorem refl (same : SameAt own shared t t') : Moves own shared t t t' t' :=
  ⟨Grows.refl t, Grows.refl t', same.at_own, fun _ _ _ => ⟨rfl, rfl⟩, .inl ⟨rfl, rfl⟩⟩

/-- Two runs, each in two parts. -/
theorem trans (h : Moves own shared t u t' u') (h' : Moves own shared u v u' v') :
    Moves own shared t v t' v' := by
  refine ⟨h.grows.trans h'.grows, h.grows'.trans h'.grows', h'.at_own, fun l hl hs => ?_, ?_⟩
  · rw [(h'.other l hl hs).1, (h'.other l hl hs).2]
    exact h.other l hl hs
  · -- The directory is made in the first part, in the second, or not at all.
    rcases h.at_shared with ⟨kept, kept'⟩ | ⟨before, made, made'⟩
    · rw [← kept, ← kept']
      simpa only [FileTree.NoFileAt, kept] using h'.at_shared
    · exact .inr ⟨before, h'.grows.directory made, h'.grows'.directory made'⟩

/-- What was the same to a change stays the same to it. -/
theorem sameAt (h : Moves own shared t u t' u') (same : SameAt own shared t t') :
    SameAt own shared u u' := by
  refine ⟨h.at_own, ?_⟩
  rcases h.at_shared with ⟨kept, kept'⟩ | ⟨-, made, made'⟩
  · simpa only [FileTree.NoFileAt, kept, kept'] using same.at_shared
  · exact .inl (by rw [made, made'])

/-- A change of the trees at one of the own locations. -/
theorem of_update (same : SameAt own shared t t') {l : Location} (hl : l ∈ own) (hs : l ≠ shared)
    (grows : Grows t u) (grows' : Grows t' u') {e : Option FileEntry}
    (hu : ∀ l', u.get? l' = if l' = l then e else t.get? l')
    (hu' : ∀ l', u'.get? l' = if l' = l then e else t'.get? l') : Moves own shared t u t' u' := by
  have others : ∀ l' ≠ l, u.get? l' = t.get? l' ∧ u'.get? l' = t'.get? l' := fun l' hne =>
    ⟨(hu l').trans (if_neg hne), (hu' l').trans (if_neg hne)⟩
  -- The entry comes to the same location on both sides, and it is not the shared one.
  refine ⟨grows, grows', fun l' hl' => ?_, fun l' hl' _ => others l' ?_, .inl (others _ hs.symm)⟩
  · rw [hu, hu', same.at_own l' hl']
  · rintro rfl
    exact hl' hl

/-- A file is put at one of the own locations, where no directory is. -/
theorem insert (same : SameAt own shared t t') {l : Location} (hl : l ∈ own) (hs : l ≠ shared)
    (hne : l ≠ []) (hn : t.get? l ≠ some .directory) (c : FileContent) :
    Moves own shared t (t.insert l (.file c)) t' (t'.insert l (.file c)) :=
  .of_update same hl hs (FileTree.grows_insert_file hne hn c)
    (FileTree.grows_insert_file hne (by rw [same.at_own l hl]; exact hn) c)
    (FileTree.get?_insert t hne _) (FileTree.get?_insert t' hne _)

/-- A file is taken from one of the own locations. -/
theorem erase (same : SameAt own shared t t') {l : Location} (hl : l ∈ own) (hs : l ≠ shared)
    (hne : l ≠ []) {c : FileContent} (hc : t.get? l = some (.file c)) :
    Moves own shared t (t.erase l) t' (t'.erase l) :=
  .of_update same hl hs (FileTree.grows_erase_file hne hc)
    (FileTree.grows_erase_file hne (by rw [same.at_own l hl]; exact hc))
    (FileTree.get?_erase t hne) (FileTree.get?_erase t' hne)

/-- A file goes from one of the own locations and comes to another, where no directory is. -/
theorem move (same : SameAt own shared t t') {l l' : Location} (hl : l ∈ own) (hl' : l' ∈ own)
    (hs : l ≠ shared) (hs' : l' ≠ shared) (hne : l ≠ []) (hne' : l' ≠ []) {c : FileContent}
    (hc : t.get? l = some (.file c)) (hn : t.get? l' ≠ some .directory) :
    Moves own shared t ((t.erase l).insert l' (.file c)) t' ((t'.erase l).insert l' (.file c)) := by
  have erased := Moves.erase same hl hs hne hc
  refine erased.trans (.insert (erased.sameAt same) hl' hs' hne' ?_ c)
  rw [FileTree.get?_erase t hne]
  split
  · simp
  · exact hn

/-- The shared directory is there in the end. -/
theorem of_made (same : SameAt own shared t t') (hs : shared ∉ own)
    (free : t.NoFileAt shared) (grows : Grows t u) (grows' : Grows t' u')
    (hu : ∀ l, u.get? l = if l = shared then some .directory else t.get? l)
    (hu' : ∀ l, u'.get? l = if l = shared then some .directory else t'.get? l) :
    Moves own shared t u t' u' := by
  refine ⟨grows, grows', fun l hl => ?_, fun l _ hne => ?_, .inr ⟨free, ?_, ?_⟩⟩
  · have hne : l ≠ shared := by
      rintro rfl
      exact hs hl
    rw [hu, hu', if_neg hne, if_neg hne, same.at_own l hl]
  · rw [hu, hu', if_neg hne, if_neg hne]
    exact ⟨rfl, rfl⟩
  · rw [hu, if_pos rfl]
  · rw [hu', if_pos rfl]

end Moves

/-! ### Local changes -/

/-- A property of trees that stays once it holds: directories are made and never taken away. -/
def Persists (P : FileTree → Prop) : Prop :=
  ∀ {t t' : FileTree}, Grows t t' → P t → P t'

/-- `P`, and that a directory is at a location. -/
def WithDirectory (P : FileTree → Prop) (l : Location) (t : FileTree) : Prop :=
  P t ∧ t.get? l = some .directory

/-- That a directory is there persists. -/
theorem Persists.withDirectory {P : FileTree → Prop} (hP : Persists P) (l : Location) :
    Persists (WithDirectory P l) :=
  fun hg h => ⟨hP hg h.1, hg.directory h.2⟩

/-- **A local change.** On trees with `P` that are the same at its own locations it has one outcome,
and it changes nothing but these, except that it may make the shared directory. Once it has
succeeded, `Q` holds. -/
structure Local {α : Type} (own : List Location) (shared : Location) (P Q : FileTree → Prop)
    (m : Change α) : Prop where
  yields : ∀ {t t'}, SameAt own shared t t' → P t → P t' → outcome m t' = outcome m t
  moves : ∀ {t t'}, SameAt own shared t t' → P t → P t' →
    Moves own shared t (after m t) t' (after m t')
  post : ∀ {t a}, P t → outcome m t = .ok a → Q (after m t)

/-- The same error and no change, or two runs that have succeeded. -/
inductive StepsAlike (own : List Location) (shared : Location) (t t' : FileTree) :
    Except OsError FileTree → Except OsError FileTree → Prop where
  | ok {u u' : FileTree} (h : Moves own shared t u t' u') :
      StepsAlike own shared t t' (.ok u) (.ok u')
  | error (e : OsError) : StepsAlike own shared t t' (.error e) (.error e)

/-- A path that leads to a name in one directory on all trees with `P`, unless it is refused for its
text. -/
structure LeadsTo (P : FileTree → Prop) (p : Path) (d : Location) (n : String) : Prop where
  isName : Path.IsName n
  last : p.lastSegment = n.toList
  directory : ∀ {t}, P t → t.directoryOf p = .ok d

namespace LeadsTo

variable {P : FileTree → Prop} {p q : Path} {d : Location} {n n' : String}

/-- Such a path ends in a name, so that its last segment says something. -/
theorem not_idle (h : LeadsTo P p d n) : Path.isIdle p.lastSegment = false := by
  rw [h.last]
  exact h.isName.not_idle

/-- It names the entry under that name. -/
theorem locate (h : LeadsTo P p d n) (ht : P t) : t.locate p =
    match p.refusal? with
    | some e => .error e
    | none => .ok (.entry d n false) := by
  rw [FileTree.locate_eq h.not_idle, h.directory ht, h.last]
  cases p.refusal? with
  | some e => rfl
  | none => simp [bind, Except.bind, pure, Except.pure, h.isName.not_upward]

/-- A name below a directory leads there. -/
theorem join {base : Path} (hn : Path.IsName n) (h : ∀ {t}, P t → t.reach base = .ok d) :
    LeadsTo P (Path.join base n) d n := by
  refine ⟨hn, Path.lastSegment_join base hn.slashless, fun {t} ht => ?_⟩
  rw [t.directoryOf_join base hn.slashless]
  exact h ht

/-- A sibling leads to the same directory. -/
theorem sibling (h : LeadsTo P p d n) (hq : Path.Siblings q p) (hn : Path.IsName n')
    (hl : q.lastSegment = n'.toList) : LeadsTo P q d n' := by
  refine ⟨hn, hl, fun {t} ht => ?_⟩
  rw [FileTree.directoryOf_congr hq]
  exact h.directory ht

/-- The draft of a file is in its directory. -/
theorem draft (h : LeadsTo P p d n) : LeadsTo P (draftOf p) d (n ++ ".pdconf.tmp") := by
  have ending : '/' ∉ ".pdconf.tmp".toList := by decide
  refine h.sibling (Path.siblings_append p ending) (h.isName.append ending) ?_
  rw [draftOf, Path.lastSegment_append p _ ending, h.last, String.toList_append]

end LeadsTo

namespace Local

variable {α β : Type} {P Q R : FileTree → Prop} {m : Change α} {f : α → Change β} {p q : Path}
  {d d' : Location} {n n' : String}

/-- **Local changes can be chained**, and the second may count on what the first has made true. -/
theorem bind (hm : Local own shared P Q m) (hf : ∀ a, Local own shared Q R (f a)) :
    Local own shared P R (m >>= f) := by
  refine ⟨fun {t t'} same ht ht' => ?_, fun {t t'} same ht ht' => ?_, fun {t b} ht h => ?_⟩
  · rw [outcome_bind, outcome_bind, hm.yields same ht ht']
    rcases ho : outcome m t with e | a
    · rfl
    · -- Both runs go on, from trees that are still the same to the second part.
      have ho' := (hm.yields same ht ht').trans ho
      exact (hf a).yields ((hm.moves same ht ht').sameAt same) (hm.post ht ho) (hm.post ht' ho')
  · have first := hm.moves same ht ht'
    rw [after_bind, after_bind, hm.yields same ht ht']
    rcases ho : outcome m t with e | a
    · exact first
    · have ho' := (hm.yields same ht ht').trans ho
      exact first.trans ((hf a).moves (first.sameAt same) (hm.post ht ho) (hm.post ht' ho'))
  · rw [outcome_bind] at h
    rw [after_bind]
    rcases ho : outcome m t with e | a <;> rw [ho] at h
    · cases h
    · exact (hf a).post (hm.post ht ho) h

/-- A change that does nothing on trees with `P`. -/
theorem still {a : α} (h : ∀ {t}, P t → m t = .ok a t) : Local own shared P P m := by
  refine ⟨fun same ht ht' => ?_, fun same ht ht' => ?_, fun ht _ => ?_⟩
  · rw [outcome, outcome, h ht, h ht']
  · rw [after, after, h ht, h ht']
    exact .refl same
  · rw [after, h ht]
    exact ht

/-- A change that takes one step is local if the step goes alike on trees that are the same to it.
-/
theorem ofStep (hP : Persists P) (p : Path) {step : FileTree → Except OsError FileTree}
    (h : ∀ {t t'}, SameAt own shared t t' → P t → P t' →
      StepsAlike own shared t t' (step t) (step t')) :
    Local own shared P P (Change.ofStep p step) := by
  have runs : ∀ {t t'}, SameAt own shared t t' → P t → P t' →
      outcome (Change.ofStep p step) t' = outcome (Change.ofStep p step) t ∧
        Moves own shared t (after (Change.ofStep p step) t) t'
          (after (Change.ofStep p step) t') := by
    intro t t' same ht ht'
    have alike := h same ht ht'
    unfold outcome after Change.ofStep
    generalize step t = r, step t' = r' at alike
    cases alike with
    | ok moves => exact ⟨rfl, moves⟩
    | error e => exact ⟨rfl, .refl same⟩
  exact ⟨fun same ht ht' => (runs same ht ht').1, fun same ht ht' => (runs same ht ht').2,
    fun {t _} ht _ => hP (runs (.refl own shared t) ht ht).2.grows ht⟩

/-- To write a file at one of the own locations is local. -/
theorem write (hP : Persists P) (h : LeadsTo P p d n) (hl : d ++ [n] ∈ own)
    (hs : shared ∉ own) (text : String) : Local own shared P P (Change.write p text) := by
  refine .ofStep hP p fun {t t'} same ht ht' => ?_
  -- What is under the name is the same on both sides, so the step ends in the same way.
  have apart : d ++ [n] ≠ shared := fun he => hs (he ▸ hl)
  unfold FileTree.write
  rw [h.locate ht, h.locate ht']
  rcases p.refusal? with _ | e
  · by_cases long : FileTree.maxName < n.utf8ByteSize <;>
      simp only [Bind.bind, Except.bind, FileTree.entry?, same.at_own _ hl, long, if_true, if_false]
    · exact .error _
    · rcases hg : t.get? (d ++ [n]) with _ | c | _
      · exact .ok (.insert same hl apart (by simp) (by simp [hg]) _)
      · exact .ok (.insert same hl apart (by simp) (by simp [hg]) _)
      · exact .error _
  · exact .error e

/-- To remove one is local. -/
theorem remove (hP : Persists P) (h : LeadsTo P p d n) (hl : d ++ [n] ∈ own)
    (hs : shared ∉ own) : Local own shared P P (Change.ofStep p fun t => t.remove p) := by
  refine .ofStep hP p fun {t t'} same ht ht' => ?_
  have apart : d ++ [n] ≠ shared := fun he => hs (he ▸ hl)
  unfold FileTree.remove
  rw [h.locate ht, h.locate ht']
  rcases p.refusal? with _ | e
  · by_cases long : FileTree.maxName < n.utf8ByteSize <;>
      simp only [Bind.bind, Except.bind, FileTree.entry?, same.at_own _ hl, long, if_true, if_false]
    · exact .error _
    · rcases hg : t.get? (d ++ [n]) with _ | c | _
      · exact .error _
      · exact .ok (.erase same hl apart (by simp) hg)
      · exact .error _
  · exact .error e

/-- To move a file between two of the own locations is local. -/
theorem rename (hP : Persists P) (h : LeadsTo P p d n) (h' : LeadsTo P q d' n')
    (hl : d ++ [n] ∈ own) (hl' : d' ++ [n'] ∈ own) (hs : shared ∉ own) :
    Local own shared P P (Change.rename p q) := by
  refine .ofStep hP q fun {t t'} same ht ht' => ?_
  have apart : d ++ [n] ≠ shared := fun he => hs (he ▸ hl)
  have apart' : d' ++ [n'] ≠ shared := fun he => hs (he ▸ hl')
  unfold FileTree.rename
  rw [h.locate ht, h.locate ht', h'.locate ht, h'.locate ht']
  rcases p.refusal? with _ | e
  · rcases q.refusal? with _ | e
    · by_cases long : FileTree.maxName < n.utf8ByteSize <;>
        simp only [Bind.bind, Except.bind, FileTree.entry?, same.at_own _ hl, same.at_own _ hl',
          long, if_true, if_false]
      · exact .error _
      rcases hg : t.get? (d ++ [n]) with _ | c | _
      · exact .error _
      · by_cases long' : FileTree.maxName < n'.utf8ByteSize <;>
          simp only [long', if_true, if_false]
        · exact .error _
        rcases hg' : t.get? (d' ++ [n']) with _ | c' | _
        · exact .ok (.move same hl hl' apart apart' (by simp) (by simp) hg (by simp [hg']))
        · exact .ok (.move same hl hl' apart apart' (by simp) (by simp) hg (by simp [hg']))
        · exact .error _
      · exact .error _
    · exact .error e
  · exact .error e

/-- A step that is undone if it fails is local if both are. -/
theorem orUndo {step undo : Change Unit} (hP : Persists P) (hstep : Local own shared P P step)
    (hundo : Local own shared P P undo) : Local own shared P P (Change.orUndo step undo) := by
  -- Undoing does not hide the failure; it only adds to what is changed.
  have yields : ∀ t, outcome (Change.orUndo step undo) t = outcome step t := by
    intro t
    unfold outcome Change.orUndo
    cases step t with
    | ok _ t₁ => rfl
    | error e t₁ =>
      dsimp only
      cases undo t₁ <;> rfl
  have leaves : ∀ t, after (Change.orUndo step undo) t =
      match outcome step t with
      | .ok _ => after step t
      | .error _ => after undo (after step t) := by
    intro t
    unfold outcome after Change.orUndo
    cases step t with
    | ok _ t₁ => rfl
    | error e t₁ =>
      dsimp only
      cases undo t₁ <;> rfl
  have moves : ∀ {t t'}, SameAt own shared t t' → P t → P t' →
      Moves own shared t (after (Change.orUndo step undo) t) t'
        (after (Change.orUndo step undo) t') := by
    intro t t' same ht ht'
    have first := hstep.moves same ht ht'
    rw [leaves, leaves, hstep.yields same ht ht']
    rcases outcome step t with e | _
    · exact first.trans
        (hundo.moves (first.sameAt same) (hP first.grows ht) (hP first.grows' ht'))
    · exact first
  refine ⟨fun {t t'} same ht ht' => ?_, moves, fun {t _} ht _ => ?_⟩
  · rw [yields, yields, hstep.yields same ht ht']
  · exact hP (moves (.refl own shared t) ht ht).grows ht

/-- A file in a directory that is there is replaced by way of its draft. -/
theorem replace (hP : Persists P) (h : LeadsTo P p d n)
    (there : ∀ {t}, P t → Change.ensureParent p t = .ok () t) (hl : d ++ [n] ∈ own)
    (hl' : d ++ [n ++ ".pdconf.tmp"] ∈ own) (hs : shared ∉ own) (text : String) :
    Local own shared P P (Change.replace p text) :=
  .bind (.still there) fun _ => .bind (.write hP h.draft hl' hs text) fun _ =>
    .orUndo hP (.rename hP h.draft h hl' hl hs) (.remove hP h.draft hl' hs)

/-- A directory that is shared is made in every run that succeeds, or in none. -/
theorem makeDirectories (hP : Persists P) (h : LeadsTo P p d n) (hs : d ++ [n] ∉ own) :
    Local own (d ++ [n]) P (WithDirectory P (d ++ [n])) (Change.makeDirectories p) := by
  have runs : ∀ {t t'}, SameAt own (d ++ [n]) t t' → P t → P t' →
      outcome (Change.makeDirectories p) t' = outcome (Change.makeDirectories p) t ∧
        Moves own (d ++ [n]) t (after (Change.makeDirectories p) t) t'
          (after (Change.makeDirectories p) t') ∧
        (outcome (Change.makeDirectories p) t = .ok () →
          (after (Change.makeDirectories p) t).get? (d ++ [n]) = some .directory) := by
    intro t t' same ht ht'
    have located := h.locate ht
    have located' := h.locate ht'
    unfold outcome after Change.makeDirectories
    rcases hr : p.refusal? with _ | e
    · rw [hr] at located located'
      by_cases long : FileTree.maxName < n.utf8ByteSize
      · rw [FileTree.makeDirectories_of_locate located, FileTree.makeDirectories_of_locate located',
          if_pos long, if_pos long]
        exact ⟨rfl, .refl same, fun ho => by cases ho⟩
      -- A file is in the way in both runs, or in neither.
      by_cases free : t.NoFileAt (d ++ [n])
      · obtain ⟨u, hu, grows, made⟩ :=
          FileTree.makeDirectories_of_no_file located (Nat.not_lt.1 long) free
        obtain ⟨u', hu', grows', made'⟩ :=
          FileTree.makeDirectories_of_no_file located' (Nat.not_lt.1 long) (same.noFileAt free)
        rw [hu, hu']
        exact ⟨rfl, .of_made same hs free grows grows' made made',
          fun _ => (made _).trans (if_pos rfl)⟩
      · simp only [FileTree.NoFileAt, Ne, Classical.not_forall, Classical.not_not] at free
        obtain ⟨c, hc⟩ := free
        rw [FileTree.makeDirectories_of_locate located, FileTree.makeDirectories_of_locate located',
          if_neg long, if_neg long, hc, same.file hc]
        exact ⟨rfl, .refl same, fun ho => by cases ho⟩
    · rw [hr] at located located'
      have found : e ≠ .notFound := fun he => p.refusal?_ne_notFound (he ▸ hr)
      rw [FileTree.makeDirectories_of_locate_error located found,
        FileTree.makeDirectories_of_locate_error located' found]
      exact ⟨rfl, .refl same, fun ho => by cases ho⟩
  refine ⟨fun same ht ht' => (runs same ht ht').1, fun same ht ht' => (runs same ht ht').2.1,
    fun {t _} ht ho => ?_⟩
  obtain ⟨-, moves, made⟩ := runs (.refl own _ t) ht ht
  exact ⟨hP moves.grows ht, made ho⟩

/-- To a local change, another one without a common location makes no difference but for the shared
directory. -/
theorem unseen (hP : Persists P) {m : Change α} {m' : Change β} (hm : Local own shared P Q m)
    (hm' : Local own' shared P R m') (apart : ∀ l ∈ own, l ∉ own') (hs : shared ∉ own) (ht : P t) :
    outcome m (after m' t) = outcome m t ∧
      Moves own shared t (after m t) (after m' t) (after m (after m' t)) := by
  -- What the other change has done is at locations which this one does not look at.
  have moved := hm'.moves (.refl own' shared t) ht ht
  have same : SameAt own shared t (after m' t) := by
    refine ⟨fun l hl => (moved.other l (apart l hl) ?_).1, ?_⟩
    · rintro rfl
      exact hs hl
    · rcases moved.at_shared with ⟨kept, -⟩ | ⟨before, made, -⟩
      · exact .inl kept
      · exact .inr ⟨before, by simp [FileTree.NoFileAt, made]⟩
  have later := hP moved.grows ht
  exact ⟨hm.yields same ht later, hm.moves same ht later⟩

/-- **Local changes without a common location commute**, and do not see each other. -/
theorem comm (hP : Persists P) {m : Change α} {m' : Change β} (hm : Local own shared P Q m)
    (hm' : Local own' shared P R m') (apart : ∀ l ∈ own, l ∉ own') (hs : shared ∉ own)
    (hs' : shared ∉ own') (ht : P t) :
    outcome m (after m' t) = outcome m t ∧ outcome m' (after m t) = outcome m' t ∧
      (after m' (after m t)).Corresponds Eq (after m (after m' t)) := by
  obtain ⟨yields, moves⟩ := unseen hP hm hm' apart hs ht
  obtain ⟨yields', moves'⟩ := unseen hP hm' hm (fun l hl hl' => apart l hl' hl) hs' ht
  refine ⟨yields, yields', .of_get? ?_ fun l => ?_⟩
  · rw [moves'.grows'.home, moves.grows.home, moves.grows'.home, moves'.grows.home]
  -- An own location of either change is as that change leaves it, and the other leaves it alone.
  by_cases hl : l ∈ own
  · have other : l ≠ shared := by
      rintro rfl
      exact hs hl
    rw [moves.at_own l hl, (moves'.other l (apart l hl) other).2]
  by_cases hl' : l ∈ own'
  · have other : l ≠ shared := by
      rintro rfl
      exact hs' hl'
    rw [moves'.at_own l hl', (moves.other l hl other).2]
  by_cases hshared : l = shared
  · -- It is made by neither, or is there in the end whoever comes first.
    rw [hshared]
    rcases moves.at_shared with ⟨kept, kept'⟩ | ⟨-, made, made'⟩ <;>
      rcases moves'.at_shared with ⟨still, still'⟩ | ⟨-, there, there'⟩
    · rw [still', kept, kept', still]
    · rw [there', kept', there]
    · rw [still', made, made']
    · rw [there', made']
  · rw [(moves'.other l hl' hshared).2, (moves.other l hl hshared).2,
      (moves.other l hl hshared).1, (moves'.other l hl' hshared).1]

end Local

end Change

end RouterConf
