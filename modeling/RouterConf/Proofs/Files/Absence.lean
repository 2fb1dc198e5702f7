import RouterConf.Proofs.Files.Listing

/-!
# Why nothing is at a path

A path is followed name by name, and each name but the last has to lead to a directory. So there are
few reasons why nothing is at a path (`FileTree.Absence`). The path is refused for its text, or it
is empty, or it stops at one of its names (`FileTree.Stops`): nothing is under the name, or a file
is there although the path goes on, or the name is longer than names are.

These are all reasons, and each has an error of its own (`FileTree.status_eq_error_iff`), which is
the one that an operation on the path fails with (`FileTree.remove_of_status_error`,
`FileTree.readText_eq`).

Main statements: `FileTree.status_eq_error_iff`, `FileTree.pathExists_eq_false_iff`.
-/

namespace RouterConf.FileTree

variable {t : FileTree} {p : Path} {d start : Location} {n last : String}
  {ss before rest blank : List String} {e : OsError}

/-! ### Segments at which a path stops -/

/-- **How a path stops at a name** `n` of the directory `d`, with `rest` still to follow. -/
inductive Stops (t : FileTree) (d : Location) (n : String) (rest : List String) : OsError → Prop
  | missing : n.utf8ByteSize ≤ maxName → t.get? (d ++ [n]) = none → Stops t d n rest .notFound
  | inFile {c : FileContent} : n.utf8ByteSize ≤ maxName → t.get? (d ++ [n]) = some (.file c) →
    rest ≠ [] → Stops t d n rest .notADirectory
  | tooLong : maxName < n.utf8ByteSize → Stops t d n rest .nameTooLong

/-- A segment that is a name, and neither says nothing nor leads upward. -/
def IsStep (n : String) : Prop :=
  n ∉ ["", ".", ".."]

/-- Where a path stops it cannot be followed, whatever comes behind. -/
theorem Stops.walk_eq (h : t.Stops d n rest e) (step : IsStep n) (rest' : List String) :
    t.walk d (n :: rest') = .error e := by
  simp only [IsStep, List.mem_cons, List.not_mem_nil, or_false, not_or] at step
  cases h with
  | missing size free => simp [walk, step, Nat.not_lt.2 size, free]
  | inFile size there _ => simp [walk, step, Nat.not_lt.2 size, there]
  | tooLong size => simp [walk, step, size]

/-- Segments that lead nowhere have one at which they stop, and more segments behind them make no
difference. -/
theorem exists_stops_of_walk (h : t.walk start ss = .error e) : ∃ before n rest d,
    ss = before ++ n :: rest ∧ t.walk start before = .ok d ∧ IsStep n ∧
      ∀ more, more ≠ [] → t.Stops d n (rest ++ more) e := by
  induction ss generalizing start with
  | nil => cases h
  | cons s ss ih =>
    unfold walk at h
    -- A segment that says nothing or leads upward is passed over; only at a name can the path stop.
    split_ifs at h with idle up long
    · obtain ⟨before, n, rest, d, rfl, walked, found⟩ := ih h
      exact ⟨s :: before, n, rest, d, rfl, by rw [walk, if_pos idle, walked], found⟩
    · obtain ⟨before, n, rest, d, rfl, walked, found⟩ := ih h
      exact ⟨s :: before, n, rest, d, rfl, by rw [walk, if_neg idle, if_pos up, walked], found⟩
    · cases h
      exact ⟨[], s, ss, start, rfl, rfl, by simp_all [IsStep], fun _ _ => .tooLong long⟩
    · have step : IsStep s := by simp_all [IsStep]
      split at h
      · rename_i free
        cases h
        exact ⟨[], s, ss, start, rfl, rfl, step, fun _ _ => .missing (Nat.not_lt.1 long) free⟩
      · rename_i c there
        cases h
        refine ⟨[], s, ss, start, rfl, rfl, step, fun more some => ?_⟩
        exact .inFile (Nat.not_lt.1 long) there (by simp [some])
      · rename_i there
        obtain ⟨before, n, rest, d, rfl, walked, found⟩ := ih h
        refine ⟨s :: before, n, rest, d, rfl, ?_, found⟩
        simp only [walk, if_neg idle, if_neg up, if_neg long, there, walked]

/-! ### What a path names -/

/-- The slashes at the end of a path are skipped from behind, up to the last segment that says
something. -/
theorem dropWhile_reverse_of_split (named : last ≠ "") (silent : ∀ s ∈ blank, s = "") :
    (before ++ last :: blank).reverse.dropWhile (· = "") = last :: before.reverse := by
  have back : (before ++ last :: blank).reverse = blank.reverse ++ last :: before.reverse := by
    simp
  rw [back, List.dropWhile_append_of_pos, List.dropWhile_cons_of_neg (by simpa using named)]
  intro s hs
  simpa using silent s (List.mem_reverse.1 hs)

/-- Segments are all empty, or there is a last one that is not. -/
theorem blank_or_split (ss : List String) : (∀ s ∈ ss, s = "") ∨ ∃ before last blank,
    ss = before ++ last :: blank ∧ last ≠ "" ∧ ∀ s ∈ blank, s = "" := by
  cases h : ss.reverse.dropWhile (· = "") with
  | nil =>
    rw [List.dropWhile_eq_nil_iff] at h
    exact .inl fun s hs => by simpa using h s (List.mem_reverse.2 hs)
  | cons last before =>
    obtain ⟨named, blank, split, silent⟩ := exists_segments_eq_of_dropWhile h
    exact .inr ⟨before.reverse, last, blank, by rw [split]; simp, named, silent⟩

/-- What a path names that is not refused: its last segment that is not empty, in the directory that
the segments before it lead to. -/
theorem locate_of_split (allowed : p.refusal? = none)
    (split : p.segments.map String.ofList = before ++ last :: blank) (named : last ≠ "")
    (silent : ∀ s ∈ blank, s = "") : t.locate p = (do
      let d ← t.walk (p.start t.home) before
      if last = "." then return .reached d
      else if last = ".." then return .reached d.dropLast
      else return .entry d last (decide (blank ≠ []))) := by
  have nonempty : p.isEmpty = false := by
    rw [Bool.eq_false_iff, Ne, String.isEmpty_iff]
    rintro rfl
    -- The empty path has one segment, which is empty.
    have member : last ∈ [""] := by
      rw [show [""] = before ++ last :: blank from split]
      simp
    exact named (List.mem_singleton.1 member)
  -- There is a slash at the end just if something has been skipped.
  have slash : ((before ++ last :: blank).reverse.head? = some "") ↔ blank ≠ [] := by
    rcases List.eq_nil_or_concat blank with rfl | ⟨init, s, rfl⟩
    · simp [named]
    · simp [silent s (by simp)]
  unfold Path.refusal? at allowed
  split_ifs at allowed with null long
  unfold locate
  rw [if_neg null, nonempty, if_neg Bool.false_ne_true, if_neg long, split]
  simp only [dropWhile_reverse_of_split named silent, List.reverse_reverse, slash]
  rfl

/-- A path of slashes only names the root. -/
theorem locate_of_blank (allowed : p.refusal? = none) (nonempty : p ≠ "")
    (blank : ∀ s ∈ p.segments.map String.ofList, s = "") : t.locate p = .ok (.reached []) := by
  have skipped : (p.segments.map String.ofList).reverse.dropWhile (· = "") = [] := by
    rw [List.dropWhile_eq_nil_iff]
    intro s hs
    simpa using blank s (List.mem_reverse.1 hs)
  unfold Path.refusal? at allowed
  split_ifs at allowed with null long
  unfold locate
  rw [if_neg null, if_neg (by simpa using nonempty), if_neg long]
  simp only [skipped]

/-- Nothing is at a path that ends in a name just if the path stops at that name. -/
theorem status_eq_error_iff_stops (allowed : p.refusal? = none)
    (split : p.segments.map String.ofList = before ++ last :: blank)
    (walked : t.walk (p.start t.home) before = .ok d) (step : IsStep last)
    (silent : ∀ s ∈ blank, s = "") : t.status p = .error e ↔ t.Stops d last blank e := by
  have named : last ≠ "" := fun hn => step (by simp [hn])
  have located := t.locate_of_split allowed split named silent
  simp only [IsStep, List.mem_cons, List.not_mem_nil, or_false, not_or] at step
  rw [walked] at located
  simp only [bind, Except.bind, pure, Except.pure, step, if_false] at located
  rw [status, located]
  simp only [bind, Except.bind, entry?]
  constructor
  · intro h
    by_cases long : maxName < last.utf8ByteSize
    · rw [if_pos long] at h
      cases h
      exact .tooLong long
    rw [if_neg long] at h
    rcases there : t.get? (d ++ [last]) with _ | c | _
    · rw [there] at h
      cases h
      exact .missing (Nat.not_lt.1 long) there
    · -- A file is what is meant, unless a slash stands behind it.
      by_cases more : blank = []
      · simp [there, more, pure, Except.pure] at h
      · simp only [there, ne_eq, more, not_false_eq_true, decide_true, if_true,
          Except.error.injEq] at h
        exact h ▸ .inFile (Nat.not_lt.1 long) there more
    · simp [there, pure, Except.pure] at h
  · intro stops
    cases stops with
    | missing size free => simp [Nat.not_lt.2 size, free]
    | inFile size there more => simp [Nat.not_lt.2 size, there, more]
    | tooLong long => simp [long]

/-! ### Reasons -/

/-- **Why nothing is at a path.** Up to the name at which it stops, the path leads through
directories. -/
inductive Absence (t : FileTree) (p : Path) : OsError → Prop
  | refused {e : OsError} : p.refusal? = some e → Absence t p e
  | empty : p = "" → Absence t p .notFound
  | stopped {before rest : List String} {n : String} {d : Location} {e : OsError} :
    p.refusal? = none → p.segments.map String.ofList = before ++ n :: rest →
    t.walk (p.start t.home) before = .ok d → IsStep n → t.Stops d n rest e → Absence t p e

/-- Each reason has its error. -/
theorem Absence.status_eq (h : t.Absence p e) : t.status p = .error e := by
  cases h with
  | refused refused => rw [status, locate_of_refusal? refused]; rfl
  | empty empty => rw [empty]; rfl
  | @stopped before rest n d _ allowed split walked step stops =>
    rcases blank_or_split rest with silent | ⟨before', last, blank, rfl, named', silent⟩
    · -- The path stops at the name that it ends in.
      exact (status_eq_error_iff_stops allowed split walked step silent).2 stops
    · -- The path goes on to another name, and stops on the way there.
      rw [← List.cons_append, ← List.append_assoc] at split
      rw [status, t.locate_of_split allowed split named' silent, walk_append, walked]
      simp only [bind, Except.bind, stops.walk_eq step]

/-- **Every reason why nothing is at a path**, by its error. -/
theorem status_eq_error_iff : t.status p = .error e ↔ t.Absence p e := by
  refine ⟨fun h => ?_, Absence.status_eq⟩
  cases allowed : p.refusal? with
  | some cause =>
    rw [status, locate_of_refusal? allowed] at h
    cases h
    exact .refused allowed
  | none =>
    by_cases empty : p = ""
    · rw [empty] at h
      cases h
      exact .empty empty
    rcases blank_or_split (p.segments.map String.ofList) with blank |
      ⟨before, last, blank, split, named, silent⟩
    · rw [status, t.locate_of_blank allowed empty blank] at h
      cases h
    -- Either the way to the directory fails, or the last segment does.
    have located := t.locate_of_split allowed split named silent
    cases walked : t.walk (p.start t.home) before with
    | error e' =>
      rw [status, located, walked] at h
      cases h
      obtain ⟨before', n, rest, d, rfl, walked', step, stops⟩ := exists_stops_of_walk walked
      rw [List.append_assoc, List.cons_append] at split
      exact .stopped allowed split walked' step (stops _ (List.cons_ne_nil _ _))
    | ok d =>
      by_cases step : IsStep last
      · exact .stopped allowed split walked step
          ((status_eq_error_iff_stops allowed split walked step silent).1 h)
      · -- A directory that is reached without its name is there.
        have dots : last = "." ∨ last = ".." := by
          simp only [IsStep, List.mem_cons, List.not_mem_nil, or_false, not_not] at step
          exact step.resolve_left named
        rw [status, located, walked] at h
        rcases dots with rfl | rfl <;> cases h

/-- Nothing is at a path just if there is a reason for it. -/
theorem pathExists_eq_false_iff : t.pathExists p = false ↔ ∃ e, t.Absence p e := by
  simp only [← status_eq_error_iff]
  unfold pathExists
  cases t.status p <;> simp

/-! ### Operations at such a path -/

/-- What is not there is refused to be removed for the reason that it is not there. -/
theorem remove_of_status_error (h : t.status p = .error e) : t.remove p = .error e := by
  unfold status at h
  unfold remove
  -- Both are decided by what the path names, and a root or a directory that is reached is there.
  rcases located : t.locate p with e' | ⟨d, n, slash⟩ | d
  · rw [located] at h
    cases h
    rfl
  · rw [located] at h
    rcases found : t.entry? d n with e' | _ | c | _
    · simpa [found, bind, Except.bind] using h
    · simpa [found, bind, Except.bind] using h
    · cases slash
      · simp [found, bind, Except.bind, pure, Except.pure] at h
      · simpa [found, bind, Except.bind] using h
    · simp [found, bind, Except.bind, pure, Except.pure] at h
  · rw [located] at h
    cases h

/-- A text is read, or it is reported what is there instead. -/
theorem readText_eq (t : FileTree) (p : Path) : t.readText p =
    match t.status p with
    | .error e => .error e
    | .ok .directory => .error .isADirectory
    | .ok (.file (.raw _)) => .error .notText
    | .ok (.file (.text s)) => .ok s := by
  unfold readText read
  rcases t.status p with e | (s | bytes) | _ <;> rfl

end RouterConf.FileTree
