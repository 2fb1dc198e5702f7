import RouterConf.Host.Minimal
import RouterConf.Proofs.Decimal.Numeral
import RouterConf.Proofs.Files.Absence
import RouterConf.Proofs.Files.Locality
import RouterConf.Proofs.Plan.System

/-!
# Which process a pid file names

A process is asked to end by its number, and the number is whatever text is in a file. On most
systems zero and the negative numbers stand for groups of processes, and a number that is too large
may be cut down to another one. So it matters that a text names a process only if it is the numeral
of a number from 1 to `2 ^ 31 - 1` (`Executor.NamesProcess`), and that no other text comes to a
signal.

What comes of a pid file is listed rule by rule (`Executor.KillOutcome`), the processes that are
asked to end beside what is reported. There is a rule for every tree, and what is done is what the
rule has. Two texts are read alike just if they name the same process, however they are written: a
sign, zeros in front and white space around the digits make no difference.

Main statements: `Executor.pidOfText_eq_some_iff`, `Executor.killPidFile_exact`.
-/

namespace RouterConf

namespace Executor

variable {host : Host} {t : FileTree} {p : Path} {m : Machine} {s : String} {pid pid' : Nat}
  {n : Int} {pids : List Nat} {r : Except ActionError Unit}

/-! ### Numbers of processes -/

/-- **A text that names a process**: white space apart, it is a decimal numeral with or without a
sign, and its number is positive and has at most 31 bits. -/
def NamesProcess (s : String) (pid : Nat) : Prop :=
  Decimal.IsSigned (Text.trim s).toList pid ∧ 1 ≤ pid ∧ pid ≤ 2 ^ 31 - 1

/-- **A number is read just from the texts that name a process.** -/
theorem pidOfText_eq_some_iff : pidOfText s = some pid ↔ NamesProcess s pid := by
  unfold pidOfText Decimal.readInt NamesProcess
  rw [Option.map_eq_some_iff]
  simp only [Option.filter_eq_some_iff, Decimal.readSigned_eq_some_iff, Bool.and_eq_true,
    decide_eq_true_eq]
  constructor
  · rintro ⟨n, ⟨numeral, lower, upper⟩, rfl⟩
    -- A number that is read is positive, so that it is a natural number.
    have same : (n.toNat : Int) = n := Int.toNat_of_nonneg (by omega)
    exact ⟨same.symm ▸ numeral, by omega, by omega⟩
  · rintro ⟨numeral, lower, upper⟩
    exact ⟨pid, ⟨numeral, by omega, by omega⟩, Int.toNat_natCast pid⟩

/-- A text names one process at most. -/
theorem NamesProcess.unique (h : NamesProcess s pid) (h' : NamesProcess s pid') : pid = pid' :=
  Option.some.inj ((pidOfText_eq_some_iff.2 h).symm.trans (pidOfText_eq_some_iff.2 h'))

/-- A numeral names no process if its number is out of range, whatever is left of that number in a
machine word. -/
theorem not_namesProcess_of_isSigned (numeral : Decimal.IsSigned (Text.trim s).toList n)
    (outside : n < 1 ∨ 2 ^ 31 - 1 < n) (pid : Nat) : ¬ NamesProcess s pid := by
  rintro ⟨numeral', lower, upper⟩
  -- A numeral has one number, and that is out of range.
  have read := Decimal.readSigned_eq_some_iff.2 numeral
  rw [Decimal.readSigned_eq_some_iff.2 numeral', Option.some.injEq] at read
  omega

/-! ### What comes of a pid file -/

/-- **The rules for a pid file**: the processes that are asked to end, and what is reported. -/
inductive KillOutcome (host : Host) (t : FileTree) (p : Path) :
    List Nat → Except ActionError Unit → Prop
  | absent : t.status p = .error .notFound → KillOutcome host t p [] (.ok ())
  | unreachable {e : OsError} : t.status p = .error e → e ≠ .notFound →
    KillOutcome host t p [] (.error (.io ⟨p, e⟩))
  | directory : t.status p = .ok .directory →
    KillOutcome host t p [] (.error (.io ⟨p, .isADirectory⟩))
  | noText {bytes : ByteArray} : t.status p = .ok (.file (.raw bytes)) →
    KillOutcome host t p [] (.error (.io ⟨p, .notText⟩))
  | noProcess {s : String} : t.status p = .ok (.file (.text s)) → (∀ pid, ¬ NamesProcess s pid) →
    KillOutcome host t p [] (.error (.invalidPid p s))
  | ended {s : String} {pid : Nat} : t.status p = .ok (.file (.text s)) → NamesProcess s pid →
    host.terminate pid = .delivered ∨ host.terminate pid = .absent →
    KillOutcome host t p [pid] (.ok ())
  | refused {s : String} {pid : Nat} {cause : OsError} : t.status p = .ok (.file (.text s)) →
    NamesProcess s pid → host.terminate pid = .refused cause →
    KillOutcome host t p [pid] (.error (.signal pid cause))

/-- **There is a rule for every file.** -/
theorem exists_killOutcome (host : Host) (t : FileTree) (p : Path) :
    ∃ pids r, KillOutcome host t p pids r := by
  cases found : t.status p with
  | error e =>
    -- A file that is missing means that there is nothing to end, and every other reason is
    -- reported.
    by_cases missing : e = .notFound
    · exact ⟨_, _, .absent (missing ▸ found)⟩
    · exact ⟨_, _, .unreachable found missing⟩
  | ok entry =>
    rcases entry with (s | bytes) | _
    · by_cases named : ∃ pid, NamesProcess s pid
      · obtain ⟨pid, named⟩ := named
        cases answer : host.terminate pid with
        | delivered => exact ⟨_, _, .ended found named (.inl answer)⟩
        | absent => exact ⟨_, _, .ended found named (.inr answer)⟩
        | refused cause => exact ⟨_, _, .refused found named answer⟩
      · exact ⟨_, _, .noProcess found fun pid h => named ⟨pid, h⟩⟩
    · exact ⟨_, _, .noText found⟩
    · exact ⟨_, _, .directory found⟩

/-- A process that is named is all that is asked to end. -/
theorem killPidFile_of_namesProcess (found : m.files.status p = .ok (.file (.text s)))
    (named : NamesProcess s pid) : killPidFile host p m = terminate host pid m := by
  simp only [killPidFile, FileTree.readText_eq, found, pidOfText_eq_some_iff.2 named]

/-- **The rules are followed.** -/
theorem KillOutcome.run_eq (h : KillOutcome host m.files p pids r) :
    after (killPidFile host p) m = ⟨m.files, m.signalled ++ pids⟩ ∧
      outcome (killPidFile host p) m = r := by
  unfold after outcome
  cases h with
  | absent found => simp [killPidFile, FileTree.readText_eq, found]
  | @unreachable e found other =>
    -- Of all errors only one is let pass, and each of the others is reported.
    cases e <;> simp [killPidFile, FileTree.readText_eq, found] at other ⊢
  | directory found => simp [killPidFile, FileTree.readText_eq, found]
  | noText found => simp [killPidFile, FileTree.readText_eq, found]
  | @noProcess s found unnamed =>
    have unread : pidOfText s = none := by
      rw [Option.eq_none_iff_forall_ne_some]
      exact fun pid h => unnamed pid (pidOfText_eq_some_iff.1 h)
    simp [killPidFile, FileTree.readText_eq, found, unread]
  | ended found named answer =>
    rw [killPidFile_of_namesProcess found named]
    rcases answer with answer | answer <;> simp [terminate, answer]
  | refused found named answer =>
    rw [killPidFile_of_namesProcess found named]
    simp [terminate, answer]

/-- **What is done is what the rule has**, and there is one rule for each file. -/
theorem killOutcome_iff : KillOutcome host m.files p pids r ↔
    after (killPidFile host p) m = ⟨m.files, m.signalled ++ pids⟩ ∧
      outcome (killPidFile host p) m = r := by
  refine ⟨KillOutcome.run_eq, fun ⟨left, reported⟩ => ?_⟩
  obtain ⟨pids', r', h⟩ := exists_killOutcome host m.files p
  obtain ⟨left', reported'⟩ := h.run_eq
  -- The same processes are asked if the record of them is the same.
  rw [left, Machine.mk.injEq, List.append_cancel_left_eq] at left'
  rw [left'.2, ← reported, reported']
  exact h

/-- The processes that are asked are those that are named. -/
theorem KillOutcome.mem_iff (h : KillOutcome host t p pids r) :
    pids.length ≤ 1 ∧ ∀ pid, pid ∈ pids ↔
      ∃ s, t.status p = .ok (.file (.text s)) ∧ NamesProcess s pid := by
  have none_named (unread : ∀ s, t.status p ≠ .ok (.file (.text s))) (pid : Nat) :
      pid ∈ ([] : List Nat) ↔ ∃ s, t.status p = .ok (.file (.text s)) ∧ NamesProcess s pid := by
    simp [unread]
  have one_named {s : String} {pid : Nat} (found : t.status p = .ok (.file (.text s)))
      (named : NamesProcess s pid) (other : Nat) :
      other ∈ [pid] ↔ ∃ s, t.status p = .ok (.file (.text s)) ∧ NamesProcess s other := by
    simp only [List.mem_singleton, found, Except.ok.injEq, FileEntry.file.injEq,
      FileContent.text.injEq, exists_eq_left']
    exact ⟨fun same => same ▸ named, fun h => h.unique named⟩
  cases h with
  | absent found => exact ⟨by simp, none_named (by simp [found])⟩
  | unreachable found _ => exact ⟨by simp, none_named (by simp [found])⟩
  | directory found => exact ⟨by simp, none_named (by simp [found])⟩
  | noText found => exact ⟨by simp, none_named (by simp [found])⟩
  | noProcess found unnamed => exact ⟨by simp, by simp [found, unnamed]⟩
  | ended found named _ => exact ⟨by simp, one_named found named⟩
  | refused found named _ => exact ⟨by simp, one_named found named⟩

/-- **A pid file makes nothing but the process that it names be asked to end.** What is reported and
who is asked are as the rules have it, and there is a rule for every tree; no file is changed. At
most one process is asked, and it is the one that the text names. So a numeral of any other number,
zero and the negative ones among them, comes to an error that shows the text as it is. -/
theorem killPidFile_exact (host : Host) (p : Path) (m : Machine) :
    (∃ pids r, KillOutcome host m.files p pids r) ∧
      (∀ pids r, KillOutcome host m.files p pids r ↔
        after (system host (.killPidFile p)) m = ⟨m.files, m.signalled ++ pids⟩ ∧
          outcome (system host (.killPidFile p)) m = r) ∧
      (∀ pids r, KillOutcome host m.files p pids r → pids.length ≤ 1 ∧
        ∀ pid, pid ∈ pids ↔
          ∃ s, m.files.status p = .ok (.file (.text s)) ∧ NamesProcess s pid) ∧
      ∀ s n, m.files.status p = .ok (.file (.text s)) →
        Decimal.IsSigned (Text.trim s).toList n → (n < 1 ∨ 2 ^ 31 - 1 < n) →
        KillOutcome host m.files p [] (.error (.invalidPid p s)) :=
  ⟨exists_killOutcome host m.files p, fun _ _ => killOutcome_iff, fun _ _ h => h.mem_iff,
    fun _ _ found numeral outside =>
      .noProcess found (not_namesProcess_of_isSigned numeral outside)⟩

/-- Two pid files: a number with a sign, zeros and white space about it, and one that a word of 32
bits would take for the same. -/
def twoPidFiles : FileTree where
  home := []
  entries := [(["a.pid"], .file (.text " +0042\n")), (["b.pid"], .file (.text "4294967338"))]

/-- The first is read as 42 and the second is refused, though its last 32 bits are those of 42. -/
theorem killPidFile_exact_twoPidFiles :
    NamesProcess " +0042\n" 42 ∧
      after (system .minimal (.killPidFile "a.pid")) ⟨twoPidFiles, []⟩ = ⟨twoPidFiles, [42]⟩ ∧
      outcome (system .minimal (.killPidFile "a.pid")) ⟨twoPidFiles, []⟩ = .ok () ∧
      after (system .minimal (.killPidFile "b.pid")) ⟨twoPidFiles, []⟩ = ⟨twoPidFiles, []⟩ ∧
      outcome (system .minimal (.killPidFile "b.pid")) ⟨twoPidFiles, []⟩ =
        .error (.invalidPid "b.pid" "4294967338") := by
  have named : NamesProcess " +0042\n" 42 := by
    have trimmed : Text.trim " +0042\n" = "+0042" := by decide +kernel
    refine ⟨?_, by decide, by decide⟩
    rw [trimmed]
    exact .unsigned (.plus ⟨by decide, List.all_eq_true.1 (by decide), by decide⟩)
  -- The number is 2 ^ 32 + 42.
  have numeral : Decimal.IsSigned (Text.trim "4294967338").toList 4294967338 := by
    have trimmed : Text.trim "4294967338" = "4294967338" := by decide +kernel
    rw [trimmed]
    exact .unsigned (.plain ⟨by decide, List.all_eq_true.1 (by decide), by decide⟩)
  obtain ⟨-, first, -, -⟩ := killPidFile_exact .minimal "a.pid" ⟨twoPidFiles, []⟩
  obtain ⟨-, second, -, outside⟩ := killPidFile_exact .minimal "b.pid" ⟨twoPidFiles, []⟩
  obtain ⟨asked, ended⟩ := (first _ _).1 (.ended rfl named (.inr rfl))
  obtain ⟨none_asked, reported⟩ := (second _ _).1 (outside _ _ rfl numeral (.inr (by decide)))
  exact ⟨named, asked, ended, none_asked, reported⟩

end Executor

end RouterConf
