import RouterConf.Dnsmasq.Resolution
import RouterConf.Dnsmasq.Settings
import RouterConf.Plan.Action

/-!
# Applying and reverting an instance

To apply an instance is to write its configuration, to record where its files are, and to plan the
start of the daemon. Nothing is written before the configuration has been rendered as a whole. To
revert it is to plan that the daemon ends and that its lease and pid files go; its configuration
stays. A record is kept until it is forgotten, in memory and among the files, so that another
process can revert what this one applied.

A compiler may have any renderer. The one that `Compiler.ofSettings` finds is the standard one, or
one that fills in a template of the language that is read here.

Main statements: `Compiler.render_of_not_dnsmasq`, `Compiler.apply_of_render_error`.
-/

namespace RouterConf

/-! ### What was applied in this process -/

/-- The files of the instances that were applied, by identity. -/
abbrev Applied :=
  List (SectionId × InstancePaths)

namespace Applied

def get? (a : Applied) (id : SectionId) : Option InstancePaths :=
  a.lookup id

def insert (a : Applied) (id : SectionId) (paths : InstancePaths) : Applied :=
  (id, paths) :: a.filter (·.1 ≠ id)

def erase (a : Applied) (id : SectionId) : Applied :=
  a.filter (·.1 ≠ id)

@[simp] theorem get?_insert_self (a : Applied) (id : SectionId) (paths : InstancePaths) :
    (a.insert id paths).get? id = some paths := by
  simp [get?, insert]

end Applied

/-- The files, and what this process has applied. -/
structure ApplyState where
  files : FileTree
  applied : Applied := []
  deriving Inhabited

/-- A step that changes files and what counts as applied, and may fail. -/
abbrev ApplyStep :=
  EStateM CompileError ApplyState

namespace ApplyStep

def onFiles {α : Type} (change : Change α) : ApplyStep α := fun st =>
  match change st.files with
  | .ok a files => .ok a { st with files }
  | .error fault files => .error (.io fault) { st with files }

/-- A value that may not be had; nothing is changed. -/
def ofExcept {α : Type} (v : Except CompileError α) : ApplyStep α := fun st =>
  match v with
  | .ok a => .ok a st
  | .error e => .error e st

end ApplyStep

/-! ### The compiler -/

/-- Settings with the renderer that they ask for. -/
structure Compiler where
  settings : Settings
  renderer : Renderer

def startPriority : Int :=
  60

namespace Compiler

/-- The compiler for some settings; a template that is supplied is read now. -/
def ofSettings (t : FileTree) (settings : Settings) : Except CompileError Compiler :=
  match settings.templateDir with
  | none => .ok ⟨settings, .standard⟩
  | some directory =>
    -- The template is read once, and stays as it is now.
    match Renderer.ofDirectory t directory with
    | .error e => .error (.render e)
    | .ok renderer => .ok ⟨settings, renderer⟩

def instanceOf (s : Section) : Except CompileError DnsmasqInstance :=
  match s.asDnsmasq with
  | some d => .ok d
  | none => .error (.notDnsmasq s.text)

def paths (c : Compiler) (s : Section) (d : DnsmasqInstance) : InstancePaths :=
  c.settings.instancePaths s.id.name d.leasefile

def renderInstance (c : Compiler) (x : SectionIndex) (s : Section) (d : DnsmasqInstance)
    (now : Timestamp := .epoch) : Except CompileError String := do
  let context ← DnsmasqContext.resolve x s d (c.paths s d).lease
  (c.renderer.render context now).mapError .render

/-- The configuration of the instance that a section declares. A time has to be given only where
the text can depend on it. -/
def render (c : Compiler) (x : SectionIndex) (s : Section) (now : Timestamp := .epoch) :
    Except CompileError String := do
  c.renderInstance x s (← instanceOf s) now

theorem render_of_not_dnsmasq {s : Section} (h : s.asDnsmasq = none) (c : Compiler)
    (x : SectionIndex) (now : Timestamp) : c.render x s now = .error (.notDnsmasq s.text) := by
  simp [render, instanceOf, h, bind, Except.bind]

def startCommand (c : Compiler) (paths : InstancePaths) : List String :=
  [c.settings.program, "--conf-file=" ++ paths.config, "--pid-file=" ++ paths.pid]

/-- Puts the configuration of an instance into its file, and makes the directories of the others. -/
def place (paths : InstancePaths) (text : String) : Change Unit := do
  -- The daemon writes these two files itself, once it runs.
  Change.ensureParent paths.lease
  Change.ensureParent paths.pid
  Change.replace paths.config text

def apply (c : Compiler) (now : Timestamp) (x : SectionIndex) (s : Section) :
    ApplyStep (List PlannedAction) := do
  let d ← ApplyStep.ofExcept (instanceOf s)
  let paths := c.paths s d
  let text ← ApplyStep.ofExcept (c.renderInstance x s d now)
  -- Up to here nothing has been written.
  ApplyStep.onFiles (place paths text)
  -- The record comes last, so that what it names is there.
  let _ ← ApplyStep.onFiles (c.settings.store.save s.id paths now)
  modify fun st => { st with applied := st.applied.insert s.id paths }
  return [{ priority := startPriority, owner := s.id, action := .start (c.startCommand paths) }]

/-- What cannot be rendered is not applied, and nothing is touched. -/
theorem apply_of_render_error {c : Compiler} {x : SectionIndex} {s : Section} {now : Timestamp}
    {e : CompileError} (h : c.render x s now = .error e) (st : ApplyState) :
    c.apply now x s st = .error e st := by
  unfold render at h
  cases hi : instanceOf s with
  | error e' =>
    simp only [hi, bind, Except.bind, Except.error.injEq] at h
    subst h
    simp [apply, ApplyStep.ofExcept, hi, bind, EStateM.bind]
  | ok d =>
    simp only [hi, bind, Except.bind] at h
    simp [apply, ApplyStep.ofExcept, hi, h, bind, EStateM.bind]

/-- The files of an identity: those of the last apply in this process, or the recorded ones. -/
def recordedPaths (c : Compiler) (st : ApplyState) (id : SectionId) :
    Except CompileError (Option InstancePaths) :=
  match st.applied.get? id with
  | some paths => .ok (some paths)
  | none =>
    match c.settings.store.load id st.files with
    | .error e => .error (.ofRecordError e)
    | .ok record => .ok (record.map (·.paths))

def isApplied (c : Compiler) (st : ApplyState) (id : SectionId) : Except CompileError Bool := do
  return (← c.recordedPaths st id).isSome

/-- The actions that take down an instance with these files. -/
def teardown (id : SectionId) (paths : InstancePaths) : List PlannedAction :=
  [.killPidFile paths.pid, .removeFile paths.lease, .removeFile paths.pid].map fun action =>
    { priority := -startPriority, owner := id, action }

/-- The actions that take down the instance that a section declares. Its record stays. -/
def revert (c : Compiler) (st : ApplyState) (s : Section) :
    Except CompileError (List PlannedAction) := do
  -- The section only says which instance is meant: its options may have changed since the apply.
  let _ ← instanceOf s
  match ← c.recordedPaths st s.id with
  | some paths => return teardown s.id paths
  | none => .error (.notApplied s.text)

def forget (c : Compiler) (id : SectionId) : ApplyStep Unit := do
  -- The memory goes first, and is gone even if the record cannot be dropped.
  modify fun st => { st with applied := st.applied.erase id }
  ApplyStep.onFiles (c.settings.store.remove id)

end Compiler

end RouterConf
