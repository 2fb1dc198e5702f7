import RouterConf.Dnsmasq.Compiler
import RouterConf.Plan.Executor

/-!
# A cycle over all instances

All instances of an index are applied or reverted in one cycle. Each stands for itself: one that
fails is noted in the plan and yields no actions, and the others go on. After a teardown has been
carried out, the records of those instances are dropped for which every action succeeded, so that
the rest can be torn down again.
-/

namespace RouterConf

/-- The actions of a cycle in ascending priority, and the sections that failed. -/
structure Plan where
  actions : List PlannedAction := []
  failures : List (SectionId × CompileError) := []
  deriving DecidableEq, Repr, Inhabited

namespace Plan

def isSuccess (p : Plan) : Bool :=
  p.failures.isEmpty

def prepend (id : SectionId) (outcome : Except CompileError (List PlannedAction)) (p : Plan) :
    Plan :=
  match outcome with
  | .ok actions => { p with actions := actions ++ p.actions }
  | .error e => { p with failures := (id, e) :: p.failures }

def sorted (p : Plan) : Plan :=
  { p with actions := sortPlan p.actions }

end Plan

namespace Compiler

def applyEach (c : Compiler) (now : Timestamp) (x : SectionIndex) :
    List Section → ApplyState → Plan × ApplyState
  | [], st => ({}, st)
  | s :: rest, st =>
    match c.apply now x s st with
    | .ok actions st' =>
      let (p, st'') := c.applyEach now x rest st'
      (p.prepend s.id (.ok actions), st'')
    | .error e st' =>
      let (p, st'') := c.applyEach now x rest st'
      (p.prepend s.id (.error e), st'')

def applyAll (c : Compiler) (now : Timestamp) (x : SectionIndex) (st : ApplyState) :
    Plan × ApplyState :=
  let (p, st') := c.applyEach now x (x.ofKind .dnsmasq) st
  (p.sorted, st')

/-- The actions that take down a section if it was applied, else none. -/
def revertIfApplied (c : Compiler) (st : ApplyState) (s : Section) :
    Except CompileError (List PlannedAction) := do
  if ← c.isApplied st s.id then c.revert st s else return []

def revertEach (c : Compiler) (st : ApplyState) : List Section → Plan
  | [] => {}
  | s :: rest => (c.revertEach st rest).prepend s.id (c.revertIfApplied st s)

/-- Plans the teardown of every applied instance in the order of loading. Nothing is changed. -/
def revertAll (c : Compiler) (st : ApplyState) (x : SectionIndex) : Plan :=
  (c.revertEach st (x.ofKind .dnsmasq)).sorted

def failedOwners (report : ExecutionReport) : List SectionId :=
  report.failures.map (·.1.owner)

/-- Forgets the owners of actions, each once, but for those in `kept`. `forgotten` are the ones that
have been forgotten already. -/
def forgetOwners (c : Compiler) (kept : List SectionId) :
    List PlannedAction → (forgotten : List SectionId) → ApplyStep (List SectionId)
  | [], forgotten => pure forgotten
  | a :: rest, forgotten =>
    -- An owner has several actions, and the first of them has settled what becomes of it.
    if a.owner ∈ kept ∨ a.owner ∈ forgotten then c.forgetOwners kept rest forgotten
    else do
      c.forget a.owner
      c.forgetOwners kept rest (forgotten ++ [a.owner])

/-- Drops the records of the sections all of whose actions succeeded, and yields their identities in
the order of their first actions. -/
def commitRevert (c : Compiler) (plan : Plan) (report : ExecutionReport) :
    ApplyStep (List SectionId) :=
  c.forgetOwners (failedOwners report) plan.actions []

end Compiler

end RouterConf
