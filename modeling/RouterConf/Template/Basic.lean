import RouterConf.Text.Blank

/-!
# Templates

A template is text with variables, conditions and loops, filled in from a scope of named values. A
variable names a value by a path: a name and the fields to follow from it.

Main statements: `Template.renderAll_nil`, `Template.renderAll_append`, `Template.renderNode_text`.
-/

namespace RouterConf

namespace Template

/-! ### Values -/

/-- A value that a template can show, test or go through. -/
inductive Value where
  | null
  | bool (b : Bool)
  | int (n : Int)
  | text (s : String)
  | list (items : List Value)
  | object (fields : List (String × Value))
  deriving Repr, Inhabited

namespace Value

def ofText? : Option String → Value
  | some s => .text s
  | none => .null

def ofTexts (items : List String) : Value :=
  .list (items.map .text)

/-- Whether a condition on the value holds: it does not for null, false, zero, and what is empty. -/
def holds : Value → Bool
  | .null => false
  | .bool b => b
  | .int n => n ≠ 0
  | .text s => !s.isEmpty
  | .list items => !items.isEmpty
  | .object fields => !fields.isEmpty

/-- A position in a list, written without leading zeros. -/
def position? (s : String) : Option Nat :=
  if s.toList.all Char.isDigit && !s.isEmpty && (s = "0" || s.toList.head? ≠ some '0') then
    some (s.toList.foldl (fun n c => 10 * n + (c.toNat - 48)) 0)
  else none

/-- The part of a value that a field names: a field of an object, or an item of a list. -/
def field? (v : Value) (name : String) : Option Value :=
  match v with
  | .object fields => fields.lookup name
  | .list items => (position? name).bind (items[·]?)
  | _ => none

mutual

/-- How a value is shown; null is shown as nothing. -/
def shown : Value → String
  | .null => ""
  | .bool b => if b then "true" else "false"
  | .int n => toString n
  | .text s => s
  | .list items => "[" ++ ", ".intercalate (shownAll items) ++ "]"
  | .object _ => "[object]"

def shownAll : List Value → List String
  | [] => []
  | v :: vs => v.shown :: shownAll vs

end

@[simp] theorem shown_text (s : String) : (text s).shown = s := by rw [shown]

@[simp] theorem shown_int (n : Int) : (int n).shown = toString n := by rw [shown]

/-- The number of items of a list, fields of an object, or characters of a text. -/
def size? : Value → Option Nat
  | .text s => some s.length
  | .list items => some items.length
  | .object fields => some fields.length
  | _ => none

/-- What a loop goes through: the items of a list or the characters of a text. -/
def items? : Value → Option (List Value)
  | .list items => some items
  | .text s => some (s.toList.map fun c => .text (String.singleton c))
  | _ => none

end Value

/-! ### Templates -/

/-- A name and the fields to follow from its value. -/
structure Variable where
  name : String
  fields : List String := []
  deriving DecidableEq, Repr

inductive Test where
  /-- Whether a value holds; one that is not there does not. -/
  | holds (v : Variable)
  | longerThan (v : Variable) (n : Int)
  deriving DecidableEq, Repr

/-- A part of a template. -/
inductive Node where
  | text (s : String)
  | shown (v : Variable)
  | cond (test : Test) (body : List Node)
  | loop (name : String) (subject : Variable) (body : List Node)
  deriving Repr

namespace Node

mutual

def decEq : (a b : Node) → Decidable (a = b)
  | .text s, .text s' => decidable_of_iff (s = s') (by simp)
  | .shown v, .shown v' => decidable_of_iff (v = v') (by simp)
  | .cond test body, .cond test' body' =>
    match decEqAll body body' with
    | .isTrue h => decidable_of_iff (test = test') (by simp [h])
    | .isFalse h => .isFalse (by simp [h])
  | .loop name subject body, .loop name' subject' body' =>
    match decEqAll body body' with
    | .isTrue h => decidable_of_iff (name = name' ∧ subject = subject') (by simp [h])
    | .isFalse h => .isFalse (by simp [h])
  | .text _, .shown _ | .text _, .cond .. | .text _, .loop ..
  | .shown _, .text _ | .shown _, .cond .. | .shown _, .loop ..
  | .cond .., .text _ | .cond .., .shown _ | .cond .., .loop ..
  | .loop .., .text _ | .loop .., .shown _ | .loop .., .cond .. => .isFalse (by simp)

def decEqAll : (a b : List Node) → Decidable (a = b)
  | [], [] => .isTrue rfl
  | a :: as, b :: bs =>
    match decEq a b, decEqAll as bs with
    | .isTrue h, .isTrue h' => .isTrue (by rw [h, h'])
    | .isFalse h, _ => .isFalse (by simp [h])
    | _, .isFalse h' => .isFalse (by simp [h'])
  | [], _ :: _ | _ :: _, [] => .isFalse (by simp)

end

instance : DecidableEq Node := decEq

end Node

end Template

abbrev Template := List Template.Node

namespace Template

inductive Error where
  | syntaxError
  /-- A value is missing, or is not what the template takes it for. -/
  | evaluation
  deriving DecidableEq, Repr

/-- Named values, innermost first. -/
abbrev Scope := List (String × Value)

namespace Scope

def find? (scope : Scope) (v : Variable) : Option Value :=
  v.fields.foldlM Value.field? =<< scope.lookup v.name

/-- The value that a variable has to name. -/
def get (scope : Scope) (v : Variable) : Except Error Value :=
  match scope.find? v with
  | some value => .ok value
  | none => .error .evaluation

/-- The scope within a loop at the item of position `i` among `n`. -/
def inLoop (scope : Scope) (name : String) (n i : Nat) (item : Value) : Scope :=
  let state := Value.object
    [("index", .int (i + 1)), ("index0", .int i), ("first", .bool (i = 0)),
      ("last", .bool (i + 1 = n))]
  -- The item hides a value of the same name, even that of an enclosing loop.
  (name, item) :: ("loop", state) :: scope

end Scope

def Test.eval (scope : Scope) : Test → Except Error Bool
  -- A value that is missing does not hold; one that is measured has to be there.
  | .holds v => .ok ((scope.find? v).any Value.holds)
  | .longerThan v n => do
    match (← scope.get v).size? with
    | some size => return n < size
    | none => .error .evaluation

/-! ### Rendering -/

/-- The text that `body` makes of each item, one after the other. -/
def renderItems (body : Scope → Except Error String) (scope : Scope) (name : String) (n : Nat) :
    (i : Nat) → List Value → Except Error String
  | _, [] => .ok ""
  | i, item :: items => do
    let first ← body (scope.inLoop name n i item)
    let rest ← renderItems body scope name n (i + 1) items
    return first ++ rest

mutual

def renderNode : Node → Scope → Except Error String
  | .text s, _ => .ok s
  | .shown v, scope => return (← scope.get v).shown
  | .cond test body, scope => do
    if ← test.eval scope then renderAll body scope else return ""
  | .loop name subject body, scope => do
    match (← scope.get subject).items? with
    | some items => renderItems (renderAll body) scope name items.length 0 items
    | none => .error .evaluation

def renderAll : List Node → Scope → Except Error String
  | [], _ => .ok ""
  | node :: nodes, scope => do
    let first ← renderNode node scope
    let rest ← renderAll nodes scope
    return first ++ rest

end

def render (t : Template) (scope : Scope) : Except Error String :=
  renderAll t scope

@[simp] theorem renderAll_nil (scope : Scope) : renderAll [] scope = .ok "" := by
  rw [renderAll]

@[simp] theorem renderNode_text (s : String) (scope : Scope) :
    renderNode (.text s) scope = .ok s := by
  rw [renderNode]

/-- The parts of a template are rendered one after the other. -/
theorem renderAll_append (a b : List Node) (scope : Scope) :
    renderAll (a ++ b) scope = do
      let first ← renderAll a scope
      let rest ← renderAll b scope
      return first ++ rest := by
  induction a with
  | nil => cases h : renderAll b scope <;> simp [h, bind, Except.bind, pure, Except.pure]
  | cons node nodes ih =>
    simp only [List.cons_append, renderAll, ih, bind, Except.bind, pure, Except.pure]
    cases renderNode node scope with
    | error e => rfl
    | ok s =>
      cases renderAll nodes scope with
      | error e => rfl
      | ok s' =>
        cases renderAll b scope with
        | error e => rfl
        | ok s'' => simp [String.append_assoc]

end Template

end RouterConf
