import Mathlib.Data.List.Basic
import RouterConf.Template.Basic
import RouterConf.Text.Lines

/-!
# Rendering part by part

What a template renders to is put together from what its parts render to. Each statement here takes
the value of a variable, or the outcome of a test, as it was looked up in the scope, and yields the
text of one sort of part:

* `renderNode_shown` for variables, `renderNode_cond` for conditions;
* `renderNode_loop` for loops, whose text is that of the body at each item, one after the other.

Templates for line-oriented files put the line break *before* each line, so that a tag can take it
away. `Text.broken` is the text of lines in that reading; a break after the last of them brings it
back to the text in which every line is ended by its own break (`Text.append_broken_append`).
-/

namespace RouterConf

namespace Text

/-- The text of some lines with a line break before each of them. -/
def broken (lines : List String) : String :=
  String.join (lines.map ("\n" ++ ·))

/-- No lines make an empty text. -/
@[simp] theorem broken_nil : broken [] = "" := rfl

/-- A line has its break in front. -/
@[simp] theorem broken_cons (line : String) (lines : List String) :
    broken (line :: lines) = "\n" ++ line ++ broken lines := by
  simp [broken]

/-- Lines after lines make text after text. -/
@[simp] theorem broken_append (a b : List String) : broken (a ++ b) = broken a ++ broken b := by
  induction a with
  | nil => simp
  | cons line lines ih => simp [ih, String.append_assoc]

/-- The texts of items, each of which is some lines. -/
theorem join_map_broken {α : Type} (lines : α → List String) (items : List α) :
    String.join (items.map fun item => broken (lines item)) = broken (items.flatMap lines) := by
  induction items with
  | nil => rfl
  | cons item items ih => simp [ih]

/-- A first line, lines with breaks before them and a last break: every line is ended by a break. -/
theorem append_broken_append (line : String) (lines : List String) :
    line ++ broken lines ++ "\n" = ofLines (line :: lines) := by
  induction lines generalizing line with
  | nil => simp
  | cons next lines ih =>
    -- The break before the next line is the one that ends this line.
    rw [broken_cons, ofLines_cons, ← ih next]
    simp only [String.append_assoc]

end Text

namespace Template

/-! ### The parts of a template -/

section Parts

variable {scope : Scope} {v : Variable}

/-- A variable is looked up by its name first and then field by field. -/
theorem Scope.find?_eq {value : Value} (h : scope.lookup v.name = some value) :
    scope.find? v = v.fields.foldlM Value.field? value := by
  rw [Scope.find?, h]
  rfl

/-- A field of an object is found under the name of the object. -/
theorem Scope.find?_field {name : String} (field : String) {object value : Value}
    (h : scope.lookup name = some object) (hf : object.field? field = some value) :
    scope.find? ⟨name, [field]⟩ = some value := by
  rw [Scope.find?_eq h, List.foldlM_cons, hf]
  rfl

/-- What is found is there to be shown. -/
theorem Scope.get_eq_ok {value : Value} (h : scope.find? v = some value) :
    scope.get v = .ok value := by
  rw [Scope.get, h]

/-- Nodes are rendered one after the other. -/
theorem renderAll_cons {node : Node} {nodes : List Node} {first rest : String}
    (h : renderNode node scope = .ok first) (hs : renderAll nodes scope = .ok rest) :
    renderAll (node :: nodes) scope = .ok (first ++ rest) := by
  rw [renderAll, h, hs]
  rfl

/-- So are two lists of them. -/
theorem renderAll_append_eq_ok {a b : List Node} {first rest : String}
    (ha : renderAll a scope = .ok first) (hb : renderAll b scope = .ok rest) :
    renderAll (a ++ b) scope = .ok (first ++ rest) := by
  rw [renderAll_append, ha, hb]
  rfl

/-- A single node is rendered as it is. -/
theorem renderAll_singleton {node : Node} {text : String} (h : renderNode node scope = .ok text) :
    renderAll [node] scope = .ok text := by
  rw [renderAll_cons h (renderAll_nil scope), String.append_empty]

/-- A variable is rendered as its value is shown. -/
theorem renderNode_shown {value : Value} (h : scope.find? v = some value) :
    renderNode (.shown v) scope = .ok value.shown := by
  rw [renderNode, Scope.get_eq_ok h]
  rfl

/-- The body of a condition is rendered if the condition is met. -/
theorem renderNode_cond {test : Test} {body : List Node} {b : Bool} {text : String}
    (ht : test.eval scope = .ok b) (hb : b = true → renderAll body scope = .ok text) :
    renderNode (.cond test body) scope = .ok (if b then text else "") := by
  rw [renderNode, ht]
  cases b with
  | false => rfl
  | true => exact hb rfl

/-- A condition that is not met leaves nothing, whatever its body is. -/
theorem renderNode_cond_false {test : Test} {body : List Node} (ht : test.eval scope = .ok false) :
    renderNode (.cond test body) scope = .ok "" := by
  rw [renderNode, ht]
  rfl

/-- A value is tested for whether it holds. -/
theorem Test.eval_holds {value : Value} (h : scope.find? v = some value) :
    (Test.holds v).eval scope = .ok value.holds := by
  rw [Test.eval, h]
  rfl

/-- A list is tested for its length. -/
theorem Test.eval_longerThan {items : List Value} (h : scope.find? v = some (.list items))
    (n : Int) : (Test.longerThan v n).eval scope = .ok (decide (n < items.length)) := by
  rw [Test.eval, Scope.get_eq_ok h]
  rfl

/-- Items are rendered one after the other, each by the body in its own scope. -/
theorem renderItems_eq_ok {α : Type} {body : Scope → Except Error String} {name : String}
    {n : Nat} {value : α → Value} {text : α → String}
    (hb : ∀ i a, body (scope.inLoop name n i (value a)) = .ok (text a)) (i : Nat) (items : List α) :
    renderItems body scope name n i (items.map value) = .ok (String.join (items.map text)) := by
  induction items generalizing i with
  | nil => rfl
  | cons a items ih =>
    -- The body sees the item and its number, and the rest is counted on from there.
    rw [List.map_cons, renderItems, hb, ih]
    simp only [List.map_cons, String.join_cons]
    rfl

/-- A loop over a list renders its body once for each item. -/
theorem renderNode_loop {α : Type} {name : String} {subject : Variable} {body : List Node}
    {items : List α} {value : α → Value} {text : α → String}
    (h : scope.find? subject = some (.list (items.map value)))
    (hb : ∀ n i a, renderAll body (scope.inLoop name n i (value a)) = .ok (text a)) :
    renderNode (.loop name subject body) scope = .ok (String.join (items.map text)) := by
  rw [renderNode, Scope.get_eq_ok h]
  exact renderItems_eq_ok (hb _) 0 items

end Parts

end Template

end RouterConf
