import RouterConf.Section.Basic

/-!
# The section index

An index answers which sections are of a kind and which section bears a name. It is built once from
the list of sections and keeps, for every kind and for every identity, the positions at which the
sections stand in the list.

Main statements: `Groups.get_add`, `SectionIndex.sections_ofList`.
-/

namespace RouterConf

/-! ### Positions by key -/

/-- Positions grouped under keys, each group in the order in which it was filled. -/
abbrev Groups (κ : Type) := List (κ × List Nat)

namespace Groups

variable {κ : Type} [DecidableEq κ]

def get (key : κ) : Groups κ → List Nat
  | [] => []
  | (k, is) :: rest => if k = key then is else get key rest

/-- The groups with a position added under a key. -/
def add (key : κ) (i : Nat) : Groups κ → Groups κ
  | [] => [(key, [i])]
  | (k, is) :: rest => if k = key then (k, is ++ [i]) :: rest else (k, is) :: add key i rest

@[simp] theorem get_nil (key : κ) : get key ([] : Groups κ) = [] := rfl

/-- A position comes last under its own key and changes no other. -/
theorem get_add (key key' : κ) (i : Nat) (g : Groups κ) :
    get key' (add key i g) = get key' g ++ if key = key' then [i] else [] := by
  induction g with
  | nil => by_cases h : key = key' <;> simp [add, get, h]
  | cons p rest ih =>
    obtain ⟨k, is⟩ := p
    by_cases hk : k = key
    · subst hk
      by_cases h : k = key' <;> simp [add, get, h]
    · by_cases h : k = key'
      · subst h
        simp [add, get, hk, Ne.symm hk]
      · simp [add, get, hk, h, ih]

end Groups

/-! ### References -/

inductive ReferenceError where
  | notFound (file type name : String)
  | ambiguous (file type name : String) (count : Nat)
  deriving DecidableEq, Repr

def ReferenceError.message : ReferenceError → String
  | notFound file type name => "no " ++ file ++ "." ++ type ++ " section named '" ++ name ++ "'"
  | ambiguous file type name count =>
    toString count ++ " " ++ file ++ "." ++ type ++ " sections named '" ++ name ++
      "', expected exactly one"

/-- What a name refers to. -/
inductive Lookup where
  | found (s : Section)
  | notFound
  | ambiguous (count : Nat)
  deriving DecidableEq, Repr

/-! ### The index -/

/-- Sections in the order of loading, with their positions by kind and by identity. -/
structure SectionIndex where
  sections : Array Section := #[]
  byKind : Groups SectionKind := []
  byId : Groups SectionId := []
  deriving Inhabited

namespace SectionIndex

def push (x : SectionIndex) (s : Section) : SectionIndex :=
  { sections := x.sections.push s
    byKind := x.byKind.add s.id.kind x.sections.size
    byId := x.byId.add s.id x.sections.size }

def ofList (sections : List Section) : SectionIndex :=
  sections.foldl push {}

theorem sections_foldl_push (x : SectionIndex) (ss : List Section) :
    (ss.foldl push x).sections.toList = x.sections.toList ++ ss := by
  induction ss generalizing x with
  | nil => simp
  | cons s ss ih => simp [ih, push]

/-- The index keeps the list. -/
@[simp] theorem sections_ofList (ss : List Section) : (ofList ss).sections.toList = ss := by
  simp [ofList, sections_foldl_push]

def toList (x : SectionIndex) : List Section :=
  x.sections.toList

def size (x : SectionIndex) : Nat :=
  x.sections.size

def at_ (x : SectionIndex) (positions : List Nat) : List Section :=
  positions.filterMap (x.sections[·]?)

/-- The sections of a kind in the order of loading. -/
def ofKind (x : SectionIndex) (kind : SectionKind) : List Section :=
  x.at_ (x.byKind.get kind)

/-- The sections declared by a file and a type; a pair that is no kind has none. -/
def findAll (x : SectionIndex) (file type : String) : List Section :=
  match SectionKind.ofPair file type with
  | some kind => x.ofKind kind
  | none => []

def lookup (x : SectionIndex) (kind : SectionKind) (name : String) : Lookup :=
  match x.byId.get ⟨kind, name⟩ with
  | [] => .notFound
  | [i] =>
    match x.sections[i]? with
    | some s => .found s
    | none => .notFound
  | many => .ambiguous many.length

/-- The one section of a name among those declared by a file and a type. -/
def findExactly (x : SectionIndex) (file type name : String) : Except ReferenceError Section :=
  let found := match SectionKind.ofPair file type with
    | some kind => x.lookup kind name
    | none => .notFound
  match found with
  | .found s => .ok s
  | .notFound => .error (.notFound file type name)
  | .ambiguous count => .error (.ambiguous file type name count)

def expectOne (x : SectionIndex) (kind : SectionKind) (name : String) :
    Except ReferenceError Section :=
  x.findExactly kind.file kind.type name

end SectionIndex

end RouterConf
