import RouterConf.Decimal.Integer
import RouterConf.Template.Basic

/-!
# Reading templates

A template is written as text with tags in double braces for variables, and in braces with percent
signs for conditions and loops; braces with number signs hold comments. A hyphen inside a tag
removes the white space on that side of it.

Main statement: `Template.ofText_eq_ok`.
-/

namespace RouterConf.Template

/-! ### Pieces -/

inductive TagKind where
  | value
  | statement
  | comment
  deriving DecidableEq, Repr

/-- A piece of a template: text, or a tag with its contents and what it does to the text around. -/
inductive Piece where
  | text (cs : List Char)
  | tag (kind : TagKind) (trimBefore trimAfter : Bool) (contents : List Char)
  deriving DecidableEq, Repr

def opening? : List Char → Option TagKind
  | '\x7b' :: '\x7b' :: _ => some .value
  | '\x7b' :: '%' :: _ => some .statement
  | '\x7b' :: '#' :: _ => some .comment
  | _ => none

def TagKind.closer : TagKind → Char
  | value => '\x7d'
  | statement => '%'
  | comment => '#'

/-- The contents of a tag, once its end is reached: whether a hyphen stands at either end, and what
is between. -/
def tagOf (kind : TagKind) (reversed : List Char) : Piece :=
  let contents := reversed.reverse
  let (before, contents) := match contents with
    | '-' :: r => (true, r)
    | r => (false, r)
  let (after, contents) := match contents.reverse with
    | '-' :: r => (true, r.reverse)
    | _ => (false, contents)
  .tag kind before after contents

/-- Divides a text into pieces. Within a tag, `inside` is its kind and `seen` its contents so far in
reverse; outside, `seen` is text. `skip` characters are passed over first. A tag has to be closed.
-/
def pieces (inside : Option TagKind) (seen : List Char) (skip : Nat) :
    List Char → Option (List Piece)
  | [] =>
    match inside with
    | some _ => none
    | none => some [.text seen.reverse]
  | c :: rest =>
    match skip with
    | n + 1 => pieces inside seen n rest
    | 0 =>
      match inside with
      | none =>
        match opening? (c :: rest) with
        | some kind => (pieces (some kind) [] 1 rest).map (.text seen.reverse :: ·)
        | none => pieces none (c :: seen) 0 rest
      | some kind =>
        -- A tag of one kind may hold the marks of another.
        if c = kind.closer && rest.head? = some '\x7d' then
          (pieces none [] 1 rest).map (tagOf kind seen :: ·)
        else pieces (some kind) (c :: seen) 0 rest

/-- Whether a tag removes the white space before it. -/
def Piece.trimsBefore : Piece → Bool
  | .tag _ before _ _ => before
  | .text _ => false

/-- The pieces with white space removed where a tag asks for it; `after` says whether the tag before
them does. -/
def trimPieces (after : Bool) : List Piece → List Piece
  | [] => []
  | .tag kind b a contents :: ps => .tag kind b a contents :: trimPieces a ps
  | .text cs :: ps =>
    let cs := if after then cs.dropWhile Text.isBlank else cs
    let cs :=
      if ps.head?.any Piece.trimsBefore then (cs.reverse.dropWhile Text.isBlank).reverse else cs
    .text cs :: trimPieces false ps

/-! ### Contents of tags -/

def isWordChar (c : Char) : Bool :=
  c.isAlphanum || c = '_' || c = '.'

/-- The words and marks of a tag; `word` is the word so far in reverse. -/
def words (word : List Char) : List Char → List (List Char)
  | [] => if word.isEmpty then [] else [word.reverse]
  | c :: rest =>
    if isWordChar c then words (c :: word) rest
    else
      let before := if word.isEmpty then [] else [word.reverse]
      if c = ' ' || c = '\t' || c = '\n' || c = '\r' then before ++ words [] rest
      else before ++ [c] :: words [] rest

/-- A name: it does not start with a digit. -/
def isName (cs : List Char) : Bool :=
  match cs with
  | [] => false
  | c :: _ => !c.isDigit && cs.all fun c => c.isAlphanum || c = '_'

def readVariable? (word : List Char) : Option Variable :=
  match Text.splitOn '.' word with
  | [] => none
  | name :: fields =>
    if isName name && fields.all (!·.isEmpty) && word.all isWordChar then
      some { name := String.ofList name, fields := fields.map String.ofList }
    else none

inductive Statement where
  | ifOpen (test : Test)
  | ifClose
  | forOpen (name : String) (subject : Variable)
  | forClose
  deriving Repr

def statement? (ws : List (List Char)) : Option Statement :=
  match ws.map String.ofList with
  | ["if", v] => (readVariable? v.toList).map fun v => .ifOpen (.holds v)
  | ["if", v, "|", "length", ">", n] => do
    return .ifOpen (.longerThan (← readVariable? v.toList) (← Decimal.readNat 10 n.toList))
  | ["endif"] => some .ifClose
  | ["for", name, "in", v] =>
    if isName name.toList then (readVariable? v.toList).map (.forOpen name) else none
  | ["endfor"] => some .forClose
  | _ => none

/-! ### Structure -/

/-- The open conditions and loops, innermost first, each with the parts before it in reverse. -/
abbrev Open := List (Statement × List Node)

/-- The parts that pieces make; `done` are those of the innermost open statement so far in reverse.
Every statement that is opened has to be closed by its own kind. -/
def build (opened : Open) (done : List Node) : List Piece → Option Template
  | [] => if opened.isEmpty then some done.reverse else none
  | .text cs :: ps =>
    build opened (if cs.isEmpty then done else .text (String.ofList cs) :: done) ps
  -- A comment leaves no part; its hyphens have done their work before.
  | .tag .comment _ _ _ :: ps => build opened done ps
  | .tag .value _ _ contents :: ps =>
    match words [] contents with
    | [w] => (readVariable? w).bind fun v => build opened (.shown v :: done) ps
    | _ => none
  | .tag .statement _ _ contents :: ps =>
    match statement? (words [] contents), opened with
    | some .ifClose, (.ifOpen test, before) :: opened =>
      build opened (.cond test done.reverse :: before) ps
    | some .forClose, (.forOpen name subject, before) :: opened =>
      build opened (.loop name subject done.reverse :: before) ps
    | some (.ifOpen test), opened => build ((.ifOpen test, done) :: opened) [] ps
    | some (.forOpen name subject), opened => build ((.forOpen name subject, done) :: opened) [] ps
    | _, _ => none

def ofText (s : String) : Except Error Template :=
  match (pieces none [] 0 s.toList).bind fun ps => build [] [] (trimPieces false ps) with
  | some t => .ok t
  | none => .error .syntaxError

/-- A text is a template if its characters, divided into pieces, make one. -/
theorem ofText_eq_ok {s : String} {cs : List Char} {t : Template} (hs : s.toList = cs)
    (h : ((pieces none [] 0 cs).bind fun ps => build [] [] (trimPieces false ps)) = some t) :
    ofText s = .ok t := by
  rw [ofText, hs, h]

end RouterConf.Template
