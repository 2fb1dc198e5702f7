/-!
# Tokens of a YAML stream

The tokens between which a YAML stream is divided, the classes of characters that the division goes
by, and the position of a character in the text. A stream ends where its list of tokens ends.
-/

namespace RouterConf.Yaml

/-- The bytes of a tag, which its escapes may spell freely. -/
abbrev Tag := List UInt8

/-- A token of a stream. Block collections are opened by a token of their own and all closed by
`blockEnd`. -/
inductive Token where
  | versionDirective (major minor : Nat)
  | tagDirective (handle : String) (lead : Tag)
  | documentStart
  | documentEnd
  | blockSequenceStart
  | blockMappingStart
  | blockEnd
  | flowSequenceStart
  | flowSequenceEnd
  | flowMappingStart
  | flowMappingEnd
  | blockEntry
  | flowEntry
  | key
  | value
  | aliasOf (name : String)
  | anchor (name : String)
  | tag (handle : String) (suffix : Tag)
  | scalar (text : String) (plain : Bool)
  deriving DecidableEq, Repr, Inhabited

/-! ### Classes of characters -/

/-- A space or a tab. -/
def isBlank (c : Char) : Bool :=
  c = ' ' || c = '\t'

/-- A character that ends a line. -/
def isBreak (c : Char) : Bool :=
  c = '\n' || c = '\r' || c = '\u0085' || c = '\u2028' || c = '\u2029'

/-- A letter, a digit, an underscore or a hyphen, all of ASCII: what names are made of. -/
def isNameChar (c : Char) : Bool :=
  c.isAlphanum || c = '_' || c = '-'

/-- A character that may stand in a stream. Controls may not. -/
def isAllowed (c : Char) : Bool :=
  let n := c.toNat
  c = '\t' || c = '\n' || c = '\r' || (0x20 ≤ n && n ≤ 0x7E) || n == 0x85 ||
    (0xA0 ≤ n && n ≤ 0xD7FF) || (0xE000 ≤ n && n ≤ 0xFFFD) || 0x10000 ≤ n

/-- Whether a blank, a line end or the end of the stream comes next. -/
def atBlank : List Char → Bool
  | [] => true
  | c :: _ => isBlank c || isBreak c

/-- Whether a line end or the end of the stream comes next. -/
def atBreak : List Char → Bool
  | [] => true
  | c :: _ => isBreak c

/-- Whether a marker of three equal characters, `---` or `...`, comes next. -/
def atMarker (c : Char) : List Char → Bool
  | a :: b :: d :: rest => a = c && b = c && d = c && atBlank rest
  | _ => false

/-- Whether a document marker comes next; it counts only at the start of a line. -/
def atDocumentMarker (cs : List Char) : Bool :=
  atMarker '-' cs || atMarker '.' cs

/-- How a line end is kept: the two separators as they are, all others as a newline. -/
def keptBreak (c : Char) : Char :=
  if c = '\u2028' || c = '\u2029' then c else '\n'

/-! ### Positions -/

/-- The place of a character: how many stand before it, its line and its column. -/
structure Position where
  index : Nat := 0
  line : Nat := 0
  column : Nat := 0
  deriving DecidableEq, Repr, Inhabited

def Position.next (p : Position) : Position :=
  { p with index := p.index + 1, column := p.column + 1 }

def Position.advance (p : Position) (n : Nat) : Position :=
  { p with index := p.index + n, column := p.column + n }

def Position.newline (p : Position) : Position :=
  { index := p.index + 1, line := p.line + 1, column := 0 }

/-- The place after a character that may end a line. A carriage return before a newline does not
end the line by itself. -/
def Position.past (p : Position) (c : Char) (rest : List Char) : Position :=
  if c = '\r' && rest.head? = some '\n' then { p with index := p.index + 1 }
  else if isBreak c then p.newline
  else p.next

end RouterConf.Yaml
