import RouterConf.Yaml.Token.Scalar

/-!
# Dividing a YAML stream into tokens

Block structure is read off the indentation: a deeper column opens a collection, a shallower one
closes it. A mapping key that is not marked as such is recognised only at the colon after it; the
tokens that open it are then put in front of it, which is possible on the same line and up to 1024
characters back.
-/

namespace RouterConf.Yaml

/-- A place where a mapping key may have started. A required one has to turn out to be a key. -/
structure KeyCandidate where
  required : Bool
  token : Nat
  position : Position
  deriving Repr

/-- The state between two tokens. -/
structure Lexer where
  rest : List Char
  position : Position := {}
  tokens : Array Token := #[]
  /-- The column of the innermost block collection, `-1` outside all. -/
  indent : Int := -1
  outer : List Int := []
  /-- Whether a key may start here. -/
  keyAllowed : Bool := true
  /-- The candidate outside all flow collections, or in the innermost of them. -/
  candidate : Option KeyCandidate := none
  /-- The candidates of the enclosing levels, one for each open flow collection. -/
  enclosing : List (Option KeyCandidate) := []

namespace Lexer

/-- Whether the place is inside a flow collection. -/
def inFlow (s : Lexer) : Bool :=
  !s.enclosing.isEmpty

def emit (s : Lexer) (t : Token) : Lexer :=
  { s with tokens := s.tokens.push t }

def drop (s : Lexer) (n : Nat) : Lexer :=
  { s with rest := s.rest.drop n, position := s.position.advance n }

def dropWhile (s : Lexer) (p : Char → Bool) : Lexer :=
  s.drop (s.rest.takeWhile p).length

/-! ### Indentation -/

/-- Opens a block collection at a column deeper than the innermost one; its token goes to the place
`at?`, or to the end. -/
def roll (s : Lexer) (column : Nat) (at? : Option Nat) (t : Token) : Lexer :=
  if s.inFlow || (column : Int) ≤ s.indent then s
  else
    { s with
      outer := s.indent :: s.outer
      indent := column
      tokens := match at? with
        | some n => s.tokens.insertIdxIfInBounds n t
        | none => s.tokens.push t }

/-- Closes the block collections that are deeper than a column, given the enclosing ones. -/
def unrollFrom (column : Int) (s : Lexer) : List Int → Lexer
  | [] => s
  | i :: is =>
    if s.indent ≤ column then s
    else unrollFrom column { s.emit .blockEnd with indent := i, outer := is } is

def unroll (s : Lexer) (column : Int) : Lexer :=
  if s.inFlow then s else unrollFrom column s s.outer

/-! ### Candidates for keys -/

/-- Gives up the candidate of the innermost level; a required one may not be given up. -/
def dropCandidate (s : Lexer) : Option Lexer :=
  if s.candidate.any (·.required) then none else some { s with candidate := none }

def noteCandidate (s : Lexer) : Option Lexer :=
  if s.keyAllowed then do
    -- What starts at the column of a block collection has to be a key.
    let required := !s.inFlow && s.indent = s.position.column
    let s ← s.dropCandidate
    return { s with candidate := some ⟨required, s.tokens.size, s.position⟩ }
  else some s

/-- Whether a candidate lies on an earlier line or too far back. -/
def isStale (s : Lexer) (k : KeyCandidate) : Bool :=
  k.position.line < s.position.line || k.position.index + 1024 < s.position.index

/-- A candidate after a step: a stale one is given up, unless it is required. -/
def refresh (s : Lexer) : Option KeyCandidate → Option (Option KeyCandidate)
  | none => some none
  | some k =>
    if s.isStale k then (if k.required then none else some none) else some (some k)

def dropStale (s : Lexer) : Option Lexer := do
  let candidate ← s.refresh s.candidate
  let enclosing ← s.enclosing.mapM s.refresh
  return { s with candidate, enclosing }

/-! ### Between tokens -/

/-- Passes over blanks, comments and line ends. A tab counts as a blank only where no key may start,
and a byte order mark only at the start of a line. -/
def skipBlank (inFlow : Bool) (inComment keyAllowed : Bool) (pos : Position) :
    List Char → Bool × Position × List Char
  | [] => (keyAllowed, pos, [])
  | c :: rest =>
    if isBreak c then
      -- These two are one line end, which counts at the second of them.
      if c = '\r' && rest.head? = some '\n' then
        skipBlank inFlow inComment keyAllowed (pos.past c rest) rest
      -- Outside flow collections a new line may start with a key.
      else skipBlank inFlow false (keyAllowed || !inFlow) pos.newline rest
    else if inComment || c = ' ' || (c = '\t' && (inFlow || !keyAllowed)) ||
        (c = '\ufeff' && pos.column = 0) then
      skipBlank inFlow inComment keyAllowed pos.next rest
    else if c = '#' then skipBlank inFlow true keyAllowed pos.next rest
    else (keyAllowed, pos, c :: rest)

def skip (s : Lexer) : Lexer :=
  let (keyAllowed, position, rest) := skipBlank s.inFlow false s.keyAllowed s.position s.rest
  { s with keyAllowed, position, rest }

/-- Passes over the rest of a line that holds nothing but a comment, and over its end. -/
def skipLine (s : Lexer) : Option Lexer :=
  let s := s.dropWhile isBlank
  let s := if s.rest.head? = some '#' then s.dropWhile (!isBreak ·) else s
  match s.rest with
  | [] => some s
  | '\r' :: '\n' :: rest =>
    some { s with rest, position := (s.position.past '\r' ['\n']).newline }
  | c :: rest => if isBreak c then some { s with rest, position := s.position.newline } else none

/-! ### Tags and directives -/

def asciiBytes (cs : List Char) : Tag :=
  cs.map fun c => UInt8.ofNat c.toNat

/-- A character that may stand in a tag; the separators of flow collections only where `verbatim`.
-/
def isTagChar (verbatim : Bool) (c : Char) : Bool :=
  isNameChar c || ";/?:@&=+$.!~*\x27()%".toList.contains c ||
    (verbatim && (c = ',' || c = '[' || c = ']'))

/-- How many bytes a character of UTF-8 has that starts with this byte. -/
def encodedWidth (b : Nat) : Option Nat :=
  if b < 0x80 then some 1
  else if 0xC0 ≤ b ∧ b < 0xE0 then some 2
  else if 0xE0 ≤ b ∧ b < 0xF0 then some 3
  else if 0xF0 ≤ b ∧ b < 0xF8 then some 4
  else none

/-- The bytes of a tag, with percent escapes decoded. `due` bytes of an escaped character are still
to come. -/
def tagBytes : (due : Nat) → List Char → Option Tag
  | 0, [] => some []
  | _ + 1, [] => none
  | due, '%' :: a :: b :: rest => do
    let byte ← Decimal.digitsValue 16 [a, b]
    let due ← match due with
      | 0 => (encodedWidth byte).map (· - 1)
      | n + 1 => if 0x80 ≤ byte ∧ byte < 0xC0 then some n else none
    return UInt8.ofNat byte :: (← tagBytes due rest)
  | 0, c :: rest =>
    if c = '%' then none else do return UInt8.ofNat c.toNat :: (← tagBytes 0 rest)
  | _ + 1, _ => none

/-- The tag characters that come next. -/
def scanTagChars (s : Lexer) (verbatim : Bool) : Option (Tag × Lexer) := do
  let cs := s.rest.takeWhile (isTagChar verbatim)
  return (← tagBytes 0 cs, s.drop cs.length)

/-- What may be a tag handle: an exclamation mark, name characters and perhaps a second mark. -/
def scanHandle (s : Lexer) : Option (List Char × Lexer) :=
  if s.rest.head? = some '!' then
    let name := (s.rest.drop 1).takeWhile isNameChar
    let s := s.drop (name.length + 1)
    if s.rest.head? = some '!' then some ('!' :: name ++ ['!'], s.drop 1)
    else some ('!' :: name, s)
  else none

/-- A tag: verbatim, with a handle, or local. -/
def scanTag (s : Lexer) : Option (Token × Lexer) := do
  let (handle, suffix, s) ←
    if (s.rest.drop 1).head? = some '<' then do
      let (suffix, s) ← (s.drop 2).scanTagChars true
      if suffix.isEmpty || s.rest.head? != some '>' then none
      else some ("", suffix, s.drop 1)
    else do
      let (name, s) ← s.scanHandle
      let (suffix, s) ← s.scanTagChars false
      if 1 < name.length && name.getLast? = some '!' then
        if suffix.isEmpty then none else some (String.ofList name, suffix, s)
      else
        -- Without a second mark this was no handle, and the name is part of the tag itself.
        let suffix := asciiBytes (name.drop 1) ++ suffix
        if suffix.isEmpty then some ("", asciiBytes ['!'], s) else some ("!", suffix, s)
  -- A tag stands apart from what it belongs to.
  if atBlank s.rest || (s.inFlow && s.rest.head? = some ',') then
    return (.tag handle suffix, s)
  else none

/-- The number of a version: at most nine digits. -/
def scanVersionNumber (s : Lexer) : Option (Nat × Lexer) := do
  let digits := s.rest.takeWhile Char.isDigit
  if digits.isEmpty || 9 < digits.length then none
  else return (← Decimal.digitsValue 10 digits, s.drop digits.length)

def scanDirective (s : Lexer) : Option Lexer := do
  let s := s.drop 1
  let name := s.rest.takeWhile isNameChar
  let s := s.drop name.length
  if name.isEmpty || !atBlank s.rest then none
  else
    let s := s.dropWhile isBlank
    if name = "YAML".toList then do
      let (major, s) ← s.scanVersionNumber
      if s.rest.head? != some '.' then none
      else
        let (minor, s) ← (s.drop 1).scanVersionNumber
        (s.emit (.versionDirective major minor)).skipLine
    else if name = "TAG".toList then do
      let (handle, s) ← s.scanHandle
      if 1 < handle.length && handle.getLast? != some '!' then none
      else if !(s.rest.head?.any isBlank) then none
      else
        let (lead, s) ← (s.dropWhile isBlank).scanTagChars true
        if lead.isEmpty || !atBlank s.rest then none
        else (s.emit (.tagDirective (String.ofList handle) lead)).skipLine
    else none

/-! ### Tokens -/

def emitScalar (s : Lexer) (r : Scanned) (plain : Bool) : Lexer :=
  { s.emit (.scalar r.text plain) with position := r.position, rest := r.rest }

/-- A token that stands between documents. -/
def documentToken (s : Lexer) : Option Lexer := do
  let s ← (s.unroll (-1)).dropCandidate
  return { s with keyAllowed := false }

def openFlow (s : Lexer) (t : Token) : Option Lexer := do
  let s ← s.noteCandidate
  return { (s.emit t).drop 1 with
    enclosing := s.candidate :: s.enclosing, candidate := none, keyAllowed := true }

def closeFlow (s : Lexer) (t : Token) : Option Lexer := do
  let s ← s.dropCandidate
  let s := { (s.emit t).drop 1 with keyAllowed := false }
  -- The level outside goes on with the candidate that it had.
  match s.enclosing with
  | [] => return s
  | k :: ks => return { s with candidate := k, enclosing := ks }

def blockEntry (s : Lexer) : Option Lexer := do
  let s ←
    if s.inFlow then some s
    else if s.keyAllowed then some (s.roll s.position.column none .blockSequenceStart)
    else none
  let s ← s.dropCandidate
  return { (s.emit .blockEntry).drop 1 with keyAllowed := true }

def explicitKey (s : Lexer) : Option Lexer := do
  let s ←
    if s.inFlow then some s
    else if s.keyAllowed then some (s.roll s.position.column none .blockMappingStart)
    else none
  let s ← s.dropCandidate
  return { (s.emit .key).drop 1 with keyAllowed := !s.inFlow }

def valueMark (s : Lexer) : Option Lexer :=
  match s.candidate with
  | some k =>
    -- The tokens that open the key belong where the key started.
    let s := { s with tokens := s.tokens.insertIdxIfInBounds k.token .key, candidate := none }
    let s := s.roll k.position.column (some k.token) .blockMappingStart
    some { (s.emit .value).drop 1 with keyAllowed := false }
  | none => do
    let s ←
      if s.inFlow then some s
      else if s.keyAllowed then some (s.roll s.position.column none .blockMappingStart)
      else none
    return { (s.emit .value).drop 1 with keyAllowed := !s.inFlow }

def anchorOrAlias (s : Lexer) (token : String → Token) : Option Lexer := do
  let s ← s.noteCandidate
  let s := { s.drop 1 with keyAllowed := false }
  let name := s.rest.takeWhile isNameChar
  let s := s.drop name.length
  if name.isEmpty then none
  else if atBlank s.rest || s.rest.head?.any ("?:,]\x7d%@\x60".toList.contains ·) then
    return s.emit (token (String.ofList name))
  else none

def blockScalar (s : Lexer) (folded : Bool) : Option Lexer := do
  let s ← s.dropCandidate
  let s := s.drop 1
  let (chomp, increment, rest) ← blockHeader s.rest
  let s ← (s.drop (s.rest.length - rest.length)).skipLine
  -- A stated indentation counts from that of the enclosing collection.
  let base := s.indent.toNat
  let indent := if increment = 0 then none else some (base + increment)
  let r ← scanBlock folded chomp (max (s.indent + 1).toNat 1) { indent } s.position s.rest
  return { s.emitScalar r false with keyAllowed := true }

def quotedScalar (s : Lexer) (quote : Char) : Option Lexer := do
  let s ← s.noteCandidate
  let r ← scanQuoted quote 0 {} [] s.position.next (s.rest.drop 1)
  return { s.emitScalar r false with keyAllowed := false }

def plainScalar (s : Lexer) : Option Lexer := do
  let s ← s.noteCandidate
  let r ← scanPlain s.inFlow (s.indent + 1).toNat true {} [] s.position s.rest
  return { s.emitScalar r true with keyAllowed := r.broken }

def startsPlain (s : Lexer) (c : Char) (rest : List Char) : Bool :=
  !("-?:,[]\x7b\x7d#&*!|>\x27\x22%@\x60".toList.contains c || isBlank c) ||
    (c = '-' && !rest.head?.any isBlank) ||
    (!s.inFlow && (c = '?' || c = ':') && !atBlank rest)

/-- The token that starts with the character `c` before `rest`. -/
def fetch (s : Lexer) (c : Char) (rest : List Char) : Option Lexer :=
  -- Directives and document markers are such only at the start of a line.
  let atStart := s.position.column = 0
  if atStart && c = '%' then s.documentToken.bind scanDirective
  else if atStart && atMarker '-' (c :: rest) then
    s.documentToken.map fun s => (s.emit .documentStart).drop 3
  else if atStart && atMarker '.' (c :: rest) then
    s.documentToken.map fun s => (s.emit .documentEnd).drop 3
  else if c = '[' then s.openFlow .flowSequenceStart
  else if c = '\x7b' then s.openFlow .flowMappingStart
  else if c = ']' then s.closeFlow .flowSequenceEnd
  else if c = '\x7d' then s.closeFlow .flowMappingEnd
  else if c = ',' then do
    let s ← s.dropCandidate
    return { (s.emit .flowEntry).drop 1 with keyAllowed := true }
  -- The marks of block structure stand before a blank, else they may start a scalar.
  else if c = '-' && atBlank rest then s.blockEntry
  else if c = '?' && (s.inFlow || atBlank rest) then s.explicitKey
  else if c = ':' && (s.inFlow || atBlank rest) then s.valueMark
  else if c = '*' then s.anchorOrAlias .aliasOf
  else if c = '&' then s.anchorOrAlias .anchor
  else if c = '!' then do
    let s ← s.noteCandidate
    let (t, s) ← s.scanTag
    return { s.emit t with keyAllowed := false }
  -- Block scalars do not occur inside flow collections.
  else if c = '|' && !s.inFlow then s.blockScalar false
  else if c = '>' && !s.inFlow then s.blockScalar true
  else if c = '\x27' || c = '\x22' then s.quotedScalar c
  else if s.startsPlain c rest then s.plainScalar
  else none

/-- All tokens from here on. Every step but the last passes over a character, so that `fuel` more
than the characters left is never used up. -/
def run (s : Lexer) : (fuel : Nat) → Option (Array Token)
  | 0 => none
  | fuel + 1 => do
    -- Candidates go stale and collections end before the next token is looked at.
    let s ← s.skip.dropStale
    let s := s.unroll s.position.column
    match s.rest with
    | [] => return (← (s.unroll (-1)).dropCandidate).tokens
    | c :: rest => (← s.fetch c rest).run fuel

end Lexer

/-- The tokens of a stream, if it can be divided. -/
def Token.scan (text : String) : Option (List Token) :=
  let cs := text.toList
  if cs.all isAllowed then (({ rest := cs : Lexer }).run (cs.length + 1)).map Array.toList else none

end RouterConf.Yaml
