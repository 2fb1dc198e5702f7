import RouterConf.Decimal.Integer
import RouterConf.Yaml.Token

/-!
# Scalars of a YAML stream

The text of a scalar in each of its written forms: between quotes, plain, and as a block. A scalar
may run over several lines, whose ends are then folded: one line end becomes a space, and of several
all but the first are kept.

The texts are collected in reverse.
-/

namespace RouterConf.Yaml

/-- What a scan yields: a text, whether the next token may open a line of its own, the place reached
and the characters left. -/
structure Scanned where
  text : String
  broken : Bool := false
  position : Position
  rest : List Char

/-! ### Line folding -/

/-- The white space since the last character of a scalar: the blanks of a line not yet ended, or
the first line end and the further ones. -/
structure Pending where
  blanks : List Char := []
  lead : Option Char := none
  trail : List Char := []
  broken : Bool := false

namespace Pending

/-- A blank counts only while no line has ended. -/
def blank (p : Pending) (c : Char) : Pending :=
  if p.broken then p else { p with blanks := c :: p.blanks }

/-- The first line end drops the blanks before it. -/
def lineEnd (p : Pending) (c : Char) : Pending :=
  if p.broken then { p with trail := keptBreak c :: p.trail }
  else { lead := some (keptBreak c), broken := true }

/-- The white space as it stands in the text, before the characters of `out`. -/
def flush (p : Pending) (out : List Char) : List Char :=
  if p.broken then
    match p.lead with
    | none => p.trail ++ out
    | some c =>
      if c = '\n' then (if p.trail.isEmpty then ' ' :: out else p.trail ++ out)
      else p.trail ++ c :: out
  else p.blanks ++ out

end Pending

/-! ### Quoted scalars -/

/-- What a backslash and a character stand for: one character, or one whose code is written in so
many hexadecimal digits. -/
inductive Escape where
  | char (c : Char)
  | code (digits : Nat)

/-- The escapes of a double-quoted scalar. -/
def Escape.ofChar : Char → Option Escape
  | '0' => some (.char '\x00')
  | 'a' => some (.char '\x07')
  | 'b' => some (.char '\x08')
  | 't' => some (.char '\t')
  | '\t' => some (.char '\t')
  | 'n' => some (.char '\n')
  | 'v' => some (.char '\x0b')
  | 'f' => some (.char '\x0c')
  | 'r' => some (.char '\r')
  | 'e' => some (.char '\x1b')
  | ' ' => some (.char ' ')
  | '\x22' => some (.char '\x22')
  | '/' => some (.char '/')
  | '\\' => some (.char '\\')
  | 'N' => some (.char '\u0085')
  | '_' => some (.char '\u00a0')
  | 'L' => some (.char '\u2028')
  | 'P' => some (.char '\u2029')
  | 'x' => some (.code 2)
  | 'u' => some (.code 4)
  | 'U' => some (.code 8)
  | _ => none

/-- The character whose code the next `n` hexadecimal digits spell; surrogates and codes beyond the
last are refused. -/
def codeChar? (n : Nat) (cs : List Char) : Option Char :=
  let digits := cs.take n
  if digits.length = n then
    (Decimal.digitsValue 16 digits).bind fun v =>
      if v < 0xD800 ∨ (0xDFFF < v ∧ v ≤ 0x10FFFF) then some (Char.ofNat v) else none
  else none

/-- The rest of a quoted scalar after its opening quote. `skip` characters are passed over first. -/
def scanQuoted (quote : Char) (skip : Nat) (pending : Pending) (out : List Char) (pos : Position) :
    List Char → Option Scanned
  | [] => none
  | c :: rest =>
    match skip with
    | n + 1 => scanQuoted quote n pending out (pos.past c rest) rest
    | 0 =>
      -- No document may end inside a quotation.
      if pos.column = 0 && atDocumentMarker (c :: rest) then none
      else if isBlank c then scanQuoted quote 0 (pending.blank c) out pos.next rest
      else if isBreak c then
        -- These two are one line end, which is taken at the second of them.
        if c = '\r' && rest.head? = some '\n' then
          scanQuoted quote 0 pending out (pos.past c rest) rest
        else scanQuoted quote 0 (pending.lineEnd c) out pos.newline rest
      else if c = quote then
        -- A single quote that is written twice stands for itself.
        if quote = '\x27' && rest.head? = some quote then
          scanQuoted quote 1 {} (c :: pending.flush out) pos.next rest
        else some
          { text := String.ofList (pending.flush out).reverse, position := pos.next, rest := rest }
      else if c = '\\' && quote = '\x22' then
        match rest with
        | [] => none
        | e :: after =>
          -- The line end vanishes together with the blanks that start the next line.
          if isBreak e then
            let skip := if e = '\r' && after.head? = some '\n' then 2 else 1
            scanQuoted quote skip { broken := true } (pending.flush out) pos.next (e :: after)
          else
            match Escape.ofChar e with
            | some (.char k) =>
              scanQuoted quote 1 {} (k :: pending.flush out) pos.next (e :: after)
            | some (.code n) =>
              match codeChar? n after with
              | some k => scanQuoted quote (n + 1) {} (k :: pending.flush out) pos.next (e :: after)
              | none => none
            | none => none
      else scanQuoted quote 0 {} (c :: pending.flush out) pos.next rest

/-! ### Plain scalars -/

/-- A character that ends a plain scalar inside a flow collection. -/
def isFlowIndicator (c : Char) : Bool :=
  c = ',' || c = '[' || c = ']' || c = '\x7b' || c = '\x7d'

/-- What a plain scalar yields that ends before `rest`. -/
def plainScanned (pending : Pending) (out : List Char) (pos : Position) (rest : List Char) :
    Scanned :=
  { text := String.ofList out.reverse, broken := pending.broken, position := pos, rest }

/-- A plain scalar. It ends before a comment, a document marker, a colon that a blank follows and,
outside flow collections, a line indented less than `indent`. -/
def scanPlain (flow : Bool) (indent : Nat) (inWord : Bool) (pending : Pending) (out : List Char)
    (pos : Position) : List Char → Option Scanned
  | [] => some (plainScanned pending out pos [])
  | c :: rest =>
    if isBlank c then
      -- A tab is no indentation.
      if pending.broken && c = '\t' && pos.column < indent then none
      else scanPlain flow indent false (pending.blank c) out pos.next rest
    else if isBreak c then
      if c = '\r' && rest.head? = some '\n' then
        scanPlain flow indent false pending out (pos.past c rest) rest
      else scanPlain flow indent false (pending.lineEnd c) out pos.newline rest
    -- The scalar ends in front of a line that belongs to an enclosing collection.
    else if !inWord && !out.isEmpty && !flow && pos.column < indent then
      some (plainScanned pending out pos (c :: rest))
    else if !inWord && ((pos.column = 0 && atDocumentMarker (c :: rest)) || c = '#') then
      some (plainScanned pending out pos (c :: rest))
    -- A colon in front of a flow mark could be meant either way, and is refused.
    else if flow && c = ':' && rest.head?.any (fun d => isFlowIndicator d || d = '?') then none
    else if (c = ':' && atBlank rest) || (flow && isFlowIndicator c) then
      some (plainScanned pending out pos (c :: rest))
    else scanPlain flow indent true {} (c :: pending.flush out) pos.next rest

/-! ### Block scalars -/

/-- What becomes of the line ends after the last line of a block scalar. -/
inductive Chomp where
  | strip
  | clip
  | keep
  deriving DecidableEq

/-- The header of a block scalar: its chomping and its stated indentation, in either order. -/
def blockHeader (cs : List Char) : Option (Chomp × Nat × List Char) :=
  let chomp : List Char → Chomp × List Char
    | '+' :: r => (.keep, r)
    | '-' :: r => (.strip, r)
    | r => (.clip, r)
  let increment : List Char → Option (Nat × List Char)
    | c :: r =>
      if c = '0' then none
      else if c.isDigit then some (c.toNat - 48, r)
      else some (0, c :: r)
    | [] => some (0, [])
  match chomp cs with
  -- The mark of chomping has not come first, and may come after the indentation.
  | (.clip, r) => do
    let (n, r) ← increment r
    let (k, r) := chomp r
    return (k, n, r)
  | (k, r) => do
    let (n, r) ← increment r
    return (k, n, r)

/-- The state within a block scalar. The indentation is open until the first line that is not
empty; `widest` is the widest indentation of the empty lines before it. -/
structure Block where
  indent : Option Nat
  widest : Nat := 0
  lead : Option Char := none
  trail : List Char := []
  out : List Char := []
  afterBlank : Bool := false
  inLine : Bool := false

namespace Block

/-- The text up to a line that starts with `c`. A newline between two lines that do not start with a
blank is folded. -/
def openLine (b : Block) (folded : Bool) (c : Char) : Block :=
  let out :=
    if folded && b.lead = some '\n' && !b.afterBlank && !isBlank c then
      if b.trail.isEmpty then ' ' :: b.out else b.out
    else b.lead.toList ++ b.out
  { b with
    out := c :: (b.trail ++ out), lead := none, trail := []
    afterBlank := isBlank c, inLine := true }

def close (b : Block) (chomp : Chomp) : String :=
  let out := if chomp = .strip then b.out else b.lead.toList ++ b.out
  let out := if chomp = .keep then b.trail ++ out else out
  String.ofList out.reverse

end Block

/-- The lines of a block scalar. An open indentation is at least `floor`. -/
def scanBlock (folded : Bool) (chomp : Chomp) (floor : Nat) (b : Block) (pos : Position) :
    List Char → Option Scanned
  | [] => some { text := b.close chomp, broken := true, position := pos, rest := [] }
  | c :: rest =>
    if isBreak c then
      if c = '\r' && rest.head? = some '\n' then
        scanBlock folded chomp floor b (pos.past c rest) rest
      -- The first line end after text is kept apart: whether it is folded shows with the next text.
      else if b.inLine then
        scanBlock folded chomp floor { b with lead := some (keptBreak c), inLine := false }
          pos.newline rest
      else
        scanBlock folded chomp floor
          { b with trail := keptBreak c :: b.trail, widest := max b.widest pos.column }
          pos.newline rest
    else if b.inLine then
      scanBlock folded chomp floor { b with out := c :: b.out } pos.next rest
    else
      let inIndent := b.indent.all (pos.column < ·)
      -- At the start of a line: still indentation, or the first character of its text.
      if inIndent && c = ' ' then scanBlock folded chomp floor b pos.next rest
      else if inIndent && c = '\t' then none
      else
        -- The first line with text settles the indentation if the header left it open.
        let indent := b.indent.getD (max (max b.widest pos.column) floor)
        if pos.column = indent then
          scanBlock folded chomp floor ({ b with indent := some indent }.openLine folded c)
            pos.next rest
        else some
          { text := b.close chomp, broken := true, position := pos, rest := c :: rest }

end RouterConf.Yaml
