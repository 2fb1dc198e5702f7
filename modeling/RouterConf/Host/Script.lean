import RouterConf.Decimal.Integer
import RouterConf.Host.Basic

/-!
# Small scripts

A script is a sequence of plain commands. It is first cut into words and marks, then into commands
with what joins each to the one before, and then run command by command on the files.
-/

namespace RouterConf

namespace Script

/-! ### Words -/

inductive Token where
  | word (s : String)
  /-- Goes on whatever came of the command before. -/
  | next
  /-- Goes on if the command before succeeded. -/
  | ifOk
  /-- Goes on if the command before failed. -/
  | ifFailed
  /-- The word after this names the file that takes the output. -/
  | into
  /-- As `into`, but the output goes after what is in the file. -/
  | onto
  deriving DecidableEq, Repr

/-- The word read so far, if any, in front of the other tokens. -/
def flush (word : Option (List Char)) (rest : List Token) : List Token :=
  match word with
  | none => rest
  | some cs => .word (String.ofList cs.reverse) :: rest

/-- Cuts a script. `quote` is the mark that ends the quotation in which the text stands, and `word`
the word read so far, last character first. -/
def tokens (quote : Option Char) (word : Option (List Char)) : List Char → List Token
  | [] => flush word []
  | c :: rest =>
    match quote with
    | some q =>
      if c = q then tokens none word rest else tokens quote (some (c :: word.getD [])) rest
    | none =>
      -- A quotation belongs to the word around it, and is a word even if it is empty.
      if c = '\x27' ∨ c = '\x22' then tokens (some c) (some (word.getD [])) rest
      else if c = ' ' ∨ c = '\t' then flush word (tokens none none rest)
      else if c = ';' ∨ c = '\n' then flush word (.next :: tokens none none rest)
      else
        match c, rest with
        | '&', '&' :: rest => flush word (.ifOk :: tokens none none rest)
        | '|', '|' :: rest => flush word (.ifFailed :: tokens none none rest)
        | '>', '>' :: rest => flush word (.onto :: tokens none none rest)
        | '>', rest => flush word (.into :: tokens none none rest)
        | c, rest => tokens none (some (c :: word.getD [])) rest

/-! ### Commands -/

inductive Output where
  | dropped
  | into (p : Path)
  | onto (p : Path)
  deriving DecidableEq, Repr, Inhabited

/-- A command with what joins it to the one before. -/
structure Command where
  join : Token := .next
  words : List String := []
  output : Output := .dropped
  deriving Inhabited

/-- The commands of a script; `current` is the one read so far, its last word first. -/
def commands (current : Command) : List Token → List Command
  | [] => [{ current with words := current.words.reverse }]
  | .word s :: rest => commands { current with words := s :: current.words } rest
  | .into :: .word p :: rest => commands { current with output := .into p } rest
  | .onto :: .word p :: rest => commands { current with output := .onto p } rest
  | .into :: rest => commands current rest
  | .onto :: rest => commands current rest
  -- Any other token ends the command and joins the next one to it.
  | join :: rest =>
    { current with words := current.words.reverse } :: commands { join } rest

/-! ### Running -/

/-- Where a script stands: the files, the status of the last command, and how it ended if it did. -/
structure Run where
  files : FileTree
  last : Nat := 0
  ended : Option ExitStatus := none

namespace Run

def yielding (r : Run) (status : Nat) : Run :=
  { r with last := status }

/-- After a change to the files; a change that fails has a status of its own. -/
def changing (r : Run) (failure : Nat) (step : FileTree → Except OsError FileTree) : Run :=
  match step r.files with
  | .ok files => { r with files, last := 0 }
  | .error _ => { r with last := failure }

def ending (r : Run) (status : ExitStatus) : Run :=
  { r with ended := some status }

end Run

/-- A tree where a file is there; one that is there already stays as it is. -/
def touch (p : Path) (t : FileTree) : Except OsError FileTree :=
  if t.pathExists p then .ok t else t.write p (.text "")

def put (output : Output) (text : String) (t : FileTree) : Except OsError FileTree :=
  match output with
  | .dropped => .ok t
  | .into p => t.write p (.text text)
  | .onto p =>
    match t.readText p with
    | .ok before => t.write p (.text (before ++ text))
    | .error .notFound => t.write p (.text text)
    | .error e => .error e

/-- The number of a signal that is given by number or by name. -/
def signalOf (option : String) : Option Nat :=
  match option.toList with
  | '-' :: cs =>
    match Decimal.readNat 10 cs with
    | some n => some n
    | none =>
      let name := String.ofList cs
      (ExitStatus.signalNames.findIdx? fun s => s = name || s = "SIG" ++ name).map (· + 1)
  | _ => none

def runWords (words : List String) (output : Output) (r : Run) : Run :=
  match words with
  | [] => r.changing 2 (put output "")
  | ["exit"] => r.ending (.code r.last)
  | ["exit", n] => r.ending (.code (((Decimal.readNat 10 n.toList).map (· % 256)).getD 2))
  | ["kill", "$$"] => r.ending (.signal 15)
  | ["kill", option, "$$"] =>
    match signalOf option with
    | some n => r.ending (.signal n)
    | none => r.yielding 2
  | "echo" :: words => r.changing 2 (put output (" ".intercalate words ++ "\n"))
  | "true" :: _ => r.changing 2 (put output "")
  | ":" :: _ => r.changing 2 (put output "")
  | "false" :: _ => (r.changing 2 (put output "")).yielding 1
  | ["touch", p] => r.changing 1 (touch p)
  | ["rm", "-f", p] =>
    r.changing 1 fun t => match t.remove p with
      | .error .notFound => .ok t
      | other => other
  | ["rm", p] => r.changing 1 fun t => t.remove p
  | ["mkdir", p] => r.changing 1 fun t => t.makeDirectory p
  | ["mkdir", "-p", p] =>
    let (outcome, files) := r.files.makeDirectories p
    { r with files, last := if outcome.toOption.isSome then 0 else 1 }
  | ["test", "-e", p] => r.yielding (if r.files.pathExists p then 0 else 1)
  | ["test", "-f", p] => r.yielding (if r.files.isFile p then 0 else 1)
  | ["test", "-d", p] => r.yielding (if r.files.isDirectory p then 0 else 1)
  | _ => r.yielding 127

/-- Whether a command is run after a status. -/
def goesOn (join : Token) (last : Nat) : Bool :=
  match join with
  | .ifOk => last = 0
  | .ifFailed => last ≠ 0
  | _ => true

/-- Runs a command unless the script has ended or the command is not to run. -/
def step (r : Run) (c : Command) : Run :=
  if r.ended.isSome || !goesOn c.join r.last then r
  else if c.words.isEmpty && c.output = .dropped then r
  else runWords c.words c.output r

def run (script : String) (t : FileTree) : ExitStatus × FileTree :=
  let r := (commands {} (tokens none none script.toList)).foldl step { files := t }
  (r.ended.getD (.code r.last), r.files)

end Script

end RouterConf
