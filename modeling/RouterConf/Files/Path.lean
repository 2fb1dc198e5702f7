import RouterConf.Text.Blank

/-!
# Paths as texts

A path is kept as it is written. It consists of segments between slashes; empty segments and single
dots say nothing, except a dot at the very front, and a slash at the front makes the path absolute.
Paths whose bytes are no UTF-8 are outside the model.

Main statement: `Path.join_empty_left`.
-/

namespace RouterConf

abbrev Path := String

namespace Path

def segments (p : Path) : List (List Char) :=
  Text.splitOn '/' p.toList

def isAbsolute (p : Path) : Bool :=
  p.toList.head? = some '/'

/-- A path below another. An absolute path replaces the other; otherwise one slash stands between
them, unless the first is empty or ends in one. -/
def join (base p : Path) : Path :=
  if isAbsolute p then p
  else if base.isEmpty || base.toList.getLast? = some '/' then base ++ p
  else base ++ "/" ++ p

@[simp] theorem join_empty_left (p : Path) : join "" p = p := by
  unfold join
  split <;> simp

/-- Whether a segment says nothing. -/
def isIdle (segment : List Char) : Bool :=
  segment = [] || segment = ['.']

/-- The segments, last one first, without those at the end that say nothing; the first segment of
the path always stays. -/
def dropIdle : List (List Char) → List (List Char)
  | [] => []
  | [first] => [first]
  | s :: ss => if isIdle s then dropIdle ss else s :: ss

def ofReversed (segments : List (List Char)) : Path :=
  String.ofList (List.intercalate ['/'] segments.reverse)

/-- The path without its last component; the empty path and the root have none to lose. -/
def parent? (p : Path) : Option Path :=
  match dropIdle p.segments.reverse with
  | [] => none
  | [first] => if first.isEmpty then none else some ""
  | _ :: rest =>
    match dropIdle rest with
    | [[]] => some "/"
    | rest => some (ofReversed rest)

/-- The last component of a path, if it is a name. -/
def fileName? (p : Path) : Option String :=
  match dropIdle p.segments.reverse with
  | [] => none
  | name :: _ => if isIdle name || name = ['.', '.'] then none else some (String.ofList name)

/-- A name cut at its last dot, unless the dot is missing or at the front: the stem and the
extension. -/
def cutExtension (name : List Char) : List Char × Option (List Char) :=
  let extension := name.reverse.takeWhile (· ≠ '.')
  let stem := (name.reverse.dropWhile (· ≠ '.')).drop 1
  if extension.length = name.length || stem.isEmpty then (name, none)
  else (stem.reverse, some extension.reverse)

def extension? (p : Path) : Option String :=
  (fileName? p).bind fun name => (cutExtension name.toList).2.map String.ofList

/-- A path whose last segment is a name, with the extension of that name replaced. The old extension
is taken off up to its dot; where two dots alone remain, which lead upward and bear no extension,
none is put in its place. -/
def withExtension (p : Path) (extension : String) : Path :=
  match p.segments.reverse with
  | [] => p
  | name :: rest =>
    match cutExtension name with
    | (['.'], some _) => ofReversed (['.', '.'] :: rest)
    | (stem, _) => ofReversed ((stem ++ '.' :: extension.toList) :: rest)

end Path

end RouterConf
