/-!
# File trees

A file tree says for every location whether a file or a directory is there. It is a plain value:
every operation yields the tree after it. A location is the list of names from the root; the root
itself is always a directory. Relative paths start at `home`.

What a tree does not tell is outside the model: links, owners and permissions, mounts, and how much
room is left. Names are texts, so that names whose bytes are no UTF-8 are left out as well.

Main statements: `FileTree.get?_insert`, `FileTree.get?_erase`.
-/

namespace RouterConf

/-- The names on the way from the root to a place. -/
abbrev Location := List String

-- Contents are compared by the equality that comes with byte arrays.
attribute [local instance(2000)] ByteArray.instDecidableEq

/-- What a file holds: a text, or bytes that are no text. -/
inductive FileContent where
  | text (s : String)
  | raw (bytes : ByteArray)
  deriving DecidableEq, Inhabited

namespace FileContent

def ofBytes (bytes : ByteArray) : FileContent :=
  match String.fromUTF8? bytes with
  | some s => text s
  | none => raw bytes

end FileContent

/-- What is at a location. -/
inductive FileEntry where
  | file (content : FileContent)
  | directory
  deriving DecidableEq, Inhabited

/-- Files and directories by location. -/
structure FileTree where
  home : Location
  entries : List (Location × FileEntry)
  deriving Inhabited

namespace FileTree

def get? (t : FileTree) (l : Location) : Option FileEntry :=
  if l = [] then some .directory else t.entries.lookup l

def insert (t : FileTree) (l : Location) (e : FileEntry) : FileTree :=
  { t with entries := (l, e) :: t.entries.filter (·.1 ≠ l) }

def erase (t : FileTree) (l : Location) : FileTree :=
  { t with entries := t.entries.filter (·.1 ≠ l) }

@[simp] theorem get?_root (t : FileTree) : t.get? [] = some .directory := by
  simp [get?]

theorem lookup_filter_ne {κ ν : Type} [DecidableEq κ] [BEq κ] [LawfulBEq κ] (l l' : κ)
    (es : List (κ × ν)) :
    (es.filter (·.1 ≠ l)).lookup l' = if l' = l then none else es.lookup l' := by
  induction es with
  | nil => simp
  | cons e es ih =>
    obtain ⟨k, v⟩ := e
    by_cases hk : k = l
    · rw [List.filter_cons_of_neg (by simpa using hk), ih]
      by_cases h : l' = l
      · simp [h]
      · have hb : (l' == k) = false := by simpa [hk] using h
        simp [h, List.lookup_cons, hb]
    · rw [List.filter_cons_of_pos (by simpa using hk), List.lookup_cons, List.lookup_cons, ih]
      by_cases h : l' = l
      · have hb : (l == k) = false := by simpa using Ne.symm hk
        simp [h, hb]
      · simp [h]

/-- An entry is found where it was put, and all else is as before. -/
theorem get?_insert (t : FileTree) {l : Location} (h : l ≠ []) (e : FileEntry) (l' : Location) :
    (t.insert l e).get? l' = if l' = l then some e else t.get? l' := by
  by_cases hl : l' = l
  · subst hl
    simp [get?, insert, h]
  · by_cases hn : l' = []
    · simp [get?, hn, Ne.symm h]
    · have hb : (l' == l) = false := by simpa using hl
      have hf := lookup_filter_ne l l' t.entries
      simp only [hl, if_false] at hf
      simp only [get?, insert, hn, if_false, List.lookup_cons, hb, hl]
      exact hf

/-- Nothing is found where an entry was erased, and all else is as before. -/
theorem get?_erase (t : FileTree) {l : Location} (h : l ≠ []) (l' : Location) :
    (t.erase l).get? l' = if l' = l then none else t.get? l' := by
  by_cases hn : l' = []
  · simp [get?, hn, Ne.symm h]
  · have hf := lookup_filter_ne l l' t.entries
    simp only [get?, erase, hn, if_false]
    exact hf

/-- The home location and the directories on the way to it. -/
def withHome (home : Location) : FileTree :=
  { home
    entries := ((List.range home.length).map fun n => (home.take (n + 1), .directory)) }

def names (t : FileTree) (l : Location) : List String :=
  t.entries.filterMap fun (k, _) =>
    if k.dropLast = l then k.getLast? else none

def eraseAll (t : FileTree) (l : Location) : FileTree :=
  { t with entries := t.entries.filter fun (k, _) => !l.isPrefixOf k }

/-- All locations below the home location, written as relative paths with a slash after those of
directories, in the order of code points. -/
def listing (t : FileTree) : List String :=
  let below := t.entries.filterMap fun (k, e) =>
    if t.home.isPrefixOf k && k.length > t.home.length then
      let path := "/".intercalate (k.drop t.home.length)
      some (if e = .directory then path ++ "/" else path)
    else none
  below.mergeSort (· ≤ ·)

end FileTree

end RouterConf
