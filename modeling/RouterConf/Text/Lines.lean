/-!
# Lines

A text made of lines, each of which is ended by a line break.

Main statement: `toList_ofLines`.
-/

namespace RouterConf.Text

def ofLines (lines : List String) : String :=
  String.join (lines.map (· ++ "\n"))

@[simp] theorem ofLines_nil : ofLines [] = "" := rfl

@[simp] theorem ofLines_cons (line : String) (lines : List String) :
    ofLines (line :: lines) = line ++ "\n" ++ ofLines lines := by
  simp [ofLines]

/-- The characters of a text, from those of its lines. -/
theorem toList_ofLines {lines : List String} {css : List (List Char)}
    (h : lines.map String.toList = css) : (ofLines lines).toList = css.flatMap (· ++ ['\n']) := by
  subst h
  induction lines with
  | nil => rfl
  | cons line lines ih => simp [ih]

end RouterConf.Text
