import RouterConf.Proofs.Text.Parts
import RouterConf.Text.Lines

/-!
# Reading a text line by line

What `Text.ofLines` puts together is taken apart again at the line breaks. A line comes back as one
line if it has no break of its own; with breaks it comes back as one line more for each of them
(`length_linesOf_ofLines`). So a text has the lines that it was made of just if each of them is one
line (`linesOf_ofLines_eq_iff`), and a single break anywhere gives it a line that nobody wrote.

The reader of such a text goes by how its lines start. Lines with leads that are apart, neither of
them a start of the other, are never taken for one another, whatever follows the leads. A break does
not hide a lead either, since it comes after it: what is read has all the leads that were written,
and breaks only add to them (`countLed_le_linesOf`).
-/

namespace RouterConf.Text

-- Sums of numbers start with the numeral.
attribute [local instance(2000)] Zero.ofOfNat0

/-! ### Texts of one line -/

/-- The text has no line break. -/
def OneLine (s : String) : Prop :=
  '\n' ∉ s.toList

instance (s : String) : Decidable (OneLine s) :=
  inferInstanceAs (Decidable ('\n' ∉ s.toList))

/-- Two texts make one line just if each of them is one. -/
@[simp] theorem oneLine_append {a b : String} : OneLine (a ++ b) ↔ OneLine a ∧ OneLine b := by
  simp [OneLine]

/-- A number that is written out has digits and a sign, and so no break. -/
theorem oneLine_toString (n : Int) : OneLine (toString n) := by
  have digits : ∀ k : Nat, OneLine k.repr := by
    intro k h
    rw [Nat.toList_repr] at h
    exact absurd (Nat.isDigit_of_mem_toDigits (by decide) (by decide) h) (by decide)
  cases n with
  | ofNat k => exact digits k
  | negSucc k =>
    have signed : OneLine ("-" ++ (k + 1).repr) := oneLine_append.2 ⟨by decide, digits (k + 1)⟩
    exact signed

/-! ### Lines -/

/-- The parts of a text between its line breaks. -/
def parts (s : String) : List String :=
  (splitOn '\n' s.toList).map String.ofList

/-- The lines of a text. A break at the end of the text ends the last line and begins no other. -/
def linesOf (s : String) : List String :=
  if (parts s).getLast? = some "" then (parts s).dropLast else parts s

/-- A text of one line is its own only part. -/
theorem parts_of_oneLine {s : String} (h : OneLine s) : parts s = [s] := by
  rw [parts, splitOn_of_notMem h, List.map_singleton, String.ofList_toList]

/-- Every line gives its parts. The break that ends the last line has nothing behind it. -/
theorem parts_ofLines (lines : List String) :
    parts (ofLines lines) = lines.flatMap parts ++ [""] := by
  induction lines with
  | nil => rfl
  | cons line lines ih =>
    -- The break that ends a line separates its parts from those of the lines after it.
    have taken : (ofLines (line :: lines)).toList =
        line.toList ++ '\n' :: (ofLines lines).toList := by
      simp
    rw [parts, taken, splitOn_append_cons, List.map_append, List.flatMap_cons, List.append_assoc,
      ← ih]
    rfl

/-- **The lines of a text that was made of lines** are the parts of these, one after the other. -/
theorem linesOf_ofLines (lines : List String) : linesOf (ofLines lines) = lines.flatMap parts := by
  have ended : (parts (ofLines lines)).getLast? = some "" := by
    rw [parts_ofLines, List.getLast?_concat]
  rw [linesOf, if_pos ended, parts_ofLines, List.dropLast_concat]

/-- Each line break in a line makes one line more. -/
theorem length_linesOf_ofLines (lines : List String) :
    (linesOf (ofLines lines)).length =
      lines.length + (lines.map (·.toList.count '\n')).sum := by
  rw [linesOf_ofLines]
  induction lines with
  | nil => rfl
  | cons line lines ih =>
    have here : (parts line).length = line.toList.count '\n' + 1 := by
      rw [parts, List.length_map, length_splitOn]
    rw [List.flatMap_cons, List.length_append, ih, here, List.length_cons, List.map_cons,
      List.sum_cons]
    omega

/-- **Lines come back as they were** just if each of them is one line. -/
theorem linesOf_ofLines_eq_iff {lines : List String} :
    linesOf (ofLines lines) = lines ↔ ∀ line ∈ lines, OneLine line := by
  constructor
  · intro h line hline broken
    -- The break makes one line more, and nothing makes one less.
    have counted := length_linesOf_ofLines lines
    have more : 0 < (lines.map (·.toList.count '\n')).sum :=
      List.sum_pos_iff_exists_pos_nat.2
        ⟨_, List.mem_map_of_mem hline, List.count_pos_iff.2 broken⟩
    rw [h] at counted
    omega
  · intro h
    rw [linesOf_ofLines]
    induction lines with
    | nil => rfl
    | cons line lines ih =>
      rw [List.forall_mem_cons] at h
      rw [List.flatMap_cons, parts_of_oneLine h.1, ih h.2, List.singleton_append]

/-! ### What lines show -/

/-- The lines show these texts, and have no break but one that is in a text that they show. -/
def Shows (lines texts : List String) : Prop :=
  (∀ line ∈ lines, OneLine line) ↔ ∀ text ∈ texts, OneLine text

namespace Shows

variable {α : Type} {lines lines' texts texts' : List String}

/-- Lines without a break, such as those that are always the same, show nothing. -/
theorem nothing (h : ∀ line ∈ lines, OneLine line) : Shows lines [] :=
  ⟨fun _ _ ht => absurd ht List.not_mem_nil, fun _ => h⟩

/-- A line shows what follows its lead. -/
theorem led (lead : String) (h : OneLine lead) (text : String) : Shows [lead ++ text] [text] := by
  simp [Shows, h]

/-- Lines after lines show texts after texts. -/
theorem append (h : Shows lines texts) (h' : Shows lines' texts') :
    Shows (lines ++ lines') (texts ++ texts') := by
  rw [Shows] at h h' ⊢
  rw [List.forall_mem_append, List.forall_mem_append, h, h']

/-- The same for as many items as one likes. -/
theorem flatMap {f g : α → List String} (h : ∀ a, Shows (f a) (g a)) (as : List α) :
    Shows (as.flatMap f) (as.flatMap g) := by
  induction as with
  | nil => exact nothing fun _ hline => absurd hline List.not_mem_nil
  | cons a as ih =>
    rw [List.flatMap_cons, List.flatMap_cons]
    exact (h a).append ih

/-- One line for each of the texts, after the same lead. -/
theorem leads (lead : String) (h : OneLine lead) (texts : List String) :
    Shows (texts.map (lead ++ ·)) texts := by
  have each := flatMap (led lead h) texts
  rwa [← List.map_eq_flatMap, List.flatMap_singleton'] at each

end Shows

/-! ### How lines start -/

/-- The line starts with the lead. -/
def LedBy (lead line : String) : Prop :=
  lead.toList <+: line.toList

instance (lead line : String) : Decidable (LedBy lead line) :=
  inferInstanceAs (Decidable (lead.toList <+: line.toList))

/-- A lead stays the lead whatever is put behind the line. -/
theorem LedBy.append {lead line : String} (h : LedBy lead line) (rest : String) :
    LedBy lead (line ++ rest) := by
  rw [LedBy, String.toList_append]
  exact h.trans (List.prefix_append _ _)

/-- Neither of two leads is a start of the other. -/
def Apart (lead other : String) : Prop :=
  ¬ LedBy lead other ∧ ¬ LedBy other lead

instance (lead other : String) : Decidable (Apart lead other) :=
  inferInstanceAs (Decidable (¬ LedBy lead other ∧ ¬ LedBy other lead))

/-- Whatever follows a lead, the line does not have a lead that is apart from it. -/
theorem Apart.not_ledBy {lead other : String} (h : Apart lead other) (rest : String) :
    ¬ LedBy lead (other ++ rest) := by
  intro both
  have there : LedBy other (other ++ rest) := by
    rw [LedBy, String.toList_append]
    exact List.prefix_append _ _
  -- Of two starts of one line one is a start of the other.
  rcases List.prefix_or_prefix_of_prefix both there with starts | starts
  · exact h.1 starts
  · exact h.2 starts

/-- How many of the lines start with the lead. -/
def countLed (lead : String) (lines : List String) : Nat :=
  lines.countP (LedBy lead ·)

section CountLed

variable {lead : String} {α : Type}

/-- Of no lines none has the lead. -/
@[simp] theorem countLed_nil : countLed lead [] = 0 := rfl

/-- Lines are counted in parts, -/
@[simp] theorem countLed_append (lines lines' : List String) :
    countLed lead (lines ++ lines') = countLed lead lines + countLed lead lines' :=
  List.countP_append

/-- one by one, -/
theorem countLed_cons (line : String) (lines : List String) :
    countLed lead (line :: lines) = (if LedBy lead line then 1 else 0) + countLed lead lines := by
  rw [countLed, List.countP_cons, Nat.add_comm, countLed]
  simp only [decide_eq_true_eq]

/-- or item by item. -/
theorem countLed_flatMap (f : α → List String) (as : List α) :
    countLed lead (as.flatMap f) = (as.map fun a => countLed lead (f a)).sum :=
  List.countP_flatMap

/-- If every line has the lead, all are counted, -/
theorem countLed_map {f : α → String} (h : ∀ a, LedBy lead (f a)) (as : List α) :
    countLed lead (as.map f) = as.length := by
  rw [countLed, List.countP_map, List.countP_eq_length]
  intro a _
  exact decide_eq_true (h a)

/-- and if none has it, none is. -/
theorem countLed_map_eq_zero {f : α → String} (h : ∀ a, ¬ LedBy lead (f a)) (as : List α) :
    countLed lead (as.map f) = 0 := by
  rw [countLed, List.countP_map, List.countP_eq_zero]
  intro a _ led
  exact h a (of_decide_eq_true led)

/-- One line more with the lead for each text that is put after it. -/
theorem countLed_led {other : String} (h : LedBy lead other) (rest : String) :
    countLed lead [other ++ rest] = 1 := by
  rw [countLed_cons, if_pos (h.append rest), countLed_nil]

/-- A line with a lead that is apart is not counted. -/
theorem countLed_apart {other : String} (h : Apart lead other) (rest : String) :
    countLed lead [other ++ rest] = 0 := by
  rw [countLed_cons, if_neg (h.not_ledBy rest), countLed_nil]

/-- There is one line with the lead for each of the texts, -/
theorem countLed_leads {other : String} (h : LedBy lead other) (texts : List String) :
    countLed lead (texts.map (other ++ ·)) = texts.length :=
  countLed_map (fun text => h.append text) texts

/-- and none where the lead is apart. -/
theorem countLed_leads_apart {other : String} (h : Apart lead other) (texts : List String) :
    countLed lead (texts.map (other ++ ·)) = 0 :=
  countLed_map_eq_zero (fun text => h.not_ledBy text) texts

/-- A line that is broken keeps its lead: its first part has it. -/
theorem one_le_countLed_parts {line : String} (one : OneLine lead) (h : LedBy lead line) :
    1 ≤ countLed lead (parts line) := by
  obtain ⟨rest, hrest⟩ := h
  obtain ⟨part, others, hs⟩ := exists_splitOn_append one rest
  have first : LedBy lead (String.ofList (lead.toList ++ part)) := by
    rw [LedBy, String.toList_ofList]
    exact List.prefix_append _ _
  rw [parts, ← hrest, hs, List.map_cons, countLed_cons, if_pos first]
  exact Nat.le_add_right _ _

/-- **No lead is lost** when a text that was made of lines is read. -/
theorem countLed_le_linesOf (one : OneLine lead) (lines : List String) :
    countLed lead lines ≤ countLed lead (linesOf (ofLines lines)) := by
  rw [linesOf_ofLines]
  induction lines with
  | nil => exact Nat.le_refl _
  | cons line lines ih =>
    -- A line that counts still counts by its first part, and its other parts may only add to it.
    have here : (if LedBy lead line then 1 else 0) ≤ countLed lead (parts line) := by
      split
      · exact one_le_countLed_parts one ‹_›
      · exact Nat.zero_le _
    rw [List.flatMap_cons, countLed_append, countLed_cons]
    exact Nat.add_le_add here ih

end CountLed

end RouterConf.Text
