import RouterConf.Text.Blank

/-!
# The parts of a text

A text falls into the parts between its separators. No part has a separator in it, and what is put
together with separators from such parts falls into them again (`splitOn_intercalate`), as the parts
of a text make it up again (`intercalate_splitOn`). So the two are inverse to each other: paths are
known by their segments, texts by their lines, and addresses by their octets.
-/

namespace RouterConf.Text

variable {sep : Char}

/-! ### Taking apart -/

/-- There is always a part, though it may be empty. -/
theorem splitOn_ne_nil (sep : Char) (cs : List Char) : splitOn sep cs ≠ [] := by
  cases cs with
  | nil => simp [splitOn]
  | cons c cs =>
    unfold splitOn
    split
    · exact List.cons_ne_nil _ _
    · split <;> exact List.cons_ne_nil _ _

/-- A character other than the separator goes to the front of the first part. -/
theorem splitOn_cons_of_ne {c : Char} (h : c ≠ sep) {cs : List Char} {part : List Char}
    {parts : List (List Char)} (hs : splitOn sep cs = part :: parts) :
    splitOn sep (c :: cs) = (c :: part) :: parts := by
  rw [splitOn, if_neg h, hs]

/-- No part has the separator in it. -/
theorem notMem_of_mem_splitOn {cs part : List Char} (h : part ∈ splitOn sep cs) : sep ∉ part := by
  induction cs generalizing part with
  | nil =>
    rw [splitOn, List.mem_singleton] at h
    rw [h]
    exact List.not_mem_nil
  | cons c cs ih =>
    obtain ⟨first, parts, hs⟩ := List.exists_cons_of_ne_nil (splitOn_ne_nil sep cs)
    by_cases hc : c = sep
    · rw [splitOn, if_pos hc, List.mem_cons] at h
      rcases h with rfl | h
      · exact List.not_mem_nil
      · exact ih h
    · -- The character is in front of the first part, and the other parts are those of the rest.
      rw [splitOn_cons_of_ne hc hs, List.mem_cons] at h
      rw [hs] at ih
      rcases h with rfl | h
      · rw [List.mem_cons, not_or]
        exact ⟨Ne.symm hc, ih List.mem_cons_self⟩
      · exact ih (List.mem_cons_of_mem _ h)

/-- All characters of a part are in the text. -/
theorem subset_of_mem_splitOn {cs part : List Char} (h : part ∈ splitOn sep cs) : part ⊆ cs := by
  induction cs generalizing part with
  | nil =>
    rw [splitOn, List.mem_singleton] at h
    rw [h]
    exact List.Subset.refl _
  | cons c cs ih =>
    obtain ⟨first, parts, hs⟩ := List.exists_cons_of_ne_nil (splitOn_ne_nil sep cs)
    by_cases hc : c = sep
    · rw [splitOn, if_pos hc, List.mem_cons] at h
      rcases h with rfl | h
      · exact List.nil_subset _
      · exact List.subset_cons_of_subset c (ih h)
    · rw [splitOn_cons_of_ne hc hs, List.mem_cons] at h
      rw [hs] at ih
      rcases h with rfl | h
      · exact List.cons_subset_cons c (ih List.mem_cons_self)
      · exact List.subset_cons_of_subset c (ih (List.mem_cons_of_mem _ h))

/-- Without a separator there is one part. -/
theorem splitOn_of_notMem {w : List Char} (h : sep ∉ w) : splitOn sep w = [w] := by
  induction w with
  | nil => rfl
  | cons c w ih =>
    rw [List.mem_cons, not_or] at h
    exact splitOn_cons_of_ne (Ne.symm h.1) (ih h.2)

/-- What is put behind a text without a separator goes to the last part. -/
theorem splitOn_append {w : List Char} (hw : sep ∉ w) (cs : List Char) :
    ∃ init last, splitOn sep cs = init ++ [last] ∧ splitOn sep (cs ++ w) = init ++ [last ++ w] := by
  induction cs with
  | nil => exact ⟨[], [], rfl, splitOn_of_notMem hw⟩
  | cons c cs ih =>
    obtain ⟨init, last, hcs, happ⟩ := ih
    by_cases hc : c = sep
    · -- A separator starts a part of its own in both texts.
      refine ⟨[] :: init, last, ?_, ?_⟩
      · rw [splitOn, if_pos hc, hcs, List.cons_append]
      · rw [List.cons_append, splitOn, if_pos hc, happ, List.cons_append]
    · -- Otherwise the character goes to the first part, which is the last one if there is no other.
      cases init with
      | nil => exact ⟨[], c :: last, splitOn_cons_of_ne hc hcs, splitOn_cons_of_ne hc happ⟩
      | cons i init =>
        exact ⟨(c :: i) :: init, last, splitOn_cons_of_ne hc hcs, splitOn_cons_of_ne hc happ⟩

/-- The parts on both sides of a separator. -/
theorem splitOn_append_cons (cs ds : List Char) :
    splitOn sep (cs ++ sep :: ds) = splitOn sep cs ++ splitOn sep ds := by
  induction cs with
  | nil => simp [splitOn]
  | cons c cs ih =>
    -- A separator opens a part, and any other character belongs to the first part of the rest.
    by_cases hc : c = sep
    · rw [List.cons_append, splitOn, if_pos hc, ih, splitOn, if_pos hc, List.cons_append]
    · obtain ⟨part, parts, hp⟩ := List.exists_cons_of_ne_nil (splitOn_ne_nil sep cs)
      rw [hp, List.cons_append] at ih
      rw [List.cons_append, splitOn_cons_of_ne hc ih, splitOn_cons_of_ne hc hp, List.cons_append]

/-- What a text starts with, its first part starts with, if there is no separator in it. -/
theorem exists_splitOn_append {w : List Char} (hw : sep ∉ w) (cs : List Char) :
    ∃ part parts, splitOn sep (w ++ cs) = (w ++ part) :: parts := by
  induction w with
  | nil => exact List.exists_cons_of_ne_nil (splitOn_ne_nil sep cs)
  | cons c w ih =>
    rw [List.mem_cons, not_or] at hw
    obtain ⟨part, parts, hs⟩ := ih hw.2
    exact ⟨part, parts, splitOn_cons_of_ne (Ne.symm hw.1) hs⟩

/-- The parts are one more than the separators. -/
theorem length_splitOn (sep : Char) (cs : List Char) :
    (splitOn sep cs).length = cs.count sep + 1 := by
  induction cs with
  | nil => rfl
  | cons c cs ih =>
    by_cases hc : c = sep
    · rw [splitOn, if_pos hc, List.length_cons, ih, hc, List.count_cons_self]
    · obtain ⟨part, parts, hs⟩ := List.exists_cons_of_ne_nil (splitOn_ne_nil sep cs)
      rw [splitOn_cons_of_ne hc hs, List.count_cons_of_ne hc, ← ih, hs, List.length_cons,
        List.length_cons]

/-! ### Putting together -/

/-- The parts of a text that is put together from parts. -/
theorem splitOn_intercalate {parts : List (List Char)} (hne : parts ≠ [])
    (h : ∀ part ∈ parts, sep ∉ part) : splitOn sep (List.intercalate [sep] parts) = parts := by
  induction parts with
  | nil => exact absurd rfl hne
  | cons part rest ih =>
    rw [List.forall_mem_cons] at h
    -- There is a separator between two parts and none after the last.
    cases rest with
    | nil => rw [List.intercalate_singleton, splitOn_of_notMem h.1]
    | cons part' rest =>
      rw [List.intercalate_cons_of_ne_nil (List.cons_ne_nil _ _), List.append_assoc,
        List.singleton_append, splitOn_append_cons, splitOn_of_notMem h.1,
        ih (List.cons_ne_nil _ _) h.2]
      rfl

/-- The parts between the separators make up the text again. -/
theorem intercalate_splitOn (cs : List Char) : List.intercalate [sep] (splitOn sep cs) = cs := by
  induction cs with
  | nil => rfl
  | cons c cs ih =>
    obtain ⟨part, parts, hp⟩ := List.exists_cons_of_ne_nil (splitOn_ne_nil sep cs)
    by_cases hc : c = sep
    · rw [splitOn, if_pos hc, List.intercalate_cons_of_ne_nil (splitOn_ne_nil sep cs), ih, hc]
      rfl
    · -- The character stands in front of the first part, whatever other parts there are.
      rw [hp] at ih
      rw [splitOn_cons_of_ne hc hp, ← ih]
      cases parts <;> simp [List.intercalate_cons_of_ne_nil]

/-- A character of a text that is put together is in one of the parts, or it separates them. -/
theorem mem_intercalate {c : Char} {parts : List (List Char)}
    (h : c ∈ List.intercalate [sep] parts) : c = sep ∨ ∃ part ∈ parts, c ∈ part := by
  induction parts with
  | nil => simp at h
  | cons part parts ih =>
    -- A single part has no separator, and any other is followed by one.
    by_cases alone : parts = []
    · subst alone
      rw [List.intercalate_singleton] at h
      exact .inr ⟨part, List.mem_cons_self, h⟩
    · rw [List.intercalate_cons_of_ne_nil alone, List.append_assoc, List.mem_append,
        List.mem_append, List.mem_singleton] at h
      rcases h with inPart | isSep | inRest
      · exact .inr ⟨part, List.mem_cons_self, inPart⟩
      · exact .inl isSep
      · exact (ih inRest).imp_right fun ⟨part', hp, hc⟩ => ⟨part', List.mem_cons_of_mem _ hp, hc⟩

end RouterConf.Text
