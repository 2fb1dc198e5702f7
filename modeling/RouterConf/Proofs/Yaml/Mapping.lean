import Mathlib.Tactic.SplitIfs
import RouterConf.Section.Document

/-!
# Mappings and their keys

A mapping has no key twice, and every mapping that a document denotes is one
(`Document.isMapping_mapping`, `RawSection.isMapping_of_listOfText`). So a lookup by name says all
that there is to say about a key (`Value.get?_eq_some_iff`).

A key need not be a text, but where a name is wanted it is looked at as one, and then numbers and
truth values have texts as well. They are never taken for an ordinary word: the text of a number has
a digit or a point in it (`Decimal.Binary64.numeral_text`), and that of a truth value is one of two
words. A value whose text is another word is that text (`Value.eq_text_of_scalarText`).
-/

namespace RouterConf

/-! ### Numerals -/

/-- The text has a character that only texts of numbers have. -/
def Numeral (s : String) : Prop :=
  ∃ c ∈ s.toList, c.isDigit = true ∨ c = '.'

-- The characters of the text are gone through, not all characters that there are.
instance (s : String) : Decidable (Numeral s) :=
  List.decidableBEx (fun c : Char => c.isDigit = true ∨ c = '.') s.toList

/-- A natural number has digits. -/
theorem numeral_repr (n : Nat) : Numeral n.repr := by
  obtain ⟨d, ds, hd⟩ := List.exists_cons_of_ne_nil (Nat.toDigits_ne_nil (n := n) (b := 10))
  have digit : d ∈ Nat.toDigits 10 n := hd ▸ List.mem_cons_self
  have isDigit := Nat.isDigit_of_mem_toDigits (by decide) (by decide) digit
  exact ⟨d, by rwa [Nat.toList_repr], .inl isDigit⟩

/-- So has an integer, after its sign if there is one. -/
theorem numeral_toString (n : Int) : Numeral (toString n) := by
  cases n with
  | ofNat k => exact numeral_repr k
  | negSucc k =>
    obtain ⟨c, hc, hn⟩ := numeral_repr (k + 1)
    have signed : c ∈ ("-" ++ (k + 1).repr).toList := by
      rw [String.toList_append]
      exact List.mem_append_right _ hc
    exact ⟨c, signed, hn⟩

namespace Decimal.Binary64

/-- Wherever the point goes, and if there is none, a digit stays. -/
theorem numeral_layout {digits : List Char} (h : digits ≠ [])
    (hd : ∀ c ∈ digits, c.isDigit = true) (k : Int) :
    ∃ c ∈ layout digits k, c.isDigit = true ∨ c = '.' := by
  obtain ⟨d, ds, rfl⟩ := List.exists_cons_of_ne_nil h
  have first : d.isDigit = true := hd d List.mem_cons_self
  unfold layout
  dsimp only
  split_ifs
  · exact ⟨d, by simp, .inl first⟩
  · exact ⟨'.', by simp, .inr rfl⟩
  · exact ⟨'.', by simp, .inr rfl⟩
  · cases ds with
    | nil => exact ⟨d, by simp, .inl first⟩
    | cons _ _ => exact ⟨d, by simp, .inl first⟩

/-- Also the names of infinity and of the undefined number have a point. -/
theorem numeral_text (x : Binary64) : Numeral x.text := by
  cases x with
  | nan => decide
  | infinite negative => cases negative <;> decide
  | finite negative coefficient exponent =>
    have body : ∃ c ∈ (if coefficient = 0 then ['0', '.', '0'] else
        layout (Nat.toDigits 10 (shortest coefficient exponent).1)
          (shortest coefficient exponent).2), c.isDigit = true ∨ c = '.' := by
      split_ifs
      · exact ⟨'.', by simp, .inr rfl⟩
      · exact numeral_layout Nat.toDigits_ne_nil
          (fun c hc => Nat.isDigit_of_mem_toDigits (by decide) (by decide) hc) _
    obtain ⟨c, hc, hn⟩ := body
    refine ⟨c, ?_, hn⟩
    rw [text, String.toList_ofList]
    split
    · exact List.mem_cons_of_mem _ hc
    · exact hc

end Decimal.Binary64

namespace Yaml

namespace Value

/-- A word that is the text of no value but a text. -/
def IsWord (s : String) : Prop :=
  s ≠ "" ∧ ¬ Numeral s ∧ boolOfText s = none

instance (s : String) : Decidable (IsWord s) :=
  inferInstanceAs (Decidable (s ≠ "" ∧ ¬ Numeral s ∧ boolOfText s = none))

/-- **A word is the text of no other value** than the text itself. -/
theorem eq_text_of_scalarText {v : Value} {s : String} (hs : IsWord s)
    (h : v.scalarText = some s) : v = .text s := by
  obtain ⟨-, notNumeral, notBool⟩ := hs
  cases v with
  | text t => rw [Option.some.inj h]
  | int n => exact absurd (Option.some.inj h ▸ numeral_toString n) notNumeral
  | float x => exact absurd (Option.some.inj h ▸ x.numeral_text) notNumeral
  | bool b =>
    obtain rfl := Option.some.inj h
    cases b <;> exact absurd notBool (by decide)
  | null => cases h
  | list items => cases h
  | map entries => cases h
  | tagged tag value => cases h

/-! ### Keys of a mapping -/

/-- No two of the entries have the same key. -/
def IsMapping (entries : List (Value × Value)) : Prop :=
  entries.Pairwise fun a b => a.1.same b.1 = false

/-- The first entry is the one that is found, if it has the key. -/
theorem get?_cons (key value : Value) (entries : List (Value × Value)) (name : String) :
    get? ((key, value) :: entries) name =
      if key.same (.text name) = true then some value else get? entries name := by
  unfold get?
  rw [List.find?_cons]
  cases key with
  | text k =>
    rw [same]
    cases hk : k == name <;> simp [hk]
  | null | bool | int | float | list | map | tagged => simp [same]

/-- Only a text is the same key as a text. -/
theorem same_text {v : Value} {name : String} : v.same (.text name) = true ↔ v = .text name := by
  cases v <;> simp [same]

/-- **In a mapping, what is found is what is there.** -/
theorem get?_eq_some_iff {entries : List (Value × Value)} (h : IsMapping entries) {name : String}
    {value : Value} : get? entries name = some value ↔ (.text name, value) ∈ entries := by
  induction entries with
  | nil => simp [get?]
  | cons entry entries ih =>
    obtain ⟨key, v⟩ := entry
    obtain ⟨apart, rest⟩ := List.pairwise_cons.1 h
    rw [get?_cons, List.mem_cons]
    split_ifs with hk
    · -- The key is that of the name, so no later entry can have it.
      obtain rfl := same_text.1 hk
      constructor
      · intro hv
        exact .inl (by rw [Option.some.inj hv])
      · rintro (here | later)
        · rw [(Prod.mk.inj here).2]
        · exact absurd (apart _ later) (by simp [same])
    · rw [ih rest]
      refine ⟨.inr, ?_⟩
      rintro (here | later)
      · exact absurd (same_text.2 (Prod.mk.inj here).1.symm) hk
      · exact later

end Value

/-! ### Mappings of documents -/

namespace Document

/-- What has been read so far is a mapping in reverse, and a key that it has is refused. -/
theorem isMapping_entriesWith {value : Bool → Node Nat → Reader Value} {tagged : Bool}
    {nodes : List (Node Nat × Node Nat)} :
    ∀ (done : List (Value × Value)) {budget : Nat} {entries : List (Value × Value)} {rest : Nat},
      Value.IsMapping done.reverse →
      entriesWith value tagged done nodes budget = some (entries, rest) →
      Value.IsMapping entries := by
  induction nodes with
  | nil =>
    intro done budget entries rest hd h
    cases h
    exact hd
  | cons node nodes ih =>
    intro done budget entries rest hd h
    obtain ⟨k, v⟩ := node
    rw [entriesWith] at h
    obtain ⟨⟨key, b⟩, -, h⟩ := Option.bind_eq_some_iff.1 h
    dsimp only at h
    split_ifs at h with seen
    · cases h
    · obtain ⟨⟨item, b'⟩, -, h⟩ := Option.bind_eq_some_iff.1 h
      refine ih ((key, item) :: done) ?_ h
      rw [List.reverse_cons]
      -- The new key differs from all that have been read, as it was looked for among them.
      refine List.pairwise_append.2 ⟨hd, List.pairwise_singleton _ _, fun a ha c hc => ?_⟩
      rw [List.mem_singleton.1 hc]
      simp only [List.any_eq_true, not_exists, not_and, Bool.not_eq_true] at seen
      exact seen a (List.mem_reverse.1 ha)

/-- Every mapping that a document denotes is one. -/
theorem isMapping_mapping {d : Document} {depth : Nat} {node : Node Nat} {budget : Nat}
    {entries : List (Value × Value)} {rest : Nat}
    (h : d.mapping depth node budget = some (entries, rest)) : Value.IsMapping entries := by
  obtain ⟨⟨nodes, b⟩, -, h⟩ := Option.bind_eq_some_iff.1 h
  cases nodes with
  | nil =>
    cases h
    exact List.Pairwise.nil
  | cons e es =>
    cases depth with
    | zero => cases h
    | succ depth => exact isMapping_entriesWith [] List.Pairwise.nil h

end Document

end Yaml

/-! ### Options of documents -/

namespace RawSection

open Yaml

/-- Options are taken from a mapping or not at all. -/
theorem isMapping_readFields {d : Document} {depth : Nat} {nodes : List (Node Nat × Node Nat)} :
    ∀ {f : Fields} {budget : Nat} {f' : Fields} {rest : Nat},
      (∀ options ∈ f.options, Value.IsMapping options) →
      readFields d depth f nodes budget = some (f', rest) →
      ∀ options ∈ f'.options, Value.IsMapping options := by
  induction nodes with
  | nil =>
    intro f budget f' rest hf h
    cases h
    exact hf
  | cons node nodes ih =>
    intro f budget f' rest hf h
    obtain ⟨k, v⟩ := node
    obtain ⟨⟨key, b⟩, -, h⟩ := Option.bind_eq_some_iff.1 h
    dsimp only at h
    split_ifs at h
    · cases h
    · obtain ⟨⟨file, b⟩, -, h⟩ := Option.bind_eq_some_iff.1 h
      refine ih ?_ h
      exact hf
    · cases h
    · obtain ⟨⟨type, b⟩, -, h⟩ := Option.bind_eq_some_iff.1 h
      refine ih ?_ h
      exact hf
    · cases h
    · obtain ⟨⟨name, b⟩, -, h⟩ := Option.bind_eq_some_iff.1 h
      refine ih ?_ h
      exact hf
    · cases h
    · obtain ⟨⟨entries, b⟩, read, h⟩ := Option.bind_eq_some_iff.1 h
      refine ih ?_ h
      intro options ho
      -- The options are what has just been read as a mapping.
      obtain rfl := Option.some.inj ho
      exact Document.isMapping_mapping read
    · exact ih hf h

/-- The options of a section that has been read are a mapping, if there are any. -/
theorem isMapping_read {d : Document} {depth : Nat} {node : Node Nat} {budget : Nat}
    {raw : RawSection} {rest : Nat} (h : read d depth node budget = some (raw, rest)) :
    Value.IsMapping raw.options := by
  obtain ⟨⟨nodes, b⟩, -, h⟩ := Option.bind_eq_some_iff.1 h
  obtain ⟨⟨f, b'⟩, fields, h⟩ := Option.bind_eq_some_iff.1 h
  have mapping := isMapping_readFields (by simp) fields
  obtain ⟨file, type, name, options⟩ := f
  -- All of the first three fields have to be there.
  cases file <;> cases type <;> cases name <;> cases h
  cases options with
  | none => exact List.Pairwise.nil
  | some entries => exact mapping entries rfl

/-- What holds of everything that a reader reads holds of all items of a list that it reads. -/
theorem forall_of_mapM {α β : Type} {f : α → Document.Reader β} {P : β → Prop}
    (hf : ∀ a budget b rest, f a budget = some (b, rest) → P b) {as : List α} :
    ∀ {budget : Nat} {bs : List β} {rest : Nat}, as.mapM f budget = some (bs, rest) →
      ∀ b ∈ bs, P b := by
  induction as with
  | nil =>
    intro budget bs rest h
    rw [List.mapM_nil] at h
    cases h
    simp
  | cons a as ih =>
    intro budget bs rest h
    rw [List.mapM_cons] at h
    obtain ⟨⟨b, rest₁⟩, first, h⟩ := Option.bind_eq_some_iff.1 h
    obtain ⟨⟨tail, rest₂⟩, others, h⟩ := Option.bind_eq_some_iff.1 h
    cases h
    exact List.forall_mem_cons.2 ⟨hf _ _ _ _ first, ih others⟩

/-- Whatever the text, the options of the sections that it declares are mappings. -/
theorem isMapping_of_listOfText {text : String} {raws : List RawSection}
    (h : listOfText text = some raws) : ∀ raw ∈ raws, Value.IsMapping raw.options := by
  obtain ⟨d, -, h⟩ := Option.bind_eq_some_iff.1 h
  obtain ⟨⟨raws', rest⟩, listed, rfl⟩ := Option.map_eq_some_iff.1 h
  obtain ⟨⟨nodes, b⟩, -, items⟩ := Option.bind_eq_some_iff.1 listed
  exact forall_of_mapM (fun _ _ _ _ read => isMapping_read read) items

end RawSection

end RouterConf
