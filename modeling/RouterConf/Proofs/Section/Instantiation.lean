import RouterConf.Proofs.Decimal.Numeral
import RouterConf.Proofs.Section.Options

/-!
# What instantiation makes of raw options

Raw options become options of their types in two passes: over the keys as they stand, and over the
schema in its order. What the passes come to is said here by rules that no search or fold occurs in.
A value has a text or none (`Yaml.Value.HasText`), it is a value of a type (`OptionType.Coerces`),
an option is set to what is given or left to its default (`Schema.Entered`) or it is at fault
(`Schema.Fault`), and of all faults it is the first stray key or else the first option at fault that
is reported (`Schema.Instantiates`).

Every rule holds just where the function has the result. The lookup of an option by its name finds
an entry of the raw options because these are a mapping; that the names of the schema are distinct
is not needed, as each option is looked up for itself.

Main statement: `Schema.instantiate_exact`.
-/

namespace RouterConf

open Yaml (Value)

/-! ### Texts of values -/

namespace Yaml.Value

/-- **The text of a scalar**: texts, numbers and truth values have one. -/
inductive HasText : Value → String → Prop
  | text (s : String) : HasText (.text s) s
  | int (n : Int) : HasText (.int n) (toString n)
  | float (x : Decimal.Binary64) : HasText (.float x) x.text
  | true : HasText (.bool true) "true"
  | false : HasText (.bool false) "false"

/-- The text of a scalar is the one by the rules. -/
theorem scalarText_eq_some_iff {v : Value} {s : String} :
    v.scalarText = some s ↔ v.HasText s := by
  constructor
  · intro h
    cases v with
    | text t => exact Option.some.inj h ▸ .text t
    | int n => exact Option.some.inj h ▸ .int n
    | float x => exact Option.some.inj h ▸ .float x
    | bool b =>
      obtain rfl := Option.some.inj h
      cases b
      · exact .false
      · exact .true
    | null | list | map | tagged => cases h
  · rintro (_ | _ | _ | _ | _) <;> rfl

end Yaml.Value

/-- **The name that a key is looked for by**: its text, and the empty text where it has none. -/
inductive IsKeyName (key : Value) : String → Prop
  | text {name : String} : key.HasText name → IsKeyName key name
  | empty : (∀ s, ¬ key.HasText s) → IsKeyName key ""

/-- So is the name of a key. -/
theorem isKeyName_iff {key : Value} {name : String} : IsKeyName key name ↔ keyName key = name := by
  unfold keyName
  cases ht : key.scalarText with
  | none =>
    -- A key without a text is looked for by the empty name.
    have none : ∀ s, ¬ key.HasText s := by
      intro s hs
      rw [Value.scalarText_eq_some_iff.2 hs] at ht
      cases ht
    constructor
    · rintro (h | _)
      · exact absurd h (none name)
      · rfl
    · rintro rfl
      exact .empty none
  | some s =>
    have text := Value.scalarText_eq_some_iff.1 ht
    constructor
    · rintro (h | h)
      · rw [Value.scalarText_eq_some_iff.2 h] at ht
        exact (Option.some.inj ht).symm
      · exact absurd text (h s)
    · rintro rfl
      exact .text text

/-! ### Coercion -/

/-- The words for a truth value. -/
def flagWords : Bool → List String
  | true => ["1", "true", "yes", "on", "enabled"]
  | false => ["0", "false", "no", "off", "disabled"]

/-- No word is for both. -/
theorem flagOfText_eq_some_iff {s : String} {b : Bool} :
    flagOfText s = some b ↔ Text.asciiLower (Text.trim s) ∈ flagWords b := by
  unfold flagOfText
  generalize Text.asciiLower (Text.trim s) = word
  have apart : ∀ word ∈ flagWords true, word ∉ flagWords false := by decide
  simp only [List.contains_iff_mem]
  cases b with
  | true =>
    split_ifs with yes no
    · exact iff_of_true rfl yes
    · exact iff_of_false nofun yes
    · exact iff_of_false nofun yes
  | false =>
    split_ifs with yes no
    -- The words for true are tried first, which takes none of the others away.
    · exact iff_of_false nofun (apart word yes)
    · exact iff_of_true rfl no
    · exact iff_of_false nofun no

/-- **The values of a type**, with what they are taken for. -/
inductive OptionType.Coerces : OptionType → Value → OptionValue → Prop
  | text {raw : Value} {s : String} : raw.HasText s → Coerces .text raw (.text s)
  | int {n : Int} : Decimal.minInt64 ≤ n → n ≤ Decimal.maxInt64 →
    Coerces .integer (.int n) (.integer n)
  | numeral {s : String} {n : Int} : Decimal.IsSigned (Text.trim s).toList n →
    Decimal.minInt64 ≤ n → n ≤ Decimal.maxInt64 → Coerces .integer (.text s) (.integer n)
  | flag (b : Bool) : Coerces .flag (.bool b) (.flag b)
  | zero : Coerces .flag (.int 0) (.flag false)
  | one : Coerces .flag (.int 1) (.flag true)
  | word {s : String} {b : Bool} : Text.asciiLower (Text.trim s) ∈ flagWords b →
    Coerces .flag (.text s) (.flag b)
  | items {raw : List Value} {items : List String} : List.Forall₂ Value.HasText raw items →
    Coerces .list (.list raw) (.list items)
  | single {raw : Value} {s : String} : raw.HasText s → Coerces .list raw (.list [s])

/-- A number of 64 bits is kept as it is, and any other is refused. -/
theorem int64?_eq_some_iff {n m : Int} :
    int64? n = some m ↔ n = m ∧ Decimal.minInt64 ≤ n ∧ n ≤ Decimal.maxInt64 := by
  unfold int64?
  split_ifs with bounds
  · simp [bounds]
  · simp [bounds]

/-- **Coercion accepts the values of the type.** -/
theorem OptionType.coerce_eq_some_iff {type : OptionType} {raw : Value} {v : OptionValue} :
    type.coerce raw = some v ↔ type.Coerces raw v := by
  constructor
  · intro h
    unfold coerce at h
    cases type with
    | text =>
      obtain ⟨s, hs, rfl⟩ := Option.map_eq_some_iff.1 h
      exact .text (Value.scalarText_eq_some_iff.1 hs)
    | integer =>
      dsimp only at h
      split at h
      · obtain ⟨n, hn, rfl⟩ := Option.map_eq_some_iff.1 h
        obtain ⟨rfl, lo, hi⟩ := int64?_eq_some_iff.1 hn
        exact .int lo hi
      · obtain ⟨n, hn, rfl⟩ := Option.map_eq_some_iff.1 h
        -- A text is taken for a number if it is a numeral of one.
        obtain ⟨numeral, lo, hi⟩ := Decimal.readInt64_eq_some_iff.1 hn
        exact .numeral numeral lo hi
      · cases h
    | flag =>
      dsimp only at h
      split at h
      · exact Option.some.inj h ▸ .flag _
      · split_ifs at h with zero one
        · exact Option.some.inj h ▸ zero ▸ .zero
        · exact Option.some.inj h ▸ one ▸ .one
      · obtain ⟨b, hb, rfl⟩ := Option.map_eq_some_iff.1 h
        exact .word (flagOfText_eq_some_iff.1 hb)
      · cases h
    | list =>
      dsimp only at h
      split at h
      · obtain ⟨items, made, rfl⟩ := Option.map_eq_some_iff.1 h
        refine .items ((mapM_eq_some_iff.1 made).imp fun _ _ => ?_)
        exact Value.scalarText_eq_some_iff.1
      · obtain ⟨s, hs, rfl⟩ := Option.map_eq_some_iff.1 h
        exact .single (Value.scalarText_eq_some_iff.1 hs)
  · intro h
    cases h with
    | text h => simp only [coerce, Value.scalarText_eq_some_iff.2 h, Option.map_some]
    | int lo hi => simp only [coerce, int64?_eq_some_iff.2 ⟨rfl, lo, hi⟩, Option.map_some]
    | numeral h lo hi =>
      simp only [coerce, Decimal.readInt64_eq_some_iff.2 ⟨h, lo, hi⟩, Option.map_some]
    | flag b => rfl
    | zero => rfl
    | one => rfl
    | word h => simp only [coerce, flagOfText_eq_some_iff.2 h, Option.map_some]
    | items h =>
      -- A list is taken for the texts of its items, of which none may lack one.
      have made := h.imp fun _ _ => Value.scalarText_eq_some_iff.2
      simp only [coerce, mapM_eq_some_iff.2 made, Option.map_some]
    | single h => cases h <;> rfl

/-! ### Options -/

namespace Schema

variable {owner : String} {schema : Schema} {raw : List (Value × Value)} {spec : OptionSpec}

/-- An option that has no entry, or only null. -/
def Ungiven (raw : List (Value × Value)) (spec : OptionSpec) : Prop :=
  ∀ value, (.text spec.name, value) ∈ raw → value = .null

/-- **The entry of an option that is not at fault.** -/
inductive Entered (raw : List (Value × Value)) (spec : OptionSpec) :
    String × Option OptionValue → Prop
  | given {value : Value} {v : OptionValue} : (.text spec.name, value) ∈ raw → value ≠ .null →
    spec.type.Coerces value v → Entered raw spec (spec.name, some v)
  | default : Ungiven raw spec → spec.required = false →
    Entered raw spec (spec.name, spec.default?)

/-- **What an option can be at fault for.** -/
inductive Fault (owner : String) (raw : List (Value × Value)) (spec : OptionSpec) :
    ValidationError → Prop
  | invalid {value : Value} : (.text spec.name, value) ∈ raw → value ≠ .null →
    (∀ v, ¬ spec.type.Coerces value v) →
    Fault owner raw spec (.invalidValue owner spec.name spec.type value.describe)
  | missing : Ungiven raw spec → spec.required = true →
    Fault owner raw spec (.missingField owner spec.name)

/-- A key that is the name of an option. -/
def Known (schema : Schema) (key : Value) : Prop :=
  ∃ spec ∈ schema, IsKeyName key spec.name

/-- **The outcome of instantiation.** The first key that is no name of an option is reported, then
the first option of the schema that is at fault; if there is neither, every option of the schema has
its entry. -/
inductive Instantiates (owner : String) (schema : Schema) (raw : List (Value × Value)) :
    Except ValidationError Options → Prop
  | stray {before after : List (Value × Value)} {key value : Value} {name : String} :
    raw = before ++ (key, value) :: after → (∀ e ∈ before, Known schema e.1) →
    ¬ Known schema key → IsKeyName key name →
    Instantiates owner schema raw (.error (.unknownOption owner name))
  | fault {before after : Schema} {spec : OptionSpec} {entries : Options} {e : ValidationError} :
    (∀ e ∈ raw, Known schema e.1) → schema = before ++ spec :: after →
    List.Forall₂ (Entered raw) before entries → Fault owner raw spec e →
    Instantiates owner schema raw (.error e)
  | made {entries : Options} : (∀ e ∈ raw, Known schema e.1) →
    List.Forall₂ (Entered raw) schema entries → Instantiates owner schema raw (.ok entries)

/-- **What comes of a single option.** -/
theorem entry_eq_ok_iff_entered (mapping : Value.IsMapping raw)
    {named : String × Option OptionValue} :
    entry owner raw spec = .ok named ↔ Entered raw spec named := by
  constructor
  · intro h
    unfold entry at h
    split at h
    · rename_i value given
      obtain ⟨hm, notNull⟩ := (given?_eq_some_iff mapping).1 given
      split at h
      · rename_i v coerced
        exact Except.ok.inj h ▸ .given hm notNull (OptionType.coerce_eq_some_iff.1 coerced)
      · cases h
    · rename_i absent
      split_ifs at h with required
      exact Except.ok.inj h ▸
        .default ((given?_eq_none_iff mapping).1 absent) (by simpa using required)
  · intro h
    unfold entry
    cases h with
    | given hm notNull coerced =>
      rw [(given?_eq_some_iff mapping).2 ⟨hm, notNull⟩]
      dsimp only
      rw [OptionType.coerce_eq_some_iff.2 coerced]
    | default absent optional =>
      rw [(given?_eq_none_iff mapping).2 absent]
      exact if_neg (by simp [optional])

/-- **When a single option is at fault**, and for what. -/
theorem entry_eq_error_iff (mapping : Value.IsMapping raw) {e : ValidationError} :
    entry owner raw spec = .error e ↔ Fault owner raw spec e := by
  constructor
  · intro h
    unfold entry at h
    split at h
    · rename_i value given
      obtain ⟨hm, notNull⟩ := (given?_eq_some_iff mapping).1 given
      split at h
      · cases h
      · rename_i refused
        refine Except.error.inj h ▸ .invalid hm notNull fun v coerced => ?_
        rw [OptionType.coerce_eq_some_iff.2 coerced] at refused
        cases refused
    · rename_i absent
      split_ifs at h with required
      exact Except.error.inj h ▸ .missing ((given?_eq_none_iff mapping).1 absent) required
  · intro h
    unfold entry
    cases h with
    | @invalid value hm notNull refused =>
      rw [(given?_eq_some_iff mapping).2 ⟨hm, notNull⟩]
      dsimp only
      -- A value that is refused is reported as it is described, with the type that was asked for.
      have none : spec.type.coerce value = none := by
        rw [Option.eq_none_iff_forall_not_mem]
        exact fun v hv => refused v (OptionType.coerce_eq_some_iff.1 hv)
      rw [none]
    | missing absent required =>
      rw [(given?_eq_none_iff mapping).2 absent]
      exact if_pos required

/-! ### Keys -/

/-- A schema declares a key just if it is the name of an option. -/
theorem declares_keyName {key : Value} :
    schema.declares (keyName key) = true ↔ Known schema key := by
  unfold declares Known
  rw [List.any_eq_true]
  simp only [isKeyName_iff, decide_eq_true_eq]
  exact exists_congr fun spec => and_congr_right fun _ => eq_comm

/-- There is no stray key just if all are names of options, -/
theorem stray?_eq_none_iff : schema.stray? raw = none ↔ ∀ e ∈ raw, Known schema e.1 := by
  simp [stray?, List.find?_eq_none, declares_keyName]

/-- and otherwise the first that is none is found. -/
theorem stray?_eq_some_iff {name : String} : schema.stray? raw = some name ↔
    ∃ before key value after, raw = before ++ (key, value) :: after ∧
      (∀ e ∈ before, Known schema e.1) ∧ ¬ Known schema key ∧ IsKeyName key name := by
  unfold stray?
  rw [List.find?_map, Option.map_eq_some_iff]
  constructor
  · rintro ⟨⟨key, value⟩, found, named⟩
    obtain ⟨unknown, before, after, split, known⟩ := List.find?_eq_some_iff_append.1 found
    refine ⟨before, key, value, after, split, fun e he => ?_, ?_, isKeyName_iff.2 named⟩
    · exact declares_keyName.1 (by simpa using known e he)
    · rw [← declares_keyName]
      simpa using unknown
  · rintro ⟨before, key, value, after, split, known, unknown, named⟩
    refine ⟨(key, value), List.find?_eq_some_iff_append.2 ⟨?_, before, after, split, ?_⟩,
      isKeyName_iff.1 named⟩
    · rw [← declares_keyName] at unknown
      simpa using unknown
    · intro e he
      simpa using declares_keyName.2 (known e he)

/-- **Instantiation is exact.** On a mapping it has the outcome that the rules give, and a raw value
is taken for a value of a type just if the rules for the type have it. -/
theorem instantiate_exact (owner : String) (schema : Schema) (raw : List (Value × Value))
    (mapping : Value.IsMapping raw) :
    (∀ r, schema.instantiate owner raw = r ↔ Instantiates owner schema raw r) ∧
      ∀ (type : OptionType) value v, type.coerce value = some v ↔ type.Coerces value v := by
  refine ⟨fun r => ?_, fun _ _ _ => OptionType.coerce_eq_some_iff⟩
  constructor
  · rintro rfl
    unfold instantiate
    cases hs : schema.stray? raw with
    | some name =>
      obtain ⟨before, key, value, after, split, known, unknown, named⟩ := stray?_eq_some_iff.1 hs
      exact .stray split known unknown named
    | none =>
      -- Only now is the schema gone through, and it is cut at the first option at fault.
      have known := stray?_eq_none_iff.1 hs
      dsimp only
      cases hm : schema.mapM (entry owner raw) with
      | ok entries =>
        exact .made known ((mapM_eq_ok_iff.1 hm).imp fun _ _ => (entry_eq_ok_iff_entered mapping).1)
      | error e =>
        obtain ⟨before, spec, after, entries, split, entered, fault⟩ := mapM_eq_error_iff.1 hm
        exact .fault known split (entered.imp fun _ _ => (entry_eq_ok_iff_entered mapping).1)
          ((entry_eq_error_iff mapping).1 fault)
  · intro h
    unfold instantiate
    cases h with
    | stray split known unknown named =>
      rw [stray?_eq_some_iff.2 ⟨_, _, _, _, split, known, unknown, named⟩]
    | fault known split entered fault =>
      rw [stray?_eq_none_iff.2 known]
      exact mapM_eq_error_iff.2 ⟨_, _, _, _, split,
        entered.imp fun _ _ => (entry_eq_ok_iff_entered mapping).2,
        (entry_eq_error_iff mapping).2 fault⟩
    | made known entered =>
      rw [stray?_eq_none_iff.2 known]
      exact mapM_eq_ok_iff.2 (entered.imp fun _ _ => (entry_eq_ok_iff_entered mapping).2)

/-- A limit that is written with a sign, zeros and blanks is a number, and what is not given has its
default. With a required option before it, that option is the one at fault. -/
theorem instantiate_exact_limit :
    Value.IsMapping [(.text "limit", .text " +007 ")] ∧
      OptionType.Coerces .integer (.text " +007 ") (.integer 7) ∧
      Instantiates "dhcp.dhcp.lan" [.integer "limit", .flag "dns" false]
        [(.text "limit", .text " +007 ")]
        (.ok [("limit", some (.integer 7)), ("dns", some (.flag false))]) ∧
      instantiate "dhcp.dhcp.lan" [.requiredText "interface", .integer "limit"]
          [(.text "limit", .text " +007 ")] =
        .error (.missingField "dhcp.dhcp.lan" "interface") := by
  have mapping : Value.IsMapping [(.text "limit", .text " +007 ")] := List.pairwise_singleton _ _
  have coerced : OptionType.coerce .integer (.text " +007 ") = some (.integer 7) := by
    decide +kernel
  obtain ⟨outcome, values⟩ := instantiate_exact "dhcp.dhcp.lan"
    [.integer "limit", .flag "dns" false] _ mapping
  obtain ⟨faulty, -⟩ := instantiate_exact "dhcp.dhcp.lan"
    [.requiredText "interface", .integer "limit"] _ mapping
  refine ⟨mapping, (values _ _ _).1 coerced, (outcome _).1 ?_, (faulty _).2 ?_⟩
  · rfl
  · have known : Known [.requiredText "interface", .integer "limit"] (.text "limit") :=
      ⟨.integer "limit", by simp, .text (.text _)⟩
    refine .fault (List.forall_mem_singleton.2 known) (List.nil_append _).symm .nil
      (.missing ?_ rfl)
    intro value given
    simp [OptionSpec.requiredText] at given

end Schema

end RouterConf
