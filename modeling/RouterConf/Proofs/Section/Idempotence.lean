import RouterConf.Proofs.Section.Instantiation

/-!
# Options written back

Options that have been instantiated can be written back as raw options, and instantiating these
gives the same options. Each set option is written under its name, either as a raw value of its type
or as the text in which it is shown (`OptionValue.WrittenAs`); an unset one is left out.

One fact about types carries this: a value that has a type is what either of its written forms is
taken for (`OptionType.Has.coerces`). For numbers that means that all of 64 bits are read from their
numerals, and for flags that their digits are among the words for truth values. What instantiation
sets has the type of its option, whether it was given or is a default, if the defaults have. An
option that stays unset is neither given nor has a default, and so it stays unset again.

Main statements: `OptionType.Has.coerces`, `Schema.instantiate_idempotent`,
`Section.ofRaw_writtenAs`.
-/

namespace RouterConf

open Yaml (Value)

/-! ### Numerals -/

namespace Decimal

/-- A natural number is written in digits. -/
theorem isDigit_of_mem_repr {n : Nat} {c : Char} (h : c ∈ n.repr.toList) : c.isDigit = true := by
  rw [Nat.toList_repr] at h
  exact (isNumeral_toDigits n).digits c h

/-- What is written of it is one of its numerals. -/
theorem isNumeral_repr (n : Nat) : IsNumeral n.repr.toList n := by
  rw [Nat.toList_repr]
  exact isNumeral_toDigits n

/-- The text of a number is a numeral of it, after trimming as before. -/
theorem isSigned_trim_toString (n : Int) : IsSigned (Text.trim (toString n)).toList n := by
  cases n with
  | ofNat k =>
    have written : toString (Int.ofNat k) = k.repr := rfl
    rw [written, Text.trim_of_no_blank fun c hc => isBlank_of_isDigit (isDigit_of_mem_repr hc)]
    exact .unsigned (.plain (isNumeral_repr k))
  | negSucc k =>
    have written : toString (Int.negSucc k) = "-" ++ (k + 1).repr := rfl
    have signed : ("-" ++ (k + 1).repr).toList = '-' :: (k + 1).repr.toList := by
      rw [String.toList_append]
      rfl
    rw [written, Text.trim_of_no_blank, signed]
    · exact .minus (isNumeral_repr (k + 1))
    · rw [signed, List.forall_mem_cons]
      exact ⟨by decide, fun c hc => isBlank_of_isDigit (isDigit_of_mem_repr hc)⟩

end Decimal

/-! ### Values of a type -/

/-- **The values of a type.** Numbers are those of 64 bits. -/
inductive OptionType.Has : OptionType → OptionValue → Prop
  | text (s : String) : Has .text (.text s)
  | integer {n : Int} : Decimal.minInt64 ≤ n → n ≤ Decimal.maxInt64 → Has .integer (.integer n)
  | flag (b : Bool) : Has .flag (.flag b)
  | list (items : List String) : Has .list (.list items)

namespace OptionValue

/-- A value as a raw value of the same type. -/
def raw : OptionValue → Value
  | text s => .text s
  | integer n => .int n
  | flag b => .bool b
  | list items => .list (items.map .text)

/-- **How a value is written**: as a raw value of its type or, unless it is a list, as the text in
which it is shown. -/
inductive WrittenAs (v : OptionValue) : Value → Prop
  | plain : WrittenAs v v.raw
  | text : v.type ≠ .list → WrittenAs v (.text v.shown)

/-- No value is written as null, which would leave its option unset. -/
theorem WrittenAs.ne_null {v : OptionValue} {value : Value} (h : v.WrittenAs value) :
    value ≠ .null := by
  cases h with
  | plain => cases v <;> simp [raw]
  | text => simp

end OptionValue

/-- What a raw value of a type is taken for is a value of the type. -/
theorem OptionType.Coerces.has {type : OptionType} {raw : Value} {v : OptionValue}
    (h : type.Coerces raw v) : type.Has v := by
  cases h with
  | text => exact .text _
  | int lo hi => exact .integer lo hi
  | numeral _ lo hi => exact .integer lo hi
  | flag | zero | one | word => exact .flag _
  | items | single => exact .list _

/-- **A written value is taken for the value.** -/
theorem OptionType.Has.coerces {type : OptionType} {v : OptionValue} {value : Value}
    (h : type.Has v) (written : v.WrittenAs value) : type.Coerces value v := by
  cases written with
  | plain =>
    cases h with
    | text s => exact .text (.text s)
    | integer lo hi => exact .int lo hi
    | flag b => exact .flag b
    | list items =>
      refine .items (List.forall₂_map_left_iff.2 ?_)
      exact List.forall₂_same.2 fun s _ => .text s
  -- As texts, numbers are read from their numerals and flags from their digits.
  | text notList =>
    cases h with
    | text s => exact .text (.text s)
    | integer lo hi => exact .numeral (Decimal.isSigned_trim_toString _) lo hi
    | flag b => exact .word (by cases b <;> decide)
    | list items => exact absurd rfl notList

/-! ### Options as raw options -/

/-- **Raw options that options are written as**: one entry for each set option, under its name, in
any order, with its value in one of its written forms. -/
structure Options.WrittenAs (o : Options) (raw : List (Value × Value)) : Prop where
  keys : (raw.map (·.1)).Perm ((o.filter (·.2.isSome)).map fun entry => .text entry.1)
  values : ∀ name v, (name, some v) ∈ o → ∃ value, (.text name, value) ∈ raw ∧ v.WrittenAs value

/-- Options as raw values of their types, in the order of the options. -/
def Options.raw (o : Options) : List (Value × Value) :=
  o.filterMap fun entry => entry.2.map fun v => (.text entry.1, v.raw)

/-- Raw values of their types are one way to write options back. -/
theorem Options.writtenAs_raw (o : Options) : o.WrittenAs o.raw where
  keys := by
    refine List.Perm.of_eq ?_
    induction o with
    | nil => rfl
    | cons entry o ih =>
      obtain ⟨name, _ | v⟩ := entry
      · exact ih
      · exact congrArg (Value.text name :: ·) ih
  values name v set := ⟨v.raw, List.mem_filterMap.2 ⟨_, set, rfl⟩, .plain⟩

namespace Options.WrittenAs

variable {o : Options} {raw : List (Value × Value)}

/-- Every key is the name of a set option. -/
theorem exists_of_mem (h : o.WrittenAs raw) {e : Value × Value} (hm : e ∈ raw) :
    ∃ name v, (name, some v) ∈ o ∧ e.1 = .text name := by
  have among : e.1 ∈ raw.map (·.1) := List.mem_map_of_mem hm
  obtain ⟨⟨name, v?⟩, set, key⟩ := List.mem_map.1 (h.keys.mem_iff.1 among)
  obtain ⟨hm, isSome⟩ := List.mem_filter.1 set
  obtain ⟨v, rfl⟩ := Option.isSome_iff_exists.1 isSome
  exact ⟨name, v, hm, key.symm⟩

/-- Distinct names are distinct keys. -/
theorem isMapping (h : o.WrittenAs raw) (distinct : o.names.Nodup) : Value.IsMapping raw := by
  have names : ((o.filter (·.2.isSome)).map (·.1)).Nodup :=
    distinct.sublist (List.filter_sublist.map _)
  have keys : (raw.map (·.1)).Nodup := by
    rw [h.keys.nodup_iff]
    exact List.pairwise_map.2 ((List.pairwise_map.1 names).imp fun apart same =>
      apart (Value.text.inj same))
  refine (List.pairwise_map.1 keys).imp_of_mem fun {a b} _ hb apart => ?_
  obtain ⟨name, _, _, key⟩ := h.exists_of_mem hb
  rw [Bool.eq_false_iff, key, ne_eq, Value.same_text, ← key]
  exact apart

end Options.WrittenAs

namespace Schema

variable {owner owner' : String} {schema : Schema} {raw raw' : List (Value × Value)}
  {spec : OptionSpec} {o : Options}

/-- **The defaults have the declared types.** -/
def DefaultsTyped (schema : Schema) : Prop :=
  ∀ spec ∈ schema, ∀ v, spec.default? = some v → spec.type.Has v

/-- What an option is set to has the type of the option. -/
theorem has_of_value? (typed : ∀ v, spec.default? = some v → spec.type.Has v)
    {v : OptionValue} (hv : value? raw spec = some v) : spec.type.Has v := by
  unfold value? at hv
  cases hg : given? raw spec with
  | some value =>
    rw [hg] at hv
    exact (OptionType.coerce_eq_some_iff.1 hv).has
  | none =>
    rw [hg] at hv
    exact typed v hv

/-- An option that stays unset is not given, and has no default. -/
theorem unset_of_value? (accepts : Accepts raw spec) (hv : value? raw spec = none) :
    given? raw spec = none ∧ spec.default? = none := by
  unfold value? at hv
  cases hg : given? raw spec with
  | some value =>
    obtain ⟨v, coerced⟩ := accepts.coerced value hg
    rw [hg] at hv
    exact absurd (coerced.symm.trans hv) (by simp)
  | none =>
    rw [hg] at hv
    exact ⟨rfl, hv⟩

/-- **An option that is written back has the value that it had**, set or unset. -/
theorem value?_of_writtenAs (distinct : (schema.map (·.name)).Nodup) (typed : schema.DefaultsTyped)
    (accepts : ∀ spec ∈ schema, Accepts raw spec)
    (written : Options.WrittenAs (schema.map fun spec => (spec.name, value? raw spec)) raw')
    (mapping : Value.IsMapping raw') (hs : spec ∈ schema) :
    Accepts raw' spec ∧ value? raw' spec = value? raw spec := by
  cases hv : value? raw spec with
  | some v =>
    have entered : (spec.name, some v) ∈ schema.map fun spec => (spec.name, value? raw spec) :=
      List.mem_map.2 ⟨spec, hs, by rw [hv]⟩
    obtain ⟨value, hm, form⟩ := written.values _ _ entered
    have given := (given?_eq_some_iff mapping).2 ⟨hm, form.ne_null⟩
    -- What was set has the type of its option, so its written form is taken for it again.
    have coerced := OptionType.coerce_eq_some_iff.2
      ((has_of_value? (typed spec hs) hv).coerces form)
    refine ⟨⟨fun value' h' => ⟨v, ?_⟩, fun h' => ?_⟩, ?_⟩
    · rwa [← Option.some.inj (given.symm.trans h')]
    · exact absurd (given.symm.trans h') (by simp)
    · rw [value?, given]
      exact coerced
  | none =>
    obtain ⟨ungiven, no_default⟩ := unset_of_value? (accepts spec hs) hv
    -- Another option of the name could be set, but there is none.
    have absent : given? raw' spec = none := by
      rw [given?_eq_none_iff mapping]
      intro value hm
      obtain ⟨name, v, entered, key⟩ := written.exists_of_mem hm
      obtain ⟨spec', hs', same⟩ := List.mem_map.1 entered
      obtain ⟨rfl, set⟩ := Prod.mk.inj same
      have here := get?_map_value distinct (value? raw) hs
      rw [Value.text.inj key, get?_map_value distinct (value? raw) hs', set, hv] at here
      cases here
    refine ⟨⟨fun value h' => ?_, fun _ => (accepts spec hs).present ungiven⟩, ?_⟩
    · exact absurd (absent.symm.trans h') (by simp)
    · rw [value?, absent]
      exact no_default

/-- Options that are written back are instantiated again, for whatever section. -/
theorem instantiate_of_writtenAs (distinct : (schema.map (·.name)).Nodup)
    (typed : schema.DefaultsTyped) (made : schema.instantiate owner raw = .ok o)
    (written : o.WrittenAs raw') (owner' : String) :
    Value.IsMapping raw' ∧ schema.instantiate owner' raw' = .ok o := by
  obtain ⟨-, accepts, rfl⟩ := instantiate_eq_ok_iff.1 made
  -- The options have the names of the schema, which are distinct.
  have names : Options.names (schema.map fun spec => (spec.name, value? raw spec)) =
      schema.map (·.name) := by
    rw [Options.names, List.map_map]
    rfl
  have mapping := written.isMapping (names ▸ distinct)
  have settled := fun spec (hs : spec ∈ schema) =>
    value?_of_writtenAs distinct typed accepts written mapping hs
  refine ⟨mapping, instantiate_eq_ok_iff.2 ⟨fun e he => ?_, fun spec hs => (settled spec hs).1, ?_⟩⟩
  · -- What is written back is an option, and the options are those of the schema.
    obtain ⟨name, v, entered, key⟩ := written.exists_of_mem he
    obtain ⟨spec, hs, same⟩ := List.mem_map.1 entered
    rw [declares, List.any_eq_true, key]
    exact ⟨spec, hs, decide_eq_true (congrArg Prod.fst same)⟩
  · exact List.map_congr_left fun spec hs => by rw [(settled spec hs).2]

/-- **Instantiation is idempotent.** Take a schema with distinct names, whose defaults have the
declared types, and the options that instantiation makes of some raw options by it. They can be
written back with raw values of their types; and however they are written back, in any order and
each in any of its written forms, that is a mapping, and instantiating it gives the same options. -/
theorem instantiate_idempotent (distinct : (schema.map (·.name)).Nodup)
    (typed : schema.DefaultsTyped) (made : schema.instantiate owner raw = .ok o) :
    o.WrittenAs o.raw ∧ ∀ raw', o.WrittenAs raw' → ∀ owner',
      Value.IsMapping raw' ∧ schema.instantiate owner' raw' = .ok o :=
  ⟨o.writtenAs_raw, fun _ => instantiate_of_writtenAs distinct typed made⟩

/-- Options at the limits of their types. -/
def limits : Options :=
  [("lowest", some (.integer Decimal.minInt64)), ("highest", some (.integer Decimal.maxInt64)),
    ("dns", some (.flag true)), ("relay", some (.list ["a b", ""])), ("note", none),
    ("broadcast", some (.flag false))]

/-- The first and the last number of 64 bits are written as texts, and so are a flag and its
default; an unset option stays unset. -/
theorem instantiate_idempotent_limits :
    let schema : Schema := [.integer "lowest", .integer "highest", .flag "dns" false, .list "relay",
      .optionalText "note", .flag "broadcast" false]
    let raw : List (Value × Value) := [(.text "dns", .text " Yes "),
      (.text "lowest", .text "-09223372036854775808"), (.text "highest", .int Decimal.maxInt64),
      (.text "note", .null), (.text "relay", .list [.text "a b", .text ""])]
    let written : List (Value × Value) := [(.text "broadcast", .text "0"),
      (.text "relay", .list [.text "a b", .text ""]), (.text "dns", .text "1"),
      (.text "highest", .text "9223372036854775807"),
      (.text "lowest", .text "-9223372036854775808")]
    (schema.map (·.name)).Nodup ∧ schema.DefaultsTyped ∧
      schema.instantiate "dhcp.host.a" raw = .ok limits ∧ limits.WrittenAs written ∧
      schema.instantiate "dhcp.host.b" written = .ok limits := by
  intro schema raw written
  have distinct : (schema.map (·.name)).Nodup := by decide
  have typed : schema.DefaultsTyped := by
    simp only [DefaultsTyped, schema, List.forall_mem_cons, List.not_mem_nil, false_implies,
      implies_true, and_true, OptionSpec.integer, OptionSpec.flag, OptionSpec.list,
      OptionSpec.optionalText]
    simp [OptionType.Has.flag]
  have made : schema.instantiate "dhcp.host.a" raw = .ok limits := by rfl
  have again : limits.WrittenAs written := by
    -- The options are written back in the opposite order, the list as it is and the others as
    -- texts.
    have form {v : OptionValue} {text : String} (shown : v.shown = text) (h : v.type ≠ .list) :
        v.WrittenAs (.text text) := shown ▸ .text h
    refine ⟨List.reverse_perm (["lowest", "highest", "dns", "relay", "broadcast"].map Value.text),
      fun name v set => ?_⟩
    simp only [limits, List.mem_cons, Prod.mk.injEq, Option.some.injEq, List.not_mem_nil, or_false,
      reduceCtorEq, and_false, false_or] at set
    rcases set with ⟨rfl, rfl⟩ | ⟨rfl, rfl⟩ | ⟨rfl, rfl⟩ | ⟨rfl, rfl⟩ | ⟨rfl, rfl⟩
    · exact ⟨.text "-9223372036854775808", by simp [written], form (by decide +kernel) (by decide)⟩
    · exact ⟨.text "9223372036854775807", by simp [written], form (by decide +kernel) (by decide)⟩
    · exact ⟨.text "1", by simp [written], form rfl (by decide)⟩
    · exact ⟨_, .tail _ (.head _), .plain⟩
    · exact ⟨.text "0", by simp [written], form rfl (by decide)⟩
  have idempotent := instantiate_idempotent distinct typed made
  exact ⟨distinct, typed, made, again, (idempotent.2 written again "dhcp.host.b").2⟩

end Schema

/-! ### Sections -/

/-- The defaults of every kind have the declared types. -/
theorem SectionKind.defaultsTyped (k : SectionKind) : k.schema.DefaultsTyped := by
  have number {n : Int} (h : Decimal.minInt64 ≤ n ∧ n ≤ Decimal.maxInt64) :
      OptionType.integer.Has (.integer n) := .integer h.1 h.2
  cases k <;> simp [Schema.DefaultsTyped, schema, OptionSpec.requiredText, OptionSpec.optionalText,
    OptionSpec.integer, OptionSpec.flag, OptionSpec.list, OptionSpec.emptyList,
    OptionType.Has.flag, OptionType.Has.list, number, Decimal.minInt64, Decimal.maxInt64]

/-- **A section that is written out and read again is the same section.** -/
theorem Section.ofRaw_writtenAs {source : String} {raw : RawSection} {s : Section}
    {options : List (Value × Value)} (made : ofRaw source raw = .ok s)
    (written : s.options.WrittenAs options) : ofRaw source { raw with options } = .ok s := by
  obtain ⟨kind, o, hk, hi, rfl⟩ := ofRaw_eq_ok made
  obtain ⟨-, again⟩ := Schema.instantiate_of_writtenAs kind.schema_nodup kind.defaultsTyped hi
    written (SectionId.text ⟨kind, raw.name⟩)
  simp only [ofRaw, hk, again]
  rfl

end RouterConf
