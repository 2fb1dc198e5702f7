import Mathlib.Data.List.Forall2
import RouterConf.Proofs.Outcomes
import RouterConf.Proofs.Yaml.Mapping
import RouterConf.Section.Source

/-!
# From raw options to a section

A section repeats the options of its kind three times over: in the schema, in the names by which the
record asks for its fields, and in the record itself. Nothing ties the three together but spelling,
and a name that is spelt differently in one of them would not be an error: the field would take the
value that stands in for an unset option.

That no option is lost is shown in two parts. Instantiation succeeds just if every key is declared
and every option is acceptable, and then it is a map over the schema
(`Schema.instantiate_eq_ok_iff`); what comes out for an option is of its type, and it is unset only
where the declaration lets it be (`OptionSpec.Admits`). The record is then written back as options,
and these are the options that it was made of (`SectionBody.options_build`). A fallback for an unset
option would show there as a value that the options do not have.

Main statements: `Section.carries_of_ofRaw`, `Source.carries_of_loadPath`.
-/

namespace RouterConf

open Yaml (Value)

-- Sums of numbers start with the numeral.
attribute [local instance(2000)] Zero.ofOfNat0

/-! ### Coercion -/

/-- Coercion to a type gives a value of the type or nothing. -/
theorem OptionType.type_coerce {type : OptionType} {raw : Value} {v : OptionValue}
    (h : type.coerce raw = some v) : v.type = type := by
  have mapped : ∀ {α : Type} {o : Option α} {f : α → OptionValue},
      o.map f = some v → (∀ a, (f a).type = type) → v.type = type := by
    intro α o f ho hf
    obtain ⟨a, -, rfl⟩ := Option.map_eq_some_iff.1 ho
    exact hf a
  unfold coerce at h
  cases type with
  | text => exact mapped h fun _ => rfl
  | integer =>
    dsimp only at h
    split at h
    · exact mapped h fun _ => rfl
    · exact mapped h fun _ => rfl
    · cases h
  | flag =>
    dsimp only at h
    split at h
    · cases h
      rfl
    · split_ifs at h <;> cases h <;> rfl
    · exact mapped h fun _ => rfl
    · cases h
  | list =>
    dsimp only at h
    split at h
    · exact mapped h fun _ => rfl
    · exact mapped h fun _ => rfl

/-! ### Instantiation -/

namespace Schema

/-- What is given for an option is the entry of its name, unless it is null. -/
theorem given?_eq_some_iff {raw : List (Value × Value)} {spec : OptionSpec}
    (mapping : Value.IsMapping raw) {value : Value} :
    given? raw spec = some value ↔ (.text spec.name, value) ∈ raw ∧ value ≠ .null := by
  rw [← Value.get?_eq_some_iff mapping, given?]
  split
  · rename_i null
    rw [null]
    constructor
    · intro h
      cases h
    · rintro ⟨h, notNull⟩
      exact absurd (Option.some.inj h).symm notNull
  · rename_i notNull
    constructor
    · intro h
      refine ⟨h, ?_⟩
      rintro rfl
      exact notNull h
    · exact And.left

/-- Nothing is given for an option that has no entry or only null. -/
theorem given?_eq_none_iff {raw : List (Value × Value)} {spec : OptionSpec}
    (mapping : Value.IsMapping raw) :
    given? raw spec = none ↔ ∀ value, (.text spec.name, value) ∈ raw → value = .null := by
  constructor
  · intro h value hm
    by_contra notNull
    rw [(given?_eq_some_iff mapping).2 ⟨hm, notNull⟩] at h
    cases h
  · intro h
    cases hg : given? raw spec with
    | none => rfl
    | some value =>
      obtain ⟨hm, notNull⟩ := (given?_eq_some_iff mapping).1 hg
      exact absurd (h value hm) notNull

/-- The value that an option has in the end if nothing is at fault: the given one, coerced, or else
its default. -/
def value? (raw : List (Value × Value)) (spec : OptionSpec) : Option OptionValue :=
  match given? raw spec with
  | some value => spec.type.coerce value
  | none => spec.default?

/-- What is given for an option can be coerced, and a required option is given. -/
structure Accepts (raw : List (Value × Value)) (spec : OptionSpec) : Prop where
  coerced : ∀ value, given? raw spec = some value → ∃ v, spec.type.coerce value = some v
  present : given? raw spec = none → spec.required = false

/-- An option has an entry just if it is acceptable, and then it is its value. -/
theorem entry_eq_ok_iff {owner : String} {raw : List (Value × Value)} {spec : OptionSpec}
    {e : String × Option OptionValue} :
    entry owner raw spec = .ok e ↔ Accepts raw spec ∧ (spec.name, value? raw spec) = e := by
  unfold entry value?
  cases hg : given? raw spec with
  | some value =>
    dsimp only
    cases hc : spec.type.coerce value with
    | some v =>
      have accepts : Accepts raw spec :=
        ⟨fun value' h' => ⟨v, by rw [hg] at h'; rwa [← Option.some.inj h']⟩,
          fun h' => absurd (hg.symm.trans h') (by simp)⟩
      simp [accepts]
    | none =>
      -- A value that cannot be coerced is not acceptable.
      have refused : ¬ Accepts raw spec := by
        intro h
        obtain ⟨v, hv⟩ := h.coerced value hg
        rw [hc] at hv
        cases hv
      simp [refused]
  | none =>
    dsimp only
    split_ifs with hr
    · have refused : ¬ Accepts raw spec := fun h => absurd (h.present hg) (by simp [hr])
      simp [refused]
    · have accepts : Accepts raw spec :=
        ⟨fun value h => absurd (hg.symm.trans h) (by simp), fun _ => by simpa using hr⟩
      simp [accepts]

/-- **When instantiation succeeds.** Every key is looked up as a name that the schema declares,
every option is acceptable, and the options are those of the schema in its order. -/
theorem instantiate_eq_ok_iff {owner : String} {schema : Schema} {raw : List (Value × Value)}
    {o : Options} :
    schema.instantiate owner raw = .ok o ↔
      (∀ e ∈ raw, schema.declares (keyName e.1) = true) ∧
        (∀ spec ∈ schema, Accepts raw spec) ∧
          (schema.map fun spec => (spec.name, value? raw spec)) = o := by
  -- Keys come first: with a stray one nothing else is looked at.
  have stray_none : schema.stray? raw = none ↔
      ∀ e ∈ raw, schema.declares (keyName e.1) = true := by
    simp [stray?, List.find?_eq_none]
  unfold instantiate
  cases hs : schema.stray? raw with
  | some name =>
    have declared : ¬ ∀ e ∈ raw, schema.declares (keyName e.1) = true := by
      rw [← stray_none, hs]
      simp
    exact ⟨(by intro h; cases h), fun h => absurd h.1 declared⟩
  | none =>
    simp only [mapM_eq_ok_iff, entry_eq_ok_iff]
    rw [List.forall₂_and_left, ← List.forall₂_map_left_iff, List.forall₂_eq_eq_eq]
    exact ⟨fun h => ⟨stray_none.1 hs, h⟩, fun h => h.2⟩

/-- In a schema without repeated names every option is found again by its name. -/
theorem get?_map_value {schema : Schema} (h : (schema.map (·.name)).Nodup)
    (value : OptionSpec → Option OptionValue) {spec : OptionSpec} (hs : spec ∈ schema) :
    Options.get? (schema.map fun spec => (spec.name, value spec)) spec.name = value spec := by
  induction schema with
  | nil => cases hs
  | cons head schema ih =>
    rw [List.map_cons, List.nodup_cons] at h
    rw [List.map_cons, Options.get?_cons]
    -- An earlier option of the same name would be found in its place.
    rcases List.mem_cons.1 hs with rfl | later
    · exact if_pos rfl
    · have other : head.name ≠ spec.name := fun same =>
        h.1 (same ▸ List.mem_map.2 ⟨spec, later, rfl⟩)
      rw [if_neg other, ih h.2 later]

end Schema

/-! ### What an option may be in the end -/

/-- **The declaration admits the value.** It is of the declared type, and it is unset only if the
option is not required and has no default. -/
structure OptionSpec.Admits (spec : OptionSpec) (value? : Option OptionValue) : Prop where
  typed : ∀ v, value? = some v → v.type = spec.type
  unset : value? = none → spec.required = false ∧ spec.default? = none

namespace SectionKind

/-- Every default passes its own check. -/
theorem type_default (k : SectionKind) :
    ∀ spec ∈ k.schema, ∀ v, spec.default? = some v → v.type = spec.type := by
  cases k <;> simp [schema, OptionSpec.requiredText, OptionSpec.optionalText, OptionSpec.integer,
    OptionSpec.flag, OptionSpec.list, OptionSpec.emptyList, OptionValue.type]

/-- No value but a text can be taken for the name of an option. -/
theorem isWord_name (k : SectionKind) : ∀ spec ∈ k.schema, Value.IsWord spec.name := by
  cases k <;> decide

/-- The options of a kind that instantiation gives are admitted by its schema. -/
theorem admits_value {k : SectionKind} {raw : List (Value × Value)} {spec : OptionSpec}
    (hs : spec ∈ k.schema) (h : Schema.Accepts raw spec) :
    spec.Admits (Schema.value? raw spec) := by
  unfold Schema.value?
  cases hg : Schema.given? raw spec with
  | some value =>
    obtain ⟨v, hv⟩ := h.coerced value hg
    dsimp only
    rw [hv]
    refine ⟨fun v' h' => ?_, fun h' => absurd h' (by simp)⟩
    rw [← Option.some.inj h']
    exact OptionType.type_coerce hv
  | none => exact ⟨type_default k spec hs, fun hd => ⟨h.present hg, hd⟩⟩

end SectionKind

/-! ### Reading options by name

For each shape of a declaration, what the record reads determines the option. Where the record has a
fallback for an unset option, any other would do as well. -/

namespace Options

variable {o : Options} {name : String}

/-- A required text is set, so its fallback is never seen. -/
theorem text?_required (h : (OptionSpec.requiredText name).Admits (o.get? name))
    (fallback : String) : some (.text ((o.text? name).getD fallback)) = o.get? name := by
  unfold text?
  cases hv : o.get? name with
  | none => exact absurd (h.unset hv).1 (by simp [OptionSpec.requiredText])
  | some v =>
    have typed := h.typed v hv
    cases v with
    | text s => rfl
    | integer | flag | list => cases typed

/-- A text that may be unset is read as it is. -/
theorem text?_optional (h : (OptionSpec.optionalText name).Admits (o.get? name)) :
    (o.text? name).map .text = o.get? name := by
  unfold text?
  cases hv : o.get? name with
  | none => rfl
  | some v =>
    have typed := h.typed v hv
    cases v with
    | text s => rfl
    | integer | flag | list => cases typed

/-- So is a number. -/
theorem integer?_optional (h : (OptionSpec.integer name).Admits (o.get? name)) :
    (o.integer? name).map .integer = o.get? name := by
  unfold integer?
  cases hv : o.get? name with
  | none => rfl
  | some v =>
    have typed := h.typed v hv
    cases v with
    | integer n => rfl
    | text | flag | list => cases typed

/-- A number with a default is set. -/
theorem integer?_default {n : Int} (h : (OptionSpec.integer name (some n)).Admits (o.get? name))
    (fallback : Int) : some (.integer ((o.integer? name).getD fallback)) = o.get? name := by
  unfold integer?
  cases hv : o.get? name with
  | none => exact absurd (h.unset hv).2 (by simp [OptionSpec.integer])
  | some v =>
    have typed := h.typed v hv
    cases v with
    | integer n => rfl
    | text | flag | list => cases typed

/-- An unset flag would read as false, but it is never unset. -/
theorem flag_default {b : Bool} (h : (OptionSpec.flag name b).Admits (o.get? name)) :
    some (.flag (o.flag name)) = o.get? name := by
  unfold flag
  cases hv : o.get? name with
  | none => exact absurd (h.unset hv).2 (by simp [OptionSpec.flag])
  | some v =>
    have typed := h.typed v hv
    cases v with
    | flag b => cases b <;> rfl
    | text | integer | list => cases typed

/-- A list that may be unset is read as it is. -/
theorem list?_optional (h : (OptionSpec.list name).Admits (o.get? name)) :
    (o.list? name).map .list = o.get? name := by
  unfold list?
  cases hv : o.get? name with
  | none => rfl
  | some v =>
    have typed := h.typed v hv
    cases v with
    | list items => rfl
    | text | integer | flag => cases typed

/-- A list with the empty one for a default is set. -/
theorem list?_empty (h : (OptionSpec.emptyList name).Admits (o.get? name))
    (fallback : List String) : some (.list ((o.list? name).getD fallback)) = o.get? name := by
  unfold list?
  cases hv : o.get? name with
  | none => exact absurd (h.unset hv).2 (by simp [OptionSpec.emptyList])
  | some v =>
    have typed := h.typed v hv
    cases v with
    | list items => rfl
    | text | integer | flag => cases typed

end Options

/-! ### The record as options -/

namespace SectionBody

/-- The options that a record shows. A field that cannot be unset counts as set, whatever it is. -/
def options : SectionBody → Options
  | interface b =>
    [("ifname", some (.text b.ifname)),
      ("proto", b.proto.map .text),
      ("ipaddr", b.ipaddr.map .text),
      ("netmask", b.netmask.map .text)]
  | dhcpPool b =>
    [("interface", some (.text b.interface)),
      ("leasetime", b.leasetime.map .text),
      ("limit", b.limit.map .integer),
      ("start", b.start.map .integer),
      ("dhcp_option", some (.list b.dhcpOption)),
      ("relay", some (.list b.relay))]
  | domainOverride b =>
    [("name", b.name.map .text),
      ("ip", b.ip.map .text)]
  | staticHost b =>
    [("ip", b.ip.map .text),
      ("mac", b.mac.map .text),
      ("hostid", b.hostid.map .text),
      ("duid", b.duid.map .text),
      ("name", b.name.map .text),
      ("tag", b.tag.map .text),
      ("match_tag", some (.list b.matchTag)),
      ("dns", some (.flag b.dns)),
      ("broadcast", some (.flag b.broadcast)),
      ("leasetime", b.leasetime.map .text),
      ("instance", b.instance_.map .text)]
  | dnsmasq b =>
    [("authoritative", some (.flag b.authoritative)),
      ("cachesize", some (.integer b.cachesize)),
      ("dhcp_boot", b.dhcpBoot.map .text),
      ("dhcpleasemax", some (.integer b.dhcpleasemax)),
      ("domain", b.domain.map .text),
      ("enable_tftp", some (.flag b.enableTftp)),
      ("expandhosts", some (.flag b.expandhosts)),
      ("interface", b.interface.map .list),
      ("leasefile", b.leasefile.map .text),
      ("noresolv", some (.flag b.noresolv)),
      ("server", b.server.map .list),
      ("tftp_root", b.tftpRoot.map .text)]

/-- **The record is its options.** Where the schema admits the options, the record that is built
from them shows every one of them under the name that the schema gives it, and nothing else. -/
theorem options_build {k : SectionKind} {o : Options}
    (h : ∀ spec ∈ k.schema, spec.Admits (o.get? spec.name)) :
    (build k o).options = k.schema.map fun spec => (spec.name, o.get? spec.name) := by
  cases k with
  | interface =>
    simp only [SectionKind.schema, List.forall_mem_cons] at h
    obtain ⟨ifname, proto, ipaddr, netmask, -⟩ := h
    simp only [build, options, SectionKind.schema, List.map_cons, List.map_nil]
    rw [Options.text?_required ifname, Options.text?_optional proto, Options.text?_optional ipaddr,
      Options.text?_optional netmask]
    rfl
  | dhcpPool =>
    simp only [SectionKind.schema, List.forall_mem_cons] at h
    obtain ⟨interface, leasetime, limit, start, dhcpOption, relay, -⟩ := h
    simp only [build, options, SectionKind.schema, List.map_cons, List.map_nil]
    rw [Options.text?_required interface, Options.text?_optional leasetime,
      Options.integer?_optional limit, Options.integer?_optional start,
      Options.list?_empty dhcpOption, Options.list?_empty relay]
    rfl
  | domainOverride =>
    simp only [SectionKind.schema, List.forall_mem_cons] at h
    obtain ⟨name, ip, -⟩ := h
    simp only [build, options, SectionKind.schema, List.map_cons, List.map_nil]
    rw [Options.text?_optional name, Options.text?_optional ip]
    rfl
  | staticHost =>
    simp only [SectionKind.schema, List.forall_mem_cons] at h
    obtain ⟨ip, mac, hostid, duid, name, tag, matchTag, dns, broadcast, leasetime, instance_, -⟩ :=
      h
    simp only [build, options, SectionKind.schema, List.map_cons, List.map_nil]
    rw [Options.text?_optional ip, Options.text?_optional mac, Options.text?_optional hostid,
      Options.text?_optional duid, Options.text?_optional name, Options.text?_optional tag,
      Options.list?_empty matchTag, Options.flag_default dns, Options.flag_default broadcast,
      Options.text?_optional leasetime, Options.text?_optional instance_]
    rfl
  | dnsmasq =>
    simp only [SectionKind.schema, List.forall_mem_cons] at h
    obtain ⟨authoritative, cachesize, dhcpBoot, dhcpleasemax, domain, enableTftp, expandhosts,
      interface, leasefile, noresolv, server, tftpRoot, -⟩ := h
    simp only [build, options, SectionKind.schema, List.map_cons, List.map_nil]
    rw [Options.flag_default authoritative, Options.integer?_default cachesize,
      Options.text?_optional dhcpBoot, Options.integer?_default dhcpleasemax,
      Options.text?_optional domain, Options.flag_default enableTftp,
      Options.flag_default expandhosts, Options.list?_optional interface,
      Options.text?_optional leasefile, Options.flag_default noresolv,
      Options.list?_optional server, Options.text?_optional tftpRoot]
    rfl

end SectionBody

/-! ### Sections -/

namespace Section

/-- **The section carries what its raw form says**, and beyond that the defaults of its schema. -/
structure Carries (raw : RawSection) (s : Section) : Prop where
  kind : SectionKind.ofPair raw.file raw.type = some s.id.kind
  name : s.id.name = raw.name
  /-- Every key is a text, and the name of an option of the schema. -/
  keys : ∀ key value, (key, value) ∈ raw.options → ∃ spec ∈ s.id.kind.schema, key = .text spec.name
  /-- The options are those of the schema in its order. -/
  names : s.options.names = s.id.kind.schema.map (·.name)
  /-- A value other than null is there, coerced to the declared type. -/
  given : ∀ spec ∈ s.id.kind.schema, ∀ value, (.text spec.name, value) ∈ raw.options →
    value ≠ .null →
      ∃ v, spec.type.coerce value = some v ∧ v.type = spec.type ∧
        s.options.get? spec.name = some v
  /-- An option that is not given, or given as null, is not required and has its default. -/
  others : ∀ spec ∈ s.id.kind.schema,
    (∀ value, (.text spec.name, value) ∈ raw.options → value = .null) →
      spec.required = false ∧ s.options.get? spec.name = spec.default?
  /-- Required options and options with a default, an empty list among them, are set. -/
  set : ∀ spec ∈ s.id.kind.schema, spec.required = true ∨ spec.default? ≠ none →
    ∃ v, s.options.get? spec.name = some v
  /-- The record shows the options, each field the option of its name. -/
  body : s.body.options = s.options
  bodyKind : s.body.kind = s.id.kind

/-- A section that is made has been instantiated by the schema of its kind. -/
theorem ofRaw_eq_ok {source : String} {raw : RawSection} {s : Section}
    (h : ofRaw source raw = .ok s) :
    ∃ kind options, SectionKind.ofPair raw.file raw.type = some kind ∧
      kind.schema.instantiate (SectionId.text ⟨kind, raw.name⟩) raw.options = .ok options ∧
      s = ⟨⟨kind, raw.name⟩, source, options, .build kind options⟩ := by
  unfold ofRaw at h
  cases hk : SectionKind.ofPair raw.file raw.type with
  | none =>
    rw [hk] at h
    cases h
  | some kind =>
    rw [hk] at h
    cases hi : kind.schema.instantiate (SectionId.text ⟨kind, raw.name⟩) raw.options with
    | error e => simp [hi, bind, Except.bind] at h
    | ok options =>
      simp only [hi, bind, Except.bind, pure, Except.pure, Except.ok.injEq] at h
      exact ⟨kind, options, rfl, hi, h.symm⟩

/-- What instantiation gives for mappings is carried by the section that is made of it. -/
theorem carries_of_instantiate {source : String} {raw : RawSection} {kind : SectionKind}
    {owner : String} {options : Options} (mapping : Value.IsMapping raw.options)
    (hk : SectionKind.ofPair raw.file raw.type = some kind)
    (hi : kind.schema.instantiate owner raw.options = .ok options) :
    Carries raw ⟨⟨kind, raw.name⟩, source, options, .build kind options⟩ := by
  obtain ⟨declared, accepts, rfl⟩ := Schema.instantiate_eq_ok_iff.1 hi
  -- Each option is found by its name, and it is admitted by its declaration.
  have found : ∀ spec ∈ kind.schema, Options.get?
      (kind.schema.map fun spec => (spec.name, Schema.value? raw.options spec)) spec.name =
        Schema.value? raw.options spec :=
    fun spec hs => Schema.get?_map_value kind.schema_nodup _ hs
  have admits : ∀ spec ∈ kind.schema, spec.Admits (Schema.value? raw.options spec) :=
    fun spec hs => SectionKind.admits_value hs (accepts spec hs)
  refine
    { kind := hk
      name := rfl
      keys := ?_
      names := ?_
      given := ?_
      others := ?_
      set := ?_
      body := ?_
      bodyKind := SectionBody.kind_build kind _ }
  · intro key value hm
    obtain ⟨spec, hs, hn⟩ := List.any_eq_true.1 (declared (key, value) hm)
    have word := kind.isWord_name spec hs
    rw [decide_eq_true_eq] at hn
    refine ⟨spec, hs, ?_⟩
    -- A key without a text would be looked up as the empty name.
    cases ht : key.scalarText with
    | none => exact absurd (by rw [hn, keyName, ht]; rfl) word.1
    | some text =>
      rw [keyName, ht, Option.getD_some] at hn
      exact Value.eq_text_of_scalarText word (by rw [ht, hn])
  · simp [Options.names, Function.comp_def]
  · intro spec hs value hm hv
    have given : Schema.given? raw.options spec = some value :=
      (Schema.given?_eq_some_iff mapping).2 ⟨hm, hv⟩
    obtain ⟨v, hc⟩ := (accepts spec hs).coerced value given
    refine ⟨v, hc, OptionType.type_coerce hc, ?_⟩
    rw [found spec hs, Schema.value?, given]
    exact hc
  · intro spec hs hnull
    have absent : Schema.given? raw.options spec = none :=
      (Schema.given?_eq_none_iff mapping).2 hnull
    refine ⟨(accepts spec hs).present absent, ?_⟩
    rw [found spec hs, Schema.value?, absent]
  · intro spec hs hset
    rw [found spec hs]
    cases hv : Schema.value? raw.options spec with
    | some v => exact ⟨v, rfl⟩
    | none =>
      -- An option that stays unset is neither required nor has a default.
      obtain ⟨optional, noDefault⟩ := (admits spec hs).unset hv
      exact absurd noDefault (hset.resolve_left (by simp [optional]))
  · rw [SectionBody.options_build fun spec hs => by rw [found spec hs]; exact admits spec hs]
    exact List.map_congr_left fun spec hs => by rw [found spec hs]

/-- **No option is lost on the way into a section.** Whatever the raw options are, if a section
comes out of them then they are all in it, and so is nothing else but the defaults; the record has
them field by field. -/
theorem carries_of_ofRaw {source : String} {raw : RawSection} {s : Section}
    (mapping : Value.IsMapping raw.options) (h : ofRaw source raw = .ok s) : s.Carries raw := by
  obtain ⟨kind, options, hk, hi, rfl⟩ := ofRaw_eq_ok h
  exact carries_of_instantiate mapping hk hi

/-- An instance with a server written as a single text, a number written as a text, and a domain
that is left open. -/
def sampleRaw : RawSection where
  file := "dhcp"
  type := "dnsmasq"
  name := "main"
  options :=
    [(.text "server", .text "192.0.2.1"), (.text "cachesize", .text " 7 "), (.text "domain", .null),
      (.text "noresolv", .int 1)]

/-- The section that it makes. -/
def sample : Section where
  id := ⟨.dnsmasq, "main"⟩
  source := "main.yaml"
  options :=
    [("authoritative", some (.flag true)), ("cachesize", some (.integer 7)), ("dhcp_boot", none),
      ("dhcpleasemax", some (.integer 1000)), ("domain", none), ("enable_tftp", some (.flag false)),
      ("expandhosts", some (.flag true)), ("interface", none), ("leasefile", none),
      ("noresolv", some (.flag true)), ("server", some (.list ["192.0.2.1"])), ("tftp_root", none)]
  body := .dnsmasq
    { authoritative := true
      cachesize := 7
      dhcpBoot := none
      dhcpleasemax := 1000
      domain := none
      enableTftp := false
      expandhosts := true
      interface := none
      leasefile := none
      noresolv := true
      server := some ["192.0.2.1"]
      tftpRoot := none }

/-- The numbers are read, the single text has become a list, and the domain is unset. -/
theorem carries_of_ofRaw_sampleRaw :
    Value.IsMapping sampleRaw.options ∧ ofRaw "main.yaml" sampleRaw = .ok sample ∧
      sample.Carries sampleRaw := by
  have mapping : Value.IsMapping sampleRaw.options := by
    simp [Value.IsMapping, sampleRaw, Value.same]
  have made : ofRaw "main.yaml" sampleRaw = .ok sample := by rfl
  exact ⟨mapping, made, carries_of_ofRaw mapping made⟩

end Section

namespace Source

/-- Every section that a text declares carries the options of a mapping. -/
theorem carries_of_parse {source : Path} {text : String} {sections : List Section}
    (h : parse source text = .ok sections) :
    ∀ s ∈ sections, ∃ raw : RawSection, Value.IsMapping raw.options ∧ s.Carries raw := by
  intro s hs
  unfold parse at h
  cases hl : RawSection.listOfText text with
  | none =>
    rw [hl] at h
    cases h
  | some raws =>
    rw [hl] at h
    dsimp only at h
    cases hm : raws.mapM (Section.ofRaw source) with
    | error e =>
      rw [hm] at h
      cases h
    | ok made =>
      rw [hm] at h
      obtain rfl := Except.ok.inj h
      obtain ⟨raw, hraw, read⟩ := exists_of_mem_mapM hm hs
      -- Options that are read from a text are a mapping, so each key is there once.
      have mapping := RawSection.isMapping_of_listOfText hl raw hraw
      obtain ⟨kind, options, hk, hi, rfl⟩ := Section.ofRaw_eq_ok read
      exact ⟨raw, mapping, Section.carries_of_instantiate mapping hk hi⟩

/-- So does every section of a file. -/
theorem carries_of_loadFile {t : FileTree} {p : Path} {sections : List Section}
    (h : loadFile t p = .ok sections) :
    ∀ s ∈ sections, ∃ raw : RawSection, Value.IsMapping raw.options ∧ s.Carries raw := by
  unfold loadFile at h
  cases hr : t.readText p with
  | error e =>
    rw [hr] at h
    cases h
  | ok text =>
    rw [hr] at h
    exact carries_of_parse h

/-- So does every section of a source, whether it is a file or a directory. -/
theorem carries_of_loadPath {t : FileTree} {p : Path} {sections : List Section}
    (h : loadPath t p = .ok sections) :
    ∀ s ∈ sections, ∃ raw : RawSection, Value.IsMapping raw.options ∧ s.Carries raw := by
  unfold loadPath at h
  split_ifs at h
  · unfold loadDirectory at h
    cases hd : t.readDirectory p with
    | error e =>
      rw [hd] at h
      cases h
    | ok names =>
      rw [hd] at h
      dsimp only at h
      cases hm : (configFiles t p names).mapM (loadFile t) with
      | error e =>
        rw [hm] at h
        cases h
      | ok files =>
        rw [hm] at h
        obtain rfl := Except.ok.inj h
        intro s hs
        obtain ⟨file, hfile, inFile⟩ := List.mem_flatten.1 hs
        obtain ⟨path, -, loaded⟩ := exists_of_mem_mapM hm hfile
        exact carries_of_loadFile loaded s inFile
  · exact carries_of_loadFile h

end Source

end RouterConf
