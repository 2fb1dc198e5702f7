import RouterConf.Proofs.Dnsmasq.Rendering
import RouterConf.Proofs.Text.Lines

/-!
# The directives of a configuration

A daemon takes a line of its configuration for what it starts with. Here are the directives that are
written as often as something of their kind is configured, the leads by which they are told apart
(`Directive.apart`), and how often the lines of a payload have each of them
(`Directive.countLed_lines`).

The texts of a payload are written into their lines as they are. Which texts these are is said by
`DnsmasqContext.texts`, and they are all that a line break can come from
(`DnsmasqContext.shows_lines`).
-/

namespace RouterConf

-- Sums of numbers start with the numeral.
attribute [local instance(2000)] Zero.ofOfNat0

open Text (OneLine LedBy Apart Shows countLed)

/-! ### Directives -/

/-- The directives that are written as often as something of their kind is configured. -/
inductive Directive where
  | leaseFile
  | cacheSize
  | leaseMax
  | server
  | interface
  | range
  | option
  | relay
  | address
  | host
  deriving DecidableEq, Repr, Inhabited

namespace Directive

/-- What a line with the directive starts with. -/
def lead : Directive → String
  | leaseFile => "dhcp-leasefile="
  | cacheSize => "cache-size="
  | leaseMax => "dhcp-lease-max="
  | server => "server="
  | interface => "interface="
  | range => "dhcp-range="
  | option => "dhcp-option="
  | relay => "dhcp-relay="
  | address => "address="
  | host => "dhcp-host="

/-- The lead of a directive has no line break. -/
theorem oneLine_lead (directive : Directive) : OneLine directive.lead := by
  cases directive <;> decide

end Directive

/-! ### The texts that are shown -/

/-- The texts in the directive of a range. -/
def DhcpRange.texts (r : DhcpRange) : List String :=
  [r.first, r.last, r.netmask, r.leasetime]

/-- The texts in the lines of an interface. -/
def ServedInterface.texts (i : ServedInterface) : List String :=
  [i.name] ++ [i.ifname] ++ [i.name] ++ (i.range.map DhcpRange.texts).getD [] ++ i.options ++
    i.relays

/-- The texts in the line of a name with an address. -/
def DomainEntry.texts (d : DomainEntry) : List String :=
  [d.name, d.ip]

namespace DnsmasqContext

/-- The texts in the directives of the instance itself. -/
def directiveTexts (c : DnsmasqContext) : List String :=
  [c.leaseFile] ++ c.dhcpBoot.toList ++ c.domain.toList ++ c.tftpRoot.toList ++ c.servers

/-- The texts that a configuration shows, in the order of its lines. -/
def texts (c : DnsmasqContext) : List String :=
  [c.source] ++ [c.section_] ++ c.directiveTexts ++ c.interfaces.flatMap ServedInterface.texts ++
    c.domains.flatMap DomainEntry.texts ++ c.hosts

end DnsmasqContext

section Shows

/-- A directive that may be unset shows its text, if there is one. -/
theorem shows_optionalDirective (lead : String) (h : OneLine lead) (value : Option String) :
    Shows (optionalDirective lead value) value.toList := by
  cases value with
  | none => exact .nothing fun _ hline => absurd hline List.not_mem_nil
  | some text =>
    by_cases empty : text = ""
    · -- An empty text is not shown, and has no break either.
      subst empty
      simp [Shows, optionalDirective, OneLine]
    · rw [optionalDirective, if_neg empty]
      exact .led lead h text

/-- A flag shows no text. -/
theorem shows_flagDirective (directive : String) (h : OneLine directive) (on : Bool) :
    Shows (flagDirective directive on) [] := by
  refine .nothing fun line hline => ?_
  -- A flag that is off has no line, and one that is on has a fixed one.
  cases on with
  | false => cases hline
  | true =>
    rw [flagDirective, if_pos rfl, List.mem_singleton] at hline
    exact hline ▸ h

/-- A number is no text that could break. -/
theorem shows_number (lead : String) (h : OneLine lead) (n : Int) :
    Shows [lead ++ toString n] [] := by
  refine .nothing fun line hline => ?_
  rw [List.mem_singleton.1 hline]
  exact Text.oneLine_append.2 ⟨h, Text.oneLine_toString n⟩

/-- The directive of a range shows the four texts between commas. -/
theorem shows_rangeDirective (range : Option DhcpRange) :
    Shows (rangeDirective range) ((range.map DhcpRange.texts).getD []) := by
  cases range with
  | none => exact .nothing fun _ hline => absurd hline List.not_mem_nil
  | some r =>
    have comma : OneLine "," := by decide
    have lead : OneLine "dhcp-range=" := by decide
    simp [Shows, rangeDirective, DhcpRange.texts, comma, lead, and_assoc]

/-- The line of a name shows the name and its address. -/
theorem DomainEntry.shows_line (d : DomainEntry) : Shows [d.line] d.texts := by
  have slash : OneLine "/" := by decide
  have lead : OneLine "address=/" := by decide
  simp [Shows, DomainEntry.line, DomainEntry.texts, slash, lead]

/-- The lines of an interface show its texts. -/
theorem ServedInterface.shows_lines (i : ServedInterface) : Shows i.lines i.texts := by
  have blank : Shows [""] [] := .nothing (by decide)
  have name := Shows.led "# Options for section interface " (by decide) i.name
  have ifname := Shows.led "interface=" (by decide) i.ifname
  have pool := Shows.led "# Options for section dhcp " (by decide) i.name
  have options := Shows.leads "dhcp-option=" (by decide) i.options
  have relays := Shows.leads "dhcp-relay=" (by decide) i.relays
  have proxy := shows_flagDirective "dhcp-proxy" (by decide) (!i.relays.isEmpty)
  -- Put together in the order of the lines.
  have all := (((((((blank.append name).append ifname).append blank).append pool).append
    (shows_rangeDirective i.range)).append options).append relays).append proxy
  simpa only [ServedInterface.lines, ServedInterface.texts, List.append_nil, List.nil_append,
    List.cons_append] using all

namespace DnsmasqContext

variable (c : DnsmasqContext)

/-- The rule around the title has no line break. -/
theorem oneLine_bannerRule : OneLine bannerRule := by
  intro broken
  have drawn : '\n' ∈ (String.ofList (List.replicate 80 '#')).toList := broken
  rw [String.toList_ofList] at drawn
  exact absurd (List.eq_of_mem_replicate drawn) (by decide)

/-- The title shows where the section comes from, and the section. -/
theorem shows_bannerLines : Shows c.bannerLines ([c.source] ++ [c.section_]) := by
  have title : Shows [bannerRule, "# dnsmasq configuration file generated by pdconf"] [] :=
    .nothing (List.forall_mem_cons.2 ⟨oneLine_bannerRule, by decide⟩)
  have source := Shows.led "# Source: " (by decide) c.source
  have section_ := Shows.led "# Section: " (by decide) c.section_
  have closing : Shows [bannerRule, ""] [] :=
    .nothing (List.forall_mem_cons.2 ⟨oneLine_bannerRule, by decide⟩)
  have all := ((title.append source).append section_).append closing
  simpa only [bannerLines, List.append_nil, List.nil_append, List.cons_append] using all

/-- The directives of the instance itself show its texts. -/
theorem shows_directiveLines : Shows c.directiveLines c.directiveTexts := by
  -- One line for each directive, in the order in which they are written. Flags and numbers show
  -- nothing.
  have leaseFile := Shows.led "dhcp-leasefile=" (by decide) c.leaseFile
  have authoritative := shows_flagDirective "dhcp-authoritative" (by decide) c.authoritative
  have cacheSize := shows_number "cache-size=" (by decide) c.cacheSize
  have dhcpBoot := shows_optionalDirective "dhcp-boot=" (by decide) c.dhcpBoot
  have leaseMax := shows_number "dhcp-lease-max=" (by decide) c.leaseMax
  have domain := shows_optionalDirective "domain=" (by decide) c.domain
  have enableTftp := shows_flagDirective "enable-tftp" (by decide) c.enableTftp
  have expandHosts := shows_flagDirective "expand-hosts" (by decide) c.expandHosts
  have noResolv := shows_flagDirective "no-resolv" (by decide) c.noResolv
  have tftpRoot := shows_optionalDirective "tftp-root=" (by decide) c.tftpRoot
  have servers := Shows.leads "server=" (by decide) c.servers
  have all := (((((((((leaseFile.append authoritative).append cacheSize).append dhcpBoot).append
    leaseMax).append domain).append enableTftp).append expandHosts).append noResolv).append
    tftpRoot).append servers
  simpa only [directiveLines, directiveTexts, List.append_nil] using all

/-- **The lines of a configuration are whole** just if the texts are that it shows. -/
theorem shows_lines : Shows c.lines c.texts := by
  -- The parts of a configuration, in order; what is fixed shows nothing.
  have fixed : Shows ["", "except-interface=lo", "bind-interfaces"] [] := .nothing (by decide)
  have interfaces := Shows.flatMap ServedInterface.shows_lines c.interfaces
  have blank : Shows [""] [] := .nothing (by decide)
  have domains := Shows.flatMap DomainEntry.shows_line c.domains
  rw [← List.map_eq_flatMap] at domains
  have hosts := Shows.leads "dhcp-host=" (by decide) c.hosts
  have all := ((((((c.shows_bannerLines.append c.shows_directiveLines).append fixed).append
    interfaces).append blank).append domains).append blank).append hosts
  simpa only [lines, texts, List.append_nil] using all

end DnsmasqContext

end Shows

/-! ### Counting the directives -/

section CountLed

variable {lead other : String}

/-- A directive that may be unset is not counted for another lead. -/
theorem countLed_optionalDirective (h : Apart lead other) (value : Option String) :
    countLed lead (optionalDirective other value) = 0 := by
  cases value with
  | none => rfl
  | some text =>
    by_cases empty : text = ""
    · rw [optionalDirective, if_pos empty, Text.countLed_nil]
    · rw [optionalDirective, if_neg empty, Text.countLed_apart h]

/-- A flag is not counted for another lead. -/
theorem countLed_flagDirective (h : ¬ LedBy lead other) (on : Bool) :
    countLed lead (flagDirective other on) = 0 := by
  cases on with
  | false => rfl
  | true => rw [flagDirective, if_pos rfl, Text.countLed_cons, if_neg h, Text.countLed_nil]

end CountLed

namespace Directive

/-- All directives. -/
def all : List Directive :=
  [leaseFile, cacheSize, leaseMax, server, interface, range, option, relay, address, host]

/-- No directive is left out. -/
theorem mem_all (directive : Directive) : directive ∈ all := by
  cases directive <;> decide

/-- What the other lines that show a text start with. -/
def otherLeads : List String :=
  ["# Source: ", "# Section: ", "dhcp-boot=", "domain=", "tftp-root=",
    "# Options for section interface ", "# Options for section dhcp "]

/-- The lines that show no text. -/
def fixedLines : List String :=
  ["", DnsmasqContext.bannerRule, "# dnsmasq configuration file generated by pdconf",
    "dhcp-authoritative", "enable-tftp", "expand-hosts", "no-resolv", "dhcp-proxy",
    "except-interface=lo", "bind-interfaces"]

/-- The directives are told apart by their leads. -/
theorem apart {a b : Directive} (h : a ≠ b) : Apart a.lead b.lead := by
  -- There are ten of them, so that all pairs can be tried.
  have pairs : ∀ a ∈ all, ∀ b ∈ all, a ≠ b → Apart a.lead b.lead := by decide +kernel
  exact pairs a a.mem_all b b.mem_all h

variable (directive : Directive)

/-- A directive is told apart from the other lines that show a text. -/
theorem apart_otherLeads {other : String} (h : other ∈ otherLeads) :
    Apart directive.lead other := by
  have pairs : ∀ a ∈ all, ∀ other ∈ otherLeads, Apart a.lead other := by decide +kernel
  exact pairs directive directive.mem_all other h

/-- No line that shows no text is taken for a directive. -/
theorem not_ledBy_fixedLines {line : String} (h : line ∈ fixedLines) :
    ¬ LedBy directive.lead line := by
  have pairs : ∀ a ∈ all, ∀ line ∈ fixedLines, ¬ LedBy a.lead line := by decide +kernel
  exact pairs directive directive.mem_all line h

/-- A line is counted for the directive that it has, and for no other. -/
theorem countLed_lead (b : Directive) (text : String) :
    countLed directive.lead [b.lead ++ text] = if directive = b then 1 else 0 := by
  by_cases h : directive = b
  · subst h
    rw [if_pos rfl, Text.countLed_led (List.prefix_refl _)]
  · rw [if_neg h, Text.countLed_apart (apart h)]

/-- Lines of one directive are counted for it alone. -/
theorem countLed_leads (b : Directive) (texts : List String) :
    countLed directive.lead (texts.map (b.lead ++ ·)) =
      if directive = b then texts.length else 0 := by
  by_cases h : directive = b
  · subst h
    rw [if_pos rfl, Text.countLed_leads (List.prefix_refl _)]
  · rw [if_neg h, Text.countLed_leads_apart (apart h)]

/-- Other lines that show a text are not counted. -/
theorem countLed_otherLead {other : String} (h : other ∈ otherLeads) (text : String) :
    countLed directive.lead [other ++ text] = 0 :=
  Text.countLed_apart (directive.apart_otherLeads h) text

/-- Nor are the directives that may be unset. -/
theorem countLed_optional {other : String} (h : other ∈ otherLeads) (value : Option String) :
    countLed directive.lead (optionalDirective other value) = 0 :=
  countLed_optionalDirective (directive.apart_otherLeads h) value

/-- Nor are flags. -/
theorem countLed_flag {line : String} (h : line ∈ fixedLines) (on : Bool) :
    countLed directive.lead (flagDirective line on) = 0 :=
  countLed_flagDirective (directive.not_ledBy_fixedLines h) on

/-- Nor are lines that show no text. -/
theorem countLed_fixedLines {lines : List String} (h : lines ⊆ fixedLines) :
    countLed directive.lead lines = 0 := by
  rw [countLed, List.countP_eq_zero]
  intro line hline led
  exact directive.not_ledBy_fixedLines (h hline) (of_decide_eq_true led)

/-! #### The lines of a configuration -/

/-- The title has no directive. -/
theorem countLed_bannerLines (c : DnsmasqContext) : countLed directive.lead c.bannerLines = 0 := by
  have title := directive.countLed_fixedLines
    (show [DnsmasqContext.bannerRule, "# dnsmasq configuration file generated by pdconf"] ⊆
      fixedLines by simp [fixedLines])
  have source := directive.countLed_otherLead (show "# Source: " ∈ otherLeads by simp [otherLeads])
    c.source
  have section_ := directive.countLed_otherLead
    (show "# Section: " ∈ otherLeads by simp [otherLeads]) c.section_
  have closing := directive.countLed_fixedLines
    (show [DnsmasqContext.bannerRule, ""] ⊆ fixedLines by simp [fixedLines])
  -- The title is made of lines that are fixed and of two that show a text.
  have split : c.bannerLines =
      [DnsmasqContext.bannerRule, "# dnsmasq configuration file generated by pdconf"] ++
        ["# Source: " ++ c.source] ++ ["# Section: " ++ c.section_] ++
        [DnsmasqContext.bannerRule, ""] := rfl
  rw [split, Text.countLed_append, Text.countLed_append, Text.countLed_append, title, source,
    section_, closing]

/-- How often the instance itself has a directive. -/
def ofInstance (c : DnsmasqContext) : Directive → Nat
  | leaseFile | cacheSize | leaseMax => 1
  | server => c.servers.length
  | _ => 0

/-- How often the lines of the instance itself have a directive. -/
theorem countLed_directiveLines (c : DnsmasqContext) :
    countLed directive.lead c.directiveLines = directive.ofInstance c := by
  -- Four of the directives are of the instance itself: each is counted for its own lead.
  have leaseFile : countLed directive.lead ["dhcp-leasefile=" ++ c.leaseFile] = _ :=
    directive.countLed_lead .leaseFile c.leaseFile
  have cacheSize : countLed directive.lead ["cache-size=" ++ toString c.cacheSize] = _ :=
    directive.countLed_lead .cacheSize _
  have leaseMax : countLed directive.lead ["dhcp-lease-max=" ++ toString c.leaseMax] = _ :=
    directive.countLed_lead .leaseMax _
  have servers : countLed directive.lead (c.servers.map ("server=" ++ ·)) = _ :=
    directive.countLed_leads .server c.servers
  -- The others are told apart from all directives.
  have dhcpBoot := directive.countLed_optional
    (show "dhcp-boot=" ∈ otherLeads by simp [otherLeads]) c.dhcpBoot
  have domain := directive.countLed_optional (show "domain=" ∈ otherLeads by simp [otherLeads])
    c.domain
  have tftpRoot := directive.countLed_optional
    (show "tftp-root=" ∈ otherLeads by simp [otherLeads]) c.tftpRoot
  have authoritative := directive.countLed_flag
    (show "dhcp-authoritative" ∈ fixedLines by simp [fixedLines]) c.authoritative
  have enableTftp := directive.countLed_flag
    (show "enable-tftp" ∈ fixedLines by simp [fixedLines]) c.enableTftp
  have expandHosts := directive.countLed_flag
    (show "expand-hosts" ∈ fixedLines by simp [fixedLines]) c.expandHosts
  have noResolv := directive.countLed_flag (show "no-resolv" ∈ fixedLines by simp [fixedLines])
    c.noResolv
  simp only [DnsmasqContext.directiveLines, Text.countLed_append, leaseFile, cacheSize, leaseMax,
    servers, dhcpBoot, domain, tftpRoot, authoritative, enableTftp, expandHosts, noResolv]
  -- What is left is a sum of zeros and ones.
  cases directive <;> simp [ofInstance]

/-- How often an interface has a directive. -/
def ofServed (i : ServedInterface) : Directive → Nat
  | interface => 1
  | range => if i.range.isSome then 1 else 0
  | option => i.options.length
  | relay => i.relays.length
  | _ => 0

/-- How often the lines of an interface have a directive. -/
theorem countLed_interfaceLines (i : ServedInterface) :
    countLed directive.lead i.lines = directive.ofServed i := by
  have name := directive.countLed_otherLead
    (show "# Options for section interface " ∈ otherLeads by simp [otherLeads]) i.name
  have ifname : countLed directive.lead ["interface=" ++ i.ifname] = _ :=
    directive.countLed_lead .interface i.ifname
  have pool := directive.countLed_otherLead
    (show "# Options for section dhcp " ∈ otherLeads by simp [otherLeads]) i.name
  have blank := directive.countLed_fixedLines (show [""] ⊆ fixedLines by simp [fixedLines])
  -- The line of a range is one text after its lead, however many parts it has.
  have range : countLed directive.lead (rangeDirective i.range) =
      if directive = .range then (if i.range.isSome then 1 else 0) else 0 := by
    cases i.range with
    | none => simp [rangeDirective]
    | some r =>
      rw [rangeDirective, String.append_assoc, String.append_assoc, String.append_assoc,
        String.append_assoc, String.append_assoc, String.append_assoc]
      exact directive.countLed_lead .range _
  have options : countLed directive.lead (i.options.map ("dhcp-option=" ++ ·)) = _ :=
    directive.countLed_leads .option i.options
  have relays : countLed directive.lead (i.relays.map ("dhcp-relay=" ++ ·)) = _ :=
    directive.countLed_leads .relay i.relays
  have proxy := directive.countLed_flag (show "dhcp-proxy" ∈ fixedLines by simp [fixedLines])
    (!i.relays.isEmpty)
  have split : i.lines = [""] ++ ["# Options for section interface " ++ i.name] ++
      ["interface=" ++ i.ifname] ++ [""] ++ ["# Options for section dhcp " ++ i.name] ++
      rangeDirective i.range ++ i.options.map ("dhcp-option=" ++ ·) ++
      i.relays.map ("dhcp-relay=" ++ ·) ++ flagDirective "dhcp-proxy" (!i.relays.isEmpty) := rfl
  simp only [split, Text.countLed_append, name, ifname, pool, blank, range, options, relays, proxy]
  cases directive <;> simp [ofServed]

/-- The lines of names are all of one directive. -/
theorem countLed_domainLines (domains : List DomainEntry) :
    countLed directive.lead (domains.map DomainEntry.line) =
      if directive = .address then domains.length else 0 := by
  -- The slash before the name belongs to the text and not to the lead.
  have line : ∀ d : DomainEntry, d.line = address.lead ++ ("/" ++ d.name ++ "/" ++ d.ip) := by
    intro d
    have lead : "address=/" = address.lead ++ "/" := rfl
    rw [DomainEntry.line, lead]
    simp only [String.append_assoc]
  have texts := directive.countLed_leads .address
    (domains.map fun d => "/" ++ d.name ++ "/" ++ d.ip)
  rw [List.map_map, List.length_map] at texts
  rw [← texts]
  exact congrArg _ (List.map_congr_left fun d _ => line d)

/-- How often a configuration has a directive. -/
def count (c : DnsmasqContext) (directive : Directive) : Nat :=
  directive.ofInstance c + (c.interfaces.map directive.ofServed).sum +
    (if directive = .address then c.domains.length else 0) +
    (if directive = .host then c.hosts.length else 0)

/-- **The lines of a configuration have each directive** as often as its parts have it. -/
theorem countLed_lines (c : DnsmasqContext) :
    countLed directive.lead c.lines = directive.count c := by
  have interfaces : countLed directive.lead (c.interfaces.flatMap ServedInterface.lines) =
      (c.interfaces.map directive.ofServed).sum := by
    rw [Text.countLed_flatMap]
    exact congrArg _ (List.map_congr_left fun i _ => directive.countLed_interfaceLines i)
  have hosts : countLed directive.lead (c.hosts.map ("dhcp-host=" ++ ·)) = _ :=
    directive.countLed_leads .host c.hosts
  have fixed := directive.countLed_fixedLines
    (show ["", "except-interface=lo", "bind-interfaces"] ⊆ fixedLines by simp [fixedLines])
  have blank := directive.countLed_fixedLines (show [""] ⊆ fixedLines by simp [fixedLines])
  simp only [DnsmasqContext.lines, Text.countLed_append, countLed_bannerLines,
    countLed_directiveLines, countLed_domainLines, interfaces, hosts, fixed, blank, count,
    Nat.zero_add, Nat.add_zero]

end Directive

end RouterConf
