import ShiepPipeline.Routing.RangeText

/-!
# The order of the two bounds of a range

`plan_rangeOrder` exchanges the bounds of one range, anywhere in a document or among the extras,
and says when the plan for an address stays the same. A range of ports that is written with the
larger bound first matches no port, and this shows in the plan unless another rule, or the kind of
the flow, hides it.
-/

open Net Str

namespace ShiepPipeline

/-! ## Resources and documents -/

section Resources

variable {key : String} {r : String → String → Prop} {attrs attrs' : List XmlAttribute}

theorem RcAttributes.assign_self (a : RcAttributes) (key value value' : String) :
    (a.assign key value).assign key value' = a.assign key value' := by
  simp only [assign]
  split_ifs <;> rfl

theorem RcAttributes.assign_comm (a : RcAttributes) {key key' : String}
    (hkey : key = "host" ∨ key = "port") (h : key' ≠ key) (value value' : String) :
    (a.assign key value).assign key' value' = (a.assign key' value').assign key value := by
  obtain rfl | rfl := hkey
  · change ({ a with hostRaw := some value } : RcAttributes).assign key' value'
      = { a.assign key' value' with hostRaw := some value }
    simp only [assign, if_neg h]
    split_ifs <;> rfl
  · change ({ a with portRaw := some value } : RcAttributes).assign key' value'
      = { a.assign key' value' with portRaw := some value }
    simp only [assign, if_neg h]
    split_ifs <;> rfl

/-- The same attributes, or attributes that differ in the value of one. -/
def AttributesApart (key : String) (r : String → String → Prop) (a a' : RcAttributes) : Prop :=
  a = a' ∨ ∃ b raw raw', r raw raw' ∧ a = RcAttributes.assign b key raw
    ∧ a' = RcAttributes.assign b key raw'

/-- A later attribute of the same name hides the difference. -/
theorem AttributesApart.assign {a a' : RcAttributes} (hkey : key = "host" ∨ key = "port")
    (h : AttributesApart key r a a') (key' value : String) :
    AttributesApart key r (a.assign key' value) (a'.assign key' value) := by
  obtain rfl | ⟨b, raw, raw', hraw, rfl, rfl⟩ := h
  · exact .inl rfl
  · by_cases hsame : key' = key
    · subst hsame
      exact .inl (by rw [RcAttributes.assign_self, RcAttributes.assign_self])
    · refine .inr ⟨b.assign key' value, raw, raw', hraw, ?_, ?_⟩
      · exact RcAttributes.assign_comm b hkey hsame raw value
      · exact RcAttributes.assign_comm b hkey hsame raw' value

theorem readRcAttributes_swap (hkey : key = "host" ∨ key = "port")
    (h : OneApart (SwapsAttribute key r) attrs attrs') :
    SameUpTo (AttributesApart key r) (readRcAttributes attrs) (readRcAttributes attrs') := by
  refine h.foldlM ?_ ?_ ({} : RcAttributes)
  · intro a a' attr ha
    rcases decodeAttribute attr with e | ⟨key', value⟩
    · exact .error e
    · exact .ok (ha.assign hkey key' value)
  · rintro a _ _ ⟨hraw⟩
    exact .ok (.inr ⟨a, _, _, hraw, rfl, rfl⟩)

end Resources

/-- What resources with one list of hosts or of ports exchanged add to the table. -/
theorem emit_hosts {a : RcAttributes} {raw raw' : String} (h : SwapsItem SwapsHost raw raw') :
    SameUpTo CompileAlike (a.assign "host" raw).emit (a.assign "host" raw').emit := by
  obtain ⟨idRaw, protoRaw, svc, _, portRaw, name⟩ := a
  change SameUpTo _ (RcAttributes.emit ⟨idRaw, protoRaw, svc, some raw, portRaw, name⟩)
    (RcAttributes.emit ⟨idRaw, protoRaw, svc, some raw', portRaw, name⟩)
  rcases idRaw with _ | idRaw <;> rcases portRaw with _ | portRaw
  case some.some =>
    rw [RcAttributes.emit, RcAttributes.emit]
    dsimp only
    rcases parseI32 idRaw with e | rcId
    · exact .error _
    · exact .ok (compileAlike_emitRules (map_compileHost_splitHosts h))
  all_goals exact .ok rfl

theorem emit_ports {a : RcAttributes} {raw raw' : String} (h : SwapsItem SwapsBounds raw raw') :
    SameUpTo PortSwapped (a.assign "port" raw).emit (a.assign "port" raw').emit := by
  obtain ⟨idRaw, protoRaw, svc, hostRaw, _, name⟩ := a
  change SameUpTo _ (RcAttributes.emit ⟨idRaw, protoRaw, svc, hostRaw, some raw, name⟩)
    (RcAttributes.emit ⟨idRaw, protoRaw, svc, hostRaw, some raw', name⟩)
  rcases idRaw with _ | idRaw <;> rcases hostRaw with _ | hostRaw
  case some.some =>
    rw [RcAttributes.emit, RcAttributes.emit]
    dsimp only
    rcases parseI32 idRaw with e | rcId
    · exact .error _
    · refine .ok ?_
      obtain heq | hapart := splitPorts_swap h
      · exact .inl (by rw [heq])
      · exact portSwapped_emitRules hapart
  all_goals exact .ok (.inl rfl)

section Documents

variable {ρ : List RouteRule → List RouteRule → Prop}

/-- Tables with the same DNS data and related rules. -/
structure TablesApart (ρ : List RouteRule → List RouteRule → Prop) (t t' : RouteTable) : Prop where
  rules : ρ t.rules t'.rules
  dnsServers : t.dnsServers = t'.dnsServers
  dnsRecords : t.dnsRecords = t'.dnsRecords

/-- A relation of rules that does not look at the rules before and behind. -/
structure IsLocal (ρ : List RouteRule → List RouteRule → Prop) : Prop where
  refl : ∀ l, ρ l l
  append_left : ∀ l l' m, ρ l l' → ρ (m ++ l) (m ++ l')
  append_right : ∀ l l' m, ρ l l' → ρ (l ++ m) (l' ++ m)

theorem IsLocal.tablesApart_refl (hρ : IsLocal ρ) (t : RouteTable) : TablesApart ρ t t :=
  ⟨hρ.refl _, rfl, rfl⟩

/-- The same resource, read with different rules in front. -/
theorem parseRc_apart (hρ : IsLocal ρ) {rules rules' : List RouteRule} (h : ρ rules rules')
    (attrs : List XmlAttribute) :
    SameUpTo ρ (parseRc attrs rules) (parseRc attrs rules') := by
  rw [parseRc_eq, parseRc_eq]
  refine (SameUpTo.refl (fun _ ↦ rfl) (emittedRules attrs)).bind ?_
  rintro emitted _ rfl
  exact .ok (hρ.append_right _ _ _ h)

/-- Two resources, read with the same rules in front. -/
theorem parseRc_swap (hρ : IsLocal ρ) {attrs attrs' : List XmlAttribute}
    (h : SameUpTo ρ (emittedRules attrs) (emittedRules attrs')) (rules : List RouteRule) :
    SameUpTo ρ (parseRc attrs rules) (parseRc attrs' rules) := by
  rw [parseRc_eq, parseRc_eq]
  exact h.bind fun _ _ he ↦ .ok (hρ.append_left _ _ _ he)

theorem readElement_apart (hρ : IsLocal ρ) {t t' : RouteTable} (h : TablesApart ρ t t')
    (name : String) (attrs : List XmlAttribute) :
    SameUpTo (TablesApart ρ) (readElement t name attrs) (readElement t' name attrs) := by
  obtain ⟨rules, dnsServers, dnsRecords⟩ := t
  obtain ⟨rules', _, _⟩ := t'
  obtain ⟨hrules, rfl, rfl⟩ := h
  rw [readElement, readElement]
  split_ifs
  · exact (parseRc_apart hρ hrules attrs).bind fun _ _ hr ↦ .ok ⟨hr, rfl, rfl⟩
  · refine (SameUpTo.refl (fun _ ↦ rfl) (parseDns attrs dnsServers dnsRecords)).bind ?_
    rintro ⟨servers, records⟩ _ rfl
    exact .ok ⟨hrules, rfl, rfl⟩
  · exact .ok ⟨hrules, rfl, rfl⟩

/-- The rest of a document, read into two tables. -/
theorem parseEvents_apart (hρ : IsLocal ρ) (events : List XmlEvent) {t t' : RouteTable}
    (h : TablesApart ρ t t') :
    SameUpTo (TablesApart ρ) (parseEvents events t) (parseEvents events t') := by
  induction events generalizing t t' with
  | nil => exact .ok h
  | cons event events ih =>
    rcases event with ⟨name, attrs⟩ | ⟨name, attrs⟩ | name | _ | _ | e
    · exact (readElement_apart hρ h name attrs).bind fun _ _ h' ↦ ih h'
    · exact (readElement_apart hρ h name attrs).bind fun _ _ h' ↦ ih h'
    · exact ih h
    · exact ih h
    · exact .ok h
    · exact .error _

/-- **One exchanged resource changes the rules in one place only.** -/
theorem parseEvents_swap (hρ : IsLocal ρ) {key : String} {r : String → String → Prop}
    (hemit : ∀ attrs attrs', OneApart (SwapsAttribute key r) attrs attrs' →
      SameUpTo ρ (emittedRules attrs) (emittedRules attrs'))
    {events events' : List XmlEvent} (h : OneApart (SwapsResource key r) events events')
    (t : RouteTable) :
    SameUpTo (TablesApart ρ) (parseEvents events t) (parseEvents events' t) := by
  have hread : ∀ attrs attrs', OneApart (SwapsAttribute key r) attrs attrs' → ∀ t : RouteTable,
      SameUpTo (TablesApart ρ) (readElement t "Rc" attrs) (readElement t "Rc" attrs') := by
    intro attrs attrs' hattrs t
    exact (parseRc_swap hρ (hemit attrs attrs' hattrs) t.rules).bind fun _ _ hr ↦
      .ok ⟨hr, rfl, rfl⟩
  induction h generalizing t with
  | here h events =>
    obtain hattrs | hattrs := h
    · exact (hread _ _ hattrs t).bind fun _ _ h' ↦ parseEvents_apart hρ events h'
    · exact (hread _ _ hattrs t).bind fun _ _ h' ↦ parseEvents_apart hρ events h'
  | there event _ ih =>
    have hsame : ∀ name attrs, SameUpTo (fun t t' : RouteTable ↦ t = t') (readElement t name attrs)
        (readElement t name attrs) := fun name attrs ↦ SameUpTo.refl (fun _ ↦ rfl) _
    rcases event with ⟨name, attrs⟩ | ⟨name, attrs⟩ | name | _ | _ | e
    · exact (hsame name attrs).bind fun t₁ t₂ h' ↦ h' ▸ ih t₁
    · exact (hsame name attrs).bind fun t₁ t₂ h' ↦ h' ▸ ih t₁
    · exact ih t
    · exact ih t
    · exact .ok (hρ.tablesApart_refl t)
    · exact .error _

theorem isLocal_compileAlike : IsLocal CompileAlike where
  refl _ := rfl
  append_left l l' m hl := by
    rw [CompileAlike] at hl
    rw [CompileAlike, List.map_append, List.map_append, hl]
  append_right l l' m hl := by
    rw [CompileAlike] at hl
    rw [CompileAlike, List.map_append, List.map_append, hl]

theorem isLocal_portSwapped : IsLocal PortSwapped where
  refl _ := .inl rfl
  append_left _ _ m hl := hl.imp (congrArg (m ++ ·)) (·.append_left m)
  append_right _ _ m hl := hl.imp (congrArg (· ++ m)) (·.append_right m)

/-- An exchanged range of hosts. -/
theorem parseRouteTableXml_hosts {events events' : List XmlEvent}
    (h : OneApart (SwapsResource "host" (SwapsItem SwapsHost)) events events') :
    SameUpTo (TablesApart CompileAlike) (parseRouteTableXml events)
      (parseRouteTableXml events') := by
  refine parseEvents_swap isLocal_compileAlike (fun attrs attrs' hattrs ↦ ?_) h _
  refine (readRcAttributes_swap (.inl rfl) hattrs).bind ?_
  rintro a a' (rfl | ⟨b, raw, raw', hraw, rfl, rfl⟩)
  · exact SameUpTo.refl isLocal_compileAlike.refl _
  · exact emit_hosts hraw

/-- An exchanged range of ports. -/
theorem parseRouteTableXml_ports {events events' : List XmlEvent}
    (h : OneApart (SwapsResource "port" (SwapsItem SwapsBounds)) events events') :
    SameUpTo (TablesApart PortSwapped) (parseRouteTableXml events)
      (parseRouteTableXml events') := by
  refine parseEvents_swap isLocal_portSwapped (fun attrs attrs' hattrs ↦ ?_) h _
  refine (readRcAttributes_swap (.inr rfl) hattrs).bind ?_
  rintro a a' (rfl | ⟨b, raw, raw', hraw, rfl, rfl⟩)
  · exact SameUpTo.refl isLocal_portSwapped.refl _
  · exact emit_ports hraw

end Documents

/-! ## Plans -/

/-- Tables whose rules compile alike give the same matcher. -/
theorem fromTable_eq {t t' : RouteTable} (h : TablesApart CompileAlike t t')
    (extraIps : List String) :
    RouteMatcher.fromTable t extraIps = RouteMatcher.fromTable t' extraIps := by
  obtain ⟨rules, dnsServers, dnsRecords⟩ := t
  obtain ⟨rules', _, _⟩ := t'
  obtain ⟨hrules, rfl, rfl⟩ := h
  have hcompile : compileRules rules = compileRules rules' := by
    have hfilter : ∀ l : List RouteRule, l.filterMap compileRule
        = (l.map compileRule).filterMap id := fun l ↦ by rw [List.filterMap_map]; rfl
    rw [compileRules_eq, compileRules_eq, hfilter, hfilter, hrules]
  simp only [RouteMatcher.fromTable, hcompile]

namespace RouteRule

variable (rule : RouteRule) (a : Ipv4Addr) (port : UInt16) (flowProto : FlowProto)

/-- A raw rule applies to an address and a flow. -/
def applies : Bool := rule.coversIp a && rule.acceptsFlow port flowProto

/-- Whether a flow is accepted depends on its port. -/
def asksPort : Bool :=
  trim rule.svc != "vipall" && (rule.proto == -1 || rule.proto == flowProto.code)
    && flowProto != .icmp

/-- The order of the bounds decides whether a rule applies to a flow, and what comes after the rule
does not lead to the same resource. -/
structure OrderDecides (after : List RouteRule) : Prop where
  covers : rule.coversIp a = true
  asks : rule.asksPort flowProto = true
  ne : rule.port.start ≠ rule.port.stop
  within : (rule.port.start ≤ port ∧ port ≤ rule.port.stop)
    ∨ (rule.port.stop ≤ port ∧ port ≤ rule.port.start)
  after : ∀ r, after.find? (·.applies a port flowProto) = some r →
    ¬(r.rcId = rule.rcId ∧ r.name = rule.name)

variable {rule a port flowProto}

/-- When a rule and the one with exchanged bounds do not both apply, or both not. -/
theorem applies_ne_iff :
    rule.applies a port flowProto ≠ rule.swapPort.applies a port flowProto
      ↔ rule.coversIp a = true ∧ rule.asksPort flowProto = true
        ∧ rule.port.start ≠ rule.port.stop
        ∧ ((rule.port.start ≤ port ∧ port ≤ rule.port.stop)
          ∨ (rule.port.stop ≤ port ∧ port ≤ rule.port.start)) := by
  have hcovers : rule.swapPort.coversIp a = rule.coversIp a := rfl
  have hports : (decide (rule.port.start ≤ port) && decide (port ≤ rule.port.stop))
        ≠ (decide (rule.port.stop ≤ port) && decide (port ≤ rule.port.start))
      ↔ rule.port.start ≠ rule.port.stop ∧ ((rule.port.start ≤ port ∧ port ≤ rule.port.stop)
        ∨ (rule.port.stop ≤ port ∧ port ≤ rule.port.start)) := by
    rw [ne_eq, Bool.eq_iff_iff]
    simp only [Bool.and_eq_true, decide_eq_true_eq, ne_eq, ← UInt16.toNat_inj,
      UInt16.le_iff_toNat_le]
    omega
  have haccepts : rule.swapPort.acceptsFlow port flowProto = (trim rule.svc == "vipall"
      || ((rule.proto == -1 || rule.proto == flowProto.code) && (flowProto == .icmp
        || (decide (rule.port.stop ≤ port) && decide (port ≤ rule.port.start))))) := rfl
  rw [← hports, applies, applies, hcovers, haccepts, acceptsFlow, asksPort, bne, bne]
  generalize (decide (rule.port.start ≤ port) && decide (port ≤ rule.port.stop)) = u
  generalize (decide (rule.port.stop ≤ port) && decide (port ≤ rule.port.start)) = v
  rcases rule.coversIp a <;> rcases trim rule.svc == "vipall" <;>
    rcases rule.proto == -1 || rule.proto == flowProto.code <;> rcases flowProto == .icmp <;> simp

end RouteRule

section Search

variable {a : Ipv4Addr} {port : UInt16} {flowProto : FlowProto} {rules rules' : List RouteRule}

/-- What a plan shows of the rule behind it. -/
def RouteRule.resource (rule : RouteRule) : ℤ × String := (rule.rcId, rule.name)

/-- The resource of the first rule that applies to a flow. -/
def firstResource (rules : List RouteRule) (a : Ipv4Addr) (port : UInt16)
    (flowProto : FlowProto) : Option (ℤ × String) :=
  (rules.find? (·.applies a port flowProto)).map RouteRule.resource

/-- The order of a range's bounds shows: the rules differ in it, it decides about the flow, and no
rule in front of it applies. -/
def PortOrderShows (rules rules' : List RouteRule) (a : Ipv4Addr) (port : UInt16)
    (flowProto : FlowProto) : Prop :=
  ∃ before rule after, rules = before ++ rule :: after ∧ rules' = before ++ rule.swapPort :: after
    ∧ (∀ r ∈ before, r.applies a port flowProto = false)
    ∧ rule.OrderDecides a port flowProto after

theorem firstResource_cons (rule : RouteRule) (after : List RouteRule) :
    firstResource (rule :: after) a port flowProto
      = if rule.applies a port flowProto then some rule.resource
        else firstResource after a port flowProto := by
  rw [firstResource, List.find?_cons]
  rcases rule.applies a port flowProto <;> rfl

theorem firstResource_cons_swapPort_iff (rule : RouteRule) (after : List RouteRule) :
    firstResource (rule :: after) a port flowProto
        = firstResource (rule.swapPort :: after) a port flowProto
      ↔ ¬rule.OrderDecides a port flowProto after := by
  have hresource : rule.swapPort.resource = rule.resource := rfl
  rw [firstResource_cons, firstResource_cons, hresource]
  by_cases hsame : rule.applies a port flowProto = rule.swapPort.applies a port flowProto
  · refine iff_of_true (by rw [hsame]) fun h ↦ ?_
    exact RouteRule.applies_ne_iff.mpr ⟨h.covers, h.asks, h.ne, h.within⟩ hsame
  · -- one of the two applies, and the other leaves the flow to the rules behind it
    obtain ⟨hcovers, hasks, hne, hwithin⟩ := RouteRule.applies_ne_iff.mp hsame
    have hlater : firstResource after a port flowProto = some rule.resource
        ↔ ¬rule.OrderDecides a port flowProto after := by
      rw [firstResource, Option.map_eq_some_iff]
      constructor
      · rintro ⟨r, hr, hresource⟩ h
        exact h.after r hr (Prod.mk.inj hresource)
      · intro h
        by_contra hnot
        refine h ⟨hcovers, hasks, hne, hwithin, fun r hr ⟨hid, hname⟩ ↦ hnot ⟨r, hr, ?_⟩⟩
        rw [RouteRule.resource, hid, hname, RouteRule.resource]
    rw [← hlater]
    rcases Bool.eq_false_or_eq_true (rule.applies a port flowProto) with hfirst | hfirst
    · have hswap : rule.swapPort.applies a port flowProto = false :=
        Bool.eq_false_iff.mpr fun h ↦ hsame (hfirst.trans h.symm)
      rw [hfirst, hswap, if_pos rfl, if_neg Bool.false_ne_true, eq_comm]
    · have hswap : rule.swapPort.applies a port flowProto = true :=
        Bool.of_not_eq_false fun h ↦ hsame (hfirst.trans h.symm)
      rw [hfirst, hswap, if_pos rfl, if_neg Bool.false_ne_true]

theorem firstResource_swapPort_iff (before : List RouteRule) (rule : RouteRule)
    (after : List RouteRule) :
    firstResource (before ++ rule :: after) a port flowProto
        = firstResource (before ++ rule.swapPort :: after) a port flowProto
      ↔ ¬((∀ r ∈ before, r.applies a port flowProto = false)
        ∧ rule.OrderDecides a port flowProto after) := by
  induction before with
  | nil => simpa using firstResource_cons_swapPort_iff rule after
  | cons first before ih =>
    rw [List.cons_append, List.cons_append, firstResource_cons, firstResource_cons,
      List.forall_mem_cons]
    by_cases hfirst : first.applies a port flowProto = true
    · simp [hfirst]
    · simp only [hfirst, if_false, ih, Bool.false_eq_true, true_and]

/-- The first resource stays the same exactly if the order of the bounds does not show. -/
theorem firstResource_eq_iff (h : PortSwapped rules rules') :
    firstResource rules a port flowProto = firstResource rules' a port flowProto
      ↔ ¬PortOrderShows rules rules' a port flowProto := by
  constructor
  · rintro heq ⟨before, rule, after, rfl, rfl, hshows⟩
    exact (firstResource_swapPort_iff before rule after).mp heq hshows
  · intro hnot
    obtain rfl | hapart := h
    · rfl
    · obtain ⟨before, rule, _, after, rfl, rfl, rfl⟩ := hapart.exists_eq
      rw [firstResource_swapPort_iff]
      exact fun hshows ↦ hnot ⟨before, rule, after, rfl, rfl, hshows⟩

section Reference

variable {table table' : RouteTable} {extraIps : List String} {host : String}

theorem referencePlan_of_some {rule : RouteRule}
    (h : table.rules.find? (·.applies a port flowProto) = some rule) :
    referencePlan table extraIps host port flowProto a
      = .remote (ipPort a port) rule.rcId rule.name .ruleIp := by
  change table.rules.find? (fun rule ↦ rule.coversIp a && rule.acceptsFlow port flowProto) = _ at h
  rw [referencePlan, h]

theorem referencePlan_of_none (h : table.rules.find? (·.applies a port flowProto) = none) :
    referencePlan table extraIps host port flowProto a
      = if extraIps.any (extraDenotes · a) then .remote (hostPort host port) 0 "--extra" .extraIp
        else .fallback (hostPort host port) "no whitelist rule matched" := by
  change table.rules.find? (fun rule ↦ rule.coversIp a && rule.acceptsFlow port flowProto) = _ at h
  rw [referencePlan, h]

/-- With the same extras, plans for an address are the same if the first resource is. -/
theorem referencePlan_eq_iff :
    referencePlan table extraIps host port flowProto a
        = referencePlan table' extraIps host port flowProto a
      ↔ firstResource table.rules a port flowProto
        = firstResource table'.rules a port flowProto := by
  rw [firstResource, firstResource]
  rcases h : table.rules.find? (·.applies a port flowProto) with _ | rule <;>
    rcases h' : table'.rules.find? (·.applies a port flowProto) with _ | rule'
  · rw [h, h', referencePlan_of_none h, referencePlan_of_none h']
    exact iff_of_true rfl rfl
  · rw [h, h', referencePlan_of_none h, referencePlan_of_some h']
    refine iff_of_false ?_ (nomatch ·)
    split_ifs <;> simp
  · rw [h, h', referencePlan_of_some h, referencePlan_of_none h']
    refine iff_of_false ?_ (nomatch ·)
    split_ifs <;> simp
  · rw [h, h', referencePlan_of_some h, referencePlan_of_some h']
    simp [RouteRule.resource]

end Reference

end Search

/-- A range of ports matches some port exactly if its smaller bound comes first. -/
theorem exists_portMatches_iff {range : PortRange} :
    (∃ port, portMatches range port = true) ↔ range.start ≤ range.stop := by
  simp only [portMatches, Bool.and_eq_true, decide_eq_true_eq]
  constructor
  · rintro ⟨port, hstart, hstop⟩
    exact UInt16.le_trans hstart hstop
  · intro h
    exact ⟨range.start, UInt16.le_refl _, h⟩

/-- **The order of the bounds** of an extra or of a host does not matter. The order of the bounds of
a port range matters where `PortOrderShows` says. -/
theorem plan_rangeOrder (extraIps extraIps' : List String) (events events' : List XmlEvent) :
    (OneApart SwapsBounds extraIps extraIps' → ∀ table,
      RouteMatcher.fromTable table extraIps = RouteMatcher.fromTable table extraIps')
    ∧ (OneApart (SwapsResource "host" (SwapsItem SwapsHost)) events events' → ∀ extras,
      (parseRouteTableXml events).map (RouteMatcher.fromTable · extras)
        = (parseRouteTableXml events').map (RouteMatcher.fromTable · extras))
    ∧ (OneApart (SwapsResource "port" (SwapsItem SwapsBounds)) events events' →
      SameUpTo (fun table table' ↦ ∀ (extras : List String) (host : String) (port : UInt16)
          (flowProto : FlowProto) (a : Ipv4Addr) (env : DnsEnv) (w : DnsWorld),
        Ipv4Addr.fromStr (trim host) = some a →
        (env.run ((RouteMatcher.fromTable table extras).plan host port flowProto) w
            = env.run ((RouteMatcher.fromTable table' extras).plan host port flowProto) w
          ↔ ¬PortOrderShows table.rules table'.rules a port flowProto))
        (parseRouteTableXml events) (parseRouteTableXml events'))
    ∧ (∀ x y, (orderedRange x y).covers (.ipv4 x) = true
      ∧ (orderedRange x y).covers (.ipv4 y) = true)
    ∧ ∀ range, (∃ port, portMatches range port = true) ↔ range.start ≤ range.stop := by
  refine ⟨?_, ?_, ?_, ?_, fun range ↦ exists_portMatches_iff⟩
  · intro h table
    have hmatchers : extraIps.filterMap parseExtraIp = extraIps'.filterMap parseExtraIp :=
      h.filterMap_eq fun _ _ ↦ parseExtraIp_swap
    rw [RouteMatcher.fromTable, hmatchers, RouteMatcher.fromTable]
  · intro h extras
    exact (parseRouteTableXml_hosts h).map_eq fun _ _ htables ↦ fromTable_eq htables extras
  · intro h
    refine (parseRouteTableXml_ports h).mono fun table table' htables ↦ ?_
    intro extras host port flowProto a env w hhost
    rw [RouteMatcher.plan_literal hhost, RouteMatcher.plan_literal hhost, Prod.mk.injEq,
      and_iff_left rfl, referencePlan_eq_iff, firstResource_eq_iff htables.rules]
  · intro x y
    rw [covers_orderedRange, covers_orderedRange, between, between]
    simp only [Bool.or_eq_true, Bool.and_eq_true, decide_eq_true_eq]
    omega

/-- One resource with one host. -/
def portDocument (port : String) : List XmlEvent :=
  [.empty "Rc" [.value "id" "7", .value "host" "10.0.0.5", .value "port" port,
    .value "name" "files"], .eof]

def portTable (port : PortRange) : RouteTable := ⟨[⟨7, 0, "", "files", "10.0.0.5", port⟩], [], []⟩

theorem portDocument_apart :
    OneApart (SwapsResource "port" (SwapsItem SwapsBounds)) (portDocument "443~445")
      (portDocument "445~443") := by
  have hbounds : SwapsBounds "443~445" "445~443" :=
    .swap (a := "443") (b := "445") ⟨by decide, by decide, by decide⟩
      ⟨by decide, by decide, by decide⟩
  have hitem : SwapsItem SwapsBounds "443~445" "445~443" :=
    .swap (.here hbounds []) (by decide) (by decide)
  exact .here (.empty (.there _ (.there _ (.here (.swap hitem) _)))) _

/-- **A range of ports that matches nothing**: the larger bound has been written first. -/
theorem plan_portOrder :
    OneApart (SwapsResource "port" (SwapsItem SwapsBounds)) (portDocument "443~445")
        (portDocument "445~443")
      ∧ parseRouteTableXml (portDocument "443~445") = .ok (portTable ⟨443, 445⟩)
      ∧ parseRouteTableXml (portDocument "445~443") = .ok (portTable ⟨445, 443⟩)
      ∧ (DnsEnv.offline fun _ ↦ none).run ((RouteMatcher.fromTable (portTable ⟨443, 445⟩) []).plan
          "10.0.0.5" 444 .tcp) .initial
        = (.remote "10.0.0.5:444" 7 "files" .ruleIp, .initial)
      ∧ (DnsEnv.offline fun _ ↦ none).run ((RouteMatcher.fromTable (portTable ⟨445, 443⟩) []).plan
          "10.0.0.5" 444 .tcp) .initial
        = (.fallback "10.0.0.5:444" "no whitelist rule matched", .initial)
      ∧ ∀ port, portMatches ⟨445, 443⟩ port = false := by
  have hhost : Ipv4Addr.fromStr (trim "10.0.0.5") = some ⟨10, 0, 0, 5⟩ := by decide
  have hplan : referencePlan (portTable ⟨443, 445⟩) [] "10.0.0.5" 444 .tcp ⟨10, 0, 0, 5⟩
      = .remote "10.0.0.5:444" 7 "files" .ruleIp := by decide +kernel
  have hplan' : referencePlan (portTable ⟨445, 443⟩) [] "10.0.0.5" 444 .tcp ⟨10, 0, 0, 5⟩
      = .fallback "10.0.0.5:444" "no whitelist rule matched" := by decide +kernel
  refine ⟨portDocument_apart, by decide +kernel, by decide +kernel, ?_, ?_, ?_⟩
  · rw [RouteMatcher.plan_literal hhost, hplan]
  · rw [RouteMatcher.plan_literal hhost, hplan']
  · intro port
    by_contra h
    exact absurd (exists_portMatches_iff.mp ⟨port, Bool.of_not_eq_false h⟩) (by decide)

/-- For a port outside of the range its order makes no difference. -/
theorem plan_rangeOrder_outside :
    (DnsEnv.offline fun _ ↦ none).run ((RouteMatcher.fromTable (portTable ⟨443, 445⟩) []).plan
        "10.0.0.5" 80 .tcp) .initial
      = (DnsEnv.offline fun _ ↦ none).run ((RouteMatcher.fromTable (portTable ⟨445, 443⟩) []).plan
        "10.0.0.5" 80 .tcp) .initial := by
  have hhost : Ipv4Addr.fromStr (trim "10.0.0.5") = some ⟨10, 0, 0, 5⟩ := by decide
  have hparse : parseRouteTableXml (portDocument "443~445") = .ok (portTable ⟨443, 445⟩) := by
    decide +kernel
  have hparse' : parseRouteTableXml (portDocument "445~443") = .ok (portTable ⟨445, 443⟩) := by
    decide +kernel
  have hsame := (plan_rangeOrder [] [] _ _).2.2.1 portDocument_apart
  rw [hparse, hparse'] at hsame
  obtain _ | hsame := hsame
  refine (hsame [] "10.0.0.5" 80 .tcp ⟨10, 0, 0, 5⟩ _ _ hhost).mpr ?_
  rintro ⟨before, rule, after, hrules, -, -, hdecides⟩
  have hmem : rule ∈ (portTable ⟨443, 445⟩).rules := by
    rw [hrules]
    exact List.mem_append_right before List.mem_cons_self
  obtain rfl := List.mem_singleton.mp hmem
  exact absurd hdecides.within (by decide)

end ShiepPipeline
