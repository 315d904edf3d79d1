import ShiepPipeline.Routing.Cascade

/-!
# More rules

What happens to a target that goes to the tunnel when rules are appended to the table. Every lookup
of the old matcher that finds a rule finds the same rule in the new one, so an earlier planner may
take over, and it takes over with a rule that was added.

Most planners that take over plan the tunnel again. The exception is by design: a rule that names a
domain commits the plan, and falls back when it has no address for the domain.
`isRemote_appendRules_iff` says that this is the only way to lose the tunnel.
-/

open Net Str

namespace ShiepPipeline

def RouteTable.appendRules (table : RouteTable) (added : List RouteRule) : RouteTable :=
  { table with rules := table.rules ++ added }

namespace RouteMatcher

variable {table : RouteTable} {added : List RouteRule} {extraIps : List String} {env : DnsEnv}
  {host : String} {port : UInt16} {flowProto : FlowProto} {w : DnsWorld}

/-! ## Lookups in the longer table -/

/-- The old rules come first, so what they match stays matched. -/
theorem findFirstMatch_appendRules (target : TargetKind) :
    (fromTable (table.appendRules added) extraIps).findFirstMatch port flowProto target
      = ((fromTable table extraIps).findFirstMatch port flowProto target).or
          ((added.filterMap compileRule).find? (·.matches target port flowProto)) := by
  have hscan : ∀ t : RouteTable, (fromTable t extraIps).findFirstMatch port flowProto target
      = (t.rules.filterMap compileRule).find? (·.matches target port flowProto) := fun t ↦
    (findFirstMatch_eq _ _ _ _).trans (find?_compileRules _ _)
  rw [hscan, hscan, RouteTable.appendRules, List.filterMap_append, List.find?_append]

theorem findFirstMatch_appendRules_of_some {target : TargetKind} {rule : CompiledRule}
    (h : (fromTable table extraIps).findFirstMatch port flowProto target = some rule) :
    (fromTable (table.appendRules added) extraIps).findFirstMatch port flowProto target
      = some rule := by
  rw [findFirstMatch_appendRules, h, Option.some_or]

theorem findFirstMatch_of_appendRules_none {target : TargetKind}
    (h : (fromTable (table.appendRules added) extraIps).findFirstMatch port flowProto target
      = none) :
    (fromTable table extraIps).findFirstMatch port flowProto target = none := by
  rw [findFirstMatch_appendRules, Option.or_eq_none_iff] at h
  exact h.1

theorem matchedIp_eq_none_iff {m : RouteMatcher} {ips : List Ipv4Addr} :
    m.matchedIp port flowProto ips = none ↔
      ∀ ip ∈ ips, m.findFirstMatch port flowProto (.ipv4 ip) = none := by
  simp [matchedIp, List.findSome?_eq_none_iff]

theorem matchedIp_of_appendRules_none {ips : List Ipv4Addr}
    (h : (fromTable (table.appendRules added) extraIps).matchedIp port flowProto ips = none) :
    (fromTable table extraIps).matchedIp port flowProto ips = none :=
  matchedIp_eq_none_iff.mpr fun ip hip ↦
    findFirstMatch_of_appendRules_none (matchedIp_eq_none_iff.mp h ip hip)

theorem matchedAlias_of_appendRules_none {aliases : List String}
    (h : (fromTable (table.appendRules added) extraIps).matchedAlias port flowProto aliases
      = none) :
    (fromTable table extraIps).matchedAlias port flowProto aliases = none := by
  rw [matchedAlias, List.findSome?_eq_none_iff] at h ⊢
  intro name hname
  have hnone := h name hname
  dsimp only at hnone ⊢
  split_ifs with hskip
  · rfl
  · rw [if_neg hskip, Option.map_eq_none_iff] at hnone
    rw [findFirstMatch_of_appendRules_none hnone, Option.map_none]

/-- When the alias that the longer table matches is one that an old rule names, it is the alias
that the old table matches. -/
theorem matchedAlias_of_appendRules_some {aliases : List String} {target : String}
    {rule rule' : CompiledRule}
    (h : (fromTable (table.appendRules added) extraIps).matchedAlias port flowProto aliases
      = some (target, rule))
    (hold : (fromTable table extraIps).findFirstMatch port flowProto (.domain target)
      = some rule') :
    (fromTable table extraIps).matchedAlias port flowProto aliases = some (target, rule) := by
  induction aliases with
  | nil => simp [matchedAlias] at h
  | cons name aliases ih =>
    rw [matchedAlias, List.findSome?_cons] at h ⊢
    by_cases hskip : normalizeDomain name = "" ∨ (Ipv4Addr.fromStr (normalizeDomain name)).isSome
    · simp only [hskip, if_true] at h ⊢
      exact ih h
    · simp only [hskip, if_false] at h ⊢
      cases hnew : (fromTable (table.appendRules added) extraIps).findFirstMatch port flowProto
          (.domain (normalizeDomain name)) with
      | some x =>
        rw [hnew] at h
        obtain ⟨rfl, rfl⟩ := Prod.mk.inj (Option.some.inj h)
        rw [findFirstMatch_appendRules_of_some hold] at hnew
        rw [hold, Option.map_some, Option.some.inj hnew]
      | none =>
        rw [hnew] at h
        rw [findFirstMatch_of_appendRules_none hnew]
        exact ih h

theorem Unlisted.of_appendRules {domain : String}
    (h : (fromTable (table.appendRules added) extraIps).Unlisted port flowProto domain) :
    (fromTable table extraIps).Unlisted port flowProto domain where
  direct := findFirstMatch_of_appendRules_none h.direct
  records ips hips := matchedIp_of_appendRules_none (h.records ips hips)

theorem Unanswered.of_appendRules {domain : String}
    (h : (fromTable (table.appendRules added) extraIps).Unanswered env port flowProto w domain) :
    (fromTable table extraIps).Unanswered env port flowProto w domain where
  toUnlisted := h.toUnlisted.of_appendRules
  lookup hservers answer w' hrun := by
    obtain ⟨halias, hips⟩ := h.lookup hservers answer w' hrun
    exact ⟨matchedAlias_of_appendRules_none halias, matchedIp_of_appendRules_none hips⟩

theorem Unmatched.of_appendRules {ip : Ipv4Addr}
    (h : (fromTable (table.appendRules added) extraIps).Unmatched env host port flowProto w ip) :
    (fromTable table extraIps).Unmatched env host port flowProto w ip := by
  cases h with
  | literal htarget hmatch => exact .literal htarget (findFirstMatch_of_appendRules_none hmatch)
  | resolved htarget hunanswered hos hmatch =>
    exact .resolved htarget hunanswered.of_appendRules hos
      (findFirstMatch_of_appendRules_none hmatch)

/-! ## Losing the tunnel -/

/-- An added rule names the domain, or an alias of it that is looked at, no old rule does, and the
added rule has no address: neither a record of its resource nor a successful lookup. -/
inductive AddedUnresolved (table : RouteTable) (added : List RouteRule) (extraIps : List String)
    (env : DnsEnv) (host : String) (port : UInt16) (flowProto : FlowProto) (w : DnsWorld) : Prop
  | named {domain : String} {rule : CompiledRule} (htarget : parseTarget host = .domain domain)
      (hold : (fromTable table extraIps).findFirstMatch port flowProto (.domain domain) = none)
      (hnew : (fromTable (table.appendRules added) extraIps).findFirstMatch port flowProto
        (.domain domain) = some rule)
      (hno : ∀ ip source, ¬ (fromTable (table.appendRules added) extraIps).RuleAddress env w rule
        domain ip source) :
      AddedUnresolved table added extraIps env host port flowProto w
  | cname {domain target : String} {answer : LookupResolveResult} {w' : DnsWorld}
      {rule : CompiledRule} (htarget : parseTarget host = .domain domain)
      (hunlisted : (fromTable (table.appendRules added) extraIps).Unlisted port flowProto domain)
      (hservers : (fromTable table extraIps).dnsServers ≠ [])
      (hanswer : env.run (resolveLookup domain (fromTable table extraIps).dnsServers) w
        = (.ok answer, w'))
      (hold : (fromTable table extraIps).findFirstMatch port flowProto (.domain target) = none)
      (hnew : (fromTable (table.appendRules added) extraIps).matchedAlias port flowProto
        answer.aliases = some (target, rule))
      (hno : ∀ ip source, ¬ (fromTable (table.appendRules added) extraIps).RuleAddress env w' rule
        target ip source) :
      AddedUnresolved table added extraIps env host port flowProto w

variable (table added extraIps) in
theorem planRemoteWithRule_appendRules :
    (fromTable (table.appendRules added) extraIps).planRemoteWithRule
      = (fromTable table extraIps).planRemoteWithRule := rfl

theorem AddedUnresolved.not_of_ipv4 {ip : Ipv4Addr} (htarget : parseTarget host = .ipv4 ip) :
    ¬ AddedUnresolved table added extraIps env host port flowProto w := by
  rintro (⟨htarget', -, -, -⟩ | ⟨htarget', -, -, -, -, -, -⟩) <;>
    exact absurd (htarget.symm.trans htarget') (by simp)

/-- A rule that names the target itself takes precedence over everything else. -/
theorem AddedUnresolved.of_direct {domain : String} {rule : CompiledRule}
    (h : AddedUnresolved table added extraIps env host port flowProto w)
    (htarget : parseTarget host = .domain domain)
    (hdirect : (fromTable (table.appendRules added) extraIps).findFirstMatch port flowProto
      (.domain domain) = some rule) :
    (fromTable table extraIps).findFirstMatch port flowProto (.domain domain) = none
      ∧ ∀ ip source, ¬ (fromTable (table.appendRules added) extraIps).RuleAddress env w rule
        domain ip source := by
  cases h with
  | named htarget' hold hnew hno =>
    obtain rfl := TargetKind.domain.inj (htarget.symm.trans htarget')
    obtain rfl := Option.some.inj (hdirect.symm.trans hnew)
    exact ⟨hold, hno⟩
  | cname htarget' hunlisted =>
    obtain rfl := TargetKind.domain.inj (htarget.symm.trans htarget')
    exact absurd (hdirect.symm.trans hunlisted.direct) (by simp)

/-- Where no rule names the target, an alias decides. -/
theorem AddedUnresolved.of_not_direct {domain : String}
    (h : AddedUnresolved table added extraIps env host port flowProto w)
    (htarget : parseTarget host = .domain domain)
    (hdirect : (fromTable (table.appendRules added) extraIps).findFirstMatch port flowProto
      (.domain domain) = none) :
    (fromTable (table.appendRules added) extraIps).Unlisted port flowProto domain
      ∧ (fromTable table extraIps).dnsServers ≠ []
      ∧ ∃ answer w' target rule,
        env.run (resolveLookup domain (fromTable table extraIps).dnsServers) w = (.ok answer, w')
        ∧ (fromTable table extraIps).findFirstMatch port flowProto (.domain target) = none
        ∧ (fromTable (table.appendRules added) extraIps).matchedAlias port flowProto
          answer.aliases = some (target, rule)
        ∧ ∀ ip source, ¬ (fromTable (table.appendRules added) extraIps).RuleAddress env w' rule
          target ip source := by
  cases h with
  | named htarget' hold hnew =>
    obtain rfl := TargetKind.domain.inj (htarget.symm.trans htarget')
    exact absurd (hdirect.symm.trans hnew) (by simp)
  | cname htarget' hunlisted hservers hanswer hold hnew hno =>
    obtain rfl := TargetKind.domain.inj (htarget.symm.trans htarget')
    exact ⟨hunlisted, hservers, _, _, _, _, hanswer, hold, hnew, hno⟩

/-- The alias that decides is one of the answer at hand. -/
theorem AddedUnresolved.of_answer {domain : String} {answer : LookupResolveResult} {w' : DnsWorld}
    (h : AddedUnresolved table added extraIps env host port flowProto w)
    (htarget : parseTarget host = .domain domain)
    (hdirect : (fromTable (table.appendRules added) extraIps).findFirstMatch port flowProto
      (.domain domain) = none)
    (hanswer : env.run (resolveLookup domain (fromTable table extraIps).dnsServers) w
      = (.ok answer, w')) :
    ∃ target rule,
      (fromTable table extraIps).findFirstMatch port flowProto (.domain target) = none
      ∧ (fromTable (table.appendRules added) extraIps).matchedAlias port flowProto answer.aliases
        = some (target, rule)
      ∧ ∀ ip source, ¬ (fromTable (table.appendRules added) extraIps).RuleAddress env w' rule
        target ip source := by
  obtain ⟨-, -, answer', w'', target, rule, hanswer', hold, hnew, hno⟩ :=
    h.of_not_direct htarget hdirect
  obtain ⟨hok, rfl⟩ := Prod.mk.inj (hanswer'.symm.trans hanswer)
  obtain rfl := Except.ok.inj hok
  exact ⟨target, rule, hold, hnew, hno⟩

theorem AddedUnresolved.not_of_unanswered {domain : String}
    (hunanswered : (fromTable (table.appendRules added) extraIps).Unanswered env port flowProto w
      domain) (htarget : parseTarget host = .domain domain) :
    ¬ AddedUnresolved table added extraIps env host port flowProto w := by
  intro h
  obtain ⟨-, hservers, answer, w', target, rule, hanswer, -, hnew, -⟩ :=
    h.of_not_direct htarget hunanswered.direct
  exact absurd (hnew.symm.trans (hunanswered.lookup hservers answer w' hanswer).1) (by simp)

/-- The rule that decides names the target: an old one, or an added one that needs an address. -/
theorem isRemote_committed_iff {domain : String} {rule : CompiledRule}
    (htarget : parseTarget host = .domain domain)
    (hmatch : (fromTable (table.appendRules added) extraIps).findFirstMatch port flowProto
      (.domain domain) = some rule)
    (hremote :
      (env.run ((fromTable table extraIps).plan host port flowProto) w).1.isRemote = true) :
    (env.run ((fromTable (table.appendRules added) extraIps).planRemoteWithRule host port rule
        (.domain domain)) w).1.isRemote = true
      ↔ ¬ AddedUnresolved table added extraIps env host port flowProto w := by
  cases hold : (fromTable table extraIps).findFirstMatch port flowProto (.domain domain) with
  | some rule' =>
    -- the old rule decides in both tables
    have hnew : (fromTable (table.appendRules added) extraIps).findFirstMatch port flowProto
        (.domain domain) = some rule' := findFirstMatch_appendRules_of_some hold
    obtain rfl := Option.some.inj (hnew.symm.trans hmatch)
    have hplan : (fromTable table extraIps).findFirstMatch port flowProto (parseTarget host)
        = some rule' := htarget ▸ hold
    rw [run_plan_of_match hplan, htarget] at hremote
    rw [planRemoteWithRule_appendRules]
    refine iff_of_true hremote fun h ↦ ?_
    exact absurd (hold.symm.trans (h.of_direct htarget hmatch).1) (by simp)
  | none =>
    rw [isRemote_planRemoteWithRule_domain]
    constructor
    · rintro ⟨ip, source, haddr⟩ h
      exact (h.of_direct htarget hmatch).2 ip source haddr
    · intro h
      by_contra hno
      exact h (.named htarget hold hmatch fun ip source haddr ↦ hno ⟨ip, source, haddr⟩)

/-- The rule that decides names an alias of the target: the same holds. -/
theorem isRemote_cname_iff {domain target : String} {answer : LookupResolveResult} {w' : DnsWorld}
    {rule : CompiledRule} (htarget : parseTarget host = .domain domain)
    (hunlisted : (fromTable (table.appendRules added) extraIps).Unlisted port flowProto domain)
    (hservers : (fromTable table extraIps).dnsServers ≠ [])
    (hanswer : env.run (resolveLookup domain (fromTable table extraIps).dnsServers) w
      = (.ok answer, w'))
    (hmatch : (fromTable (table.appendRules added) extraIps).matchedAlias port flowProto
      answer.aliases = some (target, rule))
    (hremote :
      (env.run ((fromTable table extraIps).plan host port flowProto) w).1.isRemote = true) :
    (env.run ((fromTable (table.appendRules added) extraIps).planRemoteWithCnameRule host port rule
        (.domain target)) w').1.isRemote = true
      ↔ ¬ AddedUnresolved table added extraIps env host port flowProto w := by
  rw [isRemote_planRemoteWithCnameRule]
  cases hold : (fromTable table extraIps).findFirstMatch port flowProto (.domain target) with
  | some rule' =>
    -- the old rule for the alias decides in both tables
    have hplans : (fromTable table extraIps).Plans env host port flowProto w _ :=
      .cname htarget hunlisted.of_appendRules hservers hanswer
        (matchedAlias_of_appendRules_some hmatch hold)
    rw [hplans.run_eq, isRemote_planRemoteWithCnameRule] at hremote
    rw [planRemoteWithRule_appendRules]
    refine iff_of_true hremote fun h ↦ ?_
    obtain ⟨target', rule'', hnone, hnew, -⟩ := h.of_answer htarget hunlisted.direct hanswer
    obtain ⟨rfl, -⟩ := Prod.mk.inj (Option.some.inj (hmatch.symm.trans hnew))
    exact absurd (hold.symm.trans hnone) (by simp)
  | none =>
    rw [isRemote_planRemoteWithRule_domain]
    constructor
    · rintro ⟨ip, source, haddr⟩ h
      obtain ⟨target', rule', -, hnew, hno⟩ := h.of_answer htarget hunlisted.direct hanswer
      obtain ⟨rfl, rfl⟩ := Prod.mk.inj (Option.some.inj (hmatch.symm.trans hnew))
      exact hno ip source haddr
    · intro h
      by_contra hno
      exact h (.cname htarget hunlisted hservers hanswer hold hmatch
        fun ip source haddr ↦ hno ⟨ip, source, haddr⟩)

/-- **More rules keep the tunnel**, except where an added rule that matches a domain has no address
for it. -/
theorem isRemote_appendRules_iff
    (hremote :
      (env.run ((fromTable table extraIps).plan host port flowProto) w).1.isRemote = true) :
    (env.run ((fromTable (table.appendRules added) extraIps).plan host port flowProto) w).1.isRemote
        = true
      ↔ ¬ AddedUnresolved table added extraIps env host port flowProto w := by
  obtain ⟨p, hp, hplans⟩ : ∃ p, p = (env.run ((fromTable (table.appendRules added) extraIps).plan
      host port flowProto) w).1
      ∧ (fromTable (table.appendRules added) extraIps).Plans env host port flowProto w p :=
    ⟨_, rfl, plans_run⟩
  rw [← hp]
  clear hp
  cases hplans with
  | @committed rule hmatch =>
    cases htarget : parseTarget host with
    | ipv4 ip => exact ⟨fun _ ↦ AddedUnresolved.not_of_ipv4 htarget, fun _ ↦ rfl⟩
    | domain domain =>
      rw [htarget] at hmatch
      exact isRemote_committed_iff htarget hmatch hremote
  | record htarget hdirect hrecords hmatch =>
    refine ⟨fun _ h ↦ ?_, fun _ ↦ rfl⟩
    have hnone := (h.of_not_direct htarget hdirect).1.records _ hrecords
    exact absurd (hmatch.symm.trans hnone) (by simp)
  | cname htarget hunlisted hservers hanswer hmatch =>
    exact isRemote_cname_iff htarget hunlisted hservers hanswer hmatch hremote
  | answered htarget hunlisted hservers hanswer halias hmatch =>
    refine ⟨fun _ h ↦ ?_, fun _ ↦ rfl⟩
    obtain ⟨target, rule, -, hnew, -⟩ := h.of_answer htarget hunlisted.direct hanswer
    exact absurd (hnew.symm.trans halias) (by simp)
  | resolved htarget hunanswered hos hmatch =>
    exact ⟨fun _ ↦ AddedUnresolved.not_of_unanswered hunanswered htarget, fun _ ↦ rfl⟩
  -- without the added rules nothing matches either, and the plan is the same
  | @unmatched ip hunmatched =>
    have hplans : (fromTable table extraIps).Plans env host port flowProto w _ :=
      .unmatched hunmatched.of_appendRules
    rw [hplans.run_eq] at hremote
    refine ⟨fun _ ↦ ?_, fun _ ↦ hremote⟩
    cases hunmatched with
    | literal htarget => exact AddedUnresolved.not_of_ipv4 htarget
    | resolved htarget hunanswered =>
      exact AddedUnresolved.not_of_unanswered hunanswered htarget
  | unresolved htarget hunanswered hos =>
    have hplans : (fromTable table extraIps).Plans env host port flowProto w _ :=
      .unresolved htarget hunanswered.of_appendRules hos
    rw [hplans.run_eq] at hremote
    exact absurd hremote Bool.false_ne_true

/-- A range of addresses, and a record that gives a domain one of them. -/
def panTable : RouteTable where
  rules := [⟨302, -1, "Other", "lab", "10.166.0.1~10.166.255.254", ⟨1, 65535⟩⟩]
  dnsServers := []
  dnsRecords := [⟨302, "pan.shiep.edu.cn", "10.166.64.9"⟩]

/-- A rule of another resource, without a record. -/
def panRule : RouteRule := ⟨150, -1, "Other", "pan", "pan.shiep.edu.cn", ⟨1, 65535⟩⟩

theorem appendRules_loses_tunnel :
    ((DnsEnv.offline fun _ ↦ none).run
        ((fromTable panTable []).plan "pan.shiep.edu.cn" 443 .tcp) .initial).1
      = .remote "10.166.64.9:443" 302 "lab" .dnsDataIpRule
    ∧ ((DnsEnv.offline fun _ ↦ none).run
        ((fromTable (panTable.appendRules [panRule]) []).plan "pan.shiep.edu.cn" 443 .tcp)
        .initial).1
      = .fallback "pan.shiep.edu.cn:443"
        "hostname matched rc_id=150 but dns map is missing and dnsserver is unavailable" := by
  decide +kernel

/-- The same rule for another domain takes nothing away. -/
theorem isRemote_appendRules_other :
    ((DnsEnv.offline fun _ ↦ none).run ((fromTable panTable []).plan "pan.shiep.edu.cn" 443 .tcp)
        .initial).1.isRemote = true
    ∧ (((DnsEnv.offline fun _ ↦ none).run ((fromTable (panTable.appendRules
          [{ panRule with host := "www.shiep.edu.cn" }]) []).plan "pan.shiep.edu.cn" 443 .tcp)
          .initial).1.isRemote = true
        ↔ ¬ AddedUnresolved panTable [{ panRule with host := "www.shiep.edu.cn" }] []
          (DnsEnv.offline fun _ ↦ none) "pan.shiep.edu.cn" 443 .tcp .initial) :=
  ⟨by decide +kernel, isRemote_appendRules_iff (by decide +kernel)⟩

end RouteMatcher

end ShiepPipeline
