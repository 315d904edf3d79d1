import ShiepPipeline.Routing.Matcher

/-!
# The cascade of planners

`RouteMatcher.Plans` says how a plan comes about, by one rule for each way through the cascade.
Each rule carries what every earlier planner came to, so the rules exclude each other, and
`RouteMatcher.plans_iff` states that together they are `RouteMatcher.plan`. Everything that is
proved about plans goes by cases on these rules.
-/

open Net Str

namespace ShiepPipeline

namespace RouteMatcher

variable (m : RouteMatcher) (env : DnsEnv) (host : String) (port : UInt16) (flowProto : FlowProto)
  (w : DnsWorld)

/-- The world in which the operating system is asked about a domain: the lookup through the DNS
servers, if there are any, has been made. -/
def afterLookup (domain : String) : DnsWorld :=
  if m.dnsServers.isEmpty then w else (env.run (resolveLookup domain m.dnsServers) w).2

/-- What is planned for an address that no rule covers: only an extra can send it to the tunnel. -/
def extraPlan (ip : Ipv4Addr) : RoutePlan :=
  if m.extraMatchers.any (extraHit ip) then .remote (hostPort host port) 0 "--extra" .extraIp
  else .fallback (hostPort host port) "no whitelist rule matched"

/-- No rule names the domain, and no rule covers an address that the records give for it. -/
structure Unlisted (domain : String) : Prop where
  direct : m.findFirstMatch port flowProto (.domain domain) = none
  records : ∀ ips, m.dnsExact domain = some ips → m.matchedIp port flowProto ips = none

/-- Besides, nothing in the answer of the DNS servers is matched by a rule, if there is one. -/
structure Unanswered (domain : String) : Prop extends m.Unlisted port flowProto domain where
  lookup : m.dnsServers ≠ [] → ∀ answer w',
    env.run (resolveLookup domain m.dnsServers) w = (.ok answer, w') →
      m.matchedAlias port flowProto answer.aliases = none
        ∧ m.matchedIp port flowProto answer.ips = none

/-- The cascade comes to an address that no rule covers: the target itself, or what the operating
system gives for a domain that nothing else matched. -/
inductive Unmatched : Ipv4Addr → Prop
  | literal {ip : Ipv4Addr} (htarget : parseTarget host = .ipv4 ip)
      (hmatch : m.findFirstMatch port flowProto (.ipv4 ip) = none) : Unmatched ip
  | resolved {domain : String} {ip : Ipv4Addr} (htarget : parseTarget host = .domain domain)
      (hunanswered : m.Unanswered env port flowProto w domain)
      (hos : (env.run (resolveDomainToIpv4 domain) (m.afterLookup env w domain)).1 = some ip)
      (hmatch : m.findFirstMatch port flowProto (.ipv4 ip) = none) : Unmatched ip

/-- The ways through the cascade. -/
inductive Plans : RoutePlan → Prop
  /-- The first rule for the target itself decides. -/
  | committed {rule : CompiledRule}
      (hmatch : m.findFirstMatch port flowProto (parseTarget host) = some rule) :
      Plans (env.run (m.planRemoteWithRule host port rule (parseTarget host)) w).1
  /-- A rule covers an address that the records give. -/
  | record {domain : String} {ips : List Ipv4Addr} {ip : Ipv4Addr} {rule : CompiledRule}
      (htarget : parseTarget host = .domain domain)
      (hdirect : m.findFirstMatch port flowProto (.domain domain) = none)
      (hrecords : m.dnsExact domain = some ips)
      (hmatch : m.matchedIp port flowProto ips = some (ip, rule)) :
      Plans (.remote (ipPort ip port) rule.rcId rule.rcName .dnsDataIpRule)
  /-- A rule names an alias in the DNS servers' answer. -/
  | cname {domain target : String} {answer : LookupResolveResult} {w' : DnsWorld}
      {rule : CompiledRule} (htarget : parseTarget host = .domain domain)
      (hunlisted : m.Unlisted port flowProto domain) (hservers : m.dnsServers ≠ [])
      (hanswer : env.run (resolveLookup domain m.dnsServers) w = (.ok answer, w'))
      (hmatch : m.matchedAlias port flowProto answer.aliases = some (target, rule)) :
      Plans (env.run (m.planRemoteWithCnameRule host port rule (.domain target)) w').1
  /-- A rule covers an address in the DNS servers' answer. -/
  | answered {domain : String} {answer : LookupResolveResult} {w' : DnsWorld} {ip : Ipv4Addr}
      {rule : CompiledRule} (htarget : parseTarget host = .domain domain)
      (hunlisted : m.Unlisted port flowProto domain) (hservers : m.dnsServers ≠ [])
      (hanswer : env.run (resolveLookup domain m.dnsServers) w = (.ok answer, w'))
      (halias : m.matchedAlias port flowProto answer.aliases = none)
      (hmatch : m.matchedIp port flowProto answer.ips = some (ip, rule)) :
      Plans (.remote (ipPort ip port) rule.rcId rule.rcName (ipRuleSource answer.source))
  /-- A rule covers the address that the operating system gives. -/
  | resolved {domain : String} {ip : Ipv4Addr} {rule : CompiledRule}
      (htarget : parseTarget host = .domain domain)
      (hunanswered : m.Unanswered env port flowProto w domain)
      (hos : (env.run (resolveDomainToIpv4 domain) (m.afterLookup env w domain)).1 = some ip)
      (hmatch : m.findFirstMatch port flowProto (.ipv4 ip) = some rule) :
      Plans (.remote (ipPort ip port) rule.rcId rule.rcName .ruleIp)
  /-- There is an address, and no rule covers it. -/
  | unmatched {ip : Ipv4Addr} (h : m.Unmatched env host port flowProto w ip) :
      Plans (m.extraPlan host port ip)
  /-- There is no address to go by. -/
  | unresolved {domain : String} (htarget : parseTarget host = .domain domain)
      (hunanswered : m.Unanswered env port flowProto w domain)
      (hos : (env.run (resolveDomainToIpv4 domain) (m.afterLookup env w domain)).1 = none) :
      Plans (.fallback (hostPort host port) "no whitelist rule matched")

variable {m env host port flowProto w}

/-! ## The plan for a rule that names a domain -/

variable (m env w) in
/-- Where the address for a rule that names a domain comes from: the records of the rule's
resource, or else the lookup made for the rule. -/
inductive RuleAddress (rule : CompiledRule) (domain : String) : Ipv4Addr → RouteSource → Prop
  | record {ip : Ipv4Addr} (hscoped : m.scopedIp rule.rcId domain = some ip) :
      RuleAddress rule domain ip .dnsMap
  | lookup {resolved : ResolveResult} (hscoped : m.scopedIp rule.rcId domain = none)
      (hservers : m.dnsServers ≠ [])
      (hrun : (env.run (resolveFirstIpv4 rule.rcId domain m.dnsServers) w).1 = .ok resolved) :
      RuleAddress rule domain resolved.ip (ruleLookupSource resolved.source)

/-- The plan for a rule and a domain: remote with the rule's address, or else the fallback. -/
theorem run_planRemoteWithRule_domain (rule : CompiledRule) (domain : String) :
    (∃ ip source, m.RuleAddress env w rule domain ip source
      ∧ (env.run (m.planRemoteWithRule host port rule (.domain domain)) w).1
        = .remote (ipPort ip port) rule.rcId rule.rcName source)
    ∨ (∀ ip source, ¬ m.RuleAddress env w rule domain ip source)
      ∧ (env.run (m.planRemoteWithRule host port rule (.domain domain)) w).1.isRemote = false := by
  rw [planRemoteWithRule]
  cases hscoped : m.scopedIp rule.rcId domain with
  | some ip => exact .inl ⟨ip, .dnsMap, .record hscoped, rfl⟩
  | none =>
    by_cases hservers : m.dnsServers = []
    · refine .inr ⟨?_, by simp [hservers, RoutePlan.isRemote]⟩
      rintro ip source (h | ⟨-, h, -⟩)
      · simp [hscoped] at h
      · exact h hservers
    · have hne : m.dnsServers.isEmpty = false := by simpa using hservers
      simp only [hne, Bool.false_eq_true, if_false, DnsEnv.run_bind]
      cases hrun : (env.run (resolveFirstIpv4 rule.rcId domain m.dnsServers) w).1 with
      | ok resolved =>
        refine .inl ⟨resolved.ip, ruleLookupSource resolved.source,
          .lookup hscoped hservers hrun, ?_⟩
        dsimp only
        cases resolved.source <;> rfl
      | error err =>
        refine .inr ⟨?_, rfl⟩
        rintro ip source (h | ⟨-, -, h⟩)
        · simp [hscoped] at h
        · simp [hrun] at h

/-- The alias planner only renames the source of a remote plan. -/
theorem run_planRemoteWithCnameRule (rule : CompiledRule) (target : TargetKind) :
    (env.run (m.planRemoteWithCnameRule host port rule target) w).1 =
      match (env.run (m.planRemoteWithRule host port rule target) w).1 with
      | .remote dial rcId rcName source => .remote dial rcId rcName (cnameRouteSource source)
      | other => other := by
  rw [planRemoteWithCnameRule, DnsEnv.run_bind]
  cases (env.run (m.planRemoteWithRule host port rule target) w).1 <;> rfl

theorem isRemote_planRemoteWithRule_domain (rule : CompiledRule) (domain : String) :
    (env.run (m.planRemoteWithRule host port rule (.domain domain)) w).1.isRemote = true ↔
      ∃ ip source, m.RuleAddress env w rule domain ip source := by
  rcases run_planRemoteWithRule_domain rule domain with ⟨ip, source, haddr, hrun⟩ | ⟨hno, hrun⟩
  · rw [hrun]
    exact ⟨fun _ ↦ ⟨ip, source, haddr⟩, fun _ ↦ rfl⟩
  · rw [hrun]
    exact ⟨fun h ↦ absurd h Bool.false_ne_true, fun ⟨ip, source, h⟩ ↦ absurd h (hno ip source)⟩

theorem isRemote_planRemoteWithCnameRule (rule : CompiledRule) (target : TargetKind) :
    (env.run (m.planRemoteWithCnameRule host port rule target) w).1.isRemote
      = (env.run (m.planRemoteWithRule host port rule target) w).1.isRemote := by
  rw [run_planRemoteWithCnameRule]
  cases (env.run (m.planRemoteWithRule host port rule target) w).1 <;> rfl

/-! ## The rules and the code -/

theorem getD_planExtraIp (ip : Ipv4Addr) :
    (m.planExtraIp host port (.ipv4 ip)).getD
      (.fallback (hostPort host port) "no whitelist rule matched") = m.extraPlan host port ip := by
  rw [planExtraIp, extraPlan]
  split_ifs <;> rfl

theorem planDnsDataIpRule_eq_none_iff {domain : String} :
    m.planDnsDataIpRule port flowProto domain = none ↔
      ∀ ips, m.dnsExact domain = some ips → m.matchedIp port flowProto ips = none := by
  simp [planDnsDataIpRule, planFromResolvedIps, Option.bind_eq_none_iff]

theorem planDnsDataIpRule_eq_some {domain : String} {plan : RoutePlan}
    (h : m.planDnsDataIpRule port flowProto domain = some plan) :
    ∃ ips ip rule, m.dnsExact domain = some ips ∧ m.matchedIp port flowProto ips = some (ip, rule)
      ∧ plan = .remote (ipPort ip port) rule.rcId rule.rcName .dnsDataIpRule := by
  obtain ⟨ips, hips, h⟩ := Option.bind_eq_some_iff.mp h
  obtain ⟨⟨ip, rule⟩, hmatch, rfl⟩ := Option.map_eq_some_iff.mp h
  exact ⟨ips, ip, rule, hips, hmatch, rfl⟩

/-- Without a plan from the DNS servers, the operating system is asked in `afterLookup`. -/
theorem run_planDnsserverDerivedRules_of_unanswered {domain : String}
    (h : m.Unanswered env port flowProto w domain) :
    env.run (m.planDnsserverDerivedRules host port flowProto domain) w
      = (none, m.afterLookup env w domain) := by
  rw [run_planDnsserverDerivedRules, afterLookup]
  split_ifs with hservers
  · rfl
  · rw [List.isEmpty_iff] at hservers
    rcases hrun : env.run (resolveLookup domain m.dnsServers) w with ⟨_ | answer, w'⟩
    · rfl
    · obtain ⟨halias, hips⟩ := h.lookup hservers answer w' hrun
      simp only [halias, planFromResolvedIps, hips, Option.map_none]

/-- A domain that the rules and the records leave open goes on to the DNS servers. -/
theorem run_plan_of_unlisted {domain : String} (htarget : parseTarget host = .domain domain)
    (h : m.Unlisted port flowProto domain) :
    env.run (m.plan host port flowProto) w =
      match env.run (m.planDnsserverDerivedRules host port flowProto domain) w with
      | (some plan, w') => (plan, w')
      | (none, w') =>
        (env.run (m.planViaDomainIpResolution host port flowProto domain) w').map
          (·.getD (.fallback (hostPort host port) "no whitelist rule matched")) id := by
  have hrun : env.run (m.plan host port flowProto) w = _ := run_plan_domain htarget h.direct
  rw [planDnsDataIpRule_eq_none_iff.mpr h.records] at hrun
  exact hrun

/-- A domain that the DNS servers leave open goes on to the operating system. -/
theorem run_plan_of_unanswered {domain : String} (htarget : parseTarget host = .domain domain)
    (h : m.Unanswered env port flowProto w domain) :
    (env.run (m.plan host port flowProto) w).1 =
      match (env.run (resolveDomainToIpv4 domain) (m.afterLookup env w domain)).1 with
      | none => .fallback (hostPort host port) "no whitelist rule matched"
      | some ip =>
        match m.findFirstMatch port flowProto (.ipv4 ip) with
        | some rule => .remote (ipPort ip port) rule.rcId rule.rcName .ruleIp
        | none => m.extraPlan host port ip := by
  rw [run_plan_of_unlisted htarget h.toUnlisted, run_planDnsserverDerivedRules_of_unanswered h]
  dsimp only
  rw [run_planViaDomainIpResolution]
  rcases env.run (resolveDomainToIpv4 domain) (m.afterLookup env w domain) with ⟨_ | ip, w'⟩
  · rfl
  · cases hip : m.findFirstMatch port flowProto (.ipv4 ip) with
    | some rule => simp [hip]
    | none => simp [hip, getD_planExtraIp]

/-- Everything the cascade can do is one of the rules. -/
theorem plans_run :
    m.Plans env host port flowProto w (env.run (m.plan host port flowProto) w).1 := by
  -- the cases in the order in which the planner looks
  cases hmatch : m.findFirstMatch port flowProto (parseTarget host) with
  | some rule =>
    rw [run_plan_of_match hmatch]
    exact .committed hmatch
  | none =>
    cases htarget : parseTarget host with
    | ipv4 ip =>
      rw [htarget] at hmatch
      rw [run_plan_ipv4 htarget hmatch, getD_planExtraIp]
      exact .unmatched (.literal htarget hmatch)
    | domain domain =>
      rw [htarget] at hmatch
      cases hdata : m.planDnsDataIpRule port flowProto domain with
      | some plan =>
        obtain ⟨ips, ip, rule, hips, hip, rfl⟩ := planDnsDataIpRule_eq_some hdata
        rw [run_plan_domain htarget hmatch, hdata]
        exact .record htarget hmatch hips hip
      | none =>
        have hunlisted : m.Unlisted port flowProto domain :=
          ⟨hmatch, planDnsDataIpRule_eq_none_iff.mp hdata⟩
        by_cases hunanswered : m.Unanswered env port flowProto w domain
        · rw [run_plan_of_unanswered htarget hunanswered]
          cases hos : (env.run (resolveDomainToIpv4 domain) (m.afterLookup env w domain)).1 with
          | none => exact .unresolved htarget hunanswered hos
          | some ip =>
            cases hip : m.findFirstMatch port flowProto (.ipv4 ip) with
            | some rule =>
              simp only [hip]
              exact .resolved htarget hunanswered hos hip
            | none =>
              simp only [hip]
              exact .unmatched (.resolved htarget hunanswered hos hip)
        · -- the answer of the DNS servers has an alias or an address that a rule matches
          have hanswer : ∃ answer w', m.dnsServers ≠ []
              ∧ env.run (resolveLookup domain m.dnsServers) w = (.ok answer, w')
              ∧ ¬ (m.matchedAlias port flowProto answer.aliases = none
                ∧ m.matchedIp port flowProto answer.ips = none) := by
            by_contra hno
            exact hunanswered ⟨hunlisted, fun hs answer w' hrun ↦ by
              by_contra hc
              exact hno ⟨answer, w', hs, hrun, hc⟩⟩
          obtain ⟨answer, w', hservers, hrun, hhit⟩ := hanswer
          rw [run_plan_of_unlisted htarget hunlisted, run_planDnsserverDerivedRules,
            if_neg (by simpa using hservers), hrun]
          cases halias : m.matchedAlias port flowProto answer.aliases with
          | some x =>
            simp only [halias]
            exact .cname htarget hunlisted hservers hrun halias
          | none =>
            cases hip : m.matchedIp port flowProto answer.ips with
            | some x =>
              simp only [halias, planFromResolvedIps, hip, Option.map_some]
              exact .answered htarget hunlisted hservers hrun halias hip
            | none => exact absurd ⟨halias, hip⟩ hhit

/-- The rules exclude each other: a plan that comes about by one of them is the plan. -/
theorem Plans.run_eq {p : RoutePlan} (h : m.Plans env host port flowProto w p) :
    (env.run (m.plan host port flowProto) w).1 = p := by
  cases h with
  | committed hmatch => rw [run_plan_of_match hmatch]
  | record htarget hdirect hrecords hmatch =>
    rw [run_plan_domain htarget hdirect]
    simp [planDnsDataIpRule, hrecords, planFromResolvedIps, hmatch]
  | cname htarget hunlisted hservers hanswer hmatch =>
    rw [run_plan_of_unlisted htarget hunlisted, run_planDnsserverDerivedRules,
      if_neg (by simpa using hservers), hanswer]
    simp [hmatch, Prod.map]
  | answered htarget hunlisted hservers hanswer halias hmatch =>
    rw [run_plan_of_unlisted htarget hunlisted, run_planDnsserverDerivedRules,
      if_neg (by simpa using hservers), hanswer]
    simp [halias, planFromResolvedIps, hmatch]
  | resolved htarget hunanswered hos hmatch =>
    rw [run_plan_of_unanswered htarget hunanswered, hos]
    simp [hmatch]
  | unmatched h =>
    cases h with
    | literal htarget hmatch => rw [run_plan_ipv4 htarget hmatch, getD_planExtraIp]
    | resolved htarget hunanswered hos hmatch =>
      rw [run_plan_of_unanswered htarget hunanswered, hos]
      simp [hmatch]
  | unresolved htarget hunanswered hos => rw [run_plan_of_unanswered htarget hunanswered, hos]

/-- **The cascade is its rules.** -/
theorem plans_iff {p : RoutePlan} :
    m.Plans env host port flowProto w p ↔ (env.run (m.plan host port flowProto) w).1 = p :=
  ⟨Plans.run_eq, fun h ↦ h ▸ plans_run⟩

end RouteMatcher

end ShiepPipeline
