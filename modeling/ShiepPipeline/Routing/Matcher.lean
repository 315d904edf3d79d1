import Mathlib.Logic.Function.Basic
import ShiepPipeline.Routing.Index
import ShiepPipeline.Routing.Resolver

/-!
# The route matcher

`RouteMatcher.plan` decides for one target whether its flow goes through the tunnel, and to which
address. Planners are tried in a fixed order: a rule for the target itself, the addresses the
table's DNS records give, the `--extra` entries, what the DNS servers answer, and last what the
operating system resolves. The first one that has a plan decides, and some of them decide for the
fallback.

Each planner is translated on its own, and the part of it that only looks things up is brought out
as a function without calls (`matchedIp`, `matchedAlias`, `scopedIp`). The last section says what
each planner returns in these terms, and later files use nothing else about the planners.
-/

open Net Str

namespace ShiepPipeline

/-! ## Tables of the matcher -/

structure DnsIndexes where
  scopedIndex : ℤ → Option (String → Option (List Ipv4Addr))
  exactIndex : String → Option (List Ipv4Addr)
  recordCount : ℕ

/-- The state of the loop of `build_dns_indexes`. -/
structure DnsIndexState where
  scopedIndex : ℤ → Option (String → Option (List Ipv4Addr))
  exactIndex : String → Option (List Ipv4Addr)
  seenDns : List (ℤ × String × Ipv4Addr)
  seenExact : List (String × Ipv4Addr)

def DnsIndexState.empty : DnsIndexState := ⟨fun _ ↦ none, fun _ ↦ none, [], []⟩

/-- Enter one record into the scoped index, and into the exact one when its host and address are
new there. -/
def DnsIndexState.add (s : DnsIndexState) (rcId : ℤ) (host : String) (ip : Ipv4Addr) :
    DnsIndexState :=
  if (rcId, host, ip) ∈ s.seenDns then s
  else
    let domains := (s.scopedIndex rcId).getD fun _ ↦ none
    let scopedIndex := Function.update s.scopedIndex rcId (some (FirstMatch.pushAt domains host ip))
    let seenDns := (rcId, host, ip) :: s.seenDns
    if (host, ip) ∈ s.seenExact then { s with scopedIndex, seenDns }
    else
      { scopedIndex
        exactIndex := FirstMatch.pushAt s.exactIndex host ip
        seenDns
        seenExact := (host, ip) :: s.seenExact }

/-- What a DNS record of the table says, if it says anything. -/
def DnsRecord.entry (record : DnsRecord) : Option (String × Ipv4Addr) :=
  let host := normalizeDomain record.host
  if host = "" then none else (Ipv4Addr.fromStr (trim record.ip)).map (host, ·)

def DnsIndexState.addRecord (s : DnsIndexState) (record : DnsRecord) : DnsIndexState :=
  match record.entry with
  | some (host, ip) => s.add record.rcId host ip
  | none => s

def buildDnsIndexes (rawDnsRecords : List DnsRecord) : DnsIndexes :=
  let state := rawDnsRecords.foldl DnsIndexState.addRecord .empty
  { scopedIndex := state.scopedIndex
    exactIndex := state.exactIndex
    recordCount := state.seenDns.length }

/-- `DNS_DEFAULT_PORT`. -/
def dnsDefaultPort : UInt16 := 53

def parseDnsServer (raw : String) : Option SocketAddr :=
  let token := trim raw
  if token = "" then none
  else
    match SocketAddr.fromStr token with
    | some addr => some addr
    | none => (IpAddr.fromStr token).map (SocketAddr.new · dnsDefaultPort)

def normalizeDnsServers (servers : List String) : List SocketAddr :=
  (servers.foldl (fun state raw ↦
    match parseDnsServer raw with
    | some addr => FirstMatch.pushIfNew id state addr
    | none => state) ([], [])).1

/-! ## Plans -/

inductive RouteSource
  | routeTableUnavailable
  | ruleIp
  | dnsMap
  | dnsDataIpRule
  | dnsServerCache
  | dnsServerQuery (server : SocketAddr)
  | cnameDnsMap
  | cnameDnsServerCache
  | cnameDnsServerQuery (server : SocketAddr)
  | extraIp
  | dnsServerIpRuleCache
  | dnsServerIpRuleQuery (server : SocketAddr)
deriving DecidableEq, Repr

def RouteSource.label : RouteSource → String
  | .routeTableUnavailable => "route-table-unavailable"
  | .ruleIp => "rule-ip"
  | .dnsMap => "dns-map"
  | .dnsDataIpRule => "dns-data-ip-rule"
  | .dnsServerCache => "dns-cache"
  | .dnsServerQuery _ => "dns-server"
  | .cnameDnsMap => "cname-dns-map"
  | .cnameDnsServerCache => "cname-dns-cache"
  | .cnameDnsServerQuery _ => "cname-dns-server"
  | .extraIp => "extra-ip"
  | .dnsServerIpRuleCache => "dns-server-ip-rule-cache"
  | .dnsServerIpRuleQuery _ => "dns-server-ip-rule"

def RouteSource.describe (source : RouteSource) : String :=
  match source with
  | .dnsServerQuery server | .cnameDnsServerQuery server | .dnsServerIpRuleQuery server =>
    source.label ++ "(" ++ server.display ++ ")"
  | _ => source.label

inductive RoutePlan
  | remote (dial : String) (rcId : ℤ) (rcName : String) (source : RouteSource)
  | fallback (target : String) (reason : String)
deriving DecidableEq, Repr

def RoutePlan.isRemote : RoutePlan → Bool
  | .remote .. => true
  | .fallback .. => false

/-- `{host}:{port}`. -/
def hostPort (host : String) (port : UInt16) : String := host ++ ":" ++ decimal port.toNat

/-- `{ip}:{port}`. -/
def ipPort (ip : Ipv4Addr) (port : UInt16) : String := hostPort ip.display port

/-! ## The matcher -/

/-- A matcher's index is always the one built from its own rules. -/
structure RouteMatcher where
  rules : List CompiledRule
  ruleIndex : RuleIndex
  dnsMap : ℤ → Option (String → Option (List Ipv4Addr))
  dnsExact : String → Option (List Ipv4Addr)
  dnsServers : List SocketAddr
  dnsRecords : ℕ
  extraMatchers : List HostMatcher
  indexed : ruleIndex = RuleIndex.build rules

/-- Whether an extra's matcher covers an address. -/
def extraHit (ip : Ipv4Addr) : HostMatcher → Bool
  | .ipv4 matchedIp => matchedIp == ip
  | .ipv4Range start stop => decide (start ≤ ip.toU32) && decide (ip.toU32 ≤ stop)
  | .domain _ => false

def cnameRouteSource : RouteSource → RouteSource
  | .dnsMap => .cnameDnsMap
  | .dnsServerCache => .cnameDnsServerCache
  | .dnsServerQuery server => .cnameDnsServerQuery server
  | other => other

/-- Try planners in order. -/
def firstPlan : List (Dns (Option RoutePlan)) → Dns (Option RoutePlan)
  | [] => pure none
  | planner :: planners => do
    match ← planner with
    | some plan => pure (some plan)
    | none => firstPlan planners

/-- A planner that only domains go to. -/
def TargetKind.onDomain (target : TargetKind) (planner : String → Dns (Option RoutePlan)) :
    Dns (Option RoutePlan) :=
  match target with
  | .domain name => planner name
  | .ipv4 _ => pure none

namespace RouteMatcher

def fromTable (table : RouteTable) (extraIps : List String) : RouteMatcher where
  rules := compileRules table.rules
  ruleIndex := RuleIndex.build (compileRules table.rules)
  dnsMap := (buildDnsIndexes table.dnsRecords).scopedIndex
  dnsExact := (buildDnsIndexes table.dnsRecords).exactIndex
  dnsServers := normalizeDnsServers table.dnsServers
  dnsRecords := (buildDnsIndexes table.dnsRecords).recordCount
  extraMatchers := extraIps.filterMap parseExtraIp
  indexed := rfl

variable (m : RouteMatcher) (host : String) (port : UInt16) (flowProto : FlowProto)

def findFirstMatch (target : TargetKind) : Option CompiledRule :=
  m.ruleIndex.findFirstMatch m.rules target port flowProto

/-- The first address the records of a resource give for a domain. -/
def scopedIp (rcId : ℤ) (domain : String) : Option Ipv4Addr :=
  ((m.dnsMap rcId).bind (· domain)).bind List.head?

def planRemoteWithRule (rule : CompiledRule) (target : TargetKind) : Dns RoutePlan :=
  match target with
  | .ipv4 ip => pure (.remote (ipPort ip port) rule.rcId rule.rcName .ruleIp)
  | .domain domain =>
    match m.scopedIp rule.rcId domain with
    | some ip => pure (.remote (ipPort ip port) rule.rcId rule.rcName .dnsMap)
    | none =>
      if m.dnsServers.isEmpty then
        pure (.fallback (hostPort host port) ("hostname matched rc_id=" ++ toString rule.rcId
          ++ " but dns map is missing and dnsserver is unavailable"))
      else do
        match ← resolveFirstIpv4 rule.rcId domain m.dnsServers with
        | .ok resolved =>
          let source := match resolved.source with
            | .cache => .dnsServerCache
            | .server server => .dnsServerQuery server
          pure (.remote (ipPort resolved.ip port) rule.rcId rule.rcName source)
        | .error err =>
          pure (.fallback (hostPort host port) ("hostname matched rc_id=" ++ toString rule.rcId
            ++ " but dns map is missing and dnsserver lookup failed: " ++ conciseError err))

def planExtraIp (target : TargetKind) : Option RoutePlan :=
  match target with
  | .ipv4 ip =>
    if m.extraMatchers.any (extraHit ip) then
      some (.remote (hostPort host port) 0 "--extra" .extraIp)
    else none
  | .domain _ => none

/-- The first of some addresses that a rule covers, with its rule. -/
def matchedIp (ips : List Ipv4Addr) : Option (Ipv4Addr × CompiledRule) :=
  ips.findSome? fun ip ↦ (m.findFirstMatch port flowProto (.ipv4 ip)).map (ip, ·)

def planFromResolvedIps (ips : List Ipv4Addr) (source : RouteSource) : Option RoutePlan :=
  (m.matchedIp port flowProto ips).map fun (ip, rule) ↦
    .remote (ipPort ip port) rule.rcId rule.rcName source

def planDnsDataIpRule (domain : String) : Option RoutePlan :=
  (m.dnsExact domain).bind (m.planFromResolvedIps port flowProto · .dnsDataIpRule)

def planRemoteWithCnameRule (rule : CompiledRule) (target : TargetKind) : Dns RoutePlan := do
  match ← m.planRemoteWithRule host port rule target with
  | .remote dial rcId rcName source => pure (.remote dial rcId rcName (cnameRouteSource source))
  | other => pure other

def planFromCnameAliases : List String → Dns (Option RoutePlan)
  | [] => pure none
  | name :: aliases =>
    let target := normalizeDomain name
    if target = "" ∨ (Ipv4Addr.fromStr target).isSome then planFromCnameAliases aliases
    else
      match m.findFirstMatch port flowProto (.domain target) with
      | some rule => do
        let plan ← m.planRemoteWithCnameRule host port rule (.domain target)
        pure (some plan)
      | none => planFromCnameAliases aliases

def planDnsserverDerivedRules (domain : String) : Dns (Option RoutePlan) :=
  if m.dnsServers.isEmpty then pure none
  else do
    match ← resolveLookup domain m.dnsServers with
    | .error _ => pure none
    | .ok resolved =>
      match ← m.planFromCnameAliases host port flowProto resolved.aliases with
      | some plan => pure (some plan)
      | none =>
        let source := match resolved.source with
          | .cache => .dnsServerIpRuleCache
          | .server server => .dnsServerIpRuleQuery server
        pure (m.planFromResolvedIps port flowProto resolved.ips source)

def planViaDomainIpResolution (domain : String) : Dns (Option RoutePlan) := do
  match ← resolveDomainToIpv4 domain with
  | none => pure none
  | some ip =>
    match m.findFirstMatch port flowProto (.ipv4 ip) with
    | some rule => pure (some (.remote (ipPort ip port) rule.rcId rule.rcName .ruleIp))
    | none => pure (m.planExtraIp host port (.ipv4 ip))

def plan : Dns RoutePlan :=
  let target := parseTarget host
  match m.findFirstMatch port flowProto target with
  | some rule => m.planRemoteWithRule host port rule target
  | none => do
    let plan ← firstPlan
      [target.onDomain fun domain ↦ pure (m.planDnsDataIpRule port flowProto domain),
        pure (m.planExtraIp host port target),
        target.onDomain (m.planDnsserverDerivedRules host port flowProto),
        target.onDomain (m.planViaDomainIpResolution host port flowProto)]
    pure (plan.getD (.fallback (hostPort host port) "no whitelist rule matched"))

/-! ## What each planner returns -/

variable {m host port flowProto}

theorem extraHit_eq_covers (ip : Ipv4Addr) (matcher : HostMatcher) :
    extraHit ip matcher = matcher.covers (.ipv4 ip) := by
  cases matcher <;> rfl

variable (m port flowProto) in
/-- **A lookup is a scan of the rules.** -/
theorem findFirstMatch_eq (target : TargetKind) :
    m.findFirstMatch port flowProto target = m.rules.find? (·.matches target port flowProto) := by
  rw [findFirstMatch, m.indexed, RuleIndex.findFirstMatch_eq]

theorem of_findFirstMatch_eq_some {target : TargetKind} {rule : CompiledRule}
    (h : m.findFirstMatch port flowProto target = some rule) :
    rule ∈ m.rules ∧ rule.matcher.covers target = true
      ∧ ruleMatchesFlow rule port flowProto = true := by
  rw [findFirstMatch_eq] at h
  have hmatch := List.find?_some h
  rw [CompiledRule.matches, Bool.and_eq_true] at hmatch
  exact ⟨List.mem_of_find?_eq_some h, hmatch⟩

variable (m port flowProto) in
/-- The first alias that a domain rule names, normalised, with its rule. Aliases that are the text
of an address do not take part. -/
def matchedAlias (aliases : List String) : Option (String × CompiledRule) :=
  aliases.findSome? fun name ↦
    let target := normalizeDomain name
    if target = "" ∨ (Ipv4Addr.fromStr target).isSome then none
    else (m.findFirstMatch port flowProto (.domain target)).map (target, ·)

theorem planFromCnameAliases_eq (aliases : List String) :
    m.planFromCnameAliases host port flowProto aliases =
      match m.matchedAlias port flowProto aliases with
      | some (target, rule) => do
        let plan ← m.planRemoteWithCnameRule host port rule (.domain target)
        pure (some plan)
      | none => pure none := by
  induction aliases with
  | nil => rfl
  | cons name aliases ih =>
    rw [planFromCnameAliases, matchedAlias, List.findSome?_cons]
    by_cases hskip : normalizeDomain name = "" ∨ (Ipv4Addr.fromStr (normalizeDomain name)).isSome
    · simp only [hskip, if_true]
      exact ih
    · simp only [hskip, if_false]
      cases m.findFirstMatch port flowProto (.domain (normalizeDomain name)) with
      | some rule => rfl
      | none => exact ih

/-- The source of a plan made from the addresses of an answer. -/
def ipRuleSource : ResolveSource → RouteSource
  | .cache => .dnsServerIpRuleCache
  | .server server => .dnsServerIpRuleQuery server

/-- The source of a plan made from a lookup for one rule. -/
def ruleLookupSource : ResolveSource → RouteSource
  | .cache => .dnsServerCache
  | .server server => .dnsServerQuery server

variable {env : DnsEnv} {w : DnsWorld}

theorem run_planDnsserverDerivedRules (domain : String) :
    env.run (m.planDnsserverDerivedRules host port flowProto domain) w =
      if m.dnsServers.isEmpty then (none, w)
      else
        match env.run (resolveLookup domain m.dnsServers) w with
        | (.error _, w') => (none, w')
        | (.ok resolved, w') =>
          match m.matchedAlias port flowProto resolved.aliases with
          | some (target, rule) =>
            (env.run (m.planRemoteWithCnameRule host port rule (.domain target)) w').map some id
          | none => (m.planFromResolvedIps port flowProto resolved.ips
              (ipRuleSource resolved.source), w') := by
  rw [planDnsserverDerivedRules]
  split_ifs
  · rfl
  · simp only [DnsEnv.run_bind, planFromCnameAliases_eq]
    rcases env.run (resolveLookup domain m.dnsServers) w with ⟨_ | resolved, w'⟩
    · rfl
    · cases hm : m.matchedAlias port flowProto resolved.aliases with
      | some x => simp [hm, Prod.map]
      | none => cases hs : resolved.source <;> simp [hm, hs, ipRuleSource]

theorem run_planViaDomainIpResolution (domain : String) :
    env.run (m.planViaDomainIpResolution host port flowProto domain) w =
      match env.run (resolveDomainToIpv4 domain) w with
      | (none, w') => (none, w')
      | (some ip, w') =>
        match m.findFirstMatch port flowProto (.ipv4 ip) with
        | some rule => (some (.remote (ipPort ip port) rule.rcId rule.rcName .ruleIp), w')
        | none => (m.planExtraIp host port (.ipv4 ip), w') := by
  rw [planViaDomainIpResolution, DnsEnv.run_bind]
  rcases env.run (resolveDomainToIpv4 domain) w with ⟨_ | ip, w'⟩
  · rfl
  · cases hm : m.findFirstMatch port flowProto (.ipv4 ip) <;> simp [hm]

theorem run_firstPlan_nil : env.run (firstPlan []) w = (none, w) := rfl

theorem run_firstPlan_cons (planner : Dns (Option RoutePlan))
    (planners : List (Dns (Option RoutePlan))) :
    env.run (firstPlan (planner :: planners)) w =
      match env.run planner w with
      | (some plan, w') => (some plan, w')
      | (none, w') => env.run (firstPlan planners) w' := by
  rw [firstPlan, DnsEnv.run_bind]
  rcases env.run planner w with ⟨_ | plan, w'⟩ <;> rfl

theorem run_plan_of_match {rule : CompiledRule}
    (h : m.findFirstMatch port flowProto (parseTarget host) = some rule) :
    env.run (m.plan host port flowProto) w
      = env.run (m.planRemoteWithRule host port rule (parseTarget host)) w := by
  simp only [plan, h]

theorem run_plan_ipv4 {ip : Ipv4Addr} (htarget : parseTarget host = .ipv4 ip)
    (h : m.findFirstMatch port flowProto (.ipv4 ip) = none) :
    env.run (m.plan host port flowProto) w
      = ((m.planExtraIp host port (.ipv4 ip)).getD
          (.fallback (hostPort host port) "no whitelist rule matched"), w) := by
  simp only [plan, htarget, h, DnsEnv.run_bind, run_firstPlan_cons, run_firstPlan_nil,
    TargetKind.onDomain, DnsEnv.run_pure]
  cases m.planExtraIp host port (.ipv4 ip) <;> rfl

theorem run_plan_domain {domain : String} (htarget : parseTarget host = .domain domain)
    (h : m.findFirstMatch port flowProto (.domain domain) = none) :
    env.run (m.plan host port flowProto) w =
      match m.planDnsDataIpRule port flowProto domain with
      | some plan => (plan, w)
      | none =>
        match env.run (m.planDnsserverDerivedRules host port flowProto domain) w with
        | (some plan, w') => (plan, w')
        | (none, w') =>
          (env.run (m.planViaDomainIpResolution host port flowProto domain) w').map
            (·.getD (.fallback (hostPort host port) "no whitelist rule matched")) id := by
  simp only [plan, htarget, h, DnsEnv.run_bind, run_firstPlan_cons, run_firstPlan_nil,
    TargetKind.onDomain, DnsEnv.run_pure, planExtraIp]
  cases m.planDnsDataIpRule port flowProto domain with
  | some plan => rfl
  | none =>
    dsimp only
    rcases env.run (m.planDnsserverDerivedRules host port flowProto domain) w
      with ⟨_ | plan, w'⟩
    · dsimp only
      rcases env.run (m.planViaDomainIpResolution host port flowProto domain) w'
        with ⟨_ | plan, w''⟩ <;> rfl
    · rfl

end RouteMatcher

end ShiepPipeline
