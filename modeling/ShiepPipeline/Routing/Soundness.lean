import ShiepPipeline.Routing.Cascade

/-!
# Soundness of routing

A remote plan is never made up: a rule of the table that accepts the flow stands behind it, and
the address in the dial is one that this rule was checked against. `Backed` says, for each source
a plan may name, what that means.

The DNS indexes come first, since an address taken from them has to be traced to a record.
-/

open Net Str

namespace ShiepPipeline

/-! ## Every indexed address has its record -/

/-- Both indexes hold only what some of the records say. -/
structure DnsIndexState.From (records : List DnsRecord) (s : DnsIndexState) : Prop where
  scopedIndex : ∀ {rcId domain ips ip}, (s.scopedIndex rcId).bind (· domain) = some ips →
    ip ∈ ips → ∃ record ∈ records, record.rcId = rcId ∧ record.entry = some (domain, ip)
  exactIndex : ∀ {domain ips ip}, s.exactIndex domain = some ips → ip ∈ ips →
    ∃ record ∈ records, record.entry = some (domain, ip)

private theorem mem_pushAt {κ ι : Type} [DecidableEq κ] {f : κ → Option (List ι)} {k k' : κ}
    {i j : ι} {ids : List ι} (h : FirstMatch.pushAt f k i k' = some ids) (hj : j ∈ ids) :
    (k' = k ∧ j = i) ∨ ∃ ids', f k' = some ids' ∧ j ∈ ids' := by
  rw [FirstMatch.pushAt] at h
  by_cases hk : k' = k
  · subst hk
    rw [Function.update_self] at h
    obtain rfl : _ = ids := Option.some.inj h
    rcases List.mem_append.mp hj with hj | hj
    · cases hf : f k' with
      | none => simp [hf] at hj
      | some ids' => exact .inr ⟨ids', rfl, by simpa [hf] using hj⟩
    · exact .inl ⟨rfl, List.mem_singleton.mp hj⟩
  · rw [Function.update_of_ne hk] at h
    exact .inr ⟨ids, h, hj⟩

private theorem DnsIndexState.From.mono {records records' : List DnsRecord} {s : DnsIndexState}
    (h : s.From records) (hsub : records ⊆ records') : s.From records' where
  scopedIndex hips hip := by
    obtain ⟨record, hmem, hrecord⟩ := h.scopedIndex hips hip
    exact ⟨record, hsub hmem, hrecord⟩
  exactIndex hips hip := by
    obtain ⟨record, hmem, hrecord⟩ := h.exactIndex hips hip
    exact ⟨record, hsub hmem, hrecord⟩

private theorem DnsIndexState.From.add {records : List DnsRecord} {s : DnsIndexState}
    (h : s.From records) {record : DnsRecord} {host : String} {ip : Ipv4Addr}
    (hmem : record ∈ records) (hentry : record.entry = some (host, ip)) :
    (s.add record.rcId host ip).From records := by
  have hscoped : ∀ {rcId domain ips x},
      (Function.update s.scopedIndex record.rcId
        (some (FirstMatch.pushAt ((s.scopedIndex record.rcId).getD fun _ ↦ none) host ip))
          rcId).bind (· domain) = some ips → x ∈ ips →
      ∃ r ∈ records, r.rcId = rcId ∧ r.entry = some (domain, x) := by
    intro rcId domain ips x hips hx
    by_cases hrc : rcId = record.rcId
    · subst hrc
      rw [Function.update_self, Option.bind_some] at hips
      rcases mem_pushAt hips hx with ⟨rfl, rfl⟩ | ⟨ids, hids, hx⟩
      · exact ⟨record, hmem, rfl, hentry⟩
      · refine h.scopedIndex ?_ hx
        cases hs : s.scopedIndex record.rcId with
        | none => simp [hs] at hids
        | some domains => simpa [hs] using hids
    · rw [Function.update_of_ne hrc] at hips
      exact h.scopedIndex hips hx
  rw [DnsIndexState.add]
  split_ifs with hdns hexact
  · exact h
  · exact ⟨hscoped, h.exactIndex⟩
  · refine ⟨hscoped, fun hips hx ↦ ?_⟩
    rcases mem_pushAt hips hx with ⟨rfl, rfl⟩ | ⟨ids, hids, hx⟩
    · exact ⟨record, hmem, hentry⟩
    · exact h.exactIndex hids hx

/-- The state of the loop of `buildDnsIndexes` after some records. -/
private theorem from_foldl (records : List DnsRecord) :
    (records.foldl DnsIndexState.addRecord .empty).From records := by
  induction records using List.reverseRecOn with
  | nil => exact ⟨by simp [DnsIndexState.empty], by simp [DnsIndexState.empty]⟩
  | append_singleton records record ih =>
    have hmono := ih.mono (List.subset_append_left records [record])
    rw [List.foldl_append, List.foldl_cons, List.foldl_nil, DnsIndexState.addRecord]
    cases hentry : record.entry with
    | none => exact hmono
    | some x => exact hmono.add (by simp) hentry

namespace RouteMatcher

variable {table : RouteTable} {extraIps : List String}

theorem exists_record_of_scopedIp {rcId : ℤ} {domain : String} {ip : Ipv4Addr}
    (h : (fromTable table extraIps).scopedIp rcId domain = some ip) :
    ∃ record ∈ table.dnsRecords, record.rcId = rcId ∧ record.entry = some (domain, ip) := by
  obtain ⟨ips, hips, hhead⟩ := Option.bind_eq_some_iff.mp h
  exact (from_foldl table.dnsRecords).scopedIndex hips (List.mem_of_mem_head? hhead)

theorem exists_record_of_dnsExact {domain : String} {ips : List Ipv4Addr} {ip : Ipv4Addr}
    (h : (fromTable table extraIps).dnsExact domain = some ips) (hip : ip ∈ ips) :
    ∃ record ∈ table.dnsRecords, record.entry = some (domain, ip) :=
  (from_foldl table.dnsRecords).exactIndex h hip

theorem of_matchedIp_eq_some {m : RouteMatcher} {port : UInt16} {flowProto : FlowProto}
    {ips : List Ipv4Addr} {ip : Ipv4Addr} {rule : CompiledRule}
    (h : m.matchedIp port flowProto ips = some (ip, rule)) :
    ip ∈ ips ∧ m.findFirstMatch port flowProto (.ipv4 ip) = some rule := by
  obtain ⟨x, hx, hmatch⟩ := List.exists_of_findSome?_eq_some h
  obtain ⟨_, hrule, heq⟩ := Option.map_eq_some_iff.mp hmatch
  obtain ⟨rfl, rfl⟩ := Prod.mk.inj heq
  exact ⟨hx, hrule⟩

theorem of_matchedAlias_eq_some {m : RouteMatcher} {port : UInt16} {flowProto : FlowProto}
    {aliases : List String} {target : String} {rule : CompiledRule}
    (h : m.matchedAlias port flowProto aliases = some (target, rule)) :
    ∃ name ∈ aliases, target = normalizeDomain name ∧ Ipv4Addr.fromStr target = none
      ∧ m.findFirstMatch port flowProto (.domain target) = some rule := by
  obtain ⟨name, hname, hmatch⟩ := List.exists_of_findSome?_eq_some h
  dsimp only at hmatch
  split_ifs at hmatch with hskip
  obtain ⟨_, hrule, heq⟩ := Option.map_eq_some_iff.mp hmatch
  obtain ⟨rfl, rfl⟩ := Prod.mk.inj heq
  refine ⟨name, hname, rfl, ?_, hrule⟩
  rw [not_or, Option.not_isSome_iff_eq_none] at hskip
  exact hskip.2

/-! ## What stands behind a plan -/

variable (table extraIps) (env : DnsEnv)

/-- Where the address for a rule that names `domain` comes from: a record of the rule's resource,
or the lookup made for the rule. -/
inductive RuleBacked (w : DnsWorld) (rule : CompiledRule) (domain : String) (ip : Ipv4Addr) :
    RouteSource → Prop
  | record {record : DnsRecord} (hmem : record ∈ table.dnsRecords)
      (hrcId : record.rcId = rule.rcId) (hentry : record.entry = some (domain, ip)) :
      RuleBacked w rule domain ip .dnsMap
  | lookup {resolved : ResolveResult}
      (hrun : (env.run (resolveFirstIpv4 rule.rcId domain (normalizeDnsServers table.dnsServers))
        w).1 = .ok resolved) (hip : resolved.ip = ip) :
      RuleBacked w rule domain ip (ruleLookupSource resolved.source)

/-- What a rule and the address in the dial have to do with the target, for each source. -/
inductive Backed (host : String) (w : DnsWorld) (rule : CompiledRule) (ip : Ipv4Addr) :
    RouteSource → Prop
  /-- The address is the target itself. -/
  | target (htarget : parseTarget host = .ipv4 ip)
      (hcovers : rule.matcher.covers (.ipv4 ip) = true) : Backed host w rule ip .ruleIp
  /-- The address is the operating system's, asked after the lookup through the DNS servers. -/
  | osResolved {domain : String} (htarget : parseTarget host = .domain domain)
      (hos : (env.run (resolveDomainToIpv4 domain)
        ((fromTable table extraIps).afterLookup env w domain)).1 = some ip)
      (hcovers : rule.matcher.covers (.ipv4 ip) = true) : Backed host w rule ip .ruleIp
  /-- The rule names the normalised host. -/
  | named {domain : String} {source : RouteSource} (htarget : parseTarget host = .domain domain)
      (hrule : rule.matcher = .domain domain)
      (hbacked : RuleBacked table env w rule domain ip source) : Backed host w rule ip source
  /-- The rule names an alias that the lookup of the host returned, normalised. An alias that is
  the text of an address cannot play this part. -/
  | cname {domain name : String} {answer : LookupResolveResult} {w' : DnsWorld}
      {source : RouteSource} (htarget : parseTarget host = .domain domain)
      (hanswer : env.run (resolveLookup domain (normalizeDnsServers table.dnsServers)) w
        = (.ok answer, w'))
      (hname : name ∈ answer.aliases) (hnotIp : Ipv4Addr.fromStr (normalizeDomain name) = none)
      (hrule : rule.matcher = .domain (normalizeDomain name))
      (hbacked : RuleBacked table env w' rule (normalizeDomain name) ip source) :
      Backed host w rule ip (cnameRouteSource source)
  /-- The address is one that the records give for the host, whatever their resource. -/
  | record {domain : String} {record : DnsRecord} (htarget : parseTarget host = .domain domain)
      (hmem : record ∈ table.dnsRecords) (hentry : record.entry = some (domain, ip))
      (hcovers : rule.matcher.covers (.ipv4 ip) = true) : Backed host w rule ip .dnsDataIpRule
  /-- The address is one that the lookup of the host returned. -/
  | answered {domain : String} {answer : LookupResolveResult} {w' : DnsWorld}
      (htarget : parseTarget host = .domain domain)
      (hanswer : env.run (resolveLookup domain (normalizeDnsServers table.dnsServers)) w
        = (.ok answer, w'))
      (hip : ip ∈ answer.ips) (hcovers : rule.matcher.covers (.ipv4 ip) = true) :
      Backed host w rule ip (ipRuleSource answer.source)

variable {table extraIps env} {host : String} {port : UInt16} {flowProto : FlowProto} {w : DnsWorld}

theorem RuleAddress.backed {rule : CompiledRule} {domain : String} {ip : Ipv4Addr}
    {source : RouteSource}
    (h : (fromTable table extraIps).RuleAddress env w rule domain ip source) :
    RuleBacked table env w rule domain ip source := by
  cases h with
  | record hscoped =>
    obtain ⟨record, hmem, hrcId, hentry⟩ := exists_record_of_scopedIp hscoped
    exact .record hmem hrcId hentry
  | lookup _ _ hrun => exact .lookup hrun rfl

/-- A remote plan for a rule that names a domain has an address behind it. -/
theorem backed_of_planRemoteWithRule {rule : CompiledRule} {domain dial rcName : String} {rcId : ℤ}
    {source : RouteSource}
    (h : (env.run ((fromTable table extraIps).planRemoteWithRule host port rule (.domain domain))
      w).1 = .remote dial rcId rcName source) :
    ∃ ip, rule.rcId = rcId ∧ rule.rcName = rcName ∧ dial = ipPort ip port
      ∧ RuleBacked table env w rule domain ip source := by
  rcases run_planRemoteWithRule_domain rule domain with ⟨ip, source', haddr, hrun⟩ | ⟨-, hrun⟩
  · obtain ⟨rfl, rfl, rfl, rfl⟩ := RoutePlan.remote.inj (hrun.symm.trans h)
    exact ⟨ip, rfl, rfl, rfl, haddr.backed⟩
  · rw [h] at hrun
    exact absurd hrun (by simp [RoutePlan.isRemote])

/-- A remote plan has a rule behind it, or an extra. -/
theorem backed_of_remote {dial rcName : String} {rcId : ℤ} {source : RouteSource}
    (h : (env.run ((fromTable table extraIps).plan host port flowProto) w).1
      = .remote dial rcId rcName source) :
    (∃ rule ip, rule ∈ compileRules table.rules ∧ ruleMatchesFlow rule port flowProto = true
      ∧ rule.rcId = rcId ∧ rule.rcName = rcName ∧ dial = ipPort ip port
      ∧ Backed table extraIps env host w rule ip source)
    ∨ ∃ ip, (fromTable table extraIps).Unmatched env host port flowProto w ip
      ∧ (fromTable table extraIps).extraMatchers.any (extraHit ip) = true
      ∧ dial = hostPort host port ∧ rcId = 0 ∧ rcName = "--extra" ∧ source = .extraIp := by
  obtain ⟨p, hp, hplans⟩ : ∃ p, p = .remote dial rcId rcName source
      ∧ (fromTable table extraIps).Plans env host port flowProto w p :=
    ⟨_, rfl, plans_iff.mpr h⟩
  cases hplans with
  | @committed rule hmatch =>
    obtain ⟨hmem, hcovers, hflow⟩ := of_findFirstMatch_eq_some hmatch
    cases htarget : parseTarget host with
    | ipv4 ip =>
      rw [htarget] at hp hcovers
      obtain ⟨rfl, rfl, rfl, rfl⟩ := RoutePlan.remote.inj hp
      exact .inl ⟨rule, ip, hmem, hflow, rfl, rfl, rfl, .target htarget hcovers⟩
    | domain domain =>
      rw [htarget] at hp hcovers
      obtain ⟨ip, hrcId, hrcName, hdial, hbacked⟩ := backed_of_planRemoteWithRule hp
      exact .inl ⟨rule, ip, hmem, hflow, hrcId, hrcName, hdial,
        .named htarget (HostMatcher.covers_domain_iff.mp hcovers) hbacked⟩
  | @record domain ips ip rule htarget hdirect hrecords hmatch =>
    obtain ⟨hip, hmatch⟩ := of_matchedIp_eq_some hmatch
    obtain ⟨hmem, hcovers, hflow⟩ := of_findFirstMatch_eq_some hmatch
    obtain ⟨record, hrecord, hentry⟩ := exists_record_of_dnsExact hrecords hip
    obtain ⟨rfl, rfl, rfl, rfl⟩ := RoutePlan.remote.inj hp
    exact .inl ⟨rule, ip, hmem, hflow, rfl, rfl, rfl, .record htarget hrecord hentry hcovers⟩
  | @cname domain target answer w' rule htarget hunlisted hservers hanswer hmatch =>
    obtain ⟨name, hname, rfl, hnotIp, hmatch⟩ := of_matchedAlias_eq_some hmatch
    obtain ⟨hmem, hcovers, hflow⟩ := of_findFirstMatch_eq_some hmatch
    rw [run_planRemoteWithCnameRule] at hp
    split at hp
    · rename_i dial' rcId' rcName' source' hrun
      obtain ⟨rfl, rfl, rfl, rfl⟩ := RoutePlan.remote.inj hp
      obtain ⟨ip, hrcId, hrcName, hdial, hbacked⟩ := backed_of_planRemoteWithRule hrun
      exact .inl ⟨rule, ip, hmem, hflow, hrcId, hrcName, hdial, .cname htarget hanswer hname hnotIp
        (HostMatcher.covers_domain_iff.mp hcovers) hbacked⟩
    -- where the rule of the alias does not give a remote plan, the plan is a fallback
    · rename_i hno
      exact absurd hp (hno _ _ _ _)
  | @answered domain answer w' ip rule htarget hunlisted hservers hanswer halias hmatch =>
    obtain ⟨hip, hmatch⟩ := of_matchedIp_eq_some hmatch
    obtain ⟨hmem, hcovers, hflow⟩ := of_findFirstMatch_eq_some hmatch
    obtain ⟨rfl, rfl, rfl, rfl⟩ := RoutePlan.remote.inj hp
    exact .inl ⟨rule, ip, hmem, hflow, rfl, rfl, rfl, .answered htarget hanswer hip hcovers⟩
  | @resolved domain ip rule htarget hunanswered hos hmatch =>
    obtain ⟨hmem, hcovers, hflow⟩ := of_findFirstMatch_eq_some hmatch
    obtain ⟨rfl, rfl, rfl, rfl⟩ := RoutePlan.remote.inj hp
    exact .inl ⟨rule, ip, hmem, hflow, rfl, rfl, rfl, .osResolved htarget hos hcovers⟩
  | @unmatched ip hip =>
    rw [extraPlan] at hp
    split_ifs at hp with hextra
    obtain ⟨rfl, rfl, rfl, rfl⟩ := RoutePlan.remote.inj hp
    exact .inr ⟨ip, hip, hextra, rfl, rfl, rfl, rfl⟩
  | unresolved => exact absurd hp (by simp)

/-- **Soundness of routing.** Unless an extra sends it there, a flow goes to the tunnel only for a
rule of the table that accepts it, and to an address that this rule was checked against. -/
theorem plan_sound {dial rcName : String} {rcId : ℤ} {source : RouteSource}
    (hplan : (env.run ((fromTable table extraIps).plan host port flowProto) w).1
      = .remote dial rcId rcName source) (hsource : source ≠ .extraIp) :
    ∃ raw ∈ table.rules, ∃ rule ip, compileRule raw = some rule
      ∧ rule.rcId = rcId ∧ rule.rcName = rcName ∧ ruleMatchesFlow rule port flowProto = true
      ∧ dial = ipPort ip port ∧ Backed table extraIps env host w rule ip source := by
  rcases backed_of_remote hplan with
    ⟨rule, ip, hmem, hflow, hrcId, hrcName, hdial, hbacked⟩ | ⟨ip, -, -, -, -, -, hextra⟩
  · obtain ⟨raw, hraw, hcompile⟩ := mem_compileRules.mp hmem
    exact ⟨raw, hraw, rule, ip, hcompile, hrcId, hrcName, hflow, hdial, hbacked⟩
  · exact absurd hextra hsource

/-- A rule for a domain whose address is in the records. -/
def idsTable : RouteTable where
  rules := [⟨205, 0, "Other", "ids", "ids.shiep.edu.cn", ⟨1, 65535⟩⟩]
  dnsServers := []
  dnsRecords := [⟨205, "ids.shiep.edu.cn", "10.166.35.11"⟩]

theorem plan_sound_ids :
    (DnsEnv.offline fun _ ↦ none).run
        ((fromTable idsTable []).plan "ids.shiep.edu.cn" 443 .tcp) .initial
      = (.remote "10.166.35.11:443" 205 "ids" .dnsMap, .initial)
    ∧ ∃ raw ∈ idsTable.rules, ∃ rule ip, compileRule raw = some rule
      ∧ rule.rcId = 205 ∧ rule.rcName = "ids" ∧ ruleMatchesFlow rule 443 .tcp = true
      ∧ "10.166.35.11:443" = ipPort ip 443
      ∧ Backed idsTable [] (DnsEnv.offline fun _ ↦ none) "ids.shiep.edu.cn" .initial rule ip
        .dnsMap :=
  ⟨rfl, plan_sound (by decide +kernel) (by decide)⟩

end RouteMatcher

end ShiepPipeline
