import ShiepPipeline.Routing.Literal
import ShiepPipeline.Routing.Soundness

/-!
# What the extras can do

The `--extra` entries are meant for targets that are addresses. `plan_eq_iff_extras` says exactly
when they also decide about a domain: when nothing else matches and the operating system gives an
address, the last planner asks the extras about it.

The same planner call is the one place where the dial is not made from the checked address but from
the text the client sent. `dials_checked_iff` says exactly when that matters.
-/

open Net Str

namespace ShiepPipeline

namespace RouteMatcher

variable {table : RouteTable} {extraIps extraIps' : List String} {env : DnsEnv} {host : String}
  {port : UInt16} {flowProto : FlowProto} {w : DnsWorld}

/-! ## Independence of the extras -/

variable (table extraIps extraIps') in
theorem planRemoteWithRule_extras : (fromTable table extraIps).planRemoteWithRule
    = (fromTable table extraIps').planRemoteWithRule := rfl

variable (table extraIps extraIps') in
theorem planRemoteWithCnameRule_extras : (fromTable table extraIps).planRemoteWithCnameRule
    = (fromTable table extraIps').planRemoteWithCnameRule := rfl

theorem Unlisted.extras {domain : String}
    (h : (fromTable table extraIps).Unlisted port flowProto domain) :
    (fromTable table extraIps').Unlisted port flowProto domain :=
  ⟨h.direct, h.records⟩

theorem Unanswered.extras {domain : String}
    (h : (fromTable table extraIps).Unanswered env port flowProto w domain) :
    (fromTable table extraIps').Unanswered env port flowProto w domain :=
  ⟨h.toUnlisted.extras, h.lookup⟩

/-- Which address is left to the extras does not depend on them. -/
theorem Unmatched.extras {ip : Ipv4Addr}
    (h : (fromTable table extraIps).Unmatched env host port flowProto w ip) :
    (fromTable table extraIps').Unmatched env host port flowProto w ip := by
  cases h with
  | literal htarget hmatch => exact .literal htarget hmatch
  | resolved htarget hunanswered hos hmatch =>
    exact .resolved htarget hunanswered.extras hos hmatch

variable (extraIps') in
/-- A plan that comes about without the extras is the plan under any extras. -/
theorem Plans.extras {p : RoutePlan}
    (h : (fromTable table extraIps).Plans env host port flowProto w p) :
    (fromTable table extraIps').Plans env host port flowProto w p
      ∨ ∃ ip, (fromTable table extraIps).Unmatched env host port flowProto w ip
        ∧ p = (fromTable table extraIps).extraPlan host port ip := by
  cases h with
  | committed hmatch =>
    rw [planRemoteWithRule_extras table extraIps extraIps']
    exact .inl (.committed hmatch)
  | record htarget hdirect hrecords hmatch => exact .inl (.record htarget hdirect hrecords hmatch)
  | cname htarget hunlisted hservers hanswer hmatch =>
    rw [planRemoteWithCnameRule_extras table extraIps extraIps']
    exact .inl (.cname htarget hunlisted.extras hservers hanswer hmatch)
  | answered htarget hunlisted hservers hanswer halias hmatch =>
    exact .inl (.answered htarget hunlisted.extras hservers hanswer halias hmatch)
  | resolved htarget hunanswered hos hmatch =>
    exact .inl (.resolved htarget hunanswered.extras hos hmatch)
  | @unmatched ip hip => exact .inr ⟨ip, hip, rfl⟩
  | unresolved htarget hunanswered hos => exact .inl (.unresolved htarget hunanswered.extras hos)

/-- An address that is left to the extras decides the plan. -/
theorem Unmatched.run_eq {ip : Ipv4Addr}
    (h : (fromTable table extraIps).Unmatched env host port flowProto w ip) :
    (env.run ((fromTable table extraIps).plan host port flowProto) w).1 =
      if extraIps.any (extraDenotes · ip) then .remote (hostPort host port) 0 "--extra" .extraIp
      else .fallback (hostPort host port) "no whitelist rule matched" := by
  rw [(Plans.unmatched h).run_eq, extraPlan, any_extraMatchers]

/-- **When the extras decide.** Two lists of extras give the same plan unless some address is left
to them, which for a domain is the operating system's, and only one of the lists denotes it. -/
theorem plan_eq_iff_extras :
    (env.run ((fromTable table extraIps).plan host port flowProto) w).1
        = (env.run ((fromTable table extraIps').plan host port flowProto) w).1
      ↔ ∀ ip, (fromTable table []).Unmatched env host port flowProto w ip →
        extraIps.any (extraDenotes · ip) = extraIps'.any (extraDenotes · ip) := by
  constructor
  · intro heq ip hip
    rw [Unmatched.run_eq hip.extras, Unmatched.run_eq hip.extras] at heq
    generalize extraIps.any (extraDenotes · ip) = b at heq ⊢
    generalize extraIps'.any (extraDenotes · ip) = b' at heq ⊢
    cases b <;> cases b' <;> simp at heq ⊢
  · intro hsame
    have hrun : (fromTable table extraIps).Plans env host port flowProto w
        (env.run ((fromTable table extraIps).plan host port flowProto) w).1 := plans_run
    rcases hrun.extras extraIps' with hplans | ⟨ip, hip, -⟩
    · exact hplans.run_eq.symm
    · rw [Unmatched.run_eq hip, Unmatched.run_eq hip.extras, hsame ip hip.extras]

/-- A host that an extra names by address, though nothing is known about the host. -/
def intranetEnv : DnsEnv :=
  .offline fun host ↦ if host = "intranet.example" then some ⟨10, 50, 2, 206⟩ else none

theorem plan_extras_intranet :
    Ipv4Addr.fromStr (trim "intranet.example") = none
    ∧ (intranetEnv.run ((fromTable ⟨[], [], []⟩ []).plan "intranet.example" 443 .tcp) .initial).1
      = .fallback "intranet.example:443" "no whitelist rule matched"
    ∧ (intranetEnv.run ((fromTable ⟨[], [], []⟩ ["10.50.2.206"]).plan "intranet.example" 443 .tcp)
        .initial).1
      = .remote "intranet.example:443" 0 "--extra" .extraIp := by
  decide +kernel

/-! ## The dial and the checked address -/

/-- The address of a remote plan is the one the rule, or the extra, was checked against. -/
def Checked (table : RouteTable) (extraIps : List String) (env : DnsEnv) (host : String)
    (port : UInt16) (flowProto : FlowProto) (w : DnsWorld) (rcId : ℤ) (rcName : String)
    (source : RouteSource) (ip : Ipv4Addr) : Prop :=
  (∃ rule ∈ compileRules table.rules, rule.rcId = rcId ∧ rule.rcName = rcName
      ∧ ruleMatchesFlow rule port flowProto = true
      ∧ Backed table extraIps env host w rule ip source)
    ∨ source = .extraIp ∧ (fromTable table extraIps).Unmatched env host port flowProto w ip
      ∧ extraIps.any (extraDenotes · ip) = true

theorem run_resolveIpv4Target_ipPort (ip : Ipv4Addr) (port : UInt16) (w : DnsWorld) :
    env.run (resolveIpv4Target (ipPort ip port)) w = (.ok ⟨ip, port⟩, w) := by
  have hparse : SocketAddr.fromStr (ipPort ip port) = some (.v4 ⟨ip, port⟩) :=
    SocketAddr.fromStr_display_v4 ip port
  rw [resolveIpv4Target, toSocketAddrs, hparse]
  rfl

theorem hostPort_inj {host host' : String} (h : hostPort host port = hostPort host' port) :
    host = host' := by
  have hchars := congrArg String.toList h
  simp only [hostPort, String.toList_append, List.append_assoc] at hchars
  exact String.toList_inj.mp (List.append_cancel_right hchars)

/-- A target written as a dotted quad leaves that very address to the extras. -/
theorem Unmatched.eq_of_display {m : RouteMatcher} {ip ip' : Ipv4Addr}
    (h : m.Unmatched env ip'.display port flowProto w ip) : ip = ip' := by
  have htarget : parseTarget ip'.display = .ipv4 ip' := by
    rw [parseTarget_eq_ipv4_iff, Ipv4Addr.trim_display, Ipv4Addr.fromStr_display]
  cases h with
  | literal h => exact (TargetKind.ipv4.inj (htarget.symm.trans h)).symm
  | resolved h => exact absurd (htarget.symm.trans h) (by simp)

/-- **When the dial is the checked address.** Every remote plan dials the address it was checked
for, in a form that resolves to it again, unless an extra denotes the address left to it and the
host is not that address's own text: a domain, or an address with white space around it. -/
theorem dials_checked_iff :
    (∀ dial rcId rcName source,
      (env.run ((fromTable table extraIps).plan host port flowProto) w).1
        = .remote dial rcId rcName source →
      ∃ ip, dial = ipPort ip port
        ∧ Checked table extraIps env host port flowProto w rcId rcName source ip
        ∧ ∀ w', env.run (resolveIpv4Target dial) w' = (.ok ⟨ip, port⟩, w'))
      ↔ ∀ ip, (fromTable table extraIps).Unmatched env host port flowProto w ip →
        extraIps.any (extraDenotes · ip) = true → host = ip.display := by
  constructor
  · intro hdials ip hip hextra
    have hplan := hip.run_eq
    rw [if_pos hextra] at hplan
    obtain ⟨ip', hdial, -⟩ := hdials _ _ _ _ hplan
    obtain rfl : host = ip'.display := hostPort_inj hdial
    rw [hip.eq_of_display]
  · intro hhost dial rcId rcName source hplan
    rcases backed_of_remote hplan with ⟨rule, ip, hmem, hflow, hrcId, hrcName, rfl, hbacked⟩
      | ⟨ip, hip, hextra, rfl, -, -, rfl⟩
    · exact ⟨ip, rfl, .inl ⟨rule, hmem, hrcId, hrcName, hflow, hbacked⟩,
        run_resolveIpv4Target_ipPort ip port⟩
    · rw [any_extraMatchers] at hextra
      obtain rfl := hhost ip hip hextra
      exact ⟨ip, rfl, .inr ⟨rfl, hip, hextra⟩, run_resolveIpv4Target_ipPort ip port⟩

/-- Neither of these dials is the text of an address and the port. -/
theorem dials_host_text :
    (intranetEnv.run ((fromTable ⟨[], [], []⟩ ["10.50.2.206"]).plan "intranet.example" 443 .tcp)
        .initial).1 = .remote "intranet.example:443" 0 "--extra" .extraIp
    ∧ (intranetEnv.run ((fromTable ⟨[], [], []⟩ ["10.50.2.206"]).plan " 10.50.2.206" 443 .tcp)
        .initial).1 = .remote " 10.50.2.206:443" 0 "--extra" .extraIp
    ∧ (∀ ip, "intranet.example:443" ≠ ipPort ip 443)
    ∧ ∀ ip, " 10.50.2.206:443" ≠ ipPort ip 443 := by
  have hno : ∀ dial, SocketAddr.fromStr dial = none → ∀ ip, dial ≠ ipPort ip 443 := by
    rintro _ hparse ip rfl
    exact absurd (hparse.symm.trans (SocketAddr.fromStr_display_v4 ip 443)) (by simp)
  exact ⟨by decide +kernel, by decide +kernel, hno _ (by decide), hno _ (by decide)⟩

end RouteMatcher

end ShiepPipeline
