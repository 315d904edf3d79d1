import ShiepPipeline.Routing.Cascade

/-!
# Literal addresses

When the target's text is an IPv4 address, routing comes down to the raw table and the raw extras:
the first rule whose host covers the address and which accepts the flow, or else any extra that
denotes the address. `referencePlan` says this on the texts themselves, without compilation, index
or buckets, and `plan_literal` states that it is what the matcher plans, without looking at any
DNS state.
-/

open Net Str

namespace ShiepPipeline

/-! ## The reference -/

/-- An address lies between two others, given in either order. -/
def between (x y a : Ipv4Addr) : Bool :=
  (decide (x.toNat ≤ a.toNat) && decide (a.toNat ≤ y.toNat))
    || (decide (y.toNat ≤ a.toNat) && decide (a.toNat ≤ x.toNat))

/-- The text `start~stop` of a range. -/
def rangeCovers (start stop : String) (a : Ipv4Addr) : Bool :=
  (Ipv4Addr.fromStr (trim start)).any fun x ↦
    (Ipv4Addr.fromStr (trim stop)).any fun y ↦ between x y a

/-- The host of a raw rule is the text of the address, or of a range that holds it. -/
def RouteRule.coversIp (rule : RouteRule) (a : Ipv4Addr) : Bool :=
  match splitOnce rule.host '~' with
  | some (start, stop) => rangeCovers start stop a
  | none => Ipv4Addr.fromStr (trim rule.host) == some a

/-- A raw rule accepts a flow. -/
def RouteRule.acceptsFlow (rule : RouteRule) (port : UInt16) (flowProto : FlowProto) : Bool :=
  trim rule.svc == "vipall"
    || ((rule.proto == -1 || rule.proto == flowProto.code)
      && (flowProto == .icmp
        || (decide (rule.port.start ≤ port) && decide (port ≤ rule.port.stop))))

/-- What an extra denotes: the addresses that agree with `x` in the first `p` bits, for `x/p`; those
between `x` and `y`, for `x~y`; the address itself otherwise. -/
def extraDenotes (entry : String) (a : Ipv4Addr) : Bool :=
  match splitOnce (trim entry) '/' with
  | some (cidrIp, bits) =>
    (Ipv4Addr.fromStr (trim cidrIp)).any fun x ↦ (parseUnsigned 255 (trim bits)).any fun p ↦
      decide (p ≤ 32) && x.toNat / 2 ^ (32 - p) == a.toNat / 2 ^ (32 - p)
  | none =>
    match splitOnce (trim entry) '~' with
    | some (start, stop) => rangeCovers start stop a
    | none => Ipv4Addr.fromStr (trim entry) == some a

def referencePlan (table : RouteTable) (extraIps : List String) (host : String) (port : UInt16)
    (flowProto : FlowProto) (a : Ipv4Addr) : RoutePlan :=
  match table.rules.find? fun rule ↦ rule.coversIp a && rule.acceptsFlow port flowProto with
  | some rule => .remote (ipPort a port) rule.rcId rule.name .ruleIp
  | none =>
    if extraIps.any (extraDenotes · a) then .remote (hostPort host port) 0 "--extra" .extraIp
    else .fallback (hostPort host port) "no whitelist rule matched"

/-! ## Ranges and CIDR blocks -/

theorem covers_orderedRange (x y a : Ipv4Addr) :
    (orderedRange x y).covers (.ipv4 a) = between x y a := by
  rw [orderedRange, between, Bool.eq_iff_iff]
  split_ifs with h <;>
    simp only [HostMatcher.covers, HostMatcher.rangeCovers, UInt32.le_iff_toNat_le,
      Ipv4Addr.toNat_toU32, Bool.and_eq_true, Bool.or_eq_true, decide_eq_true_eq] at h ⊢ <;>
    omega

theorem toNat_cidrMask : ∀ p ≤ 32, (cidrMask p).toNat = 2 ^ 32 - 2 ^ (32 - p) := by
  decide

/-- The smallest address of a block: the host bits are cleared. -/
theorem toNat_and_cidrMask (x : UInt32) {p : ℕ} (hp : p ≤ 32) :
    (x &&& cidrMask p).toNat = 2 ^ (32 - p) * (x.toNat / 2 ^ (32 - p)) := by
  have hx := x.toNat_lt
  have hlow : 2 ^ (32 - p) - 1 < 2 ^ 32 :=
    Nat.sub_one_lt_of_le (Nat.two_pow_pos _) (Nat.pow_le_pow_right Nat.zero_lt_two (by omega))
  have hmask : (cidrMask p).toNat = 2 ^ 32 - (2 ^ (32 - p) - 1 + 1) := by
    rw [toNat_cidrMask p hp, Nat.sub_add_cancel (Nat.one_le_two_pow)]
  rw [UInt32.toNat_and, hmask]
  refine Nat.eq_of_testBit_eq fun i ↦ ?_
  rw [Nat.testBit_and, Nat.testBit_two_pow_sub_succ hlow, Nat.testBit_two_pow_sub_one,
    Nat.testBit_two_pow_mul, Nat.testBit_div_two_pow]
  by_cases hi : 32 - p ≤ i
  · by_cases h32 : i < 32
    · simp [hi, h32, Nat.sub_add_cancel hi, Nat.not_lt.mpr hi]
    · have hbit : x.toNat.testBit i = false :=
        Nat.testBit_lt_two_pow (lt_of_lt_of_le hx (Nat.pow_le_pow_right Nat.zero_lt_two (by omega)))
      simp [hbit, Nat.sub_add_cancel hi]
  · simp [hi, Nat.not_le.mp hi]

/-- The largest address of a block: the host bits are set. -/
theorem toNat_or_not_cidrMask (x : UInt32) {p : ℕ} (hp : p ≤ 32) :
    (x ||| ~~~(cidrMask p)).toNat
      = 2 ^ (32 - p) * (x.toNat / 2 ^ (32 - p)) + (2 ^ (32 - p) - 1) := by
  have hpos : 0 < 2 ^ (32 - p) := Nat.two_pow_pos _
  have hnot : (~~~(cidrMask p)).toNat = 2 ^ (32 - p) - 1 := by
    have hle : 2 ^ (32 - p) ≤ 2 ^ 32 := Nat.pow_le_pow_right Nat.zero_lt_two (by omega)
    have hsize : UInt32.size = 2 ^ 32 := rfl
    rw [UInt32.toNat_not, toNat_cidrMask p hp, hsize]
    omega
  rw [UInt32.toNat_or, hnot, Nat.two_pow_add_eq_or_of_lt (Nat.sub_one_lt hpos.ne')]
  refine Nat.eq_of_testBit_eq fun i ↦ ?_
  rw [Nat.testBit_or, Nat.testBit_or, Nat.testBit_two_pow_sub_one, Nat.testBit_two_pow_mul,
    Nat.testBit_div_two_pow]
  by_cases hi : 32 - p ≤ i
  · simp [hi, Nat.sub_add_cancel hi]
  · simp [Nat.not_le.mp hi]

/-- **A block holds the addresses that agree in the first `p` bits.** -/
theorem rangeCovers_cidr (x a : UInt32) {p : ℕ} (hp : p ≤ 32) :
    (HostMatcher.ipv4Range (x &&& cidrMask p) (x ||| ~~~(cidrMask p))).rangeCovers a
      = (x.toNat / 2 ^ (32 - p) == a.toNat / 2 ^ (32 - p)) := by
  have hpos : 0 < 2 ^ (32 - p) := Nat.two_pow_pos _
  rw [Bool.eq_iff_iff, HostMatcher.rangeCovers, Bool.and_eq_true, decide_eq_true_eq,
    decide_eq_true_eq, UInt32.le_iff_toNat_le, UInt32.le_iff_toNat_le, toNat_and_cidrMask x hp,
    toNat_or_not_cidrMask x hp, beq_iff_eq, eq_comm, Nat.div_eq_iff hpos]
  rw [Nat.mul_comm]
  omega

/-- Two texts that give a matcher for the range between them. -/
theorem any_orderedRange (start stop : String) (a : Ipv4Addr) :
    (do
      let x ← Ipv4Addr.fromStr (trim start)
      let y ← Ipv4Addr.fromStr (trim stop)
      some (orderedRange x y)).any (HostMatcher.covers · (.ipv4 a)) = rangeCovers start stop a := by
  rw [rangeCovers]
  simp only [Option.bind_eq_bind, Option.any_bind, Option.any_some, covers_orderedRange,
    Function.comp_def]

/-! ## Extras and rules against the reference -/

/-- **A well-formed extra covers what it denotes, and any other covers nothing.** -/
theorem any_parseExtraIp (entry : String) (a : Ipv4Addr) :
    (parseExtraIp entry).any (extraHit a) = extraDenotes entry a := by
  have hhit : extraHit a = (HostMatcher.covers · (.ipv4 a)) := funext fun matcher ↦
    RouteMatcher.extraHit_eq_covers a matcher
  rw [hhit, parseExtraIp, extraDenotes]
  by_cases hempty : trim entry = ""
  · rw [if_pos hempty, hempty]
    rfl
  · rw [if_neg hempty]
    cases splitOnce (trim entry) '/' with
    | some cidr =>
      obtain ⟨cidrIp, bits⟩ := cidr
      dsimp only
      cases Ipv4Addr.fromStr (trim cidrIp) with
      | none => rfl
      | some x =>
        cases parseUnsigned 255 (trim bits) with
        | none => rfl
        | some p =>
          -- a block is a range if its length is one
          by_cases hp : p ≤ 32
          · have hrange := rangeCovers_cidr x.toU32 a.toU32 hp
            simpa [Nat.not_lt.mpr hp, hp, HostMatcher.covers] using hrange
          · simp [Nat.not_le.mp hp, hp]
    | none =>
      cases splitOnce (trim entry) '~' with
      | some range => exact any_orderedRange range.1 range.2 a
      | none => cases Ipv4Addr.fromStr (trim entry) <;> simp [HostMatcher.covers]

theorem any_compileHost (host : String) (a : Ipv4Addr) :
    (compileHost host).any (HostMatcher.covers · (.ipv4 a)) =
      match splitOnce host '~' with
      | some (start, stop) => rangeCovers start stop a
      | none => Ipv4Addr.fromStr (trim host) == some a := by
  rw [compileHost]
  cases hcontains : contains host '~' with
  | true =>
    rcases hsplit : splitOnce host '~' with _ | ⟨start, stop⟩
    · simp [splitOnce_eq_none_iff.mp hsplit] at hcontains
    · simp only [if_true, Option.bind_eq_bind, Option.bind_some]
      exact any_orderedRange start stop a
  | false =>
    rw [if_neg Bool.false_ne_true, splitOnce_eq_none_iff.mpr hcontains]
    cases Ipv4Addr.fromStr (trim host) with
    | some x => simp [HostMatcher.covers]
    | none =>
      dsimp only
      split_ifs <;> rfl

theorem ruleMatchesFlow_of_compileRule {raw : RouteRule} {rule : CompiledRule}
    (h : compileRule raw = some rule) (port : UInt16) (flowProto : FlowProto) :
    ruleMatchesFlow rule port flowProto = raw.acceptsFlow port flowProto := by
  obtain ⟨matcher, -, rfl⟩ := Option.map_eq_some_iff.mp h
  rw [ruleMatchesFlow, RouteRule.acceptsFlow, isVipall, protoMatches, portMatches]
  cases trim raw.svc == "vipall" with
  | true => rfl
  | false =>
    cases raw.proto == -1 || raw.proto == flowProto.code with
    | false => rfl
    | true => cases flowProto <;> rfl

/-- A compiled rule applies to an address as the reference says of the raw one. -/
theorem any_compileRule_matches (raw : RouteRule) (a : Ipv4Addr) (port : UInt16)
    (flowProto : FlowProto) :
    (compileRule raw).any (·.matches (.ipv4 a) port flowProto)
      = (raw.coversIp a && raw.acceptsFlow port flowProto) := by
  rw [RouteRule.coversIp, ← any_compileHost]
  cases hrule : compileRule raw with
  | none =>
    have hhost : compileHost raw.host = none := Option.map_eq_none_iff.mp hrule
    simp [hhost]
  | some rule =>
    rw [Option.any_some, CompiledRule.matches, ruleMatchesFlow_of_compileRule hrule]
    obtain ⟨matcher, hhost, rfl⟩ := Option.map_eq_some_iff.mp hrule
    rw [hhost, Option.any_some]

namespace RouteMatcher

/-- The first rule for a target, in terms of the raw table. -/
theorem findFirstMatch_fromTable (table : RouteTable) (extraIps : List String) (port : UInt16)
    (flowProto : FlowProto) (target : TargetKind) :
    (fromTable table extraIps).findFirstMatch port flowProto target
      = (table.rules.find? fun raw ↦
          (compileRule raw).any (·.matches target port flowProto)).bind compileRule := by
  rw [findFirstMatch_eq]
  exact (find?_compileRules _ _).trans List.find?_filterMap

/-- The extras of a matcher cover what its entries denote. -/
theorem any_extraMatchers (table : RouteTable) (extraIps : List String) (a : Ipv4Addr) :
    (fromTable table extraIps).extraMatchers.any (extraHit a)
      = extraIps.any (extraDenotes · a) := by
  rw [fromTable, List.any_filterMap]
  refine congrArg extraIps.any (funext fun entry ↦ ?_)
  rw [← any_parseExtraIp]
  cases parseExtraIp entry <;> rfl

/-- **A literal address is routed as the reference says**, and no DNS state is read or changed. -/
theorem plan_literal {table : RouteTable} {extraIps : List String} {host : String} {port : UInt16}
    {flowProto : FlowProto} {a : Ipv4Addr} {env : DnsEnv} {w : DnsWorld}
    (hhost : Ipv4Addr.fromStr (trim host) = some a) :
    env.run ((fromTable table extraIps).plan host port flowProto) w
      = (referencePlan table extraIps host port flowProto a, w) := by
  have htarget : parseTarget host = .ipv4 a := parseTarget_eq_ipv4_iff.mpr hhost
  have hfind := findFirstMatch_fromTable table extraIps port flowProto (.ipv4 a)
  simp only [any_compileRule_matches] at hfind
  rw [referencePlan]
  cases hraw : table.rules.find? fun raw ↦ raw.coversIp a && raw.acceptsFlow port flowProto with
  | some raw =>
    have hmatch := List.find?_some hraw
    rw [← any_compileRule_matches] at hmatch
    obtain ⟨rule, hrule, -⟩ := Option.any_eq_true _ _ |>.mp hmatch
    obtain ⟨matcher, -, rfl⟩ := Option.map_eq_some_iff.mp hrule
    rw [hraw, Option.bind_some, hrule, ← htarget] at hfind
    rw [run_plan_of_match hfind, htarget]
    rfl
  | none =>
    rw [hraw, Option.bind_none] at hfind
    rw [run_plan_ipv4 htarget hfind, getD_planExtraIp, extraPlan, any_extraMatchers]

/-- An exact rule for UDP, and a range around its address for any protocol. -/
def labTable : RouteTable where
  rules := [⟨1, 1, "Other", "exact", "10.50.2.206", ⟨1, 65535⟩⟩,
    ⟨2, -1, "Other", "range", "10.50.255.254~10.50.0.1", ⟨1, 1024⟩⟩]
  dnsServers := []
  dnsRecords := []

theorem plan_literal_range :
    (DnsEnv.offline fun _ ↦ none).run
        ((fromTable labTable ["10.0.0.0/8"]).plan " 10.50.2.206" 443 .tcp) .initial
      = (.remote "10.50.2.206:443" 2 "range" .ruleIp, .initial) := by
  have hhost : Ipv4Addr.fromStr (trim " 10.50.2.206") = some ⟨10, 50, 2, 206⟩ := by decide
  have hplan : referencePlan labTable ["10.0.0.0/8"] " 10.50.2.206" 443 .tcp ⟨10, 50, 2, 206⟩
      = .remote "10.50.2.206:443" 2 "range" .ruleIp := by decide +kernel
  rw [plan_literal hhost, hplan]

end RouteMatcher

end ShiepPipeline
