import ShiepPipeline.Collections.FirstMatch
import ShiepPipeline.Text.NetAddr

/-!
# Route rules and their compilation

The route table as the server sends it, and the compilation of its raw rules: every rule's host
text becomes an address, an address range or a normalised domain, rules whose host is malformed
are dropped, and so are later duplicates. The `--extra` entries of the command line compile to the
same host matchers.

`CompiledRule.matches` is not a function of the source. It says when a compiled rule applies to a
target and a flow, in one place, and is what the rule index and the planner are compared with.
-/

open Net Str

namespace ShiepPipeline

/-! ## The raw table -/

/-- Inclusive port range; `stop` is the source's `end`. -/
structure PortRange where
  start : UInt16
  stop : UInt16
deriving DecidableEq, Repr

/-- One rule of the table. A `proto` of `-1` stands for every protocol. -/
structure RouteRule where
  rcId : ℤ
  proto : ℤ
  svc : String
  name : String
  host : String
  port : PortRange
deriving DecidableEq, Repr

structure DnsRecord where
  rcId : ℤ
  host : String
  ip : String
deriving DecidableEq, Repr

structure RouteTable where
  rules : List RouteRule
  dnsServers : List String
  dnsRecords : List DnsRecord
deriving DecidableEq, Repr

/-! ## Flows and targets -/

inductive FlowProto
  | tcp
  | udp
  | icmp
deriving DecidableEq, Repr

/-- The protocol numbers of the route table. -/
def FlowProto.code : FlowProto → ℤ
  | .tcp => 0
  | .udp => 1
  | .icmp => 2

inductive TargetKind
  | domain (name : String)
  | ipv4 (ip : Ipv4Addr)
deriving DecidableEq, Repr

def normalizeDomain (host : String) : String :=
  toAsciiLowercase (trimEndMatches (trim host) '.')

def parseTarget (host : String) : TargetKind :=
  match Ipv4Addr.fromStr (trim host) with
  | some ip => .ipv4 ip
  | none => .domain (normalizeDomain host)

theorem parseTarget_eq_ipv4_iff {host : String} {ip : Ipv4Addr} :
    parseTarget host = .ipv4 ip ↔ Ipv4Addr.fromStr (trim host) = some ip := by
  rw [parseTarget]
  cases Ipv4Addr.fromStr (trim host) <;> simp

/-! ## Compilation -/

inductive HostMatcher
  | domain (name : String)
  | ipv4 (ip : Ipv4Addr)
  | ipv4Range (start stop : UInt32)
deriving DecidableEq, Repr

structure CompiledRule where
  rcId : ℤ
  rcName : String
  proto : ℤ
  svc : String
  matcher : HostMatcher
  port : PortRange
deriving DecidableEq, Repr

/-- The range between two addresses, given in either order. -/
def orderedRange (a b : Ipv4Addr) : HostMatcher :=
  if a.toU32 ≤ b.toU32 then .ipv4Range a.toU32 b.toU32 else .ipv4Range b.toU32 a.toU32

/-- The host part of `compile_rule`. -/
def compileHost (host : String) : Option HostMatcher :=
  if contains host '~' then do
    let (start, stop) ← splitOnce host '~'
    let a ← Ipv4Addr.fromStr (trim start)
    let b ← Ipv4Addr.fromStr (trim stop)
    some (orderedRange a b)
  else
    match Ipv4Addr.fromStr (trim host) with
    | some ip => some (.ipv4 ip)
    | none => if normalizeDomain host = "" then none else some (.domain (normalizeDomain host))

def compileRule (rule : RouteRule) : Option CompiledRule :=
  (compileHost rule.host).map fun matcher ↦
    { rcId := rule.rcId
      rcName := rule.name
      proto := rule.proto
      svc := rule.svc
      matcher
      port := rule.port }

inductive MatcherDedupKey
  | domain (name : String)
  | ipv4 (ip : Ipv4Addr)
  | ipv4Range (start stop : UInt32)
deriving DecidableEq, Repr

structure RuleDedupKey where
  rcId : ℤ
  rcName : String
  proto : ℤ
  svc : String
  matcher : MatcherDedupKey
  portStart : UInt16
  portEnd : UInt16
deriving DecidableEq, Repr

def CompiledRule.dedupKey (rule : CompiledRule) : RuleDedupKey where
  rcId := rule.rcId
  rcName := rule.rcName
  proto := rule.proto
  svc := rule.svc
  matcher := match rule.matcher with
    | .domain host => .domain host
    | .ipv4 ip => .ipv4 ip
    | .ipv4Range a b => .ipv4Range a b
  portStart := rule.port.start
  portEnd := rule.port.stop

/-- The key leaves nothing of a compiled rule out, so a dropped duplicate is a copy. -/
theorem CompiledRule.dedupKey_injective : Function.Injective CompiledRule.dedupKey := by
  rintro ⟨_, _, _, _, m, ⟨_, _⟩⟩ ⟨_, _, _, _, m', ⟨_, _⟩⟩ h
  cases m <;> cases m' <;> simp_all [CompiledRule.dedupKey]

/-- Compile the rules that compile and drop later duplicates, keeping the table's order. -/
def compileRules (rawRules : List RouteRule) : List CompiledRule :=
  (rawRules.foldl (fun state rule ↦
    match compileRule rule with
    | some compiled => FirstMatch.pushIfNew CompiledRule.dedupKey state compiled
    | none => state) ([], [])).1

theorem compileRules_eq (rawRules : List RouteRule) :
    compileRules rawRules = ((rawRules.filterMap compileRule).foldl
      (FirstMatch.pushIfNew CompiledRule.dedupKey) ([], [])).1 := by
  rw [compileRules, List.foldl_filterMap]
  congr 2
  funext state rule
  cases compileRule rule <;> rfl

/-- **Compilation keeps every first match.** -/
theorem find?_compileRules (p : CompiledRule → Bool) (rawRules : List RouteRule) :
    (compileRules rawRules).find? p = (rawRules.filterMap compileRule).find? p := by
  rw [compileRules_eq, FirstMatch.find?_foldl_pushIfNew CompiledRule.dedupKey_injective]

theorem mem_compileRules {rawRules : List RouteRule} {rule : CompiledRule} :
    rule ∈ compileRules rawRules ↔ ∃ raw ∈ rawRules, compileRule raw = some rule := by
  rw [compileRules_eq, FirstMatch.mem_foldl_pushIfNew CompiledRule.dedupKey_injective,
    List.mem_filterMap]

/-! ## Matching -/

def portMatches (range : PortRange) (port : UInt16) : Bool :=
  decide (range.start ≤ port) && decide (port ≤ range.stop)

def protoMatches (ruleProto : ℤ) (flowProto : FlowProto) : Bool :=
  ruleProto == -1 || ruleProto == flowProto.code

def isVipall (rule : CompiledRule) : Bool := trim rule.svc == "vipall"

def ruleMatchesFlow (rule : CompiledRule) (port : UInt16) (flowProto : FlowProto) : Bool :=
  if isVipall rule then true
  else if !protoMatches rule.proto flowProto then false
  else if flowProto == .icmp then true
  else portMatches rule.port port

/-- The range part of a matcher, which is what the range buckets are checked with. -/
def HostMatcher.rangeCovers (needle : UInt32) : HostMatcher → Bool
  | .ipv4Range start stop => decide (start ≤ needle) && decide (needle ≤ stop)
  | _ => false

/-- A matcher applies to a target. -/
def HostMatcher.covers : HostMatcher → TargetKind → Bool
  | .domain name, .domain target => name == target
  | .ipv4 ip, .ipv4 target => ip == target
  | .ipv4Range start stop, .ipv4 target =>
    (HostMatcher.ipv4Range start stop).rangeCovers target.toU32
  | _, _ => false

/-- A compiled rule applies to a target and a flow. -/
def CompiledRule.matches (rule : CompiledRule) (target : TargetKind) (port : UInt16)
    (flowProto : FlowProto) : Bool :=
  rule.matcher.covers target && ruleMatchesFlow rule port flowProto

@[simp] theorem HostMatcher.covers_domain_iff {matcher : HostMatcher} {name : String} :
    matcher.covers (.domain name) = true ↔ matcher = .domain name := by
  cases matcher <;> simp [HostMatcher.covers]

/-! ## Extras -/

/-- The CIDR mask of a prefix length. -/
def cidrMask (prefixLen : ℕ) : UInt32 :=
  if prefixLen = 0 then 0 else ~~~(0 : UInt32) <<< UInt32.ofNat (32 - prefixLen)

def parseExtraIp (entry : String) : Option HostMatcher :=
  let input := trim entry
  if input = "" then none
  else
    match splitOnce input '/' with
    | some (cidrIp, bits) => do
      let ip ← Ipv4Addr.fromStr (trim cidrIp)
      let prefixLen ← parseUnsigned 255 (trim bits)
      if 32 < prefixLen then none
      else
        let mask := cidrMask prefixLen
        some (.ipv4Range (ip.toU32 &&& mask) (ip.toU32 ||| ~~~mask))
    | none =>
      match splitOnce input '~' with
      | some (start, stop) => do
        let a ← Ipv4Addr.fromStr (trim start)
        let b ← Ipv4Addr.fromStr (trim stop)
        some (orderedRange a b)
      | none => (Ipv4Addr.fromStr input).map .ipv4

end ShiepPipeline
