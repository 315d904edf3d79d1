import ShiepPipeline.Collections.Aligned
import ShiepPipeline.Error
import ShiepPipeline.Routing.Rules

/-!
# Reading the route table

The table arrives as XML. The reader's events, with the attributes of each element as they come out
of it, are the input here; what is modelled is how the elements named `Rc` and `Dns` turn into
rules, DNS servers and DNS records.

A resource lists its hosts and its ports in two attributes. `parseRc` drops the tokens of each list
that it cannot read and pairs what is left, so a host may end up with the port written for another
one; `rulesAligned_iff_of_parseRc` says for which lists that cannot happen.
-/

open Str Aligned

namespace ShiepPipeline

/-! ## Elements and their attributes -/

/-- One item of an element's attribute iterator: the reader may fail on the attribute, its value
may fail to decode, or both key and value are there. -/
inductive XmlAttribute
  | malformed (error : String)
  | undecodable (error : String)
  | value (key value : String)
deriving DecidableEq, Repr

/-- `attr.map_err(..)?` and `decode_attr_value`. -/
def decodeAttribute : XmlAttribute → Except EcError (String × String)
  | .malformed e => .error (.runtime s!"xml attr parse failed: {e}")
  | .undecodable e => .error (.runtime s!"xml attr decode failed: {e}")
  | .value key value => .ok (key, value)

/-- The attributes that `parse_rc` looks at. -/
structure RcAttributes where
  idRaw : Option String := none
  protoRaw : Option String := none
  svc : Option String := none
  hostRaw : Option String := none
  portRaw : Option String := none
  name : Option String := none
deriving DecidableEq, Repr

def RcAttributes.assign (a : RcAttributes) (key value : String) : RcAttributes :=
  if key = "id" then { a with idRaw := some value }
  else if key = "proto" then { a with protoRaw := some value }
  else if key = "svc" then { a with svc := some value }
  else if key = "host" then { a with hostRaw := some value }
  else if key = "port" then { a with portRaw := some value }
  else if key = "name" then { a with name := some value }
  else a

/-- The loop over the attributes: a later attribute of the same name replaces an earlier one. -/
def readRcAttributes (attrs : List XmlAttribute) : Except EcError RcAttributes :=
  attrs.foldlM (fun a attr ↦ do
    let (key, value) ← decodeAttribute attr
    return a.assign key value) {}

/-! ## Host and port lists -/

def normalizeHostToken (raw : String) : String :=
  let token := trim raw
  let token := ((stripPrefix token "http://").or (stripPrefix token "https://")).getD token
  trim ((split token '/').head?.getD "")

def splitHosts (raw : String) : List String :=
  ((split raw ';').map normalizeHostToken).filter (· ≠ "")

/-- A port of `u16::from_str`. -/
def parsePort (s : String) : Option UInt16 := (parseUnsigned 65535 s).map UInt16.ofNat

/-- The closure of `split_ports`: one token, a single port or two bounds around `~`. -/
def parsePortToken (token : String) : Option PortRange :=
  let t := trim token
  if t = "" then none
  else
    match splitOnce t '~' with
    | some (a, b) => do
      let start ← parsePort (trim a)
      let stop ← parsePort (trim b)
      return ⟨start, stop⟩
    | none => (parsePort t).map fun port ↦ ⟨port, port⟩

def splitPorts (raw : String) : List PortRange := (split raw ';').filterMap parsePortToken

/-! ## Resources -/

/-- The rules of one resource, from the two lists. Nothing is emitted if one of them is empty or
they differ in length. -/
def emitRules (rcId proto : ℤ) (svc name : String) (hosts : List String) (ports : List PortRange) :
    List RouteRule :=
  if hosts.isEmpty || ports.isEmpty then []
  else if hosts.length ≠ ports.length then []
  else (hosts.zip ports).map fun (host, port) ↦ { rcId, proto, svc, name, host, port }

def parseRc (attrs : List XmlAttribute) (rules : List RouteRule) :
    Except EcError (List RouteRule) := do
  let a ← readRcAttributes attrs
  match a.idRaw, a.hostRaw, a.portRaw with
  | some idRaw, some hostRaw, some portRaw =>
    match parseI32 idRaw with
    | .error e => throw (.runtime s!"invalid rc id '{idRaw}': {e}")
    | .ok rcId =>
      let proto := (a.protoRaw.bind fun v ↦ (parseI32 v).toOption).getD 0
      return rules ++ emitRules rcId proto (a.svc.getD "") (a.name.getD "") (splitHosts hostRaw)
        (splitPorts portRaw)
  | _, _, _ => return rules

/-- The part of `parse_rc` behind its loop: the rules that one resource adds. -/
def RcAttributes.emit (a : RcAttributes) : Except EcError (List RouteRule) :=
  match a.idRaw, a.hostRaw, a.portRaw with
  | some idRaw, some hostRaw, some portRaw =>
    match parseI32 idRaw with
    | .error e => .error (.runtime s!"invalid rc id '{idRaw}': {e}")
    | .ok rcId =>
      let proto := (a.protoRaw.bind fun v ↦ (parseI32 v).toOption).getD 0
      .ok (emitRules rcId proto (a.svc.getD "") (a.name.getD "") (splitHosts hostRaw)
        (splitPorts portRaw))
  | _, _, _ => .ok []

/-- The rules that a resource adds. -/
def emittedRules (attrs : List XmlAttribute) : Except EcError (List RouteRule) :=
  readRcAttributes attrs >>= RcAttributes.emit

theorem parseRc_eq (attrs : List XmlAttribute) (rules : List RouteRule) :
    parseRc attrs rules = emittedRules attrs >>= fun emitted ↦ .ok (rules ++ emitted) := by
  rw [parseRc, emittedRules, bind_assoc]
  refine congrArg (readRcAttributes attrs >>= ·) (funext fun a ↦ ?_)
  rw [RcAttributes.emit]
  rcases a.idRaw with _ | idRaw <;> rcases a.hostRaw with _ | hostRaw <;>
    rcases a.portRaw with _ | portRaw
  case some.some.some =>
    dsimp only
    rcases parseI32 idRaw with e | rcId <;> rfl
  all_goals exact congrArg Except.ok (List.append_nil rules).symm

/-! ## DNS elements -/

def pushDnsServers (dnsServers : List String) (servers : String) : List String :=
  dnsServers ++ ((split servers ';').map trim).filter (· ≠ "")

def parseDnsRecordItem (item : String) : Option DnsRecord := do
  let (idRaw, rest) ← splitOnce item ':'
  let (hostRaw, ipRaw) ← rsplitOnce rest ':'
  let rcId ← (parseI32 idRaw).toOption
  let host := normalizeHostToken hostRaw
  let ip := trim ipRaw
  if host = "" ∨ ip = "" then none
  else return { rcId, host, ip }

/-- The attributes that `parse_dns` looks at. -/
structure DnsAttributes where
  servers : Option String := none
  data : Option String := none
deriving DecidableEq, Repr

def DnsAttributes.assign (a : DnsAttributes) (key value : String) : DnsAttributes :=
  if key = "dnsserver" then { a with servers := some value }
  else if key = "data" then { a with data := some value }
  else a

def readDnsAttributes (attrs : List XmlAttribute) : Except EcError DnsAttributes :=
  attrs.foldlM (fun a attr ↦ do
    let (key, value) ← decodeAttribute attr
    return a.assign key value) {}

/-- The items of a `data` attribute: blank and malformed ones are passed over. -/
def parseDnsItems (data : String) : List DnsRecord :=
  (split data ';').filterMap fun token ↦
    let item := trim token
    if item = "" then none else parseDnsRecordItem item

def parseDns (attrs : List XmlAttribute) (dnsServers : List String) (dnsRecords : List DnsRecord) :
    Except EcError (List String × List DnsRecord) := do
  let a ← readDnsAttributes attrs
  return (a.servers.elim dnsServers (pushDnsServers dnsServers),
    dnsRecords ++ a.data.elim [] parseDnsItems)

/-! ## The document -/

/-- What the reader yields, one call after another. -/
inductive XmlEvent
  | start (name : String) (attrs : List XmlAttribute)
  | empty (name : String) (attrs : List XmlAttribute)
  | stop (name : String)
  | other
  | eof
  | failure (error : String)
deriving DecidableEq, Repr

def readElement (table : RouteTable) (name : String) (attrs : List XmlAttribute) :
    Except EcError RouteTable :=
  if name = "Rc" then do
    let rules ← parseRc attrs table.rules
    return { table with rules }
  else if name = "Dns" then do
    let (dnsServers, dnsRecords) ← parseDns attrs table.dnsServers table.dnsRecords
    return { table with dnsServers, dnsRecords }
  else return table

/-- The loop of `parse_route_table_xml`. A reader at the end of its input has nothing but `eof` to
yield, so a list that runs out stands for one. -/
def parseEvents : List XmlEvent → RouteTable → Except EcError RouteTable
  | [], table => .ok table
  | .eof :: _, table => .ok table
  | .failure e :: _, _ => .error (.runtime s!"rclist xml parse failed: {e}")
  | .start name attrs :: rest, table => do parseEvents rest (← readElement table name attrs)
  | .empty name attrs :: rest, table => do parseEvents rest (← readElement table name attrs)
  | .stop _ :: rest, table => parseEvents rest table
  | .other :: rest, table => parseEvents rest table

def parseRouteTableXml (events : List XmlEvent) : Except EcError RouteTable :=
  parseEvents events ⟨[], [], []⟩

/-! ## Hosts and ports by position -/

/-- The host written in a token, if there is one. -/
def readHostToken (token : String) : Option String :=
  if normalizeHostToken token = "" then none else some (normalizeHostToken token)

/-- The host written at a position of the host list. -/
def hostAt (hostRaw : String) : ℕ → Option String := entry readHostToken (split hostRaw ';')

/-- The port or range written at a position of the port list. -/
def portAt (portRaw : String) : ℕ → Option PortRange := entry parsePortToken (split portRaw ';')

/-- Each rule pairs the host and the port written at one position, and the rules stand in the order
of the positions. -/
def RulesAligned (hostRaw portRaw : String) (rules : List RouteRule) : Prop :=
  IsAligned (hostAt hostRaw) (portAt portRaw) (rules.map fun rule ↦ (rule.host, rule.port))

/-- How many tokens of a list can be read. -/
def readable {γ : Type} (read : String → Option γ) (raw : String) : ℕ :=
  (split raw ';').countP fun token ↦ (read token).isSome

theorem splitHosts_eq_filterMap (raw : String) :
    splitHosts raw = (split raw ';').filterMap readHostToken := by
  rw [splitHosts]
  induction split raw ';' with
  | nil => rfl
  | cons token tokens ih =>
    rw [List.map_cons, List.filter_cons, List.filterMap_cons, readHostToken, ih]
    by_cases h : normalizeHostToken token = ""
    · simp [h]
    · simp [h]

theorem length_splitHosts (raw : String) :
    (splitHosts raw).length = readable readHostToken raw := by
  rw [splitHosts_eq_filterMap, List.length_filterMap_eq_countP, readable]

theorem length_splitPorts (raw : String) :
    (splitPorts raw).length = readable parsePortToken raw := by
  rw [splitPorts, List.length_filterMap_eq_countP, readable]

/-- Lists of one length give one rule for each pair, also when they are both empty. -/
theorem emitRules_of_length_eq {rcId proto : ℤ} {svc name : String} {hosts : List String}
    {ports : List PortRange} (hlen : hosts.length = ports.length) :
    (emitRules rcId proto svc name hosts ports).map (fun rule ↦ (rule.host, rule.port))
      = hosts.zip ports := by
  rw [emitRules]
  by_cases hempty : (hosts.isEmpty || ports.isEmpty) = true
  · rw [if_pos hempty]
    rw [Bool.or_eq_true, List.isEmpty_iff, List.isEmpty_iff] at hempty
    rcases hempty with rfl | rfl
    · rfl
    · exact List.zip_nil_right.symm
  · rw [if_neg hempty, if_neg (not_not_intro hlen), List.map_map]
    exact List.map_id _

theorem emitRules_of_length_ne {rcId proto : ℤ} {svc name : String} {hosts : List String}
    {ports : List PortRange} (hlen : hosts.length ≠ ports.length) :
    emitRules rcId proto svc name hosts ports = [] := by
  rw [emitRules]
  split_ifs
  · rfl
  · rfl

/-- What a resource emits is aligned if nothing is emitted because the counts differ, or if the
tokens that can be read stand at the same positions of both lists. -/
theorem rulesAligned_emitRules_iff {rcId proto : ℤ} {svc name hostRaw portRaw : String} :
    RulesAligned hostRaw portRaw
        (emitRules rcId proto svc name (splitHosts hostRaw) (splitPorts portRaw))
      ↔ readable readHostToken hostRaw ≠ readable parsePortToken portRaw
        ∨ ∀ i, (hostAt hostRaw i).isSome ↔ (portAt portRaw i).isSome := by
  rw [RulesAligned, ← length_splitHosts, ← length_splitPorts]
  by_cases hlen : (splitHosts hostRaw).length = (splitPorts portRaw).length
  · rw [emitRules_of_length_eq hlen, or_iff_right (not_not_intro hlen), splitHosts_eq_filterMap]
    rw [splitHosts_eq_filterMap] at hlen
    exact isAligned_zip_iff hlen
  · rw [emitRules_of_length_ne hlen]
    exact ⟨fun _ ↦ .inl hlen, fun _ ↦ isAligned_nil⟩

/-- **Hosts and ports of a resource stay aligned** exactly when the tokens that can be read stand at
the same positions of both lists or are differently many. -/
theorem rulesAligned_iff_of_parseRc {attrs : List XmlAttribute} {a : RcAttributes}
    {idRaw hostRaw portRaw : String} {rules rules' : List RouteRule}
    (ha : readRcAttributes attrs = .ok a) (hid : a.idRaw = some idRaw)
    (hhost : a.hostRaw = some hostRaw) (hport : a.portRaw = some portRaw)
    (h : parseRc attrs rules = .ok rules') :
    ∃ emitted, rules' = rules ++ emitted
      ∧ (RulesAligned hostRaw portRaw emitted
        ↔ readable readHostToken hostRaw ≠ readable parsePortToken portRaw
          ∨ ∀ i, (hostAt hostRaw i).isSome ↔ (portAt portRaw i).isSome) := by
  simp only [parseRc, ha, bind, Except.bind, hid, hhost, hport] at h
  cases hrc : parseI32 idRaw with
  | error e => simp [hrc, throw, throwThe, MonadExceptOf.throw] at h
  | ok rcId =>
    simp only [hrc, pure, Except.pure, Except.ok.injEq] at h
    exact ⟨_, h.symm, rulesAligned_emitRules_iff⟩

/-- The missing host and the unreadable port cancel in the count, and `c` gets the port that is
written next to no host. -/
theorem host_shifts_onto_other_port :
    parseRc [.value "id" "205", .value "host" "a;;c", .value "port" "80;81;bad"] []
        = .ok [⟨205, 0, "", "", "a", ⟨80, 80⟩⟩, ⟨205, 0, "", "", "c", ⟨81, 81⟩⟩]
      ∧ ¬∃ i, hostAt "a;;c" i = some "c" ∧ portAt "80;81;bad" i = some ⟨81, 81⟩ := by
  refine ⟨by decide +kernel, ?_⟩
  rintro ⟨i, hi, hp⟩
  have hlt : i < 3 := lt_length_of_isSome_entry (Option.isSome_iff_exists.mpr ⟨_, hi⟩)
  have hhosts : ∀ j < 3, hostAt "a;;c" j = some "c" → j = 2 := by decide +kernel
  rw [hhosts i hlt hi] at hp
  revert hp
  decide +kernel

/-- Two hosts with a port each. -/
theorem rulesAligned_iff_of_parseRc_two :
    ∃ emitted, [⟨205, 0, "", "", "a", ⟨80, 80⟩⟩, ⟨205, 0, "", "", "b", ⟨443, 445⟩⟩] = [] ++ emitted
      ∧ (RulesAligned "a;b" "80;443~445" emitted
        ↔ readable readHostToken "a;b" ≠ readable parsePortToken "80;443~445"
          ∨ ∀ i, (hostAt "a;b" i).isSome ↔ (portAt "80;443~445" i).isSome) :=
  have hread : readRcAttributes
      [.value "id" "205", .value "host" "a;b", .value "port" "80;443~445"]
        = .ok { idRaw := some "205", hostRaw := some "a;b", portRaw := some "80;443~445" } := by
    decide +kernel
  rulesAligned_iff_of_parseRc hread rfl rfl rfl (by decide +kernel)

end ShiepPipeline
