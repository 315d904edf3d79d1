import ShiepPipeline.Collections.TtlCache
import ShiepPipeline.Concurrency.Program
import ShiepPipeline.Error
import ShiepPipeline.Text.NetAddr

/-!
# The DNS resolver

Lookups through the DNS servers of the route table, and the two caches in front of them: first
addresses by resource and host, and whole answers (aliases and addresses) by host alone.

Every lookup is a `Program` over `DnsOp`, the calls that leave the resolver's own code: one access
to a cache, one query of a server, one question to the operating system. `DnsEnv` is everything
outside: the clock, the network, the DNS message codec and the operating system's resolver. Each
call happens at its own tick, so an environment may answer the same question differently each
time. `DnsEnv.handle` answers the calls from a `DnsWorld`, the state the process keeps.
-/

open Net Str Program TtlCache

namespace ShiepPipeline

/-! ## DNS messages -/

/-- The data of one answer record. -/
inductive RData
  | a (ip : Ipv4Addr)
  | cname (name : String)
  | other
deriving DecidableEq, Repr

inductive ResponseCode
  | noError
  | failure (text : String)
deriving DecidableEq, Repr

structure Message where
  id : UInt16
  isResponse : Bool
  responseCode : ResponseCode
  truncated : Bool
  answers : List RData
deriving DecidableEq, Repr

inductive UdpQueryResult
  | complete (message : Message)
  | truncated
deriving DecidableEq, Repr

def normalizeDnsName (host : String) : String :=
  toAsciiLowercase (trimEndMatches (trim host) '.')

def extractIpv4s (message : Message) : List Ipv4Addr :=
  message.answers.foldl (fun ips answer ↦
    match answer with
    | .a ip => if ips.contains ip then ips else ips ++ [ip]
    | _ => ips) []

def extractCnameAliases (message : Message) : List String :=
  message.answers.foldl (fun aliases answer ↦
    match answer with
    | .cname name =>
      let target := normalizeDnsName name
      if target ≠ "" ∧ ¬ aliases.contains target then aliases ++ [target] else aliases
    | _ => aliases) []

def extractFirstIpv4 (message : Message) (server : SocketAddr) : Except EcError Ipv4Addr :=
  match extractIpv4s message with
  | ip :: _ => .ok ip
  | [] => .error (.runtime ("dns no A answer from " ++ server.display))

/-! ## The environment -/

/-- What the resolver calls and does not own. The exchanges stand for the socket work of one query:
sending the request and waiting, up to the time limit, for a packet of that server. -/
structure DnsEnv where
  /-- Readings of the monotonic clock, in milliseconds. -/
  clock : ℕ → ℕ
  nameFromAscii : String → Except String String
  messageToVec : UInt16 → String → Except String (List UInt8)
  messageFromVec : List UInt8 → Except String Message
  udpExchange : ℕ → List UInt8 → SocketAddr → Except EcError (List UInt8)
  tcpExchange : ℕ → List UInt8 → SocketAddr → Except EcError (List UInt8)
  /-- The operating system's resolver. -/
  lookupHost : ℕ → String → Except String (List IpAddr)

namespace DnsEnv

variable (env : DnsEnv)

def buildAQuery (id : UInt16) (host : String) : Except EcError (List UInt8) := do
  let fqdn := if host.toList.getLast? = some '.' then host else host ++ "."
  let name ← (env.nameFromAscii fqdn).mapError fun e ↦
    .runtime ("dns query name build failed: " ++ e)
  (env.messageToVec id name).mapError fun e ↦ .runtime ("dns query encode failed: " ++ e)

def decodeDnsResponse (payload : List UInt8) (expectedId : UInt16) (server : SocketAddr) :
    Except EcError Message := do
  let message ← (env.messageFromVec payload).mapError fun e ↦
    .runtime ("dns response decode failed: " ++ e)
  if message.id ≠ expectedId then
    throw (.runtime ("dns response id mismatch from " ++ server.display ++ ": expected "
      ++ decimal expectedId.toNat ++ ", got " ++ decimal message.id.toNat))
  if !message.isResponse then
    throw (.runtime ("dns response message type is not response from " ++ server.display))
  match message.responseCode with
  | .noError => pure message
  | .failure text =>
    throw (.runtime ("dns response code from " ++ server.display ++ ": " ++ text))

def queryUdp (tick : ℕ) (id : UInt16) (request : List UInt8) (server : SocketAddr) :
    Except EcError UdpQueryResult := do
  let payload ← env.udpExchange tick request server
  let message ← env.decodeDnsResponse payload id server
  pure (if message.truncated then .truncated else .complete message)

def queryTcp (tick : ℕ) (id : UInt16) (request : List UInt8) (server : SocketAddr) :
    Except EcError Message := do
  if 65535 < request.length then
    throw (.runtime "dns tcp request is too large")
  let payload ← env.tcpExchange tick request server
  env.decodeDnsResponse payload id server

def queryServerMessage (tick : ℕ) (id : UInt16) (host : String) (server : SocketAddr) :
    Except EcError Message := do
  let request ← env.buildAQuery id host
  match ← env.queryUdp tick id request server with
  | .complete message => pure message
  | .truncated => env.queryTcp tick id request server

/-- No DNS server answers, and the operating system knows some hosts. The clock stands for the
number of calls. -/
def offline (hosts : String → Option Ipv4Addr) : DnsEnv where
  clock := id
  nameFromAscii := .ok
  messageToVec := fun _ _ ↦ .ok []
  messageFromVec := fun _ ↦ .error "empty message"
  udpExchange := fun _ _ _ ↦ .error (.runtime "dns udp recv failed: timed out")
  tcpExchange := fun _ _ _ ↦ .error (.runtime "dns tcp connect failed: timed out")
  lookupHost := fun _ host ↦
    match hosts host with
    | some ip => .ok [.v4 ip]
    | none => .error "failed to lookup address information"

end DnsEnv

/-! ## The calls of the resolver -/

structure CacheKey where
  rcId : ℤ
  host : String
deriving DecidableEq, Repr

/-- What `LookupCacheEntry` holds beside its time of expiry. -/
structure LookupAnswer where
  aliases : List String
  ips : List Ipv4Addr
deriving DecidableEq, Repr

/-- The cache entry a server query is made for. No code reads this. It tells whoever watches the
calls which key a query belongs to. -/
inductive Asker
  | first (key : CacheKey)
  | lookup (key : String)
deriving DecidableEq, Repr

inductive DnsOp
  | clearCache
  | clearLookupCache
  | cacheGet (key : CacheKey)
  | cachePut (key : CacheKey) (ip : Ipv4Addr)
  | lookupCacheGet (key : String)
  | lookupCachePut (key : String) (answer : LookupAnswer)
  | query (asker : Asker) (host : String) (server : SocketAddr)
  | lookupHost (host : String)
deriving DecidableEq, Repr

abbrev DnsOp.Ans : DnsOp → Type
  | .cacheGet _ => Option Ipv4Addr
  | .lookupCacheGet _ => Option LookupAnswer
  | .query .. => Except EcError Message
  | .lookupHost _ => Except String (List IpAddr)
  | _ => Unit

abbrev Dns (α : Type) := Program DnsOp DnsOp.Ans α

/-- `DNS_CACHE_TTL`, in milliseconds. -/
def dnsCacheTtl : ℕ := 300 * 1000

/-- What the process keeps between lookups: the two caches, the next query id, and the tick. -/
structure DnsWorld where
  cache : Store CacheKey Ipv4Addr
  lookupCache : Store String LookupAnswer
  nextQueryId : UInt16
  tick : ℕ

namespace DnsWorld

def initial : DnsWorld := ⟨.empty, .empty, 1, 0⟩

end DnsWorld

/-- Answer one call. Reading the clock is part of the call that needs it. -/
def DnsEnv.handle (env : DnsEnv) : Handler DnsOp DnsOp.Ans DnsWorld
  | .clearCache, w => ((), { w with cache := .empty, tick := w.tick + 1 })
  | .clearLookupCache, w => ((), { w with lookupCache := .empty, tick := w.tick + 1 })
  | .cacheGet key, w =>
    ((w.cache.get (env.clock w.tick) key).1,
      { w with cache := (w.cache.get (env.clock w.tick) key).2, tick := w.tick + 1 })
  | .cachePut key ip, w =>
    ((), { w with cache := w.cache.put dnsCacheTtl (env.clock w.tick) key ip, tick := w.tick + 1 })
  | .lookupCacheGet key, w =>
    ((w.lookupCache.get (env.clock w.tick) key).1,
      { w with lookupCache := (w.lookupCache.get (env.clock w.tick) key).2, tick := w.tick + 1 })
  | .lookupCachePut key answer, w =>
    ((), { w with
      lookupCache := w.lookupCache.put dnsCacheTtl (env.clock w.tick) key answer
      tick := w.tick + 1 })
  | .query _ host server, w =>
    (env.queryServerMessage w.tick w.nextQueryId host server,
      { w with nextQueryId := w.nextQueryId + 1, tick := w.tick + 1 })
  | .lookupHost host, w => (env.lookupHost w.tick host, { w with tick := w.tick + 1 })

/-- The result of a lookup that is not interrupted. -/
def DnsEnv.run {α : Type} (env : DnsEnv) (p : Dns α) (w : DnsWorld) : α × DnsWorld :=
  Program.run env.handle p w

@[simp] theorem DnsEnv.run_pure {α : Type} (env : DnsEnv) (a : α) (w : DnsWorld) :
    env.run (pure a) w = (a, w) := rfl

@[simp] theorem DnsEnv.run_bind {α β : Type} (env : DnsEnv) (p : Dns α) (f : α → Dns β)
    (w : DnsWorld) : env.run (p >>= f) w = env.run (f (env.run p w).1) (env.run p w).2 :=
  Program.run_bind p f w

/-! ## Lookups -/

inductive ResolveSource
  | cache
  | server (addr : SocketAddr)
deriving DecidableEq, Repr

structure ResolveResult where
  ip : Ipv4Addr
  source : ResolveSource
deriving DecidableEq, Repr

structure LookupResolveResult where
  aliases : List String
  ips : List Ipv4Addr
  source : ResolveSource
deriving DecidableEq, Repr

def cacheGet (key : CacheKey) : Dns (Option Ipv4Addr) := perform (DnsOp.cacheGet key)

def cachePut (key : CacheKey) (ip : Ipv4Addr) : Dns Unit := perform (DnsOp.cachePut key ip)

def lookupCacheGet (key : String) : Dns (Option LookupAnswer) :=
  perform (DnsOp.lookupCacheGet key)

def lookupCachePut (key : String) (answer : LookupAnswer) : Dns Unit :=
  perform (DnsOp.lookupCachePut key answer)

def queryServerMessage (asker : Asker) (host : String) (server : SocketAddr) :
    Dns (Except EcError Message) :=
  perform (DnsOp.query asker host server)

def lookupHost (host : String) : Dns (Except String (List IpAddr)) :=
  perform (DnsOp.lookupHost host)

def clearCache : Dns Unit := do
  perform DnsOp.clearCache
  perform DnsOp.clearLookupCache

/-- The loop over the servers that both lookups have: the first server that answers decides, and
the error of the last one is quoted when none does. -/
def tryServers {α : Type} (attempt : SocketAddr → Dns (Except EcError α)) (host : String) :
    ℕ → Option String → List SocketAddr → Dns (Except EcError α)
  | tried, lastError, [] =>
    if tried = 0 then
      pure (.error (.runtime "dnsserver lookup has no valid server address"))
    else
      pure (.error (.runtime ("dnsserver lookup failed for " ++ host ++ "; "
        ++ lastError.getD "no response")))
  | tried, _, server :: servers => do
    match ← attempt server with
    | .ok a => pure (.ok a)
    | .error err =>
      tryServers attempt host (tried + 1) (some (server.display ++ ": " ++ conciseError err))
        servers

def queryServer (key : CacheKey) (host : String) (server : SocketAddr) :
    Dns (Except EcError Ipv4Addr) := do
  let message ← queryServerMessage (.first key) host server
  pure (message.bind (extractFirstIpv4 · server))

/-- The body of the loop of `resolve_first_ipv4`. -/
def tryFirstIpv4 (key : CacheKey) (host : String) (server : SocketAddr) :
    Dns (Except EcError ResolveResult) := do
  match ← queryServer key host server with
  | .ok ip => do
    cachePut key ip
    pure (.ok ⟨ip, .server server⟩)
  | .error err => pure (.error err)

def resolveFirstIpv4 (rcId : ℤ) (host : String) (dnsServers : List SocketAddr) :
    Dns (Except EcError ResolveResult) := do
  let key : CacheKey := ⟨rcId, host⟩
  match ← cacheGet key with
  | some ip => pure (.ok ⟨ip, .cache⟩)
  | none => tryServers (tryFirstIpv4 key host) host 0 none dnsServers

/-- The body of the loop of `resolve_lookup`. -/
def tryLookup (key host : String) (server : SocketAddr) :
    Dns (Except EcError LookupResolveResult) := do
  match ← queryServerMessage (.lookup key) host server with
  | .ok message => do
    let aliases := extractCnameAliases message
    let ips := extractIpv4s message
    lookupCachePut key ⟨aliases, ips⟩
    pure (.ok ⟨aliases, ips, .server server⟩)
  | .error err => pure (.error err)

def resolveLookup (host : String) (dnsServers : List SocketAddr) :
    Dns (Except EcError LookupResolveResult) := do
  let key := normalizeDnsName host
  match ← lookupCacheGet key with
  | some answer => pure (.ok ⟨answer.aliases, answer.ips, .cache⟩)
  | none => tryServers (tryLookup key host) host 0 none dnsServers

/-- `str::to_socket_addrs`: the text of a socket address denotes itself, and anything else is cut at
its last colon and given to the operating system. -/
def toSocketAddrs (text : String) : Dns (Except String (List SocketAddr)) :=
  match SocketAddr.fromStr text with
  | some addr => pure (.ok [addr])
  | none =>
    match rsplitOnce text ':' with
    | none => pure (.error "invalid socket address")
    | some (host, port) =>
      match parseUnsigned 65535 port with
      | none => pure (.error "invalid port value")
      | some port => do
        let ips ← lookupHost host
        pure (ips.map (·.map (SocketAddr.new · (UInt16.ofNat port))))

/-- The first IPv4 entry of a list of socket addresses. -/
def firstV4 (addrs : List SocketAddr) : Option SocketAddrV4 :=
  addrs.findSome? fun
    | .v4 addr => some addr
    | .v6 _ => none

def resolveDomainToIpv4 (domain : String) : Dns (Option Ipv4Addr) := do
  let addrs ← toSocketAddrs (domain ++ ":0")
  pure (addrs.toOption.bind fun addrs ↦ (firstV4 addrs).map (·.ip))

/-- `resolve_ipv4_target`, with which the netstack resolves a dial string. -/
def resolveIpv4Target (target : String) : Dns (Except EcError SocketAddrV4) := do
  match ← toSocketAddrs target with
  | .error e => pure (.error (.runtime ("resolve target failed: " ++ target ++ ": " ++ e)))
  | .ok addrs =>
    match firstV4 addrs with
    | some addr => pure (.ok addr)
    | none => pure (.error (.runtime ("no ipv4 address resolved for " ++ target)))

end ShiepPipeline
