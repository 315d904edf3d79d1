import ShiepPipeline.Concurrency.Monitor
import ShiepPipeline.Routing.Matcher

/-!
# The router

The one route mode of the process, behind its mutex. Clients plan targets and install route tables
from any number of threads. All of it happens while the mutex is held, including every access to the
DNS caches and every query, so the router is a monitor whose guarded value is the mode and whose
world is the state of the resolver.

`caches_fresh` says what that buys: an answer that a lookup gives from a cache was fetched under the
mode in force and stored less than the time to live before. The time counts from the store, so the
query itself may be older. The rule behind it is `CacheUse`. A fetched value is stored before
anything else happens, and an install has cleared both caches when it sets the mode.
-/

open Net Str Program TtlCache

namespace ShiepPipeline

/-! ## The mode and the requests -/

inductive RouteMode
  | unavailable
  | matcher (m : RouteMatcher)
  | tunnelFallback

def routerNotInitialized : String := "route matcher is not initialized"

def planFromMode (mode : RouteMode) (host : String) (port : UInt16) (flowProto : FlowProto) :
    Dns (Except EcError RoutePlan) :=
  match mode with
  | .matcher m => do
    let plan ← m.plan host port flowProto
    pure (.ok plan)
  | .tunnelFallback =>
    pure (.ok (.remote (hostPort host port) 0 "route-table-unavailable" .routeTableUnavailable))
  | .unavailable => pure (.error (.runtime routerNotInitialized))

/-- What a client may ask of the router. -/
inductive RouterRequest
  | planTarget (host : String) (port : UInt16) (flowProto : FlowProto)
  | installRouteTable (table : RouteTable) (extraIps : List String)
  | installTunnelFallback

/-- What a client does while it holds the mutex, and the mode it leaves behind. -/
def routerBody : RouterRequest → RouteMode → Dns RouteMode
  | .planTarget host port flowProto, mode => do
    let _ ← planFromMode mode host port flowProto
    pure mode
  | .installRouteTable table extraIps, _ => do
    clearCache
    pure (.matcher (.fromTable table extraIps))
  | .installTunnelFallback, _ => do
    clearCache
    pure .tunnelFallback

def RouterRequest.installs : RouterRequest → Bool
  | .planTarget .. => false
  | .installRouteTable .. | .installTunnelFallback => true

/-! ## The histories of the caches -/

/-- What `query_server` makes of an answer. -/
def fetchedFirst (answer : Except EcError Message) : Option Ipv4Addr :=
  answer.toOption.bind fun message ↦ (extractIpv4s message).head?

/-- What `resolve_lookup` makes of an answer. -/
def fetchedLookup (answer : Except EcError Message) : Option LookupAnswer :=
  answer.toOption.map fun message ↦ ⟨extractCnameAliases message, extractIpv4s message⟩

section History

variable {Client : Type}

abbrev RouterEvent (Client : Type) := Monitor.Event Client RouterRequest DnsOp RouteMode DnsWorld

/-- What an event is to the cache of first addresses. An install counts as a clearing from the
moment it has the mutex, and a successful query as a fetch if it is for the host of its key. -/
def firstEvent (env : DnsEnv) : RouterEvent Client → Option (TtlCache.Event CacheKey Ipv4Addr)
  | .lock _ request => if request.installs then some .cleared else none
  | .call _ (.query (.first key) host server) w =>
    if host = key.host then
      (fetchedFirst (env.handle (.query (.first key) host server) w).1).map
        (.fetched key · (env.clock w.tick))
    else none
  | .call _ (.cachePut key ip) w => some (.stored key ip (env.clock w.tick))
  | _ => none

/-- What an event is to the cache of whole answers, whose keys are normalised names. -/
def lookupEvent (env : DnsEnv) : RouterEvent Client → Option (TtlCache.Event String LookupAnswer)
  | .lock _ request => if request.installs then some .cleared else none
  | .call _ (.query (.lookup key) host server) w =>
    if normalizeDnsName host = key then
      (fetchedLookup (env.handle (.query (.lookup key) host server) w).1).map
        (.fetched key · (env.clock w.tick))
    else none
  | .call _ (.lookupCachePut key answer) w => some (.stored key answer (env.clock w.tick))
  | _ => none

def firstHistory (env : DnsEnv) (t : List (RouterEvent Client)) :
    List (TtlCache.Event CacheKey Ipv4Addr) :=
  t.filterMap (firstEvent env)

def lookupHistory (env : DnsEnv) (t : List (RouterEvent Client)) :
    List (TtlCache.Event String LookupAnswer) :=
  t.filterMap (lookupEvent env)

variable {env : DnsEnv} {t : List (RouterEvent Client)} {e : RouterEvent Client}

theorem firstHistory_of_none (h : firstEvent env e = none) :
    firstHistory env (t ++ [e]) = firstHistory env t := by
  simp [firstHistory, h]

theorem firstHistory_of_some {x : TtlCache.Event CacheKey Ipv4Addr}
    (h : firstEvent env e = some x) :
    firstHistory env (t ++ [e]) = firstHistory env t ++ [x] := by
  simp [firstHistory, h]

theorem lookupHistory_of_none (h : lookupEvent env e = none) :
    lookupHistory env (t ++ [e]) = lookupHistory env t := by
  simp [lookupHistory, h]

theorem lookupHistory_of_some {x : TtlCache.Event String LookupAnswer}
    (h : lookupEvent env e = some x) :
    lookupHistory env (t ++ [e]) = lookupHistory env t ++ [x] := by
  simp [lookupHistory, h]

end History

/-! ## The use of the caches -/

/-- Where the client inside is in its use of the caches: nothing to do, a fetched value still to be
stored, or in an install, with the caches it has cleared. -/
inductive CacheUse
  | idle
  | first (key : CacheKey) (ip : Ipv4Addr)
  | lookup (key : String) (answer : LookupAnswer)
  | installing (clearedFirst clearedLookup : Bool)

namespace CacheUse

/-- A query is for the host of its key. What it brings is stored under that key and nothing else is
done in between. Only an install clears, and it does nothing but clear. -/
def allowed : CacheUse → DnsOp → Prop
  | .idle, .query (.first key) host _ => host = key.host
  | .idle, .query (.lookup key) host _ => normalizeDnsName host = key
  | .idle, .cacheGet _ | .idle, .lookupCacheGet _ | .idle, .lookupHost _ => True
  | .first key ip, .cachePut key' ip' => key' = key ∧ ip' = ip
  | .lookup key answer, .lookupCachePut key' answer' => key' = key ∧ answer' = answer
  | .installing .., .clearCache | .installing .., .clearLookupCache => True
  | _, _ => False

def next : CacheUse → (op : DnsOp) → op.Ans → CacheUse
  | _, .query (.first key) _ _, answer => (fetchedFirst answer).elim .idle (.first key)
  | _, .query (.lookup key) _ _, answer => (fetchedLookup answer).elim .idle (.lookup key)
  | .installing _ clearedLookup, .clearCache, _ => .installing true clearedLookup
  | .installing clearedFirst _, .clearLookupCache, _ => .installing clearedFirst true
  | _, _, _ => .idle

def enter (request : RouterRequest) : CacheUse :=
  if request.installs then .installing false false else .idle

/-- A client leaves nothing to be stored, and it has cleared both caches if it sets the mode. -/
def Post (mode mode' : RouteMode) (d : CacheUse) : Prop :=
  d = .idle ∧ mode' = mode ∨ d = .installing true true

section Inv

variable {Client : Type}

/-- Both caches agree with their histories, up to a value still to be stored. -/
structure Caches (env : DnsEnv) (first : Option (CacheKey × Ipv4Addr))
    (lookup : Option (String × LookupAnswer)) (t : List (RouterEvent Client)) (w : DnsWorld) :
    Prop where
  cache : Sound dnsCacheTtl (env.clock w.tick) first (firstHistory env t) w.cache
  lookupCache : Sound dnsCacheTtl (env.clock w.tick) lookup (lookupHistory env t) w.lookupCache

/-- In an install the history is ahead of a cache until the cache is cleared. -/
def Inv (env : DnsEnv) : CacheUse → List (RouterEvent Client) → DnsWorld → Prop
  | .idle, t, w => Caches env none none t w
  | .first key ip, t, w => Caches env (some (key, ip)) none t w
  | .lookup key answer, t, w => Caches env none (some (key, answer)) t w
  | .installing clearedFirst clearedLookup, _, w =>
    (clearedFirst = true → ∀ key, w.cache.entries key = none)
      ∧ (clearedLookup = true → ∀ key, w.lookupCache.entries key = none)

end Inv

end CacheUse

/-- A program that obeys the rule from rest to rest. -/
abbrev Disciplined {α : Type} (p : Dns α) : Prop :=
  Obeys CacheUse.allowed CacheUse.next (fun _ d ↦ d = .idle) .idle p

theorem Disciplined.bind {α β : Type} {p : Dns α} {f : α → Dns β} (hp : Disciplined p)
    (hf : ∀ a, Disciplined (f a)) : Disciplined (p >>= f) :=
  Obeys.bind hp fun a d hd ↦ by
    obtain rfl : d = .idle := hd
    exact hf a

theorem disciplined_pure {α : Type} (a : α) : Disciplined (pure a) := obeys_pure rfl

theorem disciplined_tryServers {α : Type} {attempt : SocketAddr → Dns (Except EcError α)}
    (h : ∀ server, Disciplined (attempt server)) (host : String) (tried : ℕ)
    (lastError : Option String) (servers : List SocketAddr) :
    Disciplined (tryServers attempt host tried lastError servers) := by
  induction servers generalizing tried lastError with
  | nil =>
    rw [tryServers]
    split_ifs <;> exact disciplined_pure _
  | cons server servers ih =>
    rw [tryServers]
    refine (h server).bind fun answer ↦ ?_
    cases answer with
    | ok a => exact disciplined_pure _
    | error err => exact ih _ _

/-- A query that succeeds is followed by the store of what it fetched. -/
theorem disciplined_tryFirstIpv4 {key : CacheKey} {host : String} (hkey : host = key.host)
    (server : SocketAddr) : Disciplined (tryFirstIpv4 key host server) := by
  refine obeys_perform_bind hkey fun answer ↦ ?_
  cases answer with
  | error err => exact obeys_pure rfl
  | ok message =>
    have hnext : CacheUse.next .idle (.query (.first key) host server) (.ok message)
        = (extractIpv4s message).head?.elim .idle (.first key) := rfl
    rw [hnext]
    cases hips : extractIpv4s message with
    | nil =>
      have hfirst : extractFirstIpv4 message server
          = .error (.runtime ("dns no A answer from " ++ server.display)) := by
        rw [extractFirstIpv4, hips]
      simp only [Except.bind, hfirst]
      exact obeys_pure rfl
    | cons ip ips =>
      have hfirst : extractFirstIpv4 message server = .ok ip := by rw [extractFirstIpv4, hips]
      simp only [Except.bind, hfirst]
      exact obeys_perform_bind ⟨rfl, rfl⟩ fun _ ↦ obeys_pure rfl

theorem disciplined_tryLookup {key host : String} (hkey : normalizeDnsName host = key)
    (server : SocketAddr) : Disciplined (tryLookup key host server) := by
  refine obeys_perform_bind hkey fun answer ↦ ?_
  cases answer with
  | error err => exact obeys_pure rfl
  | ok message => exact obeys_perform_bind ⟨rfl, rfl⟩ fun _ ↦ obeys_pure rfl

theorem disciplined_resolveFirstIpv4 (rcId : ℤ) (host : String) (dnsServers : List SocketAddr) :
    Disciplined (resolveFirstIpv4 rcId host dnsServers) := by
  refine obeys_perform_bind trivial fun cached ↦ ?_
  cases cached with
  | some ip => exact disciplined_pure _
  | none => exact disciplined_tryServers (disciplined_tryFirstIpv4 rfl) host 0 none dnsServers

theorem disciplined_resolveLookup (host : String) (dnsServers : List SocketAddr) :
    Disciplined (resolveLookup host dnsServers) := by
  refine obeys_perform_bind trivial fun cached ↦ ?_
  cases cached with
  | some answer => exact disciplined_pure _
  | none => exact disciplined_tryServers (disciplined_tryLookup rfl) host 0 none dnsServers

theorem disciplined_resolveDomainToIpv4 (domain : String) :
    Disciplined (resolveDomainToIpv4 domain) := by
  refine Disciplined.bind ?_ fun addrs ↦ disciplined_pure _
  rw [toSocketAddrs]
  repeat' split
  · exact disciplined_pure _
  · exact disciplined_pure _
  · exact disciplined_pure _
  · exact obeys_perform_bind trivial fun _ ↦ obeys_pure rfl

/-! ## Planning obeys the rule -/

namespace RouteMatcher

variable (m : RouteMatcher) (host : String) (port : UInt16) (flowProto : FlowProto)

theorem disciplined_planRemoteWithRule (rule : CompiledRule) (target : TargetKind) :
    Disciplined (m.planRemoteWithRule host port rule target) := by
  cases target with
  | ipv4 ip => exact disciplined_pure _
  | domain domain =>
    rw [planRemoteWithRule]
    split
    · exact disciplined_pure _
    · split
      · exact disciplined_pure _
      · refine (disciplined_resolveFirstIpv4 _ _ _).bind fun resolved ↦ ?_
        cases resolved <;> exact disciplined_pure _

theorem disciplined_planFromCnameAliases (aliases : List String) :
    Disciplined (m.planFromCnameAliases host port flowProto aliases) := by
  rw [planFromCnameAliases_eq]
  split
  · refine Disciplined.bind ?_ fun plan ↦ disciplined_pure _
    refine (m.disciplined_planRemoteWithRule host port _ _).bind fun plan ↦ ?_
    cases plan <;> exact disciplined_pure _
  · exact disciplined_pure _

theorem disciplined_planDnsserverDerivedRules (domain : String) :
    Disciplined (m.planDnsserverDerivedRules host port flowProto domain) := by
  rw [planDnsserverDerivedRules]
  split
  · exact disciplined_pure _
  · refine (disciplined_resolveLookup _ _).bind fun resolved ↦ ?_
    cases resolved with
    | error err => exact disciplined_pure _
    | ok resolved =>
      refine (m.disciplined_planFromCnameAliases host port flowProto _).bind fun plan ↦ ?_
      cases plan <;> exact disciplined_pure _

theorem disciplined_planViaDomainIpResolution (domain : String) :
    Disciplined (m.planViaDomainIpResolution host port flowProto domain) := by
  refine (disciplined_resolveDomainToIpv4 domain).bind fun ip ↦ ?_
  cases ip with
  | none => exact disciplined_pure _
  | some ip =>
    dsimp only
    split <;> exact disciplined_pure _

theorem disciplined_firstPlan {planners : List (Dns (Option RoutePlan))}
    (h : ∀ planner ∈ planners, Disciplined planner) : Disciplined (firstPlan planners) := by
  induction planners with
  | nil => exact disciplined_pure _
  | cons planner planners ih =>
    refine (h planner List.mem_cons_self).bind fun plan ↦ ?_
    cases plan with
    | none => exact ih fun planner' hmem ↦ h planner' (List.mem_cons_of_mem planner hmem)
    | some plan => exact disciplined_pure _

theorem disciplined_plan : Disciplined (m.plan host port flowProto) := by
  rw [plan]
  cases m.findFirstMatch port flowProto (parseTarget host) with
  | some rule => exact m.disciplined_planRemoteWithRule host port rule _
  | none =>
    have hdomain : ∀ {planner : String → Dns (Option RoutePlan)},
        (∀ domain, Disciplined (planner domain)) →
          Disciplined ((parseTarget host).onDomain planner) := by
      intro planner h
      cases parseTarget host with
      | domain domain => exact h domain
      | ipv4 ip => exact disciplined_pure _
    dsimp only
    refine Disciplined.bind (disciplined_firstPlan ?_) fun plan ↦ disciplined_pure _
    simp only [List.forall_mem_cons]
    exact ⟨hdomain fun domain ↦ disciplined_pure _, disciplined_pure _,
      hdomain (m.disciplined_planDnsserverDerivedRules host port flowProto),
      hdomain (m.disciplined_planViaDomainIpResolution host port flowProto),
      List.forall_mem_nil _⟩

end RouteMatcher

theorem disciplined_planFromMode (mode : RouteMode) (host : String) (port : UInt16)
    (flowProto : FlowProto) : Disciplined (planFromMode mode host port flowProto) := by
  cases mode with
  | matcher m =>
    dsimp only [planFromMode]
    exact (m.disciplined_plan host port flowProto).bind fun plan ↦ disciplined_pure _
  | unavailable | tunnelFallback => exact disciplined_pure _

theorem obeys_routerBody (request : RouterRequest) (mode : RouteMode) :
    Obeys CacheUse.allowed CacheUse.next (CacheUse.Post mode) (.enter request)
      (routerBody request mode) := by
  cases request with
  | planTarget host port flowProto =>
    refine Obeys.bind (disciplined_planFromMode mode host port flowProto) fun _ d hd ↦ ?_
    exact obeys_pure (.inl ⟨hd, rfl⟩)
  | installRouteTable | installTunnelFallback =>
    exact .call trivial fun _ ↦ .call trivial fun _ ↦ .done (.inr rfl)

/-! ## The caches under the rule -/

section Caches

variable {Client : Type} {env : DnsEnv} {t : List (RouterEvent Client)} {w : DnsWorld}

theorem DnsEnv.tick_handle (env : DnsEnv) (op : DnsOp) (w : DnsWorld) :
    (env.handle op w).2.tick = w.tick + 1 := by
  cases op <;> rfl

theorem CacheUse.Caches.cache_silent {first : Option (CacheKey × Ipv4Addr)}
    {lookup : Option (String × LookupAnswer)} (h : CacheUse.Caches env first lookup t w)
    {e : RouterEvent Client} (he : firstEvent env e = none) :
    Sound dnsCacheTtl (env.clock w.tick) first (firstHistory env (t ++ [e])) w.cache := by
  rw [firstHistory_of_none he]
  exact h.cache

theorem CacheUse.Caches.lookupCache_silent {first : Option (CacheKey × Ipv4Addr)}
    {lookup : Option (String × LookupAnswer)} (h : CacheUse.Caches env first lookup t w)
    {e : RouterEvent Client} (he : lookupEvent env e = none) :
    Sound dnsCacheTtl (env.clock w.tick) lookup (lookupHistory env (t ++ [e])) w.lookupCache := by
  rw [lookupHistory_of_none he]
  exact h.lookupCache

/-- It is enough that a call leaves the caches in order at the time it was made. -/
theorem CacheUse.Caches.call (hclock : Monotone env.clock) {c : Client} {op : DnsOp}
    {first : Option (CacheKey × Ipv4Addr)} {lookup : Option (String × LookupAnswer)}
    (hfirst : Sound dnsCacheTtl (env.clock w.tick) first (firstHistory env (t ++ [.call c op w]))
      (env.handle op w).2.cache)
    (hlookup : Sound dnsCacheTtl (env.clock w.tick) lookup (lookupHistory env (t ++ [.call c op w]))
      (env.handle op w).2.lookupCache) :
    CacheUse.Caches env first lookup (t ++ [.call c op w]) (env.handle op w).2 := by
  have hle : env.clock w.tick ≤ env.clock (env.handle op w).2.tick :=
    hclock (by rw [env.tick_handle]; omega)
  exact ⟨hfirst.mono hle, hlookup.mono hle⟩

/-- A query for a first address that brings one owes the cache a store. -/
theorem CacheUse.Caches.query_first (hclock : Monotone env.clock) {c : Client} {key : CacheKey}
    {host : String} {server : SocketAddr} (hkey : host = key.host)
    (h : CacheUse.Caches env none none t w) :
    (CacheUse.next .idle (.query (.first key) host server)
      (env.handle (.query (.first key) host server) w).1).Inv env
        (t ++ [.call c (.query (.first key) host server) w])
        (env.handle (.query (.first key) host server) w).2 := by
  have hthis : firstEvent env (.call c (.query (.first key) host server) w)
      = (fetchedFirst (env.handle (.query (.first key) host server) w).1).map
        (.fetched key · (env.clock w.tick)) := by rw [firstEvent, if_pos hkey]
  rw [CacheUse.next]
  cases hanswer : fetchedFirst (env.handle (.query (.first key) host server) w).1 with
  | none =>
    rw [hanswer] at hthis
    exact CacheUse.Caches.call hclock (h.cache_silent hthis) (h.lookupCache_silent rfl)
  | some ip =>
    rw [hanswer] at hthis
    refine CacheUse.Caches.call hclock ?_ (h.lookupCache_silent rfl)
    rw [firstHistory_of_some hthis]
    exact h.cache.fetch key ip

/-- A query for a whole answer that succeeds owes the cache a store. -/
theorem CacheUse.Caches.query_lookup (hclock : Monotone env.clock) {c : Client} {key host : String}
    {server : SocketAddr} (hkey : normalizeDnsName host = key)
    (h : CacheUse.Caches env none none t w) :
    (CacheUse.next .idle (.query (.lookup key) host server)
      (env.handle (.query (.lookup key) host server) w).1).Inv env
        (t ++ [.call c (.query (.lookup key) host server) w])
        (env.handle (.query (.lookup key) host server) w).2 := by
  have hthis : lookupEvent env (.call c (.query (.lookup key) host server) w)
      = (fetchedLookup (env.handle (.query (.lookup key) host server) w).1).map
        (.fetched key · (env.clock w.tick)) := by rw [lookupEvent, if_pos hkey]
  rw [CacheUse.next]
  cases hanswer : fetchedLookup (env.handle (.query (.lookup key) host server) w).1 with
  | none =>
    rw [hanswer] at hthis
    exact CacheUse.Caches.call hclock (h.cache_silent rfl) (h.lookupCache_silent hthis)
  | some answer =>
    rw [hanswer] at hthis
    refine CacheUse.Caches.call hclock (h.cache_silent rfl) ?_
    rw [lookupHistory_of_some hthis]
    exact h.lookupCache.fetch key answer

/-- One allowed call keeps the caches in agreement with their histories. -/
theorem CacheUse.Inv.call (hclock : Monotone env.clock) {d : CacheUse} {op : DnsOp} {c : Client}
    (hallowed : d.allowed op) (h : d.Inv env t w) :
    (d.next op (env.handle op w).1).Inv env (t ++ [.call c op w]) (env.handle op w).2 := by
  cases d with
  | idle =>
    cases op with
    | clearCache | clearLookupCache | cachePut | lookupCachePut => exact hallowed.elim
    | cacheGet key =>
      exact CacheUse.Caches.call hclock ((h.cache_silent rfl).get key) (h.lookupCache_silent rfl)
    | lookupCacheGet key =>
      exact CacheUse.Caches.call hclock (h.cache_silent rfl) ((h.lookupCache_silent rfl).get key)
    | lookupHost host =>
      exact CacheUse.Caches.call hclock (h.cache_silent rfl) (h.lookupCache_silent rfl)
    | query asker host server =>
      cases asker with
      | first key => exact CacheUse.Caches.query_first hclock hallowed h
      | lookup key => exact CacheUse.Caches.query_lookup hclock hallowed h
  | first key ip =>
    cases op with
    | cachePut key' ip' =>
      obtain ⟨rfl, rfl⟩ := hallowed
      refine CacheUse.Caches.call hclock ?_ (h.lookupCache_silent rfl)
      rw [firstHistory_of_some rfl]
      exact h.cache.put
    | _ => exact hallowed.elim
  | lookup key answer =>
    cases op with
    | lookupCachePut key' answer' =>
      obtain ⟨rfl, rfl⟩ := hallowed
      refine CacheUse.Caches.call hclock (h.cache_silent rfl) ?_
      rw [lookupHistory_of_some rfl]
      exact h.lookupCache.put
    | _ => exact hallowed.elim
  | installing clearedFirst clearedLookup =>
    cases op with
    | clearCache => exact ⟨fun _ _ ↦ rfl, h.2⟩
    | clearLookupCache => exact ⟨h.1, fun _ _ ↦ rfl⟩
    | _ => exact hallowed.elim

/-- The router as a monitor, with the rule for the caches. -/
def cacheDiscipline (Client : Type) (hclock : Monotone env.clock) :
    Monitor.Discipline Client routerBody env.handle CacheUse where
  allowed := CacheUse.allowed
  next := CacheUse.next
  idle := .idle
  enter := .enter
  post := CacheUse.Post
  inv := CacheUse.Inv env
  obeys := obeys_routerBody
  lock t w c request h := by
    cases request with
    | planTarget host port flowProto => exact ⟨h.cache_silent rfl, h.lookupCache_silent rfl⟩
    | installRouteTable | installTunnelFallback => exact ⟨nofun, nofun⟩
  call _ _ _ _ _ hallowed hinv := hinv.call hclock hallowed
  unlock _ _ d t w c hpost hinv := by
    obtain ⟨rfl, -⟩ | rfl := hpost
    · exact ⟨hinv.cache_silent rfl, hinv.lookupCache_silent rfl⟩
    · exact ⟨sound_of_entries_none _ _ _ (hinv.1 rfl), sound_of_entries_none _ _ _ (hinv.2 rfl)⟩

end Caches

/-! ## Failed lookups -/

section Failure

variable {env : DnsEnv} {w : DnsWorld}

/-- What the caches hold, apart from the query ids and the tick. -/
def DnsWorld.SameEntries (w w' : DnsWorld) : Prop :=
  w'.cache.entries = w.cache.entries ∧ w'.lookupCache.entries = w.lookupCache.entries

theorem DnsEnv.sameEntries_query (env : DnsEnv) (w : DnsWorld) (asker : Asker) (host : String)
    (server : SocketAddr) : w.SameEntries (env.handle (.query asker host server) w).2 :=
  ⟨rfl, rfl⟩

theorem DnsWorld.SameEntries.trans {w₁ w₂ w₃ : DnsWorld} (h : w₁.SameEntries w₂)
    (h' : w₂.SameEntries w₃) : w₁.SameEntries w₃ :=
  ⟨h'.1.trans h.1, h'.2.trans h.2⟩

theorem sameEntries_tryFirstIpv4 {key : CacheKey} {host : String} {server : SocketAddr}
    {err : EcError} (h : (env.run (tryFirstIpv4 key host server) w).1 = .error err) :
    w.SameEntries (env.run (tryFirstIpv4 key host server) w).2 := by
  have hsame := env.sameEntries_query w (.first key) host server
  have hquery : env.run (queryServer key host server) w
      = ((env.handle (.query (.first key) host server) w).1.bind (extractFirstIpv4 · server),
        (env.handle (.query (.first key) host server) w).2) := rfl
  rw [tryFirstIpv4, DnsEnv.run_bind, hquery] at h ⊢
  cases hanswer : (env.handle (.query (.first key) host server) w).1.bind
      (extractFirstIpv4 · server) with
  | ok ip =>
    simp only [hanswer] at h
    cases h
  | error e => exact hsame

theorem sameEntries_tryLookup {key host : String} {server : SocketAddr} {err : EcError}
    (h : (env.run (tryLookup key host server) w).1 = .error err) :
    w.SameEntries (env.run (tryLookup key host server) w).2 := by
  have hsame := env.sameEntries_query w (.lookup key) host server
  have hquery : env.run (queryServerMessage (.lookup key) host server) w
      = env.handle (.query (.lookup key) host server) w := rfl
  rw [tryLookup, DnsEnv.run_bind, hquery] at h ⊢
  cases hanswer : (env.handle (.query (.lookup key) host server) w).1 with
  | ok message =>
    simp only [hanswer] at h
    cases h
  | error e => exact hsame

/-- A lookup that fails at every server has stored nothing. -/
theorem sameEntries_tryServers {α : Type} {attempt : SocketAddr → Dns (Except EcError α)}
    (hattempt : ∀ server w err, (env.run (attempt server) w).1 = .error err →
      w.SameEntries (env.run (attempt server) w).2)
    {host : String} {tried : ℕ} {lastError : Option String} {servers : List SocketAddr}
    {err : EcError}
    (h : (env.run (tryServers attempt host tried lastError servers) w).1 = .error err) :
    w.SameEntries (env.run (tryServers attempt host tried lastError servers) w).2 := by
  induction servers generalizing tried lastError w with
  | nil =>
    rw [tryServers]
    split_ifs <;> exact ⟨rfl, rfl⟩
  | cons server servers ih =>
    rw [tryServers, DnsEnv.run_bind] at h ⊢
    cases hrun : (env.run (attempt server) w).1 with
    | ok a =>
      rw [hrun] at h
      exact absurd h (by simp)
    | error e =>
      rw [hrun] at h
      exact (hattempt server w e hrun).trans (ih h)

theorem DnsWorld.SameEntries.live {w w' : DnsWorld} (h : w.SameEntries w') (t : ℕ) :
    w'.cache.live t = w.cache.live t ∧ w'.lookupCache.live t = w.lookupCache.live t := by
  constructor <;> funext key
  · rw [Store.live, h.1, Store.live]
  · rw [Store.live, h.2, Store.live]

/-- **A failed lookup for a rule leaves the live entries alone.** -/
theorem live_of_resolveFirstIpv4_error {rcId : ℤ} {host : String} {servers : List SocketAddr}
    {err : EcError} (h : (env.run (resolveFirstIpv4 rcId host servers) w).1 = .error err) {t : ℕ}
    (ht : env.clock w.tick ≤ t) :
    (env.run (resolveFirstIpv4 rcId host servers) w).2.cache.live t = w.cache.live t
      ∧ (env.run (resolveFirstIpv4 rcId host servers) w).2.lookupCache.live t
        = w.lookupCache.live t := by
  have hget : env.run (cacheGet ⟨rcId, host⟩) w = env.handle (.cacheGet ⟨rcId, host⟩) w := rfl
  rw [resolveFirstIpv4, DnsEnv.run_bind, hget] at h ⊢
  cases hcached : (env.handle (.cacheGet ⟨rcId, host⟩) w).1 with
  | some ip =>
    simp only [hcached] at h
    cases h
  | none =>
    simp only [hcached] at h ⊢
    have hsame := (sameEntries_tryServers (fun server w' err' ↦ sameEntries_tryFirstIpv4) h).live t
    exact ⟨hsame.1.trans (Store.live_get ht _ _), hsame.2⟩

/-- **A failed lookup of a host leaves the live entries alone.** -/
theorem live_of_resolveLookup_error {host : String} {servers : List SocketAddr} {err : EcError}
    (h : (env.run (resolveLookup host servers) w).1 = .error err) {t : ℕ}
    (ht : env.clock w.tick ≤ t) :
    (env.run (resolveLookup host servers) w).2.cache.live t = w.cache.live t
      ∧ (env.run (resolveLookup host servers) w).2.lookupCache.live t = w.lookupCache.live t := by
  have hget : env.run (lookupCacheGet (normalizeDnsName host)) w
      = env.handle (.lookupCacheGet (normalizeDnsName host)) w := rfl
  rw [resolveLookup, DnsEnv.run_bind, hget] at h ⊢
  cases hcached : (env.handle (.lookupCacheGet (normalizeDnsName host)) w).1 with
  | some answer =>
    simp only [hcached] at h
    cases h
  | none =>
    simp only [hcached] at h ⊢
    have hsame := (sameEntries_tryServers (fun server w' err' ↦ sameEntries_tryLookup) h).live t
    exact ⟨hsame.1, hsame.2.trans (Store.live_get ht _ _)⟩

end Failure

/-! ## What the caches serve -/

/-- What every success of an attempt has, a success of the loop has. -/
theorem of_tryServers_eq_ok {env : DnsEnv} {α : Type}
    {attempt : SocketAddr → Dns (Except EcError α)} {P : α → Prop}
    (hattempt : ∀ server w a, (env.run (attempt server) w).1 = .ok a → P a) {host : String}
    {tried : ℕ} {lastError : Option String} {servers : List SocketAddr} {w : DnsWorld} {a : α}
    (h : (env.run (tryServers attempt host tried lastError servers) w).1 = .ok a) : P a := by
  induction servers generalizing tried lastError w with
  | nil =>
    rw [tryServers] at h
    split_ifs at h <;> cases h
  | cons server servers ih =>
    rw [tryServers, DnsEnv.run_bind] at h
    cases hrun : (env.run (attempt server) w).1 with
    | ok b =>
      rw [hrun] at h
      cases h
      exact hattempt server w _ hrun
    | error e =>
      rw [hrun] at h
      exact ih h

section Served

variable {env : DnsEnv} {w : DnsWorld}

theorem source_ne_cache_of_tryFirstIpv4 {key : CacheKey} {host : String} {server : SocketAddr}
    {r : ResolveResult} (h : (env.run (tryFirstIpv4 key host server) w).1 = .ok r) :
    r.source ≠ .cache := by
  rw [tryFirstIpv4, DnsEnv.run_bind] at h
  cases hrun : (env.run (queryServer key host server) w).1 with
  | ok ip =>
    rw [hrun] at h
    cases h
    nofun
  | error e =>
    rw [hrun] at h
    cases h

theorem source_ne_cache_of_tryLookup {key host : String} {server : SocketAddr}
    {r : LookupResolveResult} (h : (env.run (tryLookup key host server) w).1 = .ok r) :
    r.source ≠ .cache := by
  rw [tryLookup, DnsEnv.run_bind] at h
  cases hrun : (env.run (queryServerMessage (.lookup key) host server) w).1 with
  | ok message =>
    rw [hrun] at h
    cases h
    nofun
  | error e =>
    rw [hrun] at h
    cases h

/-- What a lookup for a rule gives from the cache is what the cache gave. -/
theorem get_of_resolveFirstIpv4 {rcId : ℤ} {host : String} {servers : List SocketAddr}
    {ip : Ipv4Addr} (h : (env.run (resolveFirstIpv4 rcId host servers) w).1 = .ok ⟨ip, .cache⟩) :
    (w.cache.get (env.clock w.tick) ⟨rcId, host⟩).1 = some ip := by
  have hget : env.run (cacheGet ⟨rcId, host⟩) w = env.handle (.cacheGet ⟨rcId, host⟩) w := rfl
  rw [resolveFirstIpv4, DnsEnv.run_bind, hget] at h
  cases hcached : (env.handle (.cacheGet ⟨rcId, host⟩) w).1 with
  | some ip' =>
    simp only [hcached] at h
    cases h
    exact hcached
  | none =>
    simp only [hcached] at h
    exact absurd rfl
      (of_tryServers_eq_ok (P := fun r ↦ r.source ≠ .cache)
        (fun _ _ _ ↦ source_ne_cache_of_tryFirstIpv4) h)

/-- What the lookup of a host gives from the cache is what the cache gave. -/
theorem get_of_resolveLookup {host : String} {servers : List SocketAddr} {aliases : List String}
    {ips : List Ipv4Addr}
    (h : (env.run (resolveLookup host servers) w).1 = .ok ⟨aliases, ips, .cache⟩) :
    (w.lookupCache.get (env.clock w.tick) (normalizeDnsName host)).1 = some ⟨aliases, ips⟩ := by
  have hget : env.run (lookupCacheGet (normalizeDnsName host)) w
      = env.handle (.lookupCacheGet (normalizeDnsName host)) w := rfl
  rw [resolveLookup, DnsEnv.run_bind, hget] at h
  cases hcached : (env.handle (.lookupCacheGet (normalizeDnsName host)) w).1 with
  | some answer =>
    simp only [hcached] at h
    cases h
    exact hcached
  | none =>
    simp only [hcached] at h
    exact absurd rfl
      (of_tryServers_eq_ok (P := fun r ↦ r.source ≠ .cache)
        (fun _ _ _ ↦ source_ne_cache_of_tryLookup) h)

end Served

section Run

variable {Client : Type} {env : DnsEnv}

/-- The runs of the router from the start of the process. -/
abbrev RouterRun (env : DnsEnv) (t : List (RouterEvent Client))
    (s : Monitor.State Client DnsOp DnsOp.Ans RouteMode DnsWorld) : Prop :=
  Monitor.Run routerBody env.handle .unavailable .initial t s

variable {t : List (RouterEvent Client)}
  {s : Monitor.State Client DnsOp DnsOp.Ans RouteMode DnsWorld}

theorem holds_of_routerRun (hclock : Monotone env.clock) (hs : RouterRun env t s) :
    (cacheDiscipline Client hclock).Holds t s :=
  Monitor.Discipline.holds_of_run
    ⟨sound_of_entries_none _ _ _ fun _ ↦ rfl, sound_of_entries_none _ _ _ fun _ ↦ rfl⟩ hs

/-- Whoever is about to read a cache finds both in agreement with their histories. -/
theorem caches_of_routerRun (hclock : Monotone env.clock) (hs : RouterRun env t s) {c : Client}
    {op : DnsOp} {next : op.Ans → Dns RouteMode}
    (hop : (∃ key, op = .cacheGet key) ∨ ∃ key, op = .lookupCacheGet key)
    (hinside : s.inside = some (c, .call op next)) :
    CacheUse.Caches env none none t s.world := by
  obtain ⟨d, hallowed, hinv⟩ := (holds_of_routerRun hclock hs).exists_allowed hinside
  obtain ⟨key, rfl⟩ | ⟨key, rfl⟩ := hop
  all_goals
    cases d with
    | idle => exact hinv
    | _ => exact hallowed.elim

/-- What happens when a client makes its requests one after the other, and what is left behind. -/
def serve (env : DnsEnv) (c : Client) (requests : List RouterRequest) :
    List (RouterEvent Client) × RouteMode × DnsWorld :=
  requests.foldl (fun (t, mode, w) request ↦
    let p := routerBody request mode
    (t ++ [.lock c request] ++ (Monitor.callsOf env.handle c p w ++ [.unlock c (env.run p w).1]),
      env.run p w)) ([], .unavailable, .initial)

theorem routerRun_serve (env : DnsEnv) (c : Client) (requests : List RouterRequest) :
    RouterRun env (serve env c requests).1
      ⟨(serve env c requests).2.1, (serve env c requests).2.2, none⟩ := by
  induction requests using List.reverseRecOn with
  | nil => exact .start
  | append_singleton requests request ih =>
    rw [serve, List.foldl_concat]
    exact (ih.step (.lock c request)).finish

/-- A plan leaves the mode alone. -/
theorem run_planTarget (env : DnsEnv) (host : String) (port : UInt16) (flowProto : FlowProto)
    (mode : RouteMode) (w : DnsWorld) :
    (env.run (routerBody (.planTarget host port flowProto) mode) w).1 = mode := by
  simp only [routerBody, DnsEnv.run_bind, DnsEnv.run_pure]

/-- A plan that has to ask the servers for a rule's domain begins with that lookup. -/
theorem exists_routerBody_eq {m : RouteMatcher} {host domain : String} {port : UInt16}
    {flowProto : FlowProto} {rule : CompiledRule}
    (htarget : parseTarget host = .domain domain)
    (hmatch : m.findFirstMatch port flowProto (.domain domain) = some rule)
    (hscoped : m.scopedIp rule.rcId domain = none) (hservers : m.dnsServers.isEmpty = false) :
    ∃ next, routerBody (.planTarget host port flowProto) (.matcher m)
      = resolveFirstIpv4 rule.rcId domain m.dnsServers >>= next := by
  have hplan : ∃ f, m.plan host port flowProto
      = resolveFirstIpv4 rule.rcId domain m.dnsServers >>= f := by
    simp only [RouteMatcher.plan, RouteMatcher.planRemoteWithRule, htarget, hmatch, hscoped,
      hservers]
    exact ⟨_, rfl⟩
  obtain ⟨f, hf⟩ := hplan
  simp only [routerBody, planFromMode, hf, bind_bind]
  exact ⟨_, rfl⟩

/-- **The caches never outlive the route table or the time to live.** In every run of plans and
installs, in any order and from any number of clients, a lookup that answers from a cache gives what
the last successful query for its key brought. No install came between, and the answer was stored
less than the time to live before. The mode changes only when both caches have just been cleared,
and a failed lookup leaves the live entries alone. -/
theorem caches_fresh (hclock : Monotone env.clock) :
    (∀ (t : List (RouterEvent Client)) s, RouterRun env t s →
      (∀ c rcId host servers next ip,
        s.inside = some (c, resolveFirstIpv4 rcId host servers >>= next) →
        (env.run (resolveFirstIpv4 rcId host servers) s.world).1 = .ok ⟨ip, .cache⟩ →
        ∃ asked stored, LastStored (firstHistory env t) ⟨rcId, host⟩ ip asked stored
          ∧ asked ≤ stored ∧ stored ≤ env.clock s.world.tick
          ∧ env.clock s.world.tick < stored + dnsCacheTtl)
      ∧ (∀ c host servers next aliases ips,
        s.inside = some (c, resolveLookup host servers >>= next) →
        (env.run (resolveLookup host servers) s.world).1 = .ok ⟨aliases, ips, .cache⟩ →
        ∃ asked stored,
          LastStored (lookupHistory env t) (normalizeDnsName host) ⟨aliases, ips⟩ asked stored
          ∧ asked ≤ stored ∧ stored ≤ env.clock s.world.tick
          ∧ env.clock s.world.tick < stored + dnsCacheTtl)
      ∧ ∀ e s', Monitor.Step routerBody env.handle s e s' → s'.guarded ≠ s.guarded →
        (∀ key, s'.world.cache.entries key = none) ∧ ∀ key, s'.world.lookupCache.entries key = none)
    ∧ (∀ rcId host servers w err t,
      (env.run (resolveFirstIpv4 rcId host servers) w).1 = .error err → env.clock w.tick ≤ t →
      (env.run (resolveFirstIpv4 rcId host servers) w).2.cache.live t = w.cache.live t
        ∧ (env.run (resolveFirstIpv4 rcId host servers) w).2.lookupCache.live t
          = w.lookupCache.live t)
    ∧ ∀ host servers w err t,
      (env.run (resolveLookup host servers) w).1 = .error err → env.clock w.tick ≤ t →
      (env.run (resolveLookup host servers) w).2.cache.live t = w.cache.live t
        ∧ (env.run (resolveLookup host servers) w).2.lookupCache.live t
          = w.lookupCache.live t := by
  refine ⟨fun t s hs ↦ ⟨?_, ?_, ?_⟩, fun _ _ _ _ _ _ h ht ↦ live_of_resolveFirstIpv4_error h ht,
    fun _ _ _ _ _ h ht ↦ live_of_resolveLookup_error h ht⟩
  · intro c rcId host servers next ip hinside hrun
    have hcaches := caches_of_routerRun hclock hs (.inl ⟨_, rfl⟩) hinside
    exact hcaches.cache.served (get_of_resolveFirstIpv4 hrun)
  · intro c host servers next aliases ips hinside hrun
    have hcaches := caches_of_routerRun hclock hs (.inr ⟨_, rfl⟩) hinside
    exact hcaches.lookupCache.served (get_of_resolveLookup hrun)
  · intro e s' hstep hne
    obtain ⟨d, hinv, ⟨-, hmode⟩ | rfl⟩ := (holds_of_routerRun hclock hs).of_guarded_ne hstep hne
    · exact absurd hmode hne
    · exact ⟨hinv.1 rfl, hinv.2 rfl⟩

end Run

/-- A rule for a domain without a record, and a server to ask. -/
def idsServerTable : RouteTable where
  rules := [⟨205, 0, "Other", "ids", "ids.shiep.edu.cn", ⟨1, 65535⟩⟩]
  dnsServers := ["10.166.1.1"]
  dnsRecords := []

/-- Every server answers the first query with an address, and later ones under the wrong id. -/
def DnsEnv.answering (ip : Ipv4Addr) : DnsEnv :=
  { DnsEnv.offline fun _ ↦ none with
    messageFromVec := fun _ ↦ .ok ⟨1, true, .noError, false, [.a ip]⟩
    udpExchange := fun _ _ _ ↦ .ok [] }

def idsPlan : RouterRequest := .planTarget "ids.shiep.edu.cn" 443 .tcp

/-- What happens until a second plan for the same host takes the mutex, and the world it finds. -/
def idsTrace (env : DnsEnv) : List (RouterEvent ℕ) :=
  (serve env 0 [.installRouteTable idsServerTable [], idsPlan]).1 ++ [.lock 0 idsPlan]

def idsWorld (env : DnsEnv) : DnsWorld :=
  (serve env 0 [.installRouteTable idsServerTable [], idsPlan]).2.2

/-- The lookup that plan begins with. -/
def idsLookup : Dns (Except EcError ResolveResult) :=
  resolveFirstIpv4 205 "ids.shiep.edu.cn" [.v4 ⟨⟨10, 166, 1, 1⟩, 53⟩]

theorem exists_routerRun_ids (env : DnsEnv) :
    ∃ next, RouterRun env (idsTrace env)
      ⟨.matcher (.fromTable idsServerTable []), idsWorld env, some (0, idsLookup >>= next)⟩ := by
  have hs := (routerRun_serve env 0 [.installRouteTable idsServerTable [], idsPlan]).step
    (.lock 0 idsPlan)
  have hmode : (serve env 0 [.installRouteTable idsServerTable [], idsPlan]).2.1
      = .matcher (.fromTable idsServerTable []) := by
    simp only [serve, List.foldl_cons, List.foldl_nil, idsPlan, run_planTarget]
    rfl
  have hservers : (RouteMatcher.fromTable idsServerTable []).dnsServers
      = [.v4 ⟨⟨10, 166, 1, 1⟩, 53⟩] := by
    decide +kernel
  have htarget : parseTarget "ids.shiep.edu.cn" = .domain "ids.shiep.edu.cn" := by decide +kernel
  have hmatch : (RouteMatcher.fromTable idsServerTable []).findFirstMatch 443 .tcp
        (.domain "ids.shiep.edu.cn")
      = some ⟨205, "ids", 0, "Other", .domain "ids.shiep.edu.cn", ⟨1, 65535⟩⟩ := by
    decide +kernel
  obtain ⟨next, hnext⟩ := exists_routerBody_eq htarget hmatch (by decide +kernel)
    (by rw [hservers]; rfl)
  rw [hservers] at hnext
  refine ⟨next, ?_⟩
  rw [idsLookup, ← hnext]
  rwa [hmode] at hs

/-- The second of two equal plans is served what the first one fetched. -/
theorem caches_fresh_ids :
    ∃ (t : List (RouterEvent ℕ)) (s : Monitor.State ℕ DnsOp DnsOp.Ans RouteMode DnsWorld),
      RouterRun (.answering ⟨10, 166, 35, 11⟩) t s
      ∧ firstHistory (.answering ⟨10, 166, 35, 11⟩) t =
        [.cleared, .fetched ⟨205, "ids.shiep.edu.cn"⟩ ⟨10, 166, 35, 11⟩ 3,
          .stored ⟨205, "ids.shiep.edu.cn"⟩ ⟨10, 166, 35, 11⟩ 4]
      ∧ ∃ asked stored, LastStored (firstHistory (.answering ⟨10, 166, 35, 11⟩) t)
          ⟨205, "ids.shiep.edu.cn"⟩ ⟨10, 166, 35, 11⟩ asked stored
        ∧ asked ≤ stored ∧ stored ≤ s.world.tick ∧ s.world.tick < stored + dnsCacheTtl := by
  obtain ⟨next, hs⟩ := exists_routerRun_ids (.answering ⟨10, 166, 35, 11⟩)
  have hanswer : ((DnsEnv.answering ⟨10, 166, 35, 11⟩).run idsLookup
      (idsWorld (.answering ⟨10, 166, 35, 11⟩))).1 = .ok ⟨⟨10, 166, 35, 11⟩, .cache⟩ := by
    decide +kernel
  exact ⟨_, _, hs, by decide +kernel,
    ((caches_fresh monotone_id).1 _ _ hs).1 0 205 "ids.shiep.edu.cn" _ next _ rfl hanswer⟩

/-- The clock passes a second while the first query waits, and almost the time to live after. -/
def DnsEnv.slow (ip : Ipv4Addr) : DnsEnv :=
  { DnsEnv.answering ip with
    clock := fun tick ↦ if tick ≤ 3 then 0 else if tick = 4 then 1000 else 300500 }

/-- The time to live does not count from the query: an answer can be served from the cache when its
query is older than that. -/
theorem caches_fresh_slow :
    Monotone (DnsEnv.slow ⟨10, 166, 35, 11⟩).clock
    ∧ ∃ (t : List (RouterEvent ℕ)) (s : Monitor.State ℕ DnsOp DnsOp.Ans RouteMode DnsWorld),
      RouterRun (.slow ⟨10, 166, 35, 11⟩) t s
      ∧ (∃ next, s.inside = some (0,
          resolveFirstIpv4 205 "ids.shiep.edu.cn" [.v4 ⟨⟨10, 166, 1, 1⟩, 53⟩] >>= next))
      ∧ ((DnsEnv.slow ⟨10, 166, 35, 11⟩).run
          (resolveFirstIpv4 205 "ids.shiep.edu.cn" [.v4 ⟨⟨10, 166, 1, 1⟩, 53⟩]) s.world).1
        = .ok ⟨⟨10, 166, 35, 11⟩, .cache⟩
      ∧ ∀ asked stored, LastStored (firstHistory (.slow ⟨10, 166, 35, 11⟩) t)
          ⟨205, "ids.shiep.edu.cn"⟩ ⟨10, 166, 35, 11⟩ asked stored →
        asked + dnsCacheTtl < (DnsEnv.slow ⟨10, 166, 35, 11⟩).clock s.world.tick := by
  obtain ⟨next, hs⟩ := exists_routerRun_ids (.slow ⟨10, 166, 35, 11⟩)
  have hanswer : ((DnsEnv.slow ⟨10, 166, 35, 11⟩).run idsLookup
      (idsWorld (.slow ⟨10, 166, 35, 11⟩))).1 = .ok ⟨⟨10, 166, 35, 11⟩, .cache⟩ := by
    decide +kernel
  have hhistory : firstHistory (.slow ⟨10, 166, 35, 11⟩) (idsTrace (.slow ⟨10, 166, 35, 11⟩))
      = [.cleared, .fetched ⟨205, "ids.shiep.edu.cn"⟩ ⟨10, 166, 35, 11⟩ 0,
        .stored ⟨205, "ids.shiep.edu.cn"⟩ ⟨10, 166, 35, 11⟩ 1000] := by
    decide +kernel
  have hlate : dnsCacheTtl < (DnsEnv.slow ⟨10, 166, 35, 11⟩).clock
      (idsWorld (.slow ⟨10, 166, 35, 11⟩)).tick := by
    decide +kernel
  refine ⟨fun a b hab ↦ ?_, _, _, hs, ⟨next, rfl⟩, hanswer, fun asked stored hlast ↦ ?_⟩
  · simp only [DnsEnv.slow]
    split_ifs <;> omega
  · have hmem := hlast.fetched_mem
    rw [hhistory] at hmem
    obtain rfl : asked = 0 := by simpa using hmem
    rw [Nat.zero_add]
    exact hlate

end ShiepPipeline
