import ShiepPipeline.Concurrency.Fallible
import ShiepPipeline.Concurrency.Shared
import ShiepPipeline.Endpoint
import ShiepPipeline.Tunnel.StreamOpen
import ShiepPipeline.Tunnel.Token

/-!
# Starting the tunnel and the netstack

The process has one sender into the tunnel, one receiver out of it and one netstack, each in a
static that is set once. The receiver waits behind a lock until somebody takes it. Any number of
threads may start the tunnel, start the netstack or ask for the receiver, at the same time.

`runtime_wired` says that whatever they do, the threads that run belong to one tunnel and one
netstack, and the receiver is given away at most once. `runtime_returns` says that none of them
waits for ever.
-/

open Program Fallible

namespace ShiepPipeline

/-! ## The statics -/

/-- The threads that are spawned. A channel is named by a number, and so is a control channel. -/
inductive Worker
  | rx (channel : ℕ)
  | tx (channel : ℕ)
  | commandHeartbeat
  | forwarder (channel control : ℕ)
  | netstackLoop (control : ℕ)
deriving DecidableEq, Repr

structure RuntimeMemory (Tid : Type) where
  /-- `TX_PACKET_SENDER`. -/
  sender : Option ℕ
  /-- `RX_PACKET_RECEIVER`, from when on it has been initialized. -/
  receiver : Option (Option ℕ)
  /-- Who holds the lock of the receiver. -/
  holder : Option Tid
  /-- `CONTROL_TX`. -/
  control : Option ℕ
  tunnelThreads : List Worker
  netstackThreads : List Worker

inductive RuntimeOp
  | clearFatalReason
  | openStream (profile : StreamProfile)
  | initReceiver
  | receiverExists
  | lockReceiver
  | unlockReceiver
  | readReceiver
  | writeReceiver (channel : ℕ)
  | takeReceiver
  | getSender
  | setSender (channel : ℕ)
  | getControl
  | setControl (control : ℕ)
  | spawnTunnel (w : Worker)
  | spawnNetstack (w : Worker)
deriving DecidableEq

abbrev RuntimeAns : RuntimeOp → Type
  | .openStream _ => Except EcError Unit
  | .receiverExists => Bool
  | .readReceiver => Option ℕ
  | .takeReceiver => Option ℕ
  | .getSender => Option ℕ
  | .setSender _ => Bool
  | .getControl => Option ℕ
  | .setControl _ => Bool
  | _ => Unit

/-- Each call is one access to a static. Only the lock makes a thread wait. -/
inductive RuntimeMemory.Handle {Tid : Type} (t : Tid) :
    (op : RuntimeOp) → RuntimeMemory Tid → RuntimeAns op → RuntimeMemory Tid → Prop
  | clearFatalReason {m : RuntimeMemory Tid} : Handle t .clearFatalReason m () m
  | openStream {m : RuntimeMemory Tid} {profile : StreamProfile} (r : Except EcError Unit) :
    Handle t (.openStream profile) m r m
  | initReceiver {m : RuntimeMemory Tid} :
    Handle t .initReceiver m () { m with receiver := some (m.receiver.getD none) }
  | receiverExists {m : RuntimeMemory Tid} : Handle t .receiverExists m m.receiver.isSome m
  | lockReceiver {m : RuntimeMemory Tid} (h : m.holder = none) :
    Handle t .lockReceiver m () { m with holder := some t }
  | unlockReceiver {m : RuntimeMemory Tid} :
    Handle t .unlockReceiver m () { m with holder := none }
  | readReceiver {m : RuntimeMemory Tid} : Handle t .readReceiver m (m.receiver.getD none) m
  | writeReceiver {m : RuntimeMemory Tid} {channel : ℕ} :
    Handle t (.writeReceiver channel) m () { m with receiver := some (some channel) }
  | takeReceiver {m : RuntimeMemory Tid} :
    Handle t .takeReceiver m (m.receiver.getD none) { m with receiver := some none }
  | getSender {m : RuntimeMemory Tid} : Handle t .getSender m m.sender m
  | setSender {m : RuntimeMemory Tid} {channel : ℕ} :
    Handle t (.setSender channel) m m.sender.isNone { m with sender := m.sender.or (some channel) }
  | getControl {m : RuntimeMemory Tid} : Handle t .getControl m m.control m
  | setControl {m : RuntimeMemory Tid} {control : ℕ} :
    Handle t (.setControl control) m m.control.isNone
      { m with control := m.control.or (some control) }
  | spawnTunnel {m : RuntimeMemory Tid} {w : Worker} :
    Handle t (.spawnTunnel w) m () { m with tunnelThreads := m.tunnelThreads ++ [w] }
  | spawnNetstack {m : RuntimeMemory Tid} {w : Worker} :
    Handle t (.spawnNetstack w) m () { m with netstackThreads := m.netstackThreads ++ [w] }

/-! ## The code -/

abbrev Runtime (α : Type) := Fallible EcError RuntimeOp RuntimeAns α

def runtimeAlreadyStartedErr : EcError :=
  .runtime "tunnel runtime already started in this process"

/-- The condition that `install_runtime_channels` checks with the lock held. The sender is looked at
only if there is no receiver. -/
def alreadyStarted : Runtime Bool := do
  let receiver ← lift (perform RuntimeOp.readReceiver)
  match receiver with
  | some _ => return true
  | none =>
    let sender ← lift (perform RuntimeOp.getSender)
    return sender.isSome

/-- The lock is let go of at every way out. -/
def installRuntimeChannels (channel : ℕ) : Runtime Unit := do
  lift (perform RuntimeOp.initReceiver)
  lift (perform RuntimeOp.lockReceiver)
  let started ← alreadyStarted
  if started then
    lift (perform RuntimeOp.unlockReceiver)
    throw runtimeAlreadyStartedErr
  let set ← lift (perform (RuntimeOp.setSender channel))
  if set then
    lift (perform (RuntimeOp.writeReceiver channel))
    lift (perform RuntimeOp.unlockReceiver)
  else
    lift (perform RuntimeOp.unlockReceiver)
    throw runtimeAlreadyStartedErr

/-- `start_tunnel_runtime`, with the channel that it makes. -/
def startTunnelRuntime (server token : String) (channel : ℕ) : Runtime Unit := do
  lift (perform RuntimeOp.clearFatalReason)
  let _ ← attempt (pure (parseServer server)) id
  let _ ← attempt (pure (parseProtocolToken token)) id
  attempt (perform (RuntimeOp.openStream .rx)) id
  attempt (perform (RuntimeOp.openStream .tx)) id
  installRuntimeChannels channel
  lift (perform (RuntimeOp.spawnTunnel (.rx channel)))
  lift (perform (RuntimeOp.spawnTunnel (.tx channel)))
  lift (perform (RuntimeOp.spawnTunnel .commandHeartbeat))

def notStartedErr : EcError := .runtime "tunnel runtime is not started"

def receiverTakenErr : EcError :=
  .runtime "tunnel packet receiver was already taken or not initialized"

def takeTunnelPacketReceiver : Runtime ℕ := do
  let holder ← lift (perform RuntimeOp.receiverExists)
  if !holder then throw notStartedErr
  lift (perform RuntimeOp.lockReceiver)
  let receiver ← lift (perform RuntimeOp.takeReceiver)
  lift (perform RuntimeOp.unlockReceiver)
  match receiver with
  | some channel => return channel
  | none => throw receiverTakenErr

/-- `start_runtime` of the netstack, with the control channel that it makes. -/
def startRuntime (control : ℕ) : Runtime Unit := do
  let running ← lift (perform RuntimeOp.getControl)
  match running with
  | some _ => return ()
  | none =>
    let channel ← takeTunnelPacketReceiver
    let set ← lift (perform (RuntimeOp.setControl control))
    if !set then throw (.runtime "netstack runtime already initialized")
    lift (perform (RuntimeOp.spawnNetstack (.forwarder channel control)))
    lift (perform (RuntimeOp.spawnNetstack (.netstackLoop control)))

inductive RuntimeReq
  | tunnel (server token : String) (channel : ℕ)
  | receiver
  | netstack (control : ℕ)

/-- The result is the receiver, for a request of it. -/
def RuntimeReq.code : RuntimeReq → Runtime (Option ℕ)
  | .tunnel server token channel => do
    startTunnelRuntime server token channel
    return none
  | .receiver => do
    let channel ← takeTunnelPacketReceiver
    return some channel
  | .netstack control => do
    startRuntime control
    return none

def RuntimeReq.body (req : RuntimeReq) :
    Program RuntimeOp RuntimeAns (Except EcError (Option ℕ)) := req.code.run

/-! ## Where the receiver is -/

def tunnelWorkers (channel : ℕ) : List Worker := [.rx channel, .tx channel, .commandHeartbeat]

def netstackWorkers (channel control : ℕ) : List Worker :=
  [.forwarder channel control, .netstackLoop control]

/-- How far a thread has come. It has the receiver in its hand at `setting`, `taking` and
`taken`. -/
inductive Spot
  | rest
  | locked
  /-- It has seen that there is no receiver. -/
  | free
  /-- It has seen that there is no sender either. -/
  | clear
  | setting (channel : ℕ)
  | stored (channel : ℕ)
  | spawning (channel n : ℕ)
  | taking (channel : ℕ)
  | taken (channel : ℕ)
  | wiring (channel control n : ℕ)
  | sawNetstack
  | impossible
deriving DecidableEq

def Spot.next : Spot → (op : RuntimeOp) → RuntimeAns op → Spot
  | .rest, .lockReceiver, _ => .locked
  | .rest, .getControl, some _ => .sawNetstack
  | .locked, .readReceiver, none => .free
  | .locked, .takeReceiver, some channel => .taking channel
  | .free, .getSender, none => .clear
  | .clear, .setSender channel, true => .setting channel
  | .clear, .setSender _, false => .impossible
  | .setting channel, .writeReceiver _, _ => .stored channel
  | .stored channel, .unlockReceiver, _ => .spawning channel 0
  | .spawning channel n, .spawnTunnel _, _ => .spawning channel (n + 1)
  | .taking channel, .unlockReceiver, _ => .taken channel
  | .taken channel, .setControl control, true => .wiring channel control 0
  | .taken _, .setControl _, false => .impossible
  | .wiring channel control n, .spawnNetstack _, _ => .wiring channel control (n + 1)
  | .impossible, _, _ => .impossible
  | .locked, .unlockReceiver, _ => .rest
  | .free, .unlockReceiver, _ => .rest
  | .clear, .unlockReceiver, _ => .rest
  | d, _, _ => d

/-- The calls a thread makes at a spot. -/
inductive Spot.Makes : Spot → RuntimeOp → Prop
  | clearFatalReason : Makes .rest .clearFatalReason
  | openStream {profile : StreamProfile} : Makes .rest (.openStream profile)
  | initReceiver : Makes .rest .initReceiver
  | receiverExists : Makes .rest .receiverExists
  | getControl : Makes .rest .getControl
  | lock : Makes .rest .lockReceiver
  | read : Makes .locked .readReceiver
  | take : Makes .locked .takeReceiver
  | getSender : Makes .free .getSender
  | setSender {channel : ℕ} : Makes .clear (.setSender channel)
  | write {channel : ℕ} : Makes (.setting channel) (.writeReceiver channel)
  | unlockLocked : Makes .locked .unlockReceiver
  | unlockFree : Makes .free .unlockReceiver
  | unlockStored {channel : ℕ} : Makes (.stored channel) .unlockReceiver
  | unlockTaking {channel : ℕ} : Makes (.taking channel) .unlockReceiver
  | spawnTunnel {channel n : ℕ} {w : Worker} (h : (tunnelWorkers channel)[n]? = some w) :
    Makes (.spawning channel n) (.spawnTunnel w)
  | setControl {channel control : ℕ} : Makes (.taken channel) (.setControl control)
  | spawnNetstack {channel control n : ℕ} {w : Worker}
    (h : (netstackWorkers channel control)[n]? = some w) :
    Makes (.wiring channel control n) (.spawnNetstack w)
  | impossible {op : RuntimeOp} : Makes .impossible op

/-- Where a thread is when its request has been worked off. -/
inductive Spot.Ends : RuntimeReq → Except EcError (Option ℕ) → Spot → Prop
  | tunnel {server token : String} {channel : ℕ} :
    Ends (.tunnel server token channel) (.ok none) (.spawning channel 3)
  | tunnelFailed {server token : String} {channel : ℕ} {e : EcError} :
    Ends (.tunnel server token channel) (.error e) .rest
  | receiver {channel : ℕ} : Ends .receiver (.ok (some channel)) (.taken channel)
  | receiverFailed {e : EcError} (h : e = notStartedErr ∨ e = receiverTakenErr) :
    Ends .receiver (.error e) .rest
  | netstack {channel control : ℕ} : Ends (.netstack control) (.ok none) (.wiring channel control 2)
  | netstackRuns {control : ℕ} : Ends (.netstack control) (.ok none) .sawNetstack
  | netstackFailed {control : ℕ} {e : EcError} (h : e = notStartedErr ∨ e = receiverTakenErr) :
    Ends (.netstack control) (.error e) .rest
  | impossible {req : RuntimeReq} {r : Except EcError (Option ℕ)} : Ends req r .impossible

theorem obeys_install {β : Type} {post : β → Spot → Prop} {channel : ℕ}
    {f : Except EcError Unit → Program RuntimeOp RuntimeAns β}
    (hok : Obeys Spot.Makes Spot.next post (.spawning channel 0) (f (.ok ())))
    (herror : Obeys Spot.Makes Spot.next post .rest (f (.error runtimeAlreadyStartedErr)))
    (himpossible : Obeys Spot.Makes Spot.next post .impossible
      (f (.error runtimeAlreadyStartedErr))) :
    Obeys Spot.Makes Spot.next post .rest ((installRuntimeChannels channel).run >>= f) := by
  refine .call .initReceiver fun _ ↦ .call .lock fun _ ↦ .call .read fun receiver ↦ ?_
  rcases receiver with _ | held
  · refine .call .getSender fun sender ↦ ?_
    rcases sender with _ | held
    · refine .call .setSender fun set ↦ ?_
      rcases set with _ | _
      · exact .call .impossible fun _ ↦ himpossible
      · exact .call .write fun _ ↦ .call .unlockStored fun _ ↦ hok
    · exact .call .unlockFree fun _ ↦ herror
  · exact .call .unlockLocked fun _ ↦ herror

theorem obeys_take {β : Type} {post : β → Spot → Prop}
    {f : Except EcError ℕ → Program RuntimeOp RuntimeAns β}
    (hok : ∀ channel, Obeys Spot.Makes Spot.next post (.taken channel) (f (.ok channel)))
    (herror : ∀ e, e = notStartedErr ∨ e = receiverTakenErr →
      Obeys Spot.Makes Spot.next post .rest (f (.error e))) :
    Obeys Spot.Makes Spot.next post .rest (takeTunnelPacketReceiver.run >>= f) := by
  refine .call .receiverExists fun holder ↦ ?_
  rcases holder with _ | _
  · exact herror _ (.inl rfl)
  refine .call .lock fun _ ↦ .call .take fun receiver ↦ ?_
  rcases receiver with _ | channel
  · exact .call .unlockLocked fun _ ↦ herror _ (.inr rfl)
  · exact .call .unlockTaking fun _ ↦ hok channel

theorem obeys_startTunnelRuntime (server token : String) (channel : ℕ) :
    Obeys Spot.Makes Spot.next
      (fun r d ↦ Spot.Ends (.tunnel server token channel) (r.map fun _ ↦ none) d) .rest
      (startTunnelRuntime server token channel).run := by
  refine .call .clearFatalReason fun _ ↦ ?_
  rcases parseServer server with e | endpoint
  · exact .done .tunnelFailed
  rcases parseProtocolToken token with e | bytes
  · exact .done .tunnelFailed
  refine .call .openStream fun opened ↦ ?_
  rcases opened with e | _
  · exact .done .tunnelFailed
  refine .call .openStream fun opened ↦ ?_
  rcases opened with e | _
  · exact .done .tunnelFailed
  refine obeys_install ?_ ?_ ?_
  · exact .call (.spawnTunnel rfl) fun _ ↦ .call (.spawnTunnel rfl) fun _ ↦
      .call (.spawnTunnel rfl) fun _ ↦ .done .tunnel
  · exact .done .tunnelFailed
  · exact .done .impossible

theorem obeys_startRuntime (control : ℕ) :
    Obeys Spot.Makes Spot.next
      (fun r d ↦ Spot.Ends (.netstack control) (r.map fun _ ↦ none) d) .rest
      (startRuntime control).run := by
  refine .call .getControl fun running ↦ ?_
  rcases running with _ | held
  · refine obeys_take ?_ ?_
    · intro channel
      refine .call .setControl fun set ↦ ?_
      rcases set with _ | _
      · exact .done .impossible
      · exact .call (.spawnNetstack rfl) fun _ ↦ .call (.spawnNetstack rfl) fun _ ↦
          .done .netstack
    · intro e he
      exact .done (.netstackFailed he)
  · exact .done .netstackRuns

theorem obeys_body (req : RuntimeReq) :
    Obeys Spot.Makes Spot.next (Spot.Ends req) .rest req.body := by
  rcases req with ⟨server, token, channel⟩ | _ | control
  · refine Obeys.bind (obeys_startTunnelRuntime server token channel) fun r d h ↦ ?_
    rcases r with e | _
    · exact .done h
    · exact .done h
  · exact obeys_take (fun channel ↦ .done .receiver) fun e he ↦ .done (.receiverFailed he)
  · refine Obeys.bind (obeys_startRuntime control) fun r d h ↦ ?_
    rcases r with e | _
    · exact .done h
    · exact .done h

/-! ## What holds in between -/

section Invariant

variable {Tid : Type} [DecidableEq Tid]

/-- How far one of the two starts has come, and which thread is at it. -/
inductive Progress (Tid α : Type)
  | notStarted
  | busy (t : Tid) (d : Spot)
  | over (a : α)

/-- The spot at which a thread has to be. -/
def Progress.spot? {α : Type} (t : Tid) : Progress Tid α → Option Spot
  | .busy t' d => if t' = t then some d else none
  | _ => none

def Progress.isOver {α : Type} : Progress Tid α → Bool
  | .over _ => true
  | _ => false

/-- The spots of a thread that starts the tunnel and has set the sender. -/
def Spot.inTunnel? : Spot → Option Spot
  | .setting channel => some (.setting channel)
  | .stored channel => some (.stored channel)
  | .spawning channel n => some (.spawning channel n)
  | _ => none

/-- The spots of a thread that has taken the receiver. -/
def Spot.inNetstack? : Spot → Option Spot
  | .taking channel => some (.taking channel)
  | .taken channel => some (.taken channel)
  | .wiring channel control n => some (.wiring channel control n)
  | _ => none

def Spot.channel? : Spot → Option ℕ
  | .setting channel | .stored channel | .spawning channel _ => some channel
  | .taking channel | .taken channel | .wiring channel _ _ => some channel
  | _ => none

def Spot.isLocked : Spot → Bool
  | .locked | .free | .clear | .setting _ | .stored _ | .taking _ => true
  | _ => false

/-- Both starts. The netstack's is over without a control channel when somebody else has got the
receiver. -/
structure Stages (Tid : Type) where
  tunnel : Progress Tid ℕ
  netstack : Progress Tid (ℕ × Option ℕ)

namespace Stages

variable (g : Stages Tid)

def sender : Option ℕ :=
  match g.tunnel with
  | .notStarted => none
  | .busy _ d => d.channel?
  | .over channel => some channel

/-- The channel of a receiver that has been stored. -/
def released : Option ℕ :=
  match g.tunnel with
  | .busy _ (.stored channel) => some channel
  | .busy _ (.spawning channel _) => some channel
  | .over channel => some channel
  | _ => none

/-- The receiver that is there to be taken. -/
def cell : Option ℕ :=
  match g.netstack with
  | .notStarted => g.released
  | _ => none

def control : Option ℕ :=
  match g.netstack with
  | .busy _ (.wiring _ control _) => some control
  | .over (_, control) => control
  | _ => none

def tunnelThreads : List Worker :=
  match g.tunnel with
  | .busy _ (.spawning channel n) => (tunnelWorkers channel).take n
  | .over channel => tunnelWorkers channel
  | _ => []

def netstackThreads : List Worker :=
  match g.netstack with
  | .busy _ (.wiring channel control n) => (netstackWorkers channel control).take n
  | .over (channel, some control) => netstackWorkers channel control
  | _ => []

/-- The channel of a receiver that has been taken. -/
def takenChannel : Option ℕ :=
  match g.netstack with
  | .busy _ d => d.channel?
  | .over (channel, _) => some channel
  | .notStarted => none

/-- The statics are those of the two stages. -/
structure Agrees (m : RuntimeMemory Tid) : Prop where
  sender : m.sender = g.sender
  cell : m.receiver.getD none = g.cell
  control : m.control = g.control
  tunnelThreads : m.tunnelThreads = g.tunnelThreads
  netstackThreads : m.netstackThreads = g.netstackThreads
  takenChannel : ∀ channel ∈ g.takenChannel, g.released = some channel

/-- What a thread knows at a spot. -/
def Knows : Spot → Prop
  | .free => g.cell = none
  | .clear => g.tunnel = .notStarted
  | .sawNetstack => g.control ≠ none
  | .impossible => False
  | _ => True

end Stages

/-- A start of the tunnel that has succeeded. -/
def startedTunnel (x : Shared.Return Tid RuntimeReq (Except EcError (Option ℕ))) : Bool :=
  match x.req, x.result with
  | .tunnel .., .ok _ => true
  | _, _ => false

/-- A request for the receiver that has succeeded. -/
def gotReceiver (x : Shared.Return Tid RuntimeReq (Except EcError (Option ℕ))) : Bool :=
  match x.req, x.result with
  | .receiver, .ok _ => true
  | _, _ => false

/-- What a start of the netstack comes to. -/
def NetstackResult (control : Option ℕ) : Except EcError (Option ℕ) → Prop
  | .ok _ => control ≠ none
  | .error e => e = notStartedErr ∨ e = receiverTakenErr

structure RuntimeInv (g : Stages Tid) (m : RuntimeMemory Tid) (spot : Tid → Spot)
    (returned : List (Shared.Return Tid RuntimeReq (Except EcError (Option ℕ)))) : Prop where
  agrees : g.Agrees m
  tunnel : ∀ t, g.tunnel.spot? t = (spot t).inTunnel?
  netstack : ∀ t, g.netstack.spot? t = (spot t).inNetstack?
  locked : ∀ t, (spot t).isLocked = true ↔ m.holder = some t
  knows : ∀ t, g.Knows (spot t)
  started : returned.countP startedTunnel = g.tunnel.isOver.toNat
  given : returned.countP gotReceiver = (g.netstack.isOver && g.control.isNone).toNat
  results : ∀ x ∈ returned, ∀ control, x.req = .netstack control →
    NetstackResult g.control x.result

theorem Progress.spot?_eq_some_iff {α : Type} {p : Progress Tid α} {t : Tid} {d : Spot} :
    p.spot? t = some d ↔ p = .busy t d := by
  rcases p with _ | ⟨t', d'⟩ | a
  · exact iff_of_false nofun nofun
  · rw [spot?]
    split_ifs with heq
    · rw [heq, Option.some.injEq, Progress.busy.injEq, and_iff_right rfl]
    · exact iff_of_false nofun fun h ↦ heq (Progress.busy.inj h).1
  · exact iff_of_false nofun nofun

theorem Progress.spot?_busy_self {α : Type} (t : Tid) (d : Spot) :
    (.busy t d : Progress Tid α).spot? t = some d :=
  spot?_eq_some_iff.mpr rfl

theorem Progress.spot?_busy_of_ne {α : Type} {t t' : Tid} (h : t' ≠ t) (d : Spot) :
    (.busy t d : Progress Tid α).spot? t' = none :=
  if_neg h.symm

namespace RuntimeInv

variable {g : Stages Tid} {m m' : RuntimeMemory Tid} {spot : Tid → Spot} {t : Tid}
  {d d₀ : Spot}
  {returned : List (Shared.Return Tid RuntimeReq (Except EcError (Option ℕ)))}

/-- Who holds the lock when a thread has moved. -/
def LockedAfter (m' : RuntimeMemory Tid) (spot : Tid → Spot) (t : Tid) (d : Spot) : Prop :=
  ∀ t', (Function.update spot t d t').isLocked = true ↔ m'.holder = some t'

theorem lockedAfter_iff : LockedAfter m' spot t d ↔ (d.isLocked = true ↔ m'.holder = some t)
    ∧ ∀ t' ≠ t, ((spot t').isLocked = true ↔ m'.holder = some t') :=
  Function.forall_update_iff spot fun t' d' ↦ (d'.isLocked = true ↔ m'.holder = some t')

theorem locked_same (h : RuntimeInv g m spot returned) (hspot : spot t = d₀)
    (hholder : m'.holder = m.holder) (hd : d.isLocked = d₀.isLocked) :
    LockedAfter m' spot t d := by
  rw [lockedAfter_iff, hholder, hd, ← hspot]
  exact ⟨h.locked t, fun t' _ ↦ h.locked t'⟩

theorem locked_take (h : RuntimeInv g m spot returned) (hm : m.holder = none)
    (hholder : m'.holder = some t) (hd : d.isLocked = true) : LockedAfter m' spot t d := by
  rw [lockedAfter_iff, hholder]
  refine ⟨iff_of_true hd rfl, fun t' hne ↦ ?_⟩
  rw [h.locked t', hm]
  exact iff_of_false nofun fun heq ↦ hne (Option.some.inj heq).symm

theorem locked_release (h : RuntimeInv g m spot returned) (hspot : spot t = d₀)
    (ht : d₀.isLocked = true) (hholder : m'.holder = none) (hd : d.isLocked = false) :
    LockedAfter m' spot t d := by
  subst hspot
  rw [lockedAfter_iff, hholder, hd]
  refine ⟨iff_of_false Bool.false_ne_true nofun, fun t' hne ↦ ?_⟩
  rw [h.locked t', (h.locked t).mp ht]
  exact iff_of_false (fun heq ↦ hne (Option.some.inj heq).symm) nofun

/-- Only one thread at a time is at a spot with the lock. -/
theorem eq_of_isLocked (h : RuntimeInv g m spot returned) {t' : Tid}
    (ht : (spot t).isLocked = true) (ht' : (spot t').isLocked = true) : t' = t :=
  Option.some.inj (((h.locked t').mp ht').symm.trans ((h.locked t).mp ht))

/-- What the others know stays true. -/
theorem knows_of_ne (h : RuntimeInv g m spot returned) {g' : Stages Tid} {t' : Tid} (hne : t' ≠ t)
    (hstable : (spot t).isLocked = true ∨ (g.cell = none → g'.cell = none)
      ∧ (g.tunnel = .notStarted → g'.tunnel = .notStarted))
    (hcontrol : g.control ≠ none → g'.control ≠ none) : g'.Knows (spot t') := by
  have hknows := h.knows t'
  rcases hstable with hlocked | ⟨hcell, htunnel⟩
  · have hnot : (spot t').isLocked ≠ true := fun ht' ↦ hne (h.eq_of_isLocked hlocked ht')
    rcases hspot : spot t' <;> rw [hspot] at hknows hnot
    all_goals first | exact absurd rfl hnot | exact hcontrol hknows | exact hknows
  · rcases hspot : spot t' <;> rw [hspot] at hknows
    all_goals first | exact hcell hknows | exact htunnel hknows | exact hcontrol hknows
                    | exact hknows

/-- A thread moves on, and with it no more than one of the two starts. -/
theorem move (h : RuntimeInv g m spot returned) {g' : Stages Tid} (hagrees : g'.Agrees m')
    (htunnel : ∀ t', g'.tunnel.spot? t' = (Function.update spot t d t').inTunnel?)
    (hnetstack : ∀ t', g'.netstack.spot? t' = (Function.update spot t d t').inNetstack?)
    (hlocked : LockedAfter m' spot t d) (hknows : g'.Knows d)
    (hothers : ∀ t' ≠ t, g'.Knows (spot t')) (hcontrol : g.control ≠ none → g'.control ≠ none)
    (hover : g'.tunnel.isOver = g.tunnel.isOver)
    (hgiven : (g'.netstack.isOver && g'.control.isNone) = (g.netstack.isOver && g.control.isNone)) :
    RuntimeInv g' m' (Function.update spot t d) returned where
  agrees := hagrees
  tunnel := htunnel
  netstack := hnetstack
  locked := hlocked
  knows := (Function.forall_update_iff spot fun _ d' ↦ g'.Knows d').mpr ⟨hknows, hothers⟩
  started := by rw [hover, h.started]
  given := by rw [hgiven, h.given]
  results := by
    intro x hx control hreq
    have hresult := h.results x hx control hreq
    rcases hr : x.result with e | r
    · rwa [hr] at hresult
    · rw [hr] at hresult
      exact hcontrol hresult

theorem stay (h : RuntimeInv g m spot returned) (hspot : spot t = d₀) (hagrees : g.Agrees m')
    (htunnel : d.inTunnel? = d₀.inTunnel?) (hnetstack : d.inNetstack? = d₀.inNetstack?)
    (hlocked : LockedAfter m' spot t d) (hknows : g.Knows d) :
    RuntimeInv g m' (Function.update spot t d) returned := by
  subst hspot
  have hviews : ∀ view : Spot → Option Spot, view d = view (spot t) → ∀ t',
      view (Function.update spot t d t') = view (spot t') := by
    intro view hview
    refine (Function.forall_update_iff spot fun t' d' ↦ view d' = view (spot t')).mpr ⟨hview, ?_⟩
    exact fun _ _ ↦ rfl
  refine h.move hagrees (fun t' ↦ ?_) (fun t' ↦ ?_) hlocked hknows ?_ id rfl rfl
  · rw [hviews Spot.inTunnel? htunnel, h.tunnel]
  · rw [hviews Spot.inNetstack? hnetstack, h.netstack]
  · exact fun t' hne ↦ h.knows_of_ne hne (.inr ⟨id, id⟩) id

/-- The start of a thread that moves on, and that nobody else is at. -/
theorem spot?_busy_update {α : Type} {p : Progress Tid α} {view : Spot → Option Spot}
    (h : ∀ t, p.spot? t = view (spot t)) (hp : ∀ t' ≠ t, p.spot? t' = none)
    (hd : view d = some d) :
    ∀ t', (.busy t d : Progress Tid α).spot? t' = view (Function.update spot t d t') := by
  refine (Function.forall_update_iff spot fun t' d' ↦
    (.busy t d : Progress Tid α).spot? t' = view d').mpr ⟨?_, fun t' hne ↦ ?_⟩
  · rw [hd, Progress.spot?_busy_self]
  · rw [Progress.spot?_busy_of_ne hne, ← h, hp t' hne]

theorem spot?_update {α : Type} {p : Progress Tid α} {view : Spot → Option Spot}
    (h : ∀ t, p.spot? t = view (spot t)) (hspot : spot t = d₀) (hd : view d = view d₀) :
    ∀ t', p.spot? t' = view (Function.update spot t d t') := by
  refine (Function.forall_update_iff spot fun t' d' ↦ p.spot? t' = view d').mpr
    ⟨?_, fun t' _ ↦ h t'⟩
  rw [hd, h, hspot]

/-- A thread that goes on with the start of the tunnel. -/
theorem moveTunnel (h : RuntimeInv g m spot returned) (hspot : spot t = d₀)
    (hagrees : { g with tunnel := .busy t d }.Agrees m')
    (hfree : g.tunnel = .notStarted ∨ g.tunnel = .busy t d₀) (hd : d.inTunnel? = some d)
    (hnetstack : d.inNetstack? = d₀.inNetstack?) (hlocked : LockedAfter m' spot t d)
    (hstable : d₀.isLocked = true
      ∨ { g with tunnel := .busy t d }.cell = g.cell ∧ g.tunnel ≠ .notStarted) :
    RuntimeInv { g with tunnel := .busy t d } m' (Function.update spot t d) returned := by
  subst hspot
  have hothers : ∀ t' ≠ t, g.tunnel.spot? t' = none := by
    intro t' hne
    rcases hfree with heq | heq
    · rw [heq]
      rfl
    · rw [heq, Progress.spot?_busy_of_ne hne]
  refine h.move hagrees (spot?_busy_update h.tunnel hothers hd)
    (spot?_update h.netstack rfl hnetstack) hlocked ?_ ?_ id ?_ rfl
  · rcases d <;> trivial
  · refine fun t' hne ↦ h.knows_of_ne hne (hstable.imp_right fun hst ↦ ⟨?_, ?_⟩) id
    · exact fun hcell ↦ hst.1.trans hcell
    · exact fun hnot ↦ absurd hnot hst.2
  · rcases hfree with heq | heq <;> rw [heq] <;> rfl

/-- A thread that goes on with the start of the netstack. -/
theorem moveNetstack (h : RuntimeInv g m spot returned) (hspot : spot t = d₀)
    (hagrees : { g with netstack := .busy t d }.Agrees m')
    (hfree : g.netstack = .notStarted ∨ g.netstack = .busy t d₀)
    (hd : d.inNetstack? = some d) (htunnel : d.inTunnel? = d₀.inTunnel?)
    (hlocked : LockedAfter m' spot t d)
    (hcontrol : g.control = none ∨ { g with netstack := .busy t d }.control ≠ none) :
    RuntimeInv { g with netstack := .busy t d } m' (Function.update spot t d) returned := by
  subst hspot
  have hothers : ∀ t' ≠ t, g.netstack.spot? t' = none := by
    intro t' hne
    rcases hfree with heq | heq
    · rw [heq]
      rfl
    · rw [heq, Progress.spot?_busy_of_ne hne]
  have hkeeps : g.control ≠ none → { g with netstack := .busy t d }.control ≠ none :=
    fun hne ↦ hcontrol.resolve_left hne
  refine h.move hagrees (spot?_update h.tunnel rfl htunnel)
    (spot?_busy_update h.netstack hothers hd) hlocked ?_ ?_ hkeeps rfl ?_
  · rcases d <;> trivial
  · exact fun t' hne ↦ h.knows_of_ne hne (.inr ⟨fun _ ↦ rfl, id⟩) hkeeps
  · rcases hfree with heq | heq <;> rw [heq] <;> rfl

/-! ### What the spots say about the stages -/

theorem tunnel_eq_busy (h : RuntimeInv g m spot returned) (hspot : spot t = d)
    (hd : d.inTunnel? = some d) : g.tunnel = .busy t d := by
  rw [← Progress.spot?_eq_some_iff, h.tunnel, hspot, hd]

theorem netstack_eq_busy (h : RuntimeInv g m spot returned) (hspot : spot t = d)
    (hd : d.inNetstack? = some d) : g.netstack = .busy t d := by
  rw [← Progress.spot?_eq_some_iff, h.netstack, hspot, hd]

/-- The sender is set exactly if a start of the tunnel has come so far. -/
theorem tunnel_eq_notStarted (h : RuntimeInv g m spot returned) (hsender : m.sender = none) :
    g.tunnel = .notStarted := by
  rw [h.agrees.sender, Stages.sender] at hsender
  rcases htunnel : g.tunnel with _ | ⟨t, d⟩ | channel
  · rfl
  · have hview := h.tunnel t
    rw [htunnel, Progress.spot?_busy_self] at hview
    rw [htunnel] at hsender
    rcases hspot : spot t <;> rw [hspot] at hview <;> cases hview <;> cases hsender
  · rw [htunnel] at hsender
    cases hsender

/-- Nobody has a receiver that has not been stored. -/
theorem netstack_eq_notStarted (h : RuntimeInv g m spot returned) (hreleased : g.released = none) :
    g.netstack = .notStarted := by
  have htaken := h.agrees.takenChannel
  rw [hreleased, Stages.takenChannel] at htaken
  rcases hnetstack : g.netstack with _ | ⟨t, d⟩ | ⟨channel, control⟩
  · rfl
  · have hview := h.netstack t
    rw [hnetstack, Progress.spot?_busy_self] at hview
    rw [hnetstack] at htaken
    rcases hspot : spot t <;> rw [hspot] at hview <;> cases hview <;> cases htaken _ rfl
  · rw [hnetstack] at htaken
    cases htaken _ rfl

theorem take_append_of_getElem? {l : List Worker} {n : ℕ} {w : Worker} (h : l[n]? = some w) :
    l.take n ++ [w] = l.take (n + 1) := by
  rw [List.take_add_one, h]
  rfl

/-- **Every call keeps the invariant.** -/
theorem call {op : RuntimeOp} {ans : RuntimeAns op} (h : RuntimeInv g m spot returned)
    (hmakes : (spot t).Makes op) (hop : RuntimeMemory.Handle t op m ans m') :
    ∃ g', RuntimeInv g' m' (Function.update spot t ((spot t).next op ans)) returned := by
  have hagrees := h.agrees
  generalize hspot : spot t = d at hmakes ⊢
  cases hmakes with
  | clearFatalReason =>
    cases hop
    exact ⟨g, h.stay hspot hagrees rfl rfl (h.locked_same hspot rfl rfl) trivial⟩
  | openStream =>
    cases hop
    exact ⟨g, h.stay hspot hagrees rfl rfl (h.locked_same hspot rfl rfl) trivial⟩
  | initReceiver =>
    cases hop
    exact ⟨g, h.stay hspot { hagrees with cell := hagrees.cell } rfl rfl
      (h.locked_same hspot rfl rfl) trivial⟩
  | receiverExists =>
    cases hop
    exact ⟨g, h.stay hspot hagrees rfl rfl (h.locked_same hspot rfl rfl) trivial⟩
  | getControl =>
    cases hop
    rcases hcontrol : m.control with _ | control
    · exact ⟨g, h.stay hspot hagrees rfl rfl (h.locked_same hspot rfl rfl) trivial⟩
    · refine ⟨g, h.stay hspot hagrees rfl rfl (h.locked_same hspot rfl rfl) fun hnone ↦ ?_⟩
      rw [← hagrees.control, hcontrol] at hnone
      cases hnone
  | lock =>
    cases hop with
    | lockReceiver hm =>
      exact ⟨g, h.stay hspot { hagrees with } rfl rfl (h.locked_take hm rfl rfl) trivial⟩
  | read =>
    cases hop
    rcases hcell : m.receiver.getD none with _ | channel
    · exact ⟨g, h.stay hspot hagrees rfl rfl (h.locked_same hspot rfl rfl)
        (hagrees.cell.symm.trans hcell)⟩
    · exact ⟨g, h.stay hspot hagrees rfl rfl (h.locked_same hspot rfl rfl) trivial⟩
  | take =>
    cases hop
    rcases hcell : m.receiver.getD none with _ | channel
    · refine ⟨g, h.stay hspot { hagrees with cell := ?_ } rfl rfl (h.locked_same hspot rfl rfl)
        trivial⟩
      exact hcell.symm.trans hagrees.cell
    · have hfull : g.cell = some channel := hagrees.cell.symm.trans hcell
      have hfree : g.netstack = .notStarted := by
        rw [Stages.cell] at hfull
        split at hfull
        · assumption
        · cases hfull
      obtain ⟨tunnel, netstack⟩ := g
      obtain rfl : netstack = .notStarted := hfree
      refine ⟨_, h.moveNetstack hspot ?_ (.inl rfl) rfl rfl (h.locked_same hspot rfl rfl)
        (.inl rfl)⟩
      exact { hagrees with
        cell := rfl
        takenChannel := fun channel' hchannel ↦ Option.some.inj hchannel ▸ hfull }
  | getSender =>
    cases hop
    rcases hsender : m.sender with _ | channel
    · exact ⟨g, h.stay hspot hagrees rfl rfl (h.locked_same hspot rfl rfl)
        (h.tunnel_eq_notStarted hsender)⟩
    · refine ⟨g, h.stay hspot hagrees rfl rfl (h.locked_same hspot rfl rfl) ?_⟩
      have hknows := h.knows t
      rwa [hspot] at hknows
  | @setSender channel =>
    have hclear := h.knows t
    rw [hspot] at hclear
    have hsender : m.sender = none := by
      rw [hagrees.sender, Stages.sender, hclear]
    cases hop
    rw [hsender]
    have hfree := h.netstack_eq_notStarted (by rw [Stages.released, hclear])
    obtain ⟨tunnel, netstack⟩ := g
    obtain rfl : tunnel = .notStarted := hclear
    obtain rfl : netstack = .notStarted := hfree
    refine ⟨_, h.moveTunnel hspot ?_ (.inl rfl) rfl rfl (h.locked_same hspot rfl rfl) (.inl rfl)⟩
    exact { hagrees with
      sender := rfl
      takenChannel := nofun }
  | @write channel =>
    have htunnel := h.tunnel_eq_busy hspot rfl
    cases hop
    have hfree := h.netstack_eq_notStarted (by rw [Stages.released, htunnel])
    obtain ⟨tunnel, netstack⟩ := g
    obtain rfl : tunnel = .busy t (.setting channel) := htunnel
    obtain rfl : netstack = .notStarted := hfree
    refine ⟨_, h.moveTunnel hspot ?_ (.inr rfl) rfl rfl (h.locked_same hspot rfl rfl) (.inl rfl)⟩
    exact { hagrees with
      cell := rfl
      takenChannel := nofun }
  | unlockLocked =>
    cases hop
    exact ⟨g, h.stay hspot { hagrees with } rfl rfl (h.locked_release hspot rfl rfl rfl) trivial⟩
  | unlockFree =>
    cases hop
    exact ⟨g, h.stay hspot { hagrees with } rfl rfl (h.locked_release hspot rfl rfl rfl) trivial⟩
  | @unlockStored channel =>
    have htunnel := h.tunnel_eq_busy hspot rfl
    cases hop
    obtain ⟨tunnel, netstack⟩ := g
    obtain rfl : tunnel = .busy t (.stored channel) := htunnel
    refine ⟨_, h.moveTunnel hspot ?_ (.inr rfl) rfl rfl (h.locked_release hspot rfl rfl rfl)
      (.inl rfl)⟩
    exact { hagrees with cell := hagrees.cell.trans (by rcases netstack <;> rfl) }
  | @unlockTaking channel =>
    have hnetstack := h.netstack_eq_busy hspot rfl
    cases hop
    obtain ⟨tunnel, netstack⟩ := g
    obtain rfl : netstack = .busy t (.taking channel) := hnetstack
    exact ⟨_, h.moveNetstack hspot { hagrees with } (.inr rfl) rfl rfl
      (h.locked_release hspot rfl rfl rfl) (.inl rfl)⟩
  | @spawnTunnel channel n w hw =>
    have htunnel := h.tunnel_eq_busy hspot rfl
    cases hop
    obtain ⟨tunnel, netstack⟩ := g
    obtain rfl : tunnel = .busy t (.spawning channel n) := htunnel
    have hcell : (⟨.busy t (.spawning channel n), netstack⟩ : Stages Tid).cell
        = (⟨.busy t (.spawning channel (n + 1)), netstack⟩ : Stages Tid).cell := by
      rcases netstack <;> rfl
    refine ⟨_, h.moveTunnel hspot ?_ (.inr rfl) rfl rfl (h.locked_same hspot rfl rfl)
      (.inr ⟨hcell.symm, nofun⟩)⟩
    exact { hagrees with
      cell := hagrees.cell.trans hcell
      tunnelThreads := by
        rw [hagrees.tunnelThreads]
        exact take_append_of_getElem? hw }
  | @setControl channel control =>
    have hnetstack := h.netstack_eq_busy hspot rfl
    have hcontrol : m.control = none := by
      rw [hagrees.control, Stages.control, hnetstack]
    cases hop
    rw [hcontrol]
    obtain ⟨tunnel, netstack⟩ := g
    obtain rfl : netstack = .busy t (.taken channel) := hnetstack
    refine ⟨_, h.moveNetstack hspot ?_ (.inr rfl) rfl rfl (h.locked_same hspot rfl rfl) (.inl rfl)⟩
    exact { hagrees with control := rfl }
  | @spawnNetstack channel control n w hw =>
    have hnetstack := h.netstack_eq_busy hspot rfl
    cases hop
    obtain ⟨tunnel, netstack⟩ := g
    obtain rfl : netstack = .busy t (.wiring channel control n) := hnetstack
    refine ⟨_, h.moveNetstack hspot ?_ (.inr rfl) rfl rfl (h.locked_same hspot rfl rfl)
      (.inr nofun)⟩
    exact { hagrees with
      netstackThreads := by
        rw [hagrees.netstackThreads]
        exact take_append_of_getElem? hw }
  | impossible =>
    have hknows := h.knows t
    rw [hspot] at hknows
    exact hknows.elim

theorem spot?_over_update {α : Type} {p : Progress Tid α} {view : Spot → Option Spot}
    (h : ∀ t, p.spot? t = view (spot t)) (hp : p = .busy t d) (hrest : view .rest = none) (a : α) :
    ∀ t', (.over a : Progress Tid α).spot? t' = view (Function.update spot t .rest t') := by
  refine (Function.forall_update_iff spot fun t' d' ↦
    (.over a : Progress Tid α).spot? t' = view d').mpr ⟨hrest.symm, fun t' hne ↦ ?_⟩
  rw [← h, hp, Progress.spot?_busy_of_ne hne]
  rfl

/-- A thread that is through with its request. -/
theorem leave {req : RuntimeReq} {r : Except EcError (Option ℕ)} {g' : Stages Tid}
    (h : RuntimeInv g m spot returned) (hspot : spot t = d) (hagrees : g'.Agrees m)
    (htunnel : ∀ t', g'.tunnel.spot? t' = (Function.update spot t .rest t').inTunnel?)
    (hnetstack : ∀ t', g'.netstack.spot? t' = (Function.update spot t .rest t').inNetstack?)
    (hlocked : d.isLocked = false) (hothers : ∀ t' ≠ t, g'.Knows (spot t'))
    (hcontrol : g.control ≠ none → g'.control ≠ none)
    (hstarted : g'.tunnel.isOver.toNat
      = g.tunnel.isOver.toNat + (startedTunnel ⟨t, req, r⟩).toNat)
    (hgiven : (g'.netstack.isOver && g'.control.isNone).toNat
      = (g.netstack.isOver && g.control.isNone).toNat + (gotReceiver ⟨t, req, r⟩).toNat)
    (hresult : ∀ control, req = .netstack control → NetstackResult g'.control r) :
    RuntimeInv g' m (Function.update spot t .rest) (returned ++ [⟨t, req, r⟩]) where
  agrees := hagrees
  tunnel := htunnel
  netstack := hnetstack
  locked := h.locked_same hspot rfl hlocked.symm
  knows := (Function.forall_update_iff spot fun _ d' ↦ g'.Knows d').mpr ⟨trivial, hothers⟩
  started := by
    rw [List.countP_append, List.countP_singleton, h.started, hstarted]
    rcases startedTunnel ⟨t, req, r⟩ <;> rfl
  given := by
    rw [List.countP_append, List.countP_singleton, h.given, hgiven]
    rcases gotReceiver ⟨t, req, r⟩ <;> rfl
  results := by
    intro x hx control hreq
    rcases List.mem_append.mp hx with hx | hx
    · have hold := h.results x hx control hreq
      rcases hr : x.result with e | r
      · rwa [hr] at hold
      · rw [hr] at hold
        exact hcontrol hold
    · obtain rfl := List.mem_singleton.mp hx
      exact hresult control hreq

/-- **Every end of a request keeps the invariant.** -/
theorem finish {req : RuntimeReq} {r : Except EcError (Option ℕ)}
    (h : RuntimeInv g m spot returned) (hends : Spot.Ends req r (spot t)) :
    ∃ g', RuntimeInv g' m (Function.update spot t .rest) (returned ++ [⟨t, req, r⟩]) := by
  have hagrees := h.agrees
  generalize hspot : spot t = d at hends
  have hstays : ∀ t' ≠ t, g.Knows (spot t') := fun t' _ ↦ h.knows t'
  cases hends with
  | @tunnel server token channel =>
    have htunnel := h.tunnel_eq_busy hspot rfl
    have hviews := spot?_over_update h.tunnel htunnel rfl channel
    obtain ⟨tunnel, netstack⟩ := g
    obtain rfl : tunnel = .busy t (.spawning channel 3) := htunnel
    have hcell : (⟨.busy t (.spawning channel 3), netstack⟩ : Stages Tid).cell
        = (⟨.over channel, netstack⟩ : Stages Tid).cell := by
      rcases netstack <;> rfl
    refine ⟨⟨.over channel, netstack⟩, h.leave hspot { hagrees with
      cell := hagrees.cell.trans hcell } hviews (spot?_update h.netstack hspot rfl) rfl ?_ id rfl
      rfl nofun⟩
    exact fun t' hne ↦ h.knows_of_ne hne (.inr ⟨hcell.symm.trans, nofun⟩) id
  | tunnelFailed =>
    exact ⟨g, h.leave hspot hagrees (spot?_update h.tunnel hspot rfl)
      (spot?_update h.netstack hspot rfl) rfl hstays id rfl rfl nofun⟩
  | @receiver channel =>
    have hnetstack := h.netstack_eq_busy hspot rfl
    have hviews := spot?_over_update h.netstack hnetstack rfl (channel, none)
    obtain ⟨tunnel, netstack⟩ := g
    obtain rfl : netstack = .busy t (.taken channel) := hnetstack
    refine ⟨⟨tunnel, .over (channel, none)⟩, h.leave hspot { hagrees with }
      (spot?_update h.tunnel hspot rfl) hviews rfl ?_ id rfl rfl nofun⟩
    exact fun t' hne ↦ h.knows_of_ne hne (.inr ⟨fun _ ↦ rfl, id⟩) id
  | receiverFailed he =>
    exact ⟨g, h.leave hspot hagrees (spot?_update h.tunnel hspot rfl)
      (spot?_update h.netstack hspot rfl) rfl hstays id rfl rfl nofun⟩
  | @netstack channel control =>
    have hnetstack := h.netstack_eq_busy hspot rfl
    have hviews := spot?_over_update h.netstack hnetstack rfl (channel, some control)
    obtain ⟨tunnel, netstack⟩ := g
    obtain rfl : netstack = .busy t (.wiring channel control 2) := hnetstack
    refine ⟨⟨tunnel, .over (channel, some control)⟩, h.leave hspot { hagrees with }
      (spot?_update h.tunnel hspot rfl) hviews rfl ?_ id rfl rfl fun _ _ ↦ nofun⟩
    exact fun t' hne ↦ h.knows_of_ne hne (.inr ⟨fun _ ↦ rfl, id⟩) id
  | netstackRuns =>
    have hknows := h.knows t
    rw [hspot] at hknows
    exact ⟨g, h.leave hspot hagrees (spot?_update h.tunnel hspot rfl)
      (spot?_update h.netstack hspot rfl) rfl hstays id rfl rfl fun _ _ ↦ hknows⟩
  | netstackFailed he =>
    exact ⟨g, h.leave hspot hagrees (spot?_update h.tunnel hspot rfl)
      (spot?_update h.netstack hspot rfl) rfl hstays id rfl rfl fun _ _ ↦ he⟩
  | impossible =>
    have hknows := h.knows t
    rw [hspot] at hknows
    exact hknows.elim

end RuntimeInv

/-- The rule of all three requests, with both stages as what is in between. -/
def runtimeOutline : Shared.Outline RuntimeReq.body
    (RuntimeMemory.Handle : Shared.Memory Tid RuntimeOp RuntimeAns (RuntimeMemory Tid)) Spot where
  allowed := Spot.Makes
  next := Spot.next
  rest := .rest
  post := Spot.Ends
  inv m spot returned := ∃ g, RuntimeInv g m spot returned
  obeys := obeys_body
  call := fun ⟨_, h⟩ hmakes hop ↦ h.call hmakes hop
  finish := fun ⟨_, h⟩ hends ↦ h.finish hends

/-- Nothing has been started. -/
def RuntimeMemory.initial : RuntimeMemory Tid := ⟨none, none, none, none, [], []⟩

abbrev RuntimeState (Tid : Type) :=
  Shared.State Tid RuntimeReq RuntimeOp RuntimeAns (Except EcError (Option ℕ)) (RuntimeMemory Tid)

/-- The states of the process, whoever asks for what. -/
def RuntimeReachable (s : RuntimeState Tid) : Prop :=
  Shared.Reachable RuntimeReq.body RuntimeMemory.Handle .initial s

theorem runtimeInv_initial :
    RuntimeInv (⟨.notStarted, .notStarted⟩ : Stages Tid) .initial (fun _ ↦ .rest) [] where
  agrees := ⟨rfl, rfl, rfl, rfl, rfl, nofun⟩
  tunnel _ := rfl
  netstack _ := rfl
  locked _ := iff_of_false Bool.false_ne_true nofun
  knows _ := trivial
  started := rfl
  given := rfl
  results := nofun

theorem RuntimeReachable.holds {s : RuntimeState Tid} (h : RuntimeReachable s) :
    runtimeOutline.Holds s :=
  Shared.Outline.holds_of_reachable ⟨_, runtimeInv_initial⟩ h

/-! ## One tunnel and one netstack -/

/-- All threads that run belong to one tunnel and one netstack: what is sent goes to the tunnel's
thread, and the netstack is fed from the same tunnel. -/
structure Wired (m : RuntimeMemory Tid) (channel control : ℕ) : Prop where
  tunnelThreads : m.tunnelThreads <+: tunnelWorkers channel
  netstackThreads : m.netstackThreads <+: netstackWorkers channel control
  sender : m.tunnelThreads ≠ [] ∨ m.netstackThreads ≠ [] → m.sender = some channel
  control : m.netstackThreads ≠ [] → m.control = some control

omit [DecidableEq Tid] in
theorem Stages.sender_eq {g : Stages Tid} {channel : ℕ} (h : g.released = some channel) :
    g.sender = some channel := by
  rw [released] at h
  rw [sender]
  rcases htunnel : g.tunnel with _ | ⟨t, d⟩ | c
  · rw [htunnel] at h
    cases h
  · rw [htunnel] at h
    rcases d <;> first | exact h | cases h
  · rw [htunnel] at h
    exact h

omit [DecidableEq Tid] in
theorem Stages.tunnelThreads_cases (g : Stages Tid) : g.tunnelThreads = []
    ∨ ∃ channel, g.sender = some channel ∧ g.tunnelThreads <+: tunnelWorkers channel := by
  rw [tunnelThreads, sender]
  rcases g.tunnel with _ | ⟨t, d⟩ | channel
  · exact .inl rfl
  · rcases d <;> first | exact .inl rfl | exact .inr ⟨_, rfl, List.take_prefix ..⟩
  · exact .inr ⟨channel, rfl, List.prefix_rfl⟩

omit [DecidableEq Tid] in
theorem Stages.netstackThreads_cases (g : Stages Tid) : g.netstackThreads = []
    ∨ ∃ channel control, g.takenChannel = some channel ∧ g.control = some control
      ∧ g.netstackThreads <+: netstackWorkers channel control := by
  rw [netstackThreads, takenChannel, control]
  rcases g.netstack with _ | ⟨t, d⟩ | ⟨channel, _ | control⟩
  · exact .inl rfl
  · rcases d <;> first | exact .inl rfl | exact .inr ⟨_, _, rfl, rfl, List.take_prefix ..⟩
  · exact .inl rfl
  · exact .inr ⟨channel, control, rfl, rfl, List.prefix_rfl⟩

omit [DecidableEq Tid] in
theorem Stages.Agrees.wired {g : Stages Tid} {m : RuntimeMemory Tid} (h : g.Agrees m) :
    Wired m (g.sender.getD 0) (g.control.getD 0) := by
  have htunnel : m.tunnelThreads <+: tunnelWorkers (g.sender.getD 0)
      ∧ (m.tunnelThreads ≠ [] → m.sender = some (g.sender.getD 0)) := by
    rw [h.tunnelThreads, h.sender]
    rcases g.tunnelThreads_cases with hnil | ⟨channel, hsender, hfirst⟩
    · rw [hnil]
      exact ⟨List.nil_prefix, fun hne ↦ absurd rfl hne⟩
    · rw [hsender]
      exact ⟨hfirst, fun _ ↦ rfl⟩
  have hnetstack : m.netstackThreads <+: netstackWorkers (g.sender.getD 0) (g.control.getD 0)
      ∧ (m.netstackThreads ≠ [] → m.sender = some (g.sender.getD 0)
        ∧ m.control = some (g.control.getD 0)) := by
    rw [h.netstackThreads, h.sender, h.control]
    rcases g.netstackThreads_cases with hnil | ⟨channel, control, htaken, hcontrol, hfirst⟩
    · rw [hnil]
      exact ⟨List.nil_prefix, fun hne ↦ absurd rfl hne⟩
    · rw [Stages.sender_eq (h.takenChannel channel htaken), hcontrol]
      exact ⟨hfirst, fun _ ↦ ⟨rfl, rfl⟩⟩
  exact ⟨htunnel.1, hnetstack.1, fun hne ↦ hne.elim htunnel.2 fun hne' ↦ (hnetstack.2 hne').1,
    fun hne ↦ (hnetstack.2 hne).2⟩

/-- **One tunnel and one netstack**, in every interleaving of any number of requests: at most one
start of the tunnel succeeds, the receiver is given away at most once, to one who asked for it or to
the netstack, and a start of the netstack either finds it running or fails for want of the receiver,
and never because somebody else was faster. -/
theorem runtime_wired {s : RuntimeState Tid} (h : RuntimeReachable s) :
    (∃ channel control, Wired s.memory channel control)
      ∧ s.returned.countP startedTunnel ≤ 1
      ∧ s.returned.countP gotReceiver + s.memory.control.isSome.toNat ≤ 1
      ∧ ∀ x ∈ s.returned, ∀ control, x.req = .netstack control →
        NetstackResult s.memory.control x.result := by
  obtain ⟨spot, ⟨g, hinv⟩, -⟩ := h.holds
  refine ⟨⟨_, _, hinv.agrees.wired⟩, ?_, ?_, ?_⟩
  · rw [hinv.started]
    exact Bool.toNat_le _
  · rw [hinv.given, hinv.agrees.control]
    rcases g.control with _ | control
    · rw [Option.isNone_none, Bool.and_true]
      exact Bool.toNat_le _
    · rw [Option.isNone_some, Bool.and_false]
      exact le_rfl
  · rw [hinv.agrees.control]
    exact hinv.results

/-! ## Nobody waits for ever -/

/-- A thread waits for nothing if the lock is free or its own. -/
theorem enabled_of_holder {m : RuntimeMemory Tid} {spot : Tid → Spot} {t : Tid} {op : RuntimeOp}
    {returned : List (Shared.Return Tid RuntimeReq (Except EcError (Option ℕ)))}
    (h : ∃ g, RuntimeInv g m spot returned) (hm : m.holder = none ∨ m.holder = some t)
    (hmakes : (spot t).Makes op) :
    ∃ ans m', RuntimeMemory.Handle t op m ans m' ∧ (m'.holder = none ∨ m'.holder = some t) := by
  obtain ⟨g, hinv⟩ := h
  cases op with
  | lockReceiver =>
    have hrest : spot t = .rest := by
      generalize hspot : spot t = d at hmakes
      cases hmakes with
      | lock => rfl
      | impossible =>
        have hknows := hinv.knows t
        rw [hspot] at hknows
        exact hknows.elim
    have hfree : m.holder ≠ some t := by
      rw [Ne, ← hinv.locked t, hrest]
      exact Bool.false_ne_true
    exact ⟨_, _, .lockReceiver (hm.resolve_right hfree), .inr rfl⟩
  | clearFatalReason => exact ⟨_, _, .clearFatalReason, hm⟩
  | openStream => exact ⟨_, _, .openStream (.ok ()), hm⟩
  | initReceiver => exact ⟨_, _, .initReceiver, hm⟩
  | receiverExists => exact ⟨_, _, .receiverExists, hm⟩
  | unlockReceiver => exact ⟨_, _, .unlockReceiver, .inl rfl⟩
  | readReceiver => exact ⟨_, _, .readReceiver, hm⟩
  | writeReceiver => exact ⟨_, _, .writeReceiver, hm⟩
  | takeReceiver => exact ⟨_, _, .takeReceiver, hm⟩
  | getSender => exact ⟨_, _, .getSender, hm⟩
  | setSender => exact ⟨_, _, .setSender, hm⟩
  | getControl => exact ⟨_, _, .getControl, hm⟩
  | setControl => exact ⟨_, _, .setControl, hm⟩
  | spawnTunnel => exact ⟨_, _, .spawnTunnel, hm⟩
  | spawnNetstack => exact ⟨_, _, .spawnNetstack, hm⟩

theorem idle_update {α : Type} {running : Tid → Option α} {t : Tid} (t' : Tid)
    (h : running t' = none) : Function.update running t none t' = none := by
  by_cases heq : t' = t
  · rw [heq, Function.update_self]
  · rw [Function.update_of_ne heq, h]

/-- **Nobody waits for ever**: from every state of the process, each request can come to its end
without a new one. -/
theorem runtime_returns {s : RuntimeState Tid} (h : RuntimeReachable s) (t : Tid) :
    ∃ s', RuntimeReachable s'
      ∧ Relation.ReflTransGen (Shared.Step RuntimeReq.body RuntimeMemory.Handle) s s'
      ∧ s'.running t = none ∧ ∀ t', s.running t' = none → s'.running t' = none := by
  -- first the thread inside lets go of the lock
  obtain ⟨s₁, hrun₁, hidle₁, hfree⟩ : ∃ s₁,
      Relation.ReflTransGen (Shared.Step RuntimeReq.body RuntimeMemory.Handle) s s₁
        ∧ (∀ t', s.running t' = none → s₁.running t' = none) ∧ s₁.memory.holder = none := by
    rcases hholder : s.memory.holder with _ | inside
    · exact ⟨s, .refl, fun _ ↦ id, hholder⟩
    obtain ⟨s₁, hrun, hrunning, hlock⟩ :=
      h.holds.exists_finish (t := inside) enabled_of_holder (.inr hholder)
    have hidle : ∀ t', s.running t' = none → s₁.running t' = none := by
      rw [hrunning]
      exact idle_update
    refine ⟨s₁, hrun, hidle, hlock.resolve_right fun hinside ↦ ?_⟩
    obtain ⟨spot, ⟨g, hinv⟩, hfits⟩ := RuntimeReachable.holds (h.trans hrun)
    have hrest : spot inside = .rest := by
      have hfit := hfits inside
      rwa [hrunning, Function.update_self] at hfit
    rw [← hinv.locked inside, hrest] at hinside
    cases hinside
  obtain ⟨s₂, hrun₂, hrunning, -⟩ :=
    (RuntimeReachable.holds (h.trans hrun₁)).exists_finish (t := t) enabled_of_holder (.inl hfree)
  refine ⟨s₂, (h.trans hrun₁).trans hrun₂, hrun₁.trans hrun₂, ?_, fun t' ht' ↦ ?_⟩
  · rw [hrunning, Function.update_self]
  · rw [hrunning]
    exact idle_update t' (hidle₁ t' ht')

/-! ## A start of both -/

omit [DecidableEq Tid] in
theorem alone_tunnel {t : Tid} {server token : String} {endpoint : String × String}
    {bytes : Vector UInt8 protocolTokenLen} (hserver : parseServer server = .ok endpoint)
    (htoken : parseProtocolToken token = .ok bytes) (channel : ℕ) :
    Shared.Alone RuntimeMemory.Handle t (RuntimeReq.tunnel server token channel).body .initial
      (.ok none) ⟨some channel, some (some channel), none, none, tunnelWorkers channel, []⟩ := by
  refine .call .clearFatalReason ?_
  rcases hserver' : parseServer server with e | endpoint'
  · rw [hserver] at hserver'
    cases hserver'
  rcases htoken' : parseProtocolToken token with e | bytes'
  · rw [htoken] at htoken'
    cases htoken'
  refine .call (.openStream (.ok ())) (.call (.openStream (.ok ())) (.call .initReceiver ?_))
  refine .call (.lockReceiver rfl) (.call .readReceiver (.call .getSender (.call .setSender ?_)))
  refine .call .writeReceiver (.call .unlockReceiver ?_)
  exact .call .spawnTunnel (.call .spawnTunnel (.call .spawnTunnel .done))

omit [DecidableEq Tid] in
theorem alone_netstack {t : Tid} {m : RuntimeMemory Tid} {channel : ℕ} (control : ℕ)
    (hreceiver : m.receiver = some (some channel)) (hholder : m.holder = none)
    (hcontrol : m.control = none) (hthreads : m.netstackThreads = []) :
    Shared.Alone RuntimeMemory.Handle t (RuntimeReq.netstack control).body m (.ok none)
      { m with
        receiver := some none
        control := some control
        netstackThreads := netstackWorkers channel control } := by
  obtain ⟨sender, _, _, _, threads, _⟩ := m
  obtain rfl := hreceiver
  obtain rfl := hholder
  obtain rfl := hcontrol
  obtain rfl := hthreads
  refine .call .getControl (.call .receiverExists (.call (.lockReceiver rfl) ?_))
  refine .call .takeReceiver (.call .unlockReceiver (.call .setControl ?_))
  exact .call .spawnNetstack (.call .spawnNetstack .done)

def sampleToken : String := "012345678901234567890123456789012345678901234567"

theorem exists_sampleToken : ∃ bytes, parseProtocolToken sampleToken = .ok bytes := by
  have hlen : (Utf8.asBytes sampleToken).length = protocolTokenLen := by decide +kernel
  exact ⟨⟨(Utf8.asBytes sampleToken).toArray, hlen⟩, parseProtocolToken_eq_ok_iff.mpr rfl⟩

/-- The tunnel has been started, and nobody is at work. -/
theorem exists_started : ∃ s : RuntimeState (Fin 2), RuntimeReachable s
    ∧ (∀ t, s.running t = none) ∧ s.memory.receiver = some (some 3) ∧ s.memory.holder = none
    ∧ s.memory.control = none ∧ s.memory.netstackThreads = [] := by
  obtain ⟨bytes, htoken⟩ := exists_sampleToken
  have hserver :
      parseServer "vpn.example.com" = .ok ("vpn.example.com:443", "vpn.example.com") := by
    decide +kernel
  have hinitial : RuntimeReachable (⟨.initial, fun _ ↦ none, []⟩ : RuntimeState (Fin 2)) := .refl
  exact ⟨_, hinitial.alone rfl (alone_tunnel (t := 0) hserver htoken 3), fun _ ↦ rfl, rfl, rfl, rfl,
    rfl⟩

theorem runtime_wired_started : ∃ s : RuntimeState (Fin 2),
    s.memory.netstackThreads = [.forwarder 3 5, .netstackLoop 5]
      ∧ ∃ channel control, Wired s.memory channel control := by
  obtain ⟨s, hs, hidle, hreceiver, hholder, hcontrol, hthreads⟩ := exists_started
  have hboth := hs.alone (hidle 1) (alone_netstack 5 hreceiver hholder hcontrol hthreads)
  exact ⟨_, rfl, (runtime_wired hboth).1⟩

/-- One thread holds the lock, and another waits for it. -/
theorem exists_waiting : ∃ s : RuntimeState (Fin 2), RuntimeReachable s
    ∧ s.memory.holder = some 0 ∧ s.running 1 ≠ none := by
  obtain ⟨⟨⟨sender, receiver, holder, _⟩, running, _⟩, hs, hidle, hreceiver, hholder, -⟩ :=
    exists_started
  obtain rfl : receiver = some (some 3) := hreceiver
  obtain rfl : holder = none := hholder
  obtain ⟨next, next', hbody, hnext⟩ : ∃ next next', RuntimeReq.receiver.body
      = .call .receiverExists next ∧ next true = .call .lockReceiver next' := ⟨_, _, rfl, rfl⟩
  have hstart := hs.tail (.start (t := 0) .receiver (hidle 0))
  rw [hbody] at hstart
  have hexists := hstart.tail (.call (Function.update_self ..) .receiverExists)
  rw [Option.isSome_some, hnext] at hexists
  have hlock := hexists.tail (.call (Function.update_self ..) (.lockReceiver rfl))
  have hother := hlock.tail (.start (t := 1) .receiver (hidle 1))
  exact ⟨_, hother, rfl, nofun⟩

theorem runtime_returns_waiting : ∃ s s' : RuntimeState (Fin 2),
    s.memory.holder = some 0 ∧ s.running 1 ≠ none
      ∧ Relation.ReflTransGen (Shared.Step RuntimeReq.body RuntimeMemory.Handle) s s'
      ∧ s'.running 1 = none := by
  obtain ⟨s, hs, hholder, hwaits⟩ := exists_waiting
  obtain ⟨s', -, hrun, hend, -⟩ := runtime_returns hs 1
  exact ⟨s, s', hholder, hwaits, hrun, hend⟩

end Invariant

end ShiepPipeline
