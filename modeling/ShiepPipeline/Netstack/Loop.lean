import Mathlib.Logic.Relation
import ShiepPipeline.Netstack.Drive

/-!
# The loop of the netstack

`run_netstack_loop` waits for a message, handles it and up to 63 more, polls the interface, drives
the connections and then the associations, and starts again. `Step` is one move of that loop, or a
receiver being dropped by a client in the meantime. The messages, what a poll brings, the handles
that are picked and the orders in which the maps are gone over are anyone's choice.

The loop keeps a journal that no code reads, of the messages it handled and of the sockets it
closed and removed. From it comes the `History` of a connection: what its client has asked since it
was opened.

What a step does to the tables and to a single flow is worked out in the files after this one.
-/

open Net

namespace ShiepPipeline

variable {T : TcpSockets} {U : UdpSockets}

/-! ## The journal -/

/-- What the loop did. `closing` has the socket and the connection when `close` is called, and
`removed` what they were when they were removed. -/
inductive Event (T : TcpSockets)
  | handled (message : ControlMessage) (reply : Option (Except EcError UInt64))
  | closing (id : UInt64) (socket : T.Socket) (conn : ConnectionState)
  | removed (id : UInt64) (socket : T.Socket) (conn : ConnectionState)

namespace Event

/-- A connection was registered under this id. -/
def opens (id : UInt64) : Event T → Bool
  | .handled (.openTcp _) (some (.ok id')) => id' = id
  | _ => false

/-- A flow of either kind was asked for. -/
def isOpen : Event T → Bool
  | .handled (.openTcp _) _ => true
  | .handled .openUdp _ => true
  | _ => false

def sent (id : UInt64) : Event T → List UInt8
  | .handled (.send id' data) _ => if id' = id then data else []
  | _ => []

def asksClose (id : UInt64) : Event T → Bool
  | .handled (.close id') _ => id' = id
  | _ => false

end Event

/-- What has been asked of a connection since it was opened. -/
structure History where
  /-- How many flows had been asked for when it was opened. -/
  openedAt : ℕ
  requested : List UInt8
  closeAsked : Bool
deriving DecidableEq, Repr

/-- How many flows have been asked for. -/
def openCount (journal : List (Event T)) : ℕ := journal.countP Event.isOpen

/-- The history of the connection that has an id, from a journal with the latest event first. -/
def history (id : UInt64) : List (Event T) → History
  | [] => ⟨0, [], false⟩
  | e :: older =>
    if e.opens id then ⟨openCount older, [], false⟩
    else
      { openedAt := (history id older).openedAt
        requested := (history id older).requested ++ e.sent id
        closeAsked := (history id older).closeAsked || e.asksClose id }

/-- An event that does not concern a connection. -/
structure Event.Silent (id : UInt64) (e : Event T) : Prop where
  opens : e.opens id = false
  sent : e.sent id = []
  asksClose : e.asksClose id = false

theorem history_cons_of_silent {id : UInt64} {e : Event T} (h : e.Silent id)
    (older : List (Event T)) : history id (e :: older) = history id older := by
  simp [history, h.opens, h.sent, h.asksClose]

/-! ## The state of the loop -/

/-- Where the loop is. In `batch` it may handle so many more messages before it goes on. -/
inductive Phase
  | waiting
  | batch (left : ℕ)
  | polling
  | driving
  | drivingUdp
  | stopped
deriving DecidableEq, Repr

structure LoopState (T : TcpSockets) (U : UdpSockets) where
  net : Netstack T U
  phase : Phase
  journal : List (Event T)

/-- The phase after a message is received, where one can be. -/
def Phase.afterReceive : Phase → Option Phase
  | .waiting => some (.batch (maxControlBatch - 1))
  | .batch (left + 1) => some (.batch left)
  | _ => none

namespace Netstack

variable (n : Netstack T U)

/-- The events of one visit of `drive_connections`, the earliest first. -/
def visitEvents (id : UInt64) : List (Event T) :=
  match n.connections id with
  | none => []
  | some conn =>
    match n.sockets conn.handle with
    | some (.tcp s) =>
      (if T.closes s conn then [.closing id (T.pump s conn).1 (T.pump s conn).2] else [])
        ++ (if (T.driveConnection s conn).dead then
          [.removed id (T.driveConnection s conn).object (T.driveConnection s conn).entry] else [])
    | _ => []

def passEvents (order : List UInt64) : List (Event T) := order.flatMap n.visitEvents

end Netstack

/-- A poll changes sockets, but not which handles have one of which kind. -/
inductive Socket.Polled : Option (Socket T U) → Option (Socket T U) → Prop
  | free : Polled none none
  | tcp {s s' : T.Socket} (h : T.Polled s s') : Polled (some (.tcp s)) (some (.tcp s'))
  | udp {s s' : U.Socket} (h : U.Polled s s') : Polled (some (.udp s)) (some (.udp s'))

/-- The keys of a map, in some order. -/
structure Enumerates {κ ε : Type} (order : List κ) (entries : κ → Option ε) : Prop where
  nodup : order.Nodup
  mem_iff : ∀ k, k ∈ order ↔ (entries k).isSome

inductive Step : LoopState T U → LoopState T U → Prop
  /-- A message is received and handled. -/
  | receive {n : Netstack T U} {phase phase' : Phase} {journal : List (Event T)}
      (message : ControlMessage) (handle : SocketHandle)
      (hphase : phase.afterReceive = some phase') (hfree : n.sockets handle = none) :
      Step ⟨n, phase, journal⟩
        ⟨(n.handleControlMessage handle message).2, phase',
          .handled message (n.handleControlMessage handle message).1 :: journal⟩
  /-- No message arrived in time, or the batch is over. -/
  | endBatch {n : Netstack T U} {phase : Phase} {journal : List (Event T)}
      (hphase : phase = .waiting ∨ ∃ left, phase = .batch left) :
      Step ⟨n, phase, journal⟩ ⟨n, .polling, journal⟩
  /-- The control channel is found disconnected, which ends the loop. -/
  | disconnect {n : Netstack T U} {phase : Phase} {journal : List (Event T)}
      (hphase : phase.afterReceive ≠ none) :
      Step ⟨n, phase, journal⟩ ⟨n, .stopped, journal⟩
  | poll {n : Netstack T U} {journal : List (Event T)} (taken : ℕ) (iface : T.Context)
      {sockets : SocketHandle → Option (Socket T U)}
      (hsockets : ∀ h, Socket.Polled (n.sockets h) (sockets h)) :
      Step ⟨n, .polling, journal⟩
        ⟨{ n with rxQueue := n.rxQueue.drop taken, iface, sockets }, .driving, journal⟩
  | drive {n n' : Netstack T U} {journal : List (Event T)} {order : List UInt64}
      (horder : Enumerates order n.connections) (hdrive : n.driveConnections order = some n') :
      Step ⟨n, .driving, journal⟩
        ⟨n', .drivingUdp, (n.passEvents order).reverse ++ journal⟩
  | driveUdp {n n' : Netstack T U} {journal : List (Event T)} {order : List UInt64}
      (horder : Enumerates order n.udpAssociations)
      (hdrive : n.driveUdpAssociations order = some n') :
      Step ⟨n, .drivingUdp, journal⟩ ⟨n', .waiting, journal⟩
  /-- The receiver of a connection is going to be dropped. -/
  | dropReceiver {n : Netstack T U} {phase : Phase} {journal : List (Event T)} (id : UInt64)
      {conn : ConnectionState} (hconn : n.connections id = some conn)
      (halive : conn.uplink.left = none) (left : ℕ) :
      Step ⟨n, phase, journal⟩
        ⟨n.modifyConnection id fun conn ↦ { conn with uplink := conn.uplink.drop left }, phase,
          journal⟩
  | dropUdpReceiver {n : Netstack T U} {phase : Phase} {journal : List (Event T)} (id : UInt64)
      {assoc : UdpAssociationState} (hassoc : n.udpAssociations id = some assoc)
      (halive : assoc.uplink.left = none) (left : ℕ) :
      Step ⟨n, phase, journal⟩
        ⟨n.modifyUdpAssociation id fun assoc ↦ { assoc with uplink := assoc.uplink.drop left },
          phase, journal⟩

def LoopState.initial (iface : T.Context) : LoopState T U := ⟨.initial iface, .waiting, []⟩

/-- The states that runs lead to. -/
def Reachable (s : LoopState T U) : Prop :=
  ∃ iface, Relation.ReflTransGen Step (.initial iface) s

/-- The states that runs lead to all of whose steps meet a condition. -/
def ReachableWhere (ok : LoopState T U → LoopState T U → Prop) (s : LoopState T U) : Prop :=
  ∃ iface, Relation.ReflTransGen (fun s s' ↦ Step s s' ∧ ok s s') (.initial iface) s

theorem ReachableWhere.reachable {ok : LoopState T U → LoopState T U → Prop} {s : LoopState T U}
    (h : ReachableWhere ok s) : Reachable s := by
  obtain ⟨iface, hrun⟩ := h
  exact ⟨iface, Relation.ReflTransGen.mono (fun _ _ hstep ↦ hstep.1) _ _ hrun⟩

theorem ReachableWhere.tail {ok : LoopState T U → LoopState T U → Prop} {s s' : LoopState T U}
    (h : ReachableWhere ok s) (hstep : Step s s') (hok : ok s s') : ReachableWhere ok s' := by
  obtain ⟨iface, hrun⟩ := h
  exact ⟨iface, hrun.tail ⟨hstep, hok⟩⟩

theorem Reachable.reachableWhere {ok : LoopState T U → LoopState T U → Prop}
    (hok : ∀ s s', ok s s') {s : LoopState T U} (h : Reachable s) : ReachableWhere ok s := by
  obtain ⟨iface, hrun⟩ := h
  exact ⟨iface, Relation.ReflTransGen.mono (fun s s' hstep ↦ ⟨hstep, hok s s'⟩) _ _ hrun⟩

theorem Reachable.tail {s s' : LoopState T U} (h : Reachable s) (hstep : Step s s') :
    Reachable s' := by
  obtain ⟨iface, hrun⟩ := h
  exact ⟨iface, hrun.tail hstep⟩

theorem Reachable.induct {motive : LoopState T U → Prop} (hinit : ∀ iface, motive (.initial iface))
    (hstep : ∀ s s', Reachable s → Step s s' → motive s → motive s') {s : LoopState T U}
    (h : Reachable s) : motive s := by
  obtain ⟨iface, hrun⟩ := h
  induction hrun with
  | refl => exact hinit iface
  | tail hrun h ih => exact hstep _ _ ⟨iface, hrun⟩ h ih

end ShiepPipeline
