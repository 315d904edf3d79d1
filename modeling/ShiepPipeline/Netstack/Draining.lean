import Mathlib.Data.Set.Finite.Basic
import ShiepPipeline.Netstack.Inbound

/-!
# Nothing is stuck on the way in

The loop of the netstack can always go on: there is a handle for a new socket, the tables can be
gone over, and no typed access panics. So it comes round to receive the next message, however many
there are, and the interface takes what has reached the device.

`inbound_drains` follows the packets: from every reachable state there is a run, without another
read, in which the interface takes everything that the worker has read. `handled_since_poll` bounds
how long that takes, whatever the clients send: between two polls there are at most 64 messages.
-/

open Program Thread

namespace ShiepPipeline

variable {T : TcpSockets} {U : UdpSockets}

/-! ## The loop can go on -/

theorem exists_enumerates {ε : Type} (entries : UInt64 → Option ε) :
    ∃ order, Enumerates order entries := by
  have hfinite : Finite UInt64 := Finite.of_injective UInt64.toFin fun _ _ h ↦ UInt64.toFin_inj.mp h
  refine ⟨(Set.toFinite {k | (entries k).isSome}).toFinset.toList, Finset.nodup_toList _,
    fun k ↦ ?_⟩
  rw [Finset.mem_toList, Set.Finite.mem_toFinset]
  rfl

namespace Netstack

variable (n : Netstack T U)

/-- There are sockets below some handle only. -/
def Bounded : Prop := ∃ bound : ℕ, ∀ h : ℕ, bound ≤ h → n.sockets h = none

variable {n}

theorem sockets_handleControlMessage_of_ne {handle h : SocketHandle} (message : ControlMessage)
    (hne : h ≠ handle) : (n.handleControlMessage handle message).2.sockets h = n.sockets h := by
  cases message with
  | openTcp target =>
    rw [handleControlMessage, openConnection]
    dsimp only
    split <;> exact Function.update_of_ne hne _ _
  | openUdp =>
    rw [handleControlMessage, openUdpAssociationInner]
    dsimp only
    split
    · exact Function.update_of_ne hne _ _
    · rfl
  | tunnelPacket | send | sendUdp | close | closeUdp => rfl

theorem Bounded.drive (h : n.Bounded) (howned : n.Owned) {n' : Netstack T U} {order : List UInt64}
    (horder : Enumerates order n.connections) (hdrive : n.driveConnections order = some n') :
    n'.Bounded := by
  obtain ⟨bound, hbound⟩ := h
  obtain ⟨connections, sockets, hspec, hswept⟩ := driveConnections_spec howned horder
  obtain rfl := Option.some.inj (hspec.symm.trans hdrive)
  refine ⟨bound, fun h hle ↦ ?_⟩
  have hframe : sockets h = n.sockets h := hswept.frame fun {k conn} hconn heq ↦ by
    obtain ⟨socket, -, hsocket⟩ := howned.holds hconn
    obtain rfl : conn.handle = h := heq
    exact absurd (hsocket.symm.trans (hbound _ hle)) (Option.some_ne_none _)
  exact hframe.trans (hbound h hle)

theorem Bounded.driveUdp (h : n.Bounded) (howned : n.Owned) {n' : Netstack T U}
    {order : List UInt64} (horder : Enumerates order n.udpAssociations)
    (hdrive : n.driveUdpAssociations order = some n') : n'.Bounded := by
  obtain ⟨bound, hbound⟩ := h
  obtain ⟨udpAssociations, sockets, hspec, hswept⟩ := driveUdpAssociations_spec howned horder
  obtain rfl := Option.some.inj (hspec.symm.trans hdrive)
  refine ⟨bound, fun h hle ↦ ?_⟩
  have hframe : sockets h = n.sockets h := hswept.frame fun {k assoc} hassoc heq ↦ by
    obtain ⟨socket, -, hsocket⟩ := howned.holdsUdp hassoc
    obtain rfl : assoc.handle = h := heq
    exact absurd (hsocket.symm.trans (hbound _ hle)) (Option.some_ne_none _)
  exact hframe.trans (hbound h hle)

end Netstack

theorem Step.bounded {s s' : LoopState T U} (h : Step s s') (howned : s.net.Owned)
    (hbounded : s.net.Bounded) : s'.net.Bounded := by
  cases h with
  | receive message handle =>
    obtain ⟨bound, hbound⟩ := hbounded
    refine ⟨max bound (handle + 1), fun h hle ↦ ?_⟩
    obtain ⟨hle, hlt⟩ := max_le_iff.mp hle
    rw [Netstack.sockets_handleControlMessage_of_ne message (Nat.ne_of_gt hlt)]
    exact hbound h hle
  | endBatch | disconnect => exact hbounded
  | @poll _ _ taken iface sockets hsockets =>
    obtain ⟨bound, hbound⟩ := hbounded
    refine ⟨bound, fun h hle ↦ ?_⟩
    have hpolled := hsockets h
    rw [hbound h hle] at hpolled
    generalize hafter : sockets h = o at hpolled
    obtain _ | _ | _ := hpolled
    exact hafter
  | drive horder hdrive => exact hbounded.drive howned horder hdrive
  | driveUdp horder hdrive => exact hbounded.driveUdp howned horder hdrive
  | dropReceiver | dropUdpReceiver => exact hbounded

/-- There is always a handle for a new socket. -/
theorem Reachable.exists_free {s : LoopState T U} (h : Reachable s) :
    ∃ handle, s.net.sockets handle = none := by
  have hbounded : s.net.Bounded :=
    h.induct (fun _ ↦ ⟨0, fun _ _ ↦ rfl⟩) fun _ _ hreach hstep hb ↦ hstep.bounded hreach.owned hb
  obtain ⟨bound, hbound⟩ := hbounded
  exact ⟨bound, hbound bound le_rfl⟩

/-! ## Between two polls -/

/-- How many more messages the loop may receive before it polls. -/
def Phase.room : Phase → ℕ
  | .waiting => maxControlBatch
  | .batch left => left
  | .polling => 0
  | .driving => maxControlBatch
  | .drivingUdp => maxControlBatch
  | .stopped => 0

theorem Phase.room_afterReceive {phase phase' : Phase} (h : phase.afterReceive = some phase') :
    phase'.room + 1 = phase.room := by
  cases phase with
  | batch left =>
    cases left with
    | zero => exact nomatch h
    | succ left =>
      obtain rfl := Option.some.inj h
      rfl
  | waiting =>
    obtain rfl := Option.some.inj h
    rfl
  | polling | driving | drivingUdp | stopped => exact nomatch h

theorem Phase.room_le_of_reachable {s : LoopState T U} (h : Reachable s) :
    s.phase.room ≤ maxControlBatch := by
  refine h.induct (motive := fun s ↦ s.phase.room ≤ maxControlBatch) (fun _ ↦ le_rfl)
    fun s s' _ hstep hroom ↦ ?_
  cases hstep with
  | receive message handle hphase =>
    have hless := Phase.room_afterReceive hphase
    dsimp only at hroom ⊢
    omega
  | endBatch | disconnect => exact Nat.zero_le _
  | poll | drive | driveUdp => exact le_rfl
  | dropReceiver | dropUdpReceiver => exact hroom

theorem Step.handled_add_room {s s' : LoopState T U} (h : Step s s')
    (hpoll : s.phase = .polling → s'.phase = .polling) :
    (handled s'.journal).length + s'.phase.room
      ≤ (handled s.journal).length + s.phase.room := by
  cases h with
  | @receive _ _ _ journal message handle hphase =>
    have hless := Phase.room_afterReceive hphase
    have hone : ∀ e : Event T, e.message.isSome →
        (handled (e :: journal)).length = (handled journal).length + 1 := by
      intro e he
      obtain ⟨m, hm⟩ := Option.isSome_iff_exists.mp he
      rw [handled, handled, List.filterMap_cons_some hm, List.length_reverse, List.length_reverse,
        List.length_cons]
    rw [hone _ rfl]
    dsimp only
    omega
  | endBatch | disconnect => exact Nat.add_le_add_left (Nat.zero_le _) _
  | poll => exact absurd (hpoll rfl) Phase.driving_ne_polling
  | drive => exact Nat.add_le_add_right (congrArg List.length (handled_passEvents ..)).le _
  | driveUdp | dropReceiver | dropUdpReceiver => exact le_rfl

/-- **The clients do not keep the interface waiting**: however many messages there are, the loop
receives at most 64 of them before it polls again. -/
theorem handled_since_poll {s s' : LoopState T U} (h : Reachable s)
    (hrun : Relation.ReflTransGen
      (fun a b ↦ Step a b ∧ (a.phase = .polling → b.phase = .polling)) s s') :
    (handled s'.journal).length ≤ (handled s.journal).length + 64 := by
  have hroom : (handled s'.journal).length + s'.phase.room
      ≤ (handled s.journal).length + s.phase.room := by
    induction hrun with
    | refl => exact le_rfl
    | tail _ hstep ih => exact (hstep.1.handled_add_room hstep.2).trans ih
  have hmax : s.phase.room ≤ 64 := Phase.room_le_of_reachable h
  omega

/-- One message is received, and the batch goes on. -/
theorem handled_since_poll_one : ∃ s s' : LoopState .plain .plain,
    Reachable s ∧ s'.phase = .batch 63 ∧ (handled s'.journal).length = 1
      ∧ (handled s'.journal).length ≤ (handled s.journal).length + 64 := by
  have hstep : Step (.initial () : LoopState .plain .plain) _ :=
    .receive (.tunnelPacket [0x45]) 0 rfl rfl
  exact ⟨_, _, ⟨(), .refl⟩, rfl, rfl, handled_since_poll ⟨(), .refl⟩ (.single ⟨hstep, nofun⟩)⟩

/-! ## The packets go through -/

namespace Inbound

variable {s s' s'' : Inbound T U}

/-- A run in which only the loop moves. -/
structure LoopRun (s s' : Inbound T U) : Prop where
  run : Relation.ReflTransGen Step s s'
  worker : s'.worker = s.worker
  forwarder : s'.forwarder = s.forwarder
  sent : s'.sent = s.sent

theorem LoopRun.refl (s : Inbound T U) : LoopRun s s := ⟨.refl, rfl, rfl, rfl⟩

theorem LoopRun.trans (h : LoopRun s s') (h' : LoopRun s' s'') : LoopRun s s'' :=
  ⟨h.run.trans h'.run, h'.worker.trans h.worker, h'.forwarder.trans h.forwarder,
    h'.sent.trans h.sent⟩

theorem LoopRun.of_step {loop : LoopState T U} (hstep : ShiepPipeline.Step s.loop loop)
    (hpoll : s.loop.phase ≠ .polling) (hreceived : handled loop.journal <+: s.sent)
    (hconnected : loop.phase ≠ .stopped) : LoopRun s { s with loop } :=
  ⟨.single (.loop hstep (fun h ↦ absurd h hpoll) hreceived fun h ↦ absurd h hconnected), rfl, rfl,
    rfl⟩

/-- The loop comes to wait for the next message, without having received one. -/
structure ComesRound (s s' : Inbound T U) : Prop extends LoopRun s s' where
  phase : s'.loop.phase = .waiting
  handled : handled s'.loop.journal = handled s.loop.journal

theorem ComesRound.inControl (h : ComesRound s s') : s'.inControl = s.inControl := by
  rw [Inbound.inControl, h.sent, h.handled]
  rfl

theorem Reachable.exists_waiting_of_drivingUdp (h : s.Reachable)
    (hphase : s.loop.phase = .drivingUdp) :
    ∃ s', ComesRound s s' ∧ s'.loop.net.rxQueue = s.loop.net.rxQueue := by
  have howned := h.loop.owned
  have hhandled := h.inOrder.handled
  obtain ⟨worker, forwarder, sent, ⟨n, phase, journal⟩, taken, senders⟩ := s
  obtain rfl : phase = .drivingUdp := hphase
  obtain ⟨order, horder⟩ := exists_enumerates n.udpAssociations
  obtain ⟨udpAssociations, sockets, hdrive, -⟩ := Netstack.driveUdpAssociations_spec howned horder
  exact ⟨_, ⟨.of_step (.driveUdp horder hdrive) nofun hhandled nofun, rfl, rfl⟩, rfl⟩

theorem Reachable.exists_waiting_of_driving (h : s.Reachable) (hphase : s.loop.phase = .driving) :
    ∃ s', ComesRound s s' ∧ s'.loop.net.rxQueue = s.loop.net.rxQueue := by
  have howned := h.loop.owned
  have hhandled := h.inOrder.handled
  obtain ⟨worker, forwarder, sent, ⟨n, phase, journal⟩, taken, senders⟩ := s
  obtain rfl : phase = .driving := hphase
  obtain ⟨order, horder⟩ := exists_enumerates n.connections
  obtain ⟨connections, sockets, hdrive, -⟩ := Netstack.driveConnections_spec howned horder
  have hsame : handled ((n.passEvents order).reverse ++ journal) = handled journal :=
    handled_passEvents n order journal
  have hstep := LoopRun.of_step
    (s := ⟨worker, forwarder, sent, ⟨n, .driving, journal⟩, taken, senders⟩)
    (.drive horder hdrive) nofun (hsame ▸ hhandled) nofun
  obtain ⟨s', hround, hqueue⟩ := (h.trans hstep.run).exists_waiting_of_drivingUdp rfl
  exact ⟨s', ⟨hstep.trans hround.toLoopRun, hround.phase, hround.handled.trans hsame⟩, hqueue⟩

section Polls

variable (htcp : ∀ x : T.Socket, ∃ x', T.Polled x x') (hudp : ∀ x : U.Socket, ∃ x', U.Polled x x')

include htcp hudp

theorem exists_polled (sockets : SocketHandle → Option (Socket T U)) :
    ∃ sockets' : SocketHandle → Option (Socket T U),
      ∀ h, Socket.Polled (sockets h) (sockets' h) := by
  have hone : ∀ o : Option (Socket T U), ∃ o', Socket.Polled o o' := by
    rintro (_ | x | x)
    · exact ⟨none, .free⟩
    · obtain ⟨x', hx⟩ := htcp x
      exact ⟨_, .tcp hx⟩
    · obtain ⟨x', hx⟩ := hudp x
      exact ⟨_, .udp hx⟩
  exact Classical.axiomOfChoice fun h ↦ hone (sockets h)

theorem Reachable.exists_polled (h : s.Reachable) (hphase : s.loop.phase = .polling) :
    ∃ s', ComesRound s s' ∧ s'.loop.net.rxQueue = [] := by
  obtain ⟨worker, forwarder, sent, ⟨n, phase, journal⟩, taken, senders⟩ := s
  obtain rfl : phase = .polling := hphase
  obtain ⟨sockets, hsockets⟩ := Inbound.exists_polled htcp hudp n.sockets
  have hstep : LoopRun ⟨worker, forwarder, sent, ⟨n, .polling, journal⟩, taken, senders⟩ _ :=
    ⟨.single (.poll n.rxQueue.length n.iface rfl hsockets), rfl, rfl, rfl⟩
  obtain ⟨s', hround, hqueue⟩ := (h.trans hstep.run).exists_waiting_of_driving rfl
  refine ⟨s', ⟨hstep.trans hround.toLoopRun, hround.phase, hround.handled⟩, ?_⟩
  rw [hqueue]
  exact List.drop_length

theorem Reachable.exists_polled_of_batch (h : s.Reachable)
    (hphase : s.loop.phase = .waiting ∨ ∃ left, s.loop.phase = .batch left) :
    ∃ s', ComesRound s s' ∧ s'.loop.net.rxQueue = [] := by
  have hhandled := h.inOrder.handled
  obtain ⟨worker, forwarder, sent, ⟨n, phase, journal⟩, taken, senders⟩ := s
  have hpoll : phase ≠ .polling := by
    rintro rfl
    obtain heq | ⟨left, heq⟩ := hphase <;> exact nomatch heq
  have hstep := LoopRun.of_step
    (s := ⟨worker, forwarder, sent, ⟨n, phase, journal⟩, taken, senders⟩)
    (.endBatch hphase) hpoll hhandled nofun
  obtain ⟨s', hround, hqueue⟩ := (h.trans hstep.run).exists_polled htcp hudp rfl
  exact ⟨s', ⟨hstep.trans hround.toLoopRun, hround.phase, hround.handled⟩, hqueue⟩

/-- The interface takes what has reached the device. -/
theorem Reachable.exists_rxQueue_nil (h : s.Reachable) :
    ∃ s', ComesRound s s' ∧ s'.loop.net.rxQueue = [] := by
  have hagain : ∀ {s' : Inbound T U}, ComesRound s s' →
      ∃ s'', ComesRound s s'' ∧ s''.loop.net.rxQueue = [] := by
    intro s' hround
    obtain ⟨s'', hnext, hqueue⟩ :=
      (h.trans hround.run).exists_polled_of_batch htcp hudp (.inl hround.phase)
    exact ⟨s'', ⟨hround.toLoopRun.trans hnext.toLoopRun, hnext.phase,
      hnext.handled.trans hround.handled⟩, hqueue⟩
  cases hphase : s.loop.phase with
  | waiting => exact h.exists_polled_of_batch htcp hudp (.inl hphase)
  | batch left => exact h.exists_polled_of_batch htcp hudp (.inr ⟨left, hphase⟩)
  | polling => exact h.exists_polled htcp hudp hphase
  | driving =>
    obtain ⟨s', hround, -⟩ := h.exists_waiting_of_driving hphase
    exact hagain hround
  | drivingUdp =>
    obtain ⟨s', hround, -⟩ := h.exists_waiting_of_drivingUdp hphase
    exact hagain hround
  | stopped => exact absurd hphase h.inOrder.connected

omit htcp hudp in
/-- The loop receives the next message. -/
theorem Reachable.exists_received (h : s.Reachable) (hphase : s.loop.phase = .waiting)
    {message : ControlMessage} {rest : List ControlMessage}
    (hcontrol : s.inControl = message :: rest) :
    ∃ s', LoopRun s s' ∧ s'.inControl = rest := by
  obtain ⟨handle, hfree⟩ := h.loop.exists_free
  have hsent := h.inOrder.handled_append_inControl
  rw [hcontrol] at hsent
  obtain ⟨worker, forwarder, sent, ⟨n, phase, journal⟩, taken, senders⟩ := s
  obtain rfl : phase = .waiting := hphase
  have hone : ∀ reply, handled (.handled message reply :: journal : List (Event T))
      = handled journal ++ [message] := fun _ ↦ List.reverse_cons
  have hsplit : sent = handled journal ++ [message] ++ rest := by
    rw [List.append_assoc]
    exact hsent.symm
  have hstep := LoopRun.of_step
    (s := ⟨worker, forwarder, sent, ⟨n, .waiting, journal⟩, taken, senders⟩)
    (.receive message handle rfl hfree) nofun (by rw [hone, hsplit]; exact List.prefix_append ..)
    nofun
  refine ⟨_, hstep, ?_⟩
  rw [inControl, hone, hsplit]
  exact List.drop_left

theorem Reachable.exists_inControl_nil (h : s.Reachable) :
    ∃ s', LoopRun s s' ∧ s'.inControl = [] ∧ s'.loop.net.rxQueue = [] := by
  generalize hmessages : s.inControl = messages
  induction messages generalizing s with
  | nil =>
    obtain ⟨s', hround, hqueue⟩ := h.exists_rxQueue_nil htcp hudp
    exact ⟨s', hround.toLoopRun, hround.inControl.trans hmessages, hqueue⟩
  | cons message rest ih =>
    obtain ⟨s₁, hround, -⟩ := h.exists_rxQueue_nil htcp hudp
    obtain ⟨s₂, hreceived, hrest⟩ := (h.trans hround.run).exists_received hround.phase
      (hround.inControl.trans hmessages)
    have hrun := hround.toLoopRun.trans hreceived
    obtain ⟨s', hlast, hdone⟩ := ih (h.trans hrun.run) hrest
    exact ⟨s', hrun.trans hlast, hdone⟩

end Polls

/-! ## The forwarder and the worker -/

/-- A run in which only the thread that forwards moves. -/
structure ForwardRun (s s' : Inbound T U) : Prop where
  run : Relation.ReflTransGen Step s s'
  worker : s'.worker = s.worker

theorem ForwardRun.trans (h : ForwardRun s s') (h' : ForwardRun s' s'') : ForwardRun s s'' :=
  ⟨h.run.trans h'.run, h'.worker.trans h.worker⟩

/-- The thread that forwards has nothing in hand, and is about to receive if there is something. -/
def HandsFree (s : Inbound T U) : Prop :=
  packetsReceived s.forwarder.trace = packetsForwarded s.forwarder.trace
    ∧ (s.forwarder.left = forwardLoop () ∨ s.inChannel = [])

theorem Reachable.exists_handsFree (h : s.Reachable) :
    ∃ s', ForwardRun s s' ∧ s'.inChannel = s.inChannel ∧ s'.HandsFree := by
  obtain ⟨hand, hstands, hhand⟩ := h.inOrder.forwarder
  have hclosed := h.inOrder.closed
  have haccepted := h.inOrder.accepted
  have hconnected := h.inOrder.connected
  obtain ⟨worker, forwarder, sent, loop, taken, senders⟩ := s
  cases hstands with
  | receiving => exact ⟨_, ⟨.refl, rfl⟩, rfl, hhand.trans (List.append_nil _), .inl rfl⟩
  | @sending t packet =>
    have hsend : ∀ e ∈ some (⟨.send packet, true⟩ : Exchange ForwardOp ForwardAns),
        ForwarderAllows ⟨worker, ⟨t, forwardPacket packet⟩, sent, loop, taken, senders⟩ e := by
      rintro _ ⟨⟩
      exact iff_of_true rfl hconnected
    have hsent : Step ⟨worker, ⟨t, forwardPacket packet⟩, sent, loop, taken, senders⟩ _ :=
      .forward (.call true) hsend
    refine ⟨_, ⟨.head hsent (.single (.forward .again nofun)), rfl⟩, ?_, ?_, .inl rfl⟩
    · rw [inChannel, inChannel]
      dsimp only
      rw [packetsReceived_append]
      exact congrArg (List.drop · _) (congrArg List.length (List.append_nil _))
    · dsimp only
      rw [packetsReceived_append, packetsForwarded_append]
      exact (List.append_nil _).trans hhand
  | looping =>
    exact ⟨_, ⟨.single (.forward .again nofun), rfl⟩, rfl, hhand.trans (List.append_nil _),
      .inl rfl⟩
  | closed hmem =>
    exact ⟨_, ⟨.refl, rfl⟩, rfl, hhand.trans (List.append_nil _), .inr (hclosed hmem).2⟩
  | refused hmem => exact absurd hmem (haccepted _)

/-- The thread that forwards receives the next packet. -/
theorem Reachable.exists_forwarding (h : s.Reachable) (hleft : s.forwarder.left = forwardLoop ())
    {packet : List UInt8} {rest : List (List UInt8)} (hchannel : s.inChannel = packet :: rest) :
    ∃ s', ForwardRun s s' ∧ s'.inChannel = rest := by
  have hsent := h.inOrder.received_append_inChannel
  rw [hchannel] at hsent
  obtain ⟨worker, ⟨t, p⟩, sent, loop, taken, senders⟩ := s
  obtain rfl : p = forwardLoop () := hleft
  have hsplit : packetsSent worker.trace = packetsReceived t ++ [packet] ++ rest := by
    rw [List.append_assoc]
    exact hsent.symm
  have hrecv : ∀ e ∈ some (⟨.recv, some packet⟩ : Exchange ForwardOp ForwardAns),
      ForwarderAllows ⟨worker, ⟨t, forwardLoop ()⟩, sent, loop, taken, senders⟩ e := by
    rintro _ ⟨⟩
    exact ⟨rest, hsplit.symm⟩
  refine ⟨_, ⟨.single (.forward (.call (some packet)) hrecv), rfl⟩, ?_⟩
  rw [inChannel]
  dsimp only
  rw [packetsReceived_append, hsplit]
  exact List.drop_left

/-- The thread that forwards empties its channel. -/
theorem Reachable.exists_inChannel_nil (h : s.Reachable) :
    ∃ s', ForwardRun s s' ∧ s'.inChannel = []
      ∧ packetsReceived s'.forwarder.trace = packetsForwarded s'.forwarder.trace := by
  generalize hpackets : s.inChannel = packets
  induction packets generalizing s with
  | nil =>
    obtain ⟨s', hrun, hchannel, hfree, -⟩ := h.exists_handsFree
    exact ⟨s', hrun, hchannel.trans hpackets, hfree⟩
  | cons packet rest ih =>
    obtain ⟨s₁, hrun, hchannel, hfree, hleft⟩ := h.exists_handsFree
    rw [hpackets] at hchannel
    have hready : s₁.forwarder.left = forwardLoop () :=
      hleft.resolve_right fun hnil ↦ nomatch hchannel.symm.trans hnil
    obtain ⟨s₂, hreceived, hrest⟩ := (h.trans hrun.run).exists_forwarding hready hchannel
    have hboth := hrun.trans hreceived
    obtain ⟨s', hlast, hdone⟩ := ih (h.trans hboth.run) hrest
    exact ⟨s', hboth.trans hlast, hdone⟩

/-- The worker sends the packet it holds. -/
theorem Reachable.exists_sent (h : s.Reachable) :
    ∃ s', Relation.ReflTransGen Step s s'
      ∧ packetsRead s'.worker.trace = packetsRead s.worker.trace
      ∧ packetsSent s'.worker.trace = packetsRead s.worker.trace := by
  obtain ⟨_ | packet, hread, hpending⟩ := exists_pending h.inOrder.worker h.inOrder.unrefused
  · exact ⟨s, .refl, rfl, (hread.trans (List.append_nil _)).symm⟩
  · obtain ⟨next, hnext⟩ := hpending packet rfl
    have hopen := h.inOrder.not_ended
    obtain ⟨⟨t, p⟩, forwarder, sent, loop, taken, senders⟩ := s
    obtain rfl : p = .call (.send packet) next := hnext
    have hsend : ∀ e ∈ some (⟨.send packet, true⟩ : Exchange RxOp RxAns),
        WorkerAllows ⟨⟨t, .call (.send packet) next⟩, forwarder, sent, loop, taken, senders⟩ e := by
      rintro _ ⟨⟩
      exact iff_of_true rfl (hopen nofun)
    refine ⟨_, .single (.work (.call true) hsend), ?_, ?_⟩
    · exact (packetsRead_log t (.send packet) true).trans (List.append_nil _)
    · exact (packetsSent_log t (.send packet) true).trans hread.symm

/-- **Nothing is stuck on the way in.** If polls come to their end, then from every reachable state
there is a run in which nothing more is read and the interface takes every packet that the worker
has read. -/
theorem inbound_drains (htcp : ∀ x : T.Socket, ∃ x', T.Polled x x')
    (hudp : ∀ x : U.Socket, ∃ x', U.Polled x x') (h : s.Reachable) :
    ∃ s', Relation.ReflTransGen Step s s'
      ∧ packetsRead s'.worker.trace = packetsRead s.worker.trace
      ∧ s'.taken = packetsRead s.worker.trace := by
  obtain ⟨s₁, hrun₁, hread, hsent⟩ := h.exists_sent
  have h₁ := h.trans hrun₁
  obtain ⟨s₂, hrun₂, hchannel, hforwarded⟩ := h₁.exists_inChannel_nil
  have h₂ := h₁.trans hrun₂.run
  obtain ⟨s₃, hrun₃, hcontrol, hqueue⟩ := h₂.exists_inControl_nil htcp hudp
  have h₃ := h₂.trans hrun₃.run
  refine ⟨s₃, (hrun₁.trans hrun₂.run).trans hrun₃.run, ?_, ?_⟩
  · rw [hrun₃.worker, hrun₂.worker, hread]
  · calc s₃.taken = s₃.taken ++ s₃.loop.net.rxQueue ++ tunnelPackets s₃.inControl := by
          rw [hqueue, hcontrol, List.append_nil]
          exact (List.append_nil _).symm
      _ = packetsForwarded s₂.forwarder.trace := by
          rw [← h₃.inOrder.packetsForwarded_eq, hrun₃.forwarder]
      _ = packetsReceived s₂.forwarder.trace ++ s₂.inChannel := by
          rw [← hforwarded, hchannel, List.append_nil]
      _ = packetsRead s.worker.trace := by
          rw [h₂.inOrder.received_append_inChannel, hrun₂.worker, hsent]

theorem inbound_drains_one : ∃ s s' : Inbound .plain .plain,
    packetsRead s.worker.trace = [[0x45, 0x00]] ∧ Relation.ReflTransGen Step s s'
      ∧ s'.taken = [[0x45, 0x00]] := by
  obtain ⟨s, h, hread⟩ := exists_reading
  have htcp : ∀ x : TcpSockets.plain.Socket, ∃ x', TcpSockets.plain.Polled x x' := fun x ↦
    ⟨x, [], by simp [Traffic.receive]⟩
  have hudp : ∀ x : UdpSockets.plain.Socket, ∃ x', UdpSockets.plain.Polled x x' := fun x ↦ ⟨x, rfl⟩
  obtain ⟨s', hrun, -, htaken⟩ := inbound_drains htcp hudp h
  exact ⟨s, s', hread, hrun, htaken.trans hread⟩

end Inbound

end ShiepPipeline
