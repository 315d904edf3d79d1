import Mathlib.Data.List.Forall2
import ShiepPipeline.Concurrency.Thread
import ShiepPipeline.Netstack.State
import ShiepPipeline.Routing.Matcher
import ShiepPipeline.Socks.Wire

/-!
# A UDP association

Two threads serve an association. `runUdpRelay` takes datagrams from the relay socket and passes
their payload to the tunnel; `forwardUdpFromTunnel` takes datagrams from the tunnel and sends them
to the client. They share a cell that holds the client's address, which the first datagram sets.

`udpAssociation_single_peer` is about both threads in any interleaving: whatever passes in either
direction belongs to the one peer in the cell.
-/

open Net Program Thread

namespace ShiepPipeline

/-! ## The two threads -/

inductive UdpOp
  /-- `socket.recv_from(&mut buf)`. -/
  | recvFrom
  /-- `stop_rx.try_recv().is_ok()`. -/
  | stopRequested
  /-- `remember_udp_client(&client_peer, peer)`. -/
  | rememberUdpClient (peer : SocketAddr)
  /-- `plan_target_with_proto`. -/
  | planTarget (host : String) (port : UInt16) (flowProto : FlowProto)
  /-- `target.to_socket_addrs()`. -/
  | toSocketAddrs (target : String)
  /-- `tunnel_sender.send(target, payload)`. -/
  | tunnelSend (target : SocketAddrV4) (payload : List UInt8)
  /-- `tunnel_rx.recv()`. -/
  | tunnelRecv
  /-- `current_udp_client(&client_peer)`. -/
  | currentUdpClient
  /-- `socket.send_to(&packet, peer)`. -/
  | sendTo (packet : List UInt8) (peer : SocketAddr)
deriving DecidableEq

abbrev UdpAns : UdpOp → Type
  | .recvFrom => Except String (List UInt8 × SocketAddr)
  | .stopRequested => Bool
  | .rememberUdpClient _ => Bool
  | .planTarget _ _ _ => Except EcError RoutePlan
  | .toSocketAddrs _ => Except String (List SocketAddr)
  | .tunnelSend _ _ => Except EcError Unit
  | .tunnelRecv => Option UdpDatagram
  | .currentUdpClient => Option SocketAddr
  | .sendTo _ _ => Except String ℕ

def resolveDialV4FromStr (target : String) :
    Program UdpOp UdpAns (Except EcError SocketAddrV4) := do
  match ← perform (UdpOp.toSocketAddrs target) with
  | .error e => return .error (.runtime s!"resolve udp target failed: {target}: {e}")
  | .ok addrs =>
    match firstV4 addrs with
    | some addr => return .ok addr
    | none => return .error (.runtime s!"no ipv4 address resolved for udp target {target}")

/-- What is done with a datagram, and why nothing is. -/
inductive UdpRouteTransport
  | tunnel (target : SocketAddrV4)
  | unsupported (reason : String)
deriving DecidableEq

/-- `decide_udp_route`, without the lines it prints. -/
def decideUdpRoute (target : ConnectTarget) : Program UdpOp UdpAns UdpRouteTransport := do
  match ← perform (UdpOp.planTarget target.host target.port .udp) with
  | .ok (.remote dial _ _ _) =>
    match ← resolveDialV4FromStr dial with
    | .ok target => return .tunnel target
    | .error err =>
      return .unsupported ("udp remote target is not ipv4: " ++ conciseError err)
  | .ok (.fallback _ _) => return .unsupported "udp fallback transport is not supported yet"
  | .error _ => return .unsupported "route planner unavailable"

/-- One pass of `run_udp_relay`. -/
def runUdpRelay (_ : Unit) : Program UdpOp UdpAns (Unit ⊕ Except EcError Unit) := do
  match ← perform UdpOp.recvFrom with
  | .error e => return .inr (.error (.runtime s!"udp relay recv failed: {e}"))
  | .ok (data, peer) =>
    if ← perform UdpOp.stopRequested then return .inr (.ok ())
    else if data = [] then return .inl ()
    else if !(← perform (UdpOp.rememberUdpClient peer)) then return .inl ()
    else
      match parseSocksUdpPacket data with
      | .error _ => return .inl ()
      | .ok packet =>
        match ← decideUdpRoute packet.target with
        | .tunnel target =>
          let _ ← perform (UdpOp.tunnelSend target packet.payload)
          return .inl ()
        | .unsupported _ => return .inl ()

/-- One pass of `forward_udp_from_tunnel`. -/
def forwardUdpFromTunnel (_ : Unit) : Program UdpOp UdpAns (Unit ⊕ Unit) := do
  match ← perform UdpOp.tunnelRecv with
  | none => return .inr ()
  | some datagram =>
    match ← perform UdpOp.currentUdpClient with
    | none => return .inl ()
    | some peer =>
      let _ ← perform (UdpOp.sendTo (encodeSocksUdpPacket datagram.source datagram.data) peer)
      return .inl ()

/-! ## The association -/

/-- `remember_udp_client` on the content of the cell. -/
def rememberUdpClient (cell : Option SocketAddr) (peer : SocketAddr) :
    Bool × Option SocketAddr :=
  match cell with
  | some existing => (existing = peer, cell)
  | none => (true, some peer)

/-- The cell and the two threads that use it. -/
structure UdpSystem where
  client : Option SocketAddr
  relay : Thread UdpOp UdpAns Unit (Except EcError Unit)
  forwarder : Thread UdpOp UdpAns Unit Unit

/-- What a call does to the cell, and what the cell answers to it. Every other call is answered in
any way and leaves the cell alone. -/
def CellStep (cell : Option SocketAddr) : Option (Exchange UdpOp UdpAns) → Option SocketAddr → Prop
  | some ⟨.rememberUdpClient peer, ans⟩, cell' => (ans, cell') = rememberUdpClient cell peer
  | some ⟨.currentUdpClient, ans⟩, cell' => ans = cell ∧ cell' = cell
  | _, cell' => cell' = cell

/-- One of the threads makes a step. -/
inductive UdpSystem.Step : UdpSystem → UdpSystem → Prop
  | relay {s : UdpSystem} {e : Option (Exchange UdpOp UdpAns)} {client : Option SocketAddr}
      {relay : Thread UdpOp UdpAns Unit (Except EcError Unit)}
      (hstep : Thread.Step runUdpRelay s.relay e relay) (hcell : CellStep s.client e client) :
      Step s { s with client, relay }
  | forward {s : UdpSystem} {e : Option (Exchange UdpOp UdpAns)} {client : Option SocketAddr}
      {forwarder : Thread UdpOp UdpAns Unit Unit}
      (hstep : Thread.Step forwardUdpFromTunnel s.forwarder e forwarder)
      (hcell : CellStep s.client e client) :
      Step s { s with client, forwarder }

/-- The states of an association, from the moment it is set up. -/
def UdpSystem.Reachable (s : UdpSystem) : Prop :=
  Relation.ReflTransGen UdpSystem.Step
    ⟨none, ⟨[], runUdpRelay ()⟩, ⟨[], forwardUdpFromTunnel ()⟩⟩ s

/-! ## What the traces show -/

abbrev UdpTrace := List (Exchange UdpOp UdpAns)

namespace UdpTrace

/-- The datagrams received on the relay socket, with their senders. -/
def received (t : UdpTrace) : List (List UInt8 × SocketAddr) :=
  t.filterMap fun
    | ⟨.recvFrom, .ok datagram⟩ => some datagram
    | _ => none

/-- The peers that the relay asked the cell about. -/
def asked (t : UdpTrace) : List SocketAddr :=
  t.filterMap fun
    | ⟨.rememberUdpClient peer, _⟩ => some peer
    | _ => none

/-- What was passed to the tunnel. -/
def tunnelled (t : UdpTrace) : List (SocketAddrV4 × List UInt8) :=
  t.filterMap fun
    | ⟨.tunnelSend target payload, _⟩ => some (target, payload)
    | _ => none

/-- The datagrams that arrived from the tunnel. -/
def arrivals (t : UdpTrace) : List UdpDatagram :=
  t.filterMap fun
    | ⟨.tunnelRecv, some datagram⟩ => some datagram
    | _ => none

/-- What the cell held when a datagram from the tunnel was looked at. -/
def lookups (t : UdpTrace) : List (Option SocketAddr) :=
  t.filterMap fun
    | ⟨.currentUdpClient, client⟩ => some client
    | _ => none

/-- What was sent on the relay socket, and to whom. -/
def sentBack (t : UdpTrace) : List (List UInt8 × SocketAddr) :=
  t.filterMap fun
    | ⟨.sendTo packet peer, _⟩ => some (packet, peer)
    | _ => none

/-- The senders of the datagrams that are not empty. -/
def senders (datagrams : List (List UInt8 × SocketAddr)) : List SocketAddr :=
  (datagrams.filter fun d ↦ d.1 ≠ []).map fun d ↦ d.2

section Append

variable (t t' : UdpTrace)

@[simp] theorem received_append : received (t ++ t') = received t ++ received t' :=
  List.filterMap_append

@[simp] theorem asked_append : asked (t ++ t') = asked t ++ asked t' := List.filterMap_append

@[simp] theorem tunnelled_append : tunnelled (t ++ t') = tunnelled t ++ tunnelled t' :=
  List.filterMap_append

@[simp] theorem arrivals_append : arrivals (t ++ t') = arrivals t ++ arrivals t' :=
  List.filterMap_append

@[simp] theorem lookups_append : lookups (t ++ t') = lookups t ++ lookups t' :=
  List.filterMap_append

@[simp] theorem sentBack_append : sentBack (t ++ t') = sentBack t ++ sentBack t' :=
  List.filterMap_append

end Append

@[simp] theorem senders_append (ds ds' : List (List UInt8 × SocketAddr)) :
    senders (ds ++ ds') = senders ds ++ senders ds' := by
  rw [senders, List.filter_append, List.map_append, senders, senders]

end UdpTrace

open UdpTrace

/-! ## The relay thread -/

/-- The calls that plan a target and find an address to send to. -/
def planCalls (target : ConnectTarget) (dial : String) (rcId : ℤ) (rcName : String)
    (source : RouteSource) (addrs : List SocketAddr) : UdpTrace :=
  [⟨.planTarget target.host target.port .udp, .ok (.remote dial rcId rcName source)⟩,
    ⟨.toSocketAddrs dial, .ok addrs⟩]

/-- The calls with which a datagram of the remembered peer begins. -/
def acceptCalls (d : List UInt8 × SocketAddr) : UdpTrace :=
  [⟨.recvFrom, .ok d⟩, ⟨.stopRequested, false⟩, ⟨.rememberUdpClient d.2, true⟩]

/-- The trace has the calls that carry a datagram to the tunnel, one right after the other: it is
received before a stop signal, its sender is the remembered peer, it parses, its target is planned
remote, and its payload goes to the first IPv4 address that the planned dial string resolves to. -/
def Carried (t : UdpTrace) (d : List UInt8 × SocketAddr) (sent : SocketAddrV4 × List UInt8) :
    Prop :=
  ∃ (packet : SocksUdpPacket) (dial : String) (rcId : ℤ) (rcName : String) (source : RouteSource)
    (addrs : List SocketAddr) (result : Except EcError Unit),
    parseSocksUdpPacket d.1 = .ok packet ∧ sent.2 = packet.payload
      ∧ firstV4 addrs = some sent.1
      ∧ acceptCalls d ++ (planCalls packet.target dial rcId rcName source addrs
        ++ [⟨.tunnelSend sent.1 sent.2, result⟩]) <:+: t

/-- Everything passed to the tunnel is the payload of a datagram of its own, in order of receipt. -/
def Accounted (t : UdpTrace) : Prop :=
  ∃ ds, ds.Sublist (received t) ∧ List.Forall₂ (Carried t) ds (tunnelled t)

/-- What holds of the relay's trace at every point: it asks the cell about the senders in order. -/
def RelayFacts (t : UdpTrace) : Prop := asked t <+: senders (received t) ∧ Accounted t

/-- What holds where the loop starts over: it has asked about all of them. -/
def RelayHead (t : UdpTrace) : Prop := asked t = senders (received t) ∧ Accounted t

theorem Carried.append {t : UdpTrace} {d : List UInt8 × SocketAddr}
    {sent : SocketAddrV4 × List UInt8} (h : Carried t d sent) (added : UdpTrace) :
    Carried (t ++ added) d sent := by
  obtain ⟨packet, dial, rcId, rcName, source, addrs, result, hparse, hpayload, haddr, hcalls⟩ := h
  exact ⟨packet, dial, rcId, rcName, source, addrs, result, hparse, hpayload, haddr,
    hcalls.trans (List.infix_append' [] t added)⟩

theorem Accounted.append {t added : UdpTrace} (h : Accounted t) (hadded : tunnelled added = []) :
    Accounted (t ++ added) := by
  obtain ⟨ds, hsub, hcarried⟩ := h
  refine ⟨ds, ?_, ?_⟩
  · rw [received_append]
    exact hsub.trans (List.sublist_append_left _ _)
  · rw [tunnelled_append, hadded, List.append_nil]
    exact List.Forall₂.imp (fun _ _ hc ↦ hc.append added) hcarried

theorem RelayHead.facts {t added : UdpTrace} (h : RelayHead t) (hadded : tunnelled added = [])
    (hasked : asked added <+: senders (received added)) : RelayFacts (t ++ added) := by
  refine ⟨?_, h.2.append hadded⟩
  rw [asked_append, received_append, senders_append, h.1]
  exact (List.prefix_append_right_inj _).mpr hasked

theorem RelayHead.append {t added : UdpTrace} (h : RelayHead t) (hadded : tunnelled added = [])
    (hasked : asked added = senders (received added)) : RelayHead (t ++ added) := by
  refine ⟨?_, h.2.append hadded⟩
  rw [asked_append, received_append, senders_append, h.1, hasked]

/-- A pass that carries its datagram to the tunnel. -/
theorem RelayHead.append_carried {t added : UdpTrace} (h : RelayHead t)
    {d : List UInt8 × SocketAddr} {sent : SocketAddrV4 × List UInt8} (hd : d.1 ≠ [])
    (hreceived : received added = [d]) (hasked : asked added = [d.2])
    (hsent : tunnelled added = [sent]) (hcarried : Carried added d sent) :
    RelayHead (t ++ added) := by
  obtain ⟨hall, ds, hsub, hds⟩ := h
  refine ⟨?_, ds ++ [d], ?_, ?_⟩
  · rw [asked_append, received_append, senders_append, hall, hreceived, hasked]
    simp [senders, hd]
  · rw [received_append, hreceived]
    exact hsub.append (List.Sublist.refl _)
  · rw [tunnelled_append, hsent]
    refine List.rel_append (List.Forall₂.imp (fun _ _ hc ↦ hc.append added) hds) (.cons ?_ .nil)
    obtain ⟨packet, dial, rcId, rcName, source, addrs, result, hparse, hpayload, haddr, hcalls⟩ :=
      hcarried
    exact ⟨packet, dial, rcId, rcName, source, addrs, result, hparse, hpayload, haddr,
      hcalls.trans (List.suffix_append t added).isInfix⟩

/-- What planning leaves in the trace: nothing but the planner's calls, and these are known when the
datagram can go to the tunnel. -/
def Planned (target : ConnectTarget) (transport : UdpRouteTransport) (added : UdpTrace) : Prop :=
  (received added = [] ∧ asked added = [] ∧ tunnelled added = [])
    ∧ ∀ addr, transport = .tunnel addr → ∃ dial rcId rcName source addrs,
      firstV4 addrs = some addr ∧ added = planCalls target dial rcId rcName source addrs

/-- The datagram is accepted and its target is being planned. -/
theorem RelayHead.facts_accept {t : UdpTrace} (h : RelayHead t) {d : List UInt8 × SocketAddr}
    (hd : d.1 ≠ []) {added : UdpTrace} (hreceived : received added = [])
    (hasked : asked added = []) (hsent : tunnelled added = []) :
    RelayFacts (t ++ (acceptCalls d ++ added)) := by
  refine h.facts ?_ ?_
  · rw [tunnelled_append, hsent]
    rfl
  · rw [asked_append, received_append, hreceived, hasked]
    simp [acceptCalls, asked, received, senders, hd]

/-- The datagram is accepted and goes nowhere. -/
theorem RelayHead.append_accept {t : UdpTrace} (h : RelayHead t) {d : List UInt8 × SocketAddr}
    (hd : d.1 ≠ []) {added : UdpTrace} (hreceived : received added = [])
    (hasked : asked added = []) (hsent : tunnelled added = []) :
    RelayHead (t ++ (acceptCalls d ++ added)) := by
  refine h.append ?_ ?_
  · rw [tunnelled_append, hsent]
    rfl
  · rw [asked_append, received_append, hreceived, hasked]
    simp [acceptCalls, asked, received, senders, hd]

theorem planned_unsupported (target : ConnectTarget) (reason : String) {added : UdpTrace}
    (h : received added = [] ∧ asked added = [] ∧ tunnelled added = []) :
    Planned target (.unsupported reason) added :=
  ⟨h, fun _ haddr ↦ UdpRouteTransport.noConfusion haddr⟩

theorem decideUdpRoute_obeys {t : UdpTrace} (h : RelayHead t) {d : List UInt8 × SocketAddr}
    (hd : d.1 ≠ []) (target : ConnectTarget) :
    Obeys (fun t _ ↦ RelayFacts t) Thread.log
      (fun transport t' ↦ ∃ added, t' = t ++ (acceptCalls d ++ added)
        ∧ Planned target transport added)
      (t ++ acceptCalls d) (decideUdpRoute target) := by
  have hfacts : RelayFacts (t ++ (acceptCalls d ++ [])) := h.facts_accept hd rfl rfl rfl
  rw [List.append_nil] at hfacts
  refine obeys_append hfacts fun plan ↦ ?_
  cases plan with
  | error e => exact obeys_pure ⟨_, rfl, planned_unsupported _ _ ⟨rfl, rfl, rfl⟩⟩
  | ok plan =>
    cases plan with
    | fallback _ reason => exact obeys_pure ⟨_, rfl, planned_unsupported _ _ ⟨rfl, rfl, rfl⟩⟩
    | remote dial rcId rcName source =>
      refine .call (h.facts_accept hd rfl rfl rfl) fun resolved ↦ ?_
      have htrace : Thread.log (t ++ (acceptCalls d ++ [⟨.planTarget target.host target.port .udp,
          .ok (.remote dial rcId rcName source)⟩])) (.toSocketAddrs dial) resolved
            = t ++ (acceptCalls d ++ [⟨.planTarget target.host target.port .udp,
              .ok (.remote dial rcId rcName source)⟩, ⟨.toSocketAddrs dial, resolved⟩]) := by
        rw [Thread.log, List.append_assoc, List.append_assoc]
        rfl
      rw [htrace]
      cases resolved with
      | error e => exact obeys_pure ⟨_, rfl, planned_unsupported _ _ ⟨rfl, rfl, rfl⟩⟩
      | ok addrs =>
        cases hfirst : firstV4 addrs with
        | none =>
          simp only [Program.bind, hfirst]
          exact obeys_pure ⟨_, rfl, planned_unsupported _ _ ⟨rfl, rfl, rfl⟩⟩
        | some addr =>
          simp only [Program.bind, hfirst]
          refine obeys_pure ⟨_, rfl, ⟨rfl, rfl, rfl⟩, fun addr' haddr ↦ ?_⟩
          obtain rfl := UdpRouteTransport.tunnel.inj haddr
          exact ⟨dial, rcId, rcName, source, addrs, hfirst, rfl⟩

/-- The loop invariant of the relay. -/
def relayRule : Rule runUdpRelay where
  allowed t _ := RelayFacts t
  head _ t := RelayHead t
  post _ t := RelayFacts t
  obeys := by
    rintro ⟨⟩ t h
    have hfacts : RelayFacts (t ++ []) := h.facts rfl List.nil_prefix
    rw [← List.append_nil t]
    refine obeys_append hfacts fun ans ↦ ?_
    cases ans with
    | error e => exact obeys_pure (h.facts rfl List.nil_prefix)
    | ok d =>
      obtain ⟨data, peer⟩ := d
      refine obeys_append (h.facts rfl List.nil_prefix) fun stop ↦ ?_
      cases stop with
      | true => exact obeys_pure (h.facts rfl List.nil_prefix)
      | false =>
        by_cases hempty : data = []
        · simp only [Bool.false_eq_true, if_false, if_pos hempty]
          exact obeys_pure (h.append rfl (by subst hempty; rfl))
        · simp only [Bool.false_eq_true, if_false, if_neg hempty]
          have hasked : ∀ known : Bool, RelayHead (t ++ [⟨.recvFrom, .ok (data, peer)⟩,
              ⟨.stopRequested, false⟩, ⟨.rememberUdpClient peer, known⟩]) := fun known ↦
            h.append rfl (by simp [asked, received, senders, hempty])
          refine obeys_append (h.facts rfl List.nil_prefix) fun known ↦ ?_
          cases known with
          | false => exact obeys_pure (hasked false)
          | true =>
            simp only [Bool.not_true, Bool.false_eq_true, if_false]
            cases hparse : parseSocksUdpPacket data with
            | error e => exact obeys_pure (hasked true)
            | ok packet =>
              dsimp only
              refine (decideUdpRoute_obeys h (d := (data, peer)) hempty packet.target).bind ?_
              rintro transport t' ⟨added, rfl, hquiet, hplanned⟩
              cases transport with
              | unsupported reason =>
                exact obeys_pure (h.append_accept hempty hquiet.1 hquiet.2.1 hquiet.2.2)
              | tunnel addr =>
                obtain ⟨dial, rcId, rcName, source, addrs, hfirst, rfl⟩ := hplanned addr rfl
                refine obeys_append (h.facts_accept hempty rfl rfl rfl) fun result ↦ ?_
                refine obeys_pure (h.append_carried (d := (data, peer)) hempty rfl rfl rfl ?_)
                refine ⟨packet, dial, rcId, rcName, source, addrs, result, hparse, rfl, hfirst, ?_⟩
                rw [List.append_assoc]

/-! ## The forwarding thread -/

/-- What is sent back for datagrams from the tunnel, given what the cell held for each of them. -/
def replies (datagrams : List UdpDatagram) (clients : List (Option SocketAddr)) :
    List (List UInt8 × SocketAddr) :=
  (datagrams.zip clients).filterMap fun x ↦
    x.2.map fun peer ↦ (encodeSocksUdpPacket x.1.source x.1.data, peer)

/-- What holds of the forwarder's trace at every point. -/
def ForwarderFacts (t : UdpTrace) : Prop := sentBack t <+: replies (arrivals t) (lookups t)

/-- Where the loop starts over, every arrival has been looked at and everything has been sent. -/
def ForwarderHead (t : UdpTrace) : Prop :=
  (arrivals t).length = (lookups t).length ∧ sentBack t = replies (arrivals t) (lookups t)

theorem replies_append {ds : List UdpDatagram} {cs : List (Option SocketAddr)}
    (h : ds.length = cs.length) (ds' : List UdpDatagram) (cs' : List (Option SocketAddr)) :
    replies (ds ++ ds') (cs ++ cs') = replies ds cs ++ replies ds' cs' := by
  rw [replies, List.zip_append h, List.filterMap_append, replies, replies]

/-- The rest of a pass of the forwarder. -/
theorem ForwarderHead.append {t added : UdpTrace} (h : ForwarderHead t) :
    replies (arrivals (t ++ added)) (lookups (t ++ added))
        = sentBack t ++ replies (arrivals added) (lookups added)
      ∧ sentBack (t ++ added) = sentBack t ++ sentBack added := by
  rw [arrivals_append, lookups_append, replies_append h.1, h.2]
  exact ⟨rfl, by rw [sentBack_append, h.2]⟩

/-- The loop invariant of the forwarder, which never sets the cell. -/
def forwarderRule : Rule forwardUdpFromTunnel where
  allowed t op := ForwarderFacts t ∧ ∀ peer, op ≠ .rememberUdpClient peer
  head _ t := ForwarderHead t
  post _ t := ForwarderFacts t
  obeys := by
    rintro ⟨⟩ t h
    have hfacts : ∀ added, sentBack added <+: replies (arrivals added) (lookups added) →
        ForwarderFacts (t ++ added) := by
      intro added hadded
      rw [ForwarderFacts, h.append.1, h.append.2]
      exact (List.prefix_append_right_inj _).mpr hadded
    have hhead : ∀ added, (arrivals added).length = (lookups added).length →
        sentBack added = replies (arrivals added) (lookups added) → ForwarderHead (t ++ added) := by
      intro added hlen hadded
      refine ⟨?_, ?_⟩
      · rw [arrivals_append, lookups_append, List.length_append, List.length_append, h.1, hlen]
      · rw [h.append.1, h.append.2, hadded]
    rw [← List.append_nil t]
    refine obeys_append ⟨hfacts [] List.nil_prefix, fun _ h ↦ (nomatch h)⟩ fun arrival ↦ ?_
    cases arrival with
    | none => exact obeys_pure (hfacts _ List.nil_prefix)
    | some datagram =>
      refine obeys_append ⟨hfacts _ List.nil_prefix, fun _ h ↦ (nomatch h)⟩ fun client ↦ ?_
      cases client with
      | none => exact obeys_pure (hhead _ rfl rfl)
      | some peer =>
        refine obeys_append ⟨hfacts _ List.nil_prefix, fun _ h ↦ (nomatch h)⟩ fun result ↦ ?_
        exact obeys_pure (hhead _ rfl rfl)

theorem replies_replicate (ds : List UdpDatagram) (m n : ℕ) (peer : SocketAddr) :
    replies ds (List.replicate m none ++ List.replicate n (some peer))
      = ((ds.drop m).take n).map fun d ↦ (encodeSocksUdpPacket d.source d.data, peer) := by
  induction m generalizing ds with
  | zero =>
    rw [List.replicate_zero, List.nil_append, List.drop_zero]
    induction n generalizing ds with
    | zero => simp [replies]
    | succ n ih =>
      cases ds with
      | nil => rfl
      | cons d ds =>
        rw [List.replicate_succ, List.take_succ_cons, List.map_cons, ← ih]
        rfl
  | succ m ih =>
    cases ds with
    | nil => simp [replies]
    | cons d ds =>
      rw [List.replicate_succ, List.cons_append, List.drop_succ_cons, ← ih]
      rfl

/-! ## Both threads -/

/-- The cell holds the first peer that the relay asked about, no other peer was accepted, and the
forwarder found nothing up to some point and that peer from then on. -/
structure UdpSystem.Consistent (s : UdpSystem) : Prop where
  relay : relayRule.Holds s.relay
  forwarder : forwarderRule.Holds s.forwarder
  cell : s.client = (asked s.relay.trace).head?
  accepted : ∀ peer, ⟨.rememberUdpClient peer, true⟩ ∈ s.relay.trace → s.client = some peer
  looked : ∃ m n, lookups s.forwarder.trace
    = List.replicate m none ++ List.replicate n s.client

/-- A call that does not set the cell leaves it as it is. -/
theorem CellStep.client_eq {cell cell' : Option SocketAddr} {e : Exchange UdpOp UdpAns}
    (h : CellStep cell (some e) cell') (hno : ∀ peer, e.1 ≠ .rememberUdpClient peer) :
    cell' = cell := by
  obtain ⟨op, ans⟩ := e
  cases op with
  | rememberUdpClient peer => exact absurd rfl (hno peer)
  | currentUdpClient => exact h.2
  | recvFrom => exact h
  | stopRequested => exact h
  | planTarget => exact h
  | toSocketAddrs => exact h
  | tunnelSend => exact h
  | tunnelRecv => exact h
  | sendTo => exact h

theorem asked_singleton_of_ne {e : Exchange UdpOp UdpAns}
    (hno : ∀ peer, e.1 ≠ .rememberUdpClient peer) : asked [e] = [] := by
  obtain ⟨op, ans⟩ := e
  cases op with
  | rememberUdpClient peer => exact absurd rfl (hno peer)
  | _ => rfl

theorem lookups_singleton_of_ne {e : Exchange UdpOp UdpAns} (hno : e.1 ≠ .currentUdpClient) :
    lookups [e] = [] := by
  obtain ⟨op, ans⟩ := e
  cases op with
  | currentUdpClient => exact absurd rfl hno
  | _ => rfl

/-- The relay asks the cell: the first peer is taken, and after that only that peer is accepted. -/
theorem UdpSystem.Consistent.remember {s : UdpSystem} (h : s.Consistent) {peer : SocketAddr}
    {ans : Bool} {client : Option SocketAddr}
    (hcell : (ans, client) = rememberUdpClient s.client peer) :
    client = (asked s.relay.trace ++ [peer]).head?
      ∧ (ans = true → client = some peer)
      ∧ (∀ known, s.client = some known → client = some known) := by
  cases hclient : s.client with
  | none =>
    rw [hclient] at hcell
    obtain ⟨rfl, rfl⟩ := Prod.mk.inj (show (ans, client) = (true, some peer) from hcell)
    have hasked : asked s.relay.trace = [] := List.head?_eq_none_iff.mp (h.cell ▸ hclient)
    exact ⟨by rw [hasked]; rfl, fun _ ↦ rfl, fun known hknown ↦ (nomatch hknown)⟩
  | some existing =>
    rw [hclient] at hcell
    obtain ⟨rfl, rfl⟩ :=
      Prod.mk.inj (show (ans, client) = (decide (existing = peer), some existing) from hcell)
    have hhead : (asked s.relay.trace).head? = some existing := h.cell ▸ hclient
    refine ⟨?_, fun hans ↦ ?_, fun known hknown ↦ hknown⟩
    · rw [List.head?_append, hhead]
      rfl
    · rw [of_decide_eq_true hans]

/-- Only the relay sets the cell. -/
theorem UdpSystem.Consistent.never_remembers {s : UdpSystem} (h : s.Consistent)
    {e : Exchange UdpOp UdpAns} {forwarder : Thread UdpOp UdpAns Unit Unit}
    (hstep : Thread.Step forwardUdpFromTunnel s.forwarder (some e) forwarder) (peer : SocketAddr) :
    e.1 ≠ .rememberUdpClient peer := by
  have hrule := h.forwarder
  generalize s.forwarder = th at hstep hrule
  cases hstep with
  | call ans => exact hrule.allowed.2 peer

/-- Once the cell is set it stays as it is, so what the forwarder has found fits the new cell. -/
theorem UdpSystem.Consistent.looked_of_kept {s : UdpSystem} (h : s.Consistent)
    {client : Option SocketAddr} (hkept : ∀ known, s.client = some known → client = some known) :
    ∃ m n, lookups s.forwarder.trace = List.replicate m none ++ List.replicate n client := by
  obtain ⟨m, n, hlooked⟩ := h.looked
  cases hclient : s.client with
  | none =>
    -- nothing has been found so far
    refine ⟨m + n, 0, ?_⟩
    rw [hlooked, hclient, List.replicate_append_replicate, List.replicate_zero, List.append_nil]
  | some known =>
    refine ⟨m, n, ?_⟩
    rw [hlooked, hclient, hkept known hclient]

theorem UdpSystem.Consistent.step_relay {s : UdpSystem} (h : s.Consistent)
    {e : Option (Exchange UdpOp UdpAns)} {client : Option SocketAddr}
    {relay : Thread UdpOp UdpAns Unit (Except EcError Unit)}
    (hstep : Thread.Step runUdpRelay s.relay e relay) (hcell : CellStep s.client e client) :
    Consistent { s with client, relay } := by
  have hrule := h.relay.step hstep
  have htrace := hstep.trace_eq
  cases e with
  | none =>
    rw [Option.toList_none, List.append_nil] at htrace
    obtain rfl : client = s.client := hcell
    exact ⟨hrule, h.forwarder, htrace ▸ h.cell, htrace ▸ h.accepted, h.looked⟩
  | some e =>
    rw [Option.toList_some] at htrace
    -- the cell changes in one call only
    by_cases hno : ∀ peer, e.1 ≠ .rememberUdpClient peer
    · obtain rfl := hcell.client_eq hno
      refine ⟨hrule, h.forwarder, ?_, fun peer hmem ↦ ?_, h.looked⟩
      · rw [htrace, asked_append, asked_singleton_of_ne hno, List.append_nil]
        exact h.cell
      · rw [htrace, List.mem_append, List.mem_singleton] at hmem
        rcases hmem with hmem | rfl
        · exact h.accepted peer hmem
        · exact absurd rfl (hno peer)
    · obtain ⟨op, ans⟩ := e
      obtain ⟨peer, rfl⟩ := not_forall_not.mp hno
      obtain ⟨hcell', hans, hkept⟩ := h.remember hcell
      refine ⟨hrule, h.forwarder, ?_, fun q hmem ↦ ?_, h.looked_of_kept hkept⟩
      · rw [htrace, asked_append]
        exact hcell'
      · rw [htrace, List.mem_append, List.mem_singleton] at hmem
        rcases hmem with hmem | heq
        · exact hkept q (h.accepted q hmem)
        · cases heq
          exact hans rfl

theorem UdpSystem.Consistent.step_forward {s : UdpSystem} (h : s.Consistent)
    {e : Option (Exchange UdpOp UdpAns)} {client : Option SocketAddr}
    {forwarder : Thread UdpOp UdpAns Unit Unit}
    (hstep : Thread.Step forwardUdpFromTunnel s.forwarder e forwarder)
    (hcell : CellStep s.client e client) : Consistent { s with client, forwarder } := by
  have hrule := h.forwarder.step hstep
  have htrace := hstep.trace_eq
  cases e with
  | none =>
    rw [Option.toList_none, List.append_nil] at htrace
    obtain rfl : client = s.client := hcell
    exact ⟨h.relay, hrule, h.cell, h.accepted, htrace ▸ h.looked⟩
  | some e =>
    rw [Option.toList_some] at htrace
    obtain rfl := hcell.client_eq (h.never_remembers hstep)
    refine ⟨h.relay, hrule, h.cell, h.accepted, ?_⟩
    obtain ⟨m, n, hlooked⟩ := h.looked
    dsimp only
    rw [htrace, lookups_append, hlooked]
    by_cases hno : e.1 = .currentUdpClient
    · -- one more look at the cell
      obtain ⟨op, ans⟩ := e
      obtain rfl : op = .currentUdpClient := hno
      obtain ⟨rfl, -⟩ := hcell
      refine ⟨m, n + 1, ?_⟩
      rw [List.replicate_succ', List.append_assoc]
      rfl
    · refine ⟨m, n, ?_⟩
      rw [lookups_singleton_of_ne hno, List.append_nil]

theorem UdpSystem.Consistent.step {s s' : UdpSystem} (h : s.Consistent) (hstep : Step s s') :
    s'.Consistent := by
  cases hstep with
  | relay hstep hcell => exact h.step_relay hstep hcell
  | forward hstep hcell => exact h.step_forward hstep hcell

theorem UdpSystem.Reachable.consistent {s : UdpSystem} (h : s.Reachable) : s.Consistent := by
  induction h with
  | refl =>
    refine ⟨?_, ?_, rfl, fun peer hmem ↦ (nomatch hmem), 0, 0, rfl⟩
    · exact relayRule.obeys () [] ⟨rfl, [], .refl _, .nil⟩
    · exact forwarderRule.obeys () [] ⟨rfl, rfl⟩
  | tail _ hstep ih => exact ih.step hstep

theorem Carried.remembers {t : UdpTrace} {d : List UInt8 × SocketAddr}
    {sent : SocketAddrV4 × List UInt8} (h : Carried t d sent) :
    ⟨.rememberUdpClient d.2, true⟩ ∈ t := by
  obtain ⟨packet, dial, rcId, rcName, source, addrs, result, -, -, -, hcalls⟩ := h
  exact hcalls.subset (by simp [acceptCalls])

/-- Every datagram that was carried came from the peer in the cell. -/
theorem UdpSystem.Consistent.carried {s : UdpSystem} (h : s.Consistent)
    {ds : List (List UInt8 × SocketAddr)} {sent : List (SocketAddrV4 × List UInt8)}
    (hds : List.Forall₂ (Carried s.relay.trace) ds sent) : ∀ d ∈ ds, s.client = some d.2 := by
  induction hds with
  | nil => exact fun d hd ↦ (nomatch hd)
  | cons hcarried _ ih =>
    intro d hd
    rcases List.mem_cons.mp hd with rfl | hd
    · exact h.accepted _ hcarried.remembers
    · exact ih d hd

theorem relayFacts_of_holds {th : Thread UdpOp UdpAns Unit (Except EcError Unit)}
    (h : relayRule.Holds th) : RelayFacts th.trace :=
  h.elim (fun _ hcall _ ↦ hcall) (fun _ hhead _ ↦ ⟨hhead.1 ▸ List.prefix_refl _, hhead.2⟩)
    fun _ hpost _ ↦ hpost

theorem forwarderFacts_of_holds {th : Thread UdpOp UdpAns Unit Unit}
    (h : forwarderRule.Holds th) : ForwarderFacts th.trace :=
  h.elim (fun _ hcall _ ↦ hcall.1) (fun _ hhead _ ↦ ⟨[], (List.append_nil _).trans hhead.2⟩)
    fun _ hpost _ ↦ hpost

theorem replies_replicate_none (ds : List UdpDatagram) (m : ℕ) :
    replies ds (List.replicate m none) = [] := by
  induction m generalizing ds with
  | zero => simp [replies]
  | succ m ih =>
    cases ds with
    | nil => rfl
    | cons d ds =>
      rw [List.replicate_succ, ← ih ds]
      rfl

/-- **An association serves a single peer.** Nothing passes before a peer is known. The peer is the
sender of the first datagram that is not empty; every payload in the tunnel is carried there from a
datagram of that peer, in order of receipt and each once; and what is sent back goes to that peer
and is the encoding of the datagrams from the tunnel, in order, without those that arrived before
the peer was known. -/
theorem udpAssociation_single_peer {s : UdpSystem} (h : s.Reachable) :
    (s.client = none → tunnelled s.relay.trace = [] ∧ sentBack s.forwarder.trace = [])
      ∧ ∀ p, s.client = some p →
        (senders (received s.relay.trace)).head? = some p
        ∧ (∃ ds, ds.Sublist (received s.relay.trace) ∧ (∀ d ∈ ds, d.2 = p)
          ∧ List.Forall₂ (Carried s.relay.trace) ds (tunnelled s.relay.trace))
        ∧ ∃ m n, lookups s.forwarder.trace = List.replicate m none ++ List.replicate n (some p)
          ∧ sentBack s.forwarder.trace
            <+: (((arrivals s.forwarder.trace).drop m).take n).map fun d ↦
              (encodeSocksUdpPacket d.source d.data, p) := by
  have hs := h.consistent
  obtain ⟨hasked, ds, hsub, hds⟩ := relayFacts_of_holds hs.relay
  have hforward := forwarderFacts_of_holds hs.forwarder
  obtain ⟨m, n, hlooked⟩ := hs.looked
  have hpeer := hs.carried hds
  refine ⟨fun hnone ↦ ⟨?_, ?_⟩, fun p hp ↦ ⟨?_, ⟨ds, hsub, fun d hd ↦ ?_, hds⟩, m, n, ?_, ?_⟩⟩
  -- what was carried is a datagram of the peer, and there is none yet
  · have hempty : ds = [] := by
      refine List.eq_nil_iff_forall_not_mem.mpr fun d hd ↦ ?_
      exact nomatch hnone.symm.trans (hpeer d hd)
    rw [hempty] at hds
    exact List.forall₂_nil_left_iff.mp hds
  · rw [ForwarderFacts, hlooked, hnone, List.replicate_append_replicate,
      replies_replicate_none] at hforward
    exact List.prefix_nil.mp hforward
  · obtain ⟨rest, hrest⟩ := hasked
    rw [← hrest, List.head?_append, ← hs.cell, hp]
    rfl
  · exact (Option.some.inj ((hpeer d hd).symm.trans hp))
  · rw [hlooked, hp]
  · rw [ForwarderFacts, hlooked, hp, replies_replicate] at hforward
    exact hforward

/-- The relay's next call. -/
theorem UdpSystem.Step.relayCall {client client' : Option SocketAddr} {t : UdpTrace}
    {p : Program UdpOp UdpAns (Unit ⊕ Except EcError Unit)}
    {forwarder : Thread UdpOp UdpAns Unit Unit} {op : UdpOp}
    {next : UdpAns op → Program UdpOp UdpAns (Unit ⊕ Except EcError Unit)}
    (hp : p = .call op next) (ans : UdpAns op)
    (hcell : CellStep client (some ⟨op, ans⟩) client') :
    Step ⟨client, ⟨t, p⟩, forwarder⟩ ⟨client', ⟨t ++ [⟨op, ans⟩], next ans⟩, forwarder⟩ := by
  subst hp
  exact .relay (.call ans) hcell

theorem UdpSystem.Reachable.relayCall {client client' : Option SocketAddr} {t : UdpTrace}
    {p : Program UdpOp UdpAns (Unit ⊕ Except EcError Unit)}
    {forwarder : Thread UdpOp UdpAns Unit Unit} {op : UdpOp}
    {next : UdpAns op → Program UdpOp UdpAns (Unit ⊕ Except EcError Unit)}
    (h : UdpSystem.Reachable ⟨client, ⟨t, p⟩, forwarder⟩) (hp : p = .call op next)
    (ans : UdpAns op) (hcell : CellStep client (some ⟨op, ans⟩) client') :
    UdpSystem.Reachable ⟨client', ⟨t ++ [⟨op, ans⟩], next ans⟩, forwarder⟩ :=
  h.tail (.relayCall hp ans hcell)

/-- A query to `10.50.2.206:53` with the payload `q`. -/
def queryDatagram : List UInt8 := [0, 0, 0, 1, 10, 50, 2, 206, 0, 53, 113]

/-- A client sends a query, which goes to the tunnel. -/
theorem udpAssociation_single_peer_query :
    ∃ s : UdpSystem, s.Reachable
      ∧ tunnelled s.relay.trace = [(⟨⟨10, 50, 2, 206⟩, 53⟩, [113])]
      ∧ (senders (received s.relay.trace)).head? = some (.v4 ⟨⟨127, 0, 0, 1⟩, 5000⟩) := by
  have hstart : UdpSystem.Reachable ⟨none, ⟨[], runUdpRelay ()⟩, ⟨[], forwardUdpFromTunnel ()⟩⟩ :=
    .refl
  have hrecv := hstart.relayCall rfl (.ok (queryDatagram, .v4 ⟨⟨127, 0, 0, 1⟩, 5000⟩)) rfl
  have hstop := hrecv.relayCall rfl false rfl
  have hknown := @UdpSystem.Reachable.relayCall _ (some (.v4 ⟨⟨127, 0, 0, 1⟩, 5000⟩)) _ _ _
    (.rememberUdpClient (.v4 ⟨⟨127, 0, 0, 1⟩, 5000⟩)) _ hstop rfl true rfl
  have hplan := @UdpSystem.Reachable.relayCall _ _ _ _ _
    (.planTarget "10.50.2.206" 53 .udp) _ hknown rfl
    (.ok (.remote "10.50.2.206:53" 205 "dns" .ruleIp)) rfl
  have haddrs := @UdpSystem.Reachable.relayCall _ _ _ _ _ (.toSocketAddrs "10.50.2.206:53") _ hplan
    rfl (.ok [.v4 ⟨⟨10, 50, 2, 206⟩, 53⟩]) rfl
  have hsend := @UdpSystem.Reachable.relayCall _ _ _ _ _
    (.tunnelSend ⟨⟨10, 50, 2, 206⟩, 53⟩ [113]) _ haddrs rfl (.ok ()) rfl
  exact ⟨_, hsend, rfl, ((udpAssociation_single_peer hsend).2 _ rfl).1⟩

end ShiepPipeline
