import ShiepPipeline.Socks.UdpRelay

/-!
# Datagrams that are dropped

The relay remembers the sender of a datagram before it looks at the header. A datagram with an
invalid header is dropped after that, so the sender of the first one becomes the peer of the
association all the same; `client_drop_eq_iff` says that this is the only case in which a dropped
datagram changes anything.
-/

open Net Program

namespace ShiepPipeline

open UdpTrace

namespace UdpSystem

/-- From `s`, where the relay's loop starts over, to `s'`, where it has received `d` and dropped it
because of its header. The forwarder may do anything in between. -/
structure Drops (s s' : UdpSystem) (d : List UInt8 × SocketAddr) : Prop where
  start : s.relay.left = runUdpRelay ()
  steps : Relation.ReflTransGen Step s s'
  calls : s'.relay.trace = s.relay.trace ++ acceptCalls d
  finish : s'.relay.left = .done (.inl ())
  invalid : ∃ e, parseSocksUdpPacket d.1 = .error e

/-- The relay starts over. -/
theorem Drops.again {s s' : UdpSystem} {d : List UInt8 × SocketAddr} (h : Drops s s' d) :
    Step s' { s' with relay := ⟨s'.relay.trace, runUdpRelay ()⟩ } := by
  obtain ⟨client, ⟨t, left⟩, forwarder⟩ := s'
  obtain rfl : left = .done (.inl ()) := h.finish
  exact .relay .again rfl

/-- Any datagram with an invalid header is dropped if nobody else is the peer. -/
theorem exists_drops {s : UdpSystem} (hstart : s.relay.left = runUdpRelay ())
    {d : List UInt8 × SocketAddr} (hne : d.1 ≠ []) {e : EcError}
    (hinvalid : parseSocksUdpPacket d.1 = .error e)
    (hpeer : rememberUdpClient s.client d.2 = (true, some d.2)) :
    Drops s ⟨some d.2, ⟨s.relay.trace ++ acceptCalls d, .done (.inl ())⟩, s.forwarder⟩ d := by
  obtain ⟨client, ⟨t, left⟩, forwarder⟩ := s
  obtain rfl : left = runUdpRelay () := hstart
  obtain ⟨data, peer⟩ := d
  refine ⟨rfl, ?_, rfl, rfl, e, hinvalid⟩
  refine .head (@Step.relayCall client client _ _ _ .recvFrom _ rfl (.ok (data, peer)) rfl) ?_
  refine .head (@Step.relayCall client client _ _ _ .stopRequested _ rfl false rfl) ?_
  simp only [if_neg hne]
  refine .head (@Step.relayCall client (some peer) _ _ _ (.rememberUdpClient peer) _ rfl true
    hpeer.symm) ?_
  dsimp only at hinvalid
  simp only [hinvalid, List.append_assoc]
  exact .refl

/-- The calls with which a datagram of somebody else is refused. -/
def refuseCalls (d : List UInt8 × SocketAddr) : UdpTrace :=
  [⟨.recvFrom, .ok d⟩, ⟨.stopRequested, false⟩, ⟨.rememberUdpClient d.2, false⟩]

/-- Any datagram is refused if somebody else is the peer. -/
theorem exists_refused {s : UdpSystem} (hstart : s.relay.left = runUdpRelay ())
    {d : List UInt8 × SocketAddr} (hne : d.1 ≠ [])
    (hpeer : rememberUdpClient s.client d.2 = (false, s.client)) :
    Relation.ReflTransGen Step s
      ⟨s.client, ⟨s.relay.trace ++ refuseCalls d, .done (.inl ())⟩, s.forwarder⟩ := by
  obtain ⟨client, ⟨t, left⟩, forwarder⟩ := s
  obtain rfl : left = runUdpRelay () := hstart
  obtain ⟨data, peer⟩ := d
  refine .head (@Step.relayCall client client _ _ _ .recvFrom _ rfl (.ok (data, peer)) rfl) ?_
  refine .head (@Step.relayCall client client _ _ _ .stopRequested _ rfl false rfl) ?_
  simp only [if_neg hne]
  refine .head (@Step.relayCall client client _ _ _ (.rememberUdpClient peer) _ rfl false
    hpeer.symm) ?_
  simp only [List.append_assoc]
  exact .refl

/-- **Dropping an invalid datagram changes nothing exactly if the peer is known.** -/
theorem client_drop_eq_iff {s s' : UdpSystem} {d : List UInt8 × SocketAddr} (hs : s.Reachable)
    (h : Drops s s' d) : s'.client = s.client ↔ s.client ≠ none := by
  have hs' : s'.Reachable := Relation.ReflTransGen.trans hs h.steps
  have hasked : s'.client = s.client.or (some d.2) := by
    rw [hs'.consistent.cell, h.calls, asked_append, List.head?_append, ← hs.consistent.cell]
    rfl
  rw [hasked]
  cases s.client with
  | none => simp
  | some peer => simp

/-- A sender of nothing that can be parsed, and the client itself. -/
def strayPeer : SocketAddr := .v4 ⟨⟨127, 0, 0, 1⟩, 6000⟩

def realClient : SocketAddr := .v4 ⟨⟨127, 0, 0, 1⟩, 5000⟩

/-- The client's query has been received, and the planner had no answer. -/
theorem exists_reachable_known :
    ∃ s : UdpSystem, s.Reachable ∧ s.client = some realClient
      ∧ s.relay.left = runUdpRelay () := by
  have hstart : UdpSystem.Reachable ⟨none, ⟨[], runUdpRelay ()⟩, ⟨[], forwardUdpFromTunnel ()⟩⟩ :=
    .refl
  have hrecv := hstart.relayCall rfl (.ok (queryDatagram, realClient)) rfl
  have hstop := hrecv.relayCall rfl false rfl
  have hknown := @UdpSystem.Reachable.relayCall _ (some realClient) _ _ _
    (.rememberUdpClient realClient) _ hstop rfl true rfl
  have hplan := @UdpSystem.Reachable.relayCall _ _ _ _ _
    (.planTarget "10.50.2.206" 53 .udp) _ hknown rfl (.error (.runtime "no table")) rfl
  exact ⟨_, hplan.tail (.relay .again rfl), rfl, rfl⟩

/-- The client sends a datagram that is too short. -/
theorem client_drop_eq_iff_known :
    ∃ s s' : UdpSystem, s.Reachable ∧ Drops s s' ([0, 0, 0], realClient)
      ∧ s'.client = s.client := by
  obtain ⟨s, hs, hclient, hstart⟩ := exists_reachable_known
  have hpeer : rememberUdpClient s.client realClient = (true, some realClient) := by
    rw [hclient]
    decide
  have hdrop : Drops s _ ([0, 0, 0], realClient) := exists_drops hstart (by decide) rfl hpeer
  have hknown : s.client ≠ none := by
    rw [hclient]
    exact Option.some_ne_none _
  exact ⟨s, _, hs, hdrop, (client_drop_eq_iff hs hdrop).mpr hknown⟩

/-- **A stray datagram locks the client out.** It is dropped, but its sender has become the peer,
and the query of the client that comes next is refused. -/
theorem stray_datagram_locks_out :
    ∃ s s' s'' : UdpSystem, s.Reachable ∧ Drops s s' ([0, 0, 0], strayPeer)
      ∧ s'.client ≠ s.client ∧ Relation.ReflTransGen Step s' s''
      ∧ s''.relay.trace = s'.relay.trace ++ refuseCalls (queryDatagram, realClient)
      ∧ s''.relay.left = .done (.inl ()) := by
  have hstart : UdpSystem.Reachable ⟨none, ⟨[], runUdpRelay ()⟩, ⟨[], forwardUdpFromTunnel ()⟩⟩ :=
    .refl
  have hdrop : Drops _ _ ([0, 0, 0], strayPeer) :=
    @exists_drops ⟨none, ⟨[], runUdpRelay ()⟩, ⟨[], forwardUdpFromTunnel ()⟩⟩ rfl _ (by decide) _
      rfl rfl
  have hrefused := @exists_refused ⟨some strayPeer, ⟨acceptCalls ([0, 0, 0], strayPeer),
    runUdpRelay ()⟩, ⟨[], forwardUdpFromTunnel ()⟩⟩ rfl (queryDatagram, realClient) (by decide)
    (by decide)
  exact ⟨_, _, _, hstart, hdrop, Option.some_ne_none _, .head hdrop.again hrefused, rfl, rfl⟩

end UdpSystem

end ShiepPipeline
