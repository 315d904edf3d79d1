import ShiepPipeline.Netstack.Upload

/-!
# Downloads

What a socket receives goes into the uplink channel of its connection, from which a thread of the
client reads. `download_intact`: after every pass all that has arrived was sent, and a connection
that is removed leaves nothing behind.

The end of the stream is another matter. The channel ends when its sender is dropped, and that is
when the connection is removed. A connection whose peer has closed its sending side stays, though,
because its socket is still open. `propagated_of_endsSeen` says exactly which passes go wrong.
-/

open Net

namespace ShiepPipeline

variable {T : TcpSockets} {U : UdpSockets}

/-! ## The integrity of downloads -/

/-- The chunks are small, and what was sent and what is in the receive buffer is, put together, what
has arrived. -/
structure Conn.DownloadIntact (c : Conn T) : Prop where
  sizes : ∀ chunk ∈ c.state.uplink.sent, chunk ≠ [] ∧ chunk.length ≤ 4096
  bytes : c.state.uplink.Alive →
    c.state.uplink.sent.flatten ++ (T.traffic c.socket).readable = (T.traffic c.socket).arrived

/-- The chunks are small, and all that has arrived was sent. -/
structure Conn.Delivered (c : Conn T) : Prop where
  sizes : ∀ chunk ∈ c.state.uplink.sent, chunk ≠ [] ∧ chunk.length ≤ 4096
  bytes : c.state.uplink.Alive → c.state.uplink.sent.flatten = (T.traffic c.socket).arrived

/-- **A visit empties the receive buffer.** -/
theorem Conn.DownloadIntact.driven {c : Conn T} (h : c.DownloadIntact) :
    c.driven.Delivered ∧ (c.driven.state.uplink.Alive →
      (T.traffic c.driven.socket).readable = []) := by
  have hrelayed := TcpSockets.relayed_pump c.socket c.state
  obtain ⟨harrived, hreadable⟩ := TcpSockets.received_pumpPendingSends c.socket c.state
  obtain ⟨chunks, hsent, hsizes, hdone⟩ := hrelayed.chunks
  have hsame : (TcpSockets.pumpPendingSends T c.socket c.state).2.uplink = c.state.uplink := rfl
  rw [hsame] at hsent hdone
  have htraffic := TcpSockets.traffic_driveConnection c.socket c.state
  refine ⟨⟨fun chunk hchunk ↦ ?_, fun halive ↦ ?_⟩, fun halive ↦ ?_⟩
  · rw [Conn.driven] at hchunk
    dsimp only [TcpSockets.driveConnection] at hchunk
    rw [hsent, List.mem_append] at hchunk
    exact hchunk.elim (h.sizes chunk) (hsizes chunk)
  · obtain ⟨hbefore, hflatten, -⟩ := hdone halive
    rw [Conn.driven, htraffic, hrelayed.traffic]
    dsimp only [TcpSockets.driveConnection, Traffic.read]
    rw [hsent, List.flatten_append, ← hflatten, hreadable, harrived]
    exact h.bytes hbefore
  · rw [Conn.driven, htraffic]
    exact (hdone halive).2.2

theorem Conn.DownloadIntact.step {c c' : Conn T} (hstep : c.Step c') (h : c.DownloadIntact) :
    c'.DownloadIntact := by
  cases hstep with
  | idle | sent | closeAsked => exact ⟨h.sizes, h.bytes⟩
  | polled hpolled =>
    obtain ⟨bytes, htraffic⟩ := T.traffic_of_polled hpolled
    refine ⟨h.sizes, fun halive ↦ ?_⟩
    dsimp only
    rw [htraffic]
    dsimp only [Traffic.receive]
    rw [← List.append_assoc, h.bytes halive]
  | receiverDropped halive left =>
    have hbefore : c.state.uplink.Alive := by simp [Channel.Alive, halive]
    exact ⟨h.sizes, fun _ ↦ h.bytes hbefore⟩
  | driven =>
    obtain ⟨⟨hsizes, hbytes⟩, hempty⟩ := h.driven
    exact ⟨hsizes, fun halive ↦ by rw [hempty halive, List.append_nil, hbytes halive]⟩

/-- The visits do not touch what has arrived. -/
theorem Conn.arrived_driven (c : Conn T) :
    (T.traffic c.driven.socket).arrived = (T.traffic c.socket).arrived := by
  rw [Conn.driven, TcpSockets.traffic_driveConnection,
    (TcpSockets.relayed_pump c.socket c.state).traffic]
  exact (TcpSockets.received_pumpPendingSends c.socket c.state).1

theorem Conn.alive_driven {c : Conn T} (hleft : c.state.uplink.left = none) :
    c.driven.state.uplink.Alive := by
  have hafter : c.driven.state.uplink.left = none :=
    (TcpSockets.relayed_pump c.socket c.state).left hleft
  simp [Channel.Alive, hafter]

theorem Reachable.downloadIntact {s : LoopState T U} (hs : Reachable s) {id : UInt64} {c : Conn T}
    (hhas : s.Has id c) : c.DownloadIntact := by
  refine hs.conn_induct (fun s target c _ hopens ↦ ?_) (fun c c' hstep h ↦ h.step hstep) hhas
  have htraffic := Conn.traffic_of_opens hopens
  cases hopens
  refine ⟨nofun, fun _ ↦ ?_⟩
  rw [htraffic]
  rfl

/-- Every removal in the journal is a visit of a connection that was in the table. -/
theorem Reachable.exists_of_removed {s : LoopState T U} (hs : Reachable s) {id : UInt64}
    {socket : T.Socket} {conn : ConnectionState} (he : .removed id socket conn ∈ s.journal) :
    ∃ (s₀ : LoopState T U) (c : Conn T), Reachable s₀ ∧ s₀.Has id c
      ∧ socket = c.driven.socket ∧ conn = c.driven.state := by
  revert he
  refine Reachable.induct (motive := fun s ↦ .removed id socket conn ∈ s.journal → _)
    (fun iface he ↦ nomatch he) (fun s s' hs h ih he ↦ ?_) hs
  rcases h.journal_cases with hsame | ⟨message, reply, hhandled⟩ | hpass
  · exact ih (hsame ▸ he)
  · rw [hhandled, List.mem_cons] at he
    exact he.elim nofun ih
  · obtain ⟨events, hjournal, -, -, honly⟩ := h.mem_events_iff_of_isPass hpass
    rw [hjournal, List.mem_append] at he
    refine he.elim (fun he ↦ ?_) ih
    obtain ⟨id', c, hhas, hvisit⟩ := honly _ he
    obtain ⟨-, hevent⟩ | ⟨-, hevent⟩ := (Netstack.mem_visitEvents hhas.holds).mp hvisit
    · cases hevent
    · obtain ⟨rfl, rfl, rfl⟩ := Event.removed.inj hevent
      exact ⟨s, c, hs, hhas, rfl, rfl⟩

theorem Reachable.delivered {s : LoopState T U} (hs : Reachable s) (hphase : s.phase = .drivingUdp)
    {id : UInt64} {c : Conn T} (hhas : s.Has id c) : c.Delivered := by
  have hwhere : ReachableWhere (fun _ _ ↦ True) s := hs.reachableWhere fun _ _ ↦ trivial
  refine hwhere.pass_induct (fun s s' id c hs _ _ hhas _ ↦ ?_)
    (fun c left halive h ↦ ⟨h.sizes, fun _ ↦ h.bytes ?_⟩) hphase hhas
  · exact (hs.reachable.downloadIntact hhas).driven.1
  · simp [Channel.Alive, halive]

/-- **Downloads arrive as they were received.** Chunks are never empty and have at most 4096 bytes.
While the receiver is there, what was sent is after every pass all that has arrived, in order, and
so it is when a connection is removed. -/
theorem download_intact {s : LoopState T U} (hs : Reachable s) :
    (∀ id conn, s.net.connections id = some conn →
      ∃ socket, s.net.sockets conn.handle = some (.tcp socket)
        ∧ (∀ chunk ∈ conn.uplink.sent, chunk ≠ [] ∧ chunk.length ≤ 4096)
        ∧ (s.phase = .drivingUdp → conn.uplink.Alive →
          conn.uplink.sent.flatten = (T.traffic socket).arrived))
      ∧ ∀ id socket conn, .removed id socket conn ∈ s.journal →
        (∀ chunk ∈ conn.uplink.sent, chunk ≠ [] ∧ chunk.length ≤ 4096)
        ∧ (conn.uplink.Alive → conn.uplink.sent.flatten = (T.traffic socket).arrived) := by
  constructor
  · intro id conn hconn
    obtain ⟨socket, hheld⟩ := hs.owned.holds hconn
    have hhas : s.Has id ⟨history id s.journal, conn, socket⟩ := ⟨hheld, rfl⟩
    exact ⟨socket, hheld.2, (hs.downloadIntact hhas).sizes,
      fun hphase ↦ (hs.delivered hphase hhas).bytes⟩
  · intro id socket conn he
    obtain ⟨s₀, c, hs₀, hhas, rfl, rfl⟩ := hs.exists_of_removed he
    obtain ⟨hsizes, hbytes⟩ := (hs₀.downloadIntact hhas).driven.1
    exact ⟨hsizes, hbytes⟩

/-! ## The end of the stream -/

/-- The end of every stream has been passed on: a connection whose peer has closed its sending side
and whose receive buffer is empty is not in the table, so its sender has been dropped. -/
def Netstack.Propagated (n : Netstack T U) : Prop :=
  ∀ id conn socket, n.Holds id conn socket →
    ¬ ((T.state socket).PeerClosed ∧ (T.traffic socket).readable = [])

/-- In a pass from this state, no socket is open whose peer has closed its sending side, unless its
receiver goes away in the middle of the data that is there. -/
def EndsSeen (s s' : LoopState T U) : Prop :=
  IsPass s s' → ∀ id c, s.Has id c → (T.state c.socket).HalfClosed →
    ∃ left, c.state.uplink.left = some left
      ∧ 4096 * (left + 1) < (T.traffic c.socket).readable.length

theorem TcpState.halfClosed_afterClose (state : TcpState) :
    state.afterClose.HalfClosed ↔ state.HalfClosed := by
  cases state <;> simp [TcpState.HalfClosed, TcpState.afterClose]

section Laws

variable (laws : T.StateLaws)

include laws

theorem TcpSockets.StateLaws.readable_recvSlice {s : T.Socket} (hcan : T.canRecv s = true) {n : ℕ}
    (hn : 0 < n) :
    (T.traffic (T.recvSlice s n).2).readable = (T.traffic s).readable.drop n := by
  obtain ⟨-, -, hreadable, -⟩ := TcpSockets.traffic_recvSlice hcan hn (laws.recvSlice_eq hcan n)
  conv_lhs at hreadable => rw [← List.take_append_drop n (T.traffic s).readable]
  exact (List.append_cancel_left hreadable).symm

/-- What a pass leaves in the receive buffer: nothing, or all that comes after the chunk that the
receiver did not take. -/
theorem TcpSockets.StateLaws.readable_pumpUplinkReads (s : T.Socket) (conn : ConnectionState) :
    (T.traffic (T.pumpUplinkReads s conn).1).readable
      = conn.uplink.left.elim [] fun left ↦ (T.traffic s).readable.drop (4096 * (left + 1)) := by
  fun_induction T.pumpUplinkReads s conn with
  | case1 s conn hcan hread =>
    exact absurd rfl (TcpSockets.traffic_recvSlice hcan (by decide) hread).1
  | case2 s conn hcan byte bytes hread uplink hsend ih =>
    rw [ih, laws.readable_recvSlice hcan (by decide), TcpSockets.uplinkBufferLength]
    rw [Channel.send] at hsend
    split at hsend
    · next hleft =>
      obtain rfl := congrArg Prod.snd hsend
      rw [hleft, Option.elim_none, Option.elim_none]
    · cases hsend
    · next left hleft =>
      obtain rfl := congrArg Prod.snd hsend
      rw [hleft]
      rw [Option.elim_some, Option.elim_some, List.drop_drop, Nat.mul_succ 4096 (left + 1),
        Nat.add_comm]
  | case3 s conn hcan byte bytes hread uplink hsend =>
    rw [laws.readable_recvSlice hcan (by decide), TcpSockets.uplinkBufferLength]
    have hdropped : conn.uplink.left = some 0 := by
      by_contra halive
      rw [Channel.send_of_alive halive] at hsend
      cases hsend
    rw [hdropped]
    rfl
  | case4 s conn hcan err hread =>
    exact absurd ((laws.recvSlice_eq hcan _).symm.trans hread) (by simp)
  | case5 s conn hcan =>
    have hempty : (T.traffic s).readable = [] := by
      by_contra hne
      exact hcan ((T.canRecv_iff s).mpr hne)
    rw [hempty]
    cases conn.uplink.left <;> simp

/-- A visit leaves something in the receive buffer exactly if the receiver goes away before the last
chunk. -/
theorem TcpSockets.StateLaws.readable_driveConnection_ne_nil_iff (s : T.Socket)
    (conn : ConnectionState) :
    (T.traffic (T.driveConnection s conn).object).readable ≠ []
      ↔ ∃ left, conn.uplink.left = some left
        ∧ 4096 * (left + 1) < (T.traffic s).readable.length := by
  have hsame : (T.pumpPendingSends s conn).2.uplink = conn.uplink := rfl
  rw [TcpSockets.traffic_driveConnection, TcpSockets.pump, laws.readable_pumpUplinkReads,
    (TcpSockets.received_pumpPendingSends s conn).2, hsame]
  cases conn.uplink.left with
  | none => simp
  | some left => simp [List.drop_eq_nil_iff]

/-- The peer of a socket that stays open had closed its side before the visit. -/
theorem TcpSockets.StateLaws.halfClosed_driveConnection (s : T.Socket) (conn : ConnectionState) :
    (T.state (T.driveConnection s conn).object).HalfClosed ↔ (T.state s).HalfClosed := by
  rw [laws.state_driveConnection]
  split_ifs
  · exact TcpState.halfClosed_afterClose _
  · rfl

/-- A connection that a visit leaves in the table is one whose stream goes on, exactly if the visit
was none of those that miss an end. -/
theorem Conn.driven_propagated_iff {c : Conn T}
    (hdead : (T.driveConnection c.socket c.state).dead = false) :
    ¬ ((T.state c.driven.socket).PeerClosed ∧ (T.traffic c.driven.socket).readable = [])
      ↔ ((T.state c.socket).HalfClosed → ∃ left, c.state.uplink.left = some left
        ∧ 4096 * (left + 1) < (T.traffic c.socket).readable.length) := by
  rw [← laws.readable_driveConnection_ne_nil_iff, ← laws.halfClosed_driveConnection _ c.state,
    Conn.driven, TcpState.PeerClosed, not_and]
  have hopen := ((laws.dead_eq_false_iff c.socket c.state).mp hdead).2
  rw [or_iff_left hopen]

/-- A pass passes on the end of every stream exactly if none of its connections has one. -/
theorem Step.propagated_iff_endsSeen {s s' : LoopState T U} (hs : Reachable s) (h : Step s s')
    (hpass : IsPass s s') : s'.net.Propagated ↔ EndsSeen s s' := by
  constructor
  · intro hpropagated _ id c hhas hclosed
    have hdead : (T.driveConnection c.socket c.state).dead = false := by
      rw [laws.dead_eq_false_iff]
      have hafter := (laws.halfClosed_driveConnection c.socket c.state).mpr hclosed
      constructor <;> intro hstate <;> rw [hstate] at hafter <;>
        simp [TcpState.HalfClosed] at hafter
    have hafter := (h.has_iff_of_isPass hpass hs.owned).mpr ⟨c, hhas, hdead, rfl⟩
    exact (Conn.driven_propagated_iff laws hdead).mp (hpropagated id _ _ hafter.holds) hclosed
  · intro hok id conn socket hheld
    obtain ⟨c, hhas, hdead, hdriven⟩ := (h.has_iff_of_isPass hpass hs.owned).mp
      (⟨hheld, rfl⟩ : s'.Has id ⟨history id s'.journal, conn, socket⟩)
    have hpropagated := (Conn.driven_propagated_iff laws hdead).mpr (hok hpass id c hhas)
    rwa [← hdriven] at hpropagated

/-- **Which runs pass on the end of every stream.** In a run in whose passes no peer has closed its
sending side, nothing is missed, and a pass that finds such a socket misses it. -/
theorem propagated_of_endsSeen :
    (∀ s : LoopState T U, ReachableWhere EndsSeen s → s.phase = .drivingUdp → s.net.Propagated)
      ∧ ∀ s s' : LoopState T U, Reachable s → Step s s' → IsPass s s' →
        (s'.net.Propagated ↔ EndsSeen s s') := by
  refine ⟨fun s hs hphase id conn socket hheld ↦ ?_,
    fun s s' hs h hpass ↦ h.propagated_iff_endsSeen laws hs hpass⟩
  have hhas : s.Has id ⟨history id s.journal, conn, socket⟩ := ⟨hheld, rfl⟩
  exact hs.pass_induct
    (P := fun c ↦ ¬ ((T.state c.socket).PeerClosed ∧ (T.traffic c.socket).readable = []))
    (fun s s' id c _ hok hpass hhas hdead ↦
      (Conn.driven_propagated_iff laws hdead).mpr (hok hpass id c hhas))
    (fun _ _ _ h ↦ h) hphase hhas

end Laws

/-! ## The first pass of a connection -/

/-- The socket of the connection after a poll that brought some bytes and led to some state. -/
def polledSocket (state : TcpState) (bytes : List UInt8) : PlainTcp :=
  ⟨state, 65536, (Traffic.empty.connect 40000 ⟨⟨10, 166, 35, 11⟩, 443⟩).receive bytes⟩

/-- The first connection before its first pass. -/
def polledFirst (state : TcpState) (bytes : List UInt8) : LoopState .plain .plain where
  net :=
    { justOpened.net with
      sockets := Function.update (fun _ ↦ none) 0 (some (.tcp (polledSocket state bytes))) }
  phase := .driving
  journal := justOpened.journal

theorem reachableWhere_polledFirst {ok : LoopState .plain .plain → LoopState .plain .plain → Prop}
    (hok : ∀ s s', ¬ IsPass s s' → ok s s') (state : TcpState) (bytes : List UInt8) :
    ReachableWhere ok (polledFirst state bytes) := by
  have hinit : ReachableWhere ok (.initial () : LoopState .plain .plain) := ⟨(), .refl⟩
  have hopened : ReachableWhere ok justOpened :=
    hinit.tail (.receive (.openTcp ⟨⟨10, 166, 35, 11⟩, 443⟩) 0 rfl rfl)
      (hok _ _ fun h ↦ nomatch h.1)
  have hpolled := (hopened.tail (.endBatch (.inr ⟨_, rfl⟩)) (hok _ _ fun h ↦ nomatch h.1)).tail
    (.pollOne 0 (polledSocket state bytes) rfl (fun _ ↦ sockets_justOpened_of_ne) ⟨bytes, rfl⟩)
    (hok _ _ fun h ↦ nomatch h.1)
  simpa [polledFirst, justOpened] using hpolled

theorem reachable_polledFirst (state : TcpState) (bytes : List UInt8) :
    Reachable (polledFirst state bytes) :=
  ReachableWhere.reachable (reachableWhere_polledFirst (fun _ _ _ ↦ trivial) state bytes :
    ReachableWhere (fun _ _ ↦ True) (polledFirst state bytes))

/-- The pass of a connection that may send leaves it in the table. -/
theorem exists_step_polledFirst {state : TcpState} {bytes : List UInt8}
    (hmay : (polledSocket state bytes).maySend = true) :
    ∃ s', Step (polledFirst state bytes) s' ∧ IsPass (polledFirst state bytes) s'
      ∧ ∃ c : Conn .plain, (polledFirst state bytes).Has 1 c ∧ s'.Has 1 c.driven
        ∧ c.state = ⟨0, .fresh, [], false⟩ ∧ c.socket = polledSocket state bytes := by
  have hs := reachable_polledFirst state bytes
  obtain ⟨n', hdrive, hstays⟩ := Step.exists_drive hs.owned (polledFirst state bytes).journal
    (enumerates_single 1 _)
  have hheld : (polledFirst state bytes).net.Holds 1 ⟨0, .fresh, [], false⟩
    (polledSocket state bytes) := ⟨rfl, rfl⟩
  have hhas : (polledFirst state bytes).Has 1 ⟨_, _, _⟩ := ⟨hheld, rfl⟩
  exact ⟨_, hdrive, ⟨rfl, rfl⟩, _, hhas,
    hstays 1 _ hhas (dead_of_maySend TcpSockets.stateLaws_plain hmay _), rfl, rfl⟩

/-- A connection whose peer has closed its side stays in the table. -/
theorem end_of_stream_missed :
    ∃ s : LoopState .plain .plain, Reachable s ∧ s.phase = .drivingUdp ∧ ¬ s.net.Propagated := by
  have hs := reachable_polledFirst .closeWait []
  obtain ⟨s', hstep, hpass, c, hhas, -, hstate, hsocket⟩ :=
    exists_step_polledFirst (rfl : (polledSocket .closeWait []).maySend = true)
  refine ⟨s', hs.tail hstep, hpass.2, fun hpropagated ↦ ?_⟩
  have hok := (hstep.propagated_iff_endsSeen TcpSockets.stateLaws_plain hs hpass).mp hpropagated
  have hclosed : (TcpSockets.plain.state c.socket).HalfClosed := by
    rw [hsocket]
    exact .inl rfl
  obtain ⟨left, hleft, -⟩ := hok hpass 1 c hhas hclosed
  rw [hstate] at hleft
  cases hleft

theorem endsSeen_polledFirst (bytes : List UInt8) (s' : LoopState .plain .plain) :
    EndsSeen (polledFirst .established bytes) s' := by
  rintro - id c ⟨⟨-, hsocket⟩, -⟩ hclosed
  have honly := Socket.tcp.inj (eq_of_update_single hsocket)
  rw [← honly] at hclosed
  obtain h | h | h := hclosed <;> cases h

/-- While the peer is still sending, nothing is to be passed on. -/
theorem propagated_of_endsSeen_established :
    ∃ s s' : LoopState .plain .plain, Step s s' ∧ IsPass s s' ∧ (∃ c, s'.Has 1 c)
      ∧ EndsSeen s s' ∧ s'.net.Propagated := by
  obtain ⟨hwhere, hiff⟩ := propagated_of_endsSeen (U := .plain) TcpSockets.stateLaws_plain
  have hs : ReachableWhere EndsSeen (polledFirst .established [1, 2, 3]) :=
    reachableWhere_polledFirst (fun s s' hnopass hpass ↦ absurd hpass hnopass) _ _
  obtain ⟨s', hstep, hpass, c, -, hafter, -⟩ :=
    exists_step_polledFirst (rfl : (polledSocket .established [1, 2, 3]).maySend = true)
  have hpropagated := hwhere s' (hs.tail hstep (endsSeen_polledFirst _ _)) hpass.2
  exact ⟨_, s', hstep, hpass, ⟨_, hafter⟩, (hiff _ s' hs.reachable hstep hpass).mp hpropagated,
    hpropagated⟩

/-- Three bytes that have arrived are sent in the next pass. -/
theorem download_intact_three :
    ∃ (s : LoopState .plain .plain) (conn : ConnectionState), Reachable s
      ∧ s.net.connections 1 = some conn ∧ conn.uplink.sent.flatten = [1, 2, 3] := by
  have hs := reachable_polledFirst .established [1, 2, 3]
  obtain ⟨s', hstep, hpass, c, -, hafter, hstate, hsocket⟩ :=
    exists_step_polledFirst (rfl : (polledSocket .established [1, 2, 3]).maySend = true)
  have hconn := hafter.holds.1
  obtain ⟨socket, hsocket', -, hbytes⟩ := (download_intact (hs.tail hstep)).1 1 _ hconn
  obtain rfl := Socket.tcp.inj (Option.some.inj (hsocket'.symm.trans hafter.holds.2))
  refine ⟨s', _, hs.tail hstep, hconn, (hbytes hpass.2 (Conn.alive_driven ?_)).trans ?_⟩
  · rw [hstate]
    rfl
  · rw [Conn.arrived_driven, hsocket]
    rfl

end ShiepPipeline
