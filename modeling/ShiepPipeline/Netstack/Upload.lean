import ShiepPipeline.Netstack.Connection

/-!
# Uploads

The bytes a client sends go into the queue of its connection, and from there into the transmit
buffer of the socket, as far as there is room. `upload_intact`: what the socket has accepted and
what is queued is, put together, what was sent.

A connection is closed as soon as that was asked for and the socket may send, whether or not the
queue is empty. `reachableWhere_queuesFit_iff` says in which runs no queue is cut off by this: those
where in every pass the queues of the connections about to be closed fit the transmit buffers.
-/

open Net

namespace ShiepPipeline

variable {T : TcpSockets} {U : UdpSockets}

/-! ## The integrity of uploads -/

/-- Nothing that was requested is lost, unless `send_slice` has failed. -/
def Conn.UploadIntact (c : Conn T) : Prop :=
  (T.traffic c.socket).refused = false →
    (T.traffic c.socket).accepted ++ c.state.pendingSend.flatten = c.history.requested

theorem Conn.UploadIntact.driven {c : Conn T} (h : c.UploadIntact) : c.driven.UploadIntact := by
  intro hrefused
  have hrelayed := TcpSockets.relayed_pump c.socket c.state
  rw [Conn.driven, TcpSockets.traffic_driveConnection, hrelayed.traffic] at hrefused
  rw [Conn.driven, TcpSockets.traffic_driveConnection, hrelayed.traffic]
  dsimp only [TcpSockets.driveConnection, Traffic.read] at hrefused ⊢
  rw [hrelayed.pendingSend]
  dsimp only [TcpSockets.pumpPendingSends] at hrefused ⊢
  obtain ⟨bytes, htraffic, hqueue, -⟩ | ⟨bytes, htraffic, -⟩ :=
    TcpSockets.sendChunks_cases c.socket c.state.pendingSend
  · rw [htraffic] at hrefused ⊢
    dsimp only [Traffic.accept] at hrefused ⊢
    rw [← h hrefused, hqueue, List.append_assoc]
  · rw [htraffic] at hrefused
    cases hrefused

theorem Conn.UploadIntact.step {c c' : Conn T} (hstep : c.Step c') (h : c.UploadIntact) :
    c'.UploadIntact := by
  cases hstep with
  | idle | closeAsked | receiverDropped => exact h
  | sent data =>
    intro hrefused
    dsimp only
    rw [List.flatten_append, List.flatten_singleton, ← List.append_assoc, h hrefused]
  | polled hpolled =>
    intro hrefused
    obtain ⟨bytes, htraffic⟩ := T.traffic_of_polled hpolled
    rw [htraffic] at hrefused ⊢
    exact h hrefused
  | driven => exact h.driven

theorem Conn.traffic_of_opens {s : LoopState T U} {target : SocketAddrV4} {c : Conn T}
    (h : s.Opens target c) :
    T.traffic c.socket = Traffic.empty.connect s.net.nextLocalPort target := by
  obtain ⟨handle, hconnect⟩ := h
  have htraffic := T.traffic_connect (congrArg Prod.fst hconnect)
  rw [T.traffic_new, hconnect] at htraffic
  exact htraffic

theorem Reachable.uploadIntact {s : LoopState T U} (hs : Reachable s) {id : UInt64} {c : Conn T}
    (hhas : s.Has id c) : c.UploadIntact := by
  refine hs.conn_induct (fun s target c _ hopens hrefused ↦ ?_) (fun c c' hstep h ↦ h.step hstep)
    hhas
  rw [Conn.traffic_of_opens hopens]
  cases hopens
  rfl

/-- **Uploads arrive as they were sent.** For every connection in the table whose socket has never
refused data, the accepted bytes followed by the queued chunks are the bytes of the messages for it,
in order. -/
theorem upload_intact {s : LoopState T U} (hs : Reachable s) {id : UInt64}
    {conn : ConnectionState} (hconn : s.net.connections id = some conn) :
    ∃ socket, s.net.sockets conn.handle = some (.tcp socket)
      ∧ ((T.traffic socket).refused = false →
        (T.traffic socket).accepted ++ conn.pendingSend.flatten
          = (history id s.journal).requested) := by
  obtain ⟨socket, hheld⟩ := hs.owned.holds hconn
  have hhas : s.Has id ⟨history id s.journal, conn, socket⟩ := ⟨hheld, rfl⟩
  exact ⟨socket, hheld.2, hs.uploadIntact hhas⟩

/-! ## Closing -/

namespace TcpSockets

/-- A whole queue fits the free part of a transmit buffer. -/
def Fits : ℕ → List (List UInt8) → Prop
  | _, [] => True
  | free, chunk :: queue =>
    0 < free ∧ chunk.length ≤ free ∧ Fits (free - chunk.length) queue

section Laws

variable (laws : T.StateLaws)

include laws

/-- A socket that takes data at all does not refuse it. -/
theorem StateLaws.sendChunks_ok (s : T.Socket) (queue : List (List UInt8)) :
    (T.sendChunks s queue).2.2 = false := by
  fun_induction T.sendChunks s queue with
  | case2 _ _ _ _ _ ih => exact ih
  | case4 s chunk queue hcan err herr =>
    have hsend := laws.sendSlice_eq ((laws.canSend_iff s).mp hcan).1 chunk
    exact absurd (hsend.symm.trans herr) (by simp)
  | _ => rfl

theorem StateLaws.state_sendChunks (s : T.Socket) (queue : List (List UInt8)) :
    T.state (T.sendChunks s queue).1 = T.state s := by
  fun_induction T.sendChunks s queue with
  | case2 s chunk _ _ _ ih => rw [ih, laws.state_sendSlice]
  | case3 | case4 => exact laws.state_sendSlice _ _
  | _ => rfl

theorem StateLaws.state_pumpUplinkReads (s : T.Socket) (conn : ConnectionState) :
    T.state (T.pumpUplinkReads s conn).1 = T.state s := by
  fun_induction T.pumpUplinkReads s conn with
  | case2 _ _ _ _ _ _ _ _ ih => rw [ih, laws.state_recvSlice]
  | case5 => rfl
  | _ => exact laws.state_recvSlice _ _

theorem StateLaws.state_pump (s : T.Socket) (conn : ConnectionState) :
    T.state (T.pump s conn).1 = T.state s := by
  rw [pump, laws.state_pumpUplinkReads, pumpPendingSends, laws.state_sendChunks]

theorem StateLaws.maySend_congr {s s' : T.Socket} (h : T.state s' = T.state s) :
    T.maySend s' = T.maySend s := by
  rw [Bool.eq_iff_iff, laws.maySend_iff, laws.maySend_iff, h]

theorem StateLaws.maySend_pump (s : T.Socket) (conn : ConnectionState) :
    T.maySend (T.pump s conn).1 = T.maySend s :=
  laws.maySend_congr (laws.state_pump s conn)

theorem StateLaws.state_driveConnection (s : T.Socket) (conn : ConnectionState) :
    T.state (T.driveConnection s conn).object
      = if T.closes s conn then (T.state s).afterClose else T.state s := by
  rw [driveConnection]
  dsimp only
  split_ifs
  · rw [laws.state_close, laws.state_pump]
  · rw [laws.state_pump]

theorem StateLaws.dead_eq_false_iff (s : T.Socket) (conn : ConnectionState) :
    (T.driveConnection s conn).dead = false
      ↔ T.state (T.driveConnection s conn).object ≠ .closed
        ∧ T.state (T.driveConnection s conn).object ≠ .timeWait := by
  rw [← laws.isOpen_iff]
  simp [driveConnection]

/-- What is left of a single chunk. -/
theorem StateLaws.sendChunks_singleton {s : T.Socket} (hmay : T.maySend s = true)
    (hfree : 0 < T.free s) (data : List UInt8) :
    (T.sendChunks s [data]).2.1
      = if data.length ≤ T.free s then [] else [data.drop (T.free s)] := by
  rw [sendChunks, if_pos ((laws.canSend_iff s).mpr ⟨hmay, hfree⟩)]
  simp only [laws.sendSlice_eq hmay]
  by_cases hfits : data.length ≤ T.free s
  · rw [if_pos hfits, if_pos (Nat.min_eq_left hfits), sendChunks]
  · rw [if_neg hfits, if_neg (by omega), Nat.min_eq_right (by omega)]

/-- **A queue is emptied by one pass exactly if it fits.** -/
theorem StateLaws.sendChunks_eq_nil_iff {s : T.Socket} (hmay : T.maySend s = true)
    (queue : List (List UInt8)) :
    (T.sendChunks s queue).2.1 = [] ↔ Fits (T.free s) queue := by
  fun_induction T.sendChunks s queue with
  | case1 s => simp [Fits]
  | case2 s chunk queue hcan hsent ih =>
    have hfree := ((laws.canSend_iff s).mp hcan).2
    have hmin := Except.ok.inj ((laws.sendSlice_eq hmay chunk).symm.trans hsent)
    rw [ih (by rw [laws.maySend_congr (laws.state_sendSlice s chunk), hmay]),
      laws.free_sendSlice hsent, Fits]
    exact ⟨fun h ↦ ⟨hfree, by omega, h⟩, fun h ↦ h.2.2⟩
  | case3 s chunk queue hcan sent hsent hne =>
    have hmin := Except.ok.inj ((laws.sendSlice_eq hmay chunk).symm.trans hsent)
    refine ⟨fun h ↦ absurd h (List.cons_ne_nil _ _), fun h ↦ absurd h.2.1 ?_⟩
    omega
  | case4 s chunk queue hcan err herr =>
    exact absurd ((laws.sendSlice_eq hmay chunk).symm.trans herr) (by simp)
  | case5 s chunk queue hcan =>
    have hfull : ¬ 0 < T.free s := fun h ↦ hcan ((laws.canSend_iff s).mpr ⟨hmay, h⟩)
    exact ⟨fun h ↦ absurd h (List.cons_ne_nil _ _), fun h ↦ absurd h.1 hfull⟩

end Laws

theorem pendingSend_pump (s : T.Socket) (conn : ConnectionState) :
    (T.pump s conn).2.pendingSend = (T.sendChunks s conn.pendingSend).2.1 :=
  (relayed_pump s conn).pendingSend

theorem closeRequested_pump {s : T.Socket} {conn : ConnectionState}
    (h : conn.closeRequested = true) : (T.pump s conn).2.closeRequested = true := by
  refine (relayed_pump s conn).closeRequested ?_
  simp [pumpPendingSends, h]

end TcpSockets

/-- A request to close is noted, and no data has been refused. -/
structure Conn.CloseNoted (c : Conn T) : Prop where
  closeRequested : c.history.closeAsked = true → c.state.closeRequested = true
  refused : (T.traffic c.socket).refused = false

theorem Conn.CloseNoted.driven (laws : T.StateLaws) {c : Conn T} (h : c.CloseNoted) :
    c.driven.CloseNoted := by
  refine ⟨fun hasked ↦ TcpSockets.closeRequested_pump (h.closeRequested hasked), ?_⟩
  rw [Conn.driven, TcpSockets.traffic_driveConnection,
    (TcpSockets.relayed_pump c.socket c.state).traffic]
  obtain ⟨bytes, htraffic, -, -⟩ | ⟨-, -, hfail⟩ :=
    TcpSockets.sendChunks_cases c.socket c.state.pendingSend
  · dsimp only [Traffic.read, TcpSockets.pumpPendingSends]
    rw [htraffic]
    exact h.refused
  · rw [laws.sendChunks_ok] at hfail
    cases hfail

theorem Conn.CloseNoted.step (laws : T.StateLaws) {c c' : Conn T} (hstep : c.Step c')
    (h : c.CloseNoted) : c'.CloseNoted := by
  cases hstep with
  | idle | sent | receiverDropped => exact ⟨h.closeRequested, h.refused⟩
  | closeAsked => exact ⟨fun _ ↦ rfl, h.refused⟩
  | polled hpolled =>
    obtain ⟨bytes, htraffic⟩ := T.traffic_of_polled hpolled
    exact ⟨h.closeRequested, by rw [htraffic]; exact h.refused⟩
  | driven => exact h.driven laws

theorem Reachable.closeNoted (laws : T.StateLaws) {s : LoopState T U} (hs : Reachable s)
    {id : UInt64} {c : Conn T} (hhas : s.Has id c) : c.CloseNoted := by
  refine hs.conn_induct (fun s target c _ hopens ↦ ?_) (fun c c' hstep h ↦ h.step laws hstep) hhas
  refine ⟨?_, by rw [Conn.traffic_of_opens hopens]; rfl⟩
  cases hopens
  exact nofun

/-- A connection that may send stays in the table, if only to be closed. -/
theorem dead_of_maySend (laws : T.StateLaws) {s : T.Socket} (hmay : T.maySend s = true)
    (conn : ConnectionState) : (T.driveConnection s conn).dead = false := by
  rw [laws.dead_eq_false_iff, laws.state_driveConnection]
  obtain hstate | hstate := (laws.maySend_iff s).mp hmay
  · rw [hstate]
    split_ifs <;> decide
  · rw [hstate]
    split_ifs <;> decide

/-- A connection that may send and is to be closed is closed. -/
theorem visitEvents_of_closeRequested (laws : T.StateLaws) {n : Netstack T U} {id : UInt64}
    {conn : ConnectionState} {s : T.Socket} (hheld : n.Holds id conn s)
    (hmay : T.maySend s = true) (hrequested : conn.closeRequested = true) :
    n.visitEvents id = [.closing id (T.pump s conn).1 (T.pump s conn).2] := by
  have hcloses : T.closes s conn = true := by
    rw [TcpSockets.closes, TcpSockets.closeRequested_pump hrequested, Bool.true_and,
      laws.maySend_pump, hmay]
  rw [Netstack.visitEvents_of_holds hheld, hcloses, dead_of_maySend laws hmay]
  rfl

/-! ## Runs in which nothing is cut off -/

/-- A call of `close` because the client asked for it cuts nothing off: the queue is empty, and
everything that was requested has been accepted. -/
def Event.ClosesClean (older : List (Event T)) : Event T → Prop
  | .closing id socket conn => (history id older).closeAsked = true →
    conn.pendingSend = [] ∧ (T.traffic socket).accepted = (history id older).requested
  | _ => True

/-- Every call of `close` in a journal was clean. -/
def ClosesClean : List (Event T) → Prop
  | [] => True
  | e :: older => e.ClosesClean older ∧ ClosesClean older

/-- In a pass from this state, the queues of the connections that are about to be closed fit. -/
def QueuesFit (s s' : LoopState T U) : Prop :=
  IsPass s s' → ∀ id c, s.Has id c → c.history.closeAsked = true → T.maySend c.socket = true →
    TcpSockets.Fits (T.free c.socket) c.state.pendingSend

theorem closesClean_append {events older : List (Event T)}
    (hsilent : ∀ e ∈ events, ∀ id, e.Silent id) :
    ClosesClean (events ++ older) ↔ (∀ e ∈ events, e.ClosesClean older) ∧ ClosesClean older := by
  induction events with
  | nil => simp
  | cons e events ih =>
    rw [List.forall_mem_cons] at hsilent
    have hhere : e.ClosesClean (events ++ older) ↔ e.ClosesClean older := by
      cases e with
      | closing id socket conn =>
        rw [Event.ClosesClean, history_append_of_silent fun e he ↦ hsilent.2 e he id]
        rfl
      | handled | removed => exact Iff.rfl
    rw [List.cons_append, ClosesClean, ih hsilent.2, hhere, List.forall_mem_cons, and_assoc]

section Laws

variable (laws : T.StateLaws)

include laws

/-- A connection that is about to be closed is closed clean exactly if its queue fits. -/
theorem closesClean_visit_iff {s : LoopState T U} (hs : Reachable s) {id : UInt64} {c : Conn T}
    (hhas : s.Has id c) :
    (∀ e ∈ s.net.visitEvents id, e.ClosesClean s.journal)
      ↔ (c.history.closeAsked = true → T.maySend c.socket = true →
        TcpSockets.Fits (T.free c.socket) c.state.pendingSend) := by
  have hnoted := hs.closeNoted laws hhas
  have hcloses : c.history.closeAsked = true →
      (T.closes c.socket c.state = true ↔ T.maySend c.socket = true) := by
    intro hasked
    rw [TcpSockets.closes, TcpSockets.closeRequested_pump (hnoted.closeRequested hasked),
      Bool.true_and, laws.maySend_pump]
  constructor
  · intro hclean hasked hmay
    have hclosing := hclean _ ((Netstack.mem_visitEvents hhas.holds).mpr
      (.inl ⟨(hcloses hasked).mpr hmay, rfl⟩))
    rw [Event.ClosesClean, hhas.history] at hclosing
    rw [← laws.sendChunks_eq_nil_iff hmay, ← TcpSockets.pendingSend_pump]
    exact (hclosing hasked).1
  · intro hfit e he
    rcases (Netstack.mem_visitEvents hhas.holds).mp he with ⟨hcloses', rfl⟩ | ⟨-, rfl⟩
    · rw [Event.ClosesClean, hhas.history]
      intro hasked
      have hmay := (hcloses hasked).mp hcloses'
      have hempty : (T.pump c.socket c.state).2.pendingSend = [] := by
        rw [TcpSockets.pendingSend_pump, laws.sendChunks_eq_nil_iff hmay]
        exact hfit hasked hmay
      refine ⟨hempty, ?_⟩
      -- with the queue empty, the bytes accepted are all there were
      have hintact := (hs.uploadIntact hhas).driven (hnoted.driven laws).refused
      rw [Conn.driven, TcpSockets.traffic_driveConnection] at hintact
      dsimp only [TcpSockets.driveConnection] at hintact
      rwa [hempty, List.flatten_nil, List.append_nil] at hintact
    · trivial

/-- A pass keeps the journal clean exactly if the queues fit. -/
theorem Step.closesClean_iff {s s' : LoopState T U} (hs : Reachable s) (h : Step s s') :
    ClosesClean s'.journal ↔ QueuesFit s s' ∧ ClosesClean s.journal := by
  by_cases hpass : IsPass s s'
  · obtain ⟨events, hjournal, hsilent, hall, honly⟩ := h.mem_events_iff_of_isPass hpass
    rw [hjournal, closesClean_append hsilent]
    refine and_congr_left fun _ ↦ ?_
    constructor
    · intro hclean _ id c hhas
      exact (closesClean_visit_iff laws hs hhas).mp fun e he ↦ hclean e (hall hhas e he)
    · intro hfit e he
      obtain ⟨id, c, hhas, hvisit⟩ := honly e he
      exact (closesClean_visit_iff laws hs hhas).mpr (hfit hpass id c hhas) e hvisit
  · have hnopass : QueuesFit s s' := fun h ↦ absurd h hpass
    rcases h.journal_cases with hsame | ⟨message, reply, hhandled⟩ | hpass'
    · rw [hsame, and_iff_right hnopass]
    · rw [hhandled, and_iff_right hnopass]
      exact and_iff_right trivial
    · exact absurd hpass' hpass

/-- **When closing cuts nothing off.** A run has only clean closes exactly if in all its passes the
queues of the connections about to be closed fit the transmit buffers. -/
theorem reachableWhere_queuesFit_iff {s : LoopState T U} :
    ReachableWhere QueuesFit s ↔ Reachable s ∧ ClosesClean s.journal := by
  constructor
  · rintro ⟨iface, hrun⟩
    induction hrun with
    | refl => exact ⟨⟨iface, .refl⟩, trivial⟩
    | tail _ h ih =>
      exact ⟨ih.1.tail h.1, (h.1.closesClean_iff laws ih.1).mpr ⟨h.2, ih.2⟩⟩
  · rintro ⟨⟨iface, hrun⟩, hclean⟩
    refine ⟨iface, ?_⟩
    induction hrun with
    | refl => exact .refl
    | tail hrun h ih =>
      obtain ⟨hfit, hclean⟩ := (h.closesClean_iff laws ⟨iface, hrun⟩).mp hclean
      exact (ih hclean).tail ⟨h, hfit⟩

end Laws

/-- The connection has been asked to send some data and to close, and is established by now. -/
def askedToClose (data : List UInt8) : LoopState .plain .plain where
  net :=
    { justOpened.net with
      sockets := Function.update (fun _ ↦ none) 0
        (some (.tcp ⟨.established, 65536, Traffic.empty.connect 40000 ⟨⟨10, 166, 35, 11⟩, 443⟩⟩))
      connections := Function.update (fun _ ↦ none) 1 (some ⟨0, .fresh, [data], true⟩) }
  phase := .driving
  journal := .handled (.close 1) none :: .handled (.send 1 data) none :: justOpened.journal

theorem reachable_askedToClose (data : List UInt8) : Reachable (askedToClose data) := by
  have hasked :=
    (reachable_justOpened.receive (.send 1 data) 1 rfl rfl).receive (.close 1) 1 rfl rfl
  have hpolled := (hasked.tail (.endBatch (.inr ⟨_, rfl⟩))).tail (.pollOne 0
    (⟨.established, 65536, Traffic.empty.connect 40000 ⟨⟨10, 166, 35, 11⟩, 443⟩⟩ : PlainTcp) rfl
    (fun _ ↦ sockets_justOpened_of_ne) ⟨[], rfl⟩)
  simpa [Netstack.handleControlMessage, Netstack.modifyConnection, askedToClose, justOpened]
    using hpolled

/-- The pass that closes the connection. -/
theorem exists_reachable_closing (data : List UInt8) :
    ∃ (n' : Netstack .plain .plain) (socket : TcpSockets.plain.Socket) (conn : ConnectionState),
      Reachable ⟨n', .drivingUdp, .closing 1 socket conn :: (askedToClose data).journal⟩
      ∧ n'.connections 1 = some conn
      ∧ (conn.pendingSend = if data.length ≤ 65536 then [] else [data.drop 65536])
      ∧ (data.length ≤ 65536 →
        (Event.closing 1 socket conn).ClosesClean (askedToClose data).journal) := by
  have laws := TcpSockets.stateLaws_plain
  have hasked := reachable_askedToClose data
  obtain ⟨n', hdrive, hstays⟩ := Step.exists_drive hasked.owned
    (askedToClose data).journal (enumerates_single 1 _)
  have hs := hasked.tail hdrive
  have hheld : (askedToClose data).net.Holds 1 _ _ := ⟨rfl, rfl⟩
  have hhas : (askedToClose data).Has 1 ⟨_, _, _⟩ := ⟨hheld, rfl⟩
  have hevents := visitEvents_of_closeRequested laws hheld rfl rfl
  change Reachable ⟨n', .drivingUdp, ((askedToClose data).net.passEvents [1]).reverse
    ++ (askedToClose data).journal⟩ at hs
  rw [Netstack.passEvents, List.flatMap_singleton, hevents] at hs
  refine ⟨n', _, _, hs, (hstays 1 _ hhas (dead_of_maySend laws rfl _)).holds.1,
    (TcpSockets.pendingSend_pump _ _).trans (laws.sendChunks_singleton rfl (by decide) data),
    fun hlen ↦ (closesClean_visit_iff laws hasked hhas).mpr (fun _ _ ↦ ?_) _ ?_⟩
  · exact ⟨Nat.succ_pos 65535, hlen, trivial⟩
  · rw [hevents]
    exact List.mem_singleton_self _

/-- One byte more than the transmit buffer holds is cut off. -/
theorem close_cuts_off_queue :
    ∃ s : LoopState .plain .plain, Reachable s ∧ ∃ socket conn older,
      s.journal = .closing 1 socket conn :: older ∧ (history 1 older).closeAsked = true
      ∧ conn.pendingSend = [[0]] := by
  obtain ⟨n', socket, conn, hs, -, hconn, -⟩ := exists_reachable_closing (List.replicate 65537 0)
  rw [List.length_replicate, if_neg (by omega), List.drop_replicate] at hconn
  exact ⟨_, hs, socket, conn, _, rfl, rfl, hconn⟩

/-- What fits is sent before the socket is closed. -/
theorem reachableWhere_queuesFit_short :
    ∃ s : LoopState .plain .plain, ReachableWhere QueuesFit s ∧ ∃ socket conn older,
      s.journal = .closing 1 socket conn :: older ∧ conn.pendingSend = [] := by
  obtain ⟨n', socket, conn, hs, -, hconn, hclean⟩ := exists_reachable_closing [1, 2, 3]
  refine ⟨_, (reachableWhere_queuesFit_iff TcpSockets.stateLaws_plain).mpr
    ⟨hs, hclean (by decide), trivial, trivial, trivial, trivial⟩, socket, conn, _, rfl, ?_⟩
  rw [hconn, if_pos (by decide)]

/-- With 65536 of 65537 bytes accepted, the last one is still queued. -/
theorem upload_intact_partial :
    ∃ (s : LoopState .plain .plain) (conn : ConnectionState) (socket : TcpSockets.plain.Socket),
      conn.pendingSend = [[0]] ∧ s.net.sockets conn.handle = some (.tcp socket)
      ∧ ((TcpSockets.plain.traffic socket).refused = false →
        (TcpSockets.plain.traffic socket).accepted ++ conn.pendingSend.flatten
          = (history 1 s.journal).requested) := by
  obtain ⟨n', _, conn, hs, hconn, hpending, -⟩ :=
    exists_reachable_closing (List.replicate 65537 0)
  rw [List.length_replicate, if_neg (by omega), List.drop_replicate] at hpending
  obtain ⟨socket, hsocket, hintact⟩ := upload_intact hs hconn
  exact ⟨_, conn, socket, hpending, hsocket, hintact⟩

end ShiepPipeline
