import ShiepPipeline.Netstack.Ownership

/-!
# One connection

`Conn` is what one connection amounts to: what was asked of it, what the netstack keeps for it, and
its socket. `Conn.Step` is all that can happen to it. `Step.conn_cases` is the link with the loop:
a connection in the table after a step has just been opened, or it was there before the step and
has made a step of its own. `Reachable.conn_induct` is the rule that follows, by which a property of
one connection is proved of every connection in every run.
-/

open Net Sweeper

namespace ShiepPipeline

variable {T : TcpSockets} {U : UdpSockets}

structure Conn (T : TcpSockets) where
  history : History
  state : ConnectionState
  socket : T.Socket

namespace Conn

variable (c : Conn T)

/-- What a visit of `drive_connections` makes of a connection. -/
def driven : Conn T :=
  { c with
    state := (T.driveConnection c.socket c.state).entry
    socket := (T.driveConnection c.socket c.state).object }

/-- What can happen to a connection that stays in the table. -/
inductive Step : Conn T → Conn T → Prop
  | idle (c : Conn T) : Step c c
  | sent (c : Conn T) (data : List UInt8) :
      Step c
        { c with
          history := { c.history with requested := c.history.requested ++ data }
          state := { c.state with pendingSend := c.state.pendingSend ++ [data] } }
  | closeAsked (c : Conn T) :
      Step c
        { c with
          history := { c.history with closeAsked := true }
          state := { c.state with closeRequested := true } }
  | polled (c : Conn T) {s : T.Socket} (hpolled : T.Polled c.socket s) :
      Step c { c with socket := s }
  | receiverDropped (c : Conn T) (halive : c.state.uplink.left = none) (left : ℕ) :
      Step c { c with state := { c.state with uplink := c.state.uplink.drop left } }
  | driven (c : Conn T) (hdead : (T.driveConnection c.socket c.state).dead = false) :
      Step c c.driven

end Conn

/-- A connection is in the table. -/
structure LoopState.Has (s : LoopState T U) (id : UInt64) (c : Conn T) : Prop where
  holds : s.net.Holds id c.state c.socket
  history : history id s.journal = c.history

/-- An open that is handled in a state registers a connection to `target`. -/
inductive LoopState.Opens (s : LoopState T U) (target : SocketAddrV4) : Conn T → Prop
  | mk (handle : SocketHandle) {socket : T.Socket}
      (hconnect : T.connect (T.new socketBufferCapacity socketBufferCapacity) s.net.iface target
        s.net.nextLocalPort = (.ok (), socket)) :
      Opens s target ⟨⟨openCount s.journal, [], false⟩, ⟨handle, .fresh, [], false⟩, socket⟩

/-! ## What the journal says -/

theorem history_append_of_silent {id : UInt64} {events : List (Event T)}
    (h : ∀ e ∈ events, e.Silent id) (older : List (Event T)) :
    history id (events ++ older) = history id older := by
  induction events with
  | nil => rfl
  | cons e events ih =>
    rw [List.forall_mem_cons] at h
    rw [List.cons_append, history_cons_of_silent h.1, ih h.2]

namespace Netstack

variable {n : Netstack T U}

theorem visitEvents_of_holds {id : UInt64} {conn : ConnectionState} {s : T.Socket}
    (h : n.Holds id conn s) :
    n.visitEvents id
      = (if T.closes s conn then [.closing id (T.pump s conn).1 (T.pump s conn).2] else [])
        ++ (if (T.driveConnection s conn).dead then
          [.removed id (T.driveConnection s conn).object (T.driveConnection s conn).entry]
          else []) := by
  simp only [visitEvents, h.1, h.2]

/-- What a pass writes into the journal is about connections in the table. -/
theorem exists_of_mem_passEvents {order : List UInt64} {e : Event T}
    (h : e ∈ n.passEvents order) :
    ∃ id conn s, n.Holds id conn s ∧ e ∈ n.visitEvents id := by
  obtain ⟨id, -, he⟩ := List.mem_flatMap.mp h
  have hvisit := he
  rw [visitEvents] at he
  split at he
  · cases he
  · next conn hconn =>
    split at he
    · next s hs => exact ⟨id, conn, s, ⟨hconn, hs⟩, hvisit⟩
    · cases he

theorem mem_visitEvents {id : UInt64} {conn : ConnectionState} {s : T.Socket}
    (hheld : n.Holds id conn s) {e : Event T} :
    e ∈ n.visitEvents id
      ↔ T.closes s conn = true ∧ e = .closing id (T.pump s conn).1 (T.pump s conn).2
        ∨ (T.driveConnection s conn).dead = true
          ∧ e = .removed id (T.driveConnection s conn).object (T.driveConnection s conn).entry := by
  rw [visitEvents_of_holds hheld, List.mem_append]
  cases T.closes s conn <;> cases (T.driveConnection s conn).dead <;> simp

theorem silent_of_mem_passEvents {order : List UInt64} {e : Event T}
    (h : e ∈ (n.passEvents order).reverse) (id : UInt64) : e.Silent id := by
  obtain ⟨id', conn, s, hheld, he⟩ := exists_of_mem_passEvents (List.mem_reverse.mp h)
  obtain ⟨-, rfl⟩ | ⟨-, rfl⟩ := (mem_visitEvents hheld).mp he
  · exact ⟨rfl, rfl, rfl⟩
  · exact ⟨rfl, rfl, rfl⟩

theorem Holds.update_free {id : UInt64} {conn : ConnectionState} {s : T.Socket}
    (howned : n.Owned) {handle : SocketHandle} (hfree : n.sockets handle = none)
    {o : Option (Socket T U)} (hconn : n.connections id = some conn)
    (hs : Function.update n.sockets handle o conn.handle = some (.tcp s)) : n.Holds id conn s := by
  obtain ⟨s', hheld⟩ := howned.holds hconn
  have hafter := sockets_update_free (o := o) hfree hheld.2
  obtain rfl := Socket.tcp.inj (Option.some.inj (hafter.symm.trans hs))
  exact hheld

end Netstack

/-! ## The connections of the loop -/

section Simulation

variable {n : Netstack T U} {phase phase' : Phase} {journal : List (Event T)} {id : UInt64}
  {c' : Conn T}

/-- A step that neither concerns a connection nor its socket. -/
theorem exists_idle {s s' : LoopState T U} (hhas : s'.Has id c')
    (hholds : s.net.Holds id c'.state c'.socket)
    (hhistory : history id s'.journal = history id s.journal) :
    ∃ c, s.Has id c ∧ c.Step c' :=
  ⟨c', ⟨hholds, hhistory.symm.trans hhas.history⟩, .idle c'⟩

/-- What handling a message does to a connection. -/
theorem conn_cases_of_receive (howned : n.Owned) {handle : SocketHandle}
    (hfree : n.sockets handle = none) {message : ControlMessage}
    (hhas : LoopState.Has (⟨(n.handleControlMessage handle message).2, phase',
      .handled message (n.handleControlMessage handle message).1 :: journal⟩ : LoopState T U)
      id c') :
    (∃ target, LoopState.Opens ⟨n, phase, journal⟩ target c' ∧ message = .openTcp target
        ∧ (n.handleControlMessage handle message).1 = some (.ok id))
      ∨ ∃ c, LoopState.Has ⟨n, phase, journal⟩ id c ∧ c.Step c' := by
  obtain ⟨⟨hconn, hs⟩, hhistory⟩ := hhas
  obtain ⟨hist, conn, s⟩ := c'
  dsimp only at hconn hs hhistory
  -- the message is about something else
  have hidle : ∀ {e : Event T}, e.Silent id → history id (e :: journal) = hist →
      n.Holds id conn s →
      ∃ c, LoopState.Has ⟨n, phase, journal⟩ id c ∧ c.Step ⟨hist, conn, s⟩ := by
    intro e hsilent he hheld
    rw [history_cons_of_silent hsilent] at he
    exact ⟨_, ⟨hheld, he⟩, .idle _⟩
  cases message with
  | tunnelPacket packet => exact .inr (hidle ⟨rfl, rfl, rfl⟩ hhistory ⟨hconn, hs⟩)
  | openTcp target =>
    rw [Netstack.handleControlMessage] at hconn hs hhistory
    rcases n.openConnection_cases handle target with ⟨socket, hconnect, hopen⟩ | ⟨err, hopen⟩
    · rw [hopen] at hconn hs hhistory
      dsimp only at hconn hs hhistory
      -- the new connection, or one whose entry and socket are not the new ones
      by_cases hid : id = n.nextConnId
      · subst hid
        rw [Function.update_self] at hconn
        obtain rfl := Option.some.inj hconn
        rw [Function.update_self] at hs
        obtain rfl := Socket.tcp.inj (Option.some.inj hs)
        refine .inl ⟨target, ?_, rfl, ?_⟩
        · rw [← hhistory, history, if_pos (by simp [Event.opens])]
          exact .mk handle hconnect
        · rw [Netstack.handleControlMessage, hopen]
      · rw [Function.update_of_ne hid] at hconn
        have hsilent : (Event.handled (.openTcp target) (some (.ok n.nextConnId)) :
            Event T).Silent id := ⟨by simp [Event.opens, Ne.symm hid], rfl, rfl⟩
        exact .inr (hidle hsilent hhistory (.update_free howned hfree hconn hs))
    · rw [hopen] at hconn hs hhistory
      exact .inr (hidle ⟨rfl, rfl, rfl⟩ hhistory (.update_free howned hfree hconn hs))
  | openUdp =>
    rw [Netstack.handleControlMessage] at hconn hs hhistory
    refine .inr (hidle ⟨rfl, rfl, rfl⟩ hhistory ?_)
    rcases n.openUdpAssociationInner_cases handle with ⟨socket, -, hopen⟩ | ⟨err, hopen⟩
    · rw [hopen] at hconn hs
      exact .update_free howned hfree hconn hs
    · rw [hopen] at hconn hs
      exact ⟨hconn, hs⟩
  | send id' data =>
    obtain ⟨conn₀, hconn₀, ⟨rfl, hne⟩ | ⟨rfl, rfl⟩⟩ := exists_of_modify (t := n.tcpTable) hconn
    · have hsilent : (Event.handled (.send id' data) none : Event T).Silent id :=
        ⟨rfl, by simp [Event.sent, Ne.symm hne], rfl⟩
      exact .inr (hidle hsilent hhistory ⟨hconn₀, hs⟩)
    · refine .inr ⟨⟨history id journal, conn₀, s⟩, ⟨⟨hconn₀, hs⟩, rfl⟩, ?_⟩
      have hsent := Conn.Step.sent ⟨history id journal, conn₀, s⟩ data
      rw [← hhistory]
      simpa [history, Event.opens, Event.sent, Event.asksClose] using hsent
  | sendUdp id' target data => exact .inr (hidle ⟨rfl, rfl, rfl⟩ hhistory ⟨hconn, hs⟩)
  | close id' =>
    obtain ⟨conn₀, hconn₀, ⟨rfl, hne⟩ | ⟨rfl, rfl⟩⟩ := exists_of_modify (t := n.tcpTable) hconn
    · have hsilent : (Event.handled (.close id') none : Event T).Silent id :=
        ⟨rfl, rfl, by simp [Event.asksClose, Ne.symm hne]⟩
      exact .inr (hidle hsilent hhistory ⟨hconn₀, hs⟩)
    · refine .inr ⟨⟨history id journal, conn₀, s⟩, ⟨⟨hconn₀, hs⟩, rfl⟩, ?_⟩
      have hclose := Conn.Step.closeAsked ⟨history id journal, conn₀, s⟩
      rw [← hhistory]
      simpa [history, Event.opens, Event.sent, Event.asksClose] using hclose
  | closeUdp id' => exact .inr (hidle ⟨rfl, rfl, rfl⟩ hhistory ⟨hconn, hs⟩)

variable (phase) in
/-- What a pass over the connections leaves is what the visits left. -/
theorem LoopState.Has.of_drive {n' : Netstack T U} {order : List UInt64} (howned : n.Owned)
    (horder : Enumerates order n.connections) (hdrive : n.driveConnections order = some n')
    (hhas : LoopState.Has ⟨n', phase', (n.passEvents order).reverse ++ journal⟩ id c') :
    ∃ c, LoopState.Has ⟨n, phase, journal⟩ id c
      ∧ (T.driveConnection c.socket c.state).dead = false ∧ c' = c.driven := by
  obtain ⟨connections, sockets, hspec, hswept⟩ := n.driveConnections_spec howned horder
  obtain rfl := Option.some.inj (hspec.symm.trans hdrive)
  obtain ⟨⟨hconn, hs⟩, hhistory⟩ := hhas
  obtain ⟨conn, s₀, hheld, hdead, hentry, hafter⟩ := hswept.exists_visit howned.tcp hconn
  rw [history_append_of_silent fun e he ↦ n.silent_of_mem_passEvents he id] at hhistory
  obtain ⟨hist, conn', socket'⟩ := c'
  obtain rfl : conn' = (T.driveConnection s₀ conn).entry := hentry
  have hsocket := (Netstack.get?_tcp.mp hafter.2).symm.trans hs
  obtain rfl := Socket.tcp.inj (Option.some.inj hsocket)
  exact ⟨⟨hist, conn, s₀⟩, ⟨Netstack.holds_iff.mp hheld, hhistory⟩, hdead, rfl⟩

/-- A connection that stays in the table is there after the pass. -/
theorem LoopState.Has.drive {n' : Netstack T U} {order : List UInt64} {c : Conn T}
    (howned : n.Owned) (horder : Enumerates order n.connections)
    (hdrive : n.driveConnections order = some n') (hhas : LoopState.Has ⟨n, phase, journal⟩ id c)
    (hdead : (T.driveConnection c.socket c.state).dead = false) :
    LoopState.Has ⟨n', phase', (n.passEvents order).reverse ++ journal⟩ id c.driven := by
  obtain ⟨connections, sockets, hspec, hswept⟩ := n.driveConnections_spec howned horder
  obtain rfl := Option.some.inj (hspec.symm.trans hdrive)
  obtain ⟨hconn, hs⟩ := hswept.kept (Netstack.holds_iff.mpr hhas.holds) hdead
  refine ⟨⟨hconn, Netstack.get?_tcp.mp hs⟩, ?_⟩
  rw [history_append_of_silent fun e he ↦ n.silent_of_mem_passEvents he id]
  exact hhas.history

/-- **Whatever the loop does is, for each connection, one of its own steps.** -/
theorem Step.conn_cases {s s' : LoopState T U} (h : Step s s') (howned : s.net.Owned)
    (hhas : s'.Has id c') :
    (∃ target, s.Opens target c'
        ∧ s'.journal = .handled (.openTcp target) (some (.ok id)) :: s.journal)
      ∨ ∃ c, s.Has id c ∧ c.Step c' := by
  cases h with
  | receive message handle _ hfree =>
    refine (conn_cases_of_receive howned hfree hhas).imp_left ?_
    rintro ⟨target, hopens, rfl, hreply⟩
    refine ⟨target, hopens, ?_⟩
    dsimp only at hreply ⊢
    rw [hreply]
  | endBatch | disconnect => exact .inr ⟨c', ⟨hhas.holds, hhas.history⟩, .idle c'⟩
  | poll taken iface hsockets =>
    obtain ⟨⟨hconn, hs⟩, hhistory⟩ := hhas
    obtain ⟨s₀, hheld⟩ := howned.holds hconn
    -- only the socket is another one
    have hpolled := hsockets c'.state.handle
    rw [hheld.2] at hpolled
    dsimp only at hs
    rw [hs] at hpolled
    obtain _ | ⟨hpolled⟩ | _ := hpolled
    exact .inr ⟨{ c' with socket := s₀ }, ⟨hheld, hhistory⟩, .polled _ hpolled⟩
  | drive horder hdrive =>
    obtain ⟨c, hc, hdead, rfl⟩ := hhas.of_drive .driving howned horder hdrive
    exact .inr ⟨c, hc, .driven c hdead⟩
  | driveUdp horder hdrive =>
    obtain ⟨udpAssociations, sockets, hspec, hswept⟩ :=
      Netstack.driveUdpAssociations_spec howned horder
    obtain rfl := Option.some.inj (hspec.symm.trans hdrive)
    obtain ⟨hconn, hs⟩ := hhas.holds
    refine .inr (exists_idle hhas ⟨hconn, ?_⟩ rfl)
    exact (Netstack.sockets_of_sweptUdp howned hswept hconn).symm.trans hs
  | @dropReceiver n phase journal id' conn hconn' halive left =>
    obtain ⟨⟨hconn, hs⟩, hhistory⟩ := hhas
    obtain ⟨hist, conn', socket⟩ := c'
    obtain ⟨conn₀, hconn₀, ⟨rfl, -⟩ | ⟨rfl, rfl⟩⟩ := exists_of_modify (t := n.tcpTable) hconn
    · exact .inr ⟨_, ⟨⟨hconn₀, hs⟩, hhistory⟩, .idle _⟩
    · obtain rfl := Option.some.inj (hconn₀.symm.trans hconn')
      exact .inr ⟨⟨hist, conn₀, socket⟩, ⟨⟨hconn₀, hs⟩, hhistory⟩, .receiverDropped _ halive left⟩
  | dropUdpReceiver => exact .inr ⟨c', ⟨hhas.holds, hhas.history⟩, .idle c'⟩

end Simulation

/-! ## Passes -/

/-- The step from one state to the other is a pass over the connections. -/
def IsPass (s s' : LoopState T U) : Prop := s.phase = .driving ∧ s'.phase = .drivingUdp

section Pass

variable {s s' : LoopState T U}

theorem Step.of_isPass (h : Step s s') (hpass : IsPass s s') :
    ∃ order, Enumerates order s.net.connections
      ∧ s.net.driveConnections order = some s'.net
      ∧ s'.journal = (s.net.passEvents order).reverse ++ s.journal := by
  obtain ⟨hdriving, hdrivingUdp⟩ := hpass
  cases h with
  | drive horder hdrive => exact ⟨_, horder, hdrive, rfl⟩
  | receive message handle hphase =>
    obtain rfl : _ = Phase.driving := hdriving
    cases hphase
  | endBatch | disconnect | poll | driveUdp => cases hdrivingUdp
  | dropReceiver | dropUdpReceiver =>
    obtain rfl : _ = Phase.driving := hdriving
    cases hdrivingUdp

/-- What the step writes into the journal. -/
theorem Step.journal_cases (h : Step s s') :
    s'.journal = s.journal ∨ (∃ message reply, s'.journal = .handled message reply :: s.journal)
      ∨ IsPass s s' := by
  cases h with
  | receive => exact .inr (.inl ⟨_, _, rfl⟩)
  | drive => exact .inr (.inr ⟨rfl, rfl⟩)
  | _ => exact .inl rfl

/-- After a pass the table has what the visits left, of those connections that stay. -/
theorem Step.has_iff_of_isPass (h : Step s s') (hpass : IsPass s s') (howned : s.net.Owned)
    {id : UInt64} {c' : Conn T} :
    s'.Has id c' ↔ ∃ c, s.Has id c
      ∧ (T.driveConnection c.socket c.state).dead = false ∧ c' = c.driven := by
  obtain ⟨order, horder, hdrive, hjournal⟩ := h.of_isPass hpass
  obtain ⟨n', phase', journal'⟩ := s'
  obtain rfl : journal' = _ := hjournal
  constructor
  · exact fun hhas ↦ hhas.of_drive s.phase howned horder hdrive
  · rintro ⟨c, hhas, hdead, rfl⟩
    exact hhas.drive howned horder hdrive hdead

/-- A pass writes down what the visits of the connections in the table do. -/
theorem Step.mem_events_iff_of_isPass (h : Step s s') (hpass : IsPass s s') :
    ∃ events, s'.journal = events ++ s.journal ∧ (∀ e ∈ events, ∀ id, e.Silent id)
      ∧ (∀ {id c}, s.Has id c → ∀ e ∈ s.net.visitEvents id, e ∈ events)
      ∧ ∀ e ∈ events, ∃ id c, s.Has id c ∧ e ∈ s.net.visitEvents id := by
  obtain ⟨order, horder, -, hjournal⟩ := h.of_isPass hpass
  refine ⟨_, hjournal, fun e he id ↦ s.net.silent_of_mem_passEvents he id,
    fun {id c} hhas e he ↦ ?_, fun e he ↦ ?_⟩
  · rw [List.mem_reverse]
    exact List.mem_flatMap.mpr ⟨id, (horder.mem_iff id).mpr (by simp [hhas.holds.1]), he⟩
  · obtain ⟨id, conn, socket, hheld, he⟩ :=
      Netstack.exists_of_mem_passEvents (List.mem_reverse.mp he)
    exact ⟨id, ⟨history id s.journal, conn, socket⟩, ⟨hheld, rfl⟩, he⟩

end Pass

/-- **The rule for what passes leave.** A property of what each visit leaves holds, after a pass,
of every connection in the table, if it does not depend on whether the receiver stays. -/
theorem ReachableWhere.pass_induct {ok : LoopState T U → LoopState T U → Prop} {P : Conn T → Prop}
    (hdriven : ∀ s s' id c, ReachableWhere ok s → ok s s' → IsPass s s' → s.Has id c →
      (T.driveConnection c.socket c.state).dead = false → P c.driven)
    (hdropped : ∀ (c : Conn T) left, c.state.uplink.left = none → P c →
      P { c with state := { c.state with uplink := c.state.uplink.drop left } })
    {s : LoopState T U} (hs : ReachableWhere ok s) (hphase : s.phase = .drivingUdp) {id : UInt64}
    {c : Conn T} (hhas : s.Has id c) : P c := by
  obtain ⟨iface, hrun⟩ := hs
  induction hrun generalizing id c with
  | refl => cases hphase
  | @tail s s' hrun h ih =>
    have hs : ReachableWhere ok s := ⟨iface, hrun⟩
    have howned := hs.reachable.owned
    obtain ⟨h, hok⟩ := h
    have hpass : s.phase = .driving → ∃ c₀, s.Has id c₀
        ∧ (T.driveConnection c₀.socket c₀.state).dead = false ∧ c = c₀.driven :=
      fun hdriving ↦ (h.has_iff_of_isPass ⟨hdriving, hphase⟩ howned).mp hhas
    cases h with
    | drive =>
      obtain ⟨c₀, hhas₀, hdead, rfl⟩ := hpass rfl
      exact hdriven _ _ id c₀ hs hok ⟨rfl, hphase⟩ hhas₀ hdead
    -- no other step but those of the receivers ends in this phase
    | receive message handle hafter =>
      obtain rfl : _ = Phase.drivingUdp := hphase
      rw [Phase.afterReceive.eq_def] at hafter
      split at hafter <;> simp at hafter
    | endBatch | disconnect | poll | driveUdp => cases hphase
    | @dropReceiver n phase journal id' conn hconn' halive left =>
      obtain ⟨⟨hconn, hs'⟩, hhistory⟩ := hhas
      obtain ⟨hist, conn', socket⟩ := c
      obtain ⟨conn₀, hconn₀, ⟨rfl, -⟩ | ⟨rfl, rfl⟩⟩ := exists_of_modify (t := n.tcpTable) hconn
      · exact ih hphase ⟨⟨hconn₀, hs'⟩, hhistory⟩
      · obtain rfl := Option.some.inj (hconn₀.symm.trans hconn')
        have hhas₀ : LoopState.Has ⟨n, phase, journal⟩ id ⟨hist, conn₀, socket⟩ :=
          ⟨⟨hconn₀, hs'⟩, hhistory⟩
        exact hdropped _ left halive (ih hphase hhas₀)
    | dropUdpReceiver => exact ih hphase ⟨hhas.holds, hhas.history⟩

/-- **The rule for connections.** A property that holds when a connection is opened and that every
step of the connection keeps holds of each connection in every state of every run. -/
theorem Reachable.conn_induct {P : Conn T → Prop}
    (hopens : ∀ (s : LoopState T U) target c, Reachable s → s.Opens target c → P c)
    (hstep : ∀ c c' : Conn T, c.Step c' → P c → P c') {s : LoopState T U} (hs : Reachable s)
    {id : UInt64} {c : Conn T} (hhas : s.Has id c) : P c := by
  revert id c
  refine Reachable.induct (motive := fun s ↦ ∀ {id c}, s.Has id c → P c) (fun iface id c hhas ↦ ?_)
    (fun s s' hs h ih id c' hhas ↦ ?_) hs
  · exact nomatch hhas.holds.1
  · rcases h.conn_cases hs.owned hhas with ⟨target, hopen, -⟩ | ⟨c, hhas, hc⟩
    · exact hopens s target c' hs hopen
    · exact hstep c c' hc (ih hhas)

/-! ## Runs of plain sockets -/

section Run

variable {n : Netstack T U} {phase phase' : Phase} {journal : List (Event T)}

theorem Reachable.receive (hs : Reachable ⟨n, phase, journal⟩) (message : ControlMessage)
    (handle : SocketHandle) (hphase : phase.afterReceive = some phase')
    (hfree : n.sockets handle = none) :
    Reachable ⟨(n.handleControlMessage handle message).2, phase',
      .handled message (n.handleControlMessage handle message).1 :: journal⟩ :=
  hs.tail (.receive message handle hphase hfree)

/-- A poll of the only socket. -/
theorem Step.pollOne (handle : SocketHandle) {s : T.Socket} (s' : T.Socket)
    (hsocket : n.sockets handle = some (.tcp s)) (honly : ∀ h ≠ handle, n.sockets h = none)
    (hpolled : T.Polled s s') :
    Step ⟨n, .polling, journal⟩
      ⟨{ n with
        rxQueue := n.rxQueue.drop 0
        iface := n.iface
        sockets := Function.update n.sockets handle (some (.tcp s')) }, .driving, journal⟩ := by
  refine .poll 0 n.iface fun h ↦ ?_
  by_cases hh : h = handle
  · subst hh
    rw [hsocket, Function.update_self]
    exact .tcp hpolled
  · rw [Function.update_of_ne hh, honly h hh]
    exact .free

theorem Step.exists_drive (howned : n.Owned) (journal : List (Event T)) {order : List UInt64}
    (horder : Enumerates order n.connections) :
    ∃ n' : Netstack T U,
      Step ⟨n, .driving, journal⟩ ⟨n', .drivingUdp, (n.passEvents order).reverse ++ journal⟩
      ∧ ∀ id c, LoopState.Has ⟨n, .driving, journal⟩ id c →
        (T.driveConnection c.socket c.state).dead = false →
        LoopState.Has ⟨n', .drivingUdp, (n.passEvents order).reverse ++ journal⟩ id c.driven := by
  obtain ⟨connections, sockets, hdrive, -⟩ := n.driveConnections_spec howned horder
  exact ⟨_, .drive horder hdrive, fun id c hhas hdead ↦ hhas.drive howned horder hdrive hdead⟩

end Run

theorem enumerates_single {κ ε : Type} [DecidableEq κ] (k : κ) (e : ε) :
    Enumerates [k] (Function.update (fun _ ↦ none) k (some e)) := by
  refine ⟨List.nodup_singleton k, fun k' ↦ ?_⟩
  by_cases hk : k' = k <;> simp [hk]

theorem eq_of_update_single {κ ε : Type} [DecidableEq κ] {k k' : κ} {e e' : ε}
    (h : Function.update (fun _ ↦ none) k (some e) k' = some e') : e = e' := by
  rw [Function.update_apply] at h
  split_ifs at h
  exact Option.some.inj h

/-- A connection has been opened, and nothing else has happened. -/
def justOpened : LoopState .plain .plain where
  net :=
    { rxQueue := []
      iface := ()
      sockets := Function.update (fun _ ↦ none) 0
        (some (.tcp ⟨.synSent, 65536, Traffic.empty.connect 40000 ⟨⟨10, 166, 35, 11⟩, 443⟩⟩))
      connections := Function.update (fun _ ↦ none) 1 (some ⟨0, .fresh, [], false⟩)
      udpAssociations := fun _ ↦ none
      nextConnId := 2
      nextLocalPort := 40001 }
  phase := .batch 63
  journal := [.handled (.openTcp ⟨⟨10, 166, 35, 11⟩, 443⟩) (some (.ok 1))]

theorem reachable_justOpened : Reachable justOpened := by
  have hinit : Reachable (.initial () : LoopState .plain .plain) := ⟨(), .refl⟩
  exact hinit.receive (.openTcp ⟨⟨10, 166, 35, 11⟩, 443⟩) 0 rfl rfl

theorem sockets_justOpened_of_ne {h : SocketHandle} (hh : h ≠ 0) :
    justOpened.net.sockets h = none := by
  simp [justOpened, hh]

end ShiepPipeline
