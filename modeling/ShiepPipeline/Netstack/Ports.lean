import ShiepPipeline.Netstack.Accounts
import ShiepPipeline.Netstack.Upload

/-!
# Local ports

`alloc_local_port` goes round in a cycle of 20001 ports and does not look at the flows that are
open. So a flow that stays open for a whole cycle meets another one on its port.
`portsDistinct_of_portsFree`: no two flows share an endpoint pair as long as no flow is opened a
multiple of 20001 opens after one of its kind that is still there (and, for connections, goes to the
same target), and the first open that breaks this rule does make two flows share one.
-/

open Net Sweeper

namespace ShiepPipeline

variable {T : TcpSockets} {U : UdpSockets}

/-! ## Which port a flow has -/

/-- Connections differ in their ports or in their targets, and associations in their ports. -/
structure Netstack.PortsDistinct (n : Netstack T U) : Prop where
  tcp : ∀ id id' conn conn' s s', n.Holds id conn s → n.Holds id' conn' s' →
    (T.traffic s).connectedTo = (T.traffic s').connectedTo → id = id'
  udp : ∀ id id' assoc assoc' s s', n.HoldsUdp id assoc s → n.HoldsUdp id' assoc' s' →
    U.boundTo s = U.boundTo s' → id = id'

structure Netstack.PortsInRange (n : Netstack T U) : Prop where
  tcp : ∀ id conn s, n.Holds id conn s → ∃ port target,
    (T.traffic s).connectedTo = some (port, target) ∧ 40000 ≤ port.toNat ∧ port.toNat ≤ 60000
  udp : ∀ id assoc s, n.HoldsUdp id assoc s → ∃ port,
    U.boundTo s = some port ∧ 40000 ≤ port.toNat ∧ port.toNat ≤ 60000

/-- An association was registered under this id. -/
def Event.opensUdp (id : UInt64) : Event T → Bool
  | .handled .openUdp (some (.ok id')) => id' = id
  | _ => false

/-- How many flows had been asked for when the association that has an id was opened. -/
def openedUdpAt (id : UInt64) : List (Event T) → ℕ
  | [] => 0
  | e :: older => if e.opensUdp id then openCount older else openedUdpAt id older

/-- The target of a connection. -/
def Conn.target (c : Conn T) : Option SocketAddrV4 := (T.traffic c.socket).connectedTo.map Prod.snd

/-- If a flow is registered in this step, no other flow of its kind, to its target, was opened a
multiple of 20001 opens before. -/
def PortsFree (s s' : LoopState T U) : Prop :=
  (∀ target id, s'.journal = .handled (.openTcp target) (some (.ok id)) :: s.journal →
      ∀ id' ≠ id, ∀ c, s.Has id' c → c.target = some target →
        c.history.openedAt % 20001 ≠ openCount s.journal % 20001)
    ∧ ∀ id, s'.journal = .handled .openUdp (some (.ok id)) :: s.journal →
      ∀ id' ≠ id, s.net.udpAssociations id' ≠ none →
        openedUdpAt id' s.journal % 20001 ≠ openCount s.journal % 20001

theorem localPort_eq_iff {count count' : ℕ} :
    localPort count = localPort count' ↔ count % 20001 = count' % 20001 := by
  rw [← UInt16.toNat_inj, toNat_localPort, toNat_localPort]
  omega

theorem Netstack.nextLocalPort_handleControlMessage (n : Netstack T U) (handle : SocketHandle)
    (message : ControlMessage) (journal : List (Event T))
    (hport : n.nextLocalPort = localPort (openCount journal)) :
    (n.handleControlMessage handle message).2.nextLocalPort
      = localPort (openCount
        (.handled message (n.handleControlMessage handle message).1 :: journal)) := by
  rw [openCount_cons]
  cases message with
  | openTcp target =>
    rw [handleControlMessage]
    rcases n.openConnection_cases handle target with ⟨socket, -, hopen⟩ | ⟨err, hopen⟩
    · rw [hopen, hport, allocLocalPort_localPort]
      rfl
    · rw [hopen, hport, allocLocalPort_localPort]
      rfl
  | openUdp =>
    rw [handleControlMessage]
    rcases n.openUdpAssociationInner_cases handle with ⟨socket, -, hopen⟩ | ⟨err, hopen⟩
    · rw [hopen, hport, allocLocalPort_localPort]
      rfl
    · rw [hopen, hport, allocLocalPort_localPort]
      rfl
  | _ => exact hport

/-- The counter is as far round its cycle as there have been opens. -/
theorem Reachable.nextLocalPort_eq {s : LoopState T U} (hs : Reachable s) :
    s.net.nextLocalPort = localPort (openCount s.journal) := by
  refine Reachable.induct (motive := fun s ↦ s.net.nextLocalPort = localPort (openCount s.journal))
    (fun iface ↦ rfl) (fun s s' hs h ih ↦ ?_) hs
  cases h with
  | receive message handle => exact Netstack.nextLocalPort_handleControlMessage _ _ _ _ ih
  | drive horder hdrive =>
    obtain ⟨connections, sockets, hspec, -⟩ := Netstack.driveConnections_spec hs.owned horder
    obtain rfl := Option.some.inj (hspec.symm.trans hdrive)
    dsimp only
    rw [openCount, countP_append_passEvents fun _ _ _ ↦ ⟨rfl, rfl⟩]
    exact ih
  | driveUdp horder hdrive =>
    obtain ⟨udpAssociations, sockets, hspec, -⟩ :=
      Netstack.driveUdpAssociations_spec hs.owned horder
    obtain rfl := Option.some.inj (hspec.symm.trans hdrive)
    exact ih
  | _ => exact ih

/-! ## The ports of connections -/

theorem Conn.Step.connectedTo {c c' : Conn T} (h : c.Step c') :
    (T.traffic c'.socket).connectedTo = (T.traffic c.socket).connectedTo
      ∧ c'.history.openedAt = c.history.openedAt := by
  cases h with
  | polled hpolled =>
    obtain ⟨bytes, htraffic⟩ := T.traffic_of_polled hpolled
    exact ⟨by rw [htraffic]; rfl, rfl⟩
  | driven => exact ⟨TcpSockets.connectedTo_driveConnection _ _, rfl⟩
  | _ => exact ⟨rfl, rfl⟩

theorem Reachable.connectedTo_of_opens {s : LoopState T U} (hs : Reachable s)
    {target : SocketAddrV4} {c : Conn T} (hopens : s.Opens target c) :
    (T.traffic c.socket).connectedTo = some (localPort (openCount s.journal), target)
      ∧ c.history.openedAt = openCount s.journal := by
  have htraffic := Conn.traffic_of_opens hopens
  refine ⟨by rw [htraffic, hs.nextLocalPort_eq]; rfl, ?_⟩
  cases hopens
  rfl

/-- The port of a connection says when it was opened. -/
theorem Reachable.exists_connectedTo {s : LoopState T U} (hs : Reachable s) {id : UInt64}
    {c : Conn T} (hhas : s.Has id c) :
    ∃ target, (T.traffic c.socket).connectedTo
      = some (localPort c.history.openedAt, target) := by
  refine hs.conn_induct (P := fun c ↦ ∃ target, (T.traffic c.socket).connectedTo
    = some (localPort c.history.openedAt, target)) (fun s target c hs hopens ↦ ?_)
    (fun c c' hstep h ↦ ?_) hhas
  · obtain ⟨hconnected, hat⟩ := hs.connectedTo_of_opens hopens
    exact ⟨target, by rw [hconnected, hat]⟩
  · obtain ⟨hconnected, hat⟩ := hstep.connectedTo
    rwa [hconnected, hat]

/-! ## The ports of associations -/

theorem openedUdpAt_cons_of_ne {id : UInt64} {e : Event T} (h : e.opensUdp id = false)
    (older : List (Event T)) : openedUdpAt id (e :: older) = openedUdpAt id older := by
  rw [openedUdpAt, h]
  rfl

theorem openedUdpAt_passEvents (id : UInt64) (n : Netstack T U) (order : List UInt64)
    (journal : List (Event T)) :
    openedUdpAt id ((n.passEvents order).reverse ++ journal) = openedUdpAt id journal := by
  have hnone : ∀ e ∈ (n.passEvents order).reverse, e.opensUdp id = false := by
    intro e he
    obtain ⟨id', conn, s, hheld, hvisit⟩ :=
      Netstack.exists_of_mem_passEvents (List.mem_reverse.mp he)
    obtain ⟨-, rfl⟩ | ⟨-, rfl⟩ := (Netstack.mem_visitEvents hheld).mp hvisit <;> rfl
  revert hnone
  induction (n.passEvents order).reverse with
  | nil => exact fun _ ↦ rfl
  | cons e events ih =>
    intro hnone
    rw [List.forall_mem_cons] at hnone
    rw [List.cons_append, openedUdpAt_cons_of_ne hnone.1, ih hnone.2]

theorem Netstack.HoldsUdp.update_free {n : Netstack T U} {id : UInt64}
    {assoc : UdpAssociationState} {s : U.Socket} (howned : n.Owned) {handle : SocketHandle}
    (hfree : n.sockets handle = none) {o : Option (Socket T U)}
    (hassoc : n.udpAssociations id = some assoc)
    (hs : Function.update n.sockets handle o assoc.handle = some (.udp s)) :
    n.HoldsUdp id assoc s := by
  obtain ⟨s', hheld⟩ := howned.holdsUdp hassoc
  have hafter := Netstack.sockets_update_free (o := o) hfree hheld.2
  obtain rfl := Socket.udp.inj (Option.some.inj (hafter.symm.trans hs))
  exact hheld

/-- What handling a message does to an association. -/
theorem assoc_cases_of_receive {n : Netstack T U} (howned : n.Owned) {handle : SocketHandle}
    (hfree : n.sockets handle = none) (message : ControlMessage) (journal : List (Event T))
    {id : UInt64} {assoc : UdpAssociationState} {socket : U.Socket}
    (hheld : (n.handleControlMessage handle message).2.HoldsUdp id assoc socket) :
    (message = .openUdp ∧ (n.handleControlMessage handle message).1 = some (.ok id)
        ∧ U.boundTo socket = some n.nextLocalPort)
      ∨ ∃ assoc₀, n.HoldsUdp id assoc₀ socket
        ∧ openedUdpAt id (.handled message (n.handleControlMessage handle message).1 :: journal)
          = openedUdpAt id journal := by
  obtain ⟨hassoc, hsocket⟩ := hheld
  cases message with
  | tunnelPacket | send | close => exact .inr ⟨assoc, ⟨hassoc, hsocket⟩, rfl⟩
  | openTcp target =>
    rw [Netstack.handleControlMessage] at hassoc hsocket
    refine .inr ⟨assoc, ?_, openedUdpAt_cons_of_ne rfl _⟩
    rcases n.openConnection_cases handle target with ⟨socket', -, hopen⟩ | ⟨err, hopen⟩
    · rw [hopen] at hassoc hsocket
      exact .update_free howned hfree hassoc hsocket
    · rw [hopen] at hassoc hsocket
      exact .update_free howned hfree hassoc hsocket
  | openUdp =>
    rw [Netstack.handleControlMessage] at hassoc hsocket ⊢
    rcases n.openUdpAssociationInner_cases handle with ⟨socket', hbind, hopen⟩ | ⟨err, hopen⟩
    · rw [hopen] at hassoc hsocket ⊢
      dsimp only at hassoc hsocket ⊢
      by_cases hid : id = n.nextConnId
      · subst hid
        rw [Function.update_self] at hassoc
        obtain rfl := Option.some.inj hassoc
        rw [Function.update_self] at hsocket
        obtain rfl := Socket.udp.inj (Option.some.inj hsocket)
        -- the new association, and its socket has just been bound
        have hbound := U.boundTo_bind (congrArg Prod.fst hbind)
        rw [hbind] at hbound
        exact .inl ⟨rfl, rfl, hbound⟩
      · rw [Function.update_of_ne hid] at hassoc
        exact .inr ⟨assoc, .update_free howned hfree hassoc hsocket,
          openedUdpAt_cons_of_ne (by simp [Event.opensUdp, Ne.symm hid]) _⟩
    · rw [hopen] at hassoc hsocket ⊢
      exact .inr ⟨assoc, ⟨hassoc, hsocket⟩, rfl⟩
  | sendUdp | closeUdp =>
    obtain ⟨assoc₀, hassoc₀, ⟨rfl, -⟩ | ⟨rfl, -⟩⟩ := exists_of_modify (t := n.udpTable) hassoc
    · exact .inr ⟨assoc, ⟨hassoc₀, hsocket⟩, rfl⟩
    · exact .inr ⟨assoc₀, ⟨hassoc₀, hsocket⟩, rfl⟩

/-- An association that is there after a step has just been opened, or it was there before and has
kept its port. -/
theorem Step.assoc_cases {s s' : LoopState T U} (h : Step s s') (howned : s.net.Owned)
    {id : UInt64} {assoc : UdpAssociationState} {socket : U.Socket}
    (hheld : s'.net.HoldsUdp id assoc socket) :
    (s'.journal = .handled .openUdp (some (.ok id)) :: s.journal
        ∧ U.boundTo socket = some s.net.nextLocalPort)
      ∨ ∃ assoc₀ socket₀, s.net.HoldsUdp id assoc₀ socket₀
        ∧ U.boundTo socket = U.boundTo socket₀
        ∧ openedUdpAt id s'.journal = openedUdpAt id s.journal := by
  cases h with
  | @receive n phase phase' journal message handle hphase hfree =>
    rcases assoc_cases_of_receive howned hfree message journal hheld with
      ⟨rfl, hreply, hbound⟩ | ⟨assoc₀, hheld₀, hat⟩
    · refine .inl ⟨?_, hbound⟩
      dsimp only
      rw [hreply]
    · exact .inr ⟨assoc₀, socket, hheld₀, rfl, hat⟩
  | endBatch | disconnect | dropReceiver => exact .inr ⟨assoc, socket, hheld, rfl, rfl⟩
  | @poll n journal taken iface sockets hsockets =>
    obtain ⟨hassoc, hsocket⟩ := hheld
    -- the stack works on the socket and leaves what it is bound to
    obtain ⟨socket₀, hheld₀⟩ := howned.holdsUdp hassoc
    have hpolled := hsockets assoc.handle
    rw [hheld₀.2] at hpolled
    dsimp only at hsocket
    rw [hsocket] at hpolled
    obtain _ | _ | ⟨hpolled⟩ := hpolled
    exact .inr ⟨assoc, socket₀, hheld₀, U.boundTo_of_polled hpolled, rfl⟩
  | drive horder hdrive =>
    obtain ⟨connections, sockets, hspec, hswept⟩ := Netstack.driveConnections_spec howned horder
    obtain rfl := Option.some.inj (hspec.symm.trans hdrive)
    obtain ⟨hassoc, hsocket⟩ := hheld
    have hsame := Netstack.sockets_of_swept howned hswept hassoc
    exact .inr ⟨assoc, socket, ⟨hassoc, hsame.symm.trans hsocket⟩, rfl,
      openedUdpAt_passEvents id _ _ _⟩
  | driveUdp horder hdrive =>
    obtain ⟨udpAssociations, sockets, hspec, hswept⟩ :=
      Netstack.driveUdpAssociations_spec howned horder
    obtain rfl := Option.some.inj (hspec.symm.trans hdrive)
    obtain ⟨hassoc, hsocket⟩ := hheld
    -- an association that is left has been visited once
    obtain ⟨assoc₀, socket₀, hheld₀, -, hentry, hafter⟩ := hswept.exists_visit howned.udp hassoc
    obtain rfl : assoc = (U.driveUdpAssociation socket₀ assoc₀).entry := hentry
    obtain rfl := Socket.udp.inj (Option.some.inj
      ((Netstack.get?_udp.mp hafter.2).symm.trans hsocket))
    exact .inr ⟨assoc₀, socket₀, Netstack.holdsUdp_iff.mp hheld₀,
      UdpSockets.boundTo_driveUdpAssociation _ _, rfl⟩
  | @dropUdpReceiver n phase journal id' assoc' hassoc' halive left =>
    obtain ⟨hassoc, hsocket⟩ := hheld
    obtain ⟨assoc₀, hassoc₀, ⟨rfl, -⟩ | ⟨rfl, -⟩⟩ := exists_of_modify (t := n.udpTable) hassoc
    · exact .inr ⟨assoc, socket, ⟨hassoc₀, hsocket⟩, rfl, rfl⟩
    · exact .inr ⟨assoc₀, socket, ⟨hassoc₀, hsocket⟩, rfl, rfl⟩

theorem openedUdpAt_handled_openUdp (id : UInt64) (journal : List (Event T)) :
    openedUdpAt id (.handled .openUdp (some (.ok id)) :: journal) = openCount journal := by
  rw [openedUdpAt, if_pos (by simp [Event.opensUdp])]

/-- The port of an association says when it was opened. -/
theorem Reachable.boundTo_eq {s : LoopState T U} (hs : Reachable s) {id : UInt64}
    {assoc : UdpAssociationState} {socket : U.Socket} (hheld : s.net.HoldsUdp id assoc socket) :
    U.boundTo socket = some (localPort (openedUdpAt id s.journal)) := by
  revert id assoc socket
  refine Reachable.induct (motive := fun s ↦ ∀ {id assoc socket}, s.net.HoldsUdp id assoc socket →
    U.boundTo socket = some (localPort (openedUdpAt id s.journal)))
    (fun iface id assoc socket hheld ↦ nomatch hheld.1)
    (fun s s' hs h ih id assoc socket hheld ↦ ?_) hs
  rcases h.assoc_cases hs.owned hheld with
    ⟨hjournal, hbound⟩ | ⟨assoc₀, socket₀, hheld₀, hbound, hat⟩
  · rw [hbound, hjournal, openedUdpAt_handled_openUdp, hs.nextLocalPort_eq]
  · rw [hbound, hat, ih hheld₀]

theorem Reachable.portsInRange {s : LoopState T U} (hs : Reachable s) : s.net.PortsInRange := by
  have hrange : ∀ count,
      40000 ≤ (localPort count).toNat ∧ (localPort count).toNat ≤ 60000 := by
    intro count
    rw [toNat_localPort]
    omega
  constructor
  · intro id conn socket hheld
    have hhas : s.Has id ⟨history id s.journal, conn, socket⟩ := ⟨hheld, rfl⟩
    obtain ⟨target, hconnected⟩ := hs.exists_connectedTo hhas
    exact ⟨_, target, hconnected, hrange _⟩
  · intro id assoc socket hheld
    exact ⟨_, hs.boundTo_eq hheld, hrange _⟩

/-! ## When two flows share a port -/

section Step

variable {s s' : LoopState T U}

theorem Step.of_handled (h : Step s s') {message : ControlMessage}
    {reply : Option (Except EcError UInt64)}
    (hjournal : s'.journal = .handled message reply :: s.journal) :
    ∃ handle, s.net.sockets handle = none
      ∧ s'.net = (s.net.handleControlMessage handle message).2
      ∧ (s.net.handleControlMessage handle message).1 = reply := by
  cases h with
  | receive message' handle hphase hfree =>
    obtain ⟨hevent, -⟩ := List.cons.inj hjournal
    obtain ⟨rfl, hreply⟩ := Event.handled.inj hevent
    exact ⟨handle, hfree, rfl, hreply⟩
  | @drive n n' journal order horder hdrive =>
    have hevent := List.append_cancel_right (hjournal.trans (List.singleton_append ..).symm)
    have hmem : .handled message reply ∈ (n.passEvents order).reverse :=
      hevent ▸ List.mem_singleton_self _
    obtain ⟨id, conn, socket, hheld, hvisit⟩ :=
      Netstack.exists_of_mem_passEvents (List.mem_reverse.mp hmem)
    obtain ⟨-, hclosing⟩ | ⟨-, hremoved⟩ := (Netstack.mem_visitEvents hheld).mp hvisit
    · cases hclosing
    · cases hremoved
  | _ => exact absurd hjournal.symm (List.cons_ne_self _ _)

/-- A connection that is registered gets the next port, and the others stay as they are. -/
theorem Step.holds_of_openTcp (h : Step s s') {target : SocketAddrV4} {id : UInt64}
    (hjournal : s'.journal = .handled (.openTcp target) (some (.ok id)) :: s.journal) :
    (∃ conn socket, s'.net.Holds id conn socket
        ∧ (T.traffic socket).connectedTo = some (s.net.nextLocalPort, target))
      ∧ ∀ id' ≠ id, ∀ {conn socket}, s.net.Holds id' conn socket →
        s'.net.Holds id' conn socket := by
  obtain ⟨handle, hfree, hnet, hreply⟩ := h.of_handled hjournal
  rw [Netstack.handleControlMessage] at hnet hreply
  rcases s.net.openConnection_cases handle target with ⟨socket, hconnect, hopen⟩ | ⟨err, hopen⟩
  · rw [hopen] at hnet hreply
    obtain rfl := Except.ok.inj (Option.some.inj hreply)
    rw [hnet]
    refine ⟨⟨_, socket, ⟨Function.update_self .., Function.update_self ..⟩, ?_⟩,
      fun id' hne conn socket' hheld ↦ ⟨?_, Netstack.sockets_update_free hfree hheld.2⟩⟩
    · have htraffic := T.traffic_connect (congrArg Prod.fst hconnect)
      rw [hconnect] at htraffic
      rw [htraffic]
      rfl
    · exact (Function.update_of_ne hne _ _).trans hheld.1
  · rw [hopen] at hreply
    cases hreply

theorem Step.holdsUdp_of_openUdp (h : Step s s') {id : UInt64}
    (hjournal : s'.journal = .handled .openUdp (some (.ok id)) :: s.journal) :
    (∃ assoc socket, s'.net.HoldsUdp id assoc socket
        ∧ U.boundTo socket = some s.net.nextLocalPort)
      ∧ ∀ id' ≠ id, ∀ {assoc socket}, s.net.HoldsUdp id' assoc socket →
        s'.net.HoldsUdp id' assoc socket := by
  obtain ⟨handle, hfree, hnet, hreply⟩ := h.of_handled hjournal
  rw [Netstack.handleControlMessage] at hnet hreply
  rcases s.net.openUdpAssociationInner_cases handle with ⟨socket, hbind, hopen⟩ | ⟨err, hopen⟩
  · rw [hopen] at hnet hreply
    obtain rfl := Except.ok.inj (Option.some.inj hreply)
    rw [hnet]
    refine ⟨⟨_, socket, ⟨Function.update_self .., Function.update_self ..⟩, ?_⟩,
      fun id' hne assoc socket' hheld ↦ ⟨?_, Netstack.sockets_update_free hfree hheld.2⟩⟩
    · have hbound := U.boundTo_bind (congrArg Prod.fst hbind)
      rwa [hbind] at hbound
    · exact (Function.update_of_ne hne _ _).trans hheld.1
  · rw [hopen] at hreply
    cases hreply

/-- A new connection and an old one share a port and a target exactly if they are a multiple of
20001 opens apart. -/
theorem Reachable.connectedTo_eq_iff (hs : Reachable s) {target : SocketAddrV4} {id : UInt64}
    {c : Conn T} (hhas : s.Has id c) :
    (T.traffic c.socket).connectedTo = some (s.net.nextLocalPort, target)
      ↔ c.target = some target ∧ c.history.openedAt % 20001 = openCount s.journal % 20001 := by
  obtain ⟨target', hconnected⟩ := hs.exists_connectedTo hhas
  rw [hs.nextLocalPort_eq, Conn.target, hconnected, Option.map_some, ← localPort_eq_iff]
  simp [and_comm]

/-- Where the ports are free, a connection that has the new one is the new one. -/
theorem PortsFree.eq_of_connectedTo (hfree : PortsFree s s') (hs : Reachable s)
    {target : SocketAddrV4} {id id' : UInt64}
    (hjournal : s'.journal = .handled (.openTcp target) (some (.ok id)) :: s.journal) {c : Conn T}
    (hhas : s.Has id' c)
    (hconnected : (T.traffic c.socket).connectedTo
      = some (localPort (openCount s.journal), target)) : id' = id := by
  rw [← hs.nextLocalPort_eq, hs.connectedTo_eq_iff hhas] at hconnected
  by_contra hne
  exact hfree.1 target id hjournal id' hne c hhas hconnected.1 hconnected.2

theorem PortsFree.eq_of_boundTo (hfree : PortsFree s s') (hs : Reachable s) {id id' : UInt64}
    (hjournal : s'.journal = .handled .openUdp (some (.ok id)) :: s.journal)
    {assoc : UdpAssociationState} {socket : U.Socket} (hheld : s.net.HoldsUdp id' assoc socket)
    (hbound : U.boundTo socket = some s.net.nextLocalPort) : id' = id := by
  rw [hs.boundTo_eq hheld, hs.nextLocalPort_eq, Option.some_inj, localPort_eq_iff] at hbound
  by_contra hne
  exact hfree.2 id hjournal id' hne (by simp [hheld.1]) hbound

theorem PortsFree.tcp (hfree : PortsFree s s') (hs : Reachable s)
    (hdistinct : s.net.PortsDistinct) (h : Step s s') {id id' : UInt64} {c c' : Conn T}
    (hhas : s'.Has id c) (hhas' : s'.Has id' c')
    (heq : (T.traffic c.socket).connectedTo = (T.traffic c'.socket).connectedTo) : id = id' := by
  rcases h.conn_cases hs.owned hhas with ⟨target, hopens, hjournal⟩ | ⟨c₀, hhas₀, hstep⟩
  · have hconnected := (hs.connectedTo_of_opens hopens).1
    rcases h.conn_cases hs.owned hhas' with ⟨target', hopens', hjournal'⟩ | ⟨c₀', hhas₀', hstep'⟩
    · -- one step registers one connection
      have hevent := (List.cons.inj (hjournal.symm.trans hjournal')).1
      exact Except.ok.inj (Option.some.inj (Event.handled.inj hevent).2)
    · rw [heq, hstep'.connectedTo.1] at hconnected
      exact (hfree.eq_of_connectedTo hs hjournal hhas₀' hconnected).symm
  · rw [hstep.connectedTo.1] at heq
    rcases h.conn_cases hs.owned hhas' with ⟨target', hopens', hjournal'⟩ | ⟨c₀', hhas₀', hstep'⟩
    · rw [(hs.connectedTo_of_opens hopens').1] at heq
      exact hfree.eq_of_connectedTo hs hjournal' hhas₀ heq
    · rw [hstep'.connectedTo.1] at heq
      exact hdistinct.tcp id id' _ _ _ _ hhas₀.holds hhas₀'.holds heq

theorem PortsFree.udp (hfree : PortsFree s s') (hs : Reachable s)
    (hdistinct : s.net.PortsDistinct) (h : Step s s') {id id' : UInt64}
    {assoc assoc' : UdpAssociationState} {socket socket' : U.Socket}
    (hheld : s'.net.HoldsUdp id assoc socket) (hheld' : s'.net.HoldsUdp id' assoc' socket')
    (heq : U.boundTo socket = U.boundTo socket') : id = id' := by
  rcases h.assoc_cases hs.owned hheld with
    ⟨hjournal, hbound⟩ | ⟨assoc₀, socket₀, hheld₀, hbound, -⟩
  · rcases h.assoc_cases hs.owned hheld' with
      ⟨hjournal', -⟩ | ⟨assoc₀', socket₀', hheld₀', hbound', -⟩
    · have hevent := (List.cons.inj (hjournal.symm.trans hjournal')).1
      exact Except.ok.inj (Option.some.inj (Event.handled.inj hevent).2)
    · rw [heq, hbound'] at hbound
      exact (hfree.eq_of_boundTo hs hjournal hheld₀' hbound).symm
  · rw [hbound] at heq
    rcases h.assoc_cases hs.owned hheld' with
      ⟨hjournal', hbound'⟩ | ⟨assoc₀', socket₀', hheld₀', hbound', -⟩
    · exact hfree.eq_of_boundTo hs hjournal' hheld₀ (heq.trans hbound')
    · rw [hbound'] at heq
      exact hdistinct.udp id id' _ _ _ _ hheld₀ hheld₀' heq

/-- **Registering a flow keeps the ports distinct exactly if its port is free.** -/
theorem Step.portsDistinct_iff (hs : Reachable s) (hdistinct : s.net.PortsDistinct)
    (h : Step s s') : s'.net.PortsDistinct ↔ PortsFree s s' := by
  constructor
  · refine fun hafter ↦ ⟨fun target id hjournal id' hne c hhas htarget hat ↦ ?_,
      fun id hjournal id' hne hassoc hat ↦ ?_⟩
    · obtain ⟨⟨conn, socket, hheld, hconnected⟩, hstays⟩ := h.holds_of_openTcp hjournal
      have hsame := (hs.connectedTo_eq_iff hhas).mpr ⟨htarget, hat⟩
      exact hne (hafter.tcp id' id _ _ _ _ (hstays id' hne hhas.holds) hheld
        (hsame.trans hconnected.symm))
    · obtain ⟨⟨assoc, socket, hheld, hbound⟩, hstays⟩ := h.holdsUdp_of_openUdp hjournal
      obtain ⟨assoc', hassoc'⟩ := Option.ne_none_iff_exists'.mp hassoc
      obtain ⟨socket', hheld'⟩ := hs.owned.holdsUdp hassoc'
      have hsame : U.boundTo socket' = U.boundTo socket := by
        rw [hs.boundTo_eq hheld', hbound, hs.nextLocalPort_eq, localPort_eq_iff.mpr hat]
      exact hne (hafter.udp id' id _ _ _ _ (hstays id' hne hheld') hheld hsame)
  · refine fun hfree ↦ ⟨fun id id' conn conn' socket socket' hheld hheld' heq ↦ ?_,
      fun id id' assoc assoc' socket socket' ↦ hfree.udp hs hdistinct h⟩
    have hhas : s'.Has id ⟨history id s'.journal, conn, socket⟩ := ⟨hheld, rfl⟩
    have hhas' : s'.Has id' ⟨history id' s'.journal, conn', socket'⟩ := ⟨hheld', rfl⟩
    exact hfree.tcp hs hdistinct h hhas hhas' heq

end Step

/-- **When flows keep to themselves.** All local ports are in the range in every run. In a run in
which every flow that is registered finds its port free, no two flows share an endpoint pair, and a
step that keeps this up is one whose flow finds its port free. -/
theorem portsDistinct_of_portsFree :
    (∀ s : LoopState T U, Reachable s → s.net.PortsInRange)
      ∧ (∀ s : LoopState T U, ReachableWhere PortsFree s → s.net.PortsDistinct)
      ∧ ∀ s s' : LoopState T U, Reachable s → s.net.PortsDistinct → Step s s' →
        (s'.net.PortsDistinct ↔ PortsFree s s') := by
  refine ⟨fun s hs ↦ hs.portsInRange, fun s hs ↦ ?_,
    fun s s' hs hdistinct h ↦ h.portsDistinct_iff hs hdistinct⟩
  obtain ⟨iface, hrun⟩ := hs
  induction hrun with
  | refl =>
    exact ⟨fun _ _ _ _ _ _ hheld ↦ (nomatch hheld.1), fun _ _ _ _ _ _ hheld ↦ (nomatch hheld.1)⟩
  | tail hrun h ih =>
    have hs := ReachableWhere.reachable ⟨iface, hrun⟩
    exact (h.1.portsDistinct_iff hs ih).mpr h.2

/-! ## A whole cycle -/

namespace Netstack

theorem driveUdpAssociations_of_idle {n : Netstack T U} {id : UInt64} {assoc : UdpAssociationState}
    {s : U.Socket} (hheld : n.HoldsUdp id assoc s)
    (hidle : U.driveUdpAssociation s assoc = ⟨s, assoc, false⟩) :
    n.driveUdpAssociations [id] = some n := by
  have hvisit : (udpSweeper : Sweeper _ (Socket T U) _ _).visit s assoc = ⟨s, assoc, false⟩ := hidle
  have hentries : Function.update n.udpAssociations id (some assoc) = n.udpAssociations := by
    rw [← hheld.1, Function.update_eq_self]
  have hobjects : Function.update n.sockets assoc.handle (some (.udp s)) = n.sockets := by
    rw [← hheld.2, Function.update_eq_self]
  rw [driveUdpAssociations, sweep_singleton (holdsUdp_iff.mpr hheld), hvisit, Option.map_some]
  exact congrArg₂ (fun udpAssociations sockets ↦ some { n with udpAssociations, sockets }) hentries
    hobjects

/-- The first association is open, and after that other opens have failed. -/
def resident (opens : ℕ) : Netstack .plain .plain :=
  { associated 1 (localPort 0) false with nextLocalPort := localPort opens }

/-- A target that smoltcp does not connect to. -/
def unaddressable : SocketAddrV4 := ⟨⟨10, 166, 35, 11⟩, 0⟩

theorem exists_openConnection_resident (opens : ℕ) :
    ∃ err, (resident opens).openConnection 1 unaddressable
      = (.error err, resident (opens + 1)) := by
  rcases (resident opens).openConnection_cases 1 unaddressable with
    ⟨socket, hconnect, -⟩ | ⟨err, hopen⟩
  · exact nomatch congrArg Prod.fst hconnect
  · refine ⟨err, hopen.trans ?_⟩
    have hsockets : Function.update (resident opens).sockets 1 none = (resident opens).sockets :=
      Function.update_eq_self 1 (resident opens).sockets
    rw [hsockets]
    have hport : (allocLocalPort (resident opens).nextLocalPort).2 = localPort (opens + 1) :=
      congrArg Prod.snd (allocLocalPort_localPort opens)
    rw [hport]
    rfl

end Netstack

theorem exists_reachable_resident (opens : ℕ) :
    ∃ journal : List (Event .plain),
      Reachable ⟨Netstack.resident (opens + 1), .waiting, journal⟩ := by
  -- nothing happens to the association in a lap
  have hlap : ∀ {count left} {journal : List (Event .plain)},
      Reachable ⟨Netstack.resident count, .batch left, journal⟩ →
      Reachable ⟨Netstack.resident count, .waiting, journal⟩ := by
    intro count left journal hs
    have hheld : (Netstack.resident count).HoldsUdp 1 _ _ := ⟨rfl, rfl⟩
    exact hs.lap (.inr ⟨left, rfl⟩) rfl (enumerates_single 1 _)
      (Netstack.driveUdpAssociations_of_idle hheld (driveUdpAssociation_plain _ 0 false))
  induction opens with
  | zero =>
    have hinit : Reachable ⟨Netstack.idle 1 (localPort 0), .waiting, []⟩ := ⟨(), .refl⟩
    have hopened := hinit.openUdp (localPort_ne_zero 0)
    rw [Netstack.associated, allocLocalPort_localPort] at hopened
    exact ⟨_, hlap hopened⟩
  | succ opens ih =>
    obtain ⟨journal, hs⟩ := ih
    obtain ⟨err, hopen⟩ := Netstack.exists_openConnection_resident (opens + 1)
    have hfailed := hs.receive (.openTcp Netstack.unaddressable) 1 rfl rfl
    rw [Netstack.handleControlMessage, hopen] at hfailed
    exact ⟨_, hlap hfailed⟩

/-- After 20001 opens the port of the first one is handed out again. -/
theorem association_shares_port :
    ∃ s : LoopState .plain .plain, Reachable s ∧ ¬ s.net.PortsDistinct := by
  obtain ⟨journal, hs⟩ := exists_reachable_resident 20000
  have hopened := hs.receive .openUdp 1 rfl rfl
  have hopen : (Netstack.resident 20001).openUdpAssociationInner 1 = _ :=
    Netstack.openUdpAssociationInner_of_bind (bind_plain (localPort_ne_zero 20001))
  rw [Netstack.handleControlMessage, hopen] at hopened
  refine ⟨_, hopened, fun hdistinct ↦ ?_⟩
  have hone := hdistinct.udp 1 2 ⟨0, .fresh, [], false⟩ ⟨1, .fresh, [], false⟩
    (⟨true, some (localPort 0)⟩ : PlainUdp) (⟨true, some (localPort 20001)⟩ : PlainUdp)
    ⟨rfl, rfl⟩ ⟨rfl, rfl⟩ rfl
  exact absurd hone (by decide)

/-- The first connection finds its port free. -/
theorem portsDistinct_of_portsFree_one :
    ∃ s : LoopState .plain .plain, ReachableWhere PortsFree s ∧ s.net.connections 1 ≠ none
      ∧ s.net.PortsDistinct := by
  have hinit : ReachableWhere PortsFree (.initial () : LoopState .plain .plain) := ⟨(), .refl⟩
  have hopened : ReachableWhere PortsFree justOpened :=
    hinit.tail (.receive (.openTcp ⟨⟨10, 166, 35, 11⟩, 443⟩) 0 rfl rfl)
      ⟨fun _ _ _ _ _ _ hhas ↦ (nomatch hhas.holds.1), fun _ _ _ _ hassoc ↦ absurd rfl hassoc⟩
  exact ⟨justOpened, hopened, by simp [justOpened], portsDistinct_of_portsFree.2.1 _ hopened⟩

end ShiepPipeline
