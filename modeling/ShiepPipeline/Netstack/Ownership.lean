import ShiepPipeline.Netstack.Loop

/-!
# Who owns which socket

Each entry of the two tables owns a socket of its kind, and no two entries own the same one.
`Netstack.Owned` holds in every state of every run, so no typed access to a socket panics and the
drives always come to an end.
-/

open Net Sweeper

namespace ShiepPipeline

variable {T : TcpSockets} {U : UdpSockets}

namespace Netstack

/-! ## Entries and their sockets -/

section Holds

variable (n : Netstack T U)

/-- The table has the connection, and its socket is there. -/
def Holds (id : UInt64) (conn : ConnectionState) (s : T.Socket) : Prop :=
  n.connections id = some conn ∧ n.sockets conn.handle = some (.tcp s)

def HoldsUdp (id : UInt64) (assoc : UdpAssociationState) (s : U.Socket) : Prop :=
  n.udpAssociations id = some assoc ∧ n.sockets assoc.handle = some (.udp s)

/-- Every entry has a socket of its own and of its kind. -/
structure Owned : Prop where
  tcp : connectionSweeper.Owned n.tcpTable
  udp : udpSweeper.Owned n.udpTable

end Holds

variable {n n' : Netstack T U}

theorem get?_tcp {sockets : SocketHandle → Option (Socket T U)} {h : SocketHandle}
    {s : T.Socket} : connectionSweeper.get? sockets h = some s ↔ sockets h = some (.tcp s) := by
  rw [get?, Option.bind_eq_some_iff]
  constructor
  · rintro ⟨_ | _, ho, hs⟩
    · obtain rfl := Option.some.inj hs
      exact ho
    · cases hs
  · exact fun ho ↦ ⟨_, ho, rfl⟩

theorem get?_udp {sockets : SocketHandle → Option (Socket T U)} {h : SocketHandle}
    {s : U.Socket} : udpSweeper.get? sockets h = some s ↔ sockets h = some (.udp s) := by
  rw [get?, Option.bind_eq_some_iff]
  constructor
  · rintro ⟨_ | _, ho, hs⟩
    · cases hs
    · obtain rfl := Option.some.inj hs
      exact ho
  · exact fun ho ↦ ⟨_, ho, rfl⟩

theorem holds_iff {id : UInt64} {conn : ConnectionState} {s : T.Socket} :
    connectionSweeper.Holds n.tcpTable id conn s ↔ n.Holds id conn s :=
  and_congr_right fun _ ↦ get?_tcp

theorem holdsUdp_iff {id : UInt64} {assoc : UdpAssociationState} {s : U.Socket} :
    udpSweeper.Holds n.udpTable id assoc s ↔ n.HoldsUdp id assoc s :=
  and_congr_right fun _ ↦ get?_udp

theorem Owned.holds (h : n.Owned) {id : UInt64} {conn : ConnectionState}
    (hconn : n.connections id = some conn) : ∃ s, n.Holds id conn s := by
  obtain ⟨s, hs⟩ := h.tcp.holds hconn
  exact ⟨s, holds_iff.mp hs⟩

theorem Owned.holdsUdp (h : n.Owned) {id : UInt64} {assoc : UdpAssociationState}
    (hassoc : n.udpAssociations id = some assoc) : ∃ s, n.HoldsUdp id assoc s := by
  obtain ⟨s, hs⟩ := h.udp.holds hassoc
  exact ⟨s, holdsUdp_iff.mp hs⟩

/-- Entries of different kinds have different handles. -/
theorem Owned.handle_ne (h : n.Owned) {id id' : UInt64} {conn : ConnectionState}
    {assoc : UdpAssociationState} (hconn : n.connections id = some conn)
    (hassoc : n.udpAssociations id' = some assoc) : conn.handle ≠ assoc.handle := by
  intro heq
  obtain ⟨s, -, hs⟩ := h.holds hconn
  obtain ⟨s', -, hs'⟩ := h.holdsUdp hassoc
  rw [heq, hs'] at hs
  cases hs

theorem owned_initial (iface : T.Context) : (initial iface : Netstack T U).Owned :=
  ⟨⟨nofun, nofun⟩, ⟨nofun, nofun⟩⟩

/-! ## What keeps the sockets owned -/

/-- Sockets may be added as long as those of the entries stay. -/
theorem Owned.congr_sockets (howned : n.Owned) {sockets : SocketHandle → Option (Socket T U)}
    (hsockets : ∀ h o, n.sockets h = some o → sockets h = some o) :
    connectionSweeper.Owned ⟨n.connections, sockets⟩
      ∧ udpSweeper.Owned ⟨n.udpAssociations, sockets⟩ :=
  ⟨howned.tcp.congr_objects fun hheld ↦ ⟨_, get?_tcp.mpr (hsockets _ _ (holds_iff.mp hheld).2)⟩,
    howned.udp.congr_objects fun hheld ↦
      ⟨_, get?_udp.mpr (hsockets _ _ (holdsUdp_iff.mp hheld).2)⟩⟩

/-- What happens at a free handle touches no socket. -/
theorem sockets_update_free {handle : SocketHandle} (hfree : n.sockets handle = none)
    {o : Option (Socket T U)} {h : SocketHandle} {o' : Socket T U} (ho : n.sockets h = some o') :
    Function.update n.sockets handle o h = some o' := by
  have hne : h ≠ handle := by
    rintro rfl
    rw [hfree] at ho
    cases ho
  rw [Function.update_of_ne hne, ho]

/-- The two ways in which opening a connection ends. -/
theorem openConnection_cases (n : Netstack T U) (handle : SocketHandle) (target : SocketAddrV4) :
    (∃ socket, T.connect (T.new socketBufferCapacity socketBufferCapacity) n.iface target
          n.nextLocalPort = (.ok (), socket)
        ∧ n.openConnection handle target = (.ok n.nextConnId,
          { n with
            sockets := Function.update n.sockets handle (some (.tcp socket))
            connections :=
              Function.update n.connections n.nextConnId (some ⟨handle, .fresh, [], false⟩)
            nextConnId := n.nextConnId + 1
            nextLocalPort := (allocLocalPort n.nextLocalPort).2 }))
      ∨ ∃ err, n.openConnection handle target = (.error err,
          { n with
            sockets := Function.update n.sockets handle none
            nextLocalPort := (allocLocalPort n.nextLocalPort).2 }) := by
  rcases hconnect : T.connect (T.new socketBufferCapacity socketBufferCapacity) n.iface target
      n.nextLocalPort with ⟨err | ⟨⟩, socket⟩
  · exact .inr ⟨.runtime ("tcp connect failed: " ++ err), by
      simp only [openConnection, allocLocalPort, hconnect]⟩
  · exact .inl ⟨socket, rfl, by simp only [openConnection, allocLocalPort, hconnect]⟩

theorem openUdpAssociationInner_of_bind {handle : SocketHandle} {socket : U.Socket}
    (hbind : U.bind (U.new udpPacketCapacity udpBufferCapacity) n.nextLocalPort
      = (.ok (), socket)) :
    n.openUdpAssociationInner handle = (.ok n.nextConnId,
      { n with
        sockets := Function.update n.sockets handle (some (.udp socket))
        udpAssociations :=
          Function.update n.udpAssociations n.nextConnId (some ⟨handle, .fresh, [], false⟩)
        nextConnId := n.nextConnId + 1
        nextLocalPort := (allocLocalPort n.nextLocalPort).2 }) := by
  simp only [openUdpAssociationInner, allocLocalPort, hbind]

theorem openUdpAssociationInner_cases (n : Netstack T U) (handle : SocketHandle) :
    (∃ socket, U.bind (U.new udpPacketCapacity udpBufferCapacity) n.nextLocalPort
          = (.ok (), socket)
        ∧ n.openUdpAssociationInner handle = (.ok n.nextConnId,
          { n with
            sockets := Function.update n.sockets handle (some (.udp socket))
            udpAssociations :=
              Function.update n.udpAssociations n.nextConnId (some ⟨handle, .fresh, [], false⟩)
            nextConnId := n.nextConnId + 1
            nextLocalPort := (allocLocalPort n.nextLocalPort).2 }))
      ∨ ∃ err, n.openUdpAssociationInner handle = (.error err,
          { n with nextLocalPort := (allocLocalPort n.nextLocalPort).2 }) := by
  rcases hbind : U.bind (U.new udpPacketCapacity udpBufferCapacity) n.nextLocalPort
    with ⟨err | ⟨⟩, socket⟩
  · exact .inr ⟨.runtime ("udp bind failed: " ++ err), by
      simp only [openUdpAssociationInner, allocLocalPort, hbind]⟩
  · exact .inl ⟨socket, rfl, openUdpAssociationInner_of_bind hbind⟩

theorem Owned.modifyConnection (howned : n.Owned) (id : UInt64)
    {f : ConnectionState → ConnectionState} (hf : ∀ conn, (f conn).handle = conn.handle) :
    (n.modifyConnection id f).Owned :=
  ⟨howned.tcp.modify hf, howned.udp⟩

theorem Owned.modifyUdpAssociation (howned : n.Owned) (id : UInt64)
    {f : UdpAssociationState → UdpAssociationState}
    (hf : ∀ assoc, (f assoc).handle = assoc.handle) : (n.modifyUdpAssociation id f).Owned :=
  ⟨howned.tcp, howned.udp.modify hf⟩

theorem Owned.handleControlMessage (howned : n.Owned) {handle : SocketHandle}
    (hfree : n.sockets handle = none) (message : ControlMessage) :
    (n.handleControlMessage handle message).2.Owned := by
  have hkeep := fun (o : Option (Socket T U)) ↦ howned.congr_sockets
    fun _ _ ho ↦ sockets_update_free (o := o) hfree ho
  cases message with
  | tunnelPacket packet => exact ⟨howned.tcp, howned.udp⟩
  | openTcp target =>
    rw [Netstack.handleControlMessage]
    rcases n.openConnection_cases handle target with ⟨socket, -, hopen⟩ | ⟨err, hopen⟩
    · rw [hopen]
      exact ⟨howned.tcp.insert hfree, (hkeep _).2⟩
    · rw [hopen]
      exact ⟨(hkeep _).1, (hkeep _).2⟩
  | openUdp =>
    rw [Netstack.handleControlMessage]
    rcases n.openUdpAssociationInner_cases handle with ⟨socket, -, hopen⟩ | ⟨err, hopen⟩
    · rw [hopen]
      exact ⟨(hkeep _).1, howned.udp.insert hfree⟩
    · rw [hopen]
      exact ⟨howned.tcp, howned.udp⟩
  | send id data => exact howned.modifyConnection id fun _ ↦ rfl
  | sendUdp id target data => exact howned.modifyUdpAssociation id fun _ ↦ rfl
  | close id => exact howned.modifyConnection id fun _ ↦ rfl
  | closeUdp id => exact howned.modifyUdpAssociation id fun _ ↦ rfl

/-! ## The drives -/

/-- **The connections are driven without a panic.** -/
theorem driveConnections_spec (howned : n.Owned) {order : List UInt64}
    (horder : Enumerates order n.connections) :
    ∃ connections sockets,
      n.driveConnections order = some { n with connections, sockets }
      ∧ Swept connectionSweeper n.tcpTable ⟨connections, sockets⟩ := by
  obtain ⟨t, hsweep, hswept⟩ := sweep_spec howned.tcp horder.nodup horder.mem_iff
  exact ⟨t.entries, t.objects, by rw [driveConnections, hsweep, Option.map_some], hswept⟩

theorem driveUdpAssociations_spec (howned : n.Owned) {order : List UInt64}
    (horder : Enumerates order n.udpAssociations) :
    ∃ udpAssociations sockets,
      n.driveUdpAssociations order = some { n with udpAssociations, sockets }
      ∧ Swept udpSweeper n.udpTable ⟨udpAssociations, sockets⟩ := by
  obtain ⟨t, hsweep, hswept⟩ := sweep_spec howned.udp horder.nodup horder.mem_iff
  exact ⟨t.entries, t.objects, by rw [driveUdpAssociations, hsweep, Option.map_some], hswept⟩

/-- Driving the connections leaves the sockets of associations alone. -/
theorem sockets_of_swept (howned : n.Owned) {connections : UInt64 → Option ConnectionState}
    {sockets : SocketHandle → Option (Socket T U)}
    (hswept : Swept connectionSweeper n.tcpTable ⟨connections, sockets⟩) {id : UInt64}
    {assoc : UdpAssociationState} (hassoc : n.udpAssociations id = some assoc) :
    sockets assoc.handle = n.sockets assoc.handle :=
  hswept.frame fun hconn ↦ howned.handle_ne hconn hassoc

theorem sockets_of_sweptUdp (howned : n.Owned)
    {udpAssociations : UInt64 → Option UdpAssociationState}
    {sockets : SocketHandle → Option (Socket T U)}
    (hswept : Swept udpSweeper n.udpTable ⟨udpAssociations, sockets⟩) {id : UInt64}
    {conn : ConnectionState} (hconn : n.connections id = some conn) :
    sockets conn.handle = n.sockets conn.handle :=
  hswept.frame fun hassoc ↦ (howned.handle_ne hconn hassoc).symm

theorem Owned.driveConnections (howned : n.Owned) {order : List UInt64}
    (horder : Enumerates order n.connections) (hdrive : n.driveConnections order = some n') :
    n'.Owned := by
  obtain ⟨connections, sockets, hspec, hswept⟩ := driveConnections_spec howned horder
  obtain rfl := Option.some.inj (hspec.symm.trans hdrive)
  refine ⟨hswept.owned howned.tcp, howned.udp.congr_objects fun {id assoc s} hheld ↦ ⟨s, ?_⟩⟩
  rw [holdsUdp_iff] at hheld
  exact get?_udp.mpr ((sockets_of_swept howned hswept hheld.1).trans hheld.2)

theorem Owned.driveUdpAssociations (howned : n.Owned) {order : List UInt64}
    (horder : Enumerates order n.udpAssociations)
    (hdrive : n.driveUdpAssociations order = some n') : n'.Owned := by
  obtain ⟨udpAssociations, sockets, hspec, hswept⟩ := driveUdpAssociations_spec howned horder
  obtain rfl := Option.some.inj (hspec.symm.trans hdrive)
  refine ⟨howned.tcp.congr_objects fun {id conn s} hheld ↦ ⟨s, ?_⟩, hswept.owned howned.udp⟩
  rw [holds_iff] at hheld
  exact get?_tcp.mpr ((sockets_of_sweptUdp howned hswept hheld.1).trans hheld.2)

/-- A poll leaves every socket in its place. -/
theorem Owned.poll (howned : n.Owned) {sockets : SocketHandle → Option (Socket T U)}
    (hsockets : ∀ h, Socket.Polled (n.sockets h) (sockets h)) (rxQueue : List (List UInt8))
    (iface : T.Context) : ({ n with rxQueue, iface, sockets } : Netstack T U).Owned := by
  refine ⟨howned.tcp.congr_objects fun {id conn s} hheld ↦ ?_,
    howned.udp.congr_objects fun {id assoc s} hheld ↦ ?_⟩
  · have hpolled := hsockets conn.handle
    rw [(holds_iff.mp hheld).2] at hpolled
    generalize hafter : sockets conn.handle = o at hpolled
    obtain _ | ⟨_⟩ | _ := hpolled
    exact ⟨_, get?_tcp.mpr hafter⟩
  · have hpolled := hsockets assoc.handle
    rw [(holdsUdp_iff.mp hheld).2] at hpolled
    generalize hafter : sockets assoc.handle = o at hpolled
    obtain _ | _ | ⟨_⟩ := hpolled
    exact ⟨_, get?_udp.mpr hafter⟩

end Netstack

/-- One step keeps the sockets owned. -/
theorem Step.owned {s s' : LoopState T U} (h : Step s s') (howned : s.net.Owned) :
    s'.net.Owned := by
  cases h with
  | receive message handle _ hfree => exact howned.handleControlMessage hfree message
  | endBatch | disconnect => exact howned
  | poll taken iface hsockets => exact howned.poll hsockets _ iface
  | drive horder hdrive => exact howned.driveConnections horder hdrive
  | driveUdp horder hdrive => exact howned.driveUdpAssociations horder hdrive
  | dropReceiver id _ _ left => exact howned.modifyConnection id fun _ ↦ rfl
  | dropUdpReceiver id _ _ left => exact howned.modifyUdpAssociation id fun _ ↦ rfl

/-- **In every state of every run, each entry owns its socket.** -/
theorem Reachable.owned {s : LoopState T U} (h : Reachable s) : s.net.Owned :=
  h.induct (fun iface ↦ Netstack.owned_initial iface) fun _ _ _ hstep howned ↦ hstep.owned howned

end ShiepPipeline
