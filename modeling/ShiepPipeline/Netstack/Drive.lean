import Mathlib.Data.List.Basic
import ShiepPipeline.Collections.Sweep
import ShiepPipeline.Netstack.State

/-!
# Driving the flows

After every poll of the interface the netstack goes over its flows. For each connection it hands
queued chunks to the socket, passes on what the socket has received, closes the socket if that was
asked for, and removes the connection once its socket is no longer open. Associations are driven in
the same way.

Both drives are sweeps. What is proved here is about one visit: `sendChunks_cases` says what the
sending loop does to the bytes, and `relayed_pumpUplinkReads` what the receiving loop does.
-/

open Net

namespace ShiepPipeline

/-! ## Connections -/

namespace TcpSockets

variable (T : TcpSockets)

/-- The loop of `pump_pending_sends`: the socket, the queue that is left, and whether `send_slice`
has failed. -/
def sendChunks : T.Socket → List (List UInt8) → T.Socket × List (List UInt8) × Bool
  | s, [] => (s, [], false)
  | s, chunk :: queue =>
    if T.canSend s then
      match (T.sendSlice s chunk).1 with
      | .ok sent =>
        if sent = chunk.length then sendChunks (T.sendSlice s chunk).2 queue
        else ((T.sendSlice s chunk).2, chunk.drop sent :: queue, false)
      | .error _ => ((T.sendSlice s chunk).2, queue, true)
    else (s, chunk :: queue, false)

def pumpPendingSends (s : T.Socket) (conn : ConnectionState) : T.Socket × ConnectionState :=
  let (s, queue, failed) := T.sendChunks s conn.pendingSend
  (s, { conn with pendingSend := queue, closeRequested := conn.closeRequested || failed })

/-- The length of the buffer that `pump_uplink_reads` reads into. -/
def uplinkBufferLength : ℕ := 4096

def pumpUplinkReads (s : T.Socket) (conn : ConnectionState) : T.Socket × ConnectionState :=
  if _hcan : T.canRecv s = true then
    match _hread : (T.recvSlice s uplinkBufferLength).1 with
    | .ok [] => ((T.recvSlice s uplinkBufferLength).2, conn)
    | .ok (byte :: bytes) =>
      match conn.uplink.send (byte :: bytes) with
      | (true, uplink) => pumpUplinkReads (T.recvSlice s uplinkBufferLength).2 { conn with uplink }
      | (false, uplink) =>
        ((T.recvSlice s uplinkBufferLength).2, { conn with uplink, closeRequested := true })
    | .error _ => ((T.recvSlice s uplinkBufferLength).2, conn)
  else (s, conn)
termination_by (T.traffic s).readable.length
decreasing_by
  obtain ⟨-, -, hreadable, -⟩ := traffic_recvSlice _hcan (by decide) _hread
  rw [hreadable, List.length_append, List.length_cons]
  omega

/-- The two pumps of one connection. -/
def pump (s : T.Socket) (conn : ConnectionState) : T.Socket × ConnectionState :=
  T.pumpUplinkReads (T.pumpPendingSends s conn).1 (T.pumpPendingSends s conn).2

/-- Whether `drive_connections` calls `close` on the socket of a connection. -/
def closes (s : T.Socket) (conn : ConnectionState) : Bool :=
  (T.pump s conn).2.closeRequested && T.maySend (T.pump s conn).1

/-- The body of the loop of `drive_connections`. -/
def driveConnection (s : T.Socket) (conn : ConnectionState) : Visit T.Socket ConnectionState :=
  let socket := if T.closes s conn then T.close (T.pump s conn).1 else (T.pump s conn).1
  ⟨socket, (T.pump s conn).2, !T.isOpen socket⟩

end TcpSockets

/-! ## Associations -/

namespace UdpSockets

variable (U : UdpSockets)

/-- The loop of `pump_pending_udp_sends`. -/
def sendDatagrams : U.Socket → List (SocketAddrV4 × List UInt8) →
    U.Socket × List (SocketAddrV4 × List UInt8) × Bool
  | s, [] => (s, [], false)
  | s, (target, data) :: queue =>
    if U.canSend s then
      match (U.sendSlice s data target).1 with
      | .ok () => sendDatagrams (U.sendSlice s data target).2 queue
      | .error _ => ((U.sendSlice s data target).2, queue, true)
    else (s, (target, data) :: queue, false)

def pumpPendingUdpSends (s : U.Socket) (assoc : UdpAssociationState) :
    U.Socket × UdpAssociationState :=
  let (s, queue, failed) := U.sendDatagrams s assoc.pendingSend
  (s, { assoc with pendingSend := queue, closeRequested := assoc.closeRequested || failed })

def pumpUdpReads (s : U.Socket) (assoc : UdpAssociationState) : U.Socket × UdpAssociationState :=
  if _hcan : U.canRecv s = true then
    match (U.recvSlice s udpBufferCapacity).1 with
    | .error _ => ((U.recvSlice s udpBufferCapacity).2, assoc)
    | .ok (data, source) =>
      match assoc.uplink.send ⟨source, data⟩ with
      | (true, uplink) => pumpUdpReads (U.recvSlice s udpBufferCapacity).2 { assoc with uplink }
      | (false, uplink) =>
        ((U.recvSlice s udpBufferCapacity).2, { assoc with uplink, closeRequested := true })
  else (s, assoc)
termination_by U.queued s
decreasing_by exact U.queued_recvSlice _hcan udpBufferCapacity

/-- The body of the loop of `drive_udp_associations`. -/
def driveUdpAssociation (s : U.Socket) (assoc : UdpAssociationState) :
    Visit U.Socket UdpAssociationState :=
  let sent := U.pumpPendingUdpSends s assoc
  let received := U.pumpUdpReads sent.1 sent.2
  let socket := if received.2.closeRequested then U.close received.1 else received.1
  ⟨socket, received.2, !U.isOpen socket⟩

theorem handle_pumpUdpReads (s : U.Socket) (assoc : UdpAssociationState) :
    (U.pumpUdpReads s assoc).2.handle = assoc.handle := by
  fun_induction U.pumpUdpReads s assoc with
  | case2 _ _ _ _ _ _ _ _ ih => exact ih
  | _ => rfl

end UdpSockets

/-! ## What the pumps do -/

namespace TcpSockets

variable {T : TcpSockets} {s : T.Socket} {conn : ConnectionState}

/-- **The sending loop keeps the bytes in order.** Either it moves bytes from the front of the queue
into the socket, or `send_slice` has failed. -/
theorem sendChunks_cases (s : T.Socket) (queue : List (List UInt8)) :
    (∃ bytes, T.traffic (T.sendChunks s queue).1 = (T.traffic s).accept bytes
        ∧ queue.flatten = bytes ++ (T.sendChunks s queue).2.1.flatten
        ∧ (T.sendChunks s queue).2.2 = false)
      ∨ ∃ bytes, T.traffic (T.sendChunks s queue).1 = ((T.traffic s).accept bytes).refuse
        ∧ (T.sendChunks s queue).2.2 = true := by
  have hnothing : T.traffic s = (T.traffic s).accept [] := by simp [Traffic.accept]
  fun_induction T.sendChunks s queue with
  | case1 s => exact .inl ⟨[], hnothing, rfl, rfl⟩
  | case2 s chunk queue _ hsent ih =>
    obtain ⟨-, htraffic⟩ := T.traffic_sendSlice_ok hsent
    rw [List.take_length] at htraffic
    rcases ih (by simp [Traffic.accept]) with ⟨bytes, hbytes, hqueue, hok⟩ | ⟨bytes, hbytes, hfail⟩
    · refine .inl ⟨chunk ++ bytes, ?_, ?_, hok⟩
      · rw [hbytes, htraffic]
        simp [Traffic.accept]
      · rw [List.flatten_cons, hqueue, List.append_assoc]
    · refine .inr ⟨chunk ++ bytes, ?_, hfail⟩
      rw [hbytes, htraffic]
      simp [Traffic.accept]
  | case3 s chunk queue _ sent hsent _ =>
    -- the part that was not accepted goes back to the front
    refine .inl ⟨chunk.take sent, (T.traffic_sendSlice_ok hsent).2, ?_, rfl⟩
    rw [List.flatten_cons, List.flatten_cons, ← List.append_assoc, List.take_append_drop]
  | case4 s chunk queue _ err herr =>
    refine .inr ⟨[], ?_, rfl⟩
    rw [T.traffic_sendSlice_error herr, ← hnothing]
  | case5 s chunk queue _ => exact .inl ⟨[], hnothing, rfl, rfl⟩

/-- What the receiving loop does: chunks go from the receive buffer to the uplink. If the receiver
is still there at the end, nothing is left in the buffer. -/
structure Relayed (T : TcpSockets) (s : T.Socket) (conn : ConnectionState) (s' : T.Socket)
    (conn' : ConnectionState) : Prop where
  handle : conn'.handle = conn.handle
  pendingSend : conn'.pendingSend = conn.pendingSend
  closeRequested : conn.closeRequested = true → conn'.closeRequested = true
  left : conn.uplink.left = none → conn'.uplink.left = none
  traffic : T.traffic s' = (T.traffic s).read (T.traffic s').readable
  chunks : ∃ chunks, conn'.uplink.sent = conn.uplink.sent ++ chunks
    ∧ (∀ chunk ∈ chunks, chunk ≠ [] ∧ chunk.length ≤ uplinkBufferLength)
    ∧ (conn'.uplink.Alive → conn.uplink.Alive
      ∧ (T.traffic s).readable = chunks.flatten ∧ (T.traffic s').readable = [])

theorem relayed_pumpUplinkReads (s : T.Socket) (conn : ConnectionState) :
    Relayed T s conn (T.pumpUplinkReads s conn).1 (T.pumpUplinkReads s conn).2 := by
  fun_induction T.pumpUplinkReads s conn with
  | case1 s conn hcan hread =>
    exact absurd rfl (traffic_recvSlice hcan (by decide) hread).1
  | case2 s conn hcan byte bytes hread uplink hsend ih =>
    obtain ⟨hne, hlen, hreadable, htraffic⟩ := traffic_recvSlice hcan (by decide) hread
    -- a channel that took the chunk has a receiver
    have halive : conn.uplink.Alive := by
      by_contra hdropped
      rw [Channel.send_of_not_alive hdropped] at hsend
      cases hsend
    rw [Channel.send_of_alive halive] at hsend
    obtain rfl := (Prod.mk.inj hsend).2
    obtain ⟨chunks, hsent, hsizes, hdone⟩ := ih.chunks
    refine ⟨ih.handle, ih.pendingSend, ih.closeRequested, fun hleft ↦ ih.left ?_, ?_,
      (byte :: bytes) :: chunks, ?_, ?_, ?_⟩
    · rw [hleft, Option.map_none]
    · rw [ih.traffic, htraffic]
      rfl
    · rw [hsent, List.append_assoc, List.singleton_append]
    · rw [List.forall_mem_cons]
      exact ⟨⟨hne, hlen⟩, hsizes⟩
    · intro hstays
      obtain ⟨-, hrest, hempty⟩ := hdone hstays
      exact ⟨halive, by rw [hreadable, hrest, List.flatten_cons], hempty⟩
  | case3 s conn hcan byte bytes hread uplink hsend =>
    obtain ⟨-, -, -, htraffic⟩ := traffic_recvSlice hcan (by decide) hread
    have hdropped : ¬ conn.uplink.Alive := by
      intro halive
      rw [Channel.send_of_alive halive] at hsend
      cases hsend
    rw [Channel.send_of_not_alive hdropped] at hsend
    obtain rfl := congrArg Prod.snd hsend
    exact ⟨rfl, rfl, fun _ ↦ rfl, id, htraffic, [], by simp, by simp, fun h ↦ absurd h hdropped⟩
  | case4 s conn hcan err hread =>
    obtain ⟨bytes, -, hread', -⟩ := T.recvSlice_ok hcan (n := uplinkBufferLength) (by decide)
    exact absurd (hread'.symm.trans hread) (by simp)
  | case5 s conn hcan =>
    -- reading stops where there is nothing to read
    have hempty : (T.traffic s).readable = [] := by
      by_contra hne
      exact hcan ((T.canRecv_iff s).mpr hne)
    exact ⟨rfl, rfl, id, id, rfl, [], by simp, by simp, fun h ↦ ⟨h, by simp [hempty], hempty⟩⟩

theorem relayed_pump (s : T.Socket) (conn : ConnectionState) :
    Relayed T (T.pumpPendingSends s conn).1 (T.pumpPendingSends s conn).2 (T.pump s conn).1
      (T.pump s conn).2 :=
  relayed_pumpUplinkReads _ _

/-- Sending only touches what is sent. -/
theorem traffic_pumpPendingSends (s : T.Socket) (conn : ConnectionState) :
    ∃ accepted refused,
      T.traffic (T.pumpPendingSends s conn).1 = { T.traffic s with accepted, refused } := by
  rw [pumpPendingSends]
  dsimp only
  obtain ⟨bytes, htraffic, -⟩ | ⟨bytes, htraffic, -⟩ := T.sendChunks_cases s conn.pendingSend
  · exact ⟨_, _, htraffic⟩
  · exact ⟨_, _, htraffic⟩

theorem received_pumpPendingSends (s : T.Socket) (conn : ConnectionState) :
    (T.traffic (T.pumpPendingSends s conn).1).arrived = (T.traffic s).arrived
      ∧ (T.traffic (T.pumpPendingSends s conn).1).readable = (T.traffic s).readable := by
  obtain ⟨accepted, refused, htraffic⟩ := traffic_pumpPendingSends s conn
  rw [htraffic]
  exact ⟨rfl, rfl⟩

theorem handle_driveConnection (s : T.Socket) (conn : ConnectionState) :
    (T.driveConnection s conn).entry.handle = conn.handle :=
  (relayed_pump s conn).handle

/-- A visit ends with the bytes as the pumps left them. -/
theorem traffic_driveConnection (s : T.Socket) (conn : ConnectionState) :
    T.traffic (T.driveConnection s conn).object = T.traffic (T.pump s conn).1 := by
  rw [driveConnection]
  dsimp only
  split_ifs
  · exact T.traffic_close _
  · rfl

/-- A socket stays connected to what it was connected to. -/
theorem connectedTo_driveConnection (s : T.Socket) (conn : ConnectionState) :
    (T.traffic (T.driveConnection s conn).object).connectedTo = (T.traffic s).connectedTo := by
  obtain ⟨accepted, refused, htraffic⟩ := traffic_pumpPendingSends s conn
  rw [traffic_driveConnection, (relayed_pump s conn).traffic, htraffic]
  rfl

end TcpSockets

namespace UdpSockets

variable {U : UdpSockets}

theorem boundTo_sendDatagrams (s : U.Socket) (queue : List (SocketAddrV4 × List UInt8)) :
    U.boundTo (U.sendDatagrams s queue).1 = U.boundTo s := by
  fun_induction U.sendDatagrams s queue with
  | case2 s target data queue _ _ ih => rw [ih, U.boundTo_sendSlice]
  | case3 => exact U.boundTo_sendSlice _ _ _
  | _ => rfl

theorem boundTo_pumpUdpReads (s : U.Socket) (assoc : UdpAssociationState) :
    U.boundTo (U.pumpUdpReads s assoc).1 = U.boundTo s := by
  fun_induction U.pumpUdpReads s assoc with
  | case2 _ _ _ _ _ _ _ _ ih => rw [ih, U.boundTo_recvSlice]
  | case4 => rfl
  | _ => exact U.boundTo_recvSlice _ _

theorem boundTo_driveUdpAssociation (s : U.Socket) (assoc : UdpAssociationState) :
    U.boundTo (U.driveUdpAssociation s assoc).object = U.boundTo s := by
  have hreceived : U.boundTo (U.pumpUdpReads (U.pumpPendingUdpSends s assoc).1
      (U.pumpPendingUdpSends s assoc).2).1 = U.boundTo s :=
    (boundTo_pumpUdpReads _ _).trans (boundTo_sendDatagrams s assoc.pendingSend)
  rw [driveUdpAssociation]
  dsimp only
  split_ifs
  · rw [U.boundTo_close, hreceived]
  · exact hreceived

end UdpSockets

/-! ## The drives -/

namespace Netstack

variable {T : TcpSockets} {U : UdpSockets}

def tcpKind : Kind (Socket T U) T.Socket where
  cast
    | .tcp s => some s
    | .udp _ => none
  inject := .tcp
  cast_inject _ := rfl

def udpKind : Kind (Socket T U) U.Socket where
  cast
    | .tcp _ => none
    | .udp s => some s
  inject := .udp
  cast_inject _ := rfl

def connectionSweeper : Sweeper SocketHandle (Socket T U) T.Socket ConnectionState where
  kind := tcpKind
  handle := ConnectionState.handle
  visit := T.driveConnection
  handle_visit := TcpSockets.handle_driveConnection

def udpSweeper : Sweeper SocketHandle (Socket T U) U.Socket UdpAssociationState where
  kind := udpKind
  handle := UdpAssociationState.handle
  visit := U.driveUdpAssociation
  handle_visit s assoc := U.handle_pumpUdpReads _ (U.pumpPendingUdpSends s assoc).2

variable (n : Netstack T U)

/-- The connections and the sockets. -/
def tcpTable : Owners UInt64 SocketHandle (Socket T U) ConnectionState := ⟨n.connections, n.sockets⟩

def udpTable : Owners UInt64 SocketHandle (Socket T U) UdpAssociationState :=
  ⟨n.udpAssociations, n.sockets⟩

/-- One pass over the connections, in the order in which the map yields them. A typed access to the
wrong socket would be a panic. -/
def driveConnections (order : List UInt64) : Option (Netstack T U) :=
  (connectionSweeper.sweep order n.tcpTable).map fun t ↦
    { n with connections := t.entries, sockets := t.objects }

def driveUdpAssociations (order : List UInt64) : Option (Netstack T U) :=
  (udpSweeper.sweep order n.udpTable).map fun t ↦
    { n with udpAssociations := t.entries, sockets := t.objects }

end Netstack

end ShiepPipeline
