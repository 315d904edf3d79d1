import Mathlib.Logic.Function.Basic
import ShiepPipeline.Concurrency.Channel
import ShiepPipeline.Error
import ShiepPipeline.Netstack.Smoltcp

/-!
# The state of the netstack

One thread owns the interface, the sockets and the two tables of open flows, and works through
control messages. This file has the state and what one message does to it.

The maps are functions, and a handle that `SocketSet::add` picks is an argument. The tables map the
ids that clients know to what the netstack keeps for them, which includes the sending end of the
channel that a client reads from.
-/

open Net

namespace ShiepPipeline

def socketBufferCapacity : ℕ := 64 * 1024
def udpPacketCapacity : ℕ := 32
def udpBufferCapacity : ℕ := 64 * 1024
def maxControlBatch : ℕ := 64

/-! ## Messages and tables -/

structure UdpDatagram where
  source : SocketAddrV4
  data : List UInt8
deriving DecidableEq, Repr

/-- The messages of the control channel. `openTcp` is `Open`, and the reply channels of the two
opens are left out: what is sent on them is a result of `handleControlMessage`. -/
inductive ControlMessage
  | tunnelPacket (packet : List UInt8)
  | openTcp (target : SocketAddrV4)
  | openUdp
  | send (id : UInt64) (data : List UInt8)
  | sendUdp (id : UInt64) (target : SocketAddrV4) (data : List UInt8)
  | close (id : UInt64)
  | closeUdp (id : UInt64)
deriving DecidableEq, Repr

abbrev SocketHandle := ℕ

structure ConnectionState where
  handle : SocketHandle
  uplink : Channel (List UInt8)
  pendingSend : List (List UInt8)
  closeRequested : Bool
deriving DecidableEq, Repr

structure UdpAssociationState where
  handle : SocketHandle
  uplink : Channel UdpDatagram
  pendingSend : List (SocketAddrV4 × List UInt8)
  closeRequested : Bool
deriving DecidableEq, Repr

inductive Socket (T : TcpSockets) (U : UdpSockets)
  | tcp (socket : T.Socket)
  | udp (socket : U.Socket)

structure Netstack (T : TcpSockets) (U : UdpSockets) where
  /-- The packets of the tunnel that the interface has not taken. -/
  rxQueue : List (List UInt8)
  iface : T.Context
  sockets : SocketHandle → Option (Socket T U)
  connections : UInt64 → Option ConnectionState
  udpAssociations : UInt64 → Option UdpAssociationState
  nextConnId : UInt64
  nextLocalPort : UInt16

namespace Netstack

variable {T : TcpSockets} {U : UdpSockets} (n : Netstack T U)

/-- The state `run_netstack_loop` starts from. -/
def initial (iface : T.Context) : Netstack T U where
  rxQueue := []
  iface
  sockets := fun _ ↦ none
  connections := fun _ ↦ none
  udpAssociations := fun _ ↦ none
  nextConnId := 1
  nextLocalPort := 40000

/-! ## Opening -/

/-- The port that is handed out, and the next one. -/
def allocLocalPort (next : UInt16) : UInt16 × UInt16 :=
  (next, if 60000 ≤ next then 40000 else next + 1)

/-- Open a TCP connection on the socket that is added under this handle. -/
def openConnection (handle : SocketHandle) (target : SocketAddrV4) :
    Except EcError UInt64 × Netstack T U :=
  let (localPort, nextLocalPort) := allocLocalPort n.nextLocalPort
  let (result, socket) := T.connect (T.new socketBufferCapacity socketBufferCapacity) n.iface
    target localPort
  match result with
  | .ok () =>
    (.ok n.nextConnId,
      { n with
        sockets := Function.update n.sockets handle (some (.tcp socket))
        connections := Function.update n.connections n.nextConnId (some ⟨handle, .fresh, [], false⟩)
        nextConnId := n.nextConnId + 1
        nextLocalPort })
  | .error e =>
    -- the socket has been added and is removed again
    (.error (.runtime ("tcp connect failed: " ++ e)),
      { n with
        sockets := Function.update n.sockets handle none
        nextLocalPort })

def openUdpAssociationInner (handle : SocketHandle) : Except EcError UInt64 × Netstack T U :=
  let (localPort, nextLocalPort) := allocLocalPort n.nextLocalPort
  let (result, socket) := U.bind (U.new udpPacketCapacity udpBufferCapacity) localPort
  match result with
  | .ok () =>
    (.ok n.nextConnId,
      { n with
        sockets := Function.update n.sockets handle (some (.udp socket))
        udpAssociations :=
          Function.update n.udpAssociations n.nextConnId (some ⟨handle, .fresh, [], false⟩)
        nextConnId := n.nextConnId + 1
        nextLocalPort })
  | .error e => (.error (.runtime ("udp bind failed: " ++ e)), { n with nextLocalPort })

/-! ## Messages -/

/-- Change an entry of the table of connections, if it is there. -/
def modifyConnection (id : UInt64) (f : ConnectionState → ConnectionState) : Netstack T U :=
  { n with connections := Function.update n.connections id ((n.connections id).map f) }

def modifyUdpAssociation (id : UInt64) (f : UdpAssociationState → UdpAssociationState) :
    Netstack T U :=
  { n with udpAssociations := Function.update n.udpAssociations id ((n.udpAssociations id).map f) }

/-- What one message does, and what is sent on its reply channel, if it has one. -/
def handleControlMessage (handle : SocketHandle) :
    ControlMessage → Option (Except EcError UInt64) × Netstack T U
  | .tunnelPacket packet => (none, { n with rxQueue := n.rxQueue ++ [packet] })
  | .openTcp target => ((n.openConnection handle target).1, (n.openConnection handle target).2)
  | .openUdp => ((n.openUdpAssociationInner handle).1, (n.openUdpAssociationInner handle).2)
  | .send id data =>
    (none, n.modifyConnection id fun conn ↦ { conn with pendingSend := conn.pendingSend ++ [data] })
  | .sendUdp id target data =>
    (none, n.modifyUdpAssociation id fun assoc ↦
      { assoc with pendingSend := assoc.pendingSend ++ [(target, data)] })
  | .close id => (none, n.modifyConnection id fun conn ↦ { conn with closeRequested := true })
  | .closeUdp id =>
    (none, n.modifyUdpAssociation id fun assoc ↦ { assoc with closeRequested := true })

end Netstack

end ShiepPipeline
