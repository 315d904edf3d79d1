import ShiepPipeline.Error
import ShiepPipeline.Text.Utf8

/-!
# SOCKS5 on the wire

The constants and messages of the SOCKS5 server: commands, targets, replies, and the header in front
of every datagram of a UDP association.
-/

open Net Utf8

namespace ShiepPipeline

/-! ## Requests and replies -/

def socksVersion5 : UInt8 := 0x05
def socksMethodNoAuth : UInt8 := 0x00
def socksMethodNotAcceptable : UInt8 := 0xff
def socksRsv : UInt8 := 0x00
def socksAtypIpv4 : UInt8 := 0x01
def socksAtypDomain : UInt8 := 0x03
def socksAtypIpv6 : UInt8 := 0x04
def socksRepSucceeded : UInt8 := 0x00
def socksRepGeneralFailure : UInt8 := 0x01
def socksRepCmdNotSupported : UInt8 := 0x07
def socksRepAtypNotSupported : UInt8 := 0x08

inductive SocksCommand
  | connect
  | udpAssociate
  | other (value : UInt8)
deriving DecidableEq, Repr

def SocksCommand.fromByte (value : UInt8) : SocksCommand :=
  if value = 0x01 then .connect else if value = 0x03 then .udpAssociate else .other value

def SocksCommand.isOther : SocksCommand → Bool
  | .other _ => true
  | _ => false

def SocksCommand.display : SocksCommand → String
  | .connect => "CONNECT"
  | .udpAssociate => "UDP ASSOCIATE"
  | .other value => "0x" ++ hexByte value

structure ConnectTarget where
  host : String
  port : UInt16
deriving DecidableEq, Repr

def ConnectTarget.display (target : ConnectTarget) : String :=
  target.host ++ ":" ++ decimal target.port.toNat

/-- The bytes of `write_reply`: no bound address. -/
def replyBytes (rep : UInt8) : List UInt8 :=
  [socksVersion5, rep, socksRsv, socksAtypIpv4, 0, 0, 0, 0, 0, 0]

/-- The bytes of `write_bound_reply`. -/
def boundReplyBytes (rep : UInt8) (bound : SocketAddrV4) : List UInt8 :=
  [socksVersion5, rep, socksRsv, socksAtypIpv4] ++ bound.ip.octets
    ++ toBeBytes bound.port

/-! ## Datagrams -/

structure SocksUdpPacket where
  target : ConnectTarget
  payload : List UInt8
deriving DecidableEq, Repr

/-- The address part of a datagram's header, and the bytes after it. -/
def parseUdpHost (atyp : UInt8) (data : List UInt8) : Except EcError (String × List UInt8) :=
  if atyp = socksAtypIpv4 then
    match data with
    | a :: b :: c :: d :: rest => .ok (Ipv4Addr.display ⟨a, b, c, d⟩, rest)
    | _ => .error (.runtime "udp ipv4 address is truncated")
  else if atyp = socksAtypDomain then
    match data with
    | [] => .error (.runtime "udp domain length is truncated")
    | len :: rest =>
      if rest.length < len.toNat then .error (.runtime "udp domain is truncated")
      else
        match fromUtf8 (rest.take len.toNat) with
        | .ok domain => .ok (domain, rest.drop len.toNat)
        | .error e => .error (.runtime s!"invalid udp domain utf8: {e}")
  else if atyp = socksAtypIpv6 then
    .error (.runtime "udp ipv6 targets are not supported yet")
  else .error (.runtime s!"unsupported udp atyp: 0x{hexByte atyp}")

def parseSocksUdpPacket (data : List UInt8) : Except EcError SocksUdpPacket :=
  match data with
  | rsv₀ :: rsv₁ :: frag :: atyp :: rest =>
    if rsv₀ ≠ 0 ∨ rsv₁ ≠ 0 then
      .error (.runtime "udp packet with non-zero RSV is not supported")
    else if frag ≠ 0 then .error (.runtime "fragmented udp packet is not supported")
    else do
      let (host, rest) ← parseUdpHost atyp rest
      match rest with
      | high :: low :: payload => .ok ⟨⟨host, fromBeBytes high low⟩, payload⟩
      | _ => .error (.runtime "udp port is truncated")
  | _ => .error (.runtime "udp packet header is too short")

def encodeSocksUdpPacket (source : SocketAddrV4) (payload : List UInt8) : List UInt8 :=
  [0, 0, 0, socksAtypIpv4] ++ source.ip.octets ++ toBeBytes source.port ++ payload

end ShiepPipeline
