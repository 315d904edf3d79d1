import ShiepPipeline.Tunnel.Control

/-!
# Messages to the server

Commands and handshakes are buffers of 64 bytes that carry the token of the session.
-/

namespace ShiepPipeline

def protocolTokenLen : ℕ := 48

/-- `packet[start..end].copy_from_slice(src)`, where `end` is `start + src.len()`. -/
def copyFromSlice (packet : List UInt8) (start : ℕ) (src : List UInt8) : List UInt8 :=
  packet.take start ++ src ++ packet.drop (start + src.length)

def buildCommandMessage (opCode : UInt32) (token : Vector UInt8 protocolTokenLen) : List UInt8 :=
  let message := List.replicate 64 0
  let message := copyFromSlice message 0 (toLeBytes opCode)
  copyFromSlice message 4 token.toList

def buildStreamHandshakeMessage (opCode : UInt8) (token : Vector UInt8 protocolTokenLen)
    (ipRev : Vector UInt8 4) : List UInt8 :=
  let message := List.replicate 64 0
  let message := message.set 0 opCode
  let message := copyFromSlice message 4 token.toList
  copyFromSlice message 60 ipRev.toList

end ShiepPipeline
