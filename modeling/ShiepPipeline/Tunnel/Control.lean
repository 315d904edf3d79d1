import ShiepPipeline.Error

/-!
# Control codes of the tunnel

The server speaks to the client in codes. On the streams of the packets a code stands in a frame of
40 bytes that begins with `AABB`; the answer to a command may also be a body that begins with the
code itself. Codes are written in little-endian order.
-/

namespace ShiepPipeline

inductive NativeControlType
  | sendIp
  | rxAck
  | txAck
  | serverReset
  | recovered
  | ipBusy
  | shutdown
  | ipConflict
  | ipKick
  | heartbeat
  | unknown (code : UInt32)
deriving DecidableEq, Repr

namespace NativeControlType

def fromCode (code : UInt32) : NativeControlType :=
  match code.toNat with
  | 0 => .sendIp
  | 1 => .rxAck
  | 2 => .txAck
  | 3 => .serverReset
  | 4 => .recovered
  | 5 => .ipBusy
  | 8 => .shutdown
  | 9 => .ipConflict
  | 14 => .ipKick
  | 15 => .heartbeat
  | _ => .unknown code

def code : NativeControlType → UInt32
  | .sendIp => 0
  | .rxAck => 1
  | .txAck => 2
  | .serverReset => 3
  | .recovered => 4
  | .ipBusy => 5
  | .shutdown => 8
  | .ipConflict => 9
  | .ipKick => 14
  | .heartbeat => 15
  | .unknown v => v

def label : NativeControlType → String
  | .sendIp => "send-ip"
  | .rxAck => "rx-ack"
  | .txAck => "tx-ack"
  | .serverReset => "server-reset"
  | .recovered => "recovered"
  | .ipBusy => "ip-busy"
  | .shutdown => "shutdown"
  | .ipConflict => "ip-conflict"
  | .ipKick => "ip-kick"
  | .heartbeat => "heartbeat"
  | .unknown _ => "unknown"

/-- Every code names one type of frame, and every type knows its code. -/
theorem code_fromCode (code : UInt32) : (fromCode code).code = code := by
  rw [fromCode]
  split <;> first
    | rfl
    | next h => exact (UInt32.toNat_inj.mp h).symm

/-- Different codes name different types. -/
theorem fromCode_inj {code code' : UInt32} : fromCode code = fromCode code' ↔ code = code' := by
  constructor
  · intro h
    rw [← code_fromCode code, h, code_fromCode]
  · rintro rfl
    rfl

end NativeControlType

/-- `NATIVE_CONTROL_MAGIC`, the text `AABB`. -/
def nativeControlMagic : List UInt8 := [0x41, 0x41, 0x42, 0x42]

/-- `NATIVE_CONTROL_FRAME_LEN`. -/
def nativeControlFrameLen : ℕ := 0x28

/-- `from_le_bytes`: the first byte counts least. -/
def fromLeBytes : List UInt8 → ℕ
  | [] => 0
  | b :: bytes => b.toNat + 256 * fromLeBytes bytes

/-- `u32::to_le_bytes`. -/
def toLeBytes (x : UInt32) : List UInt8 :=
  [x.toUInt8, (x >>> 8).toUInt8, (x >>> 16).toUInt8, (x >>> 24).toUInt8]

theorem fromLeBytes_toLeBytes (x : UInt32) : fromLeBytes (toLeBytes x) = x.toNat := by
  have hx := x.toNat_lt
  simp only [toLeBytes, fromLeBytes, UInt32.toNat_toUInt8, UInt32.toNat_shiftRight,
    UInt32.reduceToNat, Nat.reduceMod, Nat.shiftRight_eq_div_pow, Nat.reducePow, Nat.mul_zero,
    Nat.add_zero]
  omega

/-- The code in the first four bytes. -/
def leCode (data : List UInt8) : UInt32 := UInt32.ofNat (fromLeBytes (data.take 4))

@[simp] theorem leCode_toLeBytes_append (code : UInt32) (rest : List UInt8) :
    leCode (toLeBytes code ++ rest) = code := by
  have hfour : (toLeBytes code).length = 4 := rfl
  rw [leCode, List.take_left' hfour, fromLeBytes_toLeBytes, UInt32.ofNat_toNat]

def parseNativeControlFrame (data : List UInt8) : Option NativeControlType :=
  if data.length = nativeControlFrameLen ∧ nativeControlMagic <+: data then
    some (.fromCode (UInt32.ofNat (fromLeBytes ((data.drop 4).take 4))))
  else none

/-- `COMMAND_REPLY_MIN_LEN`. -/
def commandReplyMinLen : ℕ := 4

/-- `COMMAND_REPLY_BODY_EXPECTED_LEN`. -/
def commandReplyBodyExpectedLen : ℕ := 36

def parseCommandControlReply (data : List UInt8) : Except EcError NativeControlType :=
  if nativeControlMagic <+: data then
    match parseNativeControlFrame data with
    | some control => .ok control
    | none => .error (.runtime s!"invalid command control frame: {data.length} bytes")
  else if data.length < commandReplyMinLen then
    .error (.runtime s!"command control reply too short: {data.length} bytes")
  else .ok (.fromCode (leCode data))

end ShiepPipeline
