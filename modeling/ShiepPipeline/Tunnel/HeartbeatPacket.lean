import Mathlib.Algebra.Group.Nat.Even
import ShiepPipeline.Numeric.OnesComplement
import ShiepPipeline.Text.Utf8
import ShiepPipeline.Tunnel.Messages

/-!
# The heartbeat packet of the sending stream

`buildTxHeartbeatPacket` makes an ICMP echo request in an IPv4 header, with the session and a tail
in its payload. Both parts carry an Internet checksum, which `internetChecksum` computes with 32-bit
numbers.

The sum is an end-around sum to the base of 65536: `isFolded_foldCarries` says that the loop that
folds it computes what `OnesComplement.IsFolded` specifies, and everything about checksums follows
from that. `txHeartbeatPacket_valid` is about every packet, and about every buffer that a checksum
is stored into.
-/

open OnesComplement Utf8

namespace ShiepPipeline

/-! ## The checksum -/

/-- The loop over `data.chunks(2)`: a last byte without a second one counts as a high byte. -/
def sumWords (sum : UInt32) : List UInt8 → UInt32
  | [] => sum
  | [high] => sum + (fromBeBytes high 0).toUInt32
  | high :: low :: data => sumWords (sum + (fromBeBytes high low).toUInt32) data

private theorem toNat_shiftRight_sixteen (sum : UInt32) :
    (sum >>> 16).toNat = sum.toNat / 65536 := by
  simp [Nat.shiftRight_eq_div_pow]

private theorem toNat_and_low (sum : UInt32) :
    (sum &&& (0xffff : UInt32)).toNat = sum.toNat % 65536 := by
  rw [UInt32.toNat_and]
  exact Nat.and_two_pow_sub_one_eq_mod sum.toNat 16

/-- The body of the folding loop. -/
def carryOnce (sum : UInt32) : UInt32 := (sum &&& (0xffff : UInt32)) + (sum >>> 16)

/-- A round of the folding loop does not overflow. -/
theorem toNat_carryOnce (sum : UInt32) :
    (carryOnce sum).toNat = sum.toNat % 65536 + sum.toNat / 65536 := by
  have hsum := sum.toNat_lt
  rw [carryOnce, UInt32.toNat_add, toNat_and_low, toNat_shiftRight_sixteen,
    Nat.mod_eq_of_lt (by omega)]

theorem shiftRight_sixteen_eq_zero_iff (sum : UInt32) : sum >>> 16 = 0 ↔ sum.toNat < 65536 := by
  rw [← UInt32.toNat_inj, toNat_shiftRight_sixteen]
  exact Nat.div_eq_zero_iff_lt (by decide)

/-- `while (sum >> 16) != 0`. -/
def foldCarries (sum : UInt32) : UInt32 :=
  if sum >>> 16 ≠ 0 then foldCarries (carryOnce sum) else sum
termination_by sum.toNat
decreasing_by
  rename_i h
  rw [ne_eq, shiftRight_sixteen_eq_zero_iff, not_lt] at h
  rw [toNat_carryOnce]
  exact carry_lt (by decide) h

def internetChecksum (data : List UInt8) : UInt16 := ~~~(foldCarries (sumWords 0 data)).toUInt16

/-- **The loop folds the sum** as ones' complement addition does. -/
theorem isFolded_foldCarries (sum : UInt32) :
    IsFolded 65536 sum.toNat (foldCarries sum).toNat := by
  fun_induction foldCarries sum with
  | case1 sum _ ih =>
    rw [toNat_carryOnce] at ih
    exact ih.of_carry (by decide)
  | case2 sum h =>
    rw [not_not, shiftRight_sixteen_eq_zero_iff] at h
    exact isFolded_self h

/-- The value of a buffer as a sum of 16-bit words, without any bound. -/
def wordSum : List UInt8 → ℕ
  | [] => 0
  | [high] => 256 * high.toNat
  | high :: low :: data => 256 * high.toNat + low.toNat + wordSum data

/-- Two words are at most 131070, so 65536 bytes are far from the limit. -/
theorem wordSum_le (data : List UInt8) : wordSum data ≤ 65535 * ((data.length + 1) / 2) := by
  fun_induction wordSum data with
  | case1 => exact Nat.zero_le _
  | case2 high =>
    have hhigh := high.toNat_lt
    rw [List.length_singleton]
    omega
  | case3 high low data ih =>
    have hhigh := high.toNat_lt
    have hlow := low.toNat_lt
    rw [List.length_cons, List.length_cons]
    omega

/-- **The 32-bit sum does not overflow.** -/
theorem toNat_sumWords {data : List UInt8} {sum : UInt32} (h : sum.toNat + wordSum data < 2 ^ 32) :
    (sumWords sum data).toNat = sum.toNat + wordSum data := by
  fun_induction sumWords sum data with
  | case1 sum => rfl
  | case2 sum high =>
    rw [wordSum] at h ⊢
    rw [UInt32.toNat_add, UInt16.toNat_toUInt32, toNat_fromBeBytes]
    exact Nat.mod_eq_of_lt h
  | case3 sum high low data ih =>
    rw [wordSum] at h ⊢
    have hstep : (sum + (fromBeBytes high low).toUInt32).toNat
        = sum.toNat + (256 * high.toNat + low.toNat) := by
      rw [UInt32.toNat_add, UInt16.toNat_toUInt32, toNat_fromBeBytes]
      exact Nat.mod_eq_of_lt (by omega)
    rw [ih (by omega), hstep]
    omega

theorem toNat_sumWords_zero {data : List UInt8} (h : data.length ≤ 65536) :
    (sumWords 0 data).toNat = wordSum data := by
  have hle := wordSum_le data
  have hsum : (0 : UInt32).toNat + wordSum data < 2 ^ 32 := by
    rw [UInt32.toNat_zero]
    omega
  rw [toNat_sumWords hsum, UInt32.toNat_zero, Nat.zero_add]

/-- The checksum of a buffer is the complement of what its words fold into. -/
theorem internetChecksum_eq {data : List UInt8} (h : data.length ≤ 65536) {r : ℕ}
    (hr : IsFolded 65536 (wordSum data) r) : (internetChecksum data).toNat = 65535 - r := by
  have hfold := isFolded_foldCarries (sumWords 0 data)
  rw [toNat_sumWords_zero h] at hfold
  have hlt := hfold.lt
  rw [internetChecksum, UInt16.toNat_not, UInt32.toNat_toUInt16, Nat.mod_eq_of_lt hlt,
    hfold.unique hr]
  rfl

/-! ## Storing a checksum -/

theorem wordSum_append {data : List UInt8} (h : Even data.length) (data' : List UInt8) :
    wordSum (data ++ data') = wordSum data + wordSum data' := by
  fun_induction wordSum data with
  | case1 => rw [List.nil_append, Nat.zero_add]
  | case2 high => exact absurd h Nat.not_even_one
  | case3 high low data ih =>
    have heven : Even data.length := by
      rw [List.length_cons, List.length_cons, Nat.even_add_one, Nat.even_add_one, not_not] at h
      exact h
    rw [List.cons_append, List.cons_append, wordSum, ih heven]
    omega

theorem wordSum_toBeBytes (x : UInt16) : wordSum (toBeBytes x) = x.toNat := by
  obtain ⟨high, low, hbytes, rfl⟩ := exists_toBeBytes x
  rw [hbytes, wordSum, wordSum, toNat_fromBeBytes, Nat.add_zero]

/-- **A stored checksum verifies.** The field is zero while the sum is made. -/
theorem internetChecksum_stored {front back : List UInt8} (hfront : Even front.length)
    (hlen : (front ++ toBeBytes 0 ++ back).length ≤ 65536) :
    internetChecksum
      (front ++ toBeBytes (internetChecksum (front ++ toBeBytes 0 ++ back)) ++ back) = 0 := by
  have heven : ∀ x : UInt16, Even (toBeBytes x).length := by
    intro x
    rw [length_toBeBytes]
    decide
  have hfield : ∀ x : UInt16, wordSum (front ++ toBeBytes x ++ back)
      = wordSum front + (x.toNat + wordSum back) := by
    intro x
    rw [List.append_assoc, wordSum_append hfront, wordSum_append (heven x), wordSum_toBeBytes]
  have hbound : ∀ x : UInt16, (front ++ toBeBytes x ++ back).length ≤ 65536 := by
    intro x
    rw [List.length_append, List.length_append] at hlen ⊢
    exact hlen
  -- what the words fold into, before and after the complement has been added to them
  have hfold := isFolded_foldCarries (sumWords 0 (front ++ toBeBytes 0 ++ back))
  rw [toNat_sumWords_zero hlen] at hfold
  have hones := hfold.complement (by decide)
  have hsum : wordSum (front ++ toBeBytes (internetChecksum (front ++ toBeBytes 0 ++ back)) ++ back)
      = wordSum (front ++ toBeBytes 0 ++ back)
        + (65535 - (foldCarries (sumWords 0 (front ++ toBeBytes 0 ++ back))).toNat) := by
    rw [hfield, hfield, internetChecksum_eq hlen hfold, UInt16.toNat_zero]
    omega
  rw [← hsum] at hones
  apply UInt16.toNat_inj.mp
  rw [internetChecksum_eq (hbound _) hones]
  rfl

/-! ## The packet -/

def txHeartbeatPacketLen : ℕ := 0x4c
def txHeartbeatIpv4Id : List UInt8 := [0xbb, 0xaa]
def txHeartbeatTtl : UInt8 := 0x40
def txHeartbeatIcmpId : List UInt8 := [0x55, 0x55]
def txHeartbeatIcmpSeq : List UInt8 := [0x44, 0x33]

/-- The text `SANGFORSCSIPCLIENT`. -/
def txHeartbeatPayloadPrefix : List UInt8 :=
  [0x53, 0x41, 0x4e, 0x47, 0x46, 0x4f, 0x52, 0x53, 0x43, 0x53, 0x49, 0x50, 0x43, 0x4c, 0x49, 0x45,
    0x4e, 0x54]

/-- The text `L3VPN` and a zero byte. -/
def txHeartbeatPayloadSuffix : List UInt8 := [0x4c, 0x33, 0x56, 0x50, 0x4e, 0x00]

/-- The packet before its checksums are stored. -/
def heartbeatFields (assignedIp heartbeatDst : Vector UInt8 4) (session : Vector UInt8 16)
    (opaqueTail : Vector UInt8 8) : List UInt8 :=
  let packet := List.replicate txHeartbeatPacketLen 0
  let packet := packet.set 0 0x45
  let packet := copyFromSlice packet 2 (toBeBytes (UInt16.ofNat txHeartbeatPacketLen))
  let packet := copyFromSlice packet 4 txHeartbeatIpv4Id
  let packet := packet.set 8 txHeartbeatTtl
  let packet := packet.set 9 0x01
  let packet := copyFromSlice packet 12 assignedIp.toList
  let packet := copyFromSlice packet 16 heartbeatDst.toList
  let packet := packet.set 20 0x08
  let packet := packet.set 21 0x00
  let packet := copyFromSlice packet 24 txHeartbeatIcmpId
  let packet := copyFromSlice packet 26 txHeartbeatIcmpSeq
  let packet := copyFromSlice packet 28 txHeartbeatPayloadPrefix
  let packet := copyFromSlice packet 46 session.toList
  let packet := copyFromSlice packet 62 opaqueTail.toList
  copyFromSlice packet 70 txHeartbeatPayloadSuffix

def buildTxHeartbeatPacket (assignedIp heartbeatDst : Vector UInt8 4) (session : Vector UInt8 16)
    (opaqueTail : Vector UInt8 8) : List UInt8 :=
  let packet := heartbeatFields assignedIp heartbeatDst session opaqueTail
  let ipChecksum := internetChecksum (packet.take 20)
  let packet := copyFromSlice packet 10 (toBeBytes ipChecksum)
  let icmpChecksum := internetChecksum (packet.drop 20)
  copyFromSlice packet 22 (toBeBytes icmpChecksum)

/-! ## What the packet looks like -/

/-- A number is stored over another one. -/
theorem copyFromSlice_toBeBytes {front back : List UInt8} {start : ℕ} (x y : UInt16)
    (hstart : front.length = start) :
    copyFromSlice (front ++ (toBeBytes x ++ back)) start (toBeBytes y)
      = front ++ (toBeBytes y ++ back) := by
  have hend : start + (toBeBytes y).length = (front ++ toBeBytes x).length := by
    rw [List.length_append, hstart, length_toBeBytes, length_toBeBytes]
  rw [copyFromSlice, hend, ← List.append_assoc front (toBeBytes x), List.drop_left,
    List.append_assoc front, ← hstart, List.take_left, List.append_assoc]

theorem take_drop_field {front field back : List UInt8} {start len : ℕ}
    (hstart : front.length = start) (hlen : field.length = len) :
    ((front ++ (field ++ back)).drop start).take len = field := by
  rw [List.drop_left' hstart, List.take_left' hlen]

/-- The packet is filled from the front, so all that follows a new field is still zero. -/
theorem copyFromSlice_zeros {written : List UInt8} {start n : ℕ} (src : List UInt8)
    (hstart : written.length ≤ start) (hn : start + src.length ≤ written.length + n) :
    copyFromSlice (written ++ List.replicate n 0) start src
      = (written ++ (List.replicate (start - written.length) 0 ++ src))
        ++ List.replicate (written.length + n - (start + src.length)) 0 := by
  have hdrop : n - (start + src.length - written.length)
      = written.length + n - (start + src.length) := by omega
  have hmin : min (start - written.length) n = start - written.length := by omega
  rw [copyFromSlice, List.take_append, List.take_of_length_le hstart, List.take_replicate,
    List.drop_append, List.drop_eq_nil_of_le (by omega), List.drop_replicate, List.nil_append,
    hdrop, hmin]
  simp only [List.append_assoc]

theorem set_eq_copyFromSlice {packet : List UInt8} {i : ℕ} (b : UInt8) (h : i < packet.length) :
    packet.set i b = copyFromSlice packet i [b] := by
  rw [copyFromSlice, List.set_eq_take_append_cons_drop, if_pos h, List.length_singleton,
    List.append_assoc, List.singleton_append]

/-- The header up to its checksum. -/
def heartbeatIpHead : List UInt8 := [0x45, 0, 0, 0x4c, 0xbb, 0xaa, 0, 0, 0x40, 0x01]

section Packet

variable (assignedIp heartbeatDst : Vector UInt8 4) (session : Vector UInt8 16)
  (opaqueTail : Vector UInt8 8)

/-- The header with this checksum. -/
def heartbeatIpPart (checksum : UInt16) : List UInt8 :=
  heartbeatIpHead ++ toBeBytes checksum ++ (assignedIp.toList ++ heartbeatDst.toList)

/-- The echo request after its checksum. -/
def heartbeatIcmpBody : List UInt8 :=
  txHeartbeatIcmpId ++ txHeartbeatIcmpSeq ++ txHeartbeatPayloadPrefix ++ session.toList
    ++ opaqueTail.toList ++ txHeartbeatPayloadSuffix

/-- The echo request with this checksum. -/
def heartbeatIcmpPart (checksum : UInt16) : List UInt8 :=
  [8, 0] ++ toBeBytes checksum ++ heartbeatIcmpBody session opaqueTail

theorem length_heartbeatIpHead : heartbeatIpHead.length = 10 := by
  simp [heartbeatIpHead]

theorem length_txHeartbeatIcmpId : txHeartbeatIcmpId.length = 2 := by
  simp [txHeartbeatIcmpId]

theorem length_txHeartbeatIcmpSeq : txHeartbeatIcmpSeq.length = 2 := by
  simp [txHeartbeatIcmpSeq]

theorem length_txHeartbeatPayloadPrefix : txHeartbeatPayloadPrefix.length = 18 := by
  simp [txHeartbeatPayloadPrefix]

theorem length_txHeartbeatPayloadSuffix : txHeartbeatPayloadSuffix.length = 6 := by
  simp [txHeartbeatPayloadSuffix]

attribute [local simp] length_heartbeatIpHead length_txHeartbeatIcmpId length_txHeartbeatIcmpSeq
  length_txHeartbeatPayloadPrefix length_txHeartbeatPayloadSuffix

@[simp] theorem length_heartbeatIpPart (checksum : UInt16) :
    (heartbeatIpPart assignedIp heartbeatDst checksum).length = 20 := by
  simp [heartbeatIpPart]

@[simp] theorem length_heartbeatIcmpPart (checksum : UInt16) :
    (heartbeatIcmpPart session opaqueTail checksum).length = 56 := by
  simp [heartbeatIcmpPart, heartbeatIcmpBody]

theorem heartbeatFields_eq :
    heartbeatFields assignedIp heartbeatDst session opaqueTail
      = heartbeatIpPart assignedIp heartbeatDst 0 ++ heartbeatIcmpPart session opaqueTail 0 := by
  -- the fields in front of the addresses are the same in every packet
  have hconst : ((copyFromSlice (copyFromSlice
      ((List.replicate txHeartbeatPacketLen 0).set 0 0x45) 2
        (toBeBytes (UInt16.ofNat txHeartbeatPacketLen))) 4 txHeartbeatIpv4Id).set 8
      txHeartbeatTtl).set 9 0x01 = heartbeatIpHead ++ List.replicate 66 0 := by decide
  have hset : ∀ {packet : List UInt8} {i : ℕ} (b : UInt8), packet.length = 76 → i < 76 →
      packet.set i b = copyFromSlice packet i [b] := by
    intro packet i b hlen hi
    exact set_eq_copyFromSlice b (hlen ▸ hi)
  have hzero : toBeBytes 0 = [0, 0] := rfl
  rw [heartbeatFields, hconst]
  simp (disch := simp) only [copyFromSlice_zeros, hset]
  simp [heartbeatIpPart, heartbeatIcmpPart, heartbeatIcmpBody, hzero]

/-- **The packet has two parts**, each with the checksum that was made while its field was zero. -/
theorem buildTxHeartbeatPacket_eq :
    buildTxHeartbeatPacket assignedIp heartbeatDst session opaqueTail
      = heartbeatIpPart assignedIp heartbeatDst
          (internetChecksum (heartbeatIpPart assignedIp heartbeatDst 0))
        ++ heartbeatIcmpPart session opaqueTail
          (internetChecksum (heartbeatIcmpPart session opaqueTail 0)) := by
  have hip : ∀ c, copyFromSlice (heartbeatIpPart assignedIp heartbeatDst 0
        ++ heartbeatIcmpPart session opaqueTail 0) 10 (toBeBytes c)
      = heartbeatIpPart assignedIp heartbeatDst c ++ heartbeatIcmpPart session opaqueTail 0 := by
    intro c
    rw [heartbeatIpPart, List.append_assoc heartbeatIpHead, List.append_assoc,
      List.append_assoc (toBeBytes 0)]
    rw [copyFromSlice_toBeBytes 0 c length_heartbeatIpHead, heartbeatIpPart]
    simp only [List.append_assoc]
  have hicmp : ∀ {front : List UInt8} (c : UInt16), front.length = 20 →
      copyFromSlice (front ++ heartbeatIcmpPart session opaqueTail 0) 22 (toBeBytes c)
        = front ++ heartbeatIcmpPart session opaqueTail c := by
    intro front c hfront
    have hstart : (front ++ [8, 0]).length = 22 := by
      rw [List.length_append, hfront]
      rfl
    rw [heartbeatIcmpPart, List.append_assoc [8, 0], ← List.append_assoc front,
      copyFromSlice_toBeBytes 0 c hstart, heartbeatIcmpPart]
    simp only [List.append_assoc]
  have hlen := length_heartbeatIpPart assignedIp heartbeatDst
  rw [buildTxHeartbeatPacket, heartbeatFields_eq]
  simp only [List.take_left' (hlen _), hip, List.drop_left' (hlen _), hicmp _ (hlen _)]

/-- Every field can be read from its place, whatever the checksums are. -/
theorem heartbeatParts_fields (c c' : UInt16) :
    let packet := heartbeatIpPart assignedIp heartbeatDst c
      ++ heartbeatIcmpPart session opaqueTail c'
    (packet.drop 2).take 2 = [0, 0x4c] ∧ (packet.drop 12).take 4 = assignedIp.toList
      ∧ (packet.drop 16).take 4 = heartbeatDst.toList
      ∧ (packet.drop 46).take 16 = session.toList
      ∧ (packet.drop 62).take 8 = opaqueTail.toList := by
  intro packet
  have hip : packet = (heartbeatIpHead ++ toBeBytes c) ++ (assignedIp.toList
      ++ (heartbeatDst.toList ++ heartbeatIcmpPart session opaqueTail c')) := by
    simp only [packet, heartbeatIpPart, List.append_assoc]
  have hdst : packet = (heartbeatIpHead ++ toBeBytes c ++ assignedIp.toList)
      ++ (heartbeatDst.toList ++ heartbeatIcmpPart session opaqueTail c') := by
    simp only [packet, heartbeatIpPart, List.append_assoc]
  have hsession : packet = (heartbeatIpPart assignedIp heartbeatDst c ++ [8, 0] ++ toBeBytes c'
        ++ txHeartbeatIcmpId ++ txHeartbeatIcmpSeq ++ txHeartbeatPayloadPrefix)
      ++ (session.toList ++ (opaqueTail.toList ++ txHeartbeatPayloadSuffix)) := by
    simp only [packet, heartbeatIcmpPart, heartbeatIcmpBody, List.append_assoc]
  have htail : packet = (heartbeatIpPart assignedIp heartbeatDst c ++ [8, 0] ++ toBeBytes c'
        ++ txHeartbeatIcmpId ++ txHeartbeatIcmpSeq ++ txHeartbeatPayloadPrefix ++ session.toList)
      ++ (opaqueTail.toList ++ txHeartbeatPayloadSuffix) := by
    simp only [packet, heartbeatIcmpPart, heartbeatIcmpBody, List.append_assoc]
  refine ⟨rfl, ?_, ?_, ?_, ?_⟩
  · rw [hip, take_drop_field (by simp) (by simp)]
  · rw [hdst, take_drop_field (by simp) (by simp)]
  · rw [hsession, take_drop_field (by simp) (by simp)]
  · rw [htail, take_drop_field (by simp) (by simp)]

end Packet

/-! ## Validity -/

/-- The loop of the folding is left after finitely many rounds. -/
theorem exists_foldCarries_eq (sum : UInt32) :
    ∃ rounds, foldCarries sum = carryOnce^[rounds] sum ∧ foldCarries sum >>> 16 = 0 := by
  fun_induction foldCarries sum with
  | case1 sum _ ih =>
    obtain ⟨rounds, hrounds, hend⟩ := ih
    exact ⟨rounds + 1, hrounds, hend⟩
  | case2 sum h => exact ⟨0, rfl, not_not.mp h⟩

/-- A checksum stored into a zeroed field at an even offset verifies. -/
theorem internetChecksum_copyFromSlice {data : List UInt8} {field : ℕ}
    (hlen : data.length ≤ 65536) (hfield : Even field) (hzero : (data.drop field).take 2 = [0, 0]) :
    internetChecksum (copyFromSlice data field (toBeBytes (internetChecksum data))) = 0 := by
  have hle : field ≤ data.length := by
    by_contra hlt
    rw [List.drop_eq_nil_of_le (by omega)] at hzero
    simp at hzero
  have hsplit : data.take field ++ toBeBytes 0 ++ data.drop (field + 2) = data := by
    have hbytes : toBeBytes 0 = (data.drop field).take 2 := hzero.symm
    rw [hbytes, List.append_assoc, ← List.drop_drop, List.take_append_drop, List.take_append_drop]
  have hfront : (data.take field).length = field := List.length_take_of_le hle
  generalize data.take field = front at hsplit hfront
  generalize data.drop (field + 2) = back at hsplit
  subst hsplit hfront
  have hstored := internetChecksum_stored hfield hlen
  generalize internetChecksum (front ++ toBeBytes 0 ++ back) = checksum at hstored ⊢
  rw [List.append_assoc front, copyFromSlice_toBeBytes 0 checksum rfl, ← List.append_assoc front]
  exact hstored

/-- **Heartbeat packets are valid.** Every packet has the length it says, both of its checksums
verify, and the addresses, the session and the tail are where they belong.

The rest is about all buffers. A checksum is the complement of the end-around sum of the words, so
it is 0 exactly if the words add up to all ones. Nothing overflows while it is made, the folding
comes to an end, and the checksum verifies once it is stored. -/
theorem txHeartbeatPacket_valid :
    (∀ (assignedIp heartbeatDst : Vector UInt8 4) (session : Vector UInt8 16)
      (opaqueTail : Vector UInt8 8),
      let packet := buildTxHeartbeatPacket assignedIp heartbeatDst session opaqueTail
      (∃ high low, (packet.drop 2).take 2 = [high, low]
          ∧ (fromBeBytes high low).toNat = packet.length)
        ∧ internetChecksum (packet.take 20) = 0 ∧ internetChecksum (packet.drop 20) = 0
        ∧ (packet.drop 12).take 4 = assignedIp.toList
        ∧ (packet.drop 16).take 4 = heartbeatDst.toList
        ∧ (packet.drop 46).take 16 = session.toList
        ∧ (packet.drop 62).take 8 = opaqueTail.toList)
    ∧ (∀ data : List UInt8, data.length ≤ 65536 → ∃ r, IsFolded 65536 (wordSum data) r
        ∧ (internetChecksum data).toNat = 65535 - r)
    ∧ ∀ (data : List UInt8) (field : ℕ), data.length ≤ 65536 → Even field →
      (data.drop field).take 2 = [0, 0] →
      (sumWords 0 data).toNat = wordSum data
        ∧ (∃ rounds, foldCarries (sumWords 0 data) = carryOnce^[rounds] (sumWords 0 data)
          ∧ foldCarries (sumWords 0 data) >>> 16 = 0)
        ∧ internetChecksum (copyFromSlice data field (toBeBytes (internetChecksum data))) = 0 := by
  refine ⟨?_, ?_, ?_⟩
  · intro assignedIp heartbeatDst session opaqueTail packet
    have hpacket : packet = _ :=
      buildTxHeartbeatPacket_eq assignedIp heartbeatDst session opaqueTail
    have hlen := length_heartbeatIpPart assignedIp heartbeatDst
    have hlen' := length_heartbeatIcmpPart session opaqueTail
    obtain ⟨htotal, hip, hdst, hsession, htail⟩ :=
      heartbeatParts_fields assignedIp heartbeatDst session opaqueTail
        (internetChecksum (heartbeatIpPart assignedIp heartbeatDst 0))
        (internetChecksum (heartbeatIcmpPart session opaqueTail 0))
    rw [← hpacket] at htotal hip hdst hsession htail
    refine ⟨⟨0, 0x4c, htotal, ?_⟩, ?_, ?_, hip, hdst, hsession, htail⟩
    · rw [hpacket, List.length_append, hlen, hlen']
      rfl
    · rw [hpacket, List.take_left' (hlen _)]
      exact internetChecksum_stored (by decide) ((hlen 0).trans_le (by decide))
    · rw [hpacket, List.drop_left' (hlen _)]
      exact internetChecksum_stored (by decide) ((hlen' 0).trans_le (by decide))
  · intro data hlen
    have hfold := isFolded_foldCarries (sumWords 0 data)
    rw [toNat_sumWords_zero hlen] at hfold
    exact ⟨_, hfold, internetChecksum_eq hlen hfold⟩
  · intro data field hlen hfield hzero
    exact ⟨toNat_sumWords_zero hlen, exists_foldCarries_eq _,
      internetChecksum_copyFromSlice hlen hfield hzero⟩

/-- The packet of the capture, two words whose sum is carried around, and a buffer of zeros, whose
checksum is all ones. -/
theorem txHeartbeatPacket_valid_captured :
    internetChecksum ((buildTxHeartbeatPacket #v[10, 166, 80, 12] #v[10, 166, 64, 3]
        #v[0x65, 0x61, 0x62, 0x32, 0x37, 0x63, 0x64, 0x66, 0x37, 0x63, 0x32, 0x34, 0x61, 0x34, 0x30,
          0x66]
        #v[0x03, 0xa2, 0x16, 0x5a, 0xd5, 0x3d, 0x79, 0xb8]).take 20) = 0
      ∧ (∃ r, IsFolded 65536 0x1fffd r
        ∧ (internetChecksum [0xff, 0xff, 0xff, 0xfe]).toNat = 65535 - r)
      ∧ internetChecksum (copyFromSlice [0, 0, 0, 0] 2
        (toBeBytes (internetChecksum [0, 0, 0, 0]))) = 0 :=
  ⟨(txHeartbeatPacket_valid.1 _ _ _ _).2.1,
    txHeartbeatPacket_valid.2.1 [0xff, 0xff, 0xff, 0xfe] (by decide),
    (txHeartbeatPacket_valid.2.2 [0, 0, 0, 0] 2 (by decide) (by decide) rfl).2.2⟩

end ShiepPipeline
