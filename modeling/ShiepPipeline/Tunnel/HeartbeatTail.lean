import ShiepPipeline.Numeric.Mixing
import ShiepPipeline.Tunnel.CommandStream

/-!
# The tail of the heartbeats

The heartbeat packets of a runtime end in eight bytes that are made once, of the clock, the process,
the address and the token, by a mixing function that is used elsewhere for random numbers.

The mixing can be undone. `txHeartbeatPacket_eq_iff` says when two runtimes for one session send the
same heartbeats, and `newHeartbeatTail_inj` that a token that differs in one place has another tail.
-/

open Function Mixing

namespace ShiepPipeline

/-! ## Numbers -/

/-- `u64::rotate_left`. -/
def rotateLeft (x : UInt64) (n : ℕ) : UInt64 := ⟨x.toBitVec.rotateLeft n⟩

/-- `u64::from_le_bytes`. -/
def fromLeBytes64 (bytes : List UInt8) : UInt64 := UInt64.ofNat (fromLeBytes bytes)

/-- `u64::to_le_bytes`. -/
def toLeBytes64 (x : UInt64) : Vector UInt8 8 :=
  #v[x.toUInt8, (x >>> 8).toUInt8, (x >>> 16).toUInt8, (x >>> 24).toUInt8, (x >>> 32).toUInt8,
    (x >>> 40).toUInt8, (x >>> 48).toUInt8, (x >>> 56).toUInt8]

/-- `u32::from_be_bytes`. -/
def fromBeBytes32 (bytes : Vector UInt8 4) : UInt32 :=
  UInt32.ofNat (fromLeBytes bytes.toList.reverse)

/-- `slice::chunks`. -/
def chunksOf (n : ℕ) (data : List UInt8) : List (List UInt8) :=
  if _h : 0 < n ∧ data ≠ [] then data.take n :: chunksOf n (data.drop n) else []
termination_by data.length
decreasing_by
  have hpos := List.length_pos_iff.mpr _h.2
  rw [List.length_drop]
  omega

def splitmix64 (x : UInt64) : UInt64 :=
  let x := x + 0x9e3779b97f4a7c15
  let x := (x ^^^ (x >>> 30)) * 0xbf58476d1ce4e5b9
  let x := (x ^^^ (x >>> 27)) * 0x94d049bb133111eb
  x ^^^ (x >>> 31)

/-! ## The tail -/

/-- The number of nanoseconds since the epoch, in 64 bits, and zero if there is none. -/
def nanosOf (sinceEpoch : Option ℕ) : UInt64 := (sinceEpoch.map UInt64.ofNat).getD 0

/-- What the clock, the process and the address come to. -/
def tailSeed (sinceEpoch : Option ℕ) (pid : UInt32) (assignedIp : Vector UInt8 4) : UInt64 :=
  nanosOf sinceEpoch ^^^ (pid.toUInt64 <<< 32) ^^^ (fromBeBytes32 assignedIp).toUInt64

/-- The body of the loop over the token. -/
def mixChunk (seed : UInt64) (chunk : List UInt8) : UInt64 :=
  splitmix64 (seed ^^^ rotateLeft (fromLeBytes64 chunk) 13)

def newHeartbeatTail (sinceEpoch : Option ℕ) (pid : UInt32)
    (token : Vector UInt8 protocolTokenLen) (assignedIp : Vector UInt8 4) : Vector UInt8 8 :=
  toLeBytes64 (splitmix64
    ((chunksOf 8 token.toList).foldl mixChunk (tailSeed sinceEpoch pid assignedIp)))

structure TunnelRuntimeParams where
  authority : String
  host : String
  token : Vector UInt8 protocolTokenLen
  assignedIp : Vector UInt8 4
  ipRev : Vector UInt8 4
  heartbeatDst : Vector UInt8 4
  heartbeatTail : Vector UInt8 8

namespace TunnelRuntimeParams

/-- `TunnelRuntimeParams::new`, with the clock and the process as arguments. -/
def new (sinceEpoch : Option ℕ) (pid : UInt32) (authority host : String)
    (token : Vector UInt8 protocolTokenLen) (ips : TunnelIps) : TunnelRuntimeParams where
  authority
  host
  token
  assignedIp := ips.assignedIp
  ipRev := ips.assignedIp.reverse
  heartbeatDst := ips.lanIp
  heartbeatTail := newHeartbeatTail sinceEpoch pid token ips.assignedIp

variable (runtime : TunnelRuntimeParams)

def txHeartbeatPacket : List UInt8 :=
  buildTxHeartbeatPacket runtime.assignedIp runtime.heartbeatDst (heartbeatSession runtime.token)
    runtime.heartbeatTail

def openStream (profile : StreamProfile) : Program.Fallible EcError DialOp DialAns Unit :=
  openDataStreamWithRetries
    ⟨runtime.authority, runtime.host, runtime.token, runtime.ipRev, profile, .first⟩ .firstOpen

def reopenStream (profile : StreamProfile) (retries : ℕ) :
    Program.Fallible EcError DialOp DialAns Unit :=
  openDataStreamWithRetries
    ⟨runtime.authority, runtime.host, runtime.token, runtime.ipRev, profile, .resume⟩
    (.reconnect retries)

end TunnelRuntimeParams

/-! ## The mixing can be undone -/

theorem toBitVec_injective : Injective UInt64.toBitVec := fun _ _ ↦ UInt64.toBitVec_inj.mp

/-- A function on numbers that does to their bits what can be undone. -/
theorem injective_of_toBitVec {f : UInt64 → UInt64} {g : BitVec 64 → BitVec 64} (hg : Injective g)
    (h : ∀ x, (f x).toBitVec = g x.toBitVec) : Injective f := by
  intro x y hxy
  apply toBitVec_injective
  apply hg
  rw [← h, ← h, hxy]

theorem xorShift_injective64 {k : UInt64} (hk : 0 < k.toNat) (hk' : k.toNat < 64) :
    Injective fun x : UInt64 ↦ x ^^^ (x >>> k) := by
  refine injective_of_toBitVec (xorShift_injective hk) fun x ↦ ?_
  apply BitVec.eq_of_toNat_eq
  rw [xorShift, BitVec.toNat_xor, BitVec.toNat_ushiftRight]
  change (x ^^^ (x >>> k)).toNat = x.toNat ^^^ (x.toNat >>> k.toNat)
  rw [UInt64.toNat_xor, UInt64.toNat_shiftRight, Nat.mod_eq_of_lt hk']

theorem mul_injective64 {c d : UInt64} (h : c * d = 1) : Injective fun x : UInt64 ↦ x * c := by
  refine injective_of_toBitVec (mul_injective (c := c.toBitVec) (d := d.toBitVec) ?_)
    fun x ↦ UInt64.toBitVec_mul
  rw [← UInt64.toBitVec_mul, h]
  rfl

theorem xor_injective64 (c : UInt64) : Injective fun x : UInt64 ↦ c ^^^ x := by
  intro x y h
  apply UInt64.toBitVec_inj.mp
  exact (BitVec.xor_right_inj c.toBitVec).mp (congrArg UInt64.toBitVec h)

theorem splitmix64_injective : Injective splitmix64 := by
  have hadd : Injective fun x : UInt64 ↦ x + 0x9e3779b97f4a7c15 := by
    intro x y h
    exact UInt64.add_left_inj _ |>.mp h
  have hmul : Injective fun x : UInt64 ↦ x * 0xbf58476d1ce4e5b9 :=
    mul_injective64 (d := 0x96de1b173f119089) rfl
  have hmul' : Injective fun x : UInt64 ↦ x * 0x94d049bb133111eb :=
    mul_injective64 (d := 0x319642b2d24d8ec3) rfl
  exact (xorShift_injective64 (k := 31) (by decide) (by decide)).comp <| hmul'.comp <|
    (xorShift_injective64 (k := 27) (by decide) (by decide)).comp <| hmul.comp <|
    (xorShift_injective64 (k := 30) (by decide) (by decide)).comp hadd

theorem fromLeBytes_lt (bytes : List UInt8) : fromLeBytes bytes < 256 ^ bytes.length := by
  induction bytes with
  | nil => exact Nat.one_pos
  | cons b bytes ih =>
    have hb := b.toNat_lt
    rw [fromLeBytes, List.length_cons, Nat.pow_succ]
    omega

theorem eq_of_fromLeBytes_eq {bytes bytes' : List UInt8} (hlen : bytes.length = bytes'.length)
    (h : fromLeBytes bytes = fromLeBytes bytes') : bytes = bytes' := by
  induction bytes generalizing bytes' with
  | nil => exact (List.length_eq_zero_iff.mp hlen.symm).symm
  | cons b bytes ih =>
    obtain _ | ⟨b', bytes'⟩ := bytes'
    · cases hlen
    · have hb := b.toNat_lt
      have hb' := b'.toNat_lt
      rw [fromLeBytes, fromLeBytes] at h
      rw [UInt8.toNat_inj.mp (show b.toNat = b'.toNat by omega),
        ih (Nat.succ.inj hlen) (by omega)]

theorem eq_of_fromLeBytes64_eq {bytes bytes' : List UInt8} (hlen : bytes.length = 8)
    (hlen' : bytes'.length = 8) (h : fromLeBytes64 bytes = fromLeBytes64 bytes') :
    bytes = bytes' := by
  have hlt := fromLeBytes_lt bytes
  have hlt' := fromLeBytes_lt bytes'
  rw [hlen] at hlt
  rw [hlen'] at hlt'
  refine eq_of_fromLeBytes_eq (hlen.trans hlen'.symm) ?_
  rw [← Nat.mod_eq_of_lt hlt, ← Nat.mod_eq_of_lt hlt']
  have hnat := congrArg UInt64.toNat h
  rwa [fromLeBytes64, fromLeBytes64, UInt64.toNat_ofNat', UInt64.toNat_ofNat'] at hnat

theorem fromLeBytes_toLeBytes64 (x : UInt64) : fromLeBytes (toLeBytes64 x).toList = x.toNat := by
  have hx := x.toNat_lt
  change fromLeBytes [x.toUInt8, (x >>> 8).toUInt8, (x >>> 16).toUInt8, (x >>> 24).toUInt8,
    (x >>> 32).toUInt8, (x >>> 40).toUInt8, (x >>> 48).toUInt8, (x >>> 56).toUInt8] = x.toNat
  simp only [fromLeBytes, UInt64.toNat_toUInt8, UInt64.toNat_shiftRight, UInt64.reduceToNat,
    Nat.reduceMod, Nat.shiftRight_eq_div_pow, Nat.reducePow, Nat.mul_zero, Nat.add_zero]
  omega

theorem toLeBytes64_injective : Injective toLeBytes64 := by
  intro x y h
  apply UInt64.toNat_inj.mp
  rw [← fromLeBytes_toLeBytes64, h, fromLeBytes_toLeBytes64]

/-- What is mixed in is told apart by the result, and so is what it is mixed into. -/
theorem mixChunk_injective (chunk : List UInt8) : Injective fun seed ↦ mixChunk seed chunk := by
  intro seed seed' h
  have hxor := splitmix64_injective h
  rw [UInt64.xor_comm, UInt64.xor_comm seed'] at hxor
  exact xor_injective64 _ hxor

theorem eq_of_mixChunk_eq {seed : UInt64} {chunk chunk' : List UInt8} (hlen : chunk.length = 8)
    (hlen' : chunk'.length = 8) (h : mixChunk seed chunk = mixChunk seed chunk') :
    chunk = chunk' := by
  have hrotate := xor_injective64 _ (splitmix64_injective h)
  refine eq_of_fromLeBytes64_eq hlen hlen' (toBitVec_injective ?_)
  exact rotateLeft_injective (by decide) (congrArg UInt64.toBitVec hrotate)

theorem chunksOf_append {n : ℕ} (hn : 0 < n) {chunk : List UInt8} (hlen : chunk.length = n)
    (data : List UInt8) : chunksOf n (chunk ++ data) = chunk :: chunksOf n data := by
  have hne : chunk ++ data ≠ [] := by
    intro h
    rw [(List.append_eq_nil_iff.mp h).1] at hlen
    exact hn.ne hlen
  rw [chunksOf, dif_pos ⟨hn, hne⟩, List.take_left' hlen, List.drop_left' hlen]

theorem chunksOf_append_of_dvd {n k : ℕ} (hn : 0 < n) {front : List UInt8}
    (hlen : front.length = n * k) (data : List UInt8) :
    chunksOf n (front ++ data) = chunksOf n front ++ chunksOf n data := by
  induction k generalizing front with
  | zero =>
    obtain rfl := List.length_eq_zero_iff.mp hlen
    have hnil : chunksOf n [] = [] := by rw [chunksOf, dif_neg (fun h ↦ h.2 rfl)]
    rw [List.nil_append, hnil, List.nil_append]
  | succ k ih =>
    rw [Nat.mul_succ] at hlen
    have hchunk : (front.take n).length = n := by
      rw [List.length_take]
      omega
    rw [← List.take_append_drop n front, List.append_assoc, chunksOf_append hn hchunk,
      ih (by rw [List.length_drop]; omega), chunksOf_append hn hchunk, List.cons_append]

/-! ## What the tail tells apart -/

section Tail

variable {t t' : Option ℕ} {pid pid' : UInt32} {token token' : Vector UInt8 protocolTokenLen}

/-- The clock, the process and the address. -/
theorem newHeartbeatTail_eq_iff {ip ip' : Vector UInt8 4} :
    newHeartbeatTail t pid token ip = newHeartbeatTail t' pid' token ip'
      ↔ tailSeed t pid ip = tailSeed t' pid' ip' := by
  constructor
  · intro h
    exact foldl_injective mixChunk_injective _ (splitmix64_injective (toLeBytes64_injective h))
  · intro h
    rw [newHeartbeatTail, newHeartbeatTail, h]

/-- **One place of the token**: two tokens that differ in eight bytes, from a multiple of eight on,
have different tails. -/
theorem newHeartbeatTail_inj {ip : Vector UInt8 4} {front chunk chunk' back : List UInt8}
    (htoken : token.toList = front ++ chunk ++ back)
    (htoken' : token'.toList = front ++ chunk' ++ back) (hfront : 8 ∣ front.length)
    (hlen : chunk.length = 8) (hlen' : chunk'.length = 8) :
    newHeartbeatTail t pid token ip = newHeartbeatTail t pid token' ip ↔ token = token' := by
  constructor
  · intro h
    obtain ⟨k, hk⟩ := hfront
    have hmixed := splitmix64_injective (toLeBytes64_injective h)
    rw [htoken, htoken', List.append_assoc, List.append_assoc,
      chunksOf_append_of_dvd (by decide) hk, chunksOf_append_of_dvd (by decide) hk,
      chunksOf_append (by decide) hlen, chunksOf_append (by decide) hlen'] at hmixed
    have hchunk := eq_of_mixChunk_eq hlen hlen' (eq_of_foldl_append_cons mixChunk_injective hmixed)
    rw [← Vector.toList_inj, htoken, htoken', hchunk]
  · rintro rfl
    rfl

theorem newHeartbeatTail_inj_letters :
    newHeartbeatTail none 7 (.replicate _ 0x61) #v[10, 0, 0, 7]
      ≠ newHeartbeatTail none 7 ((.replicate _ 0x61 : Vector UInt8 protocolTokenLen).set 9 0x62)
        #v[10, 0, 0, 7] := by
  have htoken : (.replicate _ 0x61 : Vector UInt8 protocolTokenLen).toList
      = List.replicate 8 0x61 ++ List.replicate 8 0x61 ++ List.replicate 32 0x61 := rfl
  have htoken' : ((.replicate _ 0x61 : Vector UInt8 protocolTokenLen).set 9 0x62).toList
      = List.replicate 8 0x61 ++ (0x61 :: 0x62 :: List.replicate 6 0x61)
        ++ List.replicate 32 0x61 := rfl
  intro h
  exact absurd ((newHeartbeatTail_inj htoken htoken' ⟨1, rfl⟩ rfl rfl).mp h) (by decide)

/-- **Two runtimes for one session**, at whatever times and in whatever processes they are started,
send the same heartbeats exactly if their clocks and processes come to the same number. -/
theorem txHeartbeatPacket_eq_iff {authority authority' host host' : String} {ips : TunnelIps} :
    (TunnelRuntimeParams.new t pid authority host token ips).txHeartbeatPacket
        = (TunnelRuntimeParams.new t' pid' authority' host' token ips).txHeartbeatPacket
      ↔ nanosOf t ^^^ (pid.toUInt64 <<< 32) = nanosOf t' ^^^ (pid'.toUInt64 <<< 32) := by
  have hseed : tailSeed t pid ips.assignedIp = tailSeed t' pid' ips.assignedIp
      ↔ nanosOf t ^^^ (pid.toUInt64 <<< 32) = nanosOf t' ^^^ (pid'.toUInt64 <<< 32) := by
    constructor
    · intro h
      rw [tailSeed, tailSeed, UInt64.xor_comm, UInt64.xor_comm (nanosOf t' ^^^ _)] at h
      exact xor_injective64 _ h
    · intro h
      rw [tailSeed, tailSeed, h]
  have hsame : newHeartbeatTail t pid token ips.assignedIp
      = newHeartbeatTail t' pid' token ips.assignedIp ↔ _ := newHeartbeatTail_eq_iff
  rw [← hseed, ← hsame]
  constructor
  · intro h
    have htail := congrArg (fun packet ↦ (packet.drop 62).take 8) h
    dsimp only [TunnelRuntimeParams.txHeartbeatPacket, TunnelRuntimeParams.new] at htail
    rw [buildTxHeartbeatPacket_eq, buildTxHeartbeatPacket_eq] at htail
    rw [(heartbeatParts_fields _ _ _ _ _ _).2.2.2.2,
      (heartbeatParts_fields _ _ _ _ _ _).2.2.2.2] at htail
    exact Vector.toList_inj.mp htail
  · intro h
    rw [TunnelRuntimeParams.txHeartbeatPacket, TunnelRuntimeParams.txHeartbeatPacket]
    dsimp only [TunnelRuntimeParams.new]
    rw [h]

end Tail

end ShiepPipeline
