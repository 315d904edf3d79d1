import Mathlib.Data.List.Basic
import ShiepPipeline.Socks.Wire

/-!
# The header of a datagram

`parseSocksUdpPacketIndexed` is the parser with the offsets and the bounds checks of the source, in
which an access beyond the end of the datagram gives nothing. It never gives nothing, and it agrees
with `parseSocksUdpPacket`, which takes the datagram apart from the front. What that accepts is the
grammar `UdpAddress`.
-/

open Net Utf8

namespace ShiepPipeline

/-! ## Access by index -/

/-- A result or an error, unless there was an access out of range. -/
abbrev Indexed (α : Type) := ExceptT EcError Option α

/-- `data[i]`. -/
def byteAt (data : List UInt8) (i : ℕ) : Indexed UInt8 := ExceptT.lift data[i]?

/-- `data[start..stop]`. -/
def slice (data : List UInt8) (start stop : ℕ) : Indexed (List UInt8) :=
  if start ≤ stop ∧ stop ≤ data.length then return (data.take stop).drop start
  else ExceptT.mk none

/-- The address at `offset`, and the offset behind it. -/
def parseUdpHostIndexed (data : List UInt8) (offset : ℕ) (atyp : UInt8) :
    Indexed (String × ℕ) :=
  if atyp = socksAtypIpv4 then
    if data.length < offset + 4 then throw (.runtime "udp ipv4 address is truncated")
    else do
      let a ← byteAt data offset
      let b ← byteAt data (offset + 1)
      let c ← byteAt data (offset + 2)
      let d ← byteAt data (offset + 3)
      return (Ipv4Addr.display ⟨a, b, c, d⟩, offset + 4)
  else if atyp = socksAtypDomain then
    if data.length < offset + 1 then throw (.runtime "udp domain length is truncated")
    else do
      let len ← byteAt data offset
      if data.length < offset + 1 + len.toNat then throw (.runtime "udp domain is truncated")
      else do
        let domain ← slice data (offset + 1) (offset + 1 + len.toNat)
        match fromUtf8 domain with
        | .ok domain => return (domain, offset + 1 + len.toNat)
        | .error e => throw (.runtime s!"invalid udp domain utf8: {e}")
  else if atyp = socksAtypIpv6 then
    throw (.runtime "udp ipv6 targets are not supported yet")
  else throw (.runtime s!"unsupported udp atyp: 0x{hexByte atyp}")

def parseSocksUdpPacketIndexed (data : List UInt8) : Indexed SocksUdpPacket :=
  if data.length < 4 then throw (.runtime "udp packet header is too short")
  else do
    let rsv₀ ← byteAt data 0
    let rsv₁ ← byteAt data 1
    if rsv₀ ≠ 0 ∨ rsv₁ ≠ 0 then
      throw (.runtime "udp packet with non-zero RSV is not supported")
    else do
      let frag ← byteAt data 2
      if frag ≠ 0 then throw (.runtime "fragmented udp packet is not supported")
      else do
        let atyp ← byteAt data 3
        let (host, offset) ← parseUdpHostIndexed data 4 atyp
        if data.length < offset + 2 then throw (.runtime "udp port is truncated")
        else do
          let high ← byteAt data offset
          let low ← byteAt data (offset + 1)
          let payload ← slice data (offset + 2) data.length
          return ⟨⟨host, fromBeBytes high low⟩, payload⟩

@[simp] theorem byteAt_append (front rest : List UInt8) (i : ℕ) :
    byteAt (front ++ rest) (front.length + i) = byteAt rest i := by
  rw [byteAt, List.getElem?_append_right (Nat.le_add_right ..), Nat.add_sub_cancel_left, byteAt]

@[simp] theorem byteAt_append_zero (front rest : List UInt8) (b : UInt8) :
    byteAt (front ++ b :: rest) front.length = pure b := by
  rw [byteAt, List.getElem?_append_right le_rfl, Nat.sub_self]
  rfl

@[simp] theorem byteAt_cons_zero (b : UInt8) (rest : List UInt8) :
    byteAt (b :: rest) 0 = pure b := by
  rw [byteAt, List.getElem?_cons_zero]
  rfl

@[simp] theorem byteAt_cons_succ (b : UInt8) (rest : List UInt8) (i : ℕ) :
    byteAt (b :: rest) (i + 1) = byteAt rest i := by
  rw [byteAt, List.getElem?_cons_succ, byteAt]

@[simp] theorem slice_append (front rest : List UInt8) (start stop : ℕ) :
    slice (front ++ rest) (front.length + start) (front.length + stop) = slice rest start stop := by
  have hfront : (front.take (front.length + stop)).drop (front.length + start) = [] := by
    rw [List.take_of_length_le (by omega), List.drop_eq_nil_of_le (by omega)]
  rw [slice, slice, List.take_append, List.drop_append, hfront]
  simp

@[simp] theorem slice_cons_succ (b : UInt8) (rest : List UInt8) (start stop : ℕ) :
    slice (b :: rest) (start + 1) (stop + 1) = slice rest start stop := by
  simp [slice]

theorem slice_zero {data : List UInt8} {stop : ℕ} (h : stop ≤ data.length) :
    slice data 0 stop = pure (data.take stop) :=
  if_pos ⟨Nat.zero_le _, h⟩

/-! ## The two parsers -/

/-- Both parsers of an address fail with the same error, or both reach the same place. -/
def HostsAgree (front rest : List UInt8) (atyp : UInt8) : Prop :=
  (∃ e, parseUdpHost atyp rest = .error e
      ∧ parseUdpHostIndexed (front ++ rest) front.length atyp = throw e)
    ∨ ∃ host front' rest', parseUdpHost atyp rest = .ok (host, rest')
      ∧ front ++ rest = front' ++ rest'
      ∧ parseUdpHostIndexed (front ++ rest) front.length atyp
        = pure (host, front'.length)

theorem hostsAgree_ipv4 (front rest : List UInt8) : HostsAgree front rest socksAtypIpv4 := by
  -- four bytes are an address, and fewer are an error
  obtain _ | ⟨a, _ | ⟨b, _ | ⟨c, _ | ⟨d, rest⟩⟩⟩⟩ := rest
  iterate 4
    refine .inl ⟨_, rfl, ?_⟩
    rw [parseUdpHostIndexed, if_pos rfl, if_pos (by simp)]
  refine .inr ⟨_, front ++ [a, b, c, d], rest, rfl, by simp, ?_⟩
  rw [parseUdpHostIndexed, if_pos rfl, if_neg (by simp)]
  simp

theorem hostsAgree_domain (front rest : List UInt8) : HostsAgree front rest socksAtypDomain := by
  have hipv4 : socksAtypDomain ≠ socksAtypIpv4 := by decide
  obtain _ | ⟨len, rest⟩ := rest
  · refine .inl ⟨_, rfl, ?_⟩
    rw [parseUdpHostIndexed, if_neg hipv4, if_pos rfl, if_pos (by simp)]
  rw [HostsAgree, parseUdpHostIndexed, if_neg hipv4, if_pos rfl, if_neg (by simp),
    byteAt_append_zero, pure_bind, parseUdpHost.eq_def, if_neg hipv4, if_pos rfl]
  dsimp only
  by_cases hlen : rest.length < len.toNat
  · refine .inl ⟨_, if_pos hlen, if_pos ?_⟩
    simp
    omega
  have hslice : slice (front ++ len :: rest) (front.length + 1) (front.length + (1 + len.toNat))
      = pure (rest.take len.toNat) := by
    rw [slice_append, Nat.add_comm, ← slice_zero (by omega), slice_cons_succ]
  have hbounds : ¬ (front ++ len :: rest).length < front.length + 1 + len.toNat := by
    simp
    omega
  rw [if_neg hlen, if_neg hbounds, Nat.add_assoc, hslice, pure_bind]
  obtain e | domain := fromUtf8 (rest.take len.toNat)
  · exact .inl ⟨_, rfl, rfl⟩
  · refine .inr ⟨domain, front ++ len :: rest.take len.toNat, rest.drop len.toNat, rfl, ?_, ?_⟩
    · simp
    · have hend : (front ++ len :: rest.take len.toNat).length
          = front.length + (1 + len.toNat) := by
        rw [List.length_append, List.length_cons, List.length_take]
        omega
      rw [hend]

theorem hostsAgree (front rest : List UInt8) (atyp : UInt8) : HostsAgree front rest atyp := by
  by_cases hipv4 : atyp = socksAtypIpv4
  · exact hipv4 ▸ hostsAgree_ipv4 front rest
  by_cases hdomain : atyp = socksAtypDomain
  · exact hdomain ▸ hostsAgree_domain front rest
  -- the other types are refused, and one of them with a text of its own
  by_cases hipv6 : atyp = socksAtypIpv6
  · subst hipv6
    exact .inl ⟨_, rfl, rfl⟩
  · refine .inl ⟨.runtime s!"unsupported udp atyp: 0x{hexByte atyp}", ?_, ?_⟩
    · rw [parseUdpHost.eq_def, if_neg hipv4, if_neg hdomain, if_neg hipv6]
    · rw [parseUdpHostIndexed, if_neg hipv4, if_neg hdomain, if_neg hipv6]

/-- **No access is out of range**, and the two parsers agree. -/
theorem parseSocksUdpPacketIndexed_eq (data : List UInt8) :
    parseSocksUdpPacketIndexed data = ExceptT.mk (some (parseSocksUdpPacket data)) := by
  obtain _ | ⟨rsv₀, _ | ⟨rsv₁, _ | ⟨frag, _ | ⟨atyp, rest⟩⟩⟩⟩ := data
  iterate 4 rfl
  have hrsv₀ : byteAt (rsv₀ :: rsv₁ :: frag :: atyp :: rest) 0 = pure rsv₀ := rfl
  have hrsv₁ : byteAt (rsv₀ :: rsv₁ :: frag :: atyp :: rest) 1 = pure rsv₁ := rfl
  have hfrag : byteAt (rsv₀ :: rsv₁ :: frag :: atyp :: rest) 2 = pure frag := rfl
  have hatyp : byteAt (rsv₀ :: rsv₁ :: frag :: atyp :: rest) 3 = pure atyp := rfl
  rw [parseSocksUdpPacketIndexed, parseSocksUdpPacket, if_neg (by simp), hrsv₀, hrsv₁, hfrag,
    hatyp]
  simp only [pure_bind]
  by_cases hrsv : rsv₀ ≠ 0 ∨ rsv₁ ≠ 0
  · rw [if_pos hrsv, if_pos hrsv]
    rfl
  by_cases hfirst : frag ≠ 0
  · rw [if_neg hrsv, if_neg hrsv, if_pos hfirst, if_pos hfirst]
    rfl
  rw [if_neg hrsv, if_neg hrsv, if_neg hfirst, if_neg hfirst]
  obtain ⟨e, hparse, hindexed⟩ | ⟨host, front, rest', hparse, hsplit, hindexed⟩ :=
    hostsAgree [rsv₀, rsv₁, frag, atyp] rest atyp
  · change parseUdpHostIndexed (rsv₀ :: rsv₁ :: frag :: atyp :: rest) 4 atyp = _ at hindexed
    rw [hparse, hindexed]
    rfl
  · change parseUdpHostIndexed (rsv₀ :: rsv₁ :: frag :: atyp :: rest) 4 atyp = _ at hindexed
    change rsv₀ :: rsv₁ :: frag :: atyp :: rest = _ at hsplit
    rw [hparse, hindexed, hsplit, pure_bind]
    dsimp only
    -- the port is read at the offset where the address ends
    obtain _ | ⟨high, _ | ⟨low, payload⟩⟩ := rest'
    · rw [if_pos (by simp)]
      rfl
    · rw [if_pos (by simp)]
      rfl
    have hpayload : slice (front ++ high :: low :: payload) (front.length + 2)
        (front ++ high :: low :: payload).length = pure payload := by
      rw [List.length_append, slice_append, List.length_cons, List.length_cons, slice_cons_succ,
        slice_cons_succ, slice_zero le_rfl, List.take_length]
    rw [if_neg (by simp), byteAt_append_zero, byteAt_append, hpayload]
    rfl

/-! ## The grammar -/

/-- The bytes that name a host. -/
inductive UdpAddress : String → List UInt8 → Prop
  | ipv4 (ip : Ipv4Addr) : UdpAddress ip.display (socksAtypIpv4 :: ip.octets)
  | domain (len : UInt8) (text : String) (h : (asBytes text).length = len.toNat) :
    UdpAddress text (socksAtypDomain :: len :: asBytes text)

theorem UdpAddress.exists_cons {host : String} {addr : List UInt8} (h : UdpAddress host addr) :
    ∃ atyp addr', addr = atyp :: addr' := by
  cases h <;> exact ⟨_, _, rfl⟩

/-- A header and what it stands in front of. -/
def IsSocksUdpPacket (data : List UInt8) (packet : SocksUdpPacket) : Prop :=
  ∃ addr, UdpAddress packet.target.host addr
    ∧ data = [0, 0, 0] ++ addr ++ toBeBytes packet.target.port ++ packet.payload

theorem parseUdpHost_eq_ok_iff {atyp : UInt8} {data : List UInt8} {host : String}
    {rest : List UInt8} :
    parseUdpHost atyp data = .ok (host, rest)
      ↔ ∃ addr, UdpAddress host (atyp :: addr) ∧ data = addr ++ rest := by
  constructor
  · intro h
    rw [parseUdpHost.eq_def] at h
    split_ifs at h with hipv4 hdomain hipv6
    · obtain _ | ⟨a, _ | ⟨b, _ | ⟨c, _ | ⟨d, data⟩⟩⟩⟩ := data
      iterate 4 cases h
      obtain ⟨rfl, rfl⟩ := Prod.mk.inj (Except.ok.inj h)
      exact ⟨[a, b, c, d], hipv4 ▸ .ipv4 ⟨a, b, c, d⟩, rfl⟩
    · obtain _ | ⟨len, data⟩ := data
      · cases h
      dsimp only at h
      by_cases hlen : data.length < len.toNat
      · rw [if_pos hlen] at h
        cases h
      rw [if_neg hlen] at h
      rcases hutf : fromUtf8 (data.take len.toNat) with e | domain
      · rw [hutf] at h
        cases h
      rw [hutf] at h
      obtain ⟨rfl, rfl⟩ := Prod.mk.inj (Except.ok.inj h)
      rw [fromUtf8_eq_ok_iff] at hutf
      refine ⟨len :: data.take len.toNat, ?_, by simp⟩
      rw [hdomain, ← hutf]
      refine .domain len _ ?_
      rw [hutf, List.length_take]
      omega
  · rintro ⟨addr, haddr, rfl⟩
    cases haddr with
    | ipv4 ip => rfl
    | domain len _ hlen =>
      have hbounds : ¬ (asBytes host ++ rest).length < len.toNat := by
        rw [List.length_append]
        omega
      rw [parseUdpHost.eq_def, if_neg (by decide), if_pos rfl, List.cons_append]
      dsimp only
      rw [if_neg hbounds, List.take_left' hlen, List.drop_left' hlen,
        fromUtf8_eq_ok_iff.mpr rfl]

theorem parseSocksUdpPacket_eq_ok_iff {data : List UInt8} {packet : SocksUdpPacket} :
    parseSocksUdpPacket data = .ok packet ↔ IsSocksUdpPacket data packet := by
  constructor
  · intro h
    obtain _ | ⟨rsv₀, _ | ⟨rsv₁, _ | ⟨frag, _ | ⟨atyp, data⟩⟩⟩⟩ := data
    iterate 4 cases h
    rw [parseSocksUdpPacket] at h
    split_ifs at h with hrsv hfrag
    rw [not_or, not_not, not_not] at hrsv
    obtain ⟨rfl, rfl⟩ := hrsv
    obtain rfl := not_not.mp hfrag
    obtain ⟨⟨host, rest⟩, hhost, hport⟩ := bind_eq_ok_iff.mp h
    obtain ⟨addr, haddr, hsplit⟩ := parseUdpHost_eq_ok_iff.mp hhost
    obtain _ | ⟨high, _ | ⟨low, payload⟩⟩ := rest
    iterate 2 cases hport
    obtain rfl := Except.ok.inj hport
    exact ⟨atyp :: addr, haddr, by simp [hsplit]⟩
  · rintro ⟨addr, haddr, rfl⟩
    obtain ⟨atyp, addr, rfl⟩ := haddr.exists_cons
    obtain ⟨high, low, hport, hread⟩ := exists_toBeBytes packet.target.port
    have hhost : parseUdpHost atyp (addr ++ high :: low :: packet.payload)
        = .ok (packet.target.host, high :: low :: packet.payload) :=
      parseUdpHost_eq_ok_iff.mpr ⟨addr, haddr, rfl⟩
    have hdata : [0, 0, 0] ++ atyp :: addr ++ [high, low] ++ packet.payload
        = 0 :: 0 :: 0 :: atyp :: (addr ++ high :: low :: packet.payload) := by
      simp
    rw [hport, hdata, parseSocksUdpPacket, if_neg (by decide), if_neg (by decide), hhost]
    change Except.ok (SocksUdpPacket.mk ⟨packet.target.host, fromBeBytes high low⟩ packet.payload)
      = Except.ok packet
    rw [hread]

/-- A datagram from the tunnel has a header that the parser accepts. -/
theorem isSocksUdpPacket_encode (source : SocketAddrV4) (payload : List UInt8) :
    IsSocksUdpPacket (encodeSocksUdpPacket source payload)
      ⟨⟨source.ip.display, source.port⟩, payload⟩ :=
  ⟨_, .ipv4 source.ip, rfl⟩

/-- **The parser accepts the grammar and nothing else**, reading nothing that is not there, and it
inverts the encoder. -/
theorem parseSocksUdpPacket_grammar :
    (∀ data, ∃ result, (parseSocksUdpPacketIndexed data).run = some result)
      ∧ (∀ data packet, (parseSocksUdpPacketIndexed data).run = some (.ok packet)
        ↔ IsSocksUdpPacket data packet)
      ∧ ∀ source payload,
        (parseSocksUdpPacketIndexed (encodeSocksUdpPacket source payload)).run
          = some (.ok ⟨⟨source.ip.display, source.port⟩, payload⟩) := by
  have hrun : ∀ data,
      (parseSocksUdpPacketIndexed data).run = some (parseSocksUdpPacket data) := by
    intro data
    rw [parseSocksUdpPacketIndexed_eq]
    rfl
  refine ⟨fun data ↦ ⟨_, hrun data⟩, ?_, ?_⟩
  · intro data packet
    rw [hrun, Option.some_inj, parseSocksUdpPacket_eq_ok_iff]
  · intro source payload
    rw [hrun, parseSocksUdpPacket_eq_ok_iff.mpr (isSocksUdpPacket_encode source payload)]

end ShiepPipeline
