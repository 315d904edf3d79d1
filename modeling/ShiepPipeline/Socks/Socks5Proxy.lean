import ShiepPipeline.Socks.HttpProxy
import ShiepPipeline.Text.Ipv6Text

/-!
# The fallback proxy over SOCKS5

The server decodes the client's target into a text, and the proxy is asked for the target of that
text. The two are compared through what a text denotes: an address, if it is the text of one, and
otherwise a name.
-/

open Net Program Str Utf8
open Program.Fallible (attempt)

namespace ShiepPipeline.Socks

/-! ## A client's bytes -/

/-- A client that sends these bytes. The state is what has not been read of them. -/
def clientBytes (other : Handler SocksOp SocksAns (List UInt8)) :
    Handler SocksOp SocksAns (List UInt8)
  | .readExact what, bytes =>
    if h : what.size ≤ bytes.length then
      (.ok ⟨(bytes.take what.size).toArray, by simp [h]⟩, bytes.drop what.size)
    else (.error "failed to fill whole buffer", [])
  | op, bytes => other op bytes

section Read

variable {other : Handler SocksOp SocksAns (List UInt8)} {bytes rest : List UInt8}

/-- A read takes as many bytes as it has room for. -/
theorem run_readExact_eq_ok_iff {what : ClientRead} {v : Vector UInt8 what.size} :
    (readExact what).run.run (clientBytes other) bytes = (.ok v, rest)
      ↔ bytes = v.toList ++ rest := by
  by_cases hlen : what.size ≤ bytes.length
  · have hread : (readExact what).run.run (clientBytes other) bytes
        = (.ok ⟨(bytes.take what.size).toArray, by simp [hlen]⟩, bytes.drop what.size) :=
      Fallible.run_attempt_ok (dif_pos hlen)
    rw [hread]
    constructor
    · intro h
      obtain ⟨hv, rfl⟩ := Prod.mk.inj h
      rw [← Except.ok.inj hv]
      exact (List.take_append_drop what.size bytes).symm
    · rintro rfl
      have hsize : v.toList.length = what.size := v.length_toList
      congr 1
      · congr 1
        rw [← Vector.toList_inj]
        exact List.take_left' hsize
      · exact List.drop_left' hsize
  · have hcall : (perform (SocksOp.readExact what) : Program SocksOp SocksAns _).run
        (clientBytes other) bytes = (.error "failed to fill whole buffer", []) := dif_neg hlen
    rw [readExact, Fallible.run_attempt_error hcall]
    refine iff_of_false ?_ ?_
    · intro h
      cases (Prod.mk.inj h).1
    · rintro rfl
      apply hlen
      rw [List.length_append, v.length_toList]
      exact Nat.le_add_right _ _

end Read

/-! ## What the server decodes -/

/-- A host of a request, by its type: the bytes of it, and the text that is made of them. -/
inductive HostForm : UInt8 → List UInt8 → String → Prop
  | ipv4 (ip : Ipv4Addr) : HostForm socksAtypIpv4 ip.octets ip.display
  | domain {len : UInt8} {host : String} (hlen : (asBytes host).length = len.toNat) :
    HostForm socksAtypDomain (len :: asBytes host) host
  | ipv6 (ip : Ipv6Addr) : HostForm socksAtypIpv6 (ipv6Octets ip) ip.display

/-- A target: a host and a port behind it. -/
def TargetForm (atyp : UInt8) (sent : List UInt8) (target : ConnectTarget) : Prop :=
  ∃ host, HostForm atyp host target.host ∧ sent = host ++ toBeBytes target.port

theorem toList_eq_ofFn {n : ℕ} (v : Vector UInt8 n) :
    v.toList = List.ofFn fun i : Fin n ↦ v[i] := by
  rw [← Vector.toList_ofFn]
  congr 1
  ext i hi
  simp

theorem toList_ipv6 (v : Vector UInt8 16) : v.toList = ipv6Octets (ipv6FromBytes v) := by
  have hsegments : (ipv6FromBytes v).segments.toList
      = List.ofFn fun i : Fin 8 ↦ fromBeBytes v[2 * i.1] v[2 * i.1 + 1] := Vector.toList_ofFn
  rw [ipv6Octets, hsegments, toList_eq_ofFn]
  simp [List.ofFn_succ]

theorem ipv6Octets_inj {x y : Ipv6Addr} (h : ipv6Octets x = ipv6Octets y) : x = y := by
  obtain ⟨x⟩ := x
  obtain ⟨y⟩ := y
  congr 1
  exact Vector.toList_inj.mp (flatMap_toBeBytes_inj h)

theorem length_ipv6Octets (x : Ipv6Addr) : (ipv6Octets x).length = 16 := by
  rw [ipv6Octets, List.length_flatMap]
  simp

section Decode

variable {other : Handler SocksOp SocksAns (List UInt8)} {bytes rest : List UInt8} {atyp : UInt8}

theorem hostForm_of_run {host : String}
    (h : (readRequestHost atyp).run.run (clientBytes other) bytes = (.ok host, rest)) :
    ∃ sent, bytes = sent ++ rest ∧ HostForm atyp sent host := by
  rw [readRequestHost] at h
  split_ifs at h with hipv4 hdomain hipv6
  · obtain ⟨v, more, hread, hrest⟩ := Fallible.run_bind_eq_ok_iff.mp h
    obtain rfl := run_readExact_eq_ok_iff.mp hread
    obtain ⟨hhost, rfl⟩ := Prod.mk.inj hrest
    have hfour : v.toList = [v[0], v[1], v[2], v[3]] := toList_eq_ofFn v
    rw [← Except.ok.inj hhost, hipv4, hfour]
    exact ⟨_, rfl, .ipv4 ⟨v[0], v[1], v[2], v[3]⟩⟩
  · obtain ⟨len, more, hlen, h₁⟩ := Fallible.run_bind_eq_ok_iff.mp h
    obtain rfl := run_readExact_eq_ok_iff.mp hlen
    obtain ⟨domain, more', hread, h₂⟩ := Fallible.run_bind_eq_ok_iff.mp h₁
    obtain rfl := run_readExact_eq_ok_iff.mp hread
    -- the bytes have to be those of a text
    rcases htext : fromUtf8 domain.toList with e | text
    · rw [htext] at h₂
      cases (Prod.mk.inj h₂).1
    · rw [htext] at h₂
      obtain ⟨hhost, rfl⟩ := Prod.mk.inj h₂
      obtain rfl := Except.ok.inj hhost
      have hbytes : asBytes text = domain.toList := fromUtf8_eq_ok_iff.mp htext
      have hsize : (asBytes text).length = len[0].toNat := hbytes ▸ domain.length_toList
      have hone : len.toList = [len[0]] := toList_eq_ofFn len
      rw [hdomain, hone, ← hbytes]
      exact ⟨_, rfl, .domain hsize⟩
  · obtain ⟨v, more, hread, hrest⟩ := Fallible.run_bind_eq_ok_iff.mp h
    obtain rfl := run_readExact_eq_ok_iff.mp hread
    obtain ⟨hhost, rfl⟩ := Prod.mk.inj hrest
    have hsixteen : v.toList = ipv6Octets (ipv6FromBytes v) := toList_ipv6 v
    rw [← Except.ok.inj hhost, hipv6, hsixteen]
    exact ⟨_, rfl, .ipv6 _⟩
  · -- the reply that is written does not make it a success
    obtain ⟨_, _, -, hthrow⟩ := Fallible.run_bind_eq_ok_iff.mp h
    cases (Prod.mk.inj hthrow).1

theorem HostForm.run_readRequestHost {sent : List UInt8} {host : String}
    (h : HostForm atyp sent host) :
    (readRequestHost atyp).run.run (clientBytes other) (sent ++ rest) = (.ok host, rest) := by
  cases h with
  | ipv4 ip =>
    apply Fallible.run_bind_eq_ok_iff.mpr
    exact ⟨#v[ip.a, ip.b, ip.c, ip.d], rest, run_readExact_eq_ok_iff.mpr rfl, rfl⟩
  | @domain len host hlen =>
    apply Fallible.run_bind_eq_ok_iff.mpr
    refine ⟨#v[len], asBytes host ++ rest, run_readExact_eq_ok_iff.mpr rfl, ?_⟩
    apply Fallible.run_bind_eq_ok_iff.mpr
    obtain ⟨v, hv⟩ : ∃ v : Vector UInt8 (ClientRead.domain (#v[len])[0].toNat).size,
        v.toList = asBytes host := ⟨⟨(asBytes host).toArray, hlen⟩, rfl⟩
    have htext : fromUtf8 v.toList = .ok host := fromUtf8_eq_ok_iff.mpr hv.symm
    refine ⟨v, rest, run_readExact_eq_ok_iff.mpr (by rw [← hv]), ?_⟩
    rw [htext]
    rfl
  | ipv6 ip =>
    apply Fallible.run_bind_eq_ok_iff.mpr
    have hback : ipv6FromBytes ⟨(ipv6Octets ip).toArray, length_ipv6Octets ip⟩ = ip :=
      ipv6Octets_inj (toList_ipv6 _).symm
    refine ⟨⟨(ipv6Octets ip).toArray, length_ipv6Octets ip⟩, rest,
      run_readExact_eq_ok_iff.mpr rfl, ?_⟩
    rw [hback]
    rfl

/-- One form for each type, and no other type. -/
theorem run_readRequestHost_eq_ok_iff {host : String} :
    (readRequestHost atyp).run.run (clientBytes other) bytes = (.ok host, rest)
      ↔ ∃ sent, bytes = sent ++ rest ∧ HostForm atyp sent host := by
  constructor
  · exact hostForm_of_run
  · rintro ⟨sent, rfl, hform⟩
    exact hform.run_readRequestHost

/-- **What the server decodes**, from all that a client may send. -/
theorem run_readRequestTarget_eq_ok_iff {target : ConnectTarget} :
    (readRequestTarget atyp).run.run (clientBytes other) bytes = (.ok target, rest)
      ↔ ∃ sent, bytes = sent ++ rest ∧ TargetForm atyp sent target := by
  rw [readRequestTarget]
  constructor
  · intro h
    obtain ⟨host, more, hhost, h₁⟩ := Fallible.run_bind_eq_ok_iff.mp h
    obtain ⟨sent, rfl, hform⟩ := run_readRequestHost_eq_ok_iff.mp hhost
    obtain ⟨port, more', hport, h₂⟩ := Fallible.run_bind_eq_ok_iff.mp h₁
    obtain rfl := run_readExact_eq_ok_iff.mp hport
    obtain ⟨htarget, rfl⟩ := Prod.mk.inj h₂
    obtain rfl := Except.ok.inj htarget
    have htwo : port.toList = [port[0], port[1]] := toList_eq_ofFn port
    refine ⟨sent ++ port.toList, (List.append_assoc _ _ _).symm, sent, hform, ?_⟩
    rw [toBeBytes_fromBeBytes, htwo]
  · rintro ⟨_, rfl, sent, hform, rfl⟩
    obtain ⟨high, low, hbytes, hback⟩ := exists_toBeBytes target.port
    apply Fallible.run_bind_eq_ok_iff.mpr
    refine ⟨target.host, toBeBytes target.port ++ rest,
      run_readRequestHost_eq_ok_iff.mpr ⟨sent, List.append_assoc _ _ _, hform⟩, ?_⟩
    apply Fallible.run_bind_eq_ok_iff.mpr
    refine ⟨#v[high, low], rest, run_readExact_eq_ok_iff.mpr (by rw [hbytes]; rfl), ?_⟩
    change (Except.ok (ConnectTarget.mk target.host (fromBeBytes high low)), rest) = _
    rw [hback]

end Decode

/-! ## What a text denotes -/

inductive Host
  | ip (ip : IpAddr)
  | domain (name : String)
deriving DecidableEq

/-- The host that a text denotes: the white space around it does not count. -/
def hostOf (text : String) : Host :=
  match IpAddr.fromStr (trim text) with
  | some ip => .ip ip
  | none => .domain (trim text)

/-- Two texts that denote one host. -/
def SameHost (text text' : String) : Prop := hostOf text = hostOf text'

/-- The type and the bytes of an address. -/
def encodeIp : IpAddr → List UInt8
  | .v4 ip => socksAtypIpv4 :: ip.octets
  | .v6 ip => socksAtypIpv6 :: ipv6Octets ip

/-- The type, the length and the bytes of a name. -/
def encodeDomain (name : String) : List UInt8 :=
  socksAtypDomain :: UInt8.ofNat (asBytes name).length :: asBytes name

section Append

variable {buf : List UInt8} {host : String}

theorem appendSocks5Addr_of_ip {ip : IpAddr} (h : IpAddr.fromStr (trim host) = some ip) :
    appendSocks5Addr buf host = .ok (buf ++ encodeIp ip) := by
  rw [IpAddr.fromStr] at h
  dsimp only [appendSocks5Addr]
  rcases hv4 : Ipv4Addr.fromStr (trim host) with _ | ip4
  · rw [hv4, Option.map_none, Option.none_or] at h
    obtain ⟨ip6, hv6, rfl⟩ := Option.map_eq_some_iff.mp h
    simp [hv6, encodeIp]
  · rw [hv4, Option.map_some, Option.some_or] at h
    obtain rfl := Option.some.inj h
    simp [encodeIp]

theorem appendSocks5Addr_of_empty (h : trim host = "") :
    appendSocks5Addr buf host
      = .error (.runtime "fallback proxy target domain is empty or too long") := by
  rw [appendSocks5Addr, h]
  rfl

theorem appendSocks5Addr_of_domain (h : IpAddr.fromStr (trim host) = none) (hne : trim host ≠ "")
    (hlen : (asBytes (trim host)).length ≤ 255) :
    appendSocks5Addr buf host = .ok (buf ++ encodeDomain (trim host)) := by
  rw [IpAddr.fromStr, Option.or_eq_none_iff, Option.map_eq_none_iff, Option.map_eq_none_iff] at h
  have hpos : (asBytes (trim host)).length ≠ 0 := by
    intro hzero
    apply hne
    rw [← asBytes_inj, List.length_eq_zero_iff.mp hzero]
    rfl
  have hfits : ¬ ((asBytes (trim host)).length = 0 ∨ 255 < (asBytes (trim host)).length) := by
    omega
  dsimp only [appendSocks5Addr]
  rw [h.1, h.2]
  dsimp only
  rw [if_neg hfits, encodeDomain]
  simp

end Append

theorem ipFromStr_v4 (ip : Ipv4Addr) : IpAddr.fromStr (trim ip.display) = some (.v4 ip) := by
  rw [ip.trim_display, IpAddr.fromStr, Ipv4Addr.fromStr_display, Option.map_some, Option.some_or]

theorem ipFromStr_v6 (ip : Ipv6Addr) : IpAddr.fromStr (trim ip.display) = some (.v6 ip) := by
  rw [ip.trim_display, IpAddr.fromStr, Ipv4Addr.fromStr_display_v6, Ipv6Addr.fromStr_display,
    Option.map_none, Option.none_or, Option.map_some]

theorem hostOf_of_ip {text : String} {ip : IpAddr} (h : IpAddr.fromStr (trim text) = some ip) :
    hostOf text = .ip ip := by
  rw [hostOf, h]

/-! ## The request -/

/-- The proxy is asked for this address and port, in one request, whether or not it gets it. -/
def Asks (target : ConnectTarget) (address : List UInt8) : Prop :=
  ∀ t r, Runs (writeSocks5ConnectRequest target.host target.port).run t r
    ↔ ∃ ans : Except String Unit,
      t = [⟨.writeAll ([socksVersion5, socksCmdConnect, socksRsv] ++ address), ans⟩]
        ∧ r = ans.mapError fun e ↦ .runtime s!"proxy connect request write failed: {e}"

/-- No request is written, and that is an error. -/
def Refused (target : ConnectTarget) : Prop :=
  ∀ t r, Runs (writeSocks5ConnectRequest target.host target.port).run t r
    ↔ t = [] ∧ r = .error (.runtime "fallback proxy target domain is empty or too long")

section Request

variable {target : ConnectTarget}

theorem asks_of_append {address : List UInt8}
    (h : ∀ buf, appendSocks5Addr buf target.host = .ok (buf ++ address)) :
    Asks target (address ++ toBeBytes target.port) := by
  intro t r
  rw [writeSocks5ConnectRequest, h, Fallible.runs_bind_iff]
  constructor
  · rintro (⟨e, hcheck, -⟩ | ⟨t₁, req, t₂, hcheck, hwrite, rfl⟩)
    · cases (runs_check_iff.mp hcheck).2
    · obtain ⟨rfl, hreq⟩ := runs_check_iff.mp hcheck
      obtain rfl := Except.ok.inj hreq
      rw [List.append_assoc] at hwrite
      obtain ⟨e, hcall, rfl⟩ | ⟨⟨⟩, hcall, rfl⟩ := Fallible.runs_attempt_iff.mp hwrite
      · exact ⟨.error e, runs_perform_iff.mp hcall, rfl⟩
      · exact ⟨.ok (), runs_perform_iff.mp hcall, rfl⟩
  · rintro ⟨ans, rfl, rfl⟩
    refine .inr ⟨[], _, _, runs_check_iff.mpr ⟨rfl, rfl⟩, ?_, rfl⟩
    rw [List.append_assoc]
    apply Fallible.runs_attempt_iff.mpr
    rcases ans with e | ⟨⟩
    · exact .inl ⟨e, runs_perform_iff.mpr rfl, rfl⟩
    · exact .inr ⟨(), runs_perform_iff.mpr rfl, rfl⟩

theorem refused_of_append
    (h : ∀ buf, appendSocks5Addr buf target.host
      = .error (.runtime "fallback proxy target domain is empty or too long")) :
    Refused target := by
  intro t r
  rw [writeSocks5ConnectRequest, h, Fallible.runs_bind_iff]
  constructor
  · rintro (⟨e, hcheck, rfl⟩ | ⟨t₁, req, t₂, hcheck, -, -⟩)
    · obtain ⟨ht, he⟩ := runs_check_iff.mp hcheck
      exact ⟨ht, congrArg Except.error (Except.error.inj he)⟩
    · cases (runs_check_iff.mp hcheck).2
  · rintro ⟨rfl, rfl⟩
    exact .inl ⟨_, runs_check_iff.mpr ⟨rfl, rfl⟩, rfl⟩

theorem Asks.unique {address address' : List UInt8} (h : Asks target address)
    (h' : Asks target address') : address = address' := by
  obtain ⟨ans, ht, -⟩ := (h' _ _).mp ((h _ _).mpr ⟨.ok (), rfl, rfl⟩)
  have hcall := congrArg (List.map Sigma.fst) ht
  simpa using hcall

theorem Asks.not_refused {address : List UInt8} (h : Asks target address) : ¬ Refused target := by
  intro hrefused
  have hnone := ((hrefused _ _).mp ((h _ _).mpr ⟨.ok (), rfl, rfl⟩)).1
  exact absurd hnone (List.cons_ne_nil _ _)

theorem asks_of_ip {ip : IpAddr} (h : IpAddr.fromStr (trim target.host) = some ip) :
    Asks target (encodeIp ip ++ toBeBytes target.port) :=
  asks_of_append fun _ ↦ appendSocks5Addr_of_ip h

theorem asks_of_domain (h : IpAddr.fromStr (trim target.host) = none)
    (hne : trim target.host ≠ "") (hlen : (asBytes (trim target.host)).length ≤ 255) :
    Asks target (encodeDomain (trim target.host) ++ toBeBytes target.port) :=
  asks_of_append fun _ ↦ appendSocks5Addr_of_domain h hne hlen

end Request

/-! ## Decoding the request -/

/-- The server would read this address and port as a target of the same host and port. -/
def DecodesTo (address : List UInt8) (target : ConnectTarget) : Prop :=
  ∃ (atyp : UInt8) (sent : List UInt8) (target' : ConnectTarget), address = atyp :: sent
    ∧ (∀ other more, (readRequestTarget atyp).run.run (clientBytes other) (sent ++ more)
      = (.ok target', more))
    ∧ SameHost target'.host target.host ∧ target'.port = target.port

section Decoding

variable {target : ConnectTarget}

theorem HostForm.decodesTo {atyp : UInt8} {sent : List UInt8} {text : String}
    (h : HostForm atyp sent text) (hsame : SameHost text target.host) :
    DecodesTo (atyp :: sent ++ toBeBytes target.port) target := by
  refine ⟨atyp, sent ++ toBeBytes target.port, ⟨text, target.port⟩, rfl, ?_, hsame, rfl⟩
  intro other more
  exact run_readRequestTarget_eq_ok_iff.mpr ⟨_, rfl, sent, h, rfl⟩

theorem decodesTo_of_ip {ip : IpAddr} (h : IpAddr.fromStr (trim target.host) = some ip) :
    DecodesTo (encodeIp ip ++ toBeBytes target.port) target := by
  cases ip with
  | v4 ip =>
    refine (HostForm.ipv4 ip).decodesTo ?_
    rw [SameHost, hostOf_of_ip (ipFromStr_v4 ip), hostOf_of_ip h]
  | v6 ip =>
    refine (HostForm.ipv6 ip).decodesTo ?_
    rw [SameHost, hostOf_of_ip (ipFromStr_v6 ip), hostOf_of_ip h]

theorem toNat_domainLength {name : String} (hlen : (asBytes name).length ≤ 255) :
    (UInt8.ofNat (asBytes name).length).toNat = (asBytes name).length := by
  rw [UInt8.toNat_ofNat', Nat.mod_eq_of_lt (by omega)]

theorem decodesTo_of_domain (hlen : (asBytes (trim target.host)).length ≤ 255) :
    DecodesTo (encodeDomain (trim target.host) ++ toBeBytes target.port) target := by
  refine (HostForm.domain (toNat_domainLength hlen).symm).decodesTo ?_
  rw [SameHost, hostOf, hostOf, trim_trim]

end Decoding

/-! ## The client's own target -/

/-- What the proxy is asked for when the client has sent these bytes for a target. -/
structure AsksForTarget (atyp : UInt8) (sent : List UInt8) (target : ConnectTarget) : Prop where
  /-- An address is handed on byte for byte. -/
  address : atyp = socksAtypIpv4 ∨ atyp = socksAtypIpv6 → Asks target (atyp :: sent)
  /-- The text of a name is what the client has sent. -/
  text : atyp = socksAtypDomain → ∃ len : UInt8, len.toNat = (asBytes target.host).length
    ∧ sent = len :: asBytes target.host ++ toBeBytes target.port
  /-- A name is asked for without the white space around it. -/
  name : atyp = socksAtypDomain → trim target.host ≠ "" →
    IpAddr.fromStr (trim target.host) = none →
      Asks target (encodeDomain (trim target.host) ++ toBeBytes target.port)
        ∧ (UInt8.ofNat (asBytes (trim target.host)).length).toNat
          = (asBytes (trim target.host)).length
  /-- A name that is the text of an address is asked for as that address. -/
  literal : atyp = socksAtypDomain → ∀ ip, IpAddr.fromStr (trim target.host) = some ip →
    Asks target (encodeIp ip ++ toBeBytes target.port)
  refused : Refused target ↔ atyp = socksAtypDomain ∧ trim target.host = ""
  again : ∀ address, Asks target address → DecodesTo address target

/-- An address, in either of its forms. -/
theorem asksForTarget_of_ip {atyp : UInt8} {sent : List UInt8} {target : ConnectTarget}
    {ip : IpAddr} (h : IpAddr.fromStr (trim target.host) = some ip)
    (hne : atyp ≠ socksAtypDomain) (hsent : atyp :: sent = encodeIp ip ++ toBeBytes target.port) :
    AsksForTarget atyp sent target where
  address _ := hsent ▸ asks_of_ip h
  text hatyp := absurd hatyp hne
  name hatyp := absurd hatyp hne
  literal hatyp := absurd hatyp hne
  refused := iff_of_false (asks_of_ip h).not_refused fun hdomain ↦ hne hdomain.1
  again _ haddress := (asks_of_ip h).unique haddress ▸ decodesTo_of_ip h

theorem refused_of_empty {target : ConnectTarget} (h : trim target.host = "") : Refused target :=
  refused_of_append fun _ ↦ appendSocks5Addr_of_empty h

/-- A name, which may be the text of an address. -/
theorem asksForTarget_of_domain {len : UInt8} {target : ConnectTarget}
    (hlen : (asBytes target.host).length = len.toNat) :
    AsksForTarget socksAtypDomain (len :: asBytes target.host ++ toBeBytes target.port) target := by
  have hbound : (asBytes (trim target.host)).length ≤ 255 := by
    have htrim := length_asBytes_trim_le target.host
    have hbyte := len.toNat_lt
    omega
  refine ⟨?_, fun _ ↦ ⟨len, hlen.symm, rfl⟩, ?_, fun _ ip ↦ asks_of_ip, ?_, ?_⟩
  · intro hatyp
    exact absurd hatyp (by decide)
  · intro _ hne hname
    exact ⟨asks_of_domain hname hne hbound, toNat_domainLength hbound⟩
  · constructor
    · intro hrefused
      refine ⟨rfl, ?_⟩
      by_contra hne
      rcases hip : IpAddr.fromStr (trim target.host) with _ | ip
      -- a name that is not empty is asked for, in one way or the other
      · exact (asks_of_domain hip hne hbound).not_refused hrefused
      · exact (asks_of_ip hip).not_refused hrefused
    · rintro ⟨-, hempty⟩
      exact refused_of_empty hempty
  · intro address haddress
    rcases hip : IpAddr.fromStr (trim target.host) with _ | ip
    · have hne : trim target.host ≠ "" := fun hempty ↦
        haddress.not_refused (refused_of_empty hempty)
      rw [haddress.unique (asks_of_domain hip hne hbound)]
      exact decodesTo_of_domain hbound
    · rw [haddress.unique (asks_of_ip hip)]
      exact decodesTo_of_ip hip

/-- **The proxy is asked for the client's own target**, whatever the client has sent for it. -/
theorem socks5_asksForTarget (other : Handler SocksOp SocksAns (List UInt8)) {atyp : UInt8}
    {bytes rest : List UInt8} {target : ConnectTarget}
    (h : (readRequestTarget atyp).run.run (clientBytes other) bytes = (.ok target, rest)) :
    ∃ sent, bytes = sent ++ rest ∧ AsksForTarget atyp sent target := by
  obtain ⟨_, rfl, sent, hform, rfl⟩ := run_readRequestTarget_eq_ok_iff.mp h
  refine ⟨_, rfl, ?_⟩
  obtain ⟨text, port⟩ := target
  cases hform with
  | ipv4 ip => exact asksForTarget_of_ip (ipFromStr_v4 ip) (by decide) rfl
  | domain hlen => exact asksForTarget_of_domain hlen
  | ipv6 ip => exact asksForTarget_of_ip (ipFromStr_v6 ip) (by decide) rfl

/-- A world in which every call but a read fails. -/
def deadEnd : Handler SocksOp SocksAns (List UInt8)
  | .planTarget .., bytes => (.error (.runtime "closed"), bytes)
  | .connectViaProxy .., bytes => (.error (.runtime "closed"), bytes)
  | .controlTx, bytes => (false, bytes)
  | .sendControl _, bytes => (false, bytes)
  | .awaitReply, bytes => (.timeout, bytes)
  | .recvTunnel, bytes => (none, bytes)
  | .readExact _, bytes => (.error "closed", bytes)
  | .writeAll _, bytes => (.error "closed", bytes)
  | .toSocketAddrs _, bytes => (.error "closed", bytes)
  | .connect _, bytes => (.error "closed", bytes)
  | .controlLocalAddr, bytes => (.error "closed", bytes)
  | .bindUdp _, bytes => (.error "closed", bytes)
  | .udpLocalAddr, bytes => (.error "closed", bytes)
  | .cloneClient, bytes => (.error "closed", bytes)
  | .readClient, bytes => (.error "closed", bytes)
  | .shutdownWrite, bytes => (.error "closed", bytes)

/-- A name that is the text of an address, with a space behind it. -/
theorem socks5_asksForTarget_literal :
    ∃ sent, ([10, 49, 50, 55, 46, 48, 46, 48, 46, 49, 32, 0, 80] : List UInt8) = sent ++ []
      ∧ AsksForTarget socksAtypDomain sent ⟨"127.0.0.1 ", 80⟩ := by
  have hbytes : ([10, 49, 50, 55, 46, 48, 46, 48, 46, 49, 32, 0, 80] : List UInt8)
      = 10 :: asBytes "127.0.0.1 " ++ toBeBytes 80 := by decide
  have hlen : (asBytes "127.0.0.1 ").length = (10 : UInt8).toNat := by decide
  apply socks5_asksForTarget deadEnd
  apply run_readRequestTarget_eq_ok_iff.mpr
  exact ⟨_, hbytes.trans (List.append_nil _).symm, _, .domain hlen, rfl⟩

end ShiepPipeline.Socks
