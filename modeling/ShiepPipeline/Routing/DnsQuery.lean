import ShiepPipeline.Concurrency.Timed
import ShiepPipeline.Routing.Resolver
import ShiepPipeline.Text.Utf8

/-!
# Queries on the wire

A query sends its request over UDP and waits for a datagram of the server. If that one says that it
was cut off, the request is sent again over TCP, in front of it its length.

`DnsSockets.queryServerMessage_eq_ok_iff` says when a query gets an answer, and
`DnsSockets.queryServerMessage_undisturbed` that what others send to the socket plays no part in it.
`DnsSockets.queryServerMessage_onWire` connects the sockets with the exchanges that the resolver is
modelled over.
-/

open Net Str Timed Utf8

namespace ShiepPipeline

/-! ## Sockets -/

/-- `DNS_IO_TIMEOUT`, in milliseconds. -/
def dnsIoTimeout : ℕ := 1200

def dnsUdpBufferSize : ℕ := 4096

def dnsTcpMaxPayload : ℕ := 65535

abbrev Datagram := List UInt8 × SocketAddr

/-- What the sockets of one query answer to their calls, and what they receive. The clocks stand at
the instants at which the request has been sent. -/
structure DnsSockets where
  bind : String → Except String Unit
  setReadTimeout : Except String Unit
  setWriteTimeout : Except String Unit
  sendTo : List UInt8 → SocketAddr → Except String Unit
  udpClock : ℕ
  datagrams : List (Arrival (Except String Datagram))
  connect : SocketAddr → Except String Unit
  tcpSetReadTimeout : Except String Unit
  tcpSetWriteTimeout : Except String Unit
  /-- `write_all` of the length. -/
  writeLength : List UInt8 → Except String Unit
  /-- `write_all` of the request. -/
  writeRequest : List UInt8 → Except String Unit
  tcpClock : ℕ
  incoming : List (Arrival (Chunk UInt8 String))
  /-- The error of a read to which nothing comes. -/
  timedOut : String

namespace DnsSockets

variable (s : DnsSockets)

/-- An error of a socket, under what the code was about. -/
def orRuntime {α : Type} (context : String) (x : Except String α) : Except EcError α :=
  x.mapError fun e ↦ .runtime (context ++ e)

def bindUdpSocket (server : SocketAddr) : Except EcError Unit := do
  let bindAddr :=
    match server with
    | .v4 _ => "0.0.0.0:0"
    | .v6 _ => "[::]:0"
  orRuntime "dns udp bind failed: " (s.bind bindAddr)
  orRuntime "dns udp set read timeout failed: " s.setReadTimeout
  orRuntime "dns udp set write timeout failed: " s.setWriteTimeout

/-- The loop of `query_udp`, with the instant at which it is over. -/
def queryUdpLoop (env : DnsEnv) (id : UInt16) (server : SocketAddr) (deadline : ℕ) :
    List (Arrival (Except String Datagram)) → ℕ → Except EcError UdpQueryResult × ℕ
  | [], now =>
    if now < deadline then
      (.error (.runtime ("dns udp recv failed: " ++ s.timedOut)), now + dnsIoTimeout)
    else (.error (.runtime ("dns udp recv failed: no valid response from " ++ server.display)), now)
  | e :: es, now =>
    if now < deadline then
      if now + dnsIoTimeout < e.time then
        (.error (.runtime ("dns udp recv failed: " ++ s.timedOut)), now + dnsIoTimeout)
      else
        match e.what with
        | .error err => (.error (.runtime ("dns udp recv failed: " ++ err)), max now e.time)
        | .ok (buf, peer) =>
          if peer ≠ server then queryUdpLoop env id server deadline es (max now e.time)
          else
            match env.decodeDnsResponse (buf.take dnsUdpBufferSize) id server with
            | .error err => (.error err, max now e.time)
            | .ok message =>
              if message.truncated then (.ok .truncated, max now e.time)
              else (.ok (.complete message), max now e.time)
    else (.error (.runtime ("dns udp recv failed: no valid response from " ++ server.display)), now)

def queryUdp (env : DnsEnv) (id : UInt16) (request : List UInt8) (server : SocketAddr) :
    Except EcError UdpQueryResult := do
  s.bindUdpSocket server
  orRuntime "dns udp send failed: " (s.sendTo request server)
  (s.queryUdpLoop env id server (s.udpClock + dnsIoTimeout) s.datagrams s.udpClock).1

def failureText : Failure String → String
  | .failed e => e
  | .ended => "failed to fill whole buffer"
  | _ => s.timedOut

/-- `read_exact`, with what is still to be received. -/
def readExact (context : String) (es : List (Arrival (Chunk UInt8 String))) (n now : ℕ) :
    Except EcError (List UInt8 × ℕ × List (Arrival (Chunk UInt8 String))) :=
  orRuntime context ((Timed.readExact dnsIoTimeout es n now).mapError s.failureText)

def connectTcp (server : SocketAddr) : Except EcError Unit := do
  orRuntime "dns tcp connect failed: " (s.connect server)
  orRuntime "dns tcp set read timeout failed: " s.tcpSetReadTimeout
  orRuntime "dns tcp set write timeout failed: " s.tcpSetWriteTimeout

/-- What `query_tcp` does when it is connected, up to the answer's bytes. -/
def exchangeTcp (request : List UInt8) : Except EcError (List UInt8) := do
  if 65535 < request.length then
    throw (.runtime "dns tcp request is too large")
  orRuntime "dns tcp write failed: " do
    s.writeLength (toBeBytes (UInt16.ofNat request.length))
    s.writeRequest request
  let (lenBuf, now, es) ← s.readExact "dns tcp length read failed: " s.incoming 2 s.tcpClock
  let respLen := (fromBeBytes (lenBuf.getD 0 0) (lenBuf.getD 1 0)).toNat
  if respLen = 0 ∨ dnsTcpMaxPayload < respLen then
    throw (.runtime ("dns tcp response length is invalid: " ++ decimal respLen))
  let (payload, _) ← s.readExact "dns tcp payload read failed: " es respLen now
  return payload

def queryTcp (env : DnsEnv) (id : UInt16) (request : List UInt8) (server : SocketAddr) :
    Except EcError Message := do
  s.connectTcp server
  let payload ← s.exchangeTcp request
  env.decodeDnsResponse payload id server

def queryServerMessage (env : DnsEnv) (id : UInt16) (host : String) (server : SocketAddr) :
    Except EcError Message := do
  let request ← env.buildAQuery id host
  match ← s.queryUdp env id request server with
  | .complete message => pure message
  | .truncated => s.queryTcp env id request server

/-! ## The exchanges of the resolver's model -/

/-- What the wait for a datagram comes to. -/
def heard (server : SocketAddr) : Except (Failure String) Datagram → Except EcError (List UInt8)
  | .ok (buf, _) => .ok (buf.take dnsUdpBufferSize)
  | .error .late =>
    .error (.runtime ("dns udp recv failed: no valid response from " ++ server.display))
  | .error failure => .error (.runtime ("dns udp recv failed: " ++ s.failureText failure))

/-- The wait for a datagram of the server, and the instant at which it is over. -/
def waitFor (server : SocketAddr) : Except (Failure String) Datagram × ℕ :=
  firstWhere (·.2 = server) dnsIoTimeout (s.udpClock + dnsIoTimeout) s.datagrams s.udpClock

def udpExchange (request : List UInt8) (server : SocketAddr) : Except EcError (List UInt8) := do
  s.bindUdpSocket server
  orRuntime "dns udp send failed: " (s.sendTo request server)
  s.heard server (s.waitFor server).1

def tcpExchange (request : List UInt8) (server : SocketAddr) : Except EcError (List UInt8) := do
  s.connectTcp server
  s.exchangeTcp request

end DnsSockets

/-- The resolver's environment, with the sockets of each query in the place of the exchanges. -/
def DnsEnv.onWire (env : DnsEnv) (sockets : ℕ → DnsSockets) : DnsEnv :=
  { env with
    udpExchange := fun tick ↦ (sockets tick).udpExchange
    tcpExchange := fun tick ↦ (sockets tick).tcpExchange }

namespace DnsSockets

variable {s : DnsSockets} {env : DnsEnv} {id : UInt16} {server : SocketAddr}

theorem mapError_eq_ok_iff {ε ε' α : Type} {x : Except ε α} {f : ε → ε'} {a : α} :
    x.mapError f = .ok a ↔ x = .ok a := by
  rcases x with e | b
  · exact iff_of_false nofun nofun
  · exact ⟨fun h ↦ congrArg Except.ok (Except.ok.inj h),
      fun h ↦ congrArg Except.ok (Except.ok.inj h)⟩

/-- What a datagram of the server says. -/
def udpResult (env : DnsEnv) (id : UInt16) (server : SocketAddr) (payload : List UInt8) :
    Except EcError UdpQueryResult := do
  let message ← env.decodeDnsResponse payload id server
  pure (if message.truncated then .truncated else .complete message)

/-- The loop waits for a datagram of the server and then decodes it. -/
theorem queryUdpLoop_eq (s : DnsSockets) (env : DnsEnv) (id : UInt16) (server : SocketAddr)
    (deadline : ℕ) (es : List (Arrival (Except String Datagram))) (now : ℕ) :
    s.queryUdpLoop env id server deadline es now
      = (s.heard server (firstWhere (·.2 = server) dnsIoTimeout deadline es now).1
          >>= udpResult env id server,
        (firstWhere (·.2 = server) dnsIoTimeout deadline es now).2) := by
  induction es generalizing now with
  | nil =>
    rw [queryUdpLoop, firstWhere]
    split_ifs <;> rfl
  | cons e es ih =>
    rw [queryUdpLoop, firstWhere]
    split_ifs with hnow htime
    · rfl
    · rcases hwhat : e.what with err | ⟨buf, peer⟩
      · rfl
      dsimp only
      by_cases hpeer : peer = server
      · rw [if_neg (not_not.mpr hpeer), if_pos (decide_eq_true hpeer)]
        change _ = (udpResult env id server (buf.take dnsUdpBufferSize), max now e.time)
        rw [udpResult]
        rcases env.decodeDnsResponse (buf.take dnsUdpBufferSize) id server with err | message
        · rfl
        · change _ = (Except.ok (if message.truncated then _ else _), max now e.time)
          dsimp only
          split_ifs <;> rfl
      · rw [if_pos hpeer, ih, if_neg (Bool.eq_false_iff.mp (decide_eq_false hpeer))]
    · rfl

theorem queryUdp_eq {request : List UInt8} :
    s.queryUdp env id request server
      = s.udpExchange request server >>= udpResult env id server := by
  rw [queryUdp, udpExchange, queryUdpLoop_eq, bind_assoc]
  refine bind_congr fun _ ↦ ?_
  rw [bind_assoc]
  rfl

theorem exists_of_buildAQuery {host : String} {request : List UInt8}
    (h : env.buildAQuery id host = .ok request) :
    ∃ name, env.messageToVec id name = .ok request := by
  obtain ⟨name, -, hname⟩ := bind_eq_ok_iff.mp h
  exact ⟨name, mapError_eq_ok_iff.mp hname⟩

/-- **The two levels agree**: with the sockets of each query in the place of the exchanges, the
resolver's model of a query gives what the code does with the sockets, if no message is longer than
the length in front of it can say. -/
theorem queryServerMessage_onWire (sockets : ℕ → DnsSockets)
    (hsize : ∀ id name request, env.messageToVec id name = .ok request → request.length ≤ 65535)
    (tick : ℕ) (host : String) :
    (env.onWire sockets).queryServerMessage tick id host server
      = (sockets tick).queryServerMessage env id host server := by
  rw [queryServerMessage, DnsEnv.queryServerMessage]
  change env.buildAQuery id host >>= _ = _
  rcases hrequest : env.buildAQuery id host with err | request
  · rfl
  obtain ⟨name, hname⟩ := exists_of_buildAQuery hrequest
  have hfits : ¬65535 < request.length := Nat.not_lt.mpr (hsize id name request hname)
  change (env.onWire sockets).queryUdp tick id request server >>= _
    = (sockets tick).queryUdp env id request server >>= _
  have hudp : (env.onWire sockets).queryUdp tick id request server
      = (sockets tick).queryUdp env id request server := by
    rw [queryUdp_eq]
    rfl
  rw [hudp]
  refine bind_congr fun result ↦ ?_
  rcases result with message | _
  · rfl
  · change (env.onWire sockets).queryTcp tick id request server
      = (sockets tick).queryTcp env id request server
    rw [DnsEnv.queryTcp, if_neg hfits, queryTcp]
    exact bind_assoc ..

/-! ## Answers -/

/-- An answer to the query with this id. -/
structure IsAnswer (env : DnsEnv) (id : UInt16) (payload : List UInt8) (message : Message) :
    Prop where
  decodes : env.messageFromVec payload = .ok message
  id : message.id = id
  response : message.isResponse = true
  noError : message.responseCode = .noError

theorem decodeDnsResponse_eq_ok_iff {payload : List UInt8} {message : Message} :
    env.decodeDnsResponse payload id server = .ok message ↔ IsAnswer env id payload message := by
  rw [DnsEnv.decodeDnsResponse, bind_eq_ok_iff]
  constructor
  · rintro ⟨m, hm, h⟩
    have hdecodes := mapError_eq_ok_iff.mp hm
    by_cases hid : m.id = id
    · rw [if_neg (not_not.mpr hid)] at h
      rcases hresponse : m.isResponse with _ | _
      · rw [hresponse] at h
        cases h
      rcases hcode : m.responseCode with _ | text
      · rw [hresponse, hcode] at h
        obtain rfl := Except.ok.inj h
        exact ⟨hdecodes, hid, hresponse, hcode⟩
      · rw [hresponse, hcode] at h
        cases h
    · rw [if_pos hid] at h
      cases h
  · rintro ⟨hdecodes, hid, hresponse, hcode⟩
    refine ⟨message, mapError_eq_ok_iff.mpr hdecodes, ?_⟩
    rw [if_neg (not_not.mpr hid), hresponse, hcode]
    rfl

/-- The server's datagram that the query waits for. -/
def HearsServer (s : DnsSockets) (server : SocketAddr) (buf : List UInt8) : Prop :=
  Hears (·.2 = server) dnsIoTimeout (s.udpClock + dnsIoTimeout) s.udpClock s.datagrams (buf, server)

theorem heard_eq_ok_iff {r : Except (Failure String) Datagram} {payload : List UInt8} :
    s.heard server r = .ok payload
      ↔ ∃ d : Datagram, r = .ok d ∧ payload = d.1.take dnsUdpBufferSize := by
  constructor
  · intro h
    rcases r with failure | d
    · rcases failure <;> cases h
    · exact ⟨d, rfl, (Except.ok.inj h).symm⟩
  · rintro ⟨d, rfl, rfl⟩
    rfl

theorem waitFor_eq_ok_iff {d : Datagram} :
    (s.waitFor server).1 = .ok d ↔ d.2 = server ∧ s.HearsServer server d.1 := by
  rw [waitFor, firstWhere_eq_ok_iff (Nat.lt_add_of_pos_right (by decide)) le_rfl]
  constructor
  · intro h
    have hpeer : d.2 = server := by
      obtain ⟨-, -, -, -, -, haccept, -⟩ := h
      exact of_decide_eq_true haccept
    subst hpeer
    exact ⟨rfl, h⟩
  · rintro ⟨rfl, h⟩
    exact h

/-- The calls that send the request over UDP. -/
def SendsUdp (s : DnsSockets) (request : List UInt8) (server : SocketAddr) : Prop :=
  s.bindUdpSocket server = .ok () ∧ s.sendTo request server = .ok ()

theorem udpExchange_eq_ok_iff {request payload : List UInt8} :
    s.udpExchange request server = .ok payload ↔ s.SendsUdp request server
      ∧ ∃ buf, s.HearsServer server buf ∧ payload = buf.take dnsUdpBufferSize := by
  rw [udpExchange, bind_eq_ok_iff]
  constructor
  · rintro ⟨_, hbind, h⟩
    obtain ⟨_, hsend, h'⟩ := bind_eq_ok_iff.mp h
    obtain ⟨d, hd, rfl⟩ := heard_eq_ok_iff.mp h'
    exact ⟨⟨hbind, mapError_eq_ok_iff.mp hsend⟩, d.1, (waitFor_eq_ok_iff.mp hd).2, rfl⟩
  · rintro ⟨⟨hbind, hsend⟩, buf, hhears, rfl⟩
    refine ⟨(), hbind, bind_eq_ok_iff.mpr ⟨(), mapError_eq_ok_iff.mpr hsend, ?_⟩⟩
    exact heard_eq_ok_iff.mpr ⟨(buf, server), waitFor_eq_ok_iff.mpr ⟨rfl, hhears⟩, rfl⟩

/-- The calls that send the request over TCP. -/
def SendsTcp (s : DnsSockets) (request : List UInt8) (server : SocketAddr) : Prop :=
  s.connectTcp server = .ok () ∧ request.length ≤ 65535
    ∧ s.writeLength (toBeBytes (UInt16.ofNat request.length)) = .ok ()
    ∧ s.writeRequest request = .ok ()

/-- The stream begins with a message that has its length in front of it. -/
def HearsFramed (s : DnsSockets) (payload : List UInt8) : Prop :=
  payload ≠ [] ∧ payload.length ≤ dnsTcpMaxPayload
    ∧ Begins dnsIoTimeout s.tcpClock s.incoming
      (toBeBytes (UInt16.ofNat payload.length) ++ payload)

theorem readExact_eq_ok_iff {context : String} {es : List (Arrival (Chunk UInt8 String))}
    {n now : ℕ} {r : List UInt8 × ℕ × List (Arrival (Chunk UInt8 String))} :
    s.readExact context es n now = .ok r ↔ Timed.readExact dnsIoTimeout es n now = .ok r := by
  rw [readExact, orRuntime, mapError_eq_ok_iff, mapError_eq_ok_iff]

theorem exchangeTcp_eq_ok_iff {request payload : List UInt8} :
    s.exchangeTcp request = .ok payload ↔ request.length ≤ 65535
      ∧ s.writeLength (toBeBytes (UInt16.ofNat request.length)) = .ok ()
      ∧ s.writeRequest request = .ok () ∧ s.HearsFramed payload := by
  rw [exchangeTcp]
  by_cases hlarge : 65535 < request.length
  · rw [if_pos hlarge]
    exact iff_of_false nofun fun h ↦ absurd h.1 (Nat.not_le.mpr hlarge)
  rw [if_neg hlarge]
  constructor
  · intro h
    obtain ⟨_, hwrite, h⟩ := bind_eq_ok_iff.mp h
    obtain ⟨_, hlength, hrequest⟩ := bind_eq_ok_iff.mp (mapError_eq_ok_iff.mp hwrite)
    obtain ⟨⟨lenBuf, now, es⟩, hlen, h⟩ := bind_eq_ok_iff.mp h
    rw [readExact_eq_ok_iff] at hlen
    obtain ⟨high, low, rfl⟩ :=
      List.length_eq_two.mp (Timed.readExact_eq_ok_iff.mp ⟨_, hlen⟩).1
    simp only [List.getD_cons_zero, List.getD_cons_succ] at h
    by_cases hinvalid : (fromBeBytes high low).toNat = 0
        ∨ dnsTcpMaxPayload < (fromBeBytes high low).toNat
    · rw [if_pos hinvalid] at h
      cases h
    rw [if_neg hinvalid] at h
    obtain ⟨⟨payload', r⟩, hpayload, heq⟩ := bind_eq_ok_iff.mp h
    obtain rfl : payload' = payload := Except.ok.inj heq
    rw [readExact_eq_ok_iff] at hpayload
    obtain ⟨hcount, hbegins⟩ := Timed.readExact_eq_ok_iff.mp ⟨r, hpayload⟩
    have hframe : toBeBytes (UInt16.ofNat payload'.length) = [high, low] := by
      rw [hcount, UInt16.ofNat_toNat, toBeBytes_fromBeBytes]
    refine ⟨Nat.le_of_not_lt hlarge, hlength, hrequest, ?_, by omega, ?_⟩
    · rintro rfl
      exact hinvalid (.inl hcount.symm)
    · rw [hframe]
      exact begins_append_iff.mpr ⟨now, es, hlen, hbegins⟩
  · rintro ⟨-, hlength, hrequest, hne, hmax, hbegins⟩
    obtain ⟨now, es, hlen, hrest⟩ := begins_append_iff.mp hbegins
    obtain ⟨r, hpayload⟩ := Timed.readExact_eq_ok_iff.mpr ⟨rfl, hrest⟩
    obtain ⟨high, low, hbytes, hback⟩ := exists_toBeBytes (UInt16.ofNat payload.length)
    have hcount : (fromBeBytes high low).toNat = payload.length := by
      rw [hback, UInt16.toNat_ofNat']
      exact Nat.mod_eq_of_lt (Nat.lt_succ_of_le hmax)
    have hvalid : ¬(payload.length = 0 ∨ dnsTcpMaxPayload < payload.length) := by
      rintro (hzero | hlt)
      · exact hne (List.eq_nil_of_length_eq_zero hzero)
      · exact absurd hmax (Nat.not_le.mpr hlt)
    rw [hbytes] at hlen
    refine bind_eq_ok_iff.mpr ⟨(), ?_, bind_eq_ok_iff.mpr
      ⟨([high, low], now, es), readExact_eq_ok_iff.mpr hlen, ?_⟩⟩
    · exact mapError_eq_ok_iff.mpr (bind_eq_ok_iff.mpr ⟨(), hlength, hrequest⟩)
    · simp only [List.getD_cons_zero, List.getD_cons_succ]
      rw [hcount, if_neg hvalid]
      exact bind_eq_ok_iff.mpr ⟨(payload, r), readExact_eq_ok_iff.mpr hpayload, rfl⟩

/-- How a query gets an answer. -/
inductive Answers (s : DnsSockets) (env : DnsEnv) (id : UInt16) (request : List UInt8)
    (server : SocketAddr) (message : Message) : Prop
  | udp {buf : List UInt8} (hsends : s.SendsUdp request server) (hhears : s.HearsServer server buf)
      (hanswer : IsAnswer env id (buf.take dnsUdpBufferSize) message)
      (hwhole : message.truncated = false)
  | tcp {buf payload : List UInt8} {first : Message} (hsends : s.SendsUdp request server)
      (hhears : s.HearsServer server buf)
      (hfirst : IsAnswer env id (buf.take dnsUdpBufferSize) first)
      (hcut : first.truncated = true) (hsends' : s.SendsTcp request server)
      (hhears' : s.HearsFramed payload) (hanswer : IsAnswer env id payload message)

theorem queryUdp_eq_ok_iff {request : List UInt8} {result : UdpQueryResult} :
    s.queryUdp env id request server = .ok result ↔ s.SendsUdp request server
      ∧ ∃ buf message, s.HearsServer server buf
        ∧ IsAnswer env id (buf.take dnsUdpBufferSize) message
        ∧ result = if message.truncated then .truncated else .complete message := by
  rw [queryUdp_eq, bind_eq_ok_iff]
  constructor
  · rintro ⟨payload, hudp, h⟩
    obtain ⟨hsends, buf, hhears, rfl⟩ := udpExchange_eq_ok_iff.mp hudp
    obtain ⟨message, hdecode, hresult⟩ := bind_eq_ok_iff.mp h
    exact ⟨hsends, buf, message, hhears, decodeDnsResponse_eq_ok_iff.mp hdecode,
      (Except.ok.inj hresult).symm⟩
  · rintro ⟨hsends, buf, message, hhears, hanswer, rfl⟩
    refine ⟨_, udpExchange_eq_ok_iff.mpr ⟨hsends, buf, hhears, rfl⟩, ?_⟩
    exact bind_eq_ok_iff.mpr ⟨message, decodeDnsResponse_eq_ok_iff.mpr hanswer, rfl⟩

theorem queryTcp_eq_ok_iff {request : List UInt8} {message : Message} :
    s.queryTcp env id request server = .ok message ↔ s.SendsTcp request server
      ∧ ∃ payload, s.HearsFramed payload ∧ IsAnswer env id payload message := by
  rw [queryTcp, bind_eq_ok_iff]
  constructor
  · rintro ⟨_, hconnect, h⟩
    obtain ⟨payload, hexchange, hdecode⟩ := bind_eq_ok_iff.mp h
    obtain ⟨hsize, hlength, hrequest, hhears⟩ := exchangeTcp_eq_ok_iff.mp hexchange
    exact ⟨⟨hconnect, hsize, hlength, hrequest⟩, payload, hhears,
      decodeDnsResponse_eq_ok_iff.mp hdecode⟩
  · rintro ⟨⟨hconnect, hsize, hlength, hrequest⟩, payload, hhears, hanswer⟩
    refine ⟨(), hconnect, bind_eq_ok_iff.mpr ⟨payload, ?_, ?_⟩⟩
    · exact exchangeTcp_eq_ok_iff.mpr ⟨hsize, hlength, hrequest, hhears⟩
    · exact decodeDnsResponse_eq_ok_iff.mpr hanswer

/-- **When a query gets an answer**: the first datagram of the server decides, if it comes in time
and has only datagrams of others in front of it. If it says that it was cut off, what the TCP stream
begins with decides instead, however that is split into reads. -/
theorem queryServerMessage_eq_ok_iff {host : String} {message : Message} :
    s.queryServerMessage env id host server = .ok message
      ↔ ∃ request, env.buildAQuery id host = .ok request
        ∧ Answers s env id request server message := by
  rw [queryServerMessage, bind_eq_ok_iff]
  refine exists_congr fun request ↦ and_congr_right fun _ ↦ ?_
  rw [bind_eq_ok_iff]
  constructor
  · rintro ⟨result, hudp, h⟩
    obtain ⟨hsends, buf, first, hhears, hfirst, rfl⟩ := queryUdp_eq_ok_iff.mp hudp
    rcases htruncated : first.truncated with _ | _
    · rw [htruncated] at h
      obtain rfl := Except.ok.inj h
      exact .udp hsends hhears hfirst htruncated
    · rw [htruncated] at h
      obtain ⟨hsends', payload, hhears', hanswer⟩ := queryTcp_eq_ok_iff.mp h
      exact .tcp hsends hhears hfirst htruncated hsends' hhears' hanswer
  · rintro (⟨hsends, hhears, hanswer, hwhole⟩ | ⟨hsends, hhears, hfirst, hcut, hsends', hhears',
      hanswer⟩)
    · refine ⟨_, queryUdp_eq_ok_iff.mpr ⟨hsends, _, _, hhears, hanswer, rfl⟩, ?_⟩
      rw [hwhole]
      rfl
    · refine ⟨_, queryUdp_eq_ok_iff.mpr ⟨hsends, _, _, hhears, hfirst, rfl⟩, ?_⟩
      rw [hcut]
      exact queryTcp_eq_ok_iff.mpr ⟨hsends', _, hhears', hanswer⟩

/-! ## What others send -/

/-- The same event, or two datagrams of others, at the same time. -/
def SameToServer (server : SocketAddr) :
    Arrival (Except String Datagram) → Arrival (Except String Datagram) → Prop :=
  SameAccepted (·.2 = server)

/-- **What others send changes nothing**, whatever it is and whoever sends it: the query comes to
the same result at the same time, and no later than one time limit after its deadline. -/
theorem queryServerMessage_undisturbed {host : String}
    {others : List (Arrival (Except String Datagram))}
    (h : List.Forall₂ (SameToServer server) s.datagrams others) :
    { s with datagrams := others }.queryServerMessage env id host server
        = s.queryServerMessage env id host server
      ∧ { s with datagrams := others }.queryUdpLoop env id server (s.udpClock + dnsIoTimeout) others
          s.udpClock
        = s.queryUdpLoop env id server (s.udpClock + dnsIoTimeout) s.datagrams s.udpClock
      ∧ (s.queryUdpLoop env id server (s.udpClock + dnsIoTimeout) s.datagrams s.udpClock).2
        ≤ s.udpClock + 2 * dnsIoTimeout := by
  have hwait : { s with datagrams := others }.waitFor server = s.waitFor server :=
    (firstWhere_congr h _).symm
  refine ⟨?_, ?_, ?_⟩
  · have hudp : ∀ request, { s with datagrams := others }.queryUdp env id request server
        = s.queryUdp env id request server := by
      intro request
      rw [queryUdp_eq, queryUdp_eq, udpExchange, hwait]
      rfl
    rw [queryServerMessage]
    simp only [hudp]
    rfl
  · rw [queryUdpLoop_eq, queryUdpLoop_eq, ← firstWhere_congr h]
    rfl
  · rw [queryUdpLoop_eq, Nat.two_mul, ← Nat.add_assoc]
    exact firstWhere_le _ _ (by omega)

/-! ## A crowded socket -/

/-- Messages of six bytes: the id, whether the message was cut off, and an address. -/
def sixByteCodec : DnsEnv :=
  { DnsEnv.offline fun _ ↦ none with
    messageToVec := fun id _ ↦ .ok [id.toUInt8]
    messageFromVec := fun
      | [id, cut, a, b, c, d] => .ok ⟨id.toUInt16, true, .noError, cut = 1, [.a ⟨a, b, c, d⟩]⟩
      | _ => .error "not six bytes" }

def campusServer : SocketAddr := .v4 ⟨⟨10, 166, 1, 1⟩, 53⟩

/-- The server's datagram comes behind one of somebody else and says that it was cut off. The answer
comes over TCP in three reads. -/
def crowdedSockets : DnsSockets where
  bind _ := .ok ()
  setReadTimeout := .ok ()
  setWriteTimeout := .ok ()
  sendTo _ _ := .ok ()
  udpClock := 0
  datagrams := [⟨10, .ok ([7, 0, 6, 6, 6, 6], .v4 ⟨⟨6, 6, 6, 6⟩, 53⟩)⟩,
    ⟨30, .ok ([7, 1, 0, 0, 0, 0], campusServer)⟩]
  connect _ := .ok ()
  tcpSetReadTimeout := .ok ()
  tcpSetWriteTimeout := .ok ()
  writeLength _ := .ok ()
  writeRequest _ := .ok ()
  tcpClock := 40
  incoming := [⟨50, .data [0]⟩, ⟨60, .interrupted⟩, ⟨90, .data [6, 7, 0]⟩,
    ⟨1200, .data [10, 166, 35, 11, 99]⟩]
  timedOut := "timed out"

theorem queryServerMessage_onWire_crowded :
    (sixByteCodec.onWire fun _ ↦ crowdedSockets).queryServerMessage 0 7 "ids.shiep.edu.cn"
      campusServer = .ok ⟨7, true, .noError, false, [.a ⟨10, 166, 35, 11⟩]⟩ := by
  rw [queryServerMessage_onWire]
  · decide +kernel
  · rintro id name request hrequest
    obtain rfl := Except.ok.inj hrequest
    exact Nat.le_of_ble_eq_true rfl

theorem queryServerMessage_undisturbed_crowded :
    { crowdedSockets with
      datagrams := [⟨10, .ok ([], .v4 ⟨⟨8, 8, 8, 8⟩, 1⟩)⟩,
        ⟨30, .ok ([7, 1, 0, 0, 0, 0], campusServer)⟩] }.queryServerMessage sixByteCodec 7
          "ids.shiep.edu.cn" campusServer
      = crowdedSockets.queryServerMessage sixByteCodec 7 "ids.shiep.edu.cn" campusServer :=
  (queryServerMessage_undisturbed (.cons (.passedOver (by decide) (by decide))
    (.cons .same .nil))).1

end DnsSockets

end ShiepPipeline
