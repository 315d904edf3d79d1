import ShiepPipeline.Endpoint
import ShiepPipeline.Text.Utf8
import ShiepPipeline.Tunnel.HeartbeatPacket
import ShiepPipeline.Tunnel.Reading
import ShiepPipeline.Tunnel.StreamOpen

/-!
# The token of a session

The server knows a session of the tunnel by 48 bytes, which every message of the client carries.
They are made of the id of a TLS session that is opened for this alone, in hexadecimal, and of the
id that the login got.

`ClientMessage.eq_of_bytes_eq` says that no two messages look alike, whatever they are for.
`parseProtocolToken_acquired` says which logins have a token at all, and what the server finds in
it.
-/

open Str Utf8

namespace ShiepPipeline

/-! ## Messages -/

def buildQueryIpMessage (token : Vector UInt8 protocolTokenLen) : List UInt8 :=
  buildCommandMessage 0 token

def buildInitialQueryIpMessage (token : Vector UInt8 protocolTokenLen) : List UInt8 :=
  copyFromSlice (buildQueryIpMessage token) 60 [0xff, 0xff, 0xff, 0xff]

/-- What the server reads in 64 bytes: a code, the token and four more bytes at the end. -/
structure WireMessage where
  opCode : UInt32
  token : Vector UInt8 protocolTokenLen
  tail : Vector UInt8 4
deriving DecidableEq

namespace WireMessage

def encode (m : WireMessage) : List UInt8 :=
  toLeBytes m.opCode ++ m.token.toList ++ List.replicate 8 0 ++ m.tail.toList

theorem encode_inj {m m' : WireMessage} (h : m.encode = m'.encode) : m = m' := by
  obtain ⟨hfront, htail⟩ := List.append_inj' h (by simp)
  obtain ⟨hhead, -⟩ := List.append_inj' hfront rfl
  obtain ⟨hcode, htoken⟩ := List.append_inj hhead rfl
  have hcode' : m.opCode = m'.opCode := by
    rw [← leCode_toLeBytes_append m.opCode [], hcode, leCode_toLeBytes_append]
  cases m
  cases m'
  rw [mk.injEq]
  exact ⟨hcode', Vector.toList_inj.mp htoken, Vector.toList_inj.mp htail⟩

theorem length_encode (m : WireMessage) : m.encode.length = 64 := by
  rw [encode, List.length_append, List.length_append, List.length_append, Vector.length_toList,
    Vector.length_toList, List.length_replicate]
  rfl

end WireMessage

section Layout

variable (token : Vector UInt8 protocolTokenLen)

/-- A buffer that holds a code, with the rest of it still zero, and the token stored behind it. -/
theorem copyFromSlice_token {code : List UInt8} (hcode : code.length ≤ 4) :
    copyFromSlice (code ++ List.replicate (64 - code.length) 0) 4 token.toList
      = code ++ List.replicate (4 - code.length) 0 ++ token.toList ++ List.replicate 12 0 := by
  have htoken : token.toList.length = 48 := Vector.length_toList
  have hrest : code.length + (64 - code.length) - (4 + 48) = 12 := by omega
  rw [copyFromSlice_zeros token.toList hcode (by omega), htoken, hrest]
  simp only [List.append_assoc]

theorem buildCommandMessage_eq_encode (opCode : UInt32) :
    buildCommandMessage opCode token = WireMessage.encode ⟨opCode, token, .replicate 4 0⟩ := by
  have hcode : copyFromSlice (List.replicate 64 0) 0 (toLeBytes opCode)
      = toLeBytes opCode ++ List.replicate (64 - (toLeBytes opCode).length) 0 := rfl
  rw [buildCommandMessage, hcode, copyFromSlice_token token (le_refl 4), WireMessage.encode]
  simp only [List.append_assoc]
  rfl

/-- The last four bytes are stored when those before them are still zero. -/
theorem copyFromSlice_tail {code tail : List UInt8} (hcode : code.length = 4)
    (htail : tail.length = 4) :
    copyFromSlice (code ++ token.toList ++ List.replicate 12 0) 60 tail
      = code ++ token.toList ++ List.replicate 8 0 ++ tail := by
  have hlen : (code ++ token.toList).length = 52 := by
    rw [List.length_append, hcode, Vector.length_toList]
    rfl
  rw [copyFromSlice_zeros tail (by omega) (by omega), hlen, htail]
  simp only [List.append_assoc, Nat.reduceAdd, Nat.reduceSub, List.replicate_zero, List.append_nil]

theorem buildInitialQueryIpMessage_eq_encode :
    buildInitialQueryIpMessage token = WireMessage.encode ⟨0, token, .replicate 4 0xff⟩ := by
  have hzeros : List.replicate 8 (0 : UInt8) ++ (Vector.replicate 4 (0 : UInt8)).toList
      = List.replicate 12 0 := rfl
  rw [buildInitialQueryIpMessage, buildQueryIpMessage, buildCommandMessage_eq_encode,
    WireMessage.encode, List.append_assoc _ (List.replicate 8 0), hzeros,
    copyFromSlice_tail token rfl rfl]
  rfl

theorem toLeBytes_toUInt32 (b : UInt8) :
    toLeBytes b.toUInt32 = [b] ++ List.replicate (4 - [b].length) 0 := by
  have hb := b.toNat_lt
  have hzero : ∀ n : ℕ, 8 ≤ n → b.toNat / 2 ^ n = 0 := fun n hn ↦
    Nat.div_eq_of_lt (hb.trans_le (Nat.pow_le_pow_right (by decide) hn))
  have hbyte : b.toUInt32.toUInt8 = b := by simp
  have hhigh : ∀ n : UInt32, 8 ≤ n.toNat → n.toNat < 32 → (b.toUInt32 >>> n).toUInt8 = 0 := by
    intro n hn hlt
    apply UInt8.toNat_inj.mp
    rw [UInt32.toNat_toUInt8, UInt32.toNat_shiftRight, Nat.mod_eq_of_lt hlt,
      Nat.shiftRight_eq_div_pow, UInt8.toNat_toUInt32, hzero _ hn]
    rfl
  rw [toLeBytes, hbyte, hhigh 8 (by decide) (by decide), hhigh 16 (by decide) (by decide),
    hhigh 24 (by decide) (by decide)]
  rfl

theorem buildStreamHandshakeMessage_eq_encode (opCode : UInt8) (ipRev : Vector UInt8 4) :
    buildStreamHandshakeMessage opCode token ipRev
      = WireMessage.encode ⟨opCode.toUInt32, token, ipRev⟩ := by
  have hcode : (List.replicate 64 (0 : UInt8)).set 0 opCode
      = [opCode] ++ List.replicate (64 - [opCode].length) 0 := rfl
  rw [buildStreamHandshakeMessage, hcode, copyFromSlice_token token (by simp), ← toLeBytes_toUInt32,
    copyFromSlice_tail token rfl Vector.length_toList]
  rfl

end Layout

/-- What the client writes to the server in the name of a session: the query for its address, the
heartbeats of the command stream, and the handshakes of the streams for packets. -/
inductive ClientMessage
  | initialQuery (token : Vector UInt8 protocolTokenLen)
  | heartbeat (token : Vector UInt8 protocolTokenLen)
  | handshake (profile : StreamProfile) (kind : StreamOpenKind)
      (token : Vector UInt8 protocolTokenLen) (ipRev : Vector UInt8 4)
deriving DecidableEq

namespace ClientMessage

def bytes : ClientMessage → List UInt8
  | .initialQuery token => buildInitialQueryIpMessage token
  | .heartbeat token => buildCommandMessage 3 token
  | .handshake profile kind token ipRev =>
    buildStreamHandshakeMessage (profile.opCode kind) token ipRev

def message : ClientMessage → WireMessage
  | .initialQuery token => ⟨0, token, .replicate 4 0xff⟩
  | .heartbeat token => ⟨3, token, .replicate 4 0⟩
  | .handshake profile kind token ipRev => ⟨(profile.opCode kind).toUInt32, token, ipRev⟩

theorem bytes_eq_encode (m : ClientMessage) : m.bytes = m.message.encode := by
  cases m with
  | initialQuery token => exact buildInitialQueryIpMessage_eq_encode token
  | heartbeat token => exact buildCommandMessage_eq_encode token 3
  | handshake profile kind token ipRev =>
    exact buildStreamHandshakeMessage_eq_encode token _ ipRev

/-- The code names the stream and how it is opened, and no command has it. -/
theorem opCode_inj {profile profile' : StreamProfile} {kind kind' : StreamOpenKind} :
    (profile.opCode kind).toUInt32 = (profile'.opCode kind').toUInt32
      ↔ profile = profile' ∧ kind = kind' := by
  cases profile <;> cases kind <;> cases profile' <;> cases kind' <;> decide

theorem opCode_ne (profile : StreamProfile) (kind : StreamOpenKind) :
    (profile.opCode kind).toUInt32 ≠ 0 ∧ (profile.opCode kind).toUInt32 ≠ 3 := by
  cases profile <;> cases kind <;> decide

theorem message_inj {m m' : ClientMessage} (h : m.message = m'.message) : m = m' := by
  have hcode := congrArg WireMessage.opCode h
  have htoken := congrArg WireMessage.token h
  have htail := congrArg WireMessage.tail h
  cases m <;> cases m' <;> simp only [message] at hcode htoken htail
  case initialQuery.initialQuery => rw [htoken]
  case heartbeat.heartbeat => rw [htoken]
  case handshake.handshake =>
    obtain ⟨rfl, rfl⟩ := opCode_inj.mp hcode
    rw [htoken, htail]
  case initialQuery.heartbeat | heartbeat.initialQuery => exact absurd hcode (by decide)
  case initialQuery.handshake => exact absurd hcode.symm (opCode_ne _ _).1
  case handshake.initialQuery => exact absurd hcode (opCode_ne _ _).1
  case heartbeat.handshake => exact absurd hcode.symm (opCode_ne _ _).2
  case handshake.heartbeat => exact absurd hcode (opCode_ne _ _).2

theorem eq_of_bytes_eq {m m' : ClientMessage} (h : m.bytes = m'.bytes) : m = m' := by
  rw [bytes_eq_encode, bytes_eq_encode] at h
  exact message_inj (WireMessage.encode_inj h)

/-- The token it carries. -/
def token : ClientMessage → Vector UInt8 protocolTokenLen
  | .initialQuery token => token
  | .heartbeat token => token
  | .handshake _ _ token _ => token

end ClientMessage

/-! ## The token -/

def parseProtocolToken (token : String) : Except EcError (Vector UInt8 protocolTokenLen) :=
  if h : (asBytes token).length = protocolTokenLen then .ok ⟨(asBytes token).toArray, h⟩
  else
    .error (.runtime (s!"invalid protocol token length: expected {protocolTokenLen}, "
      ++ s!"got {(asBytes token).length}"))

theorem parseProtocolToken_eq_ok_iff {text : String} {token : Vector UInt8 protocolTokenLen} :
    parseProtocolToken text = .ok token ↔ token.toList = asBytes text := by
  rw [parseProtocolToken]
  constructor
  · intro h
    split_ifs at h with hlen
    obtain rfl := Except.ok.inj h
    rfl
  · intro h
    have hlen : (asBytes text).length = protocolTokenLen := by rw [← h, Vector.length_toList]
    rw [dif_pos hlen]
    exact congrArg _ (Vector.toList_inj.mp h.symm)

/-- `TOKEN_SESSION_HEX_SLICE_LEN`. -/
def tokenSessionHexSliceLen : ℕ := 31

/-- `TOKEN_READ_DEADLINE`, eight seconds, in nanoseconds. -/
def tokenReadDeadline : ℕ := 8 * 10 ^ 9

def buildTokenRequest (authority twfId : String) : String :=
  s!"GET /por/conf.csp HTTP/1.1\r\nHost: {authority}\r\nCookie: TWFID={twfId}\r\n"
    ++ "Connection: keep-alive\r\n\r\n"
    ++ s!"GET /por/rclist.csp HTTP/1.1\r\nHost: {authority}\r\nCookie: TWFID={twfId}\r\n"
    ++ "Connection: close\r\n\r\n"

/-- A stream whose TLS session may have an id. -/
structure TokenStream extends TlsStream where
  sessionId : Option (List UInt8)

/-- The loop of `fetch_agent_token` with the bytes that it has collected. A read fills a buffer of
4096 bytes at most. -/
def readTokenLoop (deadline : ℕ) :
    List Delivery → ℕ → List UInt8 → Option (Except EcError (List UInt8))
  | incoming, clock, sink =>
    if clock < deadline then
      match incoming with
      | [] => none
      | d :: incoming =>
        match d.result with
        | .ok [] => some (.ok sink)
        | .ok (byte :: bytes) =>
          readTokenLoop deadline incoming (max clock d.time) (sink ++ byte :: bytes)
        | .error e =>
          if isWouldblockOrTimeout e.kind then some (.ok sink)
          else some (.error (.runtime s!"token response read failed: {e.text}"))
    else some (.ok sink)

section Fetch

variable (connectTls : String → String → Except EcError TokenStream)
  (hexEncode : List UInt8 → String)

/-- The part of `fetch_agent_token` behind its loop. -/
def agentToken (sessionId : Option (List UInt8)) (sink : List UInt8) : Except EcError String :=
  if sink = [] then .error (.runtime "token response is empty or timed out")
  else
    match sessionId with
    | none => .error (.runtime "missing server tls session")
    | some id =>
      if id = [] then .error (.runtime "server tls session id is empty")
      else
        let hex := hexEncode id
        if (asBytes hex).length < tokenSessionHexSliceLen then
          .error (.runtime s!"server session id hex too short: {(asBytes hex).length}")
        else .ok (String.ofList (hex.toList.take tokenSessionHexSliceLen) ++ "\x00")

/-- `fetch_agent_token`, with the connection and the encoder of the ids as parameters. -/
def fetchAgentToken (server twfId : String) : Option (Except EcError String) :=
  match parseServer server with
  | .error e => some (.error e)
  | .ok (authority, host) =>
    match connectTls authority host with
    | .error e => some (.error e)
    | .ok stream =>
      match stream.write (asBytes (buildTokenRequest authority twfId)) with
      | .error e => some (.error (.runtime s!"token request write failed: {e}"))
      | .ok () =>
        (readTokenLoop (stream.clock + tokenReadDeadline) stream.incoming stream.clock []).map
          fun response ↦ response >>= agentToken hexEncode stream.sessionId

/-- `acquire_protocol_token`. -/
def acquireProtocolToken (server twfId : String) : Option (Except EcError String) :=
  (fetchAgentToken connectTls hexEncode server twfId).map fun token ↦
    token.map fun agentToken ↦ agentToken ++ twfId

end Fetch

/-! ## What the server finds in a token -/

/-- `heartbeat_session`, the end of the token. -/
def heartbeatSession (token : Vector UInt8 protocolTokenLen) : Vector UInt8 16 :=
  (token.extract 32 48).cast (by decide)

/-- Two digits a byte, in lower case. -/
structure IsHexEncode (hexEncode : List UInt8 → String) : Prop where
  toList : ∀ bytes, (hexEncode bytes).toList = bytes.flatMap fun b ↦ (hexByte b).toList

/-- The bytes of the digits. -/
def hexDigits (bytes : List UInt8) : List UInt8 := bytes.flatMap fun b ↦ asBytes (hexByte b)

/-- The byte of a digit. -/
def hexDigit (n : ℕ) : UInt8 := UInt8.ofNat (Nat.digitChar n).toNat

theorem hexDigit_inj {n m : ℕ} (hn : n < 16) (hm : m < 16) : hexDigit n = hexDigit m ↔ n = m := by
  have h : ∀ n < 16, ∀ m < 16, hexDigit n = hexDigit m → n = m := by decide
  exact ⟨h n hn m hm, congrArg hexDigit⟩

theorem asBytes_hexByte (b : UInt8) :
    asBytes (hexByte b) = [hexDigit (b.toNat / 16), hexDigit (b.toNat % 16)] := by
  have hb := b.toNat_lt
  have hascii : ∀ n < 16, (Nat.digitChar n).toNat < 0x80 := by decide
  rw [asBytes_eq_flatMap, hexByte, String.toList_ofList, List.flatMap_cons, List.flatMap_singleton,
    utf8EncodeChar_of_lt (hascii _ (by omega)), utf8EncodeChar_of_lt (hascii _ (by omega))]
  rfl

theorem length_flatMap_two {α β : Type} {f : α → List β} (hf : ∀ a, (f a).length = 2)
    (l : List α) : (l.flatMap f).length = 2 * l.length := by
  induction l with
  | nil => rfl
  | cons a l ih =>
    rw [List.flatMap_cons, List.length_append, hf, ih, List.length_cons]
    omega

theorem length_hexDigits (bytes : List UInt8) : (hexDigits bytes).length = 2 * bytes.length :=
  length_flatMap_two (fun b ↦ by rw [asBytes_hexByte]; rfl) bytes

theorem hexDigits_append (bytes bytes' : List UInt8) :
    hexDigits (bytes ++ bytes') = hexDigits bytes ++ hexDigits bytes' :=
  List.flatMap_append

theorem hexDigits_cons (b : UInt8) (bytes : List UInt8) :
    hexDigits (b :: bytes)
      = hexDigit (b.toNat / 16) :: hexDigit (b.toNat % 16) :: hexDigits bytes := by
  rw [hexDigits, List.flatMap_cons, asBytes_hexByte]
  rfl

theorem hexDigits_inj {bytes bytes' : List UInt8} :
    hexDigits bytes = hexDigits bytes' ↔ bytes = bytes' := by
  constructor
  · intro h
    induction bytes generalizing bytes' with
    | nil =>
      have := congrArg List.length h
      rw [length_hexDigits, length_hexDigits] at this
      exact (List.length_eq_zero_iff.mp (by simpa using this.symm)).symm
    | cons b bytes ih =>
      obtain _ | ⟨b', bytes'⟩ := bytes'
      · have := congrArg List.length h
        rw [length_hexDigits, length_hexDigits, List.length_cons] at this
        simp at this
      · rw [hexDigits_cons, hexDigits_cons] at h
        have hb := b.toNat_lt
        have hb' := b'.toNat_lt
        obtain ⟨hhigh, hdigits⟩ := List.cons.inj h
        obtain ⟨hlow, hrest⟩ := List.cons.inj hdigits
        rw [hexDigit_inj (by omega) (by omega)] at hhigh hlow
        rw [UInt8.toNat_inj.mp (show b.toNat = b'.toNat by omega), ih hrest]
  · rintro rfl
    rfl

/-- What is left of an id: fifteen bytes and the first digit of another one. -/
theorem exists_sixteen {id : List UInt8} (h : 16 ≤ id.length) :
    ∃ front b rest, id = front ++ b :: rest ∧ front.length = 15 := by
  refine ⟨id.take 15, id.get ⟨15, h⟩, id.drop 16, ?_, by rw [List.length_take]; omega⟩
  rw [List.get_eq_getElem, ← List.drop_eq_getElem_cons, List.take_append_drop]

theorem take_hexDigits {front rest : List UInt8} {b : UInt8} (hfront : front.length = 15) :
    (hexDigits (front ++ b :: rest)).take 31
      = hexDigits front ++ [hexDigit (b.toNat / 16)] := by
  have hlen : (hexDigits front).length = 30 := by rw [length_hexDigits, hfront]
  rw [hexDigits_append, List.take_append, hlen, List.take_of_length_le (by omega),
    hexDigits_cons]
  rfl

theorem toList_heartbeatSession (token : Vector UInt8 protocolTokenLen) :
    (heartbeatSession token).toList = token.toList.drop 32 := by
  rw [heartbeatSession, Vector.toList_cast, Vector.toList_extract]
  exact List.take_of_length_le (by rw [List.length_drop, Vector.length_toList]; decide)

section Agent

variable {hexEncode : List UInt8 → String}

theorem IsHexEncode.asBytes_eq (h : IsHexEncode hexEncode) (id : List UInt8) :
    asBytes (hexEncode id) = hexDigits id := by
  rw [asBytes_eq_flatMap, h.toList, List.flatMap_assoc, hexDigits]
  simp only [asBytes_eq_flatMap]

theorem IsHexEncode.asBytes_take (h : IsHexEncode hexEncode) {front rest : List UInt8} {b : UInt8}
    (hfront : front.length = 15) :
    asBytes (String.ofList ((hexEncode (front ++ b :: rest)).toList.take tokenSessionHexSliceLen))
      = hexDigits front ++ [hexDigit (b.toNat / 16)] := by
  have hlen : (front.flatMap fun b ↦ (hexByte b).toList).length = 30 := by
    rw [length_flatMap_two (fun b ↦ by rw [hexByte, String.toList_ofList]; rfl), hfront]
  have htake : (hexEncode (front ++ b :: rest)).toList.take tokenSessionHexSliceLen
      = (front.flatMap fun b ↦ (hexByte b).toList) ++ [Nat.digitChar (b.toNat / 16)] := by
    rw [h.toList, List.flatMap_append, List.flatMap_cons, List.take_append, hlen,
      List.take_of_length_le (by rw [hlen]; decide), hexByte, String.toList_ofList]
    rfl
  have hb := b.toNat_lt
  have hascii : ∀ n < 16, (Nat.digitChar n).toNat < 0x80 := by decide
  rw [asBytes_eq_flatMap, String.toList_ofList, htake, List.flatMap_append, List.flatMap_assoc,
    List.flatMap_singleton, utf8EncodeChar_of_lt (hascii _ (by omega)), hexDigits]
  simp only [asBytes_eq_flatMap]
  rfl

/-- An agent token is 31 digits of an id of sixteen bytes at least, and a zero. -/
theorem agentToken_eq_ok (h : IsHexEncode hexEncode) {sessionId : Option (List UInt8)}
    {sink : List UInt8} {token : String}
    (htoken : agentToken hexEncode sessionId sink = .ok token) :
    ∃ front b rest, sessionId = some (front ++ b :: rest) ∧ front.length = 15
      ∧ asBytes token = hexDigits front ++ [hexDigit (b.toNat / 16), 0] := by
  unfold agentToken at htoken
  split_ifs at htoken with hsink
  split at htoken
  · cases htoken
  · next id =>
    split_ifs at htoken with hid
    dsimp only at htoken
    split_ifs at htoken with hshort
    obtain rfl := Except.ok.inj htoken
    rw [h.asBytes_eq, length_hexDigits, tokenSessionHexSliceLen] at hshort
    have hsixteen : 16 ≤ id.length := by omega
    obtain ⟨front, b, rest, rfl, hfront⟩ := exists_sixteen hsixteen
    refine ⟨front, b, rest, rfl, hfront, ?_⟩
    rw [asBytes_append, h.asBytes_take hfront, List.append_assoc]
    rfl

/-- Where a token for the tunnel comes from. -/
theorem acquireProtocolToken_eq_ok {connectTls : String → String → Except EcError TokenStream}
    {server twfId text : String}
    (h : acquireProtocolToken connectTls hexEncode server twfId = some (.ok text)) :
    ∃ authority host stream sink agent, parseServer server = .ok (authority, host)
      ∧ connectTls authority host = .ok stream
      ∧ agentToken hexEncode stream.sessionId sink = .ok agent ∧ text = agent ++ twfId := by
  rw [acquireProtocolToken] at h
  obtain ⟨result, hfetch, hresult⟩ := Option.map_eq_some_iff.mp h
  obtain _ | agent := result
  · cases hresult
  obtain rfl := Except.ok.inj hresult
  unfold fetchAgentToken at hfetch
  split at hfetch
  · cases Option.some.inj hfetch
  next authority host hserver =>
    split at hfetch
    · cases Option.some.inj hfetch
    next stream hconnect =>
      split at hfetch
      · cases Option.some.inj hfetch
      · obtain ⟨response, -, hresponse⟩ := Option.map_eq_some_iff.mp hfetch
        obtain ⟨sink, -, hagent⟩ := bind_eq_ok_iff.mp hresponse
        exact ⟨authority, host, stream, sink, agent, hserver, hconnect, hagent, rfl⟩

/-- **Which logins have a token**: those whose id has sixteen bytes. The server finds that id at the
end of the token, behind 31 digits that the id of the TLS session gave. -/
theorem parseProtocolToken_acquired (hhex : IsHexEncode hexEncode)
    {connectTls : String → String → Except EcError TokenStream} {server twfId text : String}
    (h : acquireProtocolToken connectTls hexEncode server twfId = some (.ok text)) :
    ((∃ token, parseProtocolToken text = .ok token) ↔ (asBytes twfId).length = 16)
      ∧ ∀ token, parseProtocolToken text = .ok token →
        (heartbeatSession token).toList = asBytes twfId
          ∧ ∃ authority host stream id, connectTls authority host = .ok stream
            ∧ parseServer server = .ok (authority, host) ∧ stream.sessionId = some id
            ∧ token.toList.take 32 = (hexDigits id).take 31 ++ [0] := by
  obtain ⟨authority, host, stream, sink, agent, hserver, hconnect, hagent, rfl⟩ :=
    acquireProtocolToken_eq_ok h
  obtain ⟨front, b, rest, hid, hfront, hbytes⟩ := agentToken_eq_ok hhex hagent
  have hlen : (asBytes agent).length = 32 := by
    rw [hbytes, List.length_append, length_hexDigits, hfront]
    rfl
  constructor
  · constructor
    · rintro ⟨token, htoken⟩
      have hall := congrArg List.length (parseProtocolToken_eq_ok_iff.mp htoken)
      rw [Vector.length_toList, asBytes_append, List.length_append, hlen, protocolTokenLen] at hall
      omega
    · intro htwf
      have hall : (asBytes (agent ++ twfId)).length = protocolTokenLen := by
        rw [asBytes_append, List.length_append, hlen, htwf]
        rfl
      exact ⟨_, dif_pos hall⟩
  · intro token htoken
    have hall := parseProtocolToken_eq_ok_iff.mp htoken
    rw [asBytes_append] at hall
    refine ⟨?_, authority, host, stream, _, hconnect, hserver, hid, ?_⟩
    · rw [toList_heartbeatSession, hall, List.drop_left' hlen]
    · rw [hall, List.take_left' hlen, hbytes, take_hexDigits hfront, List.append_assoc]
      rfl

/-- **Messages of two sessions**: 64 bytes tell what they are for and which address they name, and
no two sessions share them unless they have the same login and nearly the same TLS session. -/
theorem sessions_apart (hhex : IsHexEncode hexEncode) {id id' sink sink' : List UInt8}
    {agent agent' twfId twfId' : String} {m m' : ClientMessage}
    (hagent : agentToken hexEncode (some id) sink = .ok agent)
    (hagent' : agentToken hexEncode (some id') sink' = .ok agent')
    (hm : parseProtocolToken (agent ++ twfId) = .ok m.token)
    (hm' : parseProtocolToken (agent' ++ twfId') = .ok m'.token) (h : m.bytes = m'.bytes) :
    m = m' ∧ m.bytes.length = 64 ∧ twfId = twfId' ∧ id.take 15 = id'.take 15 := by
  obtain rfl := ClientMessage.eq_of_bytes_eq h
  obtain ⟨front, b, rest, hid, hfront, hbytes⟩ := agentToken_eq_ok hhex hagent
  obtain ⟨front', b', rest', hid', hfront', hbytes'⟩ := agentToken_eq_ok hhex hagent'
  obtain rfl := Option.some.inj hid
  obtain rfl := Option.some.inj hid'
  rw [parseProtocolToken_eq_ok_iff, asBytes_append, hbytes] at hm
  rw [parseProtocolToken_eq_ok_iff, asBytes_append, hbytes'] at hm'
  have hlen : (hexDigits front).length = (hexDigits front').length := by
    rw [length_hexDigits, length_hexDigits, hfront, hfront']
  obtain ⟨hdigits, htwf⟩ := List.append_inj (hm.symm.trans hm')
    (by rw [List.length_append, List.length_append, hlen]; rfl)
  have hfronts : front = front' := hexDigits_inj.mp (List.append_inj hdigits hlen).1
  refine ⟨rfl, ?_, asBytes_inj.mp htwf, ?_⟩
  · rw [ClientMessage.bytes_eq_encode, WireMessage.length_encode]
  · rw [List.take_left' hfront, List.take_left' hfront', hfronts]

/-- The encoder that writes two digits a byte. -/
def hexOf (bytes : List UInt8) : String :=
  String.ofList (bytes.flatMap fun b ↦ (hexByte b).toList)

theorem isHexEncode_hexOf : IsHexEncode hexOf := ⟨fun _ ↦ String.toList_ofList⟩

/-- A server that answers with one byte, in a TLS session whose id is all zeros. -/
def zeroStream : TokenStream where
  clock := 0
  write _ := .ok ()
  incoming := [⟨1, .ok [0x48]⟩, ⟨2, .ok []⟩]
  sessionId := some (List.replicate 16 0)

theorem parseProtocolToken_acquired_zeroStream :
    ∃ text, acquireProtocolToken (fun _ _ ↦ .ok zeroStream) hexOf "vpn" "0123456789abcdef"
        = some (.ok text)
      ∧ ((∃ token, parseProtocolToken text = .ok token)
        ↔ (asBytes "0123456789abcdef").length = 16) := by
  have h : acquireProtocolToken (fun _ _ ↦ .ok zeroStream) hexOf "vpn" "0123456789abcdef"
      = some (.ok (String.ofList (List.replicate 31 '0') ++ "\x00" ++ "0123456789abcdef")) := by
    decide +kernel
  exact ⟨_, h, (parseProtocolToken_acquired isHexEncode_hexOf h).1⟩

theorem sessions_apart_zeros :
    ∃ token, agentToken hexOf (some (List.replicate 16 0)) [0x48] = .ok
          (String.ofList (List.replicate 31 '0') ++ "\x00")
      ∧ (ClientMessage.heartbeat token).bytes.length = 64 := by
  have hagent : agentToken hexOf (some (List.replicate 16 0)) [0x48]
      = .ok (String.ofList (List.replicate 31 '0') ++ "\x00") := by
    decide +kernel
  have htoken : (asBytes (String.ofList (List.replicate 31 '0') ++ "\x00"
      ++ "0123456789abcdef")).length = protocolTokenLen := by
    decide +kernel
  have hparse : parseProtocolToken (String.ofList (List.replicate 31 '0') ++ "\x00"
      ++ "0123456789abcdef") = .ok (ClientMessage.heartbeat ⟨⟨_⟩, htoken⟩).token := dif_pos htoken
  exact ⟨_, hagent, (sessions_apart isHexEncode_hexOf hagent hagent hparse hparse rfl).2.1⟩

end Agent

end ShiepPipeline
