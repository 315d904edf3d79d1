import ShiepPipeline.Tunnel.Token

/-!
# Opening the command stream

The first stream of a session asks the server for an address. The answer comes in one or several
reads, and what is read has no end of its own: the client stops when it has enough bytes for the
usual answer, or when the server closes the connection.

`openCommandStreamOnce_split` says which answers give which addresses, and that neither the reads
they come in nor what follows them makes a difference.
-/

open Str Utf8

namespace ShiepPipeline

/-! ## The answer -/

/-- `SEND_IP_REPLY_MIN_LEN`. -/
def sendIpReplyMinLen : ℕ := 16

/-- `SEND_IP_REPLY_EXPECTED_LEN`. -/
def sendIpReplyExpectedLen : ℕ := 36

/-- `QUERY_IP_REPLY_TIMEOUT`, ten seconds, in nanoseconds. -/
def queryIpReplyTimeout : ℕ := 10 * 10 ^ 9

structure SendIpReply where
  assignedIp : Vector UInt8 4
  lanIp : Vector UInt8 4
deriving DecidableEq

structure TunnelIps where
  assignedIp : Vector UInt8 4
  lanIp : Vector UInt8 4
deriving DecidableEq

def TunnelIps.ofReply (reply : SendIpReply) : TunnelIps := ⟨reply.assignedIp, reply.lanIp⟩

structure CommandStreamInit where
  ips : TunnelIps
deriving DecidableEq

/-- Four bytes of a slice. -/
def fourBytes (data : List UInt8) (start : ℕ) (h : start + 4 ≤ data.length) : Vector UInt8 4 :=
  ⟨((data.drop start).take 4).toArray, by
    rw [List.size_toArray, List.length_take, List.length_drop]
    omega⟩

def parseSendIpReply (data : List UInt8) : Except EcError SendIpReply :=
  if h : data.length < sendIpReplyMinLen then
    .error (.runtime s!"send-ip reply too short: {data.length} bytes")
  else if leCode data ≠ 0 then
    .error (.runtime s!"unexpected send-ip reply code: {leCode data}")
  else
    have hlen : 16 ≤ data.length := Nat.le_of_not_lt h
    .ok ⟨fourBytes data 4 (by omega), fourBytes data 12 (by omega)⟩

/-- The stream that `open_command_stream_once` puts into the holder, and what it returns. -/
structure CommandStream where
  held : TlsStream
  init : CommandStreamInit

section Open

variable (connectVpnTls : String → String → Except EcError TlsStream)

/-- The part of `open_command_stream_once` behind the read. -/
def commandStreamOf (result : Except EcError (List UInt8)) (stream : TlsStream) :
    Except EcError CommandStream :=
  match result with
  | .error e => .error (.runtime ("SEND_IP read failed: " ++ conciseError e))
  | .ok [] => .error (.runtime "SEND_IP reply is empty or timed out")
  | .ok (byte :: bytes) => do
    let reply ← parseSendIpReply (byte :: bytes)
    return ⟨stream, ⟨.ofReply reply⟩⟩

def openCommandStreamOnce (authority host : String) (token : Vector UInt8 protocolTokenLen) :
    Option (Except EcError CommandStream) :=
  match connectVpnTls authority host with
  | .error e => some (.error e)
  | .ok stream =>
    match stream.write (buildInitialQueryIpMessage token) with
    | .error e => some (.error (.runtime s!"SEND_IP write failed: {e}"))
    | .ok () =>
      (readAtLeast sendIpReplyExpectedLen 0x80 queryIpReplyTimeout stream).map fun r ↦
        commandStreamOf r.1 r.2

def openCommandStream (server token : String) : Option (Except EcError CommandStream) :=
  match parseServer server with
  | .error e => some (.error e)
  | .ok (authority, host) =>
    match parseProtocolToken token with
    | .error e => some (.error e)
    | .ok tokenBytes => openCommandStreamOnce connectVpnTls authority host tokenBytes

end Open

/-! ## Which answers give which addresses -/

/-- A code of zero, four bytes, four bytes of no meaning, four bytes, and anything. -/
def IsSendIpReply (data : List UInt8) (reply : SendIpReply) : Prop :=
  ∃ gap tail, gap.length = 4
    ∧ data = toLeBytes 0 ++ (reply.assignedIp.toList ++ (gap ++ (reply.lanIp.toList ++ tail)))

theorem toList_fourBytes {data : List UInt8} {start : ℕ} (h : start + 4 ≤ data.length) :
    (fourBytes data start h).toList = (data.drop start).take 4 := rfl

/-- Four bytes are those of their code. -/
theorem toLeBytes_leCode {data : List UInt8} (h : data.length = 4) :
    toLeBytes (leCode data) = data := by
  obtain ⟨a, b, c, d, rfl⟩ : ∃ a b c d, data = [a, b, c, d] := by
    match data, h with
    | [a, b, c, d], _ => exact ⟨a, b, c, d, rfl⟩
  have ha := a.toNat_lt
  have hb := b.toNat_lt
  have hc := c.toNat_lt
  have hd := d.toNat_lt
  have hcode : (leCode [a, b, c, d]).toNat
      = a.toNat + 256 * (b.toNat + 256 * (c.toNat + 256 * d.toNat)) := by
    rw [leCode, UInt32.toNat_ofNat', Nat.mod_eq_of_lt]
    · rfl
    · simp only [List.take_succ_cons, List.take_zero, fromLeBytes]
      omega
  have hbyte : ∀ (x : UInt8) (n : UInt32), n.toNat < 32
      → (leCode [a, b, c, d]).toNat / 2 ^ n.toNat % 256 = x.toNat
      → (leCode [a, b, c, d] >>> n).toUInt8 = x := by
    intro x n hn hx
    apply UInt8.toNat_inj.mp
    rwa [UInt32.toNat_toUInt8, UInt32.toNat_shiftRight, Nat.mod_eq_of_lt hn,
      Nat.shiftRight_eq_div_pow]
  have hlow : (leCode [a, b, c, d]).toUInt8 = a := by
    apply UInt8.toNat_inj.mp
    rw [UInt32.toNat_toUInt8, hcode]
    omega
  rw [toLeBytes, hlow, hbyte b 8 (by decide) (by rw [hcode]; simp; omega),
    hbyte c 16 (by decide) (by rw [hcode]; simp; omega),
    hbyte d 24 (by decide) (by rw [hcode]; simp; omega)]

theorem leCode_eq_zero_iff {data : List UInt8} (h : 4 ≤ data.length) :
    leCode data = 0 ↔ data.take 4 = toLeBytes 0 := by
  have htake : leCode data = leCode (data.take 4) := by
    rw [leCode, leCode, List.take_take, Nat.min_self]
  rw [htake]
  constructor
  · intro hzero
    rw [← hzero, toLeBytes_leCode (by rw [List.length_take]; omega)]
  · intro hzero
    rw [hzero, ← List.append_nil (toLeBytes 0), leCode_toLeBytes_append]

theorem take_drop_append {α : Type} (data : List α) (n : ℕ) :
    (data.drop n).take 4 ++ data.drop (n + 4) = data.drop n := by
  rw [← List.drop_drop, List.take_append_drop]

theorem parseSendIpReply_eq_ok_iff {data : List UInt8} {reply : SendIpReply} :
    parseSendIpReply data = .ok reply ↔ IsSendIpReply data reply := by
  rw [parseSendIpReply]
  constructor
  · intro h
    split_ifs at h with hshort hcode
    have hlen : 16 ≤ data.length := Nat.le_of_not_lt hshort
    rw [not_not, leCode_eq_zero_iff (by omega)] at hcode
    obtain rfl := Except.ok.inj h
    refine ⟨(data.drop 8).take 4, data.drop 16, by rw [List.length_take, List.length_drop]; omega,
      ?_⟩
    rw [toList_fourBytes, toList_fourBytes, take_drop_append data 12, take_drop_append data 8,
      take_drop_append data 4, ← hcode, List.take_append_drop]
  · rintro ⟨gap, tail, hgap, rfl⟩
    obtain ⟨assignedIp, lanIp⟩ := reply
    have hassigned : assignedIp.toList.length = 4 := Vector.length_toList
    have hlan : lanIp.toList.length = 4 := Vector.length_toList
    have hzero : (toLeBytes 0).length = 4 := rfl
    have hlen : ¬ (toLeBytes 0 ++ (assignedIp.toList ++ (gap ++ (lanIp.toList ++ tail)))).length
        < sendIpReplyMinLen := by
      simp only [List.length_append, hzero, hassigned, hgap, hlan, sendIpReplyMinLen]
      omega
    rw [dif_neg hlen, if_neg (not_not.mpr (leCode_toLeBytes_append 0 _))]
    refine congrArg Except.ok (congrArg₂ SendIpReply.mk ?_ ?_)
    · rw [← Vector.toList_inj, toList_fourBytes]
      exact take_drop_field hzero hassigned
    · rw [← Vector.toList_inj, toList_fourBytes, ← List.append_assoc, ← List.append_assoc]
      exact take_drop_field (by simp only [List.length_append, hzero, hassigned, hgap]) hlan

theorem not_isSendIpReply_nil (reply : SendIpReply) : ¬ IsSendIpReply [] reply := by
  rintro ⟨gap, tail, -, h⟩
  cases h

/-- More bytes behind an answer that is long enough change nothing. -/
theorem isSendIpReply_append_iff {data : List UInt8} (h : sendIpReplyMinLen ≤ data.length)
    (more : List UInt8) (reply : SendIpReply) :
    IsSendIpReply (data ++ more) reply ↔ IsSendIpReply data reply := by
  constructor
  · rintro ⟨gap, tail, hgap, hdata⟩
    have hhead : (toLeBytes 0 ++ (reply.assignedIp.toList ++ (gap ++ reply.lanIp.toList))).length
        = 16 := by
      simp only [List.length_append, Vector.length_toList, hgap]
      rfl
    rw [sendIpReplyMinLen, ← hhead] at h
    obtain ⟨tail', rfl⟩ := List.prefix_of_prefix_length_le
      ⟨tail, by rw [hdata]; simp only [List.append_assoc]⟩ (List.prefix_append data more) h
    refine ⟨gap, tail', hgap, ?_⟩
    simp only [List.append_assoc]
  · rintro ⟨gap, tail, hgap, rfl⟩
    exact ⟨gap, tail ++ more, hgap, by simp only [List.append_assoc]⟩

/-- The server closes the connection before there are enough bytes. -/
theorem readAtLeastLoop_closed {minLen bufLen deadline clock t : ℕ} {ds : List Delivery}
    {buf : List UInt8} (hds : ∀ d ∈ ds, ArrivesBy deadline d) (hclock : clock < deadline)
    (hshort : (buf ++ unread ds).length < minLen) (hbuf : minLen ≤ bufLen)
    (rest : List Delivery) :
    ∃ clock', readAtLeastLoop minLen bufLen deadline (ds ++ ⟨t, .ok []⟩ :: rest) clock buf
      = some (.ok (buf ++ unread ds), clock', rest) := by
  induction ds generalizing clock buf with
  | nil =>
    rw [unread, chunks, List.filterMap_nil, List.flatten_nil, List.append_nil] at hshort ⊢
    rw [List.nil_append, readAtLeastLoop, if_pos (by omega)]
    exact ⟨_, rfl⟩
  | cons d ds ih =>
    obtain ⟨⟨htime, hresult⟩, hds⟩ := List.forall_mem_cons.mp hds
    have hlen : (buf ++ unread (d :: ds)).length = buf.length + (unread (d :: ds)).length :=
      List.length_append
    have hloop : buf.length < minLen ∧ buf.length < bufLen ∧ clock < deadline := by omega
    have hclock' : max clock d.time < deadline := by omega
    obtain ⟨bytes, hok, hne⟩ | ⟨e, herror, hkind⟩ := hresult
    · have hunread : buf ++ unread (d :: ds) = buf ++ bytes ++ unread ds := by
        rw [unread, chunks_cons_ok hok, List.flatten_cons, List.append_assoc, unread]
      rw [hunread] at hshort ⊢
      have hfits : (buf ++ bytes).length ≤ bufLen := by
        rw [List.length_append] at hshort
        omega
      rw [List.cons_append, readAtLeastLoop_ok hok hne hloop hfits]
      exact ih hds hclock' hshort
    · have hunread : unread (d :: ds) = unread ds := by
        rw [unread, chunks_cons_error herror, unread]
      rw [hunread] at hshort ⊢
      rw [List.cons_append, readAtLeastLoop_wouldBlock herror hkind hloop]
      exact ih hds hclock' hshort

/-- What is read of an answer that arrives in time: enough of it, or all of it. -/
theorem readAtLeast_answer {stream : TlsStream} {ds rest : List Delivery}
    (hincoming : stream.incoming = ds ++ rest)
    (hds : ∀ d ∈ ds, ArrivesBy (stream.clock + queryIpReplyTimeout) d)
    (hends : sendIpReplyExpectedLen ≤ (unread ds).length ∧ (unread ds).length ≤ 0x80
      ∨ (unread ds).length < sendIpReplyExpectedLen ∧ ∃ t rest', rest = ⟨t, .ok []⟩ :: rest') :
    ∃ data more stream', unread ds = data ++ more
      ∧ readAtLeast sendIpReplyExpectedLen 0x80 queryIpReplyTimeout stream
        = some (.ok data, stream')
      ∧ (more = [] ∨ sendIpReplyMinLen ≤ data.length) := by
  have hclock : stream.clock < stream.clock + queryIpReplyTimeout :=
    Nat.lt_add_of_pos_right (by decide)
  rw [readAtLeast, hincoming]
  rcases hends with ⟨henough, hfits⟩ | ⟨hshort, t, rest', rfl⟩
  · have hshortest : TakesShortest sendIpReplyExpectedLen 0x80
        (stream.clock + queryIpReplyTimeout) ds rest stream.clock [] :=
      takesShortest_of_arrives hds rest hclock henough hfits
    obtain ⟨ds₁, ds₂, clock', rfl, hread, hmin, -⟩ := hshortest
    exact ⟨unread ds₁, unread ds₂, _, unread_append .., congrArg _ hread,
      .inr (le_trans (by decide) hmin)⟩
  · have hbuf : sendIpReplyExpectedLen ≤ 0x80 := by decide
    have hshort' : ([] ++ unread ds).length < sendIpReplyExpectedLen := hshort
    obtain ⟨clock', hread⟩ := readAtLeastLoop_closed hds hclock hshort' hbuf rest'
    exact ⟨unread ds, [], _, (List.append_nil _).symm, congrArg _ hread, .inl rfl⟩

theorem commandStreamOf_eq_ok_iff {data : List UInt8} {stream stream' : TlsStream}
    {reply : SendIpReply} :
    commandStreamOf (.ok data) stream = .ok ⟨stream', ⟨.ofReply reply⟩⟩
      ↔ IsSendIpReply data reply ∧ stream' = stream := by
  rcases data with _ | ⟨byte, bytes⟩
  · exact iff_of_false nofun fun h ↦ not_isSendIpReply_nil reply h.1
  · rw [commandStreamOf, bind_eq_ok_iff, ← parseSendIpReply_eq_ok_iff]
    constructor
    · rintro ⟨reply', hreply', h⟩
      obtain ⟨rfl, hinit⟩ := CommandStream.mk.inj (Except.ok.inj h)
      obtain ⟨hassigned, hlan⟩ := TunnelIps.mk.inj (CommandStreamInit.mk.inj hinit)
      have heq : reply' = reply := by
        cases reply'
        cases reply
        exact congrArg₂ SendIpReply.mk hassigned hlan
      rw [heq] at hreply'
      exact ⟨hreply', rfl⟩
    · rintro ⟨hreply, rfl⟩
      exact ⟨reply, hreply, rfl⟩

section Split

variable {connectVpnTls : String → String → Except EcError TlsStream} {authority host : String}
  {token : Vector UInt8 protocolTokenLen} {stream : TlsStream} {ds rest : List Delivery}

/-- **Which answers give which addresses.** An answer that arrives in time, in however many reads,
is answered by the addresses in it, whether the server sends enough for the usual answer or closes
the connection before. -/
theorem openCommandStreamOnce_split (hconnect : connectVpnTls authority host = .ok stream)
    (hwrite : stream.write (buildInitialQueryIpMessage token) = .ok ())
    (hincoming : stream.incoming = ds ++ rest)
    (hds : ∀ d ∈ ds, ArrivesBy (stream.clock + queryIpReplyTimeout) d)
    (hends : sendIpReplyExpectedLen ≤ (unread ds).length ∧ (unread ds).length ≤ 0x80
      ∨ (unread ds).length < sendIpReplyExpectedLen ∧ ∃ t rest', rest = ⟨t, .ok []⟩ :: rest') :
    (∃ result, openCommandStreamOnce connectVpnTls authority host token = some result)
      ∧ ∀ reply, (∃ held, openCommandStreamOnce connectVpnTls authority host token
          = some (.ok ⟨held, ⟨.ofReply reply⟩⟩)) ↔ IsSendIpReply (unread ds) reply := by
  obtain ⟨data, more, stream', hunread, hread, hmore⟩ := readAtLeast_answer hincoming hds hends
  have hopen : openCommandStreamOnce connectVpnTls authority host token
      = some (commandStreamOf (.ok data) stream') := by
    rw [openCommandStreamOnce, hconnect]
    dsimp only
    rw [hwrite, hread]
    rfl
  rw [hopen]
  refine ⟨⟨_, rfl⟩, fun reply ↦ ?_⟩
  have hreply : IsSendIpReply (unread ds) reply ↔ IsSendIpReply data reply := by
    rw [hunread]
    rcases hmore with rfl | hlen
    · rw [List.append_nil]
    · exact isSendIpReply_append_iff hlen more reply
  rw [hreply]
  constructor
  · rintro ⟨held, h⟩
    exact (commandStreamOf_eq_ok_iff.mp (Option.some.inj h)).1
  · intro h
    exact ⟨stream', congrArg some (commandStreamOf_eq_ok_iff.mpr ⟨h, rfl⟩)⟩

end Split

/-- An answer that assigns 10.0.0.7 and names 10.0.0.1. -/
def usualAnswer : List UInt8 :=
  toLeBytes 0 ++ [10, 0, 0, 7] ++ List.replicate 4 0xff ++ [10, 0, 0, 1] ++ List.replicate 20 0

/-- The answer in two reads, the first of which ends inside the address. -/
def usualStream : TlsStream where
  clock := 0
  write _ := .ok ()
  incoming := [⟨1, .ok (usualAnswer.take 6)⟩, ⟨2, .ok (usualAnswer.drop 6)⟩]

theorem openCommandStreamOnce_split_usual :
    ∃ held, openCommandStreamOnce (fun _ _ ↦ .ok usualStream) "vpn:443" "vpn" (.replicate _ 0x61)
      = some (.ok ⟨held, ⟨.ofReply ⟨#v[10, 0, 0, 7], #v[10, 0, 0, 1]⟩⟩⟩) := by
  have harrives : ∀ d ∈ usualStream.incoming,
      ArrivesBy (usualStream.clock + queryIpReplyTimeout) d := by
    intro d hd
    rw [usualStream, List.mem_pair] at hd
    rcases hd with rfl | rfl <;> exact ⟨by decide, .inl ⟨_, rfl, by decide⟩⟩
  refine ((openCommandStreamOnce_split rfl rfl (List.append_nil _).symm harrives
    (.inl (by decide))).2 _).mpr ?_
  exact ⟨List.replicate 4 0xff, List.replicate 20 0, rfl, by decide⟩

end ShiepPipeline
