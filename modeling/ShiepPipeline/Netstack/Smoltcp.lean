import ShiepPipeline.Text.NetAddr

/-!
# The sockets of the TCP/IP stack

The netstack runs on the sockets of smoltcp, which is not part of this repository. `TcpSockets` and
`UdpSockets` are what the netstack uses of it: the operations it calls, and for TCP a record of the
bytes that went through a socket, with what the operations do to it. Nothing is said about when
`send_slice` fails or how much it accepts.

`TcpSockets.StateLaws` adds what smoltcp documents about the states of a socket and its transmit
buffer. Only results about closing need it.

`TcpSockets.plain` is a socket that does what the documentation says and nothing else.
-/

open Net

namespace ShiepPipeline

/-! ## TCP -/

/-- `smoltcp::socket::tcp::State`. -/
inductive TcpState
  | closed
  | listen
  | synSent
  | synReceived
  | established
  | finWait1
  | finWait2
  | closeWait
  | closing
  | lastAck
  | timeWait
deriving DecidableEq, Repr

/-- Where a socket was connected to, and the bytes that went through it. -/
structure Traffic where
  /-- The local port and the remote endpoint that `connect` was given. -/
  connectedTo : Option (UInt16 × SocketAddrV4)
  /-- What `send_slice` has accepted. -/
  accepted : List UInt8
  /-- Whether a call of `send_slice` has failed. -/
  refused : Bool
  /-- What has been put into the receive buffer. -/
  arrived : List UInt8
  /-- What is in the receive buffer. -/
  readable : List UInt8
deriving DecidableEq, Repr

namespace Traffic

def empty : Traffic := ⟨none, [], false, [], []⟩

def connect (localPort : UInt16) (target : SocketAddrV4) (t : Traffic) : Traffic :=
  { t with connectedTo := some (localPort, target) }

def accept (bytes : List UInt8) (t : Traffic) : Traffic :=
  { t with accepted := t.accepted ++ bytes }

def refuse (t : Traffic) : Traffic := { t with refused := true }

def receive (bytes : List UInt8) (t : Traffic) : Traffic :=
  { t with arrived := t.arrived ++ bytes, readable := t.readable ++ bytes }

def read (rest : List UInt8) (t : Traffic) : Traffic := { t with readable := rest }

end Traffic

structure TcpSockets where
  Socket : Type
  /-- `Interface::context`. -/
  Context : Type
  /-- A socket with a receive and a transmit buffer of these capacities. -/
  new : ℕ → ℕ → Socket
  connect : Socket → Context → SocketAddrV4 → UInt16 → Except String Unit × Socket
  maySend : Socket → Bool
  canSend : Socket → Bool
  canRecv : Socket → Bool
  isOpen : Socket → Bool
  /-- How many bytes of the argument were accepted. -/
  sendSlice : Socket → List UInt8 → Except String ℕ × Socket
  /-- The bytes that were dequeued into a buffer of this length. -/
  recvSlice : Socket → ℕ → Except String (List UInt8) × Socket
  close : Socket → Socket
  /-- What one poll of the interface may make of a socket. -/
  Polled : Socket → Socket → Prop
  state : Socket → TcpState
  /-- The space in the transmit buffer that is not taken. -/
  free : Socket → ℕ
  traffic : Socket → Traffic
  traffic_new : ∀ rx tx, traffic (new rx tx) = .empty
  traffic_connect : ∀ {s context target port}, (connect s context target port).1 = .ok () →
    traffic (connect s context target port).2 = (traffic s).connect port target
  traffic_sendSlice_ok : ∀ {s data sent}, (sendSlice s data).1 = .ok sent →
    sent ≤ data.length ∧ traffic (sendSlice s data).2 = (traffic s).accept (data.take sent)
  traffic_sendSlice_error : ∀ {s data err}, (sendSlice s data).1 = .error err →
    traffic (sendSlice s data).2 = (traffic s).refuse
  canRecv_iff : ∀ s, canRecv s = true ↔ (traffic s).readable ≠ []
  /-- Something is dequeued when there is something. -/
  recvSlice_ok : ∀ {s}, canRecv s = true → ∀ {n}, 0 < n →
    ∃ bytes rest, (recvSlice s n).1 = .ok bytes ∧ bytes ≠ [] ∧ bytes.length ≤ n
      ∧ (traffic s).readable = bytes ++ rest
      ∧ traffic (recvSlice s n).2 = (traffic s).read rest
  traffic_close : ∀ s, traffic (close s) = traffic s
  traffic_of_polled : ∀ {s s'}, Polled s s' → ∃ bytes, traffic s' = (traffic s).receive bytes

/-- The state that `close` leads to. -/
def TcpState.afterClose : TcpState → TcpState
  | .listen => .closed
  | .synSent => .closed
  | .synReceived => .finWait1
  | .established => .finWait1
  | .closeWait => .lastAck
  | state => state

/-- The states of a socket that is open although its peer has closed its sending side. -/
def TcpState.HalfClosed (state : TcpState) : Prop :=
  state = .closeWait ∨ state = .closing ∨ state = .lastAck

/-- The states in which the peer has closed its sending side. -/
def TcpState.PeerClosed (state : TcpState) : Prop := state.HalfClosed ∨ state = .timeWait

namespace TcpSockets

variable (T : TcpSockets)

structure StateLaws : Prop where
  maySend_iff : ∀ s, T.maySend s = true ↔ T.state s = .established ∨ T.state s = .closeWait
  canSend_iff : ∀ s, T.canSend s = true ↔ T.maySend s = true ∧ 0 < T.free s
  isOpen_iff : ∀ s, T.isOpen s = true ↔ T.state s ≠ .closed ∧ T.state s ≠ .timeWait
  sendSlice_eq : ∀ {s}, T.maySend s = true → ∀ data,
    (T.sendSlice s data).1 = .ok (min data.length (T.free s))
  free_sendSlice : ∀ {s data sent}, (T.sendSlice s data).1 = .ok sent →
    T.free (T.sendSlice s data).2 = T.free s - sent
  state_sendSlice : ∀ s data, T.state (T.sendSlice s data).2 = T.state s
  recvSlice_eq : ∀ {s}, T.canRecv s = true → ∀ n,
    (T.recvSlice s n).1 = .ok ((T.traffic s).readable.take n)
  state_recvSlice : ∀ s n, T.state (T.recvSlice s n).2 = T.state s
  state_close : ∀ s, T.state (T.close s) = (T.state s).afterClose

variable {T}

theorem traffic_recvSlice {s : T.Socket} {n : ℕ} {bytes : List UInt8} (hcan : T.canRecv s = true)
    (hn : 0 < n) (hread : (T.recvSlice s n).1 = .ok bytes) :
    bytes ≠ [] ∧ bytes.length ≤ n
      ∧ (T.traffic s).readable = bytes ++ (T.traffic (T.recvSlice s n).2).readable
      ∧ T.traffic (T.recvSlice s n).2
        = (T.traffic s).read (T.traffic (T.recvSlice s n).2).readable := by
  obtain ⟨bytes', rest, hread', hne, hlen, hreadable, htraffic⟩ := T.recvSlice_ok hcan hn
  obtain rfl := Except.ok.inj (hread'.symm.trans hread)
  rw [htraffic]
  exact ⟨hne, hlen, hreadable, rfl⟩

end TcpSockets

/-! ## UDP -/

structure UdpSockets where
  Socket : Type
  /-- A socket whose two buffers have this many slots and bytes. -/
  new : ℕ → ℕ → Socket
  bind : Socket → UInt16 → Except String Unit × Socket
  canSend : Socket → Bool
  canRecv : Socket → Bool
  isOpen : Socket → Bool
  sendSlice : Socket → List UInt8 → SocketAddrV4 → Except String Unit × Socket
  recvSlice : Socket → ℕ → Except String (List UInt8 × SocketAddrV4) × Socket
  close : Socket → Socket
  Polled : Socket → Socket → Prop
  /-- The datagrams in the receive buffer. -/
  queued : Socket → ℕ
  /-- The port that `bind` was given. -/
  boundTo : Socket → Option UInt16
  queued_recvSlice : ∀ {s}, canRecv s = true → ∀ n, queued (recvSlice s n).2 < queued s
  boundTo_bind : ∀ {s port}, (bind s port).1 = .ok () → boundTo (bind s port).2 = some port
  boundTo_sendSlice : ∀ s data target, boundTo (sendSlice s data target).2 = boundTo s
  boundTo_recvSlice : ∀ s n, boundTo (recvSlice s n).2 = boundTo s
  boundTo_close : ∀ s, boundTo (close s) = boundTo s
  boundTo_of_polled : ∀ {s s'}, Polled s s' → boundTo s' = boundTo s

/-! ## Plain sockets -/

/-- A socket as the documentation describes it. -/
structure PlainTcp where
  state : TcpState
  free : ℕ
  traffic : Traffic
deriving DecidableEq, Repr

namespace PlainTcp

def connect (s : PlainTcp) (target : SocketAddrV4) (localPort : UInt16) :
    Except String Unit × PlainTcp :=
  if s.state ≠ .closed ∧ s.state ≠ .timeWait then (.error "invalid state", s)
  else if target.port = 0 ∨ target.ip = ⟨0, 0, 0, 0⟩ ∨ localPort = 0 then
    (.error "unaddressable destination", s)
  else (.ok (), { s with state := .synSent, traffic := s.traffic.connect localPort target })

def maySend (s : PlainTcp) : Bool := s.state = .established ∨ s.state = .closeWait

def sendSlice (s : PlainTcp) (data : List UInt8) : Except String ℕ × PlainTcp :=
  if s.maySend then
    let sent := min data.length s.free
    (.ok sent, { s with free := s.free - sent, traffic := s.traffic.accept (data.take sent) })
  else (.error "invalid state", { s with traffic := s.traffic.refuse })

def recvSlice (s : PlainTcp) (n : ℕ) : Except String (List UInt8) × PlainTcp :=
  if s.traffic.readable = [] then (.error "invalid state", s)
  else
    (.ok (s.traffic.readable.take n),
      { s with traffic := s.traffic.read (s.traffic.readable.drop n) })

theorem sendSlice_of_maySend {s : PlainTcp} (h : s.maySend = true) (data : List UInt8) :
    s.sendSlice data = (.ok (min data.length s.free),
      { s with
        free := s.free - min data.length s.free
        traffic := s.traffic.accept (data.take (min data.length s.free)) }) := by
  rw [sendSlice, if_pos h]

theorem sendSlice_of_not_maySend {s : PlainTcp} (h : ¬ s.maySend = true) (data : List UInt8) :
    s.sendSlice data = (.error "invalid state", { s with traffic := s.traffic.refuse }) := by
  rw [sendSlice, if_neg h]

theorem state_sendSlice (s : PlainTcp) (data : List UInt8) :
    (s.sendSlice data).2.state = s.state := by
  rw [sendSlice]
  split_ifs <;> rfl

theorem traffic_sendSlice_ok {s : PlainTcp} {data : List UInt8} {sent : ℕ}
    (h : (s.sendSlice data).1 = .ok sent) :
    sent ≤ data.length ∧ (s.sendSlice data).2.free = s.free - sent
      ∧ (s.sendSlice data).2.traffic = s.traffic.accept (data.take sent) := by
  by_cases hsend : s.maySend = true
  · rw [sendSlice_of_maySend hsend] at h ⊢
    obtain rfl := Except.ok.inj h
    exact ⟨Nat.min_le_left .., rfl, rfl⟩
  · rw [sendSlice_of_not_maySend hsend] at h
    cases h

theorem traffic_sendSlice_error {s : PlainTcp} {data : List UInt8} {err : String}
    (h : (s.sendSlice data).1 = .error err) :
    (s.sendSlice data).2.traffic = s.traffic.refuse := by
  by_cases hsend : s.maySend = true
  · rw [sendSlice_of_maySend hsend] at h
    cases h
  · rw [sendSlice_of_not_maySend hsend]

theorem recvSlice_of_readable {s : PlainTcp} (h : s.traffic.readable ≠ []) (n : ℕ) :
    s.recvSlice n = (.ok (s.traffic.readable.take n),
      { s with traffic := s.traffic.read (s.traffic.readable.drop n) }) := by
  rw [recvSlice, if_neg h]

theorem state_recvSlice (s : PlainTcp) (n : ℕ) : (s.recvSlice n).2.state = s.state := by
  rw [recvSlice]
  split_ifs <;> rfl

end PlainTcp

def TcpSockets.plain : TcpSockets where
  Socket := PlainTcp
  Context := Unit
  new _ tx := ⟨.closed, tx, .empty⟩
  connect s _ := s.connect
  maySend := PlainTcp.maySend
  canSend s := s.maySend && 0 < s.free
  canRecv s := !s.traffic.readable.isEmpty
  isOpen s := s.state ≠ .closed ∧ s.state ≠ .timeWait
  sendSlice := PlainTcp.sendSlice
  recvSlice := PlainTcp.recvSlice
  close s := { s with state := s.state.afterClose }
  Polled s s' := ∃ bytes, s'.traffic = s.traffic.receive bytes
  state := PlainTcp.state
  free := PlainTcp.free
  traffic := PlainTcp.traffic
  traffic_new _ _ := rfl
  traffic_connect {s _ target port} h := by
    rw [PlainTcp.connect] at h ⊢
    split_ifs at h ⊢
    rfl
  traffic_sendSlice_ok h :=
    ⟨(PlainTcp.traffic_sendSlice_ok h).1, (PlainTcp.traffic_sendSlice_ok h).2.2⟩
  traffic_sendSlice_error := PlainTcp.traffic_sendSlice_error
  canRecv_iff s := by simp
  recvSlice_ok {s} hcan n hn := by
    have hne : s.traffic.readable ≠ [] := by simpa using hcan
    rw [PlainTcp.recvSlice_of_readable hne]
    refine ⟨_, _, rfl, ?_, List.length_take_le .., (List.take_append_drop n _).symm, rfl⟩
    simp [hne, Nat.ne_of_gt hn]
  traffic_close _ := rfl
  traffic_of_polled h := h

theorem TcpSockets.stateLaws_plain : TcpSockets.plain.StateLaws where
  maySend_iff s := by simp [plain, PlainTcp.maySend]
  canSend_iff s := by simp [plain]
  isOpen_iff s := by simp [plain]
  sendSlice_eq h data := congrArg Prod.fst (PlainTcp.sendSlice_of_maySend h data)
  free_sendSlice h := (PlainTcp.traffic_sendSlice_ok h).2.1
  state_sendSlice := PlainTcp.state_sendSlice
  recvSlice_eq h n :=
    congrArg Prod.fst (PlainTcp.recvSlice_of_readable ((plain.canRecv_iff _).mp h) n)
  state_recvSlice := PlainTcp.state_recvSlice
  state_close _ := rfl

/-- A UDP socket that sends everything and receives nothing. -/
structure PlainUdp where
  isOpen : Bool
  boundTo : Option UInt16
deriving DecidableEq, Repr

def PlainUdp.bind (s : PlainUdp) (port : UInt16) : Except String Unit × PlainUdp :=
  if s.isOpen then (.error "invalid state", s)
  else if port = 0 then (.error "unaddressable", s)
  else (.ok (), ⟨true, some port⟩)

def UdpSockets.plain : UdpSockets where
  Socket := PlainUdp
  new _ _ := ⟨false, none⟩
  bind := PlainUdp.bind
  canSend := PlainUdp.isOpen
  canRecv _ := false
  isOpen := PlainUdp.isOpen
  sendSlice s _ _ := (.ok (), s)
  recvSlice s _ := (.error "exhausted", s)
  close s := { s with isOpen := false }
  Polled s s' := s' = s
  queued _ := 0
  boundTo := PlainUdp.boundTo
  queued_recvSlice h := absurd h Bool.false_ne_true
  boundTo_bind {s port} h := by
    rw [PlainUdp.bind] at h ⊢
    split_ifs at h ⊢
    rfl
  boundTo_sendSlice _ _ _ := rfl
  boundTo_recvSlice _ _ := rfl
  boundTo_close _ := rfl
  boundTo_of_polled h := congrArg PlainUdp.boundTo h

end ShiepPipeline
