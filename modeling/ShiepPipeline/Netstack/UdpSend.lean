import ShiepPipeline.Netstack.Drive

/-!
# Datagrams that are not sent

`can_send` says that the transmit buffer of a UDP socket has a free slot, and not that there is room
for the next datagram, so `send_slice` may fail in the loop of `pump_pending_udp_sends`.
`pumpPendingUdpSends_keeps_iff` says what follows for the association: it is kept as it should be
exactly if nothing is refused that could have waited.
-/

open Net

namespace ShiepPipeline

/-- A target that `send_slice` does not call unaddressable. -/
def Addressable (target : SocketAddrV4) : Prop := target.port ≠ 0 ∧ target.ip ≠ ⟨0, 0, 0, 0⟩

instance (target : SocketAddrV4) : Decidable (Addressable target) :=
  inferInstanceAs (Decidable (target.port ≠ 0 ∧ target.ip ≠ ⟨0, 0, 0, 0⟩))

/-- What smoltcp documents about sending: it fails if the socket is not bound, if the target is not
addressable, and if the payload does not fit into what is left of the transmit buffer. -/
structure UdpSockets.TransmitBuffer (U : UdpSockets) where
  /-- Whether a payload of this length fits. -/
  fits : U.Socket → ℕ → Bool
  /-- What `send_slice` has accepted. -/
  accepted : U.Socket → List (SocketAddrV4 × List UInt8)
  sendSlice_ok_iff : ∀ s data target, (U.sendSlice s data target).1 = .ok ()
    ↔ U.isOpen s = true ∧ Addressable target ∧ fits s data.length = true
  accepted_of_ok : ∀ {s data target}, (U.sendSlice s data target).1 = .ok () →
    accepted (U.sendSlice s data target).2 = accepted s ++ [(target, data)]
  accepted_of_error : ∀ {s data target err}, (U.sendSlice s data target).1 = .error err →
    accepted (U.sendSlice s data target).2 = accepted s

namespace UdpSockets.TransmitBuffer

variable {U : UdpSockets} (L : U.TransmitBuffer)

/-- The datagrams that can be sent at some time. -/
def sendable (queue : List (SocketAddrV4 × List UInt8)) : List (SocketAddrV4 × List UInt8) :=
  queue.filter fun d ↦ Addressable d.1

theorem sendable_cons_of_addressable {d : SocketAddrV4 × List UInt8} (h : Addressable d.1)
    (queue : List (SocketAddrV4 × List UInt8)) : sendable (d :: queue) = d :: sendable queue :=
  List.filter_cons_of_pos (by simpa using h)

theorem sendable_cons_of_not {d : SocketAddrV4 × List UInt8} (h : ¬ Addressable d.1)
    (queue : List (SocketAddrV4 × List UInt8)) : sendable (d :: queue) = sendable queue :=
  List.filter_cons_of_neg (by simpa using h)

/-- Nothing happens to the association but that datagrams are taken from the front of its queue.
Each of them has been sent, in order, or can never be sent. -/
structure Keeps (s : U.Socket) (assoc : UdpAssociationState)
    (r : U.Socket × UdpAssociationState) : Prop where
  closeRequested : r.2.closeRequested = assoc.closeRequested
  queue : ∃ gone, assoc.pendingSend = gone ++ r.2.pendingSend
    ∧ L.accepted r.1 = L.accepted s ++ sendable gone

/-- As long as `can_send` holds, each datagram that can be sent fits. One that cannot be sent
is met only if the association is being closed anyway. -/
def NoneRefused (closing : Bool) : U.Socket → List (SocketAddrV4 × List UInt8) → Prop
  | _, [] => True
  | s, (target, data) :: queue => U.canSend s = true →
    if Addressable target then (U.isOpen s = true ∧ L.fits s data.length = true)
      ∧ NoneRefused closing (U.sendSlice s data target).2 queue
    else closing = true

/-- The loop only shortens the queue. -/
theorem length_sendDatagrams_le (s : U.Socket) (queue : List (SocketAddrV4 × List UInt8)) :
    (U.sendDatagrams s queue).2.1.length ≤ queue.length := by
  fun_induction U.sendDatagrams s queue with
  | case1 => exact le_rfl
  | case2 s target data queue _ _ ih => exact ih.trans (Nat.le_succ _)
  | case3 => exact Nat.le_succ _
  | case4 => exact le_rfl

/-- What the loop has to do with the queue. -/
def LoopKeeps (closing : Bool) (s : U.Socket) (queue : List (SocketAddrV4 × List UInt8)) : Prop :=
  (closing || (U.sendDatagrams s queue).2.2) = closing
    ∧ ∃ gone, queue = gone ++ (U.sendDatagrams s queue).2.1
      ∧ L.accepted (U.sendDatagrams s queue).1 = L.accepted s ++ sendable gone

variable {L}

section NoneRefused

variable {closing : Bool} {s : U.Socket} {target : SocketAddrV4} {data : List UInt8}
  {queue : List (SocketAddrV4 × List UInt8)}

/-- After a datagram that is sent, the rest of the queue counts. -/
theorem noneRefused_cons_of_ok (hcan : U.canSend s = true)
    (hsent : (U.sendSlice s data target).1 = .ok ()) :
    L.NoneRefused closing s ((target, data) :: queue)
      ↔ L.NoneRefused closing (U.sendSlice s data target).2 queue := by
  obtain ⟨hopen, haddressable, hfits⟩ := (L.sendSlice_ok_iff s data target).mp hsent
  rw [NoneRefused, if_pos haddressable]
  exact ⟨fun h ↦ (h hcan).2, fun h _ ↦ ⟨⟨hopen, hfits⟩, h⟩⟩

/-- A datagram that is refused must be one that can never be sent. -/
theorem noneRefused_cons_of_error (hcan : U.canSend s = true) {err : String}
    (herr : (U.sendSlice s data target).1 = .error err) :
    L.NoneRefused closing s ((target, data) :: queue)
      ↔ ¬ Addressable target ∧ closing = true := by
  have hfits : ¬ (Addressable target ∧ U.isOpen s = true ∧ L.fits s data.length = true) := by
    rintro ⟨haddressable, hopen, hfits⟩
    have hsent := (L.sendSlice_ok_iff s data target).mpr ⟨hopen, haddressable, hfits⟩
    rw [herr] at hsent
    cases hsent
  rw [NoneRefused]
  split_ifs with haddressable
  · exact iff_of_false (fun h ↦ hfits ⟨haddressable, (h hcan).1⟩) fun h ↦ h.1 haddressable
  · exact ⟨fun h ↦ ⟨haddressable, h hcan⟩, fun h _ ↦ h.2⟩

end NoneRefused

theorem loopKeeps_iff (closing : Bool) (s : U.Socket) (queue : List (SocketAddrV4 × List UInt8)) :
    L.LoopKeeps closing s queue ↔ L.NoneRefused closing s queue := by
  have hnothing : ∀ s, L.accepted s = L.accepted s ++ sendable [] := fun s ↦
    (List.append_nil _).symm
  rw [LoopKeeps]
  -- along the loop, which goes on only after a datagram that was sent
  fun_induction U.sendDatagrams s queue with
  | case1 s => exact iff_of_true ⟨Bool.or_false _, [], rfl, hnothing s⟩ trivial
  | case2 s target data queue hcan hsent ih =>
    have haddressable := ((L.sendSlice_ok_iff s data target).mp hsent).2.1
    rw [noneRefused_cons_of_ok hcan hsent]
    refine Iff.trans (and_congr_right fun _ ↦ ?_) ih
    have hsendable : ∀ gone, L.accepted s ++ sendable ((target, data) :: gone)
        = L.accepted (U.sendSlice s data target).2 ++ sendable gone := by
      intro gone
      rw [L.accepted_of_ok hsent, sendable_cons_of_addressable haddressable, List.append_assoc,
        List.singleton_append]
    constructor
    · rintro ⟨gone, hqueue, haccepted⟩
      obtain _ | ⟨d, gone⟩ := gone
      · -- the loop would have put a datagram into the queue
        have hlen := length_sendDatagrams_le (U.sendSlice s data target).2 queue
        rw [← hqueue.trans (List.nil_append _), List.length_cons] at hlen
        omega
      · obtain ⟨rfl, hrest⟩ := List.cons.inj hqueue
        exact ⟨gone, hrest, haccepted.trans (hsendable gone)⟩
    · rintro ⟨gone, hqueue, haccepted⟩
      refine ⟨(target, data) :: gone, congrArg (List.cons _) hqueue, ?_⟩
      rw [haccepted, hsendable]
  | case3 s target data queue hcan err herr =>
    rw [noneRefused_cons_of_error hcan herr, Bool.or_true, L.accepted_of_error herr, and_comm,
      eq_comm]
    refine and_congr_left fun _ ↦ ?_
    -- the datagram is gone, so it must be one that is not sent
    constructor
    · rintro ⟨gone, hqueue, haccepted⟩ haddressable
      obtain ⟨d, rfl⟩ : ∃ d, gone = [d] := by
        have hlen := congrArg List.length hqueue
        rw [List.length_cons, List.length_append] at hlen
        dsimp only at hlen
        exact List.length_eq_one_iff.mp (by omega)
      obtain ⟨rfl, -⟩ := List.cons.inj hqueue
      rw [sendable_cons_of_addressable haddressable, List.self_eq_append_right] at haccepted
      exact absurd haccepted (List.cons_ne_nil _ _)
    · intro haddressable
      refine ⟨[(target, data)], rfl, ?_⟩
      rw [sendable_cons_of_not haddressable]
      exact hnothing s
  | case4 s target data queue hcan =>
    exact iff_of_true ⟨Bool.or_false _, [], rfl, hnothing s⟩ fun h ↦ absurd h hcan

/-- **The pump keeps the association exactly if nothing is refused.** -/
theorem pumpPendingUdpSends_keeps_iff (L : U.TransmitBuffer) (s : U.Socket)
    (assoc : UdpAssociationState) :
    L.Keeps s assoc (U.pumpPendingUdpSends s assoc)
      ↔ L.NoneRefused assoc.closeRequested s assoc.pendingSend := by
  rw [← loopKeeps_iff]
  constructor
  · rintro ⟨hclose, hqueue⟩
    exact ⟨hclose, hqueue⟩
  · rintro ⟨hclose, hqueue⟩
    exact ⟨hclose, hqueue⟩

end UdpSockets.TransmitBuffer

/-- There is nothing to read. -/
theorem UdpSockets.pumpUdpReads_of_not_canRecv {U : UdpSockets} {s : U.Socket}
    (h : U.canRecv s = false) (assoc : UdpAssociationState) :
    U.pumpUdpReads s assoc = (s, assoc) := by
  rw [pumpUdpReads, dif_neg (h ▸ Bool.false_ne_true)]

/-! ## A socket with a transmit buffer -/

/-- A UDP socket that keeps what it is given until it is polled. -/
structure BufferedUdp where
  isOpen : Bool
  boundTo : Option UInt16
  /-- The metadata slots and the bytes that are not taken. -/
  slots : ℕ
  room : ℕ
  accepted : List (SocketAddrV4 × List UInt8)
deriving DecidableEq, Repr

namespace BufferedUdp

def bind (s : BufferedUdp) (port : UInt16) : Except String Unit × BufferedUdp :=
  if s.isOpen then (.error "invalid state", s)
  else if port = 0 then (.error "unaddressable", s)
  else (.ok (), { s with isOpen := true, boundTo := some port })

def sendSlice (s : BufferedUdp) (data : List UInt8) (target : SocketAddrV4) :
    Except String Unit × BufferedUdp :=
  if s.isOpen = false ∨ ¬ Addressable target then (.error "unaddressable", s)
  else if s.slots = 0 ∨ s.room < data.length then (.error "buffer full", s)
  else
    (.ok (), { s with
      slots := s.slots - 1
      room := s.room - data.length
      accepted := s.accepted ++ [(target, data)] })

/-- Only the slots are asked for. -/
def canSend (s : BufferedUdp) : Bool := 0 < s.slots

def fits (s : BufferedUdp) (n : ℕ) : Bool := 0 < s.slots ∧ n ≤ s.room

variable {s : BufferedUdp} {data : List UInt8} {target : SocketAddrV4}

theorem sendSlice_ok_iff : (s.sendSlice data target).1 = .ok ()
    ↔ s.isOpen = true ∧ Addressable target ∧ s.fits data.length = true := by
  rw [sendSlice, fits, decide_eq_true_iff]
  split_ifs with hrefused hfull
  · simp only [false_iff]
    rintro ⟨hopen, haddressable, -⟩
    obtain hclosed | hnot := hrefused
    · exact absurd hopen (hclosed ▸ Bool.false_ne_true)
    · exact hnot haddressable
  · simp only [false_iff]
    omega
  · rw [not_or, not_not, Bool.not_eq_false] at hrefused
    exact iff_of_true rfl ⟨hrefused.1, hrefused.2, by omega⟩

theorem accepted_of_ok (h : (s.sendSlice data target).1 = .ok ()) :
    (s.sendSlice data target).2.accepted = s.accepted ++ [(target, data)] := by
  rw [sendSlice] at h ⊢
  split_ifs at h ⊢
  rfl

theorem accepted_of_error {err : String} (h : (s.sendSlice data target).1 = .error err) :
    (s.sendSlice data target).2.accepted = s.accepted := by
  rw [sendSlice] at h ⊢
  split_ifs at h ⊢ <;> rfl

theorem boundTo_bind {port : UInt16} (h : (s.bind port).1 = .ok ()) :
    (s.bind port).2.boundTo = some port := by
  rw [bind] at h ⊢
  split_ifs at h ⊢
  rfl

theorem boundTo_sendSlice (s : BufferedUdp) (data : List UInt8) (target : SocketAddrV4) :
    (s.sendSlice data target).2.boundTo = s.boundTo := by
  rw [sendSlice]
  split_ifs <;> rfl

end BufferedUdp

def UdpSockets.buffered : UdpSockets where
  Socket := BufferedUdp
  new slots room := ⟨false, none, slots, room, []⟩
  bind := BufferedUdp.bind
  canSend := BufferedUdp.canSend
  canRecv _ := false
  isOpen := BufferedUdp.isOpen
  sendSlice := BufferedUdp.sendSlice
  recvSlice s _ := (.error "exhausted", s)
  close s := { s with isOpen := false }
  Polled s s' := s'.boundTo = s.boundTo
  queued _ := 0
  boundTo := BufferedUdp.boundTo
  queued_recvSlice h := absurd h Bool.false_ne_true
  boundTo_bind := BufferedUdp.boundTo_bind
  boundTo_sendSlice := BufferedUdp.boundTo_sendSlice
  boundTo_recvSlice _ _ := rfl
  boundTo_close _ := rfl
  boundTo_of_polled h := h

def UdpSockets.transmitBuffer_buffered : UdpSockets.buffered.TransmitBuffer where
  fits := BufferedUdp.fits
  accepted := BufferedUdp.accepted
  sendSlice_ok_iff _ _ _ := BufferedUdp.sendSlice_ok_iff
  accepted_of_ok := BufferedUdp.accepted_of_ok
  accepted_of_error := BufferedUdp.accepted_of_error

/-- A socket with a single byte of room. -/
def crowdedSocket : BufferedUdp := ⟨true, some 50000, 31, 1, []⟩

/-- An association with these datagrams in its queue. -/
def withPending (queue : List (SocketAddrV4 × List UInt8)) : UdpAssociationState :=
  ⟨0, .fresh, queue, false⟩

/-- A datagram of two bytes, and one to port 0. -/
def largeDatagram : SocketAddrV4 × List UInt8 := (⟨⟨10, 50, 2, 206⟩, 53⟩, [1, 2])

def unsendableDatagram : SocketAddrV4 × List UInt8 := (⟨⟨10, 50, 2, 206⟩, 0⟩, [1])

/-- With the buffer empty, the datagram of two bytes is sent. -/
theorem pumpPendingUdpSends_keeps_iff_empty :
    UdpSockets.transmitBuffer_buffered.Keeps ⟨true, some 50000, 32, 65536, []⟩
      (withPending [largeDatagram])
      (UdpSockets.buffered.pumpPendingUdpSends ⟨true, some 50000, 32, 65536, []⟩
        (withPending [largeDatagram])) := by
  refine (UdpSockets.TransmitBuffer.pumpPendingUdpSends_keeps_iff _ _ _).mpr ?_
  intro _
  exact ⟨⟨rfl, by decide⟩, trivial⟩

/-- **A datagram takes its association down**, whether it does not fit right now or can never be
sent. It is lost, and the association is removed in the same pass. -/
theorem datagram_closes_association :
    (∀ datagram ∈ [largeDatagram, unsendableDatagram],
      ¬ UdpSockets.transmitBuffer_buffered.Keeps crowdedSocket (withPending [datagram])
        (UdpSockets.buffered.pumpPendingUdpSends crowdedSocket (withPending [datagram])))
      ∧ ∀ datagram ∈ [largeDatagram, unsendableDatagram],
        (UdpSockets.buffered.driveUdpAssociation crowdedSocket (withPending [datagram])).entry
            = { withPending [] with closeRequested := true }
          ∧ (UdpSockets.buffered.driveUdpAssociation crowdedSocket (withPending [datagram])).dead
            = true := by
  have hpumped : ∀ datagram ∈ [largeDatagram, unsendableDatagram],
      UdpSockets.buffered.pumpPendingUdpSends crowdedSocket (withPending [datagram])
        = (crowdedSocket, { withPending [] with closeRequested := true }) := by
    intro datagram hmem
    simp only [List.mem_cons, List.not_mem_nil, or_false] at hmem
    obtain rfl | rfl := hmem <;> rfl
  refine ⟨fun datagram hmem h ↦ ?_, fun datagram hmem ↦ ?_⟩
  · have hclose := h.closeRequested
    rw [hpumped datagram hmem] at hclose
    exact Bool.noConfusion (show true = false from hclose)
  · simp only [UdpSockets.driveUdpAssociation, hpumped datagram hmem,
      @UdpSockets.pumpUdpReads_of_not_canRecv UdpSockets.buffered crowdedSocket rfl]
    decide

end ShiepPipeline
