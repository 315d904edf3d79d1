import ShiepPipeline.Concurrency.Thread
import ShiepPipeline.Tunnel.Control
import ShiepPipeline.Tunnel.Reading

/-!
# The receiving worker

`rxWorkerLoop` reads packets from the tunnel and passes them on to the netstack. The stream, its
replacement after a failure and the channel to the netstack are calls; whatever they answer, the
trace of the thread shows what was read and what was passed on.

`rxWorker_forwards` compares the two at every point of every run, and says when the worker stops.
-/

open Program Thread

namespace ShiepPipeline

/-! ## The worker -/

inductive RxOp
  /-- `stream.read(&mut buf)`, with a buffer of 4096 bytes. -/
  | read
  /-- `runtime.reopen_stream(StreamProfile::Rx, retries)`. -/
  | reopenStream (retries : ℕ)
  /-- `tx.send(packet)`. -/
  | send (packet : List UInt8)
deriving DecidableEq

/-- A stream that was reopened replaces the one before it. Sending succeeds while the netstack has
its end of the channel. -/
abbrev RxAns : RxOp → Type
  | .read => Except ErrorKind { bytes : List UInt8 // bytes.length ≤ 4096 }
  | .reopenStream _ => Except EcError Unit
  | .send _ => Bool

def unexpectedControlErr (control : NativeControlType) : EcError :=
  .runtime s!"unexpected rx control frame: {control.label}({control.code})"

def shouldForwardRxPayload (data : List UInt8) : Except EcError Bool :=
  match parseNativeControlFrame data with
  | some .rxAck => .ok false
  | some control => .error (unexpectedControlErr control)
  | none => .ok true

/-- The two branches that replace the stream. -/
def rxReopen (retries : ℕ) : Program RxOp RxAns (ℕ ⊕ Except EcError Unit) := do
  match ← perform (RxOp.reopenStream retries) with
  | .ok _ => return .inl 0
  | .error e => return .inr (.error e)

/-- One pass of `rx_worker_loop`, from the number of retries. -/
def rxWorkerLoop (retries : ℕ) : Program RxOp RxAns (ℕ ⊕ Except EcError Unit) := do
  match ← perform RxOp.read with
  | .ok bytes =>
    if bytes.1 = [] then rxReopen (retries + 1)
    else
      match shouldForwardRxPayload bytes.1 with
      | .error e => return .inr (.error e)
      | .ok false => return .inl 0
      | .ok true =>
        if ← perform (RxOp.send bytes.1) then return .inl 0 else return .inr (.ok ())
  | .error e => if isWouldblockOrTimeout e then return .inl retries else rxReopen (retries + 1)

abbrev RxThread := Thread RxOp RxAns ℕ (Except EcError Unit)

/-- The worker, with the calls answered in any way. -/
def RxThread.Reachable (th : RxThread) : Prop :=
  Thread.Reachable rxWorkerLoop (rxWorkerLoop 0) th

/-! ## Control frames on the stream -/

/-- 40 bytes that begin with the text `AABB`. -/
def IsControlFrame (data : List UInt8) : Prop :=
  data.length = 40 ∧ data.take 4 = [0x41, 0x41, 0x42, 0x42]

instance (data : List UInt8) : Decidable (IsControlFrame data) :=
  inferInstanceAs (Decidable (_ ∧ _))

/-- The number in the four bytes after the text, of which the first counts least. -/
def controlCode : List UInt8 → ℕ
  | _ :: _ :: _ :: _ :: b₀ :: b₁ :: b₂ :: b₃ :: _ =>
    b₀.toNat + 256 * (b₁.toNat + 256 * (b₂.toNat + 256 * b₃.toNat))
  | _ => 0

theorem controlCode_lt (data : List UInt8) : controlCode data < UInt32.size := by
  rw [controlCode.eq_def]
  split
  · next b₀ b₁ b₂ b₃ _ =>
    have h₀ := b₀.toNat_lt
    have h₁ := b₁.toNat_lt
    have h₂ := b₂.toNat_lt
    have h₃ := b₃.toNat_lt
    rw [UInt32.size]
    omega
  · exact Nat.two_pow_pos 32

theorem fromLeBytes_eq_controlCode {data : List UInt8} (hlen : data.length = 40) :
    fromLeBytes ((data.drop 4).take 4) = controlCode data := by
  obtain _ | ⟨_, _ | ⟨_, _ | ⟨_, _ | ⟨_, _ | ⟨b₀, _ | ⟨b₁, _ | ⟨b₂, _ | ⟨b₃, rest⟩⟩⟩⟩⟩⟩⟩⟩ := data
  case cons.cons.cons.cons.cons.cons.cons.cons =>
    simp only [List.drop_succ_cons, List.drop_zero, List.take_succ_cons, List.take_zero,
      fromLeBytes, controlCode]
    omega
  all_goals exact absurd hlen (by simp)

/-- The decoder of the code finds the frames and their numbers. -/
theorem parseNativeControlFrame_eq (data : List UInt8) : parseNativeControlFrame data =
    if IsControlFrame data then some (.fromCode (UInt32.ofNat (controlCode data))) else none := by
  have hiff : data.length = nativeControlFrameLen ∧ nativeControlMagic <+: data
      ↔ IsControlFrame data :=
    and_congr_right' (List.prefix_iff_eq_take.trans eq_comm)
  rw [parseNativeControlFrame]
  by_cases hframe : IsControlFrame data
  · rw [if_pos (hiff.mpr hframe), if_pos hframe, fromLeBytes_eq_controlCode hframe.1]
  · rw [if_neg (mt hiff.mp hframe), if_neg hframe]

theorem fromCode_eq_rxAck_iff {n : ℕ} (hn : n < UInt32.size) :
    NativeControlType.fromCode (UInt32.ofNat n) = .rxAck ↔ n = 1 := by
  have hack : NativeControlType.rxAck = .fromCode 1 := by decide
  rw [hack, NativeControlType.fromCode_inj, ← UInt32.toNat_inj, UInt32.toNat_ofNat_of_lt' hn]
  rfl

/-- What the worker does with data: a frame with the number 1 is dropped, any other frame is an
error, and everything else is a packet. -/
theorem shouldForwardRxPayload_eq (data : List UInt8) : shouldForwardRxPayload data =
    if IsControlFrame data then
      if controlCode data = 1 then .ok false
      else .error (unexpectedControlErr (.fromCode (UInt32.ofNat (controlCode data))))
    else .ok true := by
  rw [shouldForwardRxPayload, parseNativeControlFrame_eq]
  by_cases hframe : IsControlFrame data
  · rw [if_pos hframe, if_pos hframe]
    by_cases hack : controlCode data = 1
    · rw [if_pos hack, (fromCode_eq_rxAck_iff (controlCode_lt data)).mpr hack]
    · rw [if_neg hack]
      have hne : NativeControlType.fromCode (UInt32.ofNat (controlCode data)) ≠ .rxAck :=
        fun h ↦ hack ((fromCode_eq_rxAck_iff (controlCode_lt data)).mp h)
      split
      · next h => exact absurd (Option.some.inj h) hne
      · next h => rw [Option.some.inj h]
      · next h => cases h
  · rw [if_neg hframe, if_neg hframe]

/-! ## What a trace shows -/

abbrev RxTrace := List (Exchange RxOp RxAns)

/-- The data of a read. -/
def readData : Exchange RxOp RxAns → Option (List UInt8)
  | ⟨.read, .ok bytes⟩ => if bytes.1 = [] then none else some bytes.1
  | _ => none

/-- A packet that went into the channel. -/
def sentPacket : Exchange RxOp RxAns → Option (List UInt8)
  | ⟨.send packet, true⟩ => some packet
  | _ => none

/-- The data reads that are not control frames, in order. -/
def packetsRead (t : RxTrace) : List (List UInt8) :=
  (t.filterMap readData).filter fun data ↦ ¬IsControlFrame data

def packetsSent (t : RxTrace) : List (List UInt8) := t.filterMap sentPacket

/-- What a call's answer ends the worker with: a control frame whose number is not 1, a stream that
cannot be reopened, or a closed channel. -/
def stopResult : Exchange RxOp RxAns → Option (Except EcError Unit)
  | ⟨.read, .ok bytes⟩ =>
    if IsControlFrame bytes.1 ∧ controlCode bytes.1 ≠ 1 then
      some (.error (unexpectedControlErr (.fromCode (UInt32.ofNat (controlCode bytes.1)))))
    else none
  | ⟨.reopenStream _, .error e⟩ => some (.error e)
  | ⟨.send _, false⟩ => some (.ok ())
  | _ => none

/-- Nothing so far ends the worker. -/
def GoesOn (t : RxTrace) : Prop := ∀ e ∈ t, stopResult e = none

theorem goesOn_nil : GoesOn [] := fun _ h ↦ (nomatch h)

theorem GoesOn.log {t : RxTrace} (h : GoesOn t) {op : RxOp} {ans : RxAns op}
    (hans : stopResult ⟨op, ans⟩ = none) : GoesOn (log t op ans) := by
  intro e he
  rcases List.mem_append.mp he with he | he
  · exact h e he
  · rw [List.mem_singleton.mp he]
    exact hans

theorem packetsRead_log (t : RxTrace) (op : RxOp) (ans : RxAns op) :
    packetsRead (log t op ans) = packetsRead t
      ++ (readData ⟨op, ans⟩).toList.filter fun data ↦ ¬IsControlFrame data := by
  rw [packetsRead, log, List.filterMap_append, List.filter_append, packetsRead]
  cases h : readData ⟨op, ans⟩ <;> simp [h]

theorem packetsSent_log (t : RxTrace) (op : RxOp) (ans : RxAns op) :
    packetsSent (log t op ans) = packetsSent t ++ (sentPacket ⟨op, ans⟩).toList := by
  rw [packetsSent, log, List.filterMap_append, packetsSent]
  cases h : sentPacket ⟨op, ans⟩ <;> simp [h]

/-! ## The loop invariant -/

/-- Where the loop starts over, everything that was read and is a packet has been sent. -/
def AllSent (t : RxTrace) : Prop := GoesOn t ∧ packetsRead t = packetsSent t

/-- The trace ends with the call that ends the worker. -/
def StoppedBy (t : RxTrace) (r : Except EcError Unit) : Prop :=
  ∃ t' e, t = t' ++ [e] ∧ GoesOn t' ∧ stopResult e = some r

/-- At the end everything has been sent too, except for a packet the closed channel did not take. -/
def SentUpTo (t : RxTrace) (r : Except EcError Unit) : Prop :=
  packetsRead t = packetsSent t ∨ r = .ok () ∧ ∃ d, packetsRead t = packetsSent t ++ [d]

/-- The packet that a call is about to send. -/
def RxOp.pending : RxOp → List (List UInt8)
  | .send packet => [packet]
  | .read => []
  | .reopenStream _ => []

def rxAllowed (t : RxTrace) (op : RxOp) : Prop :=
  GoesOn t ∧ packetsRead t = packetsSent t ++ op.pending

def rxPost (x : ℕ ⊕ Except EcError Unit) (t : RxTrace) : Prop :=
  x.elim (fun _ ↦ AllSent t) fun r ↦ StoppedBy t r ∧ SentUpTo t r

theorem GoesOn.stoppedBy {t : RxTrace} (h : GoesOn t) {op : RxOp} {ans : RxAns op}
    {r : Except EcError Unit} (hans : stopResult ⟨op, ans⟩ = some r) :
    StoppedBy (Thread.log t op ans) r := ⟨t, _, rfl, h, hans⟩

/-- A call that neither reads a packet nor sends one. -/
theorem packetsRead_log_eq {t : RxTrace} (h : packetsRead t = packetsSent t) {op : RxOp}
    {ans : RxAns op}
    (hread : ∀ data, readData ⟨op, ans⟩ = some data → IsControlFrame data)
    (hsent : sentPacket ⟨op, ans⟩ = none) :
    packetsRead (Thread.log t op ans) = packetsSent (Thread.log t op ans) := by
  rw [packetsRead_log, packetsSent_log, hsent, h]
  cases hdata : readData ⟨op, ans⟩ with
  | none => rfl
  | some data => simp [hread data hdata]

/-- Reopening the stream moves no packet. -/
theorem rxReopen_obeys {retries : ℕ} {t : RxTrace} (h : AllSent t) :
    Obeys rxAllowed Thread.log rxPost t (rxReopen retries) := by
  obtain ⟨hgoes, hsent⟩ := h
  refine obeys_perform_bind ⟨hgoes, hsent.trans (List.append_nil _).symm⟩ fun ans ↦ ?_
  have hsent' : packetsRead (Thread.log t (.reopenStream retries) ans)
      = packetsSent (Thread.log t (.reopenStream retries) ans) :=
    packetsRead_log_eq hsent (fun data hdata ↦ by cases ans <;> exact nomatch hdata)
      (by cases ans <;> rfl)
  cases ans with
  | ok => exact obeys_pure ⟨hgoes.log rfl, hsent'⟩
  | error e => exact obeys_pure ⟨hgoes.stoppedBy rfl, .inl hsent'⟩

/-- A packet goes into the channel, or the channel is closed and the worker ends. -/
theorem rxSend_obeys {packet : List UInt8} {t : RxTrace} (hgoes : GoesOn t)
    (hread : packetsRead t = packetsSent t ++ [packet]) :
    Obeys rxAllowed Thread.log rxPost t (do
      if ← perform (RxOp.send packet) then return .inl 0 else return .inr (.ok ())) := by
  refine obeys_perform_bind ⟨hgoes, hread⟩ fun ans ↦ ?_
  have hread' : packetsRead (Thread.log t (.send packet) ans) = packetsSent t ++ [packet] := by
    rw [packetsRead_log, hread]
    exact List.append_nil _
  cases ans with
  | true =>
    refine obeys_pure ⟨hgoes.log rfl, ?_⟩
    rw [hread', packetsSent_log]
    rfl
  | false =>
    refine obeys_pure ⟨hgoes.stoppedBy rfl, .inr ⟨rfl, packet, ?_⟩⟩
    rw [hread', packetsSent_log]
    simp [sentPacket]

/-- The loop invariant of the receiving worker. -/
def rxRule : Rule rxWorkerLoop where
  allowed := rxAllowed
  head _ t := AllSent t
  post r t := StoppedBy t r ∧ SentUpTo t r
  obeys := by
    rintro retries t ⟨hgoes, hsent⟩
    refine obeys_perform_bind ⟨hgoes, hsent.trans (List.append_nil _).symm⟩ fun ans ↦ ?_
    cases ans with
    | error e =>
      have hall : AllSent (Thread.log t .read (.error e)) :=
        ⟨hgoes.log rfl, packetsRead_log_eq hsent (fun data hdata ↦ (nomatch hdata)) rfl⟩
      dsimp only
      split_ifs
      · exact obeys_pure hall
      · exact rxReopen_obeys hall
    | ok bytes =>
      dsimp only
      by_cases hempty : bytes.1 = []
      · rw [if_pos hempty]
        refine rxReopen_obeys ⟨hgoes.log ?_, packetsRead_log_eq hsent (fun data hdata ↦ ?_) rfl⟩
        · exact if_neg fun h ↦ absurd (hempty ▸ h.1.1) (by decide)
        · simp [readData, hempty] at hdata
      · rw [if_neg hempty, shouldForwardRxPayload_eq]
        have hdata : readData ⟨.read, .ok bytes⟩ = some bytes.1 := if_neg hempty
        by_cases hframe : IsControlFrame bytes.1
        · -- a control frame is read and nothing has to be sent
          have hread : packetsRead (Thread.log t .read (.ok bytes))
              = packetsSent (Thread.log t .read (.ok bytes)) :=
            packetsRead_log_eq hsent (fun data hd ↦ by
              rw [hdata, Option.some.injEq] at hd
              exact hd ▸ hframe) rfl
          rw [if_pos hframe]
          by_cases hack : controlCode bytes.1 = 1
          · rw [if_pos hack]
            exact obeys_pure ⟨hgoes.log (if_neg fun h ↦ h.2 hack), hread⟩
          · rw [if_neg hack]
            exact obeys_pure ⟨hgoes.stoppedBy (if_pos ⟨hframe, hack⟩), .inl hread⟩
        · rw [if_neg hframe]
          refine rxSend_obeys (hgoes.log (if_neg fun h ↦ hframe h.1)) ?_
          rw [packetsRead_log, packetsSent_log, hdata, hsent]
          simp [hframe, sentPacket]

/-! ## What the worker does -/

theorem RxThread.Reachable.holds {th : RxThread} (h : th.Reachable) : rxRule.Holds th :=
  Rule.holds_of_reachable (rxRule.obeys 0 [] ⟨goesOn_nil, rfl⟩) h

theorem stopResult_eq_ok_iff {e : Exchange RxOp RxAns} :
    stopResult e = some (.ok ()) ↔ ∃ packet, e = ⟨.send packet, false⟩ := by
  obtain ⟨op, ans⟩ := e
  constructor
  · intro h
    cases op with
    | read =>
      cases ans with
      | error e => exact nomatch h
      | ok bytes =>
        rw [stopResult] at h
        split_ifs at h
        exact nomatch Option.some.inj h
    | reopenStream n =>
      cases ans with
      | error e => exact nomatch h
      | ok => exact nomatch h
    | send packet =>
      cases ans with
      | true => exact nomatch h
      | false => exact ⟨packet, rfl⟩
  · rintro ⟨packet, h⟩
    rw [h]
    rfl

/-- **The worker forwards exactly the data.** At every point of a run the packets sent are the data
reads that are not control frames, in order, up to one that is about to be sent or that the closed
channel did not take. The worker goes on until a control frame whose number is not 1, a failed
reconnect or a closed channel, and ends right there; it ends well only on the closed channel. Data
that begins like an IPv4 header is a packet and ends nothing. -/
theorem rxWorker_forwards {th : RxThread} (h : th.Reachable) :
    (packetsRead th.trace = packetsSent th.trace
        ∨ ∃ d, packetsRead th.trace = packetsSent th.trace ++ [d]
          ∧ ((∃ next, th.left = .call (.send d) next) ∨ th.Ended (.ok ())))
      ∧ ((GoesOn th.trace ∧ ∀ r, ¬th.Ended r) ∨ ∃ r, StoppedBy th.trace r ∧ th.Ended r)
      ∧ (th.Ended (.ok ()) → ∃ t packet, th.trace = t ++ [⟨.send packet, false⟩])
      ∧ ∀ (bytes : { bytes : List UInt8 // bytes.length ≤ 4096 }) (b : UInt8) (data : List UInt8),
          bytes.1 = b :: data → 0x45 ≤ b → b ≤ 0x4f →
            ¬IsControlFrame bytes.1 ∧ stopResult ⟨.read, .ok bytes⟩ = none := by
  refine ⟨?_, ?_, ?_, ?_⟩
  -- by where the thread stands: what it is about to call, or how it has ended
  · obtain ⟨t, p⟩ := th
    have hholds := h.holds
    cases p with
    | call op next =>
      have hread := hholds.allowed.2
      cases op with
      | send packet => exact .inr ⟨packet, hread, .inl ⟨next, rfl⟩⟩
      | read => exact .inl (hread.trans (List.append_nil _))
      | reopenStream n => exact .inl (hread.trans (List.append_nil _))
    | done x =>
      obtain ⟨hx⟩ := hholds
      cases x with
      | inl s => exact .inl hx.2
      | inr r =>
        rcases hx.2 with hsent | ⟨rfl, d, hd⟩
        · exact .inl hsent
        · exact .inr ⟨d, hd, .inr rfl⟩
  · refine h.holds.elim (fun op hcall hno ↦ ?_) (fun s hhead hno ↦ ?_) fun r hpost hend ↦ ?_
    · exact .inl ⟨hcall.1, hno⟩
    · exact .inl ⟨hhead.1, hno⟩
    · exact .inr ⟨r, hpost.1, hend⟩
  · intro hend
    obtain ⟨t, e, ht, -, he⟩ := (h.holds.post hend).1
    obtain ⟨packet, rfl⟩ := stopResult_eq_ok_iff.mp he
    exact ⟨t, packet, ht⟩
  · intro bytes b data hbytes hlow hhigh
    have hframe : ¬IsControlFrame bytes.1 := by
      rintro ⟨-, hmagic⟩
      rw [hbytes, List.take_succ_cons] at hmagic
      rw [(List.cons.inj hmagic).1] at hlow
      exact absurd hlow (by decide)
    exact ⟨hframe, if_neg fun h ↦ hframe h.1⟩

/-- A control frame with a number. -/
def controlFrame (code : UInt8) : { bytes : List UInt8 // bytes.length ≤ 4096 } :=
  ⟨[0x41, 0x41, 0x42, 0x42, code, 0, 0, 0] ++ List.replicate 32 0, by simp⟩

/-- The next call of a thread, which comes to the end of the pass with it. -/
theorem reachable_pass {t : RxTrace} {p : Program RxOp RxAns (ℕ ⊕ Except EcError Unit)} {op : RxOp}
    {next : RxAns op → Program RxOp RxAns (ℕ ⊕ Except EcError Unit)} {s : ℕ}
    (h : RxThread.Reachable ⟨t, p⟩) (hp : p = .call op next) (ans : RxAns op)
    (hans : next ans = .done (.inl s)) :
    RxThread.Reachable ⟨t ++ [⟨op, ans⟩], rxWorkerLoop s⟩ := by
  have hcall := Reachable.call h hp ans
  rw [hans] at hcall
  exact hcall.tail ⟨none, .again⟩

/-- Waiting in vain, an acknowledgement, a stream that is replaced, a packet, and then a frame that
ends the worker. -/
theorem rxWorker_forwards_run :
    ∃ th : RxThread, th.Reachable
      ∧ th.trace = [⟨.read, .error .timedOut⟩, ⟨.read, .ok (controlFrame 1)⟩,
        ⟨.read, .ok ⟨[], Nat.zero_le _⟩⟩, ⟨.reopenStream 1, .ok ()⟩,
        ⟨.read, .ok ⟨[0x45, 0x00], by decide⟩⟩, ⟨.send [0x45, 0x00], true⟩,
        ⟨.read, .ok (controlFrame 2)⟩]
      ∧ packetsRead th.trace = [[0x45, 0x00]] ∧ packetsSent th.trace = [[0x45, 0x00]]
      ∧ ∃ r, StoppedBy th.trace r ∧ th.Ended r := by
  have hstart : RxThread.Reachable ⟨[], rxWorkerLoop 0⟩ := .refl
  have htimeout := reachable_pass hstart rfl (.error .timedOut) rfl
  have hack := reachable_pass htimeout rfl (.ok (controlFrame 1)) rfl
  have hclosed := Reachable.call hack rfl (.ok ⟨[], Nat.zero_le _⟩)
  have hreopen := @reachable_pass _ _ (.reopenStream 1) _ _ hclosed rfl (.ok ()) rfl
  have hread := Reachable.call hreopen rfl (.ok ⟨[0x45, 0x00], by decide⟩)
  have hsend := @reachable_pass _ _ (.send [0x45, 0x00]) _ _ hread rfl true rfl
  have hreset := Reachable.call hsend rfl (.ok (controlFrame 2))
  refine ⟨_, hreset, rfl, by decide, by decide, ?_⟩
  rcases (rxWorker_forwards hreset).2.1 with ⟨-, hgoes⟩ | hstopped
  · exact absurd rfl (hgoes _)
  · exact hstopped

end ShiepPipeline
