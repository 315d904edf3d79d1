import Mathlib.Algebra.Group.Nat.Defs
import ShiepPipeline.Concurrency.Channel
import ShiepPipeline.Concurrency.Thread
import ShiepPipeline.Error

/-!
# The sending worker

`txWorkerLoop` takes packets out of the queue and writes them to the tunnel, with a heartbeat packet
in between when one is due. A write that fails is tried once more on a new stream.

`txWorker_delivers` is about the worker among everyone who sends to the queue: in every state of
every run, what was written is a beginning of what was queued.
-/

open Program Thread

namespace ShiepPipeline

/-! ## The worker -/

/-- A packet to be written, with where it comes from. -/
inductive TxPacket
  /-- `runtime.tx_heartbeat_packet()`. -/
  | heartbeat
  | queued (packet : List UInt8)
deriving DecidableEq

inductive TxOp
  /-- `Instant::now()`. -/
  | now
  /-- `rx.recv_timeout(wait)`. -/
  | recvTimeout (wait : ℕ)
  /-- `stream.write_all(&packet)`. -/
  | writeAll (packet : TxPacket)
  /-- `runtime.reopen_stream(StreamProfile::Tx, retries)`. -/
  | reopenStream (retries : ℕ)
deriving DecidableEq

/-- Instants and durations are in nanoseconds. The text of a write's error is kept. -/
abbrev TxAns : TxOp → Type
  | .now => ℕ
  | .recvTimeout _ => Recv (List UInt8)
  | .writeAll _ => Except String Unit
  | .reopenStream _ => Except EcError Unit

/-- `TX_HEARTBEAT_INTERVAL`, 12 seconds. -/
def txHeartbeatInterval : ℕ := 12 * 10 ^ 9

structure TxLoop where
  retries : ℕ
  nextHeartbeat : ℕ

/-- The part of a pass after the packet is chosen. -/
def txWrite (packet : TxPacket) (loop : TxLoop) :
    Program TxOp TxAns (TxLoop ⊕ Except EcError Unit) := do
  match ← perform (TxOp.writeAll packet) with
  | .ok _ => return .inl { loop with retries := 0 }
  | .error _ =>
    match ← perform (TxOp.reopenStream (loop.retries + 1)) with
    | .error e => return .inr (.error e)
    | .ok _ =>
      match ← perform (TxOp.writeAll packet) with
      | .ok _ => return .inl { loop with retries := 0 }
      | .error e =>
        return .inr (.error (.runtime s!"tx stream write failed after reconnect: {e}"))

/-- One pass of `tx_worker_loop`. -/
def txWorkerLoop (loop : TxLoop) : Program TxOp TxAns (TxLoop ⊕ Except EcError Unit) := do
  let now ← perform TxOp.now
  if loop.nextHeartbeat ≤ now then
    txWrite .heartbeat { loop with nextHeartbeat := now + txHeartbeatInterval }
  else
    match ← perform (TxOp.recvTimeout (loop.nextHeartbeat - now)) with
    | .message packet => txWrite (.queued packet) loop
    | .timeout => return .inl loop
    | .disconnected => return .inr (.ok ())

/-- What comes before the loop. -/
def txWorkerStart : Program TxOp TxAns (TxLoop ⊕ Except EcError Unit) := do
  let now ← perform TxOp.now
  return .inl ⟨0, now + txHeartbeatInterval⟩

abbrev TxThread := Thread TxOp TxAns TxLoop (Except EcError Unit)

/-! ## What a trace shows -/

abbrev TxTrace := List (Exchange TxOp TxAns)

def takenPacket : Exchange TxOp TxAns → Option (List UInt8)
  | ⟨.recvTimeout _, .message packet⟩ => some packet
  | _ => none

/-- The packets taken out of the queue, in order. -/
def dequeued (t : TxTrace) : List (List UInt8) := t.filterMap takenPacket

/-- The queue's packet that a packet to be written is, if it is one. -/
def TxPacket.ofQueue : TxPacket → Option (List UInt8)
  | .heartbeat => none
  | .queued packet => some packet

def writtenPacket : Exchange TxOp TxAns → Option (List UInt8)
  | ⟨.writeAll packet, .ok _⟩ => packet.ofQueue
  | _ => none

/-- The packets of the queue whose write was completed, over all streams in the order of time. -/
def completed (t : TxTrace) : List (List UInt8) := t.filterMap writtenPacket

def attemptedPacket : Exchange TxOp TxAns → Option TxPacket
  | ⟨.writeAll packet, _⟩ => some packet
  | _ => none

/-- Every write that was tried, heartbeats included. -/
def attempted (t : TxTrace) : List TxPacket := t.filterMap attemptedPacket

/-- The worker has seen the end of the queue. -/
def SawEnd (t : TxTrace) : Prop := ∃ wait, ⟨.recvTimeout wait, .disconnected⟩ ∈ t

theorem dequeued_log (t : TxTrace) (op : TxOp) (ans : TxAns op) :
    dequeued (log t op ans) = dequeued t ++ (takenPacket ⟨op, ans⟩).toList := by
  rw [dequeued, log, List.filterMap_append, dequeued]
  cases h : takenPacket ⟨op, ans⟩ <;> simp [h]

theorem completed_log (t : TxTrace) (op : TxOp) (ans : TxAns op) :
    completed (log t op ans) = completed t ++ (writtenPacket ⟨op, ans⟩).toList := by
  rw [completed, log, List.filterMap_append, completed]
  cases h : writtenPacket ⟨op, ans⟩ <;> simp [h]

theorem attempted_log (t : TxTrace) (op : TxOp) (ans : TxAns op) :
    attempted (log t op ans) = attempted t ++ (attemptedPacket ⟨op, ans⟩).toList := by
  rw [attempted, log, List.filterMap_append, attempted]
  cases h : attemptedPacket ⟨op, ans⟩ <;> simp [h]

/-! ## The loop invariant -/

/-- Everything that was taken out is written, except for the packet in hand. -/
def InHand (t : TxTrace) (packet : TxPacket) : Prop :=
  dequeued t = completed t ++ packet.ofQueue.toList

/-- A packet that was tried last is in hand: the others are written. -/
def StuckWith (t : TxTrace) (packet : TxPacket) : Prop :=
  InHand t packet ∧ (attempted t).getLast? = some packet

def txAllowed (t : TxTrace) : TxOp → Prop
  | .now => dequeued t = completed t
  | .recvTimeout _ => dequeued t = completed t
  | .writeAll packet => InHand t packet
  | .reopenStream _ => ∃ packet, StuckWith t packet

def txEnd (r : Except EcError Unit) (t : TxTrace) : Prop :=
  match r with
  | .ok _ => dequeued t = completed t ∧ SawEnd t
  | .error _ => ∃ packet, StuckWith t packet

def txPost (x : TxLoop ⊕ Except EcError Unit) (t : TxTrace) : Prop :=
  x.elim (fun _ ↦ dequeued t = completed t) fun r ↦ txEnd r t

/-- A write leaves the packet in hand or completes it. -/
theorem InHand.log {t : TxTrace} {packet : TxPacket} (h : InHand t packet)
    (ans : Except String Unit) :
    (∃ e, ans = .error e ∧ StuckWith (log t (.writeAll packet) ans) packet)
      ∨ ans = .ok () ∧ dequeued (log t (.writeAll packet) ans)
        = completed (log t (.writeAll packet) ans) := by
  rw [InHand] at h
  cases ans with
  | error e =>
    refine .inl ⟨e, rfl, ?_, ?_⟩
    · rw [InHand, dequeued_log, completed_log, h]
      exact (List.append_assoc _ _ _).trans (by simp [takenPacket, writtenPacket])
    · rw [attempted_log]
      exact List.getLast?_append_of_ne_nil _ (List.cons_ne_nil _ _)
  | ok =>
    refine .inr ⟨rfl, ?_⟩
    rw [dequeued_log, completed_log, h]
    exact List.append_nil _

/-- Reopening the stream leaves the packet in hand. -/
theorem StuckWith.log {t : TxTrace} {packet : TxPacket} (h : StuckWith t packet) (retries : ℕ)
    (ans : Except EcError Unit) : StuckWith (log t (.reopenStream retries) ans) packet := by
  refine ⟨?_, ?_⟩
  · have hhand : dequeued t = completed t ++ packet.ofQueue.toList := h.1
    rw [InHand, dequeued_log, completed_log, hhand]
    simp [takenPacket, writtenPacket]
  · rw [attempted_log]
    simpa [attemptedPacket] using h.2

theorem txWrite_obeys {t : TxTrace} {packet : TxPacket} (loop : TxLoop) (h : InHand t packet) :
    Obeys txAllowed Thread.log txPost t (txWrite packet loop) := by
  refine obeys_perform_bind h fun ans ↦ ?_
  rcases h.log ans with ⟨e, rfl, hstuck⟩ | ⟨rfl, hdone⟩
  · refine obeys_perform_bind ⟨packet, hstuck⟩ fun reopened ↦ ?_
    have hstuck' := hstuck.log (loop.retries + 1) reopened
    cases reopened with
    | error e => exact obeys_pure ⟨packet, hstuck'⟩
    | ok =>
      refine obeys_perform_bind hstuck'.1 fun again ↦ ?_
      rcases hstuck'.1.log again with ⟨e, rfl, hstuck''⟩ | ⟨rfl, hdone⟩
      · exact obeys_pure ⟨packet, hstuck''⟩
      · exact obeys_pure hdone
  · exact obeys_pure hdone

/-- The loop invariant of the sending worker. -/
def txRule : Rule txWorkerLoop where
  allowed := txAllowed
  head _ t := dequeued t = completed t
  post := txEnd
  obeys := by
    intro loop t h
    refine obeys_perform_bind h fun now ↦ ?_
    have hnow : dequeued (Thread.log t .now now) = completed (Thread.log t .now now) := by
      rw [dequeued_log, completed_log, h]
      rfl
    split_ifs
    · exact txWrite_obeys _ (hnow.trans (List.append_nil _).symm)
    · refine obeys_perform_bind hnow fun received ↦ ?_
      cases received with
      | message packet =>
        refine txWrite_obeys loop ?_
        rw [InHand, dequeued_log, completed_log, hnow]
        exact congrArg (· ++ [packet]) (List.append_nil _).symm
      | timeout =>
        refine obeys_pure ?_
        rw [dequeued_log, completed_log, hnow]
        rfl
      | disconnected =>
        refine obeys_pure ⟨?_, _, List.mem_append_right _ (List.mem_singleton.mpr rfl)⟩
        rw [dequeued_log, completed_log, hnow]
        rfl

theorem txWorkerStart_holds : txRule.Holds ⟨[], txWorkerStart⟩ :=
  obeys_perform_bind rfl fun _ ↦ obeys_pure rfl

/-! ## The worker and the queue -/

/-- Everything sent to the queue so far, whether a sender is left, and the worker. -/
structure TxSystem where
  sent : List (List UInt8)
  senders : Bool
  worker : TxThread

/-- The answers that the queue can give; time and the stream answer in any way. -/
def QueueAllows (s : TxSystem) : Exchange TxOp TxAns → Prop
  | ⟨.recvTimeout _, answer⟩ => answer.Possible s.sent (dequeued s.worker.trace) s.senders
  | _ => True

/-- Someone sends a packet, the last sender is dropped, or the worker makes a step. -/
inductive TxSystem.Step : TxSystem → TxSystem → Prop
  | send {sent : List (List UInt8)} {worker : TxThread} (packet : List UInt8) :
      Step ⟨sent, true, worker⟩ ⟨sent ++ [packet], true, worker⟩
  | hangUp {s : TxSystem} : Step s { s with senders := false }
  | work {s : TxSystem} {e : Option (Exchange TxOp TxAns)} {worker : TxThread}
      (hstep : Thread.Step txWorkerLoop s.worker e worker) (hqueue : ∀ e' ∈ e, QueueAllows s e') :
      Step s { s with worker }

def TxSystem.Reachable (s : TxSystem) : Prop :=
  Relation.ReflTransGen TxSystem.Step ⟨[], true, ⟨[], txWorkerStart⟩⟩ s

/-- The worker keeps its loop invariant, takes packets as they were sent, and has seen the end of
the queue only after the last one. -/
structure TxSystem.Consistent (s : TxSystem) : Prop where
  rule : txRule.Holds s.worker
  order : dequeued s.worker.trace <+: s.sent
  finished : SawEnd s.worker.trace → s.senders = false ∧ dequeued s.worker.trace = s.sent

theorem dequeued_append (t : TxTrace) (e : Exchange TxOp TxAns) :
    dequeued (t ++ [e]) = dequeued t ++ (takenPacket e).toList := dequeued_log t e.1 e.2

theorem SawEnd.append {t : TxTrace} {e : Exchange TxOp TxAns} (h : SawEnd (t ++ [e])) :
    SawEnd t ∨ ∃ wait, e = ⟨.recvTimeout wait, .disconnected⟩ := by
  obtain ⟨wait, hmem⟩ := h
  rcases List.mem_append.mp hmem with hmem | hmem
  · exact .inl ⟨wait, hmem⟩
  · exact .inr ⟨wait, (List.mem_singleton.mp hmem).symm⟩

/-- A call of the worker, with an answer that the queue can give. -/
theorem TxSystem.Consistent.call {s : TxSystem} (h : s.Consistent) {e : Exchange TxOp TxAns}
    (hqueue : QueueAllows s e) :
    dequeued (s.worker.trace ++ [e]) <+: s.sent
      ∧ (SawEnd (s.worker.trace ++ [e])
        → s.senders = false ∧ dequeued (s.worker.trace ++ [e]) = s.sent) := by
  rw [dequeued_append]
  cases htaken : takenPacket e with
  | none =>
    rw [Option.toList_none, List.append_nil]
    refine ⟨h.order, fun hend ↦ ?_⟩
    rcases hend.append with hend | ⟨wait, rfl⟩
    · exact h.finished hend
    · exact hqueue
  | some packet =>
    -- a packet is taken by a receive and by no other call
    obtain ⟨wait, rfl⟩ : ∃ wait, e = ⟨.recvTimeout wait, .message packet⟩ := by
      obtain ⟨op, ans⟩ := e
      cases op with
      | recvTimeout wait =>
        cases ans with
        | message p => exact ⟨wait, by rw [Option.some.inj htaken]⟩
        | timeout => exact nomatch htaken
        | disconnected => exact nomatch htaken
      | now => exact nomatch htaken
      | writeAll p => exact nomatch htaken
      | reopenStream n => exact nomatch htaken
    refine ⟨hqueue, fun hend ↦ ?_⟩
    rcases hend.append with hend | ⟨_, he⟩
    · have hall := (h.finished hend).2
      rw [QueueAllows, hall] at hqueue
      exact absurd hqueue (Recv.not_possible_message _ _ _)
    · exact nomatch he

theorem TxSystem.Consistent.step {s s' : TxSystem} (h : s.Consistent) (hstep : Step s s') :
    s'.Consistent := by
  cases hstep with
  | send packet =>
    refine ⟨h.rule, h.order.trans (List.prefix_append _ _), fun hend ↦ ?_⟩
    exact nomatch (h.finished hend).1
  | hangUp => exact ⟨h.rule, h.order, fun hend ↦ ⟨rfl, (h.finished hend).2⟩⟩
  | @work _ e _ hstep hqueue =>
    have htrace := hstep.trace_eq
    cases e with
    | none =>
      rw [Option.toList_none, List.append_nil] at htrace
      exact ⟨h.rule.step hstep, htrace ▸ h.order, htrace ▸ h.finished⟩
    | some e =>
      obtain ⟨horder, hfinished⟩ := h.call (hqueue e rfl)
      exact ⟨h.rule.step hstep, htrace ▸ horder, htrace ▸ hfinished⟩

theorem TxSystem.Reachable.consistent {s : TxSystem} (h : s.Reachable) : s.Consistent := by
  induction h with
  | refl =>
    refine ⟨txWorkerStart_holds, List.nil_prefix, ?_⟩
    rintro ⟨wait, hmem⟩
    exact nomatch hmem
  | tail _ hstep ih => exact ih.step hstep

/-- Whatever the worker is doing, at most one packet is taken out and not written. -/
theorem exists_inHand {th : TxThread} (h : txRule.Holds th) :
    ∃ hand : Option (List UInt8), dequeued th.trace = completed th.trace ++ hand.toList := by
  refine h.elim (fun op hcall _ ↦ ?_) (fun _ hhead _ ↦ ?_) fun r hpost _ ↦ ?_
  · cases op with
    | now => exact ⟨none, hcall.trans (List.append_nil _).symm⟩
    | recvTimeout wait => exact ⟨none, hcall.trans (List.append_nil _).symm⟩
    | writeAll packet => exact ⟨packet.ofQueue, hcall⟩
    | reopenStream n =>
      obtain ⟨packet, hstuck⟩ := hcall
      exact ⟨packet.ofQueue, hstuck.1⟩
  · exact ⟨none, hhead.trans (List.append_nil _).symm⟩
  · cases r with
    | ok => exact ⟨none, hpost.1.trans (List.append_nil _).symm⟩
    | error e =>
      obtain ⟨packet, hstuck⟩ := hpost
      exact ⟨packet.ofQueue, hstuck.1⟩

/-- **The worker delivers in order without loss.** At every point of a run the packets whose write
was completed are a beginning of what was queued. A worker that fails holds at most the packet it
tried to write last; one that ends well has written everything that was queued. -/
theorem txWorker_delivers {s : TxSystem} (h : s.Reachable) :
    completed s.worker.trace <+: s.sent
      ∧ (∀ e, s.worker.Ended (.error e) →
        ∃ packet, (attempted s.worker.trace).getLast? = some packet
          ∧ dequeued s.worker.trace = completed s.worker.trace ++ packet.ofQueue.toList)
      ∧ (s.worker.Ended (.ok ()) → dequeued s.worker.trace = completed s.worker.trace
        ∧ completed s.worker.trace = s.sent) := by
  have hs := h.consistent
  refine ⟨?_, fun e hend ↦ ?_, fun hend ↦ ?_⟩
  · obtain ⟨hand, hhand⟩ := exists_inHand hs.rule
    exact (List.prefix_append _ hand.toList).trans (hhand ▸ hs.order)
  · obtain ⟨packet, hhand, hlast⟩ := hs.rule.post hend
    exact ⟨packet, hlast, hhand⟩
  · obtain ⟨hdone, hend⟩ := hs.rule.post hend
    exact ⟨hdone, hdone.symm.trans (hs.finished hend).2⟩

/-- The worker's next call, with an answer that the queue can give. -/
theorem TxSystem.Reachable.call {sent : List (List UInt8)} {senders : Bool} {t : TxTrace}
    {p : Program TxOp TxAns (TxLoop ⊕ Except EcError Unit)} {op : TxOp}
    {next : TxAns op → Program TxOp TxAns (TxLoop ⊕ Except EcError Unit)}
    (h : TxSystem.Reachable ⟨sent, senders, ⟨t, p⟩⟩) (hp : p = .call op next) (ans : TxAns op)
    (hqueue : QueueAllows ⟨sent, senders, ⟨t, p⟩⟩ ⟨op, ans⟩) :
    TxSystem.Reachable ⟨sent, senders, ⟨t ++ [⟨op, ans⟩], next ans⟩⟩ := by
  subst hp
  refine h.tail (.work (.call ans) ?_)
  rintro e ⟨⟩
  exact hqueue

theorem TxSystem.Reachable.again {sent : List (List UInt8)} {senders : Bool} {t : TxTrace}
    {p : Program TxOp TxAns (TxLoop ⊕ Except EcError Unit)} {loop : TxLoop}
    (h : TxSystem.Reachable ⟨sent, senders, ⟨t, p⟩⟩) (hp : p = .done (.inl loop)) :
    TxSystem.Reachable ⟨sent, senders, ⟨t, txWorkerLoop loop⟩⟩ := by
  subst hp
  refine h.tail (.work .again ?_)
  rintro e ⟨⟩

/-- The first packet is written on the second stream, a heartbeat comes in between, and the worker
ends when both packets are written and no sender is left. -/
theorem txWorker_delivers_run :
    ∃ s : TxSystem, s.Reachable ∧ s.sent = [[0x45], [0x46]]
      ∧ attempted s.worker.trace
        = [.queued [0x45], .queued [0x45], .heartbeat, .queued [0x46]]
      ∧ s.worker.Ended (.ok ()) ∧ completed s.worker.trace = s.sent := by
  have hstart : TxSystem.Reachable ⟨[], true, ⟨[], txWorkerStart⟩⟩ := .refl
  have hloop := (hstart.call rfl 0 trivial).again rfl
  have hsent : TxSystem.Reachable ⟨[[0x45], [0x46]], true, _⟩ :=
    (hloop.tail (.send [0x45])).tail (.send [0x46])
  -- the first write fails, and the one after the reconnect does not
  have hnow := hsent.call rfl 1 trivial
  have hfirst := @TxSystem.Reachable.call _ _ _ _ (.recvTimeout (txHeartbeatInterval - 1)) _ hnow
    rfl (.message [0x45]) (List.prefix_append _ _)
  have hfailed := hfirst.call rfl (.error "broken pipe") trivial
  have hreopened := hfailed.call rfl (.ok ()) trivial
  have hwritten := (hreopened.call rfl (.ok ()) trivial).again rfl
  -- twelve seconds have passed
  have hdue := hwritten.call rfl txHeartbeatInterval trivial
  have hbeat := (hdue.call rfl (.ok ()) trivial).again rfl
  have hnow' := hbeat.call rfl txHeartbeatInterval trivial
  have hsecond := @TxSystem.Reachable.call _ _ _ _ (.recvTimeout txHeartbeatInterval) _ hnow'
    rfl (.message [0x46]) (List.prefix_refl _)
  have hwritten' := (hsecond.call rfl (.ok ()) trivial).again rfl
  have hdropped : TxSystem.Reachable _ := hwritten'.tail .hangUp
  have hnow'' := hdropped.call rfl txHeartbeatInterval trivial
  have hend := @TxSystem.Reachable.call _ _ _ _ (.recvTimeout txHeartbeatInterval) _ hnow''
    rfl .disconnected ⟨rfl, rfl⟩
  exact ⟨_, hend, rfl, rfl, rfl, ((txWorker_delivers hend).2.2 rfl).2⟩

end ShiepPipeline
