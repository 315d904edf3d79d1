import ShiepPipeline.Concurrency.Rounds
import ShiepPipeline.Text.Find
import ShiepPipeline.Tunnel.Fatal
import ShiepPipeline.Tunnel.TxWorker

/-!
# From the interface to the tunnel

The interface fills a frame and hands it to the device, which puts it into the queue of the sending
worker. The device never refuses a frame: one that can not be queued is dropped, with a warning for
the first. `Outbound` is the thread of the netstack, the worker, the queue between them and the
reason that is left where a thread of the tunnel failed.

The netstack is started after the tunnel, and the sender in `TX_PACKET_SENDER` is never dropped.

`outbound_inOrder` is about every interleaving: what the interface emitted is what was written,
followed by what is on the way and what was dropped, and only a worker that failed lets a frame be
dropped. `outbound_drains` says that as long as it has not failed nothing is stuck on the way.
-/

open Program Thread Fallible Str

namespace ShiepPipeline

/-! ## The device -/

inductive EmitOp
  /-- The interface fills the next frame. -/
  | frame
  /-- `TX_PACKET_SENDER.get()`. -/
  | getSender
  /-- `sender.send(packet)`. -/
  | send (packet : List UInt8)
  /-- `CLOSED_TUNNEL_WARNED.swap(true)`. -/
  | swapWarned
  /-- `tunnel_fatal_reason()`. -/
  | fatalReason
  | warn (text : String)

/-- A send fails where the worker's end is gone. -/
abbrev EmitAns : EmitOp → Type
  | .frame => List UInt8
  | .getSender => Bool
  | .send _ => Bool
  | .swapWarned => Bool
  | .fatalReason => Option String
  | .warn _ => Unit

abbrev Emit (α : Type) := Program EmitOp EmitAns α

/-- The error of a send to a worker that is gone, with the text of `mpsc::SendError`. -/
def closedErr : EcError := .runtime "send tunnel packet failed: sending on a closed channel"

def sendTunnelPacket (packet : List UInt8) : Fallible EcError EmitOp EmitAns Unit := do
  let sender ← lift (perform EmitOp.getSender)
  if !sender then throw (.runtime "tunnel runtime is not started")
  let sent ← lift (perform (EmitOp.send packet))
  if !sent then throw closedErr

/-- What is said about the first frame that is dropped. -/
def closedTunnelWarning : Option String → String
  | some reason => "dropping outbound packet; tunnel already closed: " ++ reason
  | none => "dropping outbound packet; tunnel channel is closed"

def warnClosedTunnel : Emit (Unit ⊕ Empty) := do
  let warned ← perform EmitOp.swapWarned
  if !warned then
    let reason ← perform EmitOp.fatalReason
    perform (EmitOp.warn (closedTunnelWarning reason))
  return .inl ()

/-- What `TunnelTxToken::consume` does with the error of a send. -/
def handleSendError (err : EcError) : Emit (Unit ⊕ Empty) := do
  let detail := conciseError err
  if containsStr detail "sending on a closed channel" then
    warnClosedTunnel
  else
    perform (EmitOp.warn ("send tunnel packet failed: " ++ detail))
    return .inl ()

/-- The rest of `TunnelTxToken::consume`, with the frame filled. -/
def consume (frame : List UInt8) : Emit (Unit ⊕ Empty) := do
  match ← (sendTunnelPacket frame).run with
  | .ok _ => return .inl ()
  | .error err => handleSendError err

/-- One frame after the other. -/
def emitLoop (_ : Unit) : Emit (Unit ⊕ Empty) := do
  let frame ← perform EmitOp.frame
  consume frame

abbrev EmitThread := Thread EmitOp EmitAns Unit Empty
abbrev EmitTrace := List (Exchange EmitOp EmitAns)

/-! ## What a trace shows -/

section Trace

def filledFrame : Exchange EmitOp EmitAns → Option (List UInt8)
  | ⟨.frame, packet⟩ => some packet
  | _ => none

def triedPacket : Exchange EmitOp EmitAns → Option (List UInt8 × Bool)
  | ⟨.send packet, sent⟩ => some (packet, sent)
  | _ => none

def foundWarned : Exchange EmitOp EmitAns → Option Bool
  | ⟨.swapWarned, warned⟩ => some warned
  | _ => none

def foundReason : Exchange EmitOp EmitAns → Option (Option String)
  | ⟨.fatalReason, reason⟩ => some reason
  | _ => none

def warnedText : Exchange EmitOp EmitAns → Option String
  | ⟨.warn text, _⟩ => some text
  | _ => none

/-- What the interface emitted, in order. -/
def framesEmitted (t : EmitTrace) : List (List UInt8) := t.filterMap filledFrame

/-- The frames that were sent into the queue, with whether they could be. -/
def sendsTried (t : EmitTrace) : List (List UInt8 × Bool) := t.filterMap triedPacket

def framesQueued (t : EmitTrace) : List (List UInt8) :=
  ((sendsTried t).filter Prod.snd).map Prod.fst

def framesDropped (t : EmitTrace) : List (List UInt8) :=
  ((sendsTried t).filter fun x ↦ !x.2).map Prod.fst

def swapsFound (t : EmitTrace) : List Bool := t.filterMap foundWarned
def reasonsFound (t : EmitTrace) : List (Option String) := t.filterMap foundReason
def warningsGiven (t : EmitTrace) : List String := t.filterMap warnedText

variable (t t' : EmitTrace)

theorem framesEmitted_append : framesEmitted (t ++ t') = framesEmitted t ++ framesEmitted t' :=
  List.filterMap_append

theorem sendsTried_append : sendsTried (t ++ t') = sendsTried t ++ sendsTried t' :=
  List.filterMap_append

theorem framesQueued_append : framesQueued (t ++ t') = framesQueued t ++ framesQueued t' := by
  rw [framesQueued, sendsTried_append, List.filter_append, List.map_append]
  rfl

theorem framesDropped_append : framesDropped (t ++ t') = framesDropped t ++ framesDropped t' := by
  rw [framesDropped, sendsTried_append, List.filter_append, List.map_append]
  rfl

theorem swapsFound_append : swapsFound (t ++ t') = swapsFound t ++ swapsFound t' :=
  List.filterMap_append

theorem reasonsFound_append : reasonsFound (t ++ t') = reasonsFound t ++ reasonsFound t' :=
  List.filterMap_append

theorem warningsGiven_append : warningsGiven (t ++ t') = warningsGiven t ++ warningsGiven t' :=
  List.filterMap_append

end Trace

/-! ## The loop invariant of the device -/

/-- The accounts of a thread with a frame in hand, or with a dropped frame that it has not asked
the flag about, or with the reason to be asked for, or with a warning to be given. -/
structure EmitTrace.Owes (t : EmitTrace) (hand : Option (List UInt8)) (swaps looks : ℕ)
    (warning : Option (Option String)) : Prop where
  frames : framesEmitted t = (sendsTried t).map Prod.fst ++ hand.toList
  swaps : (swapsFound t).length + swaps = (framesDropped t).length
  looks : (reasonsFound t).length + looks = (swapsFound t).count false
  warnings : (reasonsFound t).map closedTunnelWarning
    = warningsGiven t ++ (warning.map closedTunnelWarning).toList

/-- The sender was there whenever it was looked for. -/
def SenderFound (t : EmitTrace) : Prop := ⟨.getSender, false⟩ ∉ t

def emitAllowed (t : EmitTrace) : EmitOp → Prop
  | .frame => t.Owes none 0 0 none
  | .getSender => ∃ packet, t.Owes (some packet) 0 0 none
  | .send packet => t.Owes (some packet) 0 0 none
  | .swapWarned => t.Owes none 1 0 none
  | .fatalReason => t.Owes none 0 1 none
  | .warn text => ∃ reason, text = closedTunnelWarning reason ∧ t.Owes none 0 0 (some reason)

section Owes

variable {t : EmitTrace} {e : Exchange EmitOp EmitAns} {hand hand' : Option (List UInt8)}
  {swaps swaps' looks looks' : ℕ} {warning warning' : Option (Option String)}

theorem EmitTrace.Owes.append (h : t.Owes hand swaps looks warning)
    (hframes : hand.toList ++ framesEmitted [e]
      = (sendsTried [e]).map Prod.fst ++ hand'.toList)
    (hswaps : (swapsFound [e]).length + swaps' = swaps + (framesDropped [e]).length)
    (hlooks : (reasonsFound [e]).length + looks' = looks + (swapsFound [e]).count false)
    (hwarnings : (warning.map closedTunnelWarning).toList
        ++ (reasonsFound [e]).map closedTunnelWarning
      = warningsGiven [e] ++ (warning'.map closedTunnelWarning).toList) :
    EmitTrace.Owes (t ++ [e]) hand' swaps' looks' warning' where
  frames := by
    rw [framesEmitted_append, sendsTried_append, h.frames, List.map_append, List.append_assoc,
      hframes, List.append_assoc]
  swaps := by
    rw [swapsFound_append, framesDropped_append, List.length_append, List.length_append, ← h.swaps]
    omega
  looks := by
    rw [reasonsFound_append, swapsFound_append, List.length_append, List.count_append, ← h.looks]
    omega
  warnings := by
    rw [reasonsFound_append, warningsGiven_append, List.map_append, h.warnings, List.append_assoc,
      hwarnings, List.append_assoc]

theorem EmitTrace.Owes.fill (h : t.Owes none 0 0 none) (packet : List UInt8) :
    EmitTrace.Owes (Thread.log t .frame packet) (some packet) 0 0 none :=
  h.append rfl rfl rfl rfl

theorem EmitTrace.Owes.find (h : t.Owes hand 0 0 none) (set : Bool) :
    EmitTrace.Owes (Thread.log t .getSender set) hand 0 0 none :=
  h.append (List.append_nil _) rfl rfl rfl

theorem EmitTrace.Owes.queue {packet : List UInt8} (h : t.Owes (some packet) 0 0 none) :
    EmitTrace.Owes (Thread.log t (.send packet) true) none 0 0 none :=
  h.append rfl rfl rfl rfl

theorem EmitTrace.Owes.refuse {packet : List UInt8} (h : t.Owes (some packet) 0 0 none) :
    EmitTrace.Owes (Thread.log t (.send packet) false) none 1 0 none :=
  h.append rfl rfl rfl rfl

theorem EmitTrace.Owes.first (h : t.Owes none 1 0 none) :
    EmitTrace.Owes (Thread.log t .swapWarned false) none 0 1 none :=
  h.append rfl rfl rfl rfl

theorem EmitTrace.Owes.again (h : t.Owes none 1 0 none) :
    EmitTrace.Owes (Thread.log t .swapWarned true) none 0 0 none :=
  h.append rfl rfl rfl rfl

theorem EmitTrace.Owes.look (h : t.Owes none 0 1 none) (reason : Option String) :
    EmitTrace.Owes (Thread.log t .fatalReason reason) none 0 0 (some reason) :=
  h.append rfl rfl rfl rfl

theorem EmitTrace.Owes.warn {reason : Option String} (h : t.Owes none 0 0 (some reason)) :
    EmitTrace.Owes (Thread.log t (.warn (closedTunnelWarning reason)) ()) none 0 0 none :=
  h.append rfl rfl rfl rfl

theorem SenderFound.of_append {t' : EmitTrace} (h : SenderFound (t ++ t')) : SenderFound t :=
  fun hmem ↦ h (List.mem_append_left _ hmem)

theorem not_senderFound_append : ¬SenderFound (t ++ [⟨.getSender, false⟩]) :=
  fun h ↦ h (List.mem_append_right _ (List.mem_singleton.mpr rfl))

end Owes

/-- What a call of the device has to be, as long as there is a sender, and what is owed after the
frame is dealt with. -/
abbrev EmitObeys (t : EmitTrace) (p : Emit (Unit ⊕ Empty)) : Prop :=
  Obeys (fun t op ↦ SenderFound t → emitAllowed t op) Thread.log
    (fun x t ↦ x.elim (fun _ ↦ SenderFound t → t.Owes none 0 0 none) fun r ↦ r.elim) t p

section Rule

variable {t : EmitTrace}

theorem obeys_warnClosedTunnel (h : SenderFound t → t.Owes none 1 0 none) :
    EmitObeys t warnClosedTunnel := by
  refine .call h fun warned ↦ ?_
  rcases warned with _ | _
  · refine .call (fun hfound ↦ (h hfound.of_append).first) fun reason ↦ ?_
    have hlook : SenderFound (Thread.log (Thread.log t .swapWarned false) .fatalReason reason) →
        EmitTrace.Owes (Thread.log (Thread.log t .swapWarned false) .fatalReason reason) none 0 0
          (some reason) :=
      fun hfound ↦ (h hfound.of_append.of_append).first.look reason
    exact .call (fun hfound ↦ ⟨reason, rfl, hlook hfound⟩) fun _ ↦
      .done fun hfound ↦ (hlook hfound.of_append).warn
  · exact .done fun hfound ↦ (h hfound.of_append).again

/-- Whatever else went wrong, there was no sender. -/
theorem obeys_handleSendError {err : EcError} (h : SenderFound t → t.Owes none 1 0 none)
    (hclosed : SenderFound t →
      containsStr (conciseError err) "sending on a closed channel" = true) :
    EmitObeys t (handleSendError err) := by
  rw [handleSendError]
  split_ifs with hcontains
  · exact obeys_warnClosedTunnel h
  · exact .call (fun hfound ↦ absurd (hclosed hfound) hcontains) fun _ ↦
      .done fun hfound ↦ absurd (hclosed hfound.of_append) hcontains

theorem stripRuntimePrefixes_of_not_prefix {l : List Char} (h : ¬runtimePrefix.toList <+: l) :
    stripRuntimePrefixes l = l := by
  rw [stripRuntimePrefixes, if_neg h]

theorem conciseError_runtime {text : String} (h : ¬runtimePrefix.toList <+: text.toList) :
    conciseError (.runtime text) = text := by
  rw [conciseError, EcError.display, conciseMessage, String.toList_append, stripRuntimePrefixes,
    if_pos (List.prefix_append ..), List.drop_left, stripRuntimePrefixes_of_not_prefix h,
    String.ofList_toList]

theorem closedErr_contains :
    containsStr (conciseError closedErr) "sending on a closed channel" = true := by
  rw [closedErr, conciseError_runtime (by decide +kernel)]
  exact containsStr_iff.mpr ⟨"send tunnel packet failed: ", "", by decide +kernel⟩

theorem obeys_consume {frame : List UInt8} (h : SenderFound t → t.Owes (some frame) 0 0 none) :
    EmitObeys t (consume frame) := by
  refine .call (fun hfound ↦ ⟨frame, h hfound⟩) fun set ↦ ?_
  rcases set with _ | _
  · exact obeys_handleSendError (fun hfound ↦ absurd hfound not_senderFound_append)
      fun hfound ↦ absurd hfound not_senderFound_append
  have hfind : SenderFound (Thread.log t .getSender true) →
      EmitTrace.Owes (Thread.log t .getSender true) (some frame) 0 0 none :=
    fun hfound ↦ (h hfound.of_append).find true
  refine .call hfind fun sent ↦ ?_
  rcases sent with _ | _
  · exact obeys_handleSendError (fun hfound ↦ (hfind hfound.of_append).refuse)
      fun _ ↦ closedErr_contains
  · exact .done fun hfound ↦ (hfind hfound.of_append).queue

def emitRule : Rule emitLoop where
  allowed t op := SenderFound t → emitAllowed t op
  head _ t := SenderFound t → EmitTrace.Owes t none 0 0 none
  post r _ := r.elim
  obeys _ _ h := .call h fun frame ↦ obeys_consume fun hfound ↦ (h hfound.of_append).fill frame

end Rule

/-- Wherever a thread stands, it has at most one frame in hand and owes at most one warning. -/
theorem exists_owes {th : EmitThread} (h : emitRule.Holds th) (hfound : SenderFound th.trace) :
    ∃ hand swaps looks warning, EmitTrace.Owes th.trace hand swaps looks warning := by
  refine h.elim (fun op hcall _ ↦ ?_) (fun _ hhead _ ↦ ⟨_, _, _, _, hhead hfound⟩)
    fun r _ _ ↦ r.elim
  have howes := hcall hfound
  cases op with
  | frame | send | swapWarned | fatalReason => exact ⟨_, _, _, _, howes⟩
  | getSender =>
    obtain ⟨packet, howes⟩ := howes
    exact ⟨_, _, _, _, howes⟩
  | warn text =>
    obtain ⟨reason, -, howes⟩ := howes
    exact ⟨_, _, _, _, howes⟩

/-! ## The threads and the queue -/

/-- The thread of the netstack, the worker with its queue, `CLOSED_TUNNEL_WARNED` and the reason
that the threads of the tunnel leave. -/
structure Outbound where
  emitter : EmitThread
  tx : TxSystem
  warned : Bool
  reason : Option String

namespace Outbound

def initial : Outbound where
  emitter := ⟨[], emitLoop ()⟩
  tx := ⟨[], true, ⟨[], txWorkerStart⟩⟩
  warned := false
  reason := none

variable (s : Outbound)

/-- What has been queued and not been taken out. -/
def inQueue : List (List UInt8) := s.tx.sent.drop (dequeued s.tx.worker.trace).length

def EmitterAllows : Exchange EmitOp EmitAns → Prop
  | ⟨.frame, _⟩ => True
  | ⟨.getSender, set⟩ => set = true
  | ⟨.send _, sent⟩ => sent = true ↔ ∀ r, ¬s.tx.worker.Ended r
  | ⟨.swapWarned, warned⟩ => warned = s.warned
  | ⟨.fatalReason, reason⟩ => FatalCall.current.effect s.reason (.current reason) s.reason
  | ⟨.warn _, _⟩ => True

/-- One of the two threads makes a step, or a thread that fails records why. -/
inductive Step : Outbound → Outbound → Prop
  | emit {s : Outbound} {e : Option (Exchange EmitOp EmitAns)} {emitter : EmitThread}
      (hstep : Thread.Step emitLoop s.emitter e emitter) (hallows : ∀ e' ∈ e, s.EmitterAllows e') :
      Step s { s with
        emitter
        tx := { s.tx with sent := s.tx.sent ++ framesQueued e.toList }
        warned := s.warned || !(swapsFound e.toList).isEmpty }
  | work {s : Outbound} {e : Option (Exchange TxOp TxAns)} {worker : TxThread}
      (hstep : Thread.Step txWorkerLoop s.tx.worker e worker)
      (hqueue : ∀ e' ∈ e, QueueAllows s.tx e') : Step s { s with tx := { s.tx with worker } }
  | record {s : Outbound} {text : String} {reason : Option String}
      (heffect : (FatalCall.record text).effect s.reason .done reason) : Step s { s with reason }

def Reachable : Prop := Relation.ReflTransGen Step .initial s

/-! ## The order of the frames -/

/-- What holds between the threads. -/
structure InOrder : Prop where
  emitter : emitRule.Holds s.emitter
  found : SenderFound s.emitter.trace
  tx : s.tx.Consistent
  senders : s.tx.senders = true
  sent : s.tx.sent = framesQueued s.emitter.trace
  tried : (sendsTried s.emitter.trace).map Prod.fst
    = framesQueued s.emitter.trace ++ framesDropped s.emitter.trace
  closed : framesDropped s.emitter.trace ≠ [] → ∃ r, s.tx.worker.Ended r
  first : (swapsFound s.emitter.trace).count false = s.warned.toNat
  warned : s.warned = true ↔ swapsFound s.emitter.trace ≠ []
  reasons : ∀ reason ∈ reasonsFound s.emitter.trace, reason = none ∨ reason = s.reason

variable {s}

theorem inOrder_initial : initial.InOrder where
  emitter := emitRule.obeys () [] fun _ ↦ ⟨rfl, rfl, rfl, rfl⟩
  found := nofun
  tx := TxSystem.Reachable.consistent .refl
  senders := rfl
  sent := rfl
  tried := rfl
  closed h := absurd rfl h
  first := rfl
  warned := iff_of_false nofun fun h ↦ h rfl
  reasons := nofun

theorem InOrder.dropped_eq_nil (h : s.InOrder) (halive : ∀ r, ¬s.tx.worker.Ended r) :
    framesDropped s.emitter.trace = [] := by
  by_contra hne
  obtain ⟨r, hr⟩ := h.closed hne
  exact halive r hr

/-- The worker never sees the end of the queue, so it does not end well. -/
theorem InOrder.not_ended_ok (h : s.InOrder) : ¬s.tx.worker.Ended (.ok ()) := by
  intro hend
  obtain ⟨-, hsaw⟩ := h.tx.rule.post hend
  have hleft := (h.tx.finished hsaw).1
  rw [h.senders] at hleft
  cases hleft

theorem InOrder.work (h : s.InOrder) {e : Option (Exchange TxOp TxAns)} {worker : TxThread}
    (hstep : Thread.Step txWorkerLoop s.tx.worker e worker)
    (hqueue : ∀ e' ∈ e, QueueAllows s.tx e') :
    ({ s with tx := { s.tx with worker } } : Outbound).InOrder where
  emitter := h.emitter
  found := h.found
  tx := h.tx.step (.work hstep hqueue)
  senders := h.senders
  sent := h.sent
  tried := h.tried
  closed hdropped := by
    obtain ⟨r, hr⟩ := h.closed hdropped
    exact absurd hr (hstep.not_ended r)
  first := h.first
  warned := h.warned
  reasons := h.reasons

theorem InOrder.record (h : s.InOrder) {text : String} {reason : Option String}
    (heffect : (FatalCall.record text).effect s.reason .done reason) :
    ({ s with reason } : Outbound).InOrder where
  emitter := h.emitter
  found := h.found
  tx := h.tx
  senders := h.senders
  sent := h.sent
  tried := h.tried
  closed := h.closed
  first := h.first
  warned := h.warned
  reasons found hfound := by
    obtain ⟨-, rfl⟩ := heffect
    rcases h.reasons found hfound with rfl | rfl
    · exact .inl rfl
    · rcases hreason : s.reason with _ | first
      · exact .inl rfl
      · exact .inr rfl

section Emit

variable {e : Option (Exchange EmitOp EmitAns)}

/-- A frame is queued while the worker has not ended, and dropped once it has. -/
theorem EmitterAllows.sends_cases (hallows : ∀ e' ∈ e, s.EmitterAllows e') :
    (sendsTried e.toList = [] ∧ framesQueued e.toList = [] ∧ framesDropped e.toList = [])
      ∨ ∃ packet,
        (sendsTried e.toList = [(packet, true)] ∧ framesQueued e.toList = [packet]
          ∧ framesDropped e.toList = [] ∧ ∀ r, ¬s.tx.worker.Ended r)
        ∨ sendsTried e.toList = [(packet, false)] ∧ framesQueued e.toList = []
          ∧ framesDropped e.toList = [packet] ∧ ∃ r, s.tx.worker.Ended r := by
  rcases e with _ | ⟨_ | _ | packet | _ | _ | _, ans⟩
  case some.send =>
    have hsend := hallows _ rfl
    refine .inr ⟨packet, ?_⟩
    rcases ans with _ | _
    · refine .inr ⟨rfl, rfl, rfl, ?_⟩
      by_contra hend
      exact absurd (hsend.mpr (not_exists.mp hend)) Bool.false_ne_true
    · exact .inl ⟨rfl, rfl, rfl, hsend.mp rfl⟩
  all_goals exact .inl ⟨rfl, rfl, rfl⟩

/-- The flag is asked at most once in a step, and answers as it stood before. -/
theorem EmitterAllows.swaps_cases (hallows : ∀ e' ∈ e, s.EmitterAllows e') :
    swapsFound e.toList = [] ∨ swapsFound e.toList = [s.warned] := by
  rcases e with _ | ⟨_ | _ | _ | _ | _ | _, ans⟩
  case some.swapWarned =>
    obtain rfl : ans = s.warned := hallows _ rfl
    exact .inr rfl
  all_goals exact .inl rfl

theorem InOrder.found_append (h : s.InOrder) (hallows : ∀ e' ∈ e, s.EmitterAllows e') :
    SenderFound (s.emitter.trace ++ e.toList) := by
  intro hmem
  rcases List.mem_append.mp hmem with hmem | hmem
  · exact h.found hmem
  · exact absurd (hallows _ (Option.mem_toList.mp hmem)) Bool.false_ne_true

theorem InOrder.tried_append (h : s.InOrder) (hallows : ∀ e' ∈ e, s.EmitterAllows e') :
    (sendsTried (s.emitter.trace ++ e.toList)).map Prod.fst
      = framesQueued (s.emitter.trace ++ e.toList)
        ++ framesDropped (s.emitter.trace ++ e.toList) := by
  rw [sendsTried_append, framesQueued_append, framesDropped_append, List.map_append, h.tried]
  rcases EmitterAllows.sends_cases hallows with ⟨htried, hqueued, hdropped⟩ | ⟨packet, hsend⟩
  · rw [htried, hqueued, hdropped, List.append_nil, List.append_nil]
    exact List.append_nil _
  rcases hsend with ⟨htried, hqueued, hdropped, halive⟩ | ⟨htried, hqueued, hdropped, -⟩
  · rw [htried, hqueued, hdropped, h.dropped_eq_nil halive, List.append_nil, List.append_nil,
      List.append_nil]
    rfl
  · rw [htried, hqueued, hdropped, List.append_nil, ← List.append_assoc]
    rfl

theorem InOrder.closed_append (h : s.InOrder) (hallows : ∀ e' ∈ e, s.EmitterAllows e')
    (hdropped : framesDropped (s.emitter.trace ++ e.toList) ≠ []) :
    ∃ r, s.tx.worker.Ended r := by
  rw [framesDropped_append] at hdropped
  rcases EmitterAllows.sends_cases hallows with ⟨-, -, hnone⟩ | ⟨packet, hsend⟩
  · rw [hnone, List.append_nil] at hdropped
    exact h.closed hdropped
  rcases hsend with ⟨-, -, hnone, -⟩ | ⟨-, -, -, hend⟩
  · rw [hnone, List.append_nil] at hdropped
    exact h.closed hdropped
  · exact hend

theorem InOrder.swaps_append (h : s.InOrder) (hallows : ∀ e' ∈ e, s.EmitterAllows e') :
    (swapsFound (s.emitter.trace ++ e.toList)).count false
        = (s.warned || !(swapsFound e.toList).isEmpty).toNat
      ∧ ((s.warned || !(swapsFound e.toList).isEmpty) = true
        ↔ swapsFound (s.emitter.trace ++ e.toList) ≠ []) := by
  rw [swapsFound_append]
  rcases EmitterAllows.swaps_cases hallows with hnil | hswap
  · rw [hnil, List.append_nil, List.isEmpty_nil, Bool.not_true, Bool.or_false]
    exact ⟨h.first, h.warned⟩
  · rw [hswap, List.count_append, h.first]
    have hne : swapsFound s.emitter.trace ++ [s.warned] ≠ [] :=
      List.append_ne_nil_of_right_ne_nil _ (List.cons_ne_nil _ _)
    refine ⟨?_, iff_of_true (Bool.or_true _) hne⟩
    rcases s.warned with _ | _
    · rfl
    · rfl

theorem InOrder.reasons_append (h : s.InOrder) (hallows : ∀ e' ∈ e, s.EmitterAllows e') :
    ∀ reason ∈ reasonsFound (s.emitter.trace ++ e.toList), reason = none ∨ reason = s.reason := by
  intro reason hmem
  rw [reasonsFound_append] at hmem
  rcases List.mem_append.mp hmem with hmem | hmem
  · exact h.reasons reason hmem
  rcases e with _ | ⟨_ | _ | _ | _ | _ | _, ans⟩
  case inr.some.fatalReason =>
    obtain rfl := List.mem_singleton.mp hmem
    obtain ⟨hans, -⟩ := hallows _ rfl
    exact .inr (FatalResult.current.inj hans)
  all_goals exact absurd hmem List.not_mem_nil

theorem InOrder.emit (h : s.InOrder) {emitter : EmitThread}
    (hstep : Thread.Step emitLoop s.emitter e emitter) (hallows : ∀ e' ∈ e, s.EmitterAllows e') :
    ({ s with
        emitter
        tx := { s.tx with sent := s.tx.sent ++ framesQueued e.toList }
        warned := s.warned || !(swapsFound e.toList).isEmpty } : Outbound).InOrder where
  emitter := h.emitter.step hstep
  found := hstep.trace_eq ▸ h.found_append hallows
  tx := by
    refine ⟨h.tx.rule, h.tx.order.trans (List.prefix_append ..), fun hend ↦ ?_⟩
    exact absurd ((h.tx.finished hend).1.symm.trans h.senders) Bool.false_ne_true
  senders := h.senders
  sent := by
    rw [hstep.trace_eq, framesQueued_append]
    exact congrArg (· ++ _) h.sent
  tried := hstep.trace_eq ▸ h.tried_append hallows
  closed hdropped := h.closed_append hallows (hstep.trace_eq ▸ hdropped)
  first := hstep.trace_eq ▸ (h.swaps_append hallows).1
  warned := hstep.trace_eq ▸ (h.swaps_append hallows).2
  reasons := hstep.trace_eq ▸ h.reasons_append hallows

end Emit

theorem Reachable.inOrder (h : s.Reachable) : s.InOrder := by
  induction h with
  | refl => exact inOrder_initial
  | tail _ hstep ih =>
    obtain ⟨hstep, hallows⟩ | ⟨hstep, hqueue⟩ | heffect := hstep
    · exact ih.emit hstep hallows
    · exact ih.work hstep hqueue
    · exact ih.record heffect

/-- **No frame is lost, repeated or overtaken.** At every point of every run the frames that the
interface emitted are the written ones, the one that the worker holds, the queue, what was dropped
and the one in hand. Only once the worker has failed are frames dropped. The first of them brings
the one warning there is, with the reason of the threads that failed or with none. -/
theorem outbound_inOrder (h : s.Reachable) :
    (∃ held hand : Option (List UInt8), framesEmitted s.emitter.trace
        = completed s.tx.worker.trace ++ held.toList ++ s.inQueue
          ++ framesDropped s.emitter.trace ++ hand.toList)
      ∧ (framesDropped s.emitter.trace ≠ [] → ∃ e, s.tx.worker.Ended (.error e))
      ∧ ¬s.tx.worker.Ended (.ok ())
      ∧ (warningsGiven s.emitter.trace).length ≤ 1
      ∧ (∀ text ∈ warningsGiven s.emitter.trace,
        text = closedTunnelWarning none ∨ text = closedTunnelWarning s.reason)
      ∧ (s.emitter.left = emitLoop () →
        (framesDropped s.emitter.trace ≠ [] ↔ (warningsGiven s.emitter.trace).length = 1)) := by
  have hs := h.inOrder
  obtain ⟨hand, swaps, looks, warning, howes⟩ := exists_owes hs.emitter hs.found
  have hlength := congrArg List.length howes.warnings
  rw [List.length_map, List.length_append] at hlength
  have hlooks := howes.looks
  rw [hs.first] at hlooks
  refine ⟨?_, fun hdropped ↦ ?_, hs.not_ended_ok, ?_, fun text htext ↦ ?_, fun hhead ↦ ?_⟩
  · obtain ⟨held, hheld⟩ := exists_inHand hs.tx.rule
    refine ⟨held, hand, ?_⟩
    rw [howes.frames, hs.tried, ← hs.sent, ← hheld, inQueue]
    rw [List.prefix_iff_eq_append.mp hs.tx.order]
  · obtain ⟨r, hr⟩ := hs.closed hdropped
    rcases r with e | _
    · exact ⟨e, hr⟩
    · exact absurd hr hs.not_ended_ok
  · have hle := Bool.toNat_le s.warned
    omega
  · have hmem : text ∈ (reasonsFound s.emitter.trace).map closedTunnelWarning := by
      rw [howes.warnings]
      exact List.mem_append_left _ htext
    obtain ⟨reason, hreason, rfl⟩ := List.mem_map.mp hmem
    rcases hs.reasons reason hreason with rfl | rfl
    · exact .inl rfl
    · exact .inr rfl
  · have hrest : EmitTrace.Owes s.emitter.trace none 0 0 none := by
      have hholds := hs.emitter
      rw [Rule.Holds, hhead] at hholds
      obtain _ | ⟨hallowed, -⟩ := hholds
      exact hallowed hs.found
    have hgiven := congrArg List.length hrest.warnings
    rw [List.length_map, Option.map_none, Option.toList_none, List.append_nil] at hgiven
    have hlooks := hrest.looks
    have hswaps := hrest.swaps
    rw [Nat.add_zero] at hlooks hswaps
    rw [← hgiven, hlooks, hs.first, ← List.length_pos_iff, ← hswaps, List.length_pos_iff,
      ← hs.warned]
    exact Bool.toNat_eq_one.symm

/-! ## Nothing is stuck -/

theorem dequeued_trace_append (t t' : TxTrace) :
    dequeued (t ++ t') = dequeued t ++ dequeued t' := List.filterMap_append

theorem completed_trace_append (t t' : TxTrace) :
    completed (t ++ t') = completed t ++ completed t' := List.filterMap_append

/-- The clock stands still over two parts of a run if it does over each. -/
theorem now_of_mem_append {now : ℕ} {t t' : TxTrace} (h : ∀ n, ⟨.now, n⟩ ∈ t → n = now)
    (h' : ∀ n, ⟨.now, n⟩ ∈ t' → n = now) (n : ℕ) (hn : ⟨.now, n⟩ ∈ t ++ t') : n = now := by
  rcases List.mem_append.mp hn with hn | hn
  · exact h n hn
  · exact h' n hn

/-- What the worker is answered at its best, without a packet being there for it. -/
def txGood (now : ℕ) : Exchange TxOp TxAns → Prop
  | ⟨.now, n⟩ => n = now
  | ⟨.recvTimeout _, answer⟩ => answer = .timeout
  | ⟨.writeAll _, written⟩ => written = .ok ()
  | ⟨.reopenStream _, opened⟩ => opened = .ok ()

theorem goesRound_txWrite (now : ℕ) (packet : TxPacket) (loop : TxLoop) :
    GoesRound (txGood now) (fun _ ↦ False) (txWrite packet loop) := by
  refine .call (fun _ ↦ .call (.ok ()) rfl .done) fun written ↦ ?_
  rcases written with e | _
  · refine .call (fun _ ↦ .call (.ok ()) rfl (.call (.ok ()) rfl .done)) fun opened ↦ ?_
    rcases opened with e | _
    · exact .done
    · refine .call (fun _ ↦ .call (.ok ()) rfl .done) fun again ↦ ?_
      rcases again with e | _
      · exact .done
      · exact .done
  · exact .done

theorem finishes_txWrite (now : ℕ) (packet : TxPacket) (loop : TxLoop) :
    Finishes (txGood now) (txWrite packet loop) := .call (.ok ()) rfl .done

theorem goesRound_txWorkerLoop (now : ℕ) (loop : TxLoop) :
    GoesRound (txGood now) (fun _ ↦ False) (txWorkerLoop loop) := by
  refine goesRound_perform_bind (fun _ ↦ finishes_perform_bind now rfl ?_) fun n ↦ ?_
  · split_ifs
    · exact finishes_txWrite ..
    · exact finishes_perform_bind .timeout rfl .done
  · split_ifs
    · exact goesRound_txWrite ..
    · refine goesRound_perform_bind (fun _ ↦ finishes_perform_bind .timeout rfl .done)
        fun received ↦ ?_
      rcases received with packet | _ | _
      · exact goesRound_txWrite ..
      · exact .done
      · exact .done

theorem goesRound_txWorkerStart (now : ℕ) :
    GoesRound (txGood now) (fun _ ↦ False) txWorkerStart :=
  .call (fun _ ↦ .call now rfl .done) fun _ ↦ .done

/-- What the device is answered at its best, with the frame filled. -/
def emitGood : Exchange EmitOp EmitAns → Prop
  | ⟨.getSender, set⟩ => set = true
  | ⟨.send _, sent⟩ => sent = true
  | _ => False

/-- The calls that do not bring a frame on its way. -/
def EmitOp.Rests : EmitOp → Prop
  | .getSender | .send _ => False
  | _ => True

theorem goesRound_warnClosedTunnel : GoesRound emitGood EmitOp.Rests warnClosedTunnel := by
  refine .call (fun h ↦ absurd trivial h) fun warned ↦ ?_
  rcases warned with _ | _
  · exact .call (fun h ↦ absurd trivial h) fun _ ↦ .call (fun h ↦ absurd trivial h) fun _ ↦ .done
  · exact .done

theorem goesRound_handleSendError (err : EcError) :
    GoesRound emitGood EmitOp.Rests (handleSendError err) := by
  rw [handleSendError]
  split_ifs
  · exact goesRound_warnClosedTunnel
  · exact .call (fun h ↦ absurd trivial h) fun _ ↦ .done

theorem goesRound_emitLoop : GoesRound emitGood EmitOp.Rests (emitLoop ()) := by
  refine .call (fun h ↦ absurd trivial h) fun frame ↦ ?_
  refine .call (fun _ ↦ .call true rfl (.call true rfl .done)) fun set ↦ ?_
  rcases set with _ | _
  · exact goesRound_handleSendError _
  refine .call (fun _ ↦ .call true rfl .done) fun sent ↦ ?_
  rcases sent with _ | _
  · exact goesRound_handleSendError _
  · exact .done

theorem Reachable.goesRound (h : s.Reachable) (now : ℕ) :
    GoesRound emitGood EmitOp.Rests s.emitter.left
      ∧ GoesRound (txGood now) (fun _ ↦ False) s.tx.worker.left := by
  induction h with
  | refl => exact ⟨goesRound_emitLoop, goesRound_txWorkerStart now⟩
  | tail _ hstep ih =>
    obtain ⟨hstep, -⟩ | ⟨hstep, -⟩ | - := hstep
    · exact ⟨ih.1.step (fun _ ↦ goesRound_emitLoop) hstep, ih.2⟩
    · exact ⟨ih.1, ih.2.step (goesRound_txWorkerLoop now) hstep⟩
    · exact ih

section Runs

variable {emitter : EmitThread} {sent : List (List UInt8)} {worker : TxThread} {warned : Bool}
  {reason : Option String}

/-- A run of the device on its own, as long as the worker takes what it sends. -/
theorem emit_run {p : Emit (Unit ⊕ Empty)} {t trace : EmitTrace} {x : Unit ⊕ Empty}
    (hrun : Runs p t x) (ht : ∀ e ∈ t, emitGood e) (halive : ∀ r, ¬worker.Ended r) :
    Relation.ReflTransGen Step ⟨⟨trace, p⟩, ⟨sent, true, worker⟩, warned, reason⟩
      ⟨⟨trace ++ t, .done x⟩, ⟨sent ++ framesQueued t, true, worker⟩, warned, reason⟩ := by
  induction hrun generalizing trace sent with
  | done =>
    rw [List.append_nil]
    have hnil : framesQueued [] = [] := rfl
    rw [hnil, List.append_nil]
  | @call op next t x ans _ ih =>
    obtain ⟨hgood, ht⟩ := List.forall_mem_cons.mp ht
    have hstep := Step.emit (s := ⟨⟨trace, .call op next⟩, ⟨sent, true, worker⟩, warned, reason⟩)
      (.call ans) (by
        rintro e ⟨⟩
        cases op with
        | getSender => exact hgood
        | send => exact iff_of_true hgood halive
        | _ => exact hgood.elim)
    have hswaps : swapsFound [⟨op, ans⟩] = [] := by
      cases op with
      | swapWarned => exact hgood.elim
      | _ => rfl
    have hrest : Relation.ReflTransGen Step
        ⟨⟨trace ++ [⟨op, ans⟩], next ans⟩, ⟨sent ++ framesQueued [⟨op, ans⟩], true, worker⟩, warned,
          reason⟩
        ⟨⟨trace ++ [⟨op, ans⟩] ++ t, .done x⟩,
          ⟨sent ++ framesQueued [⟨op, ans⟩] ++ framesQueued t, true, worker⟩, warned, reason⟩ :=
      ih ht
    rw [List.append_assoc, List.append_assoc, ← framesQueued_append] at hrest
    rw [Option.toList_some, hswaps, List.isEmpty_nil, Bool.not_true, Bool.or_false] at hstep
    exact hrest.head hstep

/-- The queue can give the answers of a run, each at its time. -/
inductive Answered (sent : List (List UInt8)) : TxTrace → TxTrace → Prop
  | nil {trace : TxTrace} : Answered sent trace []
  | cons {trace t : TxTrace} {e : Exchange TxOp TxAns}
      (h : ∀ p, QueueAllows ⟨sent, true, ⟨trace, p⟩⟩ e) (ht : Answered sent (trace ++ [e]) t) :
      Answered sent trace (e :: t)

theorem answered_of_good {now : ℕ} {t trace : TxTrace} (ht : ∀ e ∈ t, txGood now e) :
    Answered sent trace t := by
  induction t generalizing trace with
  | nil => exact .nil
  | cons e t ih =>
    obtain ⟨hgood, ht⟩ := List.forall_mem_cons.mp ht
    refine .cons (fun p ↦ ?_) (ih ht)
    obtain ⟨_ | _ | _ | _, ans⟩ := e
    case recvTimeout =>
      obtain rfl : ans = .timeout := hgood
      trivial
    all_goals trivial

/-- A run of the worker on its own. -/
theorem work_run {p : Program TxOp TxAns (TxLoop ⊕ Except EcError Unit)} {t trace : TxTrace}
    {x : TxLoop ⊕ Except EcError Unit} (hrun : Runs p t x) (ht : Answered sent trace t) :
    Relation.ReflTransGen Step ⟨emitter, ⟨sent, true, ⟨trace, p⟩⟩, warned, reason⟩
      ⟨emitter, ⟨sent, true, ⟨trace ++ t, .done x⟩⟩, warned, reason⟩ := by
  induction hrun generalizing trace with
  | done => rw [List.append_nil]
  | @call op next t x ans _ ih =>
    obtain _ | ⟨hfirst, ht⟩ := ht
    have hstep := Step.work (s := ⟨emitter, ⟨sent, true, ⟨trace, .call op next⟩⟩, warned, reason⟩)
      (.call ans) (by
        rintro e ⟨⟩
        exact hfirst _)
    have hrest : Relation.ReflTransGen Step
        ⟨emitter, ⟨sent, true, ⟨trace ++ [⟨op, ans⟩], next ans⟩⟩, warned, reason⟩
        ⟨emitter, ⟨sent, true, ⟨trace ++ [⟨op, ans⟩] ++ t, .done x⟩⟩, warned, reason⟩ := ih ht
    rw [List.append_assoc] at hrest
    exact hrest.head hstep

theorem again_run {trace : TxTrace} (loop : TxLoop) :
    Relation.ReflTransGen Step ⟨emitter, ⟨sent, true, ⟨trace, .done (.inl loop)⟩⟩, warned, reason⟩
      ⟨emitter, ⟨sent, true, ⟨trace, txWorkerLoop loop⟩⟩, warned, reason⟩ :=
  .single (.work .again nofun)

/-- With a heartbeat written if one is due, there is time left until the next. -/
theorem exists_early_run {trace : TxTrace} (now : ℕ) (loop : TxLoop) :
    ∃ t loop', Relation.ReflTransGen Step
        ⟨emitter, ⟨sent, true, ⟨trace, .done (.inl loop)⟩⟩, warned, reason⟩
        ⟨emitter, ⟨sent, true, ⟨trace ++ t, .done (.inl loop')⟩⟩, warned, reason⟩
      ∧ now < loop'.nextHeartbeat ∧ dequeued t = [] ∧ completed t = []
      ∧ ∀ n, ⟨.now, n⟩ ∈ t → n = now := by
  by_cases hdue : loop.nextHeartbeat ≤ now
  · have hrun : Runs (txWorkerLoop loop) [⟨.now, now⟩, ⟨.writeAll .heartbeat, .ok ()⟩]
        (.inl ⟨0, now + txHeartbeatInterval⟩) := by
      refine runs_perform_bind ?_
      rw [if_pos hdue]
      exact .call _ .done
    refine ⟨_, _, (again_run loop).trans (work_run hrun ?_), ?_, rfl, rfl, ?_⟩
    · exact .cons (fun _ ↦ trivial) (.cons (fun _ ↦ trivial) .nil)
    · exact Nat.lt_add_of_pos_right (by decide)
    · intro n hn
      obtain ⟨⟨⟩⟩ | hn := List.mem_cons.mp hn
      · rfl
      · exact nomatch List.mem_singleton.mp hn
  · exact ⟨[], loop, by rw [List.append_nil], not_le.mp hdue, rfl, rfl, nofun⟩

/-- The worker takes a packet out and writes it, with a heartbeat before it if one is due. -/
theorem exists_take_run {trace : TxTrace} {packet : List UInt8}
    (hpacket : dequeued trace ++ [packet] <+: sent) (now : ℕ) (loop : TxLoop) :
    ∃ t loop', Relation.ReflTransGen Step
        ⟨emitter, ⟨sent, true, ⟨trace, .done (.inl loop)⟩⟩, warned, reason⟩
        ⟨emitter, ⟨sent, true, ⟨trace ++ t, .done (.inl loop')⟩⟩, warned, reason⟩
      ∧ dequeued t = [packet] ∧ completed t = [packet] ∧ ∀ n, ⟨.now, n⟩ ∈ t → n = now := by
  obtain ⟨t, loop', hearly, hdue, hdequeued, hcompleted, hnow⟩ :=
    @exists_early_run emitter sent warned reason trace now loop
  have hrun : Runs (txWorkerLoop loop') [⟨.now, now⟩,
      ⟨.recvTimeout (loop'.nextHeartbeat - now), .message packet⟩,
      ⟨.writeAll (.queued packet), .ok ()⟩] (.inl { loop' with retries := 0 }) := by
    refine runs_perform_bind ?_
    rw [if_neg (not_le.mpr hdue)]
    exact .call _ (.call _ .done)
  have hanswered : Answered sent (trace ++ t) [⟨.now, now⟩,
      ⟨.recvTimeout (loop'.nextHeartbeat - now), .message packet⟩,
      ⟨.writeAll (.queued packet), .ok ()⟩] := by
    refine .cons (fun _ ↦ trivial) (.cons (fun _ ↦ ?_) (.cons (fun _ ↦ trivial) .nil))
    have htaken : dequeued (trace ++ t ++ [⟨.now, now⟩]) = dequeued trace := by
      rw [dequeued_append, dequeued_trace_append, hdequeued, List.append_nil]
      exact List.append_nil _
    change dequeued (trace ++ t ++ [⟨.now, now⟩]) ++ [packet] <+: sent
    rwa [htaken]
  have hpass := hearly.trans ((again_run loop').trans (work_run hrun hanswered))
  rw [List.append_assoc] at hpass
  refine ⟨_, _, hpass, ?_, ?_, now_of_mem_append hnow fun n hn ↦ ?_⟩
  · rw [dequeued_trace_append, hdequeued]
    rfl
  · rw [completed_trace_append, hcompleted]
    rfl
  · obtain ⟨⟨⟩⟩ | hn := List.mem_cons.mp hn
    · rfl
    · simp at hn

/-- The worker writes the whole queue, from where it starts over. -/
theorem exists_emptied {trace : TxTrace} {queue : List (List UInt8)}
    (hsent : sent = dequeued trace ++ queue) (hwritten : dequeued trace = completed trace) (now : ℕ)
    (loop : TxLoop) :
    ∃ t loop', Relation.ReflTransGen Step
        ⟨emitter, ⟨sent, true, ⟨trace, .done (.inl loop)⟩⟩, warned, reason⟩
        ⟨emitter, ⟨sent, true, ⟨trace ++ t, .done (.inl loop')⟩⟩, warned, reason⟩
      ∧ completed (trace ++ t) = sent ∧ ∀ n, ⟨.now, n⟩ ∈ t → n = now := by
  induction queue generalizing trace loop with
  | nil =>
    rw [List.append_nil] at hsent
    refine ⟨[], loop, ?_, ?_, nofun⟩
    · rw [List.append_nil]
    · rw [List.append_nil, hsent, hwritten]
  | cons packet queue ih =>
    have hpacket : dequeued trace ++ [packet] <+: sent := ⟨queue, by simp [hsent]⟩
    obtain ⟨t, loop', hrun, hdequeued, hcompleted, hnow⟩ :=
      @exists_take_run emitter sent warned reason trace packet hpacket now loop
    have hsent' : sent = dequeued (trace ++ t) ++ queue := by
      rw [dequeued_trace_append, hdequeued, hsent, List.append_assoc, List.singleton_append]
    have hwritten' : dequeued (trace ++ t) = completed (trace ++ t) := by
      rw [dequeued_trace_append, completed_trace_append, hdequeued, hcompleted, hwritten]
    obtain ⟨t', loop'', hrun', hall, hnow'⟩ := ih hsent' hwritten' loop'
    rw [List.append_assoc] at hrun' hall
    exact ⟨t ++ t', loop'', hrun.trans hrun', hall, now_of_mem_append hnow hnow'⟩

end Runs

/-- As long as nothing has been dropped, nothing is owed for it. -/
theorem owes_nothing {t : EmitTrace} {hand : Option (List UInt8)} {swaps looks : ℕ}
    {warning : Option (Option String)} (h : t.Owes hand swaps looks warning)
    (hnone : framesDropped t = []) : swaps = 0 ∧ looks = 0 ∧ warning = none := by
  have hswaps := h.swaps
  rw [hnone, List.length_nil] at hswaps
  have hfound : swapsFound t = [] := List.length_eq_zero_iff.mp (by omega)
  have hlooks := h.looks
  rw [hfound, List.count_nil] at hlooks
  have hreasons : reasonsFound t = [] := List.length_eq_zero_iff.mp (by omega)
  have hwarnings := h.warnings
  rw [hreasons, List.map_nil] at hwarnings
  refine ⟨by omega, by omega, ?_⟩
  have hnil := (List.append_eq_nil_iff.mp hwarnings.symm).2
  rwa [Option.toList_eq_nil_iff, Option.map_eq_none_iff] at hnil

/-- With nothing in hand, everything has been queued. -/
theorem InOrder.emitted_eq_sent (h : s.InOrder) (halive : ∀ r, ¬s.tx.worker.Ended r)
    (howes : EmitTrace.Owes s.emitter.trace none 0 0 none) :
    framesEmitted s.emitter.trace = s.tx.sent := by
  rw [howes.frames, h.tried, h.dropped_eq_nil halive, h.sent, List.append_nil]
  exact List.append_nil _

theorem framesEmitted_of_good {t : EmitTrace} (ht : ∀ e ∈ t, emitGood e) :
    framesEmitted t = [] := by
  refine List.filterMap_eq_nil_iff.mpr fun e he ↦ ?_
  have hgood := ht e he
  obtain ⟨_ | _ | _ | _ | _ | _, ans⟩ := e
  case frame => exact hgood.elim
  all_goals rfl

/-- As long as the worker has not ended, the device can bring its frame on its way. -/
theorem Reachable.exists_handed (h : s.Reachable) (halive : ∀ r, ¬s.tx.worker.Ended r) :
    ∃ s', Relation.ReflTransGen Step s s' ∧ s'.tx.worker = s.tx.worker
      ∧ framesEmitted s'.emitter.trace = framesEmitted s.emitter.trace
      ∧ framesEmitted s.emitter.trace = s'.tx.sent := by
  have hs := h.inOrder
  rcases (h.goesRound 0).1.rests_or_finishes fun r ↦ r.elim with
    ⟨op, next, hrest, hleft⟩ | ⟨t, _, hrun, ht⟩
  · have hallowed : emitAllowed s.emitter.trace op := by
      have hholds := hs.emitter
      rw [Rule.Holds, hleft] at hholds
      obtain _ | ⟨hallowed, -⟩ := hholds
      exact hallowed hs.found
    have hnone := hs.dropped_eq_nil halive
    refine ⟨s, .refl, rfl, rfl, hs.emitted_eq_sent halive ?_⟩
    cases op with
    | frame => exact hallowed
    | getSender | send => exact hrest.elim
    | swapWarned => exact absurd (owes_nothing hallowed hnone).1 Nat.one_ne_zero
    | fatalReason => exact absurd (owes_nothing hallowed hnone).2.1 Nat.one_ne_zero
    | warn =>
      obtain ⟨reason, -, howes⟩ := hallowed
      exact absurd (owes_nothing howes hnone).2.2 (Option.some_ne_none _)
  · have hsenders := hs.senders
    obtain ⟨⟨trace, left⟩, ⟨sent, senders, worker⟩, warned, reason⟩ := s
    obtain rfl : senders = true := hsenders
    have hrun' := @emit_run sent worker warned reason _ t trace _ hrun ht halive
    have hframes : framesEmitted (trace ++ t) = framesEmitted trace := by
      rw [framesEmitted_append, framesEmitted_of_good ht, List.append_nil]
    refine ⟨_, hrun', rfl, hframes, ?_⟩
    have hs' := Reachable.inOrder (h.trans hrun')
    obtain ⟨hhead⟩ := hs'.emitter
    exact hframes.symm.trans (hs'.emitted_eq_sent halive (hhead hs'.found))

/-- **Nothing is stuck on its way.** As long as the worker has not failed, what the interface has
emitted can be written to the end, with the clock standing still. -/
theorem outbound_drains (h : s.Reachable) (halive : ∀ r, ¬s.tx.worker.Ended r) (now : ℕ) :
    ∃ s' t, Relation.ReflTransGen Step s s' ∧ s'.tx.worker.trace = s.tx.worker.trace ++ t
      ∧ (∀ n, ⟨.now, n⟩ ∈ t → n = now)
      ∧ framesEmitted s'.emitter.trace = framesEmitted s.emitter.trace
      ∧ completed s'.tx.worker.trace = framesEmitted s.emitter.trace := by
  obtain ⟨s₁, hrun₁, hworker, hframes, hsent⟩ := h.exists_handed halive
  have hs₁ : s₁.Reachable := h.trans hrun₁
  have hsenders := hs₁.inOrder.senders
  obtain ⟨emitter, ⟨sent, senders, ⟨trace, left⟩⟩, warned, reason⟩ := s₁
  obtain rfl : senders = true := hsenders
  obtain rfl : sent = framesEmitted s.emitter.trace := hsent.symm
  rw [← hworker] at halive ⊢
  rcases (hs₁.goesRound now).2.rests_or_finishes halive with ⟨-, -, hrest, -⟩ | hfinishes
  · exact hrest.elim
  -- first the worker finishes what it is at
  obtain ⟨t, loop, hpass, ht⟩ := hfinishes
  have hrun₂ := @work_run emitter (framesEmitted s.emitter.trace) warned reason _ t trace _ hpass
    (answered_of_good ht)
  have hs₂ := Reachable.inOrder (hs₁.trans hrun₂)
  obtain ⟨hwritten⟩ := hs₂.tx.rule
  obtain ⟨queue, hqueue⟩ := hs₂.tx.order
  obtain ⟨t', loop', hrun₃, hall, hnow⟩ :=
    @exists_emptied emitter _ warned reason (trace ++ t) queue hqueue.symm hwritten now loop
  rw [List.append_assoc] at hrun₃ hall
  refine ⟨_, t ++ t', hrun₁.trans (hrun₂.trans hrun₃), rfl, ?_, hframes, hall⟩
  exact now_of_mem_append (fun n hn ↦ ht _ hn) hnow

/-! ## A frame that is emitted -/

theorem Reachable.emitCall {trace : EmitTrace} {p : Emit (Unit ⊕ Empty)} {op : EmitOp}
    {next : EmitAns op → Emit (Unit ⊕ Empty)} {tx : TxSystem} {warned : Bool}
    {reason : Option String} (h : Reachable ⟨⟨trace, p⟩, tx, warned, reason⟩)
    (hp : p = .call op next) (ans : EmitAns op)
    (hallows : EmitterAllows ⟨⟨trace, p⟩, tx, warned, reason⟩ ⟨op, ans⟩) :
    Reachable ⟨⟨trace ++ [⟨op, ans⟩], next ans⟩,
      { tx with sent := tx.sent ++ framesQueued [⟨op, ans⟩] },
      warned || !(swapsFound [⟨op, ans⟩]).isEmpty, reason⟩ := by
  subst hp
  have hstep := Step.emit (s := ⟨⟨trace, .call op next⟩, tx, warned, reason⟩) (.call ans) (by
    rintro e ⟨⟩
    exact hallows)
  exact h.tail hstep

theorem exists_failed : ∃ worker : TxThread, (∃ e, worker.Ended (.error e))
    ∧ Reachable ⟨⟨[], emitLoop ()⟩, ⟨[], true, worker⟩, false, none⟩ := by
  have hstart : Runs txWorkerStart [⟨.now, 0⟩] (.inl ⟨0, txHeartbeatInterval⟩) :=
    .call _ (by rw [← Nat.zero_add txHeartbeatInterval]; exact .done)
  have hpass : Runs (txWorkerLoop ⟨0, txHeartbeatInterval⟩) [⟨.now, txHeartbeatInterval⟩,
      ⟨.writeAll .heartbeat, .error "broken pipe"⟩, ⟨.reopenStream 1, .error (.runtime "refused")⟩]
      (.inr (.error (.runtime "refused"))) := by
    refine runs_perform_bind ?_
    rw [if_pos le_rfl]
    exact .call _ (.call _ .done)
  have hanswered : ∀ trace, Answered [] trace [⟨.now, txHeartbeatInterval⟩,
      ⟨.writeAll .heartbeat, .error "broken pipe"⟩,
      ⟨.reopenStream 1, .error (.runtime "refused")⟩] := fun _ ↦
    .cons (fun _ ↦ trivial) (.cons (fun _ ↦ trivial) (.cons (fun _ ↦ trivial) .nil))
  obtain ⟨t, hrun⟩ : ∃ t, Reachable ⟨⟨[], emitLoop ()⟩,
      ⟨[], true, ⟨t, .done (.inr (.error (.runtime "refused")))⟩⟩, false, none⟩ :=
    ⟨_, (work_run hstart (.cons (fun _ ↦ trivial) .nil)).trans
      ((again_run _).trans (work_run hpass (hanswered _)))⟩
  exact ⟨⟨t, .done (.inr (.error (.runtime "refused")))⟩, ⟨_, rfl⟩, hrun⟩

/-- The worker has failed, and a frame is dropped with a warning. -/
theorem outbound_inOrder_dropped : ∃ s : Outbound, s.Reachable
    ∧ framesDropped s.emitter.trace = [[0x45]]
    ∧ warningsGiven s.emitter.trace = ["dropping outbound packet; tunnel channel is closed"]
    ∧ ∃ e, s.tx.worker.Ended (.error e) := by
  obtain ⟨worker, ⟨e, hend⟩, hfailed⟩ := exists_failed
  have hframe := hfailed.emitCall rfl [0x45] trivial
  have hsender := hframe.emitCall rfl true rfl
  have hsend : ∃ t tx, framesDropped t = [[0x45]] ∧ warningsGiven t = [] ∧ tx.worker = worker
      ∧ Reachable ⟨⟨t, handleSendError closedErr⟩, tx, false, none⟩ :=
    ⟨_, _, rfl, rfl, rfl, hsender.emitCall rfl false
      (iff_of_false Bool.false_ne_true fun halive ↦ halive _ hend)⟩
  obtain ⟨t, tx, hdropped, hwarnings, rfl, hsend⟩ := hsend
  rw [handleSendError, if_pos closedErr_contains] at hsend
  have hswap := hsend.emitCall rfl false rfl
  have hreason := hswap.emitCall rfl none ⟨rfl, rfl⟩
  have hwarn := hreason.emitCall rfl () trivial
  refine ⟨_, hwarn, ?_, ?_, ?_⟩
  · rw [framesDropped_append, framesDropped_append, framesDropped_append, hdropped]
    rfl
  · rw [warningsGiven_append, warningsGiven_append, warningsGiven_append, hwarnings]
    rfl
  · refine (outbound_inOrder hwarn).2.1 ?_
    rw [framesDropped_append, framesDropped_append, framesDropped_append, hdropped]
    exact nofun

theorem outbound_drains_one : ∃ s s' : Outbound, s.Reachable
    ∧ framesEmitted s.emitter.trace = [[0x45]] ∧ Relation.ReflTransGen Step s s'
    ∧ completed s'.tx.worker.trace = [[0x45]] := by
  have hstart : Reachable initial := .refl
  have hframe := hstart.emitCall rfl [0x45] trivial
  obtain ⟨s', -, hrun, -, -, -, hwritten⟩ := outbound_drains hframe (fun _ ↦ nofun) 0
  exact ⟨_, s', hframe, rfl, hrun, hwritten⟩

end Outbound

end ShiepPipeline
