import ShiepPipeline.Socks.Session

/-!
# A tunnelled connection and its end

The tunnel branch of `execute_route` opens a connection, replies to the client, and starts the two
threads of `relay_tunnel`. The netstack takes the open request from its control channel at some
point, enters the connection in its table, and only then puts its id into the reply channel; by that
time the client's thread may have given up waiting.

`close_sent_iff` says when a connection that was entered in the table is also closed: on every way
out through the two threads, and on no way out before them.
-/

open Net Program Thread
open Program.Fallible

namespace ShiepPipeline.Socks

/-! ## The tunnel branch -/

/-- The tunnel branch, up to the point where `relay_tunnel` starts its threads. -/
def startTunnel (dialTarget targetDisplay routePath : String) : Session UInt64 := do
  let id ← openTunnel dialTarget targetDisplay routePath
  onRoute targetDisplay routePath
    (attempt (perform SocksOp.cloneClient) fun e ↦ .runtime s!"clone client stream failed: {e}")
  return id

/-- One pass of the thread of `relay_tunnel` that reads from the client. -/
def relayFromClient (id : UInt64) : Program SocksOp SocksAns (UInt64 ⊕ Unit) := do
  match ← perform SocksOp.readClient with
  | .ok bytes =>
    if bytes.1 = [] then
      let _ ← perform (SocksOp.sendControl (.close id))
      return .inr ()
    else if ← perform (SocksOp.sendControl (.send id bytes.1)) then return .inl id
    else return .inr ()
  | .error _ =>
    let _ ← perform (SocksOp.sendControl (.close id))
    return .inr ()

/-- One pass of the thread of `relay_tunnel` that writes to the client. -/
def relayToClient (_ : Unit) : Program SocksOp SocksAns (Unit ⊕ Unit) := do
  match ← perform SocksOp.recvTunnel with
  | some chunk =>
    if chunk = [] then return .inl ()
    else
      match ← perform (SocksOp.writeAll chunk) with
      | .ok _ => return .inl ()
      | .error _ =>
        let _ ← perform SocksOp.shutdownWrite
        return .inr ()
  | none =>
    let _ ← perform SocksOp.shutdownWrite
    return .inr ()

/-! ## The session and the netstack -/

/-- What has become of the request to open the connection. -/
inductive OpenRequest
  | unsent
  | queued
  /-- The result is known, and a connection that was opened is in the netstack's table. -/
  | handled (result : Except EcError UInt64)
  | replied (result : Except EcError UInt64)

namespace OpenRequest

/-- The id under which the netstack has entered the connection. -/
def registered : OpenRequest → Option UInt64
  | .handled (.ok id) => some id
  | .replied (.ok id) => some id
  | _ => none

/-- The content of the reply channel. -/
def replies : OpenRequest → List (Except EcError UInt64)
  | .replied result => [result]
  | _ => []

end OpenRequest

/-- The thread that serves the client, before there is anything to relay. -/
abbrev MainThread := Thread SocksOp SocksAns Empty (Except EcError UInt64)

structure TunnelSession where
  request : OpenRequest
  netstackGone : Bool
  main : MainThread
  relay : Option (Thread SocksOp SocksAns UInt64 Unit × Thread SocksOp SocksAns Unit Unit)

/-- What the netstack's channels answer, and what a call does to the open request. Every other call
is answered in any way. -/
def ChannelStep (request : OpenRequest) (gone : Bool) :
    Option (Exchange SocksOp SocksAns) → OpenRequest → Prop
  | some ⟨.sendControl (.openTcp _), sent⟩, request' =>
    sent = !gone ∧ request' = if sent then .queued else request
  | some ⟨.sendControl _, sent⟩, request' => sent = !gone ∧ request' = request
  | some ⟨.awaitReply, answer⟩, request' =>
    Recv.Possible request.replies [] (!gone) answer ∧ request' = request
  | _, request' => request' = request

/-- The session makes a step, or the netstack does. -/
inductive TunnelSession.Step : TunnelSession → TunnelSession → Prop
  | main {s : TunnelSession} {e : Option (Exchange SocksOp SocksAns)} {main : MainThread}
      {request : OpenRequest} (hstep : Thread.Step Empty.elim s.main e main)
      (hchannel : ChannelStep s.request s.netstackGone e request) :
      Step s { s with main, request }
  | start {s : TunnelSession} {id : UInt64} (hmain : s.main.Ended (.ok id))
      (hrelay : s.relay = none) :
      Step s { s with relay := some (⟨[], relayFromClient id⟩, ⟨[], relayToClient ()⟩) }
  | fromClient {s : TunnelSession} {e : Option (Exchange SocksOp SocksAns)}
      {up up' : Thread SocksOp SocksAns UInt64 Unit} {down : Thread SocksOp SocksAns Unit Unit}
      {request : OpenRequest} (hrelay : s.relay = some (up, down))
      (hstep : Thread.Step relayFromClient up e up')
      (hchannel : ChannelStep s.request s.netstackGone e request) :
      Step s { s with relay := some (up', down), request }
  | toClient {s : TunnelSession} {e : Option (Exchange SocksOp SocksAns)}
      {up : Thread SocksOp SocksAns UInt64 Unit} {down down' : Thread SocksOp SocksAns Unit Unit}
      {request : OpenRequest} (hrelay : s.relay = some (up, down))
      (hstep : Thread.Step relayToClient down e down')
      (hchannel : ChannelStep s.request s.netstackGone e request) :
      Step s { s with relay := some (up, down'), request }
  | handle {s : TunnelSession} (result : Except EcError UInt64) (hrequest : s.request = .queued)
      (halive : s.netstackGone = false) : Step s { s with request := .handled result }
  | reply {s : TunnelSession} {result : Except EcError UInt64}
      (hrequest : s.request = .handled result) (halive : s.netstackGone = false) :
      Step s { s with request := .replied result }
  | leave {s : TunnelSession} : Step s { s with netstackGone := true }

/-- The thread at the beginning of the tunnel branch. -/
def MainThread.start (dialTarget targetDisplay routePath : String) : MainThread where
  trace := []
  left := do return .inr (← (startTunnel dialTarget targetDisplay routePath).run)

/-- The states of a session, from the beginning of the tunnel branch. -/
def TunnelSession.Reachable (dialTarget targetDisplay routePath : String) (s : TunnelSession) :
    Prop :=
  Relation.ReflTransGen TunnelSession.Step
    ⟨.unsent, false, .start dialTarget targetDisplay routePath, none⟩ s

namespace TunnelSession

variable (s : TunnelSession)

/-- The branch has returned: with an error before the threads, or after both of them. -/
def Ended : Prop :=
  (∃ err, s.main.Ended (.error err))
    ∨ ∃ id up down, s.main.Ended (.ok id) ∧ s.relay = some (up, down) ∧ up.Ended () ∧ down.Ended ()

/-- All calls of the session. -/
def trace : SessionTrace :=
  s.main.trace ++ s.relay.elim [] fun threads ↦ threads.1.trace ++ threads.2.trace

end TunnelSession

/-- The ways out between the open request and the threads: waiting is given up, the reply cannot be
written, or the client's stream cannot be cloned. -/
def abandons : Exchange SocksOp SocksAns → Bool
  | ⟨.awaitReply, .timeout⟩ => true
  | ⟨.writeAll _, .error _⟩ => true
  | ⟨.cloneClient, .error _⟩ => true
  | _ => false

/-! ## The main thread -/

/-- Open requests come before the wait for a reply. -/
def MainAllowed (t : SessionTrace) (op : SocksOp) : Prop :=
  ∀ addr, op = .sendControl (.openTcp addr) → ∀ answer, ⟨.awaitReply, answer⟩ ∉ t

/-- The main thread has got the connection, and goes on to the threads. -/
structure Keeps (id : UInt64) (t : SessionTrace) : Prop where
  opened : ⟨.awaitReply, .message (.ok id)⟩ ∈ t
  abandons : ∀ e ∈ t, abandons e = false

/-- The main thread leaves with an error: it abandons the request, or has not made it, or the
netstack is gone or has refused it. -/
structure Leaves (t : SessionTrace) : Prop where
  close : ∀ id sent, ⟨.sendControl (.close id), sent⟩ ∉ t
  reason : (∃ e ∈ t, Socks.abandons e = true) ∨ (∀ message, ⟨.sendControl message, true⟩ ∉ t)
    ∨ ⟨.awaitReply, .disconnected⟩ ∈ t ∨ ∃ err, ⟨.awaitReply, .message (.error err)⟩ ∈ t

/-- The calls of `open_tcp_connection`. -/
def openCalls (target : String) (addrs : List SocketAddr) (addr : SocketAddrV4)
    (answer : Recv (Except EcError UInt64)) : SessionTrace :=
  [⟨.controlTx, true⟩, ⟨.toSocketAddrs target, .ok addrs⟩, ⟨.sendControl (.openTcp addr), true⟩,
    ⟨.awaitReply, answer⟩]

theorem mainAllowed_of_ne {t : SessionTrace} {op : SocksOp}
    (h : ∀ addr, op ≠ .sendControl (.openTcp addr)) : MainAllowed t op :=
  fun addr heq ↦ absurd heq (h addr)

/-- Before the open request is sent, every error leaves. -/
theorem leaves_of_unasked {t : SessionTrace}
    (h : ∀ message sent, ⟨.sendControl message, sent⟩ ∉ t) : Leaves t :=
  ⟨fun _ _ ↦ h _ _, .inr (.inl fun _ ↦ h _ _)⟩

theorem leaves_of_abandons {t : SessionTrace} {op : SocksOp} {ans : SocksAns op}
    (hclose : ∀ id sent, ⟨.sendControl (.close id), sent⟩ ∉ t)
    (h : abandons ⟨op, ans⟩ = true) : Leaves (log t op ans) := by
  have hmem : ⟨op, ans⟩ ∈ log t op ans := List.mem_append_right _ (List.mem_singleton_self _)
  refine ⟨fun id sent hin ↦ ?_, .inl ⟨_, hmem, h⟩⟩
  rcases List.mem_append.mp hin with hin | hin
  · exact hclose id sent hin
  · rw [← List.mem_singleton.mp hin] at h
    exact nomatch h

theorem resolveIpv4Target_calls (target : String) :
    Meets MainAllowed log
      (fun _ t ↦ ∃ addrs, t = [⟨.controlTx, true⟩, ⟨.toSocketAddrs target, .ok addrs⟩]) Leaves
      [⟨.controlTx, true⟩] (resolveIpv4Target target) := by
  have hresolve : Meets MainAllowed log
      (fun addrs t ↦ t = [⟨.controlTx, true⟩, ⟨.toSocketAddrs target, .ok addrs⟩]) Leaves
      [⟨.controlTx, true⟩] (attempt (perform (SocksOp.toSocketAddrs target)) fun e ↦
        EcError.runtime s!"resolve target failed: {target}: {e}") := by
    refine meets_attempt (.call (mainAllowed_of_ne fun _ h ↦ (nomatch h)) fun ans ↦ .done ?_)
    cases ans with
    | ok addrs => rfl
    | error e => exact leaves_of_unasked (by simp [log])
  refine hresolve.bind fun addrs t ht ↦ ?_
  subst ht
  cases firstV4 addrs with
  | some addr => exact meets_pure ⟨addrs, rfl⟩
  | none => exact meets_throw (leaves_of_unasked (by simp))

theorem awaitOpenReply_calls (target label : String) (addrs : List SocketAddr)
    (addr : SocketAddrV4) :
    Meets MainAllowed log (fun id t ↦ t = openCalls target addrs addr (.message (.ok id))) Leaves
      [⟨.controlTx, true⟩, ⟨.toSocketAddrs target, .ok addrs⟩, ⟨.sendControl (.openTcp addr), true⟩]
      (awaitOpenReply label) := by
  refine .call (mainAllowed_of_ne fun _ h ↦ (nomatch h)) fun answer ↦ ?_
  rcases answer with (err | id) | _ | _
  · exact meets_throw ⟨by simp [log], .inr (.inr (.inr ⟨err, by simp [log]⟩))⟩
  · exact meets_pure rfl
  · exact meets_throw (leaves_of_abandons (by simp) rfl)
  · exact meets_throw ⟨by simp [log], .inr (.inr (.inl (by simp [log])))⟩

theorem openTcpConnection_calls (target : String) :
    Meets MainAllowed log
      (fun id t ↦ ∃ addrs addr, t = openCalls target addrs addr (.message (.ok id))) Leaves []
      (openTcpConnection target) := by
  have hcontrol : Meets MainAllowed log (fun _ t ↦ t = [⟨.controlTx, true⟩]) Leaves []
      controlSender := by
    refine .call (mainAllowed_of_ne fun _ h ↦ (nomatch h)) fun started ↦ ?_
    cases started with
    | true => exact meets_pure rfl
    | false => exact meets_throw (leaves_of_unasked (by simp [log]))
  refine hcontrol.bind fun _ t ht ↦ ?_
  subst ht
  refine (resolveIpv4Target_calls target).bind fun addr t ht ↦ ?_
  obtain ⟨addrs, rfl⟩ := ht
  have hsend : Meets MainAllowed log (fun _ t ↦ t = [⟨.controlTx, true⟩,
        ⟨.toSocketAddrs target, .ok addrs⟩, ⟨.sendControl (.openTcp addr), true⟩]) Leaves
      [⟨.controlTx, true⟩, ⟨.toSocketAddrs target, .ok addrs⟩]
      (sendControl (.openTcp addr) "send open connection request failed") := by
    refine .call (by simp [MainAllowed]) fun sent ↦ ?_
    cases sent with
    | true => exact meets_pure rfl
    | false => exact meets_throw ⟨by simp [log], .inr (.inl (by simp [log]))⟩
  refine hsend.bind fun _ t ht ↦ ?_
  subst ht
  exact (awaitOpenReply_calls target _ addrs addr).mono fun id t h ↦ ⟨addrs, addr, h⟩

/-- What has been done once the client has its reply. -/
def RepliedCalls (id : UInt64) (t : SessionTrace) : Prop :=
  ∃ target addrs addr, t = openCalls target addrs addr (.message (.ok id))
    ++ [⟨.writeAll (replyBytes socksRepSucceeded), .ok ()⟩]

theorem openTunnel_calls (dialTarget targetDisplay routePath : String) :
    Meets MainAllowed log RepliedCalls Leaves []
      (openTunnel dialTarget targetDisplay routePath) := by
  refine ((openTcpConnection_calls dialTarget).adapt _).bind fun id t ht ↦ ?_
  obtain ⟨addrs, addr, rfl⟩ := ht
  have hreply : Meets MainAllowed log (fun _ ↦ RepliedCalls id) Leaves
      (openCalls dialTarget addrs addr (.message (.ok id))) (writeReply socksRepSucceeded) := by
    refine meets_attempt (.call (mainAllowed_of_ne fun _ h ↦ (nomatch h)) fun ans ↦ .done ?_)
    cases ans with
    | ok _ => exact ⟨dialTarget, addrs, addr, rfl⟩
    | error e => exact leaves_of_abandons (by simp [openCalls]) rfl
  exact (hreply.adapt _).bind fun _ t ht ↦ meets_pure ht

/-- The main thread keeps the connection or leaves. -/
theorem startTunnel_calls (dialTarget targetDisplay routePath : String) :
    Meets MainAllowed log Keeps Leaves [] (startTunnel dialTarget targetDisplay routePath) := by
  refine (openTunnel_calls dialTarget targetDisplay routePath).bind fun id t ht ↦ ?_
  obtain ⟨target, addrs, addr, rfl⟩ := ht
  have hclone : Meets MainAllowed log (fun _ ↦ Keeps id) Leaves
      (openCalls target addrs addr (.message (.ok id))
        ++ [⟨.writeAll (replyBytes socksRepSucceeded), .ok ()⟩])
      (attempt (perform SocksOp.cloneClient) fun e ↦
        EcError.runtime s!"clone client stream failed: {e}") := by
    refine meets_attempt (.call (mainAllowed_of_ne fun _ h ↦ (nomatch h)) fun ans ↦ .done ?_)
    cases ans with
    | ok _ => exact ⟨by simp [log, openCalls], by simp [log, openCalls, abandons]⟩
    | error e => exact leaves_of_abandons (by simp [openCalls]) rfl
  exact (hclone.adapt _).bind fun _ t ht ↦ meets_pure ht

/-- The rule of the main thread, which has no loop. -/
def mainRule : Rule (Empty.elim : Empty → Program SocksOp SocksAns (Empty ⊕ Except EcError UInt64))
    where
  allowed := MainAllowed
  head := fun x ↦ x.elim
  post := outcome Keeps Leaves
  obeys := fun x ↦ x.elim

theorem mainRule_start (dialTarget targetDisplay routePath : String) :
    mainRule.Holds (MainThread.start dialTarget targetDisplay routePath) :=
  Obeys.bind (startTunnel_calls dialTarget targetDisplay routePath) fun _ _ h ↦ obeys_pure h

/-! ## The threads of the relay -/

/-- Neither thread asks for another connection. -/
def NotOpen (op : SocksOp) : Prop := ∀ addr, op ≠ .sendControl (.openTcp addr)

/-- The thread that reads from the client has sent a close, or found the netstack gone. -/
def ClosedBy (id : UInt64) (t : SessionTrace) : Prop :=
  ⟨.sendControl (.close id), true⟩ ∈ t ∨ ∃ message, ⟨.sendControl message, false⟩ ∈ t

theorem closedBy_log_close (id : UInt64) (t : SessionTrace) (sent : Bool) :
    ClosedBy id (log t (.sendControl (.close id)) sent) := by
  have hmem : ⟨.sendControl (.close id), sent⟩ ∈ log t (.sendControl (.close id)) sent :=
    List.mem_append_right _ (List.mem_singleton_self _)
  cases sent with
  | true => exact .inl hmem
  | false => exact .inr ⟨_, hmem⟩

def relayFromClientRule (id : UInt64) : Rule relayFromClient where
  allowed := fun _ ↦ NotOpen
  head := fun id' _ ↦ id' = id
  post := fun _ ↦ ClosedBy id
  obeys := by
    rintro id t rfl
    refine .call (fun _ h ↦ (nomatch h)) fun ans ↦ ?_
    cases ans with
    | error e =>
      exact .call (fun _ h ↦ (nomatch h)) fun sent ↦ obeys_pure (closedBy_log_close id _ sent)
    | ok bytes =>
      by_cases hbytes : bytes.1 = []
      · simp only [Program.bind, if_pos hbytes]
        exact .call (fun _ h ↦ (nomatch h)) fun sent ↦ obeys_pure (closedBy_log_close id _ sent)
      · simp only [Program.bind, if_neg hbytes]
        refine .call (fun _ h ↦ (nomatch h)) fun sent ↦ ?_
        cases sent with
        | true => exact obeys_pure rfl
        | false =>
          exact obeys_pure (.inr ⟨_, List.mem_append_right _ (List.mem_singleton_self _)⟩)

def relayToClientRule : Rule relayToClient where
  allowed := fun _ ↦ NotOpen
  head := fun _ _ ↦ True
  post := fun _ _ ↦ True
  obeys := by
    intro _ t _
    refine .call (fun _ h ↦ (nomatch h)) fun chunk ↦ ?_
    cases chunk with
    | none => exact .call (fun _ h ↦ (nomatch h)) fun _ ↦ obeys_pure trivial
    | some chunk =>
      by_cases hchunk : chunk = []
      · simp only [Program.bind, if_pos hchunk]
        exact obeys_pure trivial
      · simp only [Program.bind, if_neg hchunk]
        refine .call (fun _ h ↦ (nomatch h)) fun written ↦ ?_
        cases written with
        | ok _ => exact obeys_pure trivial
        | error e => exact .call (fun _ h ↦ (nomatch h)) fun _ ↦ obeys_pure trivial

/-! ## The channels -/

section Channels

variable {request request' : OpenRequest} {gone : Bool}

/-- Only an open request that goes into the channel changes what has become of it. -/
theorem ChannelStep.request_eq {op : SocksOp} {ans : SocksAns op}
    (h : ChannelStep request gone (some ⟨op, ans⟩) request') :
    request' = request ∨ ∃ addr, op = .sendControl (.openTcp addr)
      ∧ (⟨op, ans⟩ : Exchange SocksOp SocksAns) = ⟨.sendControl (.openTcp addr), true⟩ := by
  cases op with
  | sendControl message =>
    cases message with
    | openTcp addr =>
      obtain ⟨rfl, h⟩ := h
      cases gone with
      | true => exact .inl h
      | false => exact .inr ⟨addr, rfl, rfl⟩
    | _ => exact .inl h.2
  | awaitReply => exact .inl h.2
  | _ => exact .inl h

theorem ChannelStep.gone_of_unsent {message : ControlMessage}
    (h : ChannelStep request gone (some ⟨.sendControl message, false⟩) request') :
    gone = true := by
  have hsent : false = !gone := by cases message <;> exact h.1
  simpa using hsent

theorem ChannelStep.gone_of_disconnected
    (h : ChannelStep request gone (some ⟨.awaitReply, .disconnected⟩) request') :
    gone = true := by
  simpa using h.1.1

theorem ChannelStep.replied_of_message {result : Except EcError UInt64}
    (h : ChannelStep request gone (some ⟨.awaitReply, .message result⟩) request') :
    request' = .replied result := by
  obtain ⟨hpossible, rfl⟩ := h
  have hmem : result ∈ request'.replies := List.IsPrefix.subset hpossible (by simp)
  cases request' with
  | replied result' => rw [List.mem_singleton.mp hmem]
  | _ => exact nomatch hmem

/-- A thread that does not ask for a connection leaves the request alone. -/
theorem ChannelStep.eq_of_rule {σ ρ : Type} {body : σ → Program SocksOp SocksAns (σ ⊕ ρ)}
    {R : Rule body} (hR : ∀ t op, R.allowed t op → NotOpen op)
    {e : Option (Exchange SocksOp SocksAns)} {th th' : Thread SocksOp SocksAns σ ρ}
    (hth : R.Holds th) (hstep : Thread.Step body th e th')
    (h : ChannelStep request gone e request') : request' = request := by
  cases hstep with
  | again => exact h
  | call ans =>
    obtain heq | ⟨addr, hop, -⟩ := h.request_eq
    · exact heq
    · exact absurd hop (hR _ _ hth.allowed addr)

end Channels

/-! ## The invariant -/

/-- What the threads have seen of the netstack is still true of it. -/
structure TunnelSession.Inv (s : TunnelSession) : Prop where
  main : mainRule.Holds s.main
  asked : s.request ≠ .unsent → ∃ message, ⟨.sendControl message, true⟩ ∈ s.main.trace
  answered : ∀ result, ⟨.awaitReply, .message result⟩ ∈ s.main.trace
    → s.request = .replied result
  disconnected : ⟨.awaitReply, .disconnected⟩ ∈ s.main.trace → s.netstackGone = true
  relay : ∀ up down, s.relay = some (up, down) → ∃ id, s.main.Ended (.ok id)
    ∧ (relayFromClientRule id).Holds up ∧ relayToClientRule.Holds down
    ∧ ((∃ message, ⟨.sendControl message, false⟩ ∈ up.trace) → s.netstackGone = true)

namespace TunnelSession.Inv

variable {s : TunnelSession}

theorem step_main (h : s.Inv) {e : Option (Exchange SocksOp SocksAns)} {main : MainThread}
    {request : OpenRequest} (hstep : Thread.Step Empty.elim s.main e main)
    (hchannel : ChannelStep s.request s.netstackGone e request) :
    Inv { s with main, request } := by
  obtain ⟨request₀, gone, main₀, relay⟩ := s
  cases hstep with
  | @again t x => exact x.elim
  | @call t op next ans =>
    have hold : ∀ {e : Exchange SocksOp SocksAns}, e ∈ t → e ∈ t ++ [⟨op, ans⟩] :=
      List.mem_append_left _
    refine ⟨h.main.step (.call ans), fun hsent ↦ ?_, fun result hin ↦ ?_, fun hin ↦ ?_,
      fun up down hrelay ↦ ?_⟩
    · obtain rfl | ⟨addr, -, hopen⟩ := hchannel.request_eq
      · obtain ⟨message, hmessage⟩ := h.asked hsent
        exact ⟨message, hold hmessage⟩
      · exact ⟨.openTcp addr, List.mem_append_right _ (List.mem_singleton.mpr hopen.symm)⟩
    · rcases List.mem_append.mp hin with hbefore | hnow
      · obtain rfl | ⟨addr, hop, -⟩ := hchannel.request_eq
        · exact h.answered result hbefore
        · exact absurd hbefore (h.main.allowed addr hop _)
      · cases List.mem_singleton.mp hnow
        exact hchannel.replied_of_message
    · rcases List.mem_append.mp hin with hbefore | hnow
      · exact h.disconnected hbefore
      · cases List.mem_singleton.mp hnow
        exact hchannel.gone_of_disconnected
    · obtain ⟨id, hended, -⟩ := h.relay up down hrelay
      exact nomatch hended

theorem step_fromClient (h : s.Inv) {e : Option (Exchange SocksOp SocksAns)}
    {up up' : Thread SocksOp SocksAns UInt64 Unit} {down : Thread SocksOp SocksAns Unit Unit}
    {request : OpenRequest} (hrelay : s.relay = some (up, down))
    (hstep : Thread.Step relayFromClient up e up')
    (hchannel : ChannelStep s.request s.netstackGone e request) :
    Inv { s with relay := some (up', down), request } := by
  obtain ⟨id, hended, hup, hdown, hgone⟩ := h.relay up down hrelay
  obtain rfl : request = s.request := hchannel.eq_of_rule (fun _ _ h ↦ h) hup hstep
  refine ⟨h.main, h.asked, h.answered, h.disconnected, ?_⟩
  rintro up₁ down₁ ⟨⟩
  refine ⟨id, hended, hup.step hstep, hdown, ?_⟩
  rintro ⟨message, hin⟩
  rw [hstep.trace_eq] at hin
  rcases List.mem_append.mp hin with hbefore | hnow
  · exact hgone ⟨message, hbefore⟩
  · obtain rfl := Option.mem_toList.mp hnow
    exact hchannel.gone_of_unsent

theorem step_toClient (h : s.Inv) {e : Option (Exchange SocksOp SocksAns)}
    {up : Thread SocksOp SocksAns UInt64 Unit} {down down' : Thread SocksOp SocksAns Unit Unit}
    {request : OpenRequest} (hrelay : s.relay = some (up, down))
    (hstep : Thread.Step relayToClient down e down')
    (hchannel : ChannelStep s.request s.netstackGone e request) :
    Inv { s with relay := some (up, down'), request } := by
  obtain ⟨id, hended, hup, hdown, hgone⟩ := h.relay up down hrelay
  obtain rfl : request = s.request := hchannel.eq_of_rule (fun _ _ h ↦ h) hdown hstep
  refine ⟨h.main, h.asked, h.answered, h.disconnected, ?_⟩
  rintro up₁ down₁ ⟨⟩
  exact ⟨id, hended, hup, hdown.step hstep, hgone⟩

/-- The netstack goes on with a request it has not replied to. -/
theorem step_request (h : s.Inv) (hsent : s.request ≠ .unsent)
    (hreplied : ∀ result, s.request ≠ .replied result) (request : OpenRequest) :
    Inv { s with request } :=
  ⟨h.main, fun _ ↦ h.asked hsent, fun result hin ↦ absurd (h.answered result hin) (hreplied result),
    h.disconnected, h.relay⟩

/-- **Each step keeps the invariant.** -/
theorem step {s' : TunnelSession} (h : s.Inv) (hstep : Step s s') : s'.Inv := by
  cases hstep with
  | main hstep hchannel => exact h.step_main hstep hchannel
  | @start id hmain hrelay =>
    refine ⟨h.main, h.asked, h.answered, h.disconnected, ?_⟩
    rintro up down ⟨⟩
    exact ⟨id, hmain, (relayFromClientRule id).obeys id [] rfl,
      relayToClientRule.obeys () [] trivial, fun ⟨_, hin⟩ ↦ (nomatch hin)⟩
  | fromClient hrelay hstep hchannel => exact h.step_fromClient hrelay hstep hchannel
  | toClient hrelay hstep hchannel => exact h.step_toClient hrelay hstep hchannel
  | handle result hrequest halive =>
    refine h.step_request ?_ ?_ _ <;> (rw [hrequest]; exact nofun)
  | reply hrequest halive =>
    refine h.step_request ?_ ?_ _ <;> (rw [hrequest]; exact nofun)
  | leave =>
    refine ⟨h.main, h.asked, h.answered, fun _ ↦ rfl, fun up down hrelay ↦ ?_⟩
    obtain ⟨id, hended, hup, hdown, -⟩ := h.relay up down hrelay
    exact ⟨id, hended, hup, hdown, fun _ ↦ rfl⟩

end TunnelSession.Inv

/-! ## Closing -/

/-- The invariant holds in every state of every session. -/
theorem TunnelSession.Reachable.inv {dialTarget targetDisplay routePath : String}
    {s : TunnelSession} (h : Reachable dialTarget targetDisplay routePath s) : s.Inv := by
  induction h with
  | refl =>
    exact ⟨mainRule_start _ _ _, fun h ↦ absurd rfl h, fun _ hin ↦ (nomatch hin),
      fun hin ↦ (nomatch hin), fun _ _ hrelay ↦ (nomatch hrelay)⟩
  | tail _ hstep ih => exact ih.step hstep

/-- A thread ends in one way. -/
theorem MainThread.ended_unique {main : MainThread} {r r' : Except EcError UInt64}
    (h : main.Ended r) (h' : main.Ended r') : r = r' := by
  rw [Thread.Ended, h] at h'
  cases h'
  rfl

/-- A session that leaves with an error has not closed the connection, and has abandoned it if there
is one. -/
theorem TunnelSession.Inv.not_closed {s : TunnelSession} (h : s.Inv) {err : EcError}
    (hend : s.main.Ended (.error err)) {id : UInt64} (hid : s.request.registered = some id)
    (halive : s.netstackGone = false) :
    ⟨.sendControl (.close id), true⟩ ∉ s.trace ∧ ∃ e ∈ s.main.trace, abandons e = true := by
  have hleaves : Leaves s.main.trace := h.main.post hend
  constructor
  · cases hrelay : s.relay with
    | none =>
      rw [TunnelSession.trace, hrelay, Option.elim_none, List.append_nil]
      exact hleaves.close id true
    | some threads =>
      obtain ⟨id', hok, -⟩ := h.relay _ _ hrelay
      exact nomatch MainThread.ended_unique hend hok
  · obtain habandons | hunasked | hgone | ⟨refusal, hrefused⟩ := hleaves.reason
    · exact habandons
    · obtain ⟨message, hmessage⟩ := h.asked fun hunsent ↦ by
        rw [hunsent] at hid
        exact nomatch hid
      exact absurd hmessage (hunasked message)
    · rw [h.disconnected hgone] at halive
      exact nomatch halive
    · rw [h.answered _ hrefused] at hid
      exact nomatch hid

/-- A session that has run both threads has closed the connection. -/
theorem TunnelSession.Inv.closed {s : TunnelSession} (h : s.Inv) {id' : UInt64}
    {up : Thread SocksOp SocksAns UInt64 Unit} {down : Thread SocksOp SocksAns Unit Unit}
    (hend : s.main.Ended (.ok id')) (hrelay : s.relay = some (up, down)) (hup : up.Ended ())
    {id : UInt64} (hid : s.request.registered = some id) (halive : s.netstackGone = false) :
    ⟨.sendControl (.close id), true⟩ ∈ s.trace := by
  have hkeeps : Keeps id' s.main.trace := h.main.post hend
  rw [h.answered _ hkeeps.opened] at hid
  obtain rfl : id' = id := Option.some.inj hid
  obtain ⟨id', hok, hrule, -, hgone⟩ := h.relay up down hrelay
  cases MainThread.ended_unique hend hok
  obtain hclose | hunsent := hrule.post hup
  · rw [TunnelSession.trace, hrelay]
    exact List.mem_append_right _ (List.mem_append_left _ hclose)
  · rw [hgone hunsent] at halive
    exact nomatch halive

/-- **A connection that the netstack has entered in its table is closed by the end of the session
exactly if the session does not leave between the open request and its threads**, unless the
netstack is gone. -/
theorem close_sent_iff {dialTarget targetDisplay routePath : String} {s : TunnelSession}
    (h : TunnelSession.Reachable dialTarget targetDisplay routePath s) (hend : s.Ended)
    {id : UInt64} (hid : s.request.registered = some id) (halive : s.netstackGone = false) :
    ⟨.sendControl (.close id), true⟩ ∈ s.trace ↔ ∀ e ∈ s.main.trace, abandons e = false := by
  obtain ⟨err, hmain⟩ | ⟨id', up, down, hmain, hrelay, hup, -⟩ := hend
  · obtain ⟨hclose, e, he, habandons⟩ := h.inv.not_closed hmain hid halive
    refine iff_of_false hclose fun hall ↦ ?_
    rw [hall e he] at habandons
    exact nomatch habandons
  · have hkeeps : Keeps id' s.main.trace := h.inv.main.post hmain
    exact iff_of_true (h.inv.closed hmain hrelay hup hid halive) hkeeps.abandons

/-- The main thread makes a call. -/
theorem TunnelSession.Reachable.call {dialTarget targetDisplay routePath : String}
    {request request' : OpenRequest} {main : MainThread}
    {relay : Option (Thread SocksOp SocksAns UInt64 Unit × Thread SocksOp SocksAns Unit Unit)}
    (h : Reachable dialTarget targetDisplay routePath ⟨request, false, main, relay⟩) (op : SocksOp)
    {next : SocksAns op → Program SocksOp SocksAns (Empty ⊕ Except EcError UInt64)}
    (hmain : main.left = .call op next) (ans : SocksAns op)
    (hchannel : ChannelStep request false (some ⟨op, ans⟩) request') :
    Reachable dialTarget targetDisplay routePath
      ⟨request', false, ⟨main.trace ++ [⟨op, ans⟩], next ans⟩, relay⟩ := by
  obtain ⟨t, left⟩ := main
  obtain rfl : left = .call op next := hmain
  exact Relation.ReflTransGen.tail h (.main (.call ans) hchannel)

/-- A client that closes its side at once, and a tunnel that does the same. -/
theorem close_sent_iff_eof :
    ∃ s, TunnelSession.Reachable "10.0.0.1:80" "10.0.0.1:80" "remote" s ∧ s.Ended
      ∧ s.request.registered = some 1 ∧ ⟨.sendControl (.close 1), true⟩ ∈ s.trace := by
  have h₀ : TunnelSession.Reachable "10.0.0.1:80" "10.0.0.1:80" "remote"
      ⟨.unsent, false, .start "10.0.0.1:80" "10.0.0.1:80" "remote", none⟩ := .refl
  have h₁ := h₀.call .controlTx rfl true rfl
  have h₂ := h₁.call (.toSocketAddrs "10.0.0.1:80") rfl (.ok [.v4 ⟨⟨10, 0, 0, 1⟩, 80⟩]) rfl
  have h₃ := h₂.call (.sendControl (.openTcp ⟨⟨10, 0, 0, 1⟩, 80⟩)) rfl true ⟨rfl, rfl⟩
  have h₄ := (h₃.tail (.handle (.ok 1) rfl rfl)).tail (.reply rfl rfl)
  have h₅ := TunnelSession.Reachable.call h₄ .awaitReply rfl (.message (.ok 1))
    ⟨List.prefix_refl _, rfl⟩
  have h₆ := h₅.call (.writeAll (replyBytes socksRepSucceeded)) rfl (.ok ()) rfl
  have h₇ := h₆.call .cloneClient rfl (.ok ()) rfl
  have h₈ := h₇.tail (.start rfl rfl)
  have h₉ := h₈.tail (.fromClient rfl (.call (.ok ⟨[], by decide⟩ : SocksAns .readClient)) rfl)
  have h₁₀ := h₉.tail
    (.fromClient rfl (.call (true : SocksAns (.sendControl (.close 1)))) ⟨rfl, rfl⟩)
  have h₁₁ := h₁₀.tail (.toClient rfl (.call (none : SocksAns .recvTunnel)) rfl)
  have h₁₂ := h₁₁.tail (.toClient rfl (.call (.ok () : SocksAns .shutdownWrite)) rfl)
  have hclosed := (close_sent_iff h₁₂ (.inr ⟨1, _, _, rfl, rfl, rfl, rfl⟩) rfl rfl).mpr
  refine ⟨_, h₁₂, .inr ⟨1, _, _, rfl, rfl, rfl, rfl⟩, rfl, hclosed ?_⟩
  change ∀ e ∈ openCalls "10.0.0.1:80" [.v4 ⟨⟨10, 0, 0, 1⟩, 80⟩] ⟨⟨10, 0, 0, 1⟩, 80⟩
    (.message (.ok 1)) ++ [⟨.writeAll (replyBytes socksRepSucceeded), .ok ()⟩,
      ⟨.cloneClient, .ok ()⟩], _
  simp [openCalls, abandons]

/-- The client's thread gives up waiting, and then the netstack opens the connection: it stays in
the table, and nobody closes it. -/
theorem late_open_not_closed :
    ∃ s, TunnelSession.Reachable "10.0.0.1:80" "10.0.0.1:80" "remote" s ∧ s.Ended
      ∧ s.request.registered = some 1 ∧ s.netstackGone = false
      ∧ ⟨.sendControl (.close 1), true⟩ ∉ s.trace := by
  have h₀ : TunnelSession.Reachable "10.0.0.1:80" "10.0.0.1:80" "remote"
      ⟨.unsent, false, .start "10.0.0.1:80" "10.0.0.1:80" "remote", none⟩ := .refl
  have h₁ := h₀.call .controlTx rfl true rfl
  have h₂ := h₁.call (.toSocketAddrs "10.0.0.1:80") rfl (.ok [.v4 ⟨⟨10, 0, 0, 1⟩, 80⟩]) rfl
  have h₃ := h₂.call (.sendControl (.openTcp ⟨⟨10, 0, 0, 1⟩, 80⟩)) rfl true ⟨rfl, rfl⟩
  have h₄ := h₃.call .awaitReply rfl .timeout ⟨trivial, rfl⟩
  have h₅ := h₄.tail (.handle (.ok 1) rfl rfl)
  refine ⟨_, h₅, .inl ⟨_, rfl⟩, rfl, rfl, ?_⟩
  change _ ∉ openCalls "10.0.0.1:80" [.v4 ⟨⟨10, 0, 0, 1⟩, 80⟩] ⟨⟨10, 0, 0, 1⟩, 80⟩ .timeout
  simp [openCalls]

end ShiepPipeline.Socks
