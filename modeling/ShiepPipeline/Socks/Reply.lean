import ShiepPipeline.Socks.Session

/-!
# Replies

Whether a client gets one reply to its request, and what the reply says. An observer follows the
calls of a session: it notes that the request header has come, what is written after it, and whether
an upstream connection or association has been opened.

The functions of the session write the reply in five places and leave through errors in many more.
Each of them gets a triple. Before the reply the observer is in one of two states, `waiting` or
`waitingOpened`; a function goes from one to the other or leaves for good, and `Settled` is what
holds then.

`handleClient_oneReply_iff` comes out of these: the client gets its one reply exactly if no step of
the session fails in one of the ways that `failsSilently` lists.
-/

open Net Program Utf8
open Program.Fallible

namespace ShiepPipeline.Socks

/-! ## The observer -/

/-- The failures that end a session without a reply: a domain that is not UTF-8, and every failure
of the planner, the resolver, the netstack, a connect, or the set-up of the relay socket, except
that a relay socket with an IPv6 address is answered. -/
def failsSilently : Exchange SocksOp SocksAns → Bool
  | ⟨.readExact (.domain _), .ok domain⟩ => (fromUtf8 domain.toList).toOption.isNone
  | ⟨.planTarget _ _ _, .error _⟩ => true
  | ⟨.controlTx, started⟩ => !started
  | ⟨.toSocketAddrs _, .error _⟩ => true
  | ⟨.toSocketAddrs _, .ok addrs⟩ => (firstV4 addrs).isNone
  | ⟨.sendControl _, sent⟩ => !sent
  | ⟨.awaitReply, .message (.ok _)⟩ => false
  | ⟨.awaitReply, _⟩ => true
  | ⟨.connect _, .error _⟩ => true
  | ⟨.connectViaProxy _ _ _, .error _⟩ => true
  | ⟨.controlLocalAddr, .ok (.v4 _)⟩ => false
  | ⟨.controlLocalAddr, _⟩ => true
  | ⟨.bindUdp _, .error _⟩ => true
  | ⟨.udpLocalAddr, .error _⟩ => true
  | ⟨.cloneClient, .error _⟩ => true
  | _ => false

structure Seen where
  /-- A request header with version 5 has been read. -/
  header : Bool
  /-- A read was cut short, or a write failed. -/
  broken : Bool
  /-- What was written after the header. -/
  replies : List (List UInt8)
  /-- The upstream connection or association was opened. -/
  opened : Bool
  /-- Something failed that is not replied to. -/
  silent : Bool

namespace Seen

def start : Seen := ⟨false, false, [], false, false⟩

/-- What a call tells about the request and its reply. -/
def progress (d : Seen) (op : SocksOp) (ans : SocksAns op) : Seen :=
  match op, ans with
  | .readExact .requestHead, .ok req => { d with header := requestVersion req = socksVersion5 }
  | .readExact _, .error _ => { d with broken := true }
  | .writeAll bytes, .ok _ => if d.header then { d with replies := d.replies ++ [bytes] } else d
  | .writeAll _, .error _ => { d with broken := true }
  | .awaitReply, .message (.ok _) => { d with opened := true }
  | .connect _, .ok _ => { d with opened := true }
  | .connectViaProxy _ _ _, .ok _ => { d with opened := true }
  | _, _ => d

def note (d : Seen) (op : SocksOp) (ans : SocksAns op) : Seen :=
  { d.progress op ans with silent := d.silent || failsSilently ⟨op, ans⟩ }

/-- There is one reply, and it reports success exactly if something was opened. -/
def OneReply (d : Seen) : Prop :=
  ∃ rep rest, d.replies = [socksVersion5 :: rep :: rest]
    ∧ (rep = socksRepSucceeded ↔ d.opened = true)

/-- How a session may end. -/
def Settled (d : Seen) : Prop :=
  d.header = true → d.broken = false → (d.OneReply ↔ d.silent = false)

/-- The header has been read, and nothing has been written since. -/
def waiting : Seen := ⟨true, false, [], false, false⟩

def waitingOpened : Seen := { waiting with opened := true }

theorem settled_of_broken {d : Seen} (h : d.broken = true) : d.Settled := by
  intro _ hbroken
  rw [h] at hbroken
  exact nomatch hbroken

theorem settled_of_silent {d : Seen} (h : d.replies = []) (hsilent : d.silent = true) :
    d.Settled := by
  intro _ _
  rw [hsilent]
  refine ⟨fun ⟨rep, rest, heq, _⟩ ↦ ?_, fun hfalse ↦ (nomatch hfalse)⟩
  rw [h] at heq
  exact nomatch heq

theorem settled_of_reply {d : Seen} {rep : UInt8} {rest : List UInt8}
    (h : d.replies = [socksVersion5 :: rep :: rest]) (hsilent : d.silent = false)
    (hrep : rep = socksRepSucceeded ↔ d.opened = true) : d.Settled :=
  fun _ _ ↦ ⟨fun _ ↦ hsilent, fun _ ↦ ⟨rep, rest, h, hrep⟩⟩

/-- The observer remembers every silent failure. -/
theorem silent_observe (d : Seen) (t : SessionTrace) :
    (observe note d t).silent = (d.silent || t.any failsSilently) := by
  induction t generalizing d with
  | nil => exact (Bool.or_false _).symm
  | cons e t ih =>
    change (observe note (d.note e.1 e.2) t).silent = _
    rw [ih, note, List.any_cons, ← Bool.or_assoc]

end Seen

open Seen

/-- A triple for a part of a session. Every call is allowed. -/
abbrev Leads {α : Type} (post : α → Seen → Prop) (fail : Seen → Prop) (d : Seen) (p : Session α) :
    Prop :=
  Meets (fun _ _ ↦ True) note post fail d p

/-! ## Replying -/

/-- A reply to a request that is not carried out. -/
theorem meets_ignore_writeReply {rep : UInt8} (h : rep ≠ socksRepSucceeded) :
    Leads (fun _ ↦ Settled) Settled waiting (ignore (writeReply rep) : Session Unit) := by
  refine Meets.ignore (meets_attempt (.call trivial fun ans ↦ .done ?_))
  cases ans with
  | ok _ => exact settled_of_reply rfl rfl (iff_of_false h Bool.false_ne_true)
  | error e => exact settled_of_broken rfl

/-- A request that is refused with a reply. -/
theorem meets_refuse {α : Type} {rep : UInt8} (h : rep ≠ socksRepSucceeded) (err : EcError) :
    Leads (fun (_ : α) _ ↦ False) Settled waiting
      (do ignore (writeReply rep); throw err : Session α) :=
  (meets_ignore_writeReply h).bind fun _ _ hd ↦ meets_throw hd

/-- The reply to a request that has been carried out. -/
theorem meets_writeConnectOkReply (targetDisplay routePath : String) :
    Leads (fun _ ↦ Settled) Settled waitingOpened
      (writeConnectOkReply targetDisplay routePath) := by
  refine Meets.adapt (meets_attempt (.call trivial fun ans ↦ .done ?_)) _
  cases ans with
  | ok _ => exact settled_of_reply rfl rfl (iff_of_true rfl rfl)
  | error e => exact settled_of_broken rfl

/-! ## The request -/

theorem meets_readExact {what : ClientRead} {d : Seen} {post : Vector UInt8 what.size → Seen → Prop}
    (h : ∀ bytes, post bytes (note d (.readExact what) (.ok bytes))) :
    Leads post Settled d (readExact what) := by
  refine meets_attempt (.call trivial fun ans ↦ .done ?_)
  cases ans with
  | ok bytes => exact h bytes
  | error e => cases what <;> exact settled_of_broken rfl

theorem meets_readExact_id {what : ClientRead} {d : Seen}
    (h : ∀ bytes, note d (.readExact what) (.ok bytes) = d) :
    Leads (fun _ d' ↦ d' = d) Settled d (readExact what) :=
  meets_readExact h

/-- Before the request, nothing that is read or written is noted. -/
theorem meets_negotiateMethod : Leads (fun _ d ↦ d = start) Settled start negotiateMethod := by
  have hwrite : ∀ (bytes : List UInt8) (f : String → EcError),
      Leads (fun _ d ↦ d = start) Settled start
        (attempt (perform (SocksOp.writeAll bytes)) f) := by
    intro bytes f
    refine meets_attempt (.call trivial fun ans ↦ .done ?_)
    cases ans with
    | ok _ => rfl
    | error e => exact settled_of_broken rfl
  have hsettled : start.Settled := fun h ↦ (nomatch h)
  refine (meets_readExact_id fun _ ↦ rfl).bind fun head d hd ↦ ?_
  subst hd
  split
  · exact meets_throw hsettled
  refine (meets_readExact_id fun _ ↦ rfl).bind fun methods d hd ↦ ?_
  subst hd
  split
  · exact hwrite _ _
  · refine (hwrite _ _).bind fun _ d hd ↦ ?_
    subst hd
    exact meets_throw hsettled

theorem meets_readRequestHost (atyp : UInt8) :
    Leads (fun _ d ↦ d = waiting) Settled waiting (readRequestHost atyp) := by
  rw [readRequestHost]
  split
  · exact (meets_readExact_id fun _ ↦ rfl).bind
      fun _ _ hd ↦ meets_pure hd
  split
  · refine (meets_readExact_id fun _ ↦ rfl).bind fun len d hd ↦ ?_
    subst hd
    have hdomain : Leads (fun domain d ↦
        d = { waiting with silent := (fromUtf8 domain.toList).toOption.isNone }) Settled waiting
        (readExact (.domain len[0].toNat)) := meets_readExact fun _ ↦ rfl
    refine hdomain.bind fun domain d hd ↦ ?_
    cases h : fromUtf8 domain.toList with
    | ok host =>
      rw [h] at hd
      exact meets_pure hd
    | error e =>
      rw [h] at hd
      subst hd
      exact meets_throw (settled_of_silent rfl rfl)
  split
  · exact (meets_readExact_id fun _ ↦ rfl).bind
      fun _ _ hd ↦ meets_pure hd
  · exact (meets_refuse (by decide) _).mono fun _ _ h ↦ h.elim

theorem meets_readRequestTarget (atyp : UInt8) :
    Leads (fun _ d ↦ d = waiting) Settled waiting (readRequestTarget atyp) := by
  refine (meets_readRequestHost atyp).bind fun host d hd ↦ ?_
  subst hd
  exact (meets_readExact_id fun _ ↦ rfl).bind fun _ _ hd ↦ meets_pure hd

theorem meets_readSocksRequest :
    Leads (fun _ d ↦ d = waiting) Settled start readSocksRequest := by
  have hhead : Leads
      (fun req d ↦ d = { start with header := requestVersion req = socksVersion5 }) Settled start
      (readExact .requestHead) := @meets_readExact .requestHead _ _ fun _ ↦ rfl
  refine hhead.bind fun req d hd ↦ ?_
  subst hd
  split
  · next hversion =>
    refine meets_throw fun hheader ↦ absurd (of_decide_eq_true hheader) hversion
  · next hversion =>
    have hwaiting : { start with header := requestVersion req = socksVersion5 } = waiting := by
      rw [decide_eq_true (not_not.mp hversion)]
      rfl
    rw [hwaiting]
    dsimp only
    split
    · exact (meets_refuse (by decide) _).mono fun _ _ h ↦ h.elim
    split
    · exact (meets_refuse (by decide) _).mono fun _ _ h ↦ h.elim
    · exact (meets_readRequestTarget _).bind fun _ _ hd ↦ meets_pure hd

/-! ## The netstack -/

theorem meets_controlSender : Leads (fun _ d ↦ d = waiting) Settled waiting controlSender :=
  .call trivial fun started ↦ by
    cases started with
    | true => exact meets_pure rfl
    | false => exact meets_throw (settled_of_silent rfl rfl)

theorem meets_sendControl (message : ControlMessage) (label : String) :
    Leads (fun _ d ↦ d = waiting) Settled waiting (sendControl message label) :=
  .call trivial fun sent ↦ by
    cases sent with
    | true => exact meets_pure rfl
    | false => exact meets_throw (settled_of_silent rfl rfl)

theorem meets_awaitOpenReply (label : String) :
    Leads (fun _ d ↦ d = waitingOpened) Settled waiting (awaitOpenReply label) :=
  .call trivial fun reply ↦ by
    rcases reply with (e | id) | _ | _
    · exact meets_throw (settled_of_silent rfl rfl)
    · exact meets_pure rfl
    · exact meets_throw (settled_of_silent rfl rfl)
    · exact meets_throw (settled_of_silent rfl rfl)

theorem meets_resolveIpv4Target (target : String) :
    Leads (fun _ d ↦ d = waiting) Settled waiting (resolveIpv4Target target) := by
  have hresolve : Leads (fun addrs d ↦ d = { waiting with silent := (firstV4 addrs).isNone })
      Settled waiting (attempt (perform (SocksOp.toSocketAddrs target)) fun e ↦
        EcError.runtime s!"resolve target failed: {target}: {e}") := by
    refine meets_attempt (.call trivial fun ans ↦ .done ?_)
    cases ans with
    | ok addrs => rfl
    | error e => exact settled_of_silent rfl rfl
  refine hresolve.bind fun addrs d hd ↦ ?_
  cases h : firstV4 addrs with
  | some addr =>
    rw [h] at hd
    exact meets_pure hd
  | none =>
    rw [h] at hd
    subst hd
    exact meets_throw (settled_of_silent rfl rfl)

theorem meets_openTcpConnection (target : String) :
    Leads (fun _ d ↦ d = waitingOpened) Settled waiting (openTcpConnection target) := by
  refine meets_controlSender.bind fun _ d hd ↦ ?_
  subst hd
  refine (meets_resolveIpv4Target target).bind fun addr d hd ↦ ?_
  subst hd
  refine (meets_sendControl _ _).bind fun _ d hd ↦ ?_
  subst hd
  exact meets_awaitOpenReply _

theorem meets_openUdpAssociation :
    Leads (fun _ d ↦ d = waitingOpened) Settled waiting openUdpAssociation := by
  refine meets_controlSender.bind fun _ d hd ↦ ?_
  subst hd
  refine (meets_sendControl _ _).bind fun _ d hd ↦ ?_
  subst hd
  exact meets_awaitOpenReply _

/-! ## Carrying out a request -/

/-- The reply to an association, which is closed again if the reply cannot be written. -/
theorem meets_writeBoundReply (id : UInt64) (relayAddr : SocketAddrV4) :
    Leads (fun _ ↦ Settled) Settled waitingOpened
      (tryCatch (writeBoundReply socksRepSucceeded relayAddr) fun err ↦ do
        ignore (sendControl (.closeUdp id) "send udp close request failed")
        throw err) := by
  have hreply : Leads (fun _ ↦ Settled) (fun d ↦ d.broken = true) waitingOpened
      (writeBoundReply socksRepSucceeded relayAddr) := by
    refine meets_attempt (.call trivial fun ans ↦ .done ?_)
    cases ans with
    | ok _ => exact settled_of_reply rfl rfl (iff_of_true rfl rfl)
    | error e => rfl
  refine hreply.tryCatch fun err d hd ↦ ?_
  have hclose : Leads (fun _ d ↦ d.broken = true) (fun d ↦ d.broken = true) d
      (sendControl (.closeUdp id) "send udp close request failed") :=
    .call trivial fun sent ↦ by
      cases sent with
      | true => exact meets_pure hd
      | false => exact meets_throw hd
  exact hclose.ignore.bind fun _ _ hd ↦ meets_throw (settled_of_broken hd)

/-- A planner that fails leaves a route that is refused. -/
theorem meets_decideRoute (target : ConnectTarget) (fallbackProxy : Option FallbackProxy) :
    Leads (fun route d ↦ ((∀ reason, route.transport ≠ .unsupported reason) ∧ d = waiting)
        ∨ (∃ reason, route.transport = .unsupported reason) ∧ d = { waiting with silent := true })
      Settled waiting (decideRoute target fallbackProxy) :=
  .call trivial fun plan ↦ by
    rcases plan with err | ⟨dial, rcId, rcName, source⟩ | ⟨planned, reason⟩
    · exact meets_pure (.inr ⟨⟨_, rfl⟩, rfl⟩)
    · exact meets_pure (.inl ⟨fun _ h ↦ (nomatch h), rfl⟩)
    · cases fallbackProxy <;> exact meets_pure (.inl ⟨fun _ h ↦ (nomatch h), rfl⟩)

theorem meets_openTunnel (dialTarget targetDisplay routePath : String) :
    Leads (fun _ ↦ Settled) Settled waiting (openTunnel dialTarget targetDisplay routePath) :=
      by
  refine ((meets_openTcpConnection dialTarget).adapt _).bind fun id d hd ↦ ?_
  subst hd
  exact (meets_writeConnectOkReply _ _).bind fun _ _ hd ↦ meets_pure hd

theorem meets_executeRoute (targetDisplay : String) (route : RouteDecision)
    (h : ∀ reason, route.transport ≠ .unsupported reason) :
    Leads (fun _ ↦ Settled) Settled waiting (executeRoute targetDisplay route) := by
  have hopened : ∀ {d}, d = waitingOpened → Leads (fun _ ↦ Settled) Settled d
      (do writeConnectOkReply targetDisplay route.path; return .direct : Session Relay) := by
    intro d hd
    subst hd
    exact (meets_writeConnectOkReply _ _).bind fun _ _ hd ↦ meets_pure hd
  rw [executeRoute]
  cases htransport : route.transport with
  | tunnel dialTarget => exact (meets_openTunnel _ _ _).bind fun _ _ hd ↦ meets_pure hd
  | direct dialTarget =>
    refine Meets.bind (meets_attempt (.call trivial fun ans ↦ .done ?_)) fun _ _ hd ↦ hopened hd
    cases ans with
    | ok _ => rfl
    | error e => exact settled_of_silent rfl rfl
  | proxy proxy target =>
    refine Meets.bind (meets_attempt (.call trivial fun ans ↦ .done ?_)) fun _ _ hd ↦ hopened hd
    cases ans with
    | ok _ => rfl
    | error e => exact settled_of_silent rfl rfl
  | unsupported reason => exact absurd htransport (h reason)

theorem meets_handleConnect (target : ConnectTarget) (fallbackProxy : Option FallbackProxy) :
    Leads (fun _ ↦ Settled) Settled waiting (handleConnect target fallbackProxy) := by
  refine (meets_decideRoute target fallbackProxy).bind fun route d hd ↦ ?_
  obtain ⟨hroute, rfl⟩ | ⟨⟨reason, hreason⟩, rfl⟩ := hd
  · exact meets_executeRoute _ _ hroute
  · rw [executeRoute, hreason]
    exact meets_throw (settled_of_silent rfl rfl)

theorem meets_udpRelayBindAddr :
    Leads (fun _ d ↦ d = waiting) Settled waiting udpRelayBindAddr := by
  have haddr : Leads (fun addr d ↦
      d = { waiting with silent := failsSilently ⟨.controlLocalAddr, .ok addr⟩ }) Settled waiting
      (attempt (perform SocksOp.controlLocalAddr) fun e ↦
        EcError.runtime s!"socks control local addr failed: {e}") := by
    refine meets_attempt (.call trivial fun ans ↦ .done ?_)
    cases ans with
    | ok addr => rfl
    | error e => exact settled_of_silent rfl rfl
  refine haddr.bind fun addr d hd ↦ ?_
  subst hd
  cases addr with
  | v4 addr => exact meets_pure rfl
  | v6 addr => exact meets_throw (settled_of_silent rfl rfl)

theorem meets_handleUdpAssociate :
    Leads (fun _ ↦ Settled) Settled waiting handleUdpAssociate := by
  refine meets_udpRelayBindAddr.bind fun bind d hd ↦ ?_
  subst hd
  have hbind : Leads (fun _ d ↦ d = waiting) Settled waiting
      (attempt (perform (SocksOp.bindUdp bind)) fun e ↦
        EcError.runtime s!"udp relay bind failed: {e}") := by
    refine meets_attempt (.call trivial fun ans ↦ .done ?_)
    cases ans with
    | ok _ => rfl
    | error e => exact settled_of_silent rfl rfl
  refine hbind.bind fun _ d hd ↦ ?_
  subst hd
  have haddr : Leads (fun _ d ↦ d = waiting) Settled waiting
      (attempt (perform SocksOp.udpLocalAddr) fun e ↦
        EcError.runtime s!"udp relay local addr failed: {e}") := by
    refine meets_attempt (.call trivial fun ans ↦ .done ?_)
    cases ans with
    | ok _ => rfl
    | error e => exact settled_of_silent rfl rfl
  refine haddr.bind fun addr d hd ↦ ?_
  subst hd
  cases addr with
  | v6 addr => exact (meets_refuse (by decide) _).mono fun _ _ h ↦ h.elim
  | v4 relayAddr =>
    have hclone : Leads (fun _ d ↦ d = waiting) Settled waiting
        (attempt (perform SocksOp.cloneClient) fun e ↦
          EcError.runtime s!"clone socks control stream failed: {e}") := by
      refine meets_attempt (.call trivial fun ans ↦ .done ?_)
      cases ans with
      | ok _ => rfl
      | error e => exact settled_of_silent rfl rfl
    refine hclone.bind fun _ d hd ↦ ?_
    subst hd
    refine meets_openUdpAssociation.bind fun id d hd ↦ ?_
    subst hd
    exact (meets_writeBoundReply id relayAddr).bind fun _ _ hd ↦ meets_pure hd

theorem meets_handleClient (fallbackProxy : Option FallbackProxy) :
    Leads (fun _ ↦ Settled) Settled start (handleClient fallbackProxy) := by
  refine meets_negotiateMethod.bind fun _ d hd ↦ ?_
  subst hd
  refine meets_readSocksRequest.bind fun request d hd ↦ ?_
  subst hd
  cases hcommand : request.command with
  | connect => exact meets_handleConnect _ _
  | udpAssociate => exact meets_handleUdpAssociate
  | other value => exact (meets_refuse (by decide) _).mono fun _ _ h ↦ h.elim

/-! ## One reply -/

/-- **A client gets one reply to its request, and a true one, exactly if nothing fails silently**:
over every complete run in which the header came and neither a read nor a write broke off. -/
theorem handleClient_oneReply_iff {fallbackProxy : Option FallbackProxy} {t : SessionTrace}
    {r : Except EcError Relay} (hrun : Runs (handleClient fallbackProxy).run t r)
    (hheader : (observe note start t).header = true)
    (hbroken : (observe note start t).broken = false) :
    (observe note start t).OneReply ↔ ∀ e ∈ t, failsSilently e = false := by
  have hsettled : (observe note start t).Settled := by
    have h := (meets_handleClient fallbackProxy).of_runs hrun
    cases r with
    | ok relay => exact h
    | error e => exact h
  rw [hsettled hheader hbroken, silent_observe]
  change t.any failsSilently = false ↔ _
  rw [List.any_eq_false]
  simp only [Bool.not_eq_true]

/-- A client asks for an address that is reached through the tunnel, and the netstack is asked to
open a connection. -/
def askTunnel : SessionTrace :=
  [⟨.readExact .hello, .ok #v[5, 1]⟩, ⟨.readExact (.methods 1), .ok #v[0]⟩,
    ⟨.writeAll [5, 0], .ok ()⟩, ⟨.readExact .requestHead, .ok #v[5, 1, 0, 1]⟩,
    ⟨.readExact .ipv4, .ok #v[10, 0, 0, 1]⟩, ⟨.readExact .port, .ok #v[0, 80]⟩,
    ⟨.planTarget "10.0.0.1" 80 .tcp, .ok (.remote "10.0.0.1:80" 1 "web" .ruleIp)⟩,
    ⟨.controlTx, true⟩, ⟨.toSocketAddrs "10.0.0.1:80", .ok [.v4 ⟨⟨10, 0, 0, 1⟩, 80⟩]⟩,
    ⟨.sendControl (.openTcp ⟨⟨10, 0, 0, 1⟩, 80⟩), true⟩]

theorem handleClient_oneReply_iff_opened :
    (observe note start (askTunnel ++ [⟨.awaitReply, .message (.ok 1)⟩,
      ⟨.writeAll (replyBytes socksRepSucceeded), .ok ()⟩])).OneReply := by
  have hrun : Runs (handleClient none).run (askTunnel ++ [⟨.awaitReply, .message (.ok 1)⟩,
      ⟨.writeAll (replyBytes socksRepSucceeded), .ok ()⟩]) (.ok (.tunnel 1)) :=
    .call _ (.call _ (.call _ (.call _ (.call _ (.call _ (.call _ (.call _ (.call _ (.call _
      (.call _ (.call _ .done)))))))))))
  exact (handleClient_oneReply_iff hrun rfl rfl).mpr (by decide)

/-- The netstack does not answer in time, and the client's connection is closed without a reply. -/
theorem open_timeout_without_reply :
    (∃ r, Runs (handleClient none).run (askTunnel ++ [⟨.awaitReply, .timeout⟩]) r)
      ∧ (observe note start (askTunnel ++ [⟨.awaitReply, .timeout⟩])).header = true
      ∧ (observe note start (askTunnel ++ [⟨.awaitReply, .timeout⟩])).broken = false
      ∧ ¬(observe note start (askTunnel ++ [⟨.awaitReply, .timeout⟩])).OneReply := by
  refine ⟨⟨_, .call _ (.call _ (.call _ (.call _ (.call _ (.call _ (.call _ (.call _ (.call _
    (.call _ (.call _ .done))))))))))⟩, rfl, rfl, ?_⟩
  rintro ⟨rep, rest, hreplies, -⟩
  exact nomatch hreplies

end ShiepPipeline.Socks
