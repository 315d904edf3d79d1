import ShiepPipeline.Concurrency.Fallible
import ShiepPipeline.Text.Utf8
import ShiepPipeline.Tunnel.Messages

/-!
# Opening a stream

A stream of the tunnel is opened by a handshake: the client names the stream, and the server answers
with a code. The answer comes in one of three forms, which `classifyStreamAckReply` tries in turn.

An attempt that fails is repeated unless the server has ruled the client out, and
`openDataStreamWithRetries` bounds how often. Connecting, writing and reading are calls; a reply is
the bytes of the first read that is neither empty nor late, which is what `read_stream_once`
returns.
-/

open Program Utf8
open Program.Fallible (attempt lift)

namespace ShiepPipeline

/-! ## Profiles -/

inductive StreamProfile
  | rx
  | tx
deriving DecidableEq, Repr

inductive StreamOpenKind
  | first
  | resume
deriving DecidableEq, Repr

namespace StreamProfile

def firstOpCode : StreamProfile → UInt8
  | .rx => 0x06
  | .tx => 0x05

def resumeOpCode : StreamProfile → UInt8
  | .rx => 0x07
  | .tx => 0x08

def opCode (profile : StreamProfile) : StreamOpenKind → UInt8
  | .first => profile.firstOpCode
  | .resume => profile.resumeOpCode

def expectedAck : StreamProfile → NativeControlType
  | .rx => .rxAck
  | .tx => .txAck

def label : StreamProfile → String
  | .rx => "rx"
  | .tx => "tx"

end StreamProfile

def StreamOpenKind.actionLabel : StreamOpenKind → String
  | .first => "open"
  | .resume => "resume"

/-! ## Replies -/

inductive StreamAckReply
  | expected
  | unexpectedControl (control : NativeControlType)
  | nonControl
deriving DecidableEq, Repr

/-- The last code is compared as a byte; a code that is none matches no reply. -/
def legacyStreamAckMatches (reply : List UInt8) (expectedAck : NativeControlType) : Bool :=
  reply.head? = if expectedAck.code.toNat < 256 then some expectedAck.code.toUInt8 else none

/-- What a code that was read means to a client that waits for `expectedAck`. -/
def ackVerdict (control expectedAck : NativeControlType) : StreamAckReply :=
  if control = expectedAck then .expected else .unexpectedControl control

def classifyStreamAckReply (reply : List UInt8) (expectedAck : NativeControlType) :
    StreamAckReply :=
  match parseNativeControlFrame reply with
  | some control => ackVerdict control expectedAck
  | none =>
    if legacyStreamAckMatches reply expectedAck then .expected
    else if reply.length = commandReplyBodyExpectedLen then
      match parseCommandControlReply reply with
      | .ok control => ackVerdict control expectedAck
      | .error _ => .nonControl
    else .nonControl

inductive StreamOpenError
  | retryable (err : EcError)
  | fatal (err : EcError)
deriving DecidableEq, Repr

def StreamOpenError.error : StreamOpenError → EcError
  | .retryable err => err
  | .fatal err => err

def isTerminalStreamControl (control : NativeControlType) : Bool :=
  control = .shutdown ∨ control = .ipKick ∨ control = .ipConflict

def streamControlRejectedErr (profile : StreamProfile) (kind : StreamOpenKind) (opCode : UInt8)
    (control : NativeControlType) : EcError :=
  .runtime (s!"{profile.label} stream {kind.actionLabel} rejected by server: "
    ++ s!"{control.label}({control.code}); op: 0x{hexByte opCode}")

def unexpectedStreamAckErr (profile : StreamProfile) (opCode : UInt8)
    (expectedAck : NativeControlType) (got : String) : EcError :=
  .runtime (s!"unexpected {profile.label} stream handshake ack; expected: "
    ++ s!"{expectedAck.label}({expectedAck.code}); got: {got}; op: 0x{hexByte opCode}")

def validateStreamAck (profile : StreamProfile) (kind : StreamOpenKind) (opCode : UInt8)
    (expectedAck : NativeControlType) (reply : List UInt8) : Except StreamOpenError Unit :=
  match classifyStreamAckReply reply expectedAck with
  | .expected => .ok ()
  | .unexpectedControl control =>
    if isTerminalStreamControl control then
      .error (.fatal (streamControlRejectedErr profile kind opCode control))
    else
      .error (.retryable (unexpectedStreamAckErr profile opCode expectedAck
        s!"{control.label}({control.code})"))
  | .nonControl =>
    .error (.retryable (unexpectedStreamAckErr profile opCode expectedAck
      s!"non-control-frame len={reply.length}"))

/-! ## Attempts -/

/-- `STREAM_RETRY_LIMIT`. -/
def streamRetryLimit : ℕ := 5

/-- `STREAM_RETRY_DELAY`, one second, in nanoseconds. -/
def streamRetryDelay : ℕ := 10 ^ 9

/-- `STREAM_HANDSHAKE_TIMEOUT`, ten seconds. -/
def streamHandshakeTimeout : ℕ := 10 * 10 ^ 9

inductive DialOp
  /-- `connect_vpn_tls(authority, host)`. -/
  | connectVpnTls (authority host : String)
  /-- `stream.write_all(&message)`. -/
  | writeAll (message : List UInt8)
  /-- `read_stream_once(&mut stream, &mut reply, timeout)`, with a buffer of 1500 bytes. -/
  | readStreamOnce (timeout : ℕ)
  /-- `clear_data_stream_read_timeout(&stream, profile)`. -/
  | clearReadTimeout (profile : StreamProfile)
  /-- `thread::sleep(delay)`. -/
  | sleep (delay : ℕ)
deriving DecidableEq

abbrev DialAns : DialOp → Type
  | .connectVpnTls _ _ => Except EcError Unit
  | .writeAll _ => Except String Unit
  | .readStreamOnce _ => Except EcError { bytes : List UInt8 // bytes.length ≤ 1500 }
  | .clearReadTimeout _ => Except EcError Unit
  | .sleep _ => Unit

abbrev DialTrace := List (Exchange DialOp DialAns)

/-- What every attempt is made with. -/
structure Dial where
  authority : String
  host : String
  token : Vector UInt8 protocolTokenLen
  ipRev : Vector UInt8 4
  profile : StreamProfile
  kind : StreamOpenKind

/-- `open_data_stream`. The stream that it returns is the one it has connected. -/
def openDataStream (dial : Dial) : Fallible StreamOpenError DialOp DialAns Unit := do
  attempt (perform (DialOp.connectVpnTls dial.authority dial.host)) .retryable
  let opCode := dial.profile.opCode dial.kind
  let message := buildStreamHandshakeMessage opCode dial.token dial.ipRev
  attempt (perform (DialOp.writeAll message)) fun e ↦
    .retryable (.runtime s!"stream handshake write failed: {e}")
  let reply ← attempt (perform (DialOp.readStreamOnce streamHandshakeTimeout)) .retryable
  if reply.1 = [] then
    throw (.retryable (.runtime (s!"{dial.profile.label} stream handshake reply is empty or "
      ++ s!"timed out; op: 0x{hexByte opCode}")))
  else
    match validateStreamAck dial.profile dial.kind opCode dial.profile.expectedAck reply.1 with
    | .error e => throw e
    | .ok () => attempt (perform (DialOp.clearReadTimeout dial.profile)) .retryable

structure StreamOpenRetry where
  firstAttempt : ℕ
  delayFirstAttempt : Bool
  phase : String
deriving DecidableEq, Repr

namespace StreamOpenRetry

def firstOpen : StreamOpenRetry := ⟨0, false, "open"⟩

def reconnect (firstAttempt : ℕ) : StreamOpenRetry := ⟨firstAttempt, true, "reconnect"⟩

end StreamOpenRetry

def retryLimitErr (profile : StreamProfile) (phase : String) (lastError : Option String) :
    EcError :=
  let detail := (lastError.map fun err ↦ s!"; last error: {err}").getD ""
  .runtime s!"{profile.label} stream reached retry limit during {phase}{detail}"

/-- `thread::sleep(STREAM_RETRY_DELAY)`, if there is anything to wait for. -/
def waitBefore (delay : Bool) : Fallible EcError DialOp DialAns Unit :=
  if delay then lift (perform (DialOp.sleep streamRetryDelay)) else return ()

/-- The loop of `open_data_stream_with_retries`, from an attempt and the last error before it. -/
def openAttempts (dial : Dial) (retry : StreamOpenRetry) (attempt : ℕ)
    (lastError : Option String) : Fallible EcError DialOp DialAns Unit :=
  if attempt ≤ streamRetryLimit then do
    waitBefore (retry.delayFirstAttempt || retry.firstAttempt < attempt)
    match ← lift (openDataStream dial).run with
    | .ok () => return ()
    | .error (.fatal err) => throw err
    | .error (.retryable err) =>
      openAttempts dial retry (attempt + 1) (some (conciseError err))
  else throw (retryLimitErr dial.profile retry.phase lastError)
termination_by streamRetryLimit + 1 - attempt

def openDataStreamWithRetries (dial : Dial) (retry : StreamOpenRetry) :
    Fallible EcError DialOp DialAns Unit :=
  openAttempts dial retry retry.firstAttempt none

/-! ## Which replies rule the client out -/

/-- The reply is a frame, or a body that does not begin like one, with this code. -/
def CarriesCode (reply : List UInt8) (code : UInt32) : Prop :=
  (reply.length = nativeControlFrameLen ∧ nativeControlMagic <+: reply
      ∧ leCode (reply.drop 4) = code)
    ∨ (reply.length = commandReplyBodyExpectedLen ∧ ¬ nativeControlMagic <+: reply
      ∧ leCode reply = code)

/-- The codes of `Shutdown`, `IpKick` and `IpConflict`. -/
def TerminalCode (code : UInt32) : Prop := code = 8 ∨ code = 14 ∨ code = 9

def TerminalReply (reply : List UInt8) : Prop := ∃ code, CarriesCode reply code ∧ TerminalCode code

theorem isTerminalStreamControl_fromCode_iff (code : UInt32) :
    isTerminalStreamControl (.fromCode code) = true ↔ TerminalCode code := by
  have hshutdown : NativeControlType.shutdown = .fromCode 8 := by decide
  have hkick : NativeControlType.ipKick = .fromCode 14 := by decide
  have hconflict : NativeControlType.ipConflict = .fromCode 9 := by decide
  rw [isTerminalStreamControl, decide_eq_true_iff, hshutdown, hkick, hconflict]
  simp only [NativeControlType.fromCode_inj, TerminalCode]

theorem parseNativeControlFrame_of_frame {reply : List UInt8}
    (hlen : reply.length = nativeControlFrameLen) (hmagic : nativeControlMagic <+: reply) :
    parseNativeControlFrame reply = some (.fromCode (leCode (reply.drop 4))) :=
  if_pos ⟨hlen, hmagic⟩

theorem parseNativeControlFrame_of_length {reply : List UInt8}
    (hlen : reply.length ≠ nativeControlFrameLen) : parseNativeControlFrame reply = none :=
  if_neg fun h ↦ hlen h.1

theorem parseCommandControlReply_of_body {reply : List UInt8}
    (hlen : commandReplyMinLen ≤ reply.length) (hmagic : ¬ nativeControlMagic <+: reply) :
    parseCommandControlReply reply = .ok (.fromCode (leCode reply)) := by
  rw [parseCommandControlReply, if_neg hmagic, if_neg (by omega)]

/-- The first byte is the low byte of the code. -/
theorem toUInt8_leCode (b : UInt8) (rest : List UInt8) : (leCode (b :: rest)).toUInt8 = b := by
  have hb := b.toNat_lt
  apply UInt8.toNat_inj.mp
  rw [leCode, List.take_succ_cons, fromLeBytes, UInt32.toNat_toUInt8, UInt32.toNat_ofNat']
  omega

namespace StreamProfile

theorem code_expectedAck_lt (profile : StreamProfile) : profile.expectedAck.code.toNat < 256 := by
  cases profile <;> decide

theorem not_terminal_expectedAck (profile : StreamProfile) :
    isTerminalStreamControl profile.expectedAck = false := by
  cases profile <;> rfl

theorem fromCode_expectedAck (profile : StreamProfile) :
    NativeControlType.fromCode profile.expectedAck.code = profile.expectedAck := by
  cases profile <;> rfl

theorem not_terminalCode_of_toUInt8 (profile : StreamProfile) {code : UInt32}
    (h : code.toUInt8 = profile.expectedAck.code.toUInt8) : ¬ TerminalCode code := by
  rintro (rfl | rfl | rfl) <;> cases profile <;> exact absurd h (by decide)

end StreamProfile

theorem legacyStreamAckMatches_iff (profile : StreamProfile) (reply : List UInt8) :
    legacyStreamAckMatches reply profile.expectedAck = true
      ↔ reply.head? = some profile.expectedAck.code.toUInt8 := by
  rw [legacyStreamAckMatches, decide_eq_true_iff, if_pos profile.code_expectedAck_lt]

section Classify

variable (profile : StreamProfile) {reply : List UInt8}

/-- A frame is judged by its code alone. -/
theorem classifyStreamAckReply_of_frame (hlen : reply.length = nativeControlFrameLen)
    (hmagic : nativeControlMagic <+: reply) :
    classifyStreamAckReply reply profile.expectedAck
      = ackVerdict (.fromCode (leCode (reply.drop 4))) profile.expectedAck := by
  rw [classifyStreamAckReply, parseNativeControlFrame_of_frame hlen hmagic]

/-- A body whose low byte is that of the acknowledgement passes for one. -/
theorem classifyStreamAckReply_of_body (hlen : reply.length = commandReplyBodyExpectedLen)
    (hmagic : ¬ nativeControlMagic <+: reply) :
    classifyStreamAckReply reply profile.expectedAck
      = if (leCode reply).toUInt8 = profile.expectedAck.code.toUInt8 then .expected
        else .unexpectedControl (.fromCode (leCode reply)) := by
  have hframe : parseNativeControlFrame reply = none :=
    parseNativeControlFrame_of_length (by rw [hlen]; decide)
  have hhead : reply.head? = some (leCode reply).toUInt8 := by
    obtain _ | ⟨b, rest⟩ := reply
    · exact absurd hlen (by decide)
    · rw [toUInt8_leCode, List.head?_cons]
  rw [classifyStreamAckReply, hframe]
  dsimp only
  simp only [legacyStreamAckMatches_iff, hhead, Option.some.injEq]
  split_ifs with hlow
  · rfl
  · rw [parseCommandControlReply_of_body (by rw [hlen]; decide) hmagic]
    -- the code of the acknowledgement has been matched by its low byte already
    refine if_neg fun hack ↦ hlow ?_
    rw [← profile.fromCode_expectedAck, NativeControlType.fromCode_inj] at hack
    rw [hack]

/-- Everything else is an acknowledgement of the old kind or nothing. -/
theorem classifyStreamAckReply_of_other
    (hframe : ¬ (reply.length = nativeControlFrameLen ∧ nativeControlMagic <+: reply))
    (hbody : ¬ (reply.length = commandReplyBodyExpectedLen ∧ ¬ nativeControlMagic <+: reply))
    (control : NativeControlType) :
    classifyStreamAckReply reply profile.expectedAck ≠ .unexpectedControl control := by
  rw [classifyStreamAckReply, parseNativeControlFrame, if_neg hframe]
  dsimp only
  split_ifs with hlegacy hlen
  · exact StreamAckReply.noConfusion
  · have hmagic : nativeControlMagic <+: reply := by
      by_contra hmagic
      exact hbody ⟨hlen, hmagic⟩
    rw [parseCommandControlReply, if_pos hmagic, parseNativeControlFrame, if_neg hframe]
    exact StreamAckReply.noConfusion
  · exact StreamAckReply.noConfusion

theorem terminalReply_of_frame (hlen : reply.length = nativeControlFrameLen)
    (hmagic : nativeControlMagic <+: reply) :
    TerminalReply reply ↔ TerminalCode (leCode (reply.drop 4)) := by
  constructor
  · rintro ⟨code, ⟨-, -, rfl⟩ | ⟨hbody, -, -⟩, hterminal⟩
    · exact hterminal
    · exact absurd (hlen.symm.trans hbody) (by decide)
  · intro hterminal
    exact ⟨_, .inl ⟨hlen, hmagic, rfl⟩, hterminal⟩

theorem terminalReply_of_body (hlen : reply.length = commandReplyBodyExpectedLen)
    (hmagic : ¬ nativeControlMagic <+: reply) :
    TerminalReply reply ↔ TerminalCode (leCode reply) := by
  constructor
  · rintro ⟨code, ⟨-, hframe, -⟩ | ⟨-, -, rfl⟩, hterminal⟩
    · exact absurd hframe hmagic
    · exact hterminal
  · intro hterminal
    exact ⟨_, .inr ⟨hlen, hmagic, rfl⟩, hterminal⟩

/-- **A reply rules the client out exactly if it carries a terminal code**, in either form. -/
theorem classifyStreamAckReply_terminal_iff :
    (∃ control, classifyStreamAckReply reply profile.expectedAck = .unexpectedControl control
      ∧ isTerminalStreamControl control = true) ↔ TerminalReply reply := by
  by_cases hframe : reply.length = nativeControlFrameLen ∧ nativeControlMagic <+: reply
  · rw [classifyStreamAckReply_of_frame profile hframe.1 hframe.2, ackVerdict,
      terminalReply_of_frame hframe.1 hframe.2, ← isTerminalStreamControl_fromCode_iff]
    split_ifs with hack
    · simp [hack, profile.not_terminal_expectedAck]
    · simp
  by_cases hbody : reply.length = commandReplyBodyExpectedLen ∧ ¬ nativeControlMagic <+: reply
  · rw [classifyStreamAckReply_of_body profile hbody.1 hbody.2,
      terminalReply_of_body hbody.1 hbody.2, ← isTerminalStreamControl_fromCode_iff]
    split_ifs with hlow
    · -- none of the terminal codes ends in the byte of an acknowledgement
      have hnot := profile.not_terminalCode_of_toUInt8 hlow
      rw [← isTerminalStreamControl_fromCode_iff] at hnot
      simp [hnot]
    · simp
  · constructor
    · rintro ⟨control, hcontrol, -⟩
      exact absurd hcontrol (classifyStreamAckReply_of_other profile hframe hbody control)
    · rintro ⟨code, ⟨hlen, hmagic, -⟩ | ⟨hlen, hmagic, -⟩, -⟩
      · exact absurd ⟨hlen, hmagic⟩ hframe
      · exact absurd ⟨hlen, hmagic⟩ hbody

/-- A reply that rules the client out acknowledges nothing. -/
theorem classifyStreamAckReply_ne_expected (h : TerminalReply reply) :
    classifyStreamAckReply reply profile.expectedAck ≠ .expected := by
  obtain ⟨control, hcontrol, -⟩ := (classifyStreamAckReply_terminal_iff profile).mpr h
  rw [hcontrol]
  exact StreamAckReply.noConfusion

theorem validateStreamAck_fatal_iff (kind : StreamOpenKind) (opCode : UInt8) :
    (∃ err, validateStreamAck profile kind opCode profile.expectedAck reply = .error (.fatal err))
      ↔ TerminalReply reply := by
  rw [← classifyStreamAckReply_terminal_iff profile, validateStreamAck]
  cases classifyStreamAckReply reply profile.expectedAck with
  | expected => simp
  | nonControl => simp
  | unexpectedControl control =>
    by_cases hterminal : isTerminalStreamControl control = true
    · simp [hterminal]
    · simp [hterminal]

end Classify

/-! ## One attempt -/

/-- The replies that were read. -/
def streamReplies (t : DialTrace) : List (List UInt8) :=
  t.filterMap fun
    | ⟨.readStreamOnce _, .ok reply⟩ => some reply.1
    | _ => none

theorem not_terminalReply_nil : ¬ TerminalReply [] := by
  rintro ⟨code, ⟨hlen, -⟩ | ⟨hlen, -⟩, -⟩ <;> exact absurd hlen (by decide)

/-- An attempt ends before it has a reply, or goes by the reply. -/
theorem openDataStream_cases {dial : Dial} {t : DialTrace} {r : Except StreamOpenError Unit}
    (h : Runs (openDataStream dial).run t r) :
    (streamReplies t = [] ∧ ∃ err, r = .error (.retryable err))
      ∨ ∃ reply, streamReplies t = [reply]
        ∧ ((∃ err, r = .error (.fatal err)) ↔ TerminalReply reply) := by
  rw [openDataStream, Fallible.runs_attempt_bind_iff] at h
  obtain ⟨e, hconnect, rfl⟩ | ⟨t₁, _, t', hconnect, h, rfl⟩ := h
  all_goals obtain rfl := runs_perform_iff.mp hconnect
  · exact .inl ⟨rfl, e, rfl⟩
  dsimp only at h
  rw [Fallible.runs_attempt_bind_iff] at h
  obtain ⟨e, hwrite, rfl⟩ | ⟨t₂, _, t', hwrite, h, rfl⟩ := h
  all_goals obtain rfl := runs_perform_iff.mp hwrite
  · exact .inl ⟨rfl, _, rfl⟩
  rw [Fallible.runs_attempt_bind_iff] at h
  obtain ⟨e, hread, rfl⟩ | ⟨t₃, reply, t', hread, h, rfl⟩ := h
  all_goals obtain rfl := runs_perform_iff.mp hread
  · exact .inl ⟨rfl, e, rfl⟩
  -- what is left is the verdict, and perhaps a last call
  have hrest : streamReplies t' = []
      ∧ ((∃ err, r = .error (.fatal err)) ↔ TerminalReply reply.1) := by
    split_ifs at h with hempty
    · obtain ⟨rfl, rfl⟩ := Fallible.runs_throw_iff.mp h
      refine ⟨rfl, ?_⟩
      rw [hempty]
      simp [not_terminalReply_nil]
    · rw [← validateStreamAck_fatal_iff dial.profile dial.kind (dial.profile.opCode dial.kind)]
      split at h
      · next e hverdict =>
        obtain ⟨rfl, rfl⟩ := Fallible.runs_throw_iff.mp h
        rw [hverdict]
        exact ⟨rfl, Iff.rfl⟩
      · next hverdict =>
        rw [hverdict]
        obtain ⟨e, hclear, rfl⟩ | ⟨_, hclear, rfl⟩ := Fallible.runs_attempt_iff.mp h
        all_goals
          obtain rfl := runs_perform_iff.mp hclear
          simp [streamReplies]
  refine .inr ⟨reply.1, ?_, hrest.2⟩
  have hcall := hrest.1
  rw [streamReplies] at hcall ⊢
  simp [hcall]

/-! ## The loop -/

/-- What happens after an attempt. -/
def AfterAttempt (dial : Dial) (retry : StreamOpenRetry) (attempt : ℕ) (t : DialTrace)
    (r : Except EcError Unit) : Except StreamOpenError Unit → Prop
  | .ok () => t = [] ∧ r = .ok ()
  | .error (.fatal err) => t = [] ∧ r = .error err
  | .error (.retryable err) =>
    Runs (openAttempts dial retry (attempt + 1) (some (conciseError err))).run t r

/-- The wait in front of an attempt. -/
def waitTrace (delay : Bool) : DialTrace := if delay then [⟨.sleep streamRetryDelay, ()⟩] else []

theorem runs_waitBefore_iff {delay : Bool} {t : DialTrace} {r : Except EcError Unit} :
    Runs (waitBefore delay).run t r ↔ t = waitTrace delay ∧ r = .ok () := by
  cases delay with
  | false => exact Fallible.runs_pure_iff
  | true =>
    refine Fallible.runs_lift_iff.trans ?_
    constructor
    · rintro ⟨_, h, rfl⟩
      exact ⟨runs_perform_iff.mp h, rfl⟩
    · rintro ⟨h, rfl⟩
      exact ⟨(), runs_perform_iff.mpr h, rfl⟩

theorem runs_openAttempts_of_le {dial : Dial} {retry : StreamOpenRetry} {attempt : ℕ}
    {lastError : Option String} (h : attempt ≤ streamRetryLimit) {t : DialTrace}
    {r : Except EcError Unit} :
    Runs (openAttempts dial retry attempt lastError).run t r
      ↔ ∃ t₁ outcome t₂, Runs (openDataStream dial).run t₁ outcome
        ∧ AfterAttempt dial retry attempt t₂ r outcome
        ∧ t = waitTrace (retry.delayFirstAttempt || retry.firstAttempt < attempt)
          ++ (t₁ ++ t₂) := by
  have hafter : ∀ t₂ outcome, Runs (ExceptT.run (m := Program DialOp DialAns) (ε := EcError)
      (match outcome with
      | .ok () => return ()
      | .error (.fatal err) => throw err
      | .error (.retryable err) =>
        openAttempts dial retry (attempt + 1) (some (conciseError err)))) t₂ r
      ↔ AfterAttempt dial retry attempt t₂ r outcome := by
    intro t₂ outcome
    obtain (err | err) | _ := outcome
    · exact Iff.rfl
    · exact Fallible.runs_throw_iff
    · exact Fallible.runs_pure_iff
  rw [openAttempts, if_pos h, Fallible.runs_bind_iff]
  constructor
  · rintro (⟨e, hwait, -⟩ | ⟨t₀, _, t', hwait, hrest, rfl⟩)
    · exact absurd (runs_waitBefore_iff.mp hwait).2 (by simp)
    obtain ⟨rfl, -⟩ := runs_waitBefore_iff.mp hwait
    obtain ⟨e, hlift, -⟩ | ⟨t₁, outcome, t₂, hlift, hend, rfl⟩ := Fallible.runs_bind_iff.mp hrest
    · obtain ⟨_, -, hne⟩ := Fallible.runs_lift_iff.mp hlift
      cases hne
    obtain ⟨_, hopen, heq⟩ := Fallible.runs_lift_iff.mp hlift
    obtain rfl := Except.ok.inj heq
    exact ⟨t₁, outcome, t₂, hopen, (hafter _ _).mp hend, rfl⟩
  · rintro ⟨t₁, outcome, t₂, hopen, hend, rfl⟩
    refine .inr ⟨_, (), _, runs_waitBefore_iff.mpr ⟨rfl, rfl⟩, ?_, rfl⟩
    exact Fallible.runs_bind_iff.mpr (.inr ⟨t₁, outcome, t₂,
      Fallible.runs_lift_iff.mpr ⟨outcome, hopen, rfl⟩, (hafter _ _).mpr hend, rfl⟩)

/-- The attempts of a run with their outcomes, one after the other. -/
def attemptTrace : Bool → List (DialTrace × Except StreamOpenError Unit) → DialTrace
  | _, [] => []
  | delay, a :: attempts => waitTrace delay ++ (a.1 ++ attemptTrace true attempts)

def retryableAll (errs : List EcError) : List (Except StreamOpenError Unit) :=
  errs.map fun err ↦ .error (.retryable err)

/-- The result of a loop, by the outcomes of its attempts: the first stream that was opened, the
first fatal error, or the error of the limit after as many retryable ones as were allowed. -/
def Settled (dial : Dial) (retry : StreamOpenRetry) (allowed : ℕ) (lastError : Option String)
    (outcomes : List (Except StreamOpenError Unit)) (r : Except EcError Unit) : Prop :=
  (∃ errs : List EcError, errs.length < allowed
      ∧ outcomes = retryableAll errs ++ [.ok ()] ∧ r = .ok ())
    ∨ (∃ (errs : List EcError) (err : EcError), errs.length < allowed
      ∧ outcomes = retryableAll errs ++ [.error (.fatal err)] ∧ r = .error err)
    ∨ ∃ errs : List EcError, errs.length = allowed ∧ outcomes = retryableAll errs
      ∧ r = .error (retryLimitErr dial.profile retry.phase
        ((errs.getLast?.map conciseError).or lastError))

section Settled

variable {dial : Dial} {retry : StreamOpenRetry} {allowed : ℕ} {lastError : Option String}
  {outcomes : List (Except StreamOpenError Unit)} {r : Except EcError Unit}

theorem settled_zero_iff : Settled dial retry 0 lastError outcomes r
    ↔ outcomes = [] ∧ r = .error (retryLimitErr dial.profile retry.phase lastError) := by
  constructor
  · rintro (⟨errs, hlen, -⟩ | ⟨errs, err, hlen, -⟩ | ⟨errs, hlen, rfl, rfl⟩)
    · omega
    · omega
    · rw [List.length_eq_zero_iff] at hlen
      subst hlen
      exact ⟨rfl, rfl⟩
  · rintro ⟨rfl, rfl⟩
    exact .inr (.inr ⟨[], rfl, rfl, rfl⟩)

/-- The last error is that of the last attempt that failed. -/
theorem getLast?_cons_or (err : EcError) (errs : List EcError) (lastError : Option String) :
    (((err :: errs).getLast?.map conciseError).or lastError)
      = (errs.getLast?.map conciseError).or (some (conciseError err)) := by
  rw [List.getLast?_cons]
  cases errs.getLast? <;> rfl

theorem settled_succ_iff : Settled dial retry (allowed + 1) lastError outcomes r
    ↔ (outcomes = [.ok ()] ∧ r = .ok ())
      ∨ (∃ err, outcomes = [.error (.fatal err)] ∧ r = .error err)
      ∨ ∃ err rest, outcomes = .error (.retryable err) :: rest
        ∧ Settled dial retry allowed (some (conciseError err)) rest r := by
  constructor
  -- each of the three ends comes with no error before it, or with a first one
  · rintro (⟨_ | ⟨err, errs⟩, hlen, rfl, rfl⟩ | ⟨_ | ⟨err, errs⟩, fatal, hlen, rfl, rfl⟩
      | ⟨_ | ⟨err, errs⟩, hlen, rfl, rfl⟩)
    · exact .inl ⟨rfl, rfl⟩
    · exact .inr (.inr ⟨err, _, rfl, .inl ⟨errs, Nat.lt_of_succ_lt_succ hlen, rfl, rfl⟩⟩)
    · exact .inr (.inl ⟨fatal, rfl, rfl⟩)
    · exact .inr (.inr ⟨err, _, rfl,
        .inr (.inl ⟨errs, fatal, Nat.lt_of_succ_lt_succ hlen, rfl, rfl⟩)⟩)
    · cases hlen
    · refine .inr (.inr ⟨err, _, rfl, .inr (.inr ⟨errs, Nat.succ_injective hlen, rfl, ?_⟩)⟩)
      rw [getLast?_cons_or]
  · rintro (⟨rfl, rfl⟩ | ⟨err, rfl, rfl⟩ | ⟨err, rest, rfl, ⟨errs, hlen, rfl, rfl⟩
      | ⟨errs, fatal, hlen, rfl, rfl⟩ | ⟨errs, hlen, rfl, rfl⟩⟩)
    · exact .inl ⟨[], Nat.succ_pos _, rfl, rfl⟩
    · exact .inr (.inl ⟨[], err, Nat.succ_pos _, rfl, rfl⟩)
    · exact .inl ⟨err :: errs, Nat.succ_lt_succ hlen, rfl, rfl⟩
    · exact .inr (.inl ⟨err :: errs, fatal, Nat.succ_lt_succ hlen, rfl, rfl⟩)
    · refine .inr (.inr ⟨err :: errs, congrArg Nat.succ hlen, rfl, ?_⟩)
      rw [getLast?_cons_or]

theorem Settled.length_le (h : Settled dial retry allowed lastError outcomes r) :
    outcomes.length ≤ allowed := by
  obtain ⟨errs, hlen, rfl, -⟩ | ⟨errs, err, hlen, rfl, -⟩ | ⟨errs, hlen, rfl, -⟩ := h
  · rw [List.length_append, retryableAll, List.length_map]
    exact hlen
  · rw [List.length_append, retryableAll, List.length_map]
    exact hlen
  · rw [retryableAll, List.length_map]
    exact hlen.le

end Settled

/-- **The complete runs of the loop**, by induction on how many attempts are left. -/
theorem runs_openAttempts_iff {dial : Dial} {retry : StreamOpenRetry} {attempt : ℕ}
    (hfirst : retry.firstAttempt ≤ attempt) {lastError : Option String} {t : DialTrace}
    {r : Except EcError Unit} :
    Runs (openAttempts dial retry attempt lastError).run t r
      ↔ ∃ attempts : List (DialTrace × Except StreamOpenError Unit),
        (∀ a ∈ attempts, Runs (openDataStream dial).run a.1 a.2)
          ∧ t = attemptTrace (retry.delayFirstAttempt || retry.firstAttempt < attempt) attempts
          ∧ Settled dial retry (streamRetryLimit + 1 - attempt) lastError (attempts.map Prod.snd)
            r := by
  generalize hleft : streamRetryLimit + 1 - attempt = left
  induction left generalizing attempt lastError t with
  | zero =>
    -- the limit is reached: there is no attempt, and what is left is its error
    rw [openAttempts, if_neg (by omega), Fallible.runs_throw_iff]
    constructor
    · rintro ⟨rfl, rfl⟩
      exact ⟨[], by simp, rfl, settled_zero_iff.mpr ⟨rfl, rfl⟩⟩
    · rintro ⟨attempts, -, rfl, hsettled⟩
      obtain ⟨hnil, rfl⟩ := settled_zero_iff.mp hsettled
      obtain rfl := List.map_eq_nil_iff.mp hnil
      exact ⟨rfl, rfl⟩
  | succ left ih =>
    -- there is a wait in front of every attempt but possibly the first
    have hnext : (retry.delayFirstAttempt || decide (retry.firstAttempt < attempt + 1)) = true := by
      rw [decide_eq_true (by omega), Bool.or_true]
    have hrec : ∀ (err : EcError) (t₂ : DialTrace),
        AfterAttempt dial retry attempt t₂ r (.error (.retryable err))
          ↔ ∃ attempts : List (DialTrace × Except StreamOpenError Unit),
            (∀ a ∈ attempts, Runs (openDataStream dial).run a.1 a.2)
              ∧ t₂ = attemptTrace true attempts
              ∧ Settled dial retry left (some (conciseError err)) (attempts.map Prod.snd) r := by
      intro err t₂
      rw [AfterAttempt, ih (by omega) (by omega), hnext]
    rw [runs_openAttempts_of_le (by omega)]
    constructor
    · rintro ⟨t₁, outcome, t₂, hopen, hafter, rfl⟩
      obtain (err | err) | _ := outcome
      · obtain ⟨attempts, hruns, rfl, hsettled⟩ := (hrec err t₂).mp hafter
        refine ⟨(t₁, _) :: attempts, List.forall_mem_cons.mpr ⟨hopen, hruns⟩, rfl, ?_⟩
        exact settled_succ_iff.mpr (.inr (.inr ⟨err, _, rfl, hsettled⟩))
      · obtain ⟨rfl, rfl⟩ := hafter
        refine ⟨[(t₁, _)], List.forall_mem_singleton.mpr hopen, rfl, ?_⟩
        exact settled_succ_iff.mpr (.inr (.inl ⟨err, rfl, rfl⟩))
      · obtain ⟨rfl, rfl⟩ := hafter
        refine ⟨[(t₁, _)], List.forall_mem_singleton.mpr hopen, rfl, ?_⟩
        exact settled_succ_iff.mpr (.inl ⟨rfl, rfl⟩)
    · rintro ⟨attempts, hruns, rfl, hsettled⟩
      -- the outcome of the first attempt is the only one that goes on as this list does
      obtain _ | ⟨⟨t₁, outcome⟩, attempts⟩ := attempts
      · obtain ⟨hne, -⟩ | ⟨err, hne, -⟩ | ⟨err, rest, hne, -⟩ := settled_succ_iff.mp hsettled
        all_goals cases hne
      obtain ⟨hopen, hothers⟩ := List.forall_mem_cons.mp hruns
      refine ⟨t₁, outcome, attemptTrace true attempts, hopen, ?_, rfl⟩
      rw [List.map_cons] at hsettled
      obtain ⟨heq, rfl⟩ | ⟨err, heq, rfl⟩ | ⟨err, rest, heq, hsettled⟩ :=
        settled_succ_iff.mp hsettled
      · obtain ⟨rfl, hnil⟩ := List.cons.inj heq
        obtain rfl := List.map_eq_nil_iff.mp hnil
        exact ⟨rfl, rfl⟩
      · obtain ⟨rfl, hnil⟩ := List.cons.inj heq
        obtain rfl := List.map_eq_nil_iff.mp hnil
        exact ⟨rfl, rfl⟩
      · obtain ⟨rfl, rfl⟩ := List.cons.inj heq
        exact (hrec err _).mpr ⟨attempts, hothers, rfl, hsettled⟩

/-- **Opening stops at a terminal rejection and retries everything else**, within the bound.

The first part describes the complete runs: they are attempts one after the other, and their
outcomes determine the result. The others say which replies are terminal: an attempt is fatal
exactly if it has read one, and no profile takes one for an acknowledgement. -/
theorem openDataStreamWithRetries_settled :
    (∀ (dial : Dial) (retry : StreamOpenRetry) (t : DialTrace) (r : Except EcError Unit),
      Runs (openDataStreamWithRetries dial retry).run t r
        ↔ ∃ attempts : List (DialTrace × Except StreamOpenError Unit),
          (∀ a ∈ attempts, Runs (openDataStream dial).run a.1 a.2)
            ∧ t = attemptTrace retry.delayFirstAttempt attempts
            ∧ attempts.length ≤ streamRetryLimit + 1 - retry.firstAttempt
            ∧ Settled dial retry (streamRetryLimit + 1 - retry.firstAttempt) none
              (attempts.map Prod.snd) r)
    ∧ (∀ (dial : Dial) (t : DialTrace) (r : Except StreamOpenError Unit),
      Runs (openDataStream dial).run t r →
        ((∃ err, r = .error (.fatal err)) ↔ ∃ reply ∈ streamReplies t, TerminalReply reply))
    ∧ ∀ (profile : StreamProfile) (reply : List UInt8),
      (∀ (kind : StreamOpenKind) (opCode : UInt8),
        (∃ err, validateStreamAck profile kind opCode profile.expectedAck reply
          = .error (.fatal err)) ↔ TerminalReply reply)
        ∧ (TerminalReply reply →
          classifyStreamAckReply reply profile.expectedAck ≠ .expected) := by
  refine ⟨?_, ?_, ?_⟩
  · intro dial retry t r
    rw [openDataStreamWithRetries, runs_openAttempts_iff (Nat.le_refl _),
      decide_eq_false (Nat.lt_irrefl _), Bool.or_false]
    constructor
    · rintro ⟨attempts, hruns, ht, hsettled⟩
      have hlen := hsettled.length_le
      rw [List.length_map] at hlen
      exact ⟨attempts, hruns, ht, hlen, hsettled⟩
    · rintro ⟨attempts, hruns, ht, -, hsettled⟩
      exact ⟨attempts, hruns, ht, hsettled⟩
  · intro dial t r hrun
    obtain ⟨hnone, err, rfl⟩ | ⟨reply, hreply, hfatal⟩ := openDataStream_cases hrun
    · rw [hnone]
      simp
    · rw [hfatal, hreply]
      simp
  · intro profile reply
    exact ⟨fun kind opCode ↦ validateStreamAck_fatal_iff profile kind opCode,
      classifyStreamAckReply_ne_expected profile⟩

/-- A body with the code of `Shutdown`. -/
def shutdownBody : List UInt8 := 8 :: List.replicate 35 0

/-- A stream is to be resumed, and the server shuts the tunnel down. -/
theorem openDataStreamWithRetries_settled_shutdown :
    ∃ (dial : Dial) (t : DialTrace) (err : EcError),
      Runs (openDataStream dial).run t (.error (.fatal err))
        ∧ (∃ reply ∈ streamReplies t, TerminalReply reply)
        ∧ classifyStreamAckReply shutdownBody dial.profile.expectedAck ≠ .expected := by
  have hterminal : TerminalReply shutdownBody := ⟨8, .inr (by decide), .inl rfl⟩
  obtain ⟨hverdict, hnever⟩ := openDataStreamWithRetries_settled.2.2 .rx shutdownBody
  obtain ⟨err, herr⟩ := (hverdict .resume 0x07).mpr hterminal
  let dial : Dial := ⟨"vpn.example.com:443", "vpn.example.com", .replicate _ 0x61, #v[4, 3, 2, 1],
    .rx, .resume⟩
  have hrun : Runs (openDataStream dial).run
      [⟨.connectVpnTls dial.authority dial.host, .ok ()⟩,
        ⟨.writeAll (buildStreamHandshakeMessage 0x07 dial.token dial.ipRev), .ok ()⟩,
        ⟨.readStreamOnce streamHandshakeTimeout, .ok ⟨shutdownBody, by decide⟩⟩]
      (.error (.fatal err)) := by
    rw [openDataStream, Fallible.runs_attempt_bind_iff]
    refine .inr ⟨_, (), _, runs_perform_iff.mpr rfl, ?_, rfl⟩
    dsimp only
    rw [Fallible.runs_attempt_bind_iff]
    refine .inr ⟨_, (), _, runs_perform_iff.mpr rfl, ?_, rfl⟩
    rw [Fallible.runs_attempt_bind_iff]
    refine .inr ⟨_, ⟨shutdownBody, by decide⟩, [], runs_perform_iff.mpr rfl, ?_, rfl⟩
    have hreply : validateStreamAck dial.profile dial.kind (dial.profile.opCode dial.kind)
        dial.profile.expectedAck shutdownBody = .error (.fatal err) := herr
    rw [if_neg (by decide), hreply]
    exact Fallible.runs_throw_iff.mpr ⟨rfl, rfl⟩
  exact ⟨dial, _, err, hrun,
    (openDataStreamWithRetries_settled.2.1 dial _ _ hrun).mp ⟨err, rfl⟩, hnever hterminal⟩

/-! ## The two forms of a code -/

/-- A frame of 40 bytes. -/
def codeFrame (code : UInt32) (rest : Vector UInt8 32) : List UInt8 :=
  nativeControlMagic ++ toLeBytes code ++ rest.toList

/-- A body of 36 bytes. -/
def codeBody (code : UInt32) (rest : Vector UInt8 32) : List UInt8 := toLeBytes code ++ rest.toList

/-- **What the two forms of a code mean.** They agree unless the code ends in the byte of the
acknowledgement and is not the acknowledgement. -/
theorem classifyStreamAckReply_forms (profile : StreamProfile) (code : UInt32)
    (rest rest' : Vector UInt8 32) (hcode : toLeBytes code ≠ nativeControlMagic) :
    classifyStreamAckReply (codeFrame code rest) profile.expectedAck
        = (if code = profile.expectedAck.code then .expected
          else .unexpectedControl (.fromCode code))
      ∧ classifyStreamAckReply (codeBody code rest') profile.expectedAck
        = if code.toUInt8 = profile.expectedAck.code.toUInt8 then .expected
          else .unexpectedControl (.fromCode code) := by
  have hack : NativeControlType.fromCode code = profile.expectedAck
      ↔ code = profile.expectedAck.code := by
    rw [← profile.fromCode_expectedAck, NativeControlType.fromCode_inj,
      NativeControlType.code_fromCode]
  constructor
  · have hmagic : nativeControlMagic <+: codeFrame code rest := by
      rw [codeFrame, List.append_assoc]
      exact List.prefix_append ..
    have hdrop : (codeFrame code rest).drop 4 = toLeBytes code ++ rest.toList := rfl
    rw [classifyStreamAckReply_of_frame profile (by simp [codeFrame]; rfl) hmagic, hdrop,
      leCode_toLeBytes_append, ackVerdict]
    simp only [hack]
  · have hmagic : ¬ nativeControlMagic <+: codeBody code rest' := by
      intro hprefix
      exact hcode (List.prefix_iff_eq_take.mp hprefix).symm
    rw [classifyStreamAckReply_of_body profile (by simp [codeBody]; rfl) hmagic, codeBody,
      leCode_toLeBytes_append]

/-- The code 257 ends in the byte of `rx-ack` and is none of the named codes. -/
theorem classifyStreamAckReply_forms_ack :
    classifyStreamAckReply (codeBody 1 (.replicate 32 0)) StreamProfile.rx.expectedAck
      = .expected :=
  (classifyStreamAckReply_forms .rx 1 (.replicate 32 0) (.replicate 32 0) (by decide)).2

/-- A code that the frame is rejected for and the body accepted. -/
theorem forms_of_257_differ :
    toLeBytes 257 ≠ nativeControlMagic
      ∧ classifyStreamAckReply (codeFrame 257 (.replicate 32 0))
          StreamProfile.rx.expectedAck
        = .unexpectedControl (.unknown 257)
      ∧ classifyStreamAckReply (codeBody 257 (.replicate 32 0)) StreamProfile.rx.expectedAck
        = .expected := by
  decide

end ShiepPipeline
