import Mathlib.Algebra.Group.Nat.Defs
import ShiepPipeline.Tunnel.Messages
import ShiepPipeline.Tunnel.Reading

/-!
# The heartbeat of the command connection

The client sends a command and reads the answer to it. The answer has one of two lengths, and
reading stops at the shorter one; `sendCommandHeartbeat_split_iff` says for which splits of an
answer that makes no difference.
-/

namespace ShiepPipeline

inductive CommandHeartbeatFailure
  | retryable (reason : String)
  | fatal (reason : String)
deriving DecidableEq, Repr

inductive CommandHeartbeatOutcome
  | ack
  | fatal (reason : String)
deriving DecidableEq, Repr

def CommandHeartbeatOutcome.intoResult :
    CommandHeartbeatOutcome → Except CommandHeartbeatFailure Unit
  | .ack => .ok ()
  | .fatal reason => .error (.fatal reason)

def classifyCommandHeartbeatReply (data : List UInt8) : CommandHeartbeatOutcome :=
  match parseCommandControlReply data with
  | .error err => .fatal ("command heartbeat parse failed: " ++ conciseError err)
  | .ok .heartbeat => .ack
  | .ok .shutdown =>
    .fatal ("command control requested tunnel shutdown: " ++ NativeControlType.shutdown.label)
  | .ok .ipKick =>
    .fatal ("command control requested tunnel shutdown: " ++ NativeControlType.ipKick.label)
  | .ok control =>
    .fatal (s!"unexpected command heartbeat reply: {control.label}({control.code})")

/-- `COMMAND_HEARTBEAT_TIMEOUT`, ten seconds, in nanoseconds. -/
def commandHeartbeatTimeout : ℕ := 10 * 10 ^ 9

/-- What becomes of a heartbeat that has been sent. -/
def commandHeartbeatResult : Except EcError (List UInt8) → Except CommandHeartbeatFailure Unit
  | .error e => .error (.retryable ("command heartbeat read failed: " ++ conciseError e))
  | .ok [] => .error (.retryable "command heartbeat reply is empty or timed out")
  | .ok (byte :: bytes) => (classifyCommandHeartbeatReply (byte :: bytes)).intoResult

def sendCommandHeartbeat (stream : TlsStream) (token : Vector UInt8 protocolTokenLen) :
    Option (Except CommandHeartbeatFailure Unit × TlsStream) :=
  match stream.write (buildCommandMessage 3 token) with
  | .error e => some (.error (.retryable s!"command heartbeat write failed: {e}"), stream)
  | .ok () =>
    (readAtLeast commandReplyBodyExpectedLen 0x80 commandHeartbeatTimeout stream).map fun r ↦
      (commandHeartbeatResult r.1, r.2)

/-! ## Answers that come in pieces -/

/-- A body that begins with a code, or a frame. -/
def IsCommandReply (r : List UInt8) : Prop :=
  r.length = commandReplyBodyExpectedLen
    ∨ (r.length = nativeControlFrameLen ∧ nativeControlMagic <+: r)

theorem IsCommandReply.le_length {r : List UInt8} (h : IsCommandReply r) :
    commandReplyBodyExpectedLen ≤ r.length := by
  obtain hbody | ⟨hframe, -⟩ := h
  · exact hbody.ge
  · rw [hframe]
    decide

theorem IsCommandReply.length_le {r : List UInt8} (h : IsCommandReply r) : r.length ≤ 0x80 := by
  obtain hbody | ⟨hframe, -⟩ := h
  · rw [hbody]
    decide
  · rw [hframe]
    decide

section Split

variable {token : Vector UInt8 protocolTokenLen} {clock : ℕ}
  {write : List UInt8 → Except String Unit}

theorem sendCommandHeartbeat_written (hwrite : write (buildCommandMessage 3 token) = .ok ())
    (incoming : List Delivery) :
    sendCommandHeartbeat ⟨clock, write, incoming⟩ token
      = (readAtLeast commandReplyBodyExpectedLen 0x80 commandHeartbeatTimeout
          ⟨clock, write, incoming⟩).map fun r ↦ (commandHeartbeatResult r.1, r.2) := by
  rw [sendCommandHeartbeat]
  dsimp only
  rw [hwrite]

/-- What is taken of an answer that arrives in time decides the result. -/
theorem sendCommandHeartbeat_arrives (hwrite : write (buildCommandMessage 3 token) = .ok ())
    {ds : List Delivery} (hds : ∀ d ∈ ds, ArrivesBy (clock + commandHeartbeatTimeout) d)
    (hr : IsCommandReply (unread ds)) (rest : List Delivery) :
    ∃ ds₁ ds₂ clock', ds = ds₁ ++ ds₂
      ∧ sendCommandHeartbeat ⟨clock, write, ds ++ rest⟩ token
        = some (commandHeartbeatResult (.ok (unread ds₁)), ⟨clock', write, ds₂ ++ rest⟩)
      ∧ commandReplyBodyExpectedLen ≤ (unread ds₁).length
      ∧ ∀ taken, taken <+: chunks ds → commandReplyBodyExpectedLen ≤ taken.flatten.length
        → (unread ds₁).length ≤ taken.flatten.length := by
  have hclock : clock < clock + commandHeartbeatTimeout := Nat.lt_add_of_pos_right (by decide)
  have hshortest : TakesShortest commandReplyBodyExpectedLen 0x80 (clock + commandHeartbeatTimeout)
      ds rest clock [] := takesShortest_of_arrives hds rest hclock hr.le_length hr.length_le
  obtain ⟨ds₁, ds₂, clock', hsplit, hread, henough, hleast⟩ := hshortest
  refine ⟨ds₁, ds₂, clock', hsplit, ?_, henough, hleast⟩
  rw [sendCommandHeartbeat_written hwrite, readAtLeast, hread]
  rfl

/-- An answer that arrives in a single read. -/
theorem sendCommandHeartbeat_whole (hwrite : write (buildCommandMessage 3 token) = .ok ())
    {r : List UInt8} (hr : IsCommandReply r) (t : ℕ) (rest : List Delivery) :
    sendCommandHeartbeat ⟨clock, write, ⟨t, .ok r⟩ :: rest⟩ token
      = some (commandHeartbeatResult (.ok r), ⟨max clock t, write, rest⟩) := by
  have hne : r ≠ [] := by
    rintro rfl
    exact absurd hr.le_length (by decide)
  have hloop : ([] : List UInt8).length < commandReplyBodyExpectedLen
      ∧ ([] : List UInt8).length < 0x80 ∧ clock < clock + commandHeartbeatTimeout :=
    ⟨by decide, by decide, Nat.lt_add_of_pos_right (by decide)⟩
  rw [sendCommandHeartbeat_written hwrite, readAtLeast,
    readAtLeastLoop_ok rfl hne hloop hr.length_le, List.nil_append,
    readAtLeastLoop_enough hr.le_length]
  rfl

/-- **When the split of an answer makes no difference**: the reads never stop short of the answer
with enough bytes for a body. -/
theorem sendCommandHeartbeat_split_iff
    (hwrite : write (buildCommandMessage 3 token) = .ok ()) {r : List UInt8}
    (hr : IsCommandReply r) {ds : List Delivery}
    (hds : ∀ d ∈ ds, ArrivesBy (clock + commandHeartbeatTimeout) d) (hunread : unread ds = r)
    (t : ℕ) (rest : List Delivery) :
    (∃ result stream stream',
      sendCommandHeartbeat ⟨clock, write, ds ++ rest⟩ token = some (result, stream)
        ∧ sendCommandHeartbeat ⟨clock, write, ⟨t, .ok r⟩ :: rest⟩ token
          = some (result, stream')
        ∧ unread stream.incoming = unread rest ∧ unread stream'.incoming = unread rest)
      ↔ ∀ taken, taken <+: chunks ds
        → taken.flatten.length < commandReplyBodyExpectedLen ∨ taken.flatten = r := by
  obtain ⟨ds₁, ds₂, clock', rfl, hsend, henough, hleast⟩ :=
    sendCommandHeartbeat_arrives hwrite hds (hunread ▸ hr) rest
  have hwhole : sendCommandHeartbeat ⟨clock, write, ⟨t, .ok r⟩ :: rest⟩ token
      = some (commandHeartbeatResult (.ok r), ⟨max clock t, write, rest⟩) :=
    sendCommandHeartbeat_whole hwrite hr t rest
  rw [unread_append] at hunread
  constructor
  · rintro ⟨result, stream, stream', hpieces, -, hrest, -⟩ taken hprefix
    obtain ⟨-, rfl⟩ := Prod.mk.inj (Option.some.inj (hsend.symm.trans hpieces))
    -- nothing of the answer is left, so all of it has been taken
    rw [unread_append, List.append_left_eq_self] at hrest
    rw [hrest, List.append_nil] at hunread
    by_cases htaken : taken.flatten.length < commandReplyBodyExpectedLen
    · exact .inl htaken
    · have hle : taken.flatten <+: r := by
        rw [← hunread, ← List.append_nil (unread ds₁), ← hrest, ← unread_append]
        exact List.IsPrefix.flatten hprefix
      rw [← hunread] at hle ⊢
      exact .inr (hle.eq_of_length_le (hleast taken hprefix (not_lt.mp htaken)))
  · intro hcut
    have hall : unread ds₁ = r := by
      refine (hcut (chunks ds₁) ?_).resolve_left (not_lt.mpr henough)
      rw [chunks_append]
      exact List.prefix_append ..
    have hnone : unread ds₂ = [] := by
      rwa [hall, List.append_right_eq_self] at hunread
    rw [hall] at hsend
    refine ⟨_, _, _, hsend, hwhole, ?_, rfl⟩
    rw [unread_append, hnone, List.nil_append]

end Split

/-- An acknowledgement in a frame of 40 bytes. -/
def heartbeatFrame : List UInt8 := nativeControlMagic ++ toLeBytes 15 ++ List.replicate 32 0

/-- The frame in two reads, of which the first ends where a body would end. -/
def cutFrame : List Delivery :=
  [⟨1, .ok (heartbeatFrame.take 36)⟩, ⟨2, .ok (heartbeatFrame.drop 36)⟩]

theorem arrivesBy_cutFrame (d : Delivery) (hd : d ∈ cutFrame) :
    ArrivesBy (0 + commandHeartbeatTimeout) d := by
  rw [cutFrame, List.mem_pair] at hd
  obtain rfl | rfl := hd <;> exact ⟨by decide, .inl ⟨_, rfl, by decide⟩⟩

/-- The frame cut where nothing could end, with a read in between that finds nothing. -/
def pausedFrame : List Delivery :=
  [⟨1, .ok (heartbeatFrame.take 20)⟩, ⟨2, .error ⟨.wouldBlock, "try again"⟩⟩,
    ⟨3, .ok (heartbeatFrame.drop 20)⟩]

theorem sendCommandHeartbeat_split_iff_pausedFrame :
    ∃ result stream stream',
      sendCommandHeartbeat ⟨0, fun _ ↦ .ok (), pausedFrame ++ []⟩ (.replicate _ 0x61)
          = some (result, stream)
        ∧ sendCommandHeartbeat ⟨0, fun _ ↦ .ok (), [⟨3, .ok heartbeatFrame⟩]⟩ (.replicate _ 0x61)
          = some (result, stream')
        ∧ unread stream.incoming = unread [] ∧ unread stream'.incoming = unread [] := by
  have harrives : ∀ d ∈ pausedFrame, ArrivesBy (0 + commandHeartbeatTimeout) d := by
    intro d hd
    simp only [pausedFrame, List.mem_cons, List.not_mem_nil, or_false] at hd
    obtain rfl | rfl | rfl := hd
    · exact ⟨by decide, .inl ⟨_, rfl, by decide⟩⟩
    · exact ⟨by decide, .inr ⟨_, rfl, by decide⟩⟩
    · exact ⟨by decide, .inl ⟨_, rfl, by decide⟩⟩
  have hpieces : ∀ taken ∈ (chunks pausedFrame).inits,
      taken.flatten.length < commandReplyBodyExpectedLen ∨ taken.flatten = heartbeatFrame := by
    decide
  refine (sendCommandHeartbeat_split_iff rfl (.inr (by decide)) harrives (by decide) 3 []).mpr ?_
  intro taken hprefix
  exact hpieces taken ((List.mem_inits _ _).mpr hprefix)

/-- **A healthy heartbeat that is taken for an invalid one**, four bytes of it left for the next. -/
theorem sendCommandHeartbeat_cutFrame :
    IsCommandReply heartbeatFrame ∧ unread cutFrame = heartbeatFrame
      ∧ (∀ d ∈ cutFrame, ArrivesBy (0 + commandHeartbeatTimeout) d)
      ∧ (∃ reason stream,
        sendCommandHeartbeat ⟨0, fun _ ↦ .ok (), cutFrame⟩ (.replicate _ 0x61)
            = some (.error (.fatal reason), stream)
          ∧ unread stream.incoming = [0, 0, 0, 0])
      ∧ ∃ stream,
        sendCommandHeartbeat ⟨0, fun _ ↦ .ok (), [⟨2, .ok heartbeatFrame⟩]⟩ (.replicate _ 0x61)
          = some (.ok (), stream) := by
  exact ⟨.inr (by decide), by decide, arrivesBy_cutFrame, ⟨_, _, rfl, by decide⟩, ⟨_, rfl⟩⟩

end ShiepPipeline
