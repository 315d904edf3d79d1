import Mathlib.Order.Basic
import ShiepPipeline.Concurrency.Fallible
import ShiepPipeline.Tunnel.CommandHeartbeat

/-!
# When the command heartbeat gives up

`commandHeartbeatLoop` sends a heartbeat, waits, and sends the next. Failures that may pass are
counted, and the loop ends at the third in a row or at one that cannot pass.

`commandHeartbeatLoop_gives_up` says where the loop ends for every sequence of results, and which
answers of the server lead to which result.
-/

/-! ## Streaks -/

section Streak

variable (p : ℕ → Prop) [DecidablePred p]

/-- The number of positions in a row directly before `n` at which `p` holds. -/
def streak : ℕ → ℕ
  | 0 => 0
  | n + 1 => if p n then streak n + 1 else 0

variable {p} {n : ℕ}

theorem streak_succ_of_pos (h : p n) : streak p (n + 1) = streak p n + 1 := if_pos h

theorem streak_succ_of_neg (h : ¬p n) : streak p (n + 1) = 0 := if_neg h

/-- A streak of at least `m` that ends with `n`. -/
theorem le_streak_succ_iff {m : ℕ} :
    m ≤ streak p (n + 1) ↔ m ≤ n + 1 ∧ ∀ i < m, p (n - i) := by
  induction n generalizing m with
  | zero =>
    by_cases h : p 0
    · rw [streak_succ_of_pos h, streak]
      exact ⟨fun hm ↦ ⟨hm, fun i _ ↦ by rwa [Nat.zero_sub]⟩, And.left⟩
    · rw [streak_succ_of_neg h]
      refine ⟨fun hm ↦ ⟨by omega, fun i hi ↦ by omega⟩, fun ⟨_, hall⟩ ↦ ?_⟩
      by_contra hm
      exact h (hall 0 (by omega))
  | succ n ih =>
    obtain _ | m := m
    · simp
    rw [Nat.forall_lt_succ_left]
    by_cases h : p (n + 1)
    · rw [streak_succ_of_pos h, Nat.add_le_add_iff_right, ih, Nat.add_le_add_iff_right]
      simp only [Nat.sub_zero, h, Nat.add_sub_add_right, true_and]
    · rw [streak_succ_of_neg h]
      exact ⟨fun hm ↦ by omega, fun hall ↦ absurd hall.2.1 h⟩

end Streak

open Program
open Program.Fallible (attempt lift passes passes_succ_ok passes_error_of_le)

namespace ShiepPipeline

/-! ## The loop -/

/-- The calls of the loop. The three in the middle look at `COMMAND_STREAM_HOLDER`. -/
inductive CommandOp
  /-- `thread::sleep(delay)`. -/
  | sleep (delay : ℕ)
  /-- `COMMAND_STREAM_HOLDER.get()`. -/
  | get
  /-- `holder.lock()`. -/
  | lock
  /-- `guard.as_mut()`. -/
  | asMut
  /-- `send_command_heartbeat(stream, &token)`. -/
  | sendCommandHeartbeat
deriving DecidableEq

abbrev CommandAns : CommandOp → Type
  | .sleep _ => Unit
  | .get => Except Unit Unit
  | .lock => Except Unit Unit
  | .asMut => Except Unit Unit
  | .sendCommandHeartbeat => Except CommandHeartbeatFailure Unit

/-- `COMMAND_HEARTBEAT_INTERVAL`, 30 seconds, in nanoseconds. -/
def commandHeartbeatInterval : ℕ := 30 * 10 ^ 9

/-- `COMMAND_HEARTBEAT_RETRY_DELAY`, one second. -/
def commandHeartbeatRetryDelay : ℕ := 10 ^ 9

/-- `COMMAND_HEARTBEAT_FAILURE_LIMIT`. -/
def commandHeartbeatFailureLimit : ℕ := 3

structure CommandLoop where
  failureCount : ℕ
  nextDelay : ℕ
deriving DecidableEq, Repr

/-- The part of a pass that looks at the result of the heartbeat. -/
def CommandLoop.settle (loop : CommandLoop) :
    Except CommandHeartbeatFailure Unit → Except EcError CommandLoop
  | .ok () => .ok ⟨0, commandHeartbeatInterval⟩
  | .error (.retryable reason) =>
    let failureCount := loop.failureCount + 1
    if commandHeartbeatFailureLimit ≤ failureCount then
      .error (.runtime ("command heartbeat reached failure limit "
        ++ s!"({failureCount}/{commandHeartbeatFailureLimit}): {reason}"))
    else .ok ⟨failureCount, commandHeartbeatRetryDelay⟩
  | .error (.fatal reason) => .error (.runtime reason)

/-- One pass of `command_heartbeat_loop`. -/
def commandHeartbeatLoop (loop : CommandLoop) : Fallible EcError CommandOp CommandAns CommandLoop :=
    do
  lift (perform (CommandOp.sleep loop.nextDelay))
  attempt (perform CommandOp.get) fun _ ↦ .runtime "command stream is not initialized"
  attempt (perform CommandOp.lock) fun _ ↦ .runtime "command stream holder mutex poisoned"
  attempt (perform CommandOp.asMut) fun _ ↦ .runtime "command stream is not available"
  let result ← lift (perform CommandOp.sendCommandHeartbeat)
  ofExcept (loop.settle result)

/-- The loop before its first pass. -/
def commandHeartbeatStart : CommandLoop := ⟨0, commandHeartbeatInterval⟩

/-! ## A command stream that is held -/

/-- How long the loop slept each time, and how many heartbeats it has sent. -/
structure CommandWorld where
  slept : List ℕ
  sent : ℕ
deriving DecidableEq, Repr

/-- A stream is held, its mutex is not poisoned, and heartbeat `n` comes to `outcome n`. -/
def heldStream (outcome : ℕ → Except CommandHeartbeatFailure Unit) :
    Handler CommandOp CommandAns CommandWorld
  | .sleep delay, w => ((), { w with slept := w.slept ++ [delay] })
  | .get, w => (.ok (), w)
  | .lock, w => (.ok (), w)
  | .asMut, w => (.ok (), w)
  | .sendCommandHeartbeat, w => (outcome w.sent, { w with sent := w.sent + 1 })

/-- The loop after a number of passes. -/
def commandHeartbeatPasses (outcome : ℕ → Except CommandHeartbeatFailure Unit) :
    ℕ → Except EcError CommandLoop × CommandWorld :=
  passes (heldStream outcome) commandHeartbeatLoop commandHeartbeatStart ⟨[], 0⟩

def IsRetryable : Except CommandHeartbeatFailure Unit → Prop
  | .error (.retryable _) => True
  | _ => False

instance : DecidablePred IsRetryable
  | .ok () => .isFalse not_false
  | .error (.retryable _) => .isTrue trivial
  | .error (.fatal _) => .isFalse not_false

section Outcomes

variable (outcome : ℕ → Except CommandHeartbeatFailure Unit)

/-- Heartbeat `k` is fatal, or the last of three in a row that failed and may be retried. -/
def GivesUp (k : ℕ) : Prop :=
  (∃ reason, outcome k = .error (.fatal reason))
    ∨ commandHeartbeatFailureLimit ≤ k + 1
      ∧ ∀ i < commandHeartbeatFailureLimit, IsRetryable (outcome (k - i))

/-- The error of the loop that gives up. -/
def giveUpError : CommandHeartbeatFailure → EcError
  | .retryable reason =>
    .runtime ("command heartbeat reached failure limit "
      ++ s!"({commandHeartbeatFailureLimit}/{commandHeartbeatFailureLimit}): {reason}")
  | .fatal reason => .runtime reason

/-- One second directly after a failure that may be retried, and 30 seconds otherwise. -/
def delayBefore : ℕ → ℕ
  | 0 => commandHeartbeatInterval
  | k + 1 =>
    if IsRetryable (outcome k) then commandHeartbeatRetryDelay else commandHeartbeatInterval

/-- The failures that are counted before heartbeat `k`: those since the last success. -/
def failuresBefore (k : ℕ) : ℕ := streak (fun k ↦ IsRetryable (outcome k)) k

variable {outcome} {k n : ℕ}

theorem failuresBefore_succ_of_retryable (h : IsRetryable (outcome k)) :
    failuresBefore outcome (k + 1) = failuresBefore outcome k + 1 :=
  streak_succ_of_pos h

theorem failuresBefore_succ_of_not_retryable (h : ¬IsRetryable (outcome k)) :
    failuresBefore outcome (k + 1) = 0 :=
  streak_succ_of_neg h

theorem givesUp_iff :
    GivesUp outcome k ↔ (∃ reason, outcome k = .error (.fatal reason))
      ∨ commandHeartbeatFailureLimit ≤ failuresBefore outcome (k + 1) := by
  rw [GivesUp, failuresBefore, le_streak_succ_iff]

theorem failuresBefore_lt (h : ∀ j < k, ¬GivesUp outcome j) :
    failuresBefore outcome k < commandHeartbeatFailureLimit := by
  obtain _ | j := k
  · exact Nat.zero_lt_succ 2
  · have hj : ¬GivesUp outcome j := h j (Nat.lt_succ_self j)
    rw [givesUp_iff] at hj
    exact not_le.mp fun hle ↦ hj (.inr hle)

/-- A pass that does not give up. -/
theorem settle_of_not_givesUp (h : ¬GivesUp outcome k) (delay : ℕ) :
    CommandLoop.settle ⟨failuresBefore outcome k, delay⟩ (outcome k)
      = .ok ⟨failuresBefore outcome (k + 1), delayBefore outcome (k + 1)⟩ := by
  rw [givesUp_iff] at h
  rw [delayBefore]
  rcases hk : outcome k with (reason | reason) | done
  · have hretry : IsRetryable (outcome k) := hk ▸ trivial
    have hsucc : failuresBefore outcome (k + 1) = failuresBefore outcome k + 1 :=
      failuresBefore_succ_of_retryable hretry
    rw [if_pos (hk ▸ hretry), hsucc, CommandLoop.settle]
    exact if_neg fun hle ↦ h (.inr (hsucc ▸ hle))
  · exact absurd (.inl ⟨reason, hk⟩) h
  · have hretry : ¬IsRetryable (outcome k) := hk ▸ not_false
    rw [if_neg (hk ▸ hretry), failuresBefore_succ_of_not_retryable hretry, CommandLoop.settle]

/-- The pass that gives up, with the error it gives up with. -/
theorem settle_of_givesUp (h : GivesUp outcome k) (hbefore : ∀ j < k, ¬GivesUp outcome j)
    (delay : ℕ) :
    ∃ failure, outcome k = .error failure
      ∧ CommandLoop.settle ⟨failuresBefore outcome k, delay⟩ (outcome k)
        = .error (giveUpError failure) := by
  have hlt : failuresBefore outcome k < commandHeartbeatFailureLimit := failuresBefore_lt hbefore
  obtain ⟨reason, hfatal⟩ | hlimit := givesUp_iff.mp h
  · exact ⟨.fatal reason, hfatal, by rw [hfatal, CommandLoop.settle, giveUpError]⟩
  · rcases hk : outcome k with (reason | reason) | done
    · -- the count was below the limit before, so it is at the limit now
      have hsucc : failuresBefore outcome (k + 1) = failuresBefore outcome k + 1 :=
        failuresBefore_succ_of_retryable (hk ▸ trivial)
      have hcount : failuresBefore outcome k + 1 = commandHeartbeatFailureLimit := by omega
      refine ⟨.retryable reason, rfl, ?_⟩
      simp only [CommandLoop.settle, hcount, le_refl, if_true, giveUpError]
    · exact ⟨.fatal reason, rfl, by rw [CommandLoop.settle, giveUpError]⟩
    · have hretry : ¬IsRetryable (outcome k) := hk ▸ not_false
      rw [failuresBefore_succ_of_not_retryable hretry] at hlimit
      exact absurd hlimit (by decide)

/-! ## The loop's run -/

/-- A pass with a stream that is held. -/
theorem commandHeartbeatLoop_held (loop : CommandLoop) (w : CommandWorld) :
    (commandHeartbeatLoop loop).run.run (heldStream outcome) w
      = (loop.settle (outcome w.sent), ⟨w.slept ++ [loop.nextDelay], w.sent + 1⟩) := by
  change (ofExcept (loop.settle (outcome w.sent))
    : Fallible EcError CommandOp CommandAns CommandLoop).run.run (heldStream outcome) _ = _
  cases loop.settle (outcome w.sent) <;> rfl

/-- The delays before the first `n` heartbeats. -/
def delays (outcome : ℕ → Except CommandHeartbeatFailure Unit) (n : ℕ) : List ℕ :=
  (List.range n).map (delayBefore outcome)

theorem delays_succ (outcome : ℕ → Except CommandHeartbeatFailure Unit) (n : ℕ) :
    delays outcome (n + 1) = delays outcome n ++ [delayBefore outcome n] := by
  rw [delays, List.range_succ, List.map_append, List.map_singleton, delays]

/-- Before a heartbeat at which it gives up, the loop never returns. -/
theorem commandHeartbeatPasses_goesOn (h : ∀ k < n, ¬GivesUp outcome k) :
    commandHeartbeatPasses outcome n
      = (.ok ⟨failuresBefore outcome n, delayBefore outcome n⟩, ⟨delays outcome n, n⟩) := by
  induction n with
  | zero => rfl
  | succ n ih =>
    have hn : commandHeartbeatPasses outcome n = _ :=
      ih fun k hk ↦ h k (Nat.lt_succ_of_lt hk)
    rw [commandHeartbeatPasses, passes_succ_ok hn, commandHeartbeatLoop_held]
    dsimp only
    rw [settle_of_not_givesUp (h n (Nat.lt_succ_self n)), delays_succ]

/-- At the first heartbeat at which it gives up the loop returns, and makes no further calls. -/
theorem commandHeartbeatPasses_givesUp (h : GivesUp outcome k)
    (hbefore : ∀ j < k, ¬GivesUp outcome j) :
    ∃ failure, outcome k = .error failure ∧ ∀ n, k < n →
      commandHeartbeatPasses outcome n
        = (.error (giveUpError failure), ⟨delays outcome (k + 1), k + 1⟩) := by
  have hk : commandHeartbeatPasses outcome k = _ := commandHeartbeatPasses_goesOn hbefore
  obtain ⟨failure, hfailure, hsettle⟩ := settle_of_givesUp h hbefore (delayBefore outcome k)
  refine ⟨failure, hfailure, fun n hn ↦ passes_error_of_le ?_ (Nat.succ_le_of_lt hn)⟩
  rw [passes_succ_ok hk, commandHeartbeatLoop_held]
  dsimp only
  rw [hsettle, delays_succ]

end Outcomes

/-! ## Answers of the server -/

theorem classifyCommandHeartbeatReply_eq_ack_iff {data : List UInt8} :
    classifyCommandHeartbeatReply data = .ack
      ↔ parseCommandControlReply data = .ok .heartbeat := by
  rw [classifyCommandHeartbeatReply]
  split <;> simp_all

/-- What the bytes of an answer lead to, be there a control in them or not. -/
def Classifies (bytes : List UInt8) (result : Except CommandHeartbeatFailure Unit) : Prop :=
  (result = .ok () ↔ parseCommandControlReply bytes = .ok .heartbeat)
    ∧ ((∃ reason, result = .error (.retryable reason)) ↔ bytes = [])
    ∧ ((∃ reason, result = .error (.fatal reason))
      ↔ bytes ≠ [] ∧ parseCommandControlReply bytes ≠ .ok .heartbeat)

theorem classifies_commandHeartbeatResult (bytes : List UInt8) :
    Classifies bytes (commandHeartbeatResult (.ok bytes)) := by
  obtain _ | ⟨byte, bytes⟩ := bytes
  · have hshort : parseCommandControlReply [] ≠ .ok .heartbeat := by decide
    simp [Classifies, commandHeartbeatResult, hshort]
  · have hack : classifyCommandHeartbeatReply (byte :: bytes) = .ack
        ↔ parseCommandControlReply (byte :: bytes) = .ok .heartbeat :=
      classifyCommandHeartbeatReply_eq_ack_iff
    simp only [Classifies, commandHeartbeatResult, ne_eq, ← hack]
    cases classifyCommandHeartbeatReply (byte :: bytes) <;>
      simp [CommandHeartbeatOutcome.intoResult]

/-- An answer that has been read decides the result of the heartbeat. -/
theorem sendCommandHeartbeat_read {stream stream' : TlsStream}
    {token : Vector UInt8 protocolTokenLen} {bytes : List UInt8}
    (hwrite : stream.write (buildCommandMessage 3 token) = .ok ())
    (hread : readAtLeast commandReplyBodyExpectedLen 0x80 commandHeartbeatTimeout stream
      = some (.ok bytes, stream')) :
    ∃ result, sendCommandHeartbeat stream token = some (result, stream')
      ∧ Classifies bytes result := by
  obtain ⟨clock, write, incoming⟩ := stream
  refine ⟨_, ?_, classifies_commandHeartbeatResult bytes⟩
  rw [sendCommandHeartbeat_written hwrite, hread]
  rfl

/-- **The loop gives up exactly when it should**: at the first heartbeat that is fatal or the third
in a row to fail, after a delay that depends on the heartbeat before. -/
theorem commandHeartbeatLoop_gives_up (outcome : ℕ → Except CommandHeartbeatFailure Unit) :
    (∀ n, (∀ k < n, ¬GivesUp outcome k) →
      commandHeartbeatPasses outcome n
        = (.ok ⟨failuresBefore outcome n, delayBefore outcome n⟩, ⟨delays outcome n, n⟩))
    ∧ (∀ k, GivesUp outcome k → (∀ j < k, ¬GivesUp outcome j) →
      ∃ failure, outcome k = .error failure ∧ ∀ n, k < n →
        commandHeartbeatPasses outcome n
          = (.error (giveUpError failure), ⟨delays outcome (k + 1), k + 1⟩))
    ∧ (∀ k, outcome k = .ok () → failuresBefore outcome (k + 1) = 0)
    ∧ ∀ (stream stream' : TlsStream) (token : Vector UInt8 protocolTokenLen) (bytes : List UInt8),
      stream.write (buildCommandMessage 3 token) = .ok () →
      readAtLeast commandReplyBodyExpectedLen 0x80 commandHeartbeatTimeout stream
        = some (.ok bytes, stream') →
      ∃ result, sendCommandHeartbeat stream token = some (result, stream')
        ∧ Classifies bytes result := by
  refine ⟨fun n h ↦ commandHeartbeatPasses_goesOn h,
    fun k h hbefore ↦ commandHeartbeatPasses_givesUp h hbefore, fun k hk ↦ ?_,
    fun _ _ _ _ hwrite hread ↦ sendCommandHeartbeat_read hwrite hread⟩
  have hretry : ¬IsRetryable (outcome k) := hk ▸ not_false
  exact failuresBefore_succ_of_not_retryable hretry

/-- Two failures, a success, and failures ever after. -/
def flakyOutcome (k : ℕ) : Except CommandHeartbeatFailure Unit :=
  if k = 2 then .ok () else .error (.retryable "timed out")

/-- The success starts the count anew, and the sixth heartbeat is the last. -/
theorem commandHeartbeatLoop_gives_up_flaky :
    commandHeartbeatPasses flakyOutcome 6
      = (.error (.runtime "command heartbeat reached failure limit (3/3): timed out"),
        ⟨[30, 1, 1, 30, 1, 1].map (· * 10 ^ 9), 6⟩) := by
  have hlast : GivesUp flakyOutcome 5 := by
    refine .inr ⟨by decide, ?_⟩
    decide
  have hbefore : ∀ j < 5, ¬GivesUp flakyOutcome j := by
    intro j hj
    rw [givesUp_iff]
    rintro (⟨reason, hreason⟩ | hlimit)
    · rw [flakyOutcome] at hreason
      split_ifs at hreason
      cases hreason
    · revert j
      decide
  obtain ⟨failure, hfailure, hpasses⟩ :=
    (commandHeartbeatLoop_gives_up flakyOutcome).2.1 5 hlast hbefore
  obtain rfl : failure = .retryable "timed out" := (Except.error.inj hfailure).symm
  exact (hpasses 6 (by decide)).trans rfl

end ShiepPipeline
