import ShiepPipeline.Concurrency.Condvar
import ShiepPipeline.Tunnel.StreamOpen

/-!
# The reason the tunnel closed

The workers, the command heartbeat and the netstack run in threads of their own. The first of them
to fail leaves a reason behind a lock, and the thread that serves the clients waits for it. Starting
the tunnel clears the reason of the time before.

`waitTunnelFatalReason_first` says which reason a call gets in whatever order the threads come:
the one recorded first since the last clear. `waitTunnelFatalReason_returns` says that nobody waits
for a reason that is there.
-/

open Program Condvar

namespace ShiepPipeline

/-! ## What the threads leave behind -/

def workerExitDetail (profile : StreamProfile) : Except EcError Unit → String
  | .ok () => s!"stream closed: {profile.label}; reason: exited unexpectedly"
  | .error err => s!"stream closed: {profile.label}; reason: {conciseError err}"

/-- What `start_command_heartbeat` makes of the error its loop ended with. -/
def commandExitDetail (err : EcError) : String :=
  s!"stream closed: command; reason: {conciseError err}"

/-- What `start_runtime` makes of the error the netstack ended with. -/
def netstackExitDetail (err : EcError) : String := s!"netstack closed: {conciseError err}"

/-! ## The calls -/

inductive FatalCall
  /-- `record_tunnel_fatal_reason`. -/
  | record (reason : String)
  /-- `clear_tunnel_fatal_reason`. -/
  | clear
  /-- `tunnel_fatal_reason`. -/
  | current
  /-- `wait_tunnel_fatal_reason`. -/
  | wait
deriving DecidableEq, Repr

inductive FatalResult
  | done
  | current (reason : Option String)
  | reason (reason : String)
deriving DecidableEq, Repr

abbrev FatalCode := Program (Op (Option String)) Ans (Option FatalResult)

def recordTunnelFatalReason (reason : String) : FatalCode := do
  let guard ← perform Op.read
  if guard.isNone then
    perform (Op.write (some reason))
    perform Op.notifyAll
  return some .done

def clearTunnelFatalReason : FatalCode := do
  perform (Op.write none)
  return some .done

def tunnelFatalReason : FatalCode := do
  let guard ← perform Op.read
  return some (.current guard)

def waitTunnelFatalReason : FatalCode := do
  match ← perform Op.read with
  | some reason => return some (.reason reason)
  | none => return none

/-- `handle_worker_exit`. -/
def handleWorkerExit (profile : StreamProfile) (result : Except EcError Unit) : FatalCall :=
  .record (workerExitDetail profile result)

/-- `record_runtime_fatal`. -/
def recordRuntimeFatal (reason : String) : FatalCall := .record reason

def FatalCall.code : FatalCall → FatalCode
  | .record reason => recordTunnelFatalReason reason
  | .clear => clearTunnelFatalReason
  | .current => tunnelFatalReason
  | .wait => waitTunnelFatalReason

/-- The reason, and what the threads want with it. -/
abbrev FatalState (Client : Type) := Condvar.State Client FatalCall (Option String) FatalResult

/-- The states that the calls of any number of threads lead to, in any order. -/
def FatalState.Reachable {Client : Type} [DecidableEq Client] (s : FatalState Client) : Prop :=
  Condvar.Reachable FatalCall.code none s

/-! ## One call after another -/

/-- What a call does when it has the lock to itself. -/
def FatalCall.effect : FatalCall → Option String → FatalResult → Option String → Prop
  | .record reason, v, r, v' => r = .done ∧ v' = v.or (some reason)
  | .clear, _, r, v' => r = .done ∧ v' = none
  | .current, v, r, v' => r = .current v ∧ v' = v
  | .wait, v, r, v' => v = v' ∧ ∃ reason, v' = some reason ∧ r = .reason reason

theorem sound_code : Sound FatalCall.code (· ≠ none) FatalCall.effect := by
  rintro (reason | _ | _ | _) v
  · refine .read ?_
    cases v with
    | none => exact .write (.notifyAll (.leave (fun _ ↦ rfl) ⟨rfl, rfl⟩))
    | some first => exact .leave (fun _ ↦ rfl) ⟨rfl, rfl⟩
  · exact .write (.leave (absurd rfl) ⟨rfl, rfl⟩)
  · exact .read (.leave (fun _ ↦ rfl) ⟨rfl, rfl⟩)
  · refine .read ?_
    cases v with
    | none => exact .wait (absurd rfl)
    | some reason => exact .leave (fun _ ↦ rfl) ⟨rfl, reason, rfl, rfl⟩

abbrev FatalHistory (Client : Type) := List (Return Client FatalCall FatalResult)

variable {Client : Type}

/-- The reason that is left after some calls. -/
def recordedAfter (t : FatalHistory Client) : Option String :=
  t.foldl (fun v x ↦
    match x.req with
    | .record reason => v.or (some reason)
    | .clear => none
    | .current => v
    | .wait => v) none

/-- Whatever has been recorded has been cleared since. -/
def NothingRecorded (t : FatalHistory Client) : Prop :=
  ∀ t₁ x t₂ reason, t = t₁ ++ x :: t₂ → x.req = .record reason → ∃ y ∈ t₂, y.req = .clear

/-- The reason was recorded when nothing was, and nothing has been cleared since. -/
def FirstRecorded (t : FatalHistory Client) (reason : String) : Prop :=
  ∃ t₁ x t₂, t = t₁ ++ x :: t₂ ∧ x.req = .record reason ∧ NothingRecorded t₁
    ∧ ∀ y ∈ t₂, y.req ≠ .clear

section Recorded

variable {t : FatalHistory Client} {x : Return Client FatalCall FatalResult} {reason : String}

theorem nothingRecorded_append_record (hx : x.req = .record reason) :
    ¬ NothingRecorded (t ++ [x]) := by
  intro h
  obtain ⟨y, hy, -⟩ := h t x [] reason rfl hx
  exact absurd hy List.not_mem_nil

theorem nothingRecorded_append_clear (hx : x.req = .clear) : NothingRecorded (t ++ [x]) := by
  intro t₁ y t₂ reason ht hy
  rcases last_or_before ht with ⟨-, rfl⟩ | ⟨t₂, rfl, -⟩
  · rw [hx] at hy
    cases hy
  · exact ⟨x, by simp, hx⟩

/-- A call that only looks leaves what has been recorded. -/
theorem nothingRecorded_append_iff (hrecord : ∀ reason, x.req ≠ .record reason)
    (hclear : x.req ≠ .clear) : NothingRecorded (t ++ [x]) ↔ NothingRecorded t := by
  constructor
  · rintro h t₁ y t₂ reason rfl hy
    obtain ⟨z, hz, hzclear⟩ := h t₁ y (t₂ ++ [x]) reason (by simp) hy
    rcases List.mem_append.mp hz with hz | hz
    · exact ⟨z, hz, hzclear⟩
    · rw [List.mem_singleton.mp hz] at hzclear
      exact absurd hzclear hclear
  · intro h t₁ y t₂ reason ht hy
    rcases last_or_before ht with ⟨-, rfl⟩ | ⟨t₂, rfl, rfl⟩
    · exact absurd hy (hrecord reason)
    · obtain ⟨z, hz, hzclear⟩ := h t₁ y t₂ reason rfl hy
      exact ⟨z, List.mem_append_left _ hz, hzclear⟩

theorem recordedAfter_append (t : FatalHistory Client) (x : Return Client FatalCall FatalResult) :
    recordedAfter (t ++ [x]) = match x.req with
      | .record reason => (recordedAfter t).or (some reason)
      | .clear => none
      | .current => recordedAfter t
      | .wait => recordedAfter t := by
  rw [recordedAfter, List.foldl_append]
  rfl

theorem recordedAfter_eq_none_iff (t : FatalHistory Client) :
    recordedAfter t = none ↔ NothingRecorded t := by
  induction t using List.reverseRecOn with
  | nil => exact iff_of_true rfl fun _ _ _ _ h ↦ absurd h (by simp)
  | append_singleton t x ih =>
    rw [recordedAfter_append]
    cases hx : x.req with
    | record reason =>
      refine iff_of_false ?_ (nothingRecorded_append_record hx)
      cases recordedAfter t <;> nofun
    | clear => exact iff_of_true rfl (nothingRecorded_append_clear hx)
    | current | wait =>
      rw [nothingRecorded_append_iff (by rw [hx]; nofun) (by rw [hx]; nofun)]
      exact ih

theorem firstRecorded_append (h : FirstRecorded t reason) (hx : x.req ≠ .clear) :
    FirstRecorded (t ++ [x]) reason := by
  obtain ⟨t₁, y, t₂, rfl, hy, hnothing, hclear⟩ := h
  refine ⟨t₁, y, t₂ ++ [x], by simp, hy, hnothing, fun z hz ↦ ?_⟩
  rcases List.mem_append.mp hz with hz | hz
  · exact hclear z hz
  · rwa [List.mem_singleton.mp hz]

theorem firstRecorded_of_recordedAfter {t : FatalHistory Client} {reason : String}
    (h : recordedAfter t = some reason) : FirstRecorded t reason := by
  induction t using List.reverseRecOn with
  | nil => cases h
  | append_singleton t x ih =>
    rw [recordedAfter_append] at h
    cases hx : x.req with
    | record reason' =>
      rw [hx] at h
      cases ht : recordedAfter t with
      | none =>
        rw [ht] at h
        obtain rfl := Option.some.inj h
        exact ⟨t, x, [], rfl, hx, (recordedAfter_eq_none_iff t).mp ht, nofun⟩
      | some first =>
        rw [ht] at h
        exact firstRecorded_append (ih (ht.trans h)) (by rw [hx]; nofun)
    | clear =>
      rw [hx] at h
      cases h
    | current | wait =>
      rw [hx] at h
      exact firstRecorded_append (ih h) (by rw [hx]; nofun)

end Recorded

/-- The value that the calls lead to, worked off one after another. -/
theorem value_eq_recordedAfter {t : FatalHistory Client} {v : Option String}
    (h : Explained FatalCall.effect none t v) : v = recordedAfter t := by
  induction h with
  | nil => rfl
  | @snoc t v v' c req r _ heffect ih =>
    rw [recordedAfter_append, ← ih]
    cases req with
    | record reason => exact heffect.2
    | clear => exact heffect.2
    | current => exact heffect.2
    | wait => exact heffect.1.symm

/-- A result is right on what was recorded before it. -/
theorem FatalState.Reachable.effect [DecidableEq Client] {s : FatalState Client} (h : s.Reachable)
    {t t' : FatalHistory Client} {x : Return Client FatalCall FatalResult}
    (hs : s.returned = t ++ x :: t') :
    ∃ v, x.req.effect (recordedAfter t) x.result v := by
  obtain ⟨v, hv, -⟩ := (holds_of_reachable sound_code h).explained
  obtain ⟨v₁, v₂, hv₁, heffect⟩ := hv.of_append_cons hs
  rw [value_eq_recordedAfter hv₁] at heffect
  exact ⟨v₂, heffect⟩

/-- What is left in the reachable states, and what the calls got from it. -/
theorem recordedAfter_cases (t : FatalHistory Client) :
    (recordedAfter t = none ∧ NothingRecorded t)
      ∨ ∃ reason, recordedAfter t = some reason ∧ FirstRecorded t reason := by
  cases h : recordedAfter t with
  | none => exact .inl ⟨rfl, (recordedAfter_eq_none_iff t).mp h⟩
  | some reason => exact .inr ⟨reason, rfl, firstRecorded_of_recordedAfter h⟩

section Results

variable [DecidableEq Client] {s : FatalState Client}

/-- **The first reason stays.** In whatever order the calls come, one that waits gets the reason
that was recorded first since the last clear, one that looks gets the same or learns that there is
none, and that is also what is left while nobody has the lock. -/
theorem waitTunnelFatalReason_first (h : s.Reachable) :
    (∀ t c r t', s.returned = t ++ ⟨c, .wait, r⟩ :: t' →
        ∃ reason, r = .reason reason ∧ FirstRecorded t reason)
      ∧ (∀ t c r t', s.returned = t ++ ⟨c, .current, r⟩ :: t' →
        (r = .current none ∧ NothingRecorded t)
          ∨ ∃ reason, r = .current (some reason) ∧ FirstRecorded t reason)
      ∧ (s.inside = none → (s.value = none ∧ NothingRecorded s.returned)
          ∨ ∃ reason, s.value = some reason ∧ FirstRecorded s.returned reason) := by
  refine ⟨fun t c r t' ht ↦ ?_, fun t c r t' ht ↦ ?_, fun hfree ↦ ?_⟩
  · obtain ⟨v, hv, reason, rfl, hr⟩ := h.effect ht
    exact ⟨reason, hr, firstRecorded_of_recordedAfter hv⟩
  · obtain ⟨-, hr, -⟩ := h.effect ht
    rcases recordedAfter_cases t with ⟨hnone, hnothing⟩ | ⟨reason, hsome, hfirst⟩
    · exact .inl ⟨by rw [← hnone]; exact hr, hnothing⟩
    · exact .inr ⟨reason, by rw [← hsome]; exact hr, hfirst⟩
  · obtain ⟨v, hv, hvalue⟩ := (holds_of_reachable sound_code h).explained
    rw [← hvalue hfree, value_eq_recordedAfter hv]
    exact recordedAfter_cases s.returned

/-- One thread waits and falls asleep, and another records a reason. -/
theorem exists_reachable_two :
    ∃ waiting : Bool → Option (FatalCall × Bool), waiting true = some (.wait, false)
      ∧ FatalState.Reachable ⟨some "gone", none, waiting, [⟨false, .record "gone", .done⟩]⟩ := by
  have hstart : FatalState.Reachable (.initial none : FatalState Bool) := .refl
  have hinside := (hstart.tail (.call true .wait (by simp [State.Busy, State.initial]))).tail
    (.lock (c := true) rfl)
  have hasleep := (hinside.tail .read).tail .wait
  have hother := (hasleep.tail (.call false (.record "gone")
    (by simp [State.Busy, State.initial]))).tail (.lock (c := false) rfl)
  exact ⟨_, rfl, (((hother.tail .read).tail .write).tail .notifyAll).tail .leave⟩

theorem waitTunnelFatalReason_first_two :
    ∃ s : FatalState Bool, s.Reachable
      ∧ s.returned = [⟨false, .record "gone", .done⟩, ⟨true, .wait, .reason "gone"⟩]
      ∧ FirstRecorded [(⟨false, .record "gone", .done⟩ : Return Bool _ _)] "gone" := by
  obtain ⟨waiting, hwaiting, hreach⟩ := exists_reachable_two
  have hend := ((hreach.tail (.lock hwaiting)).tail .read).tail .leave
  refine ⟨_, hend, rfl, ?_⟩
  obtain ⟨reason, hr, hfirst⟩ := (waitTunnelFatalReason_first hend).1
    [⟨false, .record "gone", .done⟩] true _ [] rfl
  obtain rfl := FatalResult.reason.inj hr
  exact hfirst

/-- **Nobody waits for a reason that is there.** Once a reason is recorded, everyone is awake until
it is cleared, and as soon as the lock is free a waiting call can come back with it. -/
theorem waitTunnelFatalReason_returns (h : s.Reachable) (hfree : s.inside = none)
    (hrecorded : s.value ≠ none) {s' : FatalState Client}
    (hrun : Relation.ReflTransGen
      (fun a b ↦ Condvar.Step FatalCall.code a b ∧ b.value ≠ none) s s') :
    AllAwake s'.waiting ∧ ∀ c, s'.inside = none → s'.waiting c = some (.wait, false) →
      ∃ reason waiting, s'.value = some reason
        ∧ Relation.ReflTransGen (Condvar.Step FatalCall.code) s'
          ⟨some reason, none, waiting, s'.returned ++ [⟨c, .wait, .reason reason⟩]⟩ := by
  have hlast : FatalState.Reachable s' ∧ s'.value ≠ none ∧ AllAwake s'.waiting := by
    induction hrun with
    | refl => exact ⟨h, hrecorded, (holds_of_reachable sound_code h).allAwake hfree hrecorded⟩
    | tail _ hstep ih =>
      obtain ⟨hreach, -, hawake⟩ := ih
      refine ⟨hreach.tail hstep.1, hstep.2, ?_⟩
      by_contra hasleep
      exact (holds_of_reachable sound_code hreach).not_ready_of_step hstep.1 hawake hasleep hstep.2
  obtain ⟨-, hvalue, hawake⟩ := hlast
  refine ⟨hawake, fun c hfree' hc ↦ ?_⟩
  obtain ⟨v, inside, waiting, t⟩ := s'
  obtain rfl := hfree'
  obtain ⟨reason, rfl⟩ := Option.ne_none_iff_exists'.mp hvalue
  obtain ⟨waiting', hend⟩ := exists_run_leave FatalCall.code (v := some reason) hc rfl t
  exact ⟨reason, waiting', rfl, hend⟩

theorem waitTunnelFatalReason_returns_two :
    ∃ s : FatalState Bool, s.Reachable ∧ s.value = some "gone" ∧ AllAwake s.waiting := by
  obtain ⟨waiting, hwaiting, hreach⟩ := exists_reachable_two
  have hawake := waitTunnelFatalReason_returns hreach rfl (Option.some_ne_none _) .refl
  exact ⟨_, hreach, rfl, hawake.1⟩

end Results

end ShiepPipeline
