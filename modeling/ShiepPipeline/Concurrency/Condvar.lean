import Mathlib.Logic.Function.Basic
import Mathlib.Data.List.Basic
import Mathlib.Logic.Relation
import ShiepPipeline.Concurrency.Program

/-!
# A lock with a condition variable

A value is guarded by a lock, and clients may wait for it to become `ready`. A client that waits
lets go of the lock and falls asleep in one step. It wakes up when another client notifies, or for
no reason at all, and then competes for the lock like everyone else, so what it knew before it fell
asleep may no longer be true.

The code of a request is a pass over it, with the lock held. A pass ends in a result, or in `none`,
which is to wait and to start over once awake.

`Keeps` is what a pass has to do: it falls asleep only where the value is not ready, it notifies
before it lets go of a value that it may have made ready, and what it leaves behind is an `effect`
of its request. `Holds` is the invariant that follows. It says that nobody is left asleep once the
value is ready, and that the results are those of one client after another.
-/

open Program

namespace Condvar

/-! ## Steps -/

/-- The calls of a client that holds the lock. -/
inductive Op (γ : Type)
  | read
  | write (v : γ)
  | notifyAll

abbrev Ans {γ : Type} : Op γ → Type
  | .read => γ
  | .write _ => Unit
  | .notifyAll => Unit

abbrev Code (γ ρ : Type) := Program (Op γ) Ans (Option ρ)

/-- A request that has been worked off. -/
structure Return (Client Req ρ : Type) where
  client : Client
  req : Req
  result : ρ
deriving DecidableEq

structure State (Client Req γ ρ : Type) where
  value : γ
  /-- Who holds the lock, and what is left of the pass. -/
  inside : Option (Client × Req × Code γ ρ)
  /-- Who does not hold the lock but wants something, and whether it is asleep. -/
  waiting : Client → Option (Req × Bool)
  /-- What has been worked off, the earliest first. -/
  returned : List (Return Client Req ρ)

variable {Client Req γ ρ : Type}

namespace State

variable (s : State Client Req γ ρ)

def initial (v : γ) : State Client Req γ ρ := ⟨v, none, fun _ ↦ none, []⟩

/-- The client has asked for something and has not got it yet. -/
def Busy (c : Client) : Prop := s.waiting c ≠ none ∨ ∃ x ∈ s.inside, x.1 = c

end State

/-- Everyone in the queue is awake. -/
def wakeAll (waiting : Client → Option (Req × Bool)) (c : Client) : Option (Req × Bool) :=
  (waiting c).map fun w ↦ (w.1, false)

inductive Step [DecidableEq Client] (body : Req → Code γ ρ) :
    State Client Req γ ρ → State Client Req γ ρ → Prop
  | call {s : State Client Req γ ρ} (c : Client) (req : Req) (hc : ¬ s.Busy c) :
      Step body s { s with waiting := Function.update s.waiting c (some (req, false)) }
  | lock {v : γ} {waiting : Client → Option (Req × Bool)} {t : List (Return Client Req ρ)}
      {c : Client} {req : Req} (hc : waiting c = some (req, false)) :
      Step body ⟨v, none, waiting, t⟩
        ⟨v, some (c, req, body req), Function.update waiting c none, t⟩
  | read {v : γ} {waiting : Client → Option (Req × Bool)} {t : List (Return Client Req ρ)}
      {c : Client} {req : Req} {next : γ → Code γ ρ} :
      Step body ⟨v, some (c, req, .call .read next), waiting, t⟩
        ⟨v, some (c, req, next v), waiting, t⟩
  | write {v v' : γ} {waiting : Client → Option (Req × Bool)} {t : List (Return Client Req ρ)}
      {c : Client} {req : Req} {next : Unit → Code γ ρ} :
      Step body ⟨v, some (c, req, .call (.write v') next), waiting, t⟩
        ⟨v', some (c, req, next ()), waiting, t⟩
  | notifyAll {v : γ} {waiting : Client → Option (Req × Bool)} {t : List (Return Client Req ρ)}
      {c : Client} {req : Req} {next : Unit → Code γ ρ} :
      Step body ⟨v, some (c, req, .call .notifyAll next), waiting, t⟩
        ⟨v, some (c, req, next ()), wakeAll waiting, t⟩
  | wait {v : γ} {waiting : Client → Option (Req × Bool)} {t : List (Return Client Req ρ)}
      {c : Client} {req : Req} :
      Step body ⟨v, some (c, req, .done none), waiting, t⟩
        ⟨v, none, Function.update waiting c (some (req, true)), t⟩
  /-- A client wakes up without having been notified. -/
  | wake {s : State Client Req γ ρ} {c : Client} {req : Req} (hc : s.waiting c = some (req, true)) :
      Step body s { s with waiting := Function.update s.waiting c (some (req, false)) }
  | leave {v : γ} {waiting : Client → Option (Req × Bool)} {t : List (Return Client Req ρ)}
      {c : Client} {req : Req} {r : ρ} :
      Step body ⟨v, some (c, req, .done (some r)), waiting, t⟩
        ⟨v, none, waiting, t ++ [⟨c, req, r⟩]⟩

/-- The states that runs from a free lock lead to. -/
def Reachable [DecidableEq Client] (body : Req → Code γ ρ) (v : γ) (s : State Client Req γ ρ) :
    Prop :=
  Relation.ReflTransGen (Step body) (.initial v) s

/-! ## One client after another -/

/-- The results are those of the requests worked off one at a time, in this order. -/
inductive Explained (effect : Req → γ → ρ → γ → Prop) (v₀ : γ) :
    List (Return Client Req ρ) → γ → Prop
  | nil : Explained effect v₀ [] v₀
  | snoc {t : List (Return Client Req ρ)} {v v' : γ} {c : Client} {req : Req} {r : ρ}
      (ht : Explained effect v₀ t v) (h : effect req v r v') :
      Explained effect v₀ (t ++ [⟨c, req, r⟩]) v'

/-- What was at some place before one more was added: the last place is the new one. -/
theorem last_or_before {α : Type} {l l₁ l₂ : List α} {a b : α} (h : l ++ [a] = l₁ ++ b :: l₂) :
    (l₁ = l ∧ b = a) ∨ ∃ l₂', l₂ = l₂' ++ [a] ∧ l = l₁ ++ b :: l₂' := by
  rcases List.eq_nil_or_concat' l₂ with rfl | ⟨l₂, c, rfl⟩
  · obtain ⟨rfl, hab⟩ := List.append_inj' h rfl
    exact .inl ⟨rfl, (List.cons.inj hab).1.symm⟩
  · rw [← List.cons_append, ← List.append_assoc] at h
    obtain ⟨hl, hac⟩ := List.append_inj' h rfl
    rw [← (List.cons.inj hac).1]
    exact .inr ⟨l₂, rfl, hl⟩

/-- What each result was, on the value that the ones before it led to. -/
theorem Explained.of_append_cons {effect : Req → γ → ρ → γ → Prop} {v₀ v : γ}
    {t t₁ t₂ : List (Return Client Req ρ)} {x : Return Client Req ρ}
    (h : Explained effect v₀ t v) (ht : t = t₁ ++ x :: t₂) :
    ∃ v₁ v₂, Explained effect v₀ t₁ v₁ ∧ effect x.req v₁ x.result v₂ := by
  induction h generalizing t₂ with
  | nil => exact absurd ht (by simp)
  | @snoc t v v' c req r hbefore heffect ih =>
    rcases last_or_before ht with ⟨rfl, rfl⟩ | ⟨t₂, -, hbefore⟩
    · exact ⟨v, v', hbefore, heffect⟩
    · exact ih hbefore

/-- A pass that took the lock at the value `v₀`, and has it at `v`, keeps to the rules. With `owed`
someone may be asleep although the value is ready. -/
inductive Keeps (ready : γ → Prop) (effect : Req → γ → ρ → γ → Prop) (req : Req) (v₀ : γ) :
    γ → Bool → Code γ ρ → Prop
  | read {v : γ} {owed : Bool} {next : γ → Code γ ρ}
      (h : Keeps ready effect req v₀ v owed (next v)) :
      Keeps ready effect req v₀ v owed (.call .read next)
  | write {v v' : γ} {owed : Bool} {next : Unit → Code γ ρ}
      (h : Keeps ready effect req v₀ v' true (next ())) :
      Keeps ready effect req v₀ v owed (.call (.write v') next)
  | notifyAll {v : γ} {owed : Bool} {next : Unit → Code γ ρ}
      (h : Keeps ready effect req v₀ v false (next ())) :
      Keeps ready effect req v₀ v owed (.call .notifyAll next)
  | wait {owed : Bool} (hready : ¬ ready v₀) : Keeps ready effect req v₀ v₀ owed (.done none)
  | leave {v : γ} {owed : Bool} {r : ρ} (howed : ready v → owed = false)
      (h : effect req v₀ r v) : Keeps ready effect req v₀ v owed (.done (some r))

/-- A pass over any request keeps to the rules. -/
def Sound (body : Req → Code γ ρ) (ready : γ → Prop) (effect : Req → γ → ρ → γ → Prop) : Prop :=
  ∀ req v, Keeps ready effect req v v false (body req)

/-! ## The invariant -/

section Holds

variable {body : Req → Code γ ρ} {ready : γ → Prop} {effect : Req → γ → ρ → γ → Prop} {v₀ : γ}

def AllAwake (waiting : Client → Option (Req × Bool)) : Prop :=
  ∀ c req, waiting c ≠ some (req, true)

/-- Nobody is asleep over a ready value, unless the client inside still has to notify. -/
def Holds (ready : γ → Prop) (effect : Req → γ → ρ → γ → Prop) (v₀ : γ)
    (s : State Client Req γ ρ) : Prop :=
  match s.inside with
  | none => (ready s.value → AllAwake s.waiting) ∧ Explained effect v₀ s.returned s.value
  | some (_, req, p) => ∃ v owed, Keeps ready effect req v s.value owed p
      ∧ (ready s.value → owed = false → AllAwake s.waiting) ∧ Explained effect v₀ s.returned v

namespace Holds

/-- The queue may change as long as nobody falls asleep. -/
theorem of_waiting {s : State Client Req γ ρ} (h : Holds ready effect v₀ s)
    {waiting : Client → Option (Req × Bool)} (hawake : AllAwake s.waiting → AllAwake waiting) :
    Holds ready effect v₀ { s with waiting := waiting } := by
  obtain ⟨v, inside, _, t⟩ := s
  cases inside with
  | none => exact ⟨fun hready ↦ hawake (h.1 hready), h.2⟩
  | some x =>
    obtain ⟨v', owed, hkeeps, howed, ht⟩ := h
    exact ⟨v', owed, hkeeps, fun hready ho ↦ hawake (howed hready ho), ht⟩

/-- **Nobody is left asleep** while the lock is free and the value is ready. -/
theorem allAwake {s : State Client Req γ ρ} (h : Holds ready effect v₀ s)
    (hfree : s.inside = none) (hready : ready s.value) : AllAwake s.waiting := by
  rw [Holds, hfree] at h
  exact h.1 hready

/-- **One at a time**: the results are those of the requests worked off one after another, and while
the lock is free the value is the one they lead to. -/
theorem explained {s : State Client Req γ ρ} (h : Holds ready effect v₀ s) :
    ∃ v, Explained effect v₀ s.returned v ∧ (s.inside = none → v = s.value) := by
  obtain ⟨v, inside, waiting, t⟩ := s
  cases inside with
  | none => exact ⟨v, h.2, fun _ ↦ rfl⟩
  | some x =>
    obtain ⟨v', -, -, -, ht⟩ := h
    exact ⟨v', ht, nofun⟩

end Holds

variable [DecidableEq Client]

theorem AllAwake.update {waiting : Client → Option (Req × Bool)} (h : AllAwake waiting) (c : Client)
    {w : Option (Req × Bool)} (hw : ∀ req, w ≠ some (req, true)) :
    AllAwake (Function.update waiting c w) := by
  intro d req
  by_cases hd : d = c
  · subst hd
    rw [Function.update_self]
    exact hw req
  · rw [Function.update_of_ne hd]
    exact h d req

theorem Holds.step (hsound : Sound body ready effect) {s s' : State Client Req γ ρ}
    (h : Holds ready effect v₀ s) (hstep : Step body s s') : Holds ready effect v₀ s' := by
  cases hstep with
  | call c req hc => exact h.of_waiting fun hawake ↦ hawake.update c nofun
  | wake hc => exact h.of_waiting fun hawake ↦ hawake.update _ nofun
  | lock hc =>
    exact ⟨_, false, hsound _ _, fun hready _ ↦ (h.1 hready).update _ nofun, h.2⟩
  | read =>
    obtain ⟨v, owed, hkeeps, hrest⟩ := h
    obtain ⟨hkeeps⟩ := hkeeps
    exact ⟨v, owed, hkeeps, hrest⟩
  | write =>
    obtain ⟨v, owed, hkeeps, -, ht⟩ := h
    obtain _ | ⟨hkeeps⟩ := hkeeps
    exact ⟨v, true, hkeeps, fun _ h ↦ absurd h.symm Bool.false_ne_true, ht⟩
  | notifyAll =>
    obtain ⟨v, owed, hkeeps, -, ht⟩ := h
    obtain _ | _ | ⟨hkeeps⟩ := hkeeps
    refine ⟨v, false, hkeeps, fun _ _ d req hd ↦ ?_, ht⟩
    obtain ⟨w, -, hw⟩ := Option.map_eq_some_iff.mp hd
    exact absurd (Prod.mk.inj hw).2 Bool.false_ne_true
  | wait =>
    obtain ⟨v, owed, hkeeps, -, ht⟩ := h
    obtain _ | _ | _ | ⟨hready⟩ := hkeeps
    exact ⟨fun h ↦ absurd h hready, ht⟩
  | leave =>
    obtain ⟨v, owed, hkeeps, hawake, ht⟩ := h
    obtain _ | _ | _ | _ | ⟨howed, heffect⟩ := hkeeps
    exact ⟨fun hready ↦ hawake hready (howed hready), ht.snoc heffect⟩

theorem holds_of_reachable (hsound : Sound body ready effect) {s : State Client Req γ ρ}
    (h : Reachable body v₀ s) : Holds ready effect v₀ s := by
  induction h with
  | refl => exact ⟨fun _ ↦ nofun, .nil⟩
  | tail _ hstep ih => exact ih.step hsound hstep

/-- A client falls asleep only over a value that is not ready. -/
theorem Holds.not_ready_of_step {s s' : State Client Req γ ρ} (h : Holds ready effect v₀ s)
    (hstep : Step body s s') (hawake : AllAwake s.waiting) (hasleep : ¬ AllAwake s'.waiting) :
    ¬ ready s'.value := by
  cases hstep with
  | wait =>
    obtain ⟨v, owed, hkeeps, -⟩ := h
    obtain _ | _ | _ | ⟨hready⟩ := hkeeps
    exact hready
  | read | write | leave => exact absurd hawake hasleep
  | call | lock | wake =>
    refine absurd (hawake.update _ ?_) hasleep
    nofun
  | notifyAll =>
    refine absurd (fun d req hd ↦ ?_) hasleep
    obtain ⟨w, -, hw⟩ := Option.map_eq_some_iff.mp hd
    exact absurd (Prod.mk.inj hw).2 Bool.false_ne_true

end Holds

/-! ## A client on its own -/

/-- What the calls do to the value. -/
def handle : Handler (Op γ) Ans γ
  | .read, v => (v, v)
  | .write v', _ => ((), v')
  | .notifyAll, v => ((), v)

variable [DecidableEq Client] {body : Req → Code γ ρ}

variable (body) in
/-- A client inside that is not interfered with comes to the end of its pass. -/
theorem exists_run_inside (c : Client) (req : Req) (p : Code γ ρ) (v : γ)
    (waiting : Client → Option (Req × Bool)) (t : List (Return Client Req ρ)) :
    ∃ waiting', Relation.ReflTransGen (Step body) ⟨v, some (c, req, p), waiting, t⟩
      ⟨(p.run handle v).2, some (c, req, .done (p.run handle v).1), waiting', t⟩ := by
  induction p generalizing v waiting with
  | done r => exact ⟨waiting, .refl⟩
  | call op next ih =>
    cases op with
    | read =>
      obtain ⟨waiting', h⟩ := ih v v waiting
      exact ⟨waiting', .head .read h⟩
    | write v' =>
      obtain ⟨waiting', h⟩ := ih () v' waiting
      exact ⟨waiting', .head .write h⟩
    | notifyAll =>
      obtain ⟨waiting', h⟩ := ih () v (wakeAll waiting)
      exact ⟨waiting', .head .notifyAll h⟩

variable (body) in
/-- A client that is awake, and whose pass ends in a result, can get it as soon as the lock is
free. -/
theorem exists_run_leave {c : Client} {req : Req} {v v' : γ} {r : ρ}
    {waiting : Client → Option (Req × Bool)} (hc : waiting c = some (req, false))
    (hrun : (body req).run handle v = (some r, v')) (t : List (Return Client Req ρ)) :
    ∃ waiting', Relation.ReflTransGen (Step body) ⟨v, none, waiting, t⟩
      ⟨v', none, waiting', t ++ [⟨c, req, r⟩]⟩ := by
  obtain ⟨waiting', h⟩ := exists_run_inside body c req (body req) v
    (Function.update waiting c none) t
  rw [hrun] at h
  exact ⟨waiting', .head (.lock hc) (h.tail .leave)⟩

end Condvar
