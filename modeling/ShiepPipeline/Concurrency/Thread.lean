import Mathlib.Logic.Relation
import ShiepPipeline.Concurrency.Program

/-!
# Threads that loop

A thread runs the body of a loop one call at a time. A body that comes to its end either goes on
with a new state of the loop or ends the thread with a result. The thread's trace keeps every call
it has made together with its answer, so what a thread has done so far is a function of its trace.

The steps of a thread are labelled with the call they make. A system of several threads, or of a
thread and a world with a life of its own, is a relation built from such steps, and says which
answers are possible by constraining the labels.

`Thread.Rule` is a loop invariant: a condition on the trace where the loop starts over, one for
each result it may end with, and one for each call. It is proved about a single pass of the body,
and then holds at every point of every run.
-/

open Program

/-- A call and its answer. -/
abbrev Exchange (Op : Type) (Ans : Op → Type) := (op : Op) × Ans op

/-- The calls made so far and the program that is left. -/
structure Thread (Op : Type) (Ans : Op → Type) (σ ρ : Type) where
  trace : List (Exchange Op Ans)
  left : Program Op Ans (σ ⊕ ρ)

namespace Thread

variable {Op : Type} {Ans : Op → Type} {σ ρ : Type}

/-- A step, with the call it makes. Starting over makes no call. -/
inductive Step (body : σ → Program Op Ans (σ ⊕ ρ)) :
    Thread Op Ans σ ρ → Option (Exchange Op Ans) → Thread Op Ans σ ρ → Prop
  | call {t : List (Exchange Op Ans)} {op : Op} {next : Ans op → Program Op Ans (σ ⊕ ρ)}
      (ans : Ans op) :
      Step body ⟨t, .call op next⟩ (some ⟨op, ans⟩) ⟨t ++ [⟨op, ans⟩], next ans⟩
  | again {t : List (Exchange Op Ans)} {s : σ} : Step body ⟨t, .done (.inl s)⟩ none ⟨t, body s⟩

/-- The states of a thread that starts with a program, whatever its calls are answered. -/
def Reachable (body : σ → Program Op Ans (σ ⊕ ρ)) (p : Program Op Ans (σ ⊕ ρ))
    (th : Thread Op Ans σ ρ) : Prop :=
  Relation.ReflTransGen (fun a b ↦ ∃ e, Step body a e b) ⟨[], p⟩ th

/-- The thread has ended. -/
def Ended (th : Thread Op Ans σ ρ) (r : ρ) : Prop := th.left = .done (.inr r)

variable {body : σ → Program Op Ans (σ ⊕ ρ)}

theorem Reachable.call {p : Program Op Ans (σ ⊕ ρ)} {t : List (Exchange Op Ans)}
    {q : Program Op Ans (σ ⊕ ρ)} {op : Op} {next : Ans op → Program Op Ans (σ ⊕ ρ)}
    (h : Reachable body p ⟨t, q⟩) (hq : q = .call op next) (ans : Ans op) :
    Reachable body p ⟨t ++ [⟨op, ans⟩], next ans⟩ := by
  subst hq
  exact h.tail ⟨_, .call ans⟩

/-- A step adds the call it makes to the trace. -/
theorem Step.trace_eq {th th' : Thread Op Ans σ ρ} {e : Option (Exchange Op Ans)}
    (h : Step body th e th') : th'.trace = th.trace ++ e.toList := by
  cases h with
  | call ans => rfl
  | again => exact (List.append_nil _).symm

/-- A thread that has ended makes no step. -/
theorem Step.not_ended {th th' : Thread Op Ans σ ρ} {e : Option (Exchange Op Ans)}
    (h : Step body th e th') (r : ρ) : ¬th.Ended r := by
  cases h with
  | call ans => exact nofun
  | again => exact nofun

/-! ## Loop invariants -/

/-- The trace after one more call. -/
def log (t : List (Exchange Op Ans)) (op : Op) (ans : Ans op) : List (Exchange Op Ans) :=
  t ++ [⟨op, ans⟩]

/-- A call in a pass that has added something to the trace it began with. -/
theorem obeys_append {β : Type} {allowed : List (Exchange Op Ans) → Op → Prop}
    {post : β → List (Exchange Op Ans) → Prop} {t added : List (Exchange Op Ans)} {op : Op}
    {f : Ans op → Program Op Ans β} (h : allowed (t ++ added) op)
    (hf : ∀ ans, Obeys allowed log post (t ++ (added ++ [⟨op, ans⟩])) (f ans)) :
    Obeys allowed log post (t ++ added) (perform op >>= f) := by
  refine obeys_perform_bind h fun ans ↦ ?_
  rw [log, List.append_assoc]
  exact hf ans

/-- What holds of the trace before each call, where the loop starts over, and at its end. -/
structure Rule (body : σ → Program Op Ans (σ ⊕ ρ)) where
  allowed : List (Exchange Op Ans) → Op → Prop
  head : σ → List (Exchange Op Ans) → Prop
  post : ρ → List (Exchange Op Ans) → Prop
  obeys : ∀ s t, head s t
    → Obeys allowed log (fun x t ↦ x.elim (fun s ↦ head s t) fun r ↦ post r t) t (body s)

namespace Rule

variable (R : Rule body)

/-- The rest of the thread's program keeps the rule. -/
def Holds (th : Thread Op Ans σ ρ) : Prop :=
  Obeys R.allowed log (fun x t ↦ x.elim (fun s ↦ R.head s t) fun r ↦ R.post r t) th.trace th.left

variable {R}

theorem Holds.step {th th' : Thread Op Ans σ ρ} {e : Option (Exchange Op Ans)} (h : R.Holds th)
    (hstep : Step body th e th') : R.Holds th' := by
  cases hstep with
  | call ans =>
    obtain _ | ⟨-, hrest⟩ := h
    exact hrest ans
  | again =>
    obtain ⟨hhead⟩ := h
    exact R.obeys _ _ hhead

/-- **The rule holds at every point of every run**, if it holds of the program in front. -/
theorem holds_of_reachable {p : Program Op Ans (σ ⊕ ρ)} {th : Thread Op Ans σ ρ}
    (hstart : R.Holds ⟨[], p⟩) (h : Reachable body p th) : R.Holds th := by
  induction h with
  | refl => exact hstart
  | tail _ hstep ih =>
    obtain ⟨e, he⟩ := hstep
    exact ih.step he

theorem Holds.post {th : Thread Op Ans σ ρ} {r : ρ} (h : R.Holds th) (hend : th.Ended r) :
    R.post r th.trace := by
  rw [Holds, hend] at h
  obtain ⟨hpost⟩ := h
  exact hpost

theorem Holds.allowed {t : List (Exchange Op Ans)} {op : Op}
    {next : Ans op → Program Op Ans (σ ⊕ ρ)} (h : R.Holds ⟨t, .call op next⟩) :
    R.allowed t op := by
  obtain _ | ⟨hallowed, -⟩ := h
  exact hallowed

/-- A thread makes a call, starts over, or has ended: what holds of the trace in each of the three
cases holds always. -/
theorem Holds.elim {th : Thread Op Ans σ ρ} {P : Prop} (h : R.Holds th)
    (hcall : ∀ op, R.allowed th.trace op → (∀ r, ¬th.Ended r) → P)
    (hhead : ∀ s, R.head s th.trace → (∀ r, ¬th.Ended r) → P)
    (hpost : ∀ r, R.post r th.trace → th.Ended r → P) : P := by
  obtain ⟨t, p⟩ := th
  cases p with
  | done x =>
    obtain ⟨hx⟩ := h
    cases x with
    | inl s => exact hhead s hx fun r hr ↦ (nomatch hr)
    | inr r => exact hpost r hx rfl
  | call op next => exact hcall op h.allowed fun r hr ↦ (nomatch hr)

end Rule

end Thread
