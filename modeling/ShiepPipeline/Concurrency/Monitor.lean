import Mathlib.Data.List.Basic
import ShiepPipeline.Concurrency.Program

/-!
# Programs under one lock

A monitor is a value behind a lock, together with the rest of the world that the code holding the
lock acts on. A client takes the lock when it is free, works through its program one call at a
time, writes the guarded value and lets go. Clients that wait have no effect, so the state names
only the one that holds the lock and the program it still has to run.

A run is the list of what happened and the state it led to. Nothing is recorded in the state for the
sake of a proof: what has to be said about the past is said about the list.

`Monitor.Discipline` is what a proof about such a system has to come up with: a rule of use that
every program obeys, and an invariant of the run so far and the world, indexed by the state of the
rule, that every allowed call keeps. The invariant then holds after every run, and whatever the rule
says about a program's end holds whenever a client lets go.
-/

open Program

namespace Monitor

variable {Client Req Op : Type} {Ans : Op → Type} {γ σ δ α : Type}

/-- The guarded value, the world, and the client inside with the program it has left to run. The
program ends in the value it writes back. -/
structure State (Client Op : Type) (Ans : Op → Type) (γ σ : Type) where
  guarded : γ
  world : σ
  inside : Option (Client × Program Op Ans γ)

/-- What can happen. A call is recorded with the world it was made in, which decides its answer. -/
inductive Event (Client Req Op γ σ : Type)
  | lock (c : Client) (req : Req)
  | call (c : Client) (op : Op) (w : σ)
  | unlock (c : Client) (v : γ)

/-- One step: a client takes the free lock for a request, makes the next call of its program, or
writes the guarded value and lets go. -/
inductive Step (body : Req → γ → Program Op Ans γ) (handle : Handler Op Ans σ) :
    State Client Op Ans γ σ → Event Client Req Op γ σ → State Client Op Ans γ σ → Prop
  | lock {v : γ} {w : σ} (c : Client) (req : Req) :
      Step body handle ⟨v, w, none⟩ (.lock c req) ⟨v, w, some (c, body req v)⟩
  | call {v : γ} {w : σ} {c : Client} {op : Op} {next : Ans op → Program Op Ans γ} :
      Step body handle ⟨v, w, some (c, .call op next)⟩ (.call c op w)
        ⟨v, (handle op w).2, some (c, next (handle op w).1)⟩
  | unlock {v v' : γ} {w : σ} {c : Client} :
      Step body handle ⟨v, w, some (c, .done v')⟩ (.unlock c v') ⟨v', w, none⟩

/-- The runs that begin with a free lock: what happened, oldest first, and the state after it. -/
inductive Run (body : Req → γ → Program Op Ans γ) (handle : Handler Op Ans σ) (v : γ) (w : σ) :
    List (Event Client Req Op γ σ) → State Client Op Ans γ σ → Prop
  | start : Run body handle v w [] ⟨v, w, none⟩
  | step {t : List (Event Client Req Op γ σ)} {s s' : State Client Op Ans γ σ}
      {e : Event Client Req Op γ σ} (h : Run body handle v w t s)
      (hstep : Step body handle s e s') : Run body handle v w (t ++ [e]) s'

variable {body : Req → γ → Program Op Ans γ} {handle : Handler Op Ans σ}

/-- A rule of use for the calls and an invariant that goes with it. A client enters with the rule in
the state its request asks for. `post` relates the guarded value it found, the one it writes back,
and the state the rule ends in, and `idle` is the rule while nobody is inside. -/
structure Discipline (Client : Type) (body : Req → γ → Program Op Ans γ)
    (handle : Handler Op Ans σ) (δ : Type) where
  allowed : δ → Op → Prop
  next : δ → (op : Op) → Ans op → δ
  idle : δ
  enter : Req → δ
  post : γ → γ → δ → Prop
  inv : δ → List (Event Client Req Op γ σ) → σ → Prop
  obeys : ∀ req v, Obeys allowed next (post v) (enter req) (body req v)
  lock : ∀ t w c req, inv idle t w → inv (enter req) (t ++ [.lock c req]) w
  call : ∀ d t w c op, allowed d op → inv d t w →
    inv (next d op (handle op w).1) (t ++ [.call c op w]) (handle op w).2
  unlock : ∀ v v' d t w c, post v v' d → inv d t w → inv idle (t ++ [.unlock c v']) w

namespace Discipline

variable (D : Discipline Client body handle δ)

/-- The lock is free and the rule is at rest, or the client inside still obeys the rule. -/
def Holds (t : List (Event Client Req Op γ σ)) (s : State Client Op Ans γ σ) : Prop :=
  match s.inside with
  | none => D.inv D.idle t s.world
  | some (_, p) => ∃ d, D.inv d t s.world ∧ Obeys D.allowed D.next (D.post s.guarded) d p

variable {D} {t : List (Event Client Req Op γ σ)} {s s' : State Client Op Ans γ σ}

theorem Holds.step {e : Event Client Req Op γ σ} (h : D.Holds t s)
    (hstep : Step body handle s e s') : D.Holds (t ++ [e]) s' := by
  cases hstep with
  | lock c req => exact ⟨D.enter req, D.lock t _ c req h, D.obeys req _⟩
  | call =>
    obtain ⟨d, hinv, hobeys⟩ := h
    obtain _ | ⟨hallowed, hrest⟩ := hobeys
    exact ⟨_, D.call d t _ _ _ hallowed hinv, hrest _⟩
  | unlock =>
    obtain ⟨d, hinv, hobeys⟩ := h
    obtain ⟨hpost⟩ := hobeys
    exact D.unlock _ _ d t _ _ hpost hinv

/-- **The invariant holds after every run.** -/
theorem holds_of_run {v : γ} {w : σ} (hinit : D.inv D.idle [] w) (hs : Run body handle v w t s) :
    D.Holds t s := by
  induction hs with
  | start => exact hinit
  | step _ hstep ih => exact ih.step hstep

/-- While a client is about to make a call, the rule allows it and the invariant holds. -/
theorem Holds.exists_allowed (h : D.Holds t s) {c : Client} {op : Op}
    {next : Ans op → Program Op Ans γ} (hinside : s.inside = some (c, .call op next)) :
    ∃ d, D.allowed d op ∧ D.inv d t s.world := by
  rw [Holds, hinside] at h
  obtain ⟨d, hinv, hobeys⟩ := h
  obtain _ | ⟨hallowed, -⟩ := hobeys
  exact ⟨d, hallowed, hinv⟩

/-- Letting go is the only step that writes the guarded value. -/
theorem Holds.of_guarded_ne {e : Event Client Req Op γ σ} (h : D.Holds t s)
    (hstep : Step body handle s e s') (hne : s'.guarded ≠ s.guarded) :
    ∃ d, D.inv d t s'.world ∧ D.post s.guarded s'.guarded d := by
  cases hstep with
  | lock | call => exact absurd rfl hne
  | unlock =>
    obtain ⟨d, hinv, hobeys⟩ := h
    obtain ⟨hpost⟩ := hobeys
    exact ⟨d, hinv, hpost⟩

end Discipline

/-! ## One client alone -/

/-- The calls a client makes that runs its program to the end. -/
def callsOf (handle : Handler Op Ans σ) (c : Client) :
    Program Op Ans α → σ → List (Event Client Req Op γ σ)
  | .done _, _ => []
  | .call op next, w => .call c op w :: callsOf handle c (next (handle op w).1) (handle op w).2

/-- While a client is inside, running its program to the end is a run of the whole system: what
one thread computes alone is what it computes among the others. -/
theorem Run.finish {t : List (Event Client Req Op γ σ)} {v₀ v : γ} {w₀ w : σ} {c : Client}
    {p : Program Op Ans γ} (hs : Run body handle v₀ w₀ t ⟨v, w, some (c, p)⟩) :
    Run body handle v₀ w₀ (t ++ (callsOf handle c p w ++ [.unlock c (p.run handle w).1]))
      ⟨(p.run handle w).1, (p.run handle w).2, none⟩ := by
  induction p generalizing t w with
  | done a => exact hs.step .unlock
  | call op next ih =>
    have hrun := ih _ (hs.step .call)
    rwa [List.append_assoc] at hrun

end Monitor
