/-!
# Programs over calls to an outside world

A `Program` is straight-line code that stops at each call to something it does not own and goes on
with whatever the call answers. The same program can be run to its end from a state that answers
the calls, which is what one thread sees when nobody interferes, or be advanced one call at a time
among other threads.

`Program.Obeys` is a rule of use for the calls, checked by an automaton that reads each call and
its answer. A program obeys the rule for every answer it might get, so the rule does not depend on
who else is running.
-/

/-- Code that makes calls `op : Op`, each of them answered by an `Ans op`. -/
inductive Program (Op : Type) (Ans : Op → Type) (α : Type) : Type
  | done (a : α)
  | call (op : Op) (next : Ans op → Program Op Ans α)

namespace Program

variable {Op : Type} {Ans : Op → Type} {α β σ δ : Type}

protected def bind : Program Op Ans α → (α → Program Op Ans β) → Program Op Ans β
  | .done a, f => f a
  | .call op next, f => .call op fun ans ↦ (next ans).bind f

instance : Monad (Program Op Ans) where
  pure := .done
  bind := Program.bind

theorem bind_bind {γ : Type} (p : Program Op Ans α) (f : α → Program Op Ans β)
    (g : β → Program Op Ans γ) : (p >>= f) >>= g = p >>= fun a ↦ f a >>= g := by
  change (p.bind f).bind g = p.bind fun a ↦ (f a).bind g
  induction p with
  | done a => rfl
  | call op next ih => exact congrArg (Program.call op) (funext ih)

/-- A single call. -/
def perform (op : Op) : Program Op Ans (Ans op) := .call op .done

/-! ## Running alone -/

/-- What answers the calls: each call reads and changes a state. -/
abbrev Handler (Op : Type) (Ans : Op → Type) (σ : Type) := (op : Op) → σ → Ans op × σ

/-- Run to the end, with no one else calling in between. -/
def run (handle : Handler Op Ans σ) : Program Op Ans α → σ → α × σ
  | .done a, s => (a, s)
  | .call op next, s => (next (handle op s).1).run handle (handle op s).2

variable {handle : Handler Op Ans σ}

@[simp] theorem run_bind (p : Program Op Ans α) (f : α → Program Op Ans β) (s : σ) :
    (p >>= f).run handle s = (f (p.run handle s).1).run handle (p.run handle s).2 := by
  change (p.bind f).run handle s = _
  induction p generalizing s with
  | done a => rfl
  | call op next ih => exact ih (handle op s).1 (handle op s).2

/-! ## Rules of use -/

/-- Every call is allowed in the automaton's state at that point, and the result and the state the
program ends in satisfy `post`. -/
inductive Obeys (allowed : δ → Op → Prop) (next : δ → (op : Op) → Ans op → δ)
    (post : α → δ → Prop) : δ → Program Op Ans α → Prop
  | done {d : δ} {a : α} (h : post a d) : Obeys allowed next post d (.done a)
  | call {d : δ} {op : Op} {rest : Ans op → Program Op Ans α} (h : allowed d op)
      (hrest : ∀ ans, Obeys allowed next post (next d op ans) (rest ans)) :
      Obeys allowed next post d (.call op rest)

variable {allowed : δ → Op → Prop} {next : δ → (op : Op) → Ans op → δ}

theorem obeys_pure {post : α → δ → Prop} {a : α} {d : δ} (h : post a d) :
    Obeys allowed next post d (pure a : Program Op Ans α) := .done h

theorem Obeys.mono {post post' : α → δ → Prop} {p : Program Op Ans α} {d : δ}
    (hp : Obeys allowed next post d p) (h : ∀ a d', post a d' → post' a d') :
    Obeys allowed next post' d p := by
  induction hp with
  | done hpost => exact .done (h _ _ hpost)
  | call hallowed _ ih => exact .call hallowed ih

theorem Obeys.bind {mid : α → δ → Prop} {post : β → δ → Prop} {p : Program Op Ans α}
    {f : α → Program Op Ans β} {d : δ} (hp : Obeys allowed next mid d p)
    (hf : ∀ a d', mid a d' → Obeys allowed next post d' (f a)) :
    Obeys allowed next post d (p >>= f) := by
  change Obeys allowed next post d (p.bind f)
  induction hp with
  | done h => exact hf _ _ h
  | call h hrest ih => exact .call h fun ans ↦ ih ans

/-- A call in front of a program: the rest starts from the state the answer leads to. -/
theorem obeys_perform_bind {post : β → δ → Prop} {op : Op} {f : Ans op → Program Op Ans β} {d : δ}
    (h : allowed d op) (hf : ∀ ans, Obeys allowed next post (next d op ans) (f ans)) :
    Obeys allowed next post d (perform op >>= f) :=
  .call h hf

end Program
