import Mathlib.Data.List.Basic
import ShiepPipeline.Concurrency.Fallible

/-!
# Coming round

A loop may be asked at any point of its body whether it can come to the end of the pass. `GoesRound`
says that it can, by good answers, except where it stands before a call that is a place to rest.
It is a property of the body alone, and holds at every point of every run.
-/

open Program

theorem Program.runs_perform_bind {Op : Type} {Ans : Op → Type} {α : Type} {op : Op} {ans : Ans op}
    {f : Ans op → Program Op Ans α} {t : List (Exchange Op Ans)} {a : α} (h : Runs (f ans) t a) :
    Runs (perform op >>= f) (⟨op, ans⟩ :: t) a := .call ans h

namespace Thread

variable {Op : Type} {Ans : Op → Type} {σ ρ : Type}

/-- The program comes to the end of the pass if the answers are good. -/
def Finishes (good : Exchange Op Ans → Prop) (p : Program Op Ans (σ ⊕ ρ)) : Prop :=
  ∃ t s, Runs p t (.inl s) ∧ ∀ e ∈ t, good e

/-- It does so from every point where it does not rest, whatever it was answered before. -/
inductive GoesRound (good : Exchange Op Ans → Prop) (rest : Op → Prop) :
    Program Op Ans (σ ⊕ ρ) → Prop
  | done {x : σ ⊕ ρ} : GoesRound good rest (.done x)
  | call {op : Op} {next : Ans op → Program Op Ans (σ ⊕ ρ)}
      (hrun : ¬rest op → Finishes good (.call op next))
      (hnext : ∀ ans, GoesRound good rest (next ans)) : GoesRound good rest (.call op next)

variable {good : Exchange Op Ans → Prop} {rest : Op → Prop} {body : σ → Program Op Ans (σ ⊕ ρ)}

theorem Finishes.done {s : σ} : Finishes good (.done (.inl s) : Program Op Ans (σ ⊕ ρ)) :=
  ⟨[], s, .done, nofun⟩

theorem Finishes.call {op : Op} {next : Ans op → Program Op Ans (σ ⊕ ρ)} (ans : Ans op)
    (hgood : good ⟨op, ans⟩) (h : Finishes good (next ans)) : Finishes good (.call op next) := by
  obtain ⟨t, s, hrun, ht⟩ := h
  exact ⟨_, s, .call ans hrun, List.forall_mem_cons.mpr ⟨hgood, ht⟩⟩

theorem finishes_perform_bind {op : Op} {f : Ans op → Program Op Ans (σ ⊕ ρ)} (ans : Ans op)
    (hgood : good ⟨op, ans⟩) (h : Finishes good (f ans)) : Finishes good (perform op >>= f) :=
  .call ans hgood h

theorem goesRound_perform_bind {op : Op} {f : Ans op → Program Op Ans (σ ⊕ ρ)}
    (hrun : ¬rest op → Finishes good (perform op >>= f))
    (hnext : ∀ ans, GoesRound good rest (f ans)) : GoesRound good rest (perform op >>= f) :=
  .call hrun hnext

theorem GoesRound.step (hbody : ∀ s, GoesRound good rest (body s)) {th th' : Thread Op Ans σ ρ}
    {e : Option (Exchange Op Ans)} (h : GoesRound good rest th.left) (hstep : Step body th e th') :
    GoesRound good rest th'.left := by
  cases hstep with
  | call ans =>
    obtain _ | ⟨-, hnext⟩ := h
    exact hnext ans
  | again => exact hbody _

/-- A thread that has not ended rests or comes to the end of the pass. -/
theorem GoesRound.rests_or_finishes {th : Thread Op Ans σ ρ} (h : GoesRound good rest th.left)
    (hend : ∀ r, ¬th.Ended r) :
    (∃ op next, rest op ∧ th.left = .call op next) ∨ Finishes good th.left := by
  obtain ⟨trace, left⟩ := th
  cases h with
  | @done x =>
    rcases x with s | r
    · exact .inr .done
    · exact absurd rfl (hend r)
  | @call op next hrun hnext =>
    by_cases hrest : rest op
    · exact .inl ⟨op, next, hrest, rfl⟩
    · exact .inr (hrun hrest)

end Thread
