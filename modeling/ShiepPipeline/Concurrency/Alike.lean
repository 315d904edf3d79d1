import Mathlib.Data.List.Forall2
import ShiepPipeline.Concurrency.Fallible

/-!
# Programs that hide something

Two programs are alike if they make the same calls, except that some calls may be given different
arguments. `hides` says which calls may differ, and how an answer to one of them is an answer to
the other. A program that gets a secret and gives it to such calls only is alike to itself with any
other secret: `Alike.of_runs` says that whoever sees the other calls and the result cannot tell.
-/

namespace Program

variable {Op : Type} {Ans : Op → Type} {α β ε ε' : Type}
  {hides : (op op' : Op) → (Ans op → Ans op') → Prop}

inductive Alike (hides : (op op' : Op) → (Ans op → Ans op') → Prop) :
    Program Op Ans α → Program Op Ans α → Prop
  | done {a : α} : Alike hides (.done a) (.done a)
  | same {op : Op} {next next' : Ans op → Program Op Ans α}
      (h : ∀ ans, Alike hides (next ans) (next' ans)) : Alike hides (.call op next) (.call op next')
  | hidden {op op' : Op} {f : Ans op → Ans op'} {next : Ans op → Program Op Ans α}
      {next' : Ans op' → Program Op Ans α} (hop : hides op op' f)
      (h : ∀ ans, Alike hides (next ans) (next' (f ans))) :
      Alike hides (.call op next) (.call op' next')

/-- The same call, or two that hide their argument. -/
inductive AlikeCall (hides : (op op' : Op) → (Ans op → Ans op') → Prop) :
    Exchange Op Ans → Exchange Op Ans → Prop
  | same {e : Exchange Op Ans} : AlikeCall hides e e
  | hidden {op op' : Op} {f : Ans op → Ans op'} (hop : hides op op' f) (ans : Ans op) :
      AlikeCall hides ⟨op, ans⟩ ⟨op', f ans⟩

theorem Alike.refl (p : Program Op Ans α) : Alike hides p p := by
  induction p with
  | done a => exact .done
  | call op next ih => exact .same ih

theorem Alike.bind {p p' : Program Op Ans α} {f f' : α → Program Op Ans β} (h : Alike hides p p')
    (hf : ∀ a, Alike hides (f a) (f' a)) : Alike hides (p >>= f) (p' >>= f') := by
  change Alike hides (p.bind f) (p'.bind f')
  induction h with
  | done => exact hf _
  | same _ ih => exact .same ih
  | hidden hop _ ih => exact .hidden hop ih

/-- **Nobody can tell**: what one program does the other can do, with the same result. -/
theorem Alike.of_runs {p p' : Program Op Ans α} (h : Alike hides p p')
    {t : List (Exchange Op Ans)} {a : α} (hrun : Runs p t a) :
    ∃ t', Runs p' t' a ∧ List.Forall₂ (AlikeCall hides) t t' := by
  induction hrun generalizing p' with
  | done =>
    obtain _ | _ := h
    exact ⟨[], .done, .nil⟩
  | call ans _ ih =>
    obtain _ | ⟨hnext⟩ | ⟨hop, hnext⟩ := h
    · obtain ⟨t', hrun', hcalls⟩ := ih (hnext ans)
      exact ⟨_, .call ans hrun', .cons .same hcalls⟩
    · obtain ⟨t', hrun', hcalls⟩ := ih (hnext ans)
      exact ⟨_, .call _ hrun', .cons (.hidden hop ans) hcalls⟩

namespace Fallible

theorem alike_bind {p p' : Fallible ε Op Ans α} {f f' : α → Fallible ε Op Ans β}
    (h : Alike hides p.run p'.run) (hf : ∀ a, Alike hides (f a).run (f' a).run) :
    Alike hides (p >>= f).run (p' >>= f').run := by
  refine Alike.bind h fun r ↦ ?_
  rcases r with e | a
  · exact .done
  · exact hf a

theorem alike_attempt {p p' : Program Op Ans (Except ε' α)} (h : Alike hides p p') (f : ε' → ε) :
    Alike hides (attempt p f : Fallible ε Op Ans α).run (attempt p' f).run :=
  Alike.bind h fun _ ↦ .refl _

end Fallible

end Program
