import Mathlib.Logic.Function.Basic
import Mathlib.Logic.Relation
import ShiepPipeline.Concurrency.Program

/-!
# Threads that share memory

Any number of threads work on requests, each in its own time. A thread runs the program of its
request one call at a time. A call reads and changes the memory that all of them share, and may have
to wait: `handle` relates what a thread may be answered, and the memory after that, to the memory
before.

`Shared.Outline` is what a proof about such a system has to come up with. Each thread is at a
`spot`, a state of a rule of use that its own calls move on, and an invariant relates the memory to
the spots of all threads. Every program obeys the rule for itself, whatever the others do, and every
call that the rule allows keeps the invariant. The invariant then holds in every interleaving.
-/

open Program

namespace Shared

/-- A request that has been worked off. -/
structure Return (Tid Req ρ : Type) where
  thread : Tid
  req : Req
  result : ρ

structure State (Tid Req Op : Type) (Ans : Op → Type) (ρ σ : Type) where
  memory : σ
  running : Tid → Option (Req × Program Op Ans ρ)
  /-- What has been worked off, the earliest first. -/
  returned : List (Return Tid Req ρ)

variable {Tid Req Op : Type} {Ans : Op → Type} {ρ σ δ : Type} [DecidableEq Tid]

/-- What a call of a thread may be answered, and the memory before and after it. -/
abbrev Memory (Tid Op : Type) (Ans : Op → Type) (σ : Type) :=
  Tid → (op : Op) → σ → Ans op → σ → Prop

inductive Step (body : Req → Program Op Ans ρ) (handle : Memory Tid Op Ans σ) :
    State Tid Req Op Ans ρ σ → State Tid Req Op Ans ρ σ → Prop
  | start {s : State Tid Req Op Ans ρ σ} {t : Tid} (req : Req) (ht : s.running t = none) :
      Step body handle s
        { s with running := Function.update s.running t (some (req, body req)) }
  | call {s : State Tid Req Op Ans ρ σ} {t : Tid} {req : Req} {op : Op}
      {next : Ans op → Program Op Ans ρ} {ans : Ans op} {memory : σ}
      (ht : s.running t = some (req, .call op next)) (hop : handle t op s.memory ans memory) :
      Step body handle s
        { s with
          memory := memory
          running := Function.update s.running t (some (req, next ans)) }
  | finish {s : State Tid Req Op Ans ρ σ} {t : Tid} {req : Req} {r : ρ}
      (ht : s.running t = some (req, .done r)) :
      Step body handle s
        { s with
          running := Function.update s.running t none
          returned := s.returned ++ [⟨t, req, r⟩] }

/-- The states of runs in which nobody has anything to do at first. -/
def Reachable (body : Req → Program Op Ans ρ) (handle : Memory Tid Op Ans σ) (memory : σ)
    (s : State Tid Req Op Ans ρ σ) : Prop :=
  Relation.ReflTransGen (Step body handle) ⟨memory, fun _ ↦ none, []⟩ s

/-- A rule of use for each thread, and an invariant of the memory that goes with it. Threads that do
nothing are at the spot `rest`. -/
structure Outline (body : Req → Program Op Ans ρ) (handle : Memory Tid Op Ans σ) (δ : Type) where
  allowed : δ → Op → Prop
  next : δ → (op : Op) → Ans op → δ
  rest : δ
  post : Req → ρ → δ → Prop
  inv : σ → (Tid → δ) → List (Return Tid Req ρ) → Prop
  obeys : ∀ req, Obeys allowed next (post req) rest (body req)
  call : ∀ {t op ans memory memory' spot returned}, inv memory spot returned →
    allowed (spot t) op → handle t op memory ans memory' →
    inv memory' (Function.update spot t (next (spot t) op ans)) returned
  finish : ∀ {t req r memory spot returned}, inv memory spot returned → post req r (spot t) →
    inv memory (Function.update spot t rest) (returned ++ [⟨t, req, r⟩])

namespace Outline

variable {body : Req → Program Op Ans ρ} {handle : Memory Tid Op Ans σ}
  (O : Outline body handle δ)

/-- A thread at a spot has a program to run that obeys the rule from there. -/
def Fits (spot : δ) : Option (Req × Program Op Ans ρ) → Prop
  | none => spot = O.rest
  | some (req, p) => Obeys O.allowed O.next (O.post req) spot p

def Holds (s : State Tid Req Op Ans ρ σ) : Prop :=
  ∃ spot : Tid → δ, O.inv s.memory spot s.returned ∧ ∀ t, O.Fits (spot t) (s.running t)

variable {O}

theorem fits_update {spot : Tid → δ} {running : Tid → Option (Req × Program Op Ans ρ)}
    (h : ∀ t, O.Fits (spot t) (running t)) {t : Tid} {d : δ}
    {work : Option (Req × Program Op Ans ρ)} (ht : O.Fits d work) (t' : Tid) :
    O.Fits (Function.update spot t d t') (Function.update running t work t') := by
  by_cases heq : t' = t
  · subst heq
    rw [Function.update_self, Function.update_self]
    exact ht
  · rw [Function.update_of_ne heq, Function.update_of_ne heq]
    exact h t'

theorem Holds.step {s s' : State Tid Req Op Ans ρ σ} (h : O.Holds s)
    (hstep : Step body handle s s') : O.Holds s' := by
  obtain ⟨spot, hinv, hfits⟩ := h
  cases hstep with
  | @start t req ht =>
    refine ⟨spot, hinv, fun t' ↦ ?_⟩
    have hrest := hfits t
    rw [ht] at hrest
    have hspot : Function.update spot t O.rest = spot :=
      Function.update_eq_self_iff.mpr hrest.symm
    have hfit : O.Fits O.rest (some (req, body req)) := O.obeys req
    rw [← hspot]
    exact fits_update hfits hfit t'
  | @call t req op next ans memory ht hop =>
    have hobeys := hfits t
    rw [ht] at hobeys
    obtain _ | ⟨hallowed, hrest⟩ := hobeys
    exact ⟨_, O.call hinv hallowed hop, fits_update hfits (hrest ans)⟩
  | @finish t req r ht =>
    have hobeys := hfits t
    rw [ht] at hobeys
    obtain ⟨hpost⟩ := hobeys
    exact ⟨_, O.finish hinv hpost, fits_update hfits rfl⟩

/-- **The invariant holds in every interleaving.** -/
theorem holds_of_reachable {memory : σ} {s : State Tid Req Op Ans ρ σ}
    (hinit : O.inv memory (fun _ ↦ O.rest) []) (h : Reachable body handle memory s) :
    O.Holds s := by
  induction h with
  | refl => exact ⟨fun _ ↦ O.rest, hinit, fun _ ↦ rfl⟩
  | tail _ hstep ih => exact ih.step hstep

/-- A thread that no call keeps waiting, as long as `P` holds, can come to its end. -/
theorem Holds.exists_finish {P : σ → Prop} {t : Tid}
    (henabled : ∀ {memory spot returned op}, O.inv memory spot returned → P memory →
      O.allowed (spot t) op → ∃ ans memory', handle t op memory ans memory' ∧ P memory')
    {s : State Tid Req Op Ans ρ σ} (h : O.Holds s) (hP : P s.memory) :
    ∃ s', Relation.ReflTransGen (Step body handle) s s'
      ∧ s'.running = Function.update s.running t none ∧ P s'.memory := by
  rcases hrunning : s.running t with _ | ⟨req, p⟩
  · exact ⟨s, .refl, (Function.update_eq_self_iff.mpr hrunning.symm).symm, hP⟩
  induction p generalizing s with
  | done r =>
    exact ⟨_, .single (.finish hrunning), rfl, hP⟩
  | call op next ih =>
    obtain ⟨spot, hinv, hfits⟩ := id h
    have hobeys := hfits t
    rw [hrunning] at hobeys
    obtain _ | ⟨hallowed, -⟩ := hobeys
    obtain ⟨ans, memory', hop, hP'⟩ := henabled hinv hP hallowed
    have hstep : Step body handle s _ := .call hrunning hop
    obtain ⟨s', hrun, hs', hend⟩ := ih ans (h.step hstep) hP' (Function.update_self ..)
    refine ⟨s', hrun.head hstep, ?_, hend⟩
    rw [hs']
    exact Function.update_idem ..

end Outline

/-! ## Running alone -/

/-- What a thread does when nobody else makes a call. -/
inductive Alone (handle : Memory Tid Op Ans σ) (t : Tid) :
    Program Op Ans ρ → σ → ρ → σ → Prop
  | done {r : ρ} {memory : σ} : Alone handle t (.done r) memory r memory
  | call {op : Op} {next : Ans op → Program Op Ans ρ} {memory memory' memory'' : σ} {ans : Ans op}
      {r : ρ} (hop : handle t op memory ans memory')
      (h : Alone handle t (next ans) memory' r memory'') :
      Alone handle t (.call op next) memory r memory''

variable {body : Req → Program Op Ans ρ} {handle : Memory Tid Op Ans σ}

/-- What a thread does alone it can do among the others. -/
theorem Reachable.alone {memory memory' : σ} {s : State Tid Req Op Ans ρ σ}
    (h : Reachable body handle memory s) {t : Tid} (ht : s.running t = none) {req : Req} {r : ρ}
    (halone : Alone handle t (body req) s.memory r memory') :
    Reachable body handle memory
      { s with memory := memory', returned := s.returned ++ [⟨t, req, r⟩] } := by
  have hrun : ∀ {p : Program Op Ans ρ} {m : σ}, Alone handle t p m r memory' →
      Reachable body handle memory ⟨m, Function.update s.running t (some (req, p)), s.returned⟩ →
      Reachable body handle memory ⟨memory', s.running, s.returned ++ [⟨t, req, r⟩]⟩ := by
    clear halone
    intro p m hp
    induction hp with
    | @done r _ =>
      intro hs
      have hrest : Function.update (Function.update s.running t (some (req, .done r))) t none
          = s.running := by
        rw [Function.update_idem]
        exact Function.update_eq_self_iff.mpr ht.symm
      have hfinish := hs.tail (.finish (Function.update_self ..))
      dsimp only at hfinish
      rwa [hrest] at hfinish
    | call hop _ ih =>
      intro hs
      have hcall := hs.tail (.call (Function.update_self ..) hop)
      dsimp only at hcall
      rw [Function.update_idem] at hcall
      exact ih hcall
  exact hrun halone (h.tail (.start req ht))

end Shared
