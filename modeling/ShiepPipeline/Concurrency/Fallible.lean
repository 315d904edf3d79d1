import Mathlib.Data.Nat.Notation
import ShiepPipeline.Concurrency.Thread

/-!
# Programs that may fail

A fallible program ends in a value or in an error, and an error ends everything that was to come
after. `Fallible.Meets` is a triple for such programs: from a state of an observer that notes every
call and its answer, the program ends in a state that fits its value or its error.

`Program.Runs` are the complete runs of a program with the calls they make. What a triple says of
the observer's last state holds of every complete run.
-/

namespace Program

variable {Op : Type} {Ans : Op → Type} {α β δ ε ε' : Type}

/-- A complete run: the calls and their answers, and the value at the end. -/
inductive Runs : Program Op Ans α → List (Exchange Op Ans) → α → Prop
  | done {a : α} : Runs (.done a) [] a
  | call {op : Op} {next : Ans op → Program Op Ans α} {t : List (Exchange Op Ans)} {a : α}
      (ans : Ans op) (h : Runs (next ans) t a) : Runs (.call op next) (⟨op, ans⟩ :: t) a

theorem runs_pure_iff {a b : α} {t : List (Exchange Op Ans)} :
    Runs (pure a : Program Op Ans α) t b ↔ t = [] ∧ b = a := by
  constructor
  · intro h
    obtain _ | _ := h
    exact ⟨rfl, rfl⟩
  · rintro ⟨rfl, rfl⟩
    exact .done

theorem runs_perform_iff {op : Op} {ans : Ans op} {t : List (Exchange Op Ans)} :
    Runs (perform op : Program Op Ans (Ans op)) t ans ↔ t = [⟨op, ans⟩] := by
  constructor
  · intro h
    obtain _ | ⟨_, h⟩ := h
    obtain _ | _ := h
    rfl
  · rintro rfl
    exact .call ans .done

/-- A run of one program after another is a run of each. -/
theorem runs_bind_iff {p : Program Op Ans α} {f : α → Program Op Ans β}
    {t : List (Exchange Op Ans)} {b : β} :
    Runs (p >>= f) t b ↔ ∃ t₁ a t₂, Runs p t₁ a ∧ Runs (f a) t₂ b ∧ t = t₁ ++ t₂ := by
  change Runs (p.bind f) t b ↔ _
  induction p generalizing t with
  | done a =>
    constructor
    · intro h
      exact ⟨[], a, t, .done, h, rfl⟩
    · rintro ⟨t₁, a', t₂, h₁, h₂, rfl⟩
      obtain _ | _ := h₁
      exact h₂
  | call op next ih =>
    constructor
    · intro h
      obtain _ | ⟨ans, h⟩ := h
      obtain ⟨t₁, a, t₂, h₁, h₂, rfl⟩ := (ih ans).mp h
      exact ⟨⟨op, ans⟩ :: t₁, a, t₂, .call ans h₁, h₂, rfl⟩
    · rintro ⟨t₁, a, t₂, h₁, h₂, rfl⟩
      obtain _ | ⟨ans, h₁⟩ := h₁
      exact .call ans ((ih ans).mpr ⟨_, a, t₂, h₁, h₂, rfl⟩)

variable {allowed : δ → Op → Prop} {note : δ → (op : Op) → Ans op → δ}

/-- What an observer has noted after a list of calls. -/
def observe (note : δ → (op : Op) → Ans op → δ) (d : δ) (t : List (Exchange Op Ans)) : δ :=
  t.foldl (fun d e ↦ note d e.1 e.2) d

theorem Obeys.of_runs {post : α → δ → Prop} {p : Program Op Ans α} {d : δ}
    {t : List (Exchange Op Ans)} {a : α} (h : Obeys allowed note post d p) (hrun : Runs p t a) :
    post a (observe note d t) := by
  induction hrun generalizing d with
  | done =>
    obtain ⟨hpost⟩ := h
    exact hpost
  | call ans _ ih =>
    obtain _ | ⟨-, hrest⟩ := h
    exact ih (hrest ans)

/-- Every call of a run was allowed at its time. -/
theorem Obeys.allowed_of_runs {post : α → δ → Prop} {p : Program Op Ans α} {d : δ}
    {t : List (Exchange Op Ans)} {a : α} (h : Obeys allowed note post d p) (hrun : Runs p t a)
    {front back : List (Exchange Op Ans)} {e : Exchange Op Ans} (ht : t = front ++ e :: back) :
    allowed (observe note d front) e.1 := by
  induction hrun generalizing d front with
  | done => exact absurd ht.symm (List.append_ne_nil_of_right_ne_nil _ (List.cons_ne_nil _ _))
  | call ans _ ih =>
    obtain _ | ⟨hallowed, hrest⟩ := h
    obtain _ | ⟨first, front⟩ := front
    · obtain ⟨rfl, -⟩ := List.cons.inj ht
      exact hallowed
    · obtain ⟨rfl, hback⟩ := List.cons.inj ht
      exact ih (hrest ans) hback

theorem observe_log (t t' : List (Exchange Op Ans)) : observe Thread.log t t' = t ++ t' := by
  induction t' generalizing t with
  | nil => exact (List.append_nil t).symm
  | cons e t' ih => exact (ih _).trans (List.append_assoc ..)

/-- A program that ends in a value or in an error. -/
abbrev Fallible (ε : Type) (Op : Type) (Ans : Op → Type) (α : Type) := ExceptT ε (Program Op Ans) α

namespace Fallible

/-- A condition for each value, and one for all errors. -/
def outcome (post : α → δ → Prop) (fail : δ → Prop) : Except ε α → δ → Prop
  | .ok a => post a
  | .error _ => fail

/-- From the observer's state `d`, the program makes only allowed calls and ends in a state that
fits its value or error. -/
def Meets (allowed : δ → Op → Prop) (note : δ → (op : Op) → Ans op → δ) (post : α → δ → Prop)
    (fail : δ → Prop) (d : δ) (p : Fallible ε Op Ans α) : Prop :=
  Obeys allowed note (outcome post fail) d p.run

/-- A call that answers with a value or an error, which is turned into an error of the program. -/
def attempt (p : Program Op Ans (Except ε' α)) (f : ε' → ε) : Fallible ε Op Ans α :=
  ExceptT.mk do
    match ← p with
    | .ok a => return .ok a
    | .error e => return .error (f e)

/-- A call whose answer is a value. -/
def lift (p : Program Op Ans α) : Fallible ε Op Ans α := ExceptT.mk do
  let a ← p
  return .ok a

/-- A program whose result, a value or an error, is dropped. -/
def ignore (p : Fallible ε' Op Ans α) : Fallible ε Op Ans Unit := ExceptT.mk do
  let _ ← p.run
  return .ok ()

/-! ## Running alone -/

section Alone

variable {σ : Type} {handle : Handler Op Ans σ} {s s' : σ}

theorem run_attempt_ok {p : Program Op Ans (Except ε' α)} {f : ε' → ε} {a : α}
    (h : p.run handle s = (.ok a, s')) :
    (attempt p f : Fallible ε Op Ans α).run.run handle s = (.ok a, s') := by
  change (p >>= _).run handle s = _
  rw [run_bind, h]
  rfl

theorem run_attempt_error {p : Program Op Ans (Except ε' α)} {f : ε' → ε} {e : ε'}
    (h : p.run handle s = (.error e, s')) :
    (attempt p f : Fallible ε Op Ans α).run.run handle s = (.error (f e), s') := by
  change (p >>= _).run handle s = _
  rw [run_bind, h]
  rfl

/-- After a value the rest runs. -/
theorem run_bind_ok {p : Fallible ε Op Ans β} {f : β → Fallible ε Op Ans α} {b : β}
    (h : p.run.run handle s = (.ok b, s')) :
    (p >>= f).run.run handle s = (f b).run.run handle s' := by
  change (p.run >>= _).run handle s = _
  rw [run_bind, h]
  rfl

theorem run_bind_error {p : Fallible ε Op Ans β} {f : β → Fallible ε Op Ans α} {e : ε}
    (h : p.run.run handle s = (.error e, s')) :
    (p >>= f).run.run handle s = (.error e, s') := by
  change (p.run >>= _).run handle s = _
  rw [run_bind, h]
  rfl

/-- A value at the end comes from a value in between. -/
theorem run_bind_eq_ok_iff {p : Fallible ε Op Ans β} {f : β → Fallible ε Op Ans α} {a : α} :
    (p >>= f).run.run handle s = (.ok a, s')
      ↔ ∃ b s₁, p.run.run handle s = (.ok b, s₁) ∧ (f b).run.run handle s₁ = (.ok a, s') := by
  rcases hp : p.run.run handle s with ⟨e | b, s₁⟩
  · rw [run_bind_error hp]
    refine iff_of_false ?_ ?_
    · intro h
      cases (Prod.mk.inj h).1
    · rintro ⟨b, s₂, h, -⟩
      cases (Prod.mk.inj h).1
  · rw [run_bind_ok hp]
    constructor
    · intro h
      exact ⟨b, s₁, rfl, h⟩
    · rintro ⟨b', s₂, h, hf⟩
      obtain ⟨hb, rfl⟩ := Prod.mk.inj h
      rwa [Except.ok.inj hb]

end Alone

/-! ## Loops that only an error ends -/

section Passes

variable {σ τ : Type} {handle : Handler Op Ans τ} {body : σ → Fallible ε Op Ans σ} {s s' : σ}
  {w w' : τ} {n : ℕ}

/-- The loop after a number of passes. Once a pass has failed nothing more is done. -/
def passes (handle : Handler Op Ans τ) (body : σ → Fallible ε Op Ans σ) (s : σ) (w : τ) :
    ℕ → Except ε σ × τ
  | 0 => (.ok s, w)
  | n + 1 =>
    match passes handle body s w n with
    | (.ok s', w') => (body s').run.run handle w'
    | (.error e, w') => (.error e, w')

theorem passes_succ_ok (h : passes handle body s w n = (.ok s', w')) :
    passes handle body s w (n + 1) = (body s').run.run handle w' := by
  rw [passes, h]

/-- A loop that has ended stays as it ended. -/
theorem passes_error_of_le {e : ε} (h : passes handle body s w n = (.error e, w')) {m : ℕ}
    (hnm : n ≤ m) : passes handle body s w m = (.error e, w') := by
  induction hnm with
  | refl => exact h
  | step _ ih => rw [passes, ih]

end Passes

/-! ## Complete runs -/

section Runs

variable {t : List (Exchange Op Ans)}

theorem runs_pure_iff {a : α} {r : Except ε α} :
    Runs (pure a : Fallible ε Op Ans α).run t r ↔ t = [] ∧ r = .ok a :=
  Program.runs_pure_iff

theorem runs_throw_iff {e : ε} {r : Except ε α} :
    Runs (throw e : Fallible ε Op Ans α).run t r ↔ t = [] ∧ r = .error e :=
  Program.runs_pure_iff

theorem runs_attempt_iff {p : Program Op Ans (Except ε' α)} {f : ε' → ε} {r : Except ε α} :
    Runs (attempt p f).run t r
      ↔ (∃ e, Runs p t (.error e) ∧ r = .error (f e)) ∨ ∃ a, Runs p t (.ok a) ∧ r = .ok a := by
  refine runs_bind_iff.trans ?_
  constructor
  · rintro ⟨t₁, e | a, t₂, h₁, h₂, rfl⟩
    · obtain ⟨rfl, rfl⟩ := Program.runs_pure_iff.mp h₂
      rw [List.append_nil]
      exact .inl ⟨e, h₁, rfl⟩
    · obtain ⟨rfl, rfl⟩ := Program.runs_pure_iff.mp h₂
      rw [List.append_nil]
      exact .inr ⟨a, h₁, rfl⟩
  · rintro (⟨e, h, rfl⟩ | ⟨a, h, rfl⟩)
    · exact ⟨t, .error e, [], h, Program.runs_pure_iff.mpr ⟨rfl, rfl⟩, (List.append_nil t).symm⟩
    · exact ⟨t, .ok a, [], h, Program.runs_pure_iff.mpr ⟨rfl, rfl⟩, (List.append_nil t).symm⟩

theorem runs_lift_iff {p : Program Op Ans α} {r : Except ε α} :
    Runs (lift p : Fallible ε Op Ans α).run t r ↔ ∃ a, Runs p t a ∧ r = .ok a := by
  refine runs_bind_iff.trans ?_
  constructor
  · rintro ⟨t₁, a, t₂, h₁, h₂, rfl⟩
    obtain ⟨rfl, rfl⟩ := Program.runs_pure_iff.mp h₂
    rw [List.append_nil]
    exact ⟨a, h₁, rfl⟩
  · rintro ⟨a, h, rfl⟩
    exact ⟨t, a, [], h, Program.runs_pure_iff.mpr ⟨rfl, rfl⟩, (List.append_nil t).symm⟩

/-- An error ends the run, and after a value the rest runs. -/
theorem runs_bind_iff {p : Fallible ε Op Ans β} {f : β → Fallible ε Op Ans α} {r : Except ε α} :
    Runs (p >>= f).run t r ↔ (∃ e, Runs p.run t (.error e) ∧ r = .error e)
      ∨ ∃ t₁ b t₂, Runs p.run t₁ (.ok b) ∧ Runs (f b).run t₂ r ∧ t = t₁ ++ t₂ := by
  refine Program.runs_bind_iff.trans ?_
  constructor
  · rintro ⟨t₁, ans, t₂, h₁, h₂, rfl⟩
    obtain e | b := ans
    · obtain ⟨rfl, rfl⟩ := Program.runs_pure_iff.mp h₂
      rw [List.append_nil]
      exact .inl ⟨e, h₁, rfl⟩
    · exact .inr ⟨t₁, b, t₂, h₁, h₂, rfl⟩
  · rintro (⟨e, h, rfl⟩ | ⟨t₁, b, t₂, h₁, h₂, rfl⟩)
    · exact ⟨t, .error e, [], h, Program.runs_pure_iff.mpr ⟨rfl, rfl⟩, (List.append_nil t).symm⟩
    · exact ⟨t₁, .ok b, t₂, h₁, h₂, rfl⟩

/-- A call in front of a program: its error ends the run, changed as the program says. -/
theorem runs_attempt_bind_iff {p : Program Op Ans (Except ε' β)} {f : ε' → ε}
    {g : β → Fallible ε Op Ans α} {r : Except ε α} :
    Runs (attempt p f >>= g).run t r ↔ (∃ e, Runs p t (.error e) ∧ r = .error (f e))
      ∨ ∃ t₁ b t₂, Runs p t₁ (.ok b) ∧ Runs (g b).run t₂ r ∧ t = t₁ ++ t₂ := by
  rw [runs_bind_iff]
  constructor
  · rintro (⟨e, h, rfl⟩ | ⟨t₁, b, t₂, h₁, h₂, rfl⟩)
    · obtain ⟨e', h', he⟩ | ⟨a, -, ha⟩ := runs_attempt_iff.mp h
      · obtain rfl := Except.error.inj he
        exact .inl ⟨e', h', rfl⟩
      · cases ha
    · obtain ⟨e', -, he⟩ | ⟨a, h', ha⟩ := runs_attempt_iff.mp h₁
      · cases he
      · obtain rfl := Except.ok.inj ha
        exact .inr ⟨t₁, b, t₂, h', h₂, rfl⟩
  · rintro (⟨e, h, rfl⟩ | ⟨t₁, b, t₂, h₁, h₂, rfl⟩)
    · exact .inl ⟨f e, runs_attempt_iff.mpr (.inl ⟨e, h, rfl⟩), rfl⟩
    · exact .inr ⟨t₁, b, t₂, runs_attempt_iff.mpr (.inr ⟨b, h₁, rfl⟩), h₂, rfl⟩

/-- A value at the end comes from a value in between. -/
theorem runs_attempt_bind_ok_iff {p : Program Op Ans (Except ε' β)} {f : ε' → ε}
    {g : β → Fallible ε Op Ans α} {a : α} :
    Runs (attempt p f >>= g).run t (.ok a)
      ↔ ∃ t₁ b t₂, Runs p t₁ (.ok b) ∧ Runs (g b).run t₂ (.ok a) ∧ t = t₁ ++ t₂ := by
  rw [runs_attempt_bind_iff]
  constructor
  · rintro (⟨e, -, h⟩ | h)
    · cases h
    · exact h
  · exact .inr

/-- A check that makes no call. -/
theorem runs_check_bind_ok_iff {x : Except ε' β} {f : ε' → ε} {g : β → Fallible ε Op Ans α}
    {a : α} :
    Runs (attempt (pure x) f >>= g).run t (.ok a) ↔ ∃ b, x = .ok b ∧ Runs (g b).run t (.ok a) := by
  rw [runs_attempt_bind_ok_iff]
  constructor
  · rintro ⟨t₁, b, t₂, h₁, h₂, rfl⟩
    obtain ⟨rfl, rfl⟩ := Program.runs_pure_iff.mp h₁
    exact ⟨b, rfl, h₂⟩
  · rintro ⟨b, rfl, h⟩
    exact ⟨[], b, t, Program.runs_pure_iff.mpr ⟨rfl, rfl⟩, h, rfl⟩

end Runs

/-! ## Triples -/

variable {post : α → δ → Prop} {fail : δ → Prop} {d : δ}

theorem meets_pure {a : α} (h : post a d) :
    Meets allowed note post fail d (pure a : Fallible ε Op Ans α) :=
  obeys_pure h

theorem meets_throw {e : ε} (h : fail d) :
    Meets allowed note post fail d (throw e : Fallible ε Op Ans α) :=
  obeys_pure h

/-- A weaker condition for the values. -/
theorem Meets.mono {post' : α → δ → Prop} {p : Fallible ε Op Ans α}
    (hp : Meets allowed note post fail d p) (h : ∀ a d', post a d' → post' a d') :
    Meets allowed note post' fail d p := by
  refine Obeys.mono hp fun r d' hr ↦ ?_
  cases r with
  | ok a => exact h a d' hr
  | error e => exact hr

theorem Meets.bind {mid : β → δ → Prop} {p : Fallible ε Op Ans β} {f : β → Fallible ε Op Ans α}
    (hp : Meets allowed note mid fail d p)
    (hf : ∀ b d', mid b d' → Meets allowed note post fail d' (f b)) :
    Meets allowed note post fail d (p >>= f) := by
  refine Obeys.bind hp fun r d' hmid ↦ ?_
  cases r with
  | ok b => exact hf b d' hmid
  | error e => exact obeys_pure hmid

/-- Changing the text of an error. -/
theorem Meets.adapt {p : Fallible ε' Op Ans α} (hp : Meets allowed note post fail d p)
    (f : ε' → ε) :
    Meets allowed note post fail d (ExceptT.adapt f p) := by
  refine Obeys.bind hp fun r d' hmid ↦ ?_
  cases r with
  | ok a => exact obeys_pure hmid
  | error e => exact obeys_pure hmid

/-- A handler for the errors. -/
theorem Meets.tryCatch {mid : δ → Prop} {p : Fallible ε Op Ans α} {f : ε → Fallible ε Op Ans α}
    (hp : Meets allowed note post mid d p)
    (hf : ∀ e d', mid d' → Meets allowed note post fail d' (f e)) :
    Meets allowed note post fail d (tryCatch p f) := by
  refine Obeys.bind hp fun r d' hmid ↦ ?_
  cases r with
  | ok a => exact obeys_pure hmid
  | error e => exact hf e d' hmid

theorem Meets.ignore {post : δ → Prop} {p : Fallible ε' Op Ans α}
    (hp : Meets allowed note (fun _ ↦ post) post d p) :
    Meets allowed note (fun _ ↦ post) fail d (ignore p : Fallible ε Op Ans Unit) := by
  refine Obeys.bind hp fun r d' hmid ↦ obeys_pure ?_
  cases r with
  | ok a => exact hmid
  | error e => exact hmid

theorem meets_attempt {p : Program Op Ans (Except ε' α)} {f : ε' → ε}
    (hp : Obeys allowed note (outcome post fail) d p) :
    Meets allowed note post fail d (attempt p f) := by
  refine Obeys.bind hp fun r d' hmid ↦ ?_
  cases r with
  | ok a => exact obeys_pure hmid
  | error e => exact obeys_pure hmid

/-- A check that makes no call. -/
theorem meets_check {x : Except ε' β} {f : ε' → ε} (h : fail d) :
    Meets allowed note (fun b d' ↦ x = .ok b ∧ d = d') fail d
      (attempt (pure x) f : Fallible ε Op Ans β) := by
  refine meets_attempt (obeys_pure ?_)
  cases x with
  | ok b => exact ⟨rfl, rfl⟩
  | error e => exact h

/-- What a triple says holds at the end of every complete run. -/
theorem Meets.of_runs {p : Fallible ε Op Ans α} (h : Meets allowed note post fail d p)
    {t : List (Exchange Op Ans)} {r : Except ε α} (hrun : Runs p.run t r) :
    outcome post fail r (observe note d t) :=
  Obeys.of_runs h hrun

end Fallible

end Program
