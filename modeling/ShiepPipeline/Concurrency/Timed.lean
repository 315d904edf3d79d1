import Mathlib.Data.List.Forall2
import Mathlib.Data.Nat.Notation

/-!
# Waiting with a time limit

What a socket receives is a list of events in order, each with the instant at which it can be
received. Every wait has a limit of its own: if nothing has come by then the wait fails.

`firstWhere` waits for the first event that is accepted, as long as its clock is before a deadline.
`readExact` collects a number of items from the events of a stream, however they are split among
them: `readExact_eq_ok_iff` says when there are enough. Two reads in a row are one, so what several
reads find is a condition on the stream alone (`begins_append_iff`).
-/

namespace Timed

/-- Something that is received, and the instant from which on it can be. -/
structure Arrival (α : Type) where
  time : ℕ
  what : α

inductive Failure (ε : Type)
  /-- Nothing came for as long as the limit. -/
  | timedOut
  /-- The deadline was over. -/
  | late
  /-- The stream was at its end. -/
  | ended
  | failed (e : ε)
deriving DecidableEq, Repr

variable {α β ε : Type} {limit deadline now : ℕ}

/-! ## Waiting for one event -/

/-- The first event that is accepted, and the instant at which the waiting is over. -/
def firstWhere (accepts : α → Bool) (limit deadline : ℕ) :
    List (Arrival (Except ε α)) → ℕ → Except (Failure ε) α × ℕ
  | [], now => if now < deadline then (.error .timedOut, now + limit) else (.error .late, now)
  | e :: es, now =>
    if now < deadline then
      if now + limit < e.time then (.error .timedOut, now + limit)
      else
        match e.what with
        | .error err => (.error (.failed err), max now e.time)
        | .ok a =>
          if accepts a then (.ok a, max now e.time)
          else firstWhere accepts limit deadline es (max now e.time)
    else (.error .late, now)

/-- The instant after some events. -/
def clockAfter (now : ℕ) (es : List (Arrival α)) : ℕ := es.foldl (fun now e ↦ max now e.time) now

/-- An event that is not accepted comes before the deadline. -/
def PassedOver (accepts : α → Bool) (deadline : ℕ) (e : Arrival (Except ε α)) : Prop :=
  e.time < deadline ∧ ∃ a, e.what = .ok a ∧ accepts a = false

/-- The event for which `firstWhere` waits: others come before it in time, and it follows on them
within the limit. -/
def Hears (accepts : α → Bool) (limit deadline now : ℕ) (es : List (Arrival (Except ε α))) (a : α) :
    Prop :=
  ∃ before e after, es = before ++ e :: after ∧ e.what = .ok a ∧ accepts a = true
    ∧ (∀ b ∈ before, PassedOver accepts deadline b) ∧ e.time ≤ clockAfter now before + limit

section First

variable {accepts : α → Bool} {e : Arrival (Except ε α)} {es : List (Arrival (Except ε α))} {a : α}

theorem firstWhere_of_le (h : deadline ≤ now) (es : List (Arrival (Except ε α))) :
    firstWhere accepts limit deadline es now = (.error .late, now) := by
  rcases es with _ | ⟨e, es⟩ <;> rw [firstWhere, if_neg (Nat.not_lt.mpr h)]

/-- An event that comes in time. -/
theorem firstWhere_cons (hnow : now < deadline) (htime : e.time ≤ now + limit)
    (hwhat : e.what = .ok a) :
    firstWhere accepts limit deadline (e :: es) now
      = if accepts a then (.ok a, max now e.time)
        else firstWhere accepts limit deadline es (max now e.time) := by
  rw [firstWhere, if_pos hnow, if_neg (Nat.not_lt.mpr htime), hwhat]

theorem firstWhere_timedOut (hnow : now < deadline) (htime : now + limit < e.time) :
    firstWhere accepts limit deadline (e :: es) now = (.error .timedOut, now + limit) := by
  rw [firstWhere, if_pos hnow, if_pos htime]

theorem hears_cons_of_accepts (hwhat : e.what = .ok a) (haccept : accepts a = true) {b : α} :
    Hears accepts limit deadline now (e :: es) b ↔ e.time ≤ now + limit ∧ a = b := by
  constructor
  · rintro ⟨_ | ⟨e', before⟩, f, after, heq, hf, -, hbefore, htime⟩
    · obtain ⟨rfl, -⟩ := List.cons.inj heq
      exact ⟨htime, Except.ok.inj (hwhat.symm.trans hf)⟩
    · obtain ⟨rfl, -⟩ := List.cons.inj heq
      obtain ⟨-, a', ha', hnot⟩ := hbefore _ List.mem_cons_self
      obtain rfl := Except.ok.inj (hwhat.symm.trans ha')
      rw [haccept] at hnot
      cases hnot
  · rintro ⟨htime, rfl⟩
    exact ⟨[], e, es, rfl, hwhat, haccept, nofun, htime⟩

theorem hears_cons_of_not_accepts (hwhat : e.what = .ok a) (haccept : accepts a = false) {b : α} :
    Hears accepts limit deadline now (e :: es) b
      ↔ e.time < deadline ∧ Hears accepts limit deadline (max now e.time) es b := by
  constructor
  · rintro ⟨_ | ⟨e', before⟩, f, after, heq, hf, hok, hbefore, htime⟩
    · obtain ⟨rfl, -⟩ := List.cons.inj heq
      obtain rfl := Except.ok.inj (hwhat.symm.trans hf)
      rw [haccept] at hok
      cases hok
    · obtain ⟨rfl, rfl⟩ := List.cons.inj heq
      obtain ⟨hpassed, hrest⟩ := List.forall_mem_cons.mp hbefore
      exact ⟨hpassed.1, before, f, after, rfl, hf, hok, hrest, htime⟩
  · rintro ⟨hlt, before, f, after, rfl, hf, hok, hbefore, htime⟩
    exact ⟨e :: before, f, after, rfl, hf, hok,
      List.forall_mem_cons.mpr ⟨⟨hlt, a, hwhat, haccept⟩, hbefore⟩, htime⟩

/-- **What is waited for**, if the deadline lies within the limit. -/
theorem firstWhere_eq_ok_iff (hnow : now < deadline) (hlimit : deadline ≤ now + limit) :
    (firstWhere accepts limit deadline es now).1 = .ok a
      ↔ Hears accepts limit deadline now es a := by
  induction es generalizing now with
  | nil =>
    rw [firstWhere, if_pos hnow]
    refine iff_of_false nofun ?_
    rintro ⟨before, e, after, hes, -⟩
    exact absurd hes.symm (List.append_ne_nil_of_right_ne_nil _ (List.cons_ne_nil _ _))
  | cons e es ih =>
    rcases hwhat : e.what with err | b
    · refine iff_of_false ?_ ?_
      · rw [firstWhere, if_pos hnow, hwhat]
        split_ifs <;> exact nofun
      · rintro ⟨_ | ⟨e', before⟩, f, after, heq, hf, -, hbefore, -⟩
        · obtain ⟨rfl, -⟩ := List.cons.inj heq
          cases hwhat.symm.trans hf
        · obtain ⟨rfl, -⟩ := List.cons.inj heq
          obtain ⟨-, a', ha', -⟩ := hbefore _ List.mem_cons_self
          cases hwhat.symm.trans ha'
    rcases Nat.lt_or_ge (now + limit) e.time with htime | htime
    · -- nothing comes within the limit, and so nothing before the deadline
      rw [firstWhere_timedOut hnow htime]
      refine iff_of_false nofun fun h ↦ ?_
      rcases haccept : accepts b with _ | _
      · have := ((hears_cons_of_not_accepts hwhat haccept).mp h).1
        omega
      · have := ((hears_cons_of_accepts hwhat haccept).mp h).1
        omega
    rw [firstWhere_cons hnow htime hwhat]
    rcases haccept : accepts b with _ | _
    · rw [if_neg Bool.false_ne_true, hears_cons_of_not_accepts hwhat haccept]
      by_cases hlt : e.time < deadline
      · rw [ih (Nat.max_lt.mpr ⟨hnow, hlt⟩) (by omega), and_iff_right hlt]
      · rw [firstWhere_of_le (by omega)]
        exact iff_of_false nofun fun h ↦ hlt h.1
    · rw [if_pos rfl, hears_cons_of_accepts hwhat haccept, and_iff_right htime, Except.ok.injEq]

/-- The waiting is over soon after the deadline, whatever else comes. -/
theorem firstWhere_le (accepts : α → Bool) (es : List (Arrival (Except ε α)))
    (hnow : now ≤ deadline + limit) :
    (firstWhere accepts limit deadline es now).2 ≤ deadline + limit := by
  induction es generalizing now with
  | nil =>
    rw [firstWhere]
    split_ifs with hlt
    · exact Nat.add_le_add_right (Nat.le_of_lt hlt) limit
    · exact hnow
  | cons e es ih =>
    rw [firstWhere]
    split_ifs with hlt htime
    · exact Nat.add_le_add_right (Nat.le_of_lt hlt) limit
    · have hmax : max now e.time ≤ deadline + limit := by omega
      split
      · exact hmax
      · split_ifs
        · exact hmax
        · exact ih hmax
    · exact hnow

/-- The same event, or two that are not accepted, at the same time. -/
inductive SameAccepted (accepts : α → Bool) : Arrival (Except ε α) → Arrival (Except ε α) → Prop
  | same {e : Arrival (Except ε α)} : SameAccepted accepts e e
  | passedOver {time : ℕ} {a a' : α} (h : accepts a = false) (h' : accepts a' = false) :
    SameAccepted accepts ⟨time, .ok a⟩ ⟨time, .ok a'⟩

/-- What is not accepted plays no part but for its time. -/
theorem firstWhere_congr {es' : List (Arrival (Except ε α))}
    (h : List.Forall₂ (SameAccepted accepts) es es') (now : ℕ) :
    firstWhere accepts limit deadline es now = firstWhere accepts limit deadline es' now := by
  induction h generalizing now with
  | nil => rfl
  | cons hsame _ ih =>
    rw [firstWhere, firstWhere]
    obtain _ | ⟨ha, ha'⟩ := hsame
    · simp only [ih]
    · simp only [ha, ha', ih, Bool.false_eq_true, if_false]

end First

/-! ## Reading from a stream -/

/-- What a read from a stream comes to. No items are the end of the stream. -/
inductive Chunk (β ε : Type)
  | data (items : List β)
  | interrupted
  | failed (e : ε)

def Chunk.items : Chunk β ε → List β
  | .data items => items
  | _ => []

/-- Read `n` items. The result is the items, the instant, and what is still to be received. -/
def readExact (limit : ℕ) : List (Arrival (Chunk β ε)) → ℕ → ℕ →
    Except (Failure ε) (List β × ℕ × List (Arrival (Chunk β ε)))
  | es, 0, now => .ok ([], now, es)
  | [], _ + 1, _ => .error .timedOut
  | e :: es, n + 1, now =>
    if now + limit < e.time then .error .timedOut
    else
      match e.what with
      | .interrupted => readExact limit es (n + 1) (max now e.time)
      | .failed err => .error (.failed err)
      | .data [] => .error .ended
      | .data (item :: items) =>
        if (item :: items).length ≤ n + 1 then
          (readExact limit es (n + 1 - (item :: items).length) (max now e.time)).map
            fun r ↦ ((item :: items) ++ r.1, r.2)
        else
          -- the next read returns what the buffer did not hold
          .ok ((item :: items).take (n + 1), max now e.time,
            ⟨e.time, .data ((item :: items).drop (n + 1))⟩ :: es)

/-- The items of a stretch of a stream. -/
def itemsOf (es : List (Arrival (Chunk β ε))) : List β := es.flatMap fun e ↦ e.what.items

/-- A stretch of a stream that has neither an error nor an end in it, and in which every read
returns within the limit. -/
def Flows (limit : ℕ) : ℕ → List (Arrival (Chunk β ε)) → Prop
  | _, [] => True
  | now, e :: es => e.time ≤ now + limit
    ∧ (e.what = .interrupted ∨ ∃ item items, e.what = .data (item :: items))
    ∧ Flows limit (max now e.time) es

/-- A stretch of the stream begins with these items. -/
def Begins (limit now : ℕ) (es : List (Arrival (Chunk β ε))) (got : List β) : Prop :=
  ∃ front back more, es = front ++ back ∧ Flows limit now front ∧ itemsOf front = got ++ more

section Exact

variable {e : Arrival (Chunk β ε)} {es : List (Arrival (Chunk β ε))} {items : List β} {n : ℕ}

@[simp] theorem readExact_zero (es : List (Arrival (Chunk β ε))) (now : ℕ) :
    readExact limit es 0 now = .ok ([], now, es) := by
  rcases es with _ | ⟨e, es⟩ <;> rfl

/-- A read that gives something. -/
theorem readExact_data (htime : e.time ≤ now + limit) (hwhat : e.what = .data items)
    (hne : items ≠ []) :
    readExact limit (e :: es) (n + 1) now
      = if items.length ≤ n + 1 then
          (readExact limit es (n + 1 - items.length) (max now e.time)).map
            fun r ↦ (items ++ r.1, r.2)
        else
          .ok (items.take (n + 1), max now e.time, ⟨e.time, .data (items.drop (n + 1))⟩ :: es) := by
  obtain ⟨item, items, rfl⟩ := List.exists_cons_of_ne_nil hne
  rw [readExact, if_neg (Nat.not_lt.mpr htime), hwhat]

theorem readExact_interrupted (htime : e.time ≤ now + limit) (hwhat : e.what = .interrupted) :
    readExact limit (e :: es) (n + 1) now = readExact limit es (n + 1) (max now e.time) := by
  rw [readExact, if_neg (Nat.not_lt.mpr htime), hwhat]

/-- A read that fails does so however many items are wanted. -/
theorem readExact_error (es : List (Arrival (Chunk β ε)))
    (h : now + limit < e.time ∨ e.what = .data [] ∨ ∃ err, e.what = .failed err) :
    ∃ failure, ∀ n, readExact limit (e :: es) (n + 1) now = .error failure := by
  by_cases htime : now + limit < e.time
  · exact ⟨.timedOut, fun n ↦ by rw [readExact, if_pos htime]⟩
  rcases h with h | hend | ⟨err, herr⟩
  · exact absurd h htime
  · exact ⟨.ended, fun n ↦ by rw [readExact, if_neg htime, hend]⟩
  · exact ⟨.failed err, fun n ↦ by rw [readExact, if_neg htime, herr]⟩

/-- What there is in front of a stream. -/
theorem arrival_cases (limit now : ℕ) (e : Arrival (Chunk β ε)) :
    (now + limit < e.time ∨ e.what = .data [] ∨ ∃ err, e.what = .failed err)
      ∨ e.time ≤ now + limit
        ∧ (e.what = .interrupted ∨ ∃ items, e.what = .data items ∧ items ≠ []) := by
  rcases Nat.lt_or_ge (now + limit) e.time with htime | htime
  · exact .inl (.inl htime)
  rcases hwhat : e.what with items | _ | err
  · rcases items with _ | ⟨item, items⟩
    · exact .inl (.inr (.inl rfl))
    · exact .inr ⟨htime, .inr ⟨_, rfl, List.cons_ne_nil _ _⟩⟩
  · exact .inr ⟨htime, .inl rfl⟩
  · exact .inl (.inr (.inr ⟨err, rfl⟩))

/-- What one read leaves of a chunk is in front of the next. -/
theorem readExact_rest {t : ℕ} (n : ℕ) (hne : items ≠ []) :
    readExact limit (⟨t, .data items⟩ :: es) n (max now t)
      = if items.length ≤ n then
          (readExact limit es (n - items.length) (max now t)).map fun r ↦ (items ++ r.1, r.2)
        else .ok (items.take n, max now t, ⟨t, .data (items.drop n)⟩ :: es) := by
  have hlen := List.length_pos_of_ne_nil hne
  rcases n with _ | n
  · rw [readExact_zero, if_neg (by omega)]
    rfl
  · have hmax : max (max now t) t = max now t := by omega
    rw [readExact_data (by dsimp only; omega) rfl hne]
    dsimp only
    rw [hmax]

/-- **Two reads in a row are one**. -/
theorem readExact_add (es : List (Arrival (Chunk β ε))) (m n now : ℕ) :
    readExact limit es (m + n) now = do
      let r ← readExact limit es m now
      let r' ← readExact limit r.2.2 n r.2.1
      return (r.1 ++ r'.1, r'.2) := by
  induction es generalizing m n now with
  | nil =>
    rcases m with _ | m
    · rw [readExact_zero, Nat.zero_add]
      rcases n with _ | n <;> rfl
    · rw [Nat.add_right_comm]
      rfl
  | cons e es ih =>
    rcases m with _ | m
    · rw [readExact_zero, Nat.zero_add]
      change _ = readExact limit (e :: es) n now >>= _
      rcases readExact limit (e :: es) n now with failure | r <;> rfl
    rw [Nat.add_right_comm]
    rcases arrival_cases limit now e with hfail | ⟨htime, hwhat | ⟨items, hwhat, hne⟩⟩
    · obtain ⟨failure, hfailure⟩ := readExact_error es hfail
      rw [hfailure, hfailure]
      rfl
    · rw [readExact_interrupted htime hwhat, readExact_interrupted htime hwhat,
        Nat.add_right_comm, ih]
    · rw [readExact_data htime hwhat hne, readExact_data htime hwhat hne]
      by_cases hlen : items.length ≤ m + 1
      · have hsub : m + n + 1 - items.length = m + 1 - items.length + n := by omega
        rw [if_pos (by omega), if_pos hlen, hsub, ih]
        rcases readExact limit es (m + 1 - items.length) (max now e.time) with failure | r
        · rfl
        change Except.map _ (readExact limit r.2.2 n r.2.1 >>= _)
          = readExact limit r.2.2 n r.2.1 >>= _
        rcases readExact limit r.2.2 n r.2.1 with failure | r'
        · rfl
        · exact congrArg (fun got ↦ Except.ok (got, r'.2)) (List.append_assoc ..).symm
      · -- the first read takes a part of what there is, and the second goes on behind it
        have hrest : items.drop (m + 1) ≠ [] := by
          rw [Ne, List.drop_eq_nil_iff]
          exact hlen
        rw [if_neg hlen]
        change _ = readExact limit (⟨e.time, .data (items.drop (m + 1))⟩ :: es) n (max now e.time)
          >>= _
        rw [readExact_rest n hrest, List.length_drop]
        by_cases hlen' : items.length ≤ m + n + 1
        · have hsub : n - (items.length - (m + 1)) = m + n + 1 - items.length := by omega
          rw [if_pos hlen', if_pos (by omega), hsub]
          rcases readExact limit es (m + n + 1 - items.length) (max now e.time) with failure | r
          · rfl
          · change Except.ok (items ++ r.1, r.2)
              = Except.ok (items.take (m + 1) ++ (items.drop (m + 1) ++ r.1), r.2)
            rw [← List.append_assoc, List.take_append_drop]
        · have hadd : m + n + 1 = m + 1 + n := by omega
          rw [if_neg hlen', if_neg (by omega), List.drop_drop, hadd, List.take_add]
          rfl

theorem itemsOf_cons (e : Arrival (Chunk β ε)) (es : List (Arrival (Chunk β ε))) :
    itemsOf (e :: es) = e.what.items ++ itemsOf es := List.flatMap_cons

theorem begins_nil (limit now : ℕ) (es : List (Arrival (Chunk β ε))) : Begins limit now es [] :=
  ⟨[], es, [], rfl, trivial, rfl⟩

theorem begins_cons_interrupted {got : List β} (htime : e.time ≤ now + limit)
    (hwhat : e.what = .interrupted) :
    Begins limit now (e :: es) got ↔ Begins limit (max now e.time) es got := by
  constructor
  · rintro ⟨_ | ⟨e', front⟩, back, more, heq, hflows, hitems⟩
    · obtain ⟨rfl, -⟩ := List.append_eq_nil_iff.mp hitems.symm
      exact begins_nil ..
    · obtain ⟨rfl, rfl⟩ := List.cons.inj heq
      rw [itemsOf_cons, hwhat] at hitems
      exact ⟨front, back, more, rfl, hflows.2.2, hitems⟩
  · rintro ⟨front, back, more, rfl, hflows, hitems⟩
    refine ⟨e :: front, back, more, rfl, ⟨htime, .inl hwhat, hflows⟩, ?_⟩
    rw [itemsOf_cons, hwhat]
    exact hitems

theorem begins_cons_data {got : List β} (htime : e.time ≤ now + limit)
    (hwhat : e.what = .data items) (hne : items ≠ []) :
    Begins limit now (e :: es) got
      ↔ got <+: items ∨ ∃ got', got = items ++ got' ∧ Begins limit (max now e.time) es got' := by
  have hitem : ∃ item items', e.what = .data (item :: items') := by
    obtain ⟨item, items', rfl⟩ := List.exists_cons_of_ne_nil hne
    exact ⟨item, items', hwhat⟩
  constructor
  · rintro ⟨_ | ⟨e', front⟩, back, more, heq, hflows, hitems⟩
    · obtain ⟨rfl, -⟩ := List.append_eq_nil_iff.mp hitems.symm
      exact .inl List.nil_prefix
    · obtain ⟨rfl, rfl⟩ := List.cons.inj heq
      rw [itemsOf_cons, hwhat] at hitems
      obtain ⟨back', hgot, -⟩ | ⟨back', hgot, hmore⟩ := List.append_eq_append_iff.mp hitems
      · refine .inr ⟨back', hgot, front, back, more, rfl, hflows.2.2, ?_⟩
        rw [hgot, List.append_assoc] at hitems
        exact List.append_cancel_left hitems
      · exact .inl ⟨back', hgot.symm⟩
  · rintro (⟨more, hgot⟩ | ⟨got', rfl, front, back, more, rfl, hflows, hitems⟩)
    · refine ⟨[e], es, more, rfl, ⟨htime, .inr hitem, trivial⟩, ?_⟩
      rw [itemsOf_cons, hwhat, hgot]
      exact List.append_nil items
    · refine ⟨e :: front, back, more, rfl, ⟨htime, .inr hitem, hflows⟩, ?_⟩
      rw [itemsOf_cons, hwhat, hitems]
      exact (List.append_assoc ..).symm

theorem not_begins_cons {got : List β} (hgot : got ≠ [])
    (h : now + limit < e.time ∨ e.what = .data [] ∨ ∃ err, e.what = .failed err) :
    ¬Begins limit now (e :: es) got := by
  rintro ⟨_ | ⟨e', front⟩, back, more, heq, hflows, hitems⟩
  · exact hgot (List.append_eq_nil_iff.mp hitems.symm).1
  obtain ⟨rfl, -⟩ := List.cons.inj heq
  obtain ⟨htime, hwhat, -⟩ := hflows
  rcases h with h | h | ⟨err, h⟩
  · omega
  · rw [h] at hwhat
    obtain hwhat | ⟨item, items, hwhat⟩ := hwhat <;> cases hwhat
  · rw [h] at hwhat
    obtain hwhat | ⟨item, items, hwhat⟩ := hwhat <;> cases hwhat

/-- **When there are enough items**: exactly if a stretch of the stream begins with them. -/
theorem readExact_eq_ok_iff {got : List β} :
    (∃ r, readExact limit es n now = .ok (got, r))
      ↔ got.length = n ∧ Begins limit now es got := by
  induction es generalizing n now got with
  | nil =>
    rcases n with _ | n
    · rw [readExact_zero, List.length_eq_zero_iff]
      constructor
      · rintro ⟨r, h⟩
        obtain ⟨rfl, -⟩ := Prod.mk.inj (Except.ok.inj h)
        exact ⟨rfl, begins_nil ..⟩
      · rintro ⟨rfl, -⟩
        exact ⟨_, rfl⟩
    · refine iff_of_false (fun ⟨r, h⟩ ↦ nomatch h) ?_
      rintro ⟨hgot, front, back, more, hes, -, hitems⟩
      obtain ⟨rfl, rfl⟩ := List.append_eq_nil_iff.mp hes.symm
      obtain ⟨rfl, -⟩ := List.append_eq_nil_iff.mp hitems.symm
      cases hgot
  | cons e es ih =>
    rcases n with _ | n
    · rw [readExact_zero, List.length_eq_zero_iff]
      constructor
      · rintro ⟨r, h⟩
        obtain ⟨rfl, -⟩ := Prod.mk.inj (Except.ok.inj h)
        exact ⟨rfl, begins_nil ..⟩
      · rintro ⟨rfl, -⟩
        exact ⟨_, rfl⟩
    rcases arrival_cases limit now e with hfail | ⟨htime, hwhat | ⟨items, hwhat, hne⟩⟩
    · obtain ⟨failure, hfailure⟩ := readExact_error es hfail
      rw [hfailure]
      refine iff_of_false (fun ⟨r, h⟩ ↦ nomatch h) fun h ↦ ?_
      exact not_begins_cons (List.ne_nil_of_length_eq_add_one h.1) hfail h.2
    · rw [readExact_interrupted htime hwhat, ih, begins_cons_interrupted htime hwhat]
    · rw [readExact_data htime hwhat hne, begins_cons_data htime hwhat hne]
      split_ifs with hlen
      · constructor
        · rintro ⟨r, h⟩
          rcases hread : readExact limit es (n + 1 - items.length) (max now e.time)
            with failure | ⟨got', r'⟩
          · rw [hread] at h
            cases h
          rw [hread] at h
          obtain ⟨rfl, -⟩ := Prod.mk.inj (Except.ok.inj h)
          obtain ⟨hgot, hbegins⟩ := ih.mp ⟨r', hread⟩
          refine ⟨?_, .inr ⟨got', rfl, hbegins⟩⟩
          rw [List.length_append, hgot, Nat.add_sub_cancel' hlen]
        · rintro ⟨hgot, h⟩
          obtain ⟨got', rfl, hbegins⟩ : ∃ got', got = items ++ got'
              ∧ Begins limit (max now e.time) es got' := by
            rcases h with hprefix | h
            · obtain rfl := hprefix.eq_of_length_le (by omega)
              exact ⟨[], (List.append_nil _).symm, begins_nil ..⟩
            · exact h
          rw [List.length_append] at hgot
          obtain ⟨r, hread⟩ := ih.mpr ⟨Nat.eq_sub_of_add_eq' hgot, hbegins⟩
          exact ⟨r, by rw [hread]; rfl⟩
      · constructor
        · rintro ⟨r, h⟩
          obtain ⟨rfl, -⟩ := Prod.mk.inj (Except.ok.inj h)
          exact ⟨List.length_take_of_le (by omega), .inl (List.take_prefix ..)⟩
        · rintro ⟨hgot, hprefix | ⟨got', rfl, -⟩⟩
          · rw [List.prefix_iff_eq_take, hgot] at hprefix
            exact ⟨_, by rw [← hprefix]⟩
          · rw [List.length_append] at hgot
            omega

/-- A read that takes the first of the items leaves the others. -/
theorem begins_append_iff {got got' : List β} :
    Begins limit now es (got ++ got') ↔ ∃ now' es',
      readExact limit es got.length now = .ok (got, now', es') ∧ Begins limit now' es' got' := by
  have hboth : Begins limit now es (got ++ got')
      ↔ ∃ r, readExact limit es (got.length + got'.length) now = .ok (got ++ got', r) := by
    rw [readExact_eq_ok_iff, List.length_append, and_iff_right rfl]
  rw [hboth, readExact_add]
  constructor
  · rintro ⟨r, h⟩
    rcases hread : readExact limit es got.length now with failure | ⟨first, now', es'⟩
    · rw [hread] at h
      cases h
    rcases hread' : readExact limit es' got'.length now' with failure | ⟨second, r'⟩
    · rw [hread] at h
      change readExact limit es' got'.length now' >>= _ = _ at h
      rw [hread'] at h
      cases h
    · rw [hread] at h
      change readExact limit es' got'.length now' >>= _ = _ at h
      rw [hread'] at h
      obtain ⟨happend, -⟩ := Prod.mk.inj (Except.ok.inj h)
      have hlen := (readExact_eq_ok_iff.mp ⟨_, hread⟩).1
      obtain ⟨rfl, rfl⟩ := List.append_inj happend hlen
      exact ⟨now', es', rfl, (readExact_eq_ok_iff.mp ⟨r', hread'⟩).2⟩
  · rintro ⟨now', es', hread, hbegins⟩
    obtain ⟨r, hread'⟩ := readExact_eq_ok_iff.mpr ⟨rfl, hbegins⟩
    refine ⟨r, ?_⟩
    rw [hread]
    change readExact limit es' got'.length now' >>= _ = _
    rw [hread']
    rfl

end Exact

end Timed
