import Mathlib.Logic.Function.Basic
import Mathlib.Data.List.Nodup

/-!
# Sweeping a table whose entries own objects

Entries are kept under keys and objects under handles, in two maps. An entry names the handle of
its object. Objects are of several kinds, and an access asks for one of them: if the handle is free
or its object is of another kind, the access panics, which here is `none`.

A sweep visits every entry in some order. A visit changes the entry and its object, and may find the
entry dead. The dead entries are removed after the last visit, together with their objects.

`Sweeper.sweep_spec` is all that later files use of this. If no two entries name one object and
every access succeeds at the start, the sweep does not panic, and in any order it comes to the same:
each entry has been visited exactly once, on its own object, and nothing else has changed.
-/

/-- One kind of object among several. -/
structure Kind (ω τ : Type) where
  cast : ω → Option τ
  inject : τ → ω
  cast_inject : ∀ x, cast (inject x) = some x

/-- Entries under keys, and objects under handles. -/
structure Owners (κ η ω ε : Type) where
  entries : κ → Option ε
  objects : η → Option ω

/-- What a visit leaves: the object, the entry, and whether the entry is to be removed. -/
structure Visit (τ ε : Type) where
  object : τ
  entry : ε
  dead : Bool

/-- What is done to each entry of a table. A visit does not change which object is the entry's. -/
structure Sweeper (η ω τ ε : Type) where
  kind : Kind ω τ
  handle : ε → η
  visit : τ → ε → Visit τ ε
  handle_visit : ∀ x e, handle (visit x e).entry = handle e

namespace Sweeper

variable {κ η ω τ ε : Type} [DecidableEq κ] [DecidableEq η] (S : Sweeper η ω τ ε)

/-! ## The sweep -/

/-- Ask for the object of a handle. -/
def get? (objects : η → Option ω) (h : η) : Option τ := (objects h).bind S.kind.cast

/-- Write back what a visit left. -/
def write (t : Owners κ η ω ε) (k : κ) (v : Visit τ ε) : Owners κ η ω ε where
  entries := Function.update t.entries k (some v.entry)
  objects := Function.update t.objects (S.handle v.entry) (some (S.kind.inject v.object))

/-- Visit the keys in order. The result has the keys whose entries died. -/
def visitAll : List κ → Owners κ η ω ε → Option (Owners κ η ω ε × List κ)
  | [], t => some (t, [])
  | k :: ks, t =>
    match t.entries k with
    | none => visitAll ks t
    | some e => do
      let x ← S.get? t.objects (S.handle e)
      let v := S.visit x e
      let (t', dead) ← visitAll ks (S.write t k v)
      some (t', if v.dead then k :: dead else dead)

/-- Remove an entry and its object. -/
def remove (t : Owners κ η ω ε) (k : κ) : Owners κ η ω ε :=
  match t.entries k with
  | none => t
  | some e =>
    { entries := Function.update t.entries k none
      objects := Function.update t.objects (S.handle e) none }

def sweep (order : List κ) (t : Owners κ η ω ε) : Option (Owners κ η ω ε) := do
  let (t', dead) ← S.visitAll order t
  some (dead.foldl S.remove t')

/-! ## Ownership -/

/-- The table has the entry, and the entry's object is there and of the right kind. -/
def Holds (t : Owners κ η ω ε) (k : κ) (e : ε) (x : τ) : Prop :=
  t.entries k = some e ∧ S.get? t.objects (S.handle e) = some x

/-- Some entry names the handle. -/
def Names (t : Owners κ η ω ε) (h : η) : Prop := ∃ k e, t.entries k = some e ∧ S.handle e = h

/-- Every entry has an object of its own. -/
structure Owned (t : Owners κ η ω ε) : Prop where
  live : ∀ {k e}, t.entries k = some e → ∃ x, S.get? t.objects (S.handle e) = some x
  inj : ∀ {k k' e e'}, t.entries k = some e → t.entries k' = some e' →
    S.handle e = S.handle e' → k = k'

variable {S} {t t' : Owners κ η ω ε} {k : κ} {e : ε} {x : τ}

omit [DecidableEq κ] [DecidableEq η] in
theorem Owned.holds (h : S.Owned t) (he : t.entries k = some e) : ∃ x, S.Holds t k e x := by
  obtain ⟨x, hx⟩ := h.live he
  exact ⟨x, he, hx⟩

omit [DecidableEq κ] in
theorem get?_update_self {objects : η → Option ω} {h : η} :
    S.get? (Function.update objects h (some (S.kind.inject x))) h = some x := by
  rw [get?, Function.update_self, Option.bind_some, S.kind.cast_inject]

omit [DecidableEq κ] in
theorem get?_update_of_ne {objects : η → Option ω} {o : Option ω} {h h' : η} (hne : h' ≠ h) :
    S.get? (Function.update objects h o) h' = S.get? objects h' := by
  rw [get?, get?, Function.update_of_ne hne]

omit [DecidableEq κ] [DecidableEq η] in
theorem get?_congr {objects objects' : η → Option ω} {h : η} (heq : objects' h = objects h) :
    S.get? objects' h = S.get? objects h := by
  rw [get?, get?, heq]

theorem entries_write_self {v : Visit τ ε} : (S.write t k v).entries k = some v.entry :=
  Function.update_self ..

theorem entries_write_of_ne {k' : κ} {v : Visit τ ε} (hne : k' ≠ k) :
    (S.write t k v).entries k' = t.entries k' :=
  Function.update_of_ne hne ..

theorem holds_write {v : Visit τ ε} : S.Holds (S.write t k v) k v.entry v.object :=
  ⟨entries_write_self, get?_update_self⟩

/-- A visit of one entry is not seen by another. -/
theorem Holds.write_of_ne {k' : κ} {e' : ε} {x' : τ} (howned : S.Owned t) (h : S.Holds t k e x)
    (h' : S.Holds t k' e' x') (hne : k' ≠ k) :
    S.Holds (S.write t k (S.visit x e)) k' e' x' := by
  refine ⟨(entries_write_of_ne hne).trans h'.1, ?_⟩
  have hhandle : S.handle e' ≠ S.handle (S.visit x e).entry := by
    rw [S.handle_visit]
    exact fun heq ↦ hne (howned.inj h'.1 h.1 heq)
  exact (get?_update_of_ne hhandle).trans h'.2

/-- Every entry of a written table comes from an entry with the same handle. -/
theorem exists_of_write {k' : κ} {e' : ε} (h : S.Holds t k e x)
    (he' : (S.write t k (S.visit x e)).entries k' = some e') :
    ∃ e₀, t.entries k' = some e₀ ∧ S.handle e₀ = S.handle e' := by
  by_cases hk : k' = k
  · subst hk
    obtain rfl := Option.some.inj (entries_write_self.symm.trans he')
    exact ⟨e, h.1, (S.handle_visit x e).symm⟩
  · exact ⟨e', (entries_write_of_ne hk).symm.trans he', rfl⟩

theorem Owned.write (howned : S.Owned t) (h : S.Holds t k e x) :
    S.Owned (S.write t k (S.visit x e)) := by
  constructor
  · intro k' e' he'
    by_cases hk : k' = k
    · subst hk
      obtain rfl := Option.some.inj (entries_write_self.symm.trans he')
      exact ⟨_, holds_write.2⟩
    · have hold : t.entries k' = some e' := (entries_write_of_ne hk).symm.trans he'
      obtain ⟨x', hx'⟩ := howned.holds hold
      exact ⟨x', (h.write_of_ne howned hx' hk).2⟩
  · intro k₁ k₂ e₁ e₂ h₁ h₂ heq
    obtain ⟨e₁', h₁', heq₁⟩ := exists_of_write h h₁
    obtain ⟨e₂', h₂', heq₂⟩ := exists_of_write h h₂
    exact howned.inj h₁' h₂' (heq₁.trans (heq.trans heq₂.symm))

omit [DecidableEq κ] [DecidableEq η] in
/-- The objects may change as long as each entry still has one. -/
theorem Owned.congr_objects {objects : η → Option ω} (howned : S.Owned t)
    (h : ∀ {k e x}, S.Holds t k e x → ∃ x', S.get? objects (S.handle e) = some x') :
    S.Owned ⟨t.entries, objects⟩ := by
  constructor
  · intro k e he
    obtain ⟨x, hheld⟩ := howned.holds he
    exact h hheld
  · exact howned.inj

/-- A new entry comes with a new object. -/
theorem Owned.insert (howned : S.Owned t) (hfree : t.objects (S.handle e) = none) :
    S.Owned ⟨Function.update t.entries k (some e),
      Function.update t.objects (S.handle e) (some (S.kind.inject x))⟩ := by
  have hne : ∀ {k' e'}, t.entries k' = some e' → S.handle e' ≠ S.handle e := by
    intro k' e' he' heq
    obtain ⟨x', hx'⟩ := howned.live he'
    rw [get?, heq, hfree] at hx'
    cases hx'
  -- the entries are the new one and the old ones
  have hcases : ∀ {k' e'}, Function.update t.entries k (some e) k' = some e' →
      k' = k ∧ e' = e ∨ t.entries k' = some e' := by
    intro k' e' he'
    by_cases hk : k' = k
    · subst hk
      rw [Function.update_self] at he'
      exact .inl ⟨rfl, (Option.some.inj he').symm⟩
    · rw [Function.update_of_ne hk] at he'
      exact .inr he'
  constructor
  · intro k' e' he'
    rcases hcases he' with ⟨rfl, rfl⟩ | hold
    · exact ⟨x, get?_update_self⟩
    · obtain ⟨x', hx'⟩ := howned.live hold
      exact ⟨x', (get?_update_of_ne (hne hold)).trans hx'⟩
  · intro k₁ k₂ e₁ e₂ h₁ h₂ heq
    rcases hcases h₁ with ⟨rfl, rfl⟩ | hold₁ <;> rcases hcases h₂ with ⟨rfl, rfl⟩ | hold₂
    · rfl
    · exact absurd heq.symm (hne hold₂)
    · exact absurd heq (hne hold₁)
    · exact howned.inj hold₁ hold₂ heq

omit [DecidableEq η] in
/-- An entry that is there before or after a change is there on both sides of it. -/
theorem exists_of_modify {f : ε → ε} {k' : κ} {e' : ε}
    (h : Function.update t.entries k ((t.entries k).map f) k' = some e') :
    ∃ e₀, t.entries k' = some e₀ ∧ (e' = e₀ ∧ k' ≠ k ∨ e' = f e₀ ∧ k' = k) := by
  by_cases hk : k' = k
  · subst hk
    rw [Function.update_self, Option.map_eq_some_iff] at h
    obtain ⟨e₀, he₀, rfl⟩ := h
    exact ⟨e₀, he₀, .inr ⟨rfl, rfl⟩⟩
  · rw [Function.update_of_ne hk] at h
    exact ⟨e', h, .inl ⟨rfl, hk⟩⟩

omit [DecidableEq η] in
/-- An entry may change as long as it keeps its object. -/
theorem Owned.modify {f : ε → ε} (hf : ∀ e, S.handle (f e) = S.handle e) (howned : S.Owned t) :
    S.Owned ⟨Function.update t.entries k ((t.entries k).map f), t.objects⟩ := by
  have hhandle : ∀ {k' e'}, Function.update t.entries k ((t.entries k).map f) k' = some e' →
      ∃ e₀, t.entries k' = some e₀ ∧ S.handle e' = S.handle e₀ := by
    intro k' e' he'
    obtain ⟨e₀, he₀, ⟨rfl, -⟩ | ⟨rfl, -⟩⟩ := exists_of_modify he'
    · exact ⟨e', he₀, rfl⟩
    · exact ⟨e₀, he₀, hf e₀⟩
  constructor
  · intro k' e' he'
    obtain ⟨e₀, he₀, heq⟩ := hhandle he'
    rw [heq]
    exact howned.live he₀
  · intro k₁ k₂ e₁ e₂ h₁ h₂ heq
    obtain ⟨e₁', h₁', heq₁⟩ := hhandle h₁
    obtain ⟨e₂', h₂', heq₂⟩ := hhandle h₂
    exact howned.inj h₁' h₂' (heq₁.symm.trans (heq.trans heq₂))

omit [DecidableEq η] in
theorem Names.modify {f : ε → ε} (hf : ∀ e, S.handle (f e) = S.handle e) {objects : η → Option ω}
    {h : η} (hnames : S.Names t h) :
    S.Names ⟨Function.update t.entries k ((t.entries k).map f), objects⟩ h := by
  obtain ⟨k', e', he', rfl⟩ := hnames
  by_cases hk : k' = k
  · subst hk
    exact ⟨k', f e', (Function.update_self ..).trans (by rw [he', Option.map_some]), hf e'⟩
  · exact ⟨k', e', (Function.update_of_ne hk _ _).trans he', rfl⟩

omit [DecidableEq η] in
/-- A new key takes no handle away. -/
theorem Names.insert {objects : η → Option ω} {h : η} (hnew : t.entries k = none)
    (hnames : S.Names t h) : S.Names ⟨Function.update t.entries k (some e), objects⟩ h := by
  obtain ⟨k', e', he', rfl⟩ := hnames
  have hk : k' ≠ k := by
    rintro rfl
    rw [hnew] at he'
    cases he'
  exact ⟨k', e', (Function.update_of_ne hk _ _).trans he', rfl⟩

/-! ## The visits -/

/-- What visiting some of the keys does to a table. -/
structure Visited (S : Sweeper η ω τ ε) (ks : List κ) (t t' : Owners κ η ω ε) (dead : List κ) :
    Prop where
  visited : ∀ k ∈ ks, ∀ {e x}, S.Holds t k e x →
    S.Holds t' k (S.visit x e).entry (S.visit x e).object
      ∧ (k ∈ dead ↔ (S.visit x e).dead = true)
  others : ∀ k ∉ ks, t'.entries k = t.entries k ∧ k ∉ dead
  frame : ∀ h, (∀ k ∈ ks, ∀ {e}, t.entries k = some e → S.handle e ≠ h) →
    t'.objects h = t.objects h

/-- One more key in front. Its entry is visited first, and the rest leave it alone. -/
theorem Visited.cons {ks dead : List κ} (howned : S.Owned t) (hheld : S.Holds t k e x)
    (hk : k ∉ ks) (h : Visited S ks (S.write t k (S.visit x e)) t' dead) :
    Visited S (k :: ks) t t' (if (S.visit x e).dead then k :: dead else dead) := by
  have hne : ∀ {k' e'}, k' ∈ ks → t.entries k' = some e' → k' ≠ k ∧ S.handle e' ≠ S.handle e := by
    intro k' e' hk' he'
    have hkk : k' ≠ k := fun heq ↦ hk (heq ▸ hk')
    exact ⟨hkk, fun heq ↦ hkk (howned.inj he' hheld.1 heq)⟩
  constructor
  · intro k' hk' e' x' hheld'
    rcases List.mem_cons.mp hk' with rfl | hmem
    · obtain rfl := Option.some.inj (hheld.1.symm.trans hheld'.1)
      obtain rfl := Option.some.inj (hheld.2.symm.trans hheld'.2)
      obtain ⟨hkept, hdead⟩ := h.others k' hk
      -- the later visits are to other objects
      have hobject : t'.objects (S.handle (S.visit x e).entry)
          = (S.write t k' (S.visit x e)).objects (S.handle (S.visit x e).entry) := by
        refine h.frame _ fun k₁ hk₁ e₁ he₁ ↦ ?_
        have hk₁' : k₁ ≠ k' := fun heq ↦ hk (heq ▸ hk₁)
        rw [S.handle_visit]
        exact (hne hk₁ ((entries_write_of_ne hk₁').symm.trans he₁)).2
      refine ⟨⟨hkept.trans holds_write.1, (get?_congr hobject).trans holds_write.2⟩, ?_⟩
      cases (S.visit x e).dead <;> simp [hdead]
    · have hkk := (hne hmem hheld'.1).1
      obtain ⟨hafter, hdead⟩ := h.visited k' hmem (hheld.write_of_ne howned hheld' hkk)
      refine ⟨hafter, ?_⟩
      cases (S.visit x e).dead <;> simp [hdead, hkk]
  · intro k' hk'
    rw [List.mem_cons, not_or] at hk'
    obtain ⟨hkept, hdead⟩ := h.others k' hk'.2
    refine ⟨hkept.trans (entries_write_of_ne hk'.1), ?_⟩
    cases (S.visit x e).dead <;> simp [hdead, hk'.1]
  · intro h' hfree
    have hh : h' ≠ S.handle (S.visit x e).entry := by
      rw [S.handle_visit]
      exact (hfree k List.mem_cons_self hheld.1).symm
    refine (h.frame h' fun k₁ hk₁ e₁ he₁ ↦ ?_).trans (Function.update_of_ne hh ..)
    have hk₁' : k₁ ≠ k := fun heq ↦ hk (heq ▸ hk₁)
    exact hfree k₁ (List.mem_cons_of_mem k hk₁) ((entries_write_of_ne hk₁').symm.trans he₁)

theorem visitAll_spec {ks : List κ} (howned : S.Owned t) (hnodup : ks.Nodup) :
    ∃ t' dead, S.visitAll ks t = some (t', dead) ∧ Visited S ks t t' dead := by
  induction ks generalizing t with
  | nil => exact ⟨t, [], rfl, by simp, by simp, by simp⟩
  | cons k ks ih =>
    rw [List.nodup_cons] at hnodup
    rw [visitAll]
    cases he : t.entries k with
    | none =>
      obtain ⟨t', dead, hrun, h⟩ := ih howned hnodup.2
      refine ⟨t', dead, hrun, ?_, ?_, ?_⟩
      · intro k' hk' e' x' hheld
        rcases List.mem_cons.mp hk' with rfl | hmem
        · exact absurd (he.symm.trans hheld.1) (by simp)
        · exact h.visited k' hmem hheld
      · exact fun k' hk' ↦ h.others k' fun hmem ↦ hk' (List.mem_cons_of_mem k hmem)
      · exact fun h' hfree ↦ h.frame h' fun k₁ hk₁ ↦ hfree k₁ (List.mem_cons_of_mem k hk₁)
    | some e =>
      obtain ⟨x, hheld⟩ := howned.holds he
      obtain ⟨t', dead, hrun, h⟩ := ih (howned.write hheld) hnodup.2
      refine ⟨t', _, ?_, h.cons howned hheld hnodup.1⟩
      simp only [hheld.2, hrun, Option.bind_eq_bind, Option.bind_some]

/-! ## The removals -/

/-- What removing some of the keys does to a table. -/
structure Removed (S : Sweeper η ω τ ε) (dead : List κ) (t t' : Owners κ η ω ε) : Prop where
  gone : ∀ k ∈ dead, t'.entries k = none
  kept : ∀ k ∉ dead, t'.entries k = t.entries k
  freed : ∀ k ∈ dead, ∀ {e}, t.entries k = some e → t'.objects (S.handle e) = none
  frame : ∀ h, (∀ k ∈ dead, ∀ {e}, t.entries k = some e → S.handle e ≠ h) →
    t'.objects h = t.objects h

omit [DecidableEq κ] [DecidableEq η] in
theorem removed_nil : Removed S [] t t := ⟨by simp, by simp, by simp, by simp⟩

theorem foldl_remove_spec (dead : List κ) (t : Owners κ η ω ε) :
    Removed S dead t (dead.foldl S.remove t) := by
  induction dead generalizing t with
  | nil => exact removed_nil
  | cons k dead ih =>
    have h := ih (S.remove t k)
    rw [List.foldl_cons]
    have hgone : (S.remove t k).entries k = none := by
      rw [remove]
      split
      · assumption
      · exact Function.update_self ..
    have hkept : ∀ {k'}, k' ≠ k → (S.remove t k).entries k' = t.entries k' := by
      intro k' hne
      rw [remove]
      split
      · rfl
      · exact Function.update_of_ne hne ..
    have hsub : ∀ {k' e}, (S.remove t k).entries k' = some e → t.entries k' = some e := by
      intro k' e he
      by_cases hk : k' = k
      · subst hk
        exact absurd (hgone.symm.trans he) (by simp)
      · exact (hkept hk).symm.trans he
    -- once an object is gone, no later removal brings it back
    have hstays : ∀ {h'}, (S.remove t k).objects h' = none →
        (dead.foldl S.remove (S.remove t k)).objects h' = none := by
      intro h' hnone
      by_cases hfree : ∃ k' ∈ dead, ∃ e, (S.remove t k).entries k' = some e ∧ S.handle e = h'
      · obtain ⟨k', hmem, e, he, rfl⟩ := hfree
        exact h.freed k' hmem he
      · rw [h.frame h' fun k' hmem e he heq ↦ hfree ⟨k', hmem, e, he, heq⟩, hnone]
    constructor
    · intro k' hk'
      by_cases hmem : k' ∈ dead
      · exact h.gone k' hmem
      · obtain rfl := (List.mem_cons.mp hk').resolve_right hmem
        rw [h.kept k' hmem, hgone]
    · intro k' hk'
      rw [List.mem_cons, not_or] at hk'
      rw [h.kept k' hk'.2, hkept hk'.1]
    · intro k' hk' e he
      by_cases hk : k' = k
      · subst hk
        refine hstays ?_
        simp only [remove, he, Function.update_self]
      · exact h.freed k' ((List.mem_cons.mp hk').resolve_left hk) ((hkept hk).trans he)
    · intro h' hfree
      rw [h.frame h' fun k' hmem e he ↦ hfree k' (List.mem_cons_of_mem k hmem) (hsub he), remove]
      split
      · rfl
      · next e he => exact Function.update_of_ne (hfree k List.mem_cons_self he).symm ..

/-! ## The whole sweep -/

/-- What a sweep does to a table. -/
structure Swept (S : Sweeper η ω τ ε) (t t' : Owners κ η ω ε) : Prop where
  kept : ∀ {k e x}, S.Holds t k e x → (S.visit x e).dead = false →
    S.Holds t' k (S.visit x e).entry (S.visit x e).object
  gone : ∀ {k e x}, S.Holds t k e x → (S.visit x e).dead = true →
    t'.entries k = none ∧ t'.objects (S.handle e) = none
  absent : ∀ {k}, t.entries k = none → t'.entries k = none
  frame : ∀ {h}, (∀ {k e}, t.entries k = some e → S.handle e ≠ h) → t'.objects h = t.objects h

/-- **A sweep visits every entry once, on its own object.** -/
theorem sweep_spec {order : List κ} (howned : S.Owned t) (hnodup : order.Nodup)
    (horder : ∀ k, k ∈ order ↔ (t.entries k).isSome) :
    ∃ t', S.sweep order t = some t' ∧ Swept S t t' := by
  obtain ⟨t₁, dead, hrun, h⟩ := visitAll_spec howned hnodup
  have hremoved := foldl_remove_spec (S := S) dead t₁
  have hvisited : ∀ {k e x}, S.Holds t k e x →
      S.Holds t₁ k (S.visit x e).entry (S.visit x e).object
        ∧ (k ∈ dead ↔ (S.visit x e).dead = true) :=
    fun hheld ↦ h.visited _ ((horder _).mpr (by simp [hheld.1])) hheld
  -- the entries after the visits have the handles they had before
  have hhandle : ∀ {k e}, t₁.entries k = some e →
      ∃ e₀, t.entries k = some e₀ ∧ S.handle e₀ = S.handle e := by
    intro k e he
    by_cases hmem : k ∈ order
    · obtain ⟨e₀, he₀⟩ := Option.isSome_iff_exists.mp ((horder k).mp hmem)
      obtain ⟨x₀, hheld⟩ := howned.holds he₀
      obtain rfl := Option.some.inj ((hvisited hheld).1.1.symm.trans he)
      exact ⟨e₀, he₀, (S.handle_visit x₀ e₀).symm⟩
    · exact ⟨e, (h.others k hmem).1.symm.trans he, rfl⟩
  refine ⟨dead.foldl S.remove t₁, ?_, ?_, ?_, ?_, ?_⟩
  · simp only [sweep, hrun, Option.bind_eq_bind, Option.bind_some]
  · intro k e x hheld halive
    obtain ⟨hafter, hdead⟩ := hvisited hheld
    have hmem : k ∉ dead := by simp [hdead, halive]
    refine ⟨(hremoved.kept k hmem).trans hafter.1, (get?_congr ?_).trans hafter.2⟩
    refine hremoved.frame _ fun k' hk' e' he' heq ↦ ?_
    obtain ⟨e₀, he₀, heq₀⟩ := hhandle he'
    rw [S.handle_visit] at heq
    exact hmem (howned.inj he₀ hheld.1 (heq₀.trans heq) ▸ hk')
  · intro k e x hheld hdies
    obtain ⟨hafter, hdead⟩ := hvisited hheld
    have hmem : k ∈ dead := hdead.mpr hdies
    refine ⟨hremoved.gone k hmem, ?_⟩
    rw [← S.handle_visit x e]
    exact hremoved.freed k hmem hafter.1
  · intro k hnone
    have hmem : k ∉ order := by simp [horder, hnone]
    obtain ⟨hsame, hdead⟩ := h.others k hmem
    rw [hremoved.kept k hdead, hsame, hnone]
  · intro h' hfree
    rw [hremoved.frame h' fun k _ e he heq ↦ ?_, h.frame h' fun k _ e he ↦ hfree he]
    obtain ⟨e₀, he₀, heq₀⟩ := hhandle he
    exact hfree he₀ (heq₀.trans heq)

/-- The sweep of one key. -/
theorem sweep_singleton (hheld : S.Holds t k e x) :
    S.sweep [k] t = some (if (S.visit x e).dead then
        ⟨Function.update t.entries k none, Function.update t.objects (S.handle e) none⟩
      else S.write t k (S.visit x e)) := by
  have hvisit : S.visitAll [k] t
      = some (S.write t k (S.visit x e), if (S.visit x e).dead then [k] else []) := by
    simp only [visitAll, hheld.1, hheld.2, Option.bind_eq_bind, Option.bind_some]
  rw [sweep, hvisit]
  cases (S.visit x e).dead with
  | true => simp [remove, write, S.handle_visit]
  | false => rfl

namespace Swept

variable (h : Swept S t t')

include h

omit [DecidableEq κ] [DecidableEq η] in
/-- Whatever a swept table holds is what a visit left. -/
theorem exists_visit {e' : ε} (howned : S.Owned t) (he' : t'.entries k = some e') :
    ∃ e x, S.Holds t k e x ∧ (S.visit x e).dead = false ∧ e' = (S.visit x e).entry
      ∧ S.Holds t' k (S.visit x e).entry (S.visit x e).object := by
  cases he : t.entries k with
  | none => exact absurd ((h.absent he).symm.trans he') (by simp)
  | some e =>
    obtain ⟨x, hheld⟩ := howned.holds he
    cases hdead : (S.visit x e).dead with
    | true => exact absurd ((h.gone hheld hdead).1.symm.trans he') (by simp)
    | false =>
      have hkept := h.kept hheld hdead
      exact ⟨e, x, hheld, hdead, Option.some.inj (he'.symm.trans hkept.1), hkept⟩

omit [DecidableEq κ] [DecidableEq η] in
theorem owned (howned : S.Owned t) : S.Owned t' := by
  constructor
  · intro k e' he'
    obtain ⟨e, x, -, -, rfl, hkept⟩ := h.exists_visit howned he'
    exact ⟨_, hkept.2⟩
  · intro k k' e e' he he' heq
    obtain ⟨e₀, x₀, hheld, -, rfl, -⟩ := h.exists_visit howned he
    obtain ⟨e₀', x₀', hheld', -, rfl, -⟩ := h.exists_visit howned he'
    rw [S.handle_visit, S.handle_visit] at heq
    exact howned.inj hheld.1 hheld'.1 heq

omit [DecidableEq κ] [DecidableEq η] in
/-- The handle of an object that a sweep leaves is not given up. -/
theorem names (howned : S.Owned t) {h' : η} {o : ω} (ho : t'.objects h' = some o)
    (hnames : S.Names t h') : S.Names t' h' := by
  obtain ⟨k, e, he, rfl⟩ := hnames
  obtain ⟨x, hheld⟩ := howned.holds he
  cases hdead : (S.visit x e).dead with
  | true => exact absurd ((h.gone hheld hdead).2.symm.trans ho) (by simp)
  | false => exact ⟨k, _, (h.kept hheld hdead).1, S.handle_visit x e⟩

omit [DecidableEq κ] [DecidableEq η] in
/-- A sweep makes no objects. -/
theorem objects_ne_none (howned : S.Owned t) {h' : η} (ho : t'.objects h' ≠ none) :
    t.objects h' ≠ none := by
  by_cases hnames : S.Names t h'
  · obtain ⟨k, e, he, rfl⟩ := hnames
    obtain ⟨x, -, hx⟩ := howned.holds he
    intro hnone
    rw [get?, hnone] at hx
    cases hx
  · rwa [← h.frame fun {k e} he heq ↦ hnames ⟨k, e, he, heq⟩]

end Swept

end Sweeper
