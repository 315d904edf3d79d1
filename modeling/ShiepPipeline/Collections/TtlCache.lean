import Mathlib.Logic.Function.Basic
import Mathlib.Data.List.Basic

/-!
# A cache whose entries expire

A key-value store filled from somewhere else. An entry is stored with the time at which it stops
being valid, a lookup serves it only before that time and drops it otherwise, and the whole store
can be cleared.

What a store may serve is judged by a history, a list of events that is kept by whoever watches the
store and not by the store. `Sound` relates the two: what is stored is what the last fetch for its
key brought, and nothing was cleared since. `Sound` carries the fetch that has not been stored yet,
if there is one, since between the two steps the history is ahead of the store.
-/

namespace TtlCache

variable {κ υ : Type}

structure Entry (υ : Type) where
  value : υ
  expiresAt : ℕ
deriving DecidableEq, Repr

structure Store (κ υ : Type) where
  entries : κ → Option (Entry υ)

namespace Store

def empty : Store κ υ := ⟨fun _ ↦ none⟩

variable [DecidableEq κ]

def put (ttl now : ℕ) (key : κ) (value : υ) (s : Store κ υ) : Store κ υ :=
  ⟨Function.update s.entries key (some ⟨value, now + ttl⟩)⟩

def get (now : ℕ) (key : κ) (s : Store κ υ) : Option υ × Store κ υ :=
  match s.entries key with
  | some entry =>
    if now < entry.expiresAt then (some entry.value, s)
    else (none, ⟨Function.update s.entries key none⟩)
  | none => (none, s)

omit [DecidableEq κ] in
/-- What a lookup at a time would find. -/
def live (now : ℕ) (s : Store κ υ) (key : κ) : Option υ :=
  (s.entries key).bind fun entry ↦ if now < entry.expiresAt then some entry.value else none

/-- The three things a lookup can do. -/
theorem get_cases (now : ℕ) (key : κ) (s : Store κ υ) :
    (∃ entry, s.entries key = some entry ∧ now < entry.expiresAt
      ∧ s.get now key = (some entry.value, s))
    ∨ (∃ entry, s.entries key = some entry ∧ entry.expiresAt ≤ now
      ∧ s.get now key = (none, ⟨Function.update s.entries key none⟩))
    ∨ (s.entries key = none ∧ s.get now key = (none, s)) := by
  rw [get]
  cases s.entries key with
  | none => exact .inr (.inr ⟨rfl, rfl⟩)
  | some entry =>
    by_cases h : now < entry.expiresAt
    · exact .inl ⟨entry, rfl, h, by simp [h]⟩
    · exact .inr (.inl ⟨entry, rfl, by omega, by simp [h]⟩)

/-- A lookup drops at most an expired entry, so from then on nothing looks different. -/
theorem live_get {now t : ℕ} (h : now ≤ t) (key : κ) (s : Store κ υ) :
    (s.get now key).2.live t = s.live t := by
  obtain ⟨entry, hs, hlt, heq⟩ | ⟨entry, hs, hle, heq⟩ | ⟨hs, heq⟩ := s.get_cases now key
  · rw [heq]
  · rw [heq]
    funext k
    by_cases hk : k = key
    · subst hk
      simp only [live, Function.update_self, hs, Option.bind_none, Option.bind_some]
      rw [if_neg (by omega)]
    · simp only [live, Function.update_of_ne hk]
  · rw [heq]

end Store

/-! ## Histories -/

/-- What a store has to answer for. A fetch is the moment a value for a key was obtained from
outside, and storing it is a step of its own. -/
inductive Event (κ υ : Type)
  | cleared
  | fetched (key : κ) (value : υ) (now : ℕ)
  | stored (key : κ) (value : υ) (now : ℕ)
deriving DecidableEq, Repr

/-- An event after which an earlier store under `key` no longer counts. -/
def Event.supersedes (key : κ) : Event κ υ → Prop
  | .cleared => True
  | .fetched k _ _ => k = key
  | .stored k _ _ => k = key

/-- The last fetch for `key` was made at time `asked` and brought `value`, it was stored directly
afterwards, at time `stored`, and nothing was cleared since. -/
def LastStored (history : List (Event κ υ)) (key : κ) (value : υ) (asked stored : ℕ) : Prop :=
  ∃ older newer, history = older ++ [.fetched key value asked, .stored key value stored] ++ newer
    ∧ ∀ e ∈ newer, ¬ e.supersedes key

theorem LastStored.append_singleton {history : List (Event κ υ)} {key : κ} {value : υ}
    {asked stored : ℕ} (h : LastStored history key value asked stored) {e : Event κ υ}
    (he : ¬ e.supersedes key) : LastStored (history ++ [e]) key value asked stored := by
  obtain ⟨older, newer, rfl, hnewer⟩ := h
  refine ⟨older, newer ++ [e], by simp, fun x hx ↦ ?_⟩
  rcases List.mem_append.mp hx with hx | hx
  · exact hnewer x hx
  · rwa [List.mem_singleton.mp hx]

theorem LastStored.fetched_mem {history : List (Event κ υ)} {key : κ} {value : υ}
    {asked stored : ℕ} (h : LastStored history key value asked stored) :
    .fetched key value asked ∈ history := by
  obtain ⟨older, newer, rfl, -⟩ := h
  simp

/-! ## The invariant -/

/-- The store agrees with the history at every time from `now` on. `debt` is the value that was
fetched last and is still to be stored. -/
structure Sound (ttl now : ℕ) (debt : Option (κ × υ)) (history : List (Event κ υ))
    (s : Store κ υ) : Prop where
  entries : ∀ key entry, s.entries key = some entry → (∀ d ∈ debt, d.1 ≠ key) →
    ∃ asked stored, LastStored history key entry.value asked stored ∧ asked ≤ stored
      ∧ stored ≤ now ∧ entry.expiresAt = stored + ttl
  fetched : ∀ d ∈ debt, ∃ older asked, history = older ++ [.fetched d.1 d.2 asked] ∧ asked ≤ now

variable {ttl now now' : ℕ} {debt : Option (κ × υ)} {history : List (Event κ υ)} {s : Store κ υ}

/-- An empty store agrees with every history. -/
theorem sound_of_entries_none (ttl now : ℕ) (history : List (Event κ υ))
    (h : ∀ key, s.entries key = none) : Sound ttl now none history s where
  entries key entry hkey := by simp [h key] at hkey
  fetched := by simp

theorem Sound.mono (h : Sound ttl now debt history s) (hle : now ≤ now') :
    Sound ttl now' debt history s where
  entries key entry hkey hdebt := by
    obtain ⟨asked, stored, hlast, hasked, hstored, hexp⟩ := h.entries key entry hkey hdebt
    exact ⟨asked, stored, hlast, hasked, Nat.le_trans hstored hle, hexp⟩
  fetched d hd := by
    obtain ⟨older, asked, hhistory, hasked⟩ := h.fetched d hd
    exact ⟨older, asked, hhistory, Nat.le_trans hasked hle⟩

theorem Sound.fetch (h : Sound ttl now none history s) (key : κ) (value : υ) :
    Sound ttl now (some (key, value)) (history ++ [.fetched key value now]) s where
  entries k entry hk hdebt := by
    obtain ⟨asked, stored, hlast, hrest⟩ := h.entries k entry hk (by simp)
    exact ⟨asked, stored, hlast.append_singleton (hdebt _ rfl), hrest⟩
  fetched := by
    rintro _ ⟨⟩
    exact ⟨history, now, rfl, Nat.le_refl now⟩

variable [DecidableEq κ]

/-- Storing what was fetched settles the debt. -/
theorem Sound.put {key : κ} {value : υ} (h : Sound ttl now (some (key, value)) history s) :
    Sound ttl now none (history ++ [.stored key value now]) (s.put ttl now key value) where
  entries k entry hk _ := by
    simp only [Store.put] at hk
    by_cases hkey : k = key
    · subst hkey
      obtain ⟨older, asked, rfl, hasked⟩ := h.fetched _ rfl
      rw [Function.update_self] at hk
      obtain rfl : _ = entry := Option.some.inj hk
      exact ⟨asked, now, ⟨older, [], by simp, by simp⟩, hasked, Nat.le_refl now, rfl⟩
    · rw [Function.update_of_ne hkey] at hk
      have hne : key ≠ k := Ne.symm hkey
      obtain ⟨asked, stored, hlast, hrest⟩ := h.entries k entry hk (by rintro _ ⟨⟩; exact hne)
      exact ⟨asked, stored, hlast.append_singleton hne, hrest⟩
  fetched := by simp

theorem Sound.get (h : Sound ttl now none history s) (key : κ) :
    Sound ttl now none history (s.get now key).2 := by
  obtain ⟨entry, hs, hlt, heq⟩ | ⟨entry, hs, hexpired, heq⟩ | ⟨hs, heq⟩ := s.get_cases now key
  · rwa [heq]
  · rw [heq]
    refine ⟨fun k e hk hdebt ↦ ?_, h.fetched⟩
    by_cases hkey : k = key
    · simp [hkey] at hk
    · simp only [Function.update_of_ne hkey] at hk
      exact h.entries k e hk hdebt
  · rwa [heq]

/-- **What a sound store serves** was brought by the last fetch for its key and stored less than the
time to live before, with no clearing since. -/
theorem Sound.served (h : Sound ttl now none history s) {key : κ} {value : υ}
    (hget : (s.get now key).1 = some value) :
    ∃ asked stored, LastStored history key value asked stored ∧ asked ≤ stored ∧ stored ≤ now
      ∧ now < stored + ttl := by
  obtain ⟨entry, hs, hlt, heq⟩ | ⟨-, -, -, heq⟩ | ⟨-, heq⟩ := s.get_cases now key
  · obtain ⟨asked, stored, hlast, hasked, hstored, hexp⟩ := h.entries key entry hs (by simp)
    rw [heq] at hget
    obtain rfl : entry.value = value := Option.some.inj hget
    exact ⟨asked, stored, hlast, hasked, hstored, hexp ▸ hlt⟩
  · simp [heq] at hget
  · simp [heq] at hget

end TtlCache
