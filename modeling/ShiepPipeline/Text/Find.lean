import ShiepPipeline.Text.Str

/-!
# Where a text stands in another

`str::find` and `str::contains` for a text. What is found first is cut out by `splitOnceStr`, and
`FirstAt` says which place that is.
-/

namespace Str

/-- A list cut at the first place where `p` stands. -/
def splitOnceList (p : List Char) : List Char → Option (List Char × List Char)
  | [] => if p = [] then some ([], []) else none
  | c :: cs =>
    if p <+: c :: cs then some ([], (c :: cs).drop p.length)
    else (splitOnceList p cs).map fun (a, b) ↦ (c :: a, b)

/-- The texts before and after the first place where `p` stands. -/
def splitOnceStr (s p : String) : Option (String × String) :=
  (splitOnceList p.toList s.toList).map fun (a, b) ↦ (String.ofList a, String.ofList b)

/-- `str::contains` for a text. -/
def containsStr (s p : String) : Bool := (splitOnceStr s p).isSome

/-- `p` stands between `a` and `b`, and nowhere before. -/
structure FirstAt (s p a b : String) : Prop where
  eq : s = a ++ p ++ b
  least : ∀ {a' b'}, s = a' ++ p ++ b' → a.length ≤ a'.length

theorem splitOnceList_eq_none_iff {p l : List Char} : splitOnceList p l = none ↔ ¬p <:+: l := by
  induction l with
  | nil => simp [splitOnceList]
  | cons c cs ih =>
    rw [splitOnceList, List.infix_cons_iff, not_or]
    split_ifs with hprefix
    · exact iff_of_false nofun fun h ↦ h.1 hprefix
    · rw [Option.map_eq_none_iff, ih]
      exact (and_iff_right hprefix).symm

theorem containsStr_iff {s p : String} : containsStr s p = true ↔ ∃ a b, s = a ++ p ++ b := by
  rw [containsStr, splitOnceStr, Option.isSome_map, Option.isSome_iff_ne_none, Ne,
    splitOnceList_eq_none_iff, not_not]
  constructor
  · rintro ⟨a, b, h⟩
    refine ⟨String.ofList a, String.ofList b, ?_⟩
    rw [← String.toList_inj, String.toList_append, String.toList_append, String.toList_ofList,
      String.toList_ofList, h]
  · rintro ⟨a, b, rfl⟩
    exact ⟨a.toList, b.toList, by rw [String.toList_append, String.toList_append]⟩

theorem splitOnceList_eq_some {p l a b : List Char} (h : splitOnceList p l = some (a, b)) :
    l = a ++ p ++ b ∧ ∀ a' b', l = a' ++ p ++ b' → a.length ≤ a'.length := by
  induction l generalizing a with
  | nil =>
    rw [splitOnceList] at h
    split_ifs at h with hp
    obtain ⟨rfl, rfl⟩ := Prod.mk.inj (Option.some.inj h)
    exact ⟨by rw [hp]; rfl, fun _ _ _ ↦ Nat.zero_le _⟩
  | cons c cs ih =>
    rw [splitOnceList] at h
    split_ifs at h with hprefix
    · obtain ⟨rfl, rfl⟩ := Prod.mk.inj (Option.some.inj h)
      obtain ⟨rest, hrest⟩ := hprefix
      refine ⟨?_, fun _ _ _ ↦ Nat.zero_le _⟩
      rw [← hrest, List.drop_left, List.nil_append]
    · obtain ⟨⟨a₁, b₁⟩, hcs, heq⟩ := Option.map_eq_some_iff.mp h
      obtain ⟨rfl, rfl⟩ := Prod.mk.inj heq
      obtain ⟨hsplit, hleast⟩ := ih hcs
      refine ⟨by rw [hsplit]; rfl, fun a' b' h' ↦ ?_⟩
      obtain _ | ⟨x, a'⟩ := a'
      · exact absurd ⟨b', h'.symm⟩ hprefix
      · exact Nat.succ_le_succ (hleast a' b' (List.cons.inj h').2)

/-- **The first place**: there is one exactly if the text stands somewhere, and only one. -/
theorem splitOnceStr_eq_some_iff {s p a b : String} :
    splitOnceStr s p = some (a, b) ↔ FirstAt s p a b := by
  have hsound : ∀ {a b : String}, splitOnceStr s p = some (a, b) → FirstAt s p a b := by
    intro a b h
    obtain ⟨⟨a₁, b₁⟩, hcut, heq⟩ := Option.map_eq_some_iff.mp h
    obtain ⟨rfl, rfl⟩ := Prod.mk.inj heq
    obtain ⟨hsplit, hleast⟩ := splitOnceList_eq_some hcut
    refine ⟨?_, fun {a' b'} h' ↦ ?_⟩
    · rw [← String.toList_inj, String.toList_append, String.toList_append, String.toList_ofList,
        String.toList_ofList, hsplit]
    · have hlist := hleast a'.toList b'.toList
        (by rw [h', String.toList_append, String.toList_append])
      rwa [← String.length_toList, String.toList_ofList, ← String.length_toList]
  refine ⟨hsound, fun h ↦ ?_⟩
  rcases hcut : splitOnceStr s p with _ | ⟨a₁, b₁⟩
  · have hnone := splitOnceList_eq_none_iff.mp (Option.map_eq_none_iff.mp hcut)
    exact absurd ⟨a.toList, b.toList,
      by rw [h.eq, String.toList_append, String.toList_append]⟩ hnone
  · have h₁ := hsound hcut
    have hlen : a₁.length = a.length := le_antisymm (h₁.least h.eq) (h.least h₁.eq)
    have heq := h₁.eq.symm.trans h.eq
    rw [← String.toList_inj] at heq
    simp only [String.toList_append, List.append_assoc] at heq
    rw [← String.length_toList, ← String.length_toList] at hlen
    obtain ⟨ha, hb⟩ := List.append_inj heq hlen
    rw [String.toList_inj.mp ha, String.toList_inj.mp (List.append_cancel_left hb)]

end Str
