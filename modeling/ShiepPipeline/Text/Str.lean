import Mathlib.Algebra.Group.Int.Defs
import Mathlib.Algebra.Group.Nat.Defs
import Mathlib.Data.List.DropRight

/-!
# Text operations of the standard library

The operations of Rust's `str` that free-form settings go through, written on the characters of a
`String`: trimming, cutting at a separator, ASCII case folding and integer parsing. A Rust `str`
is a sequence of Unicode scalar values, and so is `String.toList`, so every operation here is a
list function between `String.toList` and `String.ofList`.

Each operation comes with its `toList` equation. Proofs about text go to characters through these
equations and never open a definition of this file again.
-/

namespace Str

/-! ## Trimming -/

/-- The Unicode property `White_Space`, which is what `str::trim` strips. -/
def isWhitespace (c : Char) : Bool :=
  let n := c.toNat
  decide (9 ≤ n ∧ n ≤ 13) || decide (n = 0x20) || decide (n = 0x85) || decide (n = 0xA0)
    || decide (n = 0x1680) || decide (0x2000 ≤ n ∧ n ≤ 0x200A) || decide (n = 0x2028)
    || decide (n = 0x2029) || decide (n = 0x202F) || decide (n = 0x205F) || decide (n = 0x3000)

/-- `str::trim`. -/
def trim (s : String) : String :=
  String.ofList ((s.toList.dropWhile isWhitespace).rdropWhile isWhitespace)

/-- `str::trim_end_matches` for a single character. -/
def trimEndMatches (s : String) (c : Char) : String :=
  String.ofList (s.toList.rdropWhile (· == c))

/-- `str::to_ascii_lowercase`. `Char.toLower` moves the letters `A` to `Z` and nothing else. -/
def toAsciiLowercase (s : String) : String := String.ofList (s.toList.map Char.toLower)

@[simp] theorem toList_trim (s : String) :
    (trim s).toList = (s.toList.dropWhile isWhitespace).rdropWhile isWhitespace :=
  String.toList_ofList

theorem isWhitespace_of_isDigit {c : Char} (h : c.isDigit = true) : isWhitespace c = false := by
  have hc : 48 ≤ c.toNat ∧ c.toNat ≤ 57 := by
    simpa [Char.isDigit, UInt32.le_iff_toNat_le] using h
  simp only [isWhitespace, Bool.or_eq_false_iff, decide_eq_false_iff_not]
  omega

/-- Text without white space is not changed by trimming. -/
theorem trim_eq_self {s : String} (h : ∀ c ∈ s.toList, isWhitespace c = false) : trim s = s := by
  have hfront : s.toList.dropWhile isWhitespace = s.toList := by
    rw [List.dropWhile_eq_self_iff]
    intro hl
    simp [h _ (List.getElem_mem hl)]
  have hback : s.toList.rdropWhile isWhitespace = s.toList := by
    rw [List.rdropWhile_eq_self_iff]
    intro hl
    simp [h _ (List.getLast_mem hl)]
  rw [← String.toList_inj, toList_trim, hfront, hback]

/-- Text is not changed by trimming if its first and last characters are no white space. -/
theorem trim_eq_self_iff {s : String} :
    trim s = s ↔ (∀ c ∈ s.toList.head?, isWhitespace c = false)
      ∧ ∀ c ∈ s.toList.getLast?, isWhitespace c = false := by
  rw [← String.toList_inj, toList_trim]
  constructor
  · intro h
    have hfront : s.toList.dropWhile isWhitespace = s.toList := by
      refine (List.dropWhile_suffix isWhitespace).eq_of_length_le ?_
      rw [← congrArg List.length h]
      exact (List.rdropWhile_prefix isWhitespace _).length_le
    rw [hfront] at h
    constructor
    · intro c hc
      obtain ⟨rest, hrest⟩ : ∃ rest, s.toList = c :: rest := by
        cases hs : s.toList with
        | nil => simp [hs] at hc
        | cons x rest => exact ⟨rest, by simpa [hs] using hc⟩
      rw [hrest, List.dropWhile_eq_self_iff] at hfront
      simpa using hfront (Nat.succ_pos _)
    · intro c hc
      have hne : s.toList ≠ [] := by
        rintro hs
        simp [hs] at hc
      rw [List.rdropWhile_eq_self_iff] at h
      rw [List.getLast?_eq_some_getLast hne, Option.mem_some_iff] at hc
      simpa [hc] using h hne
  · rintro ⟨hhead, hlast⟩
    have hfront : s.toList.dropWhile isWhitespace = s.toList := by
      rw [List.dropWhile_eq_self_iff]
      intro hl
      rw [hhead _ (List.head?_eq_getElem? ▸ List.getElem?_eq_getElem hl)]
      exact Bool.false_ne_true
    rw [hfront, List.rdropWhile_eq_self_iff]
    intro hl
    rw [hlast _ (List.getLast?_eq_some_getLast hl)]
    exact Bool.false_ne_true

private theorem mem_dropWhile {p : Char → Bool} {l : List Char} {c : Char} (h : c ∈ l)
    (hc : p c = false) : c ∈ l.dropWhile p := by
  induction l with
  | nil => exact h
  | cons x l ih =>
    rw [List.dropWhile_cons]
    split_ifs with hx
    · obtain rfl | h := List.mem_cons.mp h
      · exact absurd hx (by rw [hc]; exact Bool.false_ne_true)
      · exact ih h
    · exact h

/-- What is not white space stays. -/
theorem mem_trim {s : String} {c : Char} (h : c ∈ s.toList) (hc : isWhitespace c = false) :
    c ∈ (trim s).toList := by
  rw [toList_trim, List.rdropWhile, List.mem_reverse]
  exact mem_dropWhile (List.mem_reverse.mpr (mem_dropWhile h hc)) hc

/-- Trimming twice is trimming once. -/
@[simp] theorem trim_trim (s : String) : trim (trim s) = trim s := by
  have hfront : ((s.toList.dropWhile isWhitespace).rdropWhile isWhitespace).dropWhile isWhitespace
      = (s.toList.dropWhile isWhitespace).rdropWhile isWhitespace := by
    rw [List.dropWhile_eq_self_iff]
    intro hl
    have hpre := List.rdropWhile_prefix isWhitespace (s.toList.dropWhile isWhitespace)
    rw [hpre.getElem hl]
    exact List.dropWhile_eq_self_iff.mp (List.dropWhile_idempotent _ _)
      (hl.trans_le hpre.length_le)
  rw [← String.toList_inj, toList_trim, toList_trim, hfront, List.rdropWhile_idempotent]

section Ends

variable {p : Char → Bool} {c : Char}

/-- What stands behind a character that stays is not looked at. -/
theorem dropWhile_append_cons (hc : p c = false) (l r : List Char) :
    (l ++ c :: r).dropWhile p = l.dropWhile p ++ c :: r := by
  induction l with
  | nil => simp [hc]
  | cons x l ih =>
    rw [List.cons_append, List.dropWhile_cons, List.dropWhile_cons]
    split_ifs
    · exact ih
    · rfl

theorem rdropWhile_append_cons (hc : p c = false) (l r : List Char) :
    (l ++ c :: r).rdropWhile p = l ++ c :: r.rdropWhile p := by
  rw [List.rdropWhile, List.reverse_append, List.reverse_cons, List.append_assoc,
    List.singleton_append, dropWhile_append_cons hc]
  simp [List.rdropWhile]

theorem rdropWhile_dropWhile_rdropWhile (l : List Char) :
    ((l.rdropWhile p).dropWhile p).rdropWhile p = (l.dropWhile p).rdropWhile p := by
  by_cases hall : ∀ x ∈ l, p x = true
  · rw [List.rdropWhile_eq_nil_iff.mpr hall, List.dropWhile_eq_nil_iff.mpr hall]
    rfl
  · simp only [not_forall, Bool.not_eq_true] at hall
    obtain ⟨c, hmem, hc⟩ := hall
    obtain ⟨x, y, rfl⟩ := List.append_of_mem hmem
    rw [rdropWhile_append_cons hc, dropWhile_append_cons hc, dropWhile_append_cons hc,
      rdropWhile_append_cons hc, rdropWhile_append_cons hc, List.rdropWhile_idempotent]

/-- White space inside of a text stays. -/
theorem toList_trim_append {a b sep : String} (hsep : sep.toList = [c])
    (hc : isWhitespace c = false) :
    (trim (a ++ sep ++ b)).toList
      = a.toList.dropWhile isWhitespace ++ c :: b.toList.rdropWhile isWhitespace := by
  rw [toList_trim, String.toList_append, String.toList_append, hsep, List.append_assoc,
    List.singleton_append, dropWhile_append_cons hc, rdropWhile_append_cons hc]

end Ends

/-! ## Cutting at a separator -/

/-- `str::split_once`: the parts before and after the first occurrence of `c`. -/
def splitOnce (s : String) (c : Char) : Option (String × String) :=
  match s.toList.dropWhile (· != c) with
  | [] => none
  | _ :: rest => some (String.ofList (s.toList.takeWhile (· != c)), String.ofList rest)

/-- `str::rsplit_once`: the parts before and after the last occurrence of `c`. -/
def rsplitOnce (s : String) (c : Char) : Option (String × String) :=
  match s.toList.reverse.dropWhile (· != c) with
  | [] => none
  | _ :: rest => some (String.ofList rest.reverse,
      String.ofList (s.toList.reverse.takeWhile (· != c)).reverse)

/-- A list cut at the last place where `p` stands. -/
def rsplitOnceList (p : List Char) : List Char → Option (List Char × List Char)
  | [] => if p = [] then some ([], []) else none
  | c :: cs =>
    match rsplitOnceList p cs with
    | some (a, b) => some (c :: a, b)
    | none => if p <+: c :: cs then some ([], (c :: cs).drop p.length) else none

/-- `str::rsplit_once` for a text. -/
def rsplitOnceStr (s p : String) : Option (String × String) :=
  (rsplitOnceList p.toList s.toList).map fun (a, b) ↦ (String.ofList a, String.ofList b)

/-- `str::split` for a single character: at least one part, also of an empty text. -/
def split (s : String) (c : Char) : List String := (s.toList.splitOn c).map String.ofList

/-- `str::strip_prefix`. -/
def stripPrefix (s p : String) : Option String :=
  if p.toList <+: s.toList then some (String.ofList (s.toList.drop p.toList.length)) else none

/-- `str::starts_with`. -/
def startsWith (s p : String) : Bool := p.toList <+: s.toList

/-- `str::split_whitespace`. -/
def splitWhitespace (s : String) : List String :=
  ((s.toList.splitOnP isWhitespace).filter (· ≠ [])).map String.ofList

/-- The first of `str::lines`, without its line end. -/
def firstLine (s : String) : String :=
  let line := s.toList.takeWhile (· ≠ '\n')
  String.ofList (if '\n' ∈ s.toList ∧ line.getLast? = some '\r' then line.dropLast else line)

/-- `str::contains` for a single character. -/
def contains (s : String) (c : Char) : Bool := s.toList.contains c

theorem stripPrefix_eq_some_iff {s p r : String} : stripPrefix s p = some r ↔ s = p ++ r := by
  rw [stripPrefix, ← String.toList_inj, String.toList_append]
  constructor
  · intro h
    split_ifs at h with hp
    obtain ⟨rest, hrest⟩ := hp
    rw [← Option.some.inj h, String.toList_ofList, ← hrest, List.drop_left]
  · intro h
    rw [if_pos ⟨r.toList, h.symm⟩, h, List.drop_left, String.ofList_toList]

theorem startsWith_iff {s p : String} : startsWith s p = true ↔ ∃ r, s = p ++ r := by
  rw [startsWith, decide_eq_true_iff]
  constructor
  · rintro ⟨r, hr⟩
    refine ⟨String.ofList r, ?_⟩
    rw [← String.toList_inj, String.toList_append, String.toList_ofList, hr]
  · rintro ⟨r, rfl⟩
    exact ⟨r.toList, String.toList_append.symm⟩

theorem startsWith_eq_false_iff {s p : String} :
    startsWith s p = false ↔ stripPrefix s p = none := by
  rw [startsWith, decide_eq_false_iff_not, stripPrefix]
  split_ifs with h <;> simp [h]

/-- A text cannot begin with what has a character that the text has not. -/
theorem stripPrefix_eq_none {s p : String} {c : Char} (hp : c ∈ p.toList) (hs : c ∉ s.toList) :
    stripPrefix s p = none := by
  rw [stripPrefix, if_neg]
  exact fun h ↦ hs (h.subset hp)

/-- A character that the beginning has not ends it. -/
theorem prefix_of_prefix_append_cons {p x y : List Char} {c : Char} (h : p <+: x ++ c :: y)
    (hc : c ∉ p) : p <+: x := by
  by_cases hlen : p.length ≤ x.length
  · exact List.prefix_of_prefix_length_le h (List.prefix_append x _) hlen
  · have hx : x ++ [c] <+: x ++ c :: y := ⟨y, by simp⟩
    have hp : x ++ [c] <+: p := by
      refine List.prefix_of_prefix_length_le hx h ?_
      rw [List.length_append, List.length_singleton]
      omega
    exact absurd (hp.subset (List.mem_append_right x (List.mem_singleton.mpr rfl))) hc

private theorem dropWhile_ne_eq_nil_iff {l : List Char} {c : Char} :
    l.dropWhile (· != c) = [] ↔ c ∉ l := by
  rw [List.dropWhile_eq_nil_iff]
  constructor
  · intro h hc
    simpa using h c hc
  · intro h x hx
    simp only [bne_iff_ne, ne_eq]
    exact fun hxc ↦ h (hxc ▸ hx)

theorem splitOnce_eq_none_iff {s : String} {c : Char} :
    splitOnce s c = none ↔ contains s c = false := by
  rw [splitOnce, contains, List.contains_eq_mem, decide_eq_false_iff_not,
    ← dropWhile_ne_eq_nil_iff]
  cases s.toList.dropWhile (· != c) <;> simp

/-- A list is cut in front of the first `c`. -/
theorem cut_iff {l a b : List Char} {c : Char} :
    l.takeWhile (· != c) = a ∧ l.dropWhile (· != c) = c :: b ↔ l = a ++ c :: b ∧ c ∉ a := by
  constructor
  · rintro ⟨rfl, hdrop⟩
    refine ⟨?_, fun hc ↦ ?_⟩
    · rw [← hdrop, List.takeWhile_append_dropWhile]
    · simpa using List.mem_takeWhile_imp hc
  · rintro ⟨rfl, hc⟩
    have hne : ∀ x ∈ a, (x != c) = true := fun x hx ↦ bne_iff_ne.mpr fun h ↦ hc (h ▸ hx)
    rw [List.takeWhile_append_of_pos hne, List.dropWhile_append_of_pos hne]
    simp

theorem eq_of_dropWhile_ne {l rest : List Char} {c x : Char}
    (h : l.dropWhile (· != c) = x :: rest) : x = c := by
  have hhead := List.head_dropWhile_not (· != c) (l := l) (by rw [h]; exact List.cons_ne_nil _ _)
  simpa [h] using hhead

theorem splitOnce_eq_some_iff {s a b : String} {c : Char} :
    splitOnce s c = some (a, b) ↔ s.toList = a.toList ++ c :: b.toList ∧ c ∉ a.toList := by
  rw [← cut_iff, splitOnce]
  split
  · rename_i hdrop
    simp [hdrop]
  · rename_i x rest hdrop
    obtain rfl := eq_of_dropWhile_ne hdrop
    rw [hdrop, Option.some.injEq, Prod.mk.injEq, ← String.toList_inj, ← String.toList_inj,
      String.toList_ofList, String.toList_ofList, List.cons.injEq]
    simp

theorem splitOnce_append {a b sep : String} {c : Char} (hsep : sep.toList = [c])
    (hc : c ∉ a.toList) : splitOnce (a ++ sep ++ b) c = some (a, b) := by
  rw [splitOnce_eq_some_iff]
  exact ⟨by simp [hsep], hc⟩

/-- Trimming before or after the cut makes no difference to the trimmed parts. -/
theorem exists_splitOnce_trim {a b sep : String} {c : Char} (hsep : sep.toList = [c])
    (hc : isWhitespace c = false) (ha : c ∉ a.toList) :
    ∃ a' b', splitOnce (trim (a ++ sep ++ b)) c = some (a', b')
      ∧ trim a' = trim a ∧ trim b' = trim b := by
  refine ⟨String.ofList (a.toList.dropWhile isWhitespace),
    String.ofList (b.toList.rdropWhile isWhitespace), ?_, ?_, ?_⟩
  · rw [splitOnce_eq_some_iff, toList_trim_append hsep hc, String.toList_ofList,
      String.toList_ofList]
    exact ⟨rfl, fun hmem ↦ ha ((List.dropWhile_suffix _).subset hmem)⟩
  · rw [← String.toList_inj, toList_trim, toList_trim, String.toList_ofList,
      List.dropWhile_idempotent]
  · rw [← String.toList_inj, toList_trim, toList_trim, String.toList_ofList,
      rdropWhile_dropWhile_rdropWhile]

theorem eq_append_of_splitOnce {s a b sep : String} {c : Char} (hsep : sep.toList = [c])
    (h : splitOnce s c = some (a, b)) : s = a ++ sep ++ b := by
  rw [← String.toList_inj, (splitOnce_eq_some_iff.mp h).1]
  simp [hsep]

theorem rsplitOnce_eq_some_iff {s a b : String} {c : Char} :
    rsplitOnce s c = some (a, b) ↔ s.toList = a.toList ++ c :: b.toList ∧ c ∉ b.toList := by
  have hrev : s.toList = a.toList ++ c :: b.toList
      ↔ s.toList.reverse = b.toList.reverse ++ c :: a.toList.reverse := by
    rw [← List.reverse_inj]
    simp
  rw [hrev, ← @List.mem_reverse _ c b.toList, ← cut_iff, rsplitOnce]
  split
  · rename_i hdrop
    simp [hdrop]
  · rename_i x rest hdrop
    obtain rfl := eq_of_dropWhile_ne hdrop
    rw [hdrop, Option.some.injEq, Prod.mk.injEq, ← String.toList_inj, ← String.toList_inj,
      String.toList_ofList, String.toList_ofList, List.cons.injEq, List.reverse_eq_iff,
      List.reverse_eq_iff]
    simp [and_comm]

theorem rsplitOnce_append {a b sep : String} {c : Char} (hsep : sep.toList = [c])
    (hc : c ∉ b.toList) : rsplitOnce (a ++ sep ++ b) c = some (a, b) := by
  rw [rsplitOnce_eq_some_iff]
  exact ⟨by simp [hsep], hc⟩

/-- A text has only one last separator. -/
theorem append_inj_of_not_mem {a b a' b' sep : String} {c : Char} (hsep : sep.toList = [c])
    (hb : c ∉ b.toList) (hb' : c ∉ b'.toList) (h : a ++ sep ++ b = a' ++ sep ++ b') :
    a = a' ∧ b = b' := by
  have hcut : rsplitOnce (a ++ sep ++ b) c = some (a, b) := rsplitOnce_append hsep hb
  rw [h, rsplitOnce_append hsep hb', Option.some.injEq, Prod.mk.injEq] at hcut
  exact ⟨hcut.1.symm, hcut.2.symm⟩

theorem rsplitOnce_eq_none_iff {s : String} {c : Char} :
    rsplitOnce s c = none ↔ c ∉ s.toList := by
  rw [rsplitOnce, ← List.mem_reverse, ← dropWhile_ne_eq_nil_iff]
  cases s.toList.reverse.dropWhile (· != c) <;> simp

theorem rsplitOnceList_eq_none_iff {p l : List Char} :
    rsplitOnceList p l = none ↔ ¬p <:+: l := by
  induction l with
  | nil => simp [rsplitOnceList]
  | cons c cs ih =>
    rw [rsplitOnceList, List.infix_cons_iff, not_or, ← ih]
    rcases rsplitOnceList p cs with _ | ⟨a, b⟩ <;> simp

/-- The last place: there is no other one after it. -/
theorem rsplitOnceList_eq_some_iff {p l a b : List Char} (hp : p ≠ []) :
    rsplitOnceList p l = some (a, b) ↔ l = a ++ p ++ b ∧ ¬p <:+: (p ++ b).tail := by
  induction l generalizing a b with
  | nil => simp [rsplitOnceList, hp]
  | cons c cs ih =>
    rw [rsplitOnceList]
    rcases hcs : rsplitOnceList p cs with _ | ⟨a', b'⟩
    · have hnone : ¬p <:+: cs := rsplitOnceList_eq_none_iff.mp hcs
      obtain _ | ⟨x, a⟩ := a
      · dsimp only
        split_ifs with hprefix
        · obtain ⟨rest, hrest⟩ := hprefix
          rw [← hrest, List.drop_left]
          simp only [Option.some.injEq, Prod.mk.injEq, true_and, List.nil_append,
            List.append_cancel_left_eq]
          constructor
          · rintro rfl
            exact ⟨rfl, by rwa [hrest]⟩
          · rintro ⟨rfl, -⟩
            rfl
        · refine iff_of_false (by simp) ?_
          rintro ⟨h, -⟩
          exact hprefix ⟨b, h.symm⟩
      · refine iff_of_false ?_ ?_
        · dsimp only
          split_ifs <;> simp
        · rintro ⟨h, -⟩
          exact hnone ⟨a, b, (List.cons.inj h).2.symm⟩
    · dsimp only
      obtain _ | ⟨x, a⟩ := a
      · refine iff_of_false (by simp) ?_
        rintro ⟨h, hlast⟩
        rw [← List.nil_append p, ← h, List.tail_cons, (ih.mp hcs).1] at hlast
        exact hlast (List.infix_append a' p b')
      · have hsome := @ih a b
        rw [hcs] at hsome
        simp only [Option.some.injEq, Prod.mk.injEq, List.cons.injEq, List.cons_append] at hsome ⊢
        rw [and_assoc, hsome, and_assoc, eq_comm]

theorem split_of_not_mem {s : String} {c : Char} (h : c ∉ s.toList) : split s c = [s] := by
  rw [split, List.splitOn_eq_singleton h, List.map_singleton, String.ofList_toList]

/-- The first part of a text is what stands in front of the first separator. -/
theorem head?_split (s : String) (c : Char) :
    (split s c).head? = some (String.ofList (s.toList.takeWhile (· != c))) := by
  rcases hcut : s.toList.dropWhile (· != c) with _ | ⟨x, rest⟩
  · have hc : c ∉ s.toList := dropWhile_ne_eq_nil_iff.mp hcut
    have htake : s.toList.takeWhile (· != c) = s.toList :=
      List.takeWhile_eq_self_iff.mpr (List.dropWhile_eq_nil_iff.mp hcut)
    rw [split_of_not_mem hc, htake, String.ofList_toList, List.head?_cons]
  · obtain rfl := eq_of_dropWhile_ne hcut
    obtain ⟨hs, hx⟩ := cut_iff.mp ⟨rfl, hcut⟩
    rw [split]
    nth_rewrite 1 [hs]
    rw [List.splitOn_append_cons_self_of_not_mem hx, List.map_cons, List.head?_cons]

/-- Cutting a joined list gives its items back. -/
theorem split_intercalate {items : List String} {sep : String} {c : Char} (hsep : sep.toList = [c])
    (hne : items ≠ []) (h : ∀ item ∈ items, c ∉ item.toList) :
    split (sep.intercalate items) c = items := by
  rw [split, String.toList_intercalate, hsep, List.splitOn_intercalate]
  · simp
  · intro l hl
    obtain ⟨item, hmem, rfl⟩ := List.mem_map.mp hl
    exact h item hmem
  · simpa using hne

/-! ## Integers -/

/-- The digits of an unsigned integer's text: one leading `+` is allowed and skipped. -/
def unsignedDigits (s : String) : List Char :=
  match s.toList with
  | '+' :: rest => rest
  | cs => cs

/-- `str::parse` for an unsigned integer type with largest value `max`: decimal digits, leading
zeros allowed, at least one of them, and no overflow. -/
def parseUnsigned (max : ℕ) (s : String) : Option ℕ :=
  if unsignedDigits s ≠ [] ∧ (unsignedDigits s).all Char.isDigit
      ∧ Nat.ofDigitChars 10 (unsignedDigits s) 0 ≤ max then
    some (Nat.ofDigitChars 10 (unsignedDigits s) 0)
  else none

/-- The text of an unsigned integer has digits and signs only. -/
theorem mem_of_parseUnsigned {max : ℕ} {s : String} (h : (parseUnsigned max s).isSome)
    {c : Char} (hc : c ∈ s.toList) : c = '+' ∨ c.isDigit = true := by
  rw [parseUnsigned] at h
  split_ifs at h with hs
  · have hdigits : ∀ c ∈ unsignedDigits s, c.isDigit = true := List.all_eq_true.mp hs.2.1
    rw [unsignedDigits] at hdigits
    split at hdigits
    · rename_i rest hrest
      rw [hrest, List.mem_cons] at hc
      exact hc.imp_right (hdigits c)
    · exact .inr (hdigits c hc)
  · cases h

theorem ne_nil_of_parseUnsigned {max : ℕ} {s : String} (h : (parseUnsigned max s).isSome) :
    s.toList ≠ [] := by
  intro hnil
  rw [parseUnsigned, unsignedDigits, hnil] at h
  cases h

/-- The digits of an `i32` after its sign, most significant first: the first character that is not
a digit or takes the value out of range decides the error. -/
def parseI32Digits (sign : ℤ) : ℤ → List Char → Except String ℤ
  | value, [] => .ok value
  | value, c :: rest =>
    let value' := value * 10 + sign * (c.toNat - '0'.toNat : ℕ)
    if c.isDigit = false then .error "invalid digit found in string"
    else if value' > 2 ^ 31 - 1 then .error "number too large to fit in target type"
    else if value' < -2 ^ 31 then .error "number too small to fit in target type"
    else parseI32Digits sign value' rest

/-- `str::parse` for `i32`, with the text of its error. -/
def parseI32 (s : String) : Except String ℤ :=
  match s.toList with
  | [] => .error "cannot parse integer from empty string"
  | ['+'] | ['-'] => .error "invalid digit found in string"
  | '+' :: digits => parseI32Digits 1 0 digits
  | '-' :: digits => parseI32Digits (-1) 0 digits
  | digits => parseI32Digits 1 0 digits

/-- The digits of a `u32`, most significant first. -/
def parseU32Digits : ℕ → List Char → Except String ℕ
  | value, [] => .ok value
  | value, c :: rest =>
    let value' := value * 10 + (c.toNat - '0'.toNat)
    if c.isDigit = false then .error "invalid digit found in string"
    else if 2 ^ 32 ≤ value' then .error "number too large to fit in target type"
    else parseU32Digits value' rest

/-- `str::parse` for `u32`, with the text of its error. -/
def parseU32 (s : String) : Except String ℕ :=
  match s.toList with
  | [] => .error "cannot parse integer from empty string"
  | ['+'] => .error "invalid digit found in string"
  | '+' :: digits => parseU32Digits 0 digits
  | digits => parseU32Digits 0 digits

theorem parseI32Digits_append (sign value : ℤ) (ds es : List Char) :
    parseI32Digits sign value (ds ++ es)
      = (parseI32Digits sign value ds).bind fun value' ↦ parseI32Digits sign value' es := by
  induction ds generalizing value with
  | nil => rfl
  | cons d ds ih =>
    rw [List.cons_append, parseI32Digits, parseI32Digits]
    split_ifs
    · rfl
    · rfl
    · rfl
    · exact ih _

/-- One more digit, in range. -/
theorem parseI32Digits_singleton {sign value : ℤ} {k : ℕ} (hk : k < 10)
    (hlow : -2 ^ 31 ≤ value * 10 + sign * k) (hhigh : value * 10 + sign * k ≤ 2 ^ 31 - 1) :
    parseI32Digits sign value [Nat.digitChar k] = .ok (value * 10 + sign * k) := by
  have hdigit : ∀ k < 10,
      (Nat.digitChar k).isDigit = true ∧ (Nat.digitChar k).toNat - '0'.toNat = k := by
    decide
  obtain ⟨hd, hv⟩ := hdigit k hk
  rw [parseI32Digits, hd, hv, if_neg (by decide), if_neg (by omega), if_neg (by omega),
    parseI32Digits]

/-- The digits of a number in range are read back, with either sign. -/
theorem parseI32Digits_toDigits {sign : ℤ} (hsign : sign = 1 ∨ sign = -1) {n : ℕ}
    (hlow : -2 ^ 31 ≤ sign * n) (hhigh : sign * n ≤ 2 ^ 31 - 1) :
    parseI32Digits sign 0 (Nat.toDigits 10 n) = .ok (sign * n) := by
  induction n using Nat.base_induction 10 (by decide) with
  | single k hk =>
    rw [Nat.toDigits_of_lt_base hk, parseI32Digits_singleton hk (by omega) (by omega), Int.zero_mul,
      Int.zero_add]
  | digit m k hk hm ih =>
    have hcast : sign * ((10 * m + k : ℕ) : ℤ) = sign * m * 10 + sign * k := by
      rcases hsign with rfl | rfl <;> omega
    rw [hcast] at hlow hhigh
    rw [hcast, ← Nat.toDigits_append_toDigits (by decide) hm hk, parseI32Digits_append,
      ih (by rcases hsign with rfl | rfl <;> omega) (by rcases hsign with rfl | rfl <;> omega),
      Nat.toDigits_of_lt_base hk]
    exact parseI32Digits_singleton hk hlow hhigh

theorem toList_toString_int (n : ℤ) :
    (toString n).toList = (if n < 0 then ['-'] else []) ++ Nat.toDigits 10 n.natAbs := by
  rw [Int.toString_eq_repr, Int.repr_eq_if]
  split_ifs with hpos hneg hneg
  · omega
  · rw [Nat.toList_repr, List.nil_append, show n.toNat = n.natAbs from by omega]
  · rw [String.toList_append, Nat.toList_repr, show (-n).toNat = n.natAbs from by omega]
    rfl
  · omega

/-- **The text of an `i32`** is read as that number. -/
theorem parseI32_toString {n : ℤ} (hlow : -2 ^ 31 ≤ n) (hhigh : n < 2 ^ 31) :
    parseI32 (toString n) = .ok n := by
  obtain ⟨c, rest, hcs⟩ := List.exists_cons_of_ne_nil
    (Nat.toDigits_ne_nil (b := 10) (n := n.natAbs))
  have hc : c.isDigit = true :=
    Nat.isDigit_of_mem_toDigits (by decide) (by decide) (hcs ▸ List.mem_cons_self)
  rw [parseI32, toList_toString_int, hcs]
  split_ifs with hneg
  · have hread := parseI32Digits_toDigits (.inr rfl) (n := n.natAbs) (by omega) (by omega)
    rw [hcs, show (-1 : ℤ) * n.natAbs = n from by omega] at hread
    exact hread
  · have hread := parseI32Digits_toDigits (.inl rfl) (n := n.natAbs) (by omega) (by omega)
    rw [hcs, show (1 : ℤ) * n.natAbs = n from by omega] at hread
    -- a digit is no sign
    have hplus : c ≠ '+' := by
      rintro rfl
      cases hc
    have hminus : c ≠ '-' := by
      rintro rfl
      cases hc
    rw [List.nil_append]
    split <;> rename_i h
    · cases h
    · exact absurd (List.cons.inj h).1 hplus
    · exact absurd (List.cons.inj h).1 hminus
    · exact absurd (List.cons.inj h).1 hplus
    · exact absurd (List.cons.inj h).1 hminus
    · exact hread

end Str
