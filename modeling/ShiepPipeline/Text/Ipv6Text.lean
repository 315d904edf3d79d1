import ShiepPipeline.Text.NetAddr

/-!
# The text of an IPv6 address

An address is printed as groups of hexadecimal digits, with a run of zeros left out or with a dotted
quad at the end. Both are read back: the parser stops where the run was left out and fills it in
again, and it tries a dotted quad before every group, which only succeeds where there is a dot.
-/

namespace Net

/-! ## The longest run of zeros -/

/-- A run of zeros, as its start and its length. -/
def ZeroRun (segments : List UInt16) (run : ℕ × ℕ) : Prop :=
  run.1 + run.2 ≤ segments.length
    ∧ ∀ i, run.1 ≤ i → i < run.1 + run.2 → segments[i]? = some 0

/-- A run with one more zero, at `i`. -/
def grownRun (run : ℕ × ℕ) (i : ℕ) : ℕ × ℕ := (if run.2 = 0 then i else run.1, run.2 + 1)

/-- The body of the loop: the longest run so far, and the one that may go on. -/
def zeroRunStep (state : (ℕ × ℕ) × (ℕ × ℕ)) (segment : UInt16 × ℕ) : (ℕ × ℕ) × (ℕ × ℕ) :=
  if segment.1 = 0 then
    (if state.1.2 < (grownRun state.2 segment.2).2 then grownRun state.2 segment.2 else state.1,
      grownRun state.2 segment.2)
  else (state.1, (0, 0))

theorem longestZeroRun_eq (segments : List UInt16) :
    Ipv6Addr.longestZeroRun segments
      = (segments.zipIdx.foldl zeroRunStep ((0, 0), (0, 0))).1 := rfl

/-- Both are runs, and the second one ends at `i`. -/
structure RunsUpTo (segments : List UInt16) (i : ℕ) (state : (ℕ × ℕ) × (ℕ × ℕ)) : Prop where
  longest : ZeroRun segments state.1
  current : ZeroRun segments state.2
  ends : state.2.2 = 0 ∨ state.2.1 + state.2.2 = i

section Runs

variable {segments : List UInt16} {i : ℕ} {state : (ℕ × ℕ) × (ℕ × ℕ)}

theorem zeroRun_nil : ZeroRun segments (0, 0) :=
  ⟨Nat.zero_le _, fun _ _ hi ↦ absurd hi (Nat.not_lt_zero _)⟩

theorem RunsUpTo.grow (h : RunsUpTo segments i state) (hzero : segments[i]? = some 0) :
    ZeroRun segments (grownRun state.2 i)
      ∧ (grownRun state.2 i).1 + (grownRun state.2 i).2 = i + 1 := by
  obtain ⟨hi, -⟩ := List.getElem?_eq_some_iff.mp hzero
  rw [grownRun]
  rcases Nat.eq_zero_or_pos state.2.2 with hnone | hpos
  · rw [if_pos hnone, hnone]
    refine ⟨⟨hi, fun j hij hj ↦ ?_⟩, rfl⟩
    obtain rfl : i = j := Nat.le_antisymm hij (Nat.le_of_lt_succ hj)
    exact hzero
  · have hends : state.2.1 + state.2.2 = i := h.ends.resolve_left hpos.ne'
    rw [if_neg hpos.ne', ← Nat.add_assoc, hends]
    refine ⟨⟨?_, fun j hij hj ↦ ?_⟩, rfl⟩
    · rwa [← Nat.add_assoc, hends]
    · rw [← Nat.add_assoc, hends] at hj
      rcases Nat.lt_succ_iff_lt_or_eq.mp hj with hlt | rfl
      · exact h.current.2 j hij (hends ▸ hlt)
      · exact hzero

theorem RunsUpTo.step (h : RunsUpTo segments i state) {segment : UInt16}
    (hsegment : segments[i]? = some segment) :
    RunsUpTo segments (i + 1) (zeroRunStep state (segment, i)) := by
  rw [zeroRunStep]
  by_cases hzero : segment = 0
  · obtain ⟨hrun, hends⟩ := h.grow (hzero ▸ hsegment)
    rw [if_pos hzero]
    refine ⟨?_, hrun, .inr hends⟩
    dsimp only
    split_ifs
    · exact hrun
    · exact h.longest
  · rw [if_neg hzero]
    exact ⟨h.longest, zeroRun_nil, .inl rfl⟩

theorem RunsUpTo.foldl {front back : List UInt16}
    (h : RunsUpTo (front ++ back) front.length state) :
    RunsUpTo (front ++ back) (front ++ back).length
      ((back.zipIdx front.length).foldl zeroRunStep state) := by
  induction back generalizing front state with
  | nil =>
    rw [List.append_nil] at h ⊢
    exact h
  | cons segment back ih =>
    -- one more segment has been read, and the rest follows it
    have hsegment : (front ++ segment :: back)[front.length]? = some segment := by simp
    have hsplit : front ++ segment :: back = front ++ [segment] ++ back := by simp
    have hnext := h.step hsegment
    rw [List.zipIdx_cons, List.foldl_cons]
    rw [hsplit] at hnext ⊢
    have hlen : front.length + 1 = (front ++ [segment]).length := by simp
    rw [hlen] at hnext ⊢
    exact ih hnext

end Runs

theorem zeroRun_longestZeroRun (segments : List UInt16) :
    ZeroRun segments (Ipv6Addr.longestZeroRun segments) := by
  have h : RunsUpTo ([] ++ segments) 0 ((0, 0), (0, 0)) :=
    ⟨zeroRun_nil, zeroRun_nil, .inl rfl⟩
  rw [longestZeroRun_eq]
  exact (RunsUpTo.foldl h).longest

/-- Filling in a run that was left out. -/
theorem ZeroRun.fill {segments : List UInt16} {start len : ℕ} (h : ZeroRun segments (start, len)) :
    segments.take start ++ List.replicate len 0 ++ segments.drop (start + len) = segments := by
  have hlen : start + len ≤ segments.length := h.1
  have hzeros : (segments.drop start).take len = List.replicate len 0 := by
    apply List.ext_getElem?
    intro i
    rw [List.getElem?_take, List.getElem?_replicate]
    split_ifs with hi
    · rw [List.getElem?_drop]
      exact h.2 (start + i) (Nat.le_add_right _ _) (Nat.add_lt_add_left hi _)
    · rfl
  rw [← hzeros, List.append_assoc, ← List.drop_drop, List.take_append_drop, List.take_append_drop]

/-! ## Groups -/

/-- The hexadecimal digits of a group. -/
def groupDigits (group : UInt16) : List Char := Nat.toDigits 16 group.toNat

/-- The groups from some index on, with the separators in front of them. -/
def groupsText : ℕ → List UInt16 → List Char
  | _, [] => []
  | index, group :: groups =>
    (if 0 < index then [':'] else []) ++ groupDigits group ++ groupsText (index + 1) groups

/-- Only the first group of all has no separator. -/
theorem groupsText_succ (index : ℕ) (groups : List UInt16) :
    groupsText (index + 1) groups = groupsText 1 groups := by
  induction groups generalizing index with
  | nil => rfl
  | cons group groups ih =>
    rw [groupsText, groupsText, ih (index + 1), ih 1, if_pos (Nat.succ_pos _), if_pos Nat.one_pos]

theorem toList_joinHex (groups : List UInt16) :
    (Ipv6Addr.joinHex groups).toList = groupsText 0 groups := by
  rw [Ipv6Addr.joinHex]
  induction groups with
  | nil => rfl
  | cons group groups ih =>
    cases groups with
    | nil => simp [groupsText, groupDigits]
    | cons next groups =>
      rw [List.map_cons, List.map_cons] at *
      rw [String.intercalate_cons_cons, String.toList_append, String.toList_append, ih,
        String.toList_ofList]
      simp [groupsText, groupsText_succ 1, groupDigits]

/-! ## Reading groups -/

theorem readNumber_suffix {radix max : ℕ} {maxDigits : Option ℕ} {allowZeroPrefix : Bool}
    {cs rest : List Char} {n : ℕ}
    (h : readNumber radix max maxDigits allowZeroPrefix cs = some (n, rest)) : rest <:+ cs := by
  simp only [readNumber] at h
  split_ifs at h
  rw [← (Prod.mk.inj (Option.some.inj h)).2]
  exact List.dropWhile_suffix _

/-- There is no dotted quad without a dot. -/
theorem readIpv4Addr_eq_none {cs : List Char} (h : '.' ∉ cs) : readIpv4Addr cs = none := by
  rw [readIpv4Addr]
  rcases hread : readOctet 0 cs with _ | ⟨a, rest⟩
  · rfl
  have hrest : '.' ∉ rest := fun hmem ↦ h ((readNumber_suffix hread).subset hmem)
  have hdot : readOctet 1 rest = none := by
    cases rest with
    | nil => rfl
    | cons c rest =>
      have hc : c ≠ '.' := fun hc ↦ hrest (hc ▸ List.mem_cons_self)
      simp [readOctet, readSeparator, readGivenChar, hc]
  simp [hdot]

/-- What comes after groups: nothing, or the place where zeros were left out. -/
def Stops (rest : List Char) : Prop := rest = [] ∨ ∃ more, rest = ':' :: ':' :: more

theorem mem_groupsText {index : ℕ} {groups : List UInt16} {c : Char}
    (h : c ∈ groupsText index groups) : c = ':' ∨ (toDigit 16 c).isSome = true := by
  induction groups generalizing index with
  | nil => exact absurd h List.not_mem_nil
  | cons group groups ih =>
    rw [groupsText, List.mem_append, List.mem_append] at h
    obtain (h | h) | h := h
    · split_ifs at h
      · exact .inl (List.mem_singleton.mp h)
      · exact absurd h List.not_mem_nil
    · exact .inr (isSome_toDigit_of_mem_toDigits (by decide) (by decide) h)
    · exact ih h

theorem dot_not_mem_groupsText (index : ℕ) (groups : List UInt16) :
    '.' ∉ groupsText index groups := by
  intro h
  exact absurd (mem_groupsText h) (by decide)

section Groups

variable {index : ℕ} {cs rest : List Char}

theorem readSeparator_append {α : Type} (inner : Reader α) :
    readSeparator ':' index inner ((if 0 < index then [':'] else []) ++ cs) = inner cs := by
  rw [readSeparator]
  split_ifs
  · rfl
  · rfl

theorem readSeparator_readIpv4Addr_eq_none (h : '.' ∉ cs) :
    readSeparator ':' index readIpv4Addr cs = none := by
  rw [readSeparator]
  split_ifs
  · cases cs with
    | nil => rfl
    | cons c cs =>
      rw [readGivenChar]
      split_ifs
      · exact readIpv4Addr_eq_none fun hmem ↦ h (List.mem_cons_of_mem _ hmem)
      · rfl
  · exact readIpv4Addr_eq_none h

/-- One group, in front of anything but a digit. -/
theorem readNumber_groupDigits (group : UInt16) (hrest : ∀ c ∈ rest.head?, toDigit 16 c = none) :
    readNumber 16 0xffff (some 4) true (groupDigits group ++ rest) = some (group.toNat, rest) := by
  have hgroup : group.toNat < 16 ^ 4 := group.toNat_lt
  refine readNumber_toDigits (by decide) (by decide) (Nat.le_of_lt_succ hgroup) ?_ (.inl rfl) hrest
  rintro m hm
  obtain rfl : 4 = m := Option.some.inj hm
  exact (Nat.length_toDigits_le_iff (by decide) (by decide)).mpr hgroup

theorem Stops.readGroup (h : Stops rest) :
    readSeparator ':' index (readNumber 16 0xffff (some 4) true) rest = none := by
  rw [readSeparator]
  obtain rfl | ⟨more, rfl⟩ := h
  · split_ifs
    · rfl
    · rfl
  · split_ifs
    · rfl
    · rfl

/-- No digit follows a group. -/
theorem Stops.head? (h : Stops rest) (groups : List UInt16) :
    ∀ c ∈ (groupsText (index + 1) groups ++ rest).head?, toDigit 16 c = none := by
  intro c hc
  have hcolon : c = ':' := by
    cases groups with
    | nil =>
      obtain rfl | ⟨more, rfl⟩ := h
      · exact absurd hc (Option.not_mem_none c)
      · exact (Option.some.inj hc).symm
    | cons group groups =>
      rw [groupsText, if_pos (Nat.succ_pos _)] at hc
      exact (Option.some.inj hc).symm
  rw [hcolon]
  decide

section Steps

variable {limit left group : ℕ}

/-- Where there is no dot, the next item is a group. -/
theorem readGroups_of_group (hdot : '.' ∉ cs)
    (hgroup : readSeparator ':' (limit - (left + 1)) (readNumber 16 0xffff (some 4) true) cs
      = some (group, rest)) :
    readGroups limit (left + 1) cs
      = (group :: (readGroups limit left rest).1, (readGroups limit left rest).2) := by
  rw [readGroups]
  simp only [readSeparator_readIpv4Addr_eq_none hdot, ite_self, hgroup]

/-- Or there is none. -/
theorem readGroups_of_none (hdot : '.' ∉ cs)
    (hgroup : readSeparator ':' (limit - (left + 1)) (readNumber 16 0xffff (some 4) true) cs
      = none) :
    readGroups limit (left + 1) cs = ([], false, cs) := by
  rw [readGroups]
  simp only [readSeparator_readIpv4Addr_eq_none hdot, ite_self, hgroup]

end Steps

/-- **Groups are read back** up to the place where they stop. -/
theorem readGroups_groupsText {limit left : ℕ} {groups : List UInt16}
    (hlen : groups.length ≤ left) (hleft : left ≤ limit) (hdot : '.' ∉ rest) (hstop : Stops rest) :
    readGroups limit left (groupsText (limit - left) groups ++ rest)
      = (groups.map UInt16.toNat, false, rest) := by
  induction groups generalizing left with
  | nil =>
    rw [groupsText, List.nil_append]
    cases left with
    | zero => rfl
    | succ left =>
      exact readGroups_of_none hdot hstop.readGroup
  | cons group groups ih =>
    cases left with
    | zero => exact absurd hlen (Nat.not_succ_le_zero _)
    | succ left =>
      -- no dotted quad is found, and the group is read up to the next separator
      have hnone : '.' ∉ groupsText (limit - (left + 1)) (group :: groups) ++ rest := by
        rw [List.mem_append, not_or]
        exact ⟨dot_not_mem_groupsText _ _, hdot⟩
      have hgroup : readSeparator ':' (limit - (left + 1)) (readNumber 16 0xffff (some 4) true)
          (groupsText (limit - (left + 1)) (group :: groups) ++ rest)
            = some (group.toNat, groupsText (limit - (left + 1) + 1) groups ++ rest) := by
        rw [groupsText, List.append_assoc, List.append_assoc, readSeparator_append,
          readNumber_groupDigits group (hstop.head? groups)]
      have hindex : limit - (left + 1) + 1 = limit - left := by omega
      rw [readGroups_of_group hnone hgroup, hindex,
        ih (Nat.le_of_succ_le_succ hlen) (Nat.le_of_succ_le hleft), List.map_cons]

end Groups

/-! ## Addresses -/

theorem Ipv6Addr.ofGroups_toNat (x : Ipv6Addr) :
    Ipv6Addr.ofGroups (x.segments.toList.map UInt16.toNat) = x := by
  rw [ofGroups]
  congr 1
  ext i hi
  simp

/-- All eight groups. -/
theorem readIpv6Addr_groupsText {groups : List UInt16} (hlen : groups.length = 8) :
    readIpv6Addr (groupsText 0 groups)
      = some (Ipv6Addr.ofGroups (groups.map UInt16.toNat), []) := by
  have hread : readGroups 8 8 (groupsText (8 - 8) groups ++ [])
      = (groups.map UInt16.toNat, false, []) :=
    readGroups_groupsText hlen.le le_rfl List.not_mem_nil (.inl rfl)
  rw [List.append_nil] at hread
  simp [readIpv6Addr, hread, hlen]

/-- A run of zeros is left out. -/
theorem readIpv6Addr_compressed {front back : List UInt16}
    (hlen : front.length + back.length ≤ 7) :
    readIpv6Addr (groupsText 0 front ++ ':' :: ':' :: groupsText 0 back)
      = some (Ipv6Addr.ofGroups ((front ++ List.replicate (8 - front.length - back.length) 0
          ++ back).map UInt16.toNat), []) := by
  have hdot : '.' ∉ ':' :: ':' :: groupsText 0 back := by
    simpa using dot_not_mem_groupsText 0 back
  have hfront : readGroups 8 8 (groupsText (8 - 8) front ++ ':' :: ':' :: groupsText 0 back)
      = (front.map UInt16.toNat, false, ':' :: ':' :: groupsText 0 back) :=
    readGroups_groupsText (by omega) le_rfl hdot (.inr ⟨_, rfl⟩)
  have hback : readGroups (7 - front.length) (7 - front.length)
      (groupsText ((7 - front.length) - (7 - front.length)) back ++ [])
        = (back.map UInt16.toNat, false, []) :=
    readGroups_groupsText (by omega) le_rfl List.not_mem_nil (.inl rfl)
  rw [List.append_nil, Nat.sub_self] at hback
  have hshort : front.length ≠ 8 := by omega
  simp [readIpv6Addr, hfront, hback, hshort, readGivenChar]

/-- An IPv4-mapped address ends in a dotted quad. -/
theorem readIpv6Addr_mapped (ip : Ipv4Addr) :
    readIpv6Addr ("::ffff:" ++ ip.display).toList
      = some (Ipv6Addr.ofGroups [0, 0, 0, 0, 0, 0xffff, ip.a.toNat * 256 + ip.b.toNat,
          ip.c.toNat * 256 + ip.d.toNat], []) := by
  have hquad : readIpv4Addr ip.display.toList = some (ip, []) := by
    have h : readIpv4Addr (ip.display.toList ++ []) = some (ip, []) :=
      readIpv4Addr_display ip (by simp)
    rwa [List.append_nil] at h
  have hfront : readGroups 8 8 (':' :: ':' :: 'f' :: 'f' :: 'f' :: 'f' :: ':' :: ip.display.toList)
      = ([], false, ':' :: ':' :: 'f' :: 'f' :: 'f' :: 'f' :: ':' :: ip.display.toList) := rfl
  have hgroup : readNumber 16 0xffff (some 4) true
      ('f' :: 'f' :: 'f' :: 'f' :: ':' :: ip.display.toList)
        = some (0xffff, ':' :: ip.display.toList) := by
    refine readNumber_groupDigits 0xffff fun c hc ↦ ?_
    obtain rfl : ':' = c := Option.some.inj hc
    rfl
  -- the second group is a dotted quad, which is tried before the digits
  have hback : readGroups 7 7 ('f' :: 'f' :: 'f' :: 'f' :: ':' :: ip.display.toList)
      = ([0xffff, ip.a.toNat * 256 + ip.b.toNat, ip.c.toNat * 256 + ip.d.toNat], true, []) := by
    have hletter : readIpv4Addr ('f' :: 'f' :: 'f' :: 'f' :: ':' :: ip.display.toList) = none := rfl
    simp [readGroups, readSeparator, readGivenChar, hletter, hgroup, hquad]
  simp [readIpv6Addr, hfront, readGivenChar, hback]

/-- The two octets of a group. -/
theorem toNat_octets (group : UInt16) :
    (group >>> 8).toUInt8.toNat * 256 + group.toUInt8.toNat = group.toNat := by
  have hgroup := group.toNat_lt
  simp [Nat.shiftRight_eq_div_pow]
  omega

theorem readIpv6Addr_display (x : Ipv6Addr) : readIpv6Addr x.display.toList = some (x, []) := by
  unfold Ipv6Addr.display
  split
  next ab cd hsegments =>
    have hx : Ipv6Addr.ofGroups [0, 0, 0, 0, 0, 0xffff, ab.toNat, cd.toNat] = x := by
      rw [← x.ofGroups_toNat, hsegments]
      rfl
    rw [readIpv6Addr_mapped, toNat_octets, toNat_octets, hx]
  next =>
    have hlen : x.segments.toList.length = 8 := x.segments.length_toList
    rcases hrun : Ipv6Addr.longestZeroRun x.segments.toList with ⟨start, len⟩
    have hzeros : ZeroRun x.segments.toList (start, len) := hrun ▸ zeroRun_longestZeroRun _
    have hle : start + len ≤ 8 := hlen ▸ hzeros.1
    have htake : (x.segments.toList.take start).length = start := by
      rw [List.length_take, hlen]
      omega
    have hdrop : (x.segments.toList.drop (start + len)).length = 8 - (start + len) := by
      rw [List.length_drop, hlen]
    dsimp only
    split_ifs with hlong
    · -- as many zeros are filled in as were left out
      have hread := @readIpv6Addr_compressed (x.segments.toList.take start)
        (x.segments.toList.drop (start + len)) (by omega)
      have hmiss : 8 - start - (8 - (start + len)) = len := by omega
      rw [htake, hdrop, hmiss, hzeros.fill, x.ofGroups_toNat] at hread
      rw [String.toList_append, String.toList_append, toList_joinHex, toList_joinHex,
        List.append_assoc]
      exact hread
    · rw [toList_joinHex, readIpv6Addr_groupsText hlen, x.ofGroups_toNat]

/-- **The text of an IPv6 address** parses as that address. -/
@[simp] theorem Ipv6Addr.fromStr_display (x : Ipv6Addr) : Ipv6Addr.fromStr x.display = some x := by
  rw [Ipv6Addr.fromStr, parseWith, readIpv6Addr_display]

/-- An IPv4-mapped address, or digits and colons only. -/
theorem Ipv6Addr.display_cases (x : Ipv6Addr) :
    (∃ ip : Ipv4Addr, x.display = "::ffff:" ++ ip.display)
      ∨ ∀ c ∈ x.display.toList, c = ':' ∨ (toDigit 16 c).isSome = true := by
  unfold Ipv6Addr.display
  split
  next => exact .inl ⟨_, rfl⟩
  next =>
    right
    intro c hc
    dsimp only at hc
    split_ifs at hc
    · rw [String.toList_append, String.toList_append, toList_joinHex, toList_joinHex,
        List.mem_append, List.mem_append] at hc
      obtain (hc | hc) | hc := hc
      · exact mem_groupsText hc
      · exact .inl (by simpa using hc)
      · exact mem_groupsText hc
    · rw [toList_joinHex] at hc
      exact mem_groupsText hc

/-- The hexadecimal digits. -/
theorem range_of_toDigit {c : Char} (h : (toDigit 16 c).isSome = true) :
    (48 ≤ c.toNat ∧ c.toNat ≤ 57) ∨ (97 ≤ c.toNat ∧ c.toNat ≤ 102)
      ∨ (65 ≤ c.toNat ∧ c.toNat ≤ 70) := by
  by_cases hdigit : c.isDigit = true
  · left
    simpa [Char.isDigit, UInt32.le_iff_toNat_le] using hdigit
  · have hletter : ('a' ≤ c ∧ c ≤ 'f') ∨ ('A' ≤ c ∧ c ≤ 'F') := by
      by_contra hnone
      obtain ⟨hsmall, hbig⟩ := not_or.mp hnone
      rw [toDigit, if_neg hdigit, if_neg hsmall, if_neg hbig] at h
      exact absurd h (by decide)
    exact .inr hletter

theorem isWhitespace_of_toDigit {c : Char} (h : (toDigit 16 c).isSome = true) :
    Str.isWhitespace c = false := by
  have hrange := range_of_toDigit h
  simp only [Str.isWhitespace, Bool.or_eq_false_iff, decide_eq_false_iff_not]
  omega

theorem Ipv6Addr.trim_display (x : Ipv6Addr) : Str.trim x.display = x.display := by
  have hfront : ∀ c ∈ "::ffff:".toList, Str.isWhitespace c = false := by simp [Str.isWhitespace]
  refine Str.trim_eq_self fun c hc ↦ ?_
  obtain ⟨ip, hx⟩ | hx := x.display_cases
  · rw [hx, String.toList_append, List.mem_append] at hc
    obtain hc | hc := hc
    · exact hfront c hc
    · exact Ipv4Addr.isWhitespace_of_mem_display hc
  · obtain rfl | hdigit := hx c hc
    · decide
    · exact isWhitespace_of_toDigit hdigit

/-- It is not the text of an IPv4 address. -/
theorem Ipv4Addr.fromStr_display_v6 (x : Ipv6Addr) : Ipv4Addr.fromStr x.display = none := by
  have hread : parseWith readIpv4Addr x.display.toList = none := by
    obtain ⟨ip, hx⟩ | hx := x.display_cases
    · rw [hx, String.toList_append]
      rfl
    · rw [parseWith, readIpv4Addr_eq_none fun hmem ↦ absurd (hx '.' hmem) (by decide)]
  rw [Ipv4Addr.fromStr, hread, ite_self]

end Net
