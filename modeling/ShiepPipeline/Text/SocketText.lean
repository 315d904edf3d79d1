import ShiepPipeline.Text.Ipv6Text

/-!
# The text of a socket address

A socket address is read by the readers of its parts, one after the other. `Within` is what they
have in common: a character that no address has ends every one of them, whatever stands behind it.
So the text of an address can be read on its own or in front of a bracket or a port, with the same
result. `SocketAddr.fromStr_v4_iff` says which texts are read as an IPv4 socket address, and
`SocketAddr.fromStr_v6` and `SocketAddr.eq_of_fromStr_v6` do so for the bracketed IPv6 form.
-/

namespace Net

/-! ## Readers that stop -/

/-- A character that an address may have. -/
def isAddressChar (c : Char) : Bool := (toDigit 16 c).isSome || c == ':' || c == '.'

/-- A reader of addresses, or of a part of one. -/
structure Within {α : Type} (reader : Reader α) : Prop where
  /-- It does not look behind a character that no address has. -/
  append : ∀ {c}, isAddressChar c = false → ∀ l r,
    reader (l ++ c :: r) = (reader l).map fun x ↦ (x.1, x.2 ++ c :: r)
  suffix : ∀ {l x rest}, reader l = some (x, rest) → rest <:+ l

section Readers

variable {α β : Type} {f : Reader α} {c : Char}

theorem Within.pure (x : α) : Within fun l ↦ some (x, l) where
  append _ _ _ := rfl
  suffix h := (Prod.mk.inj (Option.some.inj h)).2 ▸ List.suffix_rfl

theorem Within.fail : Within fun _ ↦ (none : Option (α × List Char)) where
  append _ _ _ := rfl
  suffix h := nomatch h

theorem Within.bind {g : α → Reader β} (hf : Within f) (hg : ∀ x, Within (g x)) :
    Within fun l ↦ (f l).bind fun x ↦ g x.1 x.2 where
  append hc l r := by
    rw [hf.append hc, Option.bind_map, Option.map_bind]
    refine Option.bind_congr fun x _ ↦ ?_
    exact (hg x.1).append hc x.2 r
  suffix h := by
    obtain ⟨⟨x, middle⟩, hfirst, hsecond⟩ := Option.bind_eq_some_iff.mp h
    exact ((hg x).suffix hsecond).trans (hf.suffix hfirst)

theorem Within.ite {p : Prop} [Decidable p] {g : Reader α} (hf : Within f) (hg : Within g) :
    Within fun l ↦ if p then f l else g l := by
  split_ifs
  · exact hf
  · exact hg

/-- One reader, and another one where it fails. -/
theorem Within.elim {g : α → Reader β} {h : Reader β} (hf : Within f) (hg : ∀ x, Within (g x))
    (hh : Within h) : Within fun l ↦ (f l).elim (h l) fun x ↦ g x.1 x.2 where
  append {c} hc l r := by
    rw [hf.append hc]
    rcases f l with _ | ⟨x, rest⟩
    · exact hh.append hc l r
    · exact (hg x).append hc rest r
  suffix {l x rest} hread := by
    rcases hfirst : f l with _ | ⟨y, middle⟩
    · rw [hfirst] at hread
      exact hh.suffix hread
    · rw [hfirst] at hread
      exact ((hg y).suffix hread).trans (hf.suffix hfirst)

/-- What has been read has no other characters than an address may have. -/
theorem Within.isAddressChar_of_mem {used rest : List Char} {x : α} (hf : Within f)
    (h : f (used ++ rest) = some (x, rest)) (hc : c ∈ used) : isAddressChar c = true := by
  by_contra hnot
  obtain ⟨a, b, rfl⟩ := List.append_of_mem hc
  rw [List.append_assoc, List.cons_append, hf.append (Bool.not_eq_true _ ▸ hnot)] at h
  obtain ⟨y, -, hy⟩ := Option.map_eq_some_iff.mp h
  -- the reader has stopped in front of the character
  have hlen := congrArg List.length (Prod.mk.inj hy).2
  simp at hlen
  omega

/-- Read on its own, or in front of a character that no address has. -/
theorem Within.append_eq_some_iff {l r : List Char} {x : α} (hf : Within f)
    (hc : isAddressChar c = false) : f (l ++ c :: r) = some (x, c :: r) ↔ f l = some (x, []) := by
  rw [hf.append hc, Option.map_eq_some_iff]
  constructor
  · rintro ⟨⟨y, rest⟩, h, hy⟩
    obtain ⟨rfl, hrest⟩ := Prod.mk.inj hy
    obtain rfl : rest = [] := List.append_left_eq_self.mp hrest
    exact h
  · exact fun h ↦ ⟨_, h, rfl⟩

end Readers

theorem parseWith_eq_some_iff {α : Type} {reader : Reader α} {l : List Char} {x : α} :
    parseWith reader l = some x ↔ reader l = some (x, []) := by
  rw [parseWith]
  rcases reader l with _ | ⟨y, _ | ⟨c, rest⟩⟩ <;> simp

theorem within_readGivenChar {target : Char} (h : isAddressChar target = true) :
    Within (readGivenChar target) where
  append {c} hc l r := by
    rcases l with _ | ⟨a, l⟩
    · have hne : c ≠ target := by
        rintro rfl
        rw [h] at hc
        cases hc
      exact if_neg hne
    · rw [List.cons_append, readGivenChar, readGivenChar]
      split_ifs <;> rfl
  suffix h := readGivenChar_eq_some h ▸ List.suffix_cons _ _

theorem toDigit_eq_none {radix : ℕ} {c : Char} (hradix : radix ≤ 16)
    (h : isAddressChar c = false) : toDigit radix c = none := by
  simp only [isAddressChar, Bool.or_eq_false_iff, Option.isSome_eq_false_iff,
    Option.isNone_iff_eq_none] at h
  have hsixteen := h.1.1
  simp only [toDigit, ite_eq_right_iff, reduceCtorEq, imp_false, not_lt] at hsixteen ⊢
  split_ifs at hsixteen ⊢ <;> omega

theorem within_readNumber {radix max : ℕ} {maxDigits : Option ℕ} {allowZeroPrefix : Bool}
    (hradix : radix ≤ 16) : Within (readNumber radix max maxDigits allowZeroPrefix) where
  append {c} hc l r := by
    have hnone : (toDigit radix c).isSome = false := by rw [toDigit_eq_none hradix hc]; rfl
    have htake : (l ++ c :: r).takeWhile (fun c ↦ (toDigit radix c).isSome)
        = l.takeWhile fun c ↦ (toDigit radix c).isSome := by
      rw [List.takeWhile_append, List.takeWhile_cons, hnone, if_neg Bool.false_ne_true]
      split_ifs with hall
      · rw [List.append_nil, (List.takeWhile_prefix _).eq_of_length hall]
      · rfl
    have hdrop : (l ++ c :: r).dropWhile (fun c ↦ (toDigit radix c).isSome)
        = (l.dropWhile fun c ↦ (toDigit radix c).isSome) ++ c :: r :=
      Str.dropWhile_append_cons hnone l r
    simp only [readNumber, htake, hdrop]
    split_ifs <;> rfl
  suffix := readNumber_suffix

theorem within_readSeparator {α : Type} {sep : Char} {index : ℕ} {inner : Reader α}
    (hsep : isAddressChar sep = true) (h : Within inner) :
    Within (readSeparator sep index inner) :=
  .ite ((within_readGivenChar hsep).bind fun _ ↦ h) h

theorem within_readIpv4Addr : Within readIpv4Addr := by
  have hoctet : ∀ index, Within (readOctet index) := fun _ ↦
    within_readSeparator (by decide) (within_readNumber (by decide))
  exact (hoctet 0).bind fun a ↦ (hoctet 1).bind fun b ↦ (hoctet 2).bind fun c ↦
    (hoctet 3).bind fun d ↦ .pure (⟨.ofNat a, .ofNat b, .ofNat c, .ofNat d⟩ : Ipv4Addr)

/-- `readGroups` as a reader, which never fails. -/
def groupsReader (limit left : ℕ) : Reader (List ℕ × Bool) := fun l ↦
  some (((readGroups limit left l).1, (readGroups limit left l).2.1),
    (readGroups limit left l).2.2)

/-- A dotted quad ends the groups, and so does anything that is no group. -/
theorem groupsReader_succ (limit left : ℕ) :
    groupsReader limit (left + 1) = fun l ↦
      (if 0 < left then readSeparator ':' (limit - (left + 1)) readIpv4Addr l else none).elim
        ((readSeparator ':' (limit - (left + 1)) (readNumber 16 0xffff (some 4) true) l).elim
          (some (([], false), l)) fun x ↦ (groupsReader limit left x.2).bind fun y ↦
            some ((x.1 :: y.1.1, y.1.2), y.2))
        fun x ↦ some (([x.1.a.toNat * 256 + x.1.b.toNat, x.1.c.toNat * 256 + x.1.d.toNat], true),
          x.2) := by
  funext l
  rw [groupsReader, readGroups]
  dsimp only
  rcases (if 0 < left then readSeparator ':' (limit - (left + 1)) readIpv4Addr l else none)
    with _ | x
  · rcases readSeparator ':' (limit - (left + 1)) (readNumber 16 0xffff (some 4) true) l
      with _ | x <;> rfl
  · rfl

theorem within_groupsReader (limit left : ℕ) : Within (groupsReader limit left) := by
  induction left with
  | zero => exact .pure ([], false)
  | succ left ih =>
    have hquad : Within fun l ↦
        if 0 < left then readSeparator ':' (limit - (left + 1)) readIpv4Addr l else none :=
      .ite (within_readSeparator (by decide) within_readIpv4Addr) .fail
    have hgroup : Within (readSeparator ':' (limit - (left + 1))
        (readNumber 16 0xffff (some 4) true)) :=
      within_readSeparator (by decide) (within_readNumber (by decide))
    have hgroups : ∀ n, Within fun l ↦ (groupsReader limit left l).bind fun y ↦
        some ((n :: y.1.1, y.1.2), y.2) :=
      fun n ↦ ih.bind fun y ↦ .pure (n :: y.1, y.2)
    rw [groupsReader_succ]
    exact hquad.elim (fun ip ↦ .pure ([ip.a.toNat * 256 + ip.b.toNat,
      ip.c.toNat * 256 + ip.d.toNat], true)) (hgroup.elim hgroups (.pure ([], false)))

theorem within_readIpv6Addr : Within readIpv6Addr := by
  have hcolon : Within (readGivenChar ':') := within_readGivenChar (by decide)
  -- behind the place where zeros are left out
  have htail : ∀ head : List ℕ, Within fun l ↦ (readGivenChar ':' l).bind fun x ↦
      (readGivenChar ':' x.2).bind fun x ↦
        (groupsReader (7 - head.length) (7 - head.length) x.2).bind fun tail ↦
          some (Ipv6Addr.ofGroups (head
            ++ List.replicate (8 - head.length - tail.1.1.length) 0 ++ tail.1.1), tail.2) :=
    fun head ↦ hcolon.bind fun _ ↦ hcolon.bind fun _ ↦
      (within_groupsReader (7 - head.length) (7 - head.length)).bind fun tail ↦ .pure
        (Ipv6Addr.ofGroups (head ++ List.replicate (8 - head.length - tail.1.length) 0 ++ tail.1))
  exact (within_groupsReader 8 8).bind fun head ↦ .ite (p := head.1.length = 8)
    (.pure (Ipv6Addr.ofGroups head.1)) <| .ite (p := head.2 = true) .fail (htail head.1)

/-! ## Ports -/

/-- The text of a port: decimal digits, with leading zeros or without. -/
structure IsPortText (digits : String) (port : ℕ) : Prop where
  ne_nil : digits.toList ≠ []
  isDigit : ∀ c ∈ digits.toList, c.isDigit = true
  value : Nat.ofDigitChars 10 digits.toList 0 = port
  le : port ≤ 65535

section

variable {digits : String} {l : List Char} {port : ℕ}

theorem foldl_toDigit_ten (h : ∀ c ∈ l, c.isDigit = true) (n : ℕ) :
    l.foldl (fun n c ↦ 10 * n + (toDigit 10 c).getD 0) n = Nat.ofDigitChars 10 l n := by
  induction l generalizing n with
  | nil => rfl
  | cons c l ih =>
    have hc : (toDigit 10 c).getD 0 = c.toNat - '0'.toNat := by
      rw [toDigit_ten, if_pos (h c List.mem_cons_self), Option.getD_some]
    rw [List.foldl_cons, hc, ih fun x hx ↦ h x (List.mem_cons_of_mem _ hx), Nat.ofDigitChars_cons]

theorem isSome_toDigit_ten_iff {c : Char} : (toDigit 10 c).isSome = true ↔ c.isDigit = true := by
  rw [toDigit_ten]
  split_ifs with h <;> simp [h]

theorem readNumber_port_iff :
    readNumber 10 0xffff none true l = some (port, []) ↔ IsPortText (String.ofList l) port := by
  have hall : l.dropWhile (fun c ↦ (toDigit 10 c).isSome) = [] ↔ ∀ c ∈ l, c.isDigit = true := by
    simp only [List.dropWhile_eq_nil_iff, isSome_toDigit_ten_iff]
  rw [readNumber, Option.ite_none_left_eq_some, Option.some.injEq, Prod.mk.injEq]
  constructor
  · rintro ⟨hfail, hvalue, hrest⟩
    have hdigits := hall.mp hrest
    have htake : l.takeWhile (fun c ↦ (toDigit 10 c).isSome) = l :=
      List.takeWhile_eq_self_iff.mpr (List.dropWhile_eq_nil_iff.mp hrest)
    rw [htake, foldl_toDigit_ten hdigits] at hvalue hfail
    rw [not_or, not_or, not_or, hvalue, not_lt] at hfail
    rw [← String.toList_ofList (l := l)] at hdigits hvalue
    refine ⟨?_, hdigits, hvalue, hfail.2.2.2⟩
    rw [String.toList_ofList]
    exact hfail.1
  · rintro ⟨hne, hdigits, hvalue, hle⟩
    rw [String.toList_ofList] at hne hdigits hvalue
    have hrest := hall.mpr hdigits
    have htake : l.takeWhile (fun c ↦ (toDigit 10 c).isSome) = l :=
      List.takeWhile_eq_self_iff.mpr (List.dropWhile_eq_nil_iff.mp hrest)
    rw [htake, foldl_toDigit_ten hdigits, hvalue]
    refine ⟨?_, rfl, hrest⟩
    rintro (hnil | hlong | ⟨hzero, -⟩ | hbig)
    · exact hne hnil
    · cases hlong
    · cases hzero
    · omega

theorem readPort_iff :
    readPort l = some (port, [])
      ↔ ∃ digits, IsPortText digits port ∧ l = ':' :: digits.toList := by
  rw [readPort]
  constructor
  · intro h
    obtain ⟨⟨_, rest⟩, hcolon, hnumber⟩ := Option.bind_eq_some_iff.mp h
    refine ⟨String.ofList rest, readNumber_port_iff.mp hnumber, ?_⟩
    rw [String.toList_ofList]
    exact readGivenChar_eq_some hcolon
  · rintro ⟨digits, hdigits, rfl⟩
    rw [← String.ofList_toList (s := digits), ← readNumber_port_iff] at hdigits
    exact hdigits

theorem IsPortText.not_mem (h : IsPortText digits port) {c : Char} (hc : c.isDigit = false) :
    c ∉ digits.toList := by
  intro hmem
  rw [h.isDigit c hmem] at hc
  cases hc

theorem IsPortText.unique {port' : ℕ} (h : IsPortText digits port)
    (h' : IsPortText digits port') : port = port' :=
  h.value.symm.trans h'.value

/-- It fits. -/
theorem IsPortText.toNat_ofNat (h : IsPortText digits port) : (UInt16.ofNat port).toNat = port := by
  have := h.le
  rw [UInt16.toNat_ofNat', Nat.mod_eq_of_lt (by omega)]

end

/-! ## Socket addresses -/

section

variable {s ip inside digits : String} {port : ℕ}

/-- **An IPv4 address and a port** are read from their text only, up to leading zeros of the
port. -/
theorem SocketAddr.fromStr_v4_iff {addr : SocketAddrV4} :
    SocketAddr.fromStr s = some (.v4 addr)
      ↔ ∃ digits, IsPortText digits addr.port.toNat ∧ s = addr.ip.display ++ ":" ++ digits := by
  have hv4 : SocketAddr.fromStr s = some (.v4 addr)
      ↔ readSocketAddrV4 s.toList = some (addr, []) := by
    rw [SocketAddr.fromStr, ← parseWith_eq_some_iff]
    rcases parseWith readSocketAddrV4 s.toList with _ | x
    · simp
    · simp
  rw [hv4, readSocketAddrV4]
  constructor
  · intro h
    obtain ⟨⟨x, rest⟩, hip, h⟩ := Option.bind_eq_some_iff.mp h
    obtain ⟨⟨port, rest'⟩, hport, h⟩ := Option.bind_eq_some_iff.mp h
    obtain ⟨rfl, rfl⟩ := Prod.mk.inj (Option.some.inj h)
    obtain ⟨digits, hdigits, rfl⟩ := readPort_iff.mp hport
    refine ⟨digits, ?_, ?_⟩
    · rwa [hdigits.toNat_ofNat]
    · rw [← String.toList_inj, readIpv4Addr_eq_some hip]
      simp
  · rintro ⟨digits, hdigits, rfl⟩
    have hcolon : ∀ c ∈ (':' :: digits.toList).head?, c.isDigit = false := by
      rintro c hc
      obtain rfl : ':' = c := Option.some.inj hc
      rfl
    have hport : readPort (':' :: digits.toList) = some (addr.port.toNat, []) :=
      readPort_iff.mpr ⟨digits, hdigits, rfl⟩
    simp [readIpv4Addr_display addr.ip hcolon, hport]

/-- An IPv6 address is read in brackets. -/
theorem SocketAddr.fromStr_v6 {x : Ipv6Addr} (hip : Ipv6Addr.fromStr ip = some x)
    (hport : IsPortText digits port) :
    SocketAddr.fromStr ("[" ++ ip ++ "]:" ++ digits) = some (.v6 ⟨x, .ofNat port, 0⟩) := by
  have hlist : ("[" ++ ip ++ "]:" ++ digits).toList
      = '[' :: (ip.toList ++ ']' :: ':' :: digits.toList) := by simp
  have hv4 : readSocketAddrV4 ('[' :: (ip.toList ++ ']' :: ':' :: digits.toList)) = none := rfl
  have hread : readIpv6Addr (ip.toList ++ ']' :: ':' :: digits.toList)
      = some (x, ']' :: ':' :: digits.toList) :=
    (within_readIpv6Addr.append_eq_some_iff (by decide)).mpr (parseWith_eq_some_iff.mp hip)
  have hdigits : readPort (':' :: digits.toList) = some (port, []) :=
    readPort_iff.mpr ⟨digits, hport, rfl⟩
  have hscope : readScopeId (']' :: ':' :: digits.toList) = none := rfl
  have hv6 : readSocketAddrV6 ('[' :: (ip.toList ++ ']' :: ':' :: digits.toList))
      = some (⟨x, .ofNat port, 0⟩, []) := by
    simp [readSocketAddrV6, readGivenChar, hread, hscope, hdigits]
  rw [SocketAddr.fromStr, hlist, parseWith, hv4, parseWith, hv6]
  rfl

/-- A scope has a `%` in front, and may be missing. -/
theorem exists_scope (l : List Char) :
    ∃ scope, l = scope ++ ((readScopeId l).getD (0, l)).2
      ∧ (scope = [] ∨ '%' ∈ scope ∧ ∀ c ∈ scope, isAddressChar c = true ∨ c = '%') := by
  rcases hscope : readScopeId l with _ | ⟨id, rest⟩
  · exact ⟨[], rfl, .inl rfl⟩
  obtain ⟨⟨_, digits⟩, hpercent, hnumber⟩ := Option.bind_eq_some_iff.mp hscope
  have hwithin : Within (readNumber 10 0xffffffff none true) := within_readNumber (by decide)
  obtain ⟨used, rfl⟩ := hwithin.suffix hnumber
  refine ⟨'%' :: used, readGivenChar_eq_some hpercent, .inr ⟨List.mem_cons_self, ?_⟩⟩
  intro c hc
  rcases List.mem_cons.mp hc with rfl | hc
  · exact .inr rfl
  · exact .inl (hwithin.isAddressChar_of_mem hnumber hc)

/-- What stands in the brackets of an IPv6 socket address: the address, and possibly a scope. -/
theorem SocketAddr.eq_of_fromStr_v6 {addr : SocketAddrV6}
    (h : SocketAddr.fromStr s = some (.v6 addr)) :
    ∃ inside digits, s = "[" ++ inside ++ "]:" ++ digits ∧ IsPortText digits addr.port.toNat
      ∧ (∀ c ∈ inside.toList, isAddressChar c = true ∨ c = '%')
      ∧ ('%' ∉ inside.toList → Ipv6Addr.fromStr inside = some addr.ip) := by
  have hv6 : readSocketAddrV6 s.toList = some (addr, []) := by
    rw [SocketAddr.fromStr] at h
    rcases hv4 : parseWith readSocketAddrV4 s.toList with _ | x
    · rw [hv4] at h
      obtain ⟨y, hy, heq⟩ := Option.map_eq_some_iff.mp h
      obtain rfl := SocketAddr.v6.inj heq
      exact parseWith_eq_some_iff.mp hy
    · rw [hv4] at h
      cases h
  obtain ⟨⟨_, l⟩, hopen, hv6⟩ := Option.bind_eq_some_iff.mp hv6
  obtain ⟨⟨x, rest⟩, hip, hv6⟩ := Option.bind_eq_some_iff.mp hv6
  obtain ⟨scope, hrest, hscope⟩ := exists_scope rest
  obtain ⟨⟨_, behind⟩, hclose, hv6⟩ := Option.bind_eq_some_iff.mp hv6
  obtain ⟨⟨port, _⟩, hport, hv6⟩ := Option.bind_eq_some_iff.mp hv6
  obtain ⟨rfl, rfl⟩ := Prod.mk.inj (Option.some.inj hv6)
  obtain ⟨digits, hdigits, rfl⟩ := readPort_iff.mp hport
  obtain ⟨used, rfl⟩ := within_readIpv6Addr.suffix hip
  have hused := fun c ↦ within_readIpv6Addr.isAddressChar_of_mem (c := c) hip
  have hbracket : ((readScopeId rest).getD (0, rest)).2 = ']' :: ':' :: digits.toList :=
    readGivenChar_eq_some hclose
  rw [hbracket] at hrest
  refine ⟨String.ofList (used ++ scope), digits, ?_, ?_, ?_, ?_⟩
  · rw [← String.toList_inj, readGivenChar_eq_some hopen, hrest]
    simp
  · rwa [hdigits.toNat_ofNat]
  · rw [String.toList_ofList]
    intro c hc
    rcases List.mem_append.mp hc with hc | hc
    · exact .inl (hused c hc)
    · rcases hscope with rfl | ⟨-, hscope⟩
      · exact absurd hc List.not_mem_nil
      · exact hscope c hc
  · rw [String.toList_ofList]
    intro hpercent
    rcases hscope with rfl | ⟨hmem, -⟩
    · rw [List.nil_append] at hrest
      rw [hrest, within_readIpv6Addr.append_eq_some_iff (by decide)] at hip
      rw [Ipv6Addr.fromStr, String.toList_ofList, List.append_nil]
      exact parseWith_eq_some_iff.mpr hip
    · exact absurd (List.mem_append_right used hmem) hpercent

end

end Net
