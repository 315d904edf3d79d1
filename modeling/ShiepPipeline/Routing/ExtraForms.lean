import Mathlib
import ShiepPipeline.Routing.Literal

/-!
# The three forms of an extra

An `--extra` entry is the text of an address, of a range or of a block, and denotes a set of
addresses. The sets are given here without masks or comparisons of words: a range is the interval
between its bounds, and a block is the addresses that agree with its own in the leading bits.

`isSome_planExtraIp_iff` says that the compiled extras hit exactly the addresses that some entry
denotes. An entry that has none of the three forms denotes nothing and is dropped.
-/

open Net Str

namespace ShiepPipeline

inductive ExtraForm
  | single (x : Ipv4Addr)
  | range (x y : Ipv4Addr)
  /-- The addresses that agree with `x` in the first `p` bits. -/
  | block (x : Ipv4Addr) (p : ℕ)
deriving DecidableEq, Repr

namespace ExtraForm

def addresses : ExtraForm → Set Ipv4Addr
  | .single x => {x}
  | .range x y => {a | a.toNat ∈ Set.uIcc x.toNat y.toNat}
  | .block x p => {a | ∀ i < p, a.toNat.testBit (31 - i) = x.toNat.testBit (31 - i)}

/-- An entry is written in a form. There may be white space around the entry and its parts, and the
length of a block is a decimal number up to 32. -/
inductive IsText (entry : String) : ExtraForm → Prop
  | single {x : Ipv4Addr} (h : trim entry = x.display) : IsText entry (.single x)
  | range {start stop : String} {x y : Ipv4Addr} (h : trim entry = start ++ "~" ++ stop)
      (hx : trim start = x.display) (hy : trim stop = y.display) : IsText entry (.range x y)
  | block {cidrIp bits : String} {x : Ipv4Addr} {p : ℕ} (h : trim entry = cidrIp ++ "/" ++ bits)
      (hx : trim cidrIp = x.display) (hp : parseUnsigned 32 (trim bits) = some p) :
      IsText entry (.block x p)

/-! ## Sets of addresses -/

theorem mem_addresses_range {x y a : Ipv4Addr} :
    a ∈ (range x y).addresses ↔ between x y a = true := by
  change a.toNat ∈ Set.uIcc x.toNat y.toNat ↔ _
  rw [Set.mem_uIcc, between]
  simp only [Bool.or_eq_true, Bool.and_eq_true, decide_eq_true_eq]

theorem mem_addresses_block {x a : Ipv4Addr} {p : ℕ} (hp : p ≤ 32) :
    a ∈ (block x p).addresses ↔ x.toNat / 2 ^ (32 - p) = a.toNat / 2 ^ (32 - p) := by
  have hx := x.toNat_lt
  have ha := a.toNat_lt
  change (∀ i < p, a.toNat.testBit (31 - i) = x.toNat.testBit (31 - i)) ↔ _
  constructor
  · intro h
    refine Nat.eq_of_testBit_eq fun j ↦ ?_
    rw [Nat.testBit_div_two_pow, Nat.testBit_div_two_pow]
    -- the bits above the host part are the leading ones, and there are none beyond
    by_cases hj : 32 - p + j < 32
    · have := h (31 - (32 - p + j)) (by omega)
      rw [show 31 - (31 - (32 - p + j)) = j + (32 - p) from by omega] at this
      exact this.symm
    · have hpow : 2 ^ 32 ≤ 2 ^ (j + (32 - p)) := Nat.pow_le_pow_right Nat.zero_lt_two (by omega)
      rw [Nat.testBit_lt_two_pow (hx.trans_le hpow), Nat.testBit_lt_two_pow (ha.trans_le hpow)]
  · intro h i hi
    have hbit := congrArg (Nat.testBit · (31 - i - (32 - p))) h
    simp only [Nat.testBit_div_two_pow] at hbit
    rw [show 31 - i - (32 - p) + (32 - p) = 31 - i from by omega] at hbit
    exact hbit.symm

/-- A block of length 0 has all addresses. -/
theorem addresses_block_zero (x : Ipv4Addr) : (block x 0).addresses = Set.univ :=
  Set.eq_univ_of_forall fun _ _ hi ↦ absurd hi (Nat.not_lt_zero _)

/-- A block of length 32 has its own address only. -/
theorem addresses_block_thirtyTwo (x : Ipv4Addr) : (block x 32).addresses = {x} := by
  ext a
  rw [mem_addresses_block le_rfl, Nat.sub_self, pow_zero, Nat.div_one, Nat.div_one,
    Set.mem_singleton_iff]
  constructor
  · intro h
    exact (Ipv4Addr.toNat_inj h).symm
  · rintro rfl
    rfl

/-! ## Texts -/

/-- A part whose text is an address is cut at no separator. -/
theorem not_mem_of_trim {s : String} {x : Ipv4Addr} {c : Char} (h : trim s = x.display)
    (hc : c.isDigit = false) (hdot : c ≠ '.') (hspace : isWhitespace c = false) :
    c ∉ s.toList := by
  intro hmem
  have := mem_trim hmem hspace
  rw [h] at this
  exact Ipv4Addr.not_mem_display hc hdot this

theorem splitOnce_display {x : Ipv4Addr} {c : Char} (hc : c.isDigit = false) (hdot : c ≠ '.') :
    splitOnce x.display c = none := by
  rw [splitOnce_eq_none_iff, contains, List.contains_eq_mem, decide_eq_false_iff_not]
  exact Ipv4Addr.not_mem_display hc hdot

/-- The numbers up to 32 among those that fit into a byte. -/
theorem parseUnsigned_le_iff {s : String} {p : ℕ} :
    parseUnsigned 255 s = some p ∧ p ≤ 32 ↔ parseUnsigned 32 s = some p := by
  simp only [parseUnsigned]
  split_ifs with hbyte hsmall hsmall
  · simp only [Option.some.injEq]
    constructor
    · rintro ⟨rfl, -⟩
      rfl
    · rintro rfl
      exact ⟨rfl, hsmall.2.2⟩
  · simp only [Option.some.injEq, iff_false]
    rintro ⟨rfl, hp⟩
    exact hsmall ⟨hbyte.1, hbyte.2.1, hp⟩
  · exact absurd ⟨hsmall.1, hsmall.2.1, hsmall.2.2.trans (by decide)⟩ hbyte
  · simp

/-- **An entry denotes the addresses of its form**, and nothing if it has none. -/
theorem extraDenotes_iff {entry : String} {a : Ipv4Addr} :
    extraDenotes entry a = true ↔ ∃ form, IsText entry form ∧ a ∈ form.addresses := by
  constructor
  · intro h
    rw [extraDenotes] at h
    rcases hslash : splitOnce (trim entry) '/' with _ | ⟨cidrIp, bits⟩
    · rcases htilde : splitOnce (trim entry) '~' with _ | ⟨start, stop⟩
      · simp only [hslash, htilde, beq_iff_eq] at h
        exact ⟨.single a, .single (Ipv4Addr.fromStr_eq_some_iff.mp h), rfl⟩
      · simp only [hslash, htilde, rangeCovers, Option.any_eq_true] at h
        obtain ⟨x, hx, y, hy, hbetween⟩ := h
        exact ⟨.range x y, .range (eq_append_of_splitOnce rfl htilde)
          (Ipv4Addr.fromStr_eq_some_iff.mp hx) (Ipv4Addr.fromStr_eq_some_iff.mp hy),
          mem_addresses_range.mpr hbetween⟩
    · simp only [hslash, Option.any_eq_true, Bool.and_eq_true, decide_eq_true_eq,
        beq_iff_eq] at h
      obtain ⟨x, hx, p, hp, hle, hbits⟩ := h
      exact ⟨.block x p, .block (eq_append_of_splitOnce rfl hslash)
        (Ipv4Addr.fromStr_eq_some_iff.mp hx) (parseUnsigned_le_iff.mp ⟨hp, hle⟩),
        (mem_addresses_block hle).mpr hbits⟩
  · rintro ⟨form, htext, ha⟩
    rw [extraDenotes]
    cases htext with
    | @single x h =>
      obtain rfl : a = x := ha
      rw [h, splitOnce_display rfl (by decide), splitOnce_display rfl (by decide)]
      simp
    | @range start stop x y h hx hy =>
      have hslash : splitOnce (trim entry) '/' = none := by
        rw [splitOnce_eq_none_iff, contains, List.contains_eq_mem, decide_eq_false_iff_not, h]
        have hstart := not_mem_of_trim (c := '/') hx rfl (by decide) rfl
        have hstop := not_mem_of_trim (c := '/') hy rfl (by decide) rfl
        simp [hstart, hstop]
      have htilde : splitOnce (trim entry) '~' = some (start, stop) := by
        rw [h]
        exact splitOnce_append rfl (not_mem_of_trim hx rfl (by decide) rfl)
      simp only [hslash, htilde, rangeCovers, hx, hy, Ipv4Addr.fromStr_display, Option.any_some]
      exact mem_addresses_range.mp ha
    | @block cidrIp bits x p h hx hp =>
      obtain ⟨hp, hle⟩ := parseUnsigned_le_iff.mpr hp
      have hslash : splitOnce (trim entry) '/' = some (cidrIp, bits) := by
        rw [h]
        exact splitOnce_append rfl (not_mem_of_trim hx rfl (by decide) rfl)
      simp only [hslash, hx, hp, Ipv4Addr.fromStr_display, Option.any_some, Bool.and_eq_true,
        decide_eq_true_eq, beq_iff_eq]
      exact ⟨hle, (mem_addresses_block hle).mp ha⟩

/-- What is compiled has a form. -/
theorem exists_isText {entry : String} {matcher : HostMatcher}
    (h : parseExtraIp entry = some matcher) : ∃ form, IsText entry form := by
  rw [parseExtraIp] at h
  split_ifs at h
  rcases hslash : splitOnce (trim entry) '/' with _ | ⟨cidrIp, bits⟩
  · rcases htilde : splitOnce (trim entry) '~' with _ | ⟨start, stop⟩
    · simp only [hslash, htilde, Option.map_eq_some_iff] at h
      obtain ⟨x, hx, -⟩ := h
      exact ⟨.single x, .single (Ipv4Addr.fromStr_eq_some_iff.mp hx)⟩
    · simp only [hslash, htilde, Option.bind_eq_bind, Option.bind_eq_some_iff] at h
      obtain ⟨x, hx, y, hy, -⟩ := h
      exact ⟨.range x y, .range (eq_append_of_splitOnce rfl htilde)
        (Ipv4Addr.fromStr_eq_some_iff.mp hx) (Ipv4Addr.fromStr_eq_some_iff.mp hy)⟩
  · simp only [hslash, Option.bind_eq_bind, Option.bind_eq_some_iff] at h
    obtain ⟨x, hx, p, hp, h⟩ := h
    split_ifs at h with hlong
    exact ⟨.block x p, .block (eq_append_of_splitOnce rfl hslash)
      (Ipv4Addr.fromStr_eq_some_iff.mp hx) (parseUnsigned_le_iff.mp ⟨hp, not_lt.mp hlong⟩)⟩

end ExtraForm

namespace RouteMatcher

open ExtraForm

theorem isSome_planExtraIp {m : RouteMatcher} {host : String} {port : UInt16} {a : Ipv4Addr} :
    (m.planExtraIp host port (.ipv4 a)).isSome = m.extraMatchers.any (extraHit a) := by
  rw [planExtraIp]
  cases m.extraMatchers.any (extraHit a) <;> rfl

/-- **The extras cover exactly the addresses that an entry denotes.** Entries of no form are
dropped, and the mask of every length is the one meant: the shift stays below the width of the
word. -/
theorem isSome_planExtraIp_iff (table : RouteTable) (extraIps : List String) (host : String)
    (port : UInt16) (a : Ipv4Addr) :
    (((fromTable table extraIps).planExtraIp host port (.ipv4 a)).isSome = true
        ↔ ∃ entry ∈ extraIps, ∃ form, IsText entry form ∧ a ∈ form.addresses)
      ∧ (∀ x : Ipv4Addr, (block x 0).addresses = Set.univ ∧ (block x 32).addresses = {x})
      ∧ (∀ entry, (∀ form, ¬IsText entry form) → parseExtraIp entry = none)
      ∧ ∀ p ≤ 32, (p ≠ 0 → 32 - p < 32) ∧ (cidrMask p).toNat = 2 ^ 32 - 2 ^ (32 - p) := by
  refine ⟨?_, fun x ↦ ⟨addresses_block_zero x, addresses_block_thirtyTwo x⟩, fun entry hnone ↦ ?_,
    fun p hp ↦ ⟨fun _ ↦ by omega, toNat_cidrMask p hp⟩⟩
  · rw [isSome_planExtraIp, any_extraMatchers, List.any_eq_true]
    simp only [extraDenotes_iff]
  · rw [Option.eq_none_iff_forall_ne_some]
    intro matcher hmatcher
    obtain ⟨form, htext⟩ := exists_isText hmatcher
    exact hnone form htext

end RouteMatcher

end ShiepPipeline
