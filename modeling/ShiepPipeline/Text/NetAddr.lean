import ShiepPipeline.Text.Str

/-!
# Internet addresses and their text

`Ipv4Addr`, `Ipv6Addr` and the socket addresses of `std::net`, with the parser and the printer of
the standard library. The parser is a recursive descent over characters that either consumes a
prefix or leaves the input alone, so it is written as a function `List Char → Option (α × List
Char)`.

The one fact the rest of the development needs is the round trip: the text of an address, alone
or followed by a port, parses to that address. Everything about digits is settled in
`readNumber_toDigits`, once.
-/

namespace Net

/-! ## Addresses -/

/-- `std::net::Ipv4Addr`. -/
structure Ipv4Addr where
  a : UInt8
  b : UInt8
  c : UInt8
  d : UInt8
deriving DecidableEq, Repr

/-- `std::net::Ipv6Addr`: eight 16-bit segments. -/
structure Ipv6Addr where
  segments : Vector UInt16 8
deriving DecidableEq, Repr

inductive IpAddr
  | v4 (ip : Ipv4Addr)
  | v6 (ip : Ipv6Addr)
deriving DecidableEq, Repr

structure SocketAddrV4 where
  ip : Ipv4Addr
  port : UInt16
deriving DecidableEq, Repr

structure SocketAddrV6 where
  ip : Ipv6Addr
  port : UInt16
  scopeId : UInt32
deriving DecidableEq, Repr

inductive SocketAddr
  | v4 (addr : SocketAddrV4)
  | v6 (addr : SocketAddrV6)
deriving DecidableEq, Repr

/-- `SocketAddr::new`. -/
def SocketAddr.new : IpAddr → UInt16 → SocketAddr
  | .v4 ip, port => .v4 ⟨ip, port⟩
  | .v6 ip, port => .v6 ⟨ip, port, 0⟩

namespace Ipv4Addr

def octets (x : Ipv4Addr) : List UInt8 := [x.a, x.b, x.c, x.d]

/-- The address as a number, most significant octet first. -/
def toNat (x : Ipv4Addr) : ℕ :=
  ((x.a.toNat * 256 + x.b.toNat) * 256 + x.c.toNat) * 256 + x.d.toNat

/-- `u32::from`. -/
def toU32 (x : Ipv4Addr) : UInt32 := UInt32.ofNat x.toNat

theorem toNat_lt (x : Ipv4Addr) : x.toNat < 2 ^ 32 := by
  have ha := x.a.toNat_lt
  have hb := x.b.toNat_lt
  have hc := x.c.toNat_lt
  have hd := x.d.toNat_lt
  rw [toNat]
  omega

@[simp] theorem toNat_toU32 (x : Ipv4Addr) : x.toU32.toNat = x.toNat := by
  rw [toU32, UInt32.toNat_ofNat', Nat.mod_eq_of_lt x.toNat_lt]

theorem toNat_inj {x y : Ipv4Addr} (h : x.toNat = y.toNat) : x = y := by
  obtain ⟨a₁, b₁, c₁, d₁⟩ := x
  obtain ⟨a₂, b₂, c₂, d₂⟩ := y
  have hb₁ := b₁.toNat_lt
  have hc₁ := c₁.toNat_lt
  have hd₁ := d₁.toNat_lt
  have hb₂ := b₂.toNat_lt
  have hc₂ := c₂.toNat_lt
  have hd₂ := d₂.toNat_lt
  simp only [toNat] at h
  simp only [mk.injEq, ← UInt8.toNat_inj]
  omega

end Ipv4Addr

/-! ## Printing -/

/-- `Display` of an unsigned integer. -/
def decimal (n : ℕ) : String := String.ofList (Nat.toDigits 10 n)

@[simp] theorem toList_decimal (n : ℕ) : (decimal n).toList = Nat.toDigits 10 n :=
  String.toList_ofList

/-- `Display` of an `Ipv4Addr`: the dotted quad. -/
def Ipv4Addr.display (x : Ipv4Addr) : String :=
  decimal x.a.toNat ++ "." ++ decimal x.b.toNat ++ "." ++ decimal x.c.toNat ++ "."
    ++ decimal x.d.toNat

namespace Ipv6Addr

/-- The first longest run of zero segments, as its start and its length. -/
def longestZeroRun (segments : List UInt16) : ℕ × ℕ :=
  let step (state : (ℕ × ℕ) × (ℕ × ℕ)) (segment : UInt16 × ℕ) : (ℕ × ℕ) × (ℕ × ℕ) :=
    if segment.1 = 0 then
      let run := (if state.2.2 = 0 then segment.2 else state.2.1, state.2.2 + 1)
      (if state.1.2 < run.2 then run else state.1, run)
    else (state.1, (0, 0))
  (segments.zipIdx.foldl step ((0, 0), (0, 0))).1

def joinHex (segments : List UInt16) : String :=
  ":".intercalate (segments.map fun segment ↦ String.ofList (Nat.toDigits 16 segment.toNat))

/-- `Display` of an `Ipv6Addr`: an IPv4-mapped address ends in a dotted quad, and the first longest
run of two or more zero segments is written `::`. -/
def display (x : Ipv6Addr) : String :=
  match x.segments.toList with
  | [0, 0, 0, 0, 0, 0xffff, ab, cd] =>
    "::ffff:" ++ Ipv4Addr.display
      ⟨(ab >>> 8).toUInt8, ab.toUInt8, (cd >>> 8).toUInt8, cd.toUInt8⟩
  | segments =>
    let (start, len) := longestZeroRun segments
    if 1 < len then
      joinHex (segments.take start) ++ "::" ++ joinHex (segments.drop (start + len))
    else joinHex segments

end Ipv6Addr

def SocketAddrV4.display (x : SocketAddrV4) : String :=
  x.ip.display ++ ":" ++ decimal x.port.toNat

def SocketAddrV6.display (x : SocketAddrV6) : String :=
  let scope := if x.scopeId = 0 then "" else "%" ++ decimal x.scopeId.toNat
  "[" ++ x.ip.display ++ scope ++ "]:" ++ decimal x.port.toNat

def SocketAddr.display : SocketAddr → String
  | .v4 addr => addr.display
  | .v6 addr => addr.display

/-! ## Parsing -/

/-- A reader either consumes a prefix of its input or fails and consumes nothing. -/
abbrev Reader (α : Type) := List Char → Option (α × List Char)

/-- `char::to_digit` for the radices 10 and 16. -/
def toDigit (radix : ℕ) (c : Char) : Option ℕ :=
  let n := if c.isDigit then c.toNat - '0'.toNat
    else if 'a' ≤ c ∧ c ≤ 'f' then c.toNat - 'a'.toNat + 10
    else if 'A' ≤ c ∧ c ≤ 'F' then c.toNat - 'A'.toNat + 10
    else radix
  if n < radix then some n else none

def readGivenChar (target : Char) : Reader Unit
  | [] => none
  | c :: cs => if c = target then some ((), cs) else none

/-- `Parser::read_number`: the longest run of digits, at least one of them and at most
`maxDigits`, with a value of at most `max`. -/
def readNumber (radix max : ℕ) (maxDigits : Option ℕ) (allowZeroPrefix : Bool) : Reader ℕ :=
  fun cs ↦
    let digits := cs.takeWhile fun c ↦ (toDigit radix c).isSome
    let value := digits.foldl (fun n c ↦ radix * n + (toDigit radix c).getD 0) 0
    if digits = [] ∨ maxDigits.any (· < digits.length)
        ∨ (allowZeroPrefix = false ∧ digits.head? = some '0' ∧ 1 < digits.length)
        ∨ max < value then none
    else some (value, cs.dropWhile fun c ↦ (toDigit radix c).isSome)

/-- `Parser::read_separator`: no separator stands before the first item. -/
def readSeparator {α : Type} (sep : Char) (index : ℕ) (inner : Reader α) : Reader α :=
  fun cs ↦ if 0 < index then (readGivenChar sep cs).bind fun r ↦ inner r.2 else inner cs

/-- One octet of a dotted quad. Octal notation is refused. -/
def readOctet (index : ℕ) : Reader ℕ :=
  readSeparator '.' index (readNumber 10 255 (some 3) false)

def readIpv4Addr : Reader Ipv4Addr := fun cs ↦ do
  let (a, cs) ← readOctet 0 cs
  let (b, cs) ← readOctet 1 cs
  let (c, cs) ← readOctet 2 cs
  let (d, cs) ← readOctet 3 cs
  some (⟨UInt8.ofNat a, UInt8.ofNat b, UInt8.ofNat c, UInt8.ofNat d⟩, cs)

/-- Read up to `left` more of `limit` groups of an IPv6 address. An embedded IPv4 address fills two
groups and ends the reading; the flag reports it. -/
def readGroups (limit : ℕ) : ℕ → List Char → List ℕ × Bool × List Char
  | 0, cs => ([], false, cs)
  | left + 1, cs =>
    let index := limit - (left + 1)
    let embedded := if 0 < left then readSeparator ':' index readIpv4Addr cs else none
    match embedded with
    | some (ip, cs) =>
      ([ip.a.toNat * 256 + ip.b.toNat, ip.c.toNat * 256 + ip.d.toNat], true, cs)
    | none =>
      match readSeparator ':' index (readNumber 16 0xffff (some 4) true) cs with
      | some (group, cs) =>
        let (groups, ipv4, cs) := readGroups limit left cs
        (group :: groups, ipv4, cs)
      | none => ([], false, cs)

def Ipv6Addr.ofGroups (groups : List ℕ) : Ipv6Addr :=
  ⟨Vector.ofFn fun i ↦ UInt16.ofNat (groups.getD i 0)⟩

def readIpv6Addr : Reader Ipv6Addr := fun cs ↦ do
  let (head, ipv4, cs) := readGroups 8 8 cs
  if head.length = 8 then
    some (Ipv6Addr.ofGroups head, cs)
  else if ipv4 then
    none
  else
    let (_, cs) ← readGivenChar ':' cs
    let (_, cs) ← readGivenChar ':' cs
    let (tail, _, cs) := readGroups (7 - head.length) (7 - head.length) cs
    some (Ipv6Addr.ofGroups (head ++ List.replicate (8 - head.length - tail.length) 0 ++ tail), cs)

def readPort : Reader ℕ := fun cs ↦ do
  let (_, cs) ← readGivenChar ':' cs
  readNumber 10 0xffff none true cs

def readScopeId : Reader ℕ := fun cs ↦ do
  let (_, cs) ← readGivenChar '%' cs
  readNumber 10 0xffffffff none true cs

def readSocketAddrV4 : Reader SocketAddrV4 := fun cs ↦ do
  let (ip, cs) ← readIpv4Addr cs
  let (port, cs) ← readPort cs
  some (⟨ip, UInt16.ofNat port⟩, cs)

def readSocketAddrV6 : Reader SocketAddrV6 := fun cs ↦ do
  let (_, cs) ← readGivenChar '[' cs
  let (ip, cs) ← readIpv6Addr cs
  let (scopeId, cs) := (readScopeId cs).getD (0, cs)
  let (_, cs) ← readGivenChar ']' cs
  let (port, cs) ← readPort cs
  some (⟨ip, UInt16.ofNat port, UInt32.ofNat scopeId⟩, cs)

/-- `Parser::parse_with`: the reader has to consume the whole text. -/
def parseWith {α : Type} (reader : Reader α) (cs : List Char) : Option α :=
  match reader cs with
  | some (x, []) => some x
  | _ => none

/-- `Ipv4Addr::from_str`, which refuses more than fifteen characters before it looks at any. -/
def Ipv4Addr.fromStr (s : String) : Option Ipv4Addr :=
  if 15 < s.toList.length then none else parseWith readIpv4Addr s.toList

/-- `Ipv6Addr::from_str`. -/
def Ipv6Addr.fromStr (s : String) : Option Ipv6Addr := parseWith readIpv6Addr s.toList

/-- `IpAddr::from_str`. -/
def IpAddr.fromStr (s : String) : Option IpAddr :=
  ((Ipv4Addr.fromStr s).map IpAddr.v4).or ((Ipv6Addr.fromStr s).map IpAddr.v6)

/-- `SocketAddr::from_str`. -/
def SocketAddr.fromStr (s : String) : Option SocketAddr :=
  ((parseWith readSocketAddrV4 s.toList).map SocketAddr.v4).or
    ((parseWith readSocketAddrV6 s.toList).map SocketAddr.v6)

/-! ## The round trip

Printing writes digits and separators only, so a reader that takes the longest run of digits stops
exactly where the printer did. -/

theorem toDigit_ten (c : Char) :
    toDigit 10 c = if c.isDigit then some (c.toNat - '0'.toNat) else none := by
  rw [toDigit]
  by_cases hd : c.isDigit = true
  · have hlt : c.toNat - '0'.toNat < 10 := by
      simp only [Char.isDigit, Bool.and_eq_true, decide_eq_true_eq, UInt32.le_iff_toNat_le] at hd
      have hle : c.toNat ≤ 57 := hd.2
      simp only [Char.reduceToNat]
      omega
    simp only [hd, if_true, if_pos hlt]
  · simp only [hd, Bool.false_eq_true, if_false]
    split_ifs with _ hlt _ hlt hlt <;> first | rfl | exact absurd hlt (by omega)

theorem toDigit_ten_eq_none {c : Char} (h : c.isDigit = false) : toDigit 10 c = none := by
  rw [toDigit_ten, h]
  rfl

private theorem isDigit_of_mem_decimal {n : ℕ} {c : Char} (h : c ∈ Nat.toDigits 10 n) :
    c.isDigit = true :=
  Nat.isDigit_of_mem_toDigits (by decide) (by decide) h

section Digits

variable {radix : ℕ} (htwo : 1 < radix) (hsixteen : radix ≤ 16)
include hsixteen

theorem toDigit_digitChar {d : ℕ} (hd : d < radix) :
    toDigit radix (Nat.digitChar d) = some d := by
  have hchar : ∀ d < 16,
      (Nat.digitChar d).isDigit = true ∧ (Nat.digitChar d).toNat - '0'.toNat = d
      ∨ (Nat.digitChar d).isDigit = false
        ∧ ('a' ≤ Nat.digitChar d ∧ Nat.digitChar d ≤ 'f')
        ∧ (Nat.digitChar d).toNat - 'a'.toNat + 10 = d := by
    decide
  rw [toDigit]
  obtain ⟨hdigit, hvalue⟩ | ⟨hdigit, hletter, hvalue⟩ := hchar d (by omega)
  · simp only [hdigit, if_true, hvalue, if_pos hd]
  · simp only [hdigit, Bool.false_eq_true, if_false, if_pos hletter, hvalue, if_pos hd]

include htwo

theorem isSome_toDigit_of_mem_toDigits {n : ℕ} {c : Char} (h : c ∈ Nat.toDigits radix n) :
    (toDigit radix c).isSome = true := by
  induction n using Nat.base_induction radix htwo with
  | single m hm =>
    rw [Nat.toDigits_of_lt_base hm, List.mem_singleton] at h
    rw [h, toDigit_digitChar hsixteen hm]
    rfl
  | digit m k hk hm ih =>
    rw [← Nat.toDigits_append_toDigits htwo hm hk, List.mem_append, Nat.toDigits_of_lt_base hk,
      List.mem_singleton] at h
    obtain h | h := h
    · exact ih h
    · rw [h, toDigit_digitChar hsixteen hk]
      rfl

theorem foldl_toDigits (n : ℕ) :
    (Nat.toDigits radix n).foldl (fun m c ↦ radix * m + (toDigit radix c).getD 0) 0 = n := by
  induction n using Nat.base_induction radix htwo with
  | single m hm =>
    rw [Nat.toDigits_of_lt_base hm, List.foldl_cons, List.foldl_nil, toDigit_digitChar hsixteen hm,
      Nat.mul_zero, Nat.zero_add, Option.getD_some]
  | digit m k hk hm ih =>
    rw [← Nat.toDigits_append_toDigits htwo hm hk, List.foldl_append, ih,
      Nat.toDigits_of_lt_base hk, List.foldl_cons, List.foldl_nil, toDigit_digitChar hsixteen hk,
      Option.getD_some]

/-- **Reading back a printed number**, whatever follows it, as long as no digit does. -/
theorem readNumber_toDigits {n max : ℕ} {maxDigits : Option ℕ} {allowZeroPrefix : Bool}
    {rest : List Char} (hmax : n ≤ max)
    (hlen : ∀ m ∈ maxDigits, (Nat.toDigits radix n).length ≤ m)
    (hzero : allowZeroPrefix = true ∨
      ((Nat.toDigits radix n).head? = some '0' → (Nat.toDigits radix n).length ≤ 1))
    (hrest : ∀ c ∈ rest.head?, toDigit radix c = none) :
    readNumber radix max maxDigits allowZeroPrefix (Nat.toDigits radix n ++ rest)
      = some (n, rest) := by
  have hdigits : ∀ c ∈ Nat.toDigits radix n, (toDigit radix c).isSome = true := fun c ↦
    isSome_toDigit_of_mem_toDigits htwo hsixteen
  have htail : rest.takeWhile (fun c ↦ (toDigit radix c).isSome) = []
      ∧ rest.dropWhile (fun c ↦ (toDigit radix c).isSome) = rest := by
    cases rest with
    | nil => simp
    | cons c cs => simp [hrest c (by simp)]
  have htake : (Nat.toDigits radix n ++ rest).takeWhile (fun c ↦ (toDigit radix c).isSome)
      = Nat.toDigits radix n := by
    rw [List.takeWhile_append_of_pos hdigits, htail.1, List.append_nil]
  have hdrop : (Nat.toDigits radix n ++ rest).dropWhile (fun c ↦ (toDigit radix c).isSome)
      = rest := by
    rw [List.dropWhile_append_of_pos hdigits, htail.2]
  -- none of the reasons to fail applies
  simp only [readNumber, htake, hdrop, foldl_toDigits htwo hsixteen]
  rw [if_neg]
  rintro (hnil | hlong | ⟨hz, hhead, hone⟩ | hbig)
  · exact Nat.toDigits_ne_nil hnil
  · cases maxDigits with
    | none => simp at hlong
    | some m =>
      have := hlen m rfl
      simp at hlong
      omega
  · rcases hzero with hz' | hshort
    · rw [hz] at hz'
      cases hz'
    · have := hshort hhead
      omega
  · omega

end Digits

/-- The shape of a printed octet: at most three digits, and no leading zero. -/
private theorem toDigits_octet : ∀ n < 256, (Nat.toDigits 10 n).length ≤ 3
    ∧ ((Nat.toDigits 10 n).head? = some '0' → (Nat.toDigits 10 n).length ≤ 1) := by
  decide +kernel

private theorem readOctet_toDigits (x : UInt8) {rest : List Char}
    (hrest : ∀ c ∈ rest.head?, c.isDigit = false) :
    readNumber 10 255 (some 3) false (Nat.toDigits 10 x.toNat ++ rest)
      = some (x.toNat, rest) := by
  have hx := x.toNat_lt
  obtain ⟨hlen, hzero⟩ := toDigits_octet x.toNat hx
  refine readNumber_toDigits (by decide) (by decide) (by omega) ?_ (Or.inr hzero) fun c hc ↦
    toDigit_ten_eq_none (hrest c hc)
  rintro m hm
  obtain rfl : 3 = m := Option.some.inj hm
  exact hlen

theorem toList_display (x : Ipv4Addr) :
    x.display.toList = Nat.toDigits 10 x.a.toNat ++ '.' :: (Nat.toDigits 10 x.b.toNat
      ++ '.' :: (Nat.toDigits 10 x.c.toNat ++ '.' :: Nat.toDigits 10 x.d.toNat)) := by
  simp [Ipv4Addr.display]

/-- A dotted quad is read back in front of any text that does not start with a digit. -/
theorem readIpv4Addr_display (x : Ipv4Addr) {rest : List Char}
    (hrest : ∀ c ∈ rest.head?, c.isDigit = false) :
    readIpv4Addr (x.display.toList ++ rest) = some (x, rest) := by
  have hdot : ∀ cs : List Char, ∀ c ∈ ('.' :: cs).head?, c.isDigit = false := by
    rintro cs c hc
    obtain rfl : '.' = c := Option.some.inj hc
    rfl
  simp [readIpv4Addr, readOctet, readSeparator, readGivenChar, toList_display,
    readOctet_toDigits _ (hdot _), readOctet_toDigits _ hrest]

theorem length_display_le (x : Ipv4Addr) : x.display.toList.length ≤ 15 := by
  have ha := (toDigits_octet _ x.a.toNat_lt).1
  have hb := (toDigits_octet _ x.b.toNat_lt).1
  have hc := (toDigits_octet _ x.c.toNat_lt).1
  have hd := (toDigits_octet _ x.d.toNat_lt).1
  rw [toList_display]
  simp only [List.length_append, List.length_cons]
  omega

@[simp] theorem Ipv4Addr.fromStr_display (x : Ipv4Addr) : Ipv4Addr.fromStr x.display = some x := by
  have hread : readIpv4Addr (x.display.toList ++ []) = some (x, []) :=
    readIpv4Addr_display x (by simp)
  rw [List.append_nil] at hread
  rw [Ipv4Addr.fromStr, if_neg (by have := length_display_le x; omega), parseWith, hread]

theorem Ipv4Addr.isWhitespace_of_mem_display {x : Ipv4Addr} {c : Char} (hc : c ∈ x.display.toList) :
    Str.isWhitespace c = false := by
  have hdigit : ∀ n, ∀ c ∈ Nat.toDigits 10 n, Str.isWhitespace c = false := fun n c hc ↦
    Str.isWhitespace_of_isDigit (isDigit_of_mem_decimal hc)
  have hdot : Str.isWhitespace '.' = false := by decide
  simp only [toList_display, List.mem_append, List.mem_cons] at hc
  rcases hc with hc | rfl | hc | rfl | hc | rfl | hc <;>
    first | exact hdigit _ c hc | exact hdot

theorem Ipv4Addr.trim_display (x : Ipv4Addr) : Str.trim x.display = x.display :=
  Str.trim_eq_self fun _ ↦ isWhitespace_of_mem_display

/-! ## Texts that are read

The reader of a dotted quad refuses leading zeros, so no text but the printed one is read as an
address. -/

theorem digitChar_toDigit_ten {c : Char} {d : ℕ} (h : toDigit 10 c = some d) :
    d < 10 ∧ c = Nat.digitChar d := by
  rw [toDigit_ten] at h
  split_ifs at h with hd
  simp only [Char.isDigit, Bool.and_eq_true, decide_eq_true_eq, UInt32.le_iff_toNat_le] at hd
  have hge : 48 ≤ c.toNat := hd.1
  have hle : c.toNat ≤ 57 := hd.2
  obtain rfl : c.toNat - '0'.toNat = d := Option.some.inj h
  have hval : ∀ n ≤ 9, Nat.digitChar n = Char.ofNat (48 + n) := by decide
  simp only [Char.reduceToNat]
  refine ⟨by omega, ?_⟩
  rw [hval _ (by omega), ← Char.ofNat_toNat c]
  congr 1
  simp only [Char.ofNat_toNat]
  omega

/-- Digits without a leading zero are the text of their value. -/
theorem toDigits_foldl {ds : List Char} (hds : ∀ c ∈ ds, (toDigit 10 c).isSome = true)
    (hne : ds ≠ []) (hzero : ds.head? = some '0' → ds.length ≤ 1) :
    Nat.toDigits 10 (ds.foldl (fun n c ↦ 10 * n + (toDigit 10 c).getD 0) 0) = ds := by
  induction ds using List.reverseRecOn with
  | nil => exact absurd rfl hne
  | append_singleton ds c ih =>
    obtain ⟨d, hd⟩ := Option.isSome_iff_exists.mp (hds c (by simp))
    obtain ⟨hlt, rfl⟩ := digitChar_toDigit_ten hd
    rw [List.foldl_append, List.foldl_cons, List.foldl_nil, hd, Option.getD_some]
    cases ds with
    | nil => rw [List.foldl_nil, Nat.mul_zero, Nat.zero_add, Nat.toDigits_of_lt_base hlt,
        List.nil_append]
    | cons c' ds =>
      have hhead : c' ≠ '0' := by
        rintro rfl
        simpa using hzero rfl
      have ih' := ih (fun c hc ↦ hds c (List.mem_append_left _ hc)) (List.cons_ne_nil _ _)
        fun h ↦ absurd (Option.some.inj h) hhead
      generalize (c' :: ds).foldl (fun n c ↦ 10 * n + (toDigit 10 c).getD 0) 0 = n at ih' ⊢
      have hpos : 0 < n := by
        rcases Nat.eq_zero_or_pos n with rfl | hpos
        · rw [Nat.toDigits_zero] at ih'
          exact absurd (List.cons.inj ih').1.symm hhead
        · exact hpos
      rw [← Nat.toDigits_append_toDigits (by decide) hpos hlt, ih', Nat.toDigits_of_lt_base hlt]

/-- What `readNumber` has read, when leading zeros are refused. -/
theorem readNumber_eq_some {max n : ℕ} {maxDigits : Option ℕ} {cs rest : List Char}
    (h : readNumber 10 max maxDigits false cs = some (n, rest)) :
    cs = Nat.toDigits 10 n ++ rest ∧ n ≤ max := by
  rw [readNumber] at h
  split_ifs at h with hfail
  simp only [not_or, not_and, true_implies, not_lt] at hfail
  obtain ⟨hne, -, hzero, hmax⟩ := hfail
  obtain ⟨rfl, rfl⟩ := Prod.mk.inj (Option.some.inj h)
  refine ⟨?_, hmax⟩
  have hdigits : ∀ c ∈ cs.takeWhile fun c ↦ (toDigit 10 c).isSome, (toDigit 10 c).isSome = true :=
    fun _ hc ↦ List.mem_takeWhile_imp (p := fun c ↦ (toDigit 10 c).isSome) hc
  rw [toDigits_foldl hdigits hne hzero, List.takeWhile_append_dropWhile]

theorem readGivenChar_eq_some {target : Char} {cs rest : List Char}
    (h : readGivenChar target cs = some ((), rest)) : cs = target :: rest := by
  cases cs with
  | nil => cases h
  | cons c cs =>
    rw [readGivenChar] at h
    split_ifs at h with hc
    obtain ⟨-, rfl⟩ := Prod.mk.inj (Option.some.inj h)
    rw [hc]

theorem readOctet_eq_some {index n : ℕ} {cs rest : List Char}
    (h : readOctet index cs = some (n, rest)) :
    cs = (if 0 < index then ['.'] else []) ++ (Nat.toDigits 10 n ++ rest) ∧ n < 256 := by
  rw [readOctet, readSeparator] at h
  split_ifs at h ⊢ with hindex
  · obtain ⟨⟨u, cs'⟩, hdot, hread⟩ := Option.bind_eq_some_iff.mp h
    obtain ⟨hdigits, hmax⟩ := readNumber_eq_some hread
    rw [readGivenChar_eq_some hdot, ← hdigits]
    exact ⟨rfl, Nat.lt_succ_of_le hmax⟩
  · obtain ⟨hdigits, hmax⟩ := readNumber_eq_some h
    exact ⟨hdigits, Nat.lt_succ_of_le hmax⟩

/-- What has been read is the text of the address. -/
theorem readIpv4Addr_eq_some {cs rest : List Char} {x : Ipv4Addr}
    (h : readIpv4Addr cs = some (x, rest)) : cs = x.display.toList ++ rest := by
  simp only [readIpv4Addr, Option.bind_eq_bind, Option.bind_eq_some_iff, Prod.exists,
    Option.some.injEq, Prod.mk.injEq] at h
  obtain ⟨a, cs₁, ha, b, cs₂, hb, c, cs₃, hc, d, cs₄, hd, rfl, rfl⟩ := h
  obtain ⟨hs, halt⟩ := readOctet_eq_some ha
  obtain ⟨rfl, hblt⟩ := readOctet_eq_some hb
  obtain ⟨rfl, hclt⟩ := readOctet_eq_some hc
  obtain ⟨rfl, hdlt⟩ := readOctet_eq_some hd
  have hoctet : ∀ n < 256, (UInt8.ofNat n).toNat = n := fun n hn ↦ by
    rw [UInt8.toNat_ofNat', Nat.mod_eq_of_lt hn]
  rw [toList_display, hs, hoctet a halt, hoctet b hblt, hoctet c hclt, hoctet d hdlt]
  simp

/-- **Only its own text reads as an address.** -/
theorem Ipv4Addr.fromStr_eq_some_iff {s : String} {x : Ipv4Addr} :
    Ipv4Addr.fromStr s = some x ↔ s = x.display := by
  constructor
  · intro h
    rw [fromStr] at h
    split_ifs at h
    rw [parseWith] at h
    split at h
    · rename_i hread
      obtain rfl := Option.some.inj h
      rw [← String.toList_inj, readIpv4Addr_eq_some hread, List.append_nil]
    · cases h
  · rintro rfl
    exact fromStr_display x

/-- A dotted quad has digits and points only. -/
theorem Ipv4Addr.mem_display {x : Ipv4Addr} {c : Char} (hc : c ∈ x.display.toList) :
    c.isDigit = true ∨ c = '.' := by
  simp only [toList_display, List.mem_append, List.mem_cons] at hc
  rcases hc with hc | hc | hc | hc | hc | hc | hc <;>
    first | exact .inr hc | exact .inl (isDigit_of_mem_decimal hc)

theorem Ipv4Addr.not_mem_display {x : Ipv4Addr} {c : Char} (hc : c.isDigit = false)
    (hdot : c ≠ '.') : c ∉ x.display.toList := by
  intro hmem
  rcases mem_display hmem with h | h
  · rw [hc] at h
    exact Bool.false_ne_true h
  · exact hdot h

/-- **The text of an address and a port** parses as that socket address. -/
theorem SocketAddr.fromStr_display_v4 (ip : Ipv4Addr) (port : UInt16) :
    SocketAddr.fromStr (ip.display ++ ":" ++ decimal port.toNat) = some (.v4 ⟨ip, port⟩) := by
  have hcolon : ∀ c ∈ (':' :: Nat.toDigits 10 port.toNat).head?, c.isDigit = false := by
    rintro c hc
    obtain rfl : ':' = c := Option.some.inj hc
    rfl
  have hport : readNumber 10 0xffff none true (Nat.toDigits 10 port.toNat)
      = some (port.toNat, []) := by
    have hlt := port.toNat_lt
    have h : readNumber 10 0xffff none true (Nat.toDigits 10 port.toNat ++ [])
        = some (port.toNat, []) :=
      readNumber_toDigits (by decide) (by decide) (by omega) (by simp) (Or.inl rfl) (by simp)
    rwa [List.append_nil] at h
  have hread : readSocketAddrV4 (ip.display ++ ":" ++ decimal port.toNat).toList
      = some (⟨ip, port⟩, []) := by
    simp [readSocketAddrV4, readPort, readGivenChar, readIpv4Addr_display ip hcolon, hport]
  rw [SocketAddr.fromStr, parseWith, hread]
  rfl

end Net
