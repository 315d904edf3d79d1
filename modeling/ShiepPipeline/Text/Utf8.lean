import ShiepPipeline.Text.NetAddr

/-!
# Text in bytes

`String::from_utf8` with the text of its error, and numbers as they are written to and read from the
wire: two bytes in big-endian order, and bytes in hexadecimal as the formatter prints them.
-/

namespace Utf8

open Net

/-- A byte that continues a character. -/
def isContinuation (b : UInt8) : Bool := 0x80 ≤ b && b ≤ 0xBF

/-- The second bytes that may follow a first byte of three or four. -/
def isSecond (first second : UInt8) : Bool :=
  if first = 0xE0 then 0xA0 ≤ second && second ≤ 0xBF
  else if first = 0xED then 0x80 ≤ second && second ≤ 0x9F
  else if first = 0xF0 then 0x90 ≤ second && second ≤ 0xBF
  else if first = 0xF4 then 0x80 ≤ second && second ≤ 0x8F
  else isContinuation second

/-- Where the first invalid sequence begins and how long it is. A sequence that ends too early has
no length. -/
def firstError : ℕ → List UInt8 → Option (ℕ × Option ℕ)
  | _, [] => none
  | i, b :: rest =>
    if b < 0x80 then firstError (i + 1) rest
    else if 0xC2 ≤ b ∧ b ≤ 0xDF then
      match rest with
      | [] => some (i, none)
      | c :: rest => if isContinuation c then firstError (i + 2) rest else some (i, some 1)
    else if 0xE0 ≤ b ∧ b ≤ 0xEF then
      match rest with
      | [] => some (i, none)
      | [c] => some (i, if isSecond b c then none else some 1)
      | c :: d :: rest =>
        if isSecond b c = false then some (i, some 1)
        else if isContinuation d then firstError (i + 3) rest
        else some (i, some 2)
    else if 0xF0 ≤ b ∧ b ≤ 0xF4 then
      match rest with
      | [] => some (i, none)
      | [c] => some (i, if isSecond b c then none else some 1)
      | [c, d] =>
        some (i, if isSecond b c = false then some 1 else if isContinuation d then none else some 2)
      | c :: d :: e :: rest =>
        if isSecond b c = false then some (i, some 1)
        else if isContinuation d = false then some (i, some 2)
        else if isContinuation e then firstError (i + 4) rest
        else some (i, some 3)
    else some (i, some 1)

/-- `Display` of a `Utf8Error`. -/
def errorText (bytes : List UInt8) : String :=
  match firstError 0 bytes with
  | some (i, some n) =>
    "invalid utf-8 sequence of " ++ decimal n ++ " bytes from index " ++ decimal i
  | some (i, none) => "incomplete utf-8 byte sequence from index " ++ decimal i
  | none => ""

/-- `String::from_utf8`. -/
def fromUtf8 (bytes : List UInt8) : Except String String :=
  match String.fromUTF8? ⟨bytes.toArray⟩ with
  | some s => .ok s
  | none => .error (errorText bytes)

/-- `str::as_bytes`. -/
def asBytes (s : String) : List UInt8 := s.toUTF8.data.toList

theorem asBytes_eq_flatMap (s : String) : asBytes s = s.toList.flatMap String.utf8EncodeChar := by
  have hencode : s.toByteArray = s.toList.utf8Encode := String.utf8Encode_toList.symm
  rw [asBytes, String.toUTF8_eq_toByteArray, hencode, List.utf8Encode, List.data_toByteArray]

theorem asBytes_inj {s s' : String} : asBytes s = asBytes s' ↔ s = s' := by
  rw [asBytes, asBytes, Array.toList_inj, ByteArray.ext_iff.symm, String.toUTF8_eq_toByteArray,
    String.toUTF8_eq_toByteArray, String.toByteArray_inj]

/-- The bytes are valid exactly if they are those of a text. -/
theorem fromUtf8_eq_ok_iff {bytes : List UInt8} {s : String} :
    fromUtf8 bytes = .ok s ↔ asBytes s = bytes := by
  constructor
  · intro h
    rw [fromUtf8, String.fromUTF8?] at h
    split_ifs at h with hvalid
    · obtain rfl := Except.ok.inj h
      rfl
  · rintro rfl
    have hdecode : String.fromUTF8? ⟨(asBytes s).toArray⟩ = some s := dif_pos s.isValidUTF8
    rw [fromUtf8, hdecode]

/-- An invalid sequence that is complete is not empty. -/
theorem pos_of_firstError {i j n : ℕ} {bytes : List UInt8}
    (h : firstError i bytes = some (j, some n)) : 0 < n := by
  fun_induction firstError i bytes <;> grind

theorem ne_nil_of_firstError {i : ℕ} {bytes : List UInt8} (h : firstError i bytes ≠ none) :
    bytes ≠ [] := by
  rintro rfl
  exact h rfl

/-- The text of valid bytes. -/
def decodeValid (bytes : List UInt8) : String := (String.fromUTF8? ⟨bytes.toArray⟩).getD ""

/-- `String::from_utf8_lossy`: a replacement character for each invalid sequence. -/
def fromUtf8Lossy (bytes : List UInt8) : String :=
  match _herror : firstError 0 bytes with
  | none => decodeValid bytes
  | some (i, none) => decodeValid (bytes.take i) ++ "\uFFFD"
  | some (i, some n) =>
    decodeValid (bytes.take i) ++ "\uFFFD" ++ fromUtf8Lossy (bytes.drop (i + n))
termination_by bytes.length
decreasing_by
  have hn : 0 < n := pos_of_firstError _herror
  have hbytes : 0 < bytes.length :=
    List.length_pos_of_ne_nil (ne_nil_of_firstError (_herror ▸ Option.some_ne_none _))
  rw [List.length_drop]
  omega

@[simp] theorem asBytes_append (s s' : String) : asBytes (s ++ s') = asBytes s ++ asBytes s' := by
  rw [asBytes_eq_flatMap, String.toList_append, List.flatMap_append, asBytes_eq_flatMap,
    asBytes_eq_flatMap]

theorem length_asBytes_trim_le (s : String) :
    (asBytes (Str.trim s)).length ≤ (asBytes s).length := by
  have hinfix : (Str.trim s).toList <:+: s.toList := by
    rw [Str.toList_trim]
    exact (List.rdropWhile_prefix _ _).isInfix.trans (List.dropWhile_suffix _).isInfix
  obtain ⟨front, back, hs⟩ := hinfix
  rw [asBytes_eq_flatMap, asBytes_eq_flatMap, ← hs, List.flatMap_append, List.flatMap_append,
    List.length_append, List.length_append]
  omega

/-- The bytes of a character that is not ASCII are not ASCII either. -/
theorem le_toNat_of_mem_utf8EncodeChar {c : Char} (hc : 0x80 ≤ c.toNat) {b : UInt8}
    (hb : b ∈ String.utf8EncodeChar c) : 0x80 ≤ b.toNat := by
  have hv : ¬ c.val.toNat ≤ 0x7f := by
    change 0x80 ≤ c.val.toNat at hc
    omega
  rw [String.utf8EncodeChar, if_neg hv] at hb
  split_ifs at hb
  all_goals
    simp only [List.mem_cons, List.not_mem_nil, or_false] at hb
    rcases hb with rfl | rfl | rfl | rfl <;> rw [UInt8.toNat_ofNat'] <;> omega

theorem utf8EncodeChar_of_lt {c : Char} (hc : c.toNat < 0x80) :
    String.utf8EncodeChar c = [UInt8.ofNat c.toNat] := by
  change c.val.toNat < 0x80 at hc
  rw [String.utf8EncodeChar, if_pos (by omega)]
  rfl

/-- An ASCII byte stands for its character wherever it occurs. -/
theorem mem_asBytes_iff {a : Char} (ha : a.toNat < 0x80) {s : String} :
    UInt8.ofNat a.toNat ∈ asBytes s ↔ a ∈ s.toList := by
  rw [asBytes_eq_flatMap, List.mem_flatMap]
  constructor
  · rintro ⟨c, hmem, hc⟩
    by_cases hascii : c.toNat < 0x80
    · rw [utf8EncodeChar_of_lt hascii, List.mem_singleton, ← UInt8.toNat_inj,
        UInt8.toNat_ofNat', UInt8.toNat_ofNat', Nat.mod_eq_of_lt (by omega),
        Nat.mod_eq_of_lt (by omega)] at hc
      rwa [Char.toNat_inj.mp hc]
    · have := le_toNat_of_mem_utf8EncodeChar (not_lt.mp hascii) hc
      rw [UInt8.toNat_ofNat', Nat.mod_eq_of_lt (by omega)] at this
      omega
  · intro hmem
    refine ⟨a, hmem, ?_⟩
    rw [utf8EncodeChar_of_lt ha]
    exact List.mem_singleton_self _

/-- `u16::to_be_bytes`. -/
def toBeBytes (x : UInt16) : List UInt8 := [(x >>> 8).toUInt8, x.toUInt8]

/-- `u16::from_be_bytes`. -/
def fromBeBytes (high low : UInt8) : UInt16 := (high.toUInt16 <<< 8) ||| low.toUInt16

theorem toNat_fromBeBytes (high low : UInt8) :
    (fromBeBytes high low).toNat = 256 * high.toNat + low.toNat := by
  have hhigh := high.toNat_lt
  have hlow := low.toNat_lt
  have hshift : (8 : UInt16).toNat % 16 = 8 := rfl
  rw [fromBeBytes, UInt16.toNat_or, UInt16.toNat_shiftLeft, UInt8.toNat_toUInt16,
    UInt8.toNat_toUInt16, hshift, Nat.shiftLeft_eq, Nat.mod_eq_of_lt (by omega), mul_comm,
    ← Nat.two_pow_add_eq_or_of_lt hlow]

theorem toBeBytes_eq (x : UInt16) :
    toBeBytes x = [UInt8.ofNat (x.toNat / 256), UInt8.ofNat (x.toNat % 256)] := by
  have hhigh : (x >>> 8).toUInt8 = UInt8.ofNat (x.toNat / 256) := by
    apply UInt8.toNat_inj.mp
    simp [Nat.shiftRight_eq_div_pow]
  have hlow : x.toUInt8 = UInt8.ofNat (x.toNat % 256) := by
    apply UInt8.toNat_inj.mp
    simp
  rw [toBeBytes, hhigh, hlow]

@[simp] theorem toBeBytes_fromBeBytes (high low : UInt8) :
    toBeBytes (fromBeBytes high low) = [high, low] := by
  have hhigh := high.toNat_lt
  have hlow := low.toNat_lt
  have hdiv : (256 * high.toNat + low.toNat) / 256 = high.toNat := by omega
  have hmod : (256 * high.toNat + low.toNat) % 256 = low.toNat := by omega
  rw [toBeBytes_eq, toNat_fromBeBytes, hdiv, hmod, UInt8.ofNat_toNat, UInt8.ofNat_toNat]

/-- Two bytes on the wire are read back as the number they were made from. -/
theorem exists_toBeBytes (x : UInt16) :
    ∃ high low, toBeBytes x = [high, low] ∧ fromBeBytes high low = x := by
  refine ⟨_, _, rfl, UInt16.toNat_inj.mp ?_⟩
  have hx := x.toNat_lt
  rw [toNat_fromBeBytes]
  simp [Nat.shiftRight_eq_div_pow]
  omega

theorem toBeBytes_inj {x y : UInt16} (h : toBeBytes x = toBeBytes y) : x = y := by
  obtain ⟨high, low, hx, hxback⟩ := exists_toBeBytes x
  obtain ⟨high', low', hy, hyback⟩ := exists_toBeBytes y
  rw [hx, hy] at h
  obtain ⟨rfl, hlow⟩ := List.cons.inj h
  rw [← hxback, ← hyback, (List.cons.inj hlow).1]

@[simp] theorem length_toBeBytes (x : UInt16) : (toBeBytes x).length = 2 := rfl

theorem flatMap_toBeBytes_inj {l l' : List UInt16}
    (h : l.flatMap toBeBytes = l'.flatMap toBeBytes) : l = l' := by
  induction l generalizing l' with
  | nil =>
    rcases l' with _ | ⟨x, l'⟩
    · rfl
    · exact absurd h.symm (by simp [toBeBytes])
  | cons x l ih =>
    rcases l' with _ | ⟨x', l'⟩
    · exact absurd h (by simp [toBeBytes])
    · rw [List.flatMap_cons, List.flatMap_cons] at h
      obtain ⟨hhead, htail⟩ := List.append_inj h rfl
      rw [toBeBytes_inj hhead, ih htail]

/-- The format `02x`. -/
def hexByte (b : UInt8) : String :=
  String.ofList [Nat.digitChar (b.toNat / 16), Nat.digitChar (b.toNat % 16)]

end Utf8
