import ShiepPipeline.Text.Str
import ShiepPipeline.Text.Utf8

/-!
# Forms

Fields in one line of text, as a browser sends them: `key=value`, joined by `&`, where a value has
the characters that would be taken for one of the separators written as `%` and two digits.

`FormCoder` says what a reader and a writer of values have to agree on. `formFields_formText` reads
a written form back, whatever is in the values. `percentCoder` is the usual coding of values.
-/

namespace Str

open Utf8

/-! ## Fields -/

/-- The characters that stand for themselves. -/
def isUnreserved (c : Char) : Bool :=
  c.isAlphanum || c = '-' || c = '_' || c = '.' || c = '~'

structure FormCoder where
  encode : String → String
  decode : String → String
  encode_empty : encode "" = ""
  decode_encode : ∀ s, decode (encode s) = s
  decode_eq_self : ∀ {s}, s.toList.all isUnreserved = true → decode s = s
  not_mem_encode : ∀ s, '&' ∉ (encode s).toList ∧ '=' ∉ (encode s).toList

/-- A field is cut at its first `=`, and is a key alone if it has none. -/
def formField (decode : String → String) (part : String) : String × String :=
  match splitOnce part '=' with
  | some (key, value) => (decode key, decode value)
  | none => (decode part, "")

/-- The fields of a form. -/
def formFields (decode : String → String) (body : String) : List (String × String) :=
  (split body '&').map (formField decode)

/-- A form with these fields, the values of which are encoded. -/
def formText (encode : String → String) (fields : List (String × String)) : String :=
  "&".intercalate (fields.map fun field ↦ field.1 ++ "=" ++ encode field.2)

theorem not_mem_of_isUnreserved {s : String} (h : s.toList.all isUnreserved = true) {c : Char}
    (hc : isUnreserved c = false) : c ∉ s.toList := by
  intro hmem
  rw [List.all_eq_true.mp h c hmem] at hc
  exact Bool.noConfusion hc

theorem formField_eq (coder : FormCoder) {key : String} (hkey : key.toList.all isUnreserved = true)
    (value : String) :
    formField coder.decode (key ++ "=" ++ coder.encode value) = (key, value) := by
  have hcut : splitOnce (key ++ "=" ++ coder.encode value) '=' = some (key, coder.encode value) :=
    splitOnce_append rfl (not_mem_of_isUnreserved hkey rfl)
  rw [formField, hcut]
  dsimp only
  rw [coder.decode_eq_self hkey, coder.decode_encode]

/-- **A form reads as it was written**, whatever is in its values. -/
theorem formFields_formText (coder : FormCoder) {fields : List (String × String)}
    (hne : fields ≠ []) (hkeys : ∀ field ∈ fields, field.1.toList.all isUnreserved = true) :
    formFields coder.decode (formText coder.encode fields) = fields := by
  have hparts : split (formText coder.encode fields) '&'
      = fields.map fun field ↦ field.1 ++ "=" ++ coder.encode field.2 := by
    refine split_intercalate rfl (fun h ↦ hne (List.map_eq_nil_iff.mp h)) fun part hpart ↦ ?_
    obtain ⟨field, hfield, rfl⟩ := List.mem_map.mp hpart
    rw [String.toList_append, String.toList_append, List.mem_append, List.mem_append]
    rintro ((hmem | hmem) | hmem)
    · exact not_mem_of_isUnreserved (hkeys field hfield) rfl hmem
    · exact absurd hmem (by decide)
    · exact (coder.not_mem_encode field.2).1 hmem
  rw [formFields, hparts, List.map_map]
  conv_rhs => rw [← List.map_id fields]
  exact List.map_congr_left fun field hfield ↦ formField_eq coder (hkeys field hfield) field.2

/-! ## Percent coding -/

/-- A digit of a byte, in upper case. -/
def upperDigit (n : ℕ) : Char := (Nat.digitChar n).toUpper

/-- The value of a digit, in either case. -/
def hexValue (c : Char) : Option ℕ := (List.range 16).find? fun n ↦ upperDigit n = c.toUpper

def percentByte (b : UInt8) : List Char :=
  if b < 0x80 ∧ isUnreserved (Char.ofNat b.toNat) = true then [Char.ofNat b.toNat]
  else ['%', upperDigit (b.toNat / 16), upperDigit (b.toNat % 16)]

def percentEncode (s : String) : String := String.ofList ((asBytes s).flatMap percentByte)

/-- The bytes of a value: a `+` is a space, and a `%` without two digits stands for itself. -/
def formBytes : List Char → List UInt8
  | [] => []
  | '+' :: cs => 0x20 :: formBytes cs
  | '%' :: a :: b :: cs =>
    match hexValue a, hexValue b with
    | some x, some y => UInt8.ofNat (16 * x + y) :: formBytes cs
    | _, _ => 0x25 :: formBytes (a :: b :: cs)
  | c :: cs => String.utf8EncodeChar c ++ formBytes cs

def formDecode (s : String) : String := decodeValid (formBytes s.toList)

theorem hexValue_upperDigit {n : ℕ} (h : n < 16) : hexValue (upperDigit n) = some n := by
  revert n
  decide

theorem formBytes_cons_of_isUnreserved {c : Char} (hc : isUnreserved c = true) (cs : List Char) :
    formBytes (c :: cs) = String.utf8EncodeChar c ++ formBytes cs := by
  have hplus : c ≠ '+' := by
    rintro rfl
    exact absurd hc (by decide)
  have hpercent : c ≠ '%' := by
    rintro rfl
    exact absurd hc (by decide)
  rw [formBytes]
  · exact hplus
  · exact fun _ _ _ h ↦ absurd h hpercent

theorem formBytes_percentByte (b : UInt8) (cs : List Char) :
    formBytes (percentByte b ++ cs) = b :: formBytes cs := by
  have hb := b.toNat_lt
  rw [percentByte]
  split_ifs with hplain
  · obtain ⟨hlt, hc⟩ := hplain
    have hsmall : b.toNat < 0x80 := UInt8.lt_iff_toNat_lt.mp hlt
    have hascii : ∀ n < 0x80, (Char.ofNat n).toNat = n := by decide
    have hnat := hascii _ hsmall
    rw [List.singleton_append, formBytes_cons_of_isUnreserved hc,
      utf8EncodeChar_of_lt (by rw [hnat]; exact hsmall), hnat, UInt8.ofNat_toNat]
    rfl
  · have hvalue : 16 * (b.toNat / 16) + b.toNat % 16 = b.toNat := by omega
    rw [List.cons_append, List.cons_append, List.cons_append, List.nil_append, formBytes,
      hexValue_upperDigit (by omega), hexValue_upperDigit (by omega)]
    dsimp only
    rw [hvalue, UInt8.ofNat_toNat]

theorem formBytes_percentEncode (s : String) : formBytes (percentEncode s).toList = asBytes s := by
  have hflat : ∀ bytes : List UInt8, formBytes (bytes.flatMap percentByte) = bytes := by
    intro bytes
    induction bytes with
    | nil => rfl
    | cons b bytes ih => rw [List.flatMap_cons, formBytes_percentByte, ih]
  rw [percentEncode, String.toList_ofList, hflat]

theorem decodeValid_asBytes (s : String) : decodeValid (asBytes s) = s := by
  have hdecode : String.fromUTF8? ⟨(asBytes s).toArray⟩ = some s := dif_pos s.isValidUTF8
  rw [decodeValid, hdecode, Option.getD_some]

theorem formDecode_eq_self {s : String} (h : s.toList.all isUnreserved = true) :
    formDecode s = s := by
  have hbytes : ∀ cs : List Char, cs.all isUnreserved = true →
      formBytes cs = cs.flatMap String.utf8EncodeChar := by
    intro cs hcs
    induction cs with
    | nil => rfl
    | cons c cs ih =>
      obtain ⟨hc, hcs⟩ := Bool.and_eq_true_iff.mp (List.all_cons ▸ hcs)
      rw [formBytes_cons_of_isUnreserved hc, ih hcs, List.flatMap_cons]
  rw [formDecode, hbytes _ h, ← asBytes_eq_flatMap, decodeValid_asBytes]

theorem mem_percentByte {b : UInt8} {c : Char} (h : c ∈ percentByte b) :
    isUnreserved c = true ∨ c = '%' := by
  have hdigit : ∀ n < 16, isUnreserved (upperDigit n) = true := by decide
  have hb := b.toNat_lt
  rw [percentByte] at h
  split_ifs at h with hplain
  · rw [List.mem_singleton.mp h]
    exact .inl hplain.2
  · simp only [List.mem_cons, List.not_mem_nil, or_false] at h
    rcases h with rfl | rfl | rfl
    · exact .inr rfl
    · exact .inl (hdigit _ (by omega))
    · exact .inl (hdigit _ (by omega))

theorem not_mem_percentEncode {c : Char} (hc : isUnreserved c = false) (hne : c ≠ '%')
    (s : String) : c ∉ (percentEncode s).toList := by
  rw [percentEncode, String.toList_ofList, List.mem_flatMap]
  rintro ⟨b, -, hmem⟩
  rcases mem_percentByte hmem with h | h
  · rw [h] at hc
    exact Bool.noConfusion hc
  · exact hne h

/-- Every byte of a value that is not unreserved is written as `%` and two digits. -/
def percentCoder : FormCoder where
  encode := percentEncode
  decode := formDecode
  encode_empty := rfl
  decode_encode s := by rw [formDecode, formBytes_percentEncode, decodeValid_asBytes]
  decode_eq_self := formDecode_eq_self
  not_mem_encode s :=
    ⟨not_mem_percentEncode rfl (by decide) s, not_mem_percentEncode rfl (by decide) s⟩

end Str
