import Mathlib.Data.Nat.Notation
import Mathlib.Data.List.Basic

/-!
# Quoted text in JSON

Text between quotation marks: the marks themselves, backslashes and control characters are written
as `\u00XX`, everything else stands for itself. Reading goes up to the closing mark and hands back
what follows it, so quoted texts can be read one after another.
-/

namespace Json

/-- The quotation mark. -/
def mark : Char := Char.ofNat 0x22

/-- The backslash. -/
def backslash : Char := Char.ofNat 0x5C

/-- What cannot stand for itself inside quotation marks. -/
def needsEscape (c : Char) : Bool := c == mark || c == backslash || decide (c.toNat < 0x20)

def escapeChar (c : Char) : List Char :=
  if needsEscape c then
    [backslash, 'u', '0', '0', Nat.digitChar (c.toNat / 16), Nat.digitChar (c.toNat % 16)]
  else [c]

/-- What follows the opening mark. -/
def closed (s : String) : List Char := s.toList.flatMap escapeChar ++ [mark]

def quote (s : String) : List Char := mark :: closed s

/-- The value of a hexadecimal digit in lower case. -/
def hexValue (c : Char) : ℕ := if c.toNat ≤ 57 then c.toNat - 48 else c.toNat - 87

/-- The text up to the closing mark, and what follows the mark. -/
def unquote : List Char → Option (List Char × List Char)
  | [] => none
  | c :: rest =>
    if c = mark then some ([], rest)
    else if c = backslash then
      match rest with
      | _ :: _ :: _ :: a :: b :: rest' =>
        (unquote rest').map fun x ↦ (Char.ofNat (hexValue a * 16 + hexValue b) :: x.1, x.2)
      | _ => none
    else (unquote rest).map fun x ↦ (c :: x.1, x.2)

theorem hexValue_digitChar {n : ℕ} (h : n < 16) : hexValue (Nat.digitChar n) = n := by
  revert n
  decide

theorem toNat_lt_of_needsEscape {c : Char} (h : needsEscape c = true) : c.toNat < 128 := by
  simp only [needsEscape, Bool.or_eq_true, beq_iff_eq, decide_eq_true_eq] at h
  rcases h with (rfl | rfl) | h
  · decide
  · decide
  · omega

theorem unquote_escapeChar_append (c : Char) (rest : List Char) :
    unquote (escapeChar c ++ rest) = (unquote rest).map fun x ↦ (c :: x.1, x.2) := by
  rw [escapeChar]
  split_ifs with h
  · have hlt := toNat_lt_of_needsEscape h
    have hc : Char.ofNat (c.toNat / 16 * 16 + c.toNat % 16) = c := by
      rw [Nat.div_add_mod', Char.ofNat_toNat]
    have hread : unquote ([backslash, 'u', '0', '0', Nat.digitChar (c.toNat / 16),
        Nat.digitChar (c.toNat % 16)] ++ rest)
          = (unquote rest).map fun x ↦ (Char.ofNat (hexValue (Nat.digitChar (c.toNat / 16)) * 16
            + hexValue (Nat.digitChar (c.toNat % 16))) :: x.1, x.2) := rfl
    rw [hread, hexValue_digitChar (by omega), hexValue_digitChar (by omega), hc]
  · simp only [needsEscape, Bool.or_eq_true, beq_iff_eq, decide_eq_true_eq, not_or] at h
    rw [List.singleton_append, unquote.eq_def]
    dsimp only
    rw [if_neg h.1.1, if_neg h.1.2]

/-- **Reading undoes quoting**, whatever follows. -/
theorem unquote_closed (s : String) (rest : List Char) :
    unquote (closed s ++ rest) = some (s.toList, rest) := by
  rw [closed]
  induction s.toList with
  | nil =>
    rw [List.flatMap_nil, List.nil_append, List.singleton_append, unquote.eq_def]
    exact if_pos rfl
  | cons c cs ih =>
    rw [List.flatMap_cons, List.append_assoc, List.append_assoc, unquote_escapeChar_append,
      ← List.append_assoc, ih]
    rfl

/-! ## Objects of two texts -/

/-- A field's key and what stands before and after it, up to the opening mark of the value. -/
def field (before key : String) : List Char :=
  before.toList ++ (quote key ++ (": ".toList ++ [mark]))

/-- An object with two text fields, laid out over lines as a pretty printer does. -/
def prettyPair (key₁ key₂ : String) (x : String × String) : String :=
  String.ofList (field "\x7b\n  " key₁ ++ (closed x.1 ++ (field ",\n  " key₂
    ++ (closed x.2 ++ "\n\x7d".toList))))

/-- What follows a given beginning. -/
def after? (start l : List Char) : Option (List Char) :=
  if start <+: l then some (l.drop start.length) else none

@[simp] theorem after?_append (start l : List Char) : after? start (start ++ l) = some l := by
  rw [after?, if_pos (List.prefix_append _ _), List.drop_left]

def readPair (key₁ key₂ : String) (text : String) : Option (String × String) := do
  let rest ← after? (field "\x7b\n  " key₁) text.toList
  let (first, rest) ← unquote rest
  let rest ← after? (field ",\n  " key₂) rest
  let (second, rest) ← unquote rest
  if rest = "\n\x7d".toList then some (String.ofList first, String.ofList second) else none

theorem readPair_prettyPair (key₁ key₂ : String) (x : String × String) :
    readPair key₁ key₂ (prettyPair key₁ key₂ x) = some x := by
  rw [readPair, prettyPair, String.toList_ofList, after?_append, Option.bind_eq_bind,
    Option.bind_some, unquote_closed]
  simp only [Option.bind_eq_bind, Option.bind_some, after?_append]
  rw [unquote_closed]
  simp only [Option.bind_some, if_true, String.ofList_toList]

end Json
