import Mathlib

/-!
# Text and calendar functions of the Go standard library

The functions below agree with Go's on every string whose result is compared with ASCII text.
`toLower` and `toUpper` keep the letters outside ASCII that Go maps to letters outside ASCII.
-/

namespace GoText

open List

def isSpace (c : Char) : Bool :=
  let n := c.toNat
  (9 ≤ n && n ≤ 13) || n == 0x20 || n == 0x85 || n == 0xA0 || n == 0x1680 ||
    (0x2000 ≤ n && n ≤ 0x200A) || n == 0x2028 || n == 0x2029 || n == 0x202F || n == 0x205F || n == 0x3000

def trimSpace (s : String) : String :=
  String.ofList ((s.toList.dropWhile isSpace).reverse.dropWhile isSpace).reverse

theorem trimSpace_trimSpace (s : String) : trimSpace (trimSpace s) = trimSpace s := by
  unfold trimSpace
  rw [String.toList_ofList]
  -- what is left of the trimmed start begins with the same rune
  have hdrop : ((s.toList.dropWhile isSpace).rdropWhile isSpace).dropWhile isSpace =
      (s.toList.dropWhile isSpace).rdropWhile isSpace := by
    refine dropWhile_eq_self_iff.mpr fun hl => ?_
    have hp := rdropWhile_prefix isSpace (s.toList.dropWhile isSpace)
    rw [hp.getElem]
    exact dropWhile_eq_self_iff.mp (dropWhile_idempotent isSpace s.toList) (hl.trans_le hp.length_le)
  show String.ofList ((((s.toList.dropWhile isSpace).rdropWhile isSpace).dropWhile isSpace).rdropWhile isSpace) = _
  rw [hdrop, rdropWhile_idempotent]
  rfl

theorem trimSpace_eq_empty {s : String} : trimSpace s = "" ↔ ∀ c ∈ s.toList, isSpace c = true := by
  unfold trimSpace
  rw [String.ofList_eq_empty_iff, reverse_eq_nil_iff, dropWhile_eq_nil_iff]
  simp only [mem_reverse]
  rw [← dropWhile_eq_nil_iff, dropWhile_idempotent, dropWhile_eq_nil_iff]

theorem trimSpace_append_ne_empty {s : String} (h : trimSpace s ≠ "") (t : String) : trimSpace (s ++ t) ≠ "" := by
  intro hst
  refine h (trimSpace_eq_empty.mpr fun c hc => trimSpace_eq_empty.mp hst c ?_)
  rw [String.toList_append]
  exact mem_append_left _ hc

/-- `unicode.ToLower`, where the result is ASCII: the Kelvin sign and the dotted capital `I` are
the letters outside ASCII with an ASCII lower case. -/
def lowerRune (c : Char) : Char :=
  if c.toNat = 0x212A then 'k' else if c.toNat = 0x130 then 'i' else c.toLower

/-- `unicode.ToUpper`, where the result is ASCII: the dotless `i` and the long `s` are the letters
outside ASCII with an ASCII upper case. -/
def upperRune (c : Char) : Char :=
  if c.toNat = 0x131 then 'I' else if c.toNat = 0x17F then 'S' else c.toUpper

def toLower (s : String) : String := String.ofList (s.toList.map lowerRune)

def toUpper (s : String) : String := String.ofList (s.toList.map upperRune)

def byteLen (s : String) : ℕ := (s.toList.map Char.utf8Size).sum

def isHexDigit (c : Char) : Bool :=
  ('0' ≤ c && c ≤ '9') || ('a' ≤ c && c ≤ 'f') || ('A' ≤ c && c ≤ 'F')

/-- `hex.DecodeString`: the number of decoded bytes, or no result for malformed text. -/
def hexDecode (s : String) : Option ℕ :=
  if s.toList.all isHexDigit && s.toList.length % 2 == 0 then some (s.toList.length / 2) else none

/-- The value of a non-empty string of decimal digits. -/
def digitsValue : List Char → Option ℕ
  | [] => none
  | cs => cs.foldl (fun acc c => acc.bind fun n =>
      if '0' ≤ c && c ≤ '9' then some (10 * n + (c.toNat - 48)) else none) (some 0)

/-- `strconv.ParseInt(s, 10, 64)`: an optional sign and decimal digits, within 64 bits. -/
def parseInt (s : String) : Option ℤ :=
  let signed : Option ℤ := match s.toList with
    | '-' :: cs => (digitsValue cs).map fun n => -(n : ℤ)
    | '+' :: cs => (digitsValue cs).map fun n => (n : ℤ)
    | cs => (digitsValue cs).map fun n => (n : ℤ)
  signed.filter fun n => decide (-2 ^ 63 ≤ n ∧ n < 2 ^ 63)

/-- Drop runes from the end of the text until it takes at most `maxBytes` bytes. The argument
lists the runes from the last to the first. -/
def shrink (maxBytes : ℕ) : List Char → List Char
  | [] => []
  | c :: cs => if ((c :: cs).map Char.utf8Size).sum ≤ maxBytes then c :: cs else shrink maxBytes cs

/-! ## Calendar months -/

/-- A calendar month, the value of the layout `2006-01`. -/
structure Month where
  year : ℤ
  month : ℤ
  deriving DecidableEq, Repr

/-- `time.Unix(t, 0).UTC().Format("2006-01")`. The days are counted from the first of March of
the year `0` in eras of 400 years, so that the leap day comes last in its year. -/
def utcMonth (t : ℤ) : Month :=
  let z := t / 86400 + 719468
  let era := z / 146097
  let doe := z - era * 146097
  let yoe := (doe - doe / 1460 + doe / 36524 - doe / 146096) / 365
  let doy := doe - (365 * yoe + yoe / 4 - yoe / 100)
  let mp := (5 * doy + 2) / 153
  let m := if mp < 10 then mp + 3 else mp - 9
  ⟨yoe + era * 400 + (if m ≤ 2 then 1 else 0), m⟩

example : utcMonth 0 = ⟨1970, 1⟩ ∧ utcMonth 951782399 = ⟨2000, 2⟩ ∧ utcMonth 951868800 = ⟨2000, 3⟩ ∧
    utcMonth 253402300799 = ⟨9999, 12⟩ := by decide

end GoText
