import Mathlib.Algebra.Group.Nat.Defs
import Mathlib.Data.Nat.Notation

/-! # Account identifiers

A request names an account by a string; the `uuid` column holds its value.
Several strings denote one value, which is what the database compares.
-/

namespace BankingBackend.Postgres

/-- The 128-bit value of a `uuid` column. -/
structure Uuid where
  bits : BitVec 128
  deriving DecidableEq

namespace Uuid

def hexDigit? (character : Char) : Option ℕ :=
  if '0' ≤ character ∧ character ≤ '9' then some (character.toNat - '0'.toNat)
  else if 'a' ≤ character ∧ character ≤ 'f' then some (character.toNat - 'a'.toNat + 10)
  else if 'A' ≤ character ∧ character ≤ 'F' then some (character.toNat - 'A'.toNat + 10)
  else none

/-- A hyphen is optional after every second byte, except after the last. -/
def skipHyphen (remaining : ℕ) : List Char → List Char
  | '-' :: rest =>
      if remaining % 2 = 0 ∧ remaining ≠ 0 then rest else '-' :: rest
  | characters => characters

/-- Read `remaining` bytes of two hexadecimal digits each. -/
def readBytes : (remaining value : ℕ) → List Char → Option (ℕ × List Char)
  | 0, value, rest => some (value, rest)
  | remaining + 1, value, high :: low :: rest =>
      match hexDigit? high, hexDigit? low with
      | some highDigit, some lowDigit =>
          readBytes remaining (value * 256 + highDigit * 16 + lowDigit)
            (skipHyphen remaining rest)
      | _, _ => none
  | _ + 1, _, _ => none

/-- PostgreSQL's `uuid` input: digits in either letter case, optional hyphens,
optional surrounding braces. -/
def parse? (text : String) : Option Uuid :=
  match text.toList with
  | '{' :: rest =>
      match readBytes 16 0 rest with
      | some (value, ['}']) => some ⟨BitVec.ofNat 128 value⟩
      | _ => none
  | characters =>
      match readBytes 16 0 characters with
      | some (value, []) => some ⟨BitVec.ofNat 128 value⟩
      | _ => none

def hexDigits : List Char := "0123456789abcdef".toList

/-- The spelling in which the database returns a value. -/
def toText (id : Uuid) : String :=
  let digits := (List.range 32).map fun position =>
    hexDigits.getD (id.bits.toNat / 16 ^ (31 - position) % 16) '0'
  String.ofList (digits.take 8 ++ '-' :: (digits.drop 8).take 4 ++
    '-' :: (digits.drop 12).take 4 ++ '-' :: (digits.drop 16).take 4 ++ '-' :: digits.drop 20)

example : toText ⟨0x3f2504e04f8941d39a0c0305e82c3301⟩ =
    "3f2504e0-4f89-41d3-9a0c-0305e82c3301" := by decide +kernel

/-! ## The spelling of a value is read back -/

theorem hexDigit?_digit (value : ℕ) :
    hexDigit? (hexDigits.getD (value % 16) '0') = some (value % 16) := by
  have every : ∀ digit : Fin 16, hexDigit? (hexDigits.getD digit.val '0') = some digit.val := by
    decide
  exact every ⟨value % 16, Nat.mod_lt _ (by decide)⟩

/-- The two digits of a byte. -/
theorem readBytes_digits (remaining value low : ℕ) (rest : List Char) :
    readBytes (remaining + 1) (value / 16 ^ (low + 2))
      (hexDigits.getD (value / 16 ^ (low + 1) % 16) '0' ::
        hexDigits.getD (value / 16 ^ low % 16) '0' :: rest) =
      readBytes remaining (value / 16 ^ low) (skipHyphen remaining rest) := by
  have split : value / 16 ^ low =
      value / 16 ^ (low + 2) * 256 + value / 16 ^ (low + 1) % 16 * 16 + value / 16 ^ low % 16 := by
    rw [pow_succ, pow_succ, ← Nat.div_div_eq_div_mul, ← Nat.div_div_eq_div_mul]
    omega
  rw [readBytes, hexDigit?_digit, hexDigit?_digit]
  simp only
  rw [← split]

theorem skipHyphen_digit (remaining value : ℕ) (rest : List Char) :
    skipHyphen remaining (hexDigits.getD (value % 16) '0' :: rest) =
      hexDigits.getD (value % 16) '0' :: rest := by
  have every : ∀ digit : Fin 16, hexDigits.getD digit.val '0' ≠ '-' := by decide
  have other := every ⟨value % 16, Nat.mod_lt _ (by decide)⟩
  unfold skipHyphen
  split
  · rename_i same
    exact absurd (List.cons.inj same).1 other
  · rfl

theorem skipHyphen_hyphen {remaining : ℕ} (even : remaining % 2 = 0) (inside : remaining ≠ 0)
    (rest : List Char) : skipHyphen remaining ('-' :: rest) = rest := if_pos ⟨even, inside⟩

theorem readBytes_toText (id : Uuid) :
    readBytes 16 0 id.toText.toList = some (id.bits.toNat, []) := by
  have above : id.bits.toNat / 16 ^ 32 = 0 := Nat.div_eq_of_lt id.bits.isLt
  have below : id.bits.toNat / 16 ^ 0 = id.bits.toNat := Nat.div_one _
  unfold toText
  rw [String.toList_ofList]
  generalize id.bits.toNat = value at above below ⊢
  have digits : (List.range 32).map (fun position =>
      hexDigits.getD (value / 16 ^ (31 - position) % 16) '0') =
      [31, 30, 29, 28, 27, 26, 25, 24, 23, 22, 21, 20, 19, 18, 17, 16, 15, 14, 13, 12, 11, 10, 9, 8,
        7, 6, 5, 4, 3, 2, 1, 0].map fun place =>
          hexDigits.getD (value / 16 ^ place % 16) '0' := rfl
  rw [← above, digits]
  simp only [List.map_cons, List.map_nil, List.take_succ_cons, List.take_zero, List.drop_succ_cons,
    List.drop_zero, List.cons_append, List.nil_append]
  rw [readBytes_digits 15 value 30, skipHyphen_digit, readBytes_digits 14 value 28, skipHyphen_digit,
    readBytes_digits 13 value 26, skipHyphen_digit,
    readBytes_digits 12 value 24, skipHyphen_hyphen (by decide) (by decide),
    readBytes_digits 11 value 22, skipHyphen_digit,
    readBytes_digits 10 value 20, skipHyphen_hyphen (by decide) (by decide),
    readBytes_digits 9 value 18, skipHyphen_digit,
    readBytes_digits 8 value 16, skipHyphen_hyphen (by decide) (by decide),
    readBytes_digits 7 value 14, skipHyphen_digit,
    readBytes_digits 6 value 12, skipHyphen_hyphen (by decide) (by decide),
    readBytes_digits 5 value 10, skipHyphen_digit, readBytes_digits 4 value 8, skipHyphen_digit,
    readBytes_digits 3 value 6, skipHyphen_digit, readBytes_digits 2 value 4, skipHyphen_digit,
    readBytes_digits 1 value 2, skipHyphen_digit, readBytes_digits 0 value 0,
    below]
  rfl

theorem parse?_toText (id : Uuid) : parse? id.toText = some id := by
  have reads := readBytes_toText id
  have first : ∀ rest, id.toText.toList ≠ '{' :: rest := by
    intro rest same
    rw [same] at reads
    cases rest with
    | nil => cases reads
    | cons low rest => cases reads
  unfold parse?
  split
  · rename_i rest same
    exact absurd same (first rest)
  · rw [reads]
    exact congrArg (fun bits => some (⟨bits⟩ : Uuid)) (BitVec.ofNat_toNat ..)

theorem toText_injective : Function.Injective toText := by
  intro first second same
  have read := congrArg parse? same
  rw [parse?_toText, parse?_toText] at read
  exact Option.some.inj read

theorem toText_length (id : Uuid) : id.toText.toList.length = 36 := by
  simp [toText]

/-- The spelling does not matter. -/
example : parse? "3f2504e0-4f89-41d3-9a0c-0305e82c3301" =
    parse? "3F2504E0-4F89-41D3-9A0C-0305E82C3301" := by decide +kernel

end Uuid

/-! ## The request validator's notion of an identifier -/

def isHexDigit (character : Char) : Bool := (Uuid.hexDigit? character).isSome

/-- Whether the text has the given lengths of hexadecimal digits between
hyphens. -/
def hexGroups (text : String) (lengths : List ℕ) : Bool :=
  let groups := text.toList.splitOn '-'
  groups.map List.length == lengths && groups.all (·.all isHexDigit)

def characterAt (text : String) (position : ℕ) : Option Char := text.toList[position]?

/-- `@IsUUID()`: any version from 1 to 8 of the standard variant, or one of the
two extreme values, in any letter case. -/
def isUUID (text : String) : Bool :=
  hexGroups text [8, 4, 4, 4, 12] &&
    ((match characterAt text 14, characterAt text 19 with
      | some version, some variant =>
          ('1' ≤ version && version ≤ '8') &&
            ['8', '9', 'a', 'b', 'A', 'B'].contains variant
      | _, _ => false) ||
      text.toList.all (fun character => character == '0' || character == '-') ||
      text.toList.all (fun character => character == 'f' || character == 'F' || character == '-'))

example : isUUID "3F2504E0-4F89-41D3-9A0C-0305E82C3301" = true := by decide +kernel

end BankingBackend.Postgres
