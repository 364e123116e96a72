/-
Bytes as hexadecimal digits.

A byte is written with two digits in lower case.  A reader takes letters of either case, and passes
over spaces in front of a byte and at the end.

Digits are no spaces, so the reader takes apart what the writer has put together, byte by byte; and
as it gives back what was written, no two lists of bytes are written alike.
-/
import Mathlib.Data.List.Basic

namespace Hex

/-- The digit of a number below 16. -/
def digit (n : Nat) : Char := if n < 10 then Char.ofNat (48 + n) else Char.ofNat (87 + n)

def digitValue (c : Char) : Option Nat :=
  let n := c.toNat
  if 48 ≤ n ∧ n ≤ 57 then some (n - 48)
  else if 97 ≤ n ∧ n ≤ 102 then some (n - 87)
  else if 65 ≤ n ∧ n ≤ 70 then some (n - 55)
  else none

def isSpace (c : Char) : Bool :=
  let n := c.toNat
  decide (n = 32 ∨ 9 ≤ n ∧ n ≤ 13)

/-- The text of a list of bytes. -/
def encode : List UInt8 → List Char
  | [] => []
  | b :: rest => digit (b.toNat / 16) :: digit (b.toNat % 16) :: encode rest

/-- The bytes of a text; nothing, if it is not one of digits in pairs. -/
def decode : List Char → Option (List UInt8)
  | [] => some []
  | [c] => if isSpace c then some [] else none
  | c :: d :: rest =>
      if isSpace c then decode (d :: rest)
      else
        match digitValue c, digitValue d, decode rest with
        | some high, some low, some bytes => some (UInt8.ofNat (16 * high + low) :: bytes)
        | _, _, _ => none

/-! ### What is written is read back -/

theorem digitValue_digit : ∀ n < 16, digitValue (digit n) = some n := by decide

theorem digit_not_space : ∀ n < 16, isSpace (digit n) = false := by decide

/-- A digit is a numeral or a small letter. -/
theorem digit_bounds : ∀ n < 16, 48 ≤ (digit n).toNat ∧ (digit n).toNat ≤ 102 := by decide

theorem byte_eq (b : UInt8) : UInt8.ofNat (16 * (b.toNat / 16) + b.toNat % 16) = b := by
  rw [Nat.div_add_mod]
  exact UInt8.ofNat_toNat

theorem decode_encode (bytes : List UInt8) : decode (encode bytes) = some bytes := by
  induction bytes with
  | nil => rfl
  | cons b rest ih =>
      have hhigh : b.toNat / 16 < 16 := by
        have := b.toNat_lt
        omega
      have hlow : b.toNat % 16 < 16 := Nat.mod_lt _ (by omega)
      simp only [encode, decode, digit_not_space _ hhigh, digitValue_digit _ hhigh,
        digitValue_digit _ hlow, ih, byte_eq, Bool.false_eq_true, if_false]

theorem encode_injective {bytes bytes' : List UInt8} (h : encode bytes = encode bytes') :
    bytes = bytes' := by
  have hread := congrArg decode h
  rw [decode_encode, decode_encode] at hread
  exact Option.some.inj hread

theorem encode_bounds (bytes : List UInt8) :
    ∀ c ∈ encode bytes, 48 ≤ c.toNat ∧ c.toNat ≤ 102 := by
  induction bytes with
  | nil => exact fun c hc => absurd hc List.not_mem_nil
  | cons b rest ih =>
      have hhigh : b.toNat / 16 < 16 := by
        have := b.toNat_lt
        omega
      have hlow : b.toNat % 16 < 16 := Nat.mod_lt _ (by omega)
      intro c hc
      rcases List.mem_cons.mp hc with rfl | hc
      · exact digit_bounds _ hhigh
      · rcases List.mem_cons.mp hc with rfl | hc
        · exact digit_bounds _ hlow
        · exact ih c hc

end Hex
