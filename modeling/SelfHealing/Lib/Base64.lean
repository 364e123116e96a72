/-
Bytes as text in base 64.

Three bytes make four digits, and a last group that is shorter is filled up with padding.  The
reader passes over what is no digit, and stops at the padding that ends a group.

That what is written is read back is shown group by group.  A group of four digits gives back its
three bytes by arithmetic alone, and the reader comes to the next group with nothing left over.
-/
import Mathlib.Data.List.Basic
import Mathlib.Data.Nat.Notation

namespace Base64

def alphabet : List Char :=
  "ABCDEFGHIJKLMNOPQRSTUVWXYZabcdefghijklmnopqrstuvwxyz0123456789+/".toList

def pad : Char := '='

/-- The character of a number below 64. -/
def digit (n : Nat) : Char := alphabet.getD n pad

def digitValue (c : Char) : Option Nat := alphabet.idxOf? c

/-- The text of a list of bytes. -/
def encode : List UInt8 → List Char
  | a :: b :: c :: rest =>
      digit (a.toNat / 4) :: digit (a.toNat % 4 * 16 + b.toNat / 16) ::
        digit (b.toNat % 16 * 4 + c.toNat / 64) :: digit (c.toNat % 64) :: encode rest
  | [a, b] =>
      [digit (a.toNat / 4), digit (a.toNat % 4 * 16 + b.toNat / 16), digit (b.toNat % 16 * 4), pad]
  | [a] => [digit (a.toNat / 4), digit (a.toNat % 4 * 16), pad, pad]
  | [] => []

/-- How far the reader is in a group of four, with the bits that belong to the next byte. -/
inductive Quad
  | start
  | one (left : Nat)
  | two (left : Nat) (padded : Bool)
  | three (left : Nat)

/-- Read a digit: the byte that it completes, and what follows. -/
def Quad.read (v : Nat) : Quad → Option UInt8 × Quad
  | .start => (none, .one v)
  | .one left => (some (UInt8.ofNat (left * 4 + v / 16)), .two (v % 16) false)
  | .two left _ => (some (UInt8.ofNat (left * 16 + v / 4)), .three (v % 4))
  | .three left => (some (UInt8.ofNat (left * 64 + v)), .start)

/-- The bytes of a text; nothing, if it ends within a group. -/
def decodeFrom : Quad → List Char → Option (List UInt8)
  | .start, [] => some []
  | _, [] => none
  | quad, c :: rest =>
      if c = pad then
        match quad with
        | .two _ true | .three _ => some []
        | .two left false => decodeFrom (.two left true) rest
        | _ => decodeFrom quad rest
      else match digitValue c with
        | none => decodeFrom quad rest
        | some v => (decodeFrom (quad.read v).2 rest).map fun bytes => (quad.read v).1.toList ++ bytes

def decode (text : List Char) : Option (List UInt8) := decodeFrom .start text

/-! ### Round trip

A digit is no padding and is read as its value, and four values give back the three bytes that
they were taken from; the rest is an induction over groups.
-/

set_option maxRecDepth 4096 in
theorem digitValue_digit : ∀ n < 64, digitValue (digit n) = some n := by decide

set_option maxRecDepth 4096 in
theorem digit_ne_pad : ∀ n < 64, digit n ≠ pad := by decide

set_option maxRecDepth 4096 in
theorem digit_ascii : ∀ n < 64, (digit n).toNat < 128 := by decide

theorem decodeFrom_digit {n : Nat} (h : n < 64) (quad : Quad) (rest : List Char) :
    decodeFrom quad (digit n :: rest) =
      (decodeFrom (quad.read n).2 rest).map fun bytes => (quad.read n).1.toList ++ bytes := by
  have hne := digit_ne_pad n h
  have hvalue := digitValue_digit n h
  cases quad <;> simp only [decodeFrom, if_neg hne, hvalue]

theorem decodeFrom_pad_two (left : Nat) :
    decodeFrom (.two left false) [pad, pad] = some [] := by
  simp [decodeFrom]

theorem decodeFrom_pad_three (left : Nat) : decodeFrom (.three left) [pad] = some [] := by
  simp [decodeFrom]

theorem first_byte (a : UInt8) (n : Nat) (h : n < 16) :
    UInt8.ofNat (a.toNat / 4 * 4 + (a.toNat % 4 * 16 + n) / 16) = a := by
  have hnat : a.toNat / 4 * 4 + (a.toNat % 4 * 16 + n) / 16 = a.toNat := by omega
  rw [hnat, UInt8.ofNat_toNat]

theorem second_byte (a b : UInt8) (n : Nat) (h : n < 4) :
    UInt8.ofNat ((a.toNat % 4 * 16 + b.toNat / 16) % 16 * 16 + (b.toNat % 16 * 4 + n) / 4) = b := by
  have hb := b.toNat_lt
  have hnat : (a.toNat % 4 * 16 + b.toNat / 16) % 16 * 16 + (b.toNat % 16 * 4 + n) / 4 = b.toNat := by
    omega
  rw [hnat, UInt8.ofNat_toNat]

theorem third_byte (b c : UInt8) :
    UInt8.ofNat ((b.toNat % 16 * 4 + c.toNat / 64) % 4 * 64 + c.toNat % 64) = c := by
  have hc := c.toNat_lt
  have hnat : (b.toNat % 16 * 4 + c.toNat / 64) % 4 * 64 + c.toNat % 64 = c.toNat := by omega
  rw [hnat, UInt8.ofNat_toNat]

/-- **What was written is read back.** -/
theorem decode_encode (bytes : List UInt8) : decode (encode bytes) = some bytes := by
  unfold decode
  induction bytes using encode.induct with
  | case1 a b c rest ih =>
      have ha := a.toNat_lt
      have hb := b.toNat_lt
      have hc := c.toNat_lt
      rw [encode, decodeFrom_digit (by omega), decodeFrom_digit (by omega),
        decodeFrom_digit (by omega), decodeFrom_digit (by omega)]
      simp only [Quad.read, ih, Option.map_some, Option.toList_none, Option.toList_some,
        List.nil_append, List.cons_append]
      rw [first_byte a _ (by omega), second_byte a b _ (by omega), third_byte]
  | case2 a b =>
      have ha := a.toNat_lt
      have hb := b.toNat_lt
      have hlast := second_byte a b 0 (by omega)
      rw [Nat.add_zero] at hlast
      rw [encode, decodeFrom_digit (by omega), decodeFrom_digit (by omega),
        decodeFrom_digit (by omega)]
      simp only [Quad.read, decodeFrom_pad_three, Option.map_some, Option.toList_none,
        Option.toList_some, List.nil_append, List.cons_append]
      rw [first_byte a _ (by omega), hlast]
  | case3 a =>
      have ha := a.toNat_lt
      have hlast := first_byte a 0 (by omega)
      rw [Nat.add_zero] at hlast
      rw [encode, decodeFrom_digit (by omega), decodeFrom_digit (by omega)]
      simp only [Quad.read, decodeFrom_pad_two, Option.map_some, Option.toList_none,
        Option.toList_some, List.nil_append, List.cons_append]
      rw [hlast]
  | case4 => rfl

/-- Every character of an encoded text is one of 7 bits. -/
theorem encode_ascii (bytes : List UInt8) : ∀ c ∈ encode bytes, c.toNat < 128 := by
  have hpad : pad.toNat < 128 := by decide
  induction bytes using encode.induct with
  | case1 a b c rest ih =>
      have ha := a.toNat_lt
      have hb := b.toNat_lt
      have hc := c.toNat_lt
      simp only [encode, List.forall_mem_cons]
      exact ⟨digit_ascii _ (by omega), digit_ascii _ (by omega), digit_ascii _ (by omega),
        digit_ascii _ (by omega), ih⟩
  | case2 a b =>
      have ha := a.toNat_lt
      have hb := b.toNat_lt
      simp only [encode, List.forall_mem_cons]
      exact ⟨digit_ascii _ (by omega), digit_ascii _ (by omega), digit_ascii _ (by omega), hpad,
        by simp⟩
  | case3 a =>
      have ha := a.toNat_lt
      simp only [encode, List.forall_mem_cons]
      exact ⟨digit_ascii _ (by omega), digit_ascii _ (by omega), hpad, hpad, by simp⟩
  | case4 => simp [encode]

end Base64
