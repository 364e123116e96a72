/-
How values are printed.

The interpreter prints a float with the fewest digits that are read back as it, and rounds it
exactly when a number of places is asked for.  Both are computed here from the fraction that the
float is.
-/
import Mathlib.Data.String.Basic
import SelfHealing.Lib.Floats
import SelfHealing.Lib.Priority
import SelfHealing.Payloads
import SelfHealing.Texts

namespace SelfHealing

open Floats Canonical Priority

/-- A finite float without its sign, as a fraction. -/
structure Fraction where
  num : Nat
  den : Nat

/-- The fraction of a mantissa and an exponent. -/
def Fraction.ofMantissa (mantissa : Nat) (exponent : Int) : Fraction :=
  ⟨mantissa * 2 ^ exponent.toNat, 2 ^ (-exponent).toNat⟩

namespace Fraction

variable (v : Fraction)

/-- The fraction in units of the `place`-th power of ten. -/
def inUnits (place : Int) : Fraction := ⟨v.num * 10 ^ (-place).toNat, v.den * 10 ^ place.toNat⟩

/-- The nearest whole number, and the even one of two. -/
def round : Nat :=
  let q := v.num / v.den
  let r := v.num % v.den
  if 2 * r < v.den then q
  else if v.den < 2 * r then q + 1
  else q + q % 2

/-- The place of the first digit. -/
def firstPlace : Int :=
  if v.den ≤ v.num then (Nat.toDigits 10 (v.num / v.den)).length - 1
  else
    match (List.range 400).find? fun j => decide (v.den ≤ v.num * 10 ^ (j + 1)) with
    | some j => -(j + 1)
    | none => 0

/-- So many digits, and the place of the last of them, if they are read back as the float. -/
def readBack (x : Float) (digits : Nat) : Option (Nat × Int) :=
  let place := v.firstPlace - digits + 1
  let unit := v.inUnits place
  let candidates := [unit.round, unit.num / unit.den, unit.num / unit.den + 1]
  (candidates.find? fun candidate =>
    (Float.ofModel (Float.Model.ofScientific candidate place) == x)).map fun candidate =>
      (candidate, place)

end Fraction

/-- The digits without the zeros at the end. -/
def stripZeros (digits : List Char) : List Char :=
  (digits.reverse.dropWhile fun c => decide (c = '0')).reverse

/-- `repr` of a positive float with these digits, of which the point is after the `point`-th. -/
def floatText (digits : List Char) (point : Int) : List Char :=
  if -4 < point ∧ point ≤ 16 then
    if point ≤ 0 then "0.".toList ++ List.replicate (-point).toNat '0' ++ digits
    else
      let whole := digits.take point.toNat
      let fraction := digits.drop point.toNat
      whole ++ List.replicate (point.toNat - whole.length) '0' ++ '.' ::
        (if fraction = [] then ['0'] else fraction)
  else
    let exponent := point - 1
    let magnitude := Nat.toDigits 10 exponent.natAbs
    digits.take 1 ++ (if digits.length = 1 then [] else '.' :: digits.drop 1) ++ 'e' ::
      (if exponent < 0 then '-' else '+') ::
      (List.replicate (2 - magnitude.length) '0' ++ magnitude)

/-- `repr` of a float. -/
def floatRepr (x : Float) : String :=
  match shape x with
  | .notANumber => "nan"
  | .infinity .positive => "inf"
  | .infinity .negative => "-inf"
  | .zero .positive => "0.0"
  | .zero .negative => "-0.0"
  | .finite sign mantissa exponent _ =>
      let v := Fraction.ofMantissa mantissa exponent
      let positive := if isNegative sign then -x else x
      let text :=
        match (List.range 17).findSome? fun n => v.readBack positive (n + 1) with
        | some (number, place) =>
            let digits := Nat.toDigits 10 number
            floatText (stripZeros digits) (digits.length + place)
        | none => []
      String.ofList (if isNegative sign then '-' :: text else text)

/-- A float with so many places after the point. -/
def floatFixed (places : Nat) (x : Float) : String :=
  let fixed := fun (negative : Bool) (v : Fraction) =>
    let digits := Nat.toDigits 10 (v.inUnits (-(places : Int))).round
    let digits := List.replicate (places + 1 - digits.length) '0' ++ digits
    let whole := digits.take (digits.length - places)
    let text := whole ++ (if places = 0 then [] else '.' :: digits.drop (digits.length - places))
    String.ofList (if negative then '-' :: text else text)
  match shape x with
  | .notANumber => "nan"
  | .infinity .positive => "inf"
  | .infinity .negative => "-inf"
  | .zero sign => fixed (isNegative sign) ⟨0, 1⟩
  | .finite sign mantissa exponent _ =>
      fixed (isNegative sign) (Fraction.ofMantissa mantissa exponent)

def DataAtom.repr : DataAtom → String
  | .null => "None"
  | .bool b => if b then "True" else "False"
  | .int n => toString n
  | .float x => floatRepr x
  | .text s => textRepr s

mutual

/-- `repr` of a value. -/
def dataRepr : Data → String
  | .atom a => a.repr
  | .seq items => "[" ++ String.intercalate ", " (dataReprItems items) ++ "]"
  | .map entries => "\x7b" ++ String.intercalate ", " (dataReprEntries entries) ++ "\x7d"

def dataReprItems : List Data → List String
  | [] => []
  | item :: rest => dataRepr item :: dataReprItems rest

def dataReprEntries : List (String × Data) → List String
  | [] => []
  | (key, value) :: rest => (textRepr key ++ ": " ++ dataRepr value) :: dataReprEntries rest

end

/-- `str` of a value. -/
def dataStr : Data → String
  | .atom (.text s) => s
  | value => dataRepr value

def DataAtom.dumps : DataAtom → String
  | .null => "null"
  | .bool b => if b then "true" else "false"
  | .int n => toString n
  | .float x =>
      match shape x with
      | .notANumber => "NaN"
      | .infinity .positive => "Infinity"
      | .infinity .negative => "-Infinity"
      | .zero _ | .finite _ _ _ _ => floatRepr x
  | .text s => jsonText s

mutual

/-- `json.dumps` of a value with its keys in order. -/
def dataDumps : Data → String
  | .atom a => a.dumps
  | .seq items => "[" ++ String.intercalate ", " (dataDumpsItems items) ++ "]"
  | .map entries =>
      let entries := sortOn Prod.fst (dataDumpsEntries entries)
      "\x7b" ++ String.intercalate ", " (entries.map fun entry => jsonText entry.1 ++ ": " ++ entry.2) ++
        "\x7d"

def dataDumpsItems : List Data → List String
  | [] => []
  | item :: rest => dataDumps item :: dataDumpsItems rest

def dataDumpsEntries : List (String × Data) → List (String × String)
  | [] => []
  | (key, value) :: rest => (key, dataDumps value) :: dataDumpsEntries rest

end

end SelfHealing
