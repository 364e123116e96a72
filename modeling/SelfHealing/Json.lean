/-
JSON.

Values as `json.loads` makes them and as the columns of type JSONB hold them, and the text that
`json.dumps` makes of one with its keys in order.  A float is kept as the interpreter prints it,
which tells it from every other.
-/
import Mathlib.Data.String.Basic
import SelfHealing.Lib.Canonical
import SelfHealing.Texts

namespace SelfHealing

open Canonical

/-- The look of a finite float: a number with a point or an exponent. -/
def floatShape (text : List Char) : Bool :=
  text.all (fun c => c.isDigit || decide (c ∈ ['-', '+', '.', 'e'])) &&
    text.any (fun c => decide (c ∈ ['.', 'e']))

/-- A finite float, as `repr` prints it. -/
structure FiniteFloat where
  repr : List Char
  shape : floatShape repr = true
deriving DecidableEq

/-- A value that is neither a list nor a dictionary. -/
inductive JsonAtom
  | null
  | bool (b : Bool)
  | int (n : Int)
  | float (x : FiniteFloat)
  | infinity (negative : Bool)
  | text (s : String)
deriving DecidableEq

abbrev JsonValue := Tree String JsonAtom

/-- A dictionary, in the order in which its keys were put into it. -/
abbrev JsonDict := List (String × JsonValue)

def jsonNull : JsonValue := .atom .null

def jsonInt (n : Int) : JsonValue := .atom (.int n)

def jsonStr (s : String) : JsonValue := .atom (.text s)

/-- `dict.get`. -/
def JsonDict.get? (dict : JsonDict) (key : String) : Option JsonValue := dict.lookup key

/-- `repr` of an integer. -/
def intText : Int → List Char
  | .ofNat n => Nat.toDigits 10 n
  | .negSucc n => '-' :: Nat.toDigits 10 (n + 1)

def JsonAtom.dumps : JsonAtom → List Char
  | .null => "null".toList
  | .bool b => if b then "true".toList else "false".toList
  | .int n => intText n
  | .float x => x.repr
  | .infinity negative => if negative then "-Infinity".toList else "Infinity".toList
  | .text s => (jsonText s).toList

def jsonPrinter : Printer String JsonAtom where
  atom := JsonAtom.dumps
  key := fun k => (jsonText k).toList

/-- `json.dumps` with the keys sorted and nothing between the parts. -/
def jsonDumps (value : JsonValue) : String := String.ofList (jsonPrinter.canonical value)

end SelfHealing
