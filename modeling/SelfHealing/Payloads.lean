/-
Nested data.

Values as `json.loads` makes them and as they are passed between the services: texts, numbers and
nothing at the leaves, and lists and dictionaries above them.  Floats are floats here, with `NaN`
and the infinities, since rules compare them.
-/
import SelfHealing.Lib.Canonical

namespace SelfHealing

open Canonical

/-- A value that is neither a list nor a dictionary. -/
inductive DataAtom
  | null
  | bool (b : Bool)
  | int (n : Int)
  | float (x : Float)
  | text (s : String)

/-- A value, where the keys of dictionaries are in `K`. -/
abbrev DataTree (K : Type) := Tree K DataAtom

/-- A value of JSON. -/
abbrev Data := DataTree String

/-- A dictionary, in the order in which its keys were put into it. -/
abbrev DataDict := List (String × Data)

def dataNull : Data := .atom .null

def dataText (s : String) : Data := .atom (.text s)

def dataTexts (texts : List String) : Data := .seq (texts.map dataText)

def dataFloat? (x : Option Float) : Data := .atom (x.elim .null .float)

def dataInt? (n : Option Int) : Data := .atom (n.elim .null .int)

def dataText? (s : Option String) : Data := .atom (s.elim .null .text)

def dataBool? (b : Option Bool) : Data := .atom (b.elim .null .bool)

/-- A dictionary, of which alone there is a `get`. -/
def dictOf : Data → Option DataDict
  | .map entries => some entries
  | .seq _ | .atom _ => none

/-- A text, of which alone the models make a field of type `str`. -/
def textOf : Data → Option String
  | .atom (.text s) => some s
  | .atom _ | .seq _ | .map _ => none

/-- `bool` of a value. -/
def truthy : Data → Bool
  | .atom .null => false
  | .atom (.bool b) => b
  | .atom (.int n) => decide (n ≠ 0)
  | .atom (.float x) => !(x == 0.0)
  | .atom (.text s) => decide (s ≠ "")
  | .seq items => !items.isEmpty
  | .map entries => !entries.isEmpty

namespace DataDict

/-- `dict.get`. -/
def get? (dict : DataDict) (key : String) : Option Data := dict.lookup key

/-- `dict.get` with a default. -/
def getOr (dict : DataDict) (key : String) (default : Data) : Data := (dict.get? key).getD default

/-- Every value is a text, as a field of type `dict[str, str]` asks for. -/
def allTexts (dict : DataDict) : Bool := dict.all fun entry => (textOf entry.2).isSome

end DataDict

end SelfHealing
