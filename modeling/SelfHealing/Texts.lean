/-
Texts.

How the interpreter prints what the messages mention, and the few things it does
with strings on the way.  Everything is on lists of characters, so that it computes.
-/
import Mathlib.Data.List.Infix
import SelfHealing.Records

namespace SelfHealing

/-- `needle in text`. -/
def textContains (needle text : String) : Bool := decide (needle.toList <:+: text.toList)

/-- `str.lower` of a character, but for letters beyond ASCII that have no ASCII letter in lower
case: those of ASCII, the Kelvin sign, and the capital I with a dot. -/
def lowerChar (c : Char) : List Char :=
  if c.isUpper then [c.toLower]
  else if c.toNat = 8490 then ['k']
  else if c.toNat = 304 then ['i', Char.ofNat 775]
  else [c]

/-- The capitals beyond ASCII: the first and the last of a range, from one to the next, and from
each to its small letter. -/
def lowerRanges : List (Nat × Nat × Nat × Int) :=
  [(192, 214, 1, 32), (216, 222, 1, 32), (256, 302, 2, 1), (306, 310, 2, 1), (313, 327, 2, 1),
   (330, 374, 2, 1), (376, 376, 1, -121), (377, 381, 2, 1), (385, 385, 1, 210), (386, 388, 2, 1),
   (390, 390, 1, 206), (391, 391, 1, 1), (393, 394, 1, 205), (395, 395, 1, 1), (398, 398, 1, 79),
   (399, 399, 1, 202), (400, 400, 1, 203), (401, 401, 1, 1), (403, 403, 1, 205),
   (404, 404, 1, 207), (406, 406, 1, 211), (407, 407, 1, 209), (408, 408, 1, 1),
   (412, 412, 1, 211), (413, 413, 1, 213), (415, 415, 1, 214), (416, 420, 2, 1),
   (422, 422, 1, 218), (423, 423, 1, 1), (425, 425, 1, 218), (428, 428, 1, 1), (430, 430, 1, 218),
   (431, 431, 1, 1), (433, 434, 1, 217), (435, 437, 2, 1), (439, 439, 1, 219), (440, 440, 1, 1),
   (444, 444, 1, 1), (452, 452, 1, 2), (453, 453, 1, 1), (455, 455, 1, 2), (456, 456, 1, 1),
   (458, 458, 1, 2), (459, 475, 2, 1), (478, 494, 2, 1), (497, 497, 1, 2), (498, 500, 2, 1),
   (502, 502, 1, -97), (503, 503, 1, -56), (504, 542, 2, 1), (544, 544, 1, -130),
   (546, 562, 2, 1), (570, 570, 1, 10795), (571, 571, 1, 1), (573, 573, 1, -163),
   (574, 574, 1, 10792), (577, 577, 1, 1), (579, 579, 1, -195), (580, 580, 1, 69),
   (581, 581, 1, 71), (582, 590, 2, 1), (880, 882, 2, 1), (886, 886, 1, 1), (895, 895, 1, 116),
   (902, 902, 1, 38), (904, 906, 1, 37), (908, 908, 1, 64), (910, 911, 1, 63), (913, 929, 1, 32),
   (931, 939, 1, 32), (975, 975, 1, 8), (984, 1006, 2, 1), (1012, 1012, 1, -60),
   (1015, 1015, 1, 1), (1017, 1017, 1, -7), (1018, 1018, 1, 1), (1021, 1023, 1, -130),
   (1024, 1039, 1, 80), (1040, 1071, 1, 32), (1120, 1152, 2, 1), (1162, 1214, 2, 1),
   (1216, 1216, 1, 15), (1217, 1229, 2, 1), (1232, 1326, 2, 1), (1329, 1366, 1, 48),
   (4256, 4293, 1, 7264), (4295, 4295, 1, 7264), (4301, 4301, 1, 7264), (5024, 5103, 1, 38864),
   (5104, 5109, 1, 8), (7312, 7354, 1, -3008), (7357, 7359, 1, -3008), (7680, 7828, 2, 1),
   (7838, 7838, 1, -7615), (7840, 7934, 2, 1), (7944, 7951, 1, -8), (7960, 7965, 1, -8),
   (7976, 7983, 1, -8), (7992, 7999, 1, -8), (8008, 8013, 1, -8), (8025, 8031, 2, -8),
   (8040, 8047, 1, -8), (8072, 8079, 1, -8), (8088, 8095, 1, -8), (8104, 8111, 1, -8),
   (8120, 8121, 1, -8), (8122, 8123, 1, -74), (8124, 8124, 1, -9), (8136, 8139, 1, -86),
   (8140, 8140, 1, -9), (8152, 8153, 1, -8), (8154, 8155, 1, -100), (8168, 8169, 1, -8),
   (8170, 8171, 1, -112), (8172, 8172, 1, -7), (8184, 8185, 1, -128), (8186, 8187, 1, -126),
   (8188, 8188, 1, -9), (8486, 8486, 1, -7517), (8490, 8490, 1, -8383), (8491, 8491, 1, -8262),
   (8498, 8498, 1, 28), (8544, 8559, 1, 16), (8579, 8579, 1, 1), (9398, 9423, 1, 26),
   (11264, 11311, 1, 48), (11360, 11360, 1, 1), (11362, 11362, 1, -10743),
   (11363, 11363, 1, -3814), (11364, 11364, 1, -10727), (11367, 11371, 2, 1),
   (11373, 11373, 1, -10780), (11374, 11374, 1, -10749), (11375, 11375, 1, -10783),
   (11376, 11376, 1, -10782), (11378, 11378, 1, 1), (11381, 11381, 1, 1),
   (11390, 11391, 1, -10815), (11392, 11490, 2, 1), (11499, 11501, 2, 1), (11506, 11506, 1, 1),
   (42560, 42604, 2, 1), (42624, 42650, 2, 1), (42786, 42798, 2, 1), (42802, 42862, 2, 1),
   (42873, 42875, 2, 1), (42877, 42877, 1, -35332), (42878, 42886, 2, 1), (42891, 42891, 1, 1),
   (42893, 42893, 1, -42280), (42896, 42898, 2, 1), (42902, 42920, 2, 1),
   (42922, 42922, 1, -42308), (42923, 42923, 1, -42319), (42924, 42924, 1, -42315),
   (42925, 42925, 1, -42305), (42926, 42926, 1, -42308), (42928, 42928, 1, -42258),
   (42929, 42929, 1, -42282), (42930, 42930, 1, -42261), (42931, 42931, 1, 928),
   (42932, 42946, 2, 1), (42948, 42948, 1, -48), (42949, 42949, 1, -42307),
   (42950, 42950, 1, -35384), (42951, 42953, 2, 1), (42960, 42960, 1, 1), (42966, 42968, 2, 1),
   (42997, 42997, 1, 1), (65313, 65338, 1, 32), (66560, 66599, 1, 40), (66736, 66771, 1, 40),
   (66928, 66938, 1, 39), (66940, 66954, 1, 39), (66956, 66962, 1, 39), (66964, 66965, 1, 39),
   (68736, 68786, 1, 64), (71840, 71871, 1, 32), (93760, 93791, 1, 32), (125184, 125217, 1, 34)]

/-- `str.lower` of a character. -/
def lowerLetter (c : Char) : List Char :=
  if c.toNat < 192 then lowerChar c
  else
    match lowerRanges.find? fun (first, last, step, _) =>
        decide (first ≤ c.toNat ∧ c.toNat ≤ last ∧ (c.toNat - first) % step = 0) with
    | some (_, _, _, shift) => [Char.ofNat (c.toNat + shift).toNat]
    | none => lowerChar c

/-- `str.lower`, but for the form that a sigma has at the end of a word. -/
def textLower (text : String) : String := String.ofList (text.toList.flatMap lowerLetter)

/-- `str.upper`, of the letters that are searched for in capitals: no text beyond ASCII has one of
those words in capitals. -/
def textUpper (text : String) : String := String.ofList (text.toList.map Char.toUpper)

/-- `str.isspace` of a character, and `\s`. -/
def isSpace (c : Char) : Bool :=
  let n := c.toNat
  decide (9 ≤ n ∧ n ≤ 13 ∨ 28 ≤ n ∧ n ≤ 32 ∨ n = 133 ∨ n = 160 ∨ n = 5760 ∨
    8192 ≤ n ∧ n ≤ 8202 ∨ n = 8232 ∨ n = 8233 ∨ n = 8239 ∨ n = 8287 ∨ n = 12288)

/-- A text without the blanks before and behind it. -/
def stripChars (blank : Char → Bool) (text : List Char) : List Char :=
  ((text.dropWhile blank).reverse.dropWhile blank).reverse

def stripSpaces (text : List Char) : List Char := stripChars isSpace text

/-- `str.strip`. -/
def textStrip (text : String) : String := String.ofList (stripSpaces text.toList)

/-- `repr` of a string of printable characters. -/
def textRepr (text : String) : String :=
  let apostrophe := Char.ofNat 39
  let quote :=
    if apostrophe ∈ text.toList ∧ Char.ofNat 34 ∉ text.toList then Char.ofNat 34 else apostrophe
  let escaped := text.toList.flatMap fun c =>
    if c = quote ∨ c = Char.ofNat 92 then [Char.ofNat 92, c] else [c]
  String.ofList (quote :: escaped ++ [quote])

/-- `repr` of a list of strings. -/
def textReprList (texts : List String) : String :=
  "[" ++ String.intercalate ", " (texts.map textRepr) ++ "]"

/-- Four hexadecimal digits. -/
def hexDigits4 (n : Nat) : List Char :=
  let digits := Nat.toDigits 16 n
  List.replicate (4 - digits.length) '0' ++ digits

/-- A character in a JSON text. -/
def jsonChar (c : Char) : List Char :=
  let escape := fun d : Char => [Char.ofNat 92, d]
  let unit := fun n => escape 'u' ++ hexDigits4 n
  let n := c.toNat
  if n = 34 ∨ n = 92 then escape c
  else if n = 8 then escape 'b'
  else if n = 9 then escape 't'
  else if n = 10 then escape 'n'
  else if n = 12 then escape 'f'
  else if n = 13 then escape 'r'
  else if 32 ≤ n ∧ n < 127 then [c]
  else if n < 65536 then unit n
  else unit (55296 + (n - 65536) / 1024) ++ unit (56320 + (n - 65536) % 1024)

/-- `json.dumps` of a string. -/
def jsonText (text : String) : String :=
  "\"" ++ String.ofList (text.toList.flatMap jsonChar) ++ "\""

/-- `json.dumps` of a list of strings. -/
def jsonTexts (texts : List String) : String :=
  "[" ++ String.intercalate ", " (texts.map jsonText) ++ "]"

/-- `json.dumps` of a dictionary of strings. -/
def jsonFields (fields : List (String × String)) : String :=
  "\x7b" ++ String.intercalate ", "
    (fields.map fun field => jsonText field.1 ++ ": " ++ jsonText field.2) ++ "\x7d"

/-! ### Numbers and identifiers -/

/-- The zeros of the scripts that have decimal digits.  Behind each of them are the other nine. -/
def decimalZeros : List Nat :=
  [48, 1632, 1776, 1984, 2406, 2534, 2662, 2790, 2918, 3046, 3174, 3302, 3430, 3558, 3664, 3792,
   3872, 4160, 4240, 6112, 6160, 6470, 6608, 6784, 6800, 6992, 7088, 7232, 7248, 42528, 43216,
   43264, 43472, 43504, 43600, 44016, 65296, 66720, 68912, 69734, 69872, 69942, 70096, 70384,
   70736, 70864, 71248, 71360, 71472, 71904, 72016, 72784, 73040, 73120, 73552, 92768, 92864,
   93008, 120782, 120792, 120802, 120812, 120822, 123200, 123632, 124144, 125264, 130032]

/-- `unicodedata.decimal`. -/
def decimalOf (c : Char) : Option Nat :=
  (decimalZeros.find? fun first => decide (first ≤ c.toNat ∧ c.toNat < first + 10)).map
    fun first => c.toNat - first

/-- What `int` and `float` take a character for: blanks and digits of all scripts are those of
ASCII, and what is left is no part of a number. -/
def asciiChar (c : Char) : Char :=
  if c.toNat < 127 then c
  else if isSpace c then ' '
  else
    match decimalOf c with
    | some digit => Char.ofNat (48 + digit)
    | none => '?'

/-- The characters from which `int` and `float` read a number.  Unlike `str.strip` they leave the
separators of ASCII where they are. -/
def numberChars (text : String) : List Char :=
  stripChars (fun c => decide (9 ≤ c.toNat ∧ c.toNat ≤ 13 ∨ c = ' ')) (text.toList.map asciiChar)

/-- The value of a digit. -/
def digitValue (base : Nat) (c : Char) : Option Nat :=
  let value :=
    if c.isDigit then some (c.toNat - 48)
    else if c.isLower then some (c.toNat - 87)
    else if c.isUpper then some (c.toNat - 55)
    else none
  value.filter (· < base)

/-- Digits, with single underscores between them. -/
def readNumber (base : Nat) : Nat → Bool → List Char → Option Nat
  | n, digit, [] => if digit then some n else none
  | n, digit, c :: rest =>
      if c = '_' then
        if digit then readNumber base n false rest else none
      else
        match digitValue base c with
        | some d => readNumber base (n * base + d) true rest
        | none => none

/-- What may stand before the digits of a hexadecimal number. -/
def dropHexMark (base : Nat) : List Char → List Char
  | '0' :: x :: rest =>
      if base = 16 ∧ (x = 'x' ∨ x = 'X') then
        match rest with
        | '_' :: digits => digits
        | digits => digits
      else '0' :: x :: rest
  | text => text

/-- `sys.get_int_max_str_digits`. -/
def intMaxStrDigits : Nat := 4300

/-- `int(text, base)`, for base ten and sixteen.  In base ten a number may not have too many
digits. -/
def intOfText (base : Nat) (text : String) : Option Int :=
  let chars := numberChars text
  if base = 10 ∧ intMaxStrDigits < chars.countP Char.isDigit then none
  else
    match chars with
    | '-' :: digits => (readNumber base 0 false (dropHexMark base digits)).map fun n => -(n : Int)
    | '+' :: digits => (readNumber base 0 false (dropHexMark base digits)).map Int.ofNat
    | digits => (readNumber base 0 false (dropHexMark base digits)).map Int.ofNat

/-- `text.replace(old, "")`, of a text that is not empty. -/
def textRemove (old : List Char) : Nat → List Char → List Char
  | 0, text => text
  | fuel + 1, text =>
      match text with
      | [] => []
      | c :: rest =>
          if old.isPrefixOf (c :: rest) then textRemove old fuel ((c :: rest).drop old.length)
          else c :: textRemove old fuel rest

/-- `UUID(text)`: 32 hexadecimal digits, in braces, with hyphens and marked as a URN if need
be. -/
def uuidOfText (text : String) : Option Nat :=
  let chars := text.toList
  let chars := textRemove "urn:".toList chars.length chars
  let chars := textRemove "uuid:".toList chars.length chars
  let brace := fun c => decide (c = Char.ofNat 123 ∨ c = Char.ofNat 125)
  let chars := ((chars.dropWhile brace).reverse.dropWhile brace).reverse
  let chars := chars.filter (· ≠ '-')
  if chars.length = 32 then (intOfText 16 (String.ofList chars)).map Int.toNat else none

/-- `str` of an identifier. -/
def uuidText (id : Nat) : String :=
  let digits := Nat.toDigits 16 id
  let chars := List.replicate (32 - digits.length) '0' ++ digits
  let part := fun first width => String.ofList ((chars.drop first).take width)
  part 0 8 ++ "-" ++ part 8 4 ++ "-" ++ part 12 4 ++ "-" ++ part 16 4 ++ "-" ++ part 20 12

/-! ### Times -/

/-- The digits of a number, padded with zeros. -/
def padded (width n : Nat) : String :=
  let digits := (Nat.repr n).toList
  String.ofList (List.replicate (width - digits.length) '0' ++ digits)

/-- Year, month and day of a day counted from the epoch. -/
def civilOfDays (days : Int) : Int × Nat × Nat :=
  let z := days + 719468
  let era := z / 146097
  let doe := (z % 146097).toNat
  let yoe := (doe - doe / 1460 + doe / 36524 - doe / 146096) / 365
  let doy := doe - (365 * yoe + yoe / 4 - yoe / 100)
  let mp := (5 * doy + 2) / 153
  let day := doy - (153 * mp + 2) / 5 + 1
  let month := if mp < 10 then mp + 3 else mp - 9
  let year := (yoe : Int) + era * 400
  (if month ≤ 2 then year + 1 else year, month, day)

/-- The day counted from the epoch of a year, a month and a day. -/
def daysOfCivil (year : Int) (month day : Nat) : Int :=
  let y := if month ≤ 2 then year - 1 else year
  let era := y / 400
  let yoe := (y % 400).toNat
  let mp := if month > 2 then month - 3 else month + 9
  let doy := (153 * mp + 2) / 5 + day - 1
  let doe := yoe * 365 + yoe / 4 - yoe / 100 + doy
  era * 146097 + doe - 719468

/-- `isoformat` of a time in UTC. -/
def isoformat (time : Int) : String :=
  let days := time / seconds 86400
  let rest := (time % seconds 86400).toNat
  let (year, month, day) := civilOfDays days
  let secs := rest / 1000000
  let micros := rest % 1000000
  padded 4 year.toNat ++ "-" ++ padded 2 month ++ "-" ++ padded 2 day ++ "T" ++
    padded 2 (secs / 3600) ++ ":" ++ padded 2 (secs / 60 % 60) ++ ":" ++ padded 2 (secs % 60) ++
    (if micros = 0 then "" else "." ++ padded 6 micros) ++ "+00:00"

/-- Read a number of exactly `width` digits. -/
def readDigits (width : Nat) (text : List Char) : Option (Nat × List Char) :=
  let digits := text.take width
  if digits.length = width ∧ digits.all Char.isDigit then
    some (digits.foldl (fun n c => 10 * n + (c.toNat - 48)) 0, text.drop width)
  else none

/-- Read one given character. -/
def readChar (c : Char) : List Char → Option (List Char)
  | [] => none
  | d :: rest => if d = c then some rest else none

/-- Read the fraction of a second, if there is one, in microseconds; further digits are cut
off. -/
def readFraction (text : List Char) : Option (Nat × List Char) :=
  match text with
  | '.' :: rest =>
      let digits := rest.takeWhile Char.isDigit
      if digits.isEmpty then none
      else
        let six := digits.take 6 ++ List.replicate (6 - digits.length) '0'
        some (six.foldl (fun n c => 10 * n + (c.toNat - 48)) 0, rest.dropWhile Char.isDigit)
  | _ => some (0, text)

/-- Read an offset from UTC to the end, in minutes. -/
def readOffset : List Char → Option Int
  | sign :: rest => do
      let (hours, rest) ← readDigits 2 rest
      let rest ← readChar ':' rest
      let (minutes, rest) ← readDigits 2 rest
      if rest.isEmpty then
        match sign with
        | '+' => some (hours * 60 + minutes : Nat)
        | '-' => some (-((hours * 60 + minutes : Nat) : Int))
        | _ => none
      else none
  | [] => none

/-- `datetime.fromisoformat` of a timestamp in the extended format with a time and an offset.
Without an offset the result could not be compared, which raises just the same. -/
def fromIsoformat (text : String) : Option Int := do
  let (year, rest) ← readDigits 4 text.toList
  let rest ← readChar '-' rest
  let (month, rest) ← readDigits 2 rest
  let rest ← readChar '-' rest
  let (day, rest) ← readDigits 2 rest
  let rest ← readChar 'T' rest
  let (hour, rest) ← readDigits 2 rest
  let rest ← readChar ':' rest
  let (minute, rest) ← readDigits 2 rest
  let rest ← readChar ':' rest
  let (second, rest) ← readDigits 2 rest
  let (micros, rest) ← readFraction rest
  let offset ← readOffset rest
  if year = 0 ∨ civilOfDays (daysOfCivil year month day) ≠ ((year : Int), month, day) ∨
      23 < hour ∨ 59 < minute ∨ 59 < second then none
  else
    some (seconds (daysOfCivil year month day * 86400 + hour * 3600 + minute * 60 + second -
      offset * 60) + micros)

/-- `text.replace("Z", "+00:00")`. -/
def replaceZulu (text : String) : String :=
  String.ofList (text.toList.flatMap fun c => if c = 'Z' then "+00:00".toList else [c])

end SelfHealing
