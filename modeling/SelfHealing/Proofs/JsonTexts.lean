/-
JSON texts can be read.

`json.dumps` escapes what a string may not contain, and writes everything else without a comma, a
bracket or a quotation mark in it.  So the text of an atom ends where such a character comes, and
an escaped string where a quotation mark comes; and a character can be told from its escape.

Reading is not an algorithm here but a property: from a text and what follows it, the text can be
told (`Readable`).  It is put together along the value, so that the printer is shown to be injective
without a parser.
-/
import SelfHealing.Json

namespace SelfHealing

open Canonical

/-! ### Digits -/

theorem toDigits_ten_injective {m n : Nat} (h : Nat.toDigits 10 m = Nat.toDigits 10 n) : m = n := by
  have h := congrArg (fun digits => Nat.ofDigitChars 10 digits 0) h
  simpa only [Nat.ofDigitChars_ten_toDigits] using h

theorem isDigit_of_mem_toDigits {n : Nat} {c : Char} (h : c ∈ Nat.toDigits 10 n) :
    c.isDigit = true :=
  Nat.isDigit_of_mem_toDigits (by decide) (by decide) h

/-- The value of a hexadecimal digit. -/
def hexValue (c : Char) : Nat := if c.toNat < 58 then c.toNat - 48 else c.toNat - 87

theorem hexValue_digitChar : ∀ n < 16, hexValue n.digitChar = n := by decide

theorem toDigits_sixteen_succ {n : Nat} (h : 16 ≤ n) :
    Nat.toDigits 16 n = Nat.toDigits 16 (n / 16) ++ [(n % 16).digitChar] :=
  Nat.toDigits_of_base_le (by decide) h

/-- The value of hexadecimal digits. -/
def hexNumber (digits : List Char) : Nat := digits.foldl (fun n c => 16 * n + hexValue c) 0

theorem hexNumber_append (digits : List Char) (c : Char) :
    hexNumber (digits ++ [c]) = 16 * hexNumber digits + hexValue c := by
  simp only [hexNumber, List.foldl_append, List.foldl_cons, List.foldl_nil]

theorem hexNumber_toDigits (n : Nat) : hexNumber (Nat.toDigits 16 n) = n := by
  induction n using Nat.strong_induction_on with
  | _ n ih =>
      by_cases hn : n < 16
      · rw [Nat.toDigits_of_lt_base hn]
        simp only [hexNumber, List.foldl_cons, List.foldl_nil, hexValue_digitChar n hn]
        omega
      · rw [toDigits_sixteen_succ (by omega), hexNumber_append, ih (n / 16) (by omega),
          hexValue_digitChar _ (Nat.mod_lt n (by decide))]
        omega

theorem hexNumber_replicate (k : Nat) (digits : List Char) :
    hexNumber (List.replicate k '0' ++ digits) = hexNumber digits := by
  induction k with
  | zero => rfl
  | succ k ih =>
      rw [List.replicate_succ, List.cons_append]
      exact ih

theorem length_toDigits_le {n k : Nat} (hk : 0 < k) (h : n < 16 ^ k) :
    (Nat.toDigits 16 n).length ≤ k :=
  (Nat.length_toDigits_le_iff (by decide) hk).mpr h

theorem length_hexDigits4 {n : Nat} (h : n < 65536) : (hexDigits4 n).length = 4 := by
  have hlen := length_toDigits_le (k := 4) (by decide) (show n < 16 ^ 4 by omega)
  simp only [hexDigits4, List.length_append, List.length_replicate]
  omega

theorem hexNumber_hexDigits4 (n : Nat) : hexNumber (hexDigits4 n) = n := by
  simp only [hexDigits4, hexNumber_replicate, hexNumber_toDigits]

/-! ### Escapes

A character is written as itself, as a short escape, as one unit of sixteen bits, or as two.  Which
of these it is shows in the first characters, and what follows can be read without looking at what
comes after it; so a text of escapes is read from the front, one character at a time.
-/

/-- What stands for a character after a backslash. -/
def shortEscapes : List (Char × Nat) :=
  [(Char.ofNat 34, 34), (Char.ofNat 92, 92), ('b', 8), ('t', 9), ('n', 10), ('f', 12), ('r', 13)]

/-- Read a unit of four digits. -/
def readUnit (text : List Char) : Nat × List Char := (hexNumber (text.take 4), text.drop 4)

/-- Read a character: itself, or an escape of it, or one of each half of it. -/
def readJsonChar : List Char → Option (Nat × List Char)
  | [] => none
  | c :: rest =>
      if c.toNat ≠ 92 then some (c.toNat, rest)
      else
        match rest with
        | [] => none
        | d :: rest =>
            if d ≠ 'u' then (shortEscapes.lookup d).map fun n => (n, rest)
            else
              let (high, rest) := readUnit rest
              if 55296 ≤ high ∧ high < 57344 then
                let (low, rest) := readUnit (rest.drop 2)
                some (65536 + (high - 55296) * 1024 + (low - 56320), rest)
              else some (high, rest)

theorem readUnit_hexDigits4 {n : Nat} (h : n < 65536) (rest : List Char) :
    readUnit (hexDigits4 n ++ rest) = (n, rest) := by
  have hlen := length_hexDigits4 h
  unfold readUnit
  rw [List.take_append_of_le_length (by omega), List.drop_append_of_le_length (by omega),
    List.take_of_length_le (by omega), List.drop_of_length_le (by omega), hexNumber_hexDigits4]
  rfl

theorem readJsonChar_escape (rest : List Char) :
    readJsonChar (Char.ofNat 92 :: 'u' :: rest) =
      if 55296 ≤ (readUnit rest).1 ∧ (readUnit rest).1 < 57344 then
        some (65536 + ((readUnit rest).1 - 55296) * 1024 +
          ((readUnit ((readUnit rest).2.drop 2)).1 - 56320),
          (readUnit ((readUnit rest).2.drop 2)).2)
      else some (readUnit rest) := by
  rfl

/-- A character of one unit. -/
theorem readJsonChar_unit {n : Nat} (h : n < 65536) (hn : ¬ (55296 ≤ n ∧ n < 57344))
    (rest : List Char) :
    readJsonChar (Char.ofNat 92 :: 'u' :: (hexDigits4 n ++ rest)) = some (n, rest) := by
  rw [readJsonChar_escape, readUnit_hexDigits4 h, if_neg hn]

/-- A character of two units. -/
theorem readJsonChar_units {m k : Nat} (hm : m < 1024) (hk : k < 1024) {text : List Char}
    (htext : text = ([Char.ofNat 92, 'u'] ++ hexDigits4 (55296 + m)) ++
      ([Char.ofNat 92, 'u'] ++ hexDigits4 (56320 + k))) (rest : List Char) :
    readJsonChar (text ++ rest) = some (65536 + m * 1024 + k, rest) := by
  have hhigh : 55296 ≤ 55296 + m ∧ 55296 + m < 57344 := by omega
  rw [htext]
  simp only [List.cons_append, List.nil_append, List.append_assoc]
  rw [readJsonChar_escape, readUnit_hexDigits4 (by omega), if_pos hhigh]
  simp only [List.drop_succ_cons, List.drop_zero]
  rw [readUnit_hexDigits4 (by omega), Nat.add_sub_cancel_left, Nat.add_sub_cancel_left]

/-- A character's code is none of a half. -/
theorem toNat_valid (c : Char) : c.toNat < 55296 ∨ 57343 < c.toNat ∧ c.toNat < 1114112 := c.valid

/-- The codes of the characters that have an escape of their own. -/
def shortCodes : List Nat := [34, 92, 8, 9, 10, 12, 13]

theorem jsonChar_short {c : Char} (h : c.toNat ∈ shortCodes) :
    ∃ d, jsonChar c = [Char.ofNat 92, d] ∧ d ≠ 'u' ∧ shortEscapes.lookup d = some c.toNat := by
  have hc : c = Char.ofNat c.toNat := (Char.ofNat_toNat c).symm
  simp only [shortCodes, List.mem_cons, List.not_mem_nil, or_false] at h
  rcases h with h | h | h | h | h | h | h
  all_goals
    rw [h] at hc
    rw [hc]
    exact ⟨_, rfl, by decide, rfl⟩

theorem jsonChar_eq (c : Char) : jsonChar c =
    if c.toNat = 34 ∨ c.toNat = 92 then [Char.ofNat 92, c]
    else if c.toNat = 8 then [Char.ofNat 92, 'b']
    else if c.toNat = 9 then [Char.ofNat 92, 't']
    else if c.toNat = 10 then [Char.ofNat 92, 'n']
    else if c.toNat = 12 then [Char.ofNat 92, 'f']
    else if c.toNat = 13 then [Char.ofNat 92, 'r']
    else if 32 ≤ c.toNat ∧ c.toNat < 127 then [c]
    else if c.toNat < 65536 then [Char.ofNat 92, 'u'] ++ hexDigits4 c.toNat
    else ([Char.ofNat 92, 'u'] ++ hexDigits4 (55296 + (c.toNat - 65536) / 1024)) ++
      ([Char.ofNat 92, 'u'] ++ hexDigits4 (56320 + (c.toNat - 65536) % 1024)) := rfl

theorem jsonChar_long {c : Char} (h : c.toNat ∉ shortCodes) : jsonChar c =
    if 32 ≤ c.toNat ∧ c.toNat < 127 then [c]
    else if c.toNat < 65536 then [Char.ofNat 92, 'u'] ++ hexDigits4 c.toNat
    else ([Char.ofNat 92, 'u'] ++ hexDigits4 (55296 + (c.toNat - 65536) / 1024)) ++
      ([Char.ofNat 92, 'u'] ++ hexDigits4 (56320 + (c.toNat - 65536) % 1024)) := by
  simp only [shortCodes, List.mem_cons, List.not_mem_nil, or_false, not_or] at h
  obtain ⟨hquote, hback, hb, ht, hn, hf, hr⟩ := h
  rw [jsonChar_eq, if_neg (by omega), if_neg hb, if_neg ht, if_neg hn, if_neg hf, if_neg hr]

/-- **A character can be told from its escape**, whatever follows. -/
theorem readJsonChar_jsonChar (c : Char) (rest : List Char) :
    readJsonChar (jsonChar c ++ rest) = some (c.toNat, rest) := by
  have hvalid := toNat_valid c
  by_cases hshort : c.toNat ∈ shortCodes
  · obtain ⟨d, hd, hu, hlookup⟩ := jsonChar_short hshort
    have hback : (Char.ofNat 92).toNat = 92 := rfl
    rw [hd]
    simp only [List.cons_append, List.nil_append, readJsonChar, hback, ne_eq, not_true_eq_false,
      if_false, hu, not_false_eq_true, if_true, hlookup, Option.map_some]
  have hlong := jsonChar_long hshort
  by_cases hplain : 32 ≤ c.toNat ∧ c.toNat < 127
  · have hback : c.toNat ≠ 92 := fun h => hshort (by rw [h]; decide)
    rw [if_pos hplain] at hlong
    rw [hlong]
    simp only [List.cons_append, List.nil_append, readJsonChar, if_pos hback]
  rw [if_neg hplain] at hlong
  by_cases hunit : c.toNat < 65536
  · rw [if_pos hunit] at hlong
    rw [hlong]
    exact readJsonChar_unit hunit (by omega) rest
  · -- The halves lie where no character does.
    rw [if_neg hunit] at hlong
    have hboth : 65536 + (c.toNat - 65536) / 1024 * 1024 + (c.toNat - 65536) % 1024 = c.toNat := by
      omega
    rw [readJsonChar_units (by omega) (by omega) hlong rest, hboth]

/-- It does not begin with a quotation mark. -/
theorem jsonChar_head (c : Char) : ∃ d text, jsonChar c = d :: text ∧ d.toNat ≠ 34 := by
  by_cases hshort : c.toNat ∈ shortCodes
  · obtain ⟨d, hd, -, -⟩ := jsonChar_short hshort
    exact ⟨Char.ofNat 92, [d], hd, by decide⟩
  have hlong := jsonChar_long hshort
  by_cases hplain : 32 ≤ c.toNat ∧ c.toNat < 127
  · rw [if_pos hplain] at hlong
    exact ⟨c, [], hlong, fun h => hshort (by rw [h]; decide)⟩
  rw [if_neg hplain] at hlong
  by_cases hunit : c.toNat < 65536
  · rw [if_pos hunit] at hlong
    exact ⟨Char.ofNat 92, _, hlong, by decide⟩
  · rw [if_neg hunit] at hlong
    exact ⟨Char.ofNat 92, _, hlong, by decide⟩

/-- Escaped characters up to a quotation mark. -/
theorem escaped_inj {cs : List Char} : ∀ {cs' rest rest' : List Char},
    cs.flatMap jsonChar ++ Char.ofNat 34 :: rest = cs'.flatMap jsonChar ++ Char.ofNat 34 :: rest' →
    cs = cs' ∧ rest = rest' := by
  have hquote : (Char.ofNat 34).toNat = 34 := rfl
  induction cs with
  | nil =>
      intro cs' rest rest' h
      cases cs' with
      | nil => simpa using h
      | cons c' cs' =>
          obtain ⟨d, text, htext, hd⟩ := jsonChar_head c'
          simp only [List.flatMap_nil, List.nil_append, List.flatMap_cons, htext, List.cons_append,
            List.cons.injEq] at h
          rw [← h.1] at hd
          exact absurd hquote hd
  | cons c cs ih =>
      intro cs' rest rest' h
      cases cs' with
      | nil =>
          obtain ⟨d, text, htext, hd⟩ := jsonChar_head c
          simp only [List.flatMap_nil, List.nil_append, List.flatMap_cons, htext, List.cons_append,
            List.cons.injEq] at h
          rw [h.1] at hd
          exact absurd hquote hd
      | cons c' cs' =>
          simp only [List.flatMap_cons, List.append_assoc] at h
          have hread := congrArg readJsonChar h
          rw [readJsonChar_jsonChar, readJsonChar_jsonChar, Option.some.injEq,
            Prod.mk.injEq] at hread
          have hc : c = c' := Char.toNat_inj.mp hread.1
          obtain ⟨hcs, hrest⟩ := ih hread.2
          exact ⟨by rw [hc, hcs], hrest⟩

/-- A string, whatever follows. -/
theorem jsonText_inj {s s' : String} {rest rest' : List Char}
    (h : (jsonText s).toList ++ rest = (jsonText s').toList ++ rest') : s = s' ∧ rest = rest' := by
  have htoList : ∀ u : String, (jsonText u).toList =
      Char.ofNat 34 :: (u.toList.flatMap jsonChar ++ [Char.ofNat 34]) := by
    intro u
    simp only [jsonText, String.toList_append, String.toList_ofList]
    rfl
  rw [htoList, htoList] at h
  simp only [List.cons_append, List.append_assoc, List.nil_append, List.cons.injEq, true_and] at h
  obtain ⟨hs, hrest⟩ := escaped_inj h
  exact ⟨String.toList_inj.mp hs, hrest⟩

theorem jsonText_head (s : String) : ∃ text, (jsonText s).toList = Char.ofNat 34 :: text := by
  refine ⟨s.toList.flatMap jsonChar ++ [Char.ofNat 34], ?_⟩
  simp only [jsonText, String.toList_append, String.toList_ofList]
  rfl

/-! ### Everything that is not a string -/

/-- The characters of numbers and constants. -/
def wordChar (c : Char) : Bool := c.isAlphanum || decide (c ∈ ['-', '+', '.'])

/-- A text of such characters, up to the end of the part. -/
theorem word_inj {word word' rest rest' : List Char} (hw : ∀ c ∈ word, wordChar c = true)
    (hw' : ∀ c ∈ word', wordChar c = true) (hrest : Ends rest) (hrest' : Ends rest')
    (h : word ++ rest = word' ++ rest') : word = word' ∧ rest = rest' := by
  have hends : ∀ {rest : List Char}, Ends rest → rest.takeWhile wordChar = [] := by
    intro rest hrest
    cases rest with
    | nil => rfl
    | cons c rest =>
        have hc : wordChar c = false := by
          rcases hrest c rfl with rfl | rfl | rfl <;> decide
        simp only [List.takeWhile_cons, hc, Bool.false_eq_true, if_false]
  have htake : ∀ {word rest : List Char}, (∀ c ∈ word, wordChar c = true) → Ends rest →
      (word ++ rest).takeWhile wordChar = word := by
    intro word rest hw hrest
    rw [List.takeWhile_append_of_pos hw, hends hrest, List.append_nil]
  have hword : word = word' := by
    rw [← htake hw hrest, h, htake hw' hrest']
  rw [hword] at h
  exact ⟨hword, List.append_cancel_left h⟩

/-- The characters of an integer. -/
def integral (c : Char) : Bool := c.isDigit || decide (c = '-')

/-- The characters of a number. -/
def numeric (c : Char) : Bool := c.isDigit || decide (c ∈ ['-', '+', '.', 'e'])

theorem intText_integral (n : Int) : ∀ c ∈ intText n, integral c = true := by
  intro c hc
  cases n with
  | ofNat n =>
      simp only [integral, isDigit_of_mem_toDigits hc, Bool.true_or]
  | negSucc n =>
      rcases List.mem_cons.mp hc with rfl | hc
      · rfl
      · simp only [integral, isDigit_of_mem_toDigits hc, Bool.true_or]

theorem intText_injective {m n : Int} (h : intText m = intText n) : m = n := by
  have hsign : ∀ k l : Nat, Nat.toDigits 10 k ≠ '-' :: Nat.toDigits 10 l := by
    intro k l heq
    have hdigit := isDigit_of_mem_toDigits (n := k) (c := '-')
      (by rw [heq]; exact List.mem_cons_self)
    exact absurd hdigit (by decide)
  cases m with
  | ofNat m =>
      cases n with
      | ofNat n => rw [toDigits_ten_injective h]
      | negSucc n => exact absurd h (hsign m (n + 1))
  | negSucc m =>
      cases n with
      | ofNat n => exact absurd h.symm (hsign n (m + 1))
      | negSucc n =>
          have hsucc := toDigits_ten_injective (List.cons.inj h).2
          rw [Nat.succ.inj hsucc]

/-- A constant or a number, and of what characters it is made. -/
theorem dumps_word {a : JsonAtom} (ha : ∀ s, a ≠ .text s) :
    a.dumps ≠ [] ∧ ∀ c ∈ a.dumps, wordChar c = true := by
  cases a with
  | null => exact ⟨by decide, List.all_eq_true.mp (by decide)⟩
  | bool b => cases b <;> exact ⟨by decide, List.all_eq_true.mp (by decide)⟩
  | int n =>
      refine ⟨?_, ?_⟩
      · cases n with
        | ofNat n => exact Nat.toDigits_ne_nil
        | negSucc n => exact List.cons_ne_nil _ _
      · intro c hc
        have hint := intText_integral n c hc
        simp only [integral, Bool.or_eq_true, decide_eq_true_eq] at hint
        rcases hint with hd | rfl
        · simp only [wordChar, Char.isAlphanum, hd, Bool.or_true, Bool.true_or]
        · rfl
  | float x =>
      have hshape := x.shape
      simp only [floatShape, Bool.and_eq_true, List.all_eq_true, List.any_eq_true] at hshape
      refine ⟨?_, ?_⟩
      · intro hnil
        obtain ⟨c, hc, -⟩ := hshape.2
        simp only [JsonAtom.dumps] at hnil
        rw [hnil] at hc
        cases hc
      · intro c hc
        have hnum := hshape.1 c hc
        simp only [Bool.or_eq_true, decide_eq_true_eq, List.mem_cons, List.not_mem_nil,
          or_false] at hnum
        rcases hnum with hd | rfl | rfl | rfl | rfl
        · simp only [wordChar, Char.isAlphanum, hd, Bool.or_true, Bool.true_or]
        all_goals rfl
  | infinity negative => cases negative <;> exact ⟨by decide, List.all_eq_true.mp (by decide)⟩
  | text s => exact absurd rfl (ha s)

theorem integral_numeric {c : Char} (h : integral c = true) : numeric c = true := by
  simp only [integral, Bool.or_eq_true, decide_eq_true_eq] at h
  rcases h with hd | rfl
  · simp only [numeric, hd, Bool.true_or]
  · rfl

theorem float_numeric (x : FiniteFloat) : ∀ c ∈ x.repr, numeric c = true := by
  have hshape := x.shape
  simp only [floatShape, Bool.and_eq_true, List.all_eq_true] at hshape
  exact hshape.1

/-- A finite float shows that it is none of the integers. -/
theorem float_not_integral (x : FiniteFloat) : ∃ c ∈ x.repr, integral c = false := by
  have hshape := x.shape
  simp only [floatShape, Bool.and_eq_true, List.any_eq_true, decide_eq_true_eq, List.mem_cons,
    List.not_mem_nil, or_false] at hshape
  obtain ⟨c, hc, hpoint⟩ := hshape.2
  refine ⟨c, hc, ?_⟩
  rcases hpoint with rfl | rfl <;> rfl

/-- A letter of a constant that no number has. -/
def JsonAtom.letter : JsonAtom → Option Char
  | .null => some 'u'
  | .bool b => if b then some 't' else some 'f'
  | .infinity _ => some 'I'
  | _ => none

theorem letter_mem {a : JsonAtom} {c : Char} (h : a.letter = some c) :
    c ∈ a.dumps ∧ numeric c = false := by
  cases a with
  | null =>
      cases h
      decide
  | bool b => cases b <;> cases h <;> decide
  | infinity negative => cases negative <;> cases h <;> decide
  | int n => cases h
  | float x => cases h
  | text s => cases h

/-- Neither a constant nor a string. -/
theorem number_numeric {a : JsonAtom} (ha : ∀ s, a ≠ .text s) (h : a.letter = none) :
    ∀ c ∈ a.dumps, numeric c = true := by
  cases a with
  | null => cases h
  | bool b => cases b <;> cases h
  | infinity negative => cases h
  | int n => exact fun c hc => integral_numeric (intText_integral n c hc)
  | float x => exact float_numeric x
  | text s => exact absurd rfl (ha s)

theorem number_injective {a b : JsonAtom} (ha : ∀ s, a ≠ .text s) (hb : ∀ s, b ≠ .text s)
    (hla : a.letter = none) (hlb : b.letter = none) (h : a.dumps = b.dumps) : a = b := by
  have hapart : ∀ (n : Int) (x : FiniteFloat), intText n ≠ x.repr := by
    intro n x heq
    obtain ⟨c, hc, hnot⟩ := float_not_integral x
    rw [← heq] at hc
    rw [intText_integral n c hc] at hnot
    cases hnot
  cases a with
  | null => cases hla
  | bool b => cases b <;> cases hla
  | infinity negative => cases hla
  | text s => exact absurd rfl (ha s)
  | int m =>
      cases b with
      | null => cases hlb
      | bool b => cases b <;> cases hlb
      | infinity negative => cases hlb
      | text s => exact absurd rfl (hb s)
      | int n => rw [intText_injective h]
      | float y => exact absurd h (hapart m y)
  | float x =>
      cases b with
      | null => cases hlb
      | bool b => cases b <;> cases hlb
      | infinity negative => cases hlb
      | text s => exact absurd rfl (hb s)
      | int n => exact absurd h.symm (hapart n x)
      | float y =>
          obtain ⟨text, hx⟩ := x
          obtain ⟨text', hy⟩ := y
          have htext : text = text' := h
          subst htext
          rfl

theorem constant_injective {a b : JsonAtom} (hla : a.letter.isSome = true)
    (hlb : b.letter.isSome = true) (h : a.dumps = b.dumps) : a = b := by
  have hconst : ∀ a : JsonAtom, a.letter.isSome = true →
      a ∈ [.null, .bool true, .bool false, .infinity true, .infinity false] := by
    intro a hl
    cases a with
    | null => decide
    | bool b => cases b <;> decide
    | infinity negative => cases negative <;> decide
    | int n => cases hl
    | float x => cases hl
    | text s => cases hl
  have hinj : ∀ a ∈ [JsonAtom.null, .bool true, .bool false, .infinity true, .infinity false],
      ∀ b ∈ [JsonAtom.null, .bool true, .bool false, .infinity true, .infinity false],
        a.dumps = b.dumps → a = b := by decide
  exact hinj a (hconst a hla) b (hconst b hlb) h

/-- No two atoms that are not strings are written alike. -/
theorem word_injective {a b : JsonAtom} (ha : ∀ s, a ≠ .text s) (hb : ∀ s, b ≠ .text s)
    (h : a.dumps = b.dumps) : a = b := by
  cases hla : a.letter with
  | none =>
      cases hlb : b.letter with
      | none => exact number_injective ha hb hla hlb h
      | some c =>
          obtain ⟨hc, hnot⟩ := letter_mem hlb
          rw [← h] at hc
          rw [number_numeric ha hla c hc] at hnot
          cases hnot
  | some c =>
      cases hlb : b.letter with
      | none =>
          obtain ⟨hc, hnot⟩ := letter_mem hla
          rw [h] at hc
          rw [number_numeric hb hlb c hc] at hnot
          cases hnot
      | some d => exact constant_injective (by rw [hla]; rfl) (by rw [hlb]; rfl) h

/-! ### The printer -/

/-- An atom begins with a quotation mark if it is a string, else with a character of a word. -/
theorem dumps_head (a : JsonAtom) : ∃ c rest, a.dumps = c :: rest ∧
    ((∃ s, a = .text s) ∧ c = Char.ofNat 34 ∨ (∀ s, a ≠ .text s) ∧ wordChar c = true) := by
  by_cases htext : ∃ s, a = .text s
  · obtain ⟨s, rfl⟩ := htext
    obtain ⟨text, hs⟩ := jsonText_head s
    exact ⟨_, text, hs, Or.inl ⟨⟨s, rfl⟩, rfl⟩⟩
  · have hword : ∀ s, a ≠ .text s := fun s h => htext ⟨s, h⟩
    obtain ⟨hne, hchars⟩ := dumps_word hword
    cases hdumps : a.dumps with
    | nil => exact absurd hdumps hne
    | cons c rest =>
        exact ⟨c, rest, rfl, Or.inr ⟨hword, hchars c (by rw [hdumps]; exact List.mem_cons_self)⟩⟩

theorem jsonPrinter_key (k : String) : jsonPrinter.key k = (jsonText k).toList := rfl

/-- **What `json.dumps` writes can be read in one way only.** -/
theorem jsonPrinter_readable : jsonPrinter.Readable where
  atom_inj := by
    intro a b rest rest' hrest hrest' h
    have h : a.dumps ++ rest = b.dumps ++ rest' := h
    obtain ⟨c, text, hc, hcase⟩ := dumps_head a
    obtain ⟨d, text', hd, hcase'⟩ := dumps_head b
    have hsame : c = d := by
      rw [hc, hd] at h
      exact (List.cons.inj h).1
    have hapart : wordChar (Char.ofNat 34) = false := by decide
    rcases hcase with ⟨⟨s, rfl⟩, hquote⟩ | ⟨hword, hchar⟩
    · rcases hcase' with ⟨⟨s', rfl⟩, -⟩ | ⟨-, hchar'⟩
      · obtain ⟨hs, hr⟩ := jsonText_inj h
        exact ⟨by rw [hs], hr⟩
      · rw [← hsame, hquote, hapart] at hchar'
        cases hchar'
    · rcases hcase' with ⟨⟨s', rfl⟩, hquote'⟩ | ⟨hword', -⟩
      · rw [hsame, hquote', hapart] at hchar
        cases hchar
      · obtain ⟨hdumps, hr⟩ :=
          word_inj (dumps_word hword).2 (dumps_word hword').2 hrest hrest' h
        exact ⟨word_injective hword hword' hdumps, hr⟩
  atom_head := by
    intro a
    obtain ⟨c, text, hc, hcase⟩ := dumps_head a
    refine ⟨c, text, hc, ?_⟩
    rcases hcase with ⟨-, rfl⟩ | ⟨-, hchar⟩
    · decide
    · refine ⟨?_, ?_, ?_⟩ <;> rintro rfl <;> exact absurd hchar (by decide)
  key_inj := by
    intro k k' rest rest' h
    rw [jsonPrinter_key, jsonPrinter_key] at h
    obtain ⟨hk, hr⟩ := jsonText_inj h
    exact ⟨hk, (List.cons.inj hr).2⟩
  key_head := by
    intro k
    obtain ⟨text, hk⟩ := jsonText_head k
    rw [jsonPrinter_key]
    exact ⟨_, text, hk, by decide⟩

/-- **Two values have one text exactly when they differ in the order of keys only.** -/
theorem jsonDumps_eq_iff {value value' : JsonValue} (h : Distinct value) :
    jsonDumps value = jsonDumps value' ↔ Reordered value value' := by
  unfold jsonDumps
  rw [String.ofList_inj]
  exact canonical_eq_iff jsonPrinter_readable h

end SelfHealing
