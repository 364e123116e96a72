/-
JSON texts with blanks behind commas and colons can be read.

In what `json.dumps` writes, a quotation mark within a string stands behind a backslash, so a reader
that is in a string is in it still behind every character of it; and constants and numbers have
neither blanks nor brackets in them.

With that the library on spaced texts applies: blanks are left out where the reader is not in a
string, and what is left is a text without blanks, which is read as before.
-/
import SelfHealing.Fingerprints
import SelfHealing.Proofs.JsonTexts

namespace SelfHealing

open Canonical

/-! ### Within strings -/

/-- A part of a text that a reader in a string passes, and is in the string still. -/
structure Passed (part : List Char) : Prop where
  run : ∀ depth, Scan.run ⟨.inside, depth⟩ part = some ⟨.inside, depth⟩
  squeezed : ∀ rest, squeeze .inside (part ++ rest) = part ++ squeeze .inside rest

theorem passed_nil : Passed [] := ⟨fun _ => rfl, fun _ => rfl⟩

theorem Passed.append {part part' : List Char} (h : Passed part) (h' : Passed part') :
    Passed (part ++ part') := by
  refine ⟨?_, ?_⟩
  · intro depth
    rw [run_append, h.run]
    exact h'.run depth
  · intro rest
    rw [List.append_assoc, h.squeezed, h'.squeezed, List.append_assoc]

theorem passed_char {c : Char} (hquote : c ≠ quote) (hback : c ≠ backslash) : Passed [c] := by
  have hnext : Place.inside.next c = .inside := (if_neg hquote).trans (if_neg hback)
  refine ⟨?_, ?_⟩
  · intro depth
    simp only [Scan.run, Scan.step, hnext, Option.bind_some]
  · intro rest
    rw [List.singleton_append, squeeze, if_neg fun h => Place.noConfusion h.1, hnext]
    rfl

/-- What is escaped is passed, whatever it is. -/
theorem passed_escape {d : Char} (hd : d ∈ escapable) : Passed [backslash, d] := by
  have hnext : Place.inside.next backslash = .escaped := rfl
  refine ⟨?_, ?_⟩
  · intro depth
    simp only [Scan.run, Scan.step, hnext, Option.bind_some, if_pos hd]
  · intro rest
    rw [List.cons_append, List.singleton_append, squeeze, if_neg fun h => Place.noConfusion h.1,
      hnext, squeeze, if_neg fun h => Place.noConfusion h.1]
    rfl

theorem passed_chars {part : List Char} (h : ∀ c ∈ part, c ≠ quote ∧ c ≠ backslash) :
    Passed part := by
  induction part with
  | nil => exact passed_nil
  | cons c part ih =>
      obtain ⟨hc, hpart⟩ := List.forall_mem_cons.mp h
      exact (passed_char hc.1 hc.2).append (ih hpart)

/-! ### Escapes -/

theorem hexDigit_apart : ∀ n < 16, n.digitChar ≠ quote ∧ n.digitChar ≠ backslash := by decide

theorem toDigits_apart {n : Nat} : ∀ c ∈ Nat.toDigits 16 n, c ≠ quote ∧ c ≠ backslash := by
  induction n using Nat.strong_induction_on with
  | _ n ih =>
      by_cases hn : n < 16
      · rw [Nat.toDigits_of_lt_base hn]
        exact List.forall_mem_singleton.mpr (hexDigit_apart n hn)
      · rw [toDigits_sixteen_succ (by omega)]
        intro c hc
        rcases List.mem_append.mp hc with hc | hc
        · exact ih (n / 16) (by omega) c hc
        · rw [List.mem_singleton.mp hc]
          exact hexDigit_apart _ (Nat.mod_lt n (by decide))

/-- A unit of four digits. -/
theorem passed_unit (n : Nat) : Passed ([Char.ofNat 92, 'u'] ++ hexDigits4 n) := by
  have hzeros : Passed (List.replicate (4 - (Nat.toDigits 16 n).length) '0') := by
    refine passed_chars fun c hc => ?_
    rw [List.eq_of_mem_replicate hc]
    decide
  exact (passed_escape (by decide)).append (hzeros.append (passed_chars toDigits_apart))

theorem lookup_escapable {d : Char} {n : Nat} (h : shortEscapes.lookup d = some n) :
    d ∈ escapable := by
  by_contra hd
  have hnone : shortEscapes.lookup d = none := by
    simp only [escapable, quote, backslash, List.mem_cons, not_or] at hd
    simp only [shortEscapes, List.lookup_eq_none_iff, List.forall_mem_cons, bne_iff_ne]
    tauto
  rw [h] at hnone
  cases hnone

/-- Every character of a string is passed as it is written. -/
theorem passed_jsonChar (c : Char) : Passed (jsonChar c) := by
  by_cases hshort : c.toNat ∈ shortCodes
  · obtain ⟨d, hd, -, hlookup⟩ := jsonChar_short hshort
    rw [hd]
    exact passed_escape (lookup_escapable hlookup)
  have hlong := jsonChar_long hshort
  by_cases hplain : 32 ≤ c.toNat ∧ c.toNat < 127
  · rw [if_pos hplain] at hlong
    rw [hlong]
    refine passed_char ?_ ?_ <;> rintro rfl <;> exact hshort (by decide)
  rw [if_neg hplain] at hlong
  by_cases hunit : c.toNat < 65536
  · rw [if_pos hunit] at hlong
    rw [hlong]
    exact passed_unit c.toNat
  · rw [if_neg hunit] at hlong
    rw [hlong]
    exact (passed_unit _).append (passed_unit _)

theorem passed_escaped (cs : List Char) : Passed (cs.flatMap jsonChar) := by
  induction cs with
  | nil => exact passed_nil
  | cons c cs ih =>
      rw [List.flatMap_cons]
      exact (passed_jsonChar c).append ih

/-! ### Strings, constants and numbers -/

theorem jsonText_toList (s : String) :
    (jsonText s).toList = quote :: (s.toList.flatMap jsonChar ++ [quote]) := by
  simp only [jsonText, String.toList_append, String.toList_ofList]
  rfl

theorem balanced_jsonText (s : String) : Canonical.Balanced (jsonText s).toList := by
  have hopen : Scan.step ⟨.outside, 0⟩ quote = some ⟨.inside, 0⟩ := by decide
  have hclose : Scan.run ⟨.inside, 0⟩ [quote] = some ⟨.outside, 0⟩ := by decide
  unfold Canonical.Balanced
  rw [jsonText_toList, Scan.run, hopen, Option.bind_some, run_append,
    (passed_escaped s.toList).run 0]
  exact hclose

theorem kept_jsonText (s : String) : Kept (jsonText s).toList := by
  intro rest
  have hopen : ∀ rest, squeeze .outside (quote :: rest) = quote :: squeeze .inside rest := by
    intro rest
    rw [squeeze, if_neg (by decide)]
    rfl
  have hclose : ∀ rest, squeeze .inside (quote :: rest) = quote :: squeeze .outside rest := by
    intro rest
    rw [squeeze, if_neg (by decide)]
    rfl
  rw [jsonText_toList]
  simp only [List.cons_append, List.append_assoc, List.nil_append]
  rw [hopen, (passed_escaped s.toList).squeezed, hclose]

theorem wordChar_plain {c : Char} (h : wordChar c = true) :
    plain c = true ∧ c ≠ ' ' ∧ c ≠ quote := by
  have happart : ∀ d ∈ ['{', '[', '}', ']', quote, backslash, ' '], c ≠ d := by
    intro d hd heq
    have hnot : ['{', '[', '}', ']', quote, backslash, ' '].all (fun d => !wordChar d) = true := by
      decide
    have hd' := List.all_eq_true.mp hnot d hd
    rw [← heq, h] at hd'
    cases hd'
  refine ⟨?_, happart _ (by decide), happart _ (by decide)⟩
  simp only [plain, Bool.not_eq_true', List.contains_eq_mem, decide_eq_false_iff_not]
  intro hc
  exact happart c (List.mem_append_left [' '] hc) rfl

theorem kept_word {text : List Char} (h : ∀ c ∈ text, wordChar c = true) : Kept text := by
  induction text with
  | nil => exact fun rest => rfl
  | cons c text ih =>
      intro rest
      obtain ⟨hc, htext⟩ := List.forall_mem_cons.mp h
      obtain ⟨-, hblank, hquote⟩ := wordChar_plain hc
      rw [List.cons_append, squeeze_cons hblank hquote, ih htext, List.cons_append]

theorem kept_dumps (a : JsonAtom) : Kept a.dumps := by
  by_cases htext : ∃ s, a = .text s
  · obtain ⟨s, rfl⟩ := htext
    exact kept_jsonText s
  · exact kept_word (dumps_word fun s hs => htext ⟨s, hs⟩).2

theorem balanced_dumps (a : JsonAtom) : Canonical.Balanced a.dumps := by
  by_cases htext : ∃ s, a = .text s
  · obtain ⟨s, rfl⟩ := htext
    exact balanced_jsonText s
  · have hword := (dumps_word fun s hs => htext ⟨s, hs⟩).2
    exact balanced_plain fun c hc => (wordChar_plain (hword c hc)).1

/-- **What `json.dumps` writes of an atom or a key** is balanced, and its blanks are in strings. -/
theorem jsonPrinter_quoted : jsonPrinter.Quoted :=
  ⟨kept_dumps, kept_jsonText, balanced_dumps, balanced_jsonText⟩

end SelfHealing
