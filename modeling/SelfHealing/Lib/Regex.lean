/-
Regular expressions with backtracking.

An expression is matched from a place in a text on.  What has to match after it is a continuation,
so that the next way of matching is tried when the continuation fails; the ways come in the order of
the usual engines, with the longest repetition and the first alternative in front.

`Matches` says to which places an expression may lead, without an order, and the engine finds a way
exactly if there is one (`run_isSome_iff`).
-/
import Mathlib.Data.List.Basic

namespace Regex

/-- A place in a text, with the characters before it in reverse, and what the groups have matched. -/
structure Cursor where
  before : List Char
  rest : List Char
  groups : List (Nat × List Char) := []

/-- So many characters further. -/
def Cursor.advance (n : Nat) (c : Cursor) : Cursor :=
  { c with before := (c.rest.take n).reverse ++ c.before, rest := c.rest.drop n }

/-- The group has matched what is between the place where it starts and this one. -/
def Cursor.capture (n : Nat) (c start : Cursor) : Cursor :=
  { c with groups := (n, start.rest.take (start.rest.length - c.rest.length)) :: c.groups }

/-- An expression.  Only single characters are repeated. -/
inductive Expr
  | empty
  | many (least : Nat) (most : Option Nat) (p : Char → Bool)
  | start
  | finish
  | boundary (isWord : Char → Bool)
  | seq (r s : Expr)
  | alt (r s : Expr)
  | group (n : Nat) (r : Expr)

namespace Expr

def char (p : Char → Bool) : Expr := .many 1 (some 1) p

def plus (p : Char → Bool) : Expr := .many 1 none p

def star (p : Char → Bool) : Expr := .many 0 none p

def opt (p : Char → Bool) : Expr := .many 0 (some 1) p

/-- The characters of a word, after each is folded. -/
def word (fold : Char → Char) : List Char → Expr
  | [] => .empty
  | a :: rest => .seq (char fun b => decide (fold b = a)) (word fold rest)

/-- What matches nothing. -/
def never : Expr := .many 1 (some 0) fun _ => false

/-- The first of the expressions that matches. -/
def oneOf : List Expr → Expr
  | [] => never
  | [r] => r
  | r :: rest => .alt r (oneOf rest)

/-- One after the other. -/
def inTurn : List Expr → Expr
  | [] => .empty
  | [r] => r
  | r :: rest => .seq r (inTurn rest)

end Expr

/-- How many characters a repetition may take, with the greatest number first. -/
def counts (least : Nat) (most : Option Nat) (p : Char → Bool) (text : List Char) : List Nat :=
  let available := (text.takeWhile p).length
  let limit := most.elim available (min available)
  ((List.range (limit + 1)).filter fun n => decide (least ≤ n)).reverse

/-- There is a character of a word on one side only. -/
def Cursor.atBoundary (isWord : Char → Bool) (c : Cursor) : Bool :=
  c.before.head?.any isWord != c.rest.head?.any isWord

/-- At the end, or before a line break at the end. -/
def Cursor.atEnd (c : Cursor) : Bool := decide (c.rest = [] ∨ c.rest = ['\n'])

/-- The first way to match the expression after which the continuation succeeds. -/
def Expr.run {β : Type} : Expr → Cursor → (Cursor → Option β) → Option β
  | .empty, c, k => k c
  | .many least most p, c, k => (counts least most p c.rest).findSome? fun n => k (c.advance n)
  | .start, c, k => if c.before = [] then k c else none
  | .finish, c, k => if c.atEnd then k c else none
  | .boundary isWord, c, k => if c.atBoundary isWord then k c else none
  | .seq r s, c, k => r.run c fun c' => s.run c' k
  | .alt r s, c, k => (r.run c k).or (s.run c k)
  | .group n r, c, k => r.run c fun c' => k (c'.capture n c)

/-- Where the expression matches from this place on, if it does. -/
def Expr.matchAt (r : Expr) (c : Cursor) : Option Cursor := r.run c some

/-- It matches from this place or a later one on. -/
def Expr.searchFrom (r : Expr) (before : List Char) : List Char → Bool
  | [] => (r.matchAt { before := before, rest := [] }).isSome
  | a :: rest =>
      (r.matchAt { before := before, rest := a :: rest }).isSome || r.searchFrom (a :: before) rest

/-- It matches somewhere in the text. -/
def Expr.search (r : Expr) (text : List Char) : Bool := r.searchFrom [] text

/-! ### Substitution -/

/-- A part of what is put in for a match: a text, or what a group has matched. -/
inductive Part
  | text (chars : List Char)
  | ref (n : Nat)

def Part.expand (c : Cursor) : Part → List Char
  | .text chars => chars
  | .ref n => (c.groups.lookup n).getD []

/-- The matches from this place on, one after the other, are replaced.  Nothing is matched twice: an
empty match is followed by the next character as it is. -/
def Expr.subFrom (r : Expr) (parts : List Part) : Nat → List Char → List Char → List Char
  | 0, _, rest => rest
  | fuel + 1, before, rest =>
      let copied := fun (rest : List Char) =>
        match rest with
        | [] => []
        | a :: rest => a :: r.subFrom parts fuel (a :: before) rest
      match r.matchAt { before := before, rest := rest } with
      | none => copied rest
      | some c =>
          parts.flatMap (Part.expand c) ++
            if c.rest.length < rest.length then r.subFrom parts fuel c.before c.rest
            else copied rest

/-- `re.sub`. -/
def Expr.sub (r : Expr) (parts : List Part) (text : List Char) : List Char :=
  r.subFrom parts (text.length + 1) [] text

/-! ### What is matched

The engine commits itself to the first way that works, and so it finds one if there is one; which
one it finds does not matter to a search that only tests.
-/

/-- The expression leads from the one place to the other. -/
inductive Matches : Expr → Cursor → Cursor → Prop
  | empty (c : Cursor) : Matches .empty c c
  | many {least : Nat} {most : Option Nat} {p : Char → Bool} {c : Cursor} {n : Nat}
      (h : n ∈ counts least most p c.rest) : Matches (.many least most p) c (c.advance n)
  | start {c : Cursor} (h : c.before = []) : Matches .start c c
  | finish {c : Cursor} (h : c.atEnd = true) : Matches .finish c c
  | boundary {isWord : Char → Bool} {c : Cursor} (h : c.atBoundary isWord = true) :
      Matches (.boundary isWord) c c
  | seq {r s : Expr} {c c' c'' : Cursor} (h : Matches r c c') (h' : Matches s c' c'') :
      Matches (.seq r s) c c''
  | left {r s : Expr} {c c' : Cursor} (h : Matches r c c') : Matches (.alt r s) c c'
  | right {r s : Expr} {c c' : Cursor} (h : Matches s c c') : Matches (.alt r s) c c'
  | group {n : Nat} {r : Expr} {c c' : Cursor} (h : Matches r c c') :
      Matches (.group n r) c (c'.capture n c)

section Engine

variable {β : Type} {r s : Expr} {c c' : Cursor} {k : Cursor → Option β}

/-- What stays in place matches under its condition. -/
theorem ite_isSome_iff {p : Prop} [Decidable p] :
    (if p then k c else none).isSome = true ↔ p ∧ (k c).isSome = true := by
  by_cases h : p <;> simp [h]

/-- **The engine finds a way if there is one**, and it leads to a place where the continuation
succeeds. -/
theorem run_isSome_iff (r : Expr) (c : Cursor) (k : Cursor → Option β) :
    (r.run c k).isSome = true ↔ ∃ c', Matches r c c' ∧ (k c').isSome = true := by
  induction r generalizing c k with
  | empty =>
      refine ⟨fun h => ⟨c, .empty c, h⟩, ?_⟩
      rintro ⟨c', ⟨⟩, h⟩
      exact h
  | many least most p =>
      rw [Expr.run, List.findSome?_isSome_iff]
      constructor
      · rintro ⟨n, hn, h⟩
        exact ⟨_, .many hn, h⟩
      · rintro ⟨c', hmany, h⟩
        cases hmany with
        | many hn => exact ⟨_, hn, h⟩
  | start =>
      rw [Expr.run, ite_isSome_iff]
      refine ⟨fun h => ⟨c, .start h.1, h.2⟩, ?_⟩
      rintro ⟨c', hplace, h⟩
      cases hplace with
      | start hstart => exact ⟨hstart, h⟩
  | finish =>
      rw [Expr.run, ite_isSome_iff]
      refine ⟨fun h => ⟨c, .finish h.1, h.2⟩, ?_⟩
      rintro ⟨c', hplace, h⟩
      cases hplace with
      | finish hend => exact ⟨hend, h⟩
  | boundary isWord =>
      rw [Expr.run, ite_isSome_iff]
      refine ⟨fun h => ⟨c, .boundary h.1, h.2⟩, ?_⟩
      rintro ⟨c', hplace, h⟩
      cases hplace with
      | boundary hboundary => exact ⟨hboundary, h⟩
  | seq r s ihr ihs =>
      rw [Expr.run, ihr]
      constructor
      · rintro ⟨c', hr, h⟩
        obtain ⟨c'', hs, h⟩ := (ihs c' k).mp h
        exact ⟨c'', .seq hr hs, h⟩
      · rintro ⟨c'', hseq, h⟩
        cases hseq with
        | seq hr hs => exact ⟨_, hr, (ihs _ k).mpr ⟨c'', hs, h⟩⟩
  | alt r s ihr ihs =>
      rw [Expr.run, Option.isSome_or, Bool.or_eq_true, ihr, ihs]
      constructor
      · rintro (⟨c', hr, h⟩ | ⟨c', hs, h⟩)
        · exact ⟨c', .left hr, h⟩
        · exact ⟨c', .right hs, h⟩
      · rintro ⟨c', halt, h⟩
        cases halt with
        | left hr => exact Or.inl ⟨c', hr, h⟩
        | right hs => exact Or.inr ⟨c', hs, h⟩
  | group n r ih =>
      rw [Expr.run, ih]
      constructor
      · rintro ⟨c', hr, h⟩
        exact ⟨_, .group hr, h⟩
      · rintro ⟨c', hgroup, h⟩
        cases hgroup with
        | group hr => exact ⟨_, hr, h⟩

theorem matchAt_isSome_iff : (r.matchAt c).isSome = true ↔ ∃ c', Matches r c c' := by
  unfold Expr.matchAt
  rw [run_isSome_iff]
  simp

theorem searchFrom_iff {before text : List Char} :
    r.searchFrom before text = true ↔
      ∃ pre post, text = pre ++ post ∧
        ∃ c', Matches r { before := pre.reverse ++ before, rest := post } c' := by
  induction text generalizing before with
  | nil =>
      rw [Expr.searchFrom, matchAt_isSome_iff]
      constructor
      · rintro ⟨c', h⟩
        exact ⟨[], [], rfl, c', h⟩
      · rintro ⟨pre, post, heq, c', h⟩
        obtain ⟨rfl, rfl⟩ := List.nil_eq_append_iff.mp heq
        exact ⟨c', h⟩
  | cons a rest ih =>
      rw [Expr.searchFrom, Bool.or_eq_true, matchAt_isSome_iff, ih]
      constructor
      · rintro (⟨c', h⟩ | ⟨pre, post, rfl, c', h⟩)
        · exact ⟨[], a :: rest, rfl, c', h⟩
        · refine ⟨a :: pre, post, rfl, c', ?_⟩
          rw [List.reverse_cons, List.append_assoc]
          exact h
      · rintro ⟨pre, post, heq, c', h⟩
        cases pre with
        | nil =>
            rw [List.nil_append] at heq
            subst heq
            exact Or.inl ⟨c', h⟩
        | cons b pre =>
            rw [List.cons_append, List.cons.injEq] at heq
            obtain ⟨rfl, rfl⟩ := heq
            rw [List.reverse_cons, List.append_assoc] at h
            exact Or.inr ⟨pre, post, rfl, c', h⟩

end Engine

/-! ### Words -/

section Words

variable {fold : Char → Char} {c c' : Cursor}

theorem advance_advance (m n : Nat) : (c.advance m).advance n = c.advance (m + n) := by
  unfold Cursor.advance
  simp [List.take_add, List.append_assoc]

theorem matches_char_iff {p : Char → Bool} :
    Matches (.char p) c c' ↔ (∃ a ∈ c.rest.head?, p a = true) ∧ c' = c.advance 1 := by
  have hcounts : ∀ n, n ∈ counts 1 (some 1) p c.rest ↔ n = 1 ∧ ∃ a ∈ c.rest.head?, p a = true := by
    intro n
    unfold counts
    cases c.rest with
    | nil => simp
    | cons a rest =>
        by_cases h : p a = true
        · simp [h]
          omega
        · simp [h]
  constructor
  · intro h
    cases h with
    | many hn =>
        obtain ⟨rfl, h⟩ := (hcounts _).mp hn
        exact ⟨h, rfl⟩
  · rintro ⟨h, rfl⟩
    exact .many ((hcounts 1).mpr ⟨rfl, h⟩)

/-- A word matches where the text begins with it after folding. -/
theorem matches_word_iff (chars : List Char) (c c' : Cursor) :
    Matches (.word fold chars) c c' ↔
      (∃ pre post, c.rest = pre ++ post ∧ pre.map fold = chars) ∧ c' = c.advance chars.length := by
  induction chars generalizing c with
  | nil =>
      constructor
      · intro h
        cases h
        exact ⟨⟨[], c'.rest, rfl, rfl⟩, by simp [Cursor.advance]⟩
      · rintro ⟨-, rfl⟩
        have hstay : c.advance 0 = c := by simp [Cursor.advance]
        rw [List.length_nil, hstay]
        exact .empty c
  | cons a rest ih =>
      constructor
      · intro h
        cases h with
        | seq hchar hword =>
            obtain ⟨⟨b, hb, hfold⟩, rfl⟩ := matches_char_iff.mp hchar
            obtain ⟨⟨pre, post, hrest, hpre⟩, rfl⟩ := (ih _).mp hword
            refine ⟨⟨b :: pre, post, ?_, ?_⟩, by
              rw [advance_advance, List.length_cons, Nat.add_comm]⟩
            · obtain ⟨tail, htail⟩ := List.head?_eq_some_iff.mp hb
              rw [htail, List.cons_append, ← hrest]
              simp [Cursor.advance, htail]
            · rw [List.map_cons, hpre, of_decide_eq_true hfold]
      · rintro ⟨⟨pre, post, hrest, hpre⟩, rfl⟩
        cases pre with
        | nil => cases hpre
        | cons b pre =>
            rw [List.map_cons, List.cons.injEq] at hpre
            obtain ⟨hfold, hpre⟩ := hpre
            have hchar : Matches (.char fun b => decide (fold b = a)) c (c.advance 1) :=
              matches_char_iff.mpr ⟨⟨b, by rw [hrest]; rfl, decide_eq_true hfold⟩, rfl⟩
            refine .seq hchar ((ih _).mpr ⟨⟨pre, post, ?_, hpre⟩, ?_⟩)
            · simp [Cursor.advance, hrest]
            · rw [advance_advance, List.length_cons, Nat.add_comm]

theorem matches_oneOf_iff {rs : List Expr} :
    Matches (.oneOf rs) c c' ↔ ∃ r ∈ rs, Matches r c c' := by
  induction rs with
  | nil =>
      constructor
      · intro h
        cases h with
        | many hn =>
            simp only [counts, List.mem_reverse, List.mem_filter, List.mem_range,
              decide_eq_true_eq, Option.elim_some] at hn
            omega
      · rintro ⟨r, hr, -⟩
        cases hr
  | cons r rest ih =>
      cases rest with
      | nil => simp [Expr.oneOf]
      | cons s rest =>
          constructor
          · intro h
            cases h with
            | left h => exact ⟨r, List.mem_cons_self, h⟩
            | right h =>
                obtain ⟨r', hr', h⟩ := ih.mp h
                exact ⟨r', List.mem_cons_of_mem _ hr', h⟩
          · rintro ⟨r', hr', h⟩
            rcases List.mem_cons.mp hr' with rfl | hr'
            · exact .left h
            · exact .right (ih.mpr ⟨r', hr', h⟩)

end Words

end Regex
