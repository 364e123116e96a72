/-
What a query with an order and a limit may return.

The order says nothing of rows that tie, so a query has several answers.  Two conditions on the rows
give the same answers up to a limit, whichever answer the first one gets, if and only if they agree
on every row that can come before the limit (`cut_iff`).

A row surely comes before the limit if fewer rows than the limit are not strictly after it, and it
may come before it if fewer rows than the limit are strictly before it.  Between the two lie the
rows that tie, and for each of them there is an answer with it and one without it.
-/
import Mathlib.Data.List.Sort

namespace Listing

variable {R : Type}

/-- The rows in order, with those that tie in any order.  A query is given by all of its answers,
as the order among ties may be another one each time. -/
structure Answers (le : R → R → Prop) (listing rows : List R) : Prop where
  perm : listing.Perm rows
  sorted : listing.Pairwise le

/-- A way to put rows in order. -/
structure OrderBy (le : R → R → Prop) where
  rows : List R → List R
  answers : ∀ table, Answers le (rows table) table

section Answers

variable {le : R → R → Prop} {listing rows : List R}

theorem Answers.mem (h : Answers le listing rows) (r : R) : r ∈ listing ↔ r ∈ rows :=
  h.perm.mem_iff

/-- Without ties there is only one answer. -/
theorem Answers.eq {other : List R} (h : Answers le listing rows) (h' : Answers le other rows)
    (hties : ∀ r ∈ rows, ∀ r' ∈ rows, le r r' → le r' r → r = r') : listing = other := by
  have hantisymm : ∀ r r', r ∈ listing → r' ∈ other → le r r' → le r' r → r = r' :=
    fun r r' hr hr' => hties r ((h.mem r).mp hr) r' ((h'.mem r').mp hr')
  exact List.Perm.eq_of_pairwise hantisymm h.sorted h'.sorted (h.perm.trans h'.perm.symm)

end Answers

section Sorting

variable (le : R → R → Prop) [DecidableRel le] [Std.Total le] [IsTrans R le]

theorem answers_insertionSort (rows : List R) : Answers le (rows.insertionSort le) rows :=
  ⟨List.perm_insertionSort le rows, List.pairwise_insertionSort le rows⟩

def sorting : OrderBy le := ⟨List.insertionSort le, answers_insertionSort le⟩

open Classical in
/-- Every answer is given in some way. -/
theorem exists_orderBy {listing rows : List R} (h : Answers le listing rows) :
    ∃ orderBy : OrderBy le, orderBy.rows rows = listing := by
  refine ⟨⟨fun table => if table = rows then listing else table.insertionSort le, ?_⟩, if_pos rfl⟩
  intro table
  by_cases htable : table = rows
  · rw [if_pos htable, htable]
    exact h
  · rw [if_neg htable]
    exact answers_insertionSort le table

/-- There is an answer in which a row is the first of those that it ties with. -/
theorem exists_answer_first {rows : List R} {r : R} (h : r ∈ rows) :
    ∃ before after, Answers le (before ++ r :: after) rows ∧ ∀ r' ∈ before, ¬ le r r' := by
  obtain ⟨left, right, rfl⟩ := List.append_of_mem h
  have hsort := answers_insertionSort le (r :: (left ++ right))
  rw [List.insertionSort_cons, List.orderedInsert_eq_take_drop] at hsort
  refine ⟨_, _, ⟨hsort.perm.trans List.perm_middle.symm, hsort.sorted⟩, ?_⟩
  intro r' hr'
  simpa using List.all_eq_true.mp List.all_takeWhile r' hr'

/-- All answers begin with the same row if and only if one row alone comes before all others. -/
theorem first_iff {rows : List R} :
    (∀ listing listing', Answers le listing rows → Answers le listing' rows →
      listing.head? = listing'.head?) ↔
    ∀ r ∈ rows, ∀ r' ∈ rows, (∀ s ∈ rows, le r s) → (∀ s ∈ rows, le r' s) → r = r' := by
  constructor
  · intro h r hr r' hr' hfirst hfirst'
    have hhead : ∀ a ∈ rows, (∀ s ∈ rows, le a s) →
        ∃ listing, Answers le listing rows ∧ listing.head? = some a := by
      intro a ha hle
      obtain ⟨before, after, hanswers, hbefore⟩ := exists_answer_first le ha
      refine ⟨_, hanswers, ?_⟩
      cases before with
      | nil => rfl
      | cons s before =>
          have hs := (hanswers.mem s).mp List.mem_cons_self
          exact absurd (hle s hs) (hbefore s List.mem_cons_self)
    obtain ⟨listing, hanswers, hlisting⟩ := hhead r hr hfirst
    obtain ⟨listing', hanswers', hlisting'⟩ := hhead r' hr' hfirst'
    have heq := h listing listing' hanswers hanswers'
    rw [hlisting, hlisting'] at heq
    exact Option.some.inj heq
  · intro h listing listing' hanswers hanswers'
    have hfirst : ∀ a l, Answers le (a :: l) rows → a ∈ rows ∧ ∀ s ∈ rows, le a s := by
      intro a l ha
      refine ⟨(ha.mem a).mp List.mem_cons_self, fun s hs => ?_⟩
      rcases List.mem_cons.mp ((ha.mem s).mpr hs) with rfl | hmem
      · exact refl_of le s
      · exact (List.pairwise_cons.mp ha.sorted).1 s hmem
    have hlength := (hanswers.perm.trans hanswers'.perm.symm).length_eq
    cases listing with
    | nil =>
        rw [List.length_nil] at hlength
        rw [List.length_eq_zero_iff.mp hlength.symm]
    | cons r l =>
        cases listing' with
        | nil => cases hlength
        | cons r' l' =>
            obtain ⟨hr, hle⟩ := hfirst r l hanswers
            obtain ⟨hr', hle'⟩ := hfirst r' l' hanswers'
            rw [h r hr r' hr' hle hle']
            rfl

end Sorting

/-! ### Two conditions, and a limit

The rows that may come before the limit are what the answers can show; where the conditions agree on
them, each answer to the one query is an answer to the other.
-/

section Cut

variable (le : R → R → Prop) [DecidableRel le]

/-- How many of the rows that a condition selects come before a row in every answer. -/
def strictlyBefore (p : R → Bool) (rows : List R) (r : R) : Nat :=
  rows.countP fun r' => p r' && !decide (le r r')

/-- How many of them come before it in some answer. -/
def possiblyBefore (p : R → Bool) (rows : List R) (r : R) : Nat :=
  rows.countP fun r' => p r' && decide (le r' r)

/-- The two conditions agree on what can come before the limit. -/
def AgreeBefore (n : Nat) (p q : R → Bool) (rows : List R) : Prop :=
  ∀ r ∈ rows, (p r = true → strictlyBefore le p rows r < n → q r = true) ∧
    (q r = true → possiblyBefore le p rows r < n → p r = true)

variable {n : Nat} {p q : R → Bool} {rows listing : List R}

omit [DecidableRel le] in
variable {le} in
/-- The rows of an answer that satisfy a condition are as many as those of the table that do. -/
theorem Answers.countP_eq (h : Answers le listing (rows.filter p)) (s : R → Bool) :
    listing.countP s = rows.countP fun r => p r && s r := by
  rw [h.perm.countP_eq, List.countP_filter]
  exact List.countP_congr fun r _ => by rw [Bool.and_comm]

section

variable [Std.Total le] [IsTrans R le]

theorem selected_of_strictlyBefore {r : R} (hr : r ∈ rows) (hp : p r = true)
    (hlt : strictlyBefore le p rows r < n)
    (h : ∀ listing, Answers le listing (rows.filter p) →
      ∃ wanted, Answers le wanted (rows.filter q) ∧ listing.take n = wanted.take n) :
    q r = true := by
  obtain ⟨before, after, hanswers, hbefore⟩ :=
    exists_answer_first le (List.mem_filter.mpr ⟨hr, hp⟩)
  have hlength : before.length < n := by
    have hcount := hanswers.countP_eq fun r' => !decide (le r r')
    rw [List.countP_append, List.countP_eq_length.mpr (by
      intro r' hr'
      simpa using hbefore r' hr')] at hcount
    unfold strictlyBefore at hlt
    omega
  obtain ⟨wanted, hwanted, htake⟩ := h _ hanswers
  have hmem : r ∈ (before ++ r :: after).take n := by
    rw [List.take_append, List.take_of_length_le hlength.le]
    refine List.mem_append_right _ ?_
    obtain ⟨k, hk⟩ := Nat.exists_eq_add_of_lt hlength
    rw [show n - before.length = k + 1 by omega, List.take_succ_cons]
    exact List.mem_cons_self
  rw [htake] at hmem
  exact (List.mem_filter.mp ((hwanted.mem r).mp (List.mem_of_mem_take hmem))).2

theorem selected_of_possiblyBefore {r : R} (hr : r ∈ rows) (hq : q r = true)
    (hlt : possiblyBefore le p rows r < n)
    (h : ∀ listing, Answers le listing (rows.filter p) →
      ∃ wanted, Answers le wanted (rows.filter q) ∧ listing.take n = wanted.take n) :
    p r = true := by
  by_contra hp
  have hanswers := answers_insertionSort le (rows.filter p)
  obtain ⟨wanted, hwanted, htake⟩ := h _ hanswers
  generalize (rows.filter p).insertionSort le = listing at hanswers htake
  have hmem : r ∈ wanted := (hwanted.mem r).mpr (List.mem_filter.mpr ⟨hr, hq⟩)
  have hnot : r ∉ wanted.take n := by
    intro hin
    rw [← htake] at hin
    exact hp (List.mem_filter.mp ((hanswers.mem r).mp (List.mem_of_mem_take hin))).2
  have hdrop : r ∈ wanted.drop n := by
    rw [← List.take_append_drop n wanted, List.mem_append] at hmem
    exact hmem.resolve_left hnot
  -- so the limit is reached, by rows that all may come before it
  have hlength : (wanted.take n).length = n := by
    have hpos := List.length_pos_of_mem hdrop
    rw [List.length_drop] at hpos
    rw [List.length_take]
    omega
  have hsorted := hwanted.sorted
  rw [← List.take_append_drop n wanted] at hsorted
  have hbefore : ∀ r' ∈ wanted.take n, le r' r := fun r' hr' =>
    (List.pairwise_append.mp hsorted).2.2 r' hr' r hdrop
  have hcount := hanswers.countP_eq fun r' => decide (le r' r)
  rw [← List.take_append_drop n listing, List.countP_append, htake,
    List.countP_eq_length.mpr (by
      intro r' hr'
      simpa using hbefore r' hr'), hlength] at hcount
  unfold possiblyBefore at hlt
  omega

omit [DecidableRel le] [IsTrans R le] in
/-- What only comes before a row within the limit is less than the limit. -/
theorem Answers.countP_lt {a : R} (h : Answers le listing rows) (ha : a ∈ listing.take n)
    {s : R → Bool} (hs : ∀ r, le a r → s r = false) : listing.countP s < n := by
  obtain ⟨before, after, htake⟩ := List.append_of_mem ha
  have hsplit : listing = before ++ a :: (after ++ listing.drop n) := by
    rw [← List.cons_append, ← List.append_assoc, ← htake, List.take_append_drop]
  have hsorted := h.sorted
  rw [hsplit, List.pairwise_append, List.pairwise_cons] at hsorted
  have hnone : (a :: (after ++ listing.drop n)).countP s = 0 := by
    rw [List.countP_eq_zero]
    intro r hr
    rw [hs r]
    · exact Bool.false_ne_true
    · rcases List.mem_cons.mp hr with rfl | hr
      · exact refl_of le r
      · exact hsorted.2.1.1 r hr
  have hlength : before.length < n := by
    have hle := List.length_take_le n listing
    rw [htake, List.length_append, List.length_cons] at hle
    omega
  rw [hsplit, List.countP_append, hnone]
  have hle := @List.countP_le_length _ s before
  omega

omit [IsTrans R le] in
/-- What is within the limit is asked for. -/
theorem AgreeBefore.selected (h : AgreeBefore le n p q rows)
    (hanswers : Answers le listing (rows.filter p)) {r : R} (hr : r ∈ listing.take n) :
    r ∈ rows ∧ q r = true := by
  obtain ⟨hmem, hp⟩ := List.mem_filter.mp ((hanswers.mem r).mp (List.mem_of_mem_take hr))
  refine ⟨hmem, (h r hmem).1 hp ?_⟩
  unfold strictlyBefore
  rw [← hanswers.countP_eq fun r' => !decide (le r r')]
  exact hanswers.countP_lt le hr fun r' hle => by simpa using hle

/-- What is asked for and not within the limit comes after it. -/
theorem AgreeBefore.later (h : AgreeBefore le n p q rows)
    (hanswers : Answers le listing (rows.filter p)) {r : R} (hr : r ∈ rows) (hq : q r = true)
    (hnot : r ∉ listing.take n) : n ≤ listing.length ∧ ∀ a ∈ listing.take n, le a r := by
  by_cases hp : p r = true
  · have hmem := (hanswers.mem r).mpr (List.mem_filter.mpr ⟨hr, hp⟩)
    rw [← List.take_append_drop n listing, List.mem_append] at hmem
    have hdrop := hmem.resolve_left hnot
    have hpos := List.length_pos_of_mem hdrop
    rw [List.length_drop] at hpos
    have hsorted := hanswers.sorted
    rw [← List.take_append_drop n listing, List.pairwise_append] at hsorted
    exact ⟨by omega, fun a ha => hsorted.2.2 a ha r hdrop⟩
  · have hmany : n ≤ listing.countP fun r' => decide (le r' r) := by
      rw [hanswers.countP_eq fun r' => decide (le r' r)]
      by_contra hlt
      refine hp ((h r hr).2 hq ?_)
      unfold possiblyBefore
      omega
    refine ⟨hmany.trans List.countP_le_length, fun a ha => ?_⟩
    by_contra hle
    have hlt := hanswers.countP_lt le ha (s := fun r' => decide (le r' r)) fun r' har' => by
      simpa using fun hr' => hle (trans_of le har' hr')
    omega

open Classical in
theorem AgreeBefore.wanted (h : AgreeBefore le n p q rows) (hnodup : rows.Nodup)
    (hanswers : Answers le listing (rows.filter p)) :
    ∃ wanted, Answers le wanted (rows.filter q) ∧ listing.take n = wanted.take n := by
  -- the rows within the limit, and then the others that are asked for
  let rest := (rows.filter fun r => q r && !decide (r ∈ listing.take n)).insertionSort le
  have hrest : ∀ r, r ∈ rest ↔ r ∈ rows ∧ q r = true ∧ r ∉ listing.take n := by
    intro r
    simp [rest]
  have hlater : ∀ r ∈ rest, n ≤ listing.length ∧ ∀ a ∈ listing.take n, le a r := by
    intro r hr
    obtain ⟨hmem, hq, hnot⟩ := (hrest r).mp hr
    exact h.later le hanswers hmem hq hnot
  refine ⟨listing.take n ++ rest, ⟨?_, ?_⟩, ?_⟩
  · have hlisting : listing.Nodup := hanswers.perm.nodup_iff.mpr (hnodup.filter p)
    have hdistinct : (listing.take n ++ rest).Nodup := by
      refine List.nodup_append.mpr ⟨hlisting.sublist (List.take_sublist n listing),
        (List.perm_insertionSort le _).nodup_iff.mpr (hnodup.filter _), ?_⟩
      rintro r hr r' hr' rfl
      exact ((hrest r).mp hr').2.2 hr
    refine (List.perm_ext_iff_of_nodup hdistinct (hnodup.filter q)).mpr fun r => ?_
    rw [List.mem_append, hrest, List.mem_filter]
    constructor
    · rintro (hr | ⟨hmem, hq, -⟩)
      · exact h.selected le hanswers hr
      · exact ⟨hmem, hq⟩
    · rintro ⟨hmem, hq⟩
      by_cases hr : r ∈ listing.take n
      · exact Or.inl hr
      · exact Or.inr ⟨hmem, hq, hr⟩
  · exact List.pairwise_append.mpr ⟨hanswers.sorted.sublist (List.take_sublist n listing),
      List.pairwise_insertionSort le _, fun a ha r hr => (hlater r hr).2 a ha⟩
  · by_cases hlength : n ≤ listing.length
    · rw [List.take_append_of_le_length (by rw [List.length_take]; omega), List.take_take,
        Nat.min_self]
    · have hempty : rest = [] :=
        List.eq_nil_iff_forall_not_mem.mpr fun r hr => hlength (hlater r hr).1
      rw [hempty, List.append_nil, List.take_take, Nat.min_self]

/-- **Up to a limit, two conditions select the same** if and only if they agree on what can come
before the limit. -/
theorem cut_iff (hnodup : rows.Nodup) :
    (∀ listing, Answers le listing (rows.filter p) →
      ∃ wanted, Answers le wanted (rows.filter q) ∧ listing.take n = wanted.take n) ↔
    AgreeBefore le n p q rows := by
  constructor
  · intro h r hr
    exact ⟨fun hp hlt => selected_of_strictlyBefore le hr hp hlt h,
      fun hq hlt => selected_of_possiblyBefore le hr hq hlt h⟩
  · intro h listing hanswers
    exact h.wanted le hnodup hanswers

/-- Without a limit they have to agree on every row. -/
theorem uncut_iff :
    (∀ listing, Answers le listing (rows.filter p) → Answers le listing (rows.filter q)) ↔
    ∀ r ∈ rows, p r = q r := by
  constructor
  · intro h r hr
    have hanswers := answers_insertionSort le (rows.filter p)
    have hmem := (hanswers.mem r).symm.trans ((h _ hanswers).mem r)
    simp only [List.mem_filter, hr, true_and] at hmem
    exact Bool.eq_iff_iff.mpr hmem
  · intro h listing hanswers
    rw [← List.filter_congr h]
    exact hanswers

end

end Cut

end Listing
