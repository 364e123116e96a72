/-
Reading a table page by page, from the greatest key down.

A page asks for one row more than it gives, to know whether there is a further page, and the key of
the last row that it gives is where the further page begins.  Rows that come in between do not
matter as long as they lie above what was there at first: from any key on downwards the table then
stays as it was, and the pages together are the table as it was (`follow_complete`).

The reader does not hold anything back between two pages, and remembers nothing but the key.  What
makes the pages fit together is that the table below that key is what it was when the page was read
(`GrowsAbove`), and nothing is asked of the rows above it.
-/
import SelfHealing.Lib.Priority

namespace Paging

open Priority

variable {α K : Type} [LinearOrder K] (key : α → K)

/-- The rows by their keys, the greatest first. -/
def descending (rows : List α) : List α := sortOn (fun a => OrderDual.toDual (key a)) rows

/-- The rows below the cursor, if there is one. -/
def below (cursor : Option K) (rows : List α) : List α :=
  rows.filter fun a => cursor.all fun c => decide (key a < c)

structure Page (α K : Type) where
  items : List α
  nextCursor : Option K

def page (rows : List α) (cursor : Option K) (limit : Nat) : Page α K :=
  let found := (descending key (below key cursor rows)).take (limit + 1)
  { items := found.take limit
    nextCursor := if limit < found.length then found[limit - 1]?.map key else none }

/-- Page after page until there is no cursor, where `tables n` is what the page number `n` reads.
Nothing, when the fuel runs out before. -/
def follow (tables : Nat → List α) (limit : Nat) : Nat → Nat → Option K → Option (List (List α))
  | 0, _, _ => none
  | fuel + 1, n, cursor =>
      let found := page key (tables n) cursor limit
      match found.nextCursor with
      | none => some [found.items]
      | some next => (follow tables limit fuel (n + 1) (some next)).map (found.items :: ·)

variable {key}

section Descending

variable {rows rows' : List α}

theorem descending_perm (rows : List α) : (descending key rows).Perm rows := sortOn_perm _ rows

theorem descending_sorted (hkeys : (rows.map key).Nodup) :
    (descending key rows).Pairwise fun a b => key b < key a := by
  have hle := sortOn_sorted (fun a => OrderDual.toDual (key a)) rows
  have hne : (descending key rows).Pairwise fun a b => key a ≠ key b :=
    List.pairwise_map.mp (((descending_perm rows).map key).nodup_iff.mpr hkeys)
  exact (hle.and hne).imp fun h => lt_of_le_of_ne (OrderDual.toDual_le_toDual.mp h.1) (Ne.symm h.2)

/-- There is one order only. -/
theorem descending_eq (hkeys : (rows.map key).Nodup) (hperm : rows'.Perm rows)
    (hsorted : rows'.Pairwise fun a b => key b < key a) : descending key rows = rows' := by
  have hnodup : (rows.map fun a => OrderDual.toDual (key a)).Nodup := hkeys
  refine (sortOn_congr hnodup hperm.symm).trans (sortOn_of_sorted _ ?_)
  exact hsorted.imp fun h => OrderDual.toDual_le_toDual.mpr h.le

/-- What is below a row of the table is what comes after it. -/
theorem below_of_descending {first rest : List α} {a : α}
    (hsorted : (first ++ a :: rest).Pairwise fun a b => key b < key a) :
    below key (some (key a)) (first ++ a :: rest) = rest := by
  rw [List.pairwise_append, List.pairwise_cons] at hsorted
  obtain ⟨-, ⟨hrest, -⟩, hfirst⟩ := hsorted
  have hnone : below key (some (key a)) (first ++ [a]) = [] := by
    refine List.filter_eq_nil_iff.mpr fun b hb => ?_
    rcases List.mem_append.mp hb with hb | hb
    · simpa using (hfirst b hb a (by simp)).le
    · simp [List.mem_singleton.mp hb]
  have hall : below key (some (key a)) rest = rest :=
    List.filter_eq_self.mpr fun b hb => by simpa using hrest b hb
  unfold below at hnone hall ⊢
  rw [List.append_cons, List.filter_append, hnone, hall, List.nil_append]

end Descending

section Follow

variable {initial : List α} {tables : Nat → List α} {limit : Nat}

variable (key) in
/-- What comes later lies above what was there at first.  That is so of tables whose keys are drawn
from a sequence, as long as rows are not changed. -/
structure GrowsAbove (initial : List α) (tables : Nat → List α) : Prop where
  first : tables 0 = initial
  later : ∀ n, ∃ added, tables n = initial ++ added ∧ ∀ a ∈ initial, ∀ b ∈ added, key a < key b

theorem GrowsAbove.below_eq (h : GrowsAbove key initial tables) (n : Nat) {a : α}
    (ha : a ∈ initial) :
    below key (some (key a)) (tables n) = below key (some (key a)) initial := by
  obtain ⟨added, htable, habove⟩ := h.later n
  have hnone : below key (some (key a)) added = [] :=
    List.filter_eq_nil_iff.mpr fun b hb => by simpa using (habove a ha b hb).le
  unfold below at hnone ⊢
  rw [htable, List.filter_append, hnone, List.append_nil]

/-- The page that begins where `todo` is left, and what it leaves. -/
theorem page_eq {rows todo : List α} {cursor : Option K}
    (h : descending key (below key cursor rows) = todo) (limit : Nat) :
    (page key rows cursor limit).items = todo.take limit ∧
      (page key rows cursor limit).nextCursor =
        if limit < todo.length then todo[limit - 1]?.map key else none := by
  unfold page
  rw [h]
  refine ⟨?_, ?_⟩
  · show (todo.take (limit + 1)).take limit = todo.take limit
    rw [List.take_take, Nat.min_eq_left (Nat.le_succ limit)]
  · have hlength : limit < (todo.take (limit + 1)).length ↔ limit < todo.length := by
      rw [List.length_take]
      omega
    simp only [hlength, List.getElem?_take_of_lt (show limit - 1 < limit + 1 by omega)]

/-- From a row of the first table on downwards, the tables stay as they were. -/
theorem GrowsAbove.rest_eq (h : GrowsAbove key initial tables) (hkeys : (initial.map key).Nodup)
    {first rest : List α} {a : α} (hsplit : descending key initial = first ++ a :: rest) (n : Nat) :
    descending key (below key (some (key a)) (tables n)) = rest := by
  have hsorted := descending_sorted hkeys
  rw [hsplit] at hsorted
  have hmem : a ∈ descending key initial := by
    rw [hsplit]
    exact List.mem_append_right _ List.mem_cons_self
  have hperm : (below key (some (key a)) (descending key initial)).Perm
      (below key (some (key a)) initial) := (descending_perm initial).filter _
  rw [hsplit, below_of_descending hsorted] at hperm
  rw [h.below_eq n ((descending_perm initial).mem_iff.mp hmem)]
  refine descending_eq ((List.filter_sublist.map key).nodup hkeys) hperm ?_
  exact (List.pairwise_cons.mp (List.pairwise_append.mp hsorted).2.1).2

theorem follow_eq (hkeys : (initial.map key).Nodup) (hgrows : GrowsAbove key initial tables)
    (hlimit : 0 < limit) : ∀ (fuel n : Nat) (cursor : Option K) (done todo : List α),
      descending key initial = done ++ todo →
      descending key (below key cursor (tables n)) = todo → todo.length < fuel →
      ∃ pages, follow key tables limit fuel n cursor = some pages ∧ pages.flatten = todo := by
  intro fuel
  induction fuel with
  | zero => exact fun _ _ _ _ _ _ hfuel => absurd hfuel (Nat.not_lt_zero _)
  | succ fuel ih =>
      intro n cursor done todo hinitial htodo hfuel
      obtain ⟨hitems, hcursor⟩ := page_eq htodo limit
      rw [follow]
      by_cases hmore : limit < todo.length
      · have hlast : limit - 1 < todo.length := by omega
        have hsplit : todo = todo.take (limit - 1) ++ todo[limit - 1] :: todo.drop limit := by
          have hdrop := List.drop_eq_getElem_cons hlast
          rw [Nat.sub_add_cancel hlimit] at hdrop
          rw [← hdrop, List.take_append_drop]
        have hwhole : descending key initial =
            (done ++ todo.take (limit - 1)) ++ todo[limit - 1] :: todo.drop limit := by
          rw [hinitial, List.append_assoc, ← hsplit]
        have hdone : descending key initial = (done ++ todo.take limit) ++ todo.drop limit := by
          rw [List.append_assoc, List.take_append_drop, hinitial]
        have hshorter : (todo.drop limit).length < fuel := by
          rw [List.length_drop]
          omega
        obtain ⟨pages, hpages, hflat⟩ := ih (n + 1) (some (key todo[limit - 1])) _ _ hdone
          (hgrows.rest_eq hkeys hwhole (n + 1)) hshorter
        rw [hcursor, if_pos hmore, List.getElem?_eq_getElem hlast, Option.map_some]
        refine ⟨todo.take limit :: pages, ?_, ?_⟩
        · simp only [hpages, Option.map_some, hitems]
        · rw [List.flatten_cons, hflat, List.take_append_drop]
      · rw [hcursor, if_neg hmore]
        refine ⟨[todo], ?_, List.flatten_singleton⟩
        rw [hitems, List.take_of_length_le (by omega)]

/-- **The pages together are the table as it was**, and they come to an end. -/
theorem follow_complete (hkeys : (initial.map key).Nodup)
    (hgrows : GrowsAbove key initial tables) (hlimit : 0 < limit) {fuel : Nat}
    (hfuel : initial.length < fuel) :
    ∃ pages, follow key tables limit fuel 0 none = some pages ∧
      pages.flatten = descending key initial := by
  have hall : below key none (tables 0) = initial := by
    rw [hgrows.first]
    exact List.filter_eq_self.mpr fun _ _ => rfl
  refine follow_eq hkeys hgrows hlimit fuel 0 none [] (descending key initial) rfl ?_ ?_
  · rw [hall]
  · rwa [(descending_perm initial).length_eq]

end Follow

end Paging
