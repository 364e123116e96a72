/-
Tables with a key, and the insert that changes the row which has the key already.

On a conflict some columns of that row take the values of the row that was to be inserted and the
others stay, so what the table holds under a key comes from several inserts: from the first of them,
and from those after it as far as they change it (`find_load`).

A column is either settled by the first insert under a key, or it is taken over by each later one.
Which columns are of which kind is a parameter of the table, and so the same lemmas serve inserts
that do nothing on a conflict.
-/
import Mathlib.Data.List.Nodup

namespace Upsert

variable {R K : Type} [DecidableEq K]

/-- A table's key, and what becomes of a row when another one with its key is inserted. -/
structure Table (R K : Type) where
  key : R → K
  update : R → R → R
  /-- The key itself is not changed. -/
  key_update : ∀ row new, key (update row new) = key row

/-- `INSERT ... ON CONFLICT (key) DO UPDATE`. -/
def Table.upsert (t : Table R K) (new : R) : List R → List R
  | [] => [new]
  | row :: rows =>
      if t.key row = t.key new then t.update row new :: rows else row :: upsert t new rows

variable (t : Table R K)

/-- Rows inserted one after the other. -/
def Table.load (news rows : List R) : List R := news.foldl (fun rows new => t.upsert new rows) rows

/-- The row under a key. -/
def Table.find (k : K) (rows : List R) : Option R := rows.find? fun row => decide (t.key row = k)

/-- What is found under the key of a row once that is inserted. -/
def Table.settle (found : Option R) (new : R) : Option R :=
  some (match found with
    | none => new
    | some row => t.update row new)

/-! ### Under one key -/

theorem find_upsert (k : K) (new : R) (rows : List R) :
    t.find k (t.upsert new rows) =
      if t.key new = k then t.settle (t.find k rows) new else t.find k rows := by
  induction rows with
  | nil =>
      by_cases hk : t.key new = k
      · simp [Table.upsert, Table.find, Table.settle, hk]
      · simp [Table.upsert, Table.find, hk]
  | cons row rows ih =>
      by_cases hrow : t.key row = t.key new
      · have hkey := t.key_update row new
        by_cases hk : t.key new = k
        · simp [Table.upsert, Table.find, Table.settle, hrow, hkey, hk]
        · simp [Table.upsert, Table.find, hrow, hkey, hk]
      · by_cases hrowk : t.key row = k
        · have hk : t.key new ≠ k := fun h => hrow (hrowk.trans h.symm)
          simp [Table.upsert, Table.find, hrowk, hk, Ne.symm hk]
        · have hskip : ∀ rows', t.find k (row :: rows') = t.find k rows' := by
            intro rows'
            simp [Table.find, hrowk]
          rw [Table.upsert, if_neg hrow, hskip, hskip, ih]

theorem find_load (k : K) (news rows : List R) :
    t.find k (t.load news rows) =
      (news.filter fun new => decide (t.key new = k)).foldl t.settle (t.find k rows) := by
  induction news generalizing rows with
  | nil => rfl
  | cons new news ih =>
      show t.find k (t.load news (t.upsert new rows)) = _
      rw [ih, find_upsert]
      by_cases hk : t.key new = k
      · rw [if_pos hk, List.filter_cons_of_pos (by simpa using hk), List.foldl_cons]
      · rw [if_neg hk, List.filter_cons_of_neg (by simpa using hk)]

omit [DecidableEq K] in
/-- Where there was no row, the first one is inserted and the others change it. -/
theorem foldl_settle (first : R) (rest : List R) :
    (first :: rest).foldl t.settle none = some (rest.foldl t.update first) := by
  show rest.foldl t.settle (some first) = _
  induction rest generalizing first with
  | nil => rfl
  | cons new rest ih => exact ih (t.update first new)

/-! ### Every row -/

theorem forall_mem_upsert {P : R → Prop} {new : R} {rows : List R} (h : ∀ row ∈ rows, P row)
    (hnew : P new) (hupdate : ∀ row, P row → P (t.update row new)) :
    ∀ row ∈ t.upsert new rows, P row := by
  induction rows with
  | nil => exact List.forall_mem_singleton.mpr hnew
  | cons row rows ih =>
      obtain ⟨hrow, hrows⟩ := List.forall_mem_cons.mp h
      unfold Table.upsert
      split
      · exact List.forall_mem_cons.mpr ⟨hupdate row hrow, hrows⟩
      · exact List.forall_mem_cons.mpr ⟨hrow, ih hrows⟩

/-- What every inserted row has, and an update keeps, the whole table has. -/
theorem forall_mem_load {P : R → Prop} {news rows : List R} (h : ∀ row ∈ rows, P row)
    (hnews : ∀ new ∈ news, P new) (hupdate : ∀ row new, P row → P new → P (t.update row new)) :
    ∀ row ∈ t.load news rows, P row := by
  induction news generalizing rows with
  | nil => exact h
  | cons new news ih =>
      obtain ⟨hnew, hrest⟩ := List.forall_mem_cons.mp hnews
      exact ih (forall_mem_upsert t h hnew fun row hrow => hupdate row new hrow hnew) hrest

/-! ### The key is unique -/

theorem keys_upsert (new : R) (rows : List R) :
    (t.upsert new rows).map t.key =
      if t.key new ∈ rows.map t.key then rows.map t.key else rows.map t.key ++ [t.key new] := by
  induction rows with
  | nil => rfl
  | cons row rows ih =>
      by_cases hrow : t.key row = t.key new
      · simp [Table.upsert, hrow, t.key_update]
      · rw [Table.upsert, if_neg hrow, List.map_cons, ih]
        by_cases hmem : t.key new ∈ rows.map t.key
        · rw [if_pos hmem, if_pos (by rw [List.map_cons]; exact List.mem_cons_of_mem _ hmem)]
          rfl
        · rw [if_neg hmem, if_neg]
          · rfl
          · rw [List.map_cons, List.mem_cons, not_or]
            exact ⟨Ne.symm hrow, hmem⟩

theorem keys_nodup_upsert (new : R) {rows : List R} (h : (rows.map t.key).Nodup) :
    ((t.upsert new rows).map t.key).Nodup := by
  rw [keys_upsert]
  by_cases hmem : t.key new ∈ rows.map t.key
  · rw [if_pos hmem]
    exact h
  · rw [if_neg hmem]
    exact List.nodup_append.mpr ⟨h, List.nodup_singleton _, by
      intro k hk k' hk' heq
      rw [List.mem_singleton] at hk'
      exact hmem (hk' ▸ heq ▸ hk)⟩

theorem keys_nodup_load (news : List R) {rows : List R} (h : (rows.map t.key).Nodup) :
    ((t.load news rows).map t.key).Nodup := by
  induction news generalizing rows with
  | nil => exact h
  | cons new news ih => exact ih (keys_nodup_upsert t new h)

theorem mem_of_find {k : K} {row : R} {rows : List R} (h : t.find k rows = some row) :
    row ∈ rows ∧ t.key row = k :=
  ⟨List.mem_of_find?_eq_some h, by simpa using List.find?_some h⟩

/-- With a unique key, a row of the table is the one under its key. -/
theorem find_eq_some_iff {rows : List R} (h : (rows.map t.key).Nodup) {k : K} {row : R} :
    t.find k rows = some row ↔ row ∈ rows ∧ t.key row = k := by
  refine ⟨mem_of_find t, ?_⟩
  rintro ⟨hmem, rfl⟩
  cases hfind : t.find (t.key row) rows with
  | none =>
      have habsent := List.find?_eq_none.mp hfind row hmem
      simp at habsent
  | some other =>
      obtain ⟨hother, hkey⟩ := mem_of_find t hfind
      rw [List.inj_on_of_nodup_map h hother hmem hkey]

end Upsert
