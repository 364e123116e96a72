/-
One row under READ COMMITTED.

A `Cell` is what the database keeps for one row: the versions committed so far,
newest first, and what the transaction that has the row locked has written on top
of them.  Readers see the newest committed version, or their own uncommitted one;
a writer waits until the row is free, and then writes over what is newest at that
moment, not over what it read before.  A deleted row is a version without a value.

`Linked` says that every version was written over the one below it by a permitted
write.  Row locks are what keeps that true across transactions, and it is what an
optimistic version column rests on: when the permitted writes raise a rank, two
versions of equal rank are one and the same.
-/
import Mathlib.Data.List.Basic
import Mathlib.Data.List.Infix
import Mathlib.Logic.Relation

namespace ReadCommitted

/-- What the transaction that has the row locked has written, newest first. -/
structure Pending (τ V : Type) where
  holder : τ
  values : List (Option V)
deriving DecidableEq

/-- A row: its committed versions, newest first, and the uncommitted ones of the transaction that
has it locked.  Committed versions stay, so that the history of a row can be looked at. -/
structure Cell (τ V : Type) where
  versions : List (Option V)
  pending : Option (Pending τ V)
deriving DecidableEq

namespace Cell

variable {τ V : Type}

/-- No row, and nobody writing one. -/
def empty : Cell τ V := ⟨[], none⟩

/-- A committed row. -/
def ofRow (v : V) : Cell τ V := ⟨[some v], none⟩

/-- The row every other transaction sees. -/
def committed (c : Cell τ V) : Option V := c.versions.head?.join

/-- Every version, uncommitted ones first. -/
def chain (c : Cell τ V) : List (Option V) :=
  match c.pending with
  | some q => q.values ++ c.versions
  | none => c.versions

section Transactions

variable [DecidableEq τ]

/-- What transaction `t` has written itself. -/
def own (t : τ) (c : Cell τ V) : List (Option V) :=
  match c.pending with
  | some q => if q.holder = t then q.values else []
  | none => []

/-- The versions `t` can see. -/
def view (t : τ) (c : Cell τ V) : List (Option V) := c.own t ++ c.versions

/-- The row as `t` reads it. -/
def visible (t : τ) (c : Cell τ V) : Option V := (c.view t).head?.join

/-- The row is not locked by anybody else. -/
def free (t : τ) (c : Cell τ V) : Bool :=
  match c.pending with
  | some q => q.holder = t
  | none => true

/-- `t` has the row locked. -/
def locked (t : τ) (c : Cell τ V) : Prop := ∃ vs, c.pending = some ⟨t, vs⟩

/-- Lock the row. -/
def lock (t : τ) (c : Cell τ V) : Cell τ V := { c with pending := some ⟨t, c.own t⟩ }

/-- Write a version over the newest one. -/
def write (t : τ) (v : Option V) (c : Cell τ V) : Cell τ V :=
  { c with pending := some ⟨t, v :: c.own t⟩ }

/-- Make what `t` wrote visible to all. -/
def commit (t : τ) (c : Cell τ V) : Cell τ V :=
  match c.pending with
  | some q => if q.holder = t then ⟨q.values ++ c.versions, none⟩ else c
  | none => c

/-- Forget what `t` wrote. -/
def rollback (t : τ) (c : Cell τ V) : Cell τ V :=
  match c.pending with
  | some q => if q.holder = t then ⟨c.versions, none⟩ else c
  | none => c

/-- What transaction `t` can do to the row, when its writes are permitted by `W`. -/
inductive Step (W : Option V → Option V → Prop) (t : τ) : Cell τ V → Cell τ V → Prop
  | same (c : Cell τ V) : Step W t c c
  | lock (c : Cell τ V) (hfree : c.free t = true) : Step W t c (c.lock t)
  | write (c : Cell τ V) (v : Option V) (hfree : c.free t = true) (hw : W (c.visible t) v) :
      Step W t c (c.write t v)
  | commit (c : Cell τ V) : Step W t c (c.commit t)
  | rollback (c : Cell τ V) : Step W t c (c.rollback t)

end Transactions

/-! ### Reading a cell

A reader sees what is committed or what it has written itself, and so never what another
transaction has not committed yet.
-/

@[simp] theorem committed_empty : (empty : Cell τ V).committed = none := rfl

theorem versions_suffix_chain (c : Cell τ V) : c.versions <:+ c.chain := by
  unfold chain
  split
  · exact List.suffix_append _ _
  · exact List.suffix_rfl

theorem committed_mem {c : Cell τ V} {v : V} (h : c.committed = some v) : some v ∈ c.versions := by
  unfold committed at h
  cases hl : c.versions with
  | nil => rw [hl] at h; cases h
  | cons w rest =>
      rw [hl] at h
      simp only [List.head?_cons, Option.join_some] at h
      rw [h]
      exact List.mem_cons_self

theorem not_locked_of_locked {t u : τ} {c : Cell τ V} (hne : u ≠ t)
    (h : c.locked t) : ¬ c.locked u := by
  rintro ⟨us, hus⟩
  obtain ⟨vs, hvs⟩ := h
  rw [hvs] at hus
  cases hus
  exact hne rfl

section Read

variable [DecidableEq τ] {t u : τ} {c : Cell τ V}

@[simp] theorem visible_empty : (empty : Cell τ V).visible t = none := rfl

@[simp] theorem free_empty : (empty : Cell τ V).free t = true := rfl

@[simp] theorem write_versions (v : Option V) : (c.write t v).versions = c.versions := rfl

@[simp] theorem lock_versions : (c.lock t).versions = c.versions := rfl

@[simp] theorem own_write (v : Option V) : (c.write t v).own t = v :: c.own t := by
  simp [own, write]

@[simp] theorem own_lock : (c.lock t).own t = c.own t := by
  simp [own, lock]

@[simp] theorem visible_write (v : Option V) : (c.write t v).visible t = v := by
  simp [visible, view]

@[simp] theorem visible_lock : (c.lock t).visible t = c.visible t := by
  simp [visible, view]

@[simp] theorem locked_write (v : Option V) : (c.write t v).locked t := ⟨_, rfl⟩

@[simp] theorem locked_lock : (c.lock t).locked t := ⟨_, rfl⟩

theorem locked_free (h : c.locked t) : c.free t = true := by
  obtain ⟨vs, hvs⟩ := h
  simp [free, hvs]

theorem own_of_locked {vs : List (Option V)} (h : c.pending = some ⟨t, vs⟩) : c.own t = vs := by
  simp [own, h]

theorem own_of_free (h : c.pending = none) : c.own t = [] := by
  simp [own, h]

/-- Nothing is pending that is not one's own. -/
theorem chain_eq_view (h : c.free t = true) : c.chain = c.view t := by
  unfold free at h
  unfold chain view own
  split
  · rename_i q hq
    rw [hq] at h
    simp only [decide_eq_true_eq] at h
    rw [if_pos h]
  · rename_i hq
    rfl

theorem mem_chain_of_view {v : Option V} (h : v ∈ c.view t) : v ∈ c.chain := by
  unfold view own at h
  unfold chain
  cases hp : c.pending with
  | none => simpa [hp] using h
  | some q =>
      simp only [hp] at h
      split at h
      · exact h
      · simp only [List.nil_append] at h
        exact List.mem_append_right _ h

theorem visible_eq_committed (h : c.own t = []) : c.visible t = c.committed := by
  unfold visible view committed
  rw [h, List.nil_append]

theorem own_eq_nil_of_not_locked (h : ¬ c.locked t) : c.own t = [] := by
  unfold own
  cases hp : c.pending with
  | none => rfl
  | some q =>
      have hne : q.holder ≠ t := fun heq => h ⟨q.values, by rw [hp, ← heq]⟩
      simp only [if_neg hne]

/-- A row a transaction reads is one of the versions it can see. -/
theorem visible_mem {v : V} (h : c.visible t = some v) : some v ∈ c.view t := by
  unfold visible at h
  cases hl : c.view t with
  | nil => rw [hl] at h; cases h
  | cons w rest =>
      rw [hl] at h
      simp only [List.head?_cons, Option.join_some] at h
      rw [h]
      exact List.mem_cons_self

/-! ### Ending a transaction -/

theorem commit_of_locked {vs : List (Option V)} (h : c.pending = some ⟨t, vs⟩) :
    c.commit t = ⟨vs ++ c.versions, none⟩ := by
  simp [commit, h]

theorem commit_of_not_locked (h : ¬ c.locked t) : c.commit t = c := by
  unfold commit
  cases hp : c.pending with
  | none => rfl
  | some q =>
      have hne : q.holder ≠ t := fun heq => h ⟨q.values, by rw [hp, ← heq]⟩
      simp only [if_neg hne]

/-- The newest version that a transaction has written is what it commits. -/
theorem commit_of_own {v : Option V} {vs : List (Option V)} (h : c.own t = v :: vs) :
    (c.commit t).committed = v ∧ (c.commit t).pending = none := by
  have hl : c.locked t := by
    by_contra hnot
    rw [own_eq_nil_of_not_locked hnot] at h
    cases h
  obtain ⟨ws, hws⟩ := hl
  rw [own_of_locked hws] at h
  rw [commit_of_locked hws, h]
  exact ⟨rfl, rfl⟩

theorem rollback_of_locked {vs : List (Option V)} (h : c.pending = some ⟨t, vs⟩) :
    c.rollback t = ⟨c.versions, none⟩ := by
  simp [rollback, h]

theorem rollback_of_not_locked (h : ¬ c.locked t) : c.rollback t = c := by
  unfold rollback
  cases hp : c.pending with
  | none => rfl
  | some q =>
      have hne : q.holder ≠ t := fun heq => h ⟨q.values, by rw [hp, ← heq]⟩
      simp only [if_neg hne]

/-- A row that somebody ends a transaction on is as it was, or is nobody's. -/
theorem commit_eq_or_free : c.commit t = c ∨ (c.commit t).pending = none := by
  by_cases hl : c.locked t
  · obtain ⟨vs, hvs⟩ := hl
    exact Or.inr (by rw [commit_of_locked hvs])
  · exact Or.inl (commit_of_not_locked hl)

theorem rollback_eq_or_free : c.rollback t = c ∨ (c.rollback t).pending = none := by
  by_cases hl : c.locked t
  · obtain ⟨vs, hvs⟩ := hl
    exact Or.inr (by rw [rollback_of_locked hvs])
  · exact Or.inl (rollback_of_not_locked hl)

@[simp] theorem rollback_versions : (c.rollback t).versions = c.versions := by
  unfold rollback
  split
  · split <;> rfl
  · rfl

theorem commit_versions : (c.commit t).versions = c.view t := by
  unfold commit view own
  cases hp : c.pending with
  | none => rfl
  | some q =>
      by_cases hq : q.holder = t
      · simp only [if_pos hq]
      · simp only [if_neg hq, List.nil_append]

/-- What a transaction saw of the row is what everybody sees once it commits. -/
@[simp] theorem committed_commit : (c.commit t).committed = c.visible t := by
  unfold committed visible
  rw [commit_versions]

@[simp] theorem committed_rollback : (c.rollback t).committed = c.committed := by
  unfold committed
  rw [rollback_versions]

end Read

/-! ### What the others cannot do

While a transaction has a cell locked, the others leave it as it is; and what anybody has seen of a
cell stays part of it.
-/

section Others

variable [DecidableEq τ] {W : Option V → Option V → Prop} {t u : τ} {c c' : Cell τ V}

/-- A locked row stays as it is whatever another transaction does. -/
theorem Step.eq_of_locked (hne : u ≠ t) (h : c.locked t) (hstep : Step W u c c') : c' = c := by
  have hnl := not_locked_of_locked hne h
  have hfree : c.free u = false := by
    obtain ⟨vs, hvs⟩ := h
    simp only [free, hvs, decide_eq_false_iff_not]
    exact fun heq => hne heq.symm
  cases hstep with
  | same => rfl
  | lock hf => rw [hfree] at hf; cases hf
  | write v hf hw => rw [hfree] at hf; cases hf
  | commit => exact commit_of_not_locked hnl
  | rollback => exact rollback_of_not_locked hnl

/-- More writes may be permitted. -/
theorem Step.mono {W' : Option V → Option V → Prop} (hW : ∀ v w, W v w → W' v w)
    (hstep : Step W t c c') : Step W' t c c' := by
  cases hstep with
  | same => exact Step.same _
  | lock hf => exact Step.lock _ hf
  | write v hf hw => exact Step.write _ v hf (hW _ _ hw)
  | commit => exact Step.commit _
  | rollback => exact Step.rollback _

/-- Committed versions are never taken back. -/
theorem Step.versions_suffix (hstep : Step W t c c') : c.versions <:+ c'.versions := by
  cases hstep with
  | same => exact List.suffix_rfl
  | lock hf => exact List.suffix_rfl
  | write v hf hw => exact List.suffix_rfl
  | commit =>
      rw [commit_versions]
      exact List.suffix_append _ _
  | rollback => rw [rollback_versions]

/-- Another transaction does not touch what one has written. -/
theorem Step.own_eq (hne : u ≠ t) (hstep : Step W u c c') : c'.own t = c.own t := by
  by_cases hl : c.locked t
  · rw [hstep.eq_of_locked hne hl]
  · rw [own_eq_nil_of_not_locked hl]
    have hnot : ∀ d : Cell τ V, d.locked u → d.own t = [] :=
      fun d hd => own_eq_nil_of_not_locked (not_locked_of_locked (fun h => hne h.symm) hd)
    cases hstep with
    | same => exact own_eq_nil_of_not_locked hl
    | lock hf => exact hnot _ locked_lock
    | write v hf hw => exact hnot _ (locked_write v)
    | commit =>
        by_cases hu : c.locked u
        · obtain ⟨vs, hvs⟩ := hu
          rw [commit_of_locked hvs]
          rfl
        · rw [commit_of_not_locked hu]
          exact own_eq_nil_of_not_locked hl
    | rollback =>
        by_cases hu : c.locked u
        · obtain ⟨vs, hvs⟩ := hu
          rw [rollback_of_locked hvs]
          rfl
        · rw [rollback_of_not_locked hu]
          exact own_eq_nil_of_not_locked hl

/-- A version once seen stays in sight. -/
theorem Step.mem_view (hne : u ≠ t) {v : Option V} (hv : v ∈ c.view t)
    (hstep : Step W u c c') : v ∈ c'.view t := by
  unfold view at hv ⊢
  rw [hstep.own_eq hne]
  rcases List.mem_append.mp hv with h | h
  · exact List.mem_append_left _ h
  · exact List.mem_append_right _ (hstep.versions_suffix.mem h)

/-- A version is an old one, or it was written in this step. -/
theorem Step.mem_chain (hstep : Step W t c c') {v : Option V} (hv : v ∈ c'.chain) :
    v ∈ c.chain ∨ W (c.visible t) v := by
  cases hstep with
  | same => exact Or.inl hv
  | lock hfree =>
      rw [chain_eq_view (locked_free locked_lock)] at hv
      rw [chain_eq_view hfree]
      unfold view at hv ⊢
      rw [own_lock, lock_versions] at hv
      exact Or.inl hv
  | write w hfree hw =>
      rw [chain_eq_view (locked_free (locked_write w))] at hv
      rw [chain_eq_view hfree]
      unfold view at hv ⊢
      rw [own_write, write_versions, List.cons_append] at hv
      rcases List.mem_cons.mp hv with hc | hc
      · rw [hc]
        exact Or.inr hw
      · exact Or.inl hc
  | commit =>
      refine Or.inl ?_
      unfold Cell.commit at hv
      unfold chain at hv ⊢
      cases hp : c.pending with
      | none => simpa [hp] using hv
      | some q =>
          by_cases hq : q.holder = t
          · simpa [hp, hq] using hv
          · simpa [hp, hq] using hv
  | rollback =>
      refine Or.inl ?_
      unfold Cell.rollback at hv
      unfold chain at hv ⊢
      cases hp : c.pending with
      | none => simpa [hp] using hv
      | some q =>
          by_cases hq : q.holder = t
          · simp only [hp, hq, if_true] at hv
            exact List.mem_append_right _ hv
          · simpa [hp, hq] using hv

/-- A commit moves what is pending among the versions. -/
@[simp] theorem chain_commit : (c.commit t).chain = c.chain := by
  by_cases hl : c.locked t
  · obtain ⟨vs, hvs⟩ := hl
    rw [commit_of_locked hvs]
    simp [chain, hvs]
  · rw [commit_of_not_locked hl]

theorem chain_rollback_suffix : (c.rollback t).chain <:+ c.chain := by
  by_cases hl : c.locked t
  · obtain ⟨vs, hvs⟩ := hl
    rw [rollback_of_locked hvs]
    exact versions_suffix_chain c
  · rw [rollback_of_not_locked hl]

/-- Ending a transaction leaves nothing to be committed that was not there. -/
theorem own_commit_of_nil (h : c.own u = []) : (c.commit t).own u = [] := by
  by_cases hl : c.locked t
  · obtain ⟨vs, hvs⟩ := hl
    rw [commit_of_locked hvs]
    rfl
  · rw [commit_of_not_locked hl]
    exact h

theorem own_rollback_of_nil (h : c.own u = []) : (c.rollback t).own u = [] := by
  by_cases hl : c.locked t
  · obtain ⟨vs, hvs⟩ := hl
    rw [rollback_of_locked hvs]
    rfl
  · rw [rollback_of_not_locked hl]
    exact h

theorem own_commit_self : (c.commit t).own t = [] := by
  by_cases hl : c.locked t
  · obtain ⟨vs, hvs⟩ := hl
    rw [commit_of_locked hvs]
    rfl
  · rw [commit_of_not_locked hl]
    exact own_eq_nil_of_not_locked hl

theorem own_rollback_self : (c.rollback t).own t = [] := by
  by_cases hl : c.locked t
  · obtain ⟨vs, hvs⟩ := hl
    rw [rollback_of_locked hvs]
    rfl
  · rw [rollback_of_not_locked hl]
    exact own_eq_nil_of_not_locked hl

omit [DecidableEq τ] in
theorem not_locked_of_pending (h : c.pending = none) (t : τ) : ¬ c.locked t := by
  rintro ⟨vs, hvs⟩
  rw [h] at hvs
  cases hvs

/-- Any number of steps of transactions that are not among `mine`. -/
def Others (W : Option V → Option V → Prop) (mine : τ → Prop) : Cell τ V → Cell τ V → Prop :=
  Relation.ReflTransGen fun c c' => ∃ u, ¬ mine u ∧ Step W u c c'

variable {mine : τ → Prop}

theorem Step.others (hu : ¬ mine u) (hstep : Step W u c c') : Others W mine c c' :=
  Relation.ReflTransGen.single ⟨u, hu, hstep⟩

theorem others_rollback (hu : ¬ mine u) : Others W mine c (c.rollback u) :=
  (Step.rollback c).others hu

theorem Others.eq_of_locked (h : Others W mine c c') (ht : mine t) (hl : c.locked t) :
    c' = c := by
  induction h with
  | refl => rfl
  | tail _ hstep ih =>
      obtain ⟨u, hu, hstep⟩ := hstep
      have hne : u ≠ t := fun heq => hu (by rw [heq]; exact ht)
      rw [ih] at hstep
      exact hstep.eq_of_locked hne hl

theorem Others.own_eq (h : Others W mine c c') (ht : mine t) : c'.own t = c.own t := by
  induction h with
  | refl => rfl
  | tail _ hstep ih =>
      obtain ⟨u, hu, hstep⟩ := hstep
      have hne : u ≠ t := fun heq => hu (by rw [heq]; exact ht)
      rw [hstep.own_eq hne, ih]

theorem Others.versions_suffix (h : Others W mine c c') : c.versions <:+ c'.versions := by
  induction h with
  | refl => exact List.suffix_rfl
  | tail _ hstep ih =>
      obtain ⟨u, -, hstep⟩ := hstep
      exact ih.trans hstep.versions_suffix

theorem Others.mem_view (h : Others W mine c c') (ht : mine t) {v : Option V}
    (hv : v ∈ c.view t) : v ∈ c'.view t := by
  induction h with
  | refl => exact hv
  | tail _ hstep ih =>
      obtain ⟨u, hu, hstep⟩ := hstep
      have hne : u ≠ t := fun heq => hu (by rw [heq]; exact ht)
      exact hstep.mem_view hne ih

end Others

end Cell

/-! ### Chains of permitted writes

Permitted writes are a relation between the value below and the one on top of it.  A rank that rises
along that relation tells the versions of a cell apart.
-/

section Linked

variable {V : Type} {W : Option V → Option V → Prop}

/-- Every version was written over the one below it by a permitted write.  Below the first one there
is no row. -/
def Linked (W : Option V → Option V → Prop) : List (Option V) → Prop
  | [] => True
  | v :: rest => W rest.head?.join v ∧ Linked W rest

theorem Linked.suffix {l l' : List (Option V)} (h : Linked W l) (hs : l' <:+ l) : Linked W l' := by
  induction l with
  | nil =>
      have : l' = [] := List.suffix_nil.mp hs
      rw [this]
      trivial
  | cons v rest ih =>
      rcases List.suffix_cons_iff.mp hs with heq | hsuf
      · rw [heq]; exact h
      · exact ih h.2 hsuf

/-- Writes that raise a rank leave a chain sorted by it. -/
theorem Linked.sorted {rank : Option V → Nat} (hrank : ∀ a b, W a b → rank a < rank b)
    {l : List (Option V)} (h : Linked W l) : l.Pairwise
      (fun newer older => rank older < rank newer) := by
  have key : Linked W l → l.Pairwise (fun newer older => rank older < rank newer) ∧
      ∀ v ∈ l, rank v ≤ rank l.head?.join := by
    intro h
    induction l with
    | nil => exact ⟨List.Pairwise.nil, fun v hv => absurd hv List.not_mem_nil⟩
    | cons w rest ih =>
        obtain ⟨hp, hmax⟩ := ih h.2 h.2
        have hlt := hrank _ _ h.1
        refine ⟨List.Pairwise.cons ?_ hp, ?_⟩
        · intro v hv
          exact Nat.lt_of_le_of_lt (hmax v hv) hlt
        · intro v hv
          simp only [List.head?_cons, Option.join_some]
          rcases List.mem_cons.mp hv with heq | hmem
          · rw [heq]
          · exact Nat.le_of_lt (Nat.lt_of_le_of_lt (hmax v hmem) hlt)
  exact (key h).1

/-- No rank is reached twice. -/
theorem Linked.countP_le_one {rank : Option V → Nat} (hrank : ∀ a b, W a b → rank a < rank b)
    {l : List (Option V)} (h : Linked W l) (n : Nat) :
    l.countP (fun v => decide (rank v = n)) ≤ 1 := by
  have hs := h.sorted hrank
  clear h
  induction l with
  | nil => exact Nat.zero_le 1
  | cons x rest ih =>
      obtain ⟨hx, hrest⟩ := List.pairwise_cons.mp hs
      by_cases hn : rank x = n
      · have hzero : rest.countP (fun v => decide (rank v = n)) = 0 := by
          rw [List.countP_eq_zero]
          intro v hv
          have := hx v hv
          simp only [decide_eq_true_eq]
          omega
        rw [List.countP_cons, hzero]
        simp [hn]
      · rw [List.countP_cons]
        simp only [hn, decide_false, Bool.false_eq_true, if_false, Nat.add_zero]
        exact ih hrest

/-- **Optimistic locking**: versions of equal rank are the same version. -/
theorem Linked.eq_of_rank {rank : Option V → Nat} (hrank : ∀ a b, W a b → rank a < rank b)
    {l : List (Option V)} (h : Linked W l) {v w : Option V} (hv : v ∈ l) (hw : w ∈ l)
    (heq : rank v = rank w) : v = w := by
  have hs := h.sorted hrank
  induction l with
  | nil => cases hv
  | cons x rest ih =>
      obtain ⟨hx, hrest⟩ := List.pairwise_cons.mp hs
      rcases List.mem_cons.mp hv with hv | hv
      · rcases List.mem_cons.mp hw with hw | hw
        · rw [hv, hw]
        · have := hx w hw
          rw [hv] at heq
          omega
      · rcases List.mem_cons.mp hw with hw | hw
        · have := hx v hv
          rw [hw] at heq
          omega
        · exact ih h.2 hv hw hrest

namespace Cell

variable {τ : Type} [DecidableEq τ] {t : τ} {c c' : Cell τ V}

/-- A chain of permitted writes stays one. -/
theorem Step.linked (hstep : Step W t c c') (h : Linked W c.chain) : Linked W c'.chain := by
  cases hstep with
  | same => exact h
  | lock hf =>
      rw [chain_eq_view (locked_free locked_lock)]
      rw [chain_eq_view hf] at h
      unfold view at h ⊢
      rw [own_lock, lock_versions]
      exact h
  | write v hf hw =>
      rw [chain_eq_view (locked_free (locked_write v))]
      rw [chain_eq_view hf] at h
      unfold view
      rw [own_write, write_versions]
      exact ⟨hw, h⟩
  | commit =>
      by_cases hl : c.locked t
      · obtain ⟨vs, hvs⟩ := hl
        rw [commit_of_locked hvs]
        simpa [chain, hvs] using h
      · rw [commit_of_not_locked hl]; exact h
  | rollback =>
      by_cases hl : c.locked t
      · obtain ⟨vs, hvs⟩ := hl
        rw [rollback_of_locked hvs]
        exact h.suffix (versions_suffix_chain c)
      · rw [rollback_of_not_locked hl]; exact h

/-- A row read earlier and the row now in sight are the same if their ranks are. -/
theorem eq_of_seen (rank : Option V → Nat) (hrank : ∀ a b, W a b → rank a < rank b)
    (h : Linked W c.chain) {v w : V} (hv : some v ∈ c.view t) (hw : c.visible t = some w)
    (heq : rank (some v) = rank (some w)) : v = w := by
  have := h.eq_of_rank hrank (mem_chain_of_view hv) (mem_chain_of_view (visible_mem hw)) heq
  exact Option.some.inj this

end Cell

end Linked

end ReadCommitted
