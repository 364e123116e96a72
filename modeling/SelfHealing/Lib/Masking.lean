/-
Masking values of trees.

A mask goes through a tree and puts a mark in the place of every value that is below a key it hides.
It may rename the keys on the way; where two keys of a dictionary become one, the later value is
kept in the place of the earlier.

Trees that agree except below hidden keys are masked alike (`apply_eq_of_agree`), and a value makes
no difference to the masked tree exactly if one of the keys above it is hidden (`independent_iff`).
-/
import SelfHealing.Lib.Canonical

namespace Masking

open Canonical

variable {K L A B V : Type} [DecidableEq L]

/-- `dict[key] = value`. -/
def put (key : L) (value : V) : List (L × V) → List (L × V)
  | [] => [(key, value)]
  | entry :: rest =>
      if entry.1 = key then (key, value) :: rest else entry :: put key value rest

/-- How keys are renamed, which of the new ones are hidden, and what becomes of the values below
them and of the atoms. -/
structure Mask (K L A B : Type) where
  rename : K → L
  hides : L → Bool
  mark : Tree L B
  leaf : A → B

namespace Mask

variable (M : Mask K L A B)

mutual

def apply : Tree K A → Tree L B
  | .atom a => .atom (M.leaf a)
  | .seq items => .seq (applyItems items)
  | .map entries => .map (applyEntries [] entries)

def applyItems : List (Tree K A) → List (Tree L B)
  | [] => []
  | item :: rest => apply item :: applyItems rest

/-- The entries that are left, into the dictionary that there is already. -/
def applyEntries (masked : List (L × Tree L B)) : List (K × Tree K A) → List (L × Tree L B)
  | [] => masked
  | (key, value) :: rest =>
      let key := M.rename key
      applyEntries (put key (if M.hides key then M.mark else apply value) masked) rest

end

end Mask

/-! ### Trees that agree -/

section Agree

variable (hides : K → Bool)

mutual

/-- The trees have the same shape and the same keys, and differ below hidden keys only. -/
def Agree : Tree K A → Tree K A → Prop
  | .atom a, .atom a' => a = a'
  | .seq items, .seq items' => AgreeItems items items'
  | .map entries, .map entries' => AgreeEntries entries entries'
  | _, _ => False

def AgreeItems : List (Tree K A) → List (Tree K A) → Prop
  | [], [] => True
  | item :: rest, item' :: rest' => Agree item item' ∧ AgreeItems rest rest'
  | _, _ => False

def AgreeEntries : List (K × Tree K A) → List (K × Tree K A) → Prop
  | [], [] => True
  | (key, value) :: rest, (key', value') :: rest' =>
      key = key' ∧ (hides key = true ∨ Agree value value') ∧ AgreeEntries rest rest'
  | _, _ => False

end

end Agree

section AgreeLemmas

variable (hides : K → Bool)

theorem agree_refl (hides : K → Bool) : ∀ t : Tree K A, Agree hides t t := by
  intro t
  induction t with
  | atom a => rw [Agree]
  | seq items ih =>
      rw [Agree]
      induction items with
      | nil => trivial
      | cons item rest ihrest =>
          rw [AgreeItems]
          exact ⟨ih item List.mem_cons_self,
            ihrest fun t ht => ih t (List.mem_cons_of_mem _ ht)⟩
  | map entries ih =>
      rw [Agree]
      induction entries with
      | nil => trivial
      | cons entry rest ihrest =>
          obtain ⟨key, value⟩ := entry
          rw [AgreeEntries]
          exact ⟨rfl, Or.inr (ih (key, value) List.mem_cons_self),
            ihrest fun e he => ih e (List.mem_cons_of_mem _ he)⟩

/-- Dictionaries that agree still do when an entry is put into each. -/
theorem agreeEntries_put [DecidableEq K] {key : K} {value value' : Tree K A}
    (hvalue : hides key = true ∨ Agree hides value value') :
    ∀ {entries entries' : List (K × Tree K A)}, AgreeEntries hides entries entries' →
      AgreeEntries hides (put key value entries) (put key value' entries')
  | [], [], _ => by
      rw [put, put, AgreeEntries]
      exact ⟨rfl, hvalue, trivial⟩
  | (key', old) :: rest, (key'', old') :: rest', h => by
      rw [AgreeEntries] at h
      obtain ⟨rfl, hold, hrest⟩ := h
      rw [put, put]
      by_cases hkey : key' = key
      · rw [if_pos hkey, if_pos hkey, AgreeEntries]
        exact ⟨rfl, hvalue, hrest⟩
      · rw [if_neg hkey, if_neg hkey, AgreeEntries]
        exact ⟨rfl, hold, agreeEntries_put hvalue hrest⟩

/-- What is not hidden is looked up alike. -/
theorem agree_lookup [BEq K] [LawfulBEq K] {key : K} (hkey : ¬ hides key = true) :
    ∀ {entries entries' : List (K × Tree K A)}, AgreeEntries hides entries entries' →
      (entries.lookup key = none ∧ entries'.lookup key = none) ∨
        ∃ value value', entries.lookup key = some value ∧ entries'.lookup key = some value' ∧
          Agree hides value value'
  | [], [], _ => Or.inl ⟨rfl, rfl⟩
  | (key', value) :: rest, (key'', value') :: rest', h => by
      rw [AgreeEntries] at h
      obtain ⟨rfl, hvalue, hrest⟩ := h
      rw [List.lookup_cons, List.lookup_cons]
      by_cases hsame : key = key'
      · subst hsame
        rw [beq_self_eq_true]
        exact Or.inr ⟨value, value', rfl, rfl, hvalue.resolve_left hkey⟩
      · rw [beq_false_of_ne hsame]
        exact agree_lookup hkey hrest

end AgreeLemmas

section Noninterference

variable (M : Mask K L A B)

mutual

/-- **What is below a hidden key makes no difference.** -/
theorem apply_eq_of_agree : ∀ {t u : Tree K A}, Agree (fun key => M.hides (M.rename key)) t u →
    M.apply t = M.apply u
  | .atom a, .atom a', h => by
      rw [Agree] at h
      rw [h]
  | .seq items, .seq items', h => by
      rw [Agree] at h
      rw [Mask.apply, Mask.apply, applyItems_eq_of_agree h]
  | .map entries, .map entries', h => by
      rw [Agree] at h
      rw [Mask.apply, Mask.apply, applyEntries_eq_of_agree h []]

theorem applyItems_eq_of_agree : ∀ {items items' : List (Tree K A)},
    AgreeItems (fun key => M.hides (M.rename key)) items items' →
    M.applyItems items = M.applyItems items'
  | [], [], _ => rfl
  | item :: rest, item' :: rest', h => by
      rw [AgreeItems] at h
      rw [Mask.applyItems, Mask.applyItems, apply_eq_of_agree h.1, applyItems_eq_of_agree h.2]

theorem applyEntries_eq_of_agree : ∀ {entries entries' : List (K × Tree K A)},
    AgreeEntries (fun key => M.hides (M.rename key)) entries entries' →
    ∀ masked, M.applyEntries masked entries = M.applyEntries masked entries'
  | [], [], _, _ => rfl
  | (key, value) :: rest, (key', value') :: rest', h, masked => by
      rw [AgreeEntries] at h
      obtain ⟨rfl, hvalue, hrest⟩ := h
      have hsame : (if M.hides (M.rename key) then M.mark else M.apply value) =
          if M.hides (M.rename key) then M.mark else M.apply value' := by
        rcases hvalue with hhidden | hagree
        · rw [if_pos hhidden, if_pos hhidden]
        · rw [apply_eq_of_agree hagree]
      rw [Mask.applyEntries, Mask.applyEntries, hsame, applyEntries_eq_of_agree hrest]

end

end Noninterference

/-! ### Places in a tree

A context is a tree with a place left open, and the keys above the place decide whether what is
put there is seen.
-/

/-- A tree with a hole in it. -/
inductive Context (K A : Type)
  | hole
  | item (before : List (Tree K A)) (c : Context K A) (after : List (Tree K A))
  | value (before : List (K × Tree K A)) (key : K) (c : Context K A) (after : List (K × Tree K A))

namespace Context

/-- The tree with this value in the hole. -/
def fill (t : Tree K A) : Context K A → Tree K A
  | .hole => t
  | .item before c after => .seq (before ++ c.fill t :: after)
  | .value before key c after => .map (before ++ (key, c.fill t) :: after)

/-- The keys above the hole, the outermost first. -/
def keys : Context K A → List K
  | .hole => []
  | .item _ c _ => c.keys
  | .value _ key c _ => key :: c.keys

/-- The dictionaries above the hole have no key twice. -/
def KeysNodup : Context K A → Prop
  | .hole => True
  | .item _ c _ => c.KeysNodup
  | .value before key c after =>
      (before.map Prod.fst ++ key :: after.map Prod.fst).Nodup ∧ c.KeysNodup

end Context

theorem keysNodup_of_distinct {c : Context K A} {t : Tree K A} (h : Distinct (c.fill t)) :
    c.KeysNodup := by
  induction c with
  | hole => trivial
  | item before c after ih =>
      cases h with
      | seq hitems => exact ih (hitems _ (List.mem_append_right _ List.mem_cons_self))
  | value before key c after ih =>
      cases h with
      | map hkeys hentries =>
          rw [List.map_append, List.map_cons] at hkeys
          exact ⟨hkeys, ih (hentries _ (List.mem_append_right _ List.mem_cons_self))⟩

/-- A place below a key is in the value of that key. -/
theorem exists_place_of_key {c : Context K A} {t : Tree K A} {before after : List K} {key : K}
    (h : c.keys = before ++ key :: after) :
    ∃ c' v, Context.fill v c' = c.fill t ∧ c'.keys = before ++ [key] := by
  induction c generalizing before with
  | hole => exact absurd h.symm (List.append_ne_nil_of_right_ne_nil _ (List.cons_ne_nil _ _))
  | item items c rest ih =>
      obtain ⟨c', v, hfill, hkeys⟩ := ih h
      exact ⟨.item items c' rest, v, by rw [Context.fill, Context.fill, hfill], hkeys⟩
  | value entries key' c rest ih =>
      cases before with
      | nil =>
          rw [List.nil_append, Context.keys, List.cons.injEq] at h
          obtain ⟨rfl, -⟩ := h
          exact ⟨.value entries key' .hole rest, c.fill t, rfl, rfl⟩
      | cons first before =>
          rw [List.cons_append, Context.keys, List.cons.injEq] at h
          obtain ⟨rfl, h⟩ := h
          obtain ⟨c', v, hfill, hkeys⟩ := ih h
          refine ⟨.value entries key' c' rest, v, by rw [Context.fill, Context.fill, hfill], ?_⟩
          rw [Context.keys, hkeys, List.cons_append]

/-! ### Dictionaries as finite maps -/

section Lookup

variable [BEq K] [LawfulBEq K] {dict dict' : List (K × V)}

/-- Without keys that are there twice every entry is found. -/
theorem lookup_eq_some_iff_mem (h : (dict.map Prod.fst).Nodup) {key : K} {value : V} :
    dict.lookup key = some value ↔ (key, value) ∈ dict := by
  induction dict with
  | nil => simp
  | cons entry rest ih =>
      obtain ⟨key', value'⟩ := entry
      rw [List.map_cons, List.nodup_cons] at h
      rw [List.lookup_cons, List.mem_cons, Prod.mk.injEq]
      by_cases hkey : key = key'
      · subst hkey
        rw [beq_self_eq_true]
        have hnot : (key, value) ∉ rest := fun hmem => h.1 (List.mem_map.mpr ⟨_, hmem, rfl⟩)
        constructor
        · intro heq
          exact Or.inl ⟨rfl, (Option.some.inj heq).symm⟩
        · intro hmem
          rw [(hmem.resolve_right hnot).2]
      · rw [beq_false_of_ne hkey]
        simp only [hkey, false_and, false_or]
        exact ih h.2

theorem lookup_perm (h : (dict.map Prod.fst).Nodup) (hperm : dict.Perm dict') (key : K) :
    dict.lookup key = dict'.lookup key := by
  apply Option.ext
  intro value
  rw [lookup_eq_some_iff_mem h, lookup_eq_some_iff_mem ((hperm.map _).nodup h), hperm.mem_iff]

theorem lookup_put_self [DecidableEq K] (key : K) (value : V) (dict : List (K × V)) :
    (put key value dict).lookup key = some value := by
  induction dict with
  | nil => simp [put]
  | cons entry rest ih =>
      rw [put]
      by_cases h : entry.1 = key
      · rw [if_pos h]
        simp
      · rw [if_neg h, List.lookup_cons, beq_false_of_ne (Ne.symm h), ih]

theorem lookup_put_ne [DecidableEq K] {key key' : K} (h : key' ≠ key) (value : V)
    (dict : List (K × V)) : (put key value dict).lookup key' = dict.lookup key' := by
  induction dict with
  | nil => simp [put, List.lookup_cons, beq_false_of_ne h]
  | cons entry rest ih =>
      obtain ⟨key'', value'⟩ := entry
      rw [put]
      by_cases heq : key'' = key
      · subst heq
        rw [if_pos rfl, List.lookup_cons, List.lookup_cons, beq_false_of_ne h]
      · rw [if_neg heq, List.lookup_cons, List.lookup_cons, ih]

end Lookup

/-! ### What a masked tree depends on

Below a hidden key any value gives the same masked tree; elsewhere two values can be told apart, if
the mask tells them apart at all.
-/

section Independent

variable {M : Mask K L A B}

theorem applyItems_eq (items : List (Tree K A)) : M.applyItems items = items.map M.apply := by
  induction items with
  | nil => rfl
  | cons item rest ih => rw [Mask.applyItems, List.map_cons, ih]

theorem put_of_not_mem {key : L} {value : V} {dict : List (L × V)}
    (h : key ∉ dict.map Prod.fst) : put key value dict = dict ++ [(key, value)] := by
  induction dict with
  | nil => rfl
  | cons entry rest ih =>
      rw [List.map_cons, List.mem_cons, not_or] at h
      rw [put, if_neg (Ne.symm h.1), ih h.2, List.cons_append]

/-- Entries with new keys that are put into a dictionary one after the other come after it. -/
theorem foldl_put_eq {entries dict : List (L × V)}
    (h : (dict.map Prod.fst ++ entries.map Prod.fst).Nodup) :
    entries.foldl (fun dict entry => put entry.1 entry.2 dict) dict = dict ++ entries := by
  induction entries generalizing dict with
  | nil => rw [List.foldl_nil, List.append_nil]
  | cons entry rest ih =>
      rw [List.map_cons] at h
      have hnew : entry.1 ∉ dict.map Prod.fst :=
        fun hmem => (List.nodup_append.mp h).2.2 _ hmem _ List.mem_cons_self rfl
      rw [List.foldl_cons, put_of_not_mem hnew, ih, List.append_assoc]
      · rfl
      · rw [List.map_append, List.append_assoc]
        exact h

/-- An entry of a masked dictionary. -/
def Mask.entry (M : Mask K L A B) (entry : K × Tree K A) : L × Tree L B :=
  (M.rename entry.1, if M.hides (M.rename entry.1) then M.mark else M.apply entry.2)

/-- The loop puts one masked entry after the other. -/
theorem applyEntries_eq_foldl (entries : List (K × Tree K A)) (masked : List (L × Tree L B)) :
    M.applyEntries masked entries =
      (entries.map M.entry).foldl (fun dict entry => put entry.1 entry.2 dict) masked := by
  induction entries generalizing masked with
  | nil => rfl
  | cons entry rest ih =>
      obtain ⟨key, value⟩ := entry
      rw [Mask.applyEntries, ih]
      rfl

/-- Without keys that become one the entries stay in their places. -/
theorem applyEntries_eq {entries : List (K × Tree K A)} {masked : List (L × Tree L B)}
    (h : (masked.map Prod.fst ++ entries.map fun entry => M.rename entry.1).Nodup) :
    M.applyEntries masked entries = masked ++ entries.map M.entry := by
  rw [applyEntries_eq_foldl]
  refine foldl_put_eq ?_
  rw [List.map_map]
  exact h

/-- Under the key of an entry there is what masking leaves of its value. -/
theorem lookup_applyEntries {entries : List (K × Tree K A)}
    (h : (entries.map fun entry => M.rename entry.1).Nodup) {entry : K × Tree K A}
    (hmem : entry ∈ entries) :
    (M.applyEntries [] entries).lookup (M.rename entry.1) = some (M.entry entry).2 := by
  have hkeys : ((entries.map M.entry).map Prod.fst).Nodup := by
    rw [List.map_map]
    exact h
  rw [applyEntries_eq (by simpa using h), List.nil_append, lookup_eq_some_iff_mem hkeys]
  exact List.mem_map_of_mem hmem

/-- Where no key above it is hidden, a value can be told from the masked tree. -/
theorem apply_of_fill (hrename : Function.Injective M.rename) {c : Context K A} {t u : Tree K A}
    (hnodup : c.KeysNodup) (hshown : ∀ key ∈ c.keys, ¬ M.hides (M.rename key) = true)
    (h : M.apply (c.fill t) = M.apply (c.fill u)) : M.apply t = M.apply u := by
  induction c with
  | hole => exact h
  | item before c after ih =>
      refine ih hnodup hshown ?_
      rw [Context.fill, Context.fill, Mask.apply, Mask.apply, Tree.seq.injEq, applyItems_eq,
        applyItems_eq, List.map_append, List.map_append, List.append_cancel_left_eq, List.map_cons,
        List.map_cons, List.cons.injEq] at h
      exact h.1
  | value before key c after ih =>
      have hkeys : ∀ t, ((before ++ (key, c.fill t) :: after).map fun e => M.rename e.1).Nodup := by
        intro t
        have hmapped := hnodup.1.map hrename
        rw [List.map_append, List.map_cons, List.map_map, List.map_map] at hmapped
        rw [List.map_append, List.map_cons]
        exact hmapped
      refine ih hnodup.2 (fun key' hkey' => hshown key' (List.mem_cons_of_mem _ hkey')) ?_
      rw [Context.fill, Context.fill, Mask.apply, Mask.apply, Tree.map.injEq,
        applyEntries_eq (by simpa using hkeys t), applyEntries_eq (by simpa using hkeys u),
        List.nil_append, List.nil_append, List.map_append, List.map_append,
        List.append_cancel_left_eq, List.map_cons, List.map_cons, List.cons.injEq] at h
      have hentry := congrArg Prod.snd h.1
      simp only [Mask.entry, if_neg (hshown key List.mem_cons_self)] at hentry
      exact hentry

/-- Below a hidden key it makes no difference. -/
theorem apply_fill_of_hidden {c : Context K A}
    (hhidden : ∃ key ∈ c.keys, M.hides (M.rename key) = true) (t u : Tree K A) :
    M.apply (c.fill t) = M.apply (c.fill u) := by
  induction c with
  | hole =>
      obtain ⟨key, hkey, -⟩ := hhidden
      cases hkey
  | item before c after ih =>
      rw [Context.fill, Context.fill, Mask.apply, Mask.apply, applyItems_eq, applyItems_eq,
        List.map_append, List.map_append, List.map_cons, List.map_cons, ih hhidden]
  | value before key c after ih =>
      have hentry : M.entry (key, c.fill t) = M.entry (key, c.fill u) := by
        unfold Mask.entry
        by_cases hkey : M.hides (M.rename key) = true
        · rw [if_pos hkey, if_pos hkey]
        · obtain ⟨key', hmem, hhides⟩ := hhidden
          rcases List.mem_cons.mp hmem with rfl | hmem
          · exact absurd hhides hkey
          · rw [ih ⟨key', hmem, hhides⟩]
      rw [Context.fill, Context.fill, Mask.apply, Mask.apply, applyEntries_eq_foldl,
        applyEntries_eq_foldl, List.map_append, List.map_append, List.map_cons, List.map_cons,
          hentry]

/-- **A value makes no difference exactly below a hidden key**, for a mask that tells some values
apart. -/
theorem independent_iff (hrename : Function.Injective M.rename) {x y : Tree K A}
    (hdiffer : M.apply x ≠ M.apply y) {c : Context K A} {t : Tree K A} (hnodup : c.KeysNodup) :
    (∀ u, M.apply (c.fill u) = M.apply (c.fill t)) ↔
      ∃ key ∈ c.keys, M.hides (M.rename key) = true := by
  constructor
  · intro hsame
    by_contra hshown
    refine hdiffer (apply_of_fill hrename hnodup ?_ ((hsame x).trans (hsame y).symm))
    exact fun key hkey hhides => hshown ⟨key, hkey, hhides⟩
  · exact fun hhidden u => apply_fill_of_hidden hhidden u t

end Independent

end Masking
