/-
Texts of trees, and their canonical form.

A tree has atoms at its leaves, and sequences and dictionaries above them.  Its text writes both
in brackets, with commas between the parts.  Read from the left, such a text can be read in one
way only, as long as that is so of atoms and of keys; `Printer.Readable` is what is asked of them.

The canonical text of a tree has the keys of every dictionary in order.  Two trees have the same
canonical text if and only if one is the other with the entries of its dictionaries reordered
(`canonical_eq_iff`).
-/
import SelfHealing.Lib.Priority

namespace Canonical

/-- A tree with keys in `K` and atoms in `A`. -/
inductive Tree (K A : Type)
  | atom (a : A)
  | seq (items : List (Tree K A))
  | map (entries : List (K × Tree K A))

variable {K A : Type}

/-- A property of every item of a sequence and of every value of a dictionary is one of all
trees. -/
@[elab_as_elim, induction_eliminator]
theorem Tree.induction {motive : Tree K A → Prop} (atom : ∀ a, motive (.atom a))
    (seq : ∀ items, (∀ t ∈ items, motive t) → motive (.seq items))
    (map : ∀ entries, (∀ e ∈ entries, motive e.2) → motive (.map entries)) (t : Tree K A) :
    motive t := by
  refine @Tree.rec K A motive (fun items => ∀ t ∈ items, motive t)
    (fun entries => ∀ e ∈ entries, motive e.2) (fun e => motive e.2) atom seq map ?_ ?_ ?_ ?_ ?_ t
  · simp
  · intro t items ht hitems t' ht'
    rcases List.mem_cons.mp ht' with rfl | hmem
    · exact ht
    · exact hitems t' hmem
  · simp
  · intro e entries he hentries e' he'
    rcases List.mem_cons.mp he' with rfl | hmem
    · exact he
    · exact hentries e' hmem
  · intro k t ht
    exact ht

/-! ### Texts -/

/-- How atoms and keys are written.  Brackets, commas and colons are the same for all printers, so a
printer is given by these two. -/
structure Printer (K A : Type) where
  atom : A → List Char
  key : K → List Char

/-- Parts with commas between them. -/
def commas : List (List Char) → List Char
  | [] => []
  | part :: rest => part ++ rest.flatMap fun part => ',' :: part

mutual

/-- The text of a tree. -/
def Printer.render (P : Printer K A) : Tree K A → List Char
  | .atom a => P.atom a
  | .seq items => '[' :: (commas (P.renderItems items) ++ [']'])
  | .map entries => '{' :: (commas (P.renderEntries entries) ++ ['}'])

def Printer.renderItems (P : Printer K A) : List (Tree K A) → List (List Char)
  | [] => []
  | t :: rest => P.render t :: P.renderItems rest

def Printer.renderEntries (P : Printer K A) : List (K × Tree K A) → List (List Char)
  | [] => []
  | (k, t) :: rest => (P.key k ++ ':' :: P.render t) :: P.renderEntries rest

end

theorem renderItems_eq (P : Printer K A) (items : List (Tree K A)) :
    P.renderItems items = items.map P.render := by
  induction items with
  | nil => rfl
  | cons t rest ih => simp only [Printer.renderItems, List.map_cons, ih]

/-- An entry of a dictionary. -/
def Printer.entry (P : Printer K A) (e : K × Tree K A) : List Char :=
  P.key e.1 ++ ':' :: P.render e.2

theorem renderEntries_eq (P : Printer K A) (entries : List (K × Tree K A)) :
    P.renderEntries entries = entries.map P.entry := by
  induction entries with
  | nil => rfl
  | cons e rest ih =>
      simp only [Printer.renderEntries, List.map_cons, ih]
      rfl

/-! ### Reading a text

A text is told from what follows it: two texts of trees that are followed by something that may
follow one are the same as soon as the whole is.  So the printer is injective, and so it stays when
its text stands at the beginning of another.
-/

/-- What may follow a part: nothing, a comma or a closing bracket. -/
def Ends (rest : List Char) : Prop := ∀ c ∈ rest.head?, c = ',' ∨ c = ']' ∨ c = '}'

/-- Atoms and keys can be read in one way only, and tell themselves from the brackets. -/
structure Printer.Readable (P : Printer K A) : Prop where
  atom_inj : ∀ a a' rest rest', Ends rest → Ends rest' →
    P.atom a ++ rest = P.atom a' ++ rest' → a = a' ∧ rest = rest'
  atom_head : ∀ a, ∃ c rest, P.atom a = c :: rest ∧ c ≠ '[' ∧ c ≠ '{' ∧ c ≠ ']'
  key_inj : ∀ k k' rest rest', P.key k ++ ':' :: rest = P.key k' ++ ':' :: rest' →
    k = k' ∧ rest = rest'
  key_head : ∀ k, ∃ c rest, P.key k = c :: rest ∧ c ≠ '}'

section Reading

variable {X : Type} {print : X → List Char} {close : Char}

/-- Once `x` is written, it is known, whatever comes after it. -/
def Told (print : X → List Char) (x : X) : Prop :=
  ∀ x' rest rest', Ends rest → Ends rest' → print x ++ rest = print x' ++ rest' →
    x = x' ∧ rest = rest'

theorem ends_more (hclose : close = ']' ∨ close = '}') (parts : List (List Char))
    (rest : List Char) : Ends ((parts.flatMap fun part => ',' :: part) ++ close :: rest) := by
  intro c hc
  cases parts with
  | nil =>
      simp only [List.flatMap_nil, List.nil_append, List.head?_cons, Option.mem_def,
        Option.some.injEq] at hc
      rw [← hc]
      exact Or.inr hclose
  | cons part parts =>
      simp only [List.flatMap_cons, List.cons_append, List.head?_cons, Option.mem_def,
        Option.some.injEq] at hc
      exact Or.inl hc.symm

/-- The parts after the first, each behind a comma. -/
theorem more_inj (hclose : close = ']' ∨ close = '}') {xs : List X}
    (htold : ∀ x ∈ xs, Told print x) : ∀ {xs' : List X} {rest rest' : List Char},
    ((xs.map print).flatMap fun part => ',' :: part) ++ close :: rest =
      ((xs'.map print).flatMap fun part => ',' :: part) ++ close :: rest' →
    xs = xs' ∧ rest = rest' := by
  have hcomma : close ≠ ',' := by
    rcases hclose with rfl | rfl <;> decide
  induction xs with
  | nil =>
      intro xs' rest rest' h
      cases xs' with
      | nil => simpa using h
      | cons x' xs' =>
          simp only [List.map_nil, List.flatMap_nil, List.nil_append, List.map_cons,
            List.flatMap_cons, List.cons_append, List.cons.injEq] at h
          exact absurd h.1 hcomma
  | cons x xs ih =>
      intro xs' rest rest' h
      cases xs' with
      | nil =>
          simp only [List.map_nil, List.flatMap_nil, List.nil_append, List.map_cons,
            List.flatMap_cons, List.cons_append, List.cons.injEq] at h
          exact absurd h.1.symm hcomma
      | cons x' xs' =>
          simp only [List.map_cons, List.flatMap_cons, List.cons_append, List.append_assoc,
            List.cons.injEq, true_and] at h
          obtain ⟨hx, hrest⟩ := htold x List.mem_cons_self x' _ _ (ends_more hclose _ _)
            (ends_more hclose _ _) h
          obtain ⟨hxs, hrest⟩ := ih (fun x hx => htold x (List.mem_cons_of_mem _ hx)) hrest
          exact ⟨by rw [hx, hxs], hrest⟩

/-- Parts between brackets. -/
theorem commas_inj (hclose : close = ']' ∨ close = '}')
    (hhead : ∀ x, ∃ c rest, print x = c :: rest ∧ c ≠ close) {xs xs' : List X}
    (htold : ∀ x ∈ xs, Told print x) {rest rest' : List Char}
    (h : commas (xs.map print) ++ close :: rest = commas (xs'.map print) ++ close :: rest') :
    xs = xs' ∧ rest = rest' := by
  cases xs with
  | nil =>
      cases xs' with
      | nil => simpa [commas] using h
      | cons x' xs' =>
          obtain ⟨c, text, htext, hc⟩ := hhead x'
          simp only [List.map_nil, List.map_cons, commas, htext, List.nil_append,
            List.cons_append, List.cons.injEq] at h
          exact absurd h.1.symm hc
  | cons x xs =>
      cases xs' with
      | nil =>
          obtain ⟨c, text, htext, hc⟩ := hhead x
          simp only [List.map_nil, List.map_cons, commas, htext, List.nil_append,
            List.cons_append, List.cons.injEq] at h
          exact absurd h.1 hc
      | cons x' xs' =>
          simp only [List.map_cons, commas, List.append_assoc] at h
          obtain ⟨hx, hrest⟩ := htold x List.mem_cons_self x' _ _ (ends_more hclose _ _)
            (ends_more hclose _ _) h
          obtain ⟨hxs, hrest⟩ := more_inj hclose
            (fun x hx => htold x (List.mem_cons_of_mem _ hx)) hrest
          exact ⟨by rw [hx, hxs], hrest⟩

end Reading

section Render

variable {P : Printer K A}

theorem render_head (hP : P.Readable) (t : Tree K A) :
    ∃ c rest, P.render t = c :: rest ∧ c ≠ ']' := by
  cases t with
  | atom a =>
      obtain ⟨c, rest, htext, -, -, hc⟩ := hP.atom_head a
      exact ⟨c, rest, by simp only [Printer.render, htext], hc⟩
  | seq items => exact ⟨'[', _, by simp only [Printer.render]; rfl, by decide⟩
  | map entries => exact ⟨'{', _, by simp only [Printer.render]; rfl, by decide⟩

/-- **A text is read in one way only.** -/
theorem told_render (hP : P.Readable) (t : Tree K A) : Told P.render t := by
  induction t with
  | atom a =>
      intro t' rest rest' hrest hrest' h
      obtain ⟨c, text, htext, hseq, hmap, -⟩ := hP.atom_head a
      cases t' with
      | atom a' =>
          simp only [Printer.render] at h
          obtain ⟨ha, hr⟩ := hP.atom_inj a a' rest rest' hrest hrest' h
          exact ⟨by rw [ha], hr⟩
      | seq items' =>
          simp only [Printer.render, htext, List.cons_append, List.cons.injEq] at h
          exact absurd h.1 hseq
      | map entries' =>
          simp only [Printer.render, htext, List.cons_append, List.cons.injEq] at h
          exact absurd h.1 hmap
  | seq items ih =>
      intro t' rest rest' hrest hrest' h
      cases t' with
      | atom a' =>
          obtain ⟨c, text, htext, hseq, -, -⟩ := hP.atom_head a'
          simp only [Printer.render, htext, List.cons_append, List.cons.injEq] at h
          exact absurd h.1.symm hseq
      | seq items' =>
          simp only [Printer.render, renderItems_eq, List.cons_append, List.append_assoc,
            List.nil_append, List.cons.injEq, true_and] at h
          obtain ⟨hitems, hr⟩ := commas_inj (Or.inl rfl) (render_head hP) ih h
          exact ⟨by rw [hitems], hr⟩
      | map entries' =>
          simp only [Printer.render, List.cons_append, List.cons.injEq] at h
          exact absurd h.1 (by decide)
  | map entries ih =>
      intro t' rest rest' hrest hrest' h
      cases t' with
      | atom a' =>
          obtain ⟨c, text, htext, -, hmap, -⟩ := hP.atom_head a'
          simp only [Printer.render, htext, List.cons_append, List.cons.injEq] at h
          exact absurd h.1.symm hmap
      | seq items' =>
          simp only [Printer.render, List.cons_append, List.cons.injEq] at h
          exact absurd h.1 (by decide)
      | map entries' =>
          simp only [Printer.render, renderEntries_eq, List.cons_append, List.append_assoc,
            List.nil_append, List.cons.injEq, true_and] at h
          have hhead : ∀ e, ∃ c rest, P.entry e = c :: rest ∧ c ≠ '}' := by
            intro e
            obtain ⟨c, text, htext, hc⟩ := hP.key_head e.1
            exact ⟨c, text ++ ':' :: P.render e.2, by simp only [Printer.entry, htext,
              List.cons_append], hc⟩
          have htold : ∀ e ∈ entries, Told P.entry e := by
            intro e he e' r r' hr hr' h
            simp only [Printer.entry, List.append_assoc, List.cons_append] at h
            obtain ⟨hk, h⟩ := hP.key_inj _ _ _ _ h
            obtain ⟨ht, h⟩ := ih e he e'.2 r r' hr hr' h
            exact ⟨Prod.ext hk ht, h⟩
          obtain ⟨hentries, hr⟩ := commas_inj (Or.inr rfl) hhead htold h
          exact ⟨by rw [hentries], hr⟩

theorem render_injective (hP : P.Readable) {t t' : Tree K A} (h : P.render t = P.render t') :
    t = t' := by
  have hnil : Ends [] := by
    intro c hc
    cases hc
  refine (told_render hP t t' [] [] hnil hnil ?_).1
  rw [List.append_nil, List.append_nil]
  exact h

end Render

/-! ### The order of entries

Trees are the same up to the order of entries if one becomes the other by reordering the entries of
its dictionaries, at any depth.
-/

/-- No dictionary of the tree has a key twice. -/
inductive Distinct : Tree K A → Prop
  | atom (a : A) : Distinct (.atom a)
  | seq {items : List (Tree K A)} (h : ∀ t ∈ items, Distinct t) : Distinct (.seq items)
  | map {entries : List (K × Tree K A)} (hkeys : (entries.map Prod.fst).Nodup)
      (h : ∀ e ∈ entries, Distinct e.2) : Distinct (.map entries)

/-- The entries of some dictionaries of the tree are in another order. -/
inductive Reordered : Tree K A → Tree K A → Prop
  | refl (t : Tree K A) : Reordered t t
  | symm {t t' : Tree K A} (h : Reordered t t') : Reordered t' t
  | trans {t t' t'' : Tree K A} (h : Reordered t t') (h' : Reordered t' t'') : Reordered t t''
  | keys {entries entries' : List (K × Tree K A)} (h : entries.Perm entries') :
      Reordered (.map entries) (.map entries')
  | item {t t' : Tree K A} (before after : List (Tree K A)) (h : Reordered t t') :
      Reordered (.seq (before ++ t :: after)) (.seq (before ++ t' :: after))
  | value {t t' : Tree K A} (k : K) (before after : List (K × Tree K A)) (h : Reordered t t') :
      Reordered (.map (before ++ (k, t) :: after)) (.map (before ++ (k, t') :: after))

/-- A dictionary with each key once, and with nothing in it that has entries of its own. -/
structure Flat (entries : List (K × Tree K A)) : Prop where
  keys : (entries.map Prod.fst).Nodup
  atoms : ∀ e ∈ entries, ∃ a, e.2 = .atom a

theorem Flat.distinct {entries : List (K × Tree K A)} (h : Flat entries) :
    Distinct (.map entries) := by
  refine .map h.keys fun e he => ?_
  obtain ⟨a, ha⟩ := h.atoms e he
  rw [ha]
  exact .atom a

/-- Items one after the other. -/
theorem reordered_seq {items items' : List (Tree K A)} (h : List.Forall₂ Reordered items items') :
    ∀ before, Reordered (.seq (before ++ items)) (.seq (before ++ items')) := by
  induction h with
  | nil => exact fun before => .refl _
  | @cons t t' rest rest' ht _ ih =>
      intro before
      refine (Reordered.item before rest ht).trans ?_
      have h := ih (before ++ [t'])
      simpa only [List.append_assoc, List.singleton_append] using h

/-- Entries one after the other. -/
theorem reordered_map {entries entries' : List (K × Tree K A)}
    (h : List.Forall₂ (fun e e' => e.1 = e'.1 ∧ Reordered e.2 e'.2) entries entries') :
    ∀ before, Reordered (.map (before ++ entries)) (.map (before ++ entries')) := by
  induction h with
  | nil => exact fun before => .refl _
  | @cons e e' rest rest' he _ ih =>
      intro before
      obtain ⟨k, t⟩ := e
      obtain ⟨k', t'⟩ := e'
      obtain ⟨hk, ht⟩ := he
      simp only at hk ht
      rw [hk]
      refine (Reordered.value k' before rest ht).trans ?_
      have h := ih (before ++ [(k', t')])
      simpa only [List.append_assoc, List.singleton_append] using h

/-! ### Keys in order -/

section Order

variable [LinearOrder K]

mutual

/-- The tree with the keys of every dictionary in order. -/
def Tree.sortKeys : Tree K A → Tree K A
  | .atom a => .atom a
  | .seq items => .seq (Tree.sortItems items)
  | .map entries => .map ((Tree.sortEntries entries).insertionSort fun e e' => e.1 ≤ e'.1)

def Tree.sortItems : List (Tree K A) → List (Tree K A)
  | [] => []
  | t :: rest => t.sortKeys :: Tree.sortItems rest

def Tree.sortEntries : List (K × Tree K A) → List (K × Tree K A)
  | [] => []
  | (k, t) :: rest => (k, t.sortKeys) :: Tree.sortEntries rest

end

@[simp] theorem sortKeys_atom (a : A) : (Tree.atom a : Tree K A).sortKeys = .atom a := rfl

@[simp] theorem sortKeys_seq (items : List (Tree K A)) :
    (Tree.seq items).sortKeys = .seq (items.map Tree.sortKeys) := by
  simp only [Tree.sortKeys]
  congr 1
  induction items with
  | nil => rfl
  | cons t rest ih => simp only [Tree.sortItems, List.map_cons, ih]

theorem sortEntries_eq (entries : List (K × Tree K A)) :
    Tree.sortEntries entries = entries.map (Prod.map id Tree.sortKeys) := by
  induction entries with
  | nil => rfl
  | cons e rest ih =>
      simp only [Tree.sortEntries, List.map_cons, ih]
      rfl

/-- The entries of a dictionary by their keys. -/
def sortByKey (entries : List (K × Tree K A)) : List (K × Tree K A) :=
  entries.insertionSort fun e e' => e.1 ≤ e'.1

@[simp] theorem sortKeys_map (entries : List (K × Tree K A)) :
    (Tree.map entries).sortKeys = .map (sortByKey (entries.map (Prod.map id Tree.sortKeys))) := by
  simp only [Tree.sortKeys, sortEntries_eq]
  rfl

theorem sortByKey_eq (entries : List (K × Tree K A)) :
    sortByKey entries = Priority.sortOn Prod.fst entries := rfl

theorem sortByKey_perm (entries : List (K × Tree K A)) : (sortByKey entries).Perm entries :=
  Priority.sortOn_perm Prod.fst entries

/-- Entries with distinct keys are sorted in one way only. -/
theorem sortByKey_congr {entries entries' : List (K × Tree K A)}
    (hkeys : (entries.map Prod.fst).Nodup) (h : entries.Perm entries') :
    sortByKey entries = sortByKey entries' := by
  rw [sortByKey_eq, sortByKey_eq]
  exact Priority.sortOn_congr hkeys h

theorem Reordered.sortKeys {t t' : Tree K A} (h : Reordered t t') :
    (Distinct t ↔ Distinct t') ∧ (Distinct t → t.sortKeys = t'.sortKeys) := by
  induction h with
  | refl t => exact ⟨Iff.rfl, fun _ => rfl⟩
  | symm h ih => exact ⟨ih.1.symm, fun hd => (ih.2 (ih.1.mpr hd)).symm⟩
  | trans h h' ih ih' =>
      exact ⟨ih.1.trans ih'.1, fun hd => (ih.2 hd).trans (ih'.2 (ih.1.mp hd))⟩
  | @keys entries entries' h =>
      refine ⟨⟨?_, ?_⟩, ?_⟩
      · rintro (_ | _ | ⟨hkeys, hvalues⟩)
        exact .map ((h.map Prod.fst).nodup_iff.mp hkeys)
          fun e he => hvalues e (h.mem_iff.mpr he)
      · rintro (_ | _ | ⟨hkeys, hvalues⟩)
        exact .map ((h.map Prod.fst).nodup_iff.mpr hkeys)
          fun e he => hvalues e (h.mem_iff.mp he)
      · rintro (_ | _ | ⟨hkeys, hvalues⟩)
        rw [sortKeys_map, sortKeys_map]
        congr 1
        refine sortByKey_congr ?_ (h.map _)
        rw [List.map_map]
        exact hkeys
  | @item t t' before after h ih =>
      have hitems : ∀ {u u' : Tree K A}, (Distinct u → Distinct u') →
          Distinct (.seq (before ++ u :: after)) → Distinct (.seq (before ++ u' :: after)) := by
        rintro u u' hu (_ | hall | _)
        refine .seq fun v hv => ?_
        rcases List.mem_append.mp hv with hv | hv
        · exact hall v (List.mem_append_left _ hv)
        · rcases List.mem_cons.mp hv with rfl | hv
          · exact hu (hall u (List.mem_append_right _ List.mem_cons_self))
          · exact hall v (List.mem_append_right _ (List.mem_cons_of_mem _ hv))
      refine ⟨⟨hitems ih.1.mp, hitems ih.1.mpr⟩, ?_⟩
      rintro (_ | hall | _)
      simp only [sortKeys_seq, List.map_append, List.map_cons]
      rw [ih.2 (hall t (List.mem_append_right _ List.mem_cons_self))]
  | @value t t' k before after h ih =>
      have hentries : ∀ {u u' : Tree K A}, (Distinct u → Distinct u') →
          Distinct (.map (before ++ (k, u) :: after)) →
          Distinct (.map (before ++ (k, u') :: after)) := by
        rintro u u' hu (_ | _ | ⟨hkeys, hvalues⟩)
        refine .map ?_ fun e he => ?_
        · simpa only [List.map_append, List.map_cons] using hkeys
        · rcases List.mem_append.mp he with he | he
          · exact hvalues e (List.mem_append_left _ he)
          · rcases List.mem_cons.mp he with rfl | he
            · exact hu (hvalues (k, u) (List.mem_append_right _ List.mem_cons_self))
            · exact hvalues e (List.mem_append_right _ (List.mem_cons_of_mem _ he))
      refine ⟨⟨hentries ih.1.mp, hentries ih.1.mpr⟩, ?_⟩
      rintro (_ | _ | ⟨hkeys, hvalues⟩)
      simp only [sortKeys_map, List.map_append, List.map_cons, Prod.map_apply, id_eq]
      rw [ih.2 (hvalues (k, t) (List.mem_append_right _ List.mem_cons_self))]

theorem reordered_sortKeys (t : Tree K A) : Reordered t t.sortKeys := by
  induction t with
  | atom a => exact .refl _
  | seq items ih =>
      rw [sortKeys_seq]
      refine reordered_seq ?_ []
      rw [List.forall₂_map_right_iff, List.forall₂_same]
      exact ih
  | map entries ih =>
      rw [sortKeys_map]
      have hvalues : Reordered (.map entries) (.map (entries.map (Prod.map id Tree.sortKeys))) := by
        refine reordered_map ?_ []
        rw [List.forall₂_map_right_iff, List.forall₂_same]
        exact fun e he => ⟨rfl, ih e he⟩
      exact hvalues.trans (.keys (sortByKey_perm _).symm)

/-- What is sorted into an atom is that atom. -/
theorem atom_of_sortKeys {t : Tree K A} {a : A} (h : t.sortKeys = .atom a) : t = .atom a := by
  cases t with
  | atom b => rwa [sortKeys_atom] at h
  | seq items =>
      rw [sortKeys_seq] at h
      cases h
  | map entries =>
      rw [sortKeys_map] at h
      cases h

/-- Entries that are sorted into atoms are these atoms already. -/
theorem map_sortKeys_atoms {entries : List (K × Tree K A)}
    (h : ∀ e ∈ entries, ∃ a, e.2.sortKeys = .atom a) :
    entries.map (Prod.map id Tree.sortKeys) = entries := by
  refine (List.map_congr_left fun e he => ?_).trans (List.map_id entries)
  obtain ⟨a, ha⟩ := h e he
  obtain ⟨k, t⟩ := e
  have ht : t = .atom a := atom_of_sortKeys ha
  rw [ht]
  rfl

/-- Of a flat dictionary, only the entries as they stand can be in another order. -/
theorem Flat.perm {entries entries' : List (K × Tree K A)} (h : Flat entries)
    (hsame : Reordered (.map entries) (.map entries')) : entries.Perm entries' := by
  have hsort := hsame.sortKeys.2 h.distinct
  have hatoms : ∀ e ∈ entries, ∃ a, e.2.sortKeys = .atom a := by
    intro e he
    obtain ⟨a, ha⟩ := h.atoms e he
    exact ⟨a, by rw [ha, sortKeys_atom]⟩
  rw [sortKeys_map, sortKeys_map, Tree.map.injEq, map_sortKeys_atoms hatoms] at hsort
  have hperm : entries.Perm (entries'.map (Prod.map id Tree.sortKeys)) := by
    refine (sortByKey_perm entries).symm.trans ?_
    rw [hsort]
    exact sortByKey_perm _
  have hatoms' : ∀ e ∈ entries', ∃ a, e.2.sortKeys = .atom a := by
    intro e he
    obtain ⟨a, ha⟩ := h.atoms _ (hperm.mem_iff.mpr (List.mem_map_of_mem he))
    exact ⟨a, ha⟩
  rwa [map_sortKeys_atoms hatoms'] at hperm

/-- What stands under one key, in dictionaries that are alike. -/
theorem sortKeys_value {entries entries' : List (K × Tree K A)}
    (h : (Tree.map entries).sortKeys = (Tree.map entries').sortKeys)
    (hkeys : (entries'.map Prod.fst).Nodup) {k : K} {t t' : Tree K A} (ht : (k, t) ∈ entries)
    (ht' : (k, t') ∈ entries') : t.sortKeys = t'.sortKeys := by
  rw [sortKeys_map, sortKeys_map, Tree.map.injEq] at h
  have hmem : (k, t.sortKeys) ∈ entries'.map (Prod.map id Tree.sortKeys) := by
    rw [← (sortByKey_perm _).mem_iff, ← h, (sortByKey_perm _).mem_iff]
    exact List.mem_map.mpr ⟨(k, t), ht, rfl⟩
  obtain ⟨e, he, heq⟩ := List.mem_map.mp hmem
  have hk : e.1 = k := congrArg Prod.fst heq
  have hsame : e = (k, t') := List.inj_on_of_nodup_map hkeys he ht' hk
  rw [hsame] at heq
  exact (congrArg Prod.snd heq).symm

/-- What stands in dictionaries that are alike and have the same keys in the same order. -/
theorem sortKeys_values {entries entries' : List (K × Tree K A)}
    (h : (Tree.map entries).sortKeys = (Tree.map entries').sortKeys)
    (hsame : entries.map Prod.fst = entries'.map Prod.fst) (hkeys : (entries.map Prod.fst).Nodup) :
    List.Forall₂ (fun e e' => e.2.sortKeys = e'.2.sortKeys) entries entries' := by
  have hfst : List.Forall₂ (fun e e' => e.1 = e'.1) entries entries' := by
    have heq : List.Forall₂ Eq (entries.map Prod.fst) (entries'.map Prod.fst) := by
      rw [List.forall₂_eq_eq_eq]
      exact hsame
    rwa [List.forall₂_map_left_iff, List.forall₂_map_right_iff] at heq
  obtain ⟨hlen, hzip⟩ := List.forall₂_iff_zip.mp hfst
  refine List.forall₂_iff_zip.mpr ⟨hlen, fun {e e'} hmem => ?_⟩
  obtain ⟨k, t⟩ := e
  obtain ⟨k', t'⟩ := e'
  have hk : k = k' := hzip hmem
  subst hk
  obtain ⟨he, he'⟩ := List.of_mem_zip hmem
  exact sortKeys_value h (by rwa [hsame] at hkeys) he he'

/-- The canonical text. -/
def Printer.canonical (P : Printer K A) (t : Tree K A) : List Char := P.render t.sortKeys

/-- **Two trees have one canonical text exactly when they differ in the order of entries only.** -/
theorem canonical_eq_iff {P : Printer K A} (hP : P.Readable) {t t' : Tree K A} (ht : Distinct t) :
    P.canonical t = P.canonical t' ↔ Reordered t t' := by
  constructor
  · intro h
    have hsort : t.sortKeys = t'.sortKeys := render_injective hP h
    refine (reordered_sortKeys t).trans ?_
    rw [hsort]
    exact (reordered_sortKeys t').symm
  · intro h
    unfold Printer.canonical
    rw [h.sortKeys.2 ht]

end Order

end Canonical
