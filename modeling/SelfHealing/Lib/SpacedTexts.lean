/-
Texts of trees with blanks behind commas and colons, at the end of other texts.

Blanks may also stand in strings, and so may brackets and quotation marks that are escaped there.  A
reader that knows whether it is in a string can leave out the blanks that are not (`squeeze`), and
count the brackets that are open (`run`).

Whatever is written before the text of a dictionary, it can be told where that text begins: none of
its proper ends is the text of a dictionary (`no_proper_suffix`).  Read from within a string, such a
text would end in a string again, as its strings and what is between them change places.
-/
import SelfHealing.Lib.Canonical

namespace Canonical

def quote : Char := Char.ofNat 34

def backslash : Char := Char.ofNat 92

/-- What may follow a backslash. -/
def escapable : List Char := [quote, backslash, '/', 'b', 'f', 'n', 'r', 't', 'u']

/-- Where a reader is. -/
inductive Place
  | outside
  | inside
  | escaped
deriving DecidableEq

def Place.next : Place → Char → Place
  | .outside, c => if c = quote then .inside else .outside
  | .inside, c => if c = quote then .outside else if c = backslash then .escaped else .inside
  | .escaped, _ => .inside

/-- A text without the blanks outside of strings. -/
def squeeze : Place → List Char → List Char
  | _, [] => []
  | place, c :: rest =>
      if place = .outside ∧ c = ' ' then squeeze place rest
      else c :: squeeze (place.next c) rest

/-- Where a reader is, and how many brackets are open. -/
structure Scan where
  place : Place
  depth : Nat
deriving DecidableEq

/-- Read a character; nothing, if it cannot stand there. -/
def Scan.step (s : Scan) (c : Char) : Option Scan :=
  match s.place with
  | .outside =>
      if c = backslash then none
      else if c = '{' ∨ c = '[' then some ⟨.outside, s.depth + 1⟩
      else if c = '}' ∨ c = ']' then
        if s.depth = 0 then none else some ⟨.outside, s.depth - 1⟩
      else some ⟨Place.outside.next c, s.depth⟩
  | .inside => some ⟨Place.inside.next c, s.depth⟩
  | .escaped => if c ∈ escapable then some ⟨.inside, s.depth⟩ else none

def Scan.run : Scan → List Char → Option Scan
  | s, [] => some s
  | s, c :: rest => (s.step c).bind fun s' => s'.run rest

/-- Every bracket and every string that is opened in the text is closed in it. -/
def Balanced (text : List Char) : Prop := Scan.run ⟨.outside, 0⟩ text = some ⟨.outside, 0⟩

instance (text : List Char) : Decidable (Balanced text) :=
  inferInstanceAs (Decidable (Scan.run ⟨.outside, 0⟩ text = some ⟨.outside, 0⟩))

/-! ### Reading

The reader goes through a text character by character, and it knows two things: whether it is in a
string, and how many brackets are open.
-/

theorem run_append (s : Scan) (text rest : List Char) :
    s.run (text ++ rest) = (s.run text).bind fun s' => s'.run rest := by
  induction text generalizing s with
  | nil => rfl
  | cons c text ih =>
      rw [List.cons_append, Scan.run, Scan.run]
      cases s.step c with
      | none => rfl
      | some s' => exact ih s'

/-- With more brackets open, what can be read is read alike. -/
theorem step_deeper {s s' : Scan} {c : Char} (h : s.step c = some s') (k : Nat) :
    Scan.step ⟨s.place, s.depth + k⟩ c = some ⟨s'.place, s'.depth + k⟩ := by
  obtain ⟨place, depth⟩ := s
  cases place with
  | outside =>
      simp only [Scan.step] at h ⊢
      by_cases hback : c = backslash
      · rw [if_pos hback] at h
        cases h
      · rw [if_neg hback] at h ⊢
        by_cases hopen : c = '{' ∨ c = '['
        · rw [if_pos hopen] at h ⊢
          cases h
          rw [Nat.add_right_comm]
        · rw [if_neg hopen] at h ⊢
          by_cases hclose : c = '}' ∨ c = ']'
          · rw [if_pos hclose] at h ⊢
            by_cases hzero : depth = 0
            · rw [if_pos hzero] at h
              cases h
            · rw [if_neg hzero] at h
              cases h
              rw [if_neg (by omega), show depth + k - 1 = depth - 1 + k by omega]
          · rw [if_neg hclose] at h ⊢
            cases h
            rfl
  | inside =>
      cases h
      rfl
  | escaped =>
      simp only [Scan.step] at h ⊢
      split at h
      · rename_i hc
        cases h
        rw [if_pos hc]
      · cases h

theorem run_deeper {s s' : Scan} {text : List Char} (h : s.run text = some s') (k : Nat) :
    Scan.run ⟨s.place, s.depth + k⟩ text = some ⟨s'.place, s'.depth + k⟩ := by
  induction text generalizing s with
  | nil =>
      cases h
      rfl
  | cons c text ih =>
      obtain ⟨next, hstep, hrun⟩ := Option.bind_eq_some_iff.mp h
      exact Option.bind_eq_some_iff.mpr ⟨_, step_deeper hstep k, ih hrun⟩

theorem step_outside {s s' : Scan} {c : Char} (h : s.step c = some s')
    (hplace : s.place = .outside) : c ≠ backslash ∧ s'.place = Place.outside.next c := by
  obtain ⟨place, depth⟩ := s
  simp only at hplace
  subst hplace
  simp only [Scan.step] at h
  have hbracket : c = '{' ∨ c = '[' ∨ c = '}' ∨ c = ']' → Place.outside.next c = .outside := by
    rintro (rfl | rfl | rfl | rfl) <;> decide
  by_cases hback : c = backslash
  · rw [if_pos hback] at h
    cases h
  refine ⟨hback, ?_⟩
  rw [if_neg hback] at h
  by_cases hopen : c = '{' ∨ c = '['
  · rw [if_pos hopen] at h
    cases h
    exact (hbracket (by tauto)).symm
  rw [if_neg hopen] at h
  by_cases hclose : c = '}' ∨ c = ']'
  · rw [if_pos hclose] at h
    split at h
    · cases h
    · cases h
      exact (hbracket (by tauto)).symm
  · rw [if_neg hclose] at h
    cases h
    rfl

theorem step_inside {s s' : Scan} {c : Char} (h : s.step c = some s')
    (hplace : s.place = .inside) : s'.place = Place.inside.next c := by
  obtain ⟨place, depth⟩ := s
  simp only at hplace
  subst hplace
  cases h
  rfl

/-- Of two readers, one outside and one inside of a string, a quotation mark makes the one what the
other was.  Nothing else moves them: where there is a backslash, the one outside is stuck. -/
theorem step_opposite {s s' t t' : Scan} {c : Char} (hs : s.step c = some s')
    (ht : t.step c = some t') (hplace : s.place = .outside) (hplace' : t.place = .inside) :
    s'.place = .outside ∧ t'.place = .inside ∨ s'.place = .inside ∧ t'.place = .outside := by
  obtain ⟨hback, hnext⟩ := step_outside hs hplace
  have hnext' := step_inside ht hplace'
  by_cases hquote : c = quote
  · right
    rw [hnext, hnext', hquote]
    exact ⟨rfl, rfl⟩
  · left
    rw [hnext, hnext']
    exact ⟨if_neg hquote, (if_neg hquote).trans (if_neg hback)⟩

/-- What stands in strings and what stands between them change places, where a text is read from
within a string. -/
theorem run_opposite {text : List Char} {s s' t t' : Scan} (hs : s.run text = some s')
    (ht : t.run text = some t')
    (hplace : s.place = .outside ∧ t.place = .inside ∨ s.place = .inside ∧ t.place = .outside) :
    s'.place = .outside ∧ t'.place = .inside ∨ s'.place = .inside ∧ t'.place = .outside := by
  induction text generalizing s t with
  | nil =>
      cases hs
      cases ht
      exact hplace
  | cons c text ih =>
      obtain ⟨u, hstep, hrun⟩ := Option.bind_eq_some_iff.mp hs
      obtain ⟨v, hstep', hrun'⟩ := Option.bind_eq_some_iff.mp ht
      refine ih hrun hrun' ?_
      rcases hplace with ⟨hplace, hplace'⟩ | ⟨hplace, hplace'⟩
      · exact step_opposite hstep hstep' hplace hplace'
      · rcases step_opposite hstep' hstep hplace' hplace with ⟨hv, hu⟩ | ⟨hv, hu⟩
        · exact Or.inr ⟨hu, hv⟩
        · exact Or.inl ⟨hu, hv⟩

/-! ### Balanced texts -/

theorem Balanced.run {text : List Char} (h : Balanced text) (depth : Nat) :
    Scan.run ⟨.outside, depth⟩ text = some ⟨.outside, depth⟩ := by
  have hrun := run_deeper h depth
  rwa [Nat.zero_add] at hrun

theorem Balanced.append {text rest : List Char} (h : Balanced text) (h' : Balanced rest) :
    Balanced (text ++ rest) := by
  unfold Balanced at *
  rw [run_append, h]
  exact h'

/-- Between brackets. -/
theorem Balanced.between {text : List Char} (h : Balanced text) {opening closing : Char}
    (hopen : opening = '{' ∨ opening = '[') (hclose : closing = '}' ∨ closing = ']') :
    Balanced (opening :: (text ++ [closing])) := by
  have hfirst : Scan.step ⟨.outside, 0⟩ opening = some ⟨.outside, 1⟩ := by
    rcases hopen with rfl | rfl <;> decide
  have hlast : Scan.run ⟨.outside, 1⟩ [closing] = some ⟨.outside, 0⟩ := by
    rcases hclose with rfl | rfl <;> decide
  unfold Balanced
  rw [Scan.run, hfirst, Option.bind_some, run_append, h.run 1]
  exact hlast

/-- A character that is no bracket, quotation mark or backslash. -/
def plain (c : Char) : Bool := !(['{', '[', '}', ']', quote, backslash].contains c)

theorem balanced_plain {text : List Char} (h : ∀ c ∈ text, plain c = true) : Balanced text := by
  induction text with
  | nil => rfl
  | cons c text ih =>
      obtain ⟨hc, htext⟩ := List.forall_mem_cons.mp h
      simp only [plain, Bool.not_eq_true', List.contains_eq_mem, List.mem_cons, List.not_mem_nil,
        or_false, decide_eq_false_iff_not, not_or] at hc
      obtain ⟨hbrace, hbracket, hbrace', hbracket', hquote, hback⟩ := hc
      have hstep : Scan.step ⟨.outside, 0⟩ c = some ⟨.outside, 0⟩ := by
        simp [Scan.step, Place.next, hback, hbrace, hbracket, hbrace', hbracket', hquote]
      unfold Balanced
      rw [Scan.run, hstep]
      exact ih htext

/-- The text of a dictionary: a balanced one in braces. -/
def Braced (text : List Char) : Prop := ∃ body, Balanced body ∧ text = '{' :: (body ++ ['}'])

/-- **No proper end of such a text is such a text.** -/
theorem no_proper_suffix {before text text' : List Char} (h : Braced text) (h' : Braced text')
    (heq : text' = before ++ text) : before = [] := by
  obtain ⟨body, hbody, rfl⟩ := h
  obtain ⟨body', hbody', rfl⟩ := h'
  cases before with
  | nil => rfl
  | cons c before =>
      rw [List.cons_append, List.cons.injEq] at heq
      have hclosed : body' ++ ['}'] = (before ++ '{' :: body) ++ ['}'] := by
        rw [heq.2, List.append_assoc, List.cons_append]
      have hrest := List.append_cancel_right hclosed
      unfold Balanced at hbody'
      rw [hrest, run_append] at hbody'
      obtain ⟨⟨place, depth⟩, -, hrun⟩ := Option.bind_eq_some_iff.mp hbody'
      obtain ⟨s, hstep, hrun⟩ := Option.bind_eq_some_iff.mp hrun
      cases place with
      | outside =>
          -- the brace would be open at the end
          cases hstep
          rw [hbody.run] at hrun
          cases hrun
      | inside =>
          cases hstep
          have hends := run_opposite hbody hrun (Or.inl ⟨rfl, rfl⟩)
          simp at hends
      | escaped => cases hstep

/-! ### Spaced texts

With the blanks left out a spaced text is a text without them, and so it is told apart from others in
the same way.
-/

variable {K A : Type}

/-- Parts with a comma and a blank between them. -/
def spacedCommas : List (List Char) → List Char
  | [] => []
  | part :: rest => part ++ rest.flatMap fun part => ',' :: ' ' :: part

mutual

/-- The text of a tree, with blanks behind commas and colons. -/
def Printer.spaced (P : Printer K A) : Tree K A → List Char
  | .atom a => P.atom a
  | .seq items => '[' :: (spacedCommas (P.spacedItems items) ++ [']'])
  | .map entries => '{' :: (spacedCommas (P.spacedEntries entries) ++ ['}'])

def Printer.spacedItems (P : Printer K A) : List (Tree K A) → List (List Char)
  | [] => []
  | t :: rest => P.spaced t :: P.spacedItems rest

def Printer.spacedEntries (P : Printer K A) : List (K × Tree K A) → List (List Char)
  | [] => []
  | (k, t) :: rest => (P.key k ++ ':' :: ' ' :: P.spaced t) :: P.spacedEntries rest

end

/-- A text in which no blank is outside of a string. -/
def Kept (text : List Char) : Prop :=
  ∀ rest, squeeze .outside (text ++ rest) = text ++ squeeze .outside rest

/-- Atoms and keys are balanced, and have no blanks but in strings. -/
structure Printer.Quoted (P : Printer K A) : Prop where
  atom_kept : ∀ a, Kept (P.atom a)
  key_kept : ∀ k, Kept (P.key k)
  atom_balanced : ∀ a, Balanced (P.atom a)
  key_balanced : ∀ k, Balanced (P.key k)

theorem spacedItems_eq (P : Printer K A) (items : List (Tree K A)) :
    P.spacedItems items = items.map P.spaced := by
  induction items with
  | nil => rfl
  | cons t rest ih => simp only [Printer.spacedItems, List.map_cons, ih]

theorem spacedEntries_eq (P : Printer K A) (entries : List (K × Tree K A)) :
    P.spacedEntries entries =
      entries.map fun e => P.key e.1 ++ ':' :: ' ' :: P.spaced e.2 := by
  induction entries with
  | nil => rfl
  | cons e rest ih => simp only [Printer.spacedEntries, List.map_cons, ih]

theorem squeeze_cons {c : Char} (hblank : c ≠ ' ') (hquote : c ≠ quote) (rest : List Char) :
    squeeze .outside (c :: rest) = c :: squeeze .outside rest := by
  rw [squeeze, if_neg fun h => hblank h.2, Place.next, if_neg hquote]

theorem squeeze_blank (rest : List Char) :
    squeeze .outside (' ' :: rest) = squeeze .outside rest := by
  rw [squeeze, if_pos ⟨rfl, rfl⟩]

/-- Parts whose blanks can be left out, with blanks between them. -/
theorem squeeze_commas {X : Type} {print print' : X → List Char} {xs : List X}
    (h : ∀ x ∈ xs, ∀ rest, squeeze .outside (print x ++ rest) =
      print' x ++ squeeze .outside rest) (rest : List Char) :
    squeeze .outside (spacedCommas (xs.map print) ++ rest) =
      commas (xs.map print') ++ squeeze .outside rest := by
  have hmore : ∀ xs : List X, (∀ x ∈ xs, ∀ rest, squeeze .outside (print x ++ rest) =
      print' x ++ squeeze .outside rest) → ∀ rest,
      squeeze .outside (((xs.map print).flatMap fun part => ',' :: ' ' :: part) ++ rest) =
        ((xs.map print').flatMap fun part => ',' :: part) ++ squeeze .outside rest := by
    intro xs hxs rest
    induction xs with
    | nil => rfl
    | cons x xs ih =>
        obtain ⟨hx, hrest⟩ := List.forall_mem_cons.mp hxs
        simp only [List.map_cons, List.flatMap_cons, List.cons_append, List.append_assoc]
        rw [squeeze_cons (by decide) (by decide), squeeze_blank, hx, ih hrest]
  cases xs with
  | nil => rfl
  | cons x xs =>
      obtain ⟨hx, hrest⟩ := List.forall_mem_cons.mp h
      simp only [List.map_cons, spacedCommas, commas, List.append_assoc]
      rw [hx, hmore xs hrest]

/-- Without the blanks it is the text that has none. -/
theorem squeeze_spaced {P : Printer K A} (hP : P.Quoted) (t : Tree K A) :
    ∀ rest, squeeze .outside (P.spaced t ++ rest) = P.render t ++ squeeze .outside rest := by
  induction t with
  | atom a => exact hP.atom_kept a
  | seq items ih =>
      intro rest
      simp only [Printer.spaced, Printer.render, spacedItems_eq, renderItems_eq,
        List.cons_append, List.append_assoc, List.nil_append]
      rw [squeeze_cons (by decide) (by decide), squeeze_commas ih,
        squeeze_cons (by decide) (by decide)]
  | map entries ih =>
      intro rest
      simp only [Printer.spaced, Printer.render, spacedEntries_eq, renderEntries_eq,
        List.cons_append, List.append_assoc, List.nil_append]
      have hentry : ∀ e ∈ entries, ∀ rest,
          squeeze .outside ((P.key e.1 ++ ':' :: ' ' :: P.spaced e.2) ++ rest) =
            P.entry e ++ squeeze .outside rest := by
        intro e he rest
        unfold Printer.entry
        simp only [List.append_assoc, List.cons_append]
        rw [hP.key_kept, squeeze_cons (by decide) (by decide), squeeze_blank, ih e he]
      rw [squeeze_cons (by decide) (by decide), squeeze_commas hentry,
        squeeze_cons (by decide) (by decide)]

theorem balanced_commas {parts : List (List Char)} (h : ∀ part ∈ parts, Balanced part) :
    Balanced (spacedCommas parts) := by
  have hcomma : Balanced [',', ' '] := by decide
  have hmore : ∀ parts : List (List Char), (∀ part ∈ parts, Balanced part) →
      Balanced (parts.flatMap fun part => ',' :: ' ' :: part) := by
    intro parts hparts
    induction parts with
    | nil => rfl
    | cons part parts ih =>
        obtain ⟨hpart, hrest⟩ := List.forall_mem_cons.mp hparts
        exact (hcomma.append hpart).append (ih hrest)
  cases parts with
  | nil => rfl
  | cons part parts =>
      obtain ⟨hpart, hrest⟩ := List.forall_mem_cons.mp h
      exact hpart.append (hmore parts hrest)

theorem balanced_entry {P : Printer K A} (hP : P.Quoted) (k : K) {text : List Char}
    (h : Balanced text) : Balanced (P.key k ++ ':' :: ' ' :: text) := by
  have hcolon : Balanced [':', ' '] := by decide
  exact (hP.key_balanced k).append (hcolon.append h)

theorem balanced_spaced {P : Printer K A} (hP : P.Quoted) (t : Tree K A) :
    Balanced (P.spaced t) := by
  induction t with
  | atom a => exact hP.atom_balanced a
  | seq items ih =>
      rw [Printer.spaced, spacedItems_eq]
      refine Balanced.between (balanced_commas ?_) (Or.inr rfl) (Or.inr rfl)
      exact List.forall_mem_map.mpr ih
  | map entries ih =>
      rw [Printer.spaced, spacedEntries_eq]
      refine Balanced.between (balanced_commas ?_) (Or.inl rfl) (Or.inl rfl)
      exact List.forall_mem_map.mpr fun e he => balanced_entry hP e.1 (ih e he)

theorem braced_spaced {P : Printer K A} (hP : P.Quoted) (entries : List (K × Tree K A)) :
    Braced (P.spaced (.map entries)) := by
  refine ⟨spacedCommas (P.spacedEntries entries), balanced_commas ?_, rfl⟩
  rw [spacedEntries_eq]
  exact List.forall_mem_map.mpr fun e _ => balanced_entry hP e.1 (balanced_spaced hP e.2)

theorem spaced_injective {P : Printer K A} (hread : P.Readable) (hP : P.Quoted) {t t' : Tree K A}
    (h : P.spaced t = P.spaced t') : t = t' := by
  have hsqueeze := congrArg (squeeze .outside) h
  have hall : ∀ u, squeeze .outside (P.spaced u) = P.render u := by
    intro u
    have hu := squeeze_spaced hP u []
    rwa [List.append_nil, squeeze, List.append_nil] at hu
  rw [hall, hall] at hsqueeze
  exact render_injective hread hsqueeze

/-- **At the end of a text**, the text of a dictionary can be told from what is written before. -/
theorem spaced_suffix {P : Printer K A} (hread : P.Readable) (hP : P.Quoted)
    {before before' : List Char} {entries entries' : List (K × Tree K A)}
    (h : before ++ P.spaced (.map entries) = before' ++ P.spaced (.map entries')) :
    before = before' ∧ entries = entries' := by
  have hsame : P.spaced (.map entries) = P.spaced (.map entries') := by
    rcases List.append_eq_append_iff.mp h with ⟨between, -, heq⟩ | ⟨between, -, heq⟩
    · rw [no_proper_suffix (braced_spaced hP entries') (braced_spaced hP entries) heq,
        List.nil_append] at heq
      exact heq
    · rw [no_proper_suffix (braced_spaced hP entries) (braced_spaced hP entries') heq,
        List.nil_append] at heq
      exact heq.symm
  rw [hsame] at h
  exact ⟨List.append_cancel_right h, Tree.map.inj (spaced_injective hread hP hsame)⟩

end Canonical
