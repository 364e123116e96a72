/-
Which secrets of an event are hidden in evidence too.

The redactor of events takes a key for sensitive by its name or a part of it, once spaces around it,
case and hyphens are out of the way.  The redactor of evidence asks for one of twelve names as a
whole, in any case and with a line break after it at most.  Nine names are known to both, and
nothing else is (`shared_iff`), so that a secret below another key is hidden in evidence only if it
is below a key that hides everything in it.

A word in any case is compared by its letters in lower case.  The forms of a letter that are not
ASCII stay what they are there, or become two characters, and so the few words that a name may
become are listed (`expansions`) and tried.
-/
import SelfHealing.Redaction

namespace SelfHealing

open Canonical Masking Regex

/-! ### The pattern of the evidence -/

/-- The key is the name in any case, with a line break after it at most. -/
def IsNamed (name key : String) : Prop :=
  ∃ body tail, key.toList = body ++ tail ∧ (tail = [] ∨ tail = ['\n']) ∧
    body.map foldCase = name.toList

/-- The key is one of the names that the redactor of evidence knows. -/
def EvidenceKey (key : String) : Prop := ∃ name ∈ evidenceSensitiveNames, IsNamed name key

theorem sensitiveKeyPattern_iff (key : String) :
    sensitiveKeyPattern.search key.toList = true ↔ EvidenceKey key := by
  unfold Expr.search
  rw [searchFrom_iff]
  constructor
  · rintro ⟨pre, post, hkey, c', h⟩
    unfold sensitiveKeyPattern Expr.inTurn at h
    cases h with
    | seq hstart hrest =>
        cases hstart with
        | start hbefore =>
            cases hrest with
            | seq hgroup hfinish =>
                cases hgroup with
                | group hnames =>
                    obtain ⟨r, hr, hword⟩ := matches_oneOf_iff.mp hnames
                    obtain ⟨name, hname, rfl⟩ := List.mem_map.mp hr
                    obtain ⟨⟨body, tail, hpost, hbody⟩, rfl⟩ := (matches_word_iff _ _ _).mp hword
                    cases hfinish with
                    | finish hend =>
                        refine ⟨name, hname, body, tail, ?_, ?_, hbody⟩
                        · rw [List.append_nil, List.reverse_eq_nil_iff] at hbefore
                          rw [hkey, hbefore]
                          exact hpost
                        · have hend := of_decide_eq_true hend
                          have hlength : body.length = name.toList.length := by
                            rw [← hbody, List.length_map]
                          have hdrop : post.drop name.toList.length = tail := by
                            rw [show post = body ++ tail from hpost, ← hlength, List.drop_left]
                          exact hdrop ▸ hend
  · rintro ⟨name, hname, body, tail, hkey, htail, hbody⟩
    have hlength : body.length = name.toList.length := by rw [← hbody, List.length_map]
    refine ⟨[], key.toList, rfl, _, .seq (.start rfl) (.seq (.group (matches_oneOf_iff.mpr
      ⟨anyCase name, List.mem_map_of_mem hname, (matches_word_iff _ _ _).mpr
        ⟨⟨body, tail, hkey, hbody⟩, rfl⟩⟩)) (.finish ?_))⟩
    refine decide_eq_true ?_
    show key.toList.drop name.toList.length = [] ∨ key.toList.drop name.toList.length = ['\n']
    rw [hkey, ← hlength, List.drop_left]
    exact htail

/-! ### Letters in lower case

A letter that is not ASCII may match an ASCII one where case is of no account, and the two
redactors fold case in different ways.  The words that a name may become are few, and they are
listed; that the list has all of them is shown letter by letter.
-/

/-- What a character may be in lower case if it folds to this one. -/
def lowerForms (c : Char) : List (List Char) :=
  if c = 'i' then [['i'], ['i', Char.ofNat 775], [Char.ofNat 305]]
  else if c = 's' then [['s'], [Char.ofNat 383]]
  else [[c]]

/-- What a word may be in lower case if it folds to this one. -/
def expansions : List Char → List (List Char)
  | [] => [[]]
  | c :: rest => (lowerForms c).flatMap fun form => (expansions rest).map (form ++ ·)

theorem mem_lowerForms_self (c : Char) : [c] ∈ lowerForms c := by
  unfold lowerForms
  by_cases hi : c = 'i'
  · rw [if_pos hi, hi]
    exact List.mem_cons_self
  · by_cases hs : c = 's'
    · rw [if_neg hi, if_pos hs, hs]
      exact List.mem_cons_self
    · rw [if_neg hi, if_neg hs]
      exact List.mem_cons_self

theorem eq_ofNat {c : Char} {n : Nat} (h : c.toNat = n) : c = Char.ofNat n := by
  rw [← h, Char.ofNat_toNat]

theorem lowerChar_mem (c : Char) : lowerChar c ∈ lowerForms (foldCase c) := by
  unfold lowerChar foldCase
  by_cases hupper : c.isUpper = true
  · rw [if_pos hupper, if_pos hupper]
    exact mem_lowerForms_self _
  · rw [if_neg hupper, if_neg hupper]
    by_cases hkelvin : c.toNat = 8490
    · rw [if_pos hkelvin, if_neg (by omega), if_pos hkelvin]
      decide
    · rw [if_neg hkelvin]
      by_cases hdot : c.toNat = 304
      · rw [if_pos hdot, if_pos (Or.inl hdot), if_neg hkelvin]
        decide
      · rw [if_neg hdot]
        by_cases hdotless : c.toNat = 305
        · rw [if_pos (Or.inr hdotless), eq_ofNat hdotless]
          decide
        · rw [if_neg (by omega), if_neg hkelvin]
          by_cases hlong : c.toNat = 383
          · rw [if_pos hlong, eq_ofNat hlong]
            decide
          · rw [if_neg hlong]
            exact mem_lowerForms_self c

theorem lower_mem_expansions (body : List Char) :
    body.flatMap lowerChar ∈ expansions (body.map foldCase) := by
  induction body with
  | nil => exact List.mem_cons_self
  | cons c rest ih =>
      rw [List.flatMap_cons, List.map_cons, expansions, List.mem_flatMap]
      exact ⟨lowerChar c, lowerChar_mem c, List.mem_map_of_mem ih⟩

/-- What is an ASCII word in lower case folds to it. -/
theorem fold_of_lower {body chars : List Char} (h : body.flatMap lowerChar = chars)
    (hascii : ∀ c ∈ chars, c.toNat < 128) : body.map foldCase = chars := by
  induction body generalizing chars with
  | nil => exact h
  | cons c rest ih =>
      rw [List.flatMap_cons] at h
      have hfold : lowerChar c = [foldCase c] := by
        have hmem : ∀ c' ∈ lowerChar c, c'.toNat < 128 :=
          fun c' hc' => hascii c' (h ▸ List.mem_append_left _ hc')
        unfold lowerChar foldCase at *
        by_cases hupper : c.isUpper = true
        · rw [if_pos hupper, if_pos hupper]
        · rw [if_neg hupper] at hmem ⊢
          rw [if_neg hupper]
          by_cases hkelvin : c.toNat = 8490
          · rw [if_pos hkelvin, if_neg (by omega), if_pos hkelvin]
          · rw [if_neg hkelvin] at hmem ⊢
            by_cases hdot : c.toNat = 304
            · rw [if_pos hdot] at hmem
              exact absurd (hmem (Char.ofNat 775) (by decide)) (by decide)
            · rw [if_neg hdot] at hmem ⊢
              have hsmall := hmem c List.mem_cons_self
              rw [if_neg (by omega), if_neg hkelvin, if_neg (by omega)]
      rw [hfold, List.singleton_append] at h
      rw [← h, List.map_cons, ih rfl fun c' hc' => hascii c' (h ▸ List.mem_cons_of_mem _ hc')]

/-! ### The key of an event -/

/-- `_is_sensitive_key` of a key that is clean. -/
def sensitiveClean (clean : List Char) : Bool :=
  eventSensitiveNames.any (fun name => decide (name.toList = clean)) ||
    eventSensitiveTerms.any fun term => decide (term.toList <:+: clean)

/-- The names that both redactors know. -/
def sharedNames : List String :=
  ["password", "passwd", "secret", "token", "authorization", "api_key", "apikey", "private_key",
   "credential"]

/-- The key is one of these names in lower case, with a line break after it at most. -/
def SharedKey (key : String) : Prop :=
  ∃ name ∈ sharedNames, ∃ body tail, key.toList = body ++ tail ∧ (tail = [] ∨ tail = ['\n']) ∧
    body.flatMap lowerChar = name.toList

/-- Of all forms of the names of the evidence an event's redactor knows the nine as they are. -/
theorem sensitive_expansions : ∀ name ∈ evidenceSensitiveNames, ∀ w ∈ expansions name.toList,
    w.map (fun c => if c = '-' then '_' else c) = w ∧
      (sensitiveClean w = true → w = name.toList ∧ name ∈ sharedNames) := by
  decide +kernel

theorem not_isSpace_of_fold {c : Char} (h : isSpace (foldCase c) = false) : isSpace c = false := by
  unfold foldCase at h
  by_cases hupper : c.isUpper = true
  · have hbounds : 65 ≤ c.toNat ∧ c.toNat ≤ 90 := by
      have hletter : c.val ≥ 'A'.val ∧ c.val ≤ 'Z'.val := of_decide_eq_true hupper
      simpa [UInt32.le_iff_toNat_le] using hletter
    unfold isSpace
    refine decide_eq_false ?_
    omega
  · rw [if_neg hupper] at h
    by_cases hi : c.toNat = 304 ∨ c.toNat = 305
    · unfold isSpace
      refine decide_eq_false ?_
      omega
    · rw [if_neg hi] at h
      by_cases hk : c.toNat = 8490
      · unfold isSpace
        refine decide_eq_false ?_
        omega
      · rw [if_neg hk] at h
        by_cases hs : c.toNat = 383
        · unfold isSpace
          refine decide_eq_false ?_
          omega
        · rw [if_neg hs] at h
          exact h

/-- Spaces at the end are taken off. -/
theorem stripSpaces_append {body tail : List Char} (hbody : ∀ c ∈ body, isSpace c = false)
    (htail : ∀ c ∈ tail, isSpace c = true) (hne : body ≠ []) :
    stripSpaces (body ++ tail) = body := by
  unfold stripSpaces stripChars
  have hfront : (body ++ tail).dropWhile isSpace = body ++ tail := by
    cases body with
    | nil => exact absurd rfl hne
    | cons c rest =>
        rw [List.cons_append, List.dropWhile_cons_of_neg]
        rw [hbody c List.mem_cons_self]
        exact Bool.false_ne_true
  have hback : (tail.reverse ++ body.reverse).dropWhile isSpace = body.reverse := by
    rw [List.dropWhile_append_of_pos (by simpa using htail)]
    cases hrev : body.reverse with
    | nil => rfl
    | cons c rest =>
        rw [List.dropWhile_cons_of_neg]
        have hmem : c ∈ body := List.mem_reverse.mp (hrev ▸ List.mem_cons_self)
        rw [hbody c hmem]
        exact Bool.false_ne_true
  rw [hfront, List.reverse_append, hback, List.reverse_reverse]

/-- A key that is a name in any case is clean but for the break at its end. -/
theorem cleanKey_of_named {name : String} (hname : name ∈ evidenceSensitiveNames) {key : String}
    {body tail : List Char} (hkey : key.toList = body ++ tail) (htail : tail = [] ∨ tail = ['\n'])
    (hbody : body.map foldCase = name.toList) : cleanKey key = body.flatMap lowerChar := by
  have hplain : ∀ name ∈ evidenceSensitiveNames, name.toList ≠ [] ∧
      name.toList.all (fun c => !isSpace c) = true := by decide
  obtain ⟨hne, hall⟩ := hplain name hname
  have hspaces : ∀ c ∈ name.toList, isSpace c = false := by
    intro c hc
    have hspace := List.all_eq_true.mp hall c hc
    rwa [Bool.not_eq_true'] at hspace
  have hshown : ∀ c ∈ body, isSpace c = false := fun c hc =>
    not_isSpace_of_fold (hspaces _ (hbody ▸ List.mem_map_of_mem hc))
  have htailSpaces : ∀ c ∈ tail, isSpace c = true := by
    rcases htail with rfl | rfl
    · exact List.forall_mem_nil _
    · exact List.forall_mem_singleton.mpr rfl
  have hbodyNe : body ≠ [] := fun h => hne (by rw [← hbody, h, List.map_nil])
  unfold cleanKey
  rw [hkey, stripSpaces_append hshown htailSpaces hbodyNe]
  exact (sensitive_expansions name hname _ (hbody ▸ lower_mem_expansions body)).1

/-- **Nine names are all that both redactors know.** -/
theorem shared_iff (key : String) :
    isSensitiveKey key = true ∧ EvidenceKey key ↔ SharedKey key := by
  have hsub : ∀ name ∈ sharedNames, name ∈ evidenceSensitiveNames ∧
      sensitiveClean name.toList = true ∧
        name.toList.all (fun c => decide (c.toNat < 128)) = true := by decide
  constructor
  · rintro ⟨hsensitive, name, hname, body, tail, hkey, htail, hbody⟩
    have hclean : sensitiveClean (cleanKey key) = true := hsensitive
    rw [cleanKey_of_named hname hkey htail hbody] at hclean
    obtain ⟨hlower, hshared⟩ :=
      (sensitive_expansions name hname _ (hbody ▸ lower_mem_expansions body)).2 hclean
    exact ⟨name, hshared, body, tail, hkey, htail, hlower⟩
  · rintro ⟨name, hshared, body, tail, hkey, htail, hlower⟩
    obtain ⟨hname, hsensitive, hall⟩ := hsub name hshared
    have hascii : ∀ c ∈ name.toList, c.toNat < 128 := fun c hc =>
      of_decide_eq_true (List.all_eq_true.mp hall c hc)
    have hbody := fold_of_lower hlower hascii
    refine ⟨?_, name, hname, body, tail, hkey, htail, hbody⟩
    show sensitiveClean (cleanKey key) = true
    rw [cleanKey_of_named hname hkey htail hbody, hlower]
    exact hsensitive

/-! ### Nested data -/

/-- The redactor's result is the same whatever the value in the place is. -/
def Hides (redact : Data → Data) (c : Context String DataAtom) (v : Data) : Prop :=
  ∀ u, redact (c.fill u) = redact (c.fill v)

/-- What the redactor of events hides because of a key, that of evidence hides too. -/
def HiddenInEvidence (alnum : Char → Bool) (t : Data) : Prop :=
  ∀ c v, t = c.fill v → Hides (redactSensitiveData id alnum) c v → Hides redactPayload c v

section Data

variable {alnum : Char → Bool} {c : Context String DataAtom} {v : Data}

/-- A value is hidden in an event below a sensitive key, and only there. -/
theorem hidden_in_event_iff (hkeys : c.KeysNodup) :
    Hides (redactSensitiveData id alnum) c v ↔ ∃ key ∈ c.keys, isSensitiveKey key = true := by
  have hdiffer : (eventMask id alnum).apply dataNull ≠ (eventMask id alnum).apply (.seq []) := by
    intro h
    cases h
  exact independent_iff (M := eventMask id alnum) Function.injective_id hdiffer hkeys

theorem hidden_in_evidence_iff_key (hkeys : c.KeysNodup) :
    Hides redactPayload c v ↔ ∃ key ∈ c.keys, EvidenceKey key := by
  have hdiffer : evidenceMask.apply dataNull ≠ evidenceMask.apply (.seq []) := by
    intro h
    cases h
  have h := independent_iff (M := evidenceMask) Function.injective_id hdiffer (t := v) hkeys
  simp only [evidenceMask, id, sensitiveKeyPattern_iff] at h
  exact h

end Data

/-- **A secret of an event is hidden in evidence exactly if its key is one of nine**: in a JSON value
everything that the redactor of events hides because of a key is hidden by that of evidence, if and
only if every sensitive key that is below none the redactor of evidence knows is shared. -/
theorem hidden_in_evidence_iff (alnum : Char → Bool) (t : Data) (ht : Distinct t) :
    HiddenInEvidence alnum t ↔
      ∀ c v before key, t = Context.fill v c → c.keys = before ++ [key] →
        isSensitiveKey key = true → (∀ key' ∈ before, ¬ EvidenceKey key') → SharedKey key := by
  constructor
  · intro hhidden c v before key hplace hkeys hsensitive hbefore
    have hnodup : c.KeysNodup := keysNodup_of_distinct (hplace ▸ ht)
    have hmem : key ∈ c.keys := hkeys ▸ List.mem_append_right _ List.mem_cons_self
    have hevent : Hides (redactSensitiveData id alnum) c v :=
      (hidden_in_event_iff hnodup).mpr ⟨key, hmem, hsensitive⟩
    obtain ⟨key', hmem', hevidence⟩ :=
      (hidden_in_evidence_iff_key hnodup).mp (hhidden c v hplace hevent)
    rw [hkeys, List.mem_append, List.mem_singleton] at hmem'
    rcases hmem' with hmem' | rfl
    · exact absurd hevidence (hbefore key' hmem')
    · exact (shared_iff key').mp ⟨hsensitive, hevidence⟩
  · intro hshared c v hplace hhides
    have hnodup : c.KeysNodup := keysNodup_of_distinct (hplace ▸ ht)
    obtain ⟨key, hkey, hsensitive⟩ := (hidden_in_event_iff hnodup).mp hhides
    rw [hidden_in_evidence_iff_key hnodup]
    by_contra hnone
    push Not at hnone
    -- the value of the sensitive key itself is a place that is not hidden
    obtain ⟨before, after, hkeys⟩ := List.append_of_mem hkey
    obtain ⟨c', v', hfill, hkeys'⟩ := exists_place_of_key (t := v) hkeys
    have hbefore : ∀ key' ∈ before, ¬ EvidenceKey key' := fun key' hkey' =>
      hnone key' (hkeys ▸ List.mem_append_left _ hkey')
    have h := hshared c' v' before key (hplace.trans hfill.symm) hkeys' hsensitive hbefore
    exact hnone key hkey ((shared_iff key).mpr h).2

/-- A dictionary with an API key under a name that both redactors know. -/
theorem api_key_hidden :
    HiddenInEvidence Char.isAlphanum (.map [("API_KEY", dataText "abc")]) := by
  have hdistinct : Distinct (.map [("API_KEY", dataText "abc")] : Data) := by
    refine .map (by decide) fun entry hentry => ?_
    rw [List.mem_singleton.mp hentry]
    exact .atom _
  refine (hidden_in_evidence_iff _ _ hdistinct).mpr ?_
  intro c v before key hplace hkeys _ _
  have hkey : key = "API_KEY" := by
    cases c with
    | hole => exact absurd hkeys.symm (List.append_ne_nil_of_right_ne_nil _ (List.cons_ne_nil _ _))
    | item items c rest => cases hplace
    | value entries key' c rest =>
        rw [Context.fill, Tree.map.injEq, List.singleton_eq_append_iff] at hplace
        obtain ⟨rfl, hentry⟩ | ⟨-, hentry⟩ := hplace
        · rw [List.cons.injEq, Prod.mk.injEq] at hentry
          obtain ⟨⟨rfl, hvalue⟩, -⟩ := hentry
          -- nothing is below a text
          cases c with
          | hole =>
              have hlast := congrArg List.getLast? hkeys
              rw [List.getLast?_concat] at hlast
              exact (Option.some.inj hlast).symm
          | item items c rest => cases hvalue
          | value entries key' c rest => cases hvalue
        · cases hentry
  exact ⟨"api_key", by decide, "API_KEY".toList, [], by rw [hkey, List.append_nil], Or.inl rfl,
    by decide⟩

/-- The secret of a client, which the one redactor hides and the other does not. -/
theorem client_secret_shown : ¬ ∀ t, Distinct t → HiddenInEvidence Char.isAlphanum t := by
  intro h
  let c : Context String DataAtom := .value [] "client_secret" .hole []
  have hdistinct : Distinct (c.fill (dataText "hunter2")) := by
    refine .map (by decide) fun entry hentry => ?_
    rw [List.mem_singleton.mp hentry]
    exact .atom _
  have hnodup : c.KeysNodup := keysNodup_of_distinct hdistinct
  have hevent : Hides (redactSensitiveData id Char.isAlphanum) c (dataText "hunter2") :=
    (hidden_in_event_iff hnodup).mpr ⟨"client_secret", List.mem_cons_self, by decide⟩
  obtain ⟨key, hkey, hevidence⟩ :=
    (hidden_in_evidence_iff_key hnodup).mp (h _ hdistinct c _ rfl hevent)
  have hsearch := (sensitiveKeyPattern_iff key).mpr hevidence
  rw [List.mem_singleton.mp hkey] at hsearch
  exact absurd hsearch (by decide +kernel)

end SelfHealing
