/-
When an emergency stop lasts.

A request that commits while the list has changed since it was read puts the old
list back, and with it loses what others have stopped meanwhile.  `Unraced` leaves
such commits out, and then no acknowledged stop is lost.

Only commits change what everybody sees, so `ControlAct` says of each commit what
it does to the list: nothing, or what the request asked for, applied to the list it
read.

The list is looked at in two places, by the policy engine and before a lock is taken.
The engine knows the entries that name a service or a container, and is handed the name
of the service where the resource itself is listed; the other check knows resources only.
-/
import SelfHealing.Automation
import SelfHealing.ResourceLocks
import SelfHealing.Workflow.Outcomes
import SelfHealing.Proofs.Rules

namespace SelfHealing

open Interleaving Interleaving.Protocol ReadCommitted

/-- The list that an acknowledged request had read. -/
def Event.loadedStops : Event → Option (List String)
  | .stopAcked _ _ loaded | .releaseAcked _ _ loaded => some loaded
  | _ => none

/-- A request that is acknowledged in this step commits while the list is still as it read it. -/
def Unraced (s s' : Db) : Prop :=
  s'.log = s.log ∨ (s'.log.head?.bind Event.loadedStops).all (· = s.stops) = true

instance (s s' : Db) : Decidable (Unraced s s') := by
  unfold Unraced
  infer_instance

/-! ### The list -/

/-- The stops in a row, if there is one. -/
def stopsOf (row : Option AutomationControl) : List String :=
  (row.map AutomationControl.emergencyStoppedResources).getD []

theorem mem_stops_stop {body : EmergencyStopRequest} {l : List String} (h : body.action = .stop)
    (r : String) : r ∈ body.stops l ↔ r = body.resourceIdentifier ∨ r ∈ l := by
  unfold EmergencyStopRequest.stops
  rw [h]
  simp only [List.mem_insertionSort, List.mem_dedup, List.mem_insert_iff]

theorem mem_stops_release {body : EmergencyStopRequest} {l : List String}
    (h : body.action = .release) (r : String) :
    r ∈ body.stops l ↔ r ∈ l ∧ r ≠ body.resourceIdentifier := by
  unfold EmergencyStopRequest.stops
  rw [h]
  simp only [List.mem_insertionSort, List.mem_dedup, List.mem_filter, decide_eq_true_eq]

/-! ### What a request does in one step

Only a commit changes what everybody sees.  It changes the list to what the request has made of the
one that it has read; and if the list is another one by then, that change is lost.  The condition
is put where the commit is, on the list that is read and the list that is there.
-/

/-- The transaction `t` would leave the list as it is. -/
def LeavesList (t : TxId) (c : Cell TxId AutomationControl) : Prop :=
  stopsOf (c.visible t) = stopsOf c.committed

/-- The transaction `t`, having read `loaded`, would leave `list`. -/
def Leaves (t : TxId) (loaded list : List String) (c : Cell TxId AutomationControl) : Prop :=
  list = loaded ∧ LeavesList t c ∨
  list ≠ loaded ∧ c.locked t ∧ stopsOf (c.visible t) = list

/-- One step of a request. -/
inductive ControlAct (p : Nat) : Db → Db → Prop
  | quiet {s s' : Db} (hcell : Cell.Step (fun _ _ => True) ⟨p, 0⟩ s.control s'.control)
      (hstops : s'.stops = s.stops) (hlog : s'.log = s.log) : ControlAct p s s'
  | acked {s : Db} (body : EmergencyStopRequest) (loaded : List String)
      (hleaves : Leaves ⟨p, 0⟩ loaded (body.stops loaded) s.control) :
      ControlAct p s ((s.commit ⟨p, 0⟩).record [body.acked p loaded])

/-- A request that commits in time leaves what it was asked for. -/
theorem stops_of_leaves {p : Nat} {s : Db} {loaded list : List String}
    (h : Leaves ⟨p, 0⟩ loaded list s.control) (hintime : loaded = s.stops) :
    (s.commit ⟨p, 0⟩).stops = list := by
  have hcommit : (s.commit ⟨p, 0⟩).stops = stopsOf (s.control.visible ⟨p, 0⟩) := by
    show stopsOf (s.control.commit ⟨p, 0⟩).committed = _
    rw [Cell.committed_commit]
  rw [hcommit]
  rcases h with ⟨hlist, hseen⟩ | ⟨-, -, hlist⟩
  · rw [hseen, hlist, hintime]
    rfl
  · exact hlist

theorem stopsKept_ack {p : Nat} {s : Db} {body : EmergencyStopRequest} {loaded : List String}
    (hkept : StopsKept s) (hleaves : Leaves ⟨p, 0⟩ loaded (body.stops loaded) s.control)
    (hintime : loaded = s.stops) : StopsKept ((s.commit ⟨p, 0⟩).record [body.acked p loaded]) := by
  have hstops : ((s.commit ⟨p, 0⟩).record [body.acked p loaded]).stops = body.stops loaded :=
    stops_of_leaves hleaves hintime
  intro r hr
  rw [hstops]
  have hlog : ((s.commit ⟨p, 0⟩).record [body.acked p loaded]).log =
      body.acked p loaded :: s.log := rfl
  rw [hlog] at hr
  have hold : stopInForce r s.log = true → r ∈ loaded := by
    intro h
    rw [hintime]
    exact hkept r h
  cases hact : body.action with
  | stop =>
      simp only [EmergencyStopRequest.acked, hact, stopInForce] at hr
      rw [mem_stops_stop hact]
      split at hr
      · rename_i heq
        exact Or.inl heq.symm
      · exact Or.inr (hold hr)
  | release =>
      simp only [EmergencyStopRequest.acked, hact, stopInForce] at hr
      rw [mem_stops_release hact]
      split at hr
      · simp at hr
      · rename_i hne
        exact ⟨hold hr, fun heq => hne heq.symm⟩

theorem stopsKept_act {p : Nat} {s s' : Db} (hkept : StopsKept s) (hact : ControlAct p s s')
    (hadm : Unraced s s') : StopsKept s' := by
  cases hact with
  | quiet hcell hstops hlog =>
      intro r hr
      rw [hlog] at hr
      rw [hstops]
      exact hkept r hr
  | acked body loaded hleaves =>
      refine stopsKept_ack hkept hleaves ?_
      have hlog : ((s.commit ⟨p, 0⟩).record [body.acked p loaded]).log =
          body.acked p loaded :: s.log := rfl
      rcases hadm with hsame | hintime
      · rw [hlog] at hsame
        exact absurd (congrArg List.length hsame) (by simp)
      · rw [hlog] at hintime
        have hloaded : (body.acked p loaded).loadedStops = some loaded := by
          unfold EmergencyStopRequest.acked
          cases body.action <;> rfl
        simpa [hloaded] using hintime

/-- Requests, each acknowledged in time. -/
def automationProtocol : Protocol World AutomationRequest Nat Db where
  machine := automationMachine Unraced
  guar := ControlAct
  inv := StopsKept
  inv_guar := fun p _ _ hinv hact hadm => stopsKept_act hinv hact hadm
  inv_crash := by
    intro p s hinv r hr
    have hstops : (s.crash p).stops = s.stops := by
      show stopsOf ((s.control.rollback ⟨p, 0⟩).rollback ⟨p, 1⟩).committed = _
      rw [Cell.committed_rollback, Cell.committed_rollback]
      rfl
    show r ∈ (s.crash p).stops
    rw [hstops]
    exact hinv r hr
  inv_env := by
    intro elapsed s s' hinv henv _
    simp only [automationMachine, Option.some.injEq] at henv
    rw [← henv]
    exact hinv

/-! ### The requests keep to it -/

section Requests

variable {p : Nat}

/-- What another step does to the row, seen as steps of other transactions on it. -/
theorem control_of_other {s s' : Db} (h : automationProtocol.Other p s s') :
    (∃ t, t ≠ ⟨p, 0⟩ ∧ Cell.Step (fun _ _ => True) t s.control s'.control) ∨
    ∃ t u, t ≠ ⟨p, 0⟩ ∧ u ≠ ⟨p, 0⟩ ∧ s'.control = (s.control.rollback t).rollback u := by
  have hne : ∀ {q l : Nat}, q ≠ p → (⟨q, l⟩ : TxId) ≠ ⟨p, 0⟩ :=
    fun hq heq => hq (congrArg TxId.pid heq)
  cases h with
  | proc q hq hact hadm =>
      refine Or.inl ⟨⟨q, 0⟩, hne hq, ?_⟩
      cases hact with
      | quiet hcell hstops hlog => exact hcell
      | acked body loaded hleaves => exact Cell.Step.commit s.control
  | crash q _ hq => exact Or.inr ⟨⟨q, 0⟩, ⟨q, 1⟩, hne hq, hne hq, rfl⟩
  | env elapsed henv hadm =>
      simp only [automationProtocol, automationMachine, Option.some.injEq] at henv
      refine Or.inl ⟨⟨p + 1, 0⟩, hne (by omega), ?_⟩
      rw [← henv]
      exact Cell.Step.same _

/-- What `p` has written stays as it is, and so does a row that it has locked. -/
theorem own_of_other {s s' : Db} (h : automationProtocol.Other p s s') :
    s'.control.own ⟨p, 0⟩ = s.control.own ⟨p, 0⟩ ∧
    (s.control.locked ⟨p, 0⟩ → s'.control = s.control) := by
  rcases control_of_other h with ⟨t, ht, hstep⟩ | ⟨t, u, ht, hu, heq⟩
  · exact ⟨hstep.own_eq ht, fun hl => hstep.eq_of_locked ht hl⟩
  · have h1 : Cell.Step (fun _ _ => True) t s.control (s.control.rollback t) :=
      Cell.Step.rollback _
    have h2 : Cell.Step (fun _ _ => True) u (s.control.rollback t)
        ((s.control.rollback t).rollback u) := Cell.Step.rollback _
    rw [heq]
    refine ⟨(h2.own_eq hu).trans (h1.own_eq ht), ?_⟩
    intro hl
    have heq1 := h1.eq_of_locked ht hl
    rw [heq1] at h2 ⊢
    exact h2.eq_of_locked hu hl

theorem stable_leavesList :
    automationProtocol.Stable p (fun s => LeavesList ⟨p, 0⟩ s.control) := by
  intro s s' _ h hother
  obtain ⟨hown, hsame⟩ := own_of_other hother
  by_cases hl : s.control.locked ⟨p, 0⟩
  · rw [hsame hl]
    exact h
  · have hnil : s'.control.own ⟨p, 0⟩ = [] := by
      rw [hown]
      exact Cell.own_eq_nil_of_not_locked hl
    unfold LeavesList
    rw [Cell.visible_eq_committed hnil]

theorem stable_leaves {loaded list : List String} :
    automationProtocol.Stable p (fun s => Leaves ⟨p, 0⟩ loaded list s.control) := by
  intro s s' hinv h hother
  rcases h with ⟨hlist, hseen⟩ | ⟨hne, hl, hlist⟩
  · exact Or.inl ⟨hlist, stable_leavesList s s' hinv hseen hother⟩
  · rw [(own_of_other hother).2 hl]
    exact Or.inr ⟨hne, hl, hlist⟩

theorem ControlAct.same {s s' : Db} (hcell : s'.control = s.control) (hlog : s'.log = s.log) :
    ControlAct p s s' := by
  refine ControlAct.quiet ?_ ?_ hlog
  · rw [hcell]
    exact Cell.Step.same _
  · unfold Db.stops
    rw [hcell]

theorem ControlAct.write {s : Db} (v : Option AutomationControl)
    (hfree : s.control.free ⟨p, 0⟩ = true) :
    ControlAct p s (s.setControl (s.control.write ⟨p, 0⟩ v)) :=
  ControlAct.quiet (Cell.Step.write _ v hfree trivial) rfl rfl

theorem ControlAct.rollback (s : Db) : ControlAct p s (s.rollback ⟨p, 0⟩) := by
  refine ControlAct.quiet (Cell.Step.rollback _) ?_ rfl
  show stopsOf (s.control.rollback ⟨p, 0⟩).committed = stopsOf s.control.committed
  rw [Cell.committed_rollback]

/-- `get_automation_controls` gives the list in sight, and leaves it as it is. -/
theorem getAutomationControls_triple (actor : String) :
    automationProtocol.Triple p (fun s => LeavesList ⟨p, 0⟩ s.control)
      (getAutomationControls ⟨p, 0⟩ actor) (fun _ s => LeavesList ⟨p, 0⟩ s.control)
      (fun _ _ => True) := by
  unfold getAutomationControls
  have hidle : ∀ s : Db, ControlAct p s s := fun s => ControlAct.same rfl rfl
  refine Triple.bind (M := fun _ s => LeavesList ⟨p, 0⟩ s.control)
    (triple_select stable_leavesList (fun s _ _ => hidle s) (fun _ _ _ => trivial)
      (fun s _ h => h)) (fun found => ?_)
  cases found with
  | some control => exact triple_pure control (fun s _ h => h)
  | none =>
      refine Triple.bind (M := fun _ s => LeavesList ⟨p, 0⟩ s.control)
        (triple_datetimeNow stable_leavesList (fun s _ _ => hidle s) (fun s _ h => h))
        (fun now => ?_)
      refine Triple.bind (M := fun _ s => LeavesList ⟨p, 0⟩ s.control) ?_
        (fun _ => triple_pure _ (fun s _ h => h))
      refine triple_sql stable_leavesList (fun s _ _ => hidle s) (fun _ _ _ => trivial) ?_
      intro s r s' _ hR hf _
      simp only at hf
      split at hf
      · rename_i hfree
        split at hf
        · simp only [Option.some.injEq, Prod.mk.injEq] at hf
          obtain ⟨rfl, rfl⟩ := hf
          exact ⟨hidle s, trivial⟩
        · rename_i hrow
          simp only [Option.some.injEq, Prod.mk.injEq] at hf
          obtain ⟨rfl, rfl⟩ := hf
          refine ⟨ControlAct.write _ hfree, ?_⟩
          -- the row that is inserted lists nothing, and there was none before
          have hnone : stopsOf s.control.committed = [] := by
            rw [← hR, hrow]
            rfl
          show stopsOf ((s.control.write ⟨p, 0⟩ _).visible ⟨p, 0⟩) = stopsOf s.control.committed
          rw [Cell.visible_write, hnone]
          rfl
      · simp at hf

/-- A flush leaves the list of the record, if it differs from what was loaded. -/
theorem flushControl_triple (loaded changed : AutomationControl) :
    automationProtocol.Triple p (fun s => LeavesList ⟨p, 0⟩ s.control)
      (flushControl ⟨p, 0⟩ loaded changed)
      (fun _ s => Leaves ⟨p, 0⟩ loaded.emergencyStoppedResources
        changed.emergencyStoppedResources s.control)
      (fun _ _ => True) := by
  unfold flushControl
  by_cases heq : changed = loaded
  · rw [if_pos heq, heq]
    exact triple_pure () (fun s _ h => Or.inl ⟨rfl, h⟩)
  · rw [if_neg heq]
    refine triple_sql stable_leavesList (fun s _ _ => ControlAct.same rfl rfl)
      (fun _ _ _ => trivial) ?_
    intro s r s' _ hR hf _
    simp only at hf
    split at hf
    · simp only [Option.some.injEq, Prod.mk.injEq] at hf
      obtain ⟨rfl, rfl⟩ := hf
      exact ⟨ControlAct.same rfl rfl, trivial⟩
    · rename_i row hrow
      split at hf
      · rename_i hfree
        simp only [Option.some.injEq, Prod.mk.injEq] at hf
        obtain ⟨rfl, rfl⟩ := hf
        refine ⟨ControlAct.write _ hfree, ?_⟩
        by_cases hlist : changed.emergencyStoppedResources = loaded.emergencyStoppedResources
        · refine Or.inl ⟨hlist, ?_⟩
          show stopsOf ((s.control.write ⟨p, 0⟩ _).visible ⟨p, 0⟩) = stopsOf s.control.committed
          rw [Cell.visible_write, ← hR, hrow]
          simp only [stopsOf, AutomationControl.flushed, if_pos hlist, Option.map_some,
            Option.getD_some]
        · refine Or.inr ⟨hlist, Cell.locked_write _, ?_⟩
          show stopsOf ((s.control.write ⟨p, 0⟩ _).visible ⟨p, 0⟩) = _
          rw [Cell.visible_write]
          simp only [stopsOf, AutomationControl.flushed, if_neg hlist, Option.map_some,
            Option.getD_some]
      · simp at hf

theorem updateAutomationControls_triple (actor : String) (control : AutomationControl)
    (mode : AutomationMode) (stopped : Option (List String)) (reason : String) :
    automationProtocol.Triple p (fun s => LeavesList ⟨p, 0⟩ s.control)
      (updateAutomationControls ⟨p, 0⟩ actor (some control) mode stopped reason)
      (fun _ s => Leaves ⟨p, 0⟩ control.emergencyStoppedResources
        (stopped.getD control.emergencyStoppedResources) s.control)
      (fun _ _ => True) := by
  unfold updateAutomationControls
  refine Triple.bind (M := fun a s => a = control ∧ LeavesList ⟨p, 0⟩ s.control)
    (triple_pure control (fun s _ h => ⟨rfl, h⟩)) (fun a => ?_)
  refine Triple.bind (M := fun _ s => a = control ∧ LeavesList ⟨p, 0⟩ s.control)
    (triple_datetimeNow ((stable_const _).and stable_leavesList)
      (fun s _ _ => ControlAct.same rfl rfl) (fun s _ h => h)) (fun now => ?_)
  by_cases ha : a = control
  · subst ha
    refine Triple.bind ((flushControl_triple _ _).pre (fun s _ h => h.2))
      (fun _ => triple_pure _ (fun s _ h => h))
  · intro s _ h
    exact absurd h.1 ha

/-- A request that sets no list leaves it as it is. -/
theorem updateAutomationControls_mode_triple (actor : String) (mode : AutomationMode)
    (reason : String) :
    automationProtocol.Triple p (fun s => LeavesList ⟨p, 0⟩ s.control)
      (updateAutomationControls ⟨p, 0⟩ actor none mode none reason)
      (fun _ s => LeavesList ⟨p, 0⟩ s.control) (fun _ _ => True) := by
  unfold updateAutomationControls
  refine Triple.bind (getAutomationControls_triple actor) (fun control => ?_)
  refine Triple.bind (M := fun _ s => LeavesList ⟨p, 0⟩ s.control)
    (triple_datetimeNow stable_leavesList (fun s _ _ => ControlAct.same rfl rfl) (fun s _ h => h))
    (fun now => ?_)
  refine Triple.bind (flushControl_triple control _) (fun _ => ?_)
  refine triple_pure _ ?_
  intro s _ h
  rcases h with ⟨-, hseen⟩ | ⟨hne, -⟩
  · exact hseen
  · exact absurd rfl hne

/-- A request in its transaction: `M` is what it knows when it is about to commit. -/
theorem request_triple {α : Type} {actor : String} {body : Prog α} {seen : α → List Event}
    {M : α → Db → Prop} (hM : ∀ a, automationProtocol.Stable p (M a))
    (hbody : automationProtocol.Triple p (fun s => LeavesList ⟨p, 0⟩ s.control) body M
      (fun _ _ => True))
    (hcommit : ∀ a s, M a s → ControlAct p s ((s.commit ⟨p, 0⟩).record (seen a))) :
    automationProtocol.Triple p (fun s => LeavesList ⟨p, 0⟩ s.control)
      (unitOfWork ⟨p, 0⟩ actor body seen) (fun _ _ => True) (fun _ _ => True) := by
  refine triple_unitOfWork (B := fun s => LeavesList ⟨p, 0⟩ s.control) (F := fun _ => True)
    (G := fun _ => True) (M := M) ?_ hbody (fun a => ?_) ?_ (fun _ _ _ => trivial)
  · exact triple_beginTx stable_leavesList (fun s _ _ => ControlAct.same rfl rfl)
      (fun _ _ _ => trivial) (fun s _ h _ => ⟨ControlAct.same rfl rfl, h⟩)
  · exact triple_commitTx (hM a) (fun s _ _ _ => ⟨ControlAct.rollback s, trivial⟩)
      (fun s _ h _ => ⟨hcommit a s h, trivial⟩)
  · exact triple_rollbackTx (stable_const True)
      (fun s _ _ _ => ⟨ControlAct.rollback s, trivial⟩)

/-- The commit of a request that leaves the list as it is. -/
theorem ControlAct.commit {s : Db} (h : LeavesList ⟨p, 0⟩ s.control) :
    ControlAct p s ((s.commit ⟨p, 0⟩).record []) := by
  refine ControlAct.quiet (Cell.Step.commit _) ?_ rfl
  show stopsOf (s.control.commit ⟨p, 0⟩).committed = stopsOf s.control.committed
  rw [Cell.committed_commit]
  exact h

theorem manageEmergencyStop_triple (username : String) (body : EmergencyStopRequest) :
    automationProtocol.Triple p (fun s => LeavesList ⟨p, 0⟩ s.control)
      (manageEmergencyStop p username body) (fun _ _ => True) (fun _ _ => True) := by
  unfold manageEmergencyStop
  refine Triple.bind (request_triple (M := fun r s => Leaves ⟨p, 0⟩
    r.1.emergencyStoppedResources (body.stops r.1.emergencyStoppedResources) s.control)
    (fun _ => stable_leaves) ?_ (fun r s h => ControlAct.acked body _ h))
    (fun _ => triple_pure _ (fun _ _ _ => trivial))
  refine Triple.bind (getAutomationControls_triple _) (fun control => ?_)
  refine Triple.bind (updateAutomationControls_triple _ control _ _ _) (fun updated => ?_)
  exact triple_pure _ (fun s _ h => h)

theorem automationProtocol_verified : automationProtocol.Verified := by
  intro p request s hinv hready
  have hstart : LeavesList ⟨p, 0⟩ s.control := by
    have hnil : s.control.own ⟨p, 0⟩ = [] := List.isEmpty_iff.mp hready
    unfold LeavesList
    rw [Cell.visible_eq_committed hnil]
  cases request with
  | emergencyStop username body =>
      exact triple_ignore (manageEmergencyStop_triple username body) hinv hstart
  | setMode username body =>
      exact triple_ignore (request_triple (fun _ => stable_leavesList)
        (updateAutomationControls_mode_triple _ _ _) (fun _ _ h => ControlAct.commit h))
        hinv hstart
  | status =>
      have hstatus : automationProtocol.Triple p (fun s => LeavesList ⟨p, 0⟩ s.control)
          (getAutomationStatus p) (fun _ _ => True) (fun _ _ => True) :=
        request_triple (fun _ => stable_leavesList) (getAutomationControls_triple "system:read")
          (fun _ _ h => ControlAct.commit h)
      exact triple_ignore hstatus hinv hstart

end Requests

/-- **Emergency stops are kept**, in runs where each request that is acknowledged commits while
the list is still the one it read. -/
theorem stopsKept_of_unraced (db₀ : Db) (h₀ : db₀.log = []) (c : Config World Db)
    (hr : Reaches (automationMachine Unraced) (Config.idle db₀) c) : StopsKept c.state := by
  have hinit : StopsKept db₀ := by
    intro r hr
    rw [h₀] at hr
    simp [stopInForce] at hr
  exact inv_of_reaches automationProtocol_verified hinit hr

/-- The requests to stop two resources. -/
def stopApi : EmergencyStopRequest := ⟨"api", .stop, "operator", by decide, by decide⟩

def stopDb : EmergencyStopRequest := ⟨"db", .stop, "operator", by decide, by decide⟩

/-- Two resources are stopped, one after the other. -/
theorem stopsKept_in_turn : ∃ c, Reaches (automationMachine Unraced) (Config.idle (Db.init 0)) c ∧
    stopInForce "api" c.state.log = true ∧ stopInForce "db" c.state.log = true ∧
    StopsKept c.state := by
  obtain ⟨c, hr, htest⟩ := Machine.reaches_of_exec (automationMachine Unraced)
    (Config.idle (Db.init 0))
    (.start 0 (.emergencyStop "ada" stopApi) ::
      List.replicate 7 (.run 0 {}) ++
      .start 1 (.emergencyStop "bob" stopDb) ::
      List.replicate 5 (.run 1 {}))
    (fun db => stopInForce "api" db.log && stopInForce "db" db.log) (by decide)
  simp only [Bool.and_eq_true] at htest
  exact ⟨c, hr, htest.1, htest.2, stopsKept_of_unraced (Db.init 0) rfl c hr⟩

/-- **A stop may be lost**: two operators stop different resources at once, and the second
request writes back the list it read before the first had committed. -/
theorem stopsKept_raced :
    ¬ ∀ (db₀ : Db), db₀.log = [] → ∀ c : Config World Db,
      Reaches (automationMachine (fun _ _ => True)) (Config.idle db₀) c → StopsKept c.state := by
  intro hall
  obtain ⟨c, hr, htest⟩ := Machine.reaches_of_exec (automationMachine (fun _ _ => True))
    (Config.idle { Db.init 0 with control := Cell.ofRow ⟨.automatic, [], 0, "system:init", ""⟩ })
    ([.start 0 (.emergencyStop "ada" stopApi),
        .start 1 (.emergencyStop "bob" stopDb),
        .run 0 {}, .run 0 {}, .run 1 {}, .run 1 {}] ++
      List.replicate 4 (.run 0 {}) ++ List.replicate 3 (.run 1 {}))
    (fun db => stopInForce "api" db.log && !decide ("api" ∈ db.stops)) (by decide)
  simp only [Bool.and_eq_true, Bool.not_eq_true', decide_eq_false_iff_not] at htest
  exact htest.2 (hall _ rfl c hr "api" htest.1)

/-! ### The two checks of the list -/

section Checks

variable (state : IncidentGraphState) (planId : Nat) (plan : Option RemediationPlan)
  (control : AutomationControl) (inc : Incident) (now : Int)

/-- The policy engine blocks, on what the policy node hands to it. -/
def GateBlocks : Prop :=
  (evaluateEmergencyStop (state.context planId plan control (some inc) now)).passed = false

/-- `check_safety` blocks the resource of the incident because of the list; it comes to the list
only where automation is not disabled. -/
def LockBlocks : Prop :=
  ∃ e, AutomationControl.checkSafety inc.resourceId (some { control with mode := .automatic }) =
    .error e

theorem lockBlocks_iff : LockBlocks control inc ↔
    toString inc.resourceId ∈ control.emergencyStoppedResources := by
  unfold LockBlocks AutomationControl.checkSafety
  simp only []
  rw [if_neg (by decide)]
  by_cases h : toString inc.resourceId ∈ control.emergencyStoppedResources
  · rw [if_pos h]
    exact ⟨fun _ => h, fun _ => ⟨_, rfl⟩⟩
  · rw [if_neg h]
    refine ⟨?_, fun hmem => absurd hmem h⟩
    rintro ⟨e, he⟩
    cases he

theorem gateBlocks_iff : GateBlocks state planId plan control inc now ↔
    (state.context planId plan control (some inc) now).serviceName ∈
        control.emergencyStoppedResources ∨
      (state.context planId plan control (some inc) now).containerId ∈
        control.emergencyStoppedResources ∨
      toString inc.resourceId ∈ control.emergencyStoppedResources := by
  have hlist : (state.context planId plan control (some inc) now).emergencyStoppedResources =
      if control.emergencyStoppedResources.contains (toString inc.resourceId) = true then
        control.emergencyStoppedResources ++
          [(state.context planId plan control (some inc) now).serviceName]
      else control.emergencyStoppedResources := rfl
  unfold GateBlocks evaluateEmergencyStop
  generalize state.context planId plan control (some inc) now = ctx at hlist ⊢
  simp only [ruleResult, Bool.not_eq_false', Bool.or_eq_true, List.contains_iff_mem] at hlist ⊢
  rw [hlist]
  by_cases h : toString inc.resourceId ∈ control.emergencyStoppedResources
  · rw [if_pos h]
    simp only [List.mem_append, List.mem_singleton, h, or_true, true_or]
  · rw [if_neg h]
    simp only [h, or_false]

/-- **The two checks agree exactly where an entry that names the service or the container goes
with one that names the resource.** -/
theorem stop_checks_agree_iff :
    (GateBlocks state planId plan control inc now ↔ LockBlocks control inc) ↔
      ((state.context planId plan control (some inc) now).serviceName ∈
            control.emergencyStoppedResources ∨
          (state.context planId plan control (some inc) now).containerId ∈
            control.emergencyStoppedResources →
        toString inc.resourceId ∈ control.emergencyStoppedResources) := by
  rw [gateBlocks_iff, lockBlocks_iff]
  constructor
  · rintro h (hservice | hcontainer)
    · exact h.mp (Or.inl hservice)
    · exact h.mp (Or.inr (Or.inl hcontainer))
  · intro h
    constructor
    · rintro (hservice | hcontainer | hresource)
      · exact h (Or.inl hservice)
      · exact h (Or.inr hcontainer)
      · exact hresource
    · exact fun hresource => Or.inr (Or.inr hresource)

end Checks

/-- An operator stops the service, and only the policy engine takes notice. -/
theorem stop_checks_apart :
    let control : AutomationControl := ⟨.automatic, ["demo-api"], 0, "user:ada", "stop"⟩
    let inc : Incident := { id := 1, resourceId := 3, correlationKey := "key", updatedAt := 0 }
    let state : IncidentGraphState := { incidentId := 1, resourceId := 3 }
    GateBlocks state 2 none control inc 0 ∧ ¬ LockBlocks control inc := by
  refine ⟨(gateBlocks_iff _ _ _ _ _ _).mpr (Or.inl (by decide)), ?_⟩
  rw [lockBlocks_iff]
  decide

end SelfHealing
