import TaskContextSync.AgentConfiguration

/-!
# Panels and the store over whole runs

The application holds the `IdeContext` global and any number of `AgentConfiguration`
panels. A run is any sequence of panel creations and, on any panel, completed sync
attempts, `update_sync_data` and `clear_task_sync` calls and disclosure clicks
(`AppEvent`, `run`); a panicking attempt ends the run.

A panel never reads the global: it starts with no context and changes its copy only in its
own handlers. So the panels need not agree with the store
(`panels_not_store`: a panel opened after a sync shows no task while searches are scoped
to the synced one). What holds over every run is that the store holds the context of the
panel that wrote it last, and nothing while no panel has (`storedSyncData_run`).
-/

namespace TaskContextSync

/-- What panels and searches share: the `IdeContext` global and the panels, oldest first. -/
structure AppState where
  ideContext : Option IdeContext
  panels : List AgentConfiguration

/-- No global registered, no panel open. -/
def AppState.init : AppState :=
  ⟨none, []⟩

/-- What happens to one panel. -/
inductive PanelEvent
  | syncCompleted (o : SyncOutcome)
  | updateSyncData (data : TaskSyncData)
  | clearTaskSync
  | toggleTaskSync

/-- A panel opens, or something happens to the `i`-th panel. -/
inductive AppEvent
  | newPanel
  | panel (i : Nat) (e : PanelEvent)

section

variable (urlParse : String → Option Url)

/-- A panel event on a panel and the global; `none` when it panicked. -/
def PanelEvent.run : PanelEvent → AgentConfiguration → Option IdeContext →
    Option (AgentConfiguration × Option IdeContext)
  | .syncCompleted o, self, global => runSyncAttempt urlParse o self global
  | .updateSyncData data, self, global => some (self.updateSyncData data global)
  | .clearTaskSync, self, global => some (self.clearTaskSync global)
  | .toggleTaskSync, self, global => some (self.toggleTaskSync, global)

/-- Whether a panel event writes the store. -/
def PanelEvent.writesStore : PanelEvent → Bool
  | .syncCompleted o => (syncTask urlParse o).any SyncEffect.isUpdate
  | .updateSyncData _ | .clearTaskSync => true
  | .toggleTaskSync => false

/-- One step of the application. An event naming no panel changes nothing. -/
def step (s : AppState) : AppEvent → Option AppState
  | .newPanel => some { s with panels := s.panels ++ [AgentConfiguration.new] }
  | .panel i e =>
    match s.panels[i]? with
    | none => some s
    | some self => (e.run urlParse self s.ideContext).map fun r => ⟨r.2, s.panels.set i r.1⟩

/-- The state after a run from the start, or `none` if an attempt panicked. -/
def run (evs : List AppEvent) : Option AppState :=
  evs.foldlM (step urlParse) AppState.init

/-- How many panels an event opens. -/
def AppEvent.opened : AppEvent → Nat
  | .newPanel => 1
  | .panel _ _ => 0

/-- The panel that wrote the store last after event `e`, with `count` panels open before it
and `w` the last writer before it. -/
def AppEvent.nextWriter (count : Nat) (w : Option Nat) : AppEvent → Option Nat
  | .newPanel => w
  | .panel i e => if i < count ∧ e.writesStore urlParse then some i else w

/-- The panel that wrote the store last after `evs`, from `count` panels and last writer
`w`. -/
def lastWriterFrom : List AppEvent → Nat → Option Nat → Option Nat
  | [], _, w => w
  | e :: evs, count, w => lastWriterFrom evs (count + e.opened) (e.nextWriter urlParse count w)

/-- The panel that wrote the store last in a run. -/
def lastWriter (evs : List AppEvent) : Option Nat :=
  lastWriterFrom urlParse evs 0 none

/-- The store holds what panel `w` shows, or nothing when there is no such panel. -/
def StoreShownBy (s : AppState) : Option Nat → Prop
  | none => storedSyncData s.ideContext = none
  | some i => ∃ p, s.panels[i]? = some p ∧ p.taskSyncData = storedSyncData s.ideContext

/-- A panel event that writes the store leaves the panel showing what the store holds; one
that does not leaves both the panel's context and the global as they were. -/
theorem PanelEvent.run_spec {e : PanelEvent} {self : AgentConfiguration}
    {global : Option IdeContext} {r : AgentConfiguration × Option IdeContext}
    (h : e.run urlParse self global = some r) :
    (e.writesStore urlParse = true ∧ r.1.taskSyncData = storedSyncData r.2) ∨
      (e.writesStore urlParse = false ∧ r.1.taskSyncData = self.taskSyncData ∧ r.2 = global) := by
  cases e with
  | syncCompleted o =>
    rcases runSyncAttempt_some urlParse h with ⟨hw, rfl⟩ | ⟨data, -, hw, rfl⟩
    · exact .inr ⟨hw, rfl, rfl⟩
    · exact .inl ⟨hw, by simp⟩
  | updateSyncData data =>
    cases h
    exact .inl ⟨rfl, by simp⟩
  | clearTaskSync =>
    cases h
    exact .inl ⟨rfl, by simp⟩
  | toggleTaskSync =>
    cases h
    exact .inr ⟨rfl, rfl, rfl⟩

/-- What a step on panel `i` does: nothing when there is no such panel, otherwise the event's
run on that panel, with the panel put back in its place. -/
theorem step_panel_eq_some {s s' : AppState} {i : Nat} {e : PanelEvent}
    (h : step urlParse s (.panel i e) = some s') :
    (s.panels[i]? = none ∧ s' = s) ∨
      ∃ self r, s.panels[i]? = some self ∧ e.run urlParse self s.ideContext = some r ∧
        s' = ⟨r.2, s.panels.set i r.1⟩ := by
  simp only [step] at h
  split at h
  · next hnone => exact .inl ⟨hnone, (Option.some.inj h).symm⟩
  · next self hself =>
    obtain ⟨r, hr, rfl⟩ := Option.map_eq_some'.mp h
    exact .inr ⟨self, r, hself, hr, rfl⟩

theorem length_step {s s' : AppState} {e : AppEvent} (h : step urlParse s e = some s') :
    s'.panels.length = s.panels.length + e.opened := by
  cases e with
  | newPanel => cases h; simp [AppEvent.opened]
  | panel i e =>
    rcases step_panel_eq_some urlParse h with ⟨-, rfl⟩ | ⟨-, r, -, -, rfl⟩ <;>
      simp [AppEvent.opened]

/-- One step keeps the store shown by the last writer. -/
theorem storeShownBy_step {s s' : AppState} {w : Option Nat} (hw : StoreShownBy s w)
    (e : AppEvent) (h : step urlParse s e = some s') :
    StoreShownBy s' (e.nextWriter urlParse s.panels.length w) := by
  cases e with
  | newPanel =>
    cases h
    cases w with
    | none => exact hw
    | some j =>
      obtain ⟨p, hp, hdata⟩ := hw
      exact ⟨p, by rw [List.getElem?_append_left (List.getElem?_eq_some_iff.mp hp).1, hp], hdata⟩
  | panel i e =>
    simp only [AppEvent.nextWriter]
    rcases step_panel_eq_some urlParse h with ⟨hnone, rfl⟩ | ⟨self, r, hself, hr, rfl⟩
    · rw [if_neg fun hi => Nat.not_lt.mpr (List.getElem?_eq_none_iff.mp hnone) hi.1]
      exact hw
    · have hi : i < s.panels.length := (List.getElem?_eq_some_iff.mp hself).1
      rcases PanelEvent.run_spec urlParse hr with ⟨hwr, hdata⟩ | ⟨hwr, hdata, hglobal⟩
      · rw [if_pos ⟨hi, hwr⟩]
        exact ⟨r.1, List.getElem?_set_self hi, hdata⟩
      · rw [if_neg fun h => by simp [hwr] at h]
        cases w with
        | none => exact (congrArg storedSyncData hglobal).trans hw
        | some j =>
          obtain ⟨p, hp, hpdata⟩ := hw
          by_cases hj : j = i
          · subst j
            refine ⟨r.1, List.getElem?_set_self hi, ?_⟩
            rw [hdata, hglobal, ← hpdata, Option.some.inj (hself.symm.trans hp)]
          · exact ⟨p, (List.getElem?_set_ne (Ne.symm hj)).trans hp, by rw [hpdata, hglobal]⟩

/-- A run from a state shown by `w` ends in a state shown by the run's last writer. -/
theorem storeShownBy_foldlM (evs : List AppEvent) :
    ∀ {s s' : AppState} {w : Option Nat}, StoreShownBy s w →
      evs.foldlM (step urlParse) s = some s' →
      StoreShownBy s' (lastWriterFrom urlParse evs s.panels.length w) := by
  induction evs with
  | nil =>
    intro s s' w hw h
    cases h
    exact hw
  | cons e evs ih =>
    intro s s' w hw h
    obtain ⟨s₁, h₁, h₂⟩ := Option.bind_eq_some.mp h
    have hlen := length_step urlParse h₁
    rw [lastWriterFrom, ← hlen]
    exact ih (storeShownBy_step urlParse hw e h₁) h₂

/-- **The store over whole runs.** After any run, the store holds the context shown by the
panel that wrote it last, and nothing when no panel has written it. -/
theorem storedSyncData_run (evs : List AppEvent) {s : AppState} (h : run urlParse evs = some s) :
    match lastWriter urlParse evs with
    | none => storedSyncData s.ideContext = none
    | some i => ∃ p, s.panels[i]? = some p ∧ p.taskSyncData = storedSyncData s.ideContext :=
  storeShownBy_foldlM urlParse evs (s := AppState.init) rfl h

end

/-- A panel completes a sync, then a second panel opens. -/
def syncThenOpen : List AppEvent :=
  [.newPanel, .panel 0 (.updateSyncData (.blank 0)), .newPanel]

theorem storedSyncData_syncThenOpen :
    ∃ s, run (fun _ => none) syncThenOpen = some s ∧
      lastWriter (fun _ => none) syncThenOpen = some 0 ∧
      ∃ p, s.panels[0]? = some p ∧ p.taskSyncData = storedSyncData s.ideContext :=
  ⟨_, rfl, rfl, storedSyncData_run (fun _ => none) syncThenOpen rfl⟩

/-- A panel opened after a sync shows no task while the store holds the synced one. -/
theorem panels_not_store :
    ¬∀ (urlParse : String → Option Url) (evs : List AppEvent) (s : AppState),
      run urlParse evs = some s → ∀ p ∈ s.panels, p.taskSyncData = storedSyncData s.ideContext :=
  fun h => absurd (h (fun _ => none) syncThenOpen _ rfl) (by decide)

end TaskContextSync
