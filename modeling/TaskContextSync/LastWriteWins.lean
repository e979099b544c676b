import TaskContextSync.App

/-!
# The store as a last-write-wins register

What the task-sync design asks of the panels and the store, stated without the code
(`SyncRegister`): the store is one register, and each panel shows a value of its own. An
event on an open panel that writes, writes the same value to the register and to that
panel's display, and nothing else changes it (`PanelEvent.written`): `update_sync_data`
writes its context, `clear_task_sync` writes nothing, and a completed sync attempt writes the
context its listener returned when it got a token and a port. A panel opens showing nothing.
Two attempts racing to completion, on one panel or on two, leave the register holding
whichever completed last.

The application refines this design (`run_refines_register`): after any run, the store holds
what the design's register holds and every panel shows what the design says it shows. The
proof is one step at a time (`abstract_step`), from what a panel event does to the panel and
the store (`PanelEvent.run_written`).
-/

namespace TaskContextSync

/-- The design's state: the register, and the value each open panel shows, oldest first. -/
structure SyncRegister where
  stored : Option TaskSyncData
  shown : List (Option TaskSyncData)
deriving DecidableEq, Repr

section

variable (urlParse : String → Option Url)

/-- What a panel event writes to the register and to its panel's display, or `none` when it
writes nothing: a completed attempt that got a token and a port writes the context its
listener returned, `update_sync_data` its context, `clear_task_sync` the empty value. -/
def PanelEvent.written : PanelEvent → Option (Option TaskSyncData)
  | .syncCompleted o =>
    match o.token, o.bind, callbackListener urlParse o.clock o.polls with
    | .ok _, .ok _, .ok data => some (some data)
    | _, _, _ => none
  | .updateSyncData data => some (some data)
  | .clearTaskSync => some none
  | .toggleTaskSync => none

/-- One event of the design: a new panel shows nothing; an event on an open panel that
writes sets the register and that panel's display. -/
def SyncRegister.step (r : SyncRegister) : AppEvent → SyncRegister
  | .newPanel => { r with shown := r.shown ++ [none] }
  | .panel i e =>
    match e.written urlParse with
    | some value => if i < r.shown.length then ⟨value, r.shown.set i value⟩ else r
    | none => r

/-- The design's run, from an empty register and no panel. -/
def SyncRegister.run (evs : List AppEvent) : SyncRegister :=
  evs.foldl (SyncRegister.step urlParse) ⟨none, []⟩

/-- What the design sees of an application state: the stored context, and each panel's. -/
def AppState.abstract (s : AppState) : SyncRegister :=
  ⟨storedSyncData s.ideContext, s.panels.map (·.taskSyncData)⟩

theorem set_eq_self_of_getElem? {α : Type} {l : List α} {i : Nat} {a : α} (h : l[i]? = some a) :
    l.set i a = l := by
  apply List.ext_getElem?
  intro j
  rw [List.getElem?_set]
  split
  · next hij => subst hij; rw [if_pos (List.getElem?_eq_some_iff.mp h).1, h]
  · rfl

/-- A panel event that ends leaves its panel and the store both holding what it wrote, or,
when it wrote nothing, both as they were. -/
theorem PanelEvent.run_written {e : PanelEvent} {self : AgentConfiguration}
    {global : Option IdeContext} {r : AgentConfiguration × Option IdeContext}
    (h : e.run urlParse self global = some r) :
    r.1.taskSyncData = (e.written urlParse).getD self.taskSyncData ∧
      storedSyncData r.2 = (e.written urlParse).getD (storedSyncData global) := by
  cases e with
  | syncCompleted o =>
    obtain ⟨token, bind, clock, polls, workspaceOpen⟩ := o
    simp only [PanelEvent.run, runSyncAttempt, syncTask] at h
    rcases token with _ | token
    · cases workspaceOpen <;> cases h <;> exact ⟨rfl, rfl⟩
    · rcases bind with _ | port
      · cases h
      · simp only [PanelEvent.written]
        cases hl : callbackListener urlParse clock polls <;> simp only [hl] at h <;> cases h <;> simp
  | updateSyncData data => cases h; simp [PanelEvent.written]
  | clearTaskSync => cases h; simp [PanelEvent.written]
  | toggleTaskSync => cases h; exact ⟨rfl, rfl⟩

/-- **One step refines one step of the design.** -/
theorem abstract_step {s s' : AppState} {e : AppEvent} (h : step urlParse s e = some s') :
    s'.abstract = s.abstract.step urlParse e := by
  cases e with
  | newPanel => cases h; simp [AppState.abstract, SyncRegister.step, AgentConfiguration.new]
  | panel i e =>
    rcases step_panel_eq_some urlParse h with ⟨hnone, rfl⟩ | ⟨self, r, hself, hr, rfl⟩
    · have hi := Nat.not_lt.mpr (List.getElem?_eq_none_iff.mp hnone)
      simp only [SyncRegister.step, AppState.abstract, List.length_map, hi, if_false]
      split <;> rfl
    · have hi : i < s.panels.length := (List.getElem?_eq_some_iff.mp hself).1
      obtain ⟨hshown, hstored⟩ := PanelEvent.run_written urlParse hr
      simp only [SyncRegister.step, AppState.abstract, List.length_map, hi, if_true, List.map_set]
      cases hw : e.written urlParse with
      | none =>
        rw [hw, Option.getD_none] at hshown hstored
        rw [hshown, hstored, set_eq_self_of_getElem? (by simp [hself])]
      | some value =>
        rw [hw, Option.getD_some] at hshown hstored
        rw [hshown, hstored]

theorem abstract_foldlM (evs : List AppEvent) :
    ∀ {s s' : AppState}, evs.foldlM (step urlParse) s = some s' →
      s'.abstract = evs.foldl (SyncRegister.step urlParse) s.abstract := by
  induction evs with
  | nil => intro s s' h; cases h; rfl
  | cons e evs ih =>
    intro s s' h
    obtain ⟨s₁, h₁, h₂⟩ := Option.bind_eq_some.mp h
    rw [ih h₂, abstract_step urlParse h₁]
    rfl

/-- **The application refines the register.** After any run, the store holds what the last
event that wrote, on any open panel, wrote, and every panel shows what its own last write
wrote, and nothing if it never wrote. -/
theorem run_refines_register {evs : List AppEvent} {s : AppState} (h : run urlParse evs = some s) :
    s.abstract = SyncRegister.run urlParse evs :=
  abstract_foldlM urlParse evs h

end

/-- Two panels each write a context, the second one last. -/
def twoWrites : List AppEvent :=
  [.newPanel, .newPanel, .panel 0 (.updateSyncData (.blank 0)), .panel 1 (.updateSyncData (.blank 1))]

theorem run_refines_register_twoWrites :
    ∃ s, run (fun _ => none) twoWrites = some s ∧
      s.abstract = SyncRegister.run (fun _ => none) twoWrites :=
  ⟨_, rfl, run_refines_register (fun _ => none) rfl⟩

example : (SyncRegister.run (fun _ => none) twoWrites).stored = some (.blank 1) := rfl

end TaskContextSync
