import TaskContextSync.App
import TaskContextSync.FileSearch

/-!
# Which task a search is scoped to

The panels write the store and the file search tool reads it. After any run of the
application, every request the tool sends is scoped as if the store held exactly the task the
panel that wrote the store last shows, and carries the caller's filter as it is while no panel
has written (`sent_scoped_by_lastWriter`). A panel's own display does not matter otherwise: a
panel opened later, or one that never synced, does not change what searches are scoped to.
-/

namespace TaskContextSync

/-- The filter a search sends reads the store only through the context it holds. -/
theorem contextFilters_eq_of_storedSyncData {global global' : Option IdeContext}
    (h : storedSyncData global = storedSyncData global') :
    contextFilters global = contextFilters global' := by
  simp only [contextFilters, h]

/-- **Searches follow the last writer.** After any run of the application, every request the
file search tool sends carries the filter it would carry if the store held exactly the task
shown by the panel that wrote the store last, and the caller's filter while no panel has
written. -/
theorem sent_scoped_by_lastWriter (urlParse : String → Option Url) {evs : List AppEvent}
    {s : AppState} (h : run urlParse evs = some s) (lib : SearchLib)
    (input : FileSearchToolInput) (o₁ o₂ : PostOutcome) :
    ∀ request ∈ (FileSearchTool.run lib (.ok input) s.ideContext o₁ o₂).sent,
      match lastWriter urlParse evs with
      | none => request.body.filter = input.filter
      | some i => ∃ p, s.panels[i]? = some p ∧
          request.body.filter = mergeFilters (contextFilters (some ⟨p.taskSyncData⟩)) input.filter := by
  intro request hrequest
  have hshown : StoreShownBy s (lastWriter urlParse evs) :=
    storeShownBy_foldlM urlParse evs (s := AppState.init) rfl h
  rw [body_of_mem_sent lib hrequest]
  revert hshown
  cases lastWriter urlParse evs with
  | none =>
    intro hstored
    simp [contextFilters, mergeFilters, show storedSyncData s.ideContext = none from hstored]
  | some i =>
    rintro ⟨p, hp, hdata⟩
    exact ⟨p, hp, by
      rw [@contextFilters_eq_of_storedSyncData _ (some ⟨p.taskSyncData⟩) hdata.symm]⟩

theorem sent_scoped_syncThenOpen :
    ∃ s, run (fun _ => none) syncThenOpen = some s ∧
      ∀ request ∈
          (FileSearchTool.run quietLib (.ok queryInput) s.ideContext lostRequest lostRequest).sent,
        match lastWriter (fun _ => none) syncThenOpen with
        | none => request.body.filter = queryInput.filter
        | some i => ∃ p, s.panels[i]? = some p ∧
            request.body.filter =
              mergeFilters (contextFilters (some ⟨p.taskSyncData⟩)) queryInput.filter :=
  ⟨_, rfl, @sent_scoped_by_lastWriter (fun _ => none) syncThenOpen _ rfl quietLib queryInput
    lostRequest lostRequest⟩

end TaskContextSync
