import TaskContextSync.Listener
import TaskContextSync.Handoff

/-!
# The task-sync section of the agent configuration panel

An `AgentConfiguration` panel keeps its own copy of the synced context and whether its
task-sync section is expanded. `update_sync_data` shows a context, stores it in the global
`IdeContext` (registering the global first when it is absent) and collapses the section;
`clear_task_sync` clears both and expands it.

`sync_task` runs one attempt in the background (`syncTask`): it asks the server for a
token, starts the callback server on an ephemeral port, opens the handoff page, waits for
the listener and hands a received context to `update_sync_data`. A failed token request
shows a sign-in toast. A failed bind panics (`expect`).

`runSyncAttempt` applies an attempt to a panel and the store. An attempt that gets a token
and a port opens the handoff page before anything else, and then hands the listener's
context, if it returned one, to `update_sync_data` (`syncTask_of_port`); when the first
callback parses and is answered, the panel and the store end up holding the context read off
it (`runSyncAttempt_callback`). An attempt that ends does so in one of two ways
(`runSyncAttempt_some`): the store, the panel's context and its section are as they were, or
`update_sync_data` ran with the context the listener returned. One whose bind fails after a
token panics (`runSyncAttempt_bind_failure`).
-/

namespace TaskContextSync

/-- The task-sync state of an `AgentConfiguration` panel: `task_sync_expanded` and
`task_sync_data`. -/
structure AgentConfiguration where
  taskSyncExpanded : Bool
  taskSyncData : Option TaskSyncData
deriving DecidableEq, Repr

namespace AgentConfiguration

/-- `AgentConfiguration::new`: expanded, no task synced. -/
def new : AgentConfiguration :=
  ⟨true, none⟩

/-- `update_sync_data`: shows `data`, stores it in the global `IdeContext`, registering the
global first when it is absent, and collapses the section. -/
def updateSyncData (self : AgentConfiguration) (data : TaskSyncData)
    (global : Option IdeContext) : AgentConfiguration × Option IdeContext :=
  let self := { self with taskSyncData := some data }
  let global :=
    match global with
    | some ideContext => some (ideContext.setSyncData data)
    | none => (IdeContext.init global).map fun ideContext => ideContext.setSyncData data
  ({ self with taskSyncExpanded := false }, global)

/-- `clear_task_sync`: forgets the context here and in the global, if there is one, and
expands the section. -/
def clearTaskSync (self : AgentConfiguration) (global : Option IdeContext) :
    AgentConfiguration × Option IdeContext :=
  ({ self with taskSyncData := none, taskSyncExpanded := true }, global.map IdeContext.clearSyncData)

/-- The click handler of the section's disclosure. -/
def toggleTaskSync (self : AgentConfiguration) : AgentConfiguration :=
  { self with taskSyncExpanded := !self.taskSyncExpanded }

@[simp] theorem updateSyncData_fst (self : AgentConfiguration) (data : TaskSyncData)
    (global : Option IdeContext) :
    (self.updateSyncData data global).1 = ⟨false, some data⟩ := rfl

@[simp] theorem storedSyncData_updateSyncData (self : AgentConfiguration) (data : TaskSyncData)
    (global : Option IdeContext) :
    storedSyncData (self.updateSyncData data global).2 = some data := by
  cases global <;> rfl

@[simp] theorem clearTaskSync_fst (self : AgentConfiguration) (global : Option IdeContext) :
    (self.clearTaskSync global).1 = ⟨true, none⟩ := rfl

@[simp] theorem storedSyncData_clearTaskSync (self : AgentConfiguration)
    (global : Option IdeContext) : storedSyncData (self.clearTaskSync global).2 = none := by
  cases global <;> rfl

@[simp] theorem toggleTaskSync_taskSyncData (self : AgentConfiguration) :
    self.toggleTaskSync.taskSyncData = self.taskSyncData := rfl

end AgentConfiguration

/-! ## One sync attempt -/

/-- What the collaborators of one attempt do: the `GetLlmToken` reply, binding the callback
server on `127.0.0.1:0`, the clock and the server's polls during the wait, and whether the
workspace is still there to show a toast. -/
structure SyncOutcome where
  token : Except String String
  bind : Except String UInt16
  clock : Nat → SystemTime
  polls : Nat → Option CallbackRequest
  workspaceOpen : Bool

/-- What an attempt does outside its own task, in order. `updateSyncData` is the call on
the panel, made when the panel still exists. -/
inductive SyncEffect
  | openUrl (url : String)
  | statusToast (message : String)
  | updateSyncData (data : TaskSyncData)
  | panic (message : String)
deriving Repr

/-- The toast a failed token request shows. -/
def signInToast : String :=
  "Unable to sync task. Please ensure you're signed in to Oppla and try again."

section

variable (urlParse : String → Option Url)

/-- The task `sync_task` spawns. -/
def syncTask (o : SyncOutcome) : List SyncEffect :=
  match o.token with
  | .ok token =>
    match o.bind with
    | .error _ => [.panic "failed to find open port for sync callback"]
    | .ok port =>
      .openUrl (handoffUrl token port) ::
        match callbackListener urlParse o.clock o.polls with
        | .ok syncData => [.updateSyncData syncData]
        | .error _ => []
  | .error _ => if o.workspaceOpen then [.statusToast signInToast] else []

/-- One effect on the panel and the store; `none` once the attempt panicked. -/
def applySyncEffect (state : AgentConfiguration × Option IdeContext) :
    SyncEffect → Option (AgentConfiguration × Option IdeContext)
  | .updateSyncData data => some (state.1.updateSyncData data state.2)
  | .panic _ => none
  | .openUrl _ | .statusToast _ => some state

/-- An attempt on a panel: the panel and the store after it, or `none` if it panicked. -/
def runSyncAttempt (o : SyncOutcome) (self : AgentConfiguration) (global : Option IdeContext) :
    Option (AgentConfiguration × Option IdeContext) :=
  (syncTask urlParse o).foldlM applySyncEffect (self, global)

/-- Whether an attempt calls `update_sync_data`. -/
def SyncEffect.isUpdate : SyncEffect → Bool
  | .updateSyncData _ => true
  | _ => false

/-- **An attempt changes all or nothing.** An attempt that ends leaves the panel and the
store as they were and calls no `update_sync_data`, or calls it once, with the context the
listener returned. -/
theorem runSyncAttempt_some {o : SyncOutcome} {self : AgentConfiguration}
    {global : Option IdeContext} {r : AgentConfiguration × Option IdeContext}
    (h : runSyncAttempt urlParse o self global = some r) :
    ((syncTask urlParse o).any SyncEffect.isUpdate = false ∧ r = (self, global)) ∨
      ∃ data, callbackListener urlParse o.clock o.polls = .ok data ∧
        (syncTask urlParse o).any SyncEffect.isUpdate = true ∧
        r = self.updateSyncData data global := by
  obtain ⟨token, bind, clock, polls, workspaceOpen⟩ := o
  unfold runSyncAttempt at h
  cases token with
  | error => cases workspaceOpen <;> simp_all [syncTask, applySyncEffect, SyncEffect.isUpdate]
  | ok token =>
    cases bind with
    | error => simp [syncTask, applySyncEffect] at h
    | ok port =>
      cases hl : callbackListener urlParse clock polls <;>
        simp_all [syncTask, applySyncEffect, SyncEffect.isUpdate]

/-- An attempt that gets a token and a port opens the handoff page for them first, then hands
the listener's context, if it returned one, to `update_sync_data`. -/
theorem syncTask_of_port {o : SyncOutcome} {token : String} {port : UInt16}
    (htoken : o.token = .ok token) (hbind : o.bind = .ok port) :
    syncTask urlParse o = .openUrl (handoffUrl token port) ::
      ((callbackListener urlParse o.clock o.polls).toOption.map SyncEffect.updateSyncData).toList := by
  simp only [syncTask, htoken, hbind]
  cases callbackListener urlParse o.clock o.polls <;> rfl

/-- **A sync that gets a token and a port.** The attempt opens the handoff page for them
before anything else, and its only other effect is `update_sync_data` with the listener's
context, if it returned one. When the first request among its polls has a target that parses
and its page is written back, the panel ends collapsed, showing the context read off that
request's query stamped with the time of its poll, and the store holds that context. -/
theorem runSyncAttempt_callback {o : SyncOutcome} {token : String} {port : UInt16}
    (htoken : o.token = .ok token) (hbind : o.bind = .ok port) (self : AgentConfiguration)
    (global : Option IdeContext) :
    syncTask urlParse o = .openUrl (handoffUrl token port) ::
        ((callbackListener urlParse o.clock o.polls).toOption.map SyncEffect.updateSyncData).toList ∧
      ∀ i req url, i < callbackPolls → o.polls i = some req → (∀ j < i, o.polls j = none) →
        urlParse (callbackBase ++ req.url) = some url → req.respondOk = true →
        ∃ global', runSyncAttempt urlParse o self global =
            some (⟨false, some (parseSyncData (o.clock i) url.queryPairs)⟩, global') ∧
          storedSyncData global' = some (parseSyncData (o.clock i) url.queryPairs) := by
  refine ⟨syncTask_of_port urlParse htoken hbind, fun i req url hi hreq hfirst hurl hrespond => ?_⟩
  have hlisten : callbackListener urlParse o.clock o.polls =
      .ok (parseSyncData (o.clock i) url.queryPairs) := by
    rw [callbackListener_first urlParse hi hreq hfirst]
    simp only [handleCallback, hurl, hrespond, if_true]
  refine ⟨_, ?_, AgentConfiguration.storedSyncData_updateSyncData self _ global⟩
  rw [runSyncAttempt, syncTask_of_port urlParse htoken hbind, hlisten]
  rfl

/-- Two polls time out, then a callback for account `a1` arrives and is answered. -/
def callbackAtThirdPoll : SyncOutcome :=
  ⟨.ok "tok123", .ok 8080, fun i => 100 + i,
    fun i => if i = 2 then some ⟨"/?account_id=a1", true⟩ else none, true⟩

/-- A parser that knows one callback URL. -/
def callbackParse (url : String) : Option Url :=
  if url = "http://example.com/?account_id=a1" then some ⟨[("account_id", "a1")]⟩ else none

theorem runSyncAttempt_callback_third :
    syncTask callbackParse callbackAtThirdPoll = .openUrl (handoffUrl "tok123" 8080) ::
        ((callbackListener callbackParse callbackAtThirdPoll.clock
          callbackAtThirdPoll.polls).toOption.map SyncEffect.updateSyncData).toList ∧
      ∃ global', runSyncAttempt callbackParse callbackAtThirdPoll AgentConfiguration.new none =
          some (⟨false, some (parseSyncData 102 [("account_id", "a1")])⟩, global') ∧
        storedSyncData global' = some (parseSyncData 102 [("account_id", "a1")]) :=
  have h := @runSyncAttempt_callback callbackParse callbackAtThirdPoll "tok123" 8080 rfl rfl
    AgentConfiguration.new none
  ⟨h.1, h.2 2 ⟨"/?account_id=a1", true⟩ ⟨[("account_id", "a1")]⟩ (by decide) rfl
    (fun j hj => if_neg (by omega)) rfl rfl⟩

/-- A failed bind after a token panics, whatever else happens. -/
theorem runSyncAttempt_bind_failure (token err : String) (clock : Nat → SystemTime)
    (polls : Nat → Option CallbackRequest) (workspaceOpen : Bool) (self : AgentConfiguration)
    (global : Option IdeContext) :
    syncTask urlParse ⟨.ok token, .error err, clock, polls, workspaceOpen⟩ =
        [.panic "failed to find open port for sync callback"] ∧
      runSyncAttempt urlParse ⟨.ok token, .error err, clock, polls, workspaceOpen⟩ self global =
        none :=
  ⟨rfl, rfl⟩

end

end TaskContextSync
