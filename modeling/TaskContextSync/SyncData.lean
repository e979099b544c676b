import Mathlib.Data.List.Basic

/-!
# Synced task data and the process-wide store

`TaskSyncData` is the context a task sync delivers: the account, product and board the
user works in, and optionally a task. `IdeContext` is the process-wide store that holds
the last synced context behind a lock (`get_sync_data`, `set_sync_data`,
`clear_sync_data`), registered as an application global by `IdeContext::init`.

The lock is a `std::sync::RwLock` that no writer holds across a panic, so it is never
poisoned and each operation reads or replaces the whole value. The store is therefore a
plain `Option TaskSyncData`, and the application global an `Option IdeContext`, absent
until `IdeContext::init` runs (`storedSyncData`).
-/

namespace TaskContextSync

/-- A reading of the system clock (`std::time::SystemTime`). -/
abbrev SystemTime := Nat

/-- The synced task context (`TaskSyncData`). The board's display name and description are
`bigBet` and `bigBetDescription`, the task's are `workItem` and `workItemDescription`. -/
@[ext]
structure TaskSyncData where
  accountId : String
  accountName : String
  productId : String
  productName : String
  boardId : String
  bigBet : Option String
  bigBetDescription : Option String
  taskId : Option String
  workItem : Option String
  workItemDescription : Option String
  syncedAt : Option SystemTime
deriving DecidableEq, Repr

/-- The store of the last synced context (`IdeContext`). -/
structure IdeContext where
  syncData : Option TaskSyncData
deriving DecidableEq, Repr

namespace IdeContext

/-- `IdeContext::init`: registers a fresh, empty store as the global, replacing any. -/
def init (_ : Option IdeContext) : Option IdeContext :=
  some ⟨none⟩

/-- `IdeContext::get_sync_data`: a copy of the stored context. -/
def getSyncData (self : IdeContext) : Option TaskSyncData :=
  self.syncData

/-- `IdeContext::set_sync_data`: replaces the stored context. -/
def setSyncData (self : IdeContext) (data : TaskSyncData) : IdeContext :=
  { self with syncData := some data }

/-- `IdeContext::clear_sync_data`: empties the store. -/
def clearSyncData (self : IdeContext) : IdeContext :=
  { self with syncData := none }

@[simp] theorem getSyncData_setSyncData (self : IdeContext) (data : TaskSyncData) :
    (self.setSyncData data).getSyncData = some data := rfl

@[simp] theorem getSyncData_clearSyncData (self : IdeContext) :
    self.clearSyncData.getSyncData = none := rfl

/-- Clearing twice is clearing once. -/
@[simp] theorem clearSyncData_clearSyncData (self : IdeContext) :
    self.clearSyncData.clearSyncData = self.clearSyncData := rfl

end IdeContext

/-- What `cx.try_global::<IdeContext>().and_then(|c| c.get_sync_data())` reads: the
stored context, and `none` while the global is absent. -/
def storedSyncData (global : Option IdeContext) : Option TaskSyncData :=
  global.bind IdeContext.getSyncData

@[simp] theorem storedSyncData_none : storedSyncData none = none := rfl

@[simp] theorem storedSyncData_some (ide : IdeContext) :
    storedSyncData (some ide) = ide.getSyncData := rfl

end TaskContextSync
