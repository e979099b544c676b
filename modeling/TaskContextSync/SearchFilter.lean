import TaskContextSync.SyncData

/-!
# Scoping searches to the synced task

`FileSearchTool::run` turns the synced task into context filters (`contextFilters`):
content type `auto`, the account, product and board always, the task when there is one.
`perform_search` merges them into the caller's filter (`mergeFilters`): each of the four ids
the caller left unset is taken from the context, and nothing else is. Without a synced task
the caller's filter is sent as it is.

`mergeFilters_contextFilters` says field by field what is sent. A caller's id is kept
whenever it is set, also when it is empty, and an unset one is filled with the stored value,
also when that is empty. The context's `auto` content type is never copied: the content type
sent is always the caller's.

The store has a context filter of its own, `get_context_filter`, that no search uses. It names
the same ids, but types the search as `tasks`.
-/

namespace TaskContextSync

/-- `SearchFilter`; `searchType` is serialized as `type`, and an unset field is left out. -/
structure SearchFilter where
  searchType : Option String
  contentType : Option String
  threadId : Option String
  accountId : Option String
  productId : Option String
  boardId : Option String
  taskId : Option String
deriving DecidableEq, Repr

/-- The filter with no field set. -/
def SearchFilter.empty : SearchFilter :=
  ⟨none, none, none, none, none, none, none⟩

/-- `FileSearchToolInput`, the tool's input as the model sends it. -/
structure FileSearchToolInput where
  query : Option String
  limit : Option UInt32
  filter : Option SearchFilter
deriving DecidableEq, Repr

/-- `FileSearchRequest`, the body of a search request. -/
structure FileSearchRequest where
  query : Option String
  limit : Option UInt32
  filter : Option SearchFilter
deriving DecidableEq, Repr

/-- The `context_filters` of `run`: the synced task's ids, with content type `auto`. -/
def contextFilters (global : Option IdeContext) : Option SearchFilter :=
  (storedSyncData global).map fun syncData =>
    { SearchFilter.empty with
      contentType := some "auto"
      accountId := some syncData.accountId
      productId := some syncData.productId
      boardId := some syncData.boardId
      taskId := syncData.taskId }

/-- `IdeContext::get_context_filter`, the members of the JSON object it builds. No search reads
it. -/
def IdeContext.getContextFilter (self : IdeContext) : Option (List (String × String)) :=
  self.getSyncData.map fun data =>
    [("type", "tasks"), ("account_id", data.accountId), ("product_id", data.productId),
      ("board_id", data.boardId)] ++ (data.taskId.map fun taskId => [("task_id", taskId)]).getD []

/-- `if merged_filter.field.is_none() { merged_filter.field = context_filter.field }`. -/
def fillIfNone (field contextField : Option String) : Option String :=
  if field.isNone then contextField else field

/-- The filter `perform_search` sends: with context filters, the caller's filter (an empty one
if there is none) with its unset ids taken from the context; without, the caller's filter. -/
def mergeFilters (contextFilters filter : Option SearchFilter) : Option SearchFilter :=
  match contextFilters with
  | some contextFilter =>
    let merged := filter.getD SearchFilter.empty
    some { merged with
      accountId := fillIfNone merged.accountId contextFilter.accountId
      productId := fillIfNone merged.productId contextFilter.productId
      boardId := fillIfNone merged.boardId contextFilter.boardId
      taskId := fillIfNone merged.taskId contextFilter.taskId }
  | none => filter

@[simp] theorem fillIfNone_eq_or (field contextField : Option String) :
    fillIfNone field contextField = field.or contextField := by
  cases field <;> rfl

/-- **The filter sent.** Without a synced task, the caller's filter; with one, the caller's
search type, content type and thread, and each id the caller's when set, otherwise the
stored one. -/
theorem mergeFilters_contextFilters (global : Option IdeContext) (filter : Option SearchFilter) :
    mergeFilters (contextFilters global) filter =
      match storedSyncData global with
      | none => filter
      | some syncData => some
        { searchType := filter.bind (·.searchType)
          contentType := filter.bind (·.contentType)
          threadId := filter.bind (·.threadId)
          accountId := (filter.bind (·.accountId)).or (some syncData.accountId)
          productId := (filter.bind (·.productId)).or (some syncData.productId)
          boardId := (filter.bind (·.boardId)).or (some syncData.boardId)
          taskId := (filter.bind (·.taskId)).or syncData.taskId } := by
  unfold contextFilters
  cases storedSyncData global <;> cases filter <;> simp [mergeFilters, SearchFilter.empty]

end TaskContextSync
