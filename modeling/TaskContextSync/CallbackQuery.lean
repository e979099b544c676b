import TaskContextSync.SyncData

/-!
# Reading a sync callback's query

The callback listener in `sync_task` starts from a blank context stamped with the current
time and runs through the decoded query pairs of the callback URL in order, each
recognised key overwriting its field (`applyQueryPair`, `parseSyncData`).

`parseSyncData_fields` says what the loop computes: each string field is the value of the
last pair with its key or `""`, each optional field `some` of that value or `none`
(`lastValue`). Pairs with another key change nothing wherever they stand
(`parseSyncData_unknown`), and listing a context's fields under their keys reads the
context back, its time stamp apart (`parseSyncData_syncDataPairs`).
-/

namespace TaskContextSync

/-- The context `sync_task` fills in from the query: empty IDs, no optional field, and
`synced_at` stamped with `now`. -/
def TaskSyncData.blank (now : SystemTime) : TaskSyncData where
  accountId := ""
  accountName := ""
  productId := ""
  productName := ""
  boardId := ""
  bigBet := none
  bigBetDescription := none
  taskId := none
  workItem := none
  workItemDescription := none
  syncedAt := some now

/-- One iteration of `for (key, value) in url.query_pairs()` in `sync_task`. -/
def applyQueryPair (syncData : TaskSyncData) : String × String → TaskSyncData
  | (key, value) =>
    match key with
    | "account_id" => { syncData with accountId := value }
    | "account_name" => { syncData with accountName := value }
    | "product_id" => { syncData with productId := value }
    | "product_name" => { syncData with productName := value }
    | "board_id" => { syncData with boardId := value }
    | "board_name" => { syncData with bigBet := some value }
    | "board_description" => { syncData with bigBetDescription := some value }
    | "task_id" => { syncData with taskId := some value }
    | "task_name" => { syncData with workItem := some value }
    | "task_description" => { syncData with workItemDescription := some value }
    | _ => syncData

/-- The context `sync_task` builds from the decoded query pairs of a callback. -/
def parseSyncData (now : SystemTime) (pairs : List (String × String)) : TaskSyncData :=
  pairs.foldl applyQueryPair (TaskSyncData.blank now)

/-- The keys `applyQueryPair` recognises. -/
def queryKeys : List String :=
  ["account_id", "account_name", "product_id", "product_name", "board_id", "board_name",
    "board_description", "task_id", "task_name", "task_description"]

/-- The value of the last pair with key `key`. -/
def lastValue (key : String) (pairs : List (String × String)) : Option String :=
  ((pairs.filter fun p => p.1 = key).getLast?).map Prod.snd

@[simp] theorem lastValue_nil (key : String) : lastValue key [] = none := rfl

theorem lastValue_append_singleton (key : String) (pairs : List (String × String))
    (p : String × String) :
    lastValue key (pairs ++ [p]) = if p.1 = key then some p.2 else lastValue key pairs := by
  by_cases h : p.1 = key <;> simp [lastValue, List.filter_append, h]

/-- Every arm of `applyQueryPair` at once: the field of the key takes the value. -/
theorem applyQueryPair_eq (d : TaskSyncData) (key value : String) :
    applyQueryPair d (key, value) =
      { accountId := if key = "account_id" then value else d.accountId
        accountName := if key = "account_name" then value else d.accountName
        productId := if key = "product_id" then value else d.productId
        productName := if key = "product_name" then value else d.productName
        boardId := if key = "board_id" then value else d.boardId
        bigBet := if key = "board_name" then some value else d.bigBet
        bigBetDescription := if key = "board_description" then some value else d.bigBetDescription
        taskId := if key = "task_id" then some value else d.taskId
        workItem := if key = "task_name" then some value else d.workItem
        workItemDescription :=
          if key = "task_description" then some value else d.workItemDescription
        syncedAt := d.syncedAt } := by
  unfold applyQueryPair
  dsimp only
  split <;> simp_all

theorem applyQueryPair_of_not_mem {key : String} (h : key ∉ queryKeys) (d : TaskSyncData)
    (value : String) : applyQueryPair d (key, value) = d := by
  simp only [queryKeys, List.mem_cons, List.mem_singleton, not_or] at h
  simp [applyQueryPair_eq, h]

/-- A field that only the pairs keyed `key` write, through `f`, ends up as `f` of the last
such pair's value, or where it started. -/
theorem foldl_applyQueryPair_field {α : Type} {proj : TaskSyncData → α} {key : String}
    {f : String → α}
    (hstep : ∀ d k v, proj (applyQueryPair d (k, v)) = if k = key then f v else proj d)
    (init : TaskSyncData) (pairs : List (String × String)) :
    proj (pairs.foldl applyQueryPair init) = ((lastValue key pairs).map f).getD (proj init) := by
  induction pairs using List.reverseRecOn with
  | nil => rfl
  | append_singleton pairs p ih =>
    rw [List.foldl_append, List.foldl_cons, List.foldl_nil, lastValue_append_singleton]
    obtain ⟨k, v⟩ := p
    rw [hstep, ih]
    by_cases hk : k = key <;> simp [hk]

theorem parseSyncData_string {proj : TaskSyncData → String} {key : String}
    (hblank : ∀ now, proj (TaskSyncData.blank now) = "")
    (hstep : ∀ d k v, proj (applyQueryPair d (k, v)) = if k = key then v else proj d)
    (now : SystemTime) (pairs : List (String × String)) :
    proj (parseSyncData now pairs) = (lastValue key pairs).getD "" := by
  simpa [hblank] using foldl_applyQueryPair_field (f := id) hstep (.blank now) pairs

theorem parseSyncData_option {proj : TaskSyncData → Option String} {key : String}
    (hblank : ∀ now, proj (TaskSyncData.blank now) = none)
    (hstep : ∀ d k v, proj (applyQueryPair d (k, v)) = if k = key then some v else proj d)
    (now : SystemTime) (pairs : List (String × String)) :
    proj (parseSyncData now pairs) = lastValue key pairs := by
  rw [parseSyncData, foldl_applyQueryPair_field hstep, hblank]
  cases lastValue key pairs <;> rfl

theorem syncedAt_foldl_applyQueryPair (init : TaskSyncData) (pairs : List (String × String)) :
    (pairs.foldl applyQueryPair init).syncedAt = init.syncedAt := by
  induction pairs generalizing init with
  | nil => rfl
  | cons p pairs ih => rw [List.foldl_cons, ih, applyQueryPair_eq]

/-- **The callback parser, field by field.** -/
theorem parseSyncData_fields (now : SystemTime) (pairs : List (String × String)) :
    parseSyncData now pairs =
      { accountId := (lastValue "account_id" pairs).getD ""
        accountName := (lastValue "account_name" pairs).getD ""
        productId := (lastValue "product_id" pairs).getD ""
        productName := (lastValue "product_name" pairs).getD ""
        boardId := (lastValue "board_id" pairs).getD ""
        bigBet := lastValue "board_name" pairs
        bigBetDescription := lastValue "board_description" pairs
        taskId := lastValue "task_id" pairs
        workItem := lastValue "task_name" pairs
        workItemDescription := lastValue "task_description" pairs
        syncedAt := some now } := by
  ext1
  all_goals first
    | exact parseSyncData_string (fun _ => rfl) (fun d k v => by simp [applyQueryPair_eq]) now pairs
    | exact parseSyncData_option (fun _ => rfl) (fun d k v => by simp [applyQueryPair_eq]) now pairs
    | exact syncedAt_foldl_applyQueryPair _ pairs

/-- A pair whose key `applyQueryPair` does not recognise changes nothing, wherever it
stands. -/
theorem parseSyncData_unknown (now : SystemTime) (pre post : List (String × String))
    {key : String} (h : key ∉ queryKeys) (value : String) :
    parseSyncData now (pre ++ (key, value) :: post) = parseSyncData now (pre ++ post) := by
  simp [parseSyncData, List.foldl_append, applyQueryPair_of_not_mem h]

/-! ## Writing a context as query pairs -/

/-- Each of `d`'s fields under its key: the IDs and names, then each optional field that is
present. -/
def syncDataPairs (d : TaskSyncData) : List (String × String) :=
  [("account_id", d.accountId), ("account_name", d.accountName), ("product_id", d.productId),
      ("product_name", d.productName), ("board_id", d.boardId)] ++
    (d.bigBet.map fun v => ("board_name", v)).toList ++
    (d.bigBetDescription.map fun v => ("board_description", v)).toList ++
    (d.taskId.map fun v => ("task_id", v)).toList ++
    (d.workItem.map fun v => ("task_name", v)).toList ++
    (d.workItemDescription.map fun v => ("task_description", v)).toList

theorem lastValue_append (key : String) (l₁ l₂ : List (String × String)) :
    lastValue key (l₁ ++ l₂) = (lastValue key l₂).or (lastValue key l₁) := by
  simp only [lastValue, List.filter_append, List.getLast?_append]
  cases (l₂.filter fun p => p.1 = key).getLast? <;> rfl

theorem lastValue_cons (key : String) (p : String × String) (l : List (String × String)) :
    lastValue key (p :: l) = (lastValue key l).or (if p.1 = key then some p.2 else none) := by
  rw [← List.singleton_append, lastValue_append]
  by_cases h : p.1 = key <;> simp [lastValue, h]

@[simp] theorem lastValue_optionPair (key k : String) (o : Option String) :
    lastValue key (o.map fun v => (k, v)).toList = if k = key then o else none := by
  cases o <;> by_cases h : k = key <;> simp [lastValue, h]

/-- Listing a context's fields under their keys and parsing them back gives the context,
stamped with the parse time. -/
theorem parseSyncData_syncDataPairs (now : SystemTime) (d : TaskSyncData) :
    parseSyncData now (syncDataPairs d) = { d with syncedAt := some now } := by
  rw [parseSyncData_fields]
  simp [syncDataPairs, lastValue_append, lastValue_cons]

/-- **The callback parser.** Each field comes from the last pair with its key, pairs with
other keys change nothing wherever they stand, and a context's own pairs read back as the
context stamped with the parse time. -/
theorem parseSyncData_spec (now : SystemTime) :
    (∀ pairs : List (String × String), parseSyncData now pairs =
      { accountId := (lastValue "account_id" pairs).getD ""
        accountName := (lastValue "account_name" pairs).getD ""
        productId := (lastValue "product_id" pairs).getD ""
        productName := (lastValue "product_name" pairs).getD ""
        boardId := (lastValue "board_id" pairs).getD ""
        bigBet := lastValue "board_name" pairs
        bigBetDescription := lastValue "board_description" pairs
        taskId := lastValue "task_id" pairs
        workItem := lastValue "task_name" pairs
        workItemDescription := lastValue "task_description" pairs
        syncedAt := some now }) ∧
    (∀ (pre post : List (String × String)) (key value : String), key ∉ queryKeys →
      parseSyncData now (pre ++ (key, value) :: post) = parseSyncData now (pre ++ post)) ∧
    ∀ d : TaskSyncData, parseSyncData now (syncDataPairs d) = { d with syncedAt := some now } :=
  ⟨parseSyncData_fields now, fun pre post _ value h => parseSyncData_unknown now pre post h value,
    parseSyncData_syncDataPairs now⟩

end TaskContextSync
