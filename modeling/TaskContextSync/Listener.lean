import TaskContextSync.CallbackQuery

/-!
# The callback listener

The background loop of `sync_task` polls the local server 300 times, one second each
(`callbackLoop`). A poll that times out or fails moves on to the next; the first request
that arrives ends the loop, whatever it holds. Its target, appended to
`http://example.com`, is parsed as a URL (`?` returns the parse error), the context is
read off the query pairs (`parseSyncData`), the HTML page is written back (`?` returns the
write error), and only then is the context returned (`handleCallback`).

`callbackListener_spec` states this over every sequence of poll outcomes: the first
request decides the result through `handleCallback`, and the timeout error comes exactly
when all 300 polls time out. So the loop does not pass over a request whose target does not
parse (`callbackListener_probe`), and a failed write discards the context it read, whatever
the parser (`not_skipsUnparsable_unanswered`).

`Url::parse` belongs to the `url` crate; the model takes it as an argument `urlParse` and
keeps of a parsed URL its decoded query pairs (`Url`).
-/

namespace TaskContextSync

/-- What the loop reads of a parsed URL: its decoded query pairs (`url.query_pairs()`). -/
structure Url where
  queryPairs : List (String × String)

/-- A request the callback server hands over: its target (`req.url()`) and whether writing
the response back (`req.respond`) succeeds. -/
structure CallbackRequest where
  url : String
  respondOk : Bool

/-- The base the callback target is appended to before parsing. -/
def callbackBase : String := "http://example.com"

/-- The error the loop ends with when no request arrives. -/
def syncTimeout : String := "Sync timeout - no callback received"

/-- How many one-second polls the loop makes (`for _ in 0..300`). -/
def callbackPolls : Nat := 300

/-- The first request among polls `i`, ..., `i + n - 1`, with its poll. -/
def firstRequest (polls : Nat → Option CallbackRequest) (i n : Nat) :
    Option (Nat × CallbackRequest) :=
  (List.range' i n).findSome? fun j => (polls j).map fun req => (j, req)

theorem firstRequest_succ (polls : Nat → Option CallbackRequest) (i n : Nat) :
    firstRequest polls i (n + 1) =
      match polls i with
      | some req => some (i, req)
      | none => firstRequest polls (i + 1) n := by
  simp only [firstRequest, List.range'_succ, List.findSome?_cons]
  cases polls i <;> rfl

/-- The first request is the request of the earliest poll that did not time out. -/
theorem firstRequest_eq_some {polls : Nat → Option CallbackRequest} {i j : Nat}
    {req : CallbackRequest} {n : Nat} (hj : i ≤ j) (hjn : j < i + n) (hreq : polls j = some req)
    (hnone : ∀ k, i ≤ k → k < j → polls k = none) : firstRequest polls i n = some (j, req) := by
  induction n generalizing i with
  | zero => omega
  | succ n ih =>
    rw [firstRequest_succ]
    rcases Nat.eq_or_lt_of_le hj with rfl | hlt
    · rw [hreq]
    · rw [hnone i le_rfl hlt]
      exact ih hlt (by omega) fun k hk hkj => hnone k (by omega) hkj

theorem firstRequest_eq_none {polls : Nat → Option CallbackRequest} {i n : Nat}
    (hnone : ∀ k, i ≤ k → k < i + n → polls k = none) : firstRequest polls i n = none := by
  simp only [firstRequest, List.findSome?_eq_none_iff, List.mem_range'_1]
  intro k hk
  simp [hnone k hk.1 hk.2]

section

variable (urlParse : String → Option Url)

/-- The body of the loop once a request arrived: parse its target, read the context off
the query, write the page back. -/
def handleCallback (now : SystemTime) (req : CallbackRequest) : Except String TaskSyncData :=
  match urlParse (callbackBase ++ req.url) with
  | none => .error "failed to parse sync callback url"
  | some url =>
    let syncData := parseSyncData now url.queryPairs
    if req.respondOk then .ok syncData else .error "failed to respond to sync callback"

/-- `n` more polls of the callback loop from poll `i` on; `polls i` is what
`server.recv_timeout(..).ok().flatten()` gives at poll `i` and `clock i` the time then. -/
def callbackLoop (clock : Nat → SystemTime) (polls : Nat → Option CallbackRequest) :
    Nat → Nat → Except String TaskSyncData
  | _, 0 => .error syncTimeout
  | i, n + 1 =>
    match polls i with
    | none => callbackLoop clock polls (i + 1) n
    | some req => handleCallback urlParse (clock i) req

/-- The listener `sync_task` runs in the background. -/
def callbackListener (clock : Nat → SystemTime) (polls : Nat → Option CallbackRequest) :
    Except String TaskSyncData :=
  callbackLoop urlParse clock polls 0 callbackPolls

/-- The loop ends at its first request, or times out. -/
theorem callbackLoop_eq (clock : Nat → SystemTime) (polls : Nat → Option CallbackRequest)
    (i n : Nat) :
    callbackLoop urlParse clock polls i n =
      match firstRequest polls i n with
      | none => .error syncTimeout
      | some (j, req) => handleCallback urlParse (clock j) req := by
  induction n generalizing i with
  | zero => rfl
  | succ n ih =>
    rw [callbackLoop, firstRequest_succ]
    cases polls i with
    | none => exact ih (i + 1)
    | some req => rfl

/-- When the first request arrives at poll `i`, the listener's result is `handleCallback`'s
for it. -/
theorem callbackListener_first {clock : Nat → SystemTime} {polls : Nat → Option CallbackRequest}
    {i : Nat} {req : CallbackRequest} (hi : i < callbackPolls) (hreq : polls i = some req)
    (hfirst : ∀ j < i, polls j = none) :
    callbackListener urlParse clock polls = handleCallback urlParse (clock i) req := by
  rw [callbackListener, callbackLoop_eq,
    firstRequest_eq_some (Nat.zero_le i) (by omega) hreq fun k _ hk => hfirst k hk]

/-- **The callback listener.** The first request among the 300 polls ends the wait with
`handleCallback`'s result for it; the timeout error comes exactly when every poll timed
out. -/
theorem callbackListener_spec (clock : Nat → SystemTime) (polls : Nat → Option CallbackRequest) :
    (∀ i req, i < callbackPolls → polls i = some req → (∀ j < i, polls j = none) →
      callbackListener urlParse clock polls =
        match urlParse ("http://example.com" ++ req.url) with
        | none => .error "failed to parse sync callback url"
        | some url =>
          if req.respondOk then .ok (parseSyncData (clock i) url.queryPairs)
          else .error "failed to respond to sync callback") ∧
    ((∀ i < callbackPolls, polls i = none) →
      callbackListener urlParse clock polls = .error "Sync timeout - no callback received") := by
  refine ⟨fun i req hi hreq hfirst => callbackListener_first urlParse hi hreq hfirst, fun hnone => ?_⟩
  rw [callbackListener, callbackLoop_eq, firstRequest_eq_none fun k _ hk => hnone k hk]
  rfl

/-- The first polled request whose target parses, with its poll and parsed URL. -/
def firstParsable (polls : Nat → Option CallbackRequest) : Option (Nat × Url) :=
  (List.range callbackPolls).findSome? fun i =>
    (polls i).bind fun req => (urlParse (callbackBase ++ req.url)).map fun url => (i, url)

/-- A listener that passes over requests whose target does not parse, and returns the context
of the first one that parses whether or not its page was written; it times out only when no
polled target parses. -/
def SkipsUnparsable (clock : Nat → SystemTime) (polls : Nat → Option CallbackRequest) : Prop :=
  match firstParsable urlParse polls with
  | some (i, url) => callbackListener urlParse clock polls = .ok (parseSyncData (clock i) url.queryPairs)
  | none => callbackListener urlParse clock polls = .error syncTimeout

end

/-- One request, at the first poll, whose response cannot be written. -/
def unansweredRequestPolls : Nat → Option CallbackRequest
  | 0 => some ⟨"/", false⟩
  | _ + 1 => none

/-- A probe whose target is not a URL, then a callback that is answered. -/
def probeThenCallbackPolls : Nat → Option CallbackRequest
  | 0 => some ⟨":99999", true⟩
  | 1 => some ⟨"/?account_id=a1", true⟩
  | _ + 2 => none

/-- A parser that rejects only the probe's target, whose port is out of range. -/
def probeRejectingParse (url : String) : Option Url :=
  if url = "http://example.com:99999" then none else some ⟨[("account_id", "a1")]⟩

/-- The first polled targets that parse, from poll `i` on, for polls that are all `none`
after the first `n`. -/
theorem firstParsable_eq (urlParse : String → Option Url) {polls : Nat → Option CallbackRequest}
    {n : Nat} (hn : n ≤ callbackPolls) (hnone : ∀ k, n ≤ k → polls k = none) :
    firstParsable urlParse polls = (List.range n).findSome? fun i =>
      (polls i).bind fun req => (urlParse (callbackBase ++ req.url)).map fun url => (i, url) := by
  obtain ⟨m, hm⟩ := Nat.exists_eq_add_of_le hn
  have hrest : (List.range' n m).findSome? (fun i => (polls i).bind
      fun req => (urlParse (callbackBase ++ req.url)).map fun url => (i, url)) = none := by
    simp only [List.findSome?_eq_none_iff, List.mem_range'_1]
    intro k hk
    rw [hnone k hk.1]
    rfl
  rw [firstParsable, hm, Nat.add_comm n m, List.range_eq_range', ← List.range'_append_1 0 n m,
    Nat.zero_add,
    List.findSome?_append, hrest, Option.or_none, ← List.range_eq_range']

/-- Whatever `Url::parse` makes of `http://example.com/`, the listener does not skip the
unanswered request: if the target parses, the failed write discards the context; if it does
not, the parse error ends the wait. -/
theorem not_skipsUnparsable_unanswered (urlParse : String → Option Url)
    (clock : Nat → SystemTime) : ¬SkipsUnparsable urlParse clock unansweredRequestPolls := by
  have hresult := @callbackListener_first urlParse clock unansweredRequestPolls 0 ⟨"/", false⟩
    (by decide) rfl fun _ h => absurd h (Nat.not_lt_zero _)
  rw [SkipsUnparsable, firstParsable_eq urlParse (n := 1) (by decide) fun k hk => by
    obtain ⟨k, rfl⟩ := Nat.exists_eq_add_of_le' hk; rfl, hresult]
  simp only [show List.range 1 = [0] from rfl, List.findSome?_cons, List.findSome?_nil, unansweredRequestPolls,
    Option.some_bind, handleCallback, callbackBase, String.reduceAppend]
  cases urlParse "http://example.com/" <;> simp [syncTimeout]

/-- **A probe ends the wait.** With a parser that rejects only a probe's target, a probe at
the first poll ends the listener with the parse error, though an answered callback follows;
and for every parser, an unanswered request is not passed over. -/
theorem callbackListener_probe :
    callbackListener probeRejectingParse (fun _ => 0) probeThenCallbackPolls =
        .error "failed to parse sync callback url" ∧
      ¬SkipsUnparsable probeRejectingParse (fun _ => 0) probeThenCallbackPolls ∧
      ∀ (urlParse : String → Option Url) (clock : Nat → SystemTime),
        ¬SkipsUnparsable urlParse clock unansweredRequestPolls := by
  have hresult : callbackListener probeRejectingParse (fun _ => 0) probeThenCallbackPolls =
      .error "failed to parse sync callback url" :=
    (@callbackListener_first probeRejectingParse (fun _ => 0) probeThenCallbackPolls 0
      ⟨":99999", true⟩ (by decide) rfl fun _ h => absurd h (Nat.not_lt_zero _)).trans rfl
  refine ⟨hresult, ?_, not_skipsUnparsable_unanswered⟩
  rw [SkipsUnparsable, firstParsable_eq probeRejectingParse (n := 2) (by decide) fun k hk => by
    obtain ⟨k, rfl⟩ := Nat.exists_eq_add_of_le' hk; rfl, hresult]
  simp [show List.range 2 = [0, 1] from rfl, probeThenCallbackPolls, probeRejectingParse,
    callbackBase]

end TaskContextSync
