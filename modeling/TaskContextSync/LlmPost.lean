import TaskContextSync.FormUrlencoded

/-!
# Authenticated requests to the LLM service

`FileSearchTool::perform_search` and `CloudEmbeddingProvider::embed` make the same call: they
acquire an LLM API token, build the URL of their endpoint, post a JSON body with a bearer
`Authorization` header, check the status, read the body and parse it. They differ only in the
messages they attach to failures (`PostMessages`); `llmPost` is the call, and
`FileSearchTool.performSearch` and `CloudEmbeddingProvider.embed` are its two instances.

A call sends its request exactly when it gets a token, a URL and a valid header
(`llmPost_fst`, `PostOutcome.request`, `PostOutcome.sends`).
-/

namespace TaskContextSync

/-- A response of the endpoint: its status, and what reading its body gives. -/
structure HttpResponse where
  status : UInt16
  body : Except String String

/-- `StatusCode::is_success`. -/
def HttpResponse.isSuccess (response : HttpResponse) : Bool :=
  200 ≤ response.status.toNat && response.status.toNat < 300

/-- What happens on one call: acquiring the token, building the endpoint's URL, and sending the
request. -/
structure PostOutcome where
  token : Except String String
  url : Except String String
  response : Except String HttpResponse

/-- A request sent: a `POST` of `body` as JSON. -/
structure PostRequest (β : Type) where
  url : String
  authorization : String
  body : β
deriving DecidableEq, Repr

/-- The check `HeaderValue` makes on each byte of a header value: a tab, or a byte from the
space up other than DEL. -/
def isValidHeaderValue (value : String) : Bool :=
  (utf8Bytes value).all fun b => (32 ≤ b.toNat && b.toNat != 127) || b.toNat == 9

/-- The error `Request::builder` returns for an invalid header value. -/
def invalidHeaderValue : String :=
  "failed to parse header value"

/-- The messages a call attaches to its failures; `buildRequest` and `readBody` are `none` where
the code passes the library's own error on. -/
structure PostMessages where
  buildUrl : String
  buildRequest : Option String
  send : String
  statusFailed : String
  readBody : Option String
  parse : String

/-- The request a call with these outcomes sends: the body, with the bearer token, to the URL,
once it got a token and a URL and the header is valid. -/
def PostOutcome.request {β : Type} (o : PostOutcome) (body : β) : Option (PostRequest β) :=
  match o.token, o.url with
  | .ok token, .ok url =>
    if isValidHeaderValue ("Bearer " ++ token) then some ⟨url, "Bearer " ++ token, body⟩ else none
  | _, _ => none

/-- A request sent carries the body it was given. -/
theorem PostOutcome.body_of_request {β : Type} {o : PostOutcome} {body : β}
    {request : PostRequest β} (h : o.request body = some request) : request.body = body := by
  unfold PostOutcome.request at h
  split at h
  · split at h
    · cases h; rfl
    · cases h
  · cases h

section

variable {α β : Type} (messages : PostMessages) (showStatus : UInt16 → String)
  (parse : String → Option α)

/-- The end of a call, once a response arrived: the status check, reading the body and parsing
it. -/
def readResponse (response : HttpResponse) : Except String α :=
  if !response.isSuccess then
    match response.body with
    | .error err => .error err
    | .ok body =>
      .error (messages.statusFailed ++ " with status " ++ showStatus response.status ++ ": " ++
        body)
  else
    match response.body with
    | .error err => .error (messages.readBody.getD err)
    | .ok body =>
      match parse body with
      | some value => .ok value
      | none => .error messages.parse

/-- One call posting `body`: the request it sent, if it got that far, and its result. -/
def llmPost (body : β) (o : PostOutcome) : Option (PostRequest β) × Except String α :=
  match o.token with
  | .error _ => (none, .error "Failed to acquire LLM API token")
  | .ok token =>
    match o.url with
    | .error _ => (none, .error messages.buildUrl)
    | .ok url =>
      let authorization := "Bearer " ++ token
      if isValidHeaderValue authorization then
        let request : PostRequest β := ⟨url, authorization, body⟩
        match o.response with
        | .error _ => (some request, .error messages.send)
        | .ok response => (some request, readResponse messages showStatus parse response)
      else (none, .error (messages.buildRequest.getD invalidHeaderValue))

/-- A call sends its request exactly when it gets a token, a URL and a valid header. -/
theorem llmPost_fst (body : β) (o : PostOutcome) :
    (llmPost messages showStatus parse body o).1 = o.request body := by
  unfold llmPost PostOutcome.request
  rcases o with ⟨token | token, url | url, response | response⟩ <;> try rfl
  all_goals dsimp only; split <;> rfl

end

/-! ## The cloud embedding provider -/

/-- `CloudEmbeddingRequest`. -/
structure CloudEmbeddingRequest where
  model : String
  input : List String
deriving DecidableEq, Repr

/-- `CloudEmbedding`, a vector of `f32`. -/
structure CloudEmbedding where
  embedding : List Float

/-- `CloudEmbeddingResponse`. -/
structure CloudEmbeddingResponse where
  data : List CloudEmbedding

/-- `CloudEmbeddingProvider`, with the one field `embed` reads besides its clients. -/
structure CloudEmbeddingProvider where
  model : String

/-- What `embed` takes from libraries: serde's parse of a response body, the display of an
HTTP status code, and `Embedding::new`. -/
structure EmbeddingLib (Embedding : Type) where
  parseResponse : String → Option CloudEmbeddingResponse
  showStatus : UInt16 → String
  newEmbedding : List Float → Embedding

/-- The messages `embed` attaches to its failures. -/
def embeddingMessages : PostMessages where
  buildUrl := "Failed to build embedding URL"
  buildRequest := some "Failed to build HTTP request"
  send := "Failed to send embedding request"
  statusFailed := "Embedding request failed"
  readBody := some "Failed to read response body"
  parse := "Failed to parse embedding response"

section

variable {Embedding : Type} (lib : EmbeddingLib Embedding)

/-- `embed` on one call's outcomes: the request it sent, if it got that far, and the
embeddings. -/
def CloudEmbeddingProvider.embed (self : CloudEmbeddingProvider) (texts : List String)
    (o : PostOutcome) :
    Option (PostRequest CloudEmbeddingRequest) × Except String (List Embedding) :=
  let call := llmPost embeddingMessages lib.showStatus lib.parseResponse ⟨self.model, texts⟩ o
  (call.1, call.2.map fun response => response.data.map fun data => lib.newEmbedding data.embedding)

end

end TaskContextSync
