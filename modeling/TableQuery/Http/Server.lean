import TableQuery.Http.Message
import TableQuery.Http.Route
import TableQuery.Service.Service

/-!
# The server

`Server.answer` answers a request over HTTP, and says which rows are to be written into the request log. A request
passes through layers, each of which hands on what has come of it (`Progress`): the routes with the handlers of the
failures that the service knows, the log of requests, and the handler of whatever nothing provides for. Two of them
write rows: a handler writes down a failure before it answers, and the log writes down an answer for which no
failure has been written, unless the path is excluded from the log. An answer that cannot be encoded is a failure
of its own.
-/

set_option autoImplicit false

namespace TableQuery.Http

open Number (Double)

/-- A row of the request log. -/
structure LogEntry where
  method : String
  path : String
  facility : Option String
  entity : Option String
  status : Nat
  errorName : Option String := none
  client : Option String
  userAgent : Option String
  requestBody : Option String
  responseBody : String
  /-- The time that the answer took was measured. -/
  timed : Bool
  applicationId : String
  deriving Repr

/-- When a request is answered, and how many milliseconds that takes. -/
structure Timing where
  finished : Moment
  milliseconds : Double

/-- Why a request is not answered with what it asked for. -/
inductive Refusal where
  /-- The request itself is not as it should be. -/
  | badRequest (errors : List FieldError)
  /-- The body cannot be read, and it cannot be told where it goes wrong. -/
  | unreadable
  | failed (f : Failure)
  deriving Repr

namespace Refusal

/-- The name under which a refusal is logged, if it is logged as one. -/
def name? : Refusal → Option String
  | badRequest _ => some "RequestValidationError"
  | unreadable => none
  | failed f => some f.name

/-- Errors in an answer, with the given way to write a path. -/
def errorsJson (field : FieldError → String) (es : List FieldError) : Json :=
  .obj [("detail", .arr (es.map fun e => e.toJson (field e)))]

def answer : Refusal → HttpAnswer
  | badRequest es => .json 422 (errorsJson (·.fullField) es)
  | unreadable => .detail 400 "There was an error parsing the body"
  | failed (.invalid es) => .json 422 (errorsJson (·.field) es)
  | failed (.notFound detail) => .detail 404 detail
  | failed (.fatal _) => .detail 500 fatalMessage
  | failed (.config _) | failed (.fault _) => .detail 500 "Internal Server Error"

/-- What is logged as the body of the answer: a failure of the server leaves more in the log than it tells. -/
def loggedBody (p : Refusal) : Json :=
  match p with
  | failed (.fatal _) => .obj [("detail", .str fatalMessage), ("cause", .str ""), ("traceback", .str "")]
  | failed (.config e) => unexpected e.message
  | failed (.fault _) => unexpected ""
  | p => match p.answer.body with
    | .json j => j
    | _ => .null
where
  /-- What is logged about a failure that nothing provides for. -/
  unexpected (message : String) : Json :=
    .obj [("error", .str message), ("type", .str (p.name?.getD "")), ("traceback", .str "")]

end Refusal

namespace Server

/-- The beginnings of paths that are not logged. -/
def excludedPaths : List String := ["/api/admin/logs", "/api/docs", "/api/openapi.json", "/static"]

/-- Whether requests for a path are logged when they have been answered. -/
def isLogged (path : String) : Bool :=
  path.startsWith "/api" && !excludedPaths.any fun p => path.startsWith p

def readBody (r : HttpRequest) : Except Refusal (Checked Json) :=
  if r.body.isEmpty then .ok (.fail .missing)
  else if !r.hasJsonBody then .ok (.fail .notFields)
  else match r.bodyChars?.map fun cs => Json.parse (String.ofList cs) with
    | some (.ok j) => .ok (.ok j)
    | some (.error (.malformed position)) => .error (.badRequest [⟨["body", toString position], .notJson⟩])
    | some (.error _) | none => .error .unreadable

def formatErrors (format : String) : List FieldError :=
  if (ExportFormat.ofName? format).isSome then []
  else [⟨["query", "format"], .notOneOf [ExportFormat.csv.name, ExportFormat.xlsx.name]⟩]

/-- The request in the body; errors in other parts of the request come first, unless the body is no JSON at all. -/
def readRequest (others : List FieldError) (r : HttpRequest) : Except Refusal DataRequest :=
  match readBody r with
  | .error refusal => .error refusal
  | .ok body =>
    let read : Checked DataRequest := body.bind (DataRequest.read true)
    ((read.under ["body"]).after others).mapError .badRequest

def exportAnswer (e : Export) : HttpAnswer :=
  { status := 200,
    contentType := some (match e.format with
      | .csv => e.format.mediaType ++ "; charset=utf-8"
      | .xlsx => e.format.mediaType),
    disposition := some ("attachment; filename=" ++ e.fileName),
    body := match e.content with
      | .text s => .text s
      | .sheet cells => .sheet cells }

/-- The answer to a request for a route with a method that the route takes. -/
def serve (s : Service) (r : HttpRequest) : Route → Except Refusal HttpAnswer
  | .entity facility entity =>
    if r.method == "GET" then do
      return .json 200 (← (s.schema entity facility).mapError .failed)
    else do
      let d ← readRequest [] r
      return .json 200 (← (s.query entity facility (.ok d)).mapError .failed).toJson
  | .row facility entity id => do
    return .json 200 (.obj (← (s.row entity (some facility) id).mapError .failed))
  | .export facility entity => do
    let format := (r.parameter? "format").getD ExportFormat.csv.name
    let d ← readRequest (formatErrors format) r
    return exportAnswer (← (s.export entity (some facility) d.toFields format).mapError .failed)

/-- The answer to any request: what a route gives, a refusal of the method, or nothing but a redirection to the
path without a slash at its end. -/
def respond (s : Service) (r : HttpRequest) : Except Refusal HttpAnswer :=
  match Route.ofPath? r.path with
  | some route => if route.methods.contains r.method then serve s r route else .ok (.detail 405 "Method Not Allowed")
  | none =>
    if ((Route.withoutSlash? r.path).bind Route.ofPath?).isSome then
      .ok { status := 307, contentType := none, body := .empty }
    else .ok (.detail 404 "Not Found")

/-! ## Pages from elsewhere -/

/-- The methods that a page from elsewhere may use. -/
def sharedMethods : List String := ["DELETE", "GET", "HEAD", "OPTIONS", "PATCH", "POST", "PUT"]

/-- The answer to a browser that asks for a page from elsewhere whether it may use a method. -/
def preflight? (r : HttpRequest) : Option HttpAnswer :=
  match r.method == "OPTIONS", r.header? "origin", r.header? "access-control-request-method" with
  | true, some _, some method =>
    let (status, text) : Nat × String :=
      if sharedMethods.contains method then (200, "OK") else (400, "Disallowed CORS method")
    some { status, contentType := some "text/plain; charset=utf-8", body := .text text }
  | _, _, _ => none

/-! ## The request log -/

/-- What is logged as the body of an answer: JSON as it is, of all else only what it was and how much. -/
def loggedBody (a : HttpAnswer) : String :=
  let note (bytes : Nat) := "[" ++ a.contentType.getD "binary" ++ " content, " ++ toString bytes ++ " bytes]"
  match a.body with
  | .json j => j.write .compact
  | .text s => note s.utf8ByteSize
  | .empty | .sheet _ => note 0

def entry (s : Service) (r : HttpRequest) (status : Nat) (responseBody : String) : LogEntry :=
  let subject := Route.subject r.shownPath
  { method := r.method, path := r.shownPath, facility := subject.1, entity := subject.2, status, client := r.client,
    userAgent := r.header? "user-agent",
    requestBody := if isLogged r.shownPath then some r.body else none,
    responseBody, timed := true, applicationId := s.settings.applicationId }

def failureEntry (s : Service) (r : HttpRequest) (p : Refusal) : LogEntry :=
  { entry s r p.answer.status (p.loggedBody.write .indented) with errorName := p.name?, timed := false }

/-- What has been written down about a request. -/
structure Journal where
  entries : List LogEntry := []
  /-- A failure is among it. -/
  hasFailure : Bool := false

def Journal.addFailure (j : Journal) (e : LogEntry) : Journal :=
  ⟨j.entries ++ [e], true⟩

/-- An answer is written down, unless a failure has been. -/
def Journal.addAnswer (j : Journal) (e : LogEntry) : Journal :=
  if j.hasFailure then j else { j with entries := j.entries ++ [e] }

/-- What has come of a request so far: an answer or a failure that nothing has provided for, and what has been
written down. -/
structure Progress where
  outcome : Except Failure HttpAnswer
  journal : Journal := {}

/-- The answer, if it can be encoded. -/
def sent (a : HttpAnswer) : Except Failure HttpAnswer :=
  if a.body.isEncodable then .ok a else .error (.fault .unencodable)

/-- What the handlers of known failures make of a refusal. An unreadable body is answered without being written
down as a failure, and a failure of the server itself is left to others. -/
def provide (s : Service) (r : HttpRequest) : Refusal → Progress
  | .failed (.config e) => ⟨.error (.config e), {}⟩
  | .failed (.fault f) => ⟨.error (.fault f), {}⟩
  | .unreadable => ⟨sent Refusal.unreadable.answer, {}⟩
  | p => ⟨sent p.answer, Journal.addFailure {} (failureEntry s r p)⟩

/-- What the routes and the handlers of known failures make of a request. -/
def handled (s : Service) (r : HttpRequest) : Progress :=
  match respond s r with
  | .ok a => ⟨sent a, {}⟩
  | .error p => provide s r p

/-- Writes an answer down, if requests for the path are logged. -/
def logged (s : Service) (r : HttpRequest) (p : Progress) : Progress :=
  match p.outcome with
  | .ok a =>
    if isLogged r.shownPath then { p with journal := p.journal.addAnswer (entry s r a.status (loggedBody a)) } else p
  | .error _ => p

/-- The answer in the end, and all that has been written down: a failure that nothing has provided for is written
down and answered here. -/
def finished (s : Service) (r : HttpRequest) (p : Progress) : HttpAnswer × List LogEntry :=
  match p.outcome with
  | .ok a => (a, p.journal.entries)
  | .error f => ((Refusal.failed f).answer, (p.journal.addFailure (failureEntry s r (.failed f))).entries)

/-- The answer to a request and what is logged about it. -/
def answer (s : Service) (r : HttpRequest) : HttpAnswer × List LogEntry :=
  match preflight? r with
  | some a => (a, [])
  | none => finished s r (logged s r (handled s r))

def LogEntry.fields (t : Timing) (e : LogEntry) : Fields :=
  let orNull (s : Option String) : Json := (s.map Json.str).getD .null
  [("timestamp", .str (t.finished.toText "T")), ("method", .str e.method), ("path", .str e.path),
    ("facility_id", orNull e.facility), ("entity", orNull e.entity), ("status_code", .int e.status),
    ("client_ip", orNull e.client), ("request_body", orNull e.requestBody), ("response_body", .str e.responseBody),
    ("error_type", orNull e.errorName),
    ("processing_time", if e.timed then Json.num (.double t.milliseconds) else .null),
    ("user_agent", orNull e.userAgent), ("application_id", .str e.applicationId)]

/-- The store with an entry in the log, unless that cannot be stored. -/
def record (t : Timing) (store : Sql.Store) (e : LogEntry) : Sql.Store :=
  (store.insert .log (LogEntry.fields t e)).toOption.getD store

/-- The answer to a request, what is logged, and the service after that. -/
def handle (s : Service) (t : Timing) (r : HttpRequest) : HttpAnswer × List LogEntry × Service :=
  let (a, entries) := answer s r
  (a, entries, { s with store := entries.foldl (record t) s.store })

end Server

end TableQuery.Http
