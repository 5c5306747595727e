import RecordMapper.Exchange
import RecordMapper.Reply.Edge
import RecordMapper.Reply.Output
import RecordMapper.Statement
import RecordMapper.Text.Diagnostic

/-!
Clients: the server, the default options, and whether a log is kept. Every operation of a
client renders one query, sends it, and interprets the reply.
-/

namespace RecordMapper

open Connection (Options Headers)
open Reply (Mode Output Entry Edge RowReader)

/-- A client of a server. -/
structure Client where
  /-- The address of the server, without slashes at the end. -/
  endpoint : String
  options : Options := {}
  /-- Whether the client keeps a log. -/
  logging : Bool := false
deriving DecidableEq

namespace Client

/-- Text without the slashes at its end. -/
def withoutTrailingSlashes (text : String) : String :=
  String.ofList (text.toList.reverse.dropWhile (· = '/')).reverse

/-- The client of the server at an address. -/
def ofEndpoint (endpoint : String) : Client := { endpoint := withoutTrailingSlashes endpoint }

/-- The client with other default options. -/
def withOptions (client : Client) (options : Options) : Client := { client with options }

/-- The client with a log. -/
def withLog (client : Client) : Client := { client with logging := true }

/-- The address that takes statements. -/
def sqlEndpoint (client : Client) : String := client.endpoint ++ "/sql"

/-- How diagnostics show the client; no credentials appear. -/
def describe (client : Client) : String :=
  "Client \x7b endpoint: " ++ Text.Diagnostic.quote client.endpoint ++
    ", ns: " ++ Text.Diagnostic.option client.options.ns ++
    ", db: " ++ Text.Diagnostic.option client.options.db ++
    ", logger: " ++ (if client.logging then "true" else "false") ++ ", .. \x7d"

/-- An entry in the log, if the client keeps one. -/
def note (client : Client) (level : LogLevel) (payload : Json) : List LogEntry :=
  if client.logging then [⟨level, payload⟩] else []

/-- What the log tells of a query before it is sent. -/
def queryPayload (body : String) (bindings : Bindings) : Json :=
  .object [("method", .string "query"), ("query", .string body), ("variables", bindings.toJson)]

/-- What the log tells of a reply. -/
def replyPayload (payload : Json) : Json :=
  .object [("method", .string "parseResponse"), ("response", payload)]

/-- What the log tells of a reply that is an error. -/
def errorPayload (cause : Error) : Json :=
  .object [("code", .string cause.code), ("error", .string cause.message),
    ("method", .string "parseResponse")]

variable [Wording]

/-- What a mode makes of the outcome of a request, and what the log tells of it. -/
def settle (client : Client) (mode : Mode) : Outcome → Result Output × List LogEntry
  | .error message => (.error (.transport message), [])
  | .ok payload =>
    let received := client.note .debug (replyPayload payload)
    match Reply.interpret payload mode with
    | .ok output => (.ok output, received)
    | .error cause => (.error cause, received ++ client.note .error (errorPayload cause))

/-- Sends a query. The options count before those of the client. -/
def execute (client : Client) (query : Query) (mode : Mode) (options : Options) :
    Result (Exchange Output) := do
  let body ← query.render
  return {
    request := ⟨client.sqlEndpoint, body, Headers.ofOptions (client.options.merged options)⟩
    announcement := client.note .debug (queryPayload body query.bindings)
    settle := client.settle mode }

/-- Sends a query and reads the first row of the result. -/
def executeRow {α : Type} (client : Client) (reader : RowReader α) (query : Query)
    (options : Options) : Result (Exchange (Option α)) := do
  let exchange ← client.execute query .single options
  return exchange.mapResult fun output => Reply.decodeRow? reader output.toRow?

/-- Sends a query and reads all rows of the result. -/
def executeRows {α : Type} (client : Client) (reader : RowReader α) (query : Query)
    (options : Options) : Result (Exchange (List α)) := do
  let exchange ← client.execute query .array options
  return exchange.mapResult fun output => Reply.decodeRows reader output.toRows

/-- Sends a statement of the developer with its variables. -/
def query (client : Client) (statement : Fragment) (vars : Bindings) (mode : Mode)
    (options : Options) : Result (Exchange Output) :=
  client.execute ⟨statement.text, vars⟩ mode options

/-- Sends a statement and gives the whole batch. -/
def queryRaw (client : Client) (statement : Fragment) (vars : Bindings) (options : Options) :
    Result (Exchange (List Entry)) := do
  let exchange ← client.query statement vars .raw options
  return exchange.mapResult fun output => .ok output.toBatch

/-- Sends a statement and reads the first row of the last result. -/
def queryLast {α : Type} (client : Client) (reader : RowReader α) (statement : Fragment)
    (vars : Bindings) (options : Options) : Result (Exchange (Option α)) :=
  client.executeRow reader ⟨statement.text, vars⟩ options

/-- Sends a statement and reads all rows of the last result. -/
def queryLastArray {α : Type} (client : Client) (reader : RowReader α) (statement : Fragment)
    (vars : Bindings) (options : Options) : Result (Exchange (List α)) :=
  client.executeRows reader ⟨statement.text, vars⟩ options

/-- Relates one record to another. -/
def relate (client : Client) (source : Request.Endpoint) (edge : Fragment)
    (target : Request.Endpoint) (data : Option Value) (options : Options) :
    Result (Exchange (Option Edge)) := do
  let query ← Request.relate source edge target data
  client.executeRow Edge.reader query options

end Client

end RecordMapper
