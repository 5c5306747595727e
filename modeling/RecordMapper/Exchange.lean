import RecordMapper.Connection.Options
import RecordMapper.Error
import RecordMapper.Log

/-!
Exchanges: one request, and what its reply comes to. An operation either fails on its own,
and then nothing is sent, or it is an exchange, and then exactly one request is sent. A
transcript plays the server: it answers from a queue and keeps what was sent and logged.
-/

namespace RecordMapper

/-- A request as it is sent. -/
structure WireRequest where
  endpoint : String
  body : String
  headers : Connection.Headers
deriving DecidableEq

/-- What sending a request leads to: a payload, or a failure of the transport. -/
abbrev Outcome := Except String Json

/-- One request, the log entries that go before it, and what follows from its outcome. -/
structure Exchange (α : Type) where
  request : WireRequest
  announcement : List LogEntry
  settle : Outcome → Result α × List LogEntry

namespace Exchange

variable {α β : Type}

/-- Goes on with what an exchange gives, which may fail and may be logged. -/
def andThen (exchange : Exchange α) (next : α → Result β × List LogEntry) : Exchange β where
  request := exchange.request
  announcement := exchange.announcement
  settle := fun outcome =>
    match exchange.settle outcome with
    | (.error cause, log) => (.error cause, log)
    | (.ok value, log) => ((next value).1, log ++ (next value).2)

/-- Goes on with what an exchange gives, without a word in the log. -/
def mapResult (exchange : Exchange α) (f : α → Result β) : Exchange β :=
  exchange.andThen fun value => (f value, [])

end Exchange

/-- The replies still to be given, and all that has been sent and logged. -/
structure Transcript where
  replies : List Outcome := []
  requests : List WireRequest := []
  log : List LogEntry := []

namespace Transcript

/-- The next reply, which is an empty batch when none is left. -/
def nextReply (t : Transcript) : Outcome := t.replies.headD (.ok (.array []))

/-- Performs an operation. -/
def perform {α : Type} (t : Transcript) (operation : Result (Exchange α)) : Result α × Transcript :=
  match operation with
  | .error cause => (.error cause, t)
  | .ok exchange =>
    let (result, log) := exchange.settle t.nextReply
    (result, {
      replies := t.replies.tail
      requests := t.requests ++ [exchange.request]
      log := t.log ++ exchange.announcement ++ log })

end Transcript

end RecordMapper
