import RecordMapper.Bindings

/-!
Queries: a statement and the variables it refers to. The body of a request declares the
variables and then gives the statement.
-/

namespace RecordMapper

/-- A statement with its variables. -/
structure Query where
  statement : String
  bindings : Bindings := .empty

/-- The request body of a query. -/
def Query.render (query : Query) : Result String := do
  let preamble ← query.bindings.preamble
  return preamble ++ query.statement

end RecordMapper
