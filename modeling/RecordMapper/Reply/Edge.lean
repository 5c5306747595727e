import RecordMapper.Reply.Output

/-!
Edges: the rows of relations. A row has its own identifier, those of its two ends, and any
other members, which are its data.
-/

namespace RecordMapper.Reply

/-- A relation between two records, with its data. -/
structure Edge where
  id : String
  source : String
  target : String
  data : List (String × Json)

namespace Edge

/-- The members that are not data. -/
def ownNames : List String := ["id", "in", "out"]

/-- The edge that a row denotes; only objects are edges. -/
def ofJson? : Json → Option Edge
  | .object members => do
    let id ← (Members.get? "id" members).bind Json.text?
    let source ← (Members.get? "in" members).bind Json.text?
    let target ← (Members.get? "out" members).bind Json.text?
    return ⟨id, source, target, Members.without ownNames members⟩
  | _ => none

/-- How rows are read as edges. -/
def reader [Wording] : RowReader Edge := ⟨ofJson?, Wording.row "Edge"⟩

/-- The members that are not data, as they are written. -/
def own (edge : Edge) : List (String × Json) :=
  [("id", .string edge.id), ("in", .string edge.source), ("out", .string edge.target)]

/-- The row of an edge. The data are written last, and so count before its own members. -/
def toJson (edge : Edge) : Json := .object (Members.overlay edge.data edge.own)

end Edge

end RecordMapper.Reply
