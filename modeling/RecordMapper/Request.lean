import RecordMapper.Bindings
import RecordMapper.Connection.Options

/-!
Requests: what callers ask of a table. Lists keep the order of the caller, which shows in
the statement.
-/

namespace RecordMapper.Request

open Connection (Options)

/-- Whether and how a field is selected. -/
inductive Selection where
  /-- The field itself, or the expression declared under its name. -/
  | keep
  /-- Not at all. -/
  | drop
  /-- An expression under the name of the field. -/
  | expression (text : Fragment)
deriving DecidableEq

/-- The direction of an order. -/
inductive Direction where
  | ascending
  | descending
deriving DecidableEq

/-- The keyword of a direction. -/
def Direction.keyword : Direction → String
  | .ascending => "ASC"
  | .descending => "DESC"

/-- One is ascending, every other number descending. -/
def Direction.ofInt (n : Int) : Direction := if n = 1 then .ascending else .descending

/-- Which rows are meant: those in which every field has its value and the condition holds. -/
structure Filter where
  matching : List (String × Value) := []
  condition : Option Fragment := none

/-- The filter lets all rows pass. -/
def Filter.isEmpty (filter : Filter) : Bool :=
  filter.matching.isEmpty && filter.condition.isNone

/-- A record to make; a member `id` of the data names it. -/
structure Create where
  data : Value
  options : Options := {}

/-- Rows to find. -/
structure FindMany where
  select : Option (List (String × Selection)) := none
  filter : Filter := {}
  orderBy : List (String × Direction) := []
  limit : Option Nat := none
  start : Option Nat := none
  /-- Fields whose records are fetched along, where marked. -/
  fetch : List (String × Bool) := []
  vars : Bindings := .empty
  options : Options := {}

/-- One record to find. -/
structure FindById where
  select : Option (List (String × Selection)) := none
  fetch : List (String × Bool) := []
  options : Options := {}

/-- Rows to change. -/
structure Update where
  filter : Filter := {}
  data : Value
  /-- Whether the data takes the place of a record or is merged into it. -/
  replace : Bool := false
  vars : Bindings := .empty
  options : Options := {}

/-- Fields to set. -/
structure Assign where
  filter : Filter := {}
  assignments : Value
  options : Options := {}

/-- Rows to delete. -/
structure Delete where
  filter : Filter := {}
  vars : Bindings := .empty
  options : Options := {}

/-- An end of a relation: the text of an identifier, an identifier, or a record with one. -/
inductive Endpoint where
  | text (id : String)
  | pointer (id : RecordId)
  | record (value : Value)

/-- A string counts as the text of an identifier. -/
def Endpoint.ofString (id : String) : Endpoint := .text id

/-- A string is the text of an identifier, and whatever is neither string nor identifier
counts as a record. -/
def Endpoint.ofValue : Value → Endpoint
  | .string id => .text id
  | .record id => .pointer id
  | value => .record value

end RecordMapper.Request
