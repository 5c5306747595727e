import RecordMapper.Binary64.Basic
import RecordMapper.Members
import RecordMapper.RecordId
import RecordMapper.Timestamp.Basic

/-!
Values of the query language as callers hand them over. None of their text is trusted: it
reaches a statement only as a literal. Whole numbers and doubles are kept apart, and a
record identifier is not a string.
-/

namespace RecordMapper

/-- A value of the query language. -/
inductive Value where
  | null
  | bool (b : Bool)
  | int (n : Int) (range : -9223372036854775808 ≤ n ∧ n < 9223372036854775808)
  | float (x : Binary64)
  | string (s : String)
  | timestamp (t : Timestamp)
  | array (items : List Value)
  | object (members : List (String × Value))
  | record (id : RecordId)

namespace Value

instance : Inhabited Value := ⟨.null⟩

/-- A whole number that fits 64 bits with sign. -/
def ofInt? (n : Int) : Option Value :=
  if range : -9223372036854775808 ≤ n ∧ n < 9223372036854775808 then some (.int n range)
  else none

/-- An object of the given members; of two with one name the later counts. -/
def ofMembers (members : List (String × Value)) : Value :=
  .object (Members.ofList members)

/-- The object without members. -/
def emptyObject : Value := .object []

/-- The member of an object. -/
def get? (name : String) : Value → Option Value
  | .object members => Members.get? name members
  | _ => none

/-- The text of a string. -/
def text? : Value → Option String
  | .string s => some s
  | _ => none

/-- The value is null. -/
def isNull : Value → Bool
  | .null => true
  | _ => false

mutual

/-- Every object in the value has its members in strictly ascending order of names. -/
def Ordered : Value → Prop
  | .array items => AllOrdered items
  | .object members => Members.Ordered members ∧ MembersOrdered members
  | _ => True

/-- Every value of the list is ordered. -/
def AllOrdered : List Value → Prop
  | [] => True
  | item :: rest => Ordered item ∧ AllOrdered rest

/-- Every value of a member is ordered. -/
def MembersOrdered : List (String × Value) → Prop
  | [] => True
  | (_, value) :: rest => Ordered value ∧ MembersOrdered rest

end

end Value

end RecordMapper
