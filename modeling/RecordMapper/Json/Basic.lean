import RecordMapper.Binary64.Basic
import RecordMapper.Members

/-!
JSON values. A number is either a whole number of at most 64 bits, with or without sign, or
a finite double, and the two are never identified; the members of an object are kept in the
order of their names.
-/

namespace RecordMapper

/-- A JSON number: a whole number of 64 bits, or a finite double. -/
inductive Json.Number where
  | whole (n : Int) (range : -9223372036854775808 ≤ n ∧ n < 18446744073709551616)
  | double (x : Binary64.Finite)
deriving DecidableEq

/-- A JSON value. -/
inductive Json where
  | null
  | bool (b : Bool)
  | number (n : Json.Number)
  | string (s : String)
  | array (items : List Json)
  | object (members : List (String × Json))

namespace Json

instance : Inhabited Json := ⟨.null⟩

/-- A whole number that fits 64 bits. -/
def Number.ofInt? (n : Int) : Option Number :=
  if range : -9223372036854775808 ≤ n ∧ n < 18446744073709551616 then some (.whole n range)
  else none

/-- An object of the given members; of two with one name the later counts. -/
def ofMembers (members : List (String × Json)) : Json :=
  .object (Members.ofList members)

/-- Text, or null where there is none. -/
def ofText? : Option String → Json
  | none => .null
  | some s => .string s

/-- The member of an object. -/
def get? (name : String) : Json → Option Json
  | .object members => Members.get? name members
  | _ => none

/-- The text of a string. -/
def text? : Json → Option String
  | .string s => some s
  | _ => none

mutual

/-- Every object in the value has its members in strictly ascending order of names. -/
def Ordered : Json → Prop
  | .array items => AllOrdered items
  | .object members => Members.Ordered members ∧ MembersOrdered members
  | _ => True

/-- Every value of the list is ordered. -/
def AllOrdered : List Json → Prop
  | [] => True
  | item :: rest => Ordered item ∧ AllOrdered rest

/-- Every value of a member is ordered. -/
def MembersOrdered : List (String × Json) → Prop
  | [] => True
  | (_, value) :: rest => Ordered value ∧ MembersOrdered rest

end

end Json

end RecordMapper
