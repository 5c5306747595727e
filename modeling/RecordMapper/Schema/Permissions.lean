import RecordMapper.RecordId

/-!
Permissions of tables and fields, and the clause that states them. Every action is open
unless a rule says otherwise.
-/

namespace RecordMapper.Schema

/-- Who may perform one action. -/
inductive Rule where
  | full
  | none
  | condition (text : Fragment)
deriving DecidableEq

/-- Rules for the four actions; an action without a rule is open. -/
structure ActionRules where
  select : Option Rule := none
  create : Option Rule := none
  update : Option Rule := none
  delete : Option Rule := none
deriving DecidableEq

/-- Permissions as a whole, or action by action. -/
inductive Permissions where
  | full
  | none
  | perAction (rules : ActionRules)
deriving DecidableEq

/-- The words of a rule. -/
def Rule.clause : Option Rule → String
  | .none => "FULL"
  | .some .full => "FULL"
  | .some .none => "NONE"
  | .some (.condition text) => "WHERE " ++ text.text

/-- The part of a clause that is about one action. -/
def Rule.forAction (action : String) (rule : Option Rule) : String :=
  "FOR " ++ action ++ " " ++ Rule.clause rule

/-- The clause that states permissions. -/
def Permissions.clause : Permissions → String
  | .full => "PERMISSIONS FULL"
  | .none => "PERMISSIONS NONE"
  | .perAction rules =>
    "PERMISSIONS " ++ String.intercalate " " [
      Rule.forAction "select" rules.select, Rule.forAction "create" rules.create,
      Rule.forAction "update" rules.update, Rule.forAction "delete" rules.delete]

end RecordMapper.Schema
