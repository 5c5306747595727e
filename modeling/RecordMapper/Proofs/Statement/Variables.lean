import RecordMapper.Proofs.Bindings.History
import RecordMapper.Proofs.Statement.Endpoint
import RecordMapper.Proofs.Statement.Ownership
import RecordMapper.Proofs.Text.Reader

/-!
The variables of operations. What an operation binds is told by its request alone (`Binds`): data
of its own, the variables of the caller, or both, and then the data takes the place of a variable
`data` if there is one. A body declares its variables ahead of the statement, each name by one line
(`variables_bound`), so a statement finds the variables that it refers to, and a caller finds his
own as he gave them.
-/

namespace RecordMapper

open Identifier (isKey)
open Text.Quoted

namespace Bindings

/-! ## Declared names -/

/-- The name that a piece of a body declares, if the piece is a declaration. -/
def declaredName? (piece : List Char) : Option String :=
  (Text.after? "LET $" (piece.dropWhile (· = '\n'))).map fun rest =>
    String.ofList (Identifier.cut ' ' rest).1

/-- The names that a body declares, in the order of its pieces. -/
def declaredNames (body : String) : List String :=
  (pieces .outside body.toList).filterMap declaredName?

theorem declaredName?_newline (piece : List Char) :
    declaredName? ('\n' :: piece) = declaredName? piece := by
  rw [declaredName?, List.dropWhile_cons_of_pos (by decide)]
  rfl

theorem declaredName?_of_declares {entry : String × Value} {line : String}
    (named : isKey entry.1.toList) (declares : Declares entry line) :
    declaredName? line.toList = some entry.1 := by
  obtain ⟨literal, -, rfl⟩ := declares
  have blank : ' ' ∉ entry.1.toList := Identifier.not_mem_key named (by decide)
  have split : ("LET $" ++ entry.1 ++ " = " ++ literal).toList =
      "LET $".toList ++ (entry.1.toList ++ ' ' :: ("= ".toList ++ literal.toList)) := by
    simp
  have start : ((("LET $" ++ entry.1 ++ " = " ++ literal).toList).dropWhile (· = '\n')) =
      ("LET $" ++ entry.1 ++ " = " ++ literal).toList := by
    rw [split]
    rfl
  rw [declaredName?, start, split, Text.after?_append, Option.map_some,
    Identifier.cut_append blank, String.ofList_toList]

/-- A statement that ends a line declares its name ahead of the names that the rest declares. -/
theorem declaredNames_line {line : String} (contained : Contained line) (rest : String) :
    declaredNames (line ++ ";\n" ++ rest) =
      (declaredName? line.toList).toList ++ declaredNames rest := by
  have split : (line ++ ";\n" ++ rest).toList = line.toList ++ ';' :: '\n' :: rest.toList := by
    simp
  -- the new line opens the next piece, and is skipped there
  have opened : pieces .outside ('\n' :: rest.toList) =
      (pieces .outside rest.toList).modifyHead ('\n' :: ·) := by
    rw [pieces, if_neg (by decide)]
    rfl
  have skipped : (pieces .outside ('\n' :: rest.toList)).filterMap declaredName? =
      declaredNames rest := by
    rw [opened, declaredNames]
    cases pieces .outside rest.toList with
    | nil => rfl
    | cons piece others =>
      rw [List.modifyHead_cons, List.filterMap_cons, List.filterMap_cons, declaredName?_newline]
  rw [declaredNames, split, pieces_append_semicolon (of_decide_eq_true contained.balanced)
    contained.whole, List.filterMap_cons, skipped]
  cases declaredName? line.toList <;> rfl

theorem declaredNames_lines {lines : List String} (each : ∀ line ∈ lines, Contained line)
    (statement : String) :
    declaredNames (String.join (lines.map (· ++ ";\n")) ++ statement) =
      lines.filterMap (declaredName? ·.toList) ++ declaredNames statement := by
  induction lines with
  | nil => simp [String.join]
  | cons first rest ih =>
    obtain ⟨contained, others⟩ := List.forall_mem_cons.1 each
    rw [List.map_cons, String.join_cons, String.append_assoc, declaredNames_line contained,
      ih others, List.filterMap_cons]
    cases declaredName? first.toList <;> rfl

/-- A name that is bound is declared by one of the lines for the variables. -/
theorem declaredName?_lines {b : Bindings} {lines : List String}
    (fits : ∀ entry ∈ b.entries, isKey entry.1.toList)
    (declares : List.Forall₂ Declares b.entries lines) :
    lines.map (declaredName? ·.toList) = b.names.map some := by
  unfold names
  generalize b.entries = entries at fits declares
  induction declares with
  | nil => rfl
  | cons first _ ih =>
    obtain ⟨named, others⟩ := List.forall_mem_cons.1 fits
    rw [List.map_cons, List.map_cons, List.map_cons, declaredName?_of_declares named first,
      ih others]

/-! ## Binding a name -/

theorem entries_insert_of_new {name : String} {value : Value} {b : Bindings}
    (new : name ∉ b.names) : (b.insert name value).entries = b.entries ++ [(name, value)] :=
  (set_eq_place name value b.entries).trans (Keyed.place_of_not_mem new)

theorem mem_names_insert (name : String) (value : Value) (b : Bindings) :
    name ∈ (b.insert name value).names := by
  rw [names_insert]
  split
  · assumption
  · exact List.mem_append_right _ (List.mem_singleton_self name)

theorem entries_insert_of_split {name : String} {value old : Value} {b : Bindings}
    {before after : List (String × Value)} (split : b.entries = before ++ (name, old) :: after) :
    (b.insert name value).entries = before ++ (name, value) :: after := by
  have distinct := b.names_nodup
  rw [split, List.map_append, List.map_cons] at distinct
  have new : name ∉ before.map Prod.fst := fun mem =>
    (List.nodup_append.1 distinct).2.2 name mem name List.mem_cons_self rfl
  have entries : (b.insert name value).entries = Keyed.place Prod.fst (name, value) b.entries :=
    set_eq_place name value b.entries
  rw [entries, split]
  exact Keyed.place_append_cons rfl new

end Bindings

namespace Request

/-! ## What operations bind -/

namespace Operation

/-- What an operation binds, in order. -/
inductive Binds : Operation → List (String × Value) → Prop
  | create {request : Create} : Binds (.create request) [("data", request.data)]
  | findMany {request : FindMany} : Binds (.findMany request) request.vars.entries
  | findById {id : String} {request : FindById} : Binds (.findById id request) []
  | update {request : Update} : "data" ∉ request.vars.names →
    Binds (.update request) (request.vars.entries ++ [("data", request.data)])
  | updateInPlace {request : Update} {before after : List (String × Value)} {old : Value} :
    request.vars.entries = before ++ ("data", old) :: after →
    Binds (.update request) (before ++ ("data", request.data) :: after)
  | assign {request : Assign} : Binds (.assign request) []
  | delete {request : Delete} : Binds (.delete request) request.vars.entries
  | relate {source target : Endpoint} {edge : Fragment} {data : Option Value} {s t : RecordId} :
    source.Spells s.text → target.Spells t.text → Binds (.relate source edge target data)
      [("fromId", .record s), ("toId", .record t), ("data", data.getD .emptyObject)]

/-- The variables that the statement of an operation refers to of itself. -/
def referred : Operation → List String
  | .create _ | .update _ => ["data"]
  | .relate _ _ _ _ => ["fromId", "toId", "data"]
  | .findMany _ | .findById _ _ | .assign _ | .delete _ => []

/-- The word with which the statement of an operation starts. -/
def keyword : Operation → String
  | .create _ => "CREATE "
  | .findMany _ | .findById _ _ => "SELECT "
  | .update _ | .assign _ => "UPDATE "
  | .delete _ => "DELETE "
  | .relate _ _ _ _ => "RELATE "

variable {schema : ModelSchema} {operation : Operation} {query : Query}

/-- The data of an update is bound as the name `data` is bound among other variables. -/
theorem Binds.entries_update {request : Update} {entries : List (String × Value)}
    (binds : Binds (.update request) entries) :
    entries = (request.vars.insert "data" request.data).entries := by
  cases binds with
  | update new => exact (Bindings.entries_insert_of_new new).symm
  | updateInPlace split => exact (Bindings.entries_insert_of_split split).symm

theorem binds_update (request : Update) :
    Binds (.update request) (request.vars.insert "data" request.data).entries := by
  by_cases bound : "data" ∈ request.vars.names
  · obtain ⟨⟨name, old⟩, mem, same⟩ := List.mem_map.1 bound
    obtain ⟨before, after, split⟩ := List.append_of_mem mem
    obtain rfl : name = "data" := same
    rw [Bindings.entries_insert_of_split split]
    exact .updateInPlace split
  · rw [Bindings.entries_insert_of_new bound]
    exact .update bound

theorem Binds.unique {entries others : List (String × Value)} (binds : operation.Binds entries)
    (also : operation.Binds others) : entries = others := by
  cases operation with
  | update request => exact binds.entries_update.trans also.entries_update.symm
  | relate source edge target data =>
    cases binds with
    | relate source target =>
      cases also with
      | relate otherSource otherTarget =>
        rw [Endpoint.eq_of_spells source otherSource, Endpoint.eq_of_spells target otherTarget]
  | _ =>
    cases binds
    cases also
    rfl

end Operation

/-! ## Queries of operations -/

variable {schema : ModelSchema} {query : Query}

theorem FindMany.query_selects {request : FindMany} (compiled : request.query schema = .ok query) :
    query.bindings = request.vars ∧ ∃ rest, query.statement = "SELECT " ++ rest := by
  obtain ⟨fields, -, compiled⟩ := exists_of_bind_eq_ok compiled
  obtain ⟨condition, -, compiled⟩ := exists_of_bind_eq_ok compiled
  obtain ⟨order, -, compiled⟩ := exists_of_bind_eq_ok compiled
  obtain ⟨fetch, -, compiled⟩ := exists_of_bind_eq_ok compiled
  cases compiled
  refine ⟨rfl, ?_⟩
  simp only [String.append_assoc]
  exact ⟨_, rfl⟩

theorem FindById.query_selects {id : String} {request : FindById}
    (compiled : request.query schema id = .ok query) :
    query.bindings = .empty ∧ ∃ rest, query.statement = "SELECT " ++ rest := by
  obtain ⟨text, -, compiled⟩ := exists_of_bind_eq_ok compiled
  obtain ⟨record, -, compiled⟩ := exists_of_bind_eq_ok compiled
  exact FindMany.query_selects compiled

theorem Update.query_refers {request : Update} (compiled : request.query schema = .ok query) :
    query.bindings = request.vars.insert "data" request.data ∧
    (∃ rest, query.statement = "UPDATE " ++ rest) ∧
    ∃ before after, query.statement = before ++ "$" ++ "data" ++ after := by
  obtain ⟨condition, -, compiled⟩ := exists_of_bind_eq_ok compiled
  cases compiled
  refine ⟨rfl, ?_, "UPDATE " ++ schema.table ++ " " ++
    (if request.replace then "CONTENT" else "MERGE") ++ " ", condition ++ " RETURN AFTER", ?_⟩
  · simp only [String.append_assoc]
    exact ⟨_, rfl⟩
  · exact String.toList_injective (by simp)

theorem Assign.query_sets {request : Assign} (compiled : request.query schema = .ok query) :
    query.bindings = .empty ∧ ∃ rest, query.statement = "UPDATE " ++ rest := by
  unfold Assign.query at compiled
  split at compiled
  · obtain ⟨assignments, -, compiled⟩ := exists_of_bind_eq_ok compiled
    obtain ⟨condition, -, compiled⟩ := exists_of_bind_eq_ok compiled
    cases compiled
    refine ⟨rfl, ?_⟩
    simp only [String.append_assoc]
    exact ⟨_, rfl⟩
  · cases compiled

theorem Delete.query_deletes {request : Delete} (compiled : request.query schema = .ok query) :
    query.bindings = request.vars ∧ ∃ rest, query.statement = "DELETE " ++ rest := by
  obtain ⟨condition, -, compiled⟩ := exists_of_bind_eq_ok compiled
  cases compiled
  refine ⟨rfl, ?_⟩
  simp only [String.append_assoc]
  exact ⟨_, rfl⟩

namespace Operation

variable {operation : Operation}

theorem binds_query (compiled : operation.query schema = .ok query) :
    operation.Binds query.bindings.entries := by
  cases operation with
  | create request =>
    obtain ⟨target, -, rfl⟩ := Create.query_eq_ok_iff.1 compiled
    exact .create
  | findMany request =>
    rw [(FindMany.query_selects compiled).1]
    exact .findMany
  | findById id request =>
    rw [(FindById.query_selects compiled).1]
    exact .findById
  | update request =>
    rw [(Update.query_refers compiled).1]
    exact binds_update request
  | assign request =>
    rw [(Assign.query_sets compiled).1]
    exact .assign
  | delete request =>
    rw [(Delete.query_deletes compiled).1]
    exact .delete
  | relate source edge target data =>
    obtain ⟨s, t, first, second, rfl⟩ := relate_eq_ok_iff.1 compiled
    exact .relate first second

theorem exists_statement_eq (compiled : operation.query schema = .ok query) :
    ∃ rest, query.statement = operation.keyword ++ rest := by
  cases operation with
  | create request =>
    obtain ⟨target, -, rfl⟩ := Create.query_eq_ok_iff.1 compiled
    exact ⟨target ++ " CONTENT $data", String.append_assoc ..⟩
  | findMany request => exact (FindMany.query_selects compiled).2
  | findById id request => exact (FindById.query_selects compiled).2
  | update request => exact (Update.query_refers compiled).2.1
  | assign request => exact (Assign.query_sets compiled).2
  | delete request => exact (Delete.query_deletes compiled).2
  | relate source edge target data =>
    obtain ⟨s, t, -, -, rfl⟩ := relate_eq_ok_iff.1 compiled
    exact ⟨"$fromId -> " ++ edge.text ++ " -> $toId CONTENT $data",
      String.toList_injective (by simp [keyword])⟩

/-- What a statement refers to of itself is written in it and bound. -/
theorem bound_of_referred (compiled : operation.query schema = .ok query) {name : String}
    (refers : name ∈ operation.referred) :
    name ∈ query.bindings.names ∧
      ∃ before after, query.statement = before ++ "$" ++ name ++ after := by
  cases operation with
  | create request =>
    obtain ⟨target, -, rfl⟩ := Create.query_eq_ok_iff.1 compiled
    obtain rfl : name = "data" := List.mem_singleton.1 refers
    exact ⟨List.mem_singleton_self _, "CREATE " ++ target ++ " CONTENT ", "",
      String.toList_injective (by simp)⟩
  | update request =>
    obtain ⟨bindings, -, written⟩ := Update.query_refers compiled
    obtain rfl : name = "data" := List.mem_singleton.1 refers
    rw [bindings]
    exact ⟨Bindings.mem_names_insert _ _ _, written⟩
  | relate source edge target data =>
    obtain ⟨s, t, -, -, rfl⟩ := relate_eq_ok_iff.1 compiled
    refine ⟨refers, ?_⟩
    rcases List.mem_cons.1 refers with rfl | later
    · exact ⟨"RELATE ", " -> " ++ edge.text ++ " -> $toId CONTENT $data",
        String.toList_injective (by simp)⟩
    rcases List.mem_cons.1 later with rfl | last
    · exact ⟨"RELATE $fromId -> " ++ edge.text ++ " -> ", " CONTENT $data",
        String.toList_injective (by simp)⟩
    obtain rfl : name = "data" := List.mem_singleton.1 last
    exact ⟨"RELATE $fromId -> " ++ edge.text ++ " -> $toId CONTENT ", "",
      String.toList_injective (by simp)⟩
  | _ => exact absurd refers List.not_mem_nil

/-- A statement starts with its keyword, so it declares nothing. -/
theorem declaredNames_statement (compiled : operation.query schema = .ok query)
    (contained : Contained query.statement) : Bindings.declaredNames query.statement = [] := by
  have whole := pieces_of_whole (of_decide_eq_true contained.balanced) contained.whole
  obtain ⟨rest, start⟩ := exists_statement_eq compiled
  have other : Bindings.declaredName? (operation.keyword ++ rest).toList = none := by
    cases operation <;>
      simp [keyword, Bindings.declaredName?, Text.after?, List.dropPrefix?]
  rw [Bindings.declaredNames, whole, start, List.filterMap_cons, other, List.filterMap_nil]

/-- Of the texts for the variables, each of which declares one name, one declares a bound name. -/
theorem countP_lines {names : List String} (distinct : names.Nodup) {lines : List String}
    (declared : lines.map (Bindings.declaredName? ·.toList) = names.map some) {name : String}
    (bound : name ∈ names) :
    lines.countP (fun line => Bindings.declaredName? line.toList = some name) = 1 := by
  have once : (names.map some).count (some name) = 1 := by
    rw [List.count_map_of_injective _ _ (Option.some_injective _)]
    exact List.count_eq_one_of_mem distinct bound
  rw [← declared, List.count, List.countP_map] at once
  refine (List.countP_congr fun line _ => ?_).trans once
  simp

/-- What an operation binds is told by its request, and its statement finds what it refers to. In
its body the lines that declare the variables come first, one for each name with the value that
the name is bound to, and no other statement of the body declares a name, unless the developer
writes it into a text of his own. -/
theorem variables_bound (compiled : operation.query schema = .ok query) :
    (∀ entries, operation.Binds entries ↔ query.bindings.entries = entries) ∧
    (∀ name ∈ operation.referred, name ∈ query.bindings.names ∧
      ∃ before after, query.statement = before ++ "$" ++ name ++ after) ∧
    ∀ body, query.render = .ok body → ∃ lines,
      List.Forall₂ Bindings.Declares query.bindings.entries lines ∧
      body = String.join (lines.map (· ++ ";\n")) ++ query.statement ∧
      (∀ name ∈ query.bindings.names,
        lines.countP (fun line => Bindings.declaredName? line.toList = some name) = 1) ∧
      Bindings.declaredNames body =
        query.bindings.names ++ Bindings.declaredNames query.statement ∧
      ((∀ text ∈ operation.trusted schema, Contained text) →
        Bindings.declaredNames query.statement = []) := by
  have binds := binds_query compiled
  refine ⟨fun entries => ⟨binds.unique, fun same => same ▸ binds⟩,
    fun name => bound_of_referred compiled, fun body rendered => ?_⟩
  obtain ⟨preamble, written, rendered⟩ := exists_of_bind_eq_ok rendered
  cases rendered
  obtain ⟨lines, declares, contained, joined⟩ := Bindings.preamble_eq_ok written
  have named : ∀ entry ∈ query.bindings.entries, isKey entry.1.toList := fun entry mem =>
    (Bindings.exists_preamble_iff.1 ⟨preamble, written⟩ entry mem).1
  have declared := Bindings.declaredName?_lines named declares
  have found : lines.filterMap (Bindings.declaredName? ·.toList) = query.bindings.names :=
    calc lines.filterMap (Bindings.declaredName? ·.toList)
      _ = (lines.map (Bindings.declaredName? ·.toList)).filterMap id := by
        rw [List.filterMap_map]
        rfl
      _ = query.bindings.names := by
        rw [declared, List.filterMap_map]
        exact List.filterMap_some
  refine ⟨lines, declares, congrArg (· ++ query.statement) joined, fun name bound => ?_, ?_,
    fun trusted => declaredNames_statement compiled (contained_statement trusted compiled)⟩
  · exact countP_lines query.bindings.names_nodup declared bound
  · rw [joined, Bindings.declaredNames_lines contained, found]

/-- The data of an update takes the place of a variable of the caller between two others. -/
theorem variables_bound_update :
    let request : Update :=
      { data := .bool true
        vars := Bindings.ofList [("a", .null), ("data", .string "old"), ("b", .string ";")] }
    let query : Query := ⟨"UPDATE users MERGE $data RETURN AFTER",
      Bindings.ofList [("a", .null), ("data", .bool true), ("b", .string ";")]⟩
    Binds (.update request) [("a", .null), ("data", .bool true), ("b", .string ";")] ∧
    ∃ lines, List.Forall₂ Bindings.Declares query.bindings.entries lines ∧
      "LET $a = null;\nLET $data = true;\nLET $b = \";\";\nUPDATE users MERGE $data RETURN AFTER" =
        String.join (lines.map (· ++ ";\n")) ++ query.statement ∧
      ∀ name ∈ query.bindings.names,
        lines.countP (fun line => Bindings.declaredName? line.toList = some name) = 1 := by
  intro request query
  have compiled : (Operation.update request).query (.ofTable "users") = .ok query := by rfl
  have rendered : query.render = .ok ("LET $a = null;\nLET $data = true;\nLET $b = \";\";\n" ++
      "UPDATE users MERGE $data RETURN AFTER") := by rfl
  obtain ⟨bound, -, bodies⟩ := variables_bound compiled
  obtain ⟨lines, declares, body, once, -⟩ := bodies _ rendered
  exact ⟨(bound _).2 rfl, lines, declares, body, once⟩

end Operation

end Request

end RecordMapper
