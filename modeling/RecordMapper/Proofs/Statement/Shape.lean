import RecordMapper.Proofs.Statement.Operation

/-!
Shapes of statements. The query of an operation and that of its masked form have statements
of one shape and variables of one shape, or both fail with one error
(`Request.Operation.query_masked`). All that is asked of the trusted texts is that each has
its own shape, which is to say that it closes the literals it opens and shows only allowed
characters outside them. Every kind of request is walked through once, here.
-/

namespace RecordMapper

open Text.Quoted (SameShape)

/-- Two variables of one name, whose literals have one shape or fail alike. -/
structure Bindings.SameEntry (allowed : Char → Prop) (entry other : String × Value) : Prop where
  name_eq : entry.1 = other.1
  literals : Agree (SameShape allowed) entry.2.literal other.2.literal

/-- The variables correspond in order. -/
def Bindings.SameShape (allowed : Char → Prop) (b c : Bindings) : Prop :=
  List.Forall₂ (SameEntry allowed) b.entries c.entries

/-- Statements and variables have one shape. -/
structure Query.SameShape (allowed : Char → Prop) (q r : Query) : Prop where
  statement : Text.Quoted.SameShape allowed q.statement r.statement
  bindings : Bindings.SameShape allowed q.bindings r.bindings

variable {allowed : Char → Prop}

/-! ## Variables -/

namespace Bindings

theorem set_sameShape {name : String} {value other : Value}
    (literals : Agree (Text.Quoted.SameShape allowed) value.literal other.literal)
    {entries others : List (String × Value)}
    (related : List.Forall₂ (SameEntry allowed) entries others) :
    List.Forall₂ (SameEntry allowed) (set name value entries) (set name other others) := by
  induction related with
  | nil => exact .cons ⟨rfl, literals⟩ .nil
  | @cons first second entries others same rest ih =>
    rcases first with ⟨present, old⟩
    rcases second with ⟨present', old'⟩
    obtain rfl : present = present' := same.name_eq
    by_cases here : present = name
    · simp only [set, here, if_true]
      exact .cons ⟨rfl, literals⟩ rest
    · simp only [set, here, if_false]
      exact .cons same ih

theorem insert_sameShape {name : String} {value other : Value}
    (literals : Agree (Text.Quoted.SameShape allowed) value.literal other.literal)
    {b c : Bindings} (related : b.SameShape allowed c) :
    (b.insert name value).SameShape allowed (c.insert name other) :=
  set_sameShape literals related

theorem ofList_sameShape {entries others : List (String × Value)}
    (related : List.Forall₂ (SameEntry allowed) entries others) :
    (ofList entries).SameShape allowed (ofList others) := by
  suffices grow : ∀ b c : Bindings, b.SameShape allowed c →
      (entries.foldl (fun b entry => b.insert entry.1 entry.2) b).SameShape allowed
        (others.foldl (fun b entry => b.insert entry.1 entry.2) c) from
    grow empty empty .nil
  induction related with
  | nil => exact fun _ _ same => same
  | @cons first second entries others named rest ih =>
    intro b c same
    have inserted : (b.insert first.1 first.2).SameShape allowed (c.insert first.1 second.2) :=
      insert_sameShape named.literals same
    rw [List.foldl_cons, List.foldl_cons, ← named.name_eq]
    exact ih _ _ inserted

end Bindings

/-! ## Masked data -/

/-- Masking below the top member `id` keeps the shape of a literal. -/
theorem Value.literal_maskedBelowId (bare : ∀ c, isBareChar c → allowed c) (value : Value) :
    Agree (SameShape allowed) value.literal value.maskedBelowId.literal := by
  cases value with
  | object members =>
    have inside : Agree (List.Forall₂ (SameShape allowed)) (memberLiterals members)
        (memberLiterals (members.map fun entry =>
          if entry.1 = "id" then entry else (entry.1, entry.2.masked))) := by
      induction members with
      | nil => exact .nil
      | cons entry rest ih =>
        rcases entry with ⟨name, value⟩
        have colon : SameShape allowed ":" ":" := sameShape_word bare rfl
        have named : SameShape allowed (Text.quoted name) (Text.quoted name) := .quoted name name
        by_cases id : name = "id"
        · simp only [List.map_cons, id, if_true, memberLiterals]
          refine (literal_self bare value).bind fun _ _ first => ih.bind fun _ _ others => ?_
          exact .pure (.cons (((id ▸ named).append colon).append first) others)
        · simp only [List.map_cons, id, if_false, memberLiterals]
          refine (literal_masked bare value).bind fun _ _ first => ih.bind fun _ _ others => ?_
          exact .pure (.cons ((named.append colon).append first) others)
    exact inside.bind fun _ _ texts =>
      .pure (sameShape_bracketed bare (sameShape_word bare rfl) (sameShape_word bare rfl) texts)
  | _ => exact literal_masked bare _

namespace Request

theorem Create.target_masked (schema : ModelSchema) (request : Create) :
    Create.target schema { request with data := request.data.maskedBelowId } =
      request.target schema := by
  have id : request.data.maskedBelowId.get? "id" = request.data.get? "id" := by
    cases request.data with
    | object members =>
      simp only [Value.maskedBelowId, Value.get?, Members.get?]
      induction members with
      | nil => rfl
      | cons entry rest ih =>
        rcases entry with ⟨name, value⟩
        by_cases here : name = "id"
        · simp [here]
        · simp [here, List.lookup_cons, beq_eq_false_iff_ne.2 (Ne.symm here), ih]
    | _ => rfl
  simp only [Create.target, id]

end Request

/-! ## Fixed texts, names and numbers -/

section Walk

variable (most : ∀ c, c ≠ ';' → allowed c)

include most

theorem bare_allowed (c : Char) (bare : Value.isBareChar c) : allowed c := by
  apply most
  rintro rfl
  exact absurd bare (by decide)

/-- A text without quotes and semicolons has its own shape. -/
theorem sameShape_fixed {text : String}
    (plain : text.toList.all fun c => c ≠ '"' ∧ c ≠ ';') : SameShape allowed text text := by
  refine .of_plain fun c mem => ?_
  have both := List.all_eq_true.1 plain c mem
  rw [decide_eq_true_eq] at both
  exact ⟨both.1, most c both.2⟩

theorem key_self (name : String) :
    Agree (SameShape allowed) (Validation.key name) (Validation.key name) := by
  refine .of_ok fun text checked => ?_
  rcases Validation.key_eq_ok checked with ⟨rfl, valid⟩
  exact Value.sameShape_of_bare (bare_allowed most) fun c mem =>
    Value.isBareChar_of_isKeyChar (Identifier.isKeyChar_of_mem_key valid mem)

theorem fieldPath_self (name : String) :
    Agree (SameShape allowed) (Validation.fieldPath name) (Validation.fieldPath name) := by
  refine .of_ok fun text checked => ?_
  rcases Validation.fieldPath_eq_ok checked with ⟨rfl, valid⟩
  refine Value.sameShape_of_bare (bare_allowed most) fun c mem => ?_
  rcases Identifier.mem_fieldPath valid mem with key | rfl
  · exact Value.isBareChar_of_isKeyChar key
  · rfl

theorem ownedRecordKey_self (table id : String) :
    Agree (SameShape allowed) (Validation.ownedRecordKey table id)
      (Validation.ownedRecordKey table id) := by
  refine .of_ok fun text checked => ?_
  rcases Validation.ownedRecordKey_eq_ok checked with ⟨rfl, valid, -⟩
  let id : RecordId := ⟨text, valid⟩
  exact Value.sameShape_of_bare (bare_allowed most) fun c mem =>
    Value.isBareChar_of_mem_recordId (show c ∈ id.text.toList from mem)

namespace Request

theorem numberClause_self {keyword : String} (fixed : SameShape allowed keyword keyword)
    (number : Option Nat) :
    SameShape allowed (numberClause keyword number) (numberClause keyword number) := by
  cases number with
  | none => exact .of_plain (by simp [numberClause])
  | some n =>
    have blank : SameShape allowed " " " " := sameShape_fixed most rfl
    have digits : SameShape allowed (toString n) (toString n) :=
      Value.sameShape_of_bare (bare_allowed most) fun c mem =>
        Value.isBareChar_of_mem_int (n := (n : Int)) mem
    exact ((blank.append fixed).append blank).append digits

theorem listClause_sameShape {keyword : String}
    (fixed : SameShape allowed keyword keyword) {texts others : List String}
    (related : List.Forall₂ (SameShape allowed) texts others) :
    SameShape allowed (listClause keyword texts) (listClause keyword others) := by
  have blank : SameShape allowed " " " " := sameShape_fixed most rfl
  have comma : SameShape allowed ", " ", " := sameShape_fixed most rfl
  have joined := SameShape.intercalate comma related
  cases related with
  | nil => exact .of_plain (by simp [listClause])
  | cons first rest => exact ((blank.append fixed).append blank).append joined

/-! ## Selections -/

theorem selected_self {schema : ModelSchema}
    {entry : String × Selection}
    (trusted : ∀ text ∈ trustedSelection schema entry, SameShape allowed text text) :
    Agree (Option.Rel (SameShape allowed)) (selected schema entry) (selected schema entry) := by
  refine .of_ok fun result done => ?_
  have as : SameShape allowed " AS " " AS " := sameShape_fixed most rfl
  have name := fieldPath_self most entry.1
  obtain ⟨field, checked, done⟩ := exists_of_bind_eq_ok done
  rw [checked] at name
  rcases Validation.fieldPath_eq_ok checked with ⟨rfl, -⟩
  unfold trustedSelection at trusted
  cases kind : entry.2 with
  | drop =>
    rw [kind] at done
    cases done
    exact .none
  | expression text =>
    rw [kind] at done trusted
    cases done
    exact .some (((trusted _ (by simp)).append as).append name)
  | keep =>
    rw [kind] at done trusted
    cases found : schema.projection? entry.1 with
    | none =>
      simp only [found] at done
      cases done
      exact .some name
    | some projection =>
      simp only [found] at done trusted
      cases done
      exact .some (((trusted _ (by simp)).append as).append name)

/-- What a statement selects has its own shape. -/
theorem selection_self {schema : ModelSchema}
    {select : Option (List (String × Selection))}
    (trusted : ∀ text ∈ (select.getD []).flatMap (trustedSelection schema),
      SameShape allowed text text) :
    Agree (SameShape allowed) (selection schema select) (selection schema select) := by
  have entries : List.Forall₂ (fun a b => Agree (Option.Rel (SameShape allowed))
      (selected schema a) (selected schema b)) (select.getD []) (select.getD []) :=
    List.forall₂_same.2 fun entry mem => selected_self most fun text part =>
      trusted text (List.mem_flatMap.2 ⟨entry, mem, part⟩)
  refine (Agree.mapM entries).bind fun texts others related => ?_
  have kept := List.rel_filterMap (fun _ _ same => same) related
  have comma : SameShape allowed ", " ", " := sameShape_fixed most rfl
  have star : SameShape allowed "*" "*" := sameShape_fixed most rfl
  have joined := SameShape.intercalate comma kept
  generalize texts.filterMap (fun text => text) = some at kept joined ⊢
  generalize others.filterMap (fun text => text) = rest at kept joined ⊢
  cases kept with
  | nil => exact star
  | cons first later => exact joined

/-! ## Filters -/

theorem equation_masked (entry : String × Value) :
    Agree (SameShape allowed) (equation entry) (equation (entry.1, entry.2.masked)) := by
  have equals : SameShape allowed " = " " = " := sameShape_fixed most rfl
  refine (fieldPath_self most entry.1).bind fun _ _ name => ?_
  refine (Value.literal_masked (bare_allowed most) entry.2).bind fun _ _ literal => ?_
  exact .pure ((name.append equals).append literal)

/-- The clause of a filter and that of its masked form have one shape. -/
theorem Filter.clause_masked {filter : Filter}
    (trusted : ∀ text ∈ filter.trusted, SameShape allowed text text) :
    Agree (SameShape allowed) filter.clause filter.masked.clause := by
  have equations : List.Forall₂ (fun a b => Agree (SameShape allowed) (equation a) (equation b))
      filter.matching filter.masked.matching :=
    List.forall₂_map_right_iff.2 (List.forall₂_same.2 fun entry _ => equation_masked most entry)
  have lead : SameShape allowed " WHERE " " WHERE " := sameShape_fixed most rfl
  have glue : SameShape allowed " AND " " AND " := sameShape_fixed most rfl
  have nothing : SameShape allowed "" "" := sameShape_fixed most rfl
  have emptiness : filter.masked.isEmpty = filter.isEmpty := by
    simp [Filter.isEmpty, Filter.masked]
  have conditions : Agree (List.Forall₂ (SameShape allowed)) filter.conditions
      filter.masked.conditions := by
    refine (Agree.mapM equations).bind fun _ _ related => .pure ?_
    exact List.rel_append related (List.forall₂_same.2 trusted)
  refine conditions.bind fun _ _ related => ?_
  rw [emptiness]
  split
  · exact .pure nothing
  · exact .pure (lead.append (.intercalate glue related))

theorem ordering_self (entry : String × Direction) :
    Agree (SameShape allowed) (ordering entry) (ordering entry) := by
  have blank : SameShape allowed " " " " := sameShape_fixed most rfl
  have keyword : SameShape allowed entry.2.keyword entry.2.keyword := by
    cases entry.2
    · exact sameShape_fixed most rfl
    · exact sameShape_fixed most rfl
  refine (fieldPath_self most entry.1).bind fun _ _ name => ?_
  exact .pure ((name.append blank).append keyword)

end Request

/-! ## Masked variables -/

namespace Bindings

/-- Masking keeps the shape of all variables. -/
theorem masked_sameShape (b : Bindings) :
    b.SameShape allowed b.masked :=
  List.forall₂_map_right_iff.2 (List.forall₂_same.2 fun entry _ =>
    ⟨rfl, Value.literal_masked (bare_allowed most) entry.2⟩)

end Bindings

/-! ## Requests -/

namespace Request

theorem Create.query_masked {schema : ModelSchema}
    (table : SameShape allowed schema.table schema.table) (request : Create) :
    Agree (Query.SameShape allowed) (request.query schema)
      (Create.query schema { request with data := request.data.maskedBelowId }) := by
  have lead : SameShape allowed "CREATE " "CREATE " := sameShape_fixed most rfl
  have trail : SameShape allowed " CONTENT $data" " CONTENT $data" :=
    sameShape_fixed most rfl
  have data := Value.literal_maskedBelowId (bare_allowed most) request.data
  have target : Agree (SameShape allowed) (request.target schema) (request.target schema) := by
    unfold Create.target
    split
    · exact table
    · exact table
    · exact ownedRecordKey_self most _ _
    · exact ownedRecordKey_self most _ _
    · rfl
  unfold Create.query
  rw [Create.target_masked]
  refine target.bind fun _ _ name => .pure ⟨(lead.append name).append trail, ?_⟩
  exact Bindings.ofList_sameShape (.cons ⟨rfl, data⟩ .nil)

theorem FindMany.query_masked {schema : ModelSchema}
    {request : FindMany}
    (trusted : ∀ text ∈ (Operation.findMany request).trusted schema, SameShape allowed text text) :
    Agree (Query.SameShape allowed) (request.query schema)
      (FindMany.query schema
        { request with filter := request.filter.masked, vars := request.vars.masked }) := by
  have table := trusted schema.table List.mem_cons_self
  have select := selection_self most fun text mem =>
    trusted text (List.mem_cons_of_mem _ (List.mem_append_left _ mem))
  have clause : Agree (SameShape allowed) request.filter.clause request.filter.masked.clause :=
    Filter.clause_masked most fun text mem =>
      trusted text (List.mem_cons_of_mem _ (List.mem_append_right _ mem))
  have order : Agree (List.Forall₂ (SameShape allowed)) (request.orderBy.mapM ordering)
      (request.orderBy.mapM ordering) :=
    .mapM (List.forall₂_same.2 fun entry _ => ordering_self most entry)
  have fetch : Agree (List.Forall₂ (SameShape allowed))
      ((marked request.fetch).mapM Validation.fieldPath)
      ((marked request.fetch).mapM Validation.fieldPath) :=
    .mapM (List.forall₂_same.2 fun name _ => fieldPath_self most name)
  have lead : SameShape allowed "SELECT " "SELECT " := sameShape_fixed most rfl
  have source : SameShape allowed " FROM " " FROM " := sameShape_fixed most rfl
  have orderWord : SameShape allowed "ORDER BY" "ORDER BY" := sameShape_fixed most rfl
  have fetchWord : SameShape allowed "FETCH" "FETCH" := sameShape_fixed most rfl
  have limitWord : SameShape allowed "LIMIT" "LIMIT" := sameShape_fixed most rfl
  have startWord : SameShape allowed "START" "START" := sameShape_fixed most rfl
  have limit := numberClause_self most limitWord request.limit
  have start := numberClause_self most startWord request.start
  refine select.bind fun _ _ selected => clause.bind fun _ _ condition =>
    order.bind fun _ _ orders => fetch.bind fun _ _ fetches => .pure ⟨?_, ?_⟩
  · have orderClause := listClause_sameShape most orderWord orders
    have fetchClause := listClause_sameShape most fetchWord fetches
    exact (((((((lead.append selected).append source).append table).append condition).append
      orderClause).append limit).append start).append fetchClause
  · exact Bindings.masked_sameShape most request.vars

/-- The request for one record has no strings in its values, so its query has its own shape. -/
theorem FindById.query_self {schema : ModelSchema}
    {id : String} {request : FindById}
    (trusted : ∀ text ∈ (Operation.findById id request).trusted schema,
      SameShape allowed text text) :
    Agree (Query.SameShape allowed) (request.query schema id) (request.query schema id) := by
  have named := ownedRecordKey_self most schema.table id
  refine .of_ok fun query compiled => ?_
  obtain ⟨text, -, compiled⟩ := exists_of_bind_eq_ok compiled
  obtain ⟨record, -, compiled⟩ := exists_of_bind_eq_ok compiled
  have rows : Agree (Query.SameShape allowed) ((request.toFindMany record).query schema)
      ((request.toFindMany record).query schema) := by
    refine FindMany.query_masked most (fun text mem => trusted text ?_)
    simpa [Operation.trusted, FindById.toFindMany, Filter.trusted] using mem
  rw [compiled] at rows
  exact rows

theorem Update.query_masked {schema : ModelSchema}
    {request : Update}
    (trusted : ∀ text ∈ (Operation.update request).trusted schema, SameShape allowed text text) :
    Agree (Query.SameShape allowed) (request.query schema)
      (Update.query schema { request with
        filter := request.filter.masked, data := request.data.masked,
        vars := request.vars.masked }) := by
  have table := trusted schema.table List.mem_cons_self
  have clause : Agree (SameShape allowed) request.filter.clause request.filter.masked.clause :=
    Filter.clause_masked most fun text mem => trusted text (List.mem_cons_of_mem _ mem)
  have data := Value.literal_masked (bare_allowed most) request.data
  have vars := Bindings.masked_sameShape most request.vars
  have lead : SameShape allowed "UPDATE " "UPDATE " := sameShape_fixed most rfl
  have blank : SameShape allowed " " " " := sameShape_fixed most rfl
  have dollar : SameShape allowed " $data" " $data" := sameShape_fixed most rfl
  have trail : SameShape allowed " RETURN AFTER" " RETURN AFTER" :=
    sameShape_fixed most rfl
  have method : SameShape allowed (if request.replace then "CONTENT" else "MERGE")
      (if request.replace then "CONTENT" else "MERGE") := by
    split
    · exact sameShape_fixed most rfl
    · exact sameShape_fixed most rfl
  refine clause.bind fun _ _ condition => .pure ⟨?_, Bindings.insert_sameShape data vars⟩
  exact (((((lead.append table).append blank).append method).append dollar).append
    condition).append trail

/-! ## Assignments -/

theorem assignment_masked (entry : String × Value) :
    Agree (SameShape allowed) (Value.assignment entry)
      (Value.assignment (entry.1, entry.2.masked)) := by
  have blank : SameShape allowed " " " " := sameShape_fixed most rfl
  have equals : SameShape allowed " = " " = " := sameShape_fixed most rfl
  refine (key_self most entry.1).bind fun _ _ name => ?_
  refine (Value.literal_masked (bare_allowed most) entry.2).bind fun _ _ literal => ?_
  exact .pure (((blank.append name).append equals).append literal)

theorem assignments_masked (members : List (String × Value)) :
    Agree (SameShape allowed) (Value.assignments (.object members))
      (Value.assignments (.object (Value.maskedMembers members))) := by
  have comma : SameShape allowed "," "," := sameShape_fixed most rfl
  have texts : List.Forall₂
      (fun a b => Agree (SameShape allowed) (Value.assignment a) (Value.assignment b))
      members (Value.maskedMembers members) := by
    induction members with
    | nil => exact .nil
    | cons entry rest ih => exact .cons (assignment_masked most entry) ih
  exact (Agree.mapM texts).bind fun _ _ related => .pure (.intercalate comma related)

theorem Assign.query_masked {schema : ModelSchema}
    {request : Assign}
    (trusted : ∀ text ∈ (Operation.assign request).trusted schema, SameShape allowed text text) :
    Agree (Query.SameShape allowed) (request.query schema)
      (Assign.query schema { request with
        filter := request.filter.masked, assignments := request.assignments.masked }) := by
  rcases request with ⟨filter, assignments, options⟩
  have table := trusted schema.table List.mem_cons_self
  have clause : Agree (SameShape allowed) filter.clause filter.masked.clause :=
    Filter.clause_masked most fun text mem => trusted text (List.mem_cons_of_mem _ mem)
  have lead : SameShape allowed "UPDATE " "UPDATE " := sameShape_fixed most rfl
  have keyword : SameShape allowed " SET" " SET" := sameShape_fixed most rfl
  have trail : SameShape allowed " RETURN AFTER" " RETURN AFTER" :=
    sameShape_fixed most rfl
  cases assignments with
  | object members =>
    cases members with
    | nil => rfl
    | cons entry rest =>
      refine (assignments_masked most (entry :: rest)).bind fun _ _ texts =>
        clause.bind fun _ _ condition => .pure ⟨?_, .nil⟩
      exact ((((lead.append table).append keyword).append texts).append condition).append trail
  | _ => rfl

theorem Delete.query_masked {schema : ModelSchema}
    {request : Delete}
    (trusted : ∀ text ∈ (Operation.delete request).trusted schema, SameShape allowed text text) :
    Agree (Query.SameShape allowed) (request.query schema)
      (Delete.query schema
        { request with filter := request.filter.masked, vars := request.vars.masked }) := by
  have table := trusted schema.table List.mem_cons_self
  have clause : Agree (SameShape allowed) request.filter.clause request.filter.masked.clause :=
    Filter.clause_masked most fun text mem => trusted text (List.mem_cons_of_mem _ mem)
  have lead : SameShape allowed "DELETE " "DELETE " := sameShape_fixed most rfl
  have trail : SameShape allowed " RETURN BEFORE" " RETURN BEFORE" :=
    sameShape_fixed most rfl
  refine clause.bind fun _ _ condition => .pure ⟨?_, Bindings.masked_sameShape most _⟩
  exact ((lead.append table).append condition).append trail

theorem relate_masked (source : Endpoint) {edge : Fragment}
    (target : Endpoint) (data : Option Value) (trusted : SameShape allowed edge.text edge.text) :
    Agree (Query.SameShape allowed) (relate source edge target data)
      (relate source edge target (data.map Value.masked)) := by
  have lead : SameShape allowed "RELATE $fromId -> " "RELATE $fromId -> " :=
    sameShape_fixed most rfl
  have trail : SameShape allowed " -> $toId CONTENT $data" " -> $toId CONTENT $data" :=
    sameShape_fixed most rfl
  have content : Agree (SameShape allowed) (data.getD .emptyObject).literal
      ((data.map Value.masked).getD .emptyObject).literal := by
    cases data with
    | none => exact Value.literal_self (bare_allowed most) _
    | some value => exact Value.literal_masked (bare_allowed most) value
  have endpoint (side : Side) (place : Endpoint) :
      Agree Eq (place.recordId side) (place.recordId side) := .of_ok fun _ _ => rfl
  refine (endpoint .source source).bind fun sourceId _ same => ?_
  subst same
  refine (endpoint .target target).bind fun targetId _ same => ?_
  subst same
  have ends (id : RecordId) := Value.literal_self (bare_allowed most) (.record id)
  refine .pure ⟨(lead.append trusted).append trail, Bindings.ofList_sameShape ?_⟩
  exact .cons ⟨rfl, ends sourceId⟩ (.cons ⟨rfl, ends targetId⟩ (.cons ⟨rfl, content⟩ .nil))

/-- The queries of an operation and of its masked form have one shape, or fail alike. -/
theorem Operation.query_masked {schema : ModelSchema}
    {operation : Operation}
    (trusted : ∀ text ∈ operation.trusted schema, SameShape allowed text text) :
    Agree (Query.SameShape allowed) (operation.query schema) (operation.masked.query schema) := by
  cases operation with
  | create request => exact request.query_masked most (trusted _ List.mem_cons_self)
  | findMany request => exact FindMany.query_masked most trusted
  | findById id request => exact FindById.query_self most trusted
  | update request => exact Update.query_masked most trusted
  | assign request => exact Assign.query_masked most trusted
  | delete request => exact Delete.query_masked most trusted
  | relate source edge target data =>
    exact relate_masked most source target data (trusted _ List.mem_cons_self)

end Request

end Walk

end RecordMapper
