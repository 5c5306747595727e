import RecordMapper.Proofs.Value.Reader
import RecordMapper.Proofs.Statement.Operation

/-!
Reading statements that find rows. One reader, `readFindMany`, takes such a statement apart:
the table, the selected fields, the equations of the filter, the order, the two numbers and
the fetched fields. A statement that was made from a request without texts of the developer
gives back all of these (`FindMany.readFindMany_query`), so requests that differ in them
have different statements, whatever keywords their names and strings spell.
-/

namespace RecordMapper.Request

open Text (Reader after? EndsToken)
open Text.Reader
open Value (readLiteral EndsLiteral)

/-- What a request for rows asks for. -/
structure Content where
  table : String
  fields : List String
  matching : List (String × Value)
  orderBy : List (String × Direction)
  limit : Option Nat
  start : Option Nat
  fetch : List String

/-- The names of the fields that are selected as they are. -/
def kept (select : Option (List (String × Selection))) : List String :=
  ((select.getD []).filter fun entry => entry.2 = .keep).map Prod.fst

/-- What the request asks for; a timestamp counts as its text. -/
def FindMany.content (schema : ModelSchema) (request : FindMany) : Content where
  table := schema.table
  fields := kept request.select
  matching := request.filter.matching.map fun entry => (entry.1, entry.2.timesAsText)
  orderBy := request.orderBy
  limit := request.limit
  start := request.start
  fetch := marked request.fetch

/-! ## The reader -/

/-- The characters of paths. -/
def isPathChar (c : Char) : Bool := Identifier.isKeyChar c || c = '.'

/-- Reads the name of a table. -/
def readKey : Reader String :=
  token Identifier.isKeyChar fun text =>
    if Identifier.isKey text then some (String.ofList text) else none

/-- Reads the path of a field. -/
def readPath : Reader String :=
  token isPathChar fun text =>
    if Identifier.isFieldPath text then some (String.ofList text) else none

/-- Reads a natural number. -/
def readNumber : Reader (Option Nat) :=
  token Char.isDigit fun text => (Text.natural? text).map some

/-- Reads a direction. -/
def readDirection : Reader Direction := fun text =>
  match after? "ASC" text with
  | some rest => some (.ascending, rest)
  | none => (after? "DESC" text).map fun rest => (.descending, rest)

/-- Reads what is selected. A star stands for no fields. -/
def readSelection : Reader (List String) := fun text =>
  match after? "*" text with
  | some rest => some ([], rest)
  | none => separated ", " readPath text

/-- The text that starts a clause. -/
def lead (keyword : String) : String := " " ++ keyword ++ " "

/-- Reads a statement that finds rows. -/
def readFindMany (statement : String) : Option Content := do
  let rest ← after? "SELECT " statement.toList
  let (fields, rest) ← readSelection rest
  let rest ← after? " FROM " rest
  let (table, rest) ← readKey rest
  let (matching, rest) ←
    led (lead "WHERE") [] (separated " AND " (pair readPath " = " readLiteral)) rest
  let (orderBy, rest) ←
    led (lead "ORDER BY") [] (separated ", " (pair readPath " " readDirection)) rest
  let (limit, rest) ← led (lead "LIMIT") none readNumber rest
  let (start, rest) ← led (lead "START") none readNumber rest
  let (fetch, rest) ← led (lead "FETCH") [] (separated ", " readPath) rest
  if rest = [] then return { table, fields, matching, orderBy, limit, start, fetch } else none

/-! ## What follows a clause -/

/-- The rest of a statement: nothing, or a clause with one of the keywords comes first. -/
def Continues (keywords : List String) (rest : List Char) : Prop :=
  rest = [] ∨ ∃ keyword ∈ keywords, (lead keyword).toList <+: rest

/-- The text cannot be taken for the start of a clause with one of the keywords. -/
def Clash (text : String) (keywords : List String) : Prop :=
  text ≠ "" ∧ ∀ keyword ∈ keywords,
    ¬text.toList <+: (lead keyword).toList ∧ ¬(lead keyword).toList <+: text.toList

instance (text : String) (keywords : List String) : Decidable (Clash text keywords) :=
  inferInstanceAs (Decidable (_ ∧ _))

theorem after?_of_continues {text : String} {keywords : List String}
    (clash : Clash text keywords) {rest : List Char} (continues : Continues keywords rest) :
    after? text rest = none := by
  cases found : after? text rest with
  | none => rfl
  | some tail =>
    have first : text.toList <+: rest := ⟨tail, (Text.append_of_after? found).symm⟩
    rcases continues with rfl | ⟨keyword, mem, second⟩
    · have empty := List.prefix_nil.1 first
      exact absurd (String.toList_eq_nil_iff.1 empty) clash.1
    · rcases clash.2 keyword mem with ⟨short, long⟩
      rcases List.prefix_or_prefix_of_prefix first second with start | start
      · exact absurd start short
      · exact absurd start long

/-- Clauses start with a blank. -/
theorem head_of_continues {keywords : List String} {rest : List Char}
    (continues : Continues keywords rest) : ∀ c ∈ rest.head?, c = ' ' := by
  intro c next
  rcases continues with rfl | ⟨keyword, mem, tail, rfl⟩
  · cases next
  · have split : (lead keyword).toList = ' ' :: (keyword ++ " ").toList := by
      simp [lead]
    rw [split] at next
    exact (Option.some.inj next).symm

theorem endsToken_of_continues {keywords : List String} {isTokenChar : Char → Bool}
    (blank : isTokenChar ' ' = false) {rest : List Char} (continues : Continues keywords rest) :
    EndsToken isTokenChar rest := by
  intro c next
  rw [head_of_continues continues c next]
  exact blank

theorem endsLiteral_of_continues {keywords : List String} {rest : List Char}
    (continues : Continues keywords rest) : EndsLiteral rest := by
  intro c next
  rw [head_of_continues continues c next]
  decide

/-- A clause, or no clause, goes before the clauses that may follow it. -/
theorem continues_append {keyword : String} {keywords : List String} {text : String}
    (clause : text = "" ∨ ∃ inner, text = lead keyword ++ inner) {rest : List Char}
    (continues : Continues keywords rest) :
    Continues (keyword :: keywords) (text.toList ++ rest) := by
  rcases clause with rfl | ⟨inner, rfl⟩
  · rcases continues with rfl | ⟨other, mem, start⟩
    · exact .inl rfl
    · exact .inr ⟨other, List.mem_cons_of_mem _ mem, start⟩
  · refine .inr ⟨keyword, List.mem_cons_self, inner.toList ++ rest, ?_⟩
    rw [String.toList_append, List.append_assoc]

/-! ## Clauses -/

theorem reads_path {name : String} (valid : Identifier.isFieldPath name.toList) :
    Reads readPath (EndsToken isPathChar) name name := by
  refine reads_token (fun c mem => ?_) ?_
  · rcases Identifier.mem_fieldPath valid mem with key | rfl
    · simp [isPathChar, key]
    · rfl
  · rw [if_pos valid, String.ofList_toList]

theorem reads_key {name : String} (valid : Identifier.isKey name.toList) :
    Reads readKey (EndsToken Identifier.isKeyChar) name name := by
  refine reads_token (fun c mem => Identifier.isKeyChar_of_mem_key valid mem) ?_
  rw [if_pos valid, String.ofList_toList]

theorem reads_direction (direction : Direction) :
    Reads readDirection (fun _ => True) direction.keyword direction := by
  intro rest _
  cases direction with
  | ascending =>
    have found := Text.after?_append "ASC" rest
    simp only [readDirection, Direction.keyword, found]
  | descending =>
    have other : after? "ASC" ("DESC".toList ++ rest) = none := by rfl
    have found := Text.after?_append "DESC" rest
    simp only [readDirection, Direction.keyword, other, found, Option.map_some]

/-- The reader takes the clause whatever later clauses follow it, and the clause may stand
where a clause with its keyword may. -/
def TakesClause {α : Type} (keyword : String) (keywords : List String) (read : Reader α)
    (text : String) (value : α) : Prop :=
  ∀ rest, Continues keywords rest → read (text.toList ++ rest) = some (value, rest) ∧
    Continues (keyword :: keywords) (text.toList ++ rest)

/-- A clause that lists texts is read, if what separates them and what follows them can be
told apart. -/
theorem takes_clause {α : Type} {read : Reader α} {stop : List Char → Prop}
    {keyword separator : String} {keywords : List String}
    (ended : ∀ rest, stop (separator.toList ++ rest))
    (stops : ∀ rest, Continues keywords rest → stop rest)
    (distinct : Clash separator keywords) (absent : Clash (lead keyword) keywords)
    {texts : List String} {values : List α}
    (related : List.Forall₂ (Reads read stop) texts values) :
    TakesClause keyword keywords (led (lead keyword) [] (separated separator read))
      (if texts.isEmpty then "" else lead keyword ++ separator.intercalate texts) values := by
  intro rest continues
  by_cases none : texts = []
  · subst none
    cases related
    have skipped := reads_led_absent (lead keyword) [] (separated separator read) rest
      (after?_of_continues absent continues)
    exact ⟨skipped, continues_append (.inl rfl) continues⟩
  · have shown : texts.isEmpty = false := by simpa using none
    have items := reads_separated distinct.1 ended related none
    have taken := reads_led (lead keyword) [] items rest
      ⟨stops rest continues, after?_of_continues distinct continues⟩
    rw [shown]
    exact ⟨taken, continues_append (.inr ⟨_, rfl⟩) continues⟩

theorem takes_numberClause {keyword : String} {keywords : List String}
    (absent : Clash (lead keyword) keywords) (number : Option Nat) :
    TakesClause keyword keywords (led (lead keyword) none readNumber)
      (numberClause keyword number) number := by
  intro rest continues
  cases number with
  | none =>
    have skipped := reads_led_absent (lead keyword) none readNumber rest
      (after?_of_continues absent continues)
    exact ⟨skipped, continues_append (.inl rfl) continues⟩
  | some n =>
    have digits : Reads readNumber (EndsToken Char.isDigit) (toString n) (some n) := by
      refine reads_token (fun c mem => Text.isDigit_of_mem_nat mem) ?_
      rw [Text.natural?_toString]
      rfl
    have taken := reads_led (lead keyword) none digits rest (endsToken_of_continues rfl continues)
    exact ⟨taken, continues_append (.inr ⟨_, rfl⟩) continues⟩

/-! ## Parts of a statement -/

/-- The texts that a check or a writer gives, one for each item, are read back as items. -/
theorem reads_mapM {α β : Type} {f : α → Result String} {g : α → β} {read : Reader β}
    {stop : List Char → Prop} (each : ∀ x text, f x = .ok text → Reads read stop text (g x))
    {xs : List α} {texts : List String} (done : xs.mapM f = .ok texts) :
    List.Forall₂ (Reads read stop) texts (xs.map g) := by
  have related := mapM_eq_ok_iff.1 done
  rw [List.forall₂_map_right_iff]
  exact (related.imp fun x text written => each x text written).flip

theorem reads_equation (entry : String × Value) (text : String)
    (written : equation entry = .ok text) :
    Reads (pair readPath " = " readLiteral) EndsLiteral text (entry.1, entry.2.timesAsText) := by
  obtain ⟨name, checked, written⟩ := exists_of_bind_eq_ok written
  obtain ⟨literal, encoded, written⟩ := exists_of_bind_eq_ok written
  cases written
  rcases Validation.fieldPath_eq_ok checked with ⟨rfl, valid⟩
  have ended : ∀ rest, EndsToken isPathChar (" = ".toList ++ rest) := by
    rintro rest c next
    cases next
    rfl
  exact reads_pair (reads_path valid) ended (Value.reads_literal encoded)

theorem reads_ordering (entry : String × Direction) (text : String)
    (written : ordering entry = .ok text) :
    Reads (pair readPath " " readDirection) (fun _ => True) text entry := by
  obtain ⟨name, checked, written⟩ := exists_of_bind_eq_ok written
  cases written
  rcases Validation.fieldPath_eq_ok checked with ⟨rfl, valid⟩
  have ended : ∀ rest, EndsToken isPathChar (" ".toList ++ rest) := by
    rintro rest c next
    cases next
    rfl
  exact reads_pair (reads_path valid) ended (reads_direction entry.2)

theorem reads_fieldPath (name text : String) (checked : Validation.fieldPath name = .ok text) :
    Reads readPath (EndsToken isPathChar) text name := by
  rcases Validation.fieldPath_eq_ok checked with ⟨rfl, valid⟩
  exact reads_path valid

theorem endsToken_comma (rest : List Char) : EndsToken isPathChar (", ".toList ++ rest) := by
  intro c next
  cases next
  rfl

/-- Fields that are selected by name stand in the statement by name. -/
theorem selected_eq_ok {schema : ModelSchema} (none : schema.projections = [])
    {entry : String × Selection} (named : ∀ text, entry.2 ≠ .expression text)
    {result : Option String} (done : selected schema entry = .ok result) :
    Identifier.isFieldPath entry.1.toList ∧
      result = if entry.2 = .keep then some entry.1 else .none := by
  obtain ⟨field, checked, done⟩ := exists_of_bind_eq_ok done
  rcases Validation.fieldPath_eq_ok checked with ⟨rfl, valid⟩
  refine ⟨valid, ?_⟩
  cases kind : entry.2 with
  | drop =>
    rw [kind] at done
    cases done
    rfl
  | expression text => exact absurd kind (named text)
  | keep =>
    have plain : schema.projection? entry.1 = .none := by
      rw [ModelSchema.projection?, none]
      rfl
    simp only [kind, plain] at done
    cases done
    rfl

theorem filterMap_selected {schema : ModelSchema} (none : schema.projections = [])
    {entries : List (String × Selection)}
    (named : ∀ entry ∈ entries, ∀ text, entry.2 ≠ .expression text)
    {results : List (Option String)} (done : entries.mapM (selected schema) = .ok results) :
    results.filterMap (fun result => result) = kept (some entries) ∧
      ∀ name ∈ kept (some entries), Identifier.isFieldPath name.toList := by
  have related := mapM_eq_ok_iff.1 done
  clear done
  induction related with
  | nil => exact ⟨rfl, fun name mem => by cases mem⟩
  | @cons entry result entries results first rest ih =>
    rcases ih fun entry mem => named entry (List.mem_cons_of_mem _ mem) with ⟨same, valid⟩
    rcases selected_eq_ok none (named entry List.mem_cons_self) first with ⟨path, shown⟩
    by_cases keep : entry.2 = .keep
    · have here : kept (some (entry :: entries)) = entry.1 :: kept (some entries) := by
        simp [kept, keep]
      rw [here, shown, if_pos keep]
      exact ⟨congrArg (entry.1 :: ·) same, List.forall_mem_cons.2 ⟨path, valid⟩⟩
    · have here : kept (some (entry :: entries)) = kept (some entries) := by
        simp [kept, keep]
      rw [here, shown, if_neg keep]
      exact ⟨same, valid⟩

theorem reads_names {names : List String}
    (valid : ∀ name ∈ names, Identifier.isFieldPath name.toList) :
    List.Forall₂ (Reads readPath (EndsToken isPathChar)) names names :=
  List.forall₂_same.2 fun name mem => reads_path (valid name mem)

theorem reads_selection {schema : ModelSchema} (none : schema.projections = [])
    {select : Option (List (String × Selection))}
    (named : ∀ entry ∈ select.getD [], ∀ text, entry.2 ≠ .expression text) {text : String}
    (done : selection schema select = .ok text) :
    Reads readSelection
      (fun rest => EndsToken isPathChar rest ∧ after? ", " rest = .none) text (kept select) := by
  obtain ⟨results, each, done⟩ := exists_of_bind_eq_ok done
  rcases filterMap_selected none named each with ⟨same, valid⟩
  have names : kept (some (select.getD [])) = kept select := by simp [kept]
  rw [names] at same valid
  simp only [same] at done
  have related := reads_names valid
  generalize kept select = fields at done related
  intro rest stopped
  cases fields with
  | nil =>
    cases done
    have star := Text.after?_append "*" rest
    simp only [readSelection, star]
  | cons field fields =>
    cases done
    have items := reads_separated (by decide) endsToken_comma related (List.cons_ne_nil _ _) rest
      stopped
    have starless : after? "*" ((", ".intercalate (field :: fields)).toList ++ rest) = .none := by
      cases found : after? "*" ((", ".intercalate (field :: fields)).toList ++ rest) with
      | none => rfl
      | some early =>
        -- no path starts with a star
        rw [Text.append_of_after? found] at items
        cases items
    simp only [readSelection, starless, items]

/-- The equations of a filter without a condition are read back from its clause. -/
theorem reads_filter {filter : Filter} (none : filter.condition = .none) {text : String}
    (done : filter.clause = .ok text) :
    ∃ texts : List String,
      text = (if texts.isEmpty then "" else lead "WHERE" ++ " AND ".intercalate texts) ∧
      List.Forall₂ (Reads (pair readPath " = " readLiteral) EndsLiteral) texts
        (filter.matching.map fun entry => (entry.1, entry.2.timesAsText)) := by
  obtain ⟨texts, conditions, done⟩ := exists_of_bind_eq_ok done
  obtain ⟨equations, each, conditions⟩ := exists_of_bind_eq_ok conditions
  cases conditions
  have related := reads_mapM reads_equation each
  have count : equations.length = filter.matching.length := by
    rw [related.length_eq, List.length_map]
  have emptiness : filter.isEmpty = equations.isEmpty := by
    rw [Filter.isEmpty, none, Bool.eq_iff_iff]
    simp [← List.length_eq_zero_iff, count]
  refine ⟨equations, ?_, related⟩
  rw [emptiness, none] at done
  cases shown : equations.isEmpty with
  | true =>
    rw [shown] at done
    cases done
    rfl
  | false =>
    rw [shown] at done
    cases done
    simp [lead]

/-! ## Statements -/

/-- The statement of the request holds no text of the developer apart from the name of the
table, which is a key. -/
structure FindMany.Plain (schema : ModelSchema) (request : FindMany) : Prop where
  table_isKey : Identifier.isKey schema.table.toList
  projections_eq_nil : schema.projections = []
  named : ∀ entry ∈ request.select.getD [], ∀ text, entry.2 ≠ .expression text
  condition_eq_none : request.filter.condition = none

/-- A statement is read part by part. From its end to its start, each rest is one before
which the part before it stops. -/
theorem readFindMany_parts (content : Content) {fields conditions order limit start fetch : String}
    (selectReads : Reads readSelection
      (fun rest => EndsToken isPathChar rest ∧ after? ", " rest = none) fields content.fields)
    (tableReads : Reads readKey (EndsToken Identifier.isKeyChar) content.table content.table)
    (whereTakes : TakesClause "WHERE" ["ORDER BY", "LIMIT", "START", "FETCH"]
      (led (lead "WHERE") [] (separated " AND " (pair readPath " = " readLiteral)))
      conditions content.matching)
    (orderTakes : TakesClause "ORDER BY" ["LIMIT", "START", "FETCH"]
      (led (lead "ORDER BY") [] (separated ", " (pair readPath " " readDirection)))
      order content.orderBy)
    (limitTakes : TakesClause "LIMIT" ["START", "FETCH"] (led (lead "LIMIT") none readNumber)
      limit content.limit)
    (startTakes : TakesClause "START" ["FETCH"] (led (lead "START") none readNumber)
      start content.start)
    (fetchTakes : TakesClause "FETCH" [] (led (lead "FETCH") [] (separated ", " readPath))
      fetch content.fetch) :
    readFindMany ("SELECT " ++ fields ++ " FROM " ++ content.table ++ conditions ++ order ++
      limit ++ start ++ fetch) = some content := by
  rcases fetchTakes [] (.inl rfl) with ⟨fetchRead, afterStart⟩
  rcases startTakes _ afterStart with ⟨startRead, afterLimit⟩
  rcases limitTakes _ afterLimit with ⟨limitRead, afterOrder⟩
  rcases orderTakes _ afterOrder with ⟨orderRead, afterWhere⟩
  rcases whereTakes _ afterWhere with ⟨whereRead, afterTable⟩
  have tableRead := tableReads _ (endsToken_of_continues rfl afterTable)
  have selectRead (rest : List Char) : readSelection (fields.toList ++ (" FROM ".toList ++ rest)) =
      some (content.fields, " FROM ".toList ++ rest) := by
    refine selectReads _ ⟨fun c next => ?_, rfl⟩
    cases next
    rfl
  have split : ("SELECT " ++ fields ++ " FROM " ++ content.table ++ conditions ++ order ++
      limit ++ start ++ fetch).toList = "SELECT ".toList ++ (fields.toList ++ (" FROM ".toList ++
        (content.table.toList ++ (conditions.toList ++ (order.toList ++ (limit.toList ++
          (start.toList ++ (fetch.toList ++ [])))))))) := by
    simp
  unfold readFindMany
  rw [split, Text.after?_append]
  simp only [Option.bind_eq_bind, Option.bind_some, selectRead, Text.after?_append, tableRead,
    whereRead, orderRead, limitRead, startRead, fetchRead]
  rfl

theorem FindMany.readFindMany_eq {schema : ModelSchema} {request : FindMany}
    (plain : request.Plain schema) {query : Query} (compiled : request.query schema = .ok query) :
    readFindMany query.statement = some (request.content schema) := by
  obtain ⟨fields, selected, compiled⟩ := exists_of_bind_eq_ok compiled
  obtain ⟨condition, filtered, compiled⟩ := exists_of_bind_eq_ok compiled
  obtain ⟨order, ordered, compiled⟩ := exists_of_bind_eq_ok compiled
  obtain ⟨fetch, fetched, compiled⟩ := exists_of_bind_eq_ok compiled
  cases compiled
  rcases reads_filter plain.condition_eq_none filtered with ⟨equations, rfl, matching⟩
  have orders := reads_mapM (fun entry => reads_ordering entry) ordered
  have fetches := reads_mapM (fun name => reads_fieldPath name) fetched
  rw [List.map_id'] at orders fetches
  have select := reads_selection plain.projections_eq_nil plain.named selected
  have literal : ∀ rest, EndsLiteral (" AND ".toList ++ rest) :=
    Value.endsLiteral_cons (by decide)
  have whereTakes : TakesClause "WHERE" ["ORDER BY", "LIMIT", "START", "FETCH"]
      (led (lead "WHERE") [] (separated " AND " (pair readPath " = " readLiteral))) _ _ :=
    takes_clause literal (fun _ => endsLiteral_of_continues) (by decide) (by decide) matching
  have orderTakes : TakesClause "ORDER BY" ["LIMIT", "START", "FETCH"]
      (led (lead "ORDER BY") [] (separated ", " (pair readPath " " readDirection))) _ _ :=
    takes_clause (fun _ => trivial) (fun _ _ => trivial) (by decide) (by decide) orders
  have limitTakes : TakesClause "LIMIT" ["START", "FETCH"] _ _ _ :=
    takes_numberClause (by decide) request.limit
  have startTakes : TakesClause "START" ["FETCH"] _ _ _ :=
    takes_numberClause (by decide) request.start
  have fetchTakes : TakesClause "FETCH" []
      (led (lead "FETCH") [] (separated ", " readPath)) _ _ :=
    takes_clause endsToken_comma (fun _ => endsToken_of_continues rfl) (by decide) (by decide)
      fetches
  have parts := readFindMany_parts (request.content schema) select (reads_key plain.table_isKey)
    whereTakes orderTakes limitTakes startTakes fetchTakes
  exact parts

/-- The statement of a request determines what the request asks for: one reader recovers it,
so requests that ask for different things have different statements. -/
theorem FindMany.readFindMany_query {schema : ModelSchema} {request : FindMany}
    (plain : request.Plain schema) {query : Query} (compiled : request.query schema = .ok query) :
    readFindMany query.statement = some (request.content schema) ∧
    ∀ (other : ModelSchema) (request' : FindMany) (query' : Query),
      request'.Plain other → request'.query other = .ok query' →
      query'.statement = query.statement → request'.content other = request.content schema := by
  have read := readFindMany_eq plain compiled
  refine ⟨read, fun other request' query' plain' compiled' same => ?_⟩
  have read' := readFindMany_eq plain' compiled'
  rw [same, read] at read'
  exact (Option.some.inj read').symm

/-- The selected field and the string are spelled like keywords. -/
theorem FindMany.readFindMany_keywords :
    (readFindMany
      "SELECT FROM FROM users WHERE name = \" LIMIT 1\" ORDER BY name DESC LIMIT 5").map
        (fun content => (content.fields, content.limit)) = some (["FROM"], some 5) := by
  let request : FindMany :=
    { select := some [("FROM", .keep), ("LIMIT", .drop)]
      filter := { matching := [("name", .string " LIMIT 1")] }
      orderBy := [("name", .descending)]
      limit := some 5 }
  let query : Query :=
    ⟨"SELECT FROM FROM users WHERE name = \" LIMIT 1\" ORDER BY name DESC LIMIT 5", .empty⟩
  have compiled : request.query (.ofTable "users") = .ok query := by rfl
  have plain : request.Plain (.ofTable "users") := by
    refine ⟨by rfl, rfl, fun entry mem text => ?_, rfl⟩
    rcases List.mem_pair.1 mem with rfl | rfl
    all_goals exact Selection.noConfusion
  rw [(readFindMany_query plain compiled).1]
  rfl

end RecordMapper.Request
