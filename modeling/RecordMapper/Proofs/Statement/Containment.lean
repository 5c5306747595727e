import RecordMapper.Proofs.Statement.Shape

/-!
Containment. The request body of an operation is one declaration for each variable, and then
its statement. Cutting the body at the semicolons outside literals finds these texts again,
so no name and no value that a caller brings along can start a statement of its own. What
the developer writes himself is trusted to close its literals and to hold no such semicolon.
-/

namespace RecordMapper

open Text.Quoted

/-- The text declares a variable, without the semicolon that ends the declaration. -/
def Bindings.Declares (entry : String × Value) (text : String) : Prop :=
  ∃ literal, entry.2.literal = .ok literal ∧ text = "LET $" ++ entry.1 ++ " = " ++ literal

/-- The characters of texts that stand on lines of their own. -/
def onLines : List String → List (List Char)
  | [] => []
  | first :: rest => first.toList :: rest.map fun text => '\n' :: text.toList

/-- One statement as far as the scan can tell: every literal is closed, and no semicolon
stands outside literals. -/
structure Text.Quoted.Contained (text : String) : Prop where
  balanced : isBalanced text.toList
  whole : ';' ∉ skeleton .outside text.toList

namespace Text.Quoted.Contained

theorem of_sameShape {a b : String} (same : SameShape (· ≠ ';') a b) : Contained a where
  balanced := decide_eq_true same.closed_left
  whole semicolon := by
    rcases same.bare _ semicolon with quote | other
    · exact absurd quote (by decide)
    · exact other rfl

theorem sameShape {text : String} (contained : Contained text) :
    SameShape (· ≠ ';') text text where
  closed_left := of_decide_eq_true contained.balanced
  closed_right := of_decide_eq_true contained.balanced
  skeleton_eq := rfl
  bare _ mem := .inr fun semicolon => contained.whole (semicolon ▸ mem)

end Text.Quoted.Contained

/-! ## Cutting lines -/

theorem modifyHead_onLines (texts : List String) :
    (onLines texts).modifyHead ('\n' :: ·) = texts.map fun text => '\n' :: text.toList := by
  cases texts <;> rfl

/-- Declarations, each with its semicolon and a new line, are found again by cutting. -/
theorem pieces_lines {declarations : List String} (each : ∀ d ∈ declarations, Contained d)
    {statement : String} (last : Contained statement) :
    pieces .outside (String.join (declarations.map (· ++ ";\n")) ++ statement).toList =
      onLines (declarations ++ [statement]) := by
  induction declarations with
  | nil =>
    have whole : pieces .outside statement.toList = [statement.toList] :=
      pieces_of_whole (of_decide_eq_true last.balanced) last.whole
    simpa [onLines, String.join] using whole
  | cons first rest ih =>
    have head := each first List.mem_cons_self
    have later := ih fun d mem => each d (List.mem_cons_of_mem _ mem)
    have newline : pieces .outside
        ('\n' :: (String.join (rest.map (· ++ ";\n")) ++ statement).toList) =
          (rest ++ [statement]).map fun text => '\n' :: text.toList := by
      rw [pieces, if_neg (by decide), ← modifyHead_onLines, ← later]
      rfl
    have split : (String.join ((first :: rest).map (· ++ ";\n")) ++ statement).toList =
        first.toList ++ ';' :: '\n' ::
          (String.join (rest.map (· ++ ";\n")) ++ statement).toList := by
      simp
    rw [split, pieces_append_semicolon (of_decide_eq_true head.balanced) head.whole, newline]
    rfl

/-! ## Declarations -/

namespace Bindings

/-- A declaration of a checked name is contained, whatever the value. -/
theorem line_eq_ok {entry : String × Value} {text : String} (written : line entry = .ok text) :
    ∃ declaration, Declares entry declaration ∧ Contained declaration ∧
      text = declaration ++ ";\n" := by
  obtain ⟨name, checked, written⟩ := exists_of_bind_eq_ok written
  obtain ⟨literal, encoded, written⟩ := exists_of_bind_eq_ok written
  cases written
  have most : ∀ c : Char, c ≠ ';' → c ≠ ';' := fun _ other => other
  have named := key_self most entry.1
  have value := Value.literal_self (bare_allowed most) entry.2
  have lead : Text.Quoted.SameShape (· ≠ ';') "LET $" "LET $" := sameShape_fixed most rfl
  have equals : Text.Quoted.SameShape (· ≠ ';') " = " " = " := sameShape_fixed most rfl
  rw [checked] at named
  rw [encoded] at value
  rcases Validation.key_eq_ok checked with ⟨rfl, -⟩
  refine ⟨"LET $" ++ entry.1 ++ " = " ++ literal, ⟨literal, encoded, rfl⟩, ?_, ?_⟩
  · exact .of_sameShape (((lead.append named).append equals).append value)
  · simp [String.append_assoc]

theorem preamble_eq_ok {b : Bindings} {text : String} (written : b.preamble = .ok text) :
    ∃ declarations : List String, List.Forall₂ Declares b.entries declarations ∧
      (∀ d ∈ declarations, Contained d) ∧ text = String.join (declarations.map (· ++ ";\n")) := by
  obtain ⟨lines, each, written⟩ := exists_of_bind_eq_ok written
  cases written
  have related := mapM_eq_ok_iff.1 each
  clear each written
  generalize b.entries = entries at related
  induction related with
  | nil => exact ⟨[], .nil, by simp, rfl⟩
  | @cons entry text entries lines first _ ih =>
    rcases line_eq_ok first with ⟨declaration, declares, contained, rfl⟩
    rcases ih with ⟨declarations, others, all, same⟩
    refine ⟨declaration :: declarations, .cons declares others, ?_, ?_⟩
    · exact List.forall_mem_cons.2 ⟨contained, all⟩
    · rw [String.join_cons, List.map_cons, String.join_cons, same]

end Bindings

namespace Request.Operation

theorem contained_statement {schema : ModelSchema} {operation : Operation} {query : Query}
    (trusted : ∀ text ∈ operation.trusted schema, Contained text)
    (compiled : operation.query schema = .ok query) : Contained query.statement := by
  have most : ∀ c : Char, c ≠ ';' → c ≠ ';' := fun _ other => other
  have agree := query_masked most fun text mem => (trusted text mem).sameShape
  rw [compiled] at agree
  cases masked : operation.masked.query schema with
  | error cause => rw [masked] at agree; exact agree.elim
  | ok other => rw [masked] at agree; exact .of_sameShape agree.statement

/-- The body of an operation is cut by its semicolons outside literals into one declaration
for each variable and the statement. A literal shows only quotes and bare characters outside
its strings. -/
theorem pieces_body {schema : ModelSchema} {operation : Operation} {query : Query}
    {body : String} (trusted : ∀ text ∈ operation.trusted schema, Contained text)
    (compiled : operation.query schema = .ok query) (rendered : query.render = .ok body) :
    (∃ declarations : List String,
      List.Forall₂ Bindings.Declares query.bindings.entries declarations ∧
      pieces .outside body.toList = onLines (declarations ++ [query.statement])) ∧
    (pieces .outside body.toList).length = query.bindings.size + 1 ∧
    ∀ (value : Value) (literal : String), value.literal = .ok literal →
      isBalanced literal.toList ∧
      ∀ c ∈ skeleton .outside literal.toList, c = '"' ∨ Value.isBareChar c := by
  have statement := contained_statement trusted compiled
  obtain ⟨preamble, written, rendered⟩ := exists_of_bind_eq_ok rendered
  cases rendered
  rcases Bindings.preamble_eq_ok written with ⟨declarations, declares, contained, rfl⟩
  have cut := pieces_lines contained statement
  refine ⟨⟨declarations, declares, cut⟩, ?_, fun value literal encoded => ?_⟩
  · have count : declarations.length = query.bindings.size := declares.length_eq.symm
    rw [cut, ← count]
    cases declarations <;> simp [onLines]
  · have own := Value.literal_self (fun _ bare => bare) value
    rw [encoded] at own
    exact ⟨decide_eq_true own.closed_left, own.bare⟩

/-- Rows are deleted by a name that tries to end its literal and to start a statement. -/
theorem pieces_body_delete :
    ∃ declarations, List.Forall₂ Bindings.Declares [("v", .string ";")] declarations ∧
      pieces .outside
        "LET $v = \";\";\nDELETE users WHERE name = \"\\\"; DROP\" RETURN BEFORE".toList =
          onLines (declarations ++ ["DELETE users WHERE name = \"\\\"; DROP\" RETURN BEFORE"]) := by
  let operation : Operation := .delete
    { filter := { matching := [("name", .string "\"; DROP")] }
      vars := Bindings.ofList [("v", .string ";")] }
  let query : Query := ⟨"DELETE users WHERE name = \"\\\"; DROP\" RETURN BEFORE",
    Bindings.ofList [("v", .string ";")]⟩
  have trusted : ∀ text ∈ operation.trusted (.ofTable "users"), Contained text := by
    intro text mem
    obtain rfl : text = "users" := List.mem_singleton.1 mem
    exact ⟨by decide, by decide⟩
  have compiled : operation.query (.ofTable "users") = .ok query := by rfl
  have rendered : query.render =
      .ok "LET $v = \";\";\nDELETE users WHERE name = \"\\\"; DROP\" RETURN BEFORE" := by rfl
  exact (pieces_body trusted compiled rendered).1

end Request.Operation

end RecordMapper
