import RecordMapper.Proofs.Statement.Shape

/-!
Independence. What a request body looks like outside its literals does not depend on what
the strings in the values of a request are: two operations with one masked form give bodies
with one skeleton, or are refused with one error. Each of the two is compared with the
masked form, for which `Shape` holds the walk through the operations.
-/

namespace RecordMapper

open Text.Quoted (SameShape isBalanced skeleton)

/-- Every character may stand outside literals. -/
def anyChar (_ : Char) : Prop := True

theorem sameShape_of_isBalanced {text : String} (balanced : isBalanced text.toList) :
    SameShape anyChar text text :=
  ⟨of_decide_eq_true balanced, of_decide_eq_true balanced, rfl, fun _ _ => .inr trivial⟩

/-! ## Rendering -/

theorem Bindings.line_sameShape {entry other : String × Value}
    (same : SameEntry anyChar entry other) :
    Agree (Text.Quoted.SameShape anyChar) (line entry) (line other) := by
  have most : ∀ c : Char, c ≠ ';' → anyChar c := fun _ _ => trivial
  have lead : Text.Quoted.SameShape anyChar "LET $" "LET $" := sameShape_fixed most rfl
  have equals : Text.Quoted.SameShape anyChar " = " " = " := sameShape_fixed most rfl
  have trail : Text.Quoted.SameShape anyChar ";\n" ";\n" := .of_plain (by simp [anyChar])
  have named := key_self most entry.1
  unfold line
  rw [← same.name_eq]
  refine named.bind fun _ _ name => same.literals.bind fun _ _ literal => .pure ?_
  exact (((lead.append name).append equals).append literal).append trail

theorem Bindings.preamble_sameShape {b c : Bindings} (same : b.SameShape anyChar c) :
    Agree (Text.Quoted.SameShape anyChar) b.preamble c.preamble := by
  have lines : List.Forall₂
      (fun entry other => Agree (Text.Quoted.SameShape anyChar) (line entry) (line other))
      b.entries c.entries := same.imp fun _ _ => line_sameShape
  exact (Agree.mapM lines).bind fun _ _ related => .pure (.join related)

theorem Query.render_sameShape {q r : Query} (same : q.SameShape anyChar r) :
    Agree (Text.Quoted.SameShape anyChar) q.render r.render :=
  (Bindings.preamble_sameShape same.bindings).bind fun _ _ preamble =>
    .pure (preamble.append same.statement)

/-! ## Operations -/

namespace Request.Operation

theorem trusted_masked (schema : ModelSchema) (operation : Operation) :
    operation.masked.trusted schema = operation.trusted schema := by
  cases operation <;> rfl

theorem body_masked {schema : ModelSchema} {operation : Operation}
    (trusted : ∀ text ∈ operation.trusted schema, isBalanced text.toList) :
    Agree (SameShape anyChar) (operation.body schema) (operation.masked.body schema) := by
  have shapes : ∀ text ∈ operation.trusted schema, SameShape anyChar text text := by
    intro text mem
    exact sameShape_of_isBalanced (trusted text mem)
  have queries := query_masked (fun _ _ => trivial) shapes
  exact queries.bind fun _ _ same => Query.render_sameShape same

/-- Operations that differ only in the strings of their values have bodies that differ only
inside literals, or they fail with one error. -/
theorem skeleton_body_eq {schema : ModelSchema} {a b : Operation} (same : a.masked = b.masked)
    (trusted : ∀ text ∈ a.trusted schema, isBalanced text.toList) :
    Agree (fun x y => skeleton .outside x.toList = skeleton .outside y.toList)
      (a.body schema) (b.body schema) := by
  have trusted' : ∀ text ∈ b.trusted schema, isBalanced text.toList := by
    rw [← trusted_masked, ← same, trusted_masked]
    exact trusted
  have left := body_masked trusted
  have right := (body_masked trusted').symm fun _ _ related => related.symm
  rw [← same] at right
  have shapes := left.trans (fun _ _ _ first second => first.trans second) right
  exact shapes.mono fun _ _ related => related.skeleton_eq

/-- Two rows are asked for by different names, of which one holds a quote and a semicolon. -/
theorem skeleton_body_findMany :
    let a : Operation := .findMany { filter := { matching := [("name", .string "Ann")] } }
    let b : Operation := .findMany { filter := { matching := [("name", .string "\"; DROP")] } }
    a.masked = b.masked ∧
    Agree (fun x y => skeleton .outside x.toList = skeleton .outside y.toList)
      (a.body (.ofTable "users")) (b.body (.ofTable "users")) := by
  refine ⟨rfl, skeleton_body_eq rfl fun text mem => ?_⟩
  obtain rfl : text = "users" := List.mem_singleton.1 mem
  decide

end Request.Operation

end RecordMapper
