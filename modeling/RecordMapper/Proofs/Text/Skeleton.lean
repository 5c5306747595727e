import Mathlib.Data.List.Forall2
import RecordMapper.Text.Quoted

/-!
Skeletons of texts. The double-quote scan of `Text.Quoted` divides a text into literals and
the rest; `skeleton` takes the contents of the literals out and leaves the quotes.
`pieces` cuts a text at the semicolons that stand outside literals.

* `SameShape allowed a b`: both texts close every literal they open, they have one skeleton,
  and outside their literals only allowed characters occur. This is the relation that
  concatenation respects, whatever the literals hold.
* `pieces_append`: a text without semicolon outside literals is glued to the first piece of
  what follows it.
-/

namespace RecordMapper.Text.Quoted

/-- The text without the contents of its literals. -/
def skeleton : Scan → List Char → List Char
  | _, [] => []
  | .outside, c :: rest => c :: skeleton (Scan.outside.step c) rest
  | .inside, c :: rest =>
    if c = '"' then c :: skeleton .outside rest else skeleton (Scan.inside.step c) rest
  | .afterBackslash, _ :: rest => skeleton .inside rest

/-- The parts of a text between its semicolons outside literals. There is always one. -/
def pieces : Scan → List Char → List (List Char)
  | _, [] => [[]]
  | state, c :: rest =>
    if state = .outside ∧ c = ';' then [] :: pieces .outside rest
    else (pieces (state.step c) rest).modifyHead (c :: ·)

/-! ## Scanning a concatenation -/

theorem Scan.run_append (state : Scan) (a b : List Char) :
    state.run (a ++ b) = (state.run a).run b :=
  List.foldl_append

@[simp] theorem Scan.run_nil (state : Scan) : state.run [] = state := rfl

@[simp] theorem Scan.run_cons (state : Scan) (c : Char) (rest : List Char) :
    state.run (c :: rest) = (state.step c).run rest := rfl

theorem skeleton_append (state : Scan) (a b : List Char) :
    skeleton state (a ++ b) = skeleton state a ++ skeleton (state.run a) b := by
  induction a generalizing state with
  | nil => cases state <;> rfl
  | cons c a ih =>
    cases state with
    | outside => simp [skeleton, ih]
    | afterBackslash => simp [skeleton, ih, Scan.step]
    | inside =>
      by_cases closing : c = '"'
      · simp [skeleton, ih, Scan.step, closing]
      · simp [skeleton, ih, closing]

theorem mem_skeleton_cons {state : Scan} {c d : Char} {text : List Char}
    (mem : d ∈ skeleton (state.step c) text) : d ∈ skeleton state (c :: text) := by
  cases state with
  | outside => exact List.mem_cons_of_mem _ mem
  | afterBackslash => exact mem
  | inside =>
    by_cases closing : c = '"'
    · subst closing
      exact List.mem_cons_of_mem _ mem
    · simpa only [skeleton, closing, if_false] using mem

/-- A quoted text shows nothing but its quotes. -/
theorem skeleton_escape (content : List Char) : skeleton .inside (escape content) = [] := by
  induction content with
  | nil => rfl
  | cons c content ih =>
    by_cases special : isSpecial c
    · simpa [escape, special, skeleton, Scan.step] using ih
    · have notQuote : c ≠ '"' := by rintro rfl; exact special rfl
      have notBackslash : c ≠ '\\' := by rintro rfl; exact special rfl
      simpa [escape, special, skeleton, Scan.step, notQuote, notBackslash] using ih

/-- A text without quotes is scanned outside literals from end to end. -/
theorem run_of_no_quote {text : List Char} (noQuote : '"' ∉ text) :
    Scan.run .outside text = .outside ∧ skeleton .outside text = text := by
  induction text with
  | nil => exact ⟨rfl, rfl⟩
  | cons c rest ih =>
    rcases not_or.1 (mt List.mem_cons.2 noQuote) with ⟨different, later⟩
    have stays : Scan.outside.step c = .outside := by simp [Scan.step, Ne.symm different]
    rcases ih later with ⟨run, bare⟩
    exact ⟨by rw [Scan.run_cons, stays, run], by rw [skeleton, stays, bare]⟩

/-- The scan of the text stands outside literals at every place of it, and takes nothing out. -/
structure StaysOutside (text : String) : Prop where
  run_eq : ∀ before, before <+: text.toList → Scan.run .outside before = .outside
  skeleton_eq : skeleton .outside text.toList = text.toList

theorem staysOutside_of_no_quote {text : String} (noQuote : '"' ∉ text.toList) :
    StaysOutside text where
  run_eq _ start := (run_of_no_quote fun mem => noQuote (start.mem mem)).1
  skeleton_eq := (run_of_no_quote noQuote).2

/-! ## Cutting a concatenation -/

/-- A text without semicolon outside literals belongs to one piece with what follows it. -/
theorem pieces_append {state : Scan} {text : List Char} (whole : ';' ∉ skeleton state text)
    (tail : List Char) :
    pieces state (text ++ tail) = (pieces (state.run text) tail).modifyHead (text ++ ·) := by
  induction text generalizing state with
  | nil => cases parts : pieces state tail <;> simp [parts]
  | cons c text ih =>
    have uncut : ¬(state = .outside ∧ c = ';') := by
      rintro ⟨rfl, rfl⟩
      exact whole (by simp [skeleton])
    have later : ';' ∉ skeleton (state.step c) text := mt mem_skeleton_cons whole
    rw [List.cons_append, pieces, if_neg uncut, ih later, Scan.run_cons]
    cases pieces (Scan.run (state.step c) text) tail <;> simp

/-- A text that is closed and has no semicolon outside literals is one piece, and a
semicolon after it ends that piece. -/
theorem pieces_append_semicolon {text : List Char} (closed : Scan.run .outside text = .outside)
    (whole : ';' ∉ skeleton .outside text) (tail : List Char) :
    pieces .outside (text ++ ';' :: tail) = text :: pieces .outside tail := by
  rw [pieces_append whole, closed, pieces, if_pos ⟨rfl, rfl⟩]
  simp

theorem pieces_of_whole {text : List Char} (closed : Scan.run .outside text = .outside)
    (whole : ';' ∉ skeleton .outside text) : pieces .outside text = [text] := by
  have cut := pieces_append whole []
  rw [List.append_nil, closed] at cut
  simpa [pieces] using cut

/-! ## Texts of one shape -/

/-- Both texts close every literal they open, have one skeleton, and show only allowed
characters and quotes outside their literals. -/
structure SameShape (allowed : Char → Prop) (a b : String) : Prop where
  closed_left : Scan.run .outside a.toList = .outside
  closed_right : Scan.run .outside b.toList = .outside
  skeleton_eq : skeleton .outside a.toList = skeleton .outside b.toList
  bare : ∀ c ∈ skeleton .outside a.toList, c = '"' ∨ allowed c

namespace SameShape

variable {allowed : Char → Prop} {a b c d : String}

theorem symm (h : SameShape allowed a b) : SameShape allowed b a :=
  ⟨h.closed_right, h.closed_left, h.skeleton_eq.symm, h.skeleton_eq ▸ h.bare⟩

theorem trans (h : SameShape allowed a b) (k : SameShape allowed b c) : SameShape allowed a c :=
  ⟨h.closed_left, k.closed_right, h.skeleton_eq.trans k.skeleton_eq, h.bare⟩

theorem append (h : SameShape allowed a b) (k : SameShape allowed c d) :
    SameShape allowed (a ++ c) (b ++ d) where
  closed_left := by rw [String.toList_append, Scan.run_append, h.closed_left, k.closed_left]
  closed_right := by rw [String.toList_append, Scan.run_append, h.closed_right, k.closed_right]
  skeleton_eq := by
    rw [String.toList_append, String.toList_append, skeleton_append, skeleton_append,
      h.closed_left, h.closed_right, h.skeleton_eq, k.skeleton_eq]
  bare := by
    intro x mem
    rw [String.toList_append, skeleton_append, h.closed_left, List.mem_append] at mem
    exact mem.elim (h.bare x) (k.bare x)

/-- A text of allowed characters without quotes has its own shape. -/
theorem of_plain {text : String} (plain : ∀ c ∈ text.toList, c ≠ '"' ∧ allowed c) :
    SameShape allowed text text := by
  have noQuote : '"' ∉ text.toList := fun mem => (plain _ mem).1 rfl
  rcases run_of_no_quote noQuote with ⟨closed, bare⟩
  refine ⟨closed, closed, rfl, fun c mem => .inr ?_⟩
  rw [bare] at mem
  exact (plain c mem).2

/-- Literals of strings have one shape, whatever the strings. -/
theorem quoted (s t : String) : SameShape allowed (Text.quoted s) (Text.quoted t) := by
  have shown (s : String) : Scan.run .outside (Text.quoted s).toList = .outside ∧
      skeleton .outside (Text.quoted s).toList = ['"', '"'] := by
    have split : (Text.quoted s).toList = '"' :: (escape s.toList ++ ['"']) := by
      simp [Text.quoted, Text.escape]
    have opened : Scan.outside.step '"' = .inside := rfl
    rw [split, Scan.run_cons, skeleton, opened, Scan.run_append, skeleton_append, scan_escape,
      skeleton_escape]
    exact ⟨rfl, rfl⟩
  refine ⟨(shown s).1, (shown t).1, (shown s).2.trans (shown t).2.symm, fun c mem => .inl ?_⟩
  rw [(shown s).2] at mem
  simpa using mem

/-- Joining texts of one shape by a separator keeps the shape. -/
theorem intercalate {separator : String} (sep : SameShape allowed separator separator)
    {texts others : List String} (h : List.Forall₂ (SameShape allowed) texts others) :
    SameShape allowed (separator.intercalate texts) (separator.intercalate others) := by
  induction h with
  | nil => exact of_plain (by simp)
  | cons first rest ih =>
    cases rest with
    | nil => simpa using first
    | cons second rest =>
      rw [String.intercalate_cons_cons, String.intercalate_cons_cons]
      exact (first.append sep).append ih

/-- Putting texts of one shape after each other keeps the shape. -/
theorem join {texts others : List String} (h : List.Forall₂ (SameShape allowed) texts others) :
    SameShape allowed (String.join texts) (String.join others) := by
  induction h with
  | nil => exact of_plain (by simp [String.join])
  | cons first _ ih =>
    rw [String.join_cons, String.join_cons]
    exact first.append ih

end SameShape

end RecordMapper.Text.Quoted
