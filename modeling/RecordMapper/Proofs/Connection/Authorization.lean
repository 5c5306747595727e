import RecordMapper.Connection.Options
import RecordMapper.Proofs.Connection.Base64
import RecordMapper.Proofs.Identifier
import RecordMapper.Proofs.Text.Order

/-!
What the authorization header tells. Where there is no token, user and password are joined by a
colon and stand in base64 (`Options.authorization?_of_basic`), from which the bytes of both are read
back. So the header tells one user from another, and one password from another, where no user name
holds a colon (`Options.authorization_basic`). A token goes before them even if it is set in a layer
below (`Options.authorization?_merged_of_password`).
-/

namespace RecordMapper.Connection.Options

/-- The header is `Basic`: there is no token, and a user or a password is set. -/
structure Basic (options : Options) : Prop where
  token : options.token = none
  set : options.user.isSome ∨ options.pass.isSome

/-- User and password, joined by a colon; what is unset is empty. -/
def pair (options : Options) : String :=
  options.user.getD "" ++ ":" ++ options.pass.getD ""

theorem bytes_pair (options : Options) :
    Text.bytes options.pair =
      Text.bytes (options.user.getD "") ++ 0x3A :: Text.bytes (options.pass.getD "") := by
  have colon : Text.bytes ":" = [0x3A] := by decide
  rw [pair, Text.bytes_append, Text.bytes_append, colon, List.append_assoc, List.singleton_append]

/-- The first colon ends the user, if the user holds none itself. -/
theorem cut_pair {options : Options} (plain : ':' ∉ (options.user.getD "").toList) :
    Identifier.cut ':' options.pair.toList =
      ((options.user.getD "").toList, some (options.pass.getD "").toList) := by
  have text : options.pair.toList =
      (options.user.getD "").toList ++ ':' :: (options.pass.getD "").toList := by
    rw [pair, String.toList_append, String.toList_append, List.append_assoc]
    rfl
  rw [text, Identifier.cut_append plain]

theorem authorization?_of_basic {options : Options} (basic : options.Basic) :
    options.authorization? = some ("Basic " ++ Base64.encodeText options.pair) := by
  have present : (options.user.isNone && options.pass.isNone) = false := by
    have set := basic.set
    cases user : options.user <;> cases pass : options.pass <;> simp_all
  rw [authorization?, basic.token, present]
  rfl

theorem authorization?_of_password {options : Options} {user pass : String}
    (token : options.token = none) (userSet : options.user = some user)
    (passSet : options.pass = some pass) :
    options.authorization? = some ("Basic " ++ Base64.encodeText (user ++ ":" ++ pass)) := by
  rw [authorization?_of_basic ⟨token, .inl (userSet ▸ rfl)⟩, pair, userSet, passSet]
  rfl

/-- A token counts before user and password. -/
theorem authorization?_of_token {options : Options} {token : String}
    (set : options.token = some token) : options.authorization? = some ("Bearer " ++ token) := by
  rw [authorization?, set]

/-- Above a layer that has a token, user and password do not count. -/
theorem authorization?_merged_of_password {below above : Options} {user pass : String}
    (token : above.token = none) (userSet : above.user = some user)
    (passSet : above.pass = some pass) :
    (below.token = none → (below.merged above).authorization? =
      some ("Basic " ++ Base64.encodeText (user ++ ":" ++ pass))) ∧
    ∀ token, below.token = some token →
      (below.merged above).authorization? = some ("Bearer " ++ token) := by
  have merged : (below.merged above).token = below.token := by
    rw [Options.merged, token, Option.none_or]
  constructor
  · intro unset
    refine authorization?_of_password (merged.trans unset) ?_ ?_
    · rw [Options.merged, userSet, Option.some_or]
    · rw [Options.merged, passSet, Option.some_or]
  · intro token set
    exact authorization?_of_token (merged.trans set)

/-- A layer without credentials leaves those below. -/
theorem authorization?_merged_of_none {below above : Options} (token : above.token = none)
    (user : above.user = none) (pass : above.pass = none) :
    (below.merged above).authorization? = below.authorization? := by
  simp only [authorization?, Options.merged, token, user, pass, Option.none_or]

/-- The same header comes of the same pair only. -/
theorem pair_eq_of_authorization? {options other : Options} (basic : options.Basic)
    (otherBasic : other.Basic) (same : options.authorization? = other.authorization?) :
    options.pair = other.pair := by
  rw [authorization?_of_basic basic, authorization?_of_basic otherBasic, Option.some.injEq,
    String.append_right_inj] at same
  have encoded : Base64.encode (Text.bytes options.pair) = Base64.encode (Text.bytes other.pair) :=
    String.ofList_injective same
  have decoded := Base64.decode?_encode (Text.bytes options.pair)
  rw [encoded, Base64.decode?_encode, Option.some.injEq] at decoded
  exact (Text.bytes_inj.1 decoded).symm

/-- Pairs in which the users hold no colon are the same only if both parts are. -/
theorem parts_of_pair_eq {options other : Options} (same : options.pair = other.pair)
    (plain : ':' ∉ (options.user.getD "").toList) (otherPlain : ':' ∉ (other.user.getD "").toList) :
    options.user.getD "" = other.user.getD "" ∧ options.pass.getD "" = other.pass.getD "" := by
  have cut := cut_pair plain
  rw [same, cut_pair otherPlain, Prod.mk.injEq, Option.some.injEq, String.toList_inj,
    String.toList_inj] at cut
  exact ⟨cut.1.symm, cut.2.symm⟩

/-- Without a token, but with a user or a password, the header is `Basic` and base64 text, of which
the length is a multiple of four. The text spells the bytes of the user, a colon and those of the
password, it is decoded to these, and no other text is. Where neither of two users holds a colon,
the headers are the same just if the users are, and the passwords too; what is unset is empty. -/
theorem authorization_basic {options : Options} (basic : options.Basic) :
    let bytes := Text.bytes (options.user.getD "") ++ 0x3A :: Text.bytes (options.pass.getD "")
    (∃ text : String, options.authorization? = some ("Basic " ++ text) ∧
      Base64.Spells bytes text.toList ∧ text.length % 4 = 0 ∧
      ∀ other : String, Base64.decode? other.toList = some bytes ↔ other = text) ∧
    ∀ other : Options, other.Basic → ':' ∉ (options.user.getD "").toList →
      ':' ∉ (other.user.getD "").toList →
      (options.authorization? = other.authorization? ↔
        options.user.getD "" = other.user.getD "" ∧ options.pass.getD "" = other.pass.getD "") := by
  intro bytes
  have written : (Base64.encodeText options.pair).toList = Base64.encode bytes := by
    rw [Base64.encodeText, String.toList_ofList]
    exact congrArg Base64.encode options.bytes_pair
  refine ⟨⟨Base64.encodeText options.pair, authorization?_of_basic basic, ?_, ?_, ?_⟩, ?_⟩
  · rw [written]
    exact Base64.spells_encode bytes
  · rw [← String.length_toList, written, Base64.length_encode]
    exact Nat.mul_mod_left _ 4
  · intro other
    rw [Base64.decode?_eq_some_iff, ← written, String.toList_inj]
  · intro other otherBasic plain otherPlain
    constructor
    · intro same
      exact parts_of_pair_eq (pair_eq_of_authorization? basic otherBasic same) plain otherPlain
    · rintro ⟨user, pass⟩
      rw [authorization?_of_basic basic, authorization?_of_basic otherBasic, pair, pair, user, pass]

/-- A user whose name is not ASCII, and a password that is unset or empty. -/
theorem authorization_basic_unset :
    let options : Options := { user := some "zoë" }
    let empty : Options := { user := some "zoë", pass := some "" }
    let bytes := Text.bytes (options.user.getD "") ++ 0x3A :: Text.bytes (options.pass.getD "")
    options.Basic ∧
    (∃ text : String, options.authorization? = some ("Basic " ++ text) ∧
      Base64.Spells bytes text.toList ∧ text.length % 4 = 0 ∧
      ∀ other : String, Base64.decode? other.toList = some bytes ↔ other = text) ∧
    bytes = [0x7A, 0x6F, 0xC3, 0xAB, 0x3A] ∧
    empty.Basic ∧ ':' ∉ (options.user.getD "").toList ∧ ':' ∉ (empty.user.getD "").toList ∧
    options.authorization? = empty.authorization? := by
  intro options empty bytes
  have basic : options.Basic := ⟨rfl, by decide⟩
  have emptyBasic : empty.Basic := ⟨rfl, by decide⟩
  have plain : ':' ∉ (options.user.getD "").toList := by decide
  have known := authorization_basic basic
  exact ⟨basic, known.1, by decide, emptyBasic, plain, plain,
    (known.2 empty emptyBasic plain plain).2 ⟨rfl, rfl⟩⟩

end RecordMapper.Connection.Options
