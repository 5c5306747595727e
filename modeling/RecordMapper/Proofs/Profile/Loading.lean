import Mathlib.Data.List.Nodup
import Mathlib.Data.List.Perm.Basic
import RecordMapper.Profile.File
import RecordMapper.Proofs.Agreement
import RecordMapper.Proofs.Toml.Tables

/-!
Loading profiles. What a file comes to is one of three: the book of all its profiles, a
profile without endpoint, or a default that is not there (`ProfileBook.comes_ofFile`). Each is
told by the file as a set of entries, so the order in which they are visited decides at most
which of the profiles without endpoint is named. A book that was loaded holds every profile of
its file once and unchanged, and finds each of them, the default among them
(`ProfileBook.loaded_ofFile`). A file that has been read from text names no profile twice, so
the book of a text holds what the text says (`ProfileBook.exists_holds_of_ofText`).
-/

namespace RecordMapper

namespace ProfileEntry

/-- The entry gives an endpoint that is not just blanks. -/
def HasEndpoint (entry : ProfileEntry) : Prop :=
  ∃ endpoint, entry.endpoint = some endpoint ∧ ∃ c ∈ endpoint.toList, ¬Text.isBlank c

/-- The profile of an entry that has an endpoint. -/
def named (name : String) (entry : ProfileEntry) : Profile :=
  ⟨name, entry.endpoint.getD "", entry.options⟩

theorem not_isAllBlank_iff {text : String} :
    Text.isAllBlank text = false ↔ ∃ c ∈ text.toList, ¬Text.isBlank c := by
  simp [Text.isAllBlank]

theorem toProfile_of_hasEndpoint {entry : ProfileEntry} (has : entry.HasEndpoint)
    (name : String) : entry.toProfile name = .ok (entry.named name) := by
  obtain ⟨endpoint, given, solid⟩ := has
  have kept : entry.endpoint.filter (fun endpoint => !Text.isAllBlank endpoint) =
      some endpoint := by
    rw [given, Option.filter_some, not_isAllBlank_iff.2 solid]
    rfl
  rw [toProfile, kept, named, given]
  rfl

theorem toProfile_of_not_hasEndpoint {entry : ProfileEntry} (lacks : ¬entry.HasEndpoint)
    (name : String) : entry.toProfile name = .error (.missingEndpoint name) := by
  have none : entry.endpoint.filter (fun endpoint => !Text.isAllBlank endpoint) = none := by
    refine Option.filter_eq_none_iff.2 fun endpoint given solid => lacks ⟨endpoint, given, ?_⟩
    exact not_isAllBlank_iff.1 (by simpa using solid)
  rw [toProfile, none]

end ProfileEntry

namespace ProfileFile

/-- The names of the profiles of a file. -/
def names (file : ProfileFile) : List String := file.profiles.map Prod.fst

/-- Every profile of the file has an endpoint. -/
def AllEndpoints (file : ProfileFile) : Prop := ∀ entry ∈ file.profiles, entry.2.HasEndpoint

/-- The default of the file, if it names one, is one of its profiles. -/
def DefaultKnown (file : ProfileFile) : Prop :=
  ∀ name, file.defaultName = some name → name ∈ file.names

theorem not_defaultKnown_iff {file : ProfileFile} :
    ¬file.DefaultKnown ↔ ∃ name, file.defaultName = some name ∧ name ∉ file.names := by
  simp [DefaultKnown]

/-- The book of all profiles of a file. -/
def book (file : ProfileFile) : ProfileBook :=
  ⟨file.defaultName, file.profiles.map fun entry => entry.2.named entry.1⟩

/-- The file with its profiles visited in some other order. -/
structure Reorders (visited file : ProfileFile) : Prop where
  defaultName : visited.defaultName = file.defaultName
  profiles : visited.profiles.Perm file.profiles

/-- What a file comes to. -/
inductive Comes (file : ProfileFile) : Except ProfileError ProfileBook → Prop
  | book : file.AllEndpoints → file.DefaultKnown → Comes file (.ok file.book)
  | missingEndpoint {entry : String × ProfileEntry} : entry ∈ file.profiles →
    ¬entry.2.HasEndpoint → Comes file (.error (.missingEndpoint entry.1))
  | profileNotFound {name : String} : file.AllEndpoints → file.defaultName = some name →
    name ∉ file.names → Comes file (.error (.profileNotFound name))

end ProfileFile

namespace ProfileBook

theorem isSome_find?_book (file : ProfileFile) (name : String) :
    (file.book.find? name).isSome ↔ name ∈ file.names := by
  simp [find?, ProfileFile.book, ProfileFile.names, ProfileEntry.named]

theorem mapM_of_allEndpoints {file : ProfileFile} (all : file.AllEndpoints) :
    file.profiles.mapM (fun entry => entry.2.toProfile entry.1) = .ok file.book.profiles := by
  refine mapM_eq_ok_iff.2 (List.forall₂_map_right_iff.2 (List.forall₂_same.2 ?_))
  intro entry mem
  exact ProfileEntry.toProfile_of_hasEndpoint (all entry mem) entry.1

/-- Where all profiles have an endpoint, the default decides. -/
theorem ofFile_of_allEndpoints {file : ProfileFile} (all : file.AllEndpoints) :
    ofFile file = match file.defaultName with
      | none => .ok file.book
      | some name =>
        if (file.book.find? name).isSome then .ok file.book
        else .error (.profileNotFound name) := by
  unfold ofFile
  rw [mapM_of_allEndpoints all]
  rfl

theorem ofFile_of_defaultKnown {file : ProfileFile} (all : file.AllEndpoints)
    (known : file.DefaultKnown) : ofFile file = .ok file.book := by
  rw [ofFile_of_allEndpoints all]
  split
  · rfl
  · rename_i name chosen
    rw [if_pos ((isSome_find?_book file name).2 (known name chosen))]

theorem ofFile_of_default_not_mem {file : ProfileFile} (all : file.AllEndpoints) {name : String}
    (chosen : file.defaultName = some name) (missing : name ∉ file.names) :
    ofFile file = .error (.profileNotFound name) := by
  rw [ofFile_of_allEndpoints all, chosen]
  exact if_neg fun found => missing ((isSome_find?_book file name).1 found)

/-- A profile without endpoint is found, whatever the default. -/
theorem ofFile_of_not_allEndpoints {file : ProfileFile} (lacking : ¬file.AllEndpoints) :
    ∃ entry ∈ file.profiles, ¬entry.2.HasEndpoint ∧
      ofFile file = .error (.missingEndpoint entry.1) := by
  unfold ofFile
  cases read : file.profiles.mapM fun entry => entry.2.toProfile entry.1 with
  | ok profiles =>
    refine absurd (fun entry mem => ?_) lacking
    by_contra lacks
    obtain ⟨profile, fine⟩ := exists_mapM_eq_ok_iff.1 ⟨profiles, read⟩ entry mem
    rw [ProfileEntry.toProfile_of_not_hasEndpoint lacks] at fine
    cases fine
  | error cause =>
    obtain ⟨before, entry, after, split, -, failed⟩ := mapM_eq_error_iff.1 read
    refine ⟨entry, by simp [split], ?_⟩
    by_cases has : entry.2.HasEndpoint
    · rw [ProfileEntry.toProfile_of_hasEndpoint has] at failed
      cases failed
    · rw [ProfileEntry.toProfile_of_not_hasEndpoint has] at failed
      cases failed
      exact ⟨has, rfl⟩

/-- Every file comes to one of three. -/
theorem comes_ofFile (file : ProfileFile) : file.Comes (ofFile file) := by
  by_cases all : file.AllEndpoints
  · by_cases known : file.DefaultKnown
    · rw [ofFile_of_defaultKnown all known]
      exact .book all known
    · obtain ⟨name, chosen, missing⟩ := ProfileFile.not_defaultKnown_iff.1 known
      rw [ofFile_of_default_not_mem all chosen missing]
      exact .profileNotFound all chosen missing
  · obtain ⟨entry, mem, lacks, failed⟩ := ofFile_of_not_allEndpoints all
    rw [failed]
    exact .missingEndpoint mem lacks

theorem ofFile_eq_ok_iff {file : ProfileFile} {book : ProfileBook} :
    ofFile file = .ok book ↔ (file.AllEndpoints ∧ file.DefaultKnown) ∧ book = file.book := by
  constructor
  · intro loaded
    have comes := comes_ofFile file
    rw [loaded] at comes
    cases comes with
    | book all known => exact ⟨⟨all, known⟩, rfl⟩
  · rintro ⟨⟨all, known⟩, rfl⟩
    exact ofFile_of_defaultKnown all known

end ProfileBook

namespace ProfileFile.Reorders

variable {visited file : ProfileFile}

theorem symm (order : visited.Reorders file) : file.Reorders visited :=
  ⟨order.defaultName.symm, order.profiles.symm⟩

theorem trans {other : ProfileFile} (order : visited.Reorders file)
    (further : file.Reorders other) : visited.Reorders other :=
  ⟨order.defaultName.trans further.defaultName, order.profiles.trans further.profiles⟩

theorem mem_iff (order : visited.Reorders file) {entry : String × ProfileEntry} :
    entry ∈ visited.profiles ↔ entry ∈ file.profiles :=
  order.profiles.mem_iff

theorem mem_names_iff (order : visited.Reorders file) {name : String} :
    name ∈ visited.names ↔ name ∈ file.names :=
  (order.profiles.map _).mem_iff

theorem allEndpoints_iff (order : visited.Reorders file) :
    visited.AllEndpoints ↔ file.AllEndpoints :=
  forall_congr' fun _ => imp_congr_left order.mem_iff

theorem defaultKnown_iff (order : visited.Reorders file) :
    visited.DefaultKnown ↔ file.DefaultKnown := by
  simp only [DefaultKnown, order.defaultName, order.mem_names_iff]

end ProfileFile.Reorders

namespace ProfileFile

/-! ## Files that have been read -/

/-- The profiles of a table are named as the table names them. -/
theorem map_fst_profiles? {entries : List (String × Toml.Value)}
    {profiles : List (String × ProfileEntry)}
    (read : profiles? (some (.table entries)) = some profiles) :
    profiles.map Prod.fst = entries.map Prod.fst := by
  unfold profiles? at read
  induction entries generalizing profiles with
  | nil =>
    cases read
    rfl
  | cons entry rest ih =>
    simp only [List.mapM_cons, Option.bind_eq_bind, Option.bind_eq_some_iff,
      Option.map_eq_some_iff] at read
    obtain ⟨_, ⟨profile, -, rfl⟩, others, more, same⟩ := read
    cases same
    rw [List.map_cons, List.map_cons, ih more]

/-- A file that has been read names no profile twice. -/
theorem nodup_names_of_parse? {text : String} {file : ProfileFile}
    (read : (Toml.parse? text).bind ofToml? = some file) : file.names.Nodup := by
  obtain ⟨entries, parsed, read⟩ := Option.bind_eq_some_iff.1 read
  simp only [ofToml?, Option.bind_eq_bind, Option.bind_eq_some_iff] at read
  obtain ⟨profiles, listed, defaultName, -, same⟩ := read
  cases same
  cases found : Members.get? "profiles" entries with
  | none =>
    rw [found] at listed
    cases listed
    exact List.nodup_nil
  | some value =>
    rw [found] at listed
    cases Toml.parse?_ordered parsed with
    | table _ values =>
      have ordered := values _ (Members.mem_of_get?_eq_some found)
      cases ordered with
      | table names _ =>
        rw [ProfileFile.names, map_fst_profiles? listed]
        exact names.nodup
      | _ => cases listed

end ProfileFile

namespace ProfileBook

/-! ## Finding profiles -/

theorem resolve_some_eq_ok_iff {book : ProfileBook} {name : String} {profile : Profile} :
    book.resolve (some name) = .ok profile ↔ book.find? name = some profile := by
  simp only [resolve, Option.some_or]
  cases book.find? name <;> simp

/-- Without a name the default counts. -/
theorem resolve_none_eq {book : ProfileBook} {name : String}
    (chosen : book.defaultName = some name) : book.resolve none = book.resolve (some name) := by
  rw [resolve, resolve, chosen]
  rfl

theorem resolve_none_of_no_default {book : ProfileBook} (unchosen : book.defaultName = none) :
    book.resolve none = .error .noDefaultProfile := by
  rw [resolve, unchosen]
  rfl

theorem of_find?_eq_some {book : ProfileBook} {name : String} {profile : Profile}
    (found : book.find? name = some profile) : profile ∈ book.profiles ∧ profile.name = name :=
  ⟨List.mem_of_find?_eq_some found, by simpa using List.find?_some found⟩

/-- Where every name occurs once, a profile of the book is found by its name. -/
theorem find?_eq_some_iff {book : ProfileBook} (distinct : (book.profiles.map Profile.name).Nodup)
    {name : String} {profile : Profile} :
    book.find? name = some profile ↔ profile ∈ book.profiles ∧ profile.name = name := by
  refine ⟨of_find?_eq_some, fun ⟨mem, named⟩ => ?_⟩
  cases found : book.find? name with
  | none =>
    have passed := List.find?_eq_none.1 found profile mem
    exact absurd named (by simpa using passed)
  | some other =>
    obtain ⟨present, same⟩ := of_find?_eq_some found
    rw [List.inj_on_of_nodup_map distinct present mem (same.trans named.symm)]

/-- Books of the same profiles find the same, if every name occurs once. -/
theorem find?_eq_of_perm {book other : ProfileBook} (perm : book.profiles.Perm other.profiles)
    (distinct : (book.profiles.map Profile.name).Nodup) (name : String) :
    book.find? name = other.find? name := by
  have distinct' : (other.profiles.map Profile.name).Nodup :=
    (perm.map Profile.name).nodup_iff.1 distinct
  refine Option.ext fun profile => ?_
  rw [find?_eq_some_iff distinct, find?_eq_some_iff distinct', perm.mem_iff]

theorem map_name_book (file : ProfileFile) :
    file.book.profiles.map Profile.name = file.names := by
  simp [ProfileFile.book, ProfileFile.names, ProfileEntry.named]

/-! ## Loaded books -/

/-- The book holds every profile of the file once, under its own name and unchanged, and
nothing else; by default it gives the default of the file, and by name each of its profiles. -/
structure Holds (book : ProfileBook) (file : ProfileFile) : Prop where
  once : (book.profiles.map Profile.name).Nodup
  present : ∀ entry ∈ file.profiles, ∃ profile ∈ book.profiles, profile.name = entry.1 ∧
    entry.2.endpoint = some profile.endpoint ∧ entry.2.options = profile.options
  known : ∀ profile ∈ book.profiles, ∃ entry ∈ file.profiles, profile.name = entry.1 ∧
    entry.2.endpoint = some profile.endpoint ∧ entry.2.options = profile.options
  resolve_default : ∀ name, file.defaultName = some name → ∃ profile,
    book.default? = some profile ∧ profile.name = name ∧ book.resolve none = .ok profile
  resolve_no_default : file.defaultName = none → book.resolve none = .error .noDefaultProfile
  resolve_none_found : ∀ name, book.resolve none ≠ .error (.profileNotFound name)
  resolve_some : ∀ name, (∃ profile, book.resolve (some name) = .ok profile) ↔ name ∈ file.names
  name_resolve : ∀ name profile, book.resolve (some name) = .ok profile →
    profile ∈ book.profiles ∧ profile.name = name

theorem holds_book {file : ProfileFile} (distinct : file.names.Nodup) (all : file.AllEndpoints)
    (default : file.DefaultKnown) : file.book.Holds file := by
  have named (entry : String × ProfileEntry) (mem : entry ∈ file.profiles) :
      entry.2.endpoint = some (entry.2.named entry.1).endpoint := by
    obtain ⟨endpoint, given, -⟩ := all entry mem
    rw [ProfileEntry.named, given, Option.getD_some]
  have found (name : String) :
      (∃ profile, file.book.resolve (some name) = .ok profile) ↔ name ∈ file.names := by
    simp only [resolve_some_eq_ok_iff, ← isSome_find?_book, Option.isSome_iff_exists]
  have chosen (name : String) (given : file.defaultName = some name) : ∃ profile,
      file.book.default? = some profile ∧ profile.name = name ∧
        file.book.resolve none = .ok profile := by
    obtain ⟨profile, resolved⟩ := (found name).2 (default name given)
    have same : file.book.defaultName = some name := given
    have present := resolve_some_eq_ok_iff.1 resolved
    refine ⟨profile, ?_, (of_find?_eq_some present).2, ?_⟩
    · rw [default?, same, Option.bind_some, present]
    · rw [resolve_none_eq same, resolved]
  constructor
  case once => exact map_name_book file ▸ distinct
  case present =>
    intro entry mem
    exact ⟨entry.2.named entry.1, List.mem_map.2 ⟨entry, mem, rfl⟩, rfl, named entry mem, rfl⟩
  case known =>
    intro profile mem
    obtain ⟨entry, listed, rfl⟩ := List.mem_map.1 mem
    exact ⟨entry, listed, rfl, named entry listed, rfl⟩
  case resolve_default => exact chosen
  case resolve_no_default => exact fun given => resolve_none_of_no_default given
  case resolve_none_found =>
    intro name failed
    cases given : file.defaultName with
    | none =>
      rw [resolve_none_of_no_default given] at failed
      cases failed
    | some default =>
      obtain ⟨profile, -, -, resolved⟩ := chosen default given
      rw [resolved] at failed
      cases failed
  case resolve_some => exact found
  case name_resolve =>
    intro name profile resolved
    exact of_find?_eq_some (resolve_some_eq_ok_iff.1 resolved)

/-- The book of a text holds the file that is read from the text. -/
theorem exists_holds_of_ofText [Wording] {text : String} {path : Option String}
    {book : ProfileBook} (loaded : ofText text path = .ok book) :
    ∃ file, (Toml.parse? text).bind ProfileFile.ofToml? = some file ∧ book.Holds file := by
  unfold ofText at loaded
  split at loaded
  case h_1 file read =>
    obtain ⟨⟨all, known⟩, rfl⟩ := ofFile_eq_ok_iff.1 loaded
    exact ⟨file, read, holds_book (ProfileFile.nodup_names_of_parse? read) all known⟩
  case h_2 => cases loaded

theorem Holds.of_reorders {book : ProfileBook} {visited file : ProfileFile}
    (holds : book.Holds visited) (order : visited.Reorders file) : book.Holds file where
  once := holds.once
  present entry mem := holds.present entry (order.mem_iff.2 mem)
  known profile mem := by
    obtain ⟨entry, listed, same⟩ := holds.known profile mem
    exact ⟨entry, order.mem_iff.1 listed, same⟩
  resolve_default name given := holds.resolve_default name (order.defaultName.trans given)
  resolve_no_default given := holds.resolve_no_default (order.defaultName.trans given)
  resolve_none_found := holds.resolve_none_found
  resolve_some name := (holds.resolve_some name).trans order.mem_names_iff
  name_resolve := holds.name_resolve

/-- Two outcomes of loading are alike: the same profiles under the same names, some profile
without endpoint, or the same unknown default. -/
inductive Alike : Except ProfileError ProfileBook → Except ProfileError ProfileBook → Prop
  | book {book other : ProfileBook} : book.defaultName = other.defaultName →
    book.profiles.Perm other.profiles → (∀ name, book.find? name = other.find? name) →
    Alike (.ok book) (.ok other)
  | missingEndpoint (name other : String) :
    Alike (.error (.missingEndpoint name)) (.error (.missingEndpoint other))
  | profileNotFound (name : String) :
    Alike (.error (.profileNotFound name)) (.error (.profileNotFound name))

/-- The order in which the profiles of a file are visited decides at most which of those
without endpoint is named. -/
theorem alike_ofFile {visited other : ProfileFile} (distinct : visited.names.Nodup)
    (order : visited.Reorders other) : Alike (ofFile visited) (ofFile other) := by
  by_cases all : visited.AllEndpoints
  · have all' := order.allEndpoints_iff.1 all
    by_cases known : visited.DefaultKnown
    · have perm : visited.book.profiles.Perm other.book.profiles := order.profiles.map _
      rw [ofFile_of_defaultKnown all known,
        ofFile_of_defaultKnown all' (order.defaultKnown_iff.1 known)]
      exact .book order.defaultName perm (find?_eq_of_perm perm (map_name_book visited ▸ distinct))
    · obtain ⟨name, chosen, missing⟩ := ProfileFile.not_defaultKnown_iff.1 known
      rw [ofFile_of_default_not_mem all chosen missing,
        ofFile_of_default_not_mem all' (order.defaultName ▸ chosen)
          (fun mem => missing (order.mem_names_iff.2 mem))]
      exact .profileNotFound name
  · obtain ⟨entry, -, -, failed⟩ := ofFile_of_not_allEndpoints all
    obtain ⟨entry', -, -, failed'⟩ :=
      ofFile_of_not_allEndpoints fun all' => all (order.allEndpoints_iff.2 all')
    rw [failed, failed']
    exact .missingEndpoint entry.1 entry'.1

/-- Whatever the order in which the profiles of a file are visited, the file is loaded just
where each of them has an endpoint and the default, if any, is one of them. A profile without
endpoint is reported even where the default is unknown, and else the unknown default is. The
book that is loaded holds the profiles of the file and finds them, and any other order comes
to the like. -/
theorem loaded_ofFile {visited file : ProfileFile} (distinct : file.names.Nodup)
    (order : visited.Reorders file) :
    ((∃ book, ofFile visited = .ok book) ↔ file.AllEndpoints ∧ file.DefaultKnown) ∧
    (¬file.AllEndpoints → ∃ entry ∈ file.profiles, ¬entry.2.HasEndpoint ∧
      ofFile visited = .error (.missingEndpoint entry.1)) ∧
    (file.AllEndpoints → ∀ name, file.defaultName = some name → name ∉ file.names →
      ofFile visited = .error (.profileNotFound name)) ∧
    (∀ book, ofFile visited = .ok book → book.Holds file) ∧
    ∀ other : ProfileFile, other.Reorders file → Alike (ofFile visited) (ofFile other) := by
  have distinct' : visited.names.Nodup := (order.profiles.map Prod.fst).nodup_iff.2 distinct
  refine ⟨?_, fun lacking => ?_, fun all name chosen missing => ?_, fun book loaded => ?_,
    fun other reorders => ?_⟩
  · simp only [ofFile_eq_ok_iff, exists_and_left, exists_eq, and_true, order.allEndpoints_iff,
      order.defaultKnown_iff]
  · obtain ⟨entry, mem, lacks, failed⟩ :=
      ofFile_of_not_allEndpoints fun all => lacking (order.allEndpoints_iff.1 all)
    exact ⟨entry, order.mem_iff.1 mem, lacks, failed⟩
  · exact ofFile_of_default_not_mem (order.allEndpoints_iff.2 all)
      (order.defaultName.trans chosen) (fun mem => missing (order.mem_names_iff.1 mem))
  · obtain ⟨⟨all, known⟩, rfl⟩ := ofFile_eq_ok_iff.1 loaded
    exact (holds_book distinct' all known).of_reorders order
  · exact alike_ofFile distinct' (order.trans reorders.symm)

/-- Two profiles, of which the default is visited first although it is written last. -/
theorem loaded_ofFile_two :
    let home : String × ProfileEntry := ("local", { endpoint := some "http://db" })
    let cloud : String × ProfileEntry :=
      ("cloud", { endpoint := some " https://db", options := { token := some "key" } })
    let file : ProfileFile := { defaultName := some "cloud", profiles := [home, cloud] }
    let visited : ProfileFile := { file with profiles := [cloud, home] }
    file.names.Nodup ∧ visited.Reorders file ∧
      ∃ book, ofFile visited = .ok book ∧ book.Holds file ∧
        Alike (ofFile visited) (ofFile file) := by
  intro home cloud file visited
  have distinct : file.names.Nodup := by decide
  have order : visited.Reorders file := ⟨rfl, .swap _ _ _⟩
  have all : file.AllEndpoints := by
    refine List.forall_mem_cons.2 ⟨⟨_, rfl, 'h', by decide, by decide⟩, ?_⟩
    exact List.forall_mem_singleton.2 ⟨_, rfl, 'h', by decide, by decide⟩
  have known : file.DefaultKnown := by
    rintro name ⟨⟩
    decide
  obtain ⟨loads, -, -, holds, alike⟩ := loaded_ofFile distinct order
  obtain ⟨book, loaded⟩ := loads.2 ⟨all, known⟩
  exact ⟨distinct, order, book, loaded, holds book loaded, alike file ⟨rfl, .refl _⟩⟩

end ProfileBook

end RecordMapper
