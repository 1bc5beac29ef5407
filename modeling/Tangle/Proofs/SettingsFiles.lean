/-
This file says where settings come from. Two files are looked for, one after the
other, each from a directory up to the root of all files, and the nearest file of its
name is the only one that is opened. A file that cannot be used is told apart in two
ways. If it may not be read, its text is not JSON, or its value is not of the right
kind, settings are looked for elsewhere. If its bytes are no text, or a number has too
many digits, it is all over.

So a package file without a section hides the sections of all package files above it,
and a single byte can keep the settings of another file from being found.
-/

import Tangle.Json.Access
import Tangle.Proofs.Settings
import Tangle.Proofs.Storage

namespace Tangle.Config

open Text (CodePoint)

/-! ### Directories upwards -/

theorem isChain_beginnings (names : List String) :
    (beginnings names).IsChain fun longer shorter => longer ≠ [] ∧ shorter = longer.dropLast := by
  induction names with
  | nil => exact .singleton _
  | cons last above inductionHypothesis =>
    rw [beginnings]
    cases above with
    | nil => simp [beginnings]
    | cons next further =>
      rw [beginnings] at inductionHypothesis ⊢
      exact List.isChain_cons_cons.mpr ⟨⟨by simp, by simp⟩, inductionHypothesis⟩

theorem head?_beginnings (names : List String) : (beginnings names).head? = some names.reverse := by
  cases names <;> rfl

theorem getLast?_beginnings (names : List String) : (beginnings names).getLast? = some [] := by
  induction names with
  | nil => rfl
  | cons last above inductionHypothesis =>
    rw [beginnings, List.getLast?_cons, inductionHypothesis]
    rfl

/-- The search starts at the place itself, goes from each directory to the one above it, and ends at
the root of all files. -/
theorem isChain_upwards (start : Location) :
    (upwards start).head? = some start ∧
      (upwards start).IsChain (fun lower upper => lower ≠ .top ∧ upper = lower.parent) ∧
      (upwards start).getLast? = some .top := by
  rw [upwards]
  refine ⟨?_, ?_, ?_⟩
  · rw [List.head?_map, head?_beginnings, List.reverse_reverse]
    rfl
  · rw [List.isChain_map]
    refine (isChain_beginnings _).imp fun longer shorter step => ?_
    obtain ⟨nonempty, rfl⟩ := step
    exact ⟨fun top => nonempty (Location.mk.inj top), rfl⟩
  · rw [List.getLast?_map, getLast?_beginnings]
    rfl

/-! ### The nearest file -/

section

variable (workspace : Workspace) (start : Location) (name : String)

/-- The file of a name in a directory, if there is one. -/
def fileIn (directory : Location) : Except AccessError (Option StoredFile) :=
  workspace.fileAt? .top (directory.path.join (.ofText name))

/-- The files of a name from a place upwards, the nearest first. -/
def filesUpwards : List StoredFile :=
  (upwards start).filterMap fun directory => (fileIn workspace name directory).toOption.join

/-- The file of a name that a search from a place upwards ends at. -/
def nearest? : Option StoredFile :=
  (findFile? workspace start name).toOption.join.map (·.2)

variable {workspace start name}

theorem nearest?_eq_some_iff {content : StoredFile} :
    nearest? workspace start name = some content ↔
      ∃ path, findFile? workspace start name = .ok (some (path, content)) := by
  rw [nearest?]
  cases findFile? workspace start name with
  | error error => simp [Except.toOption]
  | ok found =>
    cases found with
    | none => simp [Except.toOption]
    | some file =>
      obtain ⟨path, held⟩ := file
      simp [Except.toOption]

theorem firstWith?_of_askable {directories : List Location}
    (askable : ∀ directory ∈ directories, ∃ file?, fileIn workspace name directory = .ok file?) :
    ∃ found, firstWith? workspace (.ofText name) directories = .ok found ∧
      found.map (·.2) = (directories.filterMap fun directory =>
        (fileIn workspace name directory).toOption.join).head? := by
  induction directories with
  | nil => exact ⟨none, rfl, rfl⟩
  | cons directory others inductionHypothesis =>
    obtain ⟨file?, asked⟩ := askable directory List.mem_cons_self
    rw [List.filterMap_cons, asked]
    rw [fileIn] at asked
    rw [firstWith?, asked]
    cases file? with
    | some content => exact ⟨_, rfl, rfl⟩
    | none =>
      exact inductionHypothesis fun other member => askable other (List.mem_cons_of_mem _ member)

/-- Where all directories can be asked about, the search ends at the first of the files upwards. -/
theorem findFile?_of_askable (named : start.parts.any hasNull = false)
    (askable : ∀ directory ∈ upwards start, ∃ file?,
      fileIn workspace name directory = .ok file?) :
    ∃ found, findFile? workspace start name = .ok found ∧
      found.map (·.2) = (filesUpwards workspace start name).head? := by
  obtain ⟨found, searched, first⟩ := firstWith?_of_askable askable
  refine ⟨found, ?_, first⟩
  rw [findFile?, if_neg (by simp [named]), searched]
  rfl

end

/-! ### Contents -/

/-- The value that a file holds, if it may be read and is JSON. -/
def fileValue? (content : StoredFile) : Option Json :=
  content.opened.toOption.bind fun content =>
    (Text.Utf8.decode? content.bytes).bind fun chars =>
      (Json.parse (Text.unifyBreaks chars)).toOption

/-- The mapping that a configuration file holds. -/
def ownMapping? (content : StoredFile) : Option Mapping :=
  (fileValue? content).bind Json.members?

/-- The mapping in the section of a package file. -/
def section? (content : StoredFile) : Option Mapping :=
  ((fileValue? content).bind (·.get? packageKey)).bind Json.members?

/-- What ends it all when a file is read: its bytes are no text, or there is a whole number in it
that has too many digits. That a file may not be read is no such reason. -/
inductive Breaks (content : StoredFile) : LoadError → Prop where
  | notText (allowed : content.readable) (ill : Text.Utf8.decode? content.bytes = none) :
      Breaks content .notText
  | tooManyDigits {chars : List Char} {count remaining : Nat} (allowed : content.readable)
      (text : Text.Utf8.decode? content.bytes = some chars)
      (long : Json.parse (Text.unifyBreaks chars) = .error ⟨.tooManyDigits count, remaining⟩) :
      Breaks content (.tooManyDigits count)

theorem readValue_eq_error_iff {text : List Char} {error : LoadError} :
    readValue text = .error error ↔
      ∃ count remaining, Json.parse text = .error ⟨.tooManyDigits count, remaining⟩ ∧
        error = .tooManyDigits count := by
  constructor
  · intro stopped
    rw [readValue] at stopped
    split at stopped
    next => cases stopped
    next count remaining long =>
      cases stopped
      exact ⟨count, remaining, long, rfl⟩
    next => cases stopped
  · rintro ⟨count, remaining, long, rfl⟩
    rw [readValue, long]

theorem toOption_of_readValue {text : List Char} {read : Except FileFault Json}
    (done : readValue text = .ok read) : (Json.parse text).toOption = read.toOption := by
  rw [readValue] at done
  split at done
  next value parsed =>
    cases done
    rw [parsed]
    rfl
  next => cases done
  next failed =>
    cases done
    rw [failed]
    rfl

section

variable {path : String} {content : StoredFile}

theorem readJson_of_readable (allowed : content.readable) :
    readJson path content = (Text.Utf8.decode? content.bytes).elim (.error .notText) fun chars =>
      readValue (Text.unifyBreaks chars) := by
  rw [readJson, StoredFile.opened_of_readable allowed]
  dsimp only
  cases Text.Utf8.decode? content.bytes <;> rfl

theorem readJson_of_refused (refused : ¬content.readable) :
    readJson path content = .ok (.error (.refused .permissionDenied path)) := by
  rw [readJson, StoredFile.opened_of_refused refused]

theorem fileValue?_of_readable (allowed : content.readable) :
    fileValue? content = (Text.Utf8.decode? content.bytes).bind fun chars =>
      (Json.parse (Text.unifyBreaks chars)).toOption := by
  rw [fileValue?, StoredFile.opened_of_readable allowed]
  rfl

theorem fileValue?_of_refused (refused : ¬content.readable) : fileValue? content = none := by
  rw [fileValue?, StoredFile.opened_of_refused refused]
  rfl

theorem readJson_eq_error_iff {error : LoadError} :
    readJson path content = .error error ↔ Breaks content error := by
  by_cases allowed : content.readable
  · rw [readJson_of_readable allowed]
    constructor
    · intro stopped
      cases text : Text.Utf8.decode? content.bytes with
      | none =>
        rw [text] at stopped
        cases stopped
        exact .notText allowed text
      | some chars =>
        rw [text] at stopped
        obtain ⟨count, remaining, long, rfl⟩ := readValue_eq_error_iff.mp stopped
        exact .tooManyDigits allowed text long
    · rintro (⟨-, ill⟩ | ⟨-, text, long⟩)
      · rw [ill]
        rfl
      · rw [text]
        exact readValue_eq_error_iff.mpr ⟨_, _, long, rfl⟩
  · rw [readJson_of_refused allowed]
    constructor
    · intro stopped
      cases stopped
    · rintro (⟨may, -⟩ | ⟨may, -, -⟩)
      · exact absurd may allowed
      · exact absurd may allowed

theorem fileValue?_of_readJson {read : Except FileFault Json}
    (done : readJson path content = .ok read) : fileValue? content = read.toOption := by
  by_cases allowed : content.readable
  · rw [readJson_of_readable allowed] at done
    rw [fileValue?_of_readable allowed]
    cases text : Text.Utf8.decode? content.bytes with
    | none =>
      rw [text] at done
      cases done
    | some chars =>
      rw [text] at done
      exact toOption_of_readValue done
  · rw [readJson_of_refused allowed] at done
    cases done
    exact fileValue?_of_refused allowed

/-- A file that may not be read holds nothing, and it breaks nothing. -/
theorem nothing_of_refused (refused : ¬content.readable) :
    ownMapping? content = none ∧ section? content = none ∧ ∀ error, ¬Breaks content error := by
  have nothing := fileValue?_of_refused refused
  refine ⟨?_, ?_, ?_⟩
  · rw [ownMapping?, nothing]
    rfl
  · rw [section?, nothing]
    rfl
  · rintro error (⟨allowed, -⟩ | ⟨allowed, -, -⟩)
    · exact refused allowed
    · exact refused allowed

theorem Breaks.fileValue?_eq_none {error : LoadError} (breaks : Breaks content error) :
    fileValue? content = none := by
  rcases breaks with ⟨allowed, ill⟩ | ⟨allowed, text, long⟩
  · rw [fileValue?_of_readable allowed, ill]
    rfl
  · rw [fileValue?_of_readable allowed, text, Option.bind_some, long]
    rfl

/-- All numbers in a value that was read can be shown. -/
theorem short_of_fileValue? {value : Json} (held : fileValue? content = some value) :
    value.Short := by
  obtain ⟨opened, -, read⟩ := Option.bind_eq_some_iff.mp held
  obtain ⟨chars, -, parsed⟩ := Option.bind_eq_some_iff.mp read
  cases came : Json.parse (Text.unifyBreaks chars) with
  | error fault =>
    rw [came] at parsed
    cases parsed
  | ok value =>
    rw [came] at parsed
    cases parsed
    exact Json.short_of_parse came

/-- No number in a mapping has more digits than a numeral may have. -/
def Mapping.Short (mapping : Mapping) : Prop :=
  Json.Short (.obj mapping)

theorem short_of_members? {value : Json} {mapping : Mapping} (short : value.Short)
    (held : value.members? = some mapping) : mapping.Short := by
  cases value with
  | obj entries =>
    cases held
    exact short
  | _ => cases held

theorem short_of_ownMapping? {mapping : Mapping} (held : ownMapping? content = some mapping) :
    mapping.Short := by
  obtain ⟨value, read, members⟩ := Option.bind_eq_some_iff.mp held
  exact short_of_members? (short_of_fileValue? read) members

theorem short_of_section? {mapping : Mapping} (held : section? content = some mapping) :
    mapping.Short := by
  obtain ⟨inner, inside, members⟩ := Option.bind_eq_some_iff.mp held
  obtain ⟨value, read, found⟩ := Option.bind_eq_some_iff.mp inside
  exact short_of_members? ((short_of_fileValue? read).get? found) members

/-- The mapping that is used comes from a file, so its numbers can be shown. -/
theorem short_of_used {own package : Option StoredFile} {mapping : Mapping}
    (used : (own.bind ownMapping? <|> package.bind section?) = some mapping) : mapping.Short := by
  rw [Option.orElse_eq_orElse, Option.orElse_eq_or] at used
  rcases Option.or_eq_some_iff.mp used with first | ⟨-, second⟩
  · obtain ⟨content, -, held⟩ := Option.bind_eq_some_iff.mp first
    exact short_of_ownMapping? held
  · obtain ⟨content, -, held⟩ := Option.bind_eq_some_iff.mp second
    exact short_of_section? held

end

/-! ### Settings from files -/

/-- What the mapping that is used comes to, if there is one. -/
def settled (used : Option Mapping) : Except LoadError Values :=
  match used with
  | some mapping => mapping.outcome.mapError .ofObjection
  | none => .ok []

theorem loadMapping_value (path : String) (mapping : Mapping) :
    (loadMapping path mapping).value = settled (some mapping) := by
  show (normalize mapping).value.mapError LoadError.ofObjection = _
  rw [normalize_value]
  rfl

section

variable (workspace : Workspace) (start : Location)

/-- Why it is all over once the file of a name is looked for: the search fails, or the file cannot
be read. -/
def Halts (name : String) (error : LoadError) : Prop :=
  findFile? workspace start name = .error error ∨
    ∃ path content, findFile? workspace start name = .ok (some (path, content)) ∧
      Breaks content error

/-- Why settings cannot be loaded. The package file is only looked for where the configuration file
can be read, or there is none, and it holds no mapping. -/
def Stops (error : LoadError) : Prop :=
  Halts workspace start fileName error ∨
    (∀ other, ¬Halts workspace start fileName other) ∧
      (nearest? workspace start fileName).bind ownMapping? = none ∧
      Halts workspace start packageFileName error

end

section

variable {faultText : FaultText} {workspace : Workspace} {start : Location}

theorem Halts.ne_failure {name : String} {error : LoadError}
    (halts : Halts workspace start name error) (failure : Failure) : error ≠ .failure failure := by
  rintro rfl
  rcases halts with failed | ⟨path, content, -, breaks⟩
  · rw [findFile?] at failed
    split at failed
    · cases failed
    · cases searched : firstWith? workspace (.ofText name) (upwards start) <;>
        rw [searched] at failed <;> cases failed
  · cases breaks

/-- Where all directories can be asked about, only what is in a file can be in the way. -/
theorem Halts.breaks {name : String} {error : LoadError} (named : start.parts.any hasNull = false)
    (askable : ∀ directory ∈ upwards start, ∃ file?, fileIn workspace name directory = .ok file?)
    (halts : Halts workspace start name error) :
    ∃ content, nearest? workspace start name = some content ∧ Breaks content error := by
  rcases halts with failed | ⟨path, content, searched, breaks⟩
  · obtain ⟨found, searched, -⟩ := findFile?_of_askable named askable
    cases searched.symm.trans failed
  · exact ⟨content, nearest?_eq_some_iff.mpr ⟨path, searched⟩, breaks⟩

theorem Stops.ne_failure {error : LoadError} (stops : Stops workspace start error)
    (failure : Failure) : error ≠ .failure failure := by
  rcases stops with halts | ⟨-, -, halts⟩
  · exact halts.ne_failure failure
  · exact halts.ne_failure failure

/-- A search that does not fail ends at no file or at one that can be read. -/
theorem found_of_not_halts {name : String}
    (unhalted : ∀ error, ¬Halts workspace start name error) :
    findFile? workspace start name = .ok none ∨
      ∃ path content read, findFile? workspace start name = .ok (some (path, content)) ∧
        readJson path.text content = .ok read := by
  cases searched : findFile? workspace start name with
  | error error => exact absurd (.inl searched) (unhalted error)
  | ok found =>
    cases found with
    | none => exact .inl rfl
    | some file =>
      obtain ⟨path, content⟩ := file
      cases opened : readJson path.text content with
      | error error =>
        exact absurd (.inr ⟨path, content, searched, readJson_eq_error_iff.mp opened⟩)
          (unhalted error)
      | ok read => exact .inr ⟨path, content, read, rfl, opened⟩

theorem loadPackage_of_halts {error : LoadError}
    (halts : Halts workspace start packageFileName error) :
    (loadPackage faultText workspace start).value = .error error := by
  rw [loadPackage]
  rcases halts with failed | ⟨path, content, searched, breaks⟩
  · rw [failed]
    rfl
  · rw [searched]
    dsimp only
    rw [readJson_eq_error_iff.mpr breaks]
    rfl

theorem loadPackage_of_not_halts
    (unhalted : ∀ error, ¬Halts workspace start packageFileName error) :
    (loadPackage faultText workspace start).value =
      settled ((nearest? workspace start packageFileName).bind section?) := by
  rw [loadPackage]
  rcases found_of_not_halts unhalted with absent | ⟨path, content, read, searched, opened⟩
  · rw [nearest?, absent]
    rfl
  · rw [nearest?_eq_some_iff.mpr ⟨path, searched⟩, searched, Option.bind_some, section?,
      fileValue?_of_readJson opened]
    dsimp only
    rw [opened]
    cases read with
    | error fault => rfl
    | ok value =>
      dsimp only [Except.toOption]
      rw [Option.bind_some]
      cases member : value.get? packageKey with
      | none => rfl
      | some inner =>
        cases inner with
        | obj mapping => exact loadMapping_value _ mapping
        | _ => rfl

theorem load_of_halts {error : LoadError} (halts : Halts workspace start fileName error) :
    (load faultText workspace start).value = .error error := by
  rw [load]
  rcases halts with failed | ⟨path, content, searched, breaks⟩
  · rw [failed]
    rfl
  · rw [searched]
    dsimp only
    rw [readJson_eq_error_iff.mpr breaks]
    rfl

theorem load_of_absent (absent : findFile? workspace start fileName = .ok none) :
    load faultText workspace start = loadPackage faultText workspace start := by
  rw [load, absent]

theorem load_of_mapping {path : Path} {content : StoredFile} {read : Except FileFault Json}
    {mapping : Mapping} (searched : findFile? workspace start fileName = .ok (some (path, content)))
    (opened : readJson path.text content = .ok read) (holds : ownMapping? content = some mapping) :
    (load faultText workspace start).value = settled (some mapping) := by
  rw [ownMapping?, fileValue?_of_readJson opened] at holds
  rw [load, searched]
  dsimp only
  rw [opened]
  cases read with
  | error fault => cases holds
  | ok value =>
    cases value with
    | obj members =>
      cases holds
      exact loadMapping_value _ mapping
    | _ => cases holds

/-- A configuration file that can be read and holds no mapping leaves a warning, and all else is as
if it were not there. -/
theorem load_of_unusable {path : Path} {content : StoredFile} {read : Except FileFault Json}
    (searched : findFile? workspace start fileName = .ok (some (path, content)))
    (opened : readJson path.text content = .ok read) (unusable : ownMapping? content = none) :
    ∃ warning : LogRecord, warning.level = .warning ∧
      load faultText workspace start =
        ⟨(loadPackage faultText workspace start).value,
          warning :: (loadPackage faultText workspace start).records⟩ := by
  rw [ownMapping?, fileValue?_of_readJson opened] at unusable
  rw [load, searched]
  dsimp only
  rw [opened]
  cases read with
  | error fault => exact ⟨_, rfl, rfl⟩
  | ok value =>
    cases value with
    | obj members => cases unusable
    | _ => exact ⟨_, rfl, rfl⟩

/-- Where nothing is wrong with the configuration file, the package file decides unless there is a
mapping in the former. -/
theorem load_of_not_halts (unhalted : ∀ error, ¬Halts workspace start fileName error) :
    (load faultText workspace start).value =
      match (nearest? workspace start fileName).bind ownMapping? with
      | some mapping => settled (some mapping)
      | none => (loadPackage faultText workspace start).value := by
  rcases found_of_not_halts unhalted with absent | ⟨path, content, read, searched, opened⟩
  · rw [load_of_absent absent, nearest?, absent]
    rfl
  · rw [nearest?_eq_some_iff.mpr ⟨path, searched⟩, Option.bind_some]
    cases holds : ownMapping? content with
    | some mapping => exact load_of_mapping searched opened holds
    | none =>
      obtain ⟨warning, -, same⟩ := load_of_unusable searched opened holds
      rw [same]

theorem load_of_stops {error : LoadError} (stops : Stops workspace start error) :
    (load faultText workspace start).value = .error error := by
  rcases stops with halts | ⟨unhalted, unused, halts⟩
  · exact load_of_halts halts
  · rw [load_of_not_halts unhalted, unused]
    exact loadPackage_of_halts halts

theorem load_of_not_stops (runs : ∀ error, ¬Stops workspace start error) :
    (load faultText workspace start).value =
      settled ((nearest? workspace start fileName).bind ownMapping? <|>
        (nearest? workspace start packageFileName).bind section?) := by
  have unhalted (error : LoadError) : ¬Halts workspace start fileName error :=
    fun halts => runs error (.inl halts)
  rw [load_of_not_halts unhalted]
  cases unused : (nearest? workspace start fileName).bind ownMapping? with
  | some mapping => rfl
  | none =>
    exact loadPackage_of_not_halts fun error halts => runs error (.inr ⟨unhalted, unused, halts⟩)

end

/-- A mapping that is fit to be handed on: each key once, and under each of the two keys null or a
number that is not negative. -/
structure Mapping.IsSettings (mapping : Mapping) : Prop where
  unique : (mapping.map (·.1)).Nodup
  keys : ∀ entry ∈ mapping, entry.1 = CodePoint.ofString "cyclomatic_warning" ∨
    entry.1 = CodePoint.ofString "cyclomatic_error"
  values : ∀ entry ∈ mapping, entry.2 = .null ∨ ∃ number : Nat, entry.2 = .int number

theorem isSettings_toMapping {values : Values} (unique : (values.map (·.1)).Nodup) :
    values.toMapping.IsSettings := by
  have apart : Function.Injective fun setting : Setting => CodePoint.ofString setting.key := by
    intro first second same
    cases first <;> cases second <;> first | rfl | exact absurd same (by decide)
  refine ⟨?_, ?_, ?_⟩
  · rw [Values.toMapping, List.map_map]
    have keys := unique.map apart
    rwa [List.map_map] at keys
  · intro entry member
    obtain ⟨⟨setting, threshold⟩, -, rfl⟩ := List.mem_map.mp member
    cases setting
    · exact .inl rfl
    · exact .inr rfl
  · intro entry member
    obtain ⟨⟨setting, threshold⟩, -, rfl⟩ := List.mem_map.mp member
    cases threshold with
    | none => exact .inl rfl
    | some number => exact .inr ⟨number, rfl⟩

/-- Either the mapping that is used makes settings, or it misuses one of their names; where its
numbers can be shown, that is all. -/
theorem settled_cases {used : Option Mapping}
    (short : ∀ mapping, used = some mapping → mapping.Short) :
    (∃ values, settled used = .ok values ∧ (values.map (·.1)).Nodup) ∨
      ∃ mapping name value said, used = some mapping ∧ mapping.MisusesFirst name value ∧
        objection name value = .failure (.invalidConfiguration said) ∧
        settled used = .error (.failure (.invalidConfiguration said)) := by
  cases used with
  | none => exact .inl ⟨[], rfl, List.nodup_nil⟩
  | some mapping =>
    rw [settled]
    cases came : mapping.outcome with
    | ok values => exact .inl ⟨values, rfl, Mapping.nodup_of_outcome came⟩
    | error said =>
      obtain ⟨name, value, first, rfl⟩ := Mapping.outcome_eq_error_iff.mp came
      have brief := Json.short_obj_iff.mp (short mapping rfl) _ first.misuses.entry
      obtain ⟨said, failure⟩ := exists_objection_eq_failure_iff.mpr brief
      refine .inr ⟨mapping, name, value, said, rfl, first, failure, ?_⟩
      rw [failure]
      rfl

section

variable {faultText : FaultText} {workspace : Workspace} {start : Location} {values : Values}

/-- Each setting is made once. -/
theorem nodup_of_load (loaded : (load faultText workspace start).value = .ok values) :
    (values.map (·.1)).Nodup := by
  have runs (error : LoadError) : ¬Stops workspace start error := fun stops => by
    cases loaded.symm.trans (load_of_stops stops)
  rw [load_of_not_stops runs] at loaded
  rcases settled_cases (fun _ => short_of_used) with
    ⟨held, came, unique⟩ | ⟨_, _, _, _, -, -, -, came⟩
  · cases came.symm.trans loaded
    exact unique
  · cases came.symm.trans loaded

/-- The thresholds are the defaults with the loaded settings put over them. -/
theorem thresholds_value (loaded : (load faultText workspace start).value = .ok values) :
    (thresholds faultText workspace start).value = .ok values.overlay := by
  have again : (create values.toMapping).value = .ok values.overlay := by
    rw [create_value, outcome_toMapping (nodup_of_load loaded)]
    rfl
  rw [thresholds, Logged.value_bind, loaded]
  show (create values.toMapping).value.mapError LoadError.ofObjection = _
  rw [again]
  rfl

end

section

variable {faultText : FaultText} {workspace : Workspace} {start : Location}

/-- Without a reason to stop, an error is a failure, so others are told for no other reason. -/
theorem stops_of_load {error : LoadError}
    (failed : (load faultText workspace start).value = .error error)
    (foreign : ∀ failure, error ≠ .failure failure) : Stops workspace start error := by
  by_cases stopped : ∃ other, Stops workspace start other
  · obtain ⟨other, stops⟩ := stopped
    cases (load_of_stops stops).symm.trans failed
    exact stops
  · rw [load_of_not_stops (not_exists.mp stopped)] at failed
    rcases settled_cases (fun _ => short_of_used) with
      ⟨values, came, -⟩ | ⟨_, _, _, _, -, -, -, came⟩
    · cases came.symm.trans failed
    · cases came.symm.trans failed
      exact absurd rfl (foreign _)

/-- Where all directories can be asked about, only what is in the files can be in the way. -/
theorem Stops.breaks {error : LoadError} (named : start.parts.any hasNull = false)
    (askable : ∀ directory ∈ upwards start, ∀ name ∈ [fileName, packageFileName],
      ∃ file?, fileIn workspace name directory = .ok file?)
    (stops : Stops workspace start error) :
    ∃ content, (nearest? workspace start fileName = some content ∨
      nearest? workspace start packageFileName = some content) ∧ Breaks content error := by
  have each (name : String) (among : name ∈ [fileName, packageFileName]) (directory : Location)
      (member : directory ∈ upwards start) := askable directory member name among
  rcases stops with halts | ⟨-, -, halts⟩
  · obtain ⟨content, found, breaks⟩ := halts.breaks named (each fileName (by simp))
    exact ⟨content, .inl found, breaks⟩
  · obtain ⟨content, found, breaks⟩ := halts.breaks named (each packageFileName (by simp))
    exact ⟨content, .inr found, breaks⟩

/-- A configuration file that breaks nothing and holds no mapping leaves a warning, and all else is
as if it were not there. -/
theorem load_of_passed_over {content : StoredFile}
    (found : nearest? workspace start fileName = some content)
    (unusable : ownMapping? content = none) (whole : ∀ error, ¬Breaks content error) :
    ∃ warning : LogRecord, warning.level = .warning ∧
      load faultText workspace start =
        ⟨(loadPackage faultText workspace start).value,
          warning :: (loadPackage faultText workspace start).records⟩ := by
  obtain ⟨path, searched⟩ := nearest?_eq_some_iff.mp found
  cases opened : readJson path.text content with
  | error error => exact absurd (readJson_eq_error_iff.mp opened) (whole error)
  | ok read => exact load_of_unusable searched opened unusable

end

/-- Loading either stops at something that cannot be looked at, or it settles. It stops with an
error that is no failure of its own exactly for the reasons that `Stops` lists, and these are in the
files where the directories can be asked about. Otherwise the settings are those of the mapping in
the configuration file, or else of the section in the package file, or there are none; only a name
that is misused in there is a failure. A configuration file that holds no mapping, or may not be
read, leaves nothing but a warning. -/
theorem load_stops_or_settles (faultText : FaultText) (workspace : Workspace) (start : Location) :
    let loaded := load faultText workspace start
    let fallback := loadPackage faultText workspace start
    let own := nearest? workspace start fileName
    let package := nearest? workspace start packageFileName
    let used := own.bind ownMapping? <|> package.bind section?
    (∀ error, (loaded.value = .error error ∧ ∀ failure, error ≠ .failure failure) ↔
      Stops workspace start error) ∧
    (start.parts.any hasNull = false →
      (∀ directory ∈ upwards start, ∀ name ∈ [fileName, packageFileName],
        ∃ file?, fileIn workspace name directory = .ok file?) →
      ∀ error, Stops workspace start error →
        ∃ content, (own = some content ∨ package = some content) ∧ Breaks content error) ∧
    ((∀ error, ¬Stops workspace start error) →
      loaded.value = settled used ∧
      ((∃ values, loaded.value = .ok values ∧ values.toMapping.IsSettings) ∨
        ∃ mapping name value said, used = some mapping ∧ mapping.MisusesFirst name value ∧
          objection name value = .failure (.invalidConfiguration said) ∧
          loaded.value = .error (.failure (.invalidConfiguration said))) ∧
      (own.bind ownMapping? = none → package.bind section? = none → loaded.value = .ok [])) ∧
    (∀ content, own = some content → ownMapping? content = none →
      (∀ error, ¬Breaks content error) →
      ∃ warning : LogRecord, warning.level = .warning ∧
        loaded = ⟨fallback.value, warning :: fallback.records⟩) ∧
    ∀ content, ¬content.readable → ownMapping? content = none ∧ section? content = none ∧
      ∀ error, ¬Breaks content error := by
  intro loaded fallback own package used
  refine ⟨fun error => ⟨fun ⟨failed, foreign⟩ => stops_of_load failed foreign,
      fun stops => ⟨load_of_stops stops, stops.ne_failure⟩⟩,
    fun named askable error => Stops.breaks named askable, fun runs => ?_,
    fun content => load_of_passed_over, fun content => nothing_of_refused⟩
  have value : loaded.value = settled used := load_of_not_stops runs
  refine ⟨value, ?_, fun unused empty => ?_⟩
  · rw [value]
    refine (settled_cases fun _ => short_of_used).imp_left ?_
    rintro ⟨values, came, unique⟩
    exact ⟨values, came, isSettings_toMapping unique⟩
  · rw [value]
    show settled (own.bind ownMapping? <|> package.bind section?) = .ok []
    rw [unused, empty]
    rfl

/-- A project with the given configuration file and a section in its package file. -/
def projectWith (settings : StoredFile) : Workspace :=
  let package := "\x7b\"onion-tears\": \x7b\"cyclomaticError\": 6\x7d\x7d"
  ⟨.directory [("work", .directory [
    (".onion-tears.json", .file settings),
    ("package.json", .file { bytes := Text.Utf8.encode package.toList, tree := Tree.empty })])]⟩

/-- Text that is not JSON leaves a warning, and so does a file that may not be read; the section is
used. Bytes that are no text stop it all, though the section is there as well. -/
theorem load_stops_or_settles_brokenFile :
    let work : Location := ⟨["work"]⟩
    let load (settings : StoredFile) := load FileFault.message (projectWith settings) work
    let brace : StoredFile := { bytes := [0x7B], tree := Tree.empty }
    let locked : StoredFile := { bytes := [0x7B, 0x7D], tree := Tree.empty, readable := false }
    let ill : StoredFile := { bytes := [0xFF], tree := Tree.empty }
    (∀ settings ∈ [brace, locked],
      (∀ error, ¬Stops (projectWith settings) work error) ∧
      (load settings).value = .ok [(.error, some 6)] ∧
      ∃ warning ∈ (load settings).records, warning.level = .warning) ∧
    Stops (projectWith ill) work .notText ∧
    (load ill).value = .error .notText ∧
    ∃ content, (nearest? (projectWith ill) work fileName = some content ∨
      nearest? (projectWith ill) work packageFileName = some content) ∧
      Breaks content .notText := by
  intro work load brace locked ill
  refine ⟨fun settings among => ?_, ?_⟩
  · have each : ∀ settings ∈ [brace, locked], (load settings).value = .ok [(.error, some 6)] ∧
        (ownMapping? settings).isNone := by decide +kernel
    obtain ⟨settles, unusable⟩ := each settings among
    obtain ⟨stopping, -, -, warns, -⟩ :=
      load_stops_or_settles FileFault.message (projectWith settings) work
    have runs (error : LoadError) : ¬Stops (projectWith settings) work error := fun stops => by
      cases settles.symm.trans ((stopping error).mpr stops).1
    have found : nearest? (projectWith settings) work fileName = some settings := by rfl
    obtain ⟨path, searched⟩ := nearest?_eq_some_iff.mp found
    obtain ⟨warning, level, same⟩ := warns settings found (Option.isNone_iff_eq_none.mp unusable)
      fun error breaks => runs error (.inl (.inr ⟨path, settings, searched, breaks⟩))
    refine ⟨runs, settles, warning, ?_, level⟩
    show warning ∈ (Config.load _ _ _).records
    rw [same]
    exact List.mem_cons_self
  · have stopped : (load ill).value = .error .notText := by decide +kernel
    obtain ⟨stopping, inFiles, -⟩ := load_stops_or_settles FileFault.message (projectWith ill) work
    have stops := (stopping .notText).mp ⟨stopped, fun failure => LoadError.noConfusion⟩
    refine ⟨stops, stopped, inFiles rfl ?_ _ stops⟩
    have asked : ∀ directory ∈ upwards work, ∀ name ∈ [fileName, packageFileName],
        (fileIn (projectWith ill) name directory).isOk = true := by decide +kernel
    intro directory member name among
    have answered := asked directory member name among
    cases asking : fileIn (projectWith ill) name directory with
    | ok file? => exact ⟨file?, rfl⟩
    | error fault =>
      rw [asking] at answered
      cases answered

/-! ### Sections upwards -/

section

variable (workspace : Workspace) (name : String) (directory : Location)

/-- Whether there is no file of a name in a directory. -/
def lacks : Bool :=
  match fileIn workspace name directory with
  | .ok none => true
  | _ => false

/-- Whether there is no file of a name in a directory, or one that holds a JSON value. -/
def isSound : Bool :=
  match fileIn workspace name directory with
  | .ok none => true
  | .ok (some content) => (fileValue? content).isSome
  | .error _ => false

variable {workspace name directory}

theorem fileIn_of_lacks (holds : lacks workspace name directory = true) :
    fileIn workspace name directory = .ok none := by
  -- To state the equation of the definition, the search itself would be evaluated.
  delta lacks at holds
  split at holds
  next absent => exact absent
  next => cases holds

theorem exists_fileIn_of_isSound (holds : isSound workspace name directory = true) :
    ∃ file?, fileIn workspace name directory = .ok file? ∧
      ∀ content, file? = some content → (fileValue? content).isSome := by
  delta isSound at holds
  split at holds
  next absent => exact ⟨none, absent, by simp⟩
  next content found =>
    refine ⟨some content, found, ?_⟩
    rintro _ ⟨⟩
    exact holds
  next => cases holds

end

section

variable {workspace : Workspace} {start : Location} {name : String}

theorem findFile?_of_lacks (named : start.parts.any hasNull = false)
    (bare : ∀ directory ∈ upwards start, lacks workspace name directory = true) :
    findFile? workspace start name = .ok none := by
  have absent (directory : Location) (member : directory ∈ upwards start) :=
    fileIn_of_lacks (bare directory member)
  obtain ⟨found, searched, first⟩ :=
    findFile?_of_askable named fun directory member => ⟨none, absent directory member⟩
  have nothing : filesUpwards workspace start name = [] := by
    rw [filesUpwards, List.filterMap_eq_nil_iff]
    intro directory member
    rw [absent directory member]
    rfl
  rw [nothing, List.head?_nil, Option.map_eq_none_iff] at first
  rw [searched, first]

/-- Where all files upwards are sound, nothing stops the search, and it ends at the first. -/
theorem nearest?_of_isSound (named : start.parts.any hasNull = false)
    (sound : ∀ directory ∈ upwards start, isSound workspace name directory = true) :
    (∀ error, ¬Halts workspace start name error) ∧
      nearest? workspace start name = (filesUpwards workspace start name).head? := by
  obtain ⟨found, searched, first⟩ := findFile?_of_askable named fun directory member =>
    (exists_fileIn_of_isSound (sound directory member)).imp fun _ => And.left
  have nearest : nearest? workspace start name = (filesUpwards workspace start name).head? := by
    rw [nearest?, searched]
    exact first
  refine ⟨?_, nearest⟩
  rintro error (failed | ⟨path, content, ended, breaks⟩)
  · cases searched.symm.trans failed
  · -- What the search ended at is one of the sound files, and those hold a value.
    have member := List.mem_of_head? (nearest ▸ nearest?_eq_some_iff.mpr ⟨path, ended⟩)
    obtain ⟨directory, among, held⟩ := List.mem_filterMap.mp member
    obtain ⟨file?, asked, readable⟩ := exists_fileIn_of_isSound (sound directory among)
    rw [asked] at held
    have value := readable content held
    rw [breaks.fileValue?_eq_none] at value
    cases value

end

/-- The nearest package file has no section, and one above it has. -/
def HidesSection (packages : List StoredFile) : Prop :=
  packages.head?.any (fun nearest => (section? nearest).isNone) = true ∧
    (packages.findSome? section?).isSome = true

instance (packages : List StoredFile) : Decidable (HidesSection packages) :=
  inferInstanceAs (Decidable (_ ∧ _))

/-- The section of the nearest package file is the nearest section, unless one is hidden. -/
theorem section?_of_head? (packages : List StoredFile) :
    packages.head?.bind section? =
      if HidesSection packages then none else packages.findSome? section? := by
  cases packages with
  | nil => simp
  | cons nearest others =>
    rw [List.head?_cons, Option.bind_some]
    by_cases hidden : HidesSection (nearest :: others)
    · rw [if_pos hidden]
      exact Option.isNone_iff_eq_none.mp hidden.1
    · rw [if_neg hidden, List.findSome?_cons]
      cases own : section? nearest with
      | some mapping => rfl
      | none =>
        -- A section further up would be hidden, so there is none.
        have more : (nearest :: others).findSome? section? = others.findSome? section? := by
          rw [List.findSome?_cons, own]
        refine (Option.not_isSome_iff_eq_none.mp fun above => hidden ⟨?_, more ▸ above⟩).symm
        exact Option.isNone_iff_eq_none.mpr own

/-- A mapping fails exactly if it misuses a name. -/
theorem misuses_iff_settled {mapping : Mapping} (short : mapping.Short) :
    (∃ name value, mapping.Misuses name value) ↔
      ∃ said, settled (some mapping) = .error (.failure (.invalidConfiguration said)) := by
  rcases settled_cases (fun _ same => Option.some.inj same ▸ short) with
    ⟨values, came, -⟩ | ⟨_, name, value, said, same, first, -, came⟩
  · refine iff_of_false (fun misused => ?_) fun ⟨said, fails⟩ => ?_
    · obtain ⟨name, value, first⟩ := Mapping.exists_misusesFirst_iff.mpr misused
      rw [settled, first.outcome_eq] at came
      cases came
    · cases came.symm.trans fails
  · cases same
    exact iff_of_true ⟨name, value, first.misuses⟩ ⟨said, came⟩

/-- Without a configuration file, the nearest package file decides. Its section is the nearest one,
unless it has none and hides those above it; then nothing is set. The search goes on to the root of
all files. -/
theorem load_nearest_section (faultText : FaultText) {workspace : Workspace} {start : Location}
    (named : start.parts.any hasNull = false)
    (bare : ∀ directory ∈ upwards start, lacks workspace fileName directory = true)
    (sound : ∀ directory ∈ upwards start, isSound workspace packageFileName directory = true) :
    let loaded := load faultText workspace start
    let packages := filesUpwards workspace start packageFileName
    let nearest := packages.findSome? section?
    ((upwards start).head? = some start ∧
      (upwards start).IsChain (fun lower upper => lower ≠ .top ∧ upper = lower.parent) ∧
      (upwards start).getLast? = some .top) ∧
    (¬HidesSection packages → loaded.value = settled nearest) ∧
    (HidesSection packages → loaded.value = .ok []) ∧
    ∀ mapping, nearest = some mapping → ((∃ name value, mapping.Misuses name value) ↔
      ∃ said, settled nearest = .error (.failure (.invalidConfiguration said))) := by
  intro loaded packages nearest
  obtain ⟨unhalted, first⟩ := nearest?_of_isSound named sound
  have value : loaded.value = settled (packages.head?.bind section?) := by
    show (load faultText workspace start).value = _
    rw [load_of_absent (findFile?_of_lacks named bare), loadPackage_of_not_halts unhalted, first]
  rw [section?_of_head?] at value
  refine ⟨isChain_upwards start, fun shown => ?_, fun hidden => ?_, fun mapping found => ?_⟩
  · rw [value, if_neg shown]
  · rw [value, if_pos hidden]
    rfl
  · obtain ⟨content, -, held⟩ := List.exists_of_findSome?_eq_some found
    rw [found]
    exact misuses_iff_settled (short_of_section? held)

/-- A project whose package file has a section, with a package inside that has none. -/
def nestedPackages : Workspace :=
  let outer := "\x7b\"onion-tears\": \x7b\"cyclomaticError\": 12\x7d\x7d"
  let inner := "\x7b\"name\": \"app\"\x7d"
  ⟨.directory [("work", .directory [
    ("package.json", .file { bytes := Text.Utf8.encode outer.toList, tree := Tree.empty }),
    ("app", .directory [
      ("package.json", .file { bytes := Text.Utf8.encode inner.toList, tree := Tree.empty })])])]⟩

/-- In the project the section is found; in the package inside it, nothing is. -/
theorem load_nearest_section_nestedPackages :
    let load := load FileFault.message nestedPackages
    let packages := (filesUpwards nestedPackages · packageFileName)
    let work : Location := ⟨["work"]⟩
    let app : Location := ⟨["work", "app"]⟩
    (∀ directory ∈ upwards app, lacks nestedPackages fileName directory = true) ∧
    (∀ directory ∈ upwards app, isSound nestedPackages packageFileName directory = true) ∧
    ¬HidesSection (packages work) ∧
    (load work).value = settled ((packages work).findSome? section?) ∧
    HidesSection (packages app) ∧ (load app).value = .ok [] ∧
    settled ((packages app).findSome? section?) = .ok [(.error, some 12)] := by
  intro load packages work app
  have bare : ∀ directory ∈ upwards app, lacks nestedPackages fileName directory = true := by
    decide +kernel
  have sound : ∀ directory ∈ upwards app,
      isSound nestedPackages packageFileName directory = true := by decide +kernel
  have shown : ¬HidesSection (packages work) := by decide +kernel
  have hidden : HidesSection (packages app) := by decide +kernel
  have above : upwards work ⊆ upwards app := by decide
  have inside := load_nearest_section FileFault.message rfl bare sound
  have outside := @load_nearest_section FileFault.message nestedPackages work rfl
    (fun directory member => bare directory (above member))
    (fun directory member => sound directory (above member))
  exact ⟨bare, sound, shown, outside.2.1 shown, hidden, inside.2.2.1 hidden, by decide +kernel⟩

end Tangle.Config
