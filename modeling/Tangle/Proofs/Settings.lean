/-
This file says what a mapping of keys to values comes to as settings. Keys that name
no setting are passed over. If every key that names one has null or a number that is
not negative, each setting has the last value that is given for it, in either
spelling; otherwise the first key that has something else is complained about, and
nothing is set. The complaint shows the value, so it breaks down where a number in the
value has too many digits. Settings written as a mapping come to themselves again, so
it does not matter that a run normalizes them twice.
-/

import Tangle.Config
import Tangle.Proofs.JsonNumbers

namespace Tangle

namespace Text.CodePoint

theorem toString?_scalar (c : Char) (rest : List CodePoint) :
    toString? (.scalar c :: rest) =
      (toString? rest).map fun text => String.ofList (c :: text.toList) := by
  rw [toString?, toString?, List.mapM_cons]
  generalize (List.mapM _ rest : Option (List Char)) = read
  cases read <;> simp

theorem toString?_surrogate (unit : Nat) (rest : List CodePoint) :
    toString? (.surrogate unit :: rest) = none := by
  rw [toString?, List.mapM_cons]
  rfl

theorem toString?_eq_some_iff {points : List CodePoint} {text : String} :
    toString? points = some text ↔ points = ofString text := by
  induction points generalizing text with
  | nil =>
    rw [ofString, List.nil_eq, List.map_eq_nil_iff, String.toList_eq_nil_iff]
    exact Option.some_inj.trans eq_comm
  | cons point rest inductionHypothesis =>
    cases point with
    | surrogate unit =>
      rw [toString?_surrogate, ofString]
      refine iff_of_false (Option.some_ne_none text).symm fun same => ?_
      obtain ⟨c, -, other⟩ := List.mem_map.mp (same ▸ List.mem_cons_self)
      cases other
    | scalar c =>
      rw [toString?_scalar, Option.map_eq_some_iff, ofString]
      constructor
      · rintro ⟨behind, read, rfl⟩
        rw [String.toList_ofList, List.map_cons, inductionHypothesis.mp read, ofString]
      · intro same
        obtain ⟨first, others, letters, point, behind⟩ := List.map_eq_cons_iff.mp same.symm
        cases point
        refine ⟨String.ofList others, inductionHypothesis.mpr ?_, ?_⟩
        · rw [ofString, String.toList_ofList, behind]
        · rw [String.toList_ofList, ← letters, String.ofList_toList]

end Text.CodePoint

namespace Config

open Text (CodePoint)

/-! ### Entries -/

/-- The spellings of the settings. -/
def spellings : List String :=
  ["cyclomaticWarning", "cyclomatic_warning", "cyclomaticError", "cyclomatic_error"]

/-- A value that no setting can have: neither null nor a number that is not negative. -/
def IsUnfit (value : Json) : Prop :=
  value ≠ .null ∧ ∀ number : Nat, value ≠ .int number

/-- The setting that a key names, with its spelling. -/
def named? (key : List CodePoint) : Option (String × Setting) :=
  (CodePoint.toString? key).bind fun name => (Setting.ofKey? name).map (name, ·)

/-- The setting that an entry makes. -/
def setting? (entry : List CodePoint × Json) : Option (Setting × Option Nat) :=
  (named? entry.1).bind fun named => (threshold? entry.2).map (named.2, ·)

/-- What is said against an entry, if it names a setting and its value is no threshold. -/
def objection? (entry : List CodePoint × Json) : Option Objection :=
  (named? entry.1).bind fun named =>
    if (threshold? entry.2).isNone then some (objection named.1 entry.2) else none

/-- A value that is short can be shown, and then the objection to it is a failure. -/
theorem objection_cases (name : String) (value : Json) :
    value.Short ∧ (∃ said, objection name value = .failure (.invalidConfiguration said)) ∨
      ¬ value.Short ∧ objection name value = .overlong .found := by
  obtain ⟨shown, ⟨short, described⟩ | ⟨long, failed⟩⟩ := value.exists_provided_describe?
  · refine .inl ⟨short, ?_⟩
    rw [objection, described]
    exact ⟨_, rfl⟩
  · refine .inr ⟨long, ?_⟩
    rw [objection, failed]

theorem exists_objection_eq_failure_iff {name : String} {value : Json} :
    (∃ said, objection name value = .failure (.invalidConfiguration said)) ↔ value.Short := by
  obtain ⟨short, failure⟩ | ⟨long, overlong⟩ := objection_cases name value
  · exact iff_of_true failure short
  · refine iff_of_false (fun ⟨said, failure⟩ => ?_) long
    cases overlong.symm.trans failure

theorem objection_eq_overlong_iff {name : String} {value : Json} :
    objection name value = .overlong .found ↔ ¬ value.Short := by
  obtain ⟨short, said, failure⟩ | ⟨long, overlong⟩ := objection_cases name value
  · refine iff_of_false (fun overlong => ?_) (not_not.mpr short)
    cases failure.symm.trans overlong
  · exact iff_of_true overlong long

theorem isSome_ofKey?_iff {name : String} : (Setting.ofKey? name).isSome ↔ name ∈ spellings := by
  unfold Setting.ofKey? spellings
  split <;> simp_all

theorem exists_named?_iff {key : List CodePoint} {name : String} :
    (∃ setting, named? key = some (name, setting)) ↔
      name ∈ spellings ∧ key = CodePoint.ofString name := by
  rw [← isSome_ofKey?_iff, Option.isSome_iff_exists, ← CodePoint.toString?_eq_some_iff]
  constructor
  · rintro ⟨setting, found⟩
    obtain ⟨_, read, spelled⟩ := Option.bind_eq_some_iff.mp found
    obtain ⟨_, held, same⟩ := Option.map_eq_some_iff.mp spelled
    cases same
    exact ⟨⟨setting, held⟩, read⟩
  · rintro ⟨⟨setting, held⟩, read⟩
    refine ⟨setting, ?_⟩
    rw [named?, read, Option.bind_some, held, Option.map_some]

theorem isNone_threshold?_iff {value : Json} : (threshold? value).isNone ↔ IsUnfit value := by
  rw [Option.isNone_iff_eq_none, IsUnfit]
  cases value with
  | int value =>
    by_cases natural : 0 ≤ value
    · obtain ⟨number, rfl⟩ := Int.eq_ofNat_of_zero_le natural
      simp [threshold?]
    · rw [threshold?, if_neg natural]
      refine iff_of_true rfl ⟨Json.noConfusion, fun number same => ?_⟩
      cases same
      exact natural (Int.natCast_nonneg number)
  | _ => simp [threshold?]

theorem objection?_eq_some_iff {key : List CodePoint} {value : Json} {said : Objection} :
    objection? (key, value) = some said ↔
      ∃ name ∈ spellings, key = CodePoint.ofString name ∧ IsUnfit value ∧
        objection name value = said := by
  rw [objection?, Option.bind_eq_some_iff]
  simp only [isNone_threshold?_iff, Option.ite_none_right_eq_some, Option.some.injEq]
  constructor
  · rintro ⟨⟨name, setting⟩, named, unfit, same⟩
    obtain ⟨known, spelled⟩ := exists_named?_iff.mp ⟨setting, named⟩
    exact ⟨name, known, spelled, unfit, same⟩
  · rintro ⟨name, known, spelled, unfit, same⟩
    obtain ⟨setting, named⟩ := exists_named?_iff.mpr ⟨known, spelled⟩
    exact ⟨(name, setting), named, unfit, same⟩

/-! ### Mappings -/

namespace Mapping

/-- A mapping gives a setting, under one of its names, a value that it cannot have. -/
structure Misuses (mapping : Mapping) (name : String) (value : Json) : Prop where
  known : name ∈ spellings
  entry : (CodePoint.ofString name, value) ∈ mapping
  unfit : IsUnfit value

/-- A mapping gives a setting a value that it cannot have, and does so nowhere before. -/
def MisusesFirst (mapping : Mapping) (name : String) (value : Json) : Prop :=
  name ∈ spellings ∧ IsUnfit value ∧ ∃ before behind,
    mapping = before ++ (CodePoint.ofString name, value) :: behind ∧
      ∀ other held, ¬ Misuses before other held

/-- What a mapping comes to: the settings that it makes, each in its first place with its last
value, or an objection to the first entry with a value that its setting cannot have. -/
def outcome (mapping : Mapping) : Except Objection Values :=
  match mapping.findSome? objection? with
  | some said => .error said
  | none => .ok (Ordered.putAll [] (mapping.filterMap setting?))

theorem findSome?_objection?_eq_none_iff {mapping : Mapping} :
    mapping.findSome? objection? = none ↔ ∀ name value, ¬ mapping.Misuses name value := by
  rw [List.findSome?_eq_none_iff]
  constructor
  · intro quiet name value misuses
    cases (quiet _ misuses.entry).symm.trans
      (objection?_eq_some_iff.mpr ⟨name, misuses.known, rfl, misuses.unfit, rfl⟩)
  · rintro fits ⟨key, value⟩ member
    rw [Option.eq_none_iff_forall_not_mem]
    intro said told
    obtain ⟨name, known, rfl, unfit, -⟩ := objection?_eq_some_iff.mp told
    exact fits name value ⟨known, member, unfit⟩

theorem MisusesFirst.outcome_eq {mapping : Mapping} {name : String} {value : Json}
    (first : mapping.MisusesFirst name value) : mapping.outcome = .error (objection name value) := by
  obtain ⟨known, unfit, before, behind, rfl, none⟩ := first
  have told : objection? (CodePoint.ofString name, value) = some (objection name value) :=
    objection?_eq_some_iff.mpr ⟨name, known, rfl, unfit, rfl⟩
  rw [outcome, List.findSome?_append, findSome?_objection?_eq_none_iff.mpr none, Option.none_or,
    List.findSome?_cons, told]

/-- A mapping comes to nothing exactly for the first of its entries that is a misuse. -/
theorem outcome_eq_error_iff {mapping : Mapping} {said : Objection} :
    mapping.outcome = .error said ↔
      ∃ name value, mapping.MisusesFirst name value ∧ objection name value = said := by
  constructor
  · intro fails
    rw [outcome] at fails
    split at fails
    next told =>
      cases fails
      obtain ⟨before, ⟨key, value⟩, behind, rfl, here, quiet⟩ := List.findSome?_eq_some_iff.mp told
      obtain ⟨name, known, rfl, unfit, same⟩ := objection?_eq_some_iff.mp here
      have none : before.findSome? objection? = none := List.findSome?_eq_none_iff.mpr quiet
      exact ⟨name, value, ⟨known, unfit, before, behind, rfl,
        findSome?_objection?_eq_none_iff.mp none⟩, same⟩
    next => cases fails
  · rintro ⟨name, value, first, rfl⟩
    exact first.outcome_eq

theorem MisusesFirst.misuses {mapping : Mapping} {name : String} {value : Json}
    (first : mapping.MisusesFirst name value) : mapping.Misuses name value := by
  obtain ⟨known, unfit, before, behind, rfl, -⟩ := first
  exact ⟨known, List.mem_append_right _ List.mem_cons_self, unfit⟩

/-- Where settings are misused, they are misused for a first time. -/
theorem exists_misusesFirst_iff {mapping : Mapping} :
    (∃ name value, mapping.MisusesFirst name value) ↔ ∃ name value, mapping.Misuses name value := by
  constructor
  · rintro ⟨name, value, first⟩
    exact ⟨name, value, first.misuses⟩
  · rintro ⟨name, value, misuses⟩
    cases fails : mapping.outcome with
    | error said =>
      obtain ⟨other, held, first, -⟩ := outcome_eq_error_iff.mp fails
      exact ⟨other, held, first⟩
    | ok values =>
      rw [outcome] at fails
      split at fails
      next => cases fails
      next quiet => exact absurd misuses (findSome?_objection?_eq_none_iff.mp quiet name value)

theorem nodup_of_outcome {mapping : Mapping} {values : Values}
    (settled : mapping.outcome = .ok values) : (values.map (·.1)).Nodup := by
  rw [outcome] at settled
  split at settled
  next => cases settled
  next =>
    cases settled
    have none : (([] : Values).map (·.1)).Nodup := List.nodup_nil
    exact Ordered.nodup_keys_putAll none _

end Mapping

theorem normalizeOnto_value (held : Values) (mapping : Mapping) :
    (normalizeOnto held mapping).value =
      match mapping.findSome? objection? with
      | some said => .error said
      | none => .ok (Ordered.putAll held (mapping.filterMap setting?)) := by
  induction mapping generalizing held with
  | nil => rfl
  | cons entry rest inductionHypothesis =>
    obtain ⟨key, value⟩ := entry
    rw [normalizeOnto, List.findSome?_cons, List.filterMap_cons, objection?, setting?]
    dsimp only
    -- Both sides look the key up in one way, so one case split on it decides them together.
    cases known : named? key with
    | none =>
      rw [named?] at known
      rw [known]
      exact inductionHypothesis held
    | some named =>
      rw [named?] at known
      rw [known]
      cases threshold? value with
      | some threshold => exact inductionHypothesis (Ordered.put held named.2 threshold)
      | none => rfl

/-- Normalizing gives what the mapping comes to. -/
theorem normalize_value (mapping : Mapping) : (normalize mapping).value = mapping.outcome :=
  normalizeOnto_value [] mapping

/-! ### Settings written down again -/

theorem named?_key (setting : Setting) :
    named? (CodePoint.ofString setting.key) = some (setting.key, setting) := by
  cases setting <;> decide

theorem threshold?_option (threshold : Option Nat) :
    threshold? (.option .nat threshold) = some threshold := by
  cases threshold with
  | none => rfl
  | some number => simp [threshold?, Json.option, Json.nat]

/-- Settings that are written down come to the same settings. -/
theorem outcome_toMapping {values : Values} (unique : (values.map (·.1)).Nodup) :
    values.toMapping.outcome = .ok values := by
  have quiet : values.toMapping.findSome? objection? = none := by
    rw [List.findSome?_eq_none_iff]
    intro entry member
    obtain ⟨⟨setting, threshold⟩, -, rfl⟩ := List.mem_map.mp member
    rw [objection?, named?_key, Option.bind_some, threshold?_option]
    rfl
  have same : values.toMapping.filterMap setting? = values := by
    rw [Values.toMapping, List.filterMap_map]
    refine (List.filterMap_congr fun entry _ => ?_).trans List.filterMap_some
    rw [Function.comp_apply, setting?, named?_key, Option.bind_some, threshold?_option]
    rfl
  have apart : (([] : Values).map (·.1) ++ values.map (·.1)).Nodup := unique
  rw [Mapping.outcome, quiet, same, Ordered.putAll_of_nodup apart]
  rfl

/-- Nothing is logged where every key names a setting. -/
theorem normalizeOnto_records {mapping : Mapping}
    (known : ∀ entry ∈ mapping, (named? entry.1).isSome) (held : Values) :
    (normalizeOnto held mapping).records = [] := by
  induction mapping generalizing held with
  | nil => rfl
  | cons entry rest inductionHypothesis =>
    obtain ⟨key, value⟩ := entry
    obtain ⟨here, behind⟩ := List.forall_mem_cons.mp known
    obtain ⟨named, spelled⟩ := Option.isSome_iff_exists.mp here
    rw [named?] at spelled
    rw [normalizeOnto, spelled]
    cases threshold? value with
    | some threshold => exact inductionHypothesis behind _
    | none => rfl

theorem create_value (mapping : Mapping) :
    (create mapping).value = mapping.outcome.map Values.overlay := by
  rw [← normalize_value]
  rfl

/-- Settings leave no threshold unset, and none of them is negative. -/
theorem exists_overlay_eq (values : Values) :
    ∃ warning error : Nat, values.overlay = ⟨some warning, some error⟩ := by
  have bound (setting : Setting) (default : Nat) :
      ∃ bound : Nat, (values.get? setting <|> some (default : Int)) = some (bound : Int) := by
    rw [Values.get?]
    cases (Ordered.get? values setting).bind id with
    | none => exact ⟨default, rfl⟩
    | some number => exact ⟨number, rfl⟩
  obtain ⟨warning, first⟩ := bound .warning 10
  obtain ⟨error, second⟩ := bound .error 20
  exact ⟨warning, error, congrArg₂ Thresholds.mk first second⟩

/-- Normalizing fails exactly if a setting is given a value that it cannot have, and the first such
value can be shown; if it has a number that is too long, it breaks down instead. Otherwise a second
pass over the settings changes nothing and has nothing to say, and the thresholds are the same
with and without it: two numbers that are not negative. -/
theorem normalize_once (mapping : Mapping) :
    ((∃ said, (normalize mapping).value = .error (.failure (.invalidConfiguration said))) ↔
      ∃ name value, mapping.MisusesFirst name value ∧ value.Short) ∧
    ((normalize mapping).value = .error (.overlong .found) ↔
      ∃ name value, mapping.MisusesFirst name value ∧ ¬ value.Short) ∧
    ((∃ name value, mapping.MisusesFirst name value) ↔
      ∃ name value, mapping.Misuses name value) ∧
    ((¬ ∃ name value, mapping.Misuses name value) → ∃ values,
      (normalize mapping).value = .ok values ∧
      (normalize values.toMapping).value = .ok values ∧
      (normalize values.toMapping).records = [] ∧
      (create mapping).value = (create values.toMapping).value ∧
      ∃ warning error : Nat, (create mapping).value = .ok ⟨some warning, some error⟩) := by
  simp only [normalize_value, create_value]
  refine ⟨⟨?_, ?_⟩, ?_, Mapping.exists_misusesFirst_iff, fun fits => ?_⟩
  · rintro ⟨said, fails⟩
    obtain ⟨name, value, first, same⟩ := Mapping.outcome_eq_error_iff.mp fails
    exact ⟨name, value, first, exists_objection_eq_failure_iff.mp ⟨said, same⟩⟩
  · rintro ⟨name, value, first, short⟩
    obtain ⟨said, failure⟩ := exists_objection_eq_failure_iff.mpr short
    exact ⟨said, Mapping.outcome_eq_error_iff.mpr ⟨name, value, first, failure⟩⟩
  · rw [Mapping.outcome_eq_error_iff]
    exact exists₂_congr fun _ _ => and_congr_right fun _ => objection_eq_overlong_iff
  · cases settled : mapping.outcome with
    | error said =>
      obtain ⟨name, value, first, -⟩ := Mapping.outcome_eq_error_iff.mp settled
      exact absurd ⟨name, value, first.misuses⟩ fits
    | ok values =>
      have again := outcome_toMapping (Mapping.nodup_of_outcome settled)
      have known : ∀ entry ∈ values.toMapping, (named? entry.1).isSome := by
        intro entry member
        obtain ⟨⟨setting, threshold⟩, -, rfl⟩ := List.mem_map.mp member
        rw [named?_key]
        rfl
      obtain ⟨warning, error, bounds⟩ := exists_overlay_eq values
      refine ⟨values, rfl, again, normalizeOnto_records known [], by rw [again], warning, error, ?_⟩
      rw [← bounds]
      rfl

/-- The error threshold in both spellings, first as null; a key that is no setting; and the warning
threshold as zero. -/
def mixedSpellings : Mapping :=
  [(CodePoint.ofString "cyclomaticError", .null), (CodePoint.ofString "level", .bool true),
    (CodePoint.ofString "cyclomatic_error", .int 7),
    (CodePoint.ofString "cyclomaticWarning", .int 0)]

/-- A warning threshold that is fine, and an error threshold that is negative and has one digit too
many. -/
def overlongThreshold : Mapping :=
  [(CodePoint.ofString "cyclomaticWarning", .int 5),
    (CodePoint.ofString "cyclomaticError", .int (-(10 ^ Text.longestNumeral : Nat)))]

theorem misusesFirst_overlongThreshold : overlongThreshold.MisusesFirst "cyclomaticError"
    (.int (-(10 ^ Text.longestNumeral : Nat))) := by
  refine ⟨by decide, ⟨Json.noConfusion, fun number same => ?_⟩,
    [(CodePoint.ofString "cyclomaticWarning", .int 5)], [], rfl, ?_⟩
  · have positive : 0 < 10 ^ Text.longestNumeral := Nat.pow_pos (by decide)
    have equal := Json.int.inj same
    omega
  · rintro name value ⟨-, entry, unfit⟩
    exact unfit.2 5 (Prod.mk.inj (List.mem_singleton.mp entry)).2

theorem normalize_once_mixedSpellings :
    let values : Values := [(.error, some 7), (.warning, some 0)]
    (¬ ∃ name value, mixedSpellings.Misuses name value) ∧
      (normalize mixedSpellings).value = .ok values ∧
      (normalize values.toMapping).value = .ok values ∧
      (normalize values.toMapping).records = [] ∧
      (∃ name value, overlongThreshold.Misuses name value) ∧
      (normalize overlongThreshold).value = .error (.overlong .found) := by
  intro values
  have settled : (normalize mixedSpellings).value = .ok values := by rfl
  have fits : ¬ ∃ name value, mixedSpellings.Misuses name value := by
    rw [← (normalize_once mixedSpellings).2.2.1]
    rintro ⟨name, value, first⟩
    cases settled.symm.trans ((normalize_value _).trans first.outcome_eq)
  obtain ⟨_, same, again, quiet, -⟩ := (normalize_once mixedSpellings).2.2.2 fits
  cases settled.symm.trans same
  have long : ¬ Json.Short (.int (-(10 ^ Text.longestNumeral : Nat))) := by
    rw [Json.short_int_iff, Nat.not_le]
    exact Text.lt_digitCount (by decide) (by rw [Int.natAbs_neg, Int.natAbs_natCast])
  exact ⟨fits, settled, again, quiet, ⟨_, _, misusesFirst_overlongThreshold.misuses⟩,
    (normalize_once overlongThreshold).2.1.mpr ⟨_, _, misusesFirst_overlongThreshold, long⟩⟩

end Config

end Tangle
