/-
This file takes actions apart. An action that comes to its end gives a value and
leaves a workspace; for each way of building actions there is one lemma that says
what its end is made of. What an action is followed by starts where the action ended,
and if it is stopped, then by what followed.
-/

import Tangle.Command.Action

namespace Tangle.Command.Action

variable {α β : Type} {before after : Workspace}

/-- The action comes to its end with the given value and leaves the given workspace. -/
def Ends (action : Action α) (before : Workspace) (value : α) (after : Workspace) : Prop :=
  (action before).result = .ok value ∧ (action before).workspace = after

theorem ends_of_result {action : Action α} {value : α} (done : (action before).result = .ok value) :
    action.Ends before value (action before).workspace :=
  ⟨done, rfl⟩

theorem ends_pure_iff {value other : α} :
    (pure value : Action α).Ends before other after ↔ value = other ∧ before = after :=
  and_congr_left fun _ => Except.ok.injEq value other ▸ Iff.rfl

/-- What follows an action that came to its end starts where it ended. -/
theorem bind_eq_of_ok {first : Action α} (next : α → Action β) {value : α}
    (done : (first before).result = .ok value) :
    (first >>= next) before =
      ⟨(first before).events ++ (next value (first before).workspace).events,
        (next value (first before).workspace).workspace,
        (next value (first before).workspace).result⟩ := by
  show andThen first next before = _
  rw [andThen, done]

/-- Nothing follows an action that was stopped. -/
theorem bind_eq_of_error {first : Action α} (next : α → Action β) {halt : Halt}
    (stopped : (first before).result = .error halt) :
    (first >>= next) before = ⟨(first before).events, (first before).workspace, .error halt⟩ := by
  show andThen first next before = _
  rw [andThen, stopped]

theorem result_bind {first : Action α} (next : α → Action β) {value : α}
    (done : first.Ends before value after) :
    ((first >>= next) before).result = (next value after).result := by
  obtain ⟨result, rfl⟩ := done
  rw [bind_eq_of_ok next result]

theorem ends_bind_iff {first : Action α} {next : α → Action β} {value : β} :
    (first >>= next).Ends before value after ↔
      ∃ middle between, first.Ends before middle between ∧
        (next middle).Ends between value after := by
  constructor
  · intro ends
    cases stop : (first before).result with
    | error halt =>
      rw [Ends, bind_eq_of_error next stop] at ends
      cases ends.1
    | ok middle =>
      rw [Ends, bind_eq_of_ok next stop] at ends
      exact ⟨middle, _, ends_of_result stop, ends⟩
  · rintro ⟨middle, _, ⟨stop, rfl⟩, ends⟩
    rw [Ends, bind_eq_of_ok next stop]
    exact ends

theorem Ends.bind {between : Workspace} {first : Action α} {next : α → Action β} {middle : α}
    {value : β} (start : first.Ends before middle between)
    (rest : (next middle).Ends between value after) : (first >>= next).Ends before value after :=
  ends_bind_iff.mpr ⟨middle, between, start, rest⟩

/-! ### Basic actions -/

theorem ends_workspace_iff {value : Workspace} :
    workspace.Ends before value after ↔ before = value ∧ before = after :=
  and_congr_left fun _ => Except.ok.injEq before value ▸ Iff.rfl

theorem ends_event_iff {happens : Event} :
    (event happens).Ends before () after ↔ before = after :=
  ⟨fun ends => ends.2, fun same => ⟨rfl, same⟩⟩

theorem ends_log_iff {level : Level} {channel : Channel} {message : String} :
    (log level channel message).Ends before () after ↔ before = after :=
  ends_event_iff

theorem ends_orStop_iff {ε : Type} {halt : ε → Halt} {result : Except ε α} {value : α} :
    (orStop halt result).Ends before value after ↔ result = .ok value ∧ before = after := by
  cases result with
  | ok held => rw [orStop, ends_pure_iff, Except.ok.injEq]
  | error error => simp [orStop, stop, Ends]

theorem ends_change_iff {step : Workspace → Workspace.Changed} :
    (change step).Ends before () after ↔
      (step before).result = .ok () ∧ (step before).workspace = after := by
  refine and_congr_left fun _ => ?_
  show (step before).result.mapError _ = _ ↔ _
  cases (step before).result with
  | ok => exact iff_of_true rfl rfl
  | error error => exact iff_of_false nofun nofun

theorem ends_logged_iff {told : Logged α} {value : α} :
    (logged told).Ends before value after ↔ told.value = value ∧ before = after :=
  and_congr_left fun _ => Except.ok.injEq told.value value ▸ Iff.rfl

theorem ends_map {action : Action α} {value : α} (f : α → β)
    (ends : action.Ends before value after) : (f <$> action).Ends before (f value) after :=
  ends.bind (ends_pure_iff.mpr ⟨rfl, rfl⟩)

/-! ### Telling -/

/-- The action only tells something: it always comes to its end and changes no files. -/
def Tells (action : Action Unit) : Prop :=
  ∀ workspace, action.Ends workspace () workspace

theorem tells_pure : Tells (pure ()) := fun _ => ends_pure_iff.mpr ⟨rfl, rfl⟩

theorem tells_event (happens : Event) : Tells (event happens) := fun _ => ends_event_iff.mpr rfl

theorem Tells.bind {first : Action Unit} {next : Unit → Action Unit} (start : Tells first)
    (rest : Tells (next ())) : Tells (first >>= next) := fun workspace =>
  (start workspace).bind (rest workspace)

theorem tells_each {step : α → Action Unit} (steps : ∀ item, Tells (step item))
    (items : List α) : Tells (each step items) := by
  induction items with
  | nil => exact tells_pure
  | cons item rest inductionHypothesis => exact (steps item).bind inductionHypothesis

theorem Tells.onlyIf {action : Action Unit} (tells : Tells action) (condition : Bool) :
    Tells (onlyIf condition action) := by
  cases condition with
  | false => exact tells_pure
  | true => exact tells

end Tangle.Command.Action
