import EventSieve.Proofs.Stage.Starts
import Mathlib.Data.List.DropRight

/-!
# Names in the context

Names are set in the context again and again, and now and then all of them are taken away.
What the context shows for the stage is the last name that was given for it since then, where
an empty name is none; what it shows for the pipeline goes the same way on its own. `latest`
reads this off a row of steps. It is the same fold for both, so it is proved once, for any view
of the context that each step empties, renews or keeps.

Records and reports bear the names that the context shows.
-/

namespace EventSieve

theorem Fields.filter_set {key : String} {keep : String → Bool} (h : keep key = false)
    (fields : Fields) (value : Value) :
    (set fields key value).filter (fun field => keep field.1) =
      fields.filter fun field => keep field.1 := by
  induction fields with
  | nil => simp [set, h]
  | cons field fields ih =>
      obtain ⟨k, v⟩ := field
      by_cases hk : k = key
      · simp [set, hk, h]
      · rw [set, if_neg hk, List.filter_cons, List.filter_cons, ih]

namespace Context

/-! ## The latest name -/

namespace Step

def stage? : Step → Option String
  | set stage _ => given stage
  | clear => none

def pipeline? : Step → Option String
  | set _ pipeline => given pipeline
  | clear => none

def isClear : Step → Bool
  | set _ _ => false
  | clear => true

end Step

/-- The last of the names that steps give since all names were taken away. -/
def latest (name? : Step → Option String) (steps : List Step) : Option String :=
  ((steps.rtakeWhile fun step => !step.isClear).filterMap name?).getLast?

section Latest

variable {name? : Step → Option String}

theorem latest_concat_of_isClear (steps : List Step) {step : Step} (h : step.isClear = true) :
    latest name? (steps ++ [step]) = none := by
  rw [latest, List.rtakeWhile_concat_neg _ _ _ (by simp [h])]
  rfl

theorem latest_concat_of_not_isClear (steps : List Step) {step : Step}
    (h : step.isClear = false) :
    latest name? (steps ++ [step]) = (name? step).or (latest name? steps) := by
  rw [latest, List.rtakeWhile_concat_pos _ _ _ (by simp [h]), List.filterMap_append,
    List.getLast?_append, latest]
  cases hname : name? step with
  | none =>
      rw [List.filterMap_cons_none hname]
      rfl
  | some name =>
      rw [List.filterMap_cons_some hname]
      rfl

theorem exists_of_latest_eq_some {steps : List Step} {name : String}
    (h : latest name? steps = some name) : ∃ step ∈ steps, name? step = some name := by
  obtain ⟨step, hstep, hname⟩ := List.mem_filterMap.mp (List.mem_of_getLast? h)
  exact ⟨step, (List.rtakeWhile_suffix _ _).subset hstep, hname⟩

theorem latest_congr {steps others : List Step}
    (h : steps.map (fun step => (step.isClear, name? step)) =
      others.map fun step => (step.isClear, name? step)) :
    latest name? steps = latest name? others := by
  induction steps using List.reverseRecOn generalizing others with
  | nil =>
      rw [List.map_nil, eq_comm, List.map_eq_nil_iff] at h
      rw [h]
  | append_singleton steps step ih =>
      cases others using List.reverseRecOn with
      | nil => simp at h
      | append_singleton others other =>
          simp only [List.map_append, List.map_cons, List.map_nil] at h
          obtain ⟨hsteps, hlast⟩ := List.append_inj' h rfl
          obtain ⟨hclear, hname⟩ := Prod.mk.inj (List.singleton_inj.mp hlast)
          cases hstep : step.isClear with
          | true =>
              rw [latest_concat_of_isClear _ hstep,
                latest_concat_of_isClear _ (hclear.symm.trans hstep)]
          | false =>
              rw [latest_concat_of_not_isClear _ hstep,
                latest_concat_of_not_isClear _ (hclear.symm.trans hstep), hname, ih hsteps]

end Latest

/-! ## Names that are not empty -/

theorem given_ne_empty (name : Option String) : given name ≠ some "" := by
  cases name with
  | none => nofun
  | some name => simp [given, Option.filter_eq_some_iff]

theorem given_of_ne_empty {name : Option String} (h : name ≠ some "") : given name = name := by
  cases name with
  | none => rfl
  | some name =>
      have hname : name ≠ "" := fun hempty => h (congrArg some hempty)
      simp [given, Option.filter, hname]

theorem Step.stage?_ne_empty (step : Step) : step.stage? ≠ some "" := by
  cases step with
  | set stage _ => exact given_ne_empty stage
  | clear => nofun

theorem Step.pipeline?_ne_empty (step : Step) : step.pipeline? ≠ some "" := by
  cases step with
  | set _ pipeline => exact given_ne_empty pipeline
  | clear => nofun

theorem latest_ne_empty {name? : Step → Option String} (h : ∀ step, name? step ≠ some "")
    (steps : List Step) : latest name? steps ≠ some "" := by
  intro hempty
  obtain ⟨step, -, hstep⟩ := exists_of_latest_eq_some hempty
  exact h step hstep

/-! ## Runs -/

theorem run_concat (c : Context) (steps : List Step) (step : Step) :
    c.run (steps ++ [step]) = (c.run steps).after step := by
  rw [run, List.foldl_append]
  rfl

/-- What a view of the context shows after a run, if it shows nothing of an empty context and a
step that sets names puts the one that it gives in the place of the old one. -/
theorem view_run {view : Context → Option String} {name? : Step → Option String}
    (hempty : view empty = none)
    (hset : ∀ c stage pipeline, view (c.set stage pipeline) =
      (name? (.set stage pipeline)).or (view c)) (steps : List Step) :
    view (empty.run steps) = latest name? steps := by
  induction steps using List.reverseRecOn with
  | nil => exact hempty
  | append_singleton steps step ih =>
      rw [run_concat]
      cases step with
      | set stage pipeline =>
          rw [latest_concat_of_not_isClear _ rfl, ← ih]
          exact hset (empty.run steps) stage pipeline
      | clear =>
          rw [latest_concat_of_isClear _ rfl]
          exact hempty

theorem stage_run (steps : List Step) : (empty.run steps).stage = latest Step.stage? steps :=
  view_run rfl (fun c stage _ => rename_eq_or c.stage stage) steps

theorem pipeline_run (steps : List Step) :
    (empty.run steps).pipeline = latest Step.pipeline? steps :=
  view_run rfl (fun c _ pipeline => rename_eq_or c.pipeline pipeline) steps

/-! ## Records -/

theorem filter_setName {key : String} (keep : String → Bool) (h : keep key = false)
    (fields : Fields) (name : Option String) :
    (setName fields key name).filter (fun field => keep field.1) =
      fields.filter fun field => keep field.1 := by
  cases name with
  | none => rfl
  | some name =>
      rw [setName]
      split
      · rfl
      · exact Fields.filter_set h fields _

def ownFields (fields : Fields) : Fields :=
  fields.filter fun field => field.1 != "stage" && field.1 != "pipeline"

theorem ownFields_mark (c : Context) (fields : Fields) :
    ownFields (c.mark fields) = ownFields fields := by
  rw [ownFields, ownFields, mark,
    filter_setName (fun key => key != "stage" && key != "pipeline") (by decide),
    filter_setName (fun key => key != "stage" && key != "pipeline") (by decide)]

/-- What a context shows after steps, and what records and reports take from it. -/
structure ShowsLatest (c : Context) (steps : List Step) : Prop where
  stage : c.stage = latest Step.stage? steps
  pipeline : c.pipeline = latest Step.pipeline? steps
  nonempty : c.stage ≠ some "" ∧ c.pipeline ≠ some ""
  /-- The names of pipelines have no part in what is shown for the stage. -/
  stage_alone : ∀ others : List Step,
    others.map (fun step => (step.isClear, step.stage?)) =
        steps.map (fun step => (step.isClear, step.stage?)) →
      (empty.run others).stage = c.stage
  /-- The names of stages have no part in what is shown for the pipeline. -/
  pipeline_alone : ∀ others : List Step,
    others.map (fun step => (step.isClear, step.pipeline?)) =
        steps.map (fun step => (step.isClear, step.pipeline?)) →
      (empty.run others).pipeline = c.pipeline
  /-- A record bears the names that are shown, and keeps its own where none is. -/
  record : ∀ fields : Fields,
    (c.mark fields).get? "stage" = (c.stage.map .str).or (fields.get? "stage") ∧
      (c.mark fields).get? "pipeline" = (c.pipeline.map .str).or (fields.get? "pipeline") ∧
      ownFields (c.mark fields) = ownFields fields
  /-- A report names the stage that is shown, or null. -/
  report : ∀ p : Problem, (p.report c.stage).get? "stage" = some (c.stage.elim .null .str)

/-- After any steps the context shows the last names that were given since all names were taken
away, the stage and the pipeline each on its own, and so do records and reports. -/
theorem run_shows_latest (steps : List Step) : ShowsLatest (empty.run steps) steps := by
  have hstage : (empty.run steps).stage ≠ some "" := by
    rw [stage_run]
    exact latest_ne_empty Step.stage?_ne_empty steps
  have hpipeline : (empty.run steps).pipeline ≠ some "" := by
    rw [pipeline_run]
    exact latest_ne_empty Step.pipeline?_ne_empty steps
  refine ⟨stage_run steps, pipeline_run steps, ⟨hstage, hpipeline⟩, ?_, ?_, ?_, ?_⟩
  · intro others h
    rw [stage_run, stage_run, latest_congr h]
  · intro others h
    rw [pipeline_run, pipeline_run, latest_congr h]
  · intro fields
    refine ⟨?_, ?_, ownFields_mark _ fields⟩
    · rw [get?_stage_mark, given_of_ne_empty hstage]
    · rw [get?_pipeline_mark, given_of_ne_empty hpipeline]
  · intro p
    exact Stage.get?_stage_report p _

/-- An empty name and a missing one keep the name that is shown, and none is left of those that
were given before all were taken away. Other pipelines leave the stage as it is. -/
theorem run_after_clear_shows_latest :
    let steps : List Step := [.set (some "old") (some "kafka"), .clear,
      .set (some "errors") none, .set (some "") (some "nginx"), .set none (some "")]
    let others : List Step := [.set (some "old") none, .clear,
      .set (some "errors") (some "kafka"), .set none none, .set (some "") (some "syslog")]
    ShowsLatest (empty.run steps) steps ∧
      empty.run steps = ⟨some "errors", some "nginx"⟩ ∧
      (empty.run others).stage = (empty.run steps).stage ∧
      ((empty.run steps).mark [("pipeline", .null), ("ts", .int 1)]).get? "pipeline" =
        some (.str "nginx") := by
  intro steps others
  have h := run_shows_latest steps
  refine ⟨h, rfl, h.stage_alone others rfl, ?_⟩
  rw [(h.record _).2.1]
  rfl

end Context

end EventSieve
