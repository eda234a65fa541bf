import Mathlib.Data.List.Basic
import Mathlib.Data.List.Nodup
import Mathlib.Data.List.Perm.Basic
import Mathlib.Data.List.Forall2

/-
This file models the suggest-sys-rule configs of the monitor service, the drivers they
name, and the cron jobs that `InitSuggestSysRuleCronjob`, `PostCreate` and `PostUpdate`
keep for them.
-/

namespace OneCloud.Monitor

/-- A suggest-sys-rule driver, known by the type `GetType` returns. -/
structure SuggestSysRuleDriver where
  type : String
  deriving DecidableEq, Repr

/-- The `suggestSysRuleDrivers` map, one driver per type. -/
structure SuggestSysRuleDrivers where
  drivers : List SuggestSysRuleDriver
  distinct : (drivers.map SuggestSysRuleDriver.type).Nodup

namespace SuggestSysRuleDrivers

/-- `suggestSysRuleDrivers[key]`, `nil` when no driver has this type. -/
def get (registry : SuggestSysRuleDrivers) (key : String) : Option SuggestSysRuleDriver :=
  registry.drivers.find? fun driver => driver.type == key

/-- This is `RegisterSuggestSysRuleDrivers`: each driver replaces the one of its type. -/
def register (registry : SuggestSysRuleDrivers) : List SuggestSysRuleDriver → SuggestSysRuleDrivers
  | [] => registry
  | driver :: rest =>
      register ⟨(registry.drivers.filter fun other => other.type != driver.type) ++ [driver], by
        rw [List.map_append, List.nodup_append]
        refine ⟨registry.distinct.sublist ((List.filter_sublist _).map _), List.nodup_singleton _, ?_⟩
        intro key kept added
        simp only [List.mem_map, List.mem_filter, bne_iff_ne, ne_eq] at kept
        simp only [List.map_cons, List.map_nil, List.mem_singleton] at added
        obtain ⟨other, ⟨-, differs⟩, rfl⟩ := kept
        exact differs added⟩ rest

theorem get_type {registry : SuggestSysRuleDrivers} {key : String} {driver : SuggestSysRuleDriver}
    (found : registry.get key = some driver) : driver.type = key ∧ driver ∈ registry.drivers :=
  ⟨by simpa using List.find?_some found, List.mem_of_find?_eq_some found⟩

end SuggestSysRuleDrivers

/-- The drivers that the package's `init` registers: the unused-EIP driver. -/
def eipUnusedDrivers : SuggestSysRuleDrivers :=
  SuggestSysRuleDrivers.register ⟨[], List.nodup_nil⟩ [⟨"EIP_UNUSED"⟩]

/-- A row of `suggestsysrule_tbl`, with the fields the cron wiring reads. -/
structure DSuggestSysRuleConfig where
  name : String
  type : String
  period : String
  enabled : Bool
  setting : String
  deriving DecidableEq, Repr

/-- A job of the cron manager: its interval, driver and whether it starts at once. -/
structure CronJob where
  interval : Nat
  driver : SuggestSysRuleDriver
  startRun : Bool
  deriving DecidableEq, Repr

/-- Modelled from the spec: the job registry of `cronman`, from job name to job. -/
structure CronJobManager where
  jobs : List (String × CronJob)
  distinct : (jobs.map Prod.fst).Nodup

namespace CronJobManager

/-- A registry with no job. -/
def empty : CronJobManager := ⟨[], List.nodup_nil⟩

/-- The job registered under a name. -/
def get (manager : CronJobManager) (name : String) : Option CronJob :=
  manager.jobs.lookup name

/-- This is `Remove`. -/
def remove (manager : CronJobManager) (name : String) : CronJobManager :=
  ⟨manager.jobs.filter (·.1 != name), manager.distinct.sublist ((List.filter_sublist _).map _)⟩

/-- This is `AddJobAtIntervalsWithStartRun`: the job replaces any job of the same name. -/
def addJobAtIntervalsWithStartRun (manager : CronJobManager) (name : String) (interval : Nat)
    (driver : SuggestSysRuleDriver) (startRun : Bool) : CronJobManager :=
  ⟨(name, ⟨interval, driver, startRun⟩) :: (manager.remove name).jobs, by
    refine List.nodup_cons.mpr ⟨fun found => ?_, (manager.remove name).distinct⟩
    obtain ⟨entry, kept, same⟩ := List.mem_map.mp found
    exact absurd same (by simpa using (List.mem_filter.mp kept).2)⟩

theorem mem_remove {manager : CronJobManager} {name : String} {entry : String × CronJob}
    (member : entry ∈ (manager.remove name).jobs) : entry ∈ manager.jobs :=
  (List.mem_filter.mp member).1

theorem mem_addJobAtIntervalsWithStartRun {manager : CronJobManager} {name : String} {interval : Nat}
    {driver : SuggestSysRuleDriver} {startRun : Bool} {entry : String × CronJob}
    (member : entry ∈ (manager.addJobAtIntervalsWithStartRun name interval driver startRun).jobs) :
    entry ∈ manager.jobs ∨ entry = (name, ⟨interval, driver, startRun⟩) := by
  rcases List.mem_cons.mp member with added | kept
  · exact .inr added
  · exact .inl (mem_remove kept)

theorem lookup_cons_ne {β : Type} {key other : String} (job : β) (rest : List (String × β))
    (differs : other ≠ key) : ((key, job) :: rest).lookup other = rest.lookup other := by
  have unequal : (other == key) = false := by simpa using differs
  simp only [List.lookup_cons, unequal]

theorem lookup_filter_ne {β : Type} (jobs : List (String × β)) (name other : String) :
    (jobs.filter (·.1 != name)).lookup other = if other = name then none else jobs.lookup other := by
  induction jobs with
  | nil => simp
  | cons entry rest ih =>
      obtain ⟨key, job⟩ := entry
      by_cases dropped : key = name
      · subst dropped
        rw [List.filter_cons_of_neg (by simp), ih]
        split_ifs with hit
        · rfl
        · rw [lookup_cons_ne _ _ hit]
      · rw [List.filter_cons_of_pos (by simpa using dropped)]
        by_cases hit : other = key
        · subst hit
          simp [dropped]
        · rw [lookup_cons_ne _ _ hit, lookup_cons_ne _ _ hit, ih]

@[simp] theorem get_remove (manager : CronJobManager) (name other : String) :
    (manager.remove name).get other = if other = name then none else manager.get other :=
  lookup_filter_ne _ _ _

@[simp] theorem get_addJobAtIntervalsWithStartRun (manager : CronJobManager) (name : String) (interval : Nat)
    (driver : SuggestSysRuleDriver) (startRun : Bool) (other : String) :
    (manager.addJobAtIntervalsWithStartRun name interval driver startRun).get other =
      if other = name then some ⟨interval, driver, startRun⟩ else manager.get other := by
  by_cases same : other = name
  · subst same
    simp [get, addJobAtIntervalsWithStartRun]
  · have removed := get_remove manager name other
    rw [if_neg same] at removed ⊢
    exact (lookup_cons_ne _ _ same).trans removed

end CronJobManager

/-- What the cron wiring depends on: the drivers, `time.ParseDuration` and `ValidateSetting`. -/
structure SuggestSysEnv where
  drivers : SuggestSysRuleDrivers
  parseDuration : String → Option Nat
  validateSetting : SuggestSysRuleDriver → String → Option String

/-- The interval `time.ParseDuration` gives a period, zero when it fails. -/
def SuggestSysEnv.interval (env : SuggestSysEnv) (period : String) : Nat :=
  (env.parseDuration period).getD 0

/-- `time.Duration(30)*time.Second`. -/
def defaultInterval : Nat := 30 * 1000000000

/-- How a request ends: refused with an input error, or in a panic. -/
inductive RequestError where
  | inputParameter (msg : String)
  | wrap (cause msg : String)
  | panicked
  deriving DecidableEq, Repr

/-- The loop of `InitSuggestSysRuleCronjob`, which panics at an enabled config with no driver. -/
def addConfigJobs (env : SuggestSysEnv) :
    CronJobManager → List DSuggestSysRuleConfig → CronJobManager × Option RequestError
  | manager, [] => (manager, none)
  | manager, config :: rest =>
      if config.enabled then
        match env.drivers.get config.type with
        | some driver =>
            addConfigJobs env (manager.addJobAtIntervalsWithStartRun config.type (env.interval config.period) driver true)
              rest
        | none => (manager, some .panicked)
      else addConfigJobs env manager rest

/-- This is `InitSuggestSysRuleCronjob`, with the jobs it has added when it panics. -/
def initSuggestSysRuleCronjob (env : SuggestSysEnv) (configs : List DSuggestSysRuleConfig)
    (manager : CronJobManager) : CronJobManager × Option RequestError :=
  match addConfigJobs env manager configs with
  | (manager, some err) => (manager, some err)
  | (manager, none) =>
      if configs.isEmpty then
        (env.drivers.drivers.foldl (fun manager driver =>
          manager.addJobAtIntervalsWithStartRun driver.type defaultInterval driver true) manager, none)
      else (manager, none)

/-- This is `PostCreate`, with the job under the name already removed when it panics. -/
def DSuggestSysRuleConfig.postCreate (env : SuggestSysEnv) (self : DSuggestSysRuleConfig)
    (manager : CronJobManager) : CronJobManager × Option RequestError :=
  let manager := manager.remove self.name
  if self.enabled then
    match env.drivers.get self.type with
    | some driver => (manager.addJobAtIntervalsWithStartRun self.name (env.interval self.period) driver true, none)
    | none => (manager, some .panicked)
  else (manager, none)

/-- This is `PostUpdate`, which looks the driver up by the config's name. -/
def DSuggestSysRuleConfig.postUpdate (env : SuggestSysEnv) (self : DSuggestSysRuleConfig)
    (manager : CronJobManager) : CronJobManager × Option RequestError :=
  let manager := manager.remove self.name
  if self.enabled then
    match env.drivers.get self.name with
    | some driver => (manager.addJobAtIntervalsWithStartRun self.name (env.interval self.period) driver true, none)
    | none => (manager, some .panicked)
  else (manager, none)

/-- The fields of a create request that the checks and the generic create read. -/
structure SuggestSysRuleCreateInput where
  name : String
  period : String
  type : String
  enabled : Bool
  setting : String
  deriving DecidableEq, Repr

/-- The fields of an update request; a field left out is `none`. -/
structure SuggestSysRuleUpdateInput where
  period : String
  type : Option String
  enabled : Option Bool
  setting : String
  deriving DecidableEq, Repr

/-- This is `ValidateCreateData`. -/
def validateCreateData (env : SuggestSysEnv) (data : SuggestSysRuleCreateInput) :
    Except RequestError SuggestSysRuleCreateInput :=
  let data := if data.period = "" then { data with period := "30s" } else data
  match env.parseDuration data.period with
  | none => .error (.inputParameter ("Invalid period format: " ++ data.period))
  | some _ =>
      match env.drivers.get data.type with
      | none => .error (.inputParameter ("not support type " ++ data.type.quote))
      | some driver =>
          match env.validateSetting driver data.setting with
          | some cause => .error (.wrap cause "validate setting error")
          | none => .ok data

/-- This is `ValidateUpdateData`, which panics when the stored type has no driver. -/
def DSuggestSysRuleConfig.validateUpdateData (env : SuggestSysEnv) (rule : DSuggestSysRuleConfig)
    (data : SuggestSysRuleUpdateInput) : Except RequestError SuggestSysRuleUpdateInput :=
  let data := if data.period = "" then { data with period := "30s" } else data
  match env.parseDuration data.period with
  | none => .error (.inputParameter ("Invalid period format: " ++ data.period))
  | some _ =>
      match env.drivers.get rule.type with
      | none => .error .panicked
      | some driver =>
          match env.validateSetting driver data.setting with
          | some cause => .error (.wrap cause "validate setting error")
          | none => .ok data

/-- The configs stored and the cron jobs the monitor service runs. -/
structure SuggestSysRuleState where
  configs : List DSuggestSysRuleConfig
  cron : CronJobManager

/-- A start of the service, a create, or an update of the config at a position. -/
inductive SuggestSysRuleStep where
  | start
  | create (input : SuggestSysRuleCreateInput)
  | update (index : Nat) (input : SuggestSysRuleUpdateInput)

/-- The config that the generic update writes from a validated update request. -/
def DSuggestSysRuleConfig.updated (rule : DSuggestSysRuleConfig) (data : SuggestSysRuleUpdateInput) :
    DSuggestSysRuleConfig :=
  { rule with period := data.period, type := data.type.getD rule.type,
              enabled := data.enabled.getD rule.enabled, setting := data.setting }

/-- One step: the state it leaves and its error; a panic keeps what was done. -/
def SuggestSysRuleStep.run (env : SuggestSysEnv) :
    SuggestSysRuleStep → SuggestSysRuleState → SuggestSysRuleState × Option RequestError
  | .start, state =>
      let (cron, err) := initSuggestSysRuleCronjob env state.configs state.cron
      ({ state with cron }, err)
  | .create input, state =>
      match validateCreateData env input with
      | .error err => (state, some err)
      | .ok data =>
          let config : DSuggestSysRuleConfig := ⟨data.name, data.type, data.period, data.enabled, data.setting⟩
          let (cron, err) := config.postCreate env state.cron
          (⟨state.configs ++ [config], cron⟩, err)
  | .update index input, state =>
      match state.configs[index]? with
      | none => (state, some (.inputParameter "not found"))
      | some rule =>
          match rule.validateUpdateData env input with
          | .error err => (state, some err)
          | .ok data =>
              let (cron, err) := (rule.updated data).postUpdate env state.cron
              (⟨state.configs.set index (rule.updated data), cron⟩, err)

/-- The states a fresh service reaches, through requests that fail or panic as well. -/
inductive Reachable (env : SuggestSysEnv) : SuggestSysRuleState → Prop
  | init : Reachable env ⟨[], .empty⟩
  | step {state : SuggestSysRuleState} (request : SuggestSysRuleStep) :
      Reachable env state → Reachable env (request.run env state).1

/-- Steps run in order, stopping at the first that returns an error. -/
def runSteps (env : SuggestSysEnv) : List SuggestSysRuleStep → SuggestSysRuleState →
    Except RequestError SuggestSysRuleState
  | [], state => .ok state
  | step :: rest, state =>
      match step.run env state with
      | (next, none) => runSteps env rest next
      | (_, some err) => .error err

theorem reachable_runSteps {env : SuggestSysEnv} :
    ∀ (steps : List SuggestSysRuleStep) {state next : SuggestSysRuleState},
      Reachable env state → runSteps env steps state = .ok next → Reachable env next
  | [], _, _, reached, done => by cases done; exact reached
  | step :: rest, state, next, reached, done => by
      simp only [runSteps] at done
      split at done
      · rename_i middle stepped
        have next : Reachable env (step.run env state).1 := .step step reached
        rw [stepped] at next
        exact reachable_runSteps rest next done
      · cases done

/-- Exactly one job for each enabled config, running its type's driver. -/
def JobsMatchConfigs (env : SuggestSysEnv) (state : SuggestSysRuleState) : Prop :=
  ∃ assigned : List DSuggestSysRuleConfig, assigned.Perm (state.configs.filter (·.enabled)) ∧
    List.Forall₂ (fun config entry => env.drivers.get config.type = some entry.2.driver) assigned state.cron.jobs

theorem JobsMatchConfigs.length_eq {env : SuggestSysEnv} {state : SuggestSysRuleState}
    (consistent : JobsMatchConfigs env state) :
    state.cron.jobs.length = (state.configs.filter (·.enabled)).length := by
  obtain ⟨assigned, perm, related⟩ := consistent
  rw [← related.length_eq, perm.length_eq]

/-- `PostUpdate` is `PostCreate` of the config with its name in place of its type. -/
theorem DSuggestSysRuleConfig.postUpdate_eq_postCreate (env : SuggestSysEnv) (self : DSuggestSysRuleConfig)
    (manager : CronJobManager) :
    self.postUpdate env manager = { self with type := self.name }.postCreate env manager := rfl

/-- `PostCreate` sets only the config's job: its driver when enabled, none otherwise. -/
theorem DSuggestSysRuleConfig.postCreate_get (env : SuggestSysEnv) (self : DSuggestSysRuleConfig)
    (manager : CronJobManager) :
    (self.postCreate env manager).1.get self.name =
        (if self.enabled then (env.drivers.get self.type).map fun driver =>
          ⟨env.interval self.period, driver, true⟩ else none) ∧
      ∀ other ≠ self.name, (self.postCreate env manager).1.get other = manager.get other := by
  refine ⟨?_, fun other differs => ?_⟩ <;> unfold postCreate <;>
    cases self.enabled <;> cases env.drivers.get self.type <;> simp [*]

/-- `PostUpdate` panics on an enabled config named no driver, after removing its job. -/
theorem DSuggestSysRuleConfig.postUpdate_panics (env : SuggestSysEnv) (self : DSuggestSysRuleConfig)
    (manager : CronJobManager) (enabled : self.enabled = true) (unknown : env.drivers.get self.name = none) :
    self.postUpdate env manager = (manager.remove self.name, some .panicked) := by
  simp [postUpdate, enabled, unknown]

/-- Every job runs a registered driver. -/
def JobsRunRegisteredDrivers (env : SuggestSysEnv) (manager : CronJobManager) : Prop :=
  ∀ entry ∈ manager.jobs, entry.2.driver ∈ env.drivers.drivers

section Registered

variable {env : SuggestSysEnv}

theorem jobsRunRegisteredDrivers_addJob {manager : CronJobManager} (name : String) (interval : Nat)
    {driver : SuggestSysRuleDriver} (startRun : Bool) (registered : driver ∈ env.drivers.drivers)
    (holds : JobsRunRegisteredDrivers env manager) :
    JobsRunRegisteredDrivers env (manager.addJobAtIntervalsWithStartRun name interval driver startRun) := by
  intro entry member
  rcases CronJobManager.mem_addJobAtIntervalsWithStartRun member with kept | rfl
  · exact holds entry kept
  · exact registered

theorem jobsRunRegisteredDrivers_remove {manager : CronJobManager} (name : String)
    (holds : JobsRunRegisteredDrivers env manager) : JobsRunRegisteredDrivers env (manager.remove name) :=
  fun entry member => holds entry (CronJobManager.mem_remove member)

theorem jobsRunRegisteredDrivers_postCreate (self : DSuggestSysRuleConfig) {manager : CronJobManager}
    (holds : JobsRunRegisteredDrivers env manager) : JobsRunRegisteredDrivers env (self.postCreate env manager).1 := by
  have removed := jobsRunRegisteredDrivers_remove self.name holds
  unfold DSuggestSysRuleConfig.postCreate
  split
  · split
    · exact jobsRunRegisteredDrivers_addJob _ _ _ (SuggestSysRuleDrivers.get_type ‹_›).2 removed
    · exact removed
  · exact removed

theorem jobsRunRegisteredDrivers_addConfigJobs :
    ∀ (configs : List DSuggestSysRuleConfig) {manager : CronJobManager},
      JobsRunRegisteredDrivers env manager → JobsRunRegisteredDrivers env (addConfigJobs env manager configs).1
  | [], _, holds => holds
  | config :: rest, manager, holds => by
      unfold addConfigJobs
      split
      · split
        · exact jobsRunRegisteredDrivers_addConfigJobs rest
            (jobsRunRegisteredDrivers_addJob _ _ _ (SuggestSysRuleDrivers.get_type ‹_›).2 holds)
        · exact holds
      · exact jobsRunRegisteredDrivers_addConfigJobs rest holds

theorem jobsRunRegisteredDrivers_addDefaultJobs :
    ∀ (drivers : List SuggestSysRuleDriver) {manager : CronJobManager},
      (∀ driver ∈ drivers, driver ∈ env.drivers.drivers) → JobsRunRegisteredDrivers env manager →
        JobsRunRegisteredDrivers env (drivers.foldl (fun manager driver =>
          manager.addJobAtIntervalsWithStartRun driver.type defaultInterval driver true) manager)
  | [], _, _, holds => holds
  | driver :: rest, _, registered, holds =>
      jobsRunRegisteredDrivers_addDefaultJobs rest (fun other member => registered other (List.mem_cons_of_mem _ member))
        (jobsRunRegisteredDrivers_addJob _ _ _ (registered driver (List.mem_cons_self _ _)) holds)

theorem jobsRunRegisteredDrivers_init (configs : List DSuggestSysRuleConfig) {manager : CronJobManager}
    (holds : JobsRunRegisteredDrivers env manager) :
    JobsRunRegisteredDrivers env (initSuggestSysRuleCronjob env configs manager).1 := by
  have configured := jobsRunRegisteredDrivers_addConfigJobs configs holds
  unfold initSuggestSysRuleCronjob
  generalize addConfigJobs env manager configs = added at configured
  rcases added with ⟨added, _ | err⟩
  · dsimp only
    split
    · exact jobsRunRegisteredDrivers_addDefaultJobs _ (fun _ member => member) configured
    · exact configured
  · exact configured

/-- Every step, failed and panicking ones included, keeps every job on a registered driver. -/
theorem SuggestSysRuleStep.run_jobsRunRegisteredDrivers (request : SuggestSysRuleStep) {state : SuggestSysRuleState}
    (holds : JobsRunRegisteredDrivers env state.cron) : JobsRunRegisteredDrivers env (request.run env state).1.cron := by
  cases request with
  | start => exact jobsRunRegisteredDrivers_init state.configs holds
  | create input =>
      simp only [run]
      split
      · exact holds
      · exact jobsRunRegisteredDrivers_postCreate _ holds
  | update index input =>
      simp only [run]
      split
      · exact holds
      split
      · exact holds
      · rw [DSuggestSysRuleConfig.postUpdate_eq_postCreate]
        exact jobsRunRegisteredDrivers_postCreate _ holds

/-- In every state a fresh service reaches, every cron job runs a registered driver. -/
theorem reachable_jobsRunRegisteredDrivers {state : SuggestSysRuleState} (reached : Reachable env state) :
    JobsRunRegisteredDrivers env state.cron := by
  induction reached with
  | init => exact fun _ member => absurd member (List.not_mem_nil _)
  | step request _ ih => exact request.run_jobsRunRegisteredDrivers ih

end Registered

/-- A rule named other than its type gets a job beside the default one. -/
theorem suggestSysRule_default_job_survives_create :
    let env : SuggestSysEnv :=
      ⟨eipUnusedDrivers, fun period => if period = "30s" then some 30000000000 else none, fun _ _ => none⟩
    ∃ state, runSteps env [.start, .create ⟨"rule1", "", "EIP_UNUSED", true, ""⟩]
        ⟨[], .empty⟩ = .ok state ∧ Reachable env state ∧ state.configs ≠ [] ∧
      (∀ config ∈ state.configs, (env.drivers.get config.type).isSome) ∧
      state.cron.jobs.map Prod.fst = ["rule1", "EIP_UNUSED"] ∧ ¬ JobsMatchConfigs env state :=
  ⟨_, by rfl, reachable_runSteps [.start, .create ⟨"rule1", "", "EIP_UNUSED", true, ""⟩] .init (by rfl),
    by decide, by decide, by decide,
    fun consistent => absurd consistent.length_eq (by decide)⟩

end OneCloud.Monitor
