import ProxyControl.Runner.FailedDeployments

/-!
# The core and the active release

After a deployment or a rollback the core should run the configuration that
`active` names.  The core loads a configuration at a successful reload and at
no other time, and the runner reloads only between the switch of a deployment
and its verdict.  An explicit rollback, and a deployment that is undone after
its reload, move the link without telling the core.

What `active` names is what is read through it.  That is the configuration of a
release if the path of the work directory, which the link holds, leads back to
the work directory when the link is resolved there.
-/

namespace ProxyControl

open Calendar Effects FileSystem

namespace RunnerState

variable (crates : Crates)

/--
If the delivery ends as succeeded or rolled back, the core has loaded what
`active` names.
-/
def CoreFollows (s : RunnerState) (d : Delivery) : Prop :=
  ∀ result, (s.deliver crates d).1 = .ok result →
    result.status = .succeeded ∨ result.status = .rolledBack →
      (s.deliver crates d).2.host.loaded =
        s.runner.activeConfig (s.deliver crates d).2.host.disk

/-- The configuration of a release, read under the path of its directory. -/
def releaseConfig (s : RunnerState) (id : String) : Option Bytes :=
  s.host.disk.readFile ((s.runner.releaseDir id).join "config.json")

/--
When a deployment leaves the core in step.  Where a release was active before,
a deployment that fails leaves it active: the core must have loaded by then
what the link names in the end.
-/
structure DeploymentInStep
    (s : RunnerState) (d : Delivery) (id : String) (rendered : Bytes) :
    Prop where
  /-- Rejected by xray: the core has loaded the active configuration. -/
  rejected : ¬ Succeeds d.outcomes.test →
    ∀ previous, s.host.disk.readLink s.runner.active = some previous →
      s.host.loaded = s.runner.activeConfig s.host.disk
  /-- Not reloaded: the core has loaded what the previous release then holds. -/
  reloadFailed : Succeeds d.outcomes.test →
    ¬ s.runner.Passes d.outcomes .reload →
    ∀ previous, s.host.disk.readLink s.runner.active = some previous →
      s.host.loaded =
        if previous = s.runner.releaseDir id then some rendered
        else s.runner.activeConfig s.host.disk
  /-- Reloaded but not healthy: the previous release holds the new bytes. -/
  healthFailed : Succeeds d.outcomes.test →
    s.runner.Passes d.outcomes .reload →
    ¬ s.runner.Passes d.outcomes .health →
    ∀ previous, s.host.disk.readLink s.runner.active = some previous →
      previous = s.runner.releaseDir id ∨
        s.runner.activeConfig s.host.disk = some rendered

/-- When a delivery leaves the core in step with `active`. -/
def InStep (s : RunnerState) (d : Delivery) : Prop :=
  s.accepts crates d = true →
    match d.envelope.command.kind with
    | .applyDeploymentPlan id _ configJson _ =>
        ∀ rendered output, crates.toVecPretty configJson = .ok rendered →
          d.outcomes.test = .ok output → s.DeploymentInStep d id rendered
    | .rollbackDeployment _ target _ =>
        (s.host.disk.symlinkMetadata (s.runner.releaseDir target)).isSome →
          s.host.loaded = s.releaseConfig target
    | _ => True

variable {crates} {start : Disk} {W : Loc}
variable {s : RunnerState} {d : Delivery} {st : ReleaseStore}

/-- A delivery without a result keeps the promise. -/
theorem coreFollows_of_error
    {e : String} (h : (s.deliver crates d).1 = .error e) :
    s.CoreFollows crates d := by
  intro result hresult
  cases h.symm.trans hresult

/-- Whether the core follows, in terms of the store that is left. -/
theorem coreFollows_iff_store
    (hwork : EmptyWorkDir start s.runner.workDir W)
    (hback : LeadsBack start s.runner.workDir W)
    {result : DeploymentResult} {st' : ReleaseStore} {loaded : Option Bytes}
    (hresult : (s.deliver crates d).1 = .ok result)
    (hlayout :
      Layout start s.runner.workDir W (s.deliver crates d).2.host.disk st')
    (hloaded : (s.deliver crates d).2.host.loaded = loaded) :
    s.CoreFollows crates d ↔
      (result.status = .succeeded ∨ result.status = .rolledBack →
        loaded = st'.activeConfig) := by
  unfold CoreFollows
  rw [LocalRunner.activeConfig_of_layout hwork hback hlayout, hloaded]
  constructor
  · exact fun hfollows => hfollows result hresult
  · intro hfollows result' hresult'
    obtain rfl := Except.ok.inj (hresult.symm.trans hresult')
    exact hfollows

/-- An undone deployment reports a rollback if a release was active. -/
theorem undoneStatus_reported
    (st : ReleaseStore) :
    st.undoneStatus = .succeeded ∨ st.undoneStatus = .rolledBack ↔
      ∃ previous, st.active = some previous := by
  unfold ReleaseStore.undoneStatus
  cases st.active <;> simp

/-- When a deployment keeps step, in terms of the store. -/
theorem deploymentInStep_iff_store
    (hwork : EmptyWorkDir start s.runner.workDir W)
    (hback : LeadsBack start s.runner.workDir W)
    (h : Layout start s.runner.workDir W s.host.disk st)
    {id : String} (hid : Normal id) (rendered : Bytes) :
    s.DeploymentInStep d id rendered ↔
      ∀ previous, st.active = some previous →
        (¬ Succeeds d.outcomes.test → s.host.loaded = st.activeConfig) ∧
        (Succeeds d.outcomes.test → ¬ s.runner.Passes d.outcomes .reload →
          s.host.loaded =
            ((st.deploy id rendered).setActive st.active).activeConfig) ∧
        (Succeeds d.outcomes.test → s.runner.Passes d.outcomes .reload →
          ¬ s.runner.Passes d.outcomes .health →
          some rendered =
            ((st.deploy id rendered).setActive st.active).activeConfig) := by
  have hconfig : s.runner.activeConfig s.host.disk = st.activeConfig :=
    LocalRunner.activeConfig_of_layout hwork hback h
  have hlink :
      s.host.disk.readLink s.runner.active =
        st.active.map (releasePath s.runner.workDir) := by
    rw [LocalRunner.active_eq, h.readLink_active hwork]
  have hsame : ∀ previous,
      releasePath s.runner.workDir previous = s.runner.releaseDir id ↔
        previous = id := by
    intro previous
    rw [LocalRunner.releaseDir_eq s.runner hid]
    exact ⟨fun heq => Path.child_injective heq, fun heq => by rw [heq]⟩
  constructor
  · rintro ⟨hrejected, hreload, hhealth⟩ previous hactive
    rw [hactive, Option.map_some] at hlink
    have hundone :
        ((st.deploy id rendered).setActive st.active).activeConfig =
          if releasePath s.runner.workDir previous =
            s.runner.releaseDir id then some rendered
          else st.activeConfig := by
      rw [st.undone_activeConfig]
      simp only [hactive, Option.some.injEq, hsame]
    refine ⟨?_, ?_, ?_⟩
    · intro htest
      rw [hrejected htest _ hlink, hconfig]
    · intro htest hfails
      rw [hreload htest hfails _ hlink, hundone, hconfig]
    · intro htest hpasses hfails
      rw [hundone]
      split
      · rfl
      · rename_i hother
        rw [← hconfig,
          (hhealth htest hpasses hfails _ hlink).resolve_left hother]
  · intro hstore
    have hprevious : ∀ path,
        s.host.disk.readLink s.runner.active = some path →
        ∃ previous, st.active = some previous ∧
          path = releasePath s.runner.workDir previous := by
      intro path hpath
      rw [hlink] at hpath
      obtain ⟨previous, hactive, rfl⟩ := Option.map_eq_some_iff.mp hpath
      exact ⟨previous, hactive, rfl⟩
    refine ⟨?_, ?_, ?_⟩
    · intro htest path hpath
      obtain ⟨previous, hactive, rfl⟩ := hprevious path hpath
      rw [hconfig]
      exact (hstore previous hactive).1 htest
    · intro htest hfails path hpath
      obtain ⟨previous, hactive, rfl⟩ := hprevious path hpath
      rw [(hstore previous hactive).2.1 htest hfails, st.undone_activeConfig,
        hconfig]
      simp only [hactive, Option.some.injEq, hsame]
    · intro htest hpasses hfails path hpath
      obtain ⟨previous, hactive, rfl⟩ := hprevious path hpath
      have heq := (hstore previous hactive).2.2 htest hpasses hfails
      rw [st.undone_activeConfig] at heq
      simp only [hactive, Option.some.injEq] at heq
      by_cases hid' : previous = id
      · exact Or.inl ((hsame previous).mpr hid')
      · rw [if_neg hid'] at heq
        exact Or.inr (hconfig.trans heq.symm)

/-- A deployment keeps the core in step exactly in the cases listed. -/
theorem coreFollows_apply_iff
    (hwork : EmptyWorkDir start s.runner.workDir W)
    (hback : LeadsBack start s.runner.workDir W)
    (h : Layout start s.runner.workDir W s.host.disk st)
    (hreload : s.runner.reloadCommand.isSome = true)
    (haccepts : s.accepts crates d = true)
    (hfaults : ∀ n, Faultless (d.moments n))
    {id sha256 : String} {configJson : Json.Value}
    {rollbackJson : Option Json.Value}
    (hkind : d.envelope.command.kind =
      .applyDeploymentPlan id sha256 configJson rollbackJson)
    (hid : Normal id) :
    s.CoreFollows crates d ↔
      ∀ rendered output, crates.toVecPretty configJson = .ok rendered →
        d.outcomes.test = .ok output → s.DeploymentInStep d id rendered := by
  have hdeliver := deliver_apply hwork h haccepts hfaults hkind hid
  split at hdeliver
  swap
  · rename_i hother
    obtain ⟨e, he⟩ := hdeliver
    exact iff_of_true (coreFollows_of_error he)
      (fun rendered output hrender htest =>
        absurd htest (fun htest => hother rendered output hrender htest))
  rename_i rendered output hrender htest
  obtain ⟨result, st', hresult, hlayout, hends⟩ := hdeliver
  have hcondition :
      (∀ rendered output, crates.toVecPretty configJson = .ok rendered →
        d.outcomes.test = .ok output → s.DeploymentInStep d id rendered) ↔
        s.DeploymentInStep d id rendered := by
    constructor
    · exact fun hall => hall rendered output hrender htest
    · intro hstep rendered' output' hrender' _
      obtain rfl := Except.ok.inj (hrender.symm.trans hrender')
      exact hstep
  rw [hcondition, deploymentInStep_iff_store hwork hback h hid]
  generalize hloaded : (s.deliver crates d).2.host.loaded = loaded at hends
  generalize hstatus : result.status = status at hends
  rw [coreFollows_iff_store hwork hback hresult hlayout hloaded, hstatus]
  cases hends with
  | rejected hrejects =>
      rw [undoneStatus_reported, forall_exists_index,
        st.prepare_activeConfig]
      simp [hrejects]
  | reloadFailed htest hfails =>
      rw [undoneStatus_reported, forall_exists_index]
      simp [htest, hfails]
  | healthFailed htest hpasses hfails hreached =>
      rw [undoneStatus_reported, forall_exists_index, hreached hback]
      simp [htest, hpasses, hfails, LocalRunner.loadedAfterReload, hreload]
  | succeeded htest hpasses hpasses' hreached =>
      refine iff_of_true ?_ ?_
      · intro _
        rw [LocalRunner.deploy_activeConfig, LocalRunner.loadedAfterReload,
          if_pos hreload, hreached hback]
      · intro previous _
        exact ⟨fun hrejects => absurd htest hrejects,
          fun _ hfails => absurd hpasses hfails,
          fun _ _ hfails => absurd hpasses' hfails⟩

/-- A rollback keeps the core in step if it had loaded the target before. -/
theorem coreFollows_rollback_iff
    (hwork : EmptyWorkDir start s.runner.workDir W)
    (hback : LeadsBack start s.runner.workDir W)
    (h : Layout start s.runner.workDir W s.host.disk st)
    (haccepts : s.accepts crates d = true)
    (hfaults : ∀ n, Faultless (d.moments n))
    {id target sha256 : String}
    (hkind : d.envelope.command.kind = .rollbackDeployment id target sha256)
    (htarget : Normal target) :
    s.CoreFollows crates d ↔
      ((s.host.disk.symlinkMetadata (s.runner.releaseDir target)).isSome →
        s.host.loaded = s.releaseConfig target) := by
  have hjoin : Normal "config.json" := by decide
  have hconfig : s.releaseConfig target = st.config target := by
    rw [releaseConfig, LocalRunner.releaseDir_eq s.runner htarget, hjoin.join,
      h.readFile_release hwork htarget]
  rw [LocalRunner.releaseDir_eq s.runner htarget,
    h.symlinkMetadata_release hwork htarget, hconfig]
  obtain ⟨hloaded, result, hresult, hends⟩ :=
    deliver_rollback hwork h haccepts hfaults hkind htarget
  split at hends
  · rename_i hsome
    obtain ⟨hstatus, hlayout⟩ := hends
    rw [coreFollows_iff_store hwork hback hresult hlayout hloaded, hstatus]
    simp [hsome, ReleaseStore.activeConfig, ReleaseStore.switchTo,
      ReleaseStore.config]
  · rename_i hnone
    obtain ⟨hstatus, hlayout⟩ := hends
    rw [coreFollows_iff_store hwork hback hresult hlayout hloaded, hstatus]
    simp [hnone]

/-- From every reachable state, the core follows exactly in these cases. -/
theorem core_follows_active_iff
    {first : RunnerState}
    (hwork : EmptyWorkDir first.host.disk first.runner.workDir W)
    (hback : LeadsBack first.host.disk first.runner.workDir W)
    (hreload : first.runner.reloadCommand.isSome = true)
    (hs : Reachable crates first s)
    (hkind : d.envelope.command.kind.PlainIds)
    (hfaults : ∀ n, Faultless (d.moments n)) :
    s.CoreFollows crates d ↔ s.InStep crates d := by
  obtain ⟨hsetup, st, h⟩ := hs.holds hwork
  rw [← hsetup.workDir] at hwork hback
  rw [← hsetup.reloadCommand] at hreload
  unfold InStep
  by_cases haccepts : s.accepts crates d = true
  swap
  · obtain ⟨error, hverdict⟩ := (not_accepts_iff crates).mp haccepts
    have herror := congrArg Prod.fst (deliver_of_rejected crates hverdict)
    exact iff_of_true (coreFollows_of_error herror)
      (fun hacc => absurd hacc haccepts)
  have hdrop : ∀ {p : Prop}, (s.accepts crates d = true → p) ↔ p :=
    fun {p} => ⟨fun hp => hp haccepts, fun hp _ => hp⟩
  rw [hdrop]
  cases hcommand : d.envelope.command.kind with
  | applyDeploymentPlan id sha256 configJson rollbackJson =>
      rw [hcommand] at hkind
      exact coreFollows_apply_iff hwork hback h hreload haccepts hfaults hcommand
        hkind
  | rollbackDeployment id target sha256 =>
      rw [hcommand] at hkind
      exact coreFollows_rollback_iff hwork hback h haccepts hfaults hcommand hkind
  | _ =>
      refine iff_of_true ?_ trivial
      obtain ⟨command, hverdict⟩ := (accepts_iff crates).mp haccepts
      obtain rfl : command = d.envelope.command :=
        (LocalRunner.accept_eq_ok crates hverdict).1
      refine coreFollows_of_error
        (e := "unsupported local runner command for apply()") ?_
      rw [deliver_of_accepted crates hverdict, hcommand]
      rfl

/-- The concrete runner with `dep-1` and then `dep-2` deployed. -/
def deployedTwice : RunnerState :=
  (deployedOnce.deliver referenceCrates
    (referenceDelivery referenceKey (referenceApply 2 "dep-2" "second")
      ⟨exited true, exited true, exited true⟩)).2

theorem deployedTwice_eq :
    deployedTwice =
      (deployedOnce.carryOut (referenceApply 2 "dep-2" "second")
        ⟨exited true, exited true, exited true⟩).2 := by
  rw [deployedTwice, deployedOnce_eq,
    deliver_reference rfl (by decide)]

def rolledBackToFirst : Delivery :=
  referenceDelivery referenceKey
    (referenceCommand 3 (.rollbackDeployment "dep-2" "dep-1" "sha"))
    ⟨exited true, exited true, exited true⟩

theorem deliver_rolledBackToFirst :
    deployedTwice.deliver referenceCrates rolledBackToFirst =
      deployedTwice.carryOut
        (referenceCommand 3 (.rollbackDeployment "dep-2" "dep-1" "sha"))
        ⟨exited true, exited true, exited true⟩ := by
  rw [deployedTwice_eq, deployedOnce_eq]
  exact deliver_reference rfl (by decide)

theorem deliver_deployedUnhealthy :
    deployedOnce.deliver referenceCrates deployedUnhealthy =
      deployedOnce.carryOut (referenceApply 2 "dep-2" "second")
        ⟨exited true, exited true, exited false⟩ := by
  rw [deployedOnce_eq]
  exact deliver_reference rfl (by decide)

/-- A reported status and configurations that differ refute the promise. -/
theorem not_coreFollows
    (hstatus : (s.deliver crates d).1.toOption.map DeploymentResult.status =
      some .rolledBack)
    (hconfig : (s.deliver crates d).2.host.loaded ≠
      s.runner.activeConfig (s.deliver crates d).2.host.disk) :
    ¬ s.CoreFollows crates d := by
  intro hfollows
  cases hresult : (s.deliver crates d).1 with
  | error e =>
      rw [hresult] at hstatus
      cases hstatus
  | ok result =>
      rw [hresult] at hstatus
      exact hconfig (hfollows result hresult
        (Or.inr (Option.some.inj hstatus)))

/--
After an explicit rollback, and after an automatic one, the core runs a
configuration that is not the active one.
-/
theorem core_left_behind :
    (Reachable referenceCrates referenceState deployedTwice ∧
      ¬ deployedTwice.CoreFollows referenceCrates rolledBackToFirst) ∧
    (Reachable referenceCrates referenceState deployedOnce ∧
      ¬ deployedOnce.CoreFollows referenceCrates deployedUnhealthy) := by
  refine ⟨⟨.deliver deployedOnce_reachable _ (by decide), ?_⟩,
    deployedOnce_reachable, ?_⟩
  · refine not_coreFollows ?_ ?_
    · rw [deliver_rolledBackToFirst, deployedTwice_eq, deployedOnce_eq]
      decide +kernel
    · rw [deliver_rolledBackToFirst, deployedTwice_eq, deployedOnce_eq]
      decide +kernel
  · refine not_coreFollows ?_ ?_
    · rw [deliver_deployedUnhealthy, deployedOnce_eq]
      decide +kernel
    · rw [deliver_deployedUnhealthy, deployedOnce_eq]
      decide +kernel

/-- A first deployment that succeeds. -/
theorem core_follows_active_iff_first_deployment :
    referenceState.CoreFollows referenceCrates
      (referenceDelivery referenceKey (referenceApply 1 "dep-1" "first")
        ⟨exited true, exited true, exited true⟩) := by
  have hiff :=
    @core_follows_active_iff referenceCrates ["w"] referenceState
      (referenceDelivery referenceKey (referenceApply 1 "dep-1" "first")
        ⟨exited true, exited true, exited true⟩)
      referenceState referenceState_empty referenceState_leadsBack rfl .first
      (by decide)
      (fun _ => rfl)
  refine hiff.mpr ?_
  intro _ rendered output _ _
  have habsent :
      referenceState.host.disk.readLink referenceState.runner.active =
        none := by
    decide
  refine ⟨?_, ?_, ?_⟩ <;> intros <;> simp_all

end RunnerState
end ProxyControl
