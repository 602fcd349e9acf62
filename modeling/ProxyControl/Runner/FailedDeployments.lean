import ProxyControl.Runner.Deployments

/-!
# Failed deployments

A deployment that ends as `Failed` or `RolledBack` should leave what is active
as it was.  The link is always put back.  The configuration behind it is not:
the release directory of the new deployment is replaced before the core
commands have their say, and when the deployment has the id of the active
release, it is the active configuration that was replaced.
-/

namespace ProxyControl

open Calendar Effects FileSystem

namespace RunnerState

variable (crates : Crates)

/--
If the delivery ends as failed or rolled back, the link `active` and the
configuration in the release it names are what they were.
-/
def RestoresActive (s : RunnerState) (d : Delivery) : Prop :=
  ∀ result, (s.deliver crates d).1 = .ok result →
    result.status = .failed ∨ result.status = .rolledBack →
      let after := (s.deliver crates d).2.host.disk
      after.readLink s.runner.active =
          s.host.disk.readLink s.runner.active ∧
        namedConfig after s.runner.active =
          namedConfig s.host.disk s.runner.active

/--
An accepted deployment under the id of the active release, with other bytes,
that passes the xray test and fails at a configured core command.
-/
def OverwritesActive
    (s : RunnerState) (d : Delivery) (id : String) (configJson : Json.Value) :
    Prop :=
  s.accepts crates d = true ∧
    s.host.disk.readLink s.runner.active = some (s.runner.releaseDir id) ∧
    Succeeds d.outcomes.test ∧
    ¬ (s.runner.Passes d.outcomes .reload ∧
      s.runner.Passes d.outcomes .health) ∧
    ∃ rendered, crates.toVecPretty configJson = .ok rendered ∧
      namedConfig s.host.disk s.runner.active ≠ some rendered

end RunnerState

namespace ReleaseStore

/-- Staging does not touch what is active. -/
theorem prepare_activeConfig
    (st : ReleaseStore) (id : String) (rendered : Bytes) :
    (st.prepare id rendered).activeConfig = st.activeConfig := by
  rfl

/-- A deployment that was undone has replaced one release all the same. -/
theorem undone_activeConfig
    (st : ReleaseStore) (id : String) (rendered : Bytes) :
    ((st.deploy id rendered).setActive st.active).activeConfig =
      if st.active = some id then some rendered else st.activeConfig := by
  cases hactive : st.active with
  | none =>
      simp [activeConfig, hactive]
  | some previous =>
      by_cases heq : previous = id
      · simp [activeConfig, heq, config, deploy, switchTo, prepare]
      · simp [activeConfig, hactive, heq, config, deploy, switchTo, prepare]

theorem undone_activeConfig_eq_iff
    (st : ReleaseStore) (id : String) (rendered : Bytes) :
    ((st.deploy id rendered).setActive st.active).activeConfig =
        st.activeConfig ↔
      ¬ (st.active = some id ∧ st.activeConfig ≠ some rendered) := by
  rw [undone_activeConfig]
  by_cases hactive : st.active = some id
  · simp [hactive, eq_comm]
  · simp [hactive]

end ReleaseStore

namespace RunnerState

variable {crates : Crates} {start : Disk} {W : Loc}
variable {s : RunnerState} {d : Delivery} {st : ReleaseStore}

/-- A rejected delivery has no result and changes no disk. -/
theorem restoresActive_of_rejected
    (h : ¬ s.accepts crates d = true) :
    s.RestoresActive crates d := by
  obtain ⟨error, hverdict⟩ := (not_accepts_iff crates).mp h
  intro result hresult
  rw [deliver_of_rejected crates hverdict] at hresult
  cases hresult

/-- What is restored, in terms of the store before and after. -/
theorem restoresActive_iff_store
    (hwork : EmptyWorkDir start s.runner.workDir W)
    (h : Layout start s.runner.workDir W s.host.disk st)
    {result : DeploymentResult} {st' : ReleaseStore}
    (hresult : (s.deliver crates d).1 = .ok result)
    (hlayout :
      Layout start s.runner.workDir W (s.deliver crates d).2.host.disk st')
    (hactive : st'.active = st.active) :
    s.RestoresActive crates d ↔
      (result.status = .failed ∨ result.status = .rolledBack →
        st'.activeConfig = st.activeConfig) := by
  have hlink := hlayout.readLink_active hwork
  have hlink₀ := h.readLink_active hwork
  have hconfig := hlayout.namedConfig_active hwork
  have hconfig₀ := h.namedConfig_active hwork
  unfold RestoresActive
  simp only [LocalRunner.active_eq, hlink, hlink₀, hconfig, hconfig₀, hactive,
    true_and]
  constructor
  · exact fun hrestores => hrestores result hresult
  · intro hrestores result' hresult'
    obtain rfl := Except.ok.inj (hresult.symm.trans hresult')
    exact hrestores

/-- The active release is named by its id. -/
theorem readLink_active_iff
    (hwork : EmptyWorkDir start s.runner.workDir W)
    (h : Layout start s.runner.workDir W s.host.disk st)
    {id : String} (hid : Normal id) :
    s.host.disk.readLink s.runner.active = some (s.runner.releaseDir id) ↔
      st.active = some id := by
  rw [LocalRunner.active_eq, h.readLink_active hwork,
    LocalRunner.releaseDir_eq s.runner hid]
  cases st.active with
  | none =>
      simp
  | some previous =>
      simp only [Option.map_some, Option.some.injEq]
      exact ⟨fun heq => Path.child_injective heq, fun heq => by rw [heq]⟩

theorem undoneStatus_failed_or_rolledBack
    (st : ReleaseStore) :
    st.undoneStatus = .failed ∨ st.undoneStatus = .rolledBack := by
  unfold ReleaseStore.undoneStatus
  split
  · exact Or.inr rfl
  · exact Or.inl rfl

/-- A failure after the switch, at either of the two core commands. -/
theorem restoresActive_of_undone
    (hwork : EmptyWorkDir start s.runner.workDir W)
    (h : Layout start s.runner.workDir W s.host.disk st)
    {id : String} {configJson : Json.Value} {rendered : Bytes}
    {result : DeploymentResult}
    (hrender : crates.toVecPretty configJson = .ok rendered)
    (htest : Succeeds d.outcomes.test)
    (hfails : ¬ (s.runner.Passes d.outcomes .reload ∧
      s.runner.Passes d.outcomes .health))
    (hresult : (s.deliver crates d).1 = .ok result)
    (hstatus : result.status = st.undoneStatus)
    (hlayout :
      Layout start s.runner.workDir W (s.deliver crates d).2.host.disk
        ((st.deploy id rendered).setActive st.active)) :
    s.RestoresActive crates d ↔
      ¬ (st.active = some id ∧ Succeeds d.outcomes.test ∧
        ¬ (s.runner.Passes d.outcomes .reload ∧
          s.runner.Passes d.outcomes .health) ∧
        ∃ rendered, crates.toVecPretty configJson = .ok rendered ∧
          st.activeConfig ≠ some rendered) := by
  have hreported : result.status = .failed ∨ result.status = .rolledBack :=
    hstatus ▸ undoneStatus_failed_or_rolledBack st
  rw [restoresActive_iff_store hwork h hresult hlayout rfl,
    st.undone_activeConfig_eq_iff]
  simp [hreported, htest, hfails, hrender]

/--
From every reachable state a deployment that fails restores what was active,
unless it is a deployment of other bytes under the id of the active release
that gets past the xray test.
-/
theorem failed_deployment_restores_iff
    {first : RunnerState}
    (hwork : EmptyWorkDir first.host.disk first.runner.workDir W)
    (hs : Reachable crates first s)
    {id sha256 : String} {configJson : Json.Value}
    {rollbackJson : Option Json.Value}
    (hkind : d.envelope.command.kind =
      .applyDeploymentPlan id sha256 configJson rollbackJson)
    (hid : Normal id) (hfaults : ∀ n, Faultless (d.moments n)) :
    s.RestoresActive crates d ↔
      ¬ s.OverwritesActive crates d id configJson := by
  obtain ⟨hsetup, st, h⟩ := hs.holds hwork
  rw [← hsetup.workDir] at hwork
  by_cases haccepts : s.accepts crates d = true
  swap
  · exact iff_of_true (restoresActive_of_rejected haccepts)
      (fun hover => haccepts hover.1)
  have hdeliver := deliver_apply hwork h haccepts hfaults hkind hid
  have hstore :
      s.OverwritesActive crates d id configJson ↔
        st.active = some id ∧ Succeeds d.outcomes.test ∧
          ¬ (s.runner.Passes d.outcomes .reload ∧
            s.runner.Passes d.outcomes .health) ∧
          ∃ rendered, crates.toVecPretty configJson = .ok rendered ∧
            st.activeConfig ≠ some rendered := by
    unfold OverwritesActive
    rw [readLink_active_iff hwork h hid, LocalRunner.active_eq,
      h.namedConfig_active hwork]
    simp [haccepts]
  rw [hstore]
  split at hdeliver
  · rename_i rendered output hrender htest
    obtain ⟨result, st', hresult, hlayout, hends⟩ := hdeliver
    generalize hstatus : result.status = status at hends
    generalize (s.deliver crates d).2.host.loaded = loaded' at hends
    cases hends with
    | rejected hrejected =>
        rw [restoresActive_iff_store hwork h hresult hlayout rfl]
        exact iff_of_true (fun _ => rfl) (fun hover => hrejected hover.2.1)
    | reloadFailed hpasses hreload =>
        exact restoresActive_of_undone hwork h hrender hpasses
          (fun hboth => hreload hboth.1) hresult hstatus hlayout
    | healthFailed hpasses hreload hhealth =>
        exact restoresActive_of_undone hwork h hrender hpasses
          (fun hboth => hhealth hboth.2) hresult hstatus hlayout
    | succeeded hpasses hreload hhealth =>
        refine iff_of_true ?_ (fun hover => hover.2.2.1 ⟨hreload, hhealth⟩)
        intro result' hresult'
        obtain rfl := Except.ok.inj (hresult.symm.trans hresult')
        rw [hstatus]
        rintro (hfailed | hrolledBack) <;> contradiction
  · rename_i hother
    obtain ⟨e, he⟩ := hdeliver
    refine iff_of_true ?_ ?_
    · intro result hresult
      cases he.symm.trans hresult
    · rintro ⟨-, hsucceeds, -, rendered, hrender, -⟩
      cases htest : d.outcomes.test with
      | ok output => exact hother rendered output hrender htest
      | error e =>
          rw [htest] at hsucceeds
          exact hsucceeds

/-- Other bytes under the same id, and a core that does not come up healthy. -/
def redeployedUnhealthy : Delivery :=
  referenceDelivery referenceKey (referenceApply 2 "dep-1" "second")
    ⟨exited true, exited true, exited false⟩

theorem deliver_redeployedUnhealthy :
    deployedOnce.deliver referenceCrates redeployedUnhealthy =
      deployedOnce.carryOut (referenceApply 2 "dep-1" "second")
        ⟨exited true, exited true, exited false⟩ := by
  rw [deployedOnce_eq]
  exact deliver_reference rfl (by decide)

/-- The link is put back to a release that has been overwritten. -/
theorem redeployment_overwrites_active :
    Reachable referenceCrates referenceState deployedOnce ∧
      ¬ deployedOnce.RestoresActive referenceCrates redeployedUnhealthy := by
  refine ⟨deployedOnce_reachable, ?_⟩
  intro hrestores
  have hstatus :
      (deployedOnce.deliver referenceCrates
        redeployedUnhealthy).1.toOption.map DeploymentResult.status =
          some .rolledBack := by
    rw [deliver_redeployedUnhealthy, deployedOnce_eq]
    decide +kernel
  have hconfig :
      namedConfig (deployedOnce.deliver referenceCrates
          redeployedUnhealthy).2.host.disk deployedOnce.runner.active ≠
        namedConfig deployedOnce.host.disk deployedOnce.runner.active := by
    rw [deliver_redeployedUnhealthy, deployedOnce_eq]
    decide +kernel
  cases hresult :
      (deployedOnce.deliver referenceCrates redeployedUnhealthy).1 with
  | error e =>
      rw [hresult] at hstatus
      cases hstatus
  | ok result =>
      rw [hresult] at hstatus
      exact hconfig (hrestores result hresult
        (Or.inr (Option.some.inj hstatus))).2

/-- A new id, and a core that does not come up healthy. -/
def deployedUnhealthy : Delivery :=
  referenceDelivery referenceKey (referenceApply 2 "dep-2" "second")
    ⟨exited true, exited true, exited false⟩

theorem failed_deployment_restores_iff_new_id :
    deployedOnce.RestoresActive referenceCrates deployedUnhealthy := by
  have hiff :=
    @failed_deployment_restores_iff referenceCrates ["w"] deployedOnce
      deployedUnhealthy referenceState referenceState_empty
      deployedOnce_reachable _ _ _ _ rfl (by decide) (fun _ => rfl)
  refine hiff.mpr ?_
  rintro ⟨-, hactive, -⟩
  revert hactive
  rw [deployedOnce_eq]
  decide +kernel

end RunnerState
end ProxyControl
