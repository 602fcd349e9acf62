import ProxyControl.Runner.Deployments

/-!
# The switch of the active release

The link `active` should resolve to a complete release at every moment: after
each file operation, whatever faults occur and wherever the process stops.
`switchActive` removes the link before it renames its successor over it, so
there is a moment without any link in every command that comes to switch.
-/

namespace ProxyControl

open Calendar Effects FileSystem

/-- `active` resolves to a release directory with this configuration. -/
def ActiveResolves
    (runner : LocalRunner) (W : Loc) (disk : Disk) (config : Bytes) : Prop :=
  ∃ id, disk.resolve runner.active = some (id :: "releases" :: W) ∧
    disk.get (id :: "releases" :: W) = some .dir ∧
    disk.get ("config.json" :: id :: "releases" :: W) = some (.file config)

namespace RunnerState

variable (crates : Crates)

/-- A configuration that a delivery is to make active. -/
def IsNew (s : RunnerState) (d : Delivery) (config : Bytes) : Prop :=
  match d.envelope.command.kind with
  | .applyDeploymentPlan _ _ configJson _ =>
      crates.toVecPretty configJson = .ok config
  | .rollbackDeployment _ target _ =>
      s.host.disk.readFile
        ((s.runner.releaseDir target).join "config.json") = some config
  | _ => False

/--
After every call, whatever faults occur, `active` resolves to a release with
the old or a new configuration.
-/
def SwitchesAtomically
    (s : RunnerState) (W : Loc) (d : Delivery) (old : Bytes) : Prop :=
  ∀ moments : ℕ → Moment, (moments 0).now = d.clock →
    ∀ host ∈ s.visited crates { d with moments := moments },
      ∃ config, ActiveResolves s.runner W host.disk config ∧
        (config = old ∨ s.IsNew crates d config)

/-- The delivery does not come to the switch. -/
def DoesNotSwitch (s : RunnerState) (d : Delivery) : Prop :=
  s.accepts crates d = true →
    match d.envelope.command.kind with
    | .applyDeploymentPlan _ _ configJson _ =>
        ∀ rendered, crates.toVecPretty configJson = .ok rendered →
          ¬ Succeeds d.outcomes.test
    | .rollbackDeployment _ target _ =>
        s.host.disk.symlinkMetadata (s.runner.releaseDir target) = none
    | _ => True

end RunnerState

namespace Local

variable {outcomes : Outcomes} {α β : Type} {s : Host} {t : Moment}

/-- A host of a kind is visited when every moment is the given one. -/
def Meets
    (outcomes : Outcomes) (action : Local α) (kind : Host → Prop)
    (t : Moment) (s : Host) : Prop :=
  Program.Meets (Host.answer outcomes) action.run kind t s

theorem Meets.bind_left
    {action : Local α} {next : α → Local β} {kind : Host → Prop}
    (h : Meets outcomes action kind t s) :
    Meets outcomes (action >>= next) kind t s := by
  unfold Meets
  rw [ExceptT.run_bind]
  exact Program.Meets.bind_left h

/-- After a part that cannot fail, the next one meets a host of the kind. -/
theorem Ensures.meets_bind
    {ok : Moment → Prop} {inv : Host → Prop}
    {action : Local α} {next : α → Local β}
    {Q : Except String α → Host → Prop} {kind : Host → Prop}
    (h : Ensures outcomes ok inv action Q s) (ht : ok t)
    (hok : ∀ a s', Q (.ok a) s' → Meets outcomes (next a) kind t s')
    (herror : ∀ e s', ¬ Q (.error e) s') :
    Meets outcomes (action >>= next) kind t s := by
  unfold Meets
  rw [ExceptT.run_bind]
  refine Program.Ensures.meets_bind h ht ?_
  rintro (e | a) s' hQ
  · exact absurd hQ (herror e s')
  · exact hok a s' hQ

/-- A call is made and the rest meets a host of the kind. -/
theorem meets_perform_bind
    {op : SystemCall} {next : op.Ret → Local β} {kind : Host → Prop}
    (h : Meets outcomes (next (Host.answer outcomes op t s).1) kind t
      (Host.answer outcomes op t s).2) :
    Meets outcomes (perform op >>= next) kind t s := by
  obtain ⟨host, hhost, hkind⟩ := h
  exact ⟨host, List.mem_cons_of_mem _ hhost, hkind⟩

theorem meets_xrayTest_bind
    {xrayBin config : Path} {next : ProcessOutput → Local β}
    {kind : Host → Prop} {output : ProcessOutput}
    (htest : outcomes.test = .ok output)
    (h : Meets outcomes (next output) kind t s) :
    Meets outcomes (xrayTest xrayBin config >>= next) kind t s := by
  obtain ⟨host, hhost, hkind⟩ := h
  refine ⟨host, List.mem_cons_of_mem s ?_, hkind⟩
  rw [show (Host.answer outcomes (.xrayTest xrayBin config) t s).1 =
    .ok output from htest]
  exact hhost

theorem answer_change
    {op : DiskChange} {d : Disk}
    (hop : op.perform s.disk = some d) (ht : Faultless t) :
    Host.answer outcomes (.change op) t s =
      (.ok (), { s with disk := d }) := by
  have hfault : t.fault = none := ht
  simp [Host.answer, Host.change, hfault, hop]

theorem meets_change
    {op : DiskChange} {d : Disk} {kind : Host → Prop}
    (hop : op.perform s.disk = some d) (ht : Faultless t)
    (hkind : kind { s with disk := d }) :
    Meets outcomes (change op) kind t s := by
  refine ⟨{ s with disk := d }, ?_, hkind⟩
  show _ ∈ (Host.answer outcomes (.change op) t s).2 :: _
  rw [answer_change hop ht]
  exact List.mem_cons_self ..

theorem meets_change_bind
    {op : DiskChange} {d : Disk} {next : Unit → Local β}
    {kind : Host → Prop}
    (hop : op.perform s.disk = some d) (ht : Faultless t)
    (hnext : Meets outcomes (next ()) kind t { s with disk := d }) :
    Meets outcomes (change op >>= next) kind t s := by
  obtain ⟨host, hhost, hkind⟩ := hnext
  refine ⟨host, List.mem_cons_of_mem _ ?_, hkind⟩
  rw [answer_change hop ht]
  exact hhost

/-- What is present is acted upon. -/
theorem meets_when_present
    {path : Path} {action : Local Unit} {kind : Host → Prop}
    (ht : Faultless t)
    (hsome : (s.disk.symlinkMetadata path).isSome = true)
    (h : Meets outcomes action kind t s) :
    Meets outcomes (when (present path) action) kind t s := by
  have hfault : t.fault = none := ht
  unfold when present
  rw [bind_assoc]
  refine meets_perform_bind ?_
  simp only [Host.answer, hfault, Option.isNone_none, Bool.true_and]
  cases s.disk.exists path with
  | true =>
      simpa using h
  | false =>
      refine meets_perform_bind ?_
      simp only [Host.answer, hfault, Option.isNone_none, Bool.true_and, hsome]
      exact h

end Local

namespace LocalRunner

variable {start : Disk} {runner : LocalRunner} {W : Loc}
variable {outcomes : Outcomes} {s : Host} {t : Moment}
variable {st : ReleaseStore} {id active : String}

/-- There is no link `active`. -/
def Unlinked (W : Loc) (s : Host) : Prop :=
  s.disk.get ("active" :: W) = none

/-- The link is removed before its successor takes its place. -/
theorem meets_clearActive
    (hwork : EmptyWorkDir start runner.workDir W)
    (h : Layout start runner.workDir W s.disk st)
    (hactive : st.active = some active) (ht : Faultless t) :
    Local.Meets outcomes
      (Local.when (Local.present (runner.workDir.child "active"))
        (Local.removeFile (runner.workDir.child "active")))
      (Unlinked W) t s := by
  obtain ⟨d, hremove, hlayout⟩ := h.removeActive hwork hactive
  refine Local.meets_when_present ht ?_ ?_
  · rw [h.symlinkMetadata_active hwork, hactive]
    rfl
  · exact Local.meets_change (d := d) hremove ht hlayout.active

theorem meets_switchActive
    (hwork : EmptyWorkDir start runner.workDir W)
    (h : Layout start runner.workDir W s.disk st)
    (hactive : st.active = some active) (hid : Normal id)
    (ht : Faultless t) :
    Local.Meets outcomes
      (runner.switchActive (releasePath runner.workDir id))
      (Unlinked W) t s := by
  unfold switchActive
  simp only [active_eq, next_eq]
  refine (ensures_clearNext hwork h st.ofKind_any).meets_bind ht ?_ ?_
  · rintro - s₁ ⟨-, -, st₁, h₁, hst₁, hnext₁⟩
    have hnone : st₁.next = none := hnext₁.resolve_right not_faulty_faultless
    have hactive₁ : st₁.active = some active :=
      (congrArg ReleaseStore.active hst₁).trans hactive
    obtain ⟨d, hlink, h₂⟩ := h₁.linkNext hwork hid hnone
    refine Local.meets_change_bind (d := d) hlink ht ?_
    exact (meets_clearActive (s := { s₁ with disk := d }) hwork h₂ hactive₁
      ht).bind_left
  · rintro e s₁ ⟨he, -⟩
    cases he

/-- A deployment that passes the xray test comes to the switch. -/
theorem meets_applyDeployment
    {crates : Crates} (hwork : EmptyWorkDir start runner.workDir W)
    (h : Layout start runner.workDir W s.disk st)
    (hactive : st.active = some active) (hid : Normal id)
    (ht : Faultless t) {configJson : Json.Value} {rendered : Bytes}
    (hrender : crates.toVecPretty configJson = .ok rendered)
    (htest : Succeeds outcomes.test) (sha256 : String) :
    Local.Meets outcomes
      (runner.applyDeployment crates id sha256 configJson)
      (Unlinked W) t s := by
  have hconfig : Normal "config.json" := by decide
  unfold applyDeployment
  simp only [releaseDir_eq runner hid, tmpDir_eq runner hid, hconfig.join,
    hrender]
  obtain ⟨d₁, hstage, h₁⟩ := h.stage hwork hid
  refine Local.meets_change_bind (d := d₁) hstage ht ?_
  obtain ⟨d₂, hwrite, h₂⟩ := h₁.writeStaged hwork hid (by simp) rendered
  refine Local.meets_change_bind (d := d₂) hwrite ht ?_
  cases houtput : outcomes.test with
  | error e =>
      rw [houtput] at htest
      exact htest.elim
  | ok output =>
      rw [houtput] at htest
      have hsuccess : output.success = true := htest
      refine Local.meets_xrayTest_bind houtput ?_
      rw [if_neg (by simpa using hsuccess)]
      refine Local.Ensures.meets_bind
        (ensures_installRelease (s := { s with disk := d₂ }) hwork h₂
          (ReleaseStore.ofKind_any _) (fun _ => trivial) hid (by simp)
          (fun _ _ => trivial)) ht ?_ ?_
      · rintro - s₃ ⟨-, -, h₃⟩
        refine Local.meets_perform_bind ?_
        exact (meets_switchActive hwork h₃ hactive hid ht).bind_left
      · rintro e s₃ ⟨-, hfaulty, -⟩
        exact not_faulty_faultless hfaulty

/-- A rollback to a release that is there comes to the switch. -/
theorem meets_rollbackDeployment
    (hwork : EmptyWorkDir start runner.workDir W)
    (h : Layout start runner.workDir W s.disk st)
    (hactive : st.active = some active)
    {target : String} (htarget : Normal target)
    (hsome : (st.releases target).isSome = true)
    (ht : Faultless t) (sha256 : String) :
    Local.Meets outcomes (runner.rollbackDeployment id target sha256)
      (Unlinked W) t s := by
  have hfault : t.fault = none := ht
  unfold rollbackDeployment
  simp only [releaseDir_eq runner htarget]
  refine Local.meets_perform_bind ?_
  simp only [Host.answer, hfault, Option.isNone_none, Bool.true_and,
    h.symlinkMetadata_release hwork htarget, hsome, not_true_eq_false,
    if_false]
  exact (meets_switchActive hwork h hactive htarget ht).bind_left

/-- What resolves through `active` still does when only staging goes on. -/
theorem activeResolves_of_stagesOnly
    (h : Layout start runner.workDir W s.disk st) {config : Bytes}
    (hactive : ActiveResolves runner W s.disk config) {s' : Host}
    (hstaged : StagesOnly start runner.workDir W st s.disk.tree s') :
    ActiveResolves runner W s'.disk config := by
  obtain ⟨id, hresolve, hdir, hfile⟩ := hactive
  obtain ⟨st', h', hreleases, -, hext⟩ := hstaged
  refine ⟨id, Disk.resolve_of_extends hresolve ?_ hext, ?_, ?_⟩
  · rw [h'.cwd, h.cwd]
  · rw [(h'.releases id).1, hreleases, ← (h.releases id).1, hdir]
  · rw [(h'.releases id).2, hreleases, ← (h.releases id).2, hfile]

/-- A rollback whose target is missing changes nothing. -/
theorem ensures_missingTarget
    {ok : Moment → Prop} {inv : Host → Prop} (hinv : inv s)
    {target : String}
    (hmissing :
      s.disk.symlinkMetadata (runner.releaseDir target) = none)
    (sha256 : String) :
    Local.Ensures outcomes ok inv
      (runner.rollbackDeployment id target sha256) (fun _ _ => True) s := by
  unfold rollbackDeployment
  refine Local.Ensures.bind (Local.ensures_symlinkMetadata hinv
    (Q := fun r s' => r = .ok false ∧ s' = s) ?_) ?_ (fun _ _ _ => trivial)
  · rw [hmissing]
    intro b hb
    have hno : b = false := by
      cases b with
      | true => cases hb.1 rfl
      | false => rfl
    exact ⟨by rw [hno], rfl⟩
  · rintro b s' ⟨hb, rfl⟩
    obtain rfl := Except.ok.inj hb
    exact ensures_report hinv (fun _ => trivial)

end LocalRunner
namespace RunnerState

variable {crates : Crates} {start : Disk} {W : Loc}
variable {s : RunnerState} {d : Delivery} {st : ReleaseStore} {old : Bytes}

/-- Nothing resolves through a link that has been removed. -/
theorem not_activeResolves_of_unlinked
    {runner : LocalRunner} {host : Host} {config : Bytes}
    (hwork : EmptyWorkDir start runner.workDir W)
    (h : Shape start runner.workDir W host)
    (hunlinked : LocalRunner.Unlinked W host) :
    ¬ ActiveResolves runner W host.disk config := by
  rintro ⟨id, hresolve, -, -⟩
  obtain ⟨st, hlayout⟩ := h
  rw [LocalRunner.active_eq, Disk.resolve_child_eq_none
    (hlayout.workDir hwork) (by decide) hunlinked] at hresolve
  cases hresolve

/-- What resolves is a link to some release. -/
theorem active_of_resolves
    {runner : LocalRunner} {host : Host} {config : Bytes}
    (hwork : EmptyWorkDir start runner.workDir W)
    (h : Layout start runner.workDir W host.disk st)
    (hactive : ActiveResolves runner W host.disk config) :
    ∃ id, st.active = some id := by
  obtain ⟨id, hresolve, hdir, -⟩ := hactive
  refine Option.isSome_iff_exists.mp (h.exists_active hwork ?_)
  rw [← LocalRunner.active_eq, Disk.exists, Disk.metadata, hresolve]
  simp [hdir]

/-- A delivery that comes to the switch meets a host without the link. -/
theorem exists_unlinked
    (hwork : EmptyWorkDir start s.runner.workDir W)
    (h : Layout start s.runner.workDir W s.host.disk st)
    {active : String} (hactive : st.active = some active)
    (hplain : d.envelope.command.kind.PlainIds)
    (hswitch : ¬ s.DoesNotSwitch crates d) :
    ∃ host ∈ s.visited crates { d with moments := fun _ => ⟨d.clock, none⟩ },
      LocalRunner.Unlinked W host := by
  obtain ⟨haccepts, hswitch⟩ := Classical.not_imp.mp hswitch
  obtain ⟨command, hverdict⟩ := (accepts_iff crates).mp haccepts
  obtain rfl : command = d.envelope.command :=
    (LocalRunner.accept_eq_ok crates hverdict).1
  obtain ⟨lastSequence, seenNonces, hrunner⟩ :=
    LocalRunner.accept_setup crates s.runner d.envelope d.clock
  have hvisited :=
    @visited_of_accepted crates s
      { d with moments := fun _ => ⟨d.clock, none⟩ } _ hverdict
  rw [hvisited]
  have ht : Faultless ⟨d.clock, none⟩ := rfl
  have hmeets :
      Local.Meets d.outcomes
        ((s.runner.accept crates d.envelope d.clock).2.execute crates
          d.envelope.command.kind)
        (LocalRunner.Unlinked W) ⟨d.clock, none⟩ s.host := by
    rw [hrunner]
    revert hswitch hplain
    cases d.envelope.command.kind with
    | applyDeploymentPlan id sha256 configJson rollbackJson =>
        intro hid hswitch
        simp only [not_forall, not_not] at hswitch
        obtain ⟨rendered, hrender, htest⟩ := hswitch
        exact LocalRunner.meets_applyDeployment hwork h hactive hid ht
          hrender htest sha256
    | rollbackDeployment id target sha256 =>
        intro htarget hswitch
        refine LocalRunner.meets_rollbackDeployment hwork h hactive htarget
          ?_ ht sha256
        rw [← h.symlinkMetadata_release hwork htarget,
          ← LocalRunner.releaseDir_eq s.runner htarget]
        exact Option.isSome_iff_ne_none.mpr hswitch
    | _ => exact fun _ hswitch => absurd trivial hswitch
  obtain ⟨host, hhost, hunlinked⟩ := hmeets
  exact ⟨host, List.mem_cons_of_mem _ hhost, hunlinked⟩

/-- A delivery that does not switch leaves `active` alone all along. -/
theorem resolves_of_doesNotSwitch
    (hwork : EmptyWorkDir start s.runner.workDir W)
    (h : Layout start s.runner.workDir W s.host.disk st)
    (hplain : d.envelope.command.kind.PlainIds)
    (hactive : ActiveResolves s.runner W s.host.disk old)
    (hstays : s.DoesNotSwitch crates d) :
    ∀ host ∈ s.visited crates d, ActiveResolves s.runner W host.disk old := by
  cases hverdict : s.verdict crates d with
  | error error =>
      rw [visited_of_rejected crates hverdict]
      intro host hhost
      rwa [List.mem_singleton.mp hhost]
  | ok command =>
      have hstays := hstays ((accepts_iff crates).mpr ⟨_, hverdict⟩)
      refine (deliver_ensures (fun _ => True) (Q := fun _ _ => True) hverdict
        (fun _ => trivial) hactive ?_).2
      intro lastSequence seenNonces
      revert hstays hplain
      cases d.envelope.command.kind with
      | applyDeploymentPlan id sha256 configJson rollbackJson =>
          intro hid hstays
          refine Program.Ensures.mono
            (LocalRunner.ensures_untested hwork h hid hstays sha256) ?_
            (fun _ _ _ => trivial)
          exact fun host hstaged =>
            LocalRunner.activeResolves_of_stagesOnly h hactive hstaged
      | rollbackDeployment id target sha256 =>
          intro _ hmissing
          exact LocalRunner.ensures_missingTarget hactive hmissing sha256
      | _ => exact fun _ _ => trivial

/-- A delivery that comes to the switch does not switch atomically. -/
theorem not_switchesAtomically
    (hwork : EmptyWorkDir start s.runner.workDir W)
    (h : Layout start s.runner.workDir W s.host.disk st)
    (hactive : ActiveResolves s.runner W s.host.disk old)
    (hplain : d.envelope.command.kind.PlainIds)
    (hswitch : ¬ s.DoesNotSwitch crates d) :
    ¬ s.SwitchesAtomically crates W d old := by
  intro hatomic
  obtain ⟨active, hlink⟩ := active_of_resolves hwork h hactive
  obtain ⟨host, hhost, hunlinked⟩ :=
    exists_unlinked hwork h hlink hplain hswitch
  obtain ⟨config, hresolves, -⟩ :=
    hatomic (fun _ => ⟨d.clock, none⟩) rfl host hhost
  have hshape :=
    (deliver_shape (d := { d with moments := fun _ => ⟨d.clock, none⟩ })
      hwork ⟨st, h⟩ hplain).2 host hhost
  exact not_activeResolves_of_unlinked hwork hshape hunlinked hresolves

/--
From every reachable state with an active release, the link resolves all along
exactly if the delivery does not come to the switch.
-/
theorem switches_atomically_iff
    {first : RunnerState}
    (hwork : EmptyWorkDir first.host.disk first.runner.workDir W)
    (hs : Reachable crates first s)
    (hactive : ActiveResolves s.runner W s.host.disk old)
    (hplain : d.envelope.command.kind.PlainIds) :
    s.SwitchesAtomically crates W d old ↔ s.DoesNotSwitch crates d := by
  obtain ⟨hsetup, st, h⟩ := hs.holds hwork
  rw [← hsetup.workDir] at hwork
  constructor
  · intro hatomic
    by_contra hswitch
    exact not_switchesAtomically hwork h hactive hplain hswitch hatomic
  · intro hstays moments hclock host hhost
    have hstays' :
        s.DoesNotSwitch crates { d with moments := moments } := by
      intro haccepts
      refine hstays ?_
      rw [accepts, verdict, Delivery.clock] at haccepts
      rwa [hclock] at haccepts
    have hresolves :=
      resolves_of_doesNotSwitch (d := { d with moments := moments }) hwork h
        hplain hactive hstays' host hhost
    exact ⟨old, hresolves, Or.inl rfl⟩

/-- The configuration of the release `dep-1` of the concrete runner. -/
def firstConfig : Bytes :=
  Reference.text true 0 (.object [("tag", .string "first")]) []

/-- The release `dep-1` is active in the concrete runner. -/
theorem deployedOnce_activeResolves :
    ActiveResolves deployedOnce.runner ["w"] deployedOnce.host.disk
      firstConfig := by
  refine ⟨"dep-1", ?_, ?_, ?_⟩
  · rw [deployedOnce_eq]
    decide +kernel
  · rw [deployedOnce_eq]
    decide +kernel
  · rw [deployedOnce_eq]
    decide +kernel

theorem deployedSecond_accepted (outcomes : Outcomes) :
    deployedOnce.accepts referenceCrates
      (referenceDelivery referenceKey (referenceApply 2 "dep-2" "second")
        outcomes) = true := by
  refine accepts_of_accept referenceCrates
    (referenceDelivery_accepted ?_ ?_)
  · rw [deployedOnce_eq]
    rfl
  · rw [deployedOnce_eq]
    decide +kernel

/-- Between the removal of the link and the rename there is no link. -/
theorem switch_leaves_gap :
    Reachable referenceCrates referenceState deployedOnce ∧
      ActiveResolves deployedOnce.runner ["w"] deployedOnce.host.disk
        firstConfig ∧
      ¬ deployedOnce.SwitchesAtomically referenceCrates ["w"]
        (referenceDelivery referenceKey (referenceApply 2 "dep-2" "second")
          ⟨exited true, exited true, exited true⟩) firstConfig := by
  obtain ⟨hsetup, st, h⟩ := deployedOnce_reachable.holds referenceState_empty
  have hwork :
      EmptyWorkDir referenceState.host.disk deployedOnce.runner.workDir
        ["w"] := by
    rw [hsetup.workDir]
    exact referenceState_empty
  refine ⟨deployedOnce_reachable, deployedOnce_activeResolves, ?_⟩
  refine not_switchesAtomically hwork h deployedOnce_activeResolves
    (by decide) ?_
  intro hstays
  exact hstays (deployedSecond_accepted _) _ rfl rfl

/-- A second deployment that xray rejects. -/
theorem switches_atomically_iff_rejected_config :
    deployedOnce.SwitchesAtomically referenceCrates ["w"]
      (referenceDelivery referenceKey (referenceApply 2 "dep-2" "second")
        ⟨exited false, exited true, exited true⟩) firstConfig := by
  have hiff :=
    @switches_atomically_iff referenceCrates ["w"] deployedOnce
      (referenceDelivery referenceKey (referenceApply 2 "dep-2" "second")
        ⟨exited false, exited true, exited true⟩) firstConfig referenceState
      referenceState_empty deployedOnce_reachable deployedOnce_activeResolves
      (by decide)
  refine hiff.mpr ?_
  intro _ rendered _ htest
  exact absurd htest (by decide)

end RunnerState
end ProxyControl
