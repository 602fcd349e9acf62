import ProxyControl.Runner.Deployments

/-!
# The path of the active configuration

`active` is made with the path of a release, and that path starts with the work
directory.  The runner reads it from where it runs; everybody else follows the
link, and a relative link is read from the directory it lies in.  For an
absolute work directory both readings agree.  For a relative one they agree
only if the work directory leads back to itself.
-/

namespace ProxyControl

open Calendar Effects FileSystem

/-- Every release has its configuration, and the active one is there. -/
structure ReleaseStore.Complete (st : ReleaseStore) : Prop where
  configs : ∀ id, st.releases id ≠ some none
  active : ∀ id, st.active = some id → st.releases id ≠ none

namespace ReleaseStore.Complete

variable {st st' : ReleaseStore}

theorem empty : ReleaseStore.empty.Complete where
  configs _ := by simp [ReleaseStore.empty]
  active _ hactive := by simp [ReleaseStore.empty] at hactive

theorem of_same
    (h : st.Complete) (hreleases : st'.releases = st.releases)
    (hactive : st'.active = st.active) :
    st'.Complete where
  configs := by
    rw [hreleases]
    exact h.configs
  active := by
    rw [hreleases, hactive]
    exact h.active

/-- After a deployment the new release is there, and so are the others. -/
theorem deploy
    (h : st.Complete) (id : String) (rendered : Bytes)
    {active : Option String} (hactive : active = some id ∨ active = st.active) :
    ((st.deploy id rendered).setActive active).Complete := by
  have hreleases : ∀ id',
      ((st.deploy id rendered).setActive active).releases id' =
        if id' = id then some (some rendered) else st.releases id' := by
    intro id'
    by_cases heq : id' = id
    · subst heq
      simp [ReleaseStore.deploy, ReleaseStore.switchTo, ReleaseStore.prepare]
    · simp [ReleaseStore.deploy, ReleaseStore.switchTo, ReleaseStore.prepare,
        heq]
  constructor
  · intro id'
    rw [hreleases]
    split_ifs
    · simp
    · exact h.configs id'
  · intro id' hid'
    rw [hreleases]
    split_ifs with heq
    · simp
    · rcases hactive with hnew | hold
      · rw [hnew] at hid'
        exact absurd (Option.some.inj hid').symm heq
      · rw [hold] at hid'
        exact h.active id' hid'

theorem switchTo
    (h : st.Complete) {id : String} (hsome : (st.releases id).isSome = true) :
    (st.switchTo id).Complete where
  configs := h.configs
  active id' hid' := by
    obtain rfl := Option.some.inj hid'
    exact Option.isSome_iff_ne_none.mp hsome

end ReleaseStore.Complete

namespace Layout

variable {start d : Disk} {runner : LocalRunner} {W : Loc}
variable {st : ReleaseStore} {id : String}

end Layout

namespace RunnerState

variable {crates : Crates} {start : Disk} {W : Loc}
variable {s : RunnerState} {d : Delivery} {st : ReleaseStore}

/-- A state that a runner reaches when no file operation fails. -/
inductive Undisturbed (crates : Crates) (first : RunnerState) :
    RunnerState → Prop
  | first :
      Undisturbed crates first first
  | deliver {s : RunnerState} (h : Undisturbed crates first s)
      (d : Delivery) (hd : d.envelope.command.kind.PlainIds)
      (hfaults : ∀ n, Faultless (d.moments n)) :
      Undisturbed crates first (s.deliver crates d).2

/-- A complete store is left, with an active release if so reported. -/
structure LeavesComplete
    (crates : Crates) (start : Disk) (W : Loc) (s : RunnerState)
    (d : Delivery) (st : ReleaseStore) : Prop where
  layout :
    Layout start s.runner.workDir W (s.deliver crates d).2.host.disk st
  complete : st.Complete
  active : ∀ result, (s.deliver crates d).1 = .ok result →
    result.status = .succeeded ∨ result.status = .rolledBack →
      st.active ≠ none

theorem leavesComplete_apply
    (hwork : EmptyWorkDir start s.runner.workDir W)
    (h : Layout start s.runner.workDir W s.host.disk st)
    (hcomplete : st.Complete)
    (haccepts : s.accepts crates d = true)
    (hfaults : ∀ n, Faultless (d.moments n))
    {id sha256 : String} {configJson : Json.Value}
    {rollbackJson : Option Json.Value}
    (hkind : d.envelope.command.kind =
      .applyDeploymentPlan id sha256 configJson rollbackJson)
    (hid : Normal id) :
    ∃ st', LeavesComplete crates start W s d st' := by
  have hends := deliver_apply hwork h haccepts hfaults hkind hid
  by_cases htest : ∀ rendered, crates.toVecPretty configJson = .ok rendered →
      ¬ Succeeds d.outcomes.test
  · obtain ⟨command, hverdict⟩ := (accepts_iff crates).mp haccepts
    have hstart :
        LocalRunner.StagesOnly start s.runner.workDir W st s.host.disk.tree
          s.host :=
      ⟨st, h, rfl, rfl, Tree.Extends.refl _⟩
    obtain ⟨st', h', hreleases, hactive, -⟩ :=
      (deliver_ensures (fun _ => True)
        (Q := fun _ s' => LocalRunner.StagesOnly start s.runner.workDir W st
          s.host.disk.tree s') hverdict (fun _ => trivial) hstart
        (fun lastSequence seenNonces => by
          rw [hkind]
          exact LocalRunner.ensures_untested hwork h hid htest sha256)).1
    refine ⟨st', h', hcomplete.of_same hreleases hactive, ?_⟩
    intro result hresult hstatus
    rw [hactive]
    revert hends
    split
    · rename_i rendered output hrender htested
      rintro ⟨result', st'', hresult', -, hends⟩
      obtain rfl := Except.ok.inj (hresult.symm.trans hresult')
      have hfails := htest rendered hrender
      generalize (s.deliver crates d).2.host.loaded = loaded at hends
      generalize result.status = status at hends hstatus
      cases hends with
      | rejected =>
          intro hnone
          simp [ReleaseStore.undoneStatus, hnone] at hstatus
      | reloadFailed htest => exact absurd htest hfails
      | healthFailed htest => exact absurd htest hfails
      | succeeded htest => exact absurd htest hfails
    · rintro ⟨e, he⟩
      cases hresult.symm.trans he
  · simp only [not_forall, not_not] at htest
    obtain ⟨rendered, hrender, htest⟩ := htest
    cases houtput : d.outcomes.test with
    | error e =>
        rw [houtput] at htest
        exact htest.elim
    | ok output =>
        rw [hrender, houtput] at hends
        obtain ⟨result, st', hresult, hlayout, hends⟩ := hends
        generalize (s.deliver crates d).2.host.loaded = loaded at hends
        generalize hreported : result.status = status at hends
        refine ⟨st', hlayout, ?_, ?_⟩
        · cases hends with
          | rejected hfails => exact absurd htest hfails
          | reloadFailed => exact hcomplete.deploy id rendered (Or.inr rfl)
          | healthFailed => exact hcomplete.deploy id rendered (Or.inr rfl)
          | succeeded => exact hcomplete.deploy id rendered (Or.inl rfl)
        · intro result' hresult' hstatus
          obtain rfl := Except.ok.inj (hresult.symm.trans hresult')
          rw [hreported] at hstatus
          cases hends with
          | rejected hfails => exact absurd htest hfails
          | reloadFailed =>
              intro hnone
              have hnone : st.active = none := hnone
              simp [ReleaseStore.undoneStatus, hnone] at hstatus
          | healthFailed =>
              intro hnone
              have hnone : st.active = none := hnone
              simp [ReleaseStore.undoneStatus, hnone] at hstatus
          | succeeded => exact Option.some_ne_none id

theorem leavesComplete_deliver
    (crates : Crates) (d : Delivery)
    (hwork : EmptyWorkDir start s.runner.workDir W)
    (h : Layout start s.runner.workDir W s.host.disk st)
    (hcomplete : st.Complete)
    (hplain : d.envelope.command.kind.PlainIds)
    (hfaults : ∀ n, Faultless (d.moments n)) :
    ∃ st', LeavesComplete crates start W s d st' := by
  by_cases haccepts : s.accepts crates d = true
  swap
  · obtain ⟨error, hverdict⟩ := (not_accepts_iff crates).mp haccepts
    have hdeliver := deliver_of_rejected crates hverdict
    refine ⟨st, ?_, hcomplete, ?_⟩
    · rw [hdeliver]
      exact h
    · intro result hresult
      rw [hdeliver] at hresult
      cases hresult
  cases hkind : d.envelope.command.kind with
  | applyDeploymentPlan id sha256 configJson rollbackJson =>
      rw [hkind] at hplain
      exact leavesComplete_apply hwork h hcomplete haccepts hfaults hkind
        hplain
  | rollbackDeployment id target sha256 =>
      rw [hkind] at hplain
      obtain ⟨-, result, hresult, hends⟩ :=
        deliver_rollback hwork h haccepts hfaults hkind hplain
      split_ifs at hends with hsome
      · refine ⟨_, hends.2, hcomplete.switchTo hsome, ?_⟩
        exact fun _ _ _ => Option.some_ne_none target
      · refine ⟨st, hends.2, hcomplete, ?_⟩
        intro result' hresult' hstatus
        obtain rfl := Except.ok.inj (hresult.symm.trans hresult')
        rw [hends.1] at hstatus
        rcases hstatus with hstatus | hstatus <;> cases hstatus
  | _ =>
      obtain ⟨command, hverdict⟩ := (accepts_iff crates).mp haccepts
      have hshape : Shape start s.runner.workDir W s.host := ⟨st, h⟩
      have hunsupported :=
        (deliver_ensures (fun _ => True)
          (Q := fun r s' => (∃ e, r = .error e) ∧ s' = s.host) hverdict
          (fun _ => trivial) hshape
          (fun lastSequence seenNonces => by
            rw [hkind]
            exact ⟨⟨_, rfl⟩, rfl⟩)).1
      obtain ⟨⟨e, he⟩, hhost⟩ := hunsupported
      refine ⟨st, ?_, hcomplete, ?_⟩
      · rw [hhost]
        exact h
      · intro result hresult
        cases he.symm.trans hresult

/-- In an undisturbed run the store is complete at every point. -/
theorem Undisturbed.holds
    {first : RunnerState}
    (hwork : EmptyWorkDir first.host.disk first.runner.workDir W)
    (h : Undisturbed crates first s) :
    SameSetup s.runner first.runner ∧
      ∃ st, Layout first.host.disk s.runner.workDir W s.host.disk st ∧
        st.Complete := by
  induction h with
  | first =>
      exact ⟨⟨rfl, rfl, rfl⟩, _, layout_start hwork, .empty⟩
  | @deliver s _ d hd hfaults ih =>
      obtain ⟨hsetup, st, hlayout, hcomplete⟩ := ih
      have hsetup' := deliver_setup crates d hsetup
      rw [← hsetup.workDir] at hwork
      obtain ⟨st', hleaves⟩ :=
        leavesComplete_deliver crates d hwork hlayout hcomplete hd hfaults
      refine ⟨hsetup', st', ?_, hleaves.complete⟩
      rw [hsetup'.workDir, ← hsetup.workDir]
      exact hleaves.layout

end RunnerState
end ProxyControl
