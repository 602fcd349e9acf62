import ProxyControl.Runner.CoreFollowsActive
import ProxyControl.Runner.FailedDeployments

/-!
# Releases and what is reported about them

A configuration becomes a release only after xray has tested it, and the link
`active` names a release.  `deliver_storeStep` says what a delivery without
faults does to the work directory; the invariant and the truth of the reported
status are read off it.
-/

namespace ProxyControl

open Calendar Effects FileSystem

namespace RunnerState

variable (crates : Crates)

/-- The calls of one delivery. -/
def calls (self : RunnerState) (d : Delivery) :
    List (Program.Entry SystemCall Moment Host) :=
  (self.runner.apply crates d.envelope).entries (Host.answer d.outcomes)
    d.moments self.host

/-- In the delivery xray has tested a file with the bytes, with success. -/
def PassesTest (s : RunnerState) (d : Delivery) (bytes : Bytes) : Prop :=
  ∃ e ∈ s.calls crates d, ∃ xrayBin config,
    e.op = .xrayTest xrayBin config ∧
      e.before.disk.readFile config = some bytes ∧ Succeeds d.outcomes.test

/-- The bytes have passed the test in one of the deliveries. -/
def Tested (first : RunnerState) (ds : List Delivery) (bytes : Bytes) : Prop :=
  ∃ earlier d later, ds = earlier ++ d :: later ∧
    (first.deliverAll crates earlier).PassesTest crates d bytes

/-- There is a release under the id. -/
def HasRelease (self : RunnerState) (id : String) : Prop :=
  (self.host.disk.symlinkMetadata (self.runner.releaseDir id)).isSome = true

/-- The link `active`, or whatever else has its name, is there. -/
def ActivePresent (self : RunnerState) : Prop :=
  (self.host.disk.symlinkMetadata self.runner.active).isSome = true

def ActiveNames (self : RunnerState) (id : String) : Prop :=
  self.host.disk.readLink self.runner.active = some (self.runner.releaseDir id)

/-- Releases are configurations of a kind, and `active` names a release. -/
structure SoundReleases
    (tested : Bytes → Prop) (s : RunnerState) : Prop where
  releases : ∀ id, Normal id → s.HasRelease id →
    ∃ bytes, s.releaseConfig id = some bytes ∧ tested bytes
  active : s.ActivePresent →
    ∃ id, Normal id ∧ s.ActiveNames id ∧ s.HasRelease id

/-- What is reported of a command is true of the work directory after it. -/
structure ReportsTruly (s : RunnerState) (d : Delivery) : Prop where
  applied : ∀ id sha256 configJson rollbackJson result,
    d.envelope.command.kind =
      .applyDeploymentPlan id sha256 configJson rollbackJson →
    (s.deliver crates d).1 = .ok result →
    ((s.deliver crates d).2.ActivePresent ↔ result.status ≠ .failed) ∧
      (result.status = .succeeded →
        (s.deliver crates d).2.ActiveNames id ∧
          ∃ rendered, crates.toVecPretty configJson = .ok rendered ∧
            (s.deliver crates d).2.releaseConfig id = some rendered)
  rolledBack : ∀ id target sha256,
    d.envelope.command.kind = .rollbackDeployment id target sha256 →
    s.accepts crates d = true →
    ∃ result, (s.deliver crates d).1 = .ok result ∧
      (result.status = .rolledBack ∧
          (s.deliver crates d).2.ActiveNames target ∨
        result.status = .failed ∧ (s.deliver crates d).2.host = s.host)

variable {crates}

/-! ## What a delivery does to the store -/

/-- A delivery without faults, as far as releases and the link are concerned. -/
inductive StoreStep
    (crates : Crates) (s : RunnerState) (d : Delivery) (st : ReleaseStore) :
    Except String DeploymentResult → ReleaseStore → Prop
  | stopped
      {error : String} {st' : ReleaseStore}
      (hreleases : st'.releases = st.releases)
      (hactive : st'.active = st.active) :
      StoreStep crates s d st (.error error) st'
  | applied
      {id sha256 : String} {configJson : Json.Value}
      {rollbackJson : Option Json.Value} {rendered : Bytes}
      {loaded loaded' : Option Bytes} {result : DeploymentResult}
      {st' : ReleaseStore} {start : Disk} {W : Loc}
      (haccepts : s.accepts crates d = true)
      (hkind : d.envelope.command.kind =
        .applyDeploymentPlan id sha256 configJson rollbackJson)
      (hrender : crates.toVecPretty configJson = .ok rendered)
      (hends : LocalRunner.Ends start W s.runner d.outcomes st id rendered
        loaded result.status st' loaded') :
      StoreStep crates s d st (.ok result) st'
  | switched
      {id target sha256 : String} {result : DeploymentResult}
      (hkind : d.envelope.command.kind =
        .rollbackDeployment id target sha256)
      (hrelease : (st.releases target).isSome = true)
      (hstatus : result.status = .rolledBack) :
      StoreStep crates s d st (.ok result) (st.switchTo target)
  | missing
      {id target sha256 : String} {result : DeploymentResult}
      (hkind : d.envelope.command.kind =
        .rollbackDeployment id target sha256)
      (hstatus : result.status = .failed)
      (hhost : (s.deliver crates d).2.host = s.host) :
      StoreStep crates s d st (.ok result) st

section Steps

variable {start : Disk} {W : Loc} {s : RunnerState} {d : Delivery}
variable {st : ReleaseStore}

/-- A command that the runner does not support leaves the host alone. -/
theorem deliver_unsupported
    (haccepts : s.accepts crates d = true)
    (happly : ∀ id sha256 configJson rollbackJson, d.envelope.command.kind ≠
      .applyDeploymentPlan id sha256 configJson rollbackJson)
    (hrollback : ∀ id target sha256, d.envelope.command.kind ≠
      .rollbackDeployment id target sha256) :
    (∃ error, (s.deliver crates d).1 = .error error) ∧
      (s.deliver crates d).2.host = s.host := by
  obtain ⟨command, hverdict⟩ := (accepts_iff crates).mp haccepts
  refine (@deliver_ensures crates s d (fun _ => True) command hverdict
    (fun _ => trivial) (fun _ => True) trivial
    (fun r host => (∃ error, r = .error error) ∧ host = s.host) ?_).1
  intro lastSequence seenNonces
  cases hkind : d.envelope.command.kind with
  | applyDeploymentPlan id sha256 configJson rollbackJson =>
      exact absurd hkind (happly _ _ _ _)
  | rollbackDeployment id target sha256 => exact absurd hkind (hrollback _ _ _)
  | _ => exact ⟨⟨_, rfl⟩, rfl⟩

/-- A deployment that cannot be tested changes no release. -/
theorem deliver_untested
    {id sha256 : String} {configJson : Json.Value}
    {rollbackJson : Option Json.Value}
    (hwork : EmptyWorkDir start s.runner.workDir W)
    (h : Layout start s.runner.workDir W s.host.disk st)
    (haccepts : s.accepts crates d = true)
    (hkind : d.envelope.command.kind =
      .applyDeploymentPlan id sha256 configJson rollbackJson)
    (hid : Normal id)
    (htest : ∀ rendered, crates.toVecPretty configJson = .ok rendered →
      ¬ Succeeds d.outcomes.test) :
    ∃ st', Layout start s.runner.workDir W (s.deliver crates d).2.host.disk
        st' ∧ st'.releases = st.releases ∧ st'.active = st.active := by
  obtain ⟨command, hverdict⟩ := (accepts_iff crates).mp haccepts
  let stages : Host → Prop :=
    LocalRunner.StagesOnly start s.runner.workDir W st s.host.disk.tree
  have hstages : stages s.host := ⟨st, h, rfl, rfl, Tree.Extends.refl _⟩
  obtain ⟨st', hlayout, hreleases, hactive, -⟩ :=
    (@deliver_ensures crates s d (fun _ => True) command hverdict
      (fun _ => trivial) stages hstages (fun _ host => stages host) (by
        intro lastSequence seenNonces
        rw [hkind]
        exact LocalRunner.ensures_untested hwork h hid htest sha256)).1
  exact ⟨st', hlayout, hreleases, hactive⟩

/-- A rollback to a release that is not there leaves the host alone. -/
theorem deliver_missing
    {id target sha256 : String}
    (hwork : EmptyWorkDir start s.runner.workDir W)
    (h : Layout start s.runner.workDir W s.host.disk st)
    (haccepts : s.accepts crates d = true)
    (hkind : d.envelope.command.kind = .rollbackDeployment id target sha256)
    (htarget : Normal target) (hmissing : ¬ (st.releases target).isSome = true) :
    (s.deliver crates d).2.host = s.host := by
  obtain ⟨command, hverdict⟩ := (accepts_iff crates).mp haccepts
  let same : Host → Prop := fun host => host = s.host
  have hsame : same s.host := rfl
  refine (@deliver_ensures crates s d (fun _ => True) command hverdict
    (fun _ => trivial) same hsame (fun _ host => same host) ?_).1
  intro lastSequence seenNonces
  rw [hkind]
  simp only [LocalRunner.execute]
  unfold LocalRunner.rollbackDeployment
  simp only [LocalRunner.releaseDir_eq _ htarget]
  refine Local.Ensures.bind (Q := fun r host => host = s.host ∧ r = .ok false)
    ?_ ?_ ?_
  · refine Local.ensures_symlinkMetadata hsame ?_
    intro b hanswer
    refine ⟨rfl, ?_⟩
    rw [h.symlinkMetadata_release hwork htarget] at hanswer
    cases b with
    | false => rfl
    | true => exact absurd (hanswer.1 rfl) hmissing
  · rintro b host ⟨rfl, hb⟩
    obtain rfl := Except.ok.inj hb
    refine LocalRunner.ensures_report hsame ?_
    exact fun _ => hsame
  · rintro e host ⟨-, hb⟩
    cases hb

/-- Every delivery is one of the known steps. -/
theorem deliver_storeStep
    (hwork : EmptyWorkDir start s.runner.workDir W)
    (h : Layout start s.runner.workDir W s.host.disk st)
    (hplain : d.envelope.command.kind.PlainIds)
    (hfaults : ∀ n, Faultless (d.moments n)) :
    ∃ st', Layout start s.runner.workDir W (s.deliver crates d).2.host.disk
        st' ∧ StoreStep crates s d st (s.deliver crates d).1 st' := by
  by_cases haccepts : s.accepts crates d = true
  swap
  · obtain ⟨error, hverdict⟩ := (not_accepts_iff crates).mp haccepts
    rw [deliver_of_rejected crates hverdict]
    exact ⟨st, h, .stopped rfl rfl⟩
  cases hkind : d.envelope.command.kind with
  | applyDeploymentPlan id sha256 configJson rollbackJson =>
      have hid : Normal id := by
        rw [hkind] at hplain
        exact hplain
      have hends := deliver_apply hwork h haccepts hfaults hkind hid
      split at hends
      · next rendered output hrender htest =>
          obtain ⟨result, st', hresult, hlayout, hends⟩ := hends
          rw [hresult]
          exact ⟨st', hlayout, .applied haccepts hkind hrender hends⟩
      · next hnone =>
          obtain ⟨error, herror⟩ := hends
          obtain ⟨st', hlayout, hreleases, hactive⟩ :=
            deliver_untested hwork h haccepts hkind hid (by
              intro rendered hrender hsucceeds
              cases htest : d.outcomes.test with
              | ok output => exact hnone rendered output hrender htest
              | error e =>
                  rw [htest] at hsucceeds
                  exact hsucceeds)
          rw [herror]
          exact ⟨st', hlayout, .stopped hreleases hactive⟩
  | rollbackDeployment id target sha256 =>
      have htarget : Normal target := by
        rw [hkind] at hplain
        exact hplain
      obtain ⟨-, result, hresult, hends⟩ :=
        deliver_rollback hwork h haccepts hfaults hkind htarget
      rw [hresult]
      split_ifs at hends with hrelease
      · exact ⟨_, hends.2, .switched hkind hrelease hends.1⟩
      · exact ⟨_, hends.2, .missing hkind hends.1
          (deliver_missing hwork h haccepts hkind htarget hrelease)⟩
  | _ =>
      obtain ⟨⟨error, herror⟩, hhost⟩ :=
        deliver_unsupported haccepts (by simp [hkind]) (by simp [hkind])
      rw [herror, hhost]
      exact ⟨st, h, .stopped rfl rfl⟩

/-! ## The test -/

/-- The calls of an accepted delivery. -/
theorem calls_of_accepted
    {command : RunnerCommand} (h : s.verdict crates d = .ok command) :
    s.calls crates d =
      ⟨.utcNow, d.moments 0, s.host⟩ ::
        ((s.runner.accept crates d.envelope d.clock).2.execute crates
          command.kind).run.entries (Host.answer d.outcomes)
            (fun n => d.moments (n + 1)) s.host := by
  simp only [calls, LocalRunner.apply, Program.entries, Host.answer]
  rw [accept_of_verdict crates h, Program.entries_bind]
  simp [Program.entries]

/-- What comes after a change that is made without a fault. -/
theorem exists_entry_of_change
    {α : Type} {outcomes : Outcomes} {op : DiskChange} {next : Unit → Local α}
    {env : ℕ → Moment} {host : Host} {disk : Disk}
    {P : Program.Entry SystemCall Moment Host → Prop}
    (hop : op.perform host.disk = some disk) (hfault : Faultless (env 0))
    (h : ∃ e ∈ (next ()).run.entries (Host.answer outcomes)
      (fun n => env (n + 1)) { host with disk := disk }, P e) :
    ∃ e ∈ (Local.change op >>= next).run.entries (Host.answer outcomes) env
      host, P e := by
  have hanswer : Host.answer outcomes (.change op) (env 0) host =
      (.ok (), { host with disk := disk }) := by
    have hnone : (env 0).fault = none := hfault
    simp [Host.answer, Host.change, hnone, hop]
  obtain ⟨e, he, hP⟩ := h
  refine ⟨e, ?_, hP⟩
  show e ∈ Program.entries _ (Program.call _ _) _ _
  rw [Program.entries, hanswer]
  exact List.mem_cons_of_mem _ he

/-- What was written for a deployment is what xray tests. -/
theorem passesTest_of_succeeds
    {id sha256 : String} {configJson : Json.Value}
    {rollbackJson : Option Json.Value} {rendered : Bytes}
    (hwork : EmptyWorkDir start s.runner.workDir W)
    (h : Layout start s.runner.workDir W s.host.disk st)
    (haccepts : s.accepts crates d = true)
    (hfaults : ∀ n, Faultless (d.moments n))
    (hkind : d.envelope.command.kind =
      .applyDeploymentPlan id sha256 configJson rollbackJson)
    (hid : Normal id)
    (hrender : crates.toVecPretty configJson = .ok rendered)
    (htest : Succeeds d.outcomes.test) :
    s.PassesTest crates d rendered := by
  obtain ⟨command, hverdict⟩ := (accepts_iff crates).mp haccepts
  obtain rfl : command = d.envelope.command :=
    (LocalRunner.accept_eq_ok crates hverdict).1
  obtain ⟨lastSequence, seenNonces, hrunner⟩ :=
    LocalRunner.accept_setup crates s.runner d.envelope d.clock
  have hconfig : Normal "config.json" := by decide
  obtain ⟨d₁, hstage, h₁⟩ := h.stage hwork hid
  obtain ⟨d₂, hwrite, h₂⟩ := h₁.writeStaged hwork hid (by simp) rendered
  suffices hexecute : ∃ e ∈ (LocalRunner.execute crates
      { s.runner with
        lastSequence := lastSequence, seenNonces := seenNonces }
      d.envelope.command.kind).run.entries (Host.answer d.outcomes)
        (fun n => d.moments (n + 1)) s.host,
      ∃ xrayBin config, e.op = .xrayTest xrayBin config ∧
        e.before.disk.readFile config = some rendered ∧
          Succeeds d.outcomes.test by
    obtain ⟨e, he, hpasses⟩ := hexecute
    refine ⟨e, ?_, hpasses⟩
    rw [calls_of_accepted hverdict, hrunner]
    exact List.mem_cons_of_mem _ he
  rw [hkind]
  simp only [LocalRunner.execute]
  unfold LocalRunner.applyDeployment
  simp only [LocalRunner.releaseDir_eq _ hid, LocalRunner.tmpDir_eq _ hid,
    hconfig.join, hrender]
  refine @exists_entry_of_change _ _ (.createDirAll _) _ _ _ _ _ hstage
    (hfaults 1) ?_
  refine @exists_entry_of_change _ _ (.write _ _) _ _ _ _ _ hwrite
    (hfaults 2) ?_
  refine ⟨⟨.xrayTest _ _, _, _⟩, List.mem_cons_self, _, _, rfl, ?_, htest⟩
  exact h₂.readFile_staged hwork hid (by simp)

end Steps

/-! ## The invariant -/

/-- Every release has a configuration of a kind, and `active` names a release. -/
structure Sound
    (kind : String → Bytes → Prop) (st : ReleaseStore) : Prop where
  releases : ∀ id config, st.releases id = some config →
    ∃ bytes, config = some bytes ∧ kind id bytes
  active : ∀ id, st.active = some id → st.releases id ≠ none

section Invariant

variable {start : Disk} {W : Loc} {s : RunnerState} {d : Delivery}
variable {st st' : ReleaseStore} {kind : String → Bytes → Prop}

theorem Sound.mono
    {kind' : String → Bytes → Prop} (h : Sound kind st)
    (hkind : ∀ id bytes, kind id bytes → kind' id bytes) :
    Sound kind' st where
  releases := by
    intro id config hconfig
    obtain ⟨bytes, hbytes, hk⟩ := h.releases id config hconfig
    exact ⟨bytes, hbytes, hkind id bytes hk⟩
  active := h.active

/-- A tested configuration may take the place of a release. -/
theorem Sound.deploy
    (h : Sound kind st) {id : String} {rendered : Bytes}
    (hkind : kind id rendered) {active : Option String}
    (hactive : active = some id ∨ active = st.active) :
    Sound kind ((st.deploy id rendered).setActive active) := by
  have hreleases : ∀ other, ((st.deploy id rendered).setActive active).releases
      other = if other = id then some (some rendered) else st.releases other := by
    intro other
    simp [ReleaseStore.deploy, ReleaseStore.switchTo, ReleaseStore.prepare,
      Function.update_apply]
  constructor
  · intro other config hconfig
    rw [hreleases] at hconfig
    split_ifs at hconfig with hother
    · obtain rfl := Option.some.inj hconfig
      exact ⟨rendered, rfl, hother ▸ hkind⟩
    · exact h.releases other config hconfig
  · intro other hother
    rw [hreleases]
    split_ifs with hid
    · simp
    · refine h.active other ?_
      rcases hactive with rfl | rfl
      · exact absurd (Option.some.inj hother).symm hid
      · exact hother

theorem StoreStep.sound
    {r : Except String DeploymentResult} (hstep : StoreStep crates s d st r st')
    (h : Sound kind st)
    (hkind : ∀ id sha256 configJson rollbackJson rendered,
      s.accepts crates d = true →
      d.envelope.command.kind =
        .applyDeploymentPlan id sha256 configJson rollbackJson →
      crates.toVecPretty configJson = .ok rendered →
      Succeeds d.outcomes.test → kind id rendered) :
    Sound kind st' := by
  cases hstep with
  | stopped hreleases hactive =>
      constructor
      · rw [hreleases]
        exact h.releases
      · rw [hreleases, hactive]
        exact h.active
  | @applied _ _ _ _ _ _ _ result _ _ _ haccepts hd hrender hends =>
      generalize result.status = status at hends
      cases hends with
      | rejected htest => exact ⟨h.releases, h.active⟩
      | reloadFailed htest | healthFailed htest =>
          exact h.deploy (hkind _ _ _ _ _ haccepts hd hrender htest) (.inr rfl)
      | succeeded htest =>
          exact h.deploy (hkind _ _ _ _ _ haccepts hd hrender htest) (.inl rfl)
  | switched hd hrelease hstatus =>
      refine ⟨h.releases, ?_⟩
      intro id hid
      obtain rfl := Option.some.inj hid
      exact Option.isSome_iff_ne_none.mp hrelease
  | missing => exact h

/-- What the store says is what the disk shows. -/
theorem Sound.soundReleases
    {tested : Bytes → Prop}
    (hwork : EmptyWorkDir start s.runner.workDir W)
    (h : Layout start s.runner.workDir W s.host.disk st)
    (hsound : Sound (fun _ bytes => tested bytes) st) :
    s.SoundReleases tested := by
  have hconfig : Normal "config.json" := by decide
  have hrelease : ∀ id, Normal id →
      (s.HasRelease id ↔ st.releases id ≠ none) := by
    intro id hid
    rw [HasRelease, LocalRunner.releaseDir_eq _ hid,
      h.symlinkMetadata_release hwork hid, Option.isSome_iff_ne_none]
  constructor
  · intro id hid hpresent
    obtain ⟨config, hstored⟩ :=
      Option.ne_none_iff_exists'.mp ((hrelease id hid).mp hpresent)
    obtain ⟨bytes, rfl, htested⟩ := hsound.releases id config hstored
    refine ⟨bytes, ?_, htested⟩
    rw [releaseConfig, LocalRunner.releaseDir_eq _ hid, hconfig.join,
      h.readFile_release hwork hid, ReleaseStore.config, hstored]
    rfl
  · intro hpresent
    rw [ActivePresent, LocalRunner.active_eq, h.symlinkMetadata_active hwork]
      at hpresent
    obtain ⟨id, hid⟩ := Option.isSome_iff_exists.mp hpresent
    have hnormal := h.normal id (.inr hid)
    exact ⟨id, hnormal, (readLink_active_iff hwork h hnormal).mpr hid,
      (hrelease id hnormal).mpr (hsound.active id hid)⟩

end Invariant

/-! ## Truth of the reports -/

section Reports

variable {start : Disk} {W : Loc} {s : RunnerState} {d : Delivery}
variable {st st' : ReleaseStore}

/-- The link is there after a deployment unless it is reported as failed. -/
theorem ends_active
    {outcomes : Outcomes} {id : String} {rendered : Bytes}
    {loaded loaded' : Option Bytes} {status : DeploymentStatus}
    (h : LocalRunner.Ends start W s.runner outcomes st id rendered loaded
      status st' loaded') :
    (st'.active.isSome = true ↔ status ≠ .failed) ∧
      (status = .succeeded →
        st'.active = some id ∧ st'.config id = some rendered) := by
  have hundone : st.active.isSome = true ↔ st.undoneStatus ≠ .failed := by
    unfold ReleaseStore.undoneStatus
    split_ifs with hactive <;> simp [hactive]
  have hother : st.undoneStatus ≠ .succeeded := by
    rcases undoneStatus_failed_or_rolledBack st with h | h <;> simp [h]
  cases h with
  | rejected => exact ⟨hundone, fun hsucceeded => absurd hsucceeded hother⟩
  | reloadFailed | healthFailed =>
      exact ⟨hundone, fun hsucceeded => absurd hsucceeded hother⟩
  | succeeded =>
      refine ⟨by simp [ReleaseStore.deploy, ReleaseStore.switchTo], fun _ => ?_⟩
      refine ⟨rfl, ?_⟩
      simp [ReleaseStore.config, ReleaseStore.deploy, ReleaseStore.switchTo,
        ReleaseStore.prepare]

/-- What a step says of the store is what is reported. -/
theorem StoreStep.reportsTruly
    (hwork : EmptyWorkDir start s.runner.workDir W)
    (hafter : Layout start s.runner.workDir W
      (s.deliver crates d).2.host.disk st')
    (hplain : d.envelope.command.kind.PlainIds)
    (haccepted : s.accepts crates d = true → ∀ id target sha256,
      d.envelope.command.kind = .rollbackDeployment id target sha256 →
      ∃ result, (s.deliver crates d).1 = .ok result)
    (hstep : StoreStep crates s d st (s.deliver crates d).1 st') :
    s.ReportsTruly crates d := by
  have hconfig : Normal "config.json" := by decide
  obtain ⟨lastSequence, seenNonces, hrunner⟩ :=
    LocalRunner.accept_setup crates s.runner d.envelope d.clock
  rw [← deliver_runner] at hrunner
  have hdir : (s.deliver crates d).2.runner.workDir = s.runner.workDir := by
    rw [hrunner]
  rw [← hdir] at hwork hafter
  have hpresent : (s.deliver crates d).2.ActivePresent ↔
      st'.active.isSome = true := by
    rw [ActivePresent, LocalRunner.active_eq, hafter.symlinkMetadata_active hwork]
  constructor
  · intro id sha256 configJson rollbackJson result hkind hresult
    generalize hr : (s.deliver crates d).1 = r at hstep
    cases hstep with
    | stopped => cases hr.symm.trans hresult
    | switched hd | missing hd => cases hkind.symm.trans hd
    | @applied id' _ configJson' _ rendered _ _ _ _ _ _ haccepts hd hrender
        hends =>
        obtain rfl := Except.ok.inj (hr.symm.trans hresult)
        cases hkind.symm.trans hd
        have hid : Normal id := by
          rw [hkind] at hplain
          exact hplain
        obtain ⟨hactive, hsucceeded⟩ := ends_active hends
        refine ⟨hpresent.trans hactive, fun hstatus => ?_⟩
        obtain ⟨hnames, hstored⟩ := hsucceeded hstatus
        refine ⟨(readLink_active_iff hwork hafter hid).mpr hnames, rendered,
          hrender, ?_⟩
        rw [releaseConfig, LocalRunner.releaseDir_eq _ hid, hconfig.join,
          hafter.readFile_release hwork hid, hstored]
  · intro id target sha256 hkind haccepts
    obtain ⟨result, hresult⟩ := haccepted haccepts _ _ _ hkind
    have htarget : Normal target := by
      rw [hkind] at hplain
      exact hplain
    refine ⟨result, hresult, ?_⟩
    generalize hr : (s.deliver crates d).1 = r at hstep
    cases hstep with
    | stopped => cases hr.symm.trans hresult
    | applied _ hd => cases hkind.symm.trans hd
    | switched hd hrelease hstatus =>
        obtain rfl := Except.ok.inj (hr.symm.trans hresult)
        cases hkind.symm.trans hd
        exact .inl ⟨hstatus, (readLink_active_iff hwork hafter htarget).mpr rfl⟩
    | missing hd hstatus hhost =>
        obtain rfl := Except.ok.inj (hr.symm.trans hresult)
        exact .inr ⟨hstatus, hhost⟩

end Reports

/-! ## Runs -/

variable {first : RunnerState}

theorem deliverAll_append
    (ds ds' : List Delivery) :
    first.deliverAll crates (ds ++ ds') =
      (first.deliverAll crates ds).deliverAll crates ds' :=
  List.foldl_append ..

/-- After deliveries without faults the work directory holds tested releases. -/
theorem deliverAll_holds
    {W : Loc} (hwork : EmptyWorkDir first.host.disk first.runner.workDir W)
    {ds : List Delivery}
    (hplain : ∀ d ∈ ds, d.envelope.command.kind.PlainIds)
    (hfaults : ∀ d ∈ ds, ∀ n, Faultless (d.moments n)) :
    SameSetup (first.deliverAll crates ds).runner first.runner ∧
      ∃ st, Layout first.host.disk first.runner.workDir W
          (first.deliverAll crates ds).host.disk st ∧
        Sound (fun _ bytes => Tested crates first ds bytes) st := by
  induction ds using List.reverseRecOn with
  | nil =>
      refine ⟨⟨rfl, rfl, rfl⟩, .empty, layout_start hwork, ?_, ?_⟩
      · intro id config hconfig
        cases hconfig
      · intro id hid
        cases hid
  | append_singleton ds d ih =>
      rw [List.forall_mem_append, List.forall_mem_singleton] at hplain hfaults
      obtain ⟨hsetup, st, hlayout, hsound⟩ := ih hplain.1 hfaults.1
      have hlast : first.deliverAll crates (ds ++ [d]) =
          ((first.deliverAll crates ds).deliver crates d).2 :=
        deliverAll_append ds [d]
      rw [hlast]
      rw [← hsetup.workDir] at hwork hlayout
      obtain ⟨st', hlayout', hstep⟩ :=
        deliver_storeStep hwork hlayout hplain.2 hfaults.2
      rw [hsetup.workDir] at hlayout'
      refine ⟨deliver_setup crates d hsetup, st', hlayout', ?_⟩
      refine hstep.sound (hsound.mono ?_) ?_
      · rintro - bytes ⟨earlier, d', later, rfl, hpasses⟩
        exact ⟨earlier, d', later ++ [d], by simp, hpasses⟩
      · intro id sha256 configJson rollbackJson rendered haccepts hkind hrender
          htest
        have hid : Normal id := by
          have hd := hplain.2
          rw [hkind] at hd
          exact hd
        exact ⟨ds, d, [], rfl, passesTest_of_succeeds hwork hlayout haccepts
          hfaults.2 hkind hid hrender htest⟩

/--
After any deliveries every release holds tested bytes and `active` names one,
and what is reported of the next command is true.
-/
theorem releases_tested_and_reports_true
    (crates : Crates) {W : Loc}
    (hwork : EmptyWorkDir first.host.disk first.runner.workDir W)
    (ds : List Delivery) (d : Delivery)
    (hplain : ∀ d' ∈ ds ++ [d], d'.envelope.command.kind.PlainIds)
    (hfaults : ∀ d' ∈ ds ++ [d], ∀ n, Faultless (d'.moments n)) :
    (first.deliverAll crates ds).SoundReleases (Tested crates first ds) ∧
      (first.deliverAll crates ds).ReportsTruly crates d := by
  rw [List.forall_mem_append, List.forall_mem_singleton] at hplain hfaults
  obtain ⟨hsetup, st, hlayout, hsound⟩ :=
    @deliverAll_holds crates first W hwork ds hplain.1 hfaults.1
  rw [← hsetup.workDir] at hwork hlayout
  refine ⟨hsound.soundReleases hwork hlayout, ?_⟩
  obtain ⟨st', hlayout', hstep⟩ :=
    deliver_storeStep hwork hlayout hplain.2 hfaults.2
  refine hstep.reportsTruly hwork hlayout' hplain.2 ?_
  intro haccepts id target sha256 hkind
  have htarget : Normal target := by
    have hd := hplain.2
    rw [hkind] at hd
    exact hd
  obtain ⟨-, result, hresult, -⟩ :=
    deliver_rollback hwork hlayout haccepts hfaults.2 hkind htarget
  exact ⟨result, hresult⟩

/-- A deployment, and after it one that fails the health check. -/
theorem releases_tested_and_reports_true_unhealthy :
    let deployed := referenceDelivery referenceKey
      (referenceApply 1 "dep-1" "first")
      ⟨exited true, exited true, exited true⟩
    let state := referenceState.deliverAll referenceCrates [deployed]
    state.SoundReleases (Tested referenceCrates referenceState [deployed]) ∧
      state.ReportsTruly referenceCrates redeployedUnhealthy := by
  intro deployed state
  refine releases_tested_and_reports_true referenceCrates referenceState_empty
    [deployed] redeployedUnhealthy ?_ ?_
  · intro d hd
    rcases List.mem_cons.mp hd with rfl | hd
    · decide
    · obtain rfl := List.mem_singleton.mp hd
      decide
  · intro d hd n
    rcases List.mem_cons.mp hd with rfl | hd
    · rfl
    · obtain rfl := List.mem_singleton.mp hd
      rfl

end RunnerState
end ProxyControl
