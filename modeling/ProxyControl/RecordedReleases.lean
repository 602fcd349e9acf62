import ProxyControl.ControlPlane.QueuedCommands
import ProxyControl.Runner.Releases

/-!
# What runs is what is recorded

The control plane serves requests of any kind and number at the same time; a
runner carries out what it has polled, with faults of the file system or
without, and is started anew after a crash.

A release has the bytes that its id is the digest of.  The plan of a deployment
names an artifact with such bytes as well, and so does a rollback command, so
all of them agree when no two recorded configurations share a deployment id.

A release may also have lost its bytes.  A deployment removes the release that it
replaces, file by file, and when that is cut short the directory stays without
its `config.json`.  A rollback asks no more than whether the directory is there.
-/

namespace ProxyControl

open Effects FileSystem HashTable
open AppState (deploymentIdOf)

/-! ## The way to the runner -/

/-- Every value in the command is replaced. -/
def RunnerCommandKind.mapJson (f : Json.Value → Json.Value) :
    RunnerCommandKind → RunnerCommandKind
  | .heartbeat capabilitySnapshot => .heartbeat (f capabilitySnapshot)
  | .applyDeploymentPlan deploymentId artifactSha256 configJson rollbackJson =>
      .applyDeploymentPlan deploymentId artifactSha256 (f configJson)
        (rollbackJson.map f)
  | .validateConfig configJson => .validateConfig (f configJson)
  | kind => kind

/-- The envelope that is read from a response, its values printed and parsed. -/
def SignedRunnerCommand.received
    (transport : Json.Value → Json.Value) (self : SignedRunnerCommand) :
    SignedRunnerCommand :=
  { self with
    command := { self.command with kind := self.command.kind.mapJson transport } }

/-- The way to the runner leaves configurations as they are. -/
def KeepsConfigs
    (transport : Json.Value → Json.Value) (threads : List Serving) : Prop :=
  ∀ f ∈ threads, ∀ envelope ∈ polledCommand f,
    ∀ deploymentId sha256 configJson rollbackJson, envelope.command.kind =
      .applyDeploymentPlan deploymentId sha256 configJson rollbackJson →
    transport configJson = configJson

/-- No two recorded configurations have the same deployment id. -/
def PrefixesDiffer (crates : Crates) (threads : List Serving) : Prop :=
  ∀ bytes ∈ recordedBytes threads, ∀ bytes' ∈ recordedBytes threads,
    deploymentIdOf (hexSha256 crates bytes) =
      deploymentIdOf (hexSha256 crates bytes') → bytes = bytes'

/-- The delivery is of a command that a poll has returned. -/
def DeliversPolled
    (transport : Json.Value → Json.Value) (threads : List Serving)
    (d : Delivery) : Prop :=
  ∃ f ∈ threads, ∃ envelope ∈ polledCommand f,
    d.envelope = envelope.received transport

namespace RunnerState

/--
A runner that carries out polled commands, and restarts after a crash, while all
moments are of a kind.
-/
inductive Serves
    (crates : Crates) (transport : Json.Value → Json.Value)
    (threads : List Serving) (ok : Moment → Prop) (first : RunnerState) :
    RunnerState → Prop
  | first : Serves crates transport threads ok first first
  | deliver
      {s : RunnerState} (h : Serves crates transport threads ok first s)
      (d : Delivery) (hd : DeliversPolled transport threads d)
      (hok : ∀ n, ok (d.moments n)) :
      Serves crates transport threads ok first (s.deliver crates d).2
  | restart
      {s : RunnerState} (h : Serves crates transport threads ok first s)
      (d : Delivery) (hd : DeliversPolled transport threads d)
      (hok : ∀ n, ok (d.moments n))
      (host : Host) (hhost : host ∈ s.visited crates d) :
      Serves crates transport threads ok first ⟨first.runner, host⟩

/-- The release to go back to, if there is one, has its configuration. -/
def FindsTarget (s : RunnerState) (d : Delivery) : Prop :=
  match d.envelope.command.kind with
  | .rollbackDeployment _ target _ =>
      s.HasRelease target → (s.releaseConfig target).isSome = true
  | _ => True

/-- What runs after a delivery is what the control plane has recorded. -/
structure RunsRecorded
    (crates : Crates) (control : Shared) (s : RunnerState) (d : Delivery) :
    Prop where
  applied : ∀ result, (s.deliver crates d).1 = .ok result →
    result.status = .succeeded →
    ∃ plan bytes,
      get control.store.deployments result.deploymentId = some plan ∧
      MemoryStore.artifactBytes plan.compiledConfigArtifactId control.store =
        .ok bytes ∧
      (s.deliver crates d).2.releaseConfig result.deploymentId = some bytes ∧
      hexSha256 crates bytes = result.artifactSha256
  rolledBack : ∀ id target sha256 result,
    d.envelope.command.kind = .rollbackDeployment id target sha256 →
    (s.deliver crates d).1 = .ok result → result.status = .rolledBack →
    ∃ release bytes, (s.deliver crates d).2.ActiveNames release ∧
      (s.deliver crates d).2.releaseConfig release = some bytes ∧
      hexSha256 crates bytes = result.artifactSha256

end RunnerState

variable {crates : Crates} {app : AppState}

/-! ## Deployment ids are file names -/

theorem slash_not_mem_takeBytes (n : ℕ) (bytes : Bytes) :
    '/' ∉ (takeBytes n (Hex.encode bytes)).toList := by
  have hdigit : ∀ n : Fin 16, Hex.digit n.val ≠ '/' := by decide
  rw [takeBytes, String.toList_ofList]
  intro hmem
  obtain ⟨b, hb, hslash⟩ := List.mem_map.mp hmem
  obtain ⟨n, hn, hchar⟩ :=
    Hex.exists_digit_of_mem_encode (List.mem_of_mem_take hb)
  exact hdigit ⟨n, hn⟩ (hchar.symm.trans hslash)

theorem normal_deploymentIdOf (bytes : Bytes) :
    Normal (deploymentIdOf (hexSha256 crates bytes)) := by
  have hchars : (deploymentIdOf (hexSha256 crates bytes)).toList =
      'd' :: 'e' :: 'p' :: '-' ::
        (takeBytes 12 (hexSha256 crates bytes)).toList := by
    simp [deploymentIdOf]
  have hne : ∀ name : String, name.toList.head? ≠ some 'd' →
      deploymentIdOf (hexSha256 crates bytes) ≠ name := by
    rintro name hhead rfl
    rw [hchars] at hhead
    exact hhead rfl
  refine normal_of_no_slash ?_ (hne _ (by decide)) (hne _ (by decide))
    (hne _ (by decide))
  rw [hchars]
  simp only [List.mem_cons, not_or]
  exact ⟨by decide, by decide, by decide, by decide,
    slash_not_mem_takeBytes 12 (crates.sha256 bytes)⟩

theorem SaysTruly.plainIds
    {recorded : Bytes → Prop} {s : Shared} {kind : RunnerCommandKind}
    (h : SaysTruly crates recorded s kind) : kind.PlainIds := by
  cases kind with
  | applyDeploymentPlan deploymentId sha256 configJson rollbackJson =>
      obtain ⟨⟨bytes, -, -, rfl⟩, rfl, -⟩ := h
      exact normal_deploymentIdOf bytes
  | rollbackDeployment deploymentId rollbackTo sha256 =>
      obtain ⟨⟨bytes, -, rfl⟩, rfl⟩ := h
      exact normal_deploymentIdOf bytes
  | _ => trivial

/-- The ids of queued commands that name directories are file names. -/
theorem every_queued_command_plain
    {s : Shared} {threads : List Serving} (h : ServingRun crates app s threads)
    (huuids : (drawnUuids threads).Nodup) (nodeId : String) :
    ∀ envelope ∈ MemoryStore.queueOf nodeId s.store,
      envelope.command.kind.PlainIds :=
  fun envelope henvelope =>
    ((h.polled huuids).1.queued nodeId envelope henvelope).plainIds

/-- What is delivered says what was polled. -/
theorem DeliversPolled.saysTruly
    {s : Shared} {threads : List Serving} (h : ServingRun crates app s threads)
    (huuids : (drawnUuids threads).Nodup)
    {transport : Json.Value → Json.Value}
    (hkeeps : KeepsConfigs transport threads)
    {d : Delivery} (hd : DeliversPolled transport threads d) :
    SaysTruly crates (fun bytes => bytes ∈ recordedBytes threads) s
      d.envelope.command.kind := by
  obtain ⟨f, hf, envelope, henvelope, hreceived⟩ := hd
  have htrue := (h.polled huuids).2 f hf envelope henvelope
  have hconfig := hkeeps f hf envelope henvelope
  rw [hreceived]
  simp only [SignedRunnerCommand.received]
  cases hkind : envelope.command.kind with
  | applyDeploymentPlan deploymentId sha256 configJson rollbackJson =>
      rw [hkind] at htrue
      rw [RunnerCommandKind.mapJson, hconfig _ _ _ _ hkind]
      exact htrue
  | rollbackDeployment =>
      rw [hkind] at htrue
      exact htrue
  | _ =>
      rw [hkind] at htrue
      exact htrue.elim

/-! ## What a result is about -/

/-- A result is about a deployment, and repeats the digest of its command. -/
def Reports
    (id sha256 : String) (r : Except String DeploymentResult) : Prop :=
  ∀ result, r = .ok result →
    result.deploymentId = id ∧ result.artifactSha256 = sha256

namespace LocalRunner

variable {outcomes : Outcomes} {id sha256 : String}

/-- The computation only reports so, wherever it begins. -/
def ReportsOnly
    (outcomes : Outcomes) (id sha256 : String)
    (action : Local DeploymentResult) : Prop :=
  ∀ s, Local.Ensures outcomes (fun _ => True) (fun _ => True) action
    (fun r _ => Reports id sha256 r) s

theorem ensures_any
    {α : Type} (action : Local α) (s : Host) :
    Local.Ensures outcomes (fun _ => True) (fun _ => True) action
      (fun _ _ => True) s := by
  unfold Local.Ensures
  generalize action.run = program
  induction program generalizing s with
  | done r => trivial
  | call op next ih => exact fun t _ => ⟨trivial, ih _ _⟩

theorem reportsOnly_bind
    {α : Type} {action : Local α} {next : α → Local DeploymentResult}
    (h : ∀ a, ReportsOnly outcomes id sha256 (next a)) :
    ReportsOnly outcomes id sha256 (action >>= next) := by
  intro s
  refine Local.Ensures.bind (ensures_any action s) (fun a s' _ => h a s') ?_
  rintro e s' - result ⟨⟩

theorem reportsOnly_report
    {result : Calendar.DateTime → DeploymentResult}
    (h : ∀ now, Reports id sha256 (.ok (result now))) :
    ReportsOnly outcomes id sha256 (do return result (← Local.utcNow)) :=
  reportsOnly_bind fun now _ => h now

theorem reportsOnly_rollbackAfterApplyFailure
    (runner : LocalRunner) (previousActive : Option Path) (failure : String) :
    ReportsOnly outcomes id sha256
      (runner.rollbackAfterApplyFailure id sha256 previousActive failure) := by
  refine reportsOnly_bind fun outcome => ?_
  refine reportsOnly_report fun now => ?_
  rintro result ⟨⟩
  exact ⟨rfl, rfl⟩

theorem reportsOnly_applyDeployment
    (crates : Crates) (runner : LocalRunner) (configJson : Json.Value) :
    ReportsOnly outcomes id sha256
      (runner.applyDeployment crates id sha256 configJson) := by
  unfold applyDeployment
  refine reportsOnly_bind fun _ => ?_
  refine reportsOnly_bind fun rendered => ?_
  refine reportsOnly_bind fun _ => ?_
  refine reportsOnly_bind fun output => ?_
  split
  · refine reportsOnly_bind fun rolledBack => ?_
    refine reportsOnly_report fun now => ?_
    rintro result ⟨⟩
    exact ⟨rfl, rfl⟩
  · refine reportsOnly_bind fun _ => ?_
    refine reportsOnly_bind fun previousActive => ?_
    refine reportsOnly_bind fun _ => ?_
    refine reportsOnly_bind fun reload => ?_
    cases reload with
    | some failure => exact reportsOnly_rollbackAfterApplyFailure _ _ _
    | none =>
        refine reportsOnly_bind fun health => ?_
        cases health with
        | some failure => exact reportsOnly_rollbackAfterApplyFailure _ _ _
        | none =>
            refine reportsOnly_report fun now => ?_
            rintro result ⟨⟩
            exact ⟨rfl, rfl⟩

theorem reportsOnly_rollbackDeployment
    (runner : LocalRunner) (target : String) :
    ReportsOnly outcomes id sha256
      (runner.rollbackDeployment id target sha256) := by
  unfold rollbackDeployment
  refine reportsOnly_bind fun present => ?_
  split
  · refine reportsOnly_report fun now => ?_
    rintro result ⟨⟩
    exact ⟨rfl, rfl⟩
  · refine reportsOnly_bind fun _ => ?_
    refine reportsOnly_report fun now => ?_
    rintro result ⟨⟩
    exact ⟨rfl, rfl⟩

end LocalRunner

/-! ## Releases of the runner -/

/--
A release has recorded bytes, and is named after their digest; or it has lost its
configuration.
-/
def NamedRelease
    (crates : Crates) (recorded : Bytes → Prop) (lost : Prop) (id : String) :
    Option Bytes → Prop
  | some bytes => recorded bytes ∧ id = deploymentIdOf (hexSha256 crates bytes)
  | none => lost

theorem SaysTruly.namedRelease
    {recorded : Bytes → Prop} {lost : Prop} {control : Shared}
    {kind : RunnerCommandKind} (h : SaysTruly crates recorded control kind) :
    ∀ id sha256 configJson rollbackJson rendered,
      kind = .applyDeploymentPlan id sha256 configJson rollbackJson →
      crates.toVecPretty configJson = .ok rendered →
      NamedRelease crates recorded lost id (some rendered) := by
  rintro id sha256 configJson rollbackJson rendered rfl hrender
  obtain ⟨⟨bytes, hbytes, hrecorded, rfl⟩, rfl, -⟩ := h
  obtain rfl := Except.ok.inj (hbytes.symm.trans hrender)
  exact ⟨hrecorded, rfl⟩

namespace RunnerState

variable {start : Disk} {W : Loc} {s : RunnerState} {d : Delivery}
variable {recorded : Bytes → Prop} {control : Shared} {st : ReleaseStore}

/-- Named releases are kept by a delivery and on its way. -/
theorem deliver_namedReleases
    {ok : Moment → Prop} {lost : Prop}
    (hwork : EmptyWorkDir start s.runner.workDir W)
    (h : HoldsKind start s.runner.workDir W (NamedRelease crates recorded lost)
      s.host)
    (htrue : SaysTruly crates recorded control d.envelope.command.kind)
    (hok : ∀ n, ok (d.moments n)) (hlost : LosesConfig ok → lost) :
    HoldsKind start s.runner.workDir W (NamedRelease crates recorded lost)
        (s.deliver crates d).2.host ∧
      ∀ host ∈ s.visited crates d,
        HoldsKind start s.runner.workDir W (NamedRelease crates recorded lost)
          host := by
  cases hverdict : s.verdict crates d with
  | error error =>
      rw [deliver_of_rejected crates hverdict,
        visited_of_rejected crates hverdict]
      refine ⟨h, ?_⟩
      intro host hhost
      rwa [List.mem_singleton.mp hhost]
  | ok command =>
      exact deliver_ensures ok hverdict hok h
        (fun _ _ => LocalRunner.ensures_execute_kind crates hwork h
          htrue.plainIds (fun hloses _ => hlost hloses) htrue.namedRelease)

/-- Whatever has been served, releases are named after recorded bytes. -/
theorem Serves.holds
    {transport : Json.Value → Json.Value} {threads : List Serving}
    {ok : Moment → Prop} {first : RunnerState}
    (hwork : EmptyWorkDir first.host.disk first.runner.workDir W)
    (htrue : ∀ d, DeliversPolled transport threads d →
      SaysTruly crates recorded control d.envelope.command.kind)
    (h : Serves crates transport threads ok first s) :
    SameSetup s.runner first.runner ∧
      HoldsKind first.host.disk s.runner.workDir W
        (NamedRelease crates recorded (LosesConfig ok)) s.host := by
  induction h with
  | first =>
      refine ⟨⟨rfl, rfl, rfl⟩, _, layout_start hwork, ?_⟩
      rintro id config ⟨⟩
  | @deliver s _ d hd hok ih =>
      obtain ⟨hsetup, hholds⟩ := ih
      have hsetup' := deliver_setup crates d hsetup
      rw [← hsetup.workDir] at hwork
      refine ⟨hsetup', ?_⟩
      rw [hsetup'.workDir, ← hsetup.workDir]
      exact (deliver_namedReleases hwork hholds (htrue d hd) hok id).1
  | @restart s _ d hd hok host hhost ih =>
      obtain ⟨hsetup, hholds⟩ := ih
      rw [← hsetup.workDir] at hwork
      refine ⟨⟨rfl, rfl, rfl⟩, ?_⟩
      show HoldsKind first.host.disk first.runner.workDir W _ host
      rw [← hsetup.workDir]
      exact (deliver_namedReleases hwork hholds (htrue d hd) hok id).2 host hhost

/-! ## One delivery -/

theorem deliver_reports
    {id sha256 : String}
    (h : ∀ runner, LocalRunner.ReportsOnly d.outcomes id sha256
      (LocalRunner.execute crates runner d.envelope.command.kind)) :
    Reports id sha256 (s.deliver crates d).1 := by
  cases hverdict : s.verdict crates d with
  | error error =>
      rw [deliver_of_rejected crates hverdict]
      rintro result ⟨⟩
  | ok command =>
      exact (@deliver_ensures crates s d (fun _ => True) command hverdict
        (fun _ => trivial) (fun _ => True) trivial
        (fun r _ => Reports id sha256 r) (fun _ _ => h _ _)).1

/-- A configuration that the store has can be read on the disk. -/
theorem releaseConfig_of_layout
    (hwork : EmptyWorkDir start s.runner.workDir W)
    (h : Layout start s.runner.workDir W s.host.disk st)
    {id : String} (hid : Normal id) :
    s.releaseConfig id = st.config id := by
  have hconfig : Normal "config.json" := by decide
  rw [releaseConfig, LocalRunner.releaseDir_eq _ hid, hconfig.join,
    h.readFile_release hwork hid]

/-- What a delivered deployment leaves, whatever faults occur. -/
theorem deliver_keeps
    {id sha256 : String} {configJson : Json.Value}
    {rollbackJson : Option Json.Value} {result : DeploymentResult}
    (hwork : EmptyWorkDir start s.runner.workDir W)
    (h : Layout start s.runner.workDir W s.host.disk st)
    (hkind : d.envelope.command.kind =
      .applyDeploymentPlan id sha256 configJson rollbackJson)
    (hid : Normal id) (hresult : (s.deliver crates d).1 = .ok result) :
    (result.deploymentId = id ∧ result.artifactSha256 = sha256) ∧
      (result.status = .succeeded →
        ∃ rendered, crates.toVecPretty configJson = .ok rendered ∧
          Layout start s.runner.workDir W (s.deliver crates d).2.host.disk
            (st.deploy id rendered)) := by
  refine ⟨deliver_reports (fun runner => ?_) result hresult, ?_⟩
  · rw [hkind]
    exact LocalRunner.reportsOnly_applyDeployment crates runner configJson
  cases hverdict : s.verdict crates d with
  | error error =>
      rw [deliver_of_rejected crates hverdict] at hresult
      cases hresult
  | ok command =>
      have hinv : HoldsKind start s.runner.workDir W (fun _ _ => True) s.host :=
        ⟨st, h, st.ofKind_any⟩
      have hkeeps := (@deliver_ensures crates s d (fun _ => True) command
        hverdict (fun _ => trivial) _ hinv
        (fun r host => ∀ result, r = .ok result → result.status = .succeeded →
          ∃ rendered, crates.toVecPretty configJson = .ok rendered ∧
            Layout start s.runner.workDir W host.disk (st.deploy id rendered))
        (fun _ _ => by
          rw [hkind]
          exact (LocalRunner.ensures_applyDeployment crates hwork h
            st.ofKind_any (fun _ => trivial) hid sha256 configJson
            (fun _ _ => trivial)).mono (fun _ _ hQ => hQ.1.succeeded))).1
      exact hkeeps result hresult

/-- What a delivered rollback leaves, whatever faults occur. -/
theorem deliver_switches
    {id target sha256 : String} {result : DeploymentResult}
    (hwork : EmptyWorkDir start s.runner.workDir W)
    (h : Layout start s.runner.workDir W s.host.disk st)
    (hkind : d.envelope.command.kind = .rollbackDeployment id target sha256)
    (htarget : Normal target) (hresult : (s.deliver crates d).1 = .ok result) :
    result.artifactSha256 = sha256 ∧
      (result.status = .failed ∨
        result.status = .rolledBack ∧ (st.releases target).isSome = true ∧
          Layout start s.runner.workDir W (s.deliver crates d).2.host.disk
            (st.switchTo target)) := by
  have hreports : Reports id sha256 (s.deliver crates d).1 := by
    refine deliver_reports fun runner => ?_
    rw [hkind]
    exact LocalRunner.reportsOnly_rollbackDeployment runner target
  refine ⟨(hreports result hresult).2, ?_⟩
  cases hverdict : s.verdict crates d with
  | error error =>
      rw [deliver_of_rejected crates hverdict] at hresult
      cases hresult
  | ok command =>
      have hinv : HoldsKind start s.runner.workDir W (fun _ _ => True) s.host :=
        ⟨st, h, st.ofKind_any⟩
      have hends := (@deliver_ensures crates s d (fun _ => True) command
        hverdict (fun _ => trivial) _ hinv
        (fun r host => ∀ result, r = .ok result → result.status = .failed ∨
          result.status = .rolledBack ∧ (st.releases target).isSome = true ∧
            Layout start s.runner.workDir W host.disk (st.switchTo target))
        (fun _ _ => by
          rw [hkind]
          exact (LocalRunner.ensures_rollbackDeployment hwork h st.ofKind_any
            htarget sha256).mono (fun _ _ hQ => hQ.2.1))).1
      exact hends result hresult

/-! ## What runs -/

/-- The bytes that a plan names are the only ones with its deployment id. -/
theorem artifactBytes_of_planned
    (htables : TrueTables crates recorded control)
    (hdiffer : ∀ bytes, recorded bytes → ∀ bytes', recorded bytes' →
      deploymentIdOf (hexSha256 crates bytes) =
        deploymentIdOf (hexSha256 crates bytes') → bytes = bytes')
    {bytes : Bytes} (hrecorded : recorded bytes)
    (hplanned : (get control.store.deployments
      (deploymentIdOf (hexSha256 crates bytes))).isSome = true) :
    ∃ plan, get control.store.deployments
        (deploymentIdOf (hexSha256 crates bytes)) = some plan ∧
      MemoryStore.artifactBytes plan.compiledConfigArtifactId control.store =
        .ok bytes := by
  obtain ⟨plan, hplan⟩ := Option.isSome_iff_exists.mp hplanned
  obtain ⟨-, artifact, hartifact, hid⟩ := htables.plan _ plan hplan
  obtain ⟨stored, hstored⟩ := Option.isSome_iff_exists.mp
    (htables.artifact _ artifact hartifact)
  obtain ⟨hsha, hstoredRecorded⟩ := htables.blob _ stored hstored
  rw [hsha] at hid hstored
  obtain rfl := hdiffer bytes hrecorded stored hstoredRecorded hid
  refine ⟨plan, hplan, ?_⟩
  simp only [MemoryStore.artifactBytes, hartifact]
  show MemoryStore.artifactBytesBySha256 artifact.sha256 control.store = _
  rw [MemoryStore.artifactBytesBySha256, hsha, hstored]
  rfl

/-- What is found, in terms of the store. -/
theorem findsTarget_iff_store
    (hwork : EmptyWorkDir start s.runner.workDir W)
    (h : Layout start s.runner.workDir W s.host.disk st)
    {id target sha256 : String}
    (hkind : d.envelope.command.kind = .rollbackDeployment id target sha256)
    (htarget : Normal target) :
    s.FindsTarget d ↔
      ((st.releases target).isSome = true → (st.config target).isSome = true) := by
  rw [FindsTarget, hkind]
  simp only
  rw [HasRelease, LocalRunner.releaseDir_eq _ htarget,
    h.symlinkMetadata_release hwork htarget,
    releaseConfig_of_layout hwork h htarget]

/-- Where no configuration is lost, every target is found. -/
theorem findsTarget_of_keeps
    (hwork : EmptyWorkDir start s.runner.workDir W)
    (h : HoldsKind start s.runner.workDir W (NamedRelease crates recorded False)
      s.host)
    (htrue : SaysTruly crates recorded control d.envelope.command.kind) :
    s.FindsTarget d := by
  obtain ⟨st, hlayout, hnamed⟩ := h
  cases hkind : d.envelope.command.kind with
  | rollbackDeployment id target sha256 =>
      rw [hkind] at htrue
      rw [findsTarget_iff_store hwork hlayout hkind htrue.plainIds]
      intro hrelease
      obtain ⟨config, hconfig⟩ := Option.isSome_iff_exists.mp hrelease
      cases config with
      | none => exact (hnamed target none hconfig).elim
      | some bytes => simp [ReleaseStore.config, hconfig]
  | _ =>
      rw [FindsTarget, hkind]
      trivial

/-- A rejected command has no result. -/
theorem runsRecorded_of_rejected
    (h : ¬ s.accepts crates d = true) :
    RunsRecorded crates control s d := by
  obtain ⟨error, hverdict⟩ := (not_accepts_iff crates).mp h
  have herror := congrArg Prod.fst (deliver_of_rejected crates hverdict)
  constructor
  · intro result hresult
    cases herror.symm.trans hresult
  · intro id target sha256 result _ hresult
    cases herror.symm.trans hresult

theorem runsRecorded_of_findsTarget
    {lost : Prop} (hwork : EmptyWorkDir start s.runner.workDir W)
    (h : HoldsKind start s.runner.workDir W (NamedRelease crates recorded lost)
      s.host)
    (htables : TrueTables crates recorded control)
    (hdiffer : ∀ bytes, recorded bytes → ∀ bytes', recorded bytes' →
      deploymentIdOf (hexSha256 crates bytes) =
        deploymentIdOf (hexSha256 crates bytes') → bytes = bytes')
    (htrue : SaysTruly crates recorded control d.envelope.command.kind)
    (hfinds : s.FindsTarget d) :
    RunsRecorded crates control s d := by
  obtain ⟨st, hlayout, hnamed⟩ := h
  have hsetup := deliver_setup crates d
    (show SameSetup s.runner s.runner from ⟨rfl, rfl, rfl⟩)
  constructor
  · intro result hresult hstatus
    cases hkind : d.envelope.command.kind with
    | applyDeploymentPlan id sha256 configJson rollbackJson =>
        rw [hkind] at htrue
        obtain ⟨⟨bytes, hrender, hrecorded, rfl⟩, rfl, hplanned⟩ := htrue
        have hid := @normal_deploymentIdOf crates bytes
        obtain ⟨⟨hresultId, hresultSha⟩, hsucceeded⟩ :=
          deliver_keeps hwork hlayout hkind hid hresult
        obtain ⟨rendered, hrender', hafter⟩ := hsucceeded hstatus
        obtain rfl := Except.ok.inj (hrender.symm.trans hrender')
        obtain ⟨plan, hplan, hartifact⟩ :=
          artifactBytes_of_planned htables hdiffer hrecorded hplanned
        rw [← hsetup.workDir] at hwork hafter
        rw [hresultId, hresultSha]
        refine ⟨plan, bytes, hplan, hartifact, ?_, rfl⟩
        rw [releaseConfig_of_layout hwork hafter hid]
        simp [ReleaseStore.config, ReleaseStore.deploy, ReleaseStore.switchTo,
          ReleaseStore.prepare]
    | rollbackDeployment id target sha256 =>
        rw [hkind] at htrue
        have htarget : Normal target := htrue.plainIds
        rcases (deliver_switches hwork hlayout hkind htarget hresult).2 with
          hfailed | ⟨hrolledBack, -⟩
        · rw [hstatus] at hfailed
          cases hfailed
        · rw [hstatus] at hrolledBack
          cases hrolledBack
    | _ =>
        rw [hkind] at htrue
        exact htrue.elim
  · intro id target sha256 result hkind hresult hstatus
    rw [hkind] at htrue
    have htarget : Normal target := htrue.plainIds
    rw [findsTarget_iff_store hwork hlayout hkind htarget] at hfinds
    obtain ⟨⟨bytes, hrecorded, rfl⟩, htargetId⟩ := htrue
    obtain ⟨hresultSha, hfailed | ⟨-, hrelease, hafter⟩⟩ :=
      deliver_switches hwork hlayout hkind htarget hresult
    · rw [hstatus] at hfailed
      cases hfailed
    obtain ⟨stored, hstored⟩ := Option.isSome_iff_exists.mp (hfinds hrelease)
    have hconfig : st.releases target = some (some stored) :=
      Option.join_eq_some_iff.mp hstored
    obtain ⟨hstoredRecorded, hstoredId⟩ := hnamed target _ hconfig
    obtain rfl := hdiffer bytes hrecorded stored hstoredRecorded
      (htargetId.symm.trans hstoredId)
    rw [← hsetup.workDir] at hwork hafter
    refine ⟨target, bytes, ?_, ?_, hresultSha.symm⟩
    · exact (readLink_active_iff hwork hafter htarget).mpr rfl
    · rw [releaseConfig_of_layout hwork hafter htarget]
      exact hstored

/-- A rollback without faults switches to a release that must have its bytes. -/
theorem findsTarget_of_runsRecorded
    (hwork : EmptyWorkDir start s.runner.workDir W)
    (h : Layout start s.runner.workDir W s.host.disk st)
    (hplain : d.envelope.command.kind.PlainIds)
    (haccepts : s.accepts crates d = true)
    (hfaults : ∀ n, Faultless (d.moments n))
    (hruns : RunsRecorded crates control s d) :
    s.FindsTarget d := by
  cases hkind : d.envelope.command.kind with
  | rollbackDeployment id target sha256 =>
      rw [hkind] at hplain
      have htarget : Normal target := hplain
      rw [findsTarget_iff_store hwork h hkind htarget]
      intro hrelease
      obtain ⟨-, result, hresult, hends⟩ :=
        deliver_rollback hwork h haccepts hfaults hkind htarget
      rw [if_pos hrelease] at hends
      obtain ⟨hstatus, hafter⟩ := hends
      obtain ⟨release, bytes, hactive, hconfig, -⟩ :=
        hruns.rolledBack id target sha256 result hkind hresult hstatus
      have hsetup := deliver_setup crates d
        (show SameSetup s.runner s.runner from ⟨rfl, rfl, rfl⟩)
      rw [← hsetup.workDir] at hwork hafter
      have hnames := (readLink_active_iff hwork hafter htarget).mpr rfl
      have hdir : (s.deliver crates d).2.runner.releaseDir release =
          (s.deliver crates d).2.runner.releaseDir target :=
        Option.some.inj (hactive.symm.trans hnames)
      rw [releaseConfig, hdir, ← releaseConfig,
        releaseConfig_of_layout hwork hafter htarget] at hconfig
      exact Option.isSome_iff_exists.mpr ⟨bytes, hconfig⟩
  | _ =>
      rw [FindsTarget, hkind]
      trivial

end RunnerState

/--
What runs is what is recorded as long as nothing takes the `config.json` of a
release away; and in general after every delivery but a rollback that finds the
release without it.
-/
theorem runs_recorded_iff
    {app : AppState} {control : Shared} {threads : List Serving}
    {transport : Json.Value → Json.Value} {ok : Moment → Prop}
    {first s : RunnerState} {W : Loc} {d : Delivery}
    (hcontrol : ServingRun crates app control threads)
    (huuids : (drawnUuids threads).Nodup)
    (hkeeps : KeepsConfigs transport threads)
    (hdiffer : PrefixesDiffer crates threads)
    (hwork : EmptyWorkDir first.host.disk first.runner.workDir W)
    (hserves : RunnerState.Serves crates transport threads ok first s)
    (hd : DeliversPolled transport threads d) :
    (¬ LosesConfig ok → RunnerState.RunsRecorded crates control s d) ∧
      (s.FindsTarget d → RunnerState.RunsRecorded crates control s d) ∧
      ((∀ n, Faultless (d.moments n)) →
        (RunnerState.RunsRecorded crates control s d ↔
          (s.accepts crates d = true → s.FindsTarget d))) := by
  have htrue : ∀ d, DeliversPolled transport threads d →
      SaysTruly crates (fun bytes => bytes ∈ recordedBytes threads) control
        d.envelope.command.kind :=
    fun d hd => hd.saysTruly hcontrol huuids hkeeps
  obtain ⟨hsetup, hholds⟩ := hserves.holds hwork htrue
  rw [← hsetup.workDir] at hwork
  have hfinds : s.FindsTarget d → RunnerState.RunsRecorded crates control s d :=
    RunnerState.runsRecorded_of_findsTarget hwork hholds
      (hcontrol.polled huuids).1 hdiffer (htrue d hd)
  refine ⟨?_, hfinds, ?_⟩
  · intro hlossless
    rw [eq_false hlossless] at hholds
    exact hfinds (RunnerState.findsTarget_of_keeps hwork hholds (htrue d hd))
  · intro hfaults
    obtain ⟨st, hlayout, -⟩ := hholds
    constructor
    · intro hruns haccepts
      exact RunnerState.findsTarget_of_runsRecorded hwork hlayout
        (htrue d hd).plainIds haccepts hfaults hruns
    · intro hif
      by_cases haccepts : s.accepts crates d = true
      · exact hfinds (hif haccepts)
      · exact RunnerState.runsRecorded_of_rejected haccepts

/-! ### A deployment, its repetition, and a rollback -/

/-- The deployment that the profile compiles to. -/
def compiledDeployment : String :=
  "dep-44d0a849c923"

/-- The node reports that the deployment has succeeded. -/
def reportedSuccess : SignedDeploymentResult :=
  let result : DeploymentResult :=
    ⟨compiledDeployment, .succeeded, "", "", ⟨0, 0⟩⟩
  match SignedDeploymentResult.sign referenceCrates "node" result
      (nodeKey 1) with
  | .ok signed => signed
  | .error _ => ⟨"node", result, ""⟩

/--
A node and a profile; its deployment is compiled, reported as a success, compiled
again and rolled back.  Then the three commands are polled.
-/
def threeCommands : Shared × List Serving :=
  serving
    [ registration "dev-registration-token" "node" 1,
      .createVlessRealityProfile "profile" "example.com",
      .compileDeployment [] ⟨"profile", "node"⟩,
      .submitRunnerResult "node" runnerHeaders reportedSuccess,
      .compileDeployment [] ⟨"profile", "node"⟩,
      .queueRollback compiledDeployment,
      .nextRunnerCommand "node" none runnerHeaders,
      .nextRunnerCommand "node" none runnerHeaders,
      .nextRunnerCommand "node" none runnerHeaders ]
    ([5, 5, 20, 8, 20, 8, 3, 3, 3].zipIdx.flatMap
      (fun part => List.replicate part.1 part.2))

/-- A runner of the node with nothing in its work directory. -/
def freshRunner : RunnerState :=
  { RunnerState.referenceState with
    runner := LocalRunner.configured "node" ⟨true, ["w"]⟩ ⟨true, ["xray"]⟩
      (referenceCrates.verifyingKey referenceApp.signingKey) none none }

/-- The command reaches the runner as it is, and xray ends well. -/
def delivered (envelope : SignedRunnerCommand) : Delivery where
  envelope := envelope.received id
  outcomes := ⟨exited true, exited true, exited true⟩
  moments _ := ⟨⟨0, 0⟩, none⟩

/-- The sixth call fails, and a `config.json` has been removed by then. -/
def cutShort (n : ℕ) : Moment where
  now := ⟨0, 0⟩
  fault :=
    if n = 5 then some ⟨"io error", ⟨0, none, [["config.json"]]⟩⟩ else none

/-- The deployment, and its repetition under the given moments. -/
def redeployed
    (moments : ℕ → Moment) (first second : SignedRunnerCommand) :
    RunnerState :=
  ((freshRunner.deliver referenceCrates (delivered first)).2.deliver
    referenceCrates { delivered second with moments := moments }).2

/-- A rollback is reported after the repetition, and what the link names then. -/
def rolledBackTo
    (moments : ℕ → Moment) (first second third : SignedRunnerCommand) :
    Option (DeploymentStatus × Bool) :=
  let after := (redeployed moments first second).deliver referenceCrates
    (delivered third)
  after.1.toOption.map (fun result =>
    (result.status,
      (namedConfig after.2.host.disk after.2.runner.active).isSome))

/-- The last command is a rollback, which succeeds with and without the fault. -/
def rollsBackEmpty : List SignedRunnerCommand → Bool
  | [first, second, third] =>
      (third.command.kind matches .rollbackDeployment ..) &&
        rolledBackTo (fun _ => ⟨⟨0, 0⟩, none⟩) first second third =
          some (.rolledBack, true) &&
        rolledBackTo cutShort first second third = some (.rolledBack, false)
  | _ => false

theorem threeCommands_checked :
    rollsBackEmpty (threeCommands.2.filterMap polledCommand) = true ∧
      (drawnUuids threeCommands.2).Nodup ∧
      (recordedBytes threeCommands.2).eraseDups.length = 1 := by
  decide +kernel

theorem rollsBackEmpty_commands
    {commands : List SignedRunnerCommand} (h : rollsBackEmpty commands = true) :
    ∃ first second third, commands = [first, second, third] ∧
      (∃ id target sha256, third.command.kind =
        .rollbackDeployment id target sha256) ∧
      rolledBackTo (fun _ => ⟨⟨0, 0⟩, none⟩) first second third =
        some (.rolledBack, true) ∧
      rolledBackTo cutShort first second third = some (.rolledBack, false) := by
  unfold rollsBackEmpty at h
  split at h
  · rename_i first second third
    simp only [Bool.and_eq_true, decide_eq_true_eq] at h
    obtain ⟨⟨hkind, hwhole⟩, hcut⟩ := h
    refine ⟨first, second, third, rfl, ?_, hwhole, hcut⟩
    cases hthird : third.command.kind with
    | rollbackDeployment id target sha256 => exact ⟨id, target, sha256, rfl⟩
    | _ =>
        rw [hthird] at hkind
        cases hkind
  · cases h

theorem prefixesDiffer_of_same
    {threads : List Serving}
    (h : (recordedBytes threads).eraseDups.length = 1) :
    PrefixesDiffer crates threads := by
  obtain ⟨bytes, hbytes⟩ := List.length_eq_one_iff.mp h
  have hsame : ∀ stored ∈ recordedBytes threads, stored = bytes := by
    intro stored hstored
    rw [← List.mem_eraseDups, hbytes] at hstored
    exact List.mem_singleton.mp hstored
  intro stored hstored stored' hstored' _
  rw [hsame stored hstored, hsame stored' hstored']

theorem freshRunner_empty :
    EmptyWorkDir freshRunner.host.disk freshRunner.runner.workDir ["w"] :=
  RunnerState.referenceState_empty

theorem deliversPolled_of_mem
    {transport : Json.Value → Json.Value} {threads : List Serving}
    (envelope : SignedRunnerCommand)
    (h : envelope ∈ threads.filterMap polledCommand)
    {d : Delivery} (hd : d.envelope = envelope.received transport) :
    DeliversPolled transport threads d := by
  obtain ⟨f, hf, hpolled⟩ := List.mem_filterMap.mp h
  exact ⟨f, hf, envelope, hpolled, hd⟩

/-- The runner has served the deployment and its repetition. -/
theorem serves_redeployed
    {moments : ℕ → Moment} {first second third : SignedRunnerCommand}
    (hcommands : threeCommands.2.filterMap polledCommand =
      [first, second, third])
    {ok : Moment → Prop} (hquiet : ok ⟨⟨0, 0⟩, none⟩)
    (hok : ∀ n, ok (moments n)) :
    RunnerState.Serves referenceCrates id threeCommands.2 ok freshRunner
      (redeployed moments first second) := by
  refine .deliver (.deliver .first (delivered first) ?_ (fun _ => hquiet))
    { delivered second with moments := moments } ?_ hok
  · exact deliversPolled_of_mem first (by simp [hcommands]) rfl
  · exact deliversPolled_of_mem second (by simp [hcommands]) rfl

/-- A rollback to a release without its configuration is reported as done. -/
theorem rollback_to_emptied_release :
    ¬ ∀ (crates : Crates) (app : AppState) (control : Shared)
      (threads : List Serving) (transport : Json.Value → Json.Value)
      (first s : RunnerState) (W : Loc) (d : Delivery),
      ServingRun crates app control threads →
      (drawnUuids threads).Nodup →
      KeepsConfigs transport threads →
      PrefixesDiffer crates threads →
      EmptyWorkDir first.host.disk first.runner.workDir W →
      RunnerState.Serves crates transport threads (fun _ => True) first s →
      DeliversPolled transport threads d →
      RunnerState.RunsRecorded crates control s d := by
  intro h
  obtain ⟨hcommands, huuids, hbytes⟩ := threeCommands_checked
  obtain ⟨first, second, third, hpolled, ⟨id, target, sha256, hkind⟩, -, hcut⟩ :=
    rollsBackEmpty_commands hcommands
  have hruns := h referenceCrates referenceApp threeCommands.1 threeCommands.2
    (fun value => value) freshRunner (redeployed cutShort first second) ["w"]
    (delivered third) (serving_run _ _) huuids (fun _ _ _ _ _ _ _ _ _ => rfl)
    (prefixesDiffer_of_same hbytes) freshRunner_empty
    (serves_redeployed hpolled trivial (fun _ => trivial))
    (deliversPolled_of_mem third (by simp [hpolled]) rfl)
  unfold rolledBackTo at hcut
  cases hresult : ((redeployed cutShort first second).deliver referenceCrates
      (delivered third)).1 with
  | error e =>
      simp only [hresult] at hcut
      cases hcut
  | ok result =>
  simp only [hresult] at hcut
  obtain ⟨hstatus, hempty⟩ := Prod.mk.inj (Option.some.inj hcut)
  obtain ⟨release, bytes, hactive, hconfig, -⟩ :=
    hruns.rolledBack id target sha256 result
      (by simp [delivered, SignedRunnerCommand.received, hkind,
        RunnerCommandKind.mapJson]) hresult hstatus
  rw [namedConfig, hactive, Option.bind_some] at hempty
  rw [RunnerState.releaseConfig] at hconfig
  rw [hconfig] at hempty
  cases hempty

/-- Without the fault the repetition and the rollback leave what is recorded. -/
theorem runs_recorded_iff_redeployed :
    ∃ first second third,
      threeCommands.2.filterMap polledCommand = [first, second, third] ∧
      rolledBackTo (fun _ => ⟨⟨0, 0⟩, none⟩) first second third =
        some (.rolledBack, true) ∧
      (redeployed (fun _ => ⟨⟨0, 0⟩, none⟩) first second).RunsRecorded
        referenceCrates threeCommands.1 (delivered third) := by
  obtain ⟨hcommands, huuids, hbytes⟩ := threeCommands_checked
  obtain ⟨first, second, third, hpolled, -, hwhole, -⟩ :=
    rollsBackEmpty_commands hcommands
  refine ⟨first, second, third, hpolled, hwhole, ?_⟩
  have hlossless : ¬ LosesConfig Faultless :=
    fun hloses => not_faulty_faultless hloses.faulty
  exact (@runs_recorded_iff referenceCrates referenceApp threeCommands.1
    threeCommands.2 id Faultless freshRunner
    (redeployed (fun _ => ⟨⟨0, 0⟩, none⟩) first second) ["w"] (delivered third)
    (serving_run _ _) huuids (fun _ _ _ _ _ _ _ _ _ => rfl)
    (prefixesDiffer_of_same hbytes) freshRunner_empty
    (serves_redeployed hpolled rfl (fun _ => rfl))
    (deliversPolled_of_mem third (by simp [hpolled])
      rfl)).1 hlossless

end ProxyControl
