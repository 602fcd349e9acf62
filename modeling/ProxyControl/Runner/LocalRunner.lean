import ProxyControl.Domain
import ProxyControl.Lib.FileSystem
import ProxyControl.Lib.Program

/-!
# The local runner

`LocalRunner` verifies a signed command, stages the configuration it carries,
tests it with xray, moves it to its release directory and switches the link
`active` over.

A run of `apply` is a program over `SystemCall`s.  `Host` is what the calls act
on: the disk, and the configuration that the core has loaded.  What the commands
outside the repository answer is given for a whole run by `Outcomes`; for every
call a `Moment` gives the clock and, possibly, a fault.  A file operation that
meets a fault fails, and what takes several system calls may be done in part by
then.  A crash in the midst of such an operation leaves the same.
-/

namespace ProxyControl

open Calendar Effects FileSystem

/-! ## System calls -/

/-- What `Command::output` reports of a process that has ended. -/
structure ProcessOutput where
  success : Bool
  status : String
  stderr : String
deriving DecidableEq

/-- The part a configured core command plays. -/
inductive CoreRole
  | reload
  | health
deriving DecidableEq

/-- A file operation that changes the disk or fails. -/
inductive DiskChange
  | createDirAll (path : Path)
  | write (path : Path) (contents : Bytes)
  | removeDirAll (path : Path)
  | removeFile (path : Path)
  | rename (source destination : Path)
  | symlink (original link : Path)

def DiskChange.perform : DiskChange → Disk → Option Disk
  | createDirAll path, disk => disk.createDirAll path
  | write path contents, disk => disk.write path contents
  | removeDirAll path, disk => disk.removeDirAll path
  | removeFile path, disk => disk.removeFile path
  | rename source destination, disk => disk.rename source destination
  | symlink original link, disk => disk.symlink original link

/-- What is left of a change that is cut short; a single system call is not. -/
def DiskChange.cutShort (progress : Disk.Progress) : DiskChange → Disk → Disk
  | createDirAll path, disk => disk.createDirAllUntil progress path
  | write path contents, disk => disk.writeUntil progress path contents
  | removeDirAll path, disk => disk.removeDirAllUntil progress path
  | removeFile _, disk => disk
  | rename _ _, disk => disk
  | symlink _ _, disk => disk

inductive SystemCall : Type
  | utcNow
  | change (op : DiskChange)
  | exists (path : Path)
  | symlinkMetadata (path : Path)
  | readLink (path : Path)
  | xrayTest (xrayBin config : Path)
  | coreCommand (role : CoreRole) (command : Path)
      (nodeId deploymentId : String) (activeDir activeConfig : Path)

/-- Metadata is asked for its presence only, and a link for its target. -/
abbrev SystemCall.Ret : SystemCall → Type
  | utcNow => DateTime
  | change _ => Except String Unit
  | «exists» _ => Bool
  | symlinkMetadata _ => Bool
  | readLink _ => Option Path
  | xrayTest .. => Except String ProcessOutput
  | coreCommand .. => Except String ProcessOutput

/-- How the commands outside the repository end during one run of `apply`. -/
structure Outcomes where
  test : Except String ProcessOutput
  reload : Except String ProcessOutput
  health : Except String ProcessOutput

def Outcomes.of (self : Outcomes) : CoreRole → Except String ProcessOutput
  | .reload => self.reload
  | .health => self.health

/-- The command was started and reported success. -/
def Succeeds : Except String ProcessOutput → Prop
  | .ok output => output.success = true
  | .error _ => False

instance (outcome : Except String ProcessOutput) :
    Decidable (Succeeds outcome) :=
  match outcome with
  | .ok output => inferInstanceAs (Decidable (output.success = true))
  | .error _ => inferInstanceAs (Decidable False)

/-- A call fails, and a file operation has come this far by then. -/
structure Fault where
  message : String
  progress : Disk.Progress

/-- What the environment decides at one call. -/
structure Moment where
  now : DateTime
  fault : Option Fault

/-- The disk of a node, and the configuration its core has loaded. -/
structure Host where
  disk : Disk
  loaded : Option Bytes

/-- A file operation changes the disk, unless it is refused or cut short. -/
def Host.change
    (s : Host) (op : DiskChange) (t : Moment) :
    Except String Unit × Host :=
  match t.fault, op.perform s.disk with
  | some fault, _ =>
      (.error fault.message,
        { s with disk := op.cutShort fault.progress s.disk })
  | none, none => (.error "io error", s)
  | none, some disk => (.ok (), { s with disk := disk })

/--
What a core command does to the core: a successful reload loads what is reached
through `active`.
-/
def CoreRole.effect
    (role : CoreRole) (outcomes : Outcomes) (activeConfig : Path) (s : Host) :
    Host :=
  match role with
  | .reload =>
      if Succeeds outcomes.reload then
        { s with loaded := s.disk.readFile activeConfig }
      else s
  | .health => s

/-- One system call against the host. -/
def Host.answer (outcomes : Outcomes) :
    (op : SystemCall) → Moment → Host → op.Ret × Host
  | .utcNow, t, s => (t.now, s)
  | .change op, t, s => s.change op t
  | .exists path, t, s => (t.fault.isNone && s.disk.exists path, s)
  | .symlinkMetadata path, t, s =>
      (t.fault.isNone && (s.disk.symlinkMetadata path).isSome, s)
  | .readLink path, t, s =>
      (if t.fault.isNone then s.disk.readLink path else none, s)
  | .xrayTest _ _, _, s => (outcomes.test, s)
  | .coreCommand role _ _ _ _ activeConfig, _, s =>
      (outcomes.of role, role.effect outcomes activeConfig s)

/-! ## The runner -/

/-- A computation of the runner; `?` ends it with the text of an error. -/
abbrev Local (α : Type) : Type :=
  ExceptT String (Program SystemCall SystemCall.Ret) α

namespace Local

/-- The answer of one call, errors included. -/
def perform (op : SystemCall) : Local op.Ret :=
  ExceptT.mk (.call op (fun r => .done (.ok r)))

def utcNow : Local DateTime :=
  perform .utcNow

def change (op : DiskChange) : Local Unit :=
  ExceptT.mk (.call (.change op) .done)

def createDirAll (path : Path) : Local Unit :=
  change (.createDirAll path)

def write (path : Path) (contents : Bytes) : Local Unit :=
  change (.write path contents)

def removeDirAll (path : Path) : Local Unit :=
  change (.removeDirAll path)

def removeFile (path : Path) : Local Unit :=
  change (.removeFile path)

def rename (source destination : Path) : Local Unit :=
  change (.rename source destination)

def symlink (original link : Path) : Local Unit :=
  change (.symlink original link)

def «exists» (path : Path) : Local Bool :=
  perform (.exists path)

def symlinkMetadata (path : Path) : Local Bool :=
  perform (.symlinkMetadata path)

def readLink (path : Path) : Local (Option Path) :=
  perform (.readLink path)

def xrayTest (xrayBin config : Path) : Local ProcessOutput :=
  ExceptT.mk (.call (.xrayTest xrayBin config) .done)

def coreCommand
    (role : CoreRole) (command : Path) (nodeId deploymentId : String)
    (activeDir activeConfig : Path) : Local ProcessOutput :=
  ExceptT.mk (.call
    (.coreCommand role command nodeId deploymentId activeDir activeConfig)
    .done)

/-- A computation of a crate, its error carried by `?`. -/
def ofExcept {α : Type} (value : Except String α) : Local α :=
  ExceptT.mk (.done value)

/-- `let _ = …`: the error of a computation is dropped. -/
def ignoreError (action : Local Unit) : Local Unit :=
  ExceptT.mk (action.run >>= fun _ => .done (.ok ()))

/-- `path.exists() || fs::symlink_metadata(path).await.is_ok()` -/
def present (path : Path) : Local Bool := do
  if ← Local.exists path then
    return true
  else
    Local.symlinkMetadata path

/-- An `if` without an `else`. -/
def when (condition : Local Bool) (action : Local Unit) : Local Unit := do
  if ← condition then
    action
  else
    return ()

/-- The error of a computation as a value. -/
def outcome {α : Type} (action : Local α) : Local (Except String α) :=
  ExceptT.mk (action.run >>= fun r => .done (.ok r))

end Local

structure LocalRunner where
  nodeId : String
  workDir : Path
  xrayBin : Path
  controlPlaneKey : VerifyingKey
  lastSequence : UInt64
  seenNonces : Finset String
  reloadCommand : Option Path
  healthCommand : Option Path

namespace LocalRunner

def new
    (nodeId : String) (workDir xrayBin : Path)
    (controlPlaneKey : VerifyingKey) : LocalRunner where
  nodeId := nodeId
  workDir := workDir
  xrayBin := xrayBin
  controlPlaneKey := controlPlaneKey
  lastSequence := 0
  seenNonces := ∅
  reloadCommand := none
  healthCommand := none

def withReloadCommand (self : LocalRunner) (command : Path) : LocalRunner :=
  { self with reloadCommand := some command }

def withHealthCommand (self : LocalRunner) (command : Path) : LocalRunner :=
  { self with healthCommand := some command }

/-- The runner as `main` builds it: each core command only if it is given. -/
def configured
    (nodeId : String) (workDir xrayBin : Path)
    (controlPlaneKey : VerifyingKey)
    (reloadCommand healthCommand : Option Path) : LocalRunner :=
  let runner := new nodeId workDir xrayBin controlPlaneKey
  let runner := reloadCommand.elim runner runner.withReloadCommand
  healthCommand.elim runner runner.withHealthCommand

def active (self : LocalRunner) : Path :=
  self.workDir.join "active"

/-- What is read through `active`. -/
def activeConfig (self : LocalRunner) (disk : Disk) : Option Bytes :=
  disk.readFile (self.active.join "config.json")

def releaseDir (self : LocalRunner) (deploymentId : String) : Path :=
  (self.workDir.join "releases").join deploymentId

def tmpDir (self : LocalRunner) (deploymentId : String) : Path :=
  (self.workDir.join "tmp").join deploymentId

def switchActive (self : LocalRunner) (releaseDir : Path) : Local Unit := do
  let active := self.active
  let next := self.workDir.join "active.next"
  Local.when (Local.present next)
    (Local.ignoreError (Local.removeFile next))
  Local.symlink releaseDir next
  Local.when (Local.present active) (Local.removeFile active)
  Local.rename next active

def runCoreCommand
    (self : LocalRunner) (role : CoreRole)
    (commandPath : Path) (deploymentId : String) : Local Unit := do
  let activeDir := self.active
  let activeConfig := activeDir.join "config.json"
  let output ← Local.coreCommand role commandPath self.nodeId deploymentId
    activeDir activeConfig
  if output.success then
    return ()
  else
    throw ("status=" ++ output.status ++ " stderr=" ++ output.stderr)

/-- Put the link back, or away; what is reported then. -/
def restoreActive
    (self : LocalRunner) (previousActive : Option Path) (failure : String) :
    Local (DeploymentStatus × String) :=
  match previousActive with
  | some previousActive => do
      self.switchActive previousActive
      return (.rolledBack,
        failure ++ "; rolled back to previous active release")
  | none => do
      Local.when (Local.symlinkMetadata self.active)
        (Local.ignoreError (Local.removeFile self.active))
      return (.failed,
        failure ++ "; no previous active release available")

def rollbackAfterApplyFailure
    (self : LocalRunner) (deploymentId artifactSha256 : String)
    (previousActive : Option Path) (failure : String) :
    Local DeploymentResult := do
  let (status, message) ← self.restoreActive previousActive failure
  return {
    deploymentId := deploymentId
    status := status
    message := message
    artifactSha256 := artifactSha256
    observedAt := ← Local.utcNow }

/-- The answer to a configuration that the xray test has rejected. -/
def testFailed
    (self : LocalRunner) (deploymentId artifactSha256 : String)
    (output : ProcessOutput) : Local DeploymentResult := do
  let rolledBack ← Local.symlinkMetadata self.active
  let failure := "xray config test failed: status=" ++ output.status ++
    " stderr=" ++ output.stderr
  let message :=
    if rolledBack then
      failure ++ "; rolled back to previous active release"
    else
      failure ++ "; no previous active release available"
  return {
    deploymentId := deploymentId
    status := if rolledBack then .rolledBack else .failed
    message := message
    artifactSha256 := artifactSha256
    observedAt := ← Local.utcNow }

/-- Put the tested configuration in the place of its release. -/
def installRelease
    (self : LocalRunner) (deploymentId : String) : Local Unit := do
  let releaseDir := self.releaseDir deploymentId
  Local.when (Local.exists releaseDir) (Local.removeDirAll releaseDir)
  Local.createDirAll releaseDir.parent
  Local.rename (self.tmpDir deploymentId) releaseDir

/-- A configured core command, its failure under the text it is reported as. -/
def coreStage
    (self : LocalRunner) (role : CoreRole) (command : Option Path)
    (deploymentId failure : String) : Local (Option String) :=
  match command with
  | none => return none
  | some command => do
      match ← Local.outcome (self.runCoreCommand role command deploymentId) with
      | .ok () => return none
      | .error error => return some (failure ++ error)

/-- Reload the core and check its health; a failure undoes the switch. -/
def finishDeployment
    (self : LocalRunner) (deploymentId artifactSha256 : String)
    (previousActive : Option Path) : Local DeploymentResult := do
  match ← self.coreStage .reload self.reloadCommand deploymentId
      "xray reload/restart command failed: " with
  | some failure =>
      self.rollbackAfterApplyFailure deploymentId artifactSha256
        previousActive failure
  | none =>
      match ← self.coreStage .health self.healthCommand deploymentId
          "xray process health check failed: " with
      | some failure =>
          self.rollbackAfterApplyFailure deploymentId artifactSha256
            previousActive failure
      | none =>
          let reloadMessage :=
            if self.reloadCommand.isSome then
              "reload/restart command succeeded"
            else
              "reload/restart command not configured"
          let healthMessage :=
            if self.healthCommand.isSome then
              "process health check succeeded"
            else
              "process health check not configured"
          return {
            deploymentId := deploymentId
            status := .succeeded
            message := "deployment applied, active config switched, " ++
              reloadMessage ++ ", " ++ healthMessage
            artifactSha256 := artifactSha256
            observedAt := ← Local.utcNow }

def applyDeployment
    (crates : Crates) (self : LocalRunner)
    (deploymentId artifactSha256 : String) (configJson : Json.Value) :
    Local DeploymentResult := do
  let releaseDir := self.releaseDir deploymentId
  let tmpDir := self.tmpDir deploymentId
  Local.createDirAll tmpDir
  let configPath := tmpDir.join "config.json"
  let rendered ← Local.ofExcept (crates.toVecPretty configJson)
  Local.write configPath rendered
  let output ← Local.xrayTest self.xrayBin configPath
  if ¬ output.success then
    self.testFailed deploymentId artifactSha256 output
  else
    self.installRelease deploymentId
    let previousActive ← Local.readLink self.active
    self.switchActive releaseDir
    self.finishDeployment deploymentId artifactSha256 previousActive

def rollbackDeployment
    (self : LocalRunner)
    (deploymentId rollbackToDeploymentId artifactSha256 : String) :
    Local DeploymentResult := do
  let releaseDir := self.releaseDir rollbackToDeploymentId
  if ¬ (← Local.symlinkMetadata releaseDir) then
    return {
      deploymentId := deploymentId
      status := .failed
      message := "rollback target release not found: " ++
        rollbackToDeploymentId
      artifactSha256 := artifactSha256
      observedAt := ← Local.utcNow }
  else
    self.switchActive releaseDir
    return {
      deploymentId := deploymentId
      status := .rolledBack
      message := "deployment rolled back to " ++ rollbackToDeploymentId
      artifactSha256 := artifactSha256
      observedAt := ← Local.utcNow }

/-- What the runner does with a verified command. -/
def execute
    (crates : Crates) (self : LocalRunner) :
    RunnerCommandKind → Local DeploymentResult
  | .applyDeploymentPlan deploymentId artifactSha256 configJson _ =>
      self.applyDeployment crates deploymentId artifactSha256 configJson
  | .rollbackDeployment deploymentId rollbackToDeploymentId artifactSha256 =>
      self.rollbackDeployment deploymentId rollbackToDeploymentId
        artifactSha256
  | _ => throw "unsupported local runner command for apply()"

/-- The verdict on an envelope, and the runner after it. -/
def accept
    (crates : Crates) (self : LocalRunner)
    (envelope : SignedRunnerCommand) (now : DateTime) :
    Except DomainError RunnerCommand × LocalRunner :=
  match envelope.verify crates self.controlPlaneKey self.nodeId
      self.lastSequence self.seenNonces now with
  | (.ok command, seenNonces) =>
      (.ok command,
        { self with
          lastSequence := command.sequence, seenNonces := seenNonces })
  | (.error error, seenNonces) =>
      (.error error, { self with seenNonces := seenNonces })

/-- The result of an envelope, and the runner after it. -/
def apply
    (crates : Crates) (self : LocalRunner)
    (envelope : SignedRunnerCommand) :
    Program SystemCall SystemCall.Ret
      (Except String DeploymentResult × LocalRunner) :=
  .call .utcNow fun now =>
    match self.accept crates envelope now with
    | (.error error, runner) => .done (.error error.message, runner)
    | (.ok command, runner) =>
        (runner.execute crates command.kind).run >>= fun result =>
          .done (result, runner)

end LocalRunner

/-! ## Runs -/

/-- An envelope passed to `apply`, and how its environment behaves. -/
structure Delivery where
  envelope : SignedRunnerCommand
  outcomes : Outcomes
  moments : ℕ → Moment

/-- The clock reading that an envelope is verified at. -/
def Delivery.clock (self : Delivery) : DateTime :=
  (self.moments 0).now

/-- A runner and the host it runs on. -/
structure RunnerState where
  runner : LocalRunner
  host : Host

namespace RunnerState

variable (crates : Crates)

/-- The result of one delivery, and the state after it. -/
def deliver (self : RunnerState) (d : Delivery) :
    Except String DeploymentResult × RunnerState :=
  let after := (self.runner.apply crates d.envelope).run
    (Host.answer d.outcomes) d.moments self.host
  (after.1.1, ⟨after.1.2, after.2⟩)

/-- The hosts after the successive calls of one delivery. -/
def visited (self : RunnerState) (d : Delivery) : List Host :=
  (self.runner.apply crates d.envelope).visits
    (Host.answer d.outcomes) d.moments self.host

/-- The state after a sequence of deliveries. -/
def deliverAll (self : RunnerState) (ds : List Delivery) : RunnerState :=
  ds.foldl (fun s d => (s.deliver crates d).2) self

/-- The verdict on a delivery. -/
def verdict (self : RunnerState) (d : Delivery) :
    Except DomainError RunnerCommand :=
  (self.runner.accept crates d.envelope d.clock).1

/-- After a delivery the runner is as the verification has left it. -/
theorem deliver_runner
    (s : RunnerState) (d : Delivery) :
    (s.deliver crates d).2.runner =
      (s.runner.accept crates d.envelope d.clock).2 := by
  simp only [deliver, LocalRunner.apply, Program.run, Host.answer,
    Delivery.clock]
  split
  · rename_i haccept
    rw [haccept]
    rfl
  · rename_i haccept
    rw [haccept, Program.run_bind_done]

theorem accept_of_verdict
    {s : RunnerState} {d : Delivery} {verdict : Except DomainError RunnerCommand}
    (h : s.verdict crates d = verdict) :
    s.runner.accept crates d.envelope (d.moments 0).now =
      (verdict, (s.runner.accept crates d.envelope d.clock).2) :=
  Prod.ext h rfl

/-- A rejected delivery leaves the host alone. -/
theorem deliver_of_rejected
    {s : RunnerState} {d : Delivery} {error : DomainError}
    (h : s.verdict crates d = .error error) :
    s.deliver crates d =
      (.error error.message,
        ⟨(s.runner.accept crates d.envelope d.clock).2, s.host⟩) := by
  simp only [deliver, LocalRunner.apply, Program.run, Host.answer]
  rw [accept_of_verdict crates h]
  rfl

/-- What an accepted delivery runs is the execution of its command. -/
theorem deliver_of_accepted
    {s : RunnerState} {d : Delivery} {command : RunnerCommand}
    (h : s.verdict crates d = .ok command) :
    s.deliver crates d =
      let runner := (s.runner.accept crates d.envelope d.clock).2
      let after := (runner.execute crates command.kind).run.run
        (Host.answer d.outcomes) (fun n => d.moments (n + 1)) s.host
      (after.1, ⟨runner, after.2⟩) := by
  simp only [deliver, LocalRunner.apply, Program.run, Host.answer]
  rw [accept_of_verdict crates h, Program.run_bind_done]

/-- A rejected delivery visits no other host. -/
theorem visited_of_rejected
    {s : RunnerState} {d : Delivery} {error : DomainError}
    (h : s.verdict crates d = .error error) :
    s.visited crates d = [s.host] := by
  simp only [visited, LocalRunner.apply, Program.visits, Host.answer]
  rw [accept_of_verdict crates h]
  rfl

theorem visited_of_accepted
    {s : RunnerState} {d : Delivery} {command : RunnerCommand}
    (h : s.verdict crates d = .ok command) :
    s.visited crates d =
      let runner := (s.runner.accept crates d.envelope d.clock).2
      s.host :: (runner.execute crates command.kind).run.visits
        (Host.answer d.outcomes) (fun n => d.moments (n + 1)) s.host := by
  simp only [visited, LocalRunner.apply, Program.visits, Host.answer]
  rw [accept_of_verdict crates h, Program.visits_bind_done]

end RunnerState
end ProxyControl
