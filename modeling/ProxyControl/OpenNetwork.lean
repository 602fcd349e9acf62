import ProxyControl.ControlPlane.SignedCommands
import ProxyControl.RecordedReleases

/-!
# Runners on an open network

The control plane serves requests of any kind and number at the same time.
Every node has a runner, which is handed whatever envelopes reach it, may crash
at any call and is then started anew.

The network may drop, repeat, reorder and invent messages, but it forges no
signatures of the control plane: a validly signed command is one that the control
plane has queued.  Then a runner executes only what was queued for its node.

Whoever reaches the control plane may register a key, or rotate one in, and report
under it.  If only trusted keys come in so, and a result that is valid under a
trusted key is one that a runner has reported, then a status of a deployment is
one that a runner has reported for such a command.
-/

namespace ProxyControl

open Effects HashTable
open AppState (runnerResultVerifyKeyForNode)

/-! ## Runners -/

/-- A command that was carried out, with the result if there is one. -/
structure Execution where
  command : RunnerCommand
  result : Option DeploymentResult

/-- A runner, with what it has carried out since its node was set up. -/
structure Station where
  state : RunnerState
  executed : List Execution

/-- The runner as its process starts. -/
def LocalRunner.restarted (self : LocalRunner) : LocalRunner :=
  { self with lastSequence := 0, seenNonces := ∅ }

namespace Station

variable (crates : Crates)

/-- What a verified delivery executes is added to the history. -/
def after
    (self : Station) (d : Delivery) (state : RunnerState)
    (result : Option DeploymentResult) : Station where
  state := state
  executed :=
    match self.state.verdict crates d with
    | .ok command => self.executed ++ [⟨command, result⟩]
    | .error _ => self.executed

def deliver (self : Station) (d : Delivery) : Station :=
  self.after crates d (self.state.deliver crates d).2
    (self.state.deliver crates d).1.toOption

/-- The runner crashes during a delivery, and is started again on `host`. -/
def crash (self : Station) (d : Delivery) (host : Host) : Station :=
  self.after crates d ⟨self.state.runner.restarted, host⟩ none

def Reports (self : Station) (result : DeploymentResult) : Prop :=
  ∃ e ∈ self.executed, e.result = some result

end Station

/-- The runner of each node. -/
abbrev Fleet : Type :=
  String → Station

/-- Runners of this control plane that have not been handed anything yet. -/
structure Fleet.Manned
    (crates : Crates) (app : AppState) (fleet : Fleet) : Prop where
  nodeId : ∀ nodeId, (fleet nodeId).state.runner.nodeId = nodeId
  controlPlaneKey : ∀ nodeId, (fleet nodeId).state.runner.controlPlaneKey =
    crates.verifyingKey app.signingKey
  idle : ∀ nodeId, (fleet nodeId).executed = []

def Fleet.Reports (fleet : Fleet) (result : DeploymentResult) : Prop :=
  ∃ nodeId, (fleet nodeId).Reports result

/-! ## Signatures -/

/-- The call has put the envelope into the queue of the node. -/
def Queues
    (nodeId : String) (envelope : SignedRunnerCommand)
    (e : Program.Entry Call Tick Shared) : Prop :=
  e.op = .store (.enqueueRunnerCommand nodeId envelope)

def Queued
    (threads : List Serving) (nodeId : String)
    (envelope : SignedRunnerCommand) : Prop :=
  ∃ f ∈ threads, ∃ e ∈ f.entries, Queues nodeId envelope e

/-- A validly signed envelope has the signed bytes of a queued command. -/
def Unforged
    (crates : Crates) (app : AppState) (threads : List Serving)
    (envelope : SignedRunnerCommand) : Prop :=
  envelope.ValidlySigned crates (crates.verifyingKey app.signingKey) →
    ∃ nodeId signed, Queued threads nodeId signed ∧
      canonicalBytes crates (signed.command.toJson crates) =
        canonicalBytes crates (envelope.command.toJson crates)

/-- The signature of the result is valid under the key. -/
def SignedDeploymentResult.ValidlySigned
    (crates : Crates)
    (self : SignedDeploymentResult) (verifyingKey : VerifyingKey) : Prop :=
  verifySignature crates verifyingKey self.signatureHex
    (resultPayload crates self.nodeId self.result) = .ok ()

/-- A result that is valid under a trusted key has the bytes of a reported one. -/
def Truthful
    (crates : Crates) (trusted : VerifyingKey → Prop) (fleet : Fleet)
    (signedResult : SignedDeploymentResult) : Prop :=
  ∀ key, trusted key → signedResult.ValidlySigned crates key →
    ∃ nodeId result, (fleet nodeId).Reports result ∧
      canonicalBytes crates (resultPayload crates nodeId result) =
        canonicalBytes crates
          (resultPayload crates signedResult.nodeId signedResult.result)

/-- The key that a node with this text has, if it has one, is trusted. -/
def TrustedText
    (crates : Crates) (app : AppState) (trusted : VerifyingKey → Prop)
    (publicKeyHex : String) : Prop :=
  ∀ node : NodeRecord, node.runnerResultPublicKeyHex = publicKeyHex →
    ∀ key, runnerResultVerifyKeyForNode crates app node = .ok key → trusted key

/-- The request brings in trusted keys only, and no result that is made up. -/
def Request.Admissible
    (crates : Crates) (app : AppState) (trusted : VerifyingKey → Prop)
    (fleet : Fleet) : Request → Prop
  | .submitRunnerResult _ _ signedResult =>
      signedResult.result.observedAt.Representable ∧
        Truthful crates trusted fleet signedResult
  | .registerNode req =>
      TrustedText crates app trusted (req.runnerResultPublicKeyHex.getD
        (Hex.encode app.runnerResultVerifyKey.bytes))
  | .rotateRunnerResultKey _ publicKeyHex =>
      TrustedText crates app trusted publicKeyHex
  | _ => True

/-! ## Runs -/

/-- The runs of the control plane and its runners over an open network. -/
inductive NetworkRun
    (crates : Crates) (app : AppState) (first : Fleet) :
    Shared → List Serving → Fleet → Prop
  | start : NetworkRun crates app first .new [] first
  | arrive
      {s : Shared} {threads : List Serving} {fleet : Fleet}
      (h : NetworkRun crates app first s threads fleet) (request : Request) :
      NetworkRun crates app first s
        (threads ++ [⟨request, [], (app.serve crates request).run⟩]) fleet
  | act
      {s : Shared} {before after : List Serving} {fleet : Fleet}
      {request : Request} {entries : List (Program.Entry Call Tick Shared)}
      {op : Call}
      {next : op.Ret → Program Call Call.Ret (Except HttpError request.Reply)}
      (h : NetworkRun crates app first s
        (before ++ ⟨request, entries, .call op next⟩ :: after) fleet)
      (t : Tick) :
      NetworkRun crates app first (app.answer crates op t s).2
        (before ++ ⟨request, entries ++ [⟨op, t, s⟩],
          next (app.answer crates op t s).1⟩ :: after) fleet
  | deliver
      {s : Shared} {threads : List Serving} {fleet : Fleet}
      (h : NetworkRun crates app first s threads fleet)
      (nodeId : String) (d : Delivery) (hwritable : d.envelope.command.Writable)
      (hunforged : Unforged crates app threads d.envelope) :
      NetworkRun crates app first s threads
        (Function.update fleet nodeId ((fleet nodeId).deliver crates d))
  | crash
      {s : Shared} {threads : List Serving} {fleet : Fleet}
      (h : NetworkRun crates app first s threads fleet)
      (nodeId : String) (d : Delivery) (hwritable : d.envelope.command.Writable)
      (hunforged : Unforged crates app threads d.envelope)
      (host : Host) (hhost : host ∈ (fleet nodeId).state.visited crates d) :
      NetworkRun crates app first s threads
        (Function.update fleet nodeId ((fleet nodeId).crash crates d host))

variable {crates : Crates} {app : AppState} {trusted : VerifyingKey → Prop}
variable {doubleText : UInt64 → List Char} {first fleet : Fleet}
variable {s : Shared} {threads : List Serving}

/-- Its control plane does what a control plane does. -/
theorem NetworkRun.servingRun
    (h : NetworkRun crates app first s threads fleet) :
    ServingRun crates app s threads := by
  induction h with
  | start => exact .start
  | arrive _ request ih => exact ih.arrive request
  | act _ t ih => exact ih.act t
  | deliver _ _ _ _ _ ih => exact ih
  | crash _ _ _ _ _ _ _ ih => exact ih

/-! ## What runners execute -/

theorem Queued.arrive
    {nodeId : String} {envelope : SignedRunnerCommand}
    (h : Queued threads nodeId envelope) (f : Serving) :
    Queued (threads ++ [f]) nodeId envelope := by
  obtain ⟨g, hg, hentry⟩ := h
  exact ⟨g, List.mem_append_left _ hg, hentry⟩

theorem Queued.act
    {before after : List Serving} {request : Request}
    {entries : List (Program.Entry Call Tick Shared)}
    {rest rest' : Program Call Call.Ret (Except HttpError request.Reply)}
    {e : Program.Entry Call Tick Shared}
    {nodeId : String} {envelope : SignedRunnerCommand}
    (h : Queued (before ++ ⟨request, entries, rest⟩ :: after) nodeId envelope) :
    Queued (before ++ ⟨request, entries ++ [e], rest'⟩ :: after) nodeId
      envelope := by
  obtain ⟨f, hf, e', he', hqueues⟩ := h
  rcases List.mem_cons.mp (List.perm_middle.mem_iff.mp hf) with rfl | hf
  · exact ⟨_, List.perm_middle.mem_iff.mpr List.mem_cons_self, e',
      List.mem_append_left _ he', hqueues⟩
  · exact ⟨f, List.perm_middle.mem_iff.mpr (List.mem_cons_of_mem _ hf), e', he',
      hqueues⟩

/-- A queued command is signed for the node that it is queued for. -/
theorem Queued.signedFor
    (hrun : ServingRun crates app s threads)
    {nodeId : String} {envelope : SignedRunnerCommand}
    (h : Queued threads nodeId envelope) :
    SignedFor crates app nodeId envelope := by
  obtain ⟨f, hf, e, he, hqueues⟩ := h
  have hmade := (hrun.reaches f hf).made
    (AppState.serve_queuesSigned crates app f.task) e he
  rwa [hqueues] at hmade

/-- Every execution is of a command that was queued for the node. -/
def ExecutesQueued (threads : List Serving) (fleet : Fleet) : Prop :=
  ∀ nodeId, ∀ e ∈ (fleet nodeId).executed,
    ∃ signed, Queued threads nodeId signed ∧ signed.command.SameAs e.command

/-- The runners keep their setup. -/
structure Fleet.InService
    (crates : Crates) (app : AppState) (fleet : Fleet) : Prop where
  nodeId : ∀ nodeId, (fleet nodeId).state.runner.nodeId = nodeId
  controlPlaneKey : ∀ nodeId, (fleet nodeId).state.runner.controlPlaneKey =
    crates.verifyingKey app.signingKey

theorem LocalRunner.accept_identity
    (crates : Crates) (runner : LocalRunner) (envelope : SignedRunnerCommand)
    (now : Calendar.DateTime) :
    (runner.accept crates envelope now).2.nodeId = runner.nodeId ∧
      (runner.accept crates envelope now).2.controlPlaneKey =
        runner.controlPlaneKey := by
  unfold accept
  split <;> exact ⟨rfl, rfl⟩

theorem Fleet.InService.update
    (h : fleet.InService crates app) {nodeId : String} {station : Station}
    (hnode : station.state.runner.nodeId = (fleet nodeId).state.runner.nodeId)
    (hkey : station.state.runner.controlPlaneKey =
      (fleet nodeId).state.runner.controlPlaneKey) :
    Fleet.InService crates app (Function.update fleet nodeId station) := by
  constructor
  · intro other
    rcases eq_or_ne other nodeId with rfl | hne
    · rw [Function.update_self, hnode, h.nodeId]
    · rw [Function.update_of_ne hne, h.nodeId]
  · intro other
    rcases eq_or_ne other nodeId with rfl | hne
    · rw [Function.update_self, hkey, h.controlPlaneKey]
    · rw [Function.update_of_ne hne, h.controlPlaneKey]

theorem Fleet.InService.deliver
    (h : fleet.InService crates app) (nodeId : String) (d : Delivery) :
    Fleet.InService crates app
      (Function.update fleet nodeId ((fleet nodeId).deliver crates d)) := by
  obtain ⟨hnode, hkey⟩ := LocalRunner.accept_identity crates
    (fleet nodeId).state.runner d.envelope d.clock
  refine h.update ?_ ?_
  · rw [Station.deliver, Station.after, RunnerState.deliver_runner, hnode]
  · rw [Station.deliver, Station.after, RunnerState.deliver_runner, hkey]

/-- What a delivery adds to the history was queued for the node. -/
theorem ExecutesQueued.after
    (hcrates : SerializesCompactly crates doubleText)
    (hrun : ServingRun crates app s threads)
    (hexpires : ∀ nodeId signed, Queued threads nodeId signed →
      signed.command.expiresAt.Representable)
    (h : ExecutesQueued threads fleet) (hservice : fleet.InService crates app)
    {nodeId : String} {d : Delivery} (hd : d.envelope.command.Writable)
    (hunforged : Unforged crates app threads d.envelope)
    (state : RunnerState) (result : Option DeploymentResult) :
    ExecutesQueued threads (Function.update fleet nodeId
      ((fleet nodeId).after crates d state result)) := by
  intro other e he
  rcases eq_or_ne other nodeId with rfl | hne
  swap
  · rw [Function.update_of_ne hne] at he
    exact h other e he
  rw [Function.update_self, Station.after] at he
  cases hverdict : (fleet other).state.verdict crates d with
  | error error =>
      simp only [hverdict] at he
      exact h other e he
  | ok command =>
      simp only [hverdict, List.mem_append, List.mem_singleton] at he
      rcases he with he | rfl
      · exact h other e he
      -- the verified command is the one that was signed, and names this node
      obtain ⟨rfl, hearly, hsigned, -⟩ := LocalRunner.accept_eq_ok crates hverdict
      rw [hservice.controlPlaneKey] at hsigned
      obtain ⟨queue, signed, hqueued, hbytes⟩ := hunforged hsigned
      have hsame : signed.command.SameAs d.envelope.command := by
        have hcommand : signed.command.Writable :=
          ⟨hexpires queue signed hqueued,
            (hqueued.signedFor hrun).issued.tidyJson.valid⟩
        refine (hcrates.command_eq_iff hcommand hd).mp ?_
        exact (hcrates.canonicalBytes_eq_iff
          (SerializesCompactly.valid_command hcommand)
          (SerializesCompactly.valid_command hd)).mp hbytes
      have hscope : d.envelope.command.nodeId = other := by
        by_contra hne
        exact hearly (.inl (by rwa [hservice.nodeId]))
      have hqueue : queue = other := by
        obtain ⟨-, hnode, -⟩ := id hsame
        rw [← (hqueued.signedFor hrun).nodeId, hnode, hscope]
      exact ⟨signed, hqueue ▸ hqueued, hsame⟩

theorem NetworkRun.executesQueued
    (hcrates : SerializesCompactly crates doubleText)
    (hfirst : first.Manned crates app)
    (h : NetworkRun crates app first s threads fleet)
    (hexpires : ∀ nodeId signed, Queued threads nodeId signed →
      signed.command.expiresAt.Representable) :
    fleet.InService crates app ∧ ExecutesQueued threads fleet := by
  induction h with
  | start =>
      refine ⟨⟨hfirst.nodeId, hfirst.controlPlaneKey⟩, ?_⟩
      intro nodeId e he
      rw [hfirst.idle] at he
      cases he
  | arrive _ request ih =>
      obtain ⟨hservice, hqueued⟩ :=
        ih (fun nodeId signed h => hexpires nodeId signed (h.arrive _))
      refine ⟨hservice, ?_⟩
      intro nodeId e he
      obtain ⟨signed, hsigned, hsame⟩ := hqueued nodeId e he
      exact ⟨signed, hsigned.arrive _, hsame⟩
  | act _ t ih =>
      obtain ⟨hservice, hqueued⟩ :=
        ih (fun nodeId signed h => hexpires nodeId signed h.act)
      refine ⟨hservice, ?_⟩
      intro nodeId e he
      obtain ⟨signed, hsigned, hsame⟩ := hqueued nodeId e he
      exact ⟨signed, hsigned.act, hsame⟩
  | deliver hrun nodeId d hd hunforged ih =>
      obtain ⟨hservice, hqueued⟩ := ih hexpires
      exact ⟨hservice.deliver nodeId d, hqueued.after hcrates hrun.servingRun
        hexpires hservice hd hunforged _ _⟩
  | crash hrun nodeId d hd hunforged host hhost ih =>
      obtain ⟨hservice, hqueued⟩ := ih hexpires
      exact ⟨hservice.update rfl rfl, hqueued.after hcrates hrun.servingRun
        hexpires hservice hd hunforged _ _⟩

/--
Whatever the network delivers, and wherever runners crash, each runner carries
out only commands that the control plane has queued for its node.
-/
theorem executed_commands_were_queued
    (hcrates : SerializesCompactly crates doubleText)
    (hfirst : first.Manned crates app)
    (h : NetworkRun crates app first s threads fleet)
    (hexpires : ∀ nodeId signed, Queued threads nodeId signed →
      signed.command.expiresAt.Representable) :
    ∀ nodeId, ∀ e ∈ (fleet nodeId).executed,
      ∃ signed, Queued threads nodeId signed ∧
        signed.command.SameAs e.command :=
  (h.executesQueued hcrates hfirst hexpires).2

/-! ## What results are about -/

/-- The result is about the deployment of the command, and repeats its digest. -/
def RunnerCommandKind.IsAbout
    (result : DeploymentResult) : RunnerCommandKind → Prop
  | .applyDeploymentPlan deploymentId artifactSha256 _ _
  | .rollbackDeployment deploymentId _ artifactSha256 =>
      result.deploymentId = deploymentId ∧
        result.artifactSha256 = artifactSha256
  | _ => False

theorem RunnerCommandKind.isAbout_withoutNull
    (result : DeploymentResult) (kind : RunnerCommandKind) :
    kind.withoutNull.IsAbout result ↔ kind.IsAbout result := by
  cases kind with
  | applyDeploymentPlan deploymentId artifactSha256 configJson rollbackJson =>
      rcases rollbackJson with _ | value
      · rfl
      · cases value <;> rfl
  | _ => rfl

/-- A runner that has a result has executed a command that it is about. -/
theorem RunnerState.isAbout_of_deliver
    {state : RunnerState} {d : Delivery} {command : RunnerCommand}
    {result : DeploymentResult}
    (hverdict : state.verdict crates d = .ok command)
    (hresult : (state.deliver crates d).1 = .ok result) :
    command.kind.IsAbout result := by
  obtain rfl : command = d.envelope.command :=
    (LocalRunner.accept_eq_ok crates hverdict).1
  cases hkind : d.envelope.command.kind with
  | applyDeploymentPlan deploymentId artifactSha256 configJson rollbackJson =>
      refine RunnerState.deliver_reports (fun runner => ?_) result hresult
      rw [hkind]
      exact LocalRunner.reportsOnly_applyDeployment crates runner configJson
  | rollbackDeployment deploymentId target artifactSha256 =>
      refine RunnerState.deliver_reports (fun runner => ?_) result hresult
      rw [hkind]
      exact LocalRunner.reportsOnly_rollbackDeployment runner target
  | _ =>
      rw [RunnerState.deliver_of_accepted crates hverdict, hkind] at hresult
      cases hresult

/-- Results are about the commands that were executed for them. -/
def ReportsOwn (fleet : Fleet) : Prop :=
  ∀ nodeId, ∀ e ∈ (fleet nodeId).executed, ∀ result, e.result = some result →
    e.command.kind.IsAbout result

theorem ReportsOwn.update
    (h : ReportsOwn fleet) {nodeId : String} {d : Delivery}
    (state : RunnerState) {result : Option DeploymentResult}
    (hresult : ∀ r, result = some r →
      ((fleet nodeId).state.deliver crates d).1 = .ok r) :
    ReportsOwn (Function.update fleet nodeId
      ((fleet nodeId).after crates d state result)) := by
  intro other e he r hr
  rcases eq_or_ne other nodeId with rfl | hne
  swap
  · rw [Function.update_of_ne hne] at he
    exact h other e he r hr
  rw [Function.update_self, Station.after] at he
  cases hverdict : (fleet other).state.verdict crates d with
  | error error =>
      simp only [hverdict] at he
      exact h other e he r hr
  | ok command =>
      simp only [hverdict, List.mem_append, List.mem_singleton] at he
      rcases he with he | rfl
      · exact h other e he r hr
      · exact RunnerState.isAbout_of_deliver hverdict (hresult r hr)

theorem NetworkRun.reportsOwn
    (hfirst : first.Manned crates app)
    (h : NetworkRun crates app first s threads fleet) :
    ReportsOwn fleet := by
  induction h with
  | start =>
      intro nodeId e he
      rw [hfirst.idle] at he
      cases he
  | arrive _ _ ih => exact ih
  | act _ _ ih => exact ih
  | deliver _ nodeId d _ _ ih =>
      refine ih.update _ fun r hr => ?_
      generalize (RunnerState.deliver crates _ d).1 = answer at hr ⊢
      cases answer with
      | ok result => exact congrArg Except.ok (Option.some.inj hr)
      | error e => cases hr
  | crash _ nodeId d _ _ host _ ih =>
      refine ih.update _ fun r hr => ?_
      cases hr

/-! ## What statuses say -/

/-- Every node that is stored has a trusted key, if it has one. -/
def NodesTrusted
    (crates : Crates) (app : AppState) (trusted : VerifyingKey → Prop)
    (s : Shared) : Prop :=
  ∀ nodeId node, get s.store.nodes nodeId = some node →
    TrustedText crates app trusted node.runnerResultPublicKeyHex

/-- Every status but the first is one that was reported. -/
def StatusesReported
    (reports : DeploymentResult → Prop) (s : Shared) : Prop :=
  ∀ deploymentId status,
    get s.store.deploymentStatuses deploymentId = some status →
    status = .pending ∨ ∃ result, reports result ∧
      result.deploymentId = deploymentId ∧ result.status = status

/-- A call records reported results and trusted keys only. -/
def RecordsReported
    (crates : Crates) (app : AppState) (trusted : VerifyingKey → Prop)
    (reports : DeploymentResult → Prop) : Call → Prop
  | .store (.recordDeploymentResult result) => reports result
  | .store (.registerNode node)
  | .store (.registerNodeWithRegistrationToken node _) =>
      TrustedText crates app trusted node.runnerResultPublicKeyHex
  | .store (.updateNodeRunnerResultPublicKey _ publicKeyHex) =>
      TrustedText crates app trusted publicKeyHex
  | _ => True

section Calls

variable {reports : DeploymentResult → Prop} {op : Call}

theorem NodesTrusted.insert
    {s' : Shared} (h : NodesTrusted crates app trusted s)
    {nodeId : String} {node : NodeRecord}
    (hnode : TrustedText crates app trusted node.runnerResultPublicKeyHex)
    (hnodes : s'.store.nodes = s.store.nodes.insert nodeId node) :
    NodesTrusted crates app trusted s' := by
  intro other record hrecord
  rw [hnodes, get_insert] at hrecord
  split_ifs at hrecord
  · rwa [← Option.some.inj hrecord]
  · exact h other record hrecord

theorem NodesTrusted.answer
    (h : NodesTrusted crates app trusted s)
    (hop : RecordsReported crates app trusted reports op) (t : Tick) :
    NodesTrusted crates app trusted (app.answer crates op t s).2 := by
  cases op with
  | store op =>
      have hframe : MemoryStore.writes .nodes op = false →
          NodesTrusted crates app trusted
            (app.answer crates (.store op) t s).2 := by
        intro hwrites nodeId node hnode
        have hnodes := MemoryStore.exec_frame crates app.tenantId hwrites t
          s.store
        simp only [MemoryStore.SameTables] at hnodes
        simp only [AppState.answer, hnodes] at hnode
        exact h nodeId node hnode
      cases op with
      | registerNode node => exact h.insert hop rfl
      | registerNodeWithRegistrationToken node token =>
          simp only [AppState.answer, MemoryStore.exec,
            MemoryStore.registerNodeWithRegistrationToken]
          split
          · exact h
          · split
            · exact h
            · exact h.insert hop rfl
      | updateNodeRunnerResultPublicKey nodeId publicKeyHex =>
          simp only [AppState.answer, MemoryStore.exec,
            MemoryStore.updateNodeRunnerResultPublicKey]
          split
          · exact h
          · refine h.insert ?_ rfl
            exact hop
      | _ => exact hframe rfl
  | _ => exact h

theorem StatusesReported.insert
    {s' : Shared} (h : StatusesReported reports s)
    {deploymentId : String} {status : DeploymentStatus}
    (hstatus : status = .pending ∨ ∃ result, reports result ∧
      result.deploymentId = deploymentId ∧ result.status = status)
    (hstatuses : s'.store.deploymentStatuses =
      s.store.deploymentStatuses.insert deploymentId status) :
    StatusesReported reports s' := by
  intro other status' hget
  rw [hstatuses, get_insert] at hget
  split_ifs at hget with hid
  · rw [hid, ← Option.some.inj hget]
    exact hstatus
  · exact h other status' hget

theorem StatusesReported.answer
    (h : StatusesReported reports s)
    (hop : RecordsReported crates app trusted reports op) (t : Tick) :
    StatusesReported reports (app.answer crates op t s).2 := by
  cases op with
  | store op =>
      have hframe : MemoryStore.writes .deployments op = false →
          StatusesReported reports (app.answer crates (.store op) t s).2 := by
        intro hwrites deploymentId status hstatus
        have hsame := MemoryStore.exec_frame crates app.tenantId hwrites t
          s.store
        simp only [MemoryStore.SameTables] at hsame
        simp only [AppState.answer, hsame.2.1] at hstatus
        exact h deploymentId status hstatus
      cases op with
      | recordDeploymentPlan plan => exact h.insert (.inl rfl) rfl
      | recordDeploymentResult result =>
          simp only [AppState.answer, MemoryStore.exec,
            MemoryStore.recordDeploymentResult]
          split
          · exact h
          · exact h.insert (.inr ⟨result, hop, rfl, rfl⟩) rfl
      | recordDeploymentHealthCheck health =>
          simp only [AppState.answer, MemoryStore.exec,
            MemoryStore.recordDeploymentHealthCheck]
          split
          · exact h
          · split <;> exact h
      | _ => exact hframe rfl
  | _ => exact h

end Calls

/-- A signature that is accepted under a key is valid under it. -/
theorem SignedDeploymentResult.validlySigned_of_verify
    {signedResult : SignedDeploymentResult} {key : VerifyingKey}
    {nodeId : String} {result : DeploymentResult}
    (h : signedResult.verify crates key nodeId = .ok result) :
    signedResult.ValidlySigned crates key := by
  unfold SignedDeploymentResult.verify at h
  split at h
  · cases h
  · split at h
    · rename_i hverified
      exact hverified
    · cases h

namespace Handler

variable {α β : Type} {reports : DeploymentResult → Prop}

/-- Over trusted nodes the handler records reported results only. -/
def RecordsReported
    (crates : Crates) (app : AppState) (trusted : VerifyingKey → Prop)
    (reports : DeploymentResult → Prop) (handler : Handler α) : Prop :=
  Program.Promises (app.answer crates) (NodesTrusted crates app trusted)
    (ProxyControl.RecordsReported crates app trusted reports) handler.run
    (fun _ => True)

theorem Calls.recordsReported
    {handler : Handler α}
    (h : handler.Calls (ProxyControl.RecordsReported crates app trusted reports)) :
    handler.RecordsReported crates app trusted reports :=
  Program.All.promises h fun _ => trivial

theorem recordsReported_orStatus_bind
    {status : Nat} {value : Except String α} {f : α → Handler β}
    (hf : ∀ a, value = .ok a →
      (f a).RecordsReported crates app trusted reports) :
    (Handler.orStatus status value >>= f).RecordsReported crates app trusted
      reports := by
  cases value with
  | ok a => exact hf a rfl
  | error e => trivial

theorem recordsReported_store_bind
    {op : StoreCall} {f : op.Value → Handler β}
    (h : ProxyControl.RecordsReported crates app trusted reports (.store op))
    (hf : ∀ t s, NodesTrusted crates app trusted s → ∀ a,
      (MemoryStore.exec crates app.tenantId op t s.store).1 = .ok a →
        (f a).RecordsReported crates app trusted reports) :
    (Handler.store op >>= f).RecordsReported crates app trusted reports := by
  refine ⟨h, fun t s hs => ?_⟩
  have hnext := hf t s hs
  simp only [AppState.answer]
  generalize (MemoryStore.exec crates app.tenantId op t s.store).1 = answer
    at hnext ⊢
  cases answer with
  | ok a => exact hnext a rfl
  | error e => trivial

end Handler

open Handler in
/-- The submission of a truthful result records what was reported. -/
theorem AppState.submitRunnerResult_recordsReported
    {reports : DeploymentResult → Prop} {signedResult : SignedDeploymentResult}
    (h : ∀ key, trusted key → signedResult.ValidlySigned crates key →
      reports signedResult.result) (nodeId : String) (headers : Headers) :
    (app.submitRunnerResult crates nodeId headers
      signedResult).RecordsReported crates app trusted reports := by
  unfold AppState.submitRunnerResult AppState.requireRunnerToken
  split
  swap
  · trivial
  refine recordsReported_store_bind trivial fun t s hs node hnode => ?_
  have hnode := okOr_eq_ok hnode
  refine recordsReported_orStatus_bind fun key hkey => ?_
  refine recordsReported_orStatus_bind fun result hverify => ?_
  have hverify := mapError_eq_ok hverify
  -- the key of a stored node is trusted, so what it signed was reported
  have hreported : reports result := by
    rw [SignedDeploymentResult.verify_eq_result hverify]
    exact h key (hs nodeId node hnode node rfl key hkey)
      (SignedDeploymentResult.validlySigned_of_verify hverify)
  refine recordsReported_store_bind hreported fun _ _ _ _ _ => ?_
  exact (calls_perform trivial).recordsReported

/-- What an admissible request may record was reported when it arrived. -/
theorem AppState.serve_recordsReported
    {request : Request}
    (hrequest : request.Admissible crates app trusted fleet)
    (hinstants : ∀ result, fleet.Reports result →
      result.observedAt.Representable)
    (hcrates : SerializesCompactly crates doubleText) :
    (app.serve crates request).RecordsReported crates app trusted
      fleet.Reports := by
  have hothers :
      (∀ op, request.mayMake op = true →
        ProxyControl.RecordsReported crates app trusted fleet.Reports
          (.store op)) →
      (app.serve crates request).RecordsReported crates app trusted
        fleet.Reports := by
    intro hop
    refine Handler.Calls.recordsReported
      (Program.All.mono (serve_makes crates app request) ?_)
    intro op hmakes
    cases op with
    | store op => exact hop op hmakes
    | _ => trivial
  cases request with
  | submitRunnerResult nodeId headers signedResult =>
      obtain ⟨hinstant, htruthful⟩ := hrequest
      refine AppState.submitRunnerResult_recordsReported ?_ nodeId headers
      intro key hkey hsigned
      obtain ⟨source, result, hreported, hbytes⟩ := htruthful key hkey hsigned
      have hpayload := (hcrates.canonicalBytes_eq_iff
        (SerializesCompactly.valid_result _ _)
        (SerializesCompactly.valid_result _ _)).mp hbytes
      have heq := hcrates.result_eq (hinstants result ⟨source, hreported⟩)
        hinstant hpayload
      rw [← (Prod.mk.inj heq).2]
      exact ⟨source, hreported⟩
  | registerNode req =>
      refine Handler.Calls.recordsReported ?_
      refine Handler.Calls.bind ?_ fun _ => ?_
      · exact AppState.calls_ensureDefaultRegistrationToken app trivial
          fun _ => trivial
      refine Handler.calls_perform_bind trivial fun now => ?_
      refine Handler.calls_perform_bind hrequest fun answer => ?_
      split
      · exact Handler.calls_pure _
      · exact Handler.calls_throw _
      · exact Handler.calls_throw _
  | rotateRunnerResultKey nodeId publicKeyHex =>
      refine Handler.Calls.recordsReported ?_
      refine Handler.calls_orStatus_bind fun parsed _ => ?_
      exact Handler.calls_store_bind hrequest fun node => Handler.calls_pure _
  | _ =>
      refine hothers fun op hmakes => ?_
      cases op with
      | recordDeploymentResult | registerNode
      | registerNodeWithRegistrationToken | updateNodeRunnerResultPublicKey =>
          cases hmakes
      | _ => trivial

/-! ## Runs of admissible requests -/

/-- The invariant of the runs of admissible requests. -/
structure NetworkInv
    (crates : Crates) (app : AppState) (trusted : VerifyingKey → Prop)
    (s : Shared) (threads : List Serving)
    (reports : DeploymentResult → Prop) : Prop where
  nodes : NodesTrusted crates app trusted s
  statuses : StatusesReported reports s
  threads : ∀ f ∈ threads,
    Program.Promises (app.answer crates) (NodesTrusted crates app trusted)
      (RecordsReported crates app trusted reports) f.rest (fun _ => True)

/-- One call keeps the invariant. -/
theorem NetworkInv.act
    {reports : DeploymentResult → Prop}
    {before after : List Serving} {request : Request}
    {entries : List (Program.Entry Call Tick Shared)} {op : Call}
    {next : op.Ret → Program Call Call.Ret (Except HttpError request.Reply)}
    (h : NetworkInv crates app trusted s
      (before ++ ⟨request, entries, .call op next⟩ :: after) reports) (t : Tick) :
    NetworkInv crates app trusted (app.answer crates op t s).2
      (before ++ ⟨request, entries ++ [⟨op, t, s⟩],
        next (app.answer crates op t s).1⟩ :: after) reports := by
  obtain ⟨hop, hnext⟩ := h.threads _ mem_middle
  exact ⟨h.nodes.answer hop t, h.statuses.answer hop t,
    forall_mem_middle h.threads (hnext t s h.nodes)⟩

/-- What the runners report, at any time, is all that admissible requests record. -/
theorem ServingRun.networkInv
    (hcrates : SerializesCompactly crates doubleText)
    (h : ServingRun crates app s threads)
    (hadmissible : ∀ f ∈ threads, f.task.Admissible crates app trusted fleet)
    (hinstants : ∀ result, fleet.Reports result →
      result.observedAt.Representable) :
    NetworkInv crates app trusted s threads fleet.Reports := by
  induction h with
  | start =>
      refine ⟨?_, ?_, fun f hf => by cases hf⟩
      · intro nodeId node hnode
        cases hnode
      · intro deploymentId status hstatus
        cases hstatus
  | arrive _ request ih =>
      obtain ⟨hnodes, hstatuses, hthreads⟩ :=
        ih fun f hf => hadmissible f (List.mem_append_left _ hf)
      refine ⟨hnodes, hstatuses, ?_⟩
      intro f hf
      rcases List.mem_append.mp hf with hf | hf
      · exact hthreads f hf
      · obtain rfl := List.mem_singleton.mp hf
        have hrequest :=
          hadmissible _ (List.mem_append_right _ List.mem_cons_self)
        exact AppState.serve_recordsReported hrequest hinstants hcrates
  | act _ t ih => exact (ih (Session.forall_task_act.mp hadmissible)).act t

/--
Where only trusted keys are brought in and no results are made up, a deployment
is pending, or has the status that a runner has reported for a command about it
that was queued for its node.
-/
theorem recorded_statuses_were_reported
    (hcrates : SerializesCompactly crates doubleText)
    (hfirst : first.Manned crates app)
    (h : NetworkRun crates app first s threads fleet)
    (hadmissible : ∀ f ∈ threads, f.task.Admissible crates app trusted fleet)
    (hexpires : ∀ nodeId signed, Queued threads nodeId signed →
      signed.command.expiresAt.Representable)
    (hinstants : ∀ result, fleet.Reports result →
      result.observedAt.Representable) :
    ∀ deploymentId status,
      get s.store.deploymentStatuses deploymentId = some status →
      status = .pending ∨
        ∃ nodeId signed, Queued threads nodeId signed ∧
          ∃ e ∈ (fleet nodeId).executed, signed.command.SameAs e.command ∧
            ∃ result, e.result = some result ∧ result.status = status ∧
              result.deploymentId = deploymentId ∧
              signed.command.kind.IsAbout result := by
  intro deploymentId status hstatus
  have hinv := h.servingRun.networkInv hcrates hadmissible hinstants
  rcases hinv.statuses deploymentId status hstatus with
    hpending | ⟨result, ⟨nodeId, e, he, hresult⟩, hid, hreported⟩
  · exact .inl hpending
  right
  obtain ⟨signed, hqueued, hsame⟩ :=
    (h.executesQueued hcrates hfirst hexpires).2 nodeId e he
  have habout := h.reportsOwn hfirst nodeId e he result hresult
  refine ⟨nodeId, signed, hqueued, e, he, hsame, result, hresult, hreported, hid,
    ?_⟩
  obtain ⟨-, -, -, -, -, hkind⟩ := id hsame
  rw [← RunnerCommandKind.isAbout_withoutNull, hkind,
    RunnerCommandKind.isAbout_withoutNull]
  exact habout

/-! ### A deployment that succeeds -/

/-- What the control plane does alone, it does on a network. -/
theorem NetworkRun.of_servingRun (h : ServingRun crates app s threads) :
    NetworkRun crates app first s threads first := by
  induction h with
  | start => exact .start
  | arrive _ request ih => exact ih.arrive request
  | act _ t ih => exact ih.act t

theorem NetworkRun.actAt
    (before threads : List Serving)
    (h : NetworkRun crates app first s (before ++ threads) fleet)
    (t : Tick) (n : ℕ) :
    NetworkRun crates app first
      (Session.actAt (app.answer crates) t n s threads).1
      (before ++ (Session.actAt (app.answer crates) t n s threads).2) fleet := by
  induction threads generalizing before n with
  | nil =>
      cases n <;> exact h
  | cons f after ih =>
      cases n with
      | zero =>
          obtain ⟨request, entries, rest⟩ := f
          cases rest with
          | done a => exact h
          | call op next => exact h.act t
      | succ n =>
          have hrest := ih (before ++ [f]) (by simpa using h) n
          simpa [Session.actAt] using hrest

/-- Calls of a thread, one after the other. -/
def actAll
    (crates : Crates) (app : AppState) (n : ℕ)
    (w : Shared × List Serving) (ticks : List Tick) : Shared × List Serving :=
  ticks.foldl (fun w t => Session.actAt (app.answer crates) t n w.1 w.2) w

theorem NetworkRun.actAll
    {w : Shared × List Serving}
    (h : NetworkRun crates app first w.1 w.2 fleet) (n : ℕ)
    (ticks : List Tick) :
    NetworkRun crates app first
      (ProxyControl.actAll crates app n w ticks).1
      (ProxyControl.actAll crates app n w ticks).2 fleet := by
  induction ticks generalizing w with
  | nil => exact h
  | cons t ticks ih => exact ih (h.actAt [] w.2 t n)

theorem actAll_tasks (n : ℕ) (w : Shared × List Serving) (ticks : List Tick) :
    (actAll crates app n w ticks).2.map Session.task =
      w.2.map Session.task := by
  induction ticks generalizing w with
  | nil => rfl
  | cons t ticks ih => exact (ih _).trans (Session.actAt_tasks t n w.1 w.2)

theorem take_actAll (n : ℕ) (w : Shared × List Serving) (ticks : List Tick) :
    (actAll crates app n w ticks).2.take n = w.2.take n := by
  induction ticks generalizing w with
  | nil => rfl
  | cons t ticks ih => exact (ih _).trans (Session.take_actAt t n w.1 w.2)

/-- The commands that have been queued. -/
def queuedEnvelopes (threads : List Serving) :
    List (String × SignedRunnerCommand) :=
  threads.flatMap fun f => f.entries.filterMap fun e =>
    match e.op with
    | .store (.enqueueRunnerCommand nodeId envelope) => some (nodeId, envelope)
    | _ => none

theorem mem_queuedEnvelopes_iff
    {nodeId : String} {envelope : SignedRunnerCommand} :
    (nodeId, envelope) ∈ queuedEnvelopes threads ↔
      Queued threads nodeId envelope := by
  simp only [queuedEnvelopes, List.mem_flatMap, List.mem_filterMap, Queued,
    Queues]
  refine exists_congr fun f => and_congr_right fun _ =>
    exists_congr fun e => and_congr_right fun _ => ?_
  constructor
  · intro h
    split at h
    · rename_i hop
      rw [hop]
      obtain ⟨rfl, rfl⟩ := Prod.mk.inj (Option.some.inj h)
      rfl
    · cases h
  · intro h
    rw [h]

theorem utf8_ofList (l : List Char) :
    utf8 (String.ofList l) = l.flatMap String.utf8EncodeChar := by
  simp [utf8, String.toUTF8, List.utf8Encode]

/-- The compact crates, with texts that are quick to evaluate. -/
def networkCrates : Crates :=
  { compactCrates with
    toVec := fun value =>
      .ok ((Json.text plainDouble value).flatMap String.utf8EncodeChar) }

theorem networkCrates_serializes :
    SerializesCompactly networkCrates plainDouble where
  doubles := plainDouble_text
  values _ _ := congrArg Except.ok (utf8_ofList _).symm
  instants _ _ := rfl

/-- A node, a profile and one compilation. -/
@[irreducible]
def compiledOnNetwork : Shared × List Serving :=
  Session.scheduled (referenceApp.answer networkCrates)
    (fun request : Request => (referenceApp.serve networkCrates request).run)
    Shared.new
    [ registration "dev-registration-token" "node" 1,
      .createVlessRealityProfile "profile" "example.com",
      .compileDeployment [] ⟨"profile", "node"⟩ ]
    ((List.replicate 5 0 ++ List.replicate 5 1 ++ List.replicate 20 2).zipIdx.map
      (fun next : ℕ × ℕ => (next.1, referenceEnv 0 "u" next.2)))

/-- Each node has a runner with nothing in its work directory. -/
def freshFleet : Fleet := fun nodeId =>
  { state :=
      { freshRunner with runner := { freshRunner.runner with nodeId := nodeId } }
    executed := [] }

/-- The command of the compilation. -/
@[irreducible]
def networkCommand : SignedRunnerCommand :=
  ((queuedEnvelopes compiledOnNetwork.2).map Prod.snd).headD
    ⟨appliedCommand none, ""⟩

/-- The command reaches the runner, and xray ends well. -/
def networkDelivery : Delivery where
  envelope := networkCommand
  outcomes := ⟨exited true, exited true, exited true⟩
  moments _ := ⟨⟨0, 0⟩, none⟩

def deployedFleet : Fleet :=
  Function.update freshFleet "node"
    ((freshFleet "node").deliver networkCrates networkDelivery)

/-- The report of the runner about the command. -/
def networkResult : DeploymentResult where
  deploymentId := "dep-44d0a849c923"
  status := .succeeded
  message := "deployment applied, active config switched, " ++
    "reload/restart command not configured, " ++
    "process health check not configured"
  artifactSha256 :=
    "44d0a849c923db4c53162f44dc7ea6178a9ecc3b3e8b35ef96971ac20703dccd"
  observedAt := ⟨0, 0⟩

/-- The report, signed with the key of the node. -/
def networkSubmission : SignedDeploymentResult where
  nodeId := "node"
  result := networkResult
  signatureHex :=
    "0101010101010101010101010101010101010101010101010101010101010101" ++
      "a7ace5303bf665dea1cdb8cb93570c6660e4ef045209b7698d7dd77c9541bf09"

/-- The result of the runner has been submitted. -/
def submittedOnNetwork : Shared × List Serving :=
  actAll networkCrates referenceApp 3
    (compiledOnNetwork.1, compiledOnNetwork.2 ++
      [⟨.submitRunnerResult "node" runnerHeaders networkSubmission, [],
        (referenceApp.serve networkCrates
          (.submitRunnerResult "node" runnerHeaders networkSubmission)).run⟩])
    ((List.range 5).map (referenceEnv 100 "v"))

/-- One command is queued, and it expires at a representable instant. -/
theorem compiledOnNetwork_queue :
    (queuedEnvelopes compiledOnNetwork.2).map Prod.fst = ["node"] ∧
      (queuedEnvelopes compiledOnNetwork.2).all (fun queued =>
        decide queued.2.command.expiresAt.Representable) = true := by
  decide +kernel

theorem networkCommand_queued :
    Queued compiledOnNetwork.2 "node" networkCommand := by
  have hnodes := compiledOnNetwork_queue.1
  unfold networkCommand
  generalize compiledOnNetwork.2 = threads at hnodes ⊢
  cases hlist : queuedEnvelopes threads with
  | nil =>
      rw [hlist] at hnodes
      cases hnodes
  | cons queued rest =>
      obtain ⟨nodeId, envelope⟩ := queued
      rw [hlist] at hnodes
      obtain ⟨rfl, -⟩ := List.cons.inj hnodes
      refine mem_queuedEnvelopes_iff.mp ?_
      rw [hlist]
      exact List.mem_cons_self

/-- The runner has one result, and it is a success. -/
theorem deployedFleet_results :
    (deployedFleet "node").executed.map (fun e => e.result) =
        [some networkResult] ∧
      networkResult.observedAt.Representable ∧
      networkResult.status = .succeeded := by
  decide +kernel

theorem deployedFleet_reports_iff (result : DeploymentResult) :
    (deployedFleet "node").Reports result ↔ result = networkResult := by
  have hnode : some result ∈ (deployedFleet "node").executed.map
      (fun e => e.result) ↔ result = networkResult := by
    rw [deployedFleet_results.1, List.mem_singleton, Option.some_inj]
  rw [← hnode, List.mem_map]
  rfl

theorem compiledOnNetwork_run :
    ServingRun networkCrates referenceApp compiledOnNetwork.1
      compiledOnNetwork.2 := by
  unfold compiledOnNetwork
  exact Session.run_scheduled _ _

theorem compiledOnNetwork_tasks :
    compiledOnNetwork.2.map Session.task =
      [ registration "dev-registration-token" "node" 1,
        .createVlessRealityProfile "profile" "example.com",
        .compileDeployment [] ⟨"profile", "node"⟩ ] := by
  unfold compiledOnNetwork
  exact Session.scheduled_tasks _ _

/-- The commands of the run expire at representable instants. -/
theorem compiledOnNetwork_expires :
    ∀ nodeId signed, Queued compiledOnNetwork.2 nodeId signed →
      signed.command.expiresAt.Representable := by
  intro nodeId signed hqueued
  exact of_decide_eq_true (List.all_eq_true.mp compiledOnNetwork_queue.2 _
    (mem_queuedEnvelopes_iff.mpr hqueued))

/-- The command of the compilation has been delivered. -/
theorem deployedOnNetwork_run :
    NetworkRun networkCrates referenceApp freshFleet compiledOnNetwork.1
      compiledOnNetwork.2 deployedFleet := by
  have hcompiled : NetworkRun networkCrates referenceApp freshFleet
      compiledOnNetwork.1 compiledOnNetwork.2 freshFleet :=
    .of_servingRun compiledOnNetwork_run
  have hexpires : networkCommand.command.expiresAt.Representable :=
    compiledOnNetwork_expires "node" networkCommand networkCommand_queued
  have hsigned : SignedFor networkCrates referenceApp "node" networkCommand :=
    networkCommand_queued.signedFor compiledOnNetwork_run
  have hissued := hsigned.issued
  exact hcompiled.deliver "node" networkDelivery
    ⟨hexpires, hissued.tidyJson.valid⟩
    fun _ => ⟨"node", networkCommand, networkCommand_queued, rfl⟩

theorem submittedOnNetwork_run :
    NetworkRun networkCrates referenceApp freshFleet submittedOnNetwork.1
      submittedOnNetwork.2 deployedFleet :=
  (deployedOnNetwork_run.arrive (.submitRunnerResult "node" runnerHeaders
    networkSubmission)).actAll 3 _

theorem submittedOnNetwork_tasks :
    submittedOnNetwork.2.map Session.task =
      [ registration "dev-registration-token" "node" 1,
        .createVlessRealityProfile "profile" "example.com",
        .compileDeployment [] ⟨"profile", "node"⟩,
        .submitRunnerResult "node" runnerHeaders networkSubmission ] := by
  rw [submittedOnNetwork, actAll_tasks, List.map_append,
    compiledOnNetwork_tasks]
  rfl

/-- What was submitted is what the runner has reported. -/
theorem submittedOnNetwork_admissible :
    ∀ f ∈ submittedOnNetwork.2,
      f.task.Admissible networkCrates referenceApp (fun _ => True)
        deployedFleet := by
  intro f hf
  have htask := submittedOnNetwork_tasks ▸ List.mem_map_of_mem hf
  simp only [List.mem_cons, List.not_mem_nil, or_false] at htask
  rcases htask with htask | htask | htask | htask
  · rw [htask]
    exact fun _ _ _ _ => trivial
  · rw [htask]
    trivial
  · rw [htask]
    trivial
  · rw [htask]
    exact ⟨deployedFleet_results.2.1, fun key _ _ => ⟨"node", networkResult,
      (deployedFleet_reports_iff _).mpr rfl, rfl⟩⟩

/-- The submission has queued no further command. -/
theorem queued_of_submittedOnNetwork
    {nodeId : String} {signed : SignedRunnerCommand}
    (h : Queued submittedOnNetwork.2 nodeId signed) :
    Queued compiledOnNetwork.2 nodeId signed := by
  have hlength : compiledOnNetwork.2.length = 3 := by
    rw [← List.length_map Session.task, compiledOnNetwork_tasks]
    rfl
  have hbefore : submittedOnNetwork.2.take 3 = compiledOnNetwork.2 := by
    rw [submittedOnNetwork, take_actAll, List.take_left' hlength]
  obtain ⟨f, hf, e, he, hqueues⟩ := h
  rw [← List.take_append_drop 3 submittedOnNetwork.2, hbefore] at hf
  rcases List.mem_append.mp hf with hf | hf
  · exact ⟨f, hf, e, he, hqueues⟩
  · have htask : f.task =
        .submitRunnerResult "node" runnerHeaders networkSubmission := by
      have hmem := List.mem_map_of_mem (f := Session.task) hf
      rwa [List.map_drop, submittedOnNetwork, actAll_tasks, List.map_append,
        List.drop_left' (by rw [List.length_map, hlength]),
        List.map_singleton, List.mem_singleton] at hmem
    have hmade := (submittedOnNetwork_run.servingRun.reaches f
      (List.mem_of_mem_drop hf)).made
      (AppState.serve_makes networkCrates referenceApp f.task) e he
    rw [hqueues, htask] at hmade
    revert hmade
    simp only [Request.Makes, Request.mayMake]
    cases signed.command.kind <;> simp

theorem submittedOnNetwork_expires :
    ∀ nodeId signed, Queued submittedOnNetwork.2 nodeId signed →
      signed.command.expiresAt.Representable :=
  fun nodeId signed hqueued =>
    compiledOnNetwork_expires nodeId signed (queued_of_submittedOnNetwork hqueued)

theorem freshFleet_manned : freshFleet.Manned networkCrates referenceApp where
  nodeId _ := rfl
  controlPlaneKey _ := rfl
  idle _ := rfl

theorem executed_commands_were_queued_once :
    ∃ e ∈ (deployedFleet "node").executed,
      e.result = some networkResult ∧
        ∃ signed, Queued submittedOnNetwork.2 "node" signed ∧
          signed.command.SameAs e.command := by
  obtain ⟨e, he, hresult⟩ := (deployedFleet_reports_iff _).mpr rfl
  exact ⟨e, he, hresult, executed_commands_were_queued networkCrates_serializes
    freshFleet_manned submittedOnNetwork_run submittedOnNetwork_expires "node" e
    he⟩

theorem recorded_statuses_were_reported_success :
    ∃ deploymentId,
      get submittedOnNetwork.1.store.deploymentStatuses deploymentId =
          some .succeeded ∧
        ∃ nodeId signed, Queued submittedOnNetwork.2 nodeId signed ∧
          ∃ e ∈ (deployedFleet nodeId).executed,
            signed.command.SameAs e.command ∧
            ∃ result, e.result = some result ∧ result.status = .succeeded ∧
              result.deploymentId = deploymentId ∧
              signed.command.kind.IsAbout result := by
  have hstatus : get submittedOnNetwork.1.store.deploymentStatuses
      networkResult.deploymentId = some .succeeded := by
    decide +kernel
  have hinstants : ∀ result, deployedFleet.Reports result →
      result.observedAt.Representable := by
    rintro result ⟨nodeId, hreports⟩
    rcases eq_or_ne nodeId "node" with rfl | hne
    · rw [(deployedFleet_reports_iff result).mp hreports]
      exact deployedFleet_results.2.1
    · obtain ⟨e, he, -⟩ := hreports
      rw [deployedFleet, Function.update_of_ne hne] at he
      cases he
  rcases recorded_statuses_were_reported networkCrates_serializes
      freshFleet_manned submittedOnNetwork_run submittedOnNetwork_admissible
      submittedOnNetwork_expires hinstants networkResult.deploymentId .succeeded
      hstatus with
    hpending | hreported
  · cases hpending
  · exact ⟨networkResult.deploymentId, hstatus, hreported⟩

end ProxyControl
