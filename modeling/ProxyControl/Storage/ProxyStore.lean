import ProxyControl.Lib.Program
import ProxyControl.Storage.MemoryStore

/-!
# The store as an interface

`StoreCall` lists the methods of the `ProxyStore` trait with their arguments,
and `StoreCall.Ret` what each one returns.  `MemoryStore.exec` answers a call
against the in-memory tables; a call is atomic, since each method holds the
lock from its first access to its last.

Which tables a call may write is stated once, by `exec_frame`, so that an
invariant of some tables is checked against the calls that write them only.
`Reached` collects the states of a store after any sequence of calls, and
`MemoryStore.History` keeps the calls as well.
-/

namespace ProxyControl

open Calendar

/-- What the environment supplies to one call. -/
structure Tick where
  now : DateTime
  uuid : ℕ → String
  order : IterationOrder

inductive StoreCall : Type
  | registerNode (node : NodeRecord)
  | registerNodeWithRegistrationToken
      (node : NodeRecord) (registrationToken : String)
  | listNodes
  | createNodeRegistrationToken (token : NodeRegistrationTokenRecord)
  | listNodeRegistrationTokens
  | nodeRegistrationToken (token : String)
  | consumeNodeRegistrationToken (token nodeId : String)
  | recordHeartbeat (heartbeat : HeartbeatRecord)
  | latestHeartbeat (nodeId : String)
  | createProfile (profile : ProfileRecord)
  | listProfiles
  | addCredential (profileId : String) (credential : Credential)
  | listCredentials
  | recordArtifact (artifact : Artifact)
  | recordArtifactBlob (artifact : Artifact) (bytes : Bytes)
  | artifactBytes (artifactId : String)
  | artifactBytesBySha256 (sha256 : String)
  | recordDeploymentPlan (deployment : DeploymentPlanRecord)
  | listDeploymentPlans
  | idempotencyResponse (tenantId key : String)
  | recordIdempotencyResponse
      (tenantId key : String) (responseJson : Json.Value)
  | recordDeploymentResult (result : DeploymentResult)
  | deploymentStatus (deploymentId : String)
  | rollbackPointer (deploymentId : String)
  | deploymentSnapshot (deploymentId : String)
  | latestDeploymentHealth (deploymentId : String)
  | recordDeploymentHealthCheck (health : DeploymentHealthCheckRecord)
  | deploymentHealthChecks (deploymentId : String)
  | recordUsageSample (usage : UsageSampleRecord)
  | latestUsageSample (nodeId : String)
  | latestUsageRollupForCredential (credentialId bucket : String)
  | setCredentialQuota (credentialId : String) (quotaBytes : Int64)
  | credentialQuotaDecision (credentialId : String)
  | setCredentialExpiry (credentialId : String) (expiresAt : DateTime)
  | credentialExpiryDecision (credentialId : String)
  | enqueueRunnerCommand (nodeId : String) (command : SignedRunnerCommand)
  | nextRunnerCommand (nodeId : String) (lastSequence : UInt64)
  | node (nodeId : String)
  | updateNodeRunnerResultPublicKey (nodeId publicKeyHex : String)
  | profile (profileId : String)
  | credentialsForProfile (profileId : String)
  | auditCount
  | outboxCount
  | deployedProfileForSubscription (profileId : String)
  | issueSubscriptionToken (profileId : String)
  | rotateSubscriptionToken (profileId : String)
  | verifySubscriptionToken (profileId token : String)
  | subscriptionTokenRequired (profileId : String)
  | recordSubscriptionAccess
      (tokenId : String) (remoteAddr userAgent : Option String)
      (status : String)
  | subscriptionAccessLogCount (tokenId : String)

/-- The value a successful call returns. -/
abbrev StoreCall.Value : StoreCall → Type
  | registerNode _ => Unit
  | registerNodeWithRegistrationToken .. => NodeRegistrationTokenRecord
  | listNodes => List NodeRecord
  | createNodeRegistrationToken _ => Unit
  | listNodeRegistrationTokens => List NodeRegistrationTokenRecord
  | nodeRegistrationToken _ => NodeRegistrationTokenRecord
  | consumeNodeRegistrationToken .. => NodeRegistrationTokenRecord
  | recordHeartbeat _ => Unit
  | latestHeartbeat _ => HeartbeatRecord
  | createProfile _ => Unit
  | listProfiles => List ProfileRecord
  | addCredential .. => Unit
  | listCredentials => List CredentialRecord
  | recordArtifact _ => Unit
  | recordArtifactBlob .. => Unit
  | artifactBytes _ => Bytes
  | artifactBytesBySha256 _ => Bytes
  | recordDeploymentPlan _ => Unit
  | listDeploymentPlans => List DeploymentPlanRecord
  | idempotencyResponse .. => Option Json.Value
  | recordIdempotencyResponse .. => Unit
  | recordDeploymentResult _ => Unit
  | deploymentStatus _ => DeploymentStatus
  | rollbackPointer _ => RollbackPointerRecord
  | deploymentSnapshot _ => DeploymentSnapshotRecord
  | latestDeploymentHealth _ => DeploymentHealthCheckRecord
  | recordDeploymentHealthCheck _ => Unit
  | deploymentHealthChecks _ => List DeploymentHealthCheckRecord
  | recordUsageSample _ => Unit
  | latestUsageSample _ => UsageSampleRecord
  | latestUsageRollupForCredential .. => UsageRollupRecord
  | setCredentialQuota .. => Unit
  | credentialQuotaDecision _ => CredentialQuotaDecision
  | setCredentialExpiry .. => Unit
  | credentialExpiryDecision _ => CredentialExpiryDecision
  | enqueueRunnerCommand .. => Unit
  | nextRunnerCommand .. => Option SignedRunnerCommand
  | node _ => NodeRecord
  | updateNodeRunnerResultPublicKey .. => NodeRecord
  | profile _ => ProfileRecord
  | credentialsForProfile _ => List Credential
  | auditCount => Nat
  | outboxCount => Nat
  | deployedProfileForSubscription _ => DeployedProfile
  | issueSubscriptionToken _ => IssuedSubscriptionToken
  | rotateSubscriptionToken _ => IssuedSubscriptionToken
  | verifySubscriptionToken .. => SubscriptionTokenRecord
  | subscriptionTokenRequired _ => Bool
  | recordSubscriptionAccess .. => Unit
  | subscriptionAccessLogCount _ => Nat

abbrev StoreCall.Ret (op : StoreCall) : Type :=
  StoreResult op.Value

namespace MemoryStore

/-- One call answered against the tables of a store of tenant `tenantId`. -/
def exec (crates : Crates) (tenantId : String) :
    (op : StoreCall) → Tick → MemoryState → op.Ret × MemoryState
  | .registerNode node, t, s => registerNode tenantId t.now node s
  | .registerNodeWithRegistrationToken node registrationToken, t, s =>
      registerNodeWithRegistrationToken tenantId t.now t.order node
        registrationToken s
  | .listNodes, t, s => (listNodes t.order s, s)
  | .createNodeRegistrationToken token, t, s =>
      createNodeRegistrationToken t.now token s
  | .listNodeRegistrationTokens, t, s =>
      (listNodeRegistrationTokens t.order s, s)
  | .nodeRegistrationToken token, t, s =>
      (nodeRegistrationToken t.order token s, s)
  | .consumeNodeRegistrationToken token nodeId, t, s =>
      consumeNodeRegistrationToken t.now t.order token nodeId s
  | .recordHeartbeat heartbeat, t, s =>
      recordHeartbeat tenantId t.now heartbeat s
  | .latestHeartbeat nodeId, _, s => (latestHeartbeat nodeId s, s)
  | .createProfile profile, t, s => createProfile tenantId t.now profile s
  | .listProfiles, t, s => (listProfiles t.order s, s)
  | .addCredential profileId credential, t, s =>
      addCredential tenantId t.now profileId credential s
  | .listCredentials, t, s => (listCredentials t.order s, s)
  | .recordArtifact artifact, t, s =>
      recordArtifact tenantId t.now artifact s
  | .recordArtifactBlob artifact bytes, t, s =>
      recordArtifactBlob crates tenantId t.now artifact bytes s
  | .artifactBytes artifactId, _, s => (artifactBytes artifactId s, s)
  | .artifactBytesBySha256 sha256, _, s => (artifactBytesBySha256 sha256 s, s)
  | .recordDeploymentPlan deployment, t, s =>
      recordDeploymentPlan tenantId t.now t.order deployment s
  | .listDeploymentPlans, t, s => (listDeploymentPlans t.order s, s)
  | .idempotencyResponse _ key, _, s => (idempotencyResponse key s, s)
  | .recordIdempotencyResponse _ key responseJson, _, s =>
      recordIdempotencyResponse key responseJson s
  | .recordDeploymentResult result, t, s =>
      recordDeploymentResult crates tenantId t.now result s
  | .deploymentStatus deploymentId, _, s =>
      (deploymentStatus deploymentId s, s)
  | .rollbackPointer deploymentId, _, s => (rollbackPointer deploymentId s, s)
  | .deploymentSnapshot deploymentId, _, s =>
      (deploymentSnapshot deploymentId s, s)
  | .latestDeploymentHealth deploymentId, _, s =>
      (latestDeploymentHealth deploymentId s, s)
  | .recordDeploymentHealthCheck health, t, s =>
      recordDeploymentHealthCheck tenantId t.now health s
  | .deploymentHealthChecks deploymentId, _, s =>
      (deploymentHealthChecks deploymentId s, s)
  | .recordUsageSample usage, _, s => recordUsageSample usage s
  | .latestUsageSample nodeId, _, s => (latestUsageSample nodeId s, s)
  | .latestUsageRollupForCredential credentialId bucket, t, s =>
      (latestUsageRollupForCredential t.order credentialId bucket s, s)
  | .setCredentialQuota credentialId quotaBytes, _, s =>
      setCredentialQuota credentialId quotaBytes s
  | .credentialQuotaDecision credentialId, _, s =>
      (credentialQuotaDecision credentialId s, s)
  | .setCredentialExpiry credentialId expiresAt, _, s =>
      setCredentialExpiry credentialId expiresAt s
  | .credentialExpiryDecision credentialId, t, s =>
      (credentialExpiryDecision t.now credentialId s, s)
  | .enqueueRunnerCommand nodeId command, _, s =>
      enqueueRunnerCommand nodeId command s
  | .nextRunnerCommand nodeId lastSequence, _, s =>
      nextRunnerCommand nodeId lastSequence s
  | .node nodeId, _, s => (node nodeId s, s)
  | .updateNodeRunnerResultPublicKey nodeId publicKeyHex, t, s =>
      updateNodeRunnerResultPublicKey tenantId t.now nodeId publicKeyHex s
  | .profile profileId, _, s => (profile profileId s, s)
  | .credentialsForProfile profileId, _, s =>
      (credentialsForProfile profileId s, s)
  | .auditCount, _, s => (auditCount s, s)
  | .outboxCount, _, s => (outboxCount s, s)
  | .deployedProfileForSubscription profileId, t, s =>
      (deployedProfileForSubscription t.now t.order profileId s, s)
  | .issueSubscriptionToken profileId, t, s =>
      issueSubscriptionToken crates tenantId t.now (t.uuid 0) (t.uuid 1)
        profileId s
  | .rotateSubscriptionToken profileId, t, s =>
      rotateSubscriptionToken crates tenantId t.now (t.uuid 0) (t.uuid 1)
        profileId s
  | .verifySubscriptionToken profileId token, t, s =>
      (verifySubscriptionToken crates t.order profileId token s, s)
  | .subscriptionTokenRequired profileId, _, s =>
      (subscriptionTokenRequired profileId s, s)
  | .recordSubscriptionAccess tokenId remoteAddr userAgent status, t, s =>
      recordSubscriptionAccess t.now tokenId remoteAddr userAgent status s
  | .subscriptionAccessLogCount tokenId, _, s =>
      (subscriptionAccessLogCount tokenId s, s)

/-! ## Frames -/

/-- Tables that are written together. -/
inductive TableGroup
  | usage
  | queues
  | deployments
  | nodes
  | registrationTokens
  | profiles
  | credentials
  | artifacts
  | responses
  | subscriptionTokens
deriving DecidableEq

/-- Whether a call may write a table of the group. -/
def writes : TableGroup → StoreCall → Bool
  | .usage, .recordUsageSample _ => true
  | .queues, .enqueueRunnerCommand .. => true
  | .queues, .nextRunnerCommand .. => true
  | .deployments, .recordDeploymentPlan _ => true
  | .deployments, .recordDeploymentResult _ => true
  | .deployments, .recordDeploymentHealthCheck _ => true
  | .nodes, .registerNode _ => true
  | .nodes, .registerNodeWithRegistrationToken .. => true
  | .nodes, .updateNodeRunnerResultPublicKey .. => true
  | .registrationTokens, .registerNodeWithRegistrationToken .. => true
  | .registrationTokens, .createNodeRegistrationToken _ => true
  | .registrationTokens, .consumeNodeRegistrationToken .. => true
  | .profiles, .createProfile _ => true
  | .credentials, .addCredential .. => true
  | .artifacts, .recordArtifact _ => true
  | .artifacts, .recordArtifactBlob .. => true
  | .responses, .recordIdempotencyResponse .. => true
  | .subscriptionTokens, .issueSubscriptionToken _ => true
  | .subscriptionTokens, .rotateSubscriptionToken _ => true
  | _, _ => false

/-- Two states agree on the tables of a group. -/
def SameTables : TableGroup → MemoryState → MemoryState → Prop
  | .usage, s, s' =>
      s'.usageSamples = s.usageSamples ∧ s'.usageRollups = s.usageRollups
  | .queues, s, s' => s'.runnerCommands = s.runnerCommands
  | .deployments, s, s' =>
      s'.deployments = s.deployments ∧
        s'.deploymentStatuses = s.deploymentStatuses ∧
        s'.rollbackPointers = s.rollbackPointers ∧
        s'.deploymentSnapshots = s.deploymentSnapshots ∧
        s'.deploymentHealthChecks = s.deploymentHealthChecks
  | .nodes, s, s' => s'.nodes = s.nodes
  | .registrationTokens, s, s' =>
      s'.nodeRegistrationTokens = s.nodeRegistrationTokens
  | .profiles, s, s' => s'.profiles = s.profiles
  | .credentials, s, s' => s'.credentialsByProfile = s.credentialsByProfile
  | .artifacts, s, s' =>
      s'.artifacts = s.artifacts ∧
        s'.artifactBlobsBySha256 = s.artifactBlobsBySha256
  | .responses, s, s' => s'.idempotencyResponses = s.idempotencyResponses
  | .subscriptionTokens, s, s' => s'.subscriptionTokens = s.subscriptionTokens

theorem SameTables.refl
    (g : TableGroup) (s : MemoryState) : SameTables g s s := by
  cases g <;> simp [SameTables]

theorem SameTables.trans
    {g : TableGroup} {s s' s'' : MemoryState}
    (h : SameTables g s s') (h' : SameTables g s' s'') :
    SameTables g s s'' := by
  cases g <;> simp only [SameTables] at h h' ⊢ <;> simp only [h, h', and_self]

section Frames

variable (crates : Crates) (tenantId : String)

/-- A call leaves every group of tables alone that it does not write. -/
theorem exec_frame
    {g : TableGroup} {op : StoreCall} (h : writes g op = false) (t : Tick)
    (s : MemoryState) :
    SameTables g s (exec crates tenantId op t s).2 := by
  have hs := SameTables.refl g s
  cases op with
  | recordUsageSample usage =>
      simp only [exec, recordUsageSample]
      split
      · split
        · exact hs
        · cases g with
          | usage => cases h
          | _ => exact hs
      · exact hs
  | recordDeploymentHealthCheck health =>
      simp only [exec, recordDeploymentHealthCheck]
      split
      · exact hs
      · split
        · exact hs
        · cases g with
          | deployments => cases h
          | _ => exact hs
  | registerNodeWithRegistrationToken node token =>
      simp only [exec, registerNodeWithRegistrationToken]
      split
      · exact hs
      · split
        · exact hs
        · cases g with
          | nodes | registrationTokens => cases h
          | _ => exact hs
  | nextRunnerCommand | recordDeploymentResult | createNodeRegistrationToken
  | recordHeartbeat | addCredential | recordArtifactBlob
  | recordIdempotencyResponse | issueSubscriptionToken
  | rotateSubscriptionToken | recordSubscriptionAccess
  | consumeNodeRegistrationToken | updateNodeRunnerResultPublicKey =>
      simp only [exec, nextRunnerCommand, recordDeploymentResult,
        createNodeRegistrationToken, recordHeartbeat, addCredential,
        recordArtifactBlob, recordIdempotencyResponse,
        issueSubscriptionToken, rotateSubscriptionToken,
        recordSubscriptionAccess, consumeNodeRegistrationToken,
        updateNodeRunnerResultPublicKey]
      -- one branch writes nothing, the other one a table outside the group
      split <;> cases g <;> first | exact hs | cases h
  | _ => cases g <;> first | exact hs | cases h

/-- The call that adds a credential to a profile. -/
def addsCredential : StoreCall → Bool
  | .addCredential .. => true
  | _ => false

/-- The call that sets a quota. -/
def setsQuota : StoreCall → Bool
  | .setCredentialQuota .. => true
  | _ => false

/-- The tables of credentials and of quotas have one writing call each. -/
theorem exec_credentialTables
    (op : StoreCall) (t : Tick) (s : MemoryState) :
    (addsCredential op = false →
      (exec crates tenantId op t s).2.credentialsByProfile =
        s.credentialsByProfile) ∧
      (setsQuota op = false →
        (exec crates tenantId op t s).2.credentialQuotas =
          s.credentialQuotas) := by
  cases op with
  | addCredential profileId credential =>
      refine ⟨fun h => Bool.noConfusion h, fun _ => ?_⟩
      simp only [exec, addCredential]
      split <;> rfl
  | setCredentialQuota credentialId quotaBytes =>
      exact ⟨fun _ => rfl, fun h => Bool.noConfusion h⟩
  | recordUsageSample | recordDeploymentHealthCheck
  | registerNodeWithRegistrationToken =>
      simp only [exec, recordUsageSample, recordDeploymentHealthCheck,
        registerNodeWithRegistrationToken]
      split
      · first
        | exact ⟨fun _ => rfl, fun _ => rfl⟩
        | split <;> exact ⟨fun _ => rfl, fun _ => rfl⟩
      · first
        | exact ⟨fun _ => rfl, fun _ => rfl⟩
        | split <;> exact ⟨fun _ => rfl, fun _ => rfl⟩
  | nextRunnerCommand | recordDeploymentResult | createNodeRegistrationToken
  | recordHeartbeat | recordArtifactBlob | recordIdempotencyResponse
  | issueSubscriptionToken | rotateSubscriptionToken
  | recordSubscriptionAccess | consumeNodeRegistrationToken
  | updateNodeRunnerResultPublicKey =>
      simp only [exec, nextRunnerCommand, recordDeploymentResult,
        createNodeRegistrationToken, recordHeartbeat, recordArtifactBlob,
        recordIdempotencyResponse, issueSubscriptionToken,
        rotateSubscriptionToken, recordSubscriptionAccess,
        consumeNodeRegistrationToken, updateNodeRunnerResultPublicKey]
      split <;> exact ⟨fun _ => rfl, fun _ => rfl⟩
  | _ => exact ⟨fun _ => rfl, fun _ => rfl⟩

end Frames

/-- The states of a fresh store after any sequence of calls. -/
inductive Reached (crates : Crates) (tenantId : String) : MemoryState → Prop
  | default : Reached crates tenantId .default
  | call {s : MemoryState} (h : Reached crates tenantId s)
      (op : StoreCall) (t : Tick) :
      Reached crates tenantId (exec crates tenantId op t s).2

/-- A sequence of calls, each with its tick. -/
def execAll (crates : Crates) (tenantId : String)
    (calls : List (StoreCall × Tick)) (s : MemoryState) : MemoryState :=
  calls.foldl (fun s call => (exec crates tenantId call.1 call.2 s).2) s

theorem Reached.execAll
    {crates : Crates} {tenantId : String} {s : MemoryState}
    (h : Reached crates tenantId s) (calls : List (StoreCall × Tick)) :
    Reached crates tenantId (execAll crates tenantId calls s) := by
  induction calls generalizing s with
  | nil =>
      exact h
  | cons call calls ih =>
      exact ih (h.call call.1 call.2)

/-! ## Histories -/

abbrev StoreEntry : Type :=
  Effects.Program.Entry StoreCall Tick MemoryState

/-- The state that a call has left. -/
def afterCall (crates : Crates) (tenantId : String) (e : StoreEntry) :
    MemoryState :=
  (exec crates tenantId e.op e.choice e.before).2

/-- Any sequence of calls on a fresh store, oldest first, and its last state. -/
inductive History (crates : Crates) (tenantId : String) :
    List StoreEntry → MemoryState → Prop
  | new : History crates tenantId [] .default
  | call
      {log : List StoreEntry} {s : MemoryState}
      (h : History crates tenantId log s) (op : StoreCall) (t : Tick) :
      History crates tenantId (log ++ [⟨op, t, s⟩])
        (afterCall crates tenantId ⟨op, t, s⟩)

theorem History.reached
    {crates : Crates} {tenantId : String} {log : List StoreEntry}
    {s : MemoryState} (h : History crates tenantId log s) :
    Reached crates tenantId s := by
  induction h with
  | new => exact .default
  | call _ op t ih => exact ih.call op t

theorem History.sequence
    {crates : Crates} {tenantId : String} {log : List StoreEntry}
    {s : MemoryState} (h : History crates tenantId log s) :
    Effects.Program.Sequence (exec crates tenantId) .default log s := by
  induction h with
  | new => exact .start
  | call _ op t ih => exact ih.call op t

/-- A history up to one of its calls. -/
theorem History.before
    {crates : Crates} {tenantId : String} {log before later : List StoreEntry}
    {e : StoreEntry} {s : MemoryState} (h : History crates tenantId log s)
    (hlog : log = before ++ e :: later) :
    History crates tenantId before e.before := by
  induction h generalizing later with
  | new => simp at hlog
  | @call log s h op t ih =>
      rcases List.eq_nil_or_concat later with rfl | ⟨later, last, rfl⟩
      · obtain ⟨rfl, hlast⟩ := List.append_inj' hlog rfl
        obtain rfl := List.singleton_inj.mp hlast
        exact h
      · rw [List.concat_eq_append, ← List.cons_append, ← List.append_assoc]
          at hlog
        exact ih (List.append_inj' hlog rfl).1

/-- The entries of a sequence of calls. -/
def entriesFrom (crates : Crates) (tenantId : String) :
    List (StoreCall × Tick) → MemoryState → List StoreEntry
  | [], _ => []
  | call :: calls, s =>
      ⟨call.1, call.2, s⟩ ::
        entriesFrom crates tenantId calls
          (exec crates tenantId call.1 call.2 s).2

theorem History.execAll
    {crates : Crates} {tenantId : String} {log : List StoreEntry}
    {s : MemoryState} (h : History crates tenantId log s)
    (calls : List (StoreCall × Tick)) :
    History crates tenantId (log ++ entriesFrom crates tenantId calls s)
      (execAll crates tenantId calls s) := by
  induction calls generalizing log s with
  | nil =>
      rw [entriesFrom, List.append_nil]
      exact h
  | cons call calls ih =>
      have hrest := ih (h.call call.1 call.2)
      rw [List.append_assoc] at hrest
      exact hrest

end MemoryStore
end ProxyControl
