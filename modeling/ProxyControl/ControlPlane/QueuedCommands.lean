import ProxyControl.ControlPlane.IssuedTokens
import ProxyControl.ControlPlane.RollbackTargets
import ProxyControl.Storage.RunnerQueues

/-!
# What queued commands say

A deployment is named after the digest of its configuration, and its plan names
an artifact with that digest; a rollback pointer copies both from a plan.  What
a queued command says about digests and deployments is therefore true of the
tables, whatever requests are served at the same time.

An artifact is never replaced by another one as long as no identifier is drawn
twice.
-/

namespace ProxyControl

open Effects HashTable
open AppState (deploymentIdOf CompileDeploymentRequest)
open MemoryStore (queueOf)

/-- The artifact is stored, and the deployment is named after its digest. -/
def NamedAfter (deploymentId artifactId : String) (s : MemoryState) : Prop :=
  ∃ artifact, get s.artifacts artifactId = some artifact ∧
    deploymentId = deploymentIdOf artifact.sha256

section Statements

variable (crates : Crates) (recorded : Bytes → Prop)

/-- What a command says about recorded configurations is true. -/
def SaysTruly (s : Shared) : RunnerCommandKind → Prop
  | .applyDeploymentPlan deploymentId sha256 configJson _ =>
      (∃ bytes, crates.toVecPretty configJson = .ok bytes ∧ recorded bytes ∧
        sha256 = hexSha256 crates bytes) ∧
      deploymentId = deploymentIdOf sha256 ∧
      (get s.store.deployments deploymentId).isSome = true
  | .rollbackDeployment _ rollbackTo sha256 =>
      (∃ bytes, recorded bytes ∧ sha256 = hexSha256 crates bytes) ∧
      rollbackTo = deploymentIdOf sha256
  | _ => False

/-- Blobs, artifacts, plans, pointers and queues fit together. -/
structure TrueTables (s : Shared) : Prop where
  blob : ∀ sha256 bytes,
    get s.store.artifactBlobsBySha256 sha256 = some bytes →
    sha256 = hexSha256 crates bytes ∧ recorded bytes
  artifact : ∀ id artifact, get s.store.artifacts id = some artifact →
    (get s.store.artifactBlobsBySha256 artifact.sha256).isSome = true
  plan : ∀ deploymentId plan,
    get s.store.deployments deploymentId = some plan →
    plan.deploymentId = deploymentId ∧
      NamedAfter deploymentId plan.compiledConfigArtifactId s.store
  pointer : ∀ deploymentId pointer,
    get s.store.rollbackPointers deploymentId = some pointer →
    ∀ previousId artifactId, pointer.previousDeploymentId = some previousId →
      pointer.previousCompiledConfigArtifactId = some artifactId →
      NamedAfter previousId artifactId s.store
  queued : ∀ nodeId, ∀ envelope ∈ queueOf nodeId s.store,
    SaysTruly crates recorded s envelope.command.kind

/-- Artifacts stay as they are, and planned deployments stay planned. -/
structure TablesGrow (s s' : Shared) : Prop where
  artifact : ∀ id artifact, get s.store.artifacts id = some artifact →
    get s'.store.artifacts id = some artifact
  planned : ∀ deploymentId,
    (get s.store.deployments deploymentId).isSome = true →
    (get s'.store.deployments deploymentId).isSome = true

/-- What is recorded as an artifact has its id for itself. -/
def RecordsNew (op : Call) (s : Shared) : Prop :=
  ∀ artifact bytes, op = .store (.recordArtifactBlob artifact bytes) →
    recorded bytes ∧ get s.store.artifacts artifact.id = none

/-- What a call may plan and queue. -/
def MayCall (op : Call) (s : Shared) : Prop :=
  match op with
  | .store (.recordDeploymentPlan plan) =>
      NamedAfter plan.deploymentId plan.compiledConfigArtifactId s.store
  | .store (.enqueueRunnerCommand _ envelope) =>
      SaysTruly crates recorded s envelope.command.kind
  | .store (.recordArtifact _) => False
  | _ => True

def commandContract : Program.Contract Call Shared where
  inv := TrueTables crates recorded
  grows := TablesGrow
  given := RecordsNew recorded
  allowed := MayCall crates recorded

end Statements

variable {crates : Crates} {app : AppState} {recorded : Bytes → Prop}

/-! ## What calls do to the tables -/

theorem NamedAfter.grow
    {deploymentId artifactId : String} {s s' : Shared}
    (h : NamedAfter deploymentId artifactId s.store) (hgrow : TablesGrow s s') :
    NamedAfter deploymentId artifactId s'.store := by
  obtain ⟨artifact, hartifact, hid⟩ := h
  exact ⟨artifact, hgrow.artifact _ _ hartifact, hid⟩

theorem SaysTruly.grow
    {kind : RunnerCommandKind} {s s' : Shared}
    (h : SaysTruly crates recorded s kind) (hgrow : TablesGrow s s') :
    SaysTruly crates recorded s' kind := by
  cases kind with
  | applyDeploymentPlan =>
      obtain ⟨hbytes, hid, hplanned⟩ := h
      exact ⟨hbytes, hid, hgrow.planned _ hplanned⟩
  | _ => exact h

theorem TablesGrow.refl (s : Shared) : TablesGrow s s :=
  ⟨fun _ _ h => h, fun _ h => h⟩

theorem TablesGrow.trans
    {s s' s'' : Shared} (h : TablesGrow s s') (h' : TablesGrow s' s'') :
    TablesGrow s s'' :=
  ⟨fun id artifact hartifact => h'.artifact id artifact
      (h.artifact id artifact hartifact),
    fun id hplanned => h'.planned id (h.planned id hplanned)⟩

theorem TablesGrow.of_same
    {s s' : Shared}
    (hartifacts : s'.store.artifacts = s.store.artifacts)
    (hdeployments : s'.store.deployments = s.store.deployments) :
    TablesGrow s s' := by
  refine ⟨?_, ?_⟩
  · rw [hartifacts]
    exact fun _ _ h => h
  · rw [hdeployments]
    exact fun _ h => h

/-- A change that leaves plans and artifacts alone. -/
theorem TrueTables.of_same
    {s s' : Shared} (h : TrueTables crates recorded s)
    (hartifacts : MemoryStore.SameTables .artifacts s.store s'.store)
    (hdeployments : s'.store.deployments = s.store.deployments)
    (hpointers : s'.store.rollbackPointers = s.store.rollbackPointers)
    (hqueued : ∀ nodeId, ∀ envelope ∈ queueOf nodeId s'.store,
      envelope ∈ queueOf nodeId s.store ∨
        SaysTruly crates recorded s envelope.command.kind) :
    TrueTables crates recorded s' ∧ TablesGrow s s' := by
  obtain ⟨hartifacts, hblobs⟩ := hartifacts
  have hgrow : TablesGrow s s' := .of_same hartifacts hdeployments
  refine ⟨⟨?_, ?_, ?_, ?_, ?_⟩, hgrow⟩
  · rw [hblobs]
    exact h.blob
  · rw [hblobs, hartifacts]
    exact h.artifact
  · intro deploymentId plan hplan
    rw [hdeployments] at hplan
    obtain ⟨hid, hnamed⟩ := h.plan deploymentId plan hplan
    exact ⟨hid, hnamed.grow hgrow⟩
  · intro deploymentId pointer hpointer previousId artifactId hprevious hartifact
    rw [hpointers] at hpointer
    exact (h.pointer deploymentId pointer hpointer previousId artifactId
      hprevious hartifact).grow hgrow
  · intro nodeId envelope henvelope
    rcases hqueued nodeId envelope henvelope with hold | htrue
    · exact (h.queued nodeId envelope hold).grow hgrow
    · exact htrue.grow hgrow

/-- A new artifact, recorded with its bytes. -/
theorem TrueTables.recordArtifactBlob
    {artifact : Artifact} {bytes : Bytes} {s : Shared} {t : Tick}
    (h : TrueTables crates recorded s) (hbytes : recorded bytes)
    (hnew : get s.store.artifacts artifact.id = none) :
    TrueTables crates recorded
        (app.answer crates (.store (.recordArtifactBlob artifact bytes)) t s).2 ∧
      TablesGrow s
        (app.answer crates (.store (.recordArtifactBlob artifact bytes)) t
          s).2 := by
  simp only [AppState.answer, MemoryStore.exec, MemoryStore.recordArtifactBlob]
  split_ifs with hmismatch
  · exact ⟨h, .refl s⟩
  have hsha : hexSha256 crates bytes = artifact.sha256 := not_not.mp hmismatch
  have hkept : ∀ id stored, get s.store.artifacts id = some stored →
      get (s.store.artifacts.insert artifact.id artifact) id = some stored := by
    intro id stored hstored
    rw [get_insert]
    split_ifs with hid
    · rw [hid, hnew] at hstored
      cases hstored
    · exact hstored
  have hnamed : ∀ {deploymentId artifactId : String},
      NamedAfter deploymentId artifactId s.store →
      ∃ stored, get (s.store.artifacts.insert artifact.id artifact) artifactId =
        some stored ∧ deploymentId = deploymentIdOf stored.sha256 := by
    rintro deploymentId artifactId ⟨stored, hstored, hid⟩
    exact ⟨stored, hkept _ _ hstored, hid⟩
  refine ⟨⟨?_, ?_, ?_, ?_, ?_⟩, ⟨hkept, fun _ hplanned => hplanned⟩⟩
  · intro sha256 stored hstored
    simp only [MemoryStore.record, get_insert] at hstored
    split_ifs at hstored with heq
    · obtain rfl := Option.some.inj hstored
      exact ⟨by rw [heq, hsha], hbytes⟩
    · exact h.blob sha256 stored hstored
  · intro id stored hstored
    simp only [MemoryStore.record, get_insert] at hstored ⊢
    split_ifs at hstored with hid
    · obtain rfl := Option.some.inj hstored
      rw [if_pos rfl]
      rfl
    · split_ifs
      · rfl
      · exact h.artifact id stored hstored
  · intro deploymentId plan hplan
    obtain ⟨hid, hplanned⟩ := h.plan deploymentId plan hplan
    exact ⟨hid, hnamed hplanned⟩
  · intro deploymentId pointer hpointer previousId artifactId hprevious hartifact
    exact hnamed (h.pointer deploymentId pointer hpointer previousId artifactId
      hprevious hartifact)
  · intro nodeId envelope henvelope
    exact (h.queued nodeId envelope henvelope).grow ⟨hkept, fun _ hp => hp⟩

/-- A plan, with a pointer to the newest succeeded deployment. -/
theorem TrueTables.recordDeploymentPlan
    {plan : DeploymentPlanRecord} {s : Shared} {t : Tick}
    (h : TrueTables crates recorded s)
    (hnamed : NamedAfter plan.deploymentId plan.compiledConfigArtifactId
      s.store) :
    TrueTables crates recorded
        (app.answer crates (.store (.recordDeploymentPlan plan)) t s).2 ∧
      TablesGrow s
        (app.answer crates (.store (.recordDeploymentPlan plan)) t s).2 := by
  have hgrow : TablesGrow s
      (app.answer crates (.store (.recordDeploymentPlan plan)) t s).2 := by
    refine ⟨fun _ _ h => h, ?_⟩
    intro deploymentId hplanned
    simp only [AppState.answer, MemoryStore.exec,
      MemoryStore.recordDeploymentPlan, MemoryStore.record, get_insert]
    split_ifs
    · rfl
    · exact hplanned
  refine ⟨⟨h.blob, h.artifact, ?_, ?_, ?_⟩, hgrow⟩
  · intro deploymentId stored hstored
    simp only [AppState.answer, MemoryStore.exec,
      MemoryStore.recordDeploymentPlan, MemoryStore.record, get_insert]
      at hstored
    split_ifs at hstored with hid
    · obtain rfl := Option.some.inj hstored
      exact ⟨hid.symm, hid ▸ hnamed⟩
    · exact h.plan deploymentId stored hstored
  · intro deploymentId pointer hpointer previousId artifactId hprevious hartifact
    simp only [AppState.answer, MemoryStore.exec,
      MemoryStore.recordDeploymentPlan, MemoryStore.record, get_insert]
      at hpointer
    split_ifs at hpointer with hid
    · obtain rfl := Option.some.inj hpointer
      simp only [RollbackPointerRecord.new] at hprevious hartifact
      obtain ⟨previous, hfound, rfl⟩ := Option.map_eq_some_iff.mp hprevious
      rw [hfound] at hartifact
      obtain rfl := Option.some.inj hartifact
      have hmem := maxByKey_mem hfound
      simp only [List.mem_filter, IterationOrder.mem_arrange] at hmem
      obtain ⟨id, hget⟩ := (mem_values _ _).mp hmem.1
      obtain ⟨rfl, hprevious⟩ := h.plan id previous hget
      exact hprevious
    · exact h.pointer deploymentId pointer hpointer previousId artifactId
        hprevious hartifact
  · intro nodeId envelope henvelope
    exact (h.queued nodeId envelope henvelope).grow hgrow

theorem namedAfter_recordArtifactBlob
    {artifact : Artifact} {bytes : Bytes} {t : Tick} {s : Shared}
    (h : artifact.sha256 = hexSha256 crates bytes) :
    NamedAfter (deploymentIdOf (hexSha256 crates bytes)) artifact.id
      (app.answer crates (.store (.recordArtifactBlob artifact bytes)) t
        s).2.store := by
  refine ⟨artifact, ?_, by rw [h]⟩
  simp [AppState.answer, MemoryStore.exec, MemoryStore.recordArtifactBlob,
    MemoryStore.record, h, get_insert_self]

theorem planned_recordDeploymentPlan
    {plan : DeploymentPlanRecord} {t : Tick} {s : Shared} :
    (get (app.answer crates (.store (.recordDeploymentPlan plan)) t
      s).2.store.deployments plan.deploymentId).isSome = true := by
  simp [AppState.answer, MemoryStore.exec, MemoryStore.recordDeploymentPlan,
    MemoryStore.record, get_insert_self]

theorem mem_queueOf_enqueue
    {nodeId other : String} {command envelope : SignedRunnerCommand}
    {s : MemoryState}
    (h : envelope ∈ queueOf other
      (MemoryStore.enqueueRunnerCommand nodeId command s).2) :
    envelope ∈ queueOf other s ∨ envelope = command := by
  simp only [MemoryStore.enqueueRunnerCommand, queueOf, get_insert] at h
  split_ifs at h with hnode
  · rw [Option.getD_some, List.mem_append, List.mem_singleton] at h
    rw [hnode]
    exact h
  · exact .inl h

/-- A poll takes commands away. -/
theorem mem_queueOf_next
    {nodeId other : String} {lastSequence : UInt64}
    {envelope : SignedRunnerCommand} {s : MemoryState}
    (h : envelope ∈ queueOf other
      (MemoryStore.nextRunnerCommand nodeId lastSequence s).2) :
    envelope ∈ queueOf other s := by
  rw [(nextRunnerCommand_spec nodeId lastSequence s).2 other] at h
  split_ifs at h with hnode
  · rw [← hnode]
    exact (List.dropWhile_sublist _).subset (List.mem_of_mem_tail h)
  · exact h

/-- A call that neither plans nor stores an artifact nor touches a queue. -/
theorem TrueTables.frame
    {op : StoreCall} {t : Tick} {s : Shared}
    (h : TrueTables crates recorded s)
    (hartifacts : MemoryStore.writes .artifacts op = false)
    (hqueues : MemoryStore.writes .queues op = false)
    (hplan : ∀ plan, op ≠ .recordDeploymentPlan plan) :
    TrueTables crates recorded (app.answer crates (.store op) t s).2 ∧
      TablesGrow s (app.answer crates (.store op) t s).2 := by
  obtain ⟨hdeployments, hpointers⟩ :=
    @exec_keeps_plans crates op app.tenantId t s.store hplan
  refine h.of_same (MemoryStore.exec_frame crates app.tenantId hartifacts t
    s.store) hdeployments hpointers ?_
  intro nodeId envelope henvelope
  have hsame := MemoryStore.exec_frame crates app.tenantId hqueues t s.store
  simp only [MemoryStore.SameTables] at hsame
  simp only [AppState.answer, queueOf, hsame] at henvelope
  exact .inl henvelope

theorem commandContract_keeps
    (op : Call) (t : Tick) (s : Shared) (h : TrueTables crates recorded s)
    (hgiven : RecordsNew recorded op s)
    (hallowed : MayCall crates recorded op s) :
    TrueTables crates recorded (app.answer crates op t s).2 ∧
      TablesGrow s (app.answer crates op t s).2 := by
  cases op with
  | store op =>
      cases op with
      | recordArtifactBlob artifact bytes =>
          obtain ⟨hbytes, hnew⟩ := hgiven artifact bytes rfl
          exact h.recordArtifactBlob hbytes hnew
      | recordDeploymentPlan plan => exact h.recordDeploymentPlan hallowed
      | recordArtifact artifact => exact hallowed.elim
      | enqueueRunnerCommand nodeId command =>
          refine h.of_same ⟨rfl, rfl⟩ rfl rfl ?_
          intro other envelope henvelope
          refine (mem_queueOf_enqueue henvelope).imp_right ?_
          rintro rfl
          exact hallowed
      | nextRunnerCommand nodeId lastSequence =>
          have hframe := fun group hwrites => @MemoryStore.exec_frame crates
            app.tenantId group (.nextRunnerCommand nodeId lastSequence) hwrites
            t s.store
          refine h.of_same (hframe .artifacts rfl) (hframe .deployments rfl).1
            (hframe .deployments rfl).2.2.1 ?_
          exact fun other envelope henvelope => .inl (mem_queueOf_next henvelope)
      | _ => exact h.frame rfl rfl nofun
  | _ =>
      exact ⟨⟨h.blob, h.artifact, h.plan, h.pointer, h.queued⟩,
        fun _ _ h => h, fun _ h => h⟩

theorem commandContract_lawful :
    (commandContract crates recorded).Lawful (app.answer crates) where
  refl := TablesGrow.refl
  trans := fun _ _ _ h h' => h.trans h'
  keeps := commandContract_keeps

/-! ## Handlers under the contract -/

namespace Handler

variable {α β : Type}

/-- From a state on the handler keeps the contract; what its result says. -/
def Guarantees
    (crates : Crates) (app : AppState) (recorded : Bytes → Prop)
    (handler : Handler α) (s : Shared) (post : α → Shared → Prop) : Prop :=
  Program.Guarantees (app.answer crates) (commandContract crates recorded)
    handler.run s (fun r s' => ∀ a, r = .ok a → post a s')

variable {s : Shared} {post : β → Shared → Prop}

theorem guarantees_pure
    {a : β} (h : post a s) :
    Guarantees crates app recorded (pure a : Handler β) s post := by
  rintro b ⟨⟩
  exact h

theorem guarantees_throw (error : HttpError) :
    Guarantees crates app recorded (throw error : Handler β) s post := by
  rintro b ⟨⟩

theorem Guarantees.bind
    {m : Handler α} {f : α → Handler β} {between : α → Shared → Prop}
    (h : Guarantees crates app recorded m s between)
    (hf : ∀ a s', between a s' → Guarantees crates app recorded (f a) s' post) :
    Guarantees crates app recorded (m >>= f) s post := by
  have hrun : (m >>= f).run = m.run >>= ExceptT.bindCont f := rfl
  unfold Guarantees at h ⊢
  rw [hrun, Program.guarantees_bind]
  refine h.mono ?_
  intro r s' hr
  cases r with
  | ok a => exact hf a s' (hr a rfl)
  | error e => rintro b ⟨⟩

/-- Calls that are always allowed; what was known stays known. -/
theorem Calls.guarantees_bind
    {m : Handler α} {f : α → Handler β}
    (h : Calls (fun op => ∀ s', MayCall crates recorded op s') m)
    (hf : ∀ a s', TablesGrow s s' →
      Guarantees crates app recorded (f a) s' post) :
    Guarantees crates app recorded (m >>= f) s post := by
  refine @Guarantees.bind _ _ _ _ _ _ _ _ _ (fun _ s' => TablesGrow s s') ?_ hf
  refine Program.All.guarantees commandContract_lawful h
    (fun _ s' hop => hop s') ?_
  exact fun _ _ hgrow _ _ => hgrow

/-- A store call and what follows: what the call finds, and what it leaves. -/
theorem guarantees_store_bind
    {op : StoreCall} {f : op.Value → Handler β}
    (h : ∀ s', TablesGrow s s' → TrueTables crates recorded s' →
      RecordsNew recorded (.store op) s' →
      MayCall crates recorded (.store op) s' ∧
        ∀ t a, (MemoryStore.exec crates app.tenantId op t s'.store).1 = .ok a →
          Guarantees crates app recorded (f a)
            (app.answer crates (.store op) t s').2 post) :
    Guarantees crates app recorded (Handler.store op >>= f) s post := by
  intro s' hgrow hinv hgiven
  obtain ⟨hallowed, hnext⟩ := h s' hgrow hinv hgiven
  refine ⟨hallowed, fun t => ?_⟩
  have hnext := hnext t
  simp only [AppState.answer] at hnext ⊢
  generalize (MemoryStore.exec crates app.tenantId op t s'.store).1 = answer
    at hnext ⊢
  cases answer with
  | ok a => exact hnext a rfl
  | error e => rintro b ⟨⟩

/-- A domain computation makes no call; what follows knows its value. -/
theorem guarantees_orStatus_bind
    {status : Nat} {value : Except String α} {f : α → Handler β}
    (hf : ∀ a, value = .ok a →
      Guarantees crates app recorded (f a) s post) :
    Guarantees crates app recorded (Handler.orStatus status value >>= f) s
      post := by
  cases value with
  | ok a => exact hf a rfl
  | error e => exact guarantees_throw _

end Handler

open Handler

namespace AppState

theorem guarantees_signAndEnqueue
    {kind : RunnerCommandKind} {s : Shared}
    (h : SaysTruly crates recorded s kind) (nodeId : String)
    (sequence : UInt64) :
    Guarantees crates app recorded
      (app.signAndEnqueue crates nodeId sequence kind) s (fun _ _ => True) := by
  unfold signAndEnqueue
  refine (calls_perform fun _ => trivial).guarantees_bind
    fun now s₁ hgrow₁ => ?_
  refine (calls_perform fun _ => trivial).guarantees_bind
    fun nonce s₂ hgrow₂ => ?_
  refine guarantees_orStatus_bind fun envelope henvelope => ?_
  rw [← bind_pure (Handler.store _)]
  refine guarantees_store_bind fun s₃ hgrow₃ _ _ => ⟨?_, ?_⟩
  · simp only [MayCall]
    rw [SignedRunnerCommand.command_of_sign (mapError_eq_ok henvelope)]
    exact h.grow ((hgrow₁.trans hgrow₂).trans hgrow₃)
  · exact fun t a _ => guarantees_pure trivial

/-- A compilation plans what it has recorded, and queues what it has planned. -/
theorem guarantees_compileFresh
    (req : CompileDeploymentRequest) (s : Shared) :
    Guarantees crates app recorded (app.compileFresh crates req) s
      (fun _ _ => True) := by
  unfold compileFresh
  refine (calls_store fun _ => trivial).guarantees_bind fun profile s _ => ?_
  refine (calls_store fun _ => trivial).guarantees_bind fun node s _ => ?_
  refine (calls_store fun _ => trivial).guarantees_bind
    fun credentials s _ => ?_
  refine guarantees_orStatus_bind fun compiled _ => ?_
  refine guarantees_orStatus_bind fun bytes hbytes => ?_
  refine (calls_perform fun _ => trivial).guarantees_bind fun uuid s _ => ?_
  refine (calls_perform fun _ => trivial).guarantees_bind fun now s _ => ?_
  refine guarantees_store_bind fun s₁ _ _ hnew => ⟨trivial, ?_⟩
  intro t₁ _ _
  obtain ⟨hrecorded, -⟩ := hnew _ _ rfl
  have hnamed := @namedAfter_recordArtifactBlob crates app
    (Artifact.fromBytes crates uuid now app.tenantId .compiledXrayConfig
      "application/json" bytes "admin") bytes t₁ s₁ rfl
  refine (calls_perform fun _ => trivial).guarantees_bind
    fun createdAt s₂ hgrow₂ => ?_
  refine guarantees_store_bind fun s₃ hgrow₃ _ _ => ⟨?_, ?_⟩
  · exact (hnamed.grow hgrow₂).grow hgrow₃
  intro t₃ _ _
  refine (calls_perform fun _ => trivial).guarantees_bind
    fun plannedAt s₄ hgrow₄ => ?_
  refine (calls_perform fun _ => trivial).guarantees_bind
    fun sequence s₅ hgrow₅ => ?_
  refine (guarantees_signAndEnqueue ?_ _ _).bind fun _ s _ => ?_
  · refine ⟨⟨bytes, hbytes, hrecorded, rfl⟩, rfl, ?_⟩
    exact hgrow₅.planned _ (hgrow₄.planned _ planned_recordDeploymentPlan)
  refine (calls_store fun _ => trivial).guarantees_bind
    fun auditCount s _ => ?_
  refine (calls_store fun _ => trivial).guarantees_bind
    fun outboxCount s _ => ?_
  exact guarantees_pure trivial

theorem guarantees_compileDeployment
    (headers : Headers) (req : CompileDeploymentRequest) (s : Shared) :
    Guarantees crates app recorded (app.compileDeployment crates headers req) s
      (fun _ _ => True) := by
  unfold compileDeployment
  refine (calls_optionalHeaderValue _ _).guarantees_bind fun key s _ => ?_
  cases key with
  | none =>
      exact (guarantees_compileFresh req s).bind
        (fun _ _ _ => guarantees_pure trivial)
  | some key =>
      refine (calls_store fun _ => trivial).guarantees_bind
        fun cached s _ => ?_
      cases cached with
      | some body => exact guarantees_pure trivial
      | none =>
          refine (guarantees_compileFresh req s).bind fun response s _ => ?_
          refine (calls_store fun _ => trivial).guarantees_bind fun _ s _ => ?_
          exact guarantees_pure trivial

/-- The bytes of an artifact hash to the digest that it is recorded with. -/
theorem artifactBytes_true
    {artifactId : String} {artifact : Artifact} {bytes : Bytes} {s : Shared}
    (h : TrueTables crates recorded s)
    (hartifact : get s.store.artifacts artifactId = some artifact)
    (hbytes : MemoryStore.artifactBytes artifactId s.store = .ok bytes) :
    artifact.sha256 = hexSha256 crates bytes ∧ recorded bytes := by
  simp only [MemoryStore.artifactBytes, hartifact, okOr] at hbytes
  exact h.blob _ _ (okOr_eq_ok hbytes)

theorem guarantees_requirePrevious_bind
    {β : Type} {value : Option String} {message : String}
    {f : String → Handler β} {s : Shared} {post : β → Shared → Prop}
    (hf : ∀ a, value = some a → Guarantees crates app recorded (f a) s post) :
    Guarantees crates app recorded (requirePrevious value message >>= f) s
      post := by
  cases value with
  | some a => exact hf a rfl
  | none => exact guarantees_throw _

theorem guarantees_enqueueRollbackCommand
    (deploymentId : String) (s : Shared) :
    Guarantees crates app recorded
      (app.enqueueRollbackCommand crates deploymentId) s (fun _ _ => True) := by
  unfold enqueueRollbackCommand
  refine guarantees_store_bind fun s₁ _ htrue₁ _ => ⟨trivial, ?_⟩
  intro t₁ pointer hpointer
  have hpointer : get s₁.store.rollbackPointers deploymentId = some pointer :=
    okOr_eq_ok hpointer
  refine guarantees_requirePrevious_bind fun previousId hprevious => ?_
  refine guarantees_requirePrevious_bind fun artifactId hartifactId => ?_
  have hnamed := htrue₁.pointer deploymentId pointer hpointer previousId
    artifactId hprevious hartifactId
  refine (calls_store fun _ => trivial).guarantees_bind
    fun snapshot s₂ hgrow₂ => ?_
  refine guarantees_store_bind fun s₃ hgrow₃ htrue₃ _ => ⟨trivial, ?_⟩
  intro t₃ bytes hbytes
  obtain ⟨artifact, hartifact, hid⟩ := (hnamed.grow hgrow₂).grow hgrow₃
  obtain ⟨hsha, hrecorded⟩ := artifactBytes_true htrue₃ hartifact hbytes
  refine (calls_perform fun _ => trivial).guarantees_bind
    fun sequence s₄ _ => ?_
  refine (guarantees_signAndEnqueue ?_ _ _).bind
    fun _ s _ => guarantees_pure trivial
  exact ⟨⟨bytes, hrecorded, rfl⟩, hsha ▸ hid⟩

theorem guarantees_advanceDeploymentRollout
    (deploymentId : String) (s : Shared) :
    Guarantees crates app recorded
      (app.advanceDeploymentRollout crates deploymentId) s
      (fun _ _ => True) := by
  unfold advanceDeploymentRollout
  refine Calls.guarantees_bind ?_ fun readiness s _ => ?_
  · refine calls_store_bind (fun _ => trivial) fun status => ?_
    exact calls_store_bind (fun _ => trivial) fun samples => calls_pure _
  split
  · exact guarantees_pure trivial
  · split
    · exact (guarantees_enqueueRollbackCommand deploymentId s).bind
        (fun _ _ _ => guarantees_pure trivial)
    · exact guarantees_pure trivial

/-- A poll returns a command of the queue. -/
theorem guarantees_nextRunnerCommand
    (nodeId : String) (lastSequence : Option UInt64) (headers : Headers)
    (s : Shared) :
    Guarantees crates app recorded
      (app.nextRunnerCommand nodeId lastSequence headers) s
      (fun polled s' => ∀ envelope ∈ polled,
        SaysTruly crates recorded s' envelope.command.kind) := by
  unfold nextRunnerCommand
  refine (calls_requireRunnerToken app headers).guarantees_bind
    fun _ s₁ _ => ?_
  rw [← bind_pure (Handler.store _)]
  refine guarantees_store_bind fun s₂ _ htrue hnew => ⟨trivial, ?_⟩
  intro t polled hpolled
  refine guarantees_pure ?_
  intro envelope henvelope
  obtain ⟨-, hgrow⟩ := @commandContract_keeps crates app recorded
    (.store (.nextRunnerCommand nodeId (lastSequence.getD 0))) t s₂ htrue hnew
    trivial
  refine SaysTruly.grow (htrue.queued nodeId envelope ?_) hgrow
  have hspec := (nextRunnerCommand_spec nodeId (lastSequence.getD 0)
    s₂.store).1
  simp only [MemoryStore.exec, hspec] at hpolled
  obtain rfl := Except.ok.inj hpolled
  exact (List.dropWhile_sublist _).subset (List.mem_of_mem_head? henvelope)

/-- What a poll has returned is true. -/
def PollsTruly (crates : Crates) (recorded : Bytes → Prop) :
    (request : Request) → Except HttpError request.Reply → Shared → Prop
  | .nextRunnerCommand _ _ _, r, s => ∀ polled, r = .ok polled →
      ∀ envelope ∈ polled, SaysTruly crates recorded s envelope.command.kind
  | _, _, _ => True

theorem serve_guarantees (request : Request) (s : Shared) :
    Program.Guarantees (app.answer crates) (commandContract crates recorded)
      (app.serve crates request).run s (PollsTruly crates recorded request) := by
  have hdone : ∀ {α : Type} {handler : Handler α}
      {post : Except HttpError α → Shared → Prop},
      Guarantees crates app recorded handler s (fun _ _ => True) →
      (∀ r s', post r s') →
      Program.Guarantees (app.answer crates) (commandContract crates recorded)
        handler.run s post :=
    fun h hpost => h.mono (fun r s' _ => hpost r s')
  cases request with
  | compileDeployment headers req =>
      exact hdone (guarantees_compileDeployment headers req s)
        (fun _ _ => trivial)
  | queueRollback deploymentId =>
      exact hdone (guarantees_enqueueRollbackCommand deploymentId s)
        (fun _ _ => trivial)
  | advanceDeploymentRollout deploymentId =>
      exact hdone (guarantees_advanceDeploymentRollout deploymentId s)
        (fun _ _ => trivial)
  | nextRunnerCommand nodeId lastSequence headers =>
      exact guarantees_nextRunnerCommand nodeId lastSequence headers s
  | _ =>
      refine Program.All.guarantees commandContract_lawful
        (serve_makes crates app _) ?_ (fun _ _ _ => trivial)
      intro op s' hop
      cases op with
      | store op =>
          cases op with
          | recordArtifact | recordDeploymentPlan => cases hop
          | enqueueRunnerCommand nodeId envelope =>
              simp only [Request.Makes, Request.mayMake] at hop
              split at hop <;> cases hop
          | _ => trivial
      | _ => trivial

end AppState

/-! ## The ids of artifacts -/

def Call.drawsUuid : (op : Call) → op.Ret → List String
  | .uuid, id => [id]
  | _, _ => []

/-- An artifact uses its id. -/
def Call.usesArtifactId : Call → List String
  | .store (.recordArtifactBlob artifact _) => [artifact.id]
  | .store (.recordArtifact artifact) => [artifact.id]
  | _ => []

namespace AppState

/-- A compilation records its artifact under an id that it has drawn. -/
theorem affords_compileFresh_artifact (req : CompileDeploymentRequest) :
    Program.Affords Call.drawsUuid Call.usesArtifactId []
      (app.compileFresh crates req).run := by
  unfold compileFresh
  refine (calls_store ⟨rfl, fun _ => rfl⟩).affords_then fun profile => ?_
  refine (calls_store ⟨rfl, fun _ => rfl⟩).affords_then fun node => ?_
  refine (calls_store ⟨rfl, fun _ => rfl⟩).affords_then fun credentials => ?_
  refine Calls.affords_then calls_orStatus fun compiled => ?_
  refine Calls.affords_then calls_orStatus fun bytes => ?_
  refine ⟨List.nil_subset _, fun uuid => ?_⟩
  refine Calls.affords_then (m := Handler.now)
    (calls_perform ⟨rfl, fun _ => rfl⟩) fun now => ?_
  refine affords_then_of_calls (m := Handler.store _) ?_ fun _ => ?_
  · exact ⟨fun id hid => hid, fun r => by cases r <;> trivial⟩
  refine calls_perform_bind rfl fun createdAt => ?_
  refine calls_store_bind rfl fun _ => ?_
  refine calls_perform_bind rfl fun plannedAt => ?_
  refine calls_perform_bind rfl fun sequence => ?_
  refine Calls.bind ?_ fun _ => ?_
  · exact @calls_signAndEnqueue crates app (fun op => op.usesArtifactId = [])
      rfl rfl _ _ (fun _ _ => rfl) sequence
  refine calls_store_bind rfl fun auditCount => ?_
  exact calls_store_bind rfl fun outboxCount => calls_pure _

theorem affords_serve_artifact (request : Request) :
    Program.Affords Call.drawsUuid Call.usesArtifactId []
      (app.serve crates request).run := by
  cases request with
  | compileDeployment headers req =>
      have hfresh := @affords_compileFresh_artifact crates app req
      unfold serve compileDeployment
      refine Calls.affords_then (calls_optionalHeaderValue _ _) fun key => ?_
      cases key with
      | none => exact affords_then_of_calls hfresh (fun _ => calls_pure _)
      | some key =>
          refine (calls_store ⟨rfl, fun _ => rfl⟩).affords_then fun cached => ?_
          cases cached with
          | some body => trivial
          | none =>
              refine affords_then_of_calls hfresh fun response => ?_
              exact calls_store_bind rfl (fun _ => calls_pure _)
  | _ =>
      refine Calls.affords_of_unused (Program.All.mono
        (serve_makes crates app _) (fun op hop => ?_))
      cases op with
      | store op =>
          cases op with
          | recordArtifact | recordArtifactBlob => cases hop
          | _ => rfl
      | _ => rfl

end AppState

/-- The bytes that are recorded as an artifact. -/
def recordedBlob (e : LogEntry) : Option Bytes :=
  match e.op with
  | .store (.recordArtifactBlob _ bytes) => some bytes
  | _ => none

def recordedBytes (threads : List Serving) : List Bytes :=
  threads.flatMap (fun f => f.entries.filterMap recordedBlob)

theorem drawnBy_eq_drawnUuids (threads : List Serving) :
    Session.drawnBy (app.answer crates) Call.drawsUuid threads =
      drawnUuids threads := by
  have hdraws : ∀ e : Program.Entry Call Tick Shared,
      Call.drawsUuid e.op (app.answer crates e.op e.choice e.before).1 =
        (drawnUuid e).toList := by
    rintro ⟨op, t, s⟩
    cases op <;> rfl
  simp only [Session.drawnBy, drawnUuids, hdraws,
    List.filterMap_eq_flatMap_toList]

/-- The ids under which there are artifacts. -/
def artifactIds (s : Shared) : Set String :=
  {id | get s.store.artifacts id ≠ none}

/-- A call adds an artifact only under the id that it uses. -/
theorem artifactIds_answer
    (op : Call) (t : Tick) (s : Shared) (id : String)
    (h : id ∈ artifactIds (app.answer crates op t s).2) :
    id ∈ artifactIds s ∨ id ∈ op.usesArtifactId := by
  cases op with
  | store op =>
      have hinsert : ∀ artifact : Artifact,
          get (s.store.artifacts.insert artifact.id artifact) id ≠ none →
          get s.store.artifacts id ≠ none ∨ id ∈ [artifact.id] := by
        intro artifact hartifact
        rw [get_insert] at hartifact
        split_ifs at hartifact with hid
        · exact .inr (List.mem_singleton.mpr hid)
        · exact .inl hartifact
      by_cases hwrites : MemoryStore.writes .artifacts op = true
      · cases op with
        | recordArtifact artifact => exact hinsert artifact h
        | recordArtifactBlob artifact bytes =>
            simp only [AppState.answer, MemoryStore.exec,
              MemoryStore.recordArtifactBlob] at h
            split_ifs at h
            · exact .inl h
            · exact hinsert artifact h
        | _ => cases hwrites
      · have hsame := (MemoryStore.exec_frame crates app.tenantId
          (Bool.not_eq_true _ ▸ hwrites) t s.store :
            MemoryStore.SameTables .artifacts s.store _)
        have hids : artifactIds (app.answer crates (.store op) t s).2 =
            artifactIds s := by
          unfold artifactIds
          exact congrArg (fun table => {id | get table id ≠ none}) hsame.1
        exact .inl (hids ▸ h)
  | _ => exact .inl h

/-- If no identifier is drawn twice, artifacts are recorded under new ids. -/
theorem ServingRun.recordsNew
    {s : Shared} {threads : List Serving} (h : ServingRun crates app s threads)
    (huuids : (drawnUuids threads).Nodup) :
    ∀ f ∈ threads, ∀ e ∈ f.entries,
      RecordsNew (fun bytes => bytes ∈ recordedBytes threads) e.op e.before := by
  obtain ⟨-, hnew⟩ := Session.Run.unused
    (fun request => AppState.affords_serve_artifact request)
    (@artifactIds_answer crates app) h
    (by rw [drawnBy_eq_drawnUuids]; exact huuids)
    (fun id _ hid => hid rfl)
  intro f hf e he artifact bytes hop
  refine ⟨?_, ?_⟩
  · refine List.mem_flatMap.mpr ⟨f, hf, List.mem_filterMap.mpr ⟨e, he, ?_⟩⟩
    simp [recordedBlob, hop]
  · by_contra hsome
    refine hnew f hf e he artifact.id ?_ hsome
    simp [hop, Call.usesArtifactId]

/-! ## Polled commands -/

/-- The command that a poll has returned. -/
def polledCommand : Serving → Option SignedRunnerCommand
  | ⟨.nextRunnerCommand _ _ _, _, .done (.ok polled)⟩ => polled
  | _ => none

/-- In every run the tables are true, and so is what polls have returned. -/
theorem ServingRun.polled
    {s : Shared} {threads : List Serving} (h : ServingRun crates app s threads)
    (huuids : (drawnUuids threads).Nodup) :
    TrueTables crates (fun bytes => bytes ∈ recordedBytes threads) s ∧
      ∀ f ∈ threads, ∀ envelope ∈ polledCommand f,
        SaysTruly crates (fun bytes => bytes ∈ recordedBytes threads) s
          envelope.command.kind := by
  have hstart : TrueTables crates (fun bytes => bytes ∈ recordedBytes threads)
      .new := by
    refine ⟨?_, ?_, ?_, ?_, ?_⟩
    · intro sha256 bytes hbytes
      cases hbytes
    · intro id artifact hartifact
      cases hartifact
    · intro deploymentId plan hplan
      cases hplan
    · intro deploymentId pointer hpointer
      cases hpointer
    · intro nodeId envelope henvelope
      cases henvelope
  obtain ⟨htrue, hthreads⟩ := Session.Run.guarantees
    (C := commandContract crates (fun bytes => bytes ∈ recordedBytes threads))
    commandContract_lawful (fun request s => AppState.serve_guarantees request s)
    hstart h (h.recordsNew huuids)
  refine ⟨htrue, ?_⟩
  intro f hf envelope henvelope
  obtain ⟨s', hgrow, hguarantees⟩ := hthreads f hf
  unfold polledCommand at henvelope
  split at henvelope
  · exact (hguarantees _ rfl envelope henvelope).grow hgrow
  · cases henvelope

end ProxyControl
