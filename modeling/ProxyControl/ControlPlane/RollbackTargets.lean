import ProxyControl.ControlPlane.Compilation
import ProxyControl.ControlPlane.Readiness

/-!
# The targets of rollback commands

A rollback pointer is chosen once, when its deployment is planned, among the
deployments that have succeeded on the node at that moment.  The deployment
that is being planned may itself be among them, if it was planned before.  The
command goes to the node of the last result, which need not be the node of the
last plan.

`Ledger` relates the tables of plans, pointers and artifacts to the log, as
long as no identifier is drawn twice.
-/

namespace ProxyControl

open Calendar Effects HashTable
open AppState (deploymentIdOf CompileDeploymentRequest)

/-! ## Plans in the log -/

/-- The call records this plan. -/
def Plans (plan : DeploymentPlanRecord) (e : LogEntry) : Prop :=
  e.op = .store (.recordDeploymentPlan plan)

/-- The last call that plans the deployment. -/
def lastPlan (deploymentId : String) (log : Log) : Option LogEntry :=
  (log.filter (plans deploymentId)).getLast?

/-- The newest succeeded deployment of the plan's node when it was planned. -/
def previousAt (plan : DeploymentPlanRecord) (e : LogEntry) :
    Option DeploymentPlanRecord :=
  MemoryStore.previousDeployment e.choice.order plan.nodeId e.before.store

/-- The predecessor that the call finds for the deployment that it plans. -/
def previousOf (e : LogEntry) : Option String :=
  match e.op with
  | .store (.recordDeploymentPlan plan) =>
      (previousAt plan e).map (fun previous => previous.deploymentId)
  | _ => none

/-- The identifier that the call draws. -/
def drawnId (e : LogEntry) : Option String :=
  match e.op with
  | .uuid => some (e.choice.uuid 0)
  | _ => none

/-- No identifier is drawn twice. -/
def FreshIds (log : Log) : Prop :=
  (log.filterMap drawnId).Nodup

/-- A plan that stands in a table under its id was recorded by a call. -/
def Logged (log : Log) (s : MemoryState) : Prop :=
  ∀ deploymentId plan, get s.deployments deploymentId = some plan →
    plan.deploymentId = deploymentId ∧ ∃ e ∈ log, Plans plan e

/-- The artifact of a plan, as it was recorded before the plan. -/
def PlannedWith
    (plan : DeploymentPlanRecord) (artifact : Artifact) (log : Log) : Prop :=
  ∃ e ∈ log, Plans plan e ∧
    get e.before.store.artifacts plan.compiledConfigArtifactId = some artifact

/-- What the log says about plans, pointers and artifacts. -/
structure Ledger (crates : Crates) (log : Log) (s : Shared) : Prop where
  logged : Logged log s.store
  loggedBefore : ∀ e ∈ log, ∀ plan, Plans plan e → Logged log e.before.store
  pointer : ∀ deploymentId pointer,
    get s.store.rollbackPointers deploymentId = some pointer →
    ∃ e plan, lastPlan deploymentId log = some e ∧ Plans plan e ∧
      get s.store.deployments deploymentId = some plan ∧
      pointer.previousDeploymentId =
        (previousAt plan e).map (fun previous => previous.deploymentId) ∧
      pointer.previousCompiledConfigArtifactId =
        (previousAt plan e).map
          (fun previous => previous.compiledConfigArtifactId)
  artifact : ∀ e ∈ log, ∀ plan, Plans plan e →
    ∃ artifact, PlannedWith plan artifact log ∧
      get s.store.artifacts plan.compiledConfigArtifactId = some artifact
  drawn : ∀ id artifact, get s.store.artifacts id = some artifact →
    id ∈ log.filterMap drawnId
  blob : ∀ sha256 bytes,
    get s.store.artifactBlobsBySha256 sha256 = some bytes →
    hexSha256 crates bytes = sha256

variable {crates : Crates} {app : AppState}

theorem Ledger.new : Ledger crates [] .new := by
  refine ⟨?_, ?_, ?_, ?_, ?_, ?_⟩
  · intro deploymentId plan h
    cases h
  · intro e he
    cases he
  · intro deploymentId pointer h
    cases h
  · intro e he
    cases he
  · intro id artifact h
    cases h
  · intro sha256 bytes h
    cases h

theorem Logged.mono
    {log : Log} {s : MemoryState} (h : Logged log s) (log' : Log) :
    Logged (log ++ log') s := by
  intro deploymentId plan hplan
  obtain ⟨hid, e, he, hlogged⟩ := h deploymentId plan hplan
  exact ⟨hid, e, List.mem_append_left _ he, hlogged⟩

theorem PlannedWith.mono
    {plan : DeploymentPlanRecord} {artifact : Artifact} {log : Log}
    (h : PlannedWith plan artifact log) (log' : Log) :
    PlannedWith plan artifact (log ++ log') := by
  obtain ⟨e, he, hplan, hartifact⟩ := h
  exact ⟨e, List.mem_append_left _ he, hplan, hartifact⟩

theorem Plans.previousOf
    {plan : DeploymentPlanRecord} {e : LogEntry} (h : Plans plan e) :
    previousOf e =
      (previousAt plan e).map (fun previous => previous.deploymentId) := by
  unfold Plans at h
  simp [ProxyControl.previousOf, h]

theorem Plans.plans
    {plan : DeploymentPlanRecord} {e : LogEntry} (h : Plans plan e) :
    plans plan.deploymentId e = true := by
  unfold Plans at h
  simp [ProxyControl.plans, h]

theorem exists_plans
    {deploymentId : String} {e : LogEntry}
    (h : plans deploymentId e = true) :
    ∃ plan, Plans plan e ∧ plan.deploymentId = deploymentId := by
  unfold plans at h
  split at h
  · rename_i plan hop
    exact ⟨plan, hop, of_decide_eq_true h⟩
  · cases h

theorem lastPlan_append_of_no_plan
    {deploymentId : String} (log : Log) {log' : Log}
    (h : ∀ e ∈ log', plans deploymentId e = false) :
    lastPlan deploymentId (log ++ log') = lastPlan deploymentId log := by
  have hnil : log'.filter (plans deploymentId) = [] := by
    rw [List.filter_eq_nil_iff]
    intro e he
    simp [h e he]
  rw [lastPlan, List.filter_append, hnil, List.append_nil, lastPlan]

/-! ## What keeps the ledger -/

/-- Calls that neither plan nor store an artifact. -/
theorem Ledger.quiet
    {log log' : Log} {s s' : Shared} (h : Ledger crates log s)
    (hlog' : ∀ e ∈ log', ∀ plan, ¬ Plans plan e)
    (hdeployments : s'.store.deployments = s.store.deployments)
    (hpointers : s'.store.rollbackPointers = s.store.rollbackPointers)
    (hartifacts : MemoryStore.SameTables .artifacts s.store s'.store) :
    Ledger crates (log ++ log') s' := by
  obtain ⟨hartifacts, hblobs⟩ := hartifacts
  have hold : ∀ {e : LogEntry} {plan}, e ∈ log ++ log' → Plans plan e →
      e ∈ log := by
    intro e plan he hplan
    exact (List.mem_append.mp he).resolve_right
      (fun he' => hlog' e he' plan hplan)
  refine ⟨?_, ?_, ?_, ?_, ?_, ?_⟩
  · unfold Logged
    rw [hdeployments]
    exact h.logged.mono log'
  · intro e he plan hplan
    exact (h.loggedBefore e (hold he hplan) plan hplan).mono log'
  · intro deploymentId pointer hpointer
    rw [hpointers] at hpointer
    obtain ⟨e, plan, hlast, hplan, hrecord, hprevious⟩ :=
      h.pointer deploymentId pointer hpointer
    refine ⟨e, plan, ?_, hplan, by rw [hdeployments]; exact hrecord, hprevious⟩
    rw [lastPlan_append_of_no_plan log ?_, hlast]
    intro e' he'
    rw [Bool.eq_false_iff]
    intro hplans
    obtain ⟨plan', hplan', -⟩ := exists_plans hplans
    exact hlog' e' he' plan' hplan'
  · intro e he plan hplan
    obtain ⟨artifact, hplanned, hartifact⟩ :=
      h.artifact e (hold he hplan) plan hplan
    exact ⟨artifact, hplanned.mono log', by rw [hartifacts]; exact hartifact⟩
  · intro id artifact hartifact
    rw [hartifacts] at hartifact
    rw [List.filterMap_append]
    exact List.mem_append_left _ (h.drawn id artifact hartifact)
  · intro sha256 bytes hbytes
    rw [hblobs] at hbytes
    exact h.blob sha256 bytes hbytes

/-! ### A compilation -/

/-- The call of a compilation that records its plan. -/
def planEntry
    (crates : Crates) (app : AppState) (c : Compilation) : LogEntry :=
  ⟨.store (.recordDeploymentPlan (c.record crates app)), c.env 7,
    c.stored crates app⟩

theorem plans_calls
    (c : Compilation) {plan : DeploymentPlanRecord} {e : LogEntry}
    (he : e ∈ c.calls crates app) (hplan : Plans plan e) :
    e = planEntry crates app c ∧ plan = c.record crates app := by
  simp only [Compilation.calls, List.mem_cons, List.not_mem_nil, or_false]
    at he
  unfold Plans at hplan
  rcases he with rfl | rfl | rfl | rfl | rfl | rfl | rfl | rfl | rfl | rfl |
    rfl | rfl
  all_goals first
    | (cases hplan; exact ⟨rfl, rfl⟩)
    | cases hplan

theorem planEntry_mem_calls (c : Compilation) :
    planEntry crates app c ∈ c.calls crates app := by
  simp [planEntry, Compilation.calls]

theorem lastPlan_append_calls
    (c : Compilation) (log : Log) (deploymentId : String) :
    lastPlan deploymentId (log ++ c.calls crates app) =
      if deploymentId = c.deploymentId crates then
        some (planEntry crates app c)
      else
        lastPlan deploymentId log := by
  split_ifs with hid
  · subst hid
    have hfilter :
        (c.calls crates app).filter (plans (c.deploymentId crates)) =
          [planEntry crates app c] := by
      simp [Compilation.calls, plans, planEntry, Compilation.record]
    rw [lastPlan, List.filter_append, hfilter, List.getLast?_concat]
  · refine lastPlan_append_of_no_plan log ?_
    intro e he
    rw [Bool.eq_false_iff]
    intro hplans
    obtain ⟨plan, hplan, rfl⟩ := exists_plans hplans
    obtain ⟨-, rfl⟩ := plans_calls c he hplan
    exact hid rfl

theorem drawn_calls (c : Compilation) :
    (c.env 3).uuid 0 ∈ (c.calls crates app).filterMap drawnId := by
  simp [Compilation.calls, drawnId]

/-- The look-ups and the bookkeeping of a compilation, call by call. -/
theorem Ledger.compilation
    {log : Log} (c : Compilation) (h : Ledger crates log c.before)
    (hfresh : (c.env 3).uuid 0 ∉ log.filterMap drawnId) :
    Ledger crates (log ++ c.calls crates app) (c.planned crates app) := by
  have hstored := @Compilation.stored_store crates app c
  have hartifacts :
      (c.planned crates app).store.artifacts =
        c.before.store.artifacts.insert ((c.env 3).uuid 0)
          (c.artifact crates app) :=
    congrArg MemoryState.artifacts hstored
  have hblobs :
      (c.planned crates app).store.artifactBlobsBySha256 =
        c.before.store.artifactBlobsBySha256.insert (hexSha256 crates c.bytes)
          c.bytes :=
    congrArg MemoryState.artifactBlobsBySha256 hstored
  have hdeployments :
      (c.stored crates app).store.deployments =
        c.before.store.deployments := by
    rw [hstored]
    rfl
  have hpointers :
      (c.stored crates app).store.rollbackPointers =
        c.before.store.rollbackPointers := by
    rw [hstored]
    rfl
  have hplans : Plans (c.record crates app) (planEntry crates app c) := rfl
  have hmem : planEntry crates app c ∈ log ++ c.calls crates app :=
    List.mem_append_right _ (planEntry_mem_calls c)
  have hlogged : Logged log (c.stored crates app).store := by
    unfold Logged
    rw [hdeployments]
    exact h.logged
  have hplanned :
      (c.planned crates app).store.deployments =
        c.before.store.deployments.insert (c.deploymentId crates)
          (c.record crates app) := by
    rw [← hdeployments]
    rfl
  have hpointed :
      (c.planned crates app).store.rollbackPointers =
        c.before.store.rollbackPointers.insert (c.deploymentId crates)
          (.new (c.record crates app)
            ((previousAt (c.record crates app) (planEntry crates app c)).map
              (fun previous => previous.deploymentId))
            ((previousAt (c.record crates app) (planEntry crates app c)).map
              (fun previous => previous.compiledConfigArtifactId))
            (c.env 7).now) := by
    rw [← hpointers]
    rfl
  refine ⟨?_, ?_, ?_, ?_, ?_, ?_⟩
  · intro deploymentId plan hplan
    rw [hplanned, get_insert] at hplan
    split_ifs at hplan with hid
    · obtain rfl := Option.some.inj hplan
      exact ⟨hid.symm, _, hmem, hplans⟩
    · exact h.logged.mono _ deploymentId plan hplan
  · intro e he plan hplan
    rcases List.mem_append.mp he with he | he
    · exact (h.loggedBefore e he plan hplan).mono _
    · obtain ⟨rfl, -⟩ := plans_calls c he hplan
      exact hlogged.mono _
  · intro deploymentId pointer hpointer
    rw [hpointed, get_insert] at hpointer
    rw [lastPlan_append_calls, hplanned, get_insert]
    by_cases hid : deploymentId = c.deploymentId crates
    · rw [if_pos hid] at hpointer
      obtain rfl := Option.some.inj hpointer
      rw [if_pos hid, if_pos hid]
      exact ⟨_, _, rfl, hplans, rfl, rfl, rfl⟩
    · rw [if_neg hid] at hpointer
      rw [if_neg hid, if_neg hid]
      exact h.pointer deploymentId pointer hpointer
  · -- an artifact recorded before keeps its identifier for itself
    intro e he plan hplan
    rw [hartifacts]
    rcases List.mem_append.mp he with he | he
    · obtain ⟨artifact, hplanned, hartifact⟩ := h.artifact e he plan hplan
      refine ⟨artifact, hplanned.mono _, ?_⟩
      rw [get_insert_of_ne _ _ ?_, hartifact]
      intro hid
      exact hfresh (hid ▸ h.drawn _ artifact hartifact)
    · obtain ⟨rfl, rfl⟩ := plans_calls c he hplan
      refine ⟨c.artifact crates app, ⟨_, hmem, hplans, ?_⟩, get_insert_self ..⟩
      change get (c.stored crates app).store.artifacts ((c.env 3).uuid 0) = _
      rw [show (c.stored crates app).store.artifacts = _ from hartifacts,
        get_insert_self]
  · intro id artifact hartifact
    rw [List.filterMap_append]
    rw [hartifacts, get_insert] at hartifact
    split_ifs at hartifact with hid
    · rw [hid]
      exact List.mem_append_right _ (drawn_calls c)
    · exact List.mem_append_left _ (h.drawn id artifact hartifact)
  · intro sha256 bytes hbytes
    rw [hblobs, get_insert] at hbytes
    split_ifs at hbytes with hsha256
    · rw [← Option.some.inj hbytes, hsha256]
    · exact h.blob sha256 bytes hbytes

/-! ### Every request -/

theorem FreshIds.of_append
    {log log' : Log} (h : FreshIds (log ++ log')) : FreshIds log := by
  unfold FreshIds at h ⊢
  rw [List.filterMap_append] at h
  exact h.of_append_left

/-- What is drawn later was not drawn before. -/
theorem FreshIds.not_mem
    {log log' : Log} (h : FreshIds (log ++ log')) {id : String}
    (hid : id ∈ log'.filterMap drawnId) :
    id ∉ log.filterMap drawnId := by
  unfold FreshIds at h
  rw [List.filterMap_append] at h
  exact fun hold => List.disjoint_of_nodup_append h hold hid

theorem IsQuiet.not_plans
    {e : LogEntry} (h : IsQuiet e.op) (plan : DeploymentPlanRecord) :
    ¬ Plans plan e := by
  intro hplan
  cases (h _ hplan).1

/-- Quiet calls that keep the records keep the ledger. -/
theorem Ledger.same
    {log log' : Log} {s s' : Shared} (h : Ledger crates log s)
    (hlog' : ∀ e ∈ log', IsQuiet e.op) (hs' : SameRecords s s') :
    Ledger crates (log ++ log') s' :=
  h.quiet (fun e he => (hlog' e he).not_plans) hs'.1.1 hs'.1.2.2.1 hs'.2

theorem Ledger.compile
    {log calls : Log} {s s' : Shared} {req : CompileDeploymentRequest}
    (h : Ledger crates log s)
    (hrecords : CompileRecords crates app req s calls s')
    (hfresh : FreshIds (log ++ calls)) :
    Ledger crates (log ++ calls) s' := by
  cases hrecords with
  | nothing hcalls hs' => exact h.same hcalls hs'
  | plan c before after hreq hs hbytes hbefore hafter hs' =>
      have hbefore' : Ledger crates (log ++ before) c.before := by
        rw [hs]
        exact h.same hbefore (.refl s)
      rw [← List.append_assoc, ← List.append_assoc] at hfresh ⊢
      have hcompiled := @Ledger.compilation crates app (log ++ before) c
        hbefore' (hfresh.of_append.not_mem (drawn_calls c))
      exact hcompiled.same hafter hs'

/-- Only a compilation plans a deployment or stores an artifact. -/
theorem Request.compiles_of_records
    {request : Request} {op : StoreCall}
    (hop : request.mayMake op = true)
    (hrecords : (∃ plan, op = .recordDeploymentPlan plan) ∨
      MemoryStore.writes .artifacts op = true) :
    ∃ headers req, request = .compileDeployment headers req := by
  cases request with
  | compileDeployment headers req => exact ⟨headers, req, rfl⟩
  | _ =>
      rcases hrecords with ⟨plan, rfl⟩ | hwrites
      · cases hop
      · cases op <;> first | (cases hwrites; done) | cases hop

/-- A call that plans nothing keeps plans and pointers. -/
theorem exec_keeps_plans
    {op : StoreCall} (tenantId : String) (t : Tick) (s : MemoryState)
    (h : ∀ plan, op ≠ .recordDeploymentPlan plan) :
    (MemoryStore.exec crates tenantId op t s).2.deployments = s.deployments ∧
      (MemoryStore.exec crates tenantId op t s).2.rollbackPointers =
        s.rollbackPointers := by
  by_cases hwrites : MemoryStore.writes .deployments op = true
  · cases op with
    | recordDeploymentPlan plan => exact absurd rfl (h plan)
    | recordDeploymentResult result =>
        simp only [MemoryStore.exec, MemoryStore.recordDeploymentResult]
        split <;> exact ⟨rfl, rfl⟩
    | recordDeploymentHealthCheck health =>
        simp only [MemoryStore.exec, MemoryStore.recordDeploymentHealthCheck]
        split
        · exact ⟨rfl, rfl⟩
        · split <;> exact ⟨rfl, rfl⟩
    | _ => cases hwrites
  · have hframe :=
      MemoryStore.exec_frame crates tenantId (Bool.not_eq_true _ ▸ hwrites) t s
    exact ⟨hframe.1, hframe.2.2.1⟩

theorem Ledger.serve
    {log : Log} {s : Shared} (request : Request)
    (h : FreshIds log → Ledger crates log s) :
    (app.serve crates request).Ensures crates app
      (fun _ log' s' => FreshIds log' → Ledger crates log' s') log s := by
  by_cases hcompile : ∃ headers req, request = .compileDeployment headers req
  · obtain ⟨headers, req, rfl⟩ := hcompile
    intro env hfresh
    have hrun := @compileDeployment_run crates app headers req env s
    exact (h hfresh.of_append).compile (CompileRun.records hrun) hfresh
  · refine ensures_of_makes (fun op t log s hop hs hfresh => ?_) h
    have hledger := hs hfresh.of_append
    cases op with
    | store op =>
        have hplan : ∀ plan, op ≠ .recordDeploymentPlan plan :=
          fun plan hplan =>
            hcompile (Request.compiles_of_records hop (.inl ⟨plan, hplan⟩))
        have hartifacts : MemoryStore.writes .artifacts op = false := by
          rw [Bool.eq_false_iff]
          exact fun hwrites =>
            hcompile (Request.compiles_of_records hop (.inr hwrites))
        obtain ⟨hdeployments, hpointers⟩ :=
          @exec_keeps_plans crates op app.tenantId t s.store hplan
        refine hledger.quiet ?_ hdeployments hpointers
          (MemoryStore.exec_frame crates app.tenantId hartifacts t s.store)
        intro e he plan hplans
        obtain rfl := List.mem_singleton.mp he
        exact hplan plan (Call.store.inj hplans)
    | nextSequence | pushRunnerResult | runnerResultCount | now | uuid =>
        refine hledger.quiet ?_ rfl rfl (MemoryStore.SameTables.refl _ _)
        intro e he plan hplans
        obtain rfl := List.mem_singleton.mp he
        cases hplans

theorem History.ledger
    {history : List Exchange} {s : Shared}
    (h : History crates app history s)
    (hfresh : FreshIds (logOf crates app history)) :
    Ledger crates (logOf crates app history) s :=
  @History.invariant crates app
    (fun log s => FreshIds log → Ledger crates log s) (fun _ => .new)
    (fun request _ _ hs => Ledger.serve request hs) history s h hfresh

/-! ## Queued rollbacks -/

/-- The call queues this rollback command. -/
def QueuesRollback
    (nodeId deploymentId rollbackTo sha256 : String) (e : LogEntry) : Prop :=
  ∃ envelope, e.op = .store (.enqueueRunnerCommand nodeId envelope) ∧
    envelope.command.kind =
      .rollbackDeployment deploymentId rollbackTo sha256

/-- The tables from which a rollback command is put together. -/
structure RollbackParts
    (crates : Crates) (s : MemoryState)
    (nodeId deploymentId rollbackTo sha256 : String) : Prop where
  pointer : ∃ pointer artifactId bytes,
    get s.rollbackPointers deploymentId = some pointer ∧
    pointer.previousDeploymentId = some rollbackTo ∧
    pointer.previousCompiledConfigArtifactId = some artifactId ∧
    MemoryStore.artifactBytes artifactId s = .ok bytes ∧
    sha256 = hexSha256 crates bytes
  node :
    (get s.deploymentSnapshots deploymentId).map
      (fun snapshot => snapshot.nodeId) = some nodeId

/-- What the call queues, if it queues a rollback, is put together from `s`. -/
def TakenFrom (crates : Crates) (s : MemoryState) (e : LogEntry) : Prop :=
  ∀ nodeId deploymentId rollbackTo sha256,
    QueuesRollback nodeId deploymentId rollbackTo sha256 e →
    RollbackParts crates s nodeId deploymentId rollbackTo sha256

theorem takenFrom_of_not_enqueue
    {s : MemoryState} {e : LogEntry}
    (h : ∀ nodeId envelope,
      e.op ≠ .store (.enqueueRunnerCommand nodeId envelope)) :
    TakenFrom crates s e := by
  rintro nodeId deploymentId rollbackTo sha256 ⟨envelope, hop, -⟩
  exact absurd hop (h nodeId envelope)

theorem signAndEnqueue_takenFrom
    {s : MemoryState} {nodeId deploymentId rollbackTo sha256 : String}
    (h : RollbackParts crates s nodeId deploymentId rollbackTo sha256)
    (sequence : UInt64) (env : ℕ → Tick) (s' : Shared) :
    Handler.EachCall crates app (TakenFrom crates s)
      (app.signAndEnqueue crates nodeId sequence
        (.rollbackDeployment deploymentId rollbackTo sha256)) env s' := by
  refine Handler.eachCall_perform_bind (takenFrom_of_not_enqueue nofun) ?_
  refine Handler.eachCall_perform_bind (takenFrom_of_not_enqueue nofun) ?_
  refine Handler.eachCall_orStatus_bind ?_
  intro envelope henvelope
  refine Handler.eachCall_store ?_
  rintro nodeId' deploymentId' rollbackTo' sha256' ⟨envelope', hop, hkind⟩
  cases hop
  rw [SignedRunnerCommand.command_of_sign
    (Handler.mapError_eq_ok henvelope)] at hkind
  cases hkind
  exact h

theorem eachCall_requirePrevious_bind
    {β : Type} {P : LogEntry → Prop} {env : ℕ → Tick} {s : Shared}
    {value : Option String} {message : String} {f : String → Handler β}
    (hf : ∀ a, value = some a → Handler.EachCall crates app P (f a) env s) :
    Handler.EachCall crates app P
      (AppState.requirePrevious value message >>= f) env s := by
  cases value with
  | some a => exact hf a rfl
  | none => exact Handler.eachCall_throw _

/-- The handler reads the pointer, the snapshot and the artifact. -/
theorem enqueueRollbackCommand_takenFrom
    (deploymentId : String) (env : ℕ → Tick) (s : Shared) :
    Handler.EachCall crates app (TakenFrom crates s.store)
      (app.enqueueRollbackCommand crates deploymentId) env s := by
  refine Handler.eachCall_store_bind (takenFrom_of_not_enqueue nofun) ?_
  intro pointer env' hpointer
  refine eachCall_requirePrevious_bind ?_
  intro rollbackTo hrollbackTo
  refine eachCall_requirePrevious_bind ?_
  intro artifactId hartifactId
  refine Handler.eachCall_store_bind (takenFrom_of_not_enqueue nofun) ?_
  intro snapshot env' hsnapshot
  refine Handler.eachCall_store_bind (takenFrom_of_not_enqueue nofun) ?_
  intro bytes env' hbytes
  refine Handler.eachCall_perform_bind (takenFrom_of_not_enqueue nofun) ?_
  have hparts :
      RollbackParts crates s.store snapshot.nodeId deploymentId rollbackTo
        (hexSha256 crates bytes) := by
    refine ⟨⟨pointer, artifactId, bytes, okOr_eq_ok hpointer, hrollbackTo,
      hartifactId, hbytes, rfl⟩, ?_⟩
    rw [show get s.store.deploymentSnapshots deploymentId = some snapshot from
      okOr_eq_ok hsnapshot]
    rfl
  exact (signAndEnqueue_takenFrom hparts _ _ _).bind
    (fun _ _ _ _ => Handler.eachCall_pure _)

theorem advanceDeploymentRollout_takenFrom
    (deploymentId : String) (env : ℕ → Tick) (s : Shared) :
    Handler.EachCall crates app (TakenFrom crates s.store)
      (app.advanceDeploymentRollout crates deploymentId) env s := by
  unfold AppState.advanceDeploymentRollout AppState.computeDeploymentReadiness
  rw [bind_assoc]
  refine Handler.eachCall_store_bind (takenFrom_of_not_enqueue nofun) ?_
  intro status env' hstatus
  rw [bind_assoc]
  refine Handler.eachCall_store_bind (takenFrom_of_not_enqueue nofun) ?_
  intro samples env' hsamples
  rw [pure_bind]
  split
  · exact Handler.eachCall_pure _
  · split
    · exact (enqueueRollbackCommand_takenFrom deploymentId _ _).bind
        (fun _ _ _ _ => Handler.eachCall_pure _)
    · exact Handler.eachCall_pure _

/-- Only the two rollback routes queue rollbacks. -/
theorem Exchange.takenFrom
    (x : Exchange) : ∀ e ∈ x.calls crates app, TakenFrom crates x.before.store e := by
  obtain ⟨request, env, s⟩ := x
  have hmakes := Program.All.entries (app.answer crates)
    (AppState.serve_makes crates app request) env s
  cases request with
  | queueRollback deploymentId =>
      exact enqueueRollbackCommand_takenFrom deploymentId env s
  | advanceDeploymentRollout deploymentId =>
      exact advanceDeploymentRollout_takenFrom deploymentId env s
  | _ =>
      rintro e he nodeId deploymentId rollbackTo sha256 ⟨envelope, hop, hkind⟩
      have hmake := hmakes e he
      simp [hop, Request.Makes, Request.mayMake, hkind] at hmake

/-! ## Rollbacks that go somewhere good -/

/-- The rollback goes elsewhere, to a deployment that was good. -/
structure GoodRollback
    (nodeId deploymentId rollbackTo sha256 : String) (log : Log) : Prop where
  elsewhere : rollbackTo ≠ deploymentId
  good : ∃ e target artifact, lastPlan deploymentId log = some e ∧
    get e.before.store.deployments rollbackTo = some target ∧
    target.nodeId = nodeId ∧
    MemoryStore.hasSucceeded e.before.store rollbackTo = true ∧
    PlannedWith target artifact log ∧
    sha256 = artifact.sha256

/--
The deployment was not its own predecessor when it was planned, and its last
result came from the node of its last plan.
-/
structure RollbackSound
    (deploymentId : String) (log : Log) (s : MemoryState) : Prop where
  notItself : (lastPlan deploymentId log).bind previousOf ≠ some deploymentId
  sameNode :
    (get s.deploymentSnapshots deploymentId).map
        (fun snapshot => snapshot.nodeId) =
      (get s.deployments deploymentId).map (fun plan => plan.nodeId)

theorem previousAt_mem
    {log : Log} {e : LogEntry} {plan previous : DeploymentPlanRecord}
    (hlogged : Logged log e.before.store)
    (h : previousAt plan e = some previous) :
    get e.before.store.deployments previous.deploymentId = some previous ∧
      previous.nodeId = plan.nodeId ∧
      MemoryStore.hasSucceeded e.before.store previous.deploymentId = true := by
  have hmem := maxByKey_mem h
  simp only [List.mem_filter, IterationOrder.mem_arrange, Bool.and_eq_true,
    decide_eq_true_eq] at hmem
  obtain ⟨hvalue, hnode, hsucceeded⟩ := hmem
  obtain ⟨deploymentId, hget⟩ := (mem_values _ _).mp hvalue
  obtain ⟨rfl, -⟩ := hlogged deploymentId previous hget
  exact ⟨hget, hnode, hsucceeded⟩

/-- The bytes of a logged artifact have the digest of the artifact. -/
theorem Ledger.artifactBytes
    {log : Log} {s : Shared} (h : Ledger crates log s)
    {plan : DeploymentPlanRecord} {e : LogEntry} (he : e ∈ log)
    (hplan : Plans plan e) {bytes : Bytes}
    (hbytes : MemoryStore.artifactBytes plan.compiledConfigArtifactId s.store =
      .ok bytes) :
    ∃ artifact, PlannedWith plan artifact log ∧
      hexSha256 crates bytes = artifact.sha256 := by
  obtain ⟨artifact, hplanned, hartifact⟩ := h.artifact e he plan hplan
  refine ⟨artifact, hplanned, h.blob _ _ ?_⟩
  simp only [MemoryStore.artifactBytes, hartifact, okOr] at hbytes
  exact okOr_eq_ok hbytes

/-- What a queued rollback names, in the words of the log. -/
theorem Ledger.rollback
    {log : Log} {s : Shared} (h : Ledger crates log s)
    {nodeId deploymentId rollbackTo sha256 : String}
    (hparts : RollbackParts crates s.store nodeId deploymentId rollbackTo
      sha256) :
    ∃ e plan target artifact, lastPlan deploymentId log = some e ∧
      Plans plan e ∧
      get s.store.deployments deploymentId = some plan ∧
      previousAt plan e = some target ∧
      target.deploymentId = rollbackTo ∧
      get e.before.store.deployments rollbackTo = some target ∧
      target.nodeId = plan.nodeId ∧
      MemoryStore.hasSucceeded e.before.store rollbackTo = true ∧
      PlannedWith target artifact log ∧
      sha256 = artifact.sha256 := by
  obtain ⟨pointer, artifactId, bytes, hpointer, hto, hartifactId, hbytes,
    rfl⟩ := hparts.pointer
  obtain ⟨e, plan, hlast, hplan, hrecord, hprevious, hprevArtifact⟩ :=
    h.pointer deploymentId pointer hpointer
  rw [hto] at hprevious
  rw [hartifactId] at hprevArtifact
  obtain ⟨target, htarget, rfl⟩ := Option.map_eq_some_iff.mp hprevious.symm
  rw [htarget] at hprevArtifact
  obtain rfl := Option.some.inj hprevArtifact
  have he : e ∈ log := List.mem_of_mem_filter (List.mem_of_getLast? hlast)
  have hlogged := h.loggedBefore e he plan hplan
  obtain ⟨hget, hnode, hsucceeded⟩ := previousAt_mem hlogged htarget
  obtain ⟨-, e', he', hplan'⟩ := hlogged _ _ hget
  obtain ⟨artifact, hartifact, hsha⟩ := h.artifactBytes he' hplan' hbytes
  exact ⟨e, plan, target, artifact, hlast, hplan, hrecord, htarget, rfl, hget,
    hnode, hsucceeded, hartifact, hsha⟩

/--
A queued rollback is good exactly when its deployment was not its own
predecessor and has its last result from the node of its last plan.
-/
theorem rollback_good_iff
    (crates : Crates) (app : AppState)
    {history : List Exchange} {s : Shared}
    (h : History crates app history s)
    (hfresh : FreshIds (logOf crates app history))
    (request : Request) (env : ℕ → Tick) {e : LogEntry}
    (he : e ∈ Exchange.calls crates app ⟨request, env, s⟩)
    {nodeId deploymentId rollbackTo sha256 : String}
    (hqueues : QueuesRollback nodeId deploymentId rollbackTo sha256 e) :
    GoodRollback nodeId deploymentId rollbackTo sha256
        (logOf crates app history) ↔
      RollbackSound deploymentId (logOf crates app history) s.store := by
  have hparts :=
    Exchange.takenFrom ⟨request, env, s⟩ e he _ _ _ _ hqueues
  obtain ⟨e', plan, target, artifact, hlast, hplan, hrecord, htarget,
    htargetId, hget, hnode, hsucceeded, hartifact, hsha⟩ :=
    (h.ledger hfresh).rollback hparts
  have hprevious :
      (lastPlan deploymentId (logOf crates app history)).bind previousOf =
        some rollbackTo := by
    rw [hlast, Option.bind_some, hplan.previousOf, htarget, Option.map_some,
      htargetId]
  constructor
  · rintro ⟨helsewhere, e'', target', artifact', hlast', hget', hnode', -⟩
    obtain rfl := Option.some.inj (hlast.symm.trans hlast')
    obtain rfl := Option.some.inj (hget.symm.trans hget')
    refine ⟨?_, ?_⟩
    · rw [hprevious]
      exact fun heq => helsewhere (Option.some.inj heq)
    · rw [hparts.node, hrecord, Option.map_some, ← hnode, hnode']
  · rintro ⟨hne, hsame⟩
    rw [hprevious] at hne
    refine ⟨fun heq => hne (congrArg some heq), e', target, artifact, hlast,
      hget, ?_, hsucceeded, hartifact, hsha⟩
    rw [hparts.node, hrecord, Option.map_some, ← hnode] at hsame
    exact (Option.some.inj hsame).symm

/-! ### A deployment that is its own predecessor -/

/-- The rollback that the call queues: node, deployment, target and digest. -/
def rollbackOf (e : LogEntry) : Option (String × String × String × String) :=
  match e.op with
  | .store (.enqueueRunnerCommand nodeId envelope) =>
      match envelope.command.kind with
      | .rollbackDeployment deploymentId rollbackTo sha256 =>
          some (nodeId, deploymentId, rollbackTo, sha256)
      | _ => none
  | _ => none

theorem queuesRollback_of_rollbackOf
    {e : LogEntry} {nodeId deploymentId rollbackTo sha256 : String}
    (h : rollbackOf e = some (nodeId, deploymentId, rollbackTo, sha256)) :
    QueuesRollback nodeId deploymentId rollbackTo sha256 e := by
  unfold rollbackOf at h
  split at h
  · rename_i envelope hop
    split at h
    · rename_i hkind
      cases h
      exact ⟨envelope, hop, hkind⟩
    · cases h
  · cases h

/-- The rollback of a deployment as it is asked for after some requests. -/
def rollbackAfter
    (requests : List (Request × (ℕ → Tick))) (deploymentId : String) :
    Exchange where
  request := .queueRollback deploymentId
  env := referenceEnv 1700000900 "z"
  before := referenceApp.serveAll referenceCrates requests .new

/-- The command that this rollback queues. -/
def commandAfter
    (requests : List (Request × (ℕ → Tick))) (deploymentId : String) :
    Option (String × String × String × String) :=
  ((rollbackAfter requests deploymentId).calls referenceCrates
    referenceApp).findSome? rollbackOf

theorem exists_command
    {requests : List (Request × (ℕ → Tick))} {deploymentId : String}
    {test : String × String × String × String → Bool}
    (h : (commandAfter requests deploymentId).any test = true) :
    ∃ nodeId deploymentId' rollbackTo sha256,
      ∃ e ∈ (rollbackAfter requests deploymentId).calls referenceCrates
        referenceApp,
        QueuesRollback nodeId deploymentId' rollbackTo sha256 e ∧
        test (nodeId, deploymentId', rollbackTo, sha256) = true := by
  obtain ⟨⟨nodeId, deploymentId', rollbackTo, sha256⟩, hcommand, htest⟩ :=
    (Option.any_eq_true _ _).mp h
  obtain ⟨e, he, hrollback⟩ := List.exists_of_findSome?_eq_some hcommand
  exact ⟨nodeId, deploymentId', rollbackTo, sha256, e, he,
    queuesRollback_of_rollbackOf hrollback, htest⟩

/-- What the profile compiles to when it has a client. -/
def deploymentWithClient : String :=
  "dep-9ae27ea6beee"

/-- A first deployment that succeeds, a second one, and a result of it. -/
def twoRollouts : List (Request × (ℕ → Tick)) :=
  firstRollout ++
    [ (.createClient ⟨"client", "profile", "client", some "uuid-client", none,
        none, none, none, none⟩, referenceEnv 1700000500 "f"),
      (.compileDeployment [] ⟨"profile", "node-a"⟩,
        referenceEnv 1700000600 "g"),
      (.submitRunnerResult "node-a" runnerHeaders
        (resultOn deploymentWithClient .failed),
        referenceEnv 1700000700 "h") ]

instance (log : Log) : Decidable (FreshIds log) :=
  inferInstanceAs (Decidable (List.Nodup _))

instance (deploymentId : String) (log : Log) (s : MemoryState) :
    Decidable (RollbackSound deploymentId log s) :=
  decidable_of_iff
    ((lastPlan deploymentId log).bind previousOf ≠ some deploymentId ∧
      (get s.deploymentSnapshots deploymentId).map
          (fun snapshot => snapshot.nodeId) =
        (get s.deployments deploymentId).map (fun plan => plan.nodeId))
    ⟨fun h => ⟨h.1, h.2⟩, fun h => ⟨h.1, h.2⟩⟩

theorem twoRollouts_sound :
    FreshIds (rolloutLog twoRollouts) ∧
      (commandAfter twoRollouts deploymentWithClient).any
        (fun command => command.2.1 = deploymentWithClient) = true ∧
      RollbackSound deploymentWithClient (rolloutLog twoRollouts)
        (referenceApp.serveAll referenceCrates twoRollouts .new).store := by
  decide +kernel

theorem secondRollout_commands :
    FreshIds (rolloutLog secondRollout) ∧
      (commandAfter secondRollout firstDeployment).any
        (fun command => command.2.1 = command.2.2.1) = true := by
  decide +kernel

/-- The second deployment is rolled back to the first one. -/
theorem rollback_good_iff_second :
    ∃ nodeId rollbackTo sha256,
      GoodRollback nodeId deploymentWithClient rollbackTo sha256
        (rolloutLog twoRollouts) := by
  obtain ⟨hfresh, hcommand, hsound⟩ := twoRollouts_sound
  obtain ⟨nodeId, deploymentId, rollbackTo, sha256, e, he, hqueues, hid⟩ :=
    exists_command hcommand
  obtain rfl := of_decide_eq_true hid
  refine ⟨nodeId, rollbackTo, sha256, ?_⟩
  exact (rollback_good_iff referenceCrates referenceApp
    (History.new.serveAll twoRollouts) hfresh _ _ he hqueues).mpr hsound

/-- The first deployment, planned again, is rolled back to itself. -/
theorem rollback_to_itself :
    ¬ ∀ (crates : Crates) (app : AppState)
      (history : List Exchange) (s : Shared),
      History crates app history s →
      FreshIds (logOf crates app history) →
      ∀ (request : Request) (env : ℕ → Tick),
        ∀ e ∈ Exchange.calls crates app ⟨request, env, s⟩,
          ∀ nodeId deploymentId rollbackTo sha256,
            QueuesRollback nodeId deploymentId rollbackTo sha256 e →
            GoodRollback nodeId deploymentId rollbackTo sha256
              (logOf crates app history) := by
  intro h
  obtain ⟨hfresh, hcommand⟩ := secondRollout_commands
  obtain ⟨nodeId, deploymentId, rollbackTo, sha256, e, he, hqueues, hid⟩ :=
    exists_command hcommand
  have hgood := h referenceCrates referenceApp _ _
    (History.new.serveAll secondRollout) hfresh _ _ e he _ _ _ _ hqueues
  exact hgood.elsewhere (of_decide_eq_true hid).symm

end ProxyControl
