import ProxyControl.ControlPlane.Runs
import ProxyControl.Storage.DeploymentTables

/-!
# Listing deployments amidst other requests

A listing reads the plans first and then the status of each of them, and other
requests may write between the two.  Since no call removes a deployment, every
listed one still has a status, and its readiness can be computed.
-/

namespace ProxyControl

open Calendar Effects HashTable MemoryStore
open AppState (listDeployments computeDeploymentReadiness)

/-- A call that is answered after some calls of other requests. -/
def AppState.amidst (crates : Crates) (app : AppState) :
    (op : Call) → List (Call × Tick) × Tick → Shared → op.Ret × Shared
  | op, (others, t), s =>
      app.answer crates op t
        (others.foldl (fun s call => (app.answer crates call.1 call.2 s).2) s)

/-- What a handler returns and leaves behind amidst other requests. -/
def Handler.runAmidst
    {α : Type} (crates : Crates) (app : AppState) (handler : Handler α)
    (env : ℕ → List (Call × Tick) × Tick) (s : Shared) :
    Except HttpError α × Shared :=
  Program.run (app.amidst crates) handler.run env s

/-- The tables are consistent, and the deployments `ids` are in them. -/
structure Listed (ids : List String) (s : Shared) : Prop where
  tables : DeploymentTables s.store
  known : ∀ d ∈ ids, s.store.deployments.containsKey d = true

variable {crates : Crates} {app : AppState} {ids : List String}

theorem Listed.answer
    {s : Shared} (h : Listed ids s) (op : Call) (t : Tick) :
    Listed ids (app.answer crates op t s).2 := by
  cases op with
  | store op =>
      constructor
      · exact h.tables.step (deploymentStep crates app.tenantId op t s.store)
      · intro d hd
        exact containsKey_exec crates app.tenantId op t (h.known d hd)
  | nextSequence | pushRunnerResult | runnerResultCount | now | uuid =>
      exact ⟨h.tables, h.known⟩

theorem Listed.others
    {s : Shared} (h : Listed ids s) (others : List (Call × Tick)) :
    Listed ids
      (others.foldl (fun s call => (app.answer crates call.1 call.2 s).2)
        s) := by
  induction others generalizing s with
  | nil => exact h
  | cons call others ih => exact ih (h.answer call.1 call.2)

/-! ## Handlers that do not fail -/

namespace Handler

variable {α β : Type}

/-- Amidst any other calls the handler succeeds, and ends as `post` says. -/
def Succeeds
    (crates : Crates) (app : AppState)
    (handler : Handler α) (post : α → Shared → Prop) (s : Shared) : Prop :=
  Program.Ensures (app.amidst crates) (fun _ => True) (fun _ => True)
    handler.run (fun r s' => ∃ a, r = .ok a ∧ post a s') s

theorem Succeeds.mono
    {handler : Handler α} {post post' : α → Shared → Prop} {s : Shared}
    (h : handler.Succeeds crates app post s)
    (hpost : ∀ a s', post a s' → post' a s') :
    handler.Succeeds crates app post' s := by
  refine Program.Ensures.mono h (fun _ h => h) ?_
  rintro r s' ⟨a, rfl, ha⟩
  exact ⟨a, rfl, hpost a s' ha⟩

theorem Succeeds.pure
    {a : α} {post : α → Shared → Prop} {s : Shared} (h : post a s) :
    (Pure.pure a : Handler α).Succeeds crates app post s :=
  ⟨a, rfl, h⟩

theorem Succeeds.bind
    {m : Handler α} {f : α → Handler β}
    {mid : α → Shared → Prop} {post : β → Shared → Prop} {s : Shared}
    (hm : m.Succeeds crates app mid s)
    (hf : ∀ a s', mid a s' → (f a).Succeeds crates app post s') :
    (m >>= f).Succeeds crates app post s := by
  change Program.Ensures _ _ _ (m.run >>= ExceptT.bindCont f) _ s
  rw [Program.ensures_bind]
  refine Program.Ensures.mono hm (fun _ h => h) ?_
  rintro r s' ⟨a, rfl, ha⟩
  exact hf a s' ha

/-- A store call that succeeds in every state in which `ids` are listed. -/
theorem Succeeds.store
    {op : StoreCall} {post : op.Value → Shared → Prop} {s : Shared}
    (hs : Listed ids s)
    (hok : ∀ t s', Listed ids s' →
      ∃ a, (exec crates app.tenantId op t s'.store).1 = .ok a ∧
        post a { s' with
          store := (exec crates app.tenantId op t s'.store).2 }) :
    (Handler.store op).Succeeds crates app post s := by
  rintro ⟨others, t⟩ -
  obtain ⟨a, ha, hpost⟩ :=
    hok t _ (@Listed.others crates app ids s hs others)
  refine ⟨trivial, a, ?_, hpost⟩
  exact congrArg (Except.mapError toHttpError) ha

/-- A listed deployment has a status in every later state. -/
theorem Succeeds.deploymentStatus
    {d : String} {s : Shared} (hs : Listed ids s) (hd : d ∈ ids) :
    (Handler.store (.deploymentStatus d)).Succeeds crates app
      (fun _ s' => Listed ids s') s := by
  refine .store hs ?_
  intro t s' hs'
  have hstatus := (hs'.tables.statuses d).trans (hs'.known d hd)
  obtain ⟨status, hget⟩ := (containsKey_iff _ _).mp hstatus
  exact ⟨status, by simp [exec, MemoryStore.deploymentStatus, okOr, hget], hs'⟩

theorem Succeeds.deploymentHealthChecks
    {d : String} {s : Shared} (hs : Listed ids s) (hd : d ∈ ids) :
    (Handler.store (.deploymentHealthChecks d)).Succeeds crates app
      (fun _ s' => Listed ids s') s := by
  refine .store hs ?_
  intro t s' hs'
  refine ⟨healthChecksOf d s'.store, ?_, hs'⟩
  simp only [exec, MemoryStore.deploymentHealthChecks, hs'.known d hd, if_true]

/-- A loop over listed deployments keeps their ids, one item for each. -/
theorem Succeeds.mapM
    (idOf : α → String) (idOf' : β → String) {f : α → Handler β}
    (hf : ∀ {ids : List String} (a : α) (s : Shared), Listed ids s →
      idOf a ∈ ids → (f a).Succeeds crates app
        (fun b s' => Listed ids s' ∧ idOf' b = idOf a) s)
    (l : List α) {s : Shared} (hs : Listed (l.map idOf) s) :
    (l.mapM f).Succeeds crates app
      (fun bs s' => Listed (l.map idOf) s' ∧ bs.map idOf' = l.map idOf) s := by
  suffices hloop : ∀ rest : List α, (∀ a ∈ rest, idOf a ∈ l.map idOf) →
      ∀ s, Listed (l.map idOf) s →
        (rest.mapM f).Succeeds crates app
          (fun bs s' => Listed (l.map idOf) s' ∧
            bs.map idOf' = rest.map idOf) s by
    exact hloop l (fun a ha => List.mem_map_of_mem ha) s hs
  intro rest
  induction rest with
  | nil =>
      intro _ s hs
      rw [List.mapM_nil]
      exact .pure ⟨hs, rfl⟩
  | cons a rest ih =>
      intro hrest s hs
      rw [List.mapM_cons]
      refine (hf a s hs (hrest a List.mem_cons_self)).bind ?_
      rintro b s' ⟨hs', hb⟩
      refine (ih (fun a' ha' => hrest a' (List.mem_cons_of_mem _ ha')) s'
        hs').bind ?_
      rintro bs s'' ⟨hs'', hbs⟩
      exact .pure ⟨hs'', by rw [List.map_cons, List.map_cons, hb, hbs]⟩

end Handler

/-! ## The listing and the readiness -/

theorem listDeployments_succeeds
    {s : Shared} (hs : DeploymentTables s.store) :
    listDeployments.Succeeds crates app
      (fun items s' =>
        Listed (items.map (fun item => item.deploymentId)) s') s := by
  have hstart : Listed [] s := ⟨hs, fun d hd => absurd hd List.not_mem_nil⟩
  have hplans :
      (Handler.store .listDeploymentPlans).Succeeds crates app
        (fun plans s' =>
          Listed (plans.map (fun plan => plan.deploymentId)) s') s := by
    refine .store hstart ?_
    intro t s' hs'
    refine ⟨_, rfl, hs'.tables, ?_⟩
    intro d hd
    obtain ⟨plan, hplan, rfl⟩ := List.mem_map.mp hd
    rw [List.mem_mergeSort, IterationOrder.mem_arrange, mem_values] at hplan
    obtain ⟨key, hkey⟩ := hplan
    have hid := hs'.tables.keyed key plan hkey
    exact (containsKey_iff _ _).mpr ⟨plan, hid ▸ hkey⟩
  refine hplans.bind ?_
  intro plans s' hs'
  refine (Handler.Succeeds.mapM (fun plan => plan.deploymentId)
    (fun item => item.deploymentId) ?_ plans hs').mono ?_
  · intro _ plan s'' hs'' hplan
    refine Handler.Succeeds.bind (.deploymentStatus hs'' hplan) ?_
    intro status t ht
    exact .pure ⟨ht, rfl⟩
  · rintro items s'' ⟨hs'', hitems⟩
    rw [hitems]
    exact hs''

theorem computeDeploymentReadiness_succeeds
    {s : Shared} (hs : Listed ids s) {d : String} (hd : d ∈ ids) :
    (computeDeploymentReadiness d).Succeeds crates app
      (fun _ s' => Listed ids s') s := by
  unfold computeDeploymentReadiness
  refine Handler.Succeeds.bind (.deploymentStatus hs hd) ?_
  intro status s' hs'
  refine Handler.Succeeds.bind (.deploymentHealthChecks hs' hd) ?_
  intro samples s'' hs''
  exact .pure hs''

theorem Handler.Succeeds.runAmidst
    {α : Type} {handler : Handler α} {post : α → Shared → Prop} {s : Shared}
    (h : handler.Succeeds crates app post s)
    (env : ℕ → List (Call × Tick) × Tick) :
    ∃ a, (handler.runAmidst crates app env s).1 = .ok a ∧
      post a (handler.runAmidst crates app env s).2 :=
  (Program.Ensures.run h (fun _ => trivial)).1

/--
After any sequence of calls the tables are consistent; and the listing, and
then the readiness of every listed deployment, never fail, whatever other
requests do in between.
-/
theorem deployment_tables_consistent
    (crates : Crates) (app : AppState) {s : Shared}
    (h : Reached crates app.tenantId s.store) :
    DeploymentTables s.store ∧
      ∀ env, ∃ items,
        (listDeployments.runAmidst crates app env s).1 = .ok items ∧
        ∀ item ∈ items, ∀ env', ∃ readiness,
          ((computeDeploymentReadiness item.deploymentId).runAmidst crates app
            env' (listDeployments.runAmidst crates app env s).2).1 =
              .ok readiness := by
  have htables := DeploymentTables.of_reached h
  refine ⟨htables, ?_⟩
  intro env
  obtain ⟨items, hitems, hlisted⟩ :=
    (@listDeployments_succeeds crates app s htables).runAmidst env
  refine ⟨items, hitems, ?_⟩
  intro item hitem env'
  have hmem := List.mem_map_of_mem (f := fun item => item.deploymentId) hitem
  obtain ⟨readiness, hready, -⟩ :=
    (@computeDeploymentReadiness_succeeds crates app _ _ hlisted _
      hmem).runAmidst env'
  exact ⟨readiness, hready⟩

/-- A deployment that succeeds on one node and is planned again on another. -/
def replannedCalls : List (StoreCall × Tick) :=
  [ (.recordDeploymentPlan
      ⟨"tenant", "dep", "node-a", "profile-a", "artifact-a", ⟨0, 0⟩⟩),
    (.recordDeploymentResult ⟨"dep", .succeeded, "applied", "sha", ⟨0, 0⟩⟩),
    (.recordDeploymentPlan
      ⟨"tenant", "dep", "node-b", "profile-b", "artifact-b", ⟨0, 0⟩⟩) ].map
    (fun call => (call, referenceTick 1700000000 "id"))

def replanned : Shared :=
  { Shared.new with
    store := execAll referenceCrates "tenant" replannedCalls .default }

theorem deployment_tables_consistent_replanned :
    (get replanned.store.deployments "dep").map (fun plan => plan.nodeId) =
        some "node-b" ∧
      (get replanned.store.deploymentSnapshots "dep").map
          (fun snapshot => snapshot.nodeId) = some "node-a" ∧
      DeploymentTables replanned.store := by
  refine ⟨by decide +kernel, by decide +kernel, ?_⟩
  exact (deployment_tables_consistent referenceCrates referenceApp
    (Reached.default.execAll replannedCalls)).1

end ProxyControl
