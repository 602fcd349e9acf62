import ProxyControl.Storage.DeploymentTables
import ProxyControl.Storage.PostgresRuns

/-!
# The host of a subscription

Both stores take the host of a subscription from a node that they pick without
looking at the deployments: `MemoryStore` the one that its table lists first,
`PostgresStore` the one that was registered first.  So in every reachable state
the host serves the profile exactly if that node has the host of a node on which a
deployment of the profile has succeeded.
-/

namespace ProxyControl

open Calendar Effects HashTable

/-! ## The memory store -/

namespace MemoryStore

/-- A deployment of the profile on the node has succeeded. -/
def ServedBy (profileId nodeId : String) (s : MemoryState) : Prop :=
  ∃ plan ∈ s.deployments.values, plan.profileId = profileId ∧
    plan.nodeId = nodeId ∧
      deploymentStatus plan.deploymentId s = .ok .succeeded

/-- The host of a node on which a deployment of the profile has succeeded. -/
def IsServingHost (profileId host : String) (s : MemoryState) : Prop :=
  ∃ node ∈ s.nodes.values, node.host = host ∧ ServedBy profileId node.nodeId s

/--
A deployment of the profile has succeeded on a node that has the host of the one
that the table of nodes lists first.
-/
def ListedFirstServes
    (order : IterationOrder) (profileId : String) (s : MemoryState) : Prop :=
  ∃ first rest, order.arrange s.nodes.values = first :: rest ∧
    ∃ deploymentId plan server,
      get s.deployments deploymentId = some plan ∧ plan.profileId = profileId ∧
        get s.deploymentStatuses deploymentId = some .succeeded ∧
        get s.nodes plan.nodeId = some server ∧ server.host = first.host

/-- The host is that of the node that the table lists first. -/
theorem deployedProfile_host
    {now : DateTime} {order : IterationOrder} {profileId : String}
    {s : MemoryState} {deployed : DeployedProfile}
    (h : deployedProfileForSubscription now order profileId s = .ok deployed) :
    ∃ first rest, order.arrange s.nodes.values = first :: rest ∧
      deployed.host = first.host := by
  unfold deployedProfileForSubscription at h
  cases hprofile : profile profileId s with
  | error e =>
      rw [hprofile] at h
      cases h
  | ok record =>
      rw [hprofile] at h
      cases hnode : (order.arrange s.nodes.values).head? with
      | none =>
          rw [hnode] at h
          cases h
      | some node =>
          rw [hnode] at h
          cases hinbound : record.ir.inbounds.head? with
          | none =>
              simp only [bind, Except.bind, okOr, hinbound] at h
              cases h
          | some inbound =>
              simp only [bind, Except.bind, okOr, hinbound] at h
              obtain rfl := Except.ok.inj h
              obtain ⟨rest, hrest⟩ := List.head?_eq_some_iff.mp hnode
              exact ⟨node, rest, hrest, rfl⟩

/-- A node is stored under its id. -/
def NodesKeyed (s : MemoryState) : Prop :=
  ∀ nodeId node, get s.nodes nodeId = some node → node.nodeId = nodeId

theorem NodesKeyed.insert
    {s s' : MemoryState} (h : NodesKeyed s) {nodeId : String} {node : NodeRecord}
    (hid : node.nodeId = nodeId) (hnodes : s'.nodes = s.nodes.insert nodeId node) :
    NodesKeyed s' := by
  intro other record hrecord
  rw [hnodes, get_insert] at hrecord
  split_ifs at hrecord with hother
  · rw [← Option.some.inj hrecord, hid, hother]
  · exact h other record hrecord

theorem NodesKeyed.exec
    {crates : Crates} {tenantId : String} {s : MemoryState} (h : NodesKeyed s)
    (op : StoreCall) (t : Tick) :
    NodesKeyed (MemoryStore.exec crates tenantId op t s).2 := by
  have hframe : writes .nodes op = false →
      NodesKeyed (MemoryStore.exec crates tenantId op t s).2 := by
    intro hwrites
    have hnodes : (MemoryStore.exec crates tenantId op t s).2.nodes = s.nodes :=
      exec_frame crates tenantId hwrites t s
    rwa [NodesKeyed, hnodes]
  cases op with
  | registerNode node => exact h.insert rfl rfl
  | registerNodeWithRegistrationToken node token =>
      simp only [MemoryStore.exec, registerNodeWithRegistrationToken]
      split
      · exact h
      · split_ifs
        · exact h
        · exact h.insert rfl rfl
  | updateNodeRunnerResultPublicKey nodeId publicKeyHex =>
      simp only [MemoryStore.exec, updateNodeRunnerResultPublicKey]
      split
      · exact h
      · rename_i node hnode
        refine h.insert ?_ rfl
        exact h nodeId node hnode
  | _ => exact hframe rfl

theorem NodesKeyed.of_reached
    {crates : Crates} {tenantId : String} {s : MemoryState}
    (h : Reached crates tenantId s) :
    NodesKeyed s := by
  induction h with
  | default =>
      intro nodeId node hnode
      cases hnode
  | call _ op t ih => exact ih.exec op t

theorem deploymentStatus_eq_ok
    {deploymentId : String} {s : MemoryState} {status : DeploymentStatus} :
    deploymentStatus deploymentId s = .ok status ↔
      get s.deploymentStatuses deploymentId = some status := by
  unfold deploymentStatus
  cases get s.deploymentStatuses deploymentId <;> simp [okOr]

/-- Where plans and nodes are stored under their ids, hosts are found by them. -/
theorem isServingHost_iff
    {crates : Crates} {tenantId profileId host : String} {s : MemoryState}
    (h : Reached crates tenantId s) :
    IsServingHost profileId host s ↔
      ∃ deploymentId plan server,
        get s.deployments deploymentId = some plan ∧
          plan.profileId = profileId ∧
          get s.deploymentStatuses deploymentId = some .succeeded ∧
          get s.nodes plan.nodeId = some server ∧ server.host = host := by
  have hplans := (DeploymentTables.of_reached h).keyed
  have hnodes := NodesKeyed.of_reached h
  constructor
  · rintro ⟨server, hserver, hhost, plan, hplan, hprofile, hnode, hstatus⟩
    obtain ⟨nodeId, hserver⟩ := (mem_values _ _).mp hserver
    obtain ⟨deploymentId, hplan⟩ := (mem_values _ _).mp hplan
    rw [deploymentStatus_eq_ok, hplans deploymentId plan hplan] at hstatus
    rw [hnodes nodeId server hserver] at hnode
    exact ⟨deploymentId, plan, server, hplan, hprofile, hstatus,
      hnode.symm ▸ hserver, hhost⟩
  · rintro ⟨deploymentId, plan, server, hplan, hprofile, hstatus, hserver, hhost⟩
    refine ⟨server, (mem_values _ _).mpr ⟨_, hserver⟩, hhost, plan,
      (mem_values _ _).mpr ⟨_, hplan⟩, hprofile, (hnodes _ _ hserver).symm, ?_⟩
    rwa [deploymentStatus_eq_ok, hplans deploymentId plan hplan]

end MemoryStore

/-! ## The Postgres store -/

namespace PostgresStore

/-- A deployment of the profile on the node has succeeded. -/
def ServedBy (profileId nodeId : String) (db : Database) : Prop :=
  ∃ row ∈ db.deployments, ∃ plan ∈ joinDeployment db row,
    plan.profileId = profileId ∧ plan.nodeId = nodeId ∧
      parseDeploymentStatus row.status = .succeeded

/-- The host of a node, as a statement reads it. -/
def hostAt (order : IterationOrder) (db : Database) (row : NodeRow) : String :=
  (nodeRecordOf (selectNode order db row)).host

/-- The host of a node on which a deployment of the profile has succeeded. -/
def IsServingHost
    (order : IterationOrder) (profileId host : String) (db : Database) : Prop :=
  ∃ row ∈ db.nodes, hostAt order db row = host ∧ ServedBy profileId row.id db

/-- No node was registered before this one, nor stands before it with its time. -/
def RegisteredFirst
    (order : IterationOrder) (db : Database) (first : NodeRow) : Prop :=
  ∃ before after, order.arrange db.nodes = before ++ first :: after ∧
    (∀ row ∈ before, first.createdAt < row.createdAt) ∧
      ∀ row ∈ after, first.createdAt ≤ row.createdAt

/--
A deployment of the profile has succeeded on a node that has the host of the one
that was registered first.
-/
def RegisteredFirstServes
    (order hostOrder : IterationOrder) (profileId : String) (db : Database) :
    Prop :=
  ∃ first, RegisteredFirst order db first ∧
    ∃ row ∈ db.deployments, ∃ version server,
      Table.lookup ProfileVersionRow.id row.profileVersionId
          db.profileVersions = some version ∧
        version.profileId = profileId ∧
        parseDeploymentStatus row.status = .succeeded ∧
        Table.lookup NodeRow.id row.nodeId db.nodes = some server ∧
        hostAt hostOrder db server = hostAt hostOrder db first

/-- The host is that of the node that was registered first. -/
theorem deployedProfile_host
    {crates : Crates} {t : StoreTick} {profileId : String}
    {db : Database} {deployed : DeployedProfile}
    (hnodes : (db.nodes.map NodeRow.id).Nodup)
    (h : (exec crates (.deployedProfileForSubscription profileId) t db).1 =
      .ok deployed) :
    ∃ first, RegisteredFirst (t.statement 1).order db first ∧
      deployed.host = hostAt (t.statement 2).order db first := by
  have hbody := runs_of_exec h
  simp only [body, deployedProfileForSubscription, profile, node, bind_assoc,
    pure_bind] at hbody
  -- the profile
  obtain ⟨_, db₁, hquery, hprofile⟩ := runs_query_bind.mp hbody
  obtain ⟨-, -, rfl⟩ := (applies_of_fetch rfl).mp hquery
  obtain ⟨_, -, hfound⟩ := runs_orNotFound_bind.mp hprofile
  -- the node
  obtain ⟨_, db₂, hquery, hfirst⟩ := runs_query_bind.mp hfound
  obtain ⟨-, hnodeId, rfl⟩ := (applies_of_fetch rfl).mp hquery
  obtain ⟨nodeId, rfl, hpicked⟩ := runs_orNotFound_bind.mp hfirst
  obtain ⟨_, db₃, hquery, hnode⟩ := runs_query_bind.mp hpicked
  obtain ⟨-, hrow, rfl⟩ := (applies_of_fetch rfl).mp hquery
  obtain ⟨row, rfl, hinbounds⟩ := runs_orNotFound_bind.mp hnode
  -- the inbound and the credentials
  obtain ⟨_, -, hinbound⟩ := runs_orNotFound_bind.mp hinbounds
  obtain ⟨_, _, -, hcredentials⟩ := runs_bind.mp hinbound
  obtain ⟨_, _, -, hresult⟩ := runs_bind.mp hcredentials
  obtain ⟨rfl, -⟩ := runs_pure.mp hresult
  -- the id of the first node finds the first node
  obtain ⟨first, hleast, rfl⟩ := Option.map_eq_some_iff.mp hnodeId.symm
  have hmem : first ∈ db₃.nodes :=
    (IterationOrder.mem_arrange _ _ _).mp (List.argmin_mem hleast)
  rw [Table.lookup_of_mem NodeRow.id hnodes hmem] at hrow
  obtain rfl := Option.some.inj hrow
  exact ⟨first, Table.least_eq_some_iff.mp hleast, rfl⟩

theorem applies_upsertNode
    {nodeId tenantId : String} {t : StatementTick} {db db' : Database} {u : Unit} :
    (Statement.upsertNode nodeId tenantId).Applies t db u db' ↔
      t.fault = none ∧
        (Database.hasNode db nodeId = true ∨
          Database.hasTenant db tenantId = true) ∧
        db' = { db with
          nodes := Table.upsert NodeRow.id ⟨nodeId, tenantId, "registered", t.now⟩
            (fun row => { row with status := "registered" }) db.nodes } := by
  simp only [Statement.Applies, Statement.apply, execute_eq_ok,
    PostgresStore.upsertNode, referencing_eq_ok]

/-- No two nodes have the same id. -/
theorem nodup_nodes
    {crates : Crates} {log : List Entry} {db : Database}
    (h : History crates log db) :
    (db.nodes.map NodeRow.id).Nodup := by
  refine (h.invariant (P := fun db => (db.nodes.map NodeRow.id).Nodup)
    List.nodup_nil ?_).1
  intro op t db hdb
  refine exec_keeps (P := fun db => (db.nodes.map NodeRow.id).Nodup)
    (body_writes crates t.tick op) ?_ hdb
  intro s u db _ hdb
  have hframe : s.writes ≠ some .nodes →
      ((s.exec u db).2.nodes.map NodeRow.id).Nodup := by
    intro hs
    have hsame : (s.exec u db).2.nodes = db.nodes :=
      @Statement.exec_frame s .nodes hs u db
    rwa [hsame]
  cases s with
  | upsertNode nodeId tenantId =>
      refine Statement.exec_keeps (P := fun db => (db.nodes.map NodeRow.id).Nodup)
        (fun value db' happlies => ?_) hdb
      obtain ⟨-, -, rfl⟩ := applies_upsertNode.mp happlies
      exact Table.nodup_upsert NodeRow.id (fun _ => rfl) hdb
  | _ => exact hframe (by simp [Statement.writes])

/-- Where node ids are distinct, hosts are found by them. -/
theorem isServingHost_iff
    {order : IterationOrder} {profileId host : String} {db : Database}
    (hnodes : (db.nodes.map NodeRow.id).Nodup) :
    IsServingHost order profileId host db ↔
      ∃ row ∈ db.deployments, ∃ version server,
        Table.lookup ProfileVersionRow.id row.profileVersionId
            db.profileVersions = some version ∧
          version.profileId = profileId ∧
          parseDeploymentStatus row.status = .succeeded ∧
          Table.lookup NodeRow.id row.nodeId db.nodes = some server ∧
          hostAt order db server = host := by
  constructor
  · rintro ⟨server, hserver, hhost, row, hrow, plan, hplan, hprofile, hnode,
      hstatus⟩
    obtain ⟨version, hversion, hplan⟩ := Option.bind_eq_some_iff.mp hplan
    obtain rfl := Option.some.inj hplan
    have hlookup : Table.lookup NodeRow.id row.nodeId db.nodes = some server := by
      rw [show row.nodeId = server.id from hnode]
      exact Table.lookup_of_mem NodeRow.id hnodes hserver
    exact ⟨row, hrow, version, server, hversion, hprofile, hstatus, hlookup,
      hhost⟩
  · rintro ⟨row, hrow, version, server, hversion, hprofile, hstatus, hserver,
      hhost⟩
    obtain ⟨hmem, hid⟩ := Table.lookup_mem NodeRow.id hserver
    exact ⟨server, hmem, hhost, row, hrow, _,
      Option.bind_eq_some_iff.mpr ⟨version, hversion, rfl⟩, hprofile, hid.symm,
      hstatus⟩

end PostgresStore

/-! ## Subscriptions that point at a server -/

/--
In every reachable state of either store the host of a subscription serves the
profile exactly if a deployment of the profile has succeeded on a node that has
the host of the node which the table lists first, or which was registered first.
-/
theorem subscription_host_iff
    (crates : Crates) (tenantId profileId : String) :
    (∀ log s, MemoryStore.History crates tenantId log s →
      ∀ (t : Tick) (deployed : DeployedProfile),
        (MemoryStore.exec crates tenantId
            (.deployedProfileForSubscription profileId) t s).1 = .ok deployed →
          (MemoryStore.IsServingHost profileId deployed.host s ↔
            MemoryStore.ListedFirstServes t.order profileId s)) ∧
      ∀ log db, PostgresStore.History crates log db →
        ∀ (t : PostgresStore.StoreTick) (deployed : DeployedProfile),
          (PostgresStore.exec crates (.deployedProfileForSubscription profileId)
              t db).1 = .ok deployed →
            (PostgresStore.IsServingHost (t.statement 2).order profileId
                deployed.host db ↔
              PostgresStore.RegisteredFirstServes (t.statement 1).order
                (t.statement 2).order profileId db) := by
  constructor
  · intro log s hlog t deployed h
    obtain ⟨first, rest, hfirst, hhost⟩ := MemoryStore.deployedProfile_host h
    rw [hhost, MemoryStore.isServingHost_iff hlog.reached,
      MemoryStore.ListedFirstServes]
    constructor
    · exact fun hserved => ⟨first, rest, hfirst, hserved⟩
    · rintro ⟨first', rest', hfirst', hserved⟩
      obtain ⟨rfl, -⟩ := List.cons.inj (hfirst.symm.trans hfirst')
      exact hserved
  · intro log db hlog t deployed h
    have hnodes := PostgresStore.nodup_nodes hlog
    obtain ⟨first, hfirst, hhost⟩ :=
      PostgresStore.deployedProfile_host hnodes h
    rw [hhost, PostgresStore.isServingHost_iff hnodes,
      PostgresStore.RegisteredFirstServes]
    constructor
    · exact fun hserved => ⟨first, hfirst, hserved⟩
    · rintro ⟨first', hfirst', hserved⟩
      -- only one node is the first
      obtain rfl := Option.some.inj
        ((Table.least_eq_some_iff.mpr hfirst).symm.trans
          (Table.least_eq_some_iff.mpr hfirst'))
      exact hserved

/-! ### Two nodes, and a deployment on one of them -/

def hostedNode (nodeId host : String) : NodeRecord :=
  .new "tenant" nodeId host "1.8.0" ⟨0, 0⟩

/-- Two nodes and a profile; a deployment on one of the nodes succeeds. -/
def deployedOn (nodeId : String) : List StoreCall :=
  [ .registerNode (hostedNode "first" "first.example"),
    .registerNode (hostedNode "second" "second.example"),
    .createProfile ⟨"tenant", "profile",
      .vlessRealityExample "group" "reality/key", ⟨0, 0⟩⟩,
    .recordArtifact (.fromBytes referenceCrates "artifact" ⟨0, 0⟩ "tenant"
      .compiledXrayConfig "application/json" [1] "compiler-xray"),
    .recordDeploymentPlan
      ⟨"tenant", "deployment", nodeId, "profile", "artifact", ⟨0, 0⟩⟩,
    .recordDeploymentResult ⟨"deployment", .succeeded, "", "", ⟨0, 0⟩⟩ ]

def memoryDeployed (nodeId : String) : MemoryState :=
  MemoryStore.execAll referenceCrates "tenant"
    ((deployedOn nodeId).map (fun op => (op, referenceTick 0 "m"))) .default

def databaseCalls (nodeId : String) :
    List (StoreCall × PostgresStore.StoreTick) :=
  (deployedOn nodeId).zipIdx.map
    (fun call => (call.1, PostgresStore.referenceStoreTick call.2 "p"))

def databaseDeployed (nodeId : String) : Database :=
  (databaseCalls nodeId).foldl (fun db call =>
    (PostgresStore.exec referenceCrates call.1 call.2 db).2) .empty

theorem databaseDeployed_history (nodeId : String) :
    PostgresStore.History referenceCrates
      (Program.entriesFrom (PostgresStore.exec referenceCrates)
        (databaseCalls nodeId) .empty)
      (databaseDeployed nodeId) :=
  Program.Sequence.start.callAll (databaseCalls nodeId)

instance (profileId nodeId : String) (s : MemoryState) :
    Decidable (MemoryStore.ServedBy profileId nodeId s) :=
  inferInstanceAs (Decidable (∃ plan ∈ s.deployments.values, _))

instance (profileId host : String) (s : MemoryState) :
    Decidable (MemoryStore.IsServingHost profileId host s) :=
  inferInstanceAs (Decidable (∃ node ∈ s.nodes.values, _))

instance (profileId nodeId : String) (db : Database) :
    Decidable (PostgresStore.ServedBy profileId nodeId db) :=
  inferInstanceAs (Decidable (∃ row ∈ db.deployments,
    ∃ plan ∈ PostgresStore.joinDeployment db row, _))

instance (order : IterationOrder) (profileId host : String) (db : Database) :
    Decidable (PostgresStore.IsServingHost order profileId host db) :=
  inferInstanceAs (Decidable (∃ row ∈ db.nodes, _))

def memoryAnswer (nodeId : String) : StoreResult DeployedProfile :=
  (MemoryStore.exec referenceCrates "tenant"
    (.deployedProfileForSubscription "profile") (referenceTick 9 "r")
    (memoryDeployed nodeId)).1

def databaseAnswer (nodeId : String) : StoreResult DeployedProfile :=
  (PostgresStore.exec referenceCrates
    (.deployedProfileForSubscription "profile")
    (PostgresStore.referenceStoreTick 9 "r") (databaseDeployed nodeId)).1

/-- The table lists the second node first, and the deployment is on it. -/
theorem memoryDeployed_second :
    (referenceTick 9 "r").order.arrange (memoryDeployed "second").nodes.values =
        [hostedNode "second" "second.example",
          hostedNode "first" "first.example"] ∧
      get (memoryDeployed "second").deployments "deployment" =
        some ⟨"tenant", "deployment", "second", "profile", "artifact", ⟨0, 0⟩⟩ ∧
      get (memoryDeployed "second").deploymentStatuses "deployment" =
        some .succeeded ∧
      get (memoryDeployed "second").nodes "second" =
        some (hostedNode "second" "second.example") := by
  decide +kernel

/-- The first node was registered first, and the deployment is on it. -/
theorem databaseDeployed_first :
    (databaseDeployed "first").nodes =
        [⟨"first", "tenant", "registered", ⟨0, 1⟩⟩,
          ⟨"second", "tenant", "registered", ⟨1, 1⟩⟩] ∧
      (databaseDeployed "first").profileVersions.map
          (fun row => (row.id, row.profileId)) = [("profile-v1", "profile")] ∧
      (databaseDeployed "first").deployments.map
          (fun row => (row.profileVersionId, row.status, row.nodeId)) =
        [("profile-v1", "Succeeded", "first")] := by
  decide +kernel

theorem exists_deployed
    {answer : StoreResult DeployedProfile} {host : String}
    (h : answer.toOption.map DeployedProfile.host = some host) :
    ∃ deployed, answer = .ok deployed ∧ deployed.host = host := by
  cases answer with
  | error e => cases h
  | ok deployed => exact ⟨deployed, rfl, Option.some.inj h⟩

/-- The deployment has succeeded on the node that the store picks. -/
theorem subscription_host_iff_picked :
    (∃ deployed, memoryAnswer "second" = .ok deployed ∧
      MemoryStore.IsServingHost "profile" deployed.host
        (memoryDeployed "second")) ∧
      ∃ deployed, databaseAnswer "first" = .ok deployed ∧
        PostgresStore.IsServingHost .entryOrder "profile" deployed.host
          (databaseDeployed "first") := by
  have hiff := subscription_host_iff referenceCrates "tenant" "profile"
  constructor
  · obtain ⟨deployed, hok, -⟩ :=
      @exists_deployed (memoryAnswer "second") "second.example"
        (by decide +kernel)
    obtain ⟨hnodes, hplan, hstatus, hserver⟩ := memoryDeployed_second
    have hhistory : MemoryStore.History referenceCrates "tenant" _
        (memoryDeployed "second") := MemoryStore.History.new.execAll _
    exact ⟨deployed, hok, (hiff.1 _ _ hhistory _ _ hok).mpr ⟨_, _, hnodes,
      "deployment", _, _, hplan, rfl, hstatus, hserver, rfl⟩⟩
  · obtain ⟨deployed, hok, -⟩ :=
      @exists_deployed (databaseAnswer "first") "first.example"
        (by decide +kernel)
    obtain ⟨hnodes, hversions, hdeployments⟩ := databaseDeployed_first
    obtain ⟨version, hversion, hprofile⟩ := List.map_eq_singleton_iff.mp hversions
    obtain ⟨row, hrow, hfields⟩ := List.map_eq_singleton_iff.mp hdeployments
    obtain ⟨hid, hprofile⟩ := Prod.mk.inj hprofile
    obtain ⟨hversionId, hfields⟩ := Prod.mk.inj hfields
    obtain ⟨hstatus, hnode⟩ := Prod.mk.inj hfields
    refine ⟨deployed, hok,
      (hiff.2 _ _ (databaseDeployed_history "first") _ _ hok).mpr
        ⟨⟨"first", "tenant", "registered", ⟨0, 1⟩⟩, ?_, row, ?_, version,
          ⟨"first", "tenant", "registered", ⟨0, 1⟩⟩, ?_, hprofile, ?_, ?_, rfl⟩⟩
    · exact ⟨[], [⟨"second", "tenant", "registered", ⟨1, 1⟩⟩],
        (congrArg _ hnodes).trans rfl, by simp, by decide⟩
    · exact hrow ▸ List.mem_singleton_self row
    · rw [hversion, hversionId, Table.lookup, List.find?_singleton]
      simp [hid]
    · rw [hstatus]
      rfl
    · rw [hnodes, hnode]
      rfl

/-- The deployment has succeeded on the other node. -/
theorem subscription_host_elsewhere :
    (¬ ∀ log s, MemoryStore.History referenceCrates "tenant" log s →
      ∀ t profileId deployed,
        (MemoryStore.exec referenceCrates "tenant"
            (.deployedProfileForSubscription profileId) t s).1 = .ok deployed →
          MemoryStore.IsServingHost profileId deployed.host s) ∧
      ¬ ∀ log db, PostgresStore.History referenceCrates log db →
        ∀ t profileId deployed,
          (PostgresStore.exec referenceCrates
              (.deployedProfileForSubscription profileId) t db).1 =
                .ok deployed →
            PostgresStore.IsServingHost (t.statement 2).order profileId
              deployed.host db := by
  constructor
  · intro hclaim
    obtain ⟨deployed, hok, hhost⟩ :=
      @exists_deployed (memoryAnswer "first") "second.example"
        (by decide +kernel)
    have hserving := hclaim _ _ (MemoryStore.History.new.execAll _) _ _ _ hok
    rw [hhost] at hserving
    revert hserving
    decide +kernel
  · intro hclaim
    obtain ⟨deployed, hok, hhost⟩ :=
      @exists_deployed (databaseAnswer "second") "first.example"
        (by decide +kernel)
    have hserving := hclaim _ _ (databaseDeployed_history "second") _ _ _ hok
    rw [hhost] at hserving
    revert hserving
    decide +kernel

end ProxyControl
