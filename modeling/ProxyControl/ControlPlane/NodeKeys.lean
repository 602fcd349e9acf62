import ProxyControl.ControlPlane.Footprint

/-!
# The result keys of nodes

A rotation parses the new key before it stores it; a registration stores the
text of its request.  The keys of all nodes can be read exactly as long as every
registration that is carried out brings a key that can.
-/

namespace ProxyControl

open Effects HashTable

/-- A key text that is empty or that is the hex of a public key. -/
def KeyReadable (crates : Crates) (publicKeyHex : String) : Prop :=
  publicKeyHex = "" ∨
    ∃ key, AppState.parseRunnerResultPublicKeyHex crates publicKeyHex = .ok key

/-- Every stored node has a key to verify its results with. -/
def NodesVerifiable (crates : Crates) (app : AppState) (s : Shared) : Prop :=
  ∀ node ∈ s.store.nodes.values,
    ∃ key, app.runnerResultVerifyKeyForNode crates node = .ok key

/-- The state that a run has reached, and those that its calls have met. -/
def Visited (s : Shared) (threads : List Serving) (s' : Shared) : Prop :=
  s' = s ∨ ∃ f ∈ threads, ∃ e ∈ f.entries, s' = e.before

/-- The registration token of the call is active. -/
def registrationCarriedOut
    (token : String) (e : Program.Entry Call Tick Shared) : Bool :=
  (MemoryStore.findRegistrationToken e.choice.order token e.before.store).any
    (fun record => record.status = "active")

theorem forall_visited_iff
    {s : Shared} {threads : List Serving} {P : Shared → Prop} :
    (∀ s', Visited s threads s' → P s') ↔
      P s ∧ ∀ f ∈ threads, ∀ e ∈ f.entries, P e.before := by
  constructor
  · intro h
    exact ⟨h s (.inl rfl), fun f hf e he => h _ (.inr ⟨f, hf, e, he, rfl⟩)⟩
  · rintro ⟨hs, hbefore⟩ s' (rfl | ⟨f, hf, e, he, rfl⟩)
    · exact hs
    · exact hbefore f hf e he

/-- A call that carries out a registration brings no key that is unreadable. -/
def BringsReadableKey
    (crates : Crates) (request : Request)
    (e : Program.Entry Call Tick Shared) : Prop :=
  ∀ req, request = .registerNode req →
    ∀ publicKeyHex ∈ req.runnerResultPublicKeyHex, ∀ node token,
      e.op = .store (.registerNodeWithRegistrationToken node token) →
        registrationCarriedOut token e = true → KeyReadable crates publicKeyHex

/-- The bytes of a public key are read back as that key. -/
structure VerifyingKey.Proper (crates : Crates) (key : VerifyingKey) : Prop where
  length : key.bytes.length = 32
  fromBytes : crates.verifyingKeyFromBytes key.bytes = some key

theorem VerifyingKey.Proper.readable
    {crates : Crates} {key : VerifyingKey} (h : key.Proper crates) :
    KeyReadable crates (Hex.encode key.bytes) := by
  refine .inr ⟨key, ?_⟩
  simp [AppState.parseRunnerResultPublicKeyHex, Hex.decode_encode, h.length,
    h.fromBytes]

theorem exists_verifyKey_iff
    (crates : Crates) (app : AppState) (node : NodeRecord) :
    (∃ key, app.runnerResultVerifyKeyForNode crates node = .ok key) ↔
      KeyReadable crates node.runnerResultPublicKeyHex := by
  unfold AppState.runnerResultVerifyKeyForNode KeyReadable
  split_ifs with hempty
  · exact ⟨fun _ => .inl (String.isEmpty_iff.mp hempty), fun _ => ⟨_, rfl⟩⟩
  · constructor
    · exact .inr
    · rintro (heq | h)
      · exact absurd (String.isEmpty_iff.mpr heq) hempty
      · exact h

/-! ## What one call does to the keys -/

section Calls

variable (crates : Crates) (app : AppState)

/-- What a request passes to the calls that write nodes. -/
def Request.PassesKeys (request : Request) : Call → Prop
  | .store (.registerNode _) => False
  | .store (.registerNodeWithRegistrationToken node _) =>
      ∃ req, request = .registerNode req ∧
        node.runnerResultPublicKeyHex = req.runnerResultPublicKeyHex.getD
          (Hex.encode app.runnerResultVerifyKey.bytes)
  | .store (.updateNodeRunnerResultPublicKey _ publicKeyHex) =>
      KeyReadable crates publicKeyHex
  | _ => True

open AppState Handler in
theorem AppState.serve_passesKeys (request : Request) :
    (app.serve crates request).Calls (request.PassesKeys crates app) := by
  have hothers :
      (∀ node token,
        request.mayMake (.registerNodeWithRegistrationToken node token) = false) →
      (∀ nodeId key,
        request.mayMake (.updateNodeRunnerResultPublicKey nodeId key) = false) →
        (app.serve crates request).Calls (request.PassesKeys crates app) := by
    intro hregister hrotate
    refine Program.All.mono (serve_makes crates app request) ?_
    intro op hop
    cases op with
    | store op =>
        cases op with
        | registerNodeWithRegistrationToken node token =>
            exact absurd hop (by simp [Request.Makes, hregister node token])
        | updateNodeRunnerResultPublicKey nodeId key =>
            exact absurd hop (by simp [Request.Makes, hrotate nodeId key])
        | registerNode node => cases hop
        | _ => trivial
    | _ => trivial
  cases request with
  | registerNode req =>
      refine Calls.bind ?_ fun _ => ?_
      · exact calls_ensureDefaultRegistrationToken app trivial (fun _ => trivial)
      refine calls_perform_bind trivial fun now => ?_
      refine calls_perform_bind ⟨req, rfl, rfl⟩ fun answer => ?_
      split
      · exact calls_pure _
      · exact calls_throw _
      · exact calls_throw _
  | rotateRunnerResultKey nodeId key =>
      refine calls_orStatus_bind fun parsed hparsed => ?_
      exact calls_store_bind (.inr ⟨parsed, hparsed⟩) fun node => calls_pure _
  | _ => exact hothers (fun _ _ => rfl) (fun _ _ => rfl)

variable {crates app}

theorem forall_values_insert
    {nodes : HashTable String NodeRecord} {valid : NodeRecord → Prop}
    (h : ∀ node ∈ nodes.values, valid node) (nodeId : String)
    (node : NodeRecord) :
    (∀ other ∈ values (nodes.insert nodeId node), valid other) ↔
      valid node := by
  constructor
  · intro hall
    exact hall node ((mem_values _ _).mpr ⟨nodeId, get_insert_self ..⟩)
  · intro hnode other hother
    obtain ⟨otherId, hget⟩ := (mem_values _ _).mp hother
    rw [get_insert] at hget
    split_ifs at hget with hid
    · exact Option.some.inj hget ▸ hnode
    · exact h other ((mem_values _ _).mpr ⟨otherId, hget⟩)

theorem nodesVerifiable_register
    {node : NodeRecord} {token : String} {t : Tick} {s : Shared}
    (h : NodesVerifiable crates app s) :
    NodesVerifiable crates app
        (app.answer crates
          (.store (.registerNodeWithRegistrationToken node token)) t s).2 ↔
      (registrationCarriedOut token
          ⟨.store (.registerNodeWithRegistrationToken node token), t, s⟩ = true →
        KeyReadable crates node.runnerResultPublicKeyHex) := by
  simp only [NodesVerifiable, registrationCarriedOut, AppState.answer,
    MemoryStore.exec, MemoryStore.registerNodeWithRegistrationToken]
  cases MemoryStore.findRegistrationToken t.order token s.store with
  | none => exact iff_of_true h (fun hcarried => by simp at hcarried)
  | some record =>
      by_cases hactive : record.status = "active"
      · simp only [hactive, ne_eq, not_true_eq_false, if_false,
          MemoryStore.record, Option.any_some, decide_true, true_imp_iff]
        rw [forall_values_insert h, exists_verifyKey_iff]
      · simp only [hactive, ne_eq, not_false_eq_true, if_true, Option.any_some,
          decide_false, Bool.false_eq_true, false_imp_iff, iff_true]
        exact h

theorem nodesVerifiable_rotate
    {nodeId publicKeyHex : String} {t : Tick} {s : Shared}
    (hkey : KeyReadable crates publicKeyHex) (h : NodesVerifiable crates app s) :
    NodesVerifiable crates app
      (app.answer crates
        (.store (.updateNodeRunnerResultPublicKey nodeId publicKeyHex)) t s).2 := by
  simp only [NodesVerifiable, AppState.answer, MemoryStore.exec,
    MemoryStore.updateNodeRunnerResultPublicKey]
  cases get s.store.nodes nodeId with
  | none => exact h
  | some node =>
      simp only [MemoryStore.record]
      rw [forall_values_insert h, exists_verifyKey_iff]
      exact hkey

theorem NodesVerifiable.frame
    {op : StoreCall} {t : Tick} {s : Shared}
    (h : NodesVerifiable crates app s)
    (hop : MemoryStore.writes .nodes op = false) :
    NodesVerifiable crates app (app.answer crates (.store op) t s).2 := by
  have hnodes := MemoryStore.exec_frame crates app.tenantId hop t s.store
  simp only [MemoryStore.SameTables] at hnodes
  simp only [NodesVerifiable, AppState.answer, hnodes]
  exact h

/-- A registration is the only call that can bring an unreadable key. -/
theorem nodesVerifiable_answer
    {request : Request} {op : Call} {t : Tick} {s : Shared}
    (hkeys : request.PassesKeys crates app op)
    (h : NodesVerifiable crates app s) :
    NodesVerifiable crates app (app.answer crates op t s).2 ↔
      ∀ node token, op = .store (.registerNodeWithRegistrationToken node token) →
        registrationCarriedOut token ⟨op, t, s⟩ = true →
          KeyReadable crates node.runnerResultPublicKeyHex := by
  cases op with
  | store op =>
      cases op with
      | registerNode node => exact hkeys.elim
      | registerNodeWithRegistrationToken node token =>
          rw [nodesVerifiable_register h]
          constructor
          · intro hcarried other otherToken heq
            obtain ⟨rfl, rfl⟩ := StoreCall.registerNodeWithRegistrationToken.inj
              (Call.store.inj heq)
            exact hcarried
          · intro hall
            exact hall node token rfl
      | updateNodeRunnerResultPublicKey nodeId publicKeyHex =>
          exact iff_of_true (nodesVerifiable_rotate hkeys h)
            (fun _ _ heq => by cases heq)
      | _ => exact iff_of_true (h.frame rfl) (fun _ _ heq => by cases heq)
  | _ => exact iff_of_true h (fun _ _ heq => by cases heq)

end Calls

/-! ## Runs -/

section Runs

variable {crates : Crates} {app : AppState}

/-- The key that a registration stores is that of its request, or the default. -/
theorem bringsReadableKey_iff
    (hdefault : app.runnerResultVerifyKey.Proper crates)
    {request : Request} {e : Program.Entry Call Tick Shared}
    (hkeys : request.PassesKeys crates app e.op) :
    BringsReadableKey crates request e ↔
      ∀ node token, e.op = .store (.registerNodeWithRegistrationToken node token) →
        registrationCarriedOut token e = true →
          KeyReadable crates node.runnerResultPublicKeyHex := by
  constructor
  · intro hbrings node token hop hcarried
    rw [hop] at hkeys
    obtain ⟨req, hrequest, hkey⟩ := hkeys
    rw [hkey]
    cases hreq : req.runnerResultPublicKeyHex with
    | none => exact hdefault.readable
    | some publicKeyHex =>
        exact hbrings req hrequest publicKeyHex hreq node token hop hcarried
  · intro hall req hrequest publicKeyHex hreq node token hop hcarried
    have hreadable := hall node token hop hcarried
    rw [hop] at hkeys
    obtain ⟨req', hrequest', hkey⟩ := hkeys
    obtain rfl := Request.registerNode.inj (hrequest.symm.trans hrequest')
    rwa [hkey, hreq] at hreadable

/--
The results of every registered node can be verified, in every state of a run,
exactly when no registration that is carried out brings a key that is unreadable.
-/
theorem nodes_verifiable_iff
    (crates : Crates) (app : AppState)
    (hdefault : app.runnerResultVerifyKey.Proper crates)
    {s : Shared} {threads : List Serving}
    (h : ServingRun crates app s threads) :
    (∀ s', Visited s threads s' → NodesVerifiable crates app s') ↔
      ∀ f ∈ threads, ∀ e ∈ f.entries, BringsReadableKey crates f.task e := by
  rw [forall_visited_iff]
  induction h with
  | start =>
      refine iff_of_true ⟨?_, ?_⟩ ?_
      · intro node hnode
        cases hnode
      · intro f hf
        cases hf
      · intro f hf
        cases hf
  | arrive h request ih =>
      simpa only [List.forall_mem_append, List.forall_mem_singleton,
        List.not_mem_nil, false_imp_iff, implies_true, and_true] using ih
  | @act s before after request entries op next h t ih =>
      obtain ⟨hkeys, -⟩ := (h.reaches _ mem_middle).all
        (AppState.serve_passesKeys crates app request)
      have hbefore := @Session.forall_entries_act _ _ _ _ _ _
        (fun _ e => NodesVerifiable crates app e.before) before after request
        entries (.call op next) (next (app.answer crates op t s).1) ⟨op, t, s⟩
      have hbrings := @Session.forall_entries_act _ _ _ _ _ _
        (BringsReadableKey crates) before after request
        entries (.call op next) (next (app.answer crates op t s).1) ⟨op, t, s⟩
      rw [hbefore, hbrings, ← ih, bringsReadableKey_iff hdefault hkeys]
      constructor
      · rintro ⟨hafter, hs, hbefore⟩
        exact ⟨(nodesVerifiable_answer hkeys hs).mp hafter, hs, hbefore⟩
      · rintro ⟨hbrings, hs, hbefore⟩
        exact ⟨(nodesVerifiable_answer hkeys hs).mpr hbrings, hs, hbefore⟩

end Runs

/-! ### A key that is no hex -/

/-- A registration with the default token and a key text. -/
def registrationWithKey (publicKeyHex : String) : Request :=
  .registerNode {
    registrationToken := "dev-registration-token"
    nodeId := "node"
    xrayVersion := "1.8.0"
    runnerResultPublicKeyHex := some publicKeyHex }

def registered (publicKeyHex : String) : Shared × List Serving :=
  serving [registrationWithKey publicKeyHex] [0, 0, 0, 0]

theorem referenceApp_proper :
    referenceApp.runnerResultVerifyKey.Proper referenceCrates :=
  ⟨by decide +kernel, by decide +kernel⟩

/-- A key of the node's own. -/
def ownKey : VerifyingKey where
  bytes := List.replicate 32 7

theorem ownKey_proper : ownKey.Proper referenceCrates :=
  ⟨by decide, by decide⟩

theorem nodes_verifiable_iff_own_key :
    NodesVerifiable referenceCrates referenceApp
        (registered (Hex.encode ownKey.bytes)).1 ∧
      (registered (Hex.encode ownKey.bytes)).1.store.nodes.values.map
        (fun node => node.runnerResultPublicKeyHex) =
          [Hex.encode ownKey.bytes] := by
  refine ⟨?_, by decide +kernel⟩
  refine (nodes_verifiable_iff referenceCrates referenceApp referenceApp_proper
    (serving_run [registrationWithKey (Hex.encode ownKey.bytes)]
      [0, 0, 0, 0])).mpr ?_ _ (.inl rfl)
  have htasks : (registered (Hex.encode ownKey.bytes)).2.map (fun f => f.task) =
      [registrationWithKey (Hex.encode ownKey.bytes)] := rfl
  intro f hf e he req hreq publicKeyHex hkey _ _ _ _
  have htask : f.task ∈ [registrationWithKey (Hex.encode ownKey.bytes)] :=
    htasks ▸ List.mem_map_of_mem hf
  rw [hreq, List.mem_singleton] at htask
  obtain rfl := Request.registerNode.inj htask
  obtain rfl := Option.some.inj hkey
  exact ownKey_proper.readable

/-- The text is stored as it is, and no result of the node can be verified. -/
theorem registered_node_unverifiable :
    ¬ ∀ s threads, ServingRun referenceCrates referenceApp s threads →
      NodesVerifiable referenceCrates referenceApp s := by
  intro hclaim
  have hverifiable := hclaim _ _
    (serving_run [registrationWithKey "zz"] [0, 0, 0, 0])
  have hbroken : ∃ node ∈ (registered "zz").1.store.nodes.values,
      (referenceApp.runnerResultVerifyKeyForNode referenceCrates node).toOption =
        none := by
    decide +kernel
  obtain ⟨node, hnode, hnone⟩ := hbroken
  obtain ⟨key, hkey⟩ := hverifiable node hnode
  rw [hkey] at hnone
  cases hnone

end ProxyControl
