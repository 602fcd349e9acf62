import ProxyControl.ReferenceCrates
import ProxyControl.Storage.ProxyStore

/-!
# Atomic calls and the audit trail

A call that fails leaves every table as it was.  A call that succeeds appends
to the audit events and to the outbox, entry by entry the same events.  So the
two logs of a reachable state correspond position by position, and they only
grow.
-/

namespace ProxyControl
namespace MemoryStore

open Calendar HashTable

/-- An audit event and an outbox event of one action on one subject. -/
structure Corresponds
    (audit : AuditEventRecord) (event : OutboxEventRecord) : Prop where
  tenantId : audit.tenantId = event.tenantId
  action : audit.action = event.eventType
  subject : audit.subject = event.aggregateType ++ ":" ++ event.aggregateId

/-- Both logs are extended by corresponding entries. -/
def LoggedInLockstep (s s' : MemoryState) : Prop :=
  ∃ audits events,
    s'.auditEvents = s.auditEvents ++ audits ∧
      s'.outbox = s.outbox ++ events ∧
      List.Forall₂ Corresponds audits events

/-- What an answer says about the state after the call. -/
structure AtomicAndLogged {α : Type}
    (s : MemoryState) (answer : StoreResult α × MemoryState) : Prop where
  onError : ∀ e, answer.1 = .error e → answer.2 = s
  onOk : ∀ a, answer.1 = .ok a → LoggedInLockstep s answer.2

/-- The two logs of a state, and what a later state keeps of them. -/
structure AuditTrail (log : List StoreEntry) (s : MemoryState) : Prop where
  lockstep : List.Forall₂ Corresponds s.auditEvents s.outbox
  kept : ∀ e ∈ log, e.before.auditEvents <+: s.auditEvents ∧
    e.before.outbox <+: s.outbox

/-! ## One record -/

theorem LoggedInLockstep.ofSame
    {s s' : MemoryState} (haudit : s'.auditEvents = s.auditEvents)
    (houtbox : s'.outbox = s.outbox) :
    LoggedInLockstep s s' := by
  refine ⟨[], [], ?_, ?_, .nil⟩
  · rw [haudit, List.append_nil]
  · rw [houtbox, List.append_nil]

/-- `record` appends one entry to each log, and the two correspond. -/
theorem LoggedInLockstep.record
    {s s' : MemoryState} (h : LoggedInLockstep s s')
    (tenantId actor action aggregateType aggregateId : String)
    (now : DateTime) :
    LoggedInLockstep s
      (record tenantId actor action aggregateType aggregateId now s') := by
  obtain ⟨audits, events, haudits, hevents, hall⟩ := h
  refine
    ⟨audits ++ [⟨tenantId, actor, action,
        aggregateType ++ ":" ++ aggregateId, now⟩],
      events ++ [⟨tenantId, action, aggregateType, aggregateId, "pending",
        now⟩], ?_, ?_, ?_⟩
  · rw [MemoryStore.record, haudits, List.append_assoc]
  · rw [MemoryStore.record, hevents, List.append_assoc]
  · exact List.rel_append hall (.cons ⟨rfl, rfl, rfl⟩ .nil)

theorem AtomicAndLogged.refused
    {α : Type} {s : MemoryState} {error : StoreError} :
    AtomicAndLogged s ((.error error, s) : StoreResult α × MemoryState) := by
  constructor
  · intro e _
    rfl
  · intro a ha
    cases ha

theorem AtomicAndLogged.done
    {α : Type} {s s' : MemoryState} {a : α} (h : LoggedInLockstep s s') :
    AtomicAndLogged s ((.ok a, s') : StoreResult α × MemoryState) := by
  constructor
  · intro e he
    cases he
  · intro _ _
    exact h

/-- A reading call logs nothing, whatever it answers. -/
theorem AtomicAndLogged.read
    {α : Type} {s : MemoryState} (result : StoreResult α) :
    AtomicAndLogged s (result, s) := by
  constructor
  · intro e _
    rfl
  · intro a _
    exact .ofSame rfl rfl

/-! ## Every call -/

section Calls

variable (crates : Crates) (tenantId : String)

theorem exec_atomicAndLogged
    (op : StoreCall) (t : Tick) (s : MemoryState) :
    AtomicAndLogged s (exec crates tenantId op t s) := by
  have hsame : LoggedInLockstep s s := .ofSame rfl rfl
  cases op with
  | registerNode | createProfile | recordArtifact | recordDeploymentPlan =>
      exact .done (.record (.ofSame rfl rfl) ..)
  | setCredentialQuota | setCredentialExpiry | enqueueRunnerCommand =>
      exact .done (.ofSame rfl rfl)
  | registerNodeWithRegistrationToken node registrationToken =>
      simp only [exec, registerNodeWithRegistrationToken]
      split
      · exact .refused
      · split
        · exact .refused
        · -- the registration and the spent token are logged in this order
          have hnode : LoggedInLockstep s (record tenantId "runner"
              "node.registered" "node" node.nodeId t.now
              { s with nodes := s.nodes.insert node.nodeId node }) :=
            .record (.ofSame rfl rfl) ..
          exact .done (.record hnode ..)
  | createNodeRegistrationToken | recordIdempotencyResponse =>
      simp only [exec, createNodeRegistrationToken, recordIdempotencyResponse]
      split
      · exact .done hsame
      · first
        | exact .done (.record (.ofSame rfl rfl) ..)
        | exact .done (.ofSame rfl rfl)
  | consumeNodeRegistrationToken | updateNodeRunnerResultPublicKey
  | recordArtifactBlob | recordDeploymentResult =>
      simp only [exec, consumeNodeRegistrationToken,
        updateNodeRunnerResultPublicKey, recordArtifactBlob,
        recordDeploymentResult]
      split
      · exact .refused
      · exact .done (.record (.ofSame rfl rfl) ..)
  | recordHeartbeat | addCredential | issueSubscriptionToken
  | rotateSubscriptionToken =>
      simp only [exec, recordHeartbeat, addCredential, issueSubscriptionToken,
        rotateSubscriptionToken]
      split
      · exact .done (.record (.ofSame rfl rfl) ..)
      · exact .refused
  | recordDeploymentHealthCheck health =>
      simp only [exec, recordDeploymentHealthCheck]
      split
      · exact .refused
      · split
        · exact .refused
        · exact .done (.record (.ofSame rfl rfl) ..)
  | recordUsageSample usage =>
      simp only [exec, recordUsageSample]
      split
      · split
        · exact .refused
        · exact .done (.ofSame rfl rfl)
      · exact .refused
  | nextRunnerCommand nodeId lastSequence =>
      simp only [exec, nextRunnerCommand]
      split
      · exact .done hsame
      · exact .done (.ofSame rfl rfl)
  | recordSubscriptionAccess =>
      simp only [exec, recordSubscriptionAccess]
      split
      · exact .done (.ofSame rfl rfl)
      · exact .refused
  | _ => exact .read _

theorem exec_lockstep
    (op : StoreCall) (t : Tick) (s : MemoryState) :
    LoggedInLockstep s (exec crates tenantId op t s).2 := by
  have h := exec_atomicAndLogged crates tenantId op t s
  cases hanswer : (exec crates tenantId op t s).1 with
  | error e =>
      rw [h.onError e hanswer]
      exact .ofSame rfl rfl
  | ok a =>
      exact h.onOk a hanswer

/-- The trail survives one more call. -/
theorem AuditTrail.call
    {log : List StoreEntry} {s : MemoryState} (h : AuditTrail log s)
    (op : StoreCall) (t : Tick) :
    AuditTrail (log ++ [⟨op, t, s⟩])
      (afterCall crates tenantId ⟨op, t, s⟩) := by
  obtain ⟨audits, events, haudits, hevents, hall⟩ :=
    exec_lockstep crates tenantId op t s
  constructor
  · rw [afterCall, haudits, hevents]
    exact List.rel_append h.lockstep hall
  · intro e he
    have hs : e.before.auditEvents <+: s.auditEvents ∧
        e.before.outbox <+: s.outbox := by
      rcases List.mem_append.mp he with he | he
      · exact h.kept e he
      · obtain rfl := List.mem_singleton.mp he
        exact ⟨List.prefix_refl _, List.prefix_refl _⟩
    rw [afterCall, haudits, hevents]
    exact ⟨hs.1.trans (List.prefix_append ..),
      hs.2.trans (List.prefix_append ..)⟩

/--
Every call either fails and changes nothing, or logs the same events twice; so
the two logs correspond in every reachable state and only ever grow.
-/
theorem calls_atomic_and_logged :
    (∀ op t s, AtomicAndLogged s (exec crates tenantId op t s)) ∧
      ∀ log s, History crates tenantId log s → AuditTrail log s := by
  constructor
  · exact exec_atomicAndLogged crates tenantId
  · intro log s h
    induction h with
    | new =>
        refine ⟨.nil, ?_⟩
        intro e he
        exact absurd he List.not_mem_nil
    | call _ op t ih =>
        exact ih.call crates tenantId op t

end Calls

/-- A token is issued and spent on one node, then refused to another one. -/
def spentTwiceCalls : List (StoreCall × Tick) :=
  [ (.createNodeRegistrationToken
      (.new "tenant" "token-id" "token" ⟨0, 0⟩)),
    (.registerNodeWithRegistrationToken
      (.new "tenant" "node" "node.example" "1.8.0" ⟨0, 0⟩) "token"),
    (.registerNodeWithRegistrationToken
      (.new "tenant" "other" "other.example" "1.8.0" ⟨0, 0⟩) "token") ].map
    (fun call => (call, referenceTick 1700000000 "id"))

theorem calls_atomic_and_logged_spentTwice :
    (execAll referenceCrates "tenant" spentTwiceCalls
      .default).auditEvents.length = 3 ∧
      AuditTrail (entriesFrom referenceCrates "tenant" spentTwiceCalls .default)
        (execAll referenceCrates "tenant" spentTwiceCalls .default) := by
  refine ⟨by decide +kernel, ?_⟩
  exact (calls_atomic_and_logged referenceCrates "tenant").2 _ _
    (History.new.execAll spentTwiceCalls)

end MemoryStore
end ProxyControl
