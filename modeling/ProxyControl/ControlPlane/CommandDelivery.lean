import ProxyControl.Storage.RunnerQueues
import ProxyControl.ControlPlane.Runs

/-!
# Command delivery

Requests of any kind and number are interleaved at their calls over one shared
state; the polls of one node pass the highest sequence received so far.

The queue of the node is then a sequenced mailbox: an enqueue is a push, a poll
is a poll, and every other call leaves it alone.  A sequence is allocated in
one call and enqueued in a later one, so two requests may enqueue against the
order of their sequences; commands survive when they do not.
-/

namespace ProxyControl

open Effects
open MemoryStore (queueOf)

/-- A request in flight; what it answers in the end plays no role. -/
abbrev Thread : Type :=
  Program Call Call.Ret Unit

def AppState.thread
    (crates : Crates) (app : AppState) (request : Request) : Thread :=
  (app.serve crates request).run >>= fun _ => .done ()

/-- The command a served call has put into the queue of a node. -/
def enqueuedBy (nodeId : String) :
    Pool.Served Call Call.Ret → Option SignedRunnerCommand
  | ⟨.store (.enqueueRunnerCommand node command), .ok _⟩ =>
      if node = nodeId then some command else none
  | _ => none

/-- The command a served call has delivered from the queue of a node. -/
def deliveredBy (nodeId : String) :
    Pool.Served Call Call.Ret → Option SignedRunnerCommand
  | ⟨.store (.nextRunnerCommand node _), .ok (some command)⟩ =>
      if node = nodeId then some command else none
  | _ => none

/-- The commands whose enqueue returned `Ok`, in that order. -/
def enqueuedFor (nodeId : String) (trace : Trace) :
    List SignedRunnerCommand :=
  trace.filterMap (enqueuedBy nodeId)

/-- The commands that polls have returned, in that order. -/
def deliveredTo (nodeId : String) (trace : Trace) :
    List SignedRunnerCommand :=
  trace.filterMap (deliveredBy nodeId)

/-- A poll of the node passes the highest sequence received so far. -/
def passesHighest (nodeId : String) (trace : Trace) : Call → Bool
  | .store (.nextRunnerCommand node lastSequence) =>
      node ≠ nodeId ||
        lastSequence.toNat =
          Mailbox.highest SignedRunnerCommand.sequenceNumber
            (deliveredTo nodeId trace)
  | _ => true

/-- The interleaved runs of a set of requests in a fresh process. -/
inductive Run
    (crates : Crates) (app : AppState) (nodeId : String)
    (requests : List Request) :
    Pool Call Call.Ret Unit Shared → Trace → Prop
  | start :
      Run crates app nodeId requests
        ⟨.new, requests.map (app.thread crates)⟩ []
  | step
      {pool pool' : Pool Call Call.Ret Unit Shared} {trace : Trace}
      {served : Pool.Served Call Call.Ret}
      (h : Run crates app nodeId requests pool trace)
      (hstep : Pool.Step (app.answer crates) pool served pool')
      (hpoll : passesHighest nodeId trace served.op = true) :
      Run crates app nodeId requests pool' (trace ++ [served])

/-- The commands of a node are enqueued in the order of their sequences. -/
def EnqueuedInOrder (nodeId : String) (trace : Trace) : Prop :=
  Mailbox.InOrder SignedRunnerCommand.sequenceNumber
    (enqueuedFor nodeId trace)

/-- No command is lost: each is still in the queue or has been delivered. -/
def NoCommandLost
    (nodeId : String) (trace : Trace) (s : Shared) : Prop :=
  ∀ command ∈ enqueuedFor nodeId trace,
    command ∈ queueOf nodeId s.store ∨ command ∈ deliveredTo nodeId trace

/-! ## The queue is a mailbox -/

/-- The mailbox of a node, as a run shows it. -/
def mailboxOf
    (nodeId : String) (trace : Trace) (s : Shared) :
    Mailbox.State SignedRunnerCommand :=
  ⟨queueOf nodeId s.store, enqueuedFor nodeId trace,
    deliveredTo nodeId trace⟩

theorem mailboxOf_append
    (nodeId : String) (trace : Trace) (served : Pool.Served Call Call.Ret)
    (s : Shared) :
    mailboxOf nodeId (trace ++ [served]) s =
      ⟨queueOf nodeId s.store,
        enqueuedFor nodeId trace ++ (enqueuedBy nodeId served).toList,
        deliveredTo nodeId trace ++ (deliveredBy nodeId served).toList⟩ := by
  simp only [mailboxOf, enqueuedFor, deliveredTo, List.filterMap_append]
  cases h : enqueuedBy nodeId served <;>
    cases h' : deliveredBy nodeId served <;> simp [h, h']

/-- A call that is neither an enqueue nor a poll is no event. -/
theorem not_event_of_not_writes
    {op : StoreCall} (h : MemoryStore.writes .queues op = false)
    (nodeId : String) (r : op.Ret) :
    enqueuedBy nodeId ⟨.store op, r⟩ = none ∧
      deliveredBy nodeId ⟨.store op, r⟩ = none := by
  cases op with
  | enqueueRunnerCommand | nextRunnerCommand => cases h
  | _ => exact ⟨rfl, rfl⟩

section Step

variable (nodeId : String) (trace : Trace) (s : Shared)

/-- An enqueue is a push for its own node. -/
theorem mailboxOf_enqueue
    (node : String) (command : SignedRunnerCommand) :
    mailboxOf nodeId
        (trace ++ [⟨.store (.enqueueRunnerCommand node command),
          (MemoryStore.enqueueRunnerCommand node command s.store).1⟩])
        { s with store :=
            (MemoryStore.enqueueRunnerCommand node command s.store).2 } =
      if node = nodeId then
        Mailbox.step SignedRunnerCommand.sequenceNumber
          (mailboxOf nodeId trace s) (.push command)
      else
        mailboxOf nodeId trace s := by
  rw [mailboxOf_append]
  have hdelivered :
      deliveredBy nodeId ⟨.store (.enqueueRunnerCommand node command),
        (MemoryStore.enqueueRunnerCommand node command s.store).1⟩ = none :=
    rfl
  have henqueued :
      enqueuedBy nodeId ⟨.store (.enqueueRunnerCommand node command),
        (MemoryStore.enqueueRunnerCommand node command s.store).1⟩ =
          if node = nodeId then some command else none :=
    rfl
  rw [hdelivered, henqueued]
  split_ifs with hnode
  · simp [mailboxOf, Mailbox.step, MemoryStore.enqueueRunnerCommand, queueOf,
      hnode]
  · simp [mailboxOf, MemoryStore.enqueueRunnerCommand, queueOf,
      HashTable.get_insert_of_ne _ _ (Ne.symm hnode)]

/-- A poll with the highest sequence so far is a poll for its own node. -/
theorem mailboxOf_next
    (node : String) (lastSequence : UInt64)
    (hpoll : passesHighest nodeId trace
      (.store (.nextRunnerCommand node lastSequence)) = true) :
    mailboxOf nodeId
        (trace ++ [⟨.store (.nextRunnerCommand node lastSequence),
          (MemoryStore.nextRunnerCommand node lastSequence s.store).1⟩])
        { s with store :=
            (MemoryStore.nextRunnerCommand node lastSequence s.store).2 } =
      if node = nodeId then
        Mailbox.step SignedRunnerCommand.sequenceNumber
          (mailboxOf nodeId trace s) .poll
      else
        mailboxOf nodeId trace s := by
  obtain ⟨hresult, hqueue⟩ :=
    nextRunnerCommand_spec node lastSequence s.store
  rw [mailboxOf_append, hresult, hqueue nodeId]
  have henqueued :
      ∀ r, enqueuedBy nodeId
        ⟨.store (.nextRunnerCommand node lastSequence), r⟩ = none :=
    fun _ => rfl
  have hdelivered :
      ∀ queue : List SignedRunnerCommand,
        (deliveredBy nodeId ⟨.store (.nextRunnerCommand node lastSequence),
          .ok queue.head?⟩).toList =
          if node = nodeId then queue.head?.toList else [] := by
    intro queue
    cases queue with
    | nil => split_ifs <;> rfl
    | cons command queue =>
        change (if node = nodeId then some command else none).toList = _
        split_ifs <;> rfl
  rw [henqueued, hdelivered]
  split_ifs with hnode
  · subst hnode
    have hlast :
        lastSequence.toNat =
          Mailbox.highest SignedRunnerCommand.sequenceNumber
            (deliveredTo node trace) := by
      simpa [passesHighest] using hpoll
    simp [mailboxOf, Mailbox.step, hlast]
  · simp [mailboxOf]

end Step

/-- Every run is a run of the mailbox. -/
theorem Run.mailbox
    {crates : Crates} {app : AppState} {nodeId : String}
    {requests : List Request}
    {pool : Pool Call Call.Ret Unit Shared} {trace : Trace}
    (h : Run crates app nodeId requests pool trace) :
    ∃ events,
      Mailbox.run SignedRunnerCommand.sequenceNumber events =
        mailboxOf nodeId trace pool.world := by
  induction h with
  | start =>
      exact ⟨[], rfl⟩
  | @step pool pool' trace served _ hstep hpoll ih =>
      obtain ⟨events, hevents⟩ := ih
      obtain ⟨s, before, after, op, next, t⟩ := hstep
      -- the step is one event, or the mailbox stays as it is
      suffices hone :
          mailboxOf nodeId (trace ++ [⟨op, (app.answer crates op t s).1⟩])
              (app.answer crates op t s).2 = mailboxOf nodeId trace s ∨
            ∃ event,
              mailboxOf nodeId (trace ++ [⟨op, (app.answer crates op t s).1⟩])
                  (app.answer crates op t s).2 =
                Mailbox.step SignedRunnerCommand.sequenceNumber
                  (mailboxOf nodeId trace s) event by
        rcases hone with hsame | ⟨event, hevent⟩
        · exact ⟨events, hevents.trans hsame.symm⟩
        · refine ⟨events ++ [event], ?_⟩
          rw [Mailbox.run_append, hevents]
          exact hevent.symm
      cases op with
      | store op =>
          by_cases hwrites : MemoryStore.writes .queues op = true
          · cases op with
            | enqueueRunnerCommand node command =>
                have henqueue := mailboxOf_enqueue nodeId trace s node command
                split_ifs at henqueue
                · exact .inr ⟨_, henqueue⟩
                · exact .inl henqueue
            | nextRunnerCommand node lastSequence =>
                have hnext :=
                  mailboxOf_next nodeId trace s node lastSequence hpoll
                split_ifs at hnext
                · exact .inr ⟨_, hnext⟩
                · exact .inl hnext
            | _ => cases hwrites
          · left
            have hwrites' := Bool.not_eq_true _ ▸ hwrites
            obtain ⟨henqueued, hdelivered⟩ :=
              not_event_of_not_writes hwrites' nodeId
                (app.answer crates (.store op) t s).1
            have hqueues :=
              MemoryStore.exec_frame crates app.tenantId (g := .queues)
                hwrites' t s.store
            rw [mailboxOf_append, henqueued, hdelivered]
            simp only [MemoryStore.SameTables] at hqueues
            simp [mailboxOf, queueOf, AppState.answer, hqueues]
      | nextSequence | pushRunnerResult | runnerResultCount | now | uuid =>
          left
          rw [mailboxOf_append]
          simp [mailboxOf, enqueuedBy, deliveredBy, AppState.answer,
            AppState.nextSequence]

/-! ## Which runs lose nothing -/

/--
A run that enqueues the commands of a node in the order of their sequences
loses none of them.  Conversely, a run that has drained the queue and lost none
of its distinct positive sequences has enqueued them in order.
-/
theorem commands_survive_in_order
    (crates : Crates) (app : AppState) (nodeId : String)
    (requests : List Request)
    {pool : Pool Call Call.Ret Unit Shared} {trace : Trace}
    (h : Run crates app nodeId requests pool trace) :
    (EnqueuedInOrder nodeId trace →
      NoCommandLost nodeId trace pool.world) ∧
    (queueOf nodeId pool.world.store = [] →
      (∀ command ∈ enqueuedFor nodeId trace, 0 < command.sequenceNumber) →
      ((enqueuedFor nodeId trace).map
        SignedRunnerCommand.sequenceNumber).Nodup →
      NoCommandLost nodeId trace pool.world →
      EnqueuedInOrder nodeId trace) := by
  obtain ⟨events, hevents⟩ := h.mailbox
  have hqueue := congrArg Mailbox.State.queue hevents
  have hpushed := congrArg Mailbox.State.pushed hevents
  have hdelivered := congrArg Mailbox.State.delivered hevents
  simp only [mailboxOf] at hqueue hpushed hdelivered
  constructor
  · intro horder command hcommand
    have hall := Mailbox.delivered_append_queue
      SignedRunnerCommand.sequenceNumber events (hpushed ▸ horder)
    rw [hdelivered, hqueue, hpushed] at hall
    rw [← hall, List.mem_append] at hcommand
    exact hcommand.symm
  · intro hdrained hpos hnodup hlost
    have horder := Mailbox.inOrder_of_drained
      SignedRunnerCommand.sequenceNumber events
      (hpushed ▸ hpos) (hpushed ▸ hnodup) (hqueue.trans hdrained)
    rw [hpushed, hdelivered] at horder
    apply horder
    intro command hcommand
    rcases hlost command hcommand with hqueued | hdone
    · rw [hdrained] at hqueued
      cases hqueued
    · exact hdone

/-! ### One compilation overtakes another -/

/-- Serve the calls of threads as a schedule says, while polls are fair. -/
def runSchedule
    (crates : Crates) (app : AppState) (nodeId : String) :
    List (ℕ × Tick) → Pool Call Call.Ret Unit Shared × Trace →
      Option (Pool Call Call.Ret Unit Shared × Trace)
  | [], state => some state
  | (i, t) :: rest, (pool, trace) =>
      match Pool.serve (app.answer crates) i t pool with
      | none => none
      | some (served, pool') =>
          if passesHighest nodeId trace served.op then
            runSchedule crates app nodeId rest (pool', trace ++ [served])
          else
            none

theorem Run.schedule
    {crates : Crates} {app : AppState} {nodeId : String}
    {requests : List Request} (schedule : List (ℕ × Tick))
    {pool pool' : Pool Call Call.Ret Unit Shared} {trace trace' : Trace}
    (h : Run crates app nodeId requests pool trace)
    (hschedule : runSchedule crates app nodeId schedule (pool, trace) =
      some (pool', trace')) :
    Run crates app nodeId requests pool' trace' := by
  induction schedule generalizing pool trace with
  | nil =>
      obtain ⟨rfl, rfl⟩ := Prod.mk.inj (Option.some.inj hschedule)
      exact h
  | cons next schedule ih =>
      obtain ⟨i, t⟩ := next
      simp only [runSchedule] at hschedule
      split at hschedule
      · cases hschedule
      · rename_i served pool'' hserve
        split at hschedule
        · rename_i hpoll
          exact ih (h.step (Pool.serve_step hserve) hpoll) hschedule
        · cases hschedule

/-- A node and a profile, two compilations for them, and two polls. -/
def twoCompilations (lastSequence : UInt64) : List Request :=
  [ registration "dev-registration-token" "node" 1,
    .createVlessRealityProfile "profile" "example.com",
    .compileDeployment [] ⟨"profile", "node"⟩,
    .compileDeployment [] ⟨"profile", "node"⟩,
    .nextRunnerCommand "node" none runnerHeaders,
    .nextRunnerCommand "node" (some lastSequence) runnerHeaders ]

/--
The second compilation allocates before the first one enqueues, and each command
is polled when it is there.
-/
def overlappingSchedule : List (ℕ × Tick) :=
  (List.replicate 4 0 ++ List.replicate 2 1 ++ List.replicate 10 2 ++
    List.replicate 10 3 ++ List.replicate 3 2 ++ [4] ++ List.replicate 3 3 ++
    [5]).map (fun i => (i, referenceTick 1700000000 "id"))

/--
The first compilation is interrupted between its allocation and its enqueue by
the whole of the second one and a poll.
-/
def overtakingSchedule : List (ℕ × Tick) :=
  (List.replicate 4 0 ++ List.replicate 2 1 ++ List.replicate 10 2 ++
    List.replicate 13 3 ++ [4] ++ List.replicate 3 2 ++ [5]).map
    (fun i => (i, referenceTick 1700000000 "id"))

/-- The sequences enqueued for the node, still queued, and delivered. -/
def sequencesAfter (requests : List Request) (schedule : List (ℕ × Tick)) :
    Option (List ℕ × List ℕ × List ℕ) :=
  (runSchedule referenceCrates referenceApp "node" schedule
    (⟨.new, requests.map (referenceApp.thread referenceCrates)⟩,
      [])).map (fun state =>
        ((enqueuedFor "node" state.2).map
            SignedRunnerCommand.sequenceNumber,
          (queueOf "node" state.1.world.store).map
            SignedRunnerCommand.sequenceNumber,
          (deliveredTo "node" state.2).map
            SignedRunnerCommand.sequenceNumber))

/-- A schedule that can be served is a run with these sequences. -/
theorem run_of_sequencesAfter
    {requests : List Request} {schedule : List (ℕ × Tick)}
    {enqueued queued delivered : List ℕ}
    (h : sequencesAfter requests schedule = some (enqueued, queued, delivered)) :
    ∃ pool trace,
      Run referenceCrates referenceApp "node" requests pool trace ∧
      (enqueuedFor "node" trace).map SignedRunnerCommand.sequenceNumber =
        enqueued ∧
      (queueOf "node" pool.world.store).map
        SignedRunnerCommand.sequenceNumber = queued ∧
      (deliveredTo "node" trace).map SignedRunnerCommand.sequenceNumber =
        delivered := by
  obtain ⟨⟨pool, trace⟩, hschedule, hsequences⟩ :=
    Option.map_eq_some_iff.mp h
  obtain ⟨henqueued, hrest⟩ := Prod.mk.inj hsequences
  obtain ⟨hqueued, hdelivered⟩ := Prod.mk.inj hrest
  exact ⟨pool, trace, Run.start.schedule schedule hschedule, henqueued,
    hqueued, hdelivered⟩

/-- Two compilations that overlap and enqueue in order, with polls in between. -/
theorem commands_survive_in_order_overlapping :
    ∃ pool trace,
      Run referenceCrates referenceApp "node" (twoCompilations 1) pool trace ∧
      (deliveredTo "node" trace).map SignedRunnerCommand.sequenceNumber =
        [1, 2] ∧
      NoCommandLost "node" trace pool.world := by
  obtain ⟨pool, trace, hrun, henqueued, -, hdelivered⟩ :=
    @run_of_sequencesAfter (twoCompilations 1) overlappingSchedule
      [1, 2] [] [1, 2] (by decide +kernel)
  refine ⟨pool, trace, hrun, hdelivered, ?_⟩
  apply (commands_survive_in_order referenceCrates referenceApp "node"
    (twoCompilations 1) hrun).1
  constructor
  · intro command hcommand
    have hmem := List.mem_map_of_mem
      (f := SignedRunnerCommand.sequenceNumber) hcommand
    rw [henqueued] at hmem
    have hpositive : ∀ n ∈ [1, 2], 0 < n := by decide
    exact hpositive _ hmem
  · rw [henqueued]
    decide

/-- The command that was overtaken is discarded by the second poll. -/
theorem overtaken_command_lost :
    ¬ ∀ (crates : Crates) (app : AppState) (nodeId : String)
      (requests : List Request)
      (pool : Pool Call Call.Ret Unit Shared) (trace : Trace),
      Run crates app nodeId requests pool trace →
      NoCommandLost nodeId trace pool.world := by
  intro h
  obtain ⟨pool, trace, hrun, henqueued, hqueued, hdelivered⟩ :=
    @run_of_sequencesAfter (twoCompilations 2) overtakingSchedule
      [2, 1] [] [2] (by decide +kernel)
  have hmem :
      1 ∈ (enqueuedFor "node" trace).map
        SignedRunnerCommand.sequenceNumber := by
    rw [henqueued]
    decide
  obtain ⟨command, hcommand, hsequence⟩ := List.mem_map.mp hmem
  rcases h referenceCrates referenceApp "node" (twoCompilations 2) pool trace
    hrun command hcommand with hqueue | hdone
  · have hq := List.mem_map_of_mem
      (f := SignedRunnerCommand.sequenceNumber) hqueue
    rw [hqueued] at hq
    cases hq
  · have hd := List.mem_map_of_mem
      (f := SignedRunnerCommand.sequenceNumber) hdone
    rw [hdelivered, hsequence] at hd
    revert hd
    decide

end ProxyControl
