import ProxyControl.ControlPlane.CompileReplies

/-!
# Compilations under one idempotency key

Any number of compilation requests with one key and one body are interleaved at
their calls.  The key is looked up first and recorded last, in two calls of
their own: as long as no request looks the key up while another one stands
between the two, one command is queued and all responses are the same.

`CompilePool` is the invariant: either every thread waits for its look-up or is
finished, or one thread is past its look-up and all the others wait.
-/

namespace ProxyControl

open Effects HashTable
open AppState (CompileDeploymentRequest CompileDeploymentResponse CompileReply)

/-- A compilation request in flight. -/
abbrev CompileThread : Type :=
  Program Call Call.Ret (Except HttpError CompileReply)

/-- Whether the call puts a command into a queue. -/
def isEnqueue : Call → Bool
  | .store (.enqueueRunnerCommand ..) => true
  | _ => false

/-- The number of commands that the calls have queued. -/
def enqueues (ops : List Call) : ℕ :=
  ops.countP isEnqueue

/-- Whether the call looks an idempotency key up. -/
def isKeyLookup : Call → Bool
  | .store (.idempotencyResponse ..) => true
  | _ => false

/-- The thread has looked its key up and is not finished. -/
def inProgress : CompileThread → Bool
  | .done _ => false
  | .call op _ => !isKeyLookup op

/-- No key is looked up while another request is past its look-up. -/
def lookupsApart
    (pool : Pool Call Call.Ret (Except HttpError CompileReply) Shared)
    (op : Call) : Bool :=
  !isKeyLookup op || pool.threads.all (fun thread => !inProgress thread)

/-- One command at most is queued, and the 201 responses have one body. -/
structure CompiledOnce
    (crates : Crates)
    (pool : Pool Call Call.Ret (Except HttpError CompileReply) Shared)
    (trace : Trace) : Prop where
  queued : enqueues (trace.map (fun served => served.op)) ≤ 1
  sameReply : ∀ reply reply',
    .done (.ok reply) ∈ pool.threads → .done (.ok reply') ∈ pool.threads →
    reply.body crates = reply'.body crates

section Threads

variable (crates : Crates) (app : AppState)
variable (key : String) (req : CompileDeploymentRequest)

/-- What follows the look-up of the key. -/
def afterLookup :
    Call.Ret (.store (.idempotencyResponse app.tenantId key)) → CompileThread
  | .ok (some body) => .done (.ok (.cached body))
  | .ok none =>
      (do
        let response ← app.compileFresh crates req
        Handler.store (.recordIdempotencyResponse app.tenantId key
          (response.toValue crates))
        return .compiled response : Handler CompileReply).run
  | .error error => .done (.error (toHttpError error))

/-- A request that waits for its look-up. -/
def waitingThread : CompileThread :=
  .call (.store (.idempotencyResponse app.tenantId key))
    (afterLookup crates app key req)

theorem compileDeployment_eq_waitingThread
    {headers : Headers}
    (hkey : headers.lookup "idempotency-key" = some (some key)) :
    (app.compileDeployment crates headers req).run =
      waitingThread crates app key req := by
  unfold AppState.compileDeployment AppState.optionalHeaderValue
  rw [hkey]
  refine congrArg (Program.call _) (funext fun r => ?_)
  cases r with
  | error error => rfl
  | ok cached => cases cached <;> rfl

/-- Run to its end, the thread leaves its response in the cache. -/
def Finishes (thread : CompileThread) (n : ℕ) (s : Shared) : Prop :=
  ∀ env,
    match (thread.run (app.answer crates) env s).1 with
    | .ok reply =>
        n + enqueues ((thread.entries (app.answer crates) env s).map
            (fun e => e.op)) ≤ 1 ∧
          get (thread.run (app.answer crates) env
            s).2.store.idempotencyResponses key = some (reply.body crates)
    | .error _ =>
        n + enqueues ((thread.entries (app.answer crates) env s).map
            (fun e => e.op)) = 0 ∧
          get (thread.run (app.answer crates) env
            s).2.store.idempotencyResponses key = none

/-- The states of a pool in which look-ups stay apart. -/
inductive CompilePool :
    Pool Call Call.Ret (Except HttpError CompileReply) Shared → ℕ → Prop
  | idle
      {pool : Pool Call Call.Ret (Except HttpError CompileReply) Shared}
      {n : ℕ}
      (hthreads : ∀ thread ∈ pool.threads,
        thread = waitingThread crates app key req ∨ ∃ r, thread = .done r)
      (hreplies : ∀ reply, .done (.ok reply) ∈ pool.threads →
        get pool.world.store.idempotencyResponses key =
          some (reply.body crates))
      (hcount : n ≤ 1)
      (hnone : get pool.world.store.idempotencyResponses key = none → n = 0) :
      CompilePool pool n
  | busy
      {s : Shared} {before after : List CompileThread}
      {thread : CompileThread} {n : ℕ}
      (hothers : ∀ other ∈ before ++ after,
        other = waitingThread crates app key req ∨
          ∃ error, other = .done (.error error))
      (hthread : inProgress thread = true)
      (hcalls : thread.All (fun op => isKeyLookup op = false))
      (hfinishes : Finishes crates app key thread n s) :
      CompilePool ⟨s, before ++ thread :: after⟩ n

end Threads

variable {crates : Crates} {app : AppState}
variable {key : String} {req : CompileDeploymentRequest}

/-! ## One thread -/

theorem enqueues_cons (op : Call) (ops : List Call) :
    enqueues (op :: ops) = enqueues [op] + enqueues ops := by
  simp only [enqueues, List.countP_cons, List.countP_nil]
  omega

theorem enqueues_append (ops ops' : List Call) :
    enqueues (ops ++ ops') = enqueues ops + enqueues ops' :=
  List.countP_append ..

/-- One call of a thread that finishes. -/
theorem Finishes.call
    {op : Call} {next : op.Ret → CompileThread} {n : ℕ} {s : Shared}
    (h : Finishes crates app key (.call op next) n s) (t : Tick) :
    Finishes crates app key (next (app.answer crates op t s).1)
      (n + enqueues [op]) (app.answer crates op t s).2 := by
  intro env
  have hrun := h (fun i => (Nat.casesOn i t env : Tick))
  simp only [Program.run, Program.entries, List.map_cons] at hrun
  rw [enqueues_cons, ← Nat.add_assoc] at hrun
  exact hrun

theorem enqueues_of_lookups
    {lookups : Log} (h : ∀ e ∈ lookups, IsLookup req e.op) :
    enqueues (lookups.map (fun e => e.op)) = 0 := by
  rw [enqueues, List.countP_eq_zero]
  intro op hop
  obtain ⟨e, he, rfl⟩ := List.mem_map.mp hop
  rcases h e he with hlookup | hlookup | hlookup
  all_goals
    rw [hlookup]
    exact Bool.false_ne_true

/-- A fresh compilation queues one command if and only if it succeeds. -/
theorem CompileFreshRun.enqueues
    {env : ℕ → Tick} {s s' : Shared}
    {r : Except HttpError CompileDeploymentResponse} {calls : Log}
    (h : CompileFreshRun crates app req env s r calls s') :
    enqueues (calls.map (fun e => e.op)) =
      match r with
      | .ok _ => 1
      | .error _ => 0 := by
  cases h with
  | refused hlookups => exact enqueues_of_lookups hlookups
  | unsigned => rfl
  | queued => rfl

/-- A request that finds no response finishes with its own one. -/
theorem finishes_waitingThread
    {s : Shared} (hnone : get s.store.idempotencyResponses key = none) :
    Finishes crates app key (waitingThread crates app key req) 0 s := by
  intro env
  let headers : Headers := [("idempotency-key", some key)]
  have hkey : headers.lookup "idempotency-key" = some (some key) := rfl
  have hrun := @compileDeployment_run crates app headers req env s
  unfold Handler.RunsAs Handler.runAlone at hrun
  rw [compileDeployment_eq_waitingThread crates app key req hkey] at hrun
  generalize Program.run (app.answer crates)
    (waitingThread crates app key req) env s = out at hrun ⊢
  generalize Program.entries (app.answer crates)
    (waitingThread crates app key req) env s = calls at hrun ⊢
  obtain ⟨r, s'⟩ := out
  cases hrun with
  | unreadable hkey' =>
      rw [hkey] at hkey'
      cases hkey'
  | keyless hkey' =>
      rw [hkey] at hkey'
      cases hkey'
  | replayed hkey' hcached =>
      rw [hkey] at hkey'
      cases hkey'
      rw [hnone] at hcached
      cases hcached
  | failed hkey' hcached h =>
      rw [hkey] at hkey'
      cases hkey'
      have hcount : ProxyControl.enqueues (_ : List Call) = 0 := h.enqueues
      refine ⟨?_, ?_⟩
      · rw [List.map_cons, enqueues_cons, hcount]
        rfl
      · rw [h.cache_eq, hnone]
  | cached hkey' hcached h =>
      rw [hkey] at hkey'
      cases hkey'
      have hcount : ProxyControl.enqueues (_ : List Call) = 1 := h.enqueues
      refine ⟨?_, ?_⟩
      · rw [List.cons_append, List.map_cons, enqueues_cons, List.map_append,
          enqueues_append, hcount]
        exact Nat.le_refl _
      · rw [get_recordIdempotencyResponse (by rw [h.cache_eq, hnone]),
          if_pos rfl]
        rfl

/-! ## The pool -/

theorem not_keyLookup_of_compilationCall
    {op : Call} (h : compilationCall op = true) :
    isKeyLookup op = false := by
  cases op with
  | store op => cases op <;> first | rfl | cases h
  | _ => rfl

/-- A thread whose look-up found nothing is on its way. -/
theorem afterLookup_none :
    inProgress (afterLookup crates app key req (.ok none)) = true ∧
      (afterLookup crates app key req (.ok none)).All
        (fun op => isKeyLookup op = false) := by
  refine ⟨rfl, ?_⟩
  have hfresh : (app.compileFresh crates req).Calls
      (fun op => isKeyLookup op = false) :=
    Program.All.mono (AppState.calls_compileFresh crates app req)
      (fun _ => not_keyLookup_of_compilationCall)
  exact hfresh.bind (fun _ =>
    Handler.calls_store_bind rfl (fun _ => Handler.calls_pure _))

/-- A finished thread joins the others. -/
theorem CompilePool.finished
    {s : Shared} {before after : List CompileThread} {n : ℕ}
    {r : Except HttpError CompileReply}
    (hothers : ∀ other ∈ before ++ after,
      other = waitingThread crates app key req ∨
        ∃ error, other = .done (.error error))
    (hfinishes : Finishes crates app key (.done r) n s) :
    CompilePool crates app key req ⟨s, before ++ .done r :: after⟩ n := by
  have hend := hfinishes (fun _ => referenceTick 0 "")
  simp only [Program.run, Program.entries, List.map_nil, enqueues,
    List.countP_nil, Nat.add_zero] at hend
  have hmem : ∀ thread ∈ before ++ .done r :: after,
      thread = .done r ∨ thread ∈ before ++ after := by
    intro thread hthread
    simpa [or_left_comm] using hthread
  refine .idle ?_ ?_ ?_ ?_
  · intro thread hthread
    rcases hmem thread hthread with rfl | hother
    · exact .inr ⟨r, rfl⟩
    · rcases hothers thread hother with hwaits | ⟨error, rfl⟩
      · exact .inl hwaits
      · exact .inr ⟨_, rfl⟩
  · intro reply hreply
    rcases hmem _ hreply with heq | hother
    · obtain rfl := Program.done.inj heq
      exact hend.2
    · rcases hothers _ hother with hwaits | ⟨error, herror⟩
      · cases hwaits
      · cases herror
  · cases r with
    | ok reply => exact hend.1
    | error error => exact hend.1.le.trans (Nat.zero_le 1)
  · intro hnone
    cases r with
    | ok reply =>
        rw [hnone] at hend
        cases hend.2
    | error error => exact hend.1

/-- The next state of a thread that is past its look-up. -/
theorem CompilePool.advance
    {s : Shared} {before after : List CompileThread} {n : ℕ}
    {thread : CompileThread}
    (hothers : ∀ other ∈ before ++ after,
      other = waitingThread crates app key req ∨
        ∃ error, other = .done (.error error))
    (hcalls : thread.All (fun op => isKeyLookup op = false))
    (hfinishes : Finishes crates app key thread n s) :
    CompilePool crates app key req ⟨s, before ++ thread :: after⟩ n := by
  cases thread with
  | done r => exact .finished hothers hfinishes
  | call op next =>
      have hprogress : inProgress (.call op next) = true := by
        rw [inProgress, hcalls.1]
        rfl
      exact .busy hothers hprogress hcalls hfinishes

theorem CompilePool.step
    {pool pool' : Pool Call Call.Ret (Except HttpError CompileReply) Shared}
    {served : Pool.Served Call Call.Ret} {n : ℕ}
    (h : CompilePool crates app key req pool n)
    (hstep : Pool.Step (app.answer crates) pool served pool')
    (hallowed : lookupsApart pool served.op = true) :
    CompilePool crates app key req pool' (n + enqueues [served.op]) := by
  cases h with
  | idle hthreads hreplies hcount hnone =>
      obtain ⟨s, before, after, op, next, t⟩ := hstep
      -- the thread that is served waits for its look-up
      rcases hthreads (.call op next) (by simp) with hwaits | ⟨r, hr⟩
      · have hothers : ∀ other ∈ before ++ after,
            other ∈ before ++ .call op next :: after := by
          intro other hother
          simp only [List.mem_append, List.mem_cons] at hother ⊢
          tauto
        cases hwaits
        have hanswer :
            app.answer crates (.store (.idempotencyResponse app.tenantId key))
                t s =
              (.ok (get s.store.idempotencyResponses key), s) :=
          rfl
        rw [hanswer]
        cases hcached : get s.store.idempotencyResponses key with
        | some body =>
            refine .idle ?_ ?_ hcount ?_
            · intro thread hthread
              rcases List.mem_append.mp hthread with hmem | hmem
              · exact hthreads thread (List.mem_append_left _ hmem)
              · rcases List.mem_cons.mp hmem with rfl | hmem
                · exact .inr ⟨_, rfl⟩
                · exact hthreads thread
                    (hothers thread (List.mem_append_right _ hmem))
            · intro reply hreply
              rcases List.mem_append.mp hreply with hmem | hmem
              · exact hreplies reply (List.mem_append_left _ hmem)
              · rcases List.mem_cons.mp hmem with heq | hmem
                · cases heq
                  exact hcached
                · exact hreplies reply
                    (hothers _ (List.mem_append_right _ hmem))
            · intro habsent
              rw [hcached] at habsent
              cases habsent
        | none =>
            obtain ⟨hprogress, hcalls⟩ :=
              @afterLookup_none crates app key req
            have hfinishes := @finishes_waitingThread crates app key req s
              hcached
            have hnext := hfinishes.call t
            rw [hanswer, hcached] at hnext
            rw [hnone hcached]
            refine .busy ?_ hprogress hcalls hnext
            intro other hother
            rcases hthreads other (hothers other hother) with
              hwaits | ⟨r, rfl⟩
            · exact .inl hwaits
            · cases r with
              | error error => exact .inr ⟨error, rfl⟩
              | ok reply =>
                  have hfilled := hreplies reply (hothers _ hother)
                  rw [hcached] at hfilled
                  cases hfilled
      · cases hr
  | @busy s before after thread n hothers hthread hcalls hfinishes =>
      rcases hstep.at_or_beside with ⟨next, t, rfl, -, rfl⟩ | ⟨next, hmem⟩
      · exact .advance hothers (hcalls.2 _) (hfinishes.call t)
      · -- another thread can only look the key up, which is not allowed now
        rcases hothers _ hmem with hwaits | ⟨error, herror⟩
        · have hop := (Program.call.inj hwaits).1
          rw [hop] at hallowed
          simp [lookupsApart, isKeyLookup, hthread] at hallowed
        · cases herror

/-- Requests that wait for their look-ups. -/
theorem CompilePool.start
    (s : Shared) {requests : List Headers}
    (hkeys : ∀ headers ∈ requests,
      headers.lookup "idempotency-key" = some (some key)) :
    CompilePool crates app key req
      ⟨s, requests.map
        (fun headers => (app.compileDeployment crates headers req).run)⟩ 0 := by
  have hwaits : ∀ thread ∈ requests.map
      (fun headers => (app.compileDeployment crates headers req).run),
      thread = waitingThread crates app key req := by
    intro thread hthread
    obtain ⟨headers, hheaders, rfl⟩ := List.mem_map.mp hthread
    exact compileDeployment_eq_waitingThread crates app key req
      (hkeys headers hheaders)
  refine .idle ?_ ?_ (Nat.zero_le 1) (fun _ => rfl)
  · intro thread hthread
    exact .inl (hwaits thread hthread)
  · intro reply hreply
    cases hwaits _ hreply

theorem CompilePool.compiledOnce
    {pool : Pool Call Call.Ret (Except HttpError CompileReply) Shared}
    {trace : Trace}
    (h : CompilePool crates app key req pool
      (enqueues (trace.map (fun served => served.op)))) :
    CompiledOnce crates pool trace := by
  generalize hn : enqueues (trace.map (fun served => served.op)) = n at h
  cases h with
  | idle hthreads hreplies hcount hnone =>
      refine ⟨hn.trans_le hcount, ?_⟩
      intro reply reply' hreply hreply'
      exact Option.some.inj
        ((hreplies reply hreply).symm.trans (hreplies reply' hreply'))
  | @busy s before after thread n hothers hthread hcalls hfinishes =>
      refine ⟨?_, ?_⟩
      · have hend := hfinishes (fun _ => referenceTick 0 "")
        rw [hn]
        split at hend <;> omega
      · intro reply reply' hreply
        have hmem : .done (.ok reply) = thread ∨
            .done (.ok reply) ∈ before ++ after := by
          simpa [or_left_comm] using hreply
        rcases hmem with rfl | hother
        · cases hthread
        · rcases hothers _ hother with hwaits | ⟨error, herror⟩
          · cases hwaits
          · cases herror

/--
In every interleaving in which no request looks the key up while another one
stands between its look-up and its end, one command at most is queued and all
201 responses are equal.
-/
theorem compiled_once
    (crates : Crates) (app : AppState)
    (key : String) (req : CompileDeploymentRequest)
    {requests : List Headers}
    (hkeys : ∀ headers ∈ requests,
      headers.lookup "idempotency-key" = some (some key))
    (s : Shared)
    {pool : Pool Call Call.Ret (Except HttpError CompileReply) Shared}
    {trace : Trace}
    (h : Pool.Run (app.answer crates) lookupsApart
      ⟨s, requests.map
        (fun headers => (app.compileDeployment crates headers req).run)⟩
      pool trace) :
    CompiledOnce crates pool trace := by
  refine @CompilePool.compiledOnce crates app key req pool trace ?_
  induction h with
  | start => exact .start s hkeys
  | step h hstep hallowed ih =>
      rw [List.map_append, enqueues_append]
      exact ih.step hstep hallowed

/-! ### Two requests under one key -/

/-- A registered node and a profile. -/
def compilable : Shared :=
  referenceApp.serveAll referenceCrates
    [ (registration "dev-registration-token" "node" 1,
        referenceEnv 1700000000 "a"),
      (.createVlessRealityProfile "profile" "example.com",
        referenceEnv 1700000100 "b") ]
    .new

def twoCompiles :
    Pool Call Call.Ret (Except HttpError CompileReply) Shared :=
  ⟨compilable, [keyedHeaders, keyedHeaders].map (fun headers =>
    (referenceApp.compileDeployment referenceCrates headers
      ⟨"profile", "node"⟩).run)⟩

/-- Whether the request has been answered with 201. -/
def answered : CompileThread → Bool
  | .done (.ok _) => true
  | _ => false

/-- The requests answered and the commands queued when calls are served so. -/
def outcomeOf
    (allowed : Pool Call Call.Ret (Except HttpError CompileReply) Shared →
      Call → Bool)
    (schedule : List ℕ) : Option (ℕ × ℕ) :=
  (Pool.serveAll (referenceApp.answer referenceCrates) allowed
    (schedule.map (fun i => (i, referenceTick 1700000200 "c")))
    (twoCompiles, [])).map (fun state =>
      (state.1.threads.countP answered,
        enqueues (state.2.map (fun served => served.op))))

theorem run_of_outcomeOf
    {allowed : Pool Call Call.Ret (Except HttpError CompileReply) Shared →
      Call → Bool}
    {schedule : List ℕ} {n m : ℕ}
    (h : outcomeOf allowed schedule = some (n, m)) :
    ∃ pool trace,
      Pool.Run (referenceApp.answer referenceCrates) allowed twoCompiles pool
        trace ∧
      pool.threads.countP answered = n ∧
      enqueues (trace.map (fun served => served.op)) = m := by
  obtain ⟨⟨pool, trace⟩, hserve, hcounts⟩ := Option.map_eq_some_iff.mp h
  obtain ⟨hanswered, hqueued⟩ := Prod.mk.inj hcounts
  exact ⟨pool, trace, Pool.Run.start.serveAll _ hserve, hanswered, hqueued⟩

/-- One request after the other: both are answered, alike. -/
theorem compiled_once_in_turn :
    ∃ pool trace,
      Pool.Run (referenceApp.answer referenceCrates) lookupsApart twoCompiles
        pool trace ∧
      pool.threads.countP answered = 2 ∧
      CompiledOnce referenceCrates pool trace := by
  obtain ⟨pool, trace, hrun, hanswered, -⟩ :=
    @run_of_outcomeOf lookupsApart (List.replicate 17 0 ++ [1]) 2 1
      (by decide +kernel)
  refine ⟨pool, trace, hrun, hanswered, ?_⟩
  refine compiled_once referenceCrates referenceApp "key" ⟨"profile", "node"⟩
    ?_ compilable hrun
  intro headers hheaders
  obtain rfl : headers = keyedHeaders := by simpa using hheaders
  rfl

/-- Two requests look the key up before either of them is recorded. -/
theorem overlapping_requests_compile_twice :
    ¬ ∀ (crates : Crates) (app : AppState)
      (key : String) (req : CompileDeploymentRequest)
      (requests : List Headers),
      (∀ headers ∈ requests,
        headers.lookup "idempotency-key" = some (some key)) →
      ∀ s : Shared, AppState.Reachable crates app s →
      ∀ (pool : Pool Call Call.Ret (Except HttpError CompileReply) Shared)
        (trace : Trace),
        Pool.Run (app.answer crates) (fun _ _ => true)
          ⟨s, requests.map
            (fun headers => (app.compileDeployment crates headers req).run)⟩
          pool trace →
        CompiledOnce crates pool trace := by
  intro h
  obtain ⟨pool, trace, hrun, -, hqueued⟩ :=
    @run_of_outcomeOf (fun _ _ => true)
      ([0] ++ List.replicate 17 1 ++ List.replicate 16 0) 2 2
      (by decide +kernel)
  have honce := h referenceCrates referenceApp "key" ⟨"profile", "node"⟩
    [keyedHeaders, keyedHeaders] (by simp [keyedHeaders]) compilable
    (AppState.Reachable.new.serveAll _) pool trace hrun
  have hle := honce.queued
  omega

end ProxyControl
