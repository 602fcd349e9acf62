import ProxyControl.ControlPlane.Compilation

/-!
# The replies to compilation requests

A 201 response describes the deployment of its own request when it comes from a
fresh compilation.  A replayed one describes the request that filled the cache,
and the cache is keyed by the idempotency key alone: it answers the request at
hand exactly when the first request that was answered under the key had the
same body.
-/

namespace ProxyControl

open Calendar Effects HashTable
open AppState (deploymentIdOf CompileDeploymentRequest
  CompileDeploymentResponse CompileReply)

/-- The JSON body of a 201 response. -/
def AppState.CompileReply.body (crates : Crates) : CompileReply → Json.Value
  | .cached body => body
  | .compiled response => response.toValue crates

def AppState.CompileReply.isCached : CompileReply → Bool
  | .cached _ => true
  | .compiled _ => false

/-- A field of a part of a compile response. -/
def replyField (body : Json.Value) (part field : String) :
    Option Json.Value :=
  (body.field? part).bind (fun value => value.field? field)

/-- The plan of a response is for the node and the profile of the request. -/
def PlansFor (body : Json.Value) (req : CompileDeploymentRequest) : Prop :=
  replyField body "deployment_plan" "target_node_id" =
      some (.string req.nodeId) ∧
    replyField body "deployment_plan" "target_profile_version_id" =
      some (.string req.profileId)

/-- The call puts the command for the deployment of a digest into a queue. -/
def queuesDeployment (nodeId sha256 : String) : Call → Prop
  | .store (.enqueueRunnerCommand node envelope) =>
      node = nodeId ∧ ∃ configJson,
        envelope.command.kind =
          .applyDeploymentPlan (deploymentIdOf sha256) sha256 configJson none
  | _ => False

/-- A command for the deployment of a response has been queued for the node. -/
def CommandQueued (log : Log) (nodeId : String) (body : Json.Value) : Prop :=
  ∃ sha256,
    replyField body "artifact" "sha256" = some (.string sha256) ∧
      ∃ e ∈ log, queuesDeployment nodeId sha256 e.op

/-- A 201 response answers the request that it is given to. -/
def AnswersRequest
    (log : Log) (body : Json.Value) (req : CompileDeploymentRequest) : Prop :=
  PlansFor body req ∧ CommandQueued log req.nodeId body

/-- The body of a compile request with the key that was answered with 201. -/
def answeredUnder
    (crates : Crates) (app : AppState) (key : String) :
    Exchange → Option CompileDeploymentRequest
  | ⟨.compileDeployment headers req, env, s⟩ =>
      if headers.lookup "idempotency-key" = some (some key) ∧
          ((app.compileDeployment crates headers req).runAlone crates app env
            s).1.isOk then
        some req
      else
        none
  | _ => none

/-- The body of the first such request of a history. -/
def firstAnswered
    (crates : Crates) (app : AppState) (key : String)
    (history : List Exchange) : Option CompileDeploymentRequest :=
  history.findSome? (answeredUnder crates app key)

variable {crates : Crates} {app : AppState}

theorem request_of_answeredUnder
    {key : String} {x : Exchange} {first : CompileDeploymentRequest}
    (h : answeredUnder crates app key x = some first) :
    ∃ headers, x.request = .compileDeployment headers first := by
  unfold answeredUnder at h
  split at h
  · split_ifs at h
    obtain rfl := Option.some.inj h
    exact ⟨_, rfl⟩
  · cases h

/-- The fields of a response that say what it answers. -/
theorem replyField_toValue
    (response : CompileDeploymentResponse) :
    replyField (response.toValue crates) "deployment_plan" "target_node_id" =
        some (.string response.deploymentPlan.targetNodeId) ∧
      replyField (response.toValue crates) "deployment_plan"
          "target_profile_version_id" =
        some (.string response.deploymentPlan.targetProfileVersionId) ∧
      replyField (response.toValue crates) "artifact" "sha256" =
        some (.string response.artifact.sha256) := by
  simp [replyField, CompileDeploymentResponse.toValue, Json.mapOf,
    Json.lookup_insertField, Json.Value.field?, AppState.deploymentPlanValue,
    AppState.artifactValue]

theorem plansFor_toValue_iff
    (response : CompileDeploymentResponse) (req : CompileDeploymentRequest) :
    PlansFor (response.toValue crates) req ↔
      response.deploymentPlan.targetNodeId = req.nodeId ∧
        response.deploymentPlan.targetProfileVersionId = req.profileId := by
  obtain ⟨hnode, hprofile, -⟩ := @replyField_toValue crates response
  simp [PlansFor, hnode, hprofile]

/-- A plan is for one request only. -/
theorem PlansFor.unique
    {body : Json.Value} {req req' : CompileDeploymentRequest}
    (h : PlansFor body req) (h' : PlansFor body req') :
    req = req' := by
  obtain ⟨hnode, hprofile⟩ := h
  obtain ⟨hnode', hprofile'⟩ := h'
  rw [hnode] at hnode'
  rw [hprofile] at hprofile'
  cases req
  cases req'
  simp_all

theorem AnswersRequest.mono
    {log log' : Log} {body : Json.Value} {req : CompileDeploymentRequest}
    (h : AnswersRequest log body req) (hlog : log ⊆ log') :
    AnswersRequest log' body req := by
  obtain ⟨hplans, sha256, hsha256, e, he, hqueues⟩ := h
  exact ⟨hplans, sha256, hsha256, e, hlog he, hqueues⟩

/-! ## Fresh replies -/

/-- A fresh response answers its request. -/
theorem CompileFreshRun.answers
    {req : CompileDeploymentRequest} {env : ℕ → Tick} {s s' : Shared}
    {response : CompileDeploymentResponse} {calls : Log}
    (h : CompileFreshRun crates app req env s (.ok response) calls s') :
    AnswersRequest calls (response.toValue crates) req := by
  cases h with
  | @queued configJson bytes coreVersion envelope hbytes hplanned c hc hsign =>
      obtain ⟨-, -, hsha256⟩ :=
        @replyField_toValue crates (c.response crates app envelope)
      refine ⟨?_, _, hsha256, ?_⟩
      · rw [plansFor_toValue_iff]
        simp [Compilation.response, Compilation.plan, hc]
      · refine ⟨_, List.mem_append_right _ (List.mem_cons_self ..), ?_⟩
        refine ⟨by rw [hc], configJson, ?_⟩
        rw [SignedRunnerCommand.command_of_sign hsign]
        simp [Compilation.command, Compilation.response, Compilation.artifact,
          Compilation.deploymentId, Artifact.fromBytes, hc]

/-- A fresh compilation leaves the cache alone. -/
theorem CompileFreshRun.cache_eq
    {req : CompileDeploymentRequest} {env : ℕ → Tick} {s s' : Shared}
    {r : Except HttpError CompileDeploymentResponse} {calls : Log}
    (h : CompileFreshRun crates app req env s r calls s') :
    s'.store.idempotencyResponses = s.store.idempotencyResponses := by
  have hstored : ∀ c : Compilation,
      (c.stored crates app).store.idempotencyResponses =
        c.before.store.idempotencyResponses :=
    fun c => @MemoryStore.exec_frame crates app.tenantId .responses
      (.recordArtifactBlob (c.artifact crates app) c.bytes) rfl (c.env 5)
      c.before.store
  cases h with
  | refused => rfl
  | unsigned hbytes hplanned c hc =>
      exact (hstored c).trans (by rw [hc])
  | queued hbytes hplanned c hc hsign =>
      exact (hstored c).trans (by rw [hc])

/-! ## The cache -/

/-- The cache holds what the first request answered under a key was told. -/
def CacheTrue
    (crates : Crates) (app : AppState)
    (history : List Exchange) (s : Shared) (key : String) : Prop :=
  match get s.store.idempotencyResponses key with
  | none => firstAnswered crates app key history = none
  | some body =>
      ∃ req, firstAnswered crates app key history = some req ∧
        AnswersRequest (logOf crates app history) body req

/-- An absent entry is filled, and the other entries stay. -/
theorem get_recordIdempotencyResponse
    {key : String} {body : Json.Value} {s : MemoryState}
    (h : get s.idempotencyResponses key = none) (key' : String) :
    get (MemoryStore.recordIdempotencyResponse key body
        s).2.idempotencyResponses key' =
      if key' = key then some body else get s.idempotencyResponses key' := by
  have habsent : containsKey s.idempotencyResponses key = false := by
    simp [containsKey, h]
  simp only [MemoryStore.recordIdempotencyResponse, habsent,
    Bool.false_eq_true, if_false, get_insert]

theorem firstAnswered_append
    (key : String) (history : List Exchange) (x : Exchange) :
    firstAnswered crates app key (history ++ [x]) =
      (firstAnswered crates app key history).or
        (answeredUnder crates app key x) := by
  simp only [firstAnswered, List.findSome?_append, List.findSome?_singleton]

/-- An exchange that does not fill the entry of a key keeps it true. -/
theorem CacheTrue.append
    {history : List Exchange} {x : Exchange} {s s' : Shared} {key : String}
    (h : CacheTrue crates app history s key)
    (hsame : get s'.store.idempotencyResponses key =
      get s.store.idempotencyResponses key)
    (hfills : get s.store.idempotencyResponses key = none →
      answeredUnder crates app key x = none) :
    CacheTrue crates app (history ++ [x]) s' key := by
  unfold CacheTrue at h ⊢
  rw [hsame, firstAnswered_append]
  cases hcached : get s.store.idempotencyResponses key with
  | none =>
      rw [hcached] at h
      simp only at h ⊢
      rw [h, hfills hcached, Option.or_none]
  | some body =>
      rw [hcached] at h
      obtain ⟨req, hfirst, hanswers⟩ := h
      refine ⟨req, by rw [hfirst, Option.some_or], hanswers.mono ?_⟩
      rw [logOf_append]
      exact List.subset_append_left _ _

/-- The exchange that fills the entry of a key makes it true. -/
theorem CacheTrue.fill
    {history : List Exchange} {x : Exchange} {s s' : Shared} {key : String}
    (h : CacheTrue crates app history s key)
    (body : Json.Value) (req : CompileDeploymentRequest)
    (hnone : get s.store.idempotencyResponses key = none)
    (hbody : get s'.store.idempotencyResponses key = some body)
    (hanswered : answeredUnder crates app key x = some req)
    (hanswers : AnswersRequest (x.calls crates app) body req) :
    CacheTrue crates app (history ++ [x]) s' key := by
  unfold CacheTrue at h ⊢
  rw [hnone] at h
  rw [hbody]
  refine ⟨req, ?_, hanswers.mono ?_⟩
  · rw [firstAnswered_append, h, hanswered, Option.none_or]
  · rw [logOf_append]
    exact List.subset_append_right _ _

/-- A compilation keeps the cache true. -/
theorem CacheTrue.compile
    {history : List Exchange} {s : Shared} {key : String}
    (h : CacheTrue crates app history s key)
    (headers : Headers) (req : CompileDeploymentRequest) (env : ℕ → Tick) :
    CacheTrue crates app
      (history ++ [⟨.compileDeployment headers req, env, s⟩])
      (app.serveAlone crates (.compileDeployment headers req) env s) key := by
  have hrun := @compileDeployment_run crates app headers req env s
  unfold Handler.RunsAs at hrun
  have hanswered :
      answeredUnder crates app key ⟨.compileDeployment headers req, env, s⟩ =
        if headers.lookup "idempotency-key" = some (some key) ∧
            ((app.compileDeployment crates headers req).runAlone crates app env
              s).1.isOk then
          some req
        else
          none :=
    rfl
  have hserve :
      app.serveAlone crates (.compileDeployment headers req) env s =
        ((app.compileDeployment crates headers req).runAlone crates app env
          s).2 :=
    rfl
  have hcalls :
      Exchange.calls crates app ⟨.compileDeployment headers req, env, s⟩ =
        (app.compileDeployment crates headers req).run.entries
          (app.answer crates) env s :=
    rfl
  rw [hserve]
  generalize (app.compileDeployment crates headers req).runAlone crates app env
    s = out at hrun hanswered
  generalize (app.compileDeployment crates headers req).run.entries
    (app.answer crates) env s = calls at hrun hcalls
  obtain ⟨r, s'⟩ := out
  simp only at hrun hanswered ⊢
  cases hrun with
  | unreadable hkey =>
      refine h.append rfl fun _ => ?_
      simp [hanswered, hkey]
  | keyless hkey hfresh =>
      refine h.append (by rw [hfresh.cache_eq]) fun _ => ?_
      simp [hanswered, hkey]
  | @replayed used body hkey hcached =>
      refine h.append rfl fun hnone => ?_
      rw [hanswered, if_neg]
      rintro ⟨hkey', -⟩
      rw [hkey] at hkey'
      obtain rfl := Option.some.inj (Option.some.inj hkey')
      rw [hcached] at hnone
      cases hnone
  | failed hkey hcached hfresh =>
      refine h.append (by rw [hfresh.cache_eq]) fun _ => ?_
      rw [hanswered, if_neg (by rintro ⟨-, hok⟩; cases hok)]
  | @cached used response calls s' t hkey hcached hfresh =>
      have hget := @get_recordIdempotencyResponse used
        (response.toValue crates) s'.store
        (by rw [hfresh.cache_eq, hcached]) key
      by_cases hused : key = used
      · subst hused
        refine h.fill (response.toValue crates) req hcached ?_ ?_ ?_
        · rw [hget, if_pos rfl]
        · rw [hanswered, if_pos ⟨hkey, rfl⟩]
        · rw [hcalls]
          refine hfresh.answers.mono fun e he => ?_
          exact List.mem_append_left _ (List.mem_cons_of_mem _ he)
      · refine h.append ?_ fun _ => ?_
        · rw [hget, if_neg hused, hfresh.cache_eq]
        · simp [hanswered, hkey, Ne.symm hused]

/-- Only a compilation fills the cache. -/
theorem Request.compiles_of_fills
    {request : Request} {op : StoreCall}
    (hop : request.mayMake op = true)
    (hwrites : MemoryStore.writes .responses op = true) :
    ∃ headers req, request = .compileDeployment headers req := by
  cases op with
  | recordIdempotencyResponse =>
      cases request with
      | compileDeployment headers req => exact ⟨headers, req, rfl⟩
      | _ => cases hop
  | _ => cases hwrites

/-- The cache of every history is true. -/
theorem History.cacheTrue
    {history : List Exchange} {s : Shared}
    (h : History crates app history s) (key : String) :
    CacheTrue crates app history s key := by
  induction h with
  | new => rfl
  | @request history s _ request env ih =>
      by_cases hcompile : ∃ headers req, request = .compileDeployment headers req
      · obtain ⟨headers, req, rfl⟩ := hcompile
        exact ih.compile headers req env
      · have hframe :
            MemoryStore.SameTables .responses s.store
              (app.serveAlone crates request env s).store := by
          refine serveAlone_frame (fun op hop => ?_) env s
          rw [Bool.eq_false_iff]
          exact fun hwrites =>
            hcompile (Request.compiles_of_fills hop hwrites)
        refine ih.append (congrArg (fun table => get table key) hframe)
          fun _ => ?_
        cases request with
        | compileDeployment headers req =>
            exact absurd ⟨headers, req, rfl⟩ hcompile
        | _ => rfl

/--
A 201 response answers its own request exactly when the first request that was
answered under its idempotency key, if any, had the same body.
-/
theorem compile_reply_answers_iff
    (crates : Crates) (app : AppState)
    {history : List Exchange} {s : Shared}
    (h : History crates app history s)
    (headers : Headers) (req : CompileDeploymentRequest) (env : ℕ → Tick)
    {reply : CompileReply}
    (hreply : ((app.compileDeployment crates headers req).runAlone crates app
      env s).1 = .ok reply) :
    AnswersRequest
        (logOf crates app
          (history ++ [⟨.compileDeployment headers req, env, s⟩]))
        (reply.body crates) req ↔
      ∀ key, headers.lookup "idempotency-key" = some (some key) →
        ∀ first ∈ firstAnswered crates app key history, first = req := by
  have hrun := @compileDeployment_run crates app headers req env s
  unfold Handler.RunsAs at hrun
  have hcalls :
      Exchange.calls crates app ⟨.compileDeployment headers req, env, s⟩ =
        (app.compileDeployment crates headers req).run.entries
          (app.answer crates) env s :=
    rfl
  rw [logOf_append, hcalls]
  generalize ((app.compileDeployment crates headers req).runAlone crates app
    env s).1 = r at hrun hreply
  generalize ((app.compileDeployment crates headers req).runAlone crates app
    env s).2 = s' at hrun
  generalize (app.compileDeployment crates headers req).run.entries
    (app.answer crates) env s = calls at hrun
  cases hrun with
  | unreadable hkey => cases hreply
  | failed hkey hcached hfresh => cases hreply
  | @keyless r calls s' hkey hfresh =>
      cases r with
      | error error => cases hreply
      | ok response =>
          obtain rfl := Except.ok.inj hreply
          refine iff_of_true ?_ ?_
          · exact hfresh.answers.mono (List.subset_append_right _ _)
          · intro key hkey'
            rw [hkey] at hkey'
            cases hkey'
  | @cached used response calls s' t hkey hcached hfresh =>
      obtain rfl := Except.ok.inj hreply
      have htrue := h.cacheTrue used
      unfold CacheTrue at htrue
      rw [hcached] at htrue
      refine iff_of_true ?_ ?_
      · refine hfresh.answers.mono fun e he => ?_
        exact List.mem_append_right _
          (List.mem_append_left _ (List.mem_cons_of_mem _ he))
      · intro key hkey' first hfirst
        rw [hkey] at hkey'
        obtain rfl := Option.some.inj (Option.some.inj hkey')
        rw [htrue] at hfirst
        cases hfirst
  | @replayed used body hkey hcached =>
      obtain rfl := Except.ok.inj hreply
      have htrue := h.cacheTrue used
      unfold CacheTrue at htrue
      rw [hcached] at htrue
      obtain ⟨first, hfirst, hanswers⟩ := htrue
      constructor
      · rintro ⟨hplans, -⟩ key hkey' first' hfirst'
        rw [hkey] at hkey'
        obtain rfl := Option.some.inj (Option.some.inj hkey')
        rw [hfirst] at hfirst'
        obtain rfl := Option.some.inj hfirst'
        exact hanswers.1.unique hplans
      · intro hsame
        obtain rfl := hsame used hkey first hfirst
        exact hanswers.mono (List.subset_append_left _ _)

/-! ### One key and two bodies -/

def keyedHeaders : Headers :=
  [("idempotency-key", some "key")]

/-- One profile compiled under a key. -/
def requestsUnderKey : List (Request × (ℕ → Tick)) :=
  [ (registration "dev-registration-token" "node" 1,
      referenceEnv 1700000000 "a"),
    (.createVlessRealityProfile "profile" "example.com",
      referenceEnv 1700000100 "b"),
    (.compileDeployment keyedHeaders ⟨"profile", "node"⟩,
      referenceEnv 1700000200 "c") ]

def compiledUnderKey : Shared :=
  referenceApp.serveAll referenceCrates requestsUnderKey .new

def historyUnderKey : List Exchange :=
  exchanges referenceCrates referenceApp requestsUnderKey .new

theorem compiledUnderKey_history :
    History referenceCrates referenceApp historyUnderKey compiledUnderKey :=
  History.new.serveAll requestsUnderKey

theorem compiledBody_eq :
    ∀ r ∈ requestsUnderKey, ∀ headers req,
      r.1 = .compileDeployment headers req → req = ⟨"profile", "node"⟩ := by
  intro r hr headers req heq
  simp only [requestsUnderKey, List.mem_cons, List.not_mem_nil, or_false] at hr
  rcases hr with rfl | rfl | rfl
  · cases heq
  · cases heq
  · exact (Request.compileDeployment.inj heq).2.symm

/-- A compilation request after that, with headers of its own. -/
def compileAfter (headers : Headers) (profileId : String) :
    Except HttpError CompileReply × Shared :=
  (referenceApp.compileDeployment referenceCrates headers
    ⟨profileId, "node"⟩).runAlone referenceCrates referenceApp
      (referenceEnv 1700000300 "d") compiledUnderKey

/-- The same request again is answered with the stored response. -/
theorem compile_reply_answers_iff_repeated :
    ∃ body,
      (compileAfter keyedHeaders "profile").1 = .ok (.cached body) ∧
      AnswersRequest
        (logOf referenceCrates referenceApp
          (historyUnderKey ++ [⟨.compileDeployment keyedHeaders ⟨"profile", "node"⟩,
            referenceEnv 1700000300 "d", compiledUnderKey⟩]))
        body ⟨"profile", "node"⟩ := by
  have hcached : (compileAfter keyedHeaders "profile").1.toOption.any
      CompileReply.isCached = true := by
    decide +kernel
  obtain ⟨reply, hreply, hcached⟩ := (Option.any_eq_true _ _).mp hcached
  cases reply with
  | compiled response => cases hcached
  | cached body =>
      have hreply := eq_ok_of_toOption hreply
      refine ⟨body, hreply, ?_⟩
      refine (compile_reply_answers_iff referenceCrates referenceApp
        compiledUnderKey_history keyedHeaders _ _ hreply).mpr ?_
      intro key _ first hfirst
      obtain ⟨x, hx, hanswered⟩ := List.exists_of_findSome?_eq_some hfirst
      obtain ⟨headers, hrequest⟩ := request_of_answeredUnder hanswered
      exact compiledBody_eq _ (mem_exchanges hx) headers first hrequest

/-- The profile that a response is about. -/
def repliedProfile (body : Json.Value) : Option String :=
  match replyField body "deployment_plan" "target_profile_version_id" with
  | some (.string profileId) => some profileId
  | _ => none

/-- Under the same key, the response is about the first request's profile. -/
theorem replayed_reply_answers_another :
    ¬ ∀ (crates : Crates) (app : AppState)
      (history : List Exchange) (s : Shared),
      History crates app history s →
      ∀ (headers : Headers) (req : CompileDeploymentRequest)
        (env : ℕ → Tick) (reply : CompileReply),
        ((app.compileDeployment crates headers req).runAlone crates app env
          s).1 = .ok reply →
        AnswersRequest
          (logOf crates app
            (history ++ [⟨.compileDeployment headers req, env, s⟩]))
          (reply.body crates) req := by
  intro h
  obtain ⟨reply, hreply⟩ :=
    @exists_reply _ (compileAfter keyedHeaders "other") (by decide +kernel)
  have hreply' := congrArg Prod.fst hreply
  have hanswers := h referenceCrates referenceApp _ _ compiledUnderKey_history
    keyedHeaders ⟨"other", "node"⟩ _ reply hreply'
  have hprofile :
      (compileAfter keyedHeaders "other").1.toOption.bind
        (fun reply => repliedProfile (reply.body referenceCrates)) =
          some "profile" := by
    decide +kernel
  rw [hreply'] at hprofile
  have hother : repliedProfile (reply.body referenceCrates) =
      some "other" := by
    unfold repliedProfile
    rw [hanswers.1.2]
  simp [Except.toOption, hother] at hprofile

end ProxyControl
