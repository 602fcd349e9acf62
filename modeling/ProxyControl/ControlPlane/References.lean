import ProxyControl.ControlPlane.CompileReplies
import ProxyControl.ControlPlane.RollbackTargets

/-!
# The references of a compile response

A compile response names an artifact, a plan and a rollback pointer.  The
identifier of the pointer is built from the whole digest of the configuration
in the response, and from the deployment id, which has its first characters
after `dep-`, in the stored record.  The two never agree.

Requests of any kind and number interleave at their calls.  Responses may also
be replayed, so the identifiers in the cache are followed as well.
-/

namespace ProxyControl

open Effects HashTable
open AppState (deploymentIdOf CompileDeploymentRequest
  CompileDeploymentResponse CompileReply)

/-- The references of a compile response resolve in a state. -/
structure ReferencesResolve
    (crates : Crates) (body : Json.Value) (s : Shared) : Prop where
  artifact : ∃ artifactId bytes,
    replyField body "artifact" "id" = some (.string artifactId) ∧
    replyField body "artifact" "sha256" =
      some (.string (hexSha256 crates bytes)) ∧
    MemoryStore.artifactBytes artifactId s.store = .ok bytes
  config : ∃ artifactId,
    replyField body "artifact" "id" = some (.string artifactId) ∧
    replyField body "deployment_plan" "compiled_config_artifact_id" =
      some (.string artifactId)
  pointer : ∃ sha256 pointer,
    replyField body "artifact" "sha256" = some (.string sha256) ∧
    get s.store.rollbackPointers (deploymentIdOf sha256) = some pointer ∧
    replyField body "deployment_plan" "rollback_pointer_id" =
      some (.string pointer.rollbackPointerId)

/-- The reply of a compile request that has been answered with 201. -/
def compiledReply : Serving → Option CompileReply
  | ⟨.compileDeployment _ _, _, .done (.ok reply)⟩ => some reply
  | _ => none

/-- The pointer of a response is named by a digest. -/
def NamesDigest (crates : Crates) (body : Json.Value) : Prop :=
  ∃ bytes, replyField body "deployment_plan" "rollback_pointer_id" =
    some (.string ("rollback-" ++ hexSha256 crates bytes))

/-- Cached responses name digests, and stored pointers name deployments. -/
structure PointerNames (crates : Crates) (s : Shared) : Prop where
  cached : ∀ key, ∀ body ∈ get s.store.idempotencyResponses key,
    NamesDigest crates body
  stored : ∀ deploymentId, ∀ pointer ∈ get s.store.rollbackPointers deploymentId,
    ∃ sha256, pointer.rollbackPointerId = "rollback-" ++ deploymentIdOf sha256

/-- What a call may cache, and which deployment it may plan. -/
def NamesPointers (crates : Crates) : Call → Prop
  | .store (.recordIdempotencyResponse _ _ body) => NamesDigest crates body
  | .store (.recordDeploymentPlan plan) =>
      ∃ sha256, plan.deploymentId = deploymentIdOf sha256
  | _ => True

variable {crates : Crates} {app : AppState}

/-! ## The two names -/

/-- A digest has no letter `p`. -/
theorem hexSha256_ne_deploymentIdOf
    (bytes : Bytes) (sha256 : String) :
    hexSha256 crates bytes ≠ deploymentIdOf sha256 := by
  intro h
  have hdecode : Hex.decode (deploymentIdOf sha256) = none := by
    have hbytes : (deploymentIdOf sha256).toUTF8.data.toList =
        100 :: 101 :: 112 :: 45 :: (takeBytes 12 sha256).toUTF8.data.toList := by
      simp only [deploymentIdOf, String.toUTF8, String.toByteArray_append,
        ByteArray.data_append, Array.toList_append]
      rfl
    rw [Hex.decode, hbytes]
    have hp : Hex.digitValue (Char.ofNat (112 : UInt8).toNat) = none := by decide
    simp only [Hex.decodeBytes, hp]
    split <;> simp_all
  rw [← h, hexSha256, Hex.decode_encode] at hdecode
  cases hdecode

theorem namesDigest_toValue
    {response : CompileDeploymentResponse} {bytes : Bytes}
    (h : response.deploymentPlan.rollbackPointerId =
      "rollback-" ++ hexSha256 crates bytes) :
    NamesDigest crates (response.toValue crates) := by
  refine ⟨bytes, ?_⟩
  simp [replyField, CompileDeploymentResponse.toValue, Json.mapOf,
    Json.lookup_insertField, Json.Value.field?, AppState.deploymentPlanValue, h]

/-- A response that names a digest names no stored pointer. -/
theorem PointerNames.not_referencesResolve
    {body : Json.Value} {s : Shared}
    (h : PointerNames crates s) (hbody : NamesDigest crates body) :
    ¬ ReferencesResolve crates body s := by
  rintro ⟨-, -, sha256, pointer, -, hpointer, hname⟩
  obtain ⟨bytes, hdigest⟩ := hbody
  obtain ⟨other, hstored⟩ := h.stored _ pointer hpointer
  rw [hdigest] at hname
  have hid : "rollback-" ++ hexSha256 crates bytes = pointer.rollbackPointerId :=
    Json.Value.string.inj (Option.some.inj hname)
  rw [hstored, String.append_right_inj] at hid
  exact hexSha256_ne_deploymentIdOf bytes other hid

/-! ## What calls do to the names -/

theorem PointerNames.answer
    {op : Call} {s : Shared} (h : PointerNames crates s)
    (hop : NamesPointers crates op) (t : Tick) :
    PointerNames crates (app.answer crates op t s).2 := by
  cases op with
  | store op =>
      by_cases hresponses : MemoryStore.writes .responses op = true
      · cases op with
        | recordIdempotencyResponse tenantId key body =>
            refine ⟨?_, ?_⟩
            · intro other cached hcached
              simp only [AppState.answer, MemoryStore.exec,
                MemoryStore.recordIdempotencyResponse] at hcached
              split_ifs at hcached with habsent
              · exact h.cached other cached hcached
              · rw [get_insert] at hcached
                split_ifs at hcached with hkey
                · obtain rfl := Option.some.inj hcached
                  exact hop
                · exact h.cached other cached hcached
            · intro deploymentId pointer hpointer
              simp only [AppState.answer, MemoryStore.exec,
                MemoryStore.recordIdempotencyResponse] at hpointer
              split_ifs at hpointer
              · exact h.stored deploymentId pointer hpointer
              · exact h.stored deploymentId pointer hpointer
        | _ => cases hresponses
      · have hcache := MemoryStore.exec_frame crates app.tenantId
          (Bool.not_eq_true _ ▸ hresponses) t s.store
        refine ⟨fun key body hbody => h.cached key body ?_, ?_⟩
        · exact (congrArg (fun table => get table key) hcache) ▸ hbody
        · intro deploymentId pointer hpointer
          by_cases hplan : ∃ plan, op = .recordDeploymentPlan plan
          · obtain ⟨plan, rfl⟩ := hplan
            obtain ⟨sha256, hid⟩ := hop
            simp only [AppState.answer, MemoryStore.exec,
              MemoryStore.recordDeploymentPlan, MemoryStore.record,
              get_insert] at hpointer
            split_ifs at hpointer with hsame
            · obtain rfl := Option.some.inj hpointer
              exact ⟨sha256, by simp only [RollbackPointerRecord.new, hid]⟩
            · exact h.stored deploymentId pointer hpointer
          · refine h.stored deploymentId pointer ?_
            have hkept := (@exec_keeps_plans crates op app.tenantId t s.store
              (fun plan hop => hplan ⟨plan, hop⟩)).2
            exact hkept ▸ hpointer
  | _ => exact ⟨h.cached, h.stored⟩

/-! ## What compilations respond -/

namespace Handler

variable {crates : Crates} {app : AppState} {α β : Type}

/-- The handler keeps the names, and returns what `post` says. -/
def KeepsNames
    (crates : Crates) (app : AppState) (handler : Handler α)
    (post : α → Prop) : Prop :=
  Program.Promises (app.answer crates) (PointerNames crates)
    (NamesPointers crates) handler.run (fun r => ∀ a, r = .ok a → post a)

theorem Calls.keepsNames_bind
    {m : Handler α} {f : α → Handler β} {post : β → Prop}
    (h : Calls (NamesPointers crates) m)
    (hf : ∀ a, KeepsNames crates app (f a) post) :
    KeepsNames crates app (m >>= f) post := by
  have hrun : (m >>= f).run = m.run >>= ExceptT.bindCont f := rfl
  unfold KeepsNames
  rw [hrun, Program.promises_bind]
  refine Program.All.promises h ?_
  intro r
  cases r with
  | ok a => exact hf a
  | error e =>
      intro b hb
      cases hb

theorem keepsNames_pure
    {a : α} {post : α → Prop} (h : post a) :
    KeepsNames crates app (pure a : Handler α) post := by
  rintro b ⟨⟩
  exact h

theorem keepsNames_store_bind
    {op : StoreCall} {f : op.Value → Handler β} {post : β → Prop}
    (h : NamesPointers crates (.store op))
    (hf : ∀ t s, PointerNames crates s → ∀ a,
      (MemoryStore.exec crates app.tenantId op t s.store).1 = .ok a →
        KeepsNames crates app (f a) post) :
    KeepsNames crates app (Handler.store op >>= f) post := by
  refine ⟨h, fun t s hs => ?_⟩
  have hnext := hf t s hs
  simp only [AppState.answer]
  generalize (MemoryStore.exec crates app.tenantId op t s.store).1 = answer
    at hnext ⊢
  cases answer with
  | ok a => exact hnext a rfl
  | error e =>
      intro b hb
      cases hb

theorem KeepsNames.bind
    {m : Handler α} {f : α → Handler β} {between : α → Prop} {post : β → Prop}
    (h : KeepsNames crates app m between)
    (hf : ∀ a, between a → KeepsNames crates app (f a) post) :
    KeepsNames crates app (m >>= f) post := by
  have hrun : (m >>= f).run = m.run >>= ExceptT.bindCont f := rfl
  unfold KeepsNames at h ⊢
  rw [hrun, Program.promises_bind]
  refine h.mono ?_
  intro r hr
  cases r with
  | ok a => exact hf a (hr a rfl)
  | error e =>
      intro b hb
      cases hb

end Handler

open Handler

namespace AppState

theorem keepsNames_compileFresh (req : CompileDeploymentRequest) :
    KeepsNames crates app (app.compileFresh crates req)
      (fun response => NamesDigest crates (response.toValue crates)) := by
  unfold compileFresh
  refine (calls_store trivial).keepsNames_bind fun profile => ?_
  refine (calls_store trivial).keepsNames_bind fun node => ?_
  refine (calls_store trivial).keepsNames_bind fun credentials => ?_
  refine Calls.keepsNames_bind calls_orStatus fun compiled => ?_
  refine Calls.keepsNames_bind calls_orStatus fun bytes => ?_
  refine (calls_perform trivial).keepsNames_bind fun uuid => ?_
  refine (calls_perform trivial).keepsNames_bind fun now => ?_
  refine (calls_store trivial).keepsNames_bind fun _ => ?_
  refine (calls_perform trivial).keepsNames_bind fun createdAt => ?_
  refine (calls_store ⟨_, rfl⟩).keepsNames_bind fun _ => ?_
  refine (calls_perform trivial).keepsNames_bind fun plannedAt => ?_
  refine (calls_perform trivial).keepsNames_bind fun sequence => ?_
  refine (calls_signAndEnqueue crates app trivial trivial
    (fun _ _ => trivial) sequence).keepsNames_bind fun _ => ?_
  refine (calls_store trivial).keepsNames_bind fun auditCount => ?_
  refine (calls_store trivial).keepsNames_bind fun outboxCount => ?_
  exact keepsNames_pure (@namesDigest_toValue crates _ bytes rfl)

theorem keepsNames_compileDeployment
    (headers : Headers) (req : CompileDeploymentRequest) :
    KeepsNames crates app (app.compileDeployment crates headers req)
      (fun reply => NamesDigest crates (reply.body crates)) := by
  unfold compileDeployment
  refine (calls_optionalHeaderValue _ _).keepsNames_bind fun key => ?_
  cases key with
  | none =>
      exact (keepsNames_compileFresh req).bind
        (fun response hresponse => keepsNames_pure hresponse)
  | some key =>
      refine keepsNames_store_bind trivial fun t s hs cached hcached => ?_
      cases cached with
      | some body => exact keepsNames_pure (hs.cached key body (Except.ok.inj hcached))
      | none =>
          refine (keepsNames_compileFresh req).bind
            (fun response hresponse => ?_)
          refine (calls_store hresponse).keepsNames_bind fun _ => ?_
          exact keepsNames_pure hresponse

/-- What a request may answer, as far as pointers go. -/
def AnswersNames (crates : Crates) :
    (request : Request) → Except HttpError request.Reply → Prop
  | .compileDeployment _ _, r =>
      ∀ reply, r = .ok reply → NamesDigest crates (reply.body crates)
  | _, _ => True

theorem namesPointers_of_makes
    {request : Request}
    (h : ∀ headers req, request ≠ .compileDeployment headers req)
    {op : Call} (hop : request.Makes op) :
    NamesPointers crates op := by
  cases op with
  | store op =>
      cases op with
      | recordIdempotencyResponse =>
          obtain ⟨headers, req, rfl⟩ := Request.compiles_of_fills hop rfl
          exact absurd rfl (h headers req)
      | recordDeploymentPlan plan =>
          obtain ⟨headers, req, rfl⟩ :=
            Request.compiles_of_records hop (.inl ⟨plan, rfl⟩)
          exact absurd rfl (h headers req)
      | _ => trivial
  | _ => trivial

theorem serve_keepsNames (request : Request) :
    Program.Promises (app.answer crates) (PointerNames crates)
      (NamesPointers crates) (app.serve crates request).run
      (AnswersNames crates request) := by
  cases request with
  | compileDeployment headers req =>
      exact keepsNames_compileDeployment headers req
  | _ =>
      refine Program.All.promises (Program.All.mono
        (serve_makes crates app _) (fun op hop => ?_)) (fun _ => trivial)
      exact namesPointers_of_makes (by simp) hop

end AppState

/-- The names are kept in every run, and every compile response names a digest. -/
theorem ServingRun.pointerNames
    {s : Shared} {threads : List Serving} (h : ServingRun crates app s threads) :
    PointerNames crates s ∧ ∀ f ∈ threads,
      Program.Promises (app.answer crates) (PointerNames crates)
        (NamesPointers crates) f.rest (AppState.AnswersNames crates f.task) := by
  refine h.promises (fun request => AppState.serve_keepsNames request) ?_ ?_
  · exact fun op t s hop hs => hs.answer hop t
  · refine ⟨?_, ?_⟩
    · intro key body hbody
      cases hbody
    · intro deploymentId pointer hpointer
      cases hpointer

theorem ServingRun.not_referencesResolve
    {s : Shared} {threads : List Serving} (h : ServingRun crates app s threads)
    {f : Serving} (hf : f ∈ threads) {reply : CompileReply}
    (hreply : compiledReply f = some reply) :
    ¬ ReferencesResolve crates (reply.body crates) s := by
  obtain ⟨hnames, hthreads⟩ := h.pointerNames
  refine hnames.not_referencesResolve ?_
  have hpromise := hthreads f hf
  unfold compiledReply at hreply
  split at hreply
  · next headers req entries other =>
      obtain rfl := Option.some.inj hreply
      exact hpromise other rfl
  · cases hreply

/--
In no run does a compile response have references that resolve, neither right
after the response nor later.
-/
theorem compile_references_never_resolve
    (crates : Crates) (app : AppState)
    {s : Shared} {threads : List Serving} (h : ServingRun crates app s threads) :
    ∀ f ∈ threads, ∀ reply ∈ compiledReply f,
      ¬ ReferencesResolve crates (reply.body crates) s :=
  fun _ hf _ hreply => h.not_referencesResolve hf hreply

/-! ### One compilation -/

/-- A node, a profile and one compilation, one after the other. -/
def oneCompilation : Shared × List Serving :=
  serving
    [ registration "dev-registration-token" "node" 1,
      .createVlessRealityProfile "profile" "example.com",
      .compileDeployment [] ⟨"profile", "node"⟩ ]
    (List.replicate 5 0 ++ List.replicate 5 1 ++ List.replicate 20 2)

theorem oneCompilation_answered :
    ∃ f ∈ oneCompilation.2, ∃ reply, compiledReply f = some reply := by
  have hsome : (oneCompilation.2.findSome? compiledReply).isSome = true := by
    decide +kernel
  obtain ⟨reply, hreply⟩ := Option.isSome_iff_exists.mp hsome
  obtain ⟨f, hf, hcompiled⟩ := List.exists_of_findSome?_eq_some hreply
  exact ⟨f, hf, reply, hcompiled⟩

/-- Every run with a response shows it; this one has a single response. -/
theorem compile_references_never_resolve_once :
    ∃ f ∈ oneCompilation.2, ∃ reply ∈ compiledReply f,
      ¬ ReferencesResolve referenceCrates (reply.body referenceCrates)
        oneCompilation.1 := by
  obtain ⟨f, hf, reply, hreply⟩ := oneCompilation_answered
  exact ⟨f, hf, reply, hreply, compile_references_never_resolve referenceCrates
    referenceApp (serving_run _ _) f hf reply hreply⟩

/-- The pointer that the response names is not stored. -/
theorem compile_reference_dangles :
    ¬ ∀ (crates : Crates) (app : AppState) (s : Shared) (threads : List Serving),
      ServingRun crates app s threads →
      ∀ f ∈ threads, ∀ reply ∈ compiledReply f,
        ReferencesResolve crates (reply.body crates) s := by
  intro h
  obtain ⟨f, hf, reply, hreply⟩ := oneCompilation_answered
  have hrun : ServingRun referenceCrates referenceApp oneCompilation.1
      oneCompilation.2 :=
    serving_run _ _
  exact hrun.not_referencesResolve hf hreply
    (h _ _ _ _ hrun f hf reply hreply)

end ProxyControl
