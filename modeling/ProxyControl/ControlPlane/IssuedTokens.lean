import ProxyControl.ControlPlane.Footprint
import ProxyControl.Storage.RegistrationTokens

/-!
# Issued registration tokens

Requests of any kind and number interleave at their calls.  A request that
issues a token looks for its text, and creates the record in a later call; a
creation whose text is in the table by then does nothing and reports success.

The ids of the records are drawn by their requests, so a record that was stored
is not replaced.  A record is stored exactly when its creation met no record
with the same text.
-/

namespace ProxyControl

open Effects HashTable
open MemoryStore (UniqueTokens)

/-- The record that a request for a token has answered with. -/
def issued : Serving → Option NodeRegistrationTokenRecord
  | ⟨.issueRegistrationToken _, _, .done (.ok record)⟩ => some record
  | _ => none

/-- The token text is stored under the id of the record. -/
def StoresToken (record : NodeRegistrationTokenRecord) (s : Shared) : Prop :=
  ∃ stored, get s.store.nodeRegistrationTokens record.tokenId = some stored ∧
    stored.token = record.token

/-- Issued records are stored, and no token text has two of them. -/
structure TokensIssued (s : Shared) (threads : List Serving) : Prop where
  stored : ∀ f ∈ threads, ∀ record ∈ issued f, StoresToken record s
  once : ∀ f ∈ threads, ∀ f' ∈ threads, ∀ record ∈ issued f,
    ∀ record' ∈ issued f', record.token = record'.token →
      record.tokenId = record'.tokenId

def drawnUuid (e : Program.Entry Call Tick Shared) : Option String :=
  match e.op with
  | .uuid => some (e.choice.uuid 0)
  | _ => none

def drawnUuids (threads : List Serving) : List String :=
  threads.flatMap (fun f => f.entries.filterMap drawnUuid)

/-- Identifiers are distinct, and none is the suffix of the default token id. -/
structure ProperUuids (threads : List Serving) : Prop where
  distinct : (drawnUuids threads).Nodup
  proper : "dev" ∉ drawnUuids threads

/-- Whether some record has the token text. -/
def hasText (token : String) (s : Shared) : Bool :=
  s.store.nodeRegistrationTokens.values.any (fun record => record.token = token)

/-- The creation of an issued record met no record with its text. -/
def CreatesFirst (f : Serving) : Prop :=
  ∀ record ∈ issued f, ∀ e ∈ f.entries,
    e.op = .store (.createNodeRegistrationToken record) →
      hasText record.token e.before = false

/-! ## The ids drawn by requests -/

def Call.drawsId : (op : Call) → op.Ret → List String
  | .uuid, id => ["regtok-" ++ id]
  | _, _ => []

/-- A creation uses the id of its record, other than that of the default one. -/
def Call.usesId : Call → List String
  | .store (.createNodeRegistrationToken record) =>
      if record.tokenId = "regtok-dev" then [] else [record.tokenId]
  | _ => []

/-- A call that neither draws an id nor uses one. -/
def Call.WithoutIds (op : Call) : Prop :=
  op.usesId = [] ∧ ∀ r, op.drawsId r = []

namespace Handler

variable {α β : Type} {purse : List String}

/-- The ids that a handler uses are in the purse or drawn before. -/
def AffordsIds (purse : List String) (handler : Handler α) : Prop :=
  Program.Affords Call.drawsId Call.usesId purse handler.run

theorem Calls.affordsIds
    {m : Handler α} (h : Calls (fun op => op.usesId = []) m) :
    AffordsIds purse m :=
  Calls.affords_of_unused h

theorem Calls.affordsIds_bind
    {m : Handler α} {f : α → Handler β}
    (h : Calls Call.WithoutIds m) (hf : ∀ a, AffordsIds purse (f a)) :
    AffordsIds purse (m >>= f) :=
  Calls.affords_then h hf

theorem affordsIds_perform_bind
    {op : Call} {f : op.Ret → Handler β}
    (h : op.WithoutIds) (hf : ∀ a, AffordsIds purse (f a)) :
    AffordsIds purse (Handler.perform op >>= f) :=
  (calls_perform h).affordsIds_bind hf

theorem affordsIds_uuid_bind
    {f : String → Handler β}
    (hf : ∀ id, AffordsIds (purse ++ ["regtok-" ++ id]) (f id)) :
    AffordsIds purse (Handler.uuid >>= f) :=
  ⟨List.nil_subset _, fun id => hf id⟩

/-- A record may be created under an id of the purse, and an answer given. -/
theorem affordsIds_create
    {record : NodeRegistrationTokenRecord} {a : α}
    (h : record.tokenId ∈ purse) :
    AffordsIds purse (do
      Handler.store (.createNodeRegistrationToken record)
      return a) := by
  refine ⟨?_, ?_⟩
  · simp only [Call.usesId]
    split_ifs
    · exact List.nil_subset _
    · intro id hid
      obtain rfl := List.mem_singleton.mp hid
      exact h
  · intro r
    cases r <;> trivial

end Handler

namespace AppState

open Handler

variable (crates : Crates) (app : AppState)

theorem calls_ensureDefault_withoutIds :
    app.ensureDefaultRegistrationToken.Calls Call.WithoutIds := by
  refine calls_perform_bind ⟨rfl, fun _ => rfl⟩ fun now => ?_
  exact calls_store
    ⟨by simp [Call.usesId, NodeRegistrationTokenRecord.new], fun _ => rfl⟩

/-- The part of `issueRegistrationToken` that follows the choice of a text. -/
def createRegistrationToken (token : String) :
    Handler NodeRegistrationTokenRecord := do
  match ← Handler.perform (.store (.nodeRegistrationToken token)) with
  | .ok _ => throw ⟨409, "registration token already exists"⟩
  | .error (.notFound _) => do
      let record := NodeRegistrationTokenRecord.new app.tenantId
        ("regtok-" ++ (← Handler.uuid)) token (← Handler.now)
      Handler.store (.createNodeRegistrationToken record)
      return record
  | .error other => throw (toHttpError other)

theorem issueRegistrationToken_some (token : String) :
    app.issueRegistrationToken (some token) =
      (app.ensureDefaultRegistrationToken >>= fun _ =>
        app.createRegistrationToken token) :=
  rfl

theorem issueRegistrationToken_none :
    app.issueRegistrationToken none =
      (app.ensureDefaultRegistrationToken >>= fun _ => Handler.uuid >>= fun id =>
        app.createRegistrationToken ("node-reg-" ++ id)) :=
  rfl

theorem affordsIds_issueRegistrationToken (token : Option String) :
    AffordsIds [] (app.issueRegistrationToken token) := by
  have hcreate : ∀ (purse : List String) (token : String),
      AffordsIds purse (app.createRegistrationToken token) := by
    intro purse token
    unfold createRegistrationToken
    refine affordsIds_perform_bind ⟨rfl, fun _ => rfl⟩ fun answer => ?_
    split
    · trivial
    · refine affordsIds_uuid_bind fun id => ?_
      refine affordsIds_perform_bind ⟨rfl, fun _ => rfl⟩ fun now => ?_
      exact affordsIds_create (List.mem_append_right _ (List.mem_singleton_self _))
    · trivial
  cases token with
  | some token =>
      rw [issueRegistrationToken_some]
      exact (calls_ensureDefault_withoutIds app).affordsIds_bind
        fun _ => hcreate [] token
  | none =>
      rw [issueRegistrationToken_none]
      refine (calls_ensureDefault_withoutIds app).affordsIds_bind fun _ => ?_
      exact affordsIds_uuid_bind fun id => hcreate _ ("node-reg-" ++ id)

/-- Every request creates records only under ids that it has drawn. -/
theorem affordsIds_serve (request : Request) :
    AffordsIds [] (app.serve crates request) := by
  have hensure : Calls (fun op => op.usesId = [])
      app.ensureDefaultRegistrationToken :=
    Program.All.mono (calls_ensureDefault_withoutIds app) (fun _ h => h.1)
  have hothers :
      (∀ record, request.mayMake (.createNodeRegistrationToken record) = false) →
        AffordsIds [] (app.serve crates request) := by
    intro hmay
    refine Calls.affordsIds
      (Program.All.mono (serve_makes crates app request) ?_)
    intro op hop
    cases op with
    | store op =>
        cases op with
        | createNodeRegistrationToken record =>
            have hfalse := hmay record
            simp only [Request.Makes] at hop
            rw [hop] at hfalse
            cases hfalse
        | _ => rfl
    | _ => rfl
  cases request with
  | issueRegistrationToken token =>
      exact affordsIds_issueRegistrationToken app token
  | listRegistrationTokens =>
      exact Calls.affordsIds (hensure.bind fun _ => calls_store rfl)
  | registerNode req =>
      refine Calls.affordsIds (hensure.bind fun _ => ?_)
      refine calls_perform_bind rfl fun now => ?_
      refine calls_perform_bind rfl fun answer => ?_
      split
      · exact calls_pure _
      · exact calls_throw _
      · exact calls_throw _
  | _ => exact hothers (fun record => rfl)

end AppState

/-! ## The texts of the table -/

/-- The text stored under each id. -/
def textOf (s : Shared) (tokenId : String) : Option String :=
  (get s.store.nodeRegistrationTokens tokenId).map
    NodeRegistrationTokenRecord.token

theorem storesToken_iff
    (record : NodeRegistrationTokenRecord) (s : Shared) :
    StoresToken record s ↔ textOf s record.tokenId = some record.token := by
  simp [StoresToken, textOf, Option.map_eq_some_iff]

section Texts

variable {crates : Crates} {app : AppState}

/-- A creation adds its text unless the table has it. -/
theorem textOf_create
    (record : NodeRegistrationTokenRecord) (t : Tick) (s : Shared)
    (tokenId : String) :
    textOf (app.answer crates (.store (.createNodeRegistrationToken record)) t
        s).2 tokenId =
      if hasText record.token s = false ∧ tokenId = record.tokenId then
        some record.token
      else
        textOf s tokenId := by
  simp only [textOf, AppState.answer, MemoryStore.exec,
    MemoryStore.createNodeRegistrationToken]
  cases htext : hasText record.token s with
  | true =>
      have hany : s.store.nodeRegistrationTokens.values.any
          (fun other => other.token = record.token) = true := htext
      rw [if_pos hany, if_neg (by simp)]
  | false =>
      have hany : s.store.nodeRegistrationTokens.values.any
          (fun other => other.token = record.token) = false := htext
      rw [if_neg (by rw [hany]; decide)]
      simp only [MemoryStore.record, get_insert, true_and]
      split_ifs <;> rfl

/-- Every other call leaves the texts as they are. -/
theorem textOf_answer
    {op : Call} (hop : ∀ record, op ≠ .store (.createNodeRegistrationToken record))
    (t : Tick) {s : Shared}
    (hunique : UniqueTokens s.store.nodeRegistrationTokens) (tokenId : String) :
    textOf (app.answer crates op t s).2 tokenId = textOf s tokenId := by
  cases op with
  | store op =>
      simp only [textOf, AppState.answer]
      cases MemoryStore.tokenStep crates app.tenantId ⟨op, t, s.store⟩ hunique with
      | same hspends hafter =>
          simp only [MemoryStore.afterCall] at hafter
          rw [hafter]
      | spend record nodeId hspends hget hactive hafter =>
          simp only [MemoryStore.afterCall] at hafter
          rw [hafter, get_insert]
          split_ifs with hid
          · rw [hid, hget]
            rfl
          · rfl
      | create record hspends hcreate hnew hafter =>
          exact absurd (congrArg Call.store hcreate) (hop record)
  | _ => rfl

theorem uniqueTokens_answer
    (op : Call) (t : Tick) {s : Shared}
    (hunique : UniqueTokens s.store.nodeRegistrationTokens) :
    UniqueTokens (app.answer crates op t s).2.store.nodeRegistrationTokens := by
  cases op with
  | store op =>
      exact @UniqueTokens.afterCall crates app.tenantId ⟨op, t, s.store⟩ hunique
  | _ => exact hunique

end Texts

/-! ## What a run does to them -/

/-- The ids that are made from identifiers drawn. -/
def idsOf (uuids : List String) : Set String :=
  {id | ∃ uuid ∈ uuids, "regtok-" ++ uuid = id}

/--
The ids drawn and not yet used are distinct, and no record stands under them.
A record stands under the default id or under one that was drawn.
-/
structure IdsFresh
    (drawn : Set String) (held : List String) (text : String → Option String) :
    Prop where
  proper : "regtok-dev" ∉ drawn
  nodup : held.Nodup
  known : ∀ id ∈ held, id ∈ drawn
  free : ∀ id ∈ held, text id = none
  origin : ∀ id, text id ≠ none → id = "regtok-dev" ∨ id ∈ drawn

/-- A creation that was made is settled: its id stays with its text, if any. -/
structure Settled
    (drawn : Set String) (held : List String) (text : String → Option String)
    (record : NodeRegistrationTokenRecord) (before : Shared) : Prop where
  known : record.tokenId ∈ drawn
  used : record.tokenId ∉ held
  text : text record.tokenId =
    if hasText record.token before = true then none else some record.token

section Ids

variable {drawn : Set String} {held held' : List String}
variable {text text' : String → Option String} {id : String}
variable {record : NodeRegistrationTokenRecord} {before : Shared}

/-- An identifier that was not drawn before. -/
theorem IdsFresh.draw
    (h : IdsFresh drawn held text)
    (hnew : id ∉ drawn) (hproper : id ≠ "regtok-dev")
    (hheld : List.Perm held' (id :: held)) :
    IdsFresh (insert id drawn) held' text := by
  have hfree : text id = none := by
    by_contra hsome
    rcases h.origin id hsome with hdev | hmem
    · exact hproper hdev
    · exact hnew hmem
  refine ⟨?_, ?_, ?_, ?_, ?_⟩
  · rintro (hdev | hdev)
    · exact hproper hdev.symm
    · exact h.proper hdev
  · rw [hheld.nodup_iff, List.nodup_cons]
    exact ⟨fun hmem => hnew (h.known id hmem), h.nodup⟩
  · intro other hother
    rcases List.mem_cons.mp (hheld.mem_iff.mp hother) with rfl | hother
    · exact Set.mem_insert _ _
    · exact Set.mem_insert_of_mem _ (h.known other hother)
  · intro other hother
    rcases List.mem_cons.mp (hheld.mem_iff.mp hother) with rfl | hother
    · exact hfree
    · exact h.free other hother
  · intro other hother
    exact (h.origin other hother).imp_right (Set.mem_insert_of_mem _)

theorem Settled.draw
    (h : Settled drawn held text record before)
    (hnew : id ∉ drawn) (hheld : List.Perm held' (id :: held)) :
    Settled (insert id drawn) held' text record before where
  known := Set.mem_insert_of_mem _ h.known
  used := by
    intro hmem
    rcases List.mem_cons.mp (hheld.mem_iff.mp hmem) with rfl | hmem
    · exact hnew h.known
    · exact h.used hmem
  text := h.text

/-- An id is used up by a creation, which may store a text under it. -/
theorem IdsFresh.use
    (h : IdsFresh drawn held text)
    (hheld : List.Perm held (id :: held'))
    (htext : ∀ other, other ≠ id → text' other = text other) :
    IdsFresh drawn held' text' := by
  have hmem : ∀ other ∈ held', other ∈ held := fun other hother =>
    hheld.mem_iff.mpr (List.mem_cons_of_mem _ hother)
  have hnodup := h.nodup
  rw [hheld.nodup_iff, List.nodup_cons] at hnodup
  obtain ⟨hused, hnodup⟩ := hnodup
  refine ⟨h.proper, hnodup, fun other hother => h.known other (hmem other hother),
    ?_, ?_⟩
  · intro other hother
    rw [htext other (fun heq => hused (heq ▸ hother))]
    exact h.free other (hmem other hother)
  · intro other hother
    by_cases heq : other = id
    · rw [heq]
      exact .inr (h.known id (hheld.mem_iff.mpr (List.mem_cons_self ..)))
    · rw [htext other heq] at hother
      exact h.origin other hother

theorem Settled.use
    (h : Settled drawn held text record before)
    (hheld : List.Perm held (id :: held'))
    (htext : ∀ other, other ≠ id → text' other = text other) :
    Settled drawn held' text' record before where
  known := h.known
  used := fun hmem => h.used (hheld.mem_iff.mpr (List.mem_cons_of_mem _ hmem))
  text := by
    rw [htext record.tokenId ?_, h.text]
    rintro rfl
    exact h.used (hheld.mem_iff.mpr (List.mem_cons_self ..))

/-- A creation of the default record concerns no id that was drawn. -/
theorem IdsFresh.default
    (h : IdsFresh drawn held text)
    (htext : ∀ other, other ≠ "regtok-dev" → text' other = text other) :
    IdsFresh drawn held text' := by
  refine ⟨h.proper, h.nodup, h.known, ?_, ?_⟩
  · intro other hother
    rw [htext other (fun heq => h.proper (heq ▸ h.known other hother))]
    exact h.free other hother
  · intro other hother
    by_cases heq : other = "regtok-dev"
    · exact .inl heq
    · rw [htext other heq] at hother
      exact h.origin other hother

theorem Settled.default
    (h : Settled drawn held text record before) (hproper : "regtok-dev" ∉ drawn)
    (htext : ∀ other, other ≠ "regtok-dev" → text' other = text other) :
    Settled drawn held text' record before where
  known := h.known
  used := h.used
  text := by
    rw [htext record.tokenId (fun heq => hproper (heq ▸ h.known)), h.text]

end Ids

section Runs

variable {crates : Crates} {app : AppState}

/-- The ids that requests have drawn and not yet used. -/
def heldIds (crates : Crates) (app : AppState) (threads : List Serving) :
    List String :=
  threads.flatMap (fun f =>
    Program.purseOf Call.drawsId Call.usesId (app.answer crates) f.entries)

structure IdsInvariant
    (crates : Crates) (app : AppState) (s : Shared) (threads : List Serving) :
    Prop where
  unique : UniqueTokens s.store.nodeRegistrationTokens
  fresh : IdsFresh (idsOf (drawnUuids threads)) (heldIds crates app threads)
    (textOf s)
  settled : ∀ f ∈ threads, ∀ e ∈ f.entries, ∀ record,
    e.op = .store (.createNodeRegistrationToken record) →
      record.tokenId ≠ "regtok-dev" →
        Settled (idsOf (drawnUuids threads)) (heldIds crates app threads)
          (textOf s) record e.before

/-- What one action does to the ids, those of its thread being `purse`. -/
structure IdsStep
    (crates : Crates) (app : AppState) (drawn : Set String)
    (before purse after : List String) (op : Call) (t : Tick) (s : Shared)
    (drawn' : Set String) (held' : List String) : Prop where
  fresh : IdsFresh drawn' held' (textOf (app.answer crates op t s).2)
  settled : ∀ record other,
    Settled drawn (before ++ (purse ++ after)) (textOf s) record other →
      Settled drawn' held' (textOf (app.answer crates op t s).2) record other
  created : ∀ record, op = .store (.createNodeRegistrationToken record) →
    record.tokenId ≠ "regtok-dev" →
      Settled drawn' held' (textOf (app.answer crates op t s).2) record s

section Step

variable {drawn : Set String} {before purse after : List String} {s : Shared}

theorem idsStep_create
    {record : NodeRegistrationTokenRecord}
    (h : IdsFresh drawn (before ++ (purse ++ after)) (textOf s))
    (huses : (Call.store (.createNodeRegistrationToken record)).usesId ⊆ purse)
    (t : Tick) :
    IdsStep crates app drawn before purse after
      (.store (.createNodeRegistrationToken record)) t s drawn
      (before ++ (purse.diff
        (Call.store (.createNodeRegistrationToken record)).usesId ++ after)) := by
  have htext : ∀ other, other ≠ record.tokenId →
      textOf (app.answer crates (.store (.createNodeRegistrationToken record)) t
        s).2 other = textOf s other := by
    intro other hother
    rw [textOf_create, if_neg (fun h => hother h.2)]
  simp only [Call.usesId] at huses ⊢
  by_cases hdefault : record.tokenId = "regtok-dev"
  · rw [if_pos hdefault, List.diff_nil]
    rw [hdefault] at htext
    exact ⟨h.default htext, fun _ _ hother => hother.default h.proper htext,
      fun other hop hne => by
        obtain rfl := StoreCall.createNodeRegistrationToken.inj
          (Call.store.inj hop)
        exact absurd hdefault hne⟩
  · rw [if_neg hdefault] at huses ⊢
    have hmem : record.tokenId ∈ purse := huses (List.mem_singleton_self _)
    have hheld : List.Perm (before ++ (purse ++ after))
        (record.tokenId :: (before ++ (purse.erase record.tokenId ++ after))) :=
      (((List.perm_cons_erase hmem).append_right after).append_left
        before).trans List.perm_middle
    rw [List.diff_cons, List.diff_nil]
    refine ⟨h.use hheld htext, fun _ _ hother => hother.use hheld htext, ?_⟩
    intro other hop _
    obtain rfl := StoreCall.createNodeRegistrationToken.inj (Call.store.inj hop)
    have hin := hheld.mem_iff.mpr (List.mem_cons_self ..)
    have hnodup := h.nodup
    rw [hheld.nodup_iff, List.nodup_cons] at hnodup
    refine ⟨h.known _ hin, hnodup.1, ?_⟩
    rw [textOf_create, h.free _ hin]
    cases hasText record.token s <;> simp

theorem idsStep_uuid
    (h : IdsFresh drawn (before ++ (purse ++ after)) (textOf s))
    (t : Tick) (hnew : "regtok-" ++ t.uuid 0 ∉ drawn)
    (hproper : "regtok-" ++ t.uuid 0 ≠ "regtok-dev") :
    IdsStep crates app drawn before purse after .uuid t s
      (insert ("regtok-" ++ t.uuid 0) drawn)
      (before ++ (purse ++ ["regtok-" ++ t.uuid 0] ++ after)) := by
  have hheld : List.Perm
      (before ++ (purse ++ ["regtok-" ++ t.uuid 0] ++ after))
      (("regtok-" ++ t.uuid 0) :: (before ++ (purse ++ after))) := by
    rw [List.append_assoc, List.singleton_append, ← List.append_assoc before,
      ← List.append_assoc before]
    exact List.perm_middle
  exact ⟨h.draw hnew hproper hheld, fun _ _ hother => hother.draw hnew hheld,
    fun _ hop => by cases hop⟩

/-- An action that draws no id and creates nothing. -/
theorem idsStep_other
    {op : Call} (hunique : UniqueTokens s.store.nodeRegistrationTokens)
    (h : IdsFresh drawn (before ++ (purse ++ after)) (textOf s))
    (hop : ∀ record, op ≠ .store (.createNodeRegistrationToken record))
    (t : Tick) :
    IdsStep crates app drawn before purse after op t s drawn
      (before ++ (purse ++ after)) := by
  have htext : textOf (app.answer crates op t s).2 = textOf s :=
    funext (fun id => textOf_answer hop t hunique id)
  refine ⟨?_, ?_, fun record heq => absurd heq (hop record)⟩
  · rw [htext]
    exact h
  · intro record other hother
    rw [htext]
    exact hother

end Step

/-- An action of a thread, which affords it. -/
theorem idsStep_act
    {uuids uuids' before purse after : List String} {op : Call} {s : Shared}
    (hunique : UniqueTokens s.store.nodeRegistrationTokens)
    (h : IdsFresh (idsOf uuids) (before ++ (purse ++ after)) (textOf s))
    (huses : op.usesId ⊆ purse) {t : Tick}
    (hdrawn : List.Perm uuids' ((drawnUuid ⟨op, t, s⟩).toList ++ uuids))
    (hdistinct : uuids'.Nodup) (hproper : "dev" ∉ uuids') :
    IdsStep crates app (idsOf uuids) before purse after op t s (idsOf uuids')
      (before ++ (purse.diff op.usesId ++
        op.drawsId (app.answer crates op t s).1 ++ after)) := by
  have hsame : drawnUuid ⟨op, t, s⟩ = none → idsOf uuids' = idsOf uuids := by
    intro hnone
    rw [hnone] at hdrawn
    ext id
    simp only [idsOf, Set.mem_ofPred_eq]
    exact exists_congr (fun uuid => and_congr_left' hdrawn.mem_iff)
  cases op with
  | uuid =>
      have hmem : t.uuid 0 ∈ uuids' :=
        hdrawn.mem_iff.mpr (List.mem_cons_self ..)
      have hinsert : idsOf uuids' = insert ("regtok-" ++ t.uuid 0) (idsOf uuids) := by
        ext id
        simp only [idsOf, Set.mem_ofPred_eq, Set.mem_insert_iff]
        constructor
        · rintro ⟨uuid, huuid, rfl⟩
          rcases List.mem_cons.mp (hdrawn.mem_iff.mp huuid) with rfl | huuid
          · exact .inl rfl
          · exact .inr ⟨uuid, huuid, rfl⟩
        · rintro (rfl | ⟨uuid, huuid, rfl⟩)
          · exact ⟨_, hmem, rfl⟩
          · exact ⟨uuid, hdrawn.mem_iff.mpr (List.mem_cons_of_mem _ huuid), rfl⟩
      rw [hinsert]
      refine idsStep_uuid h t ?_ ?_
      · rintro ⟨uuid, huuid, heq⟩
        rw [hdrawn.nodup_iff] at hdistinct
        obtain rfl := String.append_right_inj _ |>.mp heq
        exact (List.nodup_cons.mp hdistinct).1 huuid
      · intro heq
        have hdev : t.uuid 0 = "dev" :=
          (String.append_right_inj "regtok-").mp heq
        exact hproper (hdev ▸ hmem)
  | store op =>
      rw [hsame rfl]
      cases op with
      | createNodeRegistrationToken record =>
          simpa only [Call.drawsId, List.append_nil] using
            idsStep_create h huses t
      | _ =>
          simpa only [Call.usesId, Call.drawsId, List.diff_nil, List.append_nil]
            using idsStep_other hunique h (fun record hop => by cases hop) t
  | _ =>
      rw [hsame rfl]
      simpa only [Call.usesId, Call.drawsId, List.diff_nil, List.append_nil]
        using idsStep_other hunique h (fun record hop => by cases hop) t

/-- The identifiers drawn so far, with those of one more entry. -/
theorem drawnUuids_act
    {before after : List Serving} {request : Request}
    {entries : List (Program.Entry Call Tick Shared)}
    (rest rest' : Program Call Call.Ret (Except HttpError request.Reply))
    (e : Program.Entry Call Tick Shared) :
    List.Perm
      (drawnUuids (before ++ ⟨request, entries ++ [e], rest'⟩ :: after))
      ((drawnUuid e).toList ++
        drawnUuids (before ++ ⟨request, entries, rest⟩ :: after)) := by
  simp only [drawnUuids, List.flatMap_append, List.flatMap_cons,
    List.filterMap_append]
  cases h : drawnUuid e with
  | none => simp [h]
  | some uuid =>
      simp only [List.filterMap_cons, h, List.filterMap_nil, Option.toList_some,
        List.singleton_append, List.append_assoc]
      rw [← List.append_assoc, ← List.append_assoc (before.flatMap _)]
      exact List.perm_middle

theorem ServingRun.ids
    {s : Shared} {threads : List Serving} (h : ServingRun crates app s threads)
    (huuids : ProperUuids threads) :
    IdsInvariant crates app s threads := by
  induction h with
  | start =>
      refine ⟨.empty, ⟨?_, List.nodup_nil, ?_, ?_, ?_⟩, ?_⟩
      · rintro ⟨uuid, huuid, -⟩
        cases huuid
      · intro id hid
        cases hid
      · intro id hid
        cases hid
      · intro id hid
        exact absurd rfl hid
      · intro f hf
        cases hf
  | @arrive s threads _ request ih =>
      have hdrawn : drawnUuids (threads ++
          [⟨request, [], (app.serve crates request).run⟩]) =
            drawnUuids threads := by
        simp [drawnUuids]
      have hheld : heldIds crates app (threads ++
          [⟨request, [], (app.serve crates request).run⟩]) =
            heldIds crates app threads := by
        simp [heldIds, Program.purseOf]
      obtain ⟨hunique, hfresh, hsettled⟩ :=
        ih ⟨hdrawn ▸ huuids.distinct, hdrawn ▸ huuids.proper⟩
      refine ⟨hunique, ?_, ?_⟩
      · rw [hdrawn, hheld]
        exact hfresh
      · intro f hf e he record hop hdefault
        rw [hdrawn, hheld]
        rcases List.mem_append.mp hf with hf | hf
        · exact hsettled f hf e he record hop hdefault
        · obtain rfl := List.mem_singleton.mp hf
          cases he
  | @act s before after request entries op next hrun t ih =>
      have hperm := @drawnUuids_act before after request entries
        (.call op next) (next (app.answer crates op t s).1) ⟨op, t, s⟩
      have hdistinct := huuids.distinct
      rw [hperm.nodup_iff, List.nodup_append] at hdistinct
      obtain ⟨hunique, hfresh, hsettled⟩ := ih ⟨hdistinct.2.1, fun hdev =>
        huuids.proper (hperm.mem_iff.mpr (List.mem_append_right _ hdev))⟩
      obtain ⟨huses, -⟩ := (hrun.reaches _ mem_middle).affords
        (app.affordsIds_serve crates request)
      have hheld : heldIds crates app
          (before ++ ⟨request, entries ++ [⟨op, t, s⟩],
            next (app.answer crates op t s).1⟩ :: after) =
          heldIds crates app before ++
            ((Program.purseOf Call.drawsId Call.usesId (app.answer crates)
              entries).diff op.usesId ++
                op.drawsId (app.answer crates op t s).1 ++
                  heldIds crates app after) := by
        simp only [heldIds, List.flatMap_append, List.flatMap_cons,
          Program.purseOf_append]
      simp only [heldIds, List.flatMap_append, List.flatMap_cons] at hfresh
      obtain ⟨hfresh', hkept, hcreated⟩ :=
        idsStep_act hunique hfresh huses hperm huuids.distinct huuids.proper
      refine ⟨uniqueTokens_answer op t hunique, hheld ▸ hfresh', ?_⟩
      intro f hf e he record hop hdefault
      rw [hheld]
      have hold : ∀ g ∈ before ++ ⟨request, entries, .call op next⟩ :: after,
          e ∈ g.entries → Settled _ _ _ record e.before := fun g hg heg => by
        have hset := hsettled g hg e heg record hop hdefault
        simp only [heldIds, List.flatMap_append, List.flatMap_cons] at hset
        exact hkept record e.before hset
      rcases List.mem_cons.mp (List.perm_middle.mem_iff.mp hf) with rfl | hf
      · rcases List.mem_append.mp he with he | he
        · exact hold _ mem_middle he
        · obtain rfl := List.mem_singleton.mp he
          exact hcreated record hop hdefault
      · exact hold f (List.perm_middle.mem_iff.mpr
          (List.mem_cons_of_mem _ hf)) he

end Runs

/-! ## Issued records are created -/

/-- A creation of the record is among the calls. -/
def Created
    (record : NodeRegistrationTokenRecord)
    (entries : List (Program.Entry Call Tick Shared)) : Prop :=
  (∃ e ∈ entries, e.op = .store (.createNodeRegistrationToken record)) ∧
    ∃ uuid ∈ entries.filterMap drawnUuid, record.tokenId = "regtok-" ++ uuid

namespace Handler

variable {crates : Crates} {app : AppState} {α β : Type}

/-- What the calls of a handler satisfy when it succeeds. -/
def Returns
    (crates : Crates) (app : AppState) (handler : Handler α)
    (post : List (Program.Entry Call Tick Shared) → α → Prop) : Prop :=
  Program.Accounts (app.answer crates) handler.run
    (fun entries r => ∀ a, r = .ok a → post entries a)

theorem returns_throw
    (error : HttpError)
    {post : List (Program.Entry Call Tick Shared) → α → Prop} :
    Returns crates app (throw error : Handler α) post :=
  fun a ha => by cases ha

theorem returns_bind
    {m : Handler α} {f : α → Handler β}
    {post : List (Program.Entry Call Tick Shared) → β → Prop}
    (hf : ∀ entries a,
      Returns crates app (f a) (fun rest b => post (entries ++ rest) b)) :
    Returns crates app (m >>= f) post := by
  have hrun : (m >>= f).run = m.run >>= ExceptT.bindCont f := rfl
  unfold Returns
  rw [hrun, Program.accounts_bind]
  refine (Program.accounts_true m.run).mono ?_
  rintro entries r -
  cases r with
  | ok a => exact hf entries a
  | error e =>
      intro b hb
      cases hb

theorem returns_perform_bind
    {op : Call} {f : op.Ret → Handler β}
    {post : List (Program.Entry Call Tick Shared) → β → Prop}
    (hf : ∀ t s, Returns crates app (f (app.answer crates op t s).1)
      (fun rest b => post (⟨op, t, s⟩ :: rest) b)) :
    Returns crates app (Handler.perform op >>= f) post :=
  hf

theorem returns_store_bind
    {op : StoreCall} {f : op.Value → Handler β}
    {post : List (Program.Entry Call Tick Shared) → β → Prop}
    (hf : ∀ t s a, Returns crates app (f a)
      (fun rest b => post (⟨.store op, t, s⟩ :: rest) b)) :
    Returns crates app (Handler.store op >>= f) post := by
  refine returns_perform_bind (fun t s => ?_)
  cases (app.answer crates (.store op) t s).1 with
  | ok a => exact hf t s a
  | error e => exact returns_throw _

/-- The calls before the creation do not matter. -/
theorem returns_created_bind
    {m : Handler α} {f : α → Handler NodeRegistrationTokenRecord}
    (hf : ∀ a, Returns crates app (f a)
      (fun entries record => Created record entries)) :
    Returns crates app (m >>= f)
      (fun entries record => Created record entries) := by
  refine returns_bind fun entries a => ?_
  refine Program.Accounts.mono (hf a) ?_
  intro rest r h record hrecord
  obtain ⟨⟨e, he, hop⟩, uuid, huuid, hid⟩ := h record hrecord
  refine ⟨⟨e, List.mem_append_right _ he, hop⟩, uuid, ?_, hid⟩
  rw [List.filterMap_append]
  exact List.mem_append_right _ huuid

end Handler

open Handler in
theorem AppState.returns_issueRegistrationToken
    (crates : Crates) (app : AppState) (token : Option String) :
    Returns crates app (app.issueRegistrationToken token)
      (fun entries record => Created record entries) := by
  have hcreate : ∀ token : String,
      Returns crates app (app.createRegistrationToken token)
        (fun entries record => Created record entries) := by
    intro token
    unfold AppState.createRegistrationToken
    refine returns_created_bind fun answer => ?_
    split
    · exact returns_throw _
    · refine returns_perform_bind fun t s => ?_
      refine returns_perform_bind fun t' s' => ?_
      refine returns_store_bind fun t'' s'' _ => ?_
      intro record hrecord
      obtain rfl := Except.ok.inj hrecord
      exact ⟨⟨_, List.mem_cons_of_mem _ (List.mem_cons_of_mem _
        (List.mem_singleton_self _)), rfl⟩, t.uuid 0, List.mem_cons_self .., rfl⟩
    · exact returns_throw _
  cases token with
  | some token =>
      rw [AppState.issueRegistrationToken_some]
      exact returns_created_bind fun _ => hcreate token
  | none =>
      rw [AppState.issueRegistrationToken_none]
      exact returns_created_bind fun _ => returns_created_bind fun id =>
        hcreate ("node-reg-" ++ id)

section Issued

variable {crates : Crates} {app : AppState}
variable {s : Shared} {threads : List Serving}

/-- An issued record has been created by its request, under an id drawn there. -/
theorem ServingRun.created
    (h : ServingRun crates app s threads) {f : Serving} (hf : f ∈ threads)
    {record : NodeRegistrationTokenRecord} (hissued : issued f = some record) :
    Created record f.entries := by
  have hreaches := h.reaches f hf
  obtain ⟨request, entries, rest⟩ := f
  unfold issued at hissued
  split at hissued
  · next token calls other heq =>
      obtain rfl := Option.some.inj hissued
      cases heq
      exact hreaches.accounts (app.returns_issueRegistrationToken crates token)
        other rfl
  · cases hissued

/-- Its creation is settled, and the record is stored if its text was new. -/
theorem IdsInvariant.storesToken_iff
    (h : IdsInvariant crates app s threads) (huuids : ProperUuids threads)
    {f : Serving} (hf : f ∈ threads) {record : NodeRegistrationTokenRecord}
    (hcreated : Created record f.entries) :
    ∀ e ∈ f.entries, e.op = .store (.createNodeRegistrationToken record) →
      (StoresToken record s ↔ hasText record.token e.before = false) := by
  obtain ⟨-, uuid, huuid, hid⟩ := hcreated
  have hdefault : record.tokenId ≠ "regtok-dev" := by
    rw [hid]
    intro heq
    have hdev : uuid = "dev" := (String.append_right_inj "regtok-").mp heq
    exact huuids.proper (List.mem_flatMap.mpr ⟨f, hf, hdev ▸ huuid⟩)
  intro e he hop
  rw [ProxyControl.storesToken_iff, (h.settled f hf e he record hop hdefault).text]
  cases hasText record.token e.before <;> simp

/-- One id has one text, and one text has one id. -/
theorem StoresToken.tokenId_eq
    (hunique : UniqueTokens s.store.nodeRegistrationTokens)
    {record record' : NodeRegistrationTokenRecord}
    (h : StoresToken record s) (h' : StoresToken record' s)
    (htoken : record.token = record'.token) :
    record.tokenId = record'.tokenId := by
  obtain ⟨stored, hget, htext⟩ := h
  obtain ⟨stored', hget', htext'⟩ := h'
  exact hunique.unique _ _ _ _ hget hget' (htext.trans (htoken.trans htext'.symm))

/--
Issued records are stored, each text under one id, exactly when every one of them
was created while no record had its text.
-/
theorem issued_tokens_stored_iff
    (crates : Crates) (app : AppState) {s : Shared} {threads : List Serving}
    (h : ServingRun crates app s threads) (huuids : ProperUuids threads) :
    TokensIssued s threads ↔ ∀ f ∈ threads, CreatesFirst f := by
  have hids := h.ids huuids
  constructor
  · intro hissued f hf record hrecord e he hop
    have hstored := hissued.stored f hf record hrecord
    exact (hids.storesToken_iff huuids hf (h.created hf hrecord) e he hop).mp
      hstored
  · intro hfirst
    have hstored : ∀ f ∈ threads, ∀ record ∈ issued f,
        StoresToken record s := by
      intro f hf record hrecord
      have hcreated := h.created hf hrecord
      obtain ⟨e, he, hop⟩ := hcreated.1
      exact (hids.storesToken_iff huuids hf hcreated e he hop).mpr
        (hfirst f hf record hrecord e he hop)
    refine ⟨hstored, ?_⟩
    intro f hf f' hf' record hrecord record' hrecord' htoken
    exact (hstored f hf record hrecord).tokenId_eq hids.unique
      (hstored f' hf' record' hrecord') htoken

end Issued

/-! ### Two requests for one text -/

/-- Whether the creation of a record finds its text. -/
def createsAgain (e : Program.Entry Call Tick Shared) : Bool :=
  match e.op with
  | .store (.createNodeRegistrationToken record) => hasText record.token e.before
  | _ => false

theorem CreatesFirst.of_entries
    {f : Serving} (h : ∀ e ∈ f.entries, createsAgain e = false) :
    CreatesFirst f := by
  intro record _ e he hop
  have hagain := h e he
  rwa [createsAgain, hop] at hagain

/-- Requests for the token text `x`, their calls in the order of a schedule. -/
def issuing (count : ℕ) (schedule : List ℕ) : Shared × List Serving :=
  serving (List.replicate count (.issueRegistrationToken (some "x"))) schedule

def issuedOnce : Shared × List Serving :=
  issuing 1 [0, 0, 0, 0, 0, 0]

/-- Both requests look for the text before either creates its record. -/
def issuedTwice : Shared × List Serving :=
  issuing 2 [0, 0, 0, 1, 1, 1, 0, 0, 0, 1, 1, 1]

theorem issued_tokens_stored_iff_once :
    TokensIssued issuedOnce.1 issuedOnce.2 ∧
      issuedOnce.2.map (fun f => (issued f).isSome) = [true] := by
  refine ⟨?_, by decide +kernel⟩
  refine (issued_tokens_stored_iff referenceCrates referenceApp
    (serving_run _ _) ⟨by decide +kernel, by decide +kernel⟩).mpr ?_
  have hfirst : ∀ f ∈ issuedOnce.2, ∀ e ∈ f.entries, createsAgain e = false := by
    decide +kernel
  exact fun f hf => .of_entries (hfirst f hf)

/-- The second of them answers with a record that is not stored. -/
theorem issued_token_missing :
    ¬ ∀ s threads, ServingRun referenceCrates referenceApp s threads →
      ProperUuids threads → TokensIssued s threads := by
  intro hclaim
  have hissued := hclaim issuedTwice.1 issuedTwice.2 (serving_run _ _)
    ⟨by decide +kernel, by decide +kernel⟩
  have hmissing : ∃ f ∈ issuedTwice.2, ∃ record ∈ issued f,
      get issuedTwice.1.store.nodeRegistrationTokens record.tokenId = none := by
    decide +kernel
  obtain ⟨f, hf, record, hrecord, hnone⟩ := hmissing
  obtain ⟨stored, hget, -⟩ := hissued.stored f hf record hrecord
  rw [hnone] at hget
  cases hget

end ProxyControl
