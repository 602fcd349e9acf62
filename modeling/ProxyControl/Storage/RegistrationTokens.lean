import ProxyControl.ReferenceCrates
import ProxyControl.Storage.ProxyStore

/-!
# Registration tokens are spent once

A token text is spent by the registration or the consumption that succeeds for
it.  The table is keyed by token id and searched by token text; no two records
have the same text.

A registration refuses a spent token.  A consumption does not, and a creation
under a token id that is in use replaces the record there.  A run spends every
token once exactly when neither happens to a spent token.
-/

namespace ProxyControl
namespace MemoryStore

open Effects HashTable

/-- The token text that the call spends, and the node that it is spent on. -/
def spends (tenantId : String) (e : StoreEntry) :
    Option (String × String) :=
  match e with
  | ⟨.registerNodeWithRegistrationToken node token, t, s⟩ =>
      match (registerNodeWithRegistrationToken tenantId t.now t.order node
          token s).1 with
      | .ok _ => some (token, node.nodeId)
      | .error _ => none
  | ⟨.consumeNodeRegistrationToken token nodeId, t, s⟩ =>
      match (consumeNodeRegistrationToken t.now t.order token nodeId s).1 with
      | .ok _ => some (token, nodeId)
      | .error _ => none
  | _ => none

/-- The token is found as a used one, with this node. -/
def KeptUsed (spent : String × String) (s : MemoryState) : Prop :=
  ∀ order, ∃ record,
    findRegistrationToken order spent.1 s = some record ∧
    record.status = "used" ∧ record.usedByNodeId = some spent.2

/-- A registration that fails changes nothing. -/
def RefusesCleanly
    (crates : Crates) (tenantId : String) (e : StoreEntry) : Prop :=
  ∀ node token, e.op = .registerNodeWithRegistrationToken node token →
    spends tenantId e = none → afterCall crates tenantId e = e.before

/-- Every token text is spent once at most, and stays as it was spent. -/
structure OneTime
    (crates : Crates) (tenantId : String)
    (log : List StoreEntry) (s : MemoryState) : Prop where
  once : ((log.filterMap (spends tenantId)).map Prod.fst).Nodup
  kept : log.Pairwise (fun e e' =>
    ∀ spent ∈ spends tenantId e, KeptUsed spent e'.before)
  keptNow : ∀ e ∈ log, ∀ spent ∈ spends tenantId e, KeptUsed spent s
  refuses : ∀ e ∈ log, RefusesCleanly crates tenantId e

/-- The call consumes the token again, or replaces its record. -/
def disturbs (token : String) (e : StoreEntry) : Bool :=
  match e.op with
  | .consumeNodeRegistrationToken token' _ => token' = token
  | .createNodeRegistrationToken record =>
      !e.before.nodeRegistrationTokens.values.any
          (fun other => other.token = record.token) &&
        (get e.before.nodeRegistrationTokens record.tokenId).any
          (fun old => old.token = token)
  | _ => false

/-- No call disturbs a token that an earlier call has spent. -/
def LeavesSpentAlone
    (tenantId : String) (log : List StoreEntry) : Prop :=
  log.Pairwise (fun e e' =>
    ∀ spent ∈ spends tenantId e, disturbs spent.1 e' = false)

variable {crates : Crates} {tenantId : String}

/-! ## The table of tokens -/

/-- Records stand under their ids, and no two have the same text. -/
structure UniqueTokens
    (tokens : HashTable String NodeRegistrationTokenRecord) : Prop where
  keyed : ∀ tokenId record, get tokens tokenId = some record →
    record.tokenId = tokenId
  unique : ∀ tokenId tokenId' record record',
    get tokens tokenId = some record → get tokens tokenId' = some record' →
    record.token = record'.token → tokenId = tokenId'

theorem UniqueTokens.empty : UniqueTokens ∅ := by
  constructor
  · intro tokenId record h
    cases h
  · intro tokenId tokenId' record record' h
    cases h

/-- A record whose text is new, or is that of the record it replaces. -/
theorem UniqueTokens.insert
    {tokens : HashTable String NodeRegistrationTokenRecord}
    (h : UniqueTokens tokens) {record : NodeRegistrationTokenRecord}
    (hnew : ∀ tokenId old, get tokens tokenId = some old →
      old.token = record.token → tokenId = record.tokenId) :
    UniqueTokens (tokens.insert record.tokenId record) := by
  constructor
  · intro tokenId other hother
    rw [get_insert] at hother
    split_ifs at hother with hid
    · rw [← Option.some.inj hother, hid]
    · exact h.keyed tokenId other hother
  · intro tokenId tokenId' one other hone hother htoken
    rw [get_insert] at hone hother
    split_ifs at hone hother with hid hid' hid'
    · rw [hid, hid']
    · obtain rfl := Option.some.inj hone
      rw [hid, hnew tokenId' other hother htoken.symm]
    · obtain rfl := Option.some.inj hother
      rw [hid', hnew tokenId one hone htoken]
    · exact h.unique tokenId tokenId' one other hone hother htoken

/-- The search by text finds the one record with that text. -/
theorem UniqueTokens.find_eq_some
    {s : MemoryState} (h : UniqueTokens s.nodeRegistrationTokens)
    (order : IterationOrder) (token : String)
    (record : NodeRegistrationTokenRecord) :
    findRegistrationToken order token s = some record ↔
      get s.nodeRegistrationTokens record.tokenId = some record ∧
        record.token = token := by
  constructor
  · intro hfind
    have htoken := List.find?_some hfind
    have hmem := List.mem_of_find?_eq_some hfind
    rw [IterationOrder.mem_arrange] at hmem
    obtain ⟨tokenId, hget⟩ := (mem_values _ _).mp hmem
    obtain rfl := h.keyed tokenId record hget
    exact ⟨hget, of_decide_eq_true htoken⟩
  · rintro ⟨hget, rfl⟩
    have hmem : record ∈ order.arrange s.nodeRegistrationTokens.values := by
      rw [IterationOrder.mem_arrange]
      exact (mem_values _ _).mpr ⟨_, hget⟩
    cases hfind : findRegistrationToken order record.token s with
    | none =>
        have hnone := List.find?_eq_none.mp hfind record hmem
        simp at hnone
    | some other =>
        have hsome := List.find?_some hfind
        have htoken := of_decide_eq_true hsome
        have hother := List.mem_of_find?_eq_some hfind
        rw [IterationOrder.mem_arrange] at hother
        obtain ⟨tokenId, hget'⟩ := (mem_values _ _).mp hother
        obtain rfl := h.unique _ _ _ _ hget' hget htoken
        rw [hget] at hget'
        exact hget'.symm

theorem UniqueTokens.keptUsed_iff
    {s : MemoryState} (h : UniqueTokens s.nodeRegistrationTokens)
    (spent : String × String) :
    KeptUsed spent s ↔
      ∃ record, get s.nodeRegistrationTokens record.tokenId = some record ∧
        record.token = spent.1 ∧ record.status = "used" ∧
        record.usedByNodeId = some spent.2 := by
  constructor
  · intro hkept
    obtain ⟨record, hfind, hstatus, hnode⟩ :=
      hkept IterationOrder.entryOrder
    obtain ⟨hget, htoken⟩ := (h.find_eq_some _ _ _).mp hfind
    exact ⟨record, hget, htoken, hstatus, hnode⟩
  · rintro ⟨record, hget, htoken, hstatus, hnode⟩ order
    exact ⟨record, (h.find_eq_some _ _ _).mpr ⟨hget, htoken⟩, hstatus, hnode⟩

/-- What one call can do to the table of tokens. -/
inductive TokenStep (crates : Crates) (tenantId : String) (e : StoreEntry) :
    Prop
  | same
      (hspends : spends tenantId e = none)
      (hafter : (afterCall crates tenantId e).nodeRegistrationTokens =
        e.before.nodeRegistrationTokens)
  | spend
      (record : NodeRegistrationTokenRecord) (nodeId : String)
      (hspends : spends tenantId e = some (record.token, nodeId))
      (hget : get e.before.nodeRegistrationTokens record.tokenId =
        some record)
      (hactive : record.status = "active" ∨
        e.op = .consumeNodeRegistrationToken record.token nodeId)
      (hafter : (afterCall crates tenantId e).nodeRegistrationTokens =
        e.before.nodeRegistrationTokens.insert record.tokenId
          (record.markUsed nodeId e.choice.now))
  | create
      (record : NodeRegistrationTokenRecord)
      (hspends : spends tenantId e = none)
      (hop : e.op = .createNodeRegistrationToken record)
      (hnew : e.before.nodeRegistrationTokens.values.any
        (fun other => other.token = record.token) = false)
      (hafter : (afterCall crates tenantId e).nodeRegistrationTokens =
        e.before.nodeRegistrationTokens.insert record.tokenId record)

theorem tokenStep
    (crates : Crates) (tenantId : String) (e : StoreEntry)
    (h : UniqueTokens e.before.nodeRegistrationTokens) :
    TokenStep crates tenantId e := by
  obtain ⟨op, t, s⟩ := e
  cases op with
  | registerNodeWithRegistrationToken node token =>
      cases hfind : findRegistrationToken t.order token s with
      | none =>
          refine .same ?_ ?_
          · simp [spends, registerNodeWithRegistrationToken, hfind]
          · simp [afterCall, exec, registerNodeWithRegistrationToken, hfind]
      | some record =>
          obtain ⟨hget, rfl⟩ := (h.find_eq_some _ _ _).mp hfind
          by_cases hactive : record.status = "active"
          · refine .spend record node.nodeId ?_ hget (.inl hactive) ?_
            · simp [spends, registerNodeWithRegistrationToken, hfind, hactive]
            · simp [afterCall, exec, registerNodeWithRegistrationToken, hfind,
                hactive, MemoryStore.record,
                NodeRegistrationTokenRecord.markUsed]
          · refine .same ?_ ?_
            · simp [spends, registerNodeWithRegistrationToken, hfind, hactive]
            · simp [afterCall, exec, registerNodeWithRegistrationToken, hfind,
                hactive]
  | consumeNodeRegistrationToken token nodeId =>
      cases hfind : findRegistrationToken t.order token s with
      | none =>
          refine .same ?_ ?_
          · simp [spends, consumeNodeRegistrationToken, hfind]
          · simp [afterCall, exec, consumeNodeRegistrationToken, hfind]
      | some record =>
          obtain ⟨hget, rfl⟩ := (h.find_eq_some _ _ _).mp hfind
          refine .spend record nodeId ?_ hget (.inr rfl) ?_
          · simp [spends, consumeNodeRegistrationToken, hfind]
          · simp [afterCall, exec, consumeNodeRegistrationToken, hfind,
              MemoryStore.record, NodeRegistrationTokenRecord.markUsed]
  | createNodeRegistrationToken record =>
      cases hnew : s.nodeRegistrationTokens.values.any
          (fun other => other.token = record.token) with
      | true =>
          refine .same rfl ?_
          simp [afterCall, exec, createNodeRegistrationToken, hnew]
      | false =>
          refine .create record rfl rfl hnew ?_
          simp [afterCall, exec, createNodeRegistrationToken, hnew,
            MemoryStore.record]
  | _ =>
      exact .same rfl (exec_frame crates tenantId
        (g := .registrationTokens) rfl t s)

theorem not_token_of_new
    {tokens : HashTable String NodeRegistrationTokenRecord} {token : String}
    (h : tokens.values.any (fun other => other.token = token) = false)
    {tokenId : String} {old : NodeRegistrationTokenRecord}
    (hget : get tokens tokenId = some old) :
    old.token ≠ token := by
  have hold := List.any_eq_false.mp h old ((mem_values _ _).mpr ⟨_, hget⟩)
  simpa using hold

theorem UniqueTokens.afterCall
    {e : StoreEntry} (h : UniqueTokens e.before.nodeRegistrationTokens) :
    UniqueTokens
      (afterCall crates tenantId e).nodeRegistrationTokens := by
  cases tokenStep crates tenantId e h with
  | same hspends hafter =>
      rw [hafter]
      exact h
  | spend record nodeId hspends hget hactive hafter =>
      rw [hafter]
      have honly : ∀ tokenId old,
          get e.before.nodeRegistrationTokens tokenId = some old →
          old.token = (record.markUsed nodeId e.choice.now).token →
          tokenId = (record.markUsed nodeId e.choice.now).tokenId := by
        intro tokenId old hold htoken
        exact h.unique _ _ _ _ hold hget htoken
      exact h.insert honly
  | create record hspends hop hnew hafter =>
      rw [hafter]
      refine h.insert ?_
      intro tokenId old hold htoken
      exact absurd htoken (not_token_of_new hnew hold)

theorem History.uniqueTokens
    {log : List StoreEntry} {s : MemoryState}
    (h : History crates tenantId log s) :
    UniqueTokens s.nodeRegistrationTokens := by
  induction h with
  | new => exact .empty
  | call _ op t ih => exact UniqueTokens.afterCall ih

/-! ## Spent tokens -/

/-- A call that does not disturb a spent token keeps it. -/
theorem KeptUsed.afterCall
    {e : StoreEntry} {spent : String × String}
    (hunique : UniqueTokens e.before.nodeRegistrationTokens)
    (hkept : KeptUsed spent e.before) (hcalm : disturbs spent.1 e = false) :
    KeptUsed spent (afterCall crates tenantId e) := by
  have hunique' := @UniqueTokens.afterCall crates tenantId e hunique
  rw [hunique.keptUsed_iff] at hkept
  rw [hunique'.keptUsed_iff]
  obtain ⟨used, hused, htoken, hstatus, hnode⟩ := hkept
  refine ⟨used, ?_, htoken, hstatus, hnode⟩
  cases tokenStep crates tenantId e hunique with
  | same hspends hafter =>
      rw [hafter]
      exact hused
  | spend record nodeId hspends hget hactive hafter =>
      rw [hafter, get_insert_of_ne _ _ ?_, hused]
      intro hid
      rw [hid, hget] at hused
      obtain rfl := Option.some.inj hused
      rcases hactive with hactive | hop
      · rw [hactive] at hstatus
        exact absurd hstatus (by decide)
      · simp [disturbs, hop, htoken] at hcalm
  | create record hspends hop hnew hafter =>
      rw [hafter, get_insert_of_ne _ _ ?_, hused]
      intro hid
      rw [hid] at hused
      simp [disturbs, hop, hused, htoken] at hcalm
      obtain ⟨other, hother, hsame⟩ := hcalm
      have hne := List.any_eq_false.mp hnew other hother
      simp [hsame] at hne

/-- A call that spends a token leaves it used. -/
theorem keptUsed_of_spends
    {e : StoreEntry} {spent : String × String}
    (hunique : UniqueTokens e.before.nodeRegistrationTokens)
    (hspends : spends tenantId e = some spent) :
    KeptUsed spent (afterCall crates tenantId e) := by
  have hunique' := @UniqueTokens.afterCall crates tenantId e hunique
  rw [hunique'.keptUsed_iff]
  cases tokenStep crates tenantId e hunique with
  | same hnone =>
      rw [hnone] at hspends
      cases hspends
  | spend record nodeId hsome hget hactive hafter =>
      rw [hsome] at hspends
      obtain rfl := Option.some.inj hspends
      refine ⟨record.markUsed nodeId e.choice.now, ?_, rfl, rfl, rfl⟩
      rw [hafter]
      exact get_insert_self ..
  | create record hnone =>
      rw [hnone] at hspends
      cases hspends

/-- A used token can only be consumed again. -/
theorem disturbs_of_spends_again
    {e : StoreEntry} {spent again : String × String}
    (hunique : UniqueTokens e.before.nodeRegistrationTokens)
    (hkept : KeptUsed spent e.before)
    (hspends : spends tenantId e = some again) (hsame : again.1 = spent.1) :
    disturbs spent.1 e = true := by
  rw [hunique.keptUsed_iff] at hkept
  obtain ⟨used, hused, htoken, hstatus, -⟩ := hkept
  cases tokenStep referenceCrates tenantId e hunique with
  | same hnone =>
      rw [hnone] at hspends
      cases hspends
  | spend record nodeId hsome hget hactive hafter =>
      rw [hsome] at hspends
      obtain rfl := Option.some.inj hspends
      have hid := hunique.unique _ _ _ _ hget hused (hsame.trans htoken.symm)
      rw [hid, hused] at hget
      obtain rfl := Option.some.inj hget
      rcases hactive with hactive | hop
      · rw [hactive] at hstatus
        exact absurd hstatus (by decide)
      · simp [disturbs, hop, htoken]
  | create record hnone =>
      rw [hnone] at hspends
      cases hspends

/-- A used token that is disturbed is spent again, or is no longer found. -/
theorem spends_of_disturbs
    {e : StoreEntry} {spent : String × String}
    (hunique : UniqueTokens e.before.nodeRegistrationTokens)
    (hkept : KeptUsed spent e.before) (hdisturbs : disturbs spent.1 e = true)
    (hafter : KeptUsed spent (afterCall crates tenantId e)) :
    ∃ again, spends tenantId e = some again ∧ again.1 = spent.1 := by
  obtain ⟨op, t, s⟩ := e
  cases op with
  | consumeNodeRegistrationToken token nodeId =>
      obtain rfl : token = spent.1 := by simpa [disturbs] using hdisturbs
      obtain ⟨used, hfind, -⟩ := hkept t.order
      refine ⟨(spent.1, nodeId), ?_, rfl⟩
      simp [spends, consumeNodeRegistrationToken, hfind]
  | createNodeRegistrationToken record =>
      simp only [disturbs, Bool.and_eq_true, Bool.not_eq_true',
        Option.any_eq_true, decide_eq_true_eq] at hdisturbs
      obtain ⟨hnew, old, hold, htoken⟩ := hdisturbs
      -- the record of the token is replaced by one with another text
      have hunique' := @UniqueTokens.afterCall crates tenantId
        ⟨.createNodeRegistrationToken record, t, s⟩ hunique
      rw [hunique'.keptUsed_iff] at hafter
      obtain ⟨used, hused, hsame, -⟩ := hafter
      simp only [MemoryStore.afterCall, exec, createNodeRegistrationToken,
        hnew, Bool.false_eq_true, if_false, MemoryStore.record] at hused
      rw [get_insert] at hused
      split_ifs at hused with hid
      · obtain rfl := Option.some.inj hused
        exact absurd (htoken.trans hsame.symm) (not_token_of_new hnew hold)
      · have hsameId := hunique.unique _ _ _ _ hused hold
          (hsame.trans htoken.symm)
        exact absurd hsameId hid
  | _ => cases hdisturbs

theorem refusesCleanly
    (crates : Crates) (tenantId : String) (e : StoreEntry) :
    RefusesCleanly crates tenantId e := by
  obtain ⟨op, t, s⟩ := e
  rintro node token rfl hspends
  cases hfind : findRegistrationToken t.order token s with
  | none => simp [afterCall, exec, registerNodeWithRegistrationToken, hfind]
  | some record =>
      by_cases hactive : record.status = "active"
      · simp [spends, registerNodeWithRegistrationToken, hfind, hactive]
          at hspends
      · simp [afterCall, exec, registerNodeWithRegistrationToken, hfind,
          hactive]

theorem nodup_spends_append
    (log : List StoreEntry) (e : StoreEntry) :
    (((log ++ [e]).filterMap (spends tenantId)).map Prod.fst).Nodup ↔
      ((log.filterMap (spends tenantId)).map Prod.fst).Nodup ∧
        ∀ again ∈ spends tenantId e,
          ∀ e' ∈ log, ∀ spent ∈ spends tenantId e', again.1 ≠ spent.1 := by
  rw [List.filterMap_append, List.map_append]
  cases hspends : spends tenantId e with
  | none => simp [hspends]
  | some again =>
      rw [List.filterMap_cons_some hspends, List.filterMap_nil, List.map_cons,
        List.map_nil, List.nodup_append_comm, List.singleton_append,
        List.nodup_cons, and_comm]
      refine and_congr_right fun _ => ?_
      simp only [List.mem_map, List.mem_filterMap, Option.mem_def,
        Option.some.injEq, forall_eq', not_exists, not_and]
      constructor
      · intro hnone e' he' spent hspent hsame
        exact hnone spent ⟨e', he', hspent⟩ hsame.symm
      · rintro hne spent ⟨e', he', hspent⟩ hsame
        exact hne e' he' spent hspent hsame.symm

/--
A run spends every token once, and keeps it as it was spent, exactly when no
call consumes a spent token again or replaces its record.
-/
theorem one_time_iff
    (crates : Crates) (tenantId : String)
    {log : List StoreEntry} {s : MemoryState}
    (h : History crates tenantId log s) :
    OneTime crates tenantId log s ↔ LeavesSpentAlone tenantId log := by
  have hrefuses : ∀ e ∈ log, RefusesCleanly crates tenantId e :=
    fun e _ => refusesCleanly crates tenantId e
  suffices hiff :
      (((log.filterMap (spends tenantId)).map Prod.fst).Nodup ∧
        log.Pairwise (fun e e' =>
          ∀ spent ∈ spends tenantId e, KeptUsed spent e'.before) ∧
        ∀ e ∈ log, ∀ spent ∈ spends tenantId e, KeptUsed spent s) ↔
      LeavesSpentAlone tenantId log by
    rw [← hiff]
    exact ⟨fun h => ⟨h.once, h.kept, h.keptNow⟩,
      fun h => ⟨h.1, h.2.1, h.2.2, hrefuses⟩⟩
  clear hrefuses
  induction h with
  | new => simp [LeavesSpentAlone]
  | @call log s h op t ih =>
      let e : StoreEntry := ⟨op, t, s⟩
      have hunique : UniqueTokens e.before.nodeRegistrationTokens :=
        h.uniqueTokens
      change (_ ∧ List.Pairwise _ (log ++ [e]) ∧ _) ↔
        List.Pairwise _ (log ++ [e])
      rw [nodup_spends_append]
      simp only [List.pairwise_append, List.mem_singleton, forall_eq,
        List.pairwise_singleton, true_and, List.mem_append, or_imp,
        forall_and]
      unfold LeavesSpentAlone at ih
      rw [← ih]
      constructor
      · rintro ⟨⟨honce, hagain⟩, ⟨hkept, hbefore⟩, hafter, -⟩
        refine ⟨⟨honce, hkept, hbefore⟩, ?_⟩
        intro e' he' spent hspent
        rw [Bool.eq_false_iff]
        intro hdisturbs
        obtain ⟨again, hspends, hsame⟩ :=
          spends_of_disturbs hunique (hbefore e' he' spent hspent) hdisturbs
            (hafter e' he' spent hspent)
        exact hagain again hspends e' he' spent hspent hsame
      · rintro ⟨⟨honce, hkept, hbefore⟩, hcalm⟩
        refine ⟨⟨honce, ?_⟩, ⟨hkept, hbefore⟩, ?_, ?_⟩
        · intro again hspends e' he' spent hspent hsame
          have hdisturbs := disturbs_of_spends_again hunique
            (hbefore e' he' spent hspent) hspends hsame
          rw [hcalm e' he' spent hspent] at hdisturbs
          cases hdisturbs
        · intro e' he' spent hspent
          exact (hbefore e' he' spent hspent).afterCall hunique
            (hcalm e' he' spent hspent)
        · intro spent hspent
          exact keptUsed_of_spends hunique hspent

/-! ### A token that is consumed twice -/

def tokenCall (op : StoreCall) : StoreCall × Tick :=
  (op, referenceTick 1700000000 "id")

def createToken : StoreCall × Tick :=
  tokenCall (.createNodeRegistrationToken
    (.new "tenant" "regtok" "token" ⟨1700000000, 0⟩))

/-- A node that registers with the token. -/
def registerWithToken : StoreCall × Tick :=
  tokenCall (.registerNodeWithRegistrationToken
    (.new "tenant" "node-a" "node-a.example" "1.8.0" ⟨1700000000, 0⟩) "token")

/-- A token that is spent by a registration, and refused after that. -/
theorem one_time_iff_registered :
    OneTime referenceCrates "tenant"
      (entriesFrom referenceCrates "tenant"
        [createToken, registerWithToken, registerWithToken] .default)
      (execAll referenceCrates "tenant"
        [createToken, registerWithToken, registerWithToken] .default) := by
  refine (one_time_iff referenceCrates "tenant"
    (History.new.execAll [createToken, registerWithToken,
      registerWithToken])).mpr ?_
  unfold LeavesSpentAlone
  decide +kernel

/-- A token that is consumed for one node and then for another one. -/
theorem token_consumed_twice :
    ¬ ∀ (crates : Crates) (tenantId : String)
      (log : List StoreEntry) (s : MemoryState),
      History crates tenantId log s → OneTime crates tenantId log s := by
  intro h
  have honce := (h referenceCrates "tenant" _ _
    (History.new.execAll [createToken,
      tokenCall (.consumeNodeRegistrationToken "token" "node-a"),
      tokenCall (.consumeNodeRegistrationToken "token" "node-b")])).once
  revert honce
  decide +kernel

end MemoryStore
end ProxyControl
