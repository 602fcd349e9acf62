import ProxyControl.ReferenceCrates
import ProxyControl.Storage.ProxyStore

/-!
# The life of a subscription token

`liveTokens` is what the tokens of all profiles amount to after a sequence of
calls: an issue adds a token, a rotation replaces those of its profile.  The
table of the store holds the digests of the same tokens as active records,
next to the rotated ones, as long as no token id is drawn twice.
-/

namespace ProxyControl
namespace MemoryStore

open Calendar Effects HashTable

section Calls

variable (crates : Crates) (tenantId : String)

/-- The token that a successful issue or rotation returns. -/
def returned : StoreEntry → Option IssuedSubscriptionToken
  | ⟨.issueSubscriptionToken profileId, t, s⟩ =>
      (issueSubscriptionToken crates tenantId t.now (t.uuid 0) (t.uuid 1)
        profileId s).1.toOption
  | ⟨.rotateSubscriptionToken profileId, t, s⟩ =>
      (rotateSubscriptionToken crates tenantId t.now (t.uuid 0) (t.uuid 1)
        profileId s).1.toOption
  | _ => none

/-- Whether the call rotates the tokens of a profile. -/
def isRotation : StoreCall → Bool
  | .rotateSubscriptionToken _ => true
  | _ => false

/-- The call is a successful rotation for the profile. -/
def Rotates (profileId : String) (e : StoreEntry) : Prop :=
  e.op = .rotateSubscriptionToken profileId ∧
    (returned crates tenantId e).isSome

/-- A call has returned the token for the profile. -/
def ReturnedFor
    (profileId token : String) (e : StoreEntry) : Prop :=
  ∃ issued, returned crates tenantId e = some issued ∧
    issued.profileId = profileId ∧ issued.token = token

/-- The token was returned for the profile, and no rotation followed. -/
def Live (log : List StoreEntry) (profileId token : String) : Prop :=
  ∃ before e later, log = before ++ e :: later ∧
    ReturnedFor crates tenantId profileId token e ∧
    ∀ e' ∈ later, ¬ Rotates crates tenantId profileId e'

/-- The identifier from which a returned token has its id. -/
def tokenUuid (e : StoreEntry) : Option String :=
  (returned crates tenantId e).map (fun _ => e.choice.uuid 0)

/-- Identifiers of tokens are drawn once only, and contain no dot. -/
structure FreshTokens (log : List StoreEntry) : Prop where
  nodup : (log.filterMap (tokenUuid crates tenantId)).Nodup
  plain : ∀ id ∈ log.filterMap (tokenUuid crates tenantId), '.' ∉ id.toList

/-- No returned token has the digest of another text `token`. -/
def CollisionFree (log : List StoreEntry) (token : String) : Prop :=
  ∀ e ∈ log, ∀ issued ∈ returned crates tenantId e,
    crates.sha256 (utf8 issued.token) = crates.sha256 (utf8 token) →
    issued.token = token

/-- What the life of a token promises after a run. -/
structure TokenLifecycle
    (log : List StoreEntry) (s : MemoryState) (profileId token : String) :
    Prop where
  verifies : ∀ order,
    (verifySubscriptionToken crates order profileId token s).isOk = true ↔
      Live crates tenantId log profileId token
  required : s.profiles.containsKey profileId = true →
    (subscriptionTokenRequired profileId s = .ok true ↔
      ∃ e ∈ log, ∃ issued ∈ returned crates tenantId e,
        issued.profileId = profileId)
  neverAgain : ∀ before e later, log = before ++ e :: later →
    Rotates crates tenantId profileId e →
    (∃ e' ∈ before, ReturnedFor crates tenantId profileId token e') →
    ∀ order,
      (verifySubscriptionToken crates order profileId token s).isOk = false
  noOther : ∀ e ∈ log, ∀ other,
    ReturnedFor crates tenantId other token e → other ≠ profileId →
    ∀ order,
      (verifySubscriptionToken crates order profileId token s).isOk = false
  unaffected : ∀ before e later other, log = before ++ e :: later →
    Rotates crates tenantId other e → other ≠ profileId →
    (∀ order, (verifySubscriptionToken crates order profileId token
        (afterCall crates tenantId e)).isOk =
      (verifySubscriptionToken crates order profileId token
        e.before).isOk) ∧
    subscriptionTokenRequired profileId (afterCall crates tenantId e) =
      subscriptionTokenRequired profileId e.before

/-- The tokens after one more call. -/
def keepLive
    (live : List IssuedSubscriptionToken) (e : StoreEntry) :
    List IssuedSubscriptionToken :=
  match returned crates tenantId e with
  | none => live
  | some issued =>
      if isRotation e.op then
        live.filter (fun other => other.profileId ≠ issued.profileId) ++
          [issued]
      else
        live ++ [issued]

/-- The tokens that a sequence of calls leaves. -/
def liveTokens (log : List StoreEntry) : List IssuedSubscriptionToken :=
  log.foldl (keepLive crates tenantId) []

end Calls

variable {crates : Crates} {tenantId : String}

/-! ## The calls -/

/-- What one call can do to the table of tokens. -/
inductive SubscriptionStep
    (crates : Crates) (tenantId : String) (e : StoreEntry) : Prop
  | same
      (hnone : returned crates tenantId e = none)
      (hafter : (afterCall crates tenantId e).subscriptionTokens =
        e.before.subscriptionTokens)
  | issue
      (issued : IssuedSubscriptionToken)
      (hnew : issued = newSubscriptionToken issued.profileId (e.choice.uuid 0)
        (e.choice.uuid 1))
      (hissued : returned crates tenantId e = some issued)
      (hop : e.op = .issueSubscriptionToken issued.profileId)
      (hafter : (afterCall crates tenantId e).subscriptionTokens =
        e.before.subscriptionTokens.insert issued.tokenId
          (subscriptionTokenRecord crates tenantId issued e.choice.now))
  | rotate
      (issued : IssuedSubscriptionToken)
      (hnew : issued = newSubscriptionToken issued.profileId (e.choice.uuid 0)
        (e.choice.uuid 1))
      (hissued : returned crates tenantId e = some issued)
      (hop : e.op = .rotateSubscriptionToken issued.profileId)
      (hafter : (afterCall crates tenantId e).subscriptionTokens =
        (e.before.subscriptionTokens.mapValues
          (rotateToken issued.profileId e.choice.now)).insert issued.tokenId
            (subscriptionTokenRecord crates tenantId issued e.choice.now))

theorem subscriptionStep
    (crates : Crates) (tenantId : String) (e : StoreEntry) :
    SubscriptionStep crates tenantId e := by
  obtain ⟨op, t, s⟩ := e
  cases op with
  | issueSubscriptionToken profileId =>
      cases hprofile : s.profiles.containsKey profileId with
      | true =>
          refine .issue
            (newSubscriptionToken profileId (t.uuid 0) (t.uuid 1)) rfl ?_ rfl ?_
          · simp [returned, issueSubscriptionToken, hprofile,
              Except.toOption]
          · simp [afterCall, exec, issueSubscriptionToken, hprofile, record]
      | false =>
          refine .same ?_ ?_
          · simp [returned, issueSubscriptionToken, hprofile,
              Except.toOption]
          · simp [afterCall, exec, issueSubscriptionToken, hprofile]
  | rotateSubscriptionToken profileId =>
      cases hprofile : s.profiles.containsKey profileId with
      | true =>
          refine .rotate
            (newSubscriptionToken profileId (t.uuid 0) (t.uuid 1)) rfl ?_ rfl ?_
          · simp [returned, rotateSubscriptionToken, hprofile,
              Except.toOption]
          · simp [afterCall, exec, rotateSubscriptionToken, hprofile, record,
              newSubscriptionToken]
      | false =>
          refine .same ?_ ?_
          · simp [returned, rotateSubscriptionToken, hprofile,
              Except.toOption]
          · simp [afterCall, exec, rotateSubscriptionToken, hprofile]
  | _ =>
      exact .same rfl (exec_frame crates tenantId
        (g := .subscriptionTokens) rfl t s)

/-- A returned token is made from the identifiers of its call. -/
theorem returned_eq_new
    {e : StoreEntry} {issued : IssuedSubscriptionToken}
    (h : returned crates tenantId e = some issued) :
    issued = newSubscriptionToken issued.profileId (e.choice.uuid 0)
      (e.choice.uuid 1) := by
  cases subscriptionStep crates tenantId e with
  | same hnone =>
      rw [hnone] at h
      cases h
  | issue other hnew hissued | rotate other hnew hissued =>
      rw [hissued] at h
      obtain rfl := Option.some.inj h
      exact hnew

theorem rotates_iff
    {e : StoreEntry} {issued : IssuedSubscriptionToken}
    (h : returned crates tenantId e = some issued) (profileId : String) :
    Rotates crates tenantId profileId e ↔
      isRotation e.op = true ∧
        issued.profileId = profileId := by
  cases subscriptionStep crates tenantId e with
  | same hnone =>
      rw [hnone] at h
      cases h
  | issue other hnew hissued hop | rotate other hnew hissued hop =>
      rw [hissued] at h
      obtain rfl := Option.some.inj h
      simp [Rotates, isRotation, hop, hissued]

/-! ## The tokens that are left -/

theorem mem_keepLive
    {live : List IssuedSubscriptionToken} {e : StoreEntry}
    {issued : IssuedSubscriptionToken} :
    issued ∈ keepLive crates tenantId live e ↔
      returned crates tenantId e = some issued ∨
        issued ∈ live ∧ ¬ Rotates crates tenantId issued.profileId e := by
  unfold keepLive
  cases hissued : returned crates tenantId e with
  | none => simp [Rotates, hissued]
  | some other =>
      simp only [rotates_iff hissued, Option.some.injEq]
      cases hop : isRotation e.op with
      | true =>
          simp only [if_true, List.mem_append, List.mem_filter,
            List.mem_singleton, decide_eq_true_eq, true_and, ne_eq]
          constructor
          · rintro (⟨hmem, hne⟩ | rfl)
            · exact .inr ⟨hmem, fun heq => hne heq.symm⟩
            · exact .inl rfl
          · rintro (rfl | ⟨hmem, hne⟩)
            · exact .inr rfl
            · exact .inl ⟨hmem, fun heq => hne heq.symm⟩
      | false =>
          simp [or_comm, eq_comm]

theorem liveTokens_append
    (log : List StoreEntry) (e : StoreEntry) :
    liveTokens crates tenantId (log ++ [e]) =
      keepLive crates tenantId (liveTokens crates tenantId log) e := by
  simp [liveTokens]

/-- The log after one more call, as far as one token is concerned. -/
theorem live_append
    {log : List StoreEntry} {e : StoreEntry} {profileId token : String} :
    Live crates tenantId (log ++ [e]) profileId token ↔
      ReturnedFor crates tenantId profileId token e ∨
        Live crates tenantId log profileId token ∧
          ¬ Rotates crates tenantId profileId e :=
  since_append

theorem mem_liveTokens_iff
    (log : List StoreEntry) (profileId token : String) :
    (∃ issued ∈ liveTokens crates tenantId log,
      issued.profileId = profileId ∧ issued.token = token) ↔
      Live crates tenantId log profileId token := by
  induction log using List.reverseRecOn with
  | nil => simp [liveTokens, Live]
  | append_singleton log e ih =>
      rw [liveTokens_append, live_append, ← ih]
      simp only [mem_keepLive, ReturnedFor]
      constructor
      · rintro ⟨issued, hreturned | ⟨hmem, hrotates⟩, rfl, rfl⟩
        · exact .inl ⟨issued, hreturned, rfl, rfl⟩
        · exact .inr ⟨⟨issued, hmem, rfl, rfl⟩, hrotates⟩
      · rintro (⟨issued, hreturned, rfl, rfl⟩ |
          ⟨⟨issued, hmem, rfl, rfl⟩, hrotates⟩)
        · exact ⟨issued, .inl hreturned, rfl, rfl⟩
        · exact ⟨issued, .inr ⟨hmem, hrotates⟩, rfl, rfl⟩

/-- A profile that has had a token always has one. -/
theorem exists_mem_liveTokens_iff
    (log : List StoreEntry) (profileId : String) :
    (∃ issued ∈ liveTokens crates tenantId log,
      issued.profileId = profileId) ↔
      ∃ e ∈ log, ∃ issued ∈ returned crates tenantId e,
        issued.profileId = profileId := by
  induction log using List.reverseRecOn with
  | nil => simp [liveTokens]
  | append_singleton log e ih =>
      rw [liveTokens_append]
      simp only [mem_keepLive, List.mem_append, List.mem_singleton,
        Option.mem_def]
      constructor
      · rintro ⟨issued, hreturned | ⟨hmem, -⟩, rfl⟩
        · exact ⟨e, .inr rfl, issued, hreturned, rfl⟩
        · obtain ⟨e', he', hissued⟩ := ih.mp ⟨issued, hmem, rfl⟩
          exact ⟨e', .inl he', hissued⟩
      · rintro ⟨e', he' | rfl, issued, hreturned, rfl⟩
        · obtain ⟨other, hmem, hprofile⟩ :=
            ih.mpr ⟨e', he', issued, hreturned, rfl⟩
          -- a rotation leaves the token that it returns
          by_cases hrotates : Rotates crates tenantId issued.profileId e
          · obtain ⟨new, hnew⟩ := Option.isSome_iff_exists.mp hrotates.2
            have hsame := ((rotates_iff hnew _).mp hrotates).2
            exact ⟨new, .inl hnew, hsame⟩
          · exact ⟨other, .inr ⟨hmem, hprofile ▸ hrotates⟩, hprofile⟩
        · exact ⟨issued, .inl hreturned, rfl⟩

/-! ## The table holds the live tokens -/

/-- The records of the table are those of returned tokens, some of them live. -/
structure TokenTable
    (crates : Crates) (tenantId : String)
    (log : List StoreEntry) (s : MemoryState) : Prop where
  known : ∀ tokenId record, get s.subscriptionTokens tokenId = some record →
    ∃ e ∈ log, ∃ issued ∈ returned crates tenantId e,
      issued.tokenId = tokenId
  active : ∀ tokenId profileId tokenHash,
    (∃ record, get s.subscriptionTokens tokenId = some record ∧
      record.profileId = profileId ∧ record.tokenHash = tokenHash ∧
      record.status = "active") ↔
    ∃ issued ∈ liveTokens crates tenantId log, issued.tokenId = tokenId ∧
      issued.profileId = profileId ∧
      subscriptionTokenHash crates issued.token = tokenHash

theorem FreshTokens.of_append
    {log later : List StoreEntry}
    (h : FreshTokens crates tenantId (log ++ later)) :
    FreshTokens crates tenantId log := by
  obtain ⟨hnodup, hplain⟩ := h
  rw [List.filterMap_append] at hnodup hplain
  exact ⟨hnodup.of_append_left,
    fun id hid => hplain id (List.mem_append_left _ hid)⟩

theorem tokenUuid_of_returned
    {e : StoreEntry} {issued : IssuedSubscriptionToken}
    (h : returned crates tenantId e = some issued) :
    tokenUuid crates tenantId e = some (e.choice.uuid 0) := by
  rw [tokenUuid, h, Option.map_some]

/-- A new token has a new id. -/
theorem FreshTokens.tokenId_ne
    {log : List StoreEntry} {e e' : StoreEntry}
    (h : FreshTokens crates tenantId (log ++ [e])) (he' : e' ∈ log)
    {issued issued' : IssuedSubscriptionToken}
    (hissued : returned crates tenantId e = some issued)
    (hissued' : returned crates tenantId e' = some issued') :
    issued'.tokenId ≠ issued.tokenId := by
  intro hid
  have hnodup := h.nodup
  rw [List.filterMap_append] at hnodup
  have huuid : e'.choice.uuid 0 = e.choice.uuid 0 := by
    rw [returned_eq_new hissued, returned_eq_new hissued'] at hid
    exact (String.append_right_inj _).mp hid
  refine List.disjoint_of_nodup_append hnodup (a := e.choice.uuid 0) ?_ ?_
  · rw [← huuid]
    exact List.mem_filterMap.mpr ⟨e', he', tokenUuid_of_returned hissued'⟩
  · exact List.mem_filterMap.mpr
      ⟨e, List.mem_singleton_self e, tokenUuid_of_returned hissued⟩

theorem exists_returned_of_mem_liveTokens
    {log : List StoreEntry} {issued : IssuedSubscriptionToken}
    (h : issued ∈ liveTokens crates tenantId log) :
    ∃ e ∈ log, returned crates tenantId e = some issued := by
  induction log using List.reverseRecOn with
  | nil => cases h
  | append_singleton log e ih =>
      rw [liveTokens_append, mem_keepLive] at h
      rcases h with hreturned | ⟨hmem, -⟩
      · exact ⟨e, by simp, hreturned⟩
      · obtain ⟨e', he', hreturned⟩ := ih hmem
        exact ⟨e', by simp [he'], hreturned⟩

/-- The record of a new token beside the records that a call leaves. -/
theorem TokenTable.insert
    {log : List StoreEntry} {e : StoreEntry} {issued : IssuedSubscriptionToken}
    (hfresh : FreshTokens crates tenantId (log ++ [e]))
    (hissued : returned crates tenantId e = some issued)
    {tokens : HashTable String SubscriptionTokenRecord} {s : MemoryState}
    (hs : s.subscriptionTokens = tokens.insert issued.tokenId
      (subscriptionTokenRecord crates tenantId issued e.choice.now))
    (hknown : ∀ tokenId record, get tokens tokenId = some record →
      ∃ e ∈ log, ∃ issued ∈ returned crates tenantId e,
        issued.tokenId = tokenId)
    (hactive : ∀ tokenId profileId tokenHash,
      (∃ record, get tokens tokenId = some record ∧
        record.profileId = profileId ∧ record.tokenHash = tokenHash ∧
        record.status = "active") ↔
      ∃ other ∈ liveTokens crates tenantId log,
        ¬ Rotates crates tenantId other.profileId e ∧
        other.tokenId = tokenId ∧ other.profileId = profileId ∧
        subscriptionTokenHash crates other.token = tokenHash) :
    TokenTable crates tenantId (log ++ [e]) s := by
  constructor
  · intro tokenId record hrecord
    rw [hs, get_insert] at hrecord
    split_ifs at hrecord with hid
    · exact ⟨e, by simp, issued, hissued, hid.symm⟩
    · obtain ⟨e', he', hother⟩ := hknown tokenId record hrecord
      exact ⟨e', by simp [he'], hother⟩
  · intro tokenId profileId tokenHash
    rw [liveTokens_append, hs]
    simp only [mem_keepLive, hissued, Option.some.injEq]
    by_cases hid : tokenId = issued.tokenId
    · -- the id is new, so only the new token has it
      subst hid
      rw [get_insert_self]
      constructor
      · rintro ⟨record, hrecord, rfl, rfl, -⟩
        obtain rfl := Option.some.inj hrecord
        exact ⟨issued, .inl rfl, rfl, rfl, rfl⟩
      · rintro ⟨other, rfl | ⟨hmem, -⟩, hother, rfl, rfl⟩
        · refine ⟨_, rfl, rfl, rfl, ?_⟩
          rw [returned_eq_new hissued]
          rfl
        · obtain ⟨e', he', hreturned⟩ :=
            exists_returned_of_mem_liveTokens hmem
          exact absurd hother (hfresh.tokenId_ne he' hissued hreturned)
    · rw [get_insert_of_ne _ _ hid, hactive]
      constructor
      · rintro ⟨other, hmem, hrotates, rfl, rfl, rfl⟩
        exact ⟨other, .inr ⟨hmem, hrotates⟩, rfl, rfl, rfl⟩
      · rintro ⟨other, rfl | ⟨hmem, hrotates⟩, rfl, rfl, rfl⟩
        · exact absurd rfl hid
        · exact ⟨other, hmem, hrotates, rfl, rfl, rfl⟩

theorem rotateToken_active
    (profileId : String) (now : DateTime) (record : SubscriptionTokenRecord) :
    (rotateToken profileId now record).profileId = record.profileId ∧
      (rotateToken profileId now record).tokenHash = record.tokenHash ∧
      ((rotateToken profileId now record).status = "active" ↔
        record.status = "active" ∧ record.profileId ≠ profileId) := by
  unfold rotateToken
  split <;> rename_i h
  · simp [h.1]
  · refine ⟨rfl, rfl, ?_⟩
    constructor
    · intro hactive
      exact ⟨hactive, fun hprofile => h ⟨hprofile, hactive⟩⟩
    · exact And.left

theorem TokenTable.call
    {log : List StoreEntry} {e : StoreEntry}
    (h : TokenTable crates tenantId log e.before)
    (hfresh : FreshTokens crates tenantId (log ++ [e])) :
    TokenTable crates tenantId (log ++ [e])
      (afterCall crates tenantId e) := by
  cases subscriptionStep crates tenantId e with
  | same hnone hafter =>
      have hlive : liveTokens crates tenantId (log ++ [e]) =
          liveTokens crates tenantId log := by
        rw [liveTokens_append, keepLive, hnone]
      constructor
      · intro tokenId record hrecord
        rw [hafter] at hrecord
        obtain ⟨e', he', hother⟩ := h.known tokenId record hrecord
        exact ⟨e', by simp [he'], hother⟩
      · rw [hafter, hlive]
        exact h.active
  | issue issued hnew hissued hop hafter =>
      refine TokenTable.insert hfresh hissued hafter h.known ?_
      intro tokenId profileId tokenHash
      rw [h.active]
      refine exists_congr fun other => and_congr_right fun _ => ?_
      simp [Rotates, hop]
  | rotate issued hnew hissued hop hafter =>
      refine TokenTable.insert hfresh hissued hafter ?_ ?_
      · intro tokenId record hrecord
        rw [get_mapValues] at hrecord
        obtain ⟨old, hold, -⟩ := Option.map_eq_some_iff.mp hrecord
        exact h.known tokenId old hold
      · intro tokenId profileId tokenHash
        have hrotates : ∀ other : String,
            Rotates crates tenantId other e ↔ other = issued.profileId := by
          intro other
          rw [rotates_iff hissued, hop]
          simp [isRotation, eq_comm]
        have hold := h.active tokenId profileId tokenHash
        simp only [get_mapValues, Option.map_eq_some_iff, hrotates]
        constructor
        · rintro ⟨_, ⟨record, hrecord, rfl⟩, hprofile, hhash, hstatus⟩
          obtain ⟨hprofile', hhash', hstatus'⟩ :=
            rotateToken_active issued.profileId e.choice.now record
          obtain ⟨hactive, hne⟩ := hstatus'.mp hstatus
          obtain ⟨other, hmem, hid, hother, htoken⟩ := hold.mp
            ⟨record, hrecord, hprofile' ▸ hprofile, hhash' ▸ hhash, hactive⟩
          refine ⟨other, hmem, ?_, hid, hother, htoken⟩
          rwa [hother, ← hprofile, hprofile']
        · rintro ⟨other, hmem, hne, hid, hother, htoken⟩
          obtain ⟨record, hrecord, hprofile, hhash, hactive⟩ :=
            hold.mpr ⟨other, hmem, hid, hother, htoken⟩
          obtain ⟨hprofile', hhash', hstatus'⟩ :=
            rotateToken_active issued.profileId e.choice.now record
          refine ⟨_, ⟨record, hrecord, rfl⟩, hprofile'.trans hprofile,
            hhash'.trans hhash, hstatus'.mpr ⟨hactive, ?_⟩⟩
          rwa [hprofile, ← hother]

theorem History.tokenTable
    {log : List StoreEntry} {s : MemoryState}
    (h : History crates tenantId log s)
    (hfresh : FreshTokens crates tenantId log) :
    TokenTable crates tenantId log s := by
  induction h with
  | new =>
      constructor
      · intro tokenId record hrecord
        cases hrecord
      · simp [liveTokens, MemoryState.default]
  | call _ op t ih => exact (ih hfresh.of_append).call hfresh

/-! ## The life of a token -/

/-- Two texts before the first dot. -/
theorem append_dot_injective
    {a a' b b' : List Char} (ha : '.' ∉ a) (ha' : '.' ∉ a')
    (h : a ++ '.' :: b = a' ++ '.' :: b') :
    a = a' := by
  induction a generalizing a' with
  | nil =>
      cases a' with
      | nil => rfl
      | cons c a' =>
          obtain ⟨rfl, -⟩ := List.cons.inj h
          exact absurd (List.mem_cons_self ..) ha'
  | cons c a ih =>
      cases a' with
      | nil =>
          obtain ⟨rfl, -⟩ := List.cons.inj h
          exact absurd (List.mem_cons_self ..) ha
      | cons c' a' =>
          obtain ⟨rfl, hrest⟩ := List.cons.inj h
          rw [List.mem_cons, not_or] at ha ha'
          rw [ih ha.2 ha'.2 hrest]

/-- A token text is returned by one call only. -/
theorem FreshTokens.returned_once
    {log before later : List StoreEntry} {e e' : StoreEntry}
    (h : FreshTokens crates tenantId log) (hlog : log = before ++ e :: later)
    (he' : e' ∈ before ++ later) {profileId profileId' token : String}
    (hreturned : ReturnedFor crates tenantId profileId token e)
    (hreturned' : ReturnedFor crates tenantId profileId' token e') :
    False := by
  obtain ⟨issued, hissued, -, htoken⟩ := hreturned
  obtain ⟨issued', hissued', -, htoken'⟩ := hreturned'
  have huuid := tokenUuid_of_returned hissued
  have huuid' := tokenUuid_of_returned hissued'
  have hmem : e.choice.uuid 0 ∈ log.filterMap (tokenUuid crates tenantId) :=
    List.mem_filterMap.mpr ⟨e, by simp [hlog], huuid⟩
  have hmem' : e'.choice.uuid 0 ∈ log.filterMap (tokenUuid crates tenantId) := by
    refine List.mem_filterMap.mpr ⟨e', ?_, huuid'⟩
    rw [hlog]
    simp only [List.mem_append, List.mem_cons] at he' ⊢
    tauto
  have hsame : e.choice.uuid 0 = e'.choice.uuid 0 := by
    rw [← htoken', returned_eq_new hissued, returned_eq_new hissued'] at htoken
    have hlists := congrArg String.toList htoken
    simp only [newSubscriptionToken, String.toList_append,
      List.append_assoc, List.append_cancel_left_eq] at hlists
    exact String.toList_injective
      (append_dot_injective (h.plain _ hmem) (h.plain _ hmem') hlists)
  have hnodup := h.nodup
  rw [hlog, List.filterMap_append, List.filterMap_cons_some huuid,
    List.nodup_middle, List.nodup_cons, ← List.filterMap_append] at hnodup
  exact hnodup.1 (hsame ▸ List.mem_filterMap.mpr ⟨e', he', huuid'⟩)

/-- A verification looks for an active record with the digest of the token. -/
theorem verifySubscriptionToken_isOk
    (order : IterationOrder) (profileId token : String) (s : MemoryState) :
    (verifySubscriptionToken crates order profileId token s).isOk = true ↔
      ∃ tokenId record, get s.subscriptionTokens tokenId = some record ∧
        record.profileId = profileId ∧
        record.tokenHash = subscriptionTokenHash crates token ∧
        record.status = "active" := by
  have hfind : ∀ value : Option SubscriptionTokenRecord,
      (okOr value
        (.notFound ("subscription_token:" ++ profileId))).isOk = value.isSome := by
    intro value
    cases value <;> rfl
  unfold verifySubscriptionToken
  rw [hfind, List.find?_isSome]
  simp only [IterationOrder.mem_arrange, mem_values, Bool.and_eq_true,
    decide_eq_true_eq, and_assoc]
  constructor
  · rintro ⟨record, ⟨tokenId, hget⟩, hrecord⟩
    exact ⟨tokenId, record, hget, hrecord⟩
  · rintro ⟨tokenId, record, hget, hrecord⟩
    exact ⟨record, ⟨tokenId, hget⟩, hrecord⟩

theorem TokenTable.verifies_iff
    {log : List StoreEntry} {s : MemoryState}
    (h : TokenTable crates tenantId log s) {token : String}
    (hcollisions : CollisionFree crates tenantId log token)
    (order : IterationOrder) (profileId : String) :
    (verifySubscriptionToken crates order profileId token s).isOk = true ↔
      Live crates tenantId log profileId token := by
  rw [verifySubscriptionToken_isOk, ← mem_liveTokens_iff]
  constructor
  · rintro ⟨tokenId, hrecord⟩
    obtain ⟨issued, hmem, -, hprofile, hhash⟩ := (h.active _ _ _).mp hrecord
    obtain ⟨e, he, hreturned⟩ := exists_returned_of_mem_liveTokens hmem
    refine ⟨issued, hmem, hprofile, hcollisions e he issued hreturned ?_⟩
    have hbytes := congrArg Hex.decode hhash
    rw [subscriptionTokenHash, subscriptionTokenHash, Hex.decode_encode,
      Hex.decode_encode] at hbytes
    exact Option.some.inj hbytes
  · rintro ⟨issued, hmem, hprofile, rfl⟩
    exact ⟨issued.tokenId,
      (h.active _ _ _).mpr ⟨issued, hmem, rfl, hprofile, rfl⟩⟩

/-- A token is required as long as the profile has an active record. -/
theorem TokenTable.required_eq
    {log : List StoreEntry} {s : MemoryState}
    (h : TokenTable crates tenantId log s) {profileId : String}
    (hprofile : s.profiles.containsKey profileId = true) :
    subscriptionTokenRequired profileId s = .ok true ↔
      ∃ e ∈ log, ∃ issued ∈ returned crates tenantId e,
        issued.profileId = profileId := by
  rw [← exists_mem_liveTokens_iff, subscriptionTokenRequired, if_pos hprofile,
    Except.ok.injEq, List.any_eq_true]
  simp only [mem_values, Bool.and_eq_true, decide_eq_true_eq]
  constructor
  · rintro ⟨record, ⟨tokenId, hget⟩, hrecord, hactive⟩
    obtain ⟨issued, hmem, -, hissued, -⟩ :=
      (h.active tokenId profileId record.tokenHash).mp
        ⟨record, hget, hrecord, rfl, hactive⟩
    exact ⟨issued, hmem, hissued⟩
  · rintro ⟨issued, hmem, hissued⟩
    obtain ⟨record, hget, hrecord, -, hactive⟩ :=
      (h.active issued.tokenId profileId _).mpr
        ⟨issued, hmem, rfl, hissued, rfl⟩
    exact ⟨record, ⟨_, hget⟩, hrecord, hactive⟩

theorem profiles_of_rotates
    {e : StoreEntry} {profileId : String}
    (h : Rotates crates tenantId profileId e) :
    (afterCall crates tenantId e).profiles = e.before.profiles := by
  obtain ⟨op, t, s⟩ := e
  obtain ⟨rfl, -⟩ := h
  exact exec_frame crates tenantId (g := .profiles) rfl t s

/-- The life of every token of every profile, after every sequence of calls. -/
theorem token_lifecycle
    (crates : Crates) (tenantId : String)
    {log : List StoreEntry} {s : MemoryState}
    (h : History crates tenantId log s)
    (hfresh : FreshTokens crates tenantId log)
    (profileId token : String)
    (hcollisions : CollisionFree crates tenantId log token) :
    TokenLifecycle crates tenantId log s profileId token := by
  have hverifies := fun order =>
    (h.tokenTable hfresh).verifies_iff hcollisions order profileId
  refine ⟨hverifies, ?_, ?_, ?_, ?_⟩
  · exact (h.tokenTable hfresh).required_eq
  · rintro before e later hlog hrotates ⟨e', he', hreturned⟩ order
    rw [Bool.eq_false_iff]
    intro hok
    obtain ⟨before', e'', later', hlog', hreturned', hlater⟩ :=
      (hverifies order).mp hok
    -- the token has one call only, and the rotation comes after it
    rw [hlog] at hlog'
    rcases List.append_eq_append_iff.mp hlog' with
      ⟨between, rfl, hrest⟩ | ⟨between, rfl, hrest⟩
    · refine hfresh.returned_once (hlog.trans hlog') ?_ hreturned' hreturned
      simp [he']
    · cases between with
      | nil =>
          obtain ⟨rfl, rfl⟩ := List.cons.inj hrest
          exact hfresh.returned_once hlog (List.mem_append_left _ he')
            hreturned' hreturned
      | cons last between =>
          obtain ⟨rfl, rfl⟩ := List.cons.inj hrest
          exact hlater e (by simp) hrotates
  · intro e he other hreturned hne order
    rw [Bool.eq_false_iff]
    intro hok
    obtain ⟨before, e', later, hlog, hreturned', -⟩ := (hverifies order).mp hok
    have hmem : e = e' ∨ e ∈ before ++ later := by
      rw [hlog] at he
      simp only [List.mem_append, List.mem_cons] at he ⊢
      tauto
    rcases hmem with rfl | hmem
    · obtain ⟨issued, hissued, rfl, -⟩ := hreturned
      obtain ⟨issued', hissued', rfl, -⟩ := hreturned'
      rw [hissued] at hissued'
      exact hne (congrArg _ (Option.some.inj hissued'))
    · exact hfresh.returned_once hlog hmem hreturned' hreturned
  · intro before e later other hlog hrotates hne
    have hbefore := h.before hlog
    have hfresh' : FreshTokens crates tenantId (before ++ [e]) := by
      rw [hlog, List.append_cons] at hfresh
      exact hfresh.of_append
    have htable := hbefore.tokenTable hfresh'.of_append
    have htable' := htable.call hfresh'
    have hprofiles := profiles_of_rotates hrotates
    have hother : ∀ issued ∈ returned crates tenantId e,
        issued.profileId ≠ profileId := by
      intro issued hissued hprofile
      exact hne (((rotates_iff hissued other).mp hrotates).2.symm.trans
        hprofile)
    have hcollisions' : ∀ log', log' ⊆ log →
        CollisionFree crates tenantId log' token :=
      fun log' hlog' e he => hcollisions e (hlog' he)
    refine ⟨?_, ?_⟩
    · intro order
      rw [Bool.eq_iff_iff, htable'.verifies_iff (hcollisions' _ ?_),
        htable.verifies_iff (hcollisions' _ ?_), live_append]
      · constructor
        · rintro (⟨issued, hissued, hprofile, -⟩ | ⟨hlive, -⟩)
          · exact absurd hprofile (hother issued hissued)
          · exact hlive
        · intro hlive
          refine .inr ⟨hlive, fun hrotates' => hne ?_⟩
          exact StoreCall.rotateSubscriptionToken.inj
            (hrotates.1.symm.trans hrotates'.1)
      · rw [hlog]
        exact List.subset_append_left _ _
      · rw [hlog, List.append_cons before e later]
        exact List.subset_append_left _ _
    · by_cases hprofile : e.before.profiles.containsKey profileId = true
      · have hprofile' : (afterCall crates tenantId e).profiles.containsKey
            profileId = true := by
          rw [hprofiles]
          exact hprofile
        have hiff := (htable'.required_eq hprofile').trans
          (Iff.trans ?_ (htable.required_eq hprofile).symm)
        · simp only [subscriptionTokenRequired, hprofile, hprofile', if_true,
            Except.ok.injEq] at hiff ⊢
          exact Bool.eq_iff_iff.mpr hiff
        · constructor
          · rintro ⟨e', he', issued, hissued, hsame⟩
            rcases List.mem_append.mp he' with hmem | hmem
            · exact ⟨e', hmem, issued, hissued, hsame⟩
            · obtain rfl := List.mem_singleton.mp hmem
              exact absurd hsame (hother issued hissued)
          · rintro ⟨e', he', hissued⟩
            exact ⟨e', List.mem_append_left _ he', hissued⟩
      · have hprofile' : ¬ (afterCall crates tenantId e).profiles.containsKey
            profileId = true := by
          rwa [hprofiles]
        rw [subscriptionTokenRequired, subscriptionTokenRequired,
          if_neg hprofile, if_neg hprofile']

/-- A token that is issued, and rotated out. -/
def rotatedOut : List (StoreCall × Tick) :=
  [ (.createProfile ⟨"tenant", "profile",
      .vlessRealityExample "group_default" "sec_reality_private",
      ⟨1700000000, 0⟩⟩, referenceTick 1700000000 "a"),
    (.issueSubscriptionToken "profile", referenceTick 1700000100 "b"),
    (.rotateSubscriptionToken "profile", referenceTick 1700000200 "c") ]

instance (log : List StoreEntry) :
    Decidable (FreshTokens referenceCrates "tenant" log) :=
  decidable_of_iff
    ((log.filterMap (tokenUuid referenceCrates "tenant")).Nodup ∧
      ∀ id ∈ log.filterMap (tokenUuid referenceCrates "tenant"),
        '.' ∉ id.toList)
    ⟨fun h => ⟨h.1, h.2⟩, fun h => ⟨h.1, h.2⟩⟩

instance (log : List StoreEntry) (token : String) :
    Decidable (CollisionFree referenceCrates "tenant" log token) :=
  inferInstanceAs (Decidable (∀ e ∈ log, ∀ issued ∈ _, _ → _))

theorem token_lifecycle_rotatedOut :
    TokenLifecycle referenceCrates "tenant"
      ([] ++ entriesFrom referenceCrates "tenant" rotatedOut .default)
      (execAll referenceCrates "tenant" rotatedOut .default)
      "profile" "subtok-b-0.b-1" := by
  refine token_lifecycle referenceCrates "tenant"
    (History.new.execAll rotatedOut) ?_ "profile" "subtok-b-0.b-1" ?_
  · decide +kernel
  · decide +kernel

end MemoryStore
end ProxyControl
