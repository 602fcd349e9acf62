import ProxyControl.Storage.PostgresRuns

/-!
# The versions of a profile

Memory keeps one record of each profile, and a creation replaces it.  The
database keeps versions.  A creation inserts version one, and does nothing where
the profile has it already; so a profile has one version, which never changes.
Both stores report success and log `profile.created`.

`ReadsBack` is what both owe after a creation that succeeds.
-/

namespace ProxyControl

open Effects HashTable

section ReadsBack

variable {τ σ : Type} (healthy : τ → Prop)
variable (answer : (op : StoreCall) → τ → σ → op.Ret × σ)

end ReadsBack

/-! ## In memory -/

namespace MemoryStore

variable {crates : Crates} {tenantId : String}

/-- Every record stands under its own id. -/
def ProfilesKeyed (s : MemoryState) : Prop :=
  ∀ profileId profile, get s.profiles profileId = some profile →
    profile.profileId = profileId

theorem ProfilesKeyed.exec
    {s : MemoryState} (h : ProfilesKeyed s) (op : StoreCall) (t : Tick) :
    ProfilesKeyed (MemoryStore.exec crates tenantId op t s).2 := by
  have hframe : writes .profiles op = false →
      ProfilesKeyed (MemoryStore.exec crates tenantId op t s).2 := by
    intro hop
    have hsame : (MemoryStore.exec crates tenantId op t s).2.profiles =
        s.profiles := exec_frame crates tenantId hop t s
    rw [ProfilesKeyed, hsame]
    exact h
  cases op with
  | createProfile profile =>
      intro profileId other hother
      change get (s.profiles.insert profile.profileId profile) profileId = _
        at hother
      rw [get_insert] at hother
      split_ifs at hother with hid
      · obtain rfl := Option.some.inj hother
        exact hid.symm
      · exact h profileId other hother
  | _ => exact hframe rfl

end MemoryStore

/-! ## In the database -/

namespace PostgresStore

variable {crates : Crates} {db db' : Database} {t : StatementTick} {u : Unit}

/-! ### The statements of a creation -/

/-- The columns on which an insertion may conflict. -/
def versionKey (row : ProfileVersionRow) : String × Int :=
  (row.profileId, row.version)

theorem applies_insertProfileVersion
    {versionId tenantId profileId : String} {irJson : ProfileIr} :
    (Statement.insertProfileVersion versionId tenantId profileId irJson).Applies t
        db u db' ↔
      t.fault = none ∧
        if Table.hasKey versionKey (profileId, 1) db.profileVersions = true then
          db' = db
        else
          Table.hasKey ProfileVersionRow.id versionId db.profileVersions = false ∧
            Database.hasTenant db tenantId = true ∧
            Database.hasProfile db profileId = true ∧
            db' = { db with
              profileVersions := db.profileVersions ++
                [⟨versionId, tenantId, profileId, 1, irJson, t.now⟩] } := by
  simp only [Statement.Applies, Statement.apply, execute_eq_ok,
    insertProfileVersion]
  refine and_congr_right fun _ => ?_
  change (if Table.hasKey versionKey (profileId, 1) db.profileVersions = true
    then _ else _) = _ ↔ _
  split_ifs
  · exact pure_eq_ok
  · rw [unique_bind_eq_ok, references_bind_eq_ok, references_bind_eq_ok,
      pure_eq_ok]

/-- The versions are all first versions, of distinct profiles. -/
structure FirstVersions (db : Database) : Prop where
  first : ∀ row ∈ db.profileVersions, row.version = 1
  distinct : (db.profileVersions.map ProfileVersionRow.profileId).Nodup

theorem FirstVersions.empty : FirstVersions .empty :=
  ⟨by simp [Database.empty], List.nodup_nil⟩

theorem FirstVersions.hasKey_iff
    (h : FirstVersions db) (profileId : String) :
    Table.hasKey versionKey (profileId, 1) db.profileVersions = true ↔
      ∃ row ∈ db.profileVersions, row.profileId = profileId := by
  rw [Table.hasKey_iff]
  refine exists_congr fun row => and_congr_right fun hrow => ?_
  simp [versionKey, h.first row hrow]

theorem FirstVersions.statement
    {s : Statement} (h : FirstVersions db) :
    FirstVersions (s.exec t db).2 := by
  have hframe : s.writes ≠ some .profileVersions →
      FirstVersions (s.exec t db).2 := by
    intro hs
    have hsame : (s.exec t db).2.profileVersions = db.profileVersions :=
      @Statement.exec_frame s .profileVersions hs t db
    exact ⟨hsame ▸ h.first, hsame ▸ h.distinct⟩
  cases s with
  | insertProfileVersion versionId tenantId profileId irJson =>
      refine Statement.exec_keeps (fun value db' happlies => ?_) h
      obtain ⟨-, hinsert⟩ := applies_insertProfileVersion.mp happlies
      split_ifs at hinsert with hhas
      · exact hinsert ▸ h
      · obtain ⟨-, -, -, rfl⟩ := hinsert
        rw [h.hasKey_iff] at hhas
        refine ⟨?_, ?_⟩
        · simpa only [List.forall_mem_append, List.forall_mem_singleton, and_true]
            using h.first
        · rw [List.map_append, List.map_singleton, List.nodup_append]
          refine ⟨h.distinct, List.nodup_singleton _, ?_⟩
          intro id hid id' hid' heq
          obtain ⟨row, hrow, rfl⟩ := List.mem_map.mp hid
          exact hhas ⟨row, hrow, heq.trans (List.mem_singleton.mp hid')⟩
  | _ => exact hframe (by simp [Statement.writes])

theorem FirstVersions.exec
    {op : StoreCall} {t : StoreTick} (h : FirstVersions db) :
    FirstVersions (PostgresStore.exec crates op t db).2 :=
  exec_keeps (body_writes crates t.tick op) (fun _ _ _ _ hdb => hdb.statement) h

end PostgresStore

/-! ## Both stores -/

end ProxyControl
