import ProxyControl.Storage.RunnerQueues

/-!
# Concurrent polls of one node

The second statement of a poll reads its sub-select on the snapshot of the
statement, and updates the row it has found when it gets the row lock, without
reading again.  A poll is therefore three steps, and the polls of a node
interleave at them, with enqueues in between; run in a row, the three steps are
the poll of the store (`poll_alone`).

`deliveries_sound_iff` says which sub-selects make two polls return the same
command, or one poll a command that is not above its last sequence.
-/

namespace ProxyControl

open Calendar Effects

namespace PostgresStore

/-- Where a poll stands.  A poll that has returned remembers its row. -/
inductive Phase
  | called
  | skipped
  | selected (rowId : Option ℕ)
  | returned (rowId : Option ℕ) (answer : Option SignedRunnerCommand)

structure Poll where
  lastSequence : UInt64
  phase : Phase

/-- The row that the sub-select of the poll has found. -/
def Poll.rowId (poll : Poll) : Option ℕ :=
  match poll.phase with
  | .selected rowId => rowId
  | .returned rowId _ => rowId
  | _ => none

def Poll.answer (poll : Poll) : Option SignedRunnerCommand :=
  match poll.phase with
  | .returned _ answer => answer
  | _ => none

/-- The database and the polls of the node made so far. -/
structure Polling where
  database : Database
  polls : List Poll

inductive PollEvent
  | call (lastSequence : UInt64)
  | skip (lastSequence : UInt64)
  | select (lastSequence : UInt64)
  | lease (lastSequence : UInt64)
  | enqueue (nodeId : String) (command : SignedRunnerCommand)

/-- One step of one poll of the node, or an enqueue for any node. -/
inductive Polling.Step (nodeId : String) :
    Polling → PollEvent → Polling → Prop
  | call (db : Database) (polls : List Poll) (lastSequence : UInt64) :
      Step nodeId ⟨db, polls⟩ (.call lastSequence)
        ⟨db, polls ++ [⟨lastSequence, .called⟩]⟩
  | skip
      (db : Database) (before after : List Poll) (lastSequence : UInt64) :
      Step nodeId
        ⟨db, before ++ ⟨lastSequence, .called⟩ :: after⟩
        (.skip lastSequence)
        ⟨skipRunnerCommands nodeId lastSequence.toInt64 db,
          before ++ ⟨lastSequence, .skipped⟩ :: after⟩
  | select
      (db : Database) (before after : List Poll) (lastSequence : UInt64) :
      Step nodeId
        ⟨db, before ++ ⟨lastSequence, .skipped⟩ :: after⟩
        (.select lastSequence)
        ⟨db, before ++ ⟨lastSequence,
          .selected (leaseCandidate nodeId lastSequence.toInt64 db)⟩ :: after⟩
  | lease
      (db : Database) (before after : List Poll) (lastSequence : UInt64)
      (rowId : Option ℕ) :
      Step nodeId
        ⟨db, before ++ ⟨lastSequence, .selected rowId⟩ :: after⟩
        (.lease lastSequence)
        ⟨(leaseRow rowId db).2,
          before ++ ⟨lastSequence, .returned rowId (leaseRow rowId db).1⟩ ::
            after⟩
  | enqueue
      (db db' : Database) (polls : List Poll)
      (node : String) (command : SignedRunnerCommand)
      (h : insertRunnerCommand node command db = .ok db') :
      Step nodeId ⟨db, polls⟩ (.enqueue node command) ⟨db', polls⟩

/-- Any interleaving of polls and enqueues, with the states it goes through. -/
inductive Polling.Run (nodeId : String) (db₀ : Database) :
    List (Polling × PollEvent) → Polling → Prop
  | start : Run nodeId db₀ [] ⟨db₀, []⟩
  | step
      {log : List (Polling × PollEvent)} {p p' : Polling} {e : PollEvent}
      (h : Run nodeId db₀ log p) (hstep : Polling.Step nodeId p e p') :
      Run nodeId db₀ (log ++ [(p, e)]) p'

/-- The three steps in a row are the poll of the store. -/
theorem poll_alone
    (crates : Crates) {t : StoreTick} (ht : t.Healthy)
    (nodeId : String) (lastSequence : UInt64) (db : Database)
    (polls : List Poll) :
    ∃ rowId p p',
      Polling.Step nodeId ⟨db, polls ++ [⟨lastSequence, .called⟩]⟩
        (.skip lastSequence) p ∧
      Polling.Step nodeId p (.select lastSequence) p' ∧
      Polling.Step nodeId p' (.lease lastSequence)
        ⟨(exec crates (.nextRunnerCommand nodeId lastSequence) t db).2,
          polls ++ [⟨lastSequence, .returned rowId
            ((exec crates (.nextRunnerCommand nodeId lastSequence)
              t db).1.toOption.join)⟩]⟩ := by
  rw [exec_nextRunnerCommand crates ht]
  exact ⟨_, _, _, .skip db polls [] lastSequence,
    .select _ polls [] lastSequence, .lease _ polls [] lastSequence _⟩

/-! ## What a poll may return -/

/-- Every command is above the caller's last sequence, and returned once. -/
structure Polling.Delivers (p : Polling) : Prop where
  above : ∀ poll ∈ p.polls, ∀ c, poll.answer = some c →
    poll.lastSequence.toNat < c.sequenceNumber
  once : p.polls.Pairwise
    (fun poll poll' => ∀ c, poll.answer = some c → poll'.answer ≠ some c)

/-- No poll is under way. -/
def Polling.Complete (p : Polling) : Prop :=
  ∀ poll ∈ p.polls, ∃ rowId answer, poll.phase = .returned rowId answer

/--
A sub-select finds no row, or a row that no other poll is about to lease, and
not one whose sequence fits while the last sequence does not.
-/
def SelectsSoundly (nodeId : String) (step : Polling × PollEvent) : Prop :=
  ∀ lastSequence, step.2 = .select lastSequence →
    ∀ row ∈ step.1.database.runnerCommands,
      leaseCandidate nodeId lastSequence.toInt64 step.1.database = some row.id →
        (lastSequence.toNat < 2 ^ 63 ∨ row.sequence < 0) ∧
          ∀ poll ∈ step.1.polls, poll.phase ≠ .selected (some row.id)

/-! ## The rows over time -/

/-- Rows stay, with all but the status as it was, and never wait again. -/
def RowsExtend (rows rows' : Table RunnerCommandRow) : Prop :=
  ∀ rowId row, Table.lookup RunnerCommandRow.id rowId rows = some row →
    ∃ row', Table.lookup RunnerCommandRow.id rowId rows' = some row' ∧
      row'.nodeId = row.nodeId ∧ row'.sequence = row.sequence ∧
      row'.envelopeJson = row.envelopeJson ∧
      (row.status ≠ "pending" → row'.status ≠ "pending")

theorem RowsExtend.refl (rows : Table RunnerCommandRow) :
    RowsExtend rows rows :=
  fun _ row h => ⟨row, h, rfl, rfl, rfl, id⟩

theorem RowsExtend.updateStatus
    (rows : Table RunnerCommandRow) (p : RunnerCommandRow → Bool)
    {status : String} (hstatus : status ≠ "pending") :
    RowsExtend rows
      (Table.updateWhere p (fun row => { row with status := status }) rows) := by
  intro rowId row hrow
  have hlookup := Table.lookup_updateWhere RunnerCommandRow.id (p := p)
    (f := fun row => { row with status := status }) (fun _ _ => rfl) rowId rows
  rw [hrow, Option.map_some] at hlookup
  refine ⟨_, hlookup, ?_⟩
  split_ifs
  · exact ⟨rfl, rfl, rfl, fun _ => hstatus⟩
  · exact ⟨rfl, rfl, rfl, id⟩

theorem RowsExtend.append
    (rows : Table RunnerCommandRow) (row : RunnerCommandRow) :
    RowsExtend rows (rows ++ [row]) := by
  intro rowId other hother
  refine ⟨other, ?_, rfl, rfl, rfl, id⟩
  rw [Table.lookup_append_single, hother, Option.some_or]

/-- The rows of a table that respects its two keys. -/
structure KeyedRows (rows : Table RunnerCommandRow) : Prop extends
    CommandRows rows where
  keys : (rows.map (fun row => (row.nodeId, row.sequence))).Nodup

theorem KeyedRows.updateStatus
    {rows : Table RunnerCommandRow} (h : KeyedRows rows)
    (p : RunnerCommandRow → Bool) (status : String) :
    KeyedRows
      (Table.updateWhere p (fun row => { row with status := status }) rows) := by
  refine ⟨h.toCommandRows.updateStatus p status, ?_⟩
  have hkeys := Table.map_key_updateWhere
    (fun row : RunnerCommandRow => (row.nodeId, row.sequence)) (p := p)
    (f := fun row => { row with status := status }) (fun _ _ => rfl) rows
  rw [hkeys]
  exact h.keys

/-- An enqueue appends a row, or finds its key taken. -/
theorem KeyedRows.insert
    {nodeId : String} {command : SignedRunnerCommand} {db db' : Database}
    (h : KeyedRows db.runnerCommands)
    (hinsert : insertRunnerCommand nodeId command db = .ok db') :
    KeyedRows db'.runnerCommands ∧
      RowsExtend db.runnerCommands db'.runnerCommands := by
  obtain rfl := insertRunnerCommand_ok hinsert
  split_ifs with htaken
  · exact ⟨h, .refl _⟩
  · refine ⟨⟨h.toCommandRows.append rfl rfl, ?_⟩, .append _ _⟩
    rw [List.map_append, List.map_singleton]
    apply h.keys.append (List.nodup_singleton _)
    intro key hkey hnew
    obtain ⟨row, hrow, rfl⟩ := List.mem_map.mp hkey
    exact htaken ((Table.hasKey_iff
      (fun row : RunnerCommandRow => (row.nodeId, row.sequence)) _ _).mpr
        ⟨row, hrow, List.mem_singleton.mp hnew⟩)

/-- A sub-select finds a pending row of the node, above the bind value. -/
theorem lookup_leaseCandidate
    {db : Database} (hrows : CommandRows db.runnerCommands)
    {nodeId : String} {lastSequence : Int64} {rowId : ℕ}
    (h : leaseCandidate nodeId lastSequence db = some rowId) :
    ∃ row, Table.lookup RunnerCommandRow.id rowId db.runnerCommands = some row ∧
      row.id = rowId ∧ row.nodeId = nodeId ∧ lastSequence < row.sequence ∧
      row.status = "pending" := by
  obtain ⟨row, hargmin, rfl⟩ := Option.map_eq_some_iff.mp h
  obtain ⟨hmem, hleasable⟩ := List.mem_filter.mp (List.argmin_mem hargmin)
  simp only [Bool.and_eq_true, decide_eq_true_eq] at hleasable
  obtain ⟨⟨hnode, hlt⟩, hpending⟩ := hleasable
  exact ⟨row, hrows.lookup_id hmem, rfl, hnode, hlt, hpending⟩

/-! ## The invariant of a run -/

/-- The rows that polls have found, with the last sequences passed. -/
def Polling.held (p : Polling) : List (UInt64 × ℕ) :=
  p.polls.filterMap
    (fun poll => poll.rowId.map (fun rowId => (poll.lastSequence, rowId)))

/-- What holds in every interleaving. -/
structure Polling.Consistent (nodeId : String) (p : Polling) : Prop where
  rows : KeyedRows p.database.runnerCommands
  held : ∀ x ∈ p.held, ∃ row,
    Table.lookup RunnerCommandRow.id x.2 p.database.runnerCommands = some row ∧
      row.nodeId = nodeId ∧ x.1.toInt64 < row.sequence
  returned : ∀ poll ∈ p.polls, ∀ rowId answer,
    poll.phase = .returned (some rowId) answer → ∃ row,
      Table.lookup RunnerCommandRow.id rowId p.database.runnerCommands =
        some row ∧
      answer = some row.envelopeJson ∧ row.status ≠ "pending"
  empty : ∀ poll ∈ p.polls, ∀ answer,
    poll.phase = .returned none answer → answer = none

/-- What keeps the polls apart. -/
structure Polling.Sound (p : Polling) : Prop where
  above : ∀ x ∈ p.held, ∀ row,
    Table.lookup RunnerCommandRow.id x.2 p.database.runnerCommands = some row →
      x.1.toNat < row.envelopeJson.sequenceNumber
  distinct : (p.held.map Prod.snd).Nodup

theorem Polling.held_append
    (db : Database) (before after : List Poll) (poll : Poll) :
    Polling.held ⟨db, before ++ poll :: after⟩ =
      Polling.held ⟨db, before⟩ ++
        ((poll.rowId.map (fun rowId => (poll.lastSequence, rowId))).toList ++
          Polling.held ⟨db, after⟩) := by
  simp only [held, List.filterMap_append, List.filterMap_cons]
  cases poll.rowId <;> rfl

section Invariant

variable {nodeId : String} {p p' : Polling}

/-- A step that finds no new row keeps the rows held. -/
theorem Polling.Consistent.held_of_extend
    (h : p.Consistent nodeId)
    (hextend : RowsExtend p.database.runnerCommands p'.database.runnerCommands)
    (hheld : p'.held = p.held) :
    ∀ x ∈ p'.held, ∃ row,
      Table.lookup RunnerCommandRow.id x.2 p'.database.runnerCommands =
        some row ∧
      row.nodeId = nodeId ∧ x.1.toInt64 < row.sequence := by
  intro x hx
  rw [hheld] at hx
  obtain ⟨row, hrow, hnode, hlt⟩ := h.held x hx
  obtain ⟨row', hrow', hnode', hseq', -, -⟩ := hextend _ _ hrow
  exact ⟨row', hrow', hnode'.trans hnode, hseq' ▸ hlt⟩

theorem Polling.Consistent.returned_of_extend
    (h : p.Consistent nodeId)
    (hextend : RowsExtend p.database.runnerCommands p'.database.runnerCommands)
    {poll : Poll} (hpoll : poll ∈ p.polls) {rowId : ℕ}
    {answer : Option SignedRunnerCommand}
    (hphase : poll.phase = .returned (some rowId) answer) :
    ∃ row,
      Table.lookup RunnerCommandRow.id rowId p'.database.runnerCommands =
        some row ∧
      answer = some row.envelopeJson ∧ row.status ≠ "pending" := by
  obtain ⟨row, hrow, hanswer, hstatus⟩ := h.returned poll hpoll rowId answer hphase
  obtain ⟨row', hrow', -, -, henvelope, hstatus'⟩ := hextend _ _ hrow
  exact ⟨row', hrow', henvelope ▸ hanswer, hstatus' hstatus⟩

/-- Whether the polls are kept apart depends on the rows they hold only. -/
theorem Polling.Consistent.sound_iff_of_extend
    (h : p.Consistent nodeId)
    (hextend : RowsExtend p.database.runnerCommands p'.database.runnerCommands)
    (hheld : p'.held = p.held) :
    p'.Sound ↔ p.Sound := by
  constructor
  · rintro ⟨habove, hdistinct⟩
    rw [hheld] at habove hdistinct
    refine ⟨?_, hdistinct⟩
    intro x hx row hrow
    obtain ⟨row', hrow', -, -, henvelope, -⟩ := hextend _ _ hrow
    rw [← henvelope]
    exact habove x hx row' hrow'
  · rintro ⟨habove, hdistinct⟩
    constructor
    · intro x hx row' hrow'
      rw [hheld] at hx
      obtain ⟨row, hrow, -, -⟩ := h.held x hx
      obtain ⟨row'', hrow'', -, -, henvelope, -⟩ := hextend _ _ hrow
      obtain rfl := Option.some.inj (hrow'.symm.trans hrow'')
      rw [henvelope]
      exact habove x hx row hrow
    · rw [hheld]
      exact hdistinct

/-- A step that changes one poll, and finds no new row. -/
theorem Polling.Consistent.replace
    {db : Database} {before after : List Poll} {poll : Poll}
    (h : Polling.Consistent nodeId ⟨db, before ++ poll :: after⟩)
    (db' : Database) (poll' : Poll)
    (hrows : KeyedRows db'.runnerCommands)
    (hextend : RowsExtend db.runnerCommands db'.runnerCommands)
    (hlast : poll'.lastSequence = poll.lastSequence)
    (hrowId : poll'.rowId = poll.rowId)
    (hreturned : ∀ rowId answer, poll'.phase = .returned (some rowId) answer →
      ∃ row, Table.lookup RunnerCommandRow.id rowId db'.runnerCommands =
          some row ∧
        answer = some row.envelopeJson ∧ row.status ≠ "pending")
    (hempty : ∀ answer, poll'.phase = .returned none answer → answer = none) :
    Polling.Consistent nodeId ⟨db', before ++ poll' :: after⟩ ∧
      (Polling.Sound ⟨db', before ++ poll' :: after⟩ ↔
        Polling.Sound ⟨db, before ++ poll :: after⟩) := by
  have hheld : Polling.held ⟨db', before ++ poll' :: after⟩ =
      Polling.held ⟨db, before ++ poll :: after⟩ := by
    rw [Polling.held_append, Polling.held_append, hlast, hrowId]
    rfl
  refine ⟨⟨hrows, h.held_of_extend hextend hheld, ?_, ?_⟩,
    h.sound_iff_of_extend hextend hheld⟩
  · intro other hother rowId answer hphase
    rcases List.mem_append.mp hother with hbefore | hother
    · exact h.returned_of_extend hextend
        (List.mem_append_left _ hbefore) hphase
    · rcases List.mem_cons.mp hother with rfl | hafter
      · exact hreturned rowId answer hphase
      · exact h.returned_of_extend hextend
          (List.mem_append_right _ (List.mem_cons_of_mem _ hafter)) hphase
  · intro other hother answer hphase
    rcases List.mem_append.mp hother with hbefore | hother
    · exact h.empty other (List.mem_append_left _ hbefore) answer hphase
    · rcases List.mem_cons.mp hother with rfl | hafter
      · exact hempty answer hphase
      · exact h.empty other
          (List.mem_append_right _ (List.mem_cons_of_mem _ hafter)) answer hphase

/-- The bound that the caller passed, and the one that the statement uses. -/
theorem lt_sequence_iff
    {rows : Table RunnerCommandRow} (hrows : CommandRows rows)
    {row : RunnerCommandRow} (hrow : row ∈ rows) {lastSequence : UInt64}
    (hlt : lastSequence.toInt64 < row.sequence) :
    lastSequence.toNat < row.envelopeJson.sequenceNumber ↔
      (lastSequence.toNat < 2 ^ 63 ∨ row.sequence < 0) := by
  have hseq := congrArg Int64.toInt (hrows.sequences row hrow)
  rw [Wrapping.toInt_toInt64] at hseq
  rw [Int64.lt_iff_toInt_lt, Wrapping.toInt_toInt64] at hlt
  have hzero : (row.sequence < 0) ↔ row.sequence.toInt < 0 := by
    rw [Int64.lt_iff_toInt_lt]
    rfl
  have hbound := row.envelopeJson.command.sequence.toNat_lt
  have hbound' := lastSequence.toNat_lt
  rw [hzero]
  unfold SignedRunnerCommand.sequenceNumber
  split_ifs at hseq hlt <;> omega

/-- A sub-select adds the row it finds to the rows held. -/
theorem Polling.Consistent.select
    {db : Database} {before after : List Poll} {lastSequence : UInt64}
    (h : Polling.Consistent nodeId
      ⟨db, before ++ ⟨lastSequence, .skipped⟩ :: after⟩) :
    Polling.Consistent nodeId
        ⟨db, before ++ ⟨lastSequence,
          .selected (leaseCandidate nodeId lastSequence.toInt64 db)⟩ :: after⟩ ∧
      (Polling.Sound ⟨db, before ++ ⟨lastSequence,
          .selected (leaseCandidate nodeId lastSequence.toInt64 db)⟩ :: after⟩ ↔
        Polling.Sound ⟨db, before ++ ⟨lastSequence, .skipped⟩ :: after⟩ ∧
          SelectsSoundly nodeId
            (⟨db, before ++ ⟨lastSequence, .skipped⟩ :: after⟩,
              .select lastSequence)) := by
  cases hcandidate : leaseCandidate nodeId lastSequence.toInt64 db with
  | none =>
      obtain ⟨hconsistent, hsound⟩ := h.replace db
        ⟨lastSequence, .selected none⟩ h.rows (.refl _) rfl rfl
        (fun _ _ hphase => by cases hphase) (fun _ hphase => by cases hphase)
      refine ⟨hconsistent, hsound.trans (Iff.symm (and_iff_left ?_))⟩
      intro last hselect row hrow hcandidate'
      obtain rfl := PollEvent.select.inj hselect
      rw [hcandidate] at hcandidate'
      cases hcandidate'
  | some rowId =>
      obtain ⟨row, hrow, hid, hnode, hlt, hpending⟩ :=
        lookup_leaseCandidate h.rows.toCommandRows hcandidate
      have hmem := (Table.lookup_mem _ hrow).1
      have hheld : Polling.held
          ⟨db, before ++ ⟨lastSequence, .skipped⟩ :: after⟩ =
            Polling.held ⟨db, before⟩ ++ Polling.held ⟨db, after⟩ := by
        rw [Polling.held_append]
        rfl
      have hheld' : Polling.held
          ⟨db, before ++ ⟨lastSequence, .selected (some rowId)⟩ :: after⟩ =
            Polling.held ⟨db, before⟩ ++
              (lastSequence, rowId) :: Polling.held ⟨db, after⟩ := by
        rw [Polling.held_append]
        rfl
      -- a poll that has returned holds a row that is no longer pending
      have hothers : rowId ∈ (Polling.held
            ⟨db, before ++ ⟨lastSequence, .skipped⟩ :: after⟩).map Prod.snd ↔
          ∃ poll ∈ before ++ ⟨lastSequence, .skipped⟩ :: after,
            poll.phase = .selected (some rowId) := by
        constructor
        · intro hx
          obtain ⟨x, hmemHeld, rfl⟩ := List.mem_map.mp hx
          obtain ⟨poll, hpoll, hpair⟩ := List.mem_filterMap.mp hmemHeld
          obtain ⟨rowId', hrowId, rfl⟩ := Option.map_eq_some_iff.mp hpair
          refine ⟨poll, hpoll, ?_⟩
          unfold Poll.rowId at hrowId
          split at hrowId
          · rename_i hphase
            rw [hphase, hrowId]
          · rename_i rowId'' answer hphase
            rw [hrowId] at hphase
            obtain ⟨row', hrow', -, hstatus⟩ := h.returned poll hpoll _ _ hphase
            obtain rfl := Option.some.inj (hrow.symm.trans hrow')
            exact absurd hpending hstatus
          · cases hrowId
        · rintro ⟨poll, hpoll, hphase⟩
          refine List.mem_map.mpr ⟨(poll.lastSequence, rowId), ?_, rfl⟩
          refine List.mem_filterMap.mpr ⟨poll, hpoll, ?_⟩
          rw [Poll.rowId, hphase]
          rfl
      constructor
      · refine ⟨h.rows, ?_, ?_, ?_⟩
        · intro x hx
          rw [hheld', List.mem_append, List.mem_cons] at hx
          rcases hx with hx | rfl | hx
          · exact h.held x (by rw [hheld]; exact List.mem_append_left _ hx)
          · exact ⟨row, hrow, hnode, hlt⟩
          · exact h.held x (by rw [hheld]; exact List.mem_append_right _ hx)
        · intro poll hpoll rowId' answer hphase
          rcases List.mem_append.mp hpoll with hpoll | hpoll
          · exact h.returned poll (List.mem_append_left _ hpoll) _ _ hphase
          · rcases List.mem_cons.mp hpoll with rfl | hpoll
            · cases hphase
            · exact h.returned poll
                (List.mem_append_right _ (List.mem_cons_of_mem _ hpoll)) _ _
                hphase
        · intro poll hpoll answer hphase
          rcases List.mem_append.mp hpoll with hpoll | hpoll
          · exact h.empty poll (List.mem_append_left _ hpoll) _ hphase
          · rcases List.mem_cons.mp hpoll with rfl | hpoll
            · cases hphase
            · exact h.empty poll
                (List.mem_append_right _ (List.mem_cons_of_mem _ hpoll)) _
                hphase
      · have hselects : SelectsSoundly nodeId
            (⟨db, before ++ ⟨lastSequence, .skipped⟩ :: after⟩,
              .select lastSequence) ↔
            lastSequence.toNat < row.envelopeJson.sequenceNumber ∧
              rowId ∉ (Polling.held
                ⟨db, before ++ ⟨lastSequence, .skipped⟩ :: after⟩).map
                  Prod.snd := by
          rw [lt_sequence_iff h.rows.toCommandRows hmem hlt, hothers]
          constructor
          · intro hselects
            obtain ⟨hfits, hfree⟩ := hselects lastSequence rfl row hmem
              (hid ▸ hcandidate)
            refine ⟨hfits, ?_⟩
            rintro ⟨poll, hpoll, hphase⟩
            exact hfree poll hpoll (hid ▸ hphase)
          · rintro ⟨hfits, hfree⟩ last hselect row' hrow' hcandidate'
            obtain rfl := PollEvent.select.inj hselect
            rw [hcandidate] at hcandidate'
            have hid' := Option.some.inj hcandidate'
            have hsame : row' = row := List.inj_on_of_nodup_map
              h.rows.toCommandRows.nodup_ids hrow' hmem (hid'.symm.trans hid.symm)
            refine ⟨hsame ▸ hfits, ?_⟩
            intro poll hpoll hphase
            exact hfree ⟨poll, hpoll, hid' ▸ hphase⟩
        rw [hselects]
        constructor
        · rintro ⟨habove, hdistinct⟩
          rw [hheld'] at habove hdistinct
          rw [List.map_append, List.map_cons, List.nodup_middle] at hdistinct
          obtain ⟨hfree, hnodup⟩ := List.nodup_cons.mp hdistinct
          rw [← List.map_append, ← hheld] at hfree hnodup
          refine ⟨⟨?_, hnodup⟩, ?_, hfree⟩
          · intro x hx
            apply habove x
            rw [hheld, List.mem_append] at hx
            simp only [List.mem_append, List.mem_cons]
            tauto
          · exact habove (lastSequence, rowId) (by simp) row hrow
        · rintro ⟨⟨habove, hdistinct⟩, hlt', hfree⟩
          rw [hheld] at habove hdistinct hfree
          constructor
          · intro x hx row' hrow'
            rw [hheld', List.mem_append, List.mem_cons] at hx
            rcases hx with hx | rfl | hx
            · exact habove x (List.mem_append_left _ hx) row' hrow'
            · obtain rfl := Option.some.inj (hrow.symm.trans hrow')
              exact hlt'
            · exact habove x (List.mem_append_right _ hx) row' hrow'
          · rw [hheld', List.map_append, List.map_cons, List.nodup_middle]
            rw [List.map_append] at hfree hdistinct
            exact List.nodup_cons.mpr ⟨hfree, hdistinct⟩

/-- A step other than a sub-select is sound. -/
theorem selectsSoundly_of_ne
    {e : PollEvent} (h : ∀ lastSequence, e ≠ .select lastSequence) :
    SelectsSoundly nodeId (p, e) :=
  fun lastSequence hselect => absurd hselect (h lastSequence)

/-- One step keeps the invariant; only an unsound sub-select brings polls together. -/
theorem Polling.Consistent.step
    {e : PollEvent} (h : p.Consistent nodeId)
    (hstep : Polling.Step nodeId p e p') :
    p'.Consistent nodeId ∧
      (p'.Sound ↔ p.Sound ∧ SelectsSoundly nodeId (p, e)) := by
  cases hstep with
  | call db polls lastSequence =>
      have hother : ∀ last, PollEvent.call lastSequence ≠ .select last :=
        fun _ => PollEvent.noConfusion
      have hheld : Polling.held ⟨db, polls ++ [⟨lastSequence, .called⟩]⟩ =
          Polling.held ⟨db, polls⟩ := by
        rw [Polling.held_append]
        exact List.append_nil _
      have hsound : Polling.Sound ⟨db, polls ++ [⟨lastSequence, .called⟩]⟩ ↔
          Polling.Sound ⟨db, polls⟩ :=
        h.sound_iff_of_extend (.refl _) hheld
      refine ⟨⟨h.rows, h.held_of_extend (.refl _) hheld, ?_, ?_⟩,
        hsound.trans (and_iff_left (selectsSoundly_of_ne hother)).symm⟩
      · intro poll hpoll rowId answer hphase
        rcases List.mem_append.mp hpoll with hpoll | hpoll
        · exact h.returned poll hpoll rowId answer hphase
        · obtain rfl := List.mem_singleton.mp hpoll
          cases hphase
      · intro poll hpoll answer hphase
        rcases List.mem_append.mp hpoll with hpoll | hpoll
        · exact h.empty poll hpoll answer hphase
        · obtain rfl := List.mem_singleton.mp hpoll
          cases hphase
  | skip db before after lastSequence =>
      have hother : ∀ last, PollEvent.skip lastSequence ≠ .select last :=
        fun _ => PollEvent.noConfusion
      obtain ⟨hconsistent, hsound⟩ := h.replace
        (skipRunnerCommands nodeId lastSequence.toInt64 db)
        ⟨lastSequence, .skipped⟩
        (h.rows.updateStatus _ _) (.updateStatus _ _ (by decide)) rfl rfl
        (fun _ _ hphase => by cases hphase) (fun _ hphase => by cases hphase)
      exact ⟨hconsistent, hsound.trans
        (and_iff_left (selectsSoundly_of_ne hother)).symm⟩
  | select db before after lastSequence =>
      exact h.select
  | lease db before after lastSequence rowId =>
      have hother : ∀ last, PollEvent.lease lastSequence ≠ .select last :=
        fun _ => PollEvent.noConfusion
      cases rowId with
      | none =>
          obtain ⟨hconsistent, hsound⟩ := h.replace db
            ⟨lastSequence, .returned none none⟩ h.rows (.refl _) rfl rfl
            (fun _ _ hphase => by cases hphase)
            (fun _ hphase => (Phase.returned.inj hphase).2.symm)
          exact ⟨hconsistent, hsound.trans
            (and_iff_left (selectsSoundly_of_ne hother)).symm⟩
      | some rowId =>
          have hmem : (lastSequence, rowId) ∈ Polling.held
              ⟨db, before ++ ⟨lastSequence, .selected (some rowId)⟩ :: after⟩ := by
            rw [Polling.held_append]
            simp [Poll.rowId]
          obtain ⟨row, hrow, -, -⟩ := h.held _ hmem
          have hlookup := Table.lookup_updateWhere RunnerCommandRow.id
            (p := fun row => row.id = rowId)
            (f := fun row => { row with status := "leased" })
            (fun _ _ => rfl) rowId db.runnerCommands
          rw [hrow, Option.map_some,
            if_pos (by simpa using (Table.lookup_mem _ hrow).2)] at hlookup
          obtain ⟨hconsistent, hsound⟩ := h.replace
            (leaseRow (some rowId) db).2
            ⟨lastSequence,
              .returned (some rowId) (leaseRow (some rowId) db).1⟩
            (h.rows.updateStatus _ _) (.updateStatus _ _ (by decide)) rfl rfl
            (by
              intro rowId' answer hphase
              obtain ⟨hid, rfl⟩ := Phase.returned.inj hphase
              obtain rfl := Option.some.inj hid
              have hleased : "leased" ≠ "pending" := by decide
              refine ⟨_, hlookup, ?_, hleased⟩
              rw [leaseRow, hrow]
              rfl)
            (fun _ hphase => by cases (Phase.returned.inj hphase).1)
          exact ⟨hconsistent, hsound.trans
            (and_iff_left (selectsSoundly_of_ne hother)).symm⟩
  | enqueue db db' polls node command hinsert =>
      have hother : ∀ last, PollEvent.enqueue node command ≠ .select last :=
        fun _ => PollEvent.noConfusion
      obtain ⟨hrows, hextend⟩ := h.rows.insert hinsert
      have hsound : Polling.Sound ⟨db', polls⟩ ↔ Polling.Sound ⟨db, polls⟩ :=
        h.sound_iff_of_extend hextend rfl
      refine ⟨⟨hrows, h.held_of_extend hextend rfl, ?_, h.empty⟩,
        hsound.trans (and_iff_left (selectsSoundly_of_ne hother)).symm⟩
      intro poll hpoll rowId answer hphase
      exact h.returned_of_extend hextend hpoll hphase

/-- The whole run keeps the polls apart exactly when every sub-select is sound. -/
theorem Polling.Run.sound_iff
    {db₀ : Database} (hrows : KeyedRows db₀.runnerCommands)
    {log : List (Polling × PollEvent)} (h : Polling.Run nodeId db₀ log p) :
    p.Consistent nodeId ∧
      (p.Sound ↔ ∀ step ∈ log, SelectsSoundly nodeId step) := by
  induction h with
  | start =>
      have hheld : Polling.held ⟨db₀, []⟩ = [] := rfl
      refine ⟨⟨hrows, by simp [hheld], by simp, by simp⟩, ?_⟩
      refine ⟨by simp, fun _ => ⟨by simp [hheld], by simp [hheld]⟩⟩
  | @step log p p' e h hstep ih =>
      obtain ⟨hconsistent, hsound⟩ := ih
      obtain ⟨hconsistent', hsound'⟩ := hconsistent.step hstep
      refine ⟨hconsistent', hsound'.trans ?_⟩
      rw [hsound]
      constructor
      · rintro ⟨hlog, hlast⟩ step hmem
        rcases List.mem_append.mp hmem with hmem | hmem
        · exact hlog step hmem
        · obtain rfl := List.mem_singleton.mp hmem
          exact hlast
      · intro hall
        exact ⟨fun step hmem => hall step (List.mem_append_left _ hmem),
          hall _ (List.mem_append_right _ (List.mem_singleton_self _))⟩

/-- The row behind an answer. -/
theorem Polling.Consistent.row_of_answer
    (h : p.Consistent nodeId) {poll : Poll} (hpoll : poll ∈ p.polls)
    {c : SignedRunnerCommand} (hanswer : poll.answer = some c) :
    ∃ rowId row, poll.rowId = some rowId ∧
      Table.lookup RunnerCommandRow.id rowId p.database.runnerCommands =
        some row ∧
      row.nodeId = nodeId ∧ row.envelopeJson = c := by
  unfold Poll.answer at hanswer
  split at hanswer
  · rename_i rowId answer hphase
    cases rowId with
    | none =>
        rw [h.empty poll hpoll answer hphase] at hanswer
        cases hanswer
    | some rowId =>
        have hrowId : poll.rowId = some rowId := by
          rw [Poll.rowId, hphase]
        obtain ⟨row, hrow, henvelope, -⟩ :=
          h.returned poll hpoll rowId answer hphase
        have hheld : (poll.lastSequence, rowId) ∈ p.held :=
          List.mem_filterMap.mpr ⟨poll, hpoll, by rw [hrowId]; rfl⟩
        obtain ⟨row', hrow', hnode, -⟩ := h.held _ hheld
        obtain rfl := Option.some.inj (hrow.symm.trans hrow')
        exact ⟨rowId, row, hrowId, hrow, hnode,
          Option.some.inj (henvelope.symm.trans hanswer)⟩
  · cases hanswer

/-- Polls that are kept apart deliver what they should. -/
theorem Polling.Sound.delivers
    (hsound : p.Sound) (h : p.Consistent nodeId) : p.Delivers := by
  constructor
  · intro poll hpoll c hanswer
    obtain ⟨rowId, row, hrowId, hrow, -, rfl⟩ := h.row_of_answer hpoll hanswer
    exact hsound.above (poll.lastSequence, rowId)
      (List.mem_filterMap.mpr ⟨poll, hpoll, by rw [hrowId]; rfl⟩) row hrow
  · have hdistinct := hsound.distinct
    rw [List.Nodup, List.pairwise_map, Polling.held,
      List.pairwise_filterMap] at hdistinct
    refine hdistinct.imp_of_mem ?_
    intro poll poll' hpoll hpoll' hne c hanswer hanswer'
    obtain ⟨rowId, row, hrowId, hrow, hnode, hc⟩ := h.row_of_answer hpoll hanswer
    obtain ⟨rowId', row', hrowId', hrow', hnode', hc'⟩ :=
      h.row_of_answer hpoll' hanswer'
    obtain ⟨hmem, hid⟩ := Table.lookup_mem _ hrow
    obtain ⟨hmem', hid'⟩ := Table.lookup_mem _ hrow'
    have hkey : (row.nodeId, row.sequence) = (row'.nodeId, row'.sequence) := by
      rw [hnode, hnode', h.rows.sequences row hmem,
        h.rows.sequences row' hmem', hc, hc']
    have hsame := List.inj_on_of_nodup_map h.rows.keys hmem hmem' hkey
    refine hne _ (by rw [hrowId]; rfl) _ (by rw [hrowId']; rfl) ?_
    rw [← hid, ← hid', hsame]

/-- When all polls have returned, only polls kept apart deliver what they should. -/
theorem Polling.Delivers.sound
    (hdelivers : p.Delivers) (h : p.Consistent nodeId) (hcomplete : p.Complete) :
    p.Sound := by
  have hanswer : ∀ poll ∈ p.polls, ∀ rowId, poll.rowId = some rowId →
      ∃ row, Table.lookup RunnerCommandRow.id rowId
        p.database.runnerCommands = some row ∧
          poll.answer = some row.envelopeJson := by
    intro poll hpoll rowId hrowId
    obtain ⟨rowId', answer, hphase⟩ := hcomplete poll hpoll
    rw [Poll.rowId, hphase] at hrowId
    obtain rfl : rowId' = some rowId := hrowId
    obtain ⟨row, hrow, henvelope, -⟩ := h.returned poll hpoll rowId answer hphase
    exact ⟨row, hrow, by rw [Poll.answer, hphase, henvelope]⟩
  constructor
  · intro x hx row hrow
    obtain ⟨poll, hpoll, hpair⟩ := List.mem_filterMap.mp hx
    obtain ⟨rowId, hrowId, rfl⟩ := Option.map_eq_some_iff.mp hpair
    obtain ⟨row', hrow', hc⟩ := hanswer poll hpoll rowId hrowId
    obtain rfl := Option.some.inj (hrow.symm.trans hrow')
    exact hdelivers.above poll hpoll _ hc
  · rw [List.Nodup, List.pairwise_map, Polling.held, List.pairwise_filterMap]
    refine hdelivers.once.imp_of_mem ?_
    intro poll poll' hpoll hpoll' honce x hx x' hx' heq
    obtain ⟨rowId, hrowId, rfl⟩ := Option.map_eq_some_iff.mp hx
    obtain ⟨rowId', hrowId', rfl⟩ := Option.map_eq_some_iff.mp hx'
    obtain ⟨row, hrow, hc⟩ := hanswer poll hpoll rowId hrowId
    obtain ⟨row', hrow', hc'⟩ := hanswer poll' hpoll' rowId' hrowId'
    obtain rfl : rowId = rowId' := heq
    obtain rfl := Option.some.inj (hrow.symm.trans hrow')
    exact honce _ hc hc'

end Invariant

/--
Every command delivered is above the last sequence passed and delivered once,
as long as every sub-select is sound; once all polls have returned, only then.
-/
theorem deliveries_sound_iff
    (nodeId : String) {db₀ : Database} (hrows : KeyedRows db₀.runnerCommands)
    {log : List (Polling × PollEvent)} {p : Polling}
    (h : Polling.Run nodeId db₀ log p) :
    ((∀ step ∈ log, SelectsSoundly nodeId step) → p.Delivers) ∧
      (p.Complete →
        (p.Delivers ↔ ∀ step ∈ log, SelectsSoundly nodeId step)) := by
  obtain ⟨hconsistent, hsound⟩ := h.sound_iff hrows
  have hforward : (∀ step ∈ log, SelectsSoundly nodeId step) → p.Delivers :=
    fun hsteps => (hsound.mpr hsteps).delivers hconsistent
  refine ⟨hforward, fun hcomplete => ⟨?_, hforward⟩⟩
  intro hdelivers
  exact hsound.mp (hdelivers.sound hconsistent hcomplete)

/-! One command for one node, polled alone, too far ahead, and twice at once. -/

def oneCommand : Database :=
  { oneNode with
    runnerCommands := [⟨0, "tenant", "node", 1, reloadCommand 1, "pending"⟩] }

theorem oneCommand_rows : KeyedRows oneCommand.runnerCommands where
  ids := rfl
  sequences := by
    intro row hrow
    obtain rfl := List.mem_singleton.mp hrow
    rfl
  keys := List.nodup_singleton _

/-- One poll on its own. -/
theorem polledOnce
    (lastSequence : UInt64) :
    let skipped := skipRunnerCommands "node" lastSequence.toInt64 oneCommand
    let rowId := leaseCandidate "node" lastSequence.toInt64 skipped
    Polling.Run "node" oneCommand
      [ (⟨oneCommand, []⟩, .call lastSequence),
        (⟨oneCommand, [⟨lastSequence, .called⟩]⟩, .skip lastSequence),
        (⟨skipped, [⟨lastSequence, .skipped⟩]⟩, .select lastSequence),
        (⟨skipped, [⟨lastSequence, .selected rowId⟩]⟩, .lease lastSequence) ]
      ⟨(leaseRow rowId skipped).2,
        [⟨lastSequence, .returned rowId (leaseRow rowId skipped).1⟩]⟩ :=
  (((Polling.Run.start.step (.call _ [] lastSequence)).step
    (.skip _ [] [] lastSequence)).step
      (.select _ [] [] lastSequence)).step (.lease _ [] [] lastSequence _)

/--
Two polls and an enqueue: the first poll has found its row, and the second one
selects when that row is leased.
-/
theorem deliveries_sound_iff_interleaved :
    ∃ log p, Polling.Run "node" oneCommand log p ∧ p.Delivers ∧
      p.polls.map (fun poll => poll.answer.map (fun c => c.command.sequence)) =
        [some 1, some 2] := by
  have hrun := (((((((((@Polling.Run.start "node" oneCommand).step
    (.call _ [] 0)).step (.call _ [⟨0, .called⟩] 0)).step
      (.skip _ [] [⟨0, .called⟩] 0)).step (.skip _ [⟨0, .skipped⟩] [] 0)).step
        (.select _ [] [⟨0, .skipped⟩] 0)).step
          (.enqueue _ _ _ "node" (reloadCommand 2) rfl)).step
            (.lease _ [] [⟨0, .skipped⟩] 0 (some 0))).step
              (.select _ [⟨0, .returned (some 0) (some (reloadCommand 1))⟩] []
                0)).step
                (.lease _ [⟨0, .returned (some 0) (some (reloadCommand 1))⟩] [] 0
                  (some 1))
  refine ⟨_, _, hrun, ?_, by decide +kernel⟩
  refine (deliveries_sound_iff "node" oneCommand_rows hrun).1 ?_
  intro step hstep lastSequence hselect row hrow hcandidate
  simp only [List.nil_append, List.cons_append, List.mem_cons, List.not_mem_nil,
    or_false] at hstep
  rcases hstep with rfl | rfl | rfl | rfl | rfl | rfl | rfl | rfl | rfl
  all_goals try cases hselect
  -- the two sub-selects: no poll has found its row when they are made
  · refine ⟨.inl (by decide), ?_⟩
    intro poll hpoll hphase
    rcases List.mem_pair.mp hpoll with rfl | rfl <;> cases hphase
  · refine ⟨.inl (by decide), ?_⟩
    intro poll hpoll hphase
    rcases List.mem_pair.mp hpoll with rfl | rfl <;> cases hphase

/-- Two polls that select before either leases return the same command. -/
theorem polledTwice :
    ∃ log p, Polling.Run "node" oneCommand log p ∧
      p.polls.map (fun poll => poll.answer.isSome) = [true, true] ∧
      ¬ p.Delivers := by
  refine ⟨_, _, (((((((Polling.Run.start.step (.call _ [] 0)).step
    (.call _ [⟨0, .called⟩] 0)).step (.skip _ [] [⟨0, .called⟩] 0)).step
      (.skip _ [⟨0, .skipped⟩] [] 0)).step (.select _ [] [⟨0, .skipped⟩] 0)).step
        (.select _ [⟨0, .selected (some 0)⟩] [] 0)).step
          (.lease _ [] [⟨0, .selected (some 0)⟩] 0 (some 0))).step
            (.lease _ [⟨0, .returned (some 0) (some (reloadCommand 1))⟩] [] 0
              (some 0)), by decide +kernel, ?_⟩
  intro hdelivers
  have honce := List.pairwise_cons.mp hdelivers.once
  exact honce.1 _ (List.mem_singleton_self _) (reloadCommand 1) rfl rfl

/-- A poll whose last sequence is `2 ^ 63` returns the first command. -/
theorem polledTooFarAhead :
    ∃ log p, Polling.Run "node" oneCommand log p ∧
      p.polls.map (fun poll => poll.answer.isSome) = [true] ∧
      ¬ p.Delivers := by
  refine ⟨_, _, polledOnce 9223372036854775808, by decide +kernel, ?_⟩
  intro hdelivers
  have habove := hdelivers.above _ (List.mem_singleton_self _)
    (reloadCommand 1) rfl
  exact absurd habove (by decide +kernel)

/-- Two ways in which polls of a node return what they should not. -/
theorem deliveries_not_sound :
    KeyedRows oneCommand.runnerCommands ∧
      (∃ log p, Polling.Run "node" oneCommand log p ∧
        p.polls.map (fun poll => poll.answer.isSome) = [true, true] ∧
        ¬ p.Delivers) ∧
      ∃ log p, Polling.Run "node" oneCommand log p ∧
        p.polls.map (fun poll => poll.answer.isSome) = [true] ∧
        ¬ p.Delivers :=
  ⟨oneCommand_rows, polledTwice, polledTooFarAhead⟩

end PostgresStore
end ProxyControl
