import Mathlib.Data.List.Induction
import RbhTrade.Store.Execution

/-!
# Submission rows

`BeginSubmission`, `FinishSubmission` and `LatestSubmission` of the plain submission service, and
the outcome writer `finishControlledSubmissionTx` of the controlled one. The two writers share the
statements that release an execution proved unsent and the statements that freeze its lane and its
reservation; they differ in what else they touch, and in what a replay that was proved unsent does.
-/

namespace RbhTrade

open Tables GoTime

/-! ## Sequences -/

/-- `COALESCE(MAX(sequence)+1,0)` over the submissions of an attempt. -/
def nextSequence (attempt : String) (t : List Submission) : Nat :=
  (t.filter (·.attemptId = attempt)).foldl (fun n s => max n (s.sequence + 1)) 0

/-- `ORDER BY sequence DESC LIMIT 1` over the submissions of an attempt. -/
def latestSubmission (attempt : String) (t : List Submission) : Option Submission :=
  selectRow (fun s => s.attemptId = attempt ∧ s.sequence + 1 = nextSequence attempt t) t

/-- The primary key and `UNIQUE(attempt_id, sequence)`. -/
def Submission.Conflicts (x y : Submission) : Prop :=
  x.id = y.id ∨ (x.attemptId = y.attemptId ∧ x.sequence = y.sequence)
deriving Decidable

theorem Submission.Conflicts.symm {x y : Submission} (h : x.Conflicts y) : y.Conflicts x := by
  unfold Submission.Conflicts at *
  tauto

/-- The columns of a submission that no write changes. -/
def Submission.identity (s : Submission) : String × String × Nat := (s.id, s.attemptId, s.sequence)

section Sequence

variable {attempt : String} {t : List Submission}

theorem nextSequence_append {r : Submission} :
    nextSequence attempt (t ++ [r]) =
      if r.attemptId = attempt then max (nextSequence attempt t) (r.sequence + 1)
      else nextSequence attempt t := by
  unfold nextSequence
  by_cases h : r.attemptId = attempt <;> simp [List.filter_append, h]

/-- The next sequence is beyond every row of the attempt. -/
theorem succ_le_nextSequence {s : Submission} (hs : s ∈ t) (ha : s.attemptId = attempt) :
    s.sequence + 1 ≤ nextSequence attempt t := by
  induction t using List.reverseRecOn with
  | nil => cases hs
  | append_singleton t r ih =>
      rw [nextSequence_append]
      obtain hs | hs := List.mem_append.mp hs
      · have := ih hs
        split <;> omega
      · obtain rfl := List.mem_singleton.mp hs
        rw [if_pos ha]
        omega

/-- An attempt with a row has a newest one. -/
theorem exists_newest {s : Submission} (hs : s ∈ t) (ha : s.attemptId = attempt) :
    ∃ r ∈ t, r.attemptId = attempt ∧ r.sequence + 1 = nextSequence attempt t := by
  induction t using List.reverseRecOn generalizing s with
  | nil => cases hs
  | append_singleton t r ih =>
      have hmem : r ∈ t ++ [r] := List.mem_append_right t (List.mem_singleton_self r)
      rw [nextSequence_append]
      by_cases hr : r.attemptId = attempt
      · rw [if_pos hr]
        obtain hle | hlt := Nat.lt_or_ge (nextSequence attempt t) (r.sequence + 1)
        · exact ⟨r, hmem, hr, by omega⟩
        · -- The new row does not go beyond the old ones, so there are old ones.
          have hold : ∃ x ∈ t, x.attemptId = attempt := by
            by_contra hnone
            have hzero : nextSequence attempt t = 0 := by
              unfold nextSequence
              rw [List.filter_eq_nil_iff.mpr fun x hx => by
                simpa using fun hc => hnone ⟨x, hx, hc⟩]
              rfl
            omega
          obtain ⟨x, hx, hxa⟩ := hold
          obtain ⟨y, hy, hya, hseq⟩ := ih hx hxa
          exact ⟨y, List.mem_append_left [r] hy, hya, by omega⟩
      · rw [if_neg hr]
        obtain hs | hs := List.mem_append.mp hs
        · obtain ⟨y, hy, hya, hseq⟩ := ih hs ha
          exact ⟨y, List.mem_append_left [r] hy, hya, hseq⟩
        · exact absurd (List.mem_singleton.mp hs ▸ ha) hr

/-- A change of rows that keeps their identities keeps the next sequence. -/
theorem nextSequence_map {g : Submission → Submission}
    (hg : ∀ s ∈ t, (g s).identity = s.identity) :
    nextSequence attempt (t.map g) = nextSequence attempt t := by
  induction t using List.reverseRecOn with
  | nil => rfl
  | append_singleton t r ih =>
      have hr := hg r (List.mem_append_right t (List.mem_singleton_self r))
      simp only [Submission.identity, Prod.mk.injEq] at hr
      rw [List.map_append, List.map_singleton, nextSequence_append, nextSequence_append, hr.2.1,
        hr.2.2, ih fun s hs => hg s (List.mem_append_left [r] hs)]

theorem Submission.Conflicts.of_identity {x y x' y' : Submission} (hx : x'.identity = x.identity)
    (hy : y'.identity = y.identity) (h : x'.Conflicts y') : x.Conflicts y := by
  simp only [Submission.identity, Prod.mk.injEq] at hx hy
  rwa [Submission.Conflicts, hx.1, hx.2.1, hx.2.2, hy.1, hy.2.1, hy.2.2] at h

end Sequence

/-- The row a new submission starts with. -/
def openedSubmission (host : Host) (attempt txHash stamp : String) (t : List Submission) :
    Submission where
  id := host.deterministicID [attempt, "submission", toString (nextSequence attempt t)]
  attemptId := attempt
  txHash := txHash
  sequence := nextSequence attempt t
  state := .submitting
  createdAt := stamp
  updatedAt := stamp

variable {stamp : String} {sub : SubmissionRecord}

theorem nextSequence_opened {host : Host} {attempt b txHash : String} {t : List Submission} :
    nextSequence b (t ++ [openedSubmission host attempt txHash stamp t]) =
      if attempt = b then nextSequence b t + 1 else nextSequence b t := by
  rw [nextSequence_append]
  by_cases h : attempt = b
  · subst h
    simp [openedSubmission]
  · simp [openedSubmission, h]

def Submission.record (s : Submission) : SubmissionRecord :=
  ⟨s.id, s.attemptId, s.txHash, s.sequence, s.state⟩

/-- Insert the next `submitting` row of an attempt. Its attempt must exist. -/
def openSubmissionTx (host : Host) (attempt txHash stamp : String) :
    Tx Err Db SubmissionRecord := do
  let db ← Tx.query id
  let row := openedSubmission host attempt txHash stamp db.submissions
  Tx.require (∃ a ∈ db.attempts, a.id = attempt) .sql
  Tx.put? (fun db => (insertUnique Submission.Conflicts row db.submissions).map
    fun t => { db with submissions := t }) .sql
  return row.record

theorem openSubmissionTx_ok {host : Host} {attempt txHash : String} {db db' : Db}
    (h : openSubmissionTx host attempt txHash stamp db = .ok (sub, db')) :
    sub = (openedSubmission host attempt txHash stamp db.submissions).record ∧
      (∀ x ∈ db.submissions,
        ¬ x.Conflicts (openedSubmission host attempt txHash stamp db.submissions)) ∧
      db' = { db with submissions := db.submissions ++
        [openedSubmission host attempt txHash stamp db.submissions] } := by
  simp only [openSubmissionTx, Tx.query_bind, Tx.require_bind_ok, Tx.put?_bind_ok, Tx.pure_ok,
    Option.map_eq_some_iff, insertUnique_eq_some, id_eq] at h
  obtain ⟨-, _, ⟨_, ⟨hno, rfl⟩, rfl⟩, rfl, rfl⟩ := h
  exact ⟨rfl, hno, rfl⟩

/-- `BeginSubmission`. -/
def beginSubmission (host : Host) (a : SignedArtifact) (allowFrozen : Bool) (now : Instant) :
    Tx Err Db SubmissionRecord := do
  let lane ← Tx.query fun db => selectRow (·.OwnedBy a.walletId a.operation) db.lanes
  let lane ← Tx.expect lane .walletLaneBusy
  Tx.require (lane.state = .signed ∨ (allowFrozen = true ∧ lane.state = .frozen)) .walletLaneBusy
  openSubmissionTx host a.attemptId a.txHash (formatRFC3339Nano now)

/-- A submission begins only under a lane of its operation that is signed, or frozen for a
replay. -/
theorem beginSubmission_ok {host : Host} {a : SignedArtifact} {allowFrozen : Bool} {now : Instant}
    {db db' : Db} (h : beginSubmission host a allowFrozen now db = .ok (sub, db')) :
    (∃ lane ∈ db.lanes, lane.OwnedBy a.walletId a.operation ∧
      (lane.state = .signed ∨ (allowFrozen = true ∧ lane.state = .frozen))) ∧
    openSubmissionTx host a.attemptId a.txHash (formatRFC3339Nano now) db = .ok (sub, db') := by
  simp only [beginSubmission, Tx.query_bind, Tx.expect_bind_ok, Tx.require_bind_ok] at h
  obtain ⟨lane, hlane, hstate, h⟩ := h
  have howned := selectRow_prop hlane
  exact ⟨⟨lane, selectRow_mem hlane, howned, hstate⟩, h⟩

/-! ## Outcomes -/

/-- The `WHERE` clause with which both writers find the row of an outcome. -/
def Submission.AwaitsOutcome (s : Submission) (id : String) (a : SignedArtifact) : Prop :=
  s.InFlight id a.attemptId ∧ s.txHash = a.txHash
deriving Decidable

/-- An outcome as the writers take it: the new state, the hash the node returned, the failure class
and its detail. -/
structure Outcome where
  state : SubmissionState
  rpcHash : String := ""
  failureClass : Option FailureClass := none
  detail : String := ""
deriving DecidableEq

/-- An outcome that ends the flight of a row and is not the crash classifier's. -/
def Outcome.Ends (o : Outcome) : Prop :=
  o.state ≠ .submitting ∧ o.failureClass ≠ some .restartBeforeSendIntent

/-- The row after its outcome is recorded. -/
def Submission.settle (o : Outcome) (stamp : String) (s : Submission) : Submission :=
  { s with
    state := o.state, rpcHash := nullText o.rpcHash, failureClass := o.failureClass,
    failureDetail := nullText o.detail, updatedAt := stamp }

section Writes

variable (db : Db) (a : SignedArtifact) (stamp : String)

/-- An outcome is recorded on its row. -/
def Db.settleRow (id : String) (o : Outcome) : Db :=
  { db with
    submissions := updateWhere (·.AwaitsOutcome id a) (Submission.settle o stamp) db.submissions }

/-- The execution is known unsent and gives up what it holds. -/
def Db.releaseUnsent (c : Option FailureClass) : Db :=
  { db with
    lanes := updateWhere (·.OwnedBy a.walletId a.operation)
      (WalletLane.clear (some "known_unsent") stamp) db.lanes,
    reservations := updateWhere (·.operationId = a.operation)
      (fun r => { r with status := .released, updatedAt := stamp }) db.reservations,
    riskReservations := updateWhere (fun r => r.operationId = a.operation ∧ r.state = .reserved)
      (fun r => { r with state := .released, updatedAt := stamp }) db.riskReservations,
    attempts := updateWhere (·.id = a.attemptId)
      (fun t => { t with status := .knownUnsent, updatedAt := stamp }) db.attempts,
    steps := updateWhere (·.id = a.stepId)
      (fun s => { s with status := .knownUnsent, updatedAt := stamp }) db.steps,
    operations := updateWhere (·.id = a.operation)
      (fun o => { o with status := .knownUnsent, failureCode := c, updatedAt := stamp })
      db.operations }

/-- The risk reservation is frozen. -/
def Db.freezeRisk (operation : String) : Db :=
  { db with
    riskReservations := updateWhere (fun r => r.operationId = operation ∧ r.state.Active)
      (fun r => { r with state := .frozen, updatedAt := stamp }) db.riskReservations }

/-- The step has a new status. -/
def Db.markStep (step : String) (status : StepStatus) : Db :=
  { db with steps := updateWhere (·.id = step) (fun s => { s with status := status }) db.steps }

theorem Db.releaseUnsent_identities (c : Option FailureClass) :
    db.SameIdentities (db.releaseUnsent a stamp c) :=
    .of_updates rfl rfl (fun _ => rfl) fun _ => rfl

/-- A frozen risk reservation was not released before. -/
theorem Db.freezeRisk_kept (operation : String) :
    ∀ r' ∈ (db.freezeRisk stamp operation).riskReservations, ∃ r ∈ db.riskReservations,
      r.operationId = r'.operationId ∧ (r'.state = .released → r.state = .released) := by
  intro r' hr'
  obtain ⟨hr', -⟩ | ⟨r, hr, -, rfl⟩ := mem_updateWhere_cases hr'
  · exact ⟨r', hr', rfl, id⟩
  · exact ⟨r, hr, rfl, nofun⟩

end Writes

/-- Record an outcome on the one row that awaits it. -/
def settleSubmissionTx (a : SignedArtifact) (sub : SubmissionRecord) (o : Outcome)
    (stamp : String) : Tx Err Db Unit := do
  let changed ← Tx.query fun db => affected (·.AwaitsOutcome sub.id a) db.submissions
  Tx.exec (·.settleRow a stamp sub.id o)
  Tx.require (changed = 1) .artifactIntegrity

/-- The freeze reason is the text of the outcome's state. -/
def freezeReasonOf (s : SubmissionState) : String :=
  match s with
  | .manualResolution => "manual_resolution"
  | .knownUnsent => "known_unsent"
  | _ => "broadcast_unknown"

/-- `FinishSubmission`: the outcome writer of the plain submission service. -/
def finishSubmission (a : SignedArtifact) (sub : SubmissionRecord) (o : Outcome) (now : Instant) :
    Tx Err Db Unit := do
  Tx.require (o.state = .submitted ∨ o.state = .broadcastUnknown ∨ o.state = .manualResolution ∨
    o.state = .expiredPrebroadcast ∨ o.state = .knownUnsent) .invalidRequest
  let stamp := formatRFC3339Nano now
  settleSubmissionTx a sub o stamp
  match o.state with
  | .knownUnsent => updateTx (·.releaseUnsent a stamp o.failureClass)
  | .broadcastUnknown => do
      Tx.exec (·.freezeLane stamp a.walletId a.operation (freezeReasonOf o.state))
      updateTx (·.markStep a.stepId .broadcastUnknown)
  | .manualResolution => do
      Tx.exec (·.freezeLane stamp a.walletId a.operation (freezeReasonOf o.state))
      updateTx (·.markStep a.stepId .manualResolution)
  -- `submitted`, and the `expired_prebroadcast` of a replay: only the row itself changes.
  | _ => pure ()

/-- `finishControlledSubmissionTx`: the outcome writer of the controlled worker. A replay that was
proved unsent leaves the earlier ambiguous send frozen. -/
def finishControlledSubmissionTx (a : SignedArtifact) (sub : SubmissionRecord) (o : Outcome)
    (purpose : PermitPurpose) (now : Instant) : Tx Err Db Unit := do
  let stamp := formatRFC3339Nano now
  settleSubmissionTx a sub o stamp
  if o.state = .broadcastUnknown ∨ o.state = .manualResolution ∨
      (o.state = .knownUnsent ∧ purpose = .unknownReplay) then do
    Tx.exec (·.freezeLane stamp a.walletId a.operation (freezeReasonOf o.state))
    Tx.exec (·.freezeRisk stamp a.operation)
  else if o.state = .knownUnsent then
    updateTx (·.releaseUnsent a stamp o.failureClass)
  else
    pure ()

/-! ## What an outcome does -/

theorem settleSubmissionTx_ok {a : SignedArtifact} {o : Outcome} {db db' : Db} {u : Unit} :
    settleSubmissionTx a sub o stamp db = .ok (u, db') ↔
      affected (·.AwaitsOutcome sub.id a) db.submissions = 1 ∧
        db.settleRow a stamp sub.id o = db' := by
  simp only [settleSubmissionTx, Tx.query_bind, Tx.exec_bind, Tx.require_ok]

/-- The status of the step of an ambiguous or contradicted send. -/
def frozenStepStatus (s : SubmissionState) : StepStatus :=
  if s = .manualResolution then .manualResolution else .broadcastUnknown

section Inversion

variable {a : SignedArtifact} {sub : SubmissionRecord} {o : Outcome} {purpose : PermitPurpose}
  {now : Instant} {db db' : Db} {u : Unit}

/-- An outcome in the plain service: the row, and what the execution holds. -/
theorem finishSubmission_eq (h : finishSubmission a sub o now db = .ok (u, db')) :
    affected (·.AwaitsOutcome sub.id a) db.submissions = 1 ∧
      ((o.state = .knownUnsent ∧ db' =
          (db.settleRow a (formatRFC3339Nano now) sub.id o).releaseUnsent a (formatRFC3339Nano now)
            o.failureClass) ∨
        ((o.state = .broadcastUnknown ∨ o.state = .manualResolution) ∧ db' =
          ((db.settleRow a (formatRFC3339Nano now) sub.id o).freezeLane (formatRFC3339Nano now)
            a.walletId a.operation (freezeReasonOf o.state)).markStep a.stepId
            (frozenStepStatus o.state) ∧ UnresolvedOnce db'.steps) ∨
        ((o.state = .submitted ∨ o.state = .expiredPrebroadcast) ∧
          db' = db.settleRow a (formatRFC3339Nano now) sub.id o)) := by
  simp only [finishSubmission, Tx.require_bind_ok] at h
  obtain ⟨hstate, h⟩ := h
  obtain ⟨_, _, hs, h⟩ := Tx.bind_ok.mp h
  obtain ⟨hone, rfl⟩ := settleSubmissionTx_ok.mp hs
  refine ⟨hone, ?_⟩
  obtain ho | ho | ho | ho | ho := hstate <;> simp only [ho] at h
  · obtain ⟨-, rfl⟩ := Tx.pure_ok.mp h
    exact .inr (.inr ⟨.inl ho, rfl⟩)
  · rw [Tx.exec_bind, updateTx_ok] at h
    obtain ⟨hindex, rfl⟩ := h
    exact .inr (.inl ⟨.inl ho, by rw [ho]; rfl, hindex⟩)
  · rw [Tx.exec_bind, updateTx_ok] at h
    obtain ⟨hindex, rfl⟩ := h
    exact .inr (.inl ⟨.inr ho, by rw [ho]; rfl, hindex⟩)
  · obtain ⟨-, rfl⟩ := Tx.pure_ok.mp h
    exact .inr (.inr ⟨.inr ho, rfl⟩)
  · exact .inl ⟨ho, (updateTx_ok.mp h).2.symm⟩

/-- An outcome in the controlled service. A replay that was proved unsent is frozen. -/
theorem finishControlledSubmissionTx_eq
    (h : finishControlledSubmissionTx a sub o purpose now db = .ok (u, db')) :
    affected (·.AwaitsOutcome sub.id a) db.submissions = 1 ∧
      ((o.state = .knownUnsent ∧ purpose ≠ .unknownReplay ∧ db' =
          (db.settleRow a (formatRFC3339Nano now) sub.id o).releaseUnsent a (formatRFC3339Nano now)
            o.failureClass) ∨
        ((o.state = .broadcastUnknown ∨ o.state = .manualResolution ∨
            (o.state = .knownUnsent ∧ purpose = .unknownReplay)) ∧ db' =
          ((db.settleRow a (formatRFC3339Nano now) sub.id o).freezeLane (formatRFC3339Nano now)
            a.walletId a.operation (freezeReasonOf o.state)).freezeRisk (formatRFC3339Nano now)
            a.operation) ∨
        (o.state ≠ .knownUnsent ∧ (o.state ≠ .broadcastUnknown ∧ o.state ≠ .manualResolution) ∧
          db' = db.settleRow a (formatRFC3339Nano now) sub.id o)) := by
  simp only [finishControlledSubmissionTx, Tx.bind_ok, Tx.ite_ok] at h
  obtain ⟨_, _, hs, hrest⟩ := h
  obtain ⟨hone, rfl⟩ := settleSubmissionTx_ok.mp hs
  refine ⟨hone, ?_⟩
  obtain ⟨hc, _, _, hf, he⟩ | ⟨hno, ⟨hknown, hr⟩ | ⟨hne, hp⟩⟩ := hrest
  · obtain rfl := Tx.exec_ok.mp hf
    obtain rfl := Tx.exec_ok.mp he
    exact .inr (.inl ⟨hc, rfl⟩)
  · exact .inl ⟨hknown, fun hp => hno (.inr (.inr ⟨hknown, hp⟩)), (updateTx_ok.mp hr).2.symm⟩
  · obtain ⟨-, rfl⟩ := Tx.pure_ok.mp hp
    exact .inr (.inr ⟨hne, ⟨fun hu => hno (.inl hu), fun hm => hno (.inr (.inl hm))⟩, rfl⟩)

theorem finishSubmission_rows (h : finishSubmission a sub o now db = .ok (u, db')) :
    db'.submissions = (db.settleRow a (formatRFC3339Nano now) sub.id o).submissions := by
  obtain ⟨-, ⟨-, rfl⟩ | ⟨-, rfl, -⟩ | ⟨-, rfl⟩⟩ := finishSubmission_eq h
  all_goals rfl

theorem finishControlledSubmissionTx_rows
    (h : finishControlledSubmissionTx a sub o purpose now db = .ok (u, db')) :
    db'.submissions = (db.settleRow a (formatRFC3339Nano now) sub.id o).submissions ∧
      db'.permits = db.permits ∧ db'.gateSnapshots = db.gateSnapshots := by
  obtain ⟨-, ⟨-, -, rfl⟩ | ⟨-, rfl⟩ | ⟨-, -, rfl⟩⟩ := finishControlledSubmissionTx_eq h
  all_goals exact ⟨rfl, rfl, rfl⟩

end Inversion

end RbhTrade
