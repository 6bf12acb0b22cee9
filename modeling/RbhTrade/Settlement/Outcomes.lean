import RbhTrade.Settlement.Holdings

/-!
# Three writers of one outcome

The outcome of a first send is recorded by the controlled worker, by the plain submission service
or, after a crash, by the recovery. Each is written out separately. `Standing` is what they should
agree on: the lane of the wallet, both reservations, and the statuses of attempt, step and
operation. `Standing.record` is the transition that an outcome stands for, and each writer is
compared with it.

For a send that is known unsent all three make that transition. For an ambiguous or contradicted
send each of the two live writers leaves one table out: the controlled one does not mark the
execution step, and the plain one does not freeze the risk reservation. Only the recovery does both.
-/

namespace RbhTrade.Settlement

open Tables GoTime

/-! ## The abstract transition -/

/-- Where an execution stands. -/
structure Standing where
  lanes : List (LaneState × Option String)
  reservations : List ReservationStatus
  risks : List RiskState
  attempts : List AttemptStatus
  steps : List StepStatus
  operations : List OperationStatus
deriving DecidableEq

variable {status : StepStatus}

namespace Standing

/-- The lane of the operation is free, what it had reserved is released, and it is closed as known
unsent. -/
def release (operation : String) (v : Standing) : Standing where
  lanes := v.lanes.map fun l => if l.2 = some operation then (.idle, none) else l
  reservations := v.reservations.map fun _ => .released
  risks := v.risks.map fun r => if r = .reserved then .released else r
  attempts := v.attempts.map fun _ => .knownUnsent
  steps := v.steps.map fun _ => .knownUnsent
  operations := v.operations.map fun _ => .knownUnsent

/-- The lane of the operation and its execution reservation are frozen. -/
def freezeLane (operation : String) (v : Standing) : Standing :=
  { v with
    lanes := v.lanes.map fun l => if l.2 = some operation then (.frozen, l.2) else l
    reservations := v.reservations.map fun _ => .frozen }

/-- The exposure that is still carried is frozen. -/
def freezeRisk (v : Standing) : Standing :=
  { v with risks := v.risks.map fun r => if r.Active then .frozen else r }

/-- The execution step is marked. -/
def markStep (status : StepStatus) (v : Standing) : Standing :=
  { v with steps := v.steps.map fun _ => status }

/-- What an outcome of a first send does. -/
def record (operation : String) (o : SubmissionState) (v : Standing) : Standing :=
  match o with
  | .knownUnsent => v.release operation
  | .broadcastUnknown => ((v.freezeLane operation).freezeRisk).markStep .broadcastUnknown
  | .manualResolution => ((v.freezeLane operation).freezeRisk).markStep .manualResolution
  | _ => v

/-- No exposure is left to freeze. -/
def RiskFrozen (v : Standing) : Prop := ∀ r ∈ v.risks, r ≠ .reserved

/-- The execution step is marked already. -/
def Marked (status : StepStatus) (v : Standing) : Prop := ∀ s ∈ v.steps, s = status

theorem freezeRisk_eq {v : Standing} (h : v.RiskFrozen) : v.freezeRisk = v := by
  unfold freezeRisk
  congr 1
  refine (List.map_congr_left fun r hr => ?_).trans (List.map_id _)
  have hne := h r hr
  cases r <;> simp_all [RiskState.Active]

theorem markStep_eq {v : Standing} (h : v.Marked status) : v.markStep status = v := by
  unfold markStep
  congr 1
  exact (List.map_congr_left fun s hs => (h s hs).symm).trans (List.map_id _)

/-- Marking the step and freezing the exposure are the same only where neither has anything to
do. -/
theorem settled_of_markStep_eq {v : Standing} (h : v.markStep status = v.freezeRisk) :
    v.RiskFrozen ∧ v.Marked status := by
  have hrisks : v.risks.map id = v.risks.map fun r => if r.Active then .frozen else r := by
    rw [List.map_id]
    exact congrArg risks h
  have hsteps : v.steps.map (fun _ => status) = v.steps.map id := by
    rw [List.map_id]
    exact congrArg steps h
  refine ⟨fun r hr hreserved => ?_, fun s hs => (List.map_inj_left.mp hsteps s hs).symm⟩
  have hsame := List.map_inj_left.mp hrisks r hr
  rw [hreserved] at hsame
  cases hsame

end Standing

/-- Where the execution of an artifact stands in a database. -/
def standing (a : SignedArtifact) (db : Db) : Standing where
  lanes := (db.lanes.filter (·.walletId = a.walletId)).map fun l => (l.state, l.operationId)
  reservations := (db.reservations.filter (·.operationId = a.operation)).map (·.status)
  risks := (db.riskReservations.filter (·.operationId = a.operation)).map (·.state)
  attempts := (db.attempts.filter (·.id = a.attemptId)).map (·.status)
  steps := (db.steps.filter (·.id = a.stepId)).map (·.status)
  operations := (db.operations.filter (·.id = a.operation)).map (·.status)

/-! ## Writes

Each writer selects its rows by clauses of its own. The lemmas ask only what the clauses select of
this execution. -/

section Writes

variable {a : SignedArtifact} {db db' : Db} {stamp : String}

/-- The clauses select what the execution holds and free it. -/
theorem standing_release {p : WalletLane → Prop} [DecidablePred p]
    {q : ExecutionReservation → Prop} [DecidablePred q] {r : RiskReservation → Prop}
    [DecidablePred r] {t : TransactionAttempt → Prop} [DecidablePred t] {s : ExecutionStep → Prop}
    [DecidablePred s] {o : Operation → Prop} [DecidablePred o] {reason : Option String}
    {failureCode : Option FailureClass}
    (hlanes : db'.lanes = updateWhere p (WalletLane.clear reason stamp) db.lanes)
    (hp : ∀ l ∈ db.lanes, l.walletId = a.walletId → (p l ↔ l.operationId = some a.operation))
    (hres : db'.reservations = updateWhere q
      (fun r => { r with status := .released, updatedAt := stamp }) db.reservations)
    (hq : ∀ r, r.operationId = a.operation → q r)
    (hrisk : db'.riskReservations = updateWhere r
      (fun r => { r with state := .released, updatedAt := stamp }) db.riskReservations)
    (hr : ∀ x, x.operationId = a.operation → (r x ↔ x.state = .reserved))
    (hattempts : db'.attempts = updateWhere t
      (fun t => { t with status := .knownUnsent, updatedAt := stamp }) db.attempts)
    (ht : ∀ x, x.id = a.attemptId → t x)
    (hsteps : db'.steps = updateWhere s
      (fun s => { s with status := .knownUnsent, updatedAt := stamp }) db.steps)
    (hs : ∀ x ∈ db.steps, x.id = a.stepId → s x)
    (hops : db'.operations = updateWhere o
      (fun o => { o with
        status := .knownUnsent, failureCode := failureCode, updatedAt := stamp }) db.operations)
    (ho : ∀ x, x.id = a.operation → o x) :
    standing a db' = (standing a db).release a.operation := by
  unfold standing Standing.release
  congr 1
  · rw [hlanes]
    refine map_filter_updateWhere (fun _ _ => Iff.rfl) fun l hl hw => ?_
    by_cases hown : l.operationId = some a.operation
    · rw [if_pos ((hp l hl hw).mpr hown), if_pos hown]
      rfl
    · rw [if_neg (mt (hp l hl hw).mp hown), if_neg hown]
  · exact column_const hres (fun _ _ => Iff.rfl) (fun x _ hx => hq x hx) fun _ => rfl
  · rw [hrisk]
    refine map_filter_updateWhere (fun _ _ => Iff.rfl) fun x _ hx => ?_
    by_cases hstate : x.state = .reserved
    · rw [if_pos ((hr x hx).mpr hstate), if_pos hstate]
    · rw [if_neg (mt (hr x hx).mp hstate), if_neg hstate]
  · exact column_const hattempts (fun _ _ => Iff.rfl) (fun x _ hx => ht x hx) fun _ => rfl
  · exact column_const hsteps (fun _ _ => Iff.rfl) (fun x hm hx => hs x hm hx) fun _ => rfl
  · exact column_const hops (fun _ _ => Iff.rfl) (fun x _ hx => ho x hx) fun _ => rfl

/-- The clauses select the lane and the execution reservation and freeze them. -/
theorem standing_freezeLane {p : WalletLane → Prop} [DecidablePred p]
    {q : ExecutionReservation → Prop} [DecidablePred q] {reason : String}
    (hlanes : db'.lanes = updateWhere p (WalletLane.freeze reason stamp) db.lanes)
    (hp : ∀ l ∈ db.lanes, l.walletId = a.walletId → (p l ↔ l.operationId = some a.operation))
    (hres : db'.reservations = updateWhere q
      (fun r => { r with status := .frozen, updatedAt := stamp }) db.reservations)
    (hq : ∀ r, r.operationId = a.operation → q r)
    (hrisk : db'.riskReservations = db.riskReservations) (hattempts : db'.attempts = db.attempts)
    (hsteps : db'.steps = db.steps) (hops : db'.operations = db.operations) :
    standing a db' = (standing a db).freezeLane a.operation := by
  unfold standing Standing.freezeLane
  rw [hrisk, hattempts, hsteps, hops]
  congr 1
  · rw [hlanes]
    refine map_filter_updateWhere (fun _ _ => Iff.rfl) fun l hl hw => ?_
    by_cases hown : l.operationId = some a.operation
    · rw [if_pos ((hp l hl hw).mpr hown), if_pos hown]
      rfl
    · rw [if_neg (mt (hp l hl hw).mp hown), if_neg hown]
  · exact column_const hres (fun _ _ => Iff.rfl) (fun x _ hx => hq x hx) fun _ => rfl

/-- The clause selects the exposure that is still carried and freezes it. -/
theorem standing_freezeRisk {r : RiskReservation → Prop} [DecidablePred r]
    (hrisk : db'.riskReservations = updateWhere r
      (fun r => { r with state := .frozen, updatedAt := stamp }) db.riskReservations)
    (hr : ∀ x, x.operationId = a.operation → (r x ↔ x.state.Active))
    (hlanes : db'.lanes = db.lanes) (hres : db'.reservations = db.reservations)
    (hattempts : db'.attempts = db.attempts) (hsteps : db'.steps = db.steps)
    (hops : db'.operations = db.operations) :
    standing a db' = (standing a db).freezeRisk := by
  unfold standing Standing.freezeRisk
  rw [hlanes, hres, hattempts, hsteps, hops]
  congr 1
  rw [hrisk]
  refine map_filter_updateWhere (fun _ _ => Iff.rfl) fun x _ hx => ?_
  by_cases hactive : x.state.Active
  · rw [if_pos ((hr x hx).mpr hactive), if_pos hactive]
  · rw [if_neg (mt (hr x hx).mp hactive), if_neg hactive]

/-- The clause selects the execution step and marks it. -/
theorem standing_markStep {s : ExecutionStep → Prop} [DecidablePred s]
    {f : ExecutionStep → ExecutionStep} (hsteps : db'.steps = updateWhere s f db.steps)
    (hf : ∀ x, (f x).id = x.id ∧ (f x).status = status) (hs : ∀ x ∈ db.steps, x.id = a.stepId → s x)
    (hlanes : db'.lanes = db.lanes) (hres : db'.reservations = db.reservations)
    (hrisk : db'.riskReservations = db.riskReservations) (hattempts : db'.attempts = db.attempts)
    (hops : db'.operations = db.operations) :
    standing a db' = (standing a db).markStep status := by
  unfold standing Standing.markStep
  rw [hlanes, hres, hrisk, hattempts, hops]
  congr 1
  exact column_const hsteps (fun x _ => by rw [(hf x).1]) (fun x hm hx => hs x hm hx)
    fun x => (hf x).2

end Writes

/-! ## The live writers -/

section Live

variable {a : SignedArtifact} {sub : SubmissionRecord} {o : Outcome} {now : Instant} {db db' : Db}

/-- The three outcomes that the writers are compared on. -/
def Compared (o : SubmissionState) : Prop :=
  o = .broadcastUnknown ∨ o = .manualResolution ∨ o = .knownUnsent
deriving Decidable

/-- The tables that one of the live writers leaves out are as the outcome would leave them. -/
def Settleable (o : SubmissionState) (v : Standing) : Prop :=
  o = .knownUnsent ∨ (v.RiskFrozen ∧ v.Marked (frozenStepStatus o))

/-- The writer commits and leaves the execution at the given standing. -/
def LeadsTo (a : SignedArtifact) (db : Db) (v : Standing) (writer : Tx Err Db Unit) : Prop :=
  ∃ db', writer db = .ok ((), db') ∧ standing a db' = v

theorem record_of_ne {operation : String} {o : SubmissionState} {v : Standing} (ho : Compared o)
    (hne : o ≠ .knownUnsent) : v.record operation o =
      ((v.freezeLane operation).freezeRisk).markStep (frozenStepStatus o) := by
  obtain rfl | rfl | rfl := ho
  · rfl
  · rfl
  · exact absurd rfl hne

theorem standing_releaseUnsent (db : Db) (c : Option FailureClass) (stamp : String) :
    standing a (db.releaseUnsent a stamp c) = (standing a db).release a.operation :=
  standing_release rfl (fun _ _ hw => ⟨fun h => h.2, fun h => ⟨hw, h⟩⟩) rfl (fun _ h => h) rfl
    (fun _ hx => ⟨fun h => h.2, fun h => ⟨hx, h⟩⟩) rfl (fun _ h => h) rfl (fun _ _ h => h) rfl
    fun _ h => h

theorem standing_freezeLaneOf (db : Db) (reason stamp : String) :
    standing a (db.freezeLane stamp a.walletId a.operation reason) =
      (standing a db).freezeLane a.operation :=
  standing_freezeLane rfl (fun _ _ hw => ⟨fun h => h.2, fun h => ⟨hw, h⟩⟩) rfl
    (fun _ h => h) rfl rfl
    rfl rfl

theorem standing_freezeRiskOf (db : Db) (stamp : String) :
    standing a (db.freezeRisk stamp a.operation) = (standing a db).freezeRisk :=
  @standing_freezeRisk a db _ stamp _ _ rfl (fun _ hx => ⟨fun h => h.2, fun h => ⟨hx, h⟩⟩) rfl rfl
    rfl
    rfl rfl

theorem standing_markStepOf (db : Db) (status : StepStatus) :
    standing a (db.markStep a.stepId status) = (standing a db).markStep status :=
  @standing_markStep status a db _ _ _ _ rfl (fun _ => ⟨rfl, rfl⟩)
    (fun _ _ h => h) rfl rfl rfl rfl rfl

/-- The plain writer releases, or freezes the lane and marks the step. -/
theorem finishSubmission_standing (ho : Compared o.state) {u : Unit}
    (h : finishSubmission a sub o now db = .ok (u, db')) : standing a db' =
      if o.state = .knownUnsent then (standing a db).release a.operation
      else ((standing a db).freezeLane a.operation).markStep (frozenStepStatus o.state) := by
  obtain ⟨-, ⟨hs, rfl⟩ | ⟨hs, rfl, -⟩ | ⟨hs, -⟩⟩ := finishSubmission_eq h
  · rw [if_pos hs, standing_releaseUnsent]
    rfl
  · rw [if_neg (by obtain hs | hs := hs <;> rw [hs] <;> exact nofun), standing_markStepOf,
      standing_freezeLaneOf]
    rfl
  · obtain ho | ho | ho := ho <;> rw [ho] at hs <;> obtain hs | hs := hs <;> cases hs

/-- The controlled writer releases, or freezes the lane and the exposure. -/
theorem finishControlledSubmissionTx_standing (ho : Compared o.state) {u : Unit}
    (h : finishControlledSubmissionTx a sub o .firstBroadcast now db = .ok (u, db')) :
    standing a db' = if o.state = .knownUnsent then (standing a db).release a.operation
      else ((standing a db).freezeLane a.operation).freezeRisk := by
  obtain ⟨-, ⟨hs, -, rfl⟩ | ⟨hs, rfl⟩ | ⟨hk, ⟨hu, hm⟩, -⟩⟩ := finishControlledSubmissionTx_eq h
  · rw [if_pos hs, standing_releaseUnsent]
    rfl
  · have hne : o.state ≠ .knownUnsent := by
      obtain hs | hs | ⟨-, hs⟩ := hs
      · rw [hs]; exact nofun
      · rw [hs]; exact nofun
      · cases hs
    rw [if_neg hne, standing_freezeRiskOf, standing_freezeLaneOf]
    rfl
  · obtain ho | ho | ho := ho
    exacts [absurd ho hu, absurd ho hm, absurd ho hk]

theorem settleSubmissionTx_commits (o : Outcome) (stamp : String)
    (hone : affected (·.AwaitsOutcome sub.id a) db.submissions = 1) :
    settleSubmissionTx a sub o stamp db = .ok ((), db.settleRow a stamp sub.id o) :=
  settleSubmissionTx_ok.mpr ⟨hone, rfl⟩

theorem releaseUnsent_commits (c : Option FailureClass) (stamp : String)
    (hindex : UnresolvedOnce db.steps) : Tx.Commits (updateTx (·.releaseUnsent a stamp c)) db :=
  ⟨(), _, updateTx_ok.mpr
    ⟨hindex.resolve fun _ => ⟨rfl, show ¬ StepStatus.Unresolved .knownUnsent by decide⟩, rfl⟩⟩

/-- A marked step stays marked. -/
theorem markStepTx_commits (hindex : UnresolvedOnce db.steps)
    (hmarked : (standing a db).Marked status) :
    Tx.Commits (updateTx (·.markStep a.stepId status)) db := by
  refine ⟨(), _, updateTx_ok.mpr ⟨hindex.updateWhere fun s hs hid => ⟨rfl, fun hu => ?_⟩, rfl⟩⟩
  have hstatus : s.status = status := hmarked s.status
    (List.mem_map_of_mem (List.mem_filter.mpr ⟨hs, decide_eq_true hid⟩))
  rw [hstatus]
  exact hu

theorem finishSubmission_commits (now : Instant) (ho : Compared o.state)
    (hone : affected (·.AwaitsOutcome sub.id a) db.submissions = 1)
    (hindex : UnresolvedOnce db.steps) (hs : Settleable o.state (standing a db)) :
    Tx.Commits (finishSubmission a sub o now) db := by
  refine Tx.Commits.require (by unfold Compared at ho; tauto)
    (.bind (settleSubmissionTx_commits o _ hone) ?_)
  obtain ho | ho | ho := ho <;> simp only [ho] at hs ⊢
  · exact .bind rfl (markStepTx_commits hindex (hs.resolve_left nofun).2)
  · exact .bind rfl (markStepTx_commits hindex (hs.resolve_left nofun).2)
  · exact releaseUnsent_commits _ _ hindex

theorem finishControlledSubmissionTx_commits (now : Instant)
    (hone : affected (·.AwaitsOutcome sub.id a) db.submissions = 1)
    (hindex : UnresolvedOnce db.steps) :
    Tx.Commits (finishControlledSubmissionTx a sub o .firstBroadcast now) db := by
  refine .bind (settleSubmissionTx_commits o _ hone) ?_
  split
  · exact ⟨(), _, rfl⟩
  · split
    · exact releaseUnsent_commits _ _ hindex
    · exact ⟨(), _, rfl⟩

end Live

/-! ## Recovery -/

/-- The execution that an artifact belongs to. -/
def executionOf (a : SignedArtifact) : Execution := ⟨a.attemptId, a.operation, a.stepId, a.walletId⟩

/-- The first send of an execution is in flight, and it is the only one. -/
structure FirstInFlight (a : SignedArtifact) (sub : SubmissionRecord) (db : Db) : Prop where
  stores : db.Stores a
  stored : (executionOf a).Stored db
  index : UnresolvedOnce db.steps
  keys : NoConflict Submission.Conflicts db.submissions
  row : ∃ s ∈ db.submissions, s.AwaitsOutcome sub.id a
  first : ∀ s ∈ db.submissions, s.attemptId = a.attemptId → s.sequence = 0
  lane : ∀ l ∈ db.lanes, l.walletId = a.walletId → ∀ o ∈ l.operationId, o = a.operation

section Recovery

variable {a : SignedArtifact} {sub : SubmissionRecord} {db db' : Db} {environment stamp : String}
  {s : Submission}

theorem FirstInFlight.sole (h : FirstInFlight a sub db) {r : Submission} (hs : s ∈ db.submissions)
    (hr : r ∈ db.submissions) (has : s.attemptId = a.attemptId) (har : r.attemptId = a.attemptId) :
    s = r :=
  h.keys.eq (fun _ _ => Submission.Conflicts.symm) hs hr
    (.inr ⟨has.trans har.symm, (h.first s hs has).trans (h.first r hr har).symm⟩)

theorem FirstInFlight.one (h : FirstInFlight a sub db) :
    affected (·.AwaitsOutcome sub.id a) db.submissions = 1 := by
  obtain ⟨s, hs, hwait⟩ := h.row
  exact h.keys.affected_eq_one (fun x _ y _ hx hy => .inl (hx.1.1.trans hy.1.1.symm)) hs hwait

/-- What the classifier makes of the first send is the only row of its attempt, and the recovery
finds it through the operation, the attempt and the step. -/
structure Classified (a : SignedArtifact) (s : Submission) (db : Db) : Prop where
  owns : ∀ q [DecidablePred q], db.OwnsSubmission q a.operation ↔ q s
  attempt : db.AttemptKnownUnsent a.attemptId ↔ s.FirstKnownUnsent
  step : db.StepRecoveredUnknown a.stepId ↔ s.RecoveredUnknown
  operation : ∀ x ∈ db.steps, x.id = a.stepId → x.operationId = a.operation
  lane : ∀ l ∈ db.lanes, l.walletId = a.walletId → ∀ o ∈ l.operationId, o = a.operation

theorem FirstInFlight.classified (h : FirstInFlight a sub db) (hs : s ∈ db.submissions)
    (ha : s.attemptId = a.attemptId)
    (hchanged : (recoverSubmission db environment stamp s).state ≠ .submitting) :
    Classified a (recoverSubmission db environment stamp s) (db.classified environment stamp) := by
  obtain ⟨w, hw, hwait⟩ := h.row
  obtain he | ⟨-, hpermit, -⟩ := recoverSubmission_cases db environment stamp s
  · rw [he, h.sole hs hw ha hwait.1.2.1] at hchanged
    exact absurd hwait.1.2.2 hchanged
  have hidentity := recoverSubmission_identity db environment stamp s
  simp only [Submission.identity, Prod.mk.injEq] at hidentity
  have hlegacy : (db.classified environment stamp).LegacySource a.operation a.attemptId :=
    h.stored.legacySource (x := executionOf a) (ha ▸ hpermit)
  have hattempt : (recoverSubmission db environment stamp s).attemptId = a.attemptId :=
    hidentity.2.1.trans ha
  have hmem : recoverSubmission db environment stamp s ∈
      (db.classified environment stamp).submissions := List.mem_map_of_mem hs
  have honly : ∀ r ∈ (db.classified environment stamp).submissions, r.attemptId = a.attemptId →
      r = recoverSubmission db environment stamp s := by
    intro r hr har
    obtain ⟨x, hx, rfl⟩ := List.mem_map.mp hr
    have hid := recoverSubmission_identity db environment stamp x
    simp only [Submission.identity, Prod.mk.injEq] at hid
    rw [h.sole hx hs (hid.2.1.symm.trans har) ha]
  have hlegacyAttempt : (db.classified environment stamp).LegacyAttempt a.attemptId := by
    obtain ⟨t, ht, st, hst, hstep, hid, hop, -⟩ := hlegacy.2.1
    exact ⟨t, ht, st, hst, hstep, hid, by rw [hop, hid]; exact hlegacy⟩
  obtain ⟨t₀, ht₀, st₀, hst₀, hid₀, hstep₀, -, hst₀id, hop₀⟩ := h.stores
  refine ⟨fun q _ => ⟨?_, hlegacy.ownsSubmission hmem hattempt⟩, ⟨?_, ?_⟩, ⟨?_, ?_⟩, h.stored.step,
    h.lane⟩
  · rintro ⟨st, hst, t, ht, r, hr, hstep, har, hq, -, hop⟩
    have hid : t.id = a.attemptId := h.stored.sole t ht st hst hstep.symm hop
    exact honly r hr (har.trans hid) ▸ hq
  · rintro ⟨⟨r, hr, hq, har⟩, -⟩
    exact honly r hr har ▸ hq
  · exact fun hq => ⟨⟨_, hmem, hq, hattempt⟩, hlegacyAttempt⟩
  · rintro ⟨t, ht, r, hr, har, hq, -, hstep⟩
    have hid : t.id = a.attemptId :=
      h.stored.sole t ht st₀ hst₀ (hst₀id.trans (hstep₀.trans hstep.symm)) hop₀
    exact honly r hr (har.trans hid) ▸ hq
  · exact fun hq => ⟨t₀, ht₀, _, hmem, hattempt.trans hid₀.symm, hq, hid₀ ▸ hlegacyAttempt, hstep₀⟩

/-- A clause on the owner of the lane selects it by the operation. -/
theorem Classified.ownerIn_iff (h : Classified a s db) {l : WalletLane}
    (hown : ∀ o ∈ l.operationId, o = a.operation) (q : Submission → Prop) [DecidablePred q] :
    l.OwnerIn (db.OwnsSubmission q) ↔ l.operationId = some a.operation ∧ q s := by
  constructor
  · rintro ⟨o, ho, hq⟩
    obtain rfl := hown o ho
    exact ⟨ho, (h.owns q).mp hq⟩
  · rintro ⟨ho, hq⟩
    exact ⟨_, ho, (h.owns q).mpr hq⟩

/-- The first group of writes frees a first send proved unsent, and reaches no other. -/
theorem Classified.release (h : Classified a s db) :
    standing a (db.releaseFirst db stamp) =
      if s.FirstKnownUnsent then (standing a db).release a.operation else standing a db := by
  split
  · rename_i hfirst
    have howns := (h.owns Submission.FirstKnownUnsent).mpr hfirst
    refine standing_release rfl (fun l hl hw => ?_) rfl (fun x hx => ?_) rfl (fun x hx => ?_) rfl
      (fun x hx => ?_) rfl (fun x hm hx => ?_) rfl fun x hx => ?_
    · exact (h.ownerIn_iff (h.lane l hl hw) _).trans (and_iff_left hfirst)
    · exact hx ▸ howns
    · exact and_iff_right (hx ▸ howns)
    · exact hx ▸ h.attempt.mpr hfirst
    · exact h.operation x hm hx ▸ howns
    · exact hx ▸ howns
  · rename_i hfirst
    have howns := mt (h.owns Submission.FirstKnownUnsent).mp hfirst
    unfold standing
    congr 1
    · exact column_eq rfl (fun _ _ => Iff.rfl) fun l hl hw hc =>
        hfirst ((h.ownerIn_iff (h.lane l hl hw) _).mp hc).2
    · exact column_eq rfl (fun _ _ => Iff.rfl) fun x _ hx hc => howns (hx ▸ hc)
    · exact column_eq rfl (fun _ _ => Iff.rfl) fun x _ hx hc => howns (hx ▸ hc.1)
    · exact column_eq rfl (fun _ _ => Iff.rfl) fun x _ hx hc =>
        hfirst (h.attempt.mp (hx ▸ hc))
    · exact column_eq rfl (fun _ _ => Iff.rfl) fun x hm hx hc =>
        howns (h.operation x hm hx ▸ hc)
    · exact column_eq rfl (fun _ _ => Iff.rfl) fun x _ hx hc => howns (hx ▸ hc)

/-- The second group of writes freezes an ambiguous send and marks its step, and reaches no
other. -/
theorem Classified.freeze (h : Classified a s db) {mid : Db}
    (hmid : mid = db.releaseFirst db stamp) :
    standing a (mid.freezeUnknown db stamp) =
      if s.RecoveredUnknown then
        (((standing a mid).freezeLane a.operation).freezeRisk).markStep .broadcastUnknown
      else standing a mid := by
  have hlane : ∀ l ∈ mid.lanes, l.walletId = a.walletId → ∀ o ∈ l.operationId, o = a.operation := by
    intro l hl hw o ho
    rw [hmid] at hl
    obtain ⟨hl, -⟩ | ⟨k, -, -, rfl⟩ := mem_updateWhere_cases hl
    · exact h.lane l hl hw o ho
    · cases ho
  split
  · rename_i hunknown
    have howns := (h.owns Submission.RecoveredUnknown).mpr hunknown
    have h₁ : standing a { mid with
        lanes := (mid.freezeUnknown db stamp).lanes,
        reservations := (mid.freezeUnknown db stamp).reservations } =
        (standing a mid).freezeLane a.operation :=
      standing_freezeLane rfl
        (fun l hl hw => (h.ownerIn_iff (hlane l hl hw) _).trans (and_iff_left hunknown))
        rfl (fun x hx => hx ▸ howns) rfl rfl rfl rfl
    have h₂ : standing a { mid.freezeUnknown db stamp with steps := mid.steps } =
        ((standing a mid).freezeLane a.operation).freezeRisk := by
      rw [← h₁]
      exact standing_freezeRisk rfl (fun x hx => and_iff_right (hx ▸ howns)) rfl rfl rfl rfl rfl
    rw [← h₂]
    exact standing_markStep rfl (fun _ => ⟨rfl, rfl⟩)
      (fun x _ hx => hx ▸ h.step.mpr hunknown) rfl rfl
      rfl rfl rfl
  · rename_i hunknown
    have howns := mt (h.owns Submission.RecoveredUnknown).mp hunknown
    unfold standing
    congr 1
    · exact column_eq rfl (fun _ _ => Iff.rfl) fun l hl hw hc =>
        hunknown ((h.ownerIn_iff (hlane l hl hw) _).mp hc).2
    · exact column_eq rfl (fun _ _ => Iff.rfl) fun x _ hx hc => howns (hx ▸ hc)
    · exact column_eq rfl (fun _ _ => Iff.rfl) fun x _ hx hc => howns (hx ▸ hc.1)
    · exact column_eq rfl (fun _ _ => Iff.rfl) fun x _ hx hc =>
        hunknown (h.step.mp (hx ▸ hc))

/-- The recovery records the outcome that it classifies the first send as. -/
theorem FirstInFlight.recovers (h : FirstInFlight a sub db) {lease : LeaseFence}
    {clock now : Instant} {o : SubmissionState} {u : Unit} (hs : s ∈ db.submissions)
    (ha : s.attemptId = a.attemptId)
    (ho : (recoverSubmission db lease.environment (formatRFC3339Nano now) s).state = o)
    (hcompared : Compared o) (hok : recoverControlledInflight lease clock now db = .ok (u, db')) :
    standing a db' = (standing a db).record a.operation o := by
  obtain ⟨_, _, hlease, rfl, rfl, -, -⟩ := recoverControlledInflight_iff.mp hok
  obtain ⟨⟨leases, rfl⟩, -⟩ := assertSubmissionLeaseTx_ok hlease
  have h₀ : FirstInFlight a sub { db with leases := leases } :=
    ⟨h.stores, ⟨h.stored.attempt, h.stored.step, h.stored.sole⟩, h.index, h.keys, h.row, h.first,
      h.lane⟩
  have hchanged : (recoverSubmission { db with leases := leases } lease.environment
      (formatRFC3339Nano now) s).state ≠ .submitting := by
    intro hc
    have hstate : o = .submitting := ho.symm.trans hc
    obtain rfl | rfl | rfl := hcompared <;> cases hstate
  have hc := h₀.classified hs ha hchanged
  rw [Db.settleRecovered, hc.freeze rfl, hc.release]
  -- The classifier gives the row one of its two classes, and the row has sequence zero.
  have hsequence : s.sequence = 0 := h.first s hs ha
  obtain he | ⟨-, -, state, c, detail, he, hout⟩ :=
    recoverSubmission_cases { db with leases := leases } lease.environment
      (formatRFC3339Nano now) s
  · obtain ⟨w, hw, hwait⟩ := h.row
    rw [he, h.sole hs hw ha hwait.1.2.1] at hchanged
    exact absurd hwait.1.2.2 hchanged
  · have ho : (recoverSubmission { db with leases := leases } lease.environment
      (formatRFC3339Nano now) s).state = o := ho
    rw [he] at ho ⊢
    subst ho
    obtain ⟨rfl, rfl⟩ | ⟨rfl, rfl⟩ := hout
    · rw [if_neg (by simp [Submission.RecoveredUnknown]),
        if_pos (by simp [Submission.FirstKnownUnsent, hsequence])]
      rfl
    · rw [if_pos (by simp [Submission.RecoveredUnknown]),
        if_neg (by simp [Submission.FirstKnownUnsent])]
      rfl

end Recovery

/-- Every writer, at every time, leads to the given standing: the live writers commit there, and so
does a recovery that commits and classifies the send with the outcome. -/
structure WritersAgree (a : SignedArtifact) (sub : SubmissionRecord) (o : Outcome) (db : Db)
    (v : Standing) : Prop where
  controlled : ∀ now, LeadsTo a db v (finishControlledSubmissionTx a sub o .firstBroadcast now)
  plain : ∀ now, LeadsTo a db v (finishSubmission a sub o now)
  recovered : ∀ lease clock now db', (∃ s ∈ db.submissions, s.attemptId = a.attemptId ∧
      (recoverSubmission db lease.environment (formatRFC3339Nano now) s).state = o.state) →
    recoverControlledInflight lease clock now db = .ok ((), db') → standing a db' = v

/-- The writers of a first send in flight agree exactly if it is known unsent or its exposure and
its step need no further write, and then on the transition that the outcome stands for. -/
theorem outcome_writers_agree_iff (a : SignedArtifact) (sub : SubmissionRecord) (o : Outcome)
    (db : Db) (v : Standing) (h : FirstInFlight a sub db) (ho : Compared o.state) :
    WritersAgree a sub o db v ↔
      Settleable o.state (standing a db) ∧ v = (standing a db).record a.operation o.state := by
  have hrecord : o.state ≠ .knownUnsent → Settleable o.state (standing a db) →
      (standing a db).record a.operation o.state = (standing a db).freezeLane a.operation := by
    intro hk hs
    obtain ⟨hrisk, hmarked⟩ := hs.resolve_left hk
    have hrisk : ((standing a db).freezeLane a.operation).RiskFrozen := hrisk
    have hmarked : ((standing a db).freezeLane a.operation).Marked (frozenStepStatus o.state) :=
      hmarked
    rw [record_of_ne ho hk, Standing.freezeRisk_eq hrisk, Standing.markStep_eq hmarked]
  have hunsent : o.state = .knownUnsent → (standing a db).record a.operation o.state =
      (standing a db).release a.operation := fun hk => by rw [hk]; rfl
  constructor
  · rintro ⟨hcontrolled, hplain, -⟩
    obtain ⟨db₁, hok₁, rfl⟩ := hcontrolled 0
    obtain ⟨db₂, hok₂, hv⟩ := hplain 0
    rw [finishControlledSubmissionTx_standing ho hok₁] at hv ⊢
    rw [finishSubmission_standing ho hok₂] at hv
    by_cases hk : o.state = .knownUnsent
    · rw [if_pos hk]
      exact ⟨.inl hk, (hunsent hk).symm⟩
    · rw [if_neg hk, if_neg hk] at hv
      obtain ⟨hrisk, hmarked⟩ := Standing.settled_of_markStep_eq hv
      have hs : Settleable o.state (standing a db) := .inr ⟨hrisk, hmarked⟩
      rw [if_neg hk, hrecord hk hs, Standing.freezeRisk_eq hrisk]
      exact ⟨hs, rfl⟩
  · rintro ⟨hs, rfl⟩
    refine ⟨fun now => ?_, fun now => ?_, fun lease clock now db' ⟨s, hs, ha, hstate⟩ hok =>
      h.recovers hs ha hstate ho hok⟩
    · obtain ⟨u, db', hok⟩ := finishControlledSubmissionTx_commits (o := o) now h.one h.index
      refine ⟨db', hok, (finishControlledSubmissionTx_standing ho hok).trans ?_⟩
      split
      · exact (hunsent ‹_›).symm
      · rename_i hk
        rw [hrecord hk hs]
        exact Standing.freezeRisk_eq (hs.resolve_left hk).1
    · obtain ⟨u, db', hok⟩ := finishSubmission_commits now ho h.one h.index hs
      refine ⟨db', hok, (finishSubmission_standing ho hok).trans ?_⟩
      split
      · exact (hunsent ‹_›).symm
      · rename_i hk
        rw [hrecord hk hs]
        exact Standing.markStep_eq (hs.resolve_left hk).2

/-! ## A first send of the controlled worker -/

/-- 2026-01-01T00:00:00Z. -/
def newYear : Instant := 1767225600000000000

/-- A signed execution of the controlled worker, its first permit consumed. -/
def permittedDb : Db :=
  { operations := [{ id := "op", walletId := "wallet", status := .signedPrebroadcast }],
    steps := [{ id := "step", operationId := "op", stepIndex := 1, status := .signed,
                walletId := some "wallet" }],
    attempts := [{ id := "attempt", stepId := "step", nonce := 7, status := .signed,
                   walletId := "wallet", payload := some { txHash := "0xtx" } }],
    lanes := [{ walletId := "wallet", state := .signed, operationId := some "op",
                stepId := some "step", reservedNonce := some 7 }],
    reservations := [{ operationId := "op", stepId := "step", walletId := "wallet",
                       status := .signed }],
    riskReservations := [{ id := "risk", operationId := "op", walletId := "wallet",
                           tokenAddress := "0xtoken", policyVersion := 1, inputAmount := "5",
                           state := .reserved }],
    admissionSources := [{ operationId := "op", walletId := "wallet", sourceHash := "source" }],
    authorizations := [{ id := "auth", epoch := 1, state := .armed, walletId := "wallet",
                         policyVersion := 1, deployment := { environment := "prod" },
                         expiresAt := "2026-01-02T00:00:00Z" }],
    permits := [{ id := "permit", operationId := "op", attemptId := "attempt",
                  authorizationId := "auth", authorizationEpoch := 1, purpose := .firstBroadcast,
                  artifactHash := "artifact", txHash := "0xtx", state := .consumed,
                  expiresAt := "2026-01-01T00:00:30Z" }],
    leases := [{ role := .submission, environment := "prod", holderId := "worker",
                 leaseEpoch := 2, expiresAt := "2026-01-01T01:00:00Z" }] }

/-- Its first send in flight; `intent` says whether the send intent was recorded. -/
def inFlightDb (intent : Option String) : Db :=
  { permittedDb with
    submissions := [{ id := "sub", attemptId := "attempt", txHash := "0xtx", sequence := 0,
                      state := .submitting, createdAt := "2026-01-01T00:00:00Z",
                      updatedAt := "2026-01-01T00:00:00Z", sendIntentAt := intent }] }

def permittedArtifact : SignedArtifact :=
  { attemptId := "attempt", operation := "op", stepId := "step", walletId := "wallet", nonce := 7,
    payload := { txHash := "0xtx" } }

def firstSub : SubmissionRecord := ⟨"sub", "attempt", "0xtx", 0, .submitting⟩

theorem permittedDb_stored : (executionOf permittedArtifact).Stored permittedDb :=
  ⟨by decide, by decide, by decide⟩

theorem inFlightDb_first (intent : Option String) :
    FirstInFlight permittedArtifact firstSub (inFlightDb intent) where
  stores := ⟨_, List.mem_singleton_self _, _, List.mem_singleton_self _, rfl, rfl, rfl, rfl, rfl⟩
  stored := ⟨permittedDb_stored.attempt, permittedDb_stored.step, permittedDb_stored.sole⟩
  index := (by decide : UnresolvedOnce permittedDb.steps)
  keys := List.pairwise_singleton _ _
  row := ⟨_, List.mem_singleton_self _, ⟨rfl, rfl, rfl⟩, rfl⟩
  first := fun s hs _ => List.mem_singleton.mp hs ▸ rfl
  lane := fun l hl _ _ ho => by
    obtain rfl := List.mem_singleton.mp hl
    exact (Option.mem_some.mp ho).symm

/-- The worker that takes over after a crash. -/
def successor : LeaseFence := ⟨"prod", "worker", 2⟩

theorem outcome_writers_agree_unsent :
    let db := inFlightDb none
    let later := newYear + 60000000000
    ∃ db', recoverControlledInflight successor later later db = .ok ((), db') ∧
      standing permittedArtifact db' = (standing permittedArtifact db).record "op"
      .knownUnsent := by
  intro db later
  obtain ⟨u, db', hok⟩ :=
    Tx.Commits.of_isOk (m := recoverControlledInflight successor later later) (s := db)
      (by decide +kernel)
  have hagree := (outcome_writers_agree_iff permittedArtifact firstSub
    { state := .knownUnsent, failureClass := some .deterministicRejection } db _
    (inFlightDb_first none) (by decide)).mpr ⟨.inl rfl, rfl⟩
  exact ⟨db', hok, hagree.recovered successor later later db'
    ⟨_, List.mem_singleton_self _, rfl, by decide +kernel⟩ hok⟩

/-- The transport's answer was lost. Recorded by the controlled writer the step stays signed, by the
plain writer the exposure stays reserved, and crash recovery writes both. -/
theorem lost_answer_recorded_apart :
    let db := inFlightDb (some "2026-01-01T00:00:01Z")
    let later := newYear + 60000000000
    let lost : Outcome := { state := .broadcastUnknown, failureClass := some .ambiguousTransport }
    let controlled := standing permittedArtifact
      ((finishControlledSubmissionTx permittedArtifact firstSub lost .firstBroadcast
      later).stateAfter db)
    let plain := standing permittedArtifact
      ((finishSubmission permittedArtifact firstSub lost later).stateAfter db)
    let recovered := standing permittedArtifact
      ((recoverControlledInflight successor later later).stateAfter db)
    FirstInFlight permittedArtifact firstSub db ∧
      (controlled.steps = [.signed] ∧ controlled.risks = [.frozen]) ∧
      (plain.steps = [.broadcastUnknown] ∧ plain.risks = [.reserved]) ∧
      (recovered.steps = [.broadcastUnknown] ∧ recovered.risks = [.frozen]) :=
  ⟨inFlightDb_first _, by decide +kernel, by decide +kernel, by decide +kernel⟩

end RbhTrade.Settlement
