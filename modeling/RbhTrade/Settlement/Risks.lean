import RbhTrade.Canary.Admissions
import RbhTrade.Settlement.Expiries

/-!
# The risk reservation of a finished operation

`AdmitControlledCanary` reserves the risk of an operation once, and while the reservation is
reserved or frozen it keeps the wallet's place and counts in the sums of the policy. A send that is
known unsent releases it and an ambiguous one freezes it. The settlement of a receipt and the two
expiries do not write the table at all, so an operation that ends there keeps its reservation for
good. The admission does not look at the status of its operation either.

Where no call settles or expires an operation that a call admitted before, no first send of an
operation with a frozen reservation is found unsent, and none is admitted after its end, a finished
operation holds no active reservation.
-/

namespace RbhTrade

/-- The operation is over. -/
def OperationStatus.Finished (s : OperationStatus) : Prop :=
  s = .canonicalSuccess ∨ s = .canonicalRevert ∨ s = .knownUnsent ∨ s = .expiredPrebroadcast
deriving Decidable

namespace Settlement

open Tables GoTime

/-! ## Calls -/

/-- The operation has a risk reservation in a state. -/
def RiskIn (q : RiskState → Prop) (db : Db) (operation : String) : Prop :=
  ∃ r ∈ db.riskReservations, r.operationId = operation ∧ q r.state

instance (q : RiskState → Prop) [DecidablePred q] (db : Db) (operation : String) :
    Decidable (RiskIn q db operation) := inferInstanceAs (Decidable (∃ _, _ ∈ _ ∧ _))

/-- The operation is over. -/
def FinishedIn (db : Db) (operation : String) : Prop :=
  ∃ o ∈ db.operations, o.id = operation ∧ o.status.Finished
deriving Decidable

/-- A transaction of the controlled path. -/
inductive RiskCall where
  | admission (hook : CanaryStage → Option Err) (r : CanaryRequest) (now : Instant)
  | execution (call : ExecutionCall)
  /-- Any change of the tables other than operations and risk reservations. -/
  | others (new : Db)

/-- The database after a transaction. -/
def riskStep (canary : CanaryHost) (host : ServiceHost) (views : ManualViews) (db : Db) :
    RiskCall → Db
  | .admission hook r now => (admitControlledCanary canary hook r now).stateAfter db
  | .execution call => executionStep host views db call
  | .others new => { new with operations := db.operations, riskReservations := db.riskReservations }

/-- No finished operation has a reservation that is reserved or frozen. -/
def FinishedHoldNoRisk (db : Db) : Prop :=
  ∀ o ∈ db.operations, o.status.Finished → ¬ RiskIn RiskState.Active db o.id

/-- The operation that the call asks to admit. -/
def RiskCall.admits : RiskCall → Option String
  | .admission _ r _ => some r.operationId
  | _ => none

/-- The operation that the call asks to settle or to expire. -/
def RiskCall.ends : RiskCall → Option String
  | .execution (.expireUnreserved operation _) => some operation
  | .execution (.lane (.expirePreBroadcast a ..)) => some a.operation
  | .execution (.lane (.receipt a (.canonicalize ..))) => some a.operation
  | _ => none

/-- The later call does not end what the earlier one admits. -/
def RiskCall.Spares (earlier later : RiskCall) : Prop :=
  earlier.admits = none ∨ earlier.admits ≠ later.ends
deriving Decidable

/-- The transaction does not find the first send of an operation with a frozen reservation unsent,
and gives no admission to an operation that is over. -/
def EndsRisk (db : Db) : RiskCall → Prop
  | .admission _ r _ => ¬ FinishedIn db r.operationId
  | .execution (.lane (.finishSubmission a _ o _)) =>
      o.state = .knownUnsent → ¬ RiskIn (· = .frozen) db a.operation
  | .execution (.sendGate work _ _ a ..) =>
      work.purpose ≠ .unknownReplay → ¬ RiskIn (· = .frozen) db a.operation
  | .execution (.sendOutcome work _ a ..) =>
      work.purpose ≠ .unknownReplay → ¬ RiskIn (· = .frozen) db a.operation
  | .execution (.recover ..) => ∀ o ∈ db.operations, db.OwnsSubmission Submission.NotBegun o.id →
      ¬ RiskIn (· = .frozen) db o.id
  | _ => True

instance (db : Db) : DecidablePred (EndsRisk db) := fun call => by
  unfold EndsRisk
  split <;> infer_instance

/-! ## One transaction -/

section Step

variable {host : ServiceHost} {db db' : Db}

/-- An operation that is over was over before, or holds nothing now, and no reservation becomes
active. -/
theorem FinishedHoldNoRisk.step (h : FinishedHoldNoRisk db)
    (hops : ∀ o ∈ db'.operations, o.status.Finished →
      FinishedIn db o.id ∨ ¬ RiskIn RiskState.Active db' o.id)
    (hrisk : ∀ operation, FinishedIn db operation → RiskIn RiskState.Active db' operation →
      RiskIn RiskState.Active db operation) : FinishedHoldNoRisk db' := by
  intro o ho hfinished hactive
  obtain hwas | hno := hops o ho hfinished
  · have hbefore := hrisk o.id hwas hactive
    obtain ⟨x, hx, hid, hover⟩ := hwas
    rw [← hid] at hbefore
    exact h x hx hover hbefore
  · exact hno hactive

/-- Some operations get a status. Those that end hold nothing. -/
theorem FinishedHoldNoRisk.update (h : FinishedHoldNoRisk db) {p : Operation → Prop}
    [DecidablePred p]
    {f : Operation → Operation} (hops : db'.operations = updateWhere p f db.operations)
    (hf : ∀ o, (f o).id = o.id)
    (hends : ∀ o ∈ db.operations, p o → (f o).status.Finished → ¬ RiskIn RiskState.Active db' o.id)
    (hrisk : ∀ operation, RiskIn RiskState.Active db' operation →
      RiskIn RiskState.Active db operation) : FinishedHoldNoRisk db' := by
  refine h.step (fun o ho hfinished => ?_) fun operation _ => hrisk operation
  rw [hops] at ho
  obtain ⟨ho, -⟩ | ⟨x, hx, hp, rfl⟩ := mem_updateWhere_cases ho
  · exact .inl ⟨o, ho, rfl, hfinished⟩
  · refine .inr ?_
    rw [hf]
    exact hends x hx hp hfinished

theorem FinishedHoldNoRisk.same (h : FinishedHoldNoRisk db) (hops : db'.operations = db.operations)
    (hrisk : ∀ operation, RiskIn RiskState.Active db' operation →
      RiskIn RiskState.Active db operation) : FinishedHoldNoRisk db' :=
  fun o ho hfinished hactive => h o (hops ▸ ho) hfinished (hrisk o.id hactive)

theorem riskIn_same {q : RiskState → Prop} (hr : db'.riskReservations = db.riskReservations)
    (operation : String) (h : RiskIn q db' operation) : RiskIn q db operation := by
  unfold RiskIn at h
  rwa [hr] at h

/-- An update that makes no reservation active. -/
theorem riskIn_update {p : RiskReservation → Prop} [DecidablePred p]
    {f : RiskReservation → RiskReservation}
    (hr : db'.riskReservations = updateWhere p f db.riskReservations)
    (hf : ∀ r, p r → (f r).operationId = r.operationId ∧ ((f r).state.Active → r.state.Active))
    (operation : String) (h : RiskIn RiskState.Active db' operation) :
    RiskIn RiskState.Active db operation := by
  obtain ⟨r, hm, hop, hactive⟩ := h
  rw [hr] at hm
  obtain ⟨hm, -⟩ | ⟨x, hx, hp, rfl⟩ := mem_updateWhere_cases hm
  · exact ⟨r, hm, hop, hactive⟩
  · exact ⟨x, hx, (hf x hp).1.symm.trans hop, (hf x hp).2 hactive⟩

/-- Once what is reserved is released, only a frozen reservation can be active. -/
theorem not_active_released {operation stamp : String} {q : String → Prop} [DecidablePred q]
    (hq : q operation) (hfrozen : ¬ RiskIn (· = .frozen) db operation) :
    ∀ r ∈ updateWhere (fun r => q r.operationId ∧ r.state = .reserved)
      (fun r => { r with state := .released, updatedAt := stamp }) db.riskReservations,
      r.operationId = operation → ¬ r.state.Active := by
  intro r hr hop hactive
  obtain ⟨hr, hno⟩ | ⟨x, -, -, rfl⟩ := mem_updateWhere_cases hr
  · obtain hs | hs := hactive
    · exact hno ⟨hop ▸ hq, hs⟩
    · exact hfrozen ⟨r, hr, hop, hs⟩
  · exact absurd hactive (show ¬ RiskState.Active .released by decide)

theorem EndsRisk.unfrozen {call : ExecutionCall} (h : EndsRisk db (.execution call))
    (hrel : call.Releases) {a : SignedArtifact} (ha : call.outcomeOf = some a) :
    ¬ RiskIn (· = .frozen) db a.operation := by
  unfold ExecutionCall.outcomeOf at ha
  split at ha
  all_goals cases ha
  all_goals exact h hrel

theorem FinishedHoldNoRisk.recover (h : FinishedHoldNoRisk db) {environment stamp : String}
    (hr : Recovered environment stamp db db')
    (hok : ∀ o ∈ db.operations, db.OwnsSubmission Submission.NotBegun o.id →
      ¬ RiskIn (· = .frozen) db o.id) : FinishedHoldNoRisk db' := by
  refine h.update hr.operations (fun _ => rfl) (fun o ho hfirst _ => ?_) fun operation hactive => ?_
  · rintro ⟨r, hm, hop, hactive⟩
    have hunfrozen := hok o ho (hr.owns (fun _ => notBegun_of_recovered) hfirst)
    rw [hr.riskReservations] at hm
    obtain ⟨hm, -⟩ | ⟨x, hx, hp, rfl⟩ := mem_updateWhere_cases hm
    · exact not_active_released hfirst hunfrozen r hm hop hactive
    · exact not_active_released hfirst hunfrozen x hx hop hp.2
  · -- Both groups of writes look only at reservations that are active already.
    obtain ⟨r, hm, hop, hactive⟩ := hactive
    rw [hr.riskReservations] at hm
    have hmid : ∃ x ∈ updateWhere
        (fun r => db'.OwnsSubmission Submission.FirstKnownUnsent r.operationId ∧
        r.state = .reserved)
        (fun r => { r with state := .released, updatedAt := stamp }) db.riskReservations,
        x.operationId = operation ∧ x.state.Active := by
      obtain ⟨hm, -⟩ | ⟨x, hx, hp, rfl⟩ := mem_updateWhere_cases hm
      · exact ⟨r, hm, hop, hactive⟩
      · exact ⟨x, hx, hop, hp.2⟩
    obtain ⟨x, hx, hxop, hxactive⟩ := hmid
    obtain ⟨hx, -⟩ | ⟨y, -, -, rfl⟩ := mem_updateWhere_cases hx
    · exact ⟨x, hx, hxop, hxactive⟩
    · exact absurd hxactive (show ¬ RiskState.Active .released by decide)

/-- The operations that were admitted. -/
def riskOperations (db : Db) : List String := db.riskReservations.map (·.operationId)

theorem riskOperations_same (hr : db'.riskReservations = db.riskReservations) :
    riskOperations db' = riskOperations db := by
  unfold riskOperations
  rw [hr]

theorem riskOperations_update {p : RiskReservation → Prop} [DecidablePred p]
    {f : RiskReservation → RiskReservation}
    (hr : db'.riskReservations = updateWhere p f db.riskReservations)
    (hf : ∀ r, (f r).operationId = r.operationId) : riskOperations db' = riskOperations db := by
  unfold riskOperations
  rw [hr]
  exact map_updateWhere _ fun r _ => hf r

/-- Only an admission reserves the risk of an operation. -/
theorem riskOperations_wrote {call : ExecutionCall} (hw : Wrote host db call db') :
    riskOperations db' = riskOperations db := by
  cases hw with
  | beside hs | opened hs | marked hs => exact riskOperations_same hs.riskReservations
  | reserved _ _ _ hrisk => exact riskOperations_same hrisk
  | canonicalized _ hc => exact riskOperations_same hc.riskReservations
  | orphaned _ ho => exact riskOperations_same ho.riskReservations
  | released => exact riskOperations_update rfl fun _ => rfl
  | frozenRisk => exact riskOperations_update rfl fun _ => rfl
  | recovered hr =>
      unfold riskOperations
      simp only [hr.riskReservations, Db.settleRecovered, Db.freezeUnknown, Db.releaseFirst]
      rw [map_updateWhere, map_updateWhere] <;> exact fun _ _ => rfl
  | _ => rfl

theorem FinishedHoldNoRisk.wrote (h : FinishedHoldNoRisk db) {call : ExecutionCall}
    (hends : ∀ x, RiskCall.ends (.execution call) = some x → ¬ RiskIn RiskState.Active db x)
    (hok : EndsRisk db (.execution call)) (hw : Wrote host db call db') :
    FinishedHoldNoRisk db' := by
  cases hw with
  | nothing => exact h
  | beside hs ho => exact h.same ho (riskIn_same hs.riskReservations)
  | admitted _ hstatus =>
      refine h.step (fun x hx hc => ?_) fun operation _ hactive => hactive
      obtain hx | hx := List.mem_append.mp hx
      · exact .inl ⟨x, hx, rfl, hc⟩
      · rw [List.mem_singleton.mp hx, hstatus] at hc
        exact absurd hc (by decide)
  | dryRun _ ho =>
      refine h.update rfl (fun o => (ho o).1) (fun o _ _ hc => ?_) (riskIn_same rfl)
      obtain hs | hs | hs := (ho o).2 <;> rw [hs] at hc <;> exact absurd hc (by decide)
  | unreserved =>
      refine h.update rfl (fun _ => rfl) (fun o _ hp _ => ?_) (riskIn_same rfl)
      rw [hp.1]
      exact hends _ rfl
  | reserved _ _ hm hrisk =>
      refine h.update hm.operations (fun _ => rfl) (fun _ _ _ hc => ?_) (riskIn_same hrisk)
      exact absurd hc (show ¬ OperationStatus.Finished .executionPrepared by decide)
  | signed =>
      refine h.update rfl (fun _ => rfl) (fun _ _ _ hc => ?_) (riskIn_same rfl)
      exact absurd hc (show ¬ OperationStatus.Finished .signedPrebroadcast by decide)
  | opened hs ho => exact h.same ho (riskIn_same hs.riskReservations)
  | marked hs ho => exact h.same ho (riskIn_same hs.riskReservations)
  | settled => exact h.same rfl (riskIn_same rfl)
  | released leases hout hstate hrel =>
      refine h.update rfl (fun _ => rfl) (fun o _ hp _ => ?_) (riskIn_update rfl fun r hr => ?_)
      · rintro ⟨r, hm, hop, hactive⟩
        exact not_active_released (q := (· = _)) rfl (hok.unfrozen hrel hout.of) r hm (hop.trans hp)
          hactive
      · exact ⟨rfl, fun hc => absurd hc (show ¬ RiskState.Active .released by decide)⟩
  | frozen => exact h.same rfl (riskIn_same rfl)
  | frozenRisk => exact h.same rfl (riskIn_update rfl fun r hr => ⟨rfl, fun _ => hr.2⟩)
  | froze => exact h.same rfl (riskIn_same rfl)
  | expired =>
      refine h.update rfl (fun _ => rfl) (fun o _ hp _ => ?_) (riskIn_same rfl)
      rw [show o.id = _ from hp]
      exact hends _ rfl
  | canonicalized _ hc =>
      refine h.update hc.operations (fun _ => rfl) (fun o _ hp _ hactive => ?_)
        (riskIn_same hc.riskReservations)
      rw [show o.id = _ from hp] at hactive
      exact hends _ rfl (riskIn_same hc.riskReservations _ hactive)
  | orphaned _ ho => exact h.same ho.operations (riskIn_same ho.riskReservations)
  | recovered hr => exact h.recover hr hok

theorem FinishedHoldNoRisk.admission (h : FinishedHoldNoRisk db) {canary : CanaryHost}
    {r : CanaryRequest}
    {now : Instant} {reply : CanaryDecision × Option Err} (hok : ¬ FinishedIn db r.operationId)
    (hd : CanaryDecided canary r now db reply db') : FinishedHoldNoRisk db' := by
  cases hd with
  | repeated => exact h
  | refused => exact h
  | admitted s p reserved gasBudget events attempts fresh admissible =>
      refine h.step (fun o ho hc => .inl ⟨o, ho, rfl, hc⟩) fun operation hfinished hactive => ?_
      obtain ⟨x, hx, hop, hstate⟩ := hactive
      obtain hx | hx := List.mem_append.mp hx
      · exact ⟨x, hx, hop, hstate⟩
      · -- The new reservation is for the operation of the request, which is not over.
        rw [List.mem_singleton.mp hx] at hop
        have hsame : s.operationId = operation := hop
        rw [← admissible.isFor.1, hsame] at hok
        exact absurd hfinished hok

end Step

/-! ## Runs -/

section Runs

variable {canary : CanaryHost} {host : ServiceHost} {views : ManualViews}

/-- What is reserved after a call was reserved before it, or is what it admits. -/
theorem riskOperations_step (db : Db) (call : RiskCall) {x : String}
    (hx : x ∈ riskOperations (riskStep canary host views db call)) :
    x ∈ riskOperations db ∨ call.admits = some x := by
  cases call with
  | admission hook r now =>
      refine Tx.stateAfter_cases (fun db' => x ∈ riskOperations db' → _) .inl
        (fun reply db' hd hx => ?_) hx
      cases admitControlledCanary_ok hd with
      | repeated => exact .inl hx
      | refused => exact .inl hx
      | admitted s p reserved gasBudget events attempts fresh admissible =>
          obtain ⟨y, hy, rfl⟩ := List.mem_map.mp hx
          obtain hy | hy := List.mem_append.mp hy
          · exact .inl (List.mem_map_of_mem hy)
          · rw [List.mem_singleton.mp hy]
            exact .inr (congrArg some admissible.isFor.1.symm)
  | execution call =>
      exact .inl (riskOperations_wrote (executionStep_wrote host views db call) ▸ hx)
  | others new => exact .inl hx

/-- In the state of a call no operation that a later call ends was admitted. -/
theorem FinishedHoldNoRisk.run {calls : List RiskCall} {db : Db} (h : FinishedHoldNoRisk db)
    (hfree : ∀ x ∈ riskOperations db, ∀ call ∈ calls, call.ends ≠ some x)
    (hspares : calls.Pairwise RiskCall.Spares)
    (hok : Run.Along (riskStep canary host views) EndsRisk db calls) :
    FinishedHoldNoRisk (calls.foldl (riskStep canary host views) db) := by
  induction calls generalizing db with
  | nil => exact h
  | cons call calls ih =>
      obtain ⟨hhead, htail⟩ := List.pairwise_cons.mp hspares
      refine ih ?_ (fun x hx c hc hends => ?_) htail hok.2
      · cases call with
        | admission hook r now =>
            exact Tx.stateAfter_cases FinishedHoldNoRisk h fun reply db' hd =>
              h.admission hok.1 (admitControlledCanary_ok hd)
        | execution call =>
            refine h.wrote (fun x hx ⟨r, hr, hop, _⟩ => ?_) hok.1
              (executionStep_wrote host views db call)
            exact hfree x (List.mem_map.mpr ⟨r, hr, hop⟩) _ List.mem_cons_self hx
        | others new => exact h
      · obtain hx | hx := riskOperations_step db call hx
        · exact hfree x hx c (List.mem_cons_of_mem call hc) hends
        · obtain hnone | hne := hhead c hc
          · rw [hx] at hnone
            cases hnone
          · exact hne (hx.trans hends.symm)

end Runs

/-- From a database without risk reservations, in a run in which no call settles or expires an
operation that an earlier one admitted, no first send of an operation with a frozen reservation is
found unsent, and none is admitted after its end, a finished operation holds no active
reservation. -/
theorem finished_operation_holds_no_risk (canary : CanaryHost) (host : ServiceHost)
    (views : ManualViews) (db : Db) (hnew : db.riskReservations = []) (calls : List RiskCall)
    (hspares : calls.Pairwise RiskCall.Spares)
    (hok : Run.Along (riskStep canary host views) EndsRisk db calls) (n : Nat) :
    FinishedHoldNoRisk ((calls.take n).foldl (riskStep canary host views) db) := by
  refine FinishedHoldNoRisk.run ?_ (fun x hx => ?_) (hspares.sublist (List.take_sublist n calls))
    (hok.take n)
  · rintro o - - ⟨r, hr, -⟩
    rw [hnew] at hr
    cases hr
  · rw [riskOperations, hnew] at hx
    cases hx

/-! ### An admitted operation -/

/-- Operation `a` passed its dry run, and two operations of its wallet may be admitted. -/
def canaryDb : Db :=
  { Canary.seededDb with
    operations := ttlDb.operations, dryRunWallets := ttlDb.dryRunWallets, steps := ttlDb.steps,
    dryRunResults := ttlDb.dryRunResults, walletAllowlist := [⟨"wallet", "", 1, true⟩],
    admissionSources := [Canary.sourceOf "a" "wallet" 1, Canary.sourceOf "b" "wallet" 1] }

/-- A time in the year 2026. -/
def admissionTime : Instant := 1790467200000000000

def admitOp (operation : String) : RiskCall :=
  .admission (fun _ => none) (Canary.requestOf operation operation "wallet" 1) admissionTime

def admitted (calls : List LaneCall) : List RiskCall :=
  admitOp "a" :: calls.map fun call => .execution (.lane call)

/-- Operation `a` is admitted and its send is rejected. -/
def admittedUnsent : List RiskCall :=
  admitted [reserveOp "a" 7, signA, .beginSubmission artifactA false 0,
    finishA 0 { state := .knownUnsent }]

theorem rejected_send_ends_risk :
    (admittedUnsent.foldl (riskStep Canary.plainHost ServiceHost.plain {}) canaryDb).operations.map
      (·.status) = [.knownUnsent] ∧
    FinishedHoldNoRisk ((admittedUnsent.take 5).foldl
      (riskStep Canary.plainHost ServiceHost.plain {}) canaryDb) :=
  ⟨by decide +kernel, finished_operation_holds_no_risk Canary.plainHost ServiceHost.plain
    {} canaryDb rfl
    admittedUnsent (by decide) (by decide +kernel) 5⟩

/-- The status of the operations, the states of the risk reservations, and the answer to the
admission of another operation of the wallet. -/
def riskLeft (calls : List RiskCall) : List OperationStatus × List RiskState × String :=
  let db := calls.foldl (riskStep Canary.plainHost ServiceHost.plain {}) canaryDb
  (db.operations.map (·.status), db.riskReservations.map (·.state),
    match admitControlledCanary Canary.plainHost (fun _ => none)
      (Canary.requestOf "b" "b" "wallet" 1) admissionTime db with
    | .ok (reply, _) => reply.1.reasonCode
    | .error _ => "")

/-- The settlement of a receipt and the expiry before the send leave the reservation, and the wallet
is busy. An operation that is over can be admitted. -/
theorem settled_operation_keeps_risk :
    riskLeft (admitted settleA) = ([.canonicalSuccess], [.reserved], "WALLET_LANE_BUSY") ∧
    riskLeft (admitted [reserveOp "a" 7, signA, .expirePreBroadcast artifactA none 0]) =
      ([.expiredPrebroadcast], [.reserved], "WALLET_LANE_BUSY") ∧
    riskLeft ((admitted settleA).tail ++ [admitOp "a"]) =
      ([.canonicalSuccess], [.reserved], "WALLET_LANE_BUSY") := by
  decide +kernel

end Settlement

end RbhTrade
