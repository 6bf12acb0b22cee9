import RbhTrade.Settlement.Lanes
import RbhTrade.Store.ControlledSubmission
import RbhTrade.Store.DryRun

/-!
# The transactions of an execution

An execution that is not MANUAL is written by the dry run, the kernel, the two submission services,
the crash recovery and the settlement of receipts. A call of a service is a sequence of these
transactions and may stop after any of them, so a run of transactions covers every interleaving of
calls and every crash. This module says once what each transaction writes.
-/

namespace RbhTrade

open Tables GoTime

namespace Settlement

/-! ## Calls -/

/-- A transaction of an execution that is not MANUAL. -/
inductive ExecutionCall where
  | admitDryRun (r : DecodedRequest) (now : Instant)
  | markRunning (operation step : String) (route : CurveRoute) (parameters : ExecutionParameters)
      (call : UnsignedCall) (block : BlockRef) (policyVersion : Nat) (expiresAt : String)
      (now : Instant)
  | finishDryRun (r : DryRunResult) (success : Bool) (now : Instant)
  | expireUnreserved (operation : String) (now : Instant)
  | lane (call : LaneCall)
  | beginControlled (v : RuntimeGateSnapshot) (work : ControlledSubmissionWork) (lease : LeaseFence)
      (clock now : Instant)
  | markIntent (work : ControlledSubmissionWork) (v : RuntimeGateSnapshot) (sub : SubmissionRecord)
      (lease : LeaseFence) (clock now : Instant)
  | sendGate (work : ControlledSubmissionWork) (v : RuntimeGateSnapshot) (sub : SubmissionRecord)
      (a : SignedArtifact) (lease : LeaseFence) (clock now : Instant)
  | sendOutcome (work : ControlledSubmissionWork) (sub : SubmissionRecord) (a : SignedArtifact)
      (answer : Answer) (now : Instant)
  | recover (lease : LeaseFence) (clock now : Instant)

/-- The outcome that a transaction of the plain service records is one that ends the flight of a
row. -/
def LaneCall.Ends : LaneCall → Prop
  | .finishSubmission _ _ o _ => o.Ends
  | _ => True

instance : DecidablePred LaneCall.Ends
  | .finishSubmission .. => inferInstanceAs (Decidable (_ ∧ _))
  | .reserveExecution .. | .commitSigned .. | .beginSubmission .. | .expirePreBroadcast ..
  | .freezeExecution .. | .receipt .. => inferInstanceAs (Decidable True)

/-- The database after a transaction. An artifact names the stored rows of its operation. -/
def executionStep (host : ServiceHost) (views : ManualViews) (db : Db) : ExecutionCall → Db
  | .admitDryRun r now => (admitDryRun host r now).stateAfter db
  | .markRunning operation step route parameters call block policyVersion expiresAt now =>
      (markRunning operation step route parameters call block policyVersion expiresAt
        now).stateAfter db
  | .finishDryRun r success now =>
      (if success = true then completeDryRun r now else failClosed r now).stateAfter db
  | .expireUnreserved operation now => (expireUnreserved operation now).stateAfter db
  | .lane call => if LaneCall.Ends call then laneStep host.toHost views db call else db
  | .beginControlled v work lease clock now =>
      (beginControlledSubmissionAfterGate host.toHost v work lease clock now).stateAfter db
  | .markIntent work v sub lease clock now =>
      (markControlledSendIntent host.toHost work v sub lease clock now).stateAfter db
  | .sendGate work v sub a lease clock now =>
      if db.Stores a then
        (controlledSendGateTx host.toHost work v sub a lease clock now).stateAfter db
      else db
  | .sendOutcome work sub a answer now =>
      if db.Stores a then
        (controlledSendOutcomeTx host.toHost work sub a now answer).stateAfter db
      else db
  | .recover lease clock now => (recoverControlledInflight lease clock now).stateAfter db

/-! ## What a call writes -/

/-- The artifact whose outcome a call records. -/
def ExecutionCall.outcomeOf : ExecutionCall → Option SignedArtifact
  | .lane (.finishSubmission a ..) => some a
  | .sendGate _ _ _ a .. => some a
  | .sendOutcome _ _ a .. => some a
  | _ => none

/-- The outcome that the call records may release what the execution holds. -/
def ExecutionCall.Releases : ExecutionCall → Prop
  | .lane (.finishSubmission _ _ o _) => o.state = .knownUnsent
  | .sendGate work .. => work.purpose ≠ .unknownReplay
  | .sendOutcome work .. => work.purpose ≠ .unknownReplay
  | _ => False

/-- The outcome of a send, as a call finds its row. -/
structure Outcomes (call : ExecutionCall) (db : Db) (a : SignedArtifact) (id : String)
    (o : Outcome) :
    Prop where
  of : call.outcomeOf = some a
  stored : db.Stores a
  one : affected (·.AwaitsOutcome id a) db.submissions = 1
  ends : o.Ends

/-- What a call writes to the tables of the executions. -/
inductive Wrote (host : ServiceHost) (db : Db) : ExecutionCall → Db → Prop where
  | nothing (call : ExecutionCall) : Wrote host db call db
  /-- Only tables beside the executions. -/
  | beside {call : ExecutionCall} {db' : Db} (same : db.SameHoldings db')
      (operations : db'.operations = db.operations)
      (submissions : db'.submissions = db.submissions) : Wrote host db call db'
  | admitted {r : DecodedRequest} {now : Instant} {o : Operation} {s : ExecutionStep}
      (fresh : ∀ x ∈ db.operations, x.id ≠ o.id) (status : o.status = .admitted)
      (index : s.stepIndex = 0) (wallet : s.walletId = none) (resolved : ¬ s.status.Unresolved)
      (free : ∀ x ∈ db.steps, ¬ StepConflict x s) :
      Wrote host db (.admitDryRun r now)
        { db with operations := db.operations ++ [o], steps := db.steps ++ [s] }
  | dryRun {call : ExecutionCall} {operation : String} {f : Operation → Operation}
      {g : ExecutionStep → ExecutionStep} {p : ExecutionStep → Prop} [DecidablePred p]
      (results : List DryRunResultRow) (operations : ∀ o, (f o).id = o.id ∧
        ((f o).status = .executing ∨ (f o).status = .dryRunSucceeded ∨
          (f o).status = .dryRunFailed))
      (steps : ∀ s, (g s).identity = s.identity)
      (index : UnresolvedOnce (updateWhere p g db.steps)) :
      Wrote host db call
        { db with
          operations := updateWhere (·.id = operation) f db.operations,
          steps := updateWhere p g db.steps, dryRunResults := results }
  | unreserved {operation : String} {now : Instant}
      (free : ∀ t ∈ db.attempts, ∀ s ∈ db.steps, s.id = t.stepId → s.operationId ≠ operation) :
      Wrote host db (.expireUnreserved operation now)
        (db.expireUnreserved operation (formatRFC3339Nano now))
  | reserved {operation walletId signer : String} {nonce : Nat} {asset amount gas : String}
      {now : Instant} {db' : Db}
      (found : ∃ o ∈ db.operations, o.id = operation ∧ o.walletId = walletId)
      (lane : LaneReserved operation walletId signer (formatRFC3339Nano now) db db')
      (made : ReservationMade host.toHost operation walletId nonce (formatRFC3339Nano now) db db')
      (risk : db'.riskReservations = db.riskReservations) :
      Wrote host db
        (.lane (.reserveExecution operation walletId signer nonce asset amount gas now)) db'
  | signed {reservation : ReservedExecution} {a : SignedArtifact} {now : Instant}
      (stored : db.Stores a) (prepared : ∃ t ∈ db.attempts, t.PreparedFor a)
      (index : UnresolvedOnce (db.sign a (formatRFC3339Nano now)).steps) :
      Wrote host db (.lane (.commitSigned reservation a now)) (db.sign a (formatRFC3339Nano now))
  | opened {call : ExecutionCall} {attempt txHash stamp : String} {db' : Db}
      (same : db.SameHoldings db') (operations : db'.operations = db.operations)
      (fresh : ∀ x ∈ db.submissions,
        ¬ x.Conflicts (openedSubmission host.toHost attempt txHash stamp db.submissions))
      (submissions : db'.submissions = db.submissions ++
        [openedSubmission host.toHost attempt txHash stamp db.submissions]) :
      Wrote host db call db'
  | marked {call : ExecutionCall} {sub : SubmissionRecord} {stamp : String} {db' : Db}
      (same : db.SameHoldings db') (operations : db'.operations = db.operations)
      (submissions : db'.submissions =
        updateWhere (·.AwaitsIntent sub) (Submission.markIntent stamp) db.submissions) :
      Wrote host db call db'
  /-- An outcome that leaves the execution what it holds. -/
  | settled {call : ExecutionCall} {a : SignedArtifact} {id stamp : String} {o : Outcome}
      (leases : List WorkerLease) (outcome : Outcomes call db a id o)
      (state : o.state ≠ .knownUnsent ∧ o.state ≠ .broadcastUnknown) :
      Wrote host db call ({ db with leases := leases }.settleRow a stamp id o)
  | released {call : ExecutionCall} {a : SignedArtifact} {id stamp : String} {o : Outcome}
      (leases : List WorkerLease) (outcome : Outcomes call db a id o)
      (state : o.state = .knownUnsent) (releases : call.Releases) :
      Wrote host db call
        (({ db with leases := leases }.settleRow a stamp id o).releaseUnsent a stamp o.failureClass)
  /-- An ambiguous or contradicted outcome in the plain service. -/
  | frozen {call : ExecutionCall} {a : SignedArtifact} {id stamp reason : String} {o : Outcome}
      {status : StepStatus} (outcome : Outcomes call db a id o)
      (index : UnresolvedOnce (db.markStep a.stepId status).steps) :
      Wrote host db call
        (((db.settleRow a stamp id o).freezeLane stamp a.walletId a.operation reason).markStep
          a.stepId status)
  /-- An ambiguous or contradicted outcome in the controlled service, or a replay proved unsent. -/
  | frozenRisk {call : ExecutionCall} {a : SignedArtifact} {id stamp reason : String} {o : Outcome}
      (leases : List WorkerLease) (outcome : Outcomes call db a id o) :
      Wrote host db call
        ((({ db with leases := leases }.settleRow a stamp id o).freezeLane stamp a.walletId
          a.operation reason).freezeRisk stamp a.operation)
  | froze {walletId operation reason reason' : String} {now : Instant} :
      Wrote host db (.lane (.freezeExecution walletId operation reason now))
        (db.freezeLane (formatRFC3339Nano now) walletId operation reason')
  | expired {a : SignedArtifact} {submission : Option SubmissionRecord} {now : Instant}
      {rows : List Submission} (stored : db.Stores a)
      (closed : rows = db.submissions ∨ ∃ id, rows = updateWhere (·.InFlight id a.attemptId)
        (Submission.expire (formatRFC3339Nano now)) db.submissions) :
      Wrote host db (.lane (.expirePreBroadcast a submission now))
        ({ db with submissions := rows }.expire a (formatRFC3339Nano now))
  | canonicalized {a : SignedArtifact} {r : ReceiptObservation} {effect : Option EffectFacts}
      {now : Instant} {f : Fence} {db' : Db} (stored : db.Stores a)
      (settled : Canonicalized host.toHost a r (formatRFC3339Nano now) db db') :
      Wrote host db (.lane (.receipt a (.canonicalize r effect now f))) db'
  | orphaned {a : SignedArtifact} {r : ReceiptObservation} {now : Instant} {f : Fence}
      {lane : WalletLane} {db' : Db} (stored : db.Stores a)
      (rolledBack : Orphaned host.toHost a r.id (formatRFC3339Nano now) lane db db') :
      Wrote host db (.lane (.receipt a (.orphan r now f))) db'
  | recovered {lease : LeaseFence} {clock now : Instant} {db' : Db}
      (classified : Recovered lease.environment (formatRFC3339Nano now) db db')
      (index : UnresolvedOnce db'.steps) :
      Wrote host db (.recover lease clock now) db'

section Inversion

variable {host : ServiceHost} {views : ManualViews} {db db' : Db} {a : SignedArtifact}
  {now : Instant} {u : Unit}

theorem wrote_reserve {operation walletId signer : String} {nonce : Nat}
    {asset amount gas : String} {r : ReservedExecution}
    (h : reserveExecution host.toHost operation walletId signer nonce asset amount gas now db =
      .ok (r, db')) :
    Wrote host db (.lane (.reserveExecution operation walletId signer nonce asset amount gas now))
      db' := by
  obtain ⟨-, ⟨o, ho, hid, hw, -⟩, -, ⟨rfl, -⟩ | hmade⟩ := reserveExecution_made h
  · exact .nothing _
  · obtain rfl | hlane := reserveExecution_ok h
    · exact .nothing _
    · refine .reserved ⟨o, ho, hid, hw⟩ hlane hmade ?_
      simp only [reserveExecution, Tx.require_bind_ok, Tx.query_bind, Tx.expect_bind_ok, id_eq] at h
      obtain ⟨-, _, -, _, -, -, _, -, -, _, -, -, h⟩ := h
      have hnone := selectRow_eq_none.mpr hmade.free
      simp only [hnone, Tx.require_bind_ok, Tx.exec_bind, Tx.query_bind, Tx.pure_ok] at h
      obtain ⟨-, -, -, -, -, rfl⟩ := h
      rfl

/-- An outcome that the controlled service records. -/
theorem wrote_controlled {call : ExecutionCall} {sub : SubmissionRecord} {o : Outcome}
    {purpose : PermitPurpose} (leases : List WorkerLease) (hof : call.outcomeOf = some a)
    (hpurpose : purpose ≠ .unknownReplay → call.Releases) (hstored : db.Stores a) (hends : o.Ends)
    (h : finishControlledSubmissionTx a sub o purpose now { db with leases := leases } =
      .ok (u, db')) : Wrote host db call db' := by
  obtain ⟨hone, ⟨ho, hp, rfl⟩ | ⟨-, rfl⟩ | ⟨ho, ho', rfl⟩⟩ := finishControlledSubmissionTx_eq h
  · exact .released leases ⟨hof, hstored, hone, hends⟩ ho (hpurpose hp)
  · exact .frozenRisk leases ⟨hof, hstored, hone, hends⟩
  · exact .settled leases ⟨hof, hstored, hone, hends⟩ ⟨ho, ho'.1⟩

theorem wrote_finish {sub : SubmissionRecord} {o : Outcome} (hstored : db.Stores a)
    (hends : o.Ends) (h : finishSubmission a sub o now db = .ok (u, db')) :
    Wrote host db (.lane (.finishSubmission a sub o now)) db' := by
  obtain ⟨hone, ⟨ho, rfl⟩ | ⟨-, rfl, hindex⟩ | ⟨ho, rfl⟩⟩ := finishSubmission_eq h
  · exact .released db.leases ⟨rfl, hstored, hone, hends⟩ ho ho
  · exact .frozen ⟨rfl, hstored, hone, hends⟩ hindex
  · refine .settled db.leases ⟨rfl, hstored, hone, hends⟩ ?_
    obtain ho | ho := ho <;> rw [ho] <;> exact ⟨nofun, nofun⟩

theorem wrote_receipt (hstored : db.Stores a) (hm : ¬ db.IsManual a) (call : ReceiptCall) :
    Wrote host db (.lane (.receipt a call)) (receiptStep host.toHost views a db call) := by
  have hw := receiptStep_wrote host.toHost views hm call
  generalize receiptStep host.toHost views a db call = db' at hw ⊢
  cases hw with
  | nothing => exact .nothing _
  | observed => exact .beside ⟨rfl, rfl, rfl, rfl, rfl⟩ rfl rfl
  | canonicalized hc => exact .canonicalized hstored hc
  | orphaned hc => exact .orphaned hstored hc

theorem wrote_lane (call : LaneCall) (hends : LaneCall.Ends call) :
    Wrote host db (.lane call) (laneStep host.toHost views db call) := by
  cases call with
  | reserveExecution operation walletId signer nonce asset amount gas now =>
      exact Tx.stateAfter_cases (Wrote host db _) (.nothing _) fun _ _ h => wrote_reserve h
  | commitSigned reservation a now =>
      by_cases ha : db.Stores a
      · simp only [laneStep, if_pos ha]
        refine Tx.stateAfter_cases (Wrote host db _) (.nothing _) fun _ db' h => ?_
        obtain ⟨hone, hindex, rfl⟩ := commitSigned_eq h
        exact .signed ha (exists_of_affected_eq_one hone) hindex
      · simpa only [laneStep, if_neg ha] using .nothing _
  | beginSubmission a allowFrozen now =>
      refine Tx.stateAfter_cases (Wrote host db _) (.nothing _) fun _ db' h => ?_
      obtain ⟨-, hfresh, rfl⟩ := openSubmissionTx_ok (beginSubmission_ok h).2
      exact .opened ⟨rfl, rfl, rfl, rfl, rfl⟩ rfl hfresh rfl
  | finishSubmission a sub o now =>
      by_cases ha : db.Stores a
      · simp only [laneStep, if_pos ha]
        exact Tx.stateAfter_cases (Wrote host db _) (.nothing _) fun _ _ h =>
          wrote_finish ha hends h
      · simpa only [laneStep, if_neg ha] using .nothing _
  | expirePreBroadcast a submission now =>
      by_cases ha : db.Stores a
      · simp only [laneStep, if_pos ha]
        refine Tx.stateAfter_cases (Wrote host db _) (.nothing _) fun _ db' h => ?_
        obtain ⟨rows, rfl, ⟨-, -, hrows⟩ | ⟨sub, -, -, hrows⟩⟩ := expirePreBroadcast_eq h
        · exact .expired ha (.inl hrows)
        · exact .expired ha (.inr ⟨sub.id, hrows⟩)
      · simpa only [laneStep, if_neg ha] using .nothing _
  | freezeExecution walletId operation reason now =>
      exact .froze
  | receipt a call =>
      by_cases ha : db.Stores a ∧ ¬ db.IsManual a
      · simp only [laneStep, if_pos ha]
        exact wrote_receipt ha.1 ha.2 call
      · simpa only [laneStep, if_neg ha] using .nothing _

theorem wrote_recover {lease : LeaseFence} {clock : Instant}
    (h : recoverControlledInflight lease clock now db = .ok (u, db')) :
    Wrote host db (.recover lease clock now) db' := by
  obtain ⟨_, _, -, -, -, -, hindex⟩ := recoverControlledInflight_iff.mp h
  exact .recovered (recoverControlledInflight_ok h) hindex

theorem executionStep_wrote (host : ServiceHost) (views : ManualViews) (db : Db)
    (call : ExecutionCall) : Wrote host db call (executionStep host views db call) := by
  cases call with
  | admitDryRun r now =>
      refine Tx.stateAfter_cases (Wrote host db _) (.nothing _) fun _ db' h => ?_
      obtain ⟨-, -, ⟨-, rfl, -⟩ | ⟨-, hfresh, hstep, rfl⟩⟩ := admitDryRun_ok h
      · exact .nothing _
      · refine .admitted hfresh rfl rfl rfl (show ¬ StepStatus.Unresolved .created by decide)
          fun x hx hc => ?_
        exact hc.elim (hstep x hx).1 (hstep x hx).2
  | markRunning operation step route parameters call block policyVersion expiresAt now =>
      refine Tx.stateAfter_cases (Wrote host db _) (.nothing _) fun _ db' h => ?_
      obtain ⟨hindex, rfl⟩ := updateTx_ok.mp h
      exact .dryRun db.dryRunResults (fun _ => ⟨rfl, .inl rfl⟩) (fun _ => rfl) hindex
  | finishDryRun r success now =>
      refine Tx.stateAfter_cases (Wrote host db _) (.nothing _) fun _ db' h => ?_
      cases success with
      | true =>
          obtain ⟨hindex, results, rfl⟩ := finish_ok h
          exact .dryRun results (fun _ => ⟨rfl, .inr (.inl rfl)⟩) (fun _ => rfl) hindex
      | false =>
          obtain ⟨hindex, results, rfl⟩ := finish_ok h
          exact .dryRun results (fun _ => ⟨rfl, .inr (.inr rfl)⟩) (fun _ => rfl) hindex
  | expireUnreserved operation now =>
      refine Tx.stateAfter_cases (Wrote host db _) (.nothing _) fun _ db' h => ?_
      obtain ⟨hfree, rfl⟩ := expireUnreserved_ok h
      exact .unreserved hfree
  | lane call =>
      by_cases hends : LaneCall.Ends call
      · simp only [executionStep, if_pos hends]
        exact wrote_lane call hends
      · simpa only [executionStep, if_neg hends] using .nothing _
  | beginControlled v work lease clock now =>
      refine Tx.stateAfter_cases (Wrote host db _) (.nothing _) fun _ db' h => ?_
      have hb := beginControlledSubmissionAfterGate_ok h
      exact .opened hb.holdings hb.operations hb.rowFresh hb.submissions
  | markIntent work v sub lease clock now =>
      refine Tx.stateAfter_cases (Wrote host db _) (.nothing _) fun _ db' h => ?_
      obtain ⟨-, hsub, -, -, hsame, hops⟩ := markControlledSendIntent_ok h
      exact .marked hsame hops hsub
  | sendGate work v sub a lease clock now =>
      by_cases ha : db.Stores a
      · simp only [executionStep, if_pos ha]
        refine Tx.stateAfter_cases (Wrote host db _) (.nothing _) fun _ db' h => ?_
        obtain ⟨leases, ⟨-, -, rfl⟩ | ⟨-, reason, _, hfinish⟩⟩ := controlledSendGateTx_eq h
        · exact .beside ⟨rfl, rfl, rfl, rfl, rfl⟩ rfl rfl
        · exact wrote_controlled leases rfl id ha (refusedOutcome_ends reason) hfinish
      · simpa only [executionStep, if_neg ha] using .nothing _
  | sendOutcome work sub a answer now =>
      by_cases ha : db.Stores a
      · simp only [executionStep, if_pos ha]
        exact Tx.stateAfter_cases (Wrote host db _) (.nothing _) fun _ _ h =>
          wrote_controlled db.leases rfl id ha (controlledOutcome_ends _ a answer) h
      · simpa only [executionStep, if_neg ha] using .nothing _
  | recover lease clock now =>
      exact Tx.stateAfter_cases (Wrote host db _) (.nothing _) fun _ _ h => wrote_recover h

end Inversion

end Settlement

end RbhTrade
