import RbhTrade.Controlled.Invariant

/-!
# Broadcaster calls of the controlled workers

What the invariant gives for the calls themselves, in every state that workers, crashes and other
writers can reach: how many calls there are for a submission row and for an attempt, what held in
the state each was made in, and how the crash classifier and the calls are related.
-/

namespace RbhTrade

open Tables GoTime

variable {host : Host} {fence : WorkerId → LeaseFence} {s : System}

/-! ## Counting calls -/

theorem Inv.calls_per_row (h : Inv host fence s) (id : String) :
    affected (fun k : Call => k.claim.sub.id = id) s.calls ≤ 1 := by
  have hone := h.subs.count_le_one id
  rw [List.count, List.countP_map] at hone
  refine le_trans (le_of_eq ?_) hone
  exact List.countP_congr fun k _ => by simp

theorem Inv.call_permit (h : Inv host fence s) {k : Call} (hk : k ∈ s.calls) :
    ∃ p ∈ s.db.permits, p.attemptId = k.claim.sub.attemptId ∧ p.state = .consumed ∧
      p.purpose = k.claim.work.purpose ∧ p.id = k.claim.work.permitId := by
  have hc := h.calledClaimed k hk
  obtain ⟨p, hp, hfor, -, -, hstate⟩ := hc.permit
  exact ⟨p, hp, hfor.2.2.1.trans hc.attempt.symm, hstate, hfor.2.2.2.1, hfor.1⟩

theorem Inv.calls_le_permits (h : Inv host fence s) (attempt : String) :
    affected (fun k : Call => k.claim.sub.attemptId = attempt) s.calls ≤
      affected (fun p : SendPermit => p.attemptId = attempt ∧ p.state = .consumed)
        s.db.permits := by
  refine affected_le_affected (fun k : Call => k.claim.work.permitId) SendPermit.id h.permits.nodup
    fun k hk hattempt => ?_
  obtain ⟨p, hp, ha, hstate, -, hid⟩ := h.call_permit hk
  exact ⟨p, hp, ⟨ha.trans hattempt, hstate⟩, hid⟩

theorem Inv.first_calls_le_one (h : Inv host fence s) (attempt : String) :
    affected (fun k : Call => k.claim.sub.attemptId = attempt ∧
      k.claim.work.purpose = .firstBroadcast) s.calls ≤ 1 := by
  calc affected (fun k : Call => k.claim.sub.attemptId = attempt ∧
        k.claim.work.purpose = .firstBroadcast) s.calls
      ≤ affected (fun p : SendPermit => p.attemptId = attempt ∧ p.purpose = .firstBroadcast)
          s.db.permits := by
        refine affected_le_affected (fun k : Call => k.claim.work.permitId) SendPermit.id
          h.permits.nodup fun k hk ⟨hattempt, hpurpose⟩ => ?_
        obtain ⟨p, hp, ha, -, hpp, hid⟩ := h.call_permit hk
        exact ⟨p, hp, ⟨ha.trans hattempt, hpp.trans hpurpose⟩, hid⟩
    _ ≤ 1 := h.tables.permits.affected_le_one fun x _ y _ hx hy =>
        .inr (.inl ⟨hx.2, hy.2, hx.1.trans hy.1.symm⟩)

/-! ## The state of a call -/

/-- A gate of the permit's operation passed under the permit's authorization and epoch. -/
def Db.PermitGatePassed (db : Db) (p : SendPermit) (stage : GateStage) (attempt : Option String) :
    Prop :=
  ∃ g ∈ db.gateSnapshots, g.operationId = p.operationId ∧ g.authorizationId = p.authorizationId ∧
    g.authorizationEpoch = p.authorizationEpoch ∧ g.decision = .pass ∧ g.stage = stage ∧
    g.attemptId = attempt

/-- The permit a call was made under: consumed, of the call's attempt and purpose, with its
authorization armed at the permit's epoch and its three gates passed. -/
structure Db.PermitInForce (db : Db) (c : Claim) (p : SendPermit) : Prop where
  id : p.id = c.work.permitId
  attempt : p.attemptId = c.sub.attemptId
  purpose : p.purpose = c.work.purpose
  consumed : p.state = .consumed
  armed : ∃ a, selectRow (·.id = p.authorizationId) db.authorizations = some a ∧
    a.state = .armed ∧ a.epoch = p.authorizationEpoch
  admission : db.PermitGatePassed p .executionAdmission none
  preSign : db.PermitGatePassed p .preSign none
  firstBroadcast : db.PermitGatePassed p .firstBroadcast (some p.attemptId)

/-- What must hold in the committed state in which the broadcaster is called. -/
structure Call.Authorized (lease : LeaseFence) (k : Call) : Prop where
  intent : ∃ r ∈ k.db.submissions, r.id = k.claim.sub.id ∧ r.attemptId = k.claim.sub.attemptId ∧
    r.state = .submitting ∧ r.sendIntentAt ≠ none
  lease : k.db.LeaseCurrent .submission lease k.clock
  running : ∃ c, k.db.control = some c ∧ c.emergencyStopped = false
  permit : ∃ p ∈ k.db.permits, k.db.PermitInForce k.claim p

theorem Db.GatePassed.permit {db : Db} {work : ControlledSubmissionWork} {p : SendPermit}
    {stage : GateStage} {attempt : Option String} (hp : p.Backs host work)
    (h : db.GatePassed work.request stage attempt) : db.PermitGatePassed p stage attempt := by
  obtain ⟨g, hg, hop, hauth, hepoch, hrest⟩ := h
  refine ⟨g, hg, ?_, hauth.trans hp.2.1.symm, hepoch.trans hp.2.2.1.symm, hrest⟩
  rw [hop, hp.1.2.1, work.operation_eq]

theorem Inv.call_authorized (h : Inv host fence s) {k : Call} (hk : k ∈ s.calls) :
    k.Authorized (fence k.worker) := by
  obtain ⟨htables, hready, hclaimed, hintent⟩ := h.fenced k hk
  obtain ⟨r, hr, hid, hattempt, -, hstate⟩ := hready.row
  obtain ⟨r', hr', hid', hset⟩ := hintent
  obtain rfl := htables.row_eq hr hr' (hid.trans hid'.symm)
  obtain ⟨c, hcontrol, hstop, -⟩ := hready.controls.control
  obtain ⟨p, hp, hbacks⟩ := hclaimed.permit
  obtain ⟨a, ha, harmed, hepoch⟩ := hready.controls.authorization
  refine ⟨⟨r, hr, hid, hattempt, hstate, hset⟩, hready.lease, ⟨c, hcontrol, hstop⟩, p, hp, ?_⟩
  have hpa : p.attemptId = k.claim.work.artifact.attemptId := hbacks.1.2.2.1
  exact {
    id := hbacks.1.1
    attempt := hpa.trans hclaimed.attempt.symm
    purpose := hbacks.1.2.2.2.1
    consumed := hbacks.2.2.2
    armed := ⟨a, by rw [hbacks.2.1]; exact ha, harmed, hepoch.trans hbacks.2.2.1.symm⟩
    admission := hclaimed.gates.admission.permit hbacks
    preSign := hclaimed.gates.preSign.permit hbacks
    firstBroadcast := hpa ▸ hclaimed.gates.firstBroadcast.permit hbacks }

/-! ## Main results -/

/-- In every state that any interleaving of workers, crashes and other writers reaches, the
broadcaster was called at most once per submission row, at most once per consumed permit of an
attempt and at most once under the attempt's first-broadcast permit, and each call was made in a
state in which its intent was durable, its lease current, the canary not stopped, its authorization
armed at the permit's epoch and its gate chain passed. -/
theorem controlled_calls_bounded_and_authorized (host : Host) (fence : WorkerId → LeaseFence)
    (acts : List Act) :
    let s := System.run host fence acts
    (∀ id, affected (fun k : Call => k.claim.sub.id = id) s.calls ≤ 1) ∧
    (∀ attempt,
      affected (fun k : Call => k.claim.sub.attemptId = attempt) s.calls ≤
        affected (fun p : SendPermit => p.attemptId = attempt ∧ p.state = .consumed)
          s.db.permits ∧
      affected (fun k : Call => k.claim.sub.attemptId = attempt ∧
        k.claim.work.purpose = .firstBroadcast) s.calls ≤ 1) ∧
    ∀ k ∈ s.calls, k.Authorized (fence k.worker) := by
  have h : Inv host fence (System.run host fence acts) := Inv.run acts
  exact ⟨h.calls_per_row, fun attempt => ⟨h.calls_le_permits attempt, h.first_calls_le_one attempt⟩,
    fun k hk => h.call_authorized hk⟩

/-- A row recovered before its send intent was never passed to the broadcaster, and a row whose
call was made without a committed outcome is in flight or ambiguous ever after. -/
theorem controlled_recovery_sound (host : Host) (fence : WorkerId → LeaseFence)
    (acts : List Act) :
    let s := System.run host fence acts
    (∀ r ∈ s.db.submissions, r.state = .knownUnsent →
      r.failureClass = some .restartBeforeSendIntent → ∀ k ∈ s.calls, k.claim.sub.id ≠ r.id) ∧
    ∀ k ∈ s.calls, k.committed = false →
      (∃ r ∈ s.db.submissions, r.id = k.claim.sub.id) ∧
      ∀ r ∈ s.db.submissions, r.id = k.claim.sub.id →
        r.state = .submitting ∨ r.state = .broadcastUnknown := by
  have h : Inv host fence (System.run host fence acts) := Inv.run acts
  refine ⟨fun r hr _ hclass k hk he => ?_, fun k hk hcom => ⟨?_, h.unknownOnly k hk hcom⟩⟩
  · obtain ⟨r', hr', hid, hintent⟩ := h.calledIntended k hk
    obtain rfl := h.tables.row_eq hr' hr (hid.trans he)
    exact hintent ((h.tables.sane r' hr).2 hclass)
  · obtain ⟨r, hr, hid, -⟩ := (h.calledClaimed k hk).row
    exact ⟨r, hr, hid⟩

/-- A begun submission and its permit belong to one worker, whoever dies or restarts, and a worker
that still holds them has not sent them. -/
theorem begun_submissions_exclusive (host : Host) (fence : WorkerId → LeaseFence)
    (acts : List Act) :
    let s := System.run host fence acts
    ∀ w c, (s.pc w).claim = some c →
      (∀ w', (s.pc w').subKey = some c.sub.id ∨ (s.pc w').permitKey = some c.work.permitId →
      w' = w) ∧
      ∀ k ∈ s.calls, k.claim.sub.id ≠ c.sub.id ∧ k.claim.work.permitId ≠ c.work.permitId := by
  intro s w c hc
  have h : Inv host fence s := Inv.run acts
  have hsub : (s.pc w).subKey = some c.sub.id := congrArg (Option.map _) hc
  have hpermit : (s.pc w).permitKey = some c.work.permitId := congrArg (Option.map _) hc
  refine ⟨fun w' hsame => ?_, fun k hk => ⟨fun he => ?_, fun he => ?_⟩⟩
  · exact hsame.elim (h.subs.inj · hsub) (h.permits.inj · hpermit)
  · exact h.subs.unspent hsub (he ▸ List.mem_map_of_mem hk)
  · exact h.permits.unspent hpermit (he ▸ List.mem_map_of_mem hk)

/-! ## A signed operation -/

namespace Sample

def midnight : Instant := 1767225600000000000

def tomorrow : String := "2026-01-02T00:00:00Z"

def authorization : RuntimeAuthorization :=
  { id := "auth", epoch := 1, state := .armed, walletId := "wallet", policyVersion := 1,
    deployment := { environment := "prod" }, expiresAt := tomorrow }

def signedDb : Db where
  operations :=
    [{ id := "op", walletId := "wallet", status := .signedPrebroadcast, policyVersion := some 1,
       expiresAt := some tomorrow }]
  steps :=
    [{ id := "step", operationId := "op", stepIndex := 1, status := .signed,
       walletId := some "wallet", policyVersion := some 1, quoteBlockNumber := some 0,
       quoteBlockHash := some "", expiresAt := some tomorrow }]
  attempts :=
    [{ id := "attempt", stepId := "step", nonce := 0, status := .signed, walletId := "wallet",
       payload := some { txHash := "tx", encryptedRawTx := "raw" }, policyVersion := 1,
       expiresAt := tomorrow }]
  lanes := [{ walletId := "wallet", state := .signed, operationId := some "op" }]
  control := some
    { mode := .controlledCanary, policyVersion := 1, emergencyStopped := false,
      updatedAt := "2026-01-01T00:00:00Z" }
  authorizations := [authorization]
  leases :=
    [{ role := .submission, environment := "prod", holderId := "holder", leaseEpoch := 1,
       expiresAt := tomorrow }]
  admissionSources := [{ operationId := "op", walletId := "wallet", sourceHash := "source" }]
  riskReservations :=
    [{ id := "risk", operationId := "op", walletId := "wallet", tokenAddress := "token",
       policyVersion := 1, inputAmount := "1", state := .reserved, sourceHash := some "source" }]
  decisions :=
    [{ id := "decision", requestId := "request", operationId := "op", requestFingerprint := "",
       policyVersion := 1, decision := .admitted, reasonCode := "", walletId := "wallet",
       tokenAddress := "token", amount := "1", reservationId := some "risk", createdAt := "" }]

def gate (id : String) (stage : GateStage) (attempt : Option String) : GateSnapshot :=
  { id := id, operationId := "op", attemptId := attempt, stage := stage, authorizationId := "auth",
    authorizationEpoch := 1, decision := .pass }

def permit : SendPermit :=
  { id := "permit", operationId := "op", attemptId := "attempt", authorizationId := "auth",
    authorizationEpoch := 1, purpose := .firstBroadcast, artifactHash := "raw", txHash := "tx",
    state := .issued, expiresAt := tomorrow }

def snapshot : RuntimeGateSnapshot :=
  { id := "immediate", operationId := "op", attemptId := "attempt", stage := .immediatePreSend,
    authorizationId := "auth", policyHash := "", decision := .pass, reasonCode := "",
    authorizationEpoch := 1, policyVersion := 1, emergencyStopRevision := 1767225600000000000,
    deployment := { environment := "prod" }, gateEvidenceSetHash := "", checkedAt := midnight }

end Sample

end RbhTrade
