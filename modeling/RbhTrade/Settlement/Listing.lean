import RbhTrade.Settlement.Ambiguity
import RbhTrade.Settlement.Effects
import RbhTrade.Store.ControlledRecovery

/-!
# What the recovery worker lists

The recovery worker reconciles the transactions that `ListControlledRecoveryItems` returns, and
checks their canonical receipts for reorganisations. Every attempt with a submission that was sent,
`submitted` or `broadcast_unknown`, should be among them.

The listing reads the newest submission of each attempt only. A replay appends a row, so an attempt
whose ambiguous send is replayed drops out of the listing while the replay is in flight, and for
good when the replay ends as anything else: the plain service records a rejection, an expiry or a
hash mismatch, and the controlled worker a refusal of its gate. In every run in which a row that is
opened beside a sent one ends as sent within its call, all sent attempts are listed.
-/

namespace RbhTrade.Settlement

open Tables GoTime

/-! ## Records

The columns that the listing joins. No submission, outcome, recovery or receipt changes them. -/

/-- The keys of the operations, the steps and the attempts, with the stored artifacts. -/
def records (db : Db) :
    List String × List (String × String) × List (String × String × Option SignedPayload) :=
  (db.operations.map (·.id), db.steps.map fun s => (s.id, s.operationId),
    db.attempts.map fun t => (t.id, t.stepId, t.payload))

section Records

variable {host : Host} {a : SignedArtifact} {db db' : Db} {sub : SubmissionRecord} {o : Outcome}
  {lease : LeaseFence} {clock now : Instant} {u : Unit}

theorem column_kept {ρ κ : Type} {p : ρ → Prop} [DecidablePred p] {f : ρ → ρ} {key : ρ → κ}
    {t t' : List ρ} (ht : t' = updateWhere p f t) (hf : ∀ r, key (f r) = key r) :
    t'.map key = t.map key := by
  rw [ht, map_updateWhere key fun r _ => hf r]

theorem records_congr (ho : db'.operations.map (·.id) = db.operations.map (·.id))
    (hs : db'.steps.map (fun s => (s.id, s.operationId)) =
      db.steps.map fun s => (s.id, s.operationId))
    (ha : db'.attempts.map (fun t => (t.id, t.stepId, t.payload)) =
      db.attempts.map fun t => (t.id, t.stepId, t.payload)) : records db' = records db := by
  simp only [records, ho, hs, ha]

theorem records_same (hh : db.SameHoldings db') (ho : db'.operations = db.operations) :
    records db' = records db :=
  records_congr (by rw [ho]) (by rw [hh.steps]) (by rw [hh.attempts])

theorem releaseUnsent_records (c : Option FailureClass) (stamp : String) :
    records (db.releaseUnsent a stamp c) = records db :=
  records_congr (column_kept rfl fun _ => rfl) (column_kept rfl fun _ => rfl)
    (column_kept rfl fun _ => rfl)

theorem finishSubmission_records_kept (h : finishSubmission a sub o now db = .ok (u, db')) :
    records db' = records db := by
  obtain ⟨-, ⟨-, rfl⟩ | ⟨-, rfl, -⟩ | ⟨-, rfl⟩⟩ := finishSubmission_eq h
  · exact releaseUnsent_records _ _
  · exact records_congr rfl (column_kept rfl fun _ => rfl) rfl
  · rfl

theorem finishControlledSubmissionTx_records_kept {purpose : PermitPurpose}
    (h : finishControlledSubmissionTx a sub o purpose now db = .ok (u, db')) :
    records db' = records db := by
  obtain ⟨-, ⟨-, -, rfl⟩ | ⟨-, rfl⟩ | ⟨-, -, rfl⟩⟩ := finishControlledSubmissionTx_eq h
  · exact releaseUnsent_records _ _
  · rfl
  · rfl

theorem expirePreBroadcast_records {submission : Option SubmissionRecord}
    (h : expirePreBroadcast a submission now db = .ok (u, db')) : records db' = records db := by
  obtain ⟨rows, rfl, -⟩ := expirePreBroadcast_eq h
  exact records_congr (column_kept rfl fun _ => rfl) (column_kept rfl fun _ => rfl)
    (column_kept rfl fun _ => rfl)

theorem recoverControlledInflight_records
    (h : recoverControlledInflight lease clock now db = .ok (u, db')) :
    records db' = records db := by
  have hr := recoverControlledInflight_ok h
  exact records_congr (column_kept hr.operations fun _ => rfl)
    ((column_kept hr.steps fun _ => rfl).trans (column_kept rfl fun _ => rfl))
    (column_kept hr.attempts fun _ => rfl)

theorem receiptStep_records {views : ManualViews} (hm : ¬ db.IsManual a)
    (call : ReceiptCall) : records (receiptStep host views a db call) = records db := by
  have hw := receiptStep_wrote host views hm call
  generalize receiptStep host views a db call = db' at hw ⊢
  cases hw with
  | nothing => rfl
  | observed => rfl
  | canonicalized hc =>
      exact records_congr (column_kept hc.operations fun _ => rfl)
        (column_kept hc.steps fun _ => rfl) (by rw [hc.attempts])
  | orphaned hc =>
      exact records_congr (by rw [hc.operations]) (column_kept hc.steps fun _ => rfl)
        (by rw [hc.attempts])

end Records

/-! ## Rows

A call moves the rows of sends in flight, and opens one row at most. -/

/-- The transaction of the row was sent, or was about to be. -/
def Submission.Evidenced (s : Submission) : Prop := s.Sent ∨ s.sendIntentAt ≠ none

/-- A row that a transaction has changed: only a send in flight changes its state, and only a send
with a stored artifact becomes evidenced. -/
structure Moves (hashed : String → Prop) (s s' : Submission) : Prop where
  identity : s'.identity = s.identity
  stable : s.state ≠ .submitting → s'.state = s.state
  evidence : Submission.Evidenced s' → Submission.Evidenced s ∨ hashed s.attemptId

/-- A row that a call has opened, as the call leaves it. -/
structure Opens (hashed : String → Prop) (t : List Submission) (r : Submission) : Prop where
  sequence : r.sequence = nextSequence r.attemptId t
  idle : ∀ s ∈ t, s.attemptId = r.attemptId → s.state ≠ .submitting
  evidence : Submission.Evidenced r → hashed r.attemptId

/-- What a call makes of the submissions. -/
def Evolves (hashed : String → Prop) (t t' : List Submission) : Prop :=
  ∃ g : Submission → Submission, (∀ s ∈ t, Moves hashed s (g s)) ∧
    (t' = t.map g ∨ ∃ r, Opens hashed t r ∧ t' = t.map g ++ [r])

variable {g : Submission → Submission}

section Rows

variable {hashed : String → Prop} {t t' : List Submission} {s s' s'' : Submission}

theorem Moves.refl (s : Submission) : Moves hashed s s := ⟨rfl, fun _ => rfl, .inl⟩

theorem Moves.attempt (h : Moves hashed s s') : s'.attemptId = s.attemptId := by
  have he := h.identity
  simp only [Submission.identity, Prod.mk.injEq] at he
  exact he.2.1

theorem Moves.sequence (h : Moves hashed s s') : s'.sequence = s.sequence := by
  have he := h.identity
  simp only [Submission.identity, Prod.mk.injEq] at he
  exact he.2.2

theorem Moves.trans (h : Moves hashed s s') (h' : Moves hashed s' s'') : Moves hashed s s'' where
  identity := h'.identity.trans h.identity
  stable := fun hs => (h'.stable (by rw [h.stable hs]; exact hs)).trans (h.stable hs)
  evidence := fun he => (h'.evidence he).elim h.evidence fun hh => .inr (h.attempt ▸ hh)

theorem moves_updateWhere {p : Submission → Prop} [DecidablePred p] {f : Submission → Submission}
    (hp : ∀ s, p s → s.state = .submitting) (hf : ∀ s, (f s).identity = s.identity)
    (he : ∀ s, p s → Submission.Evidenced (f s) → Submission.Evidenced s ∨ hashed s.attemptId)
    (s : Submission) : Moves hashed s (if p s then f s else s) := by
  split
  · rename_i hps
    exact ⟨hf s, fun hne => absurd (hp s hps) hne, he s hps⟩
  · exact .refl s

theorem Evolves.refl (t : List Submission) : Evolves hashed t t :=
  ⟨id, fun s _ => .refl s, .inl (List.map_id t).symm⟩

theorem Evolves.moves (h : Evolves hashed t t') (hg : ∀ s ∈ t', Moves hashed s (g s)) :
    Evolves hashed t (t'.map g) := by
  obtain ⟨f, hf, rfl | ⟨r, hr, rfl⟩⟩ := h
  · exact ⟨g ∘ f, fun s hs => (hf s hs).trans (hg _ (List.mem_map_of_mem hs)),
      .inl (List.map_map ..)⟩
  · have hgr := hg r (List.mem_append_right _ (List.mem_singleton_self r))
    refine ⟨g ∘ f, fun s hs => (hf s hs).trans (hg _ (List.mem_append_left _
      (List.mem_map_of_mem hs))), .inr ⟨g r, ⟨?_, ?_, ?_⟩, ?_⟩⟩
    · rw [hgr.sequence, hgr.attempt, hr.sequence]
    · rw [hgr.attempt]
      exact hr.idle
    · intro he
      rw [hgr.attempt]
      exact (hgr.evidence he).elim hr.evidence id
    · rw [List.map_append, List.map_map, List.map_singleton]

end Rows

/-! ## Calls -/

/-- An attempt whose artifact is stored. -/
def Hashed (db : Db) (attempt : String) : Prop := ∃ t ∈ db.attempts, t.id = attempt ∧
    t.payload ≠ none

/-- What a call does to the records and the rows. -/
structure Forward (db db' : Db) : Prop where
  rows : Evolves (Hashed db) db.submissions db'.submissions
  ordered : ∀ x : Execution, x.RowsOk db'
  same : records db' = records db

section Forward

variable {host : Host} {a : SignedArtifact} {db db₁ db' : Db}

theorem hashed_of_records (h : records db' = records db) {attempt : String}
    (hh : Hashed db' attempt) : Hashed db attempt := by
  obtain ⟨t, ht, hid, hp⟩ := hh
  have hmem : (t.id, t.stepId, t.payload) ∈ (records db).2.2 :=
    h ▸ List.mem_map_of_mem (f := fun t : TransactionAttempt => (t.id, t.stepId, t.payload)) ht
  obtain ⟨u, hu, he⟩ := List.mem_map.mp hmem
  simp only [Prod.mk.injEq] at he
  exact ⟨u, hu, he.1.trans hid, by rw [he.2.2]; exact hp⟩

theorem Forward.refl (h : ∀ x : Execution, x.RowsOk db) : Forward db db := ⟨.refl _, h, rfl⟩

/-- Rows that move after a call has come so far. -/
theorem Forward.moves (h : Forward db db₁) (hr : records db' = records db₁)
    (hsub : db'.submissions = db₁.submissions.map g)
    (hg : ∀ s ∈ db₁.submissions, Moves (Hashed db₁) s (g s)) : Forward db db' := by
  have hg' : ∀ s ∈ db₁.submissions, Moves (Hashed db) s (g s) := fun s hs =>
    ⟨(hg s hs).identity, (hg s hs).stable, fun he =>
      ((hg s hs).evidence he).imp_right (hashed_of_records h.same)⟩
  refine ⟨hsub ▸ h.rows.moves hg', fun x => (h.ordered x).map hsub fun s hs => ⟨(hg s hs).identity,
    fun hss => ?_⟩, hr.trans h.same⟩
  by_contra hne
  exact hne ((hg s hs).stable hne ▸ hss)

/-- An update that only reaches sends in flight. -/
theorem Forward.updates (h : Forward db db₁) (hr : records db' = records db₁)
    {p : Submission → Prop} [DecidablePred p] {f : Submission → Submission}
    (hsub : db'.submissions = updateWhere p f db₁.submissions)
    (hp : ∀ s, p s → s.state = .submitting) (hf : ∀ s, (f s).identity = s.identity)
    (he : ∀ s, p s → Submission.Evidenced (f s) → Submission.Evidenced s ∨ Hashed db₁ s.attemptId) :
    Forward db db' :=
  h.moves hr hsub fun s _ => moves_updateWhere hp hf he s

/-- A row opened by a call that has not changed anything else. -/
theorem Forward.opens (h : ∀ x : Execution, x.RowsOk db) {attempt txHash stamp : String}
    (hsub : db'.submissions = db.submissions ++
      [openedSubmission host attempt txHash stamp db.submissions])
    (hfresh : ∀ s ∈ db.submissions,
      ¬ s.Conflicts (openedSubmission host attempt txHash stamp db.submissions))
    (hidle : ∀ s ∈ db.submissions, s.attemptId = attempt → s.state ≠ .submitting)
    (hr : records db' = records db) : Forward db db' := by
  refine ⟨⟨id, fun s _ => .refl s, .inr ⟨_, ⟨rfl, hidle, ?_⟩, by rw [hsub, List.map_id]⟩⟩,
    fun x => (h x).opens hsub hfresh ?_, hr⟩
  · rintro ((hs | hs) | hs)
    · cases hs
    · cases hs
    · exact absurd rfl hs
  · rintro rfl ⟨s, hs, has, hss⟩
    exact hidle s hs has hss

variable {sub : SubmissionRecord} {work : ControlledSubmissionWork}

/-- An outcome of a send whose artifact is stored. -/
theorem Forward.settle (h : Forward db db₁) (ha : Hashed db₁ a.attemptId) {o : Outcome}
    {stamp : String} (hr : records db' = records db₁)
    (hsub : db'.submissions = updateWhere (·.AwaitsOutcome sub.id a) (Submission.settle o stamp)
      db₁.submissions) : Forward db db' := by
  refine h.updates hr hsub (fun s hs => hs.1.2.2) (fun _ => rfl) fun s hs _ => ?_
  rw [hs.1.2.1]
  exact .inr ha

/-- An expiry closes the row it is given, or none. -/
theorem Forward.expire (h : Forward db db₁) {submission : Option SubmissionRecord} {now : Instant}
    {u : Unit} (hok : expirePreBroadcast a submission now db₁ = .ok (u, db')) : Forward db db' := by
  have hr := expirePreBroadcast_records hok
  obtain ⟨rows, rfl, ⟨-, -, hsub⟩ | ⟨sub, -, -, hsub⟩⟩ := expirePreBroadcast_eq hok
  · exact h.moves hr (hsub.trans (List.map_id _).symm) fun s _ => .refl s
  · refine h.updates hr hsub (fun s hs => hs.2.2) (fun _ => rfl) ?_
    rintro s - ((hs | hs) | hs)
    · cases hs
    · cases hs
    · exact .inl (.inr hs)

theorem Forward.finishSend (h : Forward db db₁) (ha : Hashed db₁ a.attemptId) {replay : Bool}
    {clock : SubmitClock} {answer : Answer} :
    Forward db (finishSend a sub replay clock answer db₁).2 := by
  have hfinish : ∀ {o now u db'}, finishSubmission a sub o now db₁ = .ok (u, db') →
      Forward db db' := fun hok =>
    h.settle ha (finishSubmission_records_kept hok) (finishSubmission_rows hok)
  unfold RbhTrade.finishSend
  split
  · split
    · exact Tx.stateAfter_cases (Forward db) h fun _ _ hok => hfinish hok
    · split
      · exact h.expire (by assumption)
      · exact h
  · split
    · exact hfinish (by assumption)
    · exact h

theorem Forward.sendArtifact (h : ∀ x : Execution, x.RowsOk db) (ha : Hashed db a.attemptId)
    {latest : Option Submission} {replay : Bool} {clock : SubmitClock} {answer : Option Answer}
    (hlatest : ∀ s, latestSubmission a.attemptId db.submissions = some s → s.state ≠ .submitting) :
    Forward db (sendArtifact host a latest replay clock answer db).2 := by
  unfold RbhTrade.sendArtifact
  split
  · dsimp only
    split
    · exact Tx.stateAfter_cases (Forward db) (.refl h) fun _ _ hok => (Forward.refl h).expire hok
    · exact .refl h
  · split
    · exact .refl h
    · rename_i sub db₁ hbegin
      obtain ⟨-, hfresh, hdb₁⟩ := openSubmissionTx_ok (beginSubmission_ok hbegin).2
      have hr : records db₁ = records db := by
        rw [hdb₁]
        rfl
      have h₁ : Forward db db₁ := by
        refine .opens h (by rw [hdb₁]) hfresh (fun s hs has hss => ?_) hr
        exact (h ⟨a.attemptId, "", "", ""⟩).not_inFlight hlatest ⟨s, hs, has, hss⟩
      split
      · exact h₁
      · exact h₁.finishSend (hashed_of_records hr.symm ha)

theorem loadEncryptedArtifact_hashed {operation : String}
    (h : loadEncryptedArtifact host db operation = some a) : Hashed db a.attemptId := by
  obtain ⟨t, ht, -, ha, -⟩ := loadEncryptedArtifact_row h
  obtain ⟨payload, hp, rfl⟩ := Option.map_eq_some_iff.mp ha
  exact ⟨t, ht, rfl, by rw [hp]; exact Option.some_ne_none _⟩

theorem Forward.submit (h : ∀ x : Execution, x.RowsOk db) {operation : String} {replay : Bool}
    {clock : SubmitClock} {answer : Option Answer} :
    Forward db (submit host operation replay clock answer db).2 := by
  unfold RbhTrade.submit
  split
  · exact .refl h
  · rename_i a hload
    have ha := loadEncryptedArtifact_hashed hload
    split
    · exact .refl h
    · split
      · rename_i hnone
        split
        · exact .refl h
        · refine .sendArtifact h ha fun s hs => ?_
          rw [hnone] at hs
          cases hs
      · rename_i latest hlatest
        have hstate : ∀ state, latest.state = state → state ≠ .submitting →
            ∀ s, latestSubmission a.attemptId db.submissions = some s → s.state ≠ .submitting := by
          intro state hst hne s hs
          rw [hlatest] at hs
          rw [← Option.some.inj hs, hst]
          exact hne
        split
        · exact .refl h
        · refine Tx.stateAfter_cases (Forward db) (.refl h) fun _ db' hok => ?_
          exact (Forward.refl h).settle ha (finishSubmission_records_kept hok)
            (finishSubmission_rows hok)
        · rename_i hunknown
          split
          · exact .sendArtifact h ha (hstate _ hunknown fun hc => by cases hc)
          · exact .refl h
        · split
          · exact .refl h
          · exact .sendArtifact h ha (hstate _ rfl (by assumption))

theorem loadControlledArtifact_hashed (h : loadControlledArtifact host work db = some a) :
    Hashed db a.attemptId := by
  obtain ⟨stored, hload, h⟩ := Option.bind_eq_some_iff.mp h
  obtain ⟨digest, -, h⟩ := Option.bind_eq_some_iff.mp h
  obtain ⟨_, -, h⟩ := Option.bind_eq_some_iff.mp h
  cases h
  exact loadEncryptedArtifact_hashed hload

theorem Forward.controlledSend (h : Forward db db₁) (ha : Hashed db₁ a.attemptId)
    {v : RuntimeGateSnapshot} {lease : LeaseFence} {clock : ControlledClock} {answer : Answer} :
    Forward db (controlledSend host work v sub a lease clock answer db₁) := by
  unfold RbhTrade.controlledSend
  split
  · exact h
  · rename_i hgate
    obtain ⟨leases, ⟨hc, -⟩ | ⟨-, reason, _, hok⟩⟩ := controlledSendGateTx_eq hgate
    · cases hc
    · have hr := finishControlledSubmissionTx_records_kept hok
      exact h.settle ha hr (finishControlledSubmissionTx_rows hok).1
  · rename_i hgate
    obtain ⟨leases, ⟨-, -, rfl⟩ | ⟨hc, -⟩⟩ := controlledSendGateTx_eq hgate
    · split
      · rename_i hok
        have hr := finishControlledSubmissionTx_records_kept hok
        exact h.settle ha hr (finishControlledSubmissionTx_rows hok).1
      · exact h
    · cases hc

theorem Forward.sendControlled (h : ∀ x : Execution, x.RowsOk db) {v : RuntimeGateSnapshot}
    {lease : LeaseFence} {clock : ControlledClock} {fate : SendFate} :
    Forward db (sendControlled host work v lease clock fate db) := by
  unfold RbhTrade.sendControlled
  split
  · exact .refl h
  · rename_i sub db₁ hbegin
    have hb := beginControlledSubmissionAfterGate_ok hbegin
    have h₁ : Forward db db₁ := by
      refine .opens h hb.submissions hb.rowFresh (fun s hs has hss => ?_)
        (records_same hb.holdings hb.operations)
      obtain ⟨-, hzero⟩ | ⟨-, hlatest⟩ := hb.history
      · have hpos : 0 < affected (·.attemptId = work.artifact.attemptId) db.submissions :=
          affected_pos_iff.mpr ⟨s, hs, has⟩
        omega
      · refine (h ⟨work.artifact.attemptId, "", "", ""⟩).not_inFlight (fun r hr => ?_)
          ⟨s, hs, has, hss⟩
        rw [hr, Option.map_some, Option.some.injEq] at hlatest
        rw [hlatest]
        exact fun hc => by cases hc
    split
    · exact h₁
    · exact h₁
    · rename_i a _ hload
      have ha := loadControlledArtifact_hashed hload
      split
      · exact h₁
      · rename_i db₂ hmark
        obtain ⟨-, hsubs, -, -, hholdings, hoperations⟩ := markControlledSendIntent_ok hmark
        have hr := records_same hholdings hoperations
        have hsub : sub.attemptId = a.attemptId := by
          rw [hb.sub_eq]
          exact (loadControlledArtifact_some hload).2.symm
        have h₂ : Forward db db₂ := by
          refine h₁.updates hr hsubs (fun s hs => hs.1.2.2)
            (fun _ => rfl) fun s hs _ => ?_
          rw [hs.1.2.1, hsub]
          exact .inr ha
        split
        · exact h₂.controlledSend (hashed_of_records hr.symm ha)
        · exact h₂

theorem moves_recoverSubmission {hashed : String → Prop} {environment stamp : String}
    (s : Submission) : Moves hashed s (recoverSubmission db environment stamp s) := by
  unfold recoverSubmission
  split
  · rename_i hc
    split
    · refine ⟨rfl, fun hne => absurd hc.1 hne, ?_⟩
      rintro ((hs | hs) | hs)
      · cases hs
      · cases hs
      · exact .inl (.inr hs)
    · rename_i hintent
      exact ⟨rfl, fun hne => absurd hc.1 hne, fun _ => .inl (.inr (by
        rw [hintent]
        exact Option.some_ne_none _))⟩
  · exact .refl s

theorem Forward.recover (h : ∀ x : Execution, x.RowsOk db) {lease : LeaseFence}
    {clock now : Instant} {u : Unit}
    (hok : recoverControlledInflight lease clock now db = .ok (u, db')) : Forward db db' :=
  (Forward.refl h).moves (recoverControlledInflight_records hok)
    (recoverControlledInflight_ok hok).submissions fun s _ => moves_recoverSubmission s

end Forward

/-- A call of a service, or about a receipt of an attempt that is not MANUAL. -/
inductive WorkerCall where
  | service (call : ServiceCall)
  | receipt (a : SignedArtifact) (call : ReceiptCall)

/-- The database after a call. -/
def workerStep (host : Host) (views : ManualViews) (db : Db) : WorkerCall → Db
  | .service call => serviceStep host db call
  | .receipt a call => if db.IsManual a then db else receiptStep host views a db call

theorem receiptStep_submissions {host : Host} {views : ManualViews} {a : SignedArtifact} {db : Db}
    (hm : ¬ db.IsManual a) (call : ReceiptCall) :
    (receiptStep host views a db call).submissions = db.submissions := by
  have hw := receiptStep_wrote host views hm call
  generalize receiptStep host views a db call = db' at hw ⊢
  cases hw with
  | nothing => rfl
  | observed => rfl
  | canonicalized hc => exact hc.submissions
  | orphaned hc => exact hc.submissions

theorem Forward.step {host : Host} {views : ManualViews} {db : Db}
    (h : ∀ x : Execution, x.RowsOk db) (call : WorkerCall) :
    Forward db (workerStep host views db call) := by
  cases call with
  | service call =>
      cases call with
      | submit operation clock answer => exact .submit h
      | replayUnknown operation clock answer => exact .submit h
      | sendControlled work v lease clock fate =>
          simp only [workerStep, serviceStep]
          split
          · exact .sendControlled h
          · exact .refl h
      | expirePreBroadcast a submission now =>
          simp only [workerStep, serviceStep]
          split
          · exact Tx.stateAfter_cases (Forward db) (.refl h) fun _ _ hok =>
              (Forward.refl h).expire hok
          · exact .refl h
      | recoverControlledInflight lease clock now =>
          exact Tx.stateAfter_cases (Forward db) (.refl h) fun _ _ hok => .recover h hok
  | receipt a call =>
      simp only [workerStep]
      split
      · exact .refl h
      · rename_i hm
        exact (Forward.refl h).moves (receiptStep_records hm call)
          ((receiptStep_submissions hm call).trans (List.map_id _).symm) fun s _ => .refl s

/-! ## The newest rows -/

/-- The newest row of an attempt with a sent row is sent. -/
def NewestSent (t : List Submission) : Prop :=
  ∀ s ∈ t, s.Sent → ∀ r ∈ t, r.attemptId = s.attemptId →
    r.sequence + 1 = nextSequence s.attemptId t → r.Sent

/-- A row that the call opened beside a sent one ended as sent. -/
def Steady (host : Host) (views : ManualViews) (db : Db) (call : WorkerCall) : Prop :=
  ∀ r ∈ (workerStep host views db call).submissions,
    (∀ s ∈ db.submissions, s.identity ≠ r.identity) →
    (∃ s ∈ db.submissions, s.attemptId = r.attemptId ∧ s.Sent) → r.Sent
deriving Decidable

section Newest

variable {hashed : String → Prop} {t t' : List Submission}

theorem Moves.sent {s s' : Submission} (h : Moves hashed s s') (hs : s.Sent) : s'.Sent := by
  have hne : s.state ≠ .submitting := by
    intro hc
    obtain hs | hs := hs <;> rw [hc] at hs <;> cases hs
  unfold Submission.Sent
  rw [h.stable hne]
  exact hs

/-- Rows of an attempt that only move. -/
theorem NewestSent.moves {db : Db} (h : NewestSent db.submissions)
    (hrows : ∀ x : Execution, x.RowsOk db) (hg : ∀ s ∈ db.submissions, Moves hashed s (g s))
    {s r : Submission} (hs : s ∈ db.submissions) (hsent : (g s).Sent) (hr : r ∈ db.submissions)
    (ha : r.attemptId = s.attemptId)
    (hnew : r.sequence + 1 = nextSequence s.attemptId db.submissions) : (g r).Sent := by
  by_cases hold : s.Sent
  · exact (hg r hr).sent (h s hs hold r hr ha hnew)
  · -- The row has just got its outcome, so it was the one in flight.
    have hflight : s.state = .submitting := by
      by_contra hne
      unfold Submission.Sent at hsent hold
      rw [(hg s hs).stable hne] at hsent
      exact hold hsent
    have hlatest := (hrows ⟨s.attemptId, "", "", ""⟩).latest s hs rfl hflight
    obtain rfl := (hrows ⟨s.attemptId, "", "", ""⟩).row_eq hr hs ha rfl (by
      dsimp only at hlatest
      omega)
    exact hsent

theorem NewestSent.evolves {db db' : Db} (h : NewestSent db.submissions)
    (hrows : ∀ x : Execution, x.RowsOk db) (he : Evolves hashed db.submissions db'.submissions)
    (hsteady : ∀ r ∈ db'.submissions, (∀ s ∈ db.submissions, s.identity ≠ r.identity) →
      (∃ s ∈ db.submissions, s.attemptId = r.attemptId ∧ s.Sent) → r.Sent) :
    NewestSent db'.submissions := by
  obtain ⟨g, hg, ht | ⟨r₀, hr₀, ht⟩⟩ := he
  all_goals
    have hnext : ∀ attempt, nextSequence attempt (db.submissions.map g) =
        nextSequence attempt db.submissions := fun _ =>
      nextSequence_map fun s hs => (hg s hs).identity
  · rw [ht]
    intro s' hs' hsent r' hr' ha hnew
    obtain ⟨s, hs, rfl⟩ := List.mem_map.mp hs'
    obtain ⟨r, hr, rfl⟩ := List.mem_map.mp hr'
    rw [hnext, (hg s hs).attempt, (hg r hr).sequence] at hnew
    rw [(hg s hs).attempt, (hg r hr).attempt] at ha
    exact h.moves hrows hg hs hsent hr ha hnew
  · rw [ht] at hsteady ⊢
    intro s' hs' hsent r' hr' ha hnew
    rw [nextSequence_append, hnext] at hnew
    by_cases hatt : r₀.attemptId = s'.attemptId
    · -- The opened row is the newest of its attempt.
      rw [if_pos hatt, ← hatt, ← hr₀.sequence] at hnew
      have hnewest : r' = r₀ := by
        obtain hr' | hr' := List.mem_append.mp hr'
        · obtain ⟨r, hr, rfl⟩ := List.mem_map.mp hr'
          have hle := succ_le_nextSequence hr ((hg r hr).attempt.symm.trans (ha.trans hatt.symm))
          rw [(hg r hr).sequence, ← hr₀.sequence] at *
          omega
        · exact List.mem_singleton.mp hr'
      obtain hs' | hs' := List.mem_append.mp hs'
      · obtain ⟨s, hs, rfl⟩ := List.mem_map.mp hs'
        have hsa : s.attemptId = r₀.attemptId := (hg s hs).attempt.symm.trans hatt.symm
        have hold : s.Sent := by
          unfold Submission.Sent at hsent ⊢
          rwa [(hg s hs).stable (hr₀.idle s hs hsa)] at hsent
        rw [hnewest]
        refine hsteady r₀ (List.mem_append_right _ (List.mem_singleton_self r₀)) ?_
          ⟨s, hs, hsa, hold⟩
        intro x hx hid
        simp only [Submission.identity, Prod.mk.injEq] at hid
        have hle := succ_le_nextSequence hx hid.2.1
        rw [← hr₀.sequence, hid.2.2] at hle
        omega
      · rw [hnewest, ← List.mem_singleton.mp hs']
        exact hsent
    · rw [if_neg hatt] at hnew
      have hold : ∀ x ∈ db.submissions.map g ++ [r₀], x.attemptId = s'.attemptId →
          x ∈ db.submissions.map g := by
        intro x hx hxa
        obtain hx | hx := List.mem_append.mp hx
        · exact hx
        · exact absurd (List.mem_singleton.mp hx ▸ hxa) hatt
      obtain ⟨s, hs, rfl⟩ := List.mem_map.mp (hold s' hs' rfl)
      obtain ⟨r, hr, rfl⟩ := List.mem_map.mp (hold r' hr' ha)
      rw [(hg s hs).attempt, (hg r hr).sequence] at hnew
      rw [(hg s hs).attempt, (hg r hr).attempt] at ha
      exact h.moves hrows hg hs hsent hr ha hnew

end Newest

/-! ## Runs -/

/-- Nothing has been submitted yet. The attempts have distinct ids, and every attempt has its step
and every step its operation. -/
structure Unsubmitted (db : Db) : Prop where
  submissions : db.submissions = []
  attempts : KeyUnique (·.id) db.attempts
  steps : ∀ t ∈ db.attempts, ∃ s ∈ db.steps, s.id = t.stepId
  operations : ∀ s ∈ db.steps, ∃ o ∈ db.operations, o.id = s.operationId

/-- What every steady call keeps: the rows are in order, the newest row of a sent attempt is sent,
and what was sent has a stored artifact. -/
structure Tracked (db₀ db : Db) : Prop where
  ordered : ∀ x : Execution, x.RowsOk db
  newest : NewestSent db.submissions
  signed : ∀ s ∈ db.submissions, Submission.Evidenced s → Hashed db s.attemptId
  same : records db = records db₀

section Runs

variable {host : Host} {views : ManualViews} {db₀ db : Db}

theorem Unsubmitted.tracked (h : Unsubmitted db) : Tracked db db := by
  have hnone : ∀ s ∈ db.submissions, False := by
    rw [h.submissions]
    exact fun s hs => by cases hs
  refine ⟨fun x => ⟨?_, fun s hs => (hnone s hs).elim⟩, fun s hs => (hnone s hs).elim,
    fun s hs => (hnone s hs).elim, rfl⟩
  rw [h.submissions]
  exact .nil

theorem Tracked.step (h : Tracked db₀ db) (call : WorkerCall)
    (hsteady : Steady host views db call) : Tracked db₀ (workerStep host views db call) := by
  have hf : Forward db (workerStep host views db call) := .step h.ordered call
  refine ⟨hf.ordered, h.newest.evolves h.ordered hf.rows hsteady, fun s' hs' he => ?_,
    hf.same.trans h.same⟩
  refine hashed_of_records hf.same.symm ?_
  obtain ⟨g, hg, ht | ⟨r, hr, ht⟩⟩ := hf.rows <;> rw [ht] at hs'
  · obtain ⟨s, hs, rfl⟩ := List.mem_map.mp hs'
    rw [(hg s hs).attempt]
    exact ((hg s hs).evidence he).elim (h.signed s hs) id
  · obtain hs' | hs' := List.mem_append.mp hs'
    · obtain ⟨s, hs, rfl⟩ := List.mem_map.mp hs'
      rw [(hg s hs).attempt]
      exact ((hg s hs).evidence he).elim (h.signed s hs) id
    · obtain rfl := List.mem_singleton.mp hs'
      exact hr.evidence he

/-- The records keep the attempts, with their ids, their steps and their operations. -/
theorem Unsubmitted.later (h : Unsubmitted db₀) (hsame : records db = records db₀) :
    KeyUnique (·.id) db.attempts ∧
      ∀ t ∈ db.attempts, ∃ s ∈ db.steps, s.id = t.stepId ∧ ∃ o ∈ db.operations,
      o.id = s.operationId := by
  simp only [records, Prod.mk.injEq] at hsame
  obtain ⟨ho, hs, ha⟩ := hsame
  constructor
  · have hids := congrArg (List.map Prod.fst) ha
    rw [List.map_map, List.map_map] at hids
    exact (congrArg List.Nodup hids).mpr h.attempts
  · intro t ht
    obtain ⟨t₀, ht₀, hte⟩ := List.mem_map.mp
      (ha ▸ List.mem_map_of_mem (f := fun t : TransactionAttempt => (t.id, t.stepId, t.payload)) ht)
    obtain ⟨s₀, hs₀, hse⟩ := h.steps t₀ ht₀
    obtain ⟨o₀, ho₀, hoe⟩ := h.operations s₀ hs₀
    obtain ⟨s, hsm, hs'⟩ := List.mem_map.mp
      (hs.symm ▸ List.mem_map_of_mem (f := fun s : ExecutionStep => (s.id, s.operationId)) hs₀)
    obtain ⟨o, hom, ho'⟩ := List.mem_map.mp
      (ho.symm ▸ List.mem_map_of_mem (f := fun o : Operation => o.id) ho₀)
    simp only [Prod.mk.injEq] at hte hs'
    exact ⟨s, hsm, by rw [hs'.1, hse, hte.2.1], o, hom, by rw [ho', hoe, hs'.2]⟩

/-- In a tracked state every sent attempt is listed. -/
theorem Tracked.listed (h : Tracked db₀ db) (hstart : Unsubmitted db₀)
    (hmanual : ∀ row ∈ db.recoveryRows, ∀ item, scanRecoveryItem row = .ok item →
      item.Sourced views db) :
    ∃ items, listControlledRecoveryItems views db = .ok items ∧
      ∀ s ∈ db.submissions, s.Sent → ∃ item ∈ items, item.attemptId = s.attemptId := by
  obtain ⟨hunique, hjoined⟩ := hstart.later h.same
  have hhash : ∀ row ∈ db.recoveryRows, row.2.1.payload ≠ none := by
    rintro ⟨o, t, sub⟩ hrow
    obtain ⟨-, -, ht, hsub, hatt, -, hsent⟩ := mem_recoveryRows.mp hrow
    obtain ⟨u, hu, huid, hp⟩ := h.signed sub hsub (.inl hsent)
    obtain rfl := hunique.eq hu ht (huid.trans hatt)
    exact hp
  obtain ⟨items, hitems, hrows⟩ := listControlledRecoveryItems_ok hhash hmanual
  refine ⟨items, hitems, fun s hs hsent => ?_⟩
  -- The newest row of the attempt is sent too, and the join finds it.
  obtain ⟨r, hr, hra, hnew⟩ := exists_newest hs rfl
  have hrsent := h.newest s hs hsent r hr hra hnew
  obtain ⟨t, ht, htid, -⟩ := h.signed s hs (.inl hsent)
  obtain ⟨st, hst, hstid, o, ho, hoid⟩ := hjoined t ht
  have hrow : (o, t, r) ∈ db.recoveryRows :=
    mem_recoveryRows.mpr ⟨ho, ⟨st, hst, hoid.symm, hstid.symm⟩, ht, hr, hra.trans htid.symm,
      by rw [htid]; exact hnew, hrsent⟩
  obtain ⟨item, hitem, hia⟩ := hrows _ hrow
  exact ⟨item, hitem, hia.trans htid⟩

end Runs

/-- In every state of a run of steady calls, every attempt with a sent submission is listed for
recovery, as long as the MANUAL items among the rows have their source. -/
theorem sent_attempts_are_listed (host : Host) (views : ManualViews) (db : Db)
    (hstart : Unsubmitted db) (calls : List WorkerCall)
    (hok : Run.Along (workerStep host views) (Steady host views) db calls) (n : Nat)
    (hmanual : ∀ row ∈ ((calls.take n).foldl (workerStep host views) db).recoveryRows, ∀ item,
      scanRecoveryItem row = .ok item →
        item.Sourced views ((calls.take n).foldl (workerStep host views) db)) :
    ∃ items, listControlledRecoveryItems views
        ((calls.take n).foldl (workerStep host views) db) = .ok items ∧
      ∀ s ∈ ((calls.take n).foldl (workerStep host views) db).submissions, s.Sent →
        ∃ item ∈ items, item.attemptId = s.attemptId :=
  (hok.always (P := Tracked db) hstart.tracked (fun _ call h hc => h.step call hc) n).listed hstart
    hmanual

/-- From an empty table of submissions an attempt has one send in flight at most, and no later call
removes a row or changes an outcome or a record. -/
theorem recorded_sends_stay (host : Host) (views : ManualViews) (db₀ : Db)
    (calls later : List WorkerCall) :
    let db := calls.foldl (workerStep host views) { db₀ with submissions := [] }
    let db' := later.foldl (workerStep host views) db
    (∀ s ∈ db.submissions, ∀ r ∈ db.submissions, s.attemptId = r.attemptId →
      s.state = .submitting → r.state = .submitting → s = r) ∧
    records db' = records db ∧
    ∀ s ∈ db.submissions, ∃ s' ∈ db'.submissions, s'.identity = s.identity ∧
      (s.state ≠ .submitting → s'.state = s.state) := by
  intro db db'
  have hdb : ∀ x : Execution, x.RowsOk db :=
    List.foldlRecOn (motive := fun d => ∀ x : Execution, x.RowsOk d) calls _
      (fun _ => ⟨.nil, fun _ hs => by cases hs⟩) fun _ h call _ => (Forward.step h call).ordered
  refine ⟨fun s hs r hr ha => (hdb ⟨s.attemptId, "", "", ""⟩).sole hs hr rfl ha.symm, ?_⟩
  refine (List.foldlRecOn (motive := fun d => (∀ x : Execution, x.RowsOk d) ∧
    records d = records db ∧ ∀ s ∈ db.submissions, ∃ s' ∈ d.submissions,
      s'.identity = s.identity ∧ (s.state ≠ .submitting → s'.state = s.state)) later _
    ⟨hdb, rfl, fun s hs => ⟨s, hs, rfl, fun _ => rfl⟩⟩ ?_).2
  rintro d ⟨hd, hsame, hold⟩ call -
  have hf : Forward d (workerStep host views d call) := .step hd call
  obtain ⟨⟨g, hg, hrows⟩, hnext, hkept⟩ := hf
  refine ⟨hnext, hkept.trans hsame, fun s hs => ?_⟩
  obtain ⟨r, hr, hid, hstate⟩ := hold s hs
  refine ⟨g r, ?_, (hg r hr).identity.trans hid, fun hne => ?_⟩
  · obtain he | ⟨_, -, he⟩ := hrows <;> simp [he, List.mem_map_of_mem hr]
  · rw [(hg r hr).stable (hstate hne ▸ hne), hstate hne]

/-! ## Replays of a broken send -/

theorem heldDb_unsubmitted : Unsubmitted heldDb :=
  ⟨rfl, List.nodup_singleton _, by decide, by decide⟩

/-- The calls of the services, one by one. -/
def services (calls : List ServiceCall) : List WorkerCall := calls.map .service

theorem accepted_replay_is_listed :
    let db := ((services (brokenThen (.accepted "0xtx"))).take 2).foldl (workerStep Host.plain {})
      heldDb
    (∃ s ∈ db.submissions, s.Sent) ∧
      ∃ items, listControlledRecoveryItems {} db = .ok items ∧
        ∀ s ∈ db.submissions, s.Sent → ∃ item ∈ items, item.attemptId = s.attemptId := by
  intro db
  have hnone : db.manualOrderSources = [] := by decide +kernel
  refine ⟨by decide +kernel, sent_attempts_are_listed Host.plain {} heldDb heldDb_unsubmitted _
    (by decide +kernel) 2 fun row _ item _ hm => ?_⟩
  obtain ⟨m, hm, -⟩ := hm
  change m ∈ db.manualOrderSources at hm
  rw [hnone] at hm
  cases hm

/-- A replay that the node rejects: the ambiguous send is no longer listed. -/
theorem rejected_replay_is_not_listed :
    let db := (services (brokenThen (.rejected "nonce too low"))).foldl (workerStep Host.plain {})
      heldDb
    Unsubmitted heldDb ∧ (∃ s ∈ db.submissions, s.Sent) ∧
      (listControlledRecoveryItems {} db).toOption = some [] :=
  ⟨heldDb_unsubmitted, by decide +kernel, by decide +kernel⟩

end RbhTrade.Settlement
