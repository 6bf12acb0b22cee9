import RbhTrade.Settlement.Lanes

/-!
# Settlement after a reorganisation

A transaction that a reorganisation removed from its block can be included again, in the same block
or in another one. Settling it again should succeed with whatever the new block executed, and the
three places that tell how an operation ended should agree at all times: the operation, its
execution step, and the receipts of its attempt.

The position effect keeps the asset and the delta of the first settlement, and a later one must
repeat them. So an attempt can always be settled again with the facts it was settled with, whatever
other transactions were committed in between, and with no others.

`Orphan` sets the step back and leaves the operation as it is. The three places agree in every run
in which no call orphans a receipt while one of the attempt is canonical, and no call settles one
against a canonical receipt of the other result.
-/

namespace RbhTrade.Settlement

open Tables GoTime

/-! ## The facts of an effect -/

/-- The attempt is not MANUAL, and its stored effect has the given facts. -/
structure Booked (a : SignedArtifact) (e : EffectFacts) (db : Db) : Prop where
  legacy : ¬ db.IsManual a
  index : UnresolvedOnce db.steps
  effect : ∃ p, db.effectOf a.attemptId = some p ∧ p.asset = e.asset ∧ p.delta = e.delta

variable {r : ReceiptObservation} {stamp : String}

section Booked

variable {host : Host} {views : ManualViews} {a b : SignedArtifact} {e : EffectFacts} {db db' : Db}

theorem Booked.of_same (h : Booked a e db) (ho : db.SameOrigins db') (he : db'.effects = db.effects)
    (hi : UnresolvedOnce db'.steps) : Booked a e db' := by
  refine ⟨(ho.isManual a).not.mpr h.legacy, hi, ?_⟩
  unfold Db.effectOf
  rw [he]
  exact h.effect

/-- An update of effects that keeps their attempts and their facts. -/
theorem Booked.of_update (h : Booked a e db) (ho : db.SameOrigins db')
    (hi : UnresolvedOnce db'.steps) {p : PositionEffect → Prop} [DecidablePred p]
    {f : PositionEffect → PositionEffect} (he : db'.effects = updateWhere p f db.effects)
    (hf : ∀ x, (f x).attemptId = x.attemptId ∧ (f x).asset = x.asset ∧ (f x).delta = x.delta) :
    Booked a e db' := by
  refine ⟨(ho.isManual a).not.mpr h.legacy, hi, ?_⟩
  obtain ⟨x, hx, hfacts⟩ := h.effect
  unfold Db.effectOf at hx ⊢
  rw [he, selectRow_updateWhere, hx]
  · refine ⟨_, rfl, ?_⟩
    by_cases hp : p x
    · simpa only [if_pos hp, (hf x).2.1, (hf x).2.2] using hfacts
    · simpa only [if_neg hp] using hfacts
  · exact fun y _ => by rw [(hf y).1]

theorem Booked.canonicalize (h : Booked a e db) (hc : Canonicalized host b r stamp db db') :
    Booked a e db' := by
  obtain ⟨-, happ⟩ | ⟨-, he⟩ := hc.effects
  · obtain ⟨-, receipt, stamp', he⟩ | ⟨-, p, -, -, -, he⟩ := happ
    · exact h.of_update hc.origins hc.index he fun _ => ⟨rfl, rfl, rfl⟩
    · -- The stored effect of the attempt is found before an appended one.
      refine ⟨(hc.origins.isManual a).not.mpr h.legacy, hc.index, ?_⟩
      obtain ⟨x, hx, hfacts⟩ := h.effect
      unfold Db.effectOf at hx ⊢
      rw [he, selectRow_append, hx]
      exact ⟨x, rfl, hfacts⟩
  · exact h.of_same hc.origins he hc.index

theorem Booked.orphan (h : Booked a e db) {receipt : String} {lane : WalletLane}
    (hc : Orphaned host b receipt stamp lane db db') : Booked a e db' :=
  h.of_update hc.origins hc.index hc.effects fun _ => ⟨rfl, rfl, rfl⟩

theorem Booked.receipt (h : Booked a e db) (hm : ¬ db.IsManual b) (call : ReceiptCall) :
    Booked a e (receiptStep host views b db call) := by
  have hw := receiptStep_wrote host views hm call
  generalize receiptStep host views b db call = db' at hw ⊢
  cases hw with
  | nothing => exact h
  | observed => exact h.of_same ⟨rfl, rfl⟩ rfl h.index
  | canonicalized hc => exact h.canonicalize hc
  | orphaned hc => exact h.orphan hc

/-! Every other transaction writes neither the effects nor what makes an operation MANUAL. -/

theorem Booked.finishSubmission (h : Booked a e db) {sub : SubmissionRecord} {o : Outcome}
    {now : Instant} {u : Unit} (hok : finishSubmission b sub o now db = .ok (u, db')) :
    Booked a e db' := by
  obtain ⟨-, ⟨-, rfl⟩ | ⟨-, rfl, hindex⟩ | ⟨-, rfl⟩⟩ := finishSubmission_eq hok
  · exact h.of_same ⟨rfl, rfl⟩ rfl (h.index.resolve fun _ =>
      ⟨rfl, show ¬ StepStatus.Unresolved .knownUnsent by decide⟩)
  · exact h.of_same ⟨rfl, rfl⟩ rfl hindex
  · exact h.of_same ⟨rfl, rfl⟩ rfl h.index

/-- No transaction of an operation that is not MANUAL changes the facts of a stored effect. -/
theorem Booked.step (h : Booked a e db) (call : LaneCall) :
    Booked a e (laneStep host views db call) := by
  cases call with
  | reserveExecution operation walletId signer nonce asset amount gas now =>
      refine Tx.stateAfter_cases (Booked a e) h fun _ db' hdb => ?_
      obtain rfl | hr := reserveExecution_ok hdb
      · exact h
      · exact h.of_same ⟨hr.orders, hr.claims⟩ hr.effects hr.index
  | commitSigned reservation b now =>
      simp only [laneStep]
      split
      · refine Tx.stateAfter_cases (Booked a e) h fun _ db' hdb => ?_
        obtain ⟨-, hindex, rfl⟩ := commitSigned_eq hdb
        exact h.of_same ⟨rfl, rfl⟩ rfl hindex
      · exact h
  | beginSubmission b allowFrozen now =>
      refine Tx.stateAfter_cases (Booked a e) h fun _ db' hdb => ?_
      obtain ⟨-, -, rfl⟩ := openSubmissionTx_ok (beginSubmission_ok hdb).2
      exact h.of_same ⟨rfl, rfl⟩ rfl h.index
  | finishSubmission b sub o now =>
      simp only [laneStep]
      split
      · exact Tx.stateAfter_cases (Booked a e) h fun _ db' hdb => h.finishSubmission hdb
      · exact h
  | expirePreBroadcast b submission now =>
      simp only [laneStep]
      split
      · refine Tx.stateAfter_cases (Booked a e) h fun _ db' hdb => ?_
        obtain ⟨rows, rfl, -⟩ := expirePreBroadcast_eq hdb
        exact h.of_same ⟨rfl, rfl⟩ rfl (h.index.resolve fun _ =>
          ⟨rfl, show ¬ StepStatus.Unresolved .expiredPrebroadcast by decide⟩)
      · exact h
  | freezeExecution walletId operation reason now => exact h.of_same ⟨rfl, rfl⟩ rfl h.index
  | receipt b call =>
      simp only [laneStep]
      split
      · rename_i hb
        exact h.receipt hb.2 call
      · exact h

end Booked

/-! ## Settling again -/

/-- The operation of the artifact is settled by the receipt, with the facts of its effect. -/
structure Resettled (a : SignedArtifact) (r : ReceiptObservation) (e : EffectFacts) (db : Db) :
    Prop where
  effect : ∃ p, db.effectOf a.attemptId = some p ∧ p.state = .active ∧ p.receiptId = r.id ∧
    p.asset = e.asset ∧ p.delta = e.delta
  lane : ∀ l ∈ db.lanes, l.walletId = a.walletId → l.state = .idle
  reservation : ∀ q ∈ db.reservations, q.operationId = a.operation → q.status = .settled

section Resettle

variable {host : Host} {views : ManualViews} {a : SignedArtifact} {r : ReceiptObservation}
  {e : EffectFacts} {now : Instant} {f : Fence} {db db' : Db}

/-- The settlement of a success books the facts it is given. -/
theorem canonicalizeFenced_booked (hm : ¬ db.IsManual a) (hs : r.status = 1)
    (hpending : ∃ x ∈ db.receipts, x.Pending r.id a.attemptId) {u : Unit}
    (h : canonicalizeFenced host views a r (some e) now f.lease f.clock f.recheck db =
      .ok (u, db')) :
    Booked a e db' ∧ Resettled a r e db' ∧ e.asset ≠ "" ∧ e.delta ≠ "" := by
  have hok := canonicalizeFenced_legacy hm h
  have hlease : assertRecoveryLeaseTx f.lease f.clock db = .ok ((), db) := by
    obtain ⟨_, _, hl, -⟩ := Tx.bind_ok.mp hok
    obtain rfl := assertRecoveryLeaseTx_ok hl
    exact hl
  rw [canonicalizeTx_eq hlease, if_pos hpending, if_pos hs] at hok
  obtain ⟨_, mid, happly, hsettle⟩ := Tx.bind_ok.mp hok
  obtain ⟨e', p, he, hne, hp, hactive, hreceipt, hfacts⟩ := applyPositionEffectTx_effectOf happly
  obtain rfl := Option.some.inj he
  obtain ⟨_, _, -, rfl⟩ := applyPositionEffectTx_ok happly
  obtain ⟨hindex, rfl⟩ := updateTx_ok.mp hsettle
  refine ⟨⟨hm, hindex, p, hp, hfacts⟩, ⟨⟨p, hp, hactive, hreceipt, hfacts⟩, ?_, ?_⟩, hne⟩
  · intro l hl hw
    obtain ⟨-, hno⟩ | ⟨x, -, -, rfl⟩ := mem_updateWhere_cases hl
    · exact absurd hw hno
    · rfl
  · intro q hq ho
    obtain ⟨-, hno⟩ | ⟨x, -, -, rfl⟩ := mem_updateWhere_cases hq
    · exact absurd ho hno
    · exact if_pos hs

/-- A booked effect can be applied for any pending receipt. -/
theorem Booked.commits (h : Booked a e db) (hs : r.status = 1) (hne : e.asset ≠ "" ∧ e.delta ≠ "")
    (hpending : ∃ x ∈ db.receipts, x.Pending r.id a.attemptId)
    (hlease : assertRecoveryLeaseTx f.lease f.clock db = .ok ((), db)) :
    Tx.Commits (canonicalizeFenced host views a r (some e) now f.lease f.clock f.recheck) db := by
  have hsource : manualRecoverySourceTx views a db = .ok (false, db) := by
    simp only [manualRecoverySourceTx, Tx.query_bind, id_eq, if_neg h.legacy, Tx.pure_ok,
      true_and]
  obtain ⟨p, hp, hfacts⟩ := h.effect
  have hknown : ∃ x ∈ (db.markCanonical a r (formatRFC3339Nano now)).receipts, x.id = r.id := by
    obtain ⟨x, hx, hxp⟩ := hpending
    exact ⟨_, mem_updateWhere_of_pos hx hxp, hxp.1⟩
  obtain ⟨_, mid, happly⟩ : Tx.Commits (applyPositionEffectTx host a r.id (some e)
      (formatRFC3339Nano now)) (db.markCanonical a r (formatRFC3339Nano now)) :=
    applyPositionEffectTx_commits hp hfacts hne hknown
  have hindex : UnresolvedOnce (mid.settleExecution a r.status (formatRFC3339Nano now)).steps := by
    obtain ⟨_, _, -, rfl⟩ := applyPositionEffectTx_ok happly
    refine h.index.updateWhere fun s _ _ => ⟨rfl, fun hu => ?_⟩
    rw [if_pos hs] at hu
    obtain hu | hu | hu | hu | hu | hu := hu <;> cases hu
  refine .bind hsource ?_
  rw [if_neg Bool.false_ne_true, Tx.Commits, canonicalizeTx_eq hlease, if_pos hpending, if_pos hs]
  exact Tx.Commits.bind happly ⟨(), _, updateTx_ok.mpr ⟨hindex, rfl⟩⟩

/-- A later settlement cannot change the facts of a booked effect. -/
theorem Booked.facts_eq {e₂ : EffectFacts} (h : Booked a e db) (hs : r.status = 1)
    (hpending : ∃ x ∈ db.receipts, x.Pending r.id a.attemptId) {u : Unit}
    (hok : canonicalizeFenced host views a r (some e₂) now f.lease f.clock f.recheck db =
      .ok (u, db')) : e₂ = e := by
  have hkept : Booked a e (receiptStep host views a db (.canonicalize r (some e₂) now f)) :=
    h.receipt h.legacy _
  rw [receiptStep, Tx.stateAfter_ok hok] at hkept
  obtain ⟨p, hp, hasset, hdelta⟩ := hkept.effect
  obtain ⟨q, hq, hasset₂, hdelta₂⟩ := (canonicalizeFenced_booked h.legacy hs hpending hok).1.effect
  obtain rfl := Option.some.inj (hp.symm.trans hq)
  exact congrArg₂ EffectFacts.mk (hasset₂.symm.trans hasset) (hdelta₂.symm.trans hdelta)

end Resettle

/-- An attempt whose success was settled with an asset and a delta can be settled again, for any
pending receipt of it and whatever transactions were committed in between, with these facts and with
no others. -/
theorem resettled_iff_same_facts (host : Host) (views : ManualViews) (a : SignedArtifact)
    (e₁ e₂ : EffectFacts) (r₁ r₂ : ReceiptObservation) (now₁ now₂ : Instant) (f₁ f₂ : Fence)
    (db₀ db₁ db₂ : Db) (calls : List LaneCall) (hm : ¬ db₀.IsManual a)
    (hs₁ : r₁.status = 1) (hp₁ : ∃ x ∈ db₀.receipts, x.Pending r₁.id a.attemptId)
    (hfirst : canonicalizeFenced host views a r₁ (some e₁) now₁ f₁.lease f₁.clock f₁.recheck db₀ =
      .ok ((), db₁))
    (hrun : db₂ = calls.foldl (laneStep host views) db₁)
    (hs₂ : r₂.status = 1) (hp₂ : ∃ x ∈ db₂.receipts, x.Pending r₂.id a.attemptId)
    (hlease : assertRecoveryLeaseTx f₂.lease f₂.clock db₂ = .ok ((), db₂)) :
    (∃ db₃, canonicalizeFenced host views a r₂ (some e₂) now₂ f₂.lease f₂.clock f₂.recheck db₂ =
      .ok ((), db₃) ∧ Resettled a r₂ e₂ db₃) ↔ e₂ = e₁ := by
  obtain ⟨hbooked, -, hne⟩ := canonicalizeFenced_booked hm hs₁ hp₁ hfirst
  have hlater : Booked a e₁ db₂ := by
    rw [hrun]
    exact List.foldlRecOn calls _ hbooked fun db h call _ => h.step call
  constructor
  · rintro ⟨db₃, hok, -⟩
    exact hlater.facts_eq hs₂ hp₂ hok
  · rintro rfl
    obtain ⟨u, db₃, hok⟩ : Tx.Commits (canonicalizeFenced host views a r₂ (some e₂) now₂ f₂.lease
        f₂.clock f₂.recheck) db₂ := hlater.commits hs₂ hne hp₂ hlease
    exact ⟨db₃, hok, (canonicalizeFenced_booked hlater.legacy hs₂ hp₂ hok).2.1⟩

/-- The first settlement of the transaction in a block. -/
def settledIn (block : String) (number : Nat) : Db :=
  [observeIn block number, settleIn block number].foldl
    (receiptStep Host.plain {} signedArtifact) signedDb

/-- The block is orphaned and the transaction appears in another one. -/
def movedTo (block : String) (number : Nat) : List LaneCall :=
  [.receipt signedArtifact (orphanIn "a" 1), .receipt signedArtifact (observeIn block number)]

theorem resettled_in_another_block :
    ∃ db, canonicalizeFenced Host.plain {} signedArtifact (receiptIn "b" 2)
        (some ⟨"0xtoken", "5"⟩) 0 none 0 0
        ((movedTo "b" 2).foldl (laneStep Host.plain {}) (settledIn "a" 1)) = .ok ((), db) ∧
      Resettled signedArtifact (receiptIn "b" 2) ⟨"0xtoken", "5"⟩ db := by
  obtain ⟨u, db₁, hok⟩ := Tx.Commits.of_isOk (s := receiptStep Host.plain {} signedArtifact signedDb
    (observeIn "a" 1)) (m := canonicalizeFenced Host.plain {} signedArtifact (receiptIn "a" 1)
    (some ⟨"0xtoken", "5"⟩) 0 none 0 0) (by decide +kernel)
  have hrun : settledIn "a" 1 = db₁ := Tx.stateAfter_ok hok
  exact (resettled_iff_same_facts Host.plain {} signedArtifact ⟨"0xtoken", "5"⟩ ⟨"0xtoken", "5"⟩
    (receiptIn "a" 1) (receiptIn "b" 2) 0 0 {} {} _ db₁ _ (movedTo "b" 2) (by decide +kernel) rfl
    (by decide +kernel) hok (by rw [hrun]) rfl (by decide +kernel) rfl).mpr rfl

/-- The other block executed another amount: the settlement is refused, the effect stays rolled back
and the lane frozen. -/
theorem other_amount_never_settles :
    let db := (movedTo "b" 2).foldl (laneStep Host.plain {}) (settledIn "a" 1)
    let again := canonicalizeFenced Host.plain {} signedArtifact (receiptIn "b" 2)
      (some ⟨"0xtoken", "6"⟩) 0 none 0 0
    (∃ x ∈ db.receipts, x.Pending (receiptIn "b" 2).id "attempt") ∧
      (again db).isOk = false ∧
      ((again.stateAfter db).effects.map fun p => (p.state, p.receiptId, p.delta)) =
        [(.rolledBack, "attempt/a", "5")] ∧
      (again.stateAfter db).lanes.map (·.state) = [.frozen] := by
  decide +kernel

/-! ## What the operation, the step and the receipts tell -/

/-- The status of the operation. -/
def OperationIs (a : SignedArtifact) (db : Db) (status : OperationStatus) : Prop :=
  ∃ o ∈ db.operations, o.id = a.operation ∧ o.status = status
deriving Decidable

/-- The status of the execution step. -/
def StepIs (a : SignedArtifact) (db : Db) (status : StepStatus) : Prop :=
  ∃ s ∈ db.steps, s.id = a.stepId ∧ s.status = status
deriving Decidable

/-- Some receipt of the attempt is in the state. -/
def ReceiptIs (a : SignedArtifact) (db : Db) (state : CanonicalState) : Prop :=
  ∃ r ∈ db.receipts, r.attemptId = a.attemptId ∧ r.state = state
deriving Decidable

/-- The three places agree on whether the attempt succeeded, and on whether it was reverted. -/
def StatusLaw (a : SignedArtifact) (db : Db) : Prop :=
  ((OperationIs a db .canonicalSuccess ↔ StepIs a db .canonicalSuccess) ∧
    (StepIs a db .canonicalSuccess ↔ ReceiptIs a db .canonicalSuccess)) ∧
  ((OperationIs a db .canonicalRevert ↔ StepIs a db .canonicalRevert) ∧
    (StepIs a db .canonicalRevert ↔ ReceiptIs a db .canonicalRevert))
deriving Decidable

/-- The call does not go against a canonical receipt: one is settled only beside canonical receipts
of the same result, and orphaned only when none is canonical. -/
def Concordant (a : SignedArtifact) (db : Db) : ReceiptCall → Prop
  | .observe .. => True
  | .canonicalize r .. => (∃ x ∈ db.receipts, x.Pending r.id a.attemptId) →
      ∀ x ∈ db.receipts, x.attemptId = a.attemptId → x.state.Canonical →
        x.state = canonicalStateOf r.status
  | .orphan .. => ∀ x ∈ db.receipts, x.attemptId = a.attemptId → ¬ x.state.Canonical

instance (a : SignedArtifact) (db : Db) : DecidablePred (Concordant a db)
  | .observe .. => inferInstanceAs (Decidable True)
  | .canonicalize .. => inferInstanceAs (Decidable ((∃ x ∈ db.receipts, _) → ∀ x ∈ db.receipts, _))
  | .orphan .. => inferInstanceAs (Decidable (∀ x ∈ db.receipts, _))

/-- An operation that is not MANUAL, with its rows, whose three places agree. -/
structure Filed (a : SignedArtifact) (db : Db) : Prop where
  legacy : ¬ db.IsManual a
  operation : ∃ o ∈ db.operations, o.id = a.operation
  step : ∃ s ∈ db.steps, s.id = a.stepId
  law : StatusLaw a db

section Filed

variable {host : Host} {views : ManualViews} {a : SignedArtifact} {db db' : Db}

/-- A write that gives every row of a key the same status. -/
theorem status_after_update {ρ κ τ : Type} [DecidableEq κ] (key : ρ → κ) (status : ρ → τ)
    {k : κ} {v w : τ} {f : ρ → ρ} {t t' : List ρ} (ht : t' = updateWhere (key · = k) f t)
    (hkey : ∀ r, key (f r) = key r) (hv : ∀ r, status (f r) = v) (hrow : ∃ r ∈ t, key r = k) :
    (∃ r ∈ t', key r = k ∧ status r = w) ↔ v = w := by
  constructor
  · rintro ⟨r, hr, hk, hw⟩
    rw [ht] at hr
    obtain ⟨-, hno⟩ | ⟨x, -, -, rfl⟩ := mem_updateWhere_cases hr
    · exact absurd hk hno
    · exact (hv x).symm.trans hw
  · rintro rfl
    obtain ⟨r, hr, hk⟩ := hrow
    exact ⟨f r, ht ▸ mem_updateWhere_of_pos hr hk, (hkey r).trans hk, hv r⟩

theorem Filed.canonicalize (h : Filed a db) (hc : Canonicalized host a r stamp db db')
    (hok : ∀ x ∈ db.receipts, x.attemptId = a.attemptId → x.state.Canonical →
      x.state = canonicalStateOf r.status) : Filed a db' := by
  have hoperation : ∀ w, OperationIs a db' w ↔
      (if r.status = 1 then .canonicalSuccess else .canonicalRevert) = w := fun w =>
    status_after_update Operation.id Operation.status hc.operations
      (fun _ => rfl) (fun _ => rfl) h.operation
  have hstep : ∀ w, StepIs a db' w ↔
      (if r.status = 1 then .canonicalSuccess else .canonicalRevert) = w := fun w =>
    status_after_update ExecutionStep.id ExecutionStep.status hc.steps
      (fun _ => rfl) (fun _ => rfl) h.step
  -- Every canonical receipt of the attempt now has the result of the settled one.
  have hreceipt : ∀ c : CanonicalState, c.Canonical →
      (ReceiptIs a db' c ↔ canonicalStateOf r.status = c) := by
    intro c hcanonical
    constructor
    · rintro ⟨x, hx, hxa, rfl⟩
      rw [hc.receipts] at hx
      obtain ⟨hx, -⟩ | ⟨y, -, -, rfl⟩ := mem_updateWhere_cases hx
      · exact (hok x hx hxa hcanonical).symm
      · rfl
    · rintro rfl
      obtain ⟨x, hx, hxp⟩ := hc.pending
      unfold ReceiptIs
      rw [hc.receipts]
      exact ⟨_, mem_updateWhere_of_pos hx hxp, hxp.2.1, rfl⟩
  refine ⟨(hc.origins.isManual a).not.mpr h.legacy, ?_, ?_, ?_⟩
  · rw [hc.operations]
    refine (exists_updateWhere_iff ?_).mpr h.operation
    exact fun _ _ => Iff.rfl
  · rw [hc.steps]
    refine (exists_updateWhere_iff ?_).mpr h.step
    exact fun _ _ => Iff.rfl
  · simp only [StatusLaw, hoperation, hstep, hreceipt _ (.inl rfl), hreceipt _ (.inr rfl),
      canonicalStateOf]
    by_cases hs : r.status = 1 <;> simp [hs]

theorem Filed.orphan (h : Filed a db) {receipt : String} {lane : WalletLane}
    (hc : Orphaned host a receipt stamp lane db db')
    (hok : ∀ x ∈ db.receipts, x.attemptId = a.attemptId → ¬ x.state.Canonical) : Filed a db' := by
  have hbefore : ∀ c : CanonicalState, c.Canonical → ¬ ReceiptIs a db c := by
    rintro c hcanonical ⟨x, hx, hxa, rfl⟩
    exact hok x hx hxa hcanonical
  have hreceipt : ∀ c : CanonicalState, c.Canonical → ¬ ReceiptIs a db' c := by
    rintro c hcanonical ⟨x, hx, hxa, rfl⟩
    rw [hc.receipts] at hx
    obtain ⟨hx, -⟩ | ⟨y, -, -, rfl⟩ := mem_updateWhere_cases hx
    · exact hok x hx hxa hcanonical
    · obtain hs | hs := hcanonical <;> cases hs
  have hstep : ∀ w, StepIs a db' w ↔
      (if lane.Reclaimable a.operation then .reconciling else .orphaned) = w :=
    fun w => status_after_update ExecutionStep.id ExecutionStep.status hc.steps
      (fun _ => rfl) (fun _ => rfl) h.step
  have hresolved : ¬ StepIs a db' .canonicalSuccess ∧ ¬ StepIs a db' .canonicalRevert := by
    rw [hstep, hstep]
    split <;> exact ⟨(fun he => by cases he), (fun he => by cases he)⟩
  have hoperation : ∀ w, OperationIs a db' w ↔ OperationIs a db w := by
    intro w
    unfold OperationIs
    rw [hc.operations]
  -- None of the three was canonical before, and none is now.
  obtain ⟨⟨hso, hsr⟩, hro, hrr⟩ := h.law
  have hsuccess : ¬ OperationIs a db .canonicalSuccess :=
    hso.not.mpr (hsr.not.mpr (hbefore _ (.inl rfl)))
  have hrevert : ¬ OperationIs a db .canonicalRevert :=
    hro.not.mpr (hrr.not.mpr (hbefore _ (.inr rfl)))
  refine ⟨(hc.origins.isManual a).not.mpr h.legacy, ?_, ?_, ⟨?_, ?_⟩, ?_, ?_⟩
  · rw [hc.operations]
    exact h.operation
  · rw [hc.steps]
    refine (exists_updateWhere_iff ?_).mpr h.step
    exact fun _ _ => Iff.rfl
  · exact (hoperation _).trans (iff_of_false hsuccess hresolved.1)
  · exact iff_of_false hresolved.1 (hreceipt _ (.inl rfl))
  · exact (hoperation _).trans (iff_of_false hrevert hresolved.2)
  · exact iff_of_false hresolved.2 (hreceipt _ (.inr rfl))

theorem Filed.observe (h : Filed a db) (hr : ¬ r.state.Canonical) :
    Filed a { db with receipts := db.receipts ++ [r] } := by
  have hreceipt : ∀ c : CanonicalState, c.Canonical →
      (ReceiptIs a { db with receipts := db.receipts ++ [r] } c ↔ ReceiptIs a db c) := by
    intro c hcanonical
    constructor
    · rintro ⟨x, hx, hxa, rfl⟩
      obtain hx | hx := List.mem_append.mp hx
      · exact ⟨x, hx, hxa, rfl⟩
      · exact absurd (List.mem_singleton.mp hx ▸ hcanonical) hr
    · rintro ⟨x, hx, hxa⟩
      exact ⟨x, List.mem_append_left _ hx, hxa⟩
  obtain ⟨⟨hso, hsr⟩, hro, hrr⟩ := h.law
  exact ⟨h.legacy, h.operation, h.step, ⟨hso, hsr.trans (hreceipt _ (.inl rfl)).symm⟩, hro,
    hrr.trans (hreceipt _ (.inr rfl)).symm⟩

theorem Filed.receipt (h : Filed a db) (call : ReceiptCall) (hok : Concordant a db call) :
    Filed a (receiptStep host views a db call) := by
  have hw := receiptStep_wrote host views h.legacy call
  generalize receiptStep host views a db call = db' at hw ⊢
  cases hw with
  | nothing => exact h
  | observed => exact h.observe (by rintro (hc | hc) <;> cases hc)
  | canonicalized hc => exact h.canonicalize hc (hok hc.pending)
  | orphaned hc => exact h.orphan hc hok

end Filed

/-- In every state of a run of concordant calls the operation, its step and its receipts agree on
how the operation ended. -/
theorem statuses_agree (host : Host) (views : ManualViews) (a : SignedArtifact) (db : Db)
    (h : Filed a db) (calls : List ReceiptCall)
    (hok : Run.Along (receiptStep host views a) (Concordant a) db calls) (n : Nat) :
    StatusLaw a ((calls.take n).foldl (receiptStep host views a) db) :=
  (hok.always (P := Filed a) h (fun _ call h hc => h.receipt call hc) n).law

theorem signedDb_filed : Filed signedArtifact signedDb := by
  refine ⟨by decide, ⟨_, List.mem_singleton_self _, rfl⟩, ⟨_, List.mem_singleton_self _, rfl⟩, ?_⟩
  decide

/-- A block that is orphaned before its receipt was settled, and another one that is settled. -/
theorem statuses_agree_when_settled_late :
    let calls := [observeIn "a" 1, orphanIn "a" 1, observeIn "b" 2, settleIn "b" 2]
    OperationIs signedArtifact (calls.foldl (receiptStep Host.plain {} signedArtifact) signedDb)
        .canonicalSuccess ∧
      StatusLaw signedArtifact
        ((calls.take 4).foldl (receiptStep Host.plain {} signedArtifact) signedDb) :=
  ⟨by decide +kernel, statuses_agree Host.plain {} signedArtifact signedDb signedDb_filed _
    (by decide +kernel) 4⟩

/-- A settled receipt is orphaned: the operation still tells of a success. -/
theorem orphaned_operation_tells_success :
    let db := [observeIn "a" 1, settleIn "a" 1, orphanIn "a" 1].foldl
      (receiptStep Host.plain {} signedArtifact) signedDb
    Filed signedArtifact signedDb ∧ OperationIs signedArtifact db .canonicalSuccess ∧
      StepIs signedArtifact db .reconciling ∧ db.receipts.map (·.state) = [.orphaned] ∧
      ¬ StatusLaw signedArtifact db :=
  ⟨signedDb_filed, by decide +kernel, by decide +kernel, by decide +kernel, by decide +kernel⟩

end RbhTrade.Settlement
