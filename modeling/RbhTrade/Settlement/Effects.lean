import RbhTrade.Lib.Run
import RbhTrade.Store.Receipts

/-!
# The position effect of an attempt

Receipts of an attempt are kept per block, its position effect once. Over a sequence of
observations, settlements and reorganisations of one attempt that is not MANUAL, the effect should
be active exactly while one of the receipts is `canonical_success`, and one receipt at most should
be canonical.

The store does not ensure this by itself. `Canonicalize` does not look for another canonical
receipt, and `Orphan` rolls the effect of the attempt back whichever receipt it was called with. The
law holds along every run in which no call contests a canonical receipt: a receipt is settled only
when no other one is canonical, and orphaned only when no other one is `canonical_success`.
-/

namespace RbhTrade.Settlement

open Tables GoTime

/-! ## Calls -/

/-- The fence of a call and the clock values its checks read. `ObserveReceipt`, `Canonicalize` and
`Orphan` call without a fence. -/
structure Fence where
  lease : Option LeaseFence := none
  clock : Instant := 0
  recheck : Instant := 0

/-- A call about a receipt of one attempt. -/
inductive ReceiptCall where
  | observe (r : ReceiptObservation) (now : Instant) (fence : Fence)
  | canonicalize (r : ReceiptObservation) (effect : Option EffectFacts) (now : Instant)
      (fence : Fence)
  | orphan (r : ReceiptObservation) (now : Instant) (fence : Fence)

section

variable (host : Host) (views : ManualViews) (a : SignedArtifact)

/-- The database after a call. -/
def receiptStep (db : Db) : ReceiptCall → Db
  | .observe r now f =>
      (observeReceiptFenced host views a r now f.lease f.clock f.recheck).stateAfter db
  | .canonicalize r effect now f =>
      (canonicalizeFenced host views a r effect now f.lease f.clock f.recheck).stateAfter db
  | .orphan r now f => (orphanFenced host views a r now f.lease f.clock f.recheck).stateAfter db

/-- What a call writes about an attempt that is not MANUAL. -/
inductive ReceiptWrote (db : Db) : ReceiptCall → Db → Prop where
  | nothing (call : ReceiptCall) : ReceiptWrote db call db
  | observed {r : ReceiptObservation} {now : Instant} {f : Fence}
      (fresh : ∀ x ∈ db.receipts, ¬ x.Conflicts (r.observedFor host a (formatRFC3339Nano now))) :
      ReceiptWrote db (.observe r now f)
        { db with receipts := db.receipts ++ [r.observedFor host a (formatRFC3339Nano now)] }
  | canonicalized {r : ReceiptObservation} {effect : Option EffectFacts} {now : Instant}
      {f : Fence} {db' : Db} (settled : Canonicalized host a r (formatRFC3339Nano now) db db') :
      ReceiptWrote db (.canonicalize r effect now f) db'
  | orphaned {r : ReceiptObservation} {now : Instant} {f : Fence} {lane : WalletLane} {db' : Db}
      (rolledBack : Orphaned host a r.id (formatRFC3339Nano now) lane db db') :
      ReceiptWrote db (.orphan r now f) db'

variable {a} in
theorem receiptStep_wrote {db : Db} (hm : ¬ db.IsManual a) (call : ReceiptCall) :
    ReceiptWrote host a db call (receiptStep host views a db call) := by
  cases call with
  | observe r now f =>
      refine Tx.stateAfter_cases (ReceiptWrote host a db _) (.nothing _) fun _ db' hdb => ?_
      obtain rfl | ⟨hfresh, rfl⟩ := observeReceiptTx_ok (observeReceiptFenced_legacy hm hdb)
      · exact .nothing _
      · exact .observed hfresh
  | canonicalize r effect now f =>
      refine Tx.stateAfter_cases (ReceiptWrote host a db _) (.nothing _) fun _ db' hdb => ?_
      obtain rfl | hc := canonicalizeTx_ok (canonicalizeFenced_legacy hm hdb)
      · exact .nothing _
      · exact .canonicalized hc
  | orphan r now f =>
      refine Tx.stateAfter_cases (ReceiptWrote host a db _) (.nothing _) fun _ db' hdb => ?_
      obtain ⟨lane, hc⟩ := orphanTx_ok (orphanFenced_legacy hm hdb)
      exact .orphaned hc

end

/-! ## The law -/

/-- The effect of the attempt counts in the wallet's position. -/
def EffectActive (db : Db) (attempt : String) : Prop :=
  ∃ p ∈ db.effects, p.attemptId = attempt ∧ p.state = .active
deriving Decidable

/-- A receipt of the attempt is `canonical_success`. -/
def SuccessCanonical (db : Db) (attempt : String) : Prop :=
  ∃ r ∈ db.receipts, r.attemptId = attempt ∧ r.state = .canonicalSuccess
deriving Decidable

/-- The number of canonical receipts of the attempt. -/
def canonicalCount (db : Db) (attempt : String) : Nat :=
  affected (fun r => r.attemptId = attempt ∧ r.state.Canonical) db.receipts

/-- The effect follows the sole canonical receipt. -/
def EffectLaw (db : Db) (attempt : String) : Prop :=
  (EffectActive db attempt ↔ SuccessCanonical db attempt) ∧ canonicalCount db attempt ≤ 1

/-- An attempt that is not MANUAL and about which nothing has been observed yet. -/
def Unobserved (db : Db) (a : SignedArtifact) : Prop :=
  ¬ db.IsManual a ∧ (∀ r ∈ db.receipts, r.attemptId ≠ a.attemptId) ∧
    ∀ p ∈ db.effects, p.attemptId ≠ a.attemptId
deriving Decidable

/-- The call does not contest a canonical receipt. -/
def Uncontested (a : SignedArtifact) (db : Db) : ReceiptCall → Prop
  | .observe .. => True
  | .canonicalize r .. => (∃ x ∈ db.receipts, x.Pending r.id a.attemptId) →
      ∀ x ∈ db.receipts, x.attemptId = a.attemptId → x.id ≠ r.id → ¬ x.state.Canonical
  | .orphan r .. =>
      ∀ x ∈ db.receipts, x.attemptId = a.attemptId → x.id ≠ r.id → x.state ≠ .canonicalSuccess

instance (a : SignedArtifact) (db : Db) : DecidablePred (Uncontested a db) := fun call => by
  unfold Uncontested
  split <;> infer_instance

/-! ## The invariant -/

/-- Two rows of the attempt with one receipt id. -/
def SameReceipt (attempt : String) (x y : ReceiptObservation) : Prop :=
  x.attemptId = attempt ∧ y.attemptId = attempt ∧ x.id = y.id

/-- What every uncontested call keeps. -/
structure EffectInv (host : Host) (a : SignedArtifact) (db : Db) : Prop where
  legacy : ¬ db.IsManual a
  ids : NoConflict (SameReceipt a.attemptId) db.receipts
  sole : ∀ x ∈ db.receipts, ∀ y ∈ db.receipts, x.attemptId = a.attemptId →
    y.attemptId = a.attemptId → x.state.Canonical → y.state.Canonical → x.id = y.id
  own : ∀ p ∈ db.effects, p.attemptId = a.attemptId → p.id = positionEffectID host a.attemptId
  active : EffectActive db a.attemptId ↔ SuccessCanonical db a.attemptId

variable {host : Host} {views : ManualViews} {a : SignedArtifact} {db db' : Db}

theorem EffectInv.init (h : Unobserved db a) : EffectInv host a db := by
  obtain ⟨hm, hr, hp⟩ := h
  refine ⟨hm, ?_, ?_, ?_, ?_⟩
  · exact List.pairwise_of_forall_mem_list fun x hx _ _ hc => hr x hx hc.1
  · intro x hx _ _ ha
    exact absurd ha (hr x hx)
  · intro p hpm ha
    exact absurd ha (hp p hpm)
  · exact iff_of_false (fun ⟨p, hpm, ha, _⟩ => hp p hpm ha) fun ⟨r, hrm, ha, _⟩ => hr r hrm ha

theorem EffectInv.law (h : EffectInv host a db) : EffectLaw db a.attemptId :=
  ⟨h.active, h.ids.affected_le_one fun x hx y hy hpx hpy =>
    ⟨hpx.1, hpy.1, h.sole x hx y hy hpx.1 hpy.1 hpx.2 hpy.2⟩⟩

theorem EffectInv.unique (h : EffectInv host a db) {x y : ReceiptObservation}
    (hx : x ∈ db.receipts) (hy : y ∈ db.receipts) (hax : x.attemptId = a.attemptId)
    (hay : y.attemptId = a.attemptId) (hid : x.id = y.id) : x = y :=
  h.ids.eq (fun _ _ hc => ⟨hc.2.1, hc.1, hc.2.2.symm⟩) hx hy ⟨hax, hay, hid⟩

variable {stamp : String}

theorem SameReceipt.of_update {attempt : String} {p : ReceiptObservation → Prop} [DecidablePred p]
    {s : CanonicalState} (x y : ReceiptObservation) (h : SameReceipt attempt
      (if p x then { x with state := s, version := x.version + 1, updatedAt := stamp } else x)
      (if p y then { y with state := s, version := y.version + 1, updatedAt := stamp } else y)) :
    SameReceipt attempt x y := by
  split at h <;> split at h <;> exact h

/-! ## One lemma per call -/

theorem EffectInv.observe (h : EffectInv host a db) {r : ReceiptObservation}
    (hfresh : ∀ x ∈ db.receipts, ¬ x.Conflicts (r.observedFor host a stamp)) :
    EffectInv host a { db with receipts := db.receipts ++ [r.observedFor host a stamp] } := by
  have hnot : ¬ (r.observedFor host a stamp).state.Canonical := by
    rintro (hc | hc) <;> cases hc
  refine ⟨h.legacy, ?_, ?_, h.own, ?_⟩
  · exact h.ids.append fun x hx hc => hfresh x hx (.inl hc.2.2)
  · intro x hx y hy hax hay hcx hcy
    obtain hx | hx := List.mem_append.mp hx
    · obtain hy | hy := List.mem_append.mp hy
      · exact h.sole x hx y hy hax hay hcx hcy
      · exact absurd (List.mem_singleton.mp hy ▸ hcy) hnot
    · exact absurd (List.mem_singleton.mp hx ▸ hcx) hnot
  · refine h.active.trans ⟨fun ⟨x, hx, hax⟩ => ⟨x, List.mem_append_left _ hx, hax⟩, ?_⟩
    rintro ⟨x, hx, hax, hs⟩
    obtain hx | hx := List.mem_append.mp hx
    · exact ⟨x, hx, hax, hs⟩
    · exact absurd (List.mem_singleton.mp hx ▸ .inl hs) hnot

theorem EffectInv.canonicalize (h : EffectInv host a db) {r : ReceiptObservation}
    (hc : Canonicalized host a r stamp db db')
    (hok : ∀ x ∈ db.receipts, x.attemptId = a.attemptId → x.id ≠ r.id → ¬ x.state.Canonical) :
    EffectInv host a db' := by
  obtain ⟨z, hz, hpz⟩ := hc.pending
  -- Every canonical receipt of the attempt is now the settled one.
  have hid : ∀ x ∈ db'.receipts, x.attemptId = a.attemptId → x.state.Canonical → x.id = r.id := by
    intro x hx hax hcx
    rw [hc.receipts] at hx
    obtain ⟨hx, -⟩ | ⟨y, -, hpy, rfl⟩ := mem_updateWhere_cases hx
    · by_contra hne
      exact hok x hx hax hne hcx
    · exact hpy.1
  refine ⟨(hc.origins.isManual a).not.mpr h.legacy, ?_, ?_, ?_, ?_⟩
  · rw [hc.receipts]
    exact h.ids.updateWhere SameReceipt.of_update
  · exact fun x hx y hy hax hay hcx hcy => (hid x hx hax hcx).trans (hid y hy hay hcy).symm
  · obtain ⟨-, happ⟩ | ⟨-, he⟩ := hc.effects
    · exact (happ.own_and_active h.own).1
    · rw [he]
      exact h.own
  · obtain ⟨hone, happ⟩ | ⟨hne, he⟩ := hc.effects
    · refine iff_of_true (happ.own_and_active h.own).2 ?_
      unfold SuccessCanonical
      rw [hc.receipts]
      exact ⟨_, mem_updateWhere_of_pos hz hpz, hpz.2.1, by simp [canonicalStateOf, hone]⟩
    · -- The pending receipt rules out that the attempt had a canonical one before.
      have hbefore : ¬ SuccessCanonical db a.attemptId := by
        rintro ⟨x, hx, hax, hs⟩
        have hxid : x.id = r.id := by
          by_contra hne'
          exact hok x hx hax hne' (.inl hs)
        obtain rfl := h.unique hx hz hax hpz.2.1 (hxid.trans hpz.1.symm)
        obtain ho | ho := hpz.2.2 <;> rw [hs] at ho <;> cases ho
      refine iff_of_false ?_ ?_
      · unfold EffectActive
        rw [he]
        exact h.active.not.mpr hbefore
      · rintro ⟨x, hx, hax, hs⟩
        rw [hc.receipts] at hx
        obtain ⟨hx, -⟩ | ⟨y, -, -, rfl⟩ := mem_updateWhere_cases hx
        · exact hbefore ⟨x, hx, hax, hs⟩
        · simp [canonicalStateOf, hne] at hs

theorem EffectInv.orphan (h : EffectInv host a db) {receipt : String} {lane : WalletLane}
    (hc : Orphaned host a receipt stamp lane db db')
    (hok : ∀ x ∈ db.receipts, x.attemptId = a.attemptId → x.id ≠ receipt →
      x.state ≠ .canonicalSuccess) : EffectInv host a db' := by
  -- A receipt that is canonical afterwards was left alone.
  have hold : ∀ x ∈ db'.receipts, x.state.Canonical → x ∈ db.receipts ∧ ¬ x.Orphanable receipt := by
    intro x hx hcx
    rw [hc.receipts] at hx
    obtain hx | ⟨y, -, -, rfl⟩ := mem_updateWhere_cases hx
    · exact hx
    · obtain hs | hs := hcx <;> cases hs
  refine ⟨(hc.origins.isManual a).not.mpr h.legacy, ?_, ?_, ?_, ?_⟩
  · rw [hc.receipts]
    exact h.ids.updateWhere SameReceipt.of_update
  · intro x hx y hy hax hay hcx hcy
    exact h.sole x (hold x hx hcx).1 y (hold y hy hcy).1 hax hay hcx hcy
  · intro p hp hap
    rw [hc.effects] at hp
    obtain ⟨hp, -⟩ | ⟨q, hq, -, rfl⟩ := mem_updateWhere_cases hp
    · exact h.own p hp hap
    · exact h.own q hq hap
  · refine iff_of_false ?_ ?_
    · rintro ⟨p, hp, hap, hs⟩
      rw [hc.effects] at hp
      obtain ⟨hp, hno⟩ | ⟨q, -, -, rfl⟩ := mem_updateWhere_cases hp
      · exact hno ⟨h.own p hp hap, hs⟩
      · cases hs
    · rintro ⟨x, hx, hax, hs⟩
      obtain ⟨hx, hno⟩ := hold x hx (.inl hs)
      by_cases hid : x.id = receipt
      · exact hno ⟨hid, .inr (.inl hs)⟩
      · exact hok x hx hax hid hs

/-! ## Runs -/

theorem EffectInv.step (h : EffectInv host a db) (call : ReceiptCall)
    (hok : Uncontested a db call) : EffectInv host a (receiptStep host views a db call) := by
  have hw := receiptStep_wrote host views h.legacy call
  generalize receiptStep host views a db call = db' at hw ⊢
  cases hw with
  | nothing => exact h
  | observed hfresh => exact h.observe hfresh
  | canonicalized hc => exact h.canonicalize hc (hok hc.pending)
  | orphaned hc => exact h.orphan hc hok

/-- In every state of a run of uncontested calls on an attempt, its effect is active exactly while
a receipt of it is `canonical_success`, and at most one of its receipts is canonical. -/
theorem effect_follows_sole_canonical_receipt (host : Host) (views : ManualViews)
    (a : SignedArtifact) (db : Db) (hnew : Unobserved db a) (calls : List ReceiptCall)
    (hok : Run.Along (receiptStep host views a) (Uncontested a) db calls) (n : Nat) :
    EffectLaw ((calls.take n).foldl (receiptStep host views a) db) a.attemptId :=
  (hok.always (P := EffectInv host a) (EffectInv.init hnew)
    (fun _ call h hc => h.step call hc) n).law

/-! ## Two blocks

A transaction that two competing blocks include. -/

/-- A signed execution of one wallet. -/
def signedArtifact : SignedArtifact :=
  { attemptId := "attempt", operation := "op", stepId := "step", walletId := "wallet", nonce := 7,
    payload := { txHash := "0xtx" } }

def signedDb : Db :=
  { operations := [{ id := "op", walletId := "wallet", status := .signedPrebroadcast }],
    dryRunWallets := [{ id := "wallet", address := "0xw", enabled := true }],
    steps := [{ id := "step", operationId := "op", stepIndex := 1, status := .signed,
                walletId := some "wallet" }],
    attempts := [{ id := "attempt", stepId := "step", nonce := 7, status := .signed,
                   walletId := "wallet", payload := some { txHash := "0xtx" } }],
    lanes := [{ walletId := "wallet", address := "0xw", state := .signed,
                operationId := some "op", stepId := some "step", reservedNonce := some 7 }],
    reservations := [{ operationId := "op", stepId := "step", walletId := "wallet",
                       status := .signed }] }

/-- The successful receipt of the transaction in a block. -/
def receiptIn (block : String) (number : Nat) : ReceiptObservation :=
  { id := "attempt/" ++ block, attemptId := "attempt", txHash := "0xtx", blockNumber := number,
    blockHash := block, status := 1, state := .observed, version := 1 }

def observeIn (block : String) (number : Nat) : ReceiptCall :=
  .observe (receiptIn block number) 0 {}

def settleIn (block : String) (number : Nat) : ReceiptCall :=
  .canonicalize (receiptIn block number) (some ⟨"0xtoken", "5"⟩) 0 {}

def orphanIn (block : String) (number : Nat) : ReceiptCall := .orphan (receiptIn block number) 0 {}

/-- A reorganisation that orphans the old block before the new one is settled. -/
def orderlyReorg : List ReceiptCall :=
  [observeIn "a" 1, settleIn "a" 1, observeIn "b" 2, orphanIn "a" 1, settleIn "b" 2]

theorem orderly_reorg_keeps_effect :
    EffectActive (orderlyReorg.foldl (receiptStep Host.plain {} signedArtifact) signedDb)
      "attempt" ∧
    EffectLaw ((orderlyReorg.take 5).foldl (receiptStep Host.plain {} signedArtifact) signedDb)
      "attempt" :=
  ⟨by decide +kernel,
    effect_follows_sole_canonical_receipt Host.plain {} signedArtifact signedDb (by decide)
      orderlyReorg (by decide +kernel) 5⟩

/-- The same blocks with the new one settled first: both receipts are canonical, and orphaning the
old one takes the effect of the new one away. -/
theorem settling_before_orphaning_loses_effect :
    Unobserved signedDb signedArtifact ∧
    canonicalCount ([observeIn "a" 1, settleIn "a" 1, observeIn "b" 2, settleIn "b" 2].foldl
      (receiptStep Host.plain {} signedArtifact) signedDb) "attempt" = 2 ∧
    ¬ EffectActive ([observeIn "a" 1, settleIn "a" 1, observeIn "b" 2, settleIn "b" 2,
      orphanIn "a" 1].foldl (receiptStep Host.plain {} signedArtifact) signedDb) "attempt" ∧
    SuccessCanonical ([observeIn "a" 1, settleIn "a" 1, observeIn "b" 2, settleIn "b" 2,
      orphanIn "a" 1].foldl (receiptStep Host.plain {} signedArtifact) signedDb) "attempt" := by
  decide +kernel

end RbhTrade.Settlement
