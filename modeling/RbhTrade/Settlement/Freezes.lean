import RbhTrade.Kernel.Artifacts
import RbhTrade.Settlement.Executions

/-!
# How a frozen lane is freed

A lane that is frozen for an operation stays so until a receipt of the operation is canonical or a
send of it is recorded as known unsent. Two transactions do not look at the lane they change: the
commit of an artifact signs one that is frozen, so a later `Prepare` undoes a freeze; and the
settlement of a receipt clears the lane of the wallet, whichever operation it is frozen for.
-/

namespace RbhTrade.Settlement

open Tables GoTime

/-- The lane of the wallet is frozen for the operation. -/
def FrozenFor (wallet operation : String) (db : Db) : Prop :=
  ∃ l ∈ db.lanes, l.OwnedBy wallet operation ∧ l.state = .frozen
deriving Decidable

/-- A send of the operation is recorded as known unsent. -/
def UnsentOf (operation : String) (db : Db) : Prop :=
  ∃ t ∈ db.attempts, ∃ s ∈ db.steps, ∃ r ∈ db.submissions, s.id = t.stepId ∧
    s.operationId = operation ∧ r.attemptId = t.id ∧ r.state = .knownUnsent

/-- The call settles a receipt of the operation. -/
def Canonicalizes (operation : String) (db : Db) : ExecutionCall → Prop
  | .lane (.receipt a (.canonicalize r ..)) =>
      a.operation = operation ∧ ∃ x ∈ db.receipts, x.Pending r.id a.attemptId
  | _ => False

/-- The call records outcomes of sends of the operation. -/
def RecordsFor (operation : String) (call : ExecutionCall) : Prop :=
  (∃ a, call.outcomeOf = some a ∧ a.operation = operation) ∨
    ∃ lease clock now, call = .recover lease clock now

/-- The call neither signs an operation whose lane is frozen nor settles a receipt while the lane of
the wallet is frozen for another operation. -/
def RespectsFreezes (db : Db) : ExecutionCall → Prop
  | .lane (.commitSigned _ a _) =>
      (∃ t ∈ db.attempts, t.PreparedFor a) → ¬ FrozenFor a.walletId a.operation db
  | .lane (.receipt a (.canonicalize r ..)) =>
      (∃ x ∈ db.receipts, x.Pending r.id a.attemptId) →
        ∀ l ∈ db.lanes, l.walletId = a.walletId → l.state = .frozen →
          ∀ o ∈ l.operationId, o = a.operation
  | _ => True

instance (db : Db) : DecidablePred (RespectsFreezes db) := fun call => by
  unfold RespectsFreezes
  split <;> infer_instance

/-! ## One transaction -/

section Step

variable {host : ServiceHost} {db db' : Db} {wallet operation : String}

theorem FrozenFor.update (h : FrozenFor wallet operation db) {p : WalletLane → Prop}
    [DecidablePred p] {f : WalletLane → WalletLane} (hl : db'.lanes = updateWhere p f db.lanes)
    (hf : ∀ l ∈ db.lanes, l.OwnedBy wallet operation → l.state = .frozen → p l →
      (f l).OwnedBy wallet operation ∧ (f l).state = .frozen) : FrozenFor wallet operation db' := by
  obtain ⟨l, hmem, hown, hstate⟩ := h
  refine ⟨_, hl ▸ mem_updateWhere_of_mem hmem, ?_⟩
  split
  · rename_i hp
    exact hf l hmem hown hstate hp
  · exact ⟨hown, hstate⟩

theorem FrozenFor.same (h : FrozenFor wallet operation db) (hl : db'.lanes = db.lanes) :
    FrozenFor wallet operation db' := by
  obtain ⟨l, hmem, hl'⟩ := h
  exact ⟨l, hl ▸ hmem, hl'⟩

theorem FrozenFor.freeze (h : FrozenFor wallet operation db) {p : WalletLane → Prop}
    [DecidablePred p] {reason stamp : String}
    (hl : db'.lanes = updateWhere p (WalletLane.freeze reason stamp) db.lanes) :
    FrozenFor wallet operation db' :=
  h.update hl fun _ _ hown _ _ => ⟨hown, rfl⟩

/-- A reservation takes an idle lane only. -/
theorem FrozenFor.reserve (h : FrozenFor wallet operation db) {o walletId signer stamp : String}
    (hl : LaneReserved o walletId signer stamp db db') : FrozenFor wallet operation db' := by
  obtain ⟨l, hmem, hown, hstate⟩ := h
  obtain ⟨step, nonce, hlanes⟩ := hl.lanes
  refine ⟨l, ?_, hown, hstate⟩
  rw [hlanes]
  refine mem_updateWhere_of_not ?_ fun hfree => ?_
  · unfold withLane
    split
    · exact hmem
    · exact List.mem_append_left _ hmem
  · rw [hfree.2.2] at hstate
    cases hstate

/-- Orphaning a receipt takes over a lane only if it is idle or already of the operation. -/
theorem FrozenFor.orphan (h : FrozenFor wallet operation db) {a : SignedArtifact}
    {receipt stamp : String} {lane : WalletLane} (hkeys : NoConflict WalletLane.Conflicts db.lanes)
    (ho : Orphaned host.toHost a receipt stamp lane db db') : FrozenFor wallet operation db' := by
  refine h.update ho.lanes fun l hmem hown hstate hw => ?_
  have hread := selectRow_prop ho.read
  obtain rfl := hkeys.eq (fun _ _ => Eq.symm) hmem (selectRow_mem ho.read) (hw.trans hread.symm)
  split
  · rename_i hreclaim
    obtain hidle | hop := hreclaim
    · rw [hidle] at hstate
      cases hstate
    · exact ⟨⟨hown.1, hop ▸ hown.2⟩, rfl⟩
  · exact ⟨hown, rfl⟩

/-- A row that an outcome has settled. -/
theorem UnsentOf.of_settled {a : SignedArtifact} {id stamp : String} {o : Outcome}
    {call : ExecutionCall} (h : Outcomes call db a id o) (ho : o.state = .knownUnsent)
    (hid : db.SameIdentities db')
    (hsub : db'.submissions =
      updateWhere (·.AwaitsOutcome id a) (Submission.settle o stamp) db.submissions) :
    UnsentOf a.operation db' := by
  obtain ⟨t, ht, s, hs, htid, -, -, hst, hop⟩ := h.stored
  obtain ⟨t', ht', htid', htstep, -⟩ := hid.symm.attempt ht
  obtain ⟨s', hs', hsid, hsop, -⟩ := hid.symm.step hs
  obtain ⟨r, hr, hawaits⟩ := exists_of_affected_eq_one h.one
  refine ⟨t', ht', s', hs', _, hsub ▸ mem_updateWhere_of_pos hr hawaits, ?_, hsop.trans hop, ?_, ho⟩
  · rw [hsid, htstep, hst]
  · exact hawaits.1.2.1.trans (htid.symm.trans htid'.symm)

/-- The recovery frees the lanes of sends that it has recorded as known unsent. -/
theorem FrozenFor.recover (h : FrozenFor wallet operation db) {environment stamp : String}
    (hr : Recovered environment stamp db db') (hsends : SendsOk db'.submissions) :
    FrozenFor wallet operation db' ∨ UnsentOf operation db' := by
  by_cases howns : db'.OwnsSubmission Submission.FirstKnownUnsent operation
  · obtain ⟨s, hs, t, ht, r, hmem, hstep, hattempt, hfirst, -, hop⟩ := howns
    exact .inr ⟨t, ht, s, hs, r, hmem, hstep.symm, hop, hattempt, hsends.classed r hmem hfirst.1⟩
  · have hmid : FrozenFor wallet operation { db with
        lanes := updateWhere (·.OwnerIn (db'.OwnsSubmission Submission.FirstKnownUnsent))
          (WalletLane.clear (some "known_unsent") stamp) db.lanes } := by
      refine h.update rfl fun l _ hown _ ⟨o, ho, hq⟩ => ?_
      rw [hown.2] at ho
      exact absurd (Option.some.inj ho ▸ hq) howns
    exact .inl (hmid.freeze hr.lanes)

theorem FrozenFor.wrote (h : FrozenFor wallet operation db) {call : ExecutionCall}
    (hk : Keyed host.toHost db) (hok : RespectsFreezes db call) (hw : Wrote host db call db') :
    FrozenFor wallet operation db' ∨ Canonicalizes operation db call ∨
      (RecordsFor operation call ∧ UnsentOf operation db') := by
  have hafter := hk.wrote hw
  cases hw with
  | nothing => exact .inl h
  | beside hs => exact .inl (h.same hs.lanes)
  | admitted => exact .inl (h.same rfl)
  | dryRun => exact .inl (h.same rfl)
  | unreserved => exact .inl (h.same rfl)
  | reserved _ hl => exact .inl (h.reserve hl)
  | signed _ hprepared =>
      refine .inl (h.update rfl fun l hmem hown hstate hsigned => ?_)
      exact absurd ⟨l, hmem, hsigned.1, hstate⟩ (hok hprepared)
  | opened hs => exact .inl (h.same hs.lanes)
  | marked hs => exact .inl (h.same hs.lanes)
  | settled => exact .inl (h.same rfl)
  | @released _ a id stamp o leases hout ho =>
      by_cases hop : a.operation = operation
      · refine .inr (.inr ⟨.inl ⟨a, hout.of, hop⟩, hop ▸ .of_settled hout ho ?_ rfl⟩)
        exact .of_updates rfl rfl (fun _ => rfl) fun _ => rfl
      · refine .inl (h.update rfl fun l _ hown _ hcleared => absurd ?_ hop)
        exact Option.some.inj (hcleared.2.symm.trans hown.2)
  | frozen => exact .inl (h.freeze rfl)
  | frozenRisk => exact .inl (h.freeze rfl)
  | froze => exact .inl (h.freeze rfl)
  | expired =>
      refine .inl (h.update rfl fun l _ _ hstate hcleared => ?_)
      obtain hc | hc := hcleared.2 <;> rw [hc] at hstate <;> cases hstate
  | @canonicalized a r effect now f _ _ hc =>
      by_cases hop : a.operation = operation
      · exact .inr (.inl ⟨hop, hc.pending⟩)
      · refine .inl (h.update hc.lanes fun l hmem hown hstate hwallet => absurd ?_ hop)
        exact (hok hc.pending l hmem hwallet hstate operation hown.2).symm
  | orphaned _ ho => exact .inl (h.orphan hk.lanes.keys ho)
  | @recovered lease clock now _ hr =>
      exact (h.recover hr hafter.sends).imp_right fun hunsent =>
        .inr ⟨.inr ⟨lease, clock, now, rfl⟩, hunsent⟩

end Step

/-! ## Runs -/

/-- In a run whose transactions respect a freeze, a lane that is frozen for an operation is so after
the next transaction, unless that one settles a receipt of the operation or records a send of it
that is known unsent. -/
theorem frozen_lane_waits_for_settlement (host : ServiceHost) (views : ManualViews) (db : Db)
    (hnew : Untouched db) (calls : List ExecutionCall)
    (hok : Run.Along (executionStep host views) RespectsFreezes db calls) (n : Nat)
    (call : ExecutionCall) (hcall : calls[n]? = some call) (wallet operation : String)
    (hfrozen : FrozenFor wallet operation ((calls.take n).foldl (executionStep host views) db)) :
    let before := (calls.take n).foldl (executionStep host views) db
    let after := (calls.take (n + 1)).foldl (executionStep host views) db
    FrozenFor wallet operation after ∨ Canonicalizes operation before call ∨
      (RecordsFor operation call ∧ UnsentOf operation after) := by
  intro before after
  have hkeyed : Keyed host.toHost before :=
    hok.always hnew.keyed (fun _ call h _ => h.step views call) n
  have hstep : after = executionStep host views before call := Run.foldl_take_succ hcall
  rw [hstep]
  exact hfrozen.wrote hkeyed (hok.get hcall) (executionStep_wrote host views before call)

/-! ### A freeze that is undone -/

/-- The artifact is frozen after an ambiguous send, and then a receipt of it is settled. -/
def unknownThenSettled : List ExecutionCall :=
  [reserveOp "a" 7, signA, .beginSubmission artifactA false 0,
    finishA 0 { state := .broadcastUnknown }, observeA, canonicalizeA].map .lane

theorem dryRunDb_untouched : Untouched dryRunDb where
  operations := (show List.Nodup _ by decide)
  steps := by decide
  wallets := by decide
  attempts := rfl
  reservations := rfl
  submissions := rfl
  keys := .nil
  lanes := fun _ hl => absurd hl List.not_mem_nil

theorem unknown_lane_waits_for_receipt :
    FrozenFor "wallet" "a" ((unknownThenSettled.take 4).foldl
      (executionStep ServiceHost.plain {}) dryRunDb) ∧
    FrozenFor "wallet" "a" ((unknownThenSettled.take 5).foldl
      (executionStep ServiceHost.plain {}) dryRunDb) := by
  have hfrozen : FrozenFor "wallet" "a" ((unknownThenSettled.take 4).foldl
      (executionStep ServiceHost.plain {}) dryRunDb) := by decide +kernel
  refine ⟨hfrozen, ?_⟩
  obtain h | h | ⟨⟨a, ha, -⟩ | ⟨_, _, _, ha⟩, -⟩ :=
    frozen_lane_waits_for_settlement ServiceHost.plain {} dryRunDb dryRunDb_untouched
      unknownThenSettled (by decide +kernel) 4 (.lane observeA) rfl "wallet" "a" hfrozen
  · exact h
  · exact h.elim
  · cases ha
  · cases ha

/-- A caller that finds another pending nonce after its reservation. -/
def driftedCaller : Kernel.PrepareCall :=
  { Kernel.callerWith "0x1" with
    input := { (Kernel.callerWith "0x1").input with currentNonce := some 8 } }

/-- The transactions of a `Prepare` that finds the nonce moved and of one that finds it again. -/
def frozenThenSigned : List ExecutionCall :=
  [reserveOp "a" 7, .freezeExecution "wallet" "a" "pending_nonce_changed_before_sign" 0,
    reserveOp "a" 7, signA].map .lane

/-- A `Prepare` freezes the lane because the nonce has moved. The next one finds the nonce it
reserved, signs the frozen lane, and its artifact can be sent. The last run settles operation `a`
again and clears the lane that is frozen for operation `b`. -/
theorem later_prepare_signs_frozen_lane :
    let run := (List.foldl (executionStep ServiceHost.plain {}) dryRunDb ·)
    let drifted := ((Kernel.prepareProgram ServiceHost.plain "a" driftedCaller).alone
      Kernel.candidateDb).2
    let retried := (Kernel.prepareProgram ServiceHost.plain "a" (Kernel.callerWith "0x1")).alone
      drifted
    (FrozenFor "wallet" "a" drifted ∧ retried.2.lanes.map (·.state) = [.signed] ∧
      (match retried.1 with
        | .ok a => (beginSubmission Host.plain a false 0 retried.2).isOk
        | .error _ => false) = true) ∧
    (FrozenFor "wallet" "a" (run (frozenThenSigned.take 3)) ∧
      (run frozenThenSigned).lanes.map (·.state) = [.signed]) ∧
    (FrozenFor "wallet" "b" (run ((reservedFirst.map .lane).take 8)) ∧
      (run (reservedFirst.map .lane)).lanes.map (·.state) = [.idle]) := by
  decide +kernel

end RbhTrade.Settlement
