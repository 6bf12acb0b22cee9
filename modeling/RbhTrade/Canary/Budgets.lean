import RbhTrade.Canary.Accounts
import RbhTrade.Store.Budget

/-!
# The budget of an authorization

An authorization has an account, and each operation charged to it a row with the amount. Over any
sequence of creations, transitions and charges the account shows the number of its rows and their
exact sum, within the two caps, which never change.

A repeated charge is answered from its row only while the authorization is armed and not expired:
the call looks at the authorization before it looks at the row.
-/

namespace RbhTrade.Canary

open Tables GoTime Decimal

/-! ## Runs -/

/-- A call on the authorizations, or a write to the other tables. -/
inductive BudgetCall where
  | create (a : NewAuthorization) (now : Instant)
  | transition (id : String) (source target : AuthorizationState) (now : Instant)
  | reserve (authorization operation amount : String) (now : Instant)
  | others (new : Db)

def budgetStep (host : Host) (db : Db) : BudgetCall → Db
  | .create a now => (createRuntimeAuthorization host a now).stateAfter db
  | .transition id source target now =>
      (transitionRuntimeAuthorization id source target now).stateAfter db
  | .reserve authorization operation amount now =>
      (reserveRuntimeAuthorizationBudget authorization operation amount now).stateAfter db
  | .others new => { new with
      authorizationEpoch := db.authorizationEpoch, authorizations := db.authorizations,
      authorizationUsage := db.authorizationUsage, operationUsage := db.operationUsage }

/-! ## The invariant -/

/-- The account shows a number of charges and their sum. -/
def Shows (u : AuthorizationUsage) (count sum : Nat) : Prop :=
  u.operationCount = count ∧ u.totalInput = toString sum

/-- The account is within the caps of the authorization. -/
def Within (a : RuntimeAuthorization) (u : AuthorizationUsage) : Prop :=
  u.operationCount ≤ a.maxOperations ∧
    ∃ maximum, canonicalPositive a.maxTotalInput = some maximum ∧ amountOf u.totalInput ≤ maximum

structure Budgeted (db : Db) : Prop where
  keys : NoConflict (fun x y => x.id = y.id) db.authorizations
  charges : NoConflict
    (fun x y => x.authorizationId = y.authorizationId ∧ x.operationId = y.operationId)
    db.operationUsage
  ledger : Ledger.Exact (fun k (x : OperationUsage) => x.authorizationId = k)
    (fun x => amountOf x.amount) AuthorizationUsage.authorizationId Shows
    db.authorizationUsage db.operationUsage
  accounts : ∀ a ∈ db.authorizations, ∃ u ∈ db.authorizationUsage, u.authorizationId = a.id ∧
    Within a u

section Steps

variable {host : Host} {db db' : Db}

variable {now : Instant} {authorization : String}

theorem Budgeted.create (h : Budgeted db) {a : NewAuthorization} {row : RuntimeAuthorization}
    (hok : createRuntimeAuthorization host a now db = .ok (row, db')) :
    Budgeted db' := by
  obtain ⟨-, ⟨n, hn⟩, -, hfree, hno, rfl, rfl⟩ := createRuntimeAuthorization_ok hok
  refine ⟨h.keys.append fun x hx hc => hfree x hx (.inl hc), h.charges,
    h.ledger.openRow hno ⟨rfl, rfl⟩, fun x hx => ?_⟩
  obtain hx | hx := List.mem_append.mp hx
  · obtain ⟨u, hu, hid, hwithin⟩ := h.accounts x hx
    exact ⟨u, List.mem_append_left _ hu, hid, hwithin⟩
  · obtain rfl := List.mem_singleton.mp hx
    exact ⟨_, List.mem_append_right _ (List.mem_singleton_self _), rfl, Nat.zero_le _, n, hn,
      (amountOf_toString 0).le.trans (Nat.zero_le n)⟩

/-- A transition leaves identity and caps alone. -/
theorem Budgeted.transition (h : Budgeted db) {id : String} {source target : AuthorizationState}
    {u : Unit} (hok : transitionRuntimeAuthorization id source target now db = .ok (u, db')) :
    Budgeted db' := by
  simp only [transitionRuntimeAuthorization, Tx.require_bind_ok, Tx.query_bind, Tx.exec_bind,
    Tx.require_ok] at hok
  obtain ⟨-, -, -, rfl⟩ := hok
  refine ⟨h.keys.updateWhere fun x y hxy => ?_, h.charges, h.ledger, fun x hx => ?_⟩
  · split at hxy <;> split at hxy <;> exact hxy
  · obtain ⟨hx, -⟩ | ⟨y, hy, -, rfl⟩ := mem_updateWhere_cases hx
    · exact h.accounts x hx
    · exact h.accounts y hy

/-- A charge adds one to the count and its amount to the sum. -/
theorem Budgeted.charge (h : Budgeted db) {operation amount : String} {a : RuntimeAuthorization}
    {u : AuthorizationUsage} {nextTotal : String} {n : Nat}
    (ha : Chargeable authorization now db a u) (hn : canonicalPositive amount = some n)
    (hc : Charged a u operation amount now nextTotal db db') : Budgeted db' := by
  have hu := selectRow_mem ha.account
  have hua := selectRow_prop ha.account
  have hshow := h.ledger.exact u hu
  have hvalue : amountOf amount = n := by
    obtain ⟨hb, -⟩ := Option.filter_eq_some_iff.mp hn
    rw [canonical?_eq_some.mp hb, amountOf_toString]
  have hnext := addCanonical_eq hshow.2 hn hc.total
  -- The account of the authorization is the one that was read.
  have hrow : ∀ x ∈ db.authorizationUsage, x.authorizationId = a.id → x = u := fun x hx hxa =>
    h.ledger.keys.eq (fun _ _ => Eq.symm) hx hu (hxa.trans hua.symm)
  rw [hc.made]
  refine ⟨h.keys, h.charges.append fun x hx hcx => hc.new x hx hcx, ?_, fun b hb => ?_⟩
  · refine h.ledger.post_update (fun j => eq_comm) ⟨u, hu, hua⟩ (fun _ => rfl)
      fun x hx hxa c m hcm => ?_
    obtain rfl := hrow x hx hxa
    refine ⟨congrArg (· + 1) hcm.1, ?_⟩
    show nextTotal = _
    rw [hnext, hvalue]
    have hsum : total (fun y : OperationUsage => y.authorizationId = x.authorizationId)
        (fun y => amountOf y.amount) db.operationUsage = m := by
      have := hshow.2.symm.trans hcm.2
      rw [← amountOf_toString m, ← this, amountOf_toString]
    rw [hsum]
  · obtain ⟨x, hx, hxb, hwithin⟩ := h.accounts b hb
    by_cases hxa : x.authorizationId = a.id
    · obtain rfl := hrow x hx hxa
      obtain rfl := h.keys.eq (fun _ _ => Eq.symm) hb (selectRow_mem ha.row) (hxb.symm.trans hxa)
      refine ⟨_, mem_updateWhere_of_pos hx hxa, hxb, hc.count, ?_⟩
      obtain ⟨maximum, hmax, hle⟩ := hc.cap
      refine ⟨maximum, hmax, ?_⟩
      show amountOf nextTotal ≤ maximum
      rw [hnext, bigInt?_toString] at hle
      rw [hnext, amountOf_toString]
      exact Int.ofNat_le.mp hle
    · exact ⟨x, mem_updateWhere_of_not hx hxa, hxb, hwithin⟩

theorem Budgeted.reserve (h : Budgeted db) {operation amount : String} {dup : Bool}
    (hok : reserveRuntimeAuthorizationBudget authorization operation amount now db = .ok (dup, db'))
    :
    Budgeted db' := by
  obtain ⟨a, u, ha, ⟨n, hn⟩, ⟨-, rfl, -⟩ | ⟨-, nextTotal, hc⟩⟩ :=
    reserveRuntimeAuthorizationBudget_ok hok
  · exact h
  · exact h.charge ha hn hc

theorem Budgeted.step (h : Budgeted db) (host : Host) (call : BudgetCall) :
    Budgeted (budgetStep host db call) := by
  cases call with
  | create a now => exact Tx.stateAfter_cases Budgeted h fun _ _ hok => h.create hok
  | transition id source target now =>
      exact Tx.stateAfter_cases Budgeted h fun _ _ hok => h.transition hok
  | reserve authorization operation amount now =>
      exact Tx.stateAfter_cases Budgeted h fun _ _ hok => h.reserve hok
  | others new => exact ⟨h.keys, h.charges, h.ledger, h.accounts⟩

/-- What an account shows. -/
theorem Budgeted.account (h : Budgeted db) {a : RuntimeAuthorization} (ha : a ∈ db.authorizations) :
    ∃ u ∈ db.authorizationUsage, u.authorizationId = a.id ∧
      u.operationCount = affected (·.authorizationId = a.id) db.operationUsage ∧
      u.totalInput = toString (total (·.authorizationId = a.id) (fun x => amountOf x.amount)
        db.operationUsage) ∧ Within a u := by
  obtain ⟨u, hu, hid, hwithin⟩ := h.accounts a ha
  have hshow := h.ledger.exact u hu
  rw [hid] at hshow
  exact ⟨u, hu, hid, hshow.1, hshow.2, hwithin⟩

/-- The row that a repeated call reads is the one of the operation. -/
theorem Budgeted.charge_row (h : Budgeted db) {operation : String} {x : OperationUsage}
    (hx : x ∈ db.operationUsage) (hc : x.Charges authorization operation) :
    selectRow (·.Charges authorization operation) db.operationUsage = some x := by
  cases hrow : selectRow (·.Charges authorization operation) db.operationUsage with
  | none => exact absurd hc (selectRow_eq_none.mp hrow x hx)
  | some y =>
      have hy := selectRow_prop hrow
      rw [h.charges.eq (fun _ _ hxy => ⟨hxy.1.symm, hxy.2.symm⟩) (selectRow_mem hrow) hx
        ⟨hy.1.trans hc.1.symm, hy.2.trans hc.2.symm⟩]

end Steps

/-- In every state of a run: each account shows the number of the charges under it and their exact
sum, within the caps. A charge needs an armed authorization that is not expired, and without one
every call fails. Under such an authorization a call for an operation that is charged succeeds
without a change if the amount is the same, and fails with the idempotency error if it is another
amount. A call that fails changes nothing. -/
theorem budgets_are_exact (host : Host) (init : Db) (hinit : Budgeted init)
    (calls : List BudgetCall) (n : Nat) :
    let db := (calls.take n).foldl (budgetStep host) init
    (∀ a ∈ db.authorizations, ∃ u ∈ db.authorizationUsage, u.authorizationId = a.id ∧
      u.operationCount = affected (·.authorizationId = a.id) db.operationUsage ∧
      u.totalInput = toString (total (·.authorizationId = a.id) (fun x => amountOf x.amount)
        db.operationUsage) ∧ Within a u) ∧
    ∀ authorization operation amount now,
      let result := reserveRuntimeAuthorizationBudget authorization operation amount now db
      let db' := budgetStep host db (.reserve authorization operation amount now)
      (db'.operationUsage ≠ db.operationUsage → ∃ a u, Chargeable authorization now db a u) ∧
      ((∀ a u, ¬ Chargeable authorization now db a u) → result = .error .canaryRuntimeRejected) ∧
      (∀ e, result = .error e → db' = db) ∧
      ∀ a u, Chargeable authorization now db a u →
        (canonicalPositive amount).isSome ∧ authorization ≠ "" ∧ operation ≠ "" ∧
          now ≠ zeroInstant →
        ∀ x ∈ db.operationUsage, x.Charges authorization operation →
          result = if x.amount = amount then .ok (true, db) else .error .idempotencyConflict := by
  intro db
  have h : Budgeted db :=
    List.foldlRecOn (calls.take n) _ hinit fun _ h call _ => h.step host call
  refine ⟨fun a ha => h.account ha, fun authorization operation amount now => ⟨fun hchanged => ?_,
    reserveRuntimeAuthorizationBudget_rejects, fun e he => Tx.stateAfter_error he,
    fun a u ha hcall x hx hc => ?_⟩⟩
  · cases hok : reserveRuntimeAuthorizationBudget authorization operation amount now db with
    | error e => exact absurd (congrArg Db.operationUsage (Tx.stateAfter_error hok)) hchanged
    | ok r =>
        obtain ⟨a, u, ha, -⟩ := reserveRuntimeAuthorizationBudget_ok hok
        exact ⟨a, u, ha⟩
  · exact reserveRuntimeAuthorizationBudget_repeat hcall ha (h.charge_row hx hc)

/-! ### An authorization that is revoked -/

/-- A text of the length of a digest. -/
def digest : String := "bbbbbbbbbbbbbbbbbbbbbbbbbbbbbbbbbbbbbbbbbbbbbbbbbbbbbbbbbbbbbbbb"

/-- An operation and a policy. -/
def grantDb : Db :=
  { operations := [{ id := "op", walletId := "wallet", status := .dryRunSucceeded }],
    canaryPolicies :=
      [{ policy :=
           { version := 1, protocol := canaryProtocol, maxOperation := "10", maxWallet := "10",
             maxToken := "10", maxTotal := "10", maxGas := "1", maxFee := "1", maxTip := "1",
             minBalance := "0", maxSellBps := 10000, maxSlippageBps := 100, maxOperations := 5,
             windowSeconds := 3600, maxUnresolved := 0 },
         policyHash := digest }] }

/-- An authorization for two operations of ten units in all. -/
def grant : NewAuthorization :=
  { id := "auth", walletId := "wallet", policyVersion := 1, maxOperations := 2,
    maxTotalInput := "10", authorizationRef := "ref",
    deployment := ⟨"prod", digest, "release", "deployment"⟩, gateEvidenceSetHash := digest,
    expiresAt := 3600 * nanosPerSecond }

/-- The operation is charged, then the authorization is revoked. -/
def chargeAndRevoke : List BudgetCall :=
  [.create grant 0, .transition "auth" .pending .armed 0, .reserve "auth" "op" "5" 0,
    .transition "auth" .armed .revoked 0]

theorem grantDb_budgeted : Budgeted grantDb :=
  ⟨.nil, .nil, .nil, fun _ ha => absurd ha List.not_mem_nil⟩

theorem charged_account_is_exact :
    Budgeted grantDb ∧
    (let db := (chargeAndRevoke.take 3).foldl (budgetStep Host.plain) grantDb
     db.authorizationUsage.map (fun u => (u.operationCount, u.totalInput)) = [(1, "5")] ∧
     ∀ a ∈ db.authorizations, ∃ u ∈ db.authorizationUsage, u.authorizationId = a.id ∧
      u.operationCount = affected (·.authorizationId = a.id) db.operationUsage ∧
      u.totalInput = toString (total (·.authorizationId = a.id) (fun x => amountOf x.amount)
        db.operationUsage) ∧ Within a u) :=
  ⟨grantDb_budgeted, by decide +kernel,
    (budgets_are_exact Host.plain grantDb grantDb_budgeted chargeAndRevoke 3).1⟩

/-- After the revocation the same call fails, although the operation is charged with the amount. -/
theorem repeat_after_revocation_fails :
    let db := chargeAndRevoke.foldl (budgetStep Host.plain) grantDb
    (∃ x ∈ db.operationUsage, x.Charges "auth" "op" ∧ x.amount = "5") ∧
      (match reserveRuntimeAuthorizationBudget "auth" "op" "5" 0 db with
       | .error e => some e
       | .ok _ => none) = some .canaryRuntimeRejected := by
  decide +kernel

end RbhTrade.Canary
