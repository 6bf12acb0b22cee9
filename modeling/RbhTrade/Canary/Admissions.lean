import RbhTrade.Canary.Accounts

/-!
# What the canary admission guarantees

Over any run of requests, control changes and changes of reservation states, the usage rows are
exact, an operation is reserved once and a wallet holds one active reservation; a repeated request
id moves nothing, and an error other than `ErrCanaryRejected` leaves the database as it was. A
repeated id with other content is a conflict, unless the call is refused for its arguments before
the id is looked up.

The exposure limits are checked against sums over the reservations of the admitting policy version.
So right after an admission the limits bound the whole exposure if every active reservation was made
under that version; after a switch of the policy version they do not.
-/

namespace RbhTrade.Canary

open Tables GoTime Decimal

/-! ## Accounting -/

/-- The error that a call returns. -/
def returnedError : Except Err ((CanaryDecision × Option Err) × Db) → Option Err
  | .ok ((_, err), _) => err
  | .error e => some e

/-- The tables add up. -/
structure Accounted (db : Db) : Prop where
  usage : ∀ u ∈ db.windowUsage, u.operationCount = affected (CountsIn db u.key) db.decisions ∧
    u.reservedAmount = toString (total (CountsIn db u.key)
    (fun d => amountOf d.amount) db.decisions)
  operations : ∀ operation, affected (·.operationId = operation) db.riskReservations ≤ 1 ∧
    affected (fun d => d.operationId = operation ∧ d.decision = .admitted) db.decisions ≤ 1
  wallets : ∀ wallet,
    affected (fun rr => rr.walletId = wallet ∧ rr.state.Active) db.riskReservations ≤ 1

/-- What a call under a known request id does: it reserves and counts nothing, and if the request is
complete and another one than that of the stored decision, it is a conflict. -/
def Idempotent (host : CanaryHost) (db : Db) : Prop :=
  ∀ hook r now, ∀ d ∈ db.decisions, d.requestId = r.requestId →
    ((admitControlledCanary host hook r now).stateAfter db).riskReservations =
        db.riskReservations ∧
      ((admitControlledCanary host hook r now).stateAfter db).windowUsage = db.windowUsage ∧
      (r.Complete now → d.requestFingerprint ≠ host.canaryFingerprint r →
        admitControlledCanary host hook r now db = .error .idempotencyConflict)

/-- A call that returns an error other than `ErrCanaryRejected` changes nothing. -/
def RollsBack (host : CanaryHost) (db : Db) : Prop :=
  ∀ hook r now err, returnedError (admitControlledCanary host hook r now db) = some err →
    err ≠ .canaryRejected → (admitControlledCanary host hook r now).stateAfter db = db

variable {host : CanaryHost} {db : Db}

theorem Accounts.accounted (h : Accounts db) : Accounted db := by
  refine ⟨h.usage.exact, fun operation => ⟨?_, ?_⟩, fun wallet => ?_⟩
  · exact h.reservations.affected_le_one fun x _ y _ hx hy => hx.trans hy.symm
  · exact h.once.affected_le_one fun x _ y _ hx hy => ⟨hx.1.trans hy.1.symm, hx.2, hy.2⟩
  · exact NoConflict.affected_le_one h.active fun x _ y _ hx hy =>
      ⟨hx.1.trans hy.1.symm, hx.2, hy.2⟩

theorem Accounts.idempotent (h : Accounts db) : Idempotent host db := by
  intro hook r now d hd hr
  -- A commit under a known id is the answer to a repeated request.
  have hkeep : ∀ reply db', admitControlledCanary host hook r now db = .ok (reply, db') →
      db'.riskReservations = db.riskReservations ∧ db'.windowUsage = db.windowUsage := by
    intro reply db' hok
    cases admitControlledCanary_ok hok with
    | repeated _ attempts _ _ => exact ⟨rfl, rfl⟩
    | refused _ _ _ fresh => exact absurd hr (fresh d hd)
    | admitted _ _ _ _ _ _ fresh => exact absurd hr (fresh d hd)
  have hafter := Tx.stateAfter_cases (m := admitControlledCanary host hook r now) (s := db)
    (fun x => x.riskReservations = db.riskReservations ∧ x.windowUsage = db.windowUsage)
    ⟨rfl, rfl⟩ hkeep
  refine ⟨hafter.1, hafter.2, fun hcomplete hne => ?_⟩
  cases hselect : selectRow (·.requestId = r.requestId) db.decisions with
  | none => exact absurd hr (selectRow_eq_none.mp hselect d hd)
  | some x =>
      have hx := selectRow_prop hselect
      obtain rfl := h.requests.eq (fun _ _ => Eq.symm) (selectRow_mem hselect) hd (hx.trans hr.symm)
      exact admitControlledCanary_conflict hcomplete hselect hne

theorem rollsBack (host : CanaryHost) (db : Db) : RollsBack host db := by
  intro hook r now err herr hne
  cases hcall : admitControlledCanary host hook r now db with
  | error e => exact Tx.stateAfter_error hcall
  | ok x =>
      obtain ⟨reply, db'⟩ := x
      rw [hcall] at herr
      -- A committed call returns no error or a refusal.
      have hreply : reply.2 = none ∨ reply.2 = some .canaryRejected := by
        cases admitControlledCanary_ok hcall with
        | repeated _ _ _ _ _ _ _ _ error => exact error
        | refused => exact .inr rfl
        | admitted => exact .inl rfl
      obtain hnone | hsome := hreply
      · cases hnone.symm.trans herr
      · cases hsome.symm.trans herr
        exact absurd rfl hne

/-- From a database in which nothing was admitted, the accounts hold after every run, and the next
call keeps to them. -/
theorem canary_accounts_hold (host : CanaryHost) (init : Db) (hinit : Fresh init)
    (calls : List CanaryCall) :
    Accounted (calls.foldl (canaryStep host) init) ∧
      Idempotent host (calls.foldl (canaryStep host) init) ∧
      RollsBack host (calls.foldl (canaryStep host) init) :=
  have h := hinit.accounts.run calls
  ⟨h.accounted, h.idempotent, rollsBack host _⟩

/-! ### A seeded database -/

/-- A host to evaluate the admission on. -/
def plainHost : CanaryHost :=
  { Host.plain with
    canaryID := fun parts => String.intercalate "/" parts
    canaryFingerprint := fun r => r.requestId ++ "/" ++ r.operationId ++ "/" ++ r.amount
    sourceHash := fun _ => ""
    policyHash := fun _ => "" }

/-- A policy that allows an amount of five at a time and in all. -/
def smallPolicy (version : Nat) : CanaryPolicyRow :=
  ⟨{ version := version, protocol := canaryProtocol, maxOperation := "5", maxWallet := "5",
     maxToken := "5", maxTotal := "5", maxGas := "9", maxFee := "9", maxTip := "9",
     minBalance := "1", maxSellBps := 10000, maxSlippageBps := 500, maxOperations := 3,
     windowSeconds := 3600, maxUnresolved := 1 }, ""⟩

def sourceOf (operation wallet : String) (version : Nat) : AdmissionSource :=
  { operationId := operation, walletId := wallet, protocol := canaryProtocol, direction := .sell,
    tokenAddress := "0xtoken", amount := "5", gasLimit := "1", gasFeeCap := "1", gasTipCap := "1",
    nativeBalance := "9", sellBps := 1, policyVersion := version,
    expiresAt := "2030-01-01T00:00:00Z", sourceHash := "" }

def requestOf (request operation wallet : String) (version : Nat) : CanaryRequest :=
  { requestId := request, operationId := operation, walletId := wallet, protocol := canaryProtocol,
    direction := "SELL", tokenAddress := "0xtoken", amount := "5", gasLimit := 1, gasFeeCap := "1",
    gasTipCap := "1", nativeBalance := "9", sellBps := 1, policyVersion := version,
    expiresAt := "2030-01-01T00:00:00Z" }

/-- Two wallets, each with an operation, under two policies of which the first is active. -/
def seededDb : Db :=
  { control := some ⟨.controlledCanary, 1, false, ""⟩
    gateAttestations := requiredCanaryGates
    canaryPolicies := [smallPolicy 1, smallPolicy 2]
    walletAllowlist := [⟨"wallet-1", "", 1, true⟩, ⟨"wallet-2", "", 2, true⟩]
    contractAllowlist := [⟨"", "", "", 1, true⟩, ⟨"", "", "", 2, true⟩]
    tokenAllowlist := [⟨"0xtoken", 1, true⟩, ⟨"0xtoken", 2, true⟩]
    admissionSources := [sourceOf "op-1" "wallet-1" 1, sourceOf "op-2" "wallet-2" 2] }

/-- The first request, in the year 2026. -/
def firstAdmission : CanaryCall :=
  .request (fun _ => none) (requestOf "request-1" "op-1" "wallet-1" 1) 1790467200000000000

theorem seededDb_fresh : Fresh seededDb := ⟨by decide, rfl, rfl, rfl⟩

theorem canary_accounts_hold_seeded :
    Fresh seededDb ∧ (canaryStep plainHost seededDb firstAdmission).windowUsage.length = 1 ∧
      Accounted (canaryStep plainHost seededDb firstAdmission) ∧
      Idempotent plainHost (canaryStep plainHost seededDb firstAdmission) ∧
      RollsBack plainHost (canaryStep plainHost seededDb firstAdmission) :=
  ⟨seededDb_fresh, by decide +kernel,
    canary_accounts_hold plainHost seededDb seededDb_fresh [firstAdmission]⟩

/-- The id of an admitted request, now with another fingerprint and no operation: the arguments are
refused before the id is looked up. -/
theorem incomplete_repeat_is_no_conflict :
    ∃ d ∈ (canaryStep plainHost seededDb firstAdmission).decisions, d.requestId = "request-1" ∧
      d.requestFingerprint ≠ plainHost.canaryFingerprint (requestOf "request-1" "" "wallet-1" 1) ∧
      returnedError (admitControlledCanary plainHost (fun _ => none)
        (requestOf "request-1" "" "wallet-1" 1) 1790467200000000000
        (canaryStep plainHost seededDb firstAdmission)) = some .canaryRejected := by
  decide +kernel

/-! ## Exposure -/

/-- The exposure of the active reservations that satisfy a condition. -/
def exposure (p : RiskReservation → Prop) [DecidablePred p] (db : Db) : Nat :=
  total (fun rr => rr.state.Active ∧ p rr) (fun rr => amountOf rr.inputAmount) db.riskReservations

/-- The reservations of a token, as the statements compare tokens. -/
def OfToken (token : String) (rr : RiskReservation) : Prop :=
  sqlLower rr.tokenAddress = sqlLower token
deriving Decidable

/-- The exposure of the token, of everything and of the wallet are within the limits of a policy. -/
structure Exposed (s : AdmissionSource) (p : CanaryPolicy) (db : Db) : Prop where
  token : ∃ cap, canonical? p.maxToken = some cap ∧ exposure (OfToken s.tokenAddress) db ≤ cap
  all : ∃ cap, canonical? p.maxTotal = some cap ∧ exposure (fun _ => True) db ≤ cap
  wallet : ∃ cap, canonical? p.maxWallet = some cap ∧
    exposure (fun rr => rr.walletId = s.walletId) db ≤ cap

theorem cap_of_exceeds {n : Int} {limit : String} (h : exceeds n limit = false) :
    ∃ cap, canonical? limit = some cap ∧ n ≤ cap := by
  unfold exceeds at h
  split at h
  · rename_i cap hcap
    obtain ⟨hcap, -⟩ := Option.filter_eq_some_iff.mp hcap
    refine ⟨cap, hcap, ?_⟩
    simpa using h
  · cases h

theorem sumReservationAmounts_eq {texts : List String} {n : Nat}
    (h : sumReservationAmounts texts = some n) : (texts.map amountOf).sum = n := by
  induction texts generalizing n with
  | nil => exact Option.some.inj h
  | cons text rest ih =>
      unfold sumReservationAmounts at h
      split at h
      · rename_i m hm
        obtain ⟨k, hk, rfl⟩ := Option.map_eq_some_iff.mp h
        rw [List.map_cons, List.sum_cons, ih hk, amountOf, hm]
        rfl
      · cases h

theorem total_of_sum {p : RiskReservation → Prop} [DecidablePred p] {n : Nat}
    (h : sumReservationAmounts (db.amountsOf p) = some n) :
    total p (fun rr => amountOf rr.inputAmount) db.riskReservations = n := by
  rw [← sumReservationAmounts_eq h, Db.amountsOf, List.map_map]
  rfl

/-- An admission within its sums, when these select everything active. -/
theorem exposure_le {p q : RiskReservation → Prop} [DecidablePred p] [DecidablePred q]
    {rr : RiskReservation} {n amount : Nat} {limit : String} {db' : Db}
    (hdb : db'.riskReservations = db.riskReservations ++ [rr])
    (hsame : ∀ x ∈ db.riskReservations, (x.state.Active ∧ q x) ↔ p x)
    (hsum : sumReservationAmounts (db.amountsOf p) = some n)
    (hrr : amountOf rr.inputAmount = amount) (hcap : exceeds (n + amount) limit = false) :
    ∃ cap, canonical? limit = some cap ∧ exposure q db' ≤ cap := by
  obtain ⟨cap, hlimit, hle⟩ := cap_of_exceeds hcap
  refine ⟨cap, hlimit, ?_⟩
  rw [exposure, hdb, total_append, total_congr hsame, total_of_sum hsum, total_singleton]
  split <;> omega

/-- Right after an admission, with every active reservation made under the admitting version. -/
theorem admission_within_exposure (host : CanaryHost) (init : Db) (hinit : Fresh init)
    (calls : List CanaryCall) (hook : CanaryStage → Option Err) (r : CanaryRequest) (now : Instant)
    (reply : CanaryDecision × Option Err) (db' : Db)
    (hok : admitControlledCanary host hook r now (calls.foldl (canaryStep host) init) =
      .ok (reply, db')) (hadmitted : reply.1.decision = .admitted)
    (hversion : ∀ rr ∈ (calls.foldl (canaryStep host) init).riskReservations, rr.state.Active →
      rr.policyVersion = r.policyVersion) :
    ∃ s ∈ db'.admissionSources, s.operationId = r.operationId ∧
      ∃ row ∈ db'.canaryPolicies, row.policy.version = r.policyVersion ∧
        Exposed s row.policy db' := by
  have h : Accounts (calls.foldl (canaryStep host) init) := hinit.accounts.run calls
  cases admitControlledCanary_ok hok with
  | repeated _ _ _ _ _ _ _ decision => exact absurd hadmitted decision
  | refused => cases hadmitted
  | admitted s p reserved gasBudget events attempts fresh admissible adds free =>
      obtain ⟨row, hrow, rfl⟩ := admissible.policy
      obtain ⟨amount, hcaps⟩ := admissible.caps
      have hsv := admissible.isFor.policyVersion
      have hamount : amountOf s.amount = amount := by
        obtain ⟨hcanonical, -⟩ := Option.filter_eq_some_iff.mp hcaps.positive
        rw [canonical?_eq_some.mp hcanonical, amountOf_toString]
      obtain ⟨token, htoken, htokenCap⟩ := hcaps.token
      obtain ⟨sum, hsum, hsumCap⟩ := hcaps.policy
      refine ⟨s, admissible.source, admissible.isFor.1, row, hrow, admissible.version, ?_, ?_, ?_⟩
      · refine exposure_le rfl (fun x hx => ?_) htoken hamount htokenCap
        exact ⟨fun ⟨ha, ht⟩ => ⟨(hversion x hx ha).trans hsv.symm, ht, ha⟩,
          fun ⟨_, ht, ha⟩ => ⟨ha, ht⟩⟩
      · refine exposure_le rfl (fun x hx => ?_) hsum hamount hsumCap
        exact ⟨fun ⟨ha, _⟩ => ⟨(hversion x hx ha).trans hsv.symm, ha⟩, fun ⟨_, ha⟩ => ⟨ha, trivial⟩⟩
      · -- The wallet's one active reservation is the new one.
        obtain ⟨cap, hlimit, hle⟩ := cap_of_exceeds hcaps.wallet
        refine ⟨cap, hlimit, ?_⟩
        have hused : 0 ≤ ((calls.foldl (canaryStep host) init).usageOf host s row.policy now).elim 0
            fun u => (bigInt? u.reservedAmount).getD 0 := by
          cases hu : (calls.foldl (canaryStep host) init).usageOf host s row.policy now with
          | none => exact Int.le_refl 0
          | some u =>
              rw [Option.elim_some, (h.usage.exact u (selectRow_mem hu)).2, bigInt?_toString]
              exact Int.natCast_nonneg _
        have hzero : ∀ x ∈ (calls.foldl (canaryStep host) init).riskReservations,
            ¬ (x.state.Active ∧ x.walletId = s.walletId) := fun x hx hc =>
          free x hx (.inr (.inr ⟨hc.2, hc.1, .inl rfl⟩))
        rw [exposure, total_append, total_eq_zero hzero, total_singleton]
        split
        · have : amountOf (r.reservationRow host s gasBudget now).inputAmount = amount := hamount
          omega
        · omega

/-- The second wallet is admitted under the second policy while the first wallet's reservation under
the first one is still active: each policy allows five in all, and ten are reserved. -/
def switchPolicy : CanaryCall :=
  .others { canaryStep plainHost seededDb firstAdmission with
    control := some ⟨.controlledCanary, 2, false, ""⟩ }

def secondAdmission : CanaryCall :=
  .request (fun _ => none) (requestOf "request-2" "op-2" "wallet-2" 2) 1790467200000000000

theorem first_admission_within_exposure :
    ∃ reply db', admitControlledCanary plainHost (fun _ => none)
        (requestOf "request-1" "op-1" "wallet-1" 1) 1790467200000000000 seededDb =
          .ok (reply, db') ∧ reply.1.decision = .admitted ∧
      ∃ s ∈ db'.admissionSources, s.operationId = "op-1" ∧
        ∃ row ∈ db'.canaryPolicies, row.policy.version = 1 ∧ Exposed s row.policy db' := by
  obtain ⟨reply, db', hok⟩ := Tx.Commits.of_isOk (m := admitControlledCanary plainHost
    (fun _ => none) (requestOf "request-1" "op-1" "wallet-1" 1) 1790467200000000000)
    (s := seededDb) (by decide +kernel)
  have hadmitted : reply.1.decision = .admitted := by
    have hreply : (admitControlledCanary plainHost (fun _ => none)
        (requestOf "request-1" "op-1" "wallet-1" 1) 1790467200000000000 seededDb).map
          (·.1.1.decision) = .ok .admitted := by decide +kernel
    rw [hok] at hreply
    exact Except.ok.inj hreply
  exact ⟨reply, db', hok, hadmitted, admission_within_exposure plainHost seededDb seededDb_fresh []
    _ _ _ reply db' hok hadmitted fun rr hrr => by cases hrr⟩

theorem switched_policy_exceeds_total :
    let db := [firstAdmission, switchPolicy].foldl (canaryStep plainHost) seededDb
    let db' := canaryStep plainHost db secondAdmission
    db'.decisions.map (·.decision) = [.admitted, .admitted] ∧
      (smallPolicy 2).policy.maxTotal = "5" ∧ exposure (fun _ => True) db' = 10 ∧
      exposure (OfToken "0xtoken") db' = 10 := by
  decide +kernel

end RbhTrade.Canary
