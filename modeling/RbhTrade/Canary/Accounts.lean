import RbhTrade.Lib.Ledger
import RbhTrade.Lib.TimeText
import RbhTrade.Store.Canary

/-!
# The accounts of the canary admission

The decisions are a ledger, and `canary_window_usage` is its table of aggregates: one row for each
policy, wallet, token and window, with the number of admissions and the sum of their amounts. This
module proves that the table stays exact, whatever requests come in at whatever clock values, and
that an operation is reserved at most once.

An admission is found in the window of its clock. The decision stores the clock as text, and
different instants have different texts, so a decision is in one window. The token of an admission
is that of the reservation it made; the decision itself stores the token as the request spelled it.
-/

namespace RbhTrade.Canary

open Tables GoTime Decimal

/-! ## Calls -/

/-- A call of the admission, or another write between two calls. -/
inductive CanaryCall where
  | request (hook : CanaryStage → Option Err) (r : CanaryRequest) (now : Instant)
  /-- A policy is inserted; policies are immutable. -/
  | insertPolicy (row : CanaryPolicyRow)
  /-- The state of some reservations changes. -/
  | setState (select : RiskReservation → Bool) (state : RiskState) (stamp : String)
  /-- Any change of the tables other than policies, usage, reservations and decisions. -/
  | others (new : Db)

/-- The database after a call. -/
def canaryStep (host : CanaryHost) (db : Db) : CanaryCall → Db
  | .request hook r now => (admitControlledCanary host hook r now).stateAfter db
  | .insertPolicy row =>
      match insertUnique (fun x y => x.policy.version = y.policy.version) row db.canaryPolicies with
      | some t => { db with canaryPolicies := t }
      | none => db
  | .setState select state stamp =>
      let t := updateWhere (select · = true)
        (fun rr => { rr with state := state, updatedAt := stamp }) db.riskReservations
      if ActiveOnce t then { db with riskReservations := t } else db
  | .others new => { new with
      canaryPolicies := db.canaryPolicies, windowUsage := db.windowUsage,
      riskReservations := db.riskReservations, decisions := db.decisions }

/-! ## What a usage row stands for -/

/-- The decision is an admission of the policy, wallet, token and window. -/
def CountsIn (db : Db) (k : WindowKey) (d : Decision) : Prop :=
  d.decision = .admitted ∧ d.policyVersion = k.policyVersion ∧ d.walletId = k.walletId ∧
    (∃ rr ∈ db.riskReservations, rr.operationId = d.operationId ∧
      rr.tokenAddress = k.tokenAddress) ∧
    ∃ row ∈ db.canaryPolicies, row.policy.version = d.policyVersion ∧
      ∃ now, d.createdAt = formatRFC3339Nano now ∧
        k.windowStart = windowStart row.policy.windowSeconds now

noncomputable instance (db : Db) (k : WindowKey) : DecidablePred (CountsIn db k) :=
  Classical.decPred _

/-- The value of an amount. -/
def amountOf (text : String) : Nat := ((bigInt? text).getD 0).toNat

@[simp] theorem amountOf_toString (n : Nat) : amountOf (toString n) = n := by
  rw [amountOf, bigInt?_toString]
  rfl

/-- The row records a number of admissions and their sum. -/
def Records (u : WindowUsage) (count sum : Nat) : Prop :=
  u.operationCount = count ∧ u.reservedAmount = toString sum

/-! ## The invariant -/

structure Accounts (db : Db) : Prop where
  policies : NoConflict (fun x y => x.policy.version = y.policy.version) db.canaryPolicies
  usage : Ledger.Exact (CountsIn db) (fun d => amountOf d.amount) WindowUsage.key Records
    db.windowUsage db.decisions
  reservations : NoConflict (fun x y => x.operationId = y.operationId) db.riskReservations
  active : ActiveOnce db.riskReservations
  backed : ∀ d ∈ db.decisions, d.decision = .admitted →
    (∃ rr ∈ db.riskReservations, rr.operationId = d.operationId) ∧
      ∃ row ∈ db.canaryPolicies, row.policy.version = d.policyVersion
  once : NoConflict (fun x y => x.operationId = y.operationId ∧ x.decision = .admitted ∧
    y.decision = .admitted) db.decisions
  requests : NoConflict (fun x y => x.requestId = y.requestId) db.decisions

section Steps

variable {host : CanaryHost} {hook : CanaryStage → Option Err} {r : CanaryRequest} {now : Instant}
  {db db' : Db}

/-- The invariant reads four tables. -/
theorem Accounts.of_same (h : Accounts db) (hp : db'.canaryPolicies = db.canaryPolicies)
    (hu : db'.windowUsage = db.windowUsage) (hr : db'.riskReservations = db.riskReservations)
    (hd : db'.decisions = db.decisions) : Accounts db' := by
  refine ⟨hp ▸ h.policies, ?_, hr ▸ h.reservations, hr ▸ h.active, ?_, hd ▸ h.once,
    hd ▸ h.requests⟩
  · rw [hu, hd]
    refine h.usage.congr fun d _ k => ?_
    rw [CountsIn, CountsIn, hp, hr]
  · rw [hp, hr, hd]
    exact h.backed

/-- A new policy gives no decision another window: each decision has its own policy already. -/
theorem Accounts.insertPolicy (h : Accounts db) {row : CanaryPolicyRow}
    (hno : ∀ x ∈ db.canaryPolicies, ¬ x.policy.version = row.policy.version) :
    Accounts { db with canaryPolicies := db.canaryPolicies ++ [row] } where
  policies := h.policies.append hno
  usage := by
    refine h.usage.congr fun d hd k => ?_
    refine and_congr_right fun hadm => and_congr_right fun _ => and_congr_right fun _ =>
      and_congr_right fun _ => ?_
    constructor
    · rintro ⟨x, hx, hv, hwindow⟩
      obtain hx | hx := List.mem_append.mp hx
      · exact ⟨x, hx, hv, hwindow⟩
      · obtain rfl := List.mem_singleton.mp hx
        obtain ⟨-, y, hy, hyv⟩ := h.backed d hd hadm
        exact absurd (hyv.trans hv.symm) (hno y hy)
    · rintro ⟨x, hx, hwindow⟩
      exact ⟨x, List.mem_append_left [row] hx, hwindow⟩
  reservations := h.reservations
  active := h.active
  backed := fun d hd hadm => by
    obtain ⟨hr, x, hx, hxv⟩ := h.backed d hd hadm
    exact ⟨hr, x, List.mem_append_left [row] hx, hxv⟩
  once := h.once
  requests := h.requests

/-- A change of states keeps operations and tokens. -/
theorem Accounts.setState (h : Accounts db) {p : RiskReservation → Prop} [DecidablePred p]
    {state : RiskState} {stamp : String}
    (hactive : ActiveOnce (updateWhere p
      (fun rr => { rr with state := state, updatedAt := stamp }) db.riskReservations)) :
    Accounts { db with
      riskReservations := updateWhere p
        (fun rr => { rr with state := state, updatedAt := stamp }) db.riskReservations } where
  policies := h.policies
  usage := by
    refine h.usage.congr fun d hd k => ?_
    refine and_congr_right fun _ => and_congr_right fun _ => and_congr_right fun _ =>
      and_congr_left fun _ => ?_
    exact exists_updateWhere_iff (t := db.riskReservations) (p := p) fun _ _ => Iff.rfl
  reservations := by
    refine h.reservations.updateWhere fun x y hxy => ?_
    split at hxy <;> split at hxy <;> exact hxy
  active := hactive
  backed := fun d hd hadm => by
    obtain ⟨hr, hrow⟩ := h.backed d hd hadm
    refine ⟨?_, hrow⟩
    exact (exists_updateWhere_iff (p := p)
      (f := fun rr => { rr with state := state, updatedAt := stamp }) fun _ _ => Iff.rfl).mpr hr
  once := h.once
  requests := h.requests

/-- A refusal is a decision that counts nowhere. -/
theorem Accounts.refuse (h : Accounts db) {reason reservation stamp : String}
    (hfresh : ∀ d ∈ db.decisions, d.requestId ≠ r.requestId) :
    Accounts { db with
      decisions := db.decisions ++ [r.decisionRow host .rejected reason reservation stamp] } where
  policies := h.policies
  usage := h.usage.skip fun k hc => by cases hc.1
  reservations := h.reservations
  active := h.active
  backed := fun d hd hadm => by
    obtain hd | hd := List.mem_append.mp hd
    · exact h.backed d hd hadm
    · obtain rfl := List.mem_singleton.mp hd
      cases hadm
  once := h.once.append fun d _ hc => by cases hc.2.2
  requests := h.requests.append hfresh

/-! ## An admission -/

/-- The key that an admission is counted under. -/
def keyOf (host : CanaryHost) (s : AdmissionSource) (p : CanaryPolicy) (now : Instant) :
    WindowKey :=
  ⟨s.policyVersion, s.walletId, host.toLower s.tokenAddress, windowStart p.windowSeconds now⟩

theorem isFor_iff_key {u : WindowUsage} {version : Nat} {wallet token window : String} :
    u.IsFor version wallet token window ↔ u.key = ⟨version, wallet, token, window⟩ := by
  simp [WindowUsage.IsFor, WindowUsage.key]

variable {s : AdmissionSource} {p : CanaryPolicy} {reserved gasBudget : String}

/-- The database once the reservation is made. -/
def withReservation (db : Db) (rr : RiskReservation) : Db :=
  { db with riskReservations := db.riskReservations ++ [rr] }

variable {rr : RiskReservation}

theorem mem_withReservation {x : RiskReservation} :
    x ∈ (withReservation db rr).riskReservations ↔ x ∈ db.riskReservations ∨ x = rr := by
  simp [withReservation]

/-- The new reservation is of an operation that has no admission yet. -/
theorem Accounts.counts_old (h : Accounts db)
    (hfree : ∀ x ∈ db.riskReservations, x.operationId ≠ rr.operationId) {d : Decision}
    (hd : d ∈ db.decisions) (k : WindowKey) :
    CountsIn (withReservation db rr) k d ↔ CountsIn db k d := by
  refine and_congr_right fun hadm => and_congr_right fun _ => and_congr_right fun _ =>
    and_congr_left fun _ => ?_
  constructor
  · rintro ⟨x, hx, hop, htoken⟩
    obtain hx | rfl := mem_withReservation.mp hx
    · exact ⟨x, hx, hop, htoken⟩
    · obtain ⟨⟨y, hy, hyop⟩, -⟩ := h.backed d hd hadm
      exact absurd (hyop.trans hop.symm) (hfree y hy)
  · rintro ⟨x, hx, hx'⟩
    exact ⟨x, mem_withReservation.mpr (.inl hx), hx'⟩

/-- The admission counts under its own key only: its clock is in one window, its policy has one
length, and its reservation one token. -/
theorem Accounts.counts_new (h : Accounts db) {d : Decision}
    (hfree : ∀ x ∈ db.riskReservations, x.operationId ≠ rr.operationId)
    (hadm : d.decision = .admitted) (hop : rr.operationId = d.operationId)
    (hrow : ∃ row ∈ db.canaryPolicies, row.policy = p) (hversion : p.version = d.policyVersion)
    (hstamp : d.createdAt = formatRFC3339Nano now) (k : WindowKey) :
    CountsIn (withReservation db rr) k d ↔
      k = ⟨d.policyVersion, d.walletId, rr.tokenAddress, windowStart p.windowSeconds now⟩ := by
  obtain ⟨row, hrow, rfl⟩ := hrow
  constructor
  · rintro ⟨-, hv, hw, ⟨x, hx, hxop, htoken⟩, y, hy, hyv, t, ht, hwindow⟩
    obtain rfl : x = rr := by
      obtain hx | rfl := mem_withReservation.mp hx
      · exact absurd (hxop.trans hop.symm) (hfree x hx)
      · rfl
    obtain rfl : now = t := format_injective (hstamp.symm.trans ht)
    obtain rfl := h.policies.eq (fun _ _ => Eq.symm) hy hrow (hyv.trans hversion.symm)
    rw [hv, hw, htoken, ← hwindow]
  · rintro rfl
    exact ⟨hadm, rfl, rfl, ⟨rr, mem_withReservation.mpr (.inr rfl), hop, rfl⟩,
      row, hrow, hversion, now, hstamp, rfl⟩

/-- `addCanonical` adds the values. -/
theorem addCanonical_eq {a b : String} {sum : String} {m n : Nat} (ha : a = toString m)
    (hb : canonicalPositive b = some n) (h : addCanonical a b = some sum) :
    sum = toString (m + n) := by
  obtain ⟨hb, -⟩ := Option.filter_eq_some_iff.mp hb
  obtain rfl := canonical?_eq_some.mp hb
  rw [ha, addCanonical, bigInt?_toString, bigInt?_toString] at h
  simp only [Option.bind_eq_bind, Option.bind_some] at h
  split at h
  · rw [← Option.some.inj h]
    rfl
  · cases h

/-- Counting the amount of an admission. -/
theorem Accounts.counted (h : Accounts db) {d : Decision} {amount : Nat}
    (hcounts : ∀ k, CountsIn (withReservation db rr) k d ↔ k = keyOf host s p now)
    (hold : ∀ x ∈ db.decisions, ∀ k, CountsIn (withReservation db rr) k x ↔ CountsIn db k x)
    (hvalue : amountOf d.amount = amount) (hamount : canonicalPositive s.amount = some amount)
    (hadd : addCanonical ((db.usageOf host s p now).elim "0" (·.reservedAmount)) s.amount =
      some reserved) :
    Ledger.Exact (CountsIn (withReservation db rr)) (fun d => amountOf d.amount) WindowUsage.key
      Records (db.countedUsage host s p now reserved) (db.decisions ++ [d]) := by
  have hexact : Ledger.Exact (CountsIn (withReservation db rr)) _ _ _ _ _ := h.usage.congr hold
  unfold Db.countedUsage upsertUsage
  cases hrow : db.usageOf host s p now with
  | none =>
      have hno : ∀ u ∈ db.windowUsage, u.key ≠ keyOf host s p now := fun u hu hc =>
        selectRow_eq_none.mp hrow u hu (isFor_iff_key.mpr hc)
      rw [if_neg fun ⟨u, hu, hc⟩ => hno u hu (isFor_iff_key.mp hc)]
      rw [hrow] at hadd
      refine hexact.post_insert hcounts hno rfl ⟨rfl, ?_⟩
      rw [hvalue, addCanonical_eq (m := 0) rfl hamount hadd, Nat.zero_add]
  | some u =>
      have hmem := selectRow_mem hrow
      have hfor : u.IsFor _ _ _ _ := selectRow_prop (p := (WindowUsage.IsFor · _ _ _ _)) hrow
      have hkey : u.key = keyOf host s p now := isFor_iff_key.mp hfor
      rw [if_pos ⟨u, hmem, hfor⟩,
        updateWhere_congr (q := (WindowUsage.key · = keyOf host s p now)) fun x _ => isFor_iff_key]
      rw [hrow] at hadd
      refine hexact.post_update hcounts ⟨u, hmem, hkey⟩ (fun _ => rfl) fun x hx hxk c n hshow => ?_
      obtain rfl := hexact.keys.eq (fun _ _ => Eq.symm) hx hmem (hxk.trans hkey.symm)
      refine ⟨congrArg (· + 1) hshow.1, ?_⟩
      rw [hvalue]
      exact addCanonical_eq hshow.2 hamount hadd

theorem Accounts.reserve (h : Accounts db) (hadm : Admissible host db r now s p)
    (hnew : ∀ d ∈ db.decisions, d.requestId ≠ r.requestId)
    (hadd : addCanonical ((db.usageOf host s p now).elim "0" (·.reservedAmount)) s.amount =
      some reserved)
    (hfree : ∀ x ∈ db.riskReservations, ¬ x.Conflicts (r.reservationRow host s gasBudget now)) :
    Accounts { db with
      windowUsage := db.countedUsage host s p now reserved,
      riskReservations := db.riskReservations ++ [r.reservationRow host s gasBudget now],
      decisions := db.decisions ++ [r.decisionRow host .admitted "CANARY_ADMITTED"
        (host.canaryID ["reservation", r.operationId]) (formatRFC3339Nano now)] } := by
  obtain ⟨amount, hcaps⟩ := hadm.caps
  have hop : s.operationId = r.operationId := hadm.isFor.1
  have hversion := hadm.isFor.policyVersion
  have hfresh : ∀ x ∈ db.riskReservations,
      x.operationId ≠ (r.reservationRow host s gasBudget now).operationId :=
    fun x hx hc => hfree x hx (.inr (.inl hc))
  have hcounts := h.counts_new (d := r.decisionRow host .admitted "CANARY_ADMITTED"
    (host.canaryID ["reservation", r.operationId]) (formatRFC3339Nano now)) hfresh rfl hop
    hadm.policy hadm.version rfl
  have hkey : ∀ k, k = (⟨r.policyVersion, r.walletId, host.toLower s.tokenAddress,
      windowStart p.windowSeconds now⟩ : WindowKey) ↔ k = keyOf host s p now := fun k => by
    rw [keyOf, hversion, hadm.isFor.2.1]
  have hvalue : amountOf r.amount = amount := by
    obtain ⟨hcanonical, -⟩ := Option.filter_eq_some_iff.mp hcaps.positive
    rw [← hadm.isFor.amount, canonical?_eq_some.mp hcanonical, amountOf_toString]
  refine ⟨h.policies, ?_, h.reservations.append hfresh, ?_, ?_, ?_,
    h.requests.append hnew⟩
  · exact h.counted (fun k => (hcounts k).trans (hkey k))
      (fun x hx k => h.counts_old hfresh hx k) hvalue hcaps.positive hadd
  · exact h.active.append fun x hx hc => hfree x hx (.inr (.inr hc))
  · intro d hd hdadm
    obtain hd | hd := List.mem_append.mp hd
    · obtain ⟨⟨x, hx, hxop⟩, hrow⟩ := h.backed d hd hdadm
      exact ⟨⟨x, List.mem_append_left _ hx, hxop⟩, hrow⟩
    · obtain rfl := List.mem_singleton.mp hd
      obtain ⟨row, hrow, rfl⟩ := hadm.policy
      exact ⟨⟨_, List.mem_append_right _ (List.mem_singleton_self _), hop⟩, row, hrow,
        hadm.version⟩
  · refine h.once.append fun d hd hc => ?_
    obtain ⟨⟨x, hx, hxop⟩, -⟩ := h.backed d hd hc.2.1
    exact hfresh x hx (hxop.trans (hc.1.trans hop.symm))

/-! ## Runs -/

theorem Accounts.decided (h : Accounts db) {reply : CanaryDecision × Option Err}
    (hd : CanaryDecided host r now db reply db') : Accounts db' := by
  cases hd with
  | repeated d attempts v err => exact h.of_same rfl rfl rfl rfl
  | refused reason events attempts fresh =>
      exact (h.refuse fresh).of_same rfl rfl rfl rfl
  | admitted s p reserved gasBudget events attempts fresh admissible adds free =>
      exact (h.reserve admissible fresh adds free).of_same rfl rfl rfl rfl

theorem Accounts.step (h : Accounts db) (call : CanaryCall) :
    Accounts (canaryStep host db call) := by
  cases call with
  | request hook r now =>
      exact Tx.stateAfter_cases Accounts h fun _ _ hok =>
        h.decided (admitControlledCanary_ok hok)
  | insertPolicy row =>
      cases hi : insertUnique (fun x y => x.policy.version = y.policy.version) row
          db.canaryPolicies with
      | none => simpa only [canaryStep, hi] using h
      | some t =>
          obtain ⟨hno, rfl⟩ := insertUnique_eq_some.mp hi
          simpa only [canaryStep, hi] using h.insertPolicy hno
  | setState select state stamp =>
      simp only [canaryStep]
      split
      · exact h.setState (by assumption)
      · exact h
  | others new => exact h.of_same rfl rfl rfl rfl

/-- Nothing was admitted yet, and each policy version has one row. -/
structure Fresh (db : Db) : Prop where
  policies : NoConflict (fun x y => x.policy.version = y.policy.version) db.canaryPolicies
  usage : db.windowUsage = []
  reservations : db.riskReservations = []
  decisions : db.decisions = []

theorem Fresh.accounts (h : Fresh db) : Accounts db where
  policies := h.policies
  usage := by
    rw [h.usage, h.decisions]
    exact .nil
  reservations := by
    rw [h.reservations]
    exact .nil
  active := by
    rw [h.reservations]
    exact .nil
  backed := fun d hd => by
    rw [h.decisions] at hd
    cases hd
  once := by
    rw [h.decisions]
    exact .nil
  requests := by
    rw [h.decisions]
    exact .nil

theorem Accounts.run (h : Accounts db) (calls : List CanaryCall) :
    Accounts (calls.foldl (canaryStep host) db) :=
  List.foldlRecOn calls _ h fun _ h call _ => h.step call

end Steps

end RbhTrade.Canary
