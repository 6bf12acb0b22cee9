import RbhTrade.Manual.Amounts
import RbhTrade.Store.ManualExposure

/-!
# Exact exposure

The totals and counters of `loadManualExposure` are the sums and counts over the reservations. A
fold over checked additions succeeds exactly when every row can be accounted for and no sum reaches
2^256, and what it gives is then a function of the set of rows; so the order of the rows does not
matter, and nothing is left out.
-/

namespace RbhTrade.ManualExposure

open GoTime Risk Tables

variable {host : ExposureHost} {units : List UnitRow} {wallet : String} {p : Policy}
  {now cutoff : Instant} {row : RiskReservation} {rows : List RiskReservation}

/-! ## Quantities -/

theorem nativeUnit_validate : (nativeUnit "NATIVE_OUTLAY").validate = true := by decide

/-- A quantity whose units are a number of 256 bits. -/
def Holds (q : Quantity) (n : Nat) : Prop := q.unit.validate = true ∧ q.units = toString n ∧
    n < 2 ^ 256

theorem Quantity.holds {q : Quantity} (h : q.validate = true) : ∃ n, Holds q n := by
  rw [Quantity.validate, Bool.and_eq_true] at h
  obtain ⟨n, hn⟩ := Option.isSome_iff_exists.mp h.2
  rw [← u256_eq_uint256] at hn
  obtain ⟨hunits, hlt⟩ := u256_eq_some.mp hn
  exact ⟨n, h.1, hunits, hlt⟩

/-- Addition of quantities of one unit. -/
theorem add_holds {a b : Quantity} {m n : Nat} (ha : Holds a m) (hb : Holds b n)
    (hu : a.unit = b.unit) :
    addChecked a b = if m + n < 2 ^ 256 then .ok ⟨b.unit, toString (m + n)⟩
      else .error (.rejected "EXPOSURE_OVERFLOW") := by
  obtain ⟨unit, a⟩ := a
  obtain ⟨unit', b⟩ := b
  obtain ⟨hvalid, rfl, hm⟩ := ha
  obtain ⟨-, rfl, hn⟩ := hb
  obtain rfl : unit = unit' := hu
  have hread : ∀ {k : Nat}, k < 2 ^ 256 → uint256 (toString k) true = some k := by
    intro k hk
    rw [← u256_eq_uint256, u256_toString hk]
  have hcheck : ∀ {k : Nat}, k < 2 ^ 256 → (Quantity.mk unit (toString k)).validate = true := by
    intro k hk
    rw [Quantity.validate, Bool.and_eq_true]
    exact ⟨hvalid, by rw [hread hk]; rfl⟩
  unfold addChecked Risk.add
  simp only [hcheck hm, hcheck hn, hread hm, hread hn, Bool.true_eq_false, ne_eq, not_true_eq_false,
    or_self, if_false]
  by_cases hlt : m + n < 2 ^ 256
  · rw [if_pos hlt, if_neg (Nat.not_le.mpr hlt)]
  · rw [if_neg hlt, if_pos (Nat.not_lt.mp hlt)]

theorem add_eq_some {a b q : Quantity} (h : Risk.add a b = some q) :
    ∃ m n, Holds a m ∧ Holds b n ∧ a.unit = b.unit ∧ Holds q (m + n) ∧ q.unit = a.unit := by
  have hchecked : addChecked a b = .ok q := by
    unfold addChecked
    rw [h]
  unfold Risk.add at h
  obtain ⟨hvalid, -⟩ := Option.ite_none_left_eq_some.mp h
  simp only [not_or, Bool.not_eq_false, ne_eq, Decidable.not_not] at hvalid
  obtain ⟨m, hm⟩ := Quantity.holds hvalid.1
  obtain ⟨n, hn⟩ := Quantity.holds hvalid.2.1
  rw [add_holds hm hn hvalid.2.2] at hchecked
  split at hchecked
  · rename_i hlt
    cases hchecked
    exact ⟨m, n, hm, hn, hvalid.2.2, ⟨hn.1, rfl, hlt⟩, hvalid.2.2.symm⟩
  · cases hchecked

/-! ## The rows -/

section Rows

variable (host units now)

/-- The unit that is named for a reservation. -/
def unitOf (row : RiskReservation) : Option RiskUnit :=
    (units.find? (UnitRow.Of row ·)).map (·.unit)

def inputOf (row : RiskReservation) : Nat := (u256 row.inputAmount).getD 0

/-- The native value of the saved transaction and the gas budget. -/
def outlayOf (row : RiskReservation) : Nat :=
  let value := match (units.find? (UnitRow.Of row ·)).map (host.verified row · now) with
    | some (.ok out) => (u256 out.value).getD 0
    | _ => 0
  value + (u256 row.gasBudget).getD 0

/-- The active reservations of a unit. -/
def Uses (unit : RiskUnit) (row : RiskReservation) : Prop :=
  row.state.Active ∧ unitOf units row = some unit
deriving Decidable

end Rows

/-- The texts of the row are the numbers that `inputOf` and `outlayOf` read. -/
def Reads (host : ExposureHost) (units : List UnitRow) (now : Instant) (row : RiskReservation) :
    Prop :=
  row.inputAmount = toString (inputOf row) ∧
    ∃ u out value gas, units.find? (UnitRow.Of row ·) = some u ∧ host.verified row u now = .ok out ∧
      out.value = toString value ∧ row.gasBudget = toString gas ∧
      outlayOf host units now row = value + gas

/-- What is verified of a row are its input and its native outlay, as numbers of 256 bits. -/
theorem verifyRow_ok {input spent : Quantity}
    (h : verifyRow host units row now = .ok (input, spent)) :
    unitOf units row = some input.unit ∧ Holds input (inputOf row) ∧
      spent.unit = nativeUnit "NATIVE_OUTLAY" ∧ Holds spent (outlayOf host units now row) ∧
      Reads host units now row := by
  unfold verifyRow at h
  split at h
  · cases h
  rename_i u hunit
  split at h
  · cases h
  rename_i out hout
  dsimp only at h
  split at h
  · cases h
  rename_i gas hgas
  split at h
  · cases h
  rename_i hchecks
  split at h
  · cases h
  rename_i hspent
  cases h
  simp only [not_or, Bool.not_eq_false, ne_eq, Decidable.not_not] at hchecks
  obtain ⟨n, hn⟩ := Quantity.holds hchecks.2.1
  unfold outlay at hspent
  obtain ⟨-, hadd⟩ := Option.ite_none_left_eq_some.mp hspent
  obtain ⟨value, budget, hvalue, hbudget, -, hsum, hnative⟩ := add_eq_some hadd
  have htext : row.inputAmount = toString n := hn.2.1
  have hvalueText : out.value = toString value := hvalue.2.1
  have hgasText : row.gasBudget = toString budget := hchecks.1 ▸ hbudget.2.1
  have hinput : inputOf row = n := by
    unfold inputOf
    rw [htext, u256_toString hn.2.2]
    rfl
  have houtlay : outlayOf host units now row = value + budget := by
    unfold outlayOf
    rw [hunit, Option.map_some, hout, hgasText]
    dsimp only
    rw [hvalueText, u256_toString hvalue.2.2, u256_toString hbudget.2.2]
    rfl
  refine ⟨?_, hinput ▸ hn, hnative, houtlay ▸ hsum, hinput ▸ htext, u, out, value, budget, hunit,
    hout, hvalueText, hgasText, houtlay⟩
  unfold unitOf
  rw [hunit]
  rfl

/-- The entry of a unit: the sum of the inputs that are selected, if there are any. -/
def entry (selected : RiskReservation → Prop) [DecidablePred selected] (unit : RiskUnit)
    (rows : List RiskReservation) : Option Quantity :=
  if affected selected rows = 0 then none
  else some ⟨unit, toString (total selected inputOf rows)⟩

/-- The exposure that the rows add up to. -/
def summary (host : ExposureHost) (units : List UnitRow) (wallet : String) (now cutoff : Instant)
    (rows : List RiskReservation) : Exposure where
  walletInput unit := entry (fun r => Uses units unit r ∧ r.walletId = wallet) unit rows
  globalInput unit := entry (Uses units unit) unit rows
  walletOutlay := ⟨nativeUnit "NATIVE_OUTLAY", toString
    (total (fun r => r.state.Active ∧ r.walletId = wallet) (outlayOf host units now) rows)⟩
  globalOutlay := ⟨nativeUnit "NATIVE_OUTLAY", toString
    (total (fun r => r.state.Active) (outlayOf host units now) rows)⟩
  walletWindowOperations := affected (fun r => InWindow cutoff r ∧ r.walletId = wallet) rows
  globalWindowOperations := affected (InWindow cutoff) rows
  walletActiveOperations := affected (fun r => r.state.Active ∧ r.walletId = wallet) rows

/-- The row can be accounted for. -/
def Admits (host : ExposureHost) (units : List UnitRow) (p : Policy) (now : Instant)
    (row : RiskReservation) : Prop :=
  Typed units row ∧ (∃ quantities, verifyRow host units row now = .ok quantities) ∧
    (row.state.Active → ∀ unit, unitOf units row = some unit → p.limit unit ≠ none)

/-- No sum reaches 2^256. -/
def Fits (host : ExposureHost) (units : List UnitRow) (now : Instant)
    (rows : List RiskReservation) :
    Prop :=
  (∀ unit, total (Uses units unit) inputOf rows < 2 ^ 256) ∧
    total (fun r => r.state.Active) (outlayOf host units now) rows < 2 ^ 256

/-! ## One row -/

variable {sel : RiskReservation → Prop} {unit : RiskUnit}

theorem entry_other [DecidablePred sel] (h : ¬ sel row) :
    entry sel unit (rows ++ [row]) = entry sel unit rows := by
  unfold entry
  rw [affected_append, affected_singleton, total_append, total_singleton, if_neg h, if_neg h]
  rfl

theorem entry_selected [DecidablePred sel] (h : sel row) :
    entry sel unit (rows ++ [row]) =
      some ⟨unit, toString (total sel inputOf rows + inputOf row)⟩ := by
  unfold entry
  rw [affected_append, affected_singleton, total_append, total_singleton, if_pos h, if_pos h,
    if_neg (Nat.succ_ne_zero _)]

/-- What `addManualExposure` adds to. -/
theorem holds_entry [DecidablePred sel] (hunit : unit.validate = true)
    (hlt : total sel inputOf rows < 2 ^ 256) :
    Holds ((entry sel unit rows).getD ⟨unit, "0"⟩)
        (total sel inputOf rows) ∧
      ((entry sel unit rows).getD ⟨unit, "0"⟩).unit = unit := by
  unfold entry
  split
  · rename_i hnone
    rw [total_eq_zero fun r hr hsel => (affected_pos_iff.mpr ⟨r, hr, hsel⟩).ne' hnone]
    exact ⟨⟨hunit, rfl, by decide⟩, rfl⟩
  · exact ⟨⟨hunit, rfl, hlt⟩, rfl⟩

/-- The entries after a row that one unit selects. -/
theorem addManualExposure_entry (sel : RiskUnit → RiskReservation → Prop)
    [∀ u, DecidablePred (sel u)] {input : Quantity} (hinput : Holds input (inputOf row))
    (hsel : ∀ u, sel u row ↔ u = input.unit) (hlt : total (sel input.unit) inputOf rows < 2 ^ 256) :
    addManualExposure (fun u => entry (sel u) u rows) input =
      if total (sel input.unit) inputOf rows + inputOf row < 2 ^ 256 then
        .ok fun u => entry (sel u) u (rows ++ [row])
      else .error (.rejected "EXPOSURE_OVERFLOW") := by
  obtain ⟨hprior, hunit⟩ := holds_entry hinput.1 hlt
  unfold addManualExposure
  rw [add_holds hprior hinput hunit]
  split
  · refine congrArg Except.ok (funext fun u => ?_)
    dsimp only
    by_cases hu : u = input.unit
    · subst hu
      rw [if_pos rfl, entry_selected ((hsel _).mpr rfl)]
    · rw [if_neg hu, entry_other fun h => hu ((hsel u).mp h)]
  · rfl

/-- The counters of the window are those of the longer list, and nothing else changes. -/
theorem countWindow_summary :
    (summary host units wallet now cutoff rows).countWindow wallet cutoff row =
      { summary host units wallet now cutoff rows with
        walletWindowOperations :=
          affected (fun r => InWindow cutoff r ∧ r.walletId = wallet) (rows ++ [row])
        globalWindowOperations := affected (InWindow cutoff) (rows ++ [row]) } := by
  unfold Exposure.countWindow
  rw [affected_append, affected_append, affected_singleton, affected_singleton]
  by_cases hwindow : InWindow cutoff row
  · by_cases hwallet : row.walletId = wallet
    · rw [if_pos hwindow, if_pos hwallet, if_pos ⟨hwindow, hwallet⟩, if_pos hwindow]
      rfl
    · rw [if_pos hwindow, if_neg hwallet, if_neg fun h => hwallet h.2, if_pos hwindow]
      rfl
  · rw [if_neg hwindow, if_neg fun h => hwindow h.1, if_neg hwindow]
    rfl

theorem walletEntry_other (h : ¬ (row.state.Active ∧ row.walletId = wallet)) :
    entry (fun r => Uses units unit r ∧ r.walletId = wallet) unit (rows ++ [row]) =
      entry (fun r => Uses units unit r ∧ r.walletId = wallet) unit rows :=
  entry_other fun h' => h ⟨h'.1.1, h'.2⟩

/-- A row that holds nothing leaves the totals as they are. -/
theorem summary_inactive (hactive : ¬ row.state.Active) :
    (summary host units wallet now cutoff rows).countWindow wallet cutoff row =
      summary host units wallet now cutoff (rows ++ [row]) := by
  rw [countWindow_summary]
  unfold summary
  have hall : ∀ unit, entry (Uses units unit) unit (rows ++ [row]) =
    entry (Uses units unit) unit rows :=
    fun unit => entry_other fun h => hactive h.1
  simp only [hall, walletEntry_other fun h => hactive h.1, total_append, total_singleton,
    affected_append, affected_singleton, hactive, false_and, if_false, Nat.add_zero]

theorem fits_inactive (hactive : ¬ row.state.Active) :
    Fits host units now (rows ++ [row]) ↔ Fits host units now rows := by
  unfold Fits
  simp only [total_append, total_singleton, Uses, hactive, false_and, if_false, Nat.add_zero]

/-- The sums that an active row changes. -/
theorem fits_active (hactive : row.state.Active) (hunit : unitOf units row = some unit)
    (hfits : Fits host units now rows) :
    Fits host units now (rows ++ [row]) ↔
      total (Uses units unit) inputOf rows + inputOf row < 2 ^ 256 ∧
        total (fun r => r.state.Active) (outlayOf host units now) rows +
          outlayOf host units now row < 2 ^ 256 := by
  unfold Fits
  simp only [total_append, total_singleton, if_pos hactive]
  refine and_congr_left fun _ => ⟨fun h => ?_, fun h u => ?_⟩
  · have := h unit
    rwa [if_pos ⟨hactive, hunit⟩] at this
  · by_cases hu : u = unit
    · subst hu
      rwa [if_pos ⟨hactive, hunit⟩]
    · rw [if_neg fun h' => hu (Option.some.inj (h'.2.symm.trans hunit))]
      exact hfits.1 u

theorem ok_eq_iff {ε α : Type} {a b v : α} {P : Prop} (hP : P) (h : a = b) :
    (Except.ok a : Except ε α) = .ok v ↔ P ∧ v = b := by
  rw [and_iff_right hP, Except.ok.injEq, h, eq_comm]

/-- The totals after an active row. -/
theorem addActive_summary {input spent : Quantity} (hactive : row.state.Active)
    (hverify : verifyRow host units row now = .ok (input, spent)) (hfits : Fits host units now rows)
    {v : Exposure} :
    ((summary host units wallet now cutoff rows).countWindow wallet cutoff row).addActive wallet row
    input
        spent = .ok v ↔
      Fits host units now (rows ++ [row]) ∧ v = summary host units wallet now cutoff
      (rows ++ [row]) := by
  obtain ⟨hunit, hm, hspent, hn, -⟩ := verifyRow_ok hverify
  have huses : ∀ u, Uses units u row ↔ u = input.unit := fun u =>
    ⟨fun h => Option.some.inj (h.2.symm.trans hunit), fun h => ⟨hactive, h ▸ hunit⟩⟩
  have hnative : ∀ {k : Nat}, k < 2 ^ 256 → Holds ⟨nativeUnit "NATIVE_OUTLAY", toString k⟩ k :=
    fun hk => ⟨nativeUnit_validate, rfl, hk⟩
  rw [fits_active hactive hunit hfits, countWindow_summary]
  unfold Exposure.addActive
  dsimp only [summary]
  rw [addManualExposure_entry (fun u => Uses units u) hm huses (hfits.1 _)]
  by_cases hA : total (Uses units input.unit) inputOf rows + inputOf row < 2 ^ 256
  · rw [if_pos hA, add_holds (hnative hfits.2) hn hspent.symm]
    by_cases hB : total (fun r => r.state.Active) (outlayOf host units now) rows +
        outlayOf host units now row < 2 ^ 256
    · rw [if_pos hB]
      dsimp only [bind, Except.bind]
      by_cases hwallet : row.walletId = wallet
      · -- The wallet's sums are parts of the global ones, so they cannot overflow on their own.
        have hinputs :
            total (fun r => Uses units input.unit r ∧ r.walletId = wallet) inputOf rows ≤ _ :=
          total_le_total fun r h => h.1
        have houtlays : total (fun r => r.state.Active ∧ r.walletId = wallet)
          (outlayOf host units now)
            rows ≤ _ := total_le_total fun r h => h.1
        rw [if_pos hwallet, addManualExposure_entry (fun u r => Uses units u r ∧
          r.walletId = wallet) hm
            (fun u => by rw [and_iff_left hwallet, huses u]) (by omega), if_pos (by omega)]
        dsimp only
        rw [add_holds (hnative (by omega)) hn hspent.symm, if_pos (by omega)]
        refine ok_eq_iff ⟨hA, hB⟩ ?_
        simp only [total_append, total_singleton, affected_append, affected_singleton, hactive,
          hwallet, hspent, and_self, if_true]
      · rw [if_neg hwallet]
        refine ok_eq_iff ⟨hA, hB⟩ ?_
        simp only [walletEntry_other fun h => hwallet h.2, total_append, total_singleton,
          affected_append, affected_singleton, hactive, hwallet, hspent, and_false, if_true,
          if_false, Nat.add_zero]
    · rw [if_neg hB]
      exact ⟨nofun, fun h => absurd h.1.2 hB⟩
  · rw [if_neg hA]
    exact ⟨nofun, fun h => absurd h.1.1 hA⟩

/-- The body of the loop: the exposure of the rows so far becomes that of one row more, or is
refused. -/
theorem addRow_summary (hfits : Fits host units now rows) {v : Exposure} :
    addRow host units wallet p now cutoff (summary host units wallet now cutoff rows) row = .ok v ↔
      Admits host units p now row ∧ Fits host units now (rows ++ [row]) ∧
        v = summary host units wallet now cutoff (rows ++ [row]) := by
  unfold addRow Admits
  by_cases htyped : Typed units row
  swap
  · rw [if_pos htyped]
    exact ⟨nofun, fun h => absurd h.1.1 htyped⟩
  rw [if_neg (not_not_intro htyped)]
  rcases hverify : verifyRow host units row now with e | ⟨input, spent⟩
  · exact ⟨nofun, fun h => nomatch h.1.2.1⟩
  dsimp only
  by_cases hactive : row.state.Active
  swap
  · rw [if_pos hactive, summary_inactive hactive, fits_inactive hactive, ← and_assoc]
    exact ok_eq_iff ⟨⟨htyped, ⟨_, rfl⟩, fun h => absurd h hactive⟩, hfits⟩ rfl
  rw [if_neg (not_not_intro hactive)]
  have hunit := (verifyRow_ok hverify).1
  by_cases hlimit : p.limit input.unit = none
  · rw [if_pos hlimit]
    exact ⟨nofun, fun h => absurd hlimit (h.1.2.2 hactive _ hunit)⟩
  rw [if_neg hlimit, addActive_summary hactive hverify hfits]
  refine (and_iff_right ⟨htyped, ⟨_, rfl⟩, fun _ unit hu => ?_⟩).symm
  rwa [← Option.some.inj (hunit.symm.trans hu)]

/-! ## All rows -/

theorem Fits.left {more : List RiskReservation} (h : Fits host units now (rows ++ more)) :
    Fits host units now rows := by
  unfold Fits at h ⊢
  simp only [total_append] at h
  exact ⟨fun unit => Nat.lt_of_le_of_lt (Nat.le_add_right _ _) (h.1 unit),
    Nat.lt_of_le_of_lt (Nat.le_add_right _ _) h.2⟩

theorem summary_nil : summary host units wallet now cutoff [] = {} := by
  have hentry : ∀ (sel : RiskReservation → Prop) [DecidablePred sel] unit,
    entry sel unit [] = none :=
    fun _ _ _ => if_pos rfl
  have hzero : toString 0 = "0" := rfl
  simp only [summary, hentry, total_nil, hzero]
  rfl

/-- The second loop. -/
theorem foldlM_addRow : ∀ {v : Exposure},
    rows.foldlM (addRow host units wallet p now cutoff) {} = .ok v ↔
      (∀ row ∈ rows, Admits host units p now row) ∧ Fits host units now rows ∧
        v = summary host units wallet now cutoff rows := by
  induction rows using List.reverseRecOn with
  | nil =>
      intro v
      have hempty : Fits host units now [] := ⟨fun _ => Nat.two_pow_pos 256, Nat.two_pow_pos 256⟩
      rw [List.foldlM_nil, ← and_assoc]
      exact ok_eq_iff ⟨nofun, hempty⟩ summary_nil.symm
  | append_singleton rows row ih =>
      intro v
      rw [List.foldlM_append]
      simp only [List.foldlM_cons, List.foldlM_nil, bind_pure]
      rcases hrows : rows.foldlM (addRow host units wallet p now cutoff) {} with e | before
      · refine ⟨nofun, fun h => ?_⟩
        rw [ih.mpr ⟨fun r hr => h.1 r (List.mem_append_left _ hr), h.2.1.left, rfl⟩] at hrows
        cases hrows
      · obtain ⟨hadmits, hfits, rfl⟩ := ih.mp hrows
        refine (addRow_summary hfits).trans (and_congr_left fun _ => ?_)
        simp only [List.forall_mem_append, List.forall_mem_singleton]
        exact (and_iff_right hadmits).symm

/-- The row has a date up to now, and a wallet. -/
def Dated (now : Instant) (row : RiskReservation) : Prop :=
  (∃ stamp, canonicalTime row.createdAt = some stamp ∧ ¬ now < stamp) ∧ validID row.walletId = true

/-- The rows that the second loop looks at. -/
def Counts (cutoff : Instant) (row : RiskReservation) : Prop := row.state.Active ∨
    InWindow cutoff row
deriving Decidable

/-- The first loop. -/
theorem relevant_eq_ok : ∀ {rs : List RiskReservation}, relevant now cutoff rows = .ok rs ↔
    (∀ row ∈ rows, Dated now row) ∧ rs = rows.filter (Counts cutoff ·) := by
  induction rows with
  | nil => exact ok_eq_iff nofun rfl
  | cons row rows ih =>
      intro rs
      unfold relevant
      rw [List.forall_mem_cons]
      rcases hstamp : canonicalTime row.createdAt with _ | stamp
      · exact ⟨nofun, fun h => by
          obtain ⟨⟨⟨stamp, h', -⟩, -⟩, -⟩ := h.1
          cases hstamp.symm.trans h'⟩
      dsimp only
      have hdated : Dated now row ↔ ¬ (now < stamp ∨ validID row.walletId = false) := by
        simp only [Dated, hstamp, Option.some.injEq, exists_eq_left', not_or, Bool.not_eq_false]
      have hcounts : Counts cutoff row ↔ row.state.Active ∨ cutoff ≤ stamp := by
        simp only [Counts, InWindow, hstamp, Option.mem_def, Option.some.injEq, exists_eq_left']
      by_cases hbad : now < stamp ∨ validID row.walletId = false
      · rw [if_pos hbad]
        exact ⟨nofun, fun h => absurd hbad (hdated.mp h.1.1)⟩
      rw [if_neg hbad]
      rcases hrest : relevant now cutoff rows with e | rest
      · exact ⟨nofun, fun h => nomatch hrest.symm.trans (ih.mpr ⟨h.1.2, rfl⟩)⟩
      obtain ⟨hall, rfl⟩ := ih.mp hrest
      refine ok_eq_iff ⟨hdated.mpr hbad, hall⟩ ?_
      simp only [List.filter_cons, hcounts, decide_eq_true_eq]

/-- The rows that are left out hold nothing and are not of the window. -/
theorem summary_relevant :
    summary host units wallet now cutoff (rows.filter (Counts cutoff ·)) =
      summary host units wallet now cutoff rows := by
  have hentry : ∀ {sel : RiskReservation → Prop} [DecidablePred sel] {unit : RiskUnit},
      (∀ r, sel r → Counts cutoff r) → entry sel unit (rows.filter (Counts cutoff ·)) =
      entry sel unit rows := by
    intro sel _ unit h
    unfold entry
    rw [affected_filter h, total_filter h]
  simp only [summary, Exposure.mk.injEq, Quantity.mk.injEq, true_and]
  refine ⟨funext fun unit => hentry fun r h => Or.inl h.1.1,
    funext fun unit => hentry fun r h => Or.inl h.1,
      congrArg toString (total_filter fun r h => Or.inl h.1),
      congrArg toString (total_filter fun r h => Or.inl h), affected_filter fun r h => Or.inr h.1,
      affected_filter fun r h => Or.inr h, affected_filter fun r h => Or.inl h.1⟩

theorem fits_relevant :
    Fits host units now (rows.filter (Counts cutoff ·)) ↔ Fits host units now rows := by
  have hinputs : ∀ unit, total (Uses units unit) inputOf (rows.filter (Counts cutoff ·)) =
      total (Uses units unit) inputOf rows := fun unit => total_filter fun r h => Or.inl h.1
  have houtlays : total (fun r => r.state.Active) (outlayOf host units now)
      (rows.filter (Counts cutoff ·)) = total (fun r => r.state.Active)
      (outlayOf host units now) rows :=
    total_filter fun r h => Or.inl h
  unfold Fits
  simp only [hinputs, houtlays]

/-- When the exposure is known, and what it is. -/
theorem loadManualExposure_eq_ok {db : ExposureDb} {v : Exposure} :
    loadManualExposure host db wallet p now = .ok v ↔
      (validID wallet = true ∧ p.validate = true ∧ now ≠ zeroInstant) ∧
      checkWindows (cutoffOf p now) db.windows = .ok () ∧
      (∀ row ∈ db.reservations, Dated now row) ∧
      (∀ row ∈ db.reservations, Counts (cutoffOf p now) row → Admits host db.units p now row) ∧
      Fits host db.units now db.reservations ∧
      v = summary host db.units wallet now (cutoffOf p now) db.reservations := by
  unfold loadManualExposure
  by_cases hargs : validID wallet = false ∨ p.validate = false ∨ now = zeroInstant
  · rw [if_pos hargs]
    refine ⟨nofun, fun h => ?_⟩
    obtain ⟨⟨hwallet, hpolicy, hnow⟩, -⟩ := h
    rcases hargs with h' | h' | h'
    · cases h'.symm.trans hwallet
    · cases h'.symm.trans hpolicy
    · exact absurd h' hnow
  rw [if_neg hargs]
  simp only [not_or, Bool.not_eq_false] at hargs
  rw [and_iff_right ⟨hargs.1, hargs.2.1, hargs.2.2⟩]
  rcases hwindows : checkWindows (cutoffOf p now) db.windows with e | ⟨⟩
  · exact ⟨nofun, fun h => nomatch h.1⟩
  rw [and_iff_right rfl]
  dsimp only
  rcases hrelevant : relevant now (cutoffOf p now) db.reservations with e | rows
  · exact ⟨nofun, fun h => nomatch hrelevant.symm.trans (relevant_eq_ok.mpr ⟨h.1, rfl⟩)⟩
  obtain ⟨hdated, rfl⟩ := relevant_eq_ok.mp hrelevant
  dsimp only
  rw [foldlM_addRow, fits_relevant, summary_relevant, and_iff_right hdated]
  simp only [List.mem_filter, decide_eq_true_eq, and_imp]

theorem summary_perm {rows' : List RiskReservation} (h : rows.Perm rows') :
    summary host units wallet now cutoff rows = summary host units wallet now cutoff rows' := by
  unfold summary entry
  simp only [affected_perm h, total_perm h]

theorem fits_perm {rows' : List RiskReservation} (h : rows.Perm rows') :
    Fits host units now rows ↔ Fits host units now rows' := by
  unfold Fits
  simp only [total_perm h]

/-! ## The totals -/

/-- A total of the active rows reaches 2^256, for all wallets or for one. -/
def Overflows (host : ExposureHost) (units : List UnitRow) (wallet : String) (now : Instant)
    (rows : List RiskReservation) : Prop :=
  (∃ unit, 2 ^ 256 ≤ total (Uses units unit) inputOf rows ∨
    2 ^ 256 ≤ total (fun r => Uses units unit r ∧ r.walletId = wallet) inputOf rows) ∨
  2 ^ 256 ≤ total (fun r => r.state.Active) (outlayOf host units now) rows ∨
  2 ^ 256 ≤ total (fun r => r.state.Active ∧ r.walletId = wallet) (outlayOf host units now) rows

theorem Fits.not_overflows (h : Fits host units now rows) :
    ¬ Overflows host units wallet now rows := by
  have hinputs : ∀ unit, total (fun r => Uses units unit r ∧ r.walletId = wallet) inputOf rows ≤
      total (Uses units unit) inputOf rows := fun unit => total_le_total fun r h => h.1
  have houtlays : total (fun r => r.state.Active ∧ r.walletId = wallet)
    (outlayOf host units now) rows ≤
      total (fun r => r.state.Active) (outlayOf host units now) rows :=
      total_le_total fun r h => h.1
  rintro (⟨unit, hall | hwallet⟩ | hall | hwallet)
  · exact absurd (h.1 unit) (Nat.not_lt.mpr hall)
  · exact absurd (h.1 unit) (Nat.not_lt.mpr (hwallet.trans (hinputs unit)))
  · exact absurd h.2 (Nat.not_lt.mpr hall)
  · exact absurd h.2 (Nat.not_lt.mpr (hwallet.trans houtlays))

/-- The exposure is that of all rows, in whatever order they come; and it is an error, not a smaller
total, when a sum does not fit, when a row that matters has no unit or one without a limit, or when
a row is of a later time. -/
theorem exposure_exact (host : ExposureHost) (db : ExposureDb) (wallet : String) (p : Policy)
    (now : Instant) :
    (∀ v, loadManualExposure host db wallet p now = .ok v →
      v = summary host db.units wallet now (cutoffOf p now) db.reservations ∧
        ∀ row ∈ db.reservations, row.state.Active → Reads host db.units now row) ∧
    (∀ rows : List RiskReservation, rows.Perm db.reservations →
      (loadManualExposure host { db with reservations := rows } wallet p now).toOption =
        (loadManualExposure host db wallet p now).toOption) ∧
    ((Overflows host db.units wallet now db.reservations ∨
        (∃ row ∈ db.reservations, (row.state.Active ∨ InWindow (cutoffOf p now) row) ∧
          ¬ Typed db.units row) ∨
        (∃ row ∈ db.reservations, row.state.Active ∧
          ∃ unit, unitOf db.units row = some unit ∧ p.limit unit = none) ∨
        ∃ row ∈ db.reservations, ∃ stamp, canonicalTime row.createdAt = some stamp ∧ now < stamp) →
      ∃ e, loadManualExposure host db wallet p now = .error e) := by
  refine ⟨fun v h => ?_, fun rows hperm => ?_, fun hbad => ?_⟩
  · obtain ⟨-, -, -, hadmits, -, rfl⟩ := loadManualExposure_eq_ok.mp h
    refine ⟨rfl, fun row hrow hactive => ?_⟩
    obtain ⟨-, ⟨⟨input, spent⟩, hverify⟩, -⟩ := hadmits row hrow (Or.inl hactive)
    exact (verifyRow_ok hverify).2.2.2.2
  · have hsome : ∀ (x : Except Refusal Exposure) v, x.toOption = some v ↔ x = .ok v := by
      rintro (e | w) v <;> simp [Except.toOption]
    refine Option.ext fun v => ?_
    simp only [hsome, loadManualExposure_eq_ok, hperm.mem_iff, fits_perm hperm, summary_perm hperm]
  · rcases hload : loadManualExposure host db wallet p now with e | v
    · exact ⟨e, rfl⟩
    obtain ⟨-, -, hdated, hadmits, hfits, -⟩ := loadManualExposure_eq_ok.mp hload
    exfalso
    rcases hbad with h | ⟨row, hrow, hcounts, h⟩ | ⟨row, hrow, hactive, unit, hunit, h⟩ |
      ⟨row, hrow, stamp, hstamp, h⟩
    · exact hfits.not_overflows h
    · exact h (hadmits row hrow hcounts).1
    · exact (hadmits row hrow (Or.inl hactive)).2.2 hactive unit hunit h
    · obtain ⟨⟨stamp', hstamp', hle⟩, -⟩ := hdated row hrow
      exact hle (Option.some.inj (hstamp.symm.trans hstamp') ▸ h)

end RbhTrade.ManualExposure
