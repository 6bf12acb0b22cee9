import RbhTrade.Schema
import RbhTrade.Store.ManualUnits

/-!
# The exposure of MANUAL reservations

`loadManualExposureTx`: one pass over all risk reservations that adds the inputs and native outlays
of the active ones, for all wallets and for one, and counts the operations of a rolling window. It
refuses rather than leave out a row that it cannot account for.

What a saved validation says of a row is taken from a host: it stands for the records that
`verifyManualExposureRow` reads and compares before it makes the quantities.
-/

namespace RbhTrade.ManualExposure

open GoTime Risk Tables

/-- The columns of `manual_reservation_units` that are used. -/
structure UnitRow where
  reservationId : String
  operationId : String
  unit : RiskUnit
deriving DecidableEq

/-- A row of `canary_window_usage` with the seconds of its policy, if they can be read. -/
structure WindowRow where
  start : String
  seconds : Option Nat
deriving DecidableEq

structure ExposureDb where
  windows : List WindowRow := []
  reservations : List RiskReservation := []
  units : List UnitRow := []

inductive Refusal where
  | invalid
  | unavailable
  | rejected (code : String)
deriving DecidableEq

/-- The part of a saved `ValidationOutput` that the quantities are made of. -/
structure SavedOutput where
  value : String
  gasLimit : UInt64
  gasFeeCap : String
  gasTipCap : String
deriving DecidableEq

/-- The saved output of a row, when its record, resolution, policies, hashes and times agree. -/
structure ExposureHost where
  verified : RiskReservation → UnitRow → Instant → Except Refusal SavedOutput

variable (host : ExposureHost)

/-- The unit row of a reservation. -/
def UnitRow.Of (row : RiskReservation) (u : UnitRow) : Prop :=
  u.reservationId = row.id ∧ u.operationId = row.operationId
deriving Decidable

/-- `verifyManualExposureRow`: the input and the native outlay. -/
def verifyRow (units : List UnitRow) (row : RiskReservation) (now : Instant) :
    Except Refusal (Quantity × Quantity) :=
  match units.find? (UnitRow.Of row ·) with
  | none => .error (.rejected "EXPOSURE_BINDING_INVALID")
  | some u =>
      match host.verified row u now with
      | .error e => .error e
      | .ok out =>
          let input : Quantity := ⟨u.unit, row.inputAmount⟩
          match gasBudget (toString out.gasLimit.toNat) out.gasFeeCap out.gasTipCap with
          | none => .error (.rejected "EXPOSURE_QUANTITY_INVALID")
          | some gas =>
              if gas.units ≠ row.gasBudget ∨ input.validate = false ∨ input.units = "0" then
                .error (.rejected "EXPOSURE_QUANTITY_INVALID")
              else
                match outlay ⟨nativeUnit "NATIVE_VALUE", out.value⟩ gas with
                | none => .error (.rejected "EXPOSURE_QUANTITY_INVALID")
                | some spent => .ok (input, spent)

/-- `manualExposure`; a map is the function of its entries. -/
structure Exposure where
  walletInput : RiskUnit → Option Quantity := fun _ => none
  globalInput : RiskUnit → Option Quantity := fun _ => none
  walletOutlay : Quantity := ⟨nativeUnit "NATIVE_OUTLAY", "0"⟩
  globalOutlay : Quantity := ⟨nativeUnit "NATIVE_OUTLAY", "0"⟩
  walletWindowOperations : Nat := 0
  globalWindowOperations : Nat := 0
  walletActiveOperations : Nat := 0

/-- A checked addition; a sum of more than 256 bits is refused. -/
def addChecked (a b : Quantity) : Except Refusal Quantity :=
  match Risk.add a b with
  | some q => .ok q
  | none => .error (.rejected "EXPOSURE_OVERFLOW")

/-- `addManualExposure`. -/
def addManualExposure (m : RiskUnit → Option Quantity) (input : Quantity) :
    Except Refusal (RiskUnit → Option Quantity) :=
  (addChecked ((m input.unit).getD ⟨input.unit, "0"⟩) input).map fun updated unit =>
    if unit = input.unit then some updated else m unit

/-- The reservation was made in the window. -/
def InWindow (cutoff : Instant) (row : RiskReservation) : Prop :=
  ∃ stamp ∈ canonicalTime row.createdAt, cutoff ≤ stamp
deriving Decidable

/-- Exactly one row names the unit of the reservation. -/
def Typed (units : List UnitRow) (row : RiskReservation) : Prop :=
  affected (UnitRow.Of row) units = 1
deriving Decidable

/-- The counters of the window after a row. -/
def Exposure.countWindow (v : Exposure) (wallet : String) (cutoff : Instant)
    (row : RiskReservation) :
    Exposure :=
  if InWindow cutoff row then
    { v with
      globalWindowOperations := v.globalWindowOperations + 1
      walletWindowOperations :=
        if row.walletId = wallet then v.walletWindowOperations + 1 else v.walletWindowOperations }
  else v

/-- The totals of the active reservations after one of them. -/
def Exposure.addActive (v : Exposure) (wallet : String) (row : RiskReservation)
    (input spent : Quantity) :
    Except Refusal Exposure := do
  let globalInput ← addManualExposure v.globalInput input
  let globalOutlay ← addChecked v.globalOutlay spent
  if row.walletId = wallet then
    let walletInput ← addManualExposure v.walletInput input
    let walletOutlay ← addChecked v.walletOutlay spent
    .ok { v with
      globalInput, globalOutlay, walletInput, walletOutlay
      walletActiveOperations := v.walletActiveOperations + 1 }
  else .ok { v with globalInput, globalOutlay }

/-- The body of the second loop. -/
def addRow (units : List UnitRow) (wallet : String) (p : Policy) (now cutoff : Instant)
    (v : Exposure) (row : RiskReservation) : Except Refusal Exposure :=
  if ¬ Typed units row then .error (.rejected "UNTYPED_RESERVATION_HISTORY")
  else
    match verifyRow host units row now with
    | .error e => .error e
    | .ok (input, spent) =>
        let v := v.countWindow wallet cutoff row
        if ¬ row.state.Active then .ok v
        else if p.limit input.unit = none then
          .error (.rejected "EXPOSURE_CURRENT_POLICY_UNIT_UNSUPPORTED")
        else v.addActive wallet row input spent

/-- The first loop: the rows that are active or in the window. -/
def relevant (now cutoff : Instant) : List RiskReservation → Except Refusal (List RiskReservation)
  | [] => .ok []
  | row :: rows =>
      match canonicalTime row.createdAt with
      | none => .error (.rejected "EXPOSURE_TIME_OR_WALLET_INVALID")
      | some stamp =>
          if now < stamp ∨ validID row.walletId = false then
            .error (.rejected "EXPOSURE_TIME_OR_WALLET_INVALID")
          else
            (relevant now cutoff rows).map fun rest =>
              if row.state.Active ∨ cutoff ≤ stamp then row :: rest else rest

/-- The loop over the usage of fixed windows: each must have ended before the cutoff. -/
def checkWindows (cutoff : Instant) : List WindowRow → Except Refusal Unit
  | [] => .ok ()
  | w :: ws =>
      match w.seconds, canonicalTime w.start with
      | none, _ => .error .unavailable
      | some _, none => .error (.rejected "UNTYPED_WINDOW_HISTORY")
      | some seconds, some stamp =>
          if seconds = 0 ∨ 31536000 < seconds ∨ cutoff ≤ stamp + seconds * nanosPerSecond then
            .error (.rejected "UNTYPED_WINDOW_HISTORY")
          else checkWindows cutoff ws

/-- The start of the window. -/
def cutoffOf (p : Policy) (now : Instant) : Instant := now - p.windowSeconds.toNat * nanosPerSecond

/-- `loadManualExposureTx`; the rows may come in any order. -/
def loadManualExposure (db : ExposureDb) (wallet : String) (p : Policy) (now : Instant) :
    Except Refusal Exposure :=
  if validID wallet = false ∨ p.validate = false ∨ now = zeroInstant then .error .invalid
  else
    match checkWindows (cutoffOf p now) db.windows with
    | .error e => .error e
    | .ok _ =>
        match relevant now (cutoffOf p now) db.reservations with
        | .error e => .error e
        | .ok rows => rows.foldlM (addRow host db.units wallet p now (cutoffOf p now)) {}

end RbhTrade.ManualExposure
