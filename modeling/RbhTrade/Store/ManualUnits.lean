import RbhTrade.Store.ManualRisk

/-!
# MANUAL quantities

`manualrisk.Quantity` with its checked arithmetic, and the aggregate `manual_u256_sum_json` that the
triggers use for the same totals.
-/

namespace RbhTrade

/-- `manualSQLSum`: the text is an array, and each of its items is read as a string. -/
def manualSQLSum (raw : String) : Option String :=
  match Json.parse raw with
  | some (.arr items) =>
      (items.mapM fun item => Json.fill Json.readText "" [item]).bind u256Sum
  | _ => none

namespace Risk

structure Quantity where
  unit : RiskUnit
  units : String
deriving DecidableEq

/-- `Quantity.Validate` returns no error. -/
def Quantity.validate (q : Quantity) : Bool := q.unit.validate && (uint256 q.units true).isSome

/-- `Add`. -/
def add (a b : Quantity) : Option Quantity :=
  if a.validate = false ∨ b.validate = false ∨ a.unit ≠ b.unit then none
  else
    match uint256 a.units true, uint256 b.units true with
    | some l, some r => if 2 ^ 256 ≤ l + r then none else some ⟨a.unit, toString (l + r)⟩
    | _, _ => none

/-- The native unit of a kind. -/
def nativeUnit (kind : String) : RiskUnit := ⟨4663, "native", 18, kind⟩

/-- `GasBudget`. -/
def gasBudget (limit fee tip : String) : Option Quantity :=
  match uint256 limit false, uint256 fee false, uint256 tip true with
  | some l, some f, some t =>
      if f < t ∨ 2 ^ 64 ≤ l ∨ 2 ^ 256 ≤ l * f then none
      else some ⟨nativeUnit "NATIVE_GAS", toString (l * f)⟩
  | _, _, _ => none

/-- `Outlay`. -/
def outlay (value gas : Quantity) : Option Quantity :=
  if value.validate = false ∨ gas.validate = false ∨ value.unit ≠ nativeUnit "NATIVE_VALUE" ∨
      gas.unit ≠ nativeUnit "NATIVE_GAS" then none
  else add ⟨nativeUnit "NATIVE_OUTLAY", value.units⟩ ⟨nativeUnit "NATIVE_OUTLAY", gas.units⟩

/-- `Policy.Limit`. -/
def Policy.limit (p : Policy) (unit : RiskUnit) : Option InputLimit :=
  if p.validate = false ∨ unit.validate = false ∨ unit.kind ≠ "TRADE_INPUT" then none
  else p.limits.find? fun l => l.unit = unit

end Risk

end RbhTrade
