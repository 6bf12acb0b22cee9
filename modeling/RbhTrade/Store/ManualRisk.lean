import RbhTrade.Lib.JsonStruct
import RbhTrade.Lib.SqlJson
import RbhTrade.Lib.Tables
import RbhTrade.Store.ManualMath

/-!
# MANUAL risk policies

`manualrisk.Policy` with `Validate` and its JSON text, and the table `manual_risk_policies` with the
column checks and triggers that a row with such a text meets. Go reads the fields with arbitrary
precision; the triggers read them back from the JSON text, as texts of digits and 64-bit integers.
-/

namespace RbhTrade.Risk

open Hex Json SqlJson

/-! ## `manualrisk` -/

/-- `Unit`. -/
structure RiskUnit where
  chainId : UInt64
  asset : String
  decimals : UInt8
  kind : String
deriving DecidableEq

structure InputLimit where
  unit : RiskUnit
  maxOperation : String
  maxWalletActive : String
  maxGlobalActive : String
deriving DecidableEq

/-- `Policy`; `none` is the nil slice. -/
structure Policy where
  id : String
  sourcePolicyVersion : UInt64
  sourcePolicyHash : String
  chainId : UInt64
  protocol : String
  inputLimits : Option (List InputLimit)
  maxNativeGasPerOperation : String
  maxNativeWalletOutlay : String
  maxNativeGlobalOutlay : String
  minNativeBalance : String
  maxSellBps : UInt64
  maxWalletOperationsWindow : UInt64
  maxGlobalOperationsWindow : UInt64
  windowSeconds : UInt64
deriving DecidableEq

/-- The address without a set digit. -/
def zeroAddress : String := "0x0000000000000000000000000000000000000000"

/-- `hex.DecodeString` returns no error. -/
def hexDecodes (cs : List Char) : Bool := cs.length % 2 = 0 && cs.all isHex

/-- `strings.ToLower` of the Latin letters. A text with another letter is no hexadecimal text, and
no caller accepts one. -/
def toLower (s : String) : String := s.map Char.toLower

/-- `Unit.Validate` returns no error. -/
def RiskUnit.validate (u : RiskUnit) : Bool :=
  u.chainId = 4663 &&
    (if u.asset = "native" then u.decimals = 18
      else u.asset.utf8ByteSize = 42 && u.asset.toList.take 2 = ['0', 'x'] &&
        toLower u.asset = u.asset && u.asset ≠ zeroAddress && hexDecodes (u.asset.toList.drop 2)) &&
    (u.kind = "TRADE_INPUT" ||
      (u.kind = "NATIVE_GAS" || u.kind = "NATIVE_VALUE" || u.kind = "NATIVE_OUTLAY") &&
        u.asset = "native")

/-- `uint256`. -/
def uint256 (s : String) (zero : Bool) : Option Nat :=
  if s.utf8ByteSize = 0 ∨ 78 < s.utf8ByteSize then none
  else
    match Decimal.bigInt? s with
    | some (.ofNat n) =>
        if (zero = false ∧ n = 0) ∨ 2 ^ 256 ≤ n ∨ toString n ≠ s then none else some n
    | _ => none

/-- The characters of a policy identifier. -/
def policyIdChar (c : Char) : Bool :=
  ('a' ≤ c && c ≤ 'z') || ('A' ≤ c && c ≤ 'Z') || c.isDigit || "_-.".toList.contains c

/-- `validID` of `manualrisk`. -/
def validPolicyID (id : String) : Bool :=
  id.utf8ByteSize ≠ 0 && id.utf8ByteSize ≤ 128 && id.toList.all policyIdChar

/-- `digest`. -/
def digest (s : String) : Bool :=
  s.utf8ByteSize = 64 && s = toLower s && hexDecodes s.toList

/-- Three caps, each at most the next; `o.Cmp(w) > 0 || w.Cmp(g) > 0` is refused. -/
def capsOrdered (low mid high : String) : Bool :=
  match uint256 low false, uint256 mid false, uint256 high false with
  | some o, some w, some g => o ≤ w && w ≤ g
  | _, _, _ => false

/-- The loop of `Validate` over the input limits. -/
def validLimits : String → List InputLimit → Bool
  | _, [] => true
  | previous, l :: ls =>
      l.unit.validate && l.unit.kind = "TRADE_INPUT" && previous < l.unit.asset &&
        capsOrdered l.maxOperation l.maxWalletActive l.maxGlobalActive &&
        validLimits l.unit.asset ls

/-- The input limits, none for the nil slice. -/
def Policy.limits (p : Policy) : List InputLimit := p.inputLimits.getD []

/-- `Policy.Validate` returns no error. -/
def Policy.validate (p : Policy) : Bool :=
  validPolicyID p.id && p.sourcePolicyVersion ≠ 0 && p.sourcePolicyVersion.toNat ≤ maxInt64 &&
    digest p.sourcePolicyHash && p.chainId = 4663 && p.protocol = "PONS_V2_CURVE" &&
    p.limits.length ≠ 0 && p.limits.length ≤ 128 && p.maxSellBps ≠ 0 && p.maxSellBps ≤ 10000 &&
    p.windowSeconds ≠ 0 && p.windowSeconds ≤ 31536000 && p.maxWalletOperationsWindow ≠ 0 &&
    p.maxWalletOperationsWindow ≤ p.maxGlobalOperationsWindow &&
    p.maxGlobalOperationsWindow.toNat ≤ maxInt64 &&
    validLimits "" p.limits &&
    capsOrdered p.maxNativeGasPerOperation p.maxNativeWalletOutlay p.maxNativeGlobalOutlay &&
    (uint256 p.minNativeBalance true).isSome

/-! ## `json.Marshal` -/

def RiskUnit.json (u : RiskUnit) : Value :=
  .struct [("chain_id", .nat u.chainId.toNat), ("asset", .text u.asset),
    ("decimals", .nat u.decimals.toNat), ("kind", .text u.kind)]

def InputLimit.json (l : InputLimit) : Value :=
  .struct [("unit", l.unit.json), ("max_operation", .text l.maxOperation),
    ("max_wallet_active", .text l.maxWalletActive), ("max_global_active", .text l.maxGlobalActive)]

/-- A nil slice is marshaled as null. -/
def limitsJson : Option (List InputLimit) → Value
  | none => .null
  | some ls => .arr (ls.map InputLimit.json)

def Policy.json (p : Policy) : Value :=
  .struct [("id", .text p.id), ("source_policy_version", .nat p.sourcePolicyVersion.toNat),
    ("source_policy_hash", .text p.sourcePolicyHash), ("chain_id", .nat p.chainId.toNat),
    ("protocol", .text p.protocol), ("input_limits", limitsJson p.inputLimits),
    ("max_native_gas_per_operation", .text p.maxNativeGasPerOperation),
    ("max_native_wallet_outlay", .text p.maxNativeWalletOutlay),
    ("max_native_global_outlay", .text p.maxNativeGlobalOutlay),
    ("min_native_balance", .text p.minNativeBalance), ("max_sell_bps", .nat p.maxSellBps.toNat),
    ("max_wallet_operations_window", .nat p.maxWalletOperationsWindow.toNat),
    ("max_global_operations_window", .nat p.maxGlobalOperationsWindow.toNat),
    ("window_seconds", .nat p.windowSeconds.toNat)]

/-- `json.Marshal(p)`. -/
def Policy.marshal (p : Policy) : String := p.json.render

/-! ## The tables -/

/-- The columns of `canary_policies` that the triggers read, with the checks of the table. -/
structure SourcePolicy where
  version : Int
  policyHash : String
  positive : 0 < version
  fits : version < 2 ^ 63
  hashLength : SqlText.length policyHash = 64

/-- `manual_risk_policies`. -/
structure RiskPolicyRow where
  id : String
  sourcePolicyVersion : Int
  sourcePolicyHash : String
  policyJson : String
  policyHash : String
  createdAt : String
deriving DecidableEq

/-- The two policy tables, and the audit and alert ids that the audit trigger inserts. -/
structure RiskDb where
  canaryPolicies : List SourcePolicy
  manualRiskPolicies : List RiskPolicyRow
  audits : List String
  alerts : List String

/-- `length(x)=64 AND x NOT GLOB '*[^0-9a-f]*'`. -/
def LowerHex64 (text : String) : Prop :=
  SqlText.length text = 64 ∧ SqlText.allIn isLowerHex text = true
deriving Decidable

/-- The column checks; the text of the policy is read as the value. -/
def RiskPolicyRow.Columns (r : RiskPolicyRow) (v : Value) : Prop :=
  (1 ≤ SqlText.length r.id ∧ SqlText.length r.id ≤ 128 ∧ SqlText.allIn policyIdChar r.id = true) ∧
    LowerHex64 r.sourcePolicyHash ∧ v.render = r.policyJson ∧ LowerHex64 r.policyHash ∧
    0 < SqlText.length r.createdAt

def policyKeys : List String :=
  ["id", "source_policy_version", "source_policy_hash", "chain_id", "protocol", "input_limits",
    "max_native_gas_per_operation", "max_native_wallet_outlay", "max_native_global_outlay",
    "min_native_balance", "max_sell_bps", "max_wallet_operations_window",
    "max_global_operations_window", "window_seconds"]

/-- The items of `json_each(v,'$.input_limits')`; none where the path is missing. -/
def limitItems (v : Value) : List Value := ((at? v ["input_limits"]).map items).getD []

/-- `json_array_length(v,'$.input_limits')`. -/
def limitCount (v : Value) : Nat := ((at? v ["input_limits"]).map arrayLength).getD 0

/-- The conjunction that `manual_risk_policy_source` asks of the header. -/
def Header (r : RiskPolicyRow) (v : Value) : Prop :=
  (extract v ["id"]).eq (.text r.id) = true ∧ type? v ["id"] = some .text ∧
    (extract v ["source_policy_version"]).eq (.int r.sourcePolicyVersion) = true ∧
    (extract v ["source_policy_hash"]).eq (.text r.sourcePolicyHash) = true ∧
    type? v ["source_policy_hash"] = some .text ∧
    (extract v ["chain_id"]).eq (.int 4663) = true ∧
    (extract v ["protocol"]).eq (.text "PONS_V2_CURVE") = true ∧ type? v ["protocol"] = some .text ∧
    type? v ["source_policy_version"] = some .integer ∧
    (extract v ["source_policy_version"]).isInt = true ∧
    type? v ["chain_id"] = some .integer ∧
    type? v ["max_sell_bps"] = some .integer ∧
    (extract v ["max_sell_bps"]).between (.int 1) (.int 10000) = true ∧
    type? v ["window_seconds"] = some .integer ∧
    (extract v ["window_seconds"]).between (.int 1) (.int 31536000) = true ∧
    type? v ["max_wallet_operations_window"] = some .integer ∧
    (Scalar.int 0).lt (extract v ["max_wallet_operations_window"]) = true ∧
    type? v ["max_global_operations_window"] = some .integer ∧
    (extract v ["max_global_operations_window"]).isInt = true ∧
    (extract v ["max_wallet_operations_window"]).le
      (extract v ["max_global_operations_window"]) = true ∧
    type? v ["input_limits"] = some .array ∧ 1 ≤ limitCount v ∧ limitCount v ≤ 128

/-- `manual_risk_policy_source` lets the row pass. -/
def Source (db : RiskDb) (r : RiskPolicyRow) (v : Value) : Prop :=
  (∃ s ∈ db.canaryPolicies, s.version = r.sourcePolicyVersion ∧ s.policyHash = r.sourcePolicyHash) ∧
    Header r v ∧ HasKeys policyKeys v

/-- The largest 256-bit number. -/
def maxUint256 : String :=
  "115792089237316195423570985008687907853269984665640564039457584007913129639935"

/-- The test of a cap, with the rule of the trigger for a leading zero. -/
def CapText (lead : String → Prop) (value : Value) : Prop :=
  kind value = .text ∧ ∃ s ∈ (scalar value).text?, 1 ≤ SqlText.length s ∧ SqlText.length s ≤ 78 ∧
    SqlText.allIn Char.isDigit s = true ∧ lead s ∧ ¬ (SqlText.length s = 78 ∧ maxUint256 < s)

def nativeCapKeys : List String :=
  ["max_native_gas_per_operation", "max_native_wallet_outlay", "max_native_global_outlay",
    "min_native_balance"]

/-- The leading zero of a native cap: only the balance may be zero. -/
def NativeLead (key : String) (s : String) : Prop :=
  ¬ (s ≠ "0" ∧ SqlText.substr s 1 1 = "0") ∧ ¬ (s = "0" ∧ key ≠ "min_native_balance")

/-- `manual_risk_policy_native_caps` lets the row pass. -/
def NativeCaps (v : Value) : Prop :=
  ((members v).filter fun m => m.1 ∈ nativeCapKeys).length = 4 ∧
    ∀ m ∈ members v, m.1 ∈ nativeCapKeys → CapText (NativeLead m.1) m.2

/-- The asset test of `manual_risk_policy_input_units`. -/
def AssetText (asset decimals : Scalar) : Prop :=
  (asset.eq (.text "native") = true ∧ decimals.eq (.int 18) = true) ∨
    ∃ s ∈ asset.text?, SqlText.length s = 42 ∧ SqlText.substr s 1 2 = "0x" ∧
      SqlText.allIn isLowerHex (SqlText.substrFrom s 3) = true ∧ s ≠ zeroAddress

/-- The conjunction that `manual_risk_policy_input_units` asks of a limit. -/
def LimitUnit (l : Value) : Prop :=
  kind l = .object ∧ type? l ["unit", "chain_id"] = some .integer ∧
    (extract l ["unit", "chain_id"]).eq (.int 4663) = true ∧
    type? l ["unit", "decimals"] = some .integer ∧
    (extract l ["unit", "decimals"]).between (.int 0) (.int 255) = true ∧
    type? l ["unit", "asset"] = some .text ∧ type? l ["unit", "kind"] = some .text ∧
    (extract l ["unit", "kind"]).eq (.text "TRADE_INPUT") = true ∧
    AssetText (extract l ["unit", "asset"]) (extract l ["unit", "decimals"]) ∧
    type? l ["max_operation"] = some .text ∧ type? l ["max_wallet_active"] = some .text ∧
    type? l ["max_global_active"] = some .text

def limitCapKeys : List String := ["max_operation", "max_wallet_active", "max_global_active"]

/-- The leading zero of an input cap. -/
def LimitLead (s : String) : Prop := SqlText.substr s 1 1 ≠ "0"

/-- The assets of the limits, NULL left out. -/
def limitAssets (v : Value) : List Scalar :=
  ((limitItems v).map fun l => extract l ["unit", "asset"]).filter (· ≠ .null)

/-- `manual_risk_policy_input_units` lets the row pass. -/
def InputUnits (v : Value) : Prop :=
  (∀ l ∈ limitItems v, LimitUnit l) ∧ (limitAssets v).dedup.length = limitCount v ∧
    ∀ l ∈ limitItems v, ∀ c ∈ members l, c.1 ∈ limitCapKeys → CapText LimitLead c.2

/-- `manual_risk_policy_structure` lets the row pass. -/
def Structure (v : Value) : Prop :=
  (∀ l ∈ limitItems v,
    HasKeys ["unit", "max_operation", "max_wallet_active", "max_global_active"] l ∧
      HasKeys ["chain_id", "asset", "decimals", "kind"] ((at? l ["unit"]).getD .null)) ∧
    ∀ ab ∈ (limitItems v).zip (limitItems v).tail,
      (extract ab.2 ["unit", "asset"]).le (extract ab.1 ["unit", "asset"]) = false

/-- `length(lo)>length(hi) OR (length(lo)=length(hi) AND lo>hi)`. -/
def Above (lo hi : Scalar) : Prop :=
  ∃ a ∈ lo.text?, ∃ b ∈ hi.text?, SqlText.length b < SqlText.length a ∨
    (SqlText.length a = SqlText.length b ∧ b < a)

/-- `manual_risk_policy_hierarchy` lets the row pass. -/
def Hierarchy (v : Value) : Prop :=
  ¬ Above (extract v ["max_native_gas_per_operation"]) (extract v ["max_native_wallet_outlay"]) ∧
    ¬ Above (extract v ["max_native_wallet_outlay"]) (extract v ["max_native_global_outlay"]) ∧
    ∀ l ∈ limitItems v,
      ¬ Above (extract l ["max_operation"]) (extract l ["max_wallet_active"]) ∧
        ¬ Above (extract l ["max_wallet_active"]) (extract l ["max_global_active"])

/-! ## The insert -/

/-- The columns and triggers accept the row and the audit trigger finds its ids free. -/
def RiskPolicyRow.Accepted (db : RiskDb) (r : RiskPolicyRow) : Prop :=
  ∃ v ∈ parse r.policyJson,
    Source db r v ∧ NativeCaps v ∧ InputUnits v ∧ Structure v ∧ Hierarchy v ∧
      (∀ o ∈ db.manualRiskPolicies, o.id ≠ r.id) ∧ r.Columns v ∧
      "manual-risk-policy:" ++ r.id ∉ db.audits ∧
      "manual-risk-policy-alert:" ++ r.id ∉ db.alerts

/-- SHA-256 in hexadecimal. -/
structure HashHost where
  sha256 : String → String
  hex : ∀ text, LowerHex64 (sha256 text)

/-- The row that stands for a policy. -/
def Policy.row (host : HashHost) (p : Policy) (createdAt : String) : RiskPolicyRow where
  id := p.id
  sourcePolicyVersion := p.sourcePolicyVersion.toNat
  sourcePolicyHash := p.sourcePolicyHash
  policyJson := p.marshal
  policyHash := host.sha256 p.marshal
  createdAt := createdAt

/-! ## `ParsePolicy` -/

/-- `Canonical`: the text and its hash. -/
def Policy.canonical (host : HashHost) (p : Policy) : Option (String × String) :=
  if p.validate then some (p.marshal, host.sha256 p.marshal) else none

def unitNames : List String := ["chain_id", "asset", "decimals", "kind"]

def decodeUnit (v : Value) : Option RiskUnit := do
  let members ← members? v
  guard (noUnknown unitNames members)
  let values := fieldValues unitNames members
  some {
    chainId := .ofNat (← fill (readNat (2 ^ 64)) 0 (values "chain_id"))
    asset := ← fill readText "" (values "asset")
    decimals := .ofNat (← fill (readNat (2 ^ 8)) 0 (values "decimals"))
    kind := ← fill readText "" (values "kind") }

def limitNames : List String := ["unit", "max_operation", "max_wallet_active", "max_global_active"]

def decodeLimit (v : Value) : Option InputLimit := do
  let members ← members? v
  guard (noUnknown limitNames members)
  let values := fieldValues limitNames members
  some {
    unit := ← fill decodeUnit ⟨0, "", 0, ""⟩ (values "unit")
    maxOperation := ← fill readText "" (values "max_operation")
    maxWalletActive := ← fill readText "" (values "max_wallet_active")
    maxGlobalActive := ← fill readText "" (values "max_global_active") }

/-- `Decode` into a policy with unknown fields disallowed. A member that occurs twice is read over
the first one in Go, here from the start; its text is canonical in neither case. -/
def decodePolicy (v : Value) : Option Policy := do
  let members ← members? v
  guard (noUnknown policyKeys members)
  let text := fun name => fill readText "" (fieldValues policyKeys members name)
  let number := fun name => fill (readNat (2 ^ 64)) 0 (fieldValues policyKeys members name)
  some {
    id := ← text "id"
    sourcePolicyVersion := .ofNat (← number "source_policy_version")
    sourcePolicyHash := ← text "source_policy_hash"
    chainId := .ofNat (← number "chain_id")
    protocol := ← text "protocol"
    inputLimits := ← fillSlice decodeLimit ⟨⟨0, "", 0, ""⟩, "", "", ""⟩
      (fieldValues policyKeys members "input_limits")
    maxNativeGasPerOperation := ← text "max_native_gas_per_operation"
    maxNativeWalletOutlay := ← text "max_native_wallet_outlay"
    maxNativeGlobalOutlay := ← text "max_native_global_outlay"
    minNativeBalance := ← text "min_native_balance"
    maxSellBps := .ofNat (← number "max_sell_bps")
    maxWalletOperationsWindow := .ofNat (← number "max_wallet_operations_window")
    maxGlobalOperationsWindow := .ofNat (← number "max_global_operations_window")
    windowSeconds := .ofNat (← number "window_seconds") }

/-- `ParsePolicy`. -/
def parsePolicy (host : HashHost) (raw hash : String) (sourceVersion : UInt64)
    (sourceHash : String) :
    Option Policy :=
  if 65536 < raw.utf8ByteSize then none
  else
    match (firstValue? raw).bind decodePolicy with
    | none => none
    | some p =>
        match p.canonical host with
        | none => none
        | some (canonical, got) =>
            if canonical ≠ raw ∨ got ≠ hash ∨ p.sourcePolicyVersion ≠ sourceVersion ∨
                p.sourcePolicyHash ≠ sourceHash then none
            else some p

end RbhTrade.Risk
