import RbhTrade.Lib.FixedPoint
import RbhTrade.Store.ManualOperator

/-!
# Trade requests

The model of the user-facing API: decimal amounts, the request and its normal form. Amounts are read
exactly, without floats, signs or exponents, and the normal form of a request has each amount in its
canonical text.

The package `chainquery` reads amounts with a function of its own, `human`, and writes them with
`Units`.
-/

namespace RbhTrade.Api

open FixedPoint

/-! ## Amounts -/

/-- `strings.Split(value, ".")`. -/
def splitPoint (value : String) : List (List Char) := value.toList.splitOn '.'

/-- `len` of a part. -/
def size (part : List Char) : Nat := (String.ofList part).utf8ByteSize

/-- `decimal`: the canonical text and the units. -/
def decimal (value : String) (precision : Nat) (allowZero : Bool) : Option (String × Nat) := do
  guard (value ≠ "" ∧ value.utf8ByteSize ≤ 256 ∧ precision ≤ 255)
  let parts := splitPoint value
  let whole := parts.headD []
  guard (parts.length ≤ 2 ∧ whole ≠ [] ∧ ¬ (1 < size whole ∧ whole.head? = some '0'))
  let frac := parts.getD 1 []
  guard (parts.length = 2 → frac ≠ [] ∧ size frac ≤ precision)
  guard (parts.all (fun part => part.all Char.isDigit) = true)
  let units ← Decimal.bigInt?
    (String.ofList (whole ++ frac ++ List.replicate (precision - size frac) '0'))
  guard (0 ≤ units ∧ (allowZero = false → units ≠ 0))
  some (String.ofList (write whole (trim frac)), units.toNat)

/-- `HumanUnits`. -/
def humanUnits (value : String) (decimals : UInt8) : Option String := do
  let (_, units) ← decimal value decimals.toNat false
  guard (units < 2 ^ 256)
  some (toString units)

/-! ## Requests -/

structure Fee where
  maxGwei : String := ""
  tipGwei : String := ""
  maxTotalNative : String := ""
deriving DecidableEq

/-- `Request`. The side is any text until it is checked. -/
structure Request where
  chain : String := ""
  walletId : String := ""
  token : String := ""
  side : String := ""
  amount : String := ""
  sellPercent : String := ""
  slippagePercent : String := ""
  fee : Option Fee := none
  ttlSeconds : Option UInt64 := none
  minReceive : String := ""
deriving DecidableEq

/-- `strings.ToLower(common.HexToAddress(token).Hex())`. -/
def lowerAddress (token : String) : String :=
  String.ofList ('0' :: 'x' :: (Operator.addressDigits token).map Char.toLower)

/-- The first check of `normalize`. -/
def Request.Shaped (r : Request) : Prop :=
  validID r.chain = true ∧ validID r.walletId = true ∧ r.token.utf8ByteSize = 42 ∧
    r.token.toList.take 2 = ['0', 'x'] ∧ Operator.isHexAddress r.token = true ∧
    (Operator.addressDigits r.token).all (· = '0') = false ∧ (r.side = "buy" ∨ r.side = "sell")
deriving Decidable

/-- A decimal field that may be left out: its canonical text, and its units if it is there. -/
def optional (value : String) (precision : Nat) (allowZero : Bool) : Option (String × Option Nat) :=
  if value = "" then some ("", none)
  else (decimal value precision allowZero).map fun x => (x.1, some x.2)

/-- The fee of `normalize`. -/
def Fee.normalize (f : Fee) : Option Fee := do
  guard (¬ (f.maxGwei = "" ∧ f.tipGwei = "" ∧ f.maxTotalNative = ""))
  let (maxGwei, max) ← optional f.maxGwei 9 false
  guard (∀ m ∈ max, m < 2 ^ 256)
  let (tipGwei, tip) ← optional f.tipGwei 9 true
  guard (∀ t ∈ tip, ∃ m ∈ max, t ≤ m)
  let (maxTotalNative, total) ← optional f.maxTotalNative 18 false
  guard (total.isSome = true → (humanUnits maxTotalNative 18).isSome = true)
  some ⟨maxGwei, tipGwei, maxTotalNative⟩

def normalizeFee : Option Fee → Option (Option Fee)
  | none => some none
  | some f => f.normalize.map some

/-- `normalize`. -/
def normalize (r : Request) : Option Request := do
  guard r.Shaped
  guard (¬ ((r.amount = "") ↔ (r.sellPercent = "")) ∧ ¬ (r.side = "buy" ∧ r.sellPercent ≠ ""))
  let (amount, units) ← optional r.amount (if r.side = "buy" then 18 else 255) false
  guard (r.side = "buy" → units.isSome = true → (humanUnits amount 18).isSome = true)
  let (sellPercent, bps) ← optional r.sellPercent 2 false
  guard (∀ b ∈ bps, b ≤ 10000)
  let (slippagePercent, slip) ← decimal r.slippagePercent 2 true
  guard (slip < 10000)
  guard ((r.ttlSeconds.all fun ttl => ttl ≠ 0 ∧ ttl ≤ 86400) = true)
  let (minReceive, _) ← optional r.minReceive (if r.side = "sell" then 18 else 255) false
  let fee ← normalizeFee r.fee
  some { r with
    token := lowerAddress r.token
    amount := amount
    sellPercent := sellPercent
    slippagePercent := slippagePercent
    minReceive := minReceive
    fee := fee }

end RbhTrade.Api

namespace RbhTrade.Query

open Api (splitPoint size)

/-! ## Amounts of `chainquery` -/

/-- `human`. -/
def human (s : String) (decimals : UInt8) : Option Nat :=
  if s = "" ∨ 256 < s.utf8ByteSize then none
  else
    match splitPoint s with
    | [whole] =>
        if whole = [] ∨ (1 < size whole ∧ whole.head? = some '0') ∨
            whole.all Char.isDigit = false then none
        else positive (whole ++ List.replicate decimals.toNat '0')
    | [whole, frac] =>
        if whole = [] ∨ (1 < size whole ∧ whole.head? = some '0') ∨ frac = [] ∨
            decimals.toNat < size frac ∨ whole.all Char.isDigit = false ∨
            frac.all Char.isDigit = false then none
        else positive (whole ++ frac ++ List.replicate (decimals.toNat - size frac) '0')
    | _ => none
where
  /-- A positive number of at most 256 bits. -/
  positive (digits : List Char) : Option Nat :=
    match Decimal.bigInt? (String.ofList digits) with
    | some x => if x ≤ 0 ∨ 2 ^ 256 ≤ x then none else some x.toNat
    | none => none

/-- `Units`, for a value that is not negative. -/
def units (value : Nat) (decimals : UInt8) : String :=
  let text := (toString value).toList
  let d := decimals.toNat
  if d = 0 then String.ofList text
  else
    let text := if text.length ≤ d then List.replicate (d - text.length + 1) '0' ++ text else text
    let i := text.length - d
    let fraction := FixedPoint.trim (text.drop i)
    if fraction = [] then String.ofList (text.take i)
    else String.ofList (text.take i ++ '.' :: fraction)

end RbhTrade.Query
