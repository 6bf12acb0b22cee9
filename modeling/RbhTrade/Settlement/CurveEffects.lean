import Mathlib.Algebra.Group.Int.Defs
import Mathlib.Data.List.Perm.Basic
import RbhTrade.Lib.Decimal

/-!
# The position effect of a receipt

`PonsCurveEffectResolver.ResolvePositionEffect`. The route of an operation binds a curve, a token
and a direction; a MANUAL operation also binds its input and a minimum for its output. The loop over
the parsed events refuses any event of the curve that is no trade by and for the wallet, skips what
other contracts emit and the trades of the other direction, and counts the rest, which has to be one
trade.
-/

namespace RbhTrade.CurveEffect

abbrev Address := BitVec 160

abbrev Hash := BitVec 256

/-! ## What the resolver reads -/

inductive Protocol where
  | ponsV2
  | other (name : String)
deriving DecidableEq

inductive EventKind where
  | curveBuy
  | curveSell
  | other (name : String)
deriving DecidableEq

/-- `CurveTrade`; an amount is `none` for the nil pointer. -/
structure CurveTrade where
  buyerOrSeller : Address
  recipient : Address
  amountIn : Option Int
  amountOut : Option Int
deriving DecidableEq

/-- A parsed event; `trade` is `none` where the data is of another type. -/
structure Event where
  protocol : Protocol
  kind : EventKind
  address : Address
  trade : Option CurveTrade
deriving DecidableEq

structure Log where
  removed : Bool
  txHash : Hash
  blockHash : Hash
  blockNumber : Nat
  txIndex : Nat
deriving DecidableEq

structure Receipt where
  status : Nat
  txHash : Hash
  blockHash : Hash
  blockNumber : Option Int
  transactionIndex : Nat
  postState : List UInt8
  logs : List (Option Log)
deriving DecidableEq

structure SignedArtifact where
  operation : String
  sender : String
  recipient : String
  txHash : String

/-- The joined row of `manual_recovery_source` and the contract of its command. -/
structure ManualRow where
  curve : String
  token : String
  protocol : String
  side : String
  walletAddress : String
  inputAmount : String
  minimumOutput : String

/-- The columns of the dry-run result and of its route. -/
structure DryRunRoute where
  status : String
  protocol : String
  curve : Address
  token : Address
  quoteToken : Address
  direction : String

/-- The answers of the store for an artifact: whether the operation is MANUAL, the rows of both
paths. -/
structure Lookup where
  manual : Bool
  manualRow : Option ManualRow
  dryRun : Option DryRunRoute

/-- What the loop compares with and the registry is given. -/
structure Route where
  curve : Address
  token : Address
  quote : Address
  direction : String
  /-- The reserved input and the minimum output of a MANUAL operation. -/
  bounds : Option (Int × Int)
deriving DecidableEq

structure Host where
  hexToAddress : String → Address
  isHexAddress : String → Bool
  /-- `receipt.TxHash.Hex()` is the text, whatever its case. -/
  sameHash : Hash → String → Bool
  hexToHash : String → Hash
  hex : Address → String
  /-- `RegisterCurve` and `ParseReceipt`: the events of the receipt. -/
  parseReceipt : Route → Receipt → Option (List Event)

/-- `ErrArtifactIntegrity`, the one that wraps it for a second effect, and an error of the
parser. -/
inductive ResolveErr where
  | integrity
  | multipleEffects
  | parser
deriving DecidableEq

/-- What `errors.Is` finds. -/
def ResolveErr.sentinel : ResolveErr → ResolveErr
  | .multipleEffects => .integrity
  | err => err

structure PositionEffect where
  asset : String
  delta : String
deriving DecidableEq

/-! ## The route of an operation -/

/-- `validateRecoveryReceipt` returns no error. -/
def validateRecoveryReceipt (r : Receipt) (hash : Hash) : Bool :=
  match r.blockNumber with
  | none => false
  | some number =>
      hash ≠ 0 && r.txHash = hash && r.blockHash ≠ 0 && 0 < number && number < 2 ^ 64 &&
        r.status ≤ 1 && r.postState.isEmpty &&
        r.logs.all fun log => match log with
          | none => false
          | some log =>
              !log.removed && log.txHash = hash && log.blockHash = r.blockHash &&
                log.blockNumber = number && log.txIndex = r.transactionIndex

/-- The branch of a MANUAL operation. -/
def manualRoute (host : Host) (a : SignedArtifact) (r : Receipt) (row : ManualRow) : Option Route :=
  if row.protocol ≠ "pons_v2_curve" ∨ validateRecoveryReceipt r (host.hexToHash a.txHash) =
    false then
    none
  else
    match Decimal.bigInt? row.inputAmount, Decimal.bigInt? row.minimumOutput with
    | some input, some minimum =>
        let curve := host.hexToAddress row.curve
        let token := host.hexToAddress row.token
        if input ≤ 0 ∨ minimum ≤ 0 ∨ host.isHexAddress a.sender = false ∨
            host.hexToAddress row.walletAddress ≠ host.hexToAddress a.sender ∨
            curve ≠ host.hexToAddress a.recipient ∨ curve = 0 ∨ token = 0 ∨
            (row.side ≠ "buy" ∧ row.side ≠ "sell") then none
        else some ⟨curve, token, 0, row.side, some (input, minimum)⟩
    | _, _ => none

/-- The branch of a dry-run result. -/
def dryRunRoute (d : DryRunRoute) : Option Route :=
  if d.status ≠ "success" ∨ d.protocol ≠ "pons-v2-curve" ∨ d.curve = 0 ∨ d.token = 0 then none
  else some ⟨d.curve, d.token, d.quoteToken, d.direction, none⟩

/-- Everything before the parser runs. -/
def route (host : Host) (a : SignedArtifact) (r : Receipt) (l : Lookup) : Option Route :=
  if a.operation = "" ∨ r.status ≠ 1 ∨ r.txHash = 0 ∨ host.sameHash r.txHash a.txHash = false then
    none
  else if l.manual ∨ "manual_op_".toList <+: a.operation.toList then
    l.manualRow.bind (manualRoute host a r)
  else l.dryRun.bind dryRunRoute

/-! ## The loop -/

def Event.OfCurve (e : Event) (curve : Address) : Prop := e.protocol = .ponsV2 ∧ e.address = curve
deriving Decidable

/-- The amounts of a trade by and for the wallet, both of them positive. -/
def CurveTrade.amounts (t : CurveTrade) (wallet : Address) : Option (Int × Int) :=
  match t.amountIn, t.amountOut with
  | some input, some output =>
      if input ≤ 0 ∨ output ≤ 0 ∨ t.buyerOrSeller ≠ wallet ∨ t.recipient ≠ wallet then none
      else some (input, output)
  | _, _ => none

/-- The input is the reserved one and the output at least the minimum. -/
def Route.InBounds (b : Route) (input output : Int) : Prop :=
  ∀ bound ∈ b.bounds, input = bound.1 ∧ bound.2 ≤ output
deriving Decidable

/-- The change of the position by a trade of the direction, nothing for another trade. -/
def Route.candidate (b : Route) (kind : EventKind) (input output : Int) : Option Int :=
  if b.direction = "buy" ∧ kind = .curveBuy then some output
  else if b.direction = "sell" ∧ kind = .curveSell then some (-input)
  else none

/-- The loop over the events, with the change found so far. -/
def scan (b : Route) (wallet : Address) : Option Int → List Event → Except ResolveErr (Option Int)
  | delta, [] => .ok delta
  | delta, e :: es =>
      if ¬ e.OfCurve b.curve then scan b wallet delta es
      else
        match e.trade.bind (·.amounts wallet) with
        | none => .error .integrity
        | some (input, output) =>
            if ¬ b.InBounds input output then .error .integrity
            else
              match b.candidate e.kind input output with
              | none => scan b wallet delta es
              | some change =>
                  if delta.isSome then .error .multipleEffects
                  else scan b wallet (some change) es

/-- `ResolvePositionEffect`. -/
def resolvePositionEffect (host : Host) (a : SignedArtifact) (r : Receipt) (l : Lookup) :
    Except ResolveErr PositionEffect :=
  match route host a r l with
  | none => .error .integrity
  | some b =>
      match host.parseReceipt b r with
      | none => .error .parser
      | some events =>
          match scan b (host.hexToAddress a.sender) none events with
          | .error err => .error err
          | .ok none => .error .integrity
          | .ok (some delta) =>
              if delta = 0 then .error .integrity else .ok ⟨host.hex b.token, toString delta⟩

/-! ## What the loop accepts -/

/-- A trade by and for the wallet with positive amounts, within the bounds of a MANUAL operation. -/
def Event.Accepted (e : Event) (b : Route) (wallet : Address) : Prop :=
  ∃ t ∈ e.trade, t.buyerOrSeller = wallet ∧ t.recipient = wallet ∧
    ∃ input ∈ t.amountIn, ∃ output ∈ t.amountOut, 0 < input ∧ 0 < output ∧ b.InBounds input output
deriving Decidable

/-- The event is a trade of the direction. -/
def Event.HasDirection (e : Event) (direction : String) : Prop :=
  (direction = "buy" ∧ e.kind = .curveBuy) ∨ (direction = "sell" ∧ e.kind = .curveSell)
deriving Decidable

/-- The trades of the curve in the direction of the operation. -/
def Route.matching (b : Route) (events : List Event) : List Event :=
  events.filter fun e => e.OfCurve b.curve ∧ e.HasDirection b.direction

/-- The change of the position by an event that counts. -/
def Event.change (e : Event) (direction : String) : Int :=
  match e.trade with
  | some t => if direction = "buy" then t.amountOut.getD 0 else -t.amountIn.getD 0
  | none => 0

variable {wallet : Address} {b : Route}

theorem amounts_eq_some {t : CurveTrade} {input output : Int} :
    t.amounts wallet = some (input, output) ↔
      t.amountIn = some input ∧ t.amountOut = some output ∧ 0 < input ∧ 0 < output ∧
        t.buyerOrSeller = wallet ∧ t.recipient = wallet := by
  obtain ⟨buyer, recipient, amountIn, amountOut⟩ := t
  cases amountIn <;> cases amountOut <;> simp [CurveTrade.amounts]
  grind

/-- The two tests of the loop pass exactly on an accepted event. -/
theorem accepted_iff {e : Event} :
    e.Accepted b wallet ↔ ∃ input output, e.trade.bind (·.amounts wallet) = some (input, output) ∧
      b.InBounds input output := by
  simp only [Event.Accepted, Option.mem_def, Option.bind_eq_some_iff, amounts_eq_some]
  constructor
  · rintro ⟨t, ht, hbuyer, hrecipient, input, hin, output, hout, hin0, hout0, hbounds⟩
    exact ⟨input, output, ⟨t, ht, hin, hout, hin0, hout0, hbuyer, hrecipient⟩, hbounds⟩
  · rintro ⟨input, output, ⟨t, ht, hin, hout, hin0, hout0, hbuyer, hrecipient⟩, hbounds⟩
    exact ⟨t, ht, hbuyer, hrecipient, input, hin, output, hout, hin0, hout0, hbounds⟩

theorem candidate_eq {e : Event} {input output : Int}
    (h : e.trade.bind (·.amounts wallet) = some (input, output)) :
    b.candidate e.kind input output =
      if e.HasDirection b.direction then some (e.change b.direction) else none := by
  obtain ⟨t, ht, hamounts⟩ := Option.bind_eq_some_iff.mp h
  obtain ⟨hin, hout, -⟩ := amounts_eq_some.mp hamounts
  simp only [Route.candidate, Event.HasDirection, Event.change, ht, hin, hout, Option.getD_some]
  grind

/-- The loop ends with the change found before or the one that counts, and meets accepted events
only. -/
theorem scan_eq_ok {delta result : Option Int} {events : List Event} :
    scan b wallet delta events = .ok result ↔
      (∀ e ∈ events, e.OfCurve b.curve → e.Accepted b wallet) ∧
        delta.toList ++ (b.matching events).map (·.change b.direction) = result.toList := by
  induction events generalizing delta with
  | nil =>
      simp only [scan, Except.ok.injEq, List.not_mem_nil, false_imp_iff, implies_true, true_and,
        Route.matching, List.filter_nil, List.map_nil, List.append_nil]
      cases delta <;> cases result <;> simp
  | cons e events ih =>
      rw [scan, List.forall_mem_cons]
      by_cases hcurve : e.OfCurve b.curve
      · rw [if_neg (not_not_intro hcurve), accepted_iff]
        cases hamounts : e.trade.bind (·.amounts wallet) with
        | none => simp [hcurve]
        | some amounts =>
            obtain ⟨input, output⟩ := amounts
            by_cases hbounds : b.InBounds input output
            · simp only [hbounds, not_true_eq_false, if_false, candidate_eq hamounts]
              by_cases hdirection : e.HasDirection b.direction
              · -- a second change cannot stand in a result
                cases delta with
                | none => simp [hdirection, ih, Route.matching, hcurve, hbounds]
                | some d => cases result <;> simp [hdirection, Route.matching, hcurve]
              · simp [hdirection, ih, Route.matching, hcurve, hbounds]
            · simp [hbounds, hcurve]
      · rw [if_pos hcurve, ih]
        simp [Route.matching, hcurve]

/-- Every error of the loop is `ErrArtifactIntegrity`. -/
theorem scan_error {delta : Option Int} {events : List Event} {err : ResolveErr}
    (h : scan b wallet delta events = .error err) : err.sentinel = .integrity := by
  fun_induction scan b wallet delta events with
  | case1 => cases h
  | case2 _ _ _ _ ih => exact ih h
  | case3 =>
      cases h
      rfl
  | case4 =>
      cases h
      rfl
  | case5 _ _ _ _ _ _ _ _ _ ih => exact ih h
  | case6 =>
      cases h
      rfl
  | case7 _ _ _ _ _ _ _ _ _ _ _ ih => exact ih h

theorem Event.Accepted.change_ne_zero {e : Event} (h : e.Accepted b wallet) (direction : String) :
    e.change direction ≠ 0 := by
  obtain ⟨t, ht, -, -, input, hin, output, hout, hin0, hout0, -⟩ := h
  rw [Option.mem_def] at ht hin hout
  simp only [Event.change, ht, hin, hout, Option.getD_some]
  split <;> omega

theorem mem_matching {events : List Event} {e : Event} :
    e ∈ b.matching events ↔ e ∈ events ∧ e.OfCurve b.curve ∧ e.HasDirection b.direction := by
  simp [Route.matching]

/-! ## The resolver -/

section Resolver

variable {host : Host} {a : SignedArtifact} {l : Lookup} {r : Receipt} {b : Route}
  {events : List Event}

/-- After the lookups the resolver succeeds with the one change that counts. -/
theorem resolve_eq_ok (hroute : route host a r l = some b)
    (hevents : host.parseReceipt b r = some events) {effect : PositionEffect} :
    resolvePositionEffect host a r l = .ok effect ↔
      (∀ e ∈ events, e.OfCurve b.curve → e.Accepted b (host.hexToAddress a.sender)) ∧
        ∃ e, b.matching events = [e] ∧
          effect = ⟨host.hex b.token, toString (e.change b.direction)⟩ := by
  unfold resolvePositionEffect
  simp only [hroute, hevents]
  constructor
  · intro h
    split at h
    · cases h
    · cases h
    · rename_i delta hscan
      obtain ⟨haccepted, hmatching⟩ := scan_eq_ok.mp hscan
      split at h
      · cases h
      · obtain ⟨e, hone, rfl⟩ := List.map_eq_singleton_iff.mp hmatching
        exact ⟨haccepted, e, hone, (Except.ok.inj h).symm⟩
  · rintro ⟨haccepted, e, hone, rfl⟩
    have hscan : scan b (host.hexToAddress a.sender) none events =
      .ok (some (e.change b.direction)) :=
      scan_eq_ok.mpr ⟨haccepted, by simp [hone]⟩
    obtain ⟨hmem, hcurve, -⟩ := mem_matching.mp (hone ▸ List.mem_singleton_self e)
    rw [hscan]
    exact if_neg ((haccepted e hmem hcurve).change_ne_zero b.direction)

/-- A failure after the lookups is `ErrArtifactIntegrity`. -/
theorem resolve_error (hroute : route host a r l = some b)
    (hevents : host.parseReceipt b r = some events) {err : ResolveErr}
    (h : resolvePositionEffect host a r l = .error err) : err.sentinel = .integrity := by
  unfold resolvePositionEffect at h
  simp only [hroute, hevents] at h
  split at h
  · rename_i scanErr hscan
    obtain rfl := Except.error.inj h
    exact scan_error hscan
  · obtain rfl := Except.error.inj h
    rfl
  · split at h
    · obtain rfl := Except.error.inj h
      rfl
    · cases h

/-- Only the events of the curve matter, in any order. -/
theorem resolve_perm {r' : Receipt} {events' : List Event} (hroute : route host a r l = some b)
    (hevents : host.parseReceipt b r = some events) (hroute' : route host a r' l = some b)
    (hevents' : host.parseReceipt b r' = some events')
    (hperm : (events'.filter (·.OfCurve b.curve)).Perm (events.filter (·.OfCurve b.curve)))
    {effect : PositionEffect} (h : resolvePositionEffect host a r l = .ok effect) :
    resolvePositionEffect host a r' l = .ok effect := by
  rw [resolve_eq_ok hroute hevents] at h
  obtain ⟨haccepted, e, hone, heffect⟩ := h
  have hmatching : (b.matching events').Perm (b.matching events) := by
    have := hperm.filter (·.HasDirection b.direction)
    simpa [Route.matching, List.filter_filter, Bool.and_comm] using this
  rw [resolve_eq_ok hroute' hevents']
  refine ⟨fun e' hmem hcurve => ?_, e, ?_, heffect⟩
  · have hfiltered := hperm.mem_iff.mp (List.mem_filter.mpr ⟨hmem, decide_eq_true hcurve⟩)
    exact haccepted e' (List.mem_filter.mp hfiltered).1 hcurve
  · rw [hone] at hmatching
    exact List.perm_singleton.mp hmatching

/-- `ResolvePositionEffect` succeeds exactly when every event of the curve is a trade by and for the
wallet with positive amounts, within the bounds of a MANUAL operation, and one of them has the
direction. The change is the output of a buy or the negated input of a sell. The order of the events
and the events of other contracts do not matter. -/
theorem resolvePositionEffect_exact (host : Host) (a : SignedArtifact) (l : Lookup) (r : Receipt)
    (b : Route) (events : List Event) (hroute : route host a r l = some b)
    (hevents : host.parseReceipt b r = some events) :
    ((∃ effect, resolvePositionEffect host a r l = .ok effect) ↔
      (∀ e ∈ events, e.OfCurve b.curve → e.Accepted b (host.hexToAddress a.sender)) ∧
        ∃ e, b.matching events = [e]) ∧
    (∀ effect, resolvePositionEffect host a r l = .ok effect →
      ∃ e ∈ b.matching events, ∃ t ∈ e.trade, ∃ input ∈ t.amountIn, ∃ output ∈ t.amountOut,
        effect.asset = host.hex b.token ∧
          effect.delta = toString (if b.direction = "buy" then output else -input)) ∧
    ∀ (r' : Receipt) (events' : List Event), route host a r' l = some b →
      host.parseReceipt b r' = some events' →
      (events'.filter (·.OfCurve b.curve)).Perm (events.filter (·.OfCurve b.curve)) →
      (resolvePositionEffect host a r' l).mapError ResolveErr.sentinel =
        (resolvePositionEffect host a r l).mapError ResolveErr.sentinel := by
  refine ⟨⟨?_, ?_⟩, fun effect h => ?_, fun r' events' hroute' hevents' hperm => ?_⟩
  · rintro ⟨effect, h⟩
    obtain ⟨haccepted, e, hone, -⟩ := (resolve_eq_ok hroute hevents).mp h
    exact ⟨haccepted, e, hone⟩
  · rintro ⟨haccepted, e, hone⟩
    exact ⟨_, (resolve_eq_ok hroute hevents).mpr ⟨haccepted, e, hone, rfl⟩⟩
  · obtain ⟨haccepted, e, hone, rfl⟩ := (resolve_eq_ok hroute hevents).mp h
    have hmem : e ∈ b.matching events := hone ▸ List.mem_singleton_self e
    obtain ⟨hevent, hcurve, -⟩ := mem_matching.mp hmem
    obtain ⟨t, ht, -, -, input, hin, output, hout, -⟩ := haccepted e hevent hcurve
    refine ⟨e, hmem, t, ht, input, hin, output, hout, rfl, ?_⟩
    rw [Option.mem_def] at ht hin hout
    simp only [Event.change, ht, hin, hout, Option.getD_some]
  · cases h : resolvePositionEffect host a r l with
    | ok effect => rw [resolve_perm hroute hevents hroute' hevents' hperm h]
    | error err =>
        cases h' : resolvePositionEffect host a r' l with
        | ok effect =>
            rw [resolve_perm hroute' hevents' hroute hevents hperm.symm h'] at h
            cases h
        | error err' =>
            simp only [Except.mapError, resolve_error hroute hevents h,
              resolve_error hroute' hevents' h']

end Resolver

/-! ## A MANUAL buy -/

/-- The buy of the operation. -/
def boughtEvent : Event := ⟨.ponsV2, .curveBuy, 2, some ⟨3, 3, some 1000, some 2500⟩⟩

/-- A sale on the same curve. -/
def soldEvent : Event := ⟨.ponsV2, .curveSell, 2, some ⟨3, 3, some 700, some 900⟩⟩

/-- A receipt with the buy beside an event of another contract. -/
def buyEvents : List Event := [⟨.ponsV2, .curveSell, 9, none⟩, boughtEvent]

def buyHost (events : List Event) : Host where
  hexToAddress text := .ofNat 160 text.length
  isHexAddress _ := true
  sameHash _ _ := true
  hexToHash _ := 7
  hex _ := "token"
  parseReceipt _ _ := some events

def buyArtifact : SignedArtifact := ⟨"manual_op_1", "abc", "ab", "0x07"⟩

def buyReceipt : Receipt := ⟨1, 7, 1, some 5, 0, [], []⟩

def buyLookup : Lookup :=
  ⟨true, some ⟨"ab", "a", "pons_v2_curve", "buy", "abc", "1000", "2400"⟩, none⟩

def buyRoute : Route := ⟨2, 1, 0, "buy", some (1000, 2400)⟩

theorem manual_buy_resolves :
    route (buyHost buyEvents) buyArtifact buyReceipt buyLookup = some buyRoute ∧
      ∃ effect, resolvePositionEffect (buyHost buyEvents) buyArtifact buyReceipt buyLookup =
        .ok effect := by
  have hroute : route (buyHost buyEvents) buyArtifact buyReceipt buyLookup = some buyRoute := by
    decide +kernel
  refine ⟨hroute, ((resolvePositionEffect_exact _ _ _ _ _ buyEvents hroute rfl).1).mpr ⟨?_, _, rfl⟩⟩
  decide +kernel

/-- The bounds are asked of the sale as well: the buy is within them and the only trade of the
direction, the sale is by and for the wallet with positive amounts, and the receipt is refused. -/
theorem other_trade_out_of_bounds :
    route (buyHost [boughtEvent, soldEvent]) buyArtifact buyReceipt buyLookup = some buyRoute ∧
    buyRoute.matching [boughtEvent, soldEvent] = [boughtEvent] ∧ boughtEvent.Accepted buyRoute 3 ∧
    soldEvent.Accepted { buyRoute with bounds := none } 3 ∧
    resolvePositionEffect (buyHost [boughtEvent, soldEvent]) buyArtifact buyReceipt buyLookup =
      .error .integrity := by
  refine ⟨?_, ?_, ?_, ?_, ?_⟩ <;> decide +kernel

end RbhTrade.CurveEffect
