import RbhTrade.Api.Decimals
import RbhTrade.Lib.Bytes
import RbhTrade.Lib.JsonMembers

/-!
# Request bodies

How the body of a request is read: `strictObject` goes through its members and takes only known
keys, each once, with values of their kind; then the same bytes are decoded into a `Request`. What
is accepted is one object that says every field of the request, and the stored text of a normal form
is read back as it is.
-/

namespace RbhTrade.Api

open Json

/-! ## Reading a body -/

def feeNames : List String := ["max_gwei", "tip_gwei", "max_total_native"]

def requestNames : List String :=
  ["chain", "wallet_id", "token", "side", "amount", "sell_percent", "slippage_percent", "fee",
    "ttl_seconds", "min_receive"]

/-- The value of a key that is not `fee`: a positive number of seconds, or a text that is not
empty. -/
def scalar (key : String) : Token → Bool
  | .number l => key = "ttl_seconds" && (readNat (2 ^ 64) (.num l)).any (· ≠ 0)
  | .text s => key ≠ "ttl_seconds" && s ≠ ""
  | _ => false

/-- A member of `strictObject(d, true)`. -/
def feeMember (seen : List String) (key : String) (v : Value) : Option (List String) :=
  if key ∈ seen then none
  else if key ∉ feeNames then none
  else if scalar key (Token.ofValue v) then some (key :: seen) else none

/-- A member of `strictObject(d, false)`. -/
def requestMember (seen : List String) (key : String) (v : Value) : Option (List String) :=
  if key ∈ seen then none
  else if key = "fee" then
    match v with
    | .obj ms => (acceptAll feeMember [] ms).map fun _ => key :: seen
    | _ => none
  else if key ∉ requestNames then none
  else if scalar key (Token.ofValue v) then some (key :: seen) else none

def Fee.fill (f : Fee) (v : Value) : Option Fee := do
  let members ← members? v
  guard (noUnknown feeNames members = true)
  let values := fieldValues feeNames members
  let maxGwei ← Json.fill readText f.maxGwei (values "max_gwei")
  let tipGwei ← Json.fill readText f.tipGwei (values "tip_gwei")
  let maxTotalNative ← Json.fill readText f.maxTotalNative (values "max_total_native")
  some ⟨maxGwei, tipGwei, maxTotalNative⟩

def fillSeconds (_ : UInt64) (v : Value) : Option UInt64 := (readNat (2 ^ 64) v).map UInt64.ofNat

/-- `Decode` into an empty request, without unknown fields. -/
def Request.ofJson (v : Value) : Option Request := do
  let members ← members? v
  guard (noUnknown requestNames members = true)
  let values := fieldValues requestNames members
  let chain ← fill readText "" (values "chain")
  let walletId ← fill readText "" (values "wallet_id")
  let token ← fill readText "" (values "token")
  let side ← fill readText "" (values "side")
  let amount ← fill readText "" (values "amount")
  let sellPercent ← fill readText "" (values "sell_percent")
  let slippagePercent ← fill readText "" (values "slippage_percent")
  let fee ← fillPointer Fee.fill {} (values "fee")
  let ttlSeconds ← fillPointer fillSeconds 0 (values "ttl_seconds")
  let minReceive ← fill readText "" (values "min_receive")
  some ⟨chain, walletId, token, side, amount, sellPercent, slippagePercent, fee, ttlSeconds,
    minReceive⟩

/-- `decodeRequest`, for a request that is still empty: `strictObject(d, false)` and nothing after
it, then the same bytes again. -/
def decodeRequest (body : List UInt8) : Option Request :=
  let text := Bytes.toText body
  (readWhole requestMember [] text).bind fun _ => (firstValue? text).bind Request.ofJson

/-! ## Writing a request -/

/-- A field with `omitempty`. -/
def omitEmpty (name value : String) : List (String × Value) :=
  if value = "" then [] else [(name, .text value)]

def Fee.fields (f : Fee) : List (String × Value) :=
  omitEmpty "max_gwei" f.maxGwei ++ omitEmpty "tip_gwei" f.tipGwei ++
    omitEmpty "max_total_native" f.maxTotalNative

def Request.fields (r : Request) : List (String × Value) :=
  [("chain", .text r.chain), ("wallet_id", .text r.walletId), ("token", .text r.token),
      ("side", .text r.side)] ++
    omitEmpty "amount" r.amount ++ omitEmpty "sell_percent" r.sellPercent ++
    [("slippage_percent", .text r.slippagePercent)] ++
    (r.fee.map fun f => ("fee", Value.struct f.fields)).toList ++
    (r.ttlSeconds.map fun n => ("ttl_seconds", Value.nat n.toNat)).toList ++
    omitEmpty "min_receive" r.minReceive

/-- `encode` of a request. -/
def Request.encode (r : Request) : String := (Value.struct r.fields).render

/-! ## What is accepted -/

def feeOk (key : String) (v : Value) : Bool := feeNames.contains key && scalar key (Token.ofValue v)

def requestOk (key : String) (v : Value) : Bool :=
  if key = "fee" then
    match v with
    | .obj ms => (acceptAll (once feeOk) [] ms).isSome
    | _ => false
  else requestNames.contains key && scalar key (Token.ofValue v)

theorem feeMember_eq : feeMember = once feeOk := by
  funext seen key v
  by_cases hkey : key ∈ feeNames <;> simp [feeMember, once, feeOk, hkey]

theorem requestMember_eq : requestMember = once requestOk := by
  funext seen key v
  by_cases hfee : key = "fee"
  · subst hfee
    simp only [requestMember, once, requestOk, if_true, feeMember_eq]
    cases v with
    | obj ms => cases h : acceptAll (once feeOk) [] ms <;> simp [h]
    | _ => rfl
  · by_cases hkey : key ∈ requestNames <;> simp [requestMember, once, requestOk, hfee, hkey]

variable {r : Request} {ms : List (List Char × Value)} {members : List (String × Value)}
  {names : List String} {name : String}

/-- A body is accepted if it is one object with members that are taken, and says the request. -/
theorem decodeRequest_eq_some {body : List UInt8} : decodeRequest body = some r ↔
    ∃ ms, parse (Bytes.toText body) = some (.obj ms) ∧
      (acceptAll (once requestOk) [] ms).isSome = true ∧ Request.ofJson (.obj ms) = some r := by
  rw [decodeRequest, requestMember_eq, readWhole]
  cases hparse : parse (Bytes.toText body) with
  | none => simp
  | some v =>
      cases v with
      | obj ms =>
          simp only [firstValue?_of_parse hparse, Option.bind_some]
          cases haccept : acceptAll (once requestOk) [] ms <;> simp [haccept]
      | _ => simp

/-- Distinct keys that are known exactly, and no nulls. -/
def Exact (names : List String) (members : List (String × Value)) : Prop :=
  (members.map Prod.fst).Nodup ∧ ∀ m ∈ members, m.1 ∈ names ∧ m.2 ≠ .null

/-- The text of a field: that of its key, or none. -/
def SaysText (members : List (String × Value)) (name value : String) : Prop :=
  (∃ l, (name, .str l) ∈ members ∧ value = unescape l) ∨
    (name ∉ members.map Prod.fst ∧ value = "")

/-- The fee is the object of its key, or there is none. -/
def SaysFee (members : List (String × Value)) (fee : Option Fee) : Prop :=
  (∃ ms f, ("fee", .obj ms) ∈ members ∧ fee = some f ∧ Exact feeNames (named ms) ∧
    SaysText (named ms) "max_gwei" f.maxGwei ∧ SaysText (named ms) "tip_gwei" f.tipGwei ∧
    SaysText (named ms) "max_total_native" f.maxTotalNative) ∨
  ("fee" ∉ members.map Prod.fst ∧ fee = none)

/-- The seconds are the number of their key, or there are none. -/
def SaysSeconds (members : List (String × Value)) (seconds : Option UInt64) : Prop :=
  (∃ l n, ("ttl_seconds", .num l) ∈ members ∧ Decimal.digitsFrom 0 l = some n ∧ n < 2 ^ 64 ∧
    seconds = some (UInt64.ofNat n)) ∨
  ("ttl_seconds" ∉ members.map Prod.fst ∧ seconds = none)

/-- Each field of the request is the value of its key. -/
structure Says (members : List (String × Value)) (r : Request) : Prop where
  chain : SaysText members "chain" r.chain
  walletId : SaysText members "wallet_id" r.walletId
  token : SaysText members "token" r.token
  side : SaysText members "side" r.side
  amount : SaysText members "amount" r.amount
  sellPercent : SaysText members "sell_percent" r.sellPercent
  slippagePercent : SaysText members "slippage_percent" r.slippagePercent
  fee : SaysFee members r.fee
  ttlSeconds : SaysSeconds members r.ttlSeconds
  minReceive : SaysText members "min_receive" r.minReceive

theorem scalar_ne_null {key : String} {v : Value} (h : scalar key (Token.ofValue v) = true) :
    v ≠ .null := by
  rintro rfl
  cases h

theorem exact_fee (h : (acceptAll (once feeOk) [] ms).isSome = true) :
    Exact feeNames (named ms) := by
  obtain ⟨hnodup, -, hall⟩ := acceptAll_once.mp h
  refine ⟨hnodup, fun m hm => ?_⟩
  have := hall m hm
  rw [feeOk, Bool.and_eq_true, List.contains_iff_mem] at this
  exact ⟨this.1, scalar_ne_null this.2⟩

theorem exact_request (h : (acceptAll (once requestOk) [] ms).isSome = true) :
    Exact requestNames (named ms) := by
  obtain ⟨hnodup, -, hall⟩ := acceptAll_once.mp h
  refine ⟨hnodup, fun m hm => ?_⟩
  have hm := hall m hm
  unfold requestOk at hm
  split at hm
  · rename_i hfee
    refine ⟨hfee ▸ by decide, ?_⟩
    intro hnull
    rw [hnull] at hm
    cases hm
  · rw [Bool.and_eq_true, List.contains_iff_mem] at hm
    exact ⟨hm.1, scalar_ne_null hm.2⟩

theorem fee_accepted (h : (acceptAll (once requestOk) [] ms).isSome = true) (fee : Value)
    (hfee : ("fee", fee) ∈ named ms) :
    ∃ fs, fee = .obj fs ∧ (acceptAll (once feeOk) [] fs).isSome = true := by
  have hok := (acceptAll_once.mp h).2.2 _ hfee
  unfold requestOk at hok
  rw [if_pos rfl] at hok
  cases fee with
  | obj fs => exact ⟨fs, rfl, hok⟩
  | _ => cases hok

/-- A field has the one value of its key, which is no null, or none. -/
theorem Exact.values (h : Exact names members) (name : String) :
    (∃ v, (name, v) ∈ members ∧ v ≠ .null ∧ fieldValues names members name = [v]) ∨
      (name ∉ members.map Prod.fst ∧ fieldValues names members name = []) := by
  have hsub : ∀ m ∈ members, m.1 ∈ names := fun m hm => (h.2 m hm).1
  by_cases hname : name ∈ members.map Prod.fst
  · obtain ⟨m, hm, rfl⟩ := List.mem_map.mp hname
    exact .inl ⟨m.2, hm, (h.2 m hm).2, fieldValues_mem hsub h.1 m hm⟩
  · exact .inr ⟨hname, fieldValues_absent hsub hname⟩

theorem Exact.field (h : Exact names members) {value : String}
    (hfill : fill readText "" (fieldValues names members name) = some value) :
    SaysText members name value := by
  obtain ⟨v, hmem, hnull, hvalues⟩ | ⟨hname, hvalues⟩ := h.values name
  · rw [hvalues] at hfill
    cases v with
    | str l =>
        refine .inl ⟨l, hmem, ?_⟩
        simpa [fill, readText, eq_comm] using hfill
    | null => exact absurd rfl hnull
    | _ => cases hfill
  · rw [hvalues] at hfill
    exact .inr ⟨hname, (Option.some.inj hfill).symm⟩

theorem Exact.fieldSeconds (h : Exact names members) {seconds : Option UInt64}
    (hfill : fillPointer fillSeconds 0 (fieldValues names members "ttl_seconds") = some seconds) :
    SaysSeconds members seconds := by
  obtain ⟨v, hmem, hnull, hvalues⟩ | ⟨hname, hvalues⟩ := h.values "ttl_seconds"
  · rw [hvalues, fillPointer_one hnull] at hfill
    obtain ⟨x, hx, rfl⟩ := Option.map_eq_some_iff.mp hfill
    obtain ⟨n, hn, rfl⟩ := Option.map_eq_some_iff.mp hx
    obtain ⟨l, rfl, -, hdigits, hlt⟩ := readNat_eq_some.mp hn
    exact .inl ⟨l, n, hmem, hdigits, hlt, rfl⟩
  · rw [hvalues] at hfill
    exact .inr ⟨hname, (Option.some.inj hfill).symm⟩

theorem Exact.fieldFee (h : Exact requestNames members) (hfee : ∀ v, ("fee", v) ∈ members →
      ∃ ms, v = .obj ms ∧ (acceptAll (once feeOk) [] ms).isSome = true) {fee : Option Fee}
    (hfill : fillPointer Fee.fill {} (fieldValues requestNames members "fee") = some fee) :
    SaysFee members fee := by
  obtain ⟨v, hmem, hnull, hvalues⟩ | ⟨hname, hvalues⟩ := h.values "fee"
  · rw [hvalues, fillPointer_one hnull] at hfill
    obtain ⟨f, hf, rfl⟩ := Option.map_eq_some_iff.mp hfill
    obtain ⟨ms, rfl, hms⟩ := hfee v hmem
    have hexact := exact_fee hms
    simp only [Fee.fill, Option.bind_eq_bind, Option.bind_eq_some_iff] at hf
    obtain ⟨members', hmembers, -, -, a, ha, b, hb, c, hc, hf⟩ := hf
    obtain rfl := Option.some.inj hmembers
    obtain rfl := Option.some.inj hf
    exact .inl ⟨ms, _, hmem, rfl, hexact, hexact.field ha, hexact.field hb, hexact.field hc⟩
  · rw [hvalues] at hfill
    exact .inr ⟨hname, (Option.some.inj hfill).symm⟩

/-- What is decoded from an accepted object. -/
theorem says_ofJson (haccept : (acceptAll (once requestOk) [] ms).isSome = true)
    (h : Request.ofJson (.obj ms) = some r) : Says (named ms) r := by
  have hexact := exact_request haccept
  simp only [Request.ofJson, Option.bind_eq_bind, Option.bind_eq_some_iff] at h
  obtain ⟨members, hmembers, -, -, chain, hchain, wallet, hwallet, token, htoken, side, hside,
    amount, hamount, sell, hsell, slip, hslip, fee, hfill, ttl, httl, min, hmin, h⟩ := h
  obtain rfl := Option.some.inj hmembers
  obtain rfl := Option.some.inj h
  exact ⟨hexact.field hchain, hexact.field hwallet, hexact.field htoken, hexact.field hside,
    hexact.field hamount, hexact.field hsell, hexact.field hslip,
    hexact.fieldFee (fee_accepted haccept) hfill, hexact.fieldSeconds httl, hexact.field hmin⟩

/-! ## What is written -/

theorem omitEmpty_sublist (name value : String) :
    ((omitEmpty name value).map Prod.fst).Sublist [name] := by
  unfold omitEmpty
  split
  · exact List.nil_sublist _
  · exact List.Sublist.refl _

theorem mem_omitEmpty {value : String} {m : String × Value} :
    m ∈ omitEmpty name value ↔ value ≠ "" ∧ m = (name, .text value) := by
  unfold omitEmpty
  split <;> simp_all

theorem Fee.names_sublist (f : Fee) : (f.fields.map Prod.fst).Sublist feeNames := by
  simp only [Fee.fields, List.map_append]
  exact ((omitEmpty_sublist _ _).append (omitEmpty_sublist _ _)).append (omitEmpty_sublist _ _)

theorem toList_sublist {α : Type} (o : Option α) (name : String) (value : α → Value) :
    (((o.map fun x => (name, value x)).toList).map Prod.fst).Sublist [name] := by
  cases o with
  | none => exact List.nil_sublist _
  | some x => exact List.Sublist.refl _

theorem Request.names_sublist (r : Request) : (r.fields.map Prod.fst).Sublist requestNames := by
  simp only [Request.fields, List.map_append]
  exact (((((List.Sublist.refl _).append (omitEmpty_sublist _ _)).append
    (omitEmpty_sublist _ _)).append
    (List.Sublist.refl _)).append (toList_sublist _ _ _)).append (toList_sublist _ _ _) |>.append
    (omitEmpty_sublist _ _)

theorem named_struct (fields : List (String × Value)) :
    named (fields.map fun f => (escape f.1, f.2)) = fields := by
  simp [named, Function.comp_def]

/-- The text of a field that is written, or left out because it is empty. -/
theorem fill_written {fields : List (String × Value)} {value : String}
    (hsub : (fields.map Prod.fst).Sublist names) (hnodup : names.Nodup)
    (h : (name, .text value) ∈ fields ∨ (name ∉ fields.map Prod.fst ∧ value = "")) :
    fill readText "" (fieldValues names fields name) = some value := by
  have hmem : ∀ m ∈ fields, m.1 ∈ names := fun m hm => hsub.subset (List.mem_map_of_mem hm)
  obtain hname | ⟨hname, rfl⟩ := h
  · rw [fieldValues_mem hmem (hnodup.sublist hsub) _ hname, fill_text]
  · rw [fieldValues_absent hmem hname]
    rfl

theorem Fee.mem_fields {f : Fee} {m : String × Value} : m ∈ f.fields ↔
    (f.maxGwei ≠ "" ∧ m = ("max_gwei", .text f.maxGwei)) ∨
    (f.tipGwei ≠ "" ∧ m = ("tip_gwei", .text f.tipGwei)) ∨
    (f.maxTotalNative ≠ "" ∧ m = ("max_total_native", .text f.maxTotalNative)) := by
  simp only [Fee.fields, List.mem_append, mem_omitEmpty, or_assoc]

theorem Fee.mem_names {f : Fee} : name ∈ f.fields.map Prod.fst ↔
    (name = "max_gwei" ∧ f.maxGwei ≠ "") ∨ (name = "tip_gwei" ∧ f.tipGwei ≠ "") ∨
    (name = "max_total_native" ∧ f.maxTotalNative ≠ "") := by
  simp only [List.mem_map, Fee.mem_fields]
  constructor
  · rintro ⟨m, ⟨h, rfl⟩ | ⟨h, rfl⟩ | ⟨h, rfl⟩, rfl⟩
    · exact .inl ⟨rfl, h⟩
    · exact .inr (.inl ⟨rfl, h⟩)
    · exact .inr (.inr ⟨rfl, h⟩)
  · rintro (⟨rfl, h⟩ | ⟨rfl, h⟩ | ⟨rfl, h⟩)
    · exact ⟨_, .inl ⟨h, rfl⟩, rfl⟩
    · exact ⟨_, .inr (.inl ⟨h, rfl⟩), rfl⟩
    · exact ⟨_, .inr (.inr ⟨h, rfl⟩), rfl⟩

theorem Fee.fill_struct (f : Fee) : Fee.fill {} (.struct f.fields) = some f := by
  have hmem : ∀ m ∈ f.fields, m.1 ∈ feeNames :=
    fun m hm => f.names_sublist.subset (List.mem_map_of_mem hm)
  have hwritten : ∀ name value, ((name, .text value) ∈ f.fields ∨
      (name ∉ f.fields.map Prod.fst ∧ value = "")) →
      Json.fill readText "" (fieldValues feeNames f.fields name) = some value :=
    fun name value h => fill_written f.names_sublist (by decide) h
  have hmax := hwritten "max_gwei" f.maxGwei (by
    simp only [Fee.mem_fields, Fee.mem_names]
    by_cases h : f.maxGwei = "" <;> simp [h])
  have htip := hwritten "tip_gwei" f.tipGwei (by
    simp only [Fee.mem_fields, Fee.mem_names]
    by_cases h : f.tipGwei = "" <;> simp [h])
  have htotal := hwritten "max_total_native" f.maxTotalNative (by
    simp only [Fee.mem_fields, Fee.mem_names]
    by_cases h : f.maxTotalNative = "" <;> simp [h])
  simp [Fee.fill, noUnknown_of_mem hmem, hmax, htip, htotal]

theorem Request.mem_fields {m : String × Value} : m ∈ r.fields ↔
    m = ("chain", .text r.chain) ∨ m = ("wallet_id", .text r.walletId) ∨
    m = ("token", .text r.token) ∨
    m = ("side", .text r.side) ∨ (r.amount ≠ "" ∧ m = ("amount", .text r.amount)) ∨
    (r.sellPercent ≠ "" ∧ m = ("sell_percent", .text r.sellPercent)) ∨
    m = ("slippage_percent", .text r.slippagePercent) ∨
    (∃ f, r.fee = some f ∧ m = ("fee", .struct f.fields)) ∨
    (∃ n, r.ttlSeconds = some n ∧ m = ("ttl_seconds", .nat n.toNat)) ∨
    (r.minReceive ≠ "" ∧ m = ("min_receive", .text r.minReceive)) := by
  simp only [Request.fields, List.mem_append, mem_omitEmpty, List.mem_cons, List.not_mem_nil,
    or_false, Option.mem_toList, Option.map_eq_some_iff, or_assoc]
  simp only [eq_comm (b := m)]

/-- The names of optional fields stand for values that are there. -/
theorem Request.mem_names (hname : name ∈ r.fields.map Prod.fst) :
    (name = "amount" → r.amount ≠ "") ∧ (name = "sell_percent" → r.sellPercent ≠ "") ∧
    (name = "fee" → r.fee ≠ none) ∧ (name = "ttl_seconds" → r.ttlSeconds ≠ none) ∧
    (name = "min_receive" → r.minReceive ≠ "") := by
  obtain ⟨m, hm, rfl⟩ := List.mem_map.mp hname
  rcases Request.mem_fields.mp hm with rfl | rfl | rfl | rfl | ⟨h, rfl⟩ | ⟨h, rfl⟩ | rfl |
    ⟨f, h, rfl⟩ | ⟨n, h, rfl⟩ | ⟨h, rfl⟩
  all_goals simp_all

theorem Request.ofJson_struct (r : Request) : Request.ofJson (.struct r.fields) = some r := by
  have hmem : ∀ m ∈ r.fields, m.1 ∈ requestNames :=
    fun m hm => r.names_sublist.subset (List.mem_map_of_mem hm)
  have hnodup : requestNames.Nodup := by decide
  have hwritten : ∀ name value, (name, .text value) ∈ r.fields →
      fill readText "" (fieldValues requestNames r.fields name) = some value :=
    fun name value h => fill_written r.names_sublist hnodup (.inl h)
  have homitted : ∀ name value, (value ≠ "" → (name, .text value) ∈ r.fields) →
      (name ∈ r.fields.map Prod.fst → value ≠ "") →
      fill readText "" (fieldValues requestNames r.fields name) = some value := by
    intro name value hin hout
    refine fill_written r.names_sublist hnodup ?_
    by_cases h : value = ""
    · exact .inr ⟨fun hn => hout hn h, h⟩
    · exact .inl (hin h)
  have hchain := hwritten "chain" r.chain (by simp [Request.mem_fields])
  have hwallet := hwritten "wallet_id" r.walletId (by simp [Request.mem_fields])
  have htoken := hwritten "token" r.token (by simp [Request.mem_fields])
  have hside := hwritten "side" r.side (by simp [Request.mem_fields])
  have hslip := hwritten "slippage_percent" r.slippagePercent (by simp [Request.mem_fields])
  have hamount := homitted "amount" r.amount (fun h => by simp [Request.mem_fields, h])
    fun h => (Request.mem_names h).1 rfl
  have hsell := homitted "sell_percent" r.sellPercent (fun h => by simp [Request.mem_fields, h])
    fun h => (Request.mem_names h).2.1 rfl
  have hmin := homitted "min_receive" r.minReceive (fun h => by simp [Request.mem_fields, h])
    fun h => (Request.mem_names h).2.2.2.2 rfl
  have hfee : fillPointer Fee.fill {} (fieldValues requestNames r.fields "fee") = some r.fee := by
    cases hf : r.fee with
    | none =>
        rw [fieldValues_absent hmem fun h => (Request.mem_names h).2.2.1 rfl hf]
        rfl
    | some f =>
        rw [fieldValues_mem hmem (hnodup.sublist r.names_sublist) ("fee", .struct f.fields)
          (by simp [Request.mem_fields, hf]), fillPointer_one (by simp [Value.struct]),
          Fee.fill_struct]
        rfl
  have httl : fillPointer fillSeconds 0 (fieldValues requestNames r.fields "ttl_seconds") =
      some r.ttlSeconds := by
    cases ht : r.ttlSeconds with
    | none =>
        rw [fieldValues_absent hmem fun h => (Request.mem_names h).2.2.2.1 rfl ht]
        rfl
    | some n =>
        rw [fieldValues_mem hmem (hnodup.sublist r.names_sublist) ("ttl_seconds", .nat n.toNat)
          (by simp [Request.mem_fields, ht]), fillPointer_one (by simp [Value.nat]), fillSeconds,
          readNat_nat n.toNat_lt]
        simp
  simp [Request.ofJson, noUnknown_of_mem hmem, hchain, hwallet, htoken, hside, hslip, hamount,
    hsell, hmin, hfee, httl]

/-! ## Reading back what is stored -/

/-- What is written for a request is taken, when its required texts are there. -/
theorem Request.accepted (hchain : r.chain ≠ "") (hwallet : r.walletId ≠ "") (htoken : r.token ≠ "")
    (hside : r.side ≠ "") (hslip : r.slippagePercent ≠ "") (httl : ∀ n ∈ r.ttlSeconds, n ≠ 0) :
    (acceptAll (once requestOk) [] (r.fields.map fun f => (escape f.1, f.2))).isSome = true := by
  have htext : ∀ {key value : String}, key ≠ "ttl_seconds" → value ≠ "" →
      scalar key (Token.ofValue (.text value)) = true := by
    intro key value hkey hvalue
    simp [Value.text, Token.ofValue, scalar, hkey, hvalue]
  rw [acceptAll_once, named_struct]
  refine ⟨r.names_sublist.nodup (by decide), by simp, fun m hm => ?_⟩
  have hknown : m.1 ∈ requestNames := r.names_sublist.subset (List.mem_map_of_mem hm)
  have hok : ∀ {key value : String}, m = (key, .text value) → key ≠ "fee" → key ≠ "ttl_seconds" →
      value ≠ "" → requestOk m.1 m.2 = true := by
    rintro key value rfl hfee hkey hvalue
    simp only [requestOk, hfee, if_false, Bool.and_eq_true, List.contains_iff_mem]
    exact ⟨hknown, htext hkey hvalue⟩
  rcases Request.mem_fields.mp hm with h | h | h | h | ⟨hne, h⟩ | ⟨hne, h⟩ | h | ⟨f, hf, h⟩ |
    ⟨n, hn, h⟩ | ⟨hne, h⟩
  · exact hok h (by decide) (by decide) hchain
  · exact hok h (by decide) (by decide) hwallet
  · exact hok h (by decide) (by decide) htoken
  · exact hok h (by decide) (by decide) hside
  · exact hok h (by decide) (by decide) hne
  · exact hok h (by decide) (by decide) hne
  · exact hok h (by decide) (by decide) hslip
  · subst h
    simp only [requestOk, if_true, Value.struct]
    rw [acceptAll_once, named_struct]
    refine ⟨f.names_sublist.nodup (by decide), by simp, fun m hm => ?_⟩
    rw [feeOk, Bool.and_eq_true, List.contains_iff_mem]
    refine ⟨f.names_sublist.subset (List.mem_map_of_mem hm), ?_⟩
    rcases Fee.mem_fields.mp hm with ⟨hne, rfl⟩ | ⟨hne, rfl⟩ | ⟨hne, rfl⟩
    all_goals exact htext (by simp) hne
  · subst h
    have hpos : n.toNat ≠ 0 := fun h => httl n hn (UInt64.toNat_inj.mp h)
    have hread : readNat (2 ^ 64) (.num (Nat.toDigits 10 n.toNat)) = some n.toNat :=
      readNat_nat n.toNat_lt
    show (requestNames.contains "ttl_seconds" &&
      scalar "ttl_seconds" (.number (Nat.toDigits 10 n.toNat))) = true
    rw [scalar, hread]
    simp [requestNames, hpos]
  · exact hok h (by decide) (by decide) hne

theorem Request.marshaled (r : Request) : (Value.struct r.fields).Marshaled := by
  refine Value.marshaled_struct fun m hm => ?_
  rcases Request.mem_fields.mp hm with rfl | rfl | rfl | rfl | ⟨-, rfl⟩ | ⟨-, rfl⟩ | rfl |
    ⟨f, -, rfl⟩ | ⟨n, -, rfl⟩ | ⟨-, rfl⟩
  case inr.inr.inr.inr.inr.inr.inr.inl =>
    refine Value.marshaled_struct fun m hm => ?_
    rcases Fee.mem_fields.mp hm with ⟨-, rfl⟩ | ⟨-, rfl⟩ | ⟨-, rfl⟩ <;> exact Value.marshaled_text _
  case inr.inr.inr.inr.inr.inr.inr.inr.inl => exact Value.marshaled_nat _
  all_goals exact Value.marshaled_text _

theorem validID_ne_empty {s : String} (h : validID s = true) : s ≠ "" := by
  rintro rfl
  exact absurd h (by decide)

/-- A normal form is read back from its stored text. -/
theorem Normalizes.decode {r' : Request} (h : Normalizes r r') :
    decodeRequest (Bytes.ofText r'.encode) = some r' := by
  obtain ⟨hchain, hwallet, -, -, -, -, hside⟩ := h.shaped
  obtain ⟨slip, hslip, -⟩ := h.slippage
  rw [decodeRequest_eq_some, Bytes.toText_ofText]
  refine ⟨_, parse_render r'.marshaled, Request.accepted ?_ ?_ ?_ ?_ (canonical_ne_empty hslip) ?_,
    r'.ofJson_struct⟩
  all_goals rw [h.kept]
  · exact validID_ne_empty hchain
  · exact validID_ne_empty hwallet
  · simp [lowerAddress]
  · rcases hside with hside | hside <;> simp [hside]
  · exact fun n hn => (h.ttl n hn).1

/-- An accepted body is one object with distinct known keys and no nulls, which says each field of
the request; and the stored text of a normal form is accepted and says that normal form. -/
theorem request_bodies_exact :
    (∀ body r, decodeRequest body = some r →
      ∃ ms, parse (Bytes.toText body) = some (.obj ms) ∧ Exact requestNames (named ms) ∧
        (∀ fee, ("fee", fee) ∈ named ms → ∃ fs, fee = .obj fs ∧ Exact feeNames (named fs)) ∧
        Says (named ms) r) ∧
    ∀ r r', normalize r = some r' →
      decodeRequest (Bytes.ofText r'.encode) = some r' ∧ normalize r' = some r' := by
  refine ⟨fun body r h => ?_, fun r r' h => ?_⟩
  · obtain ⟨ms, hparse, haccept, hjson⟩ := decodeRequest_eq_some.mp h
    refine ⟨ms, hparse, exact_request haccept, fun fee hfee => ?_, says_ofJson haccept hjson⟩
    obtain ⟨fs, rfl, hfs⟩ := fee_accepted haccept fee hfee
    exact ⟨fs, rfl, exact_fee hfs⟩
  · have hnormal := normalize_eq_some.mp h
    exact ⟨hnormal.decode, normalize_eq_some.mpr hnormal.again⟩

end RbhTrade.Api
