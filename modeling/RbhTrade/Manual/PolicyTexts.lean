import RbhTrade.Manual.Policies

/-!
# The texts of MANUAL policies

`ParsePolicy` decodes a text, marshals the policy again and compares. So an accepted text is
canonical whatever the decoder makes of key order, spacing, escapes and repeated members. The other
direction needs that the decoder reads back what `json.Marshal` writes, and that the text of a valid
policy with 128 limits and amounts of 78 digits stays below the limit of 65536 bytes.
-/

namespace RbhTrade.Risk

open Hex Json

/-! ## Reading a marshaled policy -/

def RiskUnit.fields (u : RiskUnit) : List (String × Value) :=
  [("chain_id", .nat u.chainId.toNat), ("asset", .text u.asset),
    ("decimals", .nat u.decimals.toNat), ("kind", .text u.kind)]

theorem decodeUnit_json (u : RiskUnit) : decodeUnit u.json = some u := by
  have hmembers : members? u.json = some u.fields := members?_struct _
  have hknown : noUnknown unitNames u.fields = true := noUnknown_self rfl
  have hvalues := fieldValues_self unitNames u.fields rfl (by simp [unitNames])
  simp only [RiskUnit.fields, List.forall_mem_cons] at hvalues
  obtain ⟨hchain, hasset, hdecimals, hkind, -⟩ := hvalues
  unfold decodeUnit
  rw [hmembers, Option.bind_eq_bind, Option.bind_some, hknown]
  unfold RiskUnit.fields
  simp only [hchain, hasset, hdecimals, hkind, fill_text, fill_nat u.chainId.toNat_lt,
    fill_nat u.decimals.toNat_lt, guard, Option.bind_eq_bind, Option.bind_some, if_true,
    Option.pure_def, UInt64.ofNat_toNat, UInt8.ofNat_toNat]

def InputLimit.fields (l : InputLimit) : List (String × Value) :=
  [("unit", l.unit.json), ("max_operation", .text l.maxOperation),
    ("max_wallet_active", .text l.maxWalletActive), ("max_global_active", .text l.maxGlobalActive)]

theorem decodeLimit_json (l : InputLimit) : decodeLimit l.json = some l := by
  have hmembers : members? l.json = some l.fields := members?_struct _
  have hknown : noUnknown limitNames l.fields = true := noUnknown_self rfl
  have hvalues := fieldValues_self limitNames l.fields rfl (by simp [limitNames])
  simp only [InputLimit.fields, List.forall_mem_cons] at hvalues
  obtain ⟨hunit, hoperation, hwallet, hglobal, -⟩ := hvalues
  have hdecoded : ∀ zero, fill decodeUnit zero [l.unit.json] = some l.unit := fun zero =>
    fill_struct (decodeUnit_json l.unit)
  unfold decodeLimit
  rw [hmembers, Option.bind_eq_bind, Option.bind_some, hknown]
  unfold InputLimit.fields
  simp only [hunit, hoperation, hwallet, hglobal, fill_text, hdecoded, guard, Option.bind_eq_bind,
    Option.bind_some, if_true, Option.pure_def]

def Policy.fields (p : Policy) : List (String × Value) :=
  [("id", .text p.id), ("source_policy_version", .nat p.sourcePolicyVersion.toNat),
    ("source_policy_hash", .text p.sourcePolicyHash), ("chain_id", .nat p.chainId.toNat),
    ("protocol", .text p.protocol), ("input_limits", limitsJson p.inputLimits),
    ("max_native_gas_per_operation", .text p.maxNativeGasPerOperation),
    ("max_native_wallet_outlay", .text p.maxNativeWalletOutlay),
    ("max_native_global_outlay", .text p.maxNativeGlobalOutlay),
    ("min_native_balance", .text p.minNativeBalance), ("max_sell_bps", .nat p.maxSellBps.toNat),
    ("max_wallet_operations_window", .nat p.maxWalletOperationsWindow.toNat),
    ("max_global_operations_window", .nat p.maxGlobalOperationsWindow.toNat),
    ("window_seconds", .nat p.windowSeconds.toNat)]

theorem fillSlice_limits (ls : Option (List InputLimit)) (zero : InputLimit) :
    fillSlice decodeLimit zero [limitsJson ls] = some ls := by
  cases ls with
  | none => rfl
  | some ls =>
      exact fillSlice_arr (fun l => fill_struct (decodeLimit_json l)) ls

theorem decodePolicy_json (p : Policy) : decodePolicy p.json = some p := by
  have hmembers : members? p.json = some p.fields := members?_struct _
  have hknown : noUnknown policyKeys p.fields = true := noUnknown_self rfl
  have hvalues := fieldValues_self policyKeys p.fields rfl (by simp [policyKeys])
  simp only [Policy.fields, List.forall_mem_cons] at hvalues
  obtain ⟨h₁, h₂, h₃, h₄, h₅, h₆, h₇, h₈, h₉, h₁₀, h₁₁, h₁₂, h₁₃, h₁₄, -⟩ := hvalues
  unfold decodePolicy
  rw [hmembers, Option.bind_eq_bind, Option.bind_some, hknown]
  unfold Policy.fields
  simp only [h₁, h₂, h₃, h₄, h₅, h₆, h₇, h₈, h₉, h₁₀, h₁₁, h₁₂, h₁₃, h₁₄, fill_text,
    fill_nat (UInt64.toNat_lt _), fillSlice_limits, guard, Option.bind_eq_bind, Option.bind_some,
    if_true, Option.pure_def, UInt64.ofNat_toNat]

/-! ## The length of a valid policy -/

theorem fits_cap {s : String} {zero : Bool} (h : (uint256 s zero).isSome = true) :
    (Value.text s).Fits 80 := by
  obtain ⟨n, rfl, hlt, -⟩ := uint256_isSome.mp h
  exact Value.fits_decimal (by decide) (lt_of_lt_of_le hlt (by decide))

theorem fits_caps {low mid high : String} (h : capsOrdered low mid high = true) :
    (Value.text low).Fits 80 ∧ (Value.text mid).Fits 80 ∧ (Value.text high).Fits 80 := by
  unfold capsOrdered at h
  split at h
  · rename_i o w g ho hw hg
    exact ⟨fits_cap (Option.isSome_of_eq_some ho), fits_cap (Option.isSome_of_eq_some hw),
      fits_cap (Option.isSome_of_eq_some hg)⟩
  · cases h

theorem InputLimit.Good.fits_asset {l : InputLimit} (h : l.Good) :
    (Value.text l.unit.asset).Fits 44 := by
  obtain ⟨-, ⟨hnative, -⟩ | ⟨-, ⟨digits, hs, hlen, hall⟩, -⟩⟩ := (validate_unit h.2.1).mp h.1
  · rw [hnative]
    exact (Value.fits_text (n := 6) (by decide) (by decide)).mono (by decide)
  · refine Value.fits_text (n := 42) (fun c hc => ?_) ?_
    · rw [hs] at hc
      rcases List.mem_cons.mp hc with rfl | hc
      · decide
      rcases List.mem_cons.mp hc with rfl | hc
      · decide
      · exact isPlain_of_isHex (isLowerHex_iff.mp (List.all_eq_true.mp hall c hc)).1
    · rw [← String.length_toList, hs]
      simp [hlen]

theorem InputLimit.Good.fits_unit {l : InputLimit} (h : l.Good) : l.unit.json.Fits 127 := by
  have hkind : (Value.text l.unit.kind).Fits 13 := by
    rw [h.2.1]
    exact Value.fits_text (by decide) (by decide)
  have hdecimals : (Value.nat l.unit.decimals.toNat).Fits 3 :=
    Value.fits_nat (by decide) (lt_trans l.unit.decimals.toNat_lt (by decide))
  exact Value.fits_struct unitNames [20, 44, 3, 13] rfl (by decide) (by decide)
    (.cons (Value.fits_uint64 _) (.cons h.fits_asset (.cons hdecimals (.cons hkind .nil))))

theorem InputLimit.Good.fits {l : InputLimit} (h : l.Good) : l.json.Fits 436 := by
  obtain ⟨hoperation, hwallet, hglobal⟩ := fits_caps h.2.2
  exact Value.fits_struct limitNames [127, 80, 80, 80] rfl (by decide) (by decide)
    (.cons h.fits_unit (.cons hoperation (.cons hwallet (.cons hglobal .nil))))

theorem fits_limits {p : Policy} (hgood : ∀ l ∈ p.limits, l.Good)
    (hlength : p.limits.length ≤ 128) :
    (limitsJson p.inputLimits).Fits 55938 := by
  unfold Policy.limits at hgood hlength
  cases hlimits : p.inputLimits with
  | none => exact Value.fits_of_print (by decide) (by decide)
  | some ls =>
      rw [hlimits, Option.getD_some] at hgood hlength
      refine Value.Fits.mono (Value.fits_arr (List.forall_mem_map.mpr fun l hl =>
        (hgood l hl).fits)) ?_
      rw [List.length_map]
      omega

theorem plain_policyId {s : String} (h : validPolicyID s = true) : Plain s ∧ s.length ≤ 128 := by
  obtain ⟨hnul, -, hlength, hall⟩ := validPolicyID_iff.mp h
  rw [SqlText.length_of_noNul hnul] at hlength
  rw [SqlText.allIn_of_noNul hnul, List.all_eq_true] at hall
  refine ⟨fun c hc => ?_, hlength⟩
  have hchar := hall c hc
  simp only [policyIdChar, Bool.or_eq_true, Bool.and_eq_true, decide_eq_true_eq,
    List.contains_iff_mem] at hchar
  obtain ((h | h) | h) | h := hchar
  · exact isPlain_of_range 'a' 'z' h.1 h.2 (by decide) (by decide)
  · exact isPlain_of_range 'A' 'Z' h.1 h.2 (by decide) (by decide)
  · exact isPlain_of_isDigit h
  · have hmarks : "_-.".toList.all isPlain = true := by decide
    exact List.all_eq_true.mp hmarks c h

/-- The text of a valid policy is below the limit of `ParsePolicy`. -/
theorem Policy.fits {p : Policy} (h : p.validate = true) : p.json.Fits 65536 := by
  obtain ⟨-, hnumbers, hid, hdigest, ⟨-, hlength⟩, hlimits, hcaps, hmin⟩ := (validate_iff p).mp h
  obtain ⟨hgas, hwallet, hglobal⟩ := fits_caps hcaps
  obtain ⟨hnul, hsize, hhex⟩ := digest_iff.mp hdigest
  rw [SqlText.length_of_noNul hnul] at hsize
  rw [SqlText.allIn_of_noNul hnul, List.all_eq_true] at hhex
  have hhash : (Value.text p.sourcePolicyHash).Fits 66 :=
    Value.fits_text (fun c hc => isPlain_of_isHex (isLowerHex_iff.mp (hhex c hc)).1)
      (le_of_eq hsize)
  have hprotocol : (Value.text p.protocol).Fits 15 := by
    rw [hnumbers.2.2.1]
    exact Value.fits_text (by decide) (by decide)
  exact Value.fits_struct policyKeys [130, 20, 66, 20, 15, 55938, 80, 80, 80, 80, 20, 20, 20,
    20] rfl
    (by decide) (by decide)
    (.cons (Value.fits_text (plain_policyId hid).1 (plain_policyId hid).2) <|
    .cons (Value.fits_uint64 _) <|
      .cons hhash <| .cons (Value.fits_uint64 _) <| .cons hprotocol <|
      .cons (fits_limits (validLimits_iff.mp hlimits).1 hlength) <| .cons hgas <| .cons hwallet <|
      .cons hglobal <| .cons (fits_cap hmin) <| .cons (Value.fits_uint64 _) <|
      .cons (Value.fits_uint64 _) <|
      .cons (Value.fits_uint64 _) <| .cons (Value.fits_uint64 _) .nil)

/-! ## `ParsePolicy` -/

theorem parsePolicy_marshal (host : HashHost) {p : Policy} (h : p.validate = true) :
    parsePolicy host p.marshal (host.sha256 p.marshal) p.sourcePolicyVersion p.sourcePolicyHash =
      some p := by
  have hsize : ¬ 65536 < p.marshal.utf8ByteSize := not_lt.mpr (Policy.fits h).utf8ByteSize_le
  have hdecoded : (firstValue? p.marshal).bind decodePolicy = some p := by
    rw [Policy.marshal, firstValue?_render p.marshaled, Option.bind_some, decodePolicy_json]
  rw [parsePolicy, if_neg hsize, hdecoded]
  simp [Policy.canonical, h]

/-- Two policies with the same text are the same. -/
theorem Policy.marshal_injective : Function.Injective Policy.marshal := by
  intro p q h
  have hjson : p.json = q.json := by
    have hp := parse_render p.marshaled
    rw [← Policy.marshal, h, Policy.marshal, parse_render q.marshaled] at hp
    exact (Option.some.inj hp).symm
  have hdecoded := decodePolicy_json p
  rw [hjson, decodePolicy_json] at hdecoded
  exact (Option.some.inj hdecoded).symm

/-- `ParsePolicy` accepts the canonical text of a valid policy with its hash and source identity,
and nothing else, and returns that policy; different valid policies have different texts. -/
theorem parsePolicy_accepts_canonical (host : HashHost) :
    (∀ (raw hash : String) (sourceVersion : UInt64) (sourceHash : String) (p : Policy),
      parsePolicy host raw hash sourceVersion sourceHash = some p ↔
        p.canonical host = some (raw, hash) ∧ p.sourcePolicyVersion = sourceVersion ∧
          p.sourcePolicyHash = sourceHash) ∧
    (∀ p : Policy, p.validate = true → ∃ hash, p.canonical host = some (p.marshal, hash) ∧
      parsePolicy host p.marshal hash p.sourcePolicyVersion p.sourcePolicyHash = some p) ∧
    ∀ (p q : Policy) (text hash hash' : String), p.canonical host = some (text, hash) →
      q.canonical host = some (text, hash') → p = q := by
  refine ⟨fun raw hash sourceVersion sourceHash p => ⟨fun h => ?_, ?_⟩, fun p h => ?_, ?_⟩
  · unfold parsePolicy at h
    obtain ⟨-, h⟩ := Option.ite_none_left_eq_some.mp h
    split at h
    · cases h
    · split at h
      · cases h
      · rename_i q _ canonical got hcanonical
        obtain ⟨hsame, h⟩ := Option.ite_none_left_eq_some.mp h
        obtain rfl := Option.some.inj h
        simp only [not_or, Decidable.not_not] at hsame
        obtain ⟨rfl, rfl, hversion, hhash⟩ := hsame
        exact ⟨hcanonical, hversion, hhash⟩
  · rintro ⟨hcanonical, rfl, rfl⟩
    obtain ⟨hvalid, h⟩ := Option.ite_none_right_eq_some.mp hcanonical
    obtain ⟨rfl, rfl⟩ := Prod.mk.inj (Option.some.inj h)
    exact parsePolicy_marshal host hvalid
  · exact ⟨_, if_pos h, parsePolicy_marshal host h⟩
  · intro p q text hash hash' hp hq
    obtain ⟨-, hp⟩ := Option.ite_none_right_eq_some.mp hp
    obtain ⟨-, hq⟩ := Option.ite_none_right_eq_some.mp hq
    have hpText := (Prod.mk.inj (Option.some.inj hp)).1
    have hqText := (Prod.mk.inj (Option.some.inj hq)).1
    exact Policy.marshal_injective (hpText.trans hqText.symm)

end RbhTrade.Risk
