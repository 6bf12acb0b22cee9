import Mathlib.Data.List.Chain
import RbhTrade.Store.ManualRisk

/-!
# Policies in Go and in SQL

`Policy.Validate` and the triggers of `manual_risk_policies` judge one policy: Go from the fields,
SQL from the JSON text. A cap is a text of digits without a leading zero, and such texts are ordered
by length and then as texts, which is how SQL compares what Go compares as numbers. The two disagree
only where a text holds a NUL character, since `length`, `substr` and `GLOB` stop there.
-/

namespace RbhTrade.Risk

open Hex Json SqlJson SqlText

/-! ## Amounts -/

theorem utf8Size_of_isDigit {c : Char} (h : c.isDigit = true) : c.utf8Size = 1 := by
  obtain ⟨d, hd⟩ := Decimal.isDigit_iff_digit?.mp h
  obtain ⟨hlt, rfl⟩ := Decimal.digit?_eq_some hd
  have all : ∀ d < 10, (Nat.digitChar d).utf8Size = 1 := by decide
  exact all d hlt

theorem isDigit_toString {n : Nat} {c : Char} (h : c ∈ (toString n).toList) : c.isDigit = true :=
  Decimal.isDigit_toDigits (Decimal.toList_toString n ▸ h)

theorem utf8ByteSize_toString (n : Nat) : (toString n).utf8ByteSize = (toString n).length :=
  utf8ByteSize_eq_length fun _ hc => utf8Size_of_isDigit (isDigit_toString hc)

theorem noNul_toString (n : Nat) : NoNul (toString n) := by
  intro h
  exact absurd (isDigit_toString h) (by decide)

theorem length_toString_pos (n : Nat) : 0 < (toString n).length := by
  rw [Decimal.length_toString]
  exact Nat.length_toDigits_pos

theorem length_toString_le_iff {n k : Nat} (hk : 0 < k) : (toString n).length ≤ k ↔ n < 10 ^ k := by
  rw [Decimal.length_toString]
  exact Nat.length_toDigits_le_iff (by decide) hk

variable {s : String}

theorem uint256_eq_some {zero : Bool} {n : Nat} :
    uint256 s zero = some n ↔ s = toString n ∧ n < 2 ^ 256 ∧ (zero = false → n ≠ 0) := by
  unfold uint256
  constructor
  · intro h
    split at h
    · cases h
    split at h
    · split at h
      · cases h
      · rename_i hcond
        obtain ⟨hzero, hlt, htext⟩ : ¬ _ ∧ ¬ _ ∧ ¬ _ := by simpa only [not_or] using hcond
        obtain rfl := Option.some.inj h
        exact ⟨(Decidable.not_not.mp htext).symm, Nat.not_le.mp hlt, fun hz hn => hzero ⟨hz, hn⟩⟩
    · cases h
  · rintro ⟨rfl, hlt, hzero⟩
    have hlen : (toString n).length ≤ 78 :=
      (length_toString_le_iff (by decide)).mpr (lt_of_lt_of_le hlt (by decide))
    have hpos := length_toString_pos n
    rw [utf8ByteSize_toString, if_neg (by omega), Decimal.bigInt?_toString]
    show (if _ then none else some n) = _
    refine if_neg ?_
    rintro (⟨hz, hn⟩ | hle | htext)
    · exact hzero hz hn
    · omega
    · exact htext rfl

theorem uint256_isSome {zero : Bool} :
    (uint256 s zero).isSome = true ↔
      ∃ n, s = toString n ∧ n < 2 ^ 256 ∧ (zero = false → n ≠ 0) := by
  simp only [Option.isSome_iff_exists, uint256_eq_some]

/-- The digits that SQL accepts as a cap, but for a leading zero. -/
def Digits78 (s : String) : Prop :=
  1 ≤ s.length ∧ s.length ≤ 78 ∧ s.toList.all Char.isDigit = true ∧
    ¬ (s.length = 78 ∧ maxUint256 < s)

theorem maxUint256_eq : maxUint256 = toString (2 ^ 256 - 1) := by decide +kernel

/-- Digits without a leading zero that pass are the texts of 256-bit numbers. -/
theorem digits78_iff :
    Digits78 s ∧ (s ≠ "0" → s.toList.head? ≠ some '0') ↔ ∃ n < 2 ^ 256, s = toString n := by
  constructor
  · rintro ⟨⟨hpos, hlen, hdigits, hmax⟩, hlead⟩
    have hne : s.toList ≠ [] := by
      intro hnil
      rw [← String.length_toList, hnil] at hpos
      exact absurd hpos (by decide)
    obtain ⟨n, rfl⟩ := Decimal.eq_toString_iff.mpr ⟨hne, List.all_eq_true.mp hdigits, hlead⟩
    refine ⟨n, ?_, rfl⟩
    by_contra hlt
    have hmlen : (toString (2 ^ 256 - 1)).length = 78 := by decide +kernel
    have hlonger := Decimal.lt_iff_toString.mp (show 2 ^ 256 - 1 < n by omega)
    rw [hmlen] at hlonger
    rw [maxUint256_eq] at hmax
    obtain hlonger | ⟨hsame, hafter⟩ := hlonger
    · omega
    · exact hmax ⟨hsame.symm, hafter⟩
  · rintro ⟨n, hlt, rfl⟩
    have hlen : (toString n).length ≤ 78 :=
      (length_toString_le_iff (by decide)).mpr (lt_of_lt_of_le hlt (by decide))
    obtain ⟨-, hdigits, hlead⟩ := Decimal.eq_toString_iff.mp ⟨n, rfl⟩
    refine ⟨⟨length_toString_pos n, hlen, List.all_eq_true.mpr hdigits, ?_⟩, hlead⟩
    rintro ⟨hlen', hmax⟩
    have hmlen : (toString (2 ^ 256 - 1)).length = 78 := by decide +kernel
    rw [maxUint256_eq] at hmax
    have := Decimal.lt_iff_toString.mpr (.inr ⟨hmlen.trans hlen'.symm, hmax⟩)
    omega

theorem substr_first (h : NoNul s) : substr s 1 1 = "0" ↔ s.toList.head? = some '0' := by
  rw [substr, visible_of_noNul h, ← String.toList_inj, String.toList_ofList]
  cases s.toList with
  | nil => decide
  | cons c cs => simp

theorem capText_text {lead : String → Prop} (h : NoNul s) :
    CapText lead (.text s) ↔ lead s ∧ Digits78 s := by
  simp only [CapText, kind_text, scalar_text, Scalar.text?, Option.mem_def, Option.some.injEq,
    exists_eq_left', true_and, length_of_noNul h, allIn_of_noNul h, Digits78]
  tauto

/-- The test of a native cap is that of `uint256`. -/
theorem capText_native {key : String} :
    NoNul s ∧ CapText (NativeLead key) (.text s) ↔
      (uint256 s (key = "min_native_balance")).isSome = true := by
  rw [uint256_isSome]
  constructor
  · rintro ⟨hnul, hcap⟩
    obtain ⟨⟨hlead, hzero⟩, hdigits⟩ := (capText_text hnul).mp hcap
    rw [substr_first hnul] at hlead
    obtain ⟨n, hlt, rfl⟩ := digits78_iff.mp ⟨hdigits, fun hne hhead => hlead ⟨hne, hhead⟩⟩
    refine ⟨n, rfl, hlt, ?_⟩
    rintro hkey rfl
    exact hzero ⟨rfl, of_decide_eq_false hkey⟩
  · rintro ⟨n, rfl, hlt, hzero⟩
    have hnul := noNul_toString n
    obtain ⟨hdigits, hlead⟩ := digits78_iff.mpr ⟨n, hlt, rfl⟩
    refine ⟨hnul, (capText_text hnul).mpr ⟨⟨?_, ?_⟩, hdigits⟩⟩
    · rw [substr_first hnul]
      exact fun h => hlead h.1 h.2
    · rintro ⟨htext, hkey⟩
      exact hzero (decide_eq_false hkey) (Decimal.toString_nat_inj htext)

/-- The test of an input cap is that of `uint256` without zero. -/
theorem capText_limit :
    NoNul s ∧ CapText LimitLead (.text s) ↔ (uint256 s false).isSome = true := by
  rw [uint256_isSome]
  constructor
  · rintro ⟨hnul, hcap⟩
    obtain ⟨hlead, hdigits⟩ := (capText_text hnul).mp hcap
    rw [LimitLead, ne_eq, substr_first hnul] at hlead
    obtain ⟨n, hlt, rfl⟩ := digits78_iff.mp ⟨hdigits, fun _ => hlead⟩
    refine ⟨n, rfl, hlt, ?_⟩
    rintro - rfl
    exact hlead rfl
  · rintro ⟨n, rfl, hlt, hzero⟩
    have hnul := noNul_toString n
    obtain ⟨hdigits, hlead⟩ := digits78_iff.mpr ⟨n, hlt, rfl⟩
    refine ⟨hnul, (capText_text hnul).mpr ⟨?_, hdigits⟩⟩
    rw [LimitLead, ne_eq, substr_first hnul]
    refine hlead fun htext => hzero rfl (Decimal.toString_nat_inj htext)

theorem above_iff {m n : Nat} : Above (.text (toString m)) (.text (toString n)) ↔ n < m := by
  simp only [Above, Scalar.text?, Option.mem_def, Option.some.injEq, exists_eq_left',
    length_of_noNul (noNul_toString _)]
  rw [Decimal.lt_iff_toString (m := n), eq_comm (a := (toString m).length)]

theorem capsOrdered_iff {low mid high : String} :
    capsOrdered low mid high = true ↔
      (uint256 low false).isSome = true ∧ (uint256 mid false).isSome = true ∧
        (uint256 high false).isSome = true ∧ ¬ Above (.text low) (.text mid) ∧
        ¬ Above (.text mid) (.text high) := by
  unfold capsOrdered
  cases ho : uint256 low false with
  | none => simp
  | some o =>
      cases hw : uint256 mid false with
      | none => simp
      | some w =>
          cases hg : uint256 high false with
          | none => simp
          | some g =>
              rw [(uint256_eq_some.mp ho).1, (uint256_eq_some.mp hw).1, (uint256_eq_some.mp hg).1,
                above_iff, above_iff]
              simp

/-! ## Hexadecimal texts and identifiers -/

theorem noNul_of_isHex (h : s.toList.all isHex = true) : NoNul s := by
  intro hnul
  exact absurd (List.all_eq_true.mp h _ hnul) (by decide)

theorem toLower_eq_self : toLower s = s ↔ ∀ c ∈ s.toList, c.toLower = c := by
  rw [toLower, ← String.toList_inj, String.toList_map]
  constructor
  · intro h c hc
    exact List.map_inj_left.mp (h.trans (List.map_id _).symm) c hc
  · intro h
    exact (List.map_inj_left.mpr h).trans (List.map_id _)

theorem all_isLowerHex :
    s.toList.all isLowerHex = true ↔ s.toList.all isHex = true ∧ toLower s = s := by
  simp only [List.all_eq_true, isLowerHex_iff, toLower_eq_self, forall_and]

theorem digest_iff : digest s = true ↔ NoNul s ∧ LowerHex64 s := by
  simp only [digest, hexDecodes, Bool.and_eq_true, decide_eq_true_eq]
  constructor
  · rintro ⟨⟨hsize, hlower⟩, -, hhex⟩
    have hnul := noNul_of_isHex hhex
    have hlen := utf8ByteSize_eq_length fun c hc => utf8Size_of_isHex
      (List.all_eq_true.mp hhex c hc)
    rw [LowerHex64, length_of_noNul hnul, allIn_of_noNul hnul]
    exact ⟨hnul, hlen.symm.trans hsize, all_isLowerHex.mpr ⟨hhex, hlower.symm⟩⟩
  · rintro ⟨hnul, hsize, hall⟩
    rw [length_of_noNul hnul] at hsize
    rw [allIn_of_noNul hnul, all_isLowerHex] at hall
    have hlen := utf8ByteSize_eq_length
      fun c hc => utf8Size_of_isHex (List.all_eq_true.mp hall.1 c hc)
    refine ⟨⟨hlen.trans hsize, hall.2.symm⟩, ?_, hall.1⟩
    rw [String.length_toList, hsize]

theorem policyIdChar_toNat {c : Char} (h : policyIdChar c = true) : 0 < c.toNat ∧
    c.toNat ≤ 127 := by
  simp only [policyIdChar, Bool.or_eq_true, Bool.and_eq_true, decide_eq_true_eq, isDigit_iff_toNat,
    le_iff_toNat, List.contains_iff_mem] at h
  obtain ((h | h) | h) | h := h
  · exact ⟨lt_of_lt_of_le (by decide) h.1, le_trans h.2 (by decide)⟩
  · exact ⟨lt_of_lt_of_le (by decide) h.1, le_trans h.2 (by decide)⟩
  · omega
  · have all : "_-.".toList.all (fun c => 0 < c.toNat ∧ c.toNat ≤ 127) = true := by decide
    exact of_decide_eq_true (List.all_eq_true.mp all c h)

theorem validPolicyID_iff {id : String} :
    validPolicyID id = true ↔ NoNul id ∧ 1 ≤ SqlText.length id ∧ SqlText.length id ≤ 128 ∧
      allIn policyIdChar id = true := by
  have hbytes : id.toList.all policyIdChar = true → NoNul id ∧ id.utf8ByteSize = id.length := by
    intro hall
    have hchar := fun c hc => policyIdChar_toNat (List.all_eq_true.mp hall c hc)
    exact ⟨fun hnul => absurd (hchar _ hnul).1 (by decide),
      utf8ByteSize_eq_length fun c hc => utf8Size_of_toNat (hchar c hc).2⟩
  simp only [validPolicyID, Bool.and_eq_true, decide_eq_true_eq]
  constructor
  · rintro ⟨⟨hne, hle⟩, hall⟩
    obtain ⟨hnul, hsize⟩ := hbytes hall
    rw [length_of_noNul hnul, allIn_of_noNul hnul]
    exact ⟨hnul, by omega, by omega, hall⟩
  · rintro ⟨hnul, hpos, hle, hall⟩
    rw [length_of_noNul hnul] at hpos hle
    rw [allIn_of_noNul hnul] at hall
    have hsize := (hbytes hall).2
    exact ⟨⟨by omega, by omega⟩, hall⟩

/-! ## Units and limits -/

theorem decimals_eq {d : UInt8} : (Scalar.ofInt d.toNat).eq (.int 18) = true ↔ d = 18 := by
  rw [Scalar.ofInt_eq (by decide), ← UInt8.toNat_inj]
  exact Int.ofNat_inj

/-- An address in lower-case digits. -/
def Address (s : String) : Prop :=
  ∃ digits : List Char, s.toList = '0' :: 'x' :: digits ∧ digits.length = 40 ∧
    digits.all isLowerHex = true

theorem Address.noNul (h : Address s) : NoNul s := by
  obtain ⟨digits, hs, -, hall⟩ := h
  intro hnul
  rw [hs] at hnul
  simp only [List.mem_cons] at hnul
  obtain hnul | hnul | hnul := hnul
  · exact absurd hnul (by decide)
  · exact absurd hnul (by decide)
  · exact absurd (List.all_eq_true.mp hall _ hnul) (by decide)

theorem take_two {cs : List Char} (h : cs.take 2 = ['0', 'x']) : cs = '0' :: 'x' :: cs.drop 2 := by
  have happend := List.take_append_drop 2 cs
  rw [h] at happend
  exact happend.symm

theorem address_sql (hnul : NoNul s) :
    Address s ↔ SqlText.length s = 42 ∧ substr s 1 2 = "0x" ∧
      allIn isLowerHex (substrFrom s 3) = true := by
  have hrest : NoNul (String.ofList (s.toList.drop 2)) := by
    rw [NoNul, String.toList_ofList]
    exact fun h => hnul (List.mem_of_mem_drop h)
  rw [length_of_noNul hnul, substr, substrFrom, visible_of_noNul hnul, ← String.toList_inj,
    allIn_of_noNul hrest, ← String.length_toList]
  simp only [String.toList_ofList]
  constructor
  · rintro ⟨digits, hs, hlen, hall⟩
    rw [hs]
    exact ⟨by simp [hlen], rfl, hall⟩
  · rintro ⟨hlen, htake, hall⟩
    refine ⟨s.toList.drop 2, take_two htake, ?_, hall⟩
    rw [List.length_drop, hlen]

theorem address_go :
    Address s ↔ s.utf8ByteSize = 42 ∧ s.toList.take 2 = ['0', 'x'] ∧ toLower s = s ∧
      hexDecodes (s.toList.drop 2) = true := by
  have hbytes : ∀ digits : List Char, s.toList = '0' :: 'x' :: digits →
      digits.all isHex = true → s.utf8ByteSize = digits.length + 2 := by
    intro digits hs hall
    have hone : ∀ c ∈ s.toList, c.utf8Size = 1 := by
      rw [hs]
      simp only [List.forall_mem_cons]
      exact ⟨by decide, by decide, fun c hc => utf8Size_of_isHex (List.all_eq_true.mp hall c hc)⟩
    rw [utf8ByteSize_eq_length hone, ← String.length_toList, hs]
    rfl
  have hlower : ∀ digits : List Char, s.toList = '0' :: 'x' :: digits →
      (toLower s = s ↔ ∀ c ∈ digits, c.toLower = c) := by
    intro digits hs
    rw [toLower_eq_self, hs]
    simp only [List.forall_mem_cons]
    exact ⟨fun h => h.2.2, fun h => ⟨by decide, by decide, h⟩⟩
  simp only [hexDecodes, Bool.and_eq_true, decide_eq_true_eq]
  constructor
  · rintro ⟨digits, hs, hlen, hall⟩
    have hboth : ∀ c ∈ digits, isHex c = true ∧ c.toLower = c :=
      fun c hc => isLowerHex_iff.mp (List.all_eq_true.mp hall c hc)
    have hhex : digits.all isHex = true := List.all_eq_true.mpr fun c hc => (hboth c hc).1
    refine ⟨by rw [hbytes digits hs hhex, hlen], by rw [hs]; rfl,
      (hlower digits hs).mpr fun c hc => (hboth c hc).2, ?_⟩
    rw [hs]
    exact ⟨by simp [hlen], hhex⟩
  · rintro ⟨hsize, htake, hlow, -, hhex⟩
    have hs := take_two htake
    refine ⟨s.toList.drop 2, hs, ?_, List.all_eq_true.mpr fun c hc => isLowerHex_iff.mpr
      ⟨List.all_eq_true.mp hhex c hc, (hlower _ hs).mp hlow c hc⟩⟩
    have := hbytes _ hs hhex
    omega

theorem assetText_text {decimals : Scalar} :
    AssetText (.text s) decimals ↔
      (s = "native" ∧ decimals.eq (.int 18) = true) ∨ (SqlText.length s = 42 ∧ substr s 1 2 = "0x" ∧
        allIn isLowerHex (substrFrom s 3) = true ∧ s ≠ zeroAddress) := by
  simp only [AssetText, Scalar.text?, Option.mem_def, Option.some.injEq, exists_eq_left',
    Scalar.eq_text]

/-- The asset test of SQL is that of `Unit.Validate`. -/
theorem assetText_iff {u : RiskUnit} :
    NoNul u.asset ∧ AssetText (.text u.asset) (.ofInt u.decimals.toNat) ↔
      (u.asset = "native" ∧ u.decimals = 18) ∨
        (u.asset ≠ "native" ∧ Address u.asset ∧ u.asset ≠ zeroAddress) := by
  rw [assetText_text, decimals_eq]
  constructor
  · rintro ⟨hnul, ⟨hnative, hdec⟩ | ⟨hlen, hx, hall, hzero⟩⟩
    · exact .inl ⟨hnative, hdec⟩
    · refine .inr ⟨?_, (address_sql hnul).mpr ⟨hlen, hx, hall⟩, hzero⟩
      intro hnative
      rw [hnative] at hlen
      exact absurd hlen (by decide)
  · rintro (⟨hnative, hdec⟩ | ⟨-, haddr, hzero⟩)
    · exact ⟨by rw [hnative]; decide, .inl ⟨hnative, hdec⟩⟩
    · obtain ⟨hlen, hx, hall⟩ := (address_sql haddr.noNul).mp haddr
      exact ⟨haddr.noNul, .inr ⟨hlen, hx, hall, hzero⟩⟩

/-- `Unit.Validate` of an input unit. -/
theorem validate_unit {u : RiskUnit} (hkind : u.kind = "TRADE_INPUT") :
    u.validate = true ↔ u.chainId = 4663 ∧ ((u.asset = "native" ∧ u.decimals = 18) ∨
      (u.asset ≠ "native" ∧ Address u.asset ∧ u.asset ≠ zeroAddress)) := by
  simp only [RiskUnit.validate, hkind, decide_true, Bool.true_or, Bool.and_true, Bool.and_eq_true,
    decide_eq_true_eq]
  split
  · rename_i hnative
    simp [hnative]
  · rename_i hnative
    simp only [Bool.and_eq_true, decide_eq_true_eq, hnative, false_and, false_or, address_go,
      not_false_eq_true, true_and, ne_eq]
    tauto

theorem chainId_eq {x : UInt64} : (Scalar.ofInt x.toNat).eq (.int 4663) = true ↔ x = 4663 := by
  rw [Scalar.ofInt_eq (by decide), ← UInt64.toNat_inj]
  exact Int.ofNat_inj

theorem limitUnit_json (l : InputLimit) :
    LimitUnit l.json ↔ l.unit.chainId = 4663 ∧ l.unit.kind = "TRADE_INPUT" ∧
      AssetText (.text l.unit.asset) (.ofInt l.unit.decimals.toNat) := by
  have hpaths : at? l.json ["unit", "chain_id"] = some (.nat l.unit.chainId.toNat) ∧
      at? l.json ["unit", "decimals"] = some (.nat l.unit.decimals.toNat) ∧
      at? l.json ["unit", "asset"] = some (.text l.unit.asset) ∧
      at? l.json ["unit", "kind"] = some (.text l.unit.kind) ∧
      at? l.json ["max_operation"] = some (.text l.maxOperation) ∧
      at? l.json ["max_wallet_active"] = some (.text l.maxWalletActive) ∧
      at? l.json ["max_global_active"] = some (.text l.maxGlobalActive) := by
    simp only [InputLimit.json, RiskUnit.json, at?_struct, at?_nil, List.lookup_cons,
      String.reduceBEq, Option.bind_some, and_self]
  obtain ⟨h₁, h₂, h₃, h₄, h₅, h₆, h₇⟩ := hpaths
  have hdec : (Scalar.ofInt l.unit.decimals.toNat).between (.int 0) (.int 255) = true := by
    rw [Scalar.ofInt_between (by decide)]
    have := l.unit.decimals.toNat_lt
    omega
  have hobj : kind l.json = .object := rfl
  rw [LimitUnit, type?_nat h₁, extract_nat h₁, type?_nat h₂, extract_nat h₂, type?_text h₃,
    extract_text h₃, type?_text h₄, extract_text h₄, type?_text h₅, type?_text h₆, type?_text h₇,
    chainId_eq, Scalar.eq_text]
  simp only [hobj, hdec, true_and, and_true]

/-- No NUL character in the texts of a limit that SQL measures. -/
def InputLimit.NoNul (l : InputLimit) : Prop :=
  SqlText.NoNul l.unit.asset ∧ SqlText.NoNul l.maxOperation ∧ SqlText.NoNul l.maxWalletActive ∧
    SqlText.NoNul l.maxGlobalActive

/-- What the loop of `Validate` asks of one limit. -/
def InputLimit.Good (l : InputLimit) : Prop :=
  l.unit.validate = true ∧ l.unit.kind = "TRADE_INPUT" ∧
    capsOrdered l.maxOperation l.maxWalletActive l.maxGlobalActive = true

/-- What the triggers ask of one limit, but for its keys. -/
def InputLimit.Passes (l : InputLimit) : Prop :=
  LimitUnit l.json ∧ (∀ c ∈ members l.json, c.1 ∈ limitCapKeys → CapText LimitLead c.2) ∧
    ¬ Above (extract l.json ["max_operation"]) (extract l.json ["max_wallet_active"]) ∧
    ¬ Above (extract l.json ["max_wallet_active"]) (extract l.json ["max_global_active"])

theorem limitCaps_json (l : InputLimit) :
    (∀ c ∈ members l.json, c.1 ∈ limitCapKeys → CapText LimitLead c.2) ↔
      CapText LimitLead (.text l.maxOperation) ∧ CapText LimitLead (.text l.maxWalletActive) ∧
        CapText LimitLead (.text l.maxGlobalActive) := by
  rw [InputLimit.json, members_struct]
  simp [limitCapKeys]

theorem extract_caps (l : InputLimit) :
    extract l.json ["max_operation"] = .text l.maxOperation ∧
      extract l.json ["max_wallet_active"] = .text l.maxWalletActive ∧
      extract l.json ["max_global_active"] = .text l.maxGlobalActive := by
  refine ⟨extract_text ?_, extract_text ?_, extract_text ?_⟩ <;>
    simp only [InputLimit.json, at?_struct, at?_nil, List.lookup_cons, String.reduceBEq,
      Option.bind_some]

theorem extract_asset (l : InputLimit) :
    extract l.json ["unit", "asset"] = .text l.unit.asset := by
  refine extract_text ?_
  simp only [InputLimit.json, RiskUnit.json, at?_struct, at?_nil, List.lookup_cons,
    String.reduceBEq, Option.bind_some]

/-- A limit passes the triggers as it passes `Validate`. -/
theorem limit_iff (l : InputLimit) : l.NoNul ∧ l.Passes ↔ l.Good := by
  obtain ⟨ho, hw, hg⟩ := extract_caps l
  rw [InputLimit.NoNul, InputLimit.Passes, InputLimit.Good, limitUnit_json, limitCaps_json, ho, hw,
    hg, capsOrdered_iff, ← capText_limit, ← capText_limit, ← capText_limit]
  constructor
  · rintro ⟨⟨hasset, hno, hnw, hng⟩, ⟨hchain, hkind, htext⟩, ⟨hco, hcw, hcg⟩, habove, habove'⟩
    exact ⟨(validate_unit hkind).mpr ⟨hchain, assetText_iff.mp ⟨hasset, htext⟩⟩, hkind,
      ⟨hno, hco⟩, ⟨hnw, hcw⟩, ⟨hng, hcg⟩, habove, habove'⟩
  · rintro ⟨hvalid, hkind, ⟨hno, hco⟩, ⟨hnw, hcw⟩, ⟨hng, hcg⟩, habove, habove'⟩
    obtain ⟨hchain, hunit⟩ := (validate_unit hkind).mp hvalid
    obtain ⟨hasset, htext⟩ := assetText_iff.mpr hunit
    exact ⟨⟨hasset, hno, hnw, hng⟩, ⟨hchain, hkind, htext⟩, ⟨hco, hcw, hcg⟩, habove, habove'⟩

theorem InputLimit.Good.asset_pos {l : InputLimit} (h : l.Good) : "" < l.unit.asset := by
  have hne : l.unit.asset.toList ≠ [] := by
    obtain ⟨-, ⟨hnative, -⟩ | ⟨-, ⟨digits, hs, -⟩, -⟩⟩ := (validate_unit h.2.1).mp h.1
    · rw [hnative]
      decide
    · rw [hs]
      exact List.cons_ne_nil _ _
  show ([] : List Char) < l.unit.asset.toList
  cases hl : l.unit.asset.toList with
  | nil => exact absurd hl hne
  | cons c cs => exact List.nil_lt_cons c cs

/-! ## The order of the limits -/

theorem validLimits_iff {previous : String} {ls : List InputLimit} :
    validLimits previous ls = true ↔
      (∀ l ∈ ls, l.Good) ∧ List.IsChain (· < ·) (previous :: ls.map (·.unit.asset)) := by
  induction ls generalizing previous with
  | nil => simp [validLimits]
  | cons l ls ih =>
      simp only [validLimits, Bool.and_eq_true, decide_eq_true_eq, ih, List.forall_mem_cons,
        List.map_cons, List.isChain_cons_cons, InputLimit.Good]
      tauto

/-- The adjacent items of a list are in the relation when the list is a chain of it. -/
theorem forall_zip_tail {α : Type} {R : α → α → Prop} {xs : List α} :
    (∀ ab ∈ xs.zip xs.tail, R ab.1 ab.2) ↔ List.IsChain R xs := by
  induction xs with
  | nil => simp
  | cons x xs ih =>
      cases xs with
      | nil => simp
      | cons y xs =>
          rw [List.isChain_cons_cons, ← ih]
          simp

theorem not_le_text {t : String} : (Scalar.text t).le (.text s) = false ↔ s < t := by
  have hle : (Scalar.text t).le (.text s) = true ↔ t ≤ s := by
    simp only [Scalar.le, Scalar.lt, Scalar.eq, Bool.or_eq_true, decide_eq_true_eq]
    exact le_iff_lt_or_eq.symm
  rw [← Bool.not_eq_true, hle, not_le]

/-! ## Policies -/

/-- No NUL character in the texts of a policy that SQL measures. -/
def Policy.NoNul (p : Policy) : Prop :=
  SqlText.NoNul p.id ∧ SqlText.NoNul p.sourcePolicyHash ∧
    SqlText.NoNul p.maxNativeGasPerOperation ∧ SqlText.NoNul p.maxNativeWalletOutlay ∧
    SqlText.NoNul p.maxNativeGlobalOutlay ∧ SqlText.NoNul p.minNativeBalance ∧
    ∀ l ∈ p.limits, l.NoNul

theorem RiskUnit.marshaled (u : RiskUnit) : u.json.Marshaled := by
  refine Value.marshaled_struct ?_
  simp [Value.marshaled_text, Value.marshaled_nat]

theorem InputLimit.marshaled (l : InputLimit) : l.json.Marshaled := by
  refine Value.marshaled_struct ?_
  simp [Value.marshaled_text, RiskUnit.marshaled]

theorem Policy.marshaled (p : Policy) : p.json.Marshaled := by
  have hlimits : (limitsJson p.inputLimits).Marshaled := by
    cases p.inputLimits with
    | none => trivial
    | some ls =>
        refine Value.marshaled_arr ?_
        rw [List.forall_mem_map]
        exact fun l _ => l.marshaled
  refine Value.marshaled_struct ?_
  simp [Value.marshaled_text, Value.marshaled_nat, hlimits]

/-- The conditions of `Validate` on the numbers of the header. -/
def Policy.Numbers (p : Policy) : Prop :=
  p.sourcePolicyVersion.toNat < 2 ^ 63 ∧ p.chainId = 4663 ∧ p.protocol = "PONS_V2_CURVE" ∧
    (1 ≤ p.maxSellBps.toNat ∧ p.maxSellBps.toNat ≤ 10000) ∧
    (1 ≤ p.windowSeconds.toNat ∧ p.windowSeconds.toNat ≤ 31536000) ∧
    0 < p.maxWalletOperationsWindow.toNat ∧ p.maxGlobalOperationsWindow.toNat < 2 ^ 63 ∧
    p.maxWalletOperationsWindow.toNat ≤ p.maxGlobalOperationsWindow.toNat
deriving Decidable

theorem at?_limits (p : Policy) :
    at? p.json ["input_limits"] = some (limitsJson p.inputLimits) := by
  simp only [Policy.json, at?_struct, at?_nil, List.lookup_cons, String.reduceBEq, Option.bind_some]

/-- The header passes when the numbers are in range and the limits are a list of 1 to 128. -/
theorem header_iff (host : HashHost) (p : Policy) (createdAt : String) :
    Header (p.row host createdAt) p.json ↔
      p.Numbers ∧ ∃ ls ∈ p.inputLimits, 1 ≤ ls.length ∧ ls.length ≤ 128 := by
  have hpaths : at? p.json ["id"] = some (.text p.id) ∧
      at? p.json ["source_policy_version"] = some (.nat p.sourcePolicyVersion.toNat) ∧
      at? p.json ["source_policy_hash"] = some (.text p.sourcePolicyHash) ∧
      at? p.json ["chain_id"] = some (.nat p.chainId.toNat) ∧
      at? p.json ["protocol"] = some (.text p.protocol) ∧
      at? p.json ["max_sell_bps"] = some (.nat p.maxSellBps.toNat) ∧
      at? p.json ["max_wallet_operations_window"] = some (.nat p.maxWalletOperationsWindow.toNat) ∧
      at? p.json ["max_global_operations_window"] = some (.nat p.maxGlobalOperationsWindow.toNat) ∧
      at? p.json ["window_seconds"] = some (.nat p.windowSeconds.toNat) := by
    simp only [Policy.json, at?_struct, at?_nil, List.lookup_cons, String.reduceBEq,
      Option.bind_some, and_self]
  obtain ⟨hid, hversion, hhash, hchain, hprotocol, hsell, hwallet, hglobal, hwindow⟩ := hpaths
  have hlimits : type? p.json ["input_limits"] = some .array ∧ 1 ≤ limitCount p.json ∧
      limitCount p.json ≤ 128 ↔ ∃ ls ∈ p.inputLimits, 1 ≤ ls.length ∧ ls.length ≤ 128 := by
    rw [type?, limitCount, at?_limits]
    cases p.inputLimits with
    | none => simp [limitsJson, kind]
    | some ls => simp [limitsJson, kind, arrayLength]
  rw [Header, extract_text hid, type?_text hid, extract_nat hversion, type?_nat hversion,
    extract_text hhash, type?_text hhash, extract_nat hchain, type?_nat hchain,
    extract_text hprotocol, type?_text hprotocol, extract_nat hsell, type?_nat hsell,
    extract_nat hwallet, type?_nat hwallet, extract_nat hglobal, type?_nat hglobal,
    extract_nat hwindow, type?_nat hwindow, hlimits, chainId_eq, Scalar.isInt_ofInt,
    Scalar.isInt_ofInt, Scalar.zero_lt_ofInt, Scalar.ofInt_between (by decide),
    Scalar.ofInt_between (by decide), Scalar.eq_text, Scalar.eq_text, Scalar.eq_text]
  have hself : p.sourcePolicyVersion.toNat < 2 ^ 63 →
      (Scalar.ofInt p.sourcePolicyVersion.toNat).eq
        (.int (p.row host createdAt).sourcePolicyVersion) = true := by
    intro h
    rw [Scalar.ofInt_eq (by show ((p.sourcePolicyVersion.toNat : Nat) : Int) < 2 ^ 63; omega)]
    rfl
  constructor
  · rintro ⟨-, -, -, -, -, h₁, h₂, -, -, h₃, -, -, h₄, -, h₅, -, h₆, -, h₇, h₈, h₉⟩
    rw [Scalar.ofInt_le h₇] at h₈
    exact ⟨⟨h₃, h₁, h₂, by omega, by omega, h₆, h₇, h₈⟩, h₉⟩
  · rintro ⟨⟨h₃, h₁, h₂, h₄, h₅, h₆, h₇, h₈⟩, h₉⟩
    exact ⟨rfl, rfl, hself h₃, rfl, rfl, h₁, h₂, rfl, rfl, h₃, rfl, rfl, by omega, rfl, by omega,
      rfl, h₆, rfl, h₇, (Scalar.ofInt_le h₇).mpr h₈, h₉⟩

theorem nativeCaps_json (p : Policy) :
    NativeCaps p.json ↔
      CapText (NativeLead "max_native_gas_per_operation") (.text p.maxNativeGasPerOperation) ∧
      CapText (NativeLead "max_native_wallet_outlay") (.text p.maxNativeWalletOutlay) ∧
      CapText (NativeLead "max_native_global_outlay") (.text p.maxNativeGlobalOutlay) ∧
      CapText (NativeLead "min_native_balance") (.text p.minNativeBalance) := by
  rw [NativeCaps, Policy.json, members_struct]
  simp [nativeCapKeys]

theorem extract_native (p : Policy) :
    extract p.json ["max_native_gas_per_operation"] = .text p.maxNativeGasPerOperation ∧
      extract p.json ["max_native_wallet_outlay"] = .text p.maxNativeWalletOutlay ∧
      extract p.json ["max_native_global_outlay"] = .text p.maxNativeGlobalOutlay := by
  refine ⟨extract_text ?_, extract_text ?_, extract_text ?_⟩ <;>
    simp only [Policy.json, at?_struct, at?_nil, List.lookup_cons, String.reduceBEq,
      Option.bind_some]

theorem limit_keys (l : InputLimit) :
    HasKeys ["unit", "max_operation", "max_wallet_active", "max_global_active"] l.json ∧
      HasKeys ["chain_id", "asset", "decimals", "kind"] ((at? l.json ["unit"]).getD .null) := by
  have hunit : at? l.json ["unit"] = some l.unit.json := by
    simp only [InputLimit.json, at?_struct, at?_nil, List.lookup_cons, String.reduceBEq,
      Option.bind_some]
  rw [hunit, Option.getD_some]
  exact ⟨hasKeys_struct rfl (by decide), hasKeys_struct rfl (by decide)⟩

/-- The triggers on the limits ask that each limit passes and that the assets rise. -/
theorem limits_iff {p : Policy} {ls : List InputLimit} (h : p.inputLimits = some ls) :
    InputUnits p.json ∧ Structure p.json ∧ (∀ l ∈ limitItems p.json,
      ¬ Above (extract l ["max_operation"]) (extract l ["max_wallet_active"]) ∧
        ¬ Above (extract l ["max_wallet_active"]) (extract l ["max_global_active"])) ↔
    (∀ l ∈ ls, l.Passes) ∧ List.IsChain (· < ·) (ls.map (·.unit.asset)) := by
  have hitems : limitItems p.json = ls.map InputLimit.json := by
    rw [limitItems, at?_limits, h]
    rfl
  have hcount : limitCount p.json = ls.length := by
    rw [limitCount, at?_limits, h]
    exact List.length_map _
  have hassets : limitAssets p.json = (ls.map (·.unit.asset)).map Scalar.text := by
    rw [limitAssets, hitems, List.map_map, List.map_map]
    simp only [Function.comp_def, extract_asset]
    exact List.filter_eq_self.mpr (List.forall_mem_map.mpr fun l _ => by simp)
  have horder : (∀ ab ∈ (limitItems p.json).zip (limitItems p.json).tail,
      (extract ab.2 ["unit", "asset"]).le (extract ab.1 ["unit", "asset"]) = false) ↔
      List.IsChain (· < ·) (ls.map (·.unit.asset)) := by
    rw [forall_zip_tail (R := fun a b => (extract b ["unit", "asset"]).le
      (extract a ["unit", "asset"]) = false), hitems, List.isChain_map, List.isChain_map]
    simp only [extract_asset, not_le_text]
  rw [InputUnits, Structure, horder, hassets, hcount, hitems]
  simp only [List.forall_mem_map]
  constructor
  · rintro ⟨⟨hunits, -, hcaps⟩, ⟨-, hchain⟩, habove⟩
    exact ⟨fun l hl => ⟨hunits l hl, hcaps l hl, habove l hl⟩, hchain⟩
  · rintro ⟨hpass, hchain⟩
    have hnodup : ((ls.map (·.unit.asset)).map Scalar.text).Nodup := by
      refine List.Nodup.map (fun a b hab => Scalar.text.inj hab) ?_
      exact (List.isChain_iff_pairwise.mp hchain).imp fun hlt => ne_of_lt hlt
    have hdistinct : ((ls.map (·.unit.asset)).map Scalar.text).dedup.length = ls.length := by
      rw [hnodup.dedup, List.length_map, List.length_map]
    exact ⟨⟨fun l hl => (hpass l hl).1, hdistinct, fun l hl => (hpass l hl).2.1⟩,
      ⟨fun l _ => limit_keys l, hchain⟩, fun l hl => (hpass l hl).2.2⟩

/-- The parts of `Validate`. -/
theorem validate_iff (p : Policy) :
    p.validate = true ↔ p.sourcePolicyVersion ≠ 0 ∧ p.Numbers ∧ validPolicyID p.id = true ∧
      digest p.sourcePolicyHash = true ∧ (1 ≤ p.limits.length ∧ p.limits.length ≤ 128) ∧
      validLimits "" p.limits = true ∧
      capsOrdered p.maxNativeGasPerOperation p.maxNativeWalletOutlay p.maxNativeGlobalOutlay =
      true ∧
      (uint256 p.minNativeBalance true).isSome = true := by
  have hzero : ∀ x : UInt64, x ≠ 0 ↔ 0 < x.toNat := by
    intro x
    rw [ne_eq, ← UInt64.toNat_inj]
    exact Nat.pos_iff_ne_zero.symm
  have hle : ∀ x y : UInt64, x ≤ y ↔ x.toNat ≤ y.toNat := fun x y => UInt64.le_iff_toNat_le
  have hmax : maxInt64 = 2 ^ 63 - 1 := rfl
  simp only [Policy.validate, Policy.Numbers, Bool.and_eq_true, decide_eq_true_eq, hzero, hle]
  have hsell : (10000 : UInt64).toNat = 10000 := rfl
  have hwindow : (31536000 : UInt64).toNat = 31536000 := rfl
  rw [hsell, hwindow]
  constructor
  · rintro ⟨⟨⟨⟨⟨⟨⟨⟨⟨⟨⟨⟨⟨⟨⟨⟨⟨h₁, h₂⟩, h₃⟩, h₄⟩, h₅⟩, h₆⟩, h₇⟩, h₈⟩, h₉⟩, h₁₀⟩, h₁₁⟩, h₁₂⟩, h₁₃⟩,
      h₁₄⟩, h₁₅⟩, h₁₆⟩, h₁₇⟩, h₁₈⟩
    exact ⟨h₂, ⟨by omega, h₅, h₆, ⟨h₉, h₁₀⟩, ⟨h₁₁, h₁₂⟩, h₁₃, by omega, h₁₄⟩, h₁, h₄,
      ⟨by omega, h₈⟩, h₁₆, h₁₇, h₁₈⟩
  · rintro ⟨h₂, ⟨h₃, h₅, h₆, ⟨h₉, h₁₀⟩, ⟨h₁₁, h₁₂⟩, h₁₃, h₁₅, h₁₄⟩, h₁, h₄, ⟨h₇, h₈⟩, h₁₆, h₁₇, h₁₈⟩
    exact ⟨⟨⟨⟨⟨⟨⟨⟨⟨⟨⟨⟨⟨⟨⟨⟨⟨h₁, h₂⟩, by omega⟩, h₄⟩, h₅⟩, h₆⟩, by omega⟩, h₈⟩, h₉⟩, h₁₀⟩, h₁₁⟩, h₁₂⟩,
      h₁₃⟩, h₁₄⟩, by omega⟩, h₁₆⟩, h₁₇⟩, h₁₈⟩

/-- The native caps and their order, in both readings. -/
theorem native_iff (p : Policy) :
    (SqlText.NoNul p.maxNativeGasPerOperation ∧ SqlText.NoNul p.maxNativeWalletOutlay ∧
      SqlText.NoNul p.maxNativeGlobalOutlay ∧ SqlText.NoNul p.minNativeBalance) ∧
      NativeCaps p.json ∧
      ¬ Above (extract p.json ["max_native_gas_per_operation"])
        (extract p.json ["max_native_wallet_outlay"]) ∧
      ¬ Above (extract p.json ["max_native_wallet_outlay"])
        (extract p.json ["max_native_global_outlay"]) ↔
    capsOrdered p.maxNativeGasPerOperation p.maxNativeWalletOutlay p.maxNativeGlobalOutlay = true ∧
      (uint256 p.minNativeBalance true).isSome = true := by
  obtain ⟨hgas, hwallet, hglobal⟩ := extract_native p
  have hcap : ∀ (key s : String), key ≠ "min_native_balance" →
      (SqlText.NoNul s ∧ CapText (NativeLead key) (.text s) ↔ (uint256 s false).isSome = true) := by
    intro key s hkey
    rw [capText_native, decide_eq_false hkey]
  have hmin : SqlText.NoNul p.minNativeBalance ∧
      CapText (NativeLead "min_native_balance") (.text p.minNativeBalance) ↔
        (uint256 p.minNativeBalance true).isSome = true := by
    rw [capText_native, decide_eq_true rfl]
  rw [nativeCaps_json, hgas, hwallet, hglobal, capsOrdered_iff, ← hmin,
    ← hcap "max_native_gas_per_operation" _ (by decide),
    ← hcap "max_native_wallet_outlay" _ (by decide),
    ← hcap "max_native_global_outlay" _ (by decide)]
  constructor
  · rintro ⟨⟨h₁, h₂, h₃, h₄⟩, ⟨c₁, c₂, c₃, c₄⟩, hlow, hhigh⟩
    exact ⟨⟨⟨h₁, c₁⟩, ⟨h₂, c₂⟩, ⟨h₃, c₃⟩, hlow, hhigh⟩, h₄, c₄⟩
  · rintro ⟨⟨⟨h₁, c₁⟩, ⟨h₂, c₂⟩, ⟨h₃, c₃⟩, hlow, hhigh⟩, h₄, c₄⟩
    exact ⟨⟨h₁, h₂, h₃, h₄⟩, ⟨c₁, c₂, c₃, c₄⟩, hlow, hhigh⟩

/-- No row has the identifier of the policy, and neither its audit row nor its alert exists. -/
def RiskDb.Fresh (db : RiskDb) (p : Policy) : Prop :=
  (∀ o ∈ db.manualRiskPolicies, o.id ≠ p.id) ∧ "manual-risk-policy:" ++ p.id ∉ db.audits ∧
    "manual-risk-policy-alert:" ++ p.id ∉ db.alerts

/-- What the insert of the row of a policy amounts to. -/
theorem accepted_iff (host : HashHost) (db : RiskDb) (p : Policy) (createdAt : String) :
    (p.row host createdAt).Accepted db ↔
      Source db (p.row host createdAt) p.json ∧ NativeCaps p.json ∧ InputUnits p.json ∧
        Structure p.json ∧ Hierarchy p.json ∧ (p.row host createdAt).Columns p.json ∧
        db.Fresh p := by
  rw [RiskPolicyRow.Accepted, show (p.row host createdAt).policyJson = p.json.render from rfl,
    parse_render p.marshaled]
  simp only [Option.mem_def, Option.some.injEq, exists_eq_left', RiskDb.Fresh]
  tauto

variable {host : HashHost} {db : RiskDb} {p : Policy} {createdAt : String}

/-- The table accepts a policy whose identifier and hash pass the column checks and whose other
fields pass `Validate`. -/
theorem accepted_of_parts (hcreated : 0 < SqlText.length createdAt)
    (hsource : ∃ s ∈ db.canaryPolicies,
      s.version = p.sourcePolicyVersion.toNat ∧ s.policyHash = p.sourcePolicyHash)
    (hfresh : db.Fresh p) (hnumbers : p.Numbers)
    (hid : 1 ≤ SqlText.length p.id ∧ SqlText.length p.id ≤ 128 ∧ allIn policyIdChar p.id = true)
    (hhash : LowerHex64 p.sourcePolicyHash) (hcount : 1 ≤ p.limits.length ∧ p.limits.length ≤ 128)
    (hlimits : validLimits "" p.limits = true)
    (hcaps : capsOrdered p.maxNativeGasPerOperation p.maxNativeWalletOutlay
      p.maxNativeGlobalOutlay = true)
    (hmin : (uint256 p.minNativeBalance true).isSome = true) :
    (p.row host createdAt).Accepted db := by
  obtain ⟨-, hnative, hgas, hwallet⟩ := (native_iff p).mpr ⟨hcaps, hmin⟩
  obtain ⟨hgood, hchain⟩ := validLimits_iff.mp hlimits
  cases hls : p.inputLimits with
  | none =>
      rw [Policy.limits, hls] at hcount
      exact absurd hcount.1 (by decide)
  | some ls =>
      have hsome : p.limits = ls := by rw [Policy.limits, hls, Option.getD_some]
      rw [hsome] at hgood hchain hcount
      have hassets : List.IsChain (· < ·) (ls.map (·.unit.asset)) :=
        (List.isChain_cons.mp hchain).2
      obtain ⟨hunits, hstructure, habove⟩ := (limits_iff hls).mpr
        ⟨fun l hl => ((limit_iff l).mpr (hgood l hl)).2, hassets⟩
      rw [accepted_iff]
      exact ⟨⟨hsource, (header_iff host p createdAt).mpr ⟨hnumbers, ls, hls, hcount⟩,
        hasKeys_struct rfl (by decide)⟩, hnative, hunits, hstructure, ⟨hgas, hwallet, habove⟩,
        ⟨hid, hhash, rfl, host.hex _, hcreated⟩, hfresh⟩

theorem accepted_of_validate (hcreated : 0 < SqlText.length createdAt)
    (hsource : ∃ s ∈ db.canaryPolicies,
      s.version = p.sourcePolicyVersion.toNat ∧ s.policyHash = p.sourcePolicyHash)
    (hfresh : db.Fresh p) (h : p.validate = true) : (p.row host createdAt).Accepted db := by
  obtain ⟨-, hnumbers, hid, hhash, hcount, hlimits, hcaps, hmin⟩ := (validate_iff p).mp h
  exact accepted_of_parts hcreated hsource hfresh hnumbers (validPolicyID_iff.mp hid).2
    (digest_iff.mp hhash).2 hcount hlimits hcaps hmin

theorem noNul_of_validate (h : p.validate = true) : p.NoNul := by
  obtain ⟨-, -, hid, hhash, -, hlimits, hcaps, hmin⟩ := (validate_iff p).mp h
  obtain ⟨hgas, hwallet, hglobal, hbalance⟩ := ((native_iff p).mpr ⟨hcaps, hmin⟩).1
  exact ⟨(validPolicyID_iff.mp hid).1, (digest_iff.mp hhash).1, hgas, hwallet, hglobal, hbalance,
    fun l hl => ((limit_iff l).mpr ((validLimits_iff.mp hlimits).1 l hl)).1⟩

theorem validate_of_accepted (hnul : p.NoNul) (h : (p.row host createdAt).Accepted db) :
    p.validate = true := by
  obtain ⟨⟨⟨s, hs, hversion, -⟩, hheader, -⟩, hnative, hunits, hstructure,
    ⟨hgas, hwallet, habove⟩, ⟨hid, hhash, -⟩, -⟩ := (accepted_iff host db p createdAt).mp h
  obtain ⟨hnumbers, ls, hls, hcount⟩ := (header_iff host p createdAt).mp hheader
  obtain ⟨hnid, hnhash, hngas, hnwallet, hnglobal, hnmin, hnlimits⟩ := hnul
  obtain ⟨hcaps, hmin⟩ :=
    (native_iff p).mp ⟨⟨hngas, hnwallet, hnglobal, hnmin⟩, hnative, hgas, hwallet⟩
  obtain ⟨hpass, hassets⟩ := (limits_iff hls).mp ⟨hunits, hstructure, habove⟩
  have hsome : p.limits = ls := by rw [Policy.limits, hls, Option.getD_some]
  rw [hsome] at hnlimits
  have hgood : ∀ l ∈ ls, l.Good := fun l hl => (limit_iff l).mp ⟨hnlimits l hl, hpass l hl⟩
  have hchain : List.IsChain (· < ·) ("" :: ls.map (·.unit.asset)) := by
    refine List.isChain_cons.mpr ⟨?_, hassets⟩
    intro y hy
    obtain ⟨l, hl, rfl⟩ := List.mem_map.mp (List.mem_of_mem_head? hy)
    exact (hgood l hl).asset_pos
  -- The source row has a positive version, so the version of the policy is not zero.
  have hpositive : p.sourcePolicyVersion ≠ 0 := by
    intro hzero
    have hpos := s.positive
    rw [hversion, show (p.row host createdAt).sourcePolicyVersion =
      (p.sourcePolicyVersion.toNat : Int) from rfl, hzero] at hpos
    exact absurd hpos (by decide)
  rw [validate_iff, hsome]
  exact ⟨hpositive, hnumbers, validPolicyID_iff.mpr ⟨hnid, hid⟩, digest_iff.mpr ⟨hnhash, hhash⟩,
    hcount, validLimits_iff.mpr ⟨hgood, hchain⟩, hcaps, hmin⟩

/-- `Validate` accepts exactly the policies without NUL characters that the table accepts. So the
two agree on a policy unless the table accepts it with a NUL character in a text. -/
theorem table_agrees_with_validate_iff (host : HashHost) (db : RiskDb) (p : Policy)
    (createdAt : String) (hcreated : 0 < SqlText.length createdAt)
    (hsource : ∃ s ∈ db.canaryPolicies,
      s.version = p.sourcePolicyVersion.toNat ∧ s.policyHash = p.sourcePolicyHash)
    (hfresh : db.Fresh p) :
    (p.validate = true ↔ (p.row host createdAt).Accepted db ∧ p.NoNul) ∧
      ((p.validate = true ↔ (p.row host createdAt).Accepted db) ↔
        ((p.row host createdAt).Accepted db → p.NoNul)) := by
  have hvalidate : p.validate = true ↔ (p.row host createdAt).Accepted db ∧ p.NoNul :=
    ⟨fun h => ⟨accepted_of_validate hcreated hsource hfresh h, noNul_of_validate h⟩,
      fun h => validate_of_accepted h.2 h.1⟩
  refine ⟨hvalidate, ?_⟩
  rw [hvalidate]
  exact ⟨fun h haccepted => (h.mpr haccepted).2, fun h => ⟨And.left, fun ha => ⟨ha, h ha⟩⟩⟩

/-! ## A policy that only the table accepts -/

def hexText (c : Char) : String := String.ofList (List.replicate 64 c)

def sampleHost : HashHost where
  sha256 _ := hexText '0'
  hex _ := by decide +kernel

/-- A policy on one token and the native asset. -/
def samplePolicy (id : String) : Policy where
  id := id
  sourcePolicyVersion := 1
  sourcePolicyHash := hexText 'a'
  chainId := 4663
  protocol := "PONS_V2_CURVE"
  inputLimits := some
    [⟨⟨4663, "0x1111111111111111111111111111111111111111", 18, "TRADE_INPUT"⟩, "10", "20", "30"⟩,
      ⟨⟨4663, "native", 18, "TRADE_INPUT"⟩, "9", "10", "10"⟩]
  maxNativeGasPerOperation := "5"
  maxNativeWalletOutlay := "50"
  maxNativeGlobalOutlay := "500"
  minNativeBalance := "0"
  maxSellBps := 10000
  maxWalletOperationsWindow := 1
  maxGlobalOperationsWindow := 2
  windowSeconds := 3600

def sampleDb : RiskDb where
  canaryPolicies := [⟨1, hexText 'a', by decide, by decide, by decide +kernel⟩]
  manualRiskPolicies := []
  audits := []
  alerts := []

theorem sample_source (id : String) : ∃ s ∈ sampleDb.canaryPolicies,
    s.version = (samplePolicy id).sourcePolicyVersion.toNat ∧
      s.policyHash = (samplePolicy id).sourcePolicyHash :=
  ⟨_, List.mem_singleton_self _, rfl, rfl⟩

theorem sample_fresh (id : String) : sampleDb.Fresh (samplePolicy id) :=
  ⟨List.forall_mem_nil _, List.not_mem_nil, List.not_mem_nil⟩

/-- An identifier that ends in a NUL character passes the check of the column and not `validID`. -/
theorem nul_identifier_only_in_table :
    ((samplePolicy "manual\x00").row sampleHost "2026-01-01T00:00:00Z").Accepted sampleDb ∧
      (samplePolicy "manual\x00").validate = false := by
  refine ⟨accepted_of_parts ?_ (sample_source _) (sample_fresh _) ?_ ?_ ?_ ?_ ?_ ?_ ?_, ?_⟩ <;>
    decide +kernel

theorem sample_policy_agrees :
    (samplePolicy "manual").validate = true ∧
      ((samplePolicy "manual").row sampleHost "2026-01-01T00:00:00Z").Accepted sampleDb := by
  have hvalid : (samplePolicy "manual").validate = true := by decide +kernel
  exact ⟨hvalid, ((table_agrees_with_validate_iff sampleHost sampleDb (samplePolicy "manual")
    "2026-01-01T00:00:00Z" (by decide +kernel) (sample_source _) (sample_fresh _)).1.mp hvalid).1⟩

end RbhTrade.Risk
