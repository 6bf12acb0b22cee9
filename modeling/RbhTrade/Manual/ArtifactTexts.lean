import RbhTrade.Lib.TimeText
import RbhTrade.Store.ManualArtifact

/-!
# The texts of MANUAL artifacts

`Decode` accepts a text only if it is the canonical text of what it reads, so the accepted texts are
canonical. Every canonical text is accepted: `json.Unmarshal` reads each of the 36 fields back, and
the text stays within the limit of `Decode` with identifiers of 128 characters and 65536 bytes of
data. The authenticated text ends with 64 digits of a hash over all fields, so without a collision
it names the facts.
-/

namespace RbhTrade.ManualArtifact

open GoTime Hex Json

/-! ## Reading marshaled facts -/

theorem Facts.marshaled (f : Facts) : f.json.Marshaled := by
  refine Value.marshaled_struct ?_
  simp [Facts.members, Value.marshaled_text, Value.marshaled_nat, Value.Marshaled]

theorem decodeFacts_json (f : Facts) : decodeFacts f.json = some f := by
  have hmembers : members? f.json = some f.members := members?_struct _
  have hvalues := fieldValues_self factNames f.members rfl (by simp [factNames])
  simp only [Facts.members, List.forall_mem_cons] at hvalues
  obtain ⟨h₁, h₂, h₃, h₄, h₅, h₆, h₇, h₈, h₉, h₁₀, h₁₁, h₁₂, h₁₃, h₁₄, h₁₅, h₁₆, h₁₇, h₁₈, h₁₉, h₂₀,
    h₂₁, h₂₂, h₂₃, h₂₄, h₂₅, h₂₆, h₂₇, h₂₈, h₂₉, h₃₀, h₃₁, h₃₂, h₃₃, h₃₄, h₃₅, h₃₆, -⟩ := hvalues
  unfold decodeFacts
  rw [hmembers, Option.bind_eq_bind, Option.bind_some]
  unfold Facts.members
  simp only [h₁, h₂, h₃, h₄, h₅, h₆, h₇, h₈, h₉, h₁₀, h₁₁, h₁₂, h₁₃, h₁₄, h₁₅, h₁₆, h₁₇, h₁₈, h₁₉,
    h₂₀, h₂₁, h₂₂, h₂₃, h₂₄, h₂₅, h₂₆, h₂₇, h₂₈, h₂₉, h₃₀, h₃₁, h₃₂, h₃₃, h₃₄, h₃₅, h₃₆, fill_text,
    fill_nat (UInt64.toNat_lt _), fill_bool, Option.bind_eq_bind, Option.bind_some,
    UInt64.ofNat_toNat]

/-! ## The length of valid facts -/

theorem isPlain_of_isLower {c : Char} (h : c.isLower = true) : isPlain c = true := by
  obtain ⟨hlo, hhi⟩ := Bool.and_eq_true_iff.mp h
  exact isPlain_of_range 'a' 'z' (of_decide_eq_true hlo) (of_decide_eq_true hhi) (by decide)
    (by decide)

theorem isPlain_of_isUpper {c : Char} (h : c.isUpper = true) : isPlain c = true := by
  obtain ⟨hlo, hhi⟩ := of_decide_eq_true h
  exact isPlain_of_range 'A' 'Z' hlo hhi (by decide) (by decide)

variable {s : String} {f : Facts}

theorem fits_id (h : validID s = true) : (Value.text s).Fits 130 := by
  simp only [validID, Bool.and_eq_true, decide_eq_true_eq, List.all_eq_true] at h
  obtain ⟨⟨-, hsize⟩, hall⟩ := h
  have hplain : Plain s := by
    intro c hc
    have hchar := hall c hc
    simp only [idChar, Bool.or_eq_true, List.contains_iff_mem] at hchar
    obtain ((h | h) | h) | h := hchar
    · exact isPlain_of_isLower h
    · exact isPlain_of_isUpper h
    · exact isPlain_of_isDigit h
    · have hmarks : "._:-".toList.all isPlain = true := by decide
      exact List.all_eq_true.mp hmarks c h
  rw [SqlText.utf8ByteSize_eq_length fun c hc => utf8Size_of_isPlain (hplain c hc)] at hsize
  exact Value.fits_text hplain hsize

theorem fits_hex (hhex : ∀ c ∈ s.toList, isHex c = true) {n : Nat} (hn : s.length ≤ n) :
    (Value.text s).Fits (n + 2) :=
  Value.fits_text (fun c hc => isPlain_of_isHex (hhex c hc)) hn

theorem fixedDigits_iff {cs : List Char} {size : Nat} (h : fixedDigits cs size = true) :
    cs.length = size ∧ ∀ c ∈ cs, isHex c = true := by
  simp only [fixedDigits, Bool.and_eq_true, decide_eq_true_eq] at h
  obtain ⟨⟨⟨hsize, -⟩, hdecoded⟩, -⟩ := h
  have hhex := isHex_of_decode hdecoded
  rw [SqlText.utf8ByteSize_eq_length (by simpa using fun c hc => utf8Size_of_isHex (hhex c hc)),
    String.length_ofList] at hsize
  exact ⟨hsize, hhex⟩

theorem fits_fixedHex {size : Nat} (h : fixedHex s size = true) :
    (Value.text s).Fits (size + 2) := by
  obtain ⟨hlength, hhex⟩ := fixedDigits_iff h
  exact fits_hex hhex (le_of_eq (String.length_toList.symm.trans hlength))

theorem marked?_eq_some {digits : List Char} (h : marked? s = some digits) :
    s.toList = '0' :: 'x' :: digits := by
  unfold marked? at h
  split at h
  · rename_i ds hs
    rw [hs, Option.some.inj h]
  · cases h

/-- A marked text of hexadecimal digits. -/
theorem fits_marked {digits : List Char} (h : marked? s = some digits)
    (hhex : ∀ c ∈ digits, isHex c = true) {n : Nat} (hn : digits.length ≤ n) :
    (Value.text s).Fits (n + 4) := by
  have hs := marked?_eq_some h
  refine Value.fits_text (n := n + 2) (fun c hc => ?_) ?_
  · rw [hs] at hc
    rcases List.mem_cons.mp hc with rfl | hc
    · decide
    rcases List.mem_cons.mp hc with rfl | hc
    · decide
    · exact isPlain_of_isHex (hhex c hc)
  · rw [← String.length_toList, hs, List.length_cons, List.length_cons]
    omega

theorem fits_markedHex {size : Nat} (h : markedHex s size = true) :
    (Value.text s).Fits (size + 4) := by
  unfold markedHex at h
  split at h
  · rename_i digits hdigits
    obtain ⟨hlength, hhex⟩ := fixedDigits_iff h
    exact fits_marked hdigits hhex (le_of_eq hlength)
  · cases h

theorem fits_address (h : address s = true) : (Value.text s).Fits 44 := by
  unfold address at h
  split at h
  · rename_i digits hdigits
    simp only [Bool.and_eq_true, decide_eq_true_eq, List.all_eq_true] at h
    exact fits_marked hdigits h.1.2 (le_of_eq h.1.1.2)
  · cases h

theorem fits_nonce (h : (nonce? s).isSome = true) : (Value.text s).Fits 22 := by
  unfold nonce? at h
  split at h
  · rename_i n hn
    split at h
    · rename_i hlt
      rw [Decimal.canonical?_eq_some.mp hn]
      exact Value.fits_decimal (by decide) (lt_trans hlt (by decide))
    · cases h
  · cases h

theorem fits_time {t : Instant} (h : canonicalTime s = some t) :
    (Value.text s).Fits 32 := by
  unfold canonicalTime at h
  split at h
  · obtain ⟨⟨-, hlow, hhigh, rfl⟩, -⟩ := Option.ite_none_right_eq_some.mp h
    rename_i t _
    have hyear : FourDigitYear t := ⟨by omega, by omega⟩
    refine Value.fits_text (fun c hc => ?_) (length_format hyear)
    rcases mem_format hyear hc with hdigit | hmark
    · exact isPlain_of_isDigit hdigit
    · have hmarks : ['-', 'T', ':', '.', 'Z'].all isPlain = true := by decide
      exact List.all_eq_true.mp hmarks c hmark
  · cases h

theorem fits_data (h : f.validData = true) : (Value.text f.data).Fits 131076 := by
  unfold Facts.validData at h
  split at h
  · rename_i digits hdigits
    simp only [Bool.and_eq_true, decide_eq_true_eq] at h
    obtain ⟨⟨⟨-, hsize⟩, -⟩, hdecoded⟩ := h
    have hhex := isHex_of_decode hdecoded
    have hs := marked?_eq_some hdigits
    have hchars : ∀ c ∈ f.data.toList, c.utf8Size = 1 := by
      simp only [hs, List.forall_mem_cons]
      exact ⟨by decide, by decide, fun c hc => utf8Size_of_isHex (hhex c hc)⟩
    have hlength := congrArg List.length hs
    rw [SqlText.utf8ByteSize_eq_length hchars, maxDataBytes] at hsize
    rw [String.length_toList, List.length_cons, List.length_cons] at hlength
    exact fits_marked hdigits hhex (by omega)
  · cases h

theorem fits_amount {n : Nat} (h : u256 s = some n) : (Value.text s).Fits 80 := by
  obtain ⟨rfl, hlt⟩ := u256_eq_some.mp h
  exact Value.fits_decimal (by decide) (lt_of_lt_of_le hlt (by decide))

theorem Facts.fits_amounts (h : f.validAmounts = true) :
    (Value.text f.value).Fits 80 ∧ (Value.text f.gasFeeCap).Fits 80 ∧
      (Value.text f.gasTipCap).Fits 80 := by
  unfold Facts.validAmounts at h
  split at h
  · rename_i value fee tip hvalue hfee htip
    exact ⟨fits_amount hvalue, fits_amount hfee, fits_amount htip⟩
  · cases h

theorem Facts.fits_times (h : f.validTimes = true) :
    (Value.text f.expiresAt).Fits 32 ∧ (Value.text f.claimedAt).Fits 32 ∧
      (Value.text f.deadlineCapability).Fits 22 := by
  unfold Facts.validTimes at h
  split at h
  · rename_i expires claimed hexpires hclaimed
    simp only [Bool.and_eq_true, decide_eq_true_eq] at h
    refine ⟨fits_time hexpires, fits_time hclaimed, ?_⟩
    rw [h.1.2]
    exact Value.fits_text (by decide) (by decide)
  · cases h

theorem Facts.fits_build (h : fixedHex f.buildSha 40 = true ∨ fixedHex f.buildSha 64 = true) :
    (Value.text f.buildSha).Fits 66 :=
  h.elim (fun h => (fits_fixedHex h).mono (by decide)) fits_fixedHex

/-- The longest text of each field. -/
def factBounds : List Nat :=
  [20, 130, 130, 130, 130, 130, 130, 66, 20, 44, 44, 80, 131076, 22, 20, 80, 80, 20, 66, 20, 68, 68,
    32, 32, 66, 22, 5, 130, 20, 130, 66, 66, 130, 66, 130, 130]

/-- The text of valid facts is within the limit of `Decode`. -/
theorem Facts.fits (h : f.validate = true) : f.json.Fits (2 * maxDataBytes + 8192) := by
  simp only [Facts.validate, Bool.and_eq_true, List.all_eq_true] at h
  obtain ⟨⟨⟨⟨⟨⟨hids, hidentity⟩, hhashes⟩, hnonce⟩, htimes⟩, hdata⟩, hamounts⟩ := h
  simp only [Facts.ids, List.forall_mem_cons] at hids
  obtain ⟨hoperation, hrequest, hstep, hattempt, hwallet, hreservation, hauthorization, hpolicy,
    henvironment, hrelease, hdeployment, -⟩ := hids
  simp only [Facts.validIdentity, Bool.and_eq_true] at hidentity
  obtain ⟨⟨⟨⟨⟨⟨-, hsender⟩, hrecipient⟩, -⟩, -⟩, -⟩, -⟩ := hidentity
  simp only [Facts.validHashes, Bool.and_eq_true, Bool.or_eq_true] at hhashes
  obtain ⟨⟨⟨⟨⟨⟨⟨hcontract, hsource⟩, hclaim⟩, hrisk⟩, hgates⟩, hblock⟩, hcode⟩, hbuild⟩ := hhashes
  obtain ⟨hvalue, hfee, htip⟩ := Facts.fits_amounts hamounts
  obtain ⟨hexpires, hclaimed, hdeadline⟩ := Facts.fits_times htimes
  exact Value.fits_struct factNames factBounds rfl (by decide +kernel) (by decide +kernel)
    (.cons (Value.fits_uint64 _) <| .cons (fits_id hoperation) <| .cons (fits_id hrequest) <|
      .cons (fits_id hstep) <| .cons (fits_id hattempt) <| .cons (fits_id hwallet) <|
      .cons (fits_id hreservation) <| .cons (fits_fixedHex hcontract) <|
      .cons (Value.fits_uint64 _) <| .cons (fits_address hsender) <|
      .cons (fits_address hrecipient) <| .cons hvalue <| .cons (fits_data hdata) <|
      .cons (fits_nonce hnonce) <| .cons (Value.fits_uint64 _) <| .cons hfee <| .cons htip <|
      .cons (Value.fits_uint64 _) <| .cons (fits_fixedHex hsource) <| .cons (Value.fits_uint64 _) <|
      .cons (fits_markedHex hblock) <| .cons (fits_markedHex hcode) <| .cons hexpires <|
      .cons hclaimed <| .cons (fits_fixedHex hclaim) <| .cons hdeadline <|
      .cons (Value.fits_bool _) <| .cons (fits_id hauthorization) <| .cons (Value.fits_uint64 _) <|
      .cons (fits_id hpolicy) <| .cons (fits_fixedHex hrisk) <| .cons (fits_fixedHex hgates) <|
      .cons (fits_id henvironment) <| .cons (Facts.fits_build hbuild) <| .cons (fits_id hrelease) <|
      .cons (fits_id hdeployment) .nil)

/-! ## `Decode` and `AAD` -/

theorem Facts.canonical_eq (sum : Sum256) (h : f.validate = true) :
    f.canonical sum = some (f.marshal, digest sum f.marshal) := if_pos h

theorem decodeText_marshal (sum : Sum256) (h : f.validate = true) :
    decodeText sum f.marshal = some f := by
  have hsize : ¬ 2 * maxDataBytes + 8192 < f.marshal.utf8ByteSize :=
    not_lt.mpr (Facts.fits h).utf8ByteSize_le
  have hdecoded : (parse f.marshal).bind decodeFacts = some f := by
    rw [Facts.marshal, parse_render f.marshaled, Option.bind_some, decodeFacts_json]
  unfold decodeText
  rw [if_neg hsize, hdecoded]
  dsimp only
  rw [Facts.canonical_eq sum h]
  dsimp only
  rw [if_neg (not_not_intro rfl)]

theorem canonical_of_decodeText {sum : Sum256} {raw : String} (h : decodeText sum raw = some f) :
    f.canonical sum = some (raw, digest sum raw) := by
  unfold decodeText at h
  obtain ⟨-, h⟩ := Option.ite_none_left_eq_some.mp h
  split at h
  · cases h
  · split at h
    · cases h
    · rename_i g _ canonical hash hcanonical
      obtain ⟨hsame, h⟩ := Option.ite_none_left_eq_some.mp h
      obtain rfl := Option.some.inj h
      obtain rfl := not_not.mp hsame
      obtain ⟨-, hpair⟩ := Option.ite_none_right_eq_some.mp hcanonical
      obtain ⟨hmarshal, -⟩ := Prod.mk.inj (Option.some.inj hpair)
      rw [hcanonical, ← hpair, hmarshal]

theorem Facts.marshal_injective : Function.Injective Facts.marshal := by
  intro f g h
  have hjson : f.json = g.json := by
    have hf := parse_render f.marshaled
    rw [← Facts.marshal, h, Facts.marshal, parse_render g.marshaled] at hf
    exact (Option.some.inj hf).symm
  have hdecoded := decodeFacts_json f
  rw [hjson, decodeFacts_json] at hdecoded
  exact (Option.some.inj hdecoded).symm

theorem digest_inj {sum : Sum256} {a b : String} :
    digest sum a = digest sum b ↔ sum a.toByteArray = sum b.toByteArray := by
  rw [digest, digest, String.ofList_inj, encode_injective.eq_iff, Vector.toList_inj]

theorem length_digest (sum : Sum256) (text : String) : (digest sum text).toList.length = 64 := by
  rw [digest, String.toList_ofList, length_encode, Vector.length_toList]

theorem Facts.aad_eq (sum : Sum256) (h : f.validate = true) :
    f.aad sum = some ("rbh:4663:" ++ f.operationId ++ ":" ++ f.executionStepId ++ ":" ++
    f.attemptId ++
      ":manual:v1:" ++ digest sum f.marshal) := by
  unfold Facts.aad
  rw [Facts.canonical_eq sum h]

/-- The authenticated text ends with the hash of the canonical one. -/
theorem digest_of_aad {sum : Sum256} {g : Facts} (hf : f.validate = true) (hg : g.validate = true)
    (h : f.aad sum = g.aad sum) : digest sum f.marshal = digest sum g.marshal := by
  have htexts := (Facts.aad_eq sum hf).symm.trans (h.trans (Facts.aad_eq sum hg))
  have hlist := congrArg String.toList (Option.some.inj htexts)
  rw [String.toList_append (t := digest sum f.marshal),
    String.toList_append (t := digest sum g.marshal)] at hlist
  refine String.toList_inj.mp (List.append_inj' hlist ?_).2
  rw [length_digest, length_digest]

/-- `Decode` reads the canonical text of valid facts back and accepts canonical texts only. The
authenticated texts of valid facts are those of the same facts, unless the hashes of their canonical
texts collide. -/
theorem decode_canonical_and_aad (sum : Sum256) :
    (∀ f : Facts, f.validate = true → ∃ text hash, f.canonical sum = some (text, hash) ∧
      decodeText sum text = some f) ∧
    (∀ (s : String) (f : Facts), decodeText sum s = some f →
      ∃ hash, f.canonical sum = some (s, hash)) ∧
    ∀ f g : Facts, f.validate = true → g.validate = true →
      (sum f.marshal.toByteArray = sum g.marshal.toByteArray →
        f.marshal.toByteArray = g.marshal.toByteArray) →
      (f.aad sum = g.aad sum ↔ f = g) := by
  refine ⟨fun f h => ⟨_, _, f.canonical_eq sum h, decodeText_marshal sum h⟩,
    fun s f h => ⟨_, canonical_of_decodeText h⟩, fun f g hf hg hcollision => ⟨fun h => ?_, ?_⟩⟩
  · have hsum := digest_inj.mp (digest_of_aad hf hg h)
    exact Facts.marshal_injective (String.toByteArray_inj.mp (hcollision hsum))
  · rintro rfl
    rfl

end RbhTrade.ManualArtifact
