import RbhTrade.Api.Model

/-!
# Two readers and a writer of amounts

`decimal` and `human` accept the same notation: digits without a leading zero, and after a point at
most as many places as the asset has. `Units` writes it without trailing zeros. What is written
without trailing zeros is determined by the number of units, so canonical texts stand for amounts.
-/

namespace RbhTrade.Api

open FixedPoint Query

/-! ## Accepted texts -/

theorem utf8Size_of_isDigit {c : Char} (h : c.isDigit = true) : c.utf8Size = 1 := by
  have := Hex.isDigit_iff_toNat.mp h
  exact Hex.utf8Size_of_toNat (by omega)

theorem size_eq_length {part : List Char} (h : ∀ c ∈ part, c.isDigit = true) :
    size part = part.length := by
  rw [size, SqlText.utf8ByteSize_eq_length, String.length_ofList]
  simpa using fun c hc => utf8Size_of_isDigit (h c hc)

variable {f w : List Char} {p u : Nat} {v : String} {z : Bool}

theorem utf8ByteSize_written (h : Written p u v.toList w f) :
    v.utf8ByteSize = v.length := by
  refine SqlText.utf8ByteSize_eq_length fun c hc => ?_
  rcases h.isDigit_or_point c hc with hc | rfl
  · exact utf8Size_of_isDigit hc
  · decide

theorem intercalate_splitPoint (v : String) :
    List.intercalate ['.'] (splitPoint v) = v.toList :=
  List.intercalate_splitOn '.'

/-- The parts of a text are one or two. -/
theorem splitPoint_cases (v : String) (h : (splitPoint v).length ≤ 2) :
    (∃ w, splitPoint v = [w] ∧ v.toList = w) ∨
      ∃ w f, splitPoint v = [w, f] ∧ v.toList = w ++ '.' :: f := by
  have hjoined := intercalate_splitPoint v
  have hne : splitPoint v ≠ [] := List.splitOn_ne_nil _ _
  match hs : splitPoint v with
  | [] => exact absurd hs hne
  | [w] =>
      rw [hs] at hjoined
      exact .inl ⟨w, rfl, by simpa using hjoined.symm⟩
  | [w, f] =>
      rw [hs] at hjoined
      exact .inr ⟨w, f, rfl, by simpa using hjoined.symm⟩
  | _ :: _ :: _ :: _ =>
      rw [hs] at h
      simp at h

theorem bigInt?_digits {cs : List Char} (hne : cs ≠ []) (hdigits : ∀ c ∈ cs, c.isDigit = true)
    {n : Int} : Decimal.bigInt? (String.ofList cs) = some n ↔
      ∃ m : Nat, n = m ∧ Decimal.digitsFrom 0 cs = some m := by
  obtain ⟨m, hm⟩ := Decimal.digitsFrom_of_isDigit hdigits 0
  rw [Decimal.bigInt?_of_digits (by rwa [String.toList_ofList]) (by rwa [String.toList_ofList]), hm]
  simp [eq_comm]

/-- The checks that both readers make of the parts of a text. -/
structure Parts (p u : Nat) (w f : List Char) : Prop where
  whole : w ≠ []
  lead : ¬ (1 < size w ∧ w.head? = some '0')
  fits : size f ≤ p
  wholeDigits : w.all Char.isDigit = true
  digits : f.all Char.isDigit = true
  units : Decimal.bigInt? (String.ofList (w ++ f ++ List.replicate (p - size f) '0')) =
    some (u : Int)

theorem Parts.written (h : Parts p u w f) :
    Written p u (write w f) w f := by
  have hw : ∀ c ∈ w, c.isDigit = true := List.all_eq_true.mp h.wholeDigits
  have hf : ∀ c ∈ f, c.isDigit = true := List.all_eq_true.mp h.digits
  have hfits := h.fits
  have hlead := h.lead
  have hunits := h.units
  rw [size_eq_length hf] at hfits hunits
  rw [size_eq_length hw] at hlead
  rw [bigInt?_digits (by simp [h.whole])] at hunits
  · obtain ⟨m, hm, hvalue⟩ := hunits
    rw [Int.ofNat.inj hm]
    exact Written.of_value ⟨h.whole, hw, fun hlen hzero => hlead ⟨hlen, hzero⟩⟩ hf hfits
      (by rwa [← List.append_assoc])
  · intro c hc
    rcases List.mem_append.mp hc with hc | hc
    · rcases List.mem_append.mp hc with hc | hc
      · exact hw c hc
      · exact hf c hc
    · rw [List.eq_of_mem_replicate hc]
      decide

theorem parts_of_written {cs : List Char} (h : Written p u cs w f) : Parts p u w f := by
  have hw := h.places.whole.digits
  have hf := h.digits
  constructor
  · exact h.places.whole.ne_nil
  · rintro ⟨hlen, hzero⟩
    rw [size_eq_length hw] at hlen
    exact h.places.whole.lead hlen hzero
  · rw [size_eq_length hf]
    exact h.fits
  · exact List.all_eq_true.mpr hw
  · exact List.all_eq_true.mpr hf
  · rw [size_eq_length hf, List.append_assoc]
    exact Decimal.bigInt?_of_digits (by rw [String.toList_ofList]; exact h.places.value)
      (by simp [h.places.whole.ne_nil])

theorem splitPoint_written (h : Written p u v.toList w f) :
    splitPoint v = if f ≠ [] then [w, f] else [w] := by
  rw [splitPoint, h.text, splitOn_write h.places.whole.digits h.digits]

/-- What the readers find in the parts of a written number. -/
theorem splitPoint_spec (h : Written p u v.toList w f) :
    (splitPoint v).length ≤ 2 ∧ (splitPoint v).headD [] = w ∧ (splitPoint v).getD 1 [] = f ∧
      ((splitPoint v).length = 2 → f ≠ []) ∧
      (splitPoint v).all (fun part => part.all Char.isDigit) = true := by
  have hparts := parts_of_written h
  rw [splitPoint_written h]
  by_cases hf : f = []
  · subst hf
    simp [hparts.wholeDigits]
  · simp [hf, hparts.wholeDigits, hparts.digits]

theorem write_eq_nil (h : write w f = []) : w = [] := by
  unfold write at h
  split at h
  · exact (List.append_eq_nil_iff.mp h).1
  · exact h

/-- `decimal` accepts the written numbers of at most 256 characters. -/
theorem decimal_eq_some {c : String} :
    decimal v p z = some (c, u) ↔ p ≤ 255 ∧ v.length ≤ 256 ∧ (z = false → u ≠ 0) ∧
      ∃ w f, Written p u v.toList w f ∧ c = String.ofList (write w (trim f)) := by
  constructor
  · intro h
    unfold decimal at h
    rw [guard_bind] at h
    obtain ⟨⟨-, hsize, hp⟩, h⟩ := h
    dsimp only at h
    rw [guard_bind] at h
    obtain ⟨⟨hparts, hwhole, hlead⟩, h⟩ := h
    rw [guard_bind] at h
    obtain ⟨hfrac, h⟩ := h
    rw [guard_bind] at h
    obtain ⟨hdigits, h⟩ := h
    obtain ⟨n, hn, h⟩ := Option.bind_eq_some_iff.mp h
    rw [guard_bind] at h
    obtain ⟨⟨hpos, hzero⟩, h⟩ := h
    obtain ⟨rfl, rfl⟩ := Prod.mk.inj (Option.some.inj h)
    obtain ⟨m, rfl⟩ := Int.eq_ofNat_of_zero_le hpos
    have hnonzero : z = false → m ≠ 0 := fun hz hm => hzero hz (by rw [hm]; rfl)
    rcases splitPoint_cases v hparts with ⟨w, hs, hv⟩ | ⟨w, f, hs, hv⟩
    · rw [hs] at hwhole hlead hdigits hn ⊢
      have hwritten := Parts.written (p := p) (u := m) (w := w) (f := [])
        ⟨hwhole, hlead, Nat.zero_le p, by simpa using hdigits, rfl, hn⟩
      have htext : v.toList = write w [] := hv
      rw [← htext] at hwritten
      refine ⟨hp, utf8ByteSize_written hwritten ▸ hsize, hnonzero, w, [], hwritten, rfl⟩
    · rw [hs] at hwhole hlead hfrac hdigits hn ⊢
      obtain ⟨hne, hfits⟩ := hfrac rfl
      simp only [List.all_cons, List.all_nil, Bool.and_true, Bool.and_eq_true] at hdigits
      have hwritten := Parts.written (p := p) (u := m) (w := w) (f := f)
        ⟨hwhole, hlead, hfits, hdigits.1, hdigits.2, hn⟩
      have htext : v.toList = write w f := by
        rw [hv, write]
        exact (if_pos hne).symm
      rw [← htext] at hwritten
      refine ⟨hp, utf8ByteSize_written hwritten ▸ hsize, hnonzero, w, f, hwritten, rfl⟩
  · rintro ⟨hp, hlen, hzero, w, f, hv, rfl⟩
    have hparts := parts_of_written hv
    have hne : v ≠ "" := by
      rintro rfl
      exact hparts.whole (write_eq_nil hv.text.symm)
    obtain ⟨hlength, hhead, hfrac, htwo, hdigits⟩ := splitPoint_spec hv
    have hunits : (0 : Int) ≤ u ∧ (z = false → (u : Int) ≠ 0) :=
      ⟨Int.natCast_nonneg u, fun hz hu => hzero hz (Int.ofNat.inj hu)⟩
    unfold decimal
    rw [guard_bind]
    refine ⟨⟨hne, utf8ByteSize_written hv ▸ hlen, hp⟩, ?_⟩
    dsimp only
    rw [hhead, hfrac, guard_bind]
    refine ⟨⟨hlength, hparts.whole, hparts.lead⟩, ?_⟩
    rw [guard_bind]
    refine ⟨fun h => ⟨htwo h, hparts.fits⟩, ?_⟩
    rw [guard_bind]
    refine ⟨hdigits, ?_⟩
    rw [hparts.units]
    exact guard_bind.mpr ⟨hunits, rfl⟩

theorem positive_eq_some {cs : List Char} :
    human.positive cs = some u ↔
      Decimal.bigInt? (String.ofList cs) = some (u : Int) ∧ 0 < u ∧ u < 2 ^ 256 := by
  unfold human.positive
  constructor
  · intro h
    split at h
    · rename_i x hx
      obtain ⟨hbounds, h⟩ := Option.ite_none_left_eq_some.mp h
      obtain rfl := Option.some.inj h
      rw [not_or, Int.not_le, Int.not_le] at hbounds
      obtain ⟨hpos, hlt⟩ := hbounds
      rw [hx, Int.toNat_of_nonneg (by omega)]
      exact ⟨rfl, by omega, by omega⟩
    · cases h
  · rintro ⟨hx, hpos, hlt⟩
    rw [hx]
    exact if_neg (by omega)

/-- The text whose parts pass the checks is the one that is written with them. -/
theorem Parts.written_text {s : String} (h : Parts p u w f) (htext : s.toList = write w f) :
    Written p u s.toList w f :=
  htext ▸ h.written

/-- What `human` accepts is a written number. -/
theorem written_of_human {s : String} {d : UInt8} (h : human s d = some u) :
    s.utf8ByteSize ≤ 256 ∧ 0 < u ∧ u < 2 ^ 256 ∧ ∃ w f, Written d.toNat u s.toList w f := by
  have hjoined := intercalate_splitPoint s
  unfold human at h
  obtain ⟨hsize, h⟩ := Option.ite_none_left_eq_some.mp h
  simp only [not_or, Nat.not_lt] at hsize
  split at h
  · rename_i w hs
    obtain ⟨hchecks, h⟩ := Option.ite_none_left_eq_some.mp h
    simp only [not_or, Bool.not_eq_false] at hchecks
    obtain ⟨hwhole, hlead, hdigits⟩ := hchecks
    obtain ⟨hvalue, hpos, hlt⟩ := positive_eq_some.mp h
    have hparts : Parts d.toNat u w [] :=
      ⟨hwhole, hlead, Nat.zero_le _, hdigits, rfl, by simpa [size] using hvalue⟩
    have htext : s.toList = write w [] := by
      rw [← hjoined, hs]
      simp [write]
    exact ⟨hsize.2, hpos, hlt, w, [], hparts.written_text htext⟩
  · rename_i w f hs
    obtain ⟨hchecks, h⟩ := Option.ite_none_left_eq_some.mp h
    simp only [not_or, Bool.not_eq_false, Nat.not_lt] at hchecks
    obtain ⟨hwhole, hlead, hne, hfits, hwdigits, hfdigits⟩ := hchecks
    obtain ⟨hvalue, hpos, hlt⟩ := positive_eq_some.mp h
    have hparts : Parts d.toNat u w f := ⟨hwhole, hlead, hfits, hwdigits, hfdigits, hvalue⟩
    have htext : s.toList = write w f := by
      rw [← hjoined, hs]
      simp [write, hne]
    exact ⟨hsize.2, hpos, hlt, w, f, hparts.written_text htext⟩
  · cases h

/-- `human` accepts the written positive numbers of at most 256 bits and 256 characters. -/
theorem human_eq_some {s : String} {d : UInt8} :
    human s d = some u ↔ s.length ≤ 256 ∧ 0 < u ∧ u < 2 ^ 256 ∧
      ∃ w f, Written d.toNat u s.toList w f := by
  constructor
  · intro h
    obtain ⟨hsize, hpos, hlt, w, f, hwritten⟩ := written_of_human h
    exact ⟨utf8ByteSize_written hwritten ▸ hsize, hpos, hlt, w, f, hwritten⟩
  · rintro ⟨hlen, hpos, hlt, w, f, hs⟩
    have hparts := parts_of_written hs
    have hne : s ≠ "" := by
      rintro rfl
      exact hparts.whole (write_eq_nil hs.text.symm)
    have hlead := not_and.mp hparts.lead
    unfold human
    rw [if_neg (by simp [hne, utf8ByteSize_written hs, hlen]), splitPoint_written hs]
    by_cases hf : f = []
    · subst hf
      have hvalue := hparts.units
      simp only [ne_eq, not_true_eq_false, if_false]
      rw [if_neg (by simp [hparts.whole, hparts.wholeDigits]; exact hlead)]
      exact positive_eq_some.mpr ⟨by simpa [size] using hvalue, hpos, hlt⟩
    · simp only [ne_eq, hf, not_false_eq_true, if_true]
      rw [if_neg (by
        simp [hparts.whole, hparts.wholeDigits, hparts.digits, hparts.fits]
        exact hlead)]
      exact positive_eq_some.mpr ⟨hparts.units, hpos, hlt⟩

theorem humanUnits_eq_some {s t : String} {d : UInt8} : humanUnits s d = some t ↔
    ∃ c u, decimal s d.toNat false = some (c, u) ∧ u < 2 ^ 256 ∧ t = toString u := by
  unfold humanUnits
  constructor
  · intro h
    obtain ⟨⟨c, u⟩, hdecimal, h⟩ := Option.bind_eq_some_iff.mp h
    obtain ⟨hlt, h⟩ := guard_bind.mp h
    exact ⟨c, u, hdecimal, hlt, (Option.some.inj h).symm⟩
  · rintro ⟨c, u, hdecimal, hlt, rfl⟩
    exact Option.bind_eq_some_iff.mpr ⟨(c, u), hdecimal, guard_bind.mpr ⟨hlt, rfl⟩⟩

theorem humanUnits_eq_human (s : String) (d : UInt8) :
    humanUnits s d = (human s d).map toString := by
  refine Option.ext fun t => ?_
  rw [humanUnits_eq_some, Option.map_eq_some_iff]
  constructor
  · rintro ⟨c, u, hdecimal, hlt, rfl⟩
    obtain ⟨-, hlen, hzero, w, f, hs, -⟩ := decimal_eq_some.mp hdecimal
    exact ⟨u, human_eq_some.mpr ⟨hlen, Nat.pos_of_ne_zero (hzero rfl), hlt, w, f, hs⟩, rfl⟩
  · rintro ⟨u, hhuman, rfl⟩
    obtain ⟨hlen, hpos, hlt, w, f, hs⟩ := human_eq_some.mp hhuman
    exact ⟨_, u, decimal_eq_some.mpr ⟨Nat.le_of_lt_succ d.toNat_lt, hlen,
      fun _ => Nat.ne_of_gt hpos, w, f, hs, rfl⟩, hlt, rfl⟩

/-! ## Canonical texts -/

theorem length_canonical_le (h : Written p u v.toList w f) :
    (String.ofList (write w (trim f))).length ≤ v.length := by
  rw [String.length_ofList, ← String.length_toList, h.text]
  exact length_write_trim_le w f

/-- The canonical text is accepted with the same units and is its own canonical text. -/
theorem decimal_canonical {c : String} (h : decimal v p z = some (c, u)) :
    decimal c p z = some (c, u) := by
  obtain ⟨hp, hlen, hzero, w, f, hv, rfl⟩ := decimal_eq_some.mp h
  refine decimal_eq_some.mpr ⟨hp, le_trans (length_canonical_le hv) hlen, hzero, w, trim f, ?_, ?_⟩
  · rw [String.toList_ofList]
    exact hv.trim
  · rw [trim_trim]

theorem decimal_canonical_iff {v' c c' : String} {u' : Nat} {z' : Bool}
    (h : decimal v p z = some (c, u)) (h' : decimal v' p z' = some (c', u')) : c = c' ↔ u = u' := by
  obtain ⟨-, -, -, w, f, hv, rfl⟩ := decimal_eq_some.mp h
  obtain ⟨-, -, -, w', f', hv', rfl⟩ := decimal_eq_some.mp h'
  rw [String.ofList_inj]
  constructor
  · intro hc
    exact hv.trim.units_eq (hc ▸ hv'.trim)
  · rintro rfl
    exact hv.write_trim_inj hv'

theorem canonical_ne_empty {c : String} (h : decimal v p z = some (c, u)) :
    c ≠ "" := by
  obtain ⟨-, -, -, w, f, hv, rfl⟩ := decimal_eq_some.mp h
  intro hc
  refine hv.places.whole.ne_nil (write_eq_nil (f := trim f) ?_)
  exact String.ofList_inj.mp hc

/-! ## Normal forms -/

theorem optional_canonical {t : String} {u : Option Nat} (h : optional v p z = some (t, u)) :
    optional t p z = some (t, u) := by
  unfold optional at h
  split at h
  · obtain ⟨rfl, rfl⟩ := Prod.mk.inj (Option.some.inj h)
    rfl
  · obtain ⟨⟨c, n⟩, hdecimal, h⟩ := Option.map_eq_some_iff.mp h
    obtain ⟨rfl, rfl⟩ := Prod.mk.inj h
    rw [optional, if_neg (canonical_ne_empty hdecimal), decimal_canonical hdecimal]
    rfl

theorem optional_eq_empty {t : String} {u : Option Nat} (h : optional v p z = some (t, u)) :
    t = "" ↔ v = "" := by
  unfold optional at h
  split at h
  · rename_i hv
    obtain ⟨rfl, rfl⟩ := Prod.mk.inj (Option.some.inj h)
    simp [hv]
  · rename_i hv
    obtain ⟨⟨c, n⟩, hdecimal, h⟩ := Option.map_eq_some_iff.mp h
    obtain ⟨rfl, rfl⟩ := Prod.mk.inj h
    exact iff_of_false (canonical_ne_empty hdecimal) hv

theorem Fee.normalize_normalize {f f' : Fee} (h : f.normalize = some f') :
    f'.normalize = some f' := by
  unfold Fee.normalize at h
  rw [guard_bind] at h
  obtain ⟨hne, h⟩ := h
  obtain ⟨⟨maxGwei, max⟩, hmax, h⟩ := Option.bind_eq_some_iff.mp h
  dsimp only at h
  rw [guard_bind] at h
  obtain ⟨hbits, h⟩ := h
  obtain ⟨⟨tipGwei, tip⟩, htip, h⟩ := Option.bind_eq_some_iff.mp h
  dsimp only at h
  rw [guard_bind] at h
  obtain ⟨hle, h⟩ := h
  obtain ⟨⟨total, units⟩, htotal, h⟩ := Option.bind_eq_some_iff.mp h
  dsimp only at h
  rw [guard_bind] at h
  obtain ⟨hnative, h⟩ := h
  obtain rfl := Option.some.inj h
  have hempty : ¬ (maxGwei = "" ∧ tipGwei = "" ∧ total = "") := by
    rwa [optional_eq_empty hmax, optional_eq_empty htip, optional_eq_empty htotal]
  unfold Fee.normalize
  rw [optional_canonical hmax, optional_canonical htip, optional_canonical htotal]
  exact guard_bind.mpr ⟨hempty, guard_bind.mpr
    ⟨hbits, guard_bind.mpr ⟨hle, guard_bind.mpr ⟨hnative, rfl⟩⟩⟩⟩

theorem hex_toLower {c : Char} (h : Hex.isHex c = true) :
    Hex.isHex c.toLower = true ∧ c.toLower.toLower = c.toLower ∧ (c.toLower = '0' ↔ c = '0') := by
  have all : ∀ n < 128, Hex.isHex (Char.ofNat n) = true → Hex.isHex (Char.ofNat n).toLower = true ∧
      (Char.ofNat n).toLower.toLower = (Char.ofNat n).toLower ∧
      ((Char.ofNat n).toLower = '0' ↔ Char.ofNat n = '0') := by decide +kernel
  have hlt : c.toNat < 128 := by
    have := Hex.isHex_iff_toNat.mp h
    omega
  have hc := all c.toNat hlt
  rw [Char.ofNat_toNat] at hc
  exact hc h

theorem addressDigits_lowerAddress (token : String) :
    Operator.addressDigits (lowerAddress token) =
      (Operator.addressDigits token).map Char.toLower := by
  rw [Operator.addressDigits, lowerAddress, String.toList_ofList]
  rfl

/-- An address of hexadecimal digits stays one. -/
theorem lowerAddress_spec {token : String} (h : Operator.isHexAddress token = true) :
    Operator.isHexAddress (lowerAddress token) = true ∧ (lowerAddress token).utf8ByteSize = 42 ∧
      lowerAddress (lowerAddress token) = lowerAddress token ∧
      (Operator.addressDigits (lowerAddress token)).all (· = '0') =
        (Operator.addressDigits token).all (· = '0') := by
  simp only [Operator.isHexAddress, Bool.and_eq_true, decide_eq_true_eq, List.all_eq_true] at h
  obtain ⟨hlen, hhex⟩ := h
  refine ⟨?_, ?_, ?_, ?_⟩
  · rw [Operator.isHexAddress, addressDigits_lowerAddress]
    simp only [List.length_map, hlen, decide_true, Bool.true_and, List.all_map, List.all_eq_true,
      Function.comp_apply]
    exact fun c hc => (hex_toLower (hhex c hc)).1
  · have hsize : ∀ c ∈ (lowerAddress token).toList, c.utf8Size = 1 := by
      rw [lowerAddress, String.toList_ofList]
      simp only [List.forall_mem_cons, List.forall_mem_map]
      exact ⟨by decide, by decide, fun c hc => Hex.utf8Size_of_isHex (hex_toLower (hhex c hc)).1⟩
    rw [SqlText.utf8ByteSize_eq_length hsize, lowerAddress, String.length_ofList]
    simp [hlen]
  · rw [lowerAddress, addressDigits_lowerAddress, List.map_map, lowerAddress]
    congr 3
    exact List.map_congr_left fun c hc => (hex_toLower (hhex c hc)).2.1
  · rw [addressDigits_lowerAddress, List.all_map]
    refine Bool.eq_iff_iff.mpr ?_
    simp only [List.all_eq_true, Function.comp_apply, decide_eq_true_eq]
    exact ⟨fun h c hc => (hex_toLower (hhex c hc)).2.2.mp (h c hc),
      fun h c hc => (hex_toLower (hhex c hc)).2.2.mpr (h c hc)⟩

theorem Request.Shaped.lower {r : Request} (h : r.Shaped) :
    { r with token := lowerAddress r.token }.Shaped := by
  obtain ⟨hchain, hwallet, -, -, hhex, hzero, hside⟩ := h
  obtain ⟨hhex', hsize, -, hzero'⟩ := lowerAddress_spec hhex
  exact ⟨hchain, hwallet, hsize, by simp [lowerAddress], hhex', hzero'.trans hzero, hside⟩

/-- What a normal form keeps, and the fields that are put in canonical form. -/
structure Normalizes (r r' : Request) : Prop where
  shaped : r.Shaped
  exclusive : ¬ ((r.amount = "") ↔ (r.sellPercent = "")) ∧ ¬ (r.side = "buy" ∧ r.sellPercent ≠ "")
  kept : r' = { r with
    token := lowerAddress r.token, amount := r'.amount, sellPercent := r'.sellPercent,
    slippagePercent := r'.slippagePercent, minReceive := r'.minReceive, fee := r'.fee }
  amount : ∃ units, optional r.amount (if r.side = "buy" then 18 else 255) false =
    some (r'.amount, units) ∧
    (r.side = "buy" → units.isSome = true → (humanUnits r'.amount 18).isSome = true)
  sellPercent : ∃ bps, optional r.sellPercent 2 false = some (r'.sellPercent, bps) ∧
    ∀ b ∈ bps, b ≤ 10000
  slippage : ∃ slip, decimal r.slippagePercent 2 true = some (r'.slippagePercent, slip) ∧
    slip < 10000
  ttl : ∀ ttl ∈ r.ttlSeconds, ttl ≠ 0 ∧ ttl ≤ 86400
  minReceive : ∃ units, optional r.minReceive (if r.side = "sell" then 18 else 255) false =
    some (r'.minReceive, units)
  fee : normalizeFee r.fee = some r'.fee

theorem normalize_eq_some {r r' : Request} : normalize r = some r' ↔ Normalizes r r' := by
  constructor
  · intro h
    unfold normalize at h
    rw [guard_bind] at h
    obtain ⟨hshaped, h⟩ := h
    rw [guard_bind] at h
    obtain ⟨hexclusive, h⟩ := h
    obtain ⟨⟨amount, units⟩, hamount, h⟩ := Option.bind_eq_some_iff.mp h
    dsimp only at h
    rw [guard_bind] at h
    obtain ⟨hunits, h⟩ := h
    obtain ⟨⟨sellPercent, bps⟩, hsell, h⟩ := Option.bind_eq_some_iff.mp h
    dsimp only at h
    rw [guard_bind] at h
    obtain ⟨hbps, h⟩ := h
    obtain ⟨⟨slippage, slip⟩, hslippage, h⟩ := Option.bind_eq_some_iff.mp h
    dsimp only at h
    rw [guard_bind] at h
    obtain ⟨hslip, h⟩ := h
    rw [guard_bind] at h
    obtain ⟨httl, h⟩ := h
    have httl := fun ttl h => of_decide_eq_true ((Option.all_eq_true _ _).mp httl ttl h)
    obtain ⟨⟨minReceive, min⟩, hmin, h⟩ := Option.bind_eq_some_iff.mp h
    dsimp only at h
    obtain ⟨fee, hfee, h⟩ := Option.bind_eq_some_iff.mp h
    obtain rfl := Option.some.inj h
    exact ⟨hshaped, hexclusive, rfl, ⟨units, hamount, hunits⟩, ⟨bps, hsell, hbps⟩,
      ⟨slip, hslippage, hslip⟩, httl, ⟨min, hmin⟩, hfee⟩
  · rintro ⟨hshaped, hexclusive, hkept, ⟨units, hamount, hunits⟩, ⟨bps, hsell, hbps⟩,
      ⟨slip, hslippage, hslip⟩, httl, ⟨min, hmin⟩, hfee⟩
    unfold normalize
    rw [guard_bind]
    refine ⟨hshaped, ?_⟩
    rw [guard_bind]
    refine ⟨hexclusive, ?_⟩
    rw [hamount]
    refine guard_bind.mpr ⟨hunits, ?_⟩
    rw [hsell]
    refine guard_bind.mpr ⟨hbps, ?_⟩
    rw [hslippage]
    refine guard_bind.mpr ⟨hslip, ?_⟩
    refine guard_bind.mpr
      ⟨(Option.all_eq_true _ _).mpr fun ttl h => decide_eq_true (httl ttl h), ?_⟩
    refine Option.bind_eq_some_iff.mpr ⟨_, hmin, ?_⟩
    exact Option.bind_eq_some_iff.mpr ⟨r'.fee, hfee, congrArg some hkept.symm⟩

theorem normalizeFee_normalizeFee {f f' : Option Fee} (h : normalizeFee f = some f') :
    normalizeFee f' = some f' := by
  cases f with
  | none =>
      obtain rfl := Option.some.inj h
      rfl
  | some f =>
      obtain ⟨g, hg, rfl⟩ := Option.map_eq_some_iff.mp h
      exact Option.map_eq_some_iff.mpr ⟨g, Fee.normalize_normalize hg, rfl⟩

theorem Normalizes.again {r r' : Request} (h : Normalizes r r') : Normalizes r' r' := by
  have hkept := h.kept
  have hside : r'.side = r.side := by rw [hkept]
  have htoken : r'.token = lowerAddress r.token := by rw [hkept]
  have httl : r'.ttlSeconds = r.ttlSeconds := by rw [hkept]
  obtain ⟨units, hamount, hunits⟩ := h.amount
  obtain ⟨bps, hsell, hbps⟩ := h.sellPercent
  obtain ⟨slip, hslippage, hslip⟩ := h.slippage
  obtain ⟨min, hmin⟩ := h.minReceive
  constructor
  · obtain ⟨hchain, hwallet, hsize, hmark, hhex, hzero, -⟩ := h.shaped.lower
    rw [hkept]
    exact ⟨hchain, hwallet, hsize, hmark, hhex, hzero, h.shaped.2.2.2.2.2.2⟩
  · rw [optional_eq_empty hamount, hside, ne_eq, optional_eq_empty hsell]
    exact h.exclusive
  · have hlower : lowerAddress r'.token = r'.token := by
      rw [htoken]
      exact (lowerAddress_spec h.shaped.2.2.2.2.1).2.2.1
    rw [hlower]
  · rw [hside]
    exact ⟨units, optional_canonical hamount, hunits⟩
  · exact ⟨bps, optional_canonical hsell, hbps⟩
  · exact ⟨slip, decimal_canonical hslippage, hslip⟩
  · rw [httl]
    exact h.ttl
  · rw [hside]
    exact ⟨min, optional_canonical hmin⟩
  · exact normalizeFee_normalizeFee h.fee

/-- The two readers accept the same texts with the same units. The canonical text of an accepted one
is accepted with its units and canonical, and stands for its units. A normal form is its own. -/
theorem amounts_canonical :
    (∀ (s : String) (d : UInt8), humanUnits s d = (human s d).map toString) ∧
    (∀ (s c : String) (p u : Nat) (z : Bool), decimal s p z = some (c, u) →
      decimal c p z = some (c, u)) ∧
    (∀ (s t c c' : String) (p u u' : Nat) (z z' : Bool), decimal s p z = some (c, u) →
      decimal t p z' = some (c', u') → (c = c' ↔ u = u')) ∧
    ∀ r r' : Request, normalize r = some r' → normalize r' = some r' :=
  ⟨humanUnits_eq_human, fun _ _ _ _ _ => decimal_canonical,
    fun _ _ _ _ _ _ _ _ _ => decimal_canonical_iff,
    fun _ _ h => normalize_eq_some.mpr (normalize_eq_some.mp h).again⟩

/-! ## Written amounts -/

/-- The digits of a value, with zeros in front if they are not more than the places. -/
def padded (x d : Nat) : List Char :=
  let text := Nat.toDigits 10 x
  if text.length ≤ d then List.replicate (d - text.length + 1) '0' ++ text else text

theorem units_eq (x : Nat) (d : UInt8) :
    (units x d).toList = write ((padded x d.toNat).take ((padded x d.toNat).length - d.toNat))
      (trim ((padded x d.toNat).drop ((padded x d.toNat).length - d.toNat))) := by
  have hne : ¬ (Nat.toDigits 10 x).length ≤ 0 := Nat.not_le.mpr Nat.length_toDigits_pos
  unfold units
  rw [Decimal.toList_toString]
  dsimp only
  split
  · rename_i hd
    rw [hd, String.toList_ofList]
    simp [padded, hne, write, trim]
  · rw [apply_ite String.toList, String.toList_ofList, String.toList_ofList]
    unfold write
    rw [ite_not]
    rfl

theorem digitsFrom_padded (x d : Nat) : Decimal.digitsFrom 0 (padded x d) = some x := by
  unfold padded
  dsimp only
  split
  · rw [digitsFrom_append, digitsFrom_zeros, Nat.zero_mul, Option.bind_some,
      Decimal.digitsFrom_toDigits]
  · exact Decimal.digitsFrom_toDigits x

theorem isDigit_padded {x d : Nat} {c : Char} (h : c ∈ padded x d) : c.isDigit = true := by
  unfold padded at h
  dsimp only at h
  split at h
  · rcases List.mem_append.mp h with h | h
    · rw [List.eq_of_mem_replicate h]
      decide
    · exact Decimal.isDigit_toDigits h
  · exact Decimal.isDigit_toDigits h

theorem lt_length_padded (x d : Nat) : d < (padded x d).length := by
  unfold padded
  dsimp only
  split
  · rw [List.length_append, List.length_replicate]
    omega
  · omega

/-- Only a single zero leads the digits before the point. -/
theorem whole_padded (x d : Nat) : Whole ((padded x d).take ((padded x d).length - d)) := by
  have hlt := lt_length_padded x d
  refine ⟨?_, fun c hc => isDigit_padded (List.mem_of_mem_take hc), fun hlen => ?_⟩
  · intro hnil
    have := congrArg List.length hnil
    rw [List.length_take, List.length_nil] at this
    omega
  · rw [List.length_take] at hlen
    unfold padded at hlen ⊢
    dsimp only at hlen ⊢
    split at hlen
    · rw [List.length_append, List.length_replicate] at hlen
      omega
    · rename_i hlong
      rw [if_neg hlong, List.head?_take, if_neg (by omega)]
      exact (Whole.toDigits x).lead (by omega)

theorem units_written (x : Nat) (d : UInt8) :
    ∃ w f, Written d.toNat x (units x d).toList w f := by
  have hlt := lt_length_padded x d.toNat
  have hlen : ((padded x d.toNat).drop ((padded x d.toNat).length - d.toNat)).length = d.toNat := by
    rw [List.length_drop]
    omega
  have hwritten := Written.of_value (p := d.toNat) (u := x) (whole_padded x d.toNat)
    (fun c hc => isDigit_padded (List.mem_of_mem_drop hc)) (le_of_eq hlen)
    (by rw [hlen, Nat.sub_self, List.replicate_zero, List.append_nil, List.take_append_drop,
      digitsFrom_padded])
  rw [units_eq]
  exact ⟨_, _, hwritten.trim⟩

theorem length_write_le (w f : List Char) : (write w f).length ≤ w.length + f.length + 1 := by
  unfold write
  split
  · rw [List.length_append, List.length_cons]
    omega
  · omega

/-- The last place of a multiple of ten is trimmed. -/
theorem length_trim_padded_lt {x d : Nat} (hpos : 0 < x) (hten : x % 10 = 0) (hd : 0 < d) :
    (trim ((padded x d).drop ((padded x d).length - d))).length < d := by
  have hdigits : Nat.toDigits 10 x = Nat.toDigits 10 (x / 10) ++ ['0'] := by
    rw [Nat.toDigits_eq_if (by decide), if_neg (by omega), hten]
    rfl
  obtain ⟨t, ht⟩ : ∃ t, padded x d = t ++ ['0'] := by
    unfold padded
    dsimp only
    split
    · exact ⟨_, by rw [hdigits, ← List.append_assoc]⟩
    · exact ⟨_, hdigits⟩
  have hlt := lt_length_padded x d
  rw [ht, List.length_append, List.length_singleton] at hlt ⊢
  rw [List.drop_append_of_le_length (by omega)]
  have htrim := length_trim_le (t.drop (t.length + 1 - d))
  have hzero := trim_append_zeros (t.drop (t.length + 1 - d)) 1
  rw [List.replicate_one] at hzero
  rw [hzero]
  rw [List.length_drop] at htrim
  omega

theorem length_units_le {x : Nat} {d : UInt8} (hpos : 0 < x) (hlt : x < 2 ^ 256)
    (h : d.toNat < 255 ∨ x % 10 = 0) : (units x d).length ≤ 256 := by
  have hd : d.toNat < 256 := d.toNat_lt
  have hdigits : (Nat.toDigits 10 x).length ≤ 78 :=
    (Nat.length_toDigits_le_iff (by decide) (by decide)).mpr (lt_trans hlt (by decide))
  have hle := length_trim_le ((padded x d.toNat).drop ((padded x d.toNat).length - d.toNat))
  rw [List.length_drop] at hle
  have htrim :
      (trim ((padded x d.toNat).drop ((padded x d.toNat).length - d.toNat))).length ≤ 254 := by
    rcases h with hd' | hten
    · omega
    · rcases Nat.eq_zero_or_pos d.toNat with hzero | hplaces
      · omega
      · have := length_trim_padded_lt hpos hten hplaces
        omega
  have hlong : (padded x d.toNat).length = d.toNat + 1 ∨ (padded x d.toNat).length ≤ 78 := by
    unfold padded
    dsimp only
    split
    · left
      rw [List.length_append, List.length_replicate]
      omega
    · exact .inr hdigits
  rw [← String.length_toList, units_eq]
  refine le_trans (length_write_le _ _) ?_
  rw [List.length_take]
  omega

/-- What `Units` writes is read back by both readers, but for an amount with 255 places of which the
last is not zero: its text has 257 characters. -/
theorem units_read_back_iff (x : Nat) (d : UInt8) (hpos : 0 < x) (hlt : x < 2 ^ 256) :
    (human (units x d) d = some x ∧ humanUnits (units x d) d = some (toString x)) ↔
      d.toNat < 255 ∨ x % 10 = 0 := by
  constructor
  · rintro ⟨hhuman, -⟩
    obtain ⟨hlen, -, -, w, f, hwritten⟩ := human_eq_some.mp hhuman
    by_contra hnot
    rw [not_or] at hnot
    have hplaces := hwritten.length_eq hnot.2
    have hfrac : f ≠ [] := by
      rintro rfl
      exact hnot.1 (hplaces ▸ (by decide))
    have hwhole := List.length_pos_iff.mpr hwritten.places.whole.ne_nil
    rw [← String.length_toList, hwritten.text, write, if_pos hfrac, List.length_append,
      List.length_cons] at hlen
    omega
  · intro h
    obtain ⟨w, f, hwritten⟩ := units_written x d
    have hhuman := human_eq_some.mpr ⟨length_units_le hpos hlt h, hpos, hlt, w, f, hwritten⟩
    exact ⟨hhuman, by rw [humanUnits_eq_human, hhuman]; rfl⟩

theorem fifteen_read_back : human (units 15 1) 1 = some 15 ∧
    humanUnits (units 15 1) 1 = some "15" :=
  (units_read_back_iff 15 1 (by decide) (by decide)).mpr (by decide)

theorem smallest_unit_unread : human (units 1 255) 255 = none ∧
    humanUnits (units 1 255) 255 = none := by
  decide +kernel

end RbhTrade.Api
