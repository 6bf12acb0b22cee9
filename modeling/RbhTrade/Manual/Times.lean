import RbhTrade.Lib.TimeText
import RbhTrade.Store.ManualMath

/-!
# The order and the shifts of MANUAL times

A text that `manualSQLTime` accepts is what Go formats an instant of the years 1970 to 9998 as. So
accepted texts and those instants correspond one to one, and the functions on texts are those on
instants: the comparison that of integers, a shift the addition of seconds.
-/

namespace RbhTrade

open GoTime

/-- The years that a time may have. -/
def ManualYear (t : Instant) : Prop := 1970 ≤ yearOf t ∧ yearOf t ≤ 9998

theorem ManualYear.fourDigit {t : Instant} (h : ManualYear t) : FourDigitYear t :=
  ⟨le_trans (by decide) h.1, lt_of_le_of_lt h.2 (by decide)⟩

theorem canonicalTime_eq_some {text : String} {t : Instant} :
    canonicalTime text = some t ↔ ManualYear t ∧ text = formatRFC3339Nano t := by
  constructor
  · intro h
    unfold canonicalTime at h
    split at h
    · obtain ⟨⟨-, hlow, hhigh, htext⟩, h⟩ := Option.ite_none_right_eq_some.mp h
      obtain rfl := Option.some.inj h
      exact ⟨⟨hlow, hhigh⟩, htext.symm⟩
    · cases h
  · rintro ⟨hyear, rfl⟩
    have hzero : t ≠ zeroInstant := by
      rintro rfl
      exact absurd hyear.1 (by decide)
    unfold canonicalTime
    rw [parse_format hyear.fourDigit]
    exact if_pos ⟨hzero, hyear.1, hyear.2, rfl⟩

/-- A text that the time functions accept. -/
structure ManualTime where
  text : String
  accepted : (canonicalTime text).isSome = true

namespace ManualTime

/-- The instant of an accepted text. -/
def instant (a : ManualTime) : Instant := (canonicalTime a.text).get a.accepted

theorem canonicalTime_text (a : ManualTime) : canonicalTime a.text = some a.instant :=
  (Option.some_get a.accepted).symm

theorem text_eq (a : ManualTime) : a.text = formatRFC3339Nano a.instant :=
  (canonicalTime_eq_some.mp a.canonicalTime_text).2

theorem instant_eq_iff {a b : ManualTime} : a.instant = b.instant ↔ a.text = b.text := by
  constructor
  · intro h
    rw [text_eq a, text_eq b, h]
  · intro h
    rw [text_eq a, text_eq b] at h
    exact format_injective h

theorem timeCmp_text (a b : ManualTime) :
    timeCmp a.text b.text = some (compare a.instant b.instant) := by
  rw [timeCmp, canonicalTime_text, canonicalTime_text]

end ManualTime

theorem timeCmp_isSome {a b : String} :
    (timeCmp a b).isSome = true ↔ (canonicalTime a).isSome = true ∧
    (canonicalTime b).isSome = true := by
  unfold timeCmp
  cases canonicalTime a with
  | none => simp
  | some x => cases canonicalTime b <;> simp

/-- The time some seconds later. -/
def later (t : Instant) (seconds : Int) : Instant := t + seconds * nanosPerSecond

theorem later_later (t : Instant) (a b : Int) : later (later t a) b = later t (a + b) := by
  unfold later
  rw [Int.add_assoc, Int.add_mul]

theorem later_neg (t : Instant) (a : Int) : later (later t a) (-a) = t := by
  rw [later_later, Int.add_right_neg, later, Int.zero_mul]
  exact Int.add_zero t

theorem compare_later (x y : Instant) (a : Int) : compare (later x a) (later y a) =
    compare x y := by
  unfold later
  rcases lt_trichotomy x y with h | rfl | h
  · rw [compare_lt_iff_lt.mpr h]
    exact compare_lt_iff_lt.mpr (Int.add_lt_add_right h _)
  · rw [compare_eq_iff_eq.mpr rfl, compare_eq_iff_eq.mpr rfl]
  · rw [compare_gt_iff_gt.mpr h]
    exact compare_gt_iff_gt.mpr (Int.add_lt_add_right h _)

theorem timeShift_eq_some {text u : String} {seconds : Int} :
    timeShift text seconds = some u ↔ ∃ t, text = formatRFC3339Nano t ∧ ManualYear t ∧
      (-31536000 ≤ seconds ∧ seconds ≤ 31536000) ∧ ManualYear (later t seconds) ∧
      u = formatRFC3339Nano (later t seconds) := by
  constructor
  · intro h
    unfold timeShift at h
    split at h
    · rename_i t ht
      obtain ⟨hyear, htext⟩ := canonicalTime_eq_some.mp ht
      obtain ⟨⟨hlow, hhigh, hfirst, hlast⟩, h⟩ := Option.ite_none_right_eq_some.mp h
      exact ⟨t, htext, hyear, ⟨hlow, hhigh⟩, ⟨hfirst, hlast⟩, (Option.some.inj h).symm⟩
    · cases h
  · rintro ⟨t, rfl, hyear, ⟨hlow, hhigh⟩, ⟨hfirst, hlast⟩, rfl⟩
    unfold timeShift
    rw [canonicalTime_eq_some.mpr ⟨hyear, rfl⟩]
    exact if_pos ⟨hlow, hhigh, hfirst, hlast⟩

/-- The comparison of accepted texts is the chronological order, a total order in which only equal
texts are equal. Shifts compose, keep the order, are undone by the opposite shift, and give accepted
texts. -/
theorem manual_times_ordered :
    (∀ a b : String, (timeCmp a b).isSome = true ↔
      (canonicalTime a).isSome = true ∧ (canonicalTime b).isSome = true) ∧
    (∀ a b : ManualTime, timeCmp a.text b.text = some (compare a.instant b.instant)) ∧
    (∀ a b : ManualTime, timeCmp a.text b.text = some .eq ↔ a.text = b.text) ∧
    (∀ a b : ManualTime, timeCmp b.text a.text = (timeCmp a.text b.text).map Ordering.swap) ∧
    (∀ a b c : ManualTime, timeCmp a.text b.text ≠ some .gt → timeCmp b.text c.text ≠ some .gt →
      timeCmp a.text c.text ≠ some .gt) ∧
    (∀ (t u v w : String) (a b : Int), timeShift t a = some u → timeShift u b = some v →
      timeShift t (a + b) = some w → v = w) ∧
    (∀ (s t s' t' : String) (a : Int), timeShift s a = some s' → timeShift t a = some t' →
      timeCmp s' t' = timeCmp s t) ∧
    (∀ (t u : String) (a : Int), timeShift t a = some u → timeShift u (-a) = some t) ∧
    ∀ (t u : String) (a : Int), timeShift t a = some u → (canonicalTime u).isSome = true ∧
      timeCmp u u = some .eq := by
  refine ⟨fun a b => timeCmp_isSome, ManualTime.timeCmp_text, fun a b => ?_, fun a b => ?_,
    fun a b c => ?_, ?_, ?_, ?_, ?_⟩
  · rw [ManualTime.timeCmp_text, Option.some.injEq, compare_eq_iff_eq, ManualTime.instant_eq_iff]
  · rw [ManualTime.timeCmp_text, ManualTime.timeCmp_text, Option.map_some, ← Int.compare_swap]
  · simp only [ManualTime.timeCmp_text, ne_eq, Option.some.injEq, compare_gt_iff_gt, not_lt]
    exact le_trans
  · intro t u v w a b hu hv hw
    obtain ⟨x, rfl, -, -, -, rfl⟩ := timeShift_eq_some.mp hu
    obtain ⟨y, hy, -, -, -, rfl⟩ := timeShift_eq_some.mp hv
    obtain ⟨z, hz, -, -, -, rfl⟩ := timeShift_eq_some.mp hw
    rw [← format_injective hy, ← format_injective hz, later_later]
  · intro s t s' t' a hs ht
    obtain ⟨x, rfl, hx, -, hx', rfl⟩ := timeShift_eq_some.mp hs
    obtain ⟨y, rfl, hy, -, hy', rfl⟩ := timeShift_eq_some.mp ht
    rw [timeCmp, timeCmp, canonicalTime_eq_some.mpr ⟨hx, rfl⟩, canonicalTime_eq_some.mpr ⟨hy, rfl⟩,
      canonicalTime_eq_some.mpr ⟨hx', rfl⟩, canonicalTime_eq_some.mpr ⟨hy', rfl⟩]
    exact congrArg some (compare_later x y a)
  · intro t u a hu
    obtain ⟨x, rfl, hx, ⟨hlow, hhigh⟩, hx', rfl⟩ := timeShift_eq_some.mp hu
    refine timeShift_eq_some.mpr ⟨later x a, rfl, hx', ⟨by omega, by omega⟩, ?_⟩
    rw [later_neg]
    exact ⟨hx, rfl⟩
  · intro t u a hu
    obtain ⟨x, -, -, -, hx, rfl⟩ := timeShift_eq_some.mp hu
    have hcanonical := canonicalTime_eq_some.mpr ⟨hx, rfl⟩
    refine ⟨Option.isSome_of_eq_some hcanonical, ?_⟩
    rw [timeCmp, hcanonical]
    exact congrArg some (compare_eq_iff_eq.mpr rfl)

end RbhTrade
