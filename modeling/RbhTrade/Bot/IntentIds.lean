import RbhTrade.Bot.Store

/-!
# The identity of an intent

`deterministicIntentID` hashes four parts, each with a zero byte after it. Only the first of them,
the id of the strategy, can hold a zero byte. The other three can be read back from the end of the
hashed text, and what is left is the id.
-/

namespace RbhTrade.Bot

open Bytes

/-- The text of an observation id. -/
def LowerHex (text : String) : Prop := ∀ c ∈ text.toList, Hex.isLowerHex c = true

theorem LowerHex.zero_notMem {text : String} (h : LowerHex text) : 0 ∉ ofText text := by
  refine zero_notMem_ofText fun c hc => ?_
  have := Hex.isLowerHex_iff_toNat.mp (h c hc)
  omega

theorem IntentKind.zero_notMem (kind : IntentKind) : 0 ∉ ofText kind.text := by
  have hall : kind.text.toList.all (·.toNat ≠ 0) = true := by cases kind <;> decide +kernel
  exact zero_notMem_ofText fun c hc => of_decide_eq_true (List.all_eq_true.mp hall c hc)

theorem IntentKind.text_injective : Function.Injective IntentKind.text := by
  intro k l h
  cases k <;> cases l <;> first | rfl | exact absurd h (by decide)

theorem intentPreimage_inj {id id' : List UInt8} {o o' : String} {k k' : IntentKind} {n n' : Nat}
    (ho : LowerHex o) (ho' : LowerHex o')
    (h : intentPreimage id o k n = intentPreimage id' o' k' n') :
    id = id' ∧ o = o' ∧ k = k' ∧ n = n' := by
  have hparts : ∀ {o : String} (k : IntentKind) (n : Nat), LowerHex o →
      ∀ p ∈ [ofText o, ofText k.text, ofText (toString n)], 0 ∉ p := by
    intro o k n ho
    simp only [List.forall_mem_cons, List.not_mem_nil, false_imp_iff, implies_true, and_true]
    exact ⟨ho.zero_notMem, k.zero_notMem, zero_notMem_toString n⟩
  obtain ⟨hid, hrest⟩ := terminated_inj (by rfl) (hparts k n ho) (hparts k' n' ho') h
  simp only [List.cons.injEq, and_true] at hrest
  obtain ⟨hobservation, hkind, hversion⟩ := hrest
  exact ⟨hid, ofText_injective hobservation, IntentKind.text_injective (ofText_injective hkind),
    Decimal.toString_nat_inj (ofText_injective hversion)⟩

/-- Different strategies, versions, observations or kinds give different texts to hash, whatever
bytes the id of a strategy has; so intents of one id are the same but for a collision. -/
theorem intent_ids_distinct :
    (∀ (id id' : List UInt8) (o o' : String) (k k' : IntentKind) (n n' : Nat),
      LowerHex o → LowerHex o' → intentPreimage id o k n = intentPreimage id' o' k' n' →
      id = id' ∧ n = n' ∧ o = o' ∧ k = k') ∧
    ∀ (host : BotHost) (s t : Strategy) (o o' : String) (k k' : IntentKind),
      s.validate = true → t.validate = true → LowerHex o → LowerHex o' →
      (host.sum (intentPreimage (ofText s.id) o k s.version) =
          host.sum (intentPreimage (ofText t.id) o' k' t.version) →
        intentPreimage (ofText s.id) o k s.version = intentPreimage (ofText t.id) o' k' t.version) →
      deterministicIntentID host s o k = deterministicIntentID host t o' k' →
      s.id = t.id ∧ s.version = t.version ∧ o = o' ∧ k = k' := by
  refine ⟨fun id id' o o' k k' n n' ho ho' h => ?_,
    fun host s t o o' k k' _ _ ho ho' hcollision h => ?_⟩
  · obtain ⟨hid, hobservation, hkind, hversion⟩ := intentPreimage_inj ho ho' h
    exact ⟨hid, hversion, hobservation, hkind⟩
  · rw [deterministicIntentID, deterministicIntentID, String.ofList_inj,
      Hex.encode_injective.eq_iff, Vector.toList_inj] at h
    obtain ⟨hid, hobservation, hkind, hversion⟩ := intentPreimage_inj ho ho' (hcollision h)
    exact ⟨ofText_injective hid, hversion, hobservation, hkind⟩

end RbhTrade.Bot
