import Mathlib.Algebra.Group.Int.Defs
import Mathlib.Data.List.Nodup
import RbhTrade.Lib.Bytes
import RbhTrade.Lib.JsonMembers

/-!
# Block headers of the chain

How `chainquery` reads the header of a block: `object` goes through the members of the answer and
refuses a key that another one equals, exactly or in lower case; then the same bytes are decoded
into a header, whose hash must be the one claimed.

Lower case is not the folding of `encoding/json`: the long s, U+017F, is a lower-case letter and
folds to `s`. Two keys that differ only there are accepted, and both belong to one field.
-/

namespace RbhTrade.Query

open Json

/-! ## Reading a header -/

/-- The fields of `types.Header` that are checked. -/
structure Header where
  number : Option Int
  time : UInt64
  baseFee : Option Int
deriving DecidableEq

/-- What lies outside the package: `unicode.ToLower`, and the header of go-ethereum with the names
of its fields, its decoder for the values of each field, and its hash. -/
structure HeaderHost where
  lower : Char → Char
  lower_ascii : ∀ c, c.toNat < 128 → lower c = c.toLower
  lower_kelvin : lower '\u212a' = 'k'
  lower_long : lower '\u017f' = '\u017f'
  names : List String
  names_ascii : ∀ name ∈ names, ∀ c ∈ name.toList, c.toNat < 128
  names_distinct : (names.map fun name => name.toList.map foldChar).Nodup
  decode : (String → List Value) → Option Header
  hash : Header → String

variable (H : HeaderHost)

/-- `strings.ToLower`. -/
def HeaderHost.lowerText (key : String) : String := String.ofList (key.toList.map H.lower)

/-- The maps of `object`. -/
structure Seen where
  fields : List (String × Value) := []
  caseKeys : List String := []

/-- A member of `object`. -/
def objectMember (s : Seen) (key : String) (raw : Value) : Option Seen :=
  if key ∈ s.fields.map Prod.fst then none
  else if H.lowerText key ∈ s.caseKeys then none
  else some ⟨(key, raw) :: s.fields, H.lowerText key :: s.caseKeys⟩

/-- `object`: the fields that were read, the last one first. -/
def object (data : List UInt8) : Option (List (String × Value)) :=
  (readWhole (objectMember H) {} (Bytes.toText data)).map Seen.fields

/-- The bytes decoded into a header. -/
def unmarshalHeader (raw : List UInt8) : Option Header :=
  (parse (Bytes.toText raw)).bind fun v =>
    (members? v).bind fun members => H.decode (fieldValues H.names members)

/-- `hexutil.EncodeBig`, for a number that is not negative. -/
def encodeBig (n : Nat) : String := String.ofList ('0' :: 'x' :: Nat.toDigits 16 n)

/-- The checks of `header` on what was decoded. -/
def Header.Sound (h : Header) : Prop :=
  (∃ n ∈ h.number, 0 < n ∧ n < 2 ^ 64) ∧ h.time ≠ 0 ∧ ∃ b ∈ h.baseFee, 0 ≤ b ∧ b < 2 ^ 256
deriving Decidable

structure Snapshot where
  number : Nat
  hash : String
  base : Nat
deriving DecidableEq

/-- `header`, from the answer to `eth_getBlockByNumber` on. -/
def header (raw : List UInt8) (number : String) : Option Snapshot := do
  let fields ← object H raw
  guard (["number", "timestamp", "baseFeePerGas", "hash"].all fun key =>
    fields.any fun f => f.1 = key)
  let h ← unmarshalHeader H raw
  guard h.Sound
  let claimed ← fill readText "" ((fields.filter fun f => f.1 = "hash").map Prod.snd)
  guard (claimed = H.hash h)
  let n := (h.number.getD 0).toNat
  guard (number = "latest" ∨ encodeBig n = number)
  some ⟨n, claimed, (h.baseFee.getD 0).toNat⟩

/-! ## The keys of an object -/

/-- The lower-case keys of an object are distinct. -/
theorem acceptAll_lower {s s' : Seen} {ms : List (List Char × Value)}
    (h : acceptAll (objectMember H) s ms = some s') :
    ((named ms).map fun m => H.lowerText m.1).Nodup ∧
      ∀ m ∈ named ms, H.lowerText m.1 ∉ s.caseKeys := by
  induction ms generalizing s with
  | nil => simp [named]
  | cons m ms ih =>
      rw [acceptAll, List.foldlM_cons] at h
      obtain ⟨t, ht, hrest⟩ := Option.bind_eq_some_iff.mp h
      obtain ⟨hnodup, hnew⟩ := ih hrest
      simp only [objectMember, Option.ite_none_left_eq_some, Option.some.injEq] at ht
      obtain ⟨-, hcase, rfl⟩ := ht
      simp only [List.mem_cons, not_or] at hnew
      refine ⟨?_, List.forall_mem_cons.mpr ⟨hcase, fun m' hm' => (hnew m' hm').2⟩⟩
      refine List.nodup_cons.mpr ⟨fun hmem => ?_, hnodup⟩
      obtain ⟨m', hm', he⟩ := List.mem_map.mp hmem
      exact (hnew m' hm').1 he

variable {H}

theorem object_eq_some {data : List UInt8} {fields : List (String × Value)}
    (h : object H data = some fields) : ∃ ms, parse (Bytes.toText data) = some (.obj ms) ∧
      ((named ms).map fun m => H.lowerText m.1).Nodup := by
  obtain ⟨s, hs, -⟩ := Option.map_eq_some_iff.mp h
  unfold readWhole at hs
  split at hs
  · rename_i ms hparse
    exact ⟨ms, hparse, (acceptAll_lower H hs).1⟩
  · cases hs

/-! ## Lower case and folding -/

theorem ascii_of_toLower {c : Char} (h : c.toLower.toNat < 128) : c.toNat < 128 := by
  unfold Char.toLower at h
  split at h
  · rename_i hupper
    have := UInt32.le_iff_toNat_le.mp hupper.2
    exact Nat.lt_of_le_of_lt this (by decide)
  · exact h

/-- Where the long s is left out, a character that folds to ASCII is folded by its lower case. -/
theorem lower_eq_fold {c : Char} (hlong : c ≠ '\u017f') (hfold : (foldChar c).toNat < 128) :
    H.lower c = foldChar c := by
  unfold foldChar at hfold ⊢
  rw [if_neg hlong] at hfold ⊢
  split at hfold
  · rename_i hkelvin
    rw [if_pos hkelvin, hkelvin, H.lower_kelvin]
  · rename_i hkelvin
    rw [if_neg hkelvin]
    exact H.lower_ascii c (ascii_of_toLower hfold)

theorem foldChar_ascii {c : Char} (h : c.toNat < 128) : (foldChar c).toNat < 128 := by
  have all : ∀ n < 128, (foldChar (Char.ofNat n)).toNat < 128 := by decide +kernel
  have hc := all c.toNat h
  rwa [Char.ofNat_toNat] at hc

/-- A key belongs to a field whose name folds as it does. -/
theorem fold_fieldName? {names : List String} {key name : String}
    (h : fieldName? names key = some name) :
    name ∈ names ∧ name.toList.map foldChar = key.toList.map foldChar := by
  unfold fieldName? at h
  split at h
  · rename_i hmem
    obtain rfl := Option.some.inj h
    exact ⟨hmem, rfl⟩
  · have hfold := List.find?_some h
    exact ⟨List.mem_of_find?_eq_some h, of_decide_eq_true hfold⟩

/-- Keys without the long s that belong to one field are equal in lower case. -/
theorem lowerText_eq {names : List String} {key key' name : String}
    (hascii : ∀ name ∈ names, ∀ c ∈ name.toList, c.toNat < 128)
    (hlong : '\u017f' ∉ key.toList) (hlong' : '\u017f' ∉ key'.toList)
    (h : fieldName? names key = some name) (h' : fieldName? names key' = some name) :
    H.lowerText key = H.lowerText key' := by
  have hlower : ∀ {key : String}, '\u017f' ∉ key.toList → fieldName? names key = some name →
      key.toList.map H.lower = name.toList.map foldChar := by
    intro key hlong h
    obtain ⟨hname, hfold⟩ := fold_fieldName? h
    rw [hfold]
    refine List.map_congr_left fun c hc => ?_
    have hne : c ≠ '\u017f' := by
      rintro rfl
      exact hlong hc
    -- the folding of the character is one of the field's name
    obtain ⟨d, hd, he⟩ := List.mem_map.mp (hfold ▸ List.mem_map_of_mem hc)
    exact lower_eq_fold hne (he ▸ foldChar_ascii (hascii name hname d hd))
  rw [HeaderHost.lowerText, HeaderHost.lowerText, hlower hlong h, hlower hlong' h']

/-- The two keys fold as the name of a field, and one of them has the long s. -/
def LongAlias (names : List String) (key key' : String) : Prop :=
  key.toList.map foldChar = key'.toList.map foldChar ∧
    key.toList.map foldChar ∈ names.map (fun name => name.toList.map foldChar) ∧
    ('\u017f' ∈ key.toList ∨ '\u017f' ∈ key'.toList)
deriving Decidable

section Structure

variable {names : List String} {members : List (String × Value)}

/-- Where the names fold apart, a key that folds as one of them belongs to it. -/
theorem fieldName?_of_fold (hdistinct : (names.map fun name => name.toList.map foldChar).Nodup)
    {key name : String} (hname : name ∈ names)
    (hfold : name.toList.map foldChar = key.toList.map foldChar) :
    fieldName? names key = some name := by
  have hinj : ∀ x ∈ names, x.toList.map foldChar = key.toList.map foldChar → x = name :=
    fun x hx h => List.inj_on_of_nodup_map hdistinct hx hname (h.trans hfold.symm)
  unfold fieldName?
  split
  · rename_i hmem
    rw [hinj key hmem rfl]
  · cases hfind : names.find? fun x => x.toList.map foldChar = key.toList.map foldChar with
    | none => exact absurd (decide_eq_true hfold) (List.find?_eq_none.mp hfind name hname)
    | some x =>
        have hsame := List.find?_some hfind
        rw [hinj x (List.mem_of_find?_eq_some hfind) (of_decide_eq_true hsame)]

/-- Two members of one field are two keys of which one has the long s. -/
theorem longAlias_of_field (hnodup : (members.map fun m => H.lowerText m.1).Nodup)
    (hascii : ∀ name ∈ names, ∀ c ∈ name.toList, c.toNat < 128) {m m' : String × Value}
    {name : String} (hsub : [m, m'].Sublist members) (hm : fieldName? names m.1 = some name)
    (hm' : fieldName? names m'.1 = some name) : LongAlias names m.1 m'.1 := by
  obtain ⟨hname, hfold⟩ := fold_fieldName? hm
  obtain ⟨-, hfold'⟩ := fold_fieldName? hm'
  refine ⟨hfold.symm.trans hfold', List.mem_map.mpr ⟨name, hname, hfold⟩, ?_⟩
  by_contra hlong
  rw [not_or] at hlong
  -- without it they would be equal in lower case
  have he : H.lowerText m.1 = H.lowerText m'.1 := lowerText_eq hascii hlong.1 hlong.2 hm hm'
  have hpair := List.Nodup.sublist (hsub.map fun m : String × Value => H.lowerText m.1) hnodup
  exact absurd (List.mem_cons.mpr (.inl he)) (List.nodup_cons.mp hpair).1

theorem fieldValues_length_le_one_iff (hnodup : (members.map fun m => H.lowerText m.1).Nodup)
    (hascii : ∀ name ∈ names, ∀ c ∈ name.toList, c.toNat < 128)
    (hdistinct : (names.map fun name => name.toList.map foldChar).Nodup) :
    (∀ name, (fieldValues names members name).length ≤ 1) ↔
      members.Pairwise fun m m' => ¬ LongAlias names m.1 m'.1 := by
  have hfield : ∀ name, (fieldValues names members name).length =
      (members.filter fun m => fieldName? names m.1 = some name).length := fun name => by
    rw [fieldValues, List.length_map]
  constructor
  · intro h
    refine List.pairwise_iff_forall_sublist.mpr fun {m m'} hsub halias => ?_
    obtain ⟨hfold, hmem, -⟩ := halias
    obtain ⟨name, hname, hm⟩ := List.mem_map.mp hmem
    have hpair := hsub.filter fun m => decide (fieldName? names m.1 = some name)
    simp only [List.filter_cons, fieldName?_of_fold hdistinct hname hm,
      fieldName?_of_fold hdistinct hname (hm.trans hfold), decide_true, if_true] at hpair
    have hle := (hpair.length_le.trans_eq (hfield name).symm).trans (h name)
    simp at hle
  · intro h name
    rw [hfield]
    cases hfilter : members.filter fun m => fieldName? names m.1 = some name with
    | nil => exact Nat.zero_le 1
    | cons m rest =>
        cases rest with
        | nil => exact Nat.le_refl 1
        | cons m' rest =>
            have hsub : [m, m'].Sublist (members.filter fun m => fieldName? names m.1 =
              some name) :=
              hfilter ▸ ((List.nil_sublist rest).cons_cons m').cons_cons m
            have hmem : ∀ x ∈ [m, m'], fieldName? names x.1 = some name := fun x hx =>
              of_decide_eq_true (List.mem_filter.mp (hsub.subset hx)).2
            have hall := hsub.trans List.filter_sublist
            exact absurd (longAlias_of_field hnodup hascii hall (hmem m (by simp))
              (hmem m' (by simp))) (List.pairwise_iff_forall_sublist.mp h hall)

end Structure

theorem header_object {raw : List UInt8} {number : String} {s : Snapshot}
    (h : header H raw number = some s) : ∃ fields, object H raw = some fields := by
  obtain ⟨fields, hfields, -⟩ := Option.bind_eq_some_iff.mp h
  exact ⟨fields, hfields⟩

/-- At most one key of an accepted object belongs to each field of a structure exactly if no two of
its keys fold as one field with the long s in one of them; so it is for the fields of a header. -/
theorem object_fields_single_iff (H : HeaderHost) :
    (∀ data fields, object H data = some fields →
      ∃ ms, parse (Bytes.toText data) = some (.obj ms) ∧
        ∀ names : List String, (∀ name ∈ names, ∀ c ∈ name.toList, c.toNat < 128) →
          (names.map fun name => name.toList.map foldChar).Nodup →
          ((∀ name, (fieldValues names (named ms) name).length ≤ 1) ↔
            (named ms).Pairwise fun m m' => ¬ LongAlias names m.1 m'.1)) ∧
    ∀ raw number s, header H raw number = some s →
      ∃ ms, parse (Bytes.toText raw) = some (.obj ms) ∧
        ((∀ name, (fieldValues H.names (named ms) name).length ≤ 1) ↔
          (named ms).Pairwise fun m m' => ¬ LongAlias H.names m.1 m'.1) := by
  refine ⟨fun data fields h => ?_, fun raw number s h => ?_⟩
  · obtain ⟨ms, hparse, hnodup⟩ := object_eq_some h
    exact ⟨ms, hparse, fun names => fieldValues_length_le_one_iff hnodup⟩
  · obtain ⟨fields, hfields⟩ := header_object h
    obtain ⟨ms, hparse, hnodup⟩ := object_eq_some hfields
    exact ⟨ms, hparse, fieldValues_length_le_one_iff hnodup H.names_ascii H.names_distinct⟩

/-- A decoder that reads the last value of each field. -/
def lastDecoder (values : String → List Value) : Option Header :=
  let last := fun name => ((values name).getLast?.bind readText).bind fun s =>
    (Decimal.digitsFrom 0 (s.toList.drop 2))
  match last "number", last "timestamp", last "baseFeePerGas" with
  | some n, some t, some b => some ⟨some n, UInt64.ofNat t, some b⟩
  | _, _, _ => none

def aliasHost : HeaderHost where
  lower c := if c = '\u212a' then 'k' else c.toLower
  lower_ascii c hc := by
    rw [if_neg]
    rintro rfl
    exact absurd hc (by decide)
  lower_kelvin := by decide
  lower_long := by decide
  names := ["number", "timestamp", "baseFeePerGas"]
  names_ascii name hname c hc := by
    have hall : ["number", "timestamp", "baseFeePerGas"].all
        (·.toList.all fun c => decide (c.toNat < 128)) = true := by decide +kernel
    exact of_decide_eq_true (List.all_eq_true.mp (List.all_eq_true.mp hall name hname) c hc)
  names_distinct := by decide +kernel
  decode := lastDecoder
  hash _ := "0x00"

/-- A key with the long s is the only one of its field. -/
theorem long_key_alone : ∃ ms, parse "\x7b\"time\u017ftamp\":\"0x2\"\x7d" = some (.obj ms) ∧
    (named ms).map Prod.fst = ["time\u017ftamp"] ∧
    ∀ name, (fieldValues aliasHost.names (named ms) name).length ≤ 1 := by
  have hobject :
      (object aliasHost (Bytes.ofText "\x7b\"time\u017ftamp\":\"0x2\"\x7d")).isSome = true := by
    rw [object, Bytes.toText_ofText]
    decide +kernel
  obtain ⟨fields, hfields⟩ := Option.isSome_iff_exists.mp hobject
  obtain ⟨ms, hparse, hsingle⟩ := (object_fields_single_iff aliasHost).1 _ _ hfields
  rw [Bytes.toText_ofText] at hparse
  have hkeys : ((parse "\x7b\"time\u017ftamp\":\"0x2\"\x7d").bind members?).map
      (fun ms => ms.map Prod.fst) = some ["time\u017ftamp"] := by decide +kernel
  rw [hparse] at hkeys
  have hnamed : (named ms).map Prod.fst = ["time\u017ftamp"] := Option.some.inj hkeys
  refine ⟨ms, hparse, hnamed,
    (hsingle _ aliasHost.names_ascii aliasHost.names_distinct).mpr ?_⟩
  obtain ⟨m, hm, -⟩ := List.map_eq_singleton_iff.mp hnamed
  rw [hm]
  exact List.pairwise_singleton _ _

/-- An answer with the time twice, the second key written with the long s. -/
def aliasAnswer : String :=
  "\x7b\"number\":\"0x1\",\"timestamp\":\"0x1\",\"time\u017ftamp\":\"0x2\"," ++
    "\"baseFeePerGas\":\"0x0\",\"hash\":\"0x00\"\x7d"

theorem alias_overrides_time :
    header aliasHost (Bytes.ofText aliasAnswer) "latest" = some ⟨1, "0x00", 0⟩ ∧
    (unmarshalHeader aliasHost (Bytes.ofText aliasAnswer)).map Header.time = some 2 ∧
    ((parse aliasAnswer).bind members?).map
      (fun ms => (fieldValues aliasHost.names ms "timestamp").length) = some 2 := by
  simp only [header, object, unmarshalHeader, Bytes.toText_ofText]
  decide +kernel

end RbhTrade.Query
