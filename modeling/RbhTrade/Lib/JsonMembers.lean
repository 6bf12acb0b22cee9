import RbhTrade.Lib.JsonStruct

/-!
# Objects read member by member

A caller of `json.Decoder.Token` that reads one object, and nothing after it, sees the members of
the object in the order of the text: a key, then the value that the key has. It keeps a state, and
may refuse a member. A caller that takes each key once accepts an object whose keys are distinct.
-/

namespace Json

/-- The token that a value starts with. -/
inductive Token where
  | delim (c : Char)
  | text (s : String)
  | number (literal : List Char)
  | bool (b : Bool)
  | null
deriving DecidableEq

def Token.ofValue : Value → Token
  | .null => .null
  | .bool b => .bool b
  | .num l => .number l
  | .str l => .text (unescape l)
  | .arr _ => .delim '['
  | .obj _ => .delim '\x7b'

/-- The state after the members of an object. -/
def acceptAll {σ : Type} (accepts : σ → String → Value → Option σ) (s : σ)
    (ms : List (List Char × Value)) : Option σ :=
  ms.foldlM (fun s m => accepts s (unescape m.1) m.2) s

/-- A text that is one object, read member by member to its end. -/
def readWhole {σ : Type} (accepts : σ → String → Value → Option σ) (s : σ) (text : String) :
    Option σ :=
  match parse text with
  | some (.obj ms) => acceptAll accepts s ms
  | _ => none

/-- The keys of an object with their values. -/
def named (ms : List (List Char × Value)) : List (String × Value) :=
    ms.map fun m => (unescape m.1, m.2)

/-- Each key is taken once, under a condition. -/
def once (ok : String → Value → Bool) (seen : List String) (key : String) (v : Value) :
    Option (List String) :=
  if key ∈ seen then none else if ok key v = true then some (key :: seen) else none

theorem acceptAll_once {ok : String → Value → Bool} {seen : List String}
    {ms : List (List Char × Value)} :
    (acceptAll (once ok) seen ms).isSome = true ↔
      ((named ms).map Prod.fst).Nodup ∧ (∀ m ∈ named ms, m.1 ∉ seen) ∧
        ∀ m ∈ named ms, ok m.1 m.2 = true := by
  induction ms generalizing seen with
  | nil => simp [acceptAll, named]
  | cons m ms ih =>
      simp only [named] at ih
      simp only [acceptAll, once, List.foldlM_cons, named, List.map_cons, List.forall_mem_cons,
        List.nodup_cons]
      by_cases hseen : unescape m.1 ∈ seen
      · simp [hseen]
      by_cases hok : ok (unescape m.1) m.2 = true
      · have hrest := @ih (unescape m.1 :: seen)
        simp only [acceptAll, once] at hrest
        simp only [hseen, hok, if_true, if_false, Option.bind_eq_bind, Option.bind_some, hrest]
        constructor
        · rintro ⟨hnodup, hnew, hall⟩
          refine ⟨⟨fun hmem => ?_, hnodup⟩, ⟨not_false, fun m' hm' hs => ?_⟩, trivial, hall⟩
          · obtain ⟨m', hm', he⟩ := List.mem_map.mp hmem
            exact hnew m' hm' (he ▸ List.mem_cons_self)
          · exact hnew m' hm' (List.mem_cons_of_mem _ hs)
        · rintro ⟨⟨hfirst, hnodup⟩, ⟨-, hnew⟩, -, hall⟩
          refine ⟨hnodup, fun m' hm' hs => ?_, hall⟩
          rcases List.mem_cons.mp hs with he | hs
          · exact hfirst (he ▸ List.mem_map_of_mem hm')
          · exact hnew m' hm' hs
      · simp [hseen, hok]

end Json
