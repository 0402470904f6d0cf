import FlowOffload.Json.Token

/-!
# Skipping JSON values

A value whose meaning nobody asks for must still be well formed.  `Json.skipValue` walks over the
tokens of one value and answers the tokens behind it.  It keeps the open brackets on a stack of its
own, so values may nest to any depth; strings and numbers inside need no meaning.
-/

namespace FlowOffload.Json

/-- What an open bracket belongs to. -/
inductive Nest where
  /-- An array. -/
  | array
  /-- An object. -/
  | object
deriving DecidableEq

mutual

/-- Walks over a value inside open brackets, the innermost first. -/
def skipValue (nests : List Nest) : List Token → Option (List Token)
  | .null :: r => skipRest nests r
  | .bool _ :: r => skipRest nests r
  | .number _ :: r => skipRest nests r
  | .text _ :: r => skipRest nests r
  | .openBracket :: .closeBracket :: r => skipRest nests r
  | .openBracket :: r => skipValue (.array :: nests) r
  | .openBrace :: .closeBrace :: r => skipRest nests r
  | .openBrace :: .text _ :: .colon :: r => skipValue (.object :: nests) r
  | _ => none

/-- Goes on behind a value inside open brackets, until all of them are closed. -/
def skipRest : List Nest → List Token → Option (List Token)
  | [], r => some r
  | .array :: nests, .closeBracket :: r => skipRest nests r
  | .array :: nests, .comma :: r => skipValue (.array :: nests) r
  | .object :: nests, .closeBrace :: r => skipRest nests r
  | .object :: nests, .comma :: .text _ :: .colon :: r => skipValue (.object :: nests) r
  | _, _ => none

end

/-! Skipping takes tokens away. -/

/-- Skipping shortens the text, by at least one token if there is a value in front. -/
theorem length_skip (n : Nat) :
    (∀ (nests : List Nest) (ts r : List Token), ts.length ≤ n →
      skipValue nests ts = some r → r.length < ts.length) ∧
    (∀ (nests : List Nest) (ts r : List Token), ts.length ≤ n →
      skipRest nests ts = some r → r.length ≤ ts.length) := by
  induction n with
  | zero =>
    refine ⟨fun nests ts r hn h => ?_, fun nests ts r hn h => ?_⟩ <;>
      obtain rfl := List.eq_nil_of_length_eq_zero (Nat.le_zero.mp hn)
    · simp [skipValue] at h
    · cases nests with
      | nil => simp_all [skipRest]
      | cons a l => cases a <;> simp [skipRest] at h
  | succ n ih =>
    obtain ⟨ihv, ihr⟩ := ih
    refine ⟨fun nests ts r hn h => ?_, fun nests ts r hn h => ?_⟩
    · unfold skipValue at h
      split at h
      case h_6 => have := ihv _ _ _ (Nat.le_of_succ_le_succ hn) h; grind
      case h_8 => have := ihv _ _ _ (by grind) h; grind
      case h_9 => simp at h
      all_goals have := ihr _ _ _ (by grind) h; grind
    · unfold skipRest at h
      split at h
      case h_1 => cases h; exact Nat.le_refl _
      case h_2 => have := ihr _ _ _ (by grind) h; grind
      case h_3 => have := ihv _ _ _ (by grind) h; grind
      case h_4 => have := ihr _ _ _ (by grind) h; grind
      case h_5 => have := ihv _ _ _ (by grind) h; grind
      case h_6 => simp at h

/-- A value that is skipped has at least one token. -/
theorem length_skipValue {nests : List Nest} {ts r : List Token}
    (h : skipValue nests ts = some r) : r.length < ts.length :=
  (length_skip ts.length).1 nests ts r (Nat.le_refl _) h

end FlowOffload.Json
