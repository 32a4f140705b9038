import SwitchFabric.Yaml.Resolve

/-!
# Uninterpreted values

A document as data: what is written for a configuration or a topology, and what a configuration keeps
of the fields it does not interpret. The entries of a mapping keep their order.
-/

namespace SwitchFabric.Yaml

/-- A part of a document as data. -/
inductive Value where
  | null
  | bool (b : Bool)
  | int (n : Int)
  | real (x : Real)
  | string (s : String)
  | sequence (items : List Value)
  | mapping (entries : List (Value × Value))
  | tagged (tag : String) (content : Value)

namespace Value

mutual

/-- Values are compared part by part. -/
def decEq : (a b : Value) → Decidable (a = b)
  | .null, .null => isTrue rfl
  | .bool a, .bool b => decidable_of_iff (a = b) (by simp)
  | .int a, .int b => decidable_of_iff (a = b) (by simp)
  | .real a, .real b => decidable_of_iff (a = b) (by simp)
  | .string a, .string b => decidable_of_iff (a = b) (by simp)
  | .sequence a, .sequence b =>
    have := decEqItems a b
    decidable_of_iff (a = b) (by simp)
  | .mapping a, .mapping b =>
    have := decEqEntries a b
    decidable_of_iff (a = b) (by simp)
  | .tagged s a, .tagged t b =>
    have := decEq a b
    decidable_of_iff (s = t ∧ a = b) (by simp)
  | .null, .bool _ | .null, .int _ | .null, .real _ | .null, .string _ | .null, .sequence _
  | .null, .mapping _ | .null, .tagged _ _ | .bool _, .null | .bool _, .int _ | .bool _, .real _
  | .bool _, .string _ | .bool _, .sequence _ | .bool _, .mapping _ | .bool _, .tagged _ _
  | .int _, .null | .int _, .bool _ | .int _, .real _ | .int _, .string _ | .int _, .sequence _
  | .int _, .mapping _ | .int _, .tagged _ _ | .real _, .null | .real _, .bool _ | .real _, .int _
  | .real _, .string _ | .real _, .sequence _ | .real _, .mapping _ | .real _, .tagged _ _
  | .string _, .null | .string _, .bool _ | .string _, .int _ | .string _, .real _
  | .string _, .sequence _ | .string _, .mapping _ | .string _, .tagged _ _ | .sequence _, .null
  | .sequence _, .bool _ | .sequence _, .int _ | .sequence _, .real _ | .sequence _, .string _
  | .sequence _, .mapping _ | .sequence _, .tagged _ _ | .mapping _, .null | .mapping _, .bool _
  | .mapping _, .int _ | .mapping _, .real _ | .mapping _, .string _ | .mapping _, .sequence _
  | .mapping _, .tagged _ _ | .tagged _ _, .null | .tagged _ _, .bool _ | .tagged _ _, .int _
  | .tagged _ _, .real _ | .tagged _ _, .string _ | .tagged _ _, .sequence _
  | .tagged _ _, .mapping _ => isFalse (by simp)

/-- Items are compared one by one. -/
def decEqItems : (a b : List Value) → Decidable (a = b)
  | [], [] => isTrue rfl
  | [], _ :: _ | _ :: _, [] => isFalse (by simp)
  | a :: as, b :: bs =>
    have := decEq a b
    have := decEqItems as bs
    decidable_of_iff (a = b ∧ as = bs) (by simp)

/-- Entries are compared one by one, keys before values. -/
def decEqEntries : (a b : List (Value × Value)) → Decidable (a = b)
  | [], [] => isTrue rfl
  | [], _ :: _ | _ :: _, [] => isFalse (by simp)
  | (j, a) :: as, (k, b) :: bs =>
    have := decEq j k
    have := decEq a b
    have := decEqEntries as bs
    decidable_of_iff ((j = k ∧ a = b) ∧ as = bs) (by simp)

end

instance : DecidableEq Value := decEq

end Value

end SwitchFabric.Yaml
