import SwitchFabric.Proofs.Yaml.Spelling

/-!
# Values that are not interpreted

A plain value is built from texts, truth values, numbers of 64 bits, lists and mappings with texts for keys
(`Value.Plain`). It is read back as it was written, if it does not nest lists and mappings deeper than is read
(`restores_value`).
-/

namespace SwitchFabric.Yaml

namespace Value

/-- The value is built from texts, truth values, numbers of 64 bits, lists, and mappings from different texts. -/
inductive Plain : Value → Prop where
  | string (s : String) : Plain (.string s)
  | bool (b : Bool) : Plain (.bool b)
  | int {n : Int} : -(2 ^ 63) ≤ n → n < 2 ^ 64 → Plain (.int n)
  | sequence {items : List Value} : (∀ item ∈ items, Plain item) → Plain (.sequence items)
  | mapping {entries : List (Value × Value)} : (∀ e ∈ entries, ∃ name, e.1 = .string name) →
    (entries.map Prod.fst).Nodup → (∀ e ∈ entries, Plain e.2) → Plain (.mapping entries)

mutual

/-- How many lists and mappings stand inside each other. -/
def depth : Value → Nat
  | .sequence items => itemsDepth items + 1
  | .mapping entries => entriesDepth entries + 1
  | .tagged _ content => content.depth
  | .null | .bool _ | .int _ | .real _ | .string _ => 0

/-- The depth of the deepest item. -/
def itemsDepth : List Value → Nat
  | [] => 0
  | item :: items => max item.depth (itemsDepth items)

/-- The depth of the deepest key or value. -/
def entriesDepth : List (Value × Value) → Nat
  | [] => 0
  | (key, content) :: entries => max (max key.depth content.depth) (entriesDepth entries)

end

theorem itemsDepth_le {d : Nat} {items : List Value} : itemsDepth items ≤ d ↔ ∀ item ∈ items, item.depth ≤ d := by
  induction items with
  | nil => simp [itemsDepth]
  | cons item items ih => rw [itemsDepth, Nat.max_le, ih, List.forall_mem_cons]

theorem entriesDepth_le {d : Nat} {entries : List (Value × Value)} :
    entriesDepth entries ≤ d ↔ ∀ e ∈ entries, e.1.depth ≤ d ∧ e.2.depth ≤ d := by
  induction entries with
  | nil => simp [entriesDepth]
  | cons e entries ih => rw [entriesDepth, Nat.max_le, Nat.max_le, ih, List.forall_mem_cons]

end Value

namespace Read

/-- Entries with different keys are read one after the other. -/
theorem distinctEntries_of_spells {item : Node → Read Value} {given entries : List (Value × Value)}
    (hnodup : ((given ++ entries).map Prod.fst).Nodup)
    (h : ∀ e ∈ entries, Restores item e.1 e.1 ∧ Restores item e.2 e.2) {ns : List (Node × Node)}
    (hns : List.Forall₂ (fun n v => n.1.spells v.1 = true ∧ n.2.spells v.2 = true) ns entries) :
    distinctEntries item given ns = pure (given ++ entries) := by
  induction hns generalizing given with
  | nil => rw [distinctEntries, List.append_nil]
  | @cons n e ns entries hn _ ih =>
    obtain ⟨he, hentries⟩ := List.forall_mem_cons.1 h
    have hnew : (given.any fun entry => entry.1 == e.1) = false := by
      rw [List.any_eq_false]
      intro entry hm heq
      rw [List.map_append, List.nodup_append] at hnodup
      exact hnodup.2.2 _ (List.mem_map_of_mem hm) _ (List.mem_map_of_mem List.mem_cons_self) (beq_iff_eq.1 heq)
    have hnext : ((given ++ [e] ++ entries).map Prod.fst).Nodup := by
      rw [List.append_assoc]
      exact hnodup
    rw [distinctEntries, he.1 _ hn.1, pure_bind, hnew, if_neg Bool.false_ne_true, he.2 _ hn.2, pure_bind,
      ih hnext hentries, List.append_assoc]
    rfl

/-- What spells a value is given no type. -/
theorem typeName_of_spells {n : Node} {v : Value} (h : n.spells v = true) : typeName n = none := by
  cases spelling_of_spells h <;> rfl

/-- What stands where a collection of depth `d` may. -/
def inner : Nat → Option (Node → Read Value)
  | 0 => none
  | d + 1 => some (value d)

theorem value_of_spells {n : Node} {v : Value} (h : n.spells v = true) (d : Nat) :
    value d n = content (inner d) false n := by
  have htyped (inner : Option (Node → Read Value)) : typed inner n = content inner false n := by
    rw [typed, follow_of_spells h, pure_bind, typeName_of_spells h]
    exact bind_pure _
  cases d <;> exact htyped _

theorem restores_string (d : Nat) (s : String) : Restores (value d) (.string s) (.string s) := by
  intro n hn
  rw [value_of_spells hn]
  cases spelling_of_spells hn with
  | @string _ style hstyle =>
    cases style with
    | plain =>
      show plainValue s = _
      rw [plainValue, hstyle rfl]
    | _ => rfl

/-- A plain value is read as it is, if it is not nested too deep. -/
theorem restores_value {v : Value} (h : v.Plain) {d : Nat} (hd : v.depth ≤ d) : Restores (value d) v v := by
  induction h generalizing d with
  | string s => exact restores_string d s
  | bool b =>
    intro n hn
    rw [value_of_spells hn]
    cases spelling_of_spells hn
    cases b <;> rfl
  | int hlow hhigh =>
    intro n hn
    rw [value_of_spells hn]
    cases spelling_of_spells hn
    show plainValue (toString _) = _
    rw [plainValue, resolve_toString hlow hhigh]
  | @sequence items h ih =>
    rw [Value.depth] at hd
    obtain ⟨d, rfl⟩ := Nat.exists_eq_add_of_le' (Nat.le_trans (Nat.le_add_left 1 _) hd)
    have hitems := Value.itemsDepth_le.1 (Nat.le_of_succ_le_succ hd)
    intro n hn
    rw [value_of_spells hn]
    cases spelling_of_spells hn with
    | sequence hns =>
      rw [← List.map_id items] at hns
      have hread := mapM_of_spells (fun item hi => ih item hi (hitems item hi)) hns
      show (do return .sequence (← _) : Read Value) = _
      rw [hread, pure_bind]
  | @mapping entries hkeys hnodup h ih =>
    rw [Value.depth] at hd
    obtain ⟨d, rfl⟩ := Nat.exists_eq_add_of_le' (Nat.le_trans (Nat.le_add_left 1 _) hd)
    have hentries := Value.entriesDepth_le.1 (Nat.le_of_succ_le_succ hd)
    intro n hn
    rw [value_of_spells hn]
    cases spelling_of_spells hn with
    | mapping hns =>
      have hrestores : ∀ e ∈ entries, Restores (value d) e.1 e.1 ∧ Restores (value d) e.2 e.2 := fun e he => by
        obtain ⟨name, hname⟩ := hkeys e he
        refine ⟨?_, ih e he (hentries e he).2⟩
        rw [hname]
        exact restores_string d name
      have hread := @distinctEntries_of_spells (value d) [] entries hnodup hrestores _ hns
      show (do return .mapping (← _) : Read Value) = _
      rw [hread, pure_bind, List.nil_append]

end Read

end SwitchFabric.Yaml
