import Mathlib.Data.List.Forall2
import Mathlib.Data.List.Nodup
import SwitchFabric.Cluster.Dump
import SwitchFabric.Proofs.Yaml.Numbers
import SwitchFabric.Yaml.Reader

/-!
# Values written in a document

A node spells a value if it is written as a printer writes it (`Node.spells`): truth values and numbers plain, and texts in
quotes, as blocks, or plain where a plain text would be taken for nothing else. Brackets or indentation make no difference.
A reader restores what it reads from whatever node spells the data of it (`Restores`). Readers of scalars, lists and
optional values do so, and the reader of a record does so field by field (`restores_record`). What is restored is read from
each text that consists of the data (`readText_of_spells`).
-/

namespace SwitchFabric.Yaml

mutual

/-- The node is how a value is written. -/
def Node.spells : Node → Value → Bool
  | .scalar ⟨none, text, style⟩, .string s => text == s && (style != .plain || resolve text == .text)
  | .scalar ⟨none, text, .plain⟩, .bool b => text == if b then "true" else "false"
  | .scalar ⟨none, text, .plain⟩, .int n => text == toString n
  | .sequence none items, .sequence vs => itemsSpell items vs
  | .mapping none entries, .mapping vs => entriesSpell entries vs
  | _, _ => false

/-- The items spell the values one by one. -/
def itemsSpell : List Node → List Value → Bool
  | [], [] => true
  | n :: ns, v :: vs => n.spells v && itemsSpell ns vs
  | _, _ => false

/-- The entries spell keys and values one by one, in their order. -/
def entriesSpell : List (Node × Node) → List (Value × Value) → Bool
  | [], [] => true
  | (k, n) :: ns, (j, v) :: vs => k.spells j && n.spells v && entriesSpell ns vs
  | _, _ => false

end

/-- The document is whole and consists of the value. -/
def Document.Spells (d : Document) (v : Value) : Prop := d.closed = true ∧ d.root.spells v = true

instance (d : Document) (v : Value) : Decidable (d.Spells v) := inferInstanceAs (Decidable (_ ∧ _))

theorem forall₂_of_itemsSpell {ns : List Node} {vs : List Value} (h : itemsSpell ns vs = true) :
    List.Forall₂ (fun n v => n.spells v = true) ns vs := by
  induction ns generalizing vs with
  | nil => cases vs <;> simp_all [itemsSpell]
  | cons n ns ih => cases vs <;> simp_all [itemsSpell]

theorem forall₂_of_entriesSpell {ns : List (Node × Node)} {vs : List (Value × Value)} (h : entriesSpell ns vs = true) :
    List.Forall₂ (fun n v => n.1.spells v.1 = true ∧ n.2.spells v.2 = true) ns vs := by
  induction ns generalizing vs with
  | nil => cases vs <;> simp_all [entriesSpell]
  | cons n ns ih => cases vs <;> simp_all [entriesSpell]

/-- The nodes that spell values, by the kind of the value. -/
inductive Spelling : Node → Value → Prop where
  | string (s : String) {style : ScalarStyle} : (style = .plain → resolve s = .text) →
    Spelling (.scalar ⟨none, s, style⟩) (.string s)
  | bool (b : Bool) : Spelling (.scalar ⟨none, if b then "true" else "false", .plain⟩) (.bool b)
  | int (k : Int) : Spelling (.scalar ⟨none, toString k, .plain⟩) (.int k)
  | sequence {ns : List Node} {vs : List Value} :
    List.Forall₂ (fun n v => n.spells v = true) ns vs → Spelling (.sequence none ns) (.sequence vs)
  | mapping {ns : List (Node × Node)} {vs : List (Value × Value)} :
    List.Forall₂ (fun n v => n.1.spells v.1 = true ∧ n.2.spells v.2 = true) ns vs →
    Spelling (.mapping none ns) (.mapping vs)

theorem spelling_of_spells {n : Node} {v : Value} (h : n.spells v = true) : Spelling n v := by
  unfold Node.spells at h
  split at h
  · obtain ⟨htext, hstyle⟩ := Bool.and_eq_true_iff.1 h
    rw [beq_iff_eq.1 htext] at hstyle ⊢
    exact .string _ fun hplain => by simpa [hplain] using hstyle
  · rw [beq_iff_eq.1 h]
    exact .bool _
  · rw [beq_iff_eq.1 h]
    exact .int _
  · exact .sequence (forall₂_of_itemsSpell h)
  · exact .mapping (forall₂_of_entriesSpell h)
  · cases h

/-- Whatever spells the data of a value is read as the value. -/
def Restores {α : Type} (item : Node → Read α) (v : Value) (a : α) : Prop :=
  ∀ n : Node, n.spells v = true → item n = pure a

namespace Read

variable {α ρ : Type} {item : Node → Read α} {v : Value} {n : Node}

/-! ## Scalars -/

theorem follow_of_spells (h : n.spells v = true) : follow n = pure n := by
  cases spelling_of_spells h <;> rfl

theorem restores_text (s : String) : Restores text (.string s) s := by
  intro n h
  cases spelling_of_spells h
  rfl

theorem restores_number {limit k : Nat} (hk : k ≤ limit) : Restores (number limit) (.int k) k := by
  intro n h
  cases spelling_of_spells h
  have hread : unsigned? limit (toString (k : Int)).toList = some k := by
    rw [toList_toString, if_pos (Int.natCast_nonneg k)]
    exact unsigned?_digits hk
  unfold number
  show bind (pure (toString (k : Int))) _ = _
  rw [pure_bind, hread]

theorem restores_flag (b : Bool) : Restores flag (.bool b) b := by
  intro n h
  cases spelling_of_spells h
  cases b <;> rfl

/-- What is taken for a text is written, and is not null. -/
theorem not_null_of_resolve {s : String} (h : resolve s = .text) : (s.isEmpty || isNull s) = false := by
  rw [Bool.eq_false_iff]
  intro hnull
  have hempty : s.isEmpty = s.toList.isEmpty := by
    rw [Bool.eq_iff_iff, String.isEmpty_iff, List.isEmpty_iff, String.toList_eq_nil_iff]
  rw [hempty] at hnull
  rw [resolve, if_pos hnull] at h
  cases h

/-- A plain scalar that is not null is there. -/
theorem optional_plain {s : String} (h : (s.isEmpty || isNull s) = false) :
    optional item (.scalar ⟨none, s, .plain⟩) = do return some (← item (.scalar ⟨none, s, .plain⟩)) := by
  show (if (s.isEmpty || isNull s : Bool) then pure none else do return some (← item _) : Read (Option α)) = _
  rw [h, if_neg Bool.false_ne_true]

/-- What is written is there. -/
theorem optional_of_spells (h : n.spells v = true) : optional item n = do return some (← item n) := by
  cases spelling_of_spells h with
  | @string s style hstyle =>
    cases style with
    | plain => exact optional_plain (not_null_of_resolve (hstyle rfl))
    | _ => rfl
  | bool b => cases b <;> rfl
  | int k =>
    refine optional_plain ?_
    obtain ⟨c, cs, hcs, -⟩ := exists_toString k
    rw [isNull_toString, Bool.or_false, String.isEmpty_eq_false_iff]
    intro hempty
    rw [hempty] at hcs
    cases hcs
  | sequence | mapping => rfl

theorem restores_optional {a : α} (h : Restores item v a) : Restores (Read.optional item) v (some a) := by
  intro n hn
  rw [optional_of_spells hn, h n hn]
  rfl

/-! ## Lists -/

theorem mapM_of_spells {f : α → Value} {l : List α} (h : ∀ a ∈ l, Restores item (f a) a) {ns : List Node}
    (hns : List.Forall₂ (fun n v => n.spells v = true) ns (l.map f)) : ns.mapM item = pure l := by
  induction l generalizing ns with
  | nil =>
    cases hns
    rfl
  | cons a l ih =>
    cases hns with
    | cons hn hns =>
      obtain ⟨ha, hl⟩ := List.forall_mem_cons.1 h
      rw [List.mapM_cons, ha _ hn, pure_bind, ih hl hns]
      rfl

theorem restores_list {f : α → Value} {l : List α} (h : ∀ a ∈ l, Restores item (f a) a) :
    Restores (Read.list item) (.sequence (l.map f)) l := by
  intro n hn
  rw [Read.list, follow_of_spells hn, pure_bind]
  cases spelling_of_spells hn with
  | sequence hns => exact mapM_of_spells h hns

/-! ## Records -/

/-- Fields are read from data, where absent ones are left out, into a record that becomes another by that. -/
inductive RestoresFields : List (Field ρ) → List (String × Option Value) → ρ → ρ → Prop where
  | nil (r : ρ) : RestoresFields [] [] r r
  | given (field : Field ρ) {fields : List (Field ρ)} {v : Value} {data : List (String × Option Value)} {r r' r'' : ρ} :
    (∀ n : Node, n.spells v = true → field.take n r = pure r') → RestoresFields fields data r' r'' →
    RestoresFields (field :: fields) ((field.name, some v) :: data) r r''
  | absent (field : Field ρ) {fields : List (Field ρ)} {data : List (String × Option Value)} {r r' : ρ} :
    field.required = false → RestoresFields fields data r r' →
    RestoresFields (field :: fields) ((field.name, none) :: data) r r'

namespace RestoresFields

variable {fields : List (Field ρ)} {data : List (String × Option Value)} {name : String} {r r' : ρ} {a : α}
  {put : α → ρ → ρ}

theorem needed (h : Restores item v a) (hrest : RestoresFields fields data (put a r) r') :
    RestoresFields (.needed name item put :: fields) ((name, some v) :: data) r r' := by
  refine RestoresFields.given (.needed name item put) (fun n hn => ?_) hrest
  show (do return put (← item n) r : Read ρ) = _
  rw [h n hn, pure_bind]

theorem defaulted (h : Restores item v a) (hrest : RestoresFields fields data (put a r) r') :
    RestoresFields (.defaulted name item put :: fields) ((name, some v) :: data) r r' := by
  refine RestoresFields.given (.defaulted name item put) (fun n hn => ?_) hrest
  show (do return put (← item n) r : Read ρ) = _
  rw [h n hn, pure_bind]

/-- An optional field, which the record does not have yet. -/
theorem optional {put : Option α → ρ → ρ} {f : α → Value} {x : Option α} {written : Option Value}
    (hwritten : written = x.map f) (h : ∀ a ∈ x, Restores item (f a) a) (hnone : put none r = r)
    (hrest : RestoresFields fields data (put x r) r') :
    RestoresFields (.optional name item put :: fields) ((name, written) :: data) r r' := by
  rw [hwritten]
  cases x with
  | none =>
    rw [hnone] at hrest
    exact RestoresFields.absent (.optional name item put) rfl hrest
  | some a => exact .defaulted (restores_optional (h a rfl)) hrest

end RestoresFields

/-- The field with a name, where no two have the same. -/
theorem find?_field {fields : List (Field ρ)} (hnodup : (fields.map (·.name)).Nodup) {field : Field ρ}
    (hmem : field ∈ fields) : (fields.find? fun f => f.name == field.name) = some field := by
  cases hf : fields.find? fun f => f.name == field.name with
  | none => simpa using List.find?_eq_none.1 hf field hmem
  | some f =>
    have hname : f.name = field.name := by simpa using List.find?_some hf
    rw [List.inj_on_of_nodup_map hnodup (List.mem_of_find?_eq_some hf) hmem hname]

theorem RestoresFields.entries {all fields : List (Field ρ)} {data : List (String × Option Value)} {r r' : ρ}
    (h : RestoresFields fields data r r') (hsub : fields.Sublist all) (hnodup : (all.map (·.name)).Nodup)
    {seen : List String} (hseen : ∀ field ∈ fields, field.name ∉ seen) {ns : List (Node × Node)}
    (hns : List.Forall₂ (fun n v => n.1.spells v.1 = true ∧ n.2.spells v.2 = true) ns
      (data.filterMap fun (name, value) => value.map fun v => (.string name, v))) :
    ∃ given, Read.entries all seen r ns = pure (given, r') ∧ (∀ name ∈ seen, name ∈ given) ∧
      ∀ field ∈ fields, field.required = true → field.name ∈ given := by
  induction h generalizing seen ns with
  | nil r =>
    cases hns
    exact ⟨seen, rfl, fun _ => id, fun _ h => nomatch h⟩
  | @given field fields v data r r₁ r' htake _ ih =>
    have hname := (List.nodup_cons.1 (hnodup.sublist (hsub.map _))).1
    cases hns with
    | @cons e _ ns _ he hns =>
      obtain ⟨key, value⟩ := e
      have hnew : ∀ other ∈ fields, other.name ∉ field.name :: seen := fun other ho hm => by
        rcases List.mem_cons.1 hm with heq | hm
        · exact hname (List.mem_map.2 ⟨other, ho, heq⟩)
        · exact hseen other (List.mem_cons_of_mem _ ho) hm
      obtain ⟨given, hread, hkept, hrequired⟩ := ih ((List.sublist_cons_self ..).trans hsub) hnew hns
      have hfound := find?_field hnodup (hsub.subset List.mem_cons_self)
      have hfresh : seen.contains field.name = false := by simpa using hseen field List.mem_cons_self
      refine ⟨given, ?_, fun name hm => hkept name (List.mem_cons_of_mem _ hm), fun other ho hr => ?_⟩
      · rw [Read.entries, restores_text field.name key he.1, pure_bind, hfound]
        dsimp only
        rw [hfresh, if_neg Bool.false_ne_true, htake value he.2, pure_bind, hread]
      · rcases List.mem_cons.1 ho with rfl | ho
        · exact hkept _ List.mem_cons_self
        · exact hrequired other ho hr
  | @absent field fields data r r' hoptional _ ih =>
    obtain ⟨given, hread, hkept, hrequired⟩ :=
      ih ((List.sublist_cons_self ..).trans hsub) (fun other ho => hseen other (List.mem_cons_of_mem _ ho)) hns
    refine ⟨given, hread, hkept, fun other ho hr => ?_⟩
    rcases List.mem_cons.1 ho with rfl | ho
    · rw [hoptional] at hr
      cases hr
    · exact hrequired other ho hr

/-- A record is restored field by field. -/
theorem restores_record {fields : List (Field ρ)} {data : List (String × Option Value)} {start r : ρ}
    (hnodup : (fields.map (·.name)).Nodup) (h : RestoresFields fields data start r) :
    Restores (Read.record fields start) (Dump.record data) r := by
  intro n hn
  rw [Read.record, follow_of_spells hn, pure_bind]
  cases spelling_of_spells hn with
  | mapping hns =>
    obtain ⟨given, hread, -, hrequired⟩ := h.entries (List.Sublist.refl _) hnodup (fun _ _ => List.not_mem_nil) hns
    have hcomplete : (fields.find? fun field => field.required && !given.contains field.name) = none := by
      refine List.find?_eq_none.2 fun field hm => ?_
      have := hrequired field hm
      simp_all
    dsimp only
    rw [pure_bind, hread, pure_bind]
    dsimp only
    rw [hcomplete]

end Read

/-- What is restored from data is read from each text that consists of the data. -/
theorem readText_of_spells {α : Type} {item : Node → Read α} {v : Value} {a : α} (h : Restores item v a) {text : List Char}
    (htext : (Document.ofText text).Spells v) : readText item text = .ok a := by
  rw [readText, h _ htext.2]
  show (if (Document.ofText text).closed = true then pure a else throw ⟨none⟩ : Except Fault α) = _
  rw [if_pos htext.1]
  rfl

end SwitchFabric.Yaml
