import SwitchFabric.Proofs.Yaml.Uninterpreted

/-!
# What readers ensure

A property of all that a reader can read, from whatever document (`Ensures`): a number is within its limit, what a list
holds has what the reader of its items ensures, and a record keeps what holds of it before any field is read and what each
field keeps (`ensures_record`). Uninterpreted values nest no deeper than is read (`ensures_value`).
-/

namespace SwitchFabric.Yaml

/-- Whatever is read has the property. -/
def Ensures {α : Type} (m : Read α) (P : α → Prop) : Prop :=
  ∀ document steps a steps', m document steps = .ok (a, steps') → P a

variable {α β ρ : Type} {m : Read α} {P Q : α → Prop} {R : β → Prop}

theorem Ensures.bind {f : α → Read β} (hm : Ensures m Q) (hf : ∀ a, Q a → Ensures (f a) R) : Ensures (m >>= f) R := by
  intro document steps b steps' h
  have heq : (m >>= f) document steps = m document steps >>= fun x => f x.1 document x.2 := rfl
  rw [heq] at h
  cases hx : m document steps with
  | error fault =>
    rw [hx] at h
    cases h
  | ok x =>
    rw [hx] at h
    exact hf x.1 (hm document steps x.1 x.2 hx) document x.2 b steps' h

namespace Read

theorem ensures_pure {a : α} (h : P a) : Ensures (pure a) P := by
  rintro document steps _ _ ⟨⟩
  exact h

theorem ensures_refuse : Ensures refuse P := by
  rintro document steps _ _ ⟨⟩

theorem ensures_refuseFor (reason : String) : Ensures (refuseFor reason) P := by
  rintro document steps _ _ ⟨⟩

theorem ensures_true (m : Read α) : Ensures m fun _ => True := fun _ _ _ _ _ => trivial

/-- What comes last decides. -/
theorem ensures_bind {f : α → Read β} (hf : ∀ a, Ensures (f a) R) : Ensures (m >>= f) R :=
  (ensures_true m).bind fun a _ => hf a

theorem le_of_unsigned? {limit k : Nat} {cs : List Char} (h : unsigned? limit cs = some k) : k ≤ limit := by
  have hfilter {x : Option Nat} (h : x.filter (· ≤ limit) = some k) : k ≤ limit := by
    simpa using (Option.filter_eq_some_iff.1 h).2
  unfold unsigned? at h
  extract_lets body at h
  split at h
  · exact hfilter h
  · split at h
    · cases h
    · exact hfilter h

theorem ensures_number (limit : Nat) (n : Node) : Ensures (number limit n) fun k => k ≤ limit := by
  refine ensures_bind fun text => ?_
  split
  · next hk => exact ensures_pure (le_of_unsigned? hk)
  · exact ensures_refuse

theorem ensures_optional {item : Node → Read α} (h : ∀ n, Ensures (item n) P) (n : Node) :
    Ensures (optional item n) fun x => ∀ a ∈ x, P a := by
  have hsome (n : Node) : Ensures (do return some (← item n) : Read (Option α)) fun x => ∀ a ∈ x, P a :=
    (h n).bind fun a ha => ensures_pure fun b hb => Option.some.inj hb ▸ ha
  have hnone : Ensures (pure none : Read (Option α)) fun x => ∀ a ∈ x, P a := ensures_pure fun _ => nofun
  refine ensures_bind fun n => ?_
  split
  · split
    · split
      · exact hnone
      · exact ensures_refuse
    · split
      · exact hnone
      · exact hsome _
  · exact hsome _

theorem ensures_mapM {item : Node → Read α} (h : ∀ n, Ensures (item n) P) (ns : List Node) :
    Ensures (ns.mapM item) fun l => ∀ a ∈ l, P a := by
  induction ns with
  | nil => exact ensures_pure fun _ => nofun
  | cons n ns ih =>
    rw [List.mapM_cons]
    exact (h n).bind fun a ha => ih.bind fun l hl => ensures_pure (List.forall_mem_cons.2 ⟨ha, hl⟩)

theorem ensures_list {item : Node → Read α} (h : ∀ n, Ensures (item n) P) (n : Node) :
    Ensures (list item n) fun l => ∀ a ∈ l, P a := by
  refine ensures_bind fun n => ?_
  split
  · exact ensures_mapM h _
  · split
    · exact ensures_pure fun _ => nofun
    · exact ensures_refuse
  · exact ensures_refuse

/-! ## Records -/

variable {I : ρ → Prop}

/-- Reading any of the fields keeps what holds of the record. -/
def KeptBy (I : ρ → Prop) (fields : List (Field ρ)) : Prop :=
  ∀ field ∈ fields, ∀ n r, I r → Ensures (field.take n r) I

namespace KeptBy

variable {name : String} {required : Bool} {item : Node → Read α} {fields : List (Field ρ)}

theorem nil : KeptBy I [] := List.forall_mem_nil _

/-- A field that is put into the record. -/
theorem given {put : α → ρ → ρ} (h : ∀ n, Ensures (item n) P) (hput : ∀ a r, P a → I r → I (put a r))
    (hrest : KeptBy I fields) : KeptBy I (⟨name, required, fun n r => do return put (← item n) r⟩ :: fields) :=
  List.forall_mem_cons.2 ⟨fun n r hr => (h n).bind fun a ha => ensures_pure (hput a r ha hr), hrest⟩

/-- A field that may be absent. -/
theorem optional {put : Option α → ρ → ρ} (h : ∀ n, Ensures (item n) P)
    (hput : ∀ x r, (∀ a ∈ x, P a) → I r → I (put x r)) (hrest : KeptBy I fields) :
    KeptBy I (.optional name item put :: fields) :=
  given (ensures_optional h) hput hrest

/-- A field of which nothing need be known. -/
theorem other {put : α → ρ → ρ} (hput : ∀ a r, I r → I (put a r)) (hrest : KeptBy I fields) :
    KeptBy I (⟨name, required, fun n r => do return put (← item n) r⟩ :: fields) :=
  given (fun n => ensures_true (item n)) (fun a r _ => hput a r) hrest

end KeptBy

theorem ensures_entries {fields : List (Field ρ)} (h : KeptBy I fields) (given : List (Node × Node))
    {seen : List String} {r : ρ} (hr : I r) : Ensures (entries fields seen r given) fun x => I x.2 := by
  induction given generalizing seen r with
  | nil => exact ensures_pure hr
  | cons e given ih =>
    obtain ⟨key, content⟩ := e
    refine ensures_bind fun name => ?_
    split
    · exact ensures_bind fun _ => ih hr
    · next field hfield =>
      split
      · exact ensures_refuse
      · exact (h field (List.mem_of_find?_eq_some hfield) content r hr).bind fun r' hr' => ih hr'

/-- A record keeps what each field keeps. -/
theorem ensures_record {fields : List (Field ρ)} {start : ρ} (hstart : I start) (h : KeptBy I fields)
    (n : Node) : Ensures (record fields start n) I := by
  refine ensures_bind fun n => ?_
  dsimp only
  split
  on_goal 2 => split
  -- in each case there are entries, which are read before the missing ones are looked for
  all_goals
    refine ensures_bind fun given => (ensures_entries h given hstart).bind fun x hx => ?_
    split
    · exact ensures_refuseFor _
    · exact ensures_pure hx

/-! ## Uninterpreted values -/

theorem ensures_plainValue (s : String) : Ensures (plainValue s) fun v => v.depth = 0 := by
  unfold plainValue
  split
  all_goals first | exact ensures_pure rfl | exact ensures_refuse

theorem ensures_scalarValue (tagged : Bool) (s : Scalar) : Ensures (scalarValue tagged s) fun v => v.depth = 0 := by
  have huntagged : Ensures (if s.style == .plain then plainValue s.text else return .string s.text)
      fun v => v.depth = 0 := by
    split
    · exact ensures_plainValue s.text
    · exact ensures_pure rfl
  unfold scalarValue
  dsimp only
  split
  · exact huntagged
  · split
    · exact huntagged
    all_goals first
      | exact ensures_pure rfl
      | split <;> first | exact ensures_pure rfl | exact ensures_refuse

theorem ensures_distinctEntries {d : Nat} {item : Node → Read Value} (h : ∀ n, Ensures (item n) fun v => v.depth ≤ d)
    (rest : List (Node × Node)) {given : List (Value × Value)} (hgiven : Value.entriesDepth given ≤ d) :
    Ensures (distinctEntries item given rest) fun entries => Value.entriesDepth entries ≤ d := by
  induction rest generalizing given with
  | nil => exact ensures_pure hgiven
  | cons e rest ih =>
    obtain ⟨key, content⟩ := e
    refine (h key).bind fun k hk => ?_
    split
    · exact ensures_refuse
    · refine (h content).bind fun v hv => ih (Value.entriesDepth_le.2 fun e he => ?_)
      rcases List.mem_append.1 he with he | he
      · exact Value.entriesDepth_le.1 hgiven e he
      · rw [List.mem_singleton.1 he]
        exact ⟨hk, hv⟩

theorem ensures_typed {d : Nat} {inner : Option (Node → Read Value)}
    (h : ∀ item ∈ inner, 0 < d ∧ ∀ n, Ensures (item n) fun v => v.depth ≤ d - 1) (n : Node) :
    Ensures (typed inner n) fun v => v.depth ≤ d := by
  have hcontent (tagged : Bool) (n : Node) : Ensures (content inner tagged n) fun v => v.depth ≤ d := by
    unfold content
    split
    · exact fun document steps v steps' hv =>
        Nat.le_trans (Nat.le_of_eq (ensures_scalarValue _ _ document steps v steps' hv)) (Nat.zero_le d)
    · next item =>
      obtain ⟨hpos, hitem⟩ := h item rfl
      refine (ensures_mapM hitem _).bind fun items hitems => ensures_pure ?_
      have := Value.itemsDepth_le.2 hitems
      rw [Value.depth]
      omega
    · next item =>
      obtain ⟨hpos, hitem⟩ := h item rfl
      refine (ensures_distinctEntries hitem _ (Nat.zero_le _)).bind fun entries hentries => ensures_pure ?_
      rw [Value.depth]
      omega
    · exact ensures_refuse
  refine ensures_bind fun n => (hcontent _ n).bind fun v hv => ?_
  split
  · exact ensures_pure hv
  · exact ensures_pure hv

/-- No value is nested deeper than is read. -/
theorem ensures_value (d : Nat) (n : Node) : Ensures (value d n) fun v => v.depth ≤ d := by
  induction d generalizing n with
  | zero =>
    refine ensures_typed (fun item hitem => ?_) n
    cases hitem
  | succ d ih =>
    refine ensures_typed (fun item hitem => ⟨Nat.succ_pos d, ?_⟩) n
    cases hitem
    exact ih

end Read

/-- A reader ensures the same of what it reads from a text. -/
theorem Ensures.of_readText {item : Node → Read α} (h : ∀ n, Ensures (item n) P) {text : List Char} {a : α}
    (hread : readText item text = .ok a) : P a := by
  rw [readText] at hread
  cases hroot : item (Document.ofText text).root (Document.ofText text) 0 with
  | error fault =>
    rw [ReaderT.run, StateT.run, hroot] at hread
    cases hread
  | ok x =>
    rw [ReaderT.run, StateT.run, hroot] at hread
    have hclosed :
        (if (Document.ofText text).closed = true then pure x.1 else throw ⟨none⟩ : Except Fault α) = .ok a := hread
    split at hclosed
    · cases hclosed
      exact h _ _ _ _ _ hroot
    · cases hclosed

end SwitchFabric.Yaml
