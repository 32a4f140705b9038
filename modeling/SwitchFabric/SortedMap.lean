/-!
# Maps in key order

A map is the list of its entries in ascending key order, each key once. Two maps with the same
entries are the same value, and walking a map visits its keys in order.

`get?_update` says what a key holds after an update, `mem_entries_iff` that the entries are what
`get?` finds, and `mem_keys_update` which keys there are.
-/

namespace SwitchFabric

/-- A strict total order on keys. -/
class OrderedKey (κ : Type) where
  before : κ → κ → Bool
  irrefl : ∀ a, before a a = false
  trans : ∀ {a b c}, before a b = true → before b c = true → before a c = true
  connected : ∀ {a b}, before a b = false → before b a = false → a = b

namespace OrderedKey

variable {κ : Type} [OrderedKey κ]

theorem ne_of_before {a b : κ} (h : before a b = true) : a ≠ b := by
  rintro rfl; simp [irrefl] at h

theorem before_asymm {a b : κ} (h : before a b = true) : before b a = false := by
  cases hb : before b a with
  | false => rfl
  | true => simpa [irrefl] using trans h hb

end OrderedKey

/-- Numbers are ordered by size. -/
instance : OrderedKey Nat where
  before a b := decide (a < b)
  irrefl := by simp
  trans := by simp only [decide_eq_true_eq]; omega
  connected := by simp only [decide_eq_false_iff_not]; omega

/-- Texts are ordered by the code points of their characters. -/
instance : OrderedKey String where
  before a b := decide (a < b)
  irrefl a := by simp
  trans h h' := by
    simp only [decide_eq_true_eq] at *
    exact String.lt_trans h h'
  connected h h' := by
    simp only [decide_eq_false_iff_not, String.not_lt] at *
    exact String.le_antisymm h' h

/-- Pairs are ordered by their first components, then by their second. -/
instance {κ μ : Type} [OrderedKey κ] [OrderedKey μ] : OrderedKey (κ × μ) where
  before a b :=
    OrderedKey.before a.1 b.1 || (!OrderedKey.before b.1 a.1 && OrderedKey.before a.2 b.2)
  irrefl a := by simp [OrderedKey.irrefl]
  trans {a b c} h h' := by
    simp only [Bool.or_eq_true, Bool.and_eq_true, Bool.not_eq_true'] at *
    rcases h with h | ⟨h, g⟩ <;> rcases h' with h' | ⟨h', g'⟩
    · exact .inl (OrderedKey.trans h h')
    · cases hbc : OrderedKey.before b.1 c.1 with
      | true => exact .inl (OrderedKey.trans h hbc)
      | false => rw [← OrderedKey.connected hbc h']; exact .inl h
    · cases hab : OrderedKey.before a.1 b.1 with
      | true => exact .inl (OrderedKey.trans hab h')
      | false => rw [OrderedKey.connected hab h]; exact .inl h'
    · cases hab : OrderedKey.before a.1 b.1 with
      | true =>
        cases hbc : OrderedKey.before b.1 c.1 with
        | true => exact .inl (OrderedKey.trans hab hbc)
        | false => rw [← OrderedKey.connected hbc h']; exact .inl hab
      | false => rw [OrderedKey.connected hab h]; exact .inr ⟨h', OrderedKey.trans g g'⟩
  connected {a b} h h' := by
    simp only [Bool.or_eq_false_iff, Bool.and_eq_false_imp, Bool.not_eq_true'] at *
    exact Prod.ext (OrderedKey.connected h.1 h'.1)
      (OrderedKey.connected (h.2 h'.1) (h'.2 h.1))

variable {κ ν μ : Type} [OrderedKey κ] [DecidableEq κ]

/-- A map with keys in ascending order. -/
structure SortedMap (κ ν : Type) [OrderedKey κ] where
  entries : List (κ × ν)
  ascending : entries.Pairwise fun a b => OrderedKey.before a.1 b.1 = true

namespace SortedMap

omit [DecidableEq κ] in
@[ext] theorem ext {m m' : SortedMap κ ν} (h : m.entries = m'.entries) : m = m' := by
  cases m; cases m'; cases h; rfl

instance [DecidableEq ν] : DecidableEq (SortedMap κ ν) := fun m m' =>
  decidable_of_iff (m.entries = m'.entries) ⟨ext, fun h => h ▸ rfl⟩

/-- No key has a value. -/
def empty : SortedMap κ ν := ⟨[], List.Pairwise.nil⟩

instance : Inhabited (SortedMap κ ν) := ⟨empty⟩

/-- The value of the first entry with key `k`. -/
def lookup (k : κ) : List (κ × ν) → Option ν
  | [] => none
  | (k', v) :: rest => if k = k' then some v else lookup k rest

/-- The entries after the value at `k` became `f` of the value before, in place. -/
def place (k : κ) (f : Option ν → ν) : List (κ × ν) → List (κ × ν)
  | [] => [(k, f none)]
  | (k', v) :: rest =>
    if k = k' then (k', f (some v)) :: rest
    else if OrderedKey.before k k' then (k, f none) :: (k', v) :: rest
    else (k', v) :: place k f rest

theorem mem_place_key {k : κ} {f : Option ν → ν} {entries : List (κ × ν)} {e : κ × ν}
    (h : e ∈ place k f entries) : e.1 = k ∨ ∃ e' ∈ entries, e'.1 = e.1 := by
  induction entries with
  | nil => simp only [place, List.mem_singleton] at h; simp [h]
  | cons e' rest ih =>
    rw [place] at h
    split at h
    · rcases List.mem_cons.1 h with rfl | h
      · exact .inr ⟨e', by simp, rfl⟩
      · exact .inr ⟨e, List.mem_cons_of_mem _ h, rfl⟩
    · split at h
      · rcases List.mem_cons.1 h with rfl | h
        · exact .inl rfl
        · exact .inr ⟨e, h, rfl⟩
      · rcases List.mem_cons.1 h with rfl | h
        · exact .inr ⟨e', by simp, rfl⟩
        · exact (ih h).imp id fun ⟨x, hx, hk⟩ => ⟨x, List.mem_cons_of_mem _ hx, hk⟩

theorem pairwise_place {k : κ} {f : Option ν → ν} {entries : List (κ × ν)}
    (h : entries.Pairwise fun a b => OrderedKey.before a.1 b.1 = true) :
    (place k f entries).Pairwise fun a b => OrderedKey.before a.1 b.1 = true := by
  induction entries with
  | nil => simp [place]
  | cons e rest ih =>
    obtain ⟨hhead, htail⟩ := List.pairwise_cons.1 h
    rw [place]
    split
    · exact List.pairwise_cons.2 ⟨hhead, htail⟩
    · next hne =>
      split
      · next hlt =>
        refine List.pairwise_cons.2 ⟨?_, h⟩
        intro x hx
        rcases List.mem_cons.1 hx with rfl | hx
        · exact hlt
        · exact OrderedKey.trans hlt (hhead x hx)
      · next hge =>
        refine List.pairwise_cons.2 ⟨?_, ih htail⟩
        intro x hx
        have hk : OrderedKey.before e.1 k = true := by
          cases hb : OrderedKey.before e.1 k with
          | true => rfl
          | false => exact absurd (OrderedKey.connected (by simpa using hge) hb) hne
        rcases mem_place_key hx with hx | ⟨y, hy, hyx⟩
        · rw [hx]; exact hk
        · rw [← hyx]; exact hhead y hy

/-- The value at `k`. -/
def get? (m : SortedMap κ ν) (k : κ) : Option ν := lookup k m.entries

/-- The key has a value. -/
def contains (m : SortedMap κ ν) (k : κ) : Bool := (m.get? k).isSome

/-- The map in which `k` holds `f` of what it held before. -/
def update (m : SortedMap κ ν) (k : κ) (f : Option ν → ν) : SortedMap κ ν :=
  ⟨place k f m.entries, pairwise_place m.ascending⟩

/-- The map in which `k` holds `v`. -/
def insert (m : SortedMap κ ν) (k : κ) (v : ν) : SortedMap κ ν := m.update k fun _ => v

/-- The entries of `l`; of two with one key the later counts. -/
def ofList (l : List (κ × ν)) : SortedMap κ ν :=
  l.foldl (fun m e => m.insert e.1 e.2) empty

/-- The keys in ascending order. -/
def keys (m : SortedMap κ ν) : List κ := m.entries.map Prod.fst

/-- The values in the order of their keys. -/
def values (m : SortedMap κ ν) : List ν := m.entries.map Prod.snd

/-- The number of keys. -/
def size (m : SortedMap κ ν) : Nat := m.entries.length

/-! ## What an update leaves -/

theorem lookup_place (k k' : κ) (f : Option ν → ν) {entries : List (κ × ν)}
    (h : entries.Pairwise fun a b => OrderedKey.before a.1 b.1 = true) :
    lookup k' (place k f entries) =
      if k' = k then some (f (lookup k entries)) else lookup k' entries := by
  induction entries with
  | nil => simp [place, lookup]
  | cons e rest ih =>
    obtain ⟨hhead, htail⟩ := List.pairwise_cons.1 h
    rw [place]
    split
    · next heq => by_cases hk : k' = k <;> simp_all [lookup]
    · next hne =>
      split
      · next hlt =>
        by_cases hk : k' = k
        · subst hk
          have hnone : lookup k' rest = none := by
            clear ih h htail
            induction rest with
            | nil => rfl
            | cons r rs ihr =>
              have hr := OrderedKey.trans hlt (hhead r (by simp))
              simp only [lookup, if_neg (OrderedKey.ne_of_before hr)]
              exact ihr fun x hx => hhead x (List.mem_cons_of_mem _ hx)
          simp [lookup, hne, hnone]
        · simp [lookup, hk]
      · by_cases hk : k' = k
        · subst hk; simp [lookup, hne, ih htail]
        · simp [lookup, hk, ih htail]

@[simp] theorem get?_update (m : SortedMap κ ν) (k k' : κ) (f : Option ν → ν) :
    (m.update k f).get? k' = if k' = k then some (f (m.get? k)) else m.get? k' :=
  lookup_place k k' f m.ascending

@[simp] theorem get?_insert (m : SortedMap κ ν) (k k' : κ) (v : ν) :
    (m.insert k v).get? k' = if k' = k then some v else m.get? k' := by
  simp [insert]

@[simp] theorem get?_empty (k : κ) : (empty : SortedMap κ ν).get? k = none := rfl

omit [OrderedKey κ] in
theorem mem_of_lookup {k : κ} {v : ν} {entries : List (κ × ν)} (h : lookup k entries = some v) :
    (k, v) ∈ entries := by
  induction entries with
  | nil => simp [lookup] at h
  | cons e rest ih =>
    rw [lookup] at h
    split at h
    · next heq => cases h; simp [heq]
    · exact List.mem_cons_of_mem _ (ih h)

theorem lookup_of_mem {k : κ} {v : ν} {entries : List (κ × ν)}
    (hs : entries.Pairwise fun a b => OrderedKey.before a.1 b.1 = true) (h : (k, v) ∈ entries) :
    lookup k entries = some v := by
  induction entries with
  | nil => simp at h
  | cons e rest ih =>
    obtain ⟨hhead, htail⟩ := List.pairwise_cons.1 hs
    rcases List.mem_cons.1 h with rfl | h
    · simp [lookup]
    · have hne : k ≠ e.1 := (OrderedKey.ne_of_before (hhead _ h)).symm
      simp [lookup, hne, ih htail h]

/-- The entries of a map are the values that its keys hold. -/
theorem mem_entries_iff {m : SortedMap κ ν} {k : κ} {v : ν} :
    (k, v) ∈ m.entries ↔ m.get? k = some v :=
  ⟨lookup_of_mem m.ascending, mem_of_lookup⟩

/-- The map with each value changed by a function of it and its key. -/
def mapValues (f : κ → ν → μ) (m : SortedMap κ ν) : SortedMap κ μ :=
  ⟨m.entries.map fun e => (e.1, f e.1 e.2), List.pairwise_map.2 m.ascending⟩

omit [OrderedKey κ] in
theorem lookup_map (f : κ → ν → μ) (k : κ) (entries : List (κ × ν)) :
    lookup k (entries.map fun e => (e.1, f e.1 e.2)) = (lookup k entries).map (f k) := by
  induction entries with
  | nil => rfl
  | cons e rest ih =>
    rw [List.map_cons, lookup, lookup, ih]
    split
    · next h => rw [h, Option.map_some]
    · rfl

@[simp] theorem get?_mapValues (f : κ → ν → μ) (m : SortedMap κ ν) (k : κ) :
    (m.mapValues f).get? k = (m.get? k).map (f k) :=
  lookup_map f k m.entries

theorem mem_keys_iff {m : SortedMap κ ν} {k : κ} : k ∈ m.keys ↔ ∃ v, m.get? k = some v := by
  constructor
  · rintro h
    obtain ⟨e, he, rfl⟩ := List.mem_map.1 h
    exact ⟨e.2, mem_entries_iff.1 he⟩
  · rintro ⟨v, h⟩
    exact List.mem_map.2 ⟨(k, v), mem_entries_iff.2 h, rfl⟩

theorem mem_keys_update {m : SortedMap κ ν} {k k' : κ} {f : Option ν → ν} :
    k' ∈ (m.update k f).keys ↔ k' = k ∨ k' ∈ m.keys := by
  simp only [mem_keys_iff, get?_update]
  by_cases h : k' = k <;> simp [h]

end SortedMap

end SwitchFabric
