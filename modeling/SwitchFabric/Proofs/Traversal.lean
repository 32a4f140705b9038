import Mathlib.Control.Monad.Basic
import Mathlib.Data.List.Forall2
import SwitchFabric.SortedMap

/-!
# Traversals

What holds after a traversal of a list that ended well: a check of all elements held for each (`forM_ok_iff`), a
computation on all elements gave a value for each (`forall₂_of_mapM`), and a fold kept what each of its steps
keeps (`foldlM_keeps`), or holds what some step has put in (`foldl_gathers`, `foldlM_gathers`), or has behind one another
what its steps add (`foldl_appends`), or what the last step to write has written (`foldl_overwrites`). A traversal that
fails does so for the reason of one of its elements (`exists_of_forM_error`, `exists_of_mapM_error`,
`exists_of_foldlM_error`); `exists_foldlM_error_iff` says when. `mem_keys_ofList`, `get?_ofList_of_last` and `get?_ofList`
are about the map that is made from a list, and `AllValues` is what a fold keeps that writes values of a kind into a map.

What stands in two lists put together stands in the first or in the second (`split_append`), and in the other where it is
not in one of them (`split_append_left`, `split_append_right`).
-/

namespace SwitchFabric

variable {α β ε : Type}

/-! ## Places in a list -/

section

variable {xs ys before after : List α} {x : α}

theorem split_append (h : xs ++ ys = before ++ x :: after) :
    (∃ rest, xs = before ++ x :: rest ∧ after = rest ++ ys) ∨
      ∃ front, before = xs ++ front ∧ ys = front ++ x :: after := by
  rcases List.append_eq_append_iff.1 h with ⟨front, hbefore, hys⟩ | ⟨rest, hxs, hrest⟩
  · exact .inr ⟨front, hbefore, hys⟩
  · cases rest with
    | nil => exact .inr ⟨[], by rw [hxs, List.append_nil, List.append_nil], hrest.symm⟩
    | cons y rest =>
      obtain ⟨rfl, rfl⟩ := List.cons.inj hrest
      exact .inl ⟨rest, hxs, rfl⟩

theorem split_append_left (hys : x ∉ ys) (h : xs ++ ys = before ++ x :: after) :
    ∃ rest, xs = before ++ x :: rest ∧ after = rest ++ ys := by
  obtain hsplit | ⟨front, -, rfl⟩ := split_append h
  · exact hsplit
  · exact absurd (List.mem_append_right front List.mem_cons_self) hys

theorem split_append_right (hxs : x ∉ xs) (h : xs ++ ys = before ++ x :: after) :
    ∃ front, before = xs ++ front ∧ ys = front ++ x :: after := by
  obtain ⟨rest, rfl, -⟩ | hsplit := split_append h
  · exact absurd (List.mem_append_right before List.mem_cons_self) hxs
  · exact hsplit

end

/-! ## Traversals that end well -/

theorem bind_eq_ok {x : Except ε α} {f : α → Except ε β} {b : β} :
    (x >>= f) = .ok b ↔ ∃ a, x = .ok a ∧ f a = .ok b := by
  cases x with
  | error e => simp [bind, Except.bind]
  | ok a => simp [bind, Except.bind]

theorem forM_ok_iff {f : α → Except ε Unit} {l : List α} :
    l.forM f = .ok () ↔ ∀ a ∈ l, f a = .ok () := by
  induction l with
  | nil => simp [pure, Except.pure]
  | cons a l ih =>
    rw [List.forM_eq_forM] at ih ⊢
    rw [List.forM_cons, bind_eq_ok, List.forall_mem_cons]
    constructor
    · rintro ⟨⟨⟩, ha, hl⟩
      exact ⟨ha, ih.1 hl⟩
    · rintro ⟨ha, hl⟩
      exact ⟨(), ha, ih.2 hl⟩

theorem forall₂_of_mapM {f : α → Except ε β} {l : List α} {bs : List β} (h : l.mapM f = .ok bs) :
    List.Forall₂ (fun a b => f a = .ok b) l bs := by
  induction l generalizing bs with
  | nil =>
    cases h
    exact .nil
  | cons a l ih =>
    rw [List.mapM_cons, bind_eq_ok] at h
    obtain ⟨b, hb, h⟩ := h
    obtain ⟨bs', hbs, h⟩ := bind_eq_ok.1 h
    cases h
    exact .cons hb (ih hbs)

/-- Every value comes from an element. -/
theorem exists_of_mem_forall₂ {R : α → β → Prop} {l : List α} {bs : List β} (h : List.Forall₂ R l bs)
    {b : β} (hb : b ∈ bs) : ∃ a ∈ l, R a b := by
  induction h with
  | nil => cases hb
  | @cons a b' l bs hab _ ih =>
    rcases List.mem_cons.1 hb with rfl | hb
    · exact ⟨a, List.mem_cons_self, hab⟩
    · obtain ⟨a', ha', hr⟩ := ih hb
      exact ⟨a', List.mem_cons_of_mem _ ha', hr⟩

/-- Every element has a value. -/
theorem exists_mem_of_forall₂ {R : α → β → Prop} {l : List α} {bs : List β} (h : List.Forall₂ R l bs)
    {a : α} (ha : a ∈ l) : ∃ b ∈ bs, R a b := by
  induction h with
  | nil => cases ha
  | @cons a' b l bs hab _ ih =>
    rcases List.mem_cons.1 ha with rfl | ha
    · exact ⟨b, List.mem_cons_self, hab⟩
    · obtain ⟨b', hb', hr⟩ := ih ha
      exact ⟨b', List.mem_cons_of_mem _ hb', hr⟩

/-- What each step of a fold keeps, the fold keeps. -/
theorem foldlM_keeps {P : β → Prop} {f : β → α → Except ε β} {l : List α} {b b' : β}
    (h : l.foldlM f b = .ok b') (hb : P b)
    (hf : ∀ b a b', a ∈ l → P b → f b a = .ok b' → P b') : P b' := by
  induction l generalizing b with
  | nil =>
    cases h
    exact hb
  | cons a l ih =>
    rw [List.foldlM_cons, bind_eq_ok] at h
    obtain ⟨b₁, hb₁, h⟩ := h
    refine ih h (hf b a b₁ List.mem_cons_self hb hb₁) fun b a b' ha => hf b a b' ?_
    exact List.mem_cons_of_mem _ ha

/-- What each step of a fold brings in or leaves in, the fold holds. -/
theorem foldl_gathers {P : β → Prop} {Q : α → Prop} {f : β → α → β} {l : List α}
    (hf : ∀ b, ∀ a ∈ l, P (f b a) ↔ P b ∨ Q a) (b : β) : P (l.foldl f b) ↔ P b ∨ ∃ a ∈ l, Q a := by
  induction l generalizing b with
  | nil => simp
  | cons a l ih =>
    rw [List.foldl_cons, ih fun b a ha => hf b a (List.mem_cons_of_mem _ ha), hf b a List.mem_cons_self,
      List.exists_mem_cons_iff, or_assoc]

theorem foldlM_gathers {P : β → Prop} {Q : α → Prop} {f : β → α → Except ε β} {l : List α} {b b' : β}
    (h : l.foldlM f b = .ok b') (hf : ∀ b a b', a ∈ l → f b a = .ok b' → (P b' ↔ P b ∨ Q a)) :
    P b' ↔ P b ∨ ∃ a ∈ l, Q a := by
  induction l generalizing b with
  | nil =>
    cases h
    simp
  | cons a l ih =>
    rw [List.foldlM_cons, bind_eq_ok] at h
    obtain ⟨b₁, hb₁, h⟩ := h
    rw [ih h fun b a b' ha => hf b a b' (List.mem_cons_of_mem _ ha), hf b a b₁ List.mem_cons_self hb₁,
      List.exists_mem_cons_iff, or_assoc]

/-! ## Failures -/

theorem bind_eq_error {x : Except ε α} {f : α → Except ε β} {e : ε} :
    (x >>= f) = .error e ↔ x = .error e ∨ ∃ a, x = .ok a ∧ f a = .error e := by
  cases x <;> simp [bind, Except.bind]

theorem exists_of_forM_error {f : α → Except ε Unit} {l : List α} {e : ε} (h : l.forM f = .error e) :
    ∃ a ∈ l, f a = .error e := by
  induction l with
  | nil => cases h
  | cons a l ih =>
    rw [List.forM_eq_forM] at ih h
    rw [List.forM_cons, bind_eq_error] at h
    rcases h with h | ⟨_, -, h⟩
    · exact ⟨a, List.mem_cons_self, h⟩
    · obtain ⟨b, hb, hf⟩ := ih h
      exact ⟨b, List.mem_cons_of_mem _ hb, hf⟩

theorem exists_of_mapM_error {f : α → Except ε β} {l : List α} {e : ε} (h : l.mapM f = .error e) :
    ∃ a ∈ l, f a = .error e := by
  induction l with
  | nil => cases h
  | cons a l ih =>
    rw [List.mapM_cons, bind_eq_error] at h
    rcases h with h | ⟨_, -, h⟩
    · exact ⟨a, List.mem_cons_self, h⟩
    · obtain h | ⟨_, _, h⟩ := bind_eq_error.1 h
      · obtain ⟨b, hb, hf⟩ := ih h
        exact ⟨b, List.mem_cons_of_mem _ hb, hf⟩
      · cases h

theorem exists_of_foldlM_error {f : β → α → Except ε β} {l : List α} {b : β} {e : ε}
    (h : l.foldlM f b = .error e) : ∃ a ∈ l, ∃ b, f b a = .error e := by
  induction l generalizing b with
  | nil => cases h
  | cons a l ih =>
    rw [List.foldlM_cons, bind_eq_error] at h
    rcases h with h | ⟨b', -, h⟩
    · exact ⟨a, List.mem_cons_self, b, h⟩
    · obtain ⟨a', ha, hf⟩ := ih h
      exact ⟨a', List.mem_cons_of_mem _ ha, hf⟩

/-- A fold whose steps fail because of their elements, whatever is held, fails if some element makes it fail. -/
theorem exists_foldlM_error_iff {P : α → Prop} {f : β → α → Except ε β} {l : List α}
    (hf : ∀ b, ∀ a ∈ l, (∃ e, f b a = .error e) ↔ P a) (b : β) :
    (∃ e, l.foldlM f b = .error e) ↔ ∃ a ∈ l, P a := by
  induction l generalizing b with
  | nil => simp [pure, Except.pure]
  | cons a l ih =>
    have hhead := hf b a List.mem_cons_self
    have htail (b' : β) := ih (fun b a ha => hf b a (List.mem_cons_of_mem _ ha)) b'
    rw [List.exists_mem_cons_iff, ← hhead]
    simp only [List.foldlM_cons, bind_eq_error, exists_or]
    cases hfa : f b a with
    | error e => simp
    | ok b' => simp [htail]

/-! ## What a fold appends or overwrites -/

/-- What the steps of a fold append, the fold has in their order. -/
theorem foldl_appends {γ : Type} {v : β → List γ} {f : β → α → β} {g : α → List γ} {l : List α}
    (hf : ∀ b, ∀ a ∈ l, v (f b a) = v b ++ g a) (b : β) :
    v (l.foldl f b) = v b ++ l.flatMap g := by
  induction l generalizing b with
  | nil => simp
  | cons a l ih =>
    rw [List.foldl_cons, ih fun b a ha => hf b a (List.mem_cons_of_mem _ ha), hf b a List.mem_cons_self,
      List.flatMap_cons, List.append_assoc]

theorem flatMap_filter (l : List α) (p : α → Bool) (f : α → List β) :
    (l.filter p).flatMap f = l.flatMap fun x => if p x then f x else [] := by
  induction l with
  | nil => rfl
  | cons x l ih =>
    rw [List.filter_cons, List.flatMap_cons, ← ih]
    split <;> rfl

/-- Where the steps of a fold overwrite, the last one to write counts. -/
theorem foldl_overwrites {γ : Type} {v : β → Option γ} {f : β → α → β} {g : α → Option γ} {l : List α}
    (hf : ∀ b, ∀ a ∈ l, v (f b a) = (g a).or (v b)) (b : β) :
    v (l.foldl f b) = (l.reverse.findSome? g).or (v b) := by
  induction l generalizing b with
  | nil => rfl
  | cons a l ih =>
    rw [List.foldl_cons, ih fun b a ha => hf b a (List.mem_cons_of_mem _ ha), hf b a List.mem_cons_self,
      List.reverse_cons, List.findSome?_append, Option.or_assoc]
    cases h : g a <;> simp [h]

theorem SortedMap.mem_keys_ofList {κ ν : Type} [OrderedKey κ] [DecidableEq κ] {l : List (κ × ν)} {k : κ} :
    k ∈ (SortedMap.ofList l).keys ↔ k ∈ l.map Prod.fst := by
  have h (m : SortedMap κ ν) :
      k ∈ (l.foldl (fun m e => m.insert e.1 e.2) m).keys ↔ k ∈ l.map Prod.fst ∨ k ∈ m.keys := by
    induction l generalizing m with
    | nil => simp
    | cons e l ih =>
      rw [List.foldl_cons, ih, insert, mem_keys_update, List.map_cons, List.mem_cons]
      rw [or_left_comm, or_assoc]
  rw [ofList, h]
  exact or_iff_left (by simp [empty, keys])

/-- Whatever a map has satisfies a property. -/
def SortedMap.AllValues {κ ν : Type} [OrderedKey κ] [DecidableEq κ] (P : ν → Prop) (m : SortedMap κ ν) : Prop :=
  ∀ k v, m.get? k = some v → P v

theorem SortedMap.allValues_empty {κ ν : Type} [OrderedKey κ] [DecidableEq κ] {P : ν → Prop} :
    AllValues P (.empty : SortedMap κ ν) := fun _ _ h => nomatch h

theorem SortedMap.AllValues.update {κ ν : Type} [OrderedKey κ] [DecidableEq κ] {P : ν → Prop} {m : SortedMap κ ν} {k : κ}
    {f : Option ν → ν} (h : m.AllValues P) (hf : P (f (m.get? k))) : (m.update k f).AllValues P := by
  intro k' v hv
  rw [get?_update] at hv
  split at hv
  · exact Option.some.inj hv ▸ hf
  · exact h k' v hv

/-- Of the entries of a list with one key the last counts. -/
theorem SortedMap.get?_ofList_of_last {κ ν : Type} [OrderedKey κ] [DecidableEq κ] {before after : List (κ × ν)} {k : κ}
    {v : ν} (hafter : ∀ e ∈ after, e.1 ≠ k) : (SortedMap.ofList (before ++ (k, v) :: after)).get? k = some v := by
  let written (e : κ × ν) : Option ν := if k = e.1 then some e.2 else none
  have hlast := foldl_overwrites (v := fun m : SortedMap κ ν => m.get? k) (f := fun m e => m.insert e.1 e.2) (g := written)
    (l := before ++ (k, v) :: after) (fun m e _ => by by_cases h : k = e.1 <;> simp [written, h]) .empty
  have hnone : after.reverse.findSome? written = none :=
    List.findSome?_eq_none_iff.2 fun e he => if_neg fun h => hafter e (List.mem_reverse.1 he) h.symm
  rw [ofList, hlast, List.reverse_append, List.reverse_cons, List.findSome?_append, List.findSome?_append, hnone]
  simp [written]

/-- A list without repeated keys is looked up in its map as it is. -/
theorem SortedMap.get?_ofList {κ ν : Type} [OrderedKey κ] [DecidableEq κ] {l : List (κ × ν)}
    (hl : (l.map Prod.fst).Nodup) (k : κ) : (SortedMap.ofList l).get? k = lookup k l := by
  have h (m : SortedMap κ ν) :
      (l.foldl (fun m e => m.insert e.1 e.2) m).get? k = (lookup k l).or (m.get? k) := by
    induction l generalizing m with
    | nil => rfl
    | cons e l ih =>
      rw [List.map_cons, List.nodup_cons] at hl
      rw [List.foldl_cons, ih hl.2, get?_insert, lookup]
      by_cases he : k = e.1
      · have hnone : lookup k l = none := by
          cases hk : lookup k l with
          | none => rfl
          | some v => exact absurd (he ▸ List.mem_map_of_mem (mem_of_lookup hk)) hl.1
        rw [if_pos he, if_pos he, hnone, Option.none_or, Option.some_or]
      · rw [if_neg he, if_neg he]
  rw [ofList, h, get?_empty, Option.or_none]

end SwitchFabric
