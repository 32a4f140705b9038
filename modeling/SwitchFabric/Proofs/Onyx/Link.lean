import Mathlib.Data.List.Infix
import SwitchFabric.Onyx.Show
import SwitchFabric.Proofs.Text.Search
import SwitchFabric.Proofs.Traversal
import SwitchFabric.Proofs.Vlan

/-!
# The link to the peer

A row of the link is a number, the number of its port channel behind `Po`, and a VLAN, with any white space between them
(`LinkRow`). Where the link pattern fits, `Po` stands with a digit behind it (`exists_of_fieldsAt_linkRow`). So a text in
which this stands nowhere shows no link, and it is passed over in front of a row (`passesOver_of_not_namesChannel`), which
is then read (`link_of_first_row`).
-/

namespace SwitchFabric.Onyx

open Text Text.Pattern

/-! ## Rows -/

/-- Somewhere in the text a decimal digit stands directly behind `Po`. -/
def NamesChannel (cs : List Char) : Prop := ∃ d, isDecimal d = true ∧ ['P', 'o', d] <:+: cs

instance (cs : List Char) : Decidable (NamesChannel cs) :=
  @decidable_of_iff _ (∃ d ∈ cs, isDecimal d = true ∧ ['P', 'o', d] <:+: cs)
    ⟨fun ⟨d, _, h⟩ => ⟨d, h⟩, fun ⟨d, hd, h⟩ => ⟨d, h.subset (by simp), hd, h⟩⟩ (List.decidableBEx _ cs)

/-- A row of the link. Its numbers may have zeros in front. -/
structure LinkRow where
  id : List Char
  gap : List Char
  channelText : List Char
  channel : Nat
  gap' : List Char
  vlanText : List Char
  vlan : VlanId
  id_ne : id ≠ []
  isDecimal_id : ∀ c ∈ id, isDecimal c = true
  gap_ne : gap ≠ []
  isBlank_gap : ∀ c ∈ gap, isBlank c = true
  value_channel : value? channelText = some channel
  channel_le : channel ≤ wordLimit
  gap'_ne : gap' ≠ []
  isBlank_gap' : ∀ c ∈ gap', isBlank c = true
  value_vlan : value? vlanText = some vlan.number

/-- The row up to the last digit of its VLAN. -/
def LinkRow.text (r : LinkRow) : List Char :=
  r.id ++ (r.gap ++ ("Po".toList ++ (r.channelText ++ (r.gap' ++ r.vlanText))))

variable {cs before behind : List Char}

/-! ## Where the pattern fits -/

/-- Where the pattern fits, the text starts with digits and blanks, and `Po` with a digit is behind them. -/
theorem exists_of_fieldsAt_linkRow {fields : List (List Char)} (h : linkRow.fieldsAt cs = some fields) :
    ∃ ds bs d ys, cs = ds ++ (bs ++ ('P' :: 'o' :: d :: ys)) ∧ (∀ c ∈ ds, isDecimal c = true) ∧
      (∀ c ∈ bs, isBlank c = true) ∧ isDecimal d = true := by
  obtain ⟨ds, _, rfl, hds, -, h⟩ := exists_of_fieldsAt_run h
  obtain ⟨bs, _, rfl, hbs, -, h⟩ := exists_of_fieldsAt_run h
  obtain ⟨_, rfl, h⟩ := exists_of_fieldsAt_text h
  obtain ⟨xs, ys, _, rfl, hxs, hleast, -, -⟩ := exists_of_fieldsAt_field h
  obtain ⟨d, xs, rfl⟩ := List.exists_cons_of_length_pos hleast
  exact ⟨ds, bs, d, xs ++ ys, rfl, hds, hbs, hxs d List.mem_cons_self⟩

/-- Where there is no channel, there is no link. -/
theorem readLink_of_not_namesChannel (h : ¬ NamesChannel cs) : readLink cs = none := by
  cases hfind : linkRow.find? cs with
  | none => rw [readLink, hfind]; rfl
  | some fields =>
    obtain ⟨xs, _, rfl, hfields⟩ := exists_of_find? hfind
    obtain ⟨ds, bs, d, ys, rfl, -, -, hd⟩ := exists_of_fieldsAt_linkRow hfields
    exact absurd ⟨d, hd, xs ++ (ds ++ bs), ys, by simp⟩ h

/-- Where digits, blanks and a channel reach over a blank with a digit behind it, the channel is in front of the blank: this
is neither a digit nor part of the channel, and the channel does not start with a digit. -/
theorem channel_in_front {ds bs ys front : List Char} {b c d : Char}
    (heq : front ++ b :: c :: behind = ds ++ (bs ++ ('P' :: 'o' :: d :: ys))) (hds : ∀ c ∈ ds, isDecimal c = true)
    (hbs : ∀ c ∈ bs, isBlank c = true) (hd : isDecimal d = true) (hb : isBlank b = true) (hc : isDecimal c = true) :
    ['P', 'o', d] <:+: front := by
  have hblank : ¬ isDecimal b = true := by simp [isDecimal_eq_false_of_isBlank hb]
  have hletter : ¬ isDecimal 'P' = true := by decide
  obtain ⟨middle, rfl, hmiddle⟩ := split_append_right (fun hmem => hblank (hds _ hmem)) heq.symm
  obtain ⟨rest, hrest, htail⟩ | ⟨gap, hgap, htail⟩ := split_append hmiddle
  · -- the blank is in front of the channel, so the digit would be another blank or the letter
    cases rest with
    | nil =>
      cases htail
      exact absurd hc hletter
    | cons e rest =>
      cases htail
      rw [isDecimal_eq_false_of_isBlank (hbs c (by simp [hrest]))] at hc
      cases hc
  · -- the blank is no part of the channel, so it is behind it
    rcases gap with _ | ⟨_, _ | ⟨_, _ | ⟨_, gap⟩⟩⟩
    · cases htail
      cases hb
    · cases htail
      cases hb
    · cases htail
      exact absurd hd hblank
    · cases htail
      exact ⟨ds ++ bs, gap, by simp [hgap]⟩

/-- In a text without a channel that ends with a blank the pattern fits nowhere. -/
theorem passesOver_of_not_namesChannel (hblank : ∀ b, before.getLast? = some b → isBlank b = true)
    (h : ¬ NamesChannel before) {c : Char} (hc : isDecimal c = true) : linkRow.PassesOver before (c :: behind) := by
  intro suffix hne hsuffix
  by_contra hfits
  obtain ⟨fields, hfields⟩ := Option.ne_none_iff_exists'.1 hfits
  obtain ⟨ds, bs, d, ys, heq, hds, hbs, hd⟩ := exists_of_fieldsAt_linkRow hfields
  obtain ⟨b, hlast⟩ := Option.isSome_iff_exists.1 (List.getLast?_isSome.2 hne)
  obtain ⟨front, rfl⟩ := List.getLast?_eq_some_iff.1 hlast
  have hb : isBlank b = true := by
    obtain ⟨rest, rfl⟩ := hsuffix
    exact hblank b (by rw [List.getLast?_append_of_ne_nil _ hne, hlast])
  rw [List.append_assoc, List.singleton_append] at heq
  have hfront : front <:+: before := (List.prefix_append front [b]).isInfix.trans hsuffix.isInfix
  exact h ⟨d, hd, (channel_in_front heq hds hbs hd hb hc).trans hfront⟩

/-! ## Reading a row -/

namespace LinkRow

variable (r : LinkRow)

/-- A row starts with a digit. -/
theorem exists_text : ∃ c rest, r.text = c :: rest ∧ isDecimal c = true := by
  obtain ⟨c, ds, hid⟩ := List.exists_cons_of_ne_nil r.id_ne
  exact ⟨c, _, by rw [text, hid, List.cons_append], r.isDecimal_id c (hid ▸ List.mem_cons_self)⟩

theorem fieldsAt_text (hbehind : StartsOutside isDecimal behind) :
    linkRow.fieldsAt (r.text ++ behind) = some [r.channelText, r.vlanText] := by
  obtain ⟨hchannel, hdigits, -⟩ := value?_eq_some_iff.1 r.value_channel
  obtain ⟨hvlan, hdigits', -⟩ := value?_eq_some_iff.1 r.value_vlan
  have hlast : fieldsAt [digitField] (r.vlanText ++ behind) = some [r.vlanText] :=
    fieldsAt_field (fun c hc => isDecimal_of_isDigit (hdigits' c hc)) hbehind (List.length_pos_iff.2 hvlan) rfl
  have hgap' : fieldsAt [blanks, digitField] (r.gap' ++ (r.vlanText ++ behind)) = some [r.vlanText] :=
    fieldsAt_run_of_some r.isBlank_gap' (startsOutside_isBlank hvlan hdigits' _) (List.length_pos_iff.2 r.gap'_ne) hlast
  have hfield : fieldsAt [digitField, blanks, digitField] (r.channelText ++ (r.gap' ++ (r.vlanText ++ behind))) =
      some [r.channelText, r.vlanText] :=
    fieldsAt_field (fun c hc => isDecimal_of_isDigit (hdigits c hc)) (startsOutside_isDecimal r.gap'_ne r.isBlank_gap' _)
      (List.length_pos_iff.2 hchannel) hgap'
  simp only [linkRow, text, List.append_assoc]
  refine fieldsAt_run_of_some r.isDecimal_id (startsOutside_isDecimal r.gap_ne r.isBlank_gap _) (List.length_pos_iff.2 r.id_ne) ?_
  refine fieldsAt_run_of_some r.isBlank_gap (startsOutside_cons.2 (by decide)) (List.length_pos_iff.2 r.gap_ne) ?_
  exact (Pattern.fieldsAt_text _).trans hfield

theorem readLink_text (hbehind : StartsOutside isDecimal behind) :
    readLink (r.text ++ behind) = some (r.channel, r.vlan) := by
  have hchannel : readUpTo wordLimit r.channelText = some r.channel :=
    readUpTo_eq_some_iff.2 ⟨⟨[], r.channelText, rfl, .inl rfl, r.value_channel⟩, r.channel_le⟩
  have hvlan : VlanId.parse r.vlanText = .ok r.vlan :=
    VlanId.parse_eq_ok_iff.2 ⟨[], [], r.vlanText, rfl, .inl rfl, .inl rfl, value?_eq_some_iff.1 r.value_vlan⟩
  rw [readLink, find?_of_fieldsAt (r.fieldsAt_text hbehind)]
  simp only [Option.bind_eq_bind, Option.bind_some, hchannel, hvlan]
  rfl

end LinkRow

/-- Behind a text without a channel that ends with a blank, as with a line feed, the first row of the link is read, whatever
is behind it. A text without a channel shows no link. -/
theorem link_of_first_row :
    (∀ (r : LinkRow) (before behind : List Char), (∀ b, before.getLast? = some b → isBlank b = true) →
      ¬ NamesChannel before → StartsOutside isDecimal behind →
        readLink (before ++ (r.text ++ behind)) = some (r.channel, r.vlan)) ∧
      ∀ table, ¬ NamesChannel table → readLink table = none := by
  refine ⟨fun r before behind hblank hbefore hbehind => ?_, fun table => readLink_of_not_namesChannel⟩
  obtain ⟨c, rest, htext, hc⟩ := r.exists_text
  have hpasses : linkRow.PassesOver before (r.text ++ behind) := by
    rw [htext]
    exact passesOver_of_not_namesChannel hblank hbefore hc
  rw [readLink, hpasses.find?, ← readLink]
  exact r.readLink_text hbehind

/-- The headings do not name a channel, and the second row does not count. -/
theorem link_of_first_row_headings :
    let headings := "MLAG IPLs Summary:\nID   Group         Vlan\n     Port-Channel  Interface\n".toList
    let rows := "1    Po6           4000       Up\n2    Po7           4001       Up\n".toList
    ¬ NamesChannel headings ∧ ¬ NamesChannel "MLAG is not configured".toList ∧
      readLink (headings ++ rows) = some (6, ⟨4000, by decide, by decide⟩) ∧
      readLink "MLAG is not configured".toList = none := by
  intro headings rows
  let row : LinkRow :=
    { id := "1".toList, gap := "    ".toList, channelText := "6".toList, channel := 6, gap' := "           ".toList
      vlanText := "4000".toList, vlan := ⟨4000, by decide, by decide⟩
      id_ne := by decide, isDecimal_id := List.all_eq_true.1 (by decide), gap_ne := by decide, isBlank_gap := List.all_eq_true.1 rfl
      value_channel := by decide, channel_le := by decide, gap'_ne := by decide, isBlank_gap' := List.all_eq_true.1 rfl
      value_vlan := by decide }
  have hheadings : ¬ NamesChannel headings := by decide +kernel
  have hnone : ¬ NamesChannel "MLAG is not configured".toList := by decide +kernel
  have hrows : rows = row.text ++ "       Up\n2    Po7           4001       Up\n".toList := by decide +kernel
  have hlast : headings.getLast? = some '\n' := by decide +kernel
  have hblank (b : Char) (hb : headings.getLast? = some b) : isBlank b = true := by
    rw [← Option.some.inj (hlast.symm.trans hb)]
    rfl
  refine ⟨hheadings, hnone, ?_, link_of_first_row.2 _ hnone⟩
  rw [hrows]
  exact link_of_first_row.1 row headings _ hblank hheadings (startsOutside_cons.2 (by decide))

end SwitchFabric.Onyx
