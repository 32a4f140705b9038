import SwitchFabric.Proofs.Topology.Faults

/-!
# The channel groups, as a definition has them

The port lists that a template wires a bond's slaves to on one switch are read side by side: the rows that this gives are
as many as the shortest list has ports, and each has one port of every list (`zips_transposed`). The port groups of a switch
are the rows of each template that wires it, template by template (`zips_rowsOf`).

The channel groups are then what the templates wire, filed under the masters of the switches (`channel_groups_exact`).
-/

namespace SwitchFabric.Cluster

variable {c : Cluster}

/-! ## Rows -/

/-- The groups are the rows of the lists: as many as the shortest list has ports, and each of the port that every list has
at the row's index. -/
structure Zips (lists : List (List Nat)) (groups : List PortGroup) : Prop where
  length_le : ∀ l ∈ lists, groups.length ≤ l.length
  reaches : ∃ l ∈ lists, groups.length = l.length
  row : ∀ (i : Nat) (group : PortGroup), groups[i]? = some group → group.ports.map some = lists.map (·[i]?)

theorem map_ports_filterMap_ofPorts {rows : List (List Nat)} (h : ∀ row ∈ rows, row ≠ []) :
    (rows.filterMap PortGroup.ofPorts).map (·.ports) = rows := by
  induction rows with
  | nil => rfl
  | cons row rows ih =>
    have hrow : PortGroup.ofPorts row = some ⟨row, h row List.mem_cons_self⟩ := dif_pos _
    rw [List.filterMap_cons_some hrow, List.map_cons, ih fun r hr => h r (List.mem_cons_of_mem _ hr)]

/-- At an index that no list ends before, nothing is left out. -/
theorem map_some_filterMap_getElem? {lists : List (List Nat)} {i : Nat} (h : ∀ l ∈ lists, i < l.length) :
    (lists.filterMap (·[i]?)).map some = lists.map (·[i]?) := by
  induction lists with
  | nil => rfl
  | cons l lists ih =>
    have hl := List.getElem?_eq_getElem (h l List.mem_cons_self)
    rw [List.filterMap_cons, List.map_cons, hl, ← ih fun l hl => h l (List.mem_cons_of_mem _ hl), List.map_cons]

/-- The rows of lists that a transposition gives, none of which is empty. -/
theorem zips_transposed {lists : List (List Nat)} (hlists : lists ≠ []) :
    Zips lists ((transposed lists).filterMap PortGroup.ofPorts) := by
  obtain ⟨n, hn⟩ : ∃ n, (lists.map List.length).min? = some n := by
    cases h : (lists.map List.length).min? with
    | some n => exact ⟨n, rfl⟩
    | none => exact absurd (List.map_eq_nil_iff.1 (List.min?_eq_none_iff.1 h)) hlists
  obtain ⟨hmem, hleast⟩ := List.min?_eq_some_iff.1 hn
  have hle : ∀ l ∈ lists, n ≤ l.length := fun l hl => hleast _ (List.mem_map_of_mem hl)
  have hrows : transposed lists = (List.range n).map fun i => lists.filterMap (·[i]?) := by
    rw [transposed, hn, Option.getD_some]
  have hrow {i : Nat} (hi : i < n) : (lists.filterMap (·[i]?)).map some = lists.map (·[i]?) :=
    map_some_filterMap_getElem? fun l hl => lt_of_lt_of_le hi (hle l hl)
  have hports : ((transposed lists).filterMap PortGroup.ofPorts).map (·.ports) = transposed lists := by
    refine map_ports_filterMap_ofPorts fun row hr hnil => ?_
    rw [hrows, List.mem_map] at hr
    obtain ⟨i, hi, rfl⟩ := hr
    have h := hrow (List.mem_range.1 hi)
    rw [hnil, List.map_nil, eq_comm, List.map_eq_nil_iff] at h
    exact hlists h
  have hlength : ((transposed lists).filterMap PortGroup.ofPorts).length = n := by
    rw [← List.length_map, hports, hrows, List.length_map, List.length_range]
  refine ⟨fun l hl => hlength ▸ hle l hl, ?_, fun i group hgroup => ?_⟩
  · obtain ⟨l, hl, heq⟩ := List.mem_map.1 hmem
    exact ⟨l, hl, hlength.trans heq.symm⟩
  · have hi : i < n := hlength ▸ (List.getElem?_eq_some_iff.1 hgroup).1
    have hget : (((transposed lists).filterMap PortGroup.ofPorts).map (·.ports))[i]? = some group.ports := by
      rw [List.getElem?_map, hgroup, Option.map_some]
    rw [hports, hrows, List.getElem?_map, List.getElem?_range hi, Option.map_some, Option.some.injEq] at hget
    rw [← hget, hrow hi]

/-- The templates with a label that list a bond and wire one of its slaves to a switch, in order. -/
def wiring (c : Cluster) (bond : String) (slaves : List String) (template switch : String) : List NodeTemplate :=
  c.templates.filter fun t =>
    t.label = template ∧ t.hasInterface bond = true ∧ ∃ b ∈ t.bindings, b.interface ∈ slaves ∧ b.switch = switch

theorem wiresBond_iff {bond template switch : String} {slaves : List String}
    (hslaves : c.bondSlaves.get? bond = some slaves) :
    c.WiresBond bond template switch ↔ ∃ t ∈ c.templates, t.label = template ∧ t.hasInterface bond = true ∧
      ∃ b ∈ t.bindings, b.interface ∈ slaves ∧ b.switch = switch := by
  simp only [WiresBond, hslaves, Option.some.injEq, exists_eq_left', and_left_comm]

theorem rowsAt_eq_nil {slaves : List String} {t : NodeTemplate} {switch : String}
    (h : ¬ ∃ b ∈ t.bindings, b.interface ∈ slaves ∧ b.switch = switch) : rowsAt slaves t switch = [] := by
  have hlists : slaveLists slaves t switch = [] := by
    rw [slaveLists, List.map_eq_nil_iff, List.filter_eq_nil_iff]
    intro b hb hwired
    rw [Bool.and_eq_true, List.contains_iff_mem, beq_iff_eq] at hwired
    exact h ⟨b, hb, hwired⟩
  rw [rowsAt, hlists]
  rfl

/-- The port groups of a switch, as the rows of each of the templates that wire it. -/
theorem zips_rowsOf {bond : String} {slaves : List String} (hslaves : c.bondSlaves.get? bond = some slaves)
    (template switch : String) :
    ∃ rows : List (List PortGroup), c.rowsOf bond template switch = rows.flatten ∧
      List.Forall₂ (fun t groups => Zips (slaveLists slaves t switch) groups) (c.wiring bond slaves template switch)
        rows := by
  refine ⟨(c.wiring bond slaves template switch).map fun t => rowsAt slaves t switch, ?_, ?_⟩
  · rw [← List.flatMap_def, wiring, flatMap_filter, rowsOf, hslaves, Option.map_some, Option.getD_some]
    refine List.flatMap_congr fun t _ => ?_
    by_cases hwires : ∃ b ∈ t.bindings, b.interface ∈ slaves ∧ b.switch = switch
    · refine if_congr ?_ rfl rfl
      rw [decide_eq_true_eq, and_iff_left hwires, and_comm]
    · simp only [hwires, and_false, decide_false, Bool.false_eq_true, rowsAt_eq_nil hwires, ite_self]
  · refine List.forall₂_map_right_iff.2 (List.forall₂_same.2 fun t ht => zips_transposed ?_)
    obtain ⟨-, ht⟩ := List.mem_filter.1 ht
    obtain ⟨-, -, b, hb, hslave, hswitch⟩ := decide_eq_true_eq.mp ht
    have hmem : b.ports ∈ slaveLists slaves t switch :=
      List.mem_map_of_mem (List.mem_filter.2 ⟨hb, by simp [hslave, hswitch]⟩)
    exact List.ne_nil_of_mem hmem

/-! ## Groups -/

theorem before_pair_iff {κ μ : Type} [OrderedKey κ] [OrderedKey μ] {a b : κ × μ} :
    OrderedKey.before a b = true ↔
      OrderedKey.before a.1 b.1 = true ∨ a.1 = b.1 ∧ OrderedKey.before a.2 b.2 = true := by
  have hpair : OrderedKey.before a b =
    (OrderedKey.before a.1 b.1 || (!OrderedKey.before b.1 a.1 && OrderedKey.before a.2 b.2)) := rfl
  rw [hpair, Bool.or_eq_true, Bool.and_eq_true, Bool.not_eq_true']
  cases hbefore : OrderedKey.before a.1 b.1 with
  | true => simp
  | false =>
    refine or_congr_right (and_congr_left fun _ => ⟨fun h => OrderedKey.connected hbefore h, fun h => ?_⟩)
    rw [← h, OrderedKey.irrefl]

theorem before_string_iff {a b : String} : OrderedKey.before a b = true ↔ a < b := decide_eq_true_iff

/-- Port channels are filed with a switch. -/
theorem allValues_grouped : SortedMap.AllValues (fun members => ∃ switch, switch ∈ members.keys) c.grouped := by
  refine List.foldlRecOn _ _ SortedMap.allValues_empty fun grouped hg e _ => ?_
  refine List.foldlRecOn _ _ hg fun grouped hg t _ => ?_
  unfold groupBond
  split
  · exact List.foldlRecOn _ _ hg fun grouped hg e _ => hg.update ⟨e.1, mem_keys_extended.2 (.inl rfl)⟩
  · exact hg

/-- No two groups are filed under one key. -/
theorem eq_of_key {g g' : ChannelGroup} (h : g ∈ c.uncheckedGroups) (h' : g' ∈ c.uncheckedGroups) (hkey : g.key = g'.key) :
    g = g' := by
  have hget : c.grouped.get? g.key = some g.members := mem_uncheckedGroups.1 h
  have hget' : c.grouped.get? g'.key = some g'.members := mem_uncheckedGroups.1 h'
  have hmembers : g.members = g'.members := Option.some.inj (hget.symm.trans (hkey ▸ hget'))
  cases g
  cases g'
  cases hkey
  cases hmembers
  rfl

/-- A list without repetition with one element that is chosen is left with this one. -/
theorem filter_eq_singleton {α : Type} {l : List α} {p : α → Bool} {a : α} (hl : l.Nodup)
    (h : ∀ x, x ∈ l ∧ p x = true ↔ x = a) : l.filter p = [a] := by
  refine List.perm_singleton.1 ((List.perm_ext_iff_of_nodup (hl.filter p) (List.nodup_singleton a)).2 fun x => ?_)
  rw [List.mem_filter, h, List.mem_singleton]

/-- The channel groups are exactly the rows of the slaves' ports. They stand in strictly ascending order of bond, template
and master, and none is without a switch and a bond that has slaves. For a bond with slaves, a template label and a switch,
the switch is in a group of the bond and the template if and only if a template with the label lists the bond and wires one
of its slaves to the switch. It is then in one group only, which is filed under the master of the switch and its peer, and
its port groups there are those of each such template, in order: the rows of the ports of the template's bindings of slaves
to the switch, as many as the shortest has ports, each with the port of every binding at the row's index. -/
theorem channel_groups_exact {groups : List ChannelGroup} (hg : c.channelGroups = .ok groups) :
    (groups.Pairwise fun g g' => g.bond < g'.bond ∨ g.bond = g'.bond ∧
      (g.template < g'.template ∨ g.template = g'.template ∧ g.master < g'.master)) ∧
    (∀ g ∈ groups, (∃ slaves, c.HasSlaves g.bond slaves) ∧ ∃ switch, switch ∈ g.members.keys) ∧
    ∀ bond slaves, c.HasSlaves bond slaves → ∀ template switch,
      ((∃ g ∈ groups, g.bond = bond ∧ g.template = template ∧ switch ∈ g.members.keys) ↔
        ∃ t ∈ c.templates, t.label = template ∧ t.hasInterface bond = true ∧
          ∃ b ∈ t.bindings, b.interface ∈ slaves ∧ b.switch = switch) ∧
      ∀ g ∈ groups, g.bond = bond → g.template = template → switch ∈ g.members.keys →
        (groups.filter fun g => g.bond = bond ∧ g.template = template ∧ switch ∈ g.members.keys) = [g] ∧
        g.master = c.masterOf switch (c.mlagPeer switch) ∧
        ∃ rows : List (List PortGroup), g.members.get? switch = some rows.flatten ∧
          List.Forall₂ (fun t groups => Zips (slaveLists slaves t switch) groups)
            (c.wiring bond slaves template switch) rows := by
  have hkeys := pairwise_key hg
  obtain ⟨-, rfl⟩ := channelGroups_eq_ok.1 hg
  have hnodup : c.uncheckedGroups.Nodup := by
    refine List.nodup_iff_pairwise_ne.2 (hkeys.imp fun h => ?_)
    rintro rfl
    exact OrderedKey.ne_of_before h rfl
  refine ⟨hkeys.imp fun h => ?_, fun g hmem => ?_, fun bond slaves hslaves template switch => ⟨⟨?_, ?_⟩, ?_⟩⟩
  · simpa only [before_pair_iff, before_string_iff, ChannelGroup.key] using h
  · obtain ⟨switch, hs⟩ := allValues_grouped _ _ (mem_uncheckedGroups.1 hmem)
    obtain ⟨⟨slaves, hslaves, -⟩, -⟩ := (mem_keys_members_iff hmem).1 hs
    exact ⟨⟨slaves, bondSlaves_eq_some_iff.1 hslaves⟩, switch, hs⟩
  · rintro ⟨g, hmem, rfl, rfl, hs⟩
    exact (wiresBond_iff (bondSlaves_eq_some_iff.2 hslaves)).1 ((mem_keys_members_iff hmem).1 hs).1
  · intro hwires
    obtain ⟨members, hget, hs⟩ :=
      hasMember_grouped.2 ⟨(wiresBond_iff (bondSlaves_eq_some_iff.2 hslaves)).2 hwires, rfl⟩
    exact ⟨⟨bond, template, _, members⟩, mem_uncheckedGroups.2 hget, rfl, rfl, hs⟩
  · rintro g hmem rfl rfl hs
    have hmaster := ((mem_keys_members_iff hmem).1 hs).2
    obtain ⟨rows, hrows, hzips⟩ := zips_rowsOf (bondSlaves_eq_some_iff.2 hslaves) g.template switch
    refine ⟨filter_eq_singleton hnodup fun g' => ?_, hmaster, rows, ?_, hzips⟩
    · rw [decide_eq_true_eq]
      constructor
      · rintro ⟨hmem', hbond, htemplate, hs'⟩
        have hmaster' := ((mem_keys_members_iff hmem').1 hs').2
        refine eq_of_key hmem' hmem ?_
        rw [ChannelGroup.key, hbond, htemplate, hmaster', ← hmaster, ChannelGroup.key]
      · rintro rfl
        exact ⟨hmem, rfl, rfl, hs⟩
    · obtain ⟨own, hown⟩ := SortedMap.mem_keys_iff.1 hs
      rw [← hrows, ← groupsOf_eq_rowsOf hmem hs, ChannelGroup.groupsOf, hown, Option.getD_some]

/-- A pair with a bond of two slaves, which two templates with one label wire. The first has three ports for one slave and
two for the other on the master, and only one slave on the peer. -/
def unevenSlaves : Cluster :=
  bare.withSwitch "data_1"
    |>.withSwitch "data_2"
    |>.withMlagPair "data_1" ⟨[29, 30], 4000, "10.0.0.1", 30, none⟩ "data_2" ⟨[29, 30], 4000, "10.0.0.2", 30, none⟩
    |>.withInterface (.bond "bond0")
    |>.withInterface (.bondSlave "eth10" "bond0")
    |>.withInterface (.bondSlave "eth11" "bond0")
    |>.withTemplate "compute" [⟨"data_1", "eth10", [7, 8, 9]⟩, ⟨"data_2", "eth10", [7, 8]⟩, ⟨"data_1", "eth11", [11, 12]⟩]
    |>.withTemplateInterface "compute" "bond0"
    |>.withTemplate "compute" [⟨"data_1", "bond0", [15]⟩, ⟨"data_1", "eth10", [20]⟩, ⟨"data_2", "eth11", [20]⟩]

theorem channel_groups_exact_unevenSlaves :
    let c := unevenSlaves
    c.HasSlaves "bond0" ["eth10", "eth11"] ∧ ∃ groups, c.channelGroups = .ok groups ∧ ∃ g,
      (groups.filter fun g => g.bond = "bond0" ∧ g.template = "compute" ∧ "data_2" ∈ g.members.keys) = [g] ∧
        g.master = "data_1" ∧
        (g.groupsOf "data_1").map (·.ports) = [[7, 11], [8, 12], [20]] ∧
        ∃ rows : List (List PortGroup), g.members.get? "data_2" = some rows.flatten ∧
          rows.flatten.map (·.ports) = [[7], [8], [20]] := by
  intro c
  have hslaves : c.HasSlaves "bond0" ["eth10", "eth11"] := bondSlaves_eq_some_iff.1 (by decide +kernel)
  have hok : c.channelGroups = .ok (c.channelGroups.toOption.getD []) := rfl
  obtain ⟨-, -, hexact⟩ := channel_groups_exact hok
  have hmem := List.get_mem (c.channelGroups.toOption.getD []) ⟨0, by decide +kernel⟩
  obtain ⟨hfilter, hmaster, rows, hrows, -⟩ := (hexact "bond0" _ hslaves "compute" "data_2").2 _ hmem (by decide +kernel)
    (by decide +kernel) (by decide +kernel)
  have hports : ((((c.channelGroups.toOption.getD []).get ⟨0, by decide +kernel⟩).members.get? "data_2").map
    (·.map (·.ports))) = some [[7], [8], [20]] := by decide +kernel
  rw [hrows] at hports
  exact ⟨hslaves, _, hok, _, hfilter, hmaster.trans (by decide +kernel), by decide +kernel, rows, hrows,
    Option.some.inj hports⟩

end SwitchFabric.Cluster
