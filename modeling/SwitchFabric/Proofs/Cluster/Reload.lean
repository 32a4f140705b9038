import SwitchFabric.Cluster.Reader
import SwitchFabric.Proofs.Yaml.Ensures

/-!
# Definitions written and read again

A definition whose numbers are within the limits of their fields is restored from its data (`restores_cluster`), record by
record and field by field. Fields that are not interpreted must hold plain values, nested at most as deep as is read there.
The reader ensures the limits and the depth for whatever it reads (`ensures_cluster`). So what was read from a document is
read again from its own data, and found consistent or not as before (`survives_reload`). A definition that was not read may
be nested too deep to be read at all (`ofTextUnchecked_ne_nesting`).
-/

namespace SwitchFabric

open Yaml Yaml.Read

/-! ## What the fields hold -/

/-- A prefix length is a number of 8 bits. -/
structure MgmtNetwork.InRange (m : MgmtNetwork) : Prop where
  length : ∀ n ∈ m.length, n ≤ Text.byteLimit

/-- Ports are numbers of 32 bits, and a prefix length is one of 8. -/
structure Link.InRange (l : Link) : Prop where
  ports : ∀ p ∈ l.ports, p ≤ Text.wordLimit
  length : ∀ n ∈ l.length, n ≤ Text.byteLimit

/-- Of the fields of a switch, only those of its links hold numbers with limits. -/
structure SwitchRecord.InRange (s : SwitchRecord) : Prop where
  links : ∀ l ∈ s.links, l.InRange

/-- An MTU is a number of 32 bits in either schema. -/
structure Interface.InRange (i : Interface) : Prop where
  mtuValue : ∀ n ∈ i.mtuValue, n ≤ Text.wordLimit
  deviceMtu : ∀ n ∈ i.deviceMtu, n ≤ Text.wordLimit

/-- Ports are numbers of 32 bits here, too. -/
structure Binding.InRange (b : Binding) : Prop where
  ports : ∀ p ∈ b.ports, p ≤ Text.wordLimit

/-- Of the fields of a template, only its bindings hold numbers. -/
structure NodeTemplate.InRange (t : NodeTemplate) : Prop where
  bindings : ∀ b ∈ t.bindings, b.InRange

/-- All numbers of a definition are within the limits of their fields. -/
structure Cluster.InRange (c : Cluster) : Prop where
  mgmtNetworks : ∀ m ∈ c.mgmtNetworks, m.InRange
  switches : ∀ s ∈ c.switches, s.InRange
  interfaces : ∀ i ∈ c.interfaces, i.InRange
  templates : ∀ t ∈ c.templates, t.InRange

/-- The values of an interface that are kept as they are. -/
def Interface.uninterpreted (i : Interface) : List Value := i.bondingMaster.toList ++ i.vlan.toList

/-- All such values of a definition, in the order of the interfaces. -/
def Cluster.uninterpreted (c : Cluster) : List Value := c.interfaces.flatMap Interface.uninterpreted

namespace Cluster

theorem restores_vlan (v : VlanId) : Restores readVlan (Dump.vlanNumber v) v := by
  intro n hn
  have hlimit : v.number ≤ Text.shortLimit := Nat.le_trans v.le_max (by decide)
  rw [readVlan, restores_number hlimit n hn, pure_bind, VlanId.ofNumber_number]
  rfl

theorem restores_address (a : IpAddress) : Restores readAddress (Dump.addressText a) a := by
  intro n hn
  rw [readAddress, restores_text a.toText n hn, pure_bind, IpAddress.parse_toText]
  rfl

theorem restores_mode (m : DriverMode) : Restores readMode (Dump.text m.name) m := by
  intro n hn
  cases spelling_of_spells hn
  cases m <;> rfl

theorem restores_ports {ports : List Nat} (h : ∀ p ∈ ports, p ≤ Text.wordLimit) :
    Restores (list readPort) (Dump.portList ports) ports :=
  restores_list fun p hp => restores_number (h p hp)

theorem restores_mgmtNetwork {m : MgmtNetwork} (h : m.InRange) : Restores readMgmtNetwork m.toValue m := by
  refine restores_record (by decide) ?_
  refine .optional rfl (fun s _ => restores_text s) rfl ?_
  refine .optional rfl (fun s _ => restores_text s) rfl ?_
  refine .optional rfl (fun k hk => restores_number (h.length k hk)) rfl ?_
  exact .nil m

theorem restores_link {l : Link} (h : l.InRange) : Restores readLink l.toValue l := by
  refine restores_record (by decide) ?_
  refine .needed (restores_text l.target) ?_
  refine .defaulted (restores_ports h.ports) ?_
  refine .optional rfl (fun v _ => restores_vlan v) rfl ?_
  refine .optional rfl (fun a _ => restores_address a) rfl ?_
  refine .optional rfl (fun k hk => restores_number (h.length k hk)) rfl ?_
  refine .optional rfl (fun a _ => restores_address a) rfl ?_
  exact .nil l

theorem restores_switch {s : SwitchRecord} (h : s.InRange) : Restores readSwitch s.toValue s := by
  refine restores_record (by decide) ?_
  refine .needed (restores_text s.label) ?_
  refine .needed (restores_text s.vendor) ?_
  refine .needed (restores_text s.host) ?_
  refine .optional rfl (fun t _ => restores_text t) rfl ?_
  refine .optional rfl (fun t _ => restores_text t) rfl ?_
  refine .defaulted (restores_mode s.mode) ?_
  refine .optional rfl (fun t _ => restores_text t) rfl ?_
  refine .optional rfl (fun t _ => restores_text t) rfl ?_
  refine .defaulted (restores_flag s.mlagMaster) ?_
  refine .defaulted (restores_list fun l hl => restores_link (h.links l hl)) ?_
  exact .nil s

theorem restores_interface {i : Interface} (h : i.InRange)
    (hplain : ∀ v ∈ i.uninterpreted, v.Plain) (hdepth : ∀ v ∈ i.uninterpreted, v.depth ≤ 125) :
    Restores readInterface i.toValue i := by
  have hvalue (v : Value) (hv : v ∈ i.uninterpreted) : Restores readValue v v :=
    restores_value (hplain v hv) (hdepth v hv)
  have hbond (v : Value) (hv : v ∈ i.bondingMaster) : v ∈ i.uninterpreted :=
    List.mem_append_left _ (Option.mem_toList.2 hv)
  have hvlan (v : Value) (hv : v ∈ i.vlan) : v ∈ i.uninterpreted :=
    List.mem_append_right _ (Option.mem_toList.2 hv)
  refine restores_record (by decide) ?_
  refine .needed (restores_text i.label) ?_
  refine .optional rfl (fun s _ => restores_text s) rfl ?_
  refine .optional rfl (fun s _ => restores_text s) rfl ?_
  refine .optional rfl (fun s _ => restores_text s) rfl ?_
  refine .optional rfl (fun s _ => restores_text s) rfl ?_
  refine .optional rfl (fun k hk => restores_number (h.mtuValue k hk)) rfl ?_
  refine .optional rfl (fun s _ => restores_text s) rfl ?_
  refine .optional Option.map_id'.symm (fun v hv => hvalue v (hbond v hv)) rfl ?_
  refine .optional rfl (fun s _ => restores_text s) rfl ?_
  refine .optional Option.map_id'.symm (fun v hv => hvalue v (hvlan v hv)) rfl ?_
  refine .optional rfl (fun k hk => restores_number (h.deviceMtu k hk)) rfl ?_
  exact .nil i

theorem restores_binding {b : Binding} (h : b.InRange) : Restores readBinding b.toValue b := by
  refine restores_record (by decide) ?_
  refine .needed (restores_text b.switch) ?_
  refine .needed (restores_text b.interface) ?_
  refine .defaulted (restores_ports h.ports) ?_
  exact .nil b

theorem restores_wrapped {α : Type} {name : String} {item : Node → Read α} {start a : α} {v : Value}
    (h : Restores item v a) : Restores (wrapped name item start) (Dump.record [(name, v)]) a :=
  restores_record (List.nodup_singleton _) (.defaulted h (.nil a))

theorem restores_template {t : NodeTemplate} (h : t.InRange) : Restores readTemplate t.toValue t := by
  refine restores_record (by decide) ?_
  refine .needed (restores_text t.label) ?_
  refine .defaulted (restores_list fun s _ => restores_text s) ?_
  refine .defaulted (restores_wrapped (restores_list fun b hb => restores_binding (h.bindings b hb))) ?_
  exact .nil t

/-- A definition is restored from its data. -/
theorem restores_cluster {c : Cluster} (h : c.InRange) (hplain : ∀ v ∈ c.uninterpreted, v.Plain)
    (hdepth : ∀ v ∈ c.uninterpreted, v.depth ≤ 125) : Restores readCluster c.toValue c := by
  have hinterface (i : Interface) (hi : i ∈ c.interfaces) : Restores readInterface i.toValue i :=
    restores_interface (h.interfaces i hi) (fun v hv => hplain v (List.mem_flatMap.2 ⟨i, hi, hv⟩))
      fun v hv => hdepth v (List.mem_flatMap.2 ⟨i, hi, hv⟩)
  refine restores_record (by decide) ?_
  refine .defaulted (restores_wrapped (restores_wrapped
    (restores_list fun m hm => restores_mgmtNetwork (h.mgmtNetworks m hm)))) ?_
  refine .defaulted (restores_wrapped (restores_list fun s hs => restores_switch (h.switches s hs))) ?_
  refine .defaulted (restores_list hinterface) ?_
  refine .defaulted (restores_list fun t ht => restores_template (h.templates t ht)) ?_
  exact .nil c

/-! ## What is read is in range -/

theorem ensures_ports (n : Node) : Ensures (list readPort n) fun ports => ∀ p ∈ ports, p ≤ Text.wordLimit :=
  ensures_list (ensures_number _) n

theorem ensures_mgmtNetwork (n : Node) : Ensures (readMgmtNetwork n) MgmtNetwork.InRange := by
  refine ensures_record ⟨nofun⟩ ?_ n
  refine .other (fun _ _ h => ⟨h.length⟩) ?_
  refine .other (fun _ _ h => ⟨h.length⟩) ?_
  refine .optional (ensures_number _) (fun _ _ hx _ => ⟨hx⟩) ?_
  exact .nil

theorem ensures_link (n : Node) : Ensures (readLink n) Link.InRange := by
  refine ensures_record ⟨nofun, nofun⟩ ?_ n
  refine .other (fun _ _ h => ⟨h.ports, h.length⟩) ?_
  refine .given ensures_ports (fun _ _ hx h => ⟨hx, h.length⟩) ?_
  refine .other (fun _ _ h => ⟨h.ports, h.length⟩) ?_
  refine .other (fun _ _ h => ⟨h.ports, h.length⟩) ?_
  refine .optional (ensures_number _) (fun _ _ hx h => ⟨h.ports, hx⟩) ?_
  refine .other (fun _ _ h => ⟨h.ports, h.length⟩) ?_
  exact .nil

theorem ensures_switch (n : Node) : Ensures (readSwitch n) SwitchRecord.InRange := by
  refine ensures_record ⟨nofun⟩ ?_ n
  iterate 9 refine .other (fun _ _ h => ⟨h.links⟩) ?_
  refine .given (ensures_list ensures_link) (fun _ _ hx _ => ⟨hx⟩) ?_
  exact .nil

theorem ensures_interface (n : Node) : Ensures (readInterface n) fun i =>
    i.InRange ∧ (∀ v ∈ i.bondingMaster, v.depth ≤ 125) ∧ ∀ v ∈ i.vlan, v.depth ≤ 125 := by
  refine ensures_record ⟨⟨nofun, nofun⟩, nofun, nofun⟩ ?_ n
  iterate 5 refine .other (fun _ _ h => ⟨⟨h.1.mtuValue, h.1.deviceMtu⟩, h.2⟩) ?_
  refine .optional (ensures_number _) (fun _ _ hx h => ⟨⟨hx, h.1.deviceMtu⟩, h.2⟩) ?_
  refine .other (fun _ _ h => ⟨⟨h.1.mtuValue, h.1.deviceMtu⟩, h.2⟩) ?_
  refine .optional (ensures_value 125) (fun _ _ hx h => ⟨⟨h.1.mtuValue, h.1.deviceMtu⟩, hx, h.2.2⟩) ?_
  refine .other (fun _ _ h => ⟨⟨h.1.mtuValue, h.1.deviceMtu⟩, h.2⟩) ?_
  refine .optional (ensures_value 125) (fun _ _ hx h => ⟨⟨h.1.mtuValue, h.1.deviceMtu⟩, h.2.1, hx⟩) ?_
  refine .optional (ensures_number _) (fun _ _ hx h => ⟨⟨h.1.mtuValue, hx⟩, h.2⟩) ?_
  exact .nil

theorem ensures_binding (n : Node) : Ensures (readBinding n) Binding.InRange := by
  refine ensures_record ⟨nofun⟩ ?_ n
  refine .other (fun _ _ h => ⟨h.ports⟩) ?_
  refine .other (fun _ _ h => ⟨h.ports⟩) ?_
  refine .given ensures_ports (fun _ _ hx _ => ⟨hx⟩) ?_
  exact .nil

theorem ensures_wrapped {α : Type} {name : String} {item : Node → Read α} {start : α} {P : α → Prop} (hstart : P start)
    (h : ∀ n, Ensures (item n) P) (n : Node) : Ensures (wrapped name item start n) P :=
  ensures_record hstart (.given h (fun _ _ hx _ => hx) .nil) n

theorem ensures_template (n : Node) : Ensures (readTemplate n) NodeTemplate.InRange := by
  refine ensures_record ⟨nofun⟩ ?_ n
  refine .other (fun _ _ h => ⟨h.bindings⟩) ?_
  refine .other (fun _ _ h => ⟨h.bindings⟩) ?_
  refine .given (ensures_wrapped (fun _ => nofun) (ensures_list ensures_binding)) (fun _ _ hx _ => ⟨hx⟩) ?_
  exact .nil

/-- What is read as a definition is in range, and its uninterpreted values nest no deeper than is read. -/
theorem ensures_cluster (n : Node) :
    Ensures (readCluster n) fun c => c.InRange ∧ ∀ v ∈ c.uninterpreted, v.depth ≤ 125 := by
  have hempty : Cluster.empty.InRange :=
    ⟨List.forall_mem_nil _, List.forall_mem_nil _, List.forall_mem_nil _, List.forall_mem_nil _⟩
  refine ensures_record ⟨hempty, List.forall_mem_nil _⟩ ?_ n
  refine .given
    (ensures_wrapped (fun _ => nofun) (ensures_wrapped (fun _ => nofun) (ensures_list ensures_mgmtNetwork)))
    (fun _ _ hx h => ⟨⟨hx, h.1.switches, h.1.interfaces, h.1.templates⟩, h.2⟩) ?_
  refine .given (ensures_wrapped (fun _ => nofun) (ensures_list ensures_switch))
    (fun _ _ hx h => ⟨⟨h.1.mgmtNetworks, hx, h.1.interfaces, h.1.templates⟩, h.2⟩) ?_
  refine .given (ensures_list ensures_interface) (fun is c hx h => ?_) ?_
  · refine ⟨⟨h.1.mgmtNetworks, h.1.switches, fun i hi => (hx i hi).1, h.1.templates⟩, fun v hv => ?_⟩
    obtain ⟨i, hi, hv⟩ := List.mem_flatMap.1 hv
    rcases List.mem_append.1 hv with hv | hv
    · exact (hx i hi).2.1 v (Option.mem_toList.1 hv)
    · exact (hx i hi).2.2 v (Option.mem_toList.1 hv)
  refine .given (ensures_list ensures_template)
    (fun _ _ hx h => ⟨⟨h.1.mgmtNetworks, h.1.switches, h.1.interfaces, hx⟩, h.2⟩) ?_
  exact .nil

/-! ## Texts -/

/-- The text consists of the definition's data. -/
def WrittenIn (c : Cluster) (text : String) : Prop := (Document.ofText text.toList).Spells c.toValue

theorem ofTextUnchecked_eq_ok {text : String} {c : Cluster} :
    ofTextUnchecked text = .ok c ↔ readText readCluster text.toList = .ok c := by
  delta ofTextUnchecked
  cases h : readText readCluster text.toList <;> simp

theorem ofTextUnchecked_of_writtenIn {c : Cluster} (h : c.InRange) (hplain : ∀ v ∈ c.uninterpreted, v.Plain)
    (hdepth : ∀ v ∈ c.uninterpreted, v.depth ≤ 125) {text : String} (htext : c.WrittenIn text) :
    ofTextUnchecked text = .ok c :=
  ofTextUnchecked_eq_ok.2 (readText_of_spells (restores_cluster h hplain hdepth) htext)

theorem inRange_of_ofTextUnchecked {source : String} {c : Cluster} (h : ofTextUnchecked source = .ok c) :
    c.InRange ∧ ∀ v ∈ c.uninterpreted, v.depth ≤ 125 :=
  Ensures.of_readText ensures_cluster (ofTextUnchecked_eq_ok.1 h)

/-- A definition survives being written and read again. Let its uninterpreted values be plain and be nested at most as
deep as is read. Then it is read from each text that consists of its data. A definition that was read from a document is
not nested deeper, so it is read from such a text as well, and the text and the document are both consistent or fail for the
same reason. -/
theorem survives_reload :
    (∀ c : Cluster, c.InRange → (∀ v ∈ c.uninterpreted, v.Plain) → (∀ v ∈ c.uninterpreted, v.depth ≤ 125) →
      ∀ text, c.WrittenIn text → ofTextUnchecked text = .ok c) ∧
    ∀ (source : String) (c : Cluster), ofTextUnchecked source = .ok c → (∀ v ∈ c.uninterpreted, v.Plain) →
      ∀ text, c.WrittenIn text → ofTextUnchecked text = .ok c ∧ ofText text = ofText source := by
  refine ⟨fun c h hplain hdepth text htext => ofTextUnchecked_of_writtenIn h hplain hdepth htext,
    fun source c hsource hplain text htext => ?_⟩
  obtain ⟨h, hdepth⟩ := inRange_of_ofTextUnchecked hsource
  have hread := ofTextUnchecked_of_writtenIn h hplain hdepth htext
  refine ⟨hread, ?_⟩
  rw [ofText, ofText, hread, hsource]

/-! ### A definition that survives -/

/-- Lines with a line feed behind each. -/
def textOfLines (lines : List String) : String := String.ofList (lines.flatMap fun line => line.toList ++ ['\n'])

/-- A switch with an address and a VLAN on a link, and an interface with a list where a VLAN is expected. -/
def leaf : Cluster where
  mgmtNetworks := []
  switches := [{
    label := "leaf", vendor := "onyx", host := "10.0.0.1", userid := none, password := none, mode := .passive
    outfile := none, mlagPeer := none, mlagMaster := false
    links := [{
      target := "spine", ports := [1, 2], vlan := some ⟨4000, by decide, by decide⟩
      ip := some (.v6 ⟨[0x2001, 0xdb8, 0, 0, 0, 0, 0, 1], rfl⟩), length := some 64, vip := none }] }]
  interfaces := [{ Interface.named "eth10" with vlan := some (.sequence [.string "yes", .bool true, .int 20]) }]
  templates := []

/-- The definition as it may be written by hand. -/
def leafSource : String := textOfLines [
  "switches:",
  "  data:",
  "  - label: leaf",
  "    class: onyx",
  "    hostname: 10.0.0.1",
  "    mode: passive",
  "    links:",
  "    - target: spine",
  "      ports: [1, 2]",
  "      vlan: 4000",
  "      ip: 2001:DB8:0::1",
  "      prefix: 64",
  "interfaces:",
  "- label: eth10",
  "  VLAN: [yes, true, 20]"]

/-- The definition's data between brackets. -/
def leafText : String := textOfLines [
  "\x7b\"deployer\": \x7b\"networks\": \x7b\"mgmt\": []\x7d\x7d,",
  " \"switches\": \x7b\"data\": [\x7b\"label\": \"leaf\", \"class\": \"onyx\",",
  "  \"hostname\": \"10.0.0.1\", \"mode\": \"passive\", \"mlag_master\": false,",
  "  \"links\": [\x7b\"target\": \"spine\", \"ports\": [1, 2], \"vlan\": 4000,",
  "   \"ip\": \"2001:db8::1\", \"prefix\": 64\x7d]\x7d]\x7d,",
  " \"interfaces\": [\x7b\"label\": \"eth10\", \"VLAN\": [\"yes\", true, 20]\x7d],",
  " \"node_templates\": []\x7d"]

theorem survives_reload_leaf :
    ofTextUnchecked leafSource = .ok leaf ∧ leaf.WrittenIn leafText ∧ ofTextUnchecked leafText = .ok leaf ∧
      ofText leafText = ofText leafSource := by
  have hsource : ofTextUnchecked leafSource = .ok leaf := by
    rw [ofTextUnchecked_eq_ok, leafSource, textOfLines, String.toList_ofList]
    decide +kernel
  have htext : leaf.WrittenIn leafText := by
    rw [WrittenIn, leafText, textOfLines, String.toList_ofList]
    decide +kernel
  have hitems : ∀ v ∈ [Value.string "yes", .bool true, .int 20], v.Plain := by
    rintro v (_ | ⟨_, _ | ⟨_, _ | ⟨_, ⟨⟩⟩⟩⟩)
    · exact .string _
    · exact .bool _
    · exact .int (by decide) (by decide)
  have hplain : ∀ v ∈ leaf.uninterpreted, v.Plain := List.forall_mem_singleton.2 (.sequence hitems)
  obtain ⟨h, hdepth⟩ := inRange_of_ofTextUnchecked hsource
  exact ⟨hsource, htext, survives_reload.1 leaf h hplain hdepth leafText htext,
    (survives_reload.2 leafSource leaf hsource hplain leafText htext).2⟩

/-! ### A definition that does not -/

/-- A number in as many lists inside each other. -/
def nestedLists : Nat → Value
  | 0 => .int 0
  | n + 1 => .sequence [nestedLists n]

/-- An interface with lists inside each other where a VLAN is expected. -/
def nesting (n : Nat) : Cluster := { empty with interfaces := [{ Interface.named "x" with vlan := some (nestedLists n) }] }

/-- The same definition as a text, with a bracket to a line. -/
def nestingText (n : Nat) : String := textOfLines ([
  "\x7b\"deployer\": \x7b\"networks\": \x7b\"mgmt\": []\x7d\x7d,",
  " \"switches\": \x7b\"data\": []\x7d,",
  " \"interfaces\": [\x7b\"label\": \"x\",",
  "  \"VLAN\":"] ++ List.replicate n "[" ++ ["0"] ++ List.replicate n "]" ++ [
  " \x7d], \"node_templates\": []\x7d"])

theorem depth_nestedLists (n : Nat) : (nestedLists n).depth = n := by
  induction n with
  | zero => rfl
  | succ n ih => rw [nestedLists, Value.depth, Value.itemsDepth, Value.itemsDepth, ih, Nat.max_zero]

theorem plain_nestedLists (n : Nat) : (nestedLists n).Plain := by
  induction n with
  | zero => exact .int (by decide) (by decide)
  | succ n ih => exact .sequence (List.forall_mem_singleton.2 ih)

theorem inRange_nesting (n : Nat) : (nesting n).InRange :=
  ⟨nofun, nofun, List.forall_mem_singleton.2 ⟨nofun, nofun⟩, nofun⟩

theorem uninterpreted_nesting (n : Nat) : (nesting n).uninterpreted = [nestedLists n] := rfl

theorem plain_nesting (n : Nat) : ∀ v ∈ (nesting n).uninterpreted, v.Plain :=
  List.forall_mem_singleton.2 (plain_nestedLists n)

/-- What is nested too deep is read from no text. -/
theorem ofTextUnchecked_ne_nesting {n : Nat} (hn : 125 < n) (text : String) : ofTextUnchecked text ≠ .ok (nesting n) := by
  intro hread
  have hdepth := (inRange_of_ofTextUnchecked hread).2 (nestedLists n)
    (by rw [uninterpreted_nesting]; exact List.mem_singleton_self _)
  rw [depth_nestedLists] at hdepth
  exact Nat.not_lt.2 hdepth hn

/-- One list too many is not read, although all of the data is there. -/
theorem reload_refuses_nesting :
    (nesting 126).InRange ∧ (∀ v ∈ (nesting 126).uninterpreted, v.Plain) ∧
      (nesting 126).WrittenIn (nestingText 126) ∧ ofTextUnchecked (nestingText 126) ≠ .ok (nesting 126) := by
  have htext : (nesting 126).WrittenIn (nestingText 126) := by
    rw [WrittenIn, nestingText, textOfLines, String.toList_ofList]
    decide +kernel
  exact ⟨inRange_nesting 126, plain_nesting 126, htext, ofTextUnchecked_ne_nesting (by decide) _⟩

end Cluster

end SwitchFabric
