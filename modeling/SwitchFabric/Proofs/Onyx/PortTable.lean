import Mathlib.Data.List.Forall2
import Mathlib.Data.List.TakeWhile
import SwitchFabric.Onyx.Show
import SwitchFabric.Proofs.Text.Columns
import SwitchFabric.Proofs.Text.Lines
import SwitchFabric.Proofs.Text.Numbers
import SwitchFabric.Proofs.Traversal

/-!
# The states of ports

The table of the ports has a line for each of them, with any blanks between the columns, and other lines (`ShowsLine`). A
line of a port is read as what it was printed from (`PortEntry.readPortRow_line`): a column is a number or a word with blanks
behind it, so that each run of the pattern takes its whole column. In a line without a port nothing is found.

So the table is read as what it was printed from, and of two lines of one port the last counts (`port_table_read`).
-/

namespace SwitchFabric.Onyx

open Text Text.Pattern

/-! ## The table -/

/-- The modes that the table has for ports. -/
inductive PortMode where
  | access
  | hybrid
  | trunk
  deriving DecidableEq

/-- The modes are shown in lower case. -/
def PortMode.name : PortMode → String
  | access => "access"
  | hybrid => "hybrid"
  | trunk => "trunk"

/-- What a line of the table says of a port. -/
structure PortEntry where
  port : Nat
  mode : PortMode
  native : Nat
  allowed : List Nat
  port_le : port ≤ wordLimit
  native_le : native ≤ shortLimit
  allowed_le : ∀ v ∈ allowed, v ≤ shortLimit

/-- Blanks within a line. -/
def IsGap (cs : List Char) : Prop := ∀ c ∈ cs, isBlank c = true ∧ c ≠ '\n'

instance (cs : List Char) : Decidable (IsGap cs) := List.decidableBAll (fun c => isBlank c = true ∧ c ≠ '\n') cs

/-- What stands before the columns of a line, and behind the last one. -/
structure Gaps where
  mode : List Char
  native : List Char
  allowed : List Char
  behind : List Char

/-- The gaps keep the columns of an entry apart. Without allowed VLANs the last column is missing, and so is its gap. -/
structure Gaps.Separate (g : Gaps) (e : PortEntry) : Prop where
  mode : IsGap g.mode
  mode_ne : g.mode ≠ []
  native : IsGap g.native
  native_ne : g.native ≠ []
  allowed : IsGap g.allowed
  allowed_iff : g.allowed = [] ↔ e.allowed = []
  behind : IsGap g.behind

namespace PortEntry

/-- The state of the port. -/
def state (e : PortEntry) : PortState := ⟨e.mode.name, e.native, e.allowed⟩

/-- The VLANs that the port carries tagged, with commas between them. -/
def allowedText (e : PortEntry) : List Char := [',', ' '].intercalate (e.allowed.map digits)

/-- The columns of the entry, up to its last character. -/
def columns (e : PortEntry) (g : Gaps) : List Char :=
  "Eth1/".toList ++ (digits e.port ++ (g.mode ++ (e.mode.name.toList ++ (g.native ++ (digits e.native ++
    (g.allowed ++ e.allowedText))))))

/-- The line of a port, up to its last blank. -/
def line (e : PortEntry) (g : Gaps) : List Char := e.columns g ++ g.behind

end PortEntry

/-- A line of the table: the line of an entry, or one in which no port stands. -/
inductive ShowsLine : Option PortEntry → List Char → Prop where
  | entry {e : PortEntry} {g : Gaps} (h : g.Separate e) : ShowsLine (some e) (e.line g)
  | other {line : List Char} (hline : '\n' ∉ line) (h : ¬ "Eth1/".toList <:+: line) : ShowsLine none line

/-- The table of lines, with line feeds between them. -/
def portTable (lines : List (List Char)) : List Char := ['\n'].intercalate lines

/-! ## Gaps and modes -/

section

variable {cs : List Char}

theorem IsGap.isBlank (h : IsGap cs) : ∀ c ∈ cs, isBlank c = true := fun c hc => (h c hc).1

theorem IsGap.isDecimal (h : IsGap cs) : ∀ c ∈ cs, isDecimal c = false := fun c hc =>
  isDecimal_eq_false_of_isBlank (h.isBlank c hc)

/-- A number ends where a gap starts. -/
theorem IsGap.startsOutside (h : IsGap cs) (hne : cs ≠ []) (ys : List Char) : StartsOutside Text.isDecimal (cs ++ ys) :=
  startsOutside_isDecimal hne h.isBlank ys

/-- A gap ends where a number starts. -/
theorem startsOutside_digits (n : Nat) (ys : List Char) : StartsOutside isBlank (digits n ++ ys) :=
  startsOutside_isBlank (digits_ne_nil n) (fun _ hc => isDigit_of_mem_digits hc) ys

end

namespace PortMode

variable (m : PortMode)

/-- The words that the pattern of a line has for modes. -/
def names : List (List Char) := ["access".toList, "hybrid".toList, "trunk".toList]

theorem name_mem : m.name.toList ∈ names := by
  cases m <;> decide

/-- The modes differ in their first letters, so none is what another one starts with. -/
theorem eq_of_prefix {name ys : List Char} (hname : name ∈ names) (hpre : name <+: m.name.toList ++ ys) :
    name = m.name.toList := by
  have hletters : ∀ name ∈ names, name ≠ [] ∧ (name.head? = m.name.toList.head? → name = m.name.toList) := by
    cases m <;> decide
  have hmode : m.name.toList ≠ [] := (hletters _ m.name_mem).1
  obtain ⟨hne, heq⟩ := hletters name hname
  obtain ⟨rest, hrest⟩ := hpre
  have hheads := congrArg List.head? hrest
  rw [List.head?_append_of_ne_nil _ hne, List.head?_append_of_ne_nil _ hmode] at hheads
  exact heq hheads

theorem startsOutside_name (ys : List Char) : StartsOutside isBlank (m.name.toList ++ ys) :=
  .append (by cases m <;> decide) (by cases m <;> exact startsOutside_cons.2 (by decide))

end PortMode

/-! ## Lines of ports -/

namespace PortEntry

variable (e : PortEntry) {g : Gaps}

theorem allowedText_eq_nil (h : e.allowed = []) : e.allowedText = [] := by
  rw [allowedText, h]
  rfl

/-- The text of the allowed VLANs, if there are any, starts with the first. -/
theorem exists_allowedText (hne : e.allowed ≠ []) : ∃ v rest, e.allowedText = digits v ++ rest := by
  obtain ⟨v, vs, hallowed⟩ := List.exists_cons_of_ne_nil hne
  rw [allowedText, hallowed, List.map_cons, intercalate_cons]
  exact ⟨v, _, rfl⟩

theorem mem_allowedText {c : Char} (h : c ∈ e.allowedText) : c.isDigit = true ∨ c = ',' ∨ c = ' ' := by
  rw [allowedText] at h
  cases hallowed : e.allowed with
  | nil =>
    rw [hallowed] at h
    cases h
  | cons v vs =>
    rw [hallowed, List.map_cons, intercalate_cons, List.mem_append, List.mem_flatMap] at h
    rcases h with h | ⟨_, hw, h⟩
    · exact .inl (isDigit_of_mem_digits h)
    · obtain ⟨w, -, rfl⟩ := List.mem_map.1 hw
      rcases List.mem_append.1 h with h | h
      · exact .inr (List.mem_pair.1 h)
      · exact .inl (isDigit_of_mem_digits h)

theorem inLine_behindGap (h : g.Separate e) : ∀ c ∈ e.allowedText ++ g.behind, inLine c = true := by
  intro c hc
  rw [inLine, bne_iff_ne]
  rintro rfl
  rcases List.mem_append.1 hc with hc | hc
  · exact absurd (e.mem_allowedText hc) (by decide)
  · exact (h.behind _ hc).2 rfl

/-- Behind the native VLAN the allowed ones are read. -/
theorem exists_fieldsAt_allowed (h : g.Separate e) :
    ∃ text, fieldsAt [.run 0 isBlank, .field 0 inLine] (g.allowed ++ (e.allowedText ++ g.behind)) = some [text] ∧
      digitRuns text = e.allowed.map digits := by
  by_cases hnone : e.allowed = []
  · -- the run takes the blanks at the end of the line as well, and leaves nothing
    have hrun := fieldsAt_run_of_some h.behind.isBlank startsOutside_nil (Nat.zero_le _) (fieldsAt_last inLine [])
    rw [List.append_nil] at hrun
    rw [h.allowed_iff.2 hnone, e.allowedText_eq_nil hnone, hnone]
    exact ⟨[], hrun, rfl⟩
  · obtain ⟨v, rest, htext⟩ := e.exists_allowedText hnone
    have hstart : StartsOutside isBlank (e.allowedText ++ g.behind) := by
      rw [htext, List.append_assoc]
      exact startsOutside_digits v _
    have hall : (e.allowedText ++ g.behind).takeWhile inLine = e.allowedText ++ g.behind :=
      List.takeWhile_eq_self_iff.2 (e.inLine_behindGap h)
    refine ⟨e.allowedText ++ g.behind, ?_, digitRuns_intercalate e.allowed h.behind.isDecimal⟩
    refine fieldsAt_run_of_some h.allowed.isBlank hstart (Nat.zero_le _) ?_
    rw [fieldsAt_last, hall]

/-- No digit follows the native VLAN. -/
theorem startsOutside_behindNative (h : g.Separate e) :
    StartsOutside isDecimal (g.allowed ++ (e.allowedText ++ g.behind)) := by
  by_cases hnone : e.allowed = []
  · rw [h.allowed_iff.2 hnone, e.allowedText_eq_nil hnone]
    exact fun c hc => h.behind.isDecimal c (List.mem_of_head? hc)
  · exact h.allowed.startsOutside (mt h.allowed_iff.1 hnone) _

/-- The line of an entry is read as the entry. -/
theorem readPortRow_line (h : g.Separate e) : readPortRow (e.line g) = some (e.port, e.state) := by
  obtain ⟨text, hallowed, hruns⟩ := e.exists_fieldsAt_allowed h
  have hpositive {cs : List Char} (hne : cs ≠ []) : 1 ≤ cs.length := List.length_pos_iff.2 hne
  have hnative : fieldsAt [digitField, .run 0 isBlank, .field 0 inLine]
      (digits e.native ++ (g.allowed ++ (e.allowedText ++ g.behind))) = some [digits e.native, text] :=
    fieldsAt_field (isDecimal_digits _) (e.startsOutside_behindNative h) (hpositive (digits_ne_nil _)) hallowed
  have hblanks : fieldsAt [blanks, digitField, .run 0 isBlank, .field 0 inLine]
      (g.native ++ (digits e.native ++ (g.allowed ++ (e.allowedText ++ g.behind)))) = some [digits e.native, text] :=
    fieldsAt_run_of_some h.native.isBlank (startsOutside_digits _ _) (hpositive h.native_ne) hnative
  have hmode : fieldsAt [.word PortMode.names, blanks, digitField, .run 0 isBlank, .field 0 inLine]
      (e.mode.name.toList ++ (g.native ++ (digits e.native ++ (g.allowed ++ (e.allowedText ++ g.behind))))) =
        some [e.mode.name.toList, digits e.native, text] := by
    rw [fieldsAt_word e.mode.name_mem fun name hname hpre => e.mode.eq_of_prefix hname hpre, hblanks, Option.map_some]
  have hport : fieldsAt portRow (e.line g) = some [digits e.port, e.mode.name.toList, digits e.native, text] := by
    simp only [portRow, line, columns, List.append_assoc]
    rw [fieldsAt_text]
    refine fieldsAt_field (isDecimal_digits _) (h.mode.startsOutside h.mode_ne _) (hpositive (digits_ne_nil _)) ?_
    exact fieldsAt_run_of_some h.mode.isBlank (e.mode.startsOutside_name _) (hpositive h.mode_ne) hmode
  have hread : (e.allowed.map digits).filterMap (readUpTo shortLimit) = e.allowed := by
    rw [List.filterMap_map]
    exact (List.filterMap_congr fun v hv => readUpTo_digits (e.allowed_le v hv)).trans List.filterMap_some
  rw [readPortRow, find?_of_fieldsAt hport]
  simp [readUpTo_digits e.port_le, readUpTo_digits e.native_le, hruns, hread, state]

theorem notMem_line (h : g.Separate e) : '\n' ∉ e.line g := by
  have hdigits : ∀ n, '\n' ∉ digits n := notMem_digits rfl
  have hgap {cs : List Char} (hcs : IsGap cs) : '\n' ∉ cs := fun hc => (hcs _ hc).2 rfl
  have hmode : '\n' ∉ e.mode.name.toList := by cases e.mode <;> decide
  have hallowed : '\n' ∉ e.allowedText := fun hc => absurd (e.mem_allowedText hc) (by decide)
  simp only [line, columns, List.mem_append, not_or]
  exact ⟨⟨by decide, hdigits _, hgap h.mode, hmode, hgap h.native, hdigits _, hgap h.allowed, hallowed⟩, hgap h.behind⟩

/-- The columns end with a number. -/
theorem exists_columns_eq (h : g.Separate e) : ∃ front last, e.columns g = front ++ last ∧ last ≠ [] ∧ '\r' ∉ last := by
  by_cases hnone : e.allowed = []
  · refine ⟨"Eth1/".toList ++ (digits e.port ++ (g.mode ++ (e.mode.name.toList ++ g.native))), digits e.native, ?_,
      digits_ne_nil _, notMem_digits rfl _⟩
    rw [columns, h.allowed_iff.2 hnone, e.allowedText_eq_nil hnone]
    simp only [List.append_nil, List.append_assoc]
  · obtain ⟨v, rest, htext⟩ := e.exists_allowedText hnone
    refine ⟨"Eth1/".toList ++ (digits e.port ++ (g.mode ++ (e.mode.name.toList ++ (g.native ++ (digits e.native ++
      g.allowed))))), e.allowedText, ?_, ?_, fun hc => absurd (e.mem_allowedText hc) (by decide)⟩
    · simp only [columns, List.append_assoc]
    · rw [htext]
      exact List.append_ne_nil_of_left_ne_nil (digits_ne_nil v) rest

/-- A carriage return at the end of a line is one of the blanks behind its columns. -/
theorem chopReturn_line (h : g.Separate e) : chopReturn (e.line g) = e.line { g with behind := chopReturn g.behind } := by
  obtain ⟨front, last, hcolumns, hne, hlast⟩ := e.exists_columns_eq h
  by_cases hbehind : g.behind = []
  · rw [line, hbehind, List.append_nil, hcolumns, chopReturn_append hne, chopReturn_of_notMem hlast, ← hcolumns]
    exact (List.append_nil _).symm
  · exact chopReturn_append hbehind _

end PortEntry

/-! ## Reading the table -/

theorem Gaps.Separate.chopReturn {e : PortEntry} {g : Gaps} (h : g.Separate e) :
    { g with behind := Text.chopReturn g.behind : Gaps }.Separate e :=
  { h with behind := fun c hc => h.behind c ((prefix_chopReturn g.behind).subset hc) }

namespace ShowsLine

variable {row : Option PortEntry} {line : List Char}

theorem notMem (h : ShowsLine row line) : '\n' ∉ line := by
  cases h with
  | entry h => exact PortEntry.notMem_line _ h
  | other hline _ => exact hline

/-- A line without its carriage return shows the same. -/
theorem chopReturn (h : ShowsLine row line) : ShowsLine row (chopReturn line) := by
  cases h with
  | entry h =>
    rw [PortEntry.chopReturn_line _ h]
    exact .entry h.chopReturn
  | other hline h =>
    have hpre := prefix_chopReturn line
    exact .other (fun hc => hline (hpre.subset hc)) fun hoccurs => h (hoccurs.trans hpre.isInfix)

theorem readPortRow_eq (h : ShowsLine row line) : readPortRow line = row.map fun e => (e.port, e.state) := by
  cases h with
  | entry h => exact PortEntry.readPortRow_line _ h
  | other _ h =>
    rw [readPortRow, portRow, find?_text_eq_none h]
    rfl

end ShowsLine

/-- The table is read line by line. -/
theorem filterMap_readPortRow {rows : List (Option PortEntry)} {ls : List (List Char)} (h : List.Forall₂ ShowsLine rows ls) :
    (lines (portTable ls)).filterMap readPortRow = rows.filterMap (Option.map fun e => (e.port, e.state)) := by
  have hnil : readPortRow [] = none := by decide
  rw [portTable, filterMap_lines hnil]
  · induction h with
    | nil => rfl
    | cons hrow _ ih => rw [List.filterMap_cons, List.filterMap_cons, hrow.readPortRow_eq, ih]
  · intro l hl
    obtain ⟨row, _, hrow⟩ := exists_of_mem_forall₂ h hl
    exact ⟨hrow.notMem, by rw [hrow.chopReturn.readPortRow_eq, hrow.readPortRow_eq]⟩

namespace PortEntry

theorem isInMode_state (e : PortEntry) : (e.state.isInMode .trunk = true ↔ e.mode = .hybrid ∨ e.mode = .trunk) ∧
    (e.state.isInMode .access = true ↔ e.mode = .access) := by
  rw [state]
  cases e.mode <;> simp [PortState.isInMode, PortMode.name]

end PortEntry

/-- Of a table that shows the entries of ports, with any other lines between them, exactly the ports of the entries are read,
each with what the last entry of the port says of it: mode, native VLAN and allowed VLANs. A port is in trunk mode if the
entry has it as hybrid or trunk, and in access mode if it has it as access. -/
theorem port_table_read {rows : List (Option PortEntry)} {ls : List (List Char)} (h : List.Forall₂ ShowsLine rows ls) :
    (∀ p, p ∈ (readPorts (portTable ls)).keys ↔ ∃ e, some e ∈ rows ∧ e.port = p) ∧
      ∀ before e after, rows = before ++ some e :: after → (∀ e', some e' ∈ after → e'.port ≠ e.port) →
        ∃ s, (readPorts (portTable ls)).get? e.port = some s ∧
          (s.mode = e.mode.name ∧ s.nativeVlan = e.native ∧ s.allowedVlans = e.allowed) ∧
          (s.isInMode .trunk = true ↔ e.mode = .hybrid ∨ e.mode = .trunk) ∧
          (s.isInMode .access = true ↔ e.mode = .access) := by
  rw [readPorts, filterMap_readPortRow h]
  refine ⟨fun p => ?_, fun before e after hrows hlast => ⟨e.state, ?_, ⟨rfl, rfl, rfl⟩, e.isInMode_state⟩⟩
  · rw [SortedMap.mem_keys_ofList, List.mem_map]
    constructor
    · rintro ⟨entry, hentry, rfl⟩
      obtain ⟨row, hrow, hsome⟩ := List.mem_filterMap.1 hentry
      obtain ⟨e, rfl, rfl⟩ := Option.map_eq_some_iff.1 hsome
      exact ⟨e, hrow, rfl⟩
    · rintro ⟨e, he, rfl⟩
      exact ⟨(e.port, e.state), List.mem_filterMap.2 ⟨some e, he, rfl⟩, rfl⟩
  · rw [hrows, List.filterMap_append, List.filterMap_cons]
    refine SortedMap.get?_ofList_of_last fun entry hentry => ?_
    obtain ⟨row, hrow, hsome⟩ := List.mem_filterMap.1 hentry
    obtain ⟨e', rfl, rfl⟩ := Option.map_eq_some_iff.1 hsome
    exact hlast e' hrow

/-- A port with two lines, the last of which counts, and one without allowed VLANs. -/
theorem port_table_read_secondLine :
    let hybrid : PortEntry := ⟨5, .hybrid, 1, [20, 30], by decide, by decide, by decide⟩
    let access : PortEntry := ⟨6, .access, 1, [], by decide, by decide, by decide⟩
    let trunk : PortEntry := ⟨5, .trunk, 1, [40], by decide, by decide, by decide⟩
    let ls := ["Interface   Mode     Access vlan  Allowed vlans".toList,
      hybrid.line ⟨"      ".toList, "   ".toList, "            ".toList, []⟩,
      access.line ⟨"      ".toList, "   ".toList, [], []⟩,
      trunk.line ⟨"\t".toList, " ".toList, "  ".toList, " \r".toList⟩, []]
    let table := "Interface   Mode     Access vlan  Allowed vlans\nEth1/5      hybrid   1            20, 30\n" ++
      "Eth1/6      access   1\nEth1/5\ttrunk 1  40 \r\n"
    List.Forall₂ ShowsLine [none, some hybrid, some access, some trunk, none] ls ∧ portTable ls = table.toList ∧
      (6 ∈ (readPorts table.toList).keys ∧ 1 ∉ (readPorts table.toList).keys) ∧
      ∃ s, (readPorts table.toList).get? 5 = some s ∧ s.allowedVlans = [40] ∧ s.isInMode .trunk = true ∧
        s.isInMode .access = false := by
  intro hybrid access trunk ls table
  have hheader : ShowsLine none "Interface   Mode     Access vlan  Allowed vlans".toList :=
    .other (by decide +kernel) (by decide +kernel)
  have hshows : List.Forall₂ ShowsLine [none, some hybrid, some access, some trunk, none] ls := by
    have hend : ShowsLine none [] := .other (by decide) (by decide)
    refine .cons hheader (.cons (.entry ?_) (.cons (.entry ?_) (.cons (.entry ?_) (.cons hend .nil))))
    all_goals constructor <;> decide
  have htable : portTable ls = table.toList := by decide +kernel
  obtain ⟨hkeys, hlast⟩ := port_table_read hshows
  rw [htable] at hkeys hlast
  obtain ⟨s, hs, ⟨-, -, hallowed⟩, htrunk, haccess⟩ := hlast [none, some hybrid, some access] trunk [none] rfl (by simp)
  refine ⟨hshows, htable, ⟨(hkeys 6).2 ⟨access, by simp, rfl⟩, fun h => ?_⟩, s, hs, hallowed, htrunk.2 (.inr rfl), ?_⟩
  · obtain ⟨e, he, hport⟩ := (hkeys 1).1 h
    simp at he
    rcases he with rfl | rfl | rfl <;> cases hport
  · exact Bool.eq_false_iff.2 fun h => absurd (haccess.1 h) (by decide)

end SwitchFabric.Onyx
