import Mathlib.Data.List.Forall2
import SwitchFabric.Onyx.Show
import SwitchFabric.Proofs.Text.Columns
import SwitchFabric.Proofs.Text.Numbers

/-!
# The ports of a port channel

The summary of port channels has a row for each of them. The number of a row is looked for by its first digits only,
and the ports behind it by the next text that is no blank, wherever that is. So the ports that are read for a channel
are those of the first row whose number starts with its digits or, where that row has no ports, those of the row below
(`members_of_first_row`). A channel can get the ports of another one (`members_of_other_channels`).
-/

namespace SwitchFabric.Onyx

open Text Text.Pattern

/-! ## The summary -/

/-- A port of a port channel, and the letter of its state. -/
structure SummaryPort where
  number : Nat
  state : Char
  number_le : number ≤ wordLimit
  isBlank_state : isBlank state = false
  isDigit_state : state.isDigit = false

/-- A port as a cell: in slot 1, with its state in parentheses. -/
def SummaryPort.text (p : SummaryPort) : List Char := "Eth1/".toList ++ (digits p.number ++ ['(', p.state, ')'])

/-- A row of the summary: its number, the port channel and its state, the type of the protocol, and the ports. -/
structure SummaryRow where
  group : Nat
  channel : Nat
  state : List Char
  kind : List Char
  members : List SummaryPort
  solid_state : Solid state
  kind_ne_nil : kind ≠ []
  isWordChar_kind : ∀ c ∈ kind, isWordChar c = true

namespace SummaryRow

/-- The port channel as a cell, with its state in parentheses. -/
def channelText (row : SummaryRow) : List Char :=
  "Po".toList ++ (digits row.channel ++ ('(' :: row.state ++ [')']))

/-- The columns of a row. Each port is a column of its own. -/
def cells (row : SummaryRow) : List (List Char) :=
  digits row.group :: row.channelText :: row.kind :: row.members.map SummaryPort.text

/-- The ports that a row lists, whatever their states. -/
def ports (row : SummaryRow) : List Nat := row.members.map (·.number)

end SummaryRow

/-- The lines above the rows. -/
def summaryHeader : String :=
  "Group Port-Channel      Type    Member Ports\n---------------------------------------------"

/-- Lines below others, with line feeds at the end. -/
def below (lines : List (List Char)) (feeds : Nat) : List Char :=
  lines.flatMap ('\n' :: ·) ++ List.replicate feeds '\n'

/-- The summary with these lines for its rows. -/
def summary (lines : List (List Char)) (feeds : Nat) : List Char := summaryHeader.toList ++ below lines feeds

/-- The lines are those of the rows. -/
def Lists (rows : List SummaryRow) (lines : List (List Char)) : Prop :=
  List.Forall₂ (fun row line => Spaced row.cells line) rows lines

/-! ## Cells -/

theorem SummaryPort.text_eq (p : SummaryPort) :
    p.text = "Eth1/".toList ++ (digits p.number ++ ['(', p.state]) ++ [')'] := by
  simp [text]

theorem SummaryPort.solid_text (p : SummaryPort) : Solid p.text := by
  have hslot : Solid "Eth1/".toList := by decide
  have hopen : isBlank '(' = false := by decide
  have hclose : isBlank ')' = false := by decide
  intro c hc
  simp only [text, List.mem_append, List.mem_cons, List.not_mem_nil, or_false] at hc
  rcases hc with hc | hc | rfl | rfl | rfl
  · exact hslot c hc
  · exact solid_digits p.number c hc
  · exact hopen
  · exact p.isBlank_state
  · exact hclose

/-- A port is read without its state. -/
theorem SummaryPort.readMember_text (p : SummaryPort) : readMember p.text = some p.number := by
  have hstate : ∀ c ∈ ['(', p.state, ')'], c.isDigit = false := by
    simp only [List.forall_mem_cons, List.not_mem_nil, false_implies, implies_true, and_true]
    exact ⟨by decide, p.isDigit_state, by decide⟩
  rw [readMember, text]
  simp only [List.isPrefixOf_iff_prefix.2 (List.prefix_append _ _), if_true, List.drop_left]
  rw [dropEndWhile_digits p.number hstate, readUpTo_digits p.number_le]

namespace SummaryRow

variable (row : SummaryRow)

theorem channelText_eq :
    row.channelText = "Po".toList ++ (digits row.channel ++ '(' :: row.state) ++ [')'] := by
  simp [channelText]

theorem solid_channelText : Solid row.channelText := by
  have hword : Solid "Po".toList := by decide
  have hopen : isBlank '(' = false := by decide
  have hclose : isBlank ')' = false := by decide
  intro c hc
  simp only [channelText, List.mem_append, List.mem_cons, List.not_mem_nil, or_false] at hc
  rcases hc with hc | hc | (rfl | hc) | rfl
  · exact hword c hc
  · exact solid_digits row.channel c hc
  · exact hopen
  · exact row.solid_state c hc
  · exact hclose

theorem solid_kind : Solid row.kind := fun c hc => isBlank_eq_false_of_isWordChar (row.isWordChar_kind c hc)

theorem solid_cells : ∀ cell ∈ row.cells, cell ≠ [] ∧ Solid cell := by
  have hchannel : row.channelText ≠ [] := by simp [channelText]
  simp only [cells, List.forall_mem_cons, List.forall_mem_map]
  exact ⟨⟨digits_ne_nil _, solid_digits _⟩, ⟨hchannel, row.solid_channelText⟩, ⟨row.kind_ne_nil, row.solid_kind⟩,
    fun p _ => ⟨by simp [SummaryPort.text], p.solid_text⟩⟩

/-- A text of another form is no port. -/
theorem readMember_eq_none {word : List Char} (h : ¬ "Eth1/".toList <+: word) : readMember word = none := by
  rw [readMember]
  exact if_neg fun hpre => h (List.isPrefixOf_iff_prefix.1 hpre)

theorem readMember_members : (row.members.map SummaryPort.text).filterMap readMember = row.ports := by
  rw [List.filterMap_map, ports, ← List.filterMap_eq_map]
  exact List.filterMap_congr fun p _ => p.readMember_text

/-- The ports in a row are what is read of its cells. -/
theorem readMember_cells : row.cells.filterMap readMember = row.ports := by
  have hgroup : readMember (digits row.group) = none := readMember_eq_none fun hpre => by
    have hdigit : 'E' ∈ digits row.group := hpre.subset (by decide)
    exact absurd hdigit (notMem_digits rfl row.group)
  have hchannel : readMember row.channelText = none := readMember_eq_none fun hpre =>
    absurd (List.cons_prefix_cons.1 hpre).1 (by decide)
  have hkind : readMember row.kind = none := readMember_eq_none fun hpre => by
    have hslash : '/' ∈ row.kind := hpre.subset (by decide)
    exact absurd (row.isWordChar_kind _ hslash) (by decide)
  rw [cells, List.filterMap_cons_none hgroup, List.filterMap_cons_none hchannel, List.filterMap_cons_none hkind,
    readMember_members]

end SummaryRow

/-! ## Rows -/

variable {channel : Nat} {row : SummaryRow} {rows : List SummaryRow} {line : List Char} {lines : List (List Char)}
  {xs ys bs zs : List Char}

/-- What is looked for behind the number of a row. -/
def channelPart (channel : Nat) : Pattern :=
  [.text ("Po".toList ++ digits channel), .run 0 (!isBlank ·), .run 1 isBlank, .run 1 isWordChar, .run 1 isBlank,
    .field 0 inLine]

theorem readMembers_of_passesOver (h : (channelRow channel).PassesOver xs ys) :
    readMembers (xs ++ ys) channel = readMembers ys channel := by
  rw [readMembers, h.find?, readMembers]

theorem isBlank_replicate (n : Nat) : ∀ c ∈ List.replicate n ' ', isBlank c = true := by
  intro c hc
  rw [List.eq_of_mem_replicate hc]
  decide

/-- The number of a row starts with the digits that the text in front of its state starts with. -/
theorem digits_prefix_iff (m n : Nat) (cs : List Char) :
    digits m <+: digits n ++ '(' :: cs ↔ digits m <+: digits n := by
  refine ⟨fun h => ?_, fun h => h.trans (List.prefix_append _ _)⟩
  rcases List.prefix_or_prefix_of_prefix h (List.prefix_append (digits n) _) with hpre | ⟨more, hmore⟩
  · exact hpre
  · cases more with
    | nil => exact ⟨[], by rw [← hmore, List.append_nil, List.append_nil]⟩
    | cons c more =>
      rw [← hmore, List.prefix_append_right_inj, List.cons_prefix_cons] at h
      have hdigit : '(' ∈ digits m := by simp [← hmore, h.1]
      exact absurd hdigit (notMem_digits rfl m)

theorem startsOutside_kind (inside : Char → Bool) (row : SummaryRow)
    (hinside : ∀ c, isWordChar c = true → inside c = false) (cs : List Char) :
    StartsOutside inside (row.kind ++ cs) :=
  .append row.kind_ne_nil fun c hc => hinside c (row.isWordChar_kind c (List.mem_of_head? hc))

/-- Behind the type of a row, the blanks and the next text are read, if there are any blanks. -/
theorem fieldsAt_behindKind (hbs : ∀ c ∈ bs, isBlank c = true) (hzs : StartsOutside isBlank zs) :
    fieldsAt [.run 1 isBlank, .field 0 inLine] (bs ++ zs) = if bs = [] then none else some [zs.takeWhile inLine] := by
  cases bs with
  | nil => exact fieldsAt_run_eq_none hzs
  | cons c bs => exact fieldsAt_run_of_some hbs hzs (Nat.le_add_left 1 bs.length) (fieldsAt_last inLine zs)

theorem startsOutside_gap {inside : Char → Bool} (h : inside ' ' = false) (n : Nat) (cs : List Char) :
    StartsOutside inside (List.replicate (n + 1) ' ' ++ cs) :=
  startsOutside_cons.2 h

theorem startsOutside_blanks {inside : Char → Bool} (hbs : ∀ c ∈ bs, isBlank c = true) (hend : bs = [] → zs = [])
    (hinside : ∀ c, isBlank c = true → inside c = false) : StartsOutside inside (bs ++ zs) := by
  cases bs with
  | nil =>
    rw [hend rfl]
    exact startsOutside_nil
  | cons c bs => exact startsOutside_cons.2 (hinside c (hbs c List.mem_cons_self))

/-- Behind the blanks of a row, its port channel and type are read if its number starts with the digits. -/
theorem fieldsAt_channelPart (row : SummaryRow) (n : Nat) (hbs : ∀ c ∈ bs, isBlank c = true)
    (hzs : StartsOutside isBlank zs) (hend : bs = [] → zs = []) :
    fieldsAt (channelPart channel)
        (row.channelText ++ (List.replicate (n + 1) ' ' ++ (row.kind ++ (bs ++ zs)))) =
      if digits channel <+: digits row.channel ∧ bs ≠ [] then some [zs.takeWhile inLine] else none := by
  by_cases hpre : digits channel <+: digits row.channel
  · obtain ⟨more, hmore⟩ := hpre
    have htext : row.channelText ++ (List.replicate (n + 1) ' ' ++ (row.kind ++ (bs ++ zs))) =
        ("Po".toList ++ digits channel) ++ ((more ++ '(' :: row.state ++ [')']) ++
          (List.replicate (n + 1) ' ' ++ (row.kind ++ (bs ++ zs)))) := by
      simp [SummaryRow.channelText, ← hmore]
    have hsolid : ∀ c ∈ more ++ '(' :: row.state ++ [')'], (!isBlank c) = true := by
      intro c hc
      have hmem : c ∈ row.channelText := by
        rw [SummaryRow.channelText, ← hmore]
        simp only [List.mem_append, List.mem_cons] at hc ⊢
        tauto
      rw [row.solid_channelText c hmem]
      rfl
    have hkind := startsOutside_kind isBlank row (fun c => isBlank_eq_false_of_isWordChar) (bs ++ zs)
    have hbehind := startsOutside_blanks hbs hend fun c => isWordChar_eq_false_of_isBlank
    have hlength : 0 < row.kind.length := List.length_pos_iff.2 row.kind_ne_nil
    rw [htext, channelPart, fieldsAt_text,
      fieldsAt_run hsolid (Nat.zero_le _) (startsOutside_gap (by decide) n _) (stops_run fun c hc => by simpa using hc),
      fieldsAt_run (isBlank_replicate _) (by simp) hkind (stops_run fun c => isWordChar_eq_false_of_isBlank),
      fieldsAt_run row.isWordChar_kind hlength hbehind (stops_run fun c => isBlank_eq_false_of_isWordChar),
      fieldsAt_behindKind hbs hzs]
    simp [← hmore]
  · have htext : row.channelText ++ (List.replicate (n + 1) ' ' ++ (row.kind ++ (bs ++ zs))) =
        "Po".toList ++ (digits row.channel ++ '(' :: (row.state ++ ([')'] ++
          (List.replicate (n + 1) ' ' ++ (row.kind ++ (bs ++ zs)))))) := by
      simp [SummaryRow.channelText]
    rw [htext, channelPart, fieldsAt_text_eq_none, if_neg fun h => hpre h.1]
    rwa [List.prefix_append_right_inj, digits_prefix_iff]

/-! ## Lines -/

theorem startsOutside_below (lines : List (List Char)) (feeds : Nat) : StartsOutside inLine (below lines feeds) := by
  have hfeed : inLine '\n' = false := by decide
  cases lines with
  | cons line lines => exact startsOutside_cons.2 hfeed
  | nil =>
    cases feeds with
    | zero => exact startsOutside_nil
    | succ feeds => exact startsOutside_cons.2 hfeed

theorem takeWhile_line {cells : List (List Char)} (h : Spaced cells line) (hcells : ∀ cell ∈ cells, Solid cell)
    (feeds : Nat) : (line ++ below lines feeds).takeWhile inLine = line := by
  have hfeed : isBlank '\n' = true := by decide
  refine takeWhile_append_of_startsOutside (h.forall_mem (by decide) fun cell hcell c hc => ?_)
    (startsOutside_below lines feeds)
  rw [inLine, bne_iff_ne]
  rintro rfl
  rw [hcells cell hcell _ hc] at hfeed
  cases hfeed

/-- Behind the type of a row there are blanks, and then a text that the ports are read from. -/
structure ReadsBehind (ports : List Nat) (bs zs : List Char) : Prop where
  blank : ∀ c ∈ bs, isBlank c = true
  outside : StartsOutside isBlank zs
  noChannel : ¬ ['P'] <+: zs
  nil_of_nil : bs = [] → zs = []
  ports : (words (zs.takeWhile inLine)).filterMap readMember = ports

theorem stops_channelPart : (channelPart channel).Stops isBlank := stops_text (by decide)

/-- No port channel follows the type of a row. -/
theorem ReadsBehind.fieldsAt_eq_none {ports : List Nat} (h : ReadsBehind ports bs zs) :
    fieldsAt (.run 1 isBlank :: channelPart channel) (bs ++ zs) = none := by
  cases bs with
  | nil =>
    rw [h.nil_of_nil rfl]
    exact fieldsAt_run_eq_none startsOutside_nil
  | cons c bs =>
    rw [fieldsAt_run h.blank (Nat.le_add_left 1 bs.length) h.outside stops_channelPart]
    exact fieldsAt_text_eq_none fun hpre => h.noChannel (.trans ⟨'o' :: digits channel, rfl⟩ hpre)

/-- The ports that are read of a row: its own or, if it has none, those of the row below. -/
def portsAt (row : SummaryRow) (rows : List SummaryRow) : List Nat :=
  if row.members.isEmpty then (rows.head?.map SummaryRow.ports).getD [] else row.ports

/-- A line that starts with a word that is no port channel can be read behind blanks. -/
theorem readsBehind_line {cell : List Char} {cells : List (List Char)} {ports : List Nat}
    (h : Spaced (cell :: cells) line) (hcells : ∀ cell' ∈ cell :: cells, cell' ≠ [] ∧ Solid cell')
    (hchannel : cell.head? ≠ some 'P') (hports : (cell :: cells).filterMap readMember = ports) (hne : bs ≠ [])
    (hbs : ∀ c ∈ bs, isBlank c = true) (feeds : Nat) : ReadsBehind ports bs (line ++ below lines feeds) := by
  obtain ⟨hword, hsolid⟩ := hcells cell List.mem_cons_self
  obtain ⟨c, cell, rfl⟩ := List.exists_cons_of_ne_nil hword
  obtain ⟨tail, htail⟩ := h.exists_eq_append
  refine ⟨hbs, ?_, ?_, fun hnil => absurd hnil hne, ?_⟩
  · rw [htail]
    exact startsOutside_cons.2 (hsolid c List.mem_cons_self)
  · rw [htail, List.cons_append, List.cons_append, List.cons_prefix_cons]
    rintro ⟨rfl, -⟩
    exact hchannel rfl
  · rw [takeWhile_line h (fun cell' hcell' => (hcells cell' hcell').2), words_of_spaced h hcells, hports]

/-- What is read behind the type of a row are its ports or, if it has none, the line of the row below. -/
theorem exists_readsBehind (h : Spaced (row.kind :: row.members.map SummaryPort.text) line) (hlines : Lists rows lines)
    (feeds : Nat) :
    ∃ tail bs zs, line = row.kind ++ tail ∧ tail ++ below lines feeds = bs ++ zs ∧
      ReadsBehind (portsAt row rows) bs zs := by
  have hfeed : isBlank '\n' = true := by decide
  cases hmembers : row.members with
  | nil =>
    rw [hmembers] at h
    cases h with
    | cons _ _ h => nomatch h
    | last _ n =>
    cases hlines with
    | nil =>
      refine ⟨_, List.replicate n ' ' ++ List.replicate feeds '\n', [], rfl, by simp [below], ?_⟩
      refine ⟨List.forall_mem_append.2 ⟨isBlank_replicate n, fun c hc => ?_⟩, startsOutside_nil, nofun,
        fun _ => rfl, ?_⟩
      · rwa [List.eq_of_mem_replicate hc]
      · simp [portsAt, hmembers, words, wordsAfter]
    | cons hline hlines =>
      next row' line' rows lines =>
      refine ⟨_, List.replicate n ' ' ++ ['\n'], line' ++ below lines feeds, rfl, by simp [below], ?_⟩
      have hports : portsAt row (row' :: rows) = row'.ports := by simp [portsAt, hmembers]
      rw [hports]
      refine readsBehind_line hline row'.solid_cells (fun hhead => ?_) row'.readMember_cells (by simp)
        (List.forall_mem_append.2 ⟨isBlank_replicate n, List.forall_mem_singleton.2 hfeed⟩) feeds
      exact absurd (isDigit_of_mem_digits (List.mem_of_head? hhead)) (by decide)
  | cons p members =>
    have hports : portsAt row rows = row.ports := by simp [portsAt, hmembers]
    rw [hmembers] at h
    cases h with
    | @cons _ n _ line h =>
    refine ⟨_, List.replicate (n + 1) ' ', line ++ below lines feeds, rfl, by simp, ?_⟩
    rw [hports]
    refine readsBehind_line h ?_ (by simp [SummaryPort.text]) ?_ (by simp) (isBlank_replicate _) feeds
    · rw [← List.map_cons, ← hmembers, List.forall_mem_map]
      exact fun p _ => ⟨by simp [SummaryPort.text], p.solid_text⟩
    · rw [← List.map_cons, ← hmembers, row.readMember_members]

/-! ## Searching -/

theorem passesOver_replicate {c : Char} (hc : isDecimal c = false) (n : Nat) (ys : List Char) :
    (channelRow channel).PassesOver (List.replicate n c) ys :=
  passesOver_of_no_digit fun d hd => by rwa [List.eq_of_mem_replicate hd]

/-- Nothing is found in cells that end in something else than a digit. -/
theorem passesOver_cells {cells : List (List Char)} (h : Spaced cells line)
    (hcells : ∀ cell ∈ cells, Solid cell ∧ ∃ xs, cell = xs ++ [')']) (ys : List Char) :
    (channelRow channel).PassesOver line ys := by
  have hclose : isDecimal ')' = false := by decide
  have hblank : isDecimal ' ' = false := by decide
  induction h with
  | last cell n =>
    obtain ⟨hsolid, xs, rfl⟩ := hcells cell List.mem_cons_self
    exact (passesOver_concat hsolid hclose).append (passesOver_replicate hblank n ys)
  | cons cell n h ih =>
    rw [List.forall_mem_cons] at hcells
    obtain ⟨⟨hsolid, xs, rfl⟩, hcells⟩ := hcells
    exact (passesOver_concat hsolid hclose).append ((passesOver_replicate hblank (n + 1) _).append (ih hcells))

/-- The columns of a row. -/
theorem SummaryRow.exists_columns (h : Spaced row.cells line) :
    ∃ m n behind, Spaced (row.kind :: row.members.map SummaryPort.text) behind ∧
      line = digits row.group ++ (List.replicate (m + 1) ' ' ++
        (row.channelText ++ (List.replicate (n + 1) ' ' ++ behind))) := by
  rw [SummaryRow.cells] at h
  cases h with
  | cons _ m h =>
    cases h with
    | cons _ n h => exact ⟨m, n, _, h, rfl⟩

/-- Behind the type of a row, its ports are passed over. -/
theorem passesOver_members {tail : List Char}
    (h : Spaced (row.kind :: row.members.map SummaryPort.text) (row.kind ++ tail)) (ys : List Char) :
    (channelRow channel).PassesOver tail ys := by
  have hblank : isDecimal ' ' = false := by decide
  generalize hcells : row.members.map SummaryPort.text = cells at h
  generalize htext : row.kind ++ tail = text at h
  cases h with
  | last _ n =>
    rw [List.append_cancel_left htext]
    exact passesOver_replicate hblank n ys
  | cons _ n h =>
    rw [List.append_cancel_left htext]
    refine (passesOver_replicate hblank (n + 1) _).append (passesOver_cells h ?_ ys)
    rw [← hcells, List.forall_mem_map]
    exact fun p _ => ⟨p.solid_text, _, p.text_eq⟩

/-- Behind the number of a row, its port channel and type are read if its number starts with the digits. -/
theorem fieldsAt_columns (channel : Nat) (row : SummaryRow) (m n : Nat) (hbs : ∀ c ∈ bs, isBlank c = true)
    (hzs : StartsOutside isBlank zs) (hend : bs = [] → zs = []) :
    fieldsAt (.run 1 isBlank :: channelPart channel) (List.replicate (m + 1) ' ' ++
        (row.channelText ++ (List.replicate (n + 1) ' ' ++ (row.kind ++ (bs ++ zs))))) =
      if digits channel <+: digits row.channel ∧ bs ≠ [] then some [zs.takeWhile inLine] else none := by
  have hne : row.channelText ≠ [] := by simp [SummaryRow.channelText]
  have hchannel : StartsOutside isBlank row.channelText := fun c hc => row.solid_channelText c (List.mem_of_head? hc)
  rw [fieldsAt_run (isBlank_replicate _) (by simp) (hchannel.append hne) stops_channelPart,
    fieldsAt_channelPart row n hbs hzs hend]

theorem passesOver_channelText (row : SummaryRow) (ys : List Char) :
    (channelRow channel).PassesOver row.channelText ys := by
  have hclose : isDecimal ')' = false := by decide
  have hsolid := row.solid_channelText
  rw [row.channelText_eq] at hsolid ⊢
  exact passesOver_concat hsolid hclose

/-- A row is passed over if nothing is found behind its number and nothing behind its type. -/
theorem passesOver_row (m n : Nat) {tail : List Char}
    (h : Spaced (row.kind :: row.members.map SummaryPort.text) (row.kind ++ tail))
    (htail : StartsOutside isDecimal (tail ++ ys))
    (hkind : fieldsAt (.run 1 isBlank :: channelPart channel) (tail ++ ys) = none)
    (hgroup : fieldsAt (.run 1 isBlank :: channelPart channel) (List.replicate (m + 1) ' ' ++
      (row.channelText ++ (List.replicate (n + 1) ' ' ++ (row.kind ++ (tail ++ ys))))) = none) :
    (channelRow channel).PassesOver (digits row.group ++ (List.replicate (m + 1) ' ' ++
      (row.channelText ++ (List.replicate (n + 1) ' ' ++ (row.kind ++ tail))))) ys := by
  have hblank : isDecimal ' ' = false := by decide
  refine .append (passesOver_word (solid_digits _) ?_ ?_) (.append (passesOver_replicate hblank _ _)
    (.append (passesOver_channelText row _) (.append (passesOver_replicate hblank _ _)
      (.append (passesOver_word row.solid_kind htail hkind) (passesOver_members h ys)))))
  · rw [List.append_assoc]
    exact startsOutside_gap hblank m _
  · simp only [List.append_assoc]
    exact hgroup

/-- A row is read if its number starts with the digits that are looked for, and passed over otherwise. -/
theorem readMembers_row (h : Spaced row.cells line) (hlines : Lists rows lines) (feeds : Nat) :
    readMembers (line ++ below lines feeds) channel =
      if digits channel <+: digits row.channel then portsAt row rows else readMembers (below lines feeds) channel := by
  obtain ⟨m, n, behind, hbehind, rfl⟩ := SummaryRow.exists_columns h
  obtain ⟨tail, bs, zs, rfl, htail, hreads⟩ := exists_readsBehind hbehind hlines feeds
  have hcolumns := fieldsAt_columns channel row m n hreads.blank hreads.outside hreads.nil_of_nil
  by_cases hfound : digits channel <+: digits row.channel ∧ bs ≠ []
  · have hlength : 0 < (digits row.group).length := List.length_pos_iff.2 (digits_ne_nil _)
    have hblank : isDecimal ' ' = false := by decide
    rw [if_pos hfound] at hcolumns
    have hfields : (channelRow channel).fieldsAt (digits row.group ++ (List.replicate (m + 1) ' ' ++
        (row.channelText ++ (List.replicate (n + 1) ' ' ++ (row.kind ++ (bs ++ zs)))))) =
          some [zs.takeWhile inLine] :=
      fieldsAt_run_of_some (isDecimal_digits _) (startsOutside_gap hblank m _) hlength hcolumns
    rw [if_pos hfound.1]
    simp only [List.append_assoc, htail]
    rw [readMembers, find?_of_fieldsAt hfields]
    exact hreads.ports
  · rw [if_neg hfound, ← htail] at hcolumns
    have hbehind' : StartsOutside isDecimal (tail ++ below lines feeds) := by
      rw [htail]
      exact startsOutside_blanks hreads.blank hreads.nil_of_nil fun c => isDecimal_eq_false_of_isBlank
    have hkind : fieldsAt (.run 1 isBlank :: channelPart channel) (tail ++ below lines feeds) = none := by
      rw [htail]
      exact hreads.fieldsAt_eq_none
    rw [readMembers_of_passesOver (passesOver_row m n hbehind hbehind' hkind hcolumns)]
    split
    · next hpre =>
      have hbs : bs = [] := by_contra fun hne => hfound ⟨hpre, hne⟩
      have hports := hreads.ports
      rw [hbs, hreads.nil_of_nil hbs, List.append_nil, List.append_eq_nil_iff] at htail
      rw [htail.2, ← hports, hreads.nil_of_nil hbs]
      rfl
    · rfl

/-- The ports that are read for a channel: those of the first row whose number starts with its digits. -/
def portsRead (channel : Nat) : List SummaryRow → List Nat
  | [] => []
  | row :: rows => if digits channel <+: digits row.channel then portsAt row rows else portsRead channel rows

theorem readMembers_below (h : Lists rows lines) (feeds : Nat) :
    readMembers (below lines feeds) channel = portsRead channel rows := by
  have hfeed : isDecimal '\n' = false := by decide
  induction h with
  | nil =>
    have hempty : below [] feeds = List.replicate feeds '\n' ++ [] := by simp [below]
    rw [hempty, readMembers_of_passesOver (passesOver_replicate hfeed feeds [])]
    rfl
  | cons hline hlines ih =>
    next row line rows lines =>
    have hlist : below (line :: lines) feeds = List.replicate 1 '\n' ++ (line ++ below lines feeds) := by simp [below]
    rw [hlist, readMembers_of_passesOver (passesOver_replicate hfeed 1 _), readMembers_row hline hlines, ih, portsRead]

/-- If only the row of the channel has a number that starts with its digits, and that row has ports, these are read. -/
theorem portsRead_of_unique
    (h : ∀ row ∈ rows, digits channel <+: digits row.channel → row.channel = channel ∧ row.members ≠ []) :
    portsRead channel rows = ((rows.find? (·.channel == channel)).map SummaryRow.ports).getD [] := by
  induction rows with
  | nil => rfl
  | cons row rows ih =>
    obtain ⟨hrow, hrows⟩ := List.forall_mem_cons.1 h
    rw [portsRead]
    split
    · next hpre =>
      obtain ⟨hchannel, hmembers⟩ := hrow hpre
      rw [List.find?_cons_of_pos (by simpa using hchannel), portsAt, if_neg (by simpa using hmembers)]
      rfl
    · next hpre =>
      have hchannel : row.channel ≠ channel := fun heq => hpre (heq ▸ List.prefix_refl _)
      rw [List.find?_cons_of_neg (by simpa using hchannel), ih hrows]

/-- In front of the rows there are no digits. -/
theorem readMembers_summary (h : Lists rows lines) (feeds : Nat) :
    readMembers (summary lines feeds) channel = portsRead channel rows := by
  have hall : summaryHeader.toList.all (!isDecimal ·) = true := by decide
  have hheader : ∀ c ∈ summaryHeader.toList, isDecimal c = false := fun c hc => by
    simpa using List.all_eq_true.1 hall c hc
  rw [summary, readMembers_of_passesOver (passesOver_of_no_digit hheader), readMembers_below h]

/-- The ports that are read for a channel are those of the first row whose number starts with its digits or, if that
row has none, those of the row below. They are the right ones if no other number starts with these digits and the row
of the channel has ports. -/
theorem members_of_first_row (channel feeds : Nat) (h : Lists rows lines) :
    readMembers (summary lines feeds) channel = portsRead channel rows ∧
      ((∀ row ∈ rows, digits channel <+: digits row.channel → row.channel = channel ∧ row.members ≠ []) →
        readMembers (summary lines feeds) channel =
          ((rows.find? (·.channel == channel)).map SummaryRow.ports).getD []) :=
  ⟨readMembers_summary h feeds, fun hrows => (readMembers_summary h feeds).trans (portsRead_of_unique hrows)⟩

/-! ## Two channels -/

/-- A row of a channel that is up. -/
def upRow (group channel : Nat) (members : List SummaryPort) : SummaryRow :=
  ⟨group, channel, "U".toList, "LACP".toList, members, by decide, by decide, List.all_eq_true.1 (by decide)⟩

/-- A port channel of two ports. -/
def row6 : SummaryRow :=
  upRow 1 6 [⟨29, 'P', by decide, by decide, by decide⟩, ⟨30, 'P', by decide, by decide, by decide⟩]

/-- A port channel whose number starts with that of another, and one of whose ports is down. -/
def row10 : SummaryRow :=
  upRow 2 10 [⟨10, 'P', by decide, by decide, by decide⟩, ⟨11, 'D', by decide, by decide, by decide⟩]

/-- A line for the first of these rows. -/
def line6 : List Char := "1     Po6(U)            LACP    Eth1/29(P)   Eth1/30(P)".toList

/-- A line for the second, with the same columns. -/
def line10 : List Char := "2     Po10(U)           LACP    Eth1/10(P)   Eth1/11(D)".toList

theorem lists_channels : Lists [row6, row10] [line6, line10] :=
  .cons (.cons _ 4 (.cons _ 11 (.cons _ 3 (.cons _ 2 (.last _ 0)))))
    (.cons (.cons _ 4 (.cons _ 10 (.cons _ 3 (.cons _ 2 (.last _ 0))))) .nil)

theorem members_of_first_row_channels :
    Lists [row6, row10] [line6, line10] ∧
      (∀ row ∈ [row6, row10], digits 6 <+: digits row.channel → row.channel = 6 ∧ row.members ≠ []) ∧
      readMembers (summary [line6, line10] 1) 6 = [29, 30] ∧ readMembers (summary [line6, line10] 1) 10 = [10, 11] ∧
      readMembers (summary [line6, line10] 1) 7 = [] := by
  have hrows : ∀ row ∈ [row6, row10], digits 6 <+: digits row.channel → row.channel = 6 ∧ row.members ≠ [] := by
    decide
  exact ⟨lists_channels, hrows, (members_of_first_row 6 1 lists_channels).2 hrows,
    (members_of_first_row 10 1 lists_channels).1, (members_of_first_row 7 1 lists_channels).1⟩

/-- A channel without a row gets the ports of one whose number starts with its digits, and a channel without ports gets
those of the row below. -/
theorem members_of_other_channels :
    (Lists [row6, row10] [line6, line10] ∧ row6.channel ≠ row10.channel ∧ (∀ row ∈ [row6, row10], row.channel ≠ 1) ∧
      readMembers (summary [line6, line10] 1) 1 = [10, 11]) ∧
    (Lists [upRow 1 6 [], row10] ["1     Po6(U)            LACP".toList, line10] ∧
      (upRow 1 6 []).channel ≠ row10.channel ∧
      readMembers (summary ["1     Po6(U)            LACP".toList, line10] 1) 6 = [10, 11]) := by
  have hlists : Lists [upRow 1 6 [], row10] ["1     Po6(U)            LACP".toList, line10] :=
    .cons (.cons _ 4 (.cons _ 11 (.last _ 0))) (.cons (.cons _ 4 (.cons _ 10 (.cons _ 3 (.cons _ 2 (.last _ 0))))) .nil)
  exact ⟨⟨lists_channels, by decide, by decide, readMembers_summary lists_channels 1⟩, hlists, by decide,
    readMembers_summary hlists 1⟩

end SwitchFabric.Onyx
