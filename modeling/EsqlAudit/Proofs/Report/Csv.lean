import EsqlAudit.Command.Run
import EsqlAudit.Proofs.Text.Pieces
import Mathlib.Data.List.Basic

/-!
# Reading tables of comma-separated values

A reader of comma-separated values, and what it makes of the two forms in which a report is given out. The file
that is saved reads back as the rows of the report, whatever the cells hold. The strings that are given to the
console have the cells as they are, and they read back as the rows just when no cell holds a comma or a line end
or starts with a quote.
-/

namespace EsqlAudit.Csv

/-! ## The reader -/

/-- Where a reader stands: at the start of a cell, in a cell without quotes, in a quoted cell, or after a quote in one,
which ends it if no other quote follows. -/
inductive Mode where
  | start | plain | quoted | closing
deriving DecidableEq

/-- What is read from some place on: the rest of the cell, the cells after it in its row, and the rows after that. -/
structure Rest where
  cell : List Char
  cells : List String
  rows : List (List String)

namespace Rest

def put (s : List Char) (r : Rest) : Rest := { r with cell := s ++ r.cell }

def next (r : Rest) : Rest := ⟨[], String.ofList r.cell :: r.cells, r.rows⟩

/-- What is read from the start of a row on. Nothing is read at the end of the text, and an empty line is a row without
cells. -/
def table (r : Rest) : List Char → List (List String)
  | [] => []
  | c :: _ => if c = '\n' ∨ c = '\r' then [] :: r.rows else (String.ofList r.cell :: r.cells) :: r.rows

end Rest

/-- What is read of a text. Outside quotes, a comma ends a cell, and a newline, a carriage return or both end a row. A
quote counts only at the start of a cell; in a quoted cell, two quotes stand for one. -/
def rest : Mode → List Char → Rest
  | _, [] => ⟨[], [], []⟩
  | m, c :: t =>
    if m = .quoted then
      if c = '"' then rest .closing t else (rest .quoted t).put [c]
    else if c = '"' ∧ m = .start then rest .quoted t
    else if c = '"' ∧ m = .closing then (rest .quoted t).put [c]
    else if c = ',' then (rest .start t).next
    else if c = '\r' ∧ t.head? = some '\n' then rest .plain t
    else if c = '\n' ∨ c = '\r' then ⟨[], [], (rest .start t).table t⟩
    else (rest .plain t).put [c]

def read (t : List Char) : List (List String) := (rest .start t).table t

/-- What is read of some strings, each of them taken as the text of a line. -/
def readLines (lines : List String) : List (List String) :=
  read (lines.flatMap fun l => l.toList ++ ['\n'])

/-! ## Steps of the reader -/

/-- The character ends a cell without quotes. -/
def Ends (c : Char) : Prop := c = ',' ∨ c = '\n' ∨ c = '\r'

instance (c : Char) : Decidable (Ends c) := inferInstanceAs (Decidable (_ ∨ _))

variable {m : Mode} {c d : Char} {x t : List Char}

theorem Ends.ne_quote (h : Ends c) : c ≠ '"' := by
  rintro rfl
  revert h
  decide

theorem rest_quoted_cons (hc : c ≠ '"') : rest .quoted (c :: t) = (rest .quoted t).put [c] := by
  simp [rest, hc]

theorem rest_plain_cons (hc : ¬ Ends c) : rest .plain (c :: t) = (rest .plain t).put [c] := by
  obtain ⟨hcomma, hnewline, hreturn⟩ := not_or.mp hc |>.imp_right not_or.mp
  simp [rest, hcomma, hnewline, hreturn]

/-- In a cell without quotes, and after a quoted one, only a quote is read in another way. -/
theorem rest_cons (hm : m ≠ .quoted) (hc : c ≠ '"') : rest m (c :: t) = rest .plain (c :: t) := by
  simp [rest, hm, hc]

theorem rest_of_newline (hd : d = '\n' ∨ d = '\r') : ∃ rows, rest .plain (d :: t) = ⟨[], [], rows⟩ := by
  rcases hd with rfl | rfl
  · exact ⟨_, rfl⟩
  · cases t with
    | nil => exact ⟨_, rfl⟩
    | cons c t =>
        -- A newline after a carriage return ends no row of its own.
        by_cases hc : c = '\n'
        · subst hc
          exact ⟨read t, rfl⟩
        · exact ⟨read (c :: t), by simp [rest, read, hc]⟩

theorem cell_of_ends (hd : Ends d) : (rest .plain (d :: t)).cell = [] := by
  rcases hd with rfl | hd
  · rfl
  · obtain ⟨rows, hrest⟩ := rest_of_newline (t := t) hd
    rw [hrest]

/-! ## Cells -/

/-- The cell can be read without quotes around it. -/
def Plain (x : List Char) : Prop := x.head? ≠ some '"' ∧ ∀ c ∈ x, ¬ Ends c

theorem rest_plain_append (hx : ∀ c ∈ x, ¬ Ends c) : rest .plain (x ++ t) = (rest .plain t).put x := by
  induction x with
  | nil => rfl
  | cons c x ih =>
      rw [List.cons_append, rest_plain_cons (hx c (by simp)), ih fun c hc => hx c (by simp [hc])]
      rfl

theorem rest_of_plain (hx : Plain x) (hd : Ends d) : rest .start (x ++ d :: t) = (rest .plain (d :: t)).put x := by
  rw [← rest_plain_append hx.2]
  cases x with
  | nil => exact rest_cons (by decide) hd.ne_quote
  | cons c x => exact rest_cons (by decide) (by simpa using hx.1)

/-- A cell that holds the end of a cell is cut there. -/
theorem not_ends_of_cell (h : (rest .plain (x ++ t)).cell = x) : ∀ c ∈ x, ¬ Ends c := by
  induction x with
  | nil => simp
  | cons c x ih =>
      by_cases hc : Ends c
      · rw [List.cons_append, cell_of_ends hc] at h
        cases h
      · rw [List.cons_append, rest_plain_cons hc] at h
        exact List.forall_mem_cons.mpr ⟨hc, ih (List.cons.inj h).2⟩

/-- Of the quotes at the start of a cell at least one is lost. -/
theorem quotes_lost (n : Nat) (hc : c ≠ '"') :
    ¬ List.replicate (n + 1) '"' <+: (rest .quoted (List.replicate n '"' ++ c :: t)).cell := by
  match n with
  | 0 =>
      rw [List.replicate_zero, List.nil_append, rest_quoted_cons hc]
      intro h
      exact hc (List.cons_prefix_cons.mp h).1.symm
  | 1 =>
      have hclosing : rest .quoted (List.replicate 1 '"' ++ c :: t) = rest .plain (c :: t) :=
        rest_cons (m := .closing) (by decide) hc
      rw [hclosing]
      by_cases hend : Ends c
      · rw [cell_of_ends hend]
        simp
      · rw [rest_plain_cons hend]
        intro h
        exact hc (List.cons_prefix_cons.mp h).1.symm
  | n + 2 =>
      -- Two quotes are read as one, so the lost one is among the others.
      intro h
      have hrest : List.replicate (n + 2) '"' <+: (rest .quoted (List.replicate n '"' ++ c :: t)).cell :=
        (List.cons_prefix_cons.mp h).2
      have hshorter : List.replicate (n + 1) '"' <+: List.replicate (n + 2) '"' := by
        rw [List.replicate_succ' (n := n + 1)]
        exact List.prefix_append _ _
      exact quotes_lost n hc (hshorter.trans hrest)

/-- A text that is followed by something else than a quote is cut at the end of the quotes at its start. -/
theorem exists_quotes (x t : List Char) (hd : d ≠ '"') :
    ∃ n c t', x ++ d :: t = List.replicate n '"' ++ c :: t' ∧ c ≠ '"' ∧ List.replicate n '"' <+: x := by
  induction x with
  | nil => exact ⟨0, d, t, rfl, hd, List.nil_prefix⟩
  | cons c x ih =>
      by_cases hc : c = '"'
      · obtain ⟨n, c', t', heq, hc', hpre⟩ := ih
        refine ⟨n + 1, c', t', ?_, hc', ?_⟩
        · rw [hc, List.cons_append, heq]
          rfl
        · rw [hc, List.replicate_succ]
          exact List.cons_prefix_cons.mpr ⟨rfl, hpre⟩
      · exact ⟨0, c, x ++ d :: t, rfl, hc, List.nil_prefix⟩

theorem plain_of_cell (hd : Ends d) (h : (rest .start (x ++ d :: t)).cell = x) : Plain x := by
  cases x with
  | nil => exact ⟨by simp, by simp⟩
  | cons c x =>
      by_cases hc : c = '"'
      · subst hc
        obtain ⟨n, c, t', heq, hc, hpre⟩ := exists_quotes x t hd.ne_quote
        have hread : (rest .quoted (x ++ d :: t)).cell = '"' :: x := h
        rw [heq] at hread
        refine absurd ?_ (quotes_lost (t := t') n hc)
        rw [hread, List.replicate_succ]
        exact List.cons_prefix_cons.mpr ⟨rfl, hpre⟩
      · rw [List.cons_append, rest_cons (by decide) hc] at h
        exact ⟨by simpa using hc, not_ends_of_cell h⟩

/-- Before the end of a cell, the text `w` is read as the cell `x`. -/
def ReadAs (w : List Char) (x : String) : Prop :=
  ∀ d t, Ends d → rest .start (w ++ d :: t) = (rest .plain (d :: t)).put x.toList

theorem readAs_of_plain {x : String} (h : Plain x.toList) : ReadAs x.toList x :=
  fun _ _ hd => rest_of_plain h hd

def doubled (x : List Char) : List Char := x.flatMap fun c => if c == '"' then ['"', '"'] else [c]

theorem rest_doubled (x t : List Char) : rest .quoted (doubled x ++ t) = (rest .quoted t).put x := by
  induction x with
  | nil => rfl
  | cons c x ih =>
      by_cases hc : c = '"'
      · subst hc
        have hpair : rest .quoted (doubled ('"' :: x) ++ t) = (rest .quoted (doubled x ++ t)).put ['"'] := rfl
        rw [hpair, ih]
        rfl
      · have hone : doubled (c :: x) ++ t = c :: (doubled x ++ t) := by simp [doubled, hc]
        rw [hone, rest_quoted_cons hc, ih]
        rfl

theorem readAs_csvCell (x : String) : ReadAs (Report.csvCell x) x := by
  intro d t hd
  rw [Report.csvCell]
  split
  · have hquoted : '"' :: doubled x.toList ++ ['"'] ++ d :: t = '"' :: (doubled x.toList ++ '"' :: d :: t) := by simp
    have hclosed : rest .quoted ('"' :: d :: t) = rest .plain (d :: t) :=
      rest_cons (m := .closing) (by decide) hd.ne_quote
    calc rest .start ('"' :: doubled x.toList ++ ['"'] ++ d :: t)
        = rest .quoted (doubled x.toList ++ '"' :: d :: t) := by rw [hquoted]; rfl
      _ = (rest .plain (d :: t)).put x.toList := by rw [rest_doubled, hclosed]
  · rename_i hnone
    simp only [List.any_eq_true, Bool.or_eq_true, beq_iff_eq, not_exists, not_and, not_or] at hnone
    refine rest_of_plain ⟨fun hquote => ?_, fun c hc hend => ?_⟩ hd
    · exact (hnone '"' (List.mem_of_head? hquote)).1.1.2 rfl
    · obtain ⟨⟨⟨hcomma, _⟩, hreturn⟩, hnewline⟩ := hnone c hc
      rcases hend with h | h | h
      · exact hcomma h
      · exact hnewline h
      · exact hreturn h

/-! ## Rows -/

/-- A row on a line, each cell in the given form. -/
def line (form : String → List Char) (stop : List Char) (row : List String) : List Char :=
  [','].intercalate (row.map form) ++ stop

def Stops (stop : List Char) : Prop := stop = ['\n'] ∨ stop = ['\r', '\n']

variable {form : String → List Char} {stop : List Char} {cell : String} {row : List String}

theorem line_cons (h : row ≠ []) : line form stop (cell :: row) = form cell ++ ',' :: line form stop row := by
  have hne : row.map form ≠ [] := by simpa using h
  simp [line, List.intercalate_cons_of_ne_nil hne]

theorem line_singleton : line form stop [cell] = form cell ++ stop := by
  simp [line]

theorem rest_stop (h : Stops stop) : rest .plain (stop ++ t) = ⟨[], [], read t⟩ := by
  rcases h with rfl | rfl <;> rfl

theorem Stops.ends (h : Stops stop) : ∃ d stop', stop = d :: stop' ∧ Ends d := by
  rcases h with rfl | rfl
  · exact ⟨'\n', [], rfl, .inr (.inl rfl)⟩
  · exact ⟨'\r', ['\n'], rfl, .inr (.inr rfl)⟩

theorem rest_line (hstop : Stops stop) (h : ∀ x ∈ cell :: row, ReadAs (form x) x) :
    rest .start (line form stop (cell :: row) ++ t) = ⟨cell.toList, row, read t⟩ := by
  induction row generalizing cell with
  | nil =>
      obtain ⟨d, stop', rfl, hd⟩ := hstop.ends
      have hcell := h cell (by simp) d (stop' ++ t) hd
      rw [line_singleton, List.append_assoc, List.cons_append, hcell, ← List.cons_append, rest_stop hstop]
      simp [Rest.put]
  | cons x row ih =>
      have hcell := h cell (by simp) ',' (line form stop (x :: row) ++ t) (.inl rfl)
      have hrow : rest .start (line form stop (x :: row) ++ t) = ⟨x.toList, row, read t⟩ :=
        ih fun y hy => h y (List.mem_cons_of_mem _ hy)
      have hcomma : rest .plain (',' :: (line form stop (x :: row) ++ t)) = ⟨[], x :: row, read t⟩ := by
        rw [show rest .plain (',' :: (line form stop (x :: row) ++ t)) =
          (rest .start (line form stop (x :: row) ++ t)).next from rfl, hrow]
        simp [Rest.next]
      rw [line_cons (by simp), List.append_assoc, List.cons_append, hcell, hcomma]
      simp [Rest.put]

/-- A row of shown cells that reads back has plain cells. -/
theorem plain_of_line (hstop : Stops stop) {r : Rest}
    (hr : rest .start (line String.toList stop (cell :: row) ++ t) = r)
    (hcell : String.ofList r.cell = cell) (hrow : r.cells = row) : ∀ x ∈ cell :: row, Plain x.toList := by
  induction row generalizing cell r with
  | nil =>
      obtain ⟨d, stop', rfl, hd⟩ := hstop.ends
      rw [line_singleton, List.append_assoc, List.cons_append] at hr
      have hplain := plain_of_cell hd (by rw [hr, ← hcell, String.toList_ofList])
      simpa using hplain
  | cons y row ih =>
      rw [line_cons (by simp), List.append_assoc, List.cons_append] at hr
      have hplain : Plain cell.toList := plain_of_cell (.inl rfl) (by rw [hr, ← hcell, String.toList_ofList])
      rw [rest_of_plain hplain (.inl rfl)] at hr
      subst hr
      obtain ⟨hcell', hrow'⟩ := List.cons.inj hrow
      exact List.forall_mem_cons.mpr ⟨hplain, ih rfl hcell' hrow'⟩

/-! ## Tables -/

/-- A line with several cells is no empty line. -/
theorem read_of_cells {s : List Char} (h : (rest .start s).cells ≠ []) :
    read s = (String.ofList (rest .start s).cell :: (rest .start s).cells) :: (rest .start s).rows := by
  cases s with
  | nil => exact absurd rfl h
  | cons c s =>
      rw [read, Rest.table, if_neg]
      intro hc
      obtain ⟨rows, hrest⟩ := rest_of_newline (t := s) hc
      rw [rest_cons (by decide) (Ends.ne_quote (.inr hc)), hrest] at h
      exact h rfl

variable {rows : List (List String)}

theorem read_lines (hstop : Stops stop) (hlen : ∀ row ∈ rows, 2 ≤ row.length)
    (h : ∀ row ∈ rows, ∀ x ∈ row, ReadAs (form x) x) : read (rows.flatMap (line form stop)) = rows := by
  induction rows with
  | nil => rfl
  | cons row rows ih =>
      have htable := ih (fun row hrow => hlen row (by simp [hrow])) fun row hrow => h row (by simp [hrow])
      match row, hlen row (by simp), h row (by simp) with
      | x :: y :: row, _, hread =>
          have hline := rest_line (t := rows.flatMap (line form stop)) hstop hread
          rw [List.flatMap_cons, read_of_cells (by simp [hline]), hline, htable]
          simp

theorem of_read_cons {s : List Char} (h : read s = (cell :: row) :: rows) :
    String.ofList (rest .start s).cell = cell ∧ (rest .start s).cells = row ∧ (rest .start s).rows = rows := by
  cases s with
  | nil => cases h
  | cons c s =>
      rw [read, Rest.table] at h
      split at h
      · cases h
      · obtain ⟨hrow, hrows⟩ := List.cons.inj h
        obtain ⟨hcell, hcells⟩ := List.cons.inj hrow
        exact ⟨hcell, hcells, hrows⟩

theorem plain_of_read (hstop : Stops stop) (hne : ∀ row ∈ rows, row ≠ [])
    (h : read (rows.flatMap (line String.toList stop)) = rows) : ∀ row ∈ rows, ∀ x ∈ row, Plain x.toList := by
  induction rows with
  | nil => simp
  | cons row rows ih =>
      obtain ⟨cell, row, rfl⟩ := List.exists_cons_of_ne_nil (hne row (by simp))
      rw [List.flatMap_cons] at h
      obtain ⟨hcell, hcells, hrows⟩ := of_read_cons h
      have hplain := plain_of_line hstop rfl hcell hcells
      rw [rest_line hstop fun x hx => readAs_of_plain (hplain x hx)] at hrows
      have hrest := ih (fun row hrow => hne row (by simp [hrow])) hrows
      exact List.forall_mem_cons.mpr ⟨hplain, hrest⟩

theorem read_lines_iff (hstop : Stops stop) (hlen : ∀ row ∈ rows, 2 ≤ row.length) :
    read (rows.flatMap (line String.toList stop)) = rows ↔ ∀ row ∈ rows, ∀ x ∈ row, Plain x.toList := by
  constructor
  · refine plain_of_read hstop fun row hrow => ?_
    rintro rfl
    exact absurd (hlen [] hrow) (by decide)
  · intro h
    exact read_lines hstop hlen fun row hrow x hx => readAs_of_plain (h row hrow x hx)

end EsqlAudit.Csv

namespace EsqlAudit.Report
open Text Csv

/-! ## Reports -/

theorem csvLine_eq (row : List String) : csvLine row = line csvCell ['\r', '\n'] row := by
  rw [csvLine, line, joinWith_eq_intercalate]

theorem length_csvRow (r : Report) {row : List String} (h : row ∈ r.csvRows) : row.length = 13 := by
  rcases List.mem_cons.mp h with rfl | h
  · rfl
  · obtain ⟨e, -, rfl⟩ := List.mem_map.mp h
    rfl

theorem read_csv (r : Report) : read r.csv = r.csvRows := by
  have hlines : r.csv = r.csvRows.flatMap (line csvCell ['\r', '\n']) :=
    List.flatMap_congr fun row _ => csvLine_eq row
  rw [hlines]
  exact read_lines (.inr rfl) (fun row hrow => by rw [r.length_csvRow hrow]; decide) fun _ _ x _ => readAs_csvCell x

end EsqlAudit.Report

namespace EsqlAudit.Command
open Console Csv

theorem readLines_rows (rows : List (List String)) :
    readLines (rows.map (",".intercalate ·)) = read (rows.flatMap (line String.toList ['\n'])) := by
  rw [readLines, List.flatMap_map]
  refine congrArg read (List.flatMap_congr fun row _ => ?_)
  rw [String.toList_intercalate, line]
  rfl

/-- Both forms of a report as comma-separated values. The saved one reads back as the rows of the report. The
strings that are given to the console, each of them taken as a line, do so just when every cell is plain. -/
theorem csv_outputs_read (w : World) (s : Settings) (r : Report) :
    ∃ (lines : List String) (text : List Char),
      giveOut w { s with format := .csv, output := none } r = .showing w (lines.map .line) ∧
      (∀ output, giveOut w { s with format := .csv, output := some output } r =
        if output.isEmpty then .showing w (lines.map .line)
        else save w output "CSV" output (String.ofList text)) ∧
      read text = r.csvRows ∧
      (readLines lines = r.csvRows ↔ ∀ row ∈ r.csvRows, ∀ cell ∈ row, Plain cell.toList) := by
  have hlines : csvLines r = (r.csvRows.map (",".intercalate ·)).map .line := List.map_map.symm
  refine ⟨r.csvRows.map (",".intercalate ·), r.csv, ?_, fun output => ?_, r.read_csv, ?_⟩
  · rw [← hlines]
    rfl
  · rw [← hlines]
    cases hempty : output.isEmpty with
    | true =>
        have hnone : (some output).filter (!·.isEmpty) = none := by simp [Option.filter, hempty]
        simp only [giveOut, hnone]
        rfl
    | false =>
        have hsome : (some output).filter (!·.isEmpty) = some output := by simp [Option.filter, hempty]
        simp only [giveOut, hsome]
        rfl
  · rw [readLines_rows]
    exact read_lines_iff (.inl rfl) fun row hrow => by rw [r.length_csvRow hrow]; decide

/-- The report on a file whose path holds a comma. -/
def commaReport : Report :=
  ⟨[⟨"a,b.pc", 1, 1, [⟨"f", 1, 1, 1, 1, 0, 0, 0, "int", none⟩], [], false, "", none, [], none, none⟩], none⟩

/-- Of the strings that are given to the console for this report, the path is read as two cells. -/
theorem csv_shown_comma : ∃ lines : List String, csvLines commaReport = lines.map .line ∧
    lines[1]? = some "a,b.pc,f,1,1,1,1,0,0,0,int,,," ∧
    (readLines lines)[1]? =
      some ["a", "b.pc", "f", "1", "1", "1", "1", "0", "0", "0", "int", "", "", ""] ∧
    commaReport.csvRows[1]? = some ["a,b.pc", "f", "1", "1", "1", "1", "0", "0", "0", "int", "", "", ""] ∧
    readLines lines ≠ commaReport.csvRows := by
  have hread : (readLines (commaReport.csvRows.map (",".intercalate ·)))[1]? =
      some ["a", "b.pc", "f", "1", "1", "1", "1", "0", "0", "0", "int", "", "", ""] := by decide +kernel
  have hrow : commaReport.csvRows[1]? =
      some ["a,b.pc", "f", "1", "1", "1", "1", "0", "0", "0", "int", "", "", ""] := by decide +kernel
  refine ⟨commaReport.csvRows.map (",".intercalate ·), List.map_map.symm, by decide +kernel, hread, hrow, ?_⟩
  intro hsame
  rw [hsame, hrow] at hread
  exact absurd hread (by decide)

end EsqlAudit.Command
