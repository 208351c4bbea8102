import Mathlib.Tactic.SplitIfs
import EsqlAudit.Proofs.Outcome
import EsqlAudit.Report.Html

/-!
# Texts in pages

The texts of a report cannot change the markup of its page. The quotes and angle brackets of a page all come from its
markup, and the markup depends only on the shape of the report: how many files, functions, notes and issues there are,
how urgent they are, and which of them come with a recommendation.
-/

namespace EsqlAudit.Report

/-! ## Marks -/

/-- The characters by which tags and attributes begin and end. -/
def isMark (c : Char) : Bool :=
  c == '<' || c == '>' || c == '"' || c == '\''

def marks (s : String) : List Char :=
  s.toList.filter isMark

/-- The marks of a piece: a value has none, whatever it is. -/
def Piece.marks : Piece → List Char
  | .markup s => Report.marks s
  | .value _ => []

def marksIn (pieces : List Piece) : List Char :=
  pieces.flatMap Piece.marks

theorem filter_escapeChar (c : Char) : (Piece.escapeChar c).filter isMark = [] := by
  rw [Piece.escapeChar]
  split_ifs with hamp hlt hgt hquote hquotes
  · decide
  · decide
  · decide
  · decide
  · decide
  · simp only [beq_iff_eq] at hlt hgt hquote hquotes
    simp [isMark, hlt, hgt, hquote, hquotes]

theorem marks_escape (s : String) : marks (Piece.escape s) = [] := by
  simp only [marks, Piece.escape, String.toList_ofList, List.filter_flatMap, filter_escapeChar]
  induction s.toList with
  | nil => rfl
  | cons c rest ih => exact ih

/-- All marks of a page come from its markup. -/
theorem marks_render (page : List Piece) : marks (render page) = marksIn page := by
  rw [marks, render, String.toList_join, List.flatMap_map, List.filter_flatMap, marksIn]
  congr 1
  funext piece
  cases piece with
  | markup s => rfl
  | value s => exact marks_escape s

theorem marksIn_markup (s : String) (rest : List Piece) : marksIn (.markup s :: rest) = marks s ++ marksIn rest := rfl

theorem marksIn_value (s : String) (rest : List Piece) : marksIn (.value s :: rest) = marksIn rest := rfl

theorem marksIn_ofNat (n : Nat) (rest : List Piece) : marksIn (.ofNat n :: rest) = marksIn rest := rfl

theorem marksIn_ofInt (i : Int) (rest : List Piece) : marksIn (.ofInt i :: rest) = marksIn rest := rfl

theorem marksIn_append (ps qs : List Piece) : marksIn (ps ++ qs) = marksIn ps ++ marksIn qs :=
  List.flatMap_append

theorem marksIn_row (indent : Nat) (ps : List Piece) : marksIn (row indent ps) = marksIn ps := by
  simp [row, marksIn_markup, marks, isMark]

theorem marksIn_showIf (c : Bool) (ps : List Piece) : marksIn (showIf c ps) = if c then marksIn ps else [] := by
  cases c <;> rfl

theorem marksIn_flatMap {α : Type} (item : α → List Piece) (xs : List α) :
    marksIn (xs.flatMap item) = xs.flatMap fun x => marksIn (item x) :=
  List.flatMap_assoc

theorem flatMap_alike {α β : Type} {R : α → β → Prop} {item : α → List Piece} {item' : β → List Piece} {xs : List α}
    {ys : List β} (hitem : ∀ x y, R x y → marksIn (item x) = marksIn (item' y)) (h : List.Forall₂ R xs ys) :
    (xs.flatMap fun x => marksIn (item x)) = ys.flatMap fun y => marksIn (item' y) := by
  induction h with
  | nil => rfl
  | cons hxy hrest ih => rw [List.flatMap_cons, List.flatMap_cons, hitem _ _ hxy, ih]

theorem isEmpty_of_forall₂ {α β : Type} {R : α → β → Prop} {xs : List α} {ys : List β} (h : List.Forall₂ R xs ys) :
    xs.isEmpty = ys.isEmpty := by
  cases h <;> rfl

namespace Html

/-! ## Items -/

theorem marks_styleClass (g : Grade) : marks g.styleClass = [] := by
  cases g <;> decide

theorem marksIn_functionRow (f g : FunctionMetrics) : marksIn (functionRow f) = marksIn (functionRow g) := by
  simp only [functionRow, marksIn_append, marksIn_row, marksIn_markup, marksIn_value, marksIn_ofInt, marks_styleClass]

theorem marksIn_inFile (i j : Record) : marksIn (inFile i) = marksIn (inFile j) := rfl

theorem marksIn_inReport (p q : String) (i j : Record) : marksIn (inReport p i) = marksIn (inReport q j) := rfl

variable {place place' : List Piece}

theorem marksIn_tagged (t u : Record) (h : marksIn place = marksIn place') :
    marksIn (tagged t place) = marksIn (tagged u place') := by
  simp only [tagged, location, marksIn_append, marksIn_markup, marksIn_value, h]

theorem marksIn_cursorItem (indent : Nat) (i j : Record) (h : marksIn place = marksIn place') :
    marksIn (cursorItem indent place i) = marksIn (cursorItem indent place' j) := by
  simp only [cursorItem, location, message, marksIn_append, marksIn_row, marksIn_markup, marksIn_value, h]

/-- A recommendation is given. -/
def advises (i : Record) : Bool :=
  !(i.text "recommendation" "").isEmpty

theorem marksIn_memoryItem (indent : Nat) (severity : String) {i j : Record} (h : marksIn place = marksIn place')
    (hadvice : advises i = advises j) :
    marksIn (memoryItem indent severity place i) = marksIn (memoryItem indent severity place' j) := by
  simp only [advises] at hadvice
  simp only [memoryItem, location, message, marksIn_append, marksIn_row, marksIn_markup, marksIn_value, marksIn_showIf,
    h, hadvice]

/-! ## Lists of items -/

/-- Two tables whose groups have items that go together. -/
def GroupsAlike {α β : Type} (R : α → β → Prop) (groups : Table (List α)) (groups' : Table (List β)) : Prop :=
  ∀ name, List.Forall₂ R ((groups.lookup name).getD []) ((groups'.lookup name).getD [])

theorem marksIn_functionTable {R : FunctionMetrics → FunctionMetrics → Prop} {fs gs : List FunctionMetrics}
    (h : List.Forall₂ R fs gs) : marksIn (functionTable fs) = marksIn (functionTable gs) := by
  have hrows := flatMap_alike (fun f g _ => marksIn_functionRow f g) h
  simp only [functionTable, marksIn_append, marksIn_flatMap, hrows]

theorem marksIn_fileTodos {R : Record → Record → Prop} {groups groups' : Table (List Record)}
    (h : GroupsAlike R groups groups') : marksIn (fileTodos groups) = marksIn (fileTodos groups') := by
  have hempty (p : String) := isEmpty_of_forall₂ (h p)
  have hitem (p : String) (t u : Record) (_ : R t u) : marksIn (fileTodo p t) = marksIn (fileTodo p u) := by
    simp only [fileTodo, message, marksIn_append, marksIn_row, marksIn_value, marksIn_tagged t u (marksIn_inFile t u)]
  have hitems (p : String) := flatMap_alike (hitem p) (h p)
  simp only [fileTodos, marksIn_append, marksIn_row, marksIn_showIf, marksIn_flatMap, hempty, hitems]

theorem marksIn_fileCursors {R : Record → Record → Prop} {xs ys : List Record} (h : List.Forall₂ R xs ys) :
    marksIn (fileCursors xs) = marksIn (fileCursors ys) := by
  have hitem (i j : Record) (_ : R i j) : marksIn (cursorItem 12 (inFile i) i) = marksIn (cursorItem 12 (inFile j) j) :=
    marksIn_cursorItem 12 i j (marksIn_inFile i j)
  have hitems := flatMap_alike hitem (List.forall₂_take 20 h)
  simp only [fileCursors, marksIn_append, marksIn_flatMap, hitems, h.length_eq]

theorem marksIn_memoryGroup {α β : Type} {R : α → β → Prop} {groups : Table (List α)} {groups' : Table (List β)}
    {item : String → α → List Piece} {item' : String → β → List Piece} (indent : Nat) (heading : String) (shown : Nat)
    (hitem : ∀ severity x y, R x y → marksIn (item severity x) = marksIn (item' severity y))
    (h : GroupsAlike R groups groups') (severity : String) :
    marksIn (memoryGroup indent heading shown item groups severity) =
      marksIn (memoryGroup indent heading shown item' groups' severity) := by
  have hitems := flatMap_alike (hitem severity) (List.forall₂_take shown (h severity))
  simp only [memoryGroup, isEmpty_of_forall₂ (h severity), (h severity).length_eq, marksIn_append, marksIn_row,
    marksIn_showIf, marksIn_flatMap, hitems]

/-- Two issues of the same severity, both with a recommendation or both without. -/
def SameUrgency (i j : Record) : Prop :=
  (severityOf i, advises i) = (severityOf j, advises j)

theorem SameUrgency.severity {i j : Record} (h : SameUrgency i j) : severityOf i = severityOf j :=
  congrArg Prod.fst h

theorem SameUrgency.advises {i j : Record} (h : SameUrgency i j) : Html.advises i = Html.advises j :=
  congrArg Prod.snd h

theorem marksIn_fileMemory {groups groups' : Table (List Record)} (h : GroupsAlike SameUrgency groups groups') :
    marksIn (fileMemory groups) = marksIn (fileMemory groups') := by
  have hitem (severity : String) (i j : Record) (hij : SameUrgency i j) :
      marksIn (memoryItem 16 severity (inFile i) i) = marksIn (memoryItem 16 severity (inFile j) j) :=
    marksIn_memoryItem 16 severity (marksIn_inFile i j) hij.advises
  have hgroup := marksIn_memoryGroup 12 "h4" 15 hitem h
  simp only [fileMemory, marksIn_append, marksIn_flatMap, hgroup]

/-! ## Groups -/

section
variable {α β : Type} {R : α → β → Prop} {groupOf : α → String} {groupOf' : β → String} {xs : List α} {ys : List β}

theorem find?_alike (names : List String) (hR : ∀ x y, R x y → groupOf x = groupOf' y) (h : List.Forall₂ R xs ys) :
    (xs.find? fun x => !names.contains (groupOf x)).map groupOf =
      (ys.find? fun y => !names.contains (groupOf' y)).map groupOf' := by
  induction h with
  | nil => rfl
  | cons hxy hrest ih =>
      simp only [List.find?_cons, hR _ _ hxy]
      split
      · exact congrArg some (hR _ _ hxy)
      · exact ih

theorem groupsAlike_map (names : List String) (hR : ∀ x y, R x y → groupOf x = groupOf' y) (h : List.Forall₂ R xs ys) :
    GroupsAlike R (names.map fun n => (n, xs.filter fun x => groupOf x == n))
      (names.map fun n => (n, ys.filter fun y => groupOf' y == n)) := by
  intro name
  induction names with
  | nil => exact .nil
  | cons n rest ih =>
      simp only [List.map_cons, List.lookup_cons]
      cases name == n with
      | false => exact ih
      | true => exact List.rel_filter (fun x y hxy => by simp only [hR x y hxy]) h

/-- Items that go together and belong to the same groups are grouped alike. -/
theorem grouped_alike (names : List String) (hR : ∀ x y, R x y → groupOf x = groupOf' y) (h : List.Forall₂ R xs ys) :
    Both (GroupsAlike R) (grouped names groupOf xs) (grouped names groupOf' ys) := by
  -- Either both lists have an item of an unknown group, and the first ones name the same group, or neither has.
  have hfind := find?_alike names hR h
  rw [grouped, grouped]
  cases hx : xs.find? fun x => !names.contains (groupOf x) with
  | some x =>
      cases hy : ys.find? fun y => !names.contains (groupOf' y) with
      | some y =>
          rw [hx, hy] at hfind
          have hname : groupOf x = groupOf' y := Option.some.inj hfind
          dsimp only
          rw [hname]
          exact .error _
      | none =>
          rw [hx, hy] at hfind
          cases hfind
  | none =>
      cases hy : ys.find? fun y => !names.contains (groupOf' y) with
      | some y =>
          rw [hx, hy] at hfind
          cases hfind
      | none => exact .ok (groupsAlike_map names hR h)

end

/-! ## Shapes -/

/-- What the markup of a file depends on. -/
structure FileShape where
  functions : Nat
  priorities : List String
  cursorIssues : Nat
  memoryIssues : List (String × Bool)
deriving DecidableEq

def fileShape (f : FileMetrics) : FileShape where
  functions := f.functions.length
  priorities := f.todos.map priorityOf
  cursorIssues := (issuesOf f.cursors).length
  memoryIssues := (issuesOf f.memory).map fun i => (severityOf i, advises i)

/-- What the markup of a page depends on. -/
def shape (r : Report) : List FileShape :=
  r.files.map fileShape

variable {f g : FileMetrics}

theorem functions_alike (h : fileShape f = fileShape g) : List.Forall₂ (fun _ _ => True) f.functions g.functions :=
  List.forall₂_iff_zip.mpr ⟨congrArg FileShape.functions h, fun _ => trivial⟩

theorem cursors_alike (h : fileShape f = fileShape g) :
    List.Forall₂ (fun _ _ => True) (issuesOf f.cursors) (issuesOf g.cursors) :=
  List.forall₂_iff_zip.mpr ⟨congrArg FileShape.cursorIssues h, fun _ => trivial⟩

theorem todos_alike (h : fileShape f = fileShape g) :
    List.Forall₂ (fun t u => priorityOf t = priorityOf u) f.todos g.todos :=
  forall₂_of_map_eq (congrArg FileShape.priorities h)

theorem memory_alike (h : fileShape f = fileShape g) :
    List.Forall₂ SameUrgency (issuesOf f.memory) (issuesOf g.memory) :=
  forall₂_of_map_eq (congrArg FileShape.memoryIssues h)

theorem countP_alike {xs ys : List Record} (severity : String) (h : List.Forall₂ SameUrgency xs ys) :
    xs.countP (fun i => severityOf i == severity) = ys.countP fun i => severityOf i == severity := by
  induction h with
  | nil => rfl
  | cons hij hrest ih => rw [List.countP_cons, List.countP_cons, ih, hij.severity]

/-- Files of the same shape have sections with the same marks. -/
theorem fileSection_alike (h : fileShape f = fileShape g) :
    Both (fun ps qs => marksIn ps = marksIn qs) (fileSection f) (fileSection g) := by
  have htodos := todos_alike h
  have hmemory := memory_alike h
  have hfunctions := functions_alike h
  have hcursors := cursors_alike h
  refine (grouped_alike priorities (fun _ _ hp => hp) htodos).bind fun todoGroups todoGroups' htodoGroups => ?_
  refine (grouped_alike severities (fun _ _ hij => hij.severity) hmemory).bind
    fun memoryGroups memoryGroups' hmemoryGroups => ?_
  refine .ok ?_
  simp only [FileMetrics.todoCount, datum, isEmpty_of_forall₂ hfunctions, isEmpty_of_forall₂ htodos, htodos.length_eq,
    isEmpty_of_forall₂ hcursors, hcursors.length_eq, isEmpty_of_forall₂ hmemory, countP_alike "warning" hmemory,
    marksIn_append, marksIn_row, marksIn_markup, marksIn_value, marksIn_ofInt, marksIn_ofNat, marksIn_showIf,
    marks_styleClass, marksIn_functionTable hfunctions, marksIn_fileTodos htodoGroups, marksIn_fileCursors hcursors,
    marksIn_fileMemory hmemoryGroups]

variable {r s : Report}

theorem withPaths_alike {R : Record → Record → Prop} {items : FileMetrics → List Record}
    (hitems : ∀ f g, fileShape f = fileShape g → List.Forall₂ R (items f) (items g)) (h : shape r = shape s) :
    List.Forall₂ (fun t u => R t.2 u.2) (r.withPaths items) (s.withPaths items) := by
  refine List.rel_flatMap (forall₂_of_map_eq h) fun f g hfg => ?_
  rw [List.forall₂_map_left_iff, List.forall₂_map_right_iff]
  exact hitems f g hfg

theorem files_alike (h : shape r = shape s) : Both (fun ps qs => marksIn ps = marksIn qs) (files r) (files s) := by
  have hfiles := forall₂_of_map_eq h
  refine (Both.mapM (fun _ _ hfg => fileSection_alike hfg) hfiles).bind fun sections sections' hsections => .ok ?_
  have hitem (ps qs : List Piece) (hps : marksIn ps = marksIn qs) :
      marksIn (row 0 [] ++ ps ++ row 0 []) = marksIn (row 0 [] ++ qs ++ row 0 []) := by
    simp only [marksIn_append, hps]
  have hitems := flatMap_alike hitem hsections
  simp only [isEmpty_of_forall₂ hfiles, marksIn_append, marksIn_showIf, marksIn_flatMap] at hitems ⊢
  rw [hitems]

theorem allTodos_alike (h : shape r = shape s) : Both (fun ps qs => marksIn ps = marksIn qs) (todos r) (todos s) := by
  have htodos := withPaths_alike (fun _ _ hfg => todos_alike hfg) h
  have hitem (t u : String × Record) (_ : priorityOf t.2 = priorityOf u.2) :
      marksIn (todoItem t) = marksIn (todoItem u) := by
    simp only [todoItem, message, marksIn_append, marksIn_row, marksIn_value,
      marksIn_tagged t.2 u.2 (marksIn_inReport t.1 u.1 t.2 u.2)]
  refine (grouped_alike priorities (fun _ _ hp => hp) htodos).bind fun groups groups' hgroups => .ok ?_
  have hempty (p : String) := isEmpty_of_forall₂ (hgroups p)
  have hlength (p : String) := (hgroups p).length_eq
  have hitems (p : String) := flatMap_alike hitem (hgroups p)
  simp only [Report.todos, isEmpty_of_forall₂ htodos, marksIn_append, marksIn_row, marksIn_showIf, marksIn_flatMap,
    hempty, hlength, hitems]

theorem marksIn_cursorIssues (h : shape r = shape s) : marksIn (cursorIssues r) = marksIn (cursorIssues s) := by
  have hissues := withPaths_alike (fun _ _ hfg => cursors_alike hfg) h
  have hitem (i j : String × Record) (_ : True) :
      marksIn (cursorItem 4 (inReport i.1 i.2) i.2) = marksIn (cursorItem 4 (inReport j.1 j.2) j.2) :=
    marksIn_cursorItem 4 i.2 j.2 (marksIn_inReport i.1 j.1 i.2 j.2)
  have hitems := flatMap_alike hitem (List.forall₂_take 50 hissues)
  simp only [cursorIssues, Report.cursorIssues, isEmpty_of_forall₂ hissues, hissues.length_eq, marksIn_append,
    marksIn_showIf, marksIn_flatMap, hitems]

theorem allMemory_alike (h : shape r = shape s) :
    Both (fun ps qs => marksIn ps = marksIn qs) (memoryIssues r) (memoryIssues s) := by
  have hissues := withPaths_alike (fun _ _ hfg => memory_alike hfg) h
  have hitem (severity : String) (i j : String × Record) (hij : SameUrgency i.2 j.2) :
      marksIn (memoryItem 8 severity (inReport i.1 i.2) i.2) = marksIn (memoryItem 8 severity (inReport j.1 j.2) j.2) :=
    marksIn_memoryItem 8 severity (marksIn_inReport i.1 j.1 i.2 j.2) hij.advises
  refine (grouped_alike severities (fun _ _ hij => hij.severity) hissues).bind fun groups groups' hgroups => .ok ?_
  have hgroup := marksIn_memoryGroup 4 "h3" 30 hitem hgroups
  simp only [Report.memoryIssues, isEmpty_of_forall₂ hissues, marksIn_append, marksIn_showIf, marksIn_flatMap, hgroup]

theorem marksIn_summary (r s : Report) : marksIn (summary r) = marksIn (summary s) := by
  simp only [summary, card, marksIn_append, marksIn_row, marksIn_markup, marksIn_value, marksIn_ofNat, marksIn_ofInt]

theorem page_alike (assets : Assets) (now : Moment) (h : shape r = shape s) :
    Both (fun ps qs => marksIn ps = marksIn qs) (page assets now r) (page assets now s) := by
  refine (allTodos_alike h).bind fun todos todos' htodos => (allMemory_alike h).bind fun memory memory' hmemory =>
    (files_alike h).bind fun files files' hfiles => .ok ?_
  simp only [marksIn_append, marksIn_row, marksIn_summary r s, marksIn_cursorIssues h, htodos, hmemory, hfiles]

/-! ## Pages that can be made -/

/-- Every note has one of the known priorities, and every issue with memory one of the known severities. -/
def Foreseen (f : FileMetrics) : Prop :=
  (∀ t ∈ f.todos, priorityOf t ∈ priorities) ∧ ∀ i ∈ issuesOf f.memory, severityOf i ∈ severities

theorem grouped_ok_iff {α : Type} {names : List String} {groupOf : α → String} {xs : List α} :
    (∃ groups, grouped names groupOf xs = .ok groups) ↔ ∀ x ∈ xs, groupOf x ∈ names := by
  rw [grouped]
  split
  · rename_i x hx
    have hunknown : groupOf x ∉ names := by simpa using List.find?_some hx
    constructor
    · rintro ⟨groups, hgroups⟩
      cases hgroups
    · intro h
      exact absurd (h x (List.mem_of_find?_eq_some hx)) hunknown
  · rename_i hnone
    have hknown : ∀ x ∈ xs, groupOf x ∈ names := by simpa using hnone
    exact ⟨fun _ => hknown, fun _ => ⟨_, rfl⟩⟩

theorem todos_ok_iff : (∃ ps, todos r = .ok ps) ↔ ∀ f ∈ r.files, ∀ t ∈ f.todos, priorityOf t ∈ priorities := by
  have hgroups : (∃ ps, todos r = .ok ps) ↔
      ∃ groups, grouped priorities (fun t => priorityOf t.2) r.todos = .ok groups := by
    rw [todos, bind_ok_iff]
    exact exists_congr fun groups => and_iff_left ⟨_, rfl⟩
  rw [hgroups, grouped_ok_iff]
  simp only [Report.todos, withPaths, List.forall_mem_flatMap, List.forall_mem_map]

theorem memoryIssues_ok_iff :
    (∃ ps, memoryIssues r = .ok ps) ↔ ∀ f ∈ r.files, ∀ i ∈ issuesOf f.memory, severityOf i ∈ severities := by
  have hgroups : (∃ ps, memoryIssues r = .ok ps) ↔
      ∃ groups, grouped severities (fun i => severityOf i.2) r.memoryIssues = .ok groups := by
    rw [memoryIssues, bind_ok_iff]
    exact exists_congr fun groups => and_iff_left ⟨_, rfl⟩
  rw [hgroups, grouped_ok_iff]
  simp only [Report.memoryIssues, withPaths, List.forall_mem_flatMap, List.forall_mem_map]

theorem fileSection_ok (hf : Foreseen f) : ∃ ps, fileSection f = .ok ps := by
  obtain ⟨todoGroups, htodos⟩ := grouped_ok_iff.mpr hf.1
  obtain ⟨memoryGroups, hmemory⟩ := grouped_ok_iff.mpr hf.2
  exact bind_ok_iff.mpr ⟨todoGroups, htodos, bind_ok_iff.mpr ⟨memoryGroups, hmemory, _, rfl⟩⟩

/-- A page can be made of a report if and only if all its priorities and severities are known. -/
theorem page_ok_iff (assets : Assets) (now : Moment) :
    (∃ ps, page assets now r = .ok ps) ↔ ∀ f ∈ r.files, Foreseen f := by
  have hall : (∀ f ∈ r.files, Foreseen f) ↔ (∃ ps, todos r = .ok ps) ∧ ∃ ps, memoryIssues r = .ok ps := by
    rw [todos_ok_iff, memoryIssues_ok_iff]
    exact forall₂_and
  constructor
  · intro h
    obtain ⟨todos, htodos, hrest⟩ := bind_ok_iff.mp h
    obtain ⟨memory, hmemory, -⟩ := bind_ok_iff.mp hrest
    exact hall.mpr ⟨⟨todos, htodos⟩, memory, hmemory⟩
  · intro h
    obtain ⟨⟨todos, htodos⟩, memory, hmemory⟩ := hall.mp h
    obtain ⟨sections, hsections⟩ := mapM_ok fun f hf => fileSection_ok (h f hf)
    have hfiles : ∃ ps, files r = .ok ps := bind_ok_iff.mpr ⟨sections, hsections, _, rfl⟩
    obtain ⟨files, hfiles⟩ := hfiles
    exact bind_ok_iff.mpr ⟨todos, htodos, bind_ok_iff.mpr ⟨memory, hmemory, bind_ok_iff.mpr ⟨files, hfiles, _, rfl⟩⟩⟩

/-- Pages of two reports of the same shape have the same quotes and angle brackets in the same order, whatever the texts
and the numbers in the reports are. Both are made, unless the priority of a note or the severity of an issue with memory
is unknown. -/
theorem marks_of_shape (assets : Assets) (now : Moment) (h : shape r = shape s) :
    (render assets now r).map marks = (render assets now s).map marks ∧
      ((∃ text, render assets now r = .ok text) ↔ ∀ f ∈ r.files, Foreseen f) := by
  have hmarks (r : Report) : (render assets now r).map marks = (page assets now r).map marksIn := by
    rw [render]
    cases page assets now r with
    | error e => rfl
    | ok pieces => exact congrArg Except.ok (marks_render pieces)
  rw [hmarks, hmarks, ← page_ok_iff assets now]
  exact ⟨(page_alike assets now h).map_eq, map_ok_iff⟩

/-- A file with one item of each kind, whose texts are all the given one. -/
def stained (text : String) : FileMetrics :=
  { FileMetrics.blank text with
    functions := [⟨text, 1, 2, 2, 1, 0, 0, 0, "int", none⟩]
    todos := [[("tag", .str text), ("message", .str text), ("priority", .str "high")]]
    cursors := some [("issues", .arr [.obj [("severity", .str text), ("cursor_name", .str text),
      ("message", .str text)]])]
    memory := some [("issues", .arr [.obj [("severity", .str "error"), ("message", .str text),
      ("recommendation", .str text)]])] }

theorem marks_of_shape_stained :
    let r : Report := ⟨[stained "main"], none⟩
    let s : Report := ⟨[stained "</code><script src='x.js' onload=\"f()\">"], none⟩
    let now : Moment := ⟨2024, 1, 2, 3, 4, 5⟩
    (render ⟨"", ""⟩ now r).map marks = (render ⟨"", ""⟩ now s).map marks ∧
      ∃ text, render ⟨"", ""⟩ now r = .ok text := by
  intro r s now
  have hshape : shape r = shape s := by decide +kernel
  obtain ⟨hmarks, hok⟩ := marks_of_shape ⟨"", ""⟩ now hshape
  refine ⟨hmarks, hok.mpr ?_⟩
  rw [List.forall_mem_singleton]
  exact ⟨by decide +kernel, by decide +kernel⟩

end Html

end EsqlAudit.Report
