import Mathlib.Data.List.Forall2
import Scribe.Proofs.Document.Lines
import Scribe.Proofs.Text.Escaped
import Scribe.Proofs.Text.Trimming
import Scribe.Render

/-!
# Reading the grid of a page back

A row of the grid is a bar, and for each cell the cell framed by blanks and another bar.  What
stands between two bars never ends in a backslash, because a blank does; so every bar that a cell
brings with it is behind a backslash, and every border is not.  A reader that cuts a row at the
borders (`parts '|'`) therefore finds one part for each cell (`parts_gridLine`), and the value in it
once the blanks around it and the backslashes before its bars are gone (`readRow_line`).

The rows are the last lines of the page.  The lines above them are of any number, since the names of
a schema and of a table may contain line feeds; a cell may not.
-/

namespace Scribe.Document

open Scribe.Text Scribe.Schema

/-! ## The reader -/

/-- A text without the spaces at both its ends. -/
def trimSpaces (s : List Char) : List Char :=
  ((s.dropWhile (· = ' ')).reverse.dropWhile (· = ' ')).reverse

/-- What a row of the grid says: the parts between its first and its last border, each without the
backslashes before its bars and without the spaces around it. -/
def readRow (line : List Char) : List (List Char) :=
  (parts '|' line).tail.dropLast.map fun part => trimSpaces (dropEscapes '|' part)

/-- A line with nine borders, one at each end. -/
def IsGridLine (line : List Char) : Prop :=
  ∃ inner : List (List Char), parts '|' line = [] :: (inner ++ [[]]) ∧ inner.length = 8

/-- What a column has to say in its row, in the order of the titles. -/
def cellValues (c : Column) : List (List Char) :=
  [(toString c.ordinal).toList, flatten c.name.toList, flatten c.columnType.toList,
    flatten (c.key.getD "").toList, (if c.nullable then "YES" else "NO").toList,
    flatten (c.extra.getD "").toList, flatten (c.default.getD "").toList,
    flatten (c.comment.getD "").toList]

/-! ## Cells -/

theorem toList_cell (value : Option String) :
    (cell value).toList = escape '|' (flatten (value.getD "").toList) :=
  String.toList_ofList

theorem isDigit_of_mem_toString {n : Nat} {d : Char} (h : d ∈ (toString n).toList) :
    d.isDigit := by
  have hdigits : (toString n).toList = Nat.toDigits 10 n := String.toList_ofList
  rw [hdigits] at h
  exact Nat.isDigit_of_mem_toDigits (by decide) (by decide) h

/-- The cells of a column are what it has to say, escaped. -/
theorem toList_cells (c : Column) :
    (GridRow.ofColumn c).cells.map String.toList = (cellValues c).map (escape '|') := by
  have hordinal : escape '|' (toString c.ordinal).toList = (toString c.ordinal).toList := by
    apply escape_eq_self
    intro h
    exact absurd (isDigit_of_mem_toString h) (by decide)
  have hnullable : escape '|' (if c.nullable then "YES" else "NO").toList =
      (if c.nullable then "YES" else "NO").toList := by
    split <;> rfl
  simp only [GridRow.cells, GridRow.ofColumn, cellValues, List.map_cons, List.map_nil, toList_cell,
    Option.getD_some, hordinal, hnullable]

theorem newline_not_mem_cellValues (c : Column) : ∀ value ∈ cellValues c, '\n' ∉ value := by
  have hflat : ∀ s, '\n' ∉ flatten s := fun s => (newline_not_mem_flatten s).1
  have hordinal : '\n' ∉ (toString c.ordinal).toList := by
    intro h
    exact absurd (isDigit_of_mem_toString h) (by decide)
  have hnullable : '\n' ∉ (if c.nullable then "YES" else "NO").toList := by
    split <;> decide
  simp only [cellValues, List.forall_mem_cons, List.not_mem_nil, false_imp_iff, implies_true,
    and_true]
  exact ⟨hordinal, hflat _, hflat _, hflat _, hnullable, hflat _, hflat _, hflat _⟩

/-- A value in its cell, with the blanks before and after it. -/
def framed (width : Nat) (value : List Char) : List Char :=
  List.replicate (1 + (width - (escape '|' value).length)) ' ' ++ value ++ [' ']

theorem exists_of_mem_framed {widths : List Nat} {values : List (List Char)} {s : List Char}
    (h : s ∈ List.zipWith framed widths values) :
    ∃ width, ∃ value ∈ values, s = framed width value := by
  rw [← List.map_uncurry_zip_eq_zipWith] at h
  obtain ⟨⟨width, value⟩, hmem, rfl⟩ := List.mem_map.1 h
  exact ⟨width, value, (List.of_mem_zip hmem).2, rfl⟩

theorem escape_framed (width : Nat) (value : List Char) :
    escape '|' (framed width value) =
      ' ' :: (List.replicate (width - (escape '|' value).length) ' ' ++ escape '|' value) ++
        [' '] := by
  have hblank : ∀ n, escape '|' (List.replicate n ' ') = List.replicate n ' ' := by
    intro n
    exact escape_eq_self (by simp [List.mem_replicate])
  have hend : escape '|' [' '] = [' '] := rfl
  rw [framed, escape_append, escape_append, hblank, hend, Nat.add_comm, List.replicate_succ]
  simp

theorem dropWhile_space_replicate (n : Nat) (s : List Char) :
    (List.replicate n ' ' ++ s).dropWhile (· = ' ') = s.dropWhile (· = ' ') :=
  List.dropWhile_append_of_pos (by simp [List.mem_replicate])

theorem trimSpaces_framed (width : Nat) (value : List Char) :
    trimSpaces (framed width value) = trimSpaces value := by
  rw [framed, trimSpaces, List.append_assoc, dropWhile_space_replicate, trimSpaces]
  by_cases hall : value.dropWhile (· = ' ') = []
  · simp [List.dropWhile_append, hall]
  · simp [List.dropWhile_append, hall]

/-! ## Rows -/

theorem toList_foldr_append (ss : List String) :
    (ss.foldr (· ++ ·) "").toList = ss.flatMap String.toList := by
  induction ss with
  | nil => rfl
  | cons s ss ih => rw [List.foldr_cons, String.toList_append, ih, List.flatMap_cons]

/-- A row is a bar, and each value framed and followed by a bar. -/
theorem toList_gridLine {cells : List String} {values : List (List Char)}
    (h : cells.map String.toList = values.map (escape '|')) :
    (gridLine cells).toList =
      '|' :: (List.zipWith framed gridWidths values).flatMap fun s => escape '|' s ++ ['|'] := by
  have hframed : ∀ (widths : List Nat) (cells : List String) (values : List (List Char)),
      cells.map String.toList = values.map (escape '|') →
      ((widths.zip cells).map fun p => " " ++ padLeft p.1 p.2 ++ " |").flatMap String.toList =
        (List.zipWith framed widths values).flatMap fun s => escape '|' s ++ ['|'] := by
    intro widths
    induction widths with
    | nil =>
      intro _ _ _
      rfl
    | cons w widths ih =>
      intro cells values h
      cases cells with
      | nil =>
        obtain rfl : values = [] := by simpa using h.symm
        rfl
      | cons s cells =>
        have hne : values ≠ [] := by
          rintro rfl
          simp at h
        obtain ⟨value, values, rfl⟩ := List.exists_cons_of_ne_nil hne
        obtain ⟨hs, hrest⟩ := List.cons.inj h
        have hlen : s.length = (escape '|' value).length := by
          rw [← hs]
          exact String.length_toList.symm
        rw [List.zip_cons_cons, List.map_cons, List.flatMap_cons, List.zipWith_cons_cons,
          List.flatMap_cons, ih cells values hrest, escape_framed, ← hlen, ← hs]
        simp [padLeft]
  have hline : gridLine cells = "|" ++ ((gridWidths.zip cells).map fun p =>
      " " ++ padLeft p.1 p.2 ++ " |").foldr (· ++ ·) "" := rfl
  rw [hline, String.toList_append, toList_foldr_append, hframed _ _ _ h]
  rfl

/-- **The borders of a row** are exactly the bars around its cells. -/
theorem parts_gridLine {cells : List String} {values : List (List Char)}
    (h : cells.map String.toList = values.map (escape '|')) :
    parts '|' (gridLine cells).toList =
      [] :: ((List.zipWith framed gridWidths values).map (escape '|') ++ [[]]) := by
  have hends : ∀ s ∈ List.zipWith framed gridWidths values, s.getLast? ≠ some '\\' := by
    intro s hs
    obtain ⟨width, value, -, rfl⟩ := exists_of_mem_framed hs
    simp [framed]
  have hsep : ('|' : Char) ≠ '\\' := by decide
  have hempty : ([] : List Char).getLast? ≠ some '\\' := by simp
  rw [toList_gridLine h, ← parts_ended hsep hends]
  exact parts_escape_append hsep hempty _

theorem isGridLine_gridLine {cells : List String} {values : List (List Char)}
    (h : cells.map String.toList = values.map (escape '|')) (hlen : values.length = 8) :
    IsGridLine (gridLine cells).toList := by
  refine ⟨_, parts_gridLine h, ?_⟩
  rw [List.length_map, List.length_zipWith, hlen]
  rfl

theorem map_trimSpaces_zipWith {widths : List Nat} {values : List (List Char)}
    (h : widths.length = values.length) :
    (List.zipWith framed widths values).map trimSpaces = values.map trimSpaces := by
  induction widths generalizing values with
  | nil => rw [List.eq_nil_of_length_eq_zero h.symm, List.zipWith_nil_left]
  | cons w widths ih =>
    cases values with
    | nil => simp at h
    | cons value values =>
      rw [List.zipWith_cons_cons, List.map_cons, List.map_cons, trimSpaces_framed,
        ih (Nat.succ.inj h)]

/-- **A row says what its column has to say**, up to spaces at the ends of a value. -/
theorem readRow_line (c : Column) :
    readRow (GridRow.ofColumn c).line.toList = (cellValues c).map trimSpaces := by
  have hlen : gridWidths.length = (cellValues c).length := rfl
  rw [readRow, GridRow.line, parts_gridLine (toList_cells c), List.tail_cons,
    List.dropLast_concat, List.map_map, ← map_trimSpaces_zipWith hlen]
  refine List.map_congr_left fun s _ => ?_
  rw [Function.comp_apply, dropEscapes_escape (by decide)]

/-! ## Grids -/

theorem newline_not_mem_framed {width : Nat} {value : List Char} (h : '\n' ∉ value) :
    '\n' ∉ escape '|' (framed width value) := by
  have hescape : ∀ s, '\n' ∉ s → '\n' ∉ escape '|' s := by
    intro s hs
    simp only [escape, List.mem_flatMap, not_exists, not_and]
    intro d hd
    have hne : '\n' ≠ d := fun hd' => hs (hd' ▸ hd)
    split <;> simp [hne]
  apply hescape
  simp [framed, h, List.mem_replicate]

/-- A row is on one line, and ends in a bar. -/
theorem gridLine_ends {cells : List String} {values : List (List Char)}
    (h : cells.map String.toList = values.map (escape '|')) (hlen : values.length = 8)
    (hvalues : ∀ value ∈ values, '\n' ∉ value) :
    '\n' ∉ (gridLine cells).toList ∧ (gridLine cells).toList.getLast? = some '|' := by
  constructor
  · rw [toList_gridLine h, List.mem_cons, not_or]
    refine ⟨by decide, ?_⟩
    simp only [List.mem_flatMap, not_exists, not_and]
    intro s hs
    obtain ⟨width, value, hvalue, rfl⟩ := exists_of_mem_framed hs
    simpa using newline_not_mem_framed (hvalues value hvalue)
  · have hne : List.zipWith framed gridWidths values ≠ [] := by
      apply List.ne_nil_of_length_pos
      rw [List.length_zipWith, hlen]
      decide
    rw [toList_gridLine h]
    obtain ⟨front, last, hsplit⟩ := List.eq_nil_or_concat _ |>.resolve_left hne
    rw [hsplit, List.concat_eq_append, List.flatMap_append]
    simp [List.getLast?_cons]

theorem toList_gridTitles : gridTitles.map String.toList =
    (gridTitles.map String.toList).map (escape '|') := by
  decide

/-- The lines of a page's grid. -/
def gridLines (columns : List Column) : List (List Char) :=
  (gridLine gridTitles).toList :: gridAlign.toList ::
    columns.map fun c => (GridRow.ofColumn c).line.toList

theorem isGridLine_gridLines (columns : List Column) :
    ∀ line ∈ gridLines columns, IsGridLine line := by
  intro line h
  rw [gridLines, List.mem_cons, List.mem_cons, List.mem_map] at h
  obtain h | h | ⟨c, -, rfl⟩ := h
  · rw [h]
    exact isGridLine_gridLine toList_gridTitles rfl
  · rw [h]
    exact ⟨(parts '|' gridAlign.toList).tail.dropLast, by decide +kernel, by decide +kernel⟩
  · exact isGridLine_gridLine (toList_cells c) rfl

theorem gridLines_ends (columns : List Column) :
    ∀ line ∈ gridLines columns, '\n' ∉ line ∧ line.getLast? = some '|' := by
  intro line h
  rw [gridLines, List.mem_cons, List.mem_cons, List.mem_map] at h
  obtain h | h | ⟨c, -, rfl⟩ := h
  · rw [h]
    exact gridLine_ends toList_gridTitles rfl (by decide)
  · rw [h]
    decide +kernel
  · exact gridLine_ends (toList_cells c) rfl (newline_not_mem_cellValues c)

/-! ## Pages -/

/-- The lines above the grid. -/
def MarkdownPage.top (p : MarkdownPage) : List String :=
  ["#### " ++ p.schema ++ "." ++ p.table] ++ (if p.comment = "" then [] else [p.comment]) ++ [""]

theorem toList_text (t : Table) :
    (MarkdownPage.ofTable t).text.toList =
      (joinLines (MarkdownPage.ofTable t).top).toList ++
        '\n' :: ['\n'].intercalate (gridLines t.columns) := by
  have hlines : (MarkdownPage.ofTable t).lines.map String.toList =
      (MarkdownPage.ofTable t).top.map String.toList ++ gridLines t.columns := by
    simp [MarkdownPage.lines, MarkdownPage.top, gridLines, MarkdownPage.header, MarkdownPage.align,
      MarkdownPage.ofTable, Function.comp_def]
  have htop : (MarkdownPage.ofTable t).top.map String.toList ≠ [] := by
    simp [MarkdownPage.top]
  rw [MarkdownPage.text, toList_joinLines, hlines, toList_joinLines]
  exact intercalate_append_cons htop (by simp [gridLines])

/-- Lines that end in a bar make a text that does. -/
theorem getLast?_intercalate {ls : List (List Char)} (hne : ls ≠ [])
    (h : ∀ line ∈ ls, line.getLast? = some '|') :
    (['\n'].intercalate ls).getLast? = some '|' := by
  obtain ⟨front, last, hsplit⟩ := List.eq_nil_or_concat ls |>.resolve_left hne
  rw [List.concat_eq_append] at hsplit
  subst hsplit
  have hlast : last.getLast? = some '|' := h last (by simp)
  by_cases hfront : front = []
  · simpa [hfront] using hlast
  · rw [intercalate_append_cons hfront (by simp)]
    simp [List.getLast?_append, List.getLast?_cons, hlast]

theorem getLast?_text (t : Table) : (MarkdownPage.ofTable t).text.toList.getLast? = some '|' := by
  have hne : gridLines t.columns ≠ [] := by simp [gridLines]
  have hgrid := getLast?_intercalate hne fun line h => (gridLines_ends t.columns line h).2
  rw [toList_text]
  simp [List.getLast?_append, List.getLast?_cons, hgrid]

/-- The text of a page ends in its grid, so nothing is trimmed off it. -/
theorem render_page_eq {r : Renderer} {t : Table}
    (hr : ∀ l ∈ r.overrides, l.find? DocumentKind.page.templateFile = none) :
    r.render (.page (.ofTable t)) =
      .ok (String.ofList ((MarkdownPage.ofTable t).text.toList ++ ['\n'])) := by
  have htrim : trimEnd (MarkdownPage.ofTable t).text.toList =
      (MarkdownPage.ofTable t).text.toList := by
    apply trimEnd_eq_self
    rw [getLast?_text]
    simp
    decide
  have hdraft : r.draft (.page (.ofTable t)) = .ok (MarkdownPage.ofTable t).text := by
    have hnone : r.template? .page = none := Option.bind_eq_none_iff.2 hr
    have hkind : (AnyDocument.page (.ofTable t)).kind = .page := rfl
    rw [Renderer.draft, hkind, hnone]
    rfl
  rw [Renderer.render, hdraft]
  show Except.ok (String.ofList (trimEnd (MarkdownPage.ofTable t).text.toList) ++ "\n") = _
  rw [htrim]
  simp [String.ofList_append]

/-- **The grid of a page is never broken and loses nothing.**  The text of a table's page ends in
one line feed, and the last of its lines are the titles, the alignment and one row for each column
in the order of the ordinals.  Each of these lines has its nine borders and no other, and a row
says what its column has to say. -/
theorem render_page {schema name comment : String} {columns : List Column} {t : Table}
    {r : Renderer} (ht : Table.ofColumns schema name comment columns = .ok t)
    (hr : ∀ l ∈ r.overrides, l.find? DocumentKind.page.templateFile = none) :
    ∃ (body : List Char) (above rows : List (List Char)),
      r.render (.page (.ofTable t)) = .ok (String.ofList (body ++ ['\n'])) ∧
      body.getLast? ≠ some '\n' ∧
      body.splitOn '\n' = above ++ (gridLine gridTitles).toList :: gridAlign.toList :: rows ∧
      (∀ line ∈ (gridLine gridTitles).toList :: gridAlign.toList :: rows, IsGridLine line) ∧
      t.columns.Perm columns ∧ t.columns.Pairwise (fun a b => a.ordinal < b.ordinal) ∧
      List.Forall₂ (fun c line => readRow line = (cellValues c).map trimSpaces)
        t.columns rows := by
  obtain ⟨-, -, -, hperm⟩ := Table.eq_of_ofColumns_eq_ok ht
  have hsplit : (['\n'].intercalate (gridLines t.columns)).splitOn '\n' = gridLines t.columns :=
    List.splitOn_intercalate '\n' (fun line h => (gridLines_ends t.columns line h).1)
      (by simp [gridLines])
  refine ⟨(MarkdownPage.ofTable t).text.toList,
    (joinLines (MarkdownPage.ofTable t).top).toList.splitOn '\n',
    t.columns.map fun c => (GridRow.ofColumn c).line.toList, render_page_eq hr, ?_, ?_,
    isGridLine_gridLines t.columns, hperm, t.ascending, ?_⟩
  · rw [getLast?_text]
    decide
  · rw [toList_text, List.splitOn_append_cons_self, hsplit]
    rfl
  · rw [List.forall₂_map_right_iff, List.forall₂_same]
    exact fun c _ => readRow_line c

/-- A column with bars, backslashes and line feeds in its texts. -/
def barColumn : Column where
  ordinal := 1
  name := "a|b\\"
  columnType := "set('|')"
  dataType := "set"
  key := none
  nullable := false
  extra := none
  comment := some " one\n\\|two"
  default := some "\\"

/-- A table with that column, whose name is on two lines. -/
def barTable : Table where
  schema := "s"
  name := "t\n| x |"
  comment := ""
  columns := [barColumn]
  ascending := by decide
  positive := by decide

/-- The row says what the column has to say. -/
theorem render_page_bar : ∃ (body row : List Char) (above : List (List Char)),
    Renderer.default.render (.page (.ofTable barTable)) = .ok (String.ofList (body ++ ['\n'])) ∧
    body.splitOn '\n' = above ++ [(gridLine gridTitles).toList, gridAlign.toList, row] ∧
    IsGridLine row ∧
    readRow row = ["1".toList, "a|b\\".toList, "set('|')".toList, [], "NO".toList, [],
      "\\".toList, "one\\|two".toList] := by
  have hoverrides : ∀ l ∈ Renderer.default.overrides,
      l.find? DocumentKind.page.templateFile = none := by
    intro l hl
    cases hl
  obtain ⟨body, above, rows, hrender, -, hsplit, hlines, -, -, hrows⟩ :=
    render_page (Table.ofColumns_columns barTable) hoverrides
  have hcolumns : barTable.columns = [barColumn] := rfl
  rw [hcolumns] at hrows
  cases hrows with
  | @cons _ row _ rest hrow hrest =>
    cases hrest
    have hvalues : (cellValues barColumn).map trimSpaces = ["1".toList, "a|b\\".toList,
        "set('|')".toList, [], "NO".toList, [], "\\".toList, "one\\|two".toList] := by
      decide
    exact ⟨body, row, above, hrender, hsplit, hlines row (by simp), hrow.trans hvalues⟩

end Scribe.Document
