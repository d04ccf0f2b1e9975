import Mathlib.Data.List.Perm.Basic
import Mathlib.Data.Option.Basic
import Scribe.Schema.Catalog
import Scribe.Proofs.Schema.Ordinals

/-!
# Tables read from a catalog

What `fetchTable` makes of the rows that a server holds, and of which rows.  The answer depends on
the rows of the table alone, and not on the order in which they are sent: they make up a table
exactly when the comment is in one row, every column is in a row that is complete, and no two
columns share an ordinal, none of which asks for an order; and the table has its columns in an
order of its own.

Each of the stages is turned into such a condition on rows first.  Checking a row and making a
column of it come to one relation between rows and columns (`ColumnRow.Describes`), reading all
rows to that relation row by row (`fetchColumns_eq_ok_iff`), and reading the table to the relation
and a permutation (`fetchTable_eq_ok_iff`).
-/

namespace Scribe.Schema

/-! ## Steps that may fail -/

theorem bind_eq_ok_iff {ε α β : Type} {x : Except ε α} {f : α → Except ε β} {b : β} :
    (x >>= f) = .ok b ↔ ∃ a, x = .ok a ∧ f a = .ok b := by
  cases x with
  | error e => simp [bind, Except.bind]
  | ok a => simp [bind, Except.bind]

/-- A list of results is had exactly when each of them is. -/
theorem mapM_eq_ok_iff {ε α β : Type} {f : α → Except ε β} {xs : List α} {ys : List β} :
    xs.mapM f = .ok ys ↔ List.Forall₂ (fun x y => f x = .ok y) xs ys := by
  induction xs generalizing ys with
  | nil => simp [pure, Except.pure, eq_comm]
  | cons x xs ih =>
    rw [List.mapM_cons, bind_eq_ok_iff, List.forall₂_cons_left_iff]
    constructor
    · rintro ⟨y, hy, hrest⟩
      obtain ⟨ys', hys', heq⟩ := bind_eq_ok_iff.1 hrest
      exact ⟨y, ys', hy, ih.1 hys', (Except.ok.inj heq).symm⟩
    · rintro ⟨y, ys', hy, hys', rfl⟩
      exact ⟨y, hy, bind_eq_ok_iff.2 ⟨ys', ih.2 hys', rfl⟩⟩

/-! ## What a row describes -/

/-- The spellings of a yes, which differ in the case of their letters. -/
def yesSpellings : List String := ["YES", "YEs", "YeS", "Yes", "yES", "yEs", "yeS", "yes"]

/-- The column that a row describes: each value is carried over, and a column is nullable if the
row says yes. -/
structure ColumnRow.Describes (r : ColumnRow) (c : Column) : Prop where
  ordinal : r.ordinal = some c.ordinal
  ordinal_le : c.ordinal ≤ 4294967295
  name : r.name = some c.name
  columnType : r.columnType = some c.columnType
  dataType : r.dataType = some c.dataType
  key : r.key = c.key
  nullable : ∃ answer, r.isNullable = some answer ∧ (c.nullable = true ↔ answer ∈ yesSpellings)
  extra : r.extra = c.extra
  comment : r.comment = c.comment
  default : r.default = c.default

/-- Whether a row has all values that it must have, and an ordinal of 32 bits that is not zero. -/
structure ColumnRow.IsComplete (r : ColumnRow) : Prop where
  ordinal : ∃ n, r.ordinal = some n ∧ 1 ≤ n ∧ n ≤ 4294967295
  name : r.name ≠ none
  columnType : r.columnType ≠ none
  dataType : r.dataType ≠ none
  isNullable : r.isNullable ≠ none

/-! ## The case of letters -/

theorem toNat_toLower (c : Char) :
    c.toLower.toNat = if 65 ≤ c.toNat ∧ c.toNat ≤ 90 then c.toNat + 32 else c.toNat := by
  delta Char.toLower
  split
  · rename_i h
    have h1 : 65 ≤ c.toNat := h.1
    have h2 : c.toNat ≤ 90 := h.2
    rw [if_pos ⟨h1, h2⟩]
    change (c.val + 32).toNat = _
    rw [UInt32.toNat_add]
    change (c.toNat + 32) % 4294967296 = _
    omega
  · rename_i h
    rw [if_neg]
    exact h

theorem toLower_eq_iff {c upper lower : Char} (hupper : 65 ≤ upper.toNat ∧ upper.toNat ≤ 90)
    (h : lower.toNat = upper.toNat + 32) : c.toLower = lower ↔ c = upper ∨ c = lower := by
  rw [← Char.toNat_inj, ← Char.toNat_inj, ← Char.toNat_inj, toNat_toLower]
  split <;> omega

theorem sameIgnoringCase_yes_iff (s : String) :
    Column.sameIgnoringCase s "YES" ↔ s ∈ yesSpellings := by
  have hyes : "YES".toList.map Char.toLower = ['y', 'e', 's'] := by decide
  rw [Column.sameIgnoringCase, decide_eq_true_eq, hyes]
  constructor
  · intro h
    obtain ⟨a, rest, hlist, ha, h⟩ := List.map_eq_cons_iff.1 h
    obtain ⟨b, rest, rfl, hb, h⟩ := List.map_eq_cons_iff.1 h
    obtain ⟨c, rest, rfl, hc, h⟩ := List.map_eq_cons_iff.1 h
    obtain rfl := List.map_eq_nil_iff.1 h
    have ha : a = 'Y' ∨ a = 'y' := (toLower_eq_iff (by decide) rfl).1 ha
    have hb : b = 'E' ∨ b = 'e' := (toLower_eq_iff (by decide) rfl).1 hb
    have hc : c = 'S' ∨ c = 's' := (toLower_eq_iff (by decide) rfl).1 hc
    rw [← String.ofList_toList (s := s), hlist]
    rcases ha with rfl | rfl <;> rcases hb with rfl | rfl <;> rcases hc with rfl | rfl <;> decide
  · intro h
    have hall : yesSpellings.all fun s => s.toList.map Char.toLower = ['y', 'e', 's'] := by decide
    simpa using List.all_eq_true.1 hall s h

/-! ## Rows and columns -/

theorem required_eq_ok_iff {α : Type} {column : String} {value : Option α} {v : α} :
    required column value = .ok v ↔ value = some v := by
  cases value <;> simp [required]

theorem ColumnRow.check_eq_ok_iff {r : ColumnRow} {k : CheckedRow} :
    r.check = .ok k ↔ r.ordinal = some k.ordinal ∧ r.name = some k.name ∧
      r.columnType = some k.columnType ∧ r.dataType = some k.dataType ∧
      r.isNullable = some k.isNullable ∧ k.row = r := by
  simp only [ColumnRow.check, bind_eq_ok_iff, required_eq_ok_iff, pure, Except.pure,
    Except.ok.injEq]
  constructor
  · rintro ⟨ordinal, h1, name, h2, columnType, h3, dataType, h4, isNullable, h5, rfl⟩
    exact ⟨h1, h2, h3, h4, h5, rfl⟩
  · rintro ⟨h1, h2, h3, h4, h5, rfl⟩
    exact ⟨_, h1, _, h2, _, h3, _, h4, _, h5, rfl⟩

theorem CheckedRow.toColumn_eq_ok_iff {k : CheckedRow} {c : Column} :
    k.toColumn = .ok c ↔ k.ordinal ≤ 4294967295 ∧
      c = ⟨k.ordinal, k.name, k.columnType, k.dataType, k.row.key,
        Column.sameIgnoringCase k.isNullable "YES", k.row.extra, k.row.comment,
        k.row.default⟩ := by
  have hmax : maxOrdinal < k.ordinal ↔ ¬ k.ordinal ≤ 4294967295 := by
    rw [maxOrdinal, Nat.not_le]
  rw [CheckedRow.toColumn]
  split
  · rename_i h
    constructor
    · intro herror
      simp at herror
    · rintro ⟨hle, -⟩
      exact absurd hle (hmax.1 h)
  · rename_i h
    rw [hmax, not_not] at h
    rw [Except.ok.injEq, eq_comm]
    exact ⟨fun hc => ⟨h, hc⟩, fun hc => hc.2⟩

/-- A row passes both stages, and gives the column that it describes. -/
theorem ColumnRow.describes_iff {r : ColumnRow} {c : Column} :
    r.Describes c ↔ ∃ k, r.check = .ok k ∧ k.toColumn = .ok c := by
  constructor
  · rintro ⟨h1, hle, h2, h3, h4, hkey, ⟨answer, h5, hanswer⟩, hextra, hcomment, hdefault⟩
    refine ⟨⟨c.ordinal, c.name, c.columnType, c.dataType, answer, r⟩,
      check_eq_ok_iff.2 ⟨h1, h2, h3, h4, h5, rfl⟩, CheckedRow.toColumn_eq_ok_iff.2 ⟨hle, ?_⟩⟩
    have hnullable : Column.sameIgnoringCase answer "YES" = c.nullable := by
      rw [Bool.eq_iff_iff, sameIgnoringCase_yes_iff, hanswer]
    dsimp only
    rw [hnullable, hkey, hextra, hcomment, hdefault]
  · rintro ⟨k, hk, hc⟩
    obtain ⟨h1, h2, h3, h4, h5, rfl⟩ := check_eq_ok_iff.1 hk
    obtain ⟨hle, rfl⟩ := CheckedRow.toColumn_eq_ok_iff.1 hc
    exact ⟨h1, hle, h2, h3, h4, rfl, ⟨_, h5, sameIgnoringCase_yes_iff _⟩, rfl, rfl, rfl⟩

/-- A row describes a column with a positive ordinal exactly when it is complete. -/
theorem ColumnRow.isComplete_iff {r : ColumnRow} :
    r.IsComplete ↔ ∃ c, r.Describes c ∧ 0 < c.ordinal := by
  constructor
  · rintro ⟨⟨n, hn, hpos, hle⟩, hname, hcolumnType, hdataType, hnullable⟩
    obtain ⟨name, hname⟩ := Option.ne_none_iff_exists'.1 hname
    obtain ⟨columnType, hcolumnType⟩ := Option.ne_none_iff_exists'.1 hcolumnType
    obtain ⟨dataType, hdataType⟩ := Option.ne_none_iff_exists'.1 hdataType
    obtain ⟨answer, hanswer⟩ := Option.ne_none_iff_exists'.1 hnullable
    refine ⟨⟨n, name, columnType, dataType, r.key, decide (answer ∈ yesSpellings), r.extra,
      r.comment, r.default⟩, ⟨hn, hle, hname, hcolumnType, hdataType, rfl,
        ⟨answer, hanswer, decide_eq_true_iff⟩, rfl, rfl, rfl⟩, hpos⟩
  · rintro ⟨c, h, hpos⟩
    obtain ⟨answer, hanswer, -⟩ := h.nullable
    exact ⟨⟨c.ordinal, h.ordinal, hpos, h.ordinal_le⟩, by simp [h.name], by simp [h.columnType],
      by simp [h.dataType], by simp [hanswer]⟩

/-! ## Queries -/

namespace Server

/-- The rows with the comment of a table. -/
def commentRows (s : Server) (schema table : String) : List CommentRow :=
  s.comments.filter fun r => r.schema = schema && r.table = table

/-- The rows with the columns of a table. -/
def columnRows (s : Server) (schema table : String) : List ColumnRow :=
  s.columns.filter fun r => r.schema = schema && r.table = table

variable {s : Server} {schema table comment : String} {columns : List Column} {t : Table}

theorem fetchComment_eq_ok_iff :
    s.fetchComment schema table = .ok comment ↔ s.commentsFault = none ∧
      ∃ r, s.commentRows schema table = [r] ∧ comment = r.comment.getD "" := by
  rw [fetchComment]
  split
  · rename_i fault hfault
    simp [hfault]
  · rename_i hfault
    rw [← commentRows]
    split
    · rename_i hrows
      simp [hrows]
    · rename_i r hrows
      simp [hfault, hrows, eq_comm]
    · rename_i hnil hone
      have hrows : ∀ r, s.commentRows schema table ≠ [r] := hone
      simp [hrows]

theorem mapM_toColumn_iff {rows : List ColumnRow} :
    (∃ checked, rows.mapM ColumnRow.check = .ok checked ∧
      checked.mapM CheckedRow.toColumn = .ok columns) ↔
      List.Forall₂ ColumnRow.Describes rows columns := by
  simp only [mapM_eq_ok_iff]
  induction rows generalizing columns with
  | nil => simp
  | cons r rows ih =>
    simp only [List.forall₂_cons_left_iff]
    constructor
    · rintro ⟨_, ⟨k, checked, hk, hchecked, rfl⟩, h⟩
      obtain ⟨c, columns, hc, hcolumns, rfl⟩ := List.forall₂_cons_left_iff.1 h
      exact ⟨c, columns, ColumnRow.describes_iff.2 ⟨k, hk, hc⟩, ih.1 ⟨checked, hchecked, hcolumns⟩,
        rfl⟩
    · rintro ⟨c, columns, hc, hcolumns, rfl⟩
      obtain ⟨k, hk, hc⟩ := ColumnRow.describes_iff.1 hc
      obtain ⟨checked, hchecked, hcolumns⟩ := ih.2 hcolumns
      exact ⟨k :: checked, ⟨k, checked, hk, hchecked, rfl⟩, .cons hc hcolumns⟩

theorem fetchColumns_eq_ok_iff :
    s.fetchColumns schema table = .ok columns ↔ s.columnsFault = none ∧
      List.Forall₂ ColumnRow.Describes (s.columnRows schema table) columns := by
  rw [← mapM_toColumn_iff, fetchColumns]
  split
  · rename_i fault hfault
    simp [hfault]
  · rename_i hfault
    rw [← columnRows]
    dsimp only
    cases hcheck : (s.columnRows schema table).mapM ColumnRow.check with
    | error e => simp
    | ok checked => simp [hfault]

theorem fetchTable_eq_ok_iff :
    s.fetchTable schema table = .ok t ↔ s.commentsFault = none ∧ s.columnsFault = none ∧
      t.schema = schema ∧ t.name = table ∧
      (∃ r, s.commentRows schema table = [r] ∧ t.comment = r.comment.getD "") ∧
      ∃ columns, List.Forall₂ ColumnRow.Describes (s.columnRows schema table) columns ∧
        t.columns.Perm columns := by
  constructor
  · intro h
    rw [fetchTable] at h
    split at h
    · simp at h
    rename_i comment hcomment
    split at h
    · simp at h
    rename_i columns hcolumns
    split at h
    · simp at h
    rename_i t' ht
    obtain rfl := Except.ok.inj h
    obtain ⟨hfault, r, hr, rfl⟩ := fetchComment_eq_ok_iff.1 hcomment
    obtain ⟨hfault', hrows⟩ := fetchColumns_eq_ok_iff.1 hcolumns
    obtain ⟨hschema, hname, hcomment, hperm⟩ := Table.ofColumns_eq_ok_iff.1 ht
    exact ⟨hfault, hfault', hschema, hname, ⟨r, hr, hcomment⟩, columns, hrows, hperm⟩
  · rintro ⟨hfault, hfault', hschema, hname, ⟨r, hr, hcomment⟩, columns, hrows, hperm⟩
    have hfirst := fetchComment_eq_ok_iff.2 ⟨hfault, r, hr, rfl⟩
    have hsecond := fetchColumns_eq_ok_iff.2 ⟨hfault', hrows⟩
    have htable := Table.ofColumns_eq_ok_iff.2 ⟨hschema, hname, hcomment, hperm⟩
    rw [fetchTable, hfirst]
    dsimp only
    rw [hsecond]
    dsimp only
    rw [htable]

/-! ## The table -/

theorem map_ordinal_of_describes {rows : List ColumnRow}
    (h : List.Forall₂ ColumnRow.Describes rows columns) :
    rows.map ColumnRow.ordinal = (columns.map Column.ordinal).map some := by
  induction h with
  | nil => rfl
  | cons h _ ih => rw [List.map_cons, List.map_cons, List.map_cons, ih, h.ordinal]

theorem forall_isComplete_iff {rows : List ColumnRow} :
    (∀ r ∈ rows, r.IsComplete) ↔ ∃ columns, List.Forall₂ ColumnRow.Describes rows columns ∧
      ∀ c ∈ columns, 0 < c.ordinal := by
  induction rows with
  | nil => simp
  | cons r rows ih =>
    rw [List.forall_mem_cons, ih, ColumnRow.isComplete_iff]
    constructor
    · rintro ⟨⟨c, hc, hpos⟩, columns, hcolumns, hrest⟩
      exact ⟨c :: columns, .cons hc hcolumns, List.forall_mem_cons.2 ⟨hpos, hrest⟩⟩
    · rintro ⟨_, h, hpos⟩
      obtain ⟨c, columns, hc, hcolumns, rfl⟩ := List.forall₂_cons_left_iff.1 h
      obtain ⟨hfirst, hrest⟩ := List.forall_mem_cons.1 hpos
      exact ⟨⟨c, hc, hfirst⟩, columns, hcolumns, hrest⟩

/-- Rows describe columns that make up a table exactly when all rows are complete and no two share
an ordinal. -/
theorem exists_columns_iff {rows : List ColumnRow} :
    (∃ columns, List.Forall₂ ColumnRow.Describes rows columns ∧
      ∃ t, Table.ofColumns schema table comment columns = .ok t) ↔
      (∀ r ∈ rows, r.IsComplete) ∧ (rows.map ColumnRow.ordinal).Nodup := by
  rw [forall_isComplete_iff]
  constructor
  · rintro ⟨columns, h, ht⟩
    obtain ⟨hpos, hnodup⟩ := Table.exists_ofColumns_iff.1 ht
    rw [map_ordinal_of_describes h]
    exact ⟨⟨columns, h, hpos⟩, hnodup.map (Option.some_injective Nat)⟩
  · rintro ⟨⟨columns, h, hpos⟩, hnodup⟩
    rw [map_ordinal_of_describes h] at hnodup
    exact ⟨columns, h, Table.exists_ofColumns_iff.2 ⟨hpos, hnodup.of_map some⟩⟩

/-- A table is fetched exactly when its comment is in one row and its columns are in complete rows
with different ordinals. -/
theorem exists_fetchTable_iff :
    (∃ t, s.fetchTable schema table = .ok t) ↔
      s.commentsFault = none ∧ s.columnsFault = none ∧
      (∃ r, s.commentRows schema table = [r]) ∧
      (∀ r ∈ s.columnRows schema table, r.IsComplete) ∧
      ((s.columnRows schema table).map ColumnRow.ordinal).Nodup := by
  constructor
  · rintro ⟨t, ht⟩
    obtain ⟨hfault, hfault', hschema, hname, ⟨r, hr, hcomment⟩, columns, hrows, hperm⟩ :=
      fetchTable_eq_ok_iff.1 ht
    have htable := Table.ofColumns_eq_ok_iff.2 ⟨hschema, hname, hcomment, hperm⟩
    exact ⟨hfault, hfault', ⟨r, hr⟩, exists_columns_iff.1 ⟨columns, hrows, t, htable⟩⟩
  · rintro ⟨hfault, hfault', ⟨r, hr⟩, hcomplete⟩
    have hexists : ∃ columns, List.Forall₂ ColumnRow.Describes (s.columnRows schema table) columns ∧
        ∃ t, Table.ofColumns schema table (r.comment.getD "") columns = .ok t :=
      exists_columns_iff.2 hcomplete
    obtain ⟨columns, hrows, t, ht⟩ := hexists
    obtain ⟨hschema, hname, hcomment, hperm⟩ := Table.ofColumns_eq_ok_iff.1 ht
    exact ⟨t, fetchTable_eq_ok_iff.2
      ⟨hfault, hfault', hschema, hname, ⟨r, hr, hcomment⟩, columns, hrows, hperm⟩⟩

/-- Two servers that hold the same rows of a table, each in an order of its own, give the same
table. -/
theorem fetchTable_of_perm {s' : Server} (hfault : s'.commentsFault = s.commentsFault)
    (hfault' : s'.columnsFault = s.columnsFault)
    (hcomments : (s'.commentRows schema table).Perm (s.commentRows schema table))
    (hcolumns : (s'.columnRows schema table).Perm (s.columnRows schema table))
    (h : s.fetchTable schema table = .ok t) : s'.fetchTable schema table = .ok t := by
  obtain ⟨hnone, hnone', hschema, hname, ⟨r, hr, hcomment⟩, columns, hrows, hperm⟩ :=
    fetchTable_eq_ok_iff.1 h
  rw [hr, List.perm_singleton] at hcomments
  obtain ⟨columns', hrows', hperm'⟩ := List.perm_comp_forall₂ hcolumns hrows
  exact fetchTable_eq_ok_iff.2 ⟨hfault.trans hnone, hfault'.trans hnone', hschema, hname,
    ⟨r, hcomments, hcomment⟩, columns', hrows', hperm.trans hperm'.symm⟩

/-- **A table is fetched by its rows, in whatever order they come.** -/
theorem fetchTable_rows (s : Server) (schema table : String) :
    ((∃ t, s.fetchTable schema table = .ok t) ↔
      s.commentsFault = none ∧ s.columnsFault = none ∧
      (∃ r, s.commentRows schema table = [r]) ∧
      (∀ r ∈ s.columnRows schema table, r.IsComplete) ∧
      ((s.columnRows schema table).map ColumnRow.ordinal).Nodup) ∧
    (∀ t, s.fetchTable schema table = .ok t →
      t.schema = schema ∧ t.name = table ∧
      (∃ r, s.commentRows schema table = [r] ∧ t.comment = r.comment.getD "") ∧
      (∃ columns, List.Forall₂ ColumnRow.Describes (s.columnRows schema table) columns ∧
        t.columns.Perm columns) ∧
      t.columns.Pairwise fun a b => a.ordinal < b.ordinal) ∧
    ∀ comments columns,
      (Server.commentRows { s with comments } schema table).Perm (s.commentRows schema table) →
      (Server.columnRows { s with columns } schema table).Perm (s.columnRows schema table) →
      ∀ t, Server.fetchTable { s with comments, columns } schema table = .ok t ↔
        s.fetchTable schema table = .ok t := by
  refine ⟨exists_fetchTable_iff, ?_, ?_⟩
  · intro t ht
    obtain ⟨-, -, hschema, hname, hcomment, hcolumns⟩ := fetchTable_eq_ok_iff.1 ht
    exact ⟨hschema, hname, hcomment, hcolumns, t.ascending⟩
  · intro comments columns hcomments hcolumns t
    constructor
    · exact fetchTable_of_perm rfl rfl hcomments.symm hcolumns.symm
    · exact fetchTable_of_perm rfl rfl hcomments hcolumns

end Server

end Scribe.Schema
