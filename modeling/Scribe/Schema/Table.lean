import Scribe.Schema.FieldType
import Scribe.Text.Identifier

/-!
# Columns and tables

A table is its columns in the order of their ordinals.  Ordinals count from one and no two columns
share one; rows that break this come from more than one table, so `Table.ofColumns` refuses them.
The type of tables carries both conditions, hence nothing that takes a table has to check them.
-/

namespace Scribe.Schema

open Scribe.Text

/-! ### Columns -/

/-- A column as the catalog describes it. -/
structure Column where
  /-- The place of the column in its table, counted from one. -/
  ordinal : Nat
  name : String
  /-- The declared type in full, such as `varchar(255)`. -/
  columnType : String
  /-- The base type, such as `varchar`. -/
  dataType : String
  key : Option String
  nullable : Bool
  extra : Option String
  comment : Option String
  default : Option String
  deriving Repr, DecidableEq

namespace Column

def isPrimaryKey (c : Column) : Bool := c.key = some "PRI"

/-- Whether two texts are the same up to the case of ASCII letters. -/
def sameIgnoringCase (a b : String) : Bool :=
  a.toList.map Char.toLower = b.toList.map Char.toLower

def isAutoIncrement (c : Column) : Bool := c.extra.any (sameIgnoringCase "auto_increment")

def fieldType (c : Column) : FieldType := .ofDataType c.dataType

/-- The name of the struct field for the column. -/
def fieldName (c : Column) : String := String.ofList (upperCamel c.name.toList)

/-- The comment, empty if there is none. -/
def commentText (c : Column) : String := c.comment.getD ""

end Column

/-! ### Tables -/

/-- A table, its columns in the order of their ordinals. -/
structure Table where
  schema : String
  name : String
  comment : String
  columns : List Column
  ascending : columns.Pairwise fun a b => a.ordinal < b.ordinal
  positive : ∀ c ∈ columns, 0 < c.ordinal
  deriving DecidableEq

/-- Why columns do not make up one table. -/
inductive TableError where
  | zeroOrdinal (column : String) (table : String)
  | sharedOrdinal (first : String) (second : String) (table : String) (ordinal : Nat)
  deriving Repr, DecidableEq

def TableError.message : TableError → String
  | .zeroOrdinal column table =>
    "column '" ++ column ++ "' of table '" ++ table ++ "' has ordinal position 0"
  | .sharedOrdinal first second table ordinal =>
    "columns '" ++ first ++ "' and '" ++ second ++ "' of table '" ++ table ++
      "' share ordinal position " ++ toString ordinal

/-- The first two neighbours that share an ordinal. -/
def sharing? : List Column → Option (Column × Column)
  | a :: b :: rest => if a.ordinal = b.ordinal then some (a, b) else sharing? (b :: rest)
  | _ => none

/-- Columns in the order of their ordinals; columns that share one keep their order. -/
def inOrder (columns : List Column) : List Column :=
  columns.mergeSort fun a b => a.ordinal ≤ b.ordinal

theorem inOrder_pairwise (columns : List Column) :
    (inOrder columns).Pairwise fun a b => a.ordinal ≤ b.ordinal := by
  have h := @List.pairwise_mergeSort Column (fun a b => decide (a.ordinal ≤ b.ordinal))
    (by simp only [decide_eq_true_eq]; omega)
    (by simp only [Bool.or_eq_true, decide_eq_true_eq]; omega) columns
  exact h.imp (by simp)

theorem inOrder_perm (columns : List Column) : (inOrder columns).Perm columns :=
  List.mergeSort_perm ..

theorem pairwise_lt_of_sharing?_eq_none {columns : List Column}
    (hle : columns.Pairwise fun a b => a.ordinal ≤ b.ordinal) (h : sharing? columns = none) :
    columns.Pairwise fun a b => a.ordinal < b.ordinal := by
  induction columns with
  | nil => exact .nil
  | cons a rest ih =>
    rw [List.pairwise_cons] at hle ⊢
    cases rest with
    | nil => simp
    | cons b rest =>
      unfold sharing? at h
      split at h
      · simp at h
      · rename_i hne
        have hb := ih hle.2 h
        refine ⟨fun c hc => ?_, hb⟩
        have hab : a.ordinal < b.ordinal :=
          Nat.lt_of_le_of_ne (hle.1 b List.mem_cons_self) hne
        rcases List.mem_cons.1 hc with rfl | hc
        · exact hab
        · exact Nat.lt_trans hab ((List.pairwise_cons.1 hb).1 c hc)

theorem sharing?_eq_none {columns : List Column}
    (h : columns.Pairwise fun a b => a.ordinal < b.ordinal) : sharing? columns = none := by
  induction columns with
  | nil => rfl
  | cons a rest ih =>
    rw [List.pairwise_cons] at h
    cases rest with
    | nil => rfl
    | cons b rest =>
      have hab := h.1 b List.mem_cons_self
      rw [sharing?, if_neg (Nat.ne_of_lt hab)]
      exact ih h.2

theorem positive_of_head {columns : List Column}
    (hle : columns.Pairwise fun a b => a.ordinal ≤ b.ordinal)
    (h : columns.head?.filter (·.ordinal = 0) = none) : ∀ c ∈ columns, 0 < c.ordinal := by
  cases columns with
  | nil => simp
  | cons a rest =>
    have ha : 0 < a.ordinal := Nat.pos_of_ne_zero (by simpa [Option.filter_eq_none_iff] using h)
    intro c hc
    rcases List.mem_cons.1 hc with rfl | hc
    · exact ha
    · exact Nat.lt_of_lt_of_le ha ((List.pairwise_cons.1 hle).1 c hc)

namespace Table

/-- The table with the given columns, in whatever order they come. -/
def ofColumns (schema name comment : String) (columns : List Column) :
    Except TableError Table :=
  match hzero : (inOrder columns).head?.filter (·.ordinal = 0) with
  | some c => .error (.zeroOrdinal c.name name)
  | none =>
    match hshare : sharing? (inOrder columns) with
    | some (a, b) => .error (.sharedOrdinal a.name b.name name a.ordinal)
    | none =>
      .ok { schema, name, comment
            columns := inOrder columns
            ascending := pairwise_lt_of_sharing?_eq_none (inOrder_pairwise columns) hshare
            positive := positive_of_head (inOrder_pairwise columns) hzero }

/-- A table that is made of columns has what it was made of. -/
theorem eq_of_ofColumns_eq_ok {schema name comment : String} {columns : List Column} {t : Table}
    (h : ofColumns schema name comment columns = .ok t) :
    t.schema = schema ∧ t.name = name ∧ t.comment = comment ∧ t.columns.Perm columns := by
  unfold ofColumns at h
  split at h
  · simp at h
  split at h
  · simp at h
  · cases h
    exact ⟨rfl, rfl, rfl, inOrder_perm columns⟩

theorem inOrder_columns (t : Table) : inOrder t.columns = t.columns :=
  List.mergeSort_of_pairwise (t.ascending.imp fun h => decide_eq_true (Nat.le_of_lt h))

/-- A table is made of columns that come into its order. -/
theorem ofColumns_of_inOrder {t : Table} {columns : List Column}
    (h : inOrder columns = t.columns) :
    ofColumns t.schema t.name t.comment columns = .ok t := by
  have hzero : (inOrder columns).head?.filter (·.ordinal = 0) = none := by
    rw [h, Option.filter_eq_none_iff]
    intro c hc
    have hpos := t.positive c (List.mem_of_mem_head? hc)
    simpa using Nat.ne_of_gt hpos
  have hshare : sharing? (inOrder columns) = none := by
    rw [h]
    exact sharing?_eq_none t.ascending
  unfold ofColumns
  split
  · rename_i hsome
    rw [hzero] at hsome
    cases hsome
  split
  · rename_i hsome
    rw [hshare] at hsome
    cases hsome
  · simp only [h]

/-- A table is what its own columns make up. -/
theorem ofColumns_columns (t : Table) : ofColumns t.schema t.name t.comment t.columns = .ok t :=
  ofColumns_of_inOrder t.inOrder_columns

/-- Whether some column is a point in time. -/
def usesTime (t : Table) : Bool := t.columns.any (·.fieldType.needsTime)

end Table

end Scribe.Schema
