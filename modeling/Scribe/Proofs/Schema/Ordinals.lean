import Mathlib.Data.List.Nodup
import Scribe.Schema.Table

/-!
# Tables from columns in any order

`Table.ofColumns` sorts, and a table has its columns in strict order; so there is one table at most
whose columns are the given ones in some order, and `ofColumns` returns it if it is there
(`ofColumns_eq_ok_iff`).  It is there exactly when the ordinals are positive and no two columns
share one (`exists_ofColumns_iff`).
-/

namespace Scribe.Schema

variable {schema name comment : String} {columns : List Column}

namespace Table

variable {t : Table}

/-- No two columns of a table share an ordinal. -/
theorem nodup_ordinals (t : Table) : (t.columns.map Column.ordinal).Nodup :=
  List.pairwise_map.2 (t.ascending.imp Nat.ne_of_lt)

/-- Columns that a table has in some order come into the order of the table. -/
theorem inOrder_of_perm (h : t.columns.Perm columns) : inOrder columns = t.columns := by
  have hle : t.columns.Pairwise fun a b => a.ordinal ≤ b.ordinal := t.ascending.imp Nat.le_of_lt
  have hperm := (inOrder_perm columns).trans h.symm
  refine List.Perm.eq_of_pairwise ?_ (inOrder_pairwise columns) hle hperm
  intro a b ha hb hab hba
  exact List.inj_on_of_nodup_map t.nodup_ordinals (hperm.subset ha) hb (Nat.le_antisymm hab hba)

/-- **A table is made of columns exactly when it has them in some order.** -/
theorem ofColumns_eq_ok_iff :
    ofColumns schema name comment columns = .ok t ↔
      t.schema = schema ∧ t.name = name ∧ t.comment = comment ∧ t.columns.Perm columns := by
  constructor
  · exact eq_of_ofColumns_eq_ok
  · rintro ⟨rfl, rfl, rfl, hperm⟩
    exact ofColumns_of_inOrder (inOrder_of_perm hperm)

/-- Columns make up a table exactly when their ordinals are positive and distinct. -/
theorem exists_ofColumns_iff :
    (∃ t, ofColumns schema name comment columns = .ok t) ↔
      (∀ c ∈ columns, 0 < c.ordinal) ∧ (columns.map Column.ordinal).Nodup := by
  constructor
  · rintro ⟨t, ht⟩
    obtain ⟨-, -, -, hperm⟩ := ofColumns_eq_ok_iff.1 ht
    refine ⟨?_, (hperm.map Column.ordinal).nodup t.nodup_ordinals⟩
    intro c hc
    exact t.positive c (hperm.symm.subset hc)
  · rintro ⟨hpos, hnodup⟩
    have hperm := inOrder_perm columns
    have hlt : (inOrder columns).Pairwise fun a b => a.ordinal < b.ordinal := by
      have hne := List.pairwise_map.1 ((hperm.map Column.ordinal).symm.nodup hnodup)
      refine ((inOrder_pairwise columns).and hne).imp ?_
      rintro a b ⟨hle, hne⟩
      exact Nat.lt_of_le_of_ne hle hne
    have hpos' : ∀ c ∈ inOrder columns, 0 < c.ordinal := by
      intro c hc
      exact hpos c (hperm.subset hc)
    exact ⟨⟨schema, name, comment, inOrder columns, hlt, hpos'⟩,
      ofColumns_eq_ok_iff.2 ⟨rfl, rfl, rfl, hperm⟩⟩

end Table

end Scribe.Schema
