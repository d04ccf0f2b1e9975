import Scribe.Generate
import Scribe.Proofs.Schema.Ordinals

/-!
# Columns that make up no table

`Table.ofColumns` puts the columns in order before it looks for a fault, so the fault that it finds
is the first one in the order of the ordinals.  Which columns it blames is still a matter of the
order in which they came: putting in order is stable, and so leaves the columns with any one ordinal
as they stood (`filter_inOrder`).  From this both searches are read off the columns as given.  The
first column in order has a zero exactly if some column has one, and is then the first that does
(`head?_inOrder_filter`); the first neighbours with one ordinal are the first two columns with the
least ordinal that is shared (`filter_of_sharing?`).
-/

namespace Scribe.Schema

/-! ## Putting in order is stable -/

/-- **The columns with one ordinal keep their order.** -/
theorem filter_inOrder (columns : List Column) (n : Nat) :
    (inOrder columns).filter (·.ordinal = n) = columns.filter (·.ordinal = n) := by
  have hsame : (columns.filter (·.ordinal = n)).Pairwise fun a b =>
      decide (a.ordinal ≤ b.ordinal) = true := by
    rw [List.pairwise_filter]
    refine List.pairwise_of_forall fun a b ha hb => ?_
    rw [decide_eq_true_eq] at ha hb ⊢
    omega
  have hin : (columns.filter (·.ordinal = n)).Sublist (inOrder columns) :=
    List.sublist_mergeSort (by simp only [decide_eq_true_eq]; omega)
      (by simp only [Bool.or_eq_true, decide_eq_true_eq]; omega) hsame List.filter_sublist
  have hsub := hin.filter (·.ordinal = n)
  rw [List.filter_filter] at hsub
  simp only [Bool.and_self] at hsub
  have hperm := (inOrder_perm columns).filter (·.ordinal = n)
  exact (hsub.eq_of_length hperm.symm.length_eq).symm

/-! ## The faults of columns in order -/

section
variable {cs : List Column} (hle : cs.Pairwise fun a b => a.ordinal ≤ b.ordinal)
include hle

/-- The first of some columns in order has a zero if any has one. -/
theorem head?_filter_of_pairwise :
    cs.head?.filter (·.ordinal = 0) = cs.find? (·.ordinal = 0) := by
  cases cs with
  | nil => rfl
  | cons a rest =>
    rw [List.head?_cons, Option.filter_some, List.find?_cons]
    by_cases ha : a.ordinal = 0
    · simp [ha]
    · have hnone : rest.find? (·.ordinal = 0) = none := by
        rw [List.find?_eq_none]
        intro c hc
        have hac := (List.pairwise_cons.1 hle).1 c hc
        simp only [decide_eq_true_eq]
        omega
      simp [ha, hnone]

/-- The first neighbours that share an ordinal are the first two columns that have it, and no
ordinal below is shared. -/
theorem filter_of_sharing? {a b : Column} (h : sharing? cs = some (a, b)) :
    (∃ more, cs.filter (·.ordinal = a.ordinal) = a :: b :: more) ∧ b.ordinal = a.ordinal ∧
      ∀ n < a.ordinal, (cs.filter (·.ordinal = n)).length ≤ 1 := by
  induction cs with
  | nil => simp [sharing?] at h
  | cons c rest ih =>
    obtain ⟨hc, hrest⟩ := List.pairwise_cons.1 hle
    cases rest with
    | nil => simp [sharing?] at h
    | cons d rest =>
      rw [sharing?] at h
      split at h
      · rename_i hcd
        obtain ⟨rfl, rfl⟩ := Prod.mk.inj (Option.some.inj h)
        refine ⟨⟨rest.filter (·.ordinal = c.ordinal), by simp [hcd]⟩, hcd.symm, ?_⟩
        intro n hn
        have hnone : (c :: d :: rest).filter (·.ordinal = n) = [] := by
          rw [List.filter_eq_nil_iff, List.forall_mem_cons]
          simp only [decide_eq_true_eq]
          refine ⟨by omega, fun e he => ?_⟩
          have hce := hc e he
          omega
        simp [hnone]
      · rename_i hcd
        obtain ⟨⟨more, hfilter⟩, hab, hbelow⟩ := ih hrest h
        -- The ordinal of the first column is below all others, so it is in no pair.
        have hlt : ∀ e ∈ d :: rest, c.ordinal < e.ordinal := by
          intro e he
          have hcd' := hc d List.mem_cons_self
          rcases List.mem_cons.1 he with rfl | he
          · omega
          · have hde := (List.pairwise_cons.1 hrest).1 e he
            omega
        have ha : a ∈ d :: rest := by
          have hmem : a ∈ (d :: rest).filter (·.ordinal = a.ordinal) := by
            rw [hfilter]
            exact List.mem_cons_self
          exact (List.mem_filter.1 hmem).1
        have hca := hlt a ha
        refine ⟨⟨more, ?_⟩, hab, ?_⟩
        · rw [List.filter_cons_of_neg (by simpa using Nat.ne_of_lt hca), hfilter]
        · intro n hn
          by_cases hcn : c.ordinal = n
          · have hnone : (d :: rest).filter (·.ordinal = n) = [] := by
              rw [List.filter_eq_nil_iff]
              intro e he
              have hce := hlt e he
              simp only [decide_eq_true_eq]
              omega
            rw [List.filter_cons_of_pos (by simpa using hcn), hnone]
            simp
          · rw [List.filter_cons_of_neg (by simpa using hcn)]
            exact hbelow n hn

end

/-- Of two pairs that share an ordinal, the one with the lower ordinal is found. -/
example :
    let column (ordinal : Nat) (name : String) : Column :=
      ⟨ordinal, name, "int", "int", none, true, none, none, none⟩
    sharing? (inOrder [column 7 "a", column 3 "b", column 7 "c", column 3 "d"]) =
      some (column 3 "b", column 3 "d") := by cbv

/-! ## Which columns are blamed -/

/-- The error for columns that make up no table: the first column without an ordinal is blamed, if
there is one, or else the first two columns with the least ordinal that is shared. -/
inductive RefusedFor (columns : List Column) (table : String) : TableError → Prop
  | zeroOrdinal {before after : List Column} {c : Column} :
      columns = before ++ c :: after → (∀ d ∈ before, d.ordinal ≠ 0) → c.ordinal = 0 →
      RefusedFor columns table (.zeroOrdinal c.name table)
  | sharedOrdinal {before between after : List Column} {a b : Column} {n : Nat} :
      (∀ c ∈ columns, c.ordinal ≠ 0) → columns = before ++ a :: (between ++ b :: after) →
      a.ordinal = n → b.ordinal = n → (∀ c ∈ before, c.ordinal ≠ n) →
      (∀ c ∈ between, c.ordinal ≠ n) → (∀ m < n, (columns.map Column.ordinal).count m ≤ 1) →
      RefusedFor columns table (.sharedOrdinal a.name b.name table n)

variable {schema name comment : String} {columns : List Column} {e : TableError}

theorem head?_inOrder_filter (columns : List Column) :
    (inOrder columns).head?.filter (·.ordinal = 0) = columns.find? (·.ordinal = 0) := by
  rw [head?_filter_of_pairwise (inOrder_pairwise columns), ← List.head?_filter, filter_inOrder,
    List.head?_filter]

/-- What is refused is refused for the columns that are blamed. -/
theorem refusedFor_of_ofColumns (h : Table.ofColumns schema name comment columns = .error e) :
    RefusedFor columns name e := by
  unfold Table.ofColumns at h
  split at h
  · rename_i c hzero
    obtain rfl := Except.error.inj h
    rw [head?_inOrder_filter, List.find?_eq_some_iff_append] at hzero
    obtain ⟨hc, before, after, rfl, hbefore⟩ := hzero
    exact .zeroOrdinal rfl (by simpa using hbefore) (by simpa using hc)
  rename_i hzero
  rw [head?_inOrder_filter, List.find?_eq_none] at hzero
  split at h
  · rename_i a b hshare
    obtain rfl := Except.error.inj h
    obtain ⟨⟨more, hfilter⟩, hab, hbelow⟩ :=
      filter_of_sharing? (inOrder_pairwise columns) hshare
    rw [filter_inOrder, List.filter_eq_cons_iff] at hfilter
    obtain ⟨before, rest, hcolumns, hbefore, -, hrest⟩ := hfilter
    obtain ⟨between, after, rfl, hbetween, -, -⟩ := List.filter_eq_cons_iff.1 hrest
    refine .sharedOrdinal (by simpa using hzero) hcolumns rfl hab (by simpa using hbefore)
      (by simpa using hbetween) ?_
    intro m hm
    have hcount := hbelow m hm
    rw [filter_inOrder] at hcount
    rw [List.count, List.countP_map, List.countP_eq_length_filter]
    exact hcount
  · simp at h

/-- A job whose catalog answers with such columns fails as a query, and changes no file. -/
theorem run_of_ofColumns {job : SchemaJob} {server : Server}
    (hcomment : server.fetchComment job.schema job.table = .ok comment)
    (hcolumns : server.fetchColumns job.schema job.table = .ok columns)
    (h : Table.ofColumns job.schema job.table comment columns = .error e) (output : TableOutput)
    (r : Renderer) (files : Files.Tree) :
    job.run output r server files = (.error (.query e.message), files) := by
  have hfetch : server.fetchTable job.schema job.table = .error (.malformed e) := by
    rw [Server.fetchTable, hcomment]
    dsimp only
    rw [hcolumns]
    dsimp only
    rw [h]
  rw [SchemaJob.run, SchemaJob.content, hfetch]
  rfl

/-- **A table is made of columns in one way.**  It is made exactly if no ordinal is zero and none is
shared; then it has the columns in strict order, whatever order they came in.  Otherwise the columns
to blame are named, and a job whose catalog answers with the columns fails as a query. -/
theorem ofColumns_canonical (schema name comment : String) (columns : List Column) :
    ((∃ t, Table.ofColumns schema name comment columns = .ok t) ↔
      (∀ c ∈ columns, c.ordinal ≠ 0) ∧ (columns.map Column.ordinal).Nodup) ∧
    (∀ t, Table.ofColumns schema name comment columns = .ok t →
      t.schema = schema ∧ t.name = name ∧ t.comment = comment ∧ t.columns.Perm columns ∧
      (t.columns.Pairwise fun a b => a.ordinal < b.ordinal) ∧
      ∀ columns', columns'.Perm columns →
        Table.ofColumns schema name comment columns' = .ok t) ∧
    ∀ e, Table.ofColumns schema name comment columns = .error e →
      RefusedFor columns name e ∧
      ∀ (job : SchemaJob) (server : Server), job.schema = schema → job.table = name →
        server.fetchComment schema name = .ok comment →
        server.fetchColumns schema name = .ok columns → ∀ output r (files : Files.Tree),
        job.run output r server files = (.error (.query e.message), files) := by
  refine ⟨?_, ?_, ?_⟩
  · simp only [Table.exists_ofColumns_iff, Nat.pos_iff_ne_zero]
  · intro t ht
    obtain ⟨hschema, hname, hcomment, hperm⟩ := Table.ofColumns_eq_ok_iff.1 ht
    refine ⟨hschema, hname, hcomment, hperm, t.ascending, ?_⟩
    intro columns' hperm'
    exact Table.ofColumns_eq_ok_iff.2 ⟨hschema, hname, hcomment, hperm.trans hperm'.symm⟩
  · intro e he
    refine ⟨refusedFor_of_ofColumns he, ?_⟩
    rintro job server rfl rfl hcomment hcolumns output r files
    exact run_of_ofColumns hcomment hcolumns he output r files

end Scribe.Schema
