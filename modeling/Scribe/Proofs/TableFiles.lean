import Scribe.Proofs.Document.Grid
import Scribe.Proofs.Generate
import Scribe.Proofs.Schema.Fetch

/-!
# Where the file of a table goes

The path for a table's file is the name of the file joined to the job's directory, and the name is
that of the table with an extension.  A run writes one file (`run_liesIn_iff`), and the slashes in
the name decide alone whether it lies in the directory under this name.  Without one the name is the
last piece of the path.  With one it cannot be a name at all: what stands before the last slash is
walked like any other path, up and out of the directory if it says so (`run_page_not_liesIn`).
-/

namespace Scribe

open Scribe.Files Scribe.Schema

namespace Files

variable {t : Tree} {dir name : String} {l : Location}

/-- A location is that of a name directly in the directory at a path, which is the working directory
if the path is empty. -/
def Tree.LiesIn (t : Tree) (dir name : String) (l : Location) : Prop :=
  ∃ d, l = d ++ [name] ∧
    ((dir = "" ∧ d = t.working) ∨ (t.isDirectory dir ∧ t.LeadsTo dir d))

/-- The name that a path leads to has no slash. -/
theorem exists_name_of_resolve {path : String} (h : t.resolve path = .ok (.entry l false)) :
    ∃ d name, l = d ++ [name] ∧ '/' ∉ name.toList := by
  obtain ⟨-, hfollow⟩ := Tree.resolve_eq_ok_iff.1 h
  obtain ⟨before, name, d, hpieces, -, -, rfl⟩ := Tree.exists_last_of_follow hfollow
  obtain ⟨ps, last, hlast, hsplit⟩ := exists_last_piece path.toList
  have hboth : ps ++ [last] = before ++ [name] := by
    rw [← hpieces, pieces_eq_splitOn]
    simpa using (hsplit [] (by simp)).symm
  obtain ⟨-, rfl⟩ := List.append_singleton_inj.1 hboth
  exact ⟨d, _, rfl, by simpa using hlast⟩

/-- A name without a slash that is joined to a directory leads into it. -/
theorem liesIn_of_resolve (h : t.resolve (join dir name) = .ok (.entry l false))
    (hname : '/' ∉ name.toList) (hne : name ≠ "") : t.LiesIn dir name l := by
  have hlast : ∀ d, t.follow d [name.toList] = .ok (.entry l false) → l = d ++ [name] := by
    intro d hfollow
    obtain ⟨before, last, d', hpieces, -, hbefore, rfl⟩ := Tree.exists_last_of_follow hfollow
    rw [← List.nil_append [name.toList], List.append_singleton_inj] at hpieces
    obtain ⟨rfl, rfl⟩ := hpieces
    obtain rfl := Except.ok.inj hbefore
    simp
  by_cases hdir : dir = ""
  · have hrelative : isAbsolute name = false := by
      rw [isAbsolute, decide_eq_false_iff_not]
      exact fun hhead => hname (List.mem_of_head? hhead)
    have hjoin : join dir name = name := by simp [join, hdir]
    rw [hjoin, Tree.resolve_eq_ok_iff, pieces_eq_splitOn, List.splitOn_eq_singleton hname, Tree.base,
      hrelative] at h
    exact ⟨t.working, hlast _ h.2, .inl ⟨hdir, rfl⟩⟩
  · obtain ⟨d, hdirectory, hlead, hfollow⟩ :=
      (below_join hdir hname).exists_leadsTo (by simpa using hne) h
    exact ⟨d, hlast d hfollow, .inr ⟨hdirectory, hlead⟩⟩

/-- A name leads into the directory that it is joined to if and only if it has no slash. -/
theorem liesIn_iff_of_resolve (h : t.resolve (join dir name) = .ok (.entry l false))
    (hne : name ≠ "") : t.LiesIn dir name l ↔ '/' ∉ name.toList := by
  constructor
  · rintro ⟨d, rfl, -⟩
    obtain ⟨d', name', hl, hname⟩ := exists_name_of_resolve h
    obtain ⟨-, rfl⟩ := List.append_singleton_inj.1 hl
    exact hname
  · intro hname
    exact liesIn_of_resolve h hname hne

end Files

/-! ## Runs for tables -/

/-- The name for the file of a table. -/
def TableOutput.fileName (output : TableOutput) (table : String) : String :=
  table ++ "." ++ (SchemaJob.kind output).extension

theorem TableOutput.slash_mem_fileName (output : TableOutput) (table : String) :
    '/' ∈ (output.fileName table).toList ↔ '/' ∈ table.toList := by
  cases output <;> simp [fileName, SchemaJob.kind, DocumentKind.extension]

theorem TableOutput.fileName_ne (output : TableOutput) (table : String) :
    output.fileName table ≠ "" := by
  cases output <;> simp [fileName]

namespace SchemaJob

variable {job : SchemaJob} {output : TableOutput} {r : Renderer} {server : Server} {t t' : Tree}
  {file : GeneratedFile}

/-- **A run for a table writes one file, and this lies in the directory of the job under the name of
the table if and only if the name has no slash.** -/
theorem run_liesIn_iff (h : job.run output r server t = (.ok file, t')) :
    ∃ l content, t'.resolve file.path = .ok (.entry l false) ∧
      t'.at? l = some (.file content) ∧ file.bytes = content.size ∧
      (∀ k ≠ l, ∀ c, t'.at? k = some (.file c) ↔ t.at? k = some (.file c)) ∧
      (t'.LiesIn job.dir (output.fileName job.table) l ↔ '/' ∉ job.table.toList) := by
  obtain ⟨text, t₁, l, -, ⟨steps, hgains⟩, hresolve, hl, rfl, rfl⟩ :=
    exists_put_of_writeRendered h
  have hkeeps := Tree.KeepsDirectories.put hl (.file text.toUTF8)
  have hthere := Tree.resolve_mono hkeeps hresolve
  have hat (k : Location) := Tree.at?_put t₁ (Tree.ne_root hl) (.file text.toUTF8) k
  have hjoin : (t₁.put l (.file text.toUTF8)).resolve
      (join job.dir (output.fileName job.table)) = .ok (.entry l false) := hthere
  refine ⟨l, text.toUTF8, hthere, by rw [hat, if_pos rfl], rfl, ?_, ?_⟩
  · intro k hk c
    rw [hat, if_neg hk]
    exact hgains.file_iff k c
  · rw [liesIn_iff_of_resolve hjoin (output.fileName_ne job.table),
      output.slash_mem_fileName]

/-- A page whose path leads to a file or to nothing yet is written there. -/
theorem exists_run_page (hr : r.overrides = none)
    (hfetch : ∃ table, server.fetchTable job.schema job.table = .ok table) {l : Location}
    (hresolve : t.resolve (job.outputPath .page) = .ok (.entry l false))
    (hl : t.at? l ≠ some .directory) :
    ∃ file body, job.run .page r server t =
      (.ok file, t.put l (.file (String.ofList (body ++ ['\n'])).toUTF8)) := by
  obtain ⟨table, htable⟩ := hfetch
  have hrender := Document.render_page_eq (r := r) (t := table) (by simp [hr])
  have hcontent : job.content .page r server = r.render (.page (.ofTable table)) := by
    rw [content, htable]
    rfl
  have hwrite := writeFile_of_resolve hresolve hl
  rw [run, hcontent, hrender]
  exact ⟨_, _, hwrite _⟩

end SchemaJob

/-! ## A table named after a file elsewhere -/

/-- A job for a table in a directory next to a file. -/
def notesJob (table : String) : SchemaJob := ⟨"shop", table, "out", none⟩

/-- A file, and the directory of the job beside it. -/
def notesTree : Tree where
  nodes := [(["work"], .directory), (["work", "out"], .directory),
    (["work", "notes.md"], .file "keep".toUTF8)]
  working := ["work"]

theorem exists_run_notes {table : String} {l : Location}
    (hresolve : notesTree.resolve ((notesJob table).outputPath .page) = .ok (.entry l false))
    (hl : notesTree.at? l ≠ some .directory) :
    ∃ file body, (notesJob table).run .page .default (notesServer table) notesTree =
      (.ok file, notesTree.put l (.file (String.ofList (body ++ ['\n'])).toUTF8)) := by
  have hcomplete : (notesColumn table).IsComplete :=
    ⟨⟨1, rfl, by decide⟩, nofun, nofun, nofun, nofun⟩
  have hfetch : ∃ t, (notesServer table).fetchTable "shop" table = .ok t := by
    rw [Server.exists_fetchTable_iff]
    simpa [notesServer, notesColumn, Server.commentRows, Server.columnRows] using hcomplete
  exact SchemaJob.exists_run_page rfl hfetch hresolve hl

namespace SchemaJob

theorem run_liesIn_iff_notes : ∃ file t',
    (notesJob "notes").run .page .default (notesServer "notes") notesTree = (.ok file, t') ∧
    ∃ l content, t'.resolve file.path = .ok (.entry l false) ∧
      t'.at? l = some (.file content) ∧ file.bytes = content.size ∧
      (∀ k ≠ l, ∀ c, t'.at? k = some (.file c) ↔ notesTree.at? k = some (.file c)) ∧
      (t'.LiesIn "out" "notes.md" l ↔ '/' ∉ "notes".toList) := by
  have hresolve : notesTree.resolve ((notesJob "notes").outputPath .page) =
      .ok (.entry ["work", "out", "notes.md"] false) := by
    have hpath : (notesJob "notes").outputPath .page = "out/notes.md" := by decide
    rw [hpath]
    rfl
  have hnone : notesTree.at? ["work", "out", "notes.md"] = none := rfl
  obtain ⟨file, body, hrun⟩ := exists_run_notes hresolve (by simp [hnone])
  exact ⟨file, _, hrun, run_liesIn_iff hrun⟩

/-- A table that is named after a file above the directory takes the place of this file. -/
theorem run_page_not_liesIn : ∃ file t',
    (notesJob "../notes").run .page .default (notesServer "../notes") notesTree = (.ok file, t') ∧
      notesTree.at? ["work", "notes.md"] = some (.file "keep".toUTF8) ∧
      t'.at? ["work", "notes.md"] ≠ some (.file "keep".toUTF8) ∧
      ∀ name, ¬ t'.LiesIn "out" name ["work", "notes.md"] := by
  have hresolve : notesTree.resolve ((notesJob "../notes").outputPath .page) =
      .ok (.entry ["work", "notes.md"] false) := by
    have hpath : (notesJob "../notes").outputPath .page = "out/../notes.md" := by decide
    rw [hpath]
    rfl
  have hkeep : notesTree.at? ["work", "notes.md"] = some (.file "keep".toUTF8) := rfl
  obtain ⟨file, body, hrun⟩ := exists_run_notes hresolve (by simp [hkeep])
  refine ⟨file, _, hrun, hkeep, ?_, ?_⟩
  · rw [Tree.at?_put _ (by simp), if_pos rfl]
    intro hsame
    have htext : String.ofList (body ++ ['\n']) = "keep" :=
      String.toByteArray_inj.1 (Node.file.inj (Option.some.inj hsame))
    have hend := congrArg (fun s => s.toList.getLast?) htext
    simp at hend
  · rintro name ⟨d, hl, ⟨hempty, -⟩ | ⟨-, hlead⟩⟩
    · simp at hempty
    · have hout (n : Node) : (notesTree.put ["work", "notes.md"] n).resolve "out" =
          .ok (.entry ["work", "out"] false) := rfl
      rw [Tree.LeadsTo, hout] at hlead
      obtain rfl : ["work", "out"] = d := by simpa using hlead
      simp at hl

end SchemaJob

end Scribe
