import Scribe.Generate
import Scribe.Proofs.Document.CodeLines
import Scribe.Proofs.Files.Disk
import Scribe.Proofs.Files.Resolving

/-!
# Runs are all or nothing

A run turns to the file system at one point, `writeRendered`, and by then it has the whole text.  So
how a run can end is a property of the writing alone (`writeFile_cases`), whatever was read and
rendered before: it stops before the writing and leaves everything as it is, it stops in the writing
and leaves at most new directories above the target, or its file is there and all else is as before.
What is asked of the file system is that single operations are all or nothing.

Which text is written, and what stops a run before it has one, is said of the parts that a run is
made of (`LookupJob.Renders`, `LookupJob.Stops` and those of a job for a table): the files, the
catalog, the reader of constants and the renderer.
-/

namespace Scribe

open Scribe.Document Scribe.Files Scribe.Schema Scribe.Source
open AtomicFiles (at? put LeadsTo)

section
variable {σ : Type} [FileSystem σ] [AtomicFiles σ] {s s' : σ} {path : String}

/-! ## Writing in directories that need not be there -/

/-- All is as it was, but for new directories above a path. -/
def GainsAbove (path : String) (s s' : σ) : Prop :=
  ∃ steps, Gains (ancestors path steps) s s'

theorem GainsAbove.refl (path : String) (s : σ) : GainsAbove path s s := ⟨0, .refl⟩

theorem GainsAbove.file_iff (h : GainsAbove path s s') (k : Location) (content : ByteArray) :
    at? s' k = some (.file content) ↔ at? s k = some (.file content) := by
  obtain ⟨steps, hgains⟩ := h
  exact hgains.file_iff k content

theorem makeDirectories_gainsAbove {dir : String} (h : parent? path = some dir) (s : σ) :
    GainsAbove path s (makeDirectories s dir).2 := by
  refine ⟨dir.length + 1, ?_⟩
  rw [ancestors, h]
  exact makeDirectories_gains s dir

/-- The directories above a path are made, or the failure is one of the file system. -/
theorem makeParents_cases (s : σ) (path : String) :
    (∃ e s', makeParents s path = (.error e, s') ∧ e.stage = "io" ∧ GainsAbove path s s') ∨
      ∃ s', makeParents s path = (.ok (), s') ∧ GainsAbove path s s' := by
  unfold makeParents
  split
  · exact .inr ⟨s, rfl, .refl path s⟩
  rename_i dir hdir
  have hgains := makeDirectories_gainsAbove (Option.filter_eq_some_iff.mp hdir).1 s
  split
  · rename_i s' hmake
    rw [hmake] at hgains
    exact .inr ⟨s', rfl, hgains⟩
  · rename_i e s' hmake
    rw [hmake] at hgains
    exact .inl ⟨.io dir e.message, s', rfl, rfl, hgains⟩

/-- **Writing a file ends in one of two ways.**  It fails, with at most new directories left behind,
or the file is written as a whole. -/
theorem writeFile_cases (s : σ) (path content : String) :
    (∃ e s', writeFile s path content = (.error e, s') ∧ e.stage = "io" ∧ GainsAbove path s s') ∨
      ∃ s₁ s', GainsAbove path s s₁ ∧ FileSystem.write s₁ path content.toUTF8 = (.ok (), s') ∧
        writeFile s path content = (.ok ⟨path, content.utf8ByteSize⟩, s') := by
  rcases makeParents_cases s path with ⟨e, s', hmake, hstage, hgains⟩ | ⟨s₁, hmake, hgains⟩
  · exact .inl ⟨e, s', by rw [writeFile, hmake], hstage, hgains⟩
  rcases AtomicFiles.write_cases s₁ path content.toUTF8 with ⟨e, hwrite⟩ | ⟨l, -, -, hwrite⟩
  · refine .inl ⟨.io path e.message, s₁, ?_, rfl, hgains⟩
    rw [writeFile, hmake]
    simp only [hwrite]
  · refine .inr ⟨s₁, put s₁ l (.file content.toUTF8), hgains, hwrite, ?_⟩
    rw [writeFile, hmake]
    simp only [hwrite]

/-- What was rendered is written where there are new directories at most. -/
theorem exists_write_of_writeRendered {rendered : Except Failure String} {file : GeneratedFile}
    (h : writeRendered s path rendered = (.ok file, s')) :
    ∃ text s₁, rendered = .ok text ∧ GainsAbove path s s₁ ∧
      FileSystem.write s₁ path text.toUTF8 = (.ok (), s') ∧ file = ⟨path, text.utf8ByteSize⟩ := by
  cases rendered with
  | error e => simp [writeRendered] at h
  | ok text =>
    rw [writeRendered] at h
    rcases writeFile_cases s path text with ⟨e, s₁, hfail, -, -⟩ | ⟨s₁, s₂, hgains, hwrite, hrun⟩
    · rw [hfail] at h
      simp at h
    · rw [hrun] at h
      obtain ⟨hfile, rfl⟩ := Prod.mk.inj h
      exact ⟨text, s₁, rfl, hgains, hwrite, (Except.ok.inj hfile).symm⟩

/-! ## How a run ends -/

/-- A path leads to a file with a content, which was put there after new directories were made above
the path; every other place is as it was or one of these directories. -/
def HoldsFile (path : String) (content : ByteArray) (s s' : σ) : Prop :=
  ∃ s₁ l steps, Gains (ancestors path steps) s s₁ ∧ s' = put s₁ l (.file content) ∧
    LeadsTo s' path l ∧ at? s' l = some (.file content) ∧
    ∀ k ≠ l, SameOrGained (ancestors path steps) s s' k

/-- How a run ends that is to write a text at a path.  `Renders` says which text it may be, and
`Stops` what can stop the run before there is one. -/
structure AllOrNothing (path : String) (Renders : String → Prop) (Stops : Failure → Prop) (s : σ)
    (result : Except Failure GeneratedFile × σ) : Prop where
  /-- A run that is stopped before the writing leaves everything as it is. -/
  stopped : ∀ e, Stops e → result = (.error e, s)
  /-- A failure that is not one of the file system leaves everything as it is. -/
  unchanged : ∀ e, result.1 = .error e → e.stage ≠ "io" → result.2 = s
  /-- A run that fails and was not stopped has a text and fails in writing it.  It leaves the files
  as they are. -/
  halted : ∀ e, result.1 = .error e → Stops e ∨
    (e.stage = "io" ∧ (∃ text, Renders text) ∧ GainsAbove path s result.2 ∧
      ∀ k content, at? result.2 k = some (.file content) ↔ at? s k = some (.file content))
  /-- A run that succeeds has written its text, and nothing else. -/
  written : ∀ file, result.1 = .ok file →
    ∃ text, Renders text ∧ file.path = path ∧ file.bytes = text.toUTF8.size ∧
      HoldsFile path text.toUTF8 s result.2

theorem holdsFile_of_write {content : ByteArray} {s₁ : σ} (h : GainsAbove path s s₁)
    (hwrite : FileSystem.write s₁ path content = (.ok (), s')) : HoldsFile path content s s' := by
  obtain ⟨steps, hgains⟩ := h
  rcases AtomicFiles.write_cases s₁ path content with ⟨e, hfail⟩ | ⟨l, hlead, hl, hdone⟩
  · cases hfail.symm.trans hwrite
  obtain ⟨-, rfl⟩ := Prod.mk.inj (hdone.symm.trans hwrite)
  refine ⟨s₁, l, steps, hgains, rfl, AtomicFiles.leadsTo_put hl _ hlead, ?_, ?_⟩
  · rw [AtomicFiles.at?_put hl, if_pos rfl]
  · intro k hk
    exact (hgains.node k).put hl _ hk

theorem writeRendered_allOrNothing {Renders : String → Prop} {Stops : Failure → Prop}
    {rendered : Except Failure String} (hok : ∀ text, rendered = .ok text ↔ Renders text)
    (herror : ∀ e, rendered = .error e ↔ Stops e) (s : σ) (path : String) :
    AllOrNothing path Renders Stops s (writeRendered s path rendered) := by
  cases hrendered : rendered with
  | error e =>
    refine ⟨?_, fun _ _ _ => rfl, ?_, ?_⟩
    · intro e' hstops
      rw [← herror, hrendered] at hstops
      rw [Except.error.inj hstops]
      rfl
    · intro e' hresult
      obtain rfl := Except.error.inj hresult
      exact .inl ((herror e).1 hrendered)
    · intro file hresult
      simp [writeRendered] at hresult
  | ok text =>
    have hrenders : Renders text := (hok text).1 hrendered
    have hnot : ∀ e, ¬ Stops e := by
      intro e hstops
      rw [← herror, hrendered] at hstops
      cases hstops
    have hrun : writeRendered s path (.ok text) = writeFile s path text := rfl
    rw [hrun]
    rcases writeFile_cases s path text with
      ⟨e, s', hfail, hstage, hgains⟩ | ⟨s₁, s', hgains, hwrite, hdone⟩
    · rw [hfail]
      refine ⟨fun e hstops => absurd hstops (hnot e), ?_, ?_, nofun⟩
      · rintro _ ⟨⟩ hother
        exact absurd hstage hother
      · rintro _ ⟨⟩
        exact .inr ⟨hstage, ⟨text, hrenders⟩, hgains, hgains.file_iff⟩
    · rw [hdone]
      refine ⟨fun e hstops => absurd hstops (hnot e), nofun, nofun, ?_⟩
      rintro _ ⟨⟩
      exact ⟨text, hrenders, rfl, rfl, holdsFile_of_write hgains hwrite⟩

end

/-! ## What a run writes, and what stops it -/

section
variable {σ : Type} [FileSystem σ]

/-- The text of a lookup file: its source is read, the constants are taken from it, and the lookup
file for them is rendered. -/
def LookupJob.Renders (job : LookupJob) (r : Renderer) (s : σ) (text : String) : Prop :=
  ∃ source file package, FileSystem.readText s job.input = .ok source ∧
    readConstants source.toList = .ok file ∧
    file.resolvePackage job.fallbackPackage = .ok package ∧
    r.render (.lookup (.ofComments package job.constType file.comments)) = .ok text

/-- What stops a run for a lookup file before there is a text. -/
inductive LookupJob.Stops (job : LookupJob) (r : Renderer) (s : σ) : Failure → Prop where
  /-- The input cannot be read. -/
  | unreadable {e : FileFault} (hread : FileSystem.readText s job.input = .error e) :
    Stops job r s (.io job.input e.message)
  | malformed {source : String} {e : ReadError}
    (hread : FileSystem.readText s job.input = .ok source)
    (hconstants : readConstants source.toList = .error e) :
    Stops job r s (.parse e.line e.message)
  /-- There is no package for the file. -/
  | unnamed {source : String} {file : ConstantFile} {e : ReadError}
    (hread : FileSystem.readText s job.input = .ok source)
    (hconstants : readConstants source.toList = .ok file)
    (hpackage : file.resolvePackage job.fallbackPackage = .error e) :
    Stops job r s (.parse e.line e.message)
  | unrendered {source : String} {file : ConstantFile} {package : String} {e : Failure}
    (hread : FileSystem.readText s job.input = .ok source)
    (hconstants : readConstants source.toList = .ok file)
    (hpackage : file.resolvePackage job.fallbackPackage = .ok package)
    (hrender : r.render (.lookup (.ofComments package job.constType file.comments)) = .error e) :
    Stops job r s e

/-- The text for a table: the table is fetched, and its page or struct file is rendered. -/
def SchemaJob.Renders (job : SchemaJob) (output : TableOutput) (r : Renderer) (server : Server)
    (text : String) : Prop :=
  ∃ table, server.fetchTable job.schema job.table = .ok table ∧
    match output with
    | .page => r.render (.page (.ofTable table)) = .ok text
    | .record => r.render (.record (.ofTable table job.package)) = .ok text

/-- What stops a run for a table before there is a text. -/
inductive SchemaJob.Stops (job : SchemaJob) (r : Renderer) (server : Server) :
    TableOutput → Failure → Prop where
  | unfetched {output : TableOutput} {e : CatalogError}
    (hfetch : server.fetchTable job.schema job.table = .error e) :
    Stops job r server output (.query e.message)
  | page {table : Table} {e : Failure}
    (hfetch : server.fetchTable job.schema job.table = .ok table)
    (hrender : r.render (.page (.ofTable table)) = .error e) : Stops job r server .page e
  | record {table : Table} {e : Failure}
    (hfetch : server.fetchTable job.schema job.table = .ok table)
    (hrender : r.render (.record (.ofTable table job.package)) = .error e) :
    Stops job r server .record e

namespace LookupJob

variable (job : LookupJob) (r : Renderer) (s : σ)

theorem content_eq_ok_iff (text : String) :
    job.content r s = .ok text ↔ job.Renders r s text := by
  unfold content document Renders
  cases FileSystem.readText s job.input with
  | error e => simp
  | ok source =>
    cases hconstants : readConstants source.toList with
    | error e => simp [hconstants]
    | ok file =>
      cases hpackage : file.resolvePackage job.fallbackPackage <;> simp [hconstants, hpackage]

theorem content_eq_error_iff (e : Failure) : job.content r s = .error e ↔ job.Stops r s e := by
  constructor
  · intro h
    unfold content document at h
    cases hread : FileSystem.readText s job.input with
    | error e' =>
      rw [hread] at h
      cases h
      exact .unreadable hread
    | ok source =>
      cases hconstants : readConstants source.toList with
      | error e' =>
        rw [hread] at h
        simp only [hconstants] at h
        cases h
        exact .malformed hread hconstants
      | ok file =>
        cases hpackage : file.resolvePackage job.fallbackPackage with
        | error e' =>
          rw [hread] at h
          simp only [hconstants, hpackage] at h
          cases h
          exact .unnamed hread hconstants hpackage
        | ok package =>
          rw [hread] at h
          simp only [hconstants, hpackage] at h
          exact .unrendered hread hconstants hpackage h
  · intro h
    unfold content document
    cases h with
    | unreadable hread => rw [hread]
    | malformed hread hconstants => simp only [hread, hconstants]
    | unnamed hread hconstants hpackage => simp only [hread, hconstants, hpackage]
    | unrendered hread hconstants hpackage hrender =>
      simp only [hread, hconstants, hpackage, hrender]

end LookupJob

namespace SchemaJob

variable (job : SchemaJob) (output : TableOutput) (r : Renderer) (server : Server)

theorem content_eq_ok_iff (text : String) :
    job.content output r server = .ok text ↔ job.Renders output r server text := by
  unfold content Renders
  cases server.fetchTable job.schema job.table <;> cases output <;> simp [document]

theorem content_eq_error_iff (e : Failure) :
    job.content output r server = .error e ↔ job.Stops r server output e := by
  unfold content
  constructor
  · intro h
    cases hfetch : server.fetchTable job.schema job.table with
    | error e' =>
      rw [hfetch] at h
      cases h
      exact .unfetched hfetch
    | ok table =>
      rw [hfetch] at h
      cases output with
      | page => exact .page hfetch h
      | record => exact .record hfetch h
  · intro h
    cases h with
    | unfetched hfetch => rw [hfetch]
    | page hfetch hrender => simp only [hfetch, document, hrender]
    | record hfetch hrender => simp only [hfetch, document, hrender]

end SchemaJob

end

/-- **A run writes its whole file or no file.**  This holds for each kind of job, with every
renderer and in every state of the files and the server, whatever links there are and whatever is
refused, as long as single operations are all or nothing. -/
theorem run_allOrNothing {σ : Type} [FileSystem σ] [AtomicFiles σ] (r : Renderer)
    (server : Server) (s : σ) :
    (∀ job : LookupJob,
      AllOrNothing job.outputPath (job.Renders r s) (job.Stops r s) s (job.run r s)) ∧
    ∀ (job : SchemaJob) (output : TableOutput),
      AllOrNothing (job.outputPath output) (job.Renders output r server) (job.Stops r server output)
        s (job.run output r server s) := by
  constructor
  · intro job
    exact writeRendered_allOrNothing (job.content_eq_ok_iff r s) (job.content_eq_error_iff r s) s _
  · intro job output
    exact writeRendered_allOrNothing (job.content_eq_ok_iff output r server)
      (job.content_eq_error_iff output r server) s _

/-! ### Runs through a link -/

def codesSource : String := "package p\nconst A = 1 // one\n"

/-- The lookup file of that source, as it is before it is laid out. -/
def codesText : String :=
  "// Code generated by metagen-ctl. DO NOT EDIT.\n\n" ++
  "// Package p maps constant codes to their messages.\npackage p\n\n" ++
  "// noMsg is returned by GetMsg for codes without a message.\nconst noMsg = \"unknown\"\n\n" ++
  "var messages = map[int]string\x7b\n\tA: \"one\",\n\x7d\n\n" ++
  "// GetMsg returns the message of code, or \"unknown\" if it has none.\n" ++
  "func GetMsg(code int) string \x7b\n\tif msg, ok := messages[code]; ok \x7b\n" ++
  "\t\treturn msg\n\t\x7d\n\treturn noMsg\n\x7d"

/-- The text for a job on that source, wherever the source is. -/
theorem codesText_renders {σ : Type} [FileSystem σ] {s : σ} {output : Option String}
    (h : FileSystem.readText s "codes.go" = .ok codesSource) :
    LookupJob.Renders ⟨"codes.go", output, "int", none⟩ ⟨none, .none⟩ s codesText := by
  have hread : readConstants codesSource.toList = .ok ⟨some "p", .ofList [("A", "one")]⟩ := by
    decide +kernel
  have htext : (AnyDocument.lookup (.ofComments "p" "int" (.ofList [("A", "one")]))).text =
      codesText := by
    decide +kernel
  refine ⟨codesSource, _, "p", h, hread, rfl, ?_⟩
  rw [← htext]
  exact render_plain rfl

def notesColumn (table : String) : ColumnRow :=
  ⟨"shop", table, some 1, some "id", some "int", some "int", none, some "NO", none, none, none⟩

/-- A catalog with a table of one column. -/
def notesServer (table : String) : Server where
  comments := [⟨"shop", table, none⟩]
  columns := [notesColumn table]
  connectFault := none
  commentsFault := none
  columnsFault := none

def notesTable : Table where
  schema := "shop"
  name := "notes"
  comment := ""
  columns := [⟨1, "id", "int", "int", none, false, none, none, none⟩]
  ascending := by decide
  positive := by decide

/-- The struct file of that table, as it is before it is laid out. -/
def notesText : String :=
  "package notes\n\n// Notes maps the notes table.\ntype Notes struct \x7b\n" ++
  "\tId int64 \x60gorm:\"column:id;NOT NULL\"\x60\n\x7d\n\n" ++
  "// TableName returns the table backing Notes.\n" ++
  "func (Notes) TableName() string \x7b\n\treturn \"notes\"\n\x7d"

theorem notesText_renders {dir : String} :
    SchemaJob.Renders ⟨"shop", "notes", dir, none⟩ .record ⟨none, .none⟩ (notesServer "notes")
      notesText := by
  have hcomment : (notesServer "notes").fetchComment "shop" "notes" = .ok notesTable.comment := by
    decide +kernel
  have hcolumns : (notesServer "notes").fetchColumns "shop" "notes" = .ok notesTable.columns := by
    decide +kernel
  have htable : Table.ofColumns "shop" "notes" notesTable.comment notesTable.columns =
      .ok notesTable :=
    Table.ofColumns_columns notesTable
  have htext : (AnyDocument.record (.ofTable notesTable none)).text = notesText := by
    decide +kernel
  refine ⟨notesTable, ?_, ?_⟩
  · show (notesServer "notes").fetchTable "shop" "notes" = _
    rw [Server.fetchTable, hcomment]
    simp only [hcolumns, htable]
  · rw [← htext]
    exact render_plain rfl

/-- A source in the working directory, and beside it a link to an empty directory. -/
def linkedDisk : Disk where
  tree :=
    { nodes := [(["data"], .directory), (["work"], .directory),
        (["work", "codes.go"], .file codesSource.toUTF8)]
      working := ["work"] }
  links := [(["work", "out"], "/data")]
  names := []
  closed _ := none
  refuses _ _ _ := none

/-- The disk with a new directory where the link leads, and a file in it. -/
def linkedDiskWith (name text : String) : Disk :=
  (linkedDisk.put ["data", "new"] .directory).put ["data", "new", name] (.file text.toUTF8)

theorem writeFile_linkedDisk {path name : String}
    (hparent : (parent? path).filter (· ≠ "") = some "out/new")
    (hpath : (linkedDisk.put ["data", "new"] .directory).resolve true path =
      .ok (.entry ["data", "new", name] false)) (text : String) :
    writeFile linkedDisk path text =
      (.ok ⟨path, text.utf8ByteSize⟩, linkedDiskWith name text) := by
  have hdir : pieces "out/new" = ["out".toList, "new".toList] := by decide
  have hmake : FileSystem.makeDirectory linkedDisk "out/new" =
      (.ok (), linkedDisk.put ["data", "new"] .directory) := by
    show linkedDisk.makeDirectory "out/new" = _
    rw [Disk.makeDirectory, Disk.resolve, hdir]
    rfl
  have hwrite : FileSystem.write (linkedDisk.put ["data", "new"] .directory) path text.toUTF8 =
      (.ok (), linkedDiskWith name text) := by
    show Disk.write _ path text.toUTF8 = _
    rw [Disk.write, hpath]
    rfl
  have hparents : makeParents linkedDisk path =
      (.ok (), linkedDisk.put ["data", "new"] .directory) := by
    rw [makeParents, hparent]
    dsimp only
    rw [makeDirectories, makeDirectoriesAlong, if_neg (by decide), hmake]
  rw [writeFile, hparents]
  dsimp only
  rw [hwrite]

/-- A job whose file goes through the link into a directory that is not there. -/
def linkedJob : LookupJob := ⟨"codes.go", some "out/new/codes_msg.go", "int", none⟩

/-- A job for a table whose file goes there too. -/
def linkedTableJob : SchemaJob := ⟨"shop", "notes", "out/new", none⟩

theorem content_linkedJob : linkedJob.content ⟨none, .none⟩ linkedDisk = .ok codesText := by
  have hsource : FileSystem.readText linkedDisk "codes.go" = .ok codesSource := by
    show linkedDisk.readText "codes.go" = _
    rw [Disk.readText, Disk.resolve]
    exact Tree.textOf_toUTF8 codesSource
  exact (linkedJob.content_eq_ok_iff _ _ _).2 (codesText_renders hsource)

theorem run_linkedJob :
    linkedJob.run ⟨none, .none⟩ linkedDisk =
      (.ok ⟨"out/new/codes_msg.go", 407⟩, linkedDiskWith "codes_msg.go" codesText) := by
  have hpath : (linkedDisk.put ["data", "new"] .directory).resolve true "out/new/codes_msg.go" =
      .ok (.entry ["data", "new", "codes_msg.go"] false) := by
    have hpieces : pieces "out/new/codes_msg.go" =
        ["out".toList, "new".toList, "codes_msg.go".toList] := by decide
    rw [Disk.resolve, hpieces]
    rfl
  have hsize : codesText.utf8ByteSize = 407 := by decide +kernel
  rw [LookupJob.run, content_linkedJob, ← hsize]
  exact writeFile_linkedDisk (by decide) hpath codesText

theorem content_linkedTableJob :
    linkedTableJob.content .record ⟨none, .none⟩ (notesServer "notes") = .ok notesText :=
  (linkedTableJob.content_eq_ok_iff _ _ _ _).2 notesText_renders

theorem run_linkedTableJob :
    linkedTableJob.run .record ⟨none, .none⟩ (notesServer "notes") linkedDisk =
      (.ok ⟨"out/new/notes.go", 204⟩, linkedDiskWith "notes.go" notesText) := by
  have hpath : (linkedDisk.put ["data", "new"] .directory).resolve true "out/new/notes.go" =
      .ok (.entry ["data", "new", "notes.go"] false) := by
    have hpieces : pieces "out/new/notes.go" =
        ["out".toList, "new".toList, "notes.go".toList] := by decide
    rw [Disk.resolve, hpieces]
    rfl
  have houtput : linkedTableJob.outputPath .record = "out/new/notes.go" := by decide
  have hsize : notesText.utf8ByteSize = 204 := by decide +kernel
  rw [SchemaJob.run, content_linkedTableJob, houtput, ← hsize]
  exact writeFile_linkedDisk (by decide) hpath notesText

/-- Both files are written where the link leads, in a new directory, and nothing else is changed. -/
theorem run_allOrNothing_linked :
    (linkedJob.run ⟨none, .none⟩ linkedDisk =
        (.ok ⟨"out/new/codes_msg.go", 407⟩, linkedDiskWith "codes_msg.go" codesText) ∧
      HoldsFile "out/new/codes_msg.go" codesText.toUTF8 linkedDisk
        (linkedDiskWith "codes_msg.go" codesText)) ∧
    linkedTableJob.run .record ⟨none, .none⟩ (notesServer "notes") linkedDisk =
        (.ok ⟨"out/new/notes.go", 204⟩, linkedDiskWith "notes.go" notesText) ∧
      HoldsFile "out/new/notes.go" notesText.toUTF8 linkedDisk
        (linkedDiskWith "notes.go" notesText) := by
  obtain ⟨hlookup, htable⟩ := run_allOrNothing ⟨none, .none⟩ (notesServer "notes") linkedDisk
  refine ⟨⟨run_linkedJob, ?_⟩, run_linkedTableJob, ?_⟩
  · obtain ⟨text, hrenders, -, -, hholds⟩ :=
      (hlookup linkedJob).written _ (congrArg Prod.fst run_linkedJob)
    rw [← LookupJob.content_eq_ok_iff, content_linkedJob] at hrenders
    obtain rfl := Except.ok.inj hrenders
    rw [run_linkedJob] at hholds
    exact hholds
  · obtain ⟨text, hrenders, -, -, hholds⟩ :=
      (htable linkedTableJob .record).written _ (congrArg Prod.fst run_linkedTableJob)
    rw [← SchemaJob.content_eq_ok_iff, content_linkedTableJob] at hrenders
    obtain rfl := Except.ok.inj hrenders
    rw [run_linkedTableJob] at hholds
    exact hholds

/-! ## Runs in a tree -/

/-- What was rendered is put where the path leads in a tree that has kept its directories. -/
theorem exists_put_of_writeRendered {t t' : Tree} {path : String} {rendered : Except Failure String}
    {file : GeneratedFile} (h : writeRendered t path rendered = (.ok file, t')) :
    ∃ text t₁ l, rendered = .ok text ∧ GainsAbove path t t₁ ∧
      t₁.resolve path = .ok (.entry l false) ∧ t₁.at? l ≠ some .directory ∧
      file = ⟨path, text.utf8ByteSize⟩ ∧ t' = t₁.put l (.file text.toUTF8) := by
  obtain ⟨text, t₁, hrendered, hgains, hwrite, hfile⟩ := exists_write_of_writeRendered h
  rcases t₁.write_cases path text.toUTF8 with ⟨e, hfail⟩ | ⟨l, hresolve, hl, hdone⟩
  · cases hfail.symm.trans hwrite
  · obtain ⟨-, hput⟩ := Prod.mk.inj (hdone.symm.trans hwrite)
    exact ⟨text, t₁, l, hrendered, hgains, hresolve, hl, hfile, hput.symm⟩

/-- The directories above a path that leads somewhere are there. -/
theorem makeParents_of_resolve {t : Tree} {path : String} {target : Tree.Target}
    (h : t.resolve path = .ok target) : makeParents t path = (.ok (), t) := by
  unfold makeParents
  split
  · rfl
  rename_i dir hdir
  obtain ⟨hparent, hne⟩ := Option.filter_eq_some_iff.1 hdir
  obtain ⟨rest, hbelow, hrest⟩ := exists_below_of_parent hparent (by simpa using hne)
  obtain ⟨d, hdirectory, -⟩ := hbelow.exists_leadsTo hrest h
  have hmake : makeDirectories t dir = (.ok (), t) := Tree.makeDirectories_of_isDirectory hdirectory
  rw [hmake]

/-- Where a path leads to a file or to nothing yet, the file is written and nothing else changes. -/
theorem writeFile_of_resolve {t : Tree} {path : String} {l : Location}
    (hresolve : t.resolve path = .ok (.entry l false)) (hl : t.at? l ≠ some .directory)
    (content : String) :
    writeFile t path content =
      (.ok ⟨path, content.utf8ByteSize⟩, t.put l (.file content.toUTF8)) := by
  have hwrite : FileSystem.write t path content.toUTF8 =
      (.ok (), t.put l (.file content.toUTF8)) := by
    show t.write path content.toUTF8 = _
    rw [Tree.write, hresolve]
    dsimp only
    rw [if_neg]
    cases hat : t.at? l with
    | none => simp
    | some n =>
      cases n with
      | directory => exact absurd hat hl
      | file _ => simp [Node.isDirectory]
  rw [writeFile, makeParents_of_resolve hresolve]
  dsimp only
  rw [hwrite]

end Scribe
