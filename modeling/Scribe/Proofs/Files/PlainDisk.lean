import Scribe.Proofs.Generate

/-!
# Disks without links

A tree is a disk on which there are no links, no further names and no refusals.  Each single
operation answers the same on both (`Disk.ofTree_agrees`), and that is enough for all that is made
of them: a run on the disk ends as the run on its tree does (`LookupJob.run_ofTree`,
`SchemaJob.run_ofTree`).
-/

namespace Scribe

open Scribe.Files

namespace Files

/-! ## Operations that answer the same -/

/-- A map between file systems under which every operation answers the same. -/
structure Agrees {σ τ : Type} [FileSystem σ] [FileSystem τ] (f : σ → τ) : Prop where
  readText : ∀ s path, FileSystem.readText (f s) path = FileSystem.readText s path
  isDirectory : ∀ s path, FileSystem.isDirectory (f s) path = FileSystem.isDirectory s path
  makeDirectory : ∀ s path,
    FileSystem.makeDirectory (f s) path = (FileSystem.makeDirectory s path).map id f
  write : ∀ s path content,
    FileSystem.write (f s) path content = (FileSystem.write s path content).map id f

namespace Agrees

variable {σ τ : Type} [FileSystem σ] [FileSystem τ] {f : σ → τ}

theorem makeDirectoriesAlong (h : Agrees f) (s : σ) (paths : List String) :
    Files.makeDirectoriesAlong (f s) paths = (Files.makeDirectoriesAlong s paths).map id f := by
  induction paths with
  | nil => rfl
  | cons path above ih =>
    rw [Files.makeDirectoriesAlong, Files.makeDirectoriesAlong, h.makeDirectory, ih]
    by_cases hpath : path = ""
    · rw [if_pos hpath, if_pos hpath]
      rfl
    rw [if_neg hpath, if_neg hpath]
    obtain ⟨outcome, s'⟩ := FileSystem.makeDirectory s path
    cases outcome with
    | ok _ => rfl
    | error e =>
      cases e with
      | notFound =>
        obtain ⟨outcome, s'⟩ := Files.makeDirectoriesAlong s above
        cases outcome with
        | error e => rfl
        | ok _ =>
          dsimp only [Prod.map, id]
          rw [h.makeDirectory]
          obtain ⟨outcome, s''⟩ := FileSystem.makeDirectory s' path
          cases outcome with
          | ok _ => rfl
          | error e =>
            dsimp only [Prod.map, id]
            rw [h.isDirectory]
      | _ =>
        dsimp only [Prod.map, id]
        rw [h.isDirectory]

theorem makeParents (h : Agrees f) (s : σ) (path : String) :
    Scribe.makeParents (f s) path = (Scribe.makeParents s path).map id f := by
  rw [Scribe.makeParents, Scribe.makeParents]
  cases (parent? path).filter (· ≠ "") with
  | none => rfl
  | some dir =>
    dsimp only
    rw [makeDirectories, makeDirectories, h.makeDirectoriesAlong]
    obtain ⟨outcome, s'⟩ := Files.makeDirectoriesAlong s (dir :: ancestors dir dir.length)
    cases outcome <;> rfl

theorem writeRendered (h : Agrees f) (s : σ) (path : String) (rendered : Except Failure String) :
    Scribe.writeRendered (f s) path rendered =
      (Scribe.writeRendered s path rendered).map id f := by
  cases rendered with
  | error e => rfl
  | ok text =>
    rw [Scribe.writeRendered, Scribe.writeRendered, writeFile, writeFile, h.makeParents]
    obtain ⟨outcome, s'⟩ := Scribe.makeParents s path
    cases outcome with
    | error e => rfl
    | ok _ =>
      dsimp only [Prod.map, id]
      rw [h.write]
      obtain ⟨outcome, s''⟩ := FileSystem.write s' path text.toUTF8
      cases outcome <;> rfl

end Agrees

/-! ## Trees as disks -/

namespace Disk

variable (t : Tree)

@[simp] theorem tree_ofTree : (ofTree t).tree = t := rfl

@[simp] theorem links_ofTree : (ofTree t).links = [] := rfl

@[simp] theorem keptAt_ofTree (l : Location) : (ofTree t).keptAt l = l := rfl

@[simp] theorem closed_ofTree (l : Location) : (ofTree t).closed l = none := rfl

@[simp] theorem refuses_ofTree (a : Access) (t' : Tree) (l : Location) :
    (ofTree t).refuses a t' l = none := rfl

@[simp] theorem put_ofTree (l : Location) (n : Node) :
    (ofTree t).put l n = ofTree (t.put l n) := rfl

theorem walk_ofTree (through : Bool)
    (again : Location → List (List Char) → Except FileFault Tree.Target) (l : Location)
    (ps : List (List Char)) : (ofTree t).walk through again l ps = t.follow l ps := by
  induction ps generalizing l with
  | nil => rfl
  | cons piece rest ih =>
    have hlast : (rest.any fun q => q ≠ []) = !rest.all fun q => q = [] := by
      simp [List.not_all_eq_any_not]
    rw [walk, Tree.follow, hlast, tree_ofTree]
    by_cases hempty : piece = []
    · rw [if_pos hempty, if_pos (by simp [hempty]), hempty, Tree.enter_nil]
      exact ih l
    by_cases hdots : (piece = ['.'] || piece = ['.', '.']) = true
    · have hin : (piece = [] || piece = ['.'] || piece = ['.', '.'] ||
          !rest.all fun q => q = []) = true := by
        rw [Bool.or_assoc (decide (piece = [])), hdots, Bool.or_true, Bool.true_or]
      rw [if_neg hempty, if_pos hin]
      simp only [closed_ofTree, if_pos hdots]
      cases t.enter l piece with
      | error e => rfl
      | ok l => exact ih l
    · have hname : (piece = [] || piece = ['.'] || piece = ['.', '.']) = false := by
        simpa [hempty] using hdots
      rw [Bool.not_eq_true] at hdots
      simp only [hname, hdots, if_neg hempty, closed_ofTree, links_ofTree, List.lookup_nil,
        keptAt_ofTree, Bool.false_or]
      cases rest.all fun q => q = [] with
      | true => simp
      | false =>
        cases t.enter l piece with
        | error e => rfl
        | ok l => exact ih l

theorem resolve_ofTree (through : Bool) (path : String) :
    (ofTree t).resolve through path = t.resolve path := by
  rw [resolve, Tree.resolve]
  cases Tree.pathFault? path with
  | some e => rfl
  | none => exact walk_ofTree t through _ _ _

/-- **A disk that adds nothing to a tree does what the tree does.** -/
theorem ofTree_agrees : Agrees ofTree where
  readText t path := by
    show (ofTree t).readText path = t.readText path
    rw [readText, Tree.readText, Tree.readBytes, resolve_ofTree, tree_ofTree]
    rcases t.resolve path with e | l | ⟨l, slash⟩
    · rfl
    · rfl
    · cases hat : t.at? l with
      | none => simp only [hat]
      | some n => cases n <;> cases slash <;> simp only [hat] <;> rfl
  isDirectory t path := by
    show (ofTree t).isDirectory path = t.isDirectory path
    rw [isDirectory, Tree.isDirectory, Tree.node?, resolve_ofTree, tree_ofTree]
    rcases t.resolve path with e | l | ⟨l, slash⟩
    · rfl
    · rfl
    · cases hat : t.at? l with
      | none => simp only [hat]
      | some n => cases n <;> cases slash <;> simp only [hat] <;> rfl
  makeDirectory t path := by
    show (ofTree t).makeDirectory path = (t.makeDirectory path).map id ofTree
    rw [makeDirectory, Tree.makeDirectory, resolve_ofTree, tree_ofTree]
    rcases t.resolve path with e | l | ⟨l, slash⟩
    · rfl
    · rfl
    · cases hsome : (t.at? l).isSome <;> simp [hsome]
  write t path content := by
    show (ofTree t).write path content = (t.write path content).map id ofTree
    rw [write, Tree.write, resolve_ofTree, tree_ofTree]
    rcases t.resolve path with e | l | ⟨l, slash⟩
    · rfl
    · rfl
    · cases hin : (slash || (t.at? l).any Node.isDirectory) <;> simp [hin]

end Disk

end Files

/-! ## Runs -/

/-- A job ends on a disk that adds nothing as it does on the tree. -/
theorem LookupJob.run_ofTree (job : LookupJob) (r : Renderer) (t : Tree) :
    job.run r (Disk.ofTree t) = (job.run r t).map id Disk.ofTree := by
  have hcontent : job.content r (Disk.ofTree t) = job.content r t := by
    rw [content, content, Disk.ofTree_agrees.readText]
  rw [run, run, hcontent, Disk.ofTree_agrees.writeRendered]

theorem SchemaJob.run_ofTree (job : SchemaJob) (output : TableOutput) (r : Renderer)
    (server : Schema.Server) (t : Tree) :
    job.run output r server (Disk.ofTree t) = (job.run output r server t).map id Disk.ofTree :=
  Disk.ofTree_agrees.writeRendered t _ _

end Scribe
