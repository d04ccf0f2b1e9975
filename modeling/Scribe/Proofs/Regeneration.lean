import Scribe.Proofs.Generate

/-!
# Generating again

What a run for a lookup file writes is what the renderer makes of its source file, so a second run
writes what is there already if the renderer makes the same of it then (`run_again`), unless the
first has written over the source.  Without an output path of its own a job never does: the path for
its file leads to another name in the directory of the source (`resolve_messagePath`), however the
path of the source is spelled.

A renderer without a template for lookup files makes the same of a source at every moment.  One with
such a template need not, and then a second run writes another file (`run_again_clock`).
-/

namespace Scribe

open Scribe.Files

namespace Files

variable {t t' : Tree} {input : String} {source target : Location}

/-! ## The path beside a source -/

theorem exists_stem (input : String) : ∃ stem ext, input.toList = stem ++ ext ∧
    (ext = ".go".toList ∨ ext = []) ∧ (messagePath input).toList = stem ++ "_msg.go".toList := by
  by_cases hgo : ".go".toList.isSuffixOf input.toList
  · obtain ⟨stem, hstem⟩ := List.isSuffixOf_iff_suffix.1 hgo
    refine ⟨stem, ".go".toList, hstem.symm, .inl rfl, ?_⟩
    rw [messagePath, if_pos hgo, ← hstem]
    simp
  · refine ⟨input.toList, [], by simp, .inr rfl, ?_⟩
    rw [messagePath, if_neg hgo]
    simp

/-- The path for a lookup file differs from that of the source in the last piece. -/
theorem exists_pieces_messagePath (input : String) :
    ∃ ps piece piece', pieces input = ps ++ [piece] ∧ pieces (messagePath input) = ps ++ [piece'] ∧
      piece ≠ piece' ∧ Tree.IsName piece' := by
  obtain ⟨stem, ext, hinput, hext, hmessage⟩ := exists_stem input
  obtain ⟨ps, last, -, hlast⟩ := exists_last_piece stem
  refine ⟨ps, last ++ ext, last ++ "_msg.go".toList, ?_, ?_, ?_,
    Tree.isName_of_length (by simp)⟩
  · rw [pieces_eq_splitOn, hinput, hlast]
    rcases hext with rfl | rfl <;> decide
  · rw [pieces_eq_splitOn, hmessage, hlast]
    decide
  · rw [ne_eq, List.append_right_inj]
    rcases hext with rfl | rfl <;> decide

theorem base_messagePath (t : Tree) (input : String) : t.base (messagePath input) = t.base input := by
  obtain ⟨stem, ext, hinput, hext, hmessage⟩ := exists_stem input
  have habsolute : isAbsolute (messagePath input) = isAbsolute input := by
    rw [isAbsolute, isAbsolute, hmessage, hinput]
    cases stem with
    | nil => rcases hext with rfl | rfl <;> decide
    | cons c stem => simp
  rw [Tree.base, Tree.base, habsolute]

/-- The path for the file of a source leads to another name in the same directory, and it leads
there before the file is written. -/
theorem resolve_messagePath (hkeeps : t.KeepsDirectories t')
    (hsource : t.resolve input = .ok (.entry source false))
    (htarget : t'.resolve (messagePath input) = .ok (.entry target false)) :
    t.resolve (messagePath input) = .ok (.entry target false) ∧
      ∃ dir name name', source = dir ++ [name] ∧ target = dir ++ [name'] ∧ name ≠ name' := by
  obtain ⟨ps, piece, piece', hpieces, hpieces', hne, hname⟩ := exists_pieces_messagePath input
  obtain ⟨-, hfollow⟩ := Tree.resolve_eq_ok_iff.1 hsource
  obtain ⟨hpath, hfollow'⟩ := Tree.resolve_eq_ok_iff.1 htarget
  have hrest : ∃ q ∈ [piece'], q ≠ [] := ⟨piece', by simp, hname.1⟩
  rw [hpieces] at hfollow
  obtain ⟨before, last, dir, hsplit, -, hwalk, rfl⟩ := Tree.exists_last_of_follow hfollow
  obtain ⟨rfl, rfl⟩ := List.append_singleton_inj.1 hsplit
  have hbase : t'.base input = t.base input := by
    rw [Tree.base, Tree.base, hkeeps.working]
  rw [base_messagePath, hbase, hpieces', Tree.follow_append ps hrest] at hfollow'
  obtain ⟨dir', hwalk', hlast⟩ := hfollow'
  obtain rfl : dir = dir' :=
    Except.ok.inj ((Tree.foldlM_enter_mono hkeeps hwalk).symm.trans hwalk')
  obtain ⟨hshort, htarget⟩ := (Tree.follow_name hname).1 hlast
  obtain ⟨rfl, -⟩ := Tree.Target.entry.inj htarget
  refine ⟨?_, dir, _, _, rfl, rfl, fun hsame => hne (String.ofList_injective hsame)⟩
  rw [Tree.resolve_eq_ok_iff, base_messagePath, hpieces', Tree.follow_append ps hrest]
  exact ⟨hpath, dir, hwalk, (Tree.follow_name hname).2 ⟨hshort, rfl⟩⟩

end Files

/-! ## Rendering at another moment -/

/-- The template for lookup files, if there is one, makes at a moment what it makes now. -/
def Renderer.IsSteadyAt (r : Renderer) (moment : Nat) : Prop :=
  ∀ e ∈ r.overrides, e.has DocumentKind.lookup.templateFile →
    e.textAt moment DocumentKind.lookup.templateFile =
      e.textAt e.moment DocumentKind.lookup.templateFile

theorem Renderer.template?_atMoment {r : Renderer} {moment : Nat} (h : r.IsSteadyAt moment) :
    (r.atMoment moment).template? .lookup = r.template? .lookup := by
  cases hoverrides : r.overrides with
  | none => rw [template?, template?, atMoment, hoverrides, Option.map_none]
  | some e =>
    rw [template?, template?, atMoment, hoverrides, Option.map_some, Option.bind_some,
      Option.bind_some, Engine.find?, Engine.find?]
    by_cases hhas : e.has DocumentKind.lookup.templateFile
    · have hhas' : (e.atMoment moment).has DocumentKind.lookup.templateFile := hhas
      rw [if_pos hhas, if_pos hhas']
      exact congrArg some (h e hoverrides hhas)
    · have hhas' : ¬ (e.atMoment moment).has DocumentKind.lookup.templateFile := hhas
      rw [if_neg hhas, if_neg hhas']

/-- A renderer that is steady makes the same of a lookup file. -/
theorem Renderer.render_atMoment {r : Renderer} {moment : Nat} (h : r.IsSteadyAt moment)
    (f : Document.LookupFile) : (r.atMoment moment).render (.lookup f) = r.render (.lookup f) := by
  have hkind : (AnyDocument.lookup f).kind = .lookup := rfl
  rw [render, render, draft, draft, hkind, template?_atMoment h]
  rfl

/-! ## Writing again -/

/-- Writing at a place where a text was put changes nothing if and only if it is this text. -/
theorem writeRendered_put_iff {t : Tree} {path : String} {target : Location}
    (hresolve : t.resolve path = .ok (.entry target false)) (hl : t.at? target ≠ some .directory)
    (text : String) (rendered : Except Failure String) :
    writeRendered (t.put target (.file text.toUTF8)) path rendered =
        (.ok ⟨path, text.utf8ByteSize⟩, t.put target (.file text.toUTF8)) ↔
      rendered = .ok text := by
  have hthere := Tree.resolve_mono (Tree.KeepsDirectories.put hl (.file text.toUTF8)) hresolve
  have hat (content : ByteArray) :
      (t.put target (.file content)).at? target = some (.file content) := by
    rw [Tree.at?_put t (Tree.ne_root hl), if_pos rfl]
  cases rendered with
  | error e => simp [writeRendered]
  | ok text' =>
    have hwrite := writeFile_of_resolve hthere (by simp [hat]) text'
    rw [writeRendered, hwrite, Tree.put_put, Except.ok.injEq]
    constructor
    · intro hsame
      have hnode := congrArg (·.2.at? target) hsame
      dsimp only at hnode
      rw [hat, hat] at hnode
      exact String.toByteArray_inj.1 (Node.file.inj (Option.some.inj hnode))
    · rintro rfl
      rfl

/-! ## Runs for lookup files -/

namespace LookupJob

variable {job : LookupJob} {r : Renderer} {t t' : Tree} {file : GeneratedFile}

/-- A job that has read its source renders what the source says. -/
theorem content_of_readText {source : String} {f : Document.LookupFile}
    (hread : t.readText job.input = .ok source) (hf : job.document source = .ok f) (r : Renderer) :
    job.content r t = r.render (.lookup f) := by
  have hsource : FileSystem.readText t job.input = .ok source := hread
  rw [content, hsource]
  simp only [hf]

/-- A job that has a text has read its source. -/
theorem exists_document {text : String} (h : job.content r t = .ok text) :
    ∃ source f, t.readText job.input = .ok source ∧ job.document source = .ok f := by
  obtain ⟨source, c, package, hread, hconstants, hpackage, -⟩ :=
    (job.content_eq_ok_iff r t text).1 h
  refine ⟨source, .ofComments package job.constType c.comments, hread, ?_⟩
  rw [document, hconstants]
  simp only [hpackage]

/-- **A lookup file is generated beside its source, and generated again as it is if the same text is
rendered again.**  Nothing but the file is written by the first run.  A second run at some moment
leaves everything as it is if and only if the renderer makes the same text of the source then, which
it does if its template for lookup files is steady or if it has none. -/
theorem run_again (houtput : job.output = none) (h : job.run r t = (.ok file, t')) :
    ∃ dir name name' content source f text, name ≠ name' ∧
      t.resolve job.input = .ok (.entry (dir ++ [name]) false) ∧
      t'.resolve job.input = .ok (.entry (dir ++ [name]) false) ∧
      t'.resolve file.path = .ok (.entry (dir ++ [name']) false) ∧
      t.at? (dir ++ [name]) = some (.file content) ∧
      t'.at? (dir ++ [name]) = some (.file content) ∧
      t.readText job.input = .ok source ∧ job.document source = .ok f ∧
      r.render (.lookup f) = .ok text ∧
      t' = t.put (dir ++ [name']) (.file text.toUTF8) ∧
      file = ⟨messagePath job.input, text.toUTF8.size⟩ ∧
      (∀ moment, job.run (r.atMoment moment) t' = (.ok file, t') ↔
        (r.atMoment moment).render (.lookup f) = .ok text) ∧
      ∀ moment, r.IsSteadyAt moment → job.run (r.atMoment moment) t' = (.ok file, t') := by
  have hpath : messagePath job.input = job.outputPath := by
    rw [outputPath, houtput]
    rfl
  obtain ⟨text, t₁, target, hcontent, ⟨steps, hgains⟩, hresolve, hdirectory, rfl, -⟩ :=
    exists_put_of_writeRendered h
  have hkeeps := Tree.keepsDirectories_of_gains hgains
  obtain ⟨source, f, hread, hf⟩ := exists_document hcontent
  obtain ⟨l, content, hsource, hat⟩ := Tree.exists_of_readText hread
  obtain ⟨htarget, dir, name, name', rfl, rfl, hne⟩ :=
    resolve_messagePath hkeeps hsource (hpath ▸ hresolve)
  rw [hpath] at htarget
  have hnew : t.at? (dir ++ [name']) ≠ some .directory := by
    intro hold
    exact hdirectory (hkeeps.directory _ hold)
  have hput := Tree.KeepsDirectories.put hnew (.file text.toUTF8)
  have hdiffer : dir ++ [name] ≠ dir ++ [name'] := by simpa using hne
  obtain rfl : t.put (dir ++ [name']) (.file text.toUTF8) = t' := by
    rw [run, hcontent, writeRendered, writeFile_of_resolve htarget hnew] at h
    exact (Prod.mk.inj h).2
  have hrender := hcontent
  rw [content_of_readText hread hf] at hrender
  have hread' := (Tree.readText_put hsource hat hnew hdiffer text.toUTF8).trans hread
  have hagain (moment : Nat) :
      job.run (r.atMoment moment) (t.put (dir ++ [name']) (.file text.toUTF8)) =
        (.ok ⟨job.outputPath, text.utf8ByteSize⟩, t.put (dir ++ [name']) (.file text.toUTF8)) ↔
      (r.atMoment moment).render (.lookup f) = .ok text := by
    rw [run, content_of_readText hread' hf]
    exact writeRendered_put_iff htarget hnew text _
  refine ⟨dir, name, name', content, source, f, text, hne, hsource, Tree.resolve_mono hput hsource,
    Tree.resolve_mono hput htarget, hat, ?_, hread, hf, hrender, rfl, ?_, hagain, ?_⟩
  · rw [Tree.at?_put t (Tree.ne_root hnew), if_neg hdiffer, hat]
  · rw [hpath]
    rfl
  · intro moment hsteady
    rw [hagain, Renderer.render_atMoment hsteady, hrender]

/-- A source in a directory of its own, for a job that is run there. -/
def codesTree : Tree where
  nodes := [(["work"], .directory), (["work", "codes.go"], .file codesSource.toUTF8)]
  working := ["work"]

def codesJob : LookupJob := ⟨"codes.go", none, "int", none⟩

theorem readText_codesTree : codesTree.readText "codes.go" = .ok codesSource := by
  have hbytes : codesTree.readBytes "codes.go" = .ok codesSource.toUTF8 := rfl
  rw [Tree.readText, hbytes]
  exact Tree.textOf_toUTF8 codesSource

/-- A text for that source is put beside it. -/
theorem run_codes {text : String} (hcontent : codesJob.content r t = .ok text)
    (hresolve : t.resolve "codes_msg.go" = .ok (.entry ["work", "codes_msg.go"] false))
    (hl : t.at? ["work", "codes_msg.go"] ≠ some .directory) :
    codesJob.run r t = (.ok ⟨"codes_msg.go", text.utf8ByteSize⟩,
      t.put ["work", "codes_msg.go"] (.file text.toUTF8)) := by
  have hpath : codesJob.outputPath = "codes_msg.go" := by decide
  rw [run, hcontent, hpath]
  exact writeFile_of_resolve hresolve hl text

theorem run_again_codes : ∃ t', codesJob.run ⟨none, .none⟩ codesTree =
      (.ok ⟨"codes_msg.go", 407⟩, t') ∧
    t'.at? ["work", "codes_msg.go"] = some (.file codesText.toUTF8) ∧
    t'.at? ["work", "codes.go"] = some (.file codesSource.toUTF8) ∧
    codesJob.run (Renderer.atMoment ⟨none, .none⟩ 1) t' = (.ok ⟨"codes_msg.go", 407⟩, t') := by
  have hcontent := (codesJob.content_eq_ok_iff ⟨none, .none⟩ codesTree codesText).2
    (codesText_renders readText_codesTree)
  have hsize : codesText.utf8ByteSize = 407 := by decide +kernel
  have hrun := run_codes hcontent rfl nofun
  rw [hsize] at hrun
  obtain ⟨-, -, -, -, -, -, -, -, -, -, -, -, -, -, -, -, -, -, -, hsteady⟩ := run_again rfl hrun
  exact ⟨_, hrun, rfl, rfl, hsteady 1 nofun⟩

/-- An engine whose template for lookup files says what moment it is. -/
def clockEngine : Engine where
  has := (· = "constants.go.tera")
  textAt moment _ _ := .ok (toString moment)
  moment := 0

theorem content_clock (moment : Nat) (hread : t.readText "codes.go" = .ok codesSource) :
    codesJob.content (Renderer.atMoment ⟨some clockEngine, .none⟩ moment) t =
      .ok (toString moment) := by
  obtain ⟨source, f, hsource, hf⟩ := exists_document ((codesJob.content_eq_ok_iff ⟨none, .none⟩ t
    codesText).2 (codesText_renders hread))
  rw [content_of_readText hsource hf]
  rfl

/-- With that engine a second run, one moment later, writes another file. -/
theorem run_again_clock : codesJob.output = none ∧ ∃ t' t'',
    codesJob.run ⟨some clockEngine, .none⟩ codesTree = (.ok ⟨"codes_msg.go", 1⟩, t') ∧
    codesJob.run (Renderer.atMoment ⟨some clockEngine, .none⟩ 1) t' =
      (.ok ⟨"codes_msg.go", 1⟩, t'') ∧
    t'.at? ["work", "codes_msg.go"] = some (.file "0".toUTF8) ∧
    t''.at? ["work", "codes_msg.go"] = some (.file "1".toUTF8) ∧ t'' ≠ t' := by
  have hnone : codesTree.at? ["work", "codes_msg.go"] ≠ some .directory := nofun
  have hsource : codesTree.resolve "codes.go" = .ok (.entry ["work", "codes.go"] false) := rfl
  have hread := (Tree.readText_put hsource rfl hnone (by decide) "0".toUTF8).trans
    readText_codesTree
  have hfirst := run_codes (content_clock 0 readText_codesTree) rfl hnone
  have hsecond := run_codes (content_clock 1 hread) rfl nofun
  refine ⟨rfl, _, _, hfirst, hsecond, rfl, rfl, ?_⟩
  intro hsame
  have hfile := congrArg (·.at? ["work", "codes_msg.go"]) hsame
  have htext : "1".toUTF8 = "0".toUTF8 := Node.file.inj (Option.some.inj hfile)
  exact absurd (String.toByteArray_inj.1 htext) (by decide)

end LookupJob

end Scribe
