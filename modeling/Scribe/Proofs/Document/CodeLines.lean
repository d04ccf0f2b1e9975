import Mathlib
import Scribe.Proofs.Document.Lines
import Scribe.Proofs.Layout.Braces
import Scribe.Render

/-!
# Lines of generated files

What the generated source files have in common.  Most of their lines are empty lines, remarks, lines
without anything from outside, and lines with one name in fixed text; each comes with its characters
and with the tokens that it has once it is laid out.  Inside braces there is one line for each item
(`IsItem`), a field or an entry.

A file's own text is a list of lines joined by line feeds.  It is the source of a sheet as soon as
its lines are those of the sheet (`toList_joinLines_sheet`), and the sheet says what the layout
makes of it (`render_default`).
-/

namespace Scribe.Document

open Scribe.Text Scribe.Source

/-! ## Lines -/

/-- An identifier or keyword that is written in the file's form. -/
def name (s : String) : Face := .word s.toList

/-- The line without anything on it. -/
def emptyLine : CodeLine where
  tabs := 0
  text := []
  faces := []
  spells := .nil
  starts := rfl

/-- A remark on a line of its own. -/
def remarkLine (body : List Char) (h : '\n' ∉ body) : CodeLine where
  tabs := 0
  text := [] ++ '/' :: '/' :: body
  faces := [(.lineComment, '/' :: '/' :: body)]
  spells := .remark (by rfl) h
  starts := rfl

/-- A remark with nothing from outside. -/
def fixedRemark (body : String) (h : '\n' ∉ body.toList := by decide) : CodeLine :=
  remarkLine body.toList h

/-- A line with nothing from outside. -/
def fixedLine (tabs : Nat) (text : String) (faces : List Face)
    (spells : Spells text.toList faces '\n' := by exact .fixedEnd (by cbv) (by decide))
    (starts : text.toList.head?.all (!isBlank ·) := by decide) : CodeLine where
  tabs := tabs
  text := text.toList
  faces := faces
  spells := spells
  starts := starts

/-- A line with a closing brace. -/
def closeLine (tabs : Nat) : CodeLine := fixedLine tabs "\x7d" [.mark '}']

/-- The blank before a name, if there is one. -/
def gapIf (spaced : Bool) : List Char := if spaced then [' '] else []

@[simp] theorem gapIf_true : gapIf true = [' '] := rfl

@[simp] theorem gapIf_false : gapIf false = [] := rfl

theorem isGap_gapIf (spaced : Bool) : (gapIf spaced).all isGap := by
  cases spaced <;> rfl

/-- A line with one name from outside, between a text and another. -/
def nameLine (before : String) (spaced : Bool) (word : List Char) (after : String) (h : IsWord word)
    (facesBefore facesAfter : List Face)
    (spellsBefore : Spells before.toList facesBefore
      ((gapIf spaced ++ word ++ after.toList).headD '\n') :=
      by exact .fixed (by cbv) (by decide) rfl)
    (stops : continuesIdent (after.toList.headD '\n') = false := by decide)
    (spellsAfter : Spells after.toList facesAfter '\n' := by exact .fixedEnd (by cbv) (by decide))
    (starts : before.toList.head?.any (!isBlank ·) := by decide) : CodeLine where
  tabs := 0
  text := before.toList ++ (gapIf spaced ++ word ++ after.toList)
  faces := facesBefore ++ ([.word word] ++ facesAfter)
  spells := spellsBefore.append
    ((Spells.word h.fits (isGap_gapIf spaced) stops).append spellsAfter)
  starts := by
    cases hbefore : before.toList with
    | nil => simp [hbefore] at starts
    | cons c rest => simpa [hbefore] using starts

/-- The package clause. -/
def packageLine (package : List Char) (h : IsWord package) : CodeLine :=
  nameLine "package" true package "" h [name "package"] []

/-! ### Their characters -/

section
variable {body : List Char} {tabs : Nat} {text : String} {faces : List Face}
  {spells : Spells text.toList faces '\n'} {starts : text.toList.head?.all (!isBlank ·)}

@[simp] theorem chars_emptyLine : emptyLine.chars = [] := rfl

@[simp] theorem chars_remarkLine (h : '\n' ∉ body) :
    (remarkLine body h).chars = '/' :: '/' :: body := rfl

@[simp] theorem chars_fixedRemark (h : '\n' ∉ text.toList) :
    (fixedRemark text h).chars = '/' :: '/' :: text.toList := rfl

@[simp] theorem chars_fixedLine : (fixedLine tabs text faces spells starts).chars =
    List.replicate tabs '\t' ++ text.toList := rfl

@[simp] theorem chars_closeLine :
    (closeLine tabs).chars = List.replicate tabs '\t' ++ ['}'] := rfl

/-! ### Their tokens -/

@[simp] theorem laidFaces_emptyLine : emptyLine.laidFaces = [] := rfl

@[simp] theorem laidFaces_remarkLine (h : '\n' ∉ body) :
    (remarkLine body h).laidFaces = [(.lineComment, trimEnd ('/' :: '/' :: body))] := rfl

@[simp] theorem laidFaces_fixedRemark (h : '\n' ∉ text.toList) :
    (fixedRemark text h).laidFaces =
      [(.lineComment, trimEnd ('/' :: '/' :: text.toList))] := rfl

@[simp] theorem laidFaces_fixedLine : (fixedLine tabs text faces spells starts).laidFaces =
    faces.map CodeLine.layFace := rfl

@[simp] theorem laidFaces_closeLine : (closeLine tabs).laidFaces = [.mark '}'] := rfl

end

section
variable {before after : String} {spaced : Bool} {word : List Char} {h : IsWord word}
  {facesBefore facesAfter : List Face}
  {spellsBefore : Spells before.toList facesBefore
    ((gapIf spaced ++ word ++ after.toList).headD '\n')}
  {stops : continuesIdent (after.toList.headD '\n') = false}
  {spellsAfter : Spells after.toList facesAfter '\n'}
  {starts : before.toList.head?.any (!isBlank ·)}

@[simp] theorem chars_nameLine :
    (nameLine before spaced word after h facesBefore facesAfter spellsBefore stops spellsAfter
      starts).chars = before.toList ++ (gapIf spaced ++ word ++ after.toList) := rfl

@[simp] theorem laidFaces_nameLine :
    (nameLine before spaced word after h facesBefore facesAfter spellsBefore stops spellsAfter
      starts).laidFaces = (facesBefore ++ ([Face.word word] ++ facesAfter)).map
      CodeLine.layFace := rfl

end

@[simp] theorem chars_packageLine {package : List Char} (h : IsWord package) :
    (packageLine package h).chars = "package".toList ++ ' ' :: package := by
  rw [packageLine, chars_nameLine]
  simp

@[simp] theorem laidFaces_packageLine {package : List Char} (h : IsWord package) :
    (packageLine package h).laidFaces = [name "package", .word package] := rfl

/-! ## One line for each item -/

/-- The line of an item that stands inside braces, is written as `line` and has the tokens `faces`
once it is laid out. -/
structure IsItem (line : String) (faces : List Face) (l : CodeLine) : Prop where
  tabs : l.tabs = 1
  chars : l.chars = line.toList
  laidFaces : l.laidFaces = faces

section
variable {α : Type} {line : α → String} {faces : α → List Face} {xs : List α} {ls : List CodeLine}

theorem exists_item (h : List.Forall₂ (fun x => IsItem (line x) (faces x)) xs ls) :
    ∀ l ∈ ls, ∃ x, IsItem (line x) (faces x) l := by
  induction h with
  | nil => simp
  | cons hx _ ih => exact List.forall_mem_cons.2 ⟨⟨_, hx⟩, ih⟩

theorem map_chars_items (h : List.Forall₂ (fun x => IsItem (line x) (faces x)) xs ls) :
    (xs.map line).map String.toList = ls.map CodeLine.chars := by
  induction h with
  | nil => rfl
  | cons hx _ ih => rw [List.map_cons, List.map_cons, List.map_cons, ih, hx.chars]

theorem map_laidFaces_items (h : List.Forall₂ (fun x => IsItem (line x) (faces x)) xs ls) :
    ls.map CodeLine.laidFaces = xs.map faces := by
  induction h with
  | nil => rfl
  | cons hx _ ih => rw [List.map_cons, List.map_cons, ih, hx.laidFaces]

/-- Items without brackets are in place. -/
theorem inside_items (h : List.Forall₂ (fun x => IsItem (line x) (faces x)) xs ls)
    (hne : ∀ x, faces x ≠ []) (hfaces : ∀ x, ∀ f ∈ faces x, f.1 ≠ .newline ∧ (f.on 0).NoBracket) :
    ∀ l ∈ ls, l.faces ≠ [] ∧ l.tabs = [Bracket.curly].length ∧
      ∀ f ∈ l.faces, (f.on 0).NoBracket := by
  intro l hl
  obtain ⟨x, hx⟩ := exists_item h l hl
  have hlaid := hx.laidFaces
  refine ⟨?_, hx.tabs, ?_⟩
  · intro hnil
    rw [CodeLine.laidFaces, hnil] at hlaid
    exact hne x hlaid.symm
  · intro f hf
    have hmem : CodeLine.layFace f ∈ faces x := hlaid ▸ List.mem_map_of_mem hf
    exact CodeLine.noBracket_layFace.1 (hfaces x _ hmem).2

end

/-! ## Files -/

/-- The text of a file whose lines are those of a sheet. -/
theorem toList_joinLines_sheet {ls : List String} {s : Sheet}
    (h : ls.map String.toList = s.lines.map CodeLine.chars) :
    (joinLines ls).toList = s.source := by
  rw [toList_joinLines, h, Sheet.source]

theorem lines_ne_nil_of_sheet (s : Sheet) : s.lines ≠ [] := by
  intro h
  have hplaced := s.placed
  rw [h] at hplaced
  simp at hplaced

/-- A sheet without blanks at the ends of its lines only gets its last line ended. -/
theorem laid_eq_source {s : Sheet}
    (h : ∀ l ∈ s.lines, ∀ c ∈ l.chars.getLast?, isBlank c = false) :
    s.laid = s.source ++ ['\n'] := by
  have hlines : (s.lines.map fun l => trimEnd l.chars) = s.lines.map CodeLine.chars :=
    List.map_congr_left fun l hl => trimEnd_eq_self (h l hl)
  rw [Sheet.laid, hlines, unlines_eq_intercalate, Sheet.source]
  simpa using lines_ne_nil_of_sheet s

/-- A source file that is not laid out is its own text. -/
theorem render_plain {d : AnyDocument} (hkind : d.kind.isFormatted) :
    Renderer.render ⟨none, .none⟩ d = .ok d.text := by
  rw [Renderer.render]
  show Renderer.finish ⟨none, .none⟩ d.kind d.text = _
  rw [Renderer.finish, if_pos hkind]
  rfl

/-- A source file that is a sheet is laid out without an error. -/
theorem render_default {d : AnyDocument} (hkind : d.kind.isFormatted) {s : Sheet}
    (h : d.text.toList = s.source) : Renderer.default.render d = .ok (String.ofList s.laid) := by
  have hformat : Formatter.builtin.format d.text = .ok (String.ofList s.laid) := by
    rw [Formatter.format, h, s.layout_source]
  rw [Renderer.render]
  show Renderer.finish ⟨none, .builtin⟩ d.kind d.text = _
  rw [Renderer.finish, if_pos hkind]
  dsimp only
  rw [hformat]

end Scribe.Document
