import Scribe.Proofs.Document.CodeLines
import Scribe.Proofs.Document.Tag
import Scribe.Proofs.Source.PlainName
import Scribe.Render

/-!
# Reading a struct file back

A struct file is laid out without an error, whatever the texts of the catalog contain: its names are
plain, and every other text is the inside of a raw string, of a string literal or of a remark.

The route is that of lookup files: the sheet of the file (`exists_structSheet`), whose tokens are
known line by line, and the lines between the braces of the struct (`bracesAfter_tokensOn`).  What
the laid-out file has of a column is `fieldFaces`; laying out takes the blanks away that a remark
ends in, and nothing else.
-/

namespace Scribe.Document

open Scribe.Text Scribe.Source Scribe.Schema

/-! ## Fields -/

/-- A point in time. -/
def timeFaces : List Face := [name "time", .mark '.', name "Time"]

/-- The tokens of a field's type. -/
def typeFaces : FieldType → List Face
  | .int64 => [name "int64"]
  | .float64 => [name "float64"]
  | .time => timeFaces
  | .string => [name "string"]
  | .unmapped => []

/-- The type in full, without what surrounds it. -/
theorem tokenize_spelling (t : FieldType) :
    tokenize t.spelling.toList = .ok ((typeFaces t).map (Face.on 1)) := by
  cases t <;> cbv

/-- The remark with a column's comment, if there is one. -/
def remarkFaces (comment : List Char) : List Face :=
  if comment = [] then [] else [(.lineComment, '/' :: '/' :: ' ' :: comment)]

/-- What a laid-out struct has for a column: the field's name and type, the tag as a raw string, and
a remark exactly if the column has a comment with something in it. -/
def fieldFaces (c : Column) : List Face :=
  Face.word (upperCamel c.name.toList) :: (typeFaces c.fieldType ++
    (.rawString, '\x60' :: fieldTag c ++ ['\x60']) ::
      if flatten c.commentText.toList = [] then []
      else [(.lineComment, trimEnd ("// ".toList ++ flatten c.commentText.toList))])

/-- How the remark is written after the tag. -/
def remarkText (comment : List Char) : List Char :=
  if comment = [] then [] else [' '] ++ '/' :: '/' :: ' ' :: comment

theorem spells_remark {comment : List Char} (h : '\n' ∉ comment) :
    Spells (remarkText comment) (remarkFaces comment) '\n' := by
  unfold remarkText remarkFaces
  split
  · exact .nil
  · exact .remark (by rfl) (by simp [h])

theorem spells_type (t : FieldType) :
    Spells (' ' :: t.spelling.toList) (typeFaces t) ' ' := by
  have hread : tokenize (' ' :: t.spelling.toList) = .ok ((typeFaces t).map (Face.on 1)) := by
    rw [← tokenize_spelling t]
    exact tokenizeFrom_gap (g := [' ']) (List.forall_mem_singleton.2 rfl) 1 _
  cases t <;> exact .fixed hread (by decide) rfl

/-- The line of a field. -/
def fieldLine (field : List Char) (type : FieldType) (tag comment : List Char)
    (hfield : IsWord field) (htag : '\x60' ∉ tag ∧ '\n' ∉ tag) (hcomment : '\n' ∉ comment) :
    CodeLine where
  tabs := 1
  text := [] ++ field ++ ((' ' :: type.spelling.toList) ++
    (([' '] ++ ('\x60' :: tag ++ ['\x60'])) ++ remarkText comment))
  faces := [Face.word field] ++ (typeFaces type ++
    ([(.rawString, '\x60' :: tag ++ ['\x60'])] ++ remarkFaces comment))
  spells := (Spells.word hfield.fits (by rfl) (by rfl)).append
    ((spells_type type).append
      ((Spells.rawString (by rfl) htag.1 htag.2).append (spells_remark hcomment)))
  starts := by
    obtain ⟨c, rest, rfl, hc⟩ := hfield.fits.exists_cons (by simp)
    simp [hc]

theorem exists_fieldLine {c : Column} (h : isPlainName c.name.toList) :
    ∃ l, IsItem (StructField.ofColumn c).line (fieldFaces c) l := by
  refine ⟨fieldLine _ c.fieldType (fieldTag c) (flatten c.commentText.toList)
    (isWord_upperCamel h) (not_mem_fieldTag c) (newline_not_mem_flatten _).1, ?_⟩
  constructor
  case tabs => rfl
  case chars =>
    by_cases hcomment : flatten c.commentText.toList = [] <;>
      simp [CodeLine.chars, fieldLine, StructField.line, StructField.ofColumn, Column.fieldName,
        remarkText, hcomment]
  case laidFaces =>
    have htype : (typeFaces c.fieldType).map CodeLine.layFace = typeFaces c.fieldType := by
      cases c.fieldType <;> rfl
    simp only [CodeLine.laidFaces, fieldLine, fieldFaces, remarkFaces, List.map_append, htype]
    split <;> rfl

/-- Besides its type, a field has tokens of three kinds. -/
theorem mem_fieldFaces {c : Column} {f : Face} (h : f ∈ fieldFaces c) :
    f ∈ typeFaces c.fieldType ∨ f.1 = .ident ∨ f.1 = .rawString ∨ f.1 = .lineComment := by
  rw [fieldFaces, List.mem_cons, List.mem_append, List.mem_cons] at h
  obtain rfl | h | rfl | h := h
  · exact .inr (.inl rfl)
  · exact .inl h
  · exact .inr (.inr (.inl rfl))
  · split at h
    · simp at h
    · obtain rfl := List.mem_singleton.1 h
      exact .inr (.inr (.inr rfl))

theorem noBracket_fieldFaces (c : Column) :
    ∀ f ∈ fieldFaces c, f.1 ≠ .newline ∧ (f.on 0).NoBracket := by
  have htype : ∀ f ∈ typeFaces c.fieldType, f.1 ≠ .newline ∧ (f.on 0).NoBracket := by
    cases c.fieldType <;> decide
  rintro ⟨kind, text⟩ hf
  obtain h | rfl | rfl | rfl := mem_fieldFaces hf
  · exact htype _ h
  · exact ⟨by simp, rfl, rfl⟩
  · exact ⟨by simp, rfl, rfl⟩
  · exact ⟨by simp, rfl, rfl⟩

/-! ## The lines of the file -/

section
variable {package struct remark literal : List Char}

/-- The line that the struct begins on. -/
def structLine (struct : List Char) (h : IsWord struct) : CodeLine :=
  nameLine "type" true struct " struct \x7b" h [name "type"] [name "struct", .mark '{']

/-- The line that the method of the struct begins on. -/
def tableNameLine (struct : List Char) (h : IsWord struct) : CodeLine :=
  nameLine "func (" false struct ") TableName() string \x7b" h [name "func", .mark '(']
    [.mark ')', name "TableName", .mark '(', .mark ')', name "string", .mark '{']

/-- The line that returns the name of the table. -/
def returnLine (literal : List Char) (h : Quoted '"' literal) : CodeLine where
  tabs := 1
  text := "return".toList ++ ([' '] ++ ('"' :: literal ++ ['"']))
  faces := [name "return"] ++ [(.literal, '"' :: literal ++ ['"'])]
  spells := (Spells.fixed (by cbv) (by decide) rfl).append (.literal (by rfl) h)
  starts := rfl

@[simp] theorem chars_returnLine (h : Quoted '"' literal) :
    (returnLine literal h).chars = "\treturn ".toList ++ ('"' :: literal ++ ['"']) := by
  simp [CodeLine.chars, returnLine]

@[simp] theorem laidFaces_returnLine (h : Quoted '"' literal) :
    (returnLine literal h).laidFaces =
      [name "return", (.literal, '"' :: literal ++ ['"'])] := rfl

/-- The declaration that imports the package of times. -/
def importFaces : List Face := [name "import", (.literal, "\"time\"".toList)]

/-- The lines before the struct. -/
def structAbove (package remark : List Char) (hpackage : IsWord package) (hremark : '\n' ∉ remark)
    (importsTime : Bool) : List CodeLine :=
  [packageLine package hpackage] ++
  (if importsTime then [emptyLine, fixedLine 0 "import \"time\"" importFaces] else []) ++
  [emptyLine, remarkLine remark hremark]

/-- The lines after the last field. -/
def structBelow (struct literal : List Char) (hstruct : IsWord struct)
    (hliteral : Quoted '"' literal) : List CodeLine :=
  [closeLine 0,
    emptyLine,
    remarkLine (" TableName returns the table backing ".toList ++ struct ++ ".".toList)
      (by simp [hstruct.no_newline]),
    tableNameLine struct hstruct,
    returnLine literal hliteral,
    closeLine 0]

/-- The lines of a file. -/
def structLines (package struct remark literal : List Char) (hpackage : IsWord package)
    (hstruct : IsWord struct) (hremark : '\n' ∉ remark) (hliteral : Quoted '"' literal)
    (importsTime : Bool) (fields : List CodeLine) : List CodeLine :=
  structAbove package remark hpackage hremark importsTime ++ structLine struct hstruct ::
    (fields ++ structBelow struct literal hstruct hliteral)

/-- Where the struct begins. -/
def structWords (struct : List Char) : List (List Char) :=
  ["type".toList, struct, "struct".toList]

/-- The tokens of a file. -/
def structFaces (package struct remark literal : List Char) (hpackage : IsWord package)
    (hstruct : IsWord struct) (hremark : '\n' ∉ remark) (hliteral : Quoted '"' literal)
    (importsTime : Bool) (cs : List Column) : List (List Face) :=
  (structAbove package remark hpackage hremark importsTime).map CodeLine.laidFaces ++
    ((structWords struct).map Face.word ++ [] ++ [Face.mark '{']) ::
      (cs.map fieldFaces ++ [Face.mark '}'] ::
        (structBelow struct literal hstruct hliteral).tail.map CodeLine.laidFaces)

/-! ## The file as a sheet -/

variable {cs : List Column} {fields : List CodeLine}

theorem placed_structLines (hpackage : IsWord package) (hstruct : IsWord struct)
    (hremark : '\n' ∉ remark) (hliteral : Quoted '"' literal) (importsTime : Bool)
    (h : List.Forall₂ (fun c => IsItem (StructField.ofColumn c).line (fieldFaces c)) cs fields) :
    (structLines package struct remark literal hpackage hstruct hremark hliteral importsTime
      fields).foldlM CodeLine.place ([], true) = some ([], false) := by
  have habove : (structAbove package remark hpackage hremark importsTime ++
      [structLine struct hstruct]).foldlM CodeLine.place ([], true) = some ([.curly], false) := by
    cases importsTime <;> rfl
  have hfields := inside_items h (by simp [fieldFaces]) noBracket_fieldFaces
  rw [structLines, List.append_cons]
  exact CodeLine.foldlM_place_inside habove hfields rfl

theorem laidFaces_structLines (hpackage : IsWord package) (hstruct : IsWord struct)
    (hremark : '\n' ∉ remark) (hliteral : Quoted '"' literal) (importsTime : Bool)
    (h : List.Forall₂ (fun c => IsItem (StructField.ofColumn c).line (fieldFaces c)) cs fields) :
    (structLines package struct remark literal hpackage hstruct hremark hliteral importsTime
      fields).map CodeLine.laidFaces =
      structFaces package struct remark literal hpackage hstruct hremark hliteral importsTime
        cs := by
  rw [structLines, List.map_append, List.map_cons, List.map_append, map_laidFaces_items h]
  rfl

/-- The fields stand between the braces of the struct. -/
theorem bracesAfter_structFaces (hpackage : IsWord package) (hstruct : IsWord struct)
    (hremark : '\n' ∉ remark) (hliteral : Quoted '"' literal) (importsTime : Bool)
    (cs : List Column) :
    bracesAfter (structWords struct) (tokensOn 1 (structFaces package struct remark literal hpackage
      hstruct hremark hliteral importsTime cs)) = some ([] :: (cs.map fieldFaces ++ [[]])) := by
  have habove : ∀ fs ∈ (structAbove package remark hpackage hremark importsTime).map
      CodeLine.laidFaces, ¬ (structWords struct).map Face.word <:+: fs := by
    cases importsTime <;>
      simp [structAbove, structWords, List.infix_cons_iff, List.cons_prefix_cons,
        importFaces, CodeLine.layFace, Face.word, name]
  have hfields : ∀ fs ∈ cs.map fieldFaces, ∀ f ∈ fs, f.1 ≠ .newline ∧ (f.on 0).NoBracket :=
    List.forall_mem_map.2 fun c _ => noBracket_fieldFaces c
  exact bracesAfter_tokensOn habove (by simp) hfields (c := .mark '}') rfl 1

/-! ## What is imported -/

/-- The package of times is imported by the declaration, and by nothing else. -/
theorem infix_structFaces_iff (hpackage : IsWord package) (hstruct : IsWord struct)
    (hremark : '\n' ∉ remark) (hliteral : Quoted '"' literal) (importsTime : Bool)
    (cs : List Column) :
    importFaces <:+: (tokensOn 1 (structFaces package struct remark literal hpackage
      hstruct hremark hliteral importsTime cs)).map Token.face ↔ importsTime = true := by
  have htype : ∀ t, ∀ f ∈ typeFaces t, f.1 ≠ .literal := by
    intro t
    cases t <;> decide
  have hfields : ∀ c : Column, ¬ importFaces <:+: fieldFaces c := by
    intro c h
    have hmem : (TokenKind.literal, "\"time\"".toList) ∈ fieldFaces c :=
      h.mem (by simp [importFaces])
    obtain h | h | h | h := mem_fieldFaces hmem
    · exact htype _ _ h rfl
    all_goals simp at h
  have habove : (∃ fs ∈ (structAbove package remark hpackage hremark importsTime).map
      CodeLine.laidFaces, importFaces <:+: fs) ↔ importsTime = true := by
    cases importsTime <;>
      simp [structAbove, importFaces, List.infix_cons_iff, List.cons_prefix_cons,
        CodeLine.layFace, Face.word, name]
  have hline : ¬ importFaces <:+: (structWords struct).map Face.word ++ [] ++ [Face.mark '{'] := by
    simp [structWords, importFaces, List.infix_cons_iff, List.cons_prefix_cons, Face.word,
      Face.mark, name]
  have hbelow : ∀ fs ∈ [Face.mark '}'] ::
      (structBelow struct literal hstruct hliteral).tail.map CodeLine.laidFaces,
      ¬ importFaces <:+: fs := by
    simp [structBelow, importFaces, List.infix_cons_iff, List.cons_prefix_cons,
      tableNameLine, CodeLine.layFace, Face.word, Face.mark, name]
  rw [infix_tokensOn_iff (by simp [importFaces]) (by simp [importFaces, name, Face.word]),
    structFaces]
  simp only [List.mem_append, or_and_right, exists_or]
  refine (or_iff_left ?_).trans habove
  rintro ⟨fs, hfs, h⟩
  rcases List.mem_cons.1 hfs with rfl | hfs
  · exact hline h
  rcases List.mem_append.1 hfs with hfs | hfs
  · obtain ⟨c, -, rfl⟩ := List.mem_map.1 hfs
    exact hfields c h
  · exact hbelow fs hfs h

theorem infix_fieldFaces_iff (c : Column) : timeFaces <:+: fieldFaces c ↔ c.fieldType = .time := by
  constructor
  · intro h
    have hmem : Face.mark '.' ∈ fieldFaces c := h.mem (by simp [timeFaces])
    obtain h | h | h | h := mem_fieldFaces hmem
    · cases htype : c.fieldType <;> simp_all [typeFaces, name, Face.mark, Face.word]
    all_goals simp [Face.mark] at h
  · intro h
    rw [fieldFaces, h]
    exact List.infix_append [_] timeFaces _

end

/-! ## The file -/

/-- The remark above a struct. -/
def structRemark (t : Table) : List Char :=
  ' ' :: upperCamel t.name.toList ++
    (if flatten t.comment.toList = [] then " maps the ".toList ++ t.name.toList ++ " table.".toList
    else ' ' :: flatten t.comment.toList)

theorem newline_not_mem_structRemark {t : Table} (h : isPlainName t.name.toList) :
    '\n' ∉ structRemark t := by
  have hstruct := (isWord_upperCamel h).no_newline
  have hname := newline_not_mem_of_isPlainName h
  have hcomment := (newline_not_mem_flatten t.comment.toList).1
  unfold structRemark
  split <;> simp [hstruct, hname, hcomment]

theorem isWord_packageFor {table : String} {package : Option String}
    (h : isPlainName table.toList) (hpackage : ∀ p ∈ package, IsWord p.toList) :
    IsWord (packageFor table package).toList := by
  cases package with
  | none => simpa [packageFor] using isWord_packageName h
  | some p =>
    have hp := hpackage p rfl
    obtain ⟨c, rest, hcons, -⟩ := hp.fits.exists_cons (by simp)
    have hfilter : (some (trim p.toList)).filter (· ≠ []) = some p.toList := by
      rw [hp.trim_eq, hcons]
      rfl
    rw [packageFor, Option.map_some, hfilter]
    simpa using hp

theorem map_chars_structLines {t : Table} {package : Option String} {fields : List CodeLine}
    (hname : isPlainName t.name.toList) (hpackage : ∀ p ∈ package, IsWord p.toList)
    (h : List.Forall₂ (fun c => IsItem (StructField.ofColumn c).line (fieldFaces c)) t.columns
      fields) :
    (StructFile.ofTable t package).lines.map String.toList =
      (structLines _ _ _ _ (isWord_packageFor hname hpackage) (isWord_upperCamel hname)
        (newline_not_mem_structRemark hname) (quoted_stringLiteral t.name.toList) t.usesTime
        fields).map CodeLine.chars := by
  have hfields : ((StructFile.ofTable t package).fields.map StructField.line).map String.toList =
      fields.map CodeLine.chars := by
    rw [← map_chars_items h]
    simp [StructFile.ofTable, Function.comp_def]
  have himport : (if (StructFile.ofTable t package).importsTime then ["", "import \"time\""]
      else []).map String.toList =
      (if t.usesTime then [emptyLine, fixedLine 0 "import \"time\"" importFaces] else []).map
        CodeLine.chars := by
    show (if t.usesTime then ["", "import \"time\""] else []).map String.toList = _
    split <;> rfl
  simp only [StructFile.lines, structLines, structAbove, List.map_append, List.map_cons, hfields,
    himport]
  by_cases hcomment : flatten t.comment.toList = [] <;>
    simp [StructFile.ofTable, structRemark, hcomment, structBelow, structLine, tableNameLine]

/-- What a struct file is to the layout and to readers of tokens. -/
theorem exists_structSheet {t : Table} {package : Option String} (hname : isPlainName t.name.toList)
    (hcolumns : ∀ c ∈ t.columns, isPlainName c.name.toList)
    (hpackage : ∀ p ∈ package, IsWord p.toList) :
    ∃ (s : Sheet) (ts : List Token), (StructFile.ofTable t package).text.toList = s.source ∧
      tokenize s.laid = .ok ts ∧
      bracesAfter (structWords (upperCamel t.name.toList)) ts =
        some ([] :: (t.columns.map fieldFaces ++ [[]])) ∧
      (importFaces <:+: ts.map Token.face ↔ t.usesTime = true) := by
  obtain ⟨fields, h⟩ := exists_forall₂ fun c hc => exists_fieldLine (hcolumns c hc)
  have hpackageFor := isWord_packageFor hname hpackage
  have hstruct := isWord_upperCamel hname
  have hremark := newline_not_mem_structRemark hname
  have hliteral := quoted_stringLiteral t.name.toList
  let s : Sheet := ⟨_, placed_structLines hpackageFor hstruct hremark hliteral t.usesTime h⟩
  have htokens := s.tokenize_laid
  rw [laidFaces_structLines hpackageFor hstruct hremark hliteral t.usesTime h] at htokens
  refine ⟨s, _, ?_, htokens, ?_, ?_⟩
  · exact toList_joinLines_sheet (s := s) (map_chars_structLines hname hpackage h)
  · exact bracesAfter_structFaces hpackageFor hstruct hremark hliteral t.usesTime t.columns
  · exact infix_structFaces_iff hpackageFor hstruct hremark hliteral t.usesTime t.columns

theorem usesTime_iff (t : Table) :
    t.usesTime = true ↔ ∃ c ∈ t.columns, timeFaces <:+: fieldFaces c := by
  simp [Table.usesTime, FieldType.needsTime, infix_fieldFaces_iff]

/-- **The texts of a catalog cannot break a struct file.**  For a table whose names are plain, the
file always lays out.  Between the braces of the struct, each column has one line, in the order of
the ordinals; and the package of times is imported exactly if the type of some field needs it. -/
theorem render_record {schema table comment : String} {columns : List Column} {t : Table}
    (htable : Table.ofColumns schema table comment columns = .ok t)
    (hname : isPlainName table.toList) (hcolumns : ∀ c ∈ columns, isPlainName c.name.toList)
    {package : Option String} (hpackage : ∀ p ∈ package, IsWord p.toList) :
    ∃ (text : String) (ts : List Token),
      Renderer.default.render (.record (.ofTable t package)) = .ok text ∧
      tokenize text.toList = .ok ts ∧
      t.columns.Perm columns ∧
      t.columns.Pairwise (fun a b => a.ordinal < b.ordinal) ∧
      bracesAfter (structWords (upperCamel table.toList)) ts =
        some ([] :: (t.columns.map fieldFaces ++ [[]])) ∧
      (importFaces <:+: ts.map Token.face ↔ ∃ c ∈ t.columns, timeFaces <:+: fieldFaces c) := by
  obtain ⟨-, rfl, -, hperm⟩ := Table.eq_of_ofColumns_eq_ok htable
  obtain ⟨s, ts, hsource, htokens, hbraces, himport⟩ := exists_structSheet hname
    (fun c hc => hcolumns c (hperm.mem_iff.1 hc)) hpackage
  have htext : (AnyDocument.record (.ofTable t package)).text.toList = s.source := hsource
  refine ⟨_, ts, render_default rfl htext, ?_, hperm, t.ascending, hbraces, ?_⟩
  · rw [String.toList_ofList, htokens]
  · rw [himport, usesTime_iff]

/-- A column whose comment has a backquote, a brace and a line feed. -/
def seenColumn : Column where
  ordinal := 1
  name := "seen_at"
  columnType := "datetime"
  dataType := "datetime"
  key := none
  nullable := true
  extra := none
  comment := some "\x60\x7d\n// seen "
  default := none

/-- A table with that column. -/
def visitTable : Table where
  schema := "s"
  name := "visit_log"
  comment := "Visits.\x7d"
  columns := [seenColumn]
  ascending := by decide
  positive := by decide

/-- The comment ends neither the raw string nor the struct. -/
theorem render_record_visit : ∃ (text : String) (ts : List Token),
    Renderer.default.render (.record (.ofTable visitTable none)) = .ok text ∧
    tokenize text.toList = .ok ts ∧
    bracesAfter ["type".toList, "VisitLog".toList, "struct".toList] ts =
      some [[],
        [name "SeenAt", name "time", .mark '.', name "Time",
          (.rawString, "\x60gorm:\"column:seen_at;comment:''\x7d// seen '\"\x60".toList),
          (.lineComment, "// \x60\x7d// seen".toList)],
        []] ∧
    importFaces <:+: ts.map Token.face := by
  have hpackage : ∀ p ∈ (none : Option String), IsWord p.toList := by simp
  obtain ⟨text, ts, hrender, htokens, -, -, hbraces, himport⟩ :=
    render_record (Table.ofColumns_columns visitTable) (by decide) (by decide) hpackage
  have hname : upperCamel visitTable.name.toList = "VisitLog".toList := by decide
  have htype : seenColumn.fieldType = .time := by decide
  have hfield : upperCamel seenColumn.name.toList = "SeenAt".toList := by decide
  have htag : fieldTag seenColumn = "gorm:\"column:seen_at;comment:''\x7d// seen '\"".toList := by
    decide
  have hcomment : flatten seenColumn.commentText.toList = "\x60\x7d// seen ".toList := by decide
  have hfields : visitTable.columns.map fieldFaces =
      [[name "SeenAt", name "time", .mark '.', name "Time",
        (.rawString, "\x60gorm:\"column:seen_at;comment:''\x7d// seen '\"\x60".toList),
        (.lineComment, "// \x60\x7d// seen".toList)]] := by
    rw [visitTable, List.map_singleton, fieldFaces, htype, hfield, htag, hcomment]
    decide
  rw [hname, hfields] at hbraces
  refine ⟨text, ts, hrender, htokens, hbraces, himport.2 ⟨_, List.mem_singleton_self _, ?_⟩⟩
  exact (infix_fieldFaces_iff _).2 htype

end Scribe.Document
