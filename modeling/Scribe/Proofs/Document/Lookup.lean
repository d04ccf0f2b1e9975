import Scribe.Proofs.Constants.Names
import Scribe.Proofs.Constants.Quiet
import Scribe.Proofs.Document.CodeLines
import Scribe.Proofs.Source.Literal
import Scribe.Render

/-!
# Reading a lookup file back

A lookup file is laid out without an error, and carries every comment exactly, whatever the comments
contain: what comes from outside is a package, a type and names, which are identifiers, and the
comments themselves, each of which is one string literal.

The route is the sheet of the file (`exists_lookupSheet`).  Its lines are in place, so the layout
only ends the last of them, and its tokens are known line by line.  The entries stand between the
braces of the variable `messages`, one on each line (`bracesAfter_tokensOn`).  Read for constants in
its turn, the file says what its package is and has one constant, which has no comment
(`readFrom_lookupFaces`).
-/

namespace Scribe.Document

open Scribe.Text Scribe.Source

/-! ## The lines of the file -/

section
variable {package type : List Char}

/-- The line that the map of messages begins on. -/
def messagesLine (type : List Char) (h : IsWord type) : CodeLine :=
  nameLine "var messages = map[" false type "]string\x7b" h
    [name "var", name "messages", .mark '=', name "map", .mark '[']
    [.mark ']', name "string", .mark '{']

/-- The line that the method of the constant type begins on. -/
def methodLine (type : List Char) (h : IsWord type) : CodeLine :=
  nameLine "func (code" true type ") String() string \x7b" h
    [name "func", .mark '(', name "code"]
    [.mark ')', name "String", .mark '(', .mark ')', name "string", .mark '{']

/-- The line that the look-up function begins on. -/
def functionLine (type : List Char) (h : IsWord type) : CodeLine :=
  nameLine "func GetMsg(code" true type ") string \x7b" h
    [name "func", name "GetMsg", .mark '(', name "code"]
    [.mark ')', name "string", .mark '{']

/-- The tokens of an entry. -/
def entryFaces (e : LookupEntry) : List Face :=
  [.word e.name.toList, .mark ':', (.literal, '"' :: e.literal.toList ++ ['"']), .mark ',']

/-- The line of an entry. -/
def entryLine (e : LookupEntry) (hname : IsWord e.name.toList) (h : Quoted '"' e.literal.toList) :
    CodeLine where
  tabs := 1
  text := [] ++ e.name.toList ++ ([':'] ++ ([' '] ++ ('"' :: e.literal.toList ++ ['"']) ++ [',']))
  faces := [Face.word e.name.toList] ++ ([Face.mark ':'] ++
    ([(.literal, '"' :: e.literal.toList ++ ['"'])] ++ [Face.mark ',']))
  spells := (Spells.word hname.fits (by rfl) (by rfl)).append
    ((Spells.fixed (by cbv) (by decide) rfl).append
      ((Spells.literal (by rfl) h).append (.fixedEnd (by cbv) (by decide))))
  starts := by
    obtain ⟨c, rest, hcons, hc⟩ := hname.fits.exists_cons (by simp)
    simp [hcons, hc]

theorem isItem_entryLine (e : LookupEntry) (hname : IsWord e.name.toList)
    (h : Quoted '"' e.literal.toList) : IsItem e.line (entryFaces e) (entryLine e hname h) := by
  refine ⟨rfl, ?_, rfl⟩
  simp [CodeLine.chars, entryLine, LookupEntry.line]

theorem entryFaces_ofComment (key message : String) :
    entryFaces (.ofComment key message) =
      [Face.word key.toList, Face.mark ':',
        (.literal, '"' :: stringLiteral message.toList ++ ['"']), Face.mark ','] := by
  simp [entryFaces, LookupEntry.ofComment]

theorem noBracket_entryFaces (e : LookupEntry) :
    ∀ f ∈ entryFaces e, f.1 ≠ .newline ∧ (f.on 0).NoBracket := by
  simp only [entryFaces, List.forall_mem_cons, List.not_mem_nil, false_imp_iff, implies_true,
    and_true]
  refine ⟨?_, ?_, ?_, ?_⟩ <;> exact ⟨by simp [Face.word, Face.mark], rfl, rfl⟩

/-- The lines before the map of messages. -/
def linesAbove (package : List Char) (h : IsWord package) : List CodeLine :=
  [fixedRemark " Code generated by metagen-ctl. DO NOT EDIT.",
    emptyLine,
    remarkLine (" Package ".toList ++ package ++ " maps constant codes to their messages.".toList)
      (by simp [h.no_newline]),
    packageLine package h,
    emptyLine,
    fixedRemark " noMsg is returned by GetMsg for codes without a message.",
    fixedLine 0 "const noMsg = \"unknown\""
      [name "const", name "noMsg", .mark '=', (.literal, "\"unknown\"".toList)],
    emptyLine]

/-- The lines of the method of the constant type. -/
def methodLines (type : List Char) (h : IsWord type) : List CodeLine :=
  [emptyLine,
    fixedRemark " String returns the message of code.",
    methodLine type h,
    fixedLine 1 "return GetMsg(code)"
      [name "return", name "GetMsg", .mark '(', name "code", .mark ')'],
    closeLine 0]

/-- The lines of the look-up function. -/
def functionLines (type : List Char) (h : IsWord type) : List CodeLine :=
  [emptyLine,
    fixedRemark " GetMsg returns the message of code, or \"unknown\" if it has none.",
    functionLine type h,
    fixedLine 1 "if msg, ok := messages[code]; ok \x7b"
      [name "if", name "msg", .mark ',', name "ok", .mark ':', .mark '=', name "messages",
        .mark '[', name "code", .mark ']', .mark ';', name "ok", .mark '{'],
    fixedLine 2 "return msg" [name "return", name "msg"],
    closeLine 1,
    fixedLine 1 "return noMsg" [name "return", name "noMsg"],
    closeLine 0]

/-- The lines after the map of messages. -/
def linesBelow (type : List Char) (h : IsWord type) (emitStringer : Bool) : List CodeLine :=
  (if emitStringer then methodLines type h else []) ++ functionLines type h

/-- The lines of a file. -/
def lookupLines (package type : List Char) (hpackage : IsWord package) (htype : IsWord type)
    (emitStringer : Bool) (entries : List CodeLine) : List CodeLine :=
  linesAbove package hpackage ++ messagesLine type htype :: (entries ++
    closeLine 0 :: linesBelow type htype emitStringer)

variable {es : List LookupEntry} {entries : List CodeLine}

theorem placed_lookupLines (hpackage : IsWord package) (htype : IsWord type) (emitStringer : Bool)
    (h : List.Forall₂ (fun e => IsItem e.line (entryFaces e)) es entries) :
    (lookupLines package type hpackage htype emitStringer entries).foldlM CodeLine.place
      ([], true) = some ([], false) := by
  have habove : (linesAbove package hpackage ++ [messagesLine type htype]).foldlM CodeLine.place
      ([], true) = some ([.curly], false) := rfl
  have hentries := inside_items h (by simp [entryFaces]) noBracket_entryFaces
  have hbelow : (closeLine 0 :: linesBelow type htype emitStringer).foldlM
      CodeLine.place ([.curly], false) = some ([], false) := by
    cases emitStringer <;> rfl
  rw [lookupLines, List.append_cons]
  exact CodeLine.foldlM_place_inside habove hentries hbelow

theorem map_chars_lookupLines {f : LookupFile} (hpackage : IsWord f.package.toList)
    (htype : IsWord f.constType.toList)
    (h : List.Forall₂ (fun e => IsItem e.line (entryFaces e)) f.entries entries) :
    f.lines.map String.toList =
      (lookupLines _ _ hpackage htype f.emitStringer entries).map CodeLine.chars := by
  have hbelow : (if f.emitStringer then
      ["",
        "// String returns the message of code.",
        "func (code " ++ f.constType ++ ") String() string \x7b",
        "\treturn GetMsg(code)",
        "\x7d"]
      else []).map String.toList =
      (if f.emitStringer then methodLines _ htype else []).map CodeLine.chars := by
    split
    · simp [methodLines, methodLine]
    · rfl
  rw [LookupFile.lines, lookupLines, linesBelow, List.map_append, List.map_append,
    List.map_append, List.map_append, map_chars_items h, hbelow]
  simp [linesAbove, messagesLine, functionLines, functionLine]

/-- No line of the file ends in a blank. -/
theorem tidy_lookupLines (hpackage : IsWord package) (htype : IsWord type) (emitStringer : Bool)
    (h : List.Forall₂ (fun e => IsItem e.line (entryFaces e)) es entries) :
    ∀ l ∈ lookupLines package type hpackage htype emitStringer entries,
      ∀ c ∈ l.chars.getLast?, isBlank c = false := by
  have habove : ∀ l ∈ linesAbove package hpackage,
      ∀ c ∈ l.chars.getLast?, isBlank c = false := by
    have hlast := hpackage.fits.isBlank_getLast (by simp) (by simp)
    obtain ⟨d, rest, rfl, -⟩ := hpackage.fits.exists_cons (by simp)
    simp only [List.getLast?_cons, Option.mem_def, Option.some.injEq, forall_eq'] at hlast
    simp [linesAbove, List.getLast?_append, List.getLast?_cons, hlast]
    decide
  have hentries : ∀ l ∈ entries, ∀ c ∈ l.chars.getLast?, isBlank c = false := by
    intro l hl
    obtain ⟨e, he⟩ := exists_item h l hl
    rw [he.chars, LookupEntry.line]
    simp [List.getLast?_append, List.getLast?_cons]
    decide
  have hrest : ∀ l ∈ messagesLine type htype :: closeLine 0 ::
      linesBelow type htype emitStringer, ∀ c ∈ l.chars.getLast?, isBlank c = false := by
    cases emitStringer <;>
      simp [linesBelow, methodLines, functionLines, messagesLine, methodLine, functionLine,
        List.getLast?_append, List.getLast?_cons] <;>
      decide
  rw [List.forall_mem_cons] at hrest
  rw [lookupLines]
  intro l hl
  rw [List.mem_append, List.mem_cons, List.mem_append] at hl
  obtain hl | rfl | hl | hl := hl
  · exact habove l hl
  · exact hrest.1
  · exact hentries l hl
  · exact hrest.2 l hl

/-! ## The tokens of the file -/

/-- The tokens of the lines from the map of messages on, where `es` are its entries. -/
def messagesFaces (type : List Char) (htype : IsWord type) (emitStringer : Bool)
    (es : List LookupEntry) : List (List Face) :=
  (messagesLine type htype).laidFaces ::
    (es.map entryFaces ++
      [Face.mark '}'] :: (linesBelow type htype emitStringer).map CodeLine.laidFaces)

/-- The tokens of the lines of the file. -/
def lookupFaces (package type : List Char) (hpackage : IsWord package) (htype : IsWord type)
    (emitStringer : Bool) (es : List LookupEntry) : List (List Face) :=
  (linesAbove package hpackage).map CodeLine.laidFaces ++ messagesFaces type htype emitStringer es

theorem laidFaces_lookupLines (hpackage : IsWord package) (htype : IsWord type)
    (emitStringer : Bool)
    (h : List.Forall₂ (fun e => IsItem e.line (entryFaces e)) es entries) :
    (lookupLines package type hpackage htype emitStringer entries).map CodeLine.laidFaces =
      lookupFaces package type hpackage htype emitStringer es := by
  rw [lookupLines, lookupFaces, messagesFaces, List.map_append, List.map_cons, List.map_append,
    List.map_cons, map_laidFaces_items h]
  rfl

/-- The entries stand between the braces of the map of messages. -/
theorem bracesAfter_lookupFaces (hpackage : IsWord package) (htype : IsWord type)
    (emitStringer : Bool) (es : List LookupEntry) :
    bracesAfter ["var".toList, "messages".toList]
        (tokensOn 1 (lookupFaces package type hpackage htype emitStringer es)) =
      some ([] :: (es.map entryFaces ++ [[]])) := by
  have habove : ∀ fs ∈ (linesAbove package hpackage).map CodeLine.laidFaces,
      ¬ ["var".toList, "messages".toList].map Face.word <:+: fs := by
    simp [linesAbove, List.infix_cons_iff, List.cons_prefix_cons, CodeLine.layFace, Face.mark,
      Face.word, name]
  have hmore : ∀ f ∈ [Face.mark '=', name "map", .mark '[', .word type, .mark ']',
      name "string"], f.1 ≠ .punct '{' := by
    simp [Face.mark, Face.word, name]
  have hentries : ∀ fs ∈ es.map entryFaces, ∀ f ∈ fs, f.1 ≠ .newline ∧ (f.on 0).NoBracket :=
    List.forall_mem_map.2 fun e _ => noBracket_entryFaces e
  exact bracesAfter_tokensOn habove hmore hentries (c := .mark '}') rfl 1

/-! ## Reading the file for constants -/

/-- From the map of messages on, the file is quiet. -/
theorem quiet_messagesFaces (htype : IsWord type) (emitStringer : Bool) (es : List LookupEntry)
    (line : Nat) : quiet 0 (tokensOn line (messagesFaces type htype emitStringer es)) := by
  have hopen : ∀ ts, quiet 0 ((messagesLine type htype).laidFaces.map (Face.on line) ++
      lineEnd line :: ts) = quiet 1 ts := by
    intro ts
    cbv
  have hplain : ∀ fs ∈ es.map entryFaces, ∀ f ∈ fs, (f.on 0).NoBracket :=
    List.forall_mem_map.2 fun e _ f hf => (noBracket_entryFaces e f hf).2
  have hbelow : ∀ k, quiet 1 (tokensOn k
      ([Face.mark '}'] :: (linesBelow type htype emitStringer).map CodeLine.laidFaces)) := by
    intro k
    cases emitStringer <;> cbv
  rw [messagesFaces, tokensOn, hopen, tokensOn_append, quiet_tokensOn (by decide) hplain]
  exact hbelow _

/-- The declaration of the constant that stands for no message, without its keyword. -/
def noMsgFaces : List Face := [name "noMsg", .mark '=', (.literal, "\"unknown\"".toList)]

theorem readDeclaration_noMsg (line : Nat) (ts : List Token) :
    readDeclaration (noMsgFaces.map (Face.on line) ++ lineEnd line :: ts) =
      .ok ([], lineEnd line :: ts) := rfl

/-- A keyword before the declaration is read as a name of it, which changes nothing. -/
theorem readDeclaration_const_noMsg (line : Nat) (remark : List Char) (ts : List Token) :
    readDeclaration (tokensOn line [[], [], [(.lineComment, remark)]] ++
        (name "const" :: noMsgFaces).map (Face.on (line + 3)) ++ lineEnd (line + 3) :: ts) =
      .ok ([], lineEnd (line + 3) :: ts) := rfl

/-- What is read after the keyword of the package clause: the package may have the name of a keyword
that the reader looks at, and then the constant is read as part of what that begins. -/
theorem readFrom_after_package (package remark : List Char) (line : Nat) {ts : List Token}
    (h : quiet 0 ts) :
    ∃ other, readFrom 0 ((Face.word package).on line ::
      (tokensOn line [[], [], [(.lineComment, remark)]] ++
        (name "const" :: noMsgFaces).map (Face.on (line + 3)) ++ lineEnd (line + 3) :: ts)) =
      .ok ⟨other, []⟩ := by
  have hend : LineEnds [lineEnd (line + 3)] := by simp [LineEnds, lineEnd, Token.isNewline]
  have hts : readFrom 0 (lineEnd (line + 3) :: ts) = .ok ⟨none, []⟩ := by
    rw [← List.singleton_append, readFrom_lineEnds hend, readFrom_quiet h]
  by_cases hconst : package = "const".toList
  · subst hconst
    exact ⟨none, readFrom_const (by cbv) (readDeclaration_const_noMsg line remark ts) hts⟩
  · have hword : ((Face.word package).on line).isWord "const".toList = false := by
      show (decide _ && decide (package = "const".toList)) = false
      rw [decide_eq_false hconst, Bool.and_false]
    have hbetween : Insignificant (tokensOn line [[], [], [(.lineComment, remark)]]) := by
      simp [Insignificant, tokensOn, lineEnd, Face.on, Token.isSignificant, Token.isComment,
        Token.isNewline]
    have hread : readFrom 0 ((name "const" :: noMsgFaces).map (Face.on (line + 3)) ++
        lineEnd (line + 3) :: ts) = .ok ⟨none, []⟩ :=
      readFrom_const (by cbv) (readDeclaration_noMsg (line + 3) ts) hts
    rw [readFrom_other (by rw [hword]; rfl), List.append_assoc]
    show ∃ other, (readFrom 0 _).map _ = _
    rw [readFrom_insignificant hbetween, hread]
    exact ⟨_, rfl⟩

/-- **Read for constants, the file has its package and no comment.** -/
theorem readFrom_lookupFaces (hpackage : IsWord package) (htype : IsWord type)
    (emitStringer : Bool) (es : List LookupEntry) :
    readFrom 0 (tokensOn 1 (lookupFaces package type hpackage htype emitStringer es)) =
      .ok ⟨some package, []⟩ := by
  have hquiet : quiet 0 (lineEnd 8 :: tokensOn 9 (messagesFaces type htype emitStringer es)) :=
    quiet_messagesFaces htype emitStringer es 9
  obtain ⟨other, hother⟩ := readFrom_after_package package
    (trimEnd "// noMsg is returned by GetMsg for codes without a message.".toList) 4 hquiet
  have habove : Insignificant (tokensOn 1
      (((linesAbove package hpackage).take 3).map CodeLine.laidFaces)) := by
    simp [Insignificant, linesAbove, tokensOn, lineEnd, Face.on, Token.isSignificant,
      Token.isComment, Token.isNewline]
  have htokens : tokensOn 1 (lookupFaces package type hpackage htype emitStringer es) =
      tokensOn 1 (((linesAbove package hpackage).take 3).map CodeLine.laidFaces) ++
        (name "package").on 4 :: (Face.word package).on 4 ::
          (tokensOn 4 [[], [], [(.lineComment,
              trimEnd "// noMsg is returned by GetMsg for codes without a message.".toList)]] ++
            (name "const" :: noMsgFaces).map (Face.on 7) ++ lineEnd 7 :: lineEnd 8 ::
              tokensOn 9 (messagesFaces type htype emitStringer es)) := rfl
  have hkeyword : ((name "package").on 4).isWord "const".toList = false := by cbv
  rw [htokens, readFrom_insignificant habove, readFrom_other (by rw [hkeyword]; rfl)]
  show (readFrom 0 _).map _ = _
  rw [hother]
  have hpackageAt : ∀ ts, packageAt 0 ((name "package").on 4) ((Face.word package).on 4 :: ts) =
      some package := by
    intro ts
    cbv
  show Except.ok (Reading.mk (packageAt 0 _ _ <|> other) []) = _
  rw [hpackageAt]
  rfl

end

/-! ## The file -/

theorem isWord_constTypeOf {text : String}
    (h : trim text.toList = [] ∨ IsWord (trim text.toList)) :
    IsWord (constTypeOf text).toList := by
  have hint : IsWord defaultConstType.toList := by
    unfold IsWord defaultConstType
    cbv
  unfold constTypeOf
  dsimp only
  split
  · exact hint
  · rename_i hne
    rw [String.toList_ofList]
    refine h.resolve_left fun hnil => hne ?_
    rw [hnil]

/-- What a lookup file is to the layout and to readers of tokens, as soon as its names and its
package are identifiers. -/
theorem exists_lookupSheet {f : LookupFile} (hpackage : IsWord f.package.toList)
    (htype : IsWord f.constType.toList)
    (hentries : ∀ e ∈ f.entries, IsWord e.name.toList ∧ Quoted '"' e.literal.toList) :
    ∃ (s : Sheet) (ts : List Token), f.text.toList = s.source ∧ s.laid = s.source ++ ['\n'] ∧
      tokenize s.laid = .ok ts ∧
      bracesAfter ["var".toList, "messages".toList] ts =
        some ([] :: (f.entries.map entryFaces ++ [[]])) ∧
      readFrom 0 ts = .ok ⟨some f.package.toList, []⟩ := by
  obtain ⟨entries, h⟩ := exists_forall₂ (P := fun e => IsItem e.line (entryFaces e)) fun e he =>
    ⟨_, isItem_entryLine e (hentries e he).1 (hentries e he).2⟩
  let s : Sheet := ⟨_, placed_lookupLines hpackage htype f.emitStringer h⟩
  have hfaces : s.lines.map CodeLine.laidFaces =
      lookupFaces _ _ hpackage htype f.emitStringer f.entries :=
    laidFaces_lookupLines hpackage htype f.emitStringer h
  have htokens := s.tokenize_laid
  rw [hfaces] at htokens
  refine ⟨s, _, ?_, ?_, htokens, ?_, ?_⟩
  · exact toList_joinLines_sheet (s := s) (map_chars_lookupLines hpackage htype h)
  · exact laid_eq_source (tidy_lookupLines hpackage htype f.emitStringer h)
  · exact bracesAfter_lookupFaces hpackage htype f.emitStringer f.entries
  · exact readFrom_lookupFaces hpackage htype f.emitStringer f.entries

/-- **A lookup file always lays out and carries the comments exactly.**  Between the braces of its
map of messages, each comment has one line, in the order of the names: the name, and one literal
that stands for the comment.  Read for constants in its turn, the file has its package and no
comment. -/
theorem render_lookup {source : List Char} {file : ConstantFile} {package constType : String}
    (hfile : readConstants source = .ok file) (hpackage : IsWord package.toList)
    (htype : trim constType.toList = [] ∨ IsWord (trim constType.toList)) :
    ∃ (text plain : String) (ts : List Token) (lines : List (List Face)),
      Renderer.default.render (.lookup (.ofComments package constType file.comments)) =
        .ok text ∧
      Renderer.render ⟨none, .none⟩ (.lookup (.ofComments package constType file.comments)) =
        .ok plain ∧
      text = plain ++ "\n" ∧
      tokenize text.toList = .ok ts ∧
      bracesAfter ["var".toList, "messages".toList] ts = some ([] :: (lines ++ [[]])) ∧
      file.comments.entries.Pairwise (fun a b => a.1 < b.1) ∧
      List.Forall₂ (fun comment line => ∃ literal,
          line = [Face.word comment.1.toList, Face.mark ':', (.literal, literal), Face.mark ','] ∧
          readLiteral literal = some comment.2.toList)
        file.comments.entries lines ∧
      readConstants text.toList = .ok ⟨some package, .empty⟩ := by
  have hentries : ∀ e ∈ (LookupFile.ofComments package constType file.comments).entries,
      IsWord e.name.toList ∧ Quoted '"' e.literal.toList := by
    intro e he
    obtain ⟨comment, hcomment, rfl⟩ := List.mem_map.1 he
    refine ⟨isWord_of_mem_comments hfile comment hcomment, ?_⟩
    simpa [LookupEntry.ofComment] using quoted_stringLiteral comment.2.toList
  have hword : IsWord (LookupFile.ofComments package constType file.comments).constType.toList := by
    simpa only [LookupFile.ofComments] using isWord_constTypeOf htype
  obtain ⟨s, ts, hsource, hlaid, htokens, hbraces, hread⟩ := exists_lookupSheet
    (f := .ofComments package constType file.comments) hpackage hword hentries
  have htext : (AnyDocument.lookup (.ofComments package constType file.comments)).text.toList =
      s.source := hsource
  have hrender := render_default (d := .lookup (.ofComments package constType file.comments)) rfl
    htext
  have hplain := render_plain (d := .lookup (.ofComments package constType file.comments)) rfl
  have hlines : (LookupFile.ofComments package constType file.comments).entries.map entryFaces =
      file.comments.entries.map fun comment => entryFaces (.ofComment comment.1 comment.2) := by
    simp [LookupFile.ofComments]
  rw [hlines] at hbraces
  refine ⟨_, _, ts, _, hrender, hplain, ?_, ?_, hbraces, file.comments.ordered, ?_, ?_⟩
  · rw [hlaid, ← htext]
    simp
  · rw [String.toList_ofList, htokens]
  · rw [List.forall₂_map_right_iff, List.forall₂_same]
    exact fun comment _ => ⟨_, entryFaces_ofComment _ _, readLiteral_stringLiteral _⟩
  · rw [readConstants, String.toList_ofList, htokens]
    dsimp only
    rw [hread]
    simp [Reading.toConstantFile, Comments.ofList, LookupFile.ofComments]

/-- A constant whose comment has a quote, a brace and a backslash. -/
theorem readConstants_brace : readConstants "package p\nconst A = 1 // \"\x7d\\\n".toList =
    .ok ⟨some "p", .ofList [("A", "\"\x7d\\")]⟩ := by
  let remark : Token := ⟨.lineComment, "// \"\x7d\\".toList, 2, 2⟩
  let entry : List Token :=
    [(name "A").on 2, (Face.mark '=').on 2, ⟨.number, ['1'], 2, 2⟩, remark, lineEnd 2]
  have htokens : tokenize "package p\nconst A = 1 // \"\x7d\\\n".toList =
      .ok ((name "package").on 1 :: (name "p").on 1 :: lineEnd 1 :: (name "const").on 2 ::
        entry) := by cbv
  have hdecl : readDeclaration entry = .ok ([⟨['A'], [remark]⟩], [lineEnd 2]) := rfl
  have hend : readFrom 0 [lineEnd 2] = .ok ⟨none, []⟩ := readFrom_quiet (by cbv)
  have hconst : readFrom 0 ((name "const").on 2 :: entry) = .ok ⟨none, [⟨['A'], [remark]⟩]⟩ :=
    readFrom_const (by cbv) hdecl hend
  have hread : readFrom 0 ((name "package").on 1 :: (name "p").on 1 :: lineEnd 1 ::
      (name "const").on 2 :: entry) = .ok ⟨some ['p'], [⟨['A'], [remark]⟩]⟩ := by
    rw [readFrom_other (by cbv), readFrom_other (by cbv), readFrom_other (by cbv)]
    show (((readFrom 0 _).map _).map _).map _ = _
    rw [hconst]
    rfl
  rw [readConstants, htokens]
  dsimp only
  rw [hread]
  cbv

/-- The comment neither ends its literal nor closes the map of messages. -/
theorem render_lookup_brace :
    ∃ (text : String) (ts : List Token) (literal : List Char),
      Renderer.default.render
        (.lookup (.ofComments "p" " Code " (.ofList [("A", "\"\x7d\\")]))) = .ok text ∧
      tokenize text.toList = .ok ts ∧
      bracesAfter ["var".toList, "messages".toList] ts =
        some [[], [name "A", .mark ':', (.literal, literal), .mark ','], []] ∧
      readLiteral literal = some "\"\x7d\\".toList ∧
      readConstants text.toList = .ok ⟨some "p", .empty⟩ := by
  have hpackage : IsWord "p".toList := by
    unfold IsWord
    cbv
  have htype : IsWord (trim " Code ".toList) := by
    have htrim : trim " Code ".toList = "Code".toList := by decide
    rw [htrim]
    unfold IsWord
    cbv
  obtain ⟨text, plain, ts, lines, hrender, -, -, htokens, hbraces, -, hlines, hread⟩ :=
    render_lookup readConstants_brace hpackage (.inr htype)
  have hentries : (Comments.ofList [("A", "\"\x7d\\")]).entries = [("A", "\"\x7d\\")] := rfl
  rw [hentries] at hlines
  cases hlines with
  | cons hline hrest =>
    cases hrest
    obtain ⟨literal, rfl, hliteral⟩ := hline
    exact ⟨text, ts, literal, hrender, htokens, hbraces, hliteral, hread⟩

end Scribe.Document
