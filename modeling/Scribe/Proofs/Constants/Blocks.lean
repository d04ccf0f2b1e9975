import Scribe.Proofs.Constants.Joined
import Scribe.Proofs.Constants.Quiet

/-!
# Blocks between declarations

A block is a header, such as that of a function or a type, and a body between curly brackets.  The
reader of constants passes over it: the header has neither keyword in it, and inside the brackets
keywords do not count (`quiet_block`).  After the closing bracket the reader stands where it stood
before the block (`ReadsFirst.append_block`).

What is in the body therefore has no influence on the constants (`readConstants_block`).  It can
only move the lines of what follows, and the text of a comment does not depend on its line.
-/

namespace Scribe.Source

open Scribe.Text

variable {p header body body' : List Char} {hs xs : List Token} {o c : Token} {r : Reading}
  {line : Nat}

/-- A body between curly brackets, after its header. -/
def block (header body : List Char) : List Char := header ++ '{' :: (body ++ ['}'])

/-- A header has no comments and neither keyword that the reader of constants looks at, and its
brackets nest. -/
def IsHeader (header : List Char) : Prop :=
  ∃ ts, tokenize header = .ok ts ∧ Nested ts ∧ (∀ t ∈ ts, t.isComment = false) ∧
    ∀ t ∈ ts, t.isWord "const".toList = false ∧ t.isWord "package".toList = false

/-- A body ends in a line feed, and its brackets nest. -/
def IsBody (body : List Char) : Prop :=
  (∃ ts, tokenize body = .ok ts ∧ Nested ts) ∧ body.getLast? = some '\n'

/-- A source that is laid out can be a body. -/
theorem isBody_of_layout {t : List Char} (h : layout body = .ok t)
    (hend : body.getLast? = some '\n') : IsBody body :=
  ⟨exists_nested_of_layout h, hend⟩

/-! ## The tokens of a block -/

theorem endsBefore_curly {kind : TokenKind} (h : kind ≠ .lineComment) : kind.endsBefore '{' := by
  cases kind with
  | lineComment => exact absurd rfl h
  | ident => decide
  | number => decide
  | punct c => simp [TokenKind.endsBefore]
  | _ => rfl

theorem fits_curly : Fits (.punct '{') ['{'] '\n' ∧ Fits (.punct '}') ['}'] '\n' :=
  ⟨.punct (by decide) (by decide) (by decide) (by decide) (by decide) (by decide) (by decide),
    .punct (by decide) (by decide) (by decide) (by decide) (by decide) (by decide) (by decide)⟩

/-- A block has the tokens of its header and of its body, with the brackets around these. -/
theorem exists_lexes_block (hheader : tokenizeFrom line header = .ok hs)
    (hcomment : ∀ t ∈ hs, t.isComment = false)
    (hbody : tokenizeFrom (line + newlines header) body = .ok xs)
    (hend : body.getLast? = some '\n') :
    ∃ o c, o.kind = .punct '{' ∧ c.kind = .punct '}' ∧
      Lexes line (block header body) (line + newlines (block header body))
        (hs ++ o :: (xs ++ [c])) := by
  have hopen := Lexes.mark fits_curly.1 (by decide) (line + newlines header)
  have hclose := Lexes.mark fits_curly.2 (by decide) (line + newlines header + newlines body)
  have hinside := hopen.append ((lexes_of_getLast? hbody hend).append hclose)
  have hlast : ∀ t ∈ hs.getLast?, t.kind.endsBefore '{' := by
    intro t ht
    apply endsBefore_curly
    intro hkind
    simpa [Token.isComment, hkind] using hcomment t (List.mem_of_getLast? ht)
  have hcount : newlines (block header body) = newlines header + newlines body := by
    simp [block, newlines_append]
  rw [hcount, ← Nat.add_assoc]
  exact ⟨_, _, rfl, rfl, .before hheader hlast hinside⟩

/-- The tokens of a block nest, and neither keyword is among those outside its brackets. -/
theorem quiet_block (hnested : Nested hs)
    (hword : ∀ t ∈ hs, t.isWord "const".toList = false ∧ t.isWord "package".toList = false)
    (ho : o.kind = .punct '{') (hinner : Nested xs) (hc : c.kind = .punct '}') :
    Nested (hs ++ o :: (xs ++ [c])) ∧ quiet 0 (hs ++ o :: (xs ++ [c])) := by
  have hopens : o.opens? = some .curly := by simp [Token.opens?, ho]
  have hcloses : c.closes? = some .curly := by simp [Token.closes?, hc]
  refine ⟨hnested.append (.pair hopens hinner hcloses .nil), ?_⟩
  have hopen : ∀ word, o.isWord word = false := by
    intro word
    simp [Token.isWord, ho]
  rw [quiet_append, quiet_of_not_isWord hword, hnested.foldl_depthAfter, quiet, hopen, hopen,
    Token.depthAfter_of_opens? hopens, quiet_append, quiet_of_nested hinner (Nat.succ_pos 0),
    hinner.foldl_depthAfter]
  rfl

/-! ## Reading past a block -/

/-- **The reader of constants passes over a block,** and stands outside all brackets after it. -/
theorem ReadsFirst.append_block (hp : ReadsFirst p r) (hheader : IsHeader header)
    (hbody : IsBody body) : ReadsFirst (p ++ block header body) r := by
  obtain ⟨ts, hlexes, hreads⟩ := hp
  obtain ⟨hs, hhs, hnested, hcomment, hword⟩ := hheader
  obtain ⟨⟨xs, hxs, hinner⟩, hend⟩ := hbody
  have hbefore := tokenizeFrom_down hhs (newlines p)
  have hinside := tokenizeFrom_down hxs (newlines p + newlines header)
  rw [← Nat.add_assoc] at hinside
  have hcomment' : ∀ t ∈ hs.map (Token.down (newlines p)), t.isComment = false :=
    List.forall_mem_map.2 hcomment
  have hword' : ∀ t ∈ hs.map (Token.down (newlines p)),
      t.isWord "const".toList = false ∧ t.isWord "package".toList = false :=
    List.forall_mem_map.2 hword
  obtain ⟨o, c, ho, hc, hblock⟩ := exists_lexes_block hbefore hcomment' hinside hend
  obtain ⟨hnest, hquiet⟩ := quiet_block (nested_down hnested (newlines p)) hword' ho
    (nested_down hinner (newlines p + newlines header)) hc
  have hjoined := hlexes.append hblock
  rw [Nat.add_assoc, ← newlines_append] at hjoined
  refine ⟨_, hjoined, ?_⟩
  intro us
  rw [List.append_assoc, hreads, readFrom_append_of_quiet hquiet, hnest.foldl_depthAfter]

/-- What is read after such a source depends on what the source says, and on nothing else of it. -/
theorem ReadsFirst.readConstants_eq_ok_iff (h : ReadsFirst p r) (q : List Char) (f : ConstantFile) :
    readConstants (p ++ q) = .ok f ↔
      ∃ r', reading q = .ok r' ∧ (r.append r').toConstantFile = f := by
  rw [readConstants_eq]
  rcases h.reading_append q with ⟨e, e', he, he', -, -⟩ | ⟨r', hr', hboth⟩
  · rw [he, he']
    simp [Except.map]
  · rw [hr', hboth, Except.map, Reading.toConstantFile_append_down]
    simp

theorem ReadsFirst.exists_readConstants_iff (h : ReadsFirst p r) (q : List Char) :
    (∃ f, readConstants (p ++ q) = .ok f) ↔ ∃ f, readConstants q = .ok f := by
  constructor
  · rintro ⟨f, hf⟩
    obtain ⟨r', hr', -⟩ := (h.readConstants_eq_ok_iff q f).1 hf
    exact ⟨r'.toConstantFile, by rw [readConstants_eq, hr']; rfl⟩
  · rintro ⟨f, hf⟩
    rw [readConstants_eq] at hf
    obtain ⟨r', hr', -⟩ := exists_of_map_eq_ok hf
    exact ⟨_, (h.readConstants_eq_ok_iff q _).2 ⟨r', hr', rfl⟩⟩

/-- **The body of a block has no influence on the constants** of a file that has the block after
whole declarations: the file can be read when what comes after the block can, and with another body
in its place it says the same. -/
theorem readConstants_block {s : List Char} (hs : IsWhole s) (hheader : IsHeader header)
    (hbody : IsBody body) (hbody' : IsBody body') (rest : List Char) :
    ((∃ f, readConstants (s ++ block header body ++ rest) = .ok f) ↔
      ∃ f, readConstants rest = .ok f) ∧
    ∀ f, readConstants (s ++ block header body ++ rest) = .ok f ↔
      readConstants (s ++ block header body' ++ rest) = .ok f := by
  obtain ⟨r, -, hfirst⟩ := hs.exists_readsFirst
  have hread := hfirst.append_block hheader hbody
  have hread' := hfirst.append_block hheader hbody'
  refine ⟨hread.exists_readConstants_iff rest, ?_⟩
  intro f
  rw [hread.readConstants_eq_ok_iff, hread'.readConstants_eq_ok_iff]

/-- A function that declares constants of its own, and one with a bracket in a literal and another
in a comment. -/
theorem readConstants_block_function :
    let s := "package p\nconst A = 1\n".toList
    let header := "func f(a) ".toList
    let body := "\nconst (\n// b\nA = 2\n)\npackage q\n".toList
    let body' := "x = \"\x7d\" // \x7b\n".toList
    let after := "const B = 3 // c\n".toList
    IsWhole s ∧ IsHeader header ∧ IsBody body ∧ IsBody body' ∧
      readConstants (s ++ block header body ++ after) = .ok ⟨some "p", .ofList [("B", "c")]⟩ ∧
      ∀ rest, ((∃ f, readConstants (s ++ block header body ++ rest) = .ok f) ↔
          ∃ f, readConstants rest = .ok f) ∧
        ∀ f, readConstants (s ++ block header body ++ rest) = .ok f ↔
          readConstants (s ++ block header body' ++ rest) = .ok f := by
  have hlayout : layout "package p\nconst A = 1\n".toList =
      .ok "package p\nconst A = 1\n".toList := by cbv
  have hts : tokenize "package p\nconst A = 1\n".toList =
      .ok [⟨.ident, "package".toList, 1, 1⟩, ⟨.ident, "p".toList, 1, 1⟩,
        ⟨.newline, "\n".toList, 1, 1⟩, ⟨.ident, "const".toList, 2, 2⟩,
        ⟨.ident, "A".toList, 2, 2⟩, ⟨.punct '=', "=".toList, 2, 2⟩,
        ⟨.number, "1".toList, 2, 2⟩, ⟨.newline, "\n".toList, 2, 2⟩] := by cbv
  have hwhole := isWhole_of_tokenize hlayout hts (by decide) (by decide)
  have hhs : tokenize "func f(a) ".toList =
      .ok [⟨.ident, "func".toList, 1, 1⟩, ⟨.ident, "f".toList, 1, 1⟩,
        ⟨.punct '(', "(".toList, 1, 1⟩, ⟨.ident, "a".toList, 1, 1⟩,
        ⟨.punct ')', ")".toList, 1, 1⟩] := by cbv
  have hheader : IsHeader "func f(a) ".toList :=
    ⟨_, hhs, checkBrackets_nested_iff.1 (by cbv), by decide, by decide⟩
  have hlaid : layout "\nconst (\n// b\nA = 2\n)\npackage q\n".toList =
      .ok "const (\n\t// b\n\tA = 2\n)\npackage q\n".toList := by cbv
  have hlaid' : layout "x = \"\x7d\" // \x7b\n".toList =
      .ok "x = \"\x7d\" // \x7b\n".toList := by cbv
  have hbody := isBody_of_layout hlaid (by decide)
  have hbody' := isBody_of_layout hlaid' (by decide)
  exact ⟨hwhole, hheader, hbody, hbody', by decide +kernel,
    readConstants_block hwhole hheader hbody hbody'⟩

end Scribe.Source
