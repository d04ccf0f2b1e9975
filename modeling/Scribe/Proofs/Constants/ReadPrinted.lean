import Scribe.Proofs.Constants.Nesting
import Scribe.Proofs.Constants.PrintedTokens

/-!
# Reading written files

A file of constants reads back as it was written: with its package, and with the comment for each
constant that `File.comments` gives it (`readConstants_print`).

An entry ends at the end of its line, since its brackets nest and what it ends in ends a statement
(`takeEntry_line`).  Through the lines of a group the block of comments is followed that the reader
would give to a constant there (`Carries`): a line of `Above` moves it on by `carry`, and the line
of a constant leaves nothing of it.
-/

namespace Scribe.Source.Printed

open Scribe.Text

variable {inGroup : Bool} {depth line openLine : Nat} {last : Option Token}
  {ts rest a before docs left : List Token} {remarks : List Remark}

/-! ## The end of an entry -/

/-- Nothing inside nesting brackets ends an entry. -/
theorem not_endsEntry {t : Token} {inner : List Bracket} (h : Closes inner (t :: ts))
    (hdepth : inner.length = depth) (ht : t.isSignificant)
    (hsemicolon : (decide (0 < depth) || !t.isPunct ';') = true) :
    (decide (depth = 0) && t.endsEntry last) = false := by
  by_contra hcon
  have hends : depth = 0 ∧ t.endsEntry last = true := by simpa using hcon
  obtain ⟨rfl, hends⟩ := hends
  obtain rfl := List.length_eq_zero_iff.1 hdepth
  have hother : t.isPunct ';' = false := by simpa using hsemicolon
  have hpunct : t.isPunct ')' := by
    simpa [Token.endsEntry, Token.isNewline_of_isSignificant ht, hother] using hends
  have hkind : t.kind = .punct ')' := by simpa [Token.isPunct] using hpunct
  have hcloses : t.closes? = some .round := by simp [Token.closes?, hkind]
  obtain ⟨outer, houter, -⟩ := (Closes.closing_iff hcloses).1 h
  exact absurd houter (by simp)

/-- An entry takes all tokens of brackets that nest, when no semicolon stands outside them. -/
theorem takeEntry_nested {inner : List Bracket} (h : Closes inner a) (hdepth : inner.length = depth)
    (hsig : ∀ t ∈ a, t.isSignificant) (hsemicolons : semicolonsNest depth a) :
    takeEntry inGroup depth last (a ++ ts) =
      (takeEntry inGroup 0 (a.getLast?.or last) ts).map fun (taken, rest) =>
        (a ++ taken, rest) := by
  induction a generalizing inner depth last with
  | nil =>
    cases h
    obtain rfl := hdepth.symm
    simp
  | cons t a ih =>
    obtain ⟨ht, hsig⟩ := List.forall_mem_cons.1 hsig
    rw [semicolonsNest, Bool.and_eq_true] at hsemicolons
    have hinside : (decide (depth = 0) && t.endsEntry last) = false :=
      not_endsEntry h hdepth ht hsemicolons.1
    have hopen : Closes (inner ++ around false) (t :: a) := by
      rw [around, if_neg (by simp), List.append_nil]
      exact h
    obtain ⟨inner', hinner, hlength⟩ := exists_inner hopen hdepth hinside
    rw [around, if_neg (by simp), List.append_nil] at hinner
    have hmore : takeEntry inGroup (t.depthAfter depth) (some t) (a ++ ts) = _ :=
      ih hinner hlength hsig hsemicolons.2
    have hlast : (t :: a).getLast?.or last = a.getLast?.or (some t) := by
      rw [List.getLast?_cons]
      cases a.getLast? <;> rfl
    rw [List.cons_append, takeEntry, hinside, if_neg (by simp), if_pos ht, hmore, hlast]
    cases takeEntry inGroup 0 (a.getLast?.or (some t)) ts <;> rfl

/-! ## The line of an entry -/

theorem mem_tailTokens {e : Entry} {t : Token} (h : t ∈ e.tailTokens line) :
    t.isSignificant ∧ t.endLine = line := by
  obtain ⟨u, hu, rfl⟩ := List.mem_map.1 h
  have hcomment := e.tail.no_comment u hu
  have hnewline := isNewline_of_tokenize_line e.tail.cut e.tail.on_line u hu
  have hsig : u.isSignificant := by simp [Token.isSignificant, hcomment, hnewline]
  exact ⟨hsig, rfl⟩

theorem mem_besideTokens {e : Entry} {t : Token} (h : t ∈ e.besideTokens line) : t.isComment := by
  obtain ⟨remark, -, rfl⟩ : ∃ remark, e.beside = some remark ∧ remark.tokenOn line = t := by
    simpa [Entry.besideTokens] using h
  rfl

theorem insignificant_besideTokens (e : Entry) (line : Nat) :
    Insignificant (e.besideTokens line) := by
  intro t ht
  simp [Token.isSignificant, mem_besideTokens ht]

theorem closes_tailTokens (e : Entry) (line : Nat) : Closes [] (e.tailTokens line) := by
  have hnests : Closes [] e.tail.tokens := checkBrackets_eq_ok_iff.1 e.tail.nests
  refine hnests.congr ?_
  rw [Entry.tailTokens, List.map_map]
  rfl

theorem semicolonsNest_onLine (line : Nat) (ts : List Token) :
    semicolonsNest depth (ts.map (Token.onLine line)) = semicolonsNest depth ts := by
  induction ts generalizing depth with
  | nil => rfl
  | cons t ts ih =>
    have hdepth : (t.onLine line).depthAfter depth = t.depthAfter depth :=
      Token.depthAfter_congr rfl depth
    have hpunct : (t.onLine line).isPunct ';' = t.isPunct ';' := Token.isPunct_congr rfl ';'
    rw [List.map_cons, semicolonsNest, semicolonsNest, hdepth, hpunct, ih]

/-- The last token of an entry ends a statement. -/
theorem any_endsStatement (e : Entry) (line : Nat) :
    ((e.tailTokens line).getLast?.or (some (identOn line e.name.text))).any
      Token.endsStatement := by
  have hends := e.tail.ends
  rw [Entry.tailTokens, List.getLast?_map]
  cases hlast : e.tail.tokens.getLast? with
  | none => rfl
  | some t => exact hends t hlast

/-- An entry ends at the end of its line. -/
theorem takeEntry_line (e : Entry) (line : Nat) (ts : List Token) :
    takeEntry inGroup 0 (some (identOn line e.name.text))
        (e.tailTokens line ++ (e.besideTokens line ++ lineEnd line :: ts)) =
      some (e.tailTokens line ++ e.besideTokens line, lineEnd line :: ts) := by
  have hsig : ∀ t ∈ e.tailTokens line, t.isSignificant := by
    intro t ht
    exact (mem_tailTokens ht).1
  have hsemicolons : semicolonsNest 0 (e.tailTokens line) :=
    (semicolonsNest_onLine line e.tail.tokens).trans e.tail.nests_semicolons
  have hbeside := insignificant_besideTokens e line
  have hinside : ∀ t ∈ e.besideTokens line, (decide (0 = 0) && t.endsEntry
      ((e.tailTokens line).getLast?.or (some (identOn line e.name.text)))) = false := by
    intro t ht
    have hinsignificant := hbeside t ht
    simp [Token.endsEntry, Token.isNewline_of_isComment (mem_besideTokens ht),
      Token.isPunct_of_insignificant hinsignificant]
  have hstop : takeEntry inGroup 0
      ((e.tailTokens line).getLast?.or (some (identOn line e.name.text))) (lineEnd line :: ts) =
        some ([], lineEnd line :: ts) := by
    refine takeEntry_stop rfl ?_
    rw [any_endsStatement]
    rfl
  have hdepth : ([] : List Bracket).length = 0 := rfl
  rw [takeEntry_nested (closes_tailTokens e line) hdepth hsig hsemicolons,
    takeEntry_insignificant hbeside hinside, hstop]
  simp

theorem takeEntry_identOn (line : Nat) (text : List Char) (ts : List Token) :
    takeEntry inGroup 0 none (identOn line text :: ts) =
      (takeEntry inGroup 0 (some (identOn line text)) ts).map fun (taken, rest) =>
        (identOn line text :: taken, rest) := by
  rfl

/-! ## The comment of an entry -/

/-- A token that is the comment `r`, wherever it stands. -/
def IsRemark (t : Token) (r : Remark) : Prop := t.kind = .lineComment ∧ t.text = r.mark

theorem commentBody_of_isRemark {t : Token} {r : Remark} (h : IsRemark t r) :
    commentBody t = r.text := by
  have hreturn : dropReturn r.text = r.text := by
    refine if_neg fun hlast => r.no_return ?_
    exact List.mem_of_getLast? hlast
  rw [commentBody, if_pos h.1, h.2]
  exact hreturn

theorem flatMap_commentBody {ts : List Token} {rs : List Remark} (h : List.Forall₂ IsRemark ts rs) :
    ts.flatMap commentBody = rs.flatMap Remark.text := by
  induction h with
  | nil => rfl
  | cons h _ ih => rw [List.flatMap_cons, List.flatMap_cons, commentBody_of_isRemark h, ih]

theorem any_takeWhile_onLine (line : Nat) (ts : List Token) :
    ((ts.map (Token.onLine line)).takeWhile (!·.isPunct '=')).any (·.isPunct ',') =
      declaresMore ts := by
  induction ts with
  | nil => rfl
  | cons t ts ih =>
    have hpunct : ∀ c, (t.onLine line).isPunct c = t.isPunct c := Token.isPunct_congr rfl
    rw [List.map_cons, declaresMore, List.takeWhile_cons, hpunct]
    cases t.isPunct '=' with
    | true => rfl
    | false =>
      have hany := congrArg (t.isPunct ',' || ·) ih
      simpa [hpunct] using hany

/-- The tokens of an entry without the comment beside it. -/
def Entry.code (line : Nat) (e : Entry) : List Token :=
  identOn line e.name.text :: e.tailTokens line

theorem mem_code {e : Entry} {t : Token} (h : t ∈ e.code line) :
    t.isSignificant ∧ t.endLine = line := by
  rcases List.mem_cons.1 h with rfl | h
  · exact ⟨rfl, rfl⟩
  · exact mem_tailTokens h

theorem entryBody_line (e : Entry) (line : Nat) :
    entryBody (e.code line ++ e.besideTokens line) = e.code line := by
  rw [entryBody_append (insignificant_besideTokens e line),
    entryBody_of_significant fun t ht => (mem_code ht).1]

theorem entryTrail_line (e : Entry) (line : Nat) :
    entryTrail (e.code line ++ e.besideTokens line) = e.besideTokens line := by
  rw [entryTrail_append (insignificant_besideTokens e line),
    entryTrail_of_significant fun t ht => (mem_code ht).1, List.nil_append]

theorem exists_last (e : Entry) (line : Nat) :
    ∃ init final, e.code line = init ++ [final] ∧ final.isSignificant ∧ final.endLine = line := by
  obtain ⟨init, final, hfinal⟩ := (List.eq_nil_or_concat (e.code line)).resolve_left
    (List.cons_ne_nil _ _)
  rw [List.concat_eq_append] at hfinal
  refine ⟨init, final, hfinal, ?_⟩
  have hmem : final ∈ e.code line := by
    rw [hfinal]
    exact List.mem_append_right init List.mem_cons_self
  exact mem_code hmem

theorem declaredName_code (e : Entry) (line : Nat) :
    declaredName (e.code line) =
      if e.name.text = ['_'] || declaresMore e.tail.tokens then none else some e.name.text := by
  rw [Entry.code, declaredName, Entry.tailTokens, any_takeWhile_onLine]
  by_cases hblank : e.name.text = ['_']
  · simp [identOn, hblank]
  · cases declaresMore e.tail.tokens <;> simp [identOn, hblank]

theorem trailingComments_line (e : Entry) (line : Nat) (ts : List Token) :
    trailingComments line (e.besideTokens line ++ lineEnd line :: ts) = e.besideTokens line := by
  cases hbeside : e.beside with
  | none => simp [trailingComments, Entry.besideTokens, hbeside, lineEnd, Token.isNewline]
  | some remark =>
    simp [trailingComments, Entry.besideTokens, hbeside, lineEnd, Remark.tokenOn, Token.isNewline,
      Token.isComment]

/-- A constant with its comment, as it goes into a collection. -/
def entryOf (a : Attribution) : String × String :=
  (String.ofList a.name, String.ofList (commentText a.comments))

/-- **An entry has the comment that it should have.** -/
theorem attribution_line (e : Entry) (line : Nat) (ts : List Token)
    (hdocs : List.Forall₂ IsRemark docs remarks) :
    (attribution docs (e.code line ++ e.besideTokens line) (lineEnd line :: ts)).toList.map
      entryOf = e.documented remarks := by
  have hname := declaredName_code e line
  rw [← entryBody_line] at hname
  obtain ⟨init, final, hfinal, -, hline⟩ := exists_last e line
  unfold Entry.documented Entry.comment
  cases hskip : decide (e.name.text = ['_']) || declaresMore e.tail.tokens with
  | true =>
    rw [hskip, if_pos rfl] at hname
    rw [attribution_eq_none hname]
    rfl
  | false =>
    rw [hskip, if_neg (by simp)] at hname
    rw [attribution_eq ((entryBody_line e line).trans hfinal) hname, entryTrail_line, hline,
      entryComments, trailingComments_line]
    cases hbeside : e.beside with
    | some remark =>
      have hremark : IsRemark (remark.tokenOn line) remark := ⟨rfl, rfl⟩
      simp [Entry.besideTokens, hbeside, entryOf, commentText, commentBody_of_isRemark hremark]
    | none =>
      cases hdocs with
      | nil => simp [Entry.besideTokens, hbeside]
      | cons hfirst hmore =>
        simp [Entry.besideTokens, hbeside, entryOf, commentText, commentBody_of_isRemark hfirst,
          flatMap_commentBody hmore]

/-! ## The block above an entry -/

/-- After the tokens `before`, nearest first, a constant has the comments `remarks` above it. -/
structure Carries (before : List Token) (remarks : List Remark) : Prop where
  ended : ∃ n rest, before = n :: rest ∧ n.isNewline
  comments : List.Forall₂ IsRemark (docComments before) remarks

/-- A line with a significant token leaves nothing above the next. -/
theorem carries_line (line : Nat) {t : Token} (ht : t.isSignificant) (ha : ∀ t ∈ a, t.isComment)
    (before : List Token) : Carries (lineEnd line :: (a ++ t :: before)) [] := by
  refine ⟨⟨_, _, rfl, rfl⟩, ?_⟩
  have hcomment : ¬ t.isComment := by
    intro h
    simp [Token.isSignificant, h] at ht
  have hnewline := Token.isNewline_of_isSignificant ht
  have hnone : commentLinesBack (lineEnd line :: (a ++ t :: before)) = [] := by
    rw [commentLinesBack_cons, List.takeWhile_append_of_pos ha, List.takeWhile_cons_of_neg hcomment,
      List.dropWhile_append_of_pos ha, List.dropWhile_cons_of_neg hcomment]
    simp [hnewline]
  rw [docComments_of_isNewline rfl, hnone]
  exact .nil

theorem carries_entry (e : Entry) (line : Nat) (before : List Token) :
    Carries (lineEnd line :: ((e.code line ++ e.besideTokens line).reverse ++ before)) [] := by
  obtain ⟨init, final, hfinal, hsig, -⟩ := exists_last e line
  have hbeside : ∀ t ∈ (e.besideTokens line).reverse, t.isComment := by
    intro t ht
    exact mem_besideTokens (List.mem_reverse.1 ht)
  have hcarries := carries_line line hsig hbeside (init.reverse ++ before)
  rw [hfinal]
  simpa using hcarries

theorem Carries.pass (h : Carries before remarks) (l : Above) (line : Nat) :
    Carries ((l.tokens line).reverse ++ before) (carry remarks l) := by
  obtain ⟨⟨n, rest, rfl, hn⟩, hcomments⟩ := h
  rw [docComments_of_isNewline hn] at hcomments
  constructor
  · cases l <;> exact ⟨_, _, rfl, rfl⟩
  cases l with
  | empty blanks =>
    have hnone := commentLinesBack_of_isNewline (lineEnd line) hn rest
    show List.Forall₂ IsRemark (docComments (lineEnd line :: n :: rest)) []
    rw [docComments_of_isNewline rfl, hnone]
    exact .nil
  | comment indent remark =>
    have hmore : commentLinesBack (lineEnd line :: remark.tokenOn line :: n :: rest) =
        remark.tokenOn line :: commentLinesBack (n :: rest) := by
      have hcomment : (remark.tokenOn line).isComment := rfl
      have hother : ¬ n.isComment := by
        intro h
        simp [Token.isNewline_of_isComment h] at hn
      rw [commentLinesBack_cons, List.takeWhile_cons_of_pos hcomment,
        List.takeWhile_cons_of_neg hother, List.dropWhile_cons_of_pos hcomment,
        List.dropWhile_cons_of_neg hother]
      simp [hn]
    show List.Forall₂ IsRemark (docComments (lineEnd line :: remark.tokenOn line :: n :: rest))
      (remarks ++ [remark])
    rw [docComments_of_isNewline rfl, hmore, List.reverse_cons]
    exact List.rel_append hcomments (.cons ⟨rfl, rfl⟩ .nil)

theorem Carries.pass_all (h : Carries before remarks) (ls : List Above) (line : Nat) :
    Carries ((aboveTokens line ls).reverse ++ before) (ls.foldl carry remarks) := by
  induction ls generalizing before remarks line with
  | nil => exact h
  | cons l ls ih =>
    have hline := h.pass l line
    rw [aboveTokens, List.reverse_append, List.append_assoc]
    exact ih hline (line + 1)

/-! ## Groups -/

theorem insignificant_aboveTokens (ls : List Above) (line : Nat) :
    Insignificant (aboveTokens line ls) := by
  induction ls generalizing line with
  | nil =>
    intro t ht
    simp [aboveTokens] at ht
  | cons l ls ih =>
    intro t ht
    rcases List.mem_append.1 ht with ht | ht
    · cases l with
      | empty blanks =>
        obtain rfl := List.mem_singleton.1 ht
        rfl
      | comment indent remark =>
        rcases List.mem_cons.1 ht with rfl | ht
        · rfl
        · obtain rfl := List.mem_singleton.1 ht
          rfl
    · exact ih (line + 1) t ht

theorem Entry.tokens_append (e : Entry) (line : Nat) (ts : List Token) :
    e.tokens line ++ ts = identOn line e.name.text ::
      (e.tailTokens line ++ (e.besideTokens line ++ lineEnd line :: ts)) := by
  simp [Entry.tokens]

/-- The line of a constant in a group. -/
theorem readGroup_line (e : Entry) (line : Nat) {before : List Token} {found : List Attribution}
    (hread : readGroup openLine
      (lineEnd line :: ((e.code line ++ e.besideTokens line).reverse ++ before)) ts =
        .ok (found, left)) :
    readGroup openLine before (e.tokens line ++ ts) =
      .ok ((attribution (docComments before) (e.code line ++ e.besideTokens line)
        (lineEnd line :: ts)).toList ++ found, left) := by
  have htake : takeEntry true 0 (some (identOn line e.name.text)) _ = _ := takeEntry_line e line ts
  have hend : (lineEnd line).isSignificant = false := rfl
  have hskip : readGroup openLine ((e.code line ++ e.besideTokens line).reverse ++ before)
      (lineEnd line :: ts) = .ok (found, left) := by
    rw [readGroup_skip rfl (by rw [hend]; rfl)]
    exact hread
  rw [e.tokens_append]
  exact readGroup_entry rfl rfl htake hskip

/-- **The constants of a group have the comments that they should have.** -/
theorem readGroup_members (ms : List Member) (line : Nat) (hbefore : Carries before [])
    (hts : ∀ before', readGroup openLine before' ts = .ok ([], left)) :
    ∃ found, readGroup openLine before (memberTokens line ms ++ ts) = .ok (found, left) ∧
      found.map entryOf = ms.flatMap fun m => m.entry.documented (block m.above) := by
  induction ms generalizing before line with
  | nil => exact ⟨[], hts before, rfl⟩
  | cons m ms ih =>
    have hblock : Carries ((aboveTokens line m.above).reverse ++ before) (block m.above) :=
      hbefore.pass_all m.above line
    obtain ⟨found, hread, hfound⟩ := ih (line + m.above.length + 1) (carries_entry m.entry _ _)
    rw [memberTokens, List.append_assoc, List.append_assoc,
      readGroup_insignificant (insignificant_aboveTokens m.above line)]
    refine ⟨_, readGroup_line m.entry (line + m.above.length) hread, ?_⟩
    rw [List.map_append, attribution_line m.entry _ _ hblock.comments, hfound, List.flatMap_cons]

/-- The bracket at the end of a group, with the lines before it. -/
theorem readGroup_end (below : List Above) (line : Nat) {t : Token} (ht : t.isPunct ')')
    (ts before : List Token) :
    readGroup openLine before (aboveTokens line below ++ t :: ts) = .ok ([], ts) := by
  rw [readGroup_insignificant (insignificant_aboveTokens below line), readGroup_close ht]

/-! ## Files -/

/-- **A declaration is read to the end of its line.** -/
theorem readDeclaration_body (d : Declaration) (line : Nat) (ts : List Token) :
    ∃ found last, readDeclaration (d.body line ++ ts) = .ok (found, lineEnd last :: ts) ∧
      found.map entryOf = d.documented := by
  cases d with
  | alone above entry =>
    have htake : takeEntry false 0 none (entry.tokens line ++ ts) =
        some (entry.code line ++ entry.besideTokens line, lineEnd line :: ts) := by
      rw [entry.tokens_append, takeEntry_identOn, takeEntry_line]
      rfl
    have hdrop : (entry.tokens line ++ ts).dropWhile (!·.isSignificant) = entry.tokens line ++ ts :=
      rfl
    exact ⟨_, line, readDeclaration_alone hdrop rfl htake, attribution_line entry line ts .nil⟩
  | group above members below =>
    have hend : (lineEnd line).isSignificant = false := rfl
    have hnone : ∀ t ∈ ([] : List Token), t.isComment := by simp
    have hbefore : Carries [lineEnd line, punctOn line '('] [] := carries_line line rfl hnone []
    have hclose : (punctOn (groupEnd line members below) ')').isPunct ')' := rfl
    obtain ⟨found, hread, hfound⟩ := readGroup_members members (line + 1) hbefore
      (readGroup_end below (afterMembers (line + 1) members) hclose
        (lineEnd (groupEnd line members below) :: ts))
    have htokens : (Declaration.group above members below).body line ++ ts =
        punctOn line '(' :: lineEnd line :: (memberTokens (line + 1) members ++
          (aboveTokens (afterMembers (line + 1) members) below ++
            punctOn (groupEnd line members below) ')' ::
              lineEnd (groupEnd line members below) :: ts)) := by
      simp [Declaration.body]
    have hdrop : ∀ us, (punctOn line '(' :: us).dropWhile (!·.isSignificant) =
        punctOn line '(' :: us := fun us => rfl
    refine ⟨found, groupEnd line members below, ?_, hfound⟩
    rw [htokens, readDeclaration_group (hdrop _) rfl, readGroup_skip rfl (by rw [hend]; rfl)]
    exact hread

/-- **The declarations of a file give their constants the comments that they should have.** -/
theorem readFrom_declarations (ds : List Declaration) (line : Nat) :
    ∃ found, readFrom 0 (declarationTokens line ds) = .ok ⟨none, found⟩ ∧
      found.map entryOf = ds.flatMap Declaration.documented := by
  induction ds generalizing line with
  | nil => exact ⟨[], by rw [declarationTokens, readFrom], rfl⟩
  | cons d ds ih =>
    obtain ⟨found, hread, hfound⟩ := ih (d.after (line + d.above.length))
    obtain ⟨found₀, last, hdecl, hfound₀⟩ := readDeclaration_body d (line + d.above.length)
      (declarationTokens (d.after (line + d.above.length)) ds)
    have hconst : (identOn (line + d.above.length) constWord.text).isWord "const".toList := by cbv
    have hend : readFrom 0 (lineEnd last ::
        declarationTokens (d.after (line + d.above.length)) ds) = .ok ⟨none, found⟩ := by
      rw [← List.singleton_append, readFrom_lineEnds (lineEnds_nil.cons rfl), hread]
    refine ⟨found₀ ++ found, ?_, ?_⟩
    · rw [declarationTokens, Declaration.tokens, List.append_assoc,
        readFrom_insignificant (insignificant_aboveTokens d.above line), List.cons_append]
      exact readFrom_const hconst hdecl hend
    · rw [List.map_append, hfound₀, hfound, List.flatMap_cons]

/-- The package clause of a file. -/
theorem readFrom_package (f : File) {r : Reading}
    (h : readFrom 0 (declarationTokens 2 f.declarations) = .ok r) :
    readFrom 0 f.tokens = .ok { r with package := some f.package.text } := by
  have hkeyword : (identOn 1 packageWord.text).isWord "const".toList = false := by cbv
  have hpackageWord : (identOn 1 packageWord.text).isWord "package".toList = true := by cbv
  have hname : (identOn 1 f.package.text).isWord "const".toList = false := by
    have hne : f.package.text ≠ "const".toList := f.package_ne
    simp only [identOn, Token.isWord, hne, decide_false, Bool.and_false]
  have hpackage : ∀ ts, packageAt 0 (identOn 1 packageWord.text)
      (identOn 1 f.package.text :: ts) = some f.package.text := by
    intro ts
    rw [packageAt, hpackageWord]
    rfl
  have hdepth : ∀ text, (identOn 1 text).depthAfter 0 = 0 := by
    intro text
    rfl
  rw [File.tokens, readFrom_other (by rw [hkeyword]; rfl), readFrom_other (by rw [hname]; rfl),
    hpackage, hdepth, hdepth, ← List.singleton_append,
    readFrom_lineEnds (lineEnds_nil.cons rfl), h]
  rfl

/-- **A written file reads back as its package and the comments of its constants.** -/
theorem readConstants_print (f : File) :
    readConstants f.print = .ok ⟨some (String.ofList f.package.text), f.comments⟩ := by
  obtain ⟨found, hread, hfound⟩ := readFrom_declarations f.declarations 2
  have hfile := readFrom_package f hread
  rw [readConstants, tokenize_print]
  dsimp only
  rw [hfile, File.comments, ← hfound]
  rfl

/-- A comment above one constant and a comment beside another, which an empty line parts from the
first. -/
theorem readConstants_print_replies :
    ∃ f : File, f.print = ("package replies\nconst (\n\t// all is well\n\tDone = iota\n" ++
        "\n\tLost // nothing came\n)\n").toList ∧
      readConstants f.print =
        .ok ⟨some "replies", .ofList [("Done", "all is well"), ("Lost", "nothing came")]⟩ := by
  have htab : ∀ c ∈ ['\t'], isGap c := by simp [isGap]
  have hspace : ∀ c ∈ [' '], isGap c := by simp [isGap]
  let done : Entry :=
    { name := ⟨"Done".toList, by cbv⟩
      gap := ⟨[' '], hspace⟩
      tail := ⟨"= iota".toList, [⟨.punct '=', ['='], 1, 1⟩, ⟨.ident, "iota".toList, 1, 1⟩],
        by cbv, by decide +kernel, by simp [Token.isComment], by cbv, by cbv,
        by simp [Token.endsStatement]⟩
      parted := by simp
      beside := none }
  let lost : Entry :=
    { name := ⟨"Lost".toList, by cbv⟩
      gap := ⟨[], by simp⟩
      tail := ⟨[], [], by cbv, by simp, by simp, by cbv, by cbv, by simp⟩
      parted := fun _ => rfl
      beside := some ⟨" nothing came".toList, by decide +kernel, by decide +kernel⟩ }
  let well : Remark := ⟨" all is well".toList, by decide +kernel, by decide +kernel⟩
  let f : File :=
    { package := ⟨"replies".toList, by cbv⟩
      package_ne := by decide +kernel
      declarations := [.group [] [⟨[.comment ⟨['\t'], htab⟩ well], ⟨['\t'], htab⟩, done⟩,
        ⟨[.empty ⟨[], by simp⟩], ⟨['\t'], htab⟩, lost⟩] []] }
  have hpackage : String.ofList f.package.text = "replies" := by cbv
  have hcomments : f.declarations.flatMap Declaration.documented =
      [("Done", "all is well"), ("Lost", "nothing came")] := by cbv
  refine ⟨f, by cbv, ?_⟩
  rw [readConstants_print, hpackage, File.comments, hcomments]

end Scribe.Source.Printed
