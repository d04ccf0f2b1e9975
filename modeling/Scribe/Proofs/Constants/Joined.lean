import Mathlib
import Scribe.Proofs.Constants.Ending
import Scribe.Proofs.Constants.Nesting
import Scribe.Proofs.Constants.Relabel
import Scribe.Proofs.Source.Joined

/-!
# The constants of joined sources

What a source says about its constants does not depend on what comes after it, if the source is
*whole*: its brackets nest, it ends in a line feed, and its last significant token is a value or a
closing bracket (`IsWhole`).  Then each of its declarations is over when it ends
(`left_ne_nil_of_finished`), no comment of what follows stands beside one of its entries (`Apart`),
and the rest is read as if it stood alone (`readFrom_append`).

So the constants of two sources joined end to end are those of the first and those of the second
(`readConstants_append`), where the second may be any text at all; an error is its error, on a line
further down.
-/

namespace Scribe.Source

open Scribe.Text

variable {s : List Char} {ts us b rest taken left before : List Token} {t : Token} {r : Reading}
  {found : List Attribution} {inner : List Bracket} {depth openLine : Nat} {last : Option Token}

/-! ## Finished tokens -/

/-- Whether a token is a value or closes a bracket.  No declaration goes on from one of these after
a line end. -/
def Token.endsDeclaration (t : Token) : Bool :=
  match t.kind with
  | .number | .literal | .rawString => true
  | _ => t.isClose

theorem Token.endsStatement_of_endsDeclaration (h : t.endsDeclaration) : t.endsStatement := by
  by_cases hclose : t.isClose
  · obtain ⟨bracket, hcloses⟩ := Option.isSome_iff_exists.1 hclose
    have hkind := kind_of_closes? hcloses
    cases bracket <;> simp [endsStatement, hkind, Bracket.closing]
  · unfold endsDeclaration at h
    split at h <;> simp_all [endsStatement]

theorem Token.endsDeclaration_of_ident (h : t.kind = .ident) : t.endsDeclaration = false := by
  simp [endsDeclaration, isClose, closes?, h]

/-- Tokens after which nothing goes on: the last is a line end, and the last significant one ends a
declaration. -/
structure Finished (ts : List Token) : Prop where
  lineEnd : ∀ n ∈ ts.getLast?, n.isNewline
  final : ∀ t ∈ (ts.filter Token.isSignificant).getLast?, t.endsDeclaration

namespace Finished

theorem suffix (h : Finished (ts ++ us)) : Finished us where
  lineEnd n hn := h.lineEnd n (by rw [List.getLast?_append, hn]; rfl)
  final t ht := h.final t (by rw [List.filter_append, List.getLast?_append, ht]; rfl)

theorem apart (h : Finished ts) (b : List Token) : Apart ts b := .inl h.lineEnd

/-- A significant token follows a word, since no word is the last one. -/
theorem exists_significant (h : Finished (t :: ts)) (hkind : t.kind = .ident) :
    ∃ u more, ts.dropWhile (!·.isSignificant) = u :: more := by
  cases hts : ts.dropWhile (!·.isSignificant) with
  | cons u more => exact ⟨u, more, rfl⟩
  | nil =>
    have hnone : ts.filter Token.isSignificant = [] := by
      rw [List.filter_eq_nil_iff]
      intro u hu
      simpa using List.dropWhile_eq_nil_iff.1 hts u hu
    have hsig : t.isSignificant := by
      simp [Token.isSignificant, Token.isComment, Token.isNewline, hkind]
    have hends := h.final t (by rw [List.filter_cons_of_pos hsig, hnone]; rfl)
    rw [Token.endsDeclaration_of_ident hkind] at hends
    exact absurd hends (by simp)

end Finished

/-! ## Entries and groups -/

/-- An entry outside a group ends before the tokens do, if the last of them is a line end and the
last significant one ends a statement. -/
theorem rest_ne_nil_of_lineEnd (h : Closes (inner ++ around false) ts)
    (hdepth : inner.length = depth) (hne : ts ≠ []) (hend : ∀ n ∈ ts.getLast?, n.isNewline)
    (hlast : ((ts.filter Token.isSignificant).getLast?.or last).any Token.endsStatement)
    (htake : takeEntry false depth last ts = some (taken, rest)) : rest ≠ [] := by
  induction ts generalizing inner depth last taken with
  | nil => exact absurd rfl hne
  | cons t ts ih =>
    rcases takeEntry_cases htake with ⟨-, -, rfl⟩ | ⟨hstop, more, rfl, hmore⟩
    · exact List.cons_ne_nil t ts
    cases ts with
    | nil =>
      -- The line end is outside all brackets, so it would have ended the entry.
      have hnewline : t.isNewline := hend t rfl
      have hsig := Token.isSignificant_of_isNewline hnewline
      have hnil : Closes (inner ++ around false) [] := (Closes.insignificant_iff hsig).1 h
      have hinner : inner = [] := by
        cases inner with
        | nil => rfl
        | cons bracket inner => cases hnil
      rw [hinner] at hdepth
      rw [List.filter_cons_of_neg (by simp [hsig])] at hlast
      have hlast' : last.any Token.endsStatement := by simpa using hlast
      simp [← hdepth, Token.endsEntry, hnewline, hlast'] at hstop
    | cons u ts =>
      obtain ⟨inner', h', hdepth'⟩ := exists_inner h hdepth hstop
      refine ih h' hdepth' (List.cons_ne_nil u ts) ?_ ?_ hmore
      · intro n hn
        exact hend n (by rwa [List.getLast?_cons_cons])
      · by_cases hsig : t.isSignificant
        · rw [List.filter_cons_of_pos hsig, List.getLast?_cons] at hlast
          rw [if_pos hsig]
          cases hfilter : ((u :: ts).filter Token.isSignificant).getLast? <;>
            simpa [hfilter] using hlast
        · rw [List.filter_cons_of_neg hsig] at hlast
          rwa [if_neg hsig]

/-- A closing bracket stands before what is left after a group. -/
theorem exists_closer_of_readGroup (h : readGroup openLine before ts = .ok (found, left)) :
    ∃ front c, ts = front ++ c :: left ∧ c.isPunct ')' := by
  fun_induction readGroup openLine before ts generalizing found left with
  | case1 => simp at h
  | case2 before t ts hclose =>
    obtain ⟨-, rfl⟩ := Prod.mk.inj (Except.ok.inj h)
    exact ⟨[], t, rfl, hclose⟩
  | case3 before t ts hclose hskip ih =>
    obtain ⟨front, c, rfl, hc⟩ := ih h
    exact ⟨t :: front, c, rfl, hc⟩
  | case4 => simp at h
  | case5 before t ts hclose hskip more rest htake ih =>
    obtain ⟨⟨found₀, left₀⟩, hgroup, heq⟩ := exists_of_map_eq_ok h
    obtain ⟨-, rfl⟩ := Prod.mk.inj heq
    obtain ⟨front, c, rfl, hc⟩ := ih hgroup
    exact ⟨t :: (more ++ front), c, by rw [← takeEntry_append htake]; simp, hc⟩

theorem readDeclaration_suffix (h : readDeclaration ts = .ok (found, left)) : left <:+ ts := by
  have hdrop := List.dropWhile_suffix (fun t : Token => !t.isSignificant) (l := ts)
  rcases readDeclaration_cases h with
    ⟨-, -, rfl⟩ | ⟨t, more, hts, -, hgroup⟩ | ⟨t, more, taken, hts, -, htake, -⟩
  · exact List.nil_suffix
  · obtain ⟨front, c, rfl, -⟩ := exists_closer_of_readGroup hgroup
    rw [hts] at hdrop
    exact .trans ⟨t :: (front ++ [c]), by simp⟩ hdrop
  · rw [hts, ← takeEntry_append htake] at hdrop
    exact (List.suffix_append taken left).trans hdrop

/-- **A declaration is over before a finished source is.** -/
theorem left_ne_nil_of_finished (hcloses : Closes [] ts) (hts : Finished ts)
    (hsome : ts.dropWhile (!·.isSignificant) ≠ [])
    (h : readDeclaration ts = .ok (found, left)) : left ≠ [] := by
  have hdrop := List.takeWhile_append_dropWhile (p := fun t => !t.isSignificant) (l := ts)
  rcases readDeclaration_cases h with
    ⟨hnil, -, -⟩ | ⟨t, more, hfirst, hopen, hgroup⟩ | ⟨t, more, taken, hfirst, hopen, htake, -⟩
  · exact absurd hnil hsome
  · obtain ⟨front, c, rfl, hc⟩ := exists_closer_of_readGroup hgroup
    rw [hfirst] at hdrop
    intro hleft
    subst hleft
    have hlast : ts.getLast? = some c := by
      rw [← hdrop, ← List.cons_append, ← List.append_assoc, List.getLast?_concat]
    have hnewline : c.isNewline := hts.lineEnd c hlast
    have hkind : c.kind = .punct ')' := by simpa [Token.isPunct] using hc
    simp [Token.isNewline, hkind] at hnewline
  · have hround : Closes ([] ++ around false) (t :: more) := by
      rw [← hfirst]
      exact hcloses.dropWhile_insignificant
    rw [← hdrop, hfirst] at hts
    have hmore := hts.suffix
    have hsig : t.isSignificant := by simpa using eq_false_of_dropWhile hfirst
    refine rest_ne_nil_of_lineEnd hround rfl (List.cons_ne_nil t more) hmore.lineEnd ?_ htake
    have hne : (t :: more).filter Token.isSignificant ≠ [] := by
      rw [List.filter_cons_of_pos hsig]
      exact List.cons_ne_nil _ _
    have hfinal := List.getLast?_eq_some_getLast hne
    rw [hfinal]
    exact Token.endsStatement_of_endsDeclaration (hmore.final _ hfinal)

/-! ## Files -/

/-- The reading of a file that goes on: the first package clause counts, and the constants follow
each other. -/
def Reading.append (r r' : Reading) : Reading :=
  ⟨r.package <|> r'.package, r.attributions ++ r'.attributions⟩

theorem packageAt_append (h : Finished (t :: ts)) (b : List Token) :
    packageAt depth t (ts ++ b) = packageAt depth t ts := by
  cases hword : t.isWord "package".toList with
  | false =>
    rw [packageAt, packageAt, hword, Bool.and_false]
    rfl
  | true =>
    obtain ⟨u, more, hts⟩ := h.exists_significant (Token.kind_of_isWord hword)
    rw [packageAt, packageAt, packageClause, packageClause, dropWhile_append_of_cons hts b, hts]

/-- **A finished list of tokens is read whatever follows it,** and what follows is read as if it
stood alone. -/
theorem readFrom_append {stack : List Bracket} (hcloses : Closes stack ts)
    (hdepth : stack.length = depth) (hts : Finished ts) (h : readFrom depth ts = .ok r)
    (us : List Token) : readFrom depth (ts ++ us) = (readFrom 0 us).map r.append := by
  induction hlen : ts.length using Nat.strong_induction_on generalizing ts stack depth r with
  | h len ih =>
    cases ts with
    | nil =>
      have hstack : stack = [] := by
        cases hcloses
        rfl
      rw [hstack] at hdepth
      subst hdepth
      rw [readFrom] at h
      obtain rfl := Except.ok.inj h
      show readFrom 0 us = (readFrom 0 us).map _
      cases readFrom 0 us <;> rfl
    | cons t ts =>
      rw [List.length_cons] at hlen
      rw [List.cons_append]
      have hsuffix : Finished ([t] ++ ts) := hts
      cases hconst : decide (depth = 0) && t.isWord "const".toList with
      | true =>
        have hinside := closes_of_const hcloses hdepth hconst
        obtain ⟨hzero, hword⟩ := Bool.and_eq_true_iff.1 hconst
        obtain rfl := of_decide_eq_true hzero
        obtain ⟨found, left, r₀, hdecl, hr₀, rfl⟩ := exists_of_readFrom_const hword h
        obtain ⟨u, more, hfirst⟩ := hts.exists_significant (Token.kind_of_isWord hword)
        have hne : left ≠ [] := by
          refine left_ne_nil_of_finished hinside hsuffix.suffix ?_ hdecl
          rw [hfirst]
          exact List.cons_ne_nil u more
        obtain ⟨found', left', hdecl', hleft⟩ := readDeclaration_of_closes hinside
        obtain ⟨rfl, rfl⟩ := Prod.mk.inj (Except.ok.inj (hdecl'.symm.trans hdecl))
        obtain ⟨front, rfl⟩ := readDeclaration_suffix hdecl
        have hshort := readDeclaration_length hdecl
        have hrest : readFrom 0 (left' ++ us) = (readFrom 0 us).map r₀.append :=
          ih left'.length (by omega) hleft rfl hsuffix.suffix.suffix hr₀ rfl
        rw [readFrom_at_const hword, readDeclaration_append (hsuffix.suffix.apart us) hdecl hne]
        dsimp only
        rw [hrest]
        cases readFrom 0 us with
        | error e => rfl
        | ok r' => simp [Except.map, Reading.append]
      | false =>
        obtain ⟨stack', hcloses', hdepth'⟩ := hcloses.depthAfter
        rw [hdepth] at hdepth'
        rw [readFrom_other hconst] at h ⊢
        obtain ⟨r₀, hr₀, rfl⟩ := exists_of_map_eq_ok h
        rw [ih ts.length (by omega) hcloses' hdepth' hsuffix.suffix hr₀ rfl, packageAt_append hts]
        cases readFrom 0 us with
        | error e => rfl
        | ok r' => cases packageAt depth t ts <;> simp [Except.map, Reading.append]

/-! ## Comments -/

theorem Comments.find?_foldl_insert (pairs : List (String × String)) (c : Comments)
    (name : String) :
    (pairs.foldl (fun c e => c.insert e.1 e.2) c).find? name =
      ((Comments.ofList pairs).find? name <|> c.find? name) := by
  induction pairs generalizing c with
  | nil => rfl
  | cons e pairs ih =>
    rw [Comments.ofList, List.foldl_cons, List.foldl_cons, ih, ih, Comments.find?_insert,
      Comments.find?_insert, Comments.find?_empty]
    by_cases hname : e.1 = name
    · rw [if_pos hname, if_pos hname]
      cases (Comments.ofList pairs).find? name <;> rfl
    · rw [if_neg hname, if_neg hname]
      cases (Comments.ofList pairs).find? name <;> rfl

/-- A later comment replaces an earlier one. -/
theorem Comments.find?_ofList_append (pairs pairs' : List (String × String)) (name : String) :
    (Comments.ofList (pairs ++ pairs')).find? name =
      ((Comments.ofList pairs').find? name <|> (Comments.ofList pairs).find? name) := by
  rw [Comments.ofList, List.foldl_append]
  exact Comments.find?_foldl_insert pairs' (Comments.ofList pairs) name

/-- The text of a comment does not depend on where it stands. -/
theorem commentText_down (n : Nat) (comments : List Token) :
    commentText (comments.map (Token.down n)) = commentText comments := by
  cases comments with
  | nil => rfl
  | cons first more => rw [List.map_cons, commentText, List.flatMap_map, commentText]; rfl

namespace Reading

theorem toConstantFile_append_down (r r' : Reading) (n : Nat) :
    (r.append (r'.map (Token.down n))).toConstantFile = (r.append r').toConstantFile := by
  have hpairs : (r'.map (Token.down n)).attributions.map (fun a =>
        (String.ofList a.name, String.ofList (commentText a.comments))) =
      r'.attributions.map fun a =>
        (String.ofList a.name, String.ofList (commentText a.comments)) := by
    rw [Reading.map, List.map_map]
    refine List.map_congr_left ?_
    intro a _
    rw [Function.comp_apply, Attribution.map, commentText_down]
  rw [toConstantFile, toConstantFile, append, append, List.map_append, hpairs, List.map_append]
  rfl

theorem package_append (r r' : Reading) :
    (r.append r').toConstantFile.package =
      (r.toConstantFile.package <|> r'.toConstantFile.package) := by
  obtain ⟨package, attributions⟩ := r
  cases package <;> rfl

theorem find?_comments_append (r r' : Reading) (name : String) :
    (r.append r').toConstantFile.comments.find? name =
      (r'.toConstantFile.comments.find? name <|> r.toConstantFile.comments.find? name) := by
  rw [toConstantFile, append, List.map_append, Comments.find?_ofList_append]
  rfl

end Reading

/-! ## Sources -/

/-- What a source says about its constants, their comments as tokens. -/
def reading (source : List Char) : Except ReadError Reading :=
  match tokenize source with
  | .error e => .error (.lexical e)
  | .ok ts => (readFrom 0 ts).mapError .unclosedGroup

theorem readConstants_eq (source : List Char) :
    readConstants source = (reading source).map Reading.toConstantFile := by
  rw [readConstants, reading]
  cases tokenize source with
  | error e => rfl
  | ok ts =>
    dsimp only
    cases readFrom 0 ts <;> rfl

/-- The source `p` says `r`, and a source that follows it is read as if it stood alone. -/
def ReadsFirst (p : List Char) (r : Reading) : Prop :=
  ∃ ts, Lexes 1 p (1 + newlines p) ts ∧
    ∀ us, readFrom 0 (ts ++ us) = (readFrom 0 us).map r.append

/-- The reading of a source with such a source before it. -/
theorem ReadsFirst.reading_append {p : List Char} (h : ReadsFirst p r) (q : List Char) :
    (∃ e e', reading q = .error e ∧ reading (p ++ q) = .error e' ∧ e'.message = e.message ∧
      e'.line = e.line + newlines p) ∨
    ∃ r', reading q = .ok r' ∧
      reading (p ++ q) = .ok (r.append (r'.map (Token.down (newlines p)))) := by
  obtain ⟨ts, hlexes, hreads⟩ := h
  have htokens : tokenize (p ++ q) = (((tokenize q).mapError (LexError.down (newlines p))).map
      (List.map (Token.down (newlines p)))).map (ts ++ ·) := by
    rw [tokenize, hlexes, tokenizeFrom_add]
    rfl
  rw [reading, reading, htokens]
  cases tokenize q with
  | error e => exact .inl ⟨_, _, rfl, rfl, rfl, rfl⟩
  | ok us =>
    show (∃ e e', (readFrom 0 us).mapError _ = _ ∧ (readFrom 0 (ts ++ us.map _)).mapError _ = _ ∧
      _) ∨ ∃ r', (readFrom 0 us).mapError _ = _ ∧ (readFrom 0 (ts ++ us.map _)).mapError _ = _
    rw [hreads, readFrom_map (relabels_down (newlines p))]
    cases readFrom 0 us with
    | error e => exact .inl ⟨_, _, rfl, rfl, rfl, rfl⟩
    | ok r' => exact .inr ⟨r', rfl, rfl⟩

/-- A *whole* source is laid out without an error, ends in a line feed, and has a value or a closing
bracket for its last significant token, if it has one. -/
structure IsWhole (s : List Char) : Prop where
  laidOut : ∃ t, layout s = .ok t
  lineEnd : s.getLast? = some '\n'
  final : ∀ ts, tokenize s = .ok ts →
    ∀ t ∈ (ts.filter Token.isSignificant).getLast?, t.endsDeclaration

theorem isWhole_of_tokenize {t : List Char} (hlayout : layout s = .ok t)
    (hts : tokenize s = .ok ts) (hend : s.getLast? = some '\n')
    (hfinal : ∀ t ∈ (ts.filter Token.isSignificant).getLast?, t.endsDeclaration) : IsWhole s := by
  refine ⟨⟨t, hlayout⟩, hend, ?_⟩
  intro ts' hts'
  obtain rfl := Except.ok.inj (hts.symm.trans hts')
  exact hfinal

/-- A whole source is read first. -/
theorem IsWhole.exists_readsFirst (h : IsWhole s) : ∃ r, reading s = .ok r ∧ ReadsFirst s r := by
  obtain ⟨t, hlayout⟩ := h.laidOut
  obtain ⟨ts, hts, hnested⟩ := exists_nested_of_layout hlayout
  have hcloses := nested_iff_closes.1 hnested
  obtain ⟨n, hn, hnewline⟩ := isNewline_getLast?_of_tokenizeFrom hts h.lineEnd
  have hfinished : Finished ts := by
    refine ⟨?_, h.final ts hts⟩
    intro n' hn'
    obtain rfl := Option.some.inj (hn.symm.trans hn')
    exact hnewline
  have hreads : ∃ r, readFrom 0 ts = .ok r := readFrom_of_closes hcloses rfl
  obtain ⟨r, hr⟩ := hreads
  refine ⟨r, ?_, ts, lexes_of_getLast? hts h.lineEnd, readFrom_append hcloses rfl hfinished hr⟩
  rw [reading, hts]
  show (readFrom 0 ts).mapError _ = _
  rw [hr]
  rfl

/-- **The constants of two sources joined end to end,** the first of them whole, are those of the
first and those of the second, and an error is that of the second, further down. -/
theorem readConstants_append {s₁ : List Char} (h : IsWhole s₁) (s₂ : List Char) :
    ∃ f₁, readConstants s₁ = .ok f₁ ∧
      ((∃ e e', readConstants s₂ = .error e ∧ readConstants (s₁ ++ s₂) = .error e' ∧
        e'.message = e.message ∧ e'.line = e.line + newlines s₁) ∨
      ∃ f₂ f, readConstants s₂ = .ok f₂ ∧ readConstants (s₁ ++ s₂) = .ok f ∧
        f.package = (f₁.package <|> f₂.package) ∧
        ∀ name, f.comments.find? name =
          (f₂.comments.find? name <|> f₁.comments.find? name)) := by
  obtain ⟨r, hr, hfirst⟩ := h.exists_readsFirst
  refine ⟨r.toConstantFile, by rw [readConstants_eq, hr]; rfl, ?_⟩
  rw [readConstants_eq, readConstants_eq]
  rcases hfirst.reading_append s₂ with ⟨e, e', he, he', hmessage, hline⟩ | ⟨r', hr', hboth⟩
  · exact .inl ⟨e, e', by rw [he]; rfl, by rw [he']; rfl, hmessage, hline⟩
  · rw [hr', hboth]
    refine .inr ⟨_, _, rfl, rfl, ?_, ?_⟩
    · rw [Reading.toConstantFile_append_down, Reading.package_append]
    · intro name
      rw [Reading.toConstantFile_append_down, Reading.find?_comments_append]

/-- A constant that is declared again, and a package clause after it. -/
theorem readConstants_append_redeclared :
    let s₁ := "const A = 1 // a\n".toList
    let s₂ := "package p\nconst A = \x60\n\x60 // b".toList
    IsWhole s₁ ∧ readConstants s₁ = .ok ⟨none, .ofList [("A", "a")]⟩ ∧
      readConstants (s₁ ++ s₂) = .ok ⟨some "p", .ofList [("A", "b")]⟩ ∧ ∃ f₁, readConstants s₁ = .ok f₁ ∧
      ((∃ e e', readConstants s₂ = .error e ∧ readConstants (s₁ ++ s₂) = .error e' ∧
        e'.message = e.message ∧ e'.line = e.line + newlines s₁) ∨
      ∃ f₂ f, readConstants s₂ = .ok f₂ ∧ readConstants (s₁ ++ s₂) = .ok f ∧
        f.package = (f₁.package <|> f₂.package) ∧
        ∀ name, f.comments.find? name =
          (f₂.comments.find? name <|> f₁.comments.find? name)) := by
  have hlayout : layout "const A = 1 // a\n".toList = .ok "const A = 1 // a\n".toList := by cbv
  have hts : tokenize "const A = 1 // a\n".toList =
      .ok [⟨.ident, "const".toList, 1, 1⟩, ⟨.ident, "A".toList, 1, 1⟩,
        ⟨.punct '=', "=".toList, 1, 1⟩, ⟨.number, "1".toList, 1, 1⟩,
        ⟨.lineComment, "// a".toList, 1, 1⟩, ⟨.newline, "\n".toList, 1, 1⟩] := by cbv
  have hwhole := isWhole_of_tokenize hlayout hts (by decide) (by decide)
  exact ⟨hwhole, by decide +kernel, by decide +kernel, readConstants_append hwhole _⟩

end Scribe.Source
