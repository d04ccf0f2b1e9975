import Scribe.Proofs.Source.Places
import Scribe.Proofs.Constants.Located

/-!
# Comments of several constants

A comment documents one constant, or several that end on one line.  Two entries that end on different
lines have no comment in common, whatever else shares their lines.  Entries that end on one line may
share the comments that follow there: those of the later entry are the last of those of the earlier
one, and neither has a block above it that counts (`pairwise_constantEntries`).

Everything rests on line numbers.  A comment of an entry stands at its end or before it
(`line_le_of_mem_comments`), and further down than any code before the entry that ends on an earlier
line (`endLine_lt_of_mem_comments`): a block above an entry has no code on its lines.
-/

namespace Scribe.Source

/-! ## The lines of comments -/

section
variable {before : List Token} {c : Token} {line : Nat}

/-- Going back from an entry, a comment of the block above it is met before any code, and a line end
comes between the two. -/
theorem exists_of_mem_commentLinesBack (hc : c ∈ commentLinesBack before) :
    ∃ n near far, before = n :: (near ++ far) ∧ c ∈ near ∧ Insignificant near ∧
      ∀ t ∈ far.head?, t.isNewline := by
  have hline : ∀ tokens : List Token, Insignificant (tokens.takeWhile Token.isComment) :=
    fun _ _ ht => Token.isSignificant_of_isComment (List.mem_takeWhile_imp ht)
  fun_induction commentLinesBack before with
  | case1 => simp at hc
  | case2 n before onLine hnil => simp at hc
  | case3 n before onLine hne hrest =>
    have hsplit : onLine ++ before.dropWhile Token.isComment = before :=
      List.takeWhile_append_dropWhile
    rw [hrest] at hsplit
    exact ⟨n, onLine, [], by rw [hsplit], hc, hline before, by simp⟩
  | case4 n before onLine hne t rest hrest hnewline ih =>
    have hsplit : onLine ++ before.dropWhile Token.isComment = before :=
      List.takeWhile_append_dropWhile
    rw [hrest] at hsplit
    rcases List.mem_append.1 hc with hc | hc
    · exact ⟨n, onLine, t :: rest, by rw [hsplit], hc, hline before, by simpa using hnewline⟩
    · obtain ⟨n', near, far, hmore, hmem, hnear, hfar⟩ := ih hc
      obtain ⟨rfl, rfl⟩ := List.cons.inj hmore
      have hboth : Insignificant (onLine ++ t :: near) :=
        List.forall_mem_append.2 ⟨hline before,
          List.forall_mem_cons.2 ⟨Token.isSignificant_of_isNewline hnewline, hnear⟩⟩
      refine ⟨n, onLine ++ t :: near, far, ?_, by simp [hmem], hboth, hfar⟩
      rw [← hsplit]
      simp
  | case5 n before onLine hne t rest hrest hnewline => simp at hc

theorem line_of_mem_trailingComments {after : List Token} (hc : c ∈ trailingComments line after) :
    c.line = line := by
  have hc := (List.mem_filter.1 hc).2
  simp only [Bool.and_eq_true, decide_eq_true_eq] at hc
  exact hc.2

theorem trailingComments_suffix {middle : List Token} (h : ∀ t ∈ middle, t.isNewline = false)
    (line : Nat) (after : List Token) :
    trailingComments line after <:+ trailingComments line (middle ++ after) := by
  have hmiddle : ∀ t ∈ middle, (!t.isNewline) = true := by
    intro t ht
    rw [h t ht]
    rfl
  rw [trailingComments, trailingComments, List.takeWhile_append_of_pos hmiddle, List.filter_append]
  exact List.suffix_append _ _

end

/-! ## The end of an entry -/

namespace ConstantEntry

/-- The line on which an entry ends: that of its last token that is neither a comment nor a line
end. -/
def endLine? (e : ConstantEntry) : Option Nat := (entryBody e.taken).getLast?.map Token.endLine

/-- The tokens after the end of an entry. -/
def after (e : ConstantEntry) : List Token := entryTrail e.taken ++ e.rest

/-- The comments that follow an entry on the line where it ends. -/
def trailing (e : ConstantEntry) : List Token :=
  match e.endLine? with
  | none => []
  | some line => trailingComments line e.after

/-- No comment is known for both of two entries. -/
def DisjointComments (e e' : ConstantEntry) : Prop :=
  ∀ a ∈ e.attribution?, ∀ a' ∈ e'.attribution?, a.comments.Disjoint a'.comments

/-- What two entries with comments have are those that follow them on a line, and the second has no
other than the first. -/
def ShareTrailing (e e' : ConstantEntry) : Prop :=
  ∀ a ∈ e.attribution?, ∀ a' ∈ e'.attribution?,
    a.comments = e.trailing ∧ a'.comments = e'.trailing ∧ a'.comments <:+ a.comments

variable {e e' : ConstantEntry} {a a' : Attribution} {ts init init' : List Token}
  {last last' c u : Token}

theorem endLine?_eq (h : entryBody e.taken = init ++ [last]) :
    e.endLine? = some last.endLine := by
  rw [endLine?, h, List.getLast?_concat]
  rfl

theorem trailing_eq (h : entryBody e.taken = init ++ [last]) :
    e.trailing = trailingComments last.endLine e.after := by
  rw [trailing, endLine?_eq h]

/-- An entry with comments has an end, and the comments that follow it there come before the block
above it. -/
theorem exists_of_attribution? (h : e.attribution? = some a) :
    (∃ init last, entryBody e.taken = init ++ [last]) ∧ a.comments ≠ [] ∧
      a.comments = if e.trailing = [] then e.docs else e.trailing := by
  rw [attribution?] at h
  cases hname : declaredName (entryBody e.taken) with
  | none => simp [attribution_eq_none hname] at h
  | some name =>
    obtain ⟨init, last, hbody⟩ := exists_final hname
    rw [attribution_eq hbody hname] at h
    split at h
    · simp at h
    · rename_i hne
      obtain rfl := Option.some.inj h
      refine ⟨⟨init, last, hbody⟩, hne, ?_⟩
      rw [trailing_eq hbody]
      rfl

theorem tokens_eq (h : entryBody e.taken = init ++ [last]) :
    e.taken ++ e.rest = init ++ last :: e.after := by
  conv_lhs => rw [← entryBody_append_entryTrail e.taken, h]
  simp [after]

theorem last_mem (h : entryBody e.taken = init ++ [last]) : last ∈ e.taken := by
  rw [← entryBody_append_entryTrail e.taken, h]
  simp

theorem StandsIn.eq (h : e.StandsIn [] ts) : e.before.reverse ++ (e.taken ++ e.rest) = ts := by
  obtain ⟨passed, rfl, hbefore⟩ := h
  rw [hbefore]
  simp

/-! ## Where the comments of an entry stand -/

theorem exists_of_mem_docs (hc : c ∈ e.docs) :
    ∃ n near far, e.before = n :: (near ++ far) ∧ n.isNewline ∧ c ∈ near ∧ Insignificant near ∧
      ∀ t ∈ far.head?, t.isNewline := by
  unfold docs at hc
  split at hc
  · cases hbefore : e.before with
    | nil => simp [hbefore, docComments] at hc
    | cons n before =>
      cases hn : n.isNewline with
      | false => simp [hbefore, docComments_of_not_isNewline hn] at hc
      | true =>
        rw [hbefore, docComments_of_isNewline hn, List.mem_reverse] at hc
        obtain ⟨n', near, far, hmore, hmem, hnear, hfar⟩ := exists_of_mem_commentLinesBack hc
        obtain ⟨rfl, rfl⟩ := List.cons.inj hmore
        exact ⟨n, near, far, rfl, hn, hmem, hnear, hfar⟩
  · simp at hc

section
variable (hts : Successive ts) (hin : e.StandsIn [] ts)
include hts hin

/-- The line end above an entry comes after the block and before the entry. -/
theorem line_lt_of_mem_docs (hc : c ∈ e.docs) (hu : u ∈ e.taken) : c.line < u.line := by
  obtain ⟨n, near, far, hbefore, hn, hmem, -, -⟩ := exists_of_mem_docs hc
  have hleads := hts.leads
  rw [← hin.eq, hbefore, List.reverse_cons, List.append_assoc, List.pairwise_append] at hleads
  obtain ⟨-, hmore, hacross⟩ := hleads
  have hcn := (hacross c (by simp [hmem]) n List.mem_cons_self).endLine_le
  have hnu := ((List.pairwise_cons.1 hmore).1 u (by simp [hu])).lt_of_isNewline hn
  have hcc : c.line ≤ c.endLine := by
    refine hts.line_le c ?_
    rw [← hin.eq, hbefore]
    simp [hmem]
  omega

/-- A line end comes between the code before an entry and the block above it. -/
theorem endLine_lt_of_mem_docs (hc : c ∈ e.docs) (hu : u ∈ e.before) (hsig : u.isSignificant) :
    u.endLine < c.line := by
  obtain ⟨n, near, far, hbefore, hn, hmem, hnear, hfar⟩ := exists_of_mem_docs hc
  have hback : (n :: (near ++ far)).Pairwise fun t v => v.Leads t := by
    have hleads := hts.leads
    rw [← hin.eq, hbefore] at hleads
    exact List.pairwise_reverse.1 (List.pairwise_append.1 hleads).1
  obtain ⟨-, hrest, hacross⟩ := List.pairwise_append.1 (List.pairwise_cons.1 hback).2
  rw [hbefore, List.mem_cons, List.mem_append] at hu
  rcases hu with rfl | hu | hu
  · simp [Token.isSignificant_of_isNewline hn] at hsig
  · simp [hnear u hu] at hsig
  · cases far with
    | nil => simp at hu
    | cons t far =>
      have ht : t.isNewline := hfar t rfl
      have hlt := (hacross c hmem t List.mem_cons_self).lt_of_isNewline ht
      rcases List.mem_cons.1 hu with rfl | hu
      · simp [Token.isSignificant_of_isNewline ht] at hsig
      · have hle := ((List.pairwise_cons.1 hrest).1 u hu).endLine_le
        omega

variable (ha : e.attribution? = some a) (hbody : entryBody e.taken = init ++ [last])
include ha hbody

/-- The comments of an entry stand at its end or before. -/
theorem line_le_of_mem_comments (hc : c ∈ a.comments) : c.line ≤ last.endLine := by
  obtain ⟨-, -, hcomments⟩ := exists_of_attribution? ha
  rw [hcomments] at hc
  split at hc
  · have hlt := line_lt_of_mem_docs hts hin hc (last_mem hbody)
    have hle : last.line ≤ last.endLine := by
      refine hts.line_le last ?_
      rw [← hin.eq]
      simp [last_mem hbody]
    omega
  · rw [trailing_eq hbody] at hc
    exact (line_of_mem_trailingComments hc).le

/-- They stand further down than code before the entry that ends on an earlier line. -/
theorem endLine_lt_of_mem_comments (hu : u ∈ e.before) (hsig : u.isSignificant)
    (hlt : u.endLine < last.endLine) (hc : c ∈ a.comments) : u.endLine < c.line := by
  obtain ⟨-, -, hcomments⟩ := exists_of_attribution? ha
  rw [hcomments] at hc
  split at hc
  · exact endLine_lt_of_mem_docs hts hin hc hu hsig
  · rw [trailing_eq hbody] at hc
    rw [line_of_mem_trailingComments hc]
    exact hlt

end

/-- An end and what follows it. -/
theorem successive_last (hts : Successive ts) (hin : e.StandsIn [] ts)
    (hbody : entryBody e.taken = init ++ [last]) : Successive (last :: e.after) := by
  refine hts.sublist ?_
  rw [← hin.eq, tokens_eq hbody, ← List.append_assoc]
  exact List.sublist_append_right _ _

/-! ## Two entries -/

section
variable (h : e.Precedes e')
include h

theorem Precedes.last_mem_before (hbody : entryBody e.taken = init ++ [last]) :
    last ∈ e'.before := by
  obtain ⟨passed, -, hbefore⟩ := h
  rw [hbefore]
  simp [last_mem hbody]

variable (hbody' : entryBody e'.taken = init' ++ [last'])
include hbody'

theorem Precedes.exists_after_eq : ∃ middle, e.after = middle ++ last' :: e'.after := by
  obtain ⟨passed, hrest, -⟩ := h
  refine ⟨entryTrail e.taken ++ (passed ++ init'), ?_⟩
  rw [after, hrest, tokens_eq hbody']
  simp

variable (hfrom : Successive (last :: e.after))
include hfrom

theorem Precedes.endLine_le : last.endLine ≤ last'.line ∧ last'.line ≤ last'.endLine := by
  obtain ⟨middle, hafter⟩ := h.exists_after_eq hbody'
  rw [hafter] at hfrom
  have hleads := (List.pairwise_cons.1 hfrom.leads).1 last' (by simp)
  exact ⟨hleads.endLine_le, hfrom.line_le last' (by simp)⟩

/-- No line end stands between two ends on one line, so what follows the second there also follows
the first. -/
theorem Precedes.trailing_suffix (hbody : entryBody e.taken = init ++ [last])
    (hend : last.endLine = last'.endLine) : e'.trailing <:+ e.trailing := by
  obtain ⟨middle, hafter⟩ := h.exists_after_eq hbody'
  rw [hafter] at hfrom
  obtain ⟨hfirst, hmore⟩ := List.pairwise_cons.1 hfrom.leads
  have hle := hfrom.line_le last' (by simp)
  have hmiddle : ∀ t ∈ middle ++ [last'], t.isNewline = false := by
    intro t ht
    rcases List.mem_append.1 ht with ht | ht
    · by_contra hn
      rw [Bool.not_eq_false] at hn
      have hleads := (hfirst t (List.mem_append_left _ ht)).endLine_le
      have hlt := ((List.pairwise_append.1 hmore).2.2 t ht last' List.mem_cons_self).lt_of_isNewline
        hn
      omega
    · obtain rfl := List.mem_singleton.1 ht
      exact Token.isNewline_of_isSignificant (isSignificant_of_entryBody hbody')
  have hsuffix := trailingComments_suffix hmiddle last'.endLine e'.after
  rw [List.append_assoc, List.singleton_append, ← hafter] at hsuffix
  rw [trailing_eq hbody, trailing_eq hbody', hend]
  exact hsuffix

end

section
variable (hts : Successive ts) (hin : e.StandsIn [] ts) (hin' : e'.StandsIn [] ts)
  (h : e.Precedes e')
include hts hin hin' h

/-- **Entries that end on different lines have no comment in common.**  The comments of the first
stand at its end or before, those of the second further down. -/
theorem disjointComments_of_endLine?_ne (hne : e.endLine? ≠ e'.endLine?) :
    e.DisjointComments e' := by
  intro a ha a' ha' c hc hc'
  obtain ⟨⟨init, last, hbody⟩, -, -⟩ := exists_of_attribution? ha
  obtain ⟨⟨init', last', hbody'⟩, -, -⟩ := exists_of_attribution? ha'
  have hle := h.endLine_le hbody' (successive_last hts hin hbody)
  have hlt : last.endLine < last'.endLine := by
    refine Nat.lt_of_le_of_ne (hle.1.trans hle.2) ?_
    intro heq
    rw [endLine?_eq hbody, endLine?_eq hbody', heq] at hne
    exact hne rfl
  have hfirst := line_le_of_mem_comments hts hin ha hbody hc
  have hsecond := endLine_lt_of_mem_comments hts hin' ha' hbody' (h.last_mem_before hbody)
    (isSignificant_of_entryBody hbody) hlt hc'
  omega

/-- **Entries that end on one line share the comments there.**  A block above the second would have
to stand between the two ends. -/
theorem shareTrailing_of_endLine?_eq (heq : e.endLine? = e'.endLine?) : e.ShareTrailing e' := by
  intro a ha a' ha'
  obtain ⟨⟨init, last, hbody⟩, -, hcomments⟩ := exists_of_attribution? ha
  obtain ⟨⟨init', last', hbody'⟩, hsome, hcomments'⟩ := exists_of_attribution? ha'
  rw [endLine?_eq hbody, endLine?_eq hbody', Option.some.injEq] at heq
  have hfrom := successive_last hts hin hbody
  have hdocs : e'.docs = [] := by
    rw [List.eq_nil_iff_forall_not_mem]
    intro c hc
    have hlt := endLine_lt_of_mem_docs hts hin' hc (h.last_mem_before hbody)
      (isSignificant_of_entryBody hbody)
    have hlt' := line_lt_of_mem_docs hts hin' hc (last_mem hbody')
    have hle := (h.endLine_le hbody' hfrom).2
    omega
  have htrailing' : a'.comments = e'.trailing := by
    rw [hcomments', hdocs]
    split
    · rename_i hnil
      exact hnil.symm
    · rfl
  have hsuffix := h.trailing_suffix hbody' hfrom hbody heq
  have hne : e.trailing ≠ [] := by
    intro hnil
    rw [hnil, List.suffix_nil, ← htrailing'] at hsuffix
    exact hsome hsuffix
  rw [if_neg hne] at hcomments
  refine ⟨hcomments, htrailing', ?_⟩
  rw [hcomments, htrailing']
  exact hsuffix

end

end ConstantEntry

/-! ## Sources -/

/-- Whether entries share comments shows in what is kept of them. -/
theorem pairwise_attributions_iff {ts : List Token} {r : Reading} (h : readFrom 0 ts = .ok r) :
    (r.attributions.Pairwise fun a a' => a.comments.Disjoint a'.comments) ↔
      (constantEntries ts).Pairwise ConstantEntry.DisjointComments := by
  have haccounts : Accounts [] ts (constantEntries ts) r.attributions [] := entriesFrom_accounts h
  rw [haccounts.found_eq, List.pairwise_filterMap]
  rfl

/-- **Comments that two constants share.**  What a file says comes from the entries of its source,
which stand one after the other.  Two of them that end on different lines have no comment in common;
two that end on one line have the comments that follow there, the later one none that the earlier one
has not. -/
theorem pairwise_constantEntries {s : List Char} {f : ConstantFile}
    (h : readConstants s = .ok f) :
    ∃ ts r, tokenize s = .ok ts ∧ readFrom 0 ts = .ok r ∧ f = r.toConstantFile ∧
      r.attributions = (constantEntries ts).filterMap ConstantEntry.attribution? ∧
      (∀ e ∈ constantEntries ts, e.before.reverse ++ (e.taken ++ e.rest) = ts) ∧
      (constantEntries ts).Pairwise fun e e' =>
        e.Precedes e' ∧ (e.endLine? ≠ e'.endLine? → e.DisjointComments e') ∧
          (e.endLine? = e'.endLine? → e.ShareTrailing e') := by
  obtain ⟨ts, r, hts, hr, rfl⟩ := readConstants_eq_ok.1 h
  have haccounts : Accounts [] ts (constantEntries ts) r.attributions [] := entriesFrom_accounts hr
  have hsuccessive := successive_of_tokenizeFrom hts
  refine ⟨ts, r, hts, hr, rfl, haccounts.found_eq, fun e he => (haccounts.standsIn e he).eq, ?_⟩
  refine haccounts.precedes.imp_of_mem ?_
  intro e e' he he' hprecedes
  have hin := haccounts.standsIn e he
  have hin' := haccounts.standsIn e' he'
  exact ⟨hprecedes,
    ConstantEntry.disjointComments_of_endLine?_ne hsuccessive hin hin' hprecedes,
    ConstantEntry.shareTrailing_of_endLine?_eq hsuccessive hin hin' hprecedes⟩

/-- A group with a block above an entry, and with two entries that end on one line. -/
theorem pairwise_constantEntries_group :
    let s := "package p\nconst (\n// a\nA = 1\nB = 2; C = 3 // c\n)\n".toList
    ∃ f, readConstants s = .ok f ∧
      ∃ ts r, tokenize s = .ok ts ∧ readFrom 0 ts = .ok r ∧ f = r.toConstantFile ∧
        r.attributions = (constantEntries ts).filterMap ConstantEntry.attribution? ∧
        (∀ e ∈ constantEntries ts, e.before.reverse ++ (e.taken ++ e.rest) = ts) ∧
        (constantEntries ts).Pairwise fun e e' =>
          e.Precedes e' ∧ (e.endLine? ≠ e'.endLine? → e.DisjointComments e') ∧
            (e.endLine? = e'.endLine? → e.ShareTrailing e') := by
  have hread : readConstants "package p\nconst (\n// a\nA = 1\nB = 2; C = 3 // c\n)\n".toList =
      .ok ⟨some "p", .ofList [("A", "a"), ("B", "c"), ("C", "c")]⟩ := by decide +kernel
  exact ⟨_, hread, pairwise_constantEntries hread⟩

/-- The one comment of a source can document two constants, if these end on its line. -/
theorem not_pairwise_disjointComments :
    let s := "package p\nconst A = 1; const B = 2 // c\n".toList
    let c : Token := ⟨.lineComment, "// c".toList, 2, 2⟩
    ∃ ts r, tokenize s = .ok ts ∧ readFrom 0 ts = .ok r ∧ readConstants s = .ok r.toConstantFile ∧
      ts.filter Token.isComment = [c] ∧ r.attributions = [⟨['A'], [c]⟩, ⟨['B'], [c]⟩] ∧
      ¬ (constantEntries ts).Pairwise ConstantEntry.DisjointComments := by
  have htokens : ∃ ts, tokenize "package p\nconst A = 1; const B = 2 // c\n".toList = .ok ts ∧
      ts.filter Token.isComment = [⟨.lineComment, "// c".toList, 2, 2⟩] ∧
      readFrom 0 ts = .ok ⟨some ['p'], [⟨['A'], [⟨.lineComment, "// c".toList, 2, 2⟩]⟩,
        ⟨['B'], [⟨.lineComment, "// c".toList, 2, 2⟩]⟩]⟩ :=
    ⟨[⟨.ident, "package".toList, 1, 1⟩, ⟨.ident, "p".toList, 1, 1⟩,
      ⟨.newline, "\n".toList, 1, 1⟩, ⟨.ident, "const".toList, 2, 2⟩,
      ⟨.ident, "A".toList, 2, 2⟩, ⟨.punct '=', "=".toList, 2, 2⟩,
      ⟨.number, "1".toList, 2, 2⟩, ⟨.punct ';', ";".toList, 2, 2⟩,
      ⟨.ident, "const".toList, 2, 2⟩, ⟨.ident, "B".toList, 2, 2⟩,
      ⟨.punct '=', "=".toList, 2, 2⟩, ⟨.number, "2".toList, 2, 2⟩,
      ⟨.lineComment, "// c".toList, 2, 2⟩, ⟨.newline, "\n".toList, 2, 2⟩],
      by cbv, rfl, by decide +kernel⟩
  obtain ⟨ts, hts, hcomment, hr⟩ := htokens
  refine ⟨ts, _, hts, hr, readConstants_eq_ok.2 ⟨ts, _, hts, hr, rfl⟩, hcomment, rfl, ?_⟩
  rw [← pairwise_attributions_iff hr]
  simp

end Scribe.Source
