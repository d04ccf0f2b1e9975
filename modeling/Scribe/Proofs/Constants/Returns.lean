import Scribe.Proofs.Constants.Layout
import Scribe.Proofs.Constants.Relabel
import Scribe.Proofs.Layout.Returns
import Scribe.Proofs.Source.Segmentation

/-!
# Line ends do not matter

A source whose lines end in a carriage return and a line feed is laid out as the source whose lines
end in a line feed, and the same is read of its constants (`line_ends_do_not_matter`).  This holds
wherever carriage returns stand at line ends only (`readConstants_withoutReturns`): the tokens are
the same but for the carriage returns in their texts, and reading commutes with taking these away.

What is left to compare is the text of comments.  A line comment has no carriage return but at its
end, where it does not count; a block comment has none unless it spans lines.
-/

namespace Scribe.Source

open Scribe.Text

/-! ## The texts of comments -/

section
variable {t : Token} {next : Char}

theorem commentBody_withoutReturns (hfits : Fits t.kind t.text next) (hcomment : t.isComment) :
    commentBody t.withoutReturns = withoutReturns (commentBody t) := by
  obtain ⟨kind, text, line, endLine⟩ := t
  rw [hfits.token_withoutReturns]
  rcases (by simpa [Token.isComment] using hcomment :
    kind = .lineComment ∨ kind = .blockComment) with rfl | rfl
  · cases hfits with
    | @lineComment body _ =>
      have hmark : withoutReturns ('/' :: '/' :: body) = '/' :: '/' :: withoutReturns body := by
        rw [withoutReturns_cons (by decide), withoutReturns_cons (by decide)]
      simp [commentBody, hmark, dropReturn_eq_self (no_return_withoutReturns body),
        withoutReturns_dropReturn]
  · simp [commentBody]

/-- A comment that does not span lines counts without a carriage return. -/
theorem no_return_commentBody {s : List Char} (h : ReturnsEndLines s)
    (hfits : Fits t.kind t.text next) (htext : t.text <:+: s) (hcomment : t.isComment)
    (hline : t.kind = .blockComment → '\n' ∉ t.text) : '\r' ∉ commentBody t := by
  obtain ⟨kind, text, line, endLine⟩ := t
  rcases (by simpa [Token.isComment] using hcomment :
    kind = .lineComment ∨ kind = .blockComment) with rfl | rfl
  · cases hfits with
    | @lineComment body hbody =>
      have hin : body <:+: '/' :: '/' :: body := ⟨['/', '/'], [], by simp⟩
      simpa [commentBody] using h.no_return_dropReturn (hin.trans htext) hbody
  · have hend := h.no_return_dropReturn htext (hline rfl)
    have hself : dropReturn text = text := by
      refine if_neg ?_
      intro hlast
      simpa using hfits.isBlank_getLast (by simp) (by simp) '\r' hlast
    rw [hself] at hend
    exact hend

end

theorem mem_commentText {cs : List Token} {c : Char} (h : c ∈ commentText cs) :
    ∃ t ∈ cs, c ∈ commentBody t := by
  cases cs with
  | nil => simp [commentText] at h
  | cons first more =>
    rcases List.mem_append.1 h with h | h
    · exact ⟨first, List.mem_cons_self, mem_trim h⟩
    · obtain ⟨t, ht, hc⟩ := List.mem_flatMap.1 h
      exact ⟨t, List.mem_cons_of_mem first ht, hc⟩

theorem commentText_map_withoutReturns {cs : List Token}
    (h : ∀ t ∈ cs, commentBody t.withoutReturns = withoutReturns (commentBody t)) :
    commentText (cs.map Token.withoutReturns) = withoutReturns (commentText cs) := by
  cases cs with
  | nil => rfl
  | cons first more =>
    obtain ⟨hfirst, hmore⟩ := List.forall_mem_cons.1 h
    have hflat : (more.map Token.withoutReturns).flatMap commentBody =
        withoutReturns (more.flatMap commentBody) := by
      clear h
      induction more with
      | nil => rfl
      | cons t more ih =>
        obtain ⟨ht, hmore⟩ := List.forall_mem_cons.1 hmore
        rw [List.map_cons, List.flatMap_cons, List.flatMap_cons, ht, ih hmore, withoutReturns_append]
    rw [List.map_cons, commentText, commentText, hfirst, trim_withoutReturns, hflat,
      withoutReturns_append]

/-! ## Readings -/

/-- A text without its carriage returns, as a string. -/
def unreturned (text : String) : List Char := withoutReturns text.toList

section
variable {s : List Char} {ts : List Token} {r : Reading}

/-- The token of a source that a recorded comment is. -/
theorem fits_of_comment (hts : tokenize s = .ok ts) (hr : readFrom 0 ts = .ok r) {a : Attribution}
    (ha : a ∈ r.attributions) {c : Token} (hc : c ∈ a.comments) :
    c.isComment ∧ c ∈ ts ∧ (∃ next, Fits c.kind c.text next) ∧ c.text <:+: s := by
  obtain ⟨hcomment, hmem⟩ := comments_of_readFrom (placed_of_tokenizeFrom hts) hr ha hc
  obtain ⟨hnext, hin⟩ := (segmentation_of_tokenizeFrom hts).mem (List.mem_map_of_mem hmem)
  exact ⟨hcomment, hmem, hnext, hin⟩

/-- The text of a constant is the same, but for carriage returns. -/
theorem commentText_withoutReturns (hts : tokenize s = .ok ts) (hr : readFrom 0 ts = .ok r)
    {a : Attribution} (ha : a ∈ r.attributions) :
    commentText (a.comments.map Token.withoutReturns) = withoutReturns (commentText a.comments) := by
  apply commentText_map_withoutReturns
  intro c hc
  obtain ⟨hcomment, -, ⟨next, hfits⟩, -⟩ := fits_of_comment hts hr ha hc
  exact commentBody_withoutReturns hfits hcomment

/-- And there are no carriage returns in it unless a block comment spans lines. -/
theorem no_return_commentText (h : ReturnsEndLines s) (hts : tokenize s = .ok ts)
    (hr : readFrom 0 ts = .ok r)
    (hblock : ∀ t ∈ ts, t.kind = .blockComment → t.spansLines = false) {a : Attribution}
    (ha : a ∈ r.attributions) : '\r' ∉ commentText a.comments := by
  intro hmem
  obtain ⟨c, hc, hreturn⟩ := mem_commentText hmem
  obtain ⟨hcomment, hct, ⟨next, hfits⟩, hin⟩ := fits_of_comment hts hr ha hc
  refine no_return_commentBody h hfits hin hcomment ?_ hreturn
  intro hkind
  have hspans := hblock c hct hkind
  have hend := (placed_of_tokenizeFrom hts).endLine_eq hct
  rw [Token.isNewline_of_isComment hcomment, if_neg (by simp)] at hend
  rw [Token.spansLines, hend, decide_eq_false_iff_not] at hspans
  rw [← newlines_eq_zero]
  omega

theorem find?_comments_withoutReturns (hts : tokenize s = .ok ts) (hr : readFrom 0 ts = .ok r)
    (name : String) :
    (r.toConstantFile.comments.find? name).map unreturned =
      ((r.map Token.withoutReturns).toConstantFile.comments.find? name).map unreturned := by
  refine find?_ofList_congr ?_ name
  rw [Reading.map, List.map_map, List.forall₂_map_left_iff, List.forall₂_map_right_iff,
    List.forall₂_same]
  intro a ha
  refine ⟨rfl, ?_⟩
  simp only [Function.comp_apply, Attribution.map, unreturned, String.toList_ofList,
    commentText_withoutReturns hts hr ha, withoutReturns_eq_self (no_return_withoutReturns _)]

theorem toConstantFile_withoutReturns (h : ReturnsEndLines s) (hts : tokenize s = .ok ts)
    (hr : readFrom 0 ts = .ok r)
    (hblock : ∀ t ∈ ts, t.kind = .blockComment → t.spansLines = false) :
    r.toConstantFile = (r.map Token.withoutReturns).toConstantFile := by
  have hsame : ∀ a ∈ r.attributions,
      commentText (a.comments.map Token.withoutReturns) = commentText a.comments := by
    intro a ha
    rw [commentText_withoutReturns hts hr ha,
      withoutReturns_eq_self (no_return_commentText h hts hr hblock ha)]
  rw [Reading.toConstantFile, Reading.toConstantFile, Reading.map, List.map_map]
  congr 2
  refine List.map_congr_left ?_
  intro a ha
  simp only [Function.comp_apply, Attribution.map, hsame a ha]

end

/-! ## Line ends -/

/-- **What is read of a source does not depend on carriage returns at line ends.** -/
theorem readConstants_withoutReturns {s : List Char} (h : ReturnsEndLines s) :
    (∃ e, readConstants (withoutReturns s) = .error e ∧ readConstants s = .error e) ∨
      ∃ ts f g, tokenize (withoutReturns s) = .ok ts ∧
        readConstants (withoutReturns s) = .ok f ∧ readConstants s = .ok g ∧
        g.package = f.package ∧
        (∀ name, (g.comments.find? name).map unreturned =
          (f.comments.find? name).map unreturned) ∧
        ((∀ t ∈ ts, t.kind = .blockComment → t.spansLines = false) → g = f) := by
  rw [readConstants, readConstants, tokenize_withoutReturns h]
  cases hts : tokenize s with
  | error e => exact .inl ⟨.lexical e, rfl, rfl⟩
  | ok ts =>
    have hmap := readFrom_map relabels_withoutReturns 0 ts
    dsimp only [Except.map]
    rw [hmap]
    cases hr : readFrom 0 ts with
    | error e => exact .inl ⟨.unclosedGroup e, rfl, rfl⟩
    | ok r =>
      refine .inr ⟨ts.map Token.withoutReturns, (r.map Token.withoutReturns).toConstantFile,
        r.toConstantFile, rfl, rfl, rfl, rfl, find?_comments_withoutReturns hts hr, ?_⟩
      intro hblock
      refine toConstantFile_withoutReturns h hts hr ?_
      intro t ht hkind
      have hspans := hblock t.withoutReturns (List.mem_map_of_mem ht)
      simpa [Token.spansLines, hkind] using hspans

/-- **Line ends do not matter.**  With a carriage return before each line feed, a source is laid out
to the same text or fails with the same error, and the same is read of its constants, but for the
carriage returns inside block comments that span lines. -/
theorem line_ends_do_not_matter {s : List Char} (h : '\r' ∉ s) :
    layout (withReturns s) = layout s ∧
      ((∃ e, readConstants s = .error e ∧ readConstants (withReturns s) = .error e) ∨
        ∃ ts f g, tokenize s = .ok ts ∧
          readConstants s = .ok f ∧ readConstants (withReturns s) = .ok g ∧
          g.package = f.package ∧
          (∀ name, (g.comments.find? name).map unreturned =
            (f.comments.find? name).map unreturned) ∧
          ((∀ t ∈ ts, t.kind = .blockComment → t.spansLines = false) → g = f)) := by
  have hends := returnsEndLines_withReturns h
  have hlayout := layout_withoutReturns hends
  have hread := readConstants_withoutReturns hends
  rw [withoutReturns_withReturns h] at hlayout hread
  exact ⟨hlayout.symm, hread⟩

/-- A group with comments of both forms, on one line and on several, and a raw string over a line
end.  Only the comment on several lines is read with the carriage return. -/
theorem line_ends_do_not_matter_group :
    let s :=
      "package p\nconst (\n// a\n// b\nA = `x\ny`\nB = \"q\" /* c\nd */\nC = 1 // e\n)\n".toList
    '\r' ∉ s ∧
    layout s = .ok ("package p\nconst (\n\t// a\n\t// b\n\tA = `x\ny`\n\tB = \"q\" /* c\nd */\n" ++
      "\tC = 1 // e\n)\n").toList ∧
    readConstants s =
      .ok ⟨some "p", .ofList [("A", "a b"), ("B", "/* c\nd */"), ("C", "e")]⟩ ∧
    readConstants (withReturns s) =
      .ok ⟨some "p", .ofList [("A", "a b"), ("B", "/* c\r\nd */"), ("C", "e")]⟩ ∧
    layout (withReturns s) = layout s ∧
      ((∃ e, readConstants s = .error e ∧ readConstants (withReturns s) = .error e) ∨
        ∃ ts f g, tokenize s = .ok ts ∧
          readConstants s = .ok f ∧ readConstants (withReturns s) = .ok g ∧
          g.package = f.package ∧
          (∀ name, (g.comments.find? name).map unreturned =
            (f.comments.find? name).map unreturned) ∧
          ((∀ t ∈ ts, t.kind = .blockComment → t.spansLines = false) → g = f)) :=
  ⟨by decide, by decide +kernel, by decide +kernel, by decide +kernel,
    line_ends_do_not_matter (by decide)⟩

end Scribe.Source
