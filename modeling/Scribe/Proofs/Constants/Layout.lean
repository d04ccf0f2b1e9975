import Scribe.Proofs.Constants.Ending
import Scribe.Proofs.Constants.Nesting
import Scribe.Proofs.Layout.Tokens

/-!
# Constants of a layout

Laying out a source does not change what is read from it (`readConstants_layout`).  A source that
can be laid out can be read, since its brackets nest; and the layout reads alike, since it keeps the
tokens and neither joins nor parts comments that stand on adjoining lines.  Only the texts of
comments may lose blanks, those at the ends of line comments and the carriage returns of block
comments.
-/

namespace Scribe.Source

open Scribe.Text

variable {ts us : List Token} {t u : Token}

/-! ## A layout reads alike -/

/-- What laying out makes of a token among `all`. -/
def Token.LaidFrom (all : List Token) (t u : Token) : Prop := t ∈ all ∧ t.LaidAs u

theorem newlines_of_laidAs (h : t.LaidAs u) : newlines u.text = newlines t.text := by
  obtain ⟨-, htext⟩ := h
  split at htext
  · obtain ⟨blanks, hblanks, htext⟩ := htext
    rw [htext, newlines_append, newlines_eq_zero.2 (no_newline_of_gap hblanks), Nat.add_zero]
  · rw [htext, newlines_dropReturns]
  · rw [htext, newlines_dropReturns]
  · rw [htext]

theorem mirrors_laidFrom (all : List Token) : Mirrors (Token.LaidFrom all) where
  kind h := h.2.1
  word h ht := by
    have := h.2.2
    rw [ht] at this
    exact this
  newlines h := newlines_of_laidAs h.2

theorem Spaced.alike {all : List Token} (h : Spaced ts us) (hall : ∀ t ∈ ts, t ∈ all) :
    Alike (Token.LaidFrom all) ts us := by
  induction h with
  | single ht h => exact .token ht ⟨hall _ List.mem_cons_self, h⟩ .nil
  | @cons t u a b core core' ht h ha hb hab _ ih =>
    obtain ⟨hfirst, hmore⟩ := List.forall_mem_cons.1 hall
    have hrest : ∀ t ∈ core, t ∈ all := by
      intro t ht
      exact hmore t (List.mem_append_right _ ht)
    exact .token ht ⟨hfirst, h⟩ (Alike.runs ha hb (by omega) (ih hrest))

/-- A layout and its source can both be read, and the readings agree. -/
theorem exists_readings (h : Settled ts us) (hts : ∃ line, Placed line ts)
    (hus : ∃ line, Placed line us) (hcloses : Closes [] ts) :
    ∃ r s, readFrom 0 ts = .ok r ∧ readFrom 0 us = .ok s ∧ r.Alike (Token.LaidFrom ts) s := by
  cases h with
  | lineEnds ha hn =>
    have hread : ∀ {a : List Token}, LineEnds a → readFrom 0 a = .ok ⟨none, []⟩ := by
      intro a ha
      rw [← List.append_nil a, readFrom_lineEnds ha, readFrom]
    exact ⟨_, _, hread ha, hread (lineEnds_nil.cons hn), rfl, .nil⟩
  | @tokens a b core core' n ha h hb hn =>
    have hmem : ∀ t ∈ core, t ∈ a ++ (core ++ b) := by
      intro t ht
      simp [ht]
    have halike := h.alike hmem
    have hcore : Closes [] core := by
      rw [← Closes.filter_iff] at hcloses ⊢
      simpa [ha.filter, hb.filter] using hcloses
    obtain ⟨line, hts⟩ := hts
    obtain ⟨line', hus⟩ := hus
    obtain ⟨coreLine, hts⟩ := hts.suffix
    obtain ⟨r, hr⟩ := readFrom_of_closes hcore rfl
    obtain ⟨s, hs, hrs⟩ := readFrom_alike (mirrors_laidFrom _)
      ⟨halike, ⟨_, hts.of_append⟩, ⟨_, hus.of_append⟩⟩ hr
    refine ⟨r, s, ?_, readFrom_append_lineEnds (lineEnds_nil.cons hn) hs, hrs⟩
    rw [readFrom_lineEnds ha]
    exact readFrom_append_lineEnds hb hr

/-! ## The texts of comments -/

/-- Laying out takes nothing but blanks from a comment. -/
theorem filter_commentBody (h : t.LaidAs u) :
    (commentBody u).filter (!isBlank ·) = (commentBody t).filter (!isBlank ·) := by
  obtain ⟨hkind, htext⟩ := h
  rw [commentBody, commentBody, hkind]
  split at htext
  · rename_i hline
    obtain ⟨blanks, hblanks, htext⟩ := htext
    have hnil : ∀ n, (blanks.drop n).filter (!isBlank ·) = [] := by
      intro n
      rw [List.filter_eq_nil_iff]
      intro c hc
      simp [isBlank_of_isGap (hblanks c (List.mem_of_mem_drop hc))]
    rw [if_pos hline, if_pos hline, cutsBlanks_dropReturn.filter, cutsBlanks_dropReturn.filter,
      htext, List.drop_append, List.filter_append, hnil, List.append_nil]
  · rename_i hraw
    rw [if_neg (by simp [hraw]), if_neg (by simp [hraw]), htext, filter_dropReturns]
  · rename_i hblock
    rw [if_neg (by simp [hblock]), if_neg (by simp [hblock]), htext, filter_dropReturns]
  · rename_i hline _ _
    rw [if_neg hline, if_neg hline, htext]

theorem filter_commentText {cs ds : List Token} (h : List.Forall₂ Token.LaidAs cs ds) :
    (commentText ds).filter (!isBlank ·) = (commentText cs).filter (!isBlank ·) := by
  have hmore : ∀ {cs ds : List Token}, List.Forall₂ Token.LaidAs cs ds →
      (ds.flatMap commentBody).filter (!isBlank ·) =
        (cs.flatMap commentBody).filter (!isBlank ·) := by
    intro cs ds h
    induction h with
    | nil => rfl
    | cons h _ ih =>
      rw [List.flatMap_cons, List.flatMap_cons, List.filter_append, List.filter_append,
        filter_commentBody h, ih]
  cases h with
  | nil => rfl
  | cons h hrest =>
    rw [commentText, commentText, List.filter_append, List.filter_append, filter_trim, filter_trim,
      filter_commentBody h, hmore hrest]

/-- Whether laying out leaves a comment as it is: no line end inside it has a carriage return, and
no blank stands at the end of a line comment, but for a carriage return. -/
def Token.IsPlain (t : Token) : Prop :=
  (t.kind = .blockComment → ¬ ['\r', '\n'] <:+: t.text) ∧
    (t.kind = .lineComment → ∀ c ∈ (dropReturn t.text).getLast?, isBlank c = false)

/-- Of a line comment that ends in no other blank, laying out takes a carriage return at most. -/
theorem eq_or_eq_append_return {s text blanks : List Char} (hblanks : ∀ c ∈ blanks, isBlank c)
    (htext : text = s ++ blanks) (hlast : ∀ c ∈ (dropReturn text).getLast?, isBlank c = false) :
    blanks = [] ∨ blanks = ['\r'] ∧ ∀ c ∈ s.getLast?, isBlank c = false := by
  rcases List.eq_nil_or_concat blanks with hnil | ⟨init, b, hb⟩
  · exact .inl hnil
  rw [List.concat_eq_append] at hb
  rw [hb, ← List.append_assoc] at htext
  rw [hb] at hblanks
  have hblank : isBlank b := hblanks b (by simp)
  by_cases hr : b = '\r'
  · subst hr
    have hdrop : dropReturn text = s ++ init := by simp [dropReturn, htext]
    rw [hdrop] at hlast
    rcases List.eq_nil_or_concat init with rfl | ⟨init', b', rfl⟩
    · rw [List.append_nil] at hlast
      exact .inr ⟨hb, hlast⟩
    · have := hlast b' (by simp [List.concat_eq_append])
      simp [hblanks b' (by simp)] at this
  · have hdrop : dropReturn text = text := by simp [dropReturn, htext, hr]
    rw [hdrop] at hlast
    have := hlast b (by simp [htext])
    simp [hblank] at this

/-- Laying out leaves what counts of a plain comment. -/
theorem commentBody_eq (h : t.LaidAs u) (hcomment : t.isComment) (hplain : t.IsPlain) :
    commentBody u = commentBody t := by
  obtain ⟨hkind, htext⟩ := h
  obtain ⟨hblock, hline⟩ := hplain
  rw [commentBody, commentBody, hkind]
  by_cases hk : t.kind = .lineComment
  · rw [hk] at htext
    obtain ⟨blanks, hblanks, htext⟩ := htext
    rw [if_pos hk, if_pos hk]
    have hgaps : ∀ c ∈ blanks, isBlank c := by
      intro c hc
      exact isBlank_of_isGap (hblanks c hc)
    rcases eq_or_eq_append_return hgaps htext (hline hk) with hnil | ⟨hreturn, hlast⟩
    · rw [htext, hnil, List.append_nil]
    · rw [htext, hreturn]
      by_cases hlen : 2 ≤ u.text.length
      · have hself : dropReturn (u.text.drop 2) = u.text.drop 2 := by
          refine if_neg ?_
          intro hr
          rw [List.getLast?_drop] at hr
          split at hr
          · simp at hr
          · simpa using hlast '\r' hr
        rw [List.drop_append_of_le_length hlen, hself]
        simp [dropReturn]
      · rw [List.drop_eq_nil_of_le (by omega), List.drop_eq_nil_of_le (by simp; omega)]
  · have hk' : t.kind = .blockComment := by
      simpa [Token.isComment, hk] using hcomment
    rw [hk'] at htext
    rw [if_neg hk, if_neg hk]
    exact htext.trans (dropReturns_eq_self_of_no_pair (hblock hk'))

theorem commentText_eq {cs ds : List Token}
    (h : List.Forall₂ (fun t u => commentBody u = commentBody t) cs ds) :
    commentText ds = commentText cs := by
  have hmap : ∀ {cs ds : List Token},
      List.Forall₂ (fun t u => commentBody u = commentBody t) cs ds →
      ds.flatMap commentBody = cs.flatMap commentBody := by
    intro cs ds h
    induction h with
    | nil => rfl
    | cons h _ ih => rw [List.flatMap_cons, List.flatMap_cons, h, ih]
  cases h with
  | nil => rfl
  | cons h hrest => rw [commentText, commentText, h, hmap hrest]

/-! ## Comments by name -/

/-- Texts that `f` does not tell apart may be exchanged in a list of comments. -/
theorem find?_ofList_congr {α : Type} {f : String → α} {pairs pairs' : List (String × String)}
    (h : List.Forall₂ (fun e e' => e'.1 = e.1 ∧ f e'.2 = f e.2) pairs pairs') (name : String) :
    ((Comments.ofList pairs').find? name).map f = ((Comments.ofList pairs).find? name).map f := by
  have hfold : ∀ {c c' : Comments},
      (∀ name, (c'.find? name).map f = (c.find? name).map f) → ∀ name,
        ((pairs'.foldl (fun c e => c.insert e.1 e.2) c').find? name).map f =
          ((pairs.foldl (fun c e => c.insert e.1 e.2) c).find? name).map f := by
    induction h with
    | nil => exact fun h => h
    | @cons e e' _ _ he _ ih =>
      intro c c' hc
      refine ih ?_
      intro name
      rw [Comments.find?_insert, Comments.find?_insert, he.1]
      split
      · exact congrArg some he.2
      · exact hc name
  exact hfold (fun _ => rfl) name

/-- A text without its blanks. -/
def squeezed (text : String) : List Char := text.toList.filter (!isBlank ·)

variable {r s : Reading} {all : List Token}

theorem find?_comments_squeezed (h : r.Alike (Token.LaidFrom all) s) (name : String) :
    (s.toConstantFile.comments.find? name).map squeezed =
      (r.toConstantFile.comments.find? name).map squeezed := by
  refine find?_ofList_congr ?_ name
  rw [List.forall₂_map_left_iff, List.forall₂_map_right_iff]
  refine h.2.imp fun a b hab => ⟨by rw [hab.1], ?_⟩
  rw [squeezed, squeezed, String.toList_ofList, String.toList_ofList]
  exact filter_commentText (hab.2.imp fun t u htu => htu.2.2)

theorem toConstantFile_eq (h : r.Alike (Token.LaidFrom all) s) (hplain : ∀ t ∈ all, t.IsPlain) :
    s.toConstantFile = r.toConstantFile := by
  have hpairs : List.Forall₂ Eq
      (r.attributions.map fun a => (String.ofList a.name, String.ofList (commentText a.comments)))
      (s.attributions.map fun a =>
        (String.ofList a.name, String.ofList (commentText a.comments))) := by
    rw [List.forall₂_map_left_iff, List.forall₂_map_right_iff]
    refine h.2.imp ?_
    intro a b hab
    have htext := commentText_eq (hab.2.imp fun t u htu =>
      commentBody_eq htu.2.2 htu.1 (hplain t htu.2.1))
    rw [hab.1, htext]
  rw [List.forall₂_eq_eq_eq] at hpairs
  rw [Reading.toConstantFile, Reading.toConstantFile, h.1, hpairs]

/-- **Laying out a source does not change what is read of its constants.** -/
theorem readConstants_layout {s t : List Char} (h : layout s = .ok t) :
    ∃ ts f g, tokenize s = .ok ts ∧ readConstants s = .ok f ∧ readConstants t = .ok g ∧
      g.package = f.package ∧
      (∀ name, (g.comments.find? name).map squeezed = (f.comments.find? name).map squeezed) ∧
      ((∀ k ∈ ts, k.IsPlain) → g = f) := by
  obtain ⟨ts, us, hts, hus, hcloses, hsettled⟩ := exists_settled_of_layout h
  obtain ⟨r, s', hr, hs, halike⟩ := exists_readings hsettled ⟨1, placed_of_tokenizeFrom hts⟩
    ⟨1, placed_of_tokenizeFrom hus⟩ hcloses
  refine ⟨ts, r.toConstantFile, s'.toConstantFile, hts, ?_, ?_, ?_, find?_comments_squeezed halike,
    toConstantFile_eq halike⟩
  · rw [readConstants, hts]
    dsimp only
    rw [hr]
  · rw [readConstants, hus]
    dsimp only
    rw [hs]
  · exact congrArg (Option.map String.ofList) halike.1

/-- A group whose comments stand above, beside and under an empty line, in a source with line ends
of both kinds. -/
theorem readConstants_layout_group :
    let s :=
      "package p\r\nconst (\n// a \r\n\t// b\n\n\n// c\nA = 1\nB = f(\n2) // d  \r\n)".toList
    let t :=
      "package p\nconst (\n\t// a\n\t// b\n\n\t// c\n\tA = 1\n\tB = f(\n\t\t2) // d\n)\n".toList
    layout s = .ok t ∧
    ∃ ts f g, tokenize s = .ok ts ∧ readConstants s = .ok f ∧ readConstants t = .ok g ∧
      g.package = f.package ∧
      (∀ name, (g.comments.find? name).map squeezed = (f.comments.find? name).map squeezed) ∧
      ((∀ k ∈ ts, k.IsPlain) → g = f) := by
  have h : layout
      "package p\r\nconst (\n// a \r\n\t// b\n\n\n// c\nA = 1\nB = f(\n2) // d  \r\n)".toList =
      .ok
      "package p\nconst (\n\t// a\n\t// b\n\n\t// c\n\tA = 1\n\tB = f(\n\t\t2) // d\n)\n".toList := by
    cbv
  exact ⟨h, readConstants_layout h⟩

end Scribe.Source
