import Scribe.Proofs.Source.Places
import Scribe.Proofs.Constants.Alike
import Scribe.Proofs.Constants.Steps

/-!
# Entries that read alike

What the reader makes of one entry depends on nothing that `Alike` leaves open: two lists of tokens
that read alike begin with entries that read alike (`takeEntry_alike`), and these declare the same
name with comments that agree one for one (`attribution_alike`).

Comments after an entry are found by line numbers, which lists of tokens that read alike do not
share.  In a list of tokens that follow each other they are the comments up to the first line feed,
whether that is a token or in one (`trailingComments_eq`).
-/

namespace Scribe.Source

open Scribe.Text

/-! ## Where an entry ends -/

variable {sim : Token → Token → Prop} {inGroup : Bool} {depth : Nat} {last last' : Option Token}
  {ts us taken rest a b : List Token}

/-- **Lists that read alike begin with entries that read alike.** -/
theorem takeEntry_alike (hsim : Mirrors sim) (h : Alike sim ts us)
    (hlast : last'.any Token.endsStatement = last.any Token.endsStatement)
    (htake : takeEntry inGroup depth last ts = some (taken, rest)) :
    ∃ taken' rest', takeEntry inGroup depth last' us = some (taken', rest') ∧
      Alike sim taken taken' ∧ Alike sim rest rest' := by
  induction h generalizing depth last last' taken rest with
  | nil =>
    cases inGroup with
    | true => simp [takeEntry] at htake
    | false =>
      obtain ⟨rfl, rfl⟩ := Prod.mk.inj (Option.some.inj htake)
      exact ⟨[], [], rfl, .nil, .nil⟩
  | @token t u ts us ht h hrest ih =>
    have hkind := hsim.kind h
    have hends := Token.endsEntry_congr hkind hlast
    rcases takeEntry_cases htake with ⟨hstop, rfl, rfl⟩ | ⟨hmore, more, rfl, hinner⟩
    · rw [← hends] at hstop
      exact ⟨[], u :: us, takeEntry_here hstop, .nil, .token ht h hrest⟩
    · have hlast' : (if u.isSignificant then some u else last').any Token.endsStatement =
          (if t.isSignificant then some t else last).any Token.endsStatement := by
        rw [Token.isSignificant_congr hkind]
        split
        · exact Token.endsStatement_congr hkind
        · exact hlast
      rw [← hends] at hmore
      rw [← Token.depthAfter_congr hkind] at hinner
      obtain ⟨more', left', hinner', hm, hl⟩ := ih hlast' hinner
      exact ⟨u :: more', left', takeEntry_more hmore hinner', .token ht h hm, hl⟩
  | @lineEnds m n a b ts us ha hb hsingle hrest ih =>
    cases hends : decide (depth = 0) && last.any Token.endsStatement with
    | true =>
      rw [takeEntry_stop (lineEnds_cons.1 ha).1 hends] at htake
      obtain ⟨rfl, rfl⟩ := Prod.mk.inj (Option.some.inj htake)
      rw [← hlast] at hends
      exact ⟨[], _, takeEntry_stop (lineEnds_cons.1 hb).1 hends, .nil,
        .lineEnds ha hb hsingle hrest⟩
    | false =>
      rw [← List.cons_append, takeEntry_lineEnds ha hends] at htake
      obtain ⟨⟨more, left⟩, hmore, heq⟩ := Option.map_eq_some_iff.1 htake
      obtain ⟨rfl, rfl⟩ := Prod.mk.inj heq
      obtain ⟨more', left', hmore', hm', hl⟩ := ih hlast hmore
      rw [← hlast] at hends
      refine ⟨n :: (b ++ more'), left', ?_, .lineEnds ha hb hsingle hm', hl⟩
      rw [← List.cons_append, takeEntry_lineEnds hb hends, hmore']
      rfl

/-! ## The name of an entry -/

theorem entryBody_alike (hsim : Mirrors sim) (h : Alike sim ts us) :
    Alike sim (entryBody ts) (entryBody us) ∧ Alike sim (entryTrail ts) (entryTrail us) := by
  have hspan := h.reverse.span (p := (!·.isSignificant)) hsim fun hk => by
    rw [Token.isSignificant_congr hk]
  exact ⟨hspan.2.reverse, hspan.1.reverse⟩

theorem declaredName_alike (hsim : Mirrors sim) (h : Alike sim ts us) :
    declaredName us = declaredName ts := by
  cases h with
  | nil => rfl
  | @token t u ts us ht h hrest =>
    have hspan := (hrest.span (p := (!·.isPunct '=')) hsim fun hk => by
      rw [Token.isPunct_congr hk]).1
    have hany := hspan.any_eq (p := (·.isPunct ',')) hsim fun hk => Token.isPunct_congr hk ','
    rw [declaredName, declaredName, hsim.kind h, hany]
    by_cases hkind : t.kind = .ident
    · rw [hsim.word h hkind]
    · simp [hkind]
  | lineEnds ha hb =>
    have hm := (lineEnds_cons.1 ha).1
    have hn := (lineEnds_cons.1 hb).1
    simp_all [declaredName, Token.isNewline]

/-! ## Comments after an entry -/

/-- The tokens up to the first line feed, whether that is a token or in one. -/
def uptoLineFeed : List Token → List Token
  | [] => []
  | t :: ts =>
    if t.isNewline then [] else t :: if newlines t.text = 0 then uptoLineFeed ts else []

theorem uptoLineFeed_of_isNewline {t : Token} (ht : t.isNewline) (ts : List Token) :
    uptoLineFeed (t :: ts) = [] :=
  if_pos ht

theorem uptoLineFeed_cons {t : Token} (ht : t.isNewline = false) (ts : List Token) :
    uptoLineFeed (t :: ts) = t :: if newlines t.text = 0 then uptoLineFeed ts else [] :=
  if_neg (by simp [ht])

theorem trailingComments_eq {line : Nat} (h : Placed line ts) :
    trailingComments line ts = (uptoLineFeed ts).filter Token.isComment := by
  induction ts generalizing line with
  | nil => rfl
  | cons t ts ih =>
    obtain ⟨hline, -, hrest⟩ := h
    unfold trailingComments at ih ⊢
    cases hn : t.isNewline with
    | true =>
      rw [List.takeWhile_cons_of_neg (by simp [hn]), uptoLineFeed_of_isNewline hn]
      rfl
    | false =>
      rw [List.takeWhile_cons_of_pos (by simp [hn]), uptoLineFeed_cons hn]
      have hmore : (ts.takeWhile (!·.isNewline)).filter (fun u => u.isComment && u.line = line) =
          (if newlines t.text = 0 then uptoLineFeed ts else []).filter Token.isComment := by
        split
        · rename_i hzero
          rw [hzero] at hrest
          exact ih hrest
        · -- The tokens after a line feed stand on later lines.
          rw [List.filter_eq_nil_iff.2]
          · rfl
          · intro u hu
            have := hrest.le_line ((List.takeWhile_sublist _).mem hu)
            simp
            omega
      rw [List.filter_cons, List.filter_cons, hmore]
      simp [hline]

theorem uptoLineFeed_alike (hsim : Mirrors sim) (h : Alike sim ts us) :
    List.Forall₂ sim (uptoLineFeed ts) (uptoLineFeed us) := by
  induction h with
  | nil => exact .nil
  | token ht h _ ih =>
    have hu := (Token.isNewline_congr (hsim.kind h)).trans ht
    rw [uptoLineFeed_cons ht, uptoLineFeed_cons hu, hsim.newlines h]
    refine .cons h ?_
    split
    · exact ih
    · exact .nil
  | lineEnds ha hb =>
    rw [uptoLineFeed_of_isNewline (lineEnds_cons.1 ha).1,
      uptoLineFeed_of_isNewline (lineEnds_cons.1 hb).1]
    exact .nil

/-- Comments that agree one for one. -/
def CommentsAlike (sim : Token → Token → Prop) : List Token → List Token → Prop :=
  List.Forall₂ fun t u => t.isComment ∧ sim t u

theorem trailingComments_alike (hsim : Mirrors sim) {line line' : Nat} (hts : Placed line ts)
    (hus : Placed line' us) (h : Alike sim ts us) :
    CommentsAlike sim (trailingComments line ts) (trailingComments line' us) := by
  rw [trailingComments_eq hts, trailingComments_eq hus]
  refine (List.forall₂_and_left _ _).2 ⟨fun t ht => (List.mem_filter.1 ht).2, ?_⟩
  have hcomment : ∀ ⦃t u⦄, sim t u → (t.isComment ↔ u.isComment) := by
    intro t u htu
    rw [Token.isComment_congr (hsim.kind htu)]
  exact List.rel_filter hcomment (uptoLineFeed_alike hsim h)

/-! ## Comments above an entry -/

/-- Several line ends stop the block on both sides, and a single one on both sides does not. -/
theorem commentLinesBack_lineEnds {m n : Token} (ha : LineEnds (m :: a)) (hb : LineEnds (n :: b))
    (hsingle : a = [] ↔ b = [])
    (h : CommentsAlike sim (commentLinesBack (m :: ts)) (commentLinesBack (n :: us))) :
    CommentsAlike sim (commentLinesBack (m :: (a ++ ts))) (commentLinesBack (n :: (b ++ us))) := by
  cases a with
  | nil =>
    obtain rfl := hsingle.1 rfl
    exact h
  | cons m' a =>
    obtain ⟨n', b, rfl⟩ := List.exists_cons_of_ne_nil fun h => List.cons_ne_nil m' a (hsingle.2 h)
    simp only [lineEnds_cons] at ha hb
    rw [List.cons_append, List.cons_append, commentLinesBack_of_isNewline _ ha.2.1,
      commentLinesBack_of_isNewline _ hb.2.1]
    exact .nil

theorem commentLinesBack_alike (hsim : Mirrors sim) (n n' : Token) (h : Alike sim ts us) :
    CommentsAlike sim (commentLinesBack (n :: ts)) (commentLinesBack (n' :: us)) := by
  induction hlen : ts.length using Nat.strong_induction_on generalizing n n' ts us with
  | h len ih =>
    obtain ⟨htake, hdrop⟩ := h.span (p := Token.isComment) hsim Token.isComment_congr
    have hcomment : ∀ t ∈ ts.takeWhile Token.isComment, t.isComment := by
      intro t ht
      exact List.mem_takeWhile_imp ht
    have hforall : CommentsAlike sim (ts.takeWhile Token.isComment)
        (us.takeWhile Token.isComment) :=
      (List.forall₂_and_left _ _).2
        ⟨hcomment, htake.forall₂ fun t ht => Token.isNewline_of_isComment (hcomment t ht)⟩
    have hshort : (ts.dropWhile Token.isComment).length ≤ len := by
      rw [← hlen]
      exact (List.dropWhile_sublist _).length_le
    rw [commentLinesBack_cons, commentLinesBack_cons]
    by_cases hnil : ts.takeWhile Token.isComment = []
    · rw [if_pos hnil, if_pos (htake.nil_iff.1 hnil)]
      exact .nil
    · rw [if_neg hnil, if_neg fun h => hnil (htake.nil_iff.2 h)]
      generalize ts.dropWhile Token.isComment = ts', us.dropWhile Token.isComment = us'
        at hdrop hshort ⊢
      cases hdrop with
      | nil => exact hforall
      | token ht h hrest =>
        have hu := (Token.isNewline_congr (hsim.kind h)).trans ht
        dsimp only
        rw [if_neg (by simp [ht]), if_neg (by simp [hu])]
        exact .nil
      | lineEnds ha hb hsingle hrest =>
        dsimp only
        rw [if_pos (lineEnds_cons.1 ha).1, if_pos (lineEnds_cons.1 hb).1]
        simp only [List.length_cons, List.length_append] at hshort
        exact List.rel_append hforall
          (commentLinesBack_lineEnds ha hb hsingle (ih _ (by omega) _ _ hrest rfl))

theorem docComments_alike (hsim : Mirrors sim) (h : Alike sim ts us) :
    CommentsAlike sim (docComments ts) (docComments us) := by
  cases h with
  | nil => exact .nil
  | token ht h _ =>
    have hu := (Token.isNewline_congr (hsim.kind h)).trans ht
    rw [docComments_of_not_isNewline ht, docComments_of_not_isNewline hu]
    exact .nil
  | lineEnds ha hb hsingle hrest =>
    rw [docComments_of_isNewline (lineEnds_cons.1 ha).1,
      docComments_of_isNewline (lineEnds_cons.1 hb).1]
    exact List.forall₂_reverse_iff.2
      (commentLinesBack_lineEnds ha hb hsingle (commentLinesBack_alike hsim _ _ hrest))

/-! ## What is known of an entry -/

/-- Two constants of one name, whose comments agree one for one. -/
def Attribution.Alike (sim : Token → Token → Prop) (a b : Attribution) : Prop :=
  b.name = a.name ∧ CommentsAlike sim a.comments b.comments

/-- What follows the last significant token of an entry starts on the line where that ends. -/
theorem placed_entryTrail {init : List Token} {final : Token} {line : Nat}
    (hbody : entryBody taken = init ++ [final]) (h : Placed line (taken ++ rest)) :
    Placed final.endLine (entryTrail taken ++ rest) := by
  have hnewline := Token.isNewline_of_isSignificant (isSignificant_of_entryBody hbody)
  rw [← entryBody_append_entryTrail taken, hbody, List.append_assoc, List.append_assoc] at h
  obtain ⟨line', -, hend, h⟩ := h.suffix
  rw [hnewline, if_neg (by simp)] at hend
  rw [hend]
  exact h

theorem entryComments_alike {docs docs' after after' : List Token} {line line' : Nat}
    (hdocs : CommentsAlike sim docs docs')
    (h : CommentsAlike sim (trailingComments line after) (trailingComments line' after')) :
    CommentsAlike sim (entryComments docs line after) (entryComments docs' line' after') := by
  unfold entryComments
  by_cases hnil : trailingComments line after = []
  · rw [hnil] at h
    rw [if_pos hnil, if_pos (List.forall₂_nil_left_iff.1 h)]
    exact hdocs
  · have hnil' : trailingComments line' after' ≠ [] := by
      intro hnil'
      rw [hnil'] at h
      exact hnil (List.forall₂_nil_right_iff.1 h)
    rw [if_neg hnil, if_neg hnil']
    exact h

/-- **Entries that read alike declare the same constant with comments that agree.** -/
theorem attribution_alike (hsim : Mirrors sim) {docs docs' taken' rest' : List Token}
    {line line' : Nat} (hdocs : CommentsAlike sim docs docs') (htaken : Alike sim taken taken')
    (hrest : Alike sim rest rest') (hplaced : Placed line (taken ++ rest))
    (hplaced' : Placed line' (taken' ++ rest')) :
    List.Forall₂ (Attribution.Alike sim) (attribution docs taken rest).toList
      (attribution docs' taken' rest').toList := by
  obtain ⟨hbody, htrail⟩ := entryBody_alike hsim htaken
  have hname := declaredName_alike hsim hbody
  cases hsome : declaredName (entryBody taken) with
  | none =>
    rw [attribution_eq_none hsome, attribution_eq_none (hname.trans hsome)]
    exact .nil
  | some name =>
    obtain ⟨init, final, hfinal⟩ := exists_final hsome
    have hsig := isSignificant_of_entryBody hfinal
    rw [hfinal] at hbody
    obtain ⟨init', final', hfinal', -⟩ :=
      hbody.exists_concat (Token.isNewline_of_isSignificant hsig)
    have htrailing := trailingComments_alike hsim (placed_entryTrail hfinal hplaced)
      (placed_entryTrail hfinal' hplaced') (htrail.append hrest)
    have hcomments := entryComments_alike hdocs htrailing
    rw [attribution_eq hfinal hsome, attribution_eq hfinal' (hname.trans hsome)]
    generalize entryComments docs final.endLine (entryTrail taken ++ rest) = comments,
      entryComments docs' final'.endLine (entryTrail taken' ++ rest') = comments' at hcomments ⊢
    cases hcomments with
    | nil => exact .nil
    | cons h hrest => exact .cons ⟨rfl, .cons h hrest⟩ .nil

end Scribe.Source
