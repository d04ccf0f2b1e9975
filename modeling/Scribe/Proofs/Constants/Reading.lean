import Scribe.Proofs.Constants.Entries

/-!
# Reading tokens that read alike

The reader of constants makes the same of two lists of tokens that read alike (`readFrom_alike`):
the same package, and the same constants in the same order, with comments that agree one for one.
-/

namespace Scribe.Source

variable {sim : Token → Token → Prop} {ts us a b before before' : List Token} {t : Token}
  {openLine depth : Nat}

/-! ## Groups -/

/-- Lists of tokens that follow each other, in both, and that read alike. -/
structure ReadsAlike (sim : Token → Token → Prop) (ts us : List Token) : Prop where
  alike : Alike sim ts us
  left : ∃ line, Placed line ts
  right : ∃ line, Placed line us

theorem ReadsAlike.suffix (h : ReadsAlike sim (a ++ ts) (b ++ us)) (hrest : Alike sim ts us) :
    ReadsAlike sim ts us := by
  obtain ⟨line, hleft⟩ := h.left
  obtain ⟨line', hright⟩ := h.right
  exact ⟨hrest, hleft.suffix, hright.suffix⟩

/-- An entry that is read of both lists: what is left of them reads alike. -/
theorem ReadsAlike.entry (h : ReadsAlike sim ts us) (hsim : Mirrors sim) {inGroup : Bool}
    {last last' : Option Token} {taken rest : List Token}
    (hlast : last'.any Token.endsStatement = last.any Token.endsStatement)
    (htake : takeEntry inGroup depth last ts = some (taken, rest)) :
    ∃ taken' rest', takeEntry inGroup depth last' us = some (taken', rest') ∧
      Alike sim taken taken' ∧ ReadsAlike sim rest rest' := by
  obtain ⟨taken', rest', htake', htaken, hrest⟩ := takeEntry_alike hsim h.alike hlast htake
  rw [← takeEntry_append htake, ← takeEntry_append htake'] at h
  exact ⟨taken', rest', htake', htaken, h.suffix hrest⟩

/-- A group, read after tokens that read alike. -/
theorem readGroup_alike (hsim : Mirrors sim) {openLine' : Nat} (hbefore : Alike sim before before')
    (h : ReadsAlike sim ts us) {found : List Attribution} {left : List Token}
    (hread : readGroup openLine before ts = .ok (found, left)) :
    ∃ found' left', readGroup openLine' before' us = .ok (found', left') ∧
      List.Forall₂ (Attribution.Alike sim) found found' ∧ ReadsAlike sim left left' := by
  induction hlen : ts.length using Nat.strong_induction_on
    generalizing ts us before before' found left with
  | h len ih =>
    have halike := h.alike
    cases halike with
    | nil => simp [readGroup] at hread
    | @lineEnds m n a b ts us ha hb hsingle hrest =>
      rw [← List.cons_append, readGroup_lineEnds ha] at hread
      rw [← List.cons_append, readGroup_lineEnds hb]
      have hsuffix : ReadsAlike sim ts us := h.suffix (a := m :: a) (b := n :: b) hrest
      have hback := (Alike.reverse_lineEnds ha hb hsingle).append hbefore
      simp only [List.length_cons, List.length_append] at hlen
      exact ih ts.length (by omega) hback hsuffix hread rfl
    | @token t u ts us ht htu hrest =>
      have hkind := hsim.kind htu
      have hsuffix : ReadsAlike sim ts us := h.suffix (a := [t]) (b := [u]) hrest
      rw [List.length_cons] at hlen
      cases hclose : t.isPunct ')' with
      | true =>
        rw [readGroup_close hclose] at hread
        obtain ⟨rfl, rfl⟩ := Prod.mk.inj (Except.ok.inj hread)
        rw [← Token.isPunct_congr hkind] at hclose
        exact ⟨[], us, readGroup_close hclose, .nil, hsuffix⟩
      | false =>
        have hclose' := (Token.isPunct_congr hkind ')').trans hclose
        have hskip' : (u.isPunct ';' || !u.isSignificant) =
            (t.isPunct ';' || !t.isSignificant) := by
          rw [Token.isPunct_congr hkind, Token.isSignificant_congr hkind]
        cases hskip : t.isPunct ';' || !t.isSignificant with
        | true =>
          rw [readGroup_skip hclose hskip] at hread
          rw [readGroup_skip hclose' (hskip'.trans hskip)]
          exact ih ts.length (by omega) (.token ht htu hbefore) hsuffix hread rfl
        | false =>
          obtain ⟨more, rest, found₀, htake, hgroup, rfl⟩ :=
            exists_of_readGroup_entry hclose hskip hread
          have hlast : (some u).any Token.endsStatement = (some t).any Token.endsStatement :=
            Token.endsStatement_congr hkind
          obtain ⟨more', rest', htake', hmore, hrest'⟩ := hsuffix.entry hsim hlast htake
          have hentry := Alike.token ht htu hmore
          have hshort := takeEntry_length htake
          obtain ⟨found', left', hgroup', hfound, hleft⟩ := ih rest.length (by omega)
            (hentry.reverse.append hbefore) hrest' hgroup rfl
          rw [← Token.depthAfter_congr hkind] at htake'
          refine ⟨_, left', readGroup_entry hclose' (hskip'.trans hskip) htake' hgroup', ?_, hleft⟩
          rw [← takeEntry_append htake, ← takeEntry_append htake', ← List.cons_append,
            ← List.cons_append] at h
          obtain ⟨line, hplaced⟩ := h.left
          obtain ⟨line', hplaced'⟩ := h.right
          exact List.rel_append (attribution_alike hsim (docComments_alike hsim hbefore) hentry
            hrest'.alike hplaced hplaced') hfound

/-! ## Declarations -/

theorem ReadsAlike.dropWhile (hsim : Mirrors sim) (h : ReadsAlike sim ts us) :
    ReadsAlike sim (ts.dropWhile (!·.isSignificant)) (us.dropWhile (!·.isSignificant)) := by
  have hdrop := (h.alike.span (p := (!·.isSignificant)) hsim fun hk => by
    rw [Token.isSignificant_congr hk]).2
  rw [← List.takeWhile_append_dropWhile (p := (!·.isSignificant)) (l := ts),
    ← List.takeWhile_append_dropWhile (p := (!·.isSignificant)) (l := us)] at h
  exact h.suffix hdrop

/-- The first significant tokens of lists that read alike. -/
theorem ReadsAlike.exists_first (hsim : Mirrors sim) (h : ReadsAlike sim ts us) {more : List Token}
    (hts : ts.dropWhile (!·.isSignificant) = t :: more) :
    ∃ u more', us.dropWhile (!·.isSignificant) = u :: more' ∧ t.isNewline = false ∧ sim t u ∧
      ReadsAlike sim more more' := by
  have hdrop := h.dropWhile hsim
  have hsig : t.isSignificant := by simpa using Text.eq_false_of_dropWhile hts
  rw [hts] at hdrop
  have hnewline : t.isNewline = false := Token.isNewline_of_isSignificant hsig
  obtain ⟨u, more', hus, htu, hmore⟩ := hdrop.alike.exists_cons hnewline
  rw [hus] at hdrop
  exact ⟨u, more', hus, hnewline, htu, hdrop.suffix (a := [t]) (b := [u]) hmore⟩

theorem readDeclaration_alike (hsim : Mirrors sim) (h : ReadsAlike sim ts us)
    {found : List Attribution} {left : List Token}
    (hread : readDeclaration ts = .ok (found, left)) :
    ∃ found' left', readDeclaration us = .ok (found', left') ∧
      List.Forall₂ (Attribution.Alike sim) found found' ∧ ReadsAlike sim left left' := by
  have hdrop := h.dropWhile hsim
  rcases readDeclaration_cases hread with
    ⟨hts, rfl, rfl⟩ | ⟨t, more, hts, hopen, hgroup⟩ | ⟨t, more, taken, hts, hopen, htake, rfl⟩
  · rw [hts] at hdrop
    have hus := hdrop.alike.nil_iff.1 rfl
    rw [hus] at hdrop
    exact ⟨[], [], readDeclaration_end hus, .nil, hdrop⟩
  · obtain ⟨u, more', hus, ht, htu, hmore⟩ := h.exists_first hsim hts
    rw [← Token.isPunct_congr (hsim.kind htu)] at hopen
    rw [readDeclaration_group hus hopen]
    exact readGroup_alike hsim (.token ht htu .nil) hmore hgroup
  · obtain ⟨u, more', hus, ht, htu, hmore⟩ := h.exists_first hsim hts
    rw [hts, hus] at hdrop
    rw [← Token.isPunct_congr (hsim.kind htu)] at hopen
    have hlast : Option.any Token.endsStatement none = Option.any Token.endsStatement none := rfl
    obtain ⟨taken', rest', htake', htaken, hrest⟩ := hdrop.entry hsim hlast htake
    refine ⟨_, rest', readDeclaration_alone hus hopen htake', ?_, hrest⟩
    rw [← takeEntry_append htake, ← takeEntry_append htake'] at hdrop
    obtain ⟨line, hplaced⟩ := hdrop.left
    obtain ⟨line', hplaced'⟩ := hdrop.right
    exact attribution_alike hsim .nil htaken hrest.alike hplaced hplaced'

/-! ## Files -/

theorem packageClause_alike (hsim : Mirrors sim) (h : ReadsAlike sim ts us) :
    packageClause us = packageClause ts := by
  rw [packageClause, packageClause]
  cases hts : ts.dropWhile (!·.isSignificant) with
  | nil =>
    have hdrop := (h.dropWhile hsim).alike
    rw [hts] at hdrop
    rw [hdrop.nil_iff.1 rfl]
  | cons t more =>
    obtain ⟨u, more', hus, -, htu, -⟩ := h.exists_first hsim hts
    rw [hus]
    dsimp only
    rw [hsim.kind htu]
    by_cases hkind : t.kind = .ident
    · rw [hsim.word htu hkind]
    · rw [if_neg hkind, if_neg hkind]

theorem isWord_alike (hsim : Mirrors sim) {u : Token} (h : sim t u) (word : List Char) :
    u.isWord word = t.isWord word := by
  rw [Token.isWord, Token.isWord, hsim.kind h]
  by_cases hkind : t.kind = .ident
  · rw [hsim.word h hkind]
  · simp [hkind]

/-- Two readings of one package and the same constants, with comments that agree one for one. -/
def Reading.Alike (sim : Token → Token → Prop) (r s : Reading) : Prop :=
  s.package = r.package ∧ List.Forall₂ (Attribution.Alike sim) r.attributions s.attributions

/-- **The reader makes the same of tokens that read alike.** -/
theorem readFrom_alike (hsim : Mirrors sim) (h : ReadsAlike sim ts us) {r : Reading}
    (hread : readFrom depth ts = .ok r) :
    ∃ s, readFrom depth us = .ok s ∧ r.Alike sim s := by
  induction hlen : ts.length using Nat.strong_induction_on generalizing ts us depth r with
  | h len ih =>
    have halike := h.alike
    cases halike with
    | nil =>
      rw [readFrom] at hread ⊢
      obtain rfl := Except.ok.inj hread
      exact ⟨_, rfl, rfl, .nil⟩
    | @lineEnds m n a b ts us ha hb hsingle hrest =>
      rw [← List.cons_append, readFrom_lineEnds ha] at hread
      rw [← List.cons_append, readFrom_lineEnds hb]
      have hsuffix : ReadsAlike sim ts us := h.suffix (a := m :: a) (b := n :: b) hrest
      simp only [List.length_cons, List.length_append] at hlen
      exact ih ts.length (by omega) hsuffix hread rfl
    | @token t u ts us ht htu hrest =>
      have hsuffix : ReadsAlike sim ts us := h.suffix (a := [t]) (b := [u]) hrest
      have hword := isWord_alike hsim htu
      rw [List.length_cons] at hlen
      cases hconst : decide (depth = 0) && t.isWord "const".toList with
      | true =>
        obtain ⟨hzero, hconst⟩ := Bool.and_eq_true_iff.1 hconst
        obtain rfl := of_decide_eq_true hzero
        obtain ⟨found, rest, r₀, hdecl, hr₀, rfl⟩ := exists_of_readFrom_const hconst hread
        obtain ⟨found', rest', hdecl', hfound, hrest'⟩ := readDeclaration_alike hsim hsuffix hdecl
        have hshort := readDeclaration_length hdecl
        obtain ⟨s, hs, hpackage, hattributions⟩ := ih rest.length (by omega) hrest' hr₀ rfl
        exact ⟨_, readFrom_const ((hword _).trans hconst) hdecl' hs, hpackage,
          List.rel_append hfound hattributions⟩
      | false =>
        rw [readFrom_other hconst] at hread
        rw [← hword] at hconst
        rw [readFrom_other hconst, Token.depthAfter_congr (hsim.kind htu)]
        obtain ⟨r₀, hr₀, rfl⟩ := exists_of_map_eq_ok hread
        obtain ⟨s, hs, hpackage, hattributions⟩ := ih ts.length (by omega) hsuffix hr₀ rfl
        refine ⟨{ s with package := packageAt depth u us <|> s.package }, by rw [hs]; rfl, ?_,
          hattributions⟩
        simp only [packageAt, hword, packageClause_alike hsim hsuffix, hpackage]

/-- What is recorded for a constant are comments of the source. -/
theorem comments_of_readFrom {line : Nat} {r : Reading} (hts : Placed line ts)
    (hread : readFrom depth ts = .ok r) {a : Attribution} (ha : a ∈ r.attributions) {c : Token}
    (hc : c ∈ a.comments) : c.isComment ∧ c ∈ ts := by
  -- The tokens read alike to themselves, by a relation that remembers where they are from.
  have hsim : Mirrors fun t u : Token => u = t ∧ t ∈ ts := by
    constructor
    · rintro t u ⟨rfl, -⟩
      rfl
    · rintro t u ⟨rfl, -⟩ _
      rfl
    · rintro t u ⟨rfl, -⟩
      rfl
  have hself : ReadsAlike (fun t u : Token => u = t ∧ t ∈ ts) ts ts :=
    ⟨.self fun t ht => ⟨rfl, ht⟩, ⟨line, hts⟩, ⟨line, hts⟩⟩
  obtain ⟨s, hs, -, hattributions⟩ := readFrom_alike hsim hself hread
  obtain rfl := Except.ok.inj (hread.symm.trans hs)
  have hcomments := (List.forall₂_same.1 hattributions a ha).2
  obtain ⟨hcomment, -, hmem⟩ := List.forall₂_same.1 hcomments c hc
  exact ⟨hcomment, hmem⟩

end Scribe.Source
