import Mathlib
import Scribe.Proofs.Source.Places
import Scribe.Proofs.Constants.Steps

/-!
# The block above, by its lines

The reader finds the block of comments above an entry by going back from token to token, and never
looks at a line number.  By line numbers alone, the block is that of the comments which start on the
longest stretch of lines that ends above the entry, has a comment and no code on each of its lines,
and is not entered in the middle of a token.  The two agree at every token of a source
(`docComments_eq_commentsBetween`).

The walk goes back over the tokens between two line ends at a time.  Where these are comments, they
take up every line in between (`exists_reaching`), so the stretch goes on with all of their lines.
Where there is code among them, no line after the code will do as the first of the stretch, since a
comment comes down to it from the line before.
-/

namespace Scribe.Source

open Scribe.Text

/-! ## Stretches of comment lines -/

/-- Whether a token takes up some of a line. -/
def Token.Touches (t : Token) (n : Nat) : Prop := t.line ≤ n ∧ n ≤ t.endLine

instance (t : Token) (n : Nat) : Decidable (t.Touches n) := inferInstanceAs (Decidable (_ ∧ _))

/-- A line that has a comment and no code. -/
structure CommentLine (ts : List Token) (n : Nat) : Prop where
  exists_comment : ∃ c ∈ ts, c.isComment ∧ c.Touches n
  insignificant : ∀ t ∈ ts, t.Touches n → t.isSignificant = false

/-- The lines from `l` on, up to before `m`, are comment lines, and no token from before `l` reaches
them. -/
structure CommentLines (ts : List Token) (l m : Nat) : Prop where
  commentLine : ∀ n < m, l ≤ n → CommentLine ts n
  uncut : ∀ t ∈ ts, t.line < l → t.endLine < l

/-- The comments that start on the lines from `l` on, up to before `m`. -/
def commentsBetween (ts : List Token) (l m : Nat) : List Token :=
  ts.filter fun t => t.isComment && decide (l ≤ t.line) && decide (t.line < m)

instance (ts : List Token) (n : Nat) : Decidable (CommentLine ts n) :=
  decidable_of_iff ((∃ c ∈ ts, c.isComment ∧ c.Touches n) ∧
      ∀ t ∈ ts, t.Touches n → t.isSignificant = false)
    ⟨fun h => ⟨h.1, h.2⟩, fun h => ⟨h.1, h.2⟩⟩

instance (ts : List Token) (l m : Nat) : Decidable (CommentLines ts l m) :=
  decidable_of_iff ((∀ n < m, l ≤ n → CommentLine ts n) ∧ ∀ t ∈ ts, t.line < l → t.endLine < l)
    ⟨fun h => ⟨h.1, h.2⟩, fun h => ⟨h.1, h.2⟩⟩

section
variable {ts us vs : List Token} {l m n : Nat}

theorem mem_commentsBetween {t : Token} :
    t ∈ commentsBetween ts l m ↔ t ∈ ts ∧ t.isComment ∧ l ≤ t.line ∧ t.line < m := by
  simp [commentsBetween, and_assoc]

theorem commentsBetween_self : commentsBetween ts m m = [] := by
  rw [List.eq_nil_iff_forall_not_mem]
  intro t ht
  obtain ⟨-, -, hle, hlt⟩ := mem_commentsBetween.1 ht
  omega

/-- A comment starts on the first line of a stretch. -/
theorem CommentLines.commentsBetween_ne_nil (h : CommentLines ts l m) (hlt : l < m) :
    commentsBetween ts l m ≠ [] := by
  obtain ⟨c, hc, hcomment, htouch⟩ := (h.commentLine l hlt (Nat.le_refl l)).exists_comment
  have hline : ¬ c.line < l := fun hbefore => Nat.not_lt.2 htouch.2 (h.uncut c hc hbefore)
  have hle := htouch.1
  exact List.ne_nil_of_mem (mem_commentsBetween.2 ⟨hc, hcomment, by omega, by omega⟩)

/-- Tokens further down make no difference to a stretch above them. -/
theorem commentLine_append (hvs : ∀ t ∈ vs, m ≤ t.line) (hn : n < m) :
    CommentLine (us ++ vs) n ↔ CommentLine us n := by
  have hbelow : ∀ t ∈ vs, ¬ t.Touches n := by
    intro t ht htouch
    have := hvs t ht
    have := htouch.1
    omega
  constructor
  · rintro ⟨⟨c, hc, hcomment, htouch⟩, hcode⟩
    rcases List.mem_append.1 hc with hc | hc
    · exact ⟨⟨c, hc, hcomment, htouch⟩, fun t ht => hcode t (List.mem_append_left _ ht)⟩
    · exact absurd htouch (hbelow c hc)
  · rintro ⟨⟨c, hc, hcomment, htouch⟩, hcode⟩
    refine ⟨⟨c, List.mem_append_left _ hc, hcomment, htouch⟩, ?_⟩
    intro t ht htouch
    rcases List.mem_append.1 ht with ht | ht
    · exact hcode t ht htouch
    · exact absurd htouch (hbelow t ht)

theorem commentLines_append (hvs : ∀ t ∈ vs, m ≤ t.line) (hl : l ≤ m) :
    CommentLines (us ++ vs) l m ↔ CommentLines us l m := by
  constructor
  · rintro ⟨hlines, huncut⟩
    exact ⟨fun n hn hle => (commentLine_append hvs hn).1 (hlines n hn hle),
      fun t ht => huncut t (List.mem_append_left _ ht)⟩
  · rintro ⟨hlines, huncut⟩
    refine ⟨fun n hn hle => (commentLine_append hvs hn).2 (hlines n hn hle), ?_⟩
    intro t ht hlt
    rcases List.mem_append.1 ht with ht | ht
    · exact huncut t ht hlt
    · have := hvs t ht
      omega

theorem commentsBetween_append (hvs : ∀ t ∈ vs, m ≤ t.line) :
    commentsBetween (us ++ vs) l m = commentsBetween us l m := by
  have hnone : commentsBetween vs l m = [] := by
    rw [List.eq_nil_iff_forall_not_mem]
    intro t ht
    obtain ⟨hmem, -, -, hlt⟩ := mem_commentsBetween.1 ht
    have := hvs t hmem
    omega
  rw [commentsBetween, List.filter_append]
  exact (congrArg _ hnone).trans (List.append_nil _)

end

/-! ## Comments take up the lines between line ends -/

section
variable {k l : Nat} {cs : List Token} {n : Token}
  (hplaced : Placed k (cs ++ [n])) (hcs : ∀ c ∈ cs, c.isComment)
include hplaced hcs

/-- No line after the first starts with a new token: a comment comes down to it. -/
theorem exists_reaching_comment (hkl : k < l) (hln : l ≤ n.line) :
    ∃ c ∈ cs, c.line < l ∧ l ≤ c.endLine := by
  induction cs generalizing k with
  | nil =>
    have hline : n.line = k := hplaced.1
    omega
  | cons c cs ih =>
    obtain ⟨hline, hend, hrest⟩ := hplaced
    obtain ⟨hc, hcs⟩ := List.forall_mem_cons.1 hcs
    rw [if_neg (by simp [Token.isNewline_of_isComment hc])] at hend
    by_cases hreach : l ≤ c.endLine
    · exact ⟨c, List.mem_cons_self, by omega, hreach⟩
    · obtain ⟨c', hc', hreaching⟩ := ih hrest hcs (by omega)
      exact ⟨c', List.mem_cons_of_mem _ hc', hreaching⟩

/-- So a comment takes up each line. -/
theorem exists_touching_comment (hne : cs ≠ []) (hkl : k ≤ l) (hln : l ≤ n.line) :
    ∃ c ∈ cs, c.isComment ∧ c.Touches l := by
  rcases Nat.lt_or_eq_of_le hkl with hlt | rfl
  · obtain ⟨c, hc, hline, hend⟩ := exists_reaching_comment hplaced hcs hlt hln
    exact ⟨c, hc, hcs c hc, by omega, hend⟩
  · obtain ⟨c, more, rfl⟩ := List.exists_cons_of_ne_nil hne
    have hend := hplaced.endLine_eq List.mem_cons_self
    have hline : c.line = k := hplaced.1
    have hcomment := hcs c List.mem_cons_self
    rw [if_neg (by simp [Token.isNewline_of_isComment hcomment])] at hend
    exact ⟨c, List.mem_cons_self, hcomment, by omega, by omega⟩

end

/-! ## The walk back -/

/-- The comments `found` are those of the longest stretch of comment lines up to before line `m`,
which begins on line `l`; the stretch is empty if that is `m`. -/
structure MakesUp (ts : List Token) (m : Nat) (found : List Token) (l : Nat) : Prop where
  isLeast : IsLeast {l | l ≤ m ∧ CommentLines ts l m} l
  found_eq : found = commentsBetween ts l m

section
variable {line l : Nat} {far cs found : List Token} {n x : Token}

/-- The tokens up to a line end start and end on its line or before. -/
theorem lt_succ_of_newline {us : List Token} (hus : Successive us) (hplaced : Placed line us)
    (hlast : us.getLast? = some n) (hn : n.isNewline) :
    ∀ t ∈ us, t.line < n.line + 1 ∧ t.endLine < n.line + 1 := by
  obtain ⟨init, rfl⟩ := List.getLast?_eq_some_iff.1 hlast
  intro t ht
  have hle := hus.line_le t ht
  rcases List.mem_append.1 ht with hinit | hinit
  · have := ((List.pairwise_append.1 hus.leads).2.2 t hinit n List.mem_cons_self).endLine_le
    omega
  · obtain rfl := List.mem_singleton.1 hinit
    have hend := hplaced.endLine_eq ht
    rw [if_pos hn] at hend
    omega

/-- No comments, where no stretch ends above a line. -/
theorem makesUp_nil {us : List Token} {m : Nat} (hend : ∀ t ∈ us, t.line < m ∧ t.endLine < m)
    (hno : ∀ l < m, ¬ CommentLines us l m) : MakesUp us m [] m where
  isLeast := by
    refine ⟨⟨Nat.le_refl m, ⟨fun n hn hle => by omega, fun t ht _ => (hend t ht).2⟩⟩, ?_⟩
    rintro l ⟨-, hl⟩
    by_contra hlt
    exact hno l (by omega) hl
  found_eq := by
    refine (List.eq_nil_iff_forall_not_mem.2 ?_).symm
    intro t ht
    obtain ⟨hmem, -, hle, -⟩ := mem_commentsBetween.1 ht
    have := hend t hmem
    omega

/-- An empty line ends the stretch. -/
theorem makesUp_of_emptyLine (hus : Successive (far ++ [n])) (hplaced : Placed line (far ++ [n]))
    (hn : n.isNewline) (hfar : ∀ x ∈ far.getLast?, x.isNewline) :
    MakesUp (far ++ [n]) (n.line + 1) [] (n.line + 1) := by
  refine makesUp_nil (lt_succ_of_newline hus hplaced (by simp) hn) ?_
  intro l hlt hlines
  obtain ⟨c, hc, hcomment, -, hreach⟩ :=
    (hlines.commentLine n.line (by omega) (by omega)).exists_comment
  rcases List.mem_append.1 hc with hc | hc
  · have hne : far ≠ [] := List.ne_nil_of_mem hc
    obtain ⟨init, x, rfl⟩ := (List.eq_nil_or_concat far).resolve_left hne
    have hx : x.isNewline := hfar x (by simp)
    rw [List.concat_eq_append] at hc hus hplaced
    -- The line end before `n` is on a line of its own, and the comment is over there.
    obtain ⟨hbefore, -, hacross⟩ := List.pairwise_append.1 hus.leads
    have hxn := (hacross x (by simp) n List.mem_cons_self).lt_of_isNewline hx
    rcases List.mem_append.1 hc with hc | hc
    · have := ((List.pairwise_append.1 hbefore).2.2 c hc x List.mem_cons_self).endLine_le
      omega
    · obtain rfl := List.mem_singleton.1 hc
      simp [Token.isNewline_of_isComment hcomment] at hx
  · obtain rfl := List.mem_singleton.1 hc
    simp [Token.isNewline_of_isComment hcomment] at hn

/-- Code ends the stretch, also where comments follow it: a first line after the code would be one
that a comment comes down to. -/
theorem makesUp_of_code (hus : Successive (far ++ x :: (cs ++ [n])))
    (hplaced : Placed line (far ++ x :: (cs ++ [n]))) (hn : n.isNewline) (hx : x.isSignificant)
    (hcs : ∀ c ∈ cs, c.isComment) :
    MakesUp (far ++ x :: (cs ++ [n])) (n.line + 1) [] (n.line + 1) := by
  have hover := lt_succ_of_newline hus hplaced (by simp [List.getLast?_cons]) hn
  have hmem : x ∈ far ++ x :: (cs ++ [n]) := by simp
  refine makesUp_nil hover ?_
  intro l hlt hlines
  by_cases hle : l ≤ x.endLine
  · have htouch : x.Touches x.endLine := ⟨hus.line_le x hmem, Nat.le_refl _⟩
    have := (hlines.commentLine x.endLine (hover x hmem).2 hle).insignificant x hmem htouch
    simp [hx] at this
  · have hend := hplaced.endLine_eq hmem
    rw [if_neg (by simp [Token.isNewline_of_isSignificant hx])] at hend
    have hafter := hplaced.after
    rw [← hend] at hafter
    obtain ⟨c, hc, hline, hreach⟩ :=
      exists_reaching_comment hafter hcs (by omega) (Nat.lt_succ_iff.1 hlt)
    have := hlines.uncut c (by simp [hc]) hline
    omega

/-- Comments between line ends take up each of their lines. -/
theorem commentLine_of_comments (hplaced : Placed line (cs ++ [n])) (hn : n.isNewline)
    (hcs : ∀ c ∈ cs, c.isComment) (hne : cs ≠ []) {k : Nat} (hle : line ≤ k) (hkn : k ≤ n.line) :
    CommentLine (cs ++ [n]) k := by
  obtain ⟨c, hc, hcomment, htouch⟩ := exists_touching_comment hplaced hcs hne hle hkn
  refine ⟨⟨c, List.mem_append_left _ hc, hcomment, htouch⟩, ?_⟩
  intro t ht _
  rcases List.mem_append.1 ht with ht | ht
  · exact Token.isSignificant_of_isComment (hcs t ht)
  · obtain rfl := List.mem_singleton.1 ht
    exact Token.isSignificant_of_isNewline hn

theorem commentsBetween_comments (hplaced : Placed line (cs ++ [n])) (hus : Successive (cs ++ [n]))
    (hn : n.isNewline) (hcs : ∀ c ∈ cs, c.isComment) (hle : l ≤ line) :
    commentsBetween (cs ++ [n]) l (n.line + 1) = cs := by
  have hnot : n.isComment = false := by
    cases hcomment : n.isComment with
    | false => rfl
    | true => simp [Token.isNewline_of_isComment hcomment] at hn
  have hall : ∀ c ∈ cs, (c.isComment && decide (l ≤ c.line) && decide (c.line < n.line + 1)) := by
    intro c hc
    have hfirst := hplaced.le_line (List.mem_append_left [n] hc)
    have hlast := (lt_succ_of_newline hus hplaced (by simp) hn c (by simp [hc])).1
    simp only [hcs c hc, Bool.true_and, Bool.and_eq_true, decide_eq_true_eq]
    omega
  rw [commentsBetween, List.filter_append, List.filter_eq_self.2 hall,
    List.filter_cons_of_neg (by simp [hnot]), List.filter_nil, List.append_nil]

/-- Comments at the start of a source. -/
theorem makesUp_of_start (hus : Successive (cs ++ [n])) (hplaced : Placed line (cs ++ [n]))
    (hn : n.isNewline) (hcs : ∀ c ∈ cs, c.isComment) (hne : cs ≠ []) :
    MakesUp (cs ++ [n]) (n.line + 1) cs line where
  isLeast := by
    have hnline : line ≤ n.line := hplaced.le_line (by simp)
    refine ⟨⟨by omega, ⟨?_, ?_⟩⟩, ?_⟩
    · intro k hk hle
      exact commentLine_of_comments hplaced hn hcs hne hle (by omega)
    · intro t ht hlt
      have := hplaced.le_line ht
      omega
    · rintro l ⟨hle, hlines⟩
      by_contra hlt
      obtain ⟨c, hc, -, htouch⟩ := (hlines.commentLine l (by omega) (Nat.le_refl l)).exists_comment
      have := hplaced.le_line hc
      have := htouch.1
      omega
  found_eq := (commentsBetween_comments hplaced hus hn hcs (Nat.le_refl line)).symm

/-- Comments between line ends go on with the stretch that ends above them. -/
theorem MakesUp.step {k : Nat} (h : MakesUp far k found l)
    (hover : ∀ t ∈ far, t.line < k ∧ t.endLine < k) (hus : Successive (cs ++ [n]))
    (hplaced : Placed k (cs ++ [n])) (hn : n.isNewline) (hcs : ∀ c ∈ cs, c.isComment)
    (hne : cs ≠ []) :
    MakesUp (far ++ (cs ++ [n])) (n.line + 1) (found ++ cs) l := by
  obtain ⟨⟨⟨hlk, hlines⟩, hleast⟩, hfound⟩ := h
  have hbelow : ∀ t ∈ cs ++ [n], k ≤ t.line := fun t ht => hplaced.le_line ht
  have hkn : k ≤ n.line := hplaced.le_line (by simp)
  have hcode : ∀ t ∈ far, ∀ j, k ≤ j → ¬ t.Touches j := by
    intro t ht j hkj htouch
    have := (hover t ht).2
    have := htouch.2
    omega
  refine ⟨⟨⟨by omega, ⟨?_, ((commentLines_append hbelow hlk).2 hlines).uncut⟩⟩, ?_⟩, ?_⟩
  · intro j hj hle
    rcases Nat.lt_or_ge j k with hlt | hge
    · exact (commentLine_append hbelow hlt).2 (hlines.commentLine j hlt hle)
    · obtain ⟨⟨c, hc, hcomment, htouch⟩, hinsig⟩ :=
        commentLine_of_comments hplaced hn hcs hne hge (Nat.lt_succ_iff.1 hj)
      refine ⟨⟨c, List.mem_append_right _ hc, hcomment, htouch⟩, ?_⟩
      intro t ht htouch
      rcases List.mem_append.1 ht with ht | ht
      · exact absurd htouch (hcode t ht j hge)
      · exact hinsig t ht htouch
  · rintro l' ⟨-, hlines'⟩
    rcases Nat.lt_or_ge l' k with hlt | hge
    · have hto : CommentLines (far ++ (cs ++ [n])) l' k :=
        ⟨fun j hj hle => hlines'.commentLine j (by omega) hle, hlines'.uncut⟩
      exact hleast ⟨by omega, (commentLines_append hbelow (Nat.le_of_lt hlt)).1 hto⟩
    · omega
  · have hfar : commentsBetween far l (n.line + 1) = commentsBetween far l k := by
      refine List.filter_congr ?_
      intro t ht
      have h1 := (hover t ht).1
      have h2 : t.line < n.line + 1 := by omega
      rw [decide_eq_true h1, decide_eq_true h2]
    rw [hfound, ← hfar]
    conv_lhs => rw [← commentsBetween_comments hplaced hus hn hcs hlk]
    exact (List.filter_append _ _).symm

/-- The walk back over the comments `cs` that follow `tail` on their lines. -/
theorem commentLinesBack_comments {tail : List Token} (hcs : ∀ c ∈ cs, c.isComment)
    (htail : ∀ x ∈ tail.head?, x.isComment = false) (n : Token) :
    commentLinesBack (n :: (cs ++ tail)) =
      if cs = [] then []
      else
        match tail with
        | [] => cs
        | x :: rest => if x.isNewline then cs ++ commentLinesBack (x :: rest) else [] := by
  rw [commentLinesBack_cons, List.takeWhile_append_of_pos hcs, List.dropWhile_append_of_pos hcs]
  cases tail with
  | nil => simp
  | cons x rest =>
    have hx : ¬ x.isComment := by simp [htail x rfl]
    rw [List.takeWhile_cons_of_neg hx, List.dropWhile_cons_of_neg hx, List.append_nil]

/-- **The walk back finds the longest stretch of comment lines above.** -/
theorem exists_makesUp {before : List Token} (hplaced : Placed line (n :: before).reverse)
    (hone : ∀ t ∈ n :: before, t.isNewline → newlines t.text = 1) (hn : n.isNewline) :
    ∃ l, MakesUp (n :: before).reverse (n.line + 1) (commentLinesBack (n :: before)).reverse l := by
  induction hlen : before.length using Nat.strong_induction_on generalizing n before with
  | h len ih =>
    obtain ⟨cs, tail, rfl, hcs, htail⟩ : ∃ cs tail, before = cs ++ tail ∧
        (∀ c ∈ cs, c.isComment) ∧ ∀ x ∈ tail.head?, x.isComment = false :=
      ⟨before.takeWhile Token.isComment, before.dropWhile Token.isComment,
        List.takeWhile_append_dropWhile.symm, fun c hc => List.mem_takeWhile_imp hc, by
          intro x hx
          obtain ⟨rest, hrest⟩ := List.head?_eq_some_iff.1 hx
          exact eq_false_of_dropWhile hrest⟩
    have hus : Successive (n :: (cs ++ tail)).reverse :=
      hplaced.successive fun t ht => hone t (List.mem_reverse.1 ht)
    have hcs' : ∀ c ∈ cs.reverse, c.isComment := fun c hc => hcs c (List.mem_reverse.1 hc)
    have hparts : (n :: (cs ++ tail)).reverse = tail.reverse ++ (cs.reverse ++ [n]) := by simp
    rw [commentLinesBack_comments hcs htail]
    rw [hparts] at hplaced hus ⊢
    have hline := hus.sublist (List.sublist_append_right _ _)
    cases tail with
    | nil =>
      rw [List.reverse_nil, List.nil_append] at hplaced hus ⊢
      split
      · rename_i hnil
        subst hnil
        have hnone : ∀ x ∈ ([] : List Token).getLast?, x.isNewline := by simp
        exact ⟨_, makesUp_of_emptyLine hus hplaced hn hnone⟩
      · rename_i hne
        exact ⟨_, makesUp_of_start hus hplaced hn hcs' (by simpa using hne)⟩
    | cons x rest =>
      rw [List.reverse_cons] at hplaced hus ⊢
      cases hx : x.isNewline with
      | false =>
        have hsig : x.isSignificant := by simp [Token.isSignificant, hx, htail x rfl]
        have hparts' : rest.reverse ++ [x] ++ (cs.reverse ++ [n]) =
            rest.reverse ++ x :: (cs.reverse ++ [n]) := by simp
        rw [hparts'] at hplaced hus ⊢
        simp only [hx, Bool.false_eq_true, if_false, ite_self, List.reverse_nil]
        exact ⟨_, makesUp_of_code hus hplaced hn hsig hcs'⟩
      | true =>
        split
        · rename_i hnil
          subst hnil
          exact ⟨_, makesUp_of_emptyLine hus hplaced hn (by simp [hx])⟩
        · rename_i hne
          have hbefore : ∀ t ∈ x :: rest, t.isNewline → newlines t.text = 1 := by
            intro t ht
            exact hone t (List.mem_cons_of_mem _ (List.mem_append_right _ ht))
          have hfar := hplaced.of_append
          have hover := lt_succ_of_newline (hus.sublist (List.sublist_append_left _ _)) hfar
            (by simp) hx
          have hafter := (List.append_cons _ _ _ ▸ hplaced :
            Placed line (rest.reverse ++ x :: (cs.reverse ++ [n]))).after
          rw [hbefore x List.mem_cons_self hx] at hafter
          rw [List.length_append, List.length_cons] at hlen
          rw [← List.reverse_cons] at hfar hover ⊢
          obtain ⟨l, hl⟩ := ih rest.length (by omega) hfar hbefore hx rfl
          simp only [hx, if_true, List.reverse_append]
          exact ⟨l, hl.step hover hline hafter hn hcs' (by simpa using hne)⟩

end

/-! ## The block above a token -/

/-- Tokens further down make no difference to what a stretch is made up of. -/
theorem MakesUp.append {us vs found : List Token} {m l : Nat} (h : MakesUp us m found l)
    (hvs : ∀ t ∈ vs, m ≤ t.line) : MakesUp (us ++ vs) m found l where
  isLeast := by
    obtain ⟨⟨hle, hlines⟩, hleast⟩ := h.isLeast
    exact ⟨⟨hle, (commentLines_append hvs hle).2 hlines⟩,
      fun l' hl' => hleast ⟨hl'.1, (commentLines_append hvs hl'.1).1 hl'.2⟩⟩
  found_eq := by rw [commentsBetween_append hvs, ← h.found_eq]

section
variable {s : List Char} {ts before after : List Token} {p t : Token}

theorem exists_makesUp_docComments (hts : tokenize s = .ok (before ++ p :: t :: after))
    (hp : p.isNewline) :
    ∃ l, MakesUp (before ++ p :: t :: after) t.line (docComments (p :: before.reverse)) l := by
  have hplaced := placed_of_tokenizeFrom hts
  have hone : ∀ u ∈ p :: before.reverse, u.isNewline → newlines u.text = 1 := by
    intro u hu
    exact newlines_of_isNewline hts (by simp at hu ⊢; tauto)
  have hafter := hplaced.after
  rw [hone p List.mem_cons_self hp] at hafter
  have hline : t.line = p.line + 1 := hafter.1
  rw [List.append_cons, ← List.reverse_reverse before, ← List.reverse_cons] at hplaced ⊢
  obtain ⟨l, hl⟩ := exists_makesUp hplaced.of_append hone hp
  rw [← docComments_of_isNewline hp, ← hline] at hl
  rw [List.reverse_reverse]
  exact ⟨l, hl.append fun u hu => hline ▸ hafter.le_line hu⟩

/-- **The block above a token, by lines.**  A token that does not directly follow a line end has no
block above it.  For another one, the block is that of the comments which start on the longest
stretch of comment lines above its line, and there is none if there is no such stretch. -/
theorem docComments_eq_commentsBetween {a : Nat} (hts : tokenize s = .ok ts)
    (ha : ts[a]? = some t) :
    ((a = 0 ∨ ∃ p, ts[a - 1]? = some p ∧ p.isNewline = false) →
      docComments (ts.take a).reverse = []) ∧
    ((∃ p, 0 < a ∧ ts[a - 1]? = some p ∧ p.isNewline) →
      (∀ l, IsLeast {l | l < t.line ∧ CommentLines ts l t.line} l →
        docComments (ts.take a).reverse = commentsBetween ts l t.line ∧
          commentsBetween ts l t.line ≠ []) ∧
      ((∀ l < t.line, ¬ CommentLines ts l t.line) → docComments (ts.take a).reverse = [])) := by
  rcases a with _ | b
  · exact ⟨fun _ => rfl, by simp⟩
  rw [Nat.add_sub_cancel]
  constructor
  · rintro (hzero | ⟨p, hp, hn⟩)
    · omega
    · rw [reverse_take_succ hp, docComments_of_not_isNewline hn]
  · rintro ⟨p, -, hp, hn⟩
    rw [reverse_take_succ hp]
    have hsplit : ts.take b ++ p :: t :: ts.drop (b + 2) = ts := by
      obtain ⟨hb, rfl⟩ := List.getElem?_eq_some_iff.1 hp
      obtain ⟨hb', rfl⟩ := List.getElem?_eq_some_iff.1 ha
      rw [← List.drop_eq_getElem_cons hb', ← List.drop_eq_getElem_cons hb, List.take_append_drop]
    obtain ⟨l₀, ⟨⟨hle, hlines⟩, hleast⟩, hfound⟩ := exists_makesUp_docComments (hsplit ▸ hts) hn
    rw [hsplit] at hlines hleast hfound
    rw [hfound]
    constructor
    · rintro l ⟨⟨hlt, hl⟩, hfirst⟩
      have hl₀ : l₀ ≤ l := hleast ⟨Nat.le_of_lt hlt, hl⟩
      obtain rfl := Nat.le_antisymm (hfirst ⟨by omega, hlines⟩) hl₀
      exact ⟨rfl, hl.commentsBetween_ne_nil hlt⟩
    · intro hno
      rcases Nat.lt_or_eq_of_le hle with hlt | rfl
      · exact absurd hlines (hno l₀ hlt)
      · exact commentsBetween_self

/-- A block on three lines, with two comments on the first and one that goes on to the last; an
empty line ends it. -/
theorem docComments_eq_commentsBetween_group :
    let s := "const (\n\n/* a */ // b\n/* c\nd */ // e\nA\n)\n".toList
    ∃ ts t, tokenize s = .ok ts ∧ ts[10]? = some t ∧ t.text = ['A'] ∧ t.line = 6 ∧
      (∃ p, 0 < 10 ∧ ts[10 - 1]? = some p ∧ p.isNewline) ∧
      IsLeast {l | l < t.line ∧ CommentLines ts l t.line} 3 ∧
      docComments (ts.take 10).reverse = commentsBetween ts 3 t.line ∧
      (docComments (ts.take 10).reverse).map Token.text =
        ["/* a */".toList, "// b".toList, "/* c\nd */".toList, "// e".toList] := by
  obtain ⟨ts, heq⟩ : ∃ ts : List Token, ts =
      [⟨.ident, "const".toList, 1, 1⟩, ⟨.punct '(', ['('], 1, 1⟩, ⟨.newline, ['\n'], 1, 1⟩,
        ⟨.newline, ['\n'], 2, 2⟩, ⟨.blockComment, "/* a */".toList, 3, 3⟩,
        ⟨.lineComment, "// b".toList, 3, 3⟩, ⟨.newline, ['\n'], 3, 3⟩,
        ⟨.blockComment, "/* c\nd */".toList, 4, 5⟩, ⟨.lineComment, "// e".toList, 5, 5⟩,
        ⟨.newline, ['\n'], 5, 5⟩, ⟨.ident, ['A'], 6, 6⟩, ⟨.newline, ['\n'], 6, 6⟩,
        ⟨.punct ')', [')'], 7, 7⟩, ⟨.newline, ['\n'], 7, 7⟩] := ⟨_, rfl⟩
  have hts : tokenize "const (\n\n/* a */ // b\n/* c\nd */ // e\nA\n)\n".toList = .ok ts := by
    subst heq
    cbv
  have hleast : IsLeast {l | l < 6 ∧ CommentLines ts l 6} 3 := by
    subst heq
    refine ⟨by decide, ?_⟩
    rintro l ⟨-, hl⟩
    by_contra hlt
    exact absurd (hl.commentLine 2 (by decide) (by omega)) (by decide)
  have ha : ts[10]? = some ⟨.ident, ['A'], 6, 6⟩ := by subst heq; rfl
  have hp : ∃ p, 0 < 10 ∧ ts[10 - 1]? = some p ∧ p.isNewline := by
    subst heq
    exact ⟨⟨.newline, ['\n'], 5, 5⟩, by decide, rfl, rfl⟩
  have hdocs := ((docComments_eq_commentsBetween hts ha).2 hp).1 3 hleast
  refine ⟨ts, _, hts, ha, rfl, rfl, hp, hleast, hdocs.1, ?_⟩
  rw [hdocs.1]
  subst heq
  decide

/-- A comment that comes down from a line of code keeps the comment beside it out of the block. -/
example : (tokenize "const ( /* a\n*/ // b\nA".toList).map
    (fun ts => docComments (ts.take 5).reverse) = .ok [] := by cbv

end

end Scribe.Source
