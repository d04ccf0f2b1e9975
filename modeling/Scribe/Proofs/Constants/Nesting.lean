import Scribe.Proofs.Constants.Steps

/-!
# Reading constants where brackets nest

The reader of constants counts open brackets and does not look at which closes which.  Where
brackets nest the count is the length of the stack, so that an entry ends before the bracket that
closes its group, every group is closed, and reading succeeds (`readFrom_of_closes`).
-/

namespace Scribe.Source

variable {inGroup : Bool} {depth : Nat} {last : Option Token} {ts : List Token}

/-- The brackets around an entry: those of its group, if it has one. -/
def around (inGroup : Bool) : List Bracket := if inGroup then [.round] else []

/-- A token inside an entry opens a bracket of the entry, or closes one, or does neither. -/
theorem exists_inner {t : Token} {inner : List Bracket}
    (h : Closes (inner ++ around inGroup) (t :: ts)) (hdepth : inner.length = depth)
    (hends : (decide (depth = 0) && t.endsEntry last) = false) :
    ∃ inner', Closes (inner' ++ around inGroup) ts ∧ inner'.length = t.depthAfter depth := by
  cases ho : t.opens? with
  | some b =>
    exact ⟨b :: inner, (Closes.opening_iff ho).1 h,
      by rw [Token.depthAfter_of_opens? ho, List.length_cons, hdepth]⟩
  | none =>
    cases hc : t.closes? with
    | none =>
      exact ⟨inner, (Closes.other_iff ho hc).1 h, by rw [Token.depthAfter_of_other ho hc, hdepth]⟩
    | some b =>
      obtain ⟨outer, houter, h⟩ := (Closes.closing_iff hc).1 h
      rw [Token.depthAfter_of_closes? hc]
      cases inner with
      | cons b' inner =>
        obtain ⟨rfl, rfl⟩ := List.cons.inj houter
        exact ⟨inner, h, by rw [← hdepth, List.length_cons, Nat.add_sub_cancel]⟩
      | nil =>
        -- The bracket that closes the group would have ended the entry.
        cases inGroup with
        | false => simp [around] at houter
        | true =>
          obtain rfl : b = .round := (List.cons.inj houter).1.symm
          obtain rfl : depth = 0 := hdepth.symm
          simp [Token.endsEntry, Token.isPunct, Token.kind_of_closes? hc, Bracket.closing] at hends

/-- An entry ends no later than its group. -/
theorem takeEntry_of_closes {inner : List Bracket} (h : Closes (inner ++ around inGroup) ts)
    (hdepth : inner.length = depth) :
    ∃ taken rest, takeEntry inGroup depth last ts = some (taken, rest) ∧
      Closes (around inGroup) rest := by
  induction ts generalizing inner depth last with
  | nil =>
    cases inGroup with
    | true => cases inner <;> cases h
    | false =>
      cases inner with
      | nil => exact ⟨[], [], rfl, .nil⟩
      | cons b inner => cases h
  | cons t ts ih =>
    cases hends : decide (depth = 0) && t.endsEntry last with
    | true =>
      have hzero : depth = 0 := by
        simp only [Bool.and_eq_true, decide_eq_true_eq] at hends
        exact hends.1
      obtain rfl := List.length_eq_zero_iff.1 (hdepth.trans hzero)
      exact ⟨[], t :: ts, takeEntry_here hends, h⟩
    | false =>
      obtain ⟨inner', hinner, hlength⟩ := exists_inner h hdepth hends
      have hmore : ∃ more rest, takeEntry inGroup (t.depthAfter depth)
          (if t.isSignificant then some t else last) ts = some (more, rest) ∧
          Closes (around inGroup) rest := ih hinner hlength
      obtain ⟨more, rest, htake, hrest⟩ := hmore
      exact ⟨t :: more, rest, takeEntry_more hends htake, hrest⟩

/-- In a group, each token that may start an entry starts one. -/
theorem exists_entry {t : Token} (h : Closes [.round] (t :: ts)) (hclose : ¬ t.isPunct ')')
    (hskip : ¬ (t.isPunct ';' || !t.isSignificant) = true) :
    ∃ more rest, takeEntry true (t.depthAfter 0) (some t) ts = some (more, rest) ∧
      Closes [.round] rest := by
  rw [Bool.or_eq_true, not_or] at hskip
  have hends : (decide ((0 : Nat) = 0) && t.endsEntry none) = false := by
    simp [Token.endsEntry, hclose, hskip.1]
  have hround : Closes ([] ++ around true) (t :: ts) := h
  obtain ⟨inner, hinner, hlength⟩ := exists_inner hround rfl hends
  exact takeEntry_of_closes hinner hlength

/-- A group ends where its bracket is closed. -/
theorem readGroup_of_closes {openLine : Nat} {before : List Token} (h : Closes [.round] ts) :
    ∃ found left, readGroup openLine before ts = .ok (found, left) ∧ Closes [] left := by
  fun_induction readGroup openLine before ts with
  | case1 => cases h
  | case2 before t ts hclose =>
    have hkind : t.kind = .punct ')' := by simpa [Token.isPunct] using hclose
    have hcloses : t.closes? = some .round := by simp [Token.closes?, hkind]
    obtain ⟨outer, houter, h⟩ := (Closes.closing_iff hcloses).1 h
    obtain rfl := (List.cons.inj houter).2.symm
    exact ⟨[], ts, rfl, h⟩
  | case3 before t ts hclose hskip ih =>
    rw [Bool.or_eq_true, Bool.not_eq_true'] at hskip
    rcases hskip with hsemicolon | hskip
    · have hkind : t.kind = .punct ';' := by simpa [Token.isPunct] using hsemicolon
      refine ih ((Closes.other_iff ?_ ?_).1 h)
      · simp [Token.opens?, hkind]
      · simp [Token.closes?, hkind]
    · exact ih ((Closes.insignificant_iff hskip).1 h)
  | case4 before t ts hclose hskip htake =>
    obtain ⟨taken, rest, htake', -⟩ := exists_entry h hclose hskip
    rw [htake'] at htake
    simp at htake
  | case5 before t ts hclose hskip more rest htake ih =>
    obtain ⟨taken, rest', htake', hrest⟩ := exists_entry h hclose hskip
    obtain ⟨rfl, rfl⟩ := Prod.mk.inj (Option.some.inj (htake'.symm.trans htake))
    obtain ⟨found, left, hread, hleft⟩ := ih hrest
    exact ⟨_, left, by rw [hread]; rfl, hleft⟩

theorem Closes.dropWhile_insignificant {stack : List Bracket} (h : Closes stack ts) :
    Closes stack (ts.dropWhile (!·.isSignificant)) := by
  induction ts with
  | nil => exact h
  | cons t ts ih =>
    rw [List.dropWhile_cons]
    split
    · rename_i ht
      exact ih ((insignificant_iff (by simpa using ht)).1 h)
    · exact h

/-- A declaration can be read, and what follows nests as before. -/
theorem readDeclaration_of_closes (h : Closes [] ts) :
    ∃ found left, readDeclaration ts = .ok (found, left) ∧ Closes [] left := by
  have hdrop := h.dropWhile_insignificant
  cases hts : ts.dropWhile (!·.isSignificant) with
  | nil => exact ⟨[], [], readDeclaration_end hts, .nil⟩
  | cons t more =>
    rw [hts] at hdrop
    cases hopen : t.isPunct '(' with
    | true =>
      have hkind : t.kind = .punct '(' := by simpa [Token.isPunct] using hopen
      have hopens : t.opens? = some .round := by simp [Token.opens?, hkind]
      rw [readDeclaration_group hts hopen]
      exact readGroup_of_closes ((Closes.opening_iff hopens).1 hdrop)
    | false =>
      have hround : Closes ([] ++ around false) (t :: more) := hdrop
      have hentry : ∃ taken rest, takeEntry false 0 none (t :: more) = some (taken, rest) ∧
          Closes (around false) rest := takeEntry_of_closes hround rfl
      obtain ⟨taken, rest, htake, hrest⟩ := hentry
      exact ⟨_, rest, readDeclaration_alone hts hopen htake, hrest⟩

/-- Outside all brackets, what follows a keyword nests. -/
theorem closes_of_const {t : Token} {stack : List Bracket} {word : List Char}
    (h : Closes stack (t :: ts)) (hdepth : stack.length = depth)
    (hconst : (decide (depth = 0) && t.isWord word) = true) : Closes [] ts := by
  simp only [Bool.and_eq_true, decide_eq_true_eq, Token.isWord] at hconst
  obtain ⟨hzero, hkind, -⟩ := hconst
  obtain rfl := List.length_eq_zero_iff.1 (hdepth.trans hzero)
  refine (Closes.other_iff ?_ ?_).1 h
  · simp [Token.opens?, hkind]
  · simp [Token.closes?, hkind]

/-- **Where brackets nest, constants can be read.** -/
theorem readFrom_of_closes {stack : List Bracket} (h : Closes stack ts)
    (hdepth : stack.length = depth) : ∃ r, readFrom depth ts = .ok r := by
  fun_induction readFrom depth ts generalizing stack with
  | case1 => exact ⟨_, rfl⟩
  | case2 depth t ts hconst e hread =>
    obtain ⟨found, left, hread', -⟩ := readDeclaration_of_closes (closes_of_const h hdepth hconst)
    rw [hread'] at hread
    simp at hread
  | case3 depth t ts hconst found rest hread ih =>
    obtain ⟨found', left, hread', hleft⟩ :=
      readDeclaration_of_closes (closes_of_const h hdepth hconst)
    obtain ⟨rfl, rfl⟩ := Prod.mk.inj (Except.ok.inj (hread'.symm.trans hread))
    obtain ⟨r, hr⟩ := ih hleft rfl
    exact ⟨_, by rw [hr]; rfl⟩
  | case4 depth t ts hconst package =>
    rename_i ih
    obtain ⟨stack', h', hlength⟩ := h.depthAfter
    rw [hdepth] at hlength
    obtain ⟨r, hr⟩ := ih h' hlength
    exact ⟨_, by rw [hr]; rfl⟩

end Scribe.Source
