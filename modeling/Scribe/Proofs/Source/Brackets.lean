import Scribe.Source.Layout
import Scribe.Proofs.Source.Kinds

/-!
# Nesting brackets

`Closes stack ts` says that some tokens close the open brackets of `stack`, innermost first, and
that all other brackets among them nest.  Laying out a source checks just this
(`checkBrackets_eq_ok_iff`), with the line of each open bracket kept for its error; readers that
only count open brackets agree with it by `Closes.depthAfter`, and the count is the number of
brackets opened less the number closed (`Closes.exists_after`).
-/

namespace Scribe.Source

/-! ## A token and its bracket -/

namespace Token

variable {t u : Token} {b : Bracket}

theorem opens?_of_closes? (h : t.closes? = some b) : t.opens? = none := by
  unfold closes? at h
  unfold opens?
  split at h <;> simp_all

theorem closes?_of_opens? (h : t.opens? = some b) : t.closes? = none := by
  unfold opens? at h
  unfold closes?
  split at h <;> simp_all

theorem kind_of_closes? (h : t.closes? = some b) : t.kind = .punct b.closing := by
  unfold closes? at h
  split at h <;> first | (obtain rfl := Option.some.inj h; assumption) | simp at h

theorem opens?_of_insignificant (h : t.isSignificant = false) : t.opens? = none := by
  unfold opens?
  split <;> simp_all [isSignificant, isComment, isNewline]

theorem closes?_of_insignificant (h : t.isSignificant = false) : t.closes? = none := by
  unfold closes?
  split <;> simp_all [isSignificant, isComment, isNewline]

theorem depthAfter_of_opens? (h : t.opens? = some b) (depth : Nat) :
    t.depthAfter depth = depth + 1 := by
  simp [depthAfter, isOpen, h]

theorem depthAfter_of_closes? (h : t.closes? = some b) (depth : Nat) :
    t.depthAfter depth = depth - 1 := by
  simp [depthAfter, isOpen, isClose, opens?_of_closes? h, h]

theorem depthAfter_of_other (ho : t.opens? = none) (hc : t.closes? = none) (depth : Nat) :
    t.depthAfter depth = depth := by
  simp [depthAfter, isOpen, isClose, ho, hc]

theorem depthAfter_congr (h : u.kind = t.kind) (depth : Nat) :
    u.depthAfter depth = t.depthAfter depth := by
  have hopens : u.opens? = t.opens? := by rw [opens?, opens?, h]
  have hcloses : u.closes? = t.closes? := by rw [closes?, closes?, h]
  rw [depthAfter, depthAfter, isOpen, isOpen, isClose, isClose, hopens, hcloses]

theorem depthAfter_of_insignificant (h : t.isSignificant = false) (depth : Nat) :
    t.depthAfter depth = depth :=
  depthAfter_of_other (opens?_of_insignificant h) (closes?_of_insignificant h) depth

end Token

/-! ## Tokens that close a stack of brackets -/

/-- The tokens close the brackets of a stack, innermost first, and nest apart from that. -/
inductive Closes : List Bracket → List Token → Prop where
  | nil : Closes [] []
  | opening {t : Token} {ts : List Token} {b : Bracket} {stack : List Bracket}
      (hopens : t.opens? = some b) (h : Closes (b :: stack) ts) : Closes stack (t :: ts)
  | closing {t : Token} {ts : List Token} {b : Bracket} {stack : List Bracket}
      (hcloses : t.closes? = some b) (h : Closes stack ts) : Closes (b :: stack) (t :: ts)
  | other {t : Token} {ts : List Token} {stack : List Bracket} (hopens : t.opens? = none)
      (hcloses : t.closes? = none) (h : Closes stack ts) : Closes stack (t :: ts)

namespace Closes

variable {stack : List Bracket} {t : Token} {ts us : List Token} {b : Bracket}

theorem opening_iff (ho : t.opens? = some b) :
    Closes stack (t :: ts) ↔ Closes (b :: stack) ts := by
  constructor
  · intro h
    cases h with
    | opening ho' h =>
      obtain rfl := Option.some.inj (ho.symm.trans ho')
      exact h
    | closing hc => simp [Token.closes?_of_opens? ho] at hc
    | other ho' => simp [ho] at ho'
  · exact .opening ho

theorem closing_iff (hc : t.closes? = some b) :
    Closes stack (t :: ts) ↔ ∃ outer, stack = b :: outer ∧ Closes outer ts := by
  constructor
  · intro h
    cases h with
    | opening ho => simp [Token.opens?_of_closes? hc] at ho
    | closing hc' h =>
      obtain rfl := Option.some.inj (hc.symm.trans hc')
      exact ⟨_, rfl, h⟩
    | other _ hc' => simp [hc] at hc'
  · rintro ⟨outer, rfl, h⟩
    exact .closing hc h

theorem other_iff (ho : t.opens? = none) (hc : t.closes? = none) :
    Closes stack (t :: ts) ↔ Closes stack ts := by
  constructor
  · intro h
    cases h with
    | opening ho' => simp [ho] at ho'
    | closing hc' => simp [hc] at hc'
    | other _ _ h => exact h
  · exact .other ho hc

theorem insignificant_iff (h : t.isSignificant = false) :
    Closes stack (t :: ts) ↔ Closes stack ts :=
  other_iff (Token.opens?_of_insignificant h) (Token.closes?_of_insignificant h)

/-- Counting open brackets follows the stack. -/
theorem depthAfter (h : Closes stack (t :: ts)) :
    ∃ stack', Closes stack' ts ∧ stack'.length = t.depthAfter stack.length := by
  cases h with
  | opening ho h => exact ⟨_, h, by rw [Token.depthAfter_of_opens? ho, List.length_cons]⟩
  | closing hc h =>
    exact ⟨_, h, by rw [Token.depthAfter_of_closes? hc, List.length_cons, Nat.add_sub_cancel]⟩
  | other ho hc h => exact ⟨_, h, by rw [Token.depthAfter_of_other ho hc]⟩

/-- The brackets open after some of the tokens: as many as the depth says, which is the number of
brackets opened less the number closed. -/
theorem exists_after (h : Closes stack (ts ++ us)) :
    ∃ stack', Closes stack' us ∧
      stack'.length = ts.foldl (fun depth t => t.depthAfter depth) stack.length ∧
      stack'.length + ts.countP Token.isClose = stack.length + ts.countP Token.isOpen := by
  induction ts generalizing stack with
  | nil => exact ⟨stack, h, rfl, rfl⟩
  | cons t ts ih =>
    cases h with
    | @opening _ _ b _ hopens h =>
      obtain ⟨stack', hclosed, hdepth, hcount⟩ := ih h
      have ht : t.isOpen = true ∧ t.isClose = false := by
        simp [Token.isOpen, Token.isClose, hopens, Token.closes?_of_opens? hopens]
      refine ⟨stack', hclosed, ?_, ?_⟩
      · rw [hdepth, List.foldl_cons, Token.depthAfter_of_opens? hopens, List.length_cons]
      · rw [List.length_cons] at hcount
        rw [List.countP_cons_of_pos ht.1, List.countP_cons_of_neg (by simp [ht.2])]
        omega
    | @closing _ _ b stack hcloses h =>
      obtain ⟨stack', hclosed, hdepth, hcount⟩ := ih h
      have ht : t.isOpen = false ∧ t.isClose = true := by
        simp [Token.isOpen, Token.isClose, hcloses, Token.opens?_of_closes? hcloses]
      refine ⟨stack', hclosed, ?_, ?_⟩
      · rw [hdepth, List.foldl_cons, Token.depthAfter_of_closes? hcloses, List.length_cons,
          Nat.add_sub_cancel]
      · rw [List.countP_cons_of_pos ht.2, List.countP_cons_of_neg (by simp [ht.1]),
          List.length_cons]
        omega
    | other hopens hcloses h =>
      obtain ⟨stack', hclosed, hdepth, hcount⟩ := ih h
      have ht : t.isOpen = false ∧ t.isClose = false := by
        simp [Token.isOpen, Token.isClose, hopens, hcloses]
      refine ⟨stack', hclosed, ?_, ?_⟩
      · rw [hdepth, List.foldl_cons, Token.depthAfter_of_other hopens hcloses]
      · rw [List.countP_cons_of_neg (by simp [ht.2]), List.countP_cons_of_neg (by simp [ht.1])]
        exact hcount

/-- No more brackets are closed one after the other than are open. -/
theorem length_le (h : Closes stack (ts ++ us)) (hts : ∀ t ∈ ts, t.isClose) :
    ts.length ≤ stack.length := by
  obtain ⟨stack', -, -, hcount⟩ := h.exists_after
  have hclose : ts.countP Token.isClose = ts.length := List.countP_eq_length.2 hts
  have hopen : ts.countP Token.isOpen = 0 := by
    rw [List.countP_eq_zero]
    intro t ht
    obtain ⟨b, hb⟩ := Option.isSome_iff_exists.1 (hts t ht)
    simp [Token.isOpen, Token.opens?_of_closes? hb]
  omega

/-- Only the kinds of tokens matter. -/
theorem congr (h : Closes stack ts)
    (hkinds : ts.map Token.kind = us.map Token.kind) : Closes stack us := by
  induction h generalizing us with
  | nil =>
    obtain rfl := List.map_eq_nil_iff.1 hkinds.symm
    exact .nil
  | opening ho _ ih =>
    obtain ⟨u, us, rfl, hu, hus⟩ := List.map_eq_cons_iff.1 hkinds.symm
    exact .opening (by simpa [Token.opens?, hu] using ho) (ih hus.symm)
  | closing hc _ ih =>
    obtain ⟨u, us, rfl, hu, hus⟩ := List.map_eq_cons_iff.1 hkinds.symm
    exact .closing (by simpa [Token.closes?, hu] using hc) (ih hus.symm)
  | other ho hc _ ih =>
    obtain ⟨u, us, rfl, hu, hus⟩ := List.map_eq_cons_iff.1 hkinds.symm
    exact .other (by simpa [Token.opens?, hu] using ho) (by simpa [Token.closes?, hu] using hc)
      (ih hus.symm)

/-- Line ends do not matter. -/
theorem filter_iff : Closes stack (ts.filter (!·.isNewline)) ↔ Closes stack ts := by
  induction ts generalizing stack with
  | nil => rfl
  | cons t ts ih =>
    by_cases hn : t.isNewline
    · rw [List.filter_cons_of_neg (by simp [hn]), ih,
        insignificant_iff (Token.isSignificant_of_isNewline hn)]
    · rw [List.filter_cons_of_pos (by simp [hn])]
      cases ho : t.opens? with
      | some b => rw [opening_iff ho, opening_iff ho, ih]
      | none =>
        cases hc : t.closes? with
        | some b => simp only [closing_iff hc, ih]
        | none => rw [other_iff ho hc, other_iff ho hc, ih]

end Closes

/-- **The check of a source is that its brackets nest.** -/
theorem checkBrackets_eq_ok_iff {stack : List (Bracket × Nat)} {ts : List Token} :
    checkBrackets stack ts = .ok () ↔ Closes (stack.map Prod.fst) ts := by
  induction ts generalizing stack with
  | nil =>
    cases stack with
    | nil => exact ⟨fun _ => .nil, fun _ => rfl⟩
    | cons o stack => exact ⟨fun h => by simp [checkBrackets] at h, fun h => by cases h⟩
  | cons t ts ih =>
    rw [checkBrackets]
    cases ho : t.opens? with
    | some b => rw [Closes.opening_iff ho, ih, List.map_cons]
    | none =>
      cases hc : t.closes? with
      | none => rw [Closes.other_iff ho hc, ih]
      | some b =>
        rw [Closes.closing_iff hc]
        cases stack with
        | nil => simp
        | cons o stack =>
          obtain ⟨o, line⟩ := o
          by_cases heq : o = b
          · simp [heq, ih]
          · simp [heq]

end Scribe.Source
