import Scribe.Proofs.Constants.Located
import Scribe.Proofs.Constants.EntryPlaces

/-!
# Reading by place

The loops of the reader of constants, over the entries of a group and over the declarations of a
source, for tokens in an array: each turn hands the place to go on at to the next.  As with an entry
(`Scribe.Proofs.Constants.EntryPlaces`), every look at a token is checked, and each loop has as many
turns as there are tokens.  The reading stops with a fault where a place lies outside the tokens, or
where a loop would take another turn.

Neither happens, whatever the tokens are (`read_within`).  Each function finds what its counterpart
on lists finds, and the place to go on at is that of the rest which this leaves (`groupFrom_eq`,
`declarationAt_eq`, `readOn_eq`); the rest is shorter with every turn.
-/

namespace Scribe.Source

namespace ByPlace

/-! ## The reading -/

/-- The place of the next significant token, from place `i` on. -/
def nextSignificant (ts : List Token) (i : Nat) : Option Nat :=
  let next := i + (ts.drop i).findIdx Token.isSignificant
  if next < ts.length then some next else none

/-- The entries of a group from place `i` on, and the place after its closing bracket. -/
def groupFrom (ts : List Token) (openLine : Nat) :
    (turns i : Nat) → Except Fault (List Attribution × Nat)
  | 0, _ => .error .endless
  | turns + 1, i =>
    match ts[i]? with
    | none => .error (.unclosed ⟨openLine⟩)
    | some t =>
      if t.isPunct ')' then .ok ([], i + 1)
      else if t.isPunct ';' || !t.isSignificant then groupFrom ts openLine turns (i + 1)
      else do
        match ← scanEntry ts true i with
        | none => .error (.unclosed ⟨openLine⟩)
        | some e =>
          let found ← known ts e (some e.first)
          let (more, stop) ← groupFrom ts openLine turns e.stop
          return (found.toList ++ more, stop)

/-- The constants of the declaration whose keyword is at place `kw`, and the place after it. -/
def declarationAt (ts : List Token) (kw : Nat) : Except Fault (List Attribution × Nat) :=
  match nextSignificant ts (kw + 1) with
  | none => .ok ([], ts.length)
  | some next => do
    let t ← tokenAt ts next
    if t.isPunct '(' then groupFrom ts t.line ts.length (next + 1)
    else
      match ← scanEntry ts false next with
      | none => return ([], ts.length)
      | some e =>
        let found ← known ts e none
        return (found.toList, e.stop)

/-- The name in the package clause whose keyword is at place `kw`. -/
def clauseAt (ts : List Token) (kw : Nat) : Except Fault (Option (List Char)) :=
  match nextSignificant ts (kw + 1) with
  | none => .ok none
  | some next => do
    let t ← tokenAt ts next
    return if t.kind = .ident then some t.text else none

/-- Reads on from place `i`, at a nesting depth. -/
def readOn (ts : List Token) : (turns i depth : Nat) → Except Fault Reading
  | turns, i, depth =>
    if i < ts.length then
      match turns with
      | 0 => .error .endless
      | turns + 1 => do
        let t ← tokenAt ts i
        if depth = 0 && t.isWord "const".toList then
          let (found, next) ← declarationAt ts i
          let r ← readOn ts turns next 0
          return { r with attributions := found ++ r.attributions }
        else
          let package ←
            (if depth = 0 && t.isWord "package".toList then clauseAt ts i else .ok none)
          let r ← readOn ts turns (i + 1) (t.depthAfter depth)
          return { r with package := package <|> r.package }
    else .ok ⟨none, []⟩

/-- What some tokens say about constants.  No loop takes more turns than there are tokens. -/
def read (ts : List Token) : Except Fault Reading := readOn ts ts.length 0 0

/-! ## Groups, declarations and files -/

section
variable {ts taken rest left near far : List Token} {t opener : Token} {turns i kw depth : Nat}
  {openLine : Nat}

/-- What a reading of the list finds, where the rest is given by the place that it starts at. -/
def placed (ts : List Token) :
    Except UnclosedGroup (List Attribution × List Token) → Except Fault (List Attribution × Nat)
  | .error e => .error (.unclosed e)
  | .ok (found, left) => .ok (found, ts.length - left.length)

theorem sub_length_of_drop (h : ts.drop i = taken ++ rest) (hi : i ≤ ts.length) :
    ts.length - rest.length = i + taken.length := by
  have := length_of_drop h hi
  omega

/-- What is known of an entry of a group: no block goes back past the opening bracket. -/
theorem known_of_group (hopener : opener.isSignificant)
    (hbefore : (ts.take i).reverse = near ++ opener :: far) (hi : i < ts.length)
    (htake : takeEntry true 0 none (ts.drop i) = some (taken, rest)) :
    known ts (placesOf i taken) (some i) =
      .ok (attribution (docComments (near ++ [opener])) taken rest) := by
  have hanchor : ∀ a ∈ some i, a ≤ ts.length := by
    intro a ha
    obtain rfl := Option.some.inj ha
    exact Nat.le_of_lt hi
  rw [known_eq hi htake hanchor, docsAbove, Option.elim_some, hbefore, docComments_append hopener]

/-- **A group by place.**  Each turn goes on at a later place. -/
theorem groupFrom_eq (hopener : opener.isSignificant)
    (hbefore : (ts.take i).reverse = near ++ opener :: far) (hi : i ≤ ts.length)
    (hturns : ts.length < turns + i) :
    groupFrom ts openLine turns i =
      placed ts (readGroup openLine (near ++ [opener]) (ts.drop i)) := by
  induction turns generalizing i near with
  | zero => omega
  | succ turns ih =>
    rw [groupFrom]
    cases hdrop : ts.drop i with
    | nil =>
      rw [List.getElem?_eq_none (List.drop_eq_nil_iff.1 hdrop), readGroup]
      rfl
    | cons t rest =>
      have ht := getElem?_of_drop hdrop
      have hlen := length_of_drop_cons hdrop
      rw [ht]
      dsimp only
      cases hclose : t.isPunct ')' with
      | true =>
        rw [if_pos rfl, readGroup_close hclose, placed]
        congr 2
        omega
      | false =>
        rw [if_neg Bool.false_ne_true]
        cases hskip : t.isPunct ';' || !t.isSignificant with
        | true =>
          rw [if_pos rfl, readGroup_skip hclose hskip, ← List.cons_append, ← drop_succ hdrop]
          have hback := reverse_take_succ ht
          rw [hbefore, ← List.cons_append] at hback
          exact ih hback (by omega) (by omega)
        | false =>
          rw [if_neg Bool.false_ne_true, scanEntry_eq (by omega), hdrop, ok_bind,
            readGroup_at_entry hclose hskip]
          have hstart : takeEntry true 0 none (t :: rest) = _ := takeEntry_start hclose hskip
          cases htake : takeEntry true (t.depthAfter 0) (some t) rest with
          | none =>
            rw [hstart, htake]
            rfl
          | some p =>
            obtain ⟨more, left⟩ := p
            rw [htake, Option.map_some] at hstart
            rw [hstart, Option.map_some]
            rw [← hdrop] at hstart
            have hentry := (takeEntry_append hstart).symm
            have hlen' := length_of_drop hentry hi
            have hnext := take_add_length hentry
            rw [hbefore, ← List.append_assoc] at hnext
            have hmore := ih hnext (by omega) (by simp only [List.length_cons]; omega)
            rw [drop_add_length hentry, List.append_assoc] at hmore
            dsimp only
            rw [show (placesOf i (t :: more)).first = i from rfl,
              known_of_group hopener hbefore (by omega) hstart, ok_bind, placesOf, hmore]
            cases readGroup openLine ((t :: more).reverse ++ (near ++ [opener])) left <;> rfl

/-- The tokens from the next significant one on. -/
theorem drop_findIdx (ts : List Token) (i : Nat) :
    ts.drop (i + (ts.drop i).findIdx Token.isSignificant) =
      (ts.drop i).dropWhile (!·.isSignificant) := by
  rw [← List.drop_drop, List.dropWhile_eq_drop_findIdx_not]
  simp only [Bool.not_not]

theorem nextSignificant_eq_none (h : (ts.drop i).dropWhile (!·.isSignificant) = []) :
    nextSignificant ts i = none := by
  rw [← drop_findIdx, List.drop_eq_nil_iff] at h
  exact if_neg (Nat.not_lt.2 h)

theorem exists_nextSignificant (h : (ts.drop i).dropWhile (!·.isSignificant) = t :: rest) :
    ∃ j, nextSignificant ts i = some j ∧ i ≤ j ∧ j < ts.length ∧ ts.drop j = t :: rest := by
  rw [← drop_findIdx] at h
  obtain ⟨hlt, -⟩ := List.getElem?_eq_some_iff.1 (getElem?_of_drop h)
  exact ⟨_, if_pos hlt, Nat.le_add_right _ _, hlt, h⟩

/-- **A declaration by place.** -/
theorem declarationAt_eq (ts : List Token) (kw : Nat) :
    declarationAt ts kw = placed ts (readDeclaration (ts.drop (kw + 1))) := by
  rw [declarationAt]
  cases hnext : (ts.drop (kw + 1)).dropWhile (!·.isSignificant) with
  | nil =>
    rw [nextSignificant_eq_none hnext, readDeclaration_end hnext]
    rfl
  | cons t rest =>
    obtain ⟨j, hj, hle, hlt, hdrop⟩ := exists_nextSignificant hnext
    have ht := getElem?_of_drop hdrop
    have hsig : t.isSignificant := by simpa using Text.eq_false_of_dropWhile hnext
    rw [hj]
    dsimp only
    rw [tokenAt_eq ht, ok_bind]
    cases hopen : t.isPunct '(' with
    | true =>
      have hback : (ts.take (j + 1)).reverse = [] ++ t :: (ts.take j).reverse :=
        reverse_take_succ ht
      rw [if_pos rfl, readDeclaration_group hnext hopen,
        groupFrom_eq hsig hback (by omega) (by omega), drop_succ hdrop, List.nil_append]
    | false =>
      obtain ⟨⟨taken, left⟩, htake⟩ := exists_takeEntry 0 none (t :: rest)
      rw [if_neg Bool.false_ne_true, readDeclaration_alone hnext hopen htake]
      rw [← hdrop] at htake
      have hstop := sub_length_of_drop (takeEntry_append htake).symm (Nat.le_of_lt hlt)
      rw [scanEntry_eq hlt, htake, ok_bind, Option.map_some]
      dsimp only
      rw [known_eq hlt htake (by simp), ok_bind, placed, hstop]
      rfl

theorem clauseAt_eq : clauseAt ts kw = .ok (packageClause (ts.drop (kw + 1))) := by
  rw [clauseAt, packageClause]
  cases hnext : (ts.drop (kw + 1)).dropWhile (!·.isSignificant) with
  | nil =>
    rw [nextSignificant_eq_none hnext]
  | cons t rest =>
    obtain ⟨j, hj, -, -, hdrop⟩ := exists_nextSignificant hnext
    rw [hj]
    dsimp only
    rw [tokenAt_eq (getElem?_of_drop hdrop)]
    rfl

/-- **A source by place.**  Each turn goes on at a later place. -/
theorem readOn_eq (hi : i ≤ ts.length) (hturns : ts.length ≤ turns + i) :
    readOn ts turns i depth = (readFrom depth (ts.drop i)).mapError .unclosed := by
  induction turns generalizing i depth with
  | zero =>
    have hend : ¬ i < ts.length := by omega
    rw [readOn, if_neg hend, List.drop_eq_nil_of_le (by omega), readFrom]
    rfl
  | succ turns ih =>
    rw [readOn]
    split
    · rename_i hlt
      have ht := List.getElem?_eq_getElem hlt
      rw [List.drop_eq_getElem_cons hlt, tokenAt_eq ht, ok_bind]
      cases hconst : decide (depth = 0) && ts[i].isWord "const".toList with
      | true =>
        obtain ⟨hzero, hword⟩ := Bool.and_eq_true_iff.1 hconst
        obtain rfl := of_decide_eq_true hzero
        rw [if_pos rfl, declarationAt_eq, readFrom_at_const hword]
        cases hdecl : readDeclaration (ts.drop (i + 1)) with
        | error e => rfl
        | ok p =>
          obtain ⟨found, left⟩ := p
          have hrest : left <:+ ts := (readDeclaration_suffix hdecl).trans (List.drop_suffix _ _)
          have hshort := readDeclaration_length hdecl
          rw [List.length_drop] at hshort
          rw [placed, ok_bind]
          dsimp only
          rw [ih (Nat.sub_le _ _) (by omega), ← List.suffix_iff_eq_drop.1 hrest]
          cases readFrom 0 left <;> rfl
      | false =>
        rw [if_neg Bool.false_ne_true, readFrom_other hconst, ih (by omega) (by omega)]
        have hclause :
            (if decide (depth = 0) && ts[i].isWord "package".toList then clauseAt ts i
              else .ok none) = .ok (packageAt depth ts[i] (ts.drop (i + 1))) := by
          rw [packageAt, clauseAt_eq]
          split <;> rfl
        rw [hclause, ok_bind]
        cases readFrom (ts[i].depthAfter depth) (ts.drop (i + 1)) <;> rfl
    · rename_i hend
      rw [List.drop_eq_nil_of_le (by omega), readFrom]
      rfl

end

/-! ## Inside the tokens -/

section
variable {ts : List Token} {kw : Nat}

/-- A declaration ends after its keyword, or its group is not closed. -/
theorem declarationAt_within (hkw : kw < ts.length) :
    (∃ found stop, declarationAt ts kw = .ok (found, stop) ∧ kw + 1 ≤ stop ∧ stop ≤ ts.length) ∨
      ∃ e, declarationAt ts kw = .error (.unclosed e) := by
  rw [declarationAt_eq]
  cases hdecl : readDeclaration (ts.drop (kw + 1)) with
  | error e => exact .inr ⟨e, rfl⟩
  | ok p =>
    obtain ⟨found, left⟩ := p
    have hshort := readDeclaration_length hdecl
    rw [List.length_drop] at hshort
    exact .inl ⟨found, _, rfl, by omega, Nat.sub_le _ _⟩

end

/-- **Reading by place stays inside the tokens and comes to an end**, whatever the tokens are.

An entry that starts inside them has its places in order and inside them, and whatever is looked at
to know its constant lies inside them; an entry of a group ends after its start.  A declaration ends
after its keyword, or else its group is not closed.  And the reading finds what the reader of
constants finds, so it never meets with a place outside, nor with a loop that takes more turns than
there are tokens. -/
theorem read_within (ts : List Token) :
    (∀ inGroup first, first < ts.length → ∃ found, scanEntry ts inGroup first = .ok found ∧
      ∀ e ∈ found, e.Within ts first ∧
        ∀ anchor : Option Nat, (∀ a ∈ anchor, a ≤ ts.length) →
          ∃ about, known ts e anchor = .ok about) ∧
    (∀ first t, ts[first]? = some t → t.isPunct ')' = false →
      (t.isPunct ';' || !t.isSignificant) = false →
        ∀ e, scanEntry ts true first = .ok (some e) → first < e.stop) ∧
    (∀ kw < ts.length,
      (∃ found stop, declarationAt ts kw = .ok (found, stop) ∧ kw + 1 ≤ stop ∧
        stop ≤ ts.length) ∨ ∃ e, declarationAt ts kw = .error (.unclosed e)) ∧
    (∀ a ≤ ts.length, blockAbove ts a = .ok (docComments (ts.take a).reverse)) ∧
    read ts = (readFrom 0 ts).mapError .unclosed := by
  refine ⟨?_, ?_, fun kw hkw => declarationAt_within hkw, fun a ha => blockAbove_eq ha, ?_⟩
  · intro inGroup first hfirst
    refine ⟨_, scanEntry_eq hfirst inGroup, ?_⟩
    intro e he
    have hscan : scanEntry ts inGroup first = .ok (some e) := by
      rw [scanEntry_eq hfirst, Option.mem_def.1 he]
    exact ⟨within_of_scanEntry hfirst hscan, fun anchor => known_of_within hfirst hscan⟩
  · intro first t ht hclose hskip e he
    exact lt_stop_of_scanEntry ht hclose hskip he
  · exact readOn_eq (Nat.zero_le _) (Nat.le_refl _)

/-- Stray closing brackets, and a declaration that nothing follows: the entry of `A` in the group
ends at the line end, and the reading meets no fault. -/
theorem read_within_stray_brackets :
    let ts : List Token := [⟨.ident, "const".toList, 1, 1⟩, ⟨.punct '(', ['('], 1, 1⟩,
      ⟨.ident, ['A'], 1, 1⟩, ⟨.punct '=', ['='], 1, 1⟩, ⟨.punct ']', [']'], 1, 1⟩,
      ⟨.newline, ['\n'], 1, 1⟩, ⟨.punct ')', [')'], 2, 2⟩, ⟨.punct ')', [')'], 2, 2⟩,
      ⟨.ident, "const".toList, 2, 2⟩]
    scanEntry ts true 2 = .ok (some ⟨2, 4, 5⟩) ∧ (Entry.mk 2 4 5).Within ts 2 ∧ 2 < 5 ∧
      (∃ about, known ts ⟨2, 4, 5⟩ (some 2) = .ok about) ∧
      (∃ found stop, declarationAt ts 8 = .ok (found, stop) ∧ 8 + 1 ≤ stop ∧ stop ≤ 9) ∧
      (readFrom 0 ts).mapError Fault.unclosed = .ok ⟨none, []⟩ := by
  intro ts
  have hscan : scanEntry ts true 2 = .ok (some ⟨2, 4, 5⟩) := by decide
  have hlast : declarationAt ts 8 = .ok ([], 9) := by decide
  have hall : read ts = .ok ⟨none, []⟩ := by decide
  obtain ⟨hentry, hgroup, hdeclaration, -, hread⟩ := read_within ts
  obtain ⟨found, hfound, hwithin⟩ := hentry true 2 (by decide)
  obtain rfl := Except.ok.inj (hfound.symm.trans hscan)
  obtain ⟨hplaces, hknown⟩ := hwithin _ rfl
  refine ⟨hscan, hplaces, hgroup 2 _ rfl (by decide) (by decide) _ hscan,
    hknown (some 2) (by decide), ?_, hread.symm.trans hall⟩
  rcases hdeclaration 8 (by decide) with hends | ⟨e, he⟩
  · exact hends
  · exact absurd (hlast.symm.trans he) (by simp)

/-- Outside a group an entry can be empty: it ends where it starts, and the reading goes on there. -/
example : scanEntry [⟨.punct ';', [';'], 1, 1⟩] false 0 = .ok (some ⟨0, 0, 0⟩) := by cbv

end ByPlace

end Scribe.Source
