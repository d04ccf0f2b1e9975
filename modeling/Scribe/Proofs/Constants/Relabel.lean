import Scribe.Proofs.Constants.Steps
import Scribe.Proofs.Source.Relabel

/-!
# Reading relabelled tokens

The reader of constants looks at the kinds of tokens, at the texts of identifiers, and at whether two
tokens share a line.  A change of tokens that leaves these alone commutes with reading: what is read
of the changed tokens is what was read, changed (`readFrom_map`), and an error names the new line.
-/

namespace Scribe.Source

variable {f : Token → Token} {g : Nat → Nat}

/-! ## Entries -/

/-- A constant with its comments changed. -/
def Attribution.map (f : Token → Token) (a : Attribution) : Attribution :=
  { a with comments := a.comments.map f }

section
variable (h : Relabels f g)
include h

theorem Relabels.endsEntry (t : Token) (last : Option Token) :
    (f t).endsEntry (last.map f) = t.endsEntry last := by
  apply Token.endsEntry_congr (h.kind t)
  cases last with
  | none => rfl
  | some u => exact Token.endsStatement_congr (h.kind u)

theorem takeEntry_map (inGroup : Bool) (depth : Nat) (last : Option Token) (ts : List Token) :
    takeEntry inGroup depth (last.map f) (ts.map f) =
      (takeEntry inGroup depth last ts).map fun (taken, rest) => (taken.map f, rest.map f) := by
  induction ts generalizing depth last with
  | nil => cases inGroup <;> rfl
  | cons t ts ih =>
    have hlast : (if t.isSignificant then some (f t) else last.map f) =
        (if t.isSignificant then some t else last).map f := by
      split <;> rfl
    rw [List.map_cons, takeEntry, takeEntry, h.endsEntry, h.depthAfter, h.isSignificant, hlast, ih]
    split
    · rfl
    · cases takeEntry inGroup (t.depthAfter depth) (if t.isSignificant then some t else last) ts <;>
        rfl

theorem entryBody_map (taken : List Token) : entryBody (taken.map f) = (entryBody taken).map f := by
  simp only [entryBody, ← List.map_reverse, List.dropWhile_map, Function.comp_def,
    h.isSignificant]

theorem entryTrail_map (taken : List Token) :
    entryTrail (taken.map f) = (entryTrail taken).map f := by
  simp only [entryTrail, ← List.map_reverse, List.takeWhile_map, Function.comp_def,
    h.isSignificant]

theorem declaredName_map (body : List Token) : declaredName (body.map f) = declaredName body := by
  cases body with
  | nil => rfl
  | cons t more =>
    simp only [List.map_cons, declaredName, List.takeWhile_map, List.any_map, Function.comp_def,
      h.isPunct, h.kind]
    by_cases hk : t.kind = .ident
    · rw [h.word t hk]
    · simp [hk]

/-! ## Comments near an entry -/

theorem trailingComments_map (line : Nat) (after : List Token) :
    trailingComments (g line) (after.map f) = (trailingComments line after).map f := by
  simp only [trailingComments, List.takeWhile_map, List.filter_map, Function.comp_def, h.isNewline,
    h.isComment, h.line, h.injective.eq_iff]

theorem commentLinesBack_map (before : List Token) :
    commentLinesBack (before.map f) = (commentLinesBack before).map f := by
  have hcomment : Token.isComment ∘ f = Token.isComment := by
    funext t
    exact h.isComment t
  induction hlen : before.length using Nat.strong_induction_on generalizing before with
  | h len ih =>
    cases before with
    | nil => simp [commentLinesBack]
    | cons n before =>
      have hshort := (List.dropWhile_sublist Token.isComment (l := before)).length_le
      rw [List.length_cons] at hlen
      rw [List.map_cons, commentLinesBack_cons, commentLinesBack_cons, List.takeWhile_map, hcomment,
        List.dropWhile_map, hcomment]
      simp only [List.map_eq_nil_iff]
      split
      · rfl
      cases hrest : before.dropWhile Token.isComment with
      | nil => rfl
      | cons t rest =>
        rw [hrest] at hshort
        have hback := ih (t :: rest).length (by omega) (t :: rest) rfl
        simp only [List.map_cons] at hback ⊢
        rw [h.isNewline, hback]
        split
        · rw [List.map_append]
        · rfl

theorem docComments_map (before : List Token) :
    docComments (before.map f) = (docComments before).map f := by
  cases before with
  | nil => rfl
  | cons t before =>
    rw [docComments, List.map_cons, docComments, h.isNewline, ← List.map_cons,
      commentLinesBack_map h, ← List.map_reverse]
    split <;> rfl

theorem entryComments_map (docs : List Token) (line : Nat) (after : List Token) :
    entryComments (docs.map f) (g line) (after.map f) = (entryComments docs line after).map f := by
  rw [entryComments, entryComments, trailingComments_map h]
  simp only [List.map_eq_nil_iff]
  split <;> rfl

theorem attribution_map (docs taken rest : List Token) :
    attribution (docs.map f) (taken.map f) (rest.map f) =
      (attribution docs taken rest).map (Attribution.map f) := by
  have hname : declaredName (entryBody (taken.map f)) = declaredName (entryBody taken) := by
    rw [entryBody_map h, declaredName_map h]
  cases hsome : declaredName (entryBody taken) with
  | none =>
    rw [attribution_eq_none hsome, attribution_eq_none (hname.trans hsome)]
    rfl
  | some name =>
    obtain ⟨init, final, hbody⟩ := exists_final hsome
    have hbody' : entryBody (taken.map f) = init.map f ++ [f final] := by
      rw [entryBody_map h, hbody, List.map_append, List.map_singleton]
    rw [attribution_eq hbody hsome, attribution_eq hbody' (hname.trans hsome), entryTrail_map h,
      ← List.map_append, h.endLine, entryComments_map h]
    simp only [List.map_eq_nil_iff]
    split <;> rfl

end

/-! ## Groups and declarations -/

/-- An error at the new number of its line. -/
def UnclosedGroup.relabel (g : Nat → Nat) (e : UnclosedGroup) : UnclosedGroup := ⟨g e.line⟩

/-- The result of reading relabelled constants. -/
def relabelFound (f : Token → Token) (g : Nat → Nat)
    (x : Except UnclosedGroup (List Attribution × List Token)) :
    Except UnclosedGroup (List Attribution × List Token) :=
  (x.mapError (.relabel g)).map fun (found, left) => (found.map (.map f), left.map f)

section
variable (h : Relabels f g)
include h

theorem readGroup_map (openLine : Nat) (before ts : List Token) :
    readGroup (g openLine) (before.map f) (ts.map f) =
      relabelFound f g (readGroup openLine before ts) := by
  induction hlen : ts.length using Nat.strong_induction_on generalizing before ts with
  | h len ih =>
    cases ts with
    | nil => simp [readGroup, relabelFound, Except.mapError, Except.map, UnclosedGroup.relabel]
    | cons t ts =>
      rw [List.length_cons] at hlen
      rw [List.map_cons]
      cases hclose : t.isPunct ')' with
      | true =>
        rw [readGroup_close hclose, readGroup_close ((h.isPunct t ')').trans hclose)]
        rfl
      | false =>
        have hclose' := (h.isPunct t ')').trans hclose
        have hskip' : ((f t).isPunct ';' || !(f t).isSignificant) =
            (t.isPunct ';' || !t.isSignificant) := by
          rw [h.isPunct, h.isSignificant]
        cases hskip : t.isPunct ';' || !t.isSignificant with
        | true =>
          rw [readGroup_skip hclose hskip, readGroup_skip hclose' (hskip'.trans hskip),
            ← List.map_cons, ih ts.length (by omega) (t :: before) ts rfl]
        | false =>
          have htake := takeEntry_map h true (t.depthAfter 0) (some t) ts
          rw [Option.map_some] at htake
          rw [readGroup_at_entry hclose hskip, readGroup_at_entry hclose' (hskip'.trans hskip),
            h.depthAfter, htake]
          cases hentry : takeEntry true (t.depthAfter 0) (some t) ts with
          | none => rfl
          | some p =>
            obtain ⟨more, rest⟩ := p
            have hshort := takeEntry_length hentry
            have hrest := ih rest.length (by omega) ((t :: more).reverse ++ before) rest rfl
            rw [List.map_append, List.map_reverse, List.map_cons] at hrest
            have hattribution := attribution_map h (docComments before) (t :: more) rest
            rw [List.map_cons] at hattribution
            simp only [Option.map_some, docComments_map h, hrest, hattribution]
            cases readGroup openLine ((t :: more).reverse ++ before) rest with
            | error e => rfl
            | ok q =>
              cases attribution (docComments before) (t :: more) rest <;> rfl

theorem readDeclaration_map (ts : List Token) :
    readDeclaration (ts.map f) = relabelFound f g (readDeclaration ts) := by
  simp only [readDeclaration, List.dropWhile_map, Function.comp_def, h.isSignificant]
  cases ts.dropWhile (!·.isSignificant) with
  | nil => rfl
  | cons t more =>
    have hgroup := readGroup_map h t.line [t] more
    have halone := takeEntry_map h false 0 none (t :: more)
    rw [List.map_singleton] at hgroup
    rw [Option.map_none, List.map_cons] at halone
    simp only [List.map_cons, h.isPunct, h.line, hgroup, halone]
    split
    · rfl
    cases takeEntry false 0 none (t :: more) with
    | none => rfl
    | some p =>
      obtain ⟨taken, rest⟩ := p
      have hattribution := attribution_map h [] taken rest
      rw [List.map_nil] at hattribution
      simp only [Option.map_some, hattribution]
      cases attribution [] taken rest <;> rfl

end

/-! ## Files -/

/-- A reading with the comments of its constants changed. -/
def Reading.map (f : Token → Token) (r : Reading) : Reading :=
  { r with attributions := r.attributions.map (.map f) }

section
variable (h : Relabels f g)
include h

theorem packageClause_map (ts : List Token) : packageClause (ts.map f) = packageClause ts := by
  simp only [packageClause, List.dropWhile_map, Function.comp_def, h.isSignificant]
  cases ts.dropWhile (!·.isSignificant) with
  | nil => rfl
  | cons t more =>
    rw [List.map_cons]
    dsimp only
    rw [h.kind]
    by_cases hk : t.kind = .ident
    · rw [h.word t hk]
    · rw [if_neg hk, if_neg hk]

/-- **Reading commutes with relabelling.** -/
theorem readFrom_map (depth : Nat) (ts : List Token) :
    readFrom depth (ts.map f) =
      ((readFrom depth ts).mapError (.relabel g)).map (Reading.map f) := by
  induction hlen : ts.length using Nat.strong_induction_on generalizing depth ts with
  | h len ih =>
    cases ts with
    | nil => simp [readFrom, Except.mapError, Except.map, Reading.map]
    | cons t ts =>
      rw [List.length_cons] at hlen
      rw [List.map_cons]
      cases hconst : decide (depth = 0) && t.isWord "const".toList with
      | true =>
        obtain ⟨hzero, hconst⟩ := Bool.and_eq_true_iff.1 hconst
        obtain rfl := of_decide_eq_true hzero
        rw [readFrom_at_const hconst, readFrom_at_const ((h.isWord t _).trans hconst),
          readDeclaration_map h]
        cases hdecl : readDeclaration ts with
        | error e => rfl
        | ok p =>
          obtain ⟨found, rest⟩ := p
          have hshort := readDeclaration_length hdecl
          simp only [relabelFound, Except.mapError, Except.map, ih rest.length (by omega) 0 rest rfl]
          cases readFrom 0 rest with
          | error e => rfl
          | ok r => simp [Reading.map]
      | false =>
        have hconst' : (decide (depth = 0) && (f t).isWord "const".toList) = false := by
          rw [h.isWord, hconst]
        have hpackage : packageAt depth (f t) (ts.map f) = packageAt depth t ts := by
          rw [packageAt, packageAt, h.isWord, packageClause_map h]
        rw [readFrom_other hconst, readFrom_other hconst', h.depthAfter, hpackage,
          ih ts.length (by omega) (t.depthAfter depth) ts rfl]
        cases readFrom (t.depthAfter depth) ts <;> rfl

end

end Scribe.Source
