import Scribe.Proofs.Constants.Joined

/-!
# Entries where they stand

The reader of constants keeps the name of an entry and its comments, and forgets the entry.  Here are
the entries themselves, each with the tokens before it, its own, and those after it
(`constantEntries`).  They are found by the steps of the reader, and what the reader keeps of a source
is what is known of its entries, one after the other (`entriesFrom_accounts`).

A group is read from its opening bracket on, as if nothing came before.  Nothing is lost by that,
since no block of comments reaches across the bracket (`docComments_append`).
-/

namespace Scribe.Source

/-- An entry of a constant declaration, where it stands in a source. -/
structure ConstantEntry where
  /-- The tokens before it, nearest first. -/
  before : List Token
  /-- Its own tokens, up to where it ends. -/
  taken : List Token
  /-- The tokens after it. -/
  rest : List Token
  /-- Whether a block of comments above it counts. -/
  inGroup : Bool

namespace ConstantEntry

/-- The block of comments above an entry, if it may have one. -/
def docs (e : ConstantEntry) : List Token := if e.inGroup then docComments e.before else []

/-- What is known of the constant of an entry. -/
def attribution? (e : ConstantEntry) : Option Attribution := attribution e.docs e.taken e.rest

/-- An entry stands in the tokens `ts` of a source, where `before` comes before these. -/
def StandsIn (e : ConstantEntry) (before ts : List Token) : Prop :=
  ∃ passed, ts = passed ++ (e.taken ++ e.rest) ∧ e.before = passed.reverse ++ before

/-- An entry is over where another begins, or before. -/
def Precedes (e e' : ConstantEntry) : Prop := e'.StandsIn (e.taken.reverse ++ e.before) e.rest

theorem StandsIn.pass {e : ConstantEntry} {before ts passed : List Token}
    (h : e.StandsIn (passed.reverse ++ before) ts) : e.StandsIn before (passed ++ ts) := by
  obtain ⟨more, rfl, hbefore⟩ := h
  exact ⟨passed ++ more, by simp, by simp [hbefore]⟩

end ConstantEntry

/-! ## The entries of a source -/

/-- The entries of a group, from some tokens of it on. -/
def groupEntries (before : List Token) : List Token → List ConstantEntry
  | [] => []
  | t :: ts =>
    if t.isPunct ')' then []
    else if t.isPunct ';' || !t.isSignificant then groupEntries (t :: before) ts
    else
      match _h : takeEntry true (t.depthAfter 0) (some t) ts with
      | none => []
      | some (more, rest) =>
        ⟨before, t :: more, rest, true⟩ :: groupEntries ((t :: more).reverse ++ before) rest
termination_by ts => ts.length
decreasing_by
  · simp
  · have := takeEntry_length _h
    simp
    omega

/-- The entries of the declaration whose keyword has just been read. -/
def declarationEntries (before ts : List Token) : List ConstantEntry :=
  let passed := (ts.takeWhile (!·.isSignificant)).reverse ++ before
  match ts.dropWhile (!·.isSignificant) with
  | [] => []
  | t :: more =>
    if t.isPunct '(' then groupEntries (t :: passed) more
    else
      match takeEntry false 0 none (t :: more) with
      | none => []
      | some (taken, rest) => [⟨passed, taken, rest, false⟩]

/-- The entries of the declarations from some tokens of a source on, where `depth` brackets are
open. -/
def entriesFrom (depth : Nat) (before : List Token) : List Token → List ConstantEntry
  | [] => []
  | t :: ts =>
    if depth = 0 && t.isWord "const".toList then
      match _h : readDeclaration ts with
      | .error _ => []
      | .ok (_, rest) =>
        let read := ts.take (ts.length - rest.length)
        declarationEntries (t :: before) ts ++ entriesFrom 0 (read.reverse ++ t :: before) rest
    else entriesFrom (t.depthAfter depth) (t :: before) ts
termination_by ts => ts.length
decreasing_by
  · have := readDeclaration_length _h
    simp
    omega
  · simp

/-- The entries of all constant declarations of a source, in their order. -/
def constantEntries (ts : List Token) : List ConstantEntry := entriesFrom 0 [] ts

/-! ## Steps -/

section
variable {t : Token} {ts more rest before : List Token}

theorem groupEntries_close (h : t.isPunct ')') : groupEntries before (t :: ts) = [] := by
  rw [groupEntries, if_pos h]

theorem groupEntries_skip (hclose : t.isPunct ')' = false)
    (hskip : (t.isPunct ';' || !t.isSignificant) = true) :
    groupEntries before (t :: ts) = groupEntries (t :: before) ts := by
  rw [groupEntries, if_neg (by simp [hclose]), if_pos hskip]

theorem groupEntries_entry (hclose : t.isPunct ')' = false)
    (hskip : (t.isPunct ';' || !t.isSignificant) = false)
    (htake : takeEntry true (t.depthAfter 0) (some t) ts = some (more, rest)) :
    groupEntries before (t :: ts) =
      ⟨before, t :: more, rest, true⟩ :: groupEntries ((t :: more).reverse ++ before) rest := by
  rw [groupEntries, if_neg (by simp [hclose]), if_neg (by simp [hskip])]
  split
  · rename_i hnone
    rw [hnone] at htake
    simp at htake
  · rename_i hsome
    rw [hsome] at htake
    obtain ⟨rfl, rfl⟩ := Prod.mk.inj (Option.some.inj htake)
    rfl

theorem entriesFrom_const {found : List Attribution} (h : t.isWord "const".toList)
    (hdecl : readDeclaration ts = .ok (found, rest)) :
    entriesFrom 0 before (t :: ts) = declarationEntries (t :: before) ts ++
      entriesFrom 0 ((ts.take (ts.length - rest.length)).reverse ++ t :: before) rest := by
  rw [entriesFrom, if_pos (by rw [h]; rfl)]
  split
  · rename_i herror
    rw [herror] at hdecl
    simp at hdecl
  · rename_i hok
    rw [hok] at hdecl
    obtain ⟨rfl, rfl⟩ := Prod.mk.inj (Except.ok.inj hdecl)
    rfl

theorem entriesFrom_other {depth : Nat}
    (h : (decide (depth = 0) && t.isWord "const".toList) = false) :
    entriesFrom depth before (t :: ts) = entriesFrom (t.depthAfter depth) (t :: before) ts := by
  rw [entriesFrom, if_neg (by rw [h]; exact Bool.false_ne_true)]

end

/-! ## Blocks of comments do not reach across code -/

section
variable {opener : Token} (hopener : opener.isSignificant)
include hopener

theorem commentLinesBack_append (n : Token) (near far : List Token) :
    commentLinesBack (n :: (near ++ opener :: far)) =
      commentLinesBack (n :: (near ++ [opener])) := by
  have hcomment := Token.isComment_of_isSignificant hopener
  have hnewline := Token.isNewline_of_isSignificant hopener
  induction hlen : near.length using Nat.strong_induction_on generalizing n near with
  | h len ih =>
    have htake : ∀ far, (near ++ opener :: far).takeWhile Token.isComment =
        near.takeWhile Token.isComment := by
      intro far
      rw [List.takeWhile_append, List.takeWhile_cons_of_neg (by simp [hcomment])]
      split
      · rename_i hall
        rw [List.append_nil, (List.takeWhile_prefix _).eq_of_length hall]
      · rfl
    have hdrop : ∀ far, (near ++ opener :: far).dropWhile Token.isComment =
        near.dropWhile Token.isComment ++ opener :: far := by
      intro far
      rw [List.dropWhile_append, List.dropWhile_cons_of_neg (by simp [hcomment])]
      split
      · rename_i hnil
        rw [List.isEmpty_iff.1 hnil]
        rfl
      · rfl
    have hshort : (near.dropWhile Token.isComment).length ≤ near.length :=
      (List.dropWhile_sublist _).length_le
    rw [commentLinesBack_cons, commentLinesBack_cons, htake, htake, hdrop, hdrop]
    split
    · rfl
    cases hrest : near.dropWhile Token.isComment with
    | nil => simp [hnewline]
    | cons t rest =>
      rw [hrest, List.length_cons] at hshort
      rw [List.cons_append, List.cons_append]
      dsimp only
      rw [ih rest.length (by omega) t rest rfl]

theorem docComments_append (near far : List Token) :
    docComments (near ++ opener :: far) = docComments (near ++ [opener]) := by
  cases near with
  | nil =>
    have hnewline := Token.isNewline_of_isSignificant hopener
    rw [List.nil_append, List.nil_append, docComments_of_not_isNewline hnewline,
      docComments_of_not_isNewline hnewline]
  | cons n near =>
    rw [List.cons_append, List.cons_append, docComments, docComments,
      commentLinesBack_append hopener]

end

/-! ## What the reader keeps -/

/-- The entries `es` stand in the tokens `ts`, one after the other, with `left` after all of them,
and `found` is what is known of them. -/
structure Accounts (before ts : List Token) (es : List ConstantEntry) (found : List Attribution)
    (left : List Token) : Prop where
  found_eq : found = es.filterMap ConstantEntry.attribution?
  standsIn : ∀ e ∈ es, e.StandsIn before ts
  left_suffix : ∀ e ∈ es, left <:+ e.rest
  precedes : es.Pairwise ConstantEntry.Precedes

namespace Accounts

variable {before ts taken rest left passed middle : List Token} {es es' : List ConstantEntry}
  {found found' : List Attribution}

theorem nil : Accounts before ts [] [] left := ⟨rfl, by simp, by simp, .nil⟩

/-- Tokens before the entries are passed over. -/
theorem pass (h : Accounts (passed.reverse ++ before) ts es found left) :
    Accounts before (passed ++ ts) es found left :=
  ⟨h.found_eq, fun e he => (h.standsIn e he).pass, h.left_suffix, h.precedes⟩

theorem cons {t : Token} (h : Accounts (t :: before) ts es found left) :
    Accounts before (t :: ts) es found left :=
  pass (show Accounts ([t].reverse ++ before) ts es found left from h)

theorem entry (inGroup : Bool) (h : Accounts (taken.reverse ++ before) rest es found left)
    (hleft : left <:+ rest) :
    Accounts before (taken ++ rest) (⟨before, taken, rest, inGroup⟩ :: es)
      ((ConstantEntry.attribution? ⟨before, taken, rest, inGroup⟩).toList ++ found) left where
  found_eq := by
    rw [h.found_eq, List.filterMap_cons]
    cases ConstantEntry.attribution? ⟨before, taken, rest, inGroup⟩ <;> rfl
  standsIn := List.forall_mem_cons.2 ⟨⟨[], rfl, rfl⟩, fun e he => (h.standsIn e he).pass⟩
  left_suffix := List.forall_mem_cons.2 ⟨hleft, h.left_suffix⟩
  precedes := List.pairwise_cons.2 ⟨h.standsIn, h.precedes⟩

theorem append (h : Accounts before (passed ++ middle) es found middle)
    (h' : Accounts (passed.reverse ++ before) middle es' found' left) (hleft : left <:+ middle) :
    Accounts before (passed ++ middle) (es ++ es') (found ++ found') left where
  found_eq := by rw [h.found_eq, h'.found_eq, List.filterMap_append]
  standsIn := by
    intro e he
    rcases List.mem_append.1 he with he | he
    · exact h.standsIn e he
    · exact (h'.standsIn e he).pass
  left_suffix := by
    intro e he
    rcases List.mem_append.1 he with he | he
    · exact hleft.trans (h.left_suffix e he)
    · exact h'.left_suffix e he
  precedes := by
    refine List.pairwise_append.2 ⟨h.precedes, h'.precedes, ?_⟩
    intro e he e' he'
    obtain ⟨front, hts, hbefore⟩ := h.standsIn e he
    obtain ⟨back, hback⟩ := h.left_suffix e he
    have hstands := h'.standsIn e' he'
    -- What is passed over ends with the entry and what follows it.
    have hpassed : passed = front ++ (e.taken ++ back) := by
      rw [← hback, ← List.append_assoc, ← List.append_assoc] at hts
      rw [List.append_cancel_right hts, List.append_assoc]
    have hsplit : passed.reverse ++ before = back.reverse ++ (e.taken.reverse ++ e.before) := by
      rw [hpassed, hbefore]
      simp
    rw [hsplit] at hstands
    have hprecedes := hstands.pass
    rw [hback] at hprecedes
    exact hprecedes

end Accounts

section
variable {before ts left : List Token} {found : List Attribution}

theorem readGroup_accounts {opener : Token} (hopener : opener.isSignificant) {openLine : Nat}
    {near : List Token} (h : readGroup openLine (near ++ [opener]) ts = .ok (found, left))
    (far : List Token) :
    Accounts (near ++ opener :: far) ts (groupEntries (near ++ opener :: far) ts) found left := by
  induction hlen : ts.length using Nat.strong_induction_on generalizing ts near found left with
  | h len ih =>
    cases ts with
    | nil => simp [readGroup] at h
    | cons t ts =>
      rw [List.length_cons] at hlen
      cases hclose : t.isPunct ')' with
      | true =>
        rw [readGroup_close hclose] at h
        obtain ⟨rfl, -⟩ := Prod.mk.inj (Except.ok.inj h)
        rw [groupEntries_close hclose]
        exact .nil
      | false =>
        cases hskip : t.isPunct ';' || !t.isSignificant with
        | true =>
          rw [readGroup_skip hclose hskip, ← List.cons_append] at h
          rw [groupEntries_skip hclose hskip, ← List.cons_append]
          exact (ih ts.length (by omega) h rfl).cons
        | false =>
          obtain ⟨more, rest, found', htake, hread, rfl⟩ :=
            exists_of_readGroup_entry hclose hskip h
          have hshort := takeEntry_length htake
          obtain ⟨front, c, hrest, -⟩ := exists_closer_of_readGroup hread
          have hleft : left <:+ rest := ⟨front ++ [c], by simp [hrest]⟩
          rw [← List.append_assoc] at hread
          have hmore := ih rest.length (by omega) hread rfl
          rw [List.append_assoc] at hmore
          have hentry := hmore.entry true hleft
          rw [groupEntries_entry hclose hskip htake, ← takeEntry_append htake, ← List.cons_append]
          rw [← docComments_append hopener near far]
          exact hentry

theorem readDeclaration_accounts (h : readDeclaration ts = .ok (found, left)) :
    Accounts before ts (declarationEntries before ts) found left := by
  have hsplit : ts.takeWhile (!·.isSignificant) ++ ts.dropWhile (!·.isSignificant) = ts :=
    List.takeWhile_append_dropWhile
  rw [declarationEntries]
  rcases readDeclaration_cases h with
    ⟨hts, rfl, rfl⟩ | ⟨t, more, hts, hopen, hgroup⟩ | ⟨t, more, taken, hts, hopen, htake, rfl⟩
  · rw [hts]
    exact .nil
  · have hsig : t.isSignificant := by simpa using Text.eq_false_of_dropWhile hts
    have hentries := readGroup_accounts hsig (List.nil_append [t] ▸ hgroup)
      ((ts.takeWhile (!·.isSignificant)).reverse ++ before)
    rw [hts] at hsplit ⊢
    dsimp only
    rw [if_pos hopen]
    conv => enter [2]; rw [← hsplit]
    exact hentries.cons.pass
  · have hnone : Accounts (taken.reverse ++ ((ts.takeWhile (!·.isSignificant)).reverse ++ before))
        left [] [] left := .nil
    have hentry := hnone.entry false (List.suffix_refl left)
    rw [List.append_nil] at hentry
    rw [hts] at hsplit ⊢
    dsimp only
    rw [if_neg (by simp [hopen]), htake]
    conv => enter [2]; rw [← hsplit, ← takeEntry_append htake]
    exact hentry.pass

/-- **What the reader keeps of a source** is what is known of its entries. -/
theorem entriesFrom_accounts {depth : Nat} {r : Reading} (h : readFrom depth ts = .ok r) :
    Accounts before ts (entriesFrom depth before ts) r.attributions [] := by
  induction hlen : ts.length using Nat.strong_induction_on generalizing ts before depth r with
  | h len ih =>
    cases ts with
    | nil =>
      rw [readFrom] at h
      obtain rfl := Except.ok.inj h
      rw [entriesFrom]
      exact .nil
    | cons t ts =>
      rw [List.length_cons] at hlen
      cases hconst : decide (depth = 0) && t.isWord "const".toList with
      | true =>
        obtain ⟨hzero, hword⟩ := Bool.and_eq_true_iff.1 hconst
        obtain rfl := of_decide_eq_true hzero
        obtain ⟨found, left, r', hdecl, hread, rfl⟩ := exists_of_readFrom_const hword h
        have hshort := readDeclaration_length hdecl
        obtain ⟨passed, rfl⟩ := readDeclaration_suffix hdecl
        have hpassed : (passed ++ left).take ((passed ++ left).length - left.length) = passed := by
          simp
        have hfirst : Accounts (t :: before) (passed ++ left)
            (declarationEntries (t :: before) (passed ++ left)) found left :=
          readDeclaration_accounts hdecl
        have hmore : Accounts (passed.reverse ++ t :: before) left
            (entriesFrom 0 (passed.reverse ++ t :: before) left) r'.attributions [] :=
          ih left.length (by omega) hread rfl
        rw [entriesFrom_const hword hdecl, hpassed]
        exact (hfirst.append hmore List.nil_suffix).cons
      | false =>
        rw [readFrom_other hconst] at h
        obtain ⟨r', hread, rfl⟩ := exists_of_map_eq_ok h
        rw [entriesFrom_other hconst]
        exact (ih ts.length (by omega) hread rfl).cons

end

end Scribe.Source
