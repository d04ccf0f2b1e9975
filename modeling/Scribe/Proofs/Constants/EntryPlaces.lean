import Scribe.Proofs.Source.Places
import Scribe.Proofs.Constants.Steps

/-!
# Entries by place

The reader of constants goes through a list and leaves its rest, so it cannot miss a token or run
past the last one.  Where the tokens stand in an array, an entry is known by the places of its
tokens instead: of its first one, of its last significant one, and of the token where it ends.  Here
is the reading of an entry in this form, with every look at a token and every cut checked, and with
a bound on the turns of its loop.

Each function finds what its counterpart on lists finds (`scanEntry_eq`, `blockAbove_eq`,
`known_eq`), so nothing outside the tokens is looked at.  The places of an entry are in order and
inside the tokens (`within_of_scanEntry`), and an entry of a group is not empty
(`lt_stop_of_scanEntry`).
-/

namespace Scribe.Source

namespace ByPlace

/-! ## Checked looks and cuts -/

/-- Why a reading by place stops. -/
inductive Fault where
  /-- A place outside the tokens. -/
  | outside
  /-- A loop that has used up its turns. -/
  | endless
  | unclosed (e : UnclosedGroup)
  deriving Repr, DecidableEq

/-- The token at a place. -/
def tokenAt (ts : List Token) (i : Nat) : Except Fault Token :=
  match ts[i]? with
  | some t => .ok t
  | none => .error .outside

/-- The tokens from place `i` on, up to before place `j`. -/
def cut (ts : List Token) (i j : Nat) : Except Fault (List Token) :=
  if i ≤ j ∧ j ≤ ts.length then .ok ((ts.drop i).take (j - i)) else .error .outside

/-! ## Places and lists -/

section
variable {α β : Type} {ts taken rest : List Token} {t : Token} {i j : Nat}

theorem ok_bind (a : α) (f : α → Except Fault β) : (Except.ok a >>= f) = f a := rfl

theorem tokenAt_eq (h : ts[i]? = some t) : tokenAt ts i = .ok t := by
  rw [tokenAt, h]

/-- The token at a place is the first of those from there on. -/
theorem getElem?_of_drop (h : ts.drop i = t :: rest) : ts[i]? = some t := by
  rw [← List.head?_drop, h]
  rfl

theorem drop_succ (h : ts.drop i = t :: rest) : ts.drop (i + 1) = rest := by
  rw [← List.drop_drop, h]
  rfl

theorem drop_add_length (h : ts.drop i = taken ++ rest) : ts.drop (i + taken.length) = rest := by
  rw [← List.drop_drop, h, List.drop_left]

theorem take_add_length (h : ts.drop i = taken ++ rest) :
    (ts.take (i + taken.length)).reverse = taken.reverse ++ (ts.take i).reverse := by
  rw [List.take_add, h, List.take_left, List.reverse_append]

theorem length_of_drop (h : ts.drop i = taken ++ rest) (hi : i ≤ ts.length) :
    i + taken.length + rest.length = ts.length := by
  have hlen := congrArg List.length h
  rw [List.length_drop, List.length_append] at hlen
  omega

theorem length_of_drop_cons (h : ts.drop i = t :: rest) : i + 1 + rest.length = ts.length := by
  have hlen := congrArg List.length h
  rw [List.length_drop, List.length_cons] at hlen
  omega

theorem cut_one (hi : i < ts.length) : cut ts i (i + 1) = .ok [ts[i]] := by
  rw [cut, if_pos ⟨Nat.le_succ i, hi⟩, Nat.add_sub_cancel_left, List.drop_eq_getElem_cons hi]
  rfl

/-- A cut of the tokens from a place on. -/
theorem cut_eq (h : ts.drop i = taken ++ rest) (hi : i ≤ ts.length) :
    cut ts i (i + taken.length) = .ok taken := by
  have hlen := length_of_drop h hi
  rw [cut, if_pos ⟨Nat.le_add_right _ _, by omega⟩, Nat.add_sub_cancel_left, h, List.take_left]

theorem cut_eq_drop (hi : i ≤ ts.length) : cut ts i ts.length = .ok (ts.drop i) := by
  rw [cut, if_pos ⟨hi, Nat.le_refl _⟩, ← List.length_drop, List.take_length]

end

/-! ## The end of an entry -/

/-- An entry by the places of its first token and of its last significant one, and by the place
where it ends. -/
structure Entry where
  first : Nat
  last : Nat
  stop : Nat
  deriving Repr, DecidableEq

/-- Looks for the end of the entry that starts at place `first`, from place `i` on, where the tokens
`rest` are left. -/
def scanFrom (ts : List Token) (inGroup : Bool) (first : Nat) :
    (depth last i : Nat) → (rest : List Token) → Except Fault (Option Entry)
  | _, last, _, [] => .ok (if inGroup then none else some ⟨first, last, ts.length⟩)
  | depth, last, i, t :: rest => do
    let ended ←
      (if depth = 0 && t.isNewline then (tokenAt ts last).map Token.endsStatement else .ok false)
    if ended || (depth = 0 && (t.isPunct ';' || t.isPunct ')')) then
      return some ⟨first, last, i⟩
    else
      scanFrom ts inGroup first (t.depthAfter depth) (if t.isSignificant then i else last) (i + 1)
        rest

/-- The entry that starts at place `first`. -/
def scanEntry (ts : List Token) (inGroup : Bool) (first : Nat) : Except Fault (Option Entry) :=
  scanFrom ts inGroup first 0 first first (ts.drop first)

section
variable {ts taken rest : List Token} {inGroup : Bool} {first depth last i : Nat}
  {final : Option Token} {t u : Token}

/-- One turn of the search for the end, where `u` is the token at the last significant place. -/
theorem scanFrom_cons (hu : ts[last]? = some u)
    (hends : t.isNewline → u.endsStatement = final.any Token.endsStatement) :
    scanFrom ts inGroup first depth last i (t :: rest) =
      if decide (depth = 0) && t.endsEntry final then .ok (some ⟨first, last, i⟩)
      else
        scanFrom ts inGroup first (t.depthAfter depth) (if t.isSignificant then i else last)
          (i + 1) rest := by
  rw [scanFrom, tokenAt_eq hu, Token.endsEntry]
  cases hn : t.isNewline with
  | false =>
    rw [Bool.and_false, if_neg Bool.false_ne_true, ok_bind]
    simp only [Bool.false_or, Bool.false_and]
    rfl
  | true =>
    rw [← hends hn, Bool.and_true]
    by_cases hdepth : depth = 0
    · rw [decide_eq_true hdepth, if_pos rfl]
      simp only [Except.map, ok_bind, Bool.true_and, Bool.or_assoc]
      rfl
    · rw [decide_eq_false hdepth, if_neg Bool.false_ne_true, ok_bind]
      simp only [Bool.false_and, Bool.false_or]
      rfl

/-- The place of the last significant token, where the tokens `taken` stand from place `i` on and
`last` is the one before. -/
def lastPlace (last i : Nat) (taken : List Token) : Nat :=
  if entryBody taken = [] then last else i + (entryBody taken).length - 1

theorem lastPlace_cons (last i : Nat) (t : Token) (taken : List Token) :
    lastPlace last i (t :: taken) =
      lastPlace (if t.isSignificant then i else last) (i + 1) taken := by
  rw [lastPlace, lastPlace, entryBody_cons]
  by_cases hbody : entryBody taken = []
  · cases t.isSignificant <;> simp [hbody]
  · simp only [hbody, if_false, List.cons_ne_nil, List.length_cons]
    omega

theorem lastPlace_of_concat {init : List Token} {final : Token}
    (h : entryBody taken = init ++ [final]) (last i : Nat) :
    lastPlace last i taken = i + init.length := by
  rw [lastPlace, if_neg (by simp [h]), h, List.length_append, List.length_singleton]
  omega

/-- The places of an entry that starts at place `first`. -/
def placesOf (first : Nat) (taken : List Token) : Entry :=
  ⟨first, lastPlace first first taken, first + taken.length⟩

/-- Before place `i`, the token at place `last` decides on line ends as the last significant token
`final` does.  At the start of an entry there is none, and `last` is the place that comes next. -/
def Follows (ts : List Token) (last i : Nat) (final : Option Token) : Prop :=
  ∃ u, ts[last]? = some u ∧
    (u.endsStatement = final.any Token.endsStatement ∨ last = i ∧ final = none)

theorem Follows.ends (h : Follows ts last i final) (ht : ts[i]? = some t) :
    ∃ u, ts[last]? = some u ∧
      (t.isSignificant = false → u.endsStatement = final.any Token.endsStatement) := by
  obtain ⟨u, hu, hends | ⟨rfl, rfl⟩⟩ := h
  · exact ⟨u, hu, fun _ => hends⟩
  · obtain rfl := Option.some.inj (hu.symm.trans ht)
    exact ⟨u, hu, Token.endsStatement_of_insignificant⟩

theorem Follows.next (h : Follows ts last i final) (ht : ts[i]? = some t) :
    Follows ts (if t.isSignificant then i else last) (i + 1)
      (if t.isSignificant then some t else final) := by
  cases hsig : t.isSignificant with
  | true => exact ⟨t, ht, .inl rfl⟩
  | false =>
    obtain ⟨u, hu, hends⟩ := h.ends ht
    exact ⟨u, hu, .inl (hends hsig)⟩

theorem scanFrom_eq (hdrop : ts.drop i = rest) (hi : i ≤ ts.length)
    (hfollows : Follows ts last i final) :
    scanFrom ts inGroup first depth last i rest =
      .ok ((takeEntry inGroup depth final rest).map fun p =>
        ⟨first, lastPlace last i p.1, i + p.1.length⟩) := by
  induction rest generalizing depth last i final with
  | nil =>
    have hlen : i = ts.length := Nat.le_antisymm hi (List.drop_eq_nil_iff.1 hdrop)
    cases inGroup
    · rw [scanFrom, ← hlen]
      rfl
    · rfl
  | cons t rest ih =>
    have ht := getElem?_of_drop hdrop
    have hrest := drop_succ hdrop
    have hlen := length_of_drop_cons hdrop
    obtain ⟨u, hu, hends⟩ := hfollows.ends ht
    rw [scanFrom_cons hu fun hn => hends (Token.isSignificant_of_isNewline hn)]
    cases hstop : decide (depth = 0) && t.endsEntry final with
    | true =>
      rw [takeEntry_here hstop]
      rfl
    | false =>
      rw [takeEntry, hstop, if_neg Bool.false_ne_true, if_neg Bool.false_ne_true,
        ih hrest (by omega) (hfollows.next ht), Option.map_map]
      congr 2
      funext p
      simp only [Function.comp_apply, lastPlace_cons, List.length_cons, Nat.add_assoc,
        Nat.add_comm 1]

/-- **The search for the end of an entry** finds what is taken of the list. -/
theorem scanEntry_eq (hfirst : first < ts.length) (inGroup : Bool) :
    scanEntry ts inGroup first =
      .ok ((takeEntry inGroup 0 none (ts.drop first)).map fun p => placesOf first p.1) :=
  scanFrom_eq rfl (Nat.le_of_lt hfirst)
    ⟨ts[first], List.getElem?_eq_getElem hfirst, .inr ⟨rfl, rfl⟩⟩

/-- An entry whose places are in order and inside the tokens. -/
structure Entry.Within (e : Entry) (ts : List Token) (first : Nat) : Prop where
  first_eq : e.first = first
  first_le_last : e.first ≤ e.last
  last_lt : e.last < ts.length
  last_le_stop : e.last ≤ e.stop
  stop_le : e.stop ≤ ts.length

theorem within_placesOf (hfirst : first < ts.length) (h : taken ++ rest = ts.drop first) :
    (placesOf first taken).Within ts first := by
  have hlen := length_of_drop h.symm (Nat.le_of_lt hfirst)
  have hbody := congrArg List.length (entryBody_append_entryTrail taken)
  rw [List.length_append] at hbody
  have hlast : first ≤ lastPlace first first taken ∧ lastPlace first first taken < ts.length ∧
      lastPlace first first taken ≤ first + taken.length := by
    rw [lastPlace]
    split
    · omega
    · rename_i hne
      have := List.length_pos_iff.2 hne
      omega
  exact ⟨rfl, hlast.1, hlast.2.1, hlast.2.2, by simp only [placesOf]; omega⟩

end

/-! ## The block above -/

/-- The comments directly before place `k`, nearest first, and the place that they start at. -/
def commentsBefore (ts : List Token) : (k : Nat) → Except Fault (List Token × Nat)
  | 0 => .ok ([], 0)
  | k + 1 => do
    let t ← tokenAt ts k
    if t.isComment then
      let (more, start) ← commentsBefore ts k
      return (t :: more, start)
    else return ([], k + 1)

/-- The comments of the lines above the line end at place `newline`, nearest first. -/
def linesAbove (ts : List Token) : (turns newline : Nat) → Except Fault (List Token)
  | 0, _ => .error .endless
  | turns + 1, newline => do
    let (onLine, start) ← commentsBefore ts newline
    if onLine = [] then return []
    else
      match start with
      | 0 => return onLine
      | before + 1 =>
        let t ← tokenAt ts before
        if t.isNewline then
          let more ← linesAbove ts turns before
          return onLine ++ more
        else return []

/-- The block of comments above the token at a place. -/
def blockAbove (ts : List Token) : (anchor : Nat) → Except Fault (List Token)
  | 0 => .ok []
  | before + 1 => do
    let t ← tokenAt ts before
    if t.isNewline then
      let found ← linesAbove ts ts.length before
      return found.reverse
    else return []

/-- The block of comments above a place, if one counts. -/
def blockIfAny (ts : List Token) : (anchor : Option Nat) → Except Fault (List Token)
  | none => .ok []
  | some a => blockAbove ts a

section
variable {ts rest : List Token} {t n : Token} {k newline turns a : Nat}

/-- What is left going back from a place is what stands before another. -/
theorem reverse_take_length (h : rest <:+ (ts.take k).reverse) :
    (ts.take rest.length).reverse = rest := by
  have hprefix : rest.reverse <+: ts :=
    (List.reverse_suffix.1 (by rwa [List.reverse_reverse])).trans (List.take_prefix k ts)
  rw [← List.length_reverse, ← List.prefix_iff_eq_take.1 hprefix, List.reverse_reverse]

theorem getElem?_of_reverse_take (h : (ts.take (rest.length + 1)).reverse = t :: rest) :
    ts[rest.length]? = some t := by
  have htake := congrArg List.reverse h
  rw [List.reverse_reverse, List.reverse_cons] at htake
  rw [← List.getElem?_take_of_lt (Nat.lt_succ_self rest.length), htake]
  simp

theorem commentsBefore_eq (hk : k ≤ ts.length) :
    commentsBefore ts k =
      .ok ((ts.take k).reverse.takeWhile Token.isComment,
        ((ts.take k).reverse.dropWhile Token.isComment).length) := by
  induction k with
  | zero => rfl
  | succ k ih =>
    have ht := List.getElem?_eq_getElem (show k < ts.length by omega)
    rw [commentsBefore, tokenAt_eq ht, ok_bind, reverse_take_succ ht]
    cases hcomment : ts[k].isComment with
    | true =>
      rw [if_pos rfl, ih (by omega), List.takeWhile_cons_of_pos hcomment,
        List.dropWhile_cons_of_pos hcomment]
      rfl
    | false =>
      have hnot : ¬ ts[k].isComment := by simp [hcomment]
      rw [if_neg Bool.false_ne_true, List.takeWhile_cons_of_neg hnot,
        List.dropWhile_cons_of_neg hnot, List.length_cons, List.length_reverse,
        List.length_take_of_le (by omega)]
      rfl

/-- **The walk back by place** finds what the walk back over the list finds.  Each turn ends at an
earlier line end. -/
theorem linesAbove_eq (hturns : newline < turns) (hn : ts[newline]? = some n) :
    linesAbove ts turns newline = .ok (commentLinesBack (n :: (ts.take newline).reverse)) := by
  induction turns generalizing newline n with
  | zero => omega
  | succ turns ih =>
    obtain ⟨hlt, -⟩ := List.getElem?_eq_some_iff.1 hn
    rw [linesAbove, commentsBefore_eq (by omega), ok_bind, commentLinesBack_cons]
    dsimp only
    split
    · rfl
    cases hrest : (ts.take newline).reverse.dropWhile Token.isComment with
    | nil => rfl
    | cons x rest =>
      have hsuffix : x :: rest <:+ (ts.take newline).reverse :=
        hrest ▸ List.dropWhile_suffix Token.isComment
      have hback := reverse_take_length hsuffix
      have hx := getElem?_of_reverse_take hback
      have hshort := hsuffix.length_le
      rw [List.length_cons, List.length_reverse, List.length_take_of_le (by omega)] at hshort
      have hmore := ih (show rest.length < turns by omega) hx
      rw [reverse_take_length ((List.suffix_cons x rest).trans hsuffix)] at hmore
      rw [List.length_cons]
      dsimp only
      rw [tokenAt_eq hx, ok_bind]
      split
      · rw [hmore]
        rfl
      · rfl

theorem blockAbove_eq (ha : a ≤ ts.length) :
    blockAbove ts a = .ok (docComments (ts.take a).reverse) := by
  cases a with
  | zero => rfl
  | succ before =>
    have hn := List.getElem?_eq_getElem (show before < ts.length by omega)
    rw [blockAbove, tokenAt_eq hn, ok_bind, reverse_take_succ hn, docComments]
    split
    · rw [linesAbove_eq (by omega) hn]
      rfl
    · rfl

end

/-! ## What is known of an entry -/

/-- What is known of the constant of an entry, where the block above place `anchor` counts. -/
def known (ts : List Token) (e : Entry) (anchor : Option Nat) :
    Except Fault (Option Attribution) := do
  let body ← cut ts e.first (e.last + 1)
  match declaredName body with
  | none => return none
  | some name =>
    let final ← tokenAt ts e.last
    let after ← cut ts (e.last + 1) ts.length
    let trailing := trailingComments final.endLine after
    let comments ← (if trailing = [] then blockIfAny ts anchor else .ok trailing)
    return if comments = [] then none else some ⟨name, comments⟩

section
variable {ts taken rest : List Token} {t : Token} {first : Nat} {inGroup : Bool}

/-- The block above an entry, where one counts that ends above place `anchor`. -/
def docsAbove (ts : List Token) (anchor : Option Nat) : List Token :=
  anchor.elim [] fun a => docComments (ts.take a).reverse

theorem blockIfAny_eq {anchor : Option Nat} (hanchor : ∀ a ∈ anchor, a ≤ ts.length) :
    blockIfAny ts anchor = .ok (docsAbove ts anchor) := by
  cases anchor with
  | none => rfl
  | some a => exact blockAbove_eq (hanchor a rfl)

/-- An entry without a significant token does not start with a name. -/
theorem declaredName_of_entryBody_eq_nil {ts : List Token}
    (htake : takeEntry inGroup 0 none (t :: ts) = some (taken, rest))
    (hbody : entryBody taken = []) : declaredName [t] = none := by
  have hkind : t.kind ≠ .ident := by
    intro hident
    rcases takeEntry_cases htake with ⟨hstop, -, -⟩ | ⟨-, more, rfl, -⟩
    · simp [Token.endsEntry, Token.isPunct, hident] at hstop
    · have hsig : t.isSignificant := by
        simp [Token.isSignificant, Token.isComment, Token.isNewline, hident]
      rw [entryBody_cons, hsig] at hbody
      split at hbody <;> simp at hbody
  simp [declaredName, hkind]

/-- **What is known of an entry by place** is what is known of it. -/
theorem known_eq (hfirst : first < ts.length)
    (htake : takeEntry inGroup 0 none (ts.drop first) = some (taken, rest)) {anchor : Option Nat}
    (hanchor : ∀ a ∈ anchor, a ≤ ts.length) :
    known ts (placesOf first taken) anchor =
      .ok (attribution (docsAbove ts anchor) taken rest) := by
  have hdrop := (takeEntry_append htake).symm
  have hlen := length_of_drop hdrop (Nat.le_of_lt hfirst)
  rcases List.eq_nil_or_concat (entryBody taken) with hnil | ⟨init, final, hbody⟩
  · have ht := List.drop_eq_getElem_cons hfirst
    have hlast : lastPlace first first taken = first := if_pos hnil
    rw [ht] at htake
    rw [known, placesOf]
    dsimp only
    rw [hlast, cut_one hfirst, ok_bind, declaredName_of_entryBody_eq_nil htake hnil,
      attribution_eq_none (by rw [hnil]; rfl)]
    rfl
  · rw [List.concat_eq_append] at hbody
    have hparts : ts.drop first = entryBody taken ++ (entryTrail taken ++ rest) := by
      rw [hdrop, ← List.append_assoc, entryBody_append_entryTrail]
    have hbefore : ts.drop first = init ++ final :: (entryTrail taken ++ rest) := by
      rw [hparts, hbody, List.append_assoc]
      rfl
    have hplace := lastPlace_of_concat hbody first first
    have hfinal := getElem?_of_drop (drop_add_length hbefore)
    have hbodyEnd : first + init.length + 1 = first + (entryBody taken).length := by
      rw [hbody, List.length_append, List.length_singleton, Nat.add_assoc]
    have hend := length_of_drop hparts (Nat.le_of_lt hfirst)
    rw [known, placesOf]
    dsimp only
    rw [hplace, hbodyEnd, cut_eq hparts (Nat.le_of_lt hfirst), ok_bind]
    cases hname : declaredName (entryBody taken) with
    | none =>
      rw [attribution_eq_none hname]
      rfl
    | some name =>
      dsimp only
      rw [tokenAt_eq hfinal, ok_bind, cut_eq_drop (by omega), ok_bind, drop_add_length hparts,
        attribution_eq hbody hname, entryComments]
      split
      · rw [blockIfAny_eq hanchor]
        rfl
      · rename_i htrailing
        rw [ok_bind, if_neg htrailing]
        rfl

end

/-! ## Inside the tokens -/

section
variable {ts : List Token} {t : Token} {inGroup : Bool} {first kw : Nat} {e : Entry}

/-- An entry that is found by place is one that is taken of the list. -/
theorem exists_taken (hfirst : first < ts.length) (h : scanEntry ts inGroup first = .ok (some e)) :
    ∃ taken rest, takeEntry inGroup 0 none (ts.drop first) = some (taken, rest) ∧
      e = placesOf first taken := by
  rw [scanEntry_eq hfirst, Except.ok.injEq, Option.map_eq_some_iff] at h
  obtain ⟨⟨taken, rest⟩, htake, rfl⟩ := h
  exact ⟨taken, rest, htake, rfl⟩

theorem within_of_scanEntry (hfirst : first < ts.length)
    (h : scanEntry ts inGroup first = .ok (some e)) : e.Within ts first := by
  obtain ⟨taken, rest, htake, rfl⟩ := exists_taken hfirst h
  exact within_placesOf hfirst (takeEntry_append htake)

/-- An entry of a group is not empty, so the group goes on further down. -/
theorem lt_stop_of_scanEntry (ht : ts[first]? = some t) (hclose : t.isPunct ')' = false)
    (hskip : (t.isPunct ';' || !t.isSignificant) = false)
    (h : scanEntry ts inGroup first = .ok (some e)) : first < e.stop := by
  obtain ⟨hfirst, rfl⟩ := List.getElem?_eq_some_iff.1 ht
  obtain ⟨taken, rest, htake, rfl⟩ := exists_taken hfirst h
  rw [List.drop_eq_getElem_cons hfirst, takeEntry_start hclose hskip] at htake
  obtain ⟨p, -, hp⟩ := Option.map_eq_some_iff.1 htake
  obtain ⟨rfl, -⟩ := Prod.mk.inj hp
  simp [placesOf]

theorem known_of_within (hfirst : first < ts.length)
    (h : scanEntry ts inGroup first = .ok (some e)) {anchor : Option Nat}
    (hanchor : ∀ a ∈ anchor, a ≤ ts.length) : ∃ found, known ts e anchor = .ok found := by
  obtain ⟨taken, rest, htake, rfl⟩ := exists_taken hfirst h
  exact ⟨_, known_eq hfirst htake hanchor⟩

end

end ByPlace

end Scribe.Source
