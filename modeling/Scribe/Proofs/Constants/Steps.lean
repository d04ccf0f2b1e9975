import Scribe.Source.Constants
import Scribe.Proofs.Source.Brackets
import Scribe.Proofs.Source.Rows

/-!
# Steps of the reader of constants

What the reader of constants does at one token, function by function: for each step the equation
that takes it (`readGroup_entry`, `readFrom_const`, …), and for each function the steps that a
reading can have begun with (`takeEntry_cases`, `readDeclaration_cases`, …).
-/

namespace Scribe.Source

/-! ## Where an entry ends -/

section
variable {inGroup : Bool} {depth : Nat} {last last' : Option Token} {t u n : Token}
  {ts taken rest a : List Token}

theorem Token.endsStatement_congr (h : u.kind = t.kind) : u.endsStatement = t.endsStatement := by
  simp [endsStatement, h]

theorem Token.endsEntry_congr (h : u.kind = t.kind)
    (hlast : last'.any endsStatement = last.any endsStatement) :
    u.endsEntry last' = t.endsEntry last := by
  simp [endsEntry, isNewline_congr h, isPunct_congr h, hlast]

theorem Token.endsStatement_of_insignificant (h : t.isSignificant = false) :
    t.endsStatement = false := by
  simp only [isSignificant, isComment, isNewline, Bool.and_eq_false_iff, Bool.not_eq_false',
    Bool.or_eq_true, decide_eq_true_eq] at h
  rcases h with (h | h) | h <;> simp [endsStatement, h]

theorem takeEntry_here (h : (decide (depth = 0) && t.endsEntry last) = true) :
    takeEntry inGroup depth last (t :: ts) = some ([], t :: ts) := by
  rw [takeEntry, if_pos h]

theorem takeEntry_more (h : (decide (depth = 0) && t.endsEntry last) = false)
    (htake : takeEntry inGroup (t.depthAfter depth) (if t.isSignificant then some t else last) ts =
      some (taken, rest)) :
    takeEntry inGroup depth last (t :: ts) = some (t :: taken, rest) := by
  rw [takeEntry, h, if_neg (by simp), htake]
  rfl

theorem takeEntry_cases (h : takeEntry inGroup depth last (t :: ts) = some (taken, rest)) :
    ((decide (depth = 0) && t.endsEntry last) = true ∧ taken = [] ∧ rest = t :: ts) ∨
      ((decide (depth = 0) && t.endsEntry last) = false ∧ ∃ more, taken = t :: more ∧
        takeEntry inGroup (t.depthAfter depth) (if t.isSignificant then some t else last) ts =
          some (more, rest)) := by
  rw [takeEntry] at h
  cases hends : decide (depth = 0) && t.endsEntry last with
  | true =>
    rw [hends, if_pos rfl] at h
    obtain ⟨rfl, rfl⟩ := Prod.mk.inj (Option.some.inj h)
    exact .inl ⟨rfl, rfl, rfl⟩
  | false =>
    rw [hends, if_neg (by simp)] at h
    obtain ⟨⟨more, left⟩, hmore, heq⟩ := Option.map_eq_some_iff.1 h
    obtain ⟨rfl, rfl⟩ := Prod.mk.inj heq
    exact .inr ⟨rfl, more, rfl, hmore⟩

/-- The token that an entry of a group starts with belongs to it. -/
theorem takeEntry_start (hclose : t.isPunct ')' = false)
    (hskip : (t.isPunct ';' || !t.isSignificant) = false) :
    takeEntry inGroup 0 none (t :: ts) =
      (takeEntry inGroup (t.depthAfter 0) (some t) ts).map fun p => (t :: p.1, p.2) := by
  obtain ⟨hsemicolon, hsig⟩ := Bool.or_eq_false_iff.1 hskip
  have hstop : (decide (0 = 0) && t.endsEntry none) = false := by
    simp [Token.endsEntry, hclose, hsemicolon]
  rw [takeEntry, hstop, if_neg Bool.false_ne_true, if_pos (by simpa using hsig)]

/-- Comments and line ends inside an entry belong to it. -/
theorem takeEntry_insignificant (ha : Insignificant a)
    (hinside : ∀ t ∈ a, (decide (depth = 0) && t.endsEntry last) = false) :
    takeEntry inGroup depth last (a ++ ts) =
      (takeEntry inGroup depth last ts).map fun (taken, rest) => (a ++ taken, rest) := by
  induction a with
  | nil => simp
  | cons t a ih =>
    obtain ⟨ht, ha⟩ := List.forall_mem_cons.1 ha
    obtain ⟨hstop, hinside⟩ := List.forall_mem_cons.1 hinside
    rw [List.cons_append, takeEntry, hstop, if_neg (by simp),
      Token.depthAfter_of_insignificant ht, if_neg (by simp [ht]), ih ha hinside]
    cases takeEntry inGroup depth last ts <;> rfl

theorem takeEntry_lineEnds (ha : LineEnds a)
    (hends : (decide (depth = 0) && last.any Token.endsStatement) = false) :
    takeEntry inGroup depth last (a ++ ts) =
      (takeEntry inGroup depth last ts).map fun (taken, rest) => (a ++ taken, rest) := by
  apply takeEntry_insignificant ha.insignificant
  intro n hn
  have hkind : n.kind = .newline := by simpa [Token.isNewline] using ha n hn
  simpa [Token.endsEntry, Token.isPunct, ha n hn, hkind] using hends

/-- A line end that ends a statement ends an entry. -/
theorem takeEntry_stop (hn : n.isNewline)
    (hends : (decide (depth = 0) && last.any Token.endsStatement) = true) :
    takeEntry inGroup depth last (n :: ts) = some ([], n :: ts) := by
  apply takeEntry_here
  simp only [Bool.and_eq_true] at hends
  simp [Token.endsEntry, hn, hends.2, of_decide_eq_true hends.1]

/-- Outside a group the end of the source ends an entry. -/
theorem exists_takeEntry (depth : Nat) (last : Option Token) (ts : List Token) :
    ∃ p, takeEntry false depth last ts = some p := by
  induction ts generalizing depth last with
  | nil => exact ⟨_, rfl⟩
  | cons t ts ih =>
    cases hends : decide (depth = 0) && t.endsEntry last with
    | true => exact ⟨_, takeEntry_here hends⟩
    | false =>
      obtain ⟨⟨more, rest⟩, hmore⟩ :=
        ih (t.depthAfter depth) (if t.isSignificant then some t else last)
      exact ⟨_, takeEntry_more hends hmore⟩

end

/-! ## The parts of an entry -/

section
variable {taken a : List Token}

theorem entryBody_cons (t : Token) (taken : List Token) :
    entryBody (t :: taken) =
      if entryBody taken = [] then if t.isSignificant then [t] else []
      else t :: entryBody taken := by
  rw [entryBody, entryBody, List.reverse_cons, List.dropWhile_append]
  by_cases hnil : taken.reverse.dropWhile (!·.isSignificant) = []
  · cases hsig : t.isSignificant <;> simp [hnil, hsig]
  · simp [hnil]

theorem entryBody_of_significant (ha : ∀ t ∈ a, t.isSignificant) : entryBody a = a := by
  have hdrop : a.reverse.dropWhile (!·.isSignificant) = a.reverse := by
    rw [List.dropWhile_eq_self_iff]
    intro hlen
    rw [ha _ (List.mem_reverse.1 (List.getElem_mem hlen))]
    simp
  rw [entryBody, hdrop, List.reverse_reverse]

theorem entryTrail_of_significant (ha : ∀ t ∈ a, t.isSignificant) : entryTrail a = [] := by
  have happend := entryBody_append_entryTrail a
  rw [entryBody_of_significant ha] at happend
  simpa using happend

theorem entryBody_append (ha : Insignificant a) : entryBody (taken ++ a) = entryBody taken := by
  rw [entryBody, List.reverse_append, List.dropWhile_append_of_pos]
  · rfl
  · intro t ht
    simp [ha t (List.mem_reverse.1 ht)]

theorem entryTrail_append (ha : Insignificant a) :
    entryTrail (taken ++ a) = entryTrail taken ++ a := by
  rw [entryTrail, List.reverse_append, List.takeWhile_append_of_pos]
  · rw [List.reverse_append, List.reverse_reverse]
    rfl
  · intro t ht
    simp [ha t (List.mem_reverse.1 ht)]

/-- An entry ends in a significant token, trailing comments and line ends apart. -/
theorem isSignificant_of_entryBody {init : List Token} {final : Token}
    (h : entryBody taken = init ++ [final]) : final.isSignificant := by
  have hlast : (entryBody taken).getLast? = some final := by rw [h, List.getLast?_concat]
  simpa using Text.eq_false_of_dropWhile_reverse hlast

theorem exists_final {name : List Char} (h : declaredName (entryBody taken) = some name) :
    ∃ init final, entryBody taken = init ++ [final] := by
  have hne : entryBody taken ≠ [] := by
    intro hnil
    simp [hnil, declaredName] at h
  obtain ⟨init, final, hfinal⟩ := (List.eq_nil_or_concat (entryBody taken)).resolve_left hne
  exact ⟨init, final, by rw [hfinal, List.concat_eq_append]⟩

end

/-! ## Comments above an entry -/

theorem commentLinesBack_cons (n : Token) (before : List Token) :
    commentLinesBack (n :: before) =
      if before.takeWhile Token.isComment = [] then []
      else
        match before.dropWhile Token.isComment with
        | [] => before.takeWhile Token.isComment
        | t :: rest =>
          if t.isNewline then before.takeWhile Token.isComment ++ commentLinesBack (t :: rest)
          else [] := by
  rw [commentLinesBack]
  split
  · rfl
  · split <;> rename_i heq <;> rw [heq]

/-- An empty line ends the block. -/
theorem commentLinesBack_of_isNewline (n : Token) {n' : Token} (hn' : n'.isNewline)
    (before : List Token) : commentLinesBack (n :: n' :: before) = [] := by
  have hcomment : ¬ n'.isComment := by
    intro h
    simp [Token.isNewline_of_isComment h] at hn'
  rw [commentLinesBack_cons, List.takeWhile_cons_of_neg hcomment, if_pos rfl]

theorem docComments_of_isNewline {n : Token} (hn : n.isNewline) (before : List Token) :
    docComments (n :: before) = (commentLinesBack (n :: before)).reverse := by
  rw [docComments, if_pos hn]

theorem docComments_of_not_isNewline {t : Token} (ht : t.isNewline = false)
    (before : List Token) : docComments (t :: before) = [] := by
  rw [docComments, if_neg (by simp [ht])]

/-! ## What is known of an entry -/

section
variable {docs taken : List Token}

/-- The comments of an entry whose last significant token ends on line `line`. -/
def entryComments (docs : List Token) (line : Nat) (after : List Token) : List Token :=
  if trailingComments line after = [] then docs else trailingComments line after

theorem attribution_eq {init : List Token} {final : Token} {name : List Char}
    (hbody : entryBody taken = init ++ [final]) (hname : declaredName (entryBody taken) = some name)
    (rest : List Token) :
    attribution docs taken rest =
      if entryComments docs final.endLine (entryTrail taken ++ rest) = [] then none
      else some ⟨name, entryComments docs final.endLine (entryTrail taken ++ rest)⟩ := by
  have hlast : (entryBody taken).getLast? = some final := by rw [hbody, List.getLast?_concat]
  simp only [attribution, hname, hlast, Option.bind_eq_bind, Option.bind_some]
  rfl

theorem attribution_eq_none (hname : declaredName (entryBody taken) = none)
    (rest : List Token) : attribution docs taken rest = none := by
  simp only [attribution, hname, Option.bind_eq_bind, Option.bind_none]

end

/-! ## Groups -/

section
variable {openLine : Nat} {t : Token} {ts a before more rest left : List Token}
  {found : List Attribution}

theorem readGroup_close (h : t.isPunct ')') :
    readGroup openLine before (t :: ts) = .ok ([], ts) := by
  rw [readGroup, if_pos h]

theorem readGroup_skip (hclose : t.isPunct ')' = false)
    (hskip : (t.isPunct ';' || !t.isSignificant) = true) :
    readGroup openLine before (t :: ts) = readGroup openLine (t :: before) ts := by
  rw [readGroup, if_neg (by simp [hclose]), if_pos hskip]

theorem readGroup_at_entry (hclose : t.isPunct ')' = false)
    (hskip : (t.isPunct ';' || !t.isSignificant) = false) :
    readGroup openLine before (t :: ts) =
      match takeEntry true (t.depthAfter 0) (some t) ts with
      | none => .error ⟨openLine⟩
      | some (more, rest) =>
        (readGroup openLine ((t :: more).reverse ++ before) rest).map fun (found, left) =>
          ((attribution (docComments before) (t :: more) rest).toList ++ found, left) := by
  rw [readGroup, if_neg (by simp [hclose]), if_neg (by simp [hskip])]
  split
  · rename_i hnone
    rw [hnone]
  · rename_i more rest hsome
    rw [hsome]

theorem readGroup_entry (hclose : t.isPunct ')' = false)
    (hskip : (t.isPunct ';' || !t.isSignificant) = false)
    (htake : takeEntry true (t.depthAfter 0) (some t) ts = some (more, rest))
    (hread : readGroup openLine ((t :: more).reverse ++ before) rest = .ok (found, left)) :
    readGroup openLine before (t :: ts) =
      .ok ((attribution (docComments before) (t :: more) rest).toList ++ found, left) := by
  rw [readGroup_at_entry hclose hskip, htake]
  dsimp only
  rw [hread]
  rfl

theorem exists_of_readGroup_entry (hclose : t.isPunct ')' = false)
    (hskip : (t.isPunct ';' || !t.isSignificant) = false)
    (h : readGroup openLine before (t :: ts) = .ok (found, left)) :
    ∃ more rest found', takeEntry true (t.depthAfter 0) (some t) ts = some (more, rest) ∧
      readGroup openLine ((t :: more).reverse ++ before) rest = .ok (found', left) ∧
      found = (attribution (docComments before) (t :: more) rest).toList ++ found' := by
  rw [readGroup_at_entry hclose hskip] at h
  cases htake : takeEntry true (t.depthAfter 0) (some t) ts with
  | none => simp [htake] at h
  | some p =>
    obtain ⟨more, rest⟩ := p
    rw [htake] at h
    obtain ⟨⟨found', left'⟩, hread, heq⟩ := exists_of_map_eq_ok h
    obtain ⟨rfl, rfl⟩ := Prod.mk.inj heq
    exact ⟨more, rest, found', rfl, hread, rfl⟩

/-- Comments and line ends between the entries of a group are passed over. -/
theorem readGroup_insignificant (ha : Insignificant a) :
    readGroup openLine before (a ++ ts) = readGroup openLine (a.reverse ++ before) ts := by
  induction a generalizing before with
  | nil => rfl
  | cons t a ih =>
    obtain ⟨ht, hmore⟩ := List.forall_mem_cons.1 ha
    rw [List.cons_append, readGroup_skip (Token.isPunct_of_insignificant ht ')') (by simp [ht]),
      ih hmore]
    simp

theorem readGroup_lineEnds (ha : LineEnds a) :
    readGroup openLine before (a ++ ts) = readGroup openLine (a.reverse ++ before) ts :=
  readGroup_insignificant ha.insignificant

end

/-! ## Declarations -/

section
variable {t : Token} {ts more taken rest left : List Token} {found : List Attribution}

theorem readDeclaration_end (h : ts.dropWhile (!·.isSignificant) = []) :
    readDeclaration ts = .ok ([], []) := by
  rw [readDeclaration, h]

theorem readDeclaration_group (h : ts.dropWhile (!·.isSignificant) = t :: more)
    (hopen : t.isPunct '(') : readDeclaration ts = readGroup t.line [t] more := by
  rw [readDeclaration, h]
  exact if_pos hopen

theorem readDeclaration_alone (h : ts.dropWhile (!·.isSignificant) = t :: more)
    (hopen : t.isPunct '(' = false)
    (htake : takeEntry false 0 none (t :: more) = some (taken, rest)) :
    readDeclaration ts = .ok ((attribution [] taken rest).toList, rest) := by
  rw [readDeclaration, h]
  dsimp only
  rw [if_neg (by simp [hopen]), htake]

theorem readDeclaration_cases (h : readDeclaration ts = .ok (found, left)) :
    (ts.dropWhile (!·.isSignificant) = [] ∧ found = [] ∧ left = []) ∨
      (∃ t more, ts.dropWhile (!·.isSignificant) = t :: more ∧ t.isPunct '(' ∧
        readGroup t.line [t] more = .ok (found, left)) ∨
      ∃ t more taken, ts.dropWhile (!·.isSignificant) = t :: more ∧ t.isPunct '(' = false ∧
        takeEntry false 0 none (t :: more) = some (taken, left) ∧
        found = (attribution [] taken left).toList := by
  cases hts : ts.dropWhile (!·.isSignificant) with
  | nil =>
    rw [readDeclaration_end hts] at h
    obtain ⟨rfl, rfl⟩ := Prod.mk.inj (Except.ok.inj h)
    exact .inl ⟨rfl, rfl, rfl⟩
  | cons t more =>
    cases hopen : t.isPunct '(' with
    | true =>
      rw [readDeclaration_group hts hopen] at h
      exact .inr (.inl ⟨t, more, rfl, hopen, h⟩)
    | false =>
      obtain ⟨⟨taken, rest⟩, htake⟩ := exists_takeEntry 0 none (t :: more)
      rw [readDeclaration_alone hts hopen htake] at h
      obtain ⟨rfl, rfl⟩ := Prod.mk.inj (Except.ok.inj h)
      exact .inr (.inr ⟨t, more, taken, rfl, hopen, htake, rfl⟩)

end

/-! ## Files -/

section
variable {depth : Nat} {t : Token} {ts a rest : List Token} {found : List Attribution}
  {r : Reading}

theorem readFrom_at_const (h : t.isWord "const".toList) :
    readFrom 0 (t :: ts) =
      match readDeclaration ts with
      | .error e => .error e
      | .ok (found, rest) =>
        (readFrom 0 rest).map fun r => { r with attributions := found ++ r.attributions } := by
  rw [readFrom, if_pos (by rw [h]; rfl)]
  split
  · rename_i herror
    rw [herror]
  · rename_i found rest hok
    rw [hok]

theorem readFrom_const (h : t.isWord "const".toList)
    (hdecl : readDeclaration ts = .ok (found, rest)) (hread : readFrom 0 rest = .ok r) :
    readFrom 0 (t :: ts) = .ok { r with attributions := found ++ r.attributions } := by
  rw [readFrom_at_const h, hdecl]
  dsimp only
  rw [hread]
  rfl

theorem exists_of_readFrom_const (hconst : t.isWord "const".toList)
    (h : readFrom 0 (t :: ts) = .ok r) :
    ∃ found rest r', readDeclaration ts = .ok (found, rest) ∧ readFrom 0 rest = .ok r' ∧
      r = { r' with attributions := found ++ r'.attributions } := by
  rw [readFrom_at_const hconst] at h
  cases hdecl : readDeclaration ts with
  | error e => simp [hdecl] at h
  | ok p =>
    obtain ⟨found, rest⟩ := p
    rw [hdecl] at h
    obtain ⟨r', hread, rfl⟩ := exists_of_map_eq_ok h
    exact ⟨found, rest, r', rfl, hread, rfl⟩

/-- The package that a token at a nesting depth begins the clause of. -/
def packageAt (depth : Nat) (t : Token) (ts : List Token) : Option (List Char) :=
  if depth = 0 && t.isWord "package".toList then packageClause ts else none

theorem readFrom_other (h : (decide (depth = 0) && t.isWord "const".toList) = false) :
    readFrom depth (t :: ts) = (readFrom (t.depthAfter depth) ts).map fun r =>
      { r with package := packageAt depth t ts <|> r.package } := by
  rw [readFrom, if_neg (by rw [h]; exact Bool.false_ne_true)]
  rfl

/-- Comments and line ends between declarations are passed over. -/
theorem readFrom_insignificant (ha : Insignificant a) :
    readFrom depth (a ++ ts) = readFrom depth ts := by
  induction a with
  | nil => rfl
  | cons t a ih =>
    obtain ⟨ht, hmore⟩ := List.forall_mem_cons.1 ha
    have hword := Token.isWord_of_insignificant ht
    have hpackage : packageAt depth t (a ++ ts) = none := by
      simp [packageAt, hword]
    rw [List.cons_append, readFrom_other (by simp [hword]), hpackage,
      Token.depthAfter_of_insignificant ht, ih hmore]
    cases readFrom depth ts <;> rfl

theorem readFrom_lineEnds (ha : LineEnds a) : readFrom depth (a ++ ts) = readFrom depth ts :=
  readFrom_insignificant ha.insignificant

theorem readConstants_eq_ok {s : List Char} {f : ConstantFile} :
    readConstants s = .ok f ↔
      ∃ ts r, tokenize s = .ok ts ∧ readFrom 0 ts = .ok r ∧ r.toConstantFile = f := by
  rw [readConstants]
  cases tokenize s with
  | error e => simp
  | ok ts => cases hr : readFrom 0 ts <;> simp [hr]

end

end Scribe.Source
