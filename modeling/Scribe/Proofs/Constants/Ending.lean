import Scribe.Proofs.Constants.Reading

/-!
# What follows the end of a list of tokens

An entry, a group or a declaration that ends before the end of a list of tokens does not see what
follows the list (`readDeclaration_append`).  The comments beside an entry are the one thing that
could reach further, and they stop at a line end, so it is enough that a line end comes last in the
list or first after it (`Apart`).

Line ends after the last token make no difference to the constants of a source at all
(`readFrom_append_lineEnds`).  They can become part of the last entry, or be left after it, but the
reader looks neither at line ends after the last significant token of an entry nor past the first of
them.
-/

namespace Scribe.Source

variable {inGroup : Bool} {depth openLine : Nat} {last : Option Token}
  {ts taken rest a b docs before : List Token}

/-! ## Entries -/

/-- An entry that ends before the end of a list of tokens does not see what follows the list. -/
theorem takeEntry_append_of_ne_nil (h : takeEntry inGroup depth last ts = some (taken, rest))
    (hne : rest ≠ []) (after : List Token) :
    takeEntry inGroup depth last (ts ++ after) = some (taken, rest ++ after) := by
  induction ts generalizing depth last taken with
  | nil =>
    cases inGroup with
    | true => simp [takeEntry] at h
    | false =>
      obtain ⟨-, rfl⟩ := Prod.mk.inj (Option.some.inj h)
      exact absurd rfl hne
  | cons t ts ih =>
    rcases takeEntry_cases h with ⟨hstop, rfl, rfl⟩ | ⟨hmore, more, rfl, hinner⟩
    · exact takeEntry_here hstop
    · exact takeEntry_more hmore (ih hinner)

/-- In a group something is left after an entry. -/
theorem rest_ne_nil_of_takeEntry (h : takeEntry true depth last ts = some (taken, rest)) :
    rest ≠ [] := by
  induction ts generalizing depth last taken with
  | nil => simp [takeEntry] at h
  | cons t ts ih =>
    rcases takeEntry_cases h with ⟨-, -, rfl⟩ | ⟨-, more, -, hinner⟩
    · exact List.cons_ne_nil t ts
    · exact ih hinner

/-- An entry that ends with a list of tokens takes line ends that follow, or leaves them. -/
theorem takeEntry_append_lineEnds (hb : LineEnds b)
    (h : takeEntry inGroup depth last ts = some (taken, [])) :
    ∃ b₁ b₂, b = b₁ ++ b₂ ∧ takeEntry inGroup depth last (ts ++ b) = some (taken ++ b₁, b₂) := by
  induction ts generalizing depth last taken with
  | nil =>
    cases inGroup with
    | true => simp [takeEntry] at h
    | false =>
      obtain ⟨rfl, -⟩ := Prod.mk.inj (Option.some.inj h)
      cases hends : decide (depth = 0) && last.any Token.endsStatement with
      | false =>
        refine ⟨b, [], (List.append_nil b).symm, ?_⟩
        have htake : takeEntry false depth last (b ++ []) = _ := takeEntry_lineEnds hb hends
        simpa [takeEntry] using htake
      | true =>
        refine ⟨[], b, rfl, ?_⟩
        cases b with
        | nil => rfl
        | cons n b => exact takeEntry_stop (lineEnds_cons.1 hb).1 hends
  | cons t ts ih =>
    rcases takeEntry_cases h with ⟨-, -, hnil⟩ | ⟨hmore, more, rfl, hinner⟩
    · exact absurd hnil (List.cons_ne_nil t ts).symm
    · obtain ⟨b₁, b₂, hsplit, htake⟩ := ih hinner
      exact ⟨b₁, b₂, hsplit, takeEntry_more hmore htake⟩

/-! ## What is known of an entry -/

/-- Nothing that follows some tokens stands on the line where they leave off: a line end is the last
of them, or comes next. -/
def Apart (ts b : List Token) : Prop :=
  (∀ n ∈ ts.getLast?, n.isNewline) ∨ b.takeWhile (!·.isNewline) = []

theorem Apart.suffix (h : Apart (ts ++ rest) b) : Apart rest b := by
  refine h.imp_left ?_
  intro hend n hn
  apply hend n
  rw [List.getLast?_append, hn]
  rfl

theorem LineEnds.takeWhile (hb : LineEnds b) : b.takeWhile (!·.isNewline) = [] := by
  cases b with
  | nil => rfl
  | cons n b => exact List.takeWhile_cons_of_neg (by simp [(lineEnds_cons.1 hb).1])

theorem takeWhile_append_of_newline
    (h : (∃ n ∈ ts, n.isNewline) ∨ b.takeWhile (!·.isNewline) = []) :
    (ts ++ b).takeWhile (!·.isNewline) = ts.takeWhile (!·.isNewline) := by
  rw [List.takeWhile_append]
  split
  · rename_i hlen
    have hall : ts.takeWhile (!·.isNewline) = ts := (List.takeWhile_prefix _).eq_of_length hlen
    rcases h with ⟨n, hn, hnewline⟩ | hnil
    · rw [← hall] at hn
      have hmem := List.mem_takeWhile_imp hn
      simp [hnewline] at hmem
    · rw [hnil, List.append_nil, hall]
  · rfl

/-- What follows the tokens after an entry is not looked at. -/
theorem attribution_append (h : Apart rest b) (hne : rest ≠ []) (docs taken : List Token) :
    attribution docs taken (rest ++ b) = attribution docs taken rest := by
  have hafter : ∀ line, trailingComments line (entryTrail taken ++ (rest ++ b)) =
      trailingComments line (entryTrail taken ++ rest) := by
    intro line
    unfold trailingComments
    rw [← List.append_assoc, takeWhile_append_of_newline]
    refine h.imp_left ?_
    intro hend
    have hlast := List.getLast?_eq_some_getLast hne
    exact ⟨_, List.mem_append_right _ (List.getLast_mem hne), hend _ hlast⟩
  simp only [attribution, hafter]

/-- Line ends at the end of an entry, or after it, do not matter. -/
theorem attribution_append_lineEnds (docs taken : List Token) (ha : LineEnds a) (hb : LineEnds b) :
    attribution docs (taken ++ a) b = attribution docs taken [] := by
  have hafter : ∀ line, trailingComments line (entryTrail (taken ++ a) ++ b) =
      trailingComments line (entryTrail taken ++ []) := by
    intro line
    unfold trailingComments
    rw [entryTrail_append ha.insignificant, List.append_nil, List.append_assoc,
      takeWhile_append_of_newline (.inr (ha.append hb).takeWhile)]
  simp only [attribution, entryBody_append ha.insignificant, hafter]

/-! ## Groups, declarations and files -/

/-- A group is closed before what follows it, and what follows is left. -/
theorem readGroup_append (hb : Apart ts b) {found : List Attribution} {left : List Token}
    (h : readGroup openLine before ts = .ok (found, left)) :
    readGroup openLine before (ts ++ b) = .ok (found, left ++ b) := by
  fun_induction readGroup openLine before ts generalizing found left with
  | case1 => simp at h
  | case2 before t ts hclose =>
    obtain ⟨rfl, rfl⟩ := Prod.mk.inj (Except.ok.inj h)
    exact readGroup_close hclose
  | case3 before t ts hclose hskip ih =>
    have hrest : Apart ([t] ++ ts) b := hb
    rw [List.cons_append, readGroup_skip (by simpa using hclose) hskip]
    exact ih hrest.suffix h
  | case4 => simp at h
  | case5 before t ts hclose hskip more rest htake ih =>
    obtain ⟨⟨found₀, left₀⟩, hgroup, heq⟩ := exists_of_map_eq_ok h
    obtain ⟨rfl, rfl⟩ := Prod.mk.inj heq
    rw [← takeEntry_append htake, ← List.cons_append] at hb
    have hne := rest_ne_nil_of_takeEntry htake
    have htake' := takeEntry_append_of_ne_nil htake hne b
    have hentry := readGroup_entry (by simpa using hclose) (by simpa using hskip) htake'
      (ih hb.suffix hgroup)
    rw [attribution_append hb.suffix hne] at hentry
    exact hentry

/-- The first significant token stays the first. -/
theorem dropWhile_append_of_cons {t : Token} {more : List Token}
    (hts : ts.dropWhile (!·.isSignificant) = t :: more) (b : List Token) :
    (ts ++ b).dropWhile (!·.isSignificant) = t :: (more ++ b) := by
  rw [List.dropWhile_append, hts]
  rfl

theorem dropWhile_append_of_nil (hts : ts.dropWhile (!·.isSignificant) = []) (hb : LineEnds b) :
    (ts ++ b).dropWhile (!·.isSignificant) = [] := by
  have hnil : b.dropWhile (!·.isSignificant) = [] := by
    rw [List.dropWhile_eq_nil_iff]
    intro n hn
    simp [hb.insignificant n hn]
  rw [List.dropWhile_append, hts, hnil]
  rfl

/-- A declaration that ends before a list of tokens does not see what follows the list. -/
theorem readDeclaration_append (hb : Apart ts b) {found : List Attribution} {left : List Token}
    (h : readDeclaration ts = .ok (found, left)) (hne : left ≠ []) :
    readDeclaration (ts ++ b) = .ok (found, left ++ b) := by
  have hsplit := List.takeWhile_append_dropWhile (p := fun t => !t.isSignificant) (l := ts)
  rcases readDeclaration_cases h with
    ⟨-, -, rfl⟩ | ⟨t, more, hts, hopen, hgroup⟩ | ⟨t, more, taken, hts, hopen, htake, rfl⟩
  · exact absurd rfl hne
  · rw [hts, List.append_cons] at hsplit
    rw [← hsplit] at hb
    rw [readDeclaration_group (dropWhile_append_of_cons hts b) hopen]
    exact readGroup_append hb.suffix hgroup
  · rw [hts, ← takeEntry_append htake, ← List.append_assoc] at hsplit
    rw [← hsplit] at hb
    have htake' := takeEntry_append_of_ne_nil htake hne b
    have halone := readDeclaration_alone (dropWhile_append_of_cons hts b) hopen htake'
    rw [attribution_append hb.suffix hne] at halone
    exact halone

theorem readDeclaration_append_lineEnds (hb : LineEnds b) {found : List Attribution}
    {left : List Token} (h : readDeclaration ts = .ok (found, left)) :
    ∃ b', LineEnds b' ∧ readDeclaration (ts ++ b) = .ok (found, left ++ b') := by
  have hapart : ∀ us, Apart us b := fun us => .inr hb.takeWhile
  rcases readDeclaration_cases h with
    ⟨hts, rfl, rfl⟩ | ⟨t, more, hts, hopen, hgroup⟩ | ⟨t, more, taken, hts, hopen, htake, rfl⟩
  · exact ⟨[], lineEnds_nil, readDeclaration_end (dropWhile_append_of_nil hts hb)⟩
  · rw [readDeclaration_group (dropWhile_append_of_cons hts b) hopen]
    exact ⟨b, hb, readGroup_append (hapart more) hgroup⟩
  · cases left with
    | cons k rest =>
      exact ⟨b, hb, readDeclaration_append (hapart ts) h (List.cons_ne_nil k rest)⟩
    | nil =>
      obtain ⟨b₁, b₂, rfl, htake'⟩ := takeEntry_append_lineEnds hb htake
      have hb₁ : LineEnds b₁ := by
        intro n hn
        exact hb n (List.mem_append_left _ hn)
      have hb₂ : LineEnds b₂ := by
        intro n hn
        exact hb n (List.mem_append_right _ hn)
      rw [← attribution_append_lineEnds [] taken hb₁ hb₂]
      exact ⟨b₂, hb₂, readDeclaration_alone (dropWhile_append_of_cons hts _) hopen htake'⟩

theorem packageAt_append_lineEnds (hb : LineEnds b) (t : Token) :
    packageAt depth t (ts ++ b) = packageAt depth t ts := by
  have hclause : packageClause (ts ++ b) = packageClause ts := by
    rw [packageClause, packageClause]
    cases hts : ts.dropWhile (!·.isSignificant) with
    | cons u more => rw [dropWhile_append_of_cons hts b]
    | nil => rw [dropWhile_append_of_nil hts hb]
  rw [packageAt, packageAt, hclause]

/-- **Line ends at the end of a source make no difference.** -/
theorem readFrom_append_lineEnds (hb : LineEnds b) {r : Reading}
    (h : readFrom depth ts = .ok r) : readFrom depth (ts ++ b) = .ok r := by
  induction hlen : ts.length using Nat.strong_induction_on generalizing ts b depth r with
  | h len ih =>
    cases ts with
    | nil =>
      rw [List.nil_append, ← List.append_nil b, readFrom_lineEnds hb]
      exact h
    | cons t ts =>
      rw [List.length_cons] at hlen
      rw [List.cons_append]
      cases hconst : decide (depth = 0) && t.isWord "const".toList with
      | true =>
        obtain ⟨hzero, hconst⟩ := Bool.and_eq_true_iff.1 hconst
        obtain rfl := of_decide_eq_true hzero
        obtain ⟨found, rest, r₀, hdecl, hr₀, rfl⟩ := exists_of_readFrom_const hconst h
        obtain ⟨b', hb', hdecl'⟩ := readDeclaration_append_lineEnds hb hdecl
        have hshort := readDeclaration_length hdecl
        exact readFrom_const hconst hdecl' (ih rest.length (by omega) hb' hr₀ rfl)
      | false =>
        rw [readFrom_other hconst] at h ⊢
        obtain ⟨r₀, hr₀, rfl⟩ := exists_of_map_eq_ok h
        rw [ih ts.length (by omega) hb hr₀ rfl, packageAt_append_lineEnds hb]
        rfl

end Scribe.Source
