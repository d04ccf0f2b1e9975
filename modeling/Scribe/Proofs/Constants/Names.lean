import Scribe.Proofs.Constants.Steps
import Scribe.Proofs.Source.Spelling

/-!
# The names of constants

Whatever a source contains, the names that the reader of constants finds comments for are
identifiers (`isWord_of_mem_comments`): each is the text of an identifier among the tokens.  So a
name can be written into another source as it stands.
-/

namespace Scribe.Source

open Scribe.Text

variable {ts taken rest left before : List Token} {t : Token} {found : List Attribution}

/-! ## Names among tokens -/

/-- Some tokens hold an identifier with the name of a constant. -/
def Attribution.NamedIn (a : Attribution) (ts : List Token) : Prop :=
  ∃ t ∈ ts, t.kind = .ident ∧ t.text = a.name

theorem Attribution.NamedIn.mono {a : Attribution} {us : List Token} (h : a.NamedIn ts)
    (hsub : ts ⊆ us) : a.NamedIn us := by
  obtain ⟨t, ht, hname⟩ := h
  exact ⟨t, hsub ht, hname⟩

theorem exists_of_declaredName {body : List Token} {name : List Char}
    (h : declaredName body = some name) : ∃ t ∈ body, t.kind = .ident ∧ t.text = name := by
  unfold declaredName at h
  split at h
  · simp at h
  · split at h
    · rename_i t more hname
      simp only [Bool.and_eq_true, decide_eq_true_eq] at hname
      exact ⟨t, List.mem_cons_self, hname.1.1, Option.some.inj h⟩
    · simp at h

theorem namedIn_of_attribution {docs : List Token} {a : Attribution}
    (h : attribution docs taken rest = some a) : a.NamedIn taken := by
  cases hname : declaredName (entryBody taken) with
  | none =>
    rw [attribution_eq_none hname] at h
    simp at h
  | some name =>
    obtain ⟨init, final, hbody⟩ := exists_final hname
    rw [attribution_eq hbody hname] at h
    split at h
    · simp at h
    · obtain rfl := Option.some.inj h
      obtain ⟨t, ht, hident⟩ := exists_of_declaredName hname
      refine ⟨t, ?_, hident⟩
      rw [← entryBody_append_entryTrail taken]
      exact List.mem_append_left _ ht

/-! ## Names in declarations -/

/-- What a step of the reader finds and leaves is among the tokens that it was given. -/
def FoundIn (ts : List Token) (found : List Attribution) (left : List Token) : Prop :=
  (∀ a ∈ found, a.NamedIn ts) ∧ left ⊆ ts

theorem FoundIn.mono {us : List Token} (h : FoundIn ts found left) (hsub : ts ⊆ us) :
    FoundIn us found left :=
  ⟨fun a ha => (h.1 a ha).mono hsub, List.Subset.trans h.2 hsub⟩

/-- An entry, and what is found after it. -/
theorem FoundIn.entry (docs : List Token) (htaken : taken ++ rest ⊆ ts)
    (h : FoundIn rest found left) :
    FoundIn ts ((attribution docs taken rest).toList ++ found) left := by
  have hrest : rest ⊆ ts := fun u hu => htaken (List.mem_append_right _ hu)
  refine ⟨?_, List.Subset.trans h.2 hrest⟩
  intro a ha
  rcases List.mem_append.1 ha with ha | ha
  · have hnamed := namedIn_of_attribution (Option.mem_toList.1 ha)
    exact hnamed.mono fun u hu => htaken (List.mem_append_left _ hu)
  · exact (h.1 a ha).mono hrest

theorem readGroup_foundIn {openLine : Nat}
    (h : readGroup openLine before ts = .ok (found, left)) : FoundIn ts found left := by
  induction hlen : ts.length using Nat.strong_induction_on generalizing ts before found left with
  | h len ih =>
    cases ts with
    | nil => simp [readGroup] at h
    | cons t ts =>
      have hsub : ts ⊆ t :: ts := List.subset_cons_self t ts
      rw [List.length_cons] at hlen
      cases hclose : t.isPunct ')' with
      | true =>
        rw [readGroup_close hclose] at h
        obtain ⟨rfl, rfl⟩ := Prod.mk.inj (Except.ok.inj h)
        exact ⟨by simp, hsub⟩
      | false =>
        cases hskip : t.isPunct ';' || !t.isSignificant with
        | true =>
          rw [readGroup_skip hclose hskip] at h
          exact (ih ts.length (by omega) h rfl).mono hsub
        | false =>
          obtain ⟨more, rest, found', htake, hread, rfl⟩ :=
            exists_of_readGroup_entry hclose hskip h
          have hshort := takeEntry_length htake
          have happend := takeEntry_append htake
          have hrest := ih rest.length (by omega) hread rfl
          exact hrest.entry _ (by rw [List.cons_append, happend]; exact List.Subset.refl _)

theorem readDeclaration_foundIn (h : readDeclaration ts = .ok (found, left)) :
    FoundIn ts found left := by
  have hdrop : ts.dropWhile (!·.isSignificant) ⊆ ts := (List.dropWhile_sublist _).subset
  obtain ⟨-, rfl, rfl⟩ | ⟨t, more, hts, -, hread⟩ | ⟨t, more, taken, hts, -, htake, rfl⟩ :=
    readDeclaration_cases h
  · exact ⟨by simp, by simp⟩
  · rw [hts] at hdrop
    exact (readGroup_foundIn hread).mono fun u hu => hdrop (List.mem_cons_of_mem _ hu)
  · rw [hts, ← takeEntry_append htake] at hdrop
    have hnone : FoundIn left [] left := ⟨by simp, List.Subset.refl _⟩
    have hentry := hnone.entry [] hdrop
    rw [List.append_nil] at hentry
    exact hentry

/-- Every constant of a file is named by an identifier of the file. -/
theorem readFrom_named {depth : Nat} {r : Reading} (h : readFrom depth ts = .ok r) :
    ∀ a ∈ r.attributions, a.NamedIn ts := by
  induction hlen : ts.length using Nat.strong_induction_on generalizing ts depth r with
  | h len ih =>
    cases ts with
    | nil =>
      rw [readFrom] at h
      obtain rfl := Except.ok.inj h
      simp
    | cons t ts =>
      have hsub : ts ⊆ t :: ts := List.subset_cons_self t ts
      rw [List.length_cons] at hlen
      cases hconst : decide (depth = 0) && t.isWord "const".toList with
      | true =>
        rw [Bool.and_eq_true, decide_eq_true_eq] at hconst
        obtain ⟨rfl, hword⟩ := hconst
        obtain ⟨found, rest, r', hdecl, hread, rfl⟩ := exists_of_readFrom_const hword h
        obtain ⟨hfound, hrest⟩ := readDeclaration_foundIn hdecl
        have hshort := readDeclaration_length hdecl
        have hmore := ih rest.length (by omega) hread rfl
        intro a ha
        rcases List.mem_append.1 ha with ha | ha
        · exact (hfound a ha).mono hsub
        · exact (hmore a ha).mono (List.Subset.trans hrest hsub)
      | false =>
        rw [readFrom_other hconst] at h
        obtain ⟨r', hread, rfl⟩ := exists_of_map_eq_ok h
        have hmore := ih ts.length (by omega) hread rfl
        intro a ha
        exact (hmore a ha).mono hsub

/-! ## Names in files -/

theorem Comments.mem_of_mem_ofList {pairs : List (String × String)} {e : String × String}
    (h : e ∈ (Comments.ofList pairs).entries) : e ∈ pairs := by
  have hfold : ∀ (pairs : List (String × String)) (c : Comments),
      e ∈ (pairs.foldl (fun c e => c.insert e.1 e.2) c).entries → e ∈ pairs ∨ e ∈ c.entries := by
    intro pairs
    induction pairs with
    | nil => exact fun c h => .inr h
    | cons p pairs ih =>
      intro c h
      rcases ih (c.insert p.1 p.2) h with h | h
      · exact .inl (List.mem_cons_of_mem _ h)
      · rcases mem_insertEntry h with rfl | h
        · exact .inl List.mem_cons_self
        · exact .inr h
  exact (hfold pairs .empty h).resolve_right (by simp [Comments.empty])

theorem isWord_of_mem_tokenize {s : List Char} (h : tokenize s = .ok ts) (ht : t ∈ ts)
    (hkind : t.kind = .ident) : IsWord t.text := by
  obtain ⟨R, hR, -, rfl⟩ := exists_rows h
  have hrow : ∀ (line : Nat) (r : Row), r.IsWellCut → t ∈ tokensOf line r.pieces →
      IsWord t.text := by
    intro line r hr hmem
    have hface : t.face ∈ r.pieces.map fun p => (p.kind, p.text) := by
      rw [← map_face_tokensOf line]
      exact List.mem_map_of_mem hmem
    obtain ⟨p, hp, hface⟩ := List.mem_map.1 hface
    obtain ⟨hpkind, hptext⟩ := Prod.mk.inj hface
    obtain ⟨-, -, next, hfits⟩ := hr.1.mem hp
    rw [hpkind, hptext, hkind] at hfits
    exact isWord_iff.2 hfits.at_lineEnd
  have hrows : ∀ (R : Rows) (line : Nat), R.IsWellCut → t ∈ R.tokens line → IsWord t.text := by
    intro R
    induction R with
    | last r => exact fun line hR hmem => hrow line r hR hmem
    | cons r rows ih =>
      intro line hR hmem
      rcases List.mem_append.1 hmem with hmem | hmem
      · exact hrow line r hR.1 hmem
      rcases List.mem_cons.1 hmem with rfl | hmem
      · simp [lineEnd] at hkind
      · exact ih _ hR.2 hmem
  exact hrows R 1 hR ht

/-- **The names that comments are found for are identifiers.** -/
theorem isWord_of_mem_comments {s : List Char} {file : ConstantFile}
    (h : readConstants s = .ok file) : ∀ e ∈ file.comments.entries, IsWord e.1.toList := by
  unfold readConstants at h
  split at h
  · simp at h
  rename_i ts hts
  split at h
  · simp at h
  rename_i r hr
  obtain rfl := Except.ok.inj h
  intro e he
  obtain ⟨a, ha, rfl⟩ := List.mem_map.1 (Comments.mem_of_mem_ofList he)
  obtain ⟨t, ht, hkind, hname⟩ := readFrom_named hr a ha
  have hword := isWord_of_mem_tokenize hts ht hkind
  rw [hname] at hword
  simpa using hword

end Scribe.Source
