import Scribe.Source.Token

/-!
# Kinds of tokens

What the kind of a token decides, and lists of tokens of one kind: line ends (`LineEnds`), and
comments and line ends (`Insignificant`).
-/

namespace Scribe.Source

/-! ## A single token -/

namespace Token

variable {t u : Token}

theorem isComment_congr (h : u.kind = t.kind) : u.isComment = t.isComment := by
  simp [isComment, h]

theorem isNewline_congr (h : u.kind = t.kind) : u.isNewline = t.isNewline := by
  simp [isNewline, h]

theorem isPunct_congr (h : u.kind = t.kind) (c : Char) : u.isPunct c = t.isPunct c := by
  simp [isPunct, h]

theorem isSignificant_congr (h : u.kind = t.kind) : u.isSignificant = t.isSignificant := by
  simp [isSignificant, isComment_congr h, isNewline_congr h]

theorem isSignificant_of_isNewline (h : t.isNewline) : t.isSignificant = false := by
  simp [isSignificant, h]

theorem isSignificant_of_isComment (h : t.isComment) : t.isSignificant = false := by
  simp [isSignificant, h]

theorem isNewline_of_isSignificant (h : t.isSignificant) : t.isNewline = false := by
  simp only [isSignificant, Bool.and_eq_true, Bool.not_eq_true'] at h
  exact h.2

theorem isComment_of_isSignificant (h : t.isSignificant) : t.isComment = false := by
  simp only [isSignificant, Bool.and_eq_true, Bool.not_eq_true'] at h
  exact h.1

theorem isNewline_of_isComment (h : t.isComment) : t.isNewline = false := by
  simp only [isComment, Bool.or_eq_true, decide_eq_true_eq] at h
  rcases h with h | h <;> simp [isNewline, h]

theorem kind_of_isWord {word : List Char} (h : t.isWord word) : t.kind = .ident := by
  simp only [isWord, Bool.and_eq_true, decide_eq_true_eq] at h
  exact h.1

theorem isWord_of_insignificant (h : t.isSignificant = false) (word : List Char) :
    t.isWord word = false := by
  cases hword : t.isWord word with
  | false => rfl
  | true =>
    have hkind : t.kind = .ident ∧ t.text = word := by simpa [isWord] using hword
    simp [isSignificant, isComment, isNewline, hkind.1] at h

theorem isPunct_of_insignificant (h : t.isSignificant = false) (c : Char) :
    t.isPunct c = false := by
  cases hpunct : t.isPunct c with
  | false => rfl
  | true =>
    have hkind : t.kind = .punct c := by simpa [isPunct] using hpunct
    simp [isSignificant, isComment, isNewline, hkind] at h

end Token

/-! ## Line ends and comments -/

variable {t : Token} {ts us : List Token}

/-- Whether all of some tokens are line ends. -/
def LineEnds (ts : List Token) : Prop := ∀ t ∈ ts, t.isNewline

theorem LineEnds.append (h : LineEnds ts) (hus : LineEnds us) : LineEnds (ts ++ us) := by
  intro t ht
  rcases List.mem_append.1 ht with ht | ht
  · exact h t ht
  · exact hus t ht

theorem lineEnds_nil : LineEnds [] := by
  intro t ht
  simp at ht

theorem lineEnds_cons : LineEnds (t :: ts) ↔ t.isNewline ∧ LineEnds ts :=
  List.forall_mem_cons

theorem LineEnds.cons (h : t.isNewline) (hts : LineEnds ts) : LineEnds (t :: ts) :=
  lineEnds_cons.2 ⟨h, hts⟩

/-- Whether all of some tokens are comments and line ends. -/
def Insignificant (ts : List Token) : Prop := ∀ t ∈ ts, t.isSignificant = false

theorem LineEnds.insignificant (h : LineEnds ts) : Insignificant ts := by
  intro t ht
  simp [Token.isSignificant, h t ht]

theorem LineEnds.filter (h : LineEnds ts) : ts.filter (!·.isNewline) = [] := by
  rw [List.filter_eq_nil_iff]
  intro t ht
  simp [h t ht]

end Scribe.Source
