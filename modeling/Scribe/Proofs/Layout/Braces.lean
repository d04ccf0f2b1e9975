import Scribe.Proofs.Layout.InPlace

/-!
# What stands between braces

How a reader of tokens finds the entries of a generated declaration: it looks for the words that the
declaration begins with (`fromWords`), goes on to the next opening brace, takes the tokens up to the
brace that closes it (`untilClosed`), and cuts them at the line ends (`bracesAfter`).

On lines that are written one entry each, with the braces on the lines around them, it finds one
line for each entry (`bracesAfter_tokensOn`).  That the words do not occur above is checked line by
line, since tokens one after the other stand on one line (`infix_tokensOn_iff`).
-/

namespace Scribe.Source

/-! ## The reader -/

/-- The tokens from the first place on where some words stand one after the other. -/
def fromWords (words : List (List Char)) : List Token → Option (List Token)
  | [] => none
  | t :: ts =>
    if (words.map Face.word).isPrefixOf ((t :: ts).map Token.face) then some (t :: ts)
    else fromWords words ts

/-- The tokens before the closing bracket of the innermost bracket that is open; `depth` brackets
have been opened since. -/
def untilClosed (depth : Nat) : List Token → Option (List Token)
  | [] => none
  | t :: ts =>
    if depth = 0 && t.isClose then some []
    else (untilClosed (t.depthAfter depth) ts).map (t :: ·)

/-- The lines between the braces that are opened first after some words, a line being what stands
between two line ends. -/
def bracesAfter (words : List (List Char)) (ts : List Token) : Option (List (List Face)) :=
  match fromWords words ts with
  | none => none
  | some rest =>
    match rest.dropWhile (!·.isPunct '{') with
    | [] => none
    | _ :: body => (untilClosed 0 body).map fun inside =>
      (inside.splitOnP Token.isNewline).map (List.map Token.face)

/-! ## Tokens on a line -/

theorem map_face_line (fs : List Face) (line : Nat) (ts : List Token) :
    (fs.map (Face.on line) ++ lineEnd line :: ts).map Token.face =
      fs ++ (lineEnd line).face :: ts.map Token.face := by
  rw [List.map_append, map_face_on, List.map_cons]

/-- What begins on a line, and is no line end, stands on that line. -/
theorem prefix_line_iff {run : List Face} (h : ∀ f ∈ run, f.1 ≠ .newline) (fs : List Face)
    (line : Nat) (ts : List Token) :
    run <+: (fs.map (Face.on line) ++ lineEnd line :: ts).map Token.face ↔ run <+: fs := by
  rw [map_face_line]
  induction run generalizing fs with
  | nil => simp
  | cons g run ih =>
    obtain ⟨hg, hrun⟩ := List.forall_mem_cons.1 h
    cases fs with
    | nil =>
      have hne : g ≠ (lineEnd line).face := by
        rintro rfl
        exact hg rfl
      simp [List.cons_prefix_cons, hne]
    | cons f fs => rw [List.cons_append, List.cons_prefix_cons, List.cons_prefix_cons, ih hrun]

theorem infix_line_iff {run fs : List Face} (h : ∀ f ∈ run, f.1 ≠ .newline) (line : Nat)
    (ts : List Token) :
    run <:+: (fs.map (Face.on line) ++ lineEnd line :: ts).map Token.face ↔
      run <:+: fs ∨ run <:+: ts.map Token.face := by
  induction fs with
  | nil =>
    have hstart := prefix_line_iff h [] line ts
    rw [List.map_nil, List.nil_append] at hstart ⊢
    rw [List.map_cons] at hstart ⊢
    rw [List.infix_cons_iff, hstart, List.prefix_nil, List.infix_nil]
  | cons f fs ih =>
    have hstart := prefix_line_iff h (f :: fs) line ts
    rw [List.map_cons, List.cons_append, List.map_cons] at hstart ⊢
    rw [List.infix_cons_iff, hstart, ih, List.infix_cons_iff, or_assoc]

/-- **Tokens one after the other**, none of which is a line end, stand on one line. -/
theorem infix_tokensOn_iff {run : List Face} (hne : run ≠ []) (h : ∀ f ∈ run, f.1 ≠ .newline)
    (line : Nat) (ls : List (List Face)) :
    run <:+: (tokensOn line ls).map Token.face ↔ ∃ fs ∈ ls, run <:+: fs := by
  induction ls generalizing line with
  | nil => simp [tokensOn, hne]
  | cons fs ls ih => rw [tokensOn, infix_line_iff h, ih, List.exists_mem_cons_iff]

theorem word_ne_newline (words : List (List Char)) :
    ∀ f ∈ words.map Face.word, f.1 ≠ .newline := by
  simp [Face.word]

theorem fromWords_line {words : List (List Char)} {fs : List Face}
    (h : ¬ words.map Face.word <:+: fs) (line : Nat) (ts : List Token) :
    fromWords words (fs.map (Face.on line) ++ lineEnd line :: ts) = fromWords words ts := by
  have hskip : ∀ {t : Token} {us : List Token},
      ¬ words.map Face.word <+: (t :: us).map Token.face →
      fromWords words (t :: us) = fromWords words us := by
    intro t us hnot
    rw [fromWords, if_neg]
    rwa [List.isPrefixOf_iff_prefix]
  induction fs with
  | nil =>
    rw [List.infix_nil] at h
    refine hskip ?_
    have hstart := prefix_line_iff (word_ne_newline words) [] line ts
    rw [List.map_nil, List.nil_append] at hstart
    rwa [hstart, List.prefix_nil]
  | cons f fs ih =>
    rw [List.infix_cons_iff, not_or] at h
    rw [List.map_cons, List.cons_append, hskip]
    · exact ih h.2
    · have hstart := prefix_line_iff (word_ne_newline words) (f :: fs) line ts
      rw [List.map_cons, List.cons_append] at hstart
      rw [hstart]
      exact h.1

theorem fromWords_of_prefix {words : List (List Char)} {ts : List Token} (hne : ts ≠ [])
    (h : words.map Face.word <+: ts.map Token.face) : fromWords words ts = some ts := by
  obtain ⟨t, more, rfl⟩ := List.exists_cons_of_ne_nil hne
  rw [fromWords, if_pos (List.isPrefixOf_iff_prefix.2 h)]

theorem tokensOn_append (line : Nat) (a b : List (List Face)) :
    tokensOn line (a ++ b) = tokensOn line a ++ tokensOn (line + a.length) b := by
  induction a generalizing line with
  | nil => rfl
  | cons fs a ih =>
    rw [List.cons_append, tokensOn, ih, tokensOn, List.length_cons, Nat.add_right_comm,
      Nat.add_assoc]
    simp

/-- Lines without the words are passed over. -/
theorem fromWords_tokensOn {words : List (List Char)} {above : List (List Face)}
    (h : ∀ fs ∈ above, ¬ words.map Face.word <:+: fs) (line : Nat) (ts : List Token) :
    fromWords words (tokensOn line above ++ ts) = fromWords words ts := by
  induction above generalizing line with
  | nil => rfl
  | cons fs above ih =>
    rw [List.forall_mem_cons] at h
    rw [tokensOn, List.append_assoc, List.cons_append, fromWords_line h.1, ih h.2]

/-! ## Lines between braces -/

theorem noBracket_tokensOn {ls : List (List Face)}
    (h : ∀ fs ∈ ls, ∀ f ∈ fs, (f.on 0).NoBracket) (line : Nat) :
    ∀ t ∈ tokensOn line ls, t.NoBracket := by
  induction ls generalizing line with
  | nil => simp [tokensOn]
  | cons fs ls ih =>
    rw [List.forall_mem_cons] at h
    intro t ht
    rw [tokensOn, List.mem_append, List.mem_cons] at ht
    obtain ht | rfl | ht := ht
    · obtain ⟨f, hf, rfl⟩ := List.mem_map.1 ht
      exact h.1 f hf
    · exact ⟨rfl, rfl⟩
    · exact ih h.2 (line + 1) t ht

theorem untilClosed_of_plain {inside : List Token} (h : ∀ t ∈ inside, t.NoBracket) {c : Token}
    (hc : c.isClose) (rest : List Token) :
    untilClosed 0 (inside ++ c :: rest) = some inside := by
  induction inside with
  | nil => simp [untilClosed, hc]
  | cons t inside ih =>
    obtain ⟨ht, hrest⟩ := List.forall_mem_cons.1 h
    have hclose : t.isClose = false := by simp [Token.isClose, ht.2]
    rw [List.cons_append, untilClosed, hclose, if_neg (by simp),
      Token.depthAfter_of_other ht.1 ht.2, ih hrest]
    rfl

/-- Cutting lines that are ended at their ends. -/
theorem splitOnP_tokensOn {ls : List (List Face)}
    (h : ∀ fs ∈ ls, ∀ f ∈ fs, f.1 ≠ .newline) (line : Nat) :
    ((tokensOn line ls).splitOnP Token.isNewline).map (List.map Token.face) = ls ++ [[]] := by
  induction ls generalizing line with
  | nil => rfl
  | cons fs ls ih =>
    rw [List.forall_mem_cons] at h
    have hline : ∀ t ∈ fs.map (Face.on line), t.isNewline = false := by
      intro t ht
      obtain ⟨f, hf, rfl⟩ := List.mem_map.1 ht
      exact decide_eq_false (h.1 f hf)
    have hsplit : (fs.map (Face.on line)).splitOnP Token.isNewline = [fs.map (Face.on line)] :=
      List.splitOnP_eq_singleton hline
    rw [tokensOn, List.splitOnP_append_cons _ _ rfl, hsplit, List.map_append, ih h.2,
      List.map_singleton, map_face_on]
    rfl

/-- **One entry on each line.**  The lines `inside` stand between a line that begins with the words
and ends in the opening brace, and one that begins with a closing bracket. -/
theorem bracesAfter_tokensOn {words : List (List Char)}
    {above inside below : List (List Face)} {more close : List Face} {c : Face}
    (habove : ∀ fs ∈ above, ¬ words.map Face.word <:+: fs)
    (hmore : ∀ f ∈ more, f.1 ≠ .punct '{')
    (hinside : ∀ fs ∈ inside, ∀ f ∈ fs, f.1 ≠ .newline ∧ (f.on 0).NoBracket)
    (hclose : (c.on 0).isClose) (line : Nat) :
    bracesAfter words (tokensOn line
      (above ++ ((words.map Face.word ++ more ++ [Face.mark '{']) ::
        (inside ++ (c :: close) :: below)))) = some ([] :: (inside ++ [[]])) := by
  have hplain : ∀ fs ∈ inside, ∀ f ∈ fs, (f.on 0).NoBracket := fun fs hfs f hf =>
    (hinside fs hfs f hf).2
  have hopen : ∀ t ∈ (words.map Face.word ++ more).map (Face.on (line + above.length)),
      (!t.isPunct '{') = true := by
    intro t ht
    obtain ⟨f, hf, rfl⟩ := List.mem_map.1 ht
    rcases List.mem_append.1 hf with hf | hf
    · obtain ⟨w, -, rfl⟩ := List.mem_map.1 hf
      rfl
    · show (!decide (f.1 = .punct '{')) = true
      rw [decide_eq_false (hmore f hf)]
      rfl
  generalize hk : line + above.length = k at hopen
  have hfirst : fromWords words (tokensOn line
      (above ++ ((words.map Face.word ++ more ++ [Face.mark '{']) ::
        (inside ++ (c :: close) :: below)))) =
      some (tokensOn k ((words.map Face.word ++ more ++ [Face.mark '{']) ::
        (inside ++ (c :: close) :: below))) := by
    rw [tokensOn_append, hk, fromWords_tokensOn habove]
    refine fromWords_of_prefix (by simp [tokensOn]) ?_
    rw [tokensOn, List.map_append, map_face_on, List.append_assoc, List.append_assoc]
    exact List.prefix_append _ _
  have hbrace : (tokensOn k ((words.map Face.word ++ more ++ [Face.mark '{']) ::
        (inside ++ (c :: close) :: below))).dropWhile (!·.isPunct '{') =
      (Face.mark '{').on k :: ((lineEnd k :: tokensOn (k + 1) inside) ++
        c.on (k + 1 + inside.length) :: (close.map (Face.on (k + 1 + inside.length)) ++
          lineEnd (k + 1 + inside.length) ::
            tokensOn (k + 1 + inside.length + 1) below)) := by
    rw [tokensOn, List.map_append, List.append_assoc, List.dropWhile_append_of_pos hopen,
      tokensOn_append, tokensOn]
    rfl
  have hall : ∀ t ∈ lineEnd k :: tokensOn (k + 1) inside, t.NoBracket :=
    List.forall_mem_cons.2 ⟨⟨rfl, rfl⟩, noBracket_tokensOn hplain (k + 1)⟩
  have hsplit : ((lineEnd k :: tokensOn (k + 1) inside).splitOnP Token.isNewline) =
      [] :: (tokensOn (k + 1) inside).splitOnP Token.isNewline :=
    List.splitOnP_append_cons (p := Token.isNewline) [] (tokensOn (k + 1) inside) rfl
  have hlines := splitOnP_tokensOn (fun fs hfs f hf => (hinside fs hfs f hf).1) (k + 1)
  rw [bracesAfter, hfirst]
  dsimp only
  rw [hbrace]
  dsimp only
  have hclose' : (c.on (k + 1 + inside.length)).isClose := hclose
  rw [untilClosed_of_plain hall hclose', Option.map_some, hsplit, List.map_cons, hlines]
  rfl

end Scribe.Source
