import Scribe.Proofs.Layout.Idempotent
import Scribe.Proofs.Source.Places

/-!
# The form of a layout

What a laid-out source looks like, judged by its own tokens (`layout_form`): how far each line is
indented, where blanks may end a line, and where lines may be empty.

The source does not come into it.  Laying out a layout changes nothing, so the pass over its lines
drops none of them and moves none (`layLines_of_layOut_eq_self`).  Each line is therefore what the
rule of its own tokens makes of it, and an empty line that the pass keeps is the only one of its
kind.  It is left to read the rule: in a source whose brackets nest, the depth before a line is the
number of brackets opened less the number closed, and the closing brackets that the line begins with
are among those open there (`tabs_of_closes`).
-/

namespace Scribe.Source

open Scribe.Text

/-! ## The tabs of a line -/

section
variable {ts : List Token} {line n : Nat}

/-- In a source whose brackets nest, the brackets opened before a line are
those closed before it, those that it begins by closing, and as many as it is indented by. -/
theorem tabs_of_closes (hcloses : Closes [] ts) (hplaced : Placed line ts) (n : Nat) :
    (ts.filter (·.line < n)).countP Token.isOpen =
      (openAfter (ts.takeWhile (·.line < n)) -
          ((startingOn n ts).takeWhile Token.isClose).length) +
        ((startingOn n ts).takeWhile Token.isClose).length +
        (ts.filter (·.line < n)).countP Token.isClose := by
  have hsplit := filter_line_append hplaced.pairwise n
  rw [← hsplit] at hcloses
  obtain ⟨stack, hafter, hdepth, hcount⟩ := hcloses.exists_after
  have hopen : stack.length = openAfter (ts.takeWhile (·.line < n)) := by
    rw [hdepth, takeWhile_line hplaced.pairwise]
    rfl
  -- Line ends do not count, so the closing brackets come first among the tokens from here on.
  rw [← Closes.filter_iff, List.filter_append, List.filter_filter] at hafter
  have hstarting : ts.filter (fun t => !t.isNewline && decide (t.line = n)) = startingOn n ts := by
    refine List.filter_congr ?_
    intro t _
    rw [Bool.and_comm]
  rw [hstarting, ← List.takeWhile_append_dropWhile (p := Token.isClose) (l := startingOn n ts),
    List.append_assoc] at hafter
  have hle := hafter.length_le fun t ht => List.mem_takeWhile_imp ht
  simp only [List.length_nil, Nat.zero_add] at hcount
  omega

end

/-! ## A pass that changes nothing -/

section
variable {ts : List Token} {afterEmpty : Bool} {entries : List (LineRule × List Char)}

theorem length_layLines (ts : List Token) (number : Nat) (ls : List (List Char)) :
    (layLines ts number ls).length = ls.length := by
  induction ls generalizing number with
  | nil => rfl
  | cons line ls ih => rw [layLines, List.length_cons, List.length_cons, ih]

theorem getElem?_layLines (ts : List Token) (number : Nat) (ls : List (List Char)) (i : Nat) :
    (layLines ts number ls)[i]? = ls[i]?.map fun line =>
      (LineRule.of ts (number + i), (LineRule.of ts (number + i)).apply line) := by
  induction ls generalizing number i with
  | nil => rfl
  | cons line ls ih =>
    cases i with
    | zero => rfl
    | succ i =>
      rw [layLines, List.getElem?_cons_succ, List.getElem?_cons_succ, ih, Nat.add_right_comm]
      rfl

theorem dropRepeatedEmpty_sublist (afterEmpty : Bool) (entries : List (LineRule × List Char)) :
    (dropRepeatedEmpty afterEmpty entries).Sublist (entries.map Prod.snd) := by
  induction entries generalizing afterEmpty with
  | nil => exact .slnil
  | cons e entries ih =>
    rw [dropRepeatedEmpty, List.map_cons]
    split
    · exact (ih true).cons e.2
    · exact (ih _).cons_cons e.2

/-- Where no line is left out, a line that is moved is not empty if the line before it is. -/
theorem keep_of_dropRepeatedEmpty_eq
    (h : dropRepeatedEmpty afterEmpty entries = entries.map Prod.snd) :
    (afterEmpty = true → ∀ e, entries[0]? = some e → e.2 = [] → e.1 = .keep) ∧
      ∀ i e e', entries[i]? = some e → entries[i + 1]? = some e' → e.2 = [] → e'.2 = [] →
        e'.1 = .keep := by
  induction entries generalizing afterEmpty with
  | nil => simp
  | cons e entries ih =>
    obtain ⟨rule, line⟩ := e
    rw [dropRepeatedEmpty, List.map_cons] at h
    split at h
    · have hlength := congrArg List.length h
      have hle := (dropRepeatedEmpty_sublist true entries).length_le
      rw [List.length_cons] at hlength
      omega
    rename_i hkept
    obtain ⟨hfirst, hmore⟩ := ih (List.cons.inj h).2
    constructor
    · intro hafter e he hempty
      obtain rfl := Option.some.inj he
      obtain rfl : line = [] := hempty
      simpa [hafter] using hkept
    · intro i e e' he he' hempty hempty'
      cases i with
      | zero =>
        obtain rfl := Option.some.inj he
        exact hfirst (decide_eq_true hempty) e' he' hempty'
      | succ i => exact hmore i e e' he he' hempty hempty'

theorem dropTrailingEmpty_sublist (ls : List (List Char)) :
    (dropTrailingEmpty ls).Sublist ls := by
  have hsub : (ls.reverse.dropWhile (· = [])).Sublist ls.reverse := List.dropWhile_sublist _
  rw [dropTrailingEmpty]
  simpa using hsub.reverse

theorem getLast?_dropTrailingEmpty (ls : List (List Char)) :
    (dropTrailingEmpty ls).getLast? ≠ some [] := by
  intro h
  have hempty := eq_false_of_dropWhile_reverse h
  simp at hempty

/-- A layout that is left as it is has each line as its rule makes it, and none is left out. -/
theorem layLines_of_layOut_eq_self {t : List Char} (h : layOut ts t = t) (hr : '\r' ∉ t) :
    t = ['\n'] ∨ t = unlines (lines t) ∧ lines t ≠ [] ∧ (lines t).getLast? ≠ some [] ∧
      (layLines ts 1 (lines t)).map Prod.snd = lines t ∧
      dropRepeatedEmpty true (layLines ts 1 (lines t)) =
        (layLines ts 1 (lines t)).map Prod.snd := by
  rw [layOut] at h
  split at h
  · exact .inl h.symm
  rename_i hne
  have hn : ∀ line ∈ dropTrailingEmpty (dropRepeatedEmpty true (layLines ts 1 (lines t))),
      '\n' ∉ line := by
    intro line hl hmem
    rcases mem_laidLines hl hmem with hmem | ⟨l, hl', hmem⟩
    · simp at hmem
    · exact no_newline_lines hl' hmem
  have hr' : ∀ line ∈ dropTrailingEmpty (dropRepeatedEmpty true (layLines ts 1 (lines t))),
      '\r' ∉ line := by
    intro line hl hmem
    have hin := mem_unlines hl hmem
    rw [h] at hin
    exact hr hin
  have hlast := getLast?_dropTrailingEmpty (dropRepeatedEmpty true (layLines ts 1 (lines t)))
  have hsub := dropTrailingEmpty_sublist (dropRepeatedEmpty true (layLines ts 1 (lines t)))
  have hsub' := dropRepeatedEmpty_sublist true (layLines ts 1 (lines t))
  have hlines := lines_unlines hn hr'
  rw [h] at hlines
  rw [← hlines] at hne hlast hsub h
  -- The pass only leaves lines out, and there are as many lines after it as before.
  have hlength : ((layLines ts 1 (lines t)).map Prod.snd).length = (lines t).length := by
    rw [List.length_map, length_layLines]
  have hle := hsub.length_le
  have hle' := hsub'.length_le
  exact .inr ⟨h.symm, hne, hlast, ((hsub.trans hsub').eq_of_length (by omega)).symm,
    hsub'.eq_of_length (by omega)⟩

end

/-! ## The form of a line -/

/-- A token begun on an earlier line reaches line `n`. -/
def GoesOn (ts : List Token) (n : Nat) : Prop := ∃ t ∈ ts, t.line < n ∧ n ≤ t.endLine

/-- Line `n` is empty, or tabs stand before its first character that is not blank: one for each
bracket that is open before the line, but for the closing brackets that the line begins with. -/
def IsIndented (ts : List Token) (n : Nat) (line : List Char) : Prop :=
  line = [] ∨ ∃ tabs c rest, line = List.replicate tabs '\t' ++ c :: rest ∧ isBlank c = false ∧
    (ts.filter (·.line < n)).countP Token.isOpen =
      tabs + ((startingOn n ts).takeWhile Token.isClose).length +
        (ts.filter (·.line < n)).countP Token.isClose

section
variable {ts : List Token} {n : Nat} {line : List Char}

theorem goesOn_iff : GoesOn ts n ↔ LineRule.of ts n = .keep := by
  rw [LineRule.of]
  split
  · rename_i hany
    obtain ⟨t, ht, hreach⟩ := List.any_eq_true.1 hany
    rw [Bool.and_eq_true, decide_eq_true_eq, decide_eq_true_eq] at hreach
    exact ⟨fun _ => rfl, fun _ => ⟨t, ht, hreach⟩⟩
  · rename_i hany
    constructor
    · rintro ⟨t, ht, hreach⟩
      refine absurd (List.any_eq_true.2 ⟨t, ht, ?_⟩) hany
      rw [Bool.and_eq_true, decide_eq_true_eq, decide_eq_true_eq]
      exact hreach
    · intro hkeep
      simp at hkeep

theorem rule_of_not_goesOn (h : ¬ GoesOn ts n) :
    LineRule.of ts n = .indent (openAfter (ts.takeWhile (·.line < n)) -
      ((startingOn n ts).takeWhile Token.isClose).length)
        ((startingOn n ts).any Token.spansLines) := by
  rw [goesOn_iff] at h
  rw [LineRule.of] at h ⊢
  split at h
  · exact absurd rfl h
  · rename_i hany
    rw [if_neg hany]

/-- A line that indenting leaves as it is begins with just the tabs. -/
theorem eq_of_indent {tabs : Nat} {keepTail : Bool}
    (h : (LineRule.indent tabs keepTail).apply line = line) :
    line = [] ∨ ∃ c rest, line = List.replicate tabs '\t' ++ c :: rest ∧ isBlank c = false := by
  obtain ⟨text, htext, hline⟩ : ∃ text, (text ≠ [] → ∃ c rest, text = c :: rest ∧
      isBlank c = false) ∧ (if text = [] then [] else List.replicate tabs '\t' ++ text) = line := by
    refine ⟨_, ?_, h⟩
    intro hne
    have hstart : trimStart line ≠ [] := by
      intro hnil
      simp [trim, hnil] at hne
    obtain ⟨c, rest, hcons, hc⟩ := exists_cons_of_trimStart hstart
    cases keepTail with
    | true => exact ⟨c, rest, hcons, hc⟩
    | false => exact ⟨c, trimEnd rest, by rw [← trimEnd_cons hc, ← hcons]; rfl, hc⟩
  split at hline
  · exact .inl hline.symm
  · rename_i hne
    obtain ⟨c, rest, rfl, hc⟩ := htext hne
    exact .inr ⟨c, rest, hline.symm, hc⟩

/-- A line that trimming leaves as it is ends in no blank. -/
theorem isBlank_getLast?_of_indent {tabs : Nat}
    (h : (LineRule.indent tabs false).apply line = line) :
    ∀ c ∈ line.getLast?, isBlank c = false := by
  change (if trim line = [] then [] else List.replicate tabs '\t' ++ trim line) = line at h
  intro c hc
  rw [← h] at hc
  split at hc
  · simp at hc
  rename_i htrim
  have hlast := List.getLast?_eq_some_getLast htrim
  rw [List.getLast?_append, hlast] at hc
  obtain rfl := Option.some.inj hc
  exact eq_false_of_dropWhile_reverse hlast

/-- A line that is as its rule makes it is indented. -/
theorem isIndented_of_apply {first : Nat} (hcloses : Closes [] ts) (hplaced : Placed first ts)
    (hgoes : ¬ GoesOn ts n) (h : (LineRule.of ts n).apply line = line) : IsIndented ts n line := by
  rw [rule_of_not_goesOn hgoes] at h
  rcases eq_of_indent h with hempty | ⟨c, rest, hline, hc⟩
  · exact .inl hempty
  · exact .inr ⟨_, c, rest, hline, hc, tabs_of_closes hcloses hplaced n⟩

/-- And it ends in no blank, unless a token that starts on it goes on past it. -/
theorem isBlank_getLast?_of_apply (hgoes : ¬ GoesOn ts n)
    (hspans : ∀ t ∈ ts, t.line = n → t.spansLines = false)
    (h : (LineRule.of ts n).apply line = line) : ∀ c ∈ line.getLast?, isBlank c = false := by
  have hnone : (startingOn n ts).any Token.spansLines = false := by
    rw [List.any_eq_false]
    intro t ht
    obtain ⟨hmem, hon⟩ := List.mem_filter.1 ht
    rw [Bool.and_eq_true, decide_eq_true_eq] at hon
    simp [hspans t hmem hon.1]
  rw [rule_of_not_goesOn hgoes, hnone] at h
  exact isBlank_getLast?_of_indent h

end

/-! ## The form of a source -/

/-- What the lines `ls` of a laid-out source with tokens `ts` look like.  Lines are counted from
one. -/
structure IsLaidOut (ts : List Token) (ls : List (List Char)) : Prop where
  /-- A line is indented, unless it goes on with a token. -/
  indented : ∀ n line, ls[n]? = some line → ¬ GoesOn ts (n + 1) → IsIndented ts (n + 1) line
  /-- No blank ends a line, unless it goes on with a token or a token on it goes on. -/
  trimmed : ∀ n line, ls[n]? = some line → ¬ GoesOn ts (n + 1) →
    (∀ t ∈ ts, t.line = n + 1 → t.spansLines = false) → ∀ c ∈ line.getLast?, isBlank c = false
  /-- Two empty lines in a row are inside a token. -/
  emptyInside : ∀ n, ls[n]? = some [] → ls[n + 1]? = some [] → GoesOn ts (n + 2)
  /-- The first line is not empty, unless it is the only one. -/
  first : ls[0]? = some [] → ls = [[]]

/-- The lines of a layout that is left as it is have the form of a layout. -/
theorem isLaidOut_of_layOut_eq_self {ts : List Token} {t : List Char} (hplaced : Placed 1 ts)
    (hcloses : Closes [] ts) (h : layOut ts t = t) (hr : '\r' ∉ t) :
    IsLaidOut ts (lines t) ∧ t = unlines (lines t) ∧ lines t ≠ [] ∧
      ¬ ['\n', '\n'] <:+ t := by
  rcases layLines_of_layOut_eq_self h hr with rfl | ⟨htext, hne, hlast, hmap, hdrop⟩
  · have hlines : lines ['\n'] = [[]] := rfl
    rw [hlines]
    refine ⟨⟨?_, ?_, ?_, ?_⟩, rfl, by simp, ?_⟩
    · intro n line hline _
      obtain rfl : line = [] := by
        simpa using List.mem_of_getElem? hline
      exact .inl rfl
    · intro n line hline _ _
      obtain rfl : line = [] := by
        simpa using List.mem_of_getElem? hline
      simp
    · intro n _ hnext
      simp at hnext
    · intro _
      rfl
    · intro hsuffix
      have := hsuffix.length_le
      simp at this
  · have hentry : ∀ n line, (lines t)[n]? = some line →
        (layLines ts 1 (lines t))[n]? = some (LineRule.of ts (n + 1), line) ∧
          (LineRule.of ts (n + 1)).apply line = line := by
      intro n line hline
      have hlaid := getElem?_layLines ts 1 (lines t) n
      rw [hline, Option.map_some, Nat.add_comm 1 n] at hlaid
      have hfixed : (LineRule.of ts (n + 1)).apply line = line := by
        have hsame := congrArg (·[n]?) hmap
        simpa only [List.getElem?_map, hlaid, hline, Option.map_some, Option.some.injEq] using hsame
      exact ⟨by rw [hlaid, hfixed], hfixed⟩
    obtain ⟨hkeepFirst, hkeep⟩ := keep_of_dropRepeatedEmpty_eq hdrop
    refine ⟨⟨?_, ?_, ?_, ?_⟩, htext, hne, ?_⟩
    · intro n line hline hgoes
      exact isIndented_of_apply hcloses hplaced hgoes (hentry n line hline).2
    · intro n line hline hgoes hspans
      exact isBlank_getLast?_of_apply hgoes hspans (hentry n line hline).2
    · intro n hline hnext
      exact goesOn_iff.2 (hkeep n _ _ (hentry n [] hline).1 (hentry (n + 1) [] hnext).1 rfl rfl)
    · intro hline
      obtain ⟨k, hk, hbefore, -⟩ := goesOn_iff.2 (hkeepFirst rfl _ (hentry 0 [] hline).1 rfl)
      have := hplaced.le_line hk
      omega
    · rw [htext]
      exact not_suffix_unlines (fun line hline => no_newline_lines hline) hlast

/-- **The form of a layout.**  Judged by its own tokens, a laid-out source is indented by its
brackets, has no blanks at the ends of its lines and no empty lines but single ones between others,
tokens on several lines apart, and ends in one line feed. -/
theorem layout_form {s t : List Char} (hs : ReturnsEndLines s) (h : layout s = .ok t) :
    ∃ ts ls, tokenize t = .ok ts ∧ t = unlines ls ∧ (∀ line ∈ ls, '\n' ∉ line) ∧
      IsLaidOut ts ls ∧ t.getLast? = some '\n' ∧ ¬ ['\n', '\n'] <:+ t := by
  obtain ⟨R, hR, rfl, hbrackets, rfl⟩ := exists_rows_of_layout h
  have hr : '\r' ∉ R.laid.chars := by
    rw [← layOut_chars hR]
    exact no_return_layOut hs _
  have htokens := Rows.tokenize_chars hR.laid
  have hself : layOut (R.laid.tokens 1) R.laid.chars = R.laid.chars := by
    rw [layOut_chars hR.laid, Rows.laid_laid hR hr]
  have hcloses := (R.laid_settled hR 1 1).closes (checkBrackets_eq_ok_iff.1 hbrackets)
  obtain ⟨hform, htext, hne, hend⟩ :=
    isLaidOut_of_layOut_eq_self (placed_of_tokenizeFrom htokens) hcloses hself hr
  have hlast := getLast?_unlines hne
  rw [← htext] at hlast
  exact ⟨_, _, htokens, htext, fun line hline => no_newline_lines hline, hform, hlast, hend⟩

/-- A comment before a closing bracket, and a raw string over empty lines with a blank after it. -/
theorem layout_form_raw_string :
    let s := "\r\nf(\x7b\r\n /* a */ x \n\n\n /* b */ \x7d, \x60 \n\n\n\x60 ) \n ".toList
    let t := "f(\x7b\n\t\t/* a */ x\n\n\t\t/* b */ \x7d, \x60 \n\n\n\x60 ) \n".toList
    ReturnsEndLines s ∧ layout s = .ok t ∧
      ∃ ts ls, tokenize t = .ok ts ∧ t = unlines ls ∧ (∀ line ∈ ls, '\n' ∉ line) ∧
        IsLaidOut ts ls ∧ t.getLast? = some '\n' ∧ ¬ ['\n', '\n'] <:+ t := by
  have hs : ReturnsEndLines
      "\r\nf(\x7b\r\n /* a */ x \n\n\n /* b */ \x7d, \x60 \n\n\n\x60 ) \n ".toList := by decide
  have h : layout "\r\nf(\x7b\r\n /* a */ x \n\n\n /* b */ \x7d, \x60 \n\n\n\x60 ) \n ".toList =
      .ok "f(\x7b\n\t\t/* a */ x\n\n\t\t/* b */ \x7d, \x60 \n\n\n\x60 ) \n".toList := by cbv
  exact ⟨hs, h, layout_form hs h⟩

end Scribe.Source
