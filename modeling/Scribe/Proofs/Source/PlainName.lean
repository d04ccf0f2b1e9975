import Mathlib
import Scribe.Proofs.Source.Spelling
import Scribe.Text.Identifier

/-!
# Plain names

A name that starts with an ASCII letter and goes on with ASCII letters, digits and underscores gives
an identifier, both in the form of an exported one and in that of a package.

Facts about single characters are checked for each of the 128 characters of ASCII (`forall_ascii`).
-/

namespace Scribe.Source

open Scribe.Text

/-- Whether a character may be part of a plain name. -/
def isPlainChar (c : Char) : Bool := c.isAlphanum || c = '_'

/-- Whether a name starts with an ASCII letter and consists of ASCII letters, digits and
underscores. -/
def isPlainName (s : List Char) : Bool := s.head?.any Char.isAlpha && s.all isPlainChar

/-! ## Characters -/

theorem forall_ascii {p : Char → Bool} (h : (List.range 128).all fun n => p (Char.ofNat n))
    {c : Char} (hc : c.toNat < 128) : p c := by
  have hmem := List.all_eq_true.1 h c.toNat (List.mem_range.2 hc)
  rw [Char.ofNat_toNat] at hmem
  exact hmem

theorem toNat_lt_of_isPlainChar {c : Char} (h : isPlainChar c) : c.toNat < 128 := by
  have hle : ∀ a b : Char, a.val ≤ b.val ↔ a.toNat ≤ b.toNat := fun _ _ => Iff.rfl
  simp only [isPlainChar, Char.isAlphanum, Char.isAlpha, Char.isUpper, Char.isLower, Char.isDigit,
    Bool.or_eq_true, Bool.and_eq_true, decide_eq_true_eq] at h
  obtain ((⟨-, h⟩ | ⟨-, h⟩) | ⟨-, h⟩) | rfl := h
  · exact Nat.lt_of_le_of_lt h (by decide)
  · exact Nat.lt_of_le_of_lt h (by decide)
  · exact Nat.lt_of_le_of_lt h (by decide)
  · decide

theorem isPlainChar_of_isAlpha {c : Char} (h : c.isAlpha) : isPlainChar c := by
  simp [isPlainChar, Char.isAlphanum, h]

/-- The forms of a plain character can be part of an identifier. -/
theorem continuesIdent_of_isPlainChar {c : Char} (h : isPlainChar c) :
    continuesIdent c.toUpper ∧ continuesIdent c.toLower ∧ c ≠ '\n' := by
  have hall : (List.range 128).all fun n => !isPlainChar (Char.ofNat n) ||
      (continuesIdent (Char.ofNat n).toUpper && continuesIdent (Char.ofNat n).toLower &&
        Char.ofNat n != '\n') := by decide +kernel
  have hc := forall_ascii (p := fun c => !isPlainChar c ||
    (continuesIdent c.toUpper && continuesIdent c.toLower && c != '\n')) hall
    (toNat_lt_of_isPlainChar h)
  simpa [h, and_assoc] using hc

/-- The forms of a letter can start an identifier. -/
theorem startsIdent_of_isAlpha {c : Char} (h : c.isAlpha) :
    startsIdent c.toUpper ∧ startsIdent c.toLower ∧ separatesWords c = false := by
  have hall : (List.range 128).all fun n => !(Char.ofNat n).isAlpha ||
      (startsIdent (Char.ofNat n).toUpper && startsIdent (Char.ofNat n).toLower &&
        !separatesWords (Char.ofNat n)) := by decide +kernel
  have hc := forall_ascii (p := fun c => !c.isAlpha ||
    (startsIdent c.toUpper && startsIdent c.toLower && !separatesWords c)) hall
    (toNat_lt_of_isPlainChar (isPlainChar_of_isAlpha h))
  simpa [h, and_assoc] using hc

/-! ## Names -/

theorem exists_of_isPlainName {s : List Char} (h : isPlainName s) :
    ∃ c rest, s = c :: rest ∧ c.isAlpha ∧ ∀ d ∈ rest, isPlainChar d := by
  rw [isPlainName, Bool.and_eq_true] at h
  cases s with
  | nil => simp at h
  | cons c rest =>
    have hall := List.all_eq_true.1 h.2
    exact ⟨c, rest, rfl, by simpa using h.1, fun d hd => hall d (List.mem_cons_of_mem c hd)⟩

theorem newline_not_mem_of_isPlainName {s : List Char} (h : isPlainName s) : '\n' ∉ s := by
  rw [isPlainName, Bool.and_eq_true, List.all_eq_true] at h
  intro hn
  exact (continuesIdent_of_isPlainChar (h.2 _ hn)).2.2 rfl

theorem continuesIdent_upperCamelFrom {s : List Char} (h : ∀ c ∈ s, isPlainChar c)
    (start : Bool) : ∀ d ∈ upperCamelFrom start s, continuesIdent d := by
  induction s generalizing start with
  | nil => simp [upperCamelFrom]
  | cons c s ih =>
    obtain ⟨hc, hs⟩ := List.forall_mem_cons.1 h
    have hascii := toNat_lt_of_isPlainChar hc
    have hforms := continuesIdent_of_isPlainChar hc
    rw [upperCamelFrom]
    split
    · exact ih hs true
    · intro d hd
      rcases List.mem_append.1 hd with hd | hd
      · split at hd
        · rw [upper, if_pos hascii, List.mem_singleton] at hd
          exact hd ▸ hforms.1
        · rw [lower, if_pos hascii, List.mem_singleton] at hd
          exact hd ▸ hforms.2.1
      · exact ih hs _ d hd

/-- A plain name as an exported identifier. -/
theorem isWord_upperCamel {s : List Char} (h : isPlainName s) : IsWord (upperCamel s) := by
  obtain ⟨c, rest, rfl, hc, hrest⟩ := exists_of_isPlainName h
  obtain ⟨hstart, -, hsep⟩ := startsIdent_of_isAlpha hc
  have hascii := toNat_lt_of_isPlainChar (isPlainChar_of_isAlpha hc)
  have hfirst : upperCamel (c :: rest) =
      c.toUpper :: upperCamelFrom (!continuesWord c) rest := by
    rw [upperCamel, upperCamelFrom, hsep, upper, if_pos hascii]
    rfl
  rw [hfirst]
  exact isWord_iff.2 (.ident hstart (continuesIdent_upperCamelFrom hrest _) (by decide))

/-- A plain name as a package. -/
theorem isWord_packageName {s : List Char} (h : isPlainName s) : IsWord (packageName s) := by
  obtain ⟨c, rest, rfl, hc, hrest⟩ := exists_of_isPlainName h
  obtain ⟨-, hstart, -⟩ := startsIdent_of_isAlpha hc
  have hchars : packageChars (c :: rest) = c.toLower :: packageChars rest := by
    show ((c :: rest).filter isPlainChar).map Char.toLower = _
    rw [List.filter_cons_of_pos (isPlainChar_of_isAlpha hc)]
    rfl
  have hmore : ∀ d ∈ packageChars rest, continuesIdent d := by
    intro d hd
    obtain ⟨e, he, rfl⟩ := List.mem_map.1 hd
    exact (continuesIdent_of_isPlainChar (List.mem_filter.1 he).2).2.1
  have hname : packageName (c :: rest) = c.toLower :: packageChars rest := by
    rw [packageName, hchars]
    dsimp only
    rw [isDigit_of_startsIdent hstart, if_neg (by simp)]
  rw [hname]
  exact isWord_iff.2 (.ident hstart hmore (by decide))

/-- An identifier has no blanks at its ends. -/
theorem IsWord.trim_eq {s : List Char} (h : IsWord s) : trim s = s := by
  obtain ⟨c, rest, rfl, hc⟩ := h.fits.exists_cons (by simp)
  have hlast := h.fits.isBlank_getLast (by simp) (by simp)
  rw [trim_cons hc, ← trimEnd_cons hc, trimEnd_eq_self hlast]

end Scribe.Source
