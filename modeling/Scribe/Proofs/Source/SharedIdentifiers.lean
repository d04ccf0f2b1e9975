import Scribe.Proofs.Source.PlainName

/-!
# Names that share an identifier

An exported identifier keeps of a database name what its capitals show: which words start with a
letter.  The rest is lost, which is the letter case of the name, the underscores at its ends, all but
one of several in a row, and those before a digit.

`identifierKey` is a name without what is lost.  A name and its key have the same identifier
(`upperCamel_identifierKey`), and the key can be read off the identifier (`keyOfIdentifier_upperCamel`).
So two names of ASCII letters, digits and underscores share an identifier exactly when they share
their key (`upperCamel_eq_iff`).
-/

namespace Scribe.Source

open Scribe.Text

/-! ## Keys -/

/-- The key of the rest of a name; `begun` says that a character other than an underscore stands
before it. -/
def identifierKeyFrom (begun : Bool) : List Char → List Char
  | [] => []
  | c :: rest =>
    if c = '_' then
      (if begun && rest.head?.any Char.isAlpha then ['_'] else []) ++ identifierKeyFrom begun rest
    else c.toLower :: identifierKeyFrom true rest

/-- A name in lower case, with those of its underscores that a letter follows at once and that some
character other than an underscore stands before. -/
def identifierKey (name : List Char) : List Char := identifierKeyFrom false name

/-- The rest of an identifier in lower case, with an underscore before each capital; `begun` says
that something stands before it. -/
def keyOfIdentifierFrom (begun : Bool) : List Char → List Char
  | [] => []
  | c :: rest =>
    (if begun && c.isUpper then ['_'] else []) ++ c.toLower :: keyOfIdentifierFrom true rest

/-- The key of the names that have an identifier. -/
def keyOfIdentifier (identifier : List Char) : List Char := keyOfIdentifierFrom false identifier

/-! ## Letters and digits -/

/-- The forms of a letter or a digit, and what they show. -/
structure HasCase (c : Char) : Prop where
  ne_underscore : c ≠ '_'
  separates : separatesWords c = false
  continues : continuesWord c = true
  toLower_toLower : c.toLower.toLower = c.toLower
  toLower_toUpper : c.toUpper.toLower = c.toLower
  toUpper_toLower : c.toLower.toUpper = c.toUpper
  isAlphanum_toLower : c.toLower.isAlphanum = true
  isUpper_toLower : c.toLower.isUpper = false
  isUpper_toUpper : c.toUpper.isUpper = c.isAlpha
  /-- What has no capital has one form only. -/
  toUpper_eq : c.isAlpha = false → c.toUpper = c.toLower

theorem toNat_lt_of_isAlphanum {c : Char} (h : c.isAlphanum) : c.toNat < 128 :=
  toNat_lt_of_isPlainChar (by simp [isPlainChar, h])

theorem hasCase_of_isAlphanum {c : Char} (h : c.isAlphanum) : HasCase c := by
  let p (c : Char) : Bool := !c.isAlphanum || (c != '_' && !separatesWords c && continuesWord c &&
    c.toLower.toLower == c.toLower && c.toUpper.toLower == c.toLower &&
    c.toLower.toUpper == c.toUpper && c.toLower.isAlphanum && !c.toLower.isUpper &&
    c.toUpper.isUpper == c.isAlpha && (c.isAlpha || c.toUpper == c.toLower))
  have hall : (List.range 128).all fun n => p (Char.ofNat n) := by decide +kernel
  have hc : p c := forall_ascii hall (toNat_lt_of_isAlphanum h)
  simp only [p, h, Bool.not_true, Bool.false_or, Bool.and_eq_true, Bool.or_eq_true, bne_iff_ne,
    beq_iff_eq, Bool.not_eq_true'] at hc
  obtain ⟨⟨⟨⟨⟨⟨⟨⟨⟨h1, h2⟩, h3⟩, h4⟩, h5⟩, h6⟩, h7⟩, h8⟩, h9⟩, h10⟩ := hc
  exact ⟨h1, h2, h3, h4, h5, h6, h7, h8, h9, fun hdigit => h10.resolve_left (by simp [hdigit])⟩

/-- A plain character is an underscore, or a letter or digit. -/
theorem eq_or_isAlphanum_of_isPlainChar {c : Char} (h : isPlainChar c) :
    c = '_' ∨ c.isAlphanum := by
  rw [isPlainChar, Bool.or_eq_true, decide_eq_true_eq] at h
  exact h.symm

/-! ## One character of a name -/

section
variable (start begun : Bool) {c : Char} (rest : List Char)

@[simp] theorem upperCamelFrom_underscore :
    upperCamelFrom start ('_' :: rest) = upperCamelFrom true rest := by
  rw [upperCamelFrom, if_pos (by decide)]

theorem upperCamelFrom_isAlphanum (h : c.isAlphanum) :
    upperCamelFrom start (c :: rest) =
      (if start then c.toUpper else c.toLower) :: upperCamelFrom false rest := by
  have hcase := hasCase_of_isAlphanum h
  have hascii := toNat_lt_of_isAlphanum h
  rw [upperCamelFrom, hcase.separates, hcase.continues, upper, lower, if_pos hascii, if_pos hascii]
  cases start <;> rfl

@[simp] theorem identifierKeyFrom_underscore :
    identifierKeyFrom begun ('_' :: rest) =
      (if begun && rest.head?.any Char.isAlpha then ['_'] else []) ++ identifierKeyFrom begun rest := by
  rw [identifierKeyFrom, if_pos rfl]

theorem identifierKeyFrom_isAlphanum (h : c.isAlphanum) :
    identifierKeyFrom begun (c :: rest) = c.toLower :: identifierKeyFrom true rest := by
  rw [identifierKeyFrom, if_neg (hasCase_of_isAlphanum h).ne_underscore]

end

variable {name : List Char}

/-! ## From the key to the identifier -/

/-- Whether a word starts does not matter where no letter stands. -/
theorem upperCamelFrom_of_no_letter (h : ∀ c ∈ name, isPlainChar c)
    (hhead : name.head?.any Char.isAlpha = false) (start : Bool) :
    upperCamelFrom start name = upperCamelFrom true name := by
  cases name with
  | nil => rfl
  | cons c rest =>
    rcases eq_or_isAlphanum_of_isPlainChar (h c List.mem_cons_self) with rfl | hc
    · rw [upperCamelFrom_underscore, upperCamelFrom_underscore]
    · have hdigit := (hasCase_of_isAlphanum hc).toUpper_eq (by simpa using hhead)
      rw [upperCamelFrom_isAlphanum start rest hc, upperCamelFrom_isAlphanum true rest hc, hdigit,
        ite_self, ite_self]

theorem upperCamelFrom_toLower {c : Char} (hc : c.isAlphanum) (start : Bool) (rest : List Char) :
    upperCamelFrom start (c.toLower :: rest) =
      (if start then c.toUpper else c.toLower) :: upperCamelFrom false rest := by
  have hcase := hasCase_of_isAlphanum hc
  rw [upperCamelFrom_isAlphanum start rest hcase.isAlphanum_toLower, hcase.toUpper_toLower,
    hcase.toLower_toLower]

/-- An underscore that the key leaves out is one that the identifier does not show. -/
theorem upperCamelFrom_identifierKeyFrom (h : ∀ c ∈ name, isPlainChar c) (start : Bool) :
    upperCamelFrom start (identifierKeyFrom true name) = upperCamelFrom start name := by
  induction name generalizing start with
  | nil => rfl
  | cons c rest ih =>
    obtain ⟨hplain, hrest⟩ := List.forall_mem_cons.1 h
    rcases eq_or_isAlphanum_of_isPlainChar hplain with rfl | hc
    · rw [identifierKeyFrom_underscore, upperCamelFrom_underscore, Bool.true_and]
      cases hhead : rest.head?.any Char.isAlpha with
      | true =>
        show upperCamelFrom start ('_' :: identifierKeyFrom true rest) = _
        rw [upperCamelFrom_underscore, ih hrest]
      | false =>
        show upperCamelFrom start (identifierKeyFrom true rest) = _
        rw [ih hrest, upperCamelFrom_of_no_letter hrest hhead]
    · rw [identifierKeyFrom_isAlphanum true rest hc, upperCamelFrom_toLower hc, ih hrest,
        upperCamelFrom_isAlphanum start rest hc]

/-- **A name and its key have the same identifier.** -/
theorem upperCamel_identifierKey (h : ∀ c ∈ name, isPlainChar c) :
    upperCamel (identifierKey name) = upperCamel name := by
  unfold upperCamel identifierKey
  induction name with
  | nil => rfl
  | cons c rest ih =>
    obtain ⟨hplain, hrest⟩ := List.forall_mem_cons.1 h
    rcases eq_or_isAlphanum_of_isPlainChar hplain with rfl | hc
    · rw [identifierKeyFrom_underscore, upperCamelFrom_underscore]
      exact ih hrest
    · rw [identifierKeyFrom_isAlphanum false rest hc, upperCamelFrom_toLower hc,
        upperCamelFrom_identifierKeyFrom hrest, upperCamelFrom_isAlphanum true rest hc]

/-! ## From the identifier to the key -/

/-- The capital that starts a word stands for the underscore before it. -/
theorem keyOfIdentifierFrom_upperCamelFrom (h : ∀ c ∈ name, isPlainChar c) (start : Bool) :
    keyOfIdentifierFrom true (upperCamelFrom start name) =
      (if start && name.head?.any Char.isAlpha then ['_'] else []) ++
        identifierKeyFrom true name := by
  induction name generalizing start with
  | nil => cases start <;> rfl
  | cons c rest ih =>
    obtain ⟨hplain, hrest⟩ := List.forall_mem_cons.1 h
    rcases eq_or_isAlphanum_of_isPlainChar hplain with rfl | hc
    · rw [upperCamelFrom_underscore, ih hrest, identifierKeyFrom_underscore]
      cases start <;> rfl
    · have hcase := hasCase_of_isAlphanum hc
      rw [upperCamelFrom_isAlphanum start rest hc, keyOfIdentifierFrom, ih hrest,
        identifierKeyFrom_isAlphanum true rest hc]
      cases start with
      | true => simp [hcase.isUpper_toUpper, hcase.toLower_toUpper]
      | false => simp [hcase.isUpper_toLower, hcase.toLower_toLower]

/-- **The key can be read off the identifier.** -/
theorem keyOfIdentifier_upperCamel (h : ∀ c ∈ name, isPlainChar c) :
    keyOfIdentifier (upperCamel name) = identifierKey name := by
  unfold keyOfIdentifier upperCamel identifierKey
  induction name with
  | nil => rfl
  | cons c rest ih =>
    obtain ⟨hplain, hrest⟩ := List.forall_mem_cons.1 h
    rcases eq_or_isAlphanum_of_isPlainChar hplain with rfl | hc
    · rw [identifierKeyFrom_underscore, upperCamelFrom_underscore]
      exact ih hrest
    · rw [upperCamelFrom_isAlphanum true rest hc, identifierKeyFrom_isAlphanum false rest hc,
        keyOfIdentifierFrom, keyOfIdentifierFrom_upperCamelFrom hrest, if_pos rfl,
        (hasCase_of_isAlphanum hc).toLower_toUpper]
      rfl

/-- **Two names share an identifier exactly when they share their key.** -/
theorem upperCamel_eq_iff {x y : List Char} (hx : ∀ c ∈ x, isPlainChar c)
    (hy : ∀ c ∈ y, isPlainChar c) :
    upperCamel x = upperCamel y ↔ identifierKey x = identifierKey y := by
  constructor
  · intro h
    rw [← keyOfIdentifier_upperCamel hx, h, keyOfIdentifier_upperCamel hy]
  · intro h
    rw [← upperCamel_identifierKey hx, h, upperCamel_identifierKey hy]

/-- Letter case, underscores at the ends and one before a digit do not tell names apart, but one
before a letter does. -/
theorem upperCamel_eq_iff_order :
    upperCamel "__Order_2_items_".toList = upperCamel "oRDER2_ITEMS".toList ∧
      upperCamel "order_2items".toList ≠ upperCamel "order_2_items".toList := by
  have hplain : ∀ name ∈ ["__Order_2_items_", "oRDER2_ITEMS", "order_2items", "order_2_items"],
      ∀ c ∈ name.toList, isPlainChar c := by
    simp [isPlainChar]
  constructor
  · exact (upperCamel_eq_iff (hplain _ (by simp)) (hplain _ (by simp))).2 (by decide)
  · intro h
    have hkey := (upperCamel_eq_iff (hplain _ (by simp)) (hplain _ (by simp))).1 h
    exact absurd hkey (by decide)

end Scribe.Source
