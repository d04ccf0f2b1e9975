/-!
# Comments by constant name

The comment of each constant of a file, in the order of the names by code point.  The order is
part of the type: whichever way comments are collected, two collections with the same comment for
every name are the same value, and a file generated from one lists its names in that order.
-/

namespace Scribe.Source

/-! ### Entries in order -/

/-- Puts a text under a name into a list that is in the order of its names. -/
def insertEntry (name text : String) : List (String × String) → List (String × String)
  | [] => [(name, text)]
  | (n, t) :: rest =>
    if name < n then (name, text) :: (n, t) :: rest
    else if name = n then (name, text) :: rest
    else (n, t) :: insertEntry name text rest

theorem mem_insertEntry {name text : String} {entries : List (String × String)}
    {e : String × String} (h : e ∈ insertEntry name text entries) :
    e = (name, text) ∨ e ∈ entries := by
  induction entries with
  | nil => simpa [insertEntry] using h
  | cons head rest ih =>
    obtain ⟨n, t⟩ := head
    simp only [insertEntry] at h
    split at h
    · simpa using h
    split at h
    · rcases List.mem_cons.1 h with h | h
      · exact .inl h
      · exact .inr (List.mem_cons_of_mem _ h)
    · rcases List.mem_cons.1 h with h | h
      · exact .inr (h ▸ List.mem_cons_self)
      · rcases ih h with h | h
        · exact .inl h
        · exact .inr (List.mem_cons_of_mem _ h)

theorem insertEntry_pairwise (name text : String) {entries : List (String × String)}
    (h : entries.Pairwise (·.1 < ·.1)) :
    (insertEntry name text entries).Pairwise (·.1 < ·.1) := by
  induction entries with
  | nil => simp [insertEntry]
  | cons head rest ih =>
    obtain ⟨n, t⟩ := head
    rw [List.pairwise_cons] at h
    simp only [insertEntry]
    split
    · rename_i hlt
      rw [List.pairwise_cons]
      refine ⟨fun e he => ?_, List.pairwise_cons.2 h⟩
      rcases List.mem_cons.1 he with rfl | he
      · exact hlt
      · exact String.lt_trans hlt (h.1 e he)
    split
    · rename_i heq
      subst heq
      exact List.pairwise_cons.2 h
    · rename_i hlt hne
      rw [List.pairwise_cons]
      refine ⟨fun e he => ?_, ih h.2⟩
      rcases mem_insertEntry he with rfl | he
      · have hle : n ≤ name := fun hlt' => hlt hlt'
        rcases String.not_le.1 fun hge => hne (String.le_antisymm hge hle) with h
        exact h
      · exact h.1 e he

/-! ### The collection -/

/-- A text for each of finitely many names. -/
structure Comments where
  /-- The names with their texts, in the order of the names. -/
  entries : List (String × String)
  ordered : entries.Pairwise (·.1 < ·.1)
  deriving DecidableEq

namespace Comments

/-- No comments. -/
def empty : Comments := ⟨[], .nil⟩

instance : Inhabited Comments := ⟨empty⟩

/-- The comments with `text` for `name`, in place of an earlier one. -/
def insert (c : Comments) (name text : String) : Comments :=
  ⟨insertEntry name text c.entries, insertEntry_pairwise name text c.ordered⟩

/-- The comment for a name. -/
def find? (c : Comments) (name : String) : Option String :=
  (c.entries.find? (·.1 = name)).map (·.2)

/-- The comments of a list, where a later one replaces an earlier one for the same name. -/
def ofList (pairs : List (String × String)) : Comments :=
  pairs.foldl (fun c e => c.insert e.1 e.2) empty

theorem insertEntry_find? (name text key : String) (entries : List (String × String)) :
    ((insertEntry name text entries).find? (·.1 = key)).map (·.2) =
      if name = key then some text else (entries.find? (·.1 = key)).map (·.2) := by
  induction entries with
  | nil => by_cases h : name = key <;> simp [insertEntry, h]
  | cons head rest ih =>
    obtain ⟨n, t⟩ := head
    simp only [insertEntry]
    split
    · by_cases h : name = key <;> simp [h]
    split
    · rename_i heq
      subst heq
      by_cases h : name = key <;> simp [h]
    · rename_i hne
      by_cases h : n = key
      · have hne' : name ≠ key := fun hk => hne (hk.trans h.symm)
        simp [h, hne']
      · simp [h, ih]

@[simp] theorem find?_empty (name : String) : empty.find? name = none := rfl

@[simp] theorem find?_insert (c : Comments) (name text key : String) :
    (c.insert name text).find? key = if name = key then some text else c.find? key :=
  insertEntry_find? name text key c.entries

end Comments

end Scribe.Source
