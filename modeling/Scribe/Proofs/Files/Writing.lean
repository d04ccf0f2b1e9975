import Scribe.Proofs.Files.Atomic

/-!
# What writing changes in a tree

A change of a tree is made where a path leads in the tree before it, and what a caller asks is where
the path leads after it.  That is the same place, because a path is resolved through directories
only and no change takes a directory away (`resolve_mono`).  So a tree has the laws of single
operations, and what is more, every tree that has gained directories has kept those it had.
-/

namespace Scribe.Files

namespace Tree

variable {t t' t'' : Tree} {path : String} {paths : List String}

/-! ## Paths in a tree that keeps its directories -/

/-- Every directory of a tree is still there. -/
structure KeepsDirectories (t t' : Tree) : Prop where
  working : t'.working = t.working
  directory : ∀ k, t.at? k = some .directory → t'.at? k = some .directory

theorem enter_mono (h : t.KeepsDirectories t') {l l' : Location} {piece : List Char}
    (hl : t.enter l piece = .ok l') : t'.enter l piece = .ok l' := by
  by_cases hdot : (piece = [] || piece = ['.']) = true
  · rw [enter, if_pos hdot] at hl ⊢
    exact hl
  by_cases hup : piece = ['.', '.']
  · rw [enter, if_neg hdot, if_pos hup] at hl ⊢
    exact hl
  rw [enter, if_neg hdot, if_neg hup] at hl ⊢
  dsimp only at hl ⊢
  split at hl
  · simp at hl
  rename_i hlong
  rw [if_neg hlong]
  split at hl
  · simp at hl
  · simp at hl
  · rename_i hdirectory
    rw [h.directory _ hdirectory]
    exact hl

/-- What goes on from a directory that is entered goes on from it later too. -/
theorem enter_then_mono (h : t.KeepsDirectories t') {l : Location} {piece : List Char}
    {target : Target} {f g : Location → Except FileFault Target}
    (hmono : ∀ l, f l = .ok target → g l = .ok target)
    (htarget : (match t.enter l piece with
      | .error e => Except.error e
      | .ok l => f l) = .ok target) :
    (match t'.enter l piece with
      | .error e => Except.error e
      | .ok l => g l) = .ok target := by
  split at htarget
  · simp at htarget
  · rename_i l' hl'
    rw [enter_mono h hl']
    exact hmono l' htarget

theorem follow_mono (h : t.KeepsDirectories t') {l : Location} {ps : List (List Char)}
    {target : Target} (htarget : t.follow l ps = .ok target) : t'.follow l ps = .ok target := by
  induction ps generalizing l with
  | nil => exact htarget
  | cons piece rest ih =>
    rw [follow] at htarget ⊢
    split at htarget
    · rename_i hinner
      rw [if_pos hinner]
      exact enter_then_mono h (fun _ => ih) htarget
    · rename_i hinner
      rw [if_neg hinner]
      exact htarget

/-- **A path leads where it led before.** -/
theorem resolve_mono (h : t.KeepsDirectories t') {target : Target}
    (htarget : t.resolve path = .ok target) : t'.resolve path = .ok target := by
  have hbase : t'.base path = t.base path := by
    rw [base, base, h.working]
  rw [resolve] at htarget ⊢
  rw [hbase]
  split at htarget
  · simp at htarget
  · exact follow_mono h htarget

theorem KeepsDirectories.refl (t : Tree) : t.KeepsDirectories t := ⟨rfl, fun _ => id⟩

theorem KeepsDirectories.trans (h : t.KeepsDirectories t') (h' : t'.KeepsDirectories t'') :
    t.KeepsDirectories t'' :=
  ⟨h'.working.trans h.working, fun k hk => h'.directory k (h.directory k hk)⟩

theorem ne_root {l : Location} (h : t.at? l ≠ some .directory) : l ≠ [] := by
  rintro rfl
  exact h rfl

/-- What is put where no directory is takes no directory away. -/
theorem KeepsDirectories.put {l : Location} (h : t.at? l ≠ some .directory) (n : Node) :
    t.KeepsDirectories (t.put l n) := by
  refine ⟨rfl, ?_⟩
  intro k hk
  rw [at?_put t (ne_root h), if_neg]
  · exact hk
  · rintro rfl
    exact h hk

/-- A path leads to a location. -/
def LeadsTo (t : Tree) (path : String) (l : Location) : Prop :=
  t.resolve path = .ok (.directory l) ∨ ∃ slash, t.resolve path = .ok (.entry l slash)

theorem LeadsTo.mono (h : t.KeepsDirectories t') {l : Location} (hl : t.LeadsTo path l) :
    t'.LeadsTo path l := by
  rcases hl with hl | ⟨slash, hl⟩
  · exact .inl (resolve_mono h hl)
  · exact .inr ⟨slash, resolve_mono h hl⟩

/-! ## The laws of single operations -/

/-- Making a directory fails and changes nothing, or puts the directory where the path leads. -/
theorem makeDirectory_cases (t : Tree) (path : String) :
    (∃ e, t.makeDirectory path = (.error e, t)) ∨
      ∃ l, t.LeadsTo path l ∧ t.at? l = none ∧
        t.makeDirectory path = (.ok (), t.put l .directory) := by
  unfold makeDirectory
  split
  · rename_i e _
    exact .inl ⟨e, rfl⟩
  · exact .inl ⟨.alreadyExists, rfl⟩
  · rename_i l slash hresolve
    split
    · exact .inl ⟨.alreadyExists, rfl⟩
    · rename_i hsome
      exact .inr ⟨l, .inr ⟨slash, hresolve⟩, by simpa using hsome, rfl⟩

/-- Writing fails and changes nothing, or puts the file where the path leads. -/
theorem write_cases (t : Tree) (path : String) (content : ByteArray) :
    (∃ e, t.write path content = (.error e, t)) ∨
      ∃ l, t.resolve path = .ok (.entry l false) ∧ t.at? l ≠ some .directory ∧
        t.write path content = (.ok (), t.put l (.file content)) := by
  unfold write
  split
  · rename_i e _
    exact .inl ⟨e, rfl⟩
  · exact .inl ⟨.isDirectory, rfl⟩
  · rename_i l slash hresolve
    split
    · exact .inl ⟨.isDirectory, rfl⟩
    · rename_i hwrite
      rw [Bool.or_eq_true, not_or, Bool.not_eq_true] at hwrite
      refine .inr ⟨l, hwrite.1 ▸ hresolve, ?_, rfl⟩
      intro hdirectory
      rw [hdirectory] at hwrite
      exact hwrite.2 rfl

instance : AtomicFiles Tree where
  at? := at?
  put := put
  LeadsTo := LeadsTo
  at?_put h n k := at?_put _ (ne_root h) n k
  leadsTo_put h n _ _ hlead := hlead.mono (KeepsDirectories.put h n)
  makeDirectory_cases := makeDirectory_cases
  write_cases t path content := by
    rcases t.write_cases path content with hfailed | ⟨l, hresolve, hl, hwrite⟩
    · exact .inl hfailed
    · exact .inr ⟨l, .inr ⟨false, hresolve⟩, hl, hwrite⟩

/-- A tree that has gained directories has kept those that it had. -/
theorem keepsDirectories_of_gains (h : Gains paths t t') : t.KeepsDirectories t' := by
  induction h with
  | refl => exact .refl t
  | @make t' path l _ _ _ hnone ih =>
    have hat : t'.at? l = none := hnone
    exact ih.trans (.put (by simp [hat]) .directory)

/-! ## Writing where a path leads -/

/-- A directory that is there is not made. -/
theorem makeDirectory_of_isDirectory (h : t.isDirectory path) :
    t.makeDirectory path = (.error .alreadyExists, t) := by
  rw [isDirectory, node?] at h
  rw [makeDirectory]
  split at h
  · simp at h
  · rfl
  · rename_i l slash _
    rw [if_pos]
    cases hat : t.at? l with
    | none => simp [hat] at h
    | some n => rfl

theorem makeDirectories_of_isDirectory (h : t.isDirectory path) :
    t.makeDirectories path = (.ok (), t) := by
  have hmake : FileSystem.makeDirectory t path = (.error .alreadyExists, t) :=
    makeDirectory_of_isDirectory h
  have hthere : FileSystem.isDirectory t path = true := h
  rw [makeDirectories, Files.makeDirectories, makeDirectoriesAlong, hmake]
  simp [hthere]

/-- What is put at a place replaces what was put there. -/
theorem put_put (t : Tree) (l : Location) (n n' : Node) : (t.put l n).put l n' = t.put l n' := by
  simp [put]

/-- The bytes of a text are read as this text. -/
theorem textOf_toUTF8 (text : String) : textOf text.toUTF8 = .ok text := by
  have hutf8 : String.fromUTF8? text.toUTF8 = some text := dif_pos text.isValidUTF8
  rw [textOf, hutf8]

section
variable {l : Location} {content : ByteArray}

theorem readBytes_eq_ok_iff :
    t.readBytes path = .ok content ↔
      ∃ l, t.resolve path = .ok (.entry l false) ∧ t.at? l = some (.file content) := by
  rw [readBytes]
  split
  · rename_i hresolve
    simp [hresolve]
  · rename_i hresolve
    simp [hresolve]
  · rename_i l slash hresolve
    split
    · rename_i hat
      simp [hresolve, hat]
    · rename_i hat
      simp [hresolve, hat]
    · rename_i content' hat
      cases slash <;> simp [hresolve, hat]

/-- What is read is a file. -/
theorem exists_of_readText {text : String} (h : t.readText path = .ok text) :
    ∃ l content, t.resolve path = .ok (.entry l false) ∧ t.at? l = some (.file content) := by
  rw [readText] at h
  split at h
  · simp at h
  rename_i content hbytes
  obtain ⟨l, hresolve, hat⟩ := readBytes_eq_ok_iff.1 hbytes
  exact ⟨l, content, hresolve, hat⟩

/-- A file is read as before after another one was put elsewhere. -/
theorem readText_put {l' : Location} (hresolve : t.resolve path = .ok (.entry l false))
    (hat : t.at? l = some (.file content)) (hl' : t.at? l' ≠ some .directory) (hne : l ≠ l')
    (content' : ByteArray) : (t.put l' (.file content')).readText path = t.readText path := by
  have hthere := resolve_mono (KeepsDirectories.put hl' (.file content')) hresolve
  have hat' : (t.put l' (.file content')).at? l = some (.file content) := by
    rw [at?_put t (ne_root hl'), if_neg hne, hat]
  rw [readText, readText, readBytes_eq_ok_iff.2 ⟨l, hresolve, hat⟩,
    readBytes_eq_ok_iff.2 ⟨l, hthere, hat'⟩]

end

end Tree

end Scribe.Files
