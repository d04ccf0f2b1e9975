import Scribe.Files.System

/-!
# All or nothing, one operation at a time

What the code relies on in a file system is that a single operation either fails and changes nothing
or is complete (`AtomicFiles`).  This says nothing of what takes several of them: making a directory
with those above it can fail half way.  It then has added directories where nothing was and changed
nothing else (`makeDirectories_gains`).

The laws are no assumption about trees or disks, for which they are proved
(`Scribe.Proofs.Files.Writing`, `Scribe.Proofs.Files.Disk`).
-/

namespace Scribe.Files

/-! ## The laws -/

/-- A file system that shows what is at each location, and in which the directory that is made and
the file that is written are put where the path leads. -/
class AtomicFiles (σ : Type) [FileSystem σ] where
  at? : σ → Location → Option Node
  put : σ → Location → Node → σ
  /-- A path leads to a location. -/
  LeadsTo : σ → String → Location → Prop
  at?_put {s : σ} {l : Location} (h : at? s l ≠ some .directory) (n : Node) (k : Location) :
    at? (put s l n) k = if k = l then some n else at? s k
  /-- A path leads where it led before if no directory is taken away. -/
  leadsTo_put {s : σ} {l : Location} (h : at? s l ≠ some .directory) (n : Node) {path : String}
    {k : Location} (hlead : LeadsTo s path k) : LeadsTo (put s l n) path k
  /-- Making a directory fails and changes nothing, or is complete. -/
  makeDirectory_cases (s : σ) (path : String) :
    (∃ e, FileSystem.makeDirectory s path = (.error e, s)) ∨
      ∃ l, LeadsTo s path l ∧ at? s l = none ∧
        FileSystem.makeDirectory s path = (.ok (), put s l .directory)
  /-- Writing a file fails and changes nothing, or is complete. -/
  write_cases (s : σ) (path : String) (content : ByteArray) :
    (∃ e, FileSystem.write s path content = (.error e, s)) ∨
      ∃ l, LeadsTo s path l ∧ at? s l ≠ some .directory ∧
        FileSystem.write s path content = (.ok (), put s l (.file content))

open AtomicFiles

variable {σ : Type} [FileSystem σ] [AtomicFiles σ] {s s' s'' : σ} {path : String}
  {paths paths' : List String}

/-! ## Directories that are gained -/

/-- All is as it was, but for new directories at some of the places where the paths lead. -/
inductive Gains (paths : List String) (s : σ) : σ → Prop where
  | refl : Gains paths s s
  | make {s' : σ} {path : String} {l : Location} (h : Gains paths s s') (hmem : path ∈ paths)
      (hlead : LeadsTo s' path l) (hnone : at? s' l = none) : Gains paths s (put s' l .directory)

/-- A location holds what it held, or a new directory that one of the paths leads to. -/
def SameOrGained (paths : List String) (s s' : σ) (k : Location) : Prop :=
  at? s' k = at? s k ∨
    (at? s k = none ∧ at? s' k = some .directory ∧ ∃ path ∈ paths, LeadsTo s' path k)

/-- All but the place of a node is as it was when the node is put there. -/
theorem SameOrGained.put {k l : Location} (h : SameOrGained paths s s' k)
    (hl : at? s' l ≠ some .directory) (n : Node) (hk : k ≠ l) :
    SameOrGained paths s (put s' l n) k := by
  have hat : at? (AtomicFiles.put s' l n) k = at? s' k := by
    rw [at?_put hl, if_neg hk]
  rcases h with heq | ⟨hnone, hdirectory, path, hmem, hlead⟩
  · exact .inl (hat.trans heq)
  · exact .inr ⟨hnone, hat.trans hdirectory, path, hmem, leadsTo_put hl n hlead⟩

namespace Gains

theorem trans (h : Gains paths s s') (h' : Gains paths s' s'') : Gains paths s s'' := by
  induction h' with
  | refl => exact h
  | make _ hmem hlead hnone ih => exact ih.make hmem hlead hnone

theorem mono (h : Gains paths s s') (hpaths : paths ⊆ paths') : Gains paths' s s' := by
  induction h with
  | refl => exact .refl
  | make _ hmem hlead hnone ih => exact ih.make (hpaths hmem) hlead hnone

theorem node (h : Gains paths s s') (k : Location) : SameOrGained paths s s' k := by
  induction h with
  | refl => exact .inl rfl
  | @make s' path l _ hmem hlead hnone ih =>
    have hl : at? s' l ≠ some .directory := by simp [hnone]
    by_cases hk : k = l
    · subst hk
      have hold : at? s k = none := by
        rcases ih with heq | ⟨hold, -, -⟩
        · rw [← heq, hnone]
        · exact hold
      refine .inr ⟨hold, ?_, path, hmem, leadsTo_put hl _ hlead⟩
      rw [at?_put hl, if_pos rfl]
    · exact ih.put hl _ hk

/-- The files are the same. -/
theorem file_iff (h : Gains paths s s') (k : Location) (content : ByteArray) :
    at? s' k = some (.file content) ↔ at? s k = some (.file content) := by
  rcases h.node k with heq | ⟨hnone, hdirectory, -⟩
  · rw [heq]
  · simp [hnone, hdirectory]

end Gains

/-! ## Making directories -/

theorem makeDirectory_gains {outcome : Except FileFault Unit}
    (h : FileSystem.makeDirectory s path = (outcome, s')) (hmem : path ∈ paths) :
    Gains paths s s' := by
  rcases makeDirectory_cases s path with ⟨e, hmake⟩ | ⟨l, hlead, hnone, hmake⟩
  · obtain ⟨-, rfl⟩ := Prod.mk.inj (hmake.symm.trans h)
    exact .refl
  · obtain ⟨-, rfl⟩ := Prod.mk.inj (hmake.symm.trans h)
    exact Gains.refl.make hmem hlead hnone

/-- **Making directories adds directories where the paths lead,** whether all are made or not. -/
theorem makeDirectoriesAlong_gains (s : σ) (paths : List String) :
    Gains paths s (makeDirectoriesAlong s paths).2 := by
  induction paths with
  | nil => exact .refl
  | cons path above ih =>
    have hhere : path ∈ path :: above := List.mem_cons_self
    have habove := ih.mono (List.subset_cons_self path above)
    rw [makeDirectoriesAlong]
    split
    · exact .refl
    split
    · rename_i hmake
      exact makeDirectory_gains hmake hhere
    · split
      · rename_i hmake
        rw [hmake] at habove
        exact habove
      · rename_i hmake
        rw [hmake] at habove
        split
        · rename_i hagain
          exact habove.trans (makeDirectory_gains hagain hhere)
        · rename_i hagain
          exact habove.trans (makeDirectory_gains hagain hhere)
    · rename_i hmake
      exact makeDirectory_gains hmake hhere

theorem makeDirectories_gains (s : σ) (path : String) :
    Gains (path :: ancestors path path.length) s (makeDirectories s path).2 :=
  makeDirectoriesAlong_gains s _

end Scribe.Files
