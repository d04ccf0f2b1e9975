import Scribe.Files.Disk
import Scribe.Proofs.Files.Writing

/-!
# What writing changes on a disk

The laws of single operations hold of a disk with its links, further names and refusals too.  A path
is followed through directories and links, of which no change takes any away, and no change closes a
directory; so a path that leads somewhere goes on leading there (`resolve_mono`).
-/

namespace Scribe.Files

namespace Disk

variable {d : Disk} {t : Tree} {path : String} {l : Location} {target : Tree.Target}
  {through through' : Bool}

/-! ## Paths on a disk that keeps its directories -/

/-- What is found without following a last link is found when it is to be followed. -/
theorem walk_mono (h : d.tree.KeepsDirectories t) (hthrough : through → through')
    {again again' : Location → List (List Char) → Except FileFault Tree.Target}
    (hagain : ∀ l ps target, again l ps = .ok target → again' l ps = .ok target)
    {ps : List (List Char)} (htarget : d.walk through again l ps = .ok target) :
    ({ d with tree := t } : Disk).walk through' again' l ps = .ok target := by
  induction ps generalizing l with
  | nil => exact htarget
  | cons piece rest ih =>
    rw [walk] at htarget ⊢
    dsimp only at htarget ⊢
    split at htarget
    · rename_i hempty
      rw [if_pos hempty]
      exact ih htarget
    rename_i hempty
    rw [if_neg hempty]
    split at htarget
    · simp at htarget
    split at htarget
    · rename_i hdots
      rw [if_pos hdots]
      exact Tree.enter_then_mono h (fun _ => ih) htarget
    rename_i hdots
    rw [if_neg hdots]
    split at htarget
    · split at htarget
      · simp at htarget
      rename_i hfollowed
      rw [if_neg]
      · exact hagain _ _ _ htarget
      · intro hlast
        simp only [Bool.and_eq_true, Bool.not_eq_true'] at hlast hfollowed
        cases through with
        | false => exact hfollowed ⟨hlast.1, rfl⟩
        | true => simp [hthrough rfl] at hlast
    · split at htarget
      · rename_i hlast
        rw [if_pos hlast]
        exact htarget
      · rename_i hlast
        rw [if_neg hlast]
        exact Tree.enter_then_mono h (fun _ => ih) htarget

theorem follow_mono (h : d.tree.KeepsDirectories t) (hthrough : through → through') {links : Nat}
    {ps : List (List Char)} (htarget : d.follow through links l ps = .ok target) :
    ({ d with tree := t } : Disk).follow through' links l ps = .ok target := by
  induction links generalizing l ps target with
  | zero => exact walk_mono h hthrough (fun _ _ _ hnone => by simp at hnone) htarget
  | succ links ih => exact walk_mono h hthrough (fun _ _ _ hagain => ih hagain) htarget

/-- **A path leads where it led before.** -/
theorem resolve_mono (h : d.tree.KeepsDirectories t) (hthrough : through → through')
    (htarget : d.resolve through path = .ok target) :
    ({ d with tree := t } : Disk).resolve through' path = .ok target := by
  have hbase : t.base path = d.tree.base path := by
    rw [Tree.base, Tree.base, h.working]
  rw [resolve] at htarget ⊢
  rw [hbase]
  split at htarget
  · simp at htarget
  · exact follow_mono h hthrough htarget

/-- A path leads to a location, through links. -/
def LeadsTo (d : Disk) (path : String) (l : Location) : Prop :=
  d.resolve true path = .ok (.directory l) ∨ ∃ slash, d.resolve true path = .ok (.entry l slash)

theorem LeadsTo.put {k : Location} (hk : d.LeadsTo path k) (hl : d.tree.at? l ≠ some .directory)
    (n : Node) : (d.put l n).LeadsTo path k := by
  have hkeeps := Tree.KeepsDirectories.put hl n
  rcases hk with hk | ⟨slash, hk⟩
  · exact .inl (resolve_mono hkeeps id hk)
  · exact .inr ⟨slash, resolve_mono hkeeps id hk⟩

/-! ## The laws of single operations -/

/-- Making a directory fails and changes nothing, or puts the directory where the path leads. -/
theorem makeDirectory_cases (d : Disk) (path : String) :
    (∃ e, d.makeDirectory path = (.error e, d)) ∨
      ∃ l, d.LeadsTo path l ∧ d.tree.at? l = none ∧
        d.makeDirectory path = (.ok (), d.put l .directory) := by
  unfold makeDirectory
  split
  · rename_i e _
    exact .inl ⟨e, rfl⟩
  · exact .inl ⟨.alreadyExists, rfl⟩
  · rename_i l slash hresolve
    split
    · exact .inl ⟨.alreadyExists, rfl⟩
    rename_i hsome
    split
    · rename_i e _
      exact .inl ⟨e, rfl⟩
    · have hlead : d.resolve true path = .ok (.entry l slash) :=
        resolve_mono (.refl d.tree) (by simp) hresolve
      exact .inr ⟨l, .inr ⟨slash, hlead⟩, by simpa using hsome, rfl⟩

/-- Writing fails and changes nothing, or puts the file where the path leads. -/
theorem write_cases (d : Disk) (path : String) (content : ByteArray) :
    (∃ e, d.write path content = (.error e, d)) ∨
      ∃ l, d.LeadsTo path l ∧ d.tree.at? l ≠ some .directory ∧
        d.write path content = (.ok (), d.put l (.file content)) := by
  unfold write
  split
  · rename_i e _
    exact .inl ⟨e, rfl⟩
  · exact .inl ⟨.isDirectory, rfl⟩
  · rename_i l slash hresolve
    split
    · exact .inl ⟨.isDirectory, rfl⟩
    rename_i hwrite
    split
    · rename_i e _
      exact .inl ⟨e, rfl⟩
    · refine .inr ⟨l, .inr ⟨slash, hresolve⟩, ?_, rfl⟩
      intro hdirectory
      simp [hdirectory, Node.isDirectory] at hwrite

end Disk

instance : AtomicFiles Disk where
  at? d l := d.tree.at? l
  put := Disk.put
  LeadsTo := Disk.LeadsTo
  at?_put h n k := Tree.at?_put _ (Tree.ne_root h) n k
  leadsTo_put h n _ _ hlead := hlead.put h n
  makeDirectory_cases := Disk.makeDirectory_cases
  write_cases := Disk.write_cases

end Scribe.Files
