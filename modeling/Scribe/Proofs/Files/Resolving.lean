import Scribe.Proofs.Files.Writing

/-!
# Where paths lead

A path is followed in two parts: its pieces up to a last name are entered one after the other, and
the name is not looked at (`follow_append`).  So where a path leads is decided by the directory that
its first pieces lead to and by what comes after them, and a path that goes on from that of a
directory (`Below`) leads to a place below this directory (`Below.exists_leadsTo`).  The two
ways to come by such paths are to join a name to a directory (`below_join`) and to ask for the
parent of a path (`exists_below_of_parent`), whatever slashes and dots stand in between.
-/

namespace Scribe.Files

/-! ## Pieces -/

theorem piecesFrom_eq_splitOnPPrepend (piece s : List Char) :
    piecesFrom piece s = s.splitOnPPrepend (· == '/') piece := by
  induction s generalizing piece with
  | nil => rfl
  | cons c rest ih =>
    rw [piecesFrom, List.splitOnPPrepend_cons_eq_if, ih, ih, List.splitOnPPrepend_nil_right]
    simp

theorem pieces_eq_splitOn (path : String) : pieces path = path.toList.splitOn '/' :=
  piecesFrom_eq_splitOnPPrepend [] path.toList

/-- The last piece of a text takes in what is appended to it, up to a slash. -/
theorem exists_last_piece (s : List Char) :
    ∃ ps last, '/' ∉ last ∧ ∀ x, '/' ∉ x → (s ++ x).splitOn '/' = ps ++ [last ++ x] := by
  by_cases hs : '/' ∈ s
  · obtain ⟨a, b, hrev, ha⟩ := List.eq_append_cons_of_mem (List.mem_reverse.2 hs)
    have hs : s = b.reverse ++ '/' :: a.reverse := by
      rw [← List.reverse_reverse s, hrev]
      simp
    refine ⟨b.reverse.splitOn '/', a.reverse, by simpa using ha, ?_⟩
    intro x hx
    have hlast : (a.reverse ++ x).splitOn '/' = [a.reverse ++ x] :=
      List.splitOn_eq_singleton (by simp [ha, hx])
    rw [hs, List.append_assoc, List.cons_append, List.splitOn_append_cons_self, hlast]
  · refine ⟨[], s, hs, ?_⟩
    intro x hx
    rw [List.splitOn_eq_singleton (by simp [hs, hx])]
    rfl

theorem exists_piece_of_mem {s : List Char} {c : Char} (hc : c ∈ s) (hslash : c ≠ '/') :
    ∃ piece ∈ s.splitOn '/', piece ≠ [] := by
  induction s with
  | nil => simp at hc
  | cons d rest ih =>
    rw [List.splitOn_cons_eq_if_modifyHead]
    obtain ⟨first, more, hrest⟩ := List.exists_cons_of_ne_nil (List.splitOn_ne_nil '/' rest)
    split
    · rename_i hd
      obtain rfl : d = '/' := by simpa using hd
      obtain ⟨piece, hmem, hne⟩ := ih ((List.mem_cons.1 hc).resolve_left hslash)
      exact ⟨piece, List.mem_cons_of_mem _ hmem, hne⟩
    · rw [hrest]
      exact ⟨d :: first, List.mem_cons_self, by simp⟩

namespace Tree

variable {t : Tree} {l k d : Location} {ps rest : List (List Char)} {target : Target}

/-! ## Following pieces -/

/-- A piece names something in the directory that it stands in. -/
def IsName (piece : List Char) : Prop := piece ≠ [] ∧ piece ≠ ['.'] ∧ piece ≠ ['.', '.']

theorem isName_of_length {piece : List Char} (h : 2 < piece.length) : IsName piece := by
  refine ⟨?_, ?_, ?_⟩ <;> rintro rfl <;> simp at h

/-- A piece has to be entered, or it is a name with nothing but slashes after it. -/
theorem entered_or_last (piece : List Char) (rest : List (List Char)) :
    (¬ IsName piece ∨ ∃ q ∈ rest, q ≠ []) ∨ (IsName piece ∧ ∀ q ∈ rest, q = []) := by
  by_cases hname : IsName piece
  · by_cases hrest : ∀ q ∈ rest, q = []
    · exact .inr ⟨hname, hrest⟩
    · exact .inl (.inr (by simpa using hrest))
  · exact .inl (.inl hname)

theorem follow_cons_of_more {piece : List Char} (h : ¬ IsName piece ∨ ∃ q ∈ rest, q ≠ []) :
    t.follow l (piece :: rest) = .ok target ↔
      ∃ l', t.enter l piece = .ok l' ∧ t.follow l' rest = .ok target := by
  rw [follow]
  split
  · cases t.enter l piece <;> simp
  · rename_i hlast
    obtain ⟨hname, hrest⟩ : IsName piece ∧ ∀ q ∈ rest, q = [] := by
      simpa [IsName, and_assoc] using hlast
    rcases h with h | ⟨q, hq, hne⟩
    · exact absurd hname h
    · exact absurd (hrest q hq) hne

/-- A name with nothing but slashes after it need not be there. -/
theorem follow_cons_of_isName {piece : List Char} (h : IsName piece) (hrest : ∀ q ∈ rest, q = []) :
    t.follow l (piece :: rest) =
      if maxName < (String.ofList piece).utf8ByteSize then .error .nameTooLong
      else .ok (.entry (l ++ [String.ofList piece]) (rest ≠ [])) := by
  rw [follow, if_neg]
  obtain ⟨h1, h2, h3⟩ := h
  simpa [h1, h2, h3] using hrest

/-- Where a name alone leads depends on no tree. -/
theorem follow_name {piece : List Char} (h : IsName piece) :
    t.follow l [piece] = .ok target ↔
      ¬ maxName < (String.ofList piece).utf8ByteSize ∧
        target = .entry (l ++ [String.ofList piece]) false := by
  rw [follow_cons_of_isName h (by simp)]
  split
  · rename_i hlong
    simp [hlong]
  · rename_i hshort
    simp [hshort, eq_comm]

theorem foldlM_enter_cons {piece : List Char} :
    (piece :: ps).foldlM t.enter l = .ok d ↔
      ∃ l', t.enter l piece = .ok l' ∧ ps.foldlM t.enter l' = .ok d := by
  rw [List.foldlM_cons]
  cases t.enter l piece <;> simp [bind, Except.bind]

theorem foldlM_enter_append {ps' : List (List Char)} :
    (ps ++ ps').foldlM t.enter l = .ok d ↔
      ∃ l', ps.foldlM t.enter l = .ok l' ∧ ps'.foldlM t.enter l' = .ok d := by
  rw [List.foldlM_append]
  cases ps.foldlM t.enter l <;> simp [bind, Except.bind]

theorem foldlM_enter_mono {t' : Tree} (h : t.KeepsDirectories t')
    (hd : ps.foldlM t.enter l = .ok d) : ps.foldlM t'.enter l = .ok d := by
  induction ps generalizing l with
  | nil => exact hd
  | cons piece ps ih =>
    obtain ⟨l', henter, hrest⟩ := foldlM_enter_cons.1 hd
    exact foldlM_enter_cons.2 ⟨l', enter_mono h henter, ih hrest⟩

/-- What comes before a piece that is not empty is entered. -/
theorem follow_append (ps : List (List Char)) (hrest : ∃ q ∈ rest, q ≠ []) :
    t.follow l (ps ++ rest) = .ok target ↔
      ∃ d, ps.foldlM t.enter l = .ok d ∧ t.follow d rest = .ok target := by
  induction ps generalizing l with
  | nil => simp [pure, Except.pure]
  | cons piece ps ih =>
    obtain ⟨q, hq, hne⟩ := hrest
    rw [List.cons_append, follow_cons_of_more (.inr ⟨q, List.mem_append_right _ hq, hne⟩)]
    constructor
    · rintro ⟨l', henter, hfollow⟩
      obtain ⟨d, hwalk, hfollow⟩ := ih.1 hfollow
      exact ⟨d, foldlM_enter_cons.2 ⟨l', henter, hwalk⟩, hfollow⟩
    · rintro ⟨d, hwalk, hfollow⟩
      obtain ⟨l', henter, hwalk⟩ := foldlM_enter_cons.1 hwalk
      exact ⟨l', henter, ih.2 ⟨d, hwalk, hfollow⟩⟩

theorem enter_nil : t.enter l [] = .ok l := by
  rw [enter, if_pos (by simp)]

/-- A name is entered if it is the name of a directory. -/
theorem enter_of_isName {piece : List Char} (h : IsName piece) (henter : t.enter l piece = .ok d) :
    ¬ maxName < (String.ofList piece).utf8ByteSize ∧ d = l ++ [String.ofList piece] ∧
      t.at? d = some .directory := by
  obtain ⟨h1, h2, h3⟩ := h
  rw [enter, if_neg (by simp [h1, h2]), if_neg h3] at henter
  dsimp only at henter
  split at henter
  · simp at henter
  rename_i hshort
  split at henter
  · simp at henter
  · simp at henter
  · rename_i hat
    obtain rfl := Except.ok.inj henter
    exact ⟨hshort, rfl, hat⟩

theorem foldlM_enter_of_empty (h : ∀ q ∈ ps, q = []) : ps.foldlM t.enter l = .ok l := by
  induction ps with
  | nil => rfl
  | cons piece ps ih =>
    rw [h piece List.mem_cons_self, foldlM_enter_cons]
    exact ⟨l, enter_nil, ih fun q hq => h q (List.mem_cons_of_mem _ hq)⟩

/-- What can be entered all the way leads to a directory. -/
theorem follow_of_foldlM_enter (h : ps.foldlM t.enter l = .ok d) :
    t.follow l ps = .ok (.directory d) ∨
      ∃ slash, t.follow l ps = .ok (.entry d slash) ∧ t.at? d = some .directory := by
  induction ps generalizing l with
  | nil =>
    obtain rfl : l = d := Except.ok.inj h
    exact .inl rfl
  | cons piece ps ih =>
    obtain ⟨l', henter, hwalk⟩ := foldlM_enter_cons.1 h
    rcases entered_or_last piece ps with hmore | ⟨hname, hempty⟩
    · rcases ih hwalk with hfollow | ⟨slash, hfollow, hat⟩
      · exact .inl ((follow_cons_of_more hmore).2 ⟨l', henter, hfollow⟩)
      · exact .inr ⟨slash, (follow_cons_of_more hmore).2 ⟨l', henter, hfollow⟩, hat⟩
    · obtain ⟨hshort, rfl, hat⟩ := enter_of_isName hname henter
      obtain rfl := Except.ok.inj ((foldlM_enter_of_empty hempty).symm.trans hwalk)
      rw [follow_cons_of_isName hname hempty, if_neg hshort]
      exact .inr ⟨_, rfl, hat⟩

/-- Where a path leads is in the directory that the pieces before its last one lead to. -/
theorem exists_last_of_follow (h : t.follow l ps = .ok (.entry k false)) :
    ∃ before name d, ps = before ++ [name] ∧ IsName name ∧ before.foldlM t.enter l = .ok d ∧
      k = d ++ [String.ofList name] := by
  induction ps generalizing l with
  | nil => simp [follow] at h
  | cons piece rest ih =>
    rcases entered_or_last piece rest with hmore | ⟨hname, hempty⟩
    · obtain ⟨l', henter, hfollow⟩ := (follow_cons_of_more hmore).1 h
      obtain ⟨before, name, d, rfl, hname, hbefore, hk⟩ := ih hfollow
      exact ⟨piece :: before, name, d, rfl, hname, foldlM_enter_cons.2 ⟨l', henter, hbefore⟩, hk⟩
    · rw [follow_cons_of_isName hname hempty] at h
      split at h
      · simp at h
      · obtain ⟨rfl, rfl⟩ : l ++ [String.ofList piece] = k ∧ rest = [] := by simpa using h
        exact ⟨[], piece, l, rfl, hname, rfl, rfl⟩

/-! ## Paths -/

/-- A path that can be followed at all. -/
def IsPath (path : String) : Prop :=
  path.toList.any (· = Char.ofNat 0) = false ∧ path ≠ "" ∧ path.utf8ByteSize ≤ maxPath

theorem pathFault?_eq_none_iff {path : String} : pathFault? path = none ↔ IsPath path := by
  rw [pathFault?, IsPath]
  cases path.toList.any (· = Char.ofNat 0) with
  | true => simp
  | false =>
    by_cases hempty : path = ""
    · simp [hempty]
    · simp [hempty]

theorem resolve_eq_ok_iff {path : String} :
    t.resolve path = .ok target ↔
      IsPath path ∧ t.follow (t.base path) (pieces path) = .ok target := by
  rw [resolve, ← pathFault?_eq_none_iff]
  cases pathFault? path <;> simp

/-- The path of a directory. -/
theorem isDirectory_of_foldlM_enter {path : String} (hpath : IsPath path)
    (h : (pieces path).foldlM t.enter (t.base path) = .ok d) :
    t.isDirectory path ∧ t.LeadsTo path d := by
  rcases follow_of_foldlM_enter h with hfollow | ⟨slash, hfollow, hat⟩
  · have hresolve := resolve_eq_ok_iff.2 ⟨hpath, hfollow⟩
    refine ⟨?_, .inl hresolve⟩
    rw [isDirectory, node?, hresolve]
    rfl
  · have hresolve := resolve_eq_ok_iff.2 ⟨hpath, hfollow⟩
    refine ⟨?_, .inr ⟨slash, hresolve⟩⟩
    rw [isDirectory, node?, hresolve]
    dsimp only
    rw [hat]
    rfl

end Tree

/-! ## Paths below a directory -/

/-- A path goes on from that of a directory by some pieces. -/
structure Below (dir path : String) (rest : List (List Char)) : Prop where
  ne : dir ≠ ""
  starts : ∃ more, path = dir ++ more
  /-- The path of the directory may end in a slash. -/
  pieces_eq : ∃ ps, pieces path = ps ++ rest ∧ (pieces dir = ps ∨ pieces dir = ps ++ [[]])

namespace Below

variable {t : Tree} {dir path : String} {rest : List (List Char)} {target : Tree.Target}

theorem base_eq (h : Below dir path rest) : t.base path = t.base dir := by
  obtain ⟨more, rfl⟩ := h.starts
  obtain ⟨c, s, hdir⟩ := List.exists_cons_of_ne_nil (l := dir.toList) (by simpa using h.ne)
  simp [Tree.base, isAbsolute, hdir]

theorem isPath (h : Below dir path rest) (hpath : Tree.IsPath path) : Tree.IsPath dir := by
  obtain ⟨more, rfl⟩ := h.starts
  obtain ⟨hnul, -, hlong⟩ := hpath
  rw [String.toList_append, List.any_append, Bool.or_eq_false_iff] at hnul
  rw [String.utf8ByteSize_append] at hlong
  exact ⟨hnul.1, h.ne, by omega⟩

/-- **The directory is there, and the rest of the path is followed from it.** -/
theorem exists_leadsTo (h : Below dir path rest) (hrest : ∃ q ∈ rest, q ≠ [])
    (hpath : t.resolve path = .ok target) :
    ∃ d, t.isDirectory dir ∧ t.LeadsTo dir d ∧ t.follow d rest = .ok target := by
  obtain ⟨hvalid, hfollow⟩ := Tree.resolve_eq_ok_iff.1 hpath
  obtain ⟨ps, hpieces, hdir⟩ := h.pieces_eq
  rw [hpieces, Tree.follow_append ps hrest, h.base_eq] at hfollow
  obtain ⟨d, hbefore, hfollow⟩ := hfollow
  have hwalk : (pieces dir).foldlM t.enter (t.base dir) = .ok d := by
    rcases hdir with hdir | hdir
    · rw [hdir, hbefore]
    · rw [hdir, Tree.foldlM_enter_append]
      exact ⟨d, hbefore, Tree.foldlM_enter_of_empty (by simp)⟩
  obtain ⟨hdirectory, hlead⟩ := Tree.isDirectory_of_foldlM_enter (h.isPath hvalid) hwalk
  exact ⟨d, hdirectory, hlead, hfollow⟩

end Below

/-! ## Joining a name -/

theorem below_join {dir name : String} (hne : dir ≠ "") (hname : '/' ∉ name.toList) :
    Below dir (join dir name) [name.toList] := by
  have hrelative : isAbsolute name = false := by
    rw [isAbsolute, decide_eq_false_iff_not]
    exact fun hhead => hname (List.mem_of_head? hhead)
  rw [join, hrelative, if_neg (by simpa using hne)]
  split
  · rename_i hslash
    obtain ⟨s, hs⟩ := List.getLast?_eq_some_iff.1 hslash
    refine ⟨hne, ⟨name, rfl⟩, s.splitOn '/', ?_, .inr ?_⟩
    · rw [pieces_eq_splitOn, String.toList_append, hs, List.append_assoc, List.singleton_append,
        List.splitOn_append_cons_self, List.splitOn_eq_singleton hname]
    · rw [pieces_eq_splitOn, hs, List.splitOn_append_cons_self, List.splitOn_nil]
  · refine ⟨hne, ⟨"/" ++ name, by rw [String.append_assoc]⟩, pieces dir, ?_, .inl rfl⟩
    have hpath : (dir ++ "/" ++ name).toList = dir.toList ++ '/' :: name.toList := by simp
    rw [pieces_eq_splitOn, hpath, List.splitOn_append_cons_self, List.splitOn_eq_singleton hname,
      ← pieces_eq_splitOn]

/-! ## Asking for the parent -/

/-- Only the path of the root is left with a slash at its end. -/
theorem dropIdle_eq_slash {s rest : List Char} (h : dropIdle s = '/' :: rest) : rest = [] := by
  fun_induction dropIdle s with
  | case1 => exact (List.cons.inj h).2.symm
  | case2 _ _ ih => exact ih h
  | case3 _ ih => exact ih h
  | case4 s hslash _ => exact absurd h (hslash rest)

/-- What is dropped is nothing, or all but the slash of the root, or ends at a slash. -/
theorem dropIdle_cases (s : List Char) :
    dropIdle s = s ∨ (dropIdle s = ['/'] ∧ ∃ idle, s = idle ++ ['/']) ∨
      ∃ idle, s = idle ++ '/' :: dropIdle s := by
  fun_induction dropIdle s with
  | case1 => exact .inl rfl
  | case2 rest _ ih =>
    rcases ih with hsame | ⟨hroot, idle, hidle⟩ | ⟨idle, hidle⟩
    · exact .inr (.inr ⟨[], by rw [hsame]; rfl⟩)
    · exact .inr (.inl ⟨hroot, '/' :: idle, congrArg ('/' :: ·) hidle⟩)
    · exact .inr (.inr ⟨'/' :: idle, congrArg ('/' :: ·) hidle⟩)
  | case3 rest ih =>
    rcases ih with hsame | ⟨hroot, idle, hidle⟩ | ⟨idle, hidle⟩
    · obtain rfl := dropIdle_eq_slash hsame
      exact .inr (.inl ⟨hsame, ['.'], rfl⟩)
    · exact .inr (.inl ⟨hroot, '.' :: idle, congrArg ('.' :: ·) hidle⟩)
    · exact .inr (.inr ⟨'.' :: idle, congrArg ('.' :: ·) hidle⟩)
  | case4 => exact .inl rfl

/-- The parent of a path is what stands before its last component, less what is idle. -/
theorem exists_component_of_parent {path dir : String} (h : parent? path = some dir) :
    ∃ above component, path.toList = above.reverse ++ component ∧ (∃ c ∈ component, c ≠ '/') ∧
      dir.toList.reverse = dropIdle above ∧ ∀ c ∈ above.head?, c = '/' := by
  rw [parent?] at h
  split at h
  · simp at h
  rename_i hback
  rw [Bool.or_eq_true, decide_eq_true_eq, decide_eq_true_eq, not_or] at hback
  obtain ⟨back, hdrop⟩ : ∃ back, dropIdle path.toList.reverse = back := ⟨_, rfl⟩
  rw [hdrop] at h hback
  obtain ⟨c, more, rfl⟩ := List.exists_cons_of_ne_nil hback.1
  have hc : c ≠ '/' := by
    rintro rfl
    exact hback.2 (by rw [dropIdle_eq_slash hdrop])
  obtain ⟨idle, hpath⟩ : ∃ idle, path.toList.reverse = idle ++ c :: more := by
    rcases dropIdle_cases path.toList.reverse with hsame | ⟨hroot, -⟩ | ⟨idle, hidle⟩
    · exact ⟨[], by rw [← hsame, hdrop]; rfl⟩
    · exact absurd (hdrop.symm.trans hroot) hback.2
    · exact ⟨idle ++ ['/'], by rw [hidle, hdrop]; simp⟩
  have hdir := congrArg String.toList (Option.some.inj h)
  rw [List.dropWhile_cons_of_pos (by simpa using hc)] at hdir
  refine ⟨more.dropWhile (· ≠ '/'), (more.takeWhile (· ≠ '/')).reverse ++ c :: idle.reverse, ?_,
    ⟨c, by simp, hc⟩, by simp [← hdir], ?_⟩
  · rw [← List.reverse_reverse path.toList, hpath]
    have hmore : more = more.takeWhile (· ≠ '/') ++ more.dropWhile (· ≠ '/') :=
      List.takeWhile_append_dropWhile.symm
    rw [← List.append_assoc, ← List.reverse_append, ← hmore]
    simp
  · intro slash hslash
    have hhead := List.head?_dropWhile_not (· ≠ '/') more
    rw [hslash] at hhead
    simpa using hhead

/-- A path goes on from its parent with a slash, which is that of the parent itself if this is the
root. -/
theorem exists_after_of_parent {path dir : String} (h : parent? path = some dir) (hne : dir ≠ "") :
    ∃ after, (path.toList = dir.toList ++ '/' :: after ∨
      (dir = "/" ∧ path.toList = '/' :: after)) ∧ ∃ c ∈ after, c ≠ '/' := by
  obtain ⟨above, component, hpath, ⟨c, hmem, hc⟩, hdir, hslash⟩ := exists_component_of_parent h
  cases above with
  | nil => exact absurd (by simpa [dropIdle] using hdir) hne
  | cons slash above =>
    obtain rfl : slash = '/' := hslash slash rfl
    have hroot : dropIdle ('/' :: above) = ['/'] → dir = "/" := by
      intro hslash
      rw [hslash] at hdir
      exact String.ext (by simpa using congrArg List.reverse hdir)
    rcases dropIdle_cases ('/' :: above) with hsame | ⟨hsame, idle, hidle⟩ | ⟨idle, hidle⟩
    · obtain rfl := dropIdle_eq_slash hsame
      exact ⟨component, .inr ⟨hroot hsame, hpath⟩, c, hmem, hc⟩
    · refine ⟨idle.reverse ++ component, .inr ⟨hroot hsame, ?_⟩, c, by simp [hmem], hc⟩
      rw [hpath, hidle]
      simp
    · refine ⟨idle.reverse ++ component, .inl ?_, c, by simp [hmem], hc⟩
      rw [← hdir] at hidle
      rw [hpath, hidle]
      simp

/-- **A path is below its parent.** -/
theorem exists_below_of_parent {path dir : String} (h : parent? path = some dir) (hne : dir ≠ "") :
    ∃ rest, Below dir path rest ∧ ∃ q ∈ rest, q ≠ [] := by
  obtain ⟨after, hpath, c, hmem, hc⟩ := exists_after_of_parent h hne
  refine ⟨after.splitOn '/', ⟨hne, ?_, ?_⟩, exists_piece_of_mem hmem hc⟩
  · rcases hpath with hpath | ⟨rfl, hpath⟩
    · exact ⟨String.ofList ('/' :: after), String.ext (by simpa using hpath)⟩
    · exact ⟨String.ofList after, String.ext (by simpa using hpath)⟩
  · rcases hpath with hpath | ⟨rfl, hpath⟩
    · refine ⟨pieces dir, ?_, .inl rfl⟩
      rw [pieces_eq_splitOn, pieces_eq_splitOn, hpath, List.splitOn_append_cons_self]
    · refine ⟨[[]], ?_, .inr rfl⟩
      rw [pieces_eq_splitOn, hpath]
      exact List.splitOn_append_cons_self [] after

end Scribe.Files
