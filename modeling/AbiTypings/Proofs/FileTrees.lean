import AbiTypings.Files.Tree

/-!
# What happens to a file tree

An operation on a file tree reads it, puts one node somewhere, or fails and leaves it alone.  Where
a path leads depends only on the directories on its way, so it leads to the same place as long as
these stay what they are.

* **Nodes** — `node?_put_self` and `node?_put_of_ne`: putting something at a place changes what is
  there, and nothing else.
* **Paths** — `KeepsDirectories.locate`: a path that leads somewhere still leads there after
  anything that keeps the directories.
* **Operations** — `writeFile_eq_ok` and its like say exactly when an operation succeeds, and what
  it leaves.
* **Directories** — `AddsDirectories`: nothing has happened but that directories were made where
  there was nothing.  `addsDirectories_makeDirectories`: that is all there is to making a directory
  and those above it, whether it succeeds or fails.
-/

namespace AbiTypings.FileTree

variable {t t' u : FileTree} {place other : Place} {path text : String}

/-! ## Nodes -/

theorem lookup_filter_ne (hne : other ≠ place) (nodes : List (Place × Node)) :
    (nodes.filter (·.1 != place)).lookup other = nodes.lookup other := by
  induction nodes with
  | nil => rfl
  | cons entry nodes ih =>
    obtain ⟨p, node⟩ := entry
    by_cases hp : p = place
    · subst hp
      rw [List.filter_cons_of_neg (by simp), ih, List.lookup_cons, beq_false_of_ne hne]
    · rw [List.filter_cons_of_pos (by simpa using hp), List.lookup_cons, List.lookup_cons, ih]

/-- The root is always a directory. -/
theorem node?_root (t : FileTree) : t.node? [] = some .directory := rfl

theorem ne_nil_of_node?_ne (h : t.node? place ≠ some .directory) : place ≠ [] := by
  rintro rfl
  exact h t.node?_root

/-- What is put at a place is found there. -/
theorem node?_put_self (h : place ≠ []) (node : Node) :
    (t.put place node).node? place = some node := by
  simp [node?, put, h]

/-- What is put at a place is found at no other. -/
theorem node?_put_of_ne (hne : other ≠ place) (node : Node) :
    (t.put place node).node? other = t.node? other := by
  unfold node? put
  split
  · rfl
  · rw [List.lookup_cons, beq_false_of_ne hne]
    exact lookup_filter_ne hne t.nodes

/-- Of two different files put one after the other, the first is still there unless the second was
put in its place. -/
theorem node?_put_put_iff {content content' : String} (hplace : place ≠ []) (hother : other ≠ [])
    (hne : content ≠ content') (t : FileTree) :
    ((t.put place (.file content)).put other (.file content')).node? place = some (.file content) ↔
      place ≠ other := by
  by_cases hsame : place = other
  · subst hsame
    rw [node?_put_self hother]
    simp [Ne.symm hne]
  · rw [node?_put_of_ne hsame, node?_put_self hplace]
    simp [hsame]

/-! ## Paths -/

/-- Every directory stays one, and the working directory stays where it is. -/
structure KeepsDirectories (t t' : FileTree) : Prop where
  here_eq : t'.here = t.here
  directory : ∀ place, t.node? place = some .directory → t'.node? place = some .directory

namespace KeepsDirectories

/-- What is put where there is no directory takes none away. -/
theorem put (h : t.node? place ≠ some .directory) (node : Node) :
    t.KeepsDirectories (t.put place node) := by
  refine ⟨rfl, fun other hother => ?_⟩
  have hne : other ≠ place := by
    rintro rfl
    exact h hother
  rw [node?_put_of_ne hne, hother]

theorem walk (h : t.KeepsDirectories t') {segments : List String} {start : Place}
    (hwalk : t.walk start segments = .ok place) : t'.walk start segments = .ok place := by
  induction segments generalizing start with
  | nil => exact hwalk
  | cons segment rest ih =>
    rw [FileTree.walk] at hwalk ⊢
    rcases hnode : t.node? start with _ | _ | content
    · rw [hnode] at hwalk
      cases hwalk
    · rw [hnode] at hwalk
      rw [h.directory start hnode]
      exact ih hwalk
    · rw [hnode] at hwalk
      cases hwalk

/-- A path that leads somewhere still leads there. -/
theorem locate (h : t.KeepsDirectories t') (hlocate : t.locate path = .ok place) :
    t'.locate path = .ok place := by
  unfold FileTree.locate at hlocate ⊢
  rw [h.here_eq]
  split at hlocate
  · cases hlocate
  · rename_i hne
    rw [if_neg hne]
    exact h.walk hlocate

end KeepsDirectories

theorem walk_concat {start : Place} {segments : List String} {segment : String}
    (h : t.walk start (segments ++ [segment]) = .ok place) :
    ∃ above, t.walk start segments = .ok above ∧ place = follow above segment := by
  induction segments generalizing start with
  | nil =>
    refine ⟨start, rfl, ?_⟩
    rw [List.nil_append, FileTree.walk] at h
    rcases hnode : t.node? start with _ | _ | content
    · rw [hnode] at h
      cases h
    · rw [hnode] at h
      exact (Except.ok.inj h).symm
    · rw [hnode] at h
      cases h
  | cons first rest ih =>
    rw [List.cons_append, FileTree.walk] at h
    rw [FileTree.walk]
    rcases hnode : t.node? start with _ | _ | content
    · rw [hnode] at h
      cases h
    · rw [hnode] at h
      exact ih h
    · rw [hnode] at h
      cases h

/-- The characters before a name in a directory do not depend on the name. -/
theorem exists_join_eq {directory : String} (h : directory ≠ "") :
    ∃ cs : List Char, ∀ name, Path.isAbsolute name = false →
      (Path.join directory name).toList = cs ++ '/' :: name.toList := by
  unfold Path.join
  rcases hlast : directory.toList.getLast? with _ | c
  · exact absurd (String.toList_eq_nil_iff.1 (List.getLast?_eq_none_iff.1 hlast)) h
  · obtain ⟨front, hfront⟩ := List.getLast?_eq_some_iff.1 hlast
    by_cases hslash : c = '/'
    · subst hslash
      exact ⟨front, fun name hname => by simp [hname, hfront]⟩
    · exact ⟨directory.toList, fun name hname => by simp [hname]⟩

theorem splitSlash_ne_nil (cs : List Char) : Path.splitSlash cs ≠ [] := by
  cases cs with
  | nil => simp [Path.splitSlash]
  | cons c cs =>
    rw [Path.splitSlash]
    split
    · simp
    · split <;> simp

/-- A path is split at each slash. -/
theorem splitSlash_append_slash (cs ds : List Char) :
    Path.splitSlash (cs ++ '/' :: ds) = Path.splitSlash cs ++ Path.splitSlash ds := by
  induction cs with
  | nil => simp [Path.splitSlash]
  | cons c cs ih =>
    by_cases hslash : c = '/'
    · simp [Path.splitSlash, hslash, ih]
    · rcases hsplit : Path.splitSlash cs with _ | ⟨segment, rest⟩
      · exact absurd hsplit (splitSlash_ne_nil cs)
      · simp [Path.splitSlash, hslash, ih, hsplit]

theorem splitSlash_of_not_mem {cs : List Char} (h : '/' ∉ cs) : Path.splitSlash cs = [cs] := by
  induction cs with
  | nil => rfl
  | cons c cs ih =>
    rw [List.mem_cons, not_or] at h
    simp [Path.splitSlash, ih h.2, Ne.symm h.1]

/-- Names in one directory lead to places side by side. -/
theorem exists_follow_of_locate_join {directory name name' : String} {place' : Place}
    (hdirectory : directory ≠ "") (hname : '/' ∉ name.toList) (hname' : '/' ∉ name'.toList)
    (h : t.locate (Path.join directory name) = .ok place)
    (h' : t.locate (Path.join directory name') = .ok place') :
    ∃ above, place = follow above name ∧ place' = follow above name' := by
  obtain ⟨cs, hjoin⟩ := exists_join_eq hdirectory
  have hwalk : ∀ {name place}, '/' ∉ name.toList → t.locate (Path.join directory name) = .ok place →
      t.walk (if (cs ++ ['/']).head? == some '/' then [] else t.here)
        ((Path.splitSlash cs).map String.ofList ++ [name]) = .ok place := by
    intro name place hname h
    have hrelative : Path.isAbsolute name = false := by
      rcases hcs : name.toList with _ | ⟨c, rest⟩
      · simp [Path.isAbsolute, hcs]
      · rw [hcs, List.mem_cons, not_or] at hname
        simpa [Path.isAbsolute, hcs] using Ne.symm hname.1
    have hpath := hjoin name hrelative
    unfold locate at h
    rw [if_neg (fun hempty => by simp [hempty] at hpath), Path.segments, Path.isAbsolute, hpath,
      splitSlash_append_slash, splitSlash_of_not_mem hname, List.map_append] at h
    have hhead : (cs ++ '/' :: name.toList).head? = (cs ++ ['/']).head? := by
      cases cs <;> rfl
    rw [hhead] at h
    simpa using h
  obtain ⟨above, habove, hplace⟩ := walk_concat (hwalk hname h)
  obtain ⟨above', habove', hplace'⟩ := walk_concat (hwalk hname' h')
  obtain rfl := Except.ok.inj (habove.symm.trans habove')
  exact ⟨above, hplace, hplace'⟩

/-! ## Operations -/

/-- A file is read just if it is where the path leads. -/
theorem readFile_eq_ok :
    t.readFile path = .ok text ↔
      ∃ place, t.locate path = .ok place ∧ t.node? place = some (.file text) := by
  unfold readFile
  rcases t.locate path with e | place
  · simp [bind, Except.bind]
  · rcases hnode : t.node? place with _ | _ | content <;>
      simp [bind, Except.bind, hnode, throw, throwThe, MonadExceptOf.throw, pure, Except.pure]

/-- Reading a path whose place is known. -/
theorem readFile_eq_ok_iff_of_locate (h : t.locate path = .ok place) :
    t.readFile path = .ok text ↔ t.node? place = some (.file text) := by
  rw [readFile_eq_ok, h]
  simp

/-- A file is written where the path leads, unless a directory is there. -/
theorem writeFile_eq_ok :
    t.writeFile path text = .ok t' ↔
      ∃ place, t.locate path = .ok place ∧ t.node? place ≠ some .directory ∧
        t' = t.put place (.file text) := by
  unfold writeFile
  rcases t.locate path with e | place
  · simp [bind, Except.bind]
  · rcases hnode : t.node? place with _ | _ | content <;>
      simp [bind, Except.bind, hnode, throw, throwThe, MonadExceptOf.throw, pure, Except.pure,
        eq_comm]

/-- A directory is made only where nothing is. -/
theorem makeDirectory_eq_ok (h : t.makeDirectory path = .ok t') :
    ∃ place, t.node? place = none ∧ t' = t.put place .directory := by
  unfold makeDirectory at h
  dsimp only at h
  generalize (if withoutEndSlashes path = "" then path else withoutEndSlashes path) = bare at h
  rcases hlocate : t.locate bare with e | place
  · simp [bind, Except.bind, hlocate] at h
  · rcases hnode : t.node? place with _ | node
    · simp [bind, Except.bind, hlocate, hnode, pure, Except.pure] at h
      exact ⟨place, hnode, h.symm⟩
    · simp [bind, Except.bind, hlocate, hnode, throw, throwThe, MonadExceptOf.throw] at h

theorem run_change (operation : FileTree → Except FileError FileTree) (t : FileTree) :
    (change operation).run t =
      match operation t with
      | .ok changed => (.ok (), changed)
      | .error e => (.error e, t) := rfl

/-! ## Making directories -/

/-- Nothing has happened but that directories were made where there was nothing. -/
structure AddsDirectories (t t' : FileTree) : Prop where
  here_eq : t'.here = t.here
  node?_eq : ∀ place, t'.node? place = t.node? place ∨
    t.node? place = none ∧ t'.node? place = some .directory

namespace AddsDirectories

theorem refl (t : FileTree) : t.AddsDirectories t :=
  ⟨rfl, fun _ => .inl rfl⟩

theorem trans (h : t.AddsDirectories t') (h' : t'.AddsDirectories u) : t.AddsDirectories u := by
  refine ⟨h'.here_eq.trans h.here_eq, fun place => ?_⟩
  rcases h.node?_eq place with hsame | ⟨hnone, hmade⟩ <;>
    rcases h'.node?_eq place with hsame' | ⟨hnone', hmade'⟩
  · exact .inl (hsame'.trans hsame)
  · exact .inr ⟨hsame ▸ hnone', hmade'⟩
  · exact .inr ⟨hnone, hsame'.trans hmade⟩
  · exact .inr ⟨hnone, hmade'⟩

theorem put (h : t.node? place = none) : t.AddsDirectories (t.put place .directory) := by
  refine ⟨rfl, fun other => ?_⟩
  by_cases hother : other = place
  · subst hother
    have hne : other ≠ [] := by
      rintro rfl
      cases h
    exact .inr ⟨h, node?_put_self hne .directory⟩
  · exact .inl (node?_put_of_ne hother .directory)

/-- The files are the same, with the same contents. -/
theorem file_iff (h : t.AddsDirectories t') {content : String} :
    t'.node? place = some (.file content) ↔ t.node? place = some (.file content) := by
  rcases h.node?_eq place with hsame | ⟨hnone, hmade⟩
  · rw [hsame]
  · simp [hnone, hmade]

end AddsDirectories

/-- A computation on a tree does nothing but make directories. -/
def OnlyAddsDirectories {α : Type} (x : StateM FileTree α) : Prop :=
  ∀ t : FileTree, t.AddsDirectories (x.run t).2

theorem OnlyAddsDirectories.pure {α : Type} (a : α) :
    OnlyAddsDirectories (Pure.pure a : StateM FileTree α) :=
  fun t => .refl t

theorem OnlyAddsDirectories.bind {α β : Type} {x : StateM FileTree α} {f : α → StateM FileTree β}
    (hx : OnlyAddsDirectories x) (hf : ∀ a, OnlyAddsDirectories (f a)) :
    OnlyAddsDirectories (x >>= f) :=
  fun t => (hx t).trans (hf (x.run t).1 (x.run t).2)

theorem onlyAddsDirectories_isDirectory (path : String) :
    OnlyAddsDirectories (access.isDirectory path) :=
  fun t => .refl t

theorem onlyAddsDirectories_makeDirectory (path : String) :
    OnlyAddsDirectories (access.makeDirectory path) := by
  intro t
  have hrun : (access.makeDirectory path).run t = _ := run_change (·.makeDirectory path) t
  rw [hrun]
  rcases hmake : t.makeDirectory path with e | made
  · exact .refl t
  · obtain ⟨place, hnone, rfl⟩ := makeDirectory_eq_ok hmake
    exact .put hnone

/-- Making missing directories adds directories and nothing else. -/
theorem onlyAddsDirectories_makeUpward (paths : List String) :
    OnlyAddsDirectories (access.makeUpward paths) := by
  induction paths with
  | nil => exact .pure _
  | cons path above ih =>
    -- what is left to do where the directory could not be made
    have hthere : ∀ e : FileError, OnlyAddsDirectories (do
        if ← access.isDirectory path then Pure.pure (Except.ok ())
        else Pure.pure (Except.error e)) := by
      intro e
      refine (onlyAddsDirectories_isDirectory path).bind fun isThere => ?_
      split <;> exact .pure _
    unfold FileAccess.makeUpward
    split
    · exact .pure _
    · refine (onlyAddsDirectories_makeDirectory path).bind fun result => ?_
      split
      · exact .pure _
      · refine ih.bind fun result => ?_
        split
        · exact .pure _
        · refine (onlyAddsDirectories_makeDirectory path).bind fun result => ?_
          split
          · exact .pure _
          · exact hthere _
      · exact hthere _

/-- Making a directory and those above it does nothing else, whether it succeeds or fails. -/
theorem addsDirectories_makeDirectories (t : FileTree) (path : String) :
    t.AddsDirectories ((access.makeDirectories path).run t).2 :=
  onlyAddsDirectories_makeUpward _ t

end AbiTypings.FileTree
