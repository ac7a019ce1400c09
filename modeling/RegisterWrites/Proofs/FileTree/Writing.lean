import Mathlib.Data.List.Basic
import RegisterWrites.FileTree
import RegisterWrites.Proofs.Except

/-!
# Writing files

A path under which a file was written leads to that file, and nothing else has changed
(`write_eq_ok`); a text can therefore be read again where it was written (`readText_of_follow`).
The way to a file leads through directories only, and these are the same before and after
(`isDirectory_put`), so that a path leads where it led before.
-/

namespace RegisterWrites

theorem Text.fromUTF8?_toUTF8 (text : String) : String.fromUTF8? text.toUTF8 = some text := by
  unfold String.fromUTF8?
  rw [String.toUTF8_eq_toByteArray, dif_pos text.isValidUTF8]
  rfl

namespace FileTree

variable {tree tree' : FileTree} {route other : Route} {bytes : ByteArray} {path name : String}
  {place place' : Place}

/-! ## Directories -/

theorem isDirectory_iff : tree.isDirectory route = true ↔
    route = [] ∨ ∃ d ∈ tree.directories ++ tree.files.map (·.1.dropLast), route <+: d := by
  simp only [isDirectory, Bool.or_eq_true, decide_eq_true_eq, List.any_eq_true,
    List.isPrefixOf_iff_prefix]

theorem isDirectory_of_prefix (h : other <+: route) (hroute : tree.isDirectory route = true) :
    tree.isDirectory other = true := by
  rw [isDirectory_iff] at hroute ⊢
  rcases hroute with rfl | ⟨d, hd, hprefix⟩
  · exact .inl (List.prefix_nil.mp h)
  · exact .inr ⟨d, hd, h.trans hprefix⟩

/-- A file at `route`, in a directory that is there, adds no directory and takes none away. -/
theorem isDirectory_put (hparent : tree.isDirectory route.dropLast = true) (other : Route) :
    (tree.put route bytes).isDirectory other = tree.isDirectory other := by
  rw [Bool.eq_iff_iff]
  constructor
  · intro h
    rcases isDirectory_iff.mp h with rfl | ⟨d, hd, hprefix⟩
    · exact isDirectory_iff.mpr (.inl rfl)
    rw [put, List.map_cons, List.mem_append, List.mem_cons] at hd
    rcases hd with hd | rfl | hd
    · exact isDirectory_iff.mpr (.inr ⟨d, List.mem_append_left _ hd, hprefix⟩)
    · exact isDirectory_of_prefix hprefix hparent
    · have hmem := List.map_subset _ (List.filter_subset_self _) hd
      exact isDirectory_iff.mpr (.inr ⟨d, List.mem_append_right _ hmem, hprefix⟩)
  · intro h
    rcases isDirectory_iff.mp h with rfl | ⟨d, hd, hprefix⟩
    · exact isDirectory_iff.mpr (.inl rfl)
    refine isDirectory_iff.mpr (.inr ⟨d, ?_, hprefix⟩)
    rw [put, List.map_cons, List.mem_append, List.mem_cons]
    rcases List.mem_append.mp hd with hd | hd
    · exact .inl hd
    obtain ⟨⟨file, content⟩, hfile, rfl⟩ := List.mem_map.mp hd
    by_cases heq : file = route
    · exact .inr (.inl (congrArg List.dropLast heq))
    · refine .inr (.inr (List.mem_map.mpr ⟨(file, content), ?_, rfl⟩))
      exact List.mem_filter.mpr ⟨hfile, decide_eq_true heq⟩

/-! ## Ways -/

theorem isDirectoryPlace_put (hparent : tree.isDirectory route.dropLast = true) (place : Place) :
    (tree.put route bytes).isDirectoryPlace place = tree.isDirectoryPlace place := by
  cases place with
  | within other => exact isDirectory_put hparent other
  | outside => rfl

/-- A `name` that leads from `place` to `place'` does so as well when a file has been put at
`route`. -/
theorem enter_put (hparent : tree.isDirectory route.dropLast = true)
    (h : tree.enter place name = .ok place') :
    (tree.put route bytes).enter place name = .ok place' := by
  unfold enter at h ⊢
  rw [isDirectoryPlace_put hparent]
  split at h
  · cases h
  · next hdir =>
    rw [if_neg hdir]
    split at h
    · next hstay => rw [if_pos hstay, h]
    · next hgo =>
      rw [if_neg hgo]
      cases place with
      | outside => exact h
      | within from_ =>
        simp only at h ⊢
        split at h
        · next hup => rw [if_pos hup, h]
        · next hdown =>
          rw [if_neg hdown]
          split at h
          · next hthere =>
            rw [if_pos ?_, h]
            rw [isDirectory_put hparent, content?_put]
            split
            · exact .inl rfl
            · exact hthere
          · cases h

theorem foldlM_enter_put (hparent : tree.isDirectory route.dropLast = true) {names : List String}
    (h : names.foldlM tree.enter place = .ok place') :
    names.foldlM (tree.put route bytes).enter place = .ok place' := by
  induction names generalizing place with
  | nil => exact h
  | cons name names ih =>
    rw [List.foldlM_cons] at h ⊢
    cases hname : tree.enter place name with
    | error e =>
      rw [hname] at h
      cases h
    | ok next =>
      rw [hname] at h
      rw [enter_put hparent hname]
      exact ih h

theorem dropSlashes_of_getLast?_ne {names : List String} (h : names.getLast? ≠ some "") :
    dropSlashes names = (names, false) := by
  have hdrop : names.reverse.dropWhile (· = "") = names.reverse := by
    rw [← List.head?_reverse] at h
    cases hreverse : names.reverse with
    | nil => rfl
    | cons name others =>
      rw [hreverse] at h
      have hname : name ≠ "" := fun he => h (congrArg some he)
      simp [hname]
  rw [dropSlashes, hdrop, List.reverse_reverse, decide_eq_false h]

/-- What `target` finds: the way to the directory of `route` leads there, and the last name of
`path` is that of the file. -/
theorem target_eq_ok (h : tree.target path = .ok route) : ∃ parent name, route = parent ++ [name] ∧
    names path = (names path).dropLast ++ [name] ∧ (name ≠ "" ∧ name ≠ "." ∧ name ≠ "..") ∧
    (names path).dropLast.foldlM tree.enter (start path) = .ok (.within parent) ∧
    tree.isDirectory parent = true := by
  unfold target at h
  obtain ⟨place, hway, h⟩ := bind_eq_ok_iff.mp h
  simp only [ite_throw_eq_ok_iff] at h
  obtain ⟨hdir, h⟩ := h
  cases place with
  | outside =>
    split at h
    · cases h
    · cases (ite_throw_eq_ok_iff.mp h).2
  | within parent =>
    split at h
    · cases h
    next _ _ name hname =>
    simp only [ite_throw_eq_ok_iff, decide_eq_true_eq, not_or] at h
    obtain ⟨⟨hslash, hdot, hdots⟩, -, h⟩ := h
    have hdrop := congrArg Prod.fst (dropSlashes_of_getLast?_ne hslash)
    simp only [dropSlashes] at hdrop
    rw [hdrop] at hway hname
    have hnames : names path = (names path).dropLast ++ [name] := by
      obtain ⟨init, hinit⟩ := List.getLast?_eq_some_iff.mp hname
      rw [hinit, List.dropLast_concat]
    refine ⟨parent, name, (Except.ok.inj h).symm, hnames, ⟨?_, hdot, hdots⟩, hway, ?_⟩
    · rintro rfl
      exact hslash hname
    · simpa [isDirectoryPlace] using hdir

/-- From the directory `parent`, the name of a file in it leads to the file. -/
theorem enter_of_content? {parent : Route} (hdir : tree.isDirectory parent = true)
    (hname : name ≠ "" ∧ name ≠ "." ∧ name ≠ "..")
    (hcontent : tree.content? (parent ++ [name]) = some bytes) :
    tree.enter (.within parent) name = .ok (.within (parent ++ [name])) := by
  obtain ⟨hne, hdot, hdots⟩ := hname
  simp [enter, isDirectoryPlace, hdir, hne, hdot, hdots, hcontent]

/-! ## What is written -/

/-- A `path` under which a file can be written: whether it can does not depend on the bytes. -/
def IsWritable (tree : FileTree) (path : String) : Prop := ∃ route, tree.target path = .ok route

theorem isWritable_iff : tree.IsWritable path ↔ ∃ tree', tree.write path bytes = .ok tree' := by
  constructor
  · rintro ⟨route, htarget⟩
    exact ⟨_, bind_eq_ok_iff.mpr ⟨route, htarget, rfl⟩⟩
  · rintro ⟨tree', hwrite⟩
    obtain ⟨route, htarget, -⟩ := bind_eq_ok_iff.mp hwrite
    exact ⟨route, htarget⟩

/-- **Writing puts one file at the end of its path**: `tree'` has `bytes` at the `route` of `path`,
in a directory that is there, and all other files and all directories of `tree`. -/
theorem write_eq_ok (h : tree.write path bytes = .ok tree') : ∃ route,
    tree'.follow path = .ok (.within route) ∧ tree'.content? route = some bytes ∧
    (∀ other, other ≠ route → tree'.content? other = tree.content? other) ∧
    ∀ other, tree'.isDirectory other = tree.isDirectory other := by
  obtain ⟨route, htarget, hput⟩ := bind_eq_ok_iff.mp h
  obtain rfl : tree.put route bytes = tree' := Except.ok.inj hput
  obtain ⟨parent, name, rfl, hnames, hname, hway, hdir⟩ := target_eq_ok htarget
  have hparent : tree.isDirectory (parent ++ [name]).dropLast = true := by
    rwa [List.dropLast_concat]
  have hcontent : (tree.put (parent ++ [name]) bytes).content? (parent ++ [name]) = some bytes := by
    rw [content?_put, if_pos rfl]
  refine ⟨parent ++ [name], ?_, hcontent, ?_, isDirectory_put hparent⟩
  · -- the way to the directory is the same, and behind it the name now leads to the file
    have henter := enter_of_content? ((isDirectory_put hparent parent).trans hdir) hname hcontent
    rw [follow, hnames, List.foldlM_append, foldlM_enter_put hparent hway]
    exact bind_eq_ok_iff.mpr ⟨_, rfl, bind_eq_ok_iff.mpr ⟨_, henter, rfl⟩⟩
  · intro other hother
    rw [content?_put, if_neg hother]

theorem readText_of_follow {text : String} (hfollow : tree.follow path = .ok (.within route))
    (hcontent : tree.content? route = some text.toUTF8) : tree.readText path = .ok text := by
  refine bind_eq_ok_iff.mpr ⟨text.toUTF8, bind_eq_ok_iff.mpr ⟨_, hfollow, ?_⟩, ?_⟩
  · simp only [hcontent]
    rfl
  · simp only [Text.fromUTF8?_toUTF8]
    rfl

end FileTree

end RegisterWrites
