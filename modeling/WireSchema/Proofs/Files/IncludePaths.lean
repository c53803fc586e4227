import WireSchema.Proofs.Files.LevelOrder

/-!
# The paths of included files

An included file is looked for below the directory of the first file, unless its path leads there
already. Joining two paths joins their components: only the piece `.` at the beginning of the second
one is lost, as it does not count inside a path. So the path at which an included file is looked for
has the components of the directory in front, whatever slashes and silent pieces either was written
with, and it stays as it is when it is looked up once more. An absolute path is taken as it is.

## Main results

* `Path.components_join`: the components of a joined path.
* `startsWith_resolveInclude`: a relative path leads below the directory.
* `resolveInclude_stable`: the paths at which files are looked for.
-/

namespace WireSchema

namespace Path

/-! ### Joined paths -/

theorem names_append (ps qs : List (List Char)) : names (ps ++ qs) = names ps ++ names qs := by
  simp [names]

/-- The beginning of a path does not depend on what follows its first slash. -/
theorem anchor_append_slash (s t : List Char) :
    anchor ⟨String.ofList (s ++ '/' :: t)⟩ = anchor ⟨String.ofList (s ++ ['/'])⟩ := by
  have hhead : ∀ u, (splitPieces (s ++ '/' :: u)).head? = (splitPieces s).head? := fun u => by
    rw [splitPieces_append, List.head?_append_of_ne_nil _ (splitPieces_ne_nil s)]
  have habsolute : (s ++ '/' :: t).head? = (s ++ ['/']).head? := by
    cases s <;> rfl
  simp only [anchor, isAbsolute, pieces, String.toList_ofList, hhead, habsolute]

/-- What follows a slash adds its names to the components. -/
theorem components_append_slash (s t : List Char) :
    components ⟨String.ofList (s ++ '/' :: t)⟩ =
      components ⟨String.ofList (s ++ ['/'])⟩ ++ names (splitPieces t) := by
  have hpieces : ∀ u, pieces ⟨String.ofList (s ++ '/' :: u)⟩ = splitPieces s ++ splitPieces u :=
    fun u => by rw [pieces, String.toList_ofList, splitPieces_append]
  have hsplit : ∀ u, components ⟨String.ofList (s ++ '/' :: u)⟩ =
      anchor ⟨String.ofList (s ++ ['/'])⟩ ++ (names (splitPieces s) ++ names (splitPieces u)) :=
    fun u => by rw [components, anchor_append_slash, hpieces, ← names_append]; rfl
  rw [hsplit t, hsplit [], List.append_assoc, List.append_assoc]
  rfl

/-- A slash at the end of a path that is not empty does not count. -/
theorem components_concat_slash {s : List Char} (h : s ≠ []) :
    components ⟨String.ofList (s ++ ['/'])⟩ = components ⟨String.ofList s⟩ := by
  have hhead : (s ++ ['/']).head? = s.head? := List.head?_append_of_ne_nil _ h
  have hpieces : splitPieces (s ++ ['/']) = splitPieces s ++ [[]] := splitPieces_append s []
  have hfirst : (splitPieces s ++ [[]]).head? = (splitPieces s).head? :=
    List.head?_append_of_ne_nil _ (splitPieces_ne_nil s)
  simp only [components, anchor, isAbsolute, pieces, String.toList_ofList, hhead, hpieces, hfirst]
  simp [isSilent]

/-- A relative path below a path that is not empty is written behind it and a slash. -/
theorem exists_join_eq {base p : Path} (hbase : base.text ≠ "") (hp : p.isAbsolute = false) :
    ∃ s, base.join p = ⟨String.ofList (s ++ '/' :: p.text.toList)⟩ ∧
      components ⟨String.ofList (s ++ ['/'])⟩ = base.components := by
  have hne : base.text.toList ≠ [] := by simpa using hbase
  by_cases hend : base.text.toList.getLast?.all (· == '/') = true
  · -- the slash is there already
    obtain ⟨s, hs⟩ : ∃ s, base.text.toList = s ++ ['/'] := by
      rw [List.getLast?_eq_some_getLast hne, Option.all_some, beq_iff_eq] at hend
      exact ⟨_, by rw [← hend, List.dropLast_concat_getLast hne]⟩
    have htext : base.text = String.ofList (s ++ ['/']) := by rw [← hs, String.ofList_toList]
    refine ⟨s, ?_, by rw [← htext]⟩
    rw [join, hp, if_neg Bool.false_ne_true, if_pos hend, htext]
    simp [← String.toList_inj]
  · refine ⟨base.text.toList, ?_, ?_⟩
    · rw [join, hp, if_neg Bool.false_ne_true, if_neg hend]
      simp [← String.toList_inj]
    · rw [components_concat_slash hne, String.ofList_toList]

/-- A relative path below another adds its names to the components of the other. -/
theorem components_join {base p : Path} (hbase : base.text ≠ "") (hp : p.isAbsolute = false) :
    (base.join p).components = base.components ++ names p.pieces := by
  obtain ⟨s, hjoin, hcomponents⟩ := exists_join_eq hbase hp
  rw [hjoin, components_append_slash, hcomponents]
  rfl

theorem startsWith_join {base p : Path} (hp : p.isAbsolute = false) :
    (base.join p).startsWith base = true := by
  rw [startsWith, List.isPrefixOf_iff_prefix]
  by_cases hbase : base.text = ""
  · obtain ⟨text⟩ := base
    obtain rfl : text = "" := hbase
    exact components_empty ▸ List.nil_prefix
  · rw [components_join hbase hp]
    exact List.prefix_append _ _

end Path

/-! ### Included files -/

variable {dir p : Path}

theorem resolveInclude_of_isAbsolute (hp : p.isAbsolute = true) : resolveInclude dir p = p := by
  rw [resolveInclude, Path.join, if_pos hp, ite_self]

/-- A relative path leads below the directory. -/
theorem startsWith_resolveInclude (hp : p.isAbsolute = false) :
    (resolveInclude dir p).startsWith dir = true := by
  unfold resolveInclude
  split_ifs with hstarts
  · exact hstarts
  · exact Path.startsWith_join hp

/-- A path that was looked up once stays as it is. -/
theorem resolveInclude_idem (dir p : Path) :
    resolveInclude dir (resolveInclude dir p) = resolveInclude dir p := by
  cases hp : p.isAbsolute with
  | true => rw [resolveInclude_of_isAbsolute hp, resolveInclude_of_isAbsolute hp]
  | false => exact if_pos (startsWith_resolveInclude hp)

/-- **Files are looked for at stable paths.** The first file is looked for at the path by which it
was named, so a load begins with this path. A file that is included by an absolute path is looked
for at this path, and by any other path at one that begins with the components of the directory of
the first file. No path changes when it is looked up a second time. -/
theorem resolveInclude_stable (root : Path) :
    (resolveInclude root.directory root = root ∧
      ∀ (r : DocumentReader) (read : View),
        load? r read root = r.loadQueue read root.directory [root] [] {}) ∧
    ∀ p : Path,
      (p.isAbsolute = true → resolveInclude root.directory p = p) ∧
      (p.isAbsolute = false →
        root.directory.components <+: (resolveInclude root.directory p).components) ∧
      resolveInclude root.directory (resolveInclude root.directory p) =
        resolveInclude root.directory p := by
  refine ⟨⟨resolveInclude_root root, fun r read => load?_eq r read root⟩, fun p => ?_⟩
  refine ⟨resolveInclude_of_isAbsolute, fun hp => ?_, resolveInclude_idem root.directory p⟩
  rw [← List.isPrefixOf_iff_prefix]
  exact startsWith_resolveInclude hp

/-- The piece `.` at the beginning of the first file's path counts as a component of its directory,
so a path that leads to the directory without it is put below the directory. -/
theorem resolveInclude_stable_fleet :
    let root : Path := ⟨"./fleet//root.toml"⟩
    let below : Path := ⟨"./fleet/fleet/../hull.toml"⟩
    root.directory = ⟨"./fleet"⟩ ∧ resolveInclude root.directory root = root ∧
      resolveInclude root.directory ⟨"fleet/../hull.toml"⟩ = below ∧
      root.directory.components <+: below.components ∧
      resolveInclude root.directory below = below ∧
      resolveInclude root.directory ⟨"/fleet/hull.toml"⟩ = ⟨"/fleet/hull.toml"⟩ := by
  intro root below
  obtain ⟨⟨hroot, -⟩, hpaths⟩ := resolveInclude_stable root
  obtain ⟨-, hstarts, hagain⟩ := hpaths ⟨"fleet/../hull.toml"⟩
  have hbelow : resolveInclude root.directory ⟨"fleet/../hull.toml"⟩ = below := by decide +kernel
  rw [hbelow] at hstarts hagain
  exact ⟨by decide +kernel, hroot, hbelow, hstarts (by decide +kernel), hagain,
    (hpaths ⟨"/fleet/hull.toml"⟩).1 (by decide +kernel)⟩

end WireSchema
