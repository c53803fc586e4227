import Mathlib.Data.List.Infix
import Mathlib.Tactic.Common
import WireSchema.Files.Load

/-!
# The directory of a path

A path is cut into pieces at its slashes, and pieces without a slash can be joined again without
loss. So the components of the directory of a path are the first components of the path itself,
however many slashes and silent pieces it was written with. The first file of a schema is therefore
looked for at the path by which it was named.

## Main results

* `Path.splitPieces_append`: the pieces on both sides of a slash.
* `Path.splitPieces_joinPieces`: joined pieces are cut into the same pieces.
* `Path.startsWith_directory`: a path starts with its directory.
* `resolveInclude_root`: the first file is read where it was named.
-/

namespace WireSchema

namespace Path

/-! ### Cutting and joining -/

theorem splitPieces_ne_nil (s : List Char) : splitPieces s ≠ [] := by
  cases s with
  | nil => simp [splitPieces]
  | cons c s =>
    unfold splitPieces
    split
    · exact List.cons_ne_nil _ _
    · split <;> exact List.cons_ne_nil _ _

theorem slash_notMem_of_mem_splitPieces {s piece : List Char} (h : piece ∈ splitPieces s) :
    '/' ∉ piece := by
  induction s generalizing piece with
  | nil =>
    rw [splitPieces, List.mem_singleton] at h
    simp [h]
  | cons c s ih =>
    rw [splitPieces] at h
    by_cases hc : c = '/'
    · rw [if_pos (by simpa using hc), List.mem_cons] at h
      rcases h with rfl | h
      · simp
      · exact ih h
    · rw [if_neg (by simpa using hc)] at h
      cases hs : splitPieces s with
      | nil => exact absurd hs (splitPieces_ne_nil s)
      | cons first others =>
        simp only [hs, List.mem_cons] at h ih
        rcases h with rfl | h
        · simpa [eq_comm, hc] using ih (.inl rfl)
        · exact ih (.inr h)

theorem splitPieces_of_slash_notMem {s : List Char} (h : '/' ∉ s) : splitPieces s = [s] := by
  induction s with
  | nil => rfl
  | cons c s ih =>
    rw [List.mem_cons, not_or] at h
    rw [splitPieces, if_neg (by simpa using Ne.symm h.1), ih h.2]

/-- A slash separates the pieces before it from those after it. -/
theorem splitPieces_append (s t : List Char) :
    splitPieces (s ++ '/' :: t) = splitPieces s ++ splitPieces t := by
  induction s with
  | nil => simp [splitPieces]
  | cons c s ih =>
    cases hs : splitPieces s with
    | nil => exact absurd hs (splitPieces_ne_nil s)
    | cons first others =>
      rw [hs] at ih
      rw [List.cons_append, splitPieces, splitPieces, ih, hs]
      split_ifs <;> rfl

/-- Joined pieces are cut into the same pieces. -/
theorem splitPieces_joinPieces {ps : List (List Char)} (hne : ps ≠ [])
    (h : ∀ piece ∈ ps, '/' ∉ piece) : splitPieces (joinPieces ps) = ps := by
  induction ps with
  | nil => exact absurd rfl hne
  | cons p ps ih =>
    have hp : '/' ∉ p := h p List.mem_cons_self
    cases ps with
    | nil => rw [joinPieces, List.intercalate_singleton, splitPieces_of_slash_notMem hp]
    | cons q qs =>
      have htail : splitPieces (joinPieces (q :: qs)) = q :: qs :=
        ih (by simp) fun piece hpiece => h piece (List.mem_cons_of_mem p hpiece)
      rw [joinPieces, List.intercalate_cons_cons, List.append_assoc, List.singleton_append,
        splitPieces_append, splitPieces_of_slash_notMem hp]
      exact congrArg (p :: ·) htail

/-- The pieces of a text are joined to the text. -/
theorem joinPieces_splitPieces (s : List Char) : joinPieces (splitPieces s) = s := by
  induction s with
  | nil => rfl
  | cons c s ih =>
    rw [splitPieces]
    cases hs : splitPieces s with
    | nil => exact absurd hs (splitPieces_ne_nil s)
    | cons first others =>
      rw [hs] at ih
      split_ifs with hc
      · rw [joinPieces, List.intercalate_cons_cons, beq_iff_eq.1 hc]
        exact congrArg ('/' :: ·) ih
      · cases others with
        | nil => rw [← ih]; rfl
        | cons second others =>
          rw [joinPieces, List.intercalate_cons_cons] at ih ⊢
          exact congrArg (c :: ·) ih

/-! ### Directories -/

theorem isPrefix_dropSilentEnd (ps : List (List Char)) : dropSilentEnd ps <+: ps := by
  rw [dropSilentEnd, ← List.reverse_suffix, List.reverse_reverse]
  exact List.dropWhile_suffix isSilent

theorem isPrefix_of_parentPieces? {ps up : List (List Char)} (h : parentPieces? ps = some up) :
    up <+: ps := by
  unfold parentPieces? at h
  split at h
  · cases h
  · cases h
    exact (isPrefix_dropSilentEnd _).trans
      ((List.dropLast_prefix _).trans (isPrefix_dropSilentEnd ps))

/-- The names of a path, in order. -/
def names (ps : List (List Char)) : List Component :=
  (ps.filter (!isSilent ·)).map .name

theorem isPrefix_names {ps qs : List (List Char)} (h : ps <+: qs) : names ps <+: names qs :=
  (h.filter _).map _

/-- The text of an absolute path begins with a slash. -/
theorem components_absolute (s : List Char) :
    components ⟨String.ofList ('/' :: s)⟩ = .root :: names (splitPieces s) := by
  simp [components, anchor, isAbsolute, pieces, splitPieces, names, isSilent]

/-- A path whose first piece is not empty is relative. -/
theorem isAbsolute_relative {ps : List (List Char)} {c : Char} {cs : List Char}
    (h : ∀ piece ∈ (c :: cs) :: ps, '/' ∉ piece) :
    isAbsolute ⟨String.ofList (joinPieces ((c :: cs) :: ps))⟩ = false := by
  have hc : c ≠ '/' := fun hc => h _ List.mem_cons_self (hc ▸ List.mem_cons_self)
  cases ps <;> simp [isAbsolute, joinPieces, hc]

theorem pieces_relative {ps : List (List Char)} {c : Char} {cs : List Char}
    (h : ∀ piece ∈ (c :: cs) :: ps, '/' ∉ piece) :
    pieces ⟨String.ofList (joinPieces ((c :: cs) :: ps))⟩ = (c :: cs) :: ps := by
  rw [pieces, String.toList_ofList, splitPieces_joinPieces (List.cons_ne_nil _ _) h]

theorem components_relative {ps : List (List Char)} {c : Char} {cs : List Char}
    (h : ∀ piece ∈ (c :: cs) :: ps, '/' ∉ piece) :
    components ⟨String.ofList (joinPieces ((c :: cs) :: ps))⟩ =
      (if c :: cs = dot then [.here] else []) ++ names ((c :: cs) :: ps) := by
  simp only [components, anchor, isAbsolute_relative h, pieces_relative h, names]
  simp

theorem components_empty : components ⟨""⟩ = [] := rfl

theorem names_splitPieces_joinPieces {ps : List (List Char)} (h : ∀ piece ∈ ps, '/' ∉ piece) :
    names (splitPieces (joinPieces ps)) = names ps := by
  cases ps with
  | nil => rfl
  | cons p ps => rw [splitPieces_joinPieces (by simp) h]

/-- The directory of an absolute path. -/
theorem components_directory_absolute (s : List Char) :
    components (directory ⟨String.ofList ('/' :: s)⟩) <+:
      components ⟨String.ofList ('/' :: s)⟩ := by
  have hparent : parent? ⟨String.ofList ('/' :: s)⟩ =
      (parentPieces? (splitPieces s)).map fun up => ⟨String.ofList ('/' :: joinPieces up)⟩ := by
    simp [parent?, isAbsolute, pieces, splitPieces]
  rw [directory, hparent, components_absolute]
  cases hup : parentPieces? (splitPieces s) with
  | none => exact components_empty ▸ List.nil_prefix
  | some up =>
    have hinit := isPrefix_of_parentPieces? hup
    have hslash : ∀ piece ∈ up, '/' ∉ piece := fun piece hpiece =>
      slash_notMem_of_mem_splitPieces (hinit.subset hpiece)
    rw [Option.map_some, Option.getD_some, components_absolute,
      names_splitPieces_joinPieces hslash]
    exact (List.prefix_cons_inj _).2 (isPrefix_names hinit)

/-- The directory of a relative path, by the pieces of the path. The piece `.` at the beginning
stays, unless it is all that there is. -/
theorem directory_relative {ps : List (List Char)} {c : Char} {cs : List Char}
    (h : ∀ piece ∈ (c :: cs) :: ps, '/' ∉ piece) :
    directory ⟨String.ofList (joinPieces ((c :: cs) :: ps))⟩ =
      if c :: cs = dot then
        ((parentPieces? ps).map fun up => ⟨String.ofList (joinPieces (dot :: up))⟩).getD ⟨""⟩
      else
        ((parentPieces? ((c :: cs) :: ps)).map fun up => ⟨String.ofList (joinPieces up)⟩).getD
          ⟨""⟩ := by
  rw [directory, parent?, isAbsolute_relative h, pieces_relative h, if_neg Bool.false_ne_true]
  split_ifs with hdot
  · obtain ⟨rfl, rfl⟩ : c = '.' ∧ cs = [] := by simpa [dot] using hdot
    cases hup : parentPieces? ps <;> simp [hup]
  · split
    · exact absurd (List.cons.inj ‹_›).1 hdot
    · rfl

/-- The directory of a relative path has the first components of the path. -/
theorem components_directory_relative {ps : List (List Char)} {c : Char} {cs : List Char}
    (h : ∀ piece ∈ (c :: cs) :: ps, '/' ∉ piece) :
    components (directory ⟨String.ofList (joinPieces ((c :: cs) :: ps))⟩) <+:
      components ⟨String.ofList (joinPieces ((c :: cs) :: ps))⟩ := by
  -- whatever pieces are left, they are the first ones of the path
  have hkept : ∀ {others : List (List Char)}, (c :: cs) :: others <+: (c :: cs) :: ps →
      components ⟨String.ofList (joinPieces ((c :: cs) :: others))⟩ <+:
        components ⟨String.ofList (joinPieces ((c :: cs) :: ps))⟩ := fun hinit => by
    rw [components_relative h,
      components_relative fun piece hpiece => h piece (hinit.subset hpiece)]
    exact (List.prefix_append_right_inj _).2 (isPrefix_names hinit)
  rw [directory_relative h]
  split_ifs with hdot
  · cases hup : parentPieces? ps with
    | none => exact components_empty ▸ List.nil_prefix
    | some up =>
      rw [Option.map_some, Option.getD_some, ← hdot]
      exact hkept ((List.prefix_cons_inj _).2 (isPrefix_of_parentPieces? hup))
  · cases hup : parentPieces? ((c :: cs) :: ps) with
    | none => exact components_empty ▸ List.nil_prefix
    | some up =>
      have hinit := isPrefix_of_parentPieces? hup
      cases up with
      | nil => exact components_empty ▸ List.nil_prefix
      | cons first others =>
        obtain ⟨rfl, -⟩ := List.cons_prefix_cons.1 hinit
        exact hkept hinit

/-- A path starts with its directory. -/
theorem startsWith_directory (p : Path) : p.startsWith p.directory = true := by
  rw [startsWith, List.isPrefixOf_iff_prefix]
  obtain ⟨text⟩ := p
  obtain ⟨s, rfl⟩ : ∃ s, text = String.ofList s := ⟨text.toList, String.ofList_toList.symm⟩
  cases s with
  | nil => exact List.prefix_rfl
  | cons c s =>
    by_cases hc : c = '/'
    · rw [hc]
      exact components_directory_absolute s
    · have hpieces : ∃ cs ps, splitPieces (c :: s) = (c :: cs) :: ps := by
        rw [splitPieces, if_neg (by simpa using hc)]
        split <;> exact ⟨_, _, rfl⟩
      obtain ⟨cs, ps, hpieces⟩ := hpieces
      rw [← joinPieces_splitPieces (c :: s), hpieces]
      refine components_directory_relative fun piece hpiece => ?_
      exact slash_notMem_of_mem_splitPieces (hpieces ▸ hpiece)

end Path

/-- The first file of a schema is read where it was named. -/
theorem resolveInclude_root (root : Path) : resolveInclude root.directory root = root :=
  if_pos root.startsWith_directory

end WireSchema
