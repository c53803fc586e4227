import Mathlib.Data.List.Nodup
import Mathlib.Data.Set.Card
import Mathlib.Logic.Relation
import Mathlib.Order.CompletePartialOrder
import WireSchema.Files.Load
import WireSchema.Proofs.Files.Disk

/-!
# The graph of includes

Every file names the files that it includes, in order, and may name a file more than once. Level 0
of a first file is that file alone, and the files that a level includes make up the next level. A
file stands in the levels once for every walk that leads to it along includes.

A view shows finitely many texts, and what a file includes depends on its text only. So where no
file includes itself in a roundabout way, every include leads to a file below which fewer texts can
be read, and only finitely many levels are not empty.

## Main definitions

* `View.includes`: the files that a file includes.
* `IncludeGraph.Reaches`, `IncludeGraph.AcyclicFrom`: the files below a file, and that none of them
  is below itself.
* `IncludeGraph.level`, `IncludeGraph.IsLevelOrder`: the levels below a file, and all of them one
  after the other.
* `IncludeGraph.walkEnd?`, `IncludeGraph.ListsWalks`: where a walk along includes ends, and a list
  of the ends of all walks.

## Main results

* `View.exists_isLevelOrder`: below a file without loops there are finitely many files.
* `IncludeGraph.IsLevelOrder.listsWalks`: the level order lists the ends of all walks.
-/

namespace WireSchema

/-- The files that the file at a path includes. A file that cannot be read or is no schema file
includes none. -/
def View.includes (read : View) (r : DocumentReader) (dir p : Path) : List Path :=
  match readSchema r read p with
  | .ok file => file.includedPaths dir
  | .error _ => []

namespace IncludeGraph

section Definitions

variable (includes : Path → List Path)

/-- Is the file at `q` the file at `p`, one that it includes, one that such a file includes, and so
on? -/
def Reaches : Path → Path → Prop :=
  Relation.ReflTransGen fun p q => q ∈ includes p

/-- No file below `start` includes itself in a roundabout way. -/
def AcyclicFrom (start : Path) : Prop :=
  ∀ p, Reaches includes start p → ¬ Relation.TransGen (fun p q => q ∈ includes p) p p

/-- The files that are reached from `start` in a number of steps, in the order of the includes. -/
def level (start : Path) : Nat → List Path
  | 0 => [start]
  | k + 1 => (level start k).flatMap includes

/-- The first `n` levels, one after the other. -/
def levels (start : Path) (n : Nat) : List Path :=
  (List.range n).flatMap (level includes start)

/-- All levels, one after the other, of which there are finitely many. -/
def IsLevelOrder (start : Path) (visits : List Path) : Prop :=
  ∃ n, (∀ k, n ≤ k → level includes start k = []) ∧ visits = levels includes start n

/-- The end of a walk along includes. The walk is given by the position of each include in its
file. -/
def walkEnd? : Path → List Nat → Option Path
  | p, [] => some p
  | p, i :: walk => (includes p)[i]?.bind fun q => walkEnd? q walk

/-- A list of the ends of all walks from `start`, with an entry for each walk. -/
def ListsWalks (start : Path) (visits : List Path) : Prop :=
  ∃ walks : List (List Nat), walks.Nodup ∧
    (∀ walk, walk ∈ walks ↔ (walkEnd? includes start walk).isSome) ∧
    walks.map (walkEnd? includes start) = visits.map some

end Definitions

/-! ### Levels -/

section Levels

variable {includes : Path → List Path} {start p q : Path}

theorem levels_succ (n : Nat) :
    levels includes start (n + 1) = levels includes start n ++ level includes start n := by
  rw [levels, List.range_succ, List.flatMap_append, List.flatMap_singleton]
  rfl

/-- The files in `k + 1` steps from a file are those in `k` steps from what it includes. -/
theorem level_succ' (p : Path) (k : Nat) :
    level includes p (k + 1) = (includes p).flatMap fun q => level includes q k := by
  induction k with
  | zero => simp [level]
  | succ k ih =>
    rw [level, ih, List.flatMap_assoc]
    rfl

theorem reaches_of_mem_level {k : Nat} (h : p ∈ level includes start k) :
    Reaches includes start p := by
  induction k generalizing p with
  | zero =>
    rw [level, List.mem_singleton] at h
    exact h ▸ .refl
  | succ k ih =>
    obtain ⟨q, hq, hp⟩ := List.mem_flatMap.1 h
    exact .tail (ih hq) hp

theorem reaches_of_mem_levels {n : Nat} (h : p ∈ levels includes start n) :
    Reaches includes start p := by
  obtain ⟨k, -, hk⟩ := List.mem_flatMap.1 h
  exact reaches_of_mem_level hk

theorem IsLevelOrder.reaches {visits : List Path} (h : IsLevelOrder includes start visits)
    (hp : p ∈ visits) : Reaches includes start p := by
  obtain ⟨n, -, rfl⟩ := h
  exact reaches_of_mem_levels hp

/-- A set of files that has all that its files include has all files below them. -/
theorem mem_of_reaches {files : List Path} (hstart : start ∈ files)
    (hclosed : ∀ p ∈ files, ∀ q ∈ includes p, q ∈ files) (h : Reaches includes start p) :
    p ∈ files := by
  induction h with
  | refl => exact hstart
  | tail _ hq ih => exact hclosed _ ih _ hq

/-- After an empty level there are only empty ones. -/
theorem level_eq_nil_of_le {n k : Nat} (h : level includes start n = []) (hnk : n ≤ k) :
    level includes start k = [] := by
  induction k, hnk using Nat.le_induction with
  | base => exact h
  | succ k _ ih => rw [level, ih, List.flatMap_nil]

theorem levels_eq_of_le {n k : Nat} (h : level includes start n = []) (hnk : n ≤ k) :
    levels includes start k = levels includes start n := by
  induction k, hnk using Nat.le_induction with
  | base => rfl
  | succ k hk ih => rw [levels_succ, ih, level_eq_nil_of_le h hk, List.append_nil]

theorem isLevelOrder_levels {n : Nat} (h : level includes start n = []) :
    IsLevelOrder includes start (levels includes start n) :=
  ⟨n, fun _ hk => level_eq_nil_of_le h hk, rfl⟩

/-- There is one level order. -/
theorem IsLevelOrder.eq_levels {visits : List Path} {n : Nat}
    (h : IsLevelOrder includes start visits) (hn : level includes start n = []) :
    visits = levels includes start n := by
  obtain ⟨m, hempty, rfl⟩ := h
  rcases le_total n m with hnm | hmn
  · exact levels_eq_of_le hn hnm
  · exact (levels_eq_of_le (hempty m le_rfl) hmn).symm

/-- A file in the first levels stands in one level, after all levels before. -/
theorem exists_level_of_levels {n : Nat} {before after : List Path}
    (h : levels includes start n = before ++ p :: after) :
    ∃ k left right, level includes start k = left ++ p :: right ∧
      before = levels includes start k ++ left := by
  induction n generalizing after with
  | zero => simp [levels] at h
  | succ n ih =>
    rw [levels_succ, List.append_eq_append_iff] at h
    rcases h with ⟨left, rfl, hlevel⟩ | ⟨middle, hlevels, hmiddle⟩
    · exact ⟨n, left, after, hlevel, rfl⟩
    · cases middle with
      | nil =>
        rw [List.append_nil] at hlevels
        exact ⟨n, [], after, hmiddle.symm, by rw [hlevels, List.append_nil]⟩
      | cons m middle =>
        obtain ⟨rfl, -⟩ := List.cons.inj hmiddle
        exact ih hlevels

/-! ### Finitely many levels -/

namespace AcyclicFrom

theorem of_mem (h : AcyclicFrom includes p) (hq : q ∈ includes p) : AcyclicFrom includes q :=
  fun r hr => h r (.head hq hr)

/-- There is no loop where the files can be listed such that each stands before those that it
includes. -/
theorem of_listing {files : List Path} (hstart : start ∈ files)
    (h : ∀ p ∈ files, ∀ q ∈ includes p, q ∈ files ∧ files.idxOf p < files.idxOf q) :
    AcyclicFrom includes start := by
  have hfiles : ∀ p, Reaches includes start p → p ∈ files :=
    fun _ => mem_of_reaches hstart fun p hp q hq => (h p hp q hq).1
  intro p hp hloop
  have hlater : ∀ q, Relation.TransGen (fun p q => q ∈ includes p) p q →
      files.idxOf p < files.idxOf q := by
    intro q hpq
    induction hpq with
    | single hq => exact (h _ (hfiles p hp) _ hq).2
    | tail hpr hq ih =>
      exact ih.trans (h _ (hfiles _ (hp.trans hpr.to_reflTransGen)) _ hq).2
  exact lt_irrefl _ (hlater p hloop)

end AcyclicFrom

end Levels

end IncludeGraph

open IncludeGraph

section Views

variable {r : DocumentReader} {read read' : View} {dir start p q : Path}

/-- What a file includes depends on its text only. -/
theorem View.includes_congr (h : read p = read' q) :
    read.includes r dir p = read'.includes r dir q := by
  unfold includes readSchema
  rw [h]
  cases read' q with
  | error cause => rfl
  | ok text => cases hfile : SchemaFile.parse r text <;> simp only [hfile, Except.mapError]

/-- A file that includes others can be read. -/
theorem View.exists_text_of_mem_includes (h : q ∈ read.includes r dir p) :
    ∃ text, read p = .ok text := by
  unfold includes readSchema at h
  cases hp : read p with
  | error cause => simp [hp] at h
  | ok text => exact ⟨text, rfl⟩

/-- The texts of the file at a path and of those below it. -/
def View.textsBelow (read : View) (r : DocumentReader) (dir p : Path) : Set String :=
  {text | ∃ q, Reaches (read.includes r dir) p q ∧ read q = .ok text}

theorem View.textsBelow_subset_texts : read.textsBelow r dir p ⊆ read.texts :=
  fun _ ⟨q, _, hq⟩ => ⟨q, hq⟩

/-- An included file has fewer texts below it than the file that includes it: the text of that file
is not among them, since a file with this text would include the included file once more. -/
theorem View.textsBelow_ssubset (hacyclic : AcyclicFrom (read.includes r dir) p)
    (hq : q ∈ read.includes r dir p) : read.textsBelow r dir q ⊂ read.textsBelow r dir p := by
  obtain ⟨text, htext⟩ := exists_text_of_mem_includes hq
  have hsubset : read.textsBelow r dir q ⊆ read.textsBelow r dir p :=
    fun t ⟨below, hbelow, ht⟩ => ⟨below, .head hq hbelow, ht⟩
  refine (Set.ssubset_iff_of_subset hsubset).2 ⟨text, ⟨p, .refl, htext⟩, ?_⟩
  rintro ⟨same, hsame, hsametext⟩
  have hagain : q ∈ read.includes r dir same := includes_congr (hsametext.trans htext.symm) ▸ hq
  exact hacyclic q (.single hq) (Relation.TransGen.tail' hsame hagain)

/-- There is no level beyond the number of texts below a file. -/
theorem View.level_eq_nil_of_acyclic (hfinite : read.texts.Finite)
    (hacyclic : AcyclicFrom (read.includes r dir) p) {n : Nat}
    (hn : (read.textsBelow r dir p).ncard < n) : level (read.includes r dir) p n = [] := by
  induction n generalizing p with
  | zero => exact absurd hn (Nat.not_lt_zero _)
  | succ n ih =>
    rw [level_succ', List.flatMap_eq_nil_iff]
    intro q hq
    have hlt : (read.textsBelow r dir q).ncard < (read.textsBelow r dir p).ncard :=
      Set.ncard_lt_ncard (View.textsBelow_ssubset hacyclic hq)
        (hfinite.subset View.textsBelow_subset_texts)
    exact ih (hacyclic.of_mem hq) (by omega)

/-- Below a file without loops there are finitely many files. -/
theorem View.exists_isLevelOrder (hfinite : read.texts.Finite)
    (hacyclic : AcyclicFrom (read.includes r dir) start) :
    ∃ visits, IsLevelOrder (read.includes r dir) start visits :=
  ⟨_, isLevelOrder_levels (level_eq_nil_of_acyclic hfinite hacyclic (Nat.lt_succ_self _))⟩

end Views

/-! ### Walks -/

namespace IncludeGraph

variable {includes : Path → List Path} {start p : Path}

/-- The walks of a number of steps from a file, in the order of the includes. -/
def walks (includes : Path → List Path) : Nat → Path → List (List Nat)
  | 0, _ => [[]]
  | k + 1, p => (includes p).zipIdx.flatMap fun (q, i) => (walks includes k q).map (i :: ·)

theorem map_walkEnd?_walks (k : Nat) (p : Path) :
    (walks includes k p).map (walkEnd? includes p) = (level includes p k).map some := by
  induction k generalizing p with
  | zero => rfl
  | succ k ih =>
    rw [walks, level_succ', List.map_flatMap, List.map_flatMap]
    nth_rewrite 2 [← List.zipIdx_map_fst 0 (includes p)]
    rw [List.flatMap_map]
    refine List.flatMap_congr fun (q, i) hq => ?_
    have hget : (includes p)[i]? = some q := List.mem_zipIdx_iff_getElem?.1 hq
    have hstep : walkEnd? includes p ∘ (i :: ·) = walkEnd? includes q := by
      funext walk
      simp [walkEnd?, hget]
    rw [List.map_map, hstep, ih]

theorem mem_walks_iff {k : Nat} {walk : List Nat} :
    walk ∈ walks includes k p ↔ walk.length = k ∧ (walkEnd? includes p walk).isSome := by
  induction k generalizing p walk with
  | zero =>
    rw [walks, List.mem_singleton, List.length_eq_zero_iff]
    exact ⟨fun h => ⟨h, h ▸ rfl⟩, And.left⟩
  | succ k ih =>
    simp only [walks, List.mem_flatMap, List.mem_map, Prod.exists, List.mem_zipIdx_iff_getElem?]
    cases walk with
    | nil => simp
    | cons i walk =>
      cases hq : (includes p)[i]? with
      | none => simp [walkEnd?, hq]
      | some q => simp [walkEnd?, hq, ih]

theorem nodup_walks (k : Nat) (p : Path) : (walks includes k p).Nodup := by
  induction k generalizing p with
  | zero => exact List.nodup_singleton []
  | succ k ih =>
    rw [walks, List.nodup_flatMap]
    refine ⟨fun (q, i) _ => (ih q).map fun _ _ h => (List.cons.inj h).2, ?_⟩
    -- walks that begin with different includes differ
    have hpositions : ((includes p).zipIdx.map Prod.snd).Nodup := by
      rw [List.zipIdx_map_snd]
      exact List.nodup_range'
    refine (List.pairwise_map.1 hpositions).imp fun {x y} hne => ?_
    rw [Function.onFun, List.disjoint_left]
    intro walk hx hy
    obtain ⟨w, -, rfl⟩ := List.mem_map.1 hx
    obtain ⟨w', -, hw'⟩ := List.mem_map.1 hy
    exact hne (List.cons.inj hw').1.symm

/-- The level order lists the ends of all walks. -/
theorem IsLevelOrder.listsWalks {visits : List Path} (h : IsLevelOrder includes start visits) :
    ListsWalks includes start visits := by
  obtain ⟨n, hempty, rfl⟩ := h
  refine ⟨(List.range n).flatMap fun k => walks includes k start, ?_, fun walk => ?_, ?_⟩
  · rw [List.nodup_flatMap]
    refine ⟨fun k _ => nodup_walks k start, List.nodup_range.imp fun {j k} hne => ?_⟩
    rw [Function.onFun, List.disjoint_left]
    exact fun walk hj hk => hne ((mem_walks_iff.1 hj).1.symm.trans (mem_walks_iff.1 hk).1)
  · simp only [List.mem_flatMap, List.mem_range, mem_walks_iff]
    refine ⟨fun ⟨_, _, _, hend⟩ => hend, fun hend => ⟨walk.length, ?_, rfl, hend⟩⟩
    -- a walk that ends somewhere ends in a level, so its length is below `n`
    by_contra hlength
    have hwalks : (walks includes walk.length start).map (walkEnd? includes start) = [] := by
      rw [map_walkEnd?_walks, hempty _ (by omega), List.map_nil]
    rw [List.map_eq_nil_iff] at hwalks
    exact List.not_mem_nil (hwalks ▸ mem_walks_iff.2 ⟨rfl, hend⟩)
  · rw [levels, List.map_flatMap, List.map_flatMap]
    exact List.flatMap_congr fun k _ => map_walkEnd?_walks k start

end IncludeGraph

end WireSchema
