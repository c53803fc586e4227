import WireSchema.Proofs.Files.Components
import WireSchema.Proofs.Files.IncludeGraph
import WireSchema.Proofs.Log
import WireSchema.Toml.Document

/-!
# Loading goes through the include graph level by level

The queue of a load holds what is left of one level, and after it what was found of the next. So the
files are read in level order, up to the first that cannot be used, and the load ends when the
levels do. It depends on no file but those that it records.

## Main definitions

* `SchemaFile.merge`: the declarations of files, one after the other.
* `View.Unusable`: a file cannot be read, or it is no schema file.

## Main results

* `loadQueue_append`: a row of files at the front of the queue.
* `loadQueue_levels`: the queue after a number of levels.
* `loadQueue_frame`: a load reads only the files that it records.
* `load?_levelOrder`: a load without loops ends, and visits all levels.
* `load?_first_unusable`: a load without loops fails at the first file that cannot be used.
-/

namespace WireSchema

open IncludeGraph

/-! ### Merged declarations -/

theorem Definitions.append_assoc (a b c : Definitions) : a ++ b ++ c = a ++ (b ++ c) := by
  change append (append a b) c = append a (append b c)
  simp [append]

theorem Definitions.append_empty (d : Definitions) : d ++ ({} : Definitions) = d := by
  change append d {} = d
  simp [append]

/-- The declarations of files, one after the other. -/
def SchemaFile.merge (files : List SchemaFile) : Definitions where
  objects := files.flatMap (·.definitions.objects)
  messages := files.flatMap (·.definitions.messages)

theorem SchemaFile.merge_append (files files' : List SchemaFile) :
    merge (files ++ files') = merge files ++ merge files' := by
  change _ = Definitions.append _ _
  simp [Definitions.append, merge]

theorem SchemaFile.merge_cons (file : SchemaFile) (files : List SchemaFile) :
    merge (file :: files) = file.definitions ++ merge files := rfl

/-! ### Files that cannot be used -/

/-- The file at a path cannot be read, or it is no schema file. -/
def View.Unusable (read : View) (r : DocumentReader) (p : Path) : Prop :=
  (∃ cause, read p = .error cause) ∨
    ∃ text cause, read p = .ok text ∧ SchemaFile.parse r text = .error cause

/-- A load ends with the error of a file that cannot be used. -/
def View.FailsAt (read : View) (r : DocumentReader) (p : Path)
    (outcome : Except LoadError Definitions) : Prop :=
  (∃ cause, read p = .error cause ∧ outcome = .error (.unreadable p cause)) ∨
    ∃ text cause, read p = .ok text ∧ SchemaFile.parse r text = .error cause ∧
      outcome = .error (.unparsable p cause)

variable {r : DocumentReader} {read : View} {dir root p : Path}

theorem View.readSchema_cases (r : DocumentReader) (read : View) (p : Path) :
    (∃ e, readSchema r read p = .error e ∧ read.Unusable r p ∧ read.FailsAt r p (.error e)) ∨
      ∃ file, readSchema r read p = .ok file ∧ ¬ read.Unusable r p := by
  unfold readSchema Unusable FailsAt
  cases read p with
  | error cause => exact .inl ⟨_, rfl, .inl ⟨cause, rfl⟩, .inl ⟨cause, rfl, rfl⟩⟩
  | ok text => cases hfile : SchemaFile.parse r text <;> simp [hfile, Except.mapError]

theorem View.unusable_iff : read.Unusable r p ↔ (readSchema r read p).isOk = false := by
  rcases View.readSchema_cases r read p with ⟨_, he, hunusable, _⟩ | ⟨_, hfile, husable⟩
  · exact ⟨fun _ => he ▸ rfl, fun _ => hunusable⟩
  · exact ⟨fun h => absurd h husable, fun h => by rw [hfile] at h; cases h⟩

instance (r : DocumentReader) (read : View) (p : Path) : Decidable (read.Unusable r p) :=
  decidable_of_iff _ View.unusable_iff.symm

theorem View.exists_readSchema_of_not_unusable (h : ¬ read.Unusable r p) :
    ∃ file, readSchema r read p = .ok file := by
  rcases View.readSchema_cases r read p with ⟨_, _, hunusable, _⟩ | ⟨file, hfile, _⟩
  · exact absurd hunusable h
  · exact ⟨file, hfile⟩

/-- The record of a file that is about to be read. -/
def Path.loading (p : Path) : Record :=
  .loading p.text

theorem Path.loading_injective : Function.Injective loading := fun _ _ h =>
  congrArg mk (Record.loading.inj h)

/-! ### Steps of the loop -/

variable {queue rest ps : List Path} {log : List Record} {merged : Definitions}

theorem loadQueue_cons_of_ok {file : SchemaFile} (h : readSchema r read p = .ok file) :
    r.loadQueue read dir (p :: rest) log merged =
      r.loadQueue read dir (rest ++ read.includes r dir p) (log ++ [p.loading])
        (merged ++ file.definitions) := by
  rw [DocumentReader.loadQueue]
  simp only [h, View.includes]
  rfl

theorem loadQueue_cons_of_error {e : LoadError} (h : readSchema r read p = .error e) :
    r.loadQueue read dir (p :: rest) log merged = some ⟨log ++ [p.loading], .error e⟩ := by
  rw [DocumentReader.loadQueue]
  simp only [h]
  rfl

/-- The files at the front of the queue are read in order, and what they include comes after all
that was in the queue before. -/
theorem loadQueue_append {files : List SchemaFile} (h : ps.mapM (readSchema r read) = .ok files) :
    r.loadQueue read dir (ps ++ rest) log merged =
      r.loadQueue read dir (rest ++ ps.flatMap (read.includes r dir)) (log ++ ps.map Path.loading)
        (merged ++ SchemaFile.merge files) := by
  induction ps generalizing files rest log merged with
  | nil =>
    cases h
    rw [List.nil_append, List.flatMap_nil, List.append_nil, List.map_nil, List.append_nil]
    exact congrArg _ (Definitions.append_empty merged).symm
  | cons p ps ih =>
    rw [List.mapM_cons] at h
    obtain ⟨file, hfile, h⟩ := bind_eq_ok_iff.1 h
    obtain ⟨others, hothers, h⟩ := bind_eq_ok_iff.1 h
    cases h
    rw [List.cons_append, loadQueue_cons_of_ok hfile, List.append_assoc, ih hothers,
      SchemaFile.merge_cons, ← Definitions.append_assoc]
    simp

/-- When all files of the first `n` levels can be used, the next level is in the queue. -/
theorem loadQueue_levels {n : Nat} {files : List SchemaFile}
    (h : (levels (read.includes r dir) root n).mapM (readSchema r read) = .ok files) :
    r.loadQueue read dir [root] [] {} =
      r.loadQueue read dir (level (read.includes r dir) root n)
        ((levels (read.includes r dir) root n).map Path.loading) (SchemaFile.merge files) := by
  induction n generalizing files with
  | zero =>
    cases h
    rfl
  | succ n ih =>
    rw [levels_succ] at h ⊢
    obtain ⟨before, here, hbefore, hhere, rfl⟩ := mapM_append_eq_ok_iff.1 h
    rw [ih hbefore, ← List.append_nil (level _ root n), loadQueue_append hhere, List.map_append,
      SchemaFile.merge_append, List.append_nil]
    rfl

/-- A load reads only the files that it records. -/
theorem loadQueue_frame {result : Logged LoadError Definitions}
    (h : r.loadQueue read dir queue log merged = some result) :
    ∃ visits : List Path, result.log = log ++ visits.map Path.loading ∧
      ∀ read' : View, (∀ p ∈ visits, read' p = read p) →
        r.loadQueue read' dir queue log merged = some result := by
  refine DocumentReader.loadQueue.partial_correctness r read dir
    (fun queue log merged result => ∃ visits : List Path,
      result.log = log ++ visits.map Path.loading ∧
      ∀ read' : View, (∀ p ∈ visits, read' p = read p) →
        r.loadQueue read' dir queue log merged = some result) ?_ queue log merged result h
  intro loop ih queue log merged result h
  cases queue with
  | nil =>
    cases h
    exact ⟨[], (List.append_nil log).symm, fun read' _ => by rw [DocumentReader.loadQueue]⟩
  | cons p rest =>
    have hcongr : ∀ read' : View, read' p = read p → readSchema r read' p = readSchema r read p :=
      fun read' hp => by rw [readSchema, readSchema, hp]
    cases hp : readSchema r read p with
    | error e =>
      simp only [hp] at h hcongr
      cases h
      exact ⟨[p], rfl, fun read' hread =>
        loadQueue_cons_of_error (hcongr read' (hread p List.mem_cons_self))⟩
    | ok file =>
      simp only [hp] at h hcongr
      obtain ⟨visits, hlog, hvisits⟩ := ih _ _ _ _ h
      refine ⟨p :: visits, by rw [hlog, List.append_assoc]; rfl, fun read' hread => ?_⟩
      rw [DocumentReader.loadQueue, hcongr read' (hread p List.mem_cons_self)]
      exact hvisits read' fun q hq => hread q (List.mem_cons_of_mem p hq)

/-! ### Loads -/

/-- The first item of a list with a property. -/
theorem exists_first {α : Type} {P : α → Prop} {l : List α} (h : ∃ a ∈ l, P a) :
    ∃ before a after, l = before ++ a :: after ∧ (∀ b ∈ before, ¬ P b) ∧ P a := by
  classical
  obtain ⟨a, ha⟩ := Option.isSome_iff_exists.1
    (List.find?_isSome (p := fun a => decide (P a)).2 (by simpa using h))
  obtain ⟨hP, before, after, hsplit, hbefore⟩ := List.find?_eq_some_iff_append.1 ha
  exact ⟨before, a, after, hsplit, by simpa using hbefore, by simpa using hP⟩

theorem load?_eq (r : DocumentReader) (read : View) (root : Path) :
    load? r read root = r.loadQueue read root.directory [root] [] {} := by
  rw [load?, resolveInclude_root]

/-- When all files of the levels can be used, the load ends with their declarations. -/
theorem load?_of_usable {visits : List Path} {files : List SchemaFile}
    (hvisits : IsLevelOrder (read.includes r root.directory) root visits)
    (hfiles : visits.mapM (readSchema r read) = .ok files) :
    load? r read root = some ⟨visits.map Path.loading, .ok (SchemaFile.merge files)⟩ := by
  obtain ⟨n, hempty, rfl⟩ := hvisits
  rw [load?_eq, loadQueue_levels hfiles, hempty n le_rfl, DocumentReader.loadQueue]

/-- The load ends at the first file of the levels that cannot be used. -/
theorem load?_of_unusable {visits before after : List Path}
    (hvisits : IsLevelOrder (read.includes r root.directory) root visits)
    (hsplit : visits = before ++ p :: after) (hbefore : ∀ q ∈ before, ¬ read.Unusable r q)
    (hp : read.Unusable r p) :
    ∃ e, read.FailsAt r p (.error e) ∧
      load? r read root = some ⟨(before ++ [p]).map Path.loading, .error e⟩ := by
  rcases View.readSchema_cases r read p with ⟨e, he, -, hfails⟩ | ⟨_, -, husable⟩
  · obtain ⟨n, -, rfl⟩ := hvisits
    obtain ⟨k, left, right, hlevel, rfl⟩ := exists_level_of_levels hsplit
    obtain ⟨files, hfiles⟩ := exists_mapM_eq_ok fun q hq =>
      View.exists_readSchema_of_not_unusable (hbefore q hq)
    obtain ⟨above, beside, habove, hbeside, -⟩ := mapM_append_eq_ok_iff.1 hfiles
    refine ⟨e, hfails, ?_⟩
    rw [load?_eq, loadQueue_levels habove, hlevel, loadQueue_append hbeside, List.cons_append,
      loadQueue_cons_of_error he]
    simp
  · exact absurd hp husable

/-- A load below which there are finitely many files ends, and it fails when one of them cannot be
used. -/
theorem exists_load?_of_isLevelOrder {visits : List Path}
    (hvisits : IsLevelOrder (read.includes r root.directory) root visits) :
    ∃ result, load? r read root = some result ∧
      ((∃ e, result.outcome = .error e) ↔ ∃ p ∈ visits, read.Unusable r p) := by
  by_cases hunusable : ∃ p ∈ visits, read.Unusable r p
  · obtain ⟨before, p, after, hsplit, hbefore, hp⟩ := exists_first hunusable
    obtain ⟨e, -, hload⟩ := load?_of_unusable hvisits hsplit hbefore hp
    exact ⟨_, hload, fun _ => hunusable, fun _ => ⟨e, rfl⟩⟩
  · obtain ⟨files, hfiles⟩ := exists_mapM_eq_ok fun p hp =>
      View.exists_readSchema_of_not_unusable fun hbad => hunusable ⟨p, hp, hbad⟩
    exact ⟨_, load?_of_usable hvisits hfiles, nofun, fun h => absurd h hunusable⟩

/-- A load does not depend on files that it does not record. -/
theorem load?_frame {visits : List Path} {outcome : Except LoadError Definitions} {read' : View}
    (h : load? r read root = some ⟨visits.map Path.loading, outcome⟩)
    (hread : ∀ p ∈ visits, read' p = read p) :
    load? r read' root = some ⟨visits.map Path.loading, outcome⟩ := by
  rw [load?_eq] at h ⊢
  obtain ⟨visits', hlog, hframe⟩ := loadQueue_frame h
  obtain rfl : visits = visits' := Path.loading_injective.list_map hlog
  exact hframe read' hread

/-- **Schemas are loaded level by level.** When finitely many texts can be read, no file below the
first one includes itself in a roundabout way, and all of them can be used, then the load ends. It
records the levels of files one after the other, and has their declarations in this order. A file
is read once for every walk along includes that leads to it. -/
theorem load?_levelOrder {r : DocumentReader} {read : View} (hfinite : read.texts.Finite)
    {root : Path}
    (hacyclic : AcyclicFrom (read.includes r root.directory) root)
    (husable : ∀ p, Reaches (read.includes r root.directory) root p → ¬ read.Unusable r p) :
    ∃ (visits : List Path) (files : List SchemaFile),
      IsLevelOrder (read.includes r root.directory) root visits ∧
      visits.mapM (readSchema r read) = .ok files ∧
      load? r read root = some ⟨visits.map Path.loading, .ok (SchemaFile.merge files)⟩ ∧
      ListsWalks (read.includes r root.directory) root visits := by
  obtain ⟨visits, hvisits⟩ := View.exists_isLevelOrder hfinite hacyclic
  obtain ⟨files, hfiles⟩ := exists_mapM_eq_ok fun p hp =>
    View.exists_readSchema_of_not_unusable (husable p (hvisits.reaches hp))
  exact ⟨visits, files, hvisits, hfiles, load?_of_usable hvisits hfiles, hvisits.listsWalks⟩

/-- Two files that include the same third one. -/
def diamond : View :=
  .ofTexts [
    (⟨"base/root.toml"⟩, "include = [\"left.toml\", \"right.toml\"]"),
    (⟨"base/left.toml"⟩, "include = [\"unit.toml\"]"),
    (⟨"base/right.toml"⟩, "include = [\"base/unit.toml\"]\n[[object]]\ntype = \"Berth\""),
    (⟨"base/unit.toml"⟩, "[[object]]\ntype = \"Unit\"")]

/-- The file that two files include is read twice, and its declarations are there twice. -/
theorem load?_levelOrder_diamond :
    let root : Path := ⟨"base/root.toml"⟩
    let visits : List Path :=
      [root, ⟨"base/left.toml"⟩, ⟨"base/right.toml"⟩, ⟨"base/unit.toml"⟩, ⟨"base/unit.toml"⟩]
    AcyclicFrom (diamond.includes Toml.reader root.directory) root ∧
      (∀ p, Reaches (diamond.includes Toml.reader root.directory) root p →
        ¬ diamond.Unusable Toml.reader p) ∧
      IsLevelOrder (diamond.includes Toml.reader root.directory) root visits ∧
      ListsWalks (diamond.includes Toml.reader root.directory) root visits ∧
      ∃ files, load? Toml.reader diamond root =
          some ⟨visits.map Path.loading, .ok (SchemaFile.merge files)⟩ ∧
        (SchemaFile.merge files).objects.map (·.name) = ["Berth", "Unit", "Unit"] := by
  intro root visits
  have hlisting : ∀ p ∈ visits.dedup, ∀ q ∈ diamond.includes Toml.reader root.directory p,
      q ∈ visits.dedup ∧ visits.dedup.idxOf p < visits.dedup.idxOf q := by decide +kernel
  have hacyclic : AcyclicFrom (diamond.includes Toml.reader root.directory) root :=
    .of_listing (by decide) hlisting
  have husable : ∀ p, Reaches (diamond.includes Toml.reader root.directory) root p →
      ¬ diamond.Unusable Toml.reader p := by
    intro p hp
    have hfiles : ∀ p ∈ visits.dedup, ¬ diamond.Unusable Toml.reader p := by decide +kernel
    exact hfiles p (mem_of_reaches (by decide) (fun p hp q hq => (hlisting p hp q hq).1) hp)
  have hfinite : diamond.texts.Finite := View.finite_texts_ofTexts _
  obtain ⟨visits', files, hvisits, hfiles, hload, hwalks⟩ :=
    load?_levelOrder hfinite hacyclic husable
  obtain rfl : visits' = visits :=
    (hvisits.eq_levels (n := 3) (by decide +kernel)).trans (by decide +kernel)
  refine ⟨hacyclic, husable, hvisits, hwalks, files, hload, ?_⟩
  have hnames : (visits.mapM (readSchema Toml.reader diamond)).toOption.map
      (fun files => (SchemaFile.merge files).objects.map (·.name)) =
        some ["Berth", "Unit", "Unit"] := by decide +kernel
  rw [hfiles] at hnames
  exact Option.some.inj hnames

/-- **A load fails at the first file that cannot be used.** When finitely many texts can be read and
no file below the first one includes itself in a roundabout way, then the load ends. It fails when
one of the files in level order cannot be used: then the error is that of the first such file, the
records are those of the files up to this one, and the other files are not read. -/
theorem load?_first_unusable {r : DocumentReader} {read : View} (hfinite : read.texts.Finite)
    {root : Path}
    (hacyclic : AcyclicFrom (read.includes r root.directory) root) :
    ∃ (visits : List Path) (result : Logged LoadError Definitions),
      IsLevelOrder (read.includes r root.directory) root visits ∧ load? r read root = some result ∧
      ((∃ e, result.outcome = .error e) ↔ ∃ p ∈ visits, read.Unusable r p) ∧
      ∀ before p after, visits = before ++ p :: after → (∀ q ∈ before, ¬ read.Unusable r q) →
        read.Unusable r p →
          result.log = (before ++ [p]).map Path.loading ∧ read.FailsAt r p result.outcome ∧
          ∀ read' : View, (∀ q ∈ before ++ [p], read' q = read q) →
            load? r read' root = some result := by
  obtain ⟨visits, hvisits⟩ := View.exists_isLevelOrder hfinite hacyclic
  obtain ⟨result, hresult, hiff⟩ := exists_load?_of_isLevelOrder hvisits
  refine ⟨visits, result, hvisits, hresult, hiff, fun before p after hsplit hbefore hp => ?_⟩
  obtain ⟨e, hfails, hload⟩ := load?_of_unusable hvisits hsplit hbefore hp
  obtain rfl := Option.some.inj (hresult.symm.trans hload)
  exact ⟨rfl, hfails, fun read' hread => load?_frame hload hread⟩

/-- Two files of which the first includes a file that is no schema file and the second is not
there. -/
def brokenPair : View :=
  .ofTexts [
    (⟨"base/root.toml"⟩, "include = [\"left.toml\", \"right.toml\"]"),
    (⟨"base/left.toml"⟩, "include = [\"unit.toml\"]"),
    (⟨"base/unit.toml"⟩, "[[object")]

/-- The file that is not there is found before the one that is no schema file, which is not read. -/
theorem load?_first_unusable_brokenPair :
    let root : Path := ⟨"base/root.toml"⟩
    let reads : List Path := [root, ⟨"base/left.toml"⟩, ⟨"base/right.toml"⟩]
    let visits : List Path := reads ++ [⟨"base/unit.toml"⟩]
    let result : Logged LoadError Definitions :=
      ⟨reads.map Path.loading, .error (.unreadable ⟨"base/right.toml"⟩ .notFound)⟩
    AcyclicFrom (brokenPair.includes Toml.reader root.directory) root ∧
      IsLevelOrder (brokenPair.includes Toml.reader root.directory) root visits ∧
      brokenPair.Unusable Toml.reader ⟨"base/unit.toml"⟩ ∧
      load? Toml.reader brokenPair root = some result ∧
      ∀ read' : View, (∀ p ∈ reads, read' p = brokenPair p) →
        load? Toml.reader read' root = some result := by
  intro root reads visits result
  have hlisting : ∀ p ∈ visits, ∀ q ∈ brokenPair.includes Toml.reader root.directory p,
      q ∈ visits ∧ visits.idxOf p < visits.idxOf q := by decide +kernel
  have hacyclic : AcyclicFrom (brokenPair.includes Toml.reader root.directory) root :=
    .of_listing (by decide) hlisting
  have hfinite : brokenPair.texts.Finite := View.finite_texts_ofTexts _
  obtain ⟨visits', result', hvisits, hload, -, hfirst⟩ := load?_first_unusable hfinite hacyclic
  obtain rfl : visits' = visits :=
    (hvisits.eq_levels (n := 3) (by decide +kernel)).trans (by decide +kernel)
  obtain ⟨hlog, hfails, hframe⟩ := hfirst [root, ⟨"base/left.toml"⟩] ⟨"base/right.toml"⟩
    [⟨"base/unit.toml"⟩] rfl (by decide +kernel) (by decide +kernel)
  have hmissing : brokenPair ⟨"base/right.toml"⟩ = .error .notFound := by decide +kernel
  have houtcome : result'.outcome = .error (.unreadable ⟨"base/right.toml"⟩ .notFound) := by
    simpa [View.FailsAt, hmissing] using hfails
  obtain rfl : result' = result := by
    obtain ⟨log, outcome⟩ := result'
    obtain rfl : log = reads.map Path.loading := hlog
    obtain rfl : outcome = _ := houtcome
    rfl
  exact ⟨hacyclic, hvisits, by decide +kernel, hload, hframe⟩

end WireSchema
