import Mathlib.Data.Finmap
import Mathlib.Data.Finset.Lattice.Fold
import Mathlib.Order.Lattice.Nat
import WireSchema.Header.Routine
import WireSchema.Proofs.FieldType.ScalarTexts

/-!
# Chains of pointers on the heap

The expressions and statements that build, follow and release a chain of pointers are run on an
abstract heap, a finite map from addresses to cells. A run stops with no result where the emitted
code would go wrong: at a dereference or a release of a cell that is not live, and at an allocation
whose first value is not of the type of the cell. So a run that has a result never touches a
released cell.

The allocator is any function that gives an address which is not live; it may give a released
address again.

## Main definitions

* `Header.Value`, `Header.Cell`, `Header.Heap`, `Header.Memory`: what is stored.
* `Header.Allocator`: a choice of fresh addresses.
* `Header.Expr.eval`, `Header.Simple.exec`, `Header.runAll`: the meaning of expressions and
  statements. Statements also report the addresses they release, in order.
* `Header.Expr.receiver?`: the cell that a method is called on.
* `Header.Reaches`: cells that lead from one value to another.
* `Header.FreshChain`: what the allocation of a chain does to a heap.

## Main results

* `Header.freshChain_allocate`: an allocation succeeds and adds a fresh chain.
* `Header.eval_through`: following pointers reaches what the chain leads to.
* `Header.runAll_release`: a release frees the cells of a chain, the last one first.
* `Header.chain_allocated_reached_released`: the three together, at every depth.
-/

namespace WireSchema.Header

/-! ### Memory -/

/-- What a variable or a cell holds. -/
inductive Value
  /-- The pointer to nothing. -/
  | null
  /-- A pointer to a cell for values of a type. -/
  | pointer (type : String) (address : Nat)
  /-- A value of a class, in place. -/
  | object (type : String)
  deriving DecidableEq, Repr

/-- The type of a value; the null pointer has none of its own. -/
def Value.type? : Value → Option String
  | null => none
  | pointer type _ => some (type ++ "*")
  | object type => some type

/-- A cell on the heap. -/
structure Cell where
  /-- The type it was allocated for. -/
  type : String
  content : Value
  deriving DecidableEq, Repr

/-- The live cells by their addresses. -/
abbrev Heap := Finmap fun _ : Nat => Cell

/-- A choice of the address of a new cell. -/
structure Allocator where
  next : Heap → Nat
  next_notMem : ∀ h, next h ∉ h

/-- The allocator that goes above all live cells. -/
def Allocator.above : Allocator where
  next h := h.keys.sup id + 1
  next_notMem h hmem := by
    have hle : h.keys.sup id + 1 ≤ h.keys.sup id :=
      Finset.le_sup (f := id) (Finmap.mem_keys.mpr hmem)
    omega

/-- The variables by the texts of the expressions that name them, and the heap. -/
structure Memory where
  vars : String → Value
  heap : Heap

namespace Memory

/-- The live cell that a value points to, with its address. -/
def cell? (m : Memory) : Value → Option (Nat × Cell)
  | .pointer _ a => (m.heap.lookup a).map (a, ·)
  | _ => none

/-- A new cell, and the pointer to it. -/
def alloc (A : Allocator) (m : Memory) (c : Cell) : Value × Memory :=
  (.pointer c.type (A.next m.heap),
    { m with heap := m.heap.insert (A.next m.heap) c })

/-- The memory after an assignment to a variable. -/
def set (m : Memory) (x : String) (v : Value) : Memory :=
  { m with vars := Function.update m.vars x v }

/-- The memory without the cell that a value points to, and the addresses released. The release of
the null pointer does nothing. -/
def free (m : Memory) : Value → Option (Memory × List Nat)
  | .null => some (m, [])
  | v => (m.cell? v).map fun (a, _) => ({ m with heap := m.heap.erase a }, [a])

end Memory

/-! ### The meaning of expressions and statements -/

/-- Does the expression name a place that holds a value? -/
def Expr.isLocation : Expr → Bool
  | .name s => s != "0"
  | .member _ => true
  | .item _ => true
  | _ => false

/-- The first value of a new cell. -/
def firstValue? (type : String) : List Value → Option Value
  | [] => some (.object type)
  | [v] => if v.type? = some type then some v else none
  | _ => none

mutual

/-- The value of an expression, and the memory after it. Only places, dereferences and allocations
have one. -/
def Expr.eval (A : Allocator) : Expr → Memory → Option (Value × Memory)
  | .name s, m => some (if s = "0" then .null else m.vars s, m)
  | .member f, m => some (m.vars (Expr.member f).text, m)
  | .item a, m => some (m.vars (Expr.item a).text, m)
  | .deref e, m =>
    (e.eval A m).bind fun (v, m) => (m.cell? v).map fun (_, c) => (c.content, m)
  | .construct type args, m =>
    (evalArgs A args m).bind fun (vs, m) =>
      (firstValue? type vs).map fun v => m.alloc A ⟨type, v⟩
  | _, _ => none

/-- The values of arguments, from left to right. -/
def evalArgs (A : Allocator) : List Expr → Memory → Option (List Value × Memory)
  | [], m => some ([], m)
  | e :: es, m =>
    (e.eval A m).bind fun (v, m) => (evalArgs A es m).map fun (vs, m) => (v :: vs, m)

end

/-- The live cell on which a method behind a pointer is called, with its address. -/
def Expr.receiver? (A : Allocator) : Expr → Memory → Option (Nat × Cell)
  | .onPointer e _ _, m => (e.eval A m).bind fun (v, m) => m.cell? v
  | _, _ => none

/-- The memory after a statement, and the addresses that it released. -/
def Simple.exec (A : Allocator) : Simple → Memory → Option (Memory × List Nat)
  | .assign target value, m =>
    if target.isLocation then (value.eval A m).map fun (v, m) => (m.set target.text v, [])
    else none
  | .free e, m => (e.eval A m).bind fun (v, m) => m.free v
  | _, _ => none

/-- The memory after statements in order, and the addresses that they released. -/
def runAll (A : Allocator) : List Simple → Memory → Option (Memory × List Nat)
  | [], m => some (m, [])
  | s :: ss, m =>
    (s.exec A m).bind fun (m, freed) =>
      (runAll A ss m).map fun (m, freed') => (m, freed ++ freed')

variable {A : Allocator} {e : Expr} {m : Memory}

theorem eval_of_isLocation (he : e.isLocation = true) :
    e.eval A m = some (m.vars e.text, m) := by
  cases e with
  | name s =>
    have hs : s ≠ "0" := by simpa [Expr.isLocation] using he
    simp [Expr.eval, Expr.text, hs]
  | member f => rfl
  | item a => rfl
  | _ => simp [Expr.isLocation] at he

/-! ### Following cells -/

/-- The cells at the given addresses lead from one value to another. Every cell holds a value of
the type it was allocated for. -/
inductive Reaches (h : Heap) : Value → List Nat → Value → Prop
  | refl (v : Value) : Reaches h v [] v
  | cons {type : String} {a : Nat} {u w : Value} {rest : List Nat}
      (cell : h.lookup a = some ⟨type, u⟩) (typed : u.type? = some type)
      (tail : Reaches h u rest w) : Reaches h (.pointer type a) (a :: rest) w

namespace Reaches

variable {h h' : Heap} {v w : Value} {chain : List Nat}

@[simp] theorem nil_iff : Reaches h v [] w ↔ w = v := by
  constructor
  · rintro ⟨⟩
    rfl
  · rintro rfl
    exact .refl _

/-- A chain is kept when its own cells are. -/
theorem congr (hr : Reaches h v chain w) (heq : ∀ a ∈ chain, h'.lookup a = h.lookup a) :
    Reaches h' v chain w := by
  induction hr with
  | refl v => exact .refl v
  | cons cell typed _ ih =>
    refine .cons ((heq _ List.mem_cons_self).trans cell) typed (ih fun a ha => ?_)
    exact heq a (List.mem_cons_of_mem _ ha)

/-- The cells of a chain are live. -/
theorem mem (hr : Reaches h v chain w) {a : Nat} (ha : a ∈ chain) : a ∈ h := by
  induction hr with
  | refl v => exact absurd ha List.not_mem_nil
  | cons cell _ _ ih =>
    obtain rfl | hrest := List.mem_cons.mp ha
    · exact Finmap.mem_of_lookup_eq_some cell
    · exact ih hrest

/-- The last cell of a chain: the cells before it lead to a pointer to it, and it holds what the
chain leads to. -/
theorem last {a : Nat} (hr : Reaches h v (chain ++ [a]) w) :
    ∃ type, Reaches h v chain (.pointer type a) ∧ h.lookup a = some ⟨type, w⟩ ∧
      w.type? = some type := by
  induction chain generalizing v with
  | nil =>
    obtain _ | ⟨cell, typed, tail⟩ := hr
    cases tail
    exact ⟨_, .refl _, cell, typed⟩
  | cons b chain ih =>
    obtain _ | ⟨cell, typed, tail⟩ := hr
    obtain ⟨type, hinit, hlast⟩ := ih tail
    exact ⟨type, .cons cell typed hinit, hlast⟩

end Reaches

/-- Following as many pointers as a chain has cells gives what the chain leads to. -/
theorem eval_through {chain : List Nat} {w : Value} (he : e.isLocation = true)
    (hr : Reaches m.heap (m.vars e.text) chain w) :
    (through e chain.length).eval A m = some (w, m) := by
  -- Every dereference is one more cell at the end of the chain.
  induction chain using List.reverseRecOn generalizing w with
  | nil =>
    obtain rfl := Reaches.nil_iff.mp hr
    exact eval_of_isLocation he
  | append_singleton chain a ih =>
    obtain ⟨type, hinit, hcell, -⟩ := hr.last
    simp [through, Expr.eval, ih hinit, Memory.cell?, hcell]

/-! ### Allocation -/

/-- The heap `after` is the heap `before` with a chain of fresh cells, which lead from the value
`v` to a value of type `base`. -/
structure FreshChain (before after : Heap) (base : String) (v : Value) (chain : List Nat) :
    Prop where
  nodup : chain.Nodup
  fresh : ∀ a ∈ chain, a ∉ before
  frame : ∀ a ∉ chain, after.lookup a = before.lookup a
  type : v.type? = some (base ++ FieldType.stars chain.length)
  reaches : Reaches after v chain (.object base)

namespace FreshChain

variable {before after : Heap} {base : String} {v : Value} {chain : List Nat}

theorem nil (h : Heap) (base : String) : FreshChain h h base (.object base) [] where
  nodup := .nil
  fresh _ ha := absurd ha List.not_mem_nil
  frame _ _ := rfl
  type := by simp [Value.type?, FieldType.stars]
  reaches := .refl _

theorem notMem_of_notMem {a : Nat} (hc : FreshChain before after base v chain)
    (ha : a ∉ after) : a ∉ before := by
  by_cases hmem : a ∈ chain
  · exact hc.fresh a hmem
  · rw [← Finmap.lookup_eq_none, ← hc.frame a hmem]
    exact Finmap.lookup_eq_none.mpr ha

/-- One more cell in front of a chain, at an address that is not live. -/
theorem cons {a : Nat} (hc : FreshChain before after base v chain) (ha : a ∉ after) :
    FreshChain before (after.insert a ⟨base ++ FieldType.stars chain.length, v⟩) base
      (.pointer (base ++ FieldType.stars chain.length) a) (a :: chain) := by
  have hne : ∀ b ∈ chain, b ≠ a := by
    rintro b hb rfl
    exact ha (hc.reaches.mem hb)
  refine ⟨List.nodup_cons.mpr ⟨fun hmem => hne a hmem rfl, hc.nodup⟩, ?_, ?_, ?_, ?_⟩
  · rintro b (_ | ⟨_, hb⟩)
    · exact hc.notMem_of_notMem ha
    · exact hc.fresh b hb
  · intro b hb
    rw [List.mem_cons, not_or] at hb
    rw [Finmap.lookup_insert_of_ne _ hb.1, hc.frame b hb.2]
  · rw [Value.type?, List.length_cons, FieldType.stars_add, ← String.append_assoc]
    rfl
  · refine .cons (Finmap.lookup_insert _) hc.type (hc.reaches.congr fun b hb => ?_)
    exact Finmap.lookup_insert_of_ne _ (hne b hb)

end FreshChain

/-- The allocation of a chain succeeds, changes no variable, and adds as many fresh cells as the
chain has pointers. -/
theorem freshChain_allocate (A : Allocator) (base : String) (n : Nat) (m : Memory) :
    ∃ v after chain,
      (allocate base (n + 1)).eval A m = some (v, { m with heap := after }) ∧
        chain.length = n + 1 ∧ FreshChain m.heap after base v chain := by
  -- The first value of a cell is evaluated before the cell is allocated, so the inner chain is on
  -- the heap in which the address of the outer cell is chosen.
  induction n with
  | zero =>
    refine ⟨_, _, [A.next m.heap], ?_, rfl, (FreshChain.nil m.heap base).cons (A.next_notMem _)⟩
    simp [allocate, Expr.eval, evalArgs, firstValue?, Memory.alloc, FieldType.stars]
  | succ n ih =>
    obtain ⟨v, after, chain, heval, hlength, hchain⟩ := ih
    have htype : v.type? = some (base ++ FieldType.stars (n + 1)) := hlength ▸ hchain.type
    refine ⟨_, _, A.next after :: chain, ?_, ?_, hchain.cons (A.next_notMem after)⟩
    · simp [allocate, Expr.eval, evalArgs, heval, firstValue?, htype, Memory.alloc, hlength]
    · rw [List.length_cons, hlength]

/-! ### Release -/

/-- A heap without the cells at the given addresses. -/
def Heap.eraseAll (h : Heap) (addresses : List Nat) : Heap :=
  addresses.foldr Finmap.erase h

theorem Heap.lookup_eraseAll (h : Heap) (addresses : List Nat) (a : Nat) :
    (h.eraseAll addresses).lookup a = if a ∈ addresses then none else h.lookup a := by
  induction addresses with
  | nil => rfl
  | cons b rest ih =>
    rw [eraseAll, List.foldr_cons]
    by_cases hab : a = b
    · subst hab
      simp
    · rw [Finmap.lookup_erase_ne hab, ← eraseAll, ih]
      simp [hab]

/-- Without its chain a heap is what it was before the allocation. -/
theorem FreshChain.eraseAll_eq {before after : Heap} {base : String} {v : Value}
    {chain : List Nat} (hc : FreshChain before after base v chain) :
    Heap.eraseAll after chain = before := by
  refine Finmap.ext_lookup fun a => ?_
  rw [Heap.lookup_eraseAll]
  split
  case isTrue ha => exact (Finmap.lookup_eq_none.mpr (hc.fresh a ha)).symm
  case isFalse ha => exact hc.frame a ha

/-- A release of as many cells as a chain has frees the cells of the chain, the last one first. -/
theorem runAll_release {chain : List Nat} {w : Value} (he : e.isLocation = true)
    (hnodup : chain.Nodup) (hr : Reaches m.heap (m.vars e.text) chain w) :
    runAll A (release e chain.length) m =
      some ({ m with heap := Heap.eraseAll m.heap chain }, chain.reverse) := by
  -- The first statement frees the last cell. The cells before it are untouched, so they still lead
  -- to the pointer to that cell, and the other statements do not follow that pointer.
  induction chain using List.reverseRecOn generalizing m w with
  | nil => rfl
  | append_singleton chain a ih =>
    obtain ⟨type, hinit, hcell, -⟩ := hr.last
    obtain ⟨hchain, ha⟩ : chain.Nodup ∧ a ∉ chain := by
      simpa [List.nodup_append, List.forall_mem_ne'] using hnodup
    have hfree : (Simple.free (through e chain.length)).exec A m =
        some ({ m with heap := m.heap.erase a }, [a]) := by
      simp [Simple.exec, eval_through he hinit, Memory.free, Memory.cell?, hcell]
    have hkept : Reaches (m.heap.erase a) (m.vars e.text) chain (.pointer type a) :=
      hinit.congr fun b hb => Finmap.lookup_erase_ne (ne_of_mem_of_not_mem hb ha)
    have hrest := ih (m := { m with heap := m.heap.erase a }) hchain hkept
    simp [release, runAll, hfree, hrest, Heap.eraseAll]

/-! ### The life of a chain -/

/-- A method of the value at the end of a chain is called on the last cell. -/
theorem receiver?_invoke {chain : List Nat} {base : String} {n : Nat} (he : e.isLocation = true)
    (hlength : chain.length = n + 1)
    (hr : Reaches m.heap (m.vars e.text) chain (.object base)) (method : String)
    (args : List Expr) :
    (invoke e (n + 1) method args).receiver? A m =
      chain.getLast?.map (·, ⟨base, .object base⟩) := by
  obtain rfl | ⟨init, a, rfl⟩ := List.eq_nil_or_concat' chain
  · simp at hlength
  · obtain ⟨type, hinit, hcell, htype⟩ := hr.last
    obtain rfl : n = init.length := by simpa using hlength.symm
    obtain rfl : base = type := by simpa [Value.type?] using htype
    simp [invoke, Expr.receiver?, eval_through he hinit, Memory.cell?, hcell]

/-- **A chain of pointers is built, reached and released alike at every depth**, for every allocator
and in every memory. The assignment of a new chain adds exactly `depth` fresh cells, reached from a
pointer of type `base` with `depth` stars. A method is then called on the last cell, which holds the
value of type `base`. The release frees every cell once, never follows a pointer to a released cell,
and leaves the heap as it was before the assignment. -/
theorem chain_allocated_reached_released (A : Allocator) (base : String) (e : Expr)
    (he : e.isLocation = true) (depth : Nat) (hdepth : 1 ≤ depth) (m : Memory) :
    ∃ (m' : Memory) (chain : List Nat),
      (Simple.assign e (allocate base depth)).exec A m = some (m', []) ∧
      chain.length = depth ∧
      FreshChain m.heap m'.heap base (m'.vars e.text) chain ∧
      (∀ x ≠ e.text, m'.vars x = m.vars x) ∧
      (∀ method args, (invoke e depth method args).receiver? A m' =
        chain.getLast?.map (·, ⟨base, .object base⟩)) ∧
      runAll A (release e depth) m' = some ({ m' with heap := m.heap }, chain.reverse) := by
  obtain ⟨n, rfl⟩ : ∃ n, depth = n + 1 := ⟨depth - 1, by omega⟩
  obtain ⟨v, after, chain, heval, hlength, hchain⟩ := freshChain_allocate A base n m
  set m' : Memory := Memory.set { m with heap := after } e.text v with hm'
  have hvar : m'.vars e.text = v := Function.update_self ..
  have hreach : Reaches m'.heap (m'.vars e.text) chain (.object base) := hvar ▸ hchain.reaches
  refine ⟨m', chain, ?_, hlength, hvar ▸ hchain, fun x hx => Function.update_of_ne hx .., ?_, ?_⟩
  · simp [Simple.exec, he, heval, hm']
  · exact receiver?_invoke he hlength hreach
  · rw [← hlength, runAll_release he hchain.nodup hreach]
    have herase : Heap.eraseAll m'.heap chain = m.heap := hchain.eraseAll_eq
    rw [herase]

/-- A memory with one live cell, and no variable set. -/
def shipMemory : Memory where
  vars _ := .null
  heap := Finmap.singleton 1 ⟨"Ship", .object "Ship"⟩

/-- Three cells for an item of an array, above the cell that is live already. In the other order
they cannot be released: the outer cell holds the pointer to the next one. -/
theorem chain_allocated_reached_released_item :
    (Expr.item (.member "crew")).isLocation = true ∧ 1 ≤ 3 ∧
    ∃ m',
      (Simple.assign (.item (.member "crew")) (allocate "Bar" 3)).exec .above shipMemory =
        some (m', []) ∧
      FreshChain shipMemory.heap m'.heap "Bar" (m'.vars "this->crew[__i]") [4, 3, 2] ∧
      (∀ method args, (invoke (.item (.member "crew")) 3 method args).receiver? .above m' =
        some (2, ⟨"Bar", .object "Bar"⟩)) ∧
      runAll .above (release (.item (.member "crew")) 3) m' =
        some ({ m' with heap := shipMemory.heap }, [2, 3, 4]) ∧
      runAll .above (release (.item (.member "crew")) 3).reverse m' = none := by
  obtain ⟨m', chain, hexec, -, hchain, -, hreceiver, hrun⟩ :=
    chain_allocated_reached_released .above "Bar" (.item (.member "crew")) rfl 3 (by decide)
      shipMemory
  have hfreed : (runAll .above (.assign (.item (.member "crew")) (allocate "Bar" 3) ::
      release (.item (.member "crew")) 3) shipMemory).map (·.2) = some [2, 3, 4] := by
    decide
  obtain rfl : chain = [4, 3, 2] := by
    simpa [runAll, hexec, hrun, List.reverse_eq_iff] using hfreed
  have hreversed : runAll .above (.assign (.item (.member "crew")) (allocate "Bar" 3) ::
      (release (.item (.member "crew")) 3).reverse) shipMemory = none :=
    Option.isNone_iff_eq_none.mp (by decide)
  refine ⟨rfl, by decide, m', hexec, hchain, hreceiver, hrun, ?_⟩
  simpa [runAll, hexec] using hreversed

end WireSchema.Header
