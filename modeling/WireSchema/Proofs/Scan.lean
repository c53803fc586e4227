import Mathlib.Tactic.Common

/-!
# Reading a sequence in order

What is read from a sequence of lines or items in order, where each of them is seen together with
all that follows it.

## Main definitions

* `scan`: what is read from a sequence.
-/

namespace WireSchema

variable {α β : Type}

/-- What is read from a sequence in order, where `read?` sees an item and the items after it. -/
def scan (read? : α → List α → Option β) : List α → List β
  | [] => []
  | a :: after => (read? a after).toList ++ scan read? after

variable {read? : α → List α → Option β} {a : α} {after : List α}

theorem scan_cons_of_none (h : read? a after = none) :
    scan read? (a :: after) = scan read? after := by
  rw [scan, h, Option.toList_none, List.nil_append]

theorem scan_cons_of_some {b : β} (h : read? a after = some b) :
    scan read? (a :: after) = b :: scan read? after := by
  rw [scan, h, Option.toList_some, List.singleton_append]

/-- Items from which nothing is read, whatever follows them, can be left out. -/
theorem scan_append_of_none {items : List α}
    (h : ∀ a ∈ items, ∀ after, read? a after = none) :
    scan read? (items ++ after) = scan read? after := by
  induction items with
  | nil => rfl
  | cons a items ih =>
    rw [List.cons_append, scan_cons_of_none (h a List.mem_cons_self _)]
    exact ih fun a' ha' => h a' (List.mem_cons_of_mem a ha')

/-- Where each part of a sequence shows the same things whatever follows it, the parts show them
one after another. -/
theorem scan_flatMap {γ : Type} {part : γ → List α} {shown : γ → List β} {parts : List γ}
    (h : ∀ c after, scan read? (part c ++ after) = shown c ++ scan read? after) :
    scan read? (parts.flatMap part ++ after) = parts.flatMap shown ++ scan read? after := by
  induction parts with
  | nil => rfl
  | cons c parts ih =>
    rw [List.flatMap_cons, List.append_assoc, h, ih, List.flatMap_cons, List.append_assoc]

end WireSchema
