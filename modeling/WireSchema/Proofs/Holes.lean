import Mathlib.Tactic.Common

/-!
# Sequences with holes

A sequence that is written with a choice may depend on that choice in some places only. It is then a
fixed sequence with holes, and the choice decides what stands in the holes.

## Main definitions

* `HasHoles`: a sequence is fixed but for its holes.

## Main results

* `HasHoles.append`, `HasHoles.enclosed`, `HasHoles.flatMap`: the holes of sequences that are
  written one after another.
-/

namespace WireSchema

variable {α β γ : Type} {hole : β → γ → List α}

/-- With the choice `b` the sequence `write b` has `hole b c` in its holes, where `c` runs through
`contents` in order. All the rest does not depend on the choice. -/
def HasHoles (hole : β → γ → List α) (contents : List γ) (write : β → List α) : Prop :=
  ∃ (pieces : List (List α × γ)) (last : List α), pieces.map Prod.snd = contents ∧
    ∀ b, write b = pieces.flatMap (fun piece => piece.1 ++ hole b piece.2) ++ last

namespace HasHoles

theorem fixed (l : List α) : HasHoles hole [] fun _ => l :=
  ⟨[], l, rfl, fun _ => rfl⟩

theorem single (c : γ) : HasHoles hole [c] fun b => hole b c :=
  ⟨[([], c)], [], rfl, fun b => by simp⟩

/-- What stands behind the last hole of the first sequence stands before the first hole of the
second one. -/
theorem append {contents contents' : List γ} {write write' : β → List α}
    (h : HasHoles hole contents write) (h' : HasHoles hole contents' write') :
    HasHoles hole (contents ++ contents') fun b => write b ++ write' b := by
  obtain ⟨pieces, last, rfl, hwrite⟩ := h
  obtain ⟨pieces', last', rfl, hwrite'⟩ := h'
  cases pieces' with
  | nil =>
    refine ⟨pieces, last ++ last', by simp, fun b => ?_⟩
    simp [hwrite, hwrite']
  | cons piece pieces' =>
    refine ⟨pieces ++ (last ++ piece.1, piece.2) :: pieces', last', by simp, fun b => ?_⟩
    simp [hwrite, hwrite']

/-- A sequence between fixed ones has the same holes. -/
theorem enclosed {contents : List γ} {write : β → List α} (before after : List α)
    (h : HasHoles hole contents write) :
    HasHoles hole contents fun b => before ++ write b ++ after := by
  have happend := ((fixed before).append h).append (fixed after)
  rwa [List.nil_append, List.append_nil] at happend

/-- Sequences with one hole each. -/
theorem flatMap {δ : Type} {content : δ → γ} {write : β → δ → List α}
    (h : ∀ a, HasHoles hole [content a] fun b => write b a) (l : List δ) :
    HasHoles hole (l.map content) fun b => l.flatMap (write b) := by
  induction l with
  | nil => exact fixed []
  | cons a l ih =>
    simp only [List.flatMap_cons]
    exact (h a).append ih

end HasHoles

end WireSchema
