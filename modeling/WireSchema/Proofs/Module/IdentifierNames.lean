import Mathlib.Data.List.TakeWhile
import Mathlib.Data.Option.Basic
import Mathlib.Tactic.Common
import WireSchema.Module.Identifier

/-!
# The names of identifiers

An identifier may be written raw, with a mark in front of it that does not belong to its name. The
name of the identifier that a text gives is the first word of the text: what stands before that
word can only be a byte order mark, white space, comments and the mark of a raw identifier.

## Main definitions

* `Module.identifierName`: the name of an identifier, raw or not.
* `Module.firstWord`: the first word of a text.

## Main results

* `Module.lexFrom?_eq_ident`: a text that is read as one identifier.
* `Module.identifierName_of_identifier?`: the name of the identifier that a text gives.
-/

namespace WireSchema.Module

open Text

/-- A text without the mark of a raw identifier in front of it. -/
def withoutRawMark : List Char → List Char
  | 'r' :: '#' :: cs => cs
  | cs => cs

/-- A text without a byte order mark in front of it. -/
def withoutOrderMark : List Char → List Char
  | '\ufeff' :: cs => cs
  | cs => cs

/-- The name of an identifier, raw or not. -/
def identifierName (ident : String) : String :=
  String.ofList (withoutRawMark ident.toList)

/-- The first word of a text, which may stand behind a byte order mark, white space, comments and
the mark of a raw identifier. -/
def firstWord (cs : List Char) : List Char :=
  let cs := withoutOrderMark cs
  (withoutRawMark (skipSpace cs.length cs)).takeWhile isIdentMore

theorem lex?_eq (text : String) :
    lex? text =
      lexFrom? ((withoutOrderMark text.toList).length + 1) [] (withoutOrderMark text.toList) :=
  rfl

/-! ### Characters -/

variable {c : Char} {cs rest word : List Char}

theorem isIdentMore_of_isIdentStart (h : isIdentStart c = true) : isIdentMore c = true := by
  simp only [isIdentStart, Bool.or_eq_true, beq_iff_eq] at h
  rcases h with rfl | h
  · decide
  · simp only [isIdentMore, h, Bool.true_or]

/-- The code points of white space. -/
def spaceCodes : List Nat :=
  [9, 10, 11, 12, 13, 0x20, 0x85, 0xA0, 0x1680, 0x2000, 0x2001, 0x2002, 0x2003, 0x2004, 0x2005,
   0x2006, 0x2007, 0x2008, 0x2009, 0x200A, 0x200E, 0x200F, 0x2028, 0x2029, 0x202F, 0x205F, 0x3000]

theorem toNat_mem_spaceCodes (h : isSpace c = true) : c.toNat ∈ spaceCodes := by
  simp only [isSpace, isBlank, Bool.or_eq_true, Bool.and_eq_true, decide_eq_true_eq,
    beq_iff_eq] at h
  simp only [spaceCodes, List.mem_cons, List.not_mem_nil, or_false]
  omega

theorem isIdentStart_eq_false_of_isSpace (h : isSpace c = true) : isIdentStart c = false := by
  have hmem := toNat_mem_spaceCodes h
  have hranges : ∀ n ∈ spaceCodes, inRanges Identifier.startRanges n = false := by decide +kernel
  have hline : c ≠ '_' := by
    rintro rfl
    revert hmem
    decide
  simp only [isIdentStart, hranges _ hmem, Bool.or_false, beq_eq_false_iff_ne]
  exact hline

/-- White space and comments begin with a space or a slash. -/
theorem skipSpace_cons (hslash : c ≠ '/') (hspace : isSpace c = false) (n : Nat)
    (cs : List Char) : skipSpace n (c :: cs) = c :: cs := by
  cases n with
  | zero => rfl
  | succ n =>
    rw [skipSpace.eq_def]
    simp [hslash, hspace]

theorem skipSpace_of_isIdentStart (h : isIdentStart c = true) (n : Nat) (cs : List Char) :
    skipSpace n (c :: cs) = c :: cs := by
  refine skipSpace_cons ?_ ?_ n cs
  · rintro rfl
    exact absurd h (by decide)
  · refine Bool.eq_false_iff.2 fun hspace => ?_
    simp [isIdentStart_eq_false_of_isSpace hspace] at h

/-! ### Words -/

theorem spanIdent_eq_some (h : spanIdent cs = some (word, rest)) :
    (∃ c cs', cs = c :: cs' ∧ isIdentStart c = true) ∧
      word = cs.takeWhile isIdentMore ∧ rest = cs.dropWhile isIdentMore := by
  cases cs with
  | nil => simp [spanIdent] at h
  | cons c cs =>
    rw [spanIdent] at h
    split_ifs at h with hstart
    obtain ⟨rfl, rfl⟩ := Prod.mk.inj (Option.some.inj h)
    have hmore := isIdentMore_of_isIdentStart hstart
    exact ⟨⟨c, cs, rfl, hstart⟩, by rw [List.takeWhile_cons, if_pos hmore],
      by rw [List.dropWhile_cons, if_pos hmore]⟩

/-- A word holds no mark of a raw identifier. -/
theorem withoutRawMark_takeWhile (cs : List Char) :
    withoutRawMark (cs.takeWhile isIdentMore) = cs.takeWhile isIdentMore := by
  unfold withoutRawMark
  split
  · rename_i cs' hword
    have hmem : '#' ∈ cs.takeWhile isIdentMore := by rw [hword]; simp
    exact absurd (List.mem_takeWhile_imp hmem) (by decide)
  · rfl

theorem anyIdent?_eq_some (h : anyIdent? cs = some (word, rest)) :
    withoutRawMark word = (withoutRawMark cs).takeWhile isIdentMore := by
  unfold anyIdent? at h
  split at h
  · rename_i cs'
    obtain ⟨⟨name, rest'⟩, hspan, h⟩ := Option.bind_eq_some_iff.1 h
    obtain ⟨_, -, h⟩ := Option.bind_eq_some_iff.1 h
    obtain ⟨rfl, rfl⟩ := Prod.mk.inj (Option.some.inj h)
    exact (spanIdent_eq_some hspan).2.1
  · rename_i hraw
    have hcs : withoutRawMark cs = cs := by
      unfold withoutRawMark
      split
      · exact absurd rfl (hraw _)
      · rfl
    rw [(spanIdent_eq_some h).2.1, withoutRawMark_takeWhile, hcs]

/-! ### Lexemes -/

theorem word?_eq_ident {ident : String} (h : word? cs = some (.ident ident, rest)) :
    ∃ word, anyIdent? cs = some (word, rest) ∧ ident = String.ofList word := by
  unfold word? at h
  split_ifs at h
  · split at h
    · simp only [lifetime?, Option.bind_eq_bind, Option.bind_eq_some_iff] at h
      obtain ⟨_, _, _, _, _, _, h⟩ := h
      cases h
    · cases h
    · cases h
  · obtain ⟨⟨word, rest'⟩, hword, h⟩ := Option.map_eq_some_iff.1 h
    cases h
    exact ⟨word, hword, rfl⟩

/-- The lexemes of a text: there are none in white space and comments, and an identifier is read
from the text behind them. -/
theorem lexFrom?_cases {fuel : Nat} {ls : List Lexeme} (h : lexFrom? fuel [] cs = some ls) :
    (skipSpace cs.length cs = [] ∧ ls = []) ∨ ∃ first more, ls = first :: more ∧
      ∀ ident, first = .ident ident → ∃ word rest fuel',
        anyIdent? (skipSpace cs.length cs) = some (word, rest) ∧ ident = String.ofList word ∧
          lexFrom? fuel' [] rest = some more := by
  cases fuel with
  | zero => simp [lexFrom?] at h
  | succ fuel =>
    simp only [lexFrom?] at h
    generalize skipSpace cs.length cs = behind at h ⊢
    cases hdoc : skipDoc? behind with
    | some rest =>
      simp only [hdoc] at h
      obtain ⟨more, -, rfl⟩ := Option.map_eq_some_iff.1 h
      exact .inr ⟨_, more, rfl, nofun⟩
    | none =>
      simp only [hdoc] at h
      cases behind with
      | nil => exact .inl ⟨rfl, by simpa using h.symm⟩
      | cons c cs' =>
        dsimp only at h
        split at h
        · obtain ⟨more, -, rfl⟩ := Option.map_eq_some_iff.1 h
          exact .inr ⟨_, more, rfl, nofun⟩
        · cases h
        · split at h
          · obtain ⟨more, -, rfl⟩ := Option.map_eq_some_iff.1 h
            exact .inr ⟨_, more, rfl, nofun⟩
          · obtain ⟨⟨first, rest⟩, hword, h⟩ := Option.bind_eq_some_iff.1 h
            obtain ⟨more, hmore, h⟩ := Option.bind_eq_some_iff.1 h
            cases h
            refine .inr ⟨first, more, rfl, ?_⟩
            rintro ident rfl
            obtain ⟨word, hident, rfl⟩ := word?_eq_ident hword
            exact ⟨word, rest, fuel, hident, rfl, hmore⟩

theorem lexFrom?_eq_ident {fuel : Nat} {ident : String}
    (h : lexFrom? fuel [] cs = some [.ident ident]) :
    ∃ word rest, anyIdent? (skipSpace cs.length cs) = some (word, rest) ∧
      ident = String.ofList word ∧ skipSpace rest.length rest = [] := by
  obtain ⟨-, hnil⟩ | ⟨first, more, hcons, hfirst⟩ := lexFrom?_cases h
  · cases hnil
  · obtain ⟨rfl, rfl⟩ := List.cons.inj hcons
    obtain ⟨word, rest, fuel', hword, rfl, hmore⟩ := hfirst ident rfl
    obtain ⟨hrest, -⟩ | ⟨_, _, hmore, -⟩ := lexFrom?_cases hmore
    · exact ⟨word, rest, hword, rfl, hrest⟩
    · cases hmore

/-! ### Identifiers -/

variable {text ident : String}

theorem lex?_of_plainIdentifier? (h : plainIdentifier? text = some ident) :
    lex? text = some [.ident ident] := by
  unfold plainIdentifier? at h
  split at h
  · rename_i word hlex
    split_ifs at h
    rw [hlex, Option.some.inj h]
  · cases h

theorem identifierName_of_plainIdentifier? (h : plainIdentifier? text = some ident) :
    identifierName ident = String.ofList (firstWord text.toList) := by
  obtain ⟨word, rest, hword, rfl, -⟩ := lexFrom?_eq_ident (lex?_of_plainIdentifier? h)
  rw [identifierName, String.toList_ofList, anyIdent?_eq_some hword]
  rfl

/-- A text that is an identifier only behind the mark of a raw identifier begins with its word. -/
theorem identifierName_of_raw (h : plainIdentifier? ("r#" ++ text) = some ident) :
    identifierName ident = String.ofList (firstWord text.toList) := by
  have hmark : ("r#" ++ text).toList = 'r' :: '#' :: text.toList := String.toList_append
  have hlex := lex?_of_plainIdentifier? h
  rw [lex?_eq, hmark] at hlex
  obtain ⟨word, rest, hword, rfl, hrest⟩ := lexFrom?_eq_ident hlex
  have hr : isIdentStart 'r' = true := by decide
  have hskip := skipSpace_of_isIdentStart hr
  rw [show withoutOrderMark ('r' :: '#' :: text.toList) = 'r' :: '#' :: text.toList from rfl,
    hskip] at hword
  obtain ⟨⟨name, rest'⟩, hspan, hword⟩ := Option.bind_eq_some_iff.1 hword
  obtain ⟨_, -, hword⟩ := Option.bind_eq_some_iff.1 hword
  obtain ⟨rfl, rfl⟩ := Prod.mk.inj (Option.some.inj hword)
  obtain ⟨⟨c, cs, hcs, hstart⟩, rfl, rfl⟩ := spanIdent_eq_some hspan
  have horder : withoutOrderMark text.toList = text.toList := by
    unfold withoutOrderMark
    split
    · rename_i cs' hmark
      obtain ⟨rfl, -⟩ := List.cons.inj (hcs.symm.trans hmark)
      exact absurd hstart (by decide +kernel)
    · rfl
  -- a second mark would be left over as a lexeme of its own
  have hraw : withoutRawMark text.toList = text.toList := by
    unfold withoutRawMark
    split
    · rename_i cs' hmark
      have hmore : isIdentMore 'r' = true := isIdentMore_of_isIdentStart hr
      have hno : ¬ isIdentMore '#' = true := by decide
      rw [hmark, List.dropWhile_cons_of_pos hmore, List.dropWhile_cons_of_neg hno,
        skipSpace_cons (by decide) (by decide)] at hrest
      cases hrest
    · rfl
  rw [identifierName, firstWord, horder, hcs, skipSpace_of_isIdentStart hstart, ← hcs, hraw,
    String.toList_ofList]
  rfl

/-- The name of the identifier that a text gives is the first word of the text. -/
theorem identifierName_of_identifier? (h : identifier? text = some ident) :
    identifierName ident = String.ofList (firstWord text.toList) := by
  unfold identifier? at h
  split at h
  · rename_i word hplain
    exact identifierName_of_plainIdentifier? (hplain.trans h)
  · exact identifierName_of_raw h

end WireSchema.Module
