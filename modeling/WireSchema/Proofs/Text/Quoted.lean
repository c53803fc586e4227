import Mathlib.Data.List.TakeWhile
import WireSchema.Proofs.Text.Characters
import WireSchema.Text.Quoted

/-!
# Reading quoted texts back

What is written for a character inside a quoted text says by itself where it ends: a backslash
takes one more character, or a code point between braces. So the characters can be read back one
by one, and the closing quote is met exactly where the text ends, since no character is written
with a quote in front. All that is written prints as itself, so no character of the text breaks the
line.

## Main definitions

* `Quoted.hexValue`: the number that hexadecimal digits stand for.
* `Quoted.unescape`: the reader for one character.

## Main results

* `Quoted.unescape_escape`: a character is read back, with what follows it.
* `quote_append_inj`: a quoted text and what follows it can be told apart.
* `all_isPrintable_quote`: a quoted text is made of characters that print as themselves.
-/

namespace WireSchema.Text

namespace Quoted

/-! ### Hexadecimal numbers -/

/-- The value of a hexadecimal digit in lower case. -/
def digitValue (c : Char) : Nat :=
  if c.isDigit then c.toNat - '0'.toNat else c.toNat - 'a'.toNat + 10

/-- The number that hexadecimal digits stand for, the most significant one first. -/
def hexValue (cs : List Char) : Nat :=
  cs.foldl (fun v c => 16 * v + digitValue c) 0

theorem digitValue_digitChar : ∀ d < 16, digitValue d.digitChar = d := by decide

/-- Hexadecimal digits stand for the number that they were made from. -/
theorem hexValue_toDigits (n : Nat) : hexValue (Nat.toDigits 16 n) = n := by
  induction n using Nat.strongRecOn with
  | ind n ih =>
    rw [Nat.toDigits_eq_if (by decide)]
    split_ifs with hn
    · simp [hexValue, digitValue_digitChar n hn]
    · rw [hexValue, List.foldl_append, ← hexValue, ih (n / 16) (by omega)]
      simp only [List.foldl_cons, List.foldl_nil, digitValue_digitChar _ (n.mod_lt (by decide))]
      omega

/-- A hexadecimal number holds no brace. -/
theorem ne_brace_of_mem_toDigits {n : Nat} {c : Char} (h : c ∈ Nat.toDigits 16 n) :
    (c != '\x7d') = true := by
  have hdigits : ∀ d < 16, (d.digitChar != '\x7d') = true := by decide
  obtain ⟨d, hd, rfl⟩ := exists_digit_of_mem_toDigits (by decide) h
  exact hdigits d hd

/-! ### Characters -/

/-- Read what stands after a backslash: the character that was written, and what follows it. -/
def unescapeCode : List Char → Option (Char × List Char)
  | '0' :: cs => some ('\x00', cs)
  | 't' :: cs => some ('\t', cs)
  | 'r' :: cs => some ('\r', cs)
  | 'n' :: cs => some ('\n', cs)
  | 'u' :: '\x7b' :: cs =>
    some (Char.ofNat (hexValue (cs.takeWhile (· != '\x7d'))), (cs.dropWhile (· != '\x7d')).tail)
  | c :: cs => some (c, cs)
  | [] => none

/-- Read one character of a quoted text: the character, and what follows it. -/
def unescape : List Char → Option (Char × List Char)
  | c :: cs => if c = '\\' then unescapeCode cs else some (c, cs)
  | [] => none

/-- A character is read back, with what follows it. -/
theorem unescape_escape (c : Char) (rest : List Char) :
    unescape (escape c ++ rest) = some (c, rest) := by
  unfold escape
  split_ifs with hzero htab hreturn hline hmark hprint
  · rw [eq_of_beq hzero]
    rfl
  · rw [eq_of_beq htab]
    rfl
  · rw [eq_of_beq hreturn]
    rfl
  · rw [eq_of_beq hline]
    rfl
  · obtain rfl | rfl : c = '\\' ∨ c = '"' := by simpa using hmark
    · rfl
    · rfl
  · have hc : c ≠ '\\' := fun h => hmark (by simp [h])
    exact if_neg hc
  · have hdigits : ∀ d ∈ Nat.toDigits 16 c.toNat, (d != '\x7d') = true :=
      fun _ => ne_brace_of_mem_toDigits
    simp [unescape, unescapeCode, List.takeWhile_append_of_pos hdigits,
      List.dropWhile_append_of_pos hdigits, hexValue_toDigits]

theorem escape_append_inj {c c' : Char} {rest rest' : List Char}
    (h : escape c ++ rest = escape c' ++ rest') : c = c' ∧ rest = rest' := by
  have hread := congrArg unescape h
  rw [unescape_escape, unescape_escape] at hread
  exact Prod.mk.inj (Option.some.inj hread)

/-- No character is written with a quote in front. -/
theorem escape_append_ne (c : Char) (rest rest' : List Char) :
    escape c ++ rest ≠ '"' :: rest' := by
  intro h
  unfold escape at h
  split_ifs at h with hzero htab hreturn hline hmark hprint
  -- Only a character that prints as itself comes first, and a quote does not.
  iterate 5 exact absurd (List.cons.inj h).1 (by decide)
  · exact hmark (by simp [(List.cons.inj h).1])
  · exact absurd (List.cons.inj h).1 (by decide)

theorem flatMap_escape_append_inj {cs cs' rest rest' : List Char}
    (h : cs.flatMap escape ++ '"' :: rest = cs'.flatMap escape ++ '"' :: rest') :
    cs = cs' ∧ rest = rest' := by
  induction cs generalizing cs' with
  | nil =>
    cases cs' with
    | nil => exact ⟨rfl, (List.cons.inj h).2⟩
    | cons c' cs' =>
      rw [List.flatMap_cons, List.append_assoc] at h
      exact absurd h.symm (escape_append_ne c' _ _)
  | cons c cs ih =>
    rw [List.flatMap_cons, List.append_assoc] at h
    cases cs' with
    | nil => exact absurd h (escape_append_ne c _ _)
    | cons c' cs' =>
      rw [List.flatMap_cons, List.append_assoc] at h
      obtain ⟨rfl, htail⟩ := escape_append_inj h
      obtain ⟨rfl, hrest⟩ := ih htail
      exact ⟨rfl, hrest⟩

/-! ### Printing -/

/-- The digits of a number print as themselves. -/
theorem isPrintable_of_mem_toDigits {b n : Nat} {c : Char} (hb : 1 < b) (hle : b ≤ 16)
    (h : c ∈ Nat.toDigits b n) : isPrintable c = true := by
  have hdigits : (List.range 16).all (fun d => isPrintable d.digitChar) = true := by
    decide
  obtain ⟨d, hd, rfl⟩ := exists_digit_of_mem_toDigits hb h
  exact List.all_eq_true.1 hdigits d (List.mem_range.2 (by omega))

/-- Whatever a character is, what is written for it prints as itself. -/
theorem all_isPrintable_escape (c : Char) : (escape c).all isPrintable = true := by
  unfold escape
  split_ifs with hzero htab hreturn hline hmark hprint
  iterate 4 decide
  · obtain rfl | rfl : c = '\\' ∨ c = '"' := by simpa using hmark
    · decide
    · decide
  · simpa using hprint
  · have hopening : ['\\', 'u', '\x7b'].all isPrintable = true := by decide
    have hclosing : ['\x7d'].all isPrintable = true := by decide
    have hdigits : (Nat.toDigits 16 c.toNat).all isPrintable = true :=
      List.all_eq_true.2 fun _ hd => isPrintable_of_mem_toDigits (by decide) le_rfl hd
    rw [List.all_append, List.all_append, hopening, hdigits, hclosing]
    rfl

end Quoted

/-- Every character of a quoted text prints as itself. -/
theorem all_isPrintable_quote (cs : List Char) : (quote cs).all Quoted.isPrintable = true := by
  have hmark : Quoted.isPrintable '"' = true := by decide
  simp [quote, hmark, List.all_flatMap, Quoted.all_isPrintable_escape]

/-- A quoted text and what follows it can be told apart. -/
theorem quote_append_inj {cs cs' rest rest' : List Char}
    (h : quote cs ++ rest = quote cs' ++ rest') : cs = cs' ∧ rest = rest' := by
  refine Quoted.flatMap_escape_append_inj ?_
  simpa [quote] using h

end WireSchema.Text
