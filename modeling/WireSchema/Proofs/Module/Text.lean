import Mathlib.Tactic.Common
import WireSchema.Module.Emit

/-!
# Reading the text of an emitted Rust module

A module is printed on one line behind a banner. Its tokens are read back from the text: blanks and
brackets end a word unless they stand between double quotes. Tokens are readable if a word is not
empty and all its blanks and brackets stand between quotes. Every text that is printed from readable
tokens is read as these tokens.

## Main definitions

* `Module.scanText`: the tokens of a text.
* `Module.Token.IsReadable`: a token that can be read back.
* `Module.fileTokens`: the tokens of the text of a module.

## Main results

* `Module.scanText_render`: printed tokens are read back.
* `Module.fileTokens_banner`: the tokens of a module are read back from its text.
-/

namespace WireSchema.Module

/-- A character that separates tokens. -/
def isSeparator (c : Char) : Bool :=
  c == ' ' || c == '\n'

/-- The bracket that a character is. -/
def bracket? : Char → Option Token
  | '(' => some (.opener .paren)
  | ')' => some (.closer .paren)
  | '[' => some (.opener .bracket)
  | ']' => some (.closer .bracket)
  | '\x7b' => some (.opener .brace)
  | '\x7d' => some (.closer .brace)
  | _ => none

/-- The word that ends here, if there is one. -/
def endWord (word : List Char) : Tokens :=
  if word = [] then [] else [.word (String.ofList word)]

/-- The tokens of a text behind the beginning of a word, which may end between quotes. -/
def scanText : (word : List Char) → (quoted : Bool) → List Char → Tokens
  | word, _, [] => endWord word
  | word, true, c :: cs => scanText (word ++ [c]) (c != '"') cs
  | word, false, c :: cs =>
    if isSeparator c then endWord word ++ scanText [] false cs
    else
      match bracket? c with
      | some t => endWord word ++ t :: scanText [] false cs
      | none => scanText (word ++ [c]) (c == '"') cs

/-- Does a word that goes on like this end outside of quotes, with all blanks and brackets between
them? -/
def isWhole : (quoted : Bool) → List Char → Bool
  | quoted, [] => !quoted
  | true, c :: cs => isWhole (c != '"') cs
  | false, c :: cs => !isSeparator c && (bracket? c).isNone && isWhole (c == '"') cs

/-- Can the token be read back? -/
def Token.IsReadable : Token → Prop
  | .word s => s ≠ "" ∧ isWhole false s.toList = true
  | _ => True

instance : DecidablePred Token.IsReadable
  | .word s => inferInstanceAs (Decidable (s ≠ "" ∧ isWhole false s.toList = true))
  | .opener _ => inferInstanceAs (Decidable True)
  | .closer _ => inferInstanceAs (Decidable True)

/-- The characters of a whole word belong to it. -/
theorem scanText_append {quoted : Bool} {cs : List Char} (h : isWhole quoted cs = true)
    (word rest : List Char) :
    scanText word quoted (cs ++ rest) = scanText (word ++ cs) false rest := by
  induction cs generalizing quoted word with
  | nil =>
    cases quoted with
    | true => cases h
    | false => rw [List.nil_append, List.append_nil]
  | cons c cs ih =>
    have hword : word ++ c :: cs = word ++ [c] ++ cs := by simp
    cases quoted with
    | true =>
      rw [List.cons_append, scanText, ih h, hword]
    | false =>
      simp only [isWhole, Bool.and_eq_true, Bool.not_eq_true'] at h
      obtain ⟨⟨hsep, hbracket⟩, h⟩ := h
      rw [List.cons_append, scanText, if_neg (by simp [hsep]), Option.isNone_iff_eq_none.1 hbracket]
      simp only
      rw [ih h, hword]

theorem scanText_separator {c : Char} (h : isSeparator c = true) (word cs : List Char) :
    scanText word false (c :: cs) = endWord word ++ scanText [] false cs := by
  rw [scanText, if_pos h]

theorem scanText_bracket {c : Char} {t : Token} (hsep : isSeparator c = false)
    (h : bracket? c = some t) (word cs : List Char) :
    scanText word false (c :: cs) = endWord word ++ t :: scanText [] false cs := by
  rw [scanText, if_neg (by simp [hsep]), h]

/-- A bracket ends a word and is read. -/
theorem scanText_opener (d : Delimiter) (word cs : List Char) :
    scanText word false (d.opening.toList ++ cs) =
      endWord word ++ .opener d :: scanText [] false cs := by
  cases d <;> exact scanText_bracket rfl rfl word cs

theorem scanText_closer (d : Delimiter) (word cs : List Char) :
    scanText word false (d.closing.toList ++ cs) =
      endWord word ++ .closer d :: scanText [] false cs := by
  cases d <;> exact scanText_bracket rfl rfl word cs

/-- A readable token is read, where a separator or a bracket follows it. -/
theorem scanText_token {t : Token} (ht : t.IsReadable) {cs : List Char} {ts : Tokens}
    (hword : ∀ word, scanText word false cs = endWord word ++ ts) :
    scanText [] false (t.text.toList ++ cs) = t :: ts := by
  cases t with
  | word s =>
    have hs : s.toList ≠ [] := fun h => ht.1 (String.toList_injective (by rw [h]; rfl))
    rw [Token.text, scanText_append ht.2, List.nil_append, hword, endWord, if_neg hs,
      String.ofList_toList, List.singleton_append]
  | opener d =>
    rw [Token.text, scanText_opener, hword]
    rfl
  | closer d =>
    rw [Token.text, scanText_closer, hword]
    rfl

theorem render_cons_cons (t u : Token) (ts : Tokens) :
    render (t :: u :: ts) = t.text ++ (if t.touches u then "" else " ") ++ render (u :: ts) := rfl

/-- A text that begins with a closing bracket ends the word before it. -/
theorem scanText_render_closer (d : Delimiter) (ts : Tokens) (cs word : List Char) :
    scanText word false ((render (.closer d :: ts)).toList ++ cs) =
      endWord word ++ scanText [] false ((render (.closer d :: ts)).toList ++ cs) := by
  obtain ⟨rest, hrest⟩ : ∃ rest : String, render (.closer d :: ts) = d.closing ++ rest := by
    cases ts with
    | nil => exact ⟨"", String.append_empty.symm⟩
    | cons u ts => exact ⟨_, by rw [render_cons_cons, String.append_assoc]; rfl⟩
  rw [hrest, String.toList_append, List.append_assoc, scanText_closer, scanText_closer]
  rfl

/-- Printed tokens are read back. -/
theorem scanText_render {ts : Tokens} (h : ∀ t ∈ ts, t.IsReadable) :
    scanText [] false ((render ts).toList ++ ['\n']) = ts := by
  induction ts with
  | nil => rfl
  | cons t ts ih =>
    rw [List.forall_mem_cons] at h
    cases ts with
    | nil =>
      exact scanText_token h.1 fun word => (scanText_separator rfl word []).trans rfl
    | cons u ts =>
      rw [render_cons_cons, String.toList_append, String.toList_append, List.append_assoc,
        List.append_assoc]
      cases htouch : t.touches u with
      | false =>
        refine scanText_token h.1 fun word => ?_
        rw [if_neg (by simp)]
        exact (scanText_separator rfl word _).trans (congrArg _ (ih h.2))
      | true =>
        rw [if_pos rfl, String.toList_empty, List.nil_append]
        cases t with
        | opener d => rw [Token.text, scanText_opener, ih h.2]; rfl
        | word s =>
          cases u with
          | closer d =>
            refine scanText_token h.1 fun word => ?_
            rw [scanText_render_closer, ih h.2]
          | word s' => cases htouch
          | opener d => cases htouch
        | closer d => rw [Token.text, scanText_closer, ih h.2]; rfl

/-! ### Modules -/

/-- The tokens of the text of a module, which follow its first line. -/
def fileTokens (text : String) : Tokens :=
  scanText [] false (text.toList.dropWhile (· != '\n'))

/-- The tokens of a module are read back from its text. -/
theorem fileTokens_banner {ts : Tokens} (h : ∀ t ∈ ts, t.IsReadable) :
    fileTokens (banner ++ render ts ++ "\n") = ts := by
  have hbanner : ∀ cs : List Char,
      (banner.toList ++ cs).dropWhile (· != '\n') = '\n' :: cs := by
    intro cs
    have hline : banner.toList = banner.toList.dropLast ++ ['\n'] := by decide
    have hopen : banner.toList.dropLast.all (· != '\n') = true := by decide
    rw [hline, List.append_assoc, List.dropWhile_append_of_pos (List.all_eq_true.1 hopen)]
    rfl
  rw [fileTokens, String.append_assoc, String.toList_append, hbanner, scanText_separator rfl,
    String.toList_append]
  exact scanText_render h

end WireSchema.Module
