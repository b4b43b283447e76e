/-
Texts that are taken apart at a separator (`Tokens` in `Util.cpp`), and the
numbers that are stored in such texts.
-/

import Mathlib.Algebra.Group.Nat.Defs
import Mathlib.Data.List.TakeWhile

namespace DarkCore.Shared

def lastToken (word : List Char) : List (List Char) := if word = [] then [] else [word]

/-- The loop of `Tokens`, with the word between `posold` and `posnew`. An empty word is left out
only at the end, which a NUL is as well; the separator is no NUL. -/
def tokensFrom (sep : Char) (word : List Char) : List Char → List (List Char)
  | [] => lastToken word
  | letter :: rest =>
    if letter = sep then word :: tokensFrom sep [] rest
    else if letter = '\x00' then lastToken word
    else tokensFrom sep (word ++ [letter]) rest

def tokens (src : List Char) (sep : Char) : List (List Char) := tokensFrom sep [] src

/-- `atol` of a word without a sign, which are the only ones that are written. -/
def atol (word : List Char) : Nat :=
  min (Nat.ofDigitChars 10 (word.takeWhile Char.isDigit) 0) (2 ^ 63 - 1)

def numbersText (numbers : List Nat) : List Char :=
  numbers.flatMap fun number => Nat.toDigits 10 number ++ [' ']

variable {sep : Char}

theorem tokensFrom_append {letters : List Char} (clean : sep ∉ letters ∧ '\x00' ∉ letters)
    (word rest : List Char) :
    tokensFrom sep word (letters ++ rest) = tokensFrom sep (word ++ letters) rest := by
  induction letters generalizing word with
  | nil => rw [List.nil_append, List.append_nil]
  | cons letter letters ih =>
    obtain ⟨noSep, noNul⟩ := clean
    rw [List.mem_cons, not_or] at noSep noNul
    rw [List.cons_append, tokensFrom, if_neg (Ne.symm noSep.1), if_neg (Ne.symm noNul.1),
      ih ⟨noSep.2, noNul.2⟩, List.append_assoc]
    rfl

theorem tokens_words {words : List (List Char)}
    (clean : ∀ word ∈ words, sep ∉ word ∧ '\x00' ∉ word) :
    tokens (words.flatMap (· ++ [sep])) sep = words := by
  induction words with
  | nil => rfl
  | cons word rest ih =>
    unfold tokens at ih ⊢
    rw [List.flatMap_cons, List.append_assoc,
      tokensFrom_append (clean word List.mem_cons_self), List.singleton_append, tokensFrom,
      if_pos rfl, ih fun other member => clean other (List.mem_cons_of_mem _ member)]
    rfl

theorem tokensFrom_text {src : List Char} (noNul : '\x00' ∉ src) {word : List Char}
    (clean : sep ∉ word) :
    (∀ token ∈ tokensFrom sep word src, sep ∉ token) ∧
      ((tokensFrom sep word src).flatMap (· ++ [sep]) = word ++ src ∨
        (tokensFrom sep word src).flatMap (· ++ [sep]) = word ++ src ++ [sep]) := by
  induction src generalizing word with
  | nil =>
    unfold tokensFrom lastToken
    split
    next empty => simp [empty]
    next => simp [clean]
  | cons letter rest ih =>
    rw [List.mem_cons, not_or] at noNul
    unfold tokensFrom
    split
    next isSep =>
      obtain ⟨tokensClean, text⟩ := ih noNul.2 List.not_mem_nil
      constructor
      · exact List.forall_mem_cons.mpr ⟨clean, tokensClean⟩
      · refine text.imp ?_ ?_ <;> intro same <;> simp [same, isSep]
    next notSep =>
      rw [if_neg (Ne.symm noNul.1)]
      have longer : sep ∉ word ++ [letter] := by
        simp [clean, Ne.symm notSep]
      simpa using ih noNul.2 longer

/-- Words behind each of which there is a separator are read back; and the tokens of any text make
the text again, up to a last separator. -/
theorem tokens_inverse (sep : Char) :
    (∀ words : List (List Char), (∀ word ∈ words, sep ∉ word ∧ '\x00' ∉ word) →
      tokens (words.flatMap (· ++ [sep])) sep = words) ∧
    ∀ src : List Char, '\x00' ∉ src → (∀ token ∈ tokens src sep, sep ∉ token) ∧
      ((tokens src sep).flatMap (· ++ [sep]) = src ∨
        (tokens src sep).flatMap (· ++ [sep]) = src ++ [sep]) :=
  ⟨fun _ => tokens_words, fun _ noNul => tokensFrom_text noNul List.not_mem_nil⟩

theorem tokens_inverse_numbers : tokens ("7 30 ".toList) ' ' = ["7".toList, "30".toList] :=
  (tokens_inverse ' ').1 ["7".toList, "30".toList] (by decide)

theorem map_atol_tokens {numbers : List Nat} (small : ∀ number ∈ numbers, number < 2 ^ 63) :
    (tokens (numbersText numbers) ' ').map atol = numbers := by
  have digits (number : Nat) (letter : Char) (member : letter ∈ Nat.toDigits 10 number) :
      letter.isDigit = true := Nat.isDigit_of_mem_toDigits (by decide) (by decide) member
  have clean : ∀ word ∈ numbers.map (Nat.toDigits 10), ' ' ∉ word ∧ '\x00' ∉ word := by
    intro word member
    obtain ⟨number, _, rfl⟩ := List.mem_map.mp member
    constructor <;> intro blank <;> exact absurd (digits number _ blank) (by decide)
  have read := tokens_words clean
  rw [List.flatMap_map] at read
  unfold numbersText
  rw [read, List.map_map]
  refine (List.map_congr_left fun number member => ?_).trans (List.map_id _)
  have whole : (Nat.toDigits 10 number).takeWhile Char.isDigit = Nat.toDigits 10 number :=
    List.takeWhile_eq_self_iff.mpr (digits number)
  have below := small number member
  change min (Nat.ofDigitChars 10 ((Nat.toDigits 10 number).takeWhile Char.isDigit) 0) _ = number
  rw [whole, Nat.ofDigitChars_ten_toDigits]
  omega

end DarkCore.Shared
