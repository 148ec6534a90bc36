/-
# Strings read back

A string is written character by character, and its reader takes one written character at a time.

| character | written | read |
| --- | --- | --- |
| the quote, the backslash, five control characters | a backslash and a letter | the short form |
| any other below U+0020 | `u` and four hexadecimal digits | their value, which is no surrogate |
| any other | itself | as it stands |
-/

import Mathlib.Tactic.SplitIfs
import StatusRelay.Json.Reader

namespace StatusRelay
namespace Json

theorem hexValue?_hexDigit : ∀ n < 16, hexValue? (hexDigit n) = some n := by decide

/-- Two hexadecimal digits after two zeros. -/
theorem hexFour?_hexDigit {n : Nat} (h : n < 256) :
    hexFour? '0' '0' (hexDigit (n / 16)) (hexDigit (n % 16)) = some n := by
  have hhigh := hexValue?_hexDigit (n / 16) (by omega)
  have hlow := hexValue?_hexDigit (n % 16) (by omega)
  have hzero : hexValue? '0' = some 0 := rfl
  unfold hexFour?
  rw [hzero, hhigh, hlow]
  exact congrArg some (by omega)

/-- **A character reads back from its written form,** whatever follows. -/
theorem stringBody_escape (acc : List Char) (c : Char) (rest : List Char) :
    stringBody acc (escape c ++ rest) = stringBody (c :: acc) rest := by
  have hofNat : Char.ofNat c.toNat = c := Char.ofNat_toNat c
  unfold escape
  split_ifs with hquote hbackslash hnewline hreturn htab hback hfeed hlow
  · subst hquote
    rfl
  · subst hbackslash
    rfl
  · subst hnewline
    rfl
  · subst hreturn
    rfl
  · subst htab
    rfl
  · obtain rfl : Char.ofNat 8 = c := hback ▸ hofNat
    rfl
  · obtain rfl : Char.ofNat 12 = c := hfeed ▸ hofNat
    rfl
  · simp only [List.cons_append, List.nil_append]
    rw [stringBody]
    simp only [hexFour?_hexDigit (show c.toNat < 256 by omega)]
    rw [if_neg (by omega), if_neg (by omega), hofNat]
  · rw [List.cons_append, List.nil_append, stringBody, if_neg hquote, if_neg hlow]
    all_goals simp [hbackslash]

/-- **A string reads back from its written form,** up to its closing quote. -/
theorem stringBody_flatMap_escape (s acc rest : List Char) :
    stringBody acc (s.flatMap escape ++ '"' :: rest) = .ok (acc.reverse ++ s, rest) := by
  induction s generalizing acc with
  | nil => simp [stringBody]
  | cons c s ih =>
    rw [List.flatMap_cons, List.append_assoc, stringBody_escape, ih, List.reverse_cons,
      List.append_assoc]
    rfl

end Json
end StatusRelay
