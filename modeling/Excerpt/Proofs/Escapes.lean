import Excerpt.Java.StringValue
import Mathlib.Data.List.Basic

/-!
# Escapes and UTF-16

A literal is a sequence of tokens: plain characters, escapes of one letter, octal escapes of three
digits, and `u` escapes. Each token denotes UTF-16 units. A plain character may take two of them,
and a `u` escape denotes any one, also half of a surrogate pair.

Reading the tokens back is decoding their units: a high surrogate and the low one directly after
it are a character, whether or not one token denotes them, and every other surrogate becomes the
replacement character (`unescape_flatMap_text`).

The text of a literal is read in two passes, and the proof has a lemma for each. Reading cuts the
text into the parts of its tokens (`literalParts_flatMap_text`); this goes token by token, since
how a token is read does not depend on what follows it, provided that octal escapes have all their
digits. Then parts are joined as their units are decoded (`joinParts_eq_decodeUtf16`); here it
matters that a character which was written as such never completes a pair that an escape has
begun.

## Main results

* `decodeUtf16_utf16_append`: decoding undoes encoding, character by character.
* `joinParts_eq_decodeUtf16`: how parts are joined.
* `literalParts_flatMap_text`: how a literal is cut into parts.
* `unescape_flatMap_text`: what a literal stands for.
-/

namespace Excerpt.Java

/-! ### UTF-16 -/

/-- The first half of a surrogate pair. -/
def IsHigh (u : UInt16) : Prop := 0xD800 ≤ u.toNat ∧ u.toNat < 0xDC00

/-- The second half of a surrogate pair. -/
def IsLow (u : UInt16) : Prop := 0xDC00 ≤ u.toNat ∧ u.toNat < 0xE000

instance (u : UInt16) : Decidable (IsHigh u) := inferInstanceAs (Decidable (_ ∧ _))

instance (u : UInt16) : Decidable (IsLow u) := inferInstanceAs (Decidable (_ ∧ _))

/-- The units of a character: one, or a surrogate pair. -/
def utf16 (c : Char) : List UInt16 :=
  if c.toNat < 0x10000 then [.ofNat c.toNat]
  else [.ofNat (0xD800 + (c.toNat - 0x10000) / 0x400), .ofNat (0xDC00 + c.toNat % 0x400)]

/-- The character of a surrogate pair, each half of which has ten bits of it. -/
def pairChar (high low : UInt16) : Char :=
  .ofNat (0x10000 + high.toNat % 0x400 * 0x400 + low.toNat % 0x400)

/-- The character of a single unit, which is the replacement character for a surrogate. -/
def unitChar (u : UInt16) : Char :=
  if IsHigh u ∨ IsLow u then '\uFFFD' else .ofNat u.toNat

/-- The characters of units, where a surrogate without its other half becomes the replacement
character. -/
def decodeUtf16 : List UInt16 → List Char
  | [] => []
  | [u] => [unitChar u]
  | u :: v :: us =>
    if IsHigh u ∧ IsLow v then pairChar u v :: decodeUtf16 us
      else unitChar u :: decodeUtf16 (v :: us)

private theorem toNat_unit {n : Nat} (hn : n < 0x10000) : (UInt16.ofNat n).toNat = n :=
  UInt16.toNat_ofNat_of_lt' hn

/-- No character is half of a surrogate pair. -/
private theorem toNat_valid (c : Char) : c.toNat < 0xD800 ∨ 0xDFFF < c.toNat ∧ c.toNat < 0x110000 :=
  c.valid

/-- A unit stands for itself unless the next one completes a pair. -/
theorem decodeUtf16_cons {u : UInt16} {us : List UInt16}
    (h : IsHigh u → ∀ v ∈ us.head?, ¬ IsLow v) :
    decodeUtf16 (u :: us) = unitChar u :: decodeUtf16 us := by
  cases us with
  | nil => rfl
  | cons v us =>
    have hpair : ¬ (IsHigh u ∧ IsLow v) := fun ⟨hu, hv⟩ => h hu v rfl hv
    rw [decodeUtf16, if_neg hpair]

/-- The halves of a pair have what is needed to put the character together. -/
theorem pair_of_large {c : Char} (hlarge : 0x10000 ≤ c.toNat) :
    ∃ high low, utf16 c = [high, low] ∧ IsHigh high ∧ IsLow low ∧ pairChar high low = c := by
  have hvalid := toNat_valid c
  have hhigh : (UInt16.ofNat (0xD800 + (c.toNat - 0x10000) / 0x400)).toNat =
      0xD800 + (c.toNat - 0x10000) / 0x400 :=
    toNat_unit (by omega)
  have hlow : (UInt16.ofNat (0xDC00 + c.toNat % 0x400)).toNat = 0xDC00 + c.toNat % 0x400 :=
    toNat_unit (by omega)
  -- ten bits in each half make up the twenty of the code
  have hcode : 0x10000 + (0xD800 + (c.toNat - 0x10000) / 0x400) % 0x400 * 0x400 +
      (0xDC00 + c.toNat % 0x400) % 0x400 =
      c.toNat := by
    omega
  refine ⟨_, _, if_neg (by omega), ?_, ?_, ?_⟩
  · rw [IsHigh, hhigh]
    omega
  · rw [IsLow, hlow]
    omega
  · rw [pairChar, hhigh, hlow, hcode, Char.ofNat_toNat]

/-- A character below `0x10000` is one unit, which is no half of a pair and stands for the
character. -/
private theorem unit_of_small {c : Char} (hsmall : c.toNat < 0x10000) :
    ∃ u, utf16 c = [u] ∧ ¬ (IsHigh u ∨ IsLow u) ∧ unitChar u = c := by
  have hvalid := toNat_valid c
  have hscalar : ¬ (IsHigh (.ofNat c.toNat) ∨ IsLow (.ofNat c.toNat)) := by
    rw [IsHigh, IsLow, toNat_unit hsmall]
    omega
  refine ⟨_, if_pos hsmall, hscalar, ?_⟩
  rw [unitChar, if_neg hscalar, toNat_unit hsmall, Char.ofNat_toNat]

/-- Decoding gives back the character that was encoded. -/
theorem decodeUtf16_utf16_append (c : Char) (us : List UInt16) :
    decodeUtf16 (utf16 c ++ us) = c :: decodeUtf16 us := by
  rcases Nat.lt_or_ge c.toNat 0x10000 with hsmall | hlarge
  · obtain ⟨u, hu, hscalar, hchar⟩ := unit_of_small hsmall
    rw [hu, List.singleton_append,
      decodeUtf16_cons fun hhigh => absurd (Or.inl hhigh) hscalar, hchar]
  · obtain ⟨high, low, hpair, hhigh, hlow, hchar⟩ := pair_of_large hlarge
    rw [hpair, List.cons_append, List.singleton_append, decodeUtf16, if_pos ⟨hhigh, hlow⟩, hchar]

/-- A character does not begin with the second half of a pair. -/
theorem not_isLow_of_mem_head?_utf16 {c : Char} {us : List UInt16} {v : UInt16}
    (hv : v ∈ (utf16 c ++ us).head?) :
    ¬ IsLow v := by
  rcases Nat.lt_or_ge c.toNat 0x10000 with hsmall | hlarge
  · obtain ⟨u, hu, hscalar, -⟩ := unit_of_small hsmall
    rw [hu] at hv
    obtain rfl : u = v := Option.some.inj hv
    exact fun hlow => hscalar (.inr hlow)
  · obtain ⟨high, low, hpair, hhigh, -⟩ := pair_of_large hlarge
    rw [hpair] at hv
    obtain rfl : high = v := Option.some.inj hv
    rw [IsHigh] at hhigh
    rw [IsLow]
    omega

/-! ### Parts -/

namespace LiteralPart

/-- The units of a part. -/
def units : LiteralPart → List UInt16
  | text cs => cs.flatMap utf16
  | code n => [.ofNat n]

/-- The part is a unit, or at least one character. -/
def IsWhole : LiteralPart → Prop
  | text cs => cs ≠ []
  | code n => n < 0x10000

end LiteralPart

/-- Decoding gives back characters up to where other units begin. It does not look back, for no
character ends in the first half of a pair. -/
private theorem decodeUtf16_flatMap_utf16_append (cs : List Char) (us : List UInt16) :
    decodeUtf16 (cs.flatMap utf16 ++ us) = cs ++ decodeUtf16 us := by
  induction cs with
  | nil => rfl
  | cons c cs ih =>
    rw [List.flatMap_cons, List.append_assoc, decodeUtf16_utf16_append, ih, List.cons_append]

section Codes

variable {n high low : Nat}

private theorem isHighSurrogate_iff (hn : n < 0x10000) : isHighSurrogate n ↔ IsHigh (.ofNat n) := by
  rw [IsHigh, toNat_unit hn]
  simp only [isHighSurrogate, Bool.and_eq_true, decide_eq_true_eq]
  omega

private theorem isLowSurrogate_iff (hn : n < 0x10000) : isLowSurrogate n ↔ IsLow (.ofNat n) := by
  rw [IsLow, toNat_unit hn]
  simp only [isLowSurrogate, Bool.and_eq_true, decide_eq_true_eq]
  omega

/-- The codes below `0x10000` that are no characters are the halves of surrogate pairs. -/
private theorem isValidChar_iff (hn : n < 0x10000) :
    n.isValidChar ↔ ¬ (IsHigh (.ofNat n) ∨ IsLow (.ofNat n)) := by
  rw [IsHigh, IsLow, toNat_unit hn, Nat.isValidChar]
  omega

/-- A code that stands alone is read as the unit that it denotes: itself, or the replacement
character if it is half of a pair. -/
private theorem charOfCode_eq_unitChar (hn : n < 0x10000) : charOfCode n = unitChar (.ofNat n) := by
  rw [charOfCode, unitChar, toNat_unit hn]
  by_cases hsurrogate : IsHigh (.ofNat n) ∨ IsLow (.ofNat n)
  · have hvalid : ¬ n.isValidChar := fun h => (isValidChar_iff hn).mp h hsurrogate
    rw [if_neg hvalid, if_pos hsurrogate, replacementChar]
  · rw [if_pos ((isValidChar_iff hn).mpr hsurrogate), if_neg hsurrogate]

/-- Two codes that make a pair are read as the pair of units that they denote. -/
private theorem charOfCode_eq_pairChar (hhigh : isHighSurrogate high) (hlow : isLowSurrogate low) :
    charOfCode (0x10000 + (high - 0xD800) * 0x400 + (low - 0xDC00)) =
      pairChar (.ofNat high) (.ofNat low) := by
  simp only [isHighSurrogate, isLowSurrogate, Bool.and_eq_true, decide_eq_true_eq] at hhigh hlow
  have hvalid : (0x10000 + (high - 0xD800) * 0x400 + (low - 0xDC00)).isValidChar := by
    rw [Nat.isValidChar]
    omega
  have hcode : 0x10000 + (high - 0xD800) * 0x400 + (low - 0xDC00) = 0x10000 + high % 0x400 * 0x400 +
      low % 0x400 := by
    omega
  rw [charOfCode, if_pos hvalid, pairChar, toNat_unit (by omega), toNat_unit (by omega), hcode]

end Codes

/-- Parts are joined as their units are decoded: only a code can complete a pair that a code has
begun. -/
theorem joinParts_eq_decodeUtf16 (parts : List LiteralPart) (h : ∀ p ∈ parts, p.IsWhole) :
    joinParts parts = decodeUtf16 (parts.flatMap LiteralPart.units) := by
  fun_induction joinParts parts with
  | case1 => rfl
  | case2 cs parts ih =>
    rw [List.flatMap_cons, LiteralPart.units, decodeUtf16_flatMap_utf16_append,
      ih fun p hp => h p (.tail _ hp)]
  | case3 high low parts hpair ih =>
    rw [Bool.and_eq_true] at hpair
    have hhigh : high < 0x10000 := h _ (.head _)
    have hlow : low < 0x10000 := h _ (.tail _ (.head _))
    have hunits : IsHigh (.ofNat high) ∧ IsLow (.ofNat low) :=
      ⟨(isHighSurrogate_iff hhigh).mp hpair.1, (isLowSurrogate_iff hlow).mp hpair.2⟩
    rw [charOfCode_eq_pairChar hpair.1 hpair.2, ih fun p hp => h p (.tail _ (.tail _ hp))]
    exact (if_pos hunits).symm
  | case4 high low parts hpair ih =>
    rw [Bool.and_eq_true] at hpair
    have hhigh : high < 0x10000 := h _ (.head _)
    have hlow : low < 0x10000 := h _ (.tail _ (.head _))
    have hunits : ¬ (IsHigh (.ofNat high) ∧ IsLow (.ofNat low)) := fun ⟨hu, hv⟩ =>
      hpair ⟨(isHighSurrogate_iff hhigh).mpr hu, (isLowSurrogate_iff hlow).mpr hv⟩
    rw [charOfCode_eq_unitChar hhigh, ih fun p hp => h p (.tail _ hp)]
    exact (if_neg hunits).symm
  | case5 n parts hparts ih =>
    have hn : n < 0x10000 := h _ (.head _)
    -- The next part, if any, is a text, and its first character is no second half.
    have hnext : ∀ v ∈ (parts.flatMap LiteralPart.units).head?, ¬ IsLow v := by
      cases parts with
      | nil => intro v hv; cases hv
      | cons p parts =>
        cases p with
        | code m => exact absurd rfl (hparts m parts)
        | text cs =>
          cases cs with
          | nil => exact absurd rfl (h (.text []) (.tail _ (.head _)))
          | cons c cs =>
            intro v hv
            rw [List.flatMap_cons, LiteralPart.units, List.flatMap_cons, List.append_assoc] at hv
            exact not_isLow_of_mem_head?_utf16 hv
    rw [List.flatMap_cons, LiteralPart.units, List.singleton_append,
      decodeUtf16_cons fun _ => hnext, charOfCode_eq_unitChar hn, ih fun p hp => h p (.tail _ hp)]

/-! ### Tokens -/

/-- The escapes of one letter. -/
inductive LetterEscape
  | newline
  | tab
  | carriageReturn
  | backspace
  | formFeed
  | space
  | quote
  | apostrophe
  | backslash
  deriving DecidableEq, Repr

namespace LetterEscape

/-- The letter after the backslash. -/
def letter : LetterEscape → Char
  | newline => 'n'
  | tab => 't'
  | carriageReturn => 'r'
  | backspace => 'b'
  | formFeed => 'f'
  | space => 's'
  | quote => '"'
  | apostrophe => '\''
  | backslash => '\\'

/-- The unit that the escape denotes. -/
def unit : LetterEscape → UInt16
  | newline => 0x0A
  | tab => 0x09
  | carriageReturn => 0x0D
  | backspace => 0x08
  | formFeed => 0x0C
  | space => 0x20
  | quote => 0x22
  | apostrophe => 0x27
  | backslash => 0x5C

end LetterEscape

/-- A hexadecimal digit: its value, and whether it is a capital letter if it is a letter. -/
structure HexDigit where
  value : Fin 16
  capital : Bool
  deriving DecidableEq, Repr

/-- How the digit is written. -/
def HexDigit.char (d : HexDigit) : Char :=
  if d.value < 10 then .ofNat (0x30 + d.value)
  else if d.capital then .ofNat (0x41 + (d.value - 10))
  else .ofNat (0x61 + (d.value - 10))

/-- How an octal digit is written. -/
def octalChar (d : Nat) : Char :=
  .ofNat (0x30 + d)

/-- What a literal is made of. A `u` escape has one `u` and perhaps more. -/
inductive LiteralToken
  | plain (c : Char) (h : c ≠ '\\')
  | letter (e : LetterEscape)
  | octal (a : Fin 4) (b c : Fin 8)
  | unicode (more : Nat) (a b c d : HexDigit)

namespace LiteralToken

/-- How a token is written. -/
def text : LiteralToken → List Char
  | plain c _ => [c]
  | letter e => ['\\', e.letter]
  | octal a b c => ['\\', octalChar a, octalChar b, octalChar c]
  | unicode more a b c d =>
    '\\' :: 'u' :: List.replicate more 'u' ++ [a.char, b.char, c.char, d.char]

/-- The units that a token denotes. -/
def units : LiteralToken → List UInt16
  | plain c _ => utf16 c
  | letter e => [e.unit]
  | octal a b c => [.ofNat (a * 64 + b * 8 + c)]
  | unicode _ a b c d => [.ofNat (a.value * 4096 + b.value * 256 + c.value * 16 + d.value)]

/-- The part that a token is read as. -/
def part : LiteralToken → LiteralPart
  | plain c _ => .text [c]
  | letter e => .text [.ofNat e.unit.toNat]
  | octal a b c => .text [.ofNat (a * 64 + b * 8 + c)]
  | unicode _ a b c d => .code (a.value * 4096 + b.value * 256 + c.value * 16 + d.value)

private theorem isWhole_part (t : LiteralToken) : t.part.IsWhole := by
  cases t with
  | plain | letter | octal => exact List.cons_ne_nil _ _
  | unicode more a b c d =>
    have ha := a.value.isLt
    have hb := b.value.isLt
    have hc := c.value.isLt
    have hd := d.value.isLt
    show _ < 0x10000
    omega

/-- A token denotes the units of the part that it is read as. -/
private theorem units_part (t : LiteralToken) : t.part.units = t.units := by
  cases t with
  | plain c _ => exact List.flatMap_singleton ..
  | letter e => cases e <;> rfl
  | octal a b c => revert a b c; decide
  | unicode => rfl

/-! ### Reading tokens -/

private theorem isHexDigit_char (d : HexDigit) : isHexDigit d.char = true := by
  obtain ⟨v, b⟩ := d
  revert v b
  decide

private theorem hexValue_char (d : HexDigit) : hexValue d.char = d.value := by
  obtain ⟨v, b⟩ := d
  revert v b
  decide

/-- No hexadecimal digit is a `u`, so the letters `u` of an escape end where its digits begin. -/
private theorem char_ne_u (d : HexDigit) : d.char ≠ 'u' := by
  obtain ⟨v, b⟩ := d
  revert v b
  decide

private theorem isOctalDigit_octalChar (d : Fin 8) : isOctalDigit (octalChar d) = true := by
  revert d
  decide

private theorem octalChar_le (d : Fin 4) : octalChar d ≤ '3' ∧ octalChar d ≠ 'u' := by
  revert d
  decide

/-- An octal escape goes on for three digits if the first one allows for it. -/
theorem literalParts_octal (a : Fin 4) (b c : Fin 8) (cs : List Char) :
    literalParts ('\\' :: octalChar a :: octalChar b :: octalChar c :: cs) =
      .text [charOfCode (digitsValue 8 [octalChar a, octalChar b, octalChar c])] ::
        literalParts cs := by
  obtain ⟨hle, hne⟩ := octalChar_le a
  have hfirst : isOctalDigit (octalChar a) = true := isOctalDigit_octalChar (a.castLE (by decide))
  have hmore : [octalChar b, octalChar c].takeWhile isOctalDigit = [octalChar b, octalChar c] := by
    simp [isOctalDigit_octalChar]
  rw [literalParts, if_pos hfirst, if_pos hle]
  · simp only [List.take_succ_cons, List.take_zero, hmore, List.length_cons, List.length_nil,
      List.drop_succ_cons, List.drop_zero]
  · exact hne

/-- All letters `u` belong to the escape, since no digit is one. -/
theorem literalParts_unicode (more : Nat) (a b c d : HexDigit) (cs : List Char) :
    literalParts ('\\' :: 'u' ::
      (List.replicate more 'u' ++ a.char :: b.char :: c.char :: d.char :: cs)) =
      .code (digitsValue 16 [a.char, b.char, c.char, d.char]) :: literalParts cs := by
  have hrest : (List.replicate more 'u' ++ a.char :: b.char :: c.char :: d.char :: cs).dropWhile
      (· == 'u') =
      a.char :: b.char :: c.char :: d.char :: cs := by
    rw [List.dropWhile_append_of_pos (by simp), List.dropWhile_cons_of_neg (by simp [char_ne_u])]
  have hdigits : [a.char, b.char, c.char, d.char].all isHexDigit = true := by
    simp [isHexDigit_char]
  rw [literalParts]
  simp only [hrest, List.take_succ_cons, List.take_zero, List.length_cons, List.length_nil, hdigits,
    List.drop_succ_cons, List.drop_zero]
  rfl

/-- One token at the front of a literal is read as its part, whatever comes after it. -/
theorem literalParts_text_append (t : LiteralToken) (cs : List Char) :
    literalParts (t.text ++ cs) = t.part :: literalParts cs := by
  cases t with
  | plain c h => simp [text, part, literalParts, h]
  | letter e =>
    cases e <;> simp [text, part, literalParts, LetterEscape.letter, LetterEscape.unit,
      simpleEscape, isOctalDigit]
  | octal a b c =>
    -- three digits of which the first is below four: there are few enough to go through
    have hchar : charOfCode (digitsValue 8 [octalChar a, octalChar b, octalChar c]) =
        .ofNat (a * 64 + b * 8 + c) := by
      revert a b c
      decide
    exact (literalParts_octal a b c cs).trans (by rw [hchar, part])
  | unicode more a b c d =>
    have hcode : digitsValue 16 [a.char, b.char, c.char, d.char] =
        a.value * 4096 + b.value * 256 + c.value * 16 + d.value := by
      simp only [digitsValue, List.foldl_cons, List.foldl_nil, hexValue_char]
      omega
    rw [text, List.append_assoc, List.cons_append]
    exact (literalParts_unicode more a b c d cs).trans (by rw [hcode, part])

/-- The text of tokens is read token by token. -/
theorem literalParts_flatMap_text (ts : List LiteralToken) :
    literalParts (ts.flatMap text) = ts.map part := by
  induction ts with
  | nil => simp [literalParts]
  | cons t ts ih => rw [List.flatMap_cons, literalParts_text_append, ih, List.map_cons]

/-- **Literals stand for the units of their tokens.** Reading what tokens are written as gives the
characters of the units that they denote. -/
theorem unescape_flatMap_text (ts : List LiteralToken) :
    unescape (ts.flatMap text) = decodeUtf16 (ts.flatMap units) := by
  have hwhole : ∀ p ∈ ts.map part, p.IsWhole := by
    intro p hp
    obtain ⟨t, -, rfl⟩ := List.mem_map.mp hp
    exact t.isWhole_part
  have hunits : (ts.map part).flatMap LiteralPart.units = ts.flatMap units := by
    rw [List.flatMap_map]
    exact List.flatMap_congr fun t _ => t.units_part
  rw [unescape, literalParts_flatMap_text, joinParts_eq_decodeUtf16 _ hwhole, hunits]

-- The second of three halves goes with the last one, not with the first.
example : unescape "\\ud83d\\uD83D\\uude00".toList = ['\uFFFD', Char.ofNat 0x1F600] := by
  decide +kernel

end LiteralToken

end Excerpt.Java
