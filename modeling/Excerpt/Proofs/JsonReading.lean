import Excerpt.Report.Json
import Mathlib.Algebra.Group.Int.Defs
import Mathlib.Data.List.DropRight

/-!
# Reading reports

Reports are written as JSON. This module defines a reader of the JSON that they are made of and
proves that it undoes the writing: numbers that are integers, strings, arrays and objects, with
blanks between the tokens and with every escape that JSON has. The reader accepts more than is
written, so it is not a printer read backwards; it does not know how values are laid out.

What is written at any level is read back, before all that begins with no digit
(`Json.readsBack`). The condition on what follows is due to numbers, which end where no further
digit comes. The proof is by induction on values, with one lemma for arrays and one for objects,
which go through the items and members one line at a time.

So different values are written differently (`Json.render_injective`), and a report determines its
snippets (`readSnippets_renderSnippets`). The reader takes lines of up to 64 bits, so this much is
asked of the lines of snippets where they are to be read back; that different snippets are written
differently holds without it.

## Main results

* `readString_escaped`: characters of strings are read as they were written.
* `readNumber_toString`: so are numbers.
* `Json.readsBack`: so are values at every level.
* `readSnippets_renderSnippets`: a report loses nothing.
-/

namespace Excerpt

namespace Json

/-! ### Strings -/

/-- The value of a hexadecimal digit. -/
def hexValue? (c : Char) : Option Nat :=
  if '0' ≤ c ∧ c ≤ '9' then some (c.toNat - 48)
  else if 'a' ≤ c ∧ c ≤ 'f' then some (c.toNat - 87)
  else if 'A' ≤ c ∧ c ≤ 'F' then some (c.toNat - 55)
  else none

/-- The code unit that four digits stand for. -/
def readUnit : List Char → Option (Nat × List Char)
  | a :: b :: c :: d :: rest => do
    let unit := ((← hexValue? a) * 16 + (← hexValue? b)) * 256 + (← hexValue? c) * 16 +
      (← hexValue? d)
    return (unit, rest)
  | _ => none

/-- The character that code units stand for: one, or two that are surrogates. -/
def readUnits (cs : List Char) : Option (Char × List Char) :=
  match readUnit cs with
  | some (high, rest) =>
    if high < 0xD800 ∨ 0xDFFF < high then some (Char.ofNat high, rest)
    else match rest with
      | '\\' :: 'u' :: more =>
        match readUnit more with
        | some (low, rest) =>
          if high < 0xDC00 ∧ 0xDC00 ≤ low ∧ low ≤ 0xDFFF then
            some (Char.ofNat (0x10000 + (high - 0xD800) * 0x400 + (low - 0xDC00)), rest)
          else none
        | none => none
      | _ => none
  | none => none

/-- The character that is escaped by what follows a backslash. -/
def readEscape : List Char → Option (Char × List Char)
  | '"' :: rest => some ('"', rest)
  | '\\' :: rest => some ('\\', rest)
  | '/' :: rest => some ('/', rest)
  | 'b' :: rest => some (Char.ofNat 8, rest)
  | 'f' :: rest => some (Char.ofNat 12, rest)
  | 'n' :: rest => some ('\n', rest)
  | 'r' :: rest => some ('\r', rest)
  | 't' :: rest => some ('\t', rest)
  | 'u' :: rest => readUnits rest
  | _ => none

/-- Something is read of the four digits of a unit, so reading goes on. -/
private theorem length_readUnit_lt {cs rest : List Char} {n : Nat}
    (h : readUnit cs = some (n, rest)) :
    rest.length < cs.length := by
  rw [readUnit.eq_def] at h
  split at h
  · simp only [Option.bind_eq_bind, Option.bind_eq_some_iff, Option.pure_def, Option.some.injEq,
      Prod.mk.injEq] at h
    obtain ⟨_, -, _, -, _, -, _, -, -, rfl⟩ := h
    simp only [List.length_cons]
    omega
  · cases h

/-- Something is read of the one or two units of a character, so reading goes on. -/
private theorem length_readUnits_lt {cs rest : List Char} {c : Char}
    (h : readUnits cs = some (c, rest)) :
    rest.length < cs.length := by
  rw [readUnits] at h
  split at h
  · next high rest' hhigh =>
    have hfirst := length_readUnit_lt hhigh
    split at h
    · cases h
      exact hfirst
    · split at h
      · next more =>
        split at h
        · next low rest'' hlow =>
          -- two units: the escape between them has been read as well
          have hsecond := length_readUnit_lt hlow
          split at h
          · obtain ⟨-, rfl⟩ := Prod.mk.inj (Option.some.inj h)
            simp only [List.length_cons] at hfirst
            omega
          · cases h
        · cases h
      · cases h
  · cases h

/-- Something is read of an escape, which is why reading a string ends. -/
private theorem length_readEscape_lt {cs rest : List Char} {c : Char}
    (h : readEscape cs = some (c, rest)) :
    rest.length < cs.length := by
  rw [readEscape.eq_def] at h
  split at h
  case h_9 => exact Nat.lt_succ_of_lt (length_readUnits_lt h)
  case h_10 => cases h
  all_goals
    cases h
    exact Nat.lt_succ_self _

/-- The rest of a string behind its opening quote. -/
def readString (cs : List Char) : Option (List Char × List Char) :=
  match cs with
  | [] => none
  | c :: cs =>
    if c = '"' then some ([], cs)
    else if c = '\\' then
      match h : readEscape cs with
      | some (d, rest) =>
        have := length_readEscape_lt h
        (readString rest).map fun r => (d :: r.1, r.2)
      | none => none
    else if c.toNat < 32 then none
    else (readString cs).map fun r => (c :: r.1, r.2)
termination_by cs.length
decreasing_by all_goals simp <;> omega

private theorem hexValue?_hexDigit : ∀ n < 16, hexValue? (hexDigit n) = some n := by
  decide

/-- The escape of a control character. -/
theorem readUnits_control {c : Char} (hc : c.toNat < 32) (rest : List Char) :
    readUnits ('0' :: '0' :: hexDigit (c.toNat / 16) :: hexDigit (c.toNat % 16) :: rest) =
      some (c, rest) := by
  have hunit : readUnit ('0' :: '0' :: hexDigit (c.toNat / 16) :: hexDigit (c.toNat % 16) :: rest) =
      some (c.toNat, rest) := by
    have hzero : hexValue? '0' = some 0 := by decide
    have hsum : (0 * 16 + 0) * 256 + c.toNat / 16 * 16 + c.toNat % 16 = c.toNat := by omega
    rw [readUnit, hzero, hexValue?_hexDigit _ (by omega), hexValue?_hexDigit _ (by omega)]
    simp only [Option.bind_eq_bind, Option.bind_some, Option.pure_def, hsum]
  have hsmall : c.toNat < 0xD800 ∨ 0xDFFF < c.toNat := by omega
  simp only [readUnits, hunit, hsmall, if_true, Char.ofNat_toNat]

/-- A string that goes on with an escape has the character of the escape. -/
private theorem readString_backslash {cs rest : List Char} {d : Char}
    (h : readEscape cs = some (d, rest)) :
    readString ('\\' :: cs) = (readString rest).map fun r => (d :: r.1, r.2) := by
  rw [readString, if_neg (by decide), if_pos rfl]
  split
  · next d' rest' h' =>
    obtain ⟨rfl, rfl⟩ := Prod.mk.inj (Option.some.inj (h'.symm.trans h))
    rfl
  · next h' =>
    rw [h] at h'
    cases h'

/-- **A character is read as it was written**, whatever follows it in the string. -/
theorem readString_escaped (c : Char) (cs : List Char) :
    readString (escaped c ++ cs) = (readString cs).map fun r => (c :: r.1, r.2) := by
  have hofNat : ∀ n, c.toNat = n → Char.ofNat n = c := fun n hn => hn ▸ Char.ofNat_toNat c
  rw [escaped]
  -- one case for each kind of escape, and the last for characters that stand for themselves
  split_ifs with hquote hslash hfeed hreturn htab hback hform hcontrol
  · subst hquote
    exact readString_backslash rfl
  · subst hslash
    exact readString_backslash rfl
  · subst hfeed
    exact readString_backslash rfl
  · subst hreturn
    exact readString_backslash rfl
  · subst htab
    exact readString_backslash rfl
  · exact hofNat 8 hback ▸ readString_backslash rfl
  · exact hofNat 12 hform ▸ readString_backslash rfl
  · exact readString_backslash (readUnits_control hcontrol cs)
  · rw [List.singleton_append, readString, if_neg hquote, if_neg hslash, if_neg hcontrol]

/-- A string is read up to the quote that ends it. No quote is met before, since those inside are
escaped. -/
private theorem readString_flatMap_escaped (s rest : List Char) :
    readString (s.flatMap escaped ++ '"' :: rest) = some (s, rest) := by
  induction s with
  | nil => rw [List.flatMap_nil, List.nil_append, readString, if_pos rfl]
  | cons c s ih =>
    rw [List.flatMap_cons, List.append_assoc, readString_escaped, ih, Option.map_some]

/-! ### Numbers -/

/-- A natural number; no other number than zero begins with a zero. -/
def readNatural (cs : List Char) : Option (Nat × List Char) :=
  let digits := cs.takeWhile Char.isDigit
  if digits = [] ∨ (digits.head? = some '0' ∧ digits ≠ ['0']) then none
  else some (Nat.ofDigitChars 10 digits 0, cs.dropWhile Char.isDigit)

/-- An integer. -/
def readNumber : List Char → Option (Int × List Char)
  | '-' :: cs => (readNatural cs).map fun r => (-(r.1 : Int), r.2)
  | cs => (readNatural cs).map fun r => ((r.1 : Int), r.2)

/-- A number is printed with no zero before its other digits. -/
theorem head?_toDigits_ne_zero {n : Nat} (hn : n ≠ 0) : (Nat.toDigits 10 n).head? ≠ some '0' := by
  induction n using Nat.strongRecOn with
  | ind n ih =>
    rw [Nat.toDigits_eq_if (by decide)]
    split
    · next hlt =>
      have hdigit : ∀ d < 10, d ≠ 0 → d.digitChar ≠ '0' := by decide
      simpa using hdigit n hlt hn
    · next hge =>
      rw [List.head?_append_of_ne_nil _ Nat.toDigits_ne_nil]
      exact ih (n / 10) (by omega) (by omega)

private theorem isDigit_of_mem_toDigits {n : Nat} {c : Char} (hc : c ∈ Nat.toDigits 10 n) :
    c.isDigit = true :=
  Nat.isDigit_of_mem_toDigits (by decide) (Nat.le_refl 10) hc

/-- A natural number is read up to its last digit, if no digit follows. Zeros at the beginning
would be refused, but a number is printed without them. -/
private theorem readNatural_toDigits (n : Nat) {rest : List Char}
    (hrest : ∀ c ∈ rest.head?, c.isDigit = false) :
    readNatural (Nat.toDigits 10 n ++ rest) = some (n, rest) := by
  have hnone : rest.takeWhile Char.isDigit = [] ∧ rest.dropWhile Char.isDigit = rest := by
    cases rest with
    | nil => exact ⟨rfl, rfl⟩
    | cons c rest =>
      have hc : c.isDigit = false := hrest c rfl
      simp [hc]
  have htake : (Nat.toDigits 10 n ++ rest).takeWhile Char.isDigit = Nat.toDigits 10 n := by
    rw [List.takeWhile_append_of_pos fun c => isDigit_of_mem_toDigits, hnone.1, List.append_nil]
  have hdrop : (Nat.toDigits 10 n ++ rest).dropWhile Char.isDigit = rest := by
    rw [List.dropWhile_append_of_pos fun c => isDigit_of_mem_toDigits, hnone.2]
  -- zero is printed as one digit, so a zero at the beginning is the whole number
  have hzero : ¬ (Nat.toDigits 10 n = [] ∨
      ((Nat.toDigits 10 n).head? = some '0' ∧ Nat.toDigits 10 n ≠ ['0'])) := by
    rintro (hnil | ⟨hhead, hne⟩)
    · exact Nat.toDigits_ne_nil hnil
    · by_cases hn : n = 0
      · exact hne (hn ▸ Nat.toDigits_zero 10)
      · exact head?_toDigits_ne_zero hn hhead
  simp only [readNatural, htake, hdrop, if_neg hzero, Nat.ofDigitChars_ten_toDigits]

/-- An integer that is not negative is printed like a natural number. -/
private theorem toList_toString_of_nonneg {n : Int} (hn : 0 ≤ n) :
    (toString n).toList = Nat.toDigits 10 n.toNat := by
  rw [Int.toString_eq_repr, Int.repr_eq_if, if_pos hn, Nat.toList_repr]

/-- A negative integer is printed with a minus sign before its digits. -/
private theorem toList_toString_of_neg {n : Int} (hn : n < 0) :
    (toString n).toList = '-' :: Nat.toDigits 10 (-n).toNat := by
  rw [Int.toString_eq_repr, Int.repr_eq_if, if_neg (Int.not_le.2 hn), String.toList_append,
    Nat.toList_repr]
  rfl

/-- A number begins with a digit or a minus sign. -/
theorem exists_toString_eq_cons (n : Int) :
    ∃ c cs, (toString n).toList = c :: cs ∧ (c = '-' ∨ c.isDigit = true) := by
  rcases Int.lt_or_le n 0 with hn | hn
  · exact ⟨_, _, toList_toString_of_neg hn, .inl rfl⟩
  · obtain ⟨c, cs, hdigits⟩ :=
      List.exists_cons_of_ne_nil (Nat.toDigits_ne_nil (n := n.toNat) (b := 10))
    refine ⟨c, cs, (toList_toString_of_nonneg hn).trans hdigits,
      .inr (isDigit_of_mem_toDigits (n := n.toNat) ?_)⟩
    rw [hdigits]
    exact List.mem_cons_self

/-- **A number is read as it was written** if no digit follows it. -/
theorem readNumber_toString (n : Int) {rest : List Char}
    (hrest : ∀ c ∈ rest.head?, c.isDigit = false) :
    readNumber ((toString n).toList ++ rest) = some (n, rest) := by
  rcases Int.lt_or_le n 0 with hn | hn
  · have habs : -((-n).toNat : Int) = n := by omega
    rw [toList_toString_of_neg hn, List.cons_append, readNumber, readNatural_toDigits _ hrest,
      Option.map_some, habs]
  · have habs : (n.toNat : Int) = n := Int.toNat_of_nonneg hn
    rw [toList_toString_of_nonneg hn, readNumber.eq_def]
    split
    · next cs hcs =>
      -- a digit is no minus sign
      obtain ⟨d, ds, hdigits⟩ :=
        List.exists_cons_of_ne_nil (Nat.toDigits_ne_nil (n := n.toNat) (b := 10))
      rw [hdigits, List.cons_append] at hcs
      have hd : d.isDigit = true :=
        isDigit_of_mem_toDigits (n := n.toNat) (hdigits ▸ List.mem_cons_self)
      rw [(List.cons.inj hcs).1] at hd
      cases hd
    · rw [readNatural_toDigits _ hrest, Option.map_some, habs]

/-! ### Values -/

/-- The blanks that may stand between tokens. -/
def isSpace (c : Char) : Bool :=
  c == ' ' || c == '\t' || c == '\n' || c == '\r'

/-- What follows the blanks at the beginning. -/
def skipSpace (cs : List Char) : List Char :=
  cs.dropWhile isSpace

mutual

/-- The value at the beginning of a text, and what follows it. With each value, item and member at
least one character is read, so that a text has no more of them than `fuel` if this is its
length. -/
def readValue : (fuel : Nat) → List Char → Option (Json × List Char)
  | 0, _ => none
  | fuel + 1, cs =>
    match skipSpace cs with
    | '"' :: cs => (readString cs).map fun r => (.string (String.ofList r.1), r.2)
    | '[' :: cs =>
      match skipSpace cs with
      | ']' :: rest => some (.array [], rest)
      | cs => do
        let (x, cs) ← readValue fuel cs
        let (xs, rest) ← readItems fuel cs
        return (.array (x :: xs), rest)
    | '\x7b' :: cs =>
      match skipSpace cs with
      | '\x7d' :: rest => some (.object [], rest)
      | cs => do
        let (m, cs) ← readMember fuel cs
        let (ms, rest) ← readMembers fuel cs
        return (.object (m :: ms), rest)
    | cs => (readNumber cs).map fun r => (.number r.1, r.2)

/-- Further items of an array up to its end. -/
def readItems : (fuel : Nat) → List Char → Option (List Json × List Char)
  | 0, _ => none
  | fuel + 1, cs =>
    match skipSpace cs with
    | ']' :: rest => some ([], rest)
    | ',' :: cs => do
      let (x, cs) ← readValue fuel cs
      let (xs, rest) ← readItems fuel cs
      return (x :: xs, rest)
    | _ => none

/-- A member of an object. -/
def readMember : (fuel : Nat) → List Char → Option ((String × Json) × List Char)
  | 0, _ => none
  | fuel + 1, cs =>
    match skipSpace cs with
    | '"' :: cs => do
      let (key, cs) ← readString cs
      match skipSpace cs with
      | ':' :: cs =>
        let (value, rest) ← readValue fuel cs
        return ((String.ofList key, value), rest)
      | _ => none
    | _ => none

/-- Further members of an object up to its end. -/
def readMembers : (fuel : Nat) → List Char → Option (List (String × Json) × List Char)
  | 0, _ => none
  | fuel + 1, cs =>
    match skipSpace cs with
    | '\x7d' :: rest => some ([], rest)
    | ',' :: cs => do
      let (m, cs) ← readMember fuel cs
      let (ms, rest) ← readMembers fuel cs
      return (m :: ms, rest)
    | _ => none

end

/-- The value that a whole text is. -/
def read (cs : List Char) : Option Json := do
  let (value, rest) ← readValue cs.length cs
  if skipSpace rest = [] then return value else none

/-! ### Reading what is written -/

/-- To show something of all values, show it of arrays and objects whose items and members have
it. -/
@[elab_as_elim]
theorem induction {motive : Json → Prop} (number : ∀ n, motive (.number n))
    (string : ∀ s, motive (.string s))
    (array : ∀ items, (∀ x ∈ items, motive x) → motive (.array items))
    (object : ∀ members, (∀ m ∈ members, motive m.2) → motive (.object members))
    (v : Json) : motive v :=
  @Json.rec motive (fun items => ∀ x ∈ items, motive x) (fun members => ∀ m ∈ members, motive m.2)
    (fun m => motive m.2) number string array object (List.forall_mem_nil _)
    (fun _ _ hx hxs => List.forall_mem_cons.2 ⟨hx, hxs⟩) (List.forall_mem_nil _)
    (fun _ _ hm hms => List.forall_mem_cons.2 ⟨hm, hms⟩) (fun _ _ hv => hv) v

variable {level fuel : Nat} {cs ds rest : List Char}

private theorem skipSpace_cons {c : Char} (hc : isSpace c = false) (cs : List Char) :
    skipSpace (c :: cs) = c :: cs :=
  List.dropWhile_cons_of_neg (by simp [hc])

/-- The beginning of a line is blank, whatever its level. -/
private theorem skipSpace_newline (level : Nat) (cs : List Char) :
    skipSpace (newline level ++ cs) = skipSpace cs := by
  refine List.dropWhile_append_of_pos fun c hc => ?_
  rcases List.mem_cons.1 hc with rfl | hc
  · rfl
  · rw [List.eq_of_mem_replicate hc]
    rfl

/-- A number begins with neither a quote nor a bracket. -/
private theorem ne_of_begins_number {c d : Char} (hc : c = '-' ∨ c.isDigit = true)
    (hminus : d ≠ '-') (hdigit : d.isDigit = false) : c ≠ d := by
  rintro rfl
  rcases hc with rfl | hc
  · exact hminus rfl
  · rw [hdigit] at hc
    cases hc

/-- A number begins with no blank. -/
private theorem isSpace_of_begins_number {c : Char} (hc : c = '-' ∨ c.isDigit = true) :
    isSpace c = false := by
  have hblank := ne_of_begins_number hc (d := ' ') (by decide) (by decide)
  have htab := ne_of_begins_number hc (d := '\t') (by decide) (by decide)
  have hfeed := ne_of_begins_number hc (d := '\n') (by decide) (by decide)
  have hreturn := ne_of_begins_number hc (d := '\r') (by decide) (by decide)
  simp [isSpace, hblank, htab, hfeed, hreturn]

/-- What is written begins with no blank and not with the end of an array. -/
theorem exists_render_eq_cons (level : Nat) (v : Json) :
    ∃ c cs, render level v = c :: cs ∧ isSpace c = false ∧ c ≠ ']' := by
  cases v with
  | number n =>
    obtain ⟨c, cs, htext, hc⟩ := exists_toString_eq_cons n
    exact ⟨c, cs, by rw [render, htext], isSpace_of_begins_number hc,
      ne_of_begins_number hc (by decide) (by decide)⟩
  | string s => exact ⟨_, _, rfl, by decide, by decide⟩
  | array items => cases items <;> exact ⟨_, _, rfl, by decide, by decide⟩
  | object members => cases members <;> exact ⟨_, _, rfl, by decide, by decide⟩

/-- A value begins with no blank, so nothing of it is skipped. -/
private theorem skipSpace_render (level : Nat) (v : Json) (rest : List Char) :
    skipSpace (render level v ++ rest) = render level v ++ rest := by
  obtain ⟨c, cs, htext, hc, -⟩ := exists_render_eq_cons level v
  rw [htext, List.cons_append, skipSpace_cons hc]

/-- Blanks before a value do not matter. -/
theorem readValue_congr (h : skipSpace cs = skipSpace ds) :
    readValue fuel cs = readValue fuel ds := by
  cases fuel with
  | zero => rfl
  | succ fuel => rw [readValue, readValue, h]

/-- Blanks before a member do not matter. -/
private theorem readMember_congr (h : skipSpace cs = skipSpace ds) :
    readMember fuel cs = readMember fuel ds := by
  cases fuel with
  | zero => rfl
  | succ fuel => rw [readMember, readMember, h]

/-- The value is read back at any level if no digit follows it. -/
def ReadsBack (v : Json) : Prop :=
  ∀ level fuel rest, (render level v).length ≤ fuel → (∀ c ∈ rest.head?, c.isDigit = false) →
    readValue fuel (render level v ++ rest) = some (v, rest)

/-- Numbers are read back. This is where a digit after the value would do harm. -/
private theorem readsBack_number (n : Int) : ReadsBack (.number n) := by
  intro level fuel rest hfuel hrest
  obtain ⟨c, cs, htext, hc⟩ := exists_toString_eq_cons n
  have hread := readNumber_toString n hrest
  rw [render, htext] at hfuel
  obtain ⟨fuel, rfl⟩ := Nat.exists_eq_add_of_le' (Nat.le_trans (Nat.succ_pos cs.length) hfuel)
  rw [htext, List.cons_append] at hread
  rw [render, htext, List.cons_append, readValue, skipSpace_cons (isSpace_of_begins_number hc)]
  split
  · next h => exact absurd (List.cons.inj h).1 (ne_of_begins_number hc (by decide) (by decide))
  · next h => exact absurd (List.cons.inj h).1 (ne_of_begins_number hc (by decide) (by decide))
  · next h => exact absurd (List.cons.inj h).1 (ne_of_begins_number hc (by decide) (by decide))
  · rw [hread, Option.map_some]

/-- Strings are read back, whatever follows the quote. -/
private theorem readsBack_string (s : String) : ReadsBack (.string s) := by
  intro level fuel rest hfuel _
  have hread := readString_flatMap_escaped s.toList rest
  have hquote : skipSpace (render level (.string s) ++ rest) =
      '"' :: (s.toList.flatMap escaped ++ '"' :: rest) := by
    rw [skipSpace_render]
    simp [render, quoted]
  obtain ⟨fuel, rfl⟩ := Nat.exists_eq_add_of_le' (Nat.le_trans (Nat.succ_pos _) hfuel)
  simp only [readValue, hquote, hread, Option.map_some, String.ofList_toList]

/-- Behind an item stands a comma or the end of the line. -/
theorem not_digit_after_items (level : Nat) (xs : List Json) (outer : Nat) (rest : List Char) :
    ∀ c ∈ (renderItems level xs ++ (newline outer ++ rest)).head?, c.isDigit = false := by
  cases xs <;> (rintro c ⟨⟩; rfl)

/-- Behind a member stands a comma or the end of the line. -/
private theorem not_digit_after_members (level : Nat) (ms : List (String × Json)) (outer : Nat)
    (rest : List Char) :
    ∀ c ∈ (renderMembers level ms ++ (newline outer ++ rest)).head?, c.isDigit = false := by
  cases ms <;> (rintro c ⟨⟩; rfl)

/-- A value on a line of its own. -/
theorem ReadsBack.readValue_newline {v : Json} (hv : ReadsBack v)
    (hfuel : (render level v).length ≤ fuel) (hrest : ∀ c ∈ rest.head?, c.isDigit = false) :
    readValue fuel (newline level ++ (render level v ++ rest)) = some (v, rest) := by
  rw [readValue_congr (skipSpace_newline level _), hv level fuel rest hfuel hrest]

/-- Further items are read up to the end of the array. -/
theorem readItems_renderItems {xs : List Json} (hxs : ∀ x ∈ xs, ReadsBack x) (outer : Nat)
    (hfuel : (renderItems level xs).length < fuel) (rest : List Char) :
    readItems fuel (renderItems level xs ++ (newline outer ++ ']' :: rest)) = some (xs, rest) := by
  induction xs generalizing fuel with
  | nil =>
    obtain ⟨fuel, rfl⟩ := Nat.exists_eq_succ_of_ne_zero (Nat.ne_zero_of_lt hfuel)
    have hclose : skipSpace (newline outer ++ ']' :: rest) = ']' :: rest := by
      rw [skipSpace_newline, skipSpace_cons (by decide)]
    simp only [renderItems, List.nil_append, readItems, hclose]
  | cons x xs ih =>
    obtain ⟨hx, hxs⟩ := List.forall_mem_cons.1 hxs
    obtain ⟨fuel, rfl⟩ := Nat.exists_eq_succ_of_ne_zero (Nat.ne_zero_of_lt hfuel)
    simp only [renderItems, List.length_append, List.length_cons] at hfuel
    -- the length of what is written bounds the fuel, and each item uses up some of it
    have hread : readValue fuel (newline level ++ (render level x ++
        (renderItems level xs ++ (newline outer ++ ']' :: rest)))) =
        some (x, renderItems level xs ++ (newline outer ++ ']' :: rest)) :=
      hx.readValue_newline (by omega) (not_digit_after_items level xs outer _)
    have hmore : readItems fuel (renderItems level xs ++ (newline outer ++ ']' :: rest)) =
        some (xs, rest) :=
      ih hxs (by omega)
    rw [renderItems]
    simp only [List.cons_append, List.append_assoc, readItems,
      skipSpace_cons (c := ',') (by decide), hread, hmore, Option.bind_eq_bind, Option.bind_some,
      Option.pure_def]

/-- A key begins with a quote. -/
private theorem skipSpace_quoted (k : String) (rest : List Char) :
    skipSpace (quoted k ++ rest) = '"' :: (k.toList.flatMap escaped ++ '"' :: rest) := by
  have hquoted : quoted k ++ rest = '"' :: (k.toList.flatMap escaped ++ '"' :: rest) := by
    simp [quoted]
  rw [hquoted, skipSpace_cons (by decide)]

/-- A member on a line of its own. -/
theorem ReadsBack.readMember_newline {v : Json} (hv : ReadsBack v) (k : String)
    (hfuel : (render level v).length < fuel) (hrest : ∀ c ∈ rest.head?, c.isDigit = false) :
    readMember fuel (newline level ++ (quoted k ++ (':' :: ' ' :: (render level v ++ rest)))) =
      some ((k, v), rest) := by
  obtain ⟨fuel, rfl⟩ := Nat.exists_eq_succ_of_ne_zero (Nat.ne_zero_of_lt hfuel)
  have hblank : skipSpace (' ' :: (render level v ++ rest)) = skipSpace (render level v ++ rest) :=
    rfl
  have hread : readValue fuel (' ' :: (render level v ++ rest)) = some (v, rest) := by
    rw [readValue_congr hblank, hv level fuel rest (Nat.le_of_lt_succ hfuel) hrest]
  simp only [readMember, skipSpace_newline, skipSpace_quoted, readString_flatMap_escaped,
    skipSpace_cons (c := ':') (by decide), hread, Option.bind_eq_bind, Option.bind_some,
    Option.pure_def, String.ofList_toList]

/-- Further members are read up to the end of the object. -/
theorem readMembers_renderMembers {ms : List (String × Json)} (hms : ∀ m ∈ ms, ReadsBack m.2)
    (outer : Nat) (hfuel : (renderMembers level ms).length < fuel) (rest : List Char) :
    readMembers fuel (renderMembers level ms ++ (newline outer ++ '\x7d' :: rest)) =
      some (ms, rest) := by
  induction ms generalizing fuel with
  | nil =>
    obtain ⟨fuel, rfl⟩ := Nat.exists_eq_succ_of_ne_zero (Nat.ne_zero_of_lt hfuel)
    have hclose : skipSpace (newline outer ++ '\x7d' :: rest) = '\x7d' :: rest := by
      rw [skipSpace_newline, skipSpace_cons (by decide)]
    simp only [renderMembers, List.nil_append, readMembers, hclose]
  | cons m ms ih =>
    obtain ⟨k, v⟩ := m
    obtain ⟨(hv : ReadsBack v), hms⟩ := List.forall_mem_cons.1 hms
    obtain ⟨fuel, rfl⟩ := Nat.exists_eq_succ_of_ne_zero (Nat.ne_zero_of_lt hfuel)
    simp only [renderMembers, List.length_append, List.length_cons] at hfuel
    have hread : readMember fuel (newline level ++ (quoted k ++ (':' :: ' ' :: (render level v ++
        (renderMembers level ms ++ (newline outer ++ '\x7d' :: rest)))))) =
        some ((k, v), renderMembers level ms ++ (newline outer ++ '\x7d' :: rest)) :=
      hv.readMember_newline k (by omega) (not_digit_after_members level ms outer _)
    have hmore : readMembers fuel (renderMembers level ms ++ (newline outer ++ '\x7d' :: rest)) =
        some (ms, rest) :=
      ih hms (by omega)
    rw [renderMembers]
    simp only [List.cons_append, List.nil_append, List.append_assoc, readMembers,
      skipSpace_cons (c := ',') (by decide), hread, hmore, Option.bind_eq_bind, Option.bind_some,
      Option.pure_def]

private theorem skipSpace_skipSpace (cs : List Char) : skipSpace (skipSpace cs) = skipSpace cs :=
  List.dropWhile_idempotent isSpace cs

/-- An array with items. -/
theorem readValue_array {x : Json} {xs : List Json} {es : List Char}
    (hopen : skipSpace cs = '[' :: ds) (hclose : (skipSpace ds).head? ≠ some ']')
    (hx : readValue fuel ds = some (x, es)) (hxs : readItems fuel es = some (xs, rest)) :
    readValue (fuel + 1) cs = some (.array (x :: xs), rest) := by
  rw [readValue_congr (skipSpace_skipSpace ds).symm] at hx
  simp only [readValue, hopen]
  split
  · next h => exact absurd (by rw [h]; rfl) hclose
  · rw [hx]
    simp only [hxs, Option.bind_eq_bind, Option.bind_some, Option.pure_def]

/-- An object with members. -/
theorem readValue_object {m : String × Json} {ms : List (String × Json)} {es : List Char}
    (hopen : skipSpace cs = '\x7b' :: ds) (hclose : (skipSpace ds).head? ≠ some '\x7d')
    (hm : readMember fuel ds = some (m, es)) (hms : readMembers fuel es = some (ms, rest)) :
    readValue (fuel + 1) cs = some (.object (m :: ms), rest) := by
  rw [readMember_congr (skipSpace_skipSpace ds).symm] at hm
  simp only [readValue, hopen]
  split
  · next h => exact absurd (by rw [h]; rfl) hclose
  · rw [hm]
    simp only [hms, Option.bind_eq_bind, Option.bind_some, Option.pure_def]

/-- Arrays are read back if their items are. -/
private theorem readsBack_array {xs : List Json} (hxs : ∀ x ∈ xs, ReadsBack x) :
    ReadsBack (.array xs) := by
  intro level fuel rest hfuel _
  obtain ⟨fuel, rfl⟩ : ∃ n, fuel = n + 1 := by
    cases xs <;> exact Nat.exists_eq_add_of_le' (Nat.le_trans (Nat.succ_pos _) hfuel)
  cases xs with
  | nil =>
    simp only [render, List.cons_append, List.nil_append, readValue,
      skipSpace_cons (c := '[') (by decide), skipSpace_cons (c := ']') (by decide)]
  | cons x xs =>
    obtain ⟨hx, hxs⟩ := List.forall_mem_cons.1 hxs
    simp only [render, List.length_append, List.length_cons, List.length_nil] at hfuel
    simp only [render, List.cons_append, List.nil_append, List.append_assoc]
    refine readValue_array (skipSpace_cons (by decide) _) ?_
      (hx.readValue_newline (by omega) (not_digit_after_items (level + 1) xs level _))
      (readItems_renderItems hxs level (by omega) rest)
    -- the first item does not look like the end of the array
    obtain ⟨c, cs, htext, -, hclose⟩ := exists_render_eq_cons (level + 1) x
    rw [skipSpace_newline, skipSpace_render, htext]
    simpa using hclose

/-- Objects are read back if their members are. -/
private theorem readsBack_object {ms : List (String × Json)} (hms : ∀ m ∈ ms, ReadsBack m.2) :
    ReadsBack (.object ms) := by
  intro level fuel rest hfuel _
  obtain ⟨fuel, rfl⟩ : ∃ n, fuel = n + 1 := by
    cases ms <;> exact Nat.exists_eq_add_of_le' (Nat.le_trans (Nat.succ_pos _) hfuel)
  cases ms with
  | nil =>
    simp only [render, List.cons_append, List.nil_append, readValue,
      skipSpace_cons (c := '\x7b') (by decide), skipSpace_cons (c := '\x7d') (by decide)]
  | cons m ms =>
    obtain ⟨k, v⟩ := m
    obtain ⟨(hv : ReadsBack v), hms⟩ := List.forall_mem_cons.1 hms
    simp only [render, List.length_append, List.length_cons, List.length_nil] at hfuel
    simp only [render, List.cons_append, List.nil_append, List.append_assoc]
    refine readValue_object (skipSpace_cons (by decide) _) ?_
      (hv.readMember_newline k (by omega) (not_digit_after_members (level + 1) ms level _))
      (readMembers_renderMembers hms level (by omega) rest)
    -- the first member begins with a quote, so it does not look like the end of the object
    rw [skipSpace_newline, skipSpace_quoted]
    simp

/-- **Values are read as they were written**, at every level and before all that begins with no
digit. -/
theorem readsBack (v : Json) : ReadsBack v := by
  induction v using Json.induction with
  | number n => exact readsBack_number n
  | string s => exact readsBack_string s
  | array xs hxs => exact readsBack_array hxs
  | object ms hms => exact readsBack_object hms

/-- A whole value is read back, and nothing is left over. -/
private theorem read_render (v : Json) : read (render 0 v) = some v := by
  have hvalue := v.readsBack 0 (render 0 v).length [] (Nat.le_refl _) (by simp)
  rw [List.append_nil] at hvalue
  simp only [read, hvalue, Option.bind_eq_bind, Option.bind_some, Option.pure_def]
  rfl

/-- Different values are written differently. -/
theorem render_injective : Function.Injective (render 0) := by
  intro v w h
  have hread := congrArg read h
  rw [read_render, read_render] at hread
  exact Option.some.inj hread

/-! ### Snippets -/

/-- The value of a member that occurs once. -/
def member? (members : List (String × Json)) (key : String) : Option Json :=
  match members.filter fun m => m.1 == key with
  | [m] => some m.2
  | _ => none

/-- The text that a value is. -/
def text? : Json → Option String
  | .string s => some s
  | _ => none

/-- The number that a value is, if it has no more than 64 bits. -/
def int64? : Json → Option Int
  | .number n => if -2 ^ 63 ≤ n ∧ n < 2 ^ 63 then some n else none
  | _ => none

end Json

namespace Snippet

/-- The snippet that an object holds. Its members may stand in any order, with others among them. -/
def ofJson? : Json → Option Snippet
  | .object members => do
    let text (key : String) := (Json.member? members key).bind Json.text?
    let rule : Rule := {
      id := ← text "ruleId"
      scope := ← text "ruleScope"
      description := ← text "ruleDescription"
      criteria := ← text "ruleCriteria"
      context := ← text "ruleContext" }
    let path ← text "filePath"
    let line ← (Json.member? members "line").bind Json.int64?
    return ⟨rule, path, ⟨line, ← text "code", ← text "subjectName"⟩⟩
  | _ => none

/-- A snippet is read back from its object. Its line must fit into 64 bits, which is what the
reader takes. -/
private theorem ofJson?_toJson (s : Snippet)
    (hline : -2 ^ 63 ≤ s.finding.line ∧ s.finding.line < 2 ^ 63) :
    ofJson? s.toJson = some s := by
  have hnumber : Json.int64? (.number s.finding.line) = some s.finding.line := if_pos hline
  simp [ofJson?, toJson, Json.member?, Json.text?, hnumber]

/-- Different snippets have different objects, whatever their lines are. -/
private theorem toJson_injective : Function.Injective toJson := by
  rintro ⟨⟨id, scope, description, criteria, context⟩, path, ⟨line, code, subject⟩⟩
    ⟨⟨id', scope', description', criteria', context'⟩, path', ⟨line', code', subject'⟩⟩ h
  simpa [toJson, and_assoc] using h

end Snippet

/-- The snippets that a report in JSON holds. -/
def readSnippets (report : String) : Option (List Snippet) :=
  match Json.read report.toList with
  | some (.array items) => items.mapM Snippet.ofJson?
  | _ => none

/-- Snippets are read back one after the other. -/
private theorem mapM_ofJson?_toJson {snippets : List Snippet}
    (hlines : ∀ s ∈ snippets, -2 ^ 63 ≤ s.finding.line ∧ s.finding.line < 2 ^ 63) :
    (snippets.map Snippet.toJson).mapM Snippet.ofJson? = some snippets := by
  induction snippets with
  | nil => rfl
  | cons s snippets ih =>
    obtain ⟨hline, hlines⟩ := List.forall_mem_cons.1 hlines
    rw [List.map_cons, List.mapM_cons, s.ofJson?_toJson hline, ih hlines]
    rfl

/-- Different snippets are written differently, because their objects are different and so are the
texts of different values. -/
private theorem renderSnippets_injective : Function.Injective renderSnippets := by
  intro snippets snippets' h
  have hvalues := Json.array.inj (Json.render_injective (String.ofList_inj.1 h))
  exact List.map_injective_iff.2 Snippet.toJson_injective hvalues

/-- **A report loses nothing.** The snippets of a report are read back from it, in their order, if
their lines have no more than 64 bits. Different snippets have different reports. -/
theorem readSnippets_renderSnippets :
    (∀ snippets : List Snippet, (∀ s ∈ snippets, -2 ^ 63 ≤ s.finding.line ∧
      s.finding.line < 2 ^ 63) →
      readSnippets (renderSnippets snippets) = some snippets) ∧
      Function.Injective renderSnippets := by
  refine ⟨fun snippets hlines => ?_, renderSnippets_injective⟩
  rw [readSnippets, renderSnippets, String.toList_ofList, Json.read_render]
  exact mapM_ofJson?_toJson hlines

/-- Snippets without a line, with quotes, a backslash, a control character and characters beyond
ASCII. -/
theorem readSnippets_quotedCode :
    let rule : Rule :=
  { id := "RULE-031", scope := "LOG_DECLARATION", description := "Größe \"n\"" }
    let snippets : List Snippet :=
      [⟨rule, "src\\A.java", ⟨-1, "log(\"\x07\t\n\");", ""⟩⟩,
        ⟨rule, "𝓐.java", ⟨2 ^ 63 - 1, "", "\u2028"⟩⟩]
    (∀ s ∈ snippets, -2 ^ 63 ≤ s.finding.line ∧ s.finding.line < 2 ^ 63) ∧
      readSnippets (renderSnippets snippets) = some snippets := by
  intro rule snippets
  have hlines : ∀ s ∈ snippets, -2 ^ 63 ≤ s.finding.line ∧ s.finding.line < 2 ^ 63 := by
    simp [snippets]
  exact ⟨hlines, readSnippets_renderSnippets.1 snippets hlines⟩

end Excerpt
