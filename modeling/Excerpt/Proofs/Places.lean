import Excerpt.Text.Basic
import Mathlib.Data.List.Basic

/-!
# Places in a text

A place in a text is a number of bytes, of which not every one lies between two characters.
`Text.dropBytes?` and `Text.takeBytes?` find the characters on both sides of a place: a text
splits at a place in at most one way (`dropBytes?_eq_some_iff`, `takeBytes?_eq_some_iff`).

What stands between two places is a piece of the text (`byteSlice?_eq_some_iff`), and it holds a
line feed if and only if there are more line feeds before the second place than before the first
(`lineFeedsBefore_eq_iff`). This is what connects the lines of a range with the text under it.

All functions are described by how the text is put together, and not by positions in it. Two
descriptions of one text can then be compared, because a beginning of a text is determined by its
number of bytes (`prefix_of_byteLength_le`).

## Main results

* `dropBytes?_eq_some_iff`, `takeBytes?_eq_some_iff`: splitting at a place.
* `byteSlice?_eq_some_iff`: what stands between two places.
* `infix_of_byteSlice?`: pieces inside each other.
* `lineFeedsBefore_eq_iff`: line feeds between two places.
-/

namespace Excerpt.Text

/-- The place after `n` bytes lies between characters of the text or at one of its ends. -/
def isBoundary (n : Nat) (cs : List Char) : Bool :=
  (dropBytes? n cs).isSome

/-- Number of line feeds that begin before byte `n`. -/
def lineFeedsBefore : Nat → List Char → Nat
  | _, [] => 0
  | n, c :: cs =>
    if n = 0 then 0 else (if c = '\n' then 1 else 0) + lineFeedsBefore (n - c.utf8Size) cs

variable {cs before after mid : List Char} {a b n : Nat}

/-! ### Splitting at a place -/

/-- Bytes of texts add up. -/
@[simp]
theorem byteLength_append (before after : List Char) :
    byteLength (before ++ after) = byteLength before + byteLength after := by
  induction before with
  | nil => simp [byteLength]
  | cons c before ih => simp [byteLength, ih, Nat.add_assoc]

private theorem dropBytes?_append (before after : List Char) :
    dropBytes? (byteLength before) (before ++ after) = some after := by
  induction before with
  | nil => cases after <;> simp [byteLength, dropBytes?]
  | cons c before ih =>
    have hpos : c.utf8Size ≠ 0 := Nat.ne_of_gt c.utf8Size_pos
    simp [byteLength, dropBytes?, ih, hpos]

private theorem takeBytes?_append (before after : List Char) :
    takeBytes? (byteLength before) (before ++ after) = some before := by
  induction before with
  | nil => cases after <;> simp [byteLength, takeBytes?]
  | cons c before ih =>
    have hpos : c.utf8Size ≠ 0 := Nat.ne_of_gt c.utf8Size_pos
    simp [byteLength, takeBytes?, ih, hpos]

/-- What stands behind a place. -/
theorem dropBytes?_eq_some_iff :
    dropBytes? n cs = some after ↔ ∃ before, cs = before ++ after ∧ byteLength before = n := by
  constructor
  · intro h
    fun_induction dropBytes? n cs with
    | case1 => exact ⟨[], by simpa using h.symm, rfl⟩
    | case2 => cases h
    | case3 c cs => exact ⟨[], Option.some.inj h, rfl⟩
    | case4 n c cs hn hle ih =>
      obtain ⟨before, rfl, hlength⟩ := ih h
      exact ⟨c :: before, rfl, by rw [byteLength, hlength]; omega⟩
    | case5 => cases h
  · rintro ⟨before, rfl, rfl⟩
    exact dropBytes?_append before after

/-- What stands before a place. -/
theorem takeBytes?_eq_some_iff :
    takeBytes? n cs = some before ↔ ∃ after, cs = before ++ after ∧ byteLength before = n := by
  constructor
  · intro h
    -- a character is taken whole or not at all, so the cut falls between characters
    fun_induction takeBytes? n cs generalizing before with
    | case1 => exact ⟨[], by simpa using h.symm, by rw [← Option.some.inj h]; rfl⟩
    | case2 => cases h
    | case3 c cs =>
      exact ⟨c :: cs, by rw [← Option.some.inj h]; rfl, by rw [← Option.some.inj h]; rfl⟩
    | case4 n c cs hn hle ih =>
      obtain ⟨rest, hrest, rfl⟩ := Option.map_eq_some_iff.mp h
      obtain ⟨after, rfl, hlength⟩ := ih hrest
      exact ⟨after, rfl, by rw [byteLength, hlength]; omega⟩
    | case5 => cases h
  · rintro ⟨after, rfl, rfl⟩
    exact takeBytes?_append before after

private theorem isBoundary_iff :
    isBoundary n cs ↔ ∃ before after, cs = before ++ after ∧ byteLength before = n := by
  simp only [isBoundary, Option.isSome_iff_exists, dropBytes?_eq_some_iff]
  exact exists_comm

/-- A place between characters is not behind the text. -/
theorem le_byteLength_of_isBoundary (h : isBoundary n cs) : n ≤ byteLength cs := by
  obtain ⟨before, after, rfl, rfl⟩ := isBoundary_iff.mp h
  simp

/-- Bytes are counted as in the UTF-8 form of a string. -/
theorem byteLength_toList (s : String) : byteLength s.toList = s.utf8ByteSize := by
  have hencode : ∀ cs : List Char, byteLength cs = cs.utf8Encode.size := by
    intro cs
    induction cs with
    | nil => rfl
    | cons c cs ih =>
      rw [byteLength, ih, List.utf8Encode_cons, ByteArray.size_append, List.utf8Encode_singleton,
        List.size_toByteArray, String.length_utf8EncodeChar]
  rw [hencode, String.utf8Encode_toList]
  rfl

/-! ### Between two places -/

/-- What stands between two places, with what stands before and behind it. -/
theorem byteSlice?_eq_some_iff :
    byteSlice? a b cs = some mid ↔
      ∃ before after, cs = before ++ mid ++ after ∧ byteLength before = a ∧
        byteLength (before ++ mid) = b := by
  rw [byteSlice?]
  constructor
  · intro h
    split at h
    · next hle =>
      obtain ⟨rest, hrest, hmid⟩ := Option.bind_eq_some_iff.mp h
      obtain ⟨before, rfl, rfl⟩ := dropBytes?_eq_some_iff.mp hrest
      obtain ⟨after, rfl, hlength⟩ := takeBytes?_eq_some_iff.mp hmid
      exact ⟨before, after, (List.append_assoc _ _ _).symm, rfl, by rw [byteLength_append]; omega⟩
    · cases h
  · rintro ⟨before, after, rfl, rfl, rfl⟩
    rw [byteLength_append, if_pos (Nat.le_add_right _ _), List.append_assoc, dropBytes?_append,
      Option.bind_some, Nat.add_sub_cancel_left, takeBytes?_append]

/-- Of two beginnings of one text, the one with fewer bytes is the shorter one. -/
theorem prefix_of_byteLength_le {upto : List Char} (hbefore : before <+: cs) (hupto : upto <+: cs)
    (hle : byteLength before ≤ byteLength upto) : before <+: upto := by
  rcases List.prefix_or_prefix_of_prefix hbefore hupto with h | ⟨rest, rfl⟩
  · exact h
  · cases rest with
    | nil => simp
    | cons c rest =>
      have hpos : 0 < c.utf8Size := c.utf8Size_pos
      rw [byteLength_append, byteLength] at hle
      omega

/-- Two places between characters, in this order, have a piece of the text between them. -/
theorem exists_byteSlice? (ha : isBoundary a cs) (hb : isBoundary b cs) (hab : a ≤ b) :
    ∃ mid, byteSlice? a b cs = some mid := by
  obtain ⟨before, after, rfl, rfl⟩ := isBoundary_iff.mp ha
  obtain ⟨upto, rest, heq, rfl⟩ := isBoundary_iff.mp hb
  have hcut : before <+: upto :=
    prefix_of_byteLength_le (List.prefix_append before after)
      (heq ▸ List.prefix_append upto rest) hab
  obtain ⟨mid, rfl⟩ := hcut
  exact ⟨mid, byteSlice?_eq_some_iff.mpr ⟨before, rest, heq, rfl, rfl⟩⟩

/-- What stands between two places is part of what stands between two places around them. -/
theorem infix_of_byteSlice? {a' b' : Nat} {mid' : List Char} (h : byteSlice? a b cs = some mid)
    (h' : byteSlice? a' b' cs = some mid') (ha : a' ≤ a) (hb : b ≤ b') : mid <:+: mid' := by
  obtain ⟨before, after, rfl, rfl, rfl⟩ := byteSlice?_eq_some_iff.mp h
  obtain ⟨before', after', heq, rfl, rfl⟩ := byteSlice?_eq_some_iff.mp h'
  -- all four places cut the text, and the cuts come in the order of the places
  have hupto : before ++ mid <+: before ++ mid ++ after := List.prefix_append _ after
  have hupto' : before' ++ mid' <+: before ++ mid ++ after := heq ▸ List.prefix_append _ after'
  have hcut : before ++ mid <+: before' ++ mid' := prefix_of_byteLength_le hupto hupto' hb
  have hstart : before' <+: before :=
    prefix_of_byteLength_le ((List.prefix_append _ _).trans hupto')
      ((List.prefix_append _ _).trans hupto) ha
  obtain ⟨upto, rfl⟩ := hstart
  rw [List.append_assoc, List.prefix_append_right_inj] at hcut
  exact (List.suffix_append upto mid).isInfix.trans hcut.isInfix

/-! ### Line feeds -/

private theorem lineFeedsBefore_append (before after : List Char) :
    lineFeedsBefore (byteLength before) (before ++ after) = before.count '\n' := by
  induction before with
  | nil => cases after <;> simp [byteLength, lineFeedsBefore]
  | cons c before ih =>
    have hne : c.utf8Size + byteLength before ≠ 0 :=
      Nat.ne_of_gt (Nat.add_pos_left c.utf8Size_pos _)
    rw [byteLength, List.cons_append, lineFeedsBefore, if_neg hne, Nat.add_sub_cancel_left, ih,
      List.count_cons, Nat.add_comm]
    simp

/-- There are as many line feeds before two places just if there is none between them. -/
theorem lineFeedsBefore_eq_iff (h : byteSlice? a b cs = some mid) :
    lineFeedsBefore a cs = lineFeedsBefore b cs ↔ '\n' ∉ mid := by
  obtain ⟨before, after, rfl, rfl, rfl⟩ := byteSlice?_eq_some_iff.mp h
  have hfirst : lineFeedsBefore (byteLength before) (before ++ mid ++ after) =
      before.count '\n' := by
    rw [List.append_assoc]
    exact lineFeedsBefore_append before (mid ++ after)
  rw [hfirst, lineFeedsBefore_append, List.count_append, ← List.count_eq_zero]
  omega

end Excerpt.Text
