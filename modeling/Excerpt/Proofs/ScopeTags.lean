import Excerpt.Proofs.Lines
import Excerpt.Rule.Basic
import Mathlib.Data.List.Induction
import Mathlib.Data.List.Nodup

/-!
# The tags of a scope

A scope is read by a loop over its parts that adds a tag when it is met for the first time and
keeps apart what is no tag (`ScopeReading.add`). This module says what the loop computes, so that
nothing else has to follow it: the tags of a scope are what its parts write, without repetitions,
and what is kept apart are the parts that are neither blank nor tags, in order
(`ScopeReading.ofScope_eq`).

The two lists are made from `scopeParts`, the parts that are not blank. The checks of a rule set
speak of all that stands between the separators instead (`Rule.parts`), because a scope without
any tag is wrong in another way if all of its parts are blank than if one of them is unknown.

## Main results

* `withoutRepeats_append`: a list after another one adds what is not in that one yet.
* `ScopeReading.ofScope_eq`: what the loop over the parts of a scope finds.
* `Rule.unknownTags_eq`, `Rule.tags_eq_nil_iff`: what a rule finds, in terms of `Rule.parts`.
-/

namespace Excerpt

open Text

/-! ### Elements without repetitions -/

/-- The elements of a list, without those that occur before. -/
def withoutRepeats {α : Type} [DecidableEq α] (xs : List α) : List α :=
  xs.foldl (fun seen x => if x ∈ seen then seen else seen ++ [x]) []

section WithoutRepeats

variable {α : Type} [DecidableEq α]

/-- No element is lost. -/
theorem mem_withoutRepeats {xs : List α} {x : α} : x ∈ withoutRepeats xs ↔ x ∈ xs := by
  have hseen : ∀ seen : List α,
      x ∈ xs.foldl (fun seen y => if y ∈ seen then seen else seen ++ [y]) seen ↔
        x ∈ seen ∨ x ∈ xs := by
    induction xs with
    | nil => simp
    | cons y xs ih =>
      intro seen
      rw [List.foldl_cons, ih]
      split
      · next hy =>
        have hseen : x ∈ seen ∨ x = y ↔ x ∈ seen := or_iff_left_of_imp fun heq => heq ▸ hy
        rw [List.mem_cons, ← or_assoc, hseen]
      · rw [List.mem_append, List.mem_singleton, or_assoc, List.mem_cons]
  rw [withoutRepeats, hseen, or_iff_right List.not_mem_nil]

/-- One more element is added, unless it is there already. -/
theorem withoutRepeats_concat (xs : List α) (x : α) :
    withoutRepeats (xs ++ [x]) =
      if x ∈ xs then withoutRepeats xs else withoutRepeats xs ++ [x] := by
  rw [withoutRepeats, List.foldl_append, List.foldl_cons, List.foldl_nil, ← withoutRepeats]
  simp only [mem_withoutRepeats]

/-- No element occurs twice. -/
theorem nodup_withoutRepeats (xs : List α) : (withoutRepeats xs).Nodup := by
  induction xs using List.reverseRecOn with
  | nil => exact List.nodup_nil
  | append_singleton xs x ih =>
    rw [withoutRepeats_concat]
    split
    · exact ih
    · next hx => exact List.concat_eq_append ▸ ih.concat (mt mem_withoutRepeats.1 hx)

/-- The elements of the second list follow, except those of the first one. -/
theorem withoutRepeats_append (xs ys : List α) :
    withoutRepeats (xs ++ ys) =
      withoutRepeats xs ++ (withoutRepeats ys).filter (· ∉ withoutRepeats xs) := by
  induction ys using List.reverseRecOn with
  | nil => simp [withoutRepeats]
  | append_singleton ys y ih =>
    rw [← List.append_assoc, withoutRepeats_concat, withoutRepeats_concat, ih]
    by_cases hys : y ∈ ys
    · simp [hys]
    · by_cases hxs : y ∈ xs <;> simp [hxs, hys, mem_withoutRepeats]

end WithoutRepeats

/-! ### What the loop finds -/

/-- The parts of a scope that are not blank, without the blanks around them. -/
def scopeParts (scope : List Char) : List (List Char) :=
  ((pieces isScopeSeparator scope).map trim).filter (!·.isEmpty)

/-- The tags that the parts of a scope write, each once. -/
def scopeTags (scope : List Char) : List ScopeTag :=
  withoutRepeats ((scopeParts scope).filterMap ScopeTag.ofText?)

/-- The parts of a scope that are neither blank nor tags. -/
def unknownParts (scope : List Char) : List (List Char) :=
  (scopeParts scope).filter fun part => (ScopeTag.ofText? part).isNone

namespace ScopeReading

/-- What is found in texts without blanks around them that are not empty. -/
private def found (texts : List (List Char)) : ScopeReading where
  tags := withoutRepeats (texts.filterMap ScopeTag.ofText?)
  unknown := texts.filter fun text => (ScopeTag.ofText? text).isNone

/-- One step of the loop. The tags found so far are those of the parts read so far, so looking for
a tag among them is looking for it among the tags of these parts. -/
private theorem add_found (texts : List (List Char)) (part : List Char) :
    (found texts).add part = found (texts ++ if (trim part).isEmpty then [] else [trim part]) := by
  rw [add]
  split
  · rw [List.append_nil]
  · cases htag : ScopeTag.ofText? (trim part) with
    | none => simp [found, htag]
    | some tag =>
      simp only [found, List.filterMap_append, List.filter_append, mem_withoutRepeats]
      split <;> simp_all [withoutRepeats_concat]

/-- **What a scope is read as**: the tags of its parts without repetitions, and the parts that are
neither blank nor tags. -/
theorem ofScope_eq (scope : List Char) : ofScope scope = ⟨scopeTags scope, unknownParts scope⟩ := by
  have hloop : ∀ parts : List (List Char),
      parts.foldl add {} = found ((parts.map trim).filter (!·.isEmpty)) := by
    intro parts
    induction parts using List.reverseRecOn with
    | nil => rfl
    | append_singleton parts part ih =>
      rw [List.foldl_append, ih, List.foldl_cons, List.foldl_nil, add_found, List.map_append,
        List.filter_append]
      cases hempty : (trim part).isEmpty <;> simp [hempty]
  exact hloop (pieces isScopeSeparator scope)

end ScopeReading

/-! ### What stands between the separators -/

/-- A part that is not blank and writes no tag. -/
def IsUnknownPart (part : List Char) : Prop :=
  isBlankText part = false ∧ ScopeTag.ofText? (trim part) = none

instance : DecidablePred IsUnknownPart := fun part =>
  inferInstanceAs (Decidable (isBlankText part = false ∧ ScopeTag.ofText? (trim part) = none))

namespace Rule

variable {r : Rule}

/-- What stands between the separators of the scope. -/
def parts (r : Rule) : List (List Char) :=
  r.scope.toList.splitOnP fun c => c = ',' ∨ c = ';' ∨ c = '|'

/-- Some part of the scope is not blank, and every such part writes a tag. -/
def HasKnownScope (r : Rule) : Prop :=
  (∃ part ∈ r.parts, isBlankText part = false) ∧
  ∀ part ∈ r.parts, isBlankText part = false → ∃ tag, ScopeTag.ofText? (trim part) = some tag

/-- The tags of a rule are those of its scope. -/
theorem tags_eq_scopeTags (r : Rule) : r.tags = scopeTags r.scope.toList := by
  rw [tags, ScopeReading.ofScope_eq]

/-- The parts that are not blank are among those between the separators. -/
theorem scopeParts_eq (r : Rule) :
    scopeParts r.scope.toList = (r.parts.filter (!isBlankText ·)).map trim := by
  have hsep : isScopeSeparator = fun c => decide (c = ',' ∨ c = ';' ∨ c = '|') := by
    funext c
    rw [Bool.eq_iff_iff]
    simp [isScopeSeparator, or_assoc]
  have htrim : (fun part : List Char => !part.isEmpty) ∘ trim = (!isBlankText ·) := by
    funext part
    rw [Function.comp_apply, ← Bool.eq_iff_iff.2 (List.isEmpty_iff.trans trim_eq_nil_iff)]
  rw [scopeParts, pieces_eq_splitOnP, hsep, List.filter_map, htrim, parts]

/-- The parts that are kept apart are the unknown ones, in the order in which they stand. -/
theorem unknownTags_eq (r : Rule) :
    r.unknownTags =
      (r.parts.filter (IsUnknownPart ·)).map fun part => String.ofList (trim part) := by
  have hunknown : ∀ part : List Char,
      ((ScopeTag.ofText? (trim part)).isNone && !isBlankText part) =
        decide (IsUnknownPart part) := by
    intro part
    rw [Bool.eq_iff_iff, decide_eq_true_iff, IsUnknownPart]
    simp [and_comm]
  rw [unknownTags, ScopeReading.ofScope_eq, unknownParts, scopeParts_eq, List.filter_map,
    List.filter_filter, List.map_map]
  simp only [Function.comp_def, hunknown]

/-- A scope has no tags just if all its parts are blank or unknown. -/
theorem tags_eq_nil_iff :
    r.tags = [] ↔ ∀ part ∈ r.parts, isBlankText part = false → IsUnknownPart part := by
  have hnone : r.tags = [] ↔
      ∀ part ∈ scopeParts r.scope.toList, ScopeTag.ofText? part = none := by
    rw [tags_eq_scopeTags, scopeTags, List.eq_nil_iff_forall_not_mem]
    simp only [mem_withoutRepeats]
    rw [← List.eq_nil_iff_forall_not_mem, List.filterMap_eq_nil_iff]
  rw [hnone, scopeParts_eq, List.forall_mem_map]
  simp only [List.mem_filter, Bool.not_eq_true', and_imp, IsUnknownPart]
  exact forall₃_congr fun part _ hblank => (and_iff_right hblank).symm

/-- Where all parts that are not blank write tags, a scope without tags has blank parts only. -/
theorem tags_eq_nil_iff_of_known (h : ∀ part ∈ r.parts, ¬ IsUnknownPart part) :
    r.tags = [] ↔ ∀ part ∈ r.parts, isBlankText part = true := by
  rw [tags_eq_nil_iff]
  refine forall₂_congr fun part hpart => ?_
  rw [imp_iff_not (h part hpart), Bool.not_eq_false]

/-- The two checks of a scope, for unknown parts and for tags, together. -/
theorem hasKnownScope_iff :
    r.HasKnownScope ↔ (∀ part ∈ r.parts, ¬ IsUnknownPart part) ∧ r.tags ≠ [] := by
  have hknown :
      (∀ part ∈ r.parts, isBlankText part = false →
        ∃ tag, ScopeTag.ofText? (trim part) = some tag) ↔
      ∀ part ∈ r.parts, ¬ IsUnknownPart part := by
    refine forall₂_congr fun part _ => ?_
    rw [IsUnknownPart, not_and, ← Option.ne_none_iff_exists']
  rw [HasKnownScope, hknown, and_comm]
  refine and_congr_right fun h => ?_
  rw [Ne, tags_eq_nil_iff_of_known h]
  simp

end Rule

end Excerpt
