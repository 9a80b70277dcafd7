import Excerpt.Proofs.StrictScopes
import Mathlib.Logic.Relation

/-!
# Scopes as unions of their parts

Which nodes a rule is about depends on the tags of its scope as a set, and each tag comes from one
part. So two scopes with a separator between them make the scope of the union, and what keeps the
set of tags, such as another order of the parts or another spelling of a tag, keeps the nodes that
the rule is about (`Rule.applies_union_and_revised`).

What may be done with a part is said by one relation (`Respelled`): a letter may be put in the
other case, and blanks, hyphens and underscores may be added. What may be done with a list of
parts is said by another one (`PartsRevised`): parts may be put in another order, respelled or
repeated, and blank or unknown parts may be added. Tags are read from parts after such characters
have been dropped and letters have been made small, so a part that is respelled writes the same
tag.

The tags themselves are a list without repetitions, in the order in which they are met. None of
this matters here, for all statements are about which tags a list holds.

## Main results

* `Rule.tags_eq`: the tags of a scope, part by part.
* `exists_part_of_partsRevised`: a revision of the parts keeps the set of tags.
* `Rule.applies_union_and_revised`: a scope is the union of its parts.
-/

namespace Excerpt

open Text

/-! ### Spellings of a tag -/

/-- The second text is the first one with a letter in another case, or with a character more that
does not count. -/
inductive Respelled : List Char → List Char → Prop
  | recased {c d : Char} (before after : List Char) (h : c.toLower = d.toLower) :
    Respelled (before ++ c :: after) (before ++ d :: after)
  | padded {c : Char} (before after : List Char) (h : c = '_' ∨ c = '-' ∨ isBlank c = true) :
    Respelled (before ++ after) (before ++ c :: after)

namespace ScopeTag

variable {c d : Char} {p q : List Char}

/-- The normal form of a text is that of its parts. -/
@[simp]
theorem normalized_append (p q : List Char) :
    normalized (p ++ q) = normalized p ++ normalized q := by
  rw [normalized, List.filter_append, List.flatMap_append, ← normalized, ← normalized]

/-- Blanks, hyphens and underscores do not count in a tag. -/
private theorem normalized_singleton_of_padding (h : c = '_' ∨ c = '-' ∨ isBlank c = true) :
    normalized [c] = [] := by
  rcases h with rfl | rfl | h
  · rfl
  · rfl
  · simp [normalized, h]

private theorem normalized_of_blank (h : isBlankText p = true) : normalized p = [] := by
  have hnone : ∀ c ∈ p, ¬ (c != '_' && c != '-' && !isBlank c) = true := fun c hc => by
    simp [isBlankText_iff.1 h c hc]
  rw [normalized, List.filter_eq_nil_iff.2 hnone, List.flatMap_nil]

private theorem normalized_trim (p : List Char) : normalized (trim p) = normalized p := by
  obtain ⟨before, hbefore, hp⟩ := exists_eq_append_trimStart p
  obtain ⟨after, hafter, hstart⟩ := exists_eq_trimEnd_append (trimStart p)
  conv_rhs => rw [hp, hstart, normalized_append, normalized_append, normalized_of_blank hbefore,
    normalized_of_blank hafter, List.nil_append, List.append_nil]
  rw [trim]

/-- The character is a letter of the Latin alphabet. -/
private def IsLatin (c : Char) : Prop :=
  (65 ≤ c.toNat ∧ c.toNat ≤ 90) ∨ (97 ≤ c.toNat ∧ c.toNat ≤ 122)

private instance : DecidablePred IsLatin := fun c =>
  inferInstanceAs (Decidable ((65 ≤ c.toNat ∧ c.toNat ≤ 90) ∨ (97 ≤ c.toNat ∧ c.toNat ≤ 122)))

/-- Letters are kept, in lower case. -/
theorem normalized_singleton_of_isLatin (h : IsLatin c) : normalized [c] = [c.toLower] := by
  have hascii : c.toNat < 128 := by
    rcases h with h | h <;> omega
  have hblank : isBlank c = false := by
    simp only [isBlank]
    grind [IsLatin]
  have hline : c ≠ '_' := by
    rintro rfl
    exact absurd h (by decide)
  have hdash : c ≠ '-' := by
    rintro rfl
    exact absurd h (by decide)
  simp [normalized, hblank, hline, hdash, lowerChar, hascii]

/-- Two characters that differ in case only are letters. -/
theorem eq_or_isLatin_of_toLower_eq (h : c.toLower = d.toLower) :
    c = d ∨ (IsLatin c ∧ IsLatin d) := by
  have hcode := congrArg Char.toNat h
  rw [toNat_toLower, toNat_toLower] at hcode
  by_cases hsame : c.toNat = d.toNat
  · exact .inl (Char.toNat_inj.mp hsame)
  · -- one of them is a capital letter, and the other one comes 32 places after it
    refine .inr ?_
    unfold IsLatin
    split at hcode <;> split at hcode <;> omega

/-- A part that is respelled has the same normal form: letters that differ in case are letters of
ASCII, and all else is dropped. -/
private theorem normalized_eq_of_respelled (h : Respelled p q) : normalized p = normalized q := by
  cases h with
  | @recased c d before after h =>
    have hletter : normalized [c] = normalized [d] := by
      rcases eq_or_isLatin_of_toLower_eq h with rfl | ⟨hc, hd⟩
      · rfl
      · rw [normalized_singleton_of_isLatin hc, normalized_singleton_of_isLatin hd, h]
    rw [List.append_cons, List.append_cons before d]
    simp only [normalized_append, hletter]
  | @padded c before after h =>
    rw [List.append_cons]
    simp only [normalized_append, normalized_singleton_of_padding h, List.append_nil]

/-- A tag is told by the normal form of a text. -/
private theorem ofText?_congr (h : normalized p = normalized q) : ofText? p = ofText? q := by
  rw [ofText?, h, ← ofText?]

private theorem ofText?_trim (p : List Char) : ofText? (trim p) = ofText? p :=
  ofText?_congr (normalized_trim p)

private theorem ofText?_of_blank (h : isBlankText p = true) : ofText? p = none := by
  have hempty : ofText? [] = none := by decide
  rw [← hempty]
  exact ofText?_congr (normalized_of_blank h)

end ScopeTag

/-! ### The tags of the parts -/

/-- The second list of parts is the first one in another order, with one part respelled, or with
one part more that is there already, is unknown, or is blank. -/
inductive PartsRevised : List (List Char) → List (List Char) → Prop
  | reordered {ps qs : List (List Char)} (h : ps.Perm qs) : PartsRevised ps qs
  | respelled {p q : List Char} (before after : List (List Char)) (h : Respelled p q) :
    PartsRevised (before ++ p :: after) (before ++ q :: after)
  | repeated {p : List Char} (before after : List (List Char)) (h : p ∈ before ++ after) :
    PartsRevised (before ++ after) (before ++ p :: after)
  | unknown {p : List Char} (before after : List (List Char)) (h : IsUnknownPart p) :
    PartsRevised (before ++ after) (before ++ p :: after)
  | blank {p : List Char} (before after : List (List Char)) (h : isBlankText p = true) :
    PartsRevised (before ++ after) (before ++ p :: after)

namespace Rule

variable {r r' r₁ r₂ : Rule} {c : Char} {tag : ScopeTag} {k : Kind}

/-- The scope of the second rule is that of the first one with its parts revised, whatever
separates them. -/
def Revised (r r' : Rule) : Prop :=
  PartsRevised r.parts r'.parts

/-- Blanks around a part do not matter, and a blank part writes no tag. -/
theorem tags_eq (r : Rule) : r.tags = withoutRepeats (r.parts.filterMap ScopeTag.ofText?) := by
  have hskip : (r.parts.filter (!isBlankText ·)).filterMap ScopeTag.ofText? =
      r.parts.filterMap ScopeTag.ofText? := by
    rw [List.filterMap_filter]
    refine List.filterMap_congr fun part _ => ?_
    cases hblank : isBlankText part with
    | true => simp [ScopeTag.ofText?_of_blank hblank]
    | false => simp
  rw [tags_eq_scopeTags, scopeTags, scopeParts_eq, List.filterMap_map]
  simp only [Function.comp_def, ScopeTag.ofText?_trim, hskip]

/-- A rule has the tags that its parts write. -/
private theorem mem_tags_iff :
    tag ∈ r.tags ↔ ∃ part ∈ r.parts, ScopeTag.ofText? part = some tag := by
  rw [tags_eq, mem_withoutRepeats, List.mem_filterMap]

/-- No tag of a rule is listed twice. -/
private theorem nodup_tags (r : Rule) : r.tags.Nodup := by
  rw [tags_eq_scopeTags]
  exact nodup_withoutRepeats _

/-- A rule is about the nodes that one of its tags covers. -/
private theorem applies_iff : r.applies k = true ↔ ∃ tag ∈ r.tags, tag.covers k = true := by
  rw [applies, List.any_eq_true]

/-- Two scopes with a separator between them have the parts of both. -/
private theorem parts_of_joined (hc : c = ',' ∨ c = ';' ∨ c = '|')
    (h : r.scope = r₁.scope ++ c.toString ++ r₂.scope) :
    r.parts = r₁.parts ++ r₂.parts := by
  have htext : r.scope.toList = r₁.scope.toList ++ c :: r₂.scope.toList := by
    simp [h]
  rw [parts, htext, List.splitOnP_append_cons _ _ (by simpa using hc), ← parts, ← parts]

/-- Two scopes with a separator between them have the tags of the first and then those of the
second that are new. -/
private theorem tags_of_joined (hc : c = ',' ∨ c = ';' ∨ c = '|')
    (h : r.scope = r₁.scope ++ c.toString ++ r₂.scope) :
    r.tags = r₁.tags ++ r₂.tags.filter (· ∉ r₁.tags) := by
  rw [tags_eq r, parts_of_joined hc h, List.filterMap_append, withoutRepeats_append,
    ← tags_eq, ← tags_eq]

/-- A revision of the parts keeps the set of tags. -/
theorem exists_part_of_partsRevised {ps qs : List (List Char)} (h : PartsRevised ps qs)
    (tag : ScopeTag) :
    (∃ part ∈ ps, ScopeTag.ofText? part = some tag) ↔
      ∃ part ∈ qs, ScopeTag.ofText? part = some tag := by
  -- a part that writes no tag may be added anywhere
  have hadded : ∀ (before after : List (List Char)) (p : List Char), ScopeTag.ofText? p = none →
      ((∃ part ∈ before ++ after, ScopeTag.ofText? part = some tag) ↔
        ∃ part ∈ before ++ p :: after, ScopeTag.ofText? part = some tag) := by
    intro before after p hp
    simp [or_and_right, exists_or, hp]
  cases h with
  | reordered h => simp only [h.mem_iff]
  | @respelled p q before after h =>
    have hsame := ScopeTag.ofText?_congr (ScopeTag.normalized_eq_of_respelled h)
    simp [or_and_right, exists_or, hsame]
  | @repeated p before after h =>
    refine exists_congr fun part => and_congr_left fun _ => ?_
    simp only [List.mem_append, List.mem_cons] at h ⊢
    grind
  | @unknown p before after h => exact hadded before after p (ScopeTag.ofText?_trim p ▸ h.2)
  | @blank p before after h => exact hadded before after p (ScopeTag.ofText?_of_blank h)

/-- Any number of revisions, forwards and backwards, keeps the set of tags. -/
private theorem mem_tags_iff_of_eqvGen (h : Relation.EqvGen Revised r r') (tag : ScopeTag) :
    tag ∈ r.tags ↔ tag ∈ r'.tags := by
  induction h with
  | rel r r' h => rw [mem_tags_iff, mem_tags_iff, exists_part_of_partsRevised h]
  | refl r => rfl
  | symm r r' _ ih => exact ih.symm
  | trans r r' r'' _ _ ih ih' => exact ih.trans ih'

/-- **A scope is the union of its parts.** A rule is about the nodes that one of its tags covers.
The tags of two scopes with a separator between them are those of the first scope and then those
of the second one that are not among them, each once, so the rule is about the nodes that a rule
with one of the scopes is about. Which nodes a rule is about does not change when the parts of its
scope are put in another order, written again, or separated otherwise, when letters change their
case, when underscores, dashes and blanks are written in a part, or when unknown or blank parts
are added or left out, any number of times. -/
theorem applies_union_and_revised :
    (∀ (r : Rule) (k : Kind), r.applies k = true ↔ ∃ tag ∈ r.tags, tag.covers k = true) ∧
    (∀ (r r₁ r₂ : Rule) (c : Char), c = ',' ∨ c = ';' ∨ c = '|' →
      r.scope = r₁.scope ++ c.toString ++ r₂.scope →
      r.tags = r₁.tags ++ r₂.tags.filter (· ∉ r₁.tags) ∧ r.tags.Nodup ∧
      ∀ k, r.applies k = true ↔ r₁.applies k = true ∨ r₂.applies k = true) ∧
    ∀ r r' : Rule, Relation.EqvGen Revised r r' → ∀ k, r.applies k = true ↔
        r'.applies k = true := by
  refine ⟨fun r k => applies_iff,
    fun r r₁ r₂ c hc h => ⟨tags_of_joined hc h, nodup_tags r, fun k => ?_⟩, fun r r' h k => ?_⟩
  · have hmem : ∀ tag, tag ∈ r.tags ↔ tag ∈ r₁.tags ∨ tag ∈ r₂.tags := fun tag => by
      simp only [mem_tags_iff, parts_of_joined hc h, List.mem_append, or_and_right, exists_or]
    simp only [applies_iff, hmem, or_and_right, exists_or]
  · simp only [applies_iff, mem_tags_iff_of_eqvGen h]

/-- A rule with the scope. -/
def ofScope (scope : String) : Rule := { id := "R-1", scope := scope }

/-- A scope whose second half repeats a tag, and a scope that is revised in each way. -/
theorem applies_ofScope :
    (ofScope "JAVADOC,x;class javadoc | JavaDoc").tags = (ofScope "JAVADOC,x").tags ++
      (ofScope "class javadoc | JavaDoc").tags.filter (· ∉ (ofScope "JAVADOC,x").tags) ∧
    (ofScope "JAVADOC,x").tags = [.javadoc] ∧
      (ofScope "class javadoc | JavaDoc").tags = [.classJavadoc, .javadoc] ∧
    ∀ k, (ofScope "JAVADOC,x").applies k = true ↔
        (ofScope "|x,y,JAVa-DOC|JAVADOC").applies k = true := by
  have hreordered : Revised (ofScope "JAVADOC,x") (ofScope "x;JAVADOC") := .reordered (by decide)
  have hrepeated : Revised (ofScope "x;JAVADOC") (ofScope "x,JAVADOC|JAVADOC") :=
    .repeated [['x']] ["JAVADOC".toList] (List.mem_append_right _ List.mem_cons_self)
  have hrecased : Revised (ofScope "x,JAVADOC|JAVADOC") (ofScope "x,JAVaDOC|JAVADOC") :=
    .respelled [['x']] ["JAVADOC".toList] (.recased "JAV".toList "DOC".toList (by decide))
  have hpadded : Revised (ofScope "x,JAVaDOC|JAVADOC") (ofScope "x,JAVa-DOC|JAVADOC") :=
    .respelled [['x']] ["JAVADOC".toList] (.padded "JAVa".toList "DOC".toList (by decide))
  have hunknown : Revised (ofScope "x,JAVa-DOC|JAVADOC") (ofScope "x,y,JAVa-DOC|JAVADOC") :=
    .unknown [['x']] ["JAVa-DOC".toList, "JAVADOC".toList] (by decide : IsUnknownPart ['y'])
  have hblank : Revised (ofScope "x,y,JAVa-DOC|JAVADOC") (ofScope "|x,y,JAVa-DOC|JAVADOC") :=
    .blank [] [['x'], ['y'], "JAVa-DOC".toList,
      "JAVADOC".toList] (by decide : isBlankText [] = true)
  have hchain : Relation.EqvGen Revised (ofScope "JAVADOC,x") (ofScope "|x,y,JAVa-DOC|JAVADOC") :=
    .trans _ _ _ (.rel _ _ hreordered) <| .trans _ _ _ (.rel _ _ hrepeated) <|
      .trans _ _ _ (.rel _ _ hrecased) <|
      .trans _ _ _ (.rel _ _ hpadded) <| .trans _ _ _ (.rel _ _ hunknown) (.rel _ _ hblank)
  obtain ⟨-, hunion, hrevised⟩ := applies_union_and_revised
  exact ⟨(hunion _ _ _ ';' (by decide) (by decide)).1, by decide, by decide, hrevised _ _ hchain⟩

end Rule

end Excerpt
