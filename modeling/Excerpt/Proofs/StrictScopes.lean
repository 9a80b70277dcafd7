import Excerpt.Proofs.Bindings
import Excerpt.Proofs.ScopeTags

/-!
# Strict scopes

A strict rule set is checked twice: when it is loaded, for parts of scopes that are no tags, and
when it is used, for scopes without any tag. Together the two checks accept a rule set just if
each scope has a part that is not blank and all such parts are tags. Otherwise they name the first
rule that is at fault, where a part that is no tag counts before a scope of blank parts
(`RuleSet.checkScopes_validate_exact`). So a rule that comes later may be named before an earlier
one.

The first check is also about bindings and about patterns, and it stops at the first error of any
sort. The theorem is about rule sets whose bindings and patterns are valid, whatever the notation
for patterns is, so that scopes are all that is left to check (`validate_eq`).

The two checks are compared rule by rule. The second one is for scopes without tags, which have
unknown parts or blank ones only; if the first check has passed, there are no unknown parts
(`Rule.tags_eq_nil_iff_of_known`).

## Main results

* `findSome?_scopeError?_eq_some_iff`: what the first check names.
* `findSome?_emptyScopeError?_eq_some_iff`: what the second check names.
* `RuleSet.checkScopes_validate_exact`: strict scopes are checked exactly.
-/

namespace Excerpt

open Text

/-- The first element of the list with a property. -/
def IsFirst {α : Type} (P : α → Prop) (xs : List α) (x : α) : Prop :=
  ∃ before after, xs = before ++ x :: after ∧ P x ∧ ∀ y ∈ before, ¬ P y

/-- A search through a list finds the first element with the property. -/
theorem find?_eq_some_iff_isFirst {α : Type} {P : α → Prop} [DecidablePred P]
    {xs : List α} {x : α} :
    xs.find? (P ·) = some x ↔ IsFirst P xs x := by
  rw [List.find?_eq_some_iff_append, IsFirst]
  constructor
  · rintro ⟨hx, before, after, hxs, hbefore⟩
    exact ⟨before, after, hxs, of_decide_eq_true hx, fun y hy => by simpa using hbefore y hy⟩
  · rintro ⟨before, after, hxs, hx, hbefore⟩
    exact ⟨decide_eq_true hx, before, after, hxs, fun y hy => by simpa using hbefore y hy⟩

/-! ### The two checks -/

namespace RuleSet

variable {set : RuleSet} {known : List String} {r : Rule} {rules : List Rule} {e : RuleError}

private theorem scopeError?_eq_some_iff : scopeError? r = some e ↔
    ∃ part, IsFirst IsUnknownPart r.parts part ∧
      e = .unknownScope r.id (String.ofList (trim part)) := by
  rw [scopeError?, Rule.unknownTags_eq, List.head?_map, List.head?_filter, Option.map_map,
    Option.map_eq_some_iff]
  refine exists_congr fun part => and_congr find?_eq_some_iff_isFirst ?_
  exact eq_comm

private theorem scopeError?_eq_none_iff :
    scopeError? r = none ↔ ∀ part ∈ r.parts, ¬ IsUnknownPart part := by
  rw [scopeError?, Option.map_eq_none_iff, List.head?_eq_none_iff, Rule.unknownTags_eq,
    List.map_eq_nil_iff, List.filter_eq_nil_iff]
  simp only [decide_eq_true_iff]

private theorem emptyScopeError?_eq_some_iff :
    emptyScopeError? r = some e ↔ r.tags = [] ∧ e = .unknownScope r.id r.scope := by
  rw [emptyScopeError?, Option.ite_none_right_eq_some, List.isEmpty_iff, Option.some.injEq]
  exact and_congr_right fun _ => eq_comm

/-- The second check passes a rule just if it has a tag. -/
theorem emptyScopeError?_eq_none_iff : emptyScopeError? r = none ↔ r.tags ≠ [] := by
  rw [emptyScopeError?, ite_eq_right_iff, List.isEmpty_iff]
  exact forall_congr' fun _ => iff_of_false (Option.some_ne_none _) id

/-- The first check names the first rule with an unknown part, and its first one. -/
theorem findSome?_scopeError?_eq_some_iff : rules.findSome? scopeError? = some e ↔
    ∃ r part, IsFirst (fun r => ∃ part ∈ r.parts, IsUnknownPart part) rules r ∧
      IsFirst IsUnknownPart r.parts part ∧ e = .unknownScope r.id (String.ofList (trim part)) := by
  have hnone : ∀ r, scopeError? r = none ↔ ¬ ∃ part ∈ r.parts, IsUnknownPart part := fun r => by
    rw [scopeError?_eq_none_iff]
    simp
  rw [List.findSome?_eq_some_iff]
  constructor
  · rintro ⟨before, r, after, hrules, hr, hbefore⟩
    obtain ⟨part, hpart, he⟩ := scopeError?_eq_some_iff.1 hr
    have hhas : ∃ part ∈ r.parts, IsUnknownPart part := not_not.1 fun hno => by
      rw [(hnone r).2 hno] at hr
      cases hr
    exact ⟨r, part, ⟨before, after, hrules, hhas, fun q hq => (hnone q).1 (hbefore q hq)⟩, hpart,
      he⟩
  · rintro ⟨r, part, ⟨before, after, hrules, -, hbefore⟩, hpart, he⟩
    exact ⟨before, r, after, hrules, scopeError?_eq_some_iff.2 ⟨part, hpart, he⟩,
      fun q hq => (hnone q).2 (hbefore q hq)⟩

private theorem findSome?_scopeError?_eq_none_iff : rules.findSome? scopeError? = none ↔
    ∀ r ∈ rules, ∀ part ∈ r.parts, ¬ IsUnknownPart part := by
  rw [List.findSome?_eq_none_iff]
  exact forall₂_congr fun r _ => scopeError?_eq_none_iff

/-- If there are no unknown parts, the second check names the first rule with blank parts only. -/
theorem findSome?_emptyScopeError?_eq_some_iff
    (h : ∀ r ∈ rules, ∀ part ∈ r.parts, ¬ IsUnknownPart part) :
    rules.findSome? emptyScopeError? = some e ↔
      ∃ r, IsFirst (fun r => ∀ part ∈ r.parts, isBlankText part = true) rules r ∧
        e = .unknownScope r.id r.scope := by
  rw [List.findSome?_eq_some_iff]
  constructor
  · rintro ⟨before, r, after, hrules, hr, hbefore⟩
    obtain ⟨htags, he⟩ := emptyScopeError?_eq_some_iff.1 hr
    refine ⟨r, ⟨before, after, hrules, ?_, fun q hq hblank => ?_⟩, he⟩
    · exact (Rule.tags_eq_nil_iff_of_known (h r (by simp [hrules]))).1 htags
    · have htags := (Rule.tags_eq_nil_iff_of_known (h q (by simp [hrules, hq]))).2 hblank
      exact emptyScopeError?_eq_none_iff.1 (hbefore q hq) htags
  · rintro ⟨r, ⟨before, after, hrules, hblank, hbefore⟩, he⟩
    refine ⟨before, r, after, hrules, emptyScopeError?_eq_some_iff.2 ⟨?_, he⟩, fun q hq => ?_⟩
    · exact (Rule.tags_eq_nil_iff_of_known (h r (by simp [hrules]))).2 hblank
    · refine emptyScopeError?_eq_none_iff.2 fun htags => hbefore q hq ?_
      exact (Rule.tags_eq_nil_iff_of_known (h q (by simp [hrules, hq]))).1 htags

private theorem checkScopes_eq (hstrict : set.settings.strictScopes = true) :
    set.checkScopes = (set.rules.findSome? scopeError?).elim (.ok set) .error := by
  rw [checkScopes, if_pos hstrict]
  cases set.rules.findSome? scopeError? <;> rfl

private theorem checkScopes_of_lenient (hlenient : set.settings.strictScopes = false) :
    set.checkScopes = .ok set := by
  rw [checkScopes, if_neg (by simp [hlenient])]

/-- A list passes a check just if all its elements do. -/
theorem firstError_eq_ok_iff {α ε : Type} {check : α → Option ε} {xs : List α} :
    firstError check xs = .ok () ↔ ∀ x ∈ xs, check x = none := by
  rw [firstError, ← List.findSome?_eq_none_iff]
  cases xs.findSome? check <;> simp

section Patterns

variable [PathPatterns]

/-- A pattern passes the check just if it is valid. -/
theorem patternError?_eq_none_iff {pattern : String} :
    patternError? pattern = none ↔ ∃ covers, PathPatterns.compile pattern = .ok covers := by
  rw [patternError?]
  cases PathPatterns.compile pattern <;> simp

/-- With valid bindings and patterns, only the scopes of a strict rule set are left to check. -/
theorem validate_eq (hbindings : ∀ b ∈ set.settings.bindings.entries, ∀ name ∈ b.2, name ∈ known)
    (hpatterns : ∀ pattern ∈ set.settings.excludedPaths, ∃ covers, PathPatterns.compile pattern =
      .ok covers) :
    set.validate known = if set.settings.strictScopes then firstError emptyScopeError? set.rules
        else .ok () := by
  have hnames : firstError (bindingError? known) set.settings.bindings.entries = .ok () :=
    firstError_eq_ok_iff.2 fun b hb => bindingError?_eq_none_iff.2 (hbindings b hb)
  have hglobs : firstError patternError? set.settings.excludedPaths = .ok () :=
    firstError_eq_ok_iff.2 fun pattern h => patternError?_eq_none_iff.2 (hpatterns pattern h)
  rw [validate, hnames, hglobs]
  rfl

private theorem validate_ne_unknownScope (hlenient : set.settings.strictScopes = false)
    (known : List String) (rule tag : String) :
    set.validate known ≠ .error (.unknownScope rule tag) := by
  rw [validate, Ne, seq_eq_error_iff, seq_eq_error_iff, if_neg (by simp [hlenient])]
  rintro (h | ⟨-, h | ⟨-, h⟩⟩)
  · obtain ⟨b, -, hb⟩ := exists_of_firstError h
    obtain ⟨name, -, hname⟩ := Option.map_eq_some_iff.1 hb
    cases hname
  · obtain ⟨pattern, -, hpattern⟩ := exists_of_firstError h
    rw [patternError?] at hpattern
    split at hpattern <;> cases hpattern
  · cases h

private theorem checkScopes_bind_validate (hstrict : set.settings.strictScopes = true)
    (hbindings : ∀ b ∈ set.settings.bindings.entries, ∀ name ∈ b.2, name ∈ known)
    (hpatterns : ∀ pattern ∈ set.settings.excludedPaths, ∃ covers, PathPatterns.compile pattern =
      .ok covers) :
    (set.checkScopes >>= fun checked => checked.validate known) =
      (set.rules.findSome? scopeError?).elim (firstError emptyScopeError? set.rules) .error := by
  have hvalidate := validate_eq hbindings hpatterns
  rw [if_pos hstrict] at hvalidate
  rw [checkScopes_eq hstrict, ← hvalidate]
  cases set.rules.findSome? scopeError? <;> rfl

/-- **Strict scopes are checked exactly.** Let the bindings and the patterns of a rule set be
valid. If it is strict, it passes both checks just if each scope has a part that is not blank and
all such parts write tags. Otherwise the error names the first rule with an unknown part and this
part, the first one of the scope, or, if there is no unknown part in any scope, the first rule
with blank parts only and its scope. No scope is an error in a rule set that is not strict. -/
theorem checkScopes_validate_exact (set : RuleSet) (known : List String) :
    (set.settings.strictScopes = true →
      (∀ b ∈ set.settings.bindings.entries, ∀ name ∈ b.2, name ∈ known) →
      (∀ pattern ∈ set.settings.excludedPaths, ∃ covers, PathPatterns.compile pattern =
        .ok covers) →
      ((set.checkScopes >>= fun checked => checked.validate known) = .ok () ↔
        ∀ r ∈ set.rules, r.HasKnownScope) ∧
      ∀ e, (set.checkScopes >>= fun checked => checked.validate known) = .error e ↔
        (∃ r part, IsFirst (fun r => ∃ part ∈ r.parts, IsUnknownPart part) set.rules r ∧
          IsFirst IsUnknownPart r.parts part ∧ e = .unknownScope r.id (String.ofList (trim part))) ∨
        ((∀ r ∈ set.rules, ∀ part ∈ r.parts, ¬ IsUnknownPart part) ∧
          ∃ r, IsFirst (fun r => ∀ part ∈ r.parts, isBlankText part = true) set.rules r ∧
            e = .unknownScope r.id r.scope)) ∧
    (set.settings.strictScopes = false →
      ∀ rule tag, set.checkScopes ≠ .error (.unknownScope rule tag) ∧
      set.validate known ≠ .error (.unknownScope rule tag)) := by
  refine ⟨fun hstrict hbindings hpatterns => ?_, fun hlenient rule tag => ⟨?_, ?_⟩⟩
  · rw [checkScopes_bind_validate hstrict hbindings hpatterns]
    cases hfirst : set.rules.findSome? scopeError? with
    | some err =>
      -- The first check fails: some part is unknown, and which one is settled.
      have hunknown : ¬ ∀ r ∈ set.rules, ∀ part ∈ r.parts, ¬ IsUnknownPart part := by
        rw [← findSome?_scopeError?_eq_none_iff, hfirst]
        exact nofun
      refine ⟨iff_of_false nofun fun hknown => hunknown fun r hr =>
        (Rule.hasKnownScope_iff.1 (hknown r hr)).1, ?_⟩
      intro e
      rw [← findSome?_scopeError?_eq_some_iff, hfirst, or_iff_left fun h => hunknown h.1,
        Option.elim_some, Except.error.injEq, Option.some.injEq]
    | none =>
      have hnone := findSome?_scopeError?_eq_none_iff.1 hfirst
      refine ⟨?_, fun e => ?_⟩
      · rw [Option.elim_none, firstError_eq_ok_iff]
        refine forall₂_congr fun r hr => ?_
        rw [emptyScopeError?_eq_none_iff, Rule.hasKnownScope_iff, and_iff_right (hnone r hr)]
      · rw [← findSome?_scopeError?_eq_some_iff, hfirst, or_iff_right nofun, and_iff_right hnone,
          ← findSome?_emptyScopeError?_eq_some_iff hnone, Option.elim_none, firstError_eq_error_iff]
  · rw [checkScopes_of_lenient hlenient]
    exact nofun
  · exact validate_ne_unknownScope hlenient known rule tag

end Patterns

/-- A strict rule set with a binding and a pattern. -/
def strictSet (rules : List Rule) : RuleSet where
  rules := rules
  settings :=
    { strictScopes := true, bindings := .ofList [("R-1", ["naming"])],
      excludedPaths := ["**/gen/*"] }

/-- The unknown part of the last scope is named before the blank scope in front of it, and not at
all without strict scopes. -/
theorem checkScopes_validate_strictSet :
    let tagged : Rule := { id := "R-1", scope := "class-declaration; |METHOD_DECLARATION" }
    let blank : Rule := { id := "R-2", scope := " | ," }
    let package : Rule := { id := "R-3", scope := "JAVADOC, PACKAGE ,x" }
    let load := fun rules => (strictSet rules).checkScopes >>= fun checked =>
      checked.validate ["naming"]
    load [tagged] = .ok () ∧ load [tagged, blank] = .error (.unknownScope "R-2" " | ,") ∧
      load [tagged, blank, package] = .error (.unknownScope "R-3" "PACKAGE") ∧
      ∀ rule tag, checkScopes { rules := [package] } ≠ .error (.unknownScope rule tag) := by
  intro tagged blank package load
  have hbindings : ∀ b ∈ (Bindings.ofList [("R-1", ["naming"])]).entries,
      ∀ name ∈ b.2, name ∈ ["naming"] := by
    decide
  have hexact := fun rules =>
    (checkScopes_validate_exact (strictSet rules) ["naming"]).1 rfl hbindings
    (List.forall_mem_singleton.2 ⟨_, rfl⟩)
  refine ⟨(hexact _).1.2 ?_, ((hexact _).2 _).2 (.inr ⟨by decide, blank, ?_, rfl⟩),
    ((hexact _).2 _).2 (.inl ⟨package, " PACKAGE ".toList, ?_, ?_, by decide⟩),
    fun rule tag => ((checkScopes_validate_exact { rules := [package] } []).2 rfl rule tag).1⟩
  · exact List.forall_mem_singleton.2 (Rule.hasKnownScope_iff.2 ⟨by decide, by decide⟩)
  · exact ⟨[tagged], [], rfl, by decide, by decide⟩
  · exact ⟨[tagged, blank], [], rfl, by decide, by decide⟩
  · exact ⟨["JAVADOC".toList], [['x']], by decide, by decide, by decide⟩

end RuleSet

end Excerpt
