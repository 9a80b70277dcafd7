import Excerpt.Proofs.Registry
import Excerpt.Scan.Run

/-!
# Bindings of settings

The registry of settings is made by requests: the built-in detectors are registered, then the
built-in bindings and those of the settings are made, in this order (`Registry.withDefaults_eq`).
The built-in ones never fail. So the registry of settings fails at the first binding of the
settings with an unknown name, and if there is none, it is the registry that the requests lead to.

The check of a rule set looks for such a name on its own. It goes through the entries of the
bindings, one for each rule, and through the names of each entry, while the registry goes through
single bindings. Both come to the same name first, because the single bindings are the names of
the entries, one entry after the other (`RuleSet.findSome?_bindingError?_eq_find?`).

Entries are kept in ascending order of their rules. So the name that is found is the first unknown
one of the least rule that has any (`Bindings.FirstUnknown`).

## Main results

* `Registry.withDefaults_eq`: the registry of settings, or the error that is given in its place.
* `Registry.namesFor_withDefaults`: which names are bound to a rule.
* `RuleSet.validate_eq_error_unknownDetector_iff`: when the check of a rule set is about bindings.
* `RuleSet.withDefaults_error_iff_validate`: both checks agree.
-/

namespace Excerpt

namespace Registry

variable {r r' : Registry} {s : Settings} {rule name : String}

/-! ### Several bindings -/

/-- The request for a binding. -/
def requestOf (b : String × String) : Request :=
  .bind b.1 b.2

private theorem names_perform_requestOf (r : Registry) (b : String × String) :
    (r.perform (requestOf b)).2.names = r.names :=
  congrArg (List.map Detector.name) (detectors_perform_bind r b.1 b.2)

private theorem detectors_run_requestOf (r : Registry) (bs : List (String × String)) :
    (r.run (bs.map requestOf)).detectors = r.detectors := by
  induction bs generalizing r with
  | nil => rfl
  | cons b bs ih => exact (ih _).trans (detectors_perform_bind r b.1 b.2)

/-- Several bindings are as many requests, or the first of them with an unknown name is an error. -/
theorem bindAll_eq (r : Registry) (bs : List (String × String)) :
    bindAll r bs = (bs.find? fun b => b.2 ∉ r.names).elim (.ok (r.run (bs.map requestOf)))
      fun b => .error (.unknownDetector b.1 b.2) := by
  induction bs generalizing r with
  | nil => rfl
  | cons b bs ih =>
    rw [bindAll]
    obtain ⟨hb, r', hr', hperform⟩ | ⟨hb, hr', -⟩ := r.perform_bind_cases b.1 b.2
    · have hnames : r'.names = r.names := by rw [← names_perform_requestOf r b, requestOf, hperform]
      have hrun : r.run ((b :: bs).map requestOf) = r'.run (bs.map requestOf) := by
        rw [List.map_cons, run, List.foldl_cons, requestOf, hperform, run]
      rw [hr', List.find?_cons_of_neg (by simpa using hb), hrun, ← hnames]
      exact ih r'
    · rw [hr', List.find?_cons_of_pos (by simpa using hb)]
      rfl

/-- If their names are known, all bindings succeed. -/
theorem accepted_requestOf {bs : List (String × String)} (h : ∀ b ∈ bs, b.2 ∈ r.names)
    (rule : String) :
    accepted rule r (bs.map requestOf) = (bs.filter fun b => b.1 = rule).map Prod.snd := by
  induction bs generalizing r with
  | nil => rfl
  | cons b bs ih =>
    obtain ⟨hb, hbs⟩ := List.forall_mem_cons.mp h
    have hok : (r.perform (.bind b.1 b.2)).1 = .ok () := perform_bind_fst_eq_ok_iff.mpr hb
    have hrest := ih (r := (r.perform (requestOf b)).2) (by rwa [names_perform_requestOf])
    rw [List.map_cons, accepted, hrest, requestOf, accepted?, hok]
    by_cases hrule : b.1 = rule <;> simp [hrule, Except.isOk, Except.toBool]

private theorem accepted_register (rule : String) (r : Registry) (ds : List Detector) :
    accepted rule r (ds.map .register) = [] := by
  induction ds generalizing r with
  | nil => rfl
  | cons d ds ih => exact ih (r.register d)

/-! ### The registry of settings -/

private theorem detectors_foldl_register {ds : List Detector}
    (h : (r.names ++ ds.map Detector.name).Nodup) :
    (ds.foldl register r).detectors = r.detectors ++ ds := by
  induction ds generalizing r with
  | nil => simp
  | cons d ds ih =>
    have hd : d.name ∉ r.names := fun hmem =>
      (List.nodup_append.mp h).2.2 _ hmem d.name List.mem_cons_self rfl
    have hnodup : ((r.register d).names ++ ds.map Detector.name).Nodup := by
      rw [names_register_of_notMem hd, List.append_assoc]
      exact h
    rw [List.foldl_cons, ih hnodup, detectors_register_of_notMem hd, List.append_assoc]
    rfl

private theorem nodup_builtinNames : Detect.builtinNames.Nodup := by
  decide +kernel

/-- The built-in detectors have the same names whatever the settings are. -/
theorem map_name_builtin (s : Settings) :
    (Detect.builtin s).map Detector.name = Detect.builtinNames := by
  have hnames : ∀ s, (Detect.builtin s).map Detector.name =
      ["naming", "javadoc", "method-doc", "request-path", "continuity", "interface-constants",
       "accessors", "class-outline", "long-statement", "throw-message", "constants",
       "loop-contains", "loop-body", "thread-name", "lock", "log-message"] := fun _ => rfl
  rw [Detect.builtinNames, hnames, hnames]

private theorem detectors_foldl_builtin (s : Settings) :
    ((Detect.builtin s).foldl register {}).detectors = Detect.builtin s := by
  have hnodup : (names {} ++ (Detect.builtin s).map Detector.name).Nodup := by
    rw [map_name_builtin]
    exact nodup_builtinNames
  rw [detectors_foldl_register hnodup, List.nil_append]

private theorem names_foldl_builtin (s : Settings) :
    ((Detect.builtin s).foldl register {}).names = Detect.builtinNames := by
  rw [names, detectors_foldl_builtin, map_name_builtin]

/-- The requests that make the registry of settings. -/
def requestsFor (s : Settings) : List Request :=
  (Detect.builtin s).map .register ++ (Detect.defaultBindings ++ settingsBindings s).map requestOf

private theorem run_register (r : Registry) (ds : List Detector) :
    r.run (ds.map .register) = ds.foldl register r :=
  List.foldl_map

private theorem run_requestsFor (s : Settings) :
    run {} (requestsFor s) =
      ((Detect.builtin s).foldl register {}).run
        ((Detect.defaultBindings ++ settingsBindings s).map requestOf) := by
  rw [requestsFor, run_append, run_register]

private theorem mem_builtinNames_of_mem_defaultBindings :
    ∀ b ∈ Detect.defaultBindings, b.2 ∈ Detect.builtinNames := by
  decide +kernel

/-- The registry of settings is made by its requests, or the first of the bindings of the settings
with an unknown name is an error. -/
theorem withDefaults_eq (s : Settings) :
    withDefaults s = ((settingsBindings s).find? fun b => b.2 ∉ Detect.builtinNames).elim
      (.ok (run {} (requestsFor s)))
      fun b => .error (.unknownDetector b.1 b.2) := by
  have hdefault : (Detect.defaultBindings.find? fun b => b.2 ∉ Detect.builtinNames) = none := by
    refine List.find?_eq_none.mpr fun b hb => ?_
    rw [decide_eq_true_iff, not_not]
    exact mem_builtinNames_of_mem_defaultBindings b hb
  rw [withDefaults, bindAll_eq, names_foldl_builtin, List.find?_append, hdefault, Option.none_or,
    run_requestsFor]

/-- There is a registry just if all names in the bindings of the settings are known, and then it
is the one that the requests lead to. -/
theorem withDefaults_eq_ok_iff : withDefaults s = .ok r ↔
    (∀ b ∈ settingsBindings s, b.2 ∈ Detect.builtinNames) ∧ r = run {} (requestsFor s) := by
  rw [withDefaults_eq]
  cases hfind : (settingsBindings s).find? fun b => b.2 ∉ Detect.builtinNames with
  | none =>
    have hknown : ∀ b ∈ settingsBindings s, b.2 ∈ Detect.builtinNames := fun b hb =>
      not_not.mp fun hunknown => List.find?_eq_none.mp hfind b hb (decide_eq_true hunknown)
    simp only [Option.elim_none, Except.ok.injEq]
    exact ⟨fun h => ⟨hknown, h.symm⟩, fun h => h.2.symm⟩
  | some b =>
    have hunknown : b.2 ∉ Detect.builtinNames := by
      have hb := List.find?_some hfind
      exact of_decide_eq_true hb
    exact iff_of_false nofun fun h => hunknown (h.1 b (List.mem_of_find?_eq_some hfind))

/-- The error is about the first binding of the settings with an unknown name. -/
theorem withDefaults_eq_error_iff {e : RuleError} : withDefaults s = .error e ↔
    ((settingsBindings s).find? fun b => b.2 ∉ Detect.builtinNames).map
      (fun b => .unknownDetector b.1 b.2) =
      some e := by
  rw [withDefaults_eq]
  cases (settingsBindings s).find? fun b => b.2 ∉ Detect.builtinNames <;> simp

/-- The detectors of the registry are the built-in ones, in their order. -/
theorem detectors_withDefaults (h : withDefaults s = .ok r) : r.detectors = Detect.builtin s := by
  rw [(withDefaults_eq_ok_iff.mp h).2, run_requestsFor, detectors_run_requestOf,
    detectors_foldl_builtin]

/-- The registry of settings is well-formed. -/
theorem wellFormed_withDefaults (h : withDefaults s = .ok r) : r.WellFormed := by
  rw [(withDefaults_eq_ok_iff.mp h).2]
  exact wellFormed_empty.run _

/-- The names of a rule are those of the built-in bindings, then those of the settings. -/
theorem namesFor_withDefaults (h : withDefaults s = .ok r) (rule : String) :
    r.namesFor rule =
      (((Detect.defaultBindings ++ settingsBindings s).filter fun b =>
        b.1 = rule).map Prod.snd).eraseDups := by
  obtain ⟨hknown, rfl⟩ := withDefaults_eq_ok_iff.mp h
  have hall : ∀ b ∈ Detect.defaultBindings ++ settingsBindings s,
      b.2 ∈ (run {} ((Detect.builtin s).map .register)).names := by
    rw [run_register, names_foldl_builtin]
    exact List.forall_mem_append.mpr ⟨mem_builtinNames_of_mem_defaultBindings, hknown⟩
  rw [namesFor_run, requestsFor, accepted_append, accepted_register, List.nil_append,
    accepted_requestOf hall]

end Registry

/-! ### The first unknown name -/

/-- The name is bound to the rule and not known. The names before it, of this rule and of all
rules that come before it in ascending order, are known. -/
def Bindings.FirstUnknown (b : Bindings) (known : List String) (rule name : String) : Prop :=
  (∀ e ∈ b.entries, e.1 < rule → ∀ n ∈ e.2, n ∈ known) ∧
  ∃ before after, (rule, before ++ name :: after) ∈ b.entries ∧ (∀ n ∈ before, n ∈ known) ∧
    name ∉ known

namespace RuleSet

variable {set : RuleSet} {known : List String} {rule name : String}

/-- An entry has no error just if all its names are known. -/
theorem bindingError?_eq_none_iff {e : String × List String} :
    bindingError? known e = none ↔ ∀ n ∈ e.2, n ∈ known := by
  simp [bindingError?]

private theorem bindingError?_eq_some_iff {e : String × List String} :
    bindingError? known e = some (.unknownDetector rule name) ↔
      e.1 = rule ∧ ∃ before after, e.2 = before ++ name :: after ∧ (∀ n ∈ before, n ∈ known) ∧
        name ∉ known := by
  simp only [bindingError?, Option.map_eq_some_iff, List.find?_eq_some_iff_append,
    RuleError.unknownDetector.injEq, Bool.not_eq_true', Bool.not_not, List.contains_iff_mem]
  constructor
  · rintro ⟨n, ⟨hn, before, after, hsplit, hbefore⟩, rfl, rfl⟩
    exact ⟨rfl, before, after, hsplit, hbefore, by simpa using hn⟩
  · rintro ⟨rfl, before, after, hsplit, hbefore, hname⟩
    exact ⟨name, ⟨by simpa using hname, before, after, hsplit, hbefore⟩, rfl, rfl⟩

/-- Entries are in ascending order, so the first error among them is that of the first unknown
name. -/
theorem findSome?_bindingError?_eq_some_iff (b : Bindings) :
    b.entries.findSome? (bindingError? known) = some (.unknownDetector rule name) ↔
      b.FirstUnknown known rule name := by
  rw [List.findSome?_eq_some_iff]
  constructor
  · rintro ⟨es, e, es', hsplit, he, hes⟩
    obtain ⟨rfl, before, after, hnames, hbefore, hname⟩ := bindingError?_eq_some_iff.mp he
    have hsorted := b.sorted
    rw [hsplit] at hsorted
    -- entries are sorted by rule, so those of smaller rules are just those that come before
    have hafter := (List.pairwise_cons.mp (List.pairwise_append.mp hsorted).2.1).1
    refine ⟨fun e' he' hlt => ?_, before, after, ?_, hbefore, hname⟩
    · rw [hsplit] at he'
      rcases List.mem_append.mp he' with he' | he'
      · exact bindingError?_eq_none_iff.mp (hes e' he')
      · rcases List.mem_cons.mp he' with rfl | he'
        · exact absurd hlt (String.lt_irrefl _)
        · exact absurd (String.lt_trans hlt (hafter e' he')) (String.lt_irrefl _)
    · rw [hsplit, ← hnames]
      exact List.mem_append_right _ List.mem_cons_self
  · rintro ⟨hless, before, after, hmem, hbefore, hname⟩
    obtain ⟨es, es', hsplit⟩ := List.append_of_mem hmem
    have hsorted := b.sorted
    rw [hsplit] at hsorted
    refine ⟨es, _, es', hsplit,
      bindingError?_eq_some_iff.mpr ⟨rfl, before, after, rfl, hbefore, hname⟩, ?_⟩
    intro e he
    have hlt : e.1 < rule := (List.pairwise_append.mp hsorted).2.2 e he _ List.mem_cons_self
    exact bindingError?_eq_none_iff.mpr (hless e (hsplit ▸ List.mem_append_left _ he) hlt)

/-- The check by entries finds the same name as one of the single bindings. -/
theorem findSome?_bindingError?_eq_find? (s : Settings) (known : List String) :
    s.bindings.entries.findSome? (bindingError? known) =
      ((Registry.settingsBindings s).find? fun b => b.2 ∉ known).map fun b =>
        .unknownDetector b.1 b.2 := by
  rw [Registry.settingsBindings, List.find?_flatMap, List.map_findSome?]
  congr 1
  funext e
  simp [bindingError?, List.find?_map, Function.comp_def]

/-! ### Both checks agree -/

/-- The first error of a list is the first one that the check gives. -/
theorem firstError_eq_error_iff {α ε : Type} {check : α → Option ε} {xs : List α} {e : ε} :
    firstError check xs = .error e ↔ xs.findSome? check = some e := by
  rw [firstError]
  cases xs.findSome? check <;> simp

/-- An error among those of a list is the error of an element. -/
theorem exists_of_firstError {α ε : Type} {check : α → Option ε} {xs : List α} {e : ε}
    (h : firstError check xs = .error e) : ∃ x ∈ xs, check x = some e :=
  List.exists_of_findSome?_eq_some (firstError_eq_error_iff.mp h)

/-- Of two checks in a row, the second one counts only if the first one passes. -/
theorem seq_eq_error_iff {α ε : Type} {x : Except ε Unit} {f : Unit → Except ε α} {e : ε} :
    x >>= f = .error e ↔ x = .error e ∨ x = .ok () ∧ f () = .error e := by
  cases x <;> simp [Bind.bind, Except.bind]

/-- The bindings are checked first, and no other check is about them. -/
theorem validate_eq_error_unknownDetector_iff :
    set.validate known = .error (.unknownDetector rule name) ↔
      set.settings.bindings.entries.findSome? (bindingError? known) =
        some (.unknownDetector rule name) := by
  -- the other two checks report errors of their own kinds
  have hpattern : firstError patternError? set.settings.excludedPaths ≠
      .error (.unknownDetector rule name) := by
    intro h
    obtain ⟨pattern, -, hpattern⟩ := exists_of_firstError h
    rw [patternError?] at hpattern
    split at hpattern <;> cases hpattern
  have hscope : firstError emptyScopeError? set.rules ≠ .error (.unknownDetector rule name) := by
    intro h
    obtain ⟨r, -, hscope⟩ := exists_of_firstError h
    rw [emptyScopeError?] at hscope
    split at hscope <;> cases hscope
  rw [validate, ← firstError_eq_error_iff, seq_eq_error_iff, seq_eq_error_iff]
  refine ⟨fun h => h.resolve_right ?_, .inl⟩
  rintro ⟨-, h | ⟨-, h⟩⟩
  · exact hpattern h
  · split at h
    · exact hscope h
    · cases h

private theorem findSome?_bindingError?_of_validate (h : set.validate known = .ok ()) :
    set.settings.bindings.entries.findSome? (bindingError? known) = none := by
  cases hfind : set.settings.bindings.entries.findSome? (bindingError? known) with
  | none => rfl
  | some e =>
    rw [validate, firstError_eq_error_iff.mpr hfind] at h
    cases h

end RuleSet

/-- The engine of a rule set has the registry of its settings, and its rules. -/
theorem Engine.ofRuleSet_eq_ok_iff {set : RuleSet} {e : Engine} :
    ofRuleSet set = .ok e ↔ Registry.withDefaults set.settings = .ok e.registry ∧
      e.rules = set.rules := by
  rw [ofRuleSet]
  cases Registry.withDefaults set.settings with
  | error err => exact iff_of_false nofun fun h => nomatch h.1
  | ok r =>
    simp only [Except.map, Except.ok.injEq]
    constructor
    · rintro rfl
      exact ⟨rfl, rfl⟩
    · rintro ⟨rfl, hrules⟩
      rw [← hrules]

/-- There is no engine just if there is no registry, and for the same reason. -/
theorem Engine.ofRuleSet_eq_error_iff {set : RuleSet} {err : RuleError} :
    ofRuleSet set = .error err ↔ Registry.withDefaults set.settings = .error err := by
  rw [ofRuleSet]
  cases Registry.withDefaults set.settings <;> simp [Except.map]

/-- **Both checks of bindings agree.** The registry of settings fails for an unknown name just if
the check of the rule set does, and both name the first one: rules are taken in ascending order,
and the names of a rule in the order in which they stand. A rule set that passes the check has an
engine and a scanner. -/
theorem RuleSet.withDefaults_error_iff_validate (set : RuleSet) :
    (∀ rule name,
      (Registry.withDefaults set.settings = .error (.unknownDetector rule name) ↔
        set.validate Detect.builtinNames = .error (.unknownDetector rule name)) ∧
      (set.validate Detect.builtinNames = .error (.unknownDetector rule name) ↔
        set.settings.bindings.FirstUnknown Detect.builtinNames rule name)) ∧
    (∀ err, Registry.withDefaults set.settings = .error err →
      ∃ rule name, err = .unknownDetector rule name) ∧
    (set.validate Detect.builtinNames = .ok () →
      ∃ e, Engine.ofRuleSet set = .ok e ∧ e.rules = set.rules ∧
        Scanner.ofRuleSet set = .ok ⟨e, Java.frontend set.settings.tolerateSyntaxErrors⟩) := by
  refine ⟨fun rule name => ⟨?_, ?_⟩, fun err herr => ?_, fun hvalid => ?_⟩
  · rw [Registry.withDefaults_eq_error_iff, ← findSome?_bindingError?_eq_find?,
      validate_eq_error_unknownDetector_iff]
  · rw [validate_eq_error_unknownDetector_iff, findSome?_bindingError?_eq_some_iff]
  · obtain ⟨b, -, rfl⟩ := Option.map_eq_some_iff.mp (Registry.withDefaults_eq_error_iff.mp herr)
    exact ⟨b.1, b.2, rfl⟩
  · have hnone := findSome?_bindingError?_of_validate hvalid
    rw [findSome?_bindingError?_eq_find?, Option.map_eq_none_iff] at hnone
    have hregistry : Registry.withDefaults set.settings =
        .ok (.run {} (Registry.requestsFor set.settings)) := by
      rw [Registry.withDefaults_eq, hnone, Option.elim_none]
    have hengine : Engine.ofRuleSet set =
        .ok ⟨set.rules, .run {} (Registry.requestsFor set.settings)⟩ :=
      by rw [Engine.ofRuleSet, hregistry, Except.map]
    exact ⟨_, hengine, rfl, by rw [Scanner.ofRuleSet, hengine, Except.map]⟩

namespace RuleSet

/-- Three unknown names, two of them for the lesser rule. -/
def misspelt : RuleSet where
  settings :=
    { bindings :=
        .ofList [("RULE-B", ["nameing"]), ("RULE-A", ["lock", "naming", "lok", "locks"])] }

/-- Known names only, one of them twice. -/
def spelt : RuleSet where
  settings :=
    { bindings := .ofList [("RULE-B", ["naming"]), ("RULE-A", ["lock", "naming", "lock"])] }

/-- Of three unknown names, the first one of the lesser rule is named. -/
theorem withDefaults_misspelt :
    Registry.withDefaults misspelt.settings = .error (.unknownDetector "RULE-A" "lok") ∧
    misspelt.settings.bindings.FirstUnknown Detect.builtinNames "RULE-A" "lok" ∧
    ∃ e, Engine.ofRuleSet spelt = .ok e ∧
      Scanner.ofRuleSet spelt = .ok ⟨e, Java.frontend false⟩ := by
  have hmisspelt : misspelt.validate Detect.builtinNames =
      .error (.unknownDetector "RULE-A" "lok") := by
    decide +kernel
  have hspelt : spelt.validate Detect.builtinNames = .ok () := by
    decide +kernel
  obtain ⟨hagree, -, -⟩ := misspelt.withDefaults_error_iff_validate
  obtain ⟨-, -, hengine⟩ := spelt.withDefaults_error_iff_validate
  obtain ⟨e, he, -, hscanner⟩ := hengine hspelt
  exact ⟨(hagree _ _).1.mpr hmisspelt, (hagree _ _).2.mp hmisspelt, e, he, hscanner⟩

end RuleSet

end Excerpt
