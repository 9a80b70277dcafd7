import Excerpt.Command.Execute
import Excerpt.Proofs.StrictScopes
import Excerpt.Proofs.Writing

/-!
# What commands leave as it is

An extraction checks everything before it writes anything: the format, the rule file, the rule set
in it, and the path to scan. The conditions under which all of these checks pass are collected in
`ExtractRequest.IsFeasible`. An extraction is rejected just if they are not met, and then it has
printed nothing and changed nothing. It may still fail later on, when the report cannot be
written, but this is not a rejection.

A rule file is created after it is checked that its path leads nowhere. But then the directories
on the way are made, and these may open a way to a file that was there all the time: if `new` is
not there, `new/../rules.yaml` leads nowhere, and as soon as `new` is made it leads to
`rules.yaml`, which is written over. This is the only way in which an existing file is changed,
and it takes a path with a step to the parent that leaves a directory which was not there
(`FileSystem.LeavesMissing`).

The proofs follow the commands step by step. Each command ends in one of a few ways, which a lemma
lists together with what is known then (`createRules_cases`, `InitRequest.execute_cases`), and
what happens to single entries is left to the theory of writing.

## Main results

* `ExtractRequest.status_execute_eq_rejected_iff`: when an extraction is rejected.
* `ExtractRequest.execute_of_rejected`: what a rejected extraction leaves behind.
* `InitRequest.execute_cases`: how the command for rule files ends.
* `execute_keeps_files`: what both commands leave as it is.
-/

namespace Excerpt

/-! ### Extraction -/

private theorem Except.mapError_eq_ok_iff {ε ε' α : Type} {x : Except ε α} {f : ε → ε'} {a : α} :
    x.mapError f = .ok a ↔ x = .ok a := by
  cases x <;> simp [Except.mapError]

/-- A rule set passes its check just if its bindings and patterns are valid and every rule has a
tag if this is asked for. -/
theorem RuleSet.validate_eq_ok_iff [PathPatterns] {set : RuleSet} {known : List String} :
    set.validate known = .ok () ↔
    (∀ b ∈ set.settings.bindings.entries, ∀ name ∈ b.2, name ∈ known) ∧
    (∀ pattern ∈ set.settings.excludedPaths, ∃ covers, PathPatterns.compile pattern = .ok covers) ∧
    (set.settings.strictScopes = true → ∀ r ∈ set.rules, r.tags ≠ []) := by
  have hscopes : (if set.settings.strictScopes = true then firstError emptyScopeError? set.rules
      else .ok ()) = .ok () ↔
      (set.settings.strictScopes = true → ∀ r ∈ set.rules, r.tags ≠ []) := by
    by_cases hstrict : set.settings.strictScopes = true
    · simp only [hstrict, if_true, firstError_eq_ok_iff, emptyScopeError?_eq_none_iff, forall_const]
    · simp [hstrict]
  constructor
  · intro h
    -- scopes come last: what they are checked for can be read off once the other checks passed
    have hpassed := h
    rw [validate, Except.bind_eq_ok_iff] at h
    obtain ⟨⟨⟩, hbindings, h⟩ := h
    obtain ⟨⟨⟩, hpatterns, -⟩ := Except.bind_eq_ok_iff.1 h
    have hbindings : ∀ b ∈ set.settings.bindings.entries, ∀ name ∈ b.2, name ∈ known := fun b hb =>
      bindingError?_eq_none_iff.1 (firstError_eq_ok_iff.1 hbindings b hb)
    have hpatterns : ∀ pattern ∈ set.settings.excludedPaths, ∃ covers,
        PathPatterns.compile pattern = .ok covers :=
      fun pattern hpattern =>
        patternError?_eq_none_iff.1 (firstError_eq_ok_iff.1 hpatterns pattern hpattern)
    rw [validate_eq hbindings hpatterns] at hpassed
    exact ⟨hbindings, hpatterns, hscopes.1 hpassed⟩
  · rintro ⟨hbindings, hpatterns, htags⟩
    rw [validate_eq hbindings hpatterns]
    exact hscopes.2 htags

variable {files : FileSystem} {path : String} {set : RuleSet} {settings : Settings}

/-- The registry of settings can be made just if their bindings name built-in detectors. -/
theorem Registry.exists_withDefaults_eq_ok_iff : (∃ r, withDefaults settings = .ok r) ↔
    ∀ b ∈ settings.bindings.entries, ∀ name ∈ b.2, name ∈ Detect.builtinNames := by
  simp only [withDefaults_eq_ok_iff, exists_and_left, exists_eq, and_true, settingsBindings,
    List.forall_mem_flatMap, List.forall_mem_map]

private theorem Registry.names_withDefaults {r : Registry} (h : withDefaults settings = .ok r) :
    r.names = Detect.builtinNames := by
  rw [names, detectors_withDefaults h, map_name_builtin]

private theorem exists_collect_eq_ok_iff [PathPatterns] (f : Frontend) {root : String} :
    (∃ paths, f.collect files settings root = .ok paths) ↔ files.isThere root = true := by
  rw [FileSystem.isThere_eq_true_iff, Frontend.collect]
  cases files.resolve root with
  | error e => simp
  | ok l => by_cases hdir : files.isDirectoryAt l = true <;> simp [hdir]

namespace ExtractRequest

variable {request : ExtractRequest}

private theorem rulesPath_eq_ok_iff : rulesPath files request = .ok path ↔
    request.rules = some path ∨ request.rules = none ∧
      IsFirst (fun p => files.isThere p = true) ["./rulesnip.yaml", "./rules.yaml",
        "./rules.csv"] path := by
  have hnames : ruleFileNames.map (Path.join ".") =
      ["./rulesnip.yaml", "./rules.yaml", "./rules.csv"] := by decide
  have hdiscover : discoverRules? files = some path ↔
      IsFirst (fun p => files.isThere p = true) ["./rulesnip.yaml", "./rules.yaml",
        "./rules.csv"] path := by
    rw [discoverRules?, hnames, ← find?_eq_some_iff_isFirst]
    simp
  rw [rulesPath]
  cases request.rules with
  | some given => simp
  | none =>
    rw [← hdiscover]
    cases discoverRules? files <;> simp

private theorem status_writeReport_ne_rejected (files : FileSystem) (path : String) (r : Report) :
    (writeReport files path r).status ≠ .rejected := by
  rw [writeReport]
  split
  · nofun
  · split <;> nofun

variable [PathPatterns]

/-- The request can be done with the rule set in the file at the path. -/
structure IsFeasible (request : ExtractRequest) (files : FileSystem) (path : String)
    (set : RuleSet) : Prop where
  format : request.format = "json" ∨ request.format = "pretty"
  /-- The file is asked for, or it is the first of those that are looked for. -/
  rules : request.rules = some path ∨ request.rules = none ∧
    IsFirst (fun p => files.isThere p = true) ["./rulesnip.yaml", "./rules.yaml",
      "./rules.csv"] path
  loads : RuleSet.load files path = .ok set
  bindings : ∀ b ∈ set.settings.bindings.entries, ∀ name ∈ b.2, name ∈ Detect.builtinNames
  patterns : ∀ pattern ∈ set.settings.excludedPaths, ∃ covers,
    PathPatterns.compile pattern = .ok covers
  scopes : set.settings.strictScopes = true → ∀ r ∈ set.rules, r.tags ≠ []
  root : files.isThere request.path = true

/-- A scan has a result just if each of its steps has one. -/
theorem scanFor_eq_ok_iff {result : String × Report} : scanFor files request = .ok result ↔
    (request.format = "json" ∨ request.format = "pretty") ∧
    ∃ path, rulesPath files request = .ok path ∧
      ∃ set, RuleSet.load files path = .ok set ∧
        ∃ registry, Registry.withDefaults set.settings = .ok registry ∧
        set.validate registry.names = .ok () ∧ ∃ scanner, Scanner.ofRuleSet set = .ok scanner ∧
          ∃ paths, scanner.frontend.collect files set.settings request.path = .ok paths ∧
            (path, scanner.scan files paths) = result := by
  have hunknown : (!formats.contains request.format) = true ↔
      ¬ (request.format = "json" ∨ request.format = "pretty") := by
    simp [formats]
  rw [scanFor]
  split
  · next h => exact iff_of_false nofun fun hfound => hunknown.1 h hfound.1
  · next h =>
    rw [hunknown, not_not] at h
    rw [and_iff_right h]
    simp only [Except.bind_eq_ok_iff, Except.mapError_eq_ok_iff, Unique.exists_iff,
      PUnit.default_eq_unit, pure, Except.pure, Except.ok.injEq]

private theorem exists_scanFor_eq_ok_iff :
    (∃ result, scanFor files request = .ok result) ↔
      ∃ path set, request.IsFeasible files path set := by
  constructor
  · rintro ⟨result, h⟩
    obtain ⟨hformat, path, hpath, set, hset, registry, hregistry, hvalid, _, -, paths, hpaths, -⟩ :=
      scanFor_eq_ok_iff.1 h
    obtain ⟨hbindings, hpatterns, hscopes⟩ := RuleSet.validate_eq_ok_iff.1 hvalid
    rw [Registry.names_withDefaults hregistry] at hbindings
    exact ⟨path, set, hformat, rulesPath_eq_ok_iff.1 hpath, hset, hbindings, hpatterns, hscopes,
      (exists_collect_eq_ok_iff _).1 ⟨paths, hpaths⟩⟩
  · rintro ⟨path, set, h⟩
    obtain ⟨registry, hregistry⟩ := Registry.exists_withDefaults_eq_ok_iff.2 h.bindings
    let frontend := Java.frontend set.settings.tolerateSyntaxErrors
    obtain ⟨paths, hpaths⟩ := (exists_collect_eq_ok_iff frontend).2 h.root
    -- bindings are checked against the registry, which holds the built-in detectors only
    have hvalid : set.validate registry.names = .ok () := by
      rw [Registry.names_withDefaults hregistry]
      exact RuleSet.validate_eq_ok_iff.2 ⟨h.bindings, h.patterns, h.scopes⟩
    have hscanner : Scanner.ofRuleSet set = .ok ⟨⟨set.rules, registry⟩, frontend⟩ := by
      rw [Scanner.ofRuleSet, Engine.ofRuleSet, hregistry]
      rfl
    exact ⟨_, scanFor_eq_ok_iff.2 ⟨h.format, path, rulesPath_eq_ok_iff.2 h.rules, set, h.loads,
      registry, hregistry, hvalid, _, hscanner, paths, hpaths, rfl⟩⟩

private theorem execute_of_error {e : ExtractError} (color : Bool)
    (h : scanFor files request = .error e) :
    request.execute color files = .reject files e.lines := by
  rw [execute, h]

/-- Once everything is checked, only writing can fail. -/
theorem status_execute_ne_rejected {result : String × Report} (color : Bool)
    (h : scanFor files request = .ok result) :
    (request.execute color files).status ≠ .rejected := by
  rw [execute, h]
  cases request.output with
  | none =>
    dsimp only
    split <;> nofun
  | some path =>
    dsimp only
    split <;> exact status_writeReport_ne_rejected files path result.2

/-- An extraction is rejected just if it is not feasible. -/
theorem status_execute_eq_rejected_iff (color : Bool) :
    (request.execute color files).status = .rejected ↔
    ¬ ∃ path set, request.IsFeasible files path set := by
  rw [← exists_scanFor_eq_ok_iff]
  cases hscan : scanFor files request with
  | error e =>
    rw [execute_of_error color hscan]
    exact iff_of_true rfl (by simp)
  | ok result => exact iff_of_false (status_execute_ne_rejected color hscan) (by simp)

/-- An extraction that is rejected has printed nothing and changed nothing. -/
theorem execute_of_rejected {color : Bool} (h : (request.execute color files).status = .rejected) :
    (request.execute color files).output = "" ∧ (request.execute color files).files = files := by
  cases hscan : scanFor files request with
  | error e =>
    rw [execute_of_error color hscan]
    exact ⟨rfl, rfl⟩
  | ok result => exact absurd h (status_execute_ne_rejected color hscan)

end ExtractRequest

/-! ### Rule files -/

/-- Without success, a rule file adds no more than directories. It is written if its path leads
nowhere, after some directories are made. -/
theorem createRules_cases (files : FileSystem) (path : String) (t : Template) :
    (createRules files path t).status = .rejected ∧ (createRules files path t).files.Gains files ∨
    (createRules files path t).status = .success ∧ files.isThere path = false ∧
      ∃ made : FileSystem, made.Gains files ∧
        made.write path t.content.toUTF8 = .ok (createRules files path t).files := by
  have hgains := FileSystem.gains_afterMaking files (Path.components path).dropLast
  cases hthere : files.isThere path with
  | true =>
    rw [createRules, if_pos hthere]
    exact .inl ⟨rfl, .refl files⟩
  | false =>
    rw [createRules, if_neg (by simp [hthere])]
    cases hmade : files.makeDirectories (Path.components path).dropLast with
    | error e =>
      rw [hmade] at hgains
      exact .inl ⟨rfl, hgains⟩
    | ok made =>
      rw [hmade] at hgains
      dsimp only
      cases hwrite : made.write path t.content.toUTF8 with
      | error e => exact .inl ⟨rfl, hgains⟩
      | ok written => exact .inr ⟨rfl, rfl, made, hgains, hwrite⟩

/-- The templates are shown, or a rule file is not created, or it is created from the template of
the name. -/
theorem InitRequest.execute_cases (files : FileSystem) (request : InitRequest) :
    request.list = true ∧ (request.execute files).files = files ∨
    (request.execute files).status = .rejected ∧ (request.execute files).files.Gains files ∨
    (request.execute files).status = .success ∧ files.isThere request.output = false ∧
      ∃ t ∈ templates, t.name = request.template ∧ ∃ made : FileSystem, made.Gains files ∧
        made.write request.output t.content.toUTF8 = .ok (request.execute files).files := by
  rw [execute]
  by_cases hlist : request.list = true
  · rw [if_pos hlist]
    exact .inl ⟨hlist, rfl⟩
  · rw [if_neg hlist]
    refine .inr ?_
    cases hfind : templates.find? (·.name == request.template) with
    | none => exact .inl ⟨rfl, .refl files⟩
    | some t =>
      have hname := List.find?_some hfind
      rw [beq_iff_eq] at hname
      refine (createRules_cases files request.output t).imp_right ?_
      rintro ⟨hstatus, hthere, hmade⟩
      exact ⟨hstatus, hthere, t, List.mem_of_find?_eq_some hfind, hname, hmade⟩

/-- **What commands leave as it is.** An extraction is rejected just if it is not feasible; then
it has printed nothing and changed nothing. In a tree, the command for rule files leaves every
entry as it is, except for a file to which its path leads after, but not before, some directories
are made; on such a path, a step to the parent leaves a directory that was not there. It succeeds
only if it shows the templates or if the path leads to a file with the content of the template of
the given name, where nothing was before, apart from such paths. -/
theorem execute_keeps_files [PathPatterns] (files : FileSystem) :
    (∀ (color : Bool) (request : ExtractRequest),
      let ended := request.execute color files
      (ended.status = .rejected ↔ ¬ ∃ path set, request.IsFeasible files path set) ∧
      (ended.status = .rejected → ended.output = "" ∧ ended.files = files)) ∧
    (files.IsTree → ∀ request : InitRequest,
      let ended := request.execute files
      (∀ l e, files.entry? l = some e → ended.files.entry? l = some e ∨
        e ≠ .directory ∧ ended.status = .success ∧ ended.files.resolve request.output = .ok l ∧
          files.LeavesMissing files.home (Path.steps request.output)) ∧
      (ended.status = .success → request.list = true ∨ ∃ t ∈ templates, t.name = request.template ∧
        ∃ l, ended.files.resolve request.output = .ok l ∧
          ended.files.entry? l = some (.file t.content.toUTF8) ∧
          (files.entry? l = none ∨
            files.LeavesMissing files.home (Path.steps request.output)))) := by
  refine ⟨fun color request =>
    ⟨request.status_execute_eq_rejected_iff color, request.execute_of_rejected⟩, ?_⟩
  intro htree request ended
  rcases request.execute_cases files with
    ⟨hlist, hfiles⟩ | ⟨hstatus, hgains⟩ | ⟨hstatus, hthere, t, ht, hname, made, hgains, hwrite⟩
  · exact ⟨fun l e he => .inl (by rw [hfiles]; exact he), fun _ => .inl hlist⟩
  · refine ⟨fun l e he => .inl (hgains.entry?_eq he), fun hsuccess => ?_⟩
    rw [hstatus] at hsuccess
    cases hsuccess
  · obtain ⟨l, hresolve, hcontent, hnodir, hothers, hplace⟩ :=
      hgains.write_checked htree hthere hwrite
    refine ⟨fun k e he => ?_, fun _ => .inr ⟨t, ht, hname, l, hresolve, hcontent, hplace⟩⟩
    have hmade : made.entry? k = some e := hgains.entry?_eq he
    -- only the place that is written to can have changed, and no directory is there
    by_cases hk : k = l
    · subst hk
      refine .inr ⟨?_, hstatus, hresolve, hplace.resolve_left (by simp [he])⟩
      rintro rfl
      exact hnodir hmade
    · exact .inl ((hothers k hk).trans hmade)

/-- An empty rule file in the working directory. -/
def emptyRules : FileSystem where
  entries := [(["rules.yaml"], .file ⟨#[]⟩)]
  distinct := by decide

/-- The rule file stays as it is if the format is not known or if its own path is given, and it
stays beside a new one. It is written over if the path leaves a directory that is not there. -/
theorem execute_emptyRules :
    let unknown : ExtractRequest := { path := ".", format := "sarif" }
    let same : InitRequest := { output := "rules.yaml" }
    let beside : InitRequest := { output := "conf/rules.yaml" }
    let around : InitRequest := { output := "new/../rules.yaml" }
    ((unknown.execute false emptyRules).status = .rejected ∧
      (unknown.execute false emptyRules).output = "" ∧
      (unknown.execute false emptyRules).files = emptyRules) ∧
    emptyRules.entry? ["rules.yaml"] = some (.file ⟨#[]⟩) ∧
    FileSystem.entry? (same.execute emptyRules).files ["rules.yaml"] = some (.file ⟨#[]⟩) ∧
    FileSystem.entry? (beside.execute emptyRules).files ["rules.yaml"] = some (.file ⟨#[]⟩) ∧
    (around.execute emptyRules).status = .success ∧
    FileSystem.entry? (around.execute emptyRules).files ["rules.yaml"] =
      some (.file minimalTemplate.content.toUTF8) := by
  intro unknown same beside around
  have htree : emptyRules.IsTree := FileSystem.isTree_of_forall_entries (by decide)
  have hthere : emptyRules.entry? ["rules.yaml"] = some (.file ⟨#[]⟩) := by decide
  obtain ⟨hextract, hinit⟩ := execute_keeps_files emptyRules
  have hrejected : (unknown.execute false emptyRules).status = .rejected :=
    (hextract false unknown).1.2 fun ⟨_, _, h⟩ => absurd h.format (by decide)
  have hdone : (around.execute emptyRules).status = .success := by decide +kernel
  refine ⟨⟨hrejected, (hextract false unknown).2 hrejected⟩, hthere, ?_, ?_, hdone, ?_⟩
  · exact ((hinit htree same).1 _ _ hthere).resolve_right fun h => absurd h.2.1 (by decide +kernel)
  · exact ((hinit htree beside).1 _ _ hthere).resolve_right fun h =>
      absurd h.2.2.1 (by decide +kernel)
  · rcases (hinit htree around).2 hdone with hlist | ⟨t, ht, hname, l, hresolve, hcontent, -⟩
    · cases hlist
    · have hplace : (around.execute emptyRules).files.resolve "new/../rules.yaml" =
          .ok ["rules.yaml"] := by
        decide +kernel
      obtain rfl : ["rules.yaml"] = l := Except.ok.inj (hplace.symm.trans hresolve)
      have htemplate : t = minimalTemplate := by
        rcases List.mem_pair.1 ht with rfl | rfl
        · rfl
        · exact absurd hname (by decide)
      rw [hcontent, htemplate]

end Excerpt
