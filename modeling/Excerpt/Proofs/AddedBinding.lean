import Excerpt.Proofs.Bindings

/-!
# One more binding

Settings may bind one more built-in detector to a rule. This module says what an extraction gains
by it, and that it loses nothing.

The bindings of a rule stand together, in the order of the rules, so the new one does not come
last among all bindings, but it is the last one for its rule
(`Settings.exists_settingsBindings_addBinding`). Hence the rule gets one more detector, after the
others and unless it had it already, and no other rule gets one
(`Registry.detectorsFor_addBinding`).

An extraction goes through nodes and rules before it comes to detectors, so the snippets of the
new detector stand between the others. `Interleaved` says that a list is made up of two others,
each in its order. It passes through each of the loops of an extraction (`Interleaved.flatMap`),
and at the innermost one it is just that one list follows the other.

Whether there is an engine at all does not change either: a known name is never the first unknown
one.

## Main results

* `Registry.detectorsFor_addBinding`: the detectors of each rule with one more binding.
* `Engine.extract_interleaved`: detectors that come after the others of their rules put their
  snippets between those of the others.
* `Engine.extract_addBinding`: what one more binding adds to an extraction.
-/

namespace Excerpt

/-! ### Interleaved lists -/

/-- The elements of the third list are those of the first two, which both keep their order. -/
inductive Interleaved {α : Type} : List α → List α → List α → Prop
  | nil : Interleaved [] [] []
  | left {x : α} {xs ys zs : List α} (h : Interleaved xs ys zs) : Interleaved (x :: xs) ys (x :: zs)
  | right {y : α} {xs ys zs : List α} (h : Interleaved xs ys zs) :
      Interleaved xs (y :: ys) (y :: zs)

namespace Interleaved

variable {α β : Type} {xs ys zs xs' ys' zs' : List α}

/-- Interleaved lists one after the other are interleaved. -/
theorem append (h : Interleaved xs ys zs) (h' : Interleaved xs' ys' zs') :
    Interleaved (xs ++ xs') (ys ++ ys') (zs ++ zs') := by
  induction h with
  | nil => exact h'
  | left _ ih => exact ih.left
  | right _ ih => exact ih.right

private theorem nil_right (xs : List α) : Interleaved xs [] xs := by
  induction xs with
  | nil => exact nil
  | cons x xs ih => exact ih.left

private theorem nil_left (ys : List α) : Interleaved [] ys ys := by
  induction ys with
  | nil => exact nil
  | cons y ys ih => exact ih.right

/-- One list after the other. -/
theorem appended (xs ys : List α) : Interleaved xs ys (xs ++ ys) := by
  simpa using (nil_right xs).append (nil_left ys)

/-- A loop over a list whose steps are interleaved is interleaved. -/
theorem flatMap {l : List β} {f g k : β → List α} (h : ∀ b ∈ l, Interleaved (f b) (g b) (k b)) :
    Interleaved (l.flatMap f) (l.flatMap g) (l.flatMap k) := by
  induction l with
  | nil => exact nil
  | cons b l ih =>
    obtain ⟨hb, hl⟩ := List.forall_mem_cons.mp h
    exact hb.append (ih hl)

/-- The first of two lists that are interleaved is in the result, in its order. -/
theorem sublist (h : Interleaved xs ys zs) : xs.Sublist zs := by
  induction h with
  | nil => exact .slnil
  | left _ ih => exact ih.cons_cons _
  | right _ ih => exact ih.cons _

end Interleaved

/-! ### Settings with one more binding -/

/-- Bind a rule to one more detector, after those that it is bound to. -/
def Bindings.add (b : Bindings) (rule detector : String) : Bindings :=
  b.insert rule ((b.entries.lookup rule).getD [] ++ [detector])

/-- The same settings with one more binding. -/
def Settings.addBinding (s : Settings) (rule detector : String) : Settings :=
  { s with bindings := s.bindings.add rule detector }

/-- The single bindings of entries. -/
def Bindings.pairs (es : List (String × List String)) : List (String × String) :=
  es.flatMap fun e => e.2.map fun name => (e.1, name)

private theorem Bindings.mem_pairs {es : List (String × List String)} {b : String × String}
    (h : b ∈ pairs es) :
    ∃ e ∈ es, b.1 = e.1 := by
  obtain ⟨e, he, hb⟩ := List.mem_flatMap.mp h
  obtain ⟨name, -, rfl⟩ := List.mem_map.mp hb
  exact ⟨e, he, rfl⟩

/-- In ascending entries, a name that is added to those of a rule comes before the bindings of the
rules after it. -/
theorem Bindings.exists_pairs_insertEntry {es : List (String × List String)}
    (h : es.Pairwise (·.1 < ·.1)) (rule name : String) :
    ∃ before after, pairs es = before ++ after ∧
      pairs (insertEntry rule ((es.lookup rule).getD [] ++ [name]) es) =
        before ++ (rule, name) :: after ∧
      ∀ b ∈ after, b.1 ≠ rule := by
  induction es with
  | nil => exact ⟨[], [], rfl, rfl, nofun⟩
  | cons e es ih =>
    obtain ⟨key, names⟩ := e
    obtain ⟨hkey, hes⟩ := List.pairwise_cons.mp h
    rw [insertEntry]
    by_cases hlt : rule < key
    · -- all rules come after the new one
      have hafter : ∀ e ∈ (key, names) :: es, e.1 ≠ rule := by
        rintro e he rfl
        rcases List.mem_cons.mp he with rfl | he
        · exact String.lt_irrefl _ hlt
        · exact String.lt_irrefl _ (String.lt_trans hlt (hkey e he))
      have hlookup : List.lookup rule ((key, names) :: es) = none :=
        List.lookup_eq_none_iff.mpr fun e he => bne_iff_ne.mpr (hafter e he).symm
      rw [if_pos hlt, hlookup]
      refine ⟨[], pairs ((key, names) :: es), rfl, rfl, fun b hb => ?_⟩
      obtain ⟨e, he, hb⟩ := mem_pairs hb
      exact hb ▸ hafter e he
    · rw [if_neg hlt]
      by_cases heq : rule = key
      · subst heq
        rw [if_pos rfl, List.lookup_cons_self, Option.getD_some]
        refine ⟨names.map fun name => (rule, name), pairs es, rfl, ?_, fun b hb => ?_⟩
        · simp [pairs]
        · obtain ⟨e, he, hb⟩ := mem_pairs hb
          intro hrule
          exact String.lt_irrefl _ (hrule ▸ hb ▸ hkey e he)
      · obtain ⟨before, after, hpairs, hadded, hafter⟩ := ih hes
        have hlookup : List.lookup rule ((key, names) :: es) = List.lookup rule es := by
          rw [List.lookup_cons, beq_eq_false_iff_ne.mpr heq]
        rw [if_neg heq, hlookup]
        refine ⟨names.map (fun name => (key, name)) ++ before, after, ?_, ?_, hafter⟩
        · rw [List.append_assoc, ← hpairs]
          rfl
        · rw [List.append_assoc, ← hadded]
          rfl

/-- The new binding comes after all bindings of its rule, although not after all bindings. -/
theorem Settings.exists_settingsBindings_addBinding (s : Settings) (rule name : String) :
    ∃ before after, Registry.settingsBindings s = before ++ after ∧
      Registry.settingsBindings (s.addBinding rule name) = before ++ (rule, name) :: after ∧
      ∀ b ∈ after, b.1 ≠ rule :=
  Bindings.exists_pairs_insertEntry s.bindings.sorted rule name

/-! ### Detectors of a rule -/

namespace Registry

variable {s : Settings} {r r' : Registry} {d : Detector}

/-- A binding that is the last one for its rule adds its name to those of the rule, unless it is
among them. -/
theorem eraseDups_names_insert {before after : List (String × String)} {rule name : String}
    (h : ∀ b ∈ after, b.1 ≠ rule) (rule' : String) :
    (((before ++ (rule, name) :: after).filter fun b => b.1 = rule').map Prod.snd).eraseDups =
      (((before ++ after).filter fun b => b.1 = rule').map Prod.snd).eraseDups ++
        if rule' = rule ∧ (rule, name) ∉ before ++ after then [name] else [] := by
  by_cases hrule : rule' = rule
  · subst hrule
    -- nothing after the new pair is of its rule, so its name is the last one of the rule
    have hafter : (after.filter fun b => b.1 = rule') = [] :=
      List.filter_eq_nil_iff.mpr fun b hb => by simpa using h b hb
    have hmem : (rule', name) ∈ before ++ after ↔
        name ∈ (before.filter fun b => b.1 = rule').map Prod.snd := by
      have hnot : (rule', name) ∉ after := fun hmem => h _ hmem rfl
      simp [hnot]
    have hnew : ((before ++ (rule', name) :: after).filter fun b => b.1 = rule').map Prod.snd =
        (before.filter fun b => b.1 = rule').map Prod.snd ++ (some name).toList := by
      simp [hafter]
    rw [hnew, eraseDups_append_toList, List.filter_append, hafter, List.append_nil]
    by_cases hname : name ∈ (before.filter fun b => b.1 = rule').map Prod.snd
    · rw [if_neg fun hand => hand.2 (hmem.mpr hname)]
      simpa using hname
    · rw [if_pos ⟨rfl, fun hin => hname (hmem.mp hin)⟩]
      simpa using hname
  · have hne : ¬rule = rule' := fun e => hrule e.symm
    simp [hrule, hne]

/-- A built-in detector that is added to the bindings of a rule comes after the others, unless it
was bound to the rule before. -/
theorem detectorsFor_addBinding (hd : d ∈ Detect.builtin s) {rule : String}
    (h : withDefaults s = .ok r) (h' : withDefaults (s.addBinding rule d.name) = .ok r')
    (rule' : String) :
    r'.detectorsFor rule' = r.detectorsFor rule' ++
      if rule' = rule ∧ (rule, d.name) ∉ Detect.defaultBindings ++ settingsBindings s then [d]
        else [] := by
  obtain ⟨before, after, hbefore, hadded, hafter⟩ :=
    s.exists_settingsBindings_addBinding rule d.name
  have hdetectors : r'.detectors = r.detectors := by
    rw [detectors_withDefaults h', detectors_withDefaults h]
    rfl
  have hdetector : r'.detector? = r.detector? := by
    funext name
    rw [detector?, hdetectors, detector?]
  have hd' : r.detector? d.name = some d := by
    refine detector?_of_mem (wellFormed_withDefaults h).nodup_names ?_
    rw [detectors_withDefaults h]
    exact hd
  have hnames : r'.namesFor rule' = r.namesFor rule' ++
      if rule' = rule ∧ (rule, d.name) ∉ Detect.defaultBindings ++ settingsBindings s then [d.name]
        else [] := by
    rw [namesFor_withDefaults h', namesFor_withDefaults h, hadded, hbefore, ← List.append_assoc,
      ← List.append_assoc]
    exact eraseDups_names_insert hafter rule'
  -- names determine detectors, and both registries have the same detectors
  refine List.map_injective_iff.mpr (fun _ _ => Option.some.inj) ?_
  rw [← (wellFormed_withDefaults h').map_detector?_namesFor, hnames, hdetector, List.map_append,
    List.map_append, (wellFormed_withDefaults h).map_detector?_namesFor]
  by_cases hnew : rule' = rule ∧ (rule, d.name) ∉ Detect.defaultBindings ++ settingsBindings s
  · rw [if_pos hnew, if_pos hnew, List.map_singleton, List.map_singleton, hd']
  · rw [if_neg hnew, if_neg hnew, List.map_nil, List.map_nil]

/-- A known name does not change which name is the first unknown one. -/
theorem withDefaults_addBinding_eq_error_iff (hd : d ∈ Detect.builtin s) (rule : String)
    {err : RuleError} :
    withDefaults (s.addBinding rule d.name) = .error err ↔ withDefaults s = .error err := by
  obtain ⟨before, after, hbefore, hadded, -⟩ := s.exists_settingsBindings_addBinding rule d.name
  have hknown : d.name ∈ Detect.builtinNames := map_name_builtin s ▸ List.mem_map_of_mem hd
  have hfind : ((settingsBindings (s.addBinding rule d.name)).find? fun b =>
      b.2 ∉ Detect.builtinNames) =
      (settingsBindings s).find? fun b => b.2 ∉ Detect.builtinNames := by
    rw [hadded, hbefore, List.find?_append, List.find?_append, List.find?_cons_of_neg]
    simpa using hknown
  rw [withDefaults_eq_error_iff, withDefaults_eq_error_iff, hfind]

/-- The registry with one detector, which is bound to one rule. -/
def only (rule : String) (d : Detector) : Registry where
  detectors := [d]
  bindings := [(rule, [0])]

private theorem detectorsFor_only (rule rule' : String) (d : Detector) :
    (only rule d).detectorsFor rule' = if rule' = rule then [d] else [] := by
  by_cases hrule : rule' = rule
  · simp [only, detectorsFor, boundTo, hrule]
  · simp [only, detectorsFor, boundTo, List.lookup_cons, beq_eq_false_iff_ne.mpr hrule, hrule]

end Registry

/-! ### Extraction -/

namespace Engine

/-- Detectors that come after the others of their rules put their snippets between those of the
others. -/
theorem extract_interleaved {r more r' : Registry}
    (h : ∀ rule, r'.detectorsFor rule = r.detectorsFor rule ++ more.detectorsFor rule)
    (rules : List Rule) (u : SourceUnit) :
    Interleaved (extract ⟨rules, r⟩ u) (extract ⟨rules, more⟩ u) (extract ⟨rules, r'⟩ u) := by
  refine .flatMap fun i _ => .flatMap fun rule _ => ?_
  rw [extractFor, extractFor, extractFor, h, List.flatMap_append]
  exact .appended _ _

/-- **One more binding adds snippets and changes nothing else.** With one more binding of a
built-in detector, there is an engine just if there was one before, and it makes the same snippets
in the same order. Between them are those that the detector makes at the nodes for its rule, or
none if it was bound to the rule before. -/
theorem extract_addBinding (rules : List Rule) {s : Settings} {d : Detector}
    (hd : d ∈ Detect.builtin s) (rule : String) (u : SourceUnit) :
    (∀ err, ofRuleSet ⟨rules, s.addBinding rule d.name⟩ = .error err ↔
      ofRuleSet ⟨rules, s⟩ = .error err) ∧
    ∀ e, ofRuleSet ⟨rules, s⟩ = .ok e → ∃ e', ofRuleSet ⟨rules, s.addBinding rule d.name⟩ = .ok e' ∧
      (e.extract u).Sublist (e'.extract u) ∧
      Interleaved (e.extract u)
        (if (rule, d.name) ∈ Detect.defaultBindings ++ Registry.settingsBindings s then []
          else extract ⟨rules, .only rule d⟩ u)
        (e'.extract u) := by
  constructor
  · intro err
    rw [ofRuleSet_eq_error_iff, ofRuleSet_eq_error_iff]
    exact Registry.withDefaults_addBinding_eq_error_iff hd rule
  · intro e he
    obtain ⟨hregistry, rfl⟩ := ofRuleSet_eq_ok_iff.mp he
    obtain ⟨r', hr'⟩ : ∃ r', Registry.withDefaults (s.addBinding rule d.name) = .ok r' := by
      cases hr' : Registry.withDefaults (s.addBinding rule d.name) with
      | ok r' => exact ⟨r', rfl⟩
      | error err =>
        rw [(Registry.withDefaults_addBinding_eq_error_iff hd rule).mp hr'] at hregistry
        cases hregistry
    -- the detectors of each rule are as before, except for the one that is added to `rule`
    have hfor := Registry.detectorsFor_addBinding hd hregistry hr'
    have hmade : Interleaved (e.extract u)
        (if (rule, d.name) ∈ Detect.defaultBindings ++ Registry.settingsBindings s then []
          else extract ⟨e.rules, .only rule d⟩ u)
        (extract ⟨e.rules, r'⟩ u) := by
      split
      · next hbound =>
        -- the name is bound already, and binding it once more changes nothing
        have hsame : extract ⟨e.rules, r'⟩ u = e.extract u := by
          refine List.flatMap_congr fun i _ => List.flatMap_congr fun rule' _ => ?_
          rw [extractFor, hfor, if_neg fun hand => hand.2 hbound, List.append_nil, extractFor]
        rw [hsame]
        exact .nil_right _
      · next hnew =>
        refine extract_interleaved (fun rule' => ?_) e.rules u
        rw [hfor, Registry.detectorsFor_only]
        simp only [hnew, not_false_eq_true, and_true]
    exact ⟨⟨e.rules, r'⟩, ofRuleSet_eq_ok_iff.mpr ⟨hr', rfl⟩, hmade.sublist, hmade⟩

/-- One rule, to which the detector of outlines is bound from the start. -/
def outlineRules : List Rule :=
  [{ id := "RULE-022", scope := "CLASS_DECLARATION" }]

/-- A source with two classes. -/
def redAndBlue : SourceUnit where
  path := "Colours.java"
  tree := SyntaxTree.ofSource ""
    |>.push 0 { kind := .typeDecl { kind := .classType }, name := some ⟨"Red", none⟩ }
    |>.push 0 { kind := .typeDecl { kind := .classType }, name := some ⟨"Blue", none⟩ }

/-- With names added to outlines, each class is reported twice. -/
theorem extract_outlines_and_names :
    ∃ e e', ofRuleSet ⟨outlineRules, {}⟩ = .ok e ∧
      ofRuleSet ⟨outlineRules, Settings.addBinding {} "RULE-022" "naming"⟩ = .ok e' ∧
      (e.extract redAndBlue).map (fun s => s.finding.subject) = ["class Red", "class Blue"] ∧
      (e'.extract redAndBlue).map (fun s => s.finding.subject) =
        ["class Red", "Red", "class Blue", "Blue"] ∧
      Interleaved (e.extract redAndBlue)
        (extract ⟨outlineRules, .only "RULE-022" Detect.naming⟩ redAndBlue)
        (e'.extract redAndBlue) := by
  have hbefore : (ofRuleSet ⟨outlineRules, {}⟩).map (fun e =>
      (e.extract redAndBlue).map fun s => s.finding.subject) = .ok ["class Red", "class Blue"] := by
    decide +kernel
  have hafter : (ofRuleSet ⟨outlineRules, Settings.addBinding {} "RULE-022" "naming"⟩).map (fun e =>
      (e.extract redAndBlue).map fun s => s.finding.subject) =
          .ok ["class Red", "Red", "class Blue", "Blue"] := by
    decide +kernel
  have hnew : ("RULE-022", "naming") ∉ Detect.defaultBindings ++ Registry.settingsBindings {} := by
    decide +kernel
  have hnaming : Detect.naming ∈ Detect.builtin {} := List.mem_cons_self
  cases he : ofRuleSet ⟨outlineRules, {}⟩ with
  | error err =>
    rw [he] at hbefore
    cases hbefore
  | ok e =>
    obtain ⟨e', he', -, hmade⟩ :=
      (extract_addBinding outlineRules hnaming "RULE-022" redAndBlue).2 e he
    rw [he] at hbefore
    rw [show Detect.naming.name = "naming" from rfl] at he' hmade
    rw [he'] at hafter
    rw [if_neg hnew] at hmade
    exact ⟨e, e', rfl, he', Except.ok.inj hbefore, Except.ok.inj hafter, hmade⟩

end Engine

end Excerpt
