import Excerpt.Detect.Registry
import Mathlib.Data.List.Induction
import Mathlib.Data.List.Nodup

/-!
# Registries and their histories

Bindings are places in a list of detectors, and the list changes: a detector is added at its end,
or takes the place of one with the same name. `Registry.WellFormed` says that no name occurs twice
and that every bound place is in the list. As long as this holds, a place stands for a name: what
`register` and `bind` do can be said in terms of names alone
(`Registry.WellFormed.detectorsFor_register`, `Registry.WellFormed.namesFor_bind`).

A history is a list of requests, each of which is answered and leaves a registry. A request keeps
the registry well formed, whether it succeeds or fails, so any history does
(`Registry.WellFormed.run`).

The detectors of a rule can be read off the history, without the registries in between
(`Registry.run_reflects_history`): they are those of the names that were bound to it with success,
each name at its first place and with the detector that was registered under it last. There are
three such readings, for the names of a registry (`names_run`), for the detector of a name
(`detector?_run`) and for the names of a rule (`namesFor_run`), each by induction on the history
from its end.

## Main results

* `Registry.WellFormed.perform`, `Registry.WellFormed.run`: requests keep the invariant.
* `Registry.WellFormed.map_detector?_namesFor`: places stand for names.
* `Registry.run_reflects_history`: what a history leads to.
-/

namespace Excerpt

/-- What stands at the place of `d'` after `d` is registered. -/
def Detector.replacing (d d' : Detector) : Detector :=
  if d'.name = d.name then d else d'

private theorem Detector.name_replacing (d d' : Detector) : (d.replacing d').name = d'.name := by
  rw [replacing]
  split
  · next h => exact h.symm
  · rfl

private theorem Detector.replacing_of_ne {d d' : Detector} (h : d'.name ≠ d.name) :
    d.replacing d' = d' :=
  if_neg h

namespace Registry

variable {r r' : Registry} {d d' : Detector} {rule rule' name : String} {i : Nat}

/-! ### Names and their places -/

private theorem getElem?_names (r : Registry) (i : Nat) :
    r.names[i]? = r.detectors[i]?.map Detector.name :=
  List.getElem?_map

private theorem indexOf?_eq_none_iff : r.indexOf? name = none ↔ name ∉ r.names := by
  simp [indexOf?, names, List.findIdx?_eq_none_iff]

private theorem getElem?_names_of_indexOf? (h : r.indexOf? name = some i) :
    r.names[i]? = some name := by
  obtain ⟨hi, hname, -⟩ := List.findIdx?_eq_some_iff_getElem.mp h
  rw [getElem?_names, List.getElem?_eq_getElem hi, Option.map_some, eq_of_beq hname]

/-- Without repeated names, a name has one place. -/
theorem indexOf?_eq_some_iff (h : r.names.Nodup) :
    r.indexOf? name = some i ↔ r.names[i]? = some name := by
  refine ⟨getElem?_names_of_indexOf?, fun hi => ?_⟩
  cases hj : r.indexOf? name with
  | none => exact absurd (List.mem_of_getElem? hi) (indexOf?_eq_none_iff.mp hj)
  | some j =>
    have hlt : j < r.names.length :=
      (List.getElem?_eq_some_iff.mp (getElem?_names_of_indexOf? hj)).1
    rw [(List.getElem?_inj hlt h).mp ((getElem?_names_of_indexOf? hj).trans hi.symm)]

/-- The detector of a name. -/
def detector? (r : Registry) (name : String) : Option Detector :=
  r.detectors.find? (·.name == name)

private theorem detector?_eq_none_iff : r.detector? name = none ↔ name ∉ r.names := by
  simp [detector?, names]

private theorem name_of_detector? (h : r.detector? name = some d) : d.name = name := by
  simpa using List.find?_some h

/-- Without repeated names, a detector is found by its name. -/
theorem detector?_of_mem (h : r.names.Nodup) (hd : d ∈ r.detectors) :
    r.detector? d.name = some d := by
  cases hf : r.detector? d.name with
  | none => exact absurd (List.mem_map_of_mem hd) (detector?_eq_none_iff.mp hf)
  | some d' =>
    rw [List.inj_on_of_nodup_map h (List.mem_of_find?_eq_some hf) hd (name_of_detector? hf)]

/-! ### Registering -/

/-- A detector with a new name comes last. -/
theorem detectors_register_of_notMem (hd : d.name ∉ r.names) :
    (r.register d).detectors = r.detectors ++ [d] := by
  rw [register, indexOf?_eq_none_iff.mpr hd]

private theorem detectors_register_of_mem (h : r.names.Nodup) (hd : d.name ∈ r.names) :
    (r.register d).detectors = r.detectors.map d.replacing := by
  cases hi : r.indexOf? d.name with
  | none => exact absurd hd (indexOf?_eq_none_iff.mp hi)
  | some i =>
    rw [register, hi]
    refine List.ext_getElem? fun j => ?_
    rw [List.getElem?_set, List.getElem?_map]
    by_cases hij : i = j
    · subst hij
      obtain ⟨hlt, hname, -⟩ := List.findIdx?_eq_some_iff_getElem.mp hi
      rw [if_pos rfl, if_pos hlt, List.getElem?_eq_getElem hlt, Option.map_some, Detector.replacing,
        if_pos (eq_of_beq hname)]
    · rw [if_neg hij]
      cases hj : r.detectors[j]? with
      | none => rfl
      | some d' =>
        -- another place holds another name
        have hne : d'.name ≠ d.name := by
          intro hname
          have hplace : r.names[j]? = some d.name := by
            rw [getElem?_names, hj, Option.map_some, hname]
          rw [(indexOf?_eq_some_iff h).mpr hplace] at hi
          exact hij (Option.some.inj hi).symm
        rw [Option.map_some, Detector.replacing_of_ne hne]

/-- Registering a detector changes no binding. -/
@[simp]
theorem bindings_register (r : Registry) (d : Detector) : (r.register d).bindings = r.bindings := by
  rw [register]
  split <;> rfl

/-- Registering a detector changes no place that is bound to a rule. -/
@[simp]
theorem boundTo_register (r : Registry) (d : Detector) (rule : String) :
    (r.register d).boundTo rule = r.boundTo rule := by
  rw [boundTo, bindings_register, boundTo]

private theorem names_register_of_mem (h : r.names.Nodup) (hd : d.name ∈ r.names) :
    (r.register d).names = r.names := by
  rw [names, detectors_register_of_mem h hd, List.map_map, names]
  exact List.map_congr_left fun d' _ => d.name_replacing d'

/-- A new name comes last. -/
theorem names_register_of_notMem (hd : d.name ∉ r.names) :
    (r.register d).names = r.names ++ [d.name] := by
  rw [names, detectors_register_of_notMem hd, List.map_append, List.map_singleton, names]

/-- Of all names, only that of the new detector leads to another detector. -/
theorem detector?_register (h : r.names.Nodup) :
    (r.register d).detector? name = if d.name = name then some d else r.detector? name := by
  by_cases hd : d.name ∈ r.names
  · -- a detector of the same name is replaced where it stands
    have hfind : (r.register d).detector? name = (r.detector? name).map d.replacing := by
      rw [detector?, detectors_register_of_mem h hd, List.find?_map, detector?]
      simp only [Function.comp_def, Detector.name_replacing]
    rw [hfind]
    cases hf : r.detector? name with
    | none =>
      have hne : d.name ≠ name := fun hname => detector?_eq_none_iff.mp hf (hname ▸ hd)
      rw [if_neg hne, Option.map_none]
    | some d' =>
      rw [Option.map_some, Detector.replacing, name_of_detector? hf]
      simp only [eq_comm (a := name), apply_ite some]
  · -- a detector of a new name comes last
    rw [detector?, detectors_register_of_notMem hd, List.find?_append, List.find?_singleton,
      ← detector?]
    by_cases hname : d.name = name
    · rw [if_pos hname, detector?_eq_none_iff.mpr (hname ▸ hd), Option.none_or,
        if_pos (beq_iff_eq.mpr hname)]
    · rw [if_neg hname, if_neg (fun h => hname (beq_iff_eq.mp h)), Option.or_none]

/-! ### Binding -/

private theorem lookup_bindPlace (rule rule' : String) (i : Nat) (bs : List (String × List Nat)) :
    ((bindPlace rule i bs).lookup rule').getD [] =
      if rule' = rule ∧ i ∉ (bs.lookup rule).getD [] then (bs.lookup rule).getD [] ++ [i]
      else (bs.lookup rule').getD [] := by
  induction bs with
  | nil =>
    by_cases h : rule' = rule
    · simp [bindPlace, h]
    · simp [bindPlace, List.lookup_cons, beq_eq_false_iff_ne.mpr h, h]
  | cons b bs ih =>
    obtain ⟨key, places⟩ := b
    rw [bindPlace]
    -- the entry is changed where it is found; all before it are of other rules
    by_cases hkey : key = rule
    · subst hkey
      by_cases h : rule' = key
      · by_cases hi : i ∈ places <;> simp [h, hi]
      · simp [List.lookup_cons, beq_eq_false_iff_ne.mpr h, h]
    · have hrule : (rule == key) = false := beq_eq_false_iff_ne.mpr fun e => hkey e.symm
      rw [if_neg hkey, List.lookup_cons, List.lookup_cons, List.lookup_cons, hrule]
      by_cases h : rule' = key
      · simp [h, hkey]
      · have hrule' : (rule' == key) = false := beq_eq_false_iff_ne.mpr h
        simpa only [hrule'] using ih

private theorem mem_bindPlace {bs : List (String × List Nat)} {b : String × List Nat} {j : Nat}
    (hb : b ∈ bindPlace rule i bs) (hj : j ∈ b.2) : j = i ∨ ∃ b' ∈ bs, j ∈ b'.2 := by
  induction bs with
  | nil =>
    cases List.mem_singleton.mp hb
    exact .inl (List.mem_singleton.mp hj)
  | cons a bs ih =>
    obtain ⟨key, places⟩ := a
    rw [bindPlace] at hb
    split at hb
    · rcases List.mem_cons.mp hb with rfl | hb
      · have hplaces : j ∈ places ∨ j = i := by
          split at hj
          · exact .inl hj
          · simpa using hj
        exact hplaces.symm.imp_right fun hj => ⟨_, List.mem_cons_self, hj⟩
      · exact .inr ⟨b, List.mem_cons_of_mem _ hb, hj⟩
    · rcases List.mem_cons.mp hb with rfl | hb
      · exact .inr ⟨_, List.mem_cons_self, hj⟩
      · exact (ih hb).imp_right fun ⟨b', hb', hj⟩ => ⟨b', List.mem_cons_of_mem _ hb', hj⟩

/-- What a binding does, if the name is known. -/
theorem bind_eq_ok_iff : r.bind rule name = .ok r' ↔
    ∃ i, r.indexOf? name = some i ∧ r' = { r with bindings := bindPlace rule i r.bindings } := by
  rw [bind]
  cases r.indexOf? name with
  | none => simp
  | some i => simp [eq_comm]

private theorem detectors_bind (h : r.bind rule name = .ok r') : r'.detectors = r.detectors := by
  obtain ⟨i, -, rfl⟩ := bind_eq_ok_iff.mp h
  rfl

/-! ### Places that mean names -/

/-- No name is registered twice, and every bound place is that of a detector. -/
structure WellFormed (r : Registry) : Prop where
  nodup_names : r.names.Nodup
  lt_length : ∀ b ∈ r.bindings, ∀ i ∈ b.2, i < r.detectors.length

/-- An empty registry is well formed. -/
theorem wellFormed_empty : WellFormed {} :=
  ⟨List.nodup_nil, fun _ hb => absurd hb List.not_mem_nil⟩

/-- Registering a detector keeps a registry well formed. -/
theorem WellFormed.register (h : r.WellFormed) (d : Detector) : (r.register d).WellFormed := by
  by_cases hd : d.name ∈ r.names
  · refine ⟨?_, fun b hb i hi => ?_⟩
    · rw [names_register_of_mem h.nodup_names hd]
      exact h.nodup_names
    · rw [bindings_register] at hb
      rw [detectors_register_of_mem h.nodup_names hd, List.length_map]
      exact h.lt_length b hb i hi
  · refine ⟨?_, fun b hb i hi => ?_⟩
    · rw [names_register_of_notMem hd, ← List.concat_eq_append]
      exact h.nodup_names.concat hd
    · rw [bindings_register] at hb
      rw [detectors_register_of_notMem hd, List.length_append]
      exact Nat.lt_add_right _ (h.lt_length b hb i hi)

/-- A binding that succeeds keeps a registry well formed. -/
theorem WellFormed.bind (h : r.WellFormed) (hb : r.bind rule name = .ok r') : r'.WellFormed := by
  obtain ⟨i, hi, rfl⟩ := bind_eq_ok_iff.mp hb
  refine ⟨h.nodup_names, fun b hb j hj => ?_⟩
  rcases mem_bindPlace hb hj with rfl | ⟨b', hb', hj⟩
  · exact (List.findIdx?_eq_some_iff_getElem.mp hi).1
  · exact h.lt_length b' hb' j hj

private theorem WellFormed.lt_of_mem_boundTo (h : r.WellFormed) (hi : i ∈ r.boundTo rule) :
    i < r.detectors.length := by
  rw [boundTo] at hi
  cases hl : r.bindings.lookup rule with
  | none => simp [hl] at hi
  | some places =>
    rw [hl, Option.getD_some] at hi
    obtain ⟨l₁, l₂, hsplit, -⟩ := List.lookup_eq_some_iff.mp hl
    have hmem : (rule, places) ∈ r.bindings := hsplit ▸ List.mem_append_right _ List.mem_cons_self
    exact h.lt_length _ hmem i hi

/-- The places of a rule lead to detectors, all of them. -/
theorem WellFormed.map_getElem?_boundTo (h : r.WellFormed) (rule : String) :
    (r.boundTo rule).map (fun i => r.detectors[i]?) = (r.detectorsFor rule).map some := by
  have hplaces : ∀ places : List Nat, (∀ i ∈ places, i < r.detectors.length) →
      places.map (fun i => r.detectors[i]?) =
        (places.filterMap fun i => r.detectors[i]?).map some := by
    intro places hlt
    induction places with
    | nil => rfl
    | cons i places ih =>
      have hi := List.getElem?_eq_getElem (hlt i List.mem_cons_self)
      rw [List.map_cons, List.filterMap_cons_some hi, List.map_cons, hi,
        ih fun j hj => hlt j (List.mem_cons_of_mem i hj)]
  exact hplaces _ fun i hi => h.lt_of_mem_boundTo hi

/-- The names of the detectors that are bound to a rule. -/
def namesFor (r : Registry) (rule : String) : List String :=
  (r.detectorsFor rule).map Detector.name

/-- The detectors of a rule are among all detectors. -/
theorem mem_of_mem_detectorsFor (hd : d ∈ r.detectorsFor rule) : d ∈ r.detectors := by
  obtain ⟨i, -, hi⟩ := List.mem_filterMap.mp hd
  exact List.mem_of_getElem? hi

/-- The detectors of a rule are those of their names. -/
theorem WellFormed.map_detector?_namesFor (h : r.WellFormed) (rule : String) :
    (r.namesFor rule).map r.detector? = (r.detectorsFor rule).map some := by
  rw [namesFor, List.map_map]
  exact List.map_congr_left fun d hd => detector?_of_mem h.nodup_names (mem_of_mem_detectorsFor hd)

/-- A new detector takes the place of the one with its name and changes no other binding. -/
theorem WellFormed.detectorsFor_register (h : r.WellFormed) (d : Detector) (rule : String) :
    (r.register d).detectorsFor rule = (r.detectorsFor rule).map d.replacing := by
  rw [detectorsFor, boundTo_register, detectorsFor, List.map_filterMap]
  refine List.filterMap_congr fun i hi => ?_
  by_cases hd : d.name ∈ r.names
  · rw [detectors_register_of_mem h.nodup_names hd, List.getElem?_map]
  · -- a new name goes to the end, where no bound place is
    have hlt := h.lt_of_mem_boundTo hi
    have hne : r.detectors[i].name ≠ d.name := fun hname =>
      hd (hname ▸ List.mem_map_of_mem (List.getElem_mem hlt))
    rw [detectors_register_of_notMem hd, List.getElem?_append_left hlt,
      List.getElem?_eq_getElem hlt, Option.map_some, Detector.replacing_of_ne hne]

private theorem WellFormed.namesFor_register (h : r.WellFormed) (d : Detector) (rule : String) :
    (r.register d).namesFor rule = r.namesFor rule := by
  rw [namesFor, h.detectorsFor_register, List.map_map, namesFor]
  exact List.map_congr_left fun d' _ => d.name_replacing d'

/-- Among the places of a rule is that of a name just if the name is bound to the rule. -/
theorem WellFormed.mem_boundTo_iff (h : r.WellFormed) (hi : r.indexOf? name = some i) :
    i ∈ r.boundTo rule ↔ name ∈ r.namesFor rule := by
  have hplace := getElem?_names_of_indexOf? hi
  simp only [namesFor, detectorsFor, List.map_filterMap, List.mem_filterMap, ← getElem?_names]
  constructor
  · exact fun hmem => ⟨i, hmem, hplace⟩
  · rintro ⟨j, hmem, hj⟩
    rw [← indexOf?_eq_some_iff h.nodup_names, hi, Option.some_inj] at hj
    exact hj ▸ hmem

/-- A binding adds a name to those of its rule, at their end and unless it is among them. -/
theorem WellFormed.namesFor_bind (h : r.WellFormed) (hb : r.bind rule name = .ok r')
    (rule' : String) :
    r'.namesFor rule' =
      if rule' = rule ∧ name ∉ r.namesFor rule then r.namesFor rule ++ [name]
        else r.namesFor rule' := by
  obtain ⟨i, hi, rfl⟩ := bind_eq_ok_iff.mp hb
  have hbound : (Registry.boundTo { r with bindings := bindPlace rule i r.bindings } rule') =
      if rule' = rule ∧ name ∉ r.namesFor rule then r.boundTo rule ++ [i] else r.boundTo rule' := by
    simp only [← h.mem_boundTo_iff hi]
    exact lookup_bindPlace rule rule' i r.bindings
  simp only [namesFor, detectorsFor, List.map_filterMap, ← getElem?_names] at hbound ⊢
  rw [hbound]
  split
  · rw [List.filterMap_append, List.filterMap_cons_some (getElem?_names_of_indexOf? hi),
      List.filterMap_nil]
  · rfl

/-! ### Histories -/

/-- What is asked of a registry. -/
inductive Request
  | register (d : Detector)
  | bind (rule detector : String)

/-- The answer to a request, and the registry after it. -/
def perform (r : Registry) : Request → Except RuleError Unit × Registry
  | .register d => (.ok (), r.register d)
  | .bind rule detector =>
    match r.bind rule detector with
    | .ok r' => (.ok (), r')
    | .error e => (.error e, r)

/-- The registry after requests. -/
def run (r : Registry) (requests : List Request) : Registry :=
  requests.foldl (fun r q => (r.perform q).2) r

/-- The name that a request binds to the rule with success. -/
def accepted? (r : Registry) (rule : String) : Request → Option String
  | .register _ => none
  | .bind rule' name =>
    if rule' = rule ∧ (r.perform (.bind rule' name)).1.isOk then some name else none

/-- The names that requests bind to the rule with success, one after the other. -/
def accepted (rule : String) : Registry → List Request → List String
  | _, [] => []
  | r, q :: qs => (r.accepted? rule q).toList ++ accepted rule (r.perform q).2 qs

/-- The detector of a request to register. -/
def Request.detector? : Request → Option Detector
  | .register d => some d
  | .bind _ _ => none

/-- The detector that is registered last under a name. -/
def latest? (requests : List Request) (name : String) : Option Detector :=
  ((requests.filterMap Request.detector?).filter (·.name == name)).getLast?

/-- A binding succeeds if the name is known. Otherwise it fails, and nothing changes. -/
theorem perform_bind_cases (r : Registry) (rule name : String) :
    (name ∈ r.names ∧ ∃ r', r.bind rule name = .ok r' ∧
      r.perform (.bind rule name) = (.ok (), r')) ∨
    (name ∉ r.names ∧ r.bind rule name = .error (.unknownDetector rule name) ∧
      r.perform (.bind rule name) = (.error (.unknownDetector rule name), r)) := by
  rw [perform, bind]
  cases hi : r.indexOf? name with
  | none => exact .inr ⟨indexOf?_eq_none_iff.mp hi, rfl, rfl⟩
  | some i => exact .inl ⟨List.mem_of_getElem? (getElem?_names_of_indexOf? hi), _, rfl, rfl⟩

/-- A binding changes no detector, whether or not it succeeds. -/
theorem detectors_perform_bind (r : Registry) (rule name : String) :
    (r.perform (.bind rule name)).2.detectors = r.detectors := by
  obtain ⟨-, r', hb, hperform⟩ | ⟨-, -, hperform⟩ := r.perform_bind_cases rule name
  · rw [hperform, detectors_bind hb]
  · rw [hperform]

/-- A binding succeeds just if the name is known. -/
theorem perform_bind_fst_eq_ok_iff : (r.perform (.bind rule name)).1 = .ok () ↔ name ∈ r.names := by
  obtain ⟨hname, r', -, hperform⟩ | ⟨hname, -, hperform⟩ := r.perform_bind_cases rule name
  · rw [hperform]
    exact iff_of_true rfl hname
  · rw [hperform]
    exact iff_of_false nofun hname

/-- **One request keeps a registry well formed**, whatever the answer to it is. -/
theorem WellFormed.perform (h : r.WellFormed) (q : Request) : (r.perform q).2.WellFormed := by
  cases q with
  | register d => exact h.register d
  | bind rule name =>
    obtain ⟨-, r', hb, hperform⟩ | ⟨-, -, hperform⟩ := r.perform_bind_cases rule name
    · rw [hperform]
      exact h.bind hb
    · rw [hperform]
      exact h

/-- **Any history keeps a registry well formed.** -/
theorem WellFormed.run (h : r.WellFormed) (requests : List Request) :
    (r.run requests).WellFormed := by
  induction requests generalizing r with
  | nil => exact h
  | cons q qs ih => exact ih (h.perform q)

/-- A history in two parts. -/
theorem run_append (r : Registry) (qs qs' : List Request) :
    r.run (qs ++ qs') = (r.run qs).run qs' :=
  List.foldl_append

/-- The names that are bound to a rule in two parts of a history. -/
theorem accepted_append (rule : String) (r : Registry) (qs qs' : List Request) :
    accepted rule r (qs ++ qs') = accepted rule r qs ++ accepted rule (r.run qs) qs' := by
  induction qs generalizing r with
  | nil => rfl
  | cons q qs ih =>
    rw [List.cons_append, accepted, ih, accepted, List.append_assoc]
    rfl

/-- One more request adds the name that it binds with success to the names of a rule. -/
theorem WellFormed.namesFor_perform (h : r.WellFormed) (q : Request) (rule : String) :
    (r.perform q).2.namesFor rule =
      r.namesFor rule ++ (r.accepted? rule q).toList.filter fun name => name ∉ r.namesFor rule := by
  cases q with
  | register d =>
    rw [accepted?, Option.toList_none, List.filter_nil, List.append_nil]
    exact h.namesFor_register d rule
  | bind rule' name =>
    obtain ⟨-, r', hb, hperform⟩ | ⟨-, -, hperform⟩ := r.perform_bind_cases rule' name
    · rw [accepted?, hperform, h.namesFor_bind hb]
      by_cases hrule : rule = rule'
      · subst hrule
        by_cases hname : name ∈ r.namesFor rule <;> simp [hname, Except.isOk, Except.toBool]
      · simp [hrule, Ne.symm hrule]
    · simp [accepted?, hperform, Except.isOk, Except.toBool]

/-- A name more comes last among names without repeats, unless it is one of them. -/
theorem eraseDups_append_toList (names : List String) (name? : Option String) :
    (names ++ name?.toList).eraseDups =
      names.eraseDups ++ name?.toList.filter fun name => name ∉ names.eraseDups := by
  rw [List.eraseDups_append]
  cases name? with
  | none => rfl
  | some name => by_cases hname : name ∈ names <;> simp [List.removeAll, List.eraseDups_cons, hname]

/-- The names of a rule are those that were bound to it with success, without repeats. -/
theorem namesFor_run (requests : List Request) (rule : String) :
    (run {} requests).namesFor rule = (accepted rule {} requests).eraseDups := by
  induction requests using List.reverseRecOn with
  | nil => rfl
  | append_singleton qs q ih =>
    have hwell : (run {} qs).WellFormed := wellFormed_empty.run qs
    calc (run {} (qs ++ [q])).namesFor rule
        = ((run {} qs).perform q).2.namesFor rule := by rw [run_append]; rfl
      _ = (accepted rule {} qs).eraseDups ++
            ((run {} qs).accepted? rule q).toList.filter fun name =>
              name ∉ (accepted rule {} qs).eraseDups := by
          rw [hwell.namesFor_perform, ih]
      _ = (accepted rule {} qs ++ ((run {} qs).accepted? rule q).toList).eraseDups :=
          (eraseDups_append_toList _ _).symm
      _ = (accepted rule {} (qs ++ [q])).eraseDups := by
          rw [accepted_append, accepted, accepted, List.append_nil]

/-- The names are those of the registered detectors, without repeats. -/
theorem names_run (requests : List Request) :
    (run {} requests).names =
      ((requests.filterMap Request.detector?).map Detector.name).eraseDups := by
  -- the last request finds the registry that the others have made, so the last one is split off
  induction requests using List.reverseRecOn with
  | nil => rfl
  | append_singleton qs q ih =>
    have hnodup : (run {} qs).names.Nodup := (wellFormed_empty.run qs).nodup_names
    rw [run_append, List.filterMap_append, List.map_append]
    cases q with
    | register d =>
      have hregister : (run {} qs).run [.register d] = (run {} qs).register d := rfl
      have hname : ([Request.register d].filterMap Request.detector?).map Detector.name =
          (some d.name).toList := rfl
      rw [hregister, hname, eraseDups_append_toList, ← ih]
      by_cases hd : d.name ∈ (run {} qs).names
      · rw [names_register_of_mem hnodup hd]
        simpa using hd
      · rw [names_register_of_notMem hd]
        simp [hd]
    | bind rule name =>
      have hbind : (run {} qs).run [.bind rule name] = ((run {} qs).perform (.bind rule name)).2 :=
        rfl
      rw [hbind, names, detectors_perform_bind, List.filterMap_cons_none rfl, List.filterMap_nil,
        List.map_nil, List.append_nil, ← ih, names]

private theorem latest?_append_register (qs : List Request) (d : Detector) (name : String) :
    latest? (qs ++ [.register d]) name = if d.name = name then some d else latest? qs name := by
  rw [latest?, List.filterMap_append, List.filter_append]
  by_cases hname : d.name = name <;> simp [Request.detector?, hname, latest?]

/-- A name stands for the detector that was registered last under it. -/
theorem detector?_run (requests : List Request) (name : String) :
    (run {} requests).detector? name = latest? requests name := by
  induction requests using List.reverseRecOn with
  | nil => rfl
  | append_singleton qs q ih =>
    have hwell : (run {} qs).WellFormed := wellFormed_empty.run qs
    rw [run_append]
    cases q with
    | register d =>
      rw [latest?_append_register, ← ih]
      exact detector?_register hwell.nodup_names
    | bind rule name' =>
      -- binding registers nothing
      have hlatest : latest? (qs ++ [.bind rule name']) name = latest? qs name := by
        rw [latest?, List.filterMap_append, List.filterMap_cons_none rfl, List.filterMap_nil,
          List.append_nil, latest?]
      rw [hlatest, ← ih]
      exact congrArg (List.find? (·.name == name)) (detectors_perform_bind _ rule name')

/-- **A registry reflects its history.** After any history the names are those that were
registered, each once, and bound places are those of detectors. A binding of any other name fails
and leaves the registry as it was. A detector that is registered again takes over all bindings at
their places. The detectors of a rule are those of the names that were bound to it with success,
each name where it was bound first and with the detector that was registered last under it. -/
theorem run_reflects_history (requests : List Request) :
    let r := run {} requests
    r.names.Nodup ∧
    r.names = ((requests.filterMap Request.detector?).map Detector.name).eraseDups ∧
    (∀ b ∈ r.bindings, ∀ i ∈ b.2, i < r.detectors.length) ∧
    (∀ rule, (r.boundTo rule).map (fun i => r.detectors[i]?) = (r.detectorsFor rule).map some) ∧
    (∀ rule name, (r.perform (.bind rule name)).1 = .ok () ↔ name ∈ r.names) ∧
    (∀ rule name e, (r.perform (.bind rule name)).1 = .error e →
      e = .unknownDetector rule name ∧ (r.perform (.bind rule name)).2 = r) ∧
    (∀ d, d.name ∈ r.names → (r.register d).names = r.names ∧ (r.register d).bindings = r.bindings ∧
      ∀ rule, (r.register d).detectorsFor rule =
        (r.detectorsFor rule).map fun d' => if d'.name = d.name then d else d') ∧
    ∀ rule, (r.detectorsFor rule).map some =
        (accepted rule {} requests).eraseDups.map (latest? requests) := by
  intro r
  have h : r.WellFormed := wellFormed_empty.run requests
  refine ⟨h.nodup_names, names_run requests, h.lt_length, h.map_getElem?_boundTo,
    fun _ _ => perform_bind_fst_eq_ok_iff, ?_, ?_, ?_⟩
  · intro rule name e he
    -- a request that is accepted gives no error, and one that is not changes nothing
    obtain ⟨-, r', -, hperform⟩ | ⟨-, -, hperform⟩ := r.perform_bind_cases rule name
    · rw [hperform] at he
      cases he
    · rw [hperform] at he ⊢
      cases he
      exact ⟨rfl, rfl⟩
  · exact fun d hd => ⟨names_register_of_mem h.nodup_names hd, r.bindings_register d,
      h.detectorsFor_register d⟩
  · intro rule
    rw [← h.map_detector?_namesFor, namesFor_run]
    exact List.map_congr_left fun name _ => detector?_run requests name

/-- A detector that finds its own name and a mark. -/
def marked (name mark : String) : Detector where
  name := name
  detect _ := .completed [.unplaced name mark]

/-- The name `b` is bound too early, then twice, and `a` is registered again after it was bound. -/
def busyHistory : List Request :=
  [.register (marked "a" "old"), .bind "R" "b", .register (marked "b" "new"), .bind "R" "b",
   .bind "S" "a", .bind "R" "a", .bind "R" "b", .register (marked "a" "new")]

/-- The detectors of `R` after this history, a binding of an unknown name, and one more detector
named `b`. -/
theorem run_busyHistory :
    let r := run {} busyHistory
    (r.detectorsFor "R").map some = [some (marked "b" "new"), some (marked "a" "new")] ∧
    (r.perform (.bind "R" "c")).2 = r ∧
    (r.register (marked "b" "newer")).detectorsFor "R" =
      [marked "b" "newer", marked "a" "new"] := by
  intro r
  obtain ⟨-, -, -, -, -, hfailed, hagain, hdetectors⟩ := run_reflects_history busyHistory
  have hnames : (accepted "R" {} busyHistory).eraseDups = ["b", "a"] := by decide +kernel
  have hfor : (r.detectorsFor "R").map some =
      [some (marked "b" "new"), some (marked "a" "new")] := by
    rw [hdetectors "R", hnames]
    rfl
  refine ⟨hfor, (hfailed "R" "c" (.unknownDetector "R" "c") rfl).2, ?_⟩
  rw [(hagain (marked "b" "newer") (by decide +kernel)).2.2 "R"]
  have hnow : r.detectorsFor "R" = [marked "b" "new", marked "a" "new"] :=
    List.map_injective_iff.mpr (fun _ _ => Option.some.inj) hfor
  rw [hnow]
  rfl

end Registry

end Excerpt
