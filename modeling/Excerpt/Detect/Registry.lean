import Excerpt.Detect.Builtin
import Excerpt.Rule.Set

/-!
# Registries

A registry holds detectors and says which of them are bound to a rule. A detector that is
registered under a known name takes the place of the old one and keeps its bindings: what is bound
to a rule are places in the list of detectors, and not detectors.

A name can be bound only if it is known. A detector is bound to a rule at most once, and the
detectors of a rule come in the order in which they were bound.

* `Registry`: detectors, and for each rule the places of those that are bound to it.
* `Registry.register`, `Registry.bind`: the two requests that change a registry.
* `Registry.detectorsFor`: the detectors of a rule.
* `Registry.withDefaults`: the built-in detectors with their bindings and those of settings.
-/

namespace Excerpt

/-- Detectors, and for each rule the places of those that are bound to it. -/
structure Registry where
  detectors : List Detector := []
  bindings : List (String × List Nat) := []

namespace Registry

variable (r : Registry)

/-- The names of the detectors. -/
def names : List String :=
  r.detectors.map Detector.name

/-- The place of the detector of a name. -/
def indexOf? (name : String) : Option Nat :=
  r.detectors.findIdx? (·.name == name)

/-- Add a detector, instead of one with the same name. -/
def register (d : Detector) : Registry :=
  match r.indexOf? d.name with
  | some i => { r with detectors := r.detectors.set i d }
  | none => { r with detectors := r.detectors ++ [d] }

/-- The places of the detectors bound to a rule. -/
def boundTo (rule : String) : List Nat :=
  (r.bindings.lookup rule).getD []

/-- Add a place to those of a rule, unless it is among them. -/
def bindPlace (rule : String) (i : Nat) : List (String × List Nat) → List (String × List Nat)
  | [] => [(rule, [i])]
  | (key, places) :: more =>
    if key = rule then (key, if i ∈ places then places else places ++ [i]) :: more
    else (key, places) :: bindPlace rule i more

/-- Bind a detector to a rule. -/
def bind (rule detector : String) : Except RuleError Registry :=
  match r.indexOf? detector with
  | some i => .ok { r with bindings := bindPlace rule i r.bindings }
  | none => .error (.unknownDetector rule detector)

/-- The detectors bound to a rule, in the order in which they were bound. -/
def detectorsFor (rule : String) : List Detector :=
  (r.boundTo rule).filterMap fun i => r.detectors[i]?

/-- Some detector is bound to the rule. -/
def hasBindings (rule : String) : Bool :=
  !(r.boundTo rule).isEmpty

/-- Bind several detectors to rules. -/
def bindAll (r : Registry) : List (String × String) → Except RuleError Registry
  | [] => .ok r
  | (rule, detector) :: more => do
    let r ← r.bind rule detector
    bindAll r more

/-- The single bindings of settings. -/
def settingsBindings (s : Settings) : List (String × String) :=
  s.bindings.entries.flatMap fun (rule, detectors) => detectors.map (rule, ·)

/-- The built-in detectors with their bindings and those of the settings. -/
def withDefaults (s : Settings) : Except RuleError Registry :=
  bindAll ((Detect.builtin s).foldl register {}) (Detect.defaultBindings ++ settingsBindings s)

/-- The registry in words: the names of its detectors and the number of rules with bindings. -/
def describe : String :=
  "DetectorRegistry \x7b detectors: [" ++ ", ".intercalate (r.names.map Text.quoted) ++
    "], bindings: " ++
    toString r.bindings.length ++ " \x7d"

end Registry

end Excerpt
