import Excerpt.Detect.Registry
import Excerpt.Frontend

/-!
# Extraction

Every node of a tree is shown to the detectors of every rule that is about nodes of its kind.
Findings come in the order of the nodes, then of the rules, then of the bindings. A call that does
not complete contributes nothing, not even what it had found.

A snippet is a finding together with the rule and the path of its source, so that it can be
reported on its own. An engine has no state: calls do not depend on each other, and neither do
nodes.

* `Snippet`: a finding under the rule that it was made for.
* `Engine`: rules, and the detectors that work for them.
* `Engine.extractFor`, `Engine.extractAt`, `Engine.extract`: snippets for a rule at a node, for
  all rules at a node, and of a whole source.
-/

namespace Excerpt

/-- A finding under the rule that it was made for. -/
structure Snippet where
  rule : Rule
  path : String
  finding : Finding
  deriving DecidableEq, Repr

/-- Rules, and the detectors that work for them. -/
structure Engine where
  rules : List Rule
  registry : Registry

namespace Engine

/-- An engine with the built-in detectors. -/
def ofRuleSet (set : RuleSet) : Except RuleError Engine :=
  (Registry.withDefaults set.settings).map fun registry => ⟨set.rules, registry⟩

/-- The snippets that a detector makes of a node. -/
def invoke (cx : Context) (d : Detector) : List Snippet :=
  ((d.detect cx).findings?.getD []).map fun f => ⟨cx.rule, cx.path, f⟩

/-- The snippets for a rule at a node. -/
def extractFor (e : Engine) (u : SourceUnit) (i : NodeId) (rule : Rule) : List Snippet :=
  (e.registry.detectorsFor rule.id).flatMap (invoke ⟨u.tree, i, rule, u.path⟩)

/-- The snippets at a node. -/
def extractAt (e : Engine) (u : SourceUnit) (i : NodeId) : List Snippet :=
  (e.rules.filter fun r => r.applies (u.tree.kind i)).flatMap (e.extractFor u i)

/-- The snippets of a source. -/
def extract (e : Engine) (u : SourceUnit) : List Snippet :=
  u.tree.preorder.flatMap (e.extractAt u)

end Engine

end Excerpt
