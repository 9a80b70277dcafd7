import Excerpt.Glob.Match

/-!
# Settings

The settings of a rule set adjust the detectors and the choice of files. What is not set has a
default, which the functions named like the fields return. So a rule file that sets something to
its default means the same as one that does not set it, but the two are not equal.

Bindings are kept in ascending order of their rules, each rule once; the type says so, which is
why they are made by `Bindings.insert` only. The order in which a rule file lists them does not
matter.

Patterns that are no patterns exclude nothing. They are rejected when a rule set is checked, but a
rule set that has not been checked can be used.

* `LongStatementSettings`, `Settings`: the settings.
* `Bindings`: names of detectors by rule.
* `Settings.excludes`: the paths that are left out.
-/

namespace Excerpt

/-- Which line breaks in the operands of a call's arguments are reported. -/
inductive Continuation
  /-- Any break after the left operand. -/
  | anyBreak
  /-- A break that leaves the operator at the end of a line. -/
  | trailingOperator
  deriving DecidableEq, Repr

/-- The name of a continuation in rule files. -/
def Continuation.label : Continuation → String
  | anyBreak => "any-break"
  | trailingOperator => "trailing-operator"

/-- Settings for long statements. -/
structure LongStatementSettings where
  maxLength? : Option Nat := none
  continuation? : Option Continuation := none
  outermostOnly? : Option Bool := none
  deriving DecidableEq, Repr

namespace LongStatementSettings

/-- The number of characters that fit on a line. -/
def maxLength (s : LongStatementSettings) : Nat := s.maxLength?.getD 80

/-- The line breaks that are reported. -/
def continuation (s : LongStatementSettings) : Continuation := s.continuation?.getD .anyBreak

/-- Whether a long expression inside a long one is left out. -/
def outermostOnly (s : LongStatementSettings) : Bool := s.outermostOnly?.getD true

end LongStatementSettings

/-! ### Bindings -/

/-- Names of detectors by rule, in ascending order of the rules. -/
structure Bindings where
  entries : List (String × List String)
  sorted : entries.Pairwise (·.1 < ·.1)
  deriving Repr

namespace Bindings

/-- No rule has bindings. -/
def empty : Bindings := ⟨[], .nil⟩

/-- Put an entry into its place in an ascending list, instead of the one with the same key. -/
def insertEntry (key : String) (value : List String) :
    List (String × List String) → List (String × List String)
  | [] => [(key, value)]
  | e :: es =>
    if key < e.1 then (key, value) :: e :: es
    else if key = e.1 then (key, value) :: es
    else e :: insertEntry key value es

/-- The entries of the list are the new one and old ones. -/
theorem mem_insertEntry {key : String} {value : List String} {e : String × List String}
    {es : List (String × List String)} (h : e ∈ insertEntry key value es) :
    e = (key, value) ∨ e ∈ es := by
  induction es with
  | nil => simpa [insertEntry] using h
  | cons a es ih =>
    rw [insertEntry] at h
    split at h
    · simpa using h
    · split at h
      · rcases List.mem_cons.1 h with h | h
        · exact .inl h
        · exact .inr (List.mem_cons_of_mem _ h)
      · rcases List.mem_cons.1 h with h | h
        · exact .inr (h ▸ List.mem_cons_self)
        · exact (ih h).imp id (List.mem_cons_of_mem _)

/-- An ascending list stays so. -/
theorem pairwise_insertEntry {key : String} {value : List String} {es : List (String × List String)}
    (h : es.Pairwise (·.1 < ·.1)) : (insertEntry key value es).Pairwise (·.1 < ·.1) := by
  induction es with
  | nil => simp [insertEntry]
  | cons a es ih =>
    obtain ⟨ha, hes⟩ := List.pairwise_cons.1 h
    rw [insertEntry]
    split
    next hlt =>
      exact List.pairwise_cons.2 ⟨fun b hb => (List.mem_cons.1 hb).elim (fun e => e ▸ hlt)
        (fun m => String.lt_trans hlt (ha b m)), h⟩
    next hnlt =>
      split
      next heq => exact List.pairwise_cons.2 ⟨fun b hb => heq ▸ ha b hb, hes⟩
      next hne =>
        refine List.pairwise_cons.2 ⟨fun b hb => (mem_insertEntry hb).elim (fun e => e ▸ ?_) (ha b),
          ih hes⟩
        exact String.not_le.1 fun hle => hne (String.le_antisymm hle (String.not_lt.1 hnlt))

/-- Bind a rule to detectors, instead of those that it was bound to. -/
def insert (b : Bindings) (key : String) (value : List String) : Bindings :=
  ⟨insertEntry key value b.entries, pairwise_insertEntry b.sorted⟩

/-- The bindings of a list; later entries replace earlier ones. -/
def ofList (es : List (String × List String)) : Bindings :=
  es.foldl (fun b e => b.insert e.1 e.2) empty

end Bindings

/-! ### Settings -/

/-- The settings of a rule set. -/
structure Settings where
  longStatement : LongStatementSettings := {}
  /-- Types whose `contains` looks at every element. -/
  linearScanTypes? : Option (List String) := none
  lockTypes? : Option (List String) := none
  threadTypes? : Option (List String) := none
  /-- The method that names a thread. -/
  threadNameSetter? : Option String := none
  logMethods? : Option (List String) := none
  /-- The annotation of types with the first part of request paths. -/
  baseMapping? : Option String := none
  /-- What the names of the annotations of methods with request paths end with. -/
  mappingSuffix? : Option String := none
  /-- Reject scopes with unknown tags. -/
  strictScopes : Bool := false
  /-- Accept sources with syntax errors. -/
  tolerateSyntaxErrors : Bool := false
  /-- Detectors for rules besides the built-in ones. -/
  bindings : Bindings := .empty
  /-- Patterns of paths to leave out. -/
  excludedPaths : List String := []
  deriving Repr

namespace Settings

variable (s : Settings)

/-- Types whose `contains` looks at every element. -/
def linearScanTypes : List String :=
  s.linearScanTypes?.getD ["List", "ArrayList", "LinkedList", "CopyOnWriteArrayList"]

/-- Types that are locks. -/
def lockTypes : List String := s.lockTypes?.getD ["ReentrantLock"]

/-- Types that are threads. -/
def threadTypes : List String := s.threadTypes?.getD ["Thread"]

/-- The method that names a thread. -/
def threadNameSetter : String := s.threadNameSetter?.getD "setName"

/-- Methods that write to a log. -/
def logMethods : List String := s.logMethods?.getD ["warn", "error"]

/-- The annotation of types with the first part of request paths. -/
def baseMapping : String := s.baseMapping?.getD "RequestMapping"

/-- What the names of the annotations of methods with request paths end with. -/
def mappingSuffix : String := s.mappingSuffix?.getD "Mapping"

/-- Some valid pattern matches the path. Texts that are no patterns match nothing. -/
def excludes [PathPatterns] (path : String) : Bool :=
  s.excludedPaths.any fun pattern =>
    match PathPatterns.compile pattern with
    | .ok covers => covers path
    | .error _ => false

end Settings

end Excerpt
