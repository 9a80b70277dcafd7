import Excerpt.Proofs.Depth

/-!
# What is inside a piece of syntax

Constructs look at their parts, at parts of these parts, and at members that may lie any number of
levels below a body. What holds everywhere in a piece (`Concrete.Everywhere`) holds for all that a
construct can look at. So a condition on concrete syntax, such as that ranges are nested or that
comments play no roles, is stated once of all pieces and is at hand wherever a construct is
lowered.

`Concrete.Everywhere` goes through the children of a piece, so what it says can be taken apart
along the structure (`everywhere_iff`). A condition on the parts of a construct is enough in most
places: a construct never looks at itself again (`Focus.everywhere_of_mem_parts`).

## Main results

* `everywhere_iff`: a condition holds of a piece and everywhere in its children.
* `Focus.everywhere_of_mem_parts`: what a construct sees of its parts.
* `everywhere_of_mem_membersIn`: what a construct sees of the members of a body.
-/

namespace Excerpt.Java

namespace Concrete

/-- The property holds of the piece and of every piece inside it. -/
def Everywhere (p : Concrete → Prop) : Concrete → Prop
  | node kind named field range cs missing => p (node kind named field range cs missing) ∧ all cs
where
  /-- The property holds of the pieces of a list and of every piece inside them. -/
  all : List Concrete → Prop
    | [] => True
    | c :: cs => c.Everywhere p ∧ all cs

mutual

instance decidableEverywhere (p : Concrete → Prop) [DecidablePred p] :
    (c : Concrete) → Decidable (c.Everywhere p)
  | node _ _ _ _ cs _ =>
    have := decidableEverywhereAll p cs
    inferInstanceAs (Decidable (_ ∧ _))

instance decidableEverywhereAll (p : Concrete → Prop) [DecidablePred p] :
    (cs : List Concrete) → Decidable (Everywhere.all p cs)
  | [] => .isTrue trivial
  | c :: cs =>
    have := decidableEverywhere p c
    have := decidableEverywhereAll p cs
    inferInstanceAs (Decidable (_ ∧ _))

end

variable {p q : Concrete → Prop} {c d : Concrete}

private theorem everywhereAll_iff {cs : List Concrete} :
    Everywhere.all p cs ↔ ∀ c ∈ cs, c.Everywhere p := by
  induction cs with
  | nil => simp [Everywhere.all]
  | cons c cs ih => simp [Everywhere.all, ih]

/-- What holds everywhere in a piece holds of the piece and everywhere in its children. -/
theorem everywhere_iff : c.Everywhere p ↔ p c ∧ ∀ d ∈ c.children, d.Everywhere p := by
  cases c with
  | node kind named field range cs missing => rw [Everywhere, everywhereAll_iff]; rfl

/-- What holds everywhere in a piece holds of the piece itself. -/
theorem Everywhere.here (h : c.Everywhere p) : p c :=
  (everywhere_iff.mp h).1

/-- What holds everywhere in a piece holds everywhere in its children. -/
theorem Everywhere.of_mem_children (h : c.Everywhere p) (hd : d ∈ c.children) : d.Everywhere p :=
  (everywhere_iff.mp h).2 d hd

mutual

/-- Two conditions that hold everywhere hold everywhere together. -/
theorem Everywhere.and : {c : Concrete} → c.Everywhere p → c.Everywhere q →
    c.Everywhere fun d => p d ∧ q d
  | node _ _ _ _ _ _, ⟨hp, hps⟩, ⟨hq, hqs⟩ => ⟨⟨hp, hq⟩, Everywhere.and_all hps hqs⟩

private theorem Everywhere.and_all :
    {cs : List Concrete} → Everywhere.all p cs → Everywhere.all q cs →
    Everywhere.all (fun d => p d ∧ q d) cs
  | [], _, _ => trivial
  | _ :: _, ⟨hp, hps⟩, ⟨hq, hqs⟩ => ⟨hp.and hq, Everywhere.and_all hps hqs⟩

end

end Concrete

variable {p : Concrete → Prop} {f g : Focus}

/-- What holds everywhere in the children of a piece holds everywhere in the parts of the
construct. -/
theorem Focus.everywhere_of_mem_parts (hf : ∀ d ∈ f.piece.children, d.Everywhere p)
    (hg : g ∈ f.parts) :
    g.piece.Everywhere p :=
  hf g.piece (piece_mem_of_mem_along hg)

namespace Lowering

mutual

/-- What holds everywhere in a body holds everywhere in its members, at whatever level these are
found. -/
theorem everywhere_of_mem_membersIn :
    (c : Concrete) → c.Everywhere p → g ∈ membersIn c → g.piece.Everywhere p
  | .node kind named field range cs missing, hc, hg => by
    rw [membersIn] at hg
    exact everywhere_of_mem_membersAmong cs (fun d hd => hc.of_mem_children hd) hg

private theorem everywhere_of_mem_membersAmong {before : List Concrete} : (cs : List Concrete) →
    (∀ c ∈ cs, c.Everywhere p) → g ∈ membersAmong before cs → g.piece.Everywhere p
  | [], _, hg => by simp [membersAmong] at hg
  | c :: cs, hcs, hg => by
    rw [membersAmong, List.mem_append] at hg
    rcases hg with hg | hg
    · have hc : c.Everywhere p := hcs c List.mem_cons_self
      split at hg
      · cases hg
      · split at hg
        · exact everywhere_of_mem_membersIn c hc hg
        · rw [List.mem_singleton] at hg
          exact hg ▸ hc
    · exact everywhere_of_mem_membersAmong cs (fun d hd => hcs d (List.mem_cons_of_mem c hd)) hg

end

end Lowering

end Excerpt.Java
