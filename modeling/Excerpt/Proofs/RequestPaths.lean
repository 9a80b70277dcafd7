import Mathlib.Data.List.Infix
import Excerpt.Detect.Requests
import Excerpt.Proofs.Lines
import Excerpt.Proofs.Sweep

/-!
# Request paths

A request path is a list of segments, each behind a slash: `rooted` writes such a list, `segments`
reads it back. A type and its methods each give a part of the path, and these parts may have
slashes at their ends, none, or several in a row.

The path composed of two parts has the segments of the one and then those of the other, wherever
there are slashes in the parts (`compose_eq_rooted`). So what holds of composed paths holds of
lists of segments: they have no empty segment, and composing is putting lists one after the other.
That it does not matter how three paths are put together then needs no look at slashes any more.

The heart of the proof is what collapsing of slashes does (`collapseSlashes_eq`): it keeps the
pieces between slashes that are not empty, each behind one slash. Only the first piece is special,
as no slash is before it.

## Main results

* `segments_rooted`: segments are read back.
* `collapseSlashes_eq`: what collapsing keeps.
* `compose_eq_rooted`: the segments of a composed path.
* `compose_joins_segments`: the laws of composed paths.
-/

namespace Excerpt.Detect

open Text

variable {s cs first : List Char} {segs rest : List (List Char)}

/-! ### Segments -/

/-- The segments of a path: what stands between slashes, where that is something. -/
def segments (path : List Char) : List (List Char) :=
  (path.splitOn '/').filter (· ≠ [])

/-- The path of segments, each behind a slash. -/
def rooted (segs : List (List Char)) : List Char :=
  segs.flatMap ('/' :: ·)

/-- What can stand between two slashes. -/
structure IsSegment (s : List Char) : Prop where
  ne_nil : s ≠ []
  no_slash : '/' ∉ s

private theorem rooted_cons (s : List Char) (segs : List (List Char)) :
    rooted (s :: segs) = '/' :: (s ++ rooted segs) :=
  rfl

/-- What is read as a segment is one: it is not empty and holds no slash. -/
private theorem isSegment_of_mem_segments {path : List Char} (hs : s ∈ segments path) :
    IsSegment s := by
  obtain ⟨hpiece, hne⟩ := List.mem_filter.1 hs
  exact ⟨of_decide_eq_true hne, sep_not_mem_of_mem_splitOn hpiece⟩

private theorem isSegment_of_mem_both (base path : List Char) :
    ∀ s ∈ segments base ++ segments path, IsSegment s :=
  List.forall_mem_append.2 ⟨fun _ => isSegment_of_mem_segments, fun _ => isSegment_of_mem_segments⟩

/-- Two paths with a slash between them have the segments of both. -/
private theorem segments_append_slash (base path : List Char) :
    segments (base ++ '/' :: path) = segments base ++ segments path := by
  rw [segments, List.splitOn_append_cons_self, List.filter_append, segments, segments]

private theorem segments_slash_cons (path : List Char) : segments ('/' :: path) = segments path :=
  segments_append_slash [] path

private theorem IsSegment.segments_eq (h : IsSegment s) : segments s = [s] := by
  rw [segments, List.splitOn_eq_singleton h.no_slash]
  simp [h.ne_nil]

/-- What stands behind a path begins with a slash or is nothing, so the segments of the two do not
run together. -/
theorem segments_append_rooted (base : List Char) (segs : List (List Char)) :
    segments (base ++ rooted segs) = segments base ++ segments (rooted segs) := by
  cases segs with
  | nil => simp [rooted, segments]
  | cons s segs =>
    rw [rooted_cons, segments_append_slash, segments_slash_cons]

/-- **Segments are read back** from the path that they are written as. -/
theorem segments_rooted (h : ∀ s ∈ segs, IsSegment s) : segments (rooted segs) = segs := by
  induction segs with
  | nil => rfl
  | cons s segs ih =>
    obtain ⟨hs, hsegs⟩ := List.forall_mem_cons.1 h
    rw [rooted_cons, segments_slash_cons, segments_append_rooted, hs.segments_eq, ih hsegs,
      List.singleton_append]

/-! ### The shape of written paths -/

/-- A path of segments is empty or begins with a slash. -/
private theorem rooted_eq_nil_or (segs : List (List Char)) :
    rooted segs = [] ∨ ∃ path, rooted segs = '/' :: path := by
  cases segs with
  | nil => exact .inl rfl
  | cons s segs => exact .inr ⟨_, rooted_cons s segs⟩

/-- A path of segments does not end with a slash, since no segment is empty or holds one. -/
private theorem getLast?_rooted_ne (h : ∀ s ∈ segs, IsSegment s) :
    (rooted segs).getLast? ≠ some '/' := by
  rcases List.eq_nil_or_concat segs with rfl | ⟨init, last, rfl⟩
  · exact nofun
  · rw [List.concat_eq_append] at h ⊢
    have hlast : IsSegment last := h last (by simp)
    have hend : (rooted (init ++ [last])).getLast? = last.getLast? := by
      have hsplit : rooted (init ++ [last]) = (rooted init ++ ['/']) ++ last := by simp [rooted]
      rw [hsplit, List.getLast?_append_of_ne_nil _ hlast.ne_nil]
    rw [hend]
    intro hslash
    exact hlast.no_slash (List.mem_of_getLast? hslash)

/-- What begins with a slash and occurs behind a text without slashes occurs in the rest. -/
theorem isInfix_of_isInfix_append {p : List Char} (hs : '/' ∉ s) (h : '/' :: p <:+: s ++ cs) :
    '/' :: p <:+: cs := by
  induction s with
  | nil => exact h
  | cons c s ih =>
    have hc : '/' ≠ c := fun heq => hs (heq ▸ List.mem_cons_self)
    rcases List.infix_cons_iff.1 h with hstart | hinside
    · exact absurd (List.cons_prefix_cons.1 hstart).1 hc
    · exact ih (fun hmem => hs (List.mem_cons_of_mem _ hmem)) hinside

/-- Two slashes in a row would enclose an empty segment. -/
theorem not_isInfix_rooted (h : ∀ s ∈ segs, IsSegment s) : ¬ ['/', '/'] <:+: rooted segs := by
  induction segs with
  | nil => simp [rooted]
  | cons s segs ih =>
    obtain ⟨hs, hsegs⟩ := List.forall_mem_cons.1 h
    obtain ⟨c, tail, rfl⟩ := List.exists_cons_of_ne_nil hs.ne_nil
    have hc : '/' ≠ c := fun heq => hs.no_slash (heq ▸ List.mem_cons_self)
    rw [rooted_cons, List.infix_cons_iff]
    rintro (hstart | hinside)
    · have hslash := (List.cons_prefix_cons.1 hstart).2
      exact hc (List.cons_prefix_cons.1 hslash).1
    · exact ih hsegs (isInfix_of_isInfix_append hs.no_slash hinside)

/-! ### Composed paths -/

/-- The slash that is left at the end of a path whose last piece is empty. -/
def closing (rest : List (List Char)) : List Char :=
  if rest.getLast? = some [] then ['/'] else []

/-- A slash is left at the end only if nothing follows the last one. Pieces before it do not
matter, unless there is only one and it is empty. -/
private theorem closing_cons_of_ne_nil (hs : s ≠ [] ∨ rest ≠ []) :
    closing (s :: rest) = closing rest := by
  cases rest with
  | nil => simpa [closing] using hs
  | cons w ws => simp [closing, List.getLast?_cons_cons]

/-- How a path begins: with nothing, with a slash, or with a character of its first piece. -/
theorem splitOn_slash_cases (h : cs.splitOn '/' = first :: rest) :
    (cs = [] ∧ first = [] ∧ rest = []) ∨ (cs.head? = some '/' ∧ first = [] ∧ rest ≠ []) ∨
      (cs.head? ≠ some '/' ∧ first ≠ []) := by
  cases cs with
  | nil =>
    rw [List.splitOn_nil, List.cons_eq_cons] at h
    exact .inl ⟨rfl, h.1.symm, h.2.symm⟩
  | cons c cs =>
    have hne := List.splitOn_ne_nil '/' cs
    rw [List.splitOn_cons_eq_if_modifyHead] at h
    split at h
    · next hc =>
      obtain ⟨rfl, rfl⟩ := List.cons_eq_cons.1 h
      exact .inr (.inl ⟨congrArg some (eq_of_beq hc), rfl, hne⟩)
    · next hc =>
      -- a character that is no slash is put before the first piece
      obtain ⟨w, ws, hcs⟩ := List.exists_cons_of_ne_nil hne
      rw [hcs, List.modifyHead_cons, List.cons_eq_cons] at h
      refine .inr (.inr ⟨?_, h.1 ▸ List.cons_ne_nil c w⟩)
      simpa using hc

/-- Collapsing keeps the pieces that are not empty, each behind one slash. The first piece has no
slash before it and may be empty. -/
theorem collapseSlashes_eq (h : cs.splitOn '/' = first :: rest) :
    collapseSlashes cs = first ++ rooted (rest.filter (· ≠ [])) ++ closing rest := by
  induction cs generalizing first rest with
  | nil =>
    rw [List.splitOn_nil, List.cons_eq_cons] at h
    rw [← h.1, ← h.2]
    rfl
  | cons c cs ih =>
    obtain ⟨w, ws, hcs⟩ := List.exists_cons_of_ne_nil (List.splitOn_ne_nil '/' cs)
    have hrest := ih hcs
    rw [List.splitOn_cons_eq_if_modifyHead, hcs] at h
    rw [collapseSlashes]
    by_cases hc : c = '/'
    · subst hc
      rw [if_pos (by rfl), List.cons_eq_cons] at h
      obtain ⟨rfl, rfl⟩ := h
      -- A slash stays if the piece behind it is not empty, or if nothing comes after that piece.
      obtain ⟨rfl, rfl, rfl⟩ | ⟨hhead, rfl, hne⟩ | ⟨hhead, hne⟩ := splitOn_slash_cases hcs
      · rfl
      · simp only [hhead, decide_true, Bool.and_self, if_true, hrest,
          closing_cons_of_ne_nil (.inr hne)]
        simp
      · rw [if_neg (by simpa using hhead), hrest, closing_cons_of_ne_nil (.inl hne)]
        simp [rooted, hne]
    · rw [if_neg (by simpa using hc), List.modifyHead_cons, List.cons_eq_cons] at h
      obtain ⟨rfl, rfl⟩ := h
      rw [if_neg (by simp [hc]), hrest]
      rfl

/-- The path composed of two parts has the segments of both. -/
theorem compose_eq_rooted (base path : List Char) :
    compose base path = rooted (segments base ++ segments path) := by
  have hpieces : ('/' :: base ++ '/' :: path).splitOn '/' =
      [] :: (base.splitOn '/' ++ path.splitOn '/') := by
    rw [List.splitOn_append_cons_self, List.splitOn_cons_eq_if_modifyHead, if_pos (by rfl),
      List.cons_append]
  have hjoined : collapseSlashes ('/' :: base ++ '/' :: path) =
      rooted (segments base ++ segments path) ++
        closing (base.splitOn '/' ++ path.splitOn '/') := by
    rw [collapseSlashes_eq hpieces, List.filter_append, List.nil_append, segments, segments]
  rw [compose, hjoined, closing]
  split
  · exact getD_dropEnd?_concat '/' _
  · rw [List.append_nil]
    exact getD_dropEnd?_of_getLast? (getLast?_rooted_ne (isSegment_of_mem_both base path))

/-- A composed path has the segments of its parts. -/
private theorem segments_compose (base path : List Char) :
    segments (compose base path) = segments base ++ segments path := by
  rw [compose_eq_rooted, segments_rooted (isSegment_of_mem_both base path)]

/-- **Composed paths are lists of segments.** The path of two parts has the segments of the first
part and then those of the second, each behind one slash. So it is empty or begins with a slash,
it has no two slashes in a row and none at its end, and it does not matter how three paths are put
together. -/
theorem compose_joins_segments :
    (∀ base path, compose base path = (segments base ++ segments path).flatMap ('/' :: ·) ∧
      (compose base path = [] ∨ ∃ tail, compose base path = '/' :: tail) ∧
      ¬ ['/', '/'] <:+: compose base path ∧ (compose base path).getLast? ≠ some '/') ∧
    ∀ a b c, compose (compose a b) c = compose a (compose b c) := by
  refine ⟨fun base path => ?_, fun a b c => ?_⟩
  · have hsegs := isSegment_of_mem_both base path
    rw [compose_eq_rooted]
    exact ⟨rfl, rooted_eq_nil_or _, not_isInfix_rooted hsegs, getLast?_rooted_ne hsegs⟩
  · rw [compose_eq_rooted, segments_compose, compose_eq_rooted a, segments_compose,
      List.append_assoc]

end Excerpt.Detect
