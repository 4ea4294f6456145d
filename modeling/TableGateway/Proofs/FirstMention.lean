import Mathlib.Data.List.Induction
import Mathlib.Data.List.Nodup

/-!
# The order of first mention

`List.eraseDups` leaves of every name the first mention. What it makes of a list
that is put together from parts depends only on what it makes of the parts
(`eraseDups_append_congr`, `eraseDups_flatMap_congr`) and of the list of their
sources (`eraseDups_flatMap_eraseDups`).
-/

namespace TableGateway

universe u v

variable {item : Type u} [DecidableEq item]

/-- Nothing is new the second time. -/
theorem removeAll_eq_nil {names known : List item}
    (subset : ∀ name ∈ names, name ∈ known) : names.removeAll known = [] := by
  rw [List.removeAll, List.filter_eq_nil_iff]
  intro name member
  simp [subset name member]

theorem eraseDups_concat (items : List item) (last : item) :
    (items ++ [last]).eraseDups =
      if last ∈ items then items.eraseDups
      else items.eraseDups ++ [last] := by
  rw [List.eraseDups_append]
  by_cases present : last ∈ items
  · simp [List.removeAll, present]
  · simp [List.removeAll, present, List.eraseDups_cons]

/-- What has been mentioned may be mentioned again. -/
theorem eraseDups_append_of_subset {items more : List item}
    (subset : ∀ element ∈ more, element ∈ items) :
    (items ++ more).eraseDups = items.eraseDups := by
  rw [List.eraseDups_append, removeAll_eq_nil subset, List.eraseDups_nil,
    List.append_nil]

theorem eraseDups_ne_nil {items : List item} (known : items ≠ []) :
    items.eraseDups ≠ [] := by
  obtain ⟨element, member⟩ := List.exists_mem_of_ne_nil items known
  exact List.ne_nil_of_mem (List.mem_eraseDups.mpr member)

theorem nodup_eraseDups (items : List item) : items.eraseDups.Nodup := by
  induction items using List.reverseRecOn with
  | nil => exact List.nodup_nil
  | append_singleton items last inductionHypothesis =>
      rw [eraseDups_concat]
      by_cases present : last ∈ items
      · rw [if_pos present]
        exact inductionHypothesis
      · rw [if_neg present, ← List.concat_eq_append]
        refine inductionHypothesis.concat ?_
        rwa [List.mem_eraseDups]

theorem eraseDups_of_nodup {items : List item} (nodup : items.Nodup) :
    items.eraseDups = items := by
  induction items using List.reverseRecOn with
  | nil => rfl
  | append_singleton items last inductionHypothesis =>
      obtain ⟨before, _, apart⟩ := List.nodup_append.mp nodup
      have absent : last ∉ items := fun present =>
        apart last present last List.mem_cons_self rfl
      rw [eraseDups_concat, if_neg absent, inductionHypothesis before]

theorem eraseDups_filter (test : item → Bool) (items : List item) :
    (items.filter test).eraseDups = items.eraseDups.filter test := by
  induction items using List.reverseRecOn with
  | nil => rfl
  | append_singleton items last inductionHypothesis =>
      rw [List.filter_append, eraseDups_concat]
      cases kept : test last with
      | false =>
          rw [List.filter_cons_of_neg (by simp [kept]), List.filter_nil,
            List.append_nil, inductionHypothesis]
          by_cases present : last ∈ items
          · rw [if_pos present]
          · simp [if_neg present, kept]
      | true =>
          rw [List.filter_cons_of_pos kept, List.filter_nil,
            eraseDups_concat, inductionHypothesis]
          by_cases present : last ∈ items
          · rw [if_pos (List.mem_filter.mpr ⟨present, kept⟩),
              if_pos present]
          · have absent : last ∉ items.filter test := fun member =>
              present (List.mem_filter.mp member).1
            rw [if_neg absent, if_neg present, List.filter_append,
              List.filter_cons_of_pos kept, List.filter_nil]

/-! ## Lists from parts -/

theorem eraseDups_append_congr {first second other another : List item}
    (firstEq : first.eraseDups = other.eraseDups)
    (secondEq : second.eraseDups = another.eraseDups) :
    (first ++ second).eraseDups = (other ++ another).eraseDups := by
  have members (element : item) : element ∈ first ↔ element ∈ other := by
    rw [← List.mem_eraseDups, firstEq, List.mem_eraseDups]
  have behind : (second.removeAll first).eraseDups =
      (another.removeAll other).eraseDups := by
    rw [List.removeAll, List.removeAll, eraseDups_filter, eraseDups_filter,
      secondEq]
    refine List.filter_congr fun element _ => ?_
    simp [members]
  rw [List.eraseDups_append, List.eraseDups_append, firstEq, behind]

variable {source : Type v} {names others : source → List item}

theorem eraseDups_flatMap_congr {sources : List source}
    (same : ∀ element ∈ sources,
      (names element).eraseDups = (others element).eraseDups) :
    (sources.flatMap names).eraseDups =
      (sources.flatMap others).eraseDups := by
  induction sources with
  | nil => rfl
  | cons head tail inductionHypothesis =>
      obtain ⟨headSame, tailSame⟩ := List.forall_mem_cons.mp same
      exact eraseDups_append_congr headSame (inductionHypothesis tailSame)

/-- Sources that come again mention nothing new. -/
theorem eraseDups_flatMap_eraseDups [DecidableEq source]
    (names : source → List item) (sources : List source) :
    (sources.eraseDups.flatMap names).eraseDups =
      (sources.flatMap names).eraseDups := by
  induction sources using List.reverseRecOn with
  | nil => rfl
  | append_singleton sources last inductionHypothesis =>
      rw [eraseDups_concat, List.flatMap_append, List.flatMap_singleton]
      by_cases present : last ∈ sources
      · have subset : ∀ name ∈ names last, name ∈ sources.flatMap names :=
          fun name member => List.mem_flatMap.mpr ⟨last, present, member⟩
        rw [if_pos present, eraseDups_append_of_subset subset]
        exact inductionHypothesis
      · rw [if_neg present, List.flatMap_append, List.flatMap_singleton]
        exact eraseDups_append_congr inductionHypothesis rfl

/-- Changes that all mention the same name mention it once. -/
theorem eraseDups_filterMap_of_same {change : Type v}
    {name? : change → Option item} {name : Option item}
    {changes : List change} (nonempty : changes ≠ [])
    (same : ∀ element ∈ changes, name? element = name) :
    (changes.filterMap name?).eraseDups = name.toList.eraseDups := by
  rw [List.filterMap_congr same]
  cases name with
  | none => simp
  | some name =>
      obtain ⟨head, tail, rfl⟩ := List.exists_cons_of_ne_nil nonempty
      have again : ∀ element ∈ tail.filterMap fun _ => some name,
          element ∈ [name] := by simp
      exact eraseDups_append_of_subset again

end TableGateway
