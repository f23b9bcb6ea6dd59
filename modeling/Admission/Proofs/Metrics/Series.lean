import Admission.Metrics
import Mathlib.Data.List.Nodup

/-! # Series in order

What adding to one series does to all of them. A label finds the series that has its hash
(`Admission.Metrics.Finds`), so what is added under a label goes to all labels that share its hash,
and to no others (`Admission.Metrics.value_add`). A series is made only for a label that finds none
(`Admission.Metrics.mem_labels_add`), so no two series are ever found by one hash, and the labels
stay in order (`Admission.Metrics.IsOrdered.add`).
-/

namespace Admission.Metrics

/-- The labels of the series, in their order. -/
def labels (metrics : Metrics) : List String :=
  metrics.series.map Prod.fst

/-- Whether there is a series that a label is found by. -/
def Finds (metrics : Metrics) (label : String) : Prop :=
  ∃ other ∈ metrics.labels, hashOf other = hashOf label

/-- Labels are in order, and no two of them have one hash. -/
structure IsOrdered (metrics : Metrics) : Prop where
  sorted : metrics.labels.Pairwise (· < ·)
  apart : (metrics.labels.map hashOf).Nodup

variable {metrics : Metrics} {series : List (String × Nat)} {label : String} {value times : Nat}

/-- Of two different texts one comes first. -/
theorem lt_of_not_lt {text other : String} (different : text ≠ other) (notBefore : ¬ text < other) :
    other < text := by
  rw [String.not_lt] at notBefore
  rw [← String.not_le]
  exact fun before => different (String.le_antisymm before notBefore)

/-- A series that is made comes to the others, wherever its place is. -/
theorem insert_perm (label : String) (value : Nat) (series : List (String × Nat)) :
    (insert label value series).Perm ((label, value) :: series) := by
  fun_induction insert label value series with
  | case1 => exact .rfl
  | case2 other old rest before => exact .rfl
  | case3 other old rest notBefore ih => exact (ih.cons _).trans (.swap ..)

/-- A series with a new label is put in its place. -/
theorem sorted_insert (sorted : (series.map Prod.fst).Pairwise (· < ·))
    (new : label ∉ series.map Prod.fst) :
    ((insert label value series).map Prod.fst).Pairwise (· < ·) := by
  fun_induction insert label value series with
  | case1 => exact List.pairwise_singleton _ _
  | case2 other old rest before =>
      refine List.pairwise_cons.mpr ⟨fun later member => ?_, sorted⟩
      rcases List.mem_cons.mp member with rfl | behind
      · exact before
      · exact String.lt_trans before ((List.pairwise_cons.mp sorted).1 later behind)
  | case3 other old rest notBefore ih =>
      obtain ⟨least, sorted⟩ := List.pairwise_cons.mp sorted
      obtain ⟨different, absent⟩ := not_or.mp (mt List.mem_cons.mpr new)
      refine List.pairwise_cons.mpr ⟨fun later member => ?_, ih sorted absent⟩
      rcases List.mem_cons.mp (((insert_perm ..).map Prod.fst).mem_iff.mp member) with
        rfl | behind
      · exact lt_of_not_lt different notBefore
      · exact least later behind

/-- A series that is made under a new hash is found by that hash, and the others as before. -/
theorem find?_insert (new : ∀ other ∈ series.map Prod.fst, hashOf other ≠ hashOf label)
    (hash : UInt64) :
    ((insert label value series).find? fun entry => hashOf entry.1 == hash) =
      if hashOf label = hash then some (label, value)
      else series.find? fun entry => hashOf entry.1 == hash := by
  fun_induction insert label value series with
  | case1 => by_cases same : hashOf label = hash <;> simp [same]
  | case2 other old rest before => by_cases same : hashOf label = hash <;> simp [same]
  | case3 other old rest notBefore ih =>
      obtain ⟨here, later⟩ := List.forall_mem_cons.mp new
      rw [List.find?_cons, List.find?_cons, ih later]
      by_cases same : hashOf label = hash
      · have unlike : (hashOf other == hash) = false := beq_eq_false_iff_ne.mpr (same ▸ here)
        simp only [unlike, if_pos same]
      · simp only [if_neg same]

/-- Whether there is a series for a label is what adding looks at. -/
theorem any_iff_finds :
    (metrics.series.any fun entry => hashOf entry.1 == hashOf label) = true ↔
      metrics.Finds label := by
  rw [List.any_eq_true, Finds, labels]
  constructor
  · rintro ⟨entry, member, same⟩
    exact ⟨entry.1, List.mem_map_of_mem member, beq_iff_eq.mp same⟩
  · rintro ⟨_, member, same⟩
    obtain ⟨entry, among, rfl⟩ := List.mem_map.mp member
    exact ⟨entry, among, beq_iff_eq.mpr same⟩

/-- Adding to a series that is there raises the value of all labels with the hash. -/
theorem add_of_finds (found : metrics.Finds label) (times : Nat) :
    metrics.add label times = ⟨metrics.series.map fun (other, value) =>
      (other, if hashOf other = hashOf label then value + times else value)⟩ :=
  if_pos (any_iff_finds.mpr found)

/-- Adding under a new hash makes a series. -/
theorem add_of_new (new : ¬ metrics.Finds label) (times : Nat) :
    metrics.add label times = ⟨insert label times metrics.series⟩ :=
  if_neg (any_iff_finds.not.mpr new)

/-- Adding to a series that is there makes none. -/
theorem labels_add_of_finds (found : metrics.Finds label) (times : Nat) :
    (metrics.add label times).labels = metrics.labels := by
  rw [add_of_finds found, labels, labels, List.map_map]
  rfl

/-- A series is made for a label that finds none. -/
theorem mem_labels_add (metrics : Metrics) (label : String) (times : Nat) (other : String) :
    other ∈ (metrics.add label times).labels ↔
      other ∈ metrics.labels ∨ (other = label ∧ ¬ metrics.Finds label) := by
  by_cases found : metrics.Finds label
  · rw [labels_add_of_finds found]
    exact (or_iff_left fun made => made.2 found).symm
  · rw [add_of_new found, and_iff_left found, or_comm]
    exact ((insert_perm ..).map Prod.fst).mem_iff.trans List.mem_cons

/-- **Adding under a label raises the values of the labels with its hash**, and no others. -/
theorem value_add (metrics : Metrics) (label : String) (times : Nat) (other : String) :
    (metrics.add label times).value other =
      metrics.value other + if hashOf other = hashOf label then times else 0 := by
  by_cases found : metrics.Finds label
  · rw [add_of_finds found, Metrics.value, Metrics.value, List.find?_map]
    simp only [Function.comp_def]
    cases looked : metrics.series.find? fun entry => hashOf entry.1 == hashOf other with
    | none =>
        have unlike : hashOf other ≠ hashOf label := by
          obtain ⟨_, member, same⟩ := found
          obtain ⟨entry, among, rfl⟩ := List.mem_map.mp member
          intro like
          exact List.find?_eq_none.mp looked entry among (beq_iff_eq.mpr (same.trans like.symm))
        rw [if_neg unlike]
        rfl
    | some entry =>
        have equal := List.find?_some looked
        have same : hashOf entry.1 = hashOf other := beq_iff_eq.mp equal
        simp only [Option.map_some, Option.getD_some, same]
        split <;> rfl
  · have new : ∀ found ∈ metrics.series.map Prod.fst, hashOf found ≠ hashOf label :=
      fun other member same => found ⟨other, member, same⟩
    rw [add_of_new found, Metrics.value, Metrics.value, find?_insert new]
    by_cases same : hashOf label = hashOf other
    · have none : metrics.series.find? (fun entry => hashOf entry.1 == hashOf other) = none := by
        rw [List.find?_eq_none]
        exact fun entry among like =>
          new entry.1 (List.mem_map_of_mem among) ((beq_iff_eq.mp like).trans same.symm)
      rw [if_pos same, if_pos same.symm, none]
      exact (Nat.zero_add times).symm
    · rw [if_neg same, if_neg (Ne.symm same), Nat.add_zero]

/-- Adding nothing to a series that is there changes nothing. -/
theorem add_zero (found : metrics.Finds label) : metrics.add label 0 = metrics := by
  have kept : (fun entry : String × Nat =>
      (entry.1, if hashOf entry.1 = hashOf label then entry.2 + 0 else entry.2)) = id := by
    funext entry
    rw [Nat.add_zero, ite_self]
    rfl
  rw [add_of_finds found]
  exact congrArg Metrics.mk ((congrArg (metrics.series.map ·) kept).trans (List.map_id _))

namespace IsOrdered

variable (ordered : metrics.IsOrdered)

include ordered

/-- Adding keeps the order, and the hashes apart. -/
theorem add (label : String) (times : Nat) : (metrics.add label times).IsOrdered := by
  by_cases found : metrics.Finds label
  · constructor
    · rw [labels_add_of_finds found]
      exact ordered.sorted
    · rw [labels_add_of_finds found]
      exact ordered.apart
  · have absent : label ∉ metrics.labels := fun member => found ⟨label, member, rfl⟩
    rw [add_of_new found]
    refine ⟨sorted_insert ordered.sorted absent, ?_⟩
    refine ((((insert_perm ..).map Prod.fst).map hashOf).nodup_iff).mpr ?_
    refine List.nodup_cons.mpr ⟨fun member => ?_, ordered.apart⟩
    obtain ⟨other, among, same⟩ := List.mem_map.mp member
    exact found ⟨other, among, same⟩

/-- No label stands twice. -/
theorem nodup : metrics.labels.Nodup :=
  ordered.apart.of_map hashOf

/-- Labels of series with one hash are the same. -/
theorem eq_of_hash {other : String} (member : label ∈ metrics.labels)
    (among : other ∈ metrics.labels) (same : hashOf label = hashOf other) : label = other :=
  List.inj_on_of_nodup_map ordered.apart member among same

/-- A series is found by its own label. -/
theorem value_of_mem (entry : (label, value) ∈ metrics.series) : metrics.value label = value := by
  rw [Metrics.value]
  cases looked : metrics.series.find? fun entry => hashOf entry.1 == hashOf label with
  | none => exact absurd BEq.rfl (List.find?_eq_none.mp looked _ entry)
  | some found =>
      have among := List.mem_of_find?_eq_some looked
      have equal := List.find?_some looked
      have like : hashOf found.1 = hashOf label := beq_iff_eq.mp equal
      have same : found.1 = label :=
        ordered.eq_of_hash (List.mem_map_of_mem among) (List.mem_map_of_mem entry) like
      exact congrArg Prod.snd (List.inj_on_of_nodup_map ordered.nodup among entry same)

end IsOrdered

end Admission.Metrics
