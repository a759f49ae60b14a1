/-
What is gathered from samples, and what the same samples answer when they are all kept. For each assignment of its
labels a family gathers the samples of its kind and name that carry just these labels, in any order (`get?_ofSamples`):
so the gathered total, last value and number are those that the recorded samples give.
-/
import MailReconciler.Metrics.Exposition
import MailReconciler.Metrics.Recording
import Mathlib.Data.List.Forall2
import Mathlib.Data.List.Nodup
import Mathlib.Data.List.Perm.Subperm

namespace MailReconciler

/-! ## Labels -/

namespace Labels

/-- The names of labels. -/
abbrev names (labels : Labels) : List String := labels.map Prod.fst

variable {labels : Labels} {name value : String}

theorem lookup_eq_some_iff (h : labels.names.Nodup) : labels.lookup name = some value ↔ (name, value) ∈ labels := by
  induction labels with
  | nil => simp
  | cons label labels ih =>
    obtain ⟨first, given⟩ := label
    obtain ⟨hfresh, hrest⟩ := List.nodup_cons.1 h
    rw [List.lookup_cons, List.mem_cons]
    by_cases hname : name = first
    · subst hname
      have hout : (name, value) ∉ labels := fun hin => hfresh (List.mem_map.2 ⟨_, hin, rfl⟩)
      simp [hout, eq_comm]
    · have hne : (name == first) = false := beq_false_of_ne hname
      simp [hne, hname, ih hrest]

theorem nodup_names_reverse (h : labels.names.Nodup) : (names labels.reverse).Nodup := by
  rw [names, List.map_reverse]
  exact List.nodup_reverse.2 h

end Labels

/-! ## Assignments -/

theorem mapM_eq_some_iff {α β : Type} {look : α → Option β} {l : List α} {values : List β} :
    l.mapM look = some values ↔ List.Forall₂ (fun a b => look a = some b) l values := by
  induction l generalizing values with
  | nil => simp [eq_comm]
  | cons a l ih =>
    rw [List.mapM_cons, List.forall₂_cons_left_iff]
    cases look a <;> cases hl : l.mapM look <;> simp [← ih, hl, eq_comm]

namespace MetricFamily

variable {f g : MetricFamily} {labels : Labels} {values : List String} {s : Sample}

theorem names_zip (h : values.length = f.labelNames.length) : Labels.names (f.labelNames.zip values) = f.labelNames :=
  List.map_fst_zip (Nat.le_of_eq h.symm)

/-- Labels give values to the names of a family if and only if they are these names with these values, in any order. -/
theorem assignment?_eq_some_iff (hf : f.labelNames.Nodup) (hn : labels.names.Nodup)
    (hv : values.length = f.labelNames.length) :
    f.assignment? labels = some values ↔ labels.Perm (f.labelNames.zip values) := by
  have hnames := names_zip hv
  have hlook : ∀ name value, labels.reverse.lookup name = some value ↔ (name, value) ∈ labels := by
    intro name value
    rw [Labels.lookup_eq_some_iff (Labels.nodup_names_reverse hn), List.mem_reverse]
  unfold assignment?
  constructor
  · intro h
    split at h
    · rename_i hall
      rw [mapM_eq_some_iff, List.forall₂_iff_zip] at h
      -- every pair of the assignment is given, and no more names are given than it has
      have hsub : f.labelNames.zip values ⊆ labels := fun label hin =>
        (hlook label.1 label.2).1 (h.2 hin)
      have hnodup : (f.labelNames.zip values).Nodup := by
        rw [← hnames] at hf
        exact List.Nodup.of_map Prod.fst hf
      have hgiven : labels.names ⊆ Labels.names (f.labelNames.zip values) := by
        intro name hin
        obtain ⟨label, hlabel, rfl⟩ := List.mem_map.1 hin
        rw [hnames]
        simpa using List.all_eq_true.1 hall label hlabel
      have hlength := (List.subperm_of_subset hn hgiven).length_le
      rw [List.length_map, List.length_map] at hlength
      exact ((List.subperm_of_subset hnodup hsub).perm_of_length_le hlength).symm
    · cases h
  · intro h
    rw [if_pos, mapM_eq_some_iff, List.forall₂_iff_zip]
    · exact ⟨hv.symm, fun hin => (hlook _ _).2 (h.symm.subset hin)⟩
    · rw [List.all_eq_true]
      intro label hin
      have hname : label.1 ∈ Labels.names (f.labelNames.zip values) := List.mem_map_of_mem (h.subset hin)
      rw [hnames] at hname
      simpa using hname

/-! ## Families -/

theorem nodup_labelNames (hf : f ∈ all) : f.labelNames.Nodup := by
  revert f
  decide

theorem nodup_names : (all.map (·.name)).Nodup := by decide

theorem eq_of_name_eq (hf : f ∈ all) (hg : g ∈ all) (h : f.name = g.name) : f = g :=
  List.inj_on_of_nodup_map nodup_names hf hg h

theorem takes_iff : f.takes s = true ↔ s.isOf f.kind f.name = true := by
  simp only [takes, Sample.isOf, Bool.and_eq_true, beq_iff_eq]
  exact and_congr eq_comm eq_comm

theorem name_eq_of_takes (h : f.takes s = true) : f.name = s.name := by
  simp only [takes, Bool.and_eq_true, beq_iff_eq] at h
  exact h.2

/-- A sample goes to the only family that takes it. -/
theorem find?_takes (hf : f ∈ all) (h : f.takes s = true) : all.find? (·.takes s) = some f := by
  cases hg : all.find? (·.takes s) with
  | none => exact absurd h (List.find?_eq_none.1 hg f hf)
  | some g =>
    have hs : g.takes s = true := List.find?_some (p := fun f : MetricFamily => f.takes s) hg
    have hname := (name_eq_of_takes hs).trans (name_eq_of_takes h).symm
    rw [eq_of_name_eq (List.mem_of_find?_eq_some hg) hf hname]

/-- Whether a sample is gathered for an assignment of a family's labels. -/
def files (f : MetricFamily) (values : List String) (s : Sample) : Bool :=
  f.takes s && f.assignment? s.labels == some values

theorem length_eq_of_assignment? (h : f.assignment? labels = some values) : values.length = f.labelNames.length := by
  unfold assignment? at h
  split at h
  · exact (mapM_eq_some_iff.1 h).length_eq.symm
  · cases h

theorem files_iff (hf : f ∈ all) (hn : s.labels.names.Nodup) (hv : values.length = f.labelNames.length) :
    f.files values s = true ↔ s.isOf f.kind f.name = true ∧ s.labels.Perm (f.labelNames.zip values) := by
  rw [files, Bool.and_eq_true, beq_iff_eq, takes_iff, assignment?_eq_some_iff (nodup_labelNames hf) hn hv]

end MetricFamily

/-! ## Gathering -/

namespace Gathered

/-- What is gathered when a sample is taken in, as the first or after others. -/
def take (gathered? : Option Gathered) (s : Sample) : Option Gathered := some ((gathered?.getD .none).add s.value)

/-- What is gathered from samples, the first of them first. -/
def ofSamples (samples : List Sample) : Gathered := samples.foldl (fun g s => g.add s.value) .none

variable {samples : List Sample} {s : Sample}

theorem foldl_take_some (samples : List Sample) (g : Gathered) :
    samples.foldl take (some g) = some (samples.foldl (fun g s => g.add s.value) g) := by
  induction samples generalizing g with
  | nil => rfl
  | cons s samples ih => exact ih (g.add s.value)

theorem foldl_take (samples : List Sample) :
    samples.foldl take Option.none = if samples = [] then Option.none else some (ofSamples samples) := by
  cases samples with
  | nil => rfl
  | cons s samples => exact foldl_take_some samples _

theorem foldl_add_count (samples : List Sample) (g : Gathered) :
    (samples.foldl (fun g s => g.add s.value) g).count = g.count + samples.length := by
  induction samples generalizing g with
  | nil => rfl
  | cons s samples ih =>
    rw [List.foldl_cons, ih, List.length_cons]
    show g.count + 1 + samples.length = _
    omega

theorem count_ofSamples (samples : List Sample) : (ofSamples samples).count = samples.length :=
  (foldl_add_count samples .none).trans (Nat.zero_add _)

theorem foldl_add_sum (samples : List Sample) (g : Gathered) :
    (samples.foldl (fun g s => g.add s.value) g).sum = samples.foldl (fun sum s => sum + s.value) g.sum := by
  induction samples generalizing g with
  | nil => rfl
  | cons s samples ih => exact ih (g.add s.value)

/-- A counter starts from zero, and a total from the negative zero; the first count makes them one. -/
theorem sum_ofSamples (hne : samples ≠ []) (hone : ∀ s ∈ samples, s.value = 1.0) :
    (ofSamples samples).sum = samples.foldl (fun sum s => sum + s.value) (-0.0) := by
  obtain ⟨s, rest, rfl⟩ := List.exists_cons_of_ne_nil hne
  have hzero : (0.0 + 1.0 : Float) = -0.0 + 1.0 := by decide +kernel
  unfold ofSamples
  rw [foldl_add_sum, List.foldl_cons, List.foldl_cons, hone s List.mem_cons_self]
  exact congrArg (fun sum => rest.foldl (fun sum s => sum + s.value) sum) hzero

theorem foldl_add_last (samples : List Sample) (g : Gathered) :
    (samples.foldl (fun g s => g.add s.value) g).last = (samples.getLast?.map (·.value)).getD g.last := by
  induction samples generalizing g with
  | nil => rfl
  | cons s samples ih =>
    rw [List.foldl_cons, ih, List.getLast?_cons]
    cases samples.getLast? <;> rfl

theorem last_ofSamples (hne : samples ≠ []) : samples.getLast?.map (·.value) = some (ofSamples samples).last := by
  rw [ofSamples, foldl_add_last, List.getLast?_eq_some_getLast hne]
  rfl

end Gathered

namespace Exposition

variable {f g : MetricFamily} {values : List String} {s : Sample} {e : Exposition} {samples : List Sample}

/-- A sample that is gathered for an assignment. -/
theorem record_of_files (hf : f ∈ MetricFamily.all) (h : f.files values s = true) : e.record s =
    ⟨e.children.insert f.name ((e.childrenOf f.name).insert values
      ((((e.childrenOf f.name).get? values).getD .none).add s.value))⟩ := by
  rw [MetricFamily.files, Bool.and_eq_true, beq_iff_eq] at h
  unfold record
  rw [MetricFamily.find?_takes hf h.1]
  dsimp only
  rw [h.2]

/-- A sample that is gathered for no assignment is dropped. -/
theorem record_of_not_files (h : ∀ f ∈ MetricFamily.all, ∀ values, f.files values s = false) : e.record s = e := by
  unfold record
  cases hf : MetricFamily.all.find? (·.takes s) with
  | none => rfl
  | some f =>
    have hs : f.takes s = true := List.find?_some (p := fun f : MetricFamily => f.takes s) hf
    dsimp only
    cases hv : f.assignment? s.labels with
    | none => rfl
    | some values =>
      have hfiles := h f (List.mem_of_find?_eq_some hf) values
      simp [MetricFamily.files, hs, hv] at hfiles

/-- A sample changes what is gathered where it belongs, and nothing else. -/
theorem get?_record (hf : f ∈ MetricFamily.all) (values : List String) (e : Exposition) (s : Sample) :
    ((e.record s).childrenOf f.name).get? values =
      if f.files values s then Gathered.take ((e.childrenOf f.name).get? values) s
      else (e.childrenOf f.name).get? values := by
  by_cases hfiled : ∃ g ∈ MetricFamily.all, ∃ given, g.files given s = true
  · obtain ⟨g, hg, given, hfiles⟩ := hfiled
    have hgs := hfiles
    rw [MetricFamily.files, Bool.and_eq_true, beq_iff_eq] at hgs
    rw [record_of_files hg hfiles]
    by_cases hname : f.name = g.name
    · obtain rfl := MetricFamily.eq_of_name_eq hf hg hname
      unfold childrenOf
      rw [Table.get?_insert_self, Option.getD_some]
      by_cases hvalues : values = given
      · subst hvalues
        rw [Table.get?_insert_self, if_pos hfiles]
        rfl
      · have hother : ¬f.files values s = true := by
          rw [MetricFamily.files, Bool.and_eq_true, beq_iff_eq, hgs.2, Option.some.injEq]
          exact fun h => hvalues h.2.symm
        rw [Table.get?_insert_of_ne _ _ hvalues, if_neg hother]
    · have hother : ¬f.files values s = true := by
        rw [MetricFamily.files, Bool.and_eq_true]
        exact fun h => hname ((MetricFamily.name_eq_of_takes h.1).trans (MetricFamily.name_eq_of_takes hgs.1).symm)
      unfold childrenOf
      rw [Table.get?_insert_of_ne _ _ hname, if_neg hother]
  · have hdropped : ∀ g ∈ MetricFamily.all, ∀ given, g.files given s = false := fun g hg given =>
      Bool.eq_false_iff.2 fun hfiles => hfiled ⟨g, hg, given, hfiles⟩
    rw [record_of_not_files hdropped, hdropped f hf values, if_neg Bool.false_ne_true]

theorem get?_foldl_record (hf : f ∈ MetricFamily.all) (values : List String) (samples : List Sample) (e : Exposition) :
    ((samples.foldl record e).childrenOf f.name).get? values =
      (samples.filter (f.files values)).foldl Gathered.take ((e.childrenOf f.name).get? values) := by
  induction samples generalizing e with
  | nil => rfl
  | cons s samples ih =>
    rw [List.foldl_cons, ih, get?_record hf, List.filter_cons]
    split <;> rfl

/-- For each assignment a family gathers the samples that belong there, in the order of their emission. -/
theorem get?_ofSamples (hf : f ∈ MetricFamily.all) (values : List String) (samples : List Sample) :
    ((ofSamples samples).childrenOf f.name).get? values =
      if samples.filter (f.files values) = [] then none
      else some (Gathered.ofSamples (samples.filter (f.files values))) :=
  (get?_foldl_record hf values samples empty).trans (Gathered.foldl_take _)

/-- What is gathered for an assignment stands in the text. -/
theorem mem_lines {child : Gathered} {line : String} (hf : f ∈ MetricFamily.all)
    (hchild : (e.childrenOf f.name).get? values = some child) (hline : line ∈ metricLines f values child) :
    line ∈ e.lines := by
  obtain ⟨entry, hentry, rfl⟩ := Option.map_eq_some_iff.1 hchild
  have hin := List.mem_of_find?_eq_some hentry
  obtain rfl : entry.1 = values := by simpa using List.find?_some hentry
  refine List.mem_flatMap.2 ⟨f, hf, ?_⟩
  unfold familyLines
  dsimp only
  rw [if_neg, List.mem_append]
  · exact .inr (List.mem_flatMap.2 ⟨entry, List.mem_mergeSort.2 hin, hline⟩)
  · rw [List.isEmpty_iff]
    exact List.ne_nil_of_mem (List.mem_mergeSort.2 hin)

end Exposition

/-! ## Recorded samples -/

/-- A sample as collectors are given it: a counter counts one, and no two labels have one name. -/
structure Sample.Genuine (s : Sample) : Prop where
  counts : s.kind = .counter → s.value = 1.0
  labels : s.labels.names.Nodup

/-- A sample that carries labels in another order carries each of them. -/
theorem Sample.Genuine.carries {s : Sample} (h : s.Genuine) {labels : Labels} (hperm : s.labels.Perm labels) :
    s.carries labels = true := by
  refine List.all_eq_true.2 fun label hin => ?_
  rw [beq_iff_eq]
  exact (Labels.lookup_eq_some_iff h.labels).2 (hperm.symm.subset hin)

namespace Recording

open MetricFamily

/-- The samples that carry just some labels, in any order. -/
def labelled (samples : List Sample) (labels : Labels) : List Sample := samples.filter (·.labels.isPerm labels)

variable {samples : List Sample} {labels : Labels} {f : MetricFamily} {values : List String}

theorem perm_of_mem_samplesOf {kind : SampleKind} {name : String} {s : Sample}
    (h : s ∈ samplesOf (labelled samples labels) kind name) : s ∈ samples ∧ s.labels.Perm labels := by
  obtain ⟨hin, hperm⟩ := List.mem_filter.1 (List.mem_filter.1 h).1
  exact ⟨hin, List.isPerm_iff.1 hperm⟩

theorem filter_carries (hs : ∀ s ∈ samples, s.Genuine) (kind : SampleKind) (name : String) :
    (samplesOf (labelled samples labels) kind name).filter (·.carries labels) =
      samplesOf (labelled samples labels) kind name := by
  refine List.filter_eq_self.2 fun s hin => ?_
  obtain ⟨hmem, hperm⟩ := perm_of_mem_samplesOf hin
  exact (hs s hmem).carries hperm

/-- The samples of a family with just the labels of an assignment are those that the family gathers for it. -/
theorem samplesOf_labelled (hs : ∀ s ∈ samples, s.Genuine) (hf : f ∈ all) (hv : values.length = f.labelNames.length)
    (hperm : labels.Perm (f.labelNames.zip values)) :
    samplesOf (labelled samples labels) f.kind f.name = samples.filter (f.files values) := by
  unfold samplesOf labelled
  rw [List.filter_filter]
  refine List.filter_congr fun s hin => Bool.eq_iff_iff.2 ?_
  rw [files_iff hf (hs s hin).labels hv, Bool.and_eq_true, List.isPerm_iff]
  exact and_congr_right fun _ => ⟨fun h => h.trans hperm, fun h => h.trans hperm.symm⟩

theorem counterTotal_labelled (hs : ∀ s ∈ samples, s.Genuine) (name : String) :
    counterTotal (labelled samples labels) name labels =
      (samplesOf (labelled samples labels) .counter name).foldl (fun sum s => sum + s.value) (-0.0) := by
  unfold counterTotal
  rw [filter_carries hs]

theorem lastGauge?_labelled (hs : ∀ s ∈ samples, s.Genuine) (name : String) :
    lastGauge? (labelled samples labels) name labels =
      (samplesOf (labelled samples labels) .gauge name).getLast?.map (·.value) := by
  unfold lastGauge?
  rw [← List.head?_filter, List.filter_reverse, filter_carries hs, List.head?_reverse]

end Recording

/-! ## Agreement -/

/-- A sample of a registered family with exactly its label names, in any order. -/
def Sample.Accepted (s : Sample) : Prop :=
  ∃ f ∈ MetricFamily.all, s.isOf f.kind f.name = true ∧ s.labels.names.Perm f.labelNames

namespace Exposition

open Recording

variable {samples : List Sample} {s : Sample} {labels : Labels} {kind : SampleKind} {name : String}

/-- What is gathered for an assignment agrees with recorded samples: nothing is gathered where none is recorded, and
otherwise the number of observations, the total of a counter and the last value of a gauge are the recorded ones. -/
structure Agrees (child? : Option Gathered) (kind : SampleKind) (name : String) (labels : Labels)
    (recorded : List Sample) : Prop where
  present : child? = none ↔ samplesOf recorded kind name = []
  count : (child?.getD .none).count = (samplesOf recorded kind name).length
  total : kind = .counter → ∀ child, child? = some child → child.sum = counterTotal recorded name labels
  /-- A total over no samples is the negative zero. -/
  noTotal : kind = .counter → child? = none → counterTotal recorded name labels = -0.0
  last : kind = .gauge → child?.map (·.last) = lastGauge? recorded name labels

/-- Nothing is gathered where nothing is recorded. -/
theorem agrees_none (hs : ∀ s ∈ samples, s.Genuine) (h : samplesOf (labelled samples labels) kind name = []) :
    Agrees none kind name labels (labelled samples labels) where
  present := iff_of_true rfl h
  count := by
    rw [h]
    rfl
  total _ _ hchild := by cases hchild
  noTotal hk _ := by
    rw [counterTotal_labelled hs, ← hk, h]
    rfl
  last hk := by
    rw [lastGauge?_labelled hs, ← hk, h]
    rfl

/-- What is gathered from the recorded samples of an assignment. -/
theorem agrees_some (hs : ∀ s ∈ samples, s.Genuine) (h : samplesOf (labelled samples labels) kind name ≠ []) :
    Agrees (some (Gathered.ofSamples (samplesOf (labelled samples labels) kind name))) kind name labels
      (labelled samples labels) where
  present := iff_of_false (by intro hchild; cases hchild) h
  count := Gathered.count_ofSamples _
  total hk child hchild := by
    obtain rfl := Option.some.inj hchild
    have hone : ∀ s ∈ samplesOf (labelled samples labels) kind name, s.value = 1.0 := by
      intro s hin
      have hkind := (List.mem_filter.1 hin).2
      rw [Sample.isOf, Bool.and_eq_true, beq_iff_eq] at hkind
      exact (hs s (perm_of_mem_samplesOf hin).1).counts (hkind.1.trans hk)
    rw [counterTotal_labelled hs, ← hk]
    exact Gathered.sum_ofSamples h hone
  noTotal _ hchild := by cases hchild
  last hk := by
    rw [lastGauge?_labelled hs, ← hk]
    exact (Gathered.last_ofSamples h).symm

theorem agrees_ofSamples (hs : ∀ s ∈ samples, s.Genuine) {f : MetricFamily} (hf : f ∈ MetricFamily.all)
    {values : List String} (hv : values.length = f.labelNames.length) (hperm : labels.Perm (f.labelNames.zip values)) :
    Agrees (((ofSamples samples).childrenOf f.name).get? values) f.kind f.name labels (labelled samples labels) := by
  have hchild := get?_ofSamples hf values samples
  rw [← samplesOf_labelled hs hf hv hperm] at hchild
  rw [hchild]
  split
  · next hnone => exact agrees_none hs hnone
  · next hsome => exact agrees_some hs hsome

/-- A sample that is not accepted changes nothing. -/
theorem record_of_not_accepted (hs : s.Genuine) (h : ¬s.Accepted) (e : Exposition) : e.record s = e := by
  refine record_of_not_files fun f hf values => Bool.eq_false_iff.2 fun hfiles => h ⟨f, hf, ?_⟩
  have hassigned := hfiles
  rw [MetricFamily.files, Bool.and_eq_true, beq_iff_eq] at hassigned
  have hv := MetricFamily.length_eq_of_assignment? hassigned.2
  obtain ⟨hof, hperm⟩ := (MetricFamily.files_iff hf hs.labels hv).1 hfiles
  refine ⟨hof, ?_⟩
  rw [← MetricFamily.names_zip hv]
  exact hperm.map Prod.fst

theorem ofSamples_of_not_accepted (hs : s.Genuine) (h : ¬s.Accepted) (before after : List Sample) :
    ofSamples (before ++ s :: after) = ofSamples (before ++ after) := by
  unfold ofSamples
  rw [List.foldl_append, List.foldl_append, List.foldl_cons, record_of_not_accepted hs h]

end Exposition
end MailReconciler
