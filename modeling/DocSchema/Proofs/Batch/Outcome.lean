import DocSchema.Proofs.Batch
import Mathlib.Data.List.Forall2

/-!
# What a batch gives

A document in a batch is validated as if it were alone, so what a batch gives can
be told from the single documents.  If all of them are accepted, a batch gives
their records in order.  Otherwise it gives failures: of all failures of single
documents (`IsAllFailures`) the first ones, up to the limit of the rule
(`StopRule.listed`).

That no more and no fewer are listed is a matter of counting.  A batch ends with
the finding that makes its failures as many as the limit
(`StopRule.EndsAfter`), and documents that are loaded have one failure for each
finding that counts.
-/
namespace DocSchema

/-- **All failures** of documents that are validated alone, in the order of the
documents. -/
structure IsAllFailures (s : Schema) (ds : List Json) (all : List DocumentFailure) : Prop where
  mem_iff : ∀ f, f ∈ all ↔ ∃ d, ds[f.document]? = some d ∧ s.validate d = .error f.failure
  increasing : all.Pairwise (·.document < ·.document)

/-- The failures that a rule lets a batch list, of all that there are. -/
def StopRule.listed (rule : StopRule) (all : List DocumentFailure) : List DocumentFailure :=
  match rule.limit with
  | none => all
  | some limit => all.take limit

/-! ## All failures -/

theorem Schema.failure?_judge {s : Schema} {d : Json} {f : Failure} :
    (s.judge d).failure? = some f ↔ s.validate d = .error f := by
  rw [judge]
  cases s.validate d <;> simp [Finding.failure?]

theorem le_document_of_mem_failuresFrom {number : Nat} {findings : List Finding}
    {f : DocumentFailure} (h : f ∈ failuresFrom number findings) : number ≤ f.document := by
  obtain ⟨⟨finding, i⟩, hmem, hf⟩ := List.mem_filterMap.mp h
  obtain ⟨failure, -, rfl⟩ := Option.map_eq_some_iff.mp hf
  exact List.le_snd_of_mem_zipIdx hmem

theorem pairwise_failuresFrom (number : Nat) (findings : List Finding) :
    (failuresFrom number findings).Pairwise (·.document < ·.document) := by
  induction findings generalizing number with
  | nil => exact List.Pairwise.nil
  | cons finding findings ih =>
    rw [failuresFrom_cons]
    refine List.pairwise_append.mpr ⟨?_, ih (number + 1), ?_⟩
    · cases finding.failure? <;> simp
    · intro f hf g hg
      obtain ⟨failure, -, rfl⟩ := Option.map_eq_some_iff.mp (Option.mem_toList.mp hf)
      exact le_document_of_mem_failuresFrom hg

theorem isAllFailures_failuresFrom (s : Schema) (ds : List Json) :
    IsAllFailures s ds (failuresFrom 0 (ds.map s.judge)) := by
  refine ⟨fun f => ?_, pairwise_failuresFrom 0 _⟩
  rw [failuresFrom, List.mem_filterMap]
  constructor
  · rintro ⟨⟨finding, i⟩, hmem, hf⟩
    obtain ⟨failure, hfailure, rfl⟩ := Option.map_eq_some_iff.mp hf
    have hget : (ds.map s.judge)[i]? = some finding := List.mk_mem_zipIdx_iff_getElem?.mp hmem
    rw [List.getElem?_map] at hget
    obtain ⟨d, hd, rfl⟩ := Option.map_eq_some_iff.mp hget
    exact ⟨d, hd, Schema.failure?_judge.mp hfailure⟩
  · rintro ⟨d, hd, hvalidate⟩
    refine ⟨(s.judge d, f.document), ?_, ?_⟩
    · rw [List.mk_mem_zipIdx_iff_getElem?, List.getElem?_map, hd]
      rfl
    · simp only [Schema.failure?_judge.mpr hvalidate]
      rfl

/-! ## The failures up to the limit -/

theorem failuresFrom_append (number : Nat) (xs ys : List Finding) :
    failuresFrom number (xs ++ ys) =
      failuresFrom number xs ++ failuresFrom (number + xs.length) ys := by
  rw [failuresFrom, List.zipIdx_append, List.filterMap_append]
  rfl

/-- The findings are of documents that are loaded. -/
def AllLoaded (findings : List Finding) : Prop := ∀ cause, Finding.unloadable cause ∉ findings

theorem allLoaded_map_judge (s : Schema) (ds : List Json) : AllLoaded (ds.map s.judge) := by
  intro cause h
  obtain ⟨d, -, hd⟩ := List.mem_map.mp h
  rw [Schema.judge] at hd
  cases hvalidate : s.validate d <;> rw [hvalidate] at hd <;> cases hd

/-- Each finding that counts as a failure has one, if the documents are loaded. -/
theorem length_failuresFrom {findings : List Finding} (h : AllLoaded findings) (number : Nat) :
    (failuresFrom number findings).length = failureCount findings := by
  induction findings generalizing number with
  | nil => rfl
  | cons f findings ih =>
    have hrest := ih (fun cause hf => h cause (List.mem_cons_of_mem _ hf)) (number + 1)
    rw [failuresFrom_cons, List.length_append, hrest, ← List.singleton_append, failureCount_append,
      Nat.add_right_cancel_iff]
    cases f with
    | valid => rfl
    | invalid f => rfl
    | unloadable cause => exact absurd List.mem_cons_self (h cause)

/-- **The end of a batch is the limit of its failures.** -/
theorem StopRule.EndsAfter.failuresFrom_take {rule : StopRule} {findings : List Finding} {k : Nat}
    (h : rule.EndsAfter findings k) (hloaded : AllLoaded findings) :
    failuresFrom 0 (findings.take k) = rule.listed (failuresFrom 0 findings) := by
  cases h with
  | @atLimit before last after hlast hlimit =>
    have hsplit : before ++ last :: after = (before ++ [last]) ++ after := by simp
    have hcounted : AllLoaded (before ++ [last]) := by
      intro cause hf
      apply hloaded cause
      rw [hsplit]
      exact List.mem_append_left _ hf
    -- The findings up to the last one have as many failures as the limit says.
    have hlength : (failuresFrom 0 (before ++ [last])).length = failureCount before + 1 := by
      rw [length_failuresFrom hcounted, failureCount_concat, hlast]
      rfl
    rw [hsplit, List.take_left' (by simp), listed, hlimit]
    simp only
    rw [← hlength, failuresFrom_append 0 (before ++ [last]), List.take_left]
  | atEnd hallows =>
    rw [List.take_length, listed]
    cases hlimit : rule.limit with
    | none => rfl
    | some limit =>
      have hlt := hallows limit hlimit
      rw [← length_failuresFrom hloaded 0] at hlt
      exact (List.take_of_length_le (Nat.le_of_lt hlt)).symm

/-- Failures that there are are not all left out. -/
theorem StopRule.listed_eq_nil_iff {rule : StopRule} {all : List DocumentFailure} :
    rule.listed all = [] ↔ all = [] := by
  rw [listed]
  cases hlimit : rule.limit with
  | none => rfl
  | some limit =>
    have hpos : 0 < limit := rule.allows_nil limit hlimit
    rw [List.take_eq_nil_iff]
    exact or_iff_right (Nat.ne_of_gt hpos)

/-! ## Results -/

theorem Schema.validateAll_eq_ok_iff {s : Schema} {rule : StopRule} {ds : List Json}
    {records : List Context} :
    s.validateAll rule ds = .ok records ↔ s.collect rule 0 0 ds = (records, []) := by
  rw [validateAll]
  obtain ⟨contexts, failures⟩ := s.collect rule 0 0 ds
  cases failures <;> simp

theorem Schema.validateAll_eq_error_iff {s : Schema} {rule : StopRule} {ds : List Json}
    {l : FailureList} :
    s.validateAll rule ds = .error l ↔
      (s.collect rule 0 0 ds).2 ≠ [] ∧ l.failures = (s.collect rule 0 0 ds).2 := by
  rw [validateAll]
  obtain ⟨contexts, failures⟩ := s.collect rule 0 0 ds
  obtain ⟨listed⟩ := l
  cases failures <;> simp [eq_comm]

/-- The failures of a batch are the first ones of all. -/
theorem Schema.collect_failures (s : Schema) (rule : StopRule) (ds : List Json) :
    (s.collect rule 0 0 ds).2 = rule.listed (failuresFrom 0 (ds.map s.judge)) := by
  obtain ⟨k, hends, hfailures⟩ := s.collect_ends ds rule.allows_nil
  rw [List.nil_append, List.length_nil, Nat.zero_add] at hends
  rw [← hends.failuresFrom_take (allLoaded_map_judge s ds)]
  exact hfailures

/-- Documents that are all accepted leave their records. -/
theorem Schema.collect_of_accepted {s : Schema} {ds : List Json} {records : List Context}
    (h : List.Forall₂ (fun d c => s.validate d = .ok c) ds records) (rule : StopRule)
    (number failed : Nat) : s.collect rule number failed ds = (records, []) := by
  induction h generalizing number with
  | nil => rfl
  | cons haccepted _ ih =>
    rw [collect, haccepted]
    simp only
    rw [ih (number + 1)]

theorem Schema.exists_records_iff {s : Schema} {ds : List Json} :
    (∃ records, List.Forall₂ (fun d c => s.validate d = .ok c) ds records) ↔
      ∀ d ∈ ds, ∃ c, s.validate d = .ok c := by
  constructor
  · rintro ⟨records, h⟩
    induction h with
    | nil => simp
    | cons haccepted _ ih =>
      intro d hd
      rcases List.mem_cons.mp hd with rfl | hd
      · exact ⟨_, haccepted⟩
      · exact ih d hd
  · intro h
    induction ds with
    | nil => exact ⟨[], .nil⟩
    | cons d ds ih =>
      obtain ⟨c, hc⟩ := h d List.mem_cons_self
      obtain ⟨records, hrecords⟩ := ih fun d hd => h d (List.mem_cons_of_mem _ hd)
      exact ⟨c :: records, .cons hc hrecords⟩

/-- There are no failures exactly if every document is accepted. -/
theorem IsAllFailures.eq_nil_iff {s : Schema} {ds : List Json} {all : List DocumentFailure}
    (h : IsAllFailures s ds all) : all = [] ↔ ∀ d ∈ ds, ∃ c, s.validate d = .ok c := by
  rw [List.eq_nil_iff_forall_not_mem]
  constructor
  · intro hnone d hd
    obtain ⟨i, hi⟩ := List.mem_iff_getElem?.mp hd
    cases hvalidate : s.validate d with
    | ok c => exact ⟨c, rfl⟩
    | error f => exact absurd ((h.mem_iff ⟨i, f⟩).mpr ⟨d, hi, hvalidate⟩) (hnone _)
  · intro haccepted f hf
    obtain ⟨d, hd, hvalidate⟩ := (h.mem_iff f).mp hf
    obtain ⟨c, hc⟩ := haccepted d (List.mem_of_getElem? hd)
    rw [hvalidate] at hc
    cases hc

/-- A batch succeeds with the records of the documents, each accepted alone. -/
theorem Schema.validateAll_eq_ok_iff_forall₂ {s : Schema} {rule : StopRule} {ds : List Json}
    {records : List Context} :
    s.validateAll rule ds = .ok records ↔
      List.Forall₂ (fun d c => s.validate d = .ok c) ds records := by
  rw [validateAll_eq_ok_iff]
  constructor
  · intro hcollect
    -- No failure is listed, so there is none, and the records are those of all documents.
    have hnone := s.collect_failures rule ds
    rw [hcollect, eq_comm, StopRule.listed_eq_nil_iff,
      (isAllFailures_failuresFrom s ds).eq_nil_iff] at hnone
    obtain ⟨records', hrecords'⟩ := exists_records_iff.mpr hnone
    rw [collect_of_accepted hrecords'] at hcollect
    obtain rfl : records' = records := congrArg Prod.fst hcollect
    exact hrecords'
  · intro haccepted
    exact collect_of_accepted haccepted rule 0 0

/-- A batch fails with the failures that are listed, if there are any. -/
theorem Schema.validateAll_eq_error_iff_listed {s : Schema} {rule : StopRule} {ds : List Json}
    {l : FailureList} :
    s.validateAll rule ds = .error l ↔ (∃ d ∈ ds, ∃ f, s.validate d = .error f) ∧
      l.failures = rule.listed (failuresFrom 0 (ds.map s.judge)) := by
  have hsome : (∃ d ∈ ds, ∃ f, s.validate d = .error f) ↔
      ¬ ∀ d ∈ ds, ∃ c, s.validate d = .ok c := by
    simp only [Classical.not_forall, exists_prop]
    refine exists_congr fun d => and_congr_right fun _ => ?_
    cases s.validate d <;> simp
  rw [validateAll_eq_error_iff, s.collect_failures, Ne, StopRule.listed_eq_nil_iff,
    (isAllFailures_failuresFrom s ds).eq_nil_iff, hsome]

/-- **A batch is settled by the documents alone.**  It succeeds exactly if each
document is accepted alone, and then has their records in order.  Otherwise it has
the first of all failures of single documents: one under a rule that fails fast,
else as many as the rule allows, and all of them if there are no more or the rule
sets no bound.  Which rule is in force decides how many failures are listed and
never whether there are any. -/
theorem batch_settled_by_documents_alone (s : Schema) (ds : List Json) :
    ∃ all, IsAllFailures s ds all ∧ ∀ rule : StopRule,
      ((∃ records, s.validateAll rule ds = .ok records) ↔
        ∀ d ∈ ds, ∃ c, s.validate d = .ok c) ∧
      (∀ records, s.validateAll rule ds = .ok records ↔
        List.Forall₂ (fun d c => s.validate d = .ok c) ds records) ∧
      ∀ l, s.validateAll rule ds = .error l ↔
        (∃ d ∈ ds, ∃ f, s.validate d = .error f) ∧ l.failures = rule.listed all := by
  refine ⟨_, isAllFailures_failuresFrom s ds, fun rule => ⟨?_, ?_, ?_⟩⟩
  · simp only [Schema.validateAll_eq_ok_iff_forall₂, Schema.exists_records_iff]
  · exact fun records => Schema.validateAll_eq_ok_iff_forall₂
  · exact fun l => Schema.validateAll_eq_error_iff_listed

end DocSchema
