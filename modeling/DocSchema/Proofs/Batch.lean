import DocSchema.Report.Validation

/-!
# Where a batch ends

Documents are validated one after the other until enough of them have failed.
Two loops do this.  `Schema.collect` goes through documents and asks after each
failure whether to stop; `ValidationReport.walk` goes through paths, where a
document that cannot be loaded is a failure too, and asks after every path.

`StopRule.EndsAfter` says without a loop how far a batch gets.  Both loops get
exactly that far (`Schema.collect_ends`, `ValidationReport.walk_ends`), and there
is one place only where a batch ends (`StopRule.EndsAfter.unique`).  The invariant
of both is that the findings so far leave room for a further failure
(`StopRule.Allows`).
-/
namespace DocSchema

/-! ## The end of a batch -/

/-- The number of findings that are failures. -/
def failureCount (findings : List Finding) : Nat := findings.countP fun f => !f.isValid

namespace StopRule

/-- The number of failures at which a batch ends, if there is one. -/
def limit (rule : StopRule) : Option Nat :=
  if rule.failFast then some 1 else if 0 < rule.maxErrors then some rule.maxErrors else none

/-- The findings have fewer failures than end a batch. -/
def Allows (rule : StopRule) (findings : List Finding) : Prop :=
  ∀ limit, rule.limit = some limit → failureCount findings < limit

/-- **How far a batch gets.**  It ends with the finding that makes its failures as
many as the limit, or, when there are fewer, with the last of all findings. -/
inductive EndsAfter (rule : StopRule) : List Finding → Nat → Prop where
  | atLimit {before : List Finding} {last : Finding} {after : List Finding} :
      last.isValid = false → rule.limit = some (failureCount before + 1) →
      EndsAfter rule (before ++ last :: after) (before.length + 1)
  | atEnd {findings : List Finding} : rule.Allows findings →
      EndsAfter rule findings findings.length

end StopRule

/-! ## Counting failures -/

theorem failureCount_append (xs ys : List Finding) :
    failureCount (xs ++ ys) = failureCount xs + failureCount ys :=
  List.countP_append ..

theorem failureCount_concat (xs : List Finding) (f : Finding) :
    failureCount (xs ++ [f]) = if f.isValid then failureCount xs else failureCount xs + 1 := by
  cases h : f.isValid <;> simp [failureCount, h]

theorem failureCount_cons_of_invalid {f : Finding} (h : f.isValid = false) (xs : List Finding) :
    failureCount (f :: xs) = failureCount xs + 1 := by
  simp [failureCount, h]

theorem failureCount_eq_zero_iff {findings : List Finding} :
    failureCount findings = 0 ↔ ∀ f ∈ findings, f.isValid = true := by
  simp [failureCount]

namespace StopRule
variable {rule : StopRule}

/-- A rule stops when the limit is reached. -/
theorem stopsAt_iff {failed : Nat} :
    rule.stopsAt failed = true ↔ ∃ limit, rule.limit = some limit ∧ limit ≤ failed := by
  obtain ⟨failFast, maxErrors⟩ := rule
  cases failFast with
  | true => simp [stopsAt, limit, Nat.one_le_iff_ne_zero, Nat.pos_iff_ne_zero]
  | false =>
    by_cases hmax : 0 < maxErrors
    · simp only [stopsAt, limit, hmax, Bool.false_or, decide_true, Bool.true_and, if_true,
        Bool.and_eq_true, decide_eq_true_eq, Bool.false_eq_true, if_false, Option.some.injEq,
        exists_eq_left']
      omega
    · simp [stopsAt, limit, hmax]

theorem stopsAt_iff_not_allows {findings : List Finding} :
    rule.stopsAt (failureCount findings) = true ↔ ¬ rule.Allows findings := by
  rw [stopsAt_iff, Allows]
  simp only [Classical.not_forall, Nat.not_lt, exists_prop]

/-- A batch starts with room for a failure. -/
theorem allows_nil : rule.Allows [] := by
  refine Classical.byContradiction fun h => ?_
  have hstops := stopsAt_iff_not_allows.mpr h
  simp [failureCount, stopsAt] at hstops

/-- Nothing but a failure can take the room that is left. -/
theorem allows_concat_of_valid {before : List Finding} {f : Finding} (h : rule.Allows before)
    (hf : f.isValid = true) : rule.Allows (before ++ [f]) := by
  intro limit hlimit
  rw [failureCount_concat, if_pos hf]
  exact h limit hlimit

/-- A batch ends with the finding after which there is no room. -/
theorem endsAfter_of_not_allows {before : List Finding} {f : Finding} (after : List Finding)
    (h : rule.Allows before) (hf : ¬ rule.Allows (before ++ [f])) :
    rule.EndsAfter (before ++ f :: after) (before.length + 1) := by
  have hinvalid : f.isValid = false :=
    Bool.eq_false_iff.mpr fun hvalid => hf (allows_concat_of_valid h hvalid)
  obtain ⟨limit, hlimit, hle⟩ := stopsAt_iff.mp (stopsAt_iff_not_allows.mpr hf)
  rw [failureCount_concat, hinvalid, if_neg (by decide)] at hle
  have hlt := h limit hlimit
  exact .atLimit hinvalid (by rw [hlimit]; exact congrArg some (by omega))

/-- **Stopping hides no failure.**  A batch that gets through without a failure gets
to all documents. -/
theorem EndsAfter.failureCount_take {findings : List Finding} {k : Nat}
    (h : rule.EndsAfter findings k) :
    failureCount (findings.take k) = 0 ↔ failureCount findings = 0 := by
  cases h with
  | @atLimit before last after hlast _ =>
    rw [List.take_length_add_append, failureCount_append, failureCount_append]
    simp [failureCount, hlast]
  | atEnd _ => rw [List.take_length]

/-- The findings up to a limit are no part of those up to the same limit. -/
theorem length_le_of_atLimit {before before' after after' : List Finding} {last last' : Finding}
    (hlast : last.isValid = false) (hsplit : before ++ last :: after = before' ++ last' :: after')
    (hcount : failureCount before' = failureCount before) : before'.length ≤ before.length := by
  rcases List.append_eq_append_iff.mp hsplit with ⟨more, rfl, hmore⟩ | ⟨more, rfl, -⟩
  · cases more with
    | nil => simp
    | cons f more =>
      -- The longer part would have the last failure of the shorter one too.
      obtain ⟨rfl, -⟩ := List.cons.inj hmore
      rw [failureCount_append, failureCount_cons_of_invalid hlast] at hcount
      omega
  · simp

/-- **A batch has one end.** -/
theorem EndsAfter.unique {findings : List Finding} {k k' : Nat} (h : rule.EndsAfter findings k)
    (h' : rule.EndsAfter findings k') : k = k' := by
  -- The failure at the limit takes the last room, so no batch gets past it.
  have hend : ∀ {before last after}, last.isValid = false →
      rule.limit = some (failureCount before + 1) → ¬ rule.Allows (before ++ last :: after) := by
    intro before last after hlast hlimit hallows
    have hlt := hallows _ hlimit
    rw [failureCount_append, failureCount_cons_of_invalid hlast] at hlt
    omega
  generalize hsame : findings = same at h'
  cases h with
  | atLimit hlast hlimit =>
    cases h' with
    | atLimit hlast' hlimit' =>
      rw [hlimit, Option.some.injEq] at hlimit'
      have hle := length_le_of_atLimit hlast hsame (by omega)
      have hge := length_le_of_atLimit hlast' hsame.symm (by omega)
      omega
    | atEnd hallows => exact absurd (hsame ▸ hallows) (hend hlast hlimit)
  | atEnd hallows =>
    cases h' with
    | atLimit hlast' hlimit' => exact absurd (hsame ▸ hallows) (hend hlast' hlimit')
    | atEnd _ => rw [hsame]

end StopRule

/-! ## Documents in a row -/

/-- What comes of a document that is loaded. -/
def Schema.judge (s : Schema) (d : Json) : Finding :=
  match s.validate d with
  | .ok _ => .valid
  | .error f => .invalid f

/-- The failure of a document that is loaded and does not conform. -/
def Finding.failure? : Finding → Option Failure
  | .invalid f => some f
  | .valid | .unloadable _ => none

/-- The failures among findings, under the numbers of the documents from a number
on. -/
def failuresFrom (number : Nat) (findings : List Finding) : List DocumentFailure :=
  (findings.zipIdx number).filterMap fun (f, i) => f.failure?.map (DocumentFailure.mk i)

theorem failuresFrom_cons (number : Nat) (f : Finding) (findings : List Finding) :
    failuresFrom number (f :: findings) =
      (f.failure?.map (DocumentFailure.mk number)).toList ++
        failuresFrom (number + 1) findings := by
  rw [failuresFrom, List.zipIdx_cons, List.filterMap_cons]
  cases hf : f.failure? <;> simp [hf, failuresFrom]

/-- Whether to stop is asked after failures only.  Where there is room, asking
after every document comes to the same. -/
theorem Schema.collect_cons (s : Schema) {rule : StopRule} {before : List Finding}
    (h : rule.Allows before) (d : Json) (ds : List Json) :
    (s.collect rule before.length (failureCount before) (d :: ds)).2 =
      ((s.judge d).failure?.map (DocumentFailure.mk before.length)).toList ++
        if rule.stopsAt (failureCount (before ++ [s.judge d])) then []
        else (s.collect rule (before.length + 1) (failureCount (before ++ [s.judge d])) ds).2 := by
  have hcount := failureCount_concat before (s.judge d)
  rw [collect]
  cases hvalidate : s.validate d with
  | ok context =>
    have hjudge : s.judge d = .valid := by rw [judge, hvalidate]
    rw [hjudge, Finding.isValid, if_pos rfl] at hcount
    have hgoesOn : ¬ rule.stopsAt (failureCount before) = true :=
      mt StopRule.stopsAt_iff_not_allows.mp (not_not_intro h)
    rw [hjudge, hcount, if_neg hgoesOn]
    rfl
  | error f =>
    have hjudge : s.judge d = .invalid f := by rw [judge, hvalidate]
    have hinvalid : (Finding.invalid f).isValid = false := rfl
    rw [hjudge, hinvalid, if_neg (by decide)] at hcount
    rw [hjudge, hcount]
    by_cases hstops : rule.stopsAt (failureCount before + 1) = true
    · simp [hstops, Finding.failure?]
    · simp [hstops, Finding.failure?]

/-- **Collecting failures gets as far as the batch does.** -/
theorem Schema.collect_ends (s : Schema) {rule : StopRule} {before : List Finding} (ds : List Json)
    (h : rule.Allows before) :
    ∃ k, rule.EndsAfter (before ++ ds.map s.judge) (before.length + k) ∧
      (s.collect rule before.length (failureCount before) ds).2 =
        failuresFrom before.length ((ds.map s.judge).take k) := by
  induction ds generalizing before with
  | nil =>
    refine ⟨0, ?_, rfl⟩
    rw [List.map_nil, List.append_nil]
    exact .atEnd h
  | cons d ds ih =>
    rw [collect_cons s h, List.map_cons]
    by_cases hallows : rule.Allows (before ++ [s.judge d])
    · -- The finding joins those before, and the rest goes on from there.
      obtain ⟨k, hends, hfailures⟩ := ih hallows
      rw [List.append_assoc, List.length_append, Nat.add_assoc, Nat.add_comm _ k] at hends
      rw [List.length_append] at hfailures
      refine ⟨k + 1, hends, ?_⟩
      rw [if_neg (mt StopRule.stopsAt_iff_not_allows.mp (not_not_intro hallows)),
        List.take_succ_cons, failuresFrom_cons]
      exact congrArg _ hfailures
    · refine ⟨1, StopRule.endsAfter_of_not_allows _ h hallows, ?_⟩
      rw [if_pos (StopRule.stopsAt_iff_not_allows.mpr hallows), List.take_succ_cons,
        failuresFrom_cons]
      rfl

/-- The failures that a result on several documents names. -/
def FailureList.ofResult {α : Type} : Except FailureList α → List DocumentFailure
  | .ok _ => []
  | .error l => l.failures

theorem Schema.ofResult_validateAll (s : Schema) (rule : StopRule) (ds : List Json) :
    FailureList.ofResult (s.validateAll rule ds) = (s.collect rule 0 0 ds).2 := by
  rw [validateAll]
  obtain ⟨contexts, failures⟩ := s.collect rule 0 0 ds
  cases failures <;> rfl

/-! ## Paths in a row -/

/-- **Walking over paths gets as far as the batch does**, and its counter is then the
number of all failures so far. -/
theorem ValidationReport.walk_ends (look : String → Finding) {rule : StopRule}
    {before : List Finding} (paths : List String) (h : rule.Allows before) :
    let (documents, failed) := walk look rule (failureCount before) paths
    rule.EndsAfter (before ++ paths.map look) (before.length + documents.length) ∧
      documents = (paths.map fun p => ⟨p, look p⟩).take documents.length ∧
      failed = failureCount (before ++ documents.map (·.finding)) := by
  induction paths generalizing before with
  | nil =>
    rw [List.map_nil, List.append_nil]
    exact ⟨.atEnd h, rfl, congrArg failureCount (List.append_nil before).symm⟩
  | cons path rest ih =>
    rw [walk]
    simp only
    rw [← failureCount_concat]
    by_cases hallows : rule.Allows (before ++ [look path])
    · rw [if_neg (mt StopRule.stopsAt_iff_not_allows.mp (not_not_intro hallows))]
      have htail := ih hallows
      generalize walk look rule (failureCount (before ++ [look path])) rest = tail at htail ⊢
      obtain ⟨documents, failed⟩ := tail
      obtain ⟨hends, hdocuments, hfailed⟩ := htail
      rw [List.append_assoc, List.length_append, Nat.add_assoc, Nat.add_comm _ documents.length]
        at hends
      refine ⟨hends, ?_, ?_⟩
      · rw [List.map_cons, List.length_cons, List.take_succ_cons, ← hdocuments]
      · rw [hfailed, List.append_assoc]
        rfl
    · rw [if_pos (StopRule.stopsAt_iff_not_allows.mpr hallows)]
      exact ⟨StopRule.endsAfter_of_not_allows _ h hallows, rfl, rfl⟩

/-- **A report ends where the batch does.**  It has the findings up to there and
counts their failures. -/
theorem ValidationReport.ofPaths_ends (schema : String) (look : String → Finding) (rule : StopRule)
    (paths : List String) :
    let r := ofPaths schema look rule paths
    rule.EndsAfter (paths.map look) r.checked ∧
      r.documents = (paths.map fun p => ⟨p, look p⟩).take r.checked ∧
      r.failed = failureCount (r.documents.map (·.finding)) := by
  obtain ⟨hends, hdocuments, hfailed⟩ := walk_ends look paths rule.allows_nil
  rw [List.nil_append, List.length_nil, Nat.zero_add] at hends
  rw [List.nil_append] at hfailed
  exact ⟨hends, hdocuments, hfailed⟩

end DocSchema
