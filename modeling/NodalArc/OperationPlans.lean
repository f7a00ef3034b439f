import NodalArc.StatefulProgram

/-! The Node Agent's operation plans: steps run in order with their proofs, and a failed plan rolls
its completed steps back in reverse. -/

namespace NodalArc.OperationPlans

open StatefulProgram
open StatefulProgram.Program

structure Proof where
  verified : Bool
  summary : String
  deriving DecidableEq, Repr

/-- One mutation of the kernel state `K`, its proof and its rollback. -/
structure OperationStep (K : Type) where
  name : String
  action : Program String K Unit
  verify : Option (Program String K Proof) := none
  rollback : Option (Program String K Unit) := none
  rollbackVerify : Option (Program String K Proof) := none
  dirtyOnFailure : Bool := true

structure OperationPlan (K : Type) where
  operationId : String
  operationKind : String
  target : String
  steps : List (OperationStep K)
  named : operationId ≠ "" ∧ operationKind ≠ "" ∧ target ≠ ""
  someStep : steps ≠ []

structure StepExecution where
  stepName : String
  proof : Option Proof := none
  errorMessage : String := ""
  deriving DecidableEq, Repr

structure OperationExecutionResult where
  success : Bool
  dirtyKernel : Bool
  errorMessage : String := ""
  proofs : List Proof := []
  executed : List StepExecution := []
  rollback : List StepExecution := []
  deriving DecidableEq, Repr

variable {K : Type} {k k' : K} {step : OperationStep K} {steps rest : List (OperationStep K)}

def verifyStep (step : OperationStep K) : Program String K (Option Proof) :=
  match step.verify with
  | none => return none
  | some verify => do
    let proof ← verify
    if proof.verified then return some proof else throw proof.summary

def runStep (step : OperationStep K) : Program String K (Option Proof) := do
  step.action
  verifyStep step

/-- What the loop over a plan's steps has collected. -/
structure Progress (K : Type) where
  completed : List (OperationStep K) := []
  executed : List StepExecution := []
  proofs : List Proof := []

def Progress.complete (p : Progress K) (step : OperationStep K) (proof : Option Proof) :
    Progress K where
  completed := p.completed ++ [step]
  executed := p.executed ++ [{ stepName := step.name, proof }]
  proofs := p.proofs ++ proof.toList

/-- The steps run until one raises; the failed step and what it raised, if one did. -/
def runSteps : List (OperationStep K) → Progress K → K →
    Option (OperationStep K × String) × Progress K × K
  | [], p, k => (none, p, k)
  | step :: rest, p, k =>
    match (runStep step).exec k with
    | (.error message, k) => (some (step, message), p, k)
    | (.ok proof, k) => runSteps rest (p.complete step proof) k

def runRollback (step : OperationStep K) (rollback : Program String K Unit) :
    Program String K (Option Proof) := do
  rollback
  match step.rollbackVerify with
  | none => return none
  | some verify => return some (← verify)

/-- Whether the kernel may be dirty, the rollbacks tried, and the kernel state. -/
structure Rollback (K : Type) where
  dirty : Bool
  results : List StepExecution := []
  kernel : K

def rollbackStep (r : Rollback K) (step : OperationStep K) : Rollback K :=
  match step.rollback with
  | none => { r with dirty := r.dirty || step.dirtyOnFailure }
  | some rollback =>
    match (runRollback step rollback).exec r.kernel with
    | (.error message, kernel) =>
      { dirty := true
        results := r.results ++ [{ stepName := step.name, errorMessage := message }]
        kernel }
    | (.ok none, kernel) => { r with results := r.results ++ [{ stepName := step.name }], kernel }
    | (.ok (some proof), kernel) =>
      if proof.verified then
        { r with results := r.results ++ [{ stepName := step.name, proof := some proof }], kernel }
      else
        { dirty := true
          results := r.results ++
            [{ stepName := step.name, proof := some proof, errorMessage := proof.summary }]
          kernel }

def executePlan (plan : OperationPlan K) (k : K) : OperationExecutionResult × K :=
  match runSteps plan.steps {} k with
  | (none, p, k) =>
    ({ success := true, dirtyKernel := false, proofs := p.proofs, executed := p.executed }, k)
  | (some (failed, message), p, k) =>
    let r := p.completed.reverse.foldl rollbackStep { dirty := failed.dirtyOnFailure, kernel := k }
    ({ success := false
       dirtyKernel := r.dirty
       errorMessage :=
         plan.operationKind ++ " step failed for " ++ plan.target ++ ": " ++ message
       proofs := p.proofs
       executed := p.executed
       rollback := r.results }, r.kernel)

/-! ### What a plan's steps do -/

/-- The step's verification, where it has one, passes. -/
def Verified (step : OperationStep K) (k k' : K) : Prop :=
  match step.verify with
  | none => k' = k
  | some verify => ∃ proof, verify.exec k = (.ok proof, k') ∧ proof.verified = true

def Done (step : OperationStep K) (k k' : K) : Prop :=
  ∃ acted, step.action.exec k = (.ok (), acted) ∧ Verified step acted k'

/-- Every action runs, in order, and every verification passes. -/
def AllDone : List (OperationStep K) → K → K → Prop
  | [], k, k' => k' = k
  | step :: rest, k, k' => ∃ between, Done step k between ∧ AllDone rest between k'

def Failed (step : OperationStep K) (k k' : K) : Prop :=
  ∃ message, (runStep step).exec k = (.error message, k')

/-- The step's rollback runs and its verification, where it has one, passes. -/
def RolledBack (step : OperationStep K) (k k' : K) : Prop :=
  ∃ rollback ∈ step.rollback, ∃ proof, (runRollback step rollback).exec k = (.ok proof, k') ∧
    ∀ p ∈ proof, p.verified = true

theorem done_iff : Done step k k' ↔ ∃ proof, (runStep step).exec k = (.ok proof, k') := by
  rw [Done, runStep, exec_bind]
  rcases step.action.exec k with ⟨_ | _, acted⟩
  · simp
  · simp only [Prod.mk.injEq, true_and, exists_eq_left', Verified, verifyStep]
    cases step.verify with
    | none => simp [exec_pure, eq_comm]
    | some verify =>
      rw [exec_bind]
      rcases hchecked : verify.exec acted with ⟨_ | proof, checked⟩
      · simp [hchecked]
      · cases hproof : proof.verified <;> simp [hchecked, hproof, exec_pure, exec_throw]

theorem allDone_iff {p : Progress K} :
    AllDone steps k k' ↔ ∃ p', runSteps steps p k = (none, p', k') := by
  induction steps generalizing p k with
  | nil => simp [runSteps, AllDone, eq_comm]
  | cons step rest ih =>
    simp only [runSteps, AllDone, done_iff]
    rcases (runStep step).exec k with ⟨message | proof, next⟩
    · simp
    · simpa using ih

/-! ### Rolling back -/

/-- A rollback that succeeds undoes its step, and a step that is not marked dirty on failure leaves
the kernel alone when it fails and when it has no rollback. -/
structure Undoable (step : OperationStep K) : Prop where
  undone : ∀ k done k', Done step k done → RolledBack step done k' → k' = k
  failed : step.dirtyOnFailure = false → ∀ k k', Failed step k k' → k' = k
  kept : step.dirtyOnFailure = false → step.rollback = none → ∀ k k', Done step k k' → k' = k

theorem rollbackStep_clean {r : Rollback K} (h : (rollbackStep r step).dirty = false) :
    r.dirty = false ∧ (RolledBack step r.kernel (rollbackStep r step).kernel ∨
        step.dirtyOnFailure = false ∧ step.rollback = none ∧
          (rollbackStep r step).kernel = r.kernel) := by
  unfold rollbackStep at h ⊢
  cases hrollback : step.rollback with
  | none =>
    simp only [hrollback, Bool.or_eq_false_iff] at h
    exact ⟨h.1, .inr ⟨h.2, rfl, rfl⟩⟩
  | some rollback =>
    simp only [hrollback] at h ⊢
    rcases hrun : (runRollback step rollback).exec r.kernel with ⟨message | _ | proof, kernel⟩
    · simp [hrun] at h
    · simp only [hrun] at h ⊢
      exact ⟨h, .inl ⟨rollback, hrollback, none, hrun, by simp⟩⟩
    · by_cases hproof : proof.verified = true
      · simp only [hrun, hproof, if_true] at h ⊢
        exact ⟨h, .inl ⟨rollback, hrollback, some proof, hrun, by simpa using hproof⟩⟩
      · simp [hrun, hproof] at h

theorem dirty_of_foldl_rollbackStep {r : Rollback K}
    (h : (steps.foldl rollbackStep r).dirty = false) : r.dirty = false := by
  induction steps generalizing r with
  | nil => exact h
  | cons step rest ih => exact (rollbackStep_clean (ih h)).1

/-- Rolling the completed steps back from `k`, where that is clean, ends at `start`. -/
def RollsBack (completed : List (OperationStep K)) (k start : K) : Prop :=
  ∀ dirty results, let r := completed.reverse.foldl rollbackStep { dirty, results, kernel := k }
    r.dirty = false → r.kernel = start

theorem RollsBack.concat {completed : List (OperationStep K)} {start : K}
    (h : RollsBack completed k start) (hstep : Undoable step) (hdone : Done step k k') :
    RollsBack (completed ++ [step]) k' start := by
  intro dirty results r hclean
  simp only [r, List.reverse_append, List.reverse_singleton, List.singleton_append,
    List.foldl_cons] at hclean ⊢
  have hback : (rollbackStep { dirty, results, kernel := k' } step).kernel = k := by
    obtain ⟨-, hrolled | ⟨hmark, hnone, hkernel⟩⟩ :=
      rollbackStep_clean (dirty_of_foldl_rollbackStep hclean)
    · exact hstep.undone _ _ _ hdone hrolled
    · exact hkernel.trans (hstep.kept hmark hnone _ _ hdone)
  subst hback
  exact h _ _ hclean

/-- The steps completed before a failed one roll back from where it failed. -/
theorem runSteps_failed {p p' : Progress K} {start : K} {failed : OperationStep K}
    {message : String} (hundo : ∀ step ∈ steps, Undoable step) (h : RollsBack p.completed k start)
    (hrun : runSteps steps p k = (some (failed, message), p', k')) :
    ∃ between, RollsBack p'.completed between start ∧ Failed failed between k' ∧
      Undoable failed := by
  induction steps generalizing p k with
  | nil => simp [runSteps] at hrun
  | cons step rest ih =>
    have hfirst : Undoable step := hundo step (by simp)
    rw [runSteps] at hrun
    rcases hstep : (runStep step).exec k with ⟨raised | proof, next⟩
    · simp only [hstep, Prod.mk.injEq, Option.some.injEq] at hrun
      obtain ⟨⟨rfl, rfl⟩, rfl, rfl⟩ := hrun
      exact ⟨k, h, ⟨_, hstep⟩, hfirst⟩
    · simp only [hstep] at hrun
      refine ih (fun s hs => hundo s (by simp [hs])) ?_ hrun
      exact h.concat hfirst (done_iff.mpr ⟨proof, hstep⟩)

/-- A plan succeeds exactly when all its steps are done, and one that fails without a dirty kernel
leaves the kernel as it was. -/
theorem plan_commits_or_rolls_back (plan : OperationPlan K) (k : K) :
    ((executePlan plan k).1.success = true ↔ AllDone plan.steps k (executePlan plan k).2) ∧
    ((∀ step ∈ plan.steps, Undoable step) → (executePlan plan k).1.success = false →
      (executePlan plan k).1.dirtyKernel = false → (executePlan plan k).2 = k) := by
  rcases hrun : runSteps plan.steps {} k with ⟨_ | ⟨failed, message⟩, p, reached⟩
  · simp only [executePlan, hrun, true_iff]
    exact ⟨allDone_iff.mpr ⟨p, hrun⟩, by simp⟩
  · simp only [executePlan, hrun]
    refine ⟨⟨by simp, fun hall => ?_⟩, fun hundo _ hclean => ?_⟩
    · obtain ⟨p', hdone⟩ := allDone_iff (p := {}) |>.mp hall
      simp [hrun] at hdone
    · have hstart : RollsBack ({} : Progress K).completed k k := fun _ _ _ => rfl
      obtain ⟨between, hback, hfailed, hstep⟩ := runSteps_failed hundo hstart hrun
      obtain rfl := hstep.failed (dirty_of_foldl_rollbackStep hclean) _ _ hfailed
      exact hback _ _ hclean

/-- A counter raised and lowered, and a step that always fails. -/
def raiseThenFail : OperationPlan Nat where
  operationId := "SetLatency:sat-a:isl0"
  operationKind := "SetLatency"
  target := "sat-a/isl0"
  steps := [{ name := "raise", action := modify (· + 1), rollback := some (modify (· - 1)) },
    { name := "refuse", action := throw "refused", dirtyOnFailure := false }]
  named := by decide
  someStep := by simp

theorem raiseThenFail_rolls_back : (∀ step ∈ raiseThenFail.steps, Undoable step) ∧
    (executePlan raiseThenFail 7).1.success = false ∧ (executePlan raiseThenFail 7).2 = 7 := by
  have hundo : ∀ step ∈ raiseThenFail.steps, Undoable step := by
    simp only [raiseThenFail, List.mem_cons, List.not_mem_nil, or_false, forall_eq_or_imp,
      forall_eq]
    refine ⟨⟨?_, by simp, by simp⟩, ⟨?_, ?_, ?_⟩⟩
    · rintro k _ _ ⟨_, ⟨⟩, ⟨⟩⟩ ⟨_, ⟨⟩, _, ⟨⟩, -⟩
      rfl
    · rintro _ _ _ ⟨_, ⟨⟩, _⟩
    · rintro - _ _ ⟨_, ⟨⟩⟩
      rfl
    · rintro - - _ _ ⟨_, ⟨⟩, _⟩
  exact ⟨hundo, rfl, (plan_commits_or_rolls_back raiseThenFail 7).2 hundo rfl rfl⟩

end NodalArc.OperationPlans
