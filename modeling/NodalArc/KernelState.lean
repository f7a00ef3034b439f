import NodalArc.CommandRules

/-! What the interfaces carry in the Node Agents' kernels, computed from the commands of the log.
An agent executes the entries it acknowledges. -/

namespace NodalArc.KernelState

open GroundPolicy
open LinkRecord
open Actuation
open DispatchActuator
open CommandVerdict
open CommandRules

/-- What an interface carries: a pair's local link, or a contact of a long-delay pair. -/
structure Carried where
  pair : Pair
  contact : Option Contact
deriving DecidableEq

abbrev Kernel := Terminal → Option Carried

/-- What an interface carries after an entry was executed on it.  PREPARE wires the end of a
contact, OPEN only admits and STOP only stops admitting.  The CLOSE of a contact the end does not
carry is acknowledged as superseded and changes nothing. -/
def carriedAfter (operation : Operation) (stage : Option Stage) (entry : Entry)
    (before : Option Carried) : Option Carried :=
  match operation with
  | .batchLinkUp =>
      if stage = some .prepare ∨ entry.contactId = none then some ⟨entry.pair, entry.contactId⟩
      else before
  | .batchLinkDown =>
      if stage = some .close ∧
          (entry.contactId = none ∨ before.bind Carried.contact = entry.contactId) then none
      else before
  | .setLatency | .kernelInventory | .kernelSurvey => before

def ActsOn (sent : SentCommand) (terminal : Terminal) (planned : AgentAddr × Entry) : Prop :=
  terminal ∈ planned.2.ends ∧ AckedIn sent.exchanges (planned.1, planned.2.terminal)

instance (sent : SentCommand) (terminal : Terminal) (planned : AgentAddr × Entry) :
    Decidable (ActsOn sent terminal planned) := inferInstanceAs (Decidable (_ ∧ _))

def executed (sent : SentCommand) (kernel : Kernel) : Kernel := fun terminal =>
  (sent.plan.filter fun planned => ActsOn sent terminal planned).foldl
    (fun before planned => carriedAfter sent.operation sent.stage planned.2 before)
    (kernel terminal)

def kernelAfter (start : Kernel) : List Event → Kernel
  | [] => start
  | .command sent :: log => executed sent (kernelAfter start log)
  | .clockRead _ :: log | .linkUp _ _ :: log | .linkDown _ _ _ _ :: log |
    .latencyUpdate _ :: log => kernelAfter start log

variable {sent : SentCommand} {kernel start : Kernel} {terminal : Terminal} {log : List Event}

/-! ### One command -/

theorem executed_induction {P : Option Carried → Prop} (h : P (kernel terminal))
    (hstep : ∀ planned ∈ sent.plan, ActsOn sent terminal planned → ∀ before, P before →
      P (carriedAfter sent.operation sent.stage planned.2 before)) :
    P (executed sent kernel terminal) := by
  refine List.foldlRecOn _ _ h fun before hbefore planned hplanned => ?_
  obtain ⟨hmem, hacts⟩ := List.mem_filter.mp hplanned
  exact hstep planned hmem (of_decide_eq_true hacts) before hbefore

theorem executed_eq_self (h : ∀ planned ∈ sent.plan, ActsOn sent terminal planned →
    carriedAfter sent.operation sent.stage planned.2 (kernel terminal) = kernel terminal) :
    executed sent kernel terminal = kernel terminal := by
  refine executed_induction (P := fun c => c = kernel terminal) rfl ?_
  rintro planned hplanned hacts _ rfl
  exact h planned hplanned hacts

theorem executed_eq_of_acted {value : Option Carried}
    (hacted : ∃ planned ∈ sent.plan, ActsOn sent terminal planned)
    (h : ∀ planned ∈ sent.plan, ActsOn sent terminal planned → ∀ before,
      carriedAfter sent.operation sent.stage planned.2 before = value) :
    executed sent kernel terminal = value := by
  unfold executed
  obtain ⟨planned, hplanned, hacts⟩ := hacted
  have hmem : planned ∈ sent.plan.filter fun planned => ActsOn sent terminal planned :=
    List.mem_filter.mpr ⟨hplanned, decide_eq_true hacts⟩
  obtain ⟨first, last, heq⟩ := List.eq_nil_or_concat'
    (sent.plan.filter fun planned => ActsOn sent terminal planned) |>.resolve_left
      (List.ne_nil_of_mem hmem)
  have hlast : last ∈ sent.plan.filter fun planned => ActsOn sent terminal planned := by
    rw [heq]
    exact List.mem_append_right _ List.mem_cons_self
  obtain ⟨hlastplan, hlastacts⟩ := List.mem_filter.mp hlast
  rw [heq, List.foldl_append]
  exact h last hlastplan (of_decide_eq_true hlastacts) _

theorem carried_of_executed {carried : Carried} (h : executed sent kernel terminal = some carried) :
    kernel terminal = some carried ∨ sent.operation = .batchLinkUp ∧ ∃ planned ∈ sent.plan,
      ActsOn sent terminal planned ∧ (sent.stage = some .prepare ∨ planned.2.contactId = none) ∧
      carried = ⟨planned.2.pair, planned.2.contactId⟩ := by
  revert h
  refine executed_induction (P := fun c => c = some carried → _) .inl ?_
  intro planned hplanned hacts before ih hafter
  unfold carriedAfter at hafter
  split at hafter
  · rename_i hup
    split at hafter
    · rename_i hstage
      exact .inr ⟨hup, planned, hplanned, hacts, hstage, (Option.some.inj hafter).symm⟩
    · exact ih hafter
  · split at hafter
    · cases hafter
    · exact ih hafter
  all_goals exact ih hafter

theorem executed_of_quiet (h : ∀ planned ∈ sent.plan, ∀ before,
    carriedAfter sent.operation sent.stage planned.2 before = before) :
    executed sent kernel = kernel :=
  funext fun _ => executed_eq_self fun planned hplanned _ => h planned hplanned _

/-! ### The log -/

@[simp] theorem kernelAfter_command :
    kernelAfter start (.command sent :: log) = executed sent (kernelAfter start log) := rfl

theorem kernelAfter_append {events : List Event} (h : ∀ sent, .command sent ∉ events) :
    kernelAfter start (events ++ log) = kernelAfter start log := by
  induction events with
  | nil => rfl
  | cons event events ih =>
    have hrest := ih fun sent hmem => h sent (List.mem_cons_of_mem _ hmem)
    cases event with
    | command sent => exact absurd List.mem_cons_self (h sent)
    | _ => exact hrest

theorem kernelAfter_of_lastCommand (h : lastCommand? log = some sent) :
    ∃ kernel, kernelAfter start log = executed sent kernel := by
  induction log with
  | nil => cases h
  | cons event log ih =>
    cases event with
    | command _ =>
      obtain rfl := Option.some.inj h
      exact ⟨_, rfl⟩
    | _ => exact ih h

end NodalArc.KernelState
