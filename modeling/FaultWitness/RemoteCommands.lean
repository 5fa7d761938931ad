/-
**Remote commands of the gate probe.**

The probe works through commands on the host of the cluster.  A command that cannot be started
blocks the probe; one that is checked and exits with an error fails, as infrastructure if its output
says that something was unreachable.  Whatever an action does, the probe prints one document: its
result, or a status with a reason.

Main definitions:
* `RemoteCommands.Completed`, `RemoteCommands.Answer` - what a command leaves
* `RemoteCommands.run` - running a command, checked or not
* `RemoteCommands.emitted` - the document of a failed action

Main results:
* `RemoteCommands.run_eq_ok` - a command that was run, checked or not
-/
import FaultWitness.Python

set_option autoImplicit false

namespace RemoteCommands

open Python

structure Completed where
  returncode : ℤ
  stdout : String
  stderr : String
deriving DecidableEq

inductive Answer
  /-- There is no such command. -/
  | missing
  /-- It cannot be started for another reason. -/
  | ioError
  | completed (result : Completed)
deriving DecidableEq

/-- The exceptions of an action. -/
inductive Failure
  | infra (reason : String)
  | blocked (reason : String)
  /-- A `KeyError`, a `TypeError` or a `ValueError`. -/
  | malformed
  /-- An `OSError`. -/
  | io
  /-- Another exception. -/
  | unexpected
deriving DecidableEq

/-- Whether the needle occurs in the text. -/
def occursIn (needle text : List Char) : Bool := text.tails.any fun rest => needle.isPrefixOf rest

def mentions (casefold : String → String) (markers : List String) (text : String) : Bool :=
  markers.any fun marker => occursIn marker.toList (casefold text).toList

/-- What the output of a checked command says if something was unreachable. -/
def unavailableMarkers : List String :=
  ["connection refused", "connection reset", "i/o timeout", "temporary failure",
    "service unavailable", "no route to host"]

def run (casefold : String → String) (answer : Answer) (check : Bool) : Except Failure Completed :=
  match answer with
  | .missing => .error (.blocked "required_probe_command_missing")
  | .ioError => .error .io
  | .completed result =>
    if check && result.returncode ≠ 0 then
      if mentions casefold unavailableMarkers (result.stderr ++ result.stdout) then
        .error (.infra "remote_dependency_unavailable")
      else .error (.blocked "remote_command_failed")
    else .ok result

/-- The status and the reason that are printed for a failed action. -/
def emitted : Failure → String × String
  | .infra reason => ("infra_failed", reason)
  | .blocked reason => ("blocked", reason)
  | .malformed => ("blocked", "probe_contract_invalid")
  | .io => ("infra_failed", "probe_io_failure")
  | .unexpected => ("blocked", "unexpected_probe_failure")

/-- A command that was run has completed, without an error if it is checked. -/
theorem run_eq_ok {casefold : String → String} {answer : Answer} {check : Bool} {result : Completed} :
    run casefold answer check = .ok result ↔
      answer = .completed result ∧ (check = true → result.returncode = 0) := by
  unfold run
  cases answer with
  | missing => simp
  | ioError => simp
  | completed other =>
    by_cases hfails : (check && decide (other.returncode ≠ 0)) = true
    · simp only [if_pos hfails, Answer.completed.injEq]
      simp only [Bool.and_eq_true, decide_eq_true_eq] at hfails
      constructor
      · intro h
        split at h <;> cases h
      · rintro ⟨rfl, hzero⟩
        exact absurd (hzero hfails.1) hfails.2
    · simp only [if_neg hfails, Except.ok.injEq, Answer.completed.injEq]
      simp only [Bool.and_eq_true, decide_eq_true_eq, not_and, not_not] at hfails
      constructor
      · rintro rfl
        exact ⟨rfl, hfails⟩
      · rintro ⟨rfl, -⟩
        rfl

end RemoteCommands
