import VWorkspaceOperator.Api

/-!
# The conflict matrix

Which operations hold which others back.  `conflicts` is read from the side of
the incoming operation: an upgrade waits for an upgrade, a restore for an
upgrade or a backup, a backup for a restore, and nothing else waits.
-/

namespace VWorkspace

open Kit

/-- `concurrency.Conflicts`: an existing operation in flight blocks the
incoming one. -/
def conflicts (existing incoming : OperationType) : Bool :=
  match incoming with
  | .upgrade => existing = .upgrade
  | .restore => existing = .upgrade || existing = .backup
  | .backup => existing = .restore
  | _ => false

def inFlight (op : Operation) : Bool :=
  match op.status.phase with
  | .succeeded | .failed | .cancelled => false
  | .running | .pending => true
  | .unset => op.status.conditions.any fun c => c.type = "Accepted" && c.status = .true

structure Conflict where
  name : String
  type : OperationType
  deriving DecidableEq, Repr

/-- An operation stands in the way of `op`: another one on the same target, in
flight and of a conflicting type. -/
def blocks (op item : Operation) : Bool :=
  item.metadata.name ≠ op.metadata.name && item.spec.targetRef.name = op.spec.targetRef.name &&
    inFlight item && conflicts item.spec.type op.spec.type

/-- `concurrency.FindConflict`, on the operations listed for the namespace. -/
def findConflict (list : List Operation) (op : Operation) : Option Conflict :=
  (list.find? (blocks op)).map fun item => ⟨item.metadata.name, item.spec.type⟩

def formatConflict (c : Conflict) : String :=
  "conflicts with operation " ++ goQuote c.name ++ " (" ++ c.type.text ++ ")"

theorem findConflict_eq_none_iff {list : List Operation} {op : Operation} :
    findConflict list op = none ↔ ∀ item ∈ list, blocks op item = false := by
  simp [findConflict, List.find?_eq_none]

theorem conflicts_of_findConflict {list : List Operation} {op item : Operation}
    (h : findConflict list op = none) (hmem : item ∈ list)
    (hname : item.metadata.name ≠ op.metadata.name)
    (htarget : item.spec.targetRef.name = op.spec.targetRef.name) (hflight : inFlight item = true) :
    conflicts item.spec.type op.spec.type = false := by
  have hblocks := findConflict_eq_none_iff.mp h item hmem
  simpa [blocks, hname, htarget, hflight] using hblocks

theorem inFlight_of_running {op : Operation} (h : op.status.phase = .running) :
    inFlight op = true := by
  simp [inFlight, h]

end VWorkspace
