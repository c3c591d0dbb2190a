import VWorkspaceOperator.Agent.Batcher

/-!
# What the operator keeps in memory

The reporter buffers events in the batcher, and the instance controller remembers which
storage credentials are on their way to the control plane.  It does so in three maps from a
namespace and a name to the report key of the credentials: those it has enqueued, those a
flush is posting, and those that were delivered but not yet acknowledged in an annotation.
A restart loses all of it.
-/

namespace VWorkspace

open Kit Agent

structure StorageDelivery where
  /-- Enqueued, and not yet accepted by the control plane. -/
  inFlight : List (String × String) := []
  /-- Taken out of the buffer to be posted, and not yet acknowledged. -/
  posting : List (String × String) := []
  /-- Delivered, with the annotation still to be patched. -/
  ackPending : List (String × String) := []
  deriving DecidableEq, Repr

def storageDeliveryKey (ns name : String) : String := ns ++ "/" ++ name

namespace StorageDelivery

def markStorageInFlight (d : StorageDelivery) (ns name reportKey : String) : StorageDelivery :=
  { d with inFlight := setField (storageDeliveryKey ns name) reportKey d.inFlight }

def inFlightStorageReportKey (d : StorageDelivery) (ns name : String) : Option String :=
  d.inFlight.lookup (storageDeliveryKey ns name)

def clearStorageInFlight (d : StorageDelivery) (ns name : String) : StorageDelivery :=
  { d with inFlight := unsetField (storageDeliveryKey ns name) d.inFlight }

def markStorageAckPending (d : StorageDelivery) (ns name reportKey : String) : StorageDelivery :=
  { d with ackPending := setField (storageDeliveryKey ns name) reportKey d.ackPending }

def pendingStorageAckReportKey (d : StorageDelivery) (ns name : String) : Option String :=
  d.ackPending.lookup (storageDeliveryKey ns name)

def clearStorageAckPending (d : StorageDelivery) (ns name : String) : StorageDelivery :=
  { d with ackPending := unsetField (storageDeliveryKey ns name) d.ackPending }

def markStoragePosting (d : StorageDelivery) (ns name reportKey : String) : StorageDelivery :=
  { d with posting := setField (storageDeliveryKey ns name) reportKey d.posting }

def postingStorageReportKey (d : StorageDelivery) (ns name : String) : Option String :=
  d.posting.lookup (storageDeliveryKey ns name)

/-- `clearStoragePosting`: only if it is this key that is being posted. -/
def clearStoragePosting (d : StorageDelivery) (ns name reportKey : String) : StorageDelivery :=
  if (d.posting.lookup (storageDeliveryKey ns name)).getD "" = reportKey then
    { d with posting := unsetField (storageDeliveryKey ns name) d.posting }
  else d

def clearStorageDeliveryState (d : StorageDelivery) (ns name : String) : StorageDelivery where
  inFlight := unsetField (storageDeliveryKey ns name) d.inFlight
  posting := unsetField (storageDeliveryKey ns name) d.posting
  ackPending := unsetField (storageDeliveryKey ns name) d.ackPending

end StorageDelivery

structure OperatorMemory where
  /-- The reporter has a batcher; without one it discards what is reported. -/
  reporting : Bool := true
  batcher : EventBatcher := {}
  delivery : StorageDelivery := {}
  deriving DecidableEq, Repr

namespace OperatorMemory

def enqueue (m : OperatorMemory) (now : ℕ) (e : Agent.Event) : OperatorMemory :=
  if m.reporting then { m with batcher := m.batcher.enqueue now e } else m

def hasPendingEvent (m : OperatorMemory) (eventKey : String) : Bool :=
  m.reporting && m.batcher.hasEventKey eventKey

def reportConditionTransitions (m : OperatorMemory) (now : ℕ) (ref : AppliedRef)
    (prev next : List Condition) : OperatorMemory :=
  (conditionTransitions now ref prev next).foldl (fun m e => m.enqueue now e) m

def reportSeaweedEndpoints (m : OperatorMemory) (now : ℕ) (ref : AppliedRef) (ready : Condition)
    (endpoints : List EndpointPayload) (reportKey : String) : OperatorMemory :=
  if endpoints = [] then m
  else m.enqueue now (seaweedEndpointsEvent now ref ready endpoints reportKey)

/-- `ReportManagedStorageReady`; the answer is whether the reporter has a batcher. -/
def reportManagedStorageReady (m : OperatorMemory) (now : ℕ) (ref : AppliedRef) (ready : Condition)
    (endpoints : List EndpointPayload) (managedStorage : ManagedStoragePayload)
    (reportKey : String) : OperatorMemory :=
  m.enqueue now (managedStorageReadyEvent now ref ready endpoints managedStorage reportKey)

def reportAudit (m : OperatorMemory) (now : ℕ) (ref : AppliedRef) (kind : String)
    (conditions : List Condition) (eventKey : String) : OperatorMemory :=
  m.enqueue now (auditEvent now ref kind conditions eventKey)

variable {m : OperatorMemory} {now : ℕ} {e : Agent.Event}

@[simp] theorem delivery_enqueue : (m.enqueue now e).delivery = m.delivery := by
  unfold enqueue
  split <;> rfl

@[simp] theorem reporting_enqueue : (m.enqueue now e).reporting = m.reporting := by
  unfold enqueue
  split <;> rfl

@[simp] theorem delivery_reportSeaweedEndpoints {ref : AppliedRef} {ready : Condition}
    {endpoints : List EndpointPayload} {reportKey : String} :
    (m.reportSeaweedEndpoints now ref ready endpoints reportKey).delivery = m.delivery := by
  unfold reportSeaweedEndpoints
  split
  · rfl
  · exact delivery_enqueue

theorem reportConditionTransitions_induction {P : OperatorMemory → Prop} {ref : AppliedRef}
    {prev next : List Condition}
    (h : ∀ m c, P m → P (m.enqueue now (transitionEvent now ref c))) (hm : P m) :
    P (m.reportConditionTransitions now ref prev next) := by
  unfold reportConditionTransitions conditionTransitions
  generalize changedConditions prev next = changed
  induction changed generalizing m with
  | nil => exact hm
  | cons c changed ih => exact ih (h m c hm)

end OperatorMemory

end VWorkspace
