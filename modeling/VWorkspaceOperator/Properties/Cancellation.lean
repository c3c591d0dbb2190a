import VWorkspaceOperator.Controller.Runs
import VWorkspaceOperator.Engines.Workload

/-!
# Cancelling exactly

`Cancel` of the job, hook job and workflow engines looks at one place: the one
recorded in the status, or the one the target gives.  What it finds there it
deletes without looking at its label, and then it stops; only where there is
nothing does it sweep by label.  So it removes exactly the workloads of the
operation unless an object stands at that place that is foreign, or is not the
only one of the operation.
-/

namespace VWorkspace

open Kit Prog EngineM

section store

variable {α : Type} [Keyed α ObjectKey] {own : α → Bool} {s : Store α} {place : Option ObjectKey}

/-- The objects of a kind after a cancellation: without the one at the place, or,
where there is none, without those the operation owns. -/
def afterCancel (place : Option ObjectKey) (own : α → Bool) (s : Store α) : Store α :=
  match place.bind s.get with
  | some x => s.erase (Keyed.key x)
  | none => s.filter fun x => !own x

theorem afterCancel_of_get {k : ObjectKey} {x : α} (hx : s.get k = some x) (own : α → Bool) :
    afterCancel (some k) own s = s.erase k := by
  simp [afterCancel, hx, Store.key_of_get hx]

theorem afterCancel_of_none (h : place.bind s.get = none) (own : α → Bool) :
    afterCancel place own s = s.filter fun x => !own x := by
  rw [afterCancel, h]

theorem mem_afterCancel_iff :
    (∀ x, x ∈ (afterCancel place own s).items ↔ x ∈ s.items ∧ own x = false) ↔
      ∀ k, place = some k → ∀ x ∈ s.items, Keyed.key x = k →
        ∀ y ∈ s.items, own y = true ↔ y = x := by
  cases hfound : place.bind s.get with
  | none =>
    rw [afterCancel_of_none hfound]
    refine iff_of_true (fun x => by simp [Store.filter]) ?_
    rintro k rfl x hx rfl
    rw [Option.bind_some, Store.get_of_mem hx] at hfound
    exact absurd hfound (by simp)
  | some x =>
    obtain ⟨k, rfl, hget⟩ := Option.bind_eq_some_iff.mp hfound
    obtain ⟨hx, hkey⟩ := Store.get_eq_some_iff.mp hget
    rw [afterCancel_of_get hget]
    constructor
    · rintro hexact k' hk' x' hx' hkey' y hy
      obtain rfl := Option.some.inj hk'
      obtain rfl := Store.eq_of_mem hx' hx (hkey'.trans hkey.symm)
      have hgone := not_congr (hexact y)
      rw [Store.mem_erase] at hgone
      constructor
      · intro hown
        have := hgone.mpr fun h => absurd hown (by simp [h.2])
        exact Store.eq_of_mem hy hx (by simpa [hy, hkey] using this)
      · rintro rfl
        simpa [hy] using hgone.mp fun h => h.2 hkey
    · intro hsole y
      rw [Store.mem_erase]
      refine and_congr_right fun hy => ?_
      have hiff := hsole k rfl x hx hkey y hy
      constructor
      · intro hne
        rw [← Bool.not_eq_true, hiff]
        exact fun h => hne (h ▸ hkey)
      · intro hown he
        have := hiff.mpr (Store.eq_of_mem hy hx (he.trans hkey.symm))
        simp [this] at hown

end store

section engines

variable {env : EngineEnv} {w : Workloads}

theorem triple_jobCancel (op : Operation) :
    Triple env (· = w) (jobCancel op) (fun _ => True) (fun _ w' =>
      w' = { w with
        jobs := afterCancel (engineLocation env.instances op) (fun j => labelled op j.metadata)
          w.jobs }) := by
  refine .bind (triple_resolveEngineLocation op) fun place => ?_
  cases place with
  | none =>
    rintro _ ⟨rfl, hplace⟩
    rw [← hplace, afterCancel_of_none rfl]
    exact triple_deleteJobsLabeledByOperation op _ rfl
  | some k =>
    refine .bind (triple_getJob .cancelGet k) fun found => ?_
    cases found with
    | none =>
      rintro _ ⟨⟨rfl, hplace⟩, hfound⟩
      rw [← hplace, afterCancel_of_none ((Option.bind_some k _).trans hfound.symm)]
      exact triple_deleteJobsLabeledByOperation op _ rfl
    | some j =>
      rintro _ ⟨⟨rfl, hplace⟩, hfound⟩
      rw [← hplace, afterCancel_of_get hfound.symm]
      exact triple_deleteJob_eq .cancelDelete k none _ rfl

theorem triple_workflowCancel (op : Operation) :
    Triple env (· = w) (workflowCancel op) (fun _ => True) (fun _ w' =>
      w' = w.setObjects .workflow (afterCancel (engineLocation env.instances op)
        (fun o => labelled op o.metadata) (w.objects .workflow))) := by
  refine .bind (triple_resolveEngineLocation op) fun place => ?_
  cases place with
  | none =>
    rintro _ ⟨rfl, hplace⟩
    rw [← hplace, afterCancel_of_none rfl]
    exact triple_deleteObjectsLabeledByOperation .workflow "workflow" op _ rfl
  | some k =>
    refine .bind (triple_getObject .cancelGet .workflow k) fun found => ?_
    cases found with
    | none =>
      rintro _ ⟨⟨rfl, hplace⟩, hfound⟩
      rw [← hplace, afterCancel_of_none ((Option.bind_some k _).trans hfound.symm)]
      exact triple_deleteObjectsLabeledByOperation .workflow "workflow" op _ rfl
    | some o =>
      rintro _ ⟨⟨rfl, hplace⟩, hfound⟩
      rw [← hplace, afterCancel_of_get hfound.symm]
      exact triple_deleteObject_eq .cancelDelete .workflow k _ rfl

/-- An object at the place is the only one of the operation. -/
def SoleOwnedAt (place : Option ObjectKey) (op : Operation) (xs : List Workload) : Prop :=
  ∀ k, place = some k → ∀ x ∈ xs, x.metadata.key = k → ∀ y ∈ xs, y.ownedBy op = true ↔ y = x

theorem mem_map_afterCancel_iff {α : Type} [Keyed α ObjectKey] {f : α → Workload}
    (hinj : Function.Injective f) (hkey : ∀ a, (f a).metadata.key = Keyed.key a)
    {place : Option ObjectKey} {op : Operation} {s : Store α} :
    (∀ x, x ∈ (afterCancel place (fun a => (f a).ownedBy op) s).items.map f ↔
        x ∈ s.items.map f ∧ x.ownedBy op = false) ↔
      SoleOwnedAt place op (s.items.map f) := by
  have hmem : (∀ x, x ∈ (afterCancel place (fun a => (f a).ownedBy op) s).items.map f ↔
        x ∈ s.items.map f ∧ x.ownedBy op = false) ↔
      ∀ a, a ∈ (afterCancel place (fun a => (f a).ownedBy op) s).items ↔
        a ∈ s.items ∧ (f a).ownedBy op = false := by
    constructor
    · intro h a
      simpa [hinj.eq_iff] using h (f a)
    · intro h x
      simp only [List.mem_map, h]
      constructor
      · rintro ⟨a, ⟨ha, hown⟩, rfl⟩
        exact ⟨⟨a, ha, rfl⟩, hown⟩
      · rintro ⟨⟨a, ha, rfl⟩, hown⟩
        exact ⟨a, ⟨ha, hown⟩, rfl⟩
  rw [hmem, mem_afterCancel_iff]
  simp only [SoleOwnedAt, List.forall_mem_map, hkey, hinj.eq_iff]

theorem cancel_exact_iff {engine : Engine}
    (hengine : engine ∈ [jobEngine, helmHookJobEngine, workflowEngine]) (op : Operation)
    (env : EngineEnv) (w : Workloads) (hok : ((engine.cancel op).run env w).result = .ok ()) :
    (∀ x, x ∈ ((engine.cancel op).run env w).state.ofEngine engine.name ↔
        x ∈ w.ofEngine engine.name ∧ x.ownedBy op = false) ↔
      SoleOwnedAt (engineLocation env.instances op) op (w.ofEngine engine.name) := by
  have hjob : ((jobCancel op).run env w).result = .ok () →
      ((∀ x, x ∈ ((jobCancel op).run env w).state.jobList ↔
          x ∈ w.jobList ∧ x.ownedBy op = false) ↔
        SoleOwnedAt (engineLocation env.instances op) op w.jobList) := by
    intro hok
    rw [(triple_jobCancel op w rfl).2 () hok]
    exact mem_map_afterCancel_iff (fun _ _ h => Workload.job.inj h) fun _ => rfl
  simp only [List.mem_cons, List.not_mem_nil, or_false] at hengine
  rcases hengine with rfl | rfl | rfl
  · exact hjob hok
  · exact hjob hok
  · change (∀ x, x ∈ ((workflowCancel op).run env w).state.objectList .workflow ↔ _) ↔ _
    rw [(triple_workflowCancel op w rfl).2 () hok, Workloads.objectList,
      Workloads.objects_setObjects_self]
    exact mem_map_afterCancel_iff (fun _ _ h => (Workload.object.inj h).2) fun _ => rfl

/-- A job operation that was never started: its status records no place. -/
def unstartedRun : Operation := submitted ⟨"team", "run"⟩ "uid-run" "shop" .runCommand .job

/-- The job at the place of `unstartedRun`, with some labels. -/
def jobAtItsPlace (labels : List (String × String)) : Job where
  metadata := { ns := "team", name := "team--run", labels := labels }
  spec := { template := ⟨[], "Never", "runner", []⟩ }

/-- Calls that do not fail, and the target of `unstartedRun`. -/
def shopEnv : EngineEnv := ⟨fun _ => none, Store.empty.put (placeholderInstance ⟨"team", "shop"⟩)⟩

def onlyJob (job : Job) : Workloads := { Workloads.empty with jobs := Store.empty.put job }

theorem cancel_exact_own_job :
    let w := onlyJob (jobAtItsPlace [(operationLabelKey, "uid-run")])
    ((jobEngine.cancel unstartedRun).run shopEnv w).result = .ok () ∧
      ∀ x, x ∈ ((jobEngine.cancel unstartedRun).run shopEnv w).state.ofEngine jobEngine.name ↔
        x ∈ w.ofEngine jobEngine.name ∧ x.ownedBy unstartedRun = false := by
  have hok : ((jobEngine.cancel unstartedRun).run shopEnv
      (onlyJob (jobAtItsPlace [(operationLabelKey, "uid-run")]))).result = .ok () := by
    decide +kernel
  refine ⟨hok, (cancel_exact_iff List.mem_cons_self _ _ _ hok).mpr ?_⟩
  rintro k - x hx - y hy
  obtain rfl := List.mem_singleton.mp hx
  obtain rfl := List.mem_singleton.mp hy
  exact iff_of_true (by decide) rfl

theorem cancel_deletes_foreign_job :
    let w := onlyJob (jobAtItsPlace [])
    let x := Workload.job (jobAtItsPlace [])
    ((jobEngine.cancel unstartedRun).run shopEnv w).result = .ok () ∧
      (x ∈ w.ofEngine jobEngine.name ∧ x.ownedBy unstartedRun = false) ∧
      x ∉ ((jobEngine.cancel unstartedRun).run shopEnv w).state.ofEngine jobEngine.name := by
  decide +kernel

end engines

end VWorkspace
