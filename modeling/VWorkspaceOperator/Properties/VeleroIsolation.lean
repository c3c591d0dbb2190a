import VWorkspaceOperator.Controller.Runs

/-!
# Velero objects of different operations

All Velero objects live in one namespace, and an operation finds its own by its
bare name.  Any number of operations share these objects here, and every object
remembers the operation it was created for.  The calls of one operation spare the
objects of the others exactly when no two operations have the same name and kind,
unless neither of them can create anything.
-/

namespace VWorkspace

open Kit Prog EngineM

variable {kind : Kind} {k : ObjectKey}

inductive VeleroCall where
  | materialize (target : ApplicationInstance)
  | status
  | cancel

/-- The program of a call; `Status` answers what it read. -/
def VeleroCall.prog (veleroNs : String) (op : Operation) :
    VeleroCall → EngineM (Option EngineStatus)
  | .materialize target => do
      veleroMaterialize veleroNs op target
      pure none
  | .status => do
      let es ← veleroStatus veleroNs op
      pure (some es)
  | .cancel => do
      veleroCancel veleroNs op
      pure none

inductive VeleroStep (ι : Type) where
  /-- A call of the engine for an operation. -/
  | call (i : ι) (c : VeleroCall) (env : EngineEnv)
  /-- Velero works on an object: its content changes. -/
  | progress (kind : Kind) (k : ObjectKey) (f : Fields → Fields)
  /-- Velero removes an object. -/
  | expire (kind : Kind) (k : ObjectKey)

/-- The shared objects, and the operation each of them was created for. -/
structure Shared (ι : Type) where
  workloads : Workloads
  creator : Kind → ObjectKey → Option ι

/-- What an event of a call for `i` does to the creators. -/
def recordCreator {ι : Type} (i : ι) :
    WorkloadEvent → (Kind → ObjectKey → Option ι) → Kind → ObjectKey → Option ι
  | .created kind o, f => fun kind' k' =>
      if kind' = kind ∧ k' = o.metadata.key then some i else f kind' k'
  | .deleted kind k, f => fun kind' k' => if kind' = kind ∧ k' = k then none else f kind' k'
  | _, f => f

def changeBody (w : Workloads) (kind : Kind) (k : ObjectKey) (f : Fields → Fields) : Workloads :=
  match (w.objects kind).get k with
  | some o => w.setObjects kind ((w.objects kind).put { o with body := f o.body })
  | none => w

section isolation

variable {ι : Type} (veleroNs : String) (ops : ι → Operation)

def sharedStep (s : Shared ι) : VeleroStep ι → Shared ι
  | .call i c env =>
      let out := (c.prog veleroNs (ops i)).run env s.workloads
      ⟨out.state, replay (recordCreator i) out.trace s.creator⟩
  | .progress kind k f => { s with workloads := changeBody s.workloads kind k f }
  | .expire kind k =>
      ⟨WorkloadEvent.apply (.deleted kind k) s.workloads,
        fun kind' k' => if kind' = kind ∧ k' = k then none else s.creator kind' k'⟩

def Shared.start (w : Workloads) : Shared ι := ⟨w, fun _ _ => none⟩

variable [DecidableEq ι]

/-- The object was created for another operation than `i`. -/
def foreign (i : ι) : Option ι → Bool
  | some j => j ≠ i
  | none => false

/-- An event of a call for `i` neither modifies nor deletes an object that was
created for another operation. -/
def spares (creator : Kind → ObjectKey → Option ι) (i : ι) : WorkloadEvent → Bool
  | .updated kind o => !foreign i (creator kind o.metadata.key)
  | .deleted kind k => !foreign i (creator kind k)
  | _ => true

/-- A step spares the objects created for other operations, and a `Status` that
answers has not read one of them. -/
def respects (s : Shared ι) : VeleroStep ι → Bool
  | .call i c env =>
      let out := (c.prog veleroNs (ops i)).run env s.workloads
      out.trace.all (spares s.creator i) &&
        match out.result with
        | .ok (some _) => !foreign i (s.creator (veleroKind (ops i)) (veleroKey veleroNs (ops i)))
        | _ => true
  | _ => true

/-- Every step of every interleaving spares the objects of other operations. -/
def Isolated : Prop :=
  ∀ w steps, Along (sharedStep veleroNs ops) (fun s a => respects veleroNs ops s a = true)
    (Shared.start w) steps

def canMaterialize (op : Operation) : Bool :=
  match parseVeleroParameters op with
  | .error _ => false
  | .ok params => op.spec.type = .backup || op.spec.type = .restore && params.backupName ≠ ""

/-- Two operations do not meet at one object: they differ in name or kind, or
neither of them can create one. -/
def Apart (a b : Operation) : Prop :=
  a.metadata.name ≠ b.metadata.name ∨ veleroKind a ≠ veleroKind b ∨
    canMaterialize a = false ∧ canMaterialize b = false

instance (a b : Operation) : Decidable (Apart a b) :=
  inferInstanceAs (Decidable (_ ∨ _ ∨ _ ∧ _))

end isolation

section footprint

variable {veleroNs : String} {op : Operation} {target : ApplicationInstance} {env : EngineEnv}
  {w : Workloads} {e : WorkloadEvent}

def LabelledFor (op : Operation) (o : Unstructured) : Prop :=
  o.metadata.labels.lookup operationLabelKey = some op.metadata.uid

/-- An event of a call for the operation `op`, on the workloads `w`: it writes the
labelled object at its place, or deletes the objects at its places and those that
are labelled with it. -/
def CallEvent (veleroNs : String) (op : Operation) (w : Workloads) : WorkloadEvent → Prop
  | .created kind o | .updated kind o => canMaterialize op = true ∧ kind = veleroKind op ∧
      o.metadata.key = veleroKey veleroNs op ∧ LabelledFor op o
  | .deleted kind k => kind = veleroKind op ∧ (k = veleroKey veleroNs op ∨ k = op.key ∨
      ∃ o ∈ (w.objects kind).items, o.metadata.key = k ∧ LabelledFor op o)
  | _ => False

theorem callEvent_of_veleroPut (h : VeleroPut veleroNs op target e) :
    CallEvent veleroNs op w e := by
  have hmeta : ∀ {m m' : ObjectMeta}, m'.key = veleroKey veleroNs op → m = veleroMeta op m' →
      m.key = veleroKey veleroNs op ∧
        m.labels.lookup operationLabelKey = some op.metadata.uid := by
    rintro m m' hkey rfl
    exact ⟨(key_veleroMeta op m').trans hkey, by simp⟩
  obtain ⟨params, hparams, ⟨htype, hput⟩ | ⟨htype, hbackup, hput⟩⟩ := h
  · have hcan : canMaterialize op = true := by simp [canMaterialize, hparams, htype]
    have hkind : .backup = veleroKind op := by simp [veleroKind, htype]
    obtain ⟨o, hmut, rfl⟩ | ⟨o, o', hkey, hmut, rfl⟩ := hput
    · exact ⟨hcan, hkind, hmeta rfl (of_mutateBackup hmut).1⟩
    · exact ⟨hcan, hkind, hmeta hkey (of_mutateBackup hmut).1⟩
  · have hcan : canMaterialize op = true := by simp [canMaterialize, hparams, htype, hbackup]
    have hkind : .restore = veleroKind op := by simp [veleroKind, htype]
    obtain ⟨o, hmut, rfl⟩ | ⟨o, o', hkey, hmut, rfl⟩ := hput
    · exact ⟨hcan, hkind, hmeta rfl (metadata_of_mutateRestore hmut)⟩
    · exact ⟨hcan, hkind, hmeta hkey (metadata_of_mutateRestore hmut)⟩

def Within (kind : Kind) (w w' : Workloads) : Prop :=
  (w'.objects kind).items ⊆ (w.objects kind).items

theorem triple_deleteObject_within {E : WorkloadEvent → Prop} (s : Site)
    (he : E (.deleted kind k)) :
    Triple env (Within kind w) (deleteObject s kind k) E (fun _ => Within kind w) := by
  refine triple_readThen s fun w' => ?_
  split
  · refine .write he fun w' hw' o ho => hw' ?_
    rw [Workloads.objects_setObjects_self] at ho
    exact (Store.mem_erase.mp ho).1
  · exact .pure fun _ h => h

theorem triple_listObjects_within {E : WorkloadEvent → Prop} (s : Site) (kind : Kind) :
    Triple env (Within kind w) (listObjects s kind operationLabelKey op.metadata.uid) E
      (fun objs _ => ∀ o ∈ objs, o ∈ (w.objects kind).items ∧ LabelledFor op o) := by
  refine .bind (idle_call s).triple fun _ =>
    .bind (.get (Q := fun w₁ w₂ => Within kind w w₂ ∧ w₁ = w₂) fun _ h => ⟨h, rfl⟩) fun w₁ => ?_
  refine .pure ?_
  rintro _ ⟨hwithin, rfl⟩ o ho
  obtain ⟨hmem, hlabel⟩ := List.mem_filter.mp ho
  exact ⟨hwithin hmem, by simpa [LabelledFor] using hlabel⟩

theorem triple_veleroCancel :
    Triple env (Within (veleroKind op) w) (veleroCancel veleroNs op) (CallEvent veleroNs op w)
      (fun _ _ => True) := by
  refine .bind (.mapError (triple_deleteObject_within _ ⟨rfl, .inl rfl⟩)) fun _ => ?_
  refine .bind (Q := fun _ _ => True) (.bind (.mapError (triple_listObjects_within _ _))
    fun objs => ?_) fun _ => .mapError (triple_deleteObject _ ⟨rfl, .inr (.inl rfl)⟩)
  intro w' hobjs
  refine triple_deleteObjects (P := fun _ => True) _ _ (fun k hk => ⟨rfl, .inr (.inr ?_)⟩) w'
    trivial
  obtain ⟨o, ho, rfl⟩ := List.mem_map.mp hk
  exact ⟨o, (hobjs o ho).1, rfl, (hobjs o ho).2⟩

theorem callEvent_of_mem {c : VeleroCall} (he : e ∈ ((c.prog veleroNs op).run env w).trace) :
    CallEvent veleroNs op w e := by
  suffices h : Triple env (Within (veleroKind op) w) (c.prog veleroNs op)
    (CallEvent veleroNs op w) (fun _ _ => True) from (h w (List.Subset.refl _)).1 e he
  cases c with
  | materialize target =>
    exact .bind (triple_veleroMaterialize.events (fun _ h => callEvent_of_veleroPut h)) fun _ => .pure fun _ _ => trivial
  | status => exact .bind (idle_veleroStatus _ _).triple fun _ => .pure fun _ _ => trivial
  | cancel => exact .bind triple_veleroCancel fun _ => .pure fun _ _ => trivial

theorem logged_prog (c : VeleroCall) : WorkloadsLogged (c.prog veleroNs op) := by
  cases c with
  | materialize target => exact .bind logged_veleroMaterialize fun _ => .of_idle (.pure _)
  | status => exact .of_idle (.bind (idle_veleroStatus _ _) fun _ => .pure _)
  | cancel => exact .bind (deletes_veleroCancel _ _).logged fun _ => .of_idle (.pure _)

end footprint

section apart

variable {ι : Type} {veleroNs : String} {ops : ι → Operation} {i : ι}

/-- Every object that was created for an operation is at the place of that
operation, and labelled with it. -/
structure Shared.Inv (veleroNs : String) (ops : ι → Operation) (s : Shared ι) : Prop where
  place : ∀ {i kind k}, s.creator kind k = some i →
    canMaterialize (ops i) = true ∧ kind = veleroKind (ops i) ∧ k = veleroKey veleroNs (ops i)
  labelled : ∀ {i kind k o}, s.creator kind k = some i →
    (s.workloads.objects kind).get k = some o → LabelledFor (ops i) o

theorem inv_start (w : Workloads) : (Shared.start w : Shared ι).Inv veleroNs ops :=
  ⟨fun h => absurd h (by simp [Shared.start]), fun h => absurd h (by simp [Shared.start])⟩

theorem get_apply {e : WorkloadEvent} {w : Workloads} {o : Unstructured}
    (h : ((e.apply w).objects kind).get k = some o) :
    o.metadata.key = k ∧ (e = .created kind o ∨ e = .updated kind o) ∨
      (w.objects kind).get k = some o ∧ ∀ o', e = .created kind o' → o'.metadata.key ≠ k := by
  have hput : ∀ {kind' : Kind} {o' : Unstructured},
      ((w.setObjects kind' ((w.objects kind').put o')).objects kind).get k = some o →
      kind = kind' ∧ o = o' ∧ o.metadata.key = k ∨
        (w.objects kind).get k = some o ∧ (kind = kind' → o'.metadata.key ≠ k) := by
    intro kind' o' hget
    by_cases hkind : kind = kind'
    · subst hkind
      rw [Workloads.objects_setObjects_self] at hget
      by_cases hk : k = o'.metadata.key
      · subst hk
        have ho : some o' = some o := (Store.get_put_self _ o').symm.trans hget
        exact .inl ⟨rfl, (Option.some.inj ho).symm, Option.some.inj ho ▸ rfl⟩
      · rw [Store.get_put_of_ne hk] at hget
        exact .inr ⟨hget, fun _ hk' => hk hk'.symm⟩
    · rw [Workloads.objects_setObjects_of_ne _ _ hkind] at hget
      exact .inr ⟨hget, fun hk => absurd hk hkind⟩
  cases e with
  | jobCreated job => exact .inr ⟨h, by simp⟩
  | jobDeleted k' _ => exact .inr ⟨h, by simp⟩
  | created kind' o' =>
    rcases hput h with ⟨rfl, rfl, hk⟩ | ⟨hget, hne⟩
    · exact .inl ⟨hk, .inl rfl⟩
    · refine .inr ⟨hget, fun o'' ho'' => ?_⟩
      obtain ⟨rfl, rfl⟩ := WorkloadEvent.created.inj ho''
      exact hne rfl
  | updated kind' o' =>
    rcases hput h with ⟨rfl, rfl, hk⟩ | ⟨hget, -⟩
    · exact .inl ⟨hk, .inr rfl⟩
    · exact .inr ⟨hget, by simp⟩
  | deleted kind' k' =>
    refine .inr ⟨?_, by simp⟩
    by_cases hkind : kind = kind'
    · subst hkind
      simp only [WorkloadEvent.apply, Workloads.objects_setObjects_self] at h
      exact Store.get_eq_some_iff.mpr ⟨(Store.mem_erase.mp (Store.mem_of_get h)).1,
        Store.key_of_get h⟩
    · rwa [WorkloadEvent.apply, Workloads.objects_setObjects_of_ne _ _ hkind] at h

theorem recordCreator_eq_some {j : ι} {e : WorkloadEvent} {f : Kind → ObjectKey → Option ι}
    (h : recordCreator i e f kind k = some j) :
    (i = j ∧ ∃ o, e = .created kind o ∧ o.metadata.key = k) ∨ f kind k = some j := by
  cases e with
  | created kind' o =>
    simp only [recordCreator] at h
    split at h
    · next hat => exact .inl ⟨Option.some.inj h, o, by rw [hat.1], hat.2.symm⟩
    · exact .inr h
  | deleted kind' k' =>
    simp only [recordCreator] at h
    split at h
    · exact absurd h (by simp)
    · exact .inr h
  | _ => exact .inr h

theorem replay_shared (i : ι) (t : List WorkloadEvent) (s : Shared ι) :
    replay (fun e (s : Shared ι) => ⟨e.apply s.workloads, recordCreator i e s.creator⟩) t s =
      ⟨replay WorkloadEvent.apply t s.workloads, replay (recordCreator i) t s.creator⟩ := by
  induction t generalizing s with
  | nil => rfl
  | cons e t ih => exact ih _

theorem get_changeBody {w : Workloads} {kind' : Kind} {k' : ObjectKey} {f : Fields → Fields}
    {o' : Unstructured} (h : ((changeBody w kind k f).objects kind').get k' = some o') :
    ∃ o, (w.objects kind').get k' = some o ∧ o.metadata = o'.metadata := by
  unfold changeBody at h
  cases hget : (w.objects kind).get k with
  | none => rw [hget] at h; exact ⟨o', h, rfl⟩
  | some o =>
    rw [hget] at h
    have hevent : ((WorkloadEvent.apply (.updated kind { o with body := f o.body }) w).objects
        kind').get k' = some o' := h
    rcases get_apply hevent with ⟨rfl, hput | hput⟩ | ⟨hbefore, -⟩
    · exact absurd hput (by simp)
    · obtain ⟨rfl, rfl⟩ := WorkloadEvent.updated.inj hput
      have hkey : o.metadata.key = k := Store.key_of_get hget
      exact ⟨o, by rw [← hget, ← hkey], rfl⟩
    · exact ⟨o', hbefore, rfl⟩

variable (hapart : ∀ i j, i ≠ j → Apart (ops i) (ops j))

include hapart

theorem eq_of_place {j : ι} (hcan : canMaterialize (ops i) = true)
    (hkind : veleroKind (ops i) = veleroKind (ops j)) (hi : k = veleroKey veleroNs (ops i))
    (hj : k.name = (ops j).metadata.name) : i = j := by
  by_contra hne
  rcases hapart i j hne with hname | hdiff | ⟨hnot, -⟩
  · rw [hi] at hj
    exact hname hj
  · exact hdiff hkind
  · exact absurd (hcan.symm.trans hnot) (by simp)

theorem inv_apply {s : Shared ι} {w : Workloads} {e : WorkloadEvent} (hs : s.Inv veleroNs ops)
    (he : CallEvent veleroNs (ops i) w e) :
    Shared.Inv veleroNs ops ⟨e.apply s.workloads, recordCreator i e s.creator⟩ := by
  have hplace : ∀ {j kind k}, recordCreator i e s.creator kind k = some j →
      canMaterialize (ops j) = true ∧ kind = veleroKind (ops j) ∧
        k = veleroKey veleroNs (ops j) := by
    intro j kind k hcreator
    rcases recordCreator_eq_some hcreator with ⟨rfl, o, rfl, rfl⟩ | hold
    · exact ⟨he.1, he.2.1, he.2.2.1⟩
    · exact hs.place hold
  refine ⟨hplace, fun {j kind k o} hcreator hget => ?_⟩
  rcases get_apply hget with ⟨rfl, hput⟩ | ⟨hbefore, hnot⟩
  · -- the object was put there for `i`, at the place of `j`
    obtain ⟨hcan, hkind, hkey⟩ := hplace hcreator
    have hown : kind = veleroKind (ops i) ∧ o.metadata.key = veleroKey veleroNs (ops i) ∧
        LabelledFor (ops i) o := by
      rcases hput with rfl | rfl <;> exact he.2
    have hij : j = i := eq_of_place hapart hcan (hkind.symm.trans hown.1) hkey
      (congrArg ObjectKey.name hown.2.1)
    exact hij ▸ hown.2.2
  · rcases recordCreator_eq_some hcreator with ⟨-, o', rfl, hk⟩ | hold
    · exact absurd hk (hnot o' rfl)
    · exact hs.labelled hold hbefore

theorem inv_sharedStep {s : Shared ι} (hs : s.Inv veleroNs ops) (a : VeleroStep ι) :
    (sharedStep veleroNs ops s a).Inv veleroNs ops := by
  cases a with
  | call i c env =>
    have hlog : ((c.prog veleroNs (ops i)).run env s.workloads).state =
        replay WorkloadEvent.apply ((c.prog veleroNs (ops i)).run env s.workloads).trace
          s.workloads := logged_prog c env s.workloads
    simp only [sharedStep]
    rw [hlog, ← replay_shared]
    exact replay_invariant (fun e he t ht => inv_apply hapart ht (callEvent_of_mem he)) hs
  | progress kind k f =>
    refine ⟨hs.place, fun hcreator hget => ?_⟩
    obtain ⟨o, ho, hmeta⟩ := get_changeBody hget
    rw [LabelledFor, ← hmeta]
    exact hs.labelled hcreator ho
  | expire kind k =>
    have hold : ∀ {i kind' k'}, (sharedStep veleroNs ops s (.expire kind k)).creator kind' k' =
        some i → s.creator kind' k' = some i := by
      intro i kind' k' hcreator
      simp only [sharedStep] at hcreator
      split at hcreator
      · exact absurd hcreator (by simp)
      · exact hcreator
    refine ⟨fun hcreator => hs.place (hold hcreator), fun {i kind' k' o} hcreator hget => ?_⟩
    have hget' : ((WorkloadEvent.apply (.deleted kind k) s.workloads).objects kind').get k' =
        some o := hget
    rcases get_apply hget' with ⟨-, hput | hput⟩ | ⟨hbefore, -⟩
    · exact absurd hput (by simp)
    · exact absurd hput (by simp)
    · exact hs.labelled (hold hcreator) hbefore

variable [DecidableEq ι] (huid : ∀ i j, (ops i).metadata.uid = (ops j).metadata.uid → i = j)

omit hapart in
theorem foreign_eq_false {owner : Option ι} (h : ∀ j, owner = some j → j = i) :
    foreign i owner = false := by
  cases owner with
  | none => rfl
  | some j => simp [foreign, h j rfl]

include huid

theorem respects_of_inv {s : Shared ι} (hs : s.Inv veleroNs ops) (a : VeleroStep ι) :
    respects veleroNs ops s a = true := by
  have hown : ∀ {i kind k}, kind = veleroKind (ops i) → k.name = (ops i).metadata.name →
      foreign i (s.creator kind k) = false := by
    intro i kind k hkind hname
    refine foreign_eq_false fun j hcreator => ?_
    obtain ⟨hcan, hkind', hkey⟩ := hs.place hcreator
    exact eq_of_place hapart hcan (hkind'.symm.trans hkind) hkey hname
  cases a with
  | progress kind k f => rfl
  | expire kind k => rfl
  | call i c env =>
    simp only [respects, Bool.and_eq_true, List.all_eq_true]
    constructor
    · intro e he
      have hevent := callEvent_of_mem he
      cases e with
      | updated kind o =>
        obtain ⟨-, hkind, hkey, -⟩ := hevent
        rw [spares, hown hkind (congrArg ObjectKey.name hkey)]; rfl
      | deleted kind k =>
        obtain ⟨hkind, hk | hk | ⟨o, ho, rfl, hlabel⟩⟩ := hevent
        · rw [spares, hown hkind (congrArg ObjectKey.name hk)]; rfl
        · rw [spares, hown hkind (congrArg ObjectKey.name hk)]; rfl
        · rw [spares, foreign_eq_false]; rfl
          intro j hcreator
          have hlabel' := hs.labelled hcreator (Store.get_of_mem ho)
          exact huid j i (Option.some.inj (hlabel'.symm.trans hlabel))
      | _ => rfl
    · rw [hown rfl rfl]
      split <;> rfl

theorem isolated_of_apart : Isolated veleroNs ops :=
  fun w _ => along_of_invariant
    (fun _ a hs => ⟨respects_of_inv hapart huid hs a, inv_sharedStep hapart hs a⟩) (inv_start w)

end apart

section meet

variable {veleroNs : String} {op : Operation} {env : EngineEnv}

theorem trace_materialize_of_can (veleroNs : String) (target : ApplicationInstance)
    (hfault : ∀ s, env.fault s = none) (hcan : canMaterialize op = true) :
    ∃ o, o.metadata.key = veleroKey veleroNs op ∧
      ((veleroMaterialize veleroNs op target).run env Workloads.empty).trace =
        [.created (veleroKind op) o] := by
  unfold canMaterialize at hcan
  cases hparams : parseVeleroParameters op with
  | error e => rw [hparams] at hcan; exact absurd hcan (by simp)
  | ok params =>
    rw [hparams] at hcan
    simp only [Bool.or_eq_true, Bool.and_eq_true, decide_eq_true_eq] at hcan
    rcases hcan with htype | ⟨htype, hbackup⟩
    · obtain ⟨o, ho⟩ := exists_mutateBackup op (targetNamespace target) params
        { ns := veleroNamespace veleroNs, name := op.metadata.name }
      have hkey : o.metadata.key = veleroKey veleroNs op := by
        rw [(of_mutateBackup ho).1, key_veleroMeta]; rfl
      have hkind : veleroKind op = .backup := by simp [veleroKind, htype]
      refine ⟨o, hkey, ?_⟩
      rw [hkind, ← trace_createOrUpdate_of_absent hfault (w := Workloads.empty) ho hkey rfl]
      simp only [veleroMaterialize, run_bind, run_ofExcept, hparams, htype, Outcome.trace_after,
        List.nil_append, materializeBackup]
    · obtain ⟨o, ho⟩ := exists_mutateRestore op params
        { ns := veleroNamespace veleroNs, name := op.metadata.name }
      have hkey : o.metadata.key = veleroKey veleroNs op := by
        rw [metadata_of_mutateRestore ho, key_veleroMeta]; rfl
      have hkind : veleroKind op = .restore := by simp [veleroKind, htype]
      refine ⟨o, hkey, ?_⟩
      rw [hkind, ← trace_createOrUpdate_of_absent hfault (w := Workloads.empty) ho hkey rfl]
      simp only [veleroMaterialize, run_bind, run_ofExcept, hparams, htype, Outcome.trace_after,
        List.nil_append, materializeRestore, if_neg hbackup]

variable {ι : Type} {ops : ι → Operation} {i : ι}

theorem sharedStep_materialize (veleroNs : String) (target : ApplicationInstance)
    (hfault : ∀ s, env.fault s = none) (hcan : canMaterialize (ops i) = true) :
    ∃ o, ((sharedStep veleroNs ops (Shared.start Workloads.empty)
        (.call i (.materialize target) env)).workloads.objects (veleroKind (ops i))).get
          (veleroKey veleroNs (ops i)) = some o ∧
      (sharedStep veleroNs ops (Shared.start Workloads.empty)
        (.call i (.materialize target) env)).creator (veleroKind (ops i))
          (veleroKey veleroNs (ops i)) = some i := by
  obtain ⟨o, hkey, htrace⟩ := trace_materialize_of_can veleroNs target hfault hcan
  have hprog : ((VeleroCall.prog veleroNs (ops i) (.materialize target)).run env
      Workloads.empty).trace = [.created (veleroKind (ops i)) o] := by
    rw [← htrace, VeleroCall.prog, run_bind]
    cases ((veleroMaterialize veleroNs (ops i) target).run env Workloads.empty).result <;> simp
  have hlog : ((VeleroCall.prog veleroNs (ops i) (.materialize target)).run env
      Workloads.empty).state = _ := logged_prog _ env Workloads.empty
  refine ⟨o, ?_, ?_⟩
  · simp only [sharedStep, Shared.start]
    rw [hlog, hprog, ← hkey]
    simp only [replay_cons, replay_nil, WorkloadEvent.apply, Workloads.objects_setObjects_self]
    exact Store.get_put_self _ o
  · simp only [sharedStep, Shared.start]
    rw [hprog, ← hkey]
    simp [recordCreator]

variable [DecidableEq ι]

theorem not_isolated_of_meet {j : ι} (hne : i ≠ j) (hcan : canMaterialize (ops i) = true)
    (hname : (ops i).metadata.name = (ops j).metadata.name)
    (hkind : veleroKind (ops i) = veleroKind (ops j)) : ¬ Isolated veleroNs ops := by
  intro h
  let env : EngineEnv := ⟨fun _ => none, Store.empty⟩
  let target := placeholderInstance ⟨"", ""⟩
  obtain ⟨-, hstatus, -⟩ := h Workloads.empty
    [.call i (.materialize target) env, .call j .status env]
  obtain ⟨o, ho, hcreator⟩ := sharedStep_materialize veleroNs target
    (fun _ => rfl : ∀ s, env.fault s = none) hcan
  have hplace : veleroKey veleroNs (ops i) = veleroKey veleroNs (ops j) := by
    rw [veleroKey, veleroKey, hname]
  rw [hkind, hplace] at ho hcreator
  generalize sharedStep veleroNs ops (Shared.start Workloads.empty)
    (.call i (.materialize target) env) = s at ho hcreator hstatus
  have hres : ((VeleroCall.prog veleroNs (ops j) .status).run env s.workloads).result =
      .ok (some (statusFromVelero (ops j) o)) := by
    rw [VeleroCall.prog, run_bind_of_ok (result_veleroStatus (fun _ => rfl) veleroNs ho)]
    rfl
  simp only [respects, hres, hcreator, foreign, Bool.and_eq_true] at hstatus
  exact absurd hstatus.2 (by simp [hne])

theorem isolated_iff_apart
    (huid : ∀ i j, (ops i).metadata.uid = (ops j).metadata.uid → i = j) :
    Isolated veleroNs ops ↔ ∀ i j, i ≠ j → Apart (ops i) (ops j) := by
  refine ⟨fun h i j hne => ?_, fun hapart => isolated_of_apart hapart huid⟩
  by_contra hmeet
  simp only [Apart, not_or, not_and, ne_eq, not_not, Bool.not_eq_false] at hmeet
  obtain ⟨hname, hkind, hcan⟩ := hmeet
  cases hi : canMaterialize (ops i) with
  | true => exact not_isolated_of_meet hne hi hname hkind h
  | false => exact not_isolated_of_meet hne.symm (hcan hi) hname.symm hkind.symm h

end meet

/-- A backup of the instance `app` of `team-a`, and one of that of `team-b`. -/
def tenantBackups (nameA nameB : String) : Bool → Operation
  | true => submitted ⟨"team-a", nameA⟩ "uid-1" "app" .backup .velero
  | false => submitted ⟨"team-b", nameB⟩ "uid-2" "app" .backup .velero

theorem distinct_names_isolated : Isolated "velero" (tenantBackups "nightly" "weekly") :=
  (isolated_iff_apart (by decide +kernel)).mpr (by decide +kernel)

theorem equal_names_collide :
    let ops := tenantBackups "nightly" "nightly"
    let env : EngineEnv := ⟨fun _ => none, Store.empty⟩
    let create : VeleroStep Bool :=
      .call true (.materialize (placeholderInstance ⟨"team-a", "app"⟩)) env
    let respected : VeleroCall → Prop := fun c =>
      Along (sharedStep "velero" ops) (fun s a => respects "velero" ops s a = true)
        (Shared.start Workloads.empty) [create, .call false c env]
    (ops true).metadata.ns ≠ (ops false).metadata.ns ∧
      ¬ respected (.materialize (placeholderInstance ⟨"team-b", "app"⟩)) ∧
      ¬ respected .status ∧ ¬ respected .cancel := by
  decide +kernel

end VWorkspace
