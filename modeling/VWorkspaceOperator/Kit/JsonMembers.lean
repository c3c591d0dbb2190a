import VWorkspaceOperator.Kit.JsonSchema

/-!
# Schemas and structures as two descriptions of one document

A document that is checked against a schema and then decoded into a structure is
described twice.  The schema sees the document as a map, in which the last of
several members of one key counts; the decoder goes through all members, looks
at the kind of a value and at the width of an integer, and lets `null` pass.

To compare the two, the fields of a structure are described in the terms of
schemas.  The comparison itself is then a computation on the descriptions.
-/

namespace Kit

variable {σ α : Type}
variable {ms : Fields} (v : Json)

/-- The kind of value a schema asks for; a `null` passes, as it does in a decoder, and numbers of
any content are in range. -/
def Schema.shape : Schema → Json → Bool
  | _, .null => true
  | .string _, .str _ => true
  | .boolean, .bool _ => true
  | .integer _, .num _ => true
  | .array items, .arr vs => vs.all items.shape
  | .anyObject, .obj fs => (Json.obj fs).outOfRange.isNone
  | .mapOf values, .obj fs => fs.all fun f => values.shape f.2
  | .object _ _, .obj _ => true
  | _, _ => false

def Schema.sameShape : Schema → Schema → Bool
  | .string _, .string _ => true
  | .boolean, .boolean => true
  | .integer _, .integer _ => true
  | .array items, .array items' => items.sameShape items'
  | .anyObject, .anyObject => true
  | .mapOf values, .mapOf values' => values.sameShape values'
  | .object _ _, .object _ _ => true
  | _, _ => false

theorem Schema.shape_eq_of_sameShape {s t : Schema} (h : s.sameShape t = true) :
    s.shape = t.shape := by
  fun_induction Schema.sameShape s t with
  | case4 items items' ih =>
    funext v
    cases v <;> simp [Schema.shape, ih h]
  | case6 values values' ih =>
    funext v
    cases v <;> simp [Schema.shape, ih h]
  | case8 => exact absurd h (by simp)
  | _ => funext v; cases v <;> rfl

/-- An integer is written without fraction and exponent, and a Go integer of so
many bits holds it. -/
def fitsWidth : Option ℕ → Json → Bool
  | some bits, .num lit =>
      match literalInt lit with
      | some n => -(2 ^ (bits - 1) : ℤ) ≤ n ∧ n < 2 ^ (bits - 1)
      | none => false
  | _, _ => true

/-- The description of a field: its name, the kind of its values and, for an
integer, its width. -/
structure Member where
  name : String
  schema : Schema
  bits : Option ℕ := none

def Member.takes (d : Member) (v : Json) : Bool := d.schema.shape v && fitsWidth d.bits v

section decoders

theorem isOk_map {ε β : Type} (x : Except ε α) (f : α → β) : (x.map f).isOk = x.isOk := by
  cases x <;> rfl

theorem isOk_decodeString (n : ℕ) (v : Json) (cur : String) :
    (decodeString v cur).isOk = (Schema.string n).shape v := by
  cases v <;> rfl

theorem isOk_decodeStrings (n : ℕ) (vs : List Json) (cur : List String) :
    (decodeStrings vs cur).isOk = vs.all (Schema.string n).shape := by
  induction vs generalizing cur with
  | nil => rfl
  | cons v vs ih =>
    rw [decodeStrings, List.all_cons, ← isOk_decodeString n v (cur.headD "")]
    cases decodeString v (cur.headD "") with
    | error m => rfl
    | ok s => exact (isOk_map _ _).trans (ih cur.tail)

theorem isOk_decodeStringSlice (n : ℕ) (v : Json) (cur : List String) :
    (decodeStringSlice v cur).isOk = (Schema.array (.string n)).shape v := by
  cases v with
  | arr vs => exact isOk_decodeStrings n vs cur
  | _ => rfl

theorem isOk_decodeStringEntries (n : ℕ) (fs : Fields) (m : List (String × String)) :
    (decodeStringEntries fs m).isOk = fs.all fun f => (Schema.string n).shape f.2 := by
  induction fs generalizing m with
  | nil => rfl
  | cons f fs ih =>
    obtain ⟨k, v⟩ := f
    rw [decodeStringEntries, List.all_cons, ← isOk_decodeString n v ""]
    cases decodeString v "" with
    | error e => rfl
    | ok s => exact ih (setField k s m)

theorem isOk_decodeStringMap (n : ℕ) (v : Json) (cur : Option (List (String × String))) :
    (decodeStringMap v cur).isOk = (Schema.mapOf (.string n)).shape v := by
  cases v with
  | obj fs => exact (isOk_map _ _).trans (isOk_decodeStringEntries n fs _)
  | _ => rfl

theorem isOk_decodeIntPtr (bits : ℕ) (goType : String) (n : ℤ) (v : Json) (cur : Option ℤ) :
    (decodeIntPtr bits goType v cur).isOk =
      ((Schema.integer n).shape v && fitsWidth (some bits) v) := by
  cases v with
  | num lit =>
    simp only [decodeIntPtr, decodeInt, isOk_map, Schema.shape, fitsWidth, Bool.true_and]
    cases literalInt lit with
    | none => rfl
    | some i =>
      simp only
      split
      · next h => exact (decide_eq_true h).symm
      · next h => exact (decide_eq_false h).symm
  | _ => rfl

theorem isOk_decodeBoolPtr (cur : Option Bool) :
    (decodeBoolPtr v cur).isOk = Schema.boolean.shape v := by
  cases v <;> rfl

theorem isOk_decodeAnyMap (cur : Option Fields) :
    (decodeAnyMap v cur).isOk = Schema.anyObject.shape v := by
  cases v with
  | obj fs =>
    rw [decodeAnyMap, Schema.shape]
    cases (Json.obj fs).outOfRange <;> rfl
  | _ => rfl

end decoders

def StructField.IsMember (f : StructField σ) (d : Member) : Prop :=
  f.name = d.name ∧ ∀ v s, (f.decode v s).isOk = d.takes v

/-- The descriptions of the fields of a structure, one by one. -/
def Describes (fields : List (StructField σ)) (members : List Member) : Prop :=
  List.Forall₂ StructField.IsMember fields members

section isMember

variable {name : String} {dec : Json → α → Except Mismatch α} {get : σ → α} {set : α → σ → σ}
  {s : Schema} {bits : Option ℕ}

theorem StructField.IsMember.of (h : ∀ v a, (dec v a).isOk = (s.shape v && fitsWidth bits v)) :
    (StructField.of name dec get set).IsMember ⟨name, s, bits⟩ :=
  ⟨rfl, fun v st => (isOk_map _ _).trans (h v (get st))⟩

theorem StructField.IsMember.of_shape (h : ∀ v a, (dec v a).isOk = s.shape v) :
    (StructField.of name dec get set).IsMember ⟨name, s, none⟩ :=
  .of fun v a => by rw [h v a, fitsWidth, Bool.and_true]; simp

end isMember

section members

variable {fields : List (StructField σ)} {members : List Member}

theorem Describes.exists_member (h : Describes fields members) {f : StructField σ}
    (hf : f ∈ fields) : ∃ d ∈ members, f.IsMember d := by
  obtain ⟨i, hi, rfl⟩ := List.getElem_of_mem hf
  have hi' : i < members.length := h.length_eq ▸ hi
  exact ⟨members.get ⟨i, hi'⟩, List.get_mem _ _, h.get hi hi'⟩

theorem Describes.exists_field (h : Describes fields members) {d : Member} (hd : d ∈ members) :
    ∃ f ∈ fields, f.IsMember d := by
  obtain ⟨i, hi, rfl⟩ := List.getElem_of_mem hd
  have hi' : i < fields.length := h.length_eq ▸ hi
  exact ⟨fields.get ⟨i, hi'⟩, List.get_mem _ _, h.get hi' hi⟩

theorem Describes.isOk_decode_iff (h : Describes fields members)
    (hnd : (foldedNames fields).Nodup) {k : String} {f : StructField σ}
    (hfind : findField fields k = some f) (v : Json) (s : σ) :
    (f.decode v s).isOk = true ↔
      ∀ d ∈ members, foldName d.name = foldName k → d.takes v = true := by
  obtain ⟨hf, hfk⟩ := (findField_eq_some_iff hnd).mp hfind
  constructor
  · intro hok d hd hdk
    obtain ⟨f', hf', hmember⟩ := h.exists_field hd
    have : f' = f := List.inj_on_of_nodup_map hnd hf' hf (by rw [hmember.1, hdk, hfk])
    subst this
    rw [← hmember.2 v s, hok]
  · intro hall
    obtain ⟨d, hd, hmember⟩ := h.exists_member hf
    rw [hmember.2 v s]
    exact hall d hd (by rw [← hmember.1, hfk])

theorem isOk_decodeMembers_iff (h : Describes fields members) (hnd : (foldedNames fields).Nodup)
    {struct : String} (ms : Fields) (s : σ) :
    (decodeMembers struct fields ms s).isOk = true ↔
      ∀ m ∈ ms, ∀ d ∈ members, foldName d.name = foldName m.1 → d.takes m.2 = true := by
  induction ms generalizing s with
  | nil => exact ⟨fun _ m hm => absurd hm List.not_mem_nil, fun _ => rfl⟩
  | cons m ms ih =>
    obtain ⟨k, v⟩ := m
    rw [decodeMembers, List.forall_mem_cons]
    cases hfind : findField fields k with
    | none =>
      have hnone : ∀ d ∈ members, foldName d.name = foldName k → d.takes v = true :=
        fun d hd hdk => by
          obtain ⟨f, hf, hmember⟩ := h.exists_field hd
          rw [(findField_eq_some_iff hnd).mpr ⟨hf, by rw [hmember.1, hdk]⟩] at hfind
          exact absurd hfind (by simp)
      exact (ih s).trans (and_iff_right hnone).symm
    | some f =>
      have hhead := h.isOk_decode_iff hnd hfind v s
      rw [← hhead]
      simp only
      cases f.decode v s with
      | ok s' => exact (ih s').trans (and_iff_right rfl).symm
      | error m => simp [Except.isOk, Except.toBool]

end members

def lastValue (k : String) (ms : Fields) : Option Json := ms.reverse.lookup k

theorem lastValue_append (k k' : String) (v : Json) (ms : Fields) :
    lastValue k (ms ++ [(k', v)]) = if k = k' then some v else lastValue k ms := by
  unfold lastValue
  rw [List.reverse_append, List.reverse_singleton, List.singleton_append]
  by_cases h : k = k'
  · simp [h]
  · rw [if_neg h, lookup_cons_ne h]

theorem exists_lastValue {k : String} {v : Json} (h : (k, v) ∈ ms) :
    ∃ v', lastValue k ms = some v' := by
  induction ms using List.reverseRecOn with
  | nil => exact absurd h List.not_mem_nil
  | append_singleton ms m ih =>
    obtain ⟨k', v'⟩ := m
    rw [lastValue_append]
    split
    · exact ⟨v', rfl⟩
    · next hne =>
      rw [List.mem_append, List.mem_singleton, Prod.mk.injEq] at h
      exact ih (h.resolve_right fun h => hne h.1)

theorem mem_of_lastValue {k : String} {v : Json} (h : lastValue k ms = some v) : (k, v) ∈ ms := by
  obtain ⟨l₁, l₂, hl, -⟩ := List.lookup_eq_some_iff.mp h
  rw [← List.mem_reverse, hl]
  exact List.mem_append_right _ List.mem_cons_self

theorem toAnyFields_append (ms ms' : Fields) (m : Fields) :
    toAnyFields (ms ++ ms') m = toAnyFields ms' (toAnyFields ms m) := by
  induction ms generalizing m with
  | nil => rfl
  | cons f ms ih => exact ih _

theorem lastValue_mapNumFields (f : String → String) (k : String) (ms : Fields) :
    lastValue k (mapNumFields f ms) = (lastValue k ms).map (Json.mapNum f) := by
  rw [lastValue, lastValue, ← lookup_mapNumFields, mapNumFields_eq_map, mapNumFields_eq_map,
    List.map_reverse]

theorem lookup_toAnyFields (k : String) (ms : Fields) :
    (toAnyFields ms []).lookup k = (lastValue k ms).map toAny := by
  induction ms using List.reverseRecOn with
  | nil => rfl
  | append_singleton ms m ih =>
    obtain ⟨k', v⟩ := m
    rw [toAnyFields_append, lastValue_append]
    simp only [toAnyFields]
    split
    · next h => rw [h, lookup_setField_self]; rfl
    · next h => rw [lookup_setField_of_ne _ h, ih]

section schema

variable {properties : List (String × Schema)} {required : List String}

theorem acceptsProperties_eq_true_iff {fs : Fields} :
    acceptsProperties properties fs = true ↔
      ∀ p ∈ properties, ∀ v, fs.lookup p.1 = some v → p.2.accepts v = true := by
  induction properties with
  | nil => simp [acceptsProperties]
  | cons p properties ih =>
    obtain ⟨k, s⟩ := p
    rw [acceptsProperties, Bool.and_eq_true, ih, List.forall_mem_cons]
    refine and_congr_left fun _ => ?_
    cases fs.lookup k with
    | none => simp
    | some v => simp

/-- The members of a document that a closed record accepts: their keys are those
of the record, the required ones are there, and what counts is accepted. -/
structure Conforms (properties : List (String × Schema)) (required : List String)
    (ms : Fields) : Prop where
  closed : ∀ m ∈ ms, m.1 ∈ properties.map Prod.fst
  complete : ∀ k ∈ required, ∃ v, lastValue k ms = some v
  accepted : ∀ p ∈ properties, ∀ v, lastValue p.1 ms = some v →
    p.2.accepts (toAny v.toFloats) = true

theorem Conforms.exists_property (h : Conforms properties required ms) {m : String × Json}
    (hm : m ∈ ms) : ∃ p ∈ properties, p.1 = m.1 :=
  List.mem_map.mp (h.closed m hm)

theorem of_accepts_object {doc : Json}
    (h : (Schema.object properties required).accepts (toAny doc.toFloats) = true) :
    ∃ ms, doc = .obj ms ∧ Conforms properties required ms := by
  cases doc with
  | obj ms =>
    simp only [Json.toFloats, Json.mapNum, toAny, Schema.accepts, Bool.and_eq_true,
      List.all_eq_true] at h
    obtain ⟨⟨hrequired, hclosed⟩, haccepted⟩ := h
    have hlookup : ∀ k, (toAnyFields (mapNumFields rounded ms) []).lookup k =
        (lastValue k ms).map fun v => toAny v.toFloats := by
      intro k
      rw [lookup_toAnyFields, lastValue_mapNumFields, Option.map_map]
      rfl
    refine ⟨ms, rfl, fun m hm => ?_, fun k hk => ?_, fun p hp v hv => ?_⟩
    · obtain ⟨v, hv⟩ := exists_lastValue hm
      obtain ⟨l₁, l₂, hl, -⟩ := List.lookup_eq_some_iff.mp
        ((hlookup m.1).trans (congrArg _ hv))
      have hmem : (m.1, toAny v.toFloats) ∈ toAnyFields (mapNumFields rounded ms) [] :=
        hl ▸ List.mem_append_right _ List.mem_cons_self
      simpa using hclosed _ hmem
    · have hsome := hrequired k hk
      rw [hlookup, Option.isSome_map] at hsome
      exact Option.isSome_iff_exists.mp hsome
    · refine acceptsProperties_eq_true_iff.mp haccepted p hp (toAny v.toFloats) ?_
      rw [hlookup, hv]
      rfl
  | _ => exact absurd h (by simp [Json.toFloats, Json.mapNum, toAny, Schema.accepts])

theorem of_accepts_string {n : ℕ} {v : Json}
    (h : (Schema.string n).accepts (toAny v.toFloats) = true) : ∃ s, v = .str s ∧ n ≤ s.length := by
  cases v with
  | str s => exact ⟨s, rfl, by simpa [Json.toFloats, Json.mapNum, toAny, Schema.accepts] using h⟩
  | _ => exact absurd h (by simp [Json.toFloats, Json.mapNum, toAny, Schema.accepts])

theorem of_accepts_array {items : Schema} {v : Json}
    (h : (Schema.array items).accepts (toAny v.toFloats) = true) : ∃ vs, v = .arr vs := by
  cases v with
  | arr vs => exact ⟨vs, rfl⟩
  | _ => exact absurd h (by simp [Json.toFloats, Json.mapNum, toAny, Schema.accepts])

end schema

theorem effective_append (name : String) (upd : Json → α → α) (ms ms' : Fields) (a : α) :
    effective name upd (ms ++ ms') a = effective name upd ms' (effective name upd ms a) := by
  induction ms generalizing a with
  | nil => rfl
  | cons m ms ih => exact ih _

theorem effective_of_notMem {name : String} {upd : Json → α → α}
    (h : ∀ m ∈ ms, foldName m.1 ≠ foldName name) (a : α) : effective name upd ms a = a := by
  induction ms with
  | nil => rfl
  | cons m ms ih =>
    rw [List.forall_mem_cons] at h
    rw [effective, if_neg h.1, ih h.2]

/-- What a value adds to a map, with its numbers as they are written. -/
def updMap : Json → Option Fields → Option Fields
  | .obj fs, cur => some (toAnyFields fs (cur.getD []))
  | _, _ => none

theorem updMap_of_decodeAnyMap {v : Json} {cur m : Option Fields}
    (h : decodeAnyMap v cur = .ok m) : m = updMap v.toFloats cur := by
  cases v with
  | obj fs =>
    rw [decodeAnyMap] at h
    split at h
    · exact absurd h (by simp)
    · exact (Except.ok.inj h).symm
  | null => exact (Except.ok.inj h).symm
  | _ => exact absurd h (by simp [decodeAnyMap])

theorem effective_toFloats (name : String) (ms : Fields) (a : Option Fields) :
    effective name (fun v => updMap v.toFloats) ms (a.map (mapNumFields rounded)) =
      (effective name updMap ms a).map (mapNumFields rounded) := by
  have hstep : ∀ v a, updMap v.toFloats (a.map (mapNumFields rounded)) =
      (updMap v a).map (mapNumFields rounded) := by
    intro v a
    cases v with
    | obj fs =>
      refine congrArg some (Eq.trans ?_ (toAnyFields_mapNumFields rounded fs _))
      cases a <;> rfl
    | _ => rfl
  induction ms generalizing a with
  | nil => rfl
  | cons m ms ih =>
    simp only [effective]
    split
    · rw [hstep, ih]
    · exact ih a

theorem effective_of_lastValue {name s : String}
    (hexact : ∀ m ∈ ms, foldName m.1 = foldName name → m.1 = name)
    (hlast : lastValue name ms = some (.str s)) (a : String) :
    effective name updString ms a = s := by
  induction ms using List.reverseRecOn with
  | nil => exact absurd hlast (by simp [lastValue])
  | append_singleton ms m ih =>
    obtain ⟨k, v⟩ := m
    rw [lastValue_append] at hlast
    rw [effective_append]
    simp only [effective]
    by_cases hk : name = k
    · rw [if_pos hk, Option.some.injEq] at hlast
      rw [if_pos (by rw [hk]), hlast]
      rfl
    · rw [if_neg hk] at hlast
      have hfold : foldName k ≠ foldName name := fun h =>
        hk (hexact (k, v) (List.mem_append_right _ List.mem_cons_self) h).symm
      rw [if_neg hfold]
      exact ih (fun m hm => hexact m (List.mem_append_left _ hm)) hlast

end Kit
