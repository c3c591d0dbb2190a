import Mathlib.Data.List.Nodup
import VWorkspaceOperator.Kit.JsonParse
import VWorkspaceOperator.Kit.Number
import VWorkspaceOperator.Kit.Text

/-!
# Decoding JSON into structures

`json.Unmarshal` into a Go structure, one member of the document after the
other: a key selects the field of exactly that name, or else a field whose name
folds to the same form; later members overwrite earlier ones; `null` leaves a
value alone or clears a pointer, slice or map; a value of the wrong kind is an
error; a key that selects no field is skipped.

A structure type is described by the list of its `StructField`s.  Two structure types
that share a field then decode one document to the same value of that field,
which `decodeStruct_effective` says for every document, duplicate and
case-folded keys included.
-/

namespace Kit

/-- A value of the wrong kind: what the document has and what the field takes. -/
structure Mismatch where
  /-- The kind of the value found. -/
  value : String
  /-- The Go type of the field. -/
  goType : String
  deriving DecidableEq, Repr

/-- A field of a structure: its name in documents and how a value is stored. -/
structure StructField (σ : Type) where
  /-- The key of the field. -/
  name : String
  /-- Store a value in the field, or report that its kind is wrong. -/
  decode : Json → σ → Except Mismatch σ

variable {σ α : Type}

def decodeString : Json → String → Except Mismatch String
  | .null, cur => .ok cur
  | .str s, _ => .ok s
  | v, _ => .error ⟨v.kindName, "string"⟩

/-- Decode the elements of an array into a `[]string`; a `null` element keeps
what the slice had at its place. -/
def decodeStrings : List Json → List String → Except Mismatch (List String)
  | [], _ => .ok []
  | v :: vs, cur =>
      match decodeString v (cur.headD "") with
      | .ok s => (decodeStrings vs cur.tail).map (s :: ·)
      | .error m => .error m

def decodeStringSlice : Json → List String → Except Mismatch (List String)
  | .null, _ => .ok []
  | .arr vs, cur => decodeStrings vs cur
  | v, _ => .error ⟨v.kindName, "[]string"⟩

/-- Add the members of an object to a `map[string]string`. -/
def decodeStringEntries : Fields → List (String × String) →
    Except Mismatch (List (String × String))
  | [], m => .ok m
  | (k, v) :: fs, m =>
      match decodeString v "" with
      | .ok s => decodeStringEntries fs (setField k s m)
      | .error e => .error e

/-- Decode into a `map[string]string`, which is nil when the field is absent. -/
def decodeStringMap : Json → Option (List (String × String)) →
    Except Mismatch (Option (List (String × String)))
  | .null, _ => .ok none
  | .obj fs, cur => (decodeStringEntries fs (cur.getD [])).map some
  | v, _ => .error ⟨v.kindName, "map[string]string"⟩

/-- `strconv.ParseInt` on a JSON number literal: fractions and exponents are
not integers. -/
def literalInt (lit : String) : Option Int :=
  match lit.toList with
  | '-' :: ds => (digitsValue ds).map fun n => -(n : Int)
  | ds => (digitsValue ds).map fun n => (n : Int)

def decodeInt (bits : Nat) (goType : String) : Json → Int → Except Mismatch Int
  | .null, cur => .ok cur
  | .num lit, _ =>
      match literalInt lit with
      | some n =>
          if -(2 ^ (bits - 1) : Int) ≤ n ∧ n < 2 ^ (bits - 1) then .ok n
          else .error ⟨"number " ++ lit, goType⟩
      | none => .error ⟨"number " ++ lit, goType⟩
  | v, _ => .error ⟨v.kindName, goType⟩

def decodeIntPtr (bits : Nat) (goType : String) : Json → Option Int → Except Mismatch (Option Int)
  | .null, _ => .ok none
  | v, _ => (decodeInt bits goType v 0).map some

def decodeBoolPtr : Json → Option Bool → Except Mismatch (Option Bool)
  | .null, _ => .ok none
  | .bool b, _ => .ok (some b)
  | v, _ => .error ⟨v.kindName, "bool"⟩

mutual

/-- Decode into an `any`: the members of an object become a map, in which a
later member of one key replaces the earlier. -/
def toAny : Json → Json
  | .arr vs => .arr (toAnyList vs)
  | .obj fs => .obj (toAnyFields fs [])
  | .null => .null
  | .bool b => .bool b
  | .num lit => .num lit
  | .str s => .str s
termination_by structural v => v

def toAnyList : List Json → List Json
  | [] => []
  | v :: vs => toAny v :: toAnyList vs
termination_by structural vs => vs

def toAnyFields : Fields → Fields → Fields
  | [], m => m
  | (k, v) :: fs, m => toAnyFields fs (setField k (toAny v) m)
termination_by structural fs => fs

end

mutual

theorem toAny_mapNum (f : String → String) : ∀ v, toAny (v.mapNum f) = (toAny v).mapNum f
  | .arr vs => by
      rw [Json.mapNum, toAny, toAny, Json.mapNum, toAnyList_mapNumList f vs]
  | .obj fs => by
      rw [Json.mapNum, toAny, toAny, Json.mapNum]
      exact congrArg Json.obj (toAnyFields_mapNumFields f fs [])
  | .null => rfl
  | .bool _ => rfl
  | .num _ => rfl
  | .str _ => rfl
termination_by structural v => v

theorem toAnyList_mapNumList (f : String → String) :
    ∀ vs, toAnyList (mapNumList f vs) = mapNumList f (toAnyList vs)
  | [] => rfl
  | v :: vs => by
      rw [mapNumList, toAnyList, toAnyList, mapNumList, toAny_mapNum f v,
        toAnyList_mapNumList f vs]
termination_by structural vs => vs

theorem toAnyFields_mapNumFields (f : String → String) :
    ∀ fs m, toAnyFields (mapNumFields f fs) (mapNumFields f m) = mapNumFields f (toAnyFields fs m)
  | [], _ => rfl
  | (k, v) :: fs, m => by
      rw [mapNumFields, toAnyFields, toAnyFields, toAny_mapNum f v, ← mapNumFields_setField]
      exact toAnyFields_mapNumFields f fs _
termination_by structural fs => fs

end

/-- Decode into a `map[string]any`, which is nil when the field is absent.  Numbers become
`float64`s. -/
def decodeAnyMap : Json → Option Fields → Except Mismatch (Option Fields)
  | .null, _ => .ok none
  | .obj fs, cur =>
      match (Json.obj fs).outOfRange with
      | some lit => .error ⟨"number " ++ lit, "float64"⟩
      | none => .ok (some (toAnyFields (mapNumFields rounded fs) (cur.getD [])))
  | v, _ => .error ⟨v.kindName, "map[string]interface \x7b\x7d"⟩

/-- A field of a structure, given how its type is decoded and where it lives. -/
def StructField.of (name : String) (dec : Json → α → Except Mismatch α) (get : σ → α)
    (set : α → σ → σ) : StructField σ where
  name := name
  decode v s := (dec v (get s)).map fun a => set a s

/-- The field a key selects: the field of exactly that name, else the first
field whose name folds to the same form. -/
def findField (fields : List (StructField σ)) (key : String) : Option (StructField σ) :=
  match fields.find? fun f => f.name = key with
  | some f => some f
  | none => fields.find? fun f => foldName f.name = foldName key

def typeError (struct field : String) (m : Mismatch) : String :=
  "json: cannot unmarshal " ++ m.value ++ " into Go struct field " ++ struct ++ "." ++ field ++
    " of type " ++ m.goType

/-- Decode the members of an object, one after the other. -/
def decodeMembers (struct : String) (fields : List (StructField σ)) : Fields → σ → Except String σ
  | [], s => .ok s
  | (k, v) :: ms, s =>
      match findField fields k with
      | none => decodeMembers struct fields ms s
      | some f =>
          match f.decode v s with
          | .ok s' => decodeMembers struct fields ms s'
          | .error m => .error (typeError struct f.name m)

theorem decodeMembers_cons {struct name k : String} {fields : List (StructField σ)}
    {dec : Json → α → Except Mismatch α} {get : σ → α} {set : α → σ → σ} {v : Json} {ms : Fields}
    {s : σ} {a : α} (hfind : findField fields k = some (.of name dec get set))
    (hdec : dec v (get s) = .ok a) :
    decodeMembers struct fields ((k, v) :: ms) s = decodeMembers struct fields ms (set a s) := by
  rw [decodeMembers, hfind]
  simp only [StructField.of, hdec]
  rfl

def decodeStruct (struct : String) (fields : List (StructField σ)) (doc : Json) (s : σ) :
    Except String σ :=
  match doc with
  | .null => .ok s
  | .obj ms => decodeMembers struct fields ms s
  | v => .error ("json: cannot unmarshal " ++ v.kindName ++ " into Go value of type " ++ struct)

def unmarshal (struct : String) (fields : List (StructField σ)) (raw : Bytes) (s : σ) :
    Except String σ :=
  match parseJson raw with
  | none => .error "invalid JSON input"
  | some doc => decodeStruct struct fields doc s

/-- `json.Unmarshal` into an empty `any`. -/
def unmarshalAny (raw : Bytes) : Except String Json :=
  match parseJson raw with
  | none => .error "invalid JSON input"
  | some doc =>
      match doc.outOfRange with
      | some lit =>
          .error ("json: cannot unmarshal number " ++ lit ++ " into Go value of type float64")
      | none => .ok (toAny doc.toFloats)

/-- `json.Unmarshal` into an empty `map[string]any`; the document `null` makes it nil. -/
def unmarshalAnyMap (raw : Bytes) : Except String (Option Fields) :=
  match parseJson raw with
  | none => .error "invalid JSON input"
  | some doc =>
      (decodeAnyMap doc (some [])).mapError fun m =>
        "json: cannot unmarshal " ++ m.value ++ " into Go value of type " ++ m.goType

/-- The folded names of the fields, by which keys select. -/
def foldedNames (fields : List (StructField σ)) : List (List Char) :=
  fields.map fun f => foldName f.name

theorem findField_eq_some_iff {fields : List (StructField σ)} (hnd : (foldedNames fields).Nodup)
    {k : String} {f : StructField σ} :
    findField fields k = some f ↔ f ∈ fields ∧ foldName f.name = foldName k := by
  have huniq : ∀ g ∈ fields, foldName g.name = foldName k →
      ∀ g' ∈ fields, foldName g'.name = foldName k → g = g' := fun g hg hk g' hg' hk' =>
    List.inj_on_of_nodup_map hnd hg hg' (hk.trans hk'.symm)
  constructor
  · intro h
    unfold findField at h
    split at h
    · next g hg =>
      rw [Option.some.injEq] at h
      subst h
      have hname : g.name = k := by simpa using List.find?_some hg
      exact ⟨List.mem_of_find?_eq_some hg, by rw [hname]⟩
    · exact ⟨List.mem_of_find?_eq_some h, by simpa using List.find?_some h⟩
  · rintro ⟨hf, hk⟩
    unfold findField
    split
    · next g hg =>
      have hname : g.name = k := by simpa using List.find?_some hg
      rw [huniq g (List.mem_of_find?_eq_some hg) (by rw [hname]) f hf hk]
    · cases hfind : fields.find? fun g => foldName g.name = foldName k with
      | none => exact absurd (List.find?_eq_none.mp hfind f hf) (by simpa using hk)
      | some g =>
        have hg : foldName g.name = foldName k := by simpa using List.find?_some hfind
        rw [huniq g (List.mem_of_find?_eq_some hfind) hg f hf hk]

/-- `p` is what the decoder keeps for the field `name`: a value given under
that name changes it by `upd`, and no other field touches it. -/
structure Reads (fields : List (StructField σ)) (p : σ → α) (name : String)
    (upd : Json → α → α) : Prop where
  /-- No two fields fold to one name. -/
  nodup : (foldedNames fields).Nodup
  /-- The field is there. -/
  mem : ∃ f ∈ fields, f.name = name
  /-- Each field stores its value in `p` if it is the field, and not at all
  otherwise. -/
  decode : ∀ f ∈ fields, ∀ v s s', f.decode v s = .ok s' →
    p s' = if f.name = name then upd v (p s) else p s

def updString : Json → String → String
  | .str s, _ => s
  | _, cur => cur

theorem updString_of_decodeString {v : Json} {cur s : String} (h : decodeString v cur = .ok s) :
    s = updString v cur := by
  cases v <;> simp_all [decodeString, updString]

/-- The fields of that name store into `p`, and the others leave it alone; the flag says
whether there is one. -/
inductive Stores (p : σ → String) (name : String) : Bool → List (StructField σ) → Prop
  | nil : Stores p name false []
  | keep {there : Bool} {β : Type} {key : String} {dec : Json → β → Except Mismatch β}
      {get : σ → β} {set : β → σ → σ} {fields : List (StructField σ)}
      (hp : (fun b s => p (set b s)) = fun _ s => p s) (h : Stores p name there fields) :
      Stores p name there (.of key dec get set :: fields)
  | store {there : Bool} {set : String → σ → σ} {fields : List (StructField σ)}
      (hp : (fun a s => p (set a s)) = fun a _ => a) (h : Stores p name there fields) :
      Stores p name true (.of name decodeString p set :: fields)

theorem StructField.of_decode {β : Type} {key : String} {dec : Json → β → Except Mismatch β}
    {get : σ → β} {set : β → σ → σ} {v : Json} {s s' : σ}
    (h : (StructField.of key dec get set).decode v s = .ok s') :
    ∃ b, dec v (get s) = .ok b ∧ s' = set b s := by
  simp only [StructField.of] at h
  cases hd : dec v (get s) with
  | error m => rw [hd] at h; exact absurd h (by simp [Except.map])
  | ok b =>
    rw [hd] at h
    exact ⟨b, rfl, (Except.ok.inj h).symm⟩

section stores

variable {p : σ → String} {name : String} {there : Bool} {fields : List (StructField σ)}

theorem Stores.exists_field (h : Stores p name there fields) (hthere : there = true) :
    ∃ f ∈ fields, f.name = name ∧
      ∀ v s s', f.decode v s = .ok s' → p s' = updString v (p s) := by
  induction h with
  | nil => exact absurd hthere (by simp)
  | keep _ _ ih =>
    obtain ⟨f, hf, hfield⟩ := ih hthere
    exact ⟨f, List.mem_cons_of_mem _ hf, hfield⟩
  | store hp _ _ =>
    refine ⟨_, List.mem_cons_self, rfl, fun v s s' hdecode => ?_⟩
    obtain ⟨b, hb, rfl⟩ := StructField.of_decode hdecode
    exact (congrFun (congrFun hp b) s).trans (updString_of_decodeString hb)

theorem Stores.keeps (h : Stores p name there fields) {f : StructField σ} (hf : f ∈ fields)
    (hname : f.name ≠ name) {v : Json} {s s' : σ} (hdecode : f.decode v s = .ok s') :
    p s' = p s := by
  induction h with
  | nil => exact absurd hf List.not_mem_nil
  | keep hp _ ih =>
    rcases List.mem_cons.mp hf with rfl | hf
    · obtain ⟨b, -, rfl⟩ := StructField.of_decode hdecode
      exact congrFun (congrFun hp b) s
    · exact ih hf
  | store _ _ ih =>
    rcases List.mem_cons.mp hf with rfl | hf
    · exact absurd rfl hname
    · exact ih hf

theorem Reads.of_stores (hnd : (foldedNames fields).Nodup) (h : Stores p name true fields) :
    Reads fields p name updString := by
  obtain ⟨f₀, hf₀, hname₀, hstore⟩ := h.exists_field rfl
  refine ⟨hnd, ⟨f₀, hf₀, hname₀⟩, fun f hf v s s' hdecode => ?_⟩
  by_cases hname : f.name = name
  · have hsame : f = f₀ :=
      List.inj_on_of_nodup_map hnd hf hf₀ (congrArg foldName (hname.trans hname₀.symm))
    rw [if_pos hname]
    exact hstore v s s' (hsame ▸ hdecode)
  · rw [if_neg hname]
    exact h.keeps hf hname hdecode

end stores

/-- The value a document's members give to the field `name`, starting from
`a`: every member whose key folds to the name counts, the last one last. -/
def effective (name : String) (upd : Json → α → α) : Fields → α → α
  | [], a => a
  | (k, v) :: ms, a =>
      effective name upd ms (if foldName k = foldName name then upd v a else a)

section effective

variable {fields : List (StructField σ)} {p : σ → α} {name : String} {upd : Json → α → α}

theorem decodeMembers_effective (h : Reads fields p name upd) {struct : String} :
    ∀ (ms : Fields) (s s' : σ), decodeMembers struct fields ms s = .ok s' →
      p s' = effective name upd ms (p s) := by
  intro ms
  induction ms with
  | nil =>
    intro s s' hdec
    rw [decodeMembers, Except.ok.injEq] at hdec
    rw [hdec]
    rfl
  | cons m ms ih =>
    intro s s' hdec
    obtain ⟨k, v⟩ := m
    obtain ⟨fn, hfn, rfl⟩ := h.mem
    rw [decodeMembers] at hdec
    cases hfind : findField fields k with
    | none =>
      rw [hfind] at hdec
      have hk : foldName k ≠ foldName fn.name := fun he => by
        rw [(findField_eq_some_iff h.nodup).mpr ⟨hfn, he.symm⟩] at hfind
        exact absurd hfind (by simp)
      rw [ih s s' hdec, effective, if_neg hk]
    | some f =>
      rw [hfind] at hdec
      obtain ⟨hf, hfk⟩ := (findField_eq_some_iff h.nodup).mp hfind
      simp only at hdec
      cases hstep : f.decode v s with
      | error m => rw [hstep] at hdec; exact absurd hdec (by simp)
      | ok s₁ =>
        rw [hstep] at hdec
        rw [ih s₁ s' hdec, h.decode f hf v s s₁ hstep, effective]
        by_cases hk : foldName k = foldName fn.name
        · -- the selected field is the one that is read
          have : f = fn := List.inj_on_of_nodup_map h.nodup hf hfn (hfk.trans hk)
          rw [if_pos hk, if_pos (by rw [this])]
        · rw [if_neg hk, if_neg fun he => hk (by rw [← hfk, he])]

/-- The effective value a whole document gives to a field. -/
def effectiveOf (name : String) (upd : Json → α → α) (a : α) : Json → α
  | .obj ms => effective name upd ms a
  | _ => a

theorem decodeStruct_effective (h : Reads fields p name upd) {struct : String} {doc : Json}
    {s s' : σ} (hdec : decodeStruct struct fields doc s = .ok s') :
    p s' = effectiveOf name upd (p s) doc := by
  cases doc with
  | null => simp only [decodeStruct, Except.ok.injEq] at hdec; rw [hdec]; rfl
  | obj ms => exact decodeMembers_effective h ms s s' hdec
  | bool b => simp [decodeStruct] at hdec
  | num lit => simp [decodeStruct] at hdec
  | str t => simp [decodeStruct] at hdec
  | arr vs => simp [decodeStruct] at hdec

theorem unmarshal_agree {τ : Type} {fields' : List (StructField τ)} {p' : τ → α}
    (h : Reads fields p name upd) (h' : Reads fields' p' name upd) {struct struct' : String}
    {raw : Bytes} {s₀ s : σ} {t₀ t : τ} (hzero : p s₀ = p' t₀)
    (hs : unmarshal struct fields raw s₀ = .ok s)
    (ht : unmarshal struct' fields' raw t₀ = .ok t) : p s = p' t := by
  unfold unmarshal at hs ht
  cases hp : parseJson raw with
  | none => rw [hp] at hs; exact absurd hs (by simp)
  | some doc =>
    rw [hp] at hs ht
    rw [decodeStruct_effective h hs, decodeStruct_effective h' ht, hzero]

end effective

end Kit
