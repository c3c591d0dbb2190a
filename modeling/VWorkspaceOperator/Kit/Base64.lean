import VWorkspaceOperator.Kit.JsonParse

/-!
# Text for bytes

`base64.RawURLEncoding`: three bytes are four characters of the base64url alphabet, a last, short
group is two or three, and there is no padding.  The decoder skips line breaks and drops the bits
that a short group leaves over.
-/

namespace Kit

def base64Value (c : Char) : Option Nat :=
  if 'A' ≤ c ∧ c ≤ 'Z' then some (c.toNat - 'A'.toNat)
  else if 'a' ≤ c ∧ c ≤ 'z' then some (c.toNat - 'a'.toNat + 26)
  else if '0' ≤ c ∧ c ≤ '9' then some (c.toNat - '0'.toNat + 52)
  else if c = '-' then some 62
  else if c = '_' then some 63
  else none

/-- The values of all characters, if all are of the alphabet. -/
def base64Values : List Char → Option (List Nat)
  | [] => some []
  | c :: cs =>
      match base64Value c, base64Values cs with
      | some v, some vs => some (v :: vs)
      | _, _ => none

/-- The bytes of a list of six-bit values, without padding.  The bits a last,
short group leaves over are dropped. -/
def base64Bytes : List Nat → Option Bytes
  | [] => some []
  | [_] => none
  | [a, b] => some [UInt8.ofNat (a * 4 + b / 16)]
  | [a, b, c] => some [UInt8.ofNat (a * 4 + b / 16), UInt8.ofNat (b % 16 * 16 + c / 4)]
  | a :: b :: c :: d :: rest =>
      (base64Bytes rest).map fun bs =>
        UInt8.ofNat (a * 4 + b / 16) :: UInt8.ofNat (b % 16 * 16 + c / 4) ::
          UInt8.ofNat (c % 4 * 64 + d) :: bs

/-- `base64.RawURLEncoding.DecodeString`, which skips line breaks. -/
def base64Decode (s : String) : Option Bytes :=
  (base64Values (s.toList.filter fun c => c ≠ '\n' && c ≠ '\r')).bind base64Bytes

def base64Char (v : ℕ) : Char :=
  if v < 26 then Char.ofNat ('A'.toNat + v)
  else if v < 52 then Char.ofNat ('a'.toNat + (v - 26))
  else if v < 62 then Char.ofNat ('0'.toNat + (v - 52))
  else if v = 62 then '-'
  else '_'

def base64Groups : Bytes → List ℕ
  | [] => []
  | [a] => [a.toNat / 4, a.toNat % 4 * 16]
  | [a, b] => [a.toNat / 4, a.toNat % 4 * 16 + b.toNat / 16, b.toNat % 16 * 4]
  | a :: b :: c :: rest =>
      a.toNat / 4 :: (a.toNat % 4 * 16 + b.toNat / 16) :: (b.toNat % 16 * 4 + c.toNat / 64) ::
        c.toNat % 64 :: base64Groups rest

def base64Encode (bs : Bytes) : String := String.ofList ((base64Groups bs).map base64Char)

theorem base64Value_base64Char {v : ℕ} (h : v < 64) : base64Value (base64Char v) = some v := by
  have hall : ∀ v : Fin 64, base64Value (base64Char v) = some v.val := by decide
  exact hall ⟨v, h⟩

theorem lt_of_mem_base64Groups (bs : Bytes) : ∀ v ∈ base64Groups bs, v < 64 := by
  induction bs using base64Groups.induct with
  | case1 => simp [base64Groups]
  | case2 a =>
    have ha := a.toNat_lt
    simp only [base64Groups, List.mem_cons, List.not_mem_nil, or_false]
    omega
  | case3 a b =>
    have ha := a.toNat_lt
    have hb := b.toNat_lt
    simp only [base64Groups, List.mem_cons, List.not_mem_nil, or_false]
    omega
  | case4 a b c rest ih =>
    have ha := a.toNat_lt
    have hb := b.toNat_lt
    have hc := c.toNat_lt
    intro v hv
    simp only [base64Groups, List.mem_cons] at hv
    rcases hv with hv | hv | hv | hv | hv
    · omega
    · omega
    · omega
    · omega
    · exact ih v hv

theorem ofNat_eq_of_toNat {n : ℕ} {b : UInt8} (h : n = b.toNat) : UInt8.ofNat n = b := by
  rw [h, UInt8.ofNat_toNat]

theorem base64Bytes_base64Groups (bs : Bytes) : base64Bytes (base64Groups bs) = some bs := by
  induction bs using base64Groups.induct with
  | case1 => rfl
  | case2 a =>
    have ha := a.toNat_lt
    rw [base64Groups, base64Bytes, ofNat_eq_of_toNat (b := a) (by omega)]
  | case3 a b =>
    have hb := b.toNat_lt
    rw [base64Groups, base64Bytes, ofNat_eq_of_toNat (b := a) (by omega),
      ofNat_eq_of_toNat (b := b) (by omega)]
  | case4 a b c rest ih =>
    have hb := b.toNat_lt
    have hc := c.toNat_lt
    rw [base64Groups, base64Bytes, ih, Option.map_some, ofNat_eq_of_toNat (b := a) (by omega),
      ofNat_eq_of_toNat (b := b) (by omega), ofNat_eq_of_toNat (b := c) (by omega)]

theorem base64Values_map_base64Char {vs : List ℕ} (h : ∀ v ∈ vs, v < 64) :
    base64Values (vs.map base64Char) = some vs := by
  induction vs with
  | nil => rfl
  | cons v vs ih =>
    rw [List.map_cons, base64Values, base64Value_base64Char (h v List.mem_cons_self),
      ih fun w hw => h w (List.mem_cons_of_mem _ hw)]

theorem exists_of_mem_base64Encode {bs : Bytes} {c : Char} (h : c ∈ (base64Encode bs).toList) :
    ∃ v < 64, base64Char v = c := by
  rw [base64Encode, String.toList_ofList, List.mem_map] at h
  obtain ⟨v, hv, rfl⟩ := h
  exact ⟨v, lt_of_mem_base64Groups bs v hv, rfl⟩

theorem notMem_base64Encode {c : Char} (hc : base64Value c = none) (bs : Bytes) :
    c ∉ (base64Encode bs).toList := by
  intro h
  obtain ⟨v, hv, rfl⟩ := exists_of_mem_base64Encode h
  exact absurd (hc.symm.trans (base64Value_base64Char hv)) (by simp)

theorem base64Decode_base64Encode (bs : Bytes) : base64Decode (base64Encode bs) = some bs := by
  have hbreaks : (base64Encode bs).toList.filter (fun c => c ≠ '\n' && c ≠ '\r') =
      (base64Encode bs).toList := by
    refine List.filter_eq_self.mpr fun c hc => ?_
    have hn : c ≠ '\n' := fun heq => notMem_base64Encode (by decide) bs (heq ▸ hc)
    have hr : c ≠ '\r' := fun heq => notMem_base64Encode (by decide) bs (heq ▸ hc)
    simp [hn, hr]
  rw [base64Decode, hbreaks, base64Encode, String.toList_ofList,
    base64Values_map_base64Char (lt_of_mem_base64Groups bs), Option.bind_some,
    base64Bytes_base64Groups]

end Kit
