import SqlUpdate.Proofs.Json.Printing
import SqlUpdate.Proofs.Lexical.Decoding
/-!
# Written arguments are read back

An argument is an object of two members, and so is a value that holds something: one member says of
what kind the value is and the other holds it. A reader finds both by name, so it does not matter
which of them comes first.

* `Value.members` — the members of a value; `Argument.WrittenAs` — the texts of an argument, with
  the members of both objects in any order.
* `Value.ofContent?_content?` — a content is read by the kind that it was written with.
* `argument_readBack` — an argument is read back from each of its texts, unless it is a double.
-/

namespace SqlUpdate

open Json (IsPrintable)

/-! ### Numbers and bytes -/

namespace Json

theorem isPrintable_ofInt (i : Int) : IsPrintable (ofInt i) := .number (Numeral.read?_text_ofInt i)

theorem natural?_ofInt {n : Nat} (hn : n < Nat.pow 2 64) : (ofInt n).natural? = some n := by
  have hmin : -(Nat.pow 2 63 : Nat) ≤ (n : Int) := Int.le_trans (by decide) (Int.natCast_nonneg n)
  rw [ofInt, natural?, numberOf?_ofInt hmin (Int.ofNat_lt.2 hn)]
  exact if_pos (Int.natCast_nonneg n)

theorem byte?_ofByte (b : UInt8) : (ofByte b).byte? = some b := by
  have hb : b.toNat < 256 := b.toNat_lt
  rw [byte?, ofByte, natural?_ofInt (Nat.lt_trans hb (by decide))]
  show (if b.toNat < 256 then some (UInt8.ofNat b.toNat) else none) = some b
  rw [if_pos hb, UInt8.ofNat_toNat]

theorem mapM_byte?_map_ofByte (bytes : List UInt8) :
    (bytes.map ofByte).mapM byte? = some bytes := by
  induction bytes with
  | nil => rfl
  | cons b bytes ih =>
    rw [List.map_cons, List.mapM_cons, byte?_ofByte, ih]
    rfl

end Json

/-! ### Values -/

namespace Value

/-- The members of a value as it is written. -/
def members (v : Value) : List (String × Json) :=
  ("type", .ofString v.kind) :: (v.content?.map fun c => ("value", c)).toList

theorem mem_members {v : Value} {m : String × Json} (h : m ∈ v.members) :
    m = ("type", .ofString v.kind) ∨ ∃ c ∈ v.content?, m = ("value", c) := by
  rw [members, List.mem_cons, Option.mem_toList] at h
  refine h.imp_right fun h => ?_
  obtain ⟨c, hc, rfl⟩ := Option.map_eq_some_iff.1 h
  exact ⟨c, hc, rfl⟩

section NotFloat

variable {v : Value} (hv : ∀ x, v ≠ .float x)
include hv

/-- A content is read by the kind that it was written with. -/
theorem ofContent?_content? : ofContent? v.kind v.content? = some v := by
  cases v with
  | null | bool => rfl
  | int i =>
    have hmin : -(Nat.pow 2 63 : Nat) ≤ i.toInt := Int.le_trans (by decide) i.le_toInt
    have hmax : i.toInt < (Nat.pow 2 64 : Nat) := Int.lt_trans i.toInt_lt (by decide)
    show intOfJson? (.ofInt i.toInt) = _
    rw [Json.ofInt, intOfJson?, Json.numberOf?_ofInt hmin hmax]
    exact ofInt?_toInt i
  | float x => exact absurd rfl (hv x)
  | text => rfl
  | blob bytes =>
    show ((bytes.map Json.ofByte).mapM Json.byte?).bind (fun bytes => some (Value.blob bytes)) = _
    rw [Json.mapM_byte?_map_ofByte]
    rfl

theorem isPrintable_content {c : Json} (hc : c ∈ v.content?) : IsPrintable c := by
  cases v with
  | null => cases hc
  | float x => exact absurd rfl (hv x)
  | bool b => cases hc; exact .bool b
  | int i => cases hc; exact Json.isPrintable_ofInt i.toInt
  | text s => cases hc; exact .text s
  | blob bytes =>
    cases hc
    refine .array fun j hj => ?_
    obtain ⟨b, -, rfl⟩ := List.mem_map.1 hj
    exact Json.isPrintable_ofInt b.toNat

variable {ms : List (String × Json)} (hms : ms.Perm v.members)
include hms

theorem isPrintable_members : IsPrintable (.ofMembers ms) := by
  refine .object fun m hm => ?_
  obtain rfl | ⟨c, hc, rfl⟩ := mem_members (hms.mem_iff.1 hm)
  · exact .text v.kind
  · exact isPrintable_content hv hc

/-- A value is read from its members in any order. -/
theorem ofJson?_ofMembers : ofJson? (.ofMembers ms) = some v := by
  have hkind : Json.required? "type" ms = some (.ofString v.kind) := by
    rw [Json.required?, Json.member?_perm hms, members]
    cases v.content? <;> rfl
  have hcontent : Json.member? "value" ms = some v.content? := by
    rw [Json.member?_perm hms, members]
    cases v.content? <;> rfl
  rw [ofJson?, Json.members?_ofMembers, Option.bind_eq_bind, Option.bind_some, hkind, hcontent]
  exact ofContent?_content? hv

end NotFloat

end Value

/-! ### Arguments -/

namespace Argument

/-- The text of an argument, with the members of the argument and of its value in any order. -/
def WrittenAs (a : Argument) (t : String) : Prop :=
  ∃ inner outer : List (String × Json), inner.Perm a.value.members ∧
    outer.Perm [("column_type", .ofString a.type.name), ("value", .ofMembers inner)] ∧
    t = String.ofList (Json.ofMembers outer).compact

theorem writtenAs_toJson (a : Argument) : a.WrittenAs (String.ofList a.toJson.compact) :=
  ⟨_, _, .refl _, .refl _, rfl⟩

theorem read?_of_writtenAs {a : Argument} (ha : ∀ x, a.value ≠ .float x) {t : String}
    (ht : a.WrittenAs t) : read? t = some a := by
  obtain ⟨inner, outer, hinner, houter, rfl⟩ := ht
  have hprint : IsPrintable (.ofMembers outer) := by
    refine .object fun m hm => ?_
    have hm := houter.mem_iff.1 hm
    rw [List.mem_pair] at hm
    obtain rfl | rfl := hm
    · exact .text a.type.name
    · exact Value.isPrintable_members ha hinner
  have htype : Json.required? "column_type" outer = some (.ofString a.type.name) := by
    rw [Json.required?, Json.member?_perm houter]
    rfl
  have hvalue : Json.required? "value" outer = some (.ofMembers inner) := by
    rw [Json.required?, Json.member?_perm houter]
    rfl
  rw [read?, Json.read?_compact hprint, Option.bind_some, ofJson?, Json.members?_ofMembers,
    Option.bind_eq_bind, Option.bind_some, htype, hvalue]
  show (do
    let type ← ColumnType.ofName? a.type.name
    let value ← Value.ofJson? (.ofMembers inner)
    some (Argument.mk type value)) = some a
  rw [ColumnType.ofName?_name, Value.ofJson?_ofMembers ha hinner]
  rfl

end Argument

/-- **Written arguments are read back.** The text of an argument whose value is no double is read as
this argument, and so is every text that has the same members in another order, in the object of the
argument and in the one of its value. -/
theorem argument_readBack {a : Argument} (ha : ∀ x, a.value ≠ .float x) :
    Argument.read? (String.ofList a.toJson.compact) = some a ∧
      ∀ t, a.WrittenAs t → Argument.read? t = some a :=
  ⟨Argument.read?_of_writtenAs ha a.writtenAs_toJson,
    fun _ ht => Argument.read?_of_writtenAs ha ht⟩

/-- Bytes are read before it is known that they are bytes. -/
theorem argument_readBack_contentFirst :
    Argument.read?
        "\x7b\"value\":\x7b\"value\":[0,255],\"type\":\"blob\"\x7d,\"column_type\":\"varchar\"\x7d"
      = some ⟨.varchar, .blob [0, 255]⟩ := by
  have hfloat : ∀ x, Value.blob [0, 255] ≠ .float x := by simp
  refine (argument_readBack (a := ⟨.varchar, .blob [0, 255]⟩) hfloat).2 _ ?_
  exact ⟨_, _, .swap _ _ [], .swap _ _ [], rfl⟩

end SqlUpdate
