import Mediasoup.Channel.Message
import Mathlib.Data.List.Basic

set_option autoImplicit false

/-! # The FlatBuffers builder and tables

The part of `flatbuffers::FlatBufferBuilder`, `flatbuffers::Table` and `flatbuffers::Verifier`
that the generated code of `FBS/transport_generated.h` uses, at the level of the objects in the
buffer: strings, vectors of offsets and tables, each at an offset. `Fbb` is the builder `_fbb`;
a table's slots are the fields `TrackField` recorded, each an inline `uint8_t` or the offset of an
object. The builder only appends, so an offset, once returned, keeps reading the same object
(`Extends`).

## C strings and FlatBuffers strings

A generated `Create*Direct` takes each string as a `const char *` and writes it with
`CreateString(const char *str)`, which is `CreateString(str, strlen(str))`: a C string ends at
its first NUL byte. A `flatbuffers::String` is length-prefixed, so `str()` reads back every byte
that was written, NUL bytes included. A `std::string` passed through `c_str()` therefore comes
back cut at its first NUL (`createStringOrNull_spec` with `beforeNul_cStr`).

## Defaults are not written

`AddElement(field, e, def)` writes nothing when `e` is the field's default (`force_defaults` is
off), and `GetField(field, def)` reads the default for an absent field; `AddOffset` writes nothing
for the null offset, and `GetPointer` reads null for an absent field. So every field reads back
what was added, written or not (`getField_of_slot`, `getPointer_of_slot`).

## The verifier at the level of objects

`flatbuffers::Verifier` checks the bounds and alignment of bytes. At the level of objects what is
left is the shape: a required field is present and points to an object, a string field to a
string or nowhere, a vector field to a vector, a table field to a table its own `Verify` accepts.
`VerifyField<uint8_t>` with alignment 1 only checks that the byte lies inside the table, which
every field of a table in the buffer does, so it has no counterpart here.
-/

namespace Mediasoup.FlatBuffers

/-! ## Objects and offsets -/

/-- `flatbuffers::Offset<T>`: where an object is; `0` is the null offset. -/
structure Offset where
  o : Nat
  deriving DecidableEq, Repr

/-- The null offset `0`. -/
def Offset.null : Offset := ⟨0⟩

/-- `static_cast<uint8_t>(b)` for a `bool`. -/
def castBool (b : Bool) : UInt8 := if b then 1 else 0

@[simp] theorem castBool_ne_zero (b : Bool) : (castBool b != 0) = b := by
  cases b <;> rfl

/-- A field of a table as `TrackField` records it: an inline `uint8_t`, or the offset of an
object. -/
inductive Slot where
  | scalar (v : UInt8)
  | offset (off : Offset)
  deriving DecidableEq, Repr

/-- A table's slots: the vtable offset of each field that is set, with its slot. -/
abbrev Slots := List (Nat × Slot)

/-- An object in the buffer: a string, a vector of offsets, or a table. -/
inductive Value where
  | string (bytes : Bytes)
  | vector (elems : List Offset)
  | table (slots : Slots)
  deriving DecidableEq, Repr

/-- `_fbb`: the objects written so far, oldest first (the object at offset `o + 1` is the
`o`-th), and the slots of the table being built. -/
structure Fbb where
  buf : List Value
  slots : Slots
  deriving DecidableEq, Repr

namespace Fbb

/-- A builder that has written nothing. -/
def empty : Fbb := ⟨[], []⟩

/-- The object at an offset; none at the null offset. -/
def get (b : Fbb) : Offset → Option Value
  | ⟨0⟩ => none
  | ⟨o + 1⟩ => b.buf[o]?

/-- Writes an object at the end of the buffer and returns its offset. -/
def push (b : Fbb) (v : Value) : Fbb × Offset :=
  ({ b with buf := b.buf ++ [v] }, ⟨b.buf.length + 1⟩)

/-! ## Writing -/

/-- `str ? _fbb.CreateString(str) : 0`, where `CreateString(str)` is
`CreateString(str, strlen(str))`. -/
def createStringOrNull (b : Fbb) : Option Bytes → Fbb × Offset
  | some str => b.push (.string (str.take (strlen str)))
  | none => (b, .null)

/-- `v ? _fbb.CreateVector<flatbuffers::Offset<T>>(*v) : 0`. -/
def createVectorOrNull (b : Fbb) : Option (List Offset) → Fbb × Offset
  | some elems => b.push (.vector elems)
  | none => (b, .null)

/-- `StartTable()`. -/
def startTable (b : Fbb) : Fbb := { b with slots := [] }

/-- `TrackField(field, off)`. -/
def trackField (b : Fbb) (field : Nat) (s : Slot) : Fbb := { b with slots := (field, s) :: b.slots }

/-- `AddElement<uint8_t>(field, e, def)`: nothing is written for the default. -/
def addElement (b : Fbb) (field : Nat) (e def_ : UInt8) : Fbb :=
  if e = def_ then b else b.trackField field (.scalar e)

/-- `AddOffset(field, off)`: nothing is written for the null offset. -/
def addOffset (b : Fbb) (field : Nat) (off : Offset) : Fbb :=
  if off = .null then b else b.trackField field (.offset off)

/-- `EndTable(start)`: writes the table with the slots added since `StartTable`. -/
def endTable (b : Fbb) : Fbb × Offset := { b with slots := [] }.push (.table b.slots)

/-! ## Reading a table -/

/-- The slot of a field, if the table has it (`GetOptionalFieldOffset(field) != 0`). -/
def slot (slots : Slots) (field : Nat) : Option Slot := slots.lookup field

/-- `flatbuffers::IsFieldPresent`. -/
def isFieldPresent (slots : Slots) (field : Nat) : Bool := (slot slots field).isSome

/-- `GetPointer<T>(field)`: the offset in the field, null where it is absent. A scalar is not a
pointer; the verifier rules it out where a pointer is read. -/
def getPointer (slots : Slots) (field : Nat) : Offset :=
  match slot slots field with
  | some (.offset off) => off
  | _ => .null

/-- `GetField<uint8_t>(field, def)`: the scalar in the field, the default where it is absent. -/
def getField (slots : Slots) (field : Nat) (def_ : UInt8) : UInt8 :=
  match slot slots field with
  | some (.scalar v) => v
  | _ => def_

/-- The bytes of the string at an offset (`->str()`); none for null or another object. -/
def getString (b : Fbb) (off : Offset) : Option Bytes :=
  match b.get off with
  | some (.string bytes) => some bytes
  | _ => none

/-- The elements of the vector at an offset; none for null or another object. -/
def getVector (b : Fbb) (off : Offset) : Option (List Offset) :=
  match b.get off with
  | some (.vector elems) => some elems
  | _ => none

/-- `Required(o, field)`: what the `FLATBUFFERS_ASSERT` checks, that the table at `o` has the
field. A release build (`NDEBUG`) compiles the assertion out. -/
def required (b : Fbb) (o : Offset) (field : Nat) : Bool :=
  match b.get o with
  | some (.table slots) => isFieldPresent slots field
  | _ => false

/-! ## The verifier -/

/-- `VerifyOffsetRequired(verifier, field)`: the field is present and points to an object. -/
def verifyOffsetRequired (b : Fbb) (slots : Slots) (field : Nat) : Bool :=
  match slot slots field with
  | some (.offset off) => (b.get off).isSome
  | _ => false

/-- `verifier.VerifyString(str)`: null, or a string. -/
def verifyString (b : Fbb) (off : Offset) : Bool := off = .null || (b.getString off).isSome

/-- `verifier.VerifyVector(vec)`: null, or a vector. -/
def verifyVector (b : Fbb) (off : Offset) : Bool := off = .null || (b.getVector off).isSome

/-- `verifier.VerifyVectorOfTables(vec)`: every element of the vector is accepted by the `Verify`
of the element type. -/
def verifyVectorOfTables (verify : Fbb → Offset → Bool) (b : Fbb) (off : Offset) : Bool :=
  match b.getVector off with
  | some elems => elems.all (verify b)
  | none => true

/-- `verifier.VerifyTable(table)`: null, or a table the `Verify` of its type accepts. -/
def verifyTable (verify : Fbb → Offset → Bool) (b : Fbb) (off : Offset) : Bool :=
  off = .null || verify b off

/-! ## What `AddElement` and `AddOffset` leave -/

@[simp] theorem startTable_buf (b : Fbb) : b.startTable.buf = b.buf := rfl
@[simp] theorem startTable_slots (b : Fbb) : b.startTable.slots = [] := rfl

@[simp] theorem addElement_buf (b : Fbb) (field : Nat) (e def_ : UInt8) :
    (b.addElement field e def_).buf = b.buf := by
  unfold addElement; split <;> rfl

@[simp] theorem addOffset_buf (b : Fbb) (field : Nat) (off : Offset) :
    (b.addOffset field off).buf = b.buf := by
  unfold addOffset; split <;> rfl

@[simp] theorem slot_nil (field : Nat) : slot [] field = none := rfl

/-- The slot `AddOffset` gives a field of a new table: none for the null offset. -/
def offsetSlot (off : Offset) : Option Slot := if off ≠ .null then some (.offset off) else none

/-- The slot `AddElement` gives a field of a new table: none for the default. -/
def scalarSlot (e def_ : UInt8) : Option Slot := if e ≠ def_ then some (.scalar e) else none

theorem slot_addElement (b : Fbb) (field field' : Nat) (e def_ : UInt8) :
    slot (b.addElement field e def_).slots field' =
      if field' = field ∧ e ≠ def_ then some (.scalar e) else slot b.slots field' := by
  unfold addElement trackField slot
  by_cases hf : field' = field
  · subst hf; by_cases he : e = def_ <;> simp [he, List.lookup_cons]
  · by_cases he : e = def_ <;> simp [he, hf, List.lookup_cons, beq_false_of_ne hf]

theorem slot_addOffset (b : Fbb) (field field' : Nat) (off : Offset) :
    slot (b.addOffset field off).slots field' =
      if field' = field ∧ off ≠ .null then some (.offset off) else slot b.slots field' := by
  unfold addOffset trackField slot
  by_cases hf : field' = field
  · subst hf; by_cases ho : off = .null <;> simp [ho, List.lookup_cons]
  · by_cases ho : off = .null <;> simp [ho, hf, List.lookup_cons, beq_false_of_ne hf]

/-- A scalar field reads back what was added: written, or the default and absent. -/
theorem getField_of_slot {slots : Slots} {field : Nat} {e def_ : UInt8}
    (h : slot slots field = scalarSlot e def_) : getField slots field def_ = e := by
  unfold getField
  by_cases he : e = def_ <;> simp [h, he, scalarSlot]

/-- An offset field reads back what was added: written, or null and absent. -/
theorem getPointer_of_slot {slots : Slots} {field : Nat} {off : Offset}
    (h : slot slots field = offsetSlot off) : getPointer slots field = off := by
  unfold getPointer
  by_cases ho : off = .null <;> simp [h, ho, offsetSlot]

theorem isFieldPresent_of_slot {slots : Slots} {field : Nat} {off : Offset}
    (h : slot slots field = offsetSlot off) : isFieldPresent slots field = decide (off ≠ .null) := by
  by_cases ho : off = .null <;> simp [isFieldPresent, h, ho, offsetSlot]

@[simp] theorem get_null (b : Fbb) : b.get .null = none := rfl

theorem verifyOffsetRequired_of_slot (b : Fbb) {slots : Slots} {field : Nat} {off : Offset}
    (h : slot slots field = offsetSlot off) :
    b.verifyOffsetRequired slots field = (b.get off).isSome := by
  by_cases ho : off = .null <;> simp [verifyOffsetRequired, h, ho, offsetSlot]

/-- A required field that verifies holds a pointer to an object. -/
theorem verifyOffsetRequired_eq_true {b : Fbb} {slots : Slots} {field : Nat}
    (h : b.verifyOffsetRequired slots field = true) :
    ∃ off, getPointer slots field = off ∧ off ≠ .null ∧ (b.get off).isSome := by
  unfold verifyOffsetRequired at h
  split at h
  · rename_i off hs
    refine ⟨off, by simp [getPointer, hs], fun hn => ?_, h⟩
    simp [hn] at h
  · cases h

/-! ## The buffer only grows -/

/-- Every object of `b` is still in `b'`, at the same offset. -/
def Extends (b b' : Fbb) : Prop := ∃ objs, b'.buf = b.buf ++ objs

theorem Extends.refl (b : Fbb) : Extends b b := ⟨[], by simp⟩

theorem Extends.trans {b₁ b₂ b₃ : Fbb} (h₁ : Extends b₁ b₂) (h₂ : Extends b₂ b₃) :
    Extends b₁ b₃ := by
  obtain ⟨o₁, h₁⟩ := h₁
  obtain ⟨o₂, h₂⟩ := h₂
  exact ⟨o₁ ++ o₂, by simp [h₂, h₁]⟩

theorem Extends.of_buf_eq {b b' : Fbb} (h : b'.buf = b.buf) : Extends b b' := ⟨[], by simp [h]⟩

theorem Extends.get {b b' : Fbb} (h : Extends b b') {off : Offset} {v : Value}
    (hg : b.get off = some v) : b'.get off = some v := by
  obtain ⟨objs, h⟩ := h
  match off, hg with
  | ⟨o + 1⟩, hg =>
    have hg : b.buf[o]? = some v := hg
    simpa [Fbb.get, h, List.getElem?_append_left (List.getElem?_eq_some_iff.1 hg).1] using hg

theorem push_extends (b : Fbb) (v : Value) : Extends b (b.push v).1 := ⟨[v], rfl⟩

theorem endTable_extends (b : Fbb) : Extends b b.endTable.1 := ⟨_, rfl⟩

@[simp] theorem get_push_self (b : Fbb) (v : Value) : (b.push v).1.get (b.push v).2 = some v := by
  simp [push, Fbb.get]

theorem push_ne_null (b : Fbb) (v : Value) : (b.push v).2 ≠ .null := by simp [push, Offset.null]

@[simp] theorem endTable_get (b : Fbb) : b.endTable.1.get b.endTable.2 = some (.table b.slots) :=
  get_push_self _ _

/-- What `createStringOrNull` writes: nothing for `nullptr`, otherwise the C string's bytes at a
new offset, which every later builder still reads there. -/
theorem createStringOrNull_spec (b : Fbb) (str : Option Bytes) :
    Extends b (b.createStringOrNull str).1 ∧ ((b.createStringOrNull str).2 ≠ .null ↔ str.isSome) ∧
      ∀ b', Extends (b.createStringOrNull str).1 b' →
        b'.getString (b.createStringOrNull str).2 = str.map beforeNul := by
  cases str with
  | none => exact ⟨Extends.refl b, by simp [createStringOrNull], fun _ _ => rfl⟩
  | some str =>
    refine ⟨push_extends _ _, by simpa using push_ne_null _ _, fun b' h => ?_⟩
    simp only [createStringOrNull, take_strlen] at h ⊢
    simp [getString, h.get (get_push_self _ _)]

/-- What `createVectorOrNull` writes: nothing for `nullptr`, otherwise the vector at a new
offset, which every later builder still reads there. -/
theorem createVectorOrNull_spec (b : Fbb) (v : Option (List Offset)) :
    Extends b (b.createVectorOrNull v).1 ∧ ((b.createVectorOrNull v).2 ≠ .null ↔ v.isSome) ∧
      ∀ b', Extends (b.createVectorOrNull v).1 b' → b'.getVector (b.createVectorOrNull v).2 = v := by
  cases v with
  | none => exact ⟨Extends.refl b, by simp [createVectorOrNull], fun _ _ => rfl⟩
  | some elems =>
    refine ⟨push_extends _ _, by simpa using push_ne_null _ _, fun b' h => ?_⟩
    simp only [createVectorOrNull] at h ⊢
    simp [getVector, h.get (get_push_self _ _)]

/-- Where a string or nothing was written, the offset points to an object exactly when a string
was written. -/
theorem get_isSome_of_getString {b : Fbb} {off : Offset} {str : Option Bytes}
    (hn : off ≠ .null ↔ str.isSome) (hs : b.getString off = str.map beforeNul) :
    (b.get off).isSome = str.isSome := by
  cases str with
  | none => simp [not_not.1 (mt hn.1 (by simp))]
  | some s =>
    unfold getString at hs
    split at hs <;> simp_all

theorem get_isSome_of_getVector {b : Fbb} {off : Offset} {v : Option (List Offset)}
    (hn : off ≠ .null ↔ v.isSome) (hv : b.getVector off = v) : (b.get off).isSome = v.isSome := by
  cases v with
  | none => simp [not_not.1 (mt hn.1 (by simp))]
  | some s =>
    unfold getVector at hv
    split at hv <;> simp_all

end Fbb

end Mediasoup.FlatBuffers
