import Mediasoup.FlatBuffers.Builder

set_option autoImplicit false

/-! # `ConsumeRequest`

The request table of `FBS/transport_generated.h`, with its builder, accessors and verifier, on
the objects of `FlatBuffers/Builder.lean`. A `TRANSPORT_CONSUME` request carries a
`ConsumeRequest`, which the Worker hands to the transport's handler. The enums `MediaKind` and
`Type` are read as the `uint8_t` the table stores.

## What `CreateConsumeRequestDirect` writes

Reading the table back gives the arguments, each string cut at its first NUL
(`CreateString(const char *)` stops there) and every scalar exactly as given: a default is not
written, and an absent field reads as the default (`read_createConsumeRequestDirect`).

## Required fields

`consumerId`, `producerId`, `rtpParameters` and `consumableRtpEncodings` are required. `Finish`
only asserts it (`Required`), and a release build compiles the assertion out, so a table with a
null required argument is written all the same; `Verify` rejects exactly those, and accepts the
others as far as the nested tables verify (`verify_createConsumeRequestDirect`).
-/

namespace Mediasoup.FBS.Transport

open FlatBuffers Fbb

/-! ## ConsumeRequest -/

namespace ConsumeRequest

/-- `ConsumeRequest::VT_CONSUMERID`. -/
def VT_CONSUMERID : Nat := 4
/-- `ConsumeRequest::VT_PRODUCERID`. -/
def VT_PRODUCERID : Nat := 6
/-- `ConsumeRequest::VT_KIND`. -/
def VT_KIND : Nat := 8
/-- `ConsumeRequest::VT_RTPPARAMETERS`. -/
def VT_RTPPARAMETERS : Nat := 10
/-- `ConsumeRequest::VT_TYPE`. -/
def VT_TYPE : Nat := 12
/-- `ConsumeRequest::VT_CONSUMABLERTPENCODINGS`. -/
def VT_CONSUMABLERTPENCODINGS : Nat := 14
/-- `ConsumeRequest::VT_PAUSED`. -/
def VT_PAUSED : Nat := 16
/-- `ConsumeRequest::VT_IGNOREDTX`. -/
def VT_IGNOREDTX : Nat := 18

/-- `consumerId()`. -/
def consumerId (slots : Slots) : Offset := getPointer slots VT_CONSUMERID

/-- `producerId()`. -/
def producerId (slots : Slots) : Offset := getPointer slots VT_PRODUCERID

/-- `kind()`. -/
def kind (slots : Slots) : UInt8 := getField slots VT_KIND 0

/-- `rtpParameters()`. -/
def rtpParameters (slots : Slots) : Offset := getPointer slots VT_RTPPARAMETERS

/-- `type()`. -/
def type (slots : Slots) : UInt8 := getField slots VT_TYPE 0

/-- `consumableRtpEncodings()`. -/
def consumableRtpEncodings (slots : Slots) : Offset := getPointer slots VT_CONSUMABLERTPENCODINGS

/-- `paused()`. -/
def paused (slots : Slots) : Bool := getField slots VT_PAUSED 0 != 0

/-- `ignoreDtx()`. -/
def ignoreDtx (slots : Slots) : Bool := getField slots VT_IGNOREDTX 0 != 0

/-- `ConsumeRequest::Verify` on the object at `off`, given the `Verify` of the nested
`RtpParameters` and `RtpEncodingParameters` tables (generated in `rtpParameters_generated.h`, not
under src/). `VerifyTableStart` is that the object is a table. -/
def verify (verifyRtpParameters verifyRtpEncodingParameters : Fbb → Offset → Bool) (b : Fbb)
    (off : Offset) : Bool :=
  match b.get off with
  | some (.table slots) =>
    b.verifyOffsetRequired slots VT_CONSUMERID && b.verifyString (consumerId slots) &&
      b.verifyOffsetRequired slots VT_PRODUCERID && b.verifyString (producerId slots) &&
      b.verifyOffsetRequired slots VT_RTPPARAMETERS &&
      b.verifyTable verifyRtpParameters (rtpParameters slots) &&
      b.verifyOffsetRequired slots VT_CONSUMABLERTPENCODINGS &&
      b.verifyVector (consumableRtpEncodings slots) &&
      b.verifyVectorOfTables verifyRtpEncodingParameters (consumableRtpEncodings slots)
  | _ => false

end ConsumeRequest

/-! ## ConsumeRequestBuilder -/

namespace ConsumeRequestBuilder

open ConsumeRequest

/-- `add_consumerId`. -/
def addConsumerId (fbb : Fbb) (consumerId : Offset) : Fbb := fbb.addOffset VT_CONSUMERID consumerId

/-- `add_producerId`. -/
def addProducerId (fbb : Fbb) (producerId : Offset) : Fbb := fbb.addOffset VT_PRODUCERID producerId

/-- `add_kind`. -/
def addKind (fbb : Fbb) (kind : UInt8) : Fbb := fbb.addElement VT_KIND kind 0

/-- `add_rtpParameters`. -/
def addRtpParameters (fbb : Fbb) (rtpParameters : Offset) : Fbb :=
  fbb.addOffset VT_RTPPARAMETERS rtpParameters

/-- `add_type`. -/
def addType (fbb : Fbb) (type : UInt8) : Fbb := fbb.addElement VT_TYPE type 0

/-- `add_consumableRtpEncodings`. -/
def addConsumableRtpEncodings (fbb : Fbb) (consumableRtpEncodings : Offset) : Fbb :=
  fbb.addOffset VT_CONSUMABLERTPENCODINGS consumableRtpEncodings

/-- `add_paused`. -/
def addPaused (fbb : Fbb) (paused : Bool) : Fbb := fbb.addElement VT_PAUSED (castBool paused) 0

/-- `add_ignoreDtx`. -/
def addIgnoreDtx (fbb : Fbb) (ignoreDtx : Bool) : Fbb :=
  fbb.addElement VT_IGNOREDTX (castBool ignoreDtx) 0

/-- `Finish()`: `EndTable`. Its `Required` calls are assertions (`requiredHold`). -/
def finish (fbb : Fbb) : Fbb × Offset := fbb.endTable

/-- What the four `Required` calls of `Finish` assert of the table at `o`. -/
def requiredHold (fbb : Fbb) (o : Offset) : Bool :=
  fbb.required o VT_CONSUMERID && fbb.required o VT_PRODUCERID &&
    fbb.required o VT_RTPPARAMETERS && fbb.required o VT_CONSUMABLERTPENCODINGS

end ConsumeRequestBuilder

section

open ConsumeRequestBuilder

/-- `CreateConsumeRequest`: the fields are added in the generated order, widest first. -/
def createConsumeRequest (fbb : Fbb) (consumerId producerId : Offset) (kind : UInt8)
    (rtpParameters : Offset) (type : UInt8) (consumableRtpEncodings : Offset)
    (paused ignoreDtx : Bool) : Fbb × Offset :=
  finish <|
    addKind (addType (addPaused (addIgnoreDtx (addConsumerId (addProducerId (addRtpParameters
      (addConsumableRtpEncodings fbb.startTable consumableRtpEncodings) rtpParameters) producerId)
      consumerId) ignoreDtx) paused) type) kind

/-- `CreateConsumeRequestDirect`: each `const char *` and the vector pointer may be `nullptr`
(`none`); they are written in argument order before the table. -/
def createConsumeRequestDirect (fbb : Fbb) (consumerId producerId : Option Bytes) (kind : UInt8)
    (rtpParameters : Offset) (type : UInt8) (consumableRtpEncodings : Option (List Offset))
    (paused ignoreDtx : Bool) : Fbb × Offset :=
  let (fbb, consumerId__) := fbb.createStringOrNull consumerId
  let (fbb, producerId__) := fbb.createStringOrNull producerId
  let (fbb, consumableRtpEncodings__) := fbb.createVectorOrNull consumableRtpEncodings
  createConsumeRequest fbb consumerId__ producerId__ kind rtpParameters type
    consumableRtpEncodings__ paused ignoreDtx

end

/-! ## Reading a ConsumeRequest back -/

/-- The arguments of `CreateConsumeRequestDirect` after the builder, `nullptr` as `none`; also
what the accessors of a table give, pointers dereferenced. -/
structure ConsumeRequestArgs where
  consumerId : Option Bytes
  producerId : Option Bytes
  kind : UInt8
  rtpParameters : Offset
  type : UInt8
  consumableRtpEncodings : Option (List Offset)
  paused : Bool
  ignoreDtx : Bool
  deriving DecidableEq, Repr

namespace ConsumeRequestArgs

/-- The table a caller with these arguments writes. -/
def write (a : ConsumeRequestArgs) (fbb : Fbb) : Fbb × Offset :=
  createConsumeRequestDirect fbb a.consumerId a.producerId a.kind a.rtpParameters a.type
    a.consumableRtpEncodings a.paused a.ignoreDtx

/-- The arguments with each string read as a C string. -/
def cStrings (a : ConsumeRequestArgs) : ConsumeRequestArgs :=
  { a with consumerId := a.consumerId.map beforeNul, producerId := a.producerId.map beforeNul }

/-- The four required arguments are given. -/
def HasRequired (a : ConsumeRequestArgs) : Prop :=
  a.consumerId.isSome ∧ a.producerId.isSome ∧ a.rtpParameters ≠ .null ∧
    a.consumableRtpEncodings.isSome

end ConsumeRequestArgs

/-- The accessors of the table at `off`, the strings and the vector dereferenced; `none` when
`off` is not a table. -/
def ConsumeRequest.read (b : Fbb) (off : Offset) : Option ConsumeRequestArgs :=
  match b.get off with
  | some (.table slots) =>
    some ⟨b.getString (ConsumeRequest.consumerId slots), b.getString (ConsumeRequest.producerId slots),
      ConsumeRequest.kind slots, ConsumeRequest.rtpParameters slots, ConsumeRequest.type slots,
      b.getVector (ConsumeRequest.consumableRtpEncodings slots), ConsumeRequest.paused slots,
      ConsumeRequest.ignoreDtx slots⟩
  | _ => none

/-! ## The table `CreateConsumeRequest` writes -/

section Request

open ConsumeRequest

section Written

variable (fbb : Fbb) (consumerId producerId : Offset) (kind : UInt8) (rtpParameters : Offset)
  (type : UInt8) (consumableRtpEncodings : Offset) (paused ignoreDtx : Bool)

theorem createConsumeRequest_extends :
    Extends fbb (createConsumeRequest fbb consumerId producerId kind rtpParameters type
      consumableRtpEncodings paused ignoreDtx).1 :=
  (Extends.of_buf_eq (by simp [ConsumeRequestBuilder.addKind, ConsumeRequestBuilder.addType,
    ConsumeRequestBuilder.addPaused, ConsumeRequestBuilder.addIgnoreDtx,
    ConsumeRequestBuilder.addConsumerId, ConsumeRequestBuilder.addProducerId,
    ConsumeRequestBuilder.addRtpParameters, ConsumeRequestBuilder.addConsumableRtpEncodings])).trans
    (endTable_extends _)

/-- Each field of the table holds what was added: nothing for a null offset or a default. -/
theorem createConsumeRequest_get :
    let w := createConsumeRequest fbb consumerId producerId kind rtpParameters type
      consumableRtpEncodings paused ignoreDtx
    ∃ slots, w.1.get w.2 = some (.table slots) ∧
      slot slots VT_CONSUMERID = offsetSlot consumerId ∧
      slot slots VT_PRODUCERID = offsetSlot producerId ∧
      slot slots VT_KIND = scalarSlot kind 0 ∧
      slot slots VT_RTPPARAMETERS = offsetSlot rtpParameters ∧
      slot slots VT_TYPE = scalarSlot type 0 ∧
      slot slots VT_CONSUMABLERTPENCODINGS = offsetSlot consumableRtpEncodings ∧
      slot slots VT_PAUSED = scalarSlot (castBool paused) 0 ∧
      slot slots VT_IGNOREDTX = scalarSlot (castBool ignoreDtx) 0 := by
  refine ⟨_, endTable_get _, ?_⟩
  simp only [ConsumeRequestBuilder.addKind, ConsumeRequestBuilder.addType,
    ConsumeRequestBuilder.addPaused, ConsumeRequestBuilder.addIgnoreDtx,
    ConsumeRequestBuilder.addConsumerId, ConsumeRequestBuilder.addProducerId,
    ConsumeRequestBuilder.addRtpParameters, ConsumeRequestBuilder.addConsumableRtpEncodings,
    slot_addElement, slot_addOffset, startTable_slots, slot_nil, VT_CONSUMERID, VT_PRODUCERID,
    VT_KIND, VT_RTPPARAMETERS, VT_TYPE, VT_CONSUMABLERTPENCODINGS, VT_PAUSED, VT_IGNOREDTX]
  simp [offsetSlot, scalarSlot]

end Written

theorem createConsumeRequestDirect_eq (fbb : Fbb) (consumerId producerId : Option Bytes)
    (kind : UInt8) (rtpParameters : Offset) (type : UInt8)
    (consumableRtpEncodings : Option (List Offset)) (paused ignoreDtx : Bool) :
    createConsumeRequestDirect fbb consumerId producerId kind rtpParameters type
        consumableRtpEncodings paused ignoreDtx =
      let s₁ := fbb.createStringOrNull consumerId
      let s₂ := s₁.1.createStringOrNull producerId
      let v := s₂.1.createVectorOrNull consumableRtpEncodings
      createConsumeRequest v.1 s₁.2 s₂.2 kind rtpParameters type v.2 paused ignoreDtx :=
  rfl

namespace ConsumeRequestArgs

/-- What `CreateConsumeRequestDirect` writes: after the builder's objects, the strings and the
vector (or nothing for `nullptr`), then the table pointing to them. -/
theorem write_spec (a : ConsumeRequestArgs) (fbb : Fbb) :
    Extends fbb (a.write fbb).1 ∧
    ∃ slots o₁ o₂ o₃, (a.write fbb).1.get (a.write fbb).2 = some (.table slots) ∧
      slot slots VT_CONSUMERID = offsetSlot o₁ ∧ slot slots VT_PRODUCERID = offsetSlot o₂ ∧
      slot slots VT_KIND = scalarSlot a.kind 0 ∧
      slot slots VT_RTPPARAMETERS = offsetSlot a.rtpParameters ∧
      slot slots VT_TYPE = scalarSlot a.type 0 ∧
      slot slots VT_CONSUMABLERTPENCODINGS = offsetSlot o₃ ∧
      slot slots VT_PAUSED = scalarSlot (castBool a.paused) 0 ∧
      slot slots VT_IGNOREDTX = scalarSlot (castBool a.ignoreDtx) 0 ∧
      (o₁ ≠ .null ↔ a.consumerId.isSome) ∧
      (a.write fbb).1.getString o₁ = a.consumerId.map beforeNul ∧
      (o₂ ≠ .null ↔ a.producerId.isSome) ∧
      (a.write fbb).1.getString o₂ = a.producerId.map beforeNul ∧
      (o₃ ≠ .null ↔ a.consumableRtpEncodings.isSome) ∧
      (a.write fbb).1.getVector o₃ = a.consumableRtpEncodings := by
  rw [write, createConsumeRequestDirect_eq]
  dsimp only
  obtain ⟨h₁, n₁, r₁⟩ := createStringOrNull_spec fbb a.consumerId
  generalize fbb.createStringOrNull a.consumerId = s₁ at h₁ n₁ r₁ ⊢
  obtain ⟨h₂, n₂, r₂⟩ := createStringOrNull_spec s₁.1 a.producerId
  generalize s₁.1.createStringOrNull a.producerId = s₂ at h₂ n₂ r₂ ⊢
  obtain ⟨h₃, n₃, r₃⟩ := createVectorOrNull_spec s₂.1 a.consumableRtpEncodings
  generalize s₂.1.createVectorOrNull a.consumableRtpEncodings = v at h₃ n₃ r₃ ⊢
  have h₄ := createConsumeRequest_extends v.1 s₁.2 s₂.2 a.kind a.rtpParameters a.type v.2 a.paused
    a.ignoreDtx
  obtain ⟨slots, hg, hs⟩ := createConsumeRequest_get v.1 s₁.2 s₂.2 a.kind a.rtpParameters a.type
    v.2 a.paused a.ignoreDtx
  exact ⟨h₁.trans (h₂.trans (h₃.trans h₄)), slots, s₁.2, s₂.2, v.2, hg, hs.1, hs.2.1, hs.2.2.1,
    hs.2.2.2.1, hs.2.2.2.2.1, hs.2.2.2.2.2.1, hs.2.2.2.2.2.2.1, hs.2.2.2.2.2.2.2, n₁,
    r₁ _ (h₂.trans (h₃.trans h₄)), n₂, r₂ _ (h₃.trans h₄), n₃, r₃ _ h₄⟩

end ConsumeRequestArgs

/-- **Reading back what `CreateConsumeRequestDirect` writes.** For every builder and all
arguments, the accessors of the new table give the arguments back, each string cut at its first
NUL byte and every scalar exactly, defaults included: a default is not written and an absent field
reads as the default. Every object the builder held stays where it was. -/
theorem read_createConsumeRequestDirect (a : ConsumeRequestArgs) (fbb : Fbb) :
    ConsumeRequest.read (a.write fbb).1 (a.write fbb).2 = some a.cStrings ∧
      Extends fbb (a.write fbb).1 := by
  obtain ⟨hx, slots, o₁, o₂, o₃, hg, hc, hp, hk, hr, ht, he, hpa, hi, -, e₁, -, e₂, -, e₃⟩ :=
    a.write_spec fbb
  refine ⟨?_, hx⟩
  simp only [ConsumeRequest.read, hg, consumerId, producerId, kind, rtpParameters, type,
    consumableRtpEncodings, paused, ignoreDtx, getPointer_of_slot hc, getPointer_of_slot hp,
    getField_of_slot hk, getPointer_of_slot hr, getField_of_slot ht, getPointer_of_slot he,
    getField_of_slot hpa, getField_of_slot hi, e₁, e₂, e₃, castBool_ne_zero]
  rfl

/-- A consumer id holding a NUL byte comes back cut there; the default `kind` 0 is not written
and reads as 0. -/
example :
    Function.uncurry ConsumeRequest.read
      (ConsumeRequestArgs.write ⟨some [97, 0, 98], some [112], 0, ⟨1⟩, 0, some [], true, false⟩
        .empty) =
      some ⟨some [97], some [112], 0, ⟨1⟩, 0, some [], true, false⟩ := by
  decide

/-! ## Required fields and the verifier -/

section Verify

variable (verifyRtpParameters verifyRtpEncodingParameters : Fbb → Offset → Bool)

/-- **Required fields of what `CreateConsumeRequestDirect` writes.** For every builder and all
arguments: the `Required` assertions of `Finish` hold exactly when the four required arguments
are given; `Verify` accepts the table exactly when they are given and the nested `RtpParameters`
table and each encoding are accepted by their own `Verify`. A release build, where the
assertions are compiled out, writes a table with a null required argument, and `Verify` rejects
it. -/
theorem verify_createConsumeRequestDirect (a : ConsumeRequestArgs) (fbb : Fbb) :
    (ConsumeRequestBuilder.requiredHold (a.write fbb).1 (a.write fbb).2 = true ↔ a.HasRequired) ∧
    (verify verifyRtpParameters verifyRtpEncodingParameters (a.write fbb).1 (a.write fbb).2 = true ↔
      a.HasRequired ∧ ((a.write fbb).1.get a.rtpParameters).isSome ∧
        verifyRtpParameters (a.write fbb).1 a.rtpParameters = true ∧
        ∀ elems, a.consumableRtpEncodings = some elems →
          ∀ e ∈ elems, verifyRtpEncodingParameters (a.write fbb).1 e = true) := by
  obtain ⟨-, slots, o₁, o₂, o₃, hg, hc, hp, -, hr, -, he, -, -, n₁, e₁, n₂, e₂, n₃, e₃⟩ :=
    a.write_spec fbb
  have g₁ := get_isSome_of_getString n₁ e₁
  have g₂ := get_isSome_of_getString n₂ e₂
  have g₃ := get_isSome_of_getVector n₃ e₃
  constructor
  · simp only [ConsumeRequestBuilder.requiredHold, required, hg, isFieldPresent_of_slot hc,
      isFieldPresent_of_slot hp, isFieldPresent_of_slot hr, isFieldPresent_of_slot he,
      ConsumeRequestArgs.HasRequired, n₁, n₂, n₃, Bool.and_eq_true, decide_eq_true_eq, and_assoc]
  · simp only [verify, hg, verifyOffsetRequired_of_slot _ hc, verifyOffsetRequired_of_slot _ hp,
      verifyOffsetRequired_of_slot _ hr, verifyOffsetRequired_of_slot _ he, consumerId, producerId,
      rtpParameters, consumableRtpEncodings, getPointer_of_slot hc, getPointer_of_slot hp,
      getPointer_of_slot hr, getPointer_of_slot he, verifyString, verifyVector, verifyTable,
      verifyVectorOfTables, e₁, e₂, e₃, g₁, g₂, g₃]
    by_cases hrn : a.rtpParameters = .null
    · simp [ConsumeRequestArgs.HasRequired, hrn]
    · cases hc : a.consumerId <;> cases hp : a.producerId <;>
        cases he : a.consumableRtpEncodings <;>
        simp [ConsumeRequestArgs.HasRequired, hrn, hc, hp, he, and_assoc]

/-- Without a consumer id the table is still written, and `Verify` rejects it. -/
example :
    Function.uncurry (verify (fun _ _ => true) (fun _ _ => true))
      (ConsumeRequestArgs.write ⟨none, some [112], 0, ⟨1⟩, 0, some [], false, false⟩
        (Fbb.empty.push (.table [])).1) = false := by
  decide

end Verify

end Request

end Mediasoup.FBS.Transport
