import Mediasoup.FlatBuffers.Builder

set_option autoImplicit false

/-! # RtcpFeedback and its FlatBuffers table

`RTC::RtcpFeedback` (`RTC/RtpDictionaries/RtcpFeedback.cpp`) is read from an
`FBS::RtpParameters::RtcpFeedback` table by its constructor and written back by `FillBuffer`, which
calls the generated `CreateRtcpFeedbackDirect` with `c_str()` of each string (`nullptr` for an empty
parameter). The generated functions are not under src/; they are modelled on the pattern
`FBS/transport_generated.h` shows for `CreateConsumeRequest` and `CreateConsumeRequestDirect`.

Reading gives every byte of a string, but writing stops at the first NUL, so decoding what
`FillBuffer` writes gives back each string cut at its first NUL byte (`rtcpFeedback_fillBuffer`).
-/

namespace Mediasoup.RTC

open FlatBuffers Fbb

/-- An `RTC::RtcpFeedback`: its `type` and `parameter`, each a `std::string`, which may hold any
byte. -/
structure RtcpFeedback where
  type : Bytes
  parameter : Bytes
  deriving DecidableEq, Repr

namespace RtcpFeedback

/-- `FBS::RtpParameters::RtcpFeedback::VT_TYPE`. -/
def VT_TYPE : Nat := 4

/-- `FBS::RtpParameters::RtcpFeedback::VT_PARAMETER`. -/
def VT_PARAMETER : Nat := 6

/-! ## Writing -/

/-- Modelled on `CreateConsumeRequest`: `FBS::RtpParameters::CreateRtcpFeedback`, generated in
`rtpParameters_generated.h`, which is not under src/. The offset fields are added in reverse order
of declaration, as the generated `Create*` functions do. -/
def createRtcpFeedback (fbb : Fbb) (type parameter : Offset) : Fbb × Offset :=
  ((fbb.startTable.addOffset VT_PARAMETER parameter).addOffset VT_TYPE type).endTable

/-- Modelled on `CreateConsumeRequestDirect`: `FBS::RtpParameters::CreateRtcpFeedbackDirect`,
generated in `rtpParameters_generated.h`, which is not under src/. Each string argument, a
`const char *` that may be `nullptr`, is written with `CreateString`, type first. -/
def createRtcpFeedbackDirect (fbb : Fbb) (type parameter : Option Bytes) : Fbb × Offset :=
  let (fbb, type__) := fbb.createStringOrNull type
  let (fbb, parameter__) := fbb.createStringOrNull parameter
  createRtcpFeedback fbb type__ parameter__

/-- `RtcpFeedback::FillBuffer`. -/
def fillBuffer (f : RtcpFeedback) (builder : Fbb) : Fbb × Offset :=
  createRtcpFeedbackDirect builder (some (cStr f.type))
    (if f.parameter.length > 0 then some (cStr f.parameter) else none)

/-! ## Reading -/

/-- The constructor `RtcpFeedback(const FBS::RtpParameters::RtcpFeedback* data)` on the table at
`data`: `data->type()->str()`, and `data->parameter()->str()` when the field is present (the
parameter stays empty otherwise). `none` where a null pointer is dereferenced. -/
def rtcpFeedback (buf : Fbb) (data : Offset) : Option RtcpFeedback :=
  match buf.get data with
  | some (.table slots) => do
    let type ← buf.getString (getPointer slots VT_TYPE)
    let parameter ← (if isFieldPresent slots VT_PARAMETER then
      buf.getString (getPointer slots VT_PARAMETER) else some [])
    some ⟨type, parameter⟩
  | _ => none

/-- The constructor run on the table `FillBuffer` writes into `builder`. -/
def roundTrip (builder : Fbb) (f : RtcpFeedback) : Option RtcpFeedback :=
  rtcpFeedback (f.fillBuffer builder).1 (f.fillBuffer builder).2

/-- The value with both strings read as C strings: each cut at its first NUL. -/
def cStrings (f : RtcpFeedback) : RtcpFeedback := ⟨beforeNul f.type, beforeNul f.parameter⟩

/-! ## The table `CreateRtcpFeedbackDirect` writes -/

theorem createRtcpFeedbackDirect_eq (fbb : Fbb) (type parameter : Option Bytes) :
    createRtcpFeedbackDirect fbb type parameter =
      let s₁ := fbb.createStringOrNull type
      let s₂ := s₁.1.createStringOrNull parameter
      createRtcpFeedback s₂.1 s₁.2 s₂.2 :=
  rfl

/-- The table `CreateRtcpFeedback` writes: each field holds its offset, absent when it is null. -/
theorem createRtcpFeedback_spec (fbb : Fbb) (type parameter : Offset) :
    Extends fbb (createRtcpFeedback fbb type parameter).1 ∧
    ∃ slots, (createRtcpFeedback fbb type parameter).1.get
        (createRtcpFeedback fbb type parameter).2 = some (.table slots) ∧
      slot slots VT_TYPE = offsetSlot type ∧ slot slots VT_PARAMETER = offsetSlot parameter := by
  refine ⟨(Extends.of_buf_eq (by simp)).trans (endTable_extends _), _, endTable_get _, ?_⟩
  simp only [slot_addOffset, startTable_slots, slot_nil, VT_TYPE, VT_PARAMETER]
  simp [offsetSlot]

/-! ## Round trip -/

/-- Reading the table `CreateRtcpFeedbackDirect` writes for a type and an optional parameter. -/
theorem rtcpFeedback_createRtcpFeedbackDirect (fbb : Fbb) (type : Bytes)
    (parameter : Option Bytes) :
    rtcpFeedback (createRtcpFeedbackDirect fbb (some type) parameter).1
      (createRtcpFeedbackDirect fbb (some type) parameter).2 =
      some ⟨beforeNul type, (parameter.map beforeNul).getD []⟩ := by
  rw [createRtcpFeedbackDirect_eq]
  dsimp only
  obtain ⟨h₁, n₁, r₁⟩ := createStringOrNull_spec fbb (some type)
  generalize fbb.createStringOrNull (some type) = s₁ at h₁ n₁ r₁ ⊢
  obtain ⟨h₂, n₂, r₂⟩ := createStringOrNull_spec s₁.1 parameter
  generalize s₁.1.createStringOrNull parameter = s₂ at h₂ n₂ r₂ ⊢
  obtain ⟨h₃, slots, hg, ht, hp⟩ := createRtcpFeedback_spec s₂.1 s₁.2 s₂.2
  simp only [rtcpFeedback, hg, getPointer_of_slot ht, getPointer_of_slot hp,
    isFieldPresent_of_slot hp, r₁ _ (h₂.trans h₃), r₂ _ h₃, Option.map_some', Option.some_bind]
  cases parameter <;> simp_all

theorem roundTrip_eq (builder : Fbb) (f : RtcpFeedback) : roundTrip builder f = some f.cStrings := by
  unfold roundTrip fillBuffer
  rw [rtcpFeedback_createRtcpFeedbackDirect]
  by_cases hl : f.parameter.length > 0
  · simp [hl, cStrings, beforeNul_cStr]
  · simp [hl, cStrings, beforeNul_cStr,
      List.eq_nil_of_length_eq_zero (by omega : f.parameter.length = 0)]

/-- **Decoding what `FillBuffer` writes.** For every RtcpFeedback `f` and every builder, the
constructor run on the table `FillBuffer` writes gives back `f` with its type and its parameter each
cut at the first NUL byte. So it gives back `f` exactly when neither string holds a NUL byte; the
parameter field is present exactly when the parameter is not empty (an empty one is read back
empty); and the round trip is idempotent: encoding what it decoded, into any builder, and decoding
again changes nothing. -/
theorem rtcpFeedback_fillBuffer (f : RtcpFeedback) (builder : Fbb) :
    roundTrip builder f = some f.cStrings ∧
    (roundTrip builder f = some f ↔ 0 ∉ f.type ∧ 0 ∉ f.parameter) ∧
    (∃ slots, (f.fillBuffer builder).1.get (f.fillBuffer builder).2 = some (.table slots) ∧
      (isFieldPresent slots VT_PARAMETER = true ↔ f.parameter ≠ [])) ∧
    ∀ builder', (roundTrip builder f).bind (roundTrip builder') = roundTrip builder f := by
  refine ⟨roundTrip_eq builder f, ?_, ?_, fun builder' => by simp [roundTrip_eq, cStrings]⟩
  · obtain ⟨type, parameter⟩ := f
    simp [roundTrip_eq, cStrings, beforeNul_eq_self_iff]
  · rw [fillBuffer, createRtcpFeedbackDirect_eq]
    obtain ⟨-, slots, hg, -, hp⟩ := createRtcpFeedback_spec _ _ _
    refine ⟨slots, hg, ?_⟩
    rw [isFieldPresent_of_slot hp, decide_eq_true_iff, (createStringOrNull_spec _ _).2.1]
    by_cases hl : f.parameter.length > 0
    · simp [hl, List.ne_nil_of_length_pos hl]
    · simp [hl, List.eq_nil_of_length_eq_zero (by omega : f.parameter.length = 0)]

/-- The type `"nack\0pli"` comes back as `"nack"`. A table whose type string is `"n\0a"`, which a
length-prefixed FlatBuffers string can hold, is read as such, and encoding and decoding it again
gives `"n"`. -/
theorem rtcpFeedback_nul_truncated :
    roundTrip .empty ⟨[110, 97, 99, 107, 0, 112, 108, 105], []⟩ =
      some ⟨[110, 97, 99, 107], []⟩ ∧
    rtcpFeedback ⟨[.string [110, 0, 97], .table [(4, .offset ⟨1⟩)]], []⟩ ⟨2⟩ =
      some ⟨[110, 0, 97], []⟩ ∧
    roundTrip .empty ⟨[110, 0, 97], []⟩ = some ⟨[110], []⟩ := by
  decide

end RtcpFeedback

end Mediasoup.RTC
