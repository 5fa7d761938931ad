/-
**Sanitized traces through the cipher.**

The digest of a trace is computed when it is sanitized, over a document put together by hand, and
again when it is sealed, over the fields of the record.  Both are the same document, so whatever the
sanitizer lets through can be sealed, and is found again under its own reference and digest alone.

Main definitions:

* `Traces.AESGCM.Authenticates` — no ciphertext is accepted under other associated data.

Main results:

* `Sanitizer.seal_sanitized` — **sealing and opening give back what was sanitized**.
-/

import FaultWitness.Sanitizer

set_option autoImplicit false

namespace Traces

open Python

/-! ### Other references and digests -/

/-- Nothing is accepted under other associated data than those it was encrypted with. -/
def AESGCM.Authenticates (c : AESGCM) : Prop :=
  ∀ nonce body aad aad', aad' ≠ aad → c.decrypt nonce (c.encrypt nonce body aad) aad' = none

variable {c : PayloadCipher} {t : SanitizedTrace}

theorem identity_of_open {traceRef : String} {payload : EncryptedPayload} {body : String}
    {t' : SanitizedTrace}
    (hbody : c.cipher.decrypt payload.nonce payload.ciphertext (aad traceRef payload.payloadDigest) =
      some body)
    (hload : ∃ document, Json.loads body = some document ∧ fromDocument document = .ok t)
    (h : c.open traceRef payload = .ok t') :
    t.traceRef = traceRef ∧ t.payloadDigest = payload.payloadDigest := by
  obtain ⟨document, hdocument, ht⟩ := hload
  rw [PayloadCipher.open, check_eq_ok] at h
  obtain ⟨-, h⟩ := h
  rw [hbody] at h
  simp only [hdocument, ht, bind, Except.bind] at h
  split at h
  · cases h
  · rename_i hid
    rw [not_or, not_not, not_not] at hid
    exact hid

/-- **A sealed trace is not opened under another reference or with another digest.** -/
theorem not_open_other (hauth : c.cipher.Authenticates) {nonce : List UInt8}
    {payload : EncryptedPayload} (h : c.seal t nonce = .ok payload) {traceRef digest : String}
    (hother : (traceRef, digest) ≠ (t.traceRef, payload.payloadDigest)) (t' : SanitizedTrace) :
    c.open traceRef { payload with payloadDigest := digest } ≠ .ok t' := by
  obtain ⟨body, content, hbody, -, -, rfl⟩ := seal_eq_ok h
  intro hopen
  by_cases haad : aad traceRef digest = aad t.traceRef t.payloadDigest
  · -- the pair differs, its text does not: what was sealed shows whose it is
    have hdecrypt : c.cipher.decrypt nonce (c.cipher.encrypt nonce body
        (aad t.traceRef t.payloadDigest)) (aad traceRef digest) = some body := by
      rw [haad, c.cipher.decrypt_encrypt]
    have hload := load_of_canonicalBytes hbody
    obtain ⟨href, hdigest⟩ := identity_of_open hdecrypt
      ⟨_, hload, fromDocument_document t⟩ hopen
    exact hother (by rw [href, hdigest])
  · have hdecrypt := hauth nonce body _ _ haad
    rw [PayloadCipher.open, check_eq_ok] at hopen
    obtain ⟨-, hopen⟩ := hopen
    rw [hdecrypt] at hopen
    cases hopen

/-- A trace whose content can be printed and has its digest is sealed. -/
theorem exists_seal (hsound : (t.document false).sound = true)
    (hdigest : c.sha256 (t.document false).dumps = t.payloadDigest) (nonce : List UInt8) :
    ∃ payload, c.seal t nonce = .ok payload := by
  have hfull : (t.document true).sound = true := by
    simp only [SanitizedTrace.document, if_true, if_neg Bool.false_ne_true, List.append_nil, Json.sound,
      Bool.and_eq_true, decide_eq_true_eq, soundFields_iff] at hsound ⊢
    refine ⟨?_, ?_⟩
    · simp [SanitizedTrace.content]
    · intro f hf
      rcases List.mem_append.1 hf with hf | hf
      · exact hsound.2 f hf
      · rw [List.mem_singleton] at hf
        subst hf
        rfl
  refine ⟨⟨c.keyId, nonce, c.cipher.encrypt nonce (t.document true).dumps
    (aad t.traceRef t.payloadDigest), t.payloadDigest, 1⟩, ?_⟩
  rw [PayloadCipher.seal, SanitizedTrace.canonicalBytes, SanitizedTrace.contentBytes, canonical,
    canonical, if_pos hfull, if_pos hsound]
  simp only [bind, Except.bind, hdigest, ne_eq, not_true_eq_false, if_false]
  rfl

/-- The bytes of a text are those of its characters, and 255 begins none of them. -/
theorem sampleBytes_inj {as bs : List Char} {rest : List UInt8}
    (h : sampleBytes as ++ [255] <+: sampleBytes bs ++ 255 :: rest) : as = bs := by
  have hfirst : ∀ c : Char, (c.toNat / 65536).toUInt8 ≠ 255 := by
    intro c heq
    have hlt : c.toNat < 0x110000 := by
      rcases c.valid with h | h
      · exact lt_trans h (by decide)
      · exact h.2
    have hnat := congrArg UInt8.toNat heq
    simp only [Nat.toUInt8_eq, UInt8.toNat_ofNat'] at hnat
    have h255 : (255 : UInt8).toNat = 255 := rfl
    omega
  induction as generalizing bs with
  | nil =>
    cases bs with
    | nil => rfl
    | cons b bs => exact absurd (List.cons_prefix_cons.1 h).1.symm (hfirst b)
  | cons a as ih =>
    cases bs with
    | nil => exact absurd (List.cons_prefix_cons.1 h).1 (hfirst a)
    | cons b bs =>
      obtain ⟨h₁, h⟩ := List.cons_prefix_cons.1 h
      obtain ⟨h₂, h⟩ := List.cons_prefix_cons.1 h
      obtain ⟨h₃, h⟩ := List.cons_prefix_cons.1 h
      have hsame : sampleBytes [a] = sampleBytes [b] := by
        simp only [sampleBytes, List.flatMap_cons, List.flatMap_nil, h₁, h₂, h₃]
      have hchars := sampleChars_sampleBytes [a]
      rw [hsame, sampleChars_sampleBytes] at hchars
      have htail : as = bs := ih h
      rw [htail, List.head_eq_of_cons_eq (Option.some.inj hchars)]

theorem sampleAead_authenticates : sampleAead.Authenticates := by
  intro nonce body aad aad' hne
  have hnot : ¬ (sampleBytes aad'.toList ++ [255]).isPrefixOf
      (sampleBytes aad.toList ++ 255 :: sampleBytes body.toList) = true := by
    intro h
    exact hne (String.toList_inj.1 (sampleBytes_inj (List.isPrefixOf_iff_prefix.1 h)))
  exact if_neg hnot

end Traces

namespace Sanitizer

open Traces

theorem TraceSanitizer.Sanitized.digest {s : TraceSanitizer} {envelope : TraceEnvelope}
    {t : SanitizedTrace} (h : s.Sanitized envelope t) :
    s.sha256 (t.document false).dumps = t.payloadDigest := by
  obtain ⟨root, -, htrace⟩ := h.trace
  have hdocument : t.document false = s.values envelope root t.spans := by
    rw [htrace]
    rfl
  rw [hdocument, htrace]
  rfl

/-- **Sealing and opening give back what was sanitized**, and no other reference or digest opens it. -/
theorem seal_sanitized (s : TraceSanitizer) (c : PayloadCipher) (hsha256 : c.sha256 = s.sha256)
    (hauth : c.cipher.Authenticates) :
    (∀ envelope t nonce, s.sanitize envelope = .ok t →
      ∃ payload, c.seal t nonce = .ok payload ∧ c.open t.traceRef payload = .ok t) ∧
    ∀ t nonce payload, c.seal t nonce = .ok payload → ∀ traceRef digest,
      (traceRef, digest) ≠ (t.traceRef, payload.payloadDigest) →
        ∃ err, c.open traceRef { payload with payloadDigest := digest } = .error err := by
  constructor
  · intro envelope t nonce h
    have hs := s.sanitized_of_eq_ok h
    have hdigest : c.sha256 (t.document false).dumps = t.payloadDigest := by
      rw [hsha256, hs.digest]
    obtain ⟨payload, hpayload⟩ := exists_seal hs.sound hdigest nonce
    exact ⟨payload, hpayload, open_seal hpayload⟩
  · intro t nonce payload h traceRef digest hother
    cases hopen : c.open traceRef { payload with payloadDigest := digest } with
    | error err => exact ⟨err, rfl⟩
    | ok t' => exact absurd hopen (not_open_other hauth h hother t')

/-- The sample goes through the cipher. -/
theorem seal_sampleEnvelope : ∃ t payload, sampleSanitizer.sanitize sampleEnvelope = .ok t ∧
    sampleCipher.seal t sampleNonce = .ok payload ∧
    sampleCipher.open t.traceRef payload = .ok t ∧
    ∃ err, sampleCipher.open "trace-b" payload = .error err := by
  obtain ⟨t, ht⟩ := exists_sanitize_sample
  obtain ⟨hseal, hother⟩ := seal_sanitized sampleSanitizer sampleCipher rfl sampleAead_authenticates
  obtain ⟨payload, hpayload, hopen⟩ := hseal sampleEnvelope t sampleNonce ht
  have hs := sampleSanitizer.sanitized_of_eq_ok ht
  obtain ⟨root, -, htrace⟩ := hs.trace
  have href : t.traceRef ≠ "trace-b" := by
    have hshape : t.traceRef = sampleSanitizer.ref "trace" sampleEnvelope.traceId 24 := by
      rw [htrace]
      rfl
    rw [hshape]
    decide +kernel
  exact ⟨t, payload, ht, hpayload, hopen, hother t sampleNonce payload hpayload "trace-b"
    payload.payloadDigest fun heq => href (congrArg Prod.fst heq).symm⟩

end Sanitizer
