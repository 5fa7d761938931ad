/-
**The hits in a file that is read in chunks.**

The probe keeps of each window one letter less than a token has, so that an occurrence across chunks is
found, and an occurrence within a window is not found again.  If the token has no borders, its
occurrences do not overlap, and what the loop over the chunks adds up is what `scan_tokens` counts in the
whole file.  Both canaries are such tokens, and they are distinct, so that each has letters of its own
that are kept.

Main results:

* `CanaryScan.chunked_scan` — **the hits in the chunks are the occurrences in the file**;
* `CanaryScan.borderFree_canaryTokens` — the canaries have no borders;
* `CanaryScan.persistentVolumeHits_exact` — the hits in a volume are the occurrences in its files.
-/

import FaultWitness.CanaryScan

set_option autoImplicit false

namespace CanaryScan

open Python ProbeMatrices RemoteCommands AccessProbe Substrings

/-! ### Chunks -/

theorem fileHits_complete {tokens : List Bytes} (hdistinct : tokens.Nodup) (chunks : List Bytes) :
    fileHits tokens ⟨chunks, true⟩ =
      .ok (tokens.map fun token => chunkHits [(token, [])] chunks).sum := by
  rw [fileHits, if_pos rfl, scanChunks_eq hdistinct, chunkHits_eq_sum, List.map_map]
  rfl

theorem tokenHits_eq {token : Bytes} (hlength : 2 ≤ token.length) (hfree : BorderFree token)
    (chunks : List Bytes) :
    chunkHits [(token, [])] chunks = count token chunks.flatten ∧
      count token chunks.flatten = occurrences token chunks.flatten := by
  have hne : token ≠ [] := List.ne_nil_of_length_pos (by omega)
  have hkept : ∀ k ∈ [(token, ([] : Bytes))],
      2 ≤ k.1.length ∧ BorderFree k.1 ∧ k.2.length < k.1.length := by
    intro k hk
    rw [List.mem_singleton.1 hk]
    exact ⟨hlength, hfree, by change 0 < token.length; omega⟩
  rw [count_eq_occurrences hne hfree, chunkHits_eq hkept, List.map_singleton, List.sum_singleton,
    List.nil_append]
  exact ⟨rfl, rfl⟩

/-- **What the loop over the chunks adds for a token is the number of its occurrences in the file.** -/
theorem chunked_scan (tokens : List Bytes) (chunks : List Bytes) :
    (tokens.Nodup → fileHits tokens ⟨chunks, true⟩ =
        .ok (tokens.map fun token => chunkHits [(token, [])] chunks).sum) ∧
      ∀ token : Bytes, 2 ≤ token.length → BorderFree token →
        chunkHits [(token, [])] chunks = scanTokens chunks.flatten [token] ∧
          scanTokens chunks.flatten [token] = occurrences token chunks.flatten := by
  refine ⟨fun hdistinct => fileHits_complete hdistinct chunks, fun token hlength hfree => ?_⟩
  rw [scanTokens, List.map_singleton, List.sum_singleton]
  exact tokenHits_eq hlength hfree chunks

/-- A token across the borders of chunks that are shorter than it, and once more within a chunk. -/
theorem chunked_scan_sample :
    fileHits [[1, 2, 3], [3, 1]] ⟨[[0, 1], [2], [3, 1, 2, 3]], true⟩ = .ok (2 + (1 + 0)) ∧
      chunkHits [(([1, 2, 3] : Bytes), [])] [[0, 1], [2], [3, 1, 2, 3]] =
        scanTokens [0, 1, 2, 3, 1, 2, 3] [[1, 2, 3]] ∧
      scanTokens [0, 1, 2, 3, 1, 2, 3] [[1, 2, 3]] = 2 :=
  ⟨(chunked_scan [[1, 2, 3], [3, 1]] [[0, 1], [2], [3, 1, 2, 3]]).1 (by decide),
    (chunked_scan [[1, 2, 3]] [[0, 1], [2], [3, 1, 2, 3]]).2 [1, 2, 3] (by decide)
      (borderFree_of_first (by decide))⟩

/-! ### The canaries -/

theorem encode_eq (text : String) : encode text = text.toList.flatMap String.utf8EncodeChar := by
  change text.toByteArray.data.toList = _
  rw [← String.utf8Encode_toList]
  simp [List.utf8Encode]

/-- The characters of a digest. -/
def hexDigits : List Char := "0123456789abcdef".toList

variable {probe : Probe} {ctx : Context}

theorem encode_hex {text : String} (h : ∀ c ∈ text.toList, c ∈ hexDigits) :
    ∀ byte ∈ encode text, byte ∈ encode "0123456789abcdef" := by
  intro byte hbyte
  rw [encode_eq, List.mem_flatMap] at hbyte
  obtain ⟨c, hc, hbyte⟩ := hbyte
  rw [encode_eq, List.mem_flatMap]
  exact ⟨c, h c hc, hbyte⟩

/-- **The canaries have no borders**: the first letter of the one and the second letter of the other
come once, and the other ends with another letter than it begins with. -/
theorem borderFree_canaryTokens (hdigest : ∀ c ∈ (probe.sha256
      (ctx.environmentFingerprint ++ "|g02-canary-v1")).toList.take 24, c ∈ hexDigits)
    {token : Bytes} (h : token ∈ canaryTokens probe ctx) : BorderFree token := by
  have hseed : ∀ byte ∈ encode (String.ofList ((probe.sha256
      (ctx.environmentFingerprint ++ "|g02-canary-v1")).toList.take 24)),
      byte ∈ encode "0123456789abcdef" := by
    refine encode_hex fun c hc => ?_
    rw [String.toList_ofList] at hc
    exact hdigest c hc
  have hnot : ∀ byte : UInt8, byte ∉ encode "0123456789abcdef" →
      byte ∉ encode (String.ofList ((probe.sha256
        (ctx.environmentFingerprint ++ "|g02-canary-v1")).toList.take 24)) :=
    fun byte hbyte hmem => hbyte (hseed byte hmem)
  simp only [canaryTokens, canaries, List.map_cons, List.map_nil, List.mem_cons,
    List.not_mem_nil, or_false] at h
  rcases h with rfl | rfl
  · have hstem : encode "FW_SECRET_CANARY_" = 70 :: encode "W_SECRET_CANARY_" := by decide
    rw [encode_append, hstem, List.cons_append]
    refine borderFree_of_first fun hmem => ?_
    rcases List.mem_append.1 hmem with hmem | hmem
    · exact absurd hmem (by decide)
    · exact hnot 70 (by decide) hmem
  · have hstem : encode "fw_pii_canary_" = 102 :: 119 :: encode "_pii_canary_" := by decide
    rw [encode_append, encode_append, hstem, List.cons_append, List.cons_append, List.cons_append,
      List.cons_append]
    refine borderFree_of_second (fun hmem => ?_) ?_
    · rcases List.mem_append.1 hmem with hmem | hmem
      · rcases List.mem_append.1 hmem with hmem | hmem
        · exact absurd hmem (by decide)
        · exact hnot 119 (by decide) hmem
      · exact absurd hmem (by decide)
    · have hend : encode "@example.invalid" = encode "@example.invali" ++ [100] := by decide
      simp only [hend, ← List.append_assoc, ← List.cons_append, List.getLast_append_singleton]
      decide

/-! ### Volumes -/

variable {lib : Library} {b : Behaviour} {tokens : List Bytes}

theorem fileHits_sum (hdistinct : tokens.Nodup)
    (h : ∀ token ∈ tokens, 2 ≤ token.length ∧ BorderFree token) {files : List FileRead}
    {counts : List ℕ} (hcounts : files.mapM (fileHits tokens) = .ok counts) :
    counts.sum = ((files.map fileRead).map fun read => scanTokens read.content tokens).sum := by
  have hall := mapM_eq_ok.1 hcounts
  clear hcounts
  induction hall with
  | nil => rfl
  | @cons file found files counts hhead hrest ih =>
    have hfile : found = scanTokens file.chunks.flatten tokens := by
      unfold fileHits at hhead
      split at hhead
      · cases hhead
        rw [scanChunks_eq hdistinct, chunkHits_eq_sum, List.map_map, scanTokens]
        refine congrArg List.sum (List.map_congr_left fun token htoken => ?_)
        obtain ⟨hlength, hfree⟩ := h token htoken
        exact (tokenHits_eq hlength hfree file.chunks).1
      · cases hhead
    rw [List.map_cons, List.map_cons, List.sum_cons, List.sum_cons, hfile, ih]
    rfl

theorem scanTokens_nil (h : ∀ token ∈ tokens, 2 ≤ token.length) : scanTokens [] tokens = 0 := by
  refine (scanTokens_eq_zero_iff h).2 fun token htoken hwithin => ?_
  have hlength := h token htoken
  rw [List.infix_nil.1 hwithin] at hlength
  cases hlength

/-- **The hits in a volume are the occurrences of the tokens in the files that are found.** -/
theorem persistentVolumeHits_exact {probe : Probe} {lib : Library} {b : Behaviour}
    {tokens : List Bytes} {space pod mountPath : String} {hits : ℕ} (hdistinct : tokens.Nodup)
    (h : ∀ token ∈ tokens, 2 ≤ token.length ∧ BorderFree token)
    (hvolume : persistentVolumeHits probe lib b space pod mountPath tokens = .ok hits) :
    hits = ((volumeReads probe lib b space pod mountPath).map fun read =>
      scanTokens read.content tokens).sum := by
  obtain ⟨directory, hdirectory, hhits⟩ := bind_eq_ok.1 hvolume
  obtain ⟨-, hhits⟩ := check_eq_ok.1 hhits
  obtain ⟨counts, hcounts, hsum⟩ := bind_eq_ok.1 hhits
  cases hsum
  have hvisits : ((directory.visits.map visitRead).map fun read =>
      scanTokens read.content tokens).sum = 0 := by
    refine List.sum_eq_zero_iff_forall_eq_nat.2 fun count hcount => ?_
    obtain ⟨read, hread, rfl⟩ := List.mem_map.1 hcount
    obtain ⟨visit, -, rfl⟩ := List.mem_map.1 hread
    exact scanTokens_nil fun token htoken => (h token htoken).1
  rw [volumeReads, hdirectory]
  dsimp only
  rw [List.map_append, List.sum_append, hvisits, Nat.zero_add]
  exact fileHits_sum hdistinct h hcounts

/-- A file that holds both canaries, one of them across chunks. -/
def canaryFile : FileRead where
  chunks :=
    let text := ((canaryTokens sampleProbe sampleContext).map fun token => 0 :: token).flatten
    [text.take 20, text.drop 20]
  complete := true

theorem persistentVolumeHits_exact_canaries :
    2 = ((volumeReads sampleProbe sampleLibrary
        { sampleBehaviour with directory := fun _ => some ⟨true, [.complete], [canaryFile]⟩ }
        "s" "p" "/data").map fun read =>
          scanTokens read.content (canaryTokens sampleProbe sampleContext)).sum := by
  have hdigest : ((sampleProbe.sha256 (sampleContext.environmentFingerprint ++
      "|g02-canary-v1")).toList.take 24).all (fun c => decide (c ∈ hexDigits)) = true := by decide +kernel
  refine persistentVolumeHits_exact nodup_canaryTokens (fun token htoken => ?_)
    (bind_eq_ok.2 ⟨_, volumeDirectory_sample _ rfl, ?_⟩)
  · exact ⟨length_canaryTokens htoken,
      borderFree_canaryTokens (fun c hc => of_decide_eq_true (List.all_eq_true.1 hdigest c hc)) htoken⟩
  · decide +kernel

end CanaryScan
