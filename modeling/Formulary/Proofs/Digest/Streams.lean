import Formulary.Digest.Algorithm
import Mathlib.Tactic.Common

/-!
# Streams of bytes

A stream is read through one buffer, piece by piece. Only what a reading has brought is taken in,
and never what an earlier one has left behind it, so after any pieces the state is the one after
their bytes in a row: `readAll_pieces`. The digest of a stream is therefore that of its bytes,
however they were cut, and there is none if a reading fails: `stream_digest`.
-/

namespace Formulary.Digest

variable {ε : Type} {algorithm : Algorithm} {buffer piece : Bytes} {pieces : List Bytes}

/-! ### One buffer -/

/-- Some bytes, and no more than one reading brings. -/
structure IsPiece (piece : Bytes) : Prop where
  ne_nil : piece ≠ []
  length_le : piece.length ≤ readingSize

theorem take_fill (h : piece.length ≤ buffer.length) :
    (fill buffer piece).1.take (fill buffer piece).2 = piece := by
  rw [fill, Nat.min_eq_left h, List.take_of_length_le h, List.take_left]

theorem length_fill (h : piece.length ≤ buffer.length) :
    (fill buffer piece).1.length = buffer.length ∧ (fill buffer piece).2 = piece.length := by
  refine ⟨?_, Nat.min_eq_left h⟩
  rw [fill, List.take_of_length_le h, List.length_append, List.length_drop]
  omega

/-- A piece is taken in as it is, whatever the buffer held before. -/
theorem readAll_piece (hbuffer : buffer.length = readingSize) (h : IsPiece piece) (s : Running)
    (rest : List (Except ε Bytes)) :
    ∃ filled : Bytes, filled.length = readingSize ∧
      s.readAll buffer (.ok piece :: rest) = (s.update piece).readAll filled rest := by
  have hfits : piece.length ≤ buffer.length := hbuffer ▸ h.length_le
  obtain ⟨hlength, hcount⟩ := length_fill hfits
  refine ⟨(fill buffer piece).1, hlength.trans hbuffer, ?_⟩
  have hpos : (fill buffer piece).2 ≠ 0 := by
    rw [hcount]
    exact List.length_eq_zero_iff.not.2 h.ne_nil
  simp only [Running.readAll, if_neg hpos, take_fill hfits]

/-- **After any pieces the state is the one after their bytes in a row.** -/
theorem readAll_pieces (hbuffer : buffer.length = readingSize)
    (h : ∀ piece ∈ pieces, IsPiece piece) (s : Running) (rest : List (Except ε Bytes)) :
    ∃ filled : Bytes, filled.length = readingSize ∧
      s.readAll buffer (pieces.map .ok ++ rest) =
        (s.update pieces.flatten).readAll filled rest := by
  induction pieces generalizing buffer s with
  | nil => exact ⟨buffer, hbuffer, by simp⟩
  | cons piece pieces ih =>
    obtain ⟨hpiece, hpieces⟩ := List.forall_mem_cons.1 h
    obtain ⟨filled, hfilled, hread⟩ := readAll_piece hbuffer hpiece s (pieces.map .ok ++ rest)
    obtain ⟨last, hlast, hrest⟩ := ih hfilled hpieces (s.update piece)
    refine ⟨last, hlast, ?_⟩
    rw [List.map_cons, List.cons_append, hread, hrest, List.flatten_cons, Running.update_append]

theorem readAll_end (s : Running) (buffer : Bytes) (rest : List (Except ε Bytes)) :
    s.readAll buffer (.ok [] :: rest) = .ok s := by
  simp [Running.readAll, fill]

/-! ### Whole streams -/

theorem digestReadings_pieces (algorithm : Algorithm) (h : ∀ piece ∈ pieces, IsPiece piece)
    (rest : List (Except ε Bytes)) :
    digestReadings algorithm (pieces.map .ok ++ .ok [] :: rest) =
      .ok (digest algorithm pieces.flatten) := by
  obtain ⟨filled, -, hread⟩ := readAll_pieces (List.length_replicate (n := readingSize) (a := 0)) h
    (.start algorithm) (.ok [] :: rest)
  rw [digestReadings, hread, readAll_end]
  rfl

theorem digestReadings_failing (algorithm : Algorithm) (h : ∀ piece ∈ pieces, IsPiece piece)
    (e : ε) (rest : List (Except ε Bytes)) :
    digestReadings algorithm (pieces.map .ok ++ .error e :: rest) = .error e := by
  obtain ⟨filled, -, hread⟩ := readAll_pieces (List.length_replicate (n := readingSize) (a := 0)) h
    (.start algorithm) (.error e :: rest)
  rw [digestReadings, hread]
  rfl

/-- A byte string is cut into pieces, and the empty reading follows them. -/
theorem chunks_eq (bytes : Bytes) : ∃ pieces : List Bytes, (∀ piece ∈ pieces, IsPiece piece) ∧
    pieces.flatten = bytes ∧ chunks bytes = pieces ++ [[]] := by
  induction bytes using chunks.induct with
  | case1 => exact ⟨[], by simp, rfl, by rw [chunks, dif_pos rfl]; rfl⟩
  | case2 bytes h ih =>
    obtain ⟨pieces, hpieces, hflatten, hchunks⟩ := ih
    have hpiece : IsPiece (bytes.take readingSize) := by
      refine ⟨fun hnil => ?_, List.length_take_le _ _⟩
      exact (List.take_eq_nil_iff.1 hnil).elim (by decide) h
    refine ⟨bytes.take readingSize :: pieces, List.forall_mem_cons.2 ⟨hpiece, hpieces⟩, ?_, ?_⟩
    · rw [List.flatten_cons, hflatten, List.take_append_drop]
    · rw [chunks, dif_neg h, hchunks, List.cons_append]

/-- What reading a file gives has the digest of its bytes. -/
theorem digestReadings_chunks (algorithm : Algorithm) (bytes : Bytes) :
    digestReadings algorithm ((chunks bytes).map (Except.ok (ε := ε))) =
      .ok (digest algorithm bytes) := by
  obtain ⟨pieces, hpieces, rfl, hchunks⟩ := chunks_eq bytes
  rw [hchunks, List.map_append]
  exact digestReadings_pieces algorithm hpieces []

/-! ### Digits of digests -/

theorem length_bigEndian (size n : Nat) : (bigEndian size n).length = size := by
  induction size generalizing n with
  | zero => rfl
  | succ size ih => rw [bigEndian, List.length_append, ih, List.length_singleton]

theorem length_digest (algorithm : Algorithm) (bytes : Bytes) :
    (digest algorithm bytes).length = algorithm.hexLength := by
  cases algorithm
  all_goals
    simp only [digest, Running.start, Running.update, Running.finish, hex, String.length_ofList,
      length_hexDigits, Intake.finish, Lanes.bytes, List.flatMap_cons, List.flatMap_nil,
      List.length_append, length_bigEndian, List.length_nil]
    rfl

theorem mem_digits_of_mem_hex {bytes : Bytes} {c : Char} (h : c ∈ (hex bytes).toList) :
    c ∈ "0123456789abcdef".toList := by
  have hall : ∀ n < 16, n.digitChar ∈ "0123456789abcdef".toList := by decide
  rw [hex, String.toList_ofList] at h
  obtain ⟨b, -, hc⟩ := List.mem_flatMap.1 h
  have hb := b.toNat_lt
  simp only [hexByte, List.mem_cons, List.not_mem_nil, or_false] at hc
  rcases hc with rfl | rfl
  · exact hall _ (by omega)
  · exact hall _ (by omega)

theorem mem_digits_of_mem_digest {bytes : Bytes} {c : Char}
    (h : c ∈ (digest algorithm bytes).toList) : c ∈ "0123456789abcdef".toList := by
  cases algorithm <;> exact mem_digits_of_mem_hex h

/-- **The digest of a stream is that of all its bytes, however they were cut.** With either
algorithm and whatever follows the empty reading, it is the one digest of the bytes in a row, which
is written in lower case; the same bytes in other pieces have the same one; and if a reading fails,
its fault is all there is. -/
theorem stream_digest (algorithm : Algorithm) (h : ∀ piece ∈ pieces, IsPiece piece)
    (rest : List (Except ε Bytes)) :
    digestReadings algorithm (pieces.map .ok ++ .ok [] :: rest) =
      .ok (digest algorithm pieces.flatten) ∧
    digestReadings .sha256 (pieces.map .ok ++ .ok [] :: rest) = .ok (sha256 pieces.flatten) ∧
    (digest algorithm pieces.flatten).length = algorithm.hexLength ∧
    (∀ c ∈ (digest algorithm pieces.flatten).toList, c ∈ "0123456789abcdef".toList) ∧
    (∀ others : List Bytes, (∀ piece ∈ others, IsPiece piece) →
      others.flatten = pieces.flatten → ∀ rest' : List (Except ε Bytes),
      digestReadings algorithm (others.map .ok ++ .ok [] :: rest') =
        digestReadings algorithm (pieces.map .ok ++ .ok [] :: rest)) ∧
    ∀ e : ε, digestReadings algorithm (pieces.map .ok ++ .error e :: rest) = .error e := by
  refine ⟨digestReadings_pieces algorithm h rest, digestReadings_pieces .sha256 h rest,
    length_digest algorithm _, fun c => mem_digits_of_mem_digest, ?_,
    fun e => digestReadings_failing algorithm h e rest⟩
  intro others hothers hsame rest'
  rw [digestReadings_pieces algorithm hothers, digestReadings_pieces algorithm h, hsame]

/-- Three bytes that come in two pieces, the second of which is shorter. -/
theorem stream_digest_of_letters :
    let pieces : List Bytes := [[0x61, 0x62], [0x63]]
    (∀ piece ∈ pieces, IsPiece piece) ∧
      digestReadings .sha256 (pieces.map .ok ++ [.ok [], .error ()]) =
        .ok "ba7816bf8f01cfea414140de5dae2223b00361a396177a9cb410ff61f20015ad" ∧
      digestReadings .sha256 (pieces.map .ok ++ [.error (), .ok []]) = .error () := by
  intro pieces
  have hpieces : ∀ piece ∈ pieces, IsPiece piece :=
    List.forall_mem_cons.2 ⟨⟨by decide, by decide⟩,
      List.forall_mem_singleton.2 ⟨by decide, by decide⟩⟩
  have hdigest : sha256 pieces.flatten =
      "ba7816bf8f01cfea414140de5dae2223b00361a396177a9cb410ff61f20015ad" := by
    decide +kernel
  obtain ⟨-, hread, -⟩ := stream_digest .sha256 hpieces [.error ()]
  obtain ⟨-, -, -, -, -, hfails⟩ := stream_digest .sha256 hpieces [.ok []]
  exact ⟨hpieces, hread.trans (congrArg _ hdigest), hfails ()⟩

end Formulary.Digest
