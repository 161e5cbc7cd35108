import Revalidation.Digest.EntityTag
import Revalidation.Proofs.Blocks

/-!
# Entity tags of streams

A stream is read until a read gives no bytes, and each chunk of it takes as many reads as it is long.  The
tag depends on the bytes alone, and not on the chunks they come in.
-/

namespace Revalidation.EntityTag

variable {hasher : Md5.Hasher} {chunk : Bytes} {chunks rest : List Bytes}

/-- The chunks that a stream gives before the first one without bytes. -/
def given (chunks : List Bytes) : List Bytes := chunks.takeWhile (· ≠ [])

/-- The lengths of the reads that take a chunk of some length: as many full ones as it has, and one for
what is left. -/
def readsOf (length : Nat) : List Nat :=
  List.replicate (length / readSize) readSize ++
    if length % readSize = 0 then [] else [length % readSize]

/-! ## The reads of a chunk -/

theorem readsOf_le {length : Nat} (hpos : 0 < length) (hle : length ≤ readSize) :
    readsOf length = [length] := by
  rw [readsOf, readSize] at *
  obtain rfl | hlt := Nat.eq_or_lt_of_le hle
  · rfl
  · have hmod : length % 8192 = length := Nat.mod_eq_of_lt hlt
    have hne : length ≠ 0 := by omega
    rw [Nat.div_eq_of_lt hlt, hmod, if_neg hne]
    rfl

theorem readsOf_gt {length : Nat} (hgt : readSize < length) :
    readsOf length = readSize :: readsOf (length - readSize) := by
  rw [readSize] at hgt
  have hdiv : length / 8192 = (length - 8192) / 8192 + 1 := by omega
  have hmod : length % 8192 = (length - 8192) % 8192 := by omega
  rw [readsOf, readsOf, readSize, hdiv, hmod, List.replicate_succ, List.cons_append]

/-- The reads of a chunk are as few as there can be, each has some bytes and no more than can be read at
once, and together they have all of them. -/
theorem readsOf_spec (length : Nat) :
    (readsOf length).length = (length + (readSize - 1)) / readSize ∧
    (∀ n ∈ readsOf length, 0 < n ∧ n ≤ readSize) ∧ (readsOf length).foldr (· + ·) 0 = length := by
  rw [← List.sum_eq_foldr]
  unfold readsOf readSize
  split
  · next hmod =>
    refine ⟨?_, fun n hn => ?_, ?_⟩
    · rw [List.append_nil, List.length_replicate]
      omega
    · rw [List.append_nil] at hn
      rw [List.eq_of_mem_replicate hn]
      decide
    · rw [List.append_nil, List.sum_replicate_nat]
      omega
  · next hmod =>
    refine ⟨?_, fun n hn => ?_, ?_⟩
    · rw [List.length_append, List.length_replicate, List.length_singleton]
      omega
    · obtain hfull | hlast := List.mem_append.mp hn
      · rw [List.eq_of_mem_replicate hfull]
        decide
      · rw [List.mem_singleton.mp hlast]
        omega
    · rw [List.sum_append_nat, List.sum_replicate_nat, List.sum_singleton]
      omega

/-! ## The reads of a stream -/

theorem given_cons (hsome : chunk ≠ []) : given (chunk :: rest) = chunk :: given rest := by
  simp [given, hsome]

theorem given_of_read (hempty : (read readSize chunks).1 = []) : given chunks = [] := by
  cases chunks with
  | nil => rfl
  | cons chunk rest =>
      have hchunk : chunk = [] := by
        simp only [read] at hempty
        split at hempty
        · exact hempty
        · rw [List.take_eq_nil_iff] at hempty
          exact hempty.resolve_left (by decide)
      simp [given, hchunk]

/-- A read with some bytes takes them off the first chunk, and with them one of its reads. -/
theorem read_cases (hsome : (read readSize chunks).1 ≠ []) :
    (given chunks).flatten = (read readSize chunks).1 ++ (given (read readSize chunks).2).flatten ∧
    (given chunks).flatMap (readsOf ·.length) =
      (read readSize chunks).1.length :: (given (read readSize chunks).2).flatMap (readsOf ·.length) := by
  cases chunks with
  | nil => exact absurd rfl hsome
  | cons chunk rest =>
      by_cases hle : chunk.length ≤ readSize
      · simp only [read, hle, if_true] at hsome ⊢
        rw [given_cons hsome, List.flatten_cons, List.flatMap_cons,
          readsOf_le (List.length_pos_iff.mpr hsome) hle]
        exact ⟨rfl, rfl⟩
      · have hgt : readSize < chunk.length := Nat.lt_of_not_le hle
        have hchunk : chunk ≠ [] := List.length_pos_iff.mp (Nat.zero_lt_of_lt hgt)
        have hdrop : chunk.drop readSize ≠ [] := by
          rw [← List.length_pos_iff, List.length_drop]
          omega
        have hpiece : (chunk.take readSize).length = readSize :=
          List.length_take_of_le (Nat.le_of_lt hgt)
        simp only [read, hle, if_false]
        constructor
        · rw [given_cons hchunk, given_cons hdrop, List.flatten_cons, List.flatten_cons,
            ← List.append_assoc, List.take_append_drop]
        · rw [given_cons hchunk, given_cons hdrop, List.flatMap_cons, List.flatMap_cons, readsOf_gt hgt,
            hpiece, List.length_drop, List.cons_append]

/-- Whatever the chunks are, a hasher takes all bytes before the first empty read. -/
theorem digestStream_eq (hasher : Md5.Hasher) (chunks : List Bytes) :
    digestStream hasher chunks = (hasher.update (given chunks).flatten,
      (given chunks).flatMap (readsOf ·.length) ++ [0]) := by
  induction hasher, chunks using digestStream.induct with
  | case1 hasher chunks hempty =>
      rw [digestStream, dif_pos hempty, given_of_read hempty]
      rfl
  | case2 hasher chunks hsome piece result lengths _ ih =>
      obtain ⟨hbytes, hreads⟩ := read_cases hsome
      rw [digestStream, dif_neg hsome]
      dsimp only
      rw [ih, hbytes, hreads, Md5.Hasher.update, Md5.Hasher.update, Md5.Hasher.update,
        List.foldl_append, List.cons_append]

/-! ## Tags -/

theorem ofStream_eq (chunks : List Bytes) : ofStream chunks = ofBytes (given chunks).flatten := by
  rw [ofStream, digestStream_eq]
  rfl

-- What comes after an empty chunk is not read.
example : ofStream [[0x48, 0x65, 0x6C, 0x6C, 0x6F], [0x2C, 0x20, 0x57, 0x6F, 0x72, 0x6C, 0x64, 0x21], [],
    [0x21]] = "\"065a8e27d8879283831b664bd8b7f0ad4\"" := by
  rw [ofStream_eq]
  decide +kernel

theorem ofBytes_digits (body : Bytes) : ∃ digits : List Char,
    ofBytes body = "\"0" ++ String.ofList digits ++ "\"" ∧ digits.length = 32 ∧
    ∀ c ∈ digits, c ∈ "0123456789abcdef".toList := by
  refine ⟨_, rfl, ?_, fun c hc => ?_⟩
  · have hlength : (Md5.hash body).length = 16 := by
      rw [Md5.hash_eq_wholeHash, Md5.length_wholeHash]
    simp [List.length_flatMap, List.map_const', hlength]
  · have hdigit : ∀ n < 16, Nat.digitChar n ∈ "0123456789abcdef".toList := by decide
    obtain ⟨b, -, hmem⟩ := List.mem_flatMap.mp hc
    have hb := b.toNat_lt
    obtain rfl | hmem := List.mem_cons.mp hmem
    · exact hdigit _ (by omega)
    · rw [List.mem_singleton.mp hmem]
      exact hdigit _ (by omega)

/-- The entity tag of a stream, whatever chunks it gives its bytes in.

It is the tag of the chunks before the first empty one as one piece: the digest of their bytes, padded
and taken block by block.  Each of these chunks takes as few reads as it can be taken in, none of them
empty or longer than a read can be, and one empty read ends the stream.  The tag is a mark and 32
hexadecimal digits between double quotes. -/
theorem ofStream_pieces (chunks : List Bytes) :
    let pieces := chunks.takeWhile (· ≠ [])
    ofStream chunks = ofStream [pieces.flatten] ∧
    ofStream chunks = ofDigest (Md5.wholeHash pieces.flatten) ∧
    readLengths chunks = pieces.flatMap (readsOf ·.length) ++ [0] ∧
    (∀ piece ∈ pieces, (readsOf piece.length).length = (piece.length + 8191) / 8192 ∧
      (∀ n ∈ readsOf piece.length, 0 < n ∧ n ≤ 8192) ∧
      (readsOf piece.length).foldr (· + ·) 0 = piece.length) ∧
    (∃ digits : List Char, ofStream chunks = "\"0" ++ String.ofList digits ++ "\"" ∧ digits.length = 32 ∧
      ∀ c ∈ digits, c ∈ "0123456789abcdef".toList) ∧
    (ofStream chunks).length = 35 := by
  intro pieces
  obtain ⟨digits, hdigits, hlength, hhex⟩ := ofBytes_digits pieces.flatten
  have hstream : ofStream chunks = ofBytes pieces.flatten := ofStream_eq chunks
  refine ⟨?_, ?_, ?_, fun piece _ => readsOf_spec piece.length, ⟨digits, ?_, hlength, hhex⟩, ?_⟩
  · have hwhole : (given [pieces.flatten]).flatten = pieces.flatten := by
      by_cases hempty : pieces.flatten = []
      · rw [hempty]
        rfl
      · rw [given_cons hempty]
        exact List.append_nil _
    rw [hstream, ofStream_eq, hwhole]
  · rw [hstream, ofBytes, Md5.hash_eq_wholeHash]
  · rw [readLengths, digestStream_eq]
    rfl
  · rw [hstream, hdigits]
  · have hshown : (String.ofList digits).length = 32 := by simpa using hlength
    rw [hstream, hdigits, String.length_append, String.length_append, hshown]
    rfl

end Revalidation.EntityTag
