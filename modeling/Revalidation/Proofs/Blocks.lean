import Revalidation.Digest.Md5

/-!
# Digests block by block

A hasher takes a message byte by byte and works a block in as soon as it is full.  The digest of a message
that is there as a whole takes it padded, block after block.  The two are the same, however the message is
cut into pieces.
-/

namespace Revalidation.Md5

def blocks (message : Bytes) : List Bytes :=
  (List.range (message.length / 64)).map fun i => (message.drop (64 * i)).take 64

def padded (message : Bytes) : Bytes := message ++ padding message.length

def wholeHash (message : Bytes) : Bytes :=
  ((blocks (padded message)).foldl compress Chain.initial).bytes

variable {h : Hasher} {message : Bytes}

/-! ## Byte by byte -/

def unfinished (message : Bytes) : Bytes := message.drop (64 * (message.length / 64))

/-- A hasher has taken a message: whole blocks are worked in, and the other bytes wait. -/
structure Hasher.Took (h : Hasher) (message : Bytes) : Prop where
  chain_eq : h.chain = (blocks message).foldl compress Chain.initial
  pending_eq : h.pending.reverse = unfinished message
  length_eq : h.length = message.length

theorem block_append {i : Nat} (hi : i < message.length / 64) (more : Bytes) :
    ((message ++ more).drop (64 * i)).take 64 = (message.drop (64 * i)).take 64 := by
  have hle : 64 * i + 64 ≤ message.length := by omega
  rw [List.drop_append_of_le_length (by omega),
    List.take_append_of_le_length (by rw [List.length_drop]; omega)]

theorem blocks_concat_within (byte : UInt8) (hwithin : (message.length + 1) % 64 ≠ 0) :
    blocks (message ++ [byte]) = blocks message ∧
      unfinished (message ++ [byte]) = unfinished message ++ [byte] := by
  have hcount : (message ++ [byte]).length / 64 = message.length / 64 := by
    rw [List.length_append, List.length_singleton]
    omega
  rw [blocks, unfinished, hcount]
  refine ⟨List.map_congr_left fun i hi => block_append (List.mem_range.mp hi) [byte], ?_⟩
  exact List.drop_append_of_le_length (by omega)

theorem blocks_concat_full (byte : UInt8) (hfull : (message.length + 1) % 64 = 0) :
    blocks (message ++ [byte]) = blocks message ++ [unfinished message ++ [byte]] ∧
      unfinished (message ++ [byte]) = [] := by
  have hlength : (message ++ [byte]).length = message.length + 1 := by simp
  have hcount : (message ++ [byte]).length / 64 = message.length / 64 + 1 := by omega
  have hlast : ((message ++ [byte]).drop (64 * (message.length / 64))).take 64 =
      unfinished message ++ [byte] := by
    rw [List.take_of_length_le (by rw [List.length_drop]; omega)]
    exact List.drop_append_of_le_length (by omega)
  refine ⟨?_, ?_⟩
  · rw [blocks, hcount, List.range_succ, List.map_append, List.map_singleton, hlast]
    exact congrArg (· ++ _)
      (List.map_congr_left fun i hi => block_append (List.mem_range.mp hi) [byte])
  · rw [unfinished, hcount]
    exact List.drop_eq_nil_of_le (by omega)

namespace Hasher.Took

theorem nothing : ({} : Hasher).Took [] := ⟨rfl, rfl, rfl⟩

theorem feed (hh : h.Took message) (byte : UInt8) : (h.feed byte).Took (message ++ [byte]) := by
  have hlength : h.length + 1 = (message ++ [byte]).length := by simp [hh.length_eq]
  rw [Hasher.feed, hh.length_eq]
  split
  · next hfull =>
    obtain ⟨hblocks, hunfinished⟩ := blocks_concat_full byte hfull
    refine ⟨?_, hunfinished.symm, hh.length_eq ▸ hlength⟩
    rw [hblocks, List.foldl_append, ← hh.chain_eq, ← hh.pending_eq, List.reverse_cons]
    rfl
  · next hwithin =>
    obtain ⟨hblocks, hunfinished⟩ := blocks_concat_within byte hwithin
    refine ⟨hblocks.symm ▸ hh.chain_eq, ?_, hh.length_eq ▸ hlength⟩
    rw [hunfinished, ← hh.pending_eq, List.reverse_cons]

theorem update (hh : h.Took message) (bytes : Bytes) : (h.update bytes).Took (message ++ bytes) := by
  induction bytes generalizing h message with
  | nil => simpa [Hasher.update] using hh
  | cons byte rest ih => simpa [Hasher.update] using ih (hh.feed byte)

theorem finish (hh : h.Took message) : h.finish = wholeHash message := by
  rw [Hasher.finish, (hh.update _).chain_eq, hh.length_eq]
  rfl

end Hasher.Took

theorem hash_eq_wholeHash (message : Bytes) : hash message = wholeHash message :=
  (Hasher.Took.nothing.update message).finish

theorem length_littleEndian (n count : Nat) : (littleEndian n count).length = count := by
  induction count generalizing n with
  | zero => rfl
  | succ count ih => rw [littleEndian, List.length_cons, ih]

theorem length_wholeHash (message : Bytes) : (wholeHash message).length = 16 := by
  simp [wholeHash, Chain.bytes, length_littleEndian]

end Revalidation.Md5
