import Revalidation.Digest.Md5

/-!
# Entity tags

The entity tag of a body is made from the digest of its bytes, so equal bodies have equal tags.  A
body can be given whole or as a stream that is read piece by piece.
-/

namespace Revalidation.EntityTag

def hex (bytes : Bytes) : String :=
  String.ofList (bytes.flatMap fun b => [Nat.digitChar (b.toNat / 16), Nat.digitChar (b.toNat % 16)])

/-- The strong entity tag of a digest: a fixed mark and the digest between double quotes. -/
def ofDigest (digest : Bytes) : String := "\"0" ++ hex digest ++ "\""

def ofBytes (body : Bytes) : String := ofDigest (Md5.hash body)

def readSize : Nat := 8192

/-- Reads at most `limit` bytes from the chunks a stream still holds.  A read never goes beyond one
chunk, and a stream without chunks gives no bytes. -/
def read (limit : Nat) : List Bytes → Bytes × List Bytes
  | [] => ([], [])
  | chunk :: rest =>
    if chunk.length ≤ limit then (chunk, rest) else (chunk.take limit, chunk.drop limit :: rest)

def remaining (chunks : List Bytes) : Nat := chunks.flatten.length

theorem remaining_read_lt {limit : Nat} {chunks : List Bytes} (hlimit : 0 < limit)
    (h : (read limit chunks).1 ≠ []) :
    remaining (read limit chunks).2 < remaining chunks := by
  cases chunks with
  | nil => exact absurd rfl h
  | cons chunk rest =>
      by_cases hc : chunk.length ≤ limit
      · simp only [read, hc, if_true] at h ⊢
        have hpos : 0 < chunk.length := List.length_pos_iff.2 h
        simp [remaining]
        omega
      · simp only [read, hc, if_false]
        simp [remaining]
        omega

/-- Feeds a stream to a hasher until a read gives no bytes; also gives the length of every read. -/
def digestStream (hasher : Md5.Hasher) (chunks : List Bytes) : Md5.Hasher × List Nat :=
  if _h : (read readSize chunks).1 = [] then (hasher, [0])
  else
    let piece := (read readSize chunks).1
    let (result, lengths) := digestStream (hasher.update piece) (read readSize chunks).2
    (result, piece.length :: lengths)
termination_by remaining chunks
decreasing_by exact remaining_read_lt (by decide) (by assumption)

def ofStream (chunks : List Bytes) : String := ofDigest (digestStream {} chunks).1.finish

def readLengths (chunks : List Bytes) : List Nat := (digestStream {} chunks).2

end Revalidation.EntityTag
