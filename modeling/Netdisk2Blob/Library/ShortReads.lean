import Netdisk2Blob.Library.Bytes

/-!
# Readers with Short Reads

A reader over a byte string whose reads may give less than the buffer holds. A read at
the end of the content gives nothing; any other read gives at least one byte. How much a
read gives is up to the reader and differs from one read to the next.

## Contents

- `ShortReader.read`: one read
- `ShortReader.reads`: the reads up to the end of the content (`flatten_reads`)
- `ShortReader.readExact`: reads until the buffer is full; it depends on the content and
  not on how the reads are split (`readExact_of_le`, `readExact_of_lt`)
-/

namespace Netdisk2Blob.Library

/-- The bytes that are left, and the size that each of the next reads gives at most. -/
structure ShortReader where
  content : Bytes
  limit : Nat → Nat

namespace ShortReader

def read (reader : ShortReader) (buffer : Nat) : Bytes × ShortReader :=
  let count := min buffer (max 1 (reader.limit 0))
  (reader.content.take count, ⟨reader.content.drop count, fun k => reader.limit (k + 1)⟩)

/-! ## Section 1: One read -/

section Read

variable {reader : ShortReader} {buffer : Nat}

theorem read_append (reader : ShortReader) (buffer : Nat) :
    (reader.read buffer).1 ++ (reader.read buffer).2.content = reader.content :=
  List.take_append_drop _ _

theorem read_length_le (reader : ShortReader) (buffer : Nat) :
    (reader.read buffer).1.length ≤ buffer := by
  simp [read]

/-- A read gives nothing at the end of the content and nowhere else. -/
theorem read_eq_nil_iff (hbuffer : 0 < buffer) :
    (reader.read buffer).1 = [] ↔ reader.content = [] := by
  have hcount : min buffer (max 1 (reader.limit 0)) ≠ 0 := by omega
  simp [read, List.take_eq_nil_iff, hcount]

end Read

/-! ## Section 2: Reading to the end -/

/-- What the reads into a buffer give until one gives nothing. -/
def reads (reader : ShortReader) (buffer : Nat) : List Bytes :=
  if (reader.read buffer).1 = [] then []
  else (reader.read buffer).1 :: reads (reader.read buffer).2 buffer
termination_by reader.content.length
decreasing_by
  rename_i hread
  have hpos := List.length_pos_of_ne_nil hread
  have hlength := congrArg List.length (read_append reader buffer)
  rw [List.length_append] at hlength
  omega

section Reads

variable {buffer : Nat}

theorem reads_of_nil {reader : ShortReader} (h : (reader.read buffer).1 = []) :
    reader.reads buffer = [] := by
  rw [reads, if_pos h]

theorem reads_of_ne_nil {reader : ShortReader} (h : (reader.read buffer).1 ≠ []) :
    reader.reads buffer = (reader.read buffer).1 :: (reader.read buffer).2.reads buffer := by
  rw [reads, if_neg h]

theorem flatten_reads (hbuffer : 0 < buffer) (reader : ShortReader) :
    (reader.reads buffer).flatten = reader.content := by
  -- induction on the reads
  induction reader using reads.induct buffer with
  | case1 reader hread =>
    rw [reads_of_nil hread, (read_eq_nil_iff hbuffer).mp hread]
    rfl
  | case2 reader hread ih =>
    rw [reads_of_ne_nil hread, List.flatten_cons, ih, read_append]

theorem ne_nil_of_mem_reads {reader : ShortReader} {bytes : Bytes}
    (h : bytes ∈ reader.reads buffer) : bytes ≠ [] := by
  induction reader using reads.induct buffer with
  | case1 reader hread =>
    rw [reads_of_nil hread] at h
    cases h
  | case2 reader hread ih =>
    rw [reads_of_ne_nil hread] at h
    rcases List.mem_cons.mp h with rfl | hrest
    · exact hread
    · exact ih hrest

end Reads

/-! ## Section 3: Filling a buffer -/

/-- Fill a buffer of this size; `none` when the content ends before it is full. -/
def readExact (reader : ShortReader) (wanted : Nat) : Option Bytes × ShortReader :=
  if wanted = 0 then (some [], reader)
  else if (reader.read wanted).1 = [] then (none, (reader.read wanted).2)
  else
    let (rest, last) := readExact (reader.read wanted).2 (wanted - (reader.read wanted).1.length)
    (rest.map ((reader.read wanted).1 ++ ·), last)
termination_by wanted
decreasing_by
  rename_i hwanted hread
  have hpos := List.length_pos_of_ne_nil hread
  omega

theorem readExact_zero (reader : ShortReader) : reader.readExact 0 = (some [], reader) := by
  rw [readExact, if_pos rfl]

/-- A buffer that the content can fill holds the front of the content. -/
theorem readExact_of_le {reader : ShortReader} {wanted : Nat}
    (h : wanted ≤ reader.content.length) :
    ∃ limit, reader.readExact wanted =
      (some (reader.content.take wanted), ⟨reader.content.drop wanted, limit⟩) := by
  -- induction on the part of the buffer that is still empty
  induction wanted using Nat.strong_induction_on generalizing reader with
  | _ wanted ih =>
    by_cases hwanted : wanted = 0
    · subst hwanted
      exact ⟨reader.limit, by rw [readExact_zero]; simp⟩
    · have happend := read_append reader wanted
      have hle := read_length_le reader wanted
      have hread : (reader.read wanted).1 ≠ [] := by
        intro hnil
        have hcontent := (read_eq_nil_iff (Nat.pos_of_ne_zero hwanted)).mp hnil
        rw [hcontent] at h
        exact hwanted (Nat.le_zero.mp h)
      have hpos := List.length_pos_of_ne_nil hread
      have hlength := congrArg List.length happend
      rw [List.length_append] at hlength
      have hfits : wanted - (reader.read wanted).1.length ≤ (reader.read wanted).2.content.length := by
        omega
      obtain ⟨limit, hrest⟩ := ih _ (by omega) hfits
      refine ⟨limit, ?_⟩
      rw [readExact, if_neg hwanted, if_neg hread, hrest]
      rw [← happend, List.take_append, List.take_of_length_le hle, List.drop_append,
        List.drop_of_length_le hle]
      rfl

/-- A buffer of the size of the front of the content. -/
theorem readExact_append {reader : ShortReader} {front rest : Bytes}
    (h : reader.content = front ++ rest) :
    ∃ limit, reader.readExact front.length = (some front, ⟨rest, limit⟩) := by
  have hle : front.length ≤ reader.content.length := by
    rw [h, List.length_append]
    omega
  obtain ⟨limit, hread⟩ := readExact_of_le hle
  rw [h, List.take_left, List.drop_left] at hread
  exact ⟨limit, hread⟩

theorem readExact_of_lt {reader : ShortReader} {wanted : Nat}
    (h : reader.content.length < wanted) : (reader.readExact wanted).1 = none := by
  induction wanted using Nat.strong_induction_on generalizing reader with
  | _ wanted ih =>
    have hwanted : wanted ≠ 0 := by omega
    rw [readExact, if_neg hwanted]
    split_ifs with hread
    · rfl
    · have hpos := List.length_pos_of_ne_nil hread
      have hlength := congrArg List.length (read_append reader wanted)
      have hle := read_length_le reader wanted
      rw [List.length_append] at hlength
      have hshort : (reader.read wanted).2.content.length < wanted - (reader.read wanted).1.length := by
        omega
      have hrest := ih _ (by omega) hshort
      simp only [hrest, Option.map_none]

/-- A buffer that was filled. -/
theorem readExact_eq_some {reader last : ShortReader} {wanted : Nat} {bytes : Bytes}
    (h : reader.readExact wanted = (some bytes, last)) :
    reader.content = bytes ++ last.content ∧ bytes.length = wanted := by
  by_cases hle : wanted ≤ reader.content.length
  · obtain ⟨limit, hread⟩ := readExact_of_le hle
    rw [hread] at h
    obtain ⟨hbytes, rfl⟩ := Prod.mk.inj h
    obtain rfl := Option.some.inj hbytes
    exact ⟨(List.take_append_drop _ _).symm, List.length_take_of_le hle⟩
  · have hnone := readExact_of_lt (not_le.mp hle)
    rw [h] at hnone
    cases hnone

end ShortReader

end Netdisk2Blob.Library
