import Netdisk2Blob.Library.Bytes

/-!
# Length-Prefixed Frames

A frame is a payload behind its length in four bytes. A byte string is the frames of a
list of items when every item is encoded as the payload of its frame, where the encoding
may depend on the number of the frame.

## Contents

- `frameBytes`: one frame, and how it is read from the front (`take_frameBytes`,
  `eq_frameBytes_append`)
- `Frames`: the frames of a list, with `imp`, `unique`, `append_iff` and the total length
-/

namespace Netdisk2Blob.Library

/-! ## Section 1: One frame -/

def frameBytes (payload : Bytes) : Bytes := beBytes 4 payload.length ++ payload

@[simp] theorem length_frameBytes (payload : Bytes) :
    (frameBytes payload).length = 4 + payload.length := by
  simp [frameBytes]

section Front

variable {payload : Bytes} (rest : Bytes)

theorem take_frameBytes : (frameBytes payload ++ rest).take 4 = beBytes 4 payload.length := by
  rw [frameBytes, List.append_assoc,
    List.take_append_of_le_length (length_beBytes 4 _).ge,
    List.take_of_length_le (length_beBytes 4 _).le]

theorem drop_frameBytes : (frameBytes payload ++ rest).drop 4 = payload ++ rest := by
  rw [frameBytes, List.append_assoc, List.drop_left' (length_beBytes 4 _)]

end Front

/-- Bytes that start with a length and go on at least that far start with a frame. -/
theorem eq_frameBytes_append {bytes : Bytes} {len : Nat} (hlead : 4 ≤ bytes.length)
    (hlen : ofBeBytes (bytes.take 4) = len) (hrest : len ≤ (bytes.drop 4).length) :
    bytes = frameBytes ((bytes.drop 4).take len) ++ (bytes.drop 4).drop len := by
  have htake : (bytes.take 4).length = 4 := by
    rw [List.length_take]
    omega
  have hpayload : ((bytes.drop 4).take len).length = len := by
    rw [List.length_take]
    omega
  have hbytes : beBytes 4 len = bytes.take 4 := by
    have hround := beBytes_ofBeBytes (bytes.take 4)
    rwa [htake, hlen] at hround
  rw [frameBytes, hpayload, hbytes, List.append_assoc, List.take_append_drop,
    List.take_append_drop]

/-! ## Section 2: The frames of a list -/

variable {α : Type*}

/-- The frames of the items, with numbers from `k` on. -/
inductive Frames (Encodes : Nat → α → Bytes → Prop) : Nat → List α → Bytes → Prop
  | nil (k : Nat) : Frames Encodes k [] []
  | cons {k : Nat} {item : α} {payload rest : Bytes} {items : List α} :
      Encodes k item payload → payload.length ≤ u32Max → Frames Encodes (k + 1) items rest →
      Frames Encodes k (item :: items) (frameBytes payload ++ rest)

namespace Frames

variable {Encodes Encodes' : Nat → α → Bytes → Prop} {k : Nat} {items items' : List α}
  {bytes bytes' : Bytes}

theorem nil_iff : Frames Encodes k [] bytes ↔ bytes = [] := by
  constructor
  · intro h
    cases h
    rfl
  · rintro rfl
    exact nil k

theorem cons_iff {item : α} :
    Frames Encodes k (item :: items) bytes ↔
      ∃ payload rest, Encodes k item payload ∧ payload.length ≤ u32Max ∧
        Frames Encodes (k + 1) items rest ∧ bytes = frameBytes payload ++ rest := by
  constructor
  · intro h
    cases h with
    | cons hitem hlen hrest => exact ⟨_, _, hitem, hlen, hrest, rfl⟩
  · rintro ⟨payload, rest, hitem, hlen, hrest, rfl⟩
    exact cons hitem hlen hrest

theorem items_eq_nil (h : Frames Encodes k items []) : items = [] := by
  generalize hbytes : ([] : Bytes) = bytes at h
  cases h with
  | nil => rfl
  | cons =>
    have hlen := congrArg List.length hbytes
    rw [List.length_append, length_frameBytes, List.length_nil] at hlen
    omega

/-- Frames under one encoding are frames under another that follows from it for the items
at their numbers. -/
theorem imp (h : Frames Encodes k items bytes)
    (himp : ∀ j item payload, items[j]? = some item → Encodes (k + j) item payload →
      Encodes' (k + j) item payload) :
    Frames Encodes' k items bytes := by
  induction h with
  | nil k => exact nil k
  | @cons k item payload rest items hitem hlen _ ih =>
    apply cons (himp 0 item payload rfl hitem) hlen
    apply ih
    intro j item payload hget hencodes
    have hindex : k + (j + 1) = k + 1 + j := by omega
    have hnext := himp (j + 1) item payload hget
    rw [hindex] at hnext
    exact hnext hencodes

/-- A functional encoding has one way to frame a list. -/
theorem unique
    (hfun : ∀ {j item payload payload'}, Encodes j item payload → Encodes j item payload' →
      payload = payload')
    (h : Frames Encodes k items bytes) (h' : Frames Encodes k items bytes') : bytes = bytes' := by
  induction h generalizing bytes' with
  | nil k => exact (nil_iff.mp h').symm
  | cons hitem _ _ ih =>
    obtain ⟨payload', rest', hitem', -, hrest', rfl⟩ := cons_iff.mp h'
    rw [hfun hitem hitem', ih hrest']

/-- The frames of a list in two parts. -/
theorem append_iff :
    Frames Encodes k (items ++ items') bytes ↔
      ∃ front back, bytes = front ++ back ∧ Frames Encodes k items front ∧
        Frames Encodes (k + items.length) items' back := by
  induction items generalizing k bytes with
  | nil =>
    constructor
    · intro h
      exact ⟨[], bytes, rfl, nil k, h⟩
    · rintro ⟨front, back, rfl, hfront, hback⟩
      rw [nil_iff.mp hfront]
      exact hback
  | cons item items ih =>
    have hindex : k + (item :: items).length = k + 1 + items.length := by
      rw [List.length_cons]
      omega
    rw [List.cons_append, cons_iff, hindex]
    constructor
    · rintro ⟨payload, rest, hitem, hlen, hrest, rfl⟩
      obtain ⟨front, back, rfl, hfront, hback⟩ := ih.mp hrest
      exact ⟨frameBytes payload ++ front, back, (List.append_assoc _ _ _).symm,
        cons hitem hlen hfront, hback⟩
    · rintro ⟨front, back, rfl, hfront, hback⟩
      obtain ⟨payload, rest, hitem, hlen, hrest, rfl⟩ := cons_iff.mp hfront
      exact ⟨payload, rest ++ back, hitem, hlen, ih.mpr ⟨rest, back, rfl, hrest, hback⟩,
        List.append_assoc _ _ _⟩

/-- Items that can all be encoded can be framed. -/
theorem exists_frames
    (h : ∀ j, ∀ item ∈ items, ∃ payload, Encodes j item payload ∧ payload.length ≤ u32Max) :
    ∃ bytes, Frames Encodes k items bytes := by
  induction items generalizing k with
  | nil => exact ⟨[], nil k⟩
  | cons item items ih =>
    obtain ⟨payload, hitem, hlen⟩ := h k item (List.mem_cons_self ..)
    obtain ⟨rest, hrest⟩ := @ih (k + 1) (fun j item hmem => h j item (List.mem_cons_of_mem _ hmem))
    exact ⟨_, cons hitem hlen hrest⟩

/-- The total length, when a payload is `overhead` longer than its item. -/
theorem length_eq {β : Type*} {Encodes : Nat → List β → Bytes → Prop} {items : List (List β)}
    {overhead : Nat}
    (hlen : ∀ {j item payload}, Encodes j item payload →
      payload.length = item.length + overhead)
    (h : Frames Encodes k items bytes) :
    bytes.length = items.flatten.length + items.length * (4 + overhead) := by
  induction h with
  | nil k => simp
  | cons hitem _ _ ih =>
    rw [List.length_append, length_frameBytes, hlen hitem, ih, List.flatten_cons,
      List.length_append, List.length_cons, Nat.succ_mul]
    omega

/-- Items that are looked up in a list by their numbers are a piece of it. -/
theorem eq_take_drop {source : List α} (h : Frames Encodes k items bytes)
    (hsource : ∀ {j item payload}, Encodes j item payload → source[j]? = some item) :
    items = (source.drop k).take items.length := by
  induction h with
  | nil k => rfl
  | @cons k item payload rest items hitem _ _ ih =>
    obtain ⟨hlt, hget⟩ := List.getElem?_eq_some_iff.mp (hsource hitem)
    rw [List.length_cons, List.drop_eq_getElem_cons hlt, List.take_succ_cons, ← ih, hget]

end Frames

end Netdisk2Blob.Library
