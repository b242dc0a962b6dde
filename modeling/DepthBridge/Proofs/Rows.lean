import DepthBridge.Dispatch.Depth

/-!
# Clipping row by row

Clipping cuts a depth image into rows of `max (2 w) 2` bytes, clears each row on its own (the
rows may be cleared in parallel) and sums the rows' counts. A row of an even number of bytes
never splits a pixel, so the rows together make one left-to-right sweep over the whole buffer,
whatever the width `w` (`clip_eq_sweep`): the short last row, an odd byte at the end, a width of
zero and a buffer that does not match the image's size all come out the same.

The sweep is then read pair by pair: the buffer's whole little-endian pairs, each cleared or
kept, then the byte after them (`clearRow_eq_pairs`).
-/

namespace DepthBridge
namespace Depth

/-! ## Pairs of a byte list -/

/-- The whole little-endian pairs of a byte list, left to right. -/
def pairs : List UInt8 → List (UInt8 × UInt8)
  | b₀ :: b₁ :: rest => (b₀, b₁) :: pairs rest
  | _ => []

/-- What follows the last whole pair: nothing, or one byte. -/
def leftover : List UInt8 → List UInt8
  | _ :: _ :: rest => leftover rest
  | rest => rest

/-- The 16-bit value of a little-endian pair. -/
def pairValue (p : UInt8 × UInt8) : Nat := p.1.toNat + 256 * p.2.toNat

/-- A pair cleared when its value is above `t`, kept otherwise. -/
def clearPair (t : Nat) (p : UInt8 × UInt8) : List UInt8 :=
  if pairValue p > t then [0, 0] else [p.1, p.2]

/-- A byte list that does not start with a whole pair is empty or a single byte. -/
theorem eq_nil_or_singleton_of_no_pair {rest : List UInt8}
    (h : ∀ b₀ b₁ tail, rest = b₀ :: b₁ :: tail → False) : rest = [] ∨ ∃ b, rest = [b] := by
  match rest, h with
  | [], _ => exact .inl rfl
  | [b], _ => exact .inr ⟨b, rfl⟩
  | _ :: _ :: _, h => exact absurd rfl (h _ _ _)

/-- A byte list is its whole pairs followed by what is left over. -/
theorem flatMap_pairs_append_leftover (bytes : List UInt8) :
    (pairs bytes).flatMap (fun p => [p.1, p.2]) ++ leftover bytes = bytes := by
  fun_induction pairs bytes with
  | case1 b₀ b₁ rest ih =>
    simp only [leftover, List.flatMap_cons, List.cons_append, List.nil_append, ih]
  | case2 rest h =>
    rcases eq_nil_or_singleton_of_no_pair h with rfl | ⟨b, rfl⟩ <;> rfl

theorem length_leftover_lt (bytes : List UInt8) : (leftover bytes).length < 2 := by
  fun_induction leftover bytes with
  | case1 _ _ rest ih => exact ih
  | case2 rest h =>
    rcases eq_nil_or_singleton_of_no_pair h with rfl | ⟨b, rfl⟩ <;> simp

theorem length_eq_pairs (bytes : List UInt8) :
    bytes.length = 2 * (pairs bytes).length + (leftover bytes).length := by
  fun_induction pairs bytes with
  | case1 b₀ b₁ rest ih =>
    simp only [leftover, List.length_cons, ih]
    omega
  | case2 rest h =>
    rcases eq_nil_or_singleton_of_no_pair h with rfl | ⟨b, rfl⟩ <;> rfl

/-- Past its whole pairs, a byte list is what is left over. -/
theorem drop_pairs (bytes : List UInt8) :
    bytes.drop (2 * (pairs bytes).length) = leftover bytes := by
  fun_induction pairs bytes with
  | case1 b₀ b₁ rest ih =>
    simp only [List.length_cons, Nat.mul_succ, List.drop_succ_cons, leftover, ih]
  | case2 rest h =>
    rcases eq_nil_or_singleton_of_no_pair h with rfl | ⟨b, rfl⟩ <;> rfl

theorem length_clearPair (t : Nat) (p : UInt8 × UInt8) : (clearPair t p).length = 2 := by
  unfold clearPair
  split <;> rfl

/-- The value a cleared or kept pair spells. -/
theorem clearPair_value (t : Nat) (p : UInt8 × UInt8) :
    ((clearPair t p).getD 0 0).toNat + 256 * ((clearPair t p).getD 1 0).toNat =
      if pairValue p > t then 0 else pairValue p := by
  unfold clearPair
  split <;> simp [pairValue]

/-! ## One sweep -/

/-- Clearing a row clears or keeps each whole pair in order, keeps the byte after them, and
counts the pairs above `t`. -/
theorem clearRow_eq_pairs (t : Nat) (bytes : List UInt8) :
    clearRow t bytes = ((pairs bytes).flatMap (clearPair t) ++ leftover bytes,
      (pairs bytes).countP fun p => pairValue p > t) := by
  fun_induction clearRow t bytes with
  | case1 b₀ b₁ rest r hv ih =>
    simp [r, ih, pairs, leftover, clearPair, pairValue, hv]
  | case2 b₀ b₁ rest r hv ih =>
    simp [r, ih, pairs, leftover, clearPair, pairValue, hv]
  | case3 rest h =>
    rcases eq_nil_or_singleton_of_no_pair h with rfl | ⟨b, rfl⟩ <;> rfl

/-- A row that ends on a pixel boundary, or is all there is, is cleared apart from what follows
it. -/
theorem clearRow_append (t : Nat) {xs ys : List UInt8} (h : xs.length % 2 = 0 ∨ ys = []) :
    clearRow t (xs ++ ys) =
      ((clearRow t xs).1 ++ (clearRow t ys).1, (clearRow t xs).2 + (clearRow t ys).2) := by
  rcases h with h | rfl
  · fun_induction clearRow t xs with
    | case1 b₀ b₁ rest r hv ih =>
      simp only [List.cons_append, clearRow, hv, ↓reduceIte, r,
        ih (by simp only [List.length_cons] at h; omega)]
      simp only [Nat.add_right_comm]
    | case2 b₀ b₁ rest r hv ih =>
      simp only [List.cons_append, clearRow, hv, ↓reduceIte, r,
        ih (by simp only [List.length_cons] at h; omega)]
    | case3 rest hr =>
      -- a row of even length with no whole pair is empty
      rcases eq_nil_or_singleton_of_no_pair hr with rfl | ⟨b, rfl⟩
      · simp
      · simp at h
  · simp [clearRow]

/-! ## Rows -/

theorem rows_cons (stride : Nat) (hs : 0 < stride) (b : UInt8) (rest : List UInt8) :
    rows stride hs (b :: rest) =
      (b :: rest).take stride :: rows stride hs ((b :: rest).drop stride) := by
  rw [rows]

/-- Rows of an even number of bytes, cleared one by one, give one sweep over the whole buffer:
the bytes it leaves and the pairs it counts. -/
theorem sweep_rows (t : Nat) {stride : Nat} (hs : 0 < stride) (he : stride % 2 = 0)
    (bytes : List UInt8) :
    (((rows stride hs bytes).map (clearRow t)).flatMap (·.1),
      ((rows stride hs bytes).map (clearRow t)).foldr (fun row n => row.2 + n) 0) =
        clearRow t bytes := by
  induction bytes using rows.induct stride hs with
  | case1 => simp [rows, clearRow]
  | case2 b rest ih =>
    -- the first row holds `stride` bytes, an even number, or it is the whole buffer
    have hfirst : ((b :: rest).take stride).length % 2 = 0 ∨ (b :: rest).drop stride = [] := by
      by_cases hl : stride ≤ (b :: rest).length
      · left
        rw [List.length_take, Nat.min_eq_left hl]
        exact he
      · exact Or.inr (List.drop_eq_nil_of_le (by omega))
    conv => rhs; rw [← List.take_append_drop stride (b :: rest), clearRow_append t hfirst, ← ih]
    simp only [rows_cons, List.map_cons, List.flatMap_cons, List.foldr_cons]

/-- Clipping does not depend on the row width: it is one sweep over the whole buffer. -/
theorem clip_eq_sweep (data : ByteArray) (width : UInt32) (scale c : Float32) :
    clip data width scale c =
      if c ≤ 0 ∨ scale ≤ 0 then (data, 0)
      else (⟨(clearRow (clipThreshold c scale) data.data.toList).1.toArray⟩,
        (clearRow (clipThreshold c scale) data.data.toList).2) := by
  by_cases hoff : c ≤ 0 ∨ scale ≤ 0
  · simp [clip, hoff]
  · have hsweep := sweep_rows (clipThreshold c scale)
      (show 0 < max (2 * width.toNat) 2 by omega) (by omega) data.data.toList
    simp only [clip, hoff, ↓reduceIte]
    simp only [not_or] at hoff
    simp only [hoff.1, hoff.2, decide_false, Bool.or_false, Bool.false_eq_true, ↓reduceIte]
    rw [← hsweep]

end Depth
end DepthBridge
