import DepthBridge.Dispatch.State
import DepthBridge.Device.Simulated
import DepthBridge.Proofs.Rows

/-!
# Clipped depth images and the blocks that carry them

A depth image is a run of little-endian 16-bit values (`Depth.values`). Clipping with a positive
distance clears every value above the distance's threshold, so the clipped image is
`Depth.Within` the threshold (`Depth.within_clip`); the dispatcher clips a depth frame of 2-byte
pixels only when it is in the 16-bit format (`Dispatcher.withinClip_clip`).

After clipping, a frameset goes through the processing pipeline. Of the blocks the simulated
camera offers, decimation only copies whole values of the image it shrinks, and the colorizer
and the point cloud append frames of other pixel sizes, so a pipeline of them keeps every frame
within the threshold (`Pipeline.process_withinClip`). The loops of decimation are followed by
invariants of `forIn`, `mapM` and `foldlM` over computations that may refuse.
-/

namespace DepthBridge

open Float.Model in
/-- A positive float is no more than zero: its unpacked form is a positive infinity or a
positive finite value. -/
theorem Float32.not_le_zero_of_pos {c : Float32} (h : 0 < c) : ¬ c ≤ 0 := by
  change (0 : Float32).lt c = true at h
  change ¬ (c.le 0 = true)
  unfold Float32.lt at h
  unfold Float32.le
  simp only [decide_eq_true_eq] at h ⊢
  change (Float32.toModel 0).unpack.lt c.toModel.unpack = true at h
  change ¬ (c.toModel.unpack.le (Float32.toModel 0).unpack = true)
  have h0 : (Float32.toModel 0).unpack = .zero .positive := by rfl
  rw [h0] at h ⊢
  generalize c.toModel.unpack = u at h ⊢
  -- each comparison with zero is settled by the signs alone
  cases u with
  | notANumber => cases h
  | zero s => cases h
  | infinity s =>
    cases s with
    | positive =>
      intro h'
      cases h'
    | negative => cases h
  | finite s m e hm =>
    cases s with
    | positive =>
      intro h'
      cases h'
    | negative => cases h

namespace Depth

/-- The 16-bit values of a depth image: its whole little-endian pairs. -/
def values (data : ByteArray) : List Nat := (List.range (data.size / 2)).map (valueAt data)

/-- No value of the image is above `t`. -/
def Within (t : Nat) (data : ByteArray) : Prop := ∀ x ∈ values data, x ≤ t

section chunks

variable {α β : Type} {g : α → List β}

theorem length_flatMap_two (hg : ∀ a, (g a).length = 2) (l : List α) :
    (l.flatMap g).length = 2 * l.length := by
  induction l with
  | nil => rfl
  | cons a rest ih => rw [List.flatMap_cons, List.length_append, hg, ih, List.length_cons]; omega

/-- In a list of chunks of two, entry `2 i + j` is entry `j` of chunk `i`. -/
theorem getElem?_flatMap_two (hg : ∀ a, (g a).length = 2) :
    ∀ (l : List α) (i j : Nat) (hi : i < l.length), j < 2 →
      (l.flatMap g)[2 * i + j]? = (g l[i])[j]?
  | [], i, _, hi, _ => absurd hi (Nat.not_lt_zero i)
  | a :: rest, 0, j, _, hj => by
    rw [List.flatMap_cons, List.getElem?_append_left (by rw [hg]; omega)]
    simp
  | a :: rest, i + 1, j, hi, hj => by
    rw [List.flatMap_cons, List.getElem?_append_right (by rw [hg]; omega), hg,
      show 2 * (i + 1) + j - 2 = 2 * i + j by omega, List.getElem_cons_succ]
    exact getElem?_flatMap_two hg rest i j (by simpa using hi) hj

end chunks

/-- An image of 2-byte chunks, and maybe one byte more, holds the values its chunks spell. -/
theorem values_flatMap_two {α : Type} {g : α → List UInt8} (hg : ∀ a, (g a).length = 2)
    (l : List α) {tail : List UInt8} (ht : tail.length < 2) :
    values ⟨(l.flatMap g ++ tail).toArray⟩ =
      l.map fun a => ((g a).getD 0 0).toNat + 256 * ((g a).getD 1 0).toNat := by
  have hsize : (⟨(l.flatMap g ++ tail).toArray⟩ : ByteArray).size / 2 = l.length := by
    rw [← ByteArray.size_data, List.size_toArray, List.length_append, length_flatMap_two hg]
    omega
  apply List.ext_getElem
  · simp [values, hsize]
  · intro i h₁ h₂
    have hi : i < l.length := by simpa using h₂
    have hbyte (j : Nat) (hj : j < 2) :
        (l.flatMap g ++ tail)[2 * i + j]? = (g l[i])[j]? := by
      rw [List.getElem?_append_left (by rw [length_flatMap_two hg]; omega)]
      exact getElem?_flatMap_two hg l i j hi hj
    have h0 := hbyte 0 (by omega)
    have h1 := hbyte 1 (by omega)
    simp only [Nat.add_zero] at h0
    simp [values, valueAt, List.getD_eq_getElem?_getD, h0, h1]

/-- A camera whose depth unit is the millimeter has its images published as they are. -/
theorem fixScale_millimeter (data : ByteArray) : fixScale data 0.001 = data := by
  have h : isMillimeter 0.001 = true := by decide +kernel
  simp only [fixScale, toMillimeters, h, ↓reduceIte, Option.getD_none]

/-- A distance in depth units is a 16-bit value. -/
theorem units_lt (meters depthScale : Float32) : units meters depthScale < 65536 := by
  unfold units
  generalize Rounding.ofSingle (meters / depthScale) = e
  cases e with
  | nan => decide
  | infinite negative => cases negative <;> decide
  | finite negative m q =>
    simp only [Rounding.Exact.nearestIn, Rounding.signedIn]
    omega

/-- The value the two bytes of `pairOf v` spell is `v` modulo `2^16`. -/
theorem pairOf_value (v : Nat) :
    ((pairOf v).getD 0 0).toNat + 256 * ((pairOf v).getD 1 0).toNat = v % 65536 := by
  simp [pairOf]
  omega

/-- The values of a buffer are those of its whole pairs. -/
theorem values_eq_map_pairValue (data : ByteArray) :
    values data = (pairs data.data.toList).map pairValue := by
  obtain ⟨arr⟩ := data
  have h := values_flatMap_two (g := fun p : UInt8 × UInt8 => [p.1, p.2]) (fun _ => rfl)
    (pairs arr.toList) (length_leftover_lt arr.toList)
  rw [flatMap_pairs_append_leftover, Array.toArray_toList] at h
  rw [h]
  exact List.map_congr_left fun p _ => by simp [pairValue]

/-- With clipping on, the clipped buffer holds the values of the buffer, each one above the
threshold cleared. -/
theorem values_clip (data : ByteArray) (width : UInt32) {scale c : Float32}
    (hon : ¬ (c ≤ 0 ∨ scale ≤ 0)) :
    values (clip data width scale c).1 =
      (values data).map fun v => if v > clipThreshold c scale then 0 else v := by
  rw [clip_eq_sweep, if_neg hon, clearRow_eq_pairs,
    values_flatMap_two (length_clearPair _) _ (length_leftover_lt _), values_eq_map_pairValue,
    List.map_map]
  exact List.map_congr_left fun p _ => clearPair_value _ p

/-- With clipping on, no value of a clipped image is above the threshold. -/
theorem within_clip (data : ByteArray) (width : UInt32) {scale c : Float32} (hc : ¬ c ≤ 0)
    (hs : ¬ scale ≤ 0) : Within (clipThreshold c scale) (clip data width scale c).1 := by
  intro x hx
  rw [values_clip data width (not_or.2 ⟨hc, hs⟩)] at hx
  obtain ⟨v, -, rfl⟩ := List.mem_map.1 hx
  -- a value above the threshold is cleared, any other kept
  split <;> omega

/-- Clipping, whatever the width of its rows, is one pass over the whole buffer. With clipping
off the buffer comes back as it is, with a count of zero. With clipping on, each whole
little-endian pair from the start of the buffer is cleared when its value is above the
threshold and kept otherwise, the byte after the last whole pair is kept, and the count is the
number of values cleared. -/
theorem clip_clears_values_above (data : ByteArray) (width : UInt32) (scale c : Float32) :
    (c ≤ 0 ∨ scale ≤ 0 → clip data width scale c = (data, 0)) ∧
    (¬ (c ≤ 0 ∨ scale ≤ 0) →
      (clip data width scale c).1.size = data.size ∧
      values (clip data width scale c).1 =
        (values data).map (fun v => if v > clipThreshold c scale then 0 else v) ∧
      (clip data width scale c).1.data.toList.drop (data.size / 2 * 2) =
        data.data.toList.drop (data.size / 2 * 2) ∧
      (clip data width scale c).2 = (values data).countP (· > clipThreshold c scale)) := by
  refine ⟨fun hoff => by rw [clip_eq_sweep, if_pos hoff], fun hon => ?_⟩
  -- the buffer is its whole pairs and the byte after them; clipping rewrites only the pairs
  have hlen : data.size =
      2 * (pairs data.data.toList).length + (leftover data.data.toList).length := by
    rw [← length_eq_pairs, Array.length_toList, ByteArray.size_data]
  have hpairs : data.size / 2 * 2 = 2 * (pairs data.data.toList).length := by
    have := length_leftover_lt data.data.toList
    omega
  have hclip := clip_eq_sweep data width scale c
  rw [if_neg hon, clearRow_eq_pairs] at hclip
  refine ⟨?_, values_clip data width hon, ?_, ?_⟩
  · rw [hclip, ← ByteArray.size_data]
    dsimp only
    rw [List.size_toArray, List.length_append, length_flatMap_two (length_clearPair _), hlen]
  · rw [hclip]
    dsimp only
    rw [List.toList_toArray, hpairs, drop_pairs,
      List.drop_left' (by rw [length_flatMap_two (length_clearPair _)])]
  · rw [hclip, values_eq_map_pairValue, List.countP_map]
    rfl

end Depth

/-- The frame's pixels hold no value above `t`, when it is a depth frame of 2-byte pixels. -/
def Frame.WithinClip (t : Nat) (f : Frame) : Prop :=
  f.kind = .depth → ∀ v ∈ f.video?, v.bpp = 2 → Depth.Within t v.data

/-- A depth frame of 2-byte pixels is in the 16-bit depth format. -/
def Frame.DepthIsZ16 (f : Frame) : Prop :=
  f.kind = .depth → ∀ v ∈ f.video?, v.bpp = 2 → f.format = .z16

instance (f : Frame) : Decidable f.DepthIsZ16 :=
  @forall_prop_decidable _ _ _ fun _ =>
    @Option.decidableForallMem _ _ (fun _ => @forall_prop_decidable _ _ _ fun _ => decEq _ _) f.video?

theorem Frame.withinClip_of_video?_eq_none {f : Frame} (t : Nat) (h : f.video? = none) :
    f.WithinClip t := by
  intro _ v hv
  rw [h] at hv
  cases hv

/-- Clipping leaves every depth frame of 2-byte pixels within the threshold, when clipping is
on and such frames are in the 16-bit format. -/
theorem Dispatcher.withinClip_clip {β : Type} (d : Dispatcher β) {f : Frame}
    (hc : ¬ d.clipDistance ≤ 0) (hs : ¬ d.depthScale ≤ 0) (hf : f.DepthIsZ16) :
    (d.clip f).WithinClip (Depth.clipThreshold d.clipDistance d.depthScale) := by
  unfold Dispatcher.clip
  by_cases hz : f.isDepthZ16 = true
  · simp only [hc, hz, decide_false, Bool.not_true, Bool.or_false, Bool.false_eq_true, ↓reduceIte]
    split
    next v hp =>
      intro _ v' hv' _
      simp only [Frame.video?, Option.mem_def, Option.some.injEq] at hv'
      subst hv'
      exact Depth.within_clip v.data v.width hc hs
    next hp =>
      apply Frame.withinClip_of_video?_eq_none
      unfold Frame.video?
      split <;> simp_all
  · -- a frame left alone is no 16-bit depth frame, so no depth frame of 2-byte pixels
    simp only [hz, Bool.not_false, Bool.or_true, ↓reduceIte]
    intro hk v hv hb
    exact absurd (by simp [Frame.isDepthZ16, hk, hf hk v hv hb]) hz

/-! ## Loops and binds of computations that may halt -/

theorem exists_of_bind_eq_ok {ε α γ : Type} {x : Except ε α} {f : α → Except ε γ} {b : γ}
    (h : x >>= f = .ok b) : ∃ a, x = .ok a ∧ f a = .ok b := by
  cases x with
  | error e => cases h
  | ok a => exact ⟨a, rfl, h⟩

/-- What every step of a loop keeps, the loop keeps. -/
theorem forIn_preserves {ε α γ : Type} (P : γ → Prop) {f : α → γ → Except ε (ForInStep γ)}
    (hf : ∀ a b r, P b → f a b = .ok r → P r.value) :
    ∀ (xs : List α) (b r : γ), P b → forIn xs b f = .ok r → P r
  | [], b, r, hb, h => by
    rw [List.forIn_nil] at h
    cases h
    exact hb
  | a :: rest, b, r, hb, h => by
    rw [List.forIn_cons] at h
    obtain ⟨s, hs, h⟩ := exists_of_bind_eq_ok h
    have hs' := hf a b s hb hs
    cases s with
    | done b' =>
      cases h
      exact hs'
    | yield b' => exact forIn_preserves P hf rest b' r hs' h

/-! ## Decimation -/

namespace Block

theorem depthIntrinsics_eq_some {f : Frame} {v : VideoBuffer} {k : Intrinsics}
    (h : depthIntrinsics f = some (v, k)) : f.video? = some v := by
  unfold depthIntrinsics at h
  split at h
  · split at h
    next v' k' hv hk =>
      cases h
      exact hv
    · cases h
  · cases h

/-- Two bytes cut from an image are a pair of it. -/
theorem slice_two {data : ByteArray} {start : Nat} {l : List UInt8}
    (h : slice data start 2 = .ok l) :
    start + 2 ≤ data.size ∧ l = [data.data.getD start 0, data.data.getD (start + 1) 0] := by
  unfold slice at h
  split at h
  · cases h
  split at h
  · cases h
  next hend =>
    cases h
    exact ⟨by omega, rfl⟩

/-- The pair of bytes of value `m` of an image. -/
def pairAt (data : ByteArray) (m : Nat) : List UInt8 :=
  [data.data.getD (2 * m) 0, data.data.getD (2 * m + 1) 0]

/-- Bytes made of whole pairs of an image. -/
def PairsOf (data : ByteArray) (bytes : List UInt8) : Prop :=
  ∃ ms : List Nat, (∀ m ∈ ms, m < data.size / 2) ∧ bytes = ms.flatMap (pairAt data)

theorem PairsOf.append {data : ByteArray} {bytes : List UInt8} (h : PairsOf data bytes)
    {m : Nat} (hm : m < data.size / 2) : PairsOf data (bytes ++ pairAt data m) := by
  obtain ⟨ms, hms, rfl⟩ := h
  refine ⟨ms ++ [m], fun m' hm' => ?_, by simp⟩
  rcases List.mem_append.1 hm' with h | h
  · exact hms m' h
  · rw [List.mem_singleton.1 h]
    exact hm

/-- The values of an image made of whole pairs of another are values of that one. -/
theorem PairsOf.values_subset {data : ByteArray} {bytes : List UInt8} (h : PairsOf data bytes) :
    ∀ x ∈ Depth.values ⟨bytes.toArray⟩, x ∈ Depth.values data := by
  obtain ⟨ms, hms, rfl⟩ := h
  intro x hx
  rw [← List.append_nil (ms.flatMap (pairAt data)),
    Depth.values_flatMap_two (fun _ => rfl) ms (by simp)] at hx
  obtain ⟨m, hm, rfl⟩ := List.mem_map.1 hx
  exact List.mem_map.2 ⟨m, List.mem_range.2 (hms m hm), rfl⟩

/-- A decimated frame keeps the stream and the pixel size of the frame, and a decimated image of
2-byte pixels only holds values of the image. -/
theorem decimate_values {n : Nat} {frame smaller : Frame}
    (h : decimate n frame = .ok (some smaller)) :
    smaller.kind = frame.kind ∧ ∃ v ∈ frame.video?, ∃ v' ∈ smaller.video?, v'.bpp = v.bpp ∧
      (v.bpp = 2 → ∀ x ∈ Depth.values v'.data, x ∈ Depth.values v.data) := by
  unfold decimate at h
  split at h
  · cases h
  next video k hk =>
    dsimp only at h
    obtain ⟨_, -, h⟩ := exists_of_bind_eq_ok h
    obtain ⟨data, hloop, h⟩ := exists_of_bind_eq_ok h
    obtain ⟨scaled, -, h⟩ := exists_of_bind_eq_ok h
    cases h
    refine ⟨rfl, video, depthIntrinsics_eq_some hk, _, rfl, rfl, fun hb => ?_⟩
    -- the loops only ever append pairs of the image, at even offsets for 2-byte pixels
    have hb' : video.bpp.toNat = 2 := by rw [hb]; rfl
    refine PairsOf.values_subset (forIn_preserves (PairsOf video.data) ?_ _ _ _ ⟨[], by simp⟩ hloop)
    intro y b r hp hr
    obtain ⟨stride, hstride, hr⟩ := exists_of_bind_eq_ok hr
    obtain ⟨b', hinner, hr⟩ := exists_of_bind_eq_ok hr
    cases hr
    refine forIn_preserves (PairsOf video.data) ?_ _ _ _ hp hinner
    intro x c r' hc hr'
    obtain ⟨bytes, hslice, hr'⟩ := exists_of_bind_eq_ok hr'
    cases hr'
    rw [hb'] at hslice
    obtain ⟨hend, rfl⟩ := slice_two hslice
    have hs : stride = video.width.toNat * 2 := by
      unfold VideoBuffer.stride Checked.mulU32 at hstride
      split at hstride
      · cases hstride
      · cases hstride
        rw [hb']
    -- the offset is twice the index of the pair it starts
    obtain ⟨m, hm⟩ : ∃ m, y * n * stride + x * n * 2 = 2 * m :=
      ⟨y * n * video.width.toNat + x * n, by
        rw [hs, ← Nat.mul_assoc, Nat.mul_add, Nat.mul_comm 2, Nat.mul_comm 2]⟩
    rw [hm] at hend ⊢
    exact hc.append (by omega)

end Block

/-! ## The blocks of the simulated camera -/

namespace Checked

theorem exists_of_bind {α γ : Type} {x : Checked α} {f : α → Checked γ} {b : γ}
    (h : (x >>= f).run = .ok (.ok b)) : ∃ a, x.run = .ok (.ok a) ∧ (f a).run = .ok (.ok b) := by
  rw [ExceptT.run_bind] at h
  obtain ⟨r, hr, h⟩ := exists_of_bind_eq_ok h
  cases r with
  | ok a => exact ⟨a, hr, h⟩
  | error e => cases h

/-- Each result of a map is related to its source as every step relates them. -/
theorem mapM_preserves {α γ : Type} {g : α → Checked γ} {P : α → Prop} {Q : γ → Prop}
    (hg : ∀ a b, P a → (g a).run = .ok (.ok b) → Q b) :
    ∀ (xs : List α) (ys : List γ), (∀ a ∈ xs, P a) → (xs.mapM g).run = .ok (.ok ys) →
      ∀ b ∈ ys, Q b
  | [], ys, _, h => by
    cases h
    simp
  | a :: rest, ys, hxs, h => by
    rw [List.mapM_cons] at h
    obtain ⟨b, hb, h⟩ := exists_of_bind h
    obtain ⟨bs, hbs, h⟩ := exists_of_bind h
    cases h
    intro y hy
    rcases List.mem_cons.1 hy with rfl | hy
    · exact hg a y (hxs a List.mem_cons_self) hb
    · exact mapM_preserves hg rest bs (fun a' ha' => hxs a' (List.mem_cons_of_mem a ha')) hbs y hy

/-- What every step of a fold keeps, the fold keeps. -/
theorem foldlM_preserves {α γ : Type} (P : γ → Prop) {f : γ → α → Checked γ} :
    ∀ (xs : List α), (∀ b a r, a ∈ xs → P b → (f b a).run = .ok (.ok r) → P r) →
      ∀ (b r : γ), P b → (xs.foldlM f b).run = .ok (.ok r) → P r
  | [], _, b, r, hb, h => by
    cases h
    exact hb
  | a :: rest, hf, b, r, hb, h => by
    rw [List.foldlM_cons] at h
    obtain ⟨b', hb', h⟩ := exists_of_bind h
    refine foldlM_preserves P rest (fun b a r ha => hf b a r (List.mem_cons_of_mem _ ha)) b' r ?_ h
    exact hf b a b' List.mem_cons_self hb hb'

end Checked

/-- Every frame of the frameset is within `t`. -/
def Frameset.WithinClip (t : Nat) (s : Frameset) : Prop := ∀ f ∈ s.frames, f.WithinClip t

/-- A block the simulated camera offers for a pipeline stage. -/
def Block.OfSimulated (b : Block) : Prop := ∃ c tag, Simulated.block c tag = some b

namespace Block

variable {t : Nat}

theorem decimate_withinClip {n : Nat} {frame smaller : Frame}
    (h : decimate n frame = .ok (some smaller)) (hf : frame.WithinClip t) : smaller.WithinClip t := by
  obtain ⟨hk, v, hv, v', hv', hb, hvals⟩ := decimate_values h
  intro hd w hw hwb
  rw [hv'] at hw
  cases hw
  rw [hb] at hwb
  exact fun x hx => hf (hk ▸ hd) v hv hwb x (hvals hwb x hx)

/-- A frame that carries no 2-byte pixels is within any threshold. -/
theorem withinClip_of_bpp {f : Frame} {v : VideoBuffer} (hv : f.video? = some v) (hb : v.bpp ≠ 2) :
    f.WithinClip t := by
  intro _ w hw hwb
  rw [hv] at hw
  cases hw
  exact absurd hwb hb

/-- The simulated camera offers pass-through blocks, decimation, the colorizer and point
clouds. -/
theorem ofSimulated_cases {b : Block} (hb : b.OfSimulated) :
    (∃ n, b = .passThrough n) ∨ (∃ f, b = .decimation f) ∨ b = .colorizer ∨
      ∃ tex ex sc, b = .pointCloud tex ex sc := by
  obtain ⟨c, tag, h⟩ := hb
  cases tag with
  | decimation => exact .inr (.inl ⟨_, (Option.some.inj h).symm⟩)
  | colorizer => exact .inr (.inr (.inl (Option.some.inj h).symm))
  | pointcloud =>
    simp only [Simulated.block, Option.bind_eq_bind, Option.bind_eq_some_iff, Option.pure_def,
      Option.some.injEq] at h
    obtain ⟨tex, -, ex, -, rfl⟩ := h
    exact .inr (.inr (.inr ⟨tex, ex, _, rfl⟩))
  | _ => exact .inl ⟨_, (Option.some.inj h).symm⟩

/-- The blocks of the simulated camera keep every frame within the threshold: decimation keeps
values, the colorizer adds 3-byte pixels and the point cloud adds points. -/
theorem process_withinClip {b : Block} (hb : b.OfSimulated) {s s' : Frameset}
    (hs : s.WithinClip t) (h : (b.process s).run = .ok (.ok s')) : s'.WithinClip t := by
  rcases ofSimulated_cases hb with ⟨n, rfl⟩ | ⟨n, rfl⟩ | rfl | ⟨tex, ex, sc, rfl⟩
  · cases h
    exact hs
  · unfold process at h
    obtain ⟨frames, hframes, h⟩ := Checked.exists_of_bind h
    cases h
    refine Checked.mapM_preserves (fun frame y hf hy => ?_) _ _ hs hframes
    obtain ⟨r, hr, hy⟩ := Checked.exists_of_bind hy
    -- the frame, or its decimated copy
    cases hd : decimate (max n.toNat 1) frame with
    | error e =>
      rw [orHalt, ExceptT.run_lift, hd] at hr
      cases hr
    | ok r' =>
      rw [orHalt, ExceptT.run_lift, hd] at hr
      cases hr
      cases r with
      | none =>
        cases hy
        exact hf
      | some smaller =>
        cases hy
        exact decimate_withinClip hd hf
  · dsimp only [process] at h
    split at h
    · cases h
      exact hs
    next depth _ =>
      split at h
      · cases h
        exact hs
      next video hv =>
        cases h
        intro f hf
        rcases List.mem_append.1 hf with hf | hf
        · exact hs f hf
        · rw [List.mem_singleton.1 hf]
          exact withinClip_of_bpp rfl (by simp)
  · dsimp only [process] at h
    split at h
    · cases h
      exact hs
    next depth _ =>
      split at h
      · cases h
      next video k _ =>
        obtain ⟨points, -, h⟩ := Checked.exists_of_bind h
        cases h
        intro f hf
        rcases List.mem_append.1 hf with hf | hf
        · exact hs f hf
        · rw [List.mem_singleton.1 hf]
          exact Frame.withinClip_of_video?_eq_none t rfl

end Block

theorem Pipeline.process_withinClip {p : Pipeline} (hp : ∀ st ∈ p.stages, st.block.OfSimulated)
    {s s' : Frameset} {t : Nat} (hs : s.WithinClip t) (h : (p.process s).run = .ok (.ok s')) :
    s'.WithinClip t := by
  refine Checked.foldlM_preserves (Frameset.WithinClip t) _ (fun b st r hst hb hr => ?_) s s' hs h
  exact Block.process_withinClip (hp st (List.mem_filter.1 hst).1) hb hr

end DepthBridge
