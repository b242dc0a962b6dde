import Mathlib
import DepthBridge.Proofs.Depth

/-!
# Decimation, pixel by pixel

`Block.decimate f` keeps pixel `(x·f, y·f)` of a 16-bit depth image as pixel `(x, y)`, for every
`x < w / f` and `y < h / f`, and scales the intrinsics by `f`. In a buffer that holds exactly its
`w · h` pixels every slice the two loops cut lies inside the data, and the loops compute two
products in 32 bits: the decimated pixel count `(w / f) · (h / f)`, and the stride `w · bpp` of a
row, once a row is cut (`VideoBuffer.DecimatesBy`). Decimation returns exactly when both fit
(`decimate_returns_iff`); it then gives a frame (`decimate_eq`) whose image can be decimated
again (`decimatesBy_decimatedVideo`), is well formed when the image was
(`wellFormed_decimatedVideo`), and holds the chosen pixels (`pixel_decimatedVideo`).
`process_decimation` lifts this to a frameset: each depth image with intrinsics is replaced in
place, every other frame is kept.

The pixel count has to fit 32 bits even when no byte is read: a buffer of 65536 × 65536 pixels of
no bytes has an empty data of the right size, and the capacity `(w · h) · bpp` of its decimation
overflows before a pixel is read (`decimation_overflows_without_bytes`).
-/
namespace DepthBridge

/-! ## Lists of equal pieces -/

section Pieces

variable {α β : Type} {l : List α} {g : α → List β} {n : Nat}

theorem length_flatMap_uniform (hg : ∀ a ∈ l, (g a).length = n) :
    (l.flatMap g).length = l.length * n := by
  induction l with
  | nil => simp
  | cons a rest ih =>
    rw [List.flatMap_cons, List.length_append, hg a List.mem_cons_self,
      ih fun b hb => hg b (List.mem_cons_of_mem a hb), List.length_cons, Nat.succ_mul, Nat.add_comm]

/-- In a list of pieces of length `n`, entry `k · n + i` is entry `i` of piece `k`. -/
theorem getD_flatMap_uniform (hg : ∀ a ∈ l, (g a).length = n) {k i : Nat} (hk : k < l.length)
    (hi : i < n) (d : β) : (l.flatMap g).getD (k * n + i) d = (g l[k]).getD i d := by
  induction l generalizing k with
  | nil => cases hk
  | cons a rest ih =>
    have ha : (g a).length = n := hg a List.mem_cons_self
    rw [List.flatMap_cons]
    cases k with
    | zero =>
      rw [Nat.zero_mul, Nat.zero_add, List.getD_append _ _ _ _ (by omega), List.getElem_cons_zero]
    | succ k =>
      -- the first piece is skipped whole
      have hrest : k < rest.length := by simpa using hk
      rw [List.getD_append_right _ _ _ _ (by rw [ha, Nat.succ_mul]; omega), ha,
        show (k + 1) * n + i - n = k * n + i by rw [Nat.succ_mul]; omega, List.getElem_cons_succ]
      exact ih (fun b hb => hg b (List.mem_cons_of_mem a hb)) hrest

end Pieces

theorem ok_bind {ε α β : Type} (x : α) (f : α → Except ε β) : (Except.ok x >>= f) = f x := rfl

/-- A loop whose every step appends a piece to its state ends with all the pieces appended, in
order. -/
theorem forIn_append_eq {ε α β : Type} (piece : α → List β)
    {g : α → List β → Except ε (ForInStep (List β))} :
    ∀ (xs : List α) (acc : List β), (∀ a ∈ xs, ∀ r, g a r = .ok (.yield (r ++ piece a))) →
      forIn xs acc g = .ok (acc ++ xs.flatMap piece)
  | [], acc, _ => by
    rw [List.forIn_nil, List.flatMap_nil, List.append_nil]
    rfl
  | a :: rest, acc, hg => by
    rw [List.forIn_cons, hg a List.mem_cons_self]
    refine (forIn_append_eq piece rest (acc ++ piece a) fun b hb => hg b (List.mem_cons_of_mem a hb)).trans ?_
    rw [List.flatMap_cons, List.append_assoc]

/-! ## Pixels of a buffer -/

/-- A pixel buffer that holds exactly its `width · height` pixels of `bpp` bytes, with that
product, taken left to right, within 32 bits. -/
structure VideoBuffer.WellFormed (v : VideoBuffer) : Prop where
  pixels_le : v.width.toNat * v.height.toNat ≤ Checked.u32Max
  bytes_le : v.width.toNat * v.height.toNat * v.bpp.toNat ≤ Checked.u32Max
  size_eq : v.data.size = v.width.toNat * v.height.toNat * v.bpp.toNat

/-- What decimation by `f` computes in 32 bits on a buffer that holds exactly its `w · h` pixels:
the decimated pixel count `(w / f) · (h / f)`, and the stride `w · bpp` of the image's rows
whenever a decimated row is cut. These are the only products that can overflow, so such a
buffer is decimated (`decimate_eq`), and a buffer where one of them does not fit halts
decimation (`decimate_returns_iff`). -/
structure VideoBuffer.DecimatesBy (f : Nat) (v : VideoBuffer) : Prop where
  size_eq : v.data.size = v.width.toNat * v.height.toNat * v.bpp.toNat
  pixels_le : v.width.toNat / f * (v.height.toNat / f) ≤ Checked.u32Max
  stride_le : 0 < v.height.toNat / f → v.width.toNat * v.bpp.toNat ≤ Checked.u32Max

/-- A well-formed buffer is decimated by every factor: its rows lie within its bytes. -/
theorem VideoBuffer.WellFormed.decimatesBy {v : VideoBuffer} (hv : v.WellFormed) (f : Nat) :
    v.DecimatesBy f where
  size_eq := hv.size_eq
  pixels_le := le_trans (Nat.mul_le_mul (Nat.div_le_self _ _) (Nat.div_le_self _ _)) hv.pixels_le
  stride_le hh := by
    have hrows : 0 < v.height.toNat := lt_of_lt_of_le hh (Nat.div_le_self _ _)
    calc v.width.toNat * v.bpp.toNat ≤ v.width.toNat * v.height.toNat * v.bpp.toNat :=
          Nat.mul_le_mul_right _ (Nat.le_mul_of_pos_right _ hrows)
      _ ≤ Checked.u32Max := hv.bytes_le

/-- The bytes of pixel `(x, y)` of a row-major buffer without padding. -/
def VideoBuffer.pixel (v : VideoBuffer) (x y : Nat) : List UInt8 :=
  (List.range v.bpp.toNat).map fun i =>
    v.data.data.getD ((y * v.width.toNat + x) * v.bpp.toNat + i) 0

theorem toNat_toUInt32_of_le {n : Nat} (h : n ≤ Checked.u32Max) : n.toUInt32.toNat = n := by
  have h' : n < 4294967296 := by unfold Checked.u32Max at h; simp only [Nat.pow_eq] at h; omega
  simp [Nat.mod_eq_of_lt h']

theorem toNat_le_u32Max (n : UInt32) : n.toNat ≤ Checked.u32Max := by
  have := n.toNat_lt
  unfold Checked.u32Max
  simp only [Nat.pow_eq] at this ⊢
  omega

theorem toArray_getD {α : Type} (l : List α) (i : Nat) (d : α) : l.toArray.getD i d = l.getD i d := by
  simp [Array.getD_eq_getD_getElem?, List.getD_eq_getElem?_getD]

/-- The last byte of a pixel inside the image is inside its data. -/
theorem pixel_end_le {w h bpp x y : Nat} (hx : x < w) (hy : y < h) :
    (y * w + x) * bpp + bpp ≤ w * h * bpp := by
  have hrow : y * w + x + 1 ≤ w * h :=
    calc y * w + x + 1 ≤ y * w + w := by omega
      _ = (y + 1) * w := (Nat.succ_mul y w).symm
      _ ≤ h * w := Nat.mul_le_mul_right w hy
      _ = w * h := Nat.mul_comm h w
  calc (y * w + x) * bpp + bpp = (y * w + x + 1) * bpp := (Nat.succ_mul _ bpp).symm
    _ ≤ w * h * bpp := Nat.mul_le_mul_right bpp hrow

namespace Block

theorem slice_eq {data : ByteArray} {start len : Nat} (h : start + len ≤ data.size) :
    slice data start len = .ok ((List.range len).map fun i => data.data.getD (start + i) 0) := by
  unfold slice
  rw [if_neg (by omega), if_neg (by omega)]

/-- A pixel inside an image that holds exactly its pixels is cut whole. -/
theorem slice_pixel {v : VideoBuffer}
    (hsize : v.data.size = v.width.toNat * v.height.toNat * v.bpp.toNat) {x y : Nat}
    (hx : x < v.width.toNat) (hy : y < v.height.toNat) :
    slice v.data ((y * v.width.toNat + x) * v.bpp.toNat) v.bpp.toNat = .ok (v.pixel x y) := by
  rw [slice_eq (hsize ▸ pixel_end_le hx hy)]
  rfl

theorem stride_eq {v : VideoBuffer} (hrow : v.width.toNat * v.bpp.toNat ≤ Checked.u32Max) :
    v.stride = .ok (v.width.toNat * v.bpp.toNat) := by
  unfold VideoBuffer.stride Checked.mulU32
  rw [if_neg (by omega)]

theorem stride_of_gt {v : VideoBuffer} (hrow : Checked.u32Max < v.width.toNat * v.bpp.toNat) :
    v.stride = .error .mulOverflow := by
  unfold VideoBuffer.stride Checked.mulU32
  rw [if_pos hrow]

/-! ## One frame -/

/-- The bytes of pixel `(x·f, y·f)`, for every `x < w / f` in every row `y < h / f`. -/
def decimatedBytes (f : Nat) (v : VideoBuffer) : List UInt8 :=
  (List.range (v.height.toNat / f)).flatMap fun y =>
    (List.range (v.width.toNat / f)).flatMap fun x => v.pixel (x * f) (y * f)

/-- The image decimation by `f` makes of a buffer. -/
def decimatedVideo (f : Nat) (v : VideoBuffer) : VideoBuffer :=
  ⟨(v.width.toNat / f).toUInt32, (v.height.toNat / f).toUInt32, v.bpp, ⟨(decimatedBytes f v).toArray⟩⟩

/-- A 16-bit depth image with intrinsics that decimation by `f` computes on without overflow is
decimated: the frame keeps every `f`-th pixel of every `f`-th row, and its intrinsics are scaled
by `f`. -/
theorem decimate_eq {f : Nat} (hf : 0 < f) (hf32 : f ≤ Checked.u32Max) {frame : Frame}
    {video : VideoBuffer} {k : Intrinsics} (hdi : depthIntrinsics frame = some (video, k))
    (hv : video.DecimatesBy f) :
    ∃ scaled, Geometry.scaleIntrinsics k f.toUInt32 = .ok scaled ∧
      decimate f frame = .ok (some (derived frame
        { frame.profile with width := (decimatedVideo f video).width,
                             height := (decimatedVideo f video).height, intrinsics := some scaled }
        (.video (decimatedVideo f video)))) := by
  obtain ⟨scaled, hscale⟩ : ∃ scaled, Geometry.scaleIntrinsics k f.toUInt32 = .ok scaled := by
    unfold Geometry.scaleIntrinsics
    have hne : f.toUInt32 ≠ 0 := fun h0 => by
      have := congrArg UInt32.toNat h0
      rw [toNat_toUInt32_of_le hf32] at this
      exact absurd this (Nat.pos_iff_ne_zero.mp hf)
    rw [if_neg hne]
    exact ⟨_, rfl⟩
  refine ⟨scaled, hscale, ?_⟩
  have hcount := hv.pixels_le
  unfold decimate
  rw [hdi]
  dsimp only
  rw [Checked.mulU32, if_neg (by omega),
    forIn_append_eq (fun y => (List.range (video.width.toNat / f)).flatMap fun x =>
      video.pixel (x * f) (y * f)) _ _ (fun y hy r => ?_)]
  · rw [hscale]
    rfl
  · -- row `y` of the result is cut from row `y · f` of the image
    have hy' : (y + 1) * f ≤ video.height.toNat :=
      (Nat.le_div_iff_mul_le hf).mp (List.mem_range.mp hy)
    rw [Block.stride_eq (hv.stride_le (by have := List.mem_range.mp hy; omega)), ok_bind]
    rw [forIn_append_eq (fun x => video.pixel (x * f) (y * f)) _ _ (fun x hx r => ?_)]
    · rfl
    · have hx' : (x + 1) * f ≤ video.width.toNat :=
        (Nat.le_div_iff_mul_le hf).mp (List.mem_range.mp hx)
      have hpix := Block.slice_pixel hv.size_eq
        (show x * f < video.width.toNat by rw [Nat.succ_mul] at hx'; omega)
        (show y * f < video.height.toNat by rw [Nat.succ_mul] at hy'; omega)
      rw [show y * f * (video.width.toNat * video.bpp.toNat) + x * f * video.bpp.toNat =
        (y * f * video.width.toNat + x * f) * video.bpp.toNat by ring, hpix]
      rfl

/-- Decimation halts when the decimated pixel count overflows 32 bits, before a pixel is read. -/
theorem decimate_of_pixels_gt {f : Nat} {frame : Frame} {video : VideoBuffer} {k : Intrinsics}
    (hdi : depthIntrinsics frame = some (video, k))
    (hgt : Checked.u32Max < video.width.toNat / f * (video.height.toNat / f)) :
    decimate f frame = .error .mulOverflow := by
  unfold decimate
  rw [hdi]
  dsimp only
  rw [Checked.mulU32, if_pos hgt]
  rfl

/-- Decimation halts on the first row it cuts from an image whose stride overflows 32 bits. -/
theorem decimate_of_stride_gt {f : Nat} {frame : Frame} {video : VideoBuffer} {k : Intrinsics}
    (hdi : depthIntrinsics frame = some (video, k))
    (hpix : video.width.toNat / f * (video.height.toNat / f) ≤ Checked.u32Max)
    (hrow : 0 < video.height.toNat / f)
    (hgt : Checked.u32Max < video.width.toNat * video.bpp.toNat) :
    decimate f frame = .error .mulOverflow := by
  obtain ⟨n, hn⟩ : ∃ n, video.height.toNat / f = n + 1 := ⟨_, (Nat.succ_pred_eq_of_pos hrow).symm⟩
  unfold decimate
  rw [hdi]
  dsimp only
  rw [Checked.mulU32, if_neg (by omega), hn, List.range_succ_eq_map, List.forIn_cons,
    stride_of_gt hgt]
  rfl

/-- For a depth image with intrinsics that holds exactly its pixels, decimation by `f` returns
exactly when it computes on the image without overflow, and halts otherwise. -/
theorem decimate_returns_iff {f : Nat} (hf : 0 < f) (hf32 : f ≤ Checked.u32Max) {frame : Frame}
    {video : VideoBuffer} {k : Intrinsics} (hdi : depthIntrinsics frame = some (video, k))
    (hsize : video.data.size = video.width.toNat * video.height.toNat * video.bpp.toNat) :
    (∃ out, decimate f frame = .ok out) ↔ video.DecimatesBy f := by
  constructor
  · rintro ⟨out, hout⟩
    have hpix : video.width.toNat / f * (video.height.toNat / f) ≤ Checked.u32Max := by
      by_contra hgt
      rw [decimate_of_pixels_gt hdi (Nat.lt_of_not_le hgt)] at hout
      cases hout
    refine ⟨hsize, hpix, fun hrow => ?_⟩
    by_contra hgt
    rw [decimate_of_stride_gt hdi hpix hrow (Nat.lt_of_not_le hgt)] at hout
    cases hout
  · intro hv
    obtain ⟨_, _, hdec⟩ := decimate_eq hf hf32 hdi hv
    exact ⟨_, hdec⟩

/-! ## The decimated image -/

section DecimatedVideo

variable (f : Nat) (v : VideoBuffer)

theorem length_pixel (x y : Nat) : (v.pixel x y).length = v.bpp.toNat := by
  simp [VideoBuffer.pixel]

theorem width_decimatedVideo : (decimatedVideo f v).width.toNat = v.width.toNat / f :=
  toNat_toUInt32_of_le ((Nat.div_le_self _ _).trans (toNat_le_u32Max _))

theorem height_decimatedVideo : (decimatedVideo f v).height.toNat = v.height.toNat / f :=
  toNat_toUInt32_of_le ((Nat.div_le_self _ _).trans (toNat_le_u32Max _))

theorem bpp_decimatedVideo : (decimatedVideo f v).bpp = v.bpp := rfl

theorem length_decimatedBytes :
    (decimatedBytes f v).length = v.height.toNat / f * (v.width.toNat / f * v.bpp.toNat) := by
  unfold decimatedBytes
  rw [length_flatMap_uniform fun y _ => ?_, List.length_range]
  rw [length_flatMap_uniform fun x _ => length_pixel v _ _, List.length_range]

/-- Pixel `(x, y)` of the decimated image is pixel `(x·f, y·f)` of the image. -/
theorem pixel_decimatedVideo {x y : Nat} (hx : x < v.width.toNat / f) (hy : y < v.height.toNat / f) :
    (decimatedVideo f v).pixel x y = v.pixel (x * f) (y * f) := by
  unfold VideoBuffer.pixel
  refine List.map_congr_left fun i hi => ?_
  have hi : i < v.bpp.toNat := List.mem_range.mp hi
  -- byte `i` of pixel `x` of row `y`: a row holds `w / f` pixels of `bpp` bytes
  have hrow : ∀ y' ∈ List.range (v.height.toNat / f),
      ((List.range (v.width.toNat / f)).flatMap fun x => v.pixel (x * f) (y' * f)).length =
        v.width.toNat / f * v.bpp.toNat := fun y' _ => by
    rw [length_flatMap_uniform fun x _ => length_pixel v _ _, List.length_range]
  have hindex : (y * (v.width.toNat / f) + x) * v.bpp.toNat + i =
      y * (v.width.toNat / f * v.bpp.toNat) + (x * v.bpp.toNat + i) := by ring
  have hcol : x * v.bpp.toNat + i < v.width.toNat / f * v.bpp.toNat :=
    calc x * v.bpp.toNat + i < x * v.bpp.toNat + v.bpp.toNat := by omega
      _ = (x + 1) * v.bpp.toNat := (Nat.succ_mul x _).symm
      _ ≤ v.width.toNat / f * v.bpp.toNat := Nat.mul_le_mul_right _ hx
  show (decimatedBytes f v).toArray.getD _ 0 = _
  rw [toArray_getD, width_decimatedVideo, bpp_decimatedVideo, hindex, decimatedBytes,
    getD_flatMap_uniform hrow (by simpa using hy) hcol,
    List.getElem_range,
    getD_flatMap_uniform (fun x _ => length_pixel v _ _) (by simpa using hx) hi, List.getElem_range,
    VideoBuffer.pixel, List.getD_eq_getElem _ _ (by simpa using hi), List.getElem_map,
    List.getElem_range]

/-- The four by four image of values 0 to 15 keeps, decimated by 2, the values 0, 2, 8 and 10. -/
example : decimatedBytes 2 ⟨4, 4, 2, ⟨((List.range 16).flatMap Depth.pairOf).toArray⟩⟩ =
    [0, 2, 8, 10].flatMap Depth.pairOf := by
  decide

/-- The decimated image holds exactly its pixels. -/
theorem size_decimatedVideo :
    (decimatedVideo f v).data.size = (decimatedVideo f v).width.toNat *
      (decimatedVideo f v).height.toNat * (decimatedVideo f v).bpp.toNat := by
  rw [width_decimatedVideo, height_decimatedVideo, bpp_decimatedVideo]
  show (decimatedBytes f v).toArray.size = _
  rw [List.size_toArray, length_decimatedBytes]
  ring

/-- Decimating a well-formed image gives a well-formed image. -/
theorem wellFormed_decimatedVideo {v : VideoBuffer} (hv : v.WellFormed) (f : Nat) :
    (decimatedVideo f v).WellFormed where
  pixels_le := by
    rw [width_decimatedVideo, height_decimatedVideo]
    exact le_trans (Nat.mul_le_mul (Nat.div_le_self _ _) (Nat.div_le_self _ _)) hv.pixels_le
  bytes_le := by
    rw [width_decimatedVideo, height_decimatedVideo, bpp_decimatedVideo]
    exact le_trans (Nat.mul_le_mul_right _ (Nat.mul_le_mul (Nat.div_le_self _ _)
      (Nat.div_le_self _ _))) hv.bytes_le
  size_eq := size_decimatedVideo f v

/-- The image decimation by `f` gives can be decimated again: its pixel count is the one decimation
computed, and its rows are no wider than the image's. -/
theorem decimatesBy_decimatedVideo {v : VideoBuffer} (hv : v.DecimatesBy f) :
    (decimatedVideo f v).DecimatesBy 1 where
  size_eq := size_decimatedVideo f v
  pixels_le := by
    rw [Nat.div_one, Nat.div_one, width_decimatedVideo, height_decimatedVideo]
    exact hv.pixels_le
  stride_le hh := by
    rw [Nat.div_one, height_decimatedVideo] at hh
    rw [width_decimatedVideo, bpp_decimatedVideo]
    exact le_trans (Nat.mul_le_mul_right _ (Nat.div_le_self _ _)) (hv.stride_le hh)

end DecimatedVideo

/-! ## A frameset -/

/-- What decimation by `f` makes of a frame. A 16-bit depth image with intrinsics becomes an
image that holds exactly its pixels, can be decimated again, and is well formed when the image
was; its pixel `(x, y)` is pixel `(x·f, y·f)` of the image, for `x < w / f` and `y < h / f`, and
its intrinsics are scaled by `f`; the stream, format, rate, time, clock and number stay. Any
other frame is kept as it is. -/
def Decimated (f : Nat) (frame out : Frame) : Prop :=
  match depthIntrinsics frame with
  | none => out = frame
  | some (video, k) =>
    ∃ video' scaled, out.video? = some video' ∧
      video'.width.toNat = video.width.toNat / f ∧ video'.height.toNat = video.height.toNat / f ∧
      video'.bpp = video.bpp ∧ video'.DecimatesBy 1 ∧ (video.WellFormed → video'.WellFormed) ∧
      (∀ x < video'.width.toNat, ∀ y < video'.height.toNat,
        video'.pixel x y = video.pixel (x * f) (y * f)) ∧
      Geometry.scaleIntrinsics k f.toUInt32 = .ok scaled ∧
      out.profile = { frame.profile with width := video'.width, height := video'.height,
                                         intrinsics := some scaled } ∧
      out.timestampMs = frame.timestampMs ∧ out.domain = frame.domain ∧ out.number = frame.number

theorem orHalt_ok {α : Type} (x : α) : orHalt (.ok x) = pure x :=
  ExceptT.lift_pure x

theorem decimate_of_none {f : Nat} {frame : Frame} (h : depthIntrinsics frame = none) :
    decimate f frame = .ok none := by
  unfold decimate
  rw [h]
  rfl

/-- Decimation of an image it computes on without overflow is a frame related to it as
`Decimated` says. -/
theorem decimate_decimated {f : Nat} (hf : 0 < f) (hf32 : f ≤ Checked.u32Max) {frame : Frame}
    {video : VideoBuffer} {k : Intrinsics} (hdi : depthIntrinsics frame = some (video, k))
    (hv : video.DecimatesBy f) :
    ∃ out, decimate f frame = .ok (some out) ∧ Decimated f frame out := by
  obtain ⟨scaled, hscale, hdec⟩ := decimate_eq hf hf32 hdi hv
  refine ⟨_, hdec, ?_⟩
  rw [Decimated, hdi]
  exact ⟨decimatedVideo f video, scaled, rfl, width_decimatedVideo f video,
    height_decimatedVideo f video, rfl, decimatesBy_decimatedVideo f hv,
    fun hwf => wellFormed_decimatedVideo hwf f,
    fun x hx y hy => pixel_decimatedVideo f video (by rwa [width_decimatedVideo] at hx)
      (by rwa [height_decimatedVideo] at hy), hscale, rfl, rfl, rfl, rfl⟩

end Block

namespace Checked

/-- A map whose every step returns a result related to its source returns all of them, in
order. -/
theorem mapM_forall₂ {α γ : Type} {g : α → Checked γ} {R : α → γ → Prop} :
    ∀ xs : List α, (∀ a ∈ xs, ∃ b, g a = pure b ∧ R a b) →
      ∃ ys, xs.mapM g = pure ys ∧ List.Forall₂ R xs ys
  | [], _ => ⟨[], rfl, .nil⟩
  | a :: rest, hg => by
    obtain ⟨b, hb, hab⟩ := hg a List.mem_cons_self
    obtain ⟨bs, hbs, hrest⟩ := mapM_forall₂ rest fun a' ha' => hg a' (List.mem_cons_of_mem a ha')
    refine ⟨b :: bs, ?_, .cons hab hrest⟩
    rw [List.mapM_cons, hb, pure_bind, hbs, pure_bind]

/-- A map whose every step returns a result related to its source, then a pure step on the
results. -/
theorem mapM_bind_pure_forall₂ {α γ δ : Type} {g : α → Checked γ} {R : α → γ → Prop}
    (k : List γ → δ) (xs : List α) (hg : ∀ a ∈ xs, ∃ b, g a = pure b ∧ R a b) :
    ∃ ys, (xs.mapM g >>= fun ys => pure (k ys)) = pure (k ys) ∧ List.Forall₂ R xs ys := by
  obtain ⟨ys, hmap, hrel⟩ := mapM_forall₂ xs hg
  exact ⟨ys, by rw [hmap, pure_bind], hrel⟩

end Checked

namespace Block

/-- Decimation of a frameset whose depth images with intrinsics hold exactly their pixels, with
the decimated pixel count and the stride of a cut row within 32 bits, gives a frameset: each
such image is replaced in place by its decimation, every other frame is kept, and the order
stays. A factor of 0 counts as 1. -/
theorem process_decimation (factor : UInt32) (s : Frameset)
    (hwf : ∀ frame ∈ s.frames, ∀ video k, depthIntrinsics frame = some (video, k) →
      video.DecimatesBy (max factor.toNat 1)) :
    ∃ frames, (Block.decimation factor).process s = pure ⟨frames⟩ ∧
      List.Forall₂ (Decimated (max factor.toNat 1)) s.frames frames := by
  have hf : 0 < max factor.toNat 1 := lt_max_of_lt_right Nat.one_pos
  have hf32 : max factor.toNat 1 ≤ Checked.u32Max :=
    max_le (toNat_le_u32Max factor) (by unfold Checked.u32Max; simp only [Nat.pow_eq]; omega)
  simp only [process]
  refine Checked.mapM_bind_pure_forall₂ Frameset.mk s.frames fun frame hmem => ?_
  -- one frame: a depth image with intrinsics is decimated, any other frame passes
  cases hdi : depthIntrinsics frame with
  | none =>
    refine ⟨frame, ?_, by rw [Decimated, hdi]⟩
    rw [decimate_of_none hdi, orHalt_ok, pure_bind]
  | some vk =>
    obtain ⟨video, k⟩ := vk
    obtain ⟨out, hdec, hout⟩ := decimate_decimated hf hf32 hdi (hwf frame hmem video k hdi)
    refine ⟨out, ?_, hout⟩
    rw [hdec, orHalt_ok, pure_bind]

/-- A 16-bit depth frame of `w × h` pixels of `bpp` bytes, calibrated at its own size. -/
def depthFrameOfSize (w h bpp : UInt32) (data : ByteArray) : Frame :=
  { profile := { key := ⟨.depth, 0⟩, format := .z16, width := w, height := h, fps := 30
                 intrinsics := some { width := w, height := h, fx := 2, fy := 2, ppx := 2, ppy := 2
                                      model := default, coeffs := [] } }
    timestampMs := 12, domain := default, number := 7
    payload := .video ⟨w, h, bpp, data⟩ }

/-- The depth image of values 0 to 15, four by four, decimated by 2. -/
theorem process_decimation_ramp :
    (∀ frame ∈ [depthFrameOfSize 4 4 2 ⟨((List.range 16).flatMap Depth.pairOf).toArray⟩],
      ∀ video k, depthIntrinsics frame = some (video, k) → video.DecimatesBy 2) ∧
    ∃ frames, (Block.decimation 2).process
        ⟨[depthFrameOfSize 4 4 2 ⟨((List.range 16).flatMap Depth.pairOf).toArray⟩]⟩ =
        pure ⟨frames⟩ ∧
      List.Forall₂ (Decimated 2) [depthFrameOfSize 4 4 2 ⟨((List.range 16).flatMap Depth.pairOf).toArray⟩]
        frames := by
  have hwf : ∀ frame ∈ [depthFrameOfSize 4 4 2 ⟨((List.range 16).flatMap Depth.pairOf).toArray⟩],
      ∀ video k, depthIntrinsics frame = some (video, k) → video.DecimatesBy 2 := by
    intro frame hmem video k hdi
    rw [List.mem_singleton] at hmem
    subst hmem
    cases hdi
    exact ⟨rfl, by decide, by decide⟩
  exact ⟨hwf, process_decimation 2 _ hwf⟩

/-- A 65536 × 65536 image of pixels of no bytes has an empty data of the size `w · h · bpp`, and
decimating it halts: the capacity `(w · h) · bpp` of the result overflows 32 bits at `w · h`. -/
theorem decimation_overflows_without_bytes :
    ByteArray.empty.size = 65536 * 65536 * 0 ∧
    ((Block.decimation 1).process ⟨[depthFrameOfSize 65536 65536 0 .empty]⟩).run =
      .error .mulOverflow :=
  ⟨rfl, rfl⟩

end Block

end DepthBridge
