import Mathlib
import DepthBridge.Proofs.Decimation
import DepthBridge.Proofs.Align

/-!
# When a block halts

A block refuses a frameset it cannot process with a contract error, and halts only on an
impossible buffer. For a frameset whose images are well formed (`VideoBuffer.WellFormed`):

* decimation never halts, whatever the factor (`process_decimation`);
* the colorizer never halts, on any frameset;
* the point cloud never halts: the pixel count fits 32 bits, and an image with a depth in it has
  a width to divide the pixel index by;
* alignment halts exactly when the target's pixel count overflows 32 bits or a depth lands past
  the end of the target's image (`align_returns_iff`).

The last can happen with a well-formed image: a NaN projection (a zero focal length seen off
axis) passes every bounds check and lands on pixel 0, which a target of no pixels lacks
(`align_halts_on_empty_target`).
-/

namespace DepthBridge

namespace Checked

/-- A computation that returns, with a result or a contract error, instead of halting. -/
def Returns {α : Type} (x : Checked α) : Prop := ∃ r, x.run = .ok r

theorem returns_pure {α : Type} (a : α) : (pure a : Checked α).Returns := ⟨_, rfl⟩

theorem returns_throw {α : Type} (e : ContractError) : (throw e : Checked α).Returns := ⟨_, rfl⟩

/-- A halting step followed by steps that return returns exactly when the step gives a value. -/
theorem returns_orHalt_bind {α β : Type} (x : Except Halt α) {k : α → Checked β}
    (hk : ∀ a, (k a).Returns) : (Block.orHalt x >>= k).Returns ↔ ∃ a, x = .ok a := by
  cases x with
  | error h =>
    constructor
    · rintro ⟨r, hr⟩
      cases hr
    · rintro ⟨a, ha⟩
      cases ha
  | ok a =>
    refine ⟨fun _ => ⟨a, rfl⟩, fun _ => ?_⟩
    rw [Block.orHalt_ok, pure_bind]
    exact hk a

end Checked

/-- Every image of the frameset is well formed. -/
def Frameset.WellFormed (s : Frameset) : Prop :=
  ∀ frame ∈ s.frames, ∀ v, frame.video? = some v → v.WellFormed

theorem Frameset.wellFormed_singleton {frame : Frame}
    (h : ∀ v, frame.video? = some v → v.WellFormed) : Frameset.WellFormed ⟨[frame]⟩ := by
  intro f hmem
  rw [List.mem_singleton] at hmem
  subst hmem
  exact h

namespace Block

/-- A well-formed image with a depth in it has a width. -/
theorem width_ne_zero_of_depthValues {v : VideoBuffer} (hv : v.WellFormed)
    (h : depthValues v ≠ []) : v.width ≠ 0 := by
  intro hw
  have hsize : v.data.size = 0 := by rw [hv.size_eq, hw]; simp
  exact h (by simp [depthValues, hsize])

/-- Placing depths into a buffer gives a buffer exactly when every depth lands inside it. -/
theorem foldlM_placeNearer_ok_iff (hits : List (Nat × Nat)) (acc : Array Nat) :
    (∃ buffer, hits.foldlM placeNearer acc = .ok buffer) ↔ ∀ hit ∈ hits, hit.1 < acc.size := by
  induction hits generalizing acc with
  | nil => exact ⟨fun _ _ h => (List.not_mem_nil h).elim, fun _ => ⟨acc, rfl⟩⟩
  | cons hit rest ih =>
    rw [List.foldlM_cons, List.forall_mem_cons]
    by_cases hin : hit.1 < acc.size
    · -- the depth is placed and the buffer keeps its size for the rest
      rw [placeNearer, if_pos hin, ok_bind, ih, keepNearer, Array.size_modify]
      exact ⟨fun h => ⟨hin, h⟩, fun h => h.2⟩
    · rw [placeNearer, if_neg hin]
      constructor
      · rintro ⟨_, h⟩
        cases h
      · intro h
        exact absurd h.1 hin

/-- Aligning a well-formed image gives values exactly when the target's pixel count fits 32 bits
and every depth lands inside the target's image. -/
theorem alignValues_ok_iff {video : VideoBuffer} (hv : video.WellFormed) (ex : Extrinsics)
    (scale : Float32) (k tk : Intrinsics) :
    (∃ values, alignValues ex scale video k tk = .ok values) ↔
      tk.width.toNat * tk.height.toNat ≤ Checked.u32Max ∧
        ∀ hit ∈ landings ex scale video k tk, hit.1 < tk.width.toNat * tk.height.toNat := by
  unfold alignValues Checked.mulU32
  by_cases hfit : tk.width.toNat * tk.height.toNat ≤ Checked.u32Max
  · -- a depth is read only from an image with a width, so the remainder is taken
    have hwidth : ((depthValues video).any (· ≠ 0) && decide (video.width = 0)) = false := by
      cases hany : (depthValues video).any (· ≠ 0) with
      | false => rfl
      | true =>
        have hne : depthValues video ≠ [] := fun h => by simp [h] at hany
        simpa using width_ne_zero_of_depthValues hv hne
    rw [if_neg (by omega), ok_bind, hwidth]
    simp only [Bool.false_eq_true, ↓reduceIte]
    have hplace := foldlM_placeNearer_ok_iff (landings ex scale video k tk)
      (Array.replicate (tk.width.toNat * tk.height.toNat) 0)
    rw [Array.size_replicate] at hplace
    constructor
    · rintro ⟨values, h⟩
      cases hfold : (landings ex scale video k tk).foldlM placeNearer
          (Array.replicate (tk.width.toNat * tk.height.toNat) 0) with
      | error e =>
        rw [hfold] at h
        cases h
      | ok buffer => exact ⟨hfit, hplace.mp ⟨buffer, hfold⟩⟩
    · rintro ⟨-, hin⟩
      obtain ⟨buffer, hbuf⟩ := hplace.mpr hin
      exact ⟨buffer.toList, by rw [hbuf]; rfl⟩
  · rw [if_pos (by omega)]
    constructor
    · rintro ⟨_, h⟩
      cases h
    · intro h
      exact absurd h.1 hfit

/-- The points of a well-formed image are computed: its pixel count fits 32 bits, and an image
with a depth in it has a width. -/
theorem deprojectAll_ok {video : VideoBuffer} (hv : video.WellFormed) (texture : Profile)
    (ex : Extrinsics) (scale : Float32) (k : Intrinsics) :
    ∃ points, deprojectAll texture ex scale video k = .ok points := by
  unfold deprojectAll Checked.mulU32
  rw [if_neg (by have := hv.pixels_le; omega), ok_bind]
  by_cases hempty : (depthValues video).isEmpty
  · simp only [hempty, ↓reduceIte]
    exact ⟨_, rfl⟩
  · have hwidth := width_ne_zero_of_depthValues hv (by simpa using hempty)
    simp only [hempty, hwidth, Bool.false_eq_true, ↓reduceIte]
    exact ⟨_, rfl⟩

/-! ## The blocks on a frameset -/

/-- The first depth frame is a frame of the frameset. -/
theorem getD_mem_of_firstDepth? {s : Frameset} {slot : Nat} (h : firstDepth? s = some slot) :
    s.frames.getD slot default ∈ s.frames := by
  obtain ⟨hlt, -⟩ := List.findIdx?_eq_some_iff_getElem.mp h
  rw [List.getD_eq_getElem _ _ hlt]
  exact List.getElem_mem hlt

section Blocks

variable {s : Frameset} (hs : s.WellFormed)
include hs

/-- Decimation of a frameset of well-formed images returns, whatever the factor. -/
theorem decimation_returns (factor : UInt32) : ((Block.decimation factor).process s).Returns := by
  obtain ⟨frames, hframes, -⟩ := process_decimation factor s fun frame hmem video k hdi =>
    (hs frame hmem video (depthIntrinsics_eq_some hdi)).decimatesBy _
  rw [hframes]
  exact Checked.returns_pure _

/-- The point cloud of a frameset of well-formed images returns: with a refusal when its first
depth image has no intrinsics, with the points otherwise. -/
theorem pointCloud_returns (texture : Profile) (ex : Extrinsics) (scale : Float32) :
    ((Block.pointCloud texture ex scale).process s).Returns := by
  simp only [process]
  cases hfind : s.frames.find? Frame.isDepthZ16 with
  | none => exact Checked.returns_pure _
  | some depth =>
    dsimp only
    cases hdi : depthIntrinsics depth with
    | none => exact Checked.returns_throw _
    | some vk =>
      obtain ⟨video, k⟩ := vk
      dsimp only
      have hv := hs depth (List.mem_of_find?_eq_some hfind) video (depthIntrinsics_eq_some hdi)
      refine (Checked.returns_orHalt_bind _ fun _ => Checked.returns_pure _).mpr ?_
      exact deprojectAll_ok hv texture ex scale k

/-- Alignment of a frameset of well-formed images halts exactly when, for a target with
intrinsics and a first depth image with intrinsics, the target's pixel count overflows 32 bits
or a depth lands past the end of the target's image. -/
theorem align_returns_iff (target : Profile) (ex : Extrinsics) (scale : Float32) :
    ((Block.align target ex scale).process s).Returns ↔
      ∀ tk slot video k, target.intrinsics = some tk → firstDepth? s = some slot →
        depthIntrinsics (s.frames.getD slot default) = some (video, k) →
        tk.width.toNat * tk.height.toNat ≤ Checked.u32Max ∧
          ∀ hit ∈ landings ex scale video k tk, hit.1 < tk.width.toNat * tk.height.toNat := by
  simp only [process]
  -- a refusal or the frameset as it is, unless there is a target and a depth image to align
  cases htk : target.intrinsics with
  | none => exact ⟨fun _ _ _ _ _ h => (by cases h), fun _ => Checked.returns_throw _⟩
  | some tk =>
    dsimp only
    cases hslot : firstDepth? s with
    | none => exact ⟨fun _ _ _ _ _ _ h => (by cases h), fun _ => Checked.returns_pure _⟩
    | some slot =>
      dsimp only
      cases hdi : depthIntrinsics (s.frames.getD slot default) with
      | none =>
        refine ⟨fun _ _ _ _ _ _ hslot' hdi' => ?_, fun _ => Checked.returns_throw _⟩
        cases hslot'
        rw [hdi] at hdi'
        cases hdi'
      | some vk =>
        obtain ⟨video, k⟩ := vk
        dsimp only
        have hv := hs _ (getD_mem_of_firstDepth? hslot) video (depthIntrinsics_eq_some hdi)
        rw [Checked.returns_orHalt_bind _ fun _ => Checked.returns_pure _, alignValues_ok_iff hv]
        constructor
        · intro h tk' slot' video' k' htk' hslot' hdi'
          cases htk'
          cases hslot'
          rw [hdi] at hdi'
          cases hdi'
          exact h
        · intro h
          exact h tk slot video k rfl rfl hdi

end Blocks

/-- The colorizer returns on any frameset. -/
theorem colorizer_returns (s : Frameset) : (Block.colorizer.process s).Returns := by
  simp only [process]
  split
  · exact Checked.returns_pure _
  · split
    · exact Checked.returns_pure _
    · exact Checked.returns_pure _

/-! ## The blocks together -/

/-- How the blocks treat a frameset: decimation, the colorizer and the point cloud return
whatever their settings, and alignment returns exactly when, for a target with intrinsics and a
first depth image with intrinsics, the target's pixel count fits 32 bits and every depth lands
inside the target's image. -/
structure BlocksReturn (s : Frameset) : Prop where
  decimation : ∀ factor, ((Block.decimation factor).process s).Returns
  colorizer : (Block.colorizer.process s).Returns
  pointCloud : ∀ texture ex scale, ((Block.pointCloud texture ex scale).process s).Returns
  align : ∀ target ex scale, ((Block.align target ex scale).process s).Returns ↔
    ∀ tk slot video k, target.intrinsics = some tk → firstDepth? s = some slot →
      depthIntrinsics (s.frames.getD slot default) = some (video, k) →
      tk.width.toNat * tk.height.toNat ≤ Checked.u32Max ∧
        ∀ hit ∈ landings ex scale video k tk, hit.1 < tk.width.toNat * tk.height.toNat

/-- On a frameset of well-formed images the blocks halt only by aligning a depth outside the
target's image or to a target of more pixels than 32 bits count. -/
theorem blocks_return_on_wellFormed {s : Frameset} (hs : s.WellFormed) : BlocksReturn s where
  decimation := decimation_returns hs
  colorizer := colorizer_returns s
  pointCloud := pointCloud_returns hs
  align := align_returns_iff hs

theorem blocks_return_on_ramp :
    Frameset.WellFormed ⟨[depthFrameOfSize 4 4 2 ⟨((List.range 16).flatMap Depth.pairOf).toArray⟩]⟩ ∧
      BlocksReturn ⟨[depthFrameOfSize 4 4 2 ⟨((List.range 16).flatMap Depth.pairOf).toArray⟩]⟩ := by
  have hs : Frameset.WellFormed
      ⟨[depthFrameOfSize 4 4 2 ⟨((List.range 16).flatMap Depth.pairOf).toArray⟩]⟩ := by
    refine Frameset.wellFormed_singleton fun v hv => ?_
    cases hv
    exact ⟨by decide, by decide, rfl⟩
  exact ⟨hs, blocks_return_on_wellFormed hs⟩

/-- A one-pixel depth image of 1000 taken by an imager of zero horizontal focal length. -/
def offAxisDepthFrame : Frame :=
  { profile := { key := ⟨.depth, 0⟩, format := .z16, width := 1, height := 1, fps := 30
                 intrinsics := some { width := 1, height := 1, fx := 0, fy := 1, ppx := 0, ppy := 0
                                      model := .brownConrady, coeffs := [0, 0, 0, 0, 0] } }
    timestampMs := 12, domain := default, number := 7
    payload := .video ⟨1, 1, 2, ⟨(Depth.pairOf 1000).toArray⟩⟩ }

/-- A color imager of no pixels. -/
def emptyTarget : Profile :=
  ⟨⟨.color, 0⟩, .rgb8, 0, 0, 30, some ⟨0, 0, 1, 1, 1, 1, .brownConrady, [0, 0, 0, 0, 0]⟩⟩

/-- The pixel's point has a NaN projection, which passes every bounds check and lands on pixel 0:
aligning the well-formed image to a target of no pixels halts. -/
theorem align_halts_on_empty_target :
    Frameset.WellFormed ⟨[offAxisDepthFrame]⟩ ∧
      ((Block.align emptyTarget .identity 0.001).process ⟨[offAxisDepthFrame]⟩).run =
        .error (.indexOut 0 0) := by
  refine ⟨Frameset.wellFormed_singleton fun v hv => ?_, ?_⟩
  · cases hv
    exact ⟨by decide, by decide, rfl⟩
  · -- the one landing, at pixel 0 of a buffer of no pixels
    have hland : landings .identity 0.001 ⟨1, 1, 2, ⟨(Depth.pairOf 1000).toArray⟩⟩
        ⟨1, 1, 0, 1, 0, 0, .brownConrady, [0, 0, 0, 0, 0]⟩
        ⟨0, 0, 1, 1, 1, 1, .brownConrady, [0, 0, 0, 0, 0]⟩ = [(0, 65535)] := by
      decide +kernel
    have hvalues : alignValues .identity 0.001 ⟨1, 1, 2, ⟨(Depth.pairOf 1000).toArray⟩⟩
        ⟨1, 1, 0, 1, 0, 0, .brownConrady, [0, 0, 0, 0, 0]⟩
        ⟨0, 0, 1, 1, 1, 1, .brownConrady, [0, 0, 0, 0, 0]⟩ = .error (.indexOut 0 0) := by
      unfold alignValues
      rw [hland]
      rfl
    simp only [process, emptyTarget]
    show (orHalt (alignValues _ _ _ _ _) >>= _).run = _
    rw [hvalues]
    rfl

end Block

end DepthBridge
