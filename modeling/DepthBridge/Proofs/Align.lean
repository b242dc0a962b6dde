import DepthBridge.Proofs.Depth

/-!
# Depth aligned to another imager

Aligning moves each pixel of a depth image into the target imager's frame and keeps, at every
target pixel, a depth from the pixels that land there (`Block.landings`). The buffer starts
empty, all zeros, and a pixel takes an arriving depth when it is empty or the new depth is
nearer (`Block.nearer`).

So each target pixel folds the depths that land on it, in the order they arrive, and nothing
else (`getElem?_foldl_keepNearer`). Zero plays two parts there, the empty pixel and a depth that
rounds to zero; as long as no landing depth is zero, a pixel holds the least depth that lands on
it (`foldl_nearer_eq_min?`) and the order of the source pixels does not matter
(`foldl_keepNearer_perm`). A depth of zero breaks both: a later, farther depth replaces it
(`aligned_zero_overwritten`).

`Block.process_align` places the aligned image, with the target's size and calibration, in the
slot of the first 16-bit depth frame.
-/

namespace DepthBridge
namespace Block

/-! ## The depth buffer -/

/-- The depths that land on pixel `j`, in the order they arrive. -/
def depthsAt (hits : List (Nat × Nat)) (j : Nat) : List Nat := (hits.filter (·.1 = j)).map (·.2)

theorem depthsAt_cons (hit : Nat × Nat) (hits : List (Nat × Nat)) (j : Nat) :
    depthsAt (hit :: hits) j = if hit.1 = j then hit.2 :: depthsAt hits j else depthsAt hits j := by
  by_cases h : hit.1 = j <;> simp [depthsAt, h]

theorem size_foldl_keepNearer (hits : List (Nat × Nat)) (acc : Array Nat) :
    (hits.foldl keepNearer acc).size = acc.size := by
  induction hits generalizing acc with
  | nil => rfl
  | cons hit rest ih => rw [List.foldl_cons, ih, keepNearer, Array.size_modify]

/-- While every depth lands inside the buffer, placing the depths never halts and keeps the
nearer ones as `keepNearer` does. -/
theorem foldlM_placeNearer (hits : List (Nat × Nat)) (acc : Array Nat)
    (hin : ∀ hit ∈ hits, hit.1 < acc.size) :
    hits.foldlM placeNearer acc = .ok (hits.foldl keepNearer acc) := by
  induction hits generalizing acc with
  | nil => rfl
  | cons hit rest ih =>
    have hhit : hit.1 < acc.size := hin hit List.mem_cons_self
    have hsize : (keepNearer acc hit).size = acc.size := Array.size_modify ..
    rw [List.foldlM_cons, List.foldl_cons, placeNearer, if_pos hhit]
    exact ih _ fun h hm => hsize ▸ hin h (List.mem_cons_of_mem hit hm)

/-- Each pixel of the buffer folds the depths that land on it, in the order they arrive, and no
other depth. -/
theorem getElem?_foldl_keepNearer (hits : List (Nat × Nat)) (acc : Array Nat) (j : Nat) :
    (hits.foldl keepNearer acc)[j]? = acc[j]?.map fun a => (depthsAt hits j).foldl nearer a := by
  induction hits generalizing acc with
  | nil =>
    rw [List.foldl_nil]
    cases acc[j]? <;> rfl
  | cons hit rest ih =>
    rw [List.foldl_cons, ih, keepNearer, Array.getElem?_modify, depthsAt_cons]
    by_cases h : hit.1 = j
    · simp only [h, ↓reduceIte, Option.map_map, Function.comp_def, List.foldl_cons]
    · simp only [h, ↓reduceIte]

/-- An empty pixel takes the first depth that arrives. -/
@[simp] theorem nearer_zero_left (v : Nat) : nearer 0 v = v := by
  simp [nearer]

/-- Of two depths that are not zero, the buffer keeps the nearer one. -/
theorem nearer_of_ne_zero {a : Nat} (ha : a ≠ 0) (v : Nat) : nearer a v = min a v := by
  unfold nearer
  by_cases hv : v < a
  · simp [ha, hv, Nat.min_eq_right (Nat.le_of_lt hv)]
  · simp [ha, hv, Nat.min_eq_left (Nat.le_of_not_lt hv)]

/-- Two depths that are not zero arrive at a pixel in either order with the same result. -/
theorem nearer_right_comm (a : Nat) {x y : Nat} (hx : x ≠ 0) (hy : y ≠ 0) :
    nearer (nearer a x) y = nearer (nearer a y) x := by
  by_cases ha : a = 0
  · -- the empty pixel takes whichever comes first, and the other competes with it
    subst ha
    rw [nearer_zero_left, nearer_zero_left, nearer_of_ne_zero hx, nearer_of_ne_zero hy,
      Nat.min_comm]
  · have hax : min a x ≠ 0 := by omega
    have hay : min a y ≠ 0 := by omega
    rw [nearer_of_ne_zero ha, nearer_of_ne_zero ha, nearer_of_ne_zero hax, nearer_of_ne_zero hay,
      Nat.min_right_comm]

theorem foldl_nearer_eq_foldl_min {a : Nat} (ha : a ≠ 0) (vs : List Nat) (hvs : ∀ v ∈ vs, v ≠ 0) :
    vs.foldl nearer a = vs.foldl min a := by
  induction vs generalizing a with
  | nil => rfl
  | cons v rest ih =>
    have hmin : min a v ≠ 0 := by
      have := hvs v List.mem_cons_self
      omega
    rw [List.foldl_cons, List.foldl_cons, nearer_of_ne_zero ha,
      ih hmin fun w hw => hvs w (List.mem_cons_of_mem v hw)]

/-- An empty pixel that receives depths none of which is zero ends with the least of them, and
stays empty when it receives none. -/
theorem foldl_nearer_eq_min? (vs : List Nat) (hvs : ∀ v ∈ vs, v ≠ 0) :
    vs.foldl nearer 0 = vs.min?.getD 0 := by
  cases vs with
  | nil => rfl
  | cons v rest =>
    -- the first depth fills the empty pixel; the others compete with it
    have hv := hvs v List.mem_cons_self
    rw [List.foldl_cons, nearer_zero_left,
      foldl_nearer_eq_foldl_min hv rest fun w hw => hvs w (List.mem_cons_of_mem v hw),
      List.min?_cons']
    rfl

/-- Two depths that are not zero land in either order with the same result. -/
theorem keepNearer_comm (acc : Array Nat) {x y : Nat × Nat} (hx : x.2 ≠ 0) (hy : y.2 ≠ 0) :
    keepNearer (keepNearer acc x) y = keepNearer (keepNearer acc y) x := by
  apply Array.ext_getElem?
  intro j
  simp only [keepNearer, Array.getElem?_modify]
  by_cases hxj : x.1 = j <;> by_cases hyj : y.1 = j
  · -- both land on pixel `j`
    simp only [hxj, hyj, ↓reduceIte, Option.map_map, Function.comp_def,
      nearer_right_comm _ hx hy]
  · simp [hxj, hyj]
  · simp [hxj, hyj]
  · simp [hxj, hyj]

/-- As long as no landing depth is zero, the order in which the depths land does not matter. -/
theorem foldl_keepNearer_perm {hits hits' : List (Nat × Nat)} (hperm : hits.Perm hits')
    (hpos : ∀ h ∈ hits, h.2 ≠ 0) (acc : Array Nat) :
    hits.foldl keepNearer acc = hits'.foldl keepNearer acc :=
  hperm.foldl_eq' (fun x hx y hy z => keepNearer_comm z (hpos x hx) (hpos y hy)) acc

/-- A buffer pixel only ever holds depths that arrived, so a bound on them bounds it. -/
theorem foldl_nearer_lt {B a : Nat} (ha : a < B) (vs : List Nat) (hvs : ∀ v ∈ vs, v < B) :
    vs.foldl nearer a < B := by
  induction vs generalizing a with
  | nil => exact ha
  | cons v rest ih =>
    rw [List.foldl_cons]
    refine ih ?_ fun w hw => hvs w (List.mem_cons_of_mem v hw)
    unfold nearer
    split
    · exact hvs v List.mem_cons_self
    · exact ha

theorem mem_depthsAt {hits : List (Nat × Nat)} {j v : Nat} (h : v ∈ depthsAt hits j) :
    (j, v) ∈ hits := by
  obtain ⟨hit, hmem, rfl⟩ := List.mem_map.1 h
  obtain ⟨hmem, hj⟩ := List.mem_filter.1 hmem
  rw [← of_decide_eq_true hj]
  exact hmem

/-- A depth brought to the target is a 16-bit value. -/
theorem landing_depth_lt {ex : Extrinsics} {scale : Float32} {w : Nat} {k target : Intrinsics}
    {d i : Nat} {hit : Nat × Nat} (h : landing ex scale w k target d i = some hit) :
    hit.2 < 65536 := by
  unfold landing at h
  split at h
  · cases h
  · dsimp only at h
    split at h
    · cases h
    · split at h
      · cases h
      · cases h
        exact Depth.units_lt _ _

theorem landings_depth_lt {ex : Extrinsics} {scale : Float32} {video : VideoBuffer}
    {k target : Intrinsics} : ∀ hit ∈ landings ex scale video k target, hit.2 < 65536 := by
  intro hit hmem
  obtain ⟨⟨d, i⟩, -, h⟩ := List.mem_filterMap.1 hmem
  exact landing_depth_lt h

/-! ## The aligned image -/

/-- The aligned buffer, when the target's size fits 32 bits, the depth image has a width or
no depth at all, and every depth lands inside the target. -/
theorem alignValues_eq (ex : Extrinsics) (scale : Float32) {video : VideoBuffer}
    (k : Intrinsics) {target : Intrinsics} (hsize : target.width.toNat * target.height.toNat ≤ Checked.u32Max)
    (hwidth : video.width ≠ 0 ∨ ∀ d ∈ depthValues video, d = 0)
    (hinside : ∀ hit ∈ landings ex scale video k target,
      hit.1 < target.width.toNat * target.height.toNat) :
    alignValues ex scale video k target =
      .ok ((landings ex scale video k target).foldl keepNearer
        (Array.replicate (target.width.toNat * target.height.toNat) 0)).toList := by
  have hfits : ¬ target.width.toNat * target.height.toNat > Checked.u32Max := Nat.not_lt.2 hsize
  have hgo : ((depthValues video).any (· ≠ 0) && decide (video.width = 0)) = false := by
    rcases hwidth with hw | hz
    · simp [hw]
    · simp only [Bool.and_eq_false_iff, List.any_eq_false]
      exact .inl fun d hd hne => by simp [hz d hd] at hne
  have hplace := foldlM_placeNearer (landings ex scale video k target)
    (Array.replicate (target.width.toNat * target.height.toNat) 0)
    (by simpa only [Array.size_replicate] using hinside)
  simp only [alignValues, Checked.mulU32, hfits, ↓reduceIte, hgo, Bool.false_eq_true]
  show (List.foldlM placeNearer _ _ >>= fun buffer => pure buffer.toList) = _
  rw [hplace]
  rfl

/-- The aligned frame: the depth frame with the target's size and calibration and the aligned
values. -/
def alignedFrame (depth : Frame) (tk : Intrinsics) (values : List Nat) : Frame :=
  derived depth { depth.profile with width := tk.width, height := tk.height, intrinsics := some tk }
    (.video ⟨tk.width, tk.height, 2, ⟨(values.flatMap Depth.pairOf).toArray⟩⟩)

/-- Aligning replaces the first 16-bit depth frame by the aligned frame and leaves the other
frames. -/
theorem process_align {target : Profile} {tk : Intrinsics} (htk : target.intrinsics = some tk)
    (ex : Extrinsics) (scale : Float32) {s : Frameset} {slot : Nat} (hslot : firstDepth? s = some slot)
    {video : VideoBuffer} {k : Intrinsics}
    (hdepth : depthIntrinsics (s.frames.getD slot default) = some (video, k)) {values : List Nat}
    (hvalues : alignValues ex scale video k tk = .ok values) :
    (Block.align target ex scale).process s =
      .ok (.ok ⟨s.frames.set slot (alignedFrame (s.frames.getD slot default) tk values)⟩) := by
  simp only [process, htk, hslot, hdepth, orHalt]
  rw [hvalues]
  rfl

/-- Values below `2^16`, written as little-endian pairs, read back as they are. -/
theorem values_flatMap_pairOf {values : List Nat} (hv : ∀ v ∈ values, v < 65536) :
    Depth.values ⟨(values.flatMap Depth.pairOf).toArray⟩ = values := by
  have h := @Depth.values_flatMap_two _ Depth.pairOf (fun _ => rfl) values [] (by decide)
  rw [List.append_nil] at h
  rw [h]
  conv => rhs; rw [← List.map_id values]
  exact List.map_congr_left fun v hv' => by rw [Depth.pairOf_value, Nat.mod_eq_of_lt (hv v hv')]; rfl

/-- Aligning the first 16-bit depth frame of a frameset to a target with intrinsics gives a
result when the target's size fits 32 bits, the depth image has a width or no depth at all, and
every depth lands inside the target (a NaN projection lands on pixel 0, which a target without
pixels lacks). That frame is replaced by one with the target's size and calibration, the other
frames stay, and the new frame holds one value per target pixel, in rows. Each pixel holds the
depths that land on it folded in the order the source pixels are visited, an arriving depth taken
when the pixel is empty (zero) or the depth is nearer. When no landing depth is zero, that is
the least depth landing on the pixel, zero where none lands, and visiting the source pixels in
any other order gives the same image. -/
theorem align_keeps_nearest {target : Profile} {tk : Intrinsics} (htk : target.intrinsics = some tk)
    (ex : Extrinsics) (scale : Float32) {s : Frameset} {slot : Nat}
    (hslot : firstDepth? s = some slot) {video : VideoBuffer} {k : Intrinsics}
    (hdepth : depthIntrinsics (s.frames.getD slot default) = some (video, k))
    (hsize : tk.width.toNat * tk.height.toNat ≤ Checked.u32Max)
    (hwidth : video.width ≠ 0 ∨ ∀ d ∈ depthValues video, d = 0)
    (hinside : ∀ hit ∈ landings ex scale video k tk, hit.1 < tk.width.toNat * tk.height.toNat) :
    let hits := landings ex scale video k tk
    ∃ values, (Block.align target ex scale).process s =
        .ok (.ok ⟨s.frames.set slot (alignedFrame (s.frames.getD slot default) tk values)⟩) ∧
      Depth.values ⟨(values.flatMap Depth.pairOf).toArray⟩ = values ∧
      values.length = tk.width.toNat * tk.height.toNat ∧
      (∀ j < values.length, values[j]? = some ((depthsAt hits j).foldl nearer 0)) ∧
      ((∀ hit ∈ hits, hit.2 ≠ 0) →
        (∀ j < values.length, values[j]? = some ((depthsAt hits j).min?.getD 0)) ∧
        ∀ hits' : List (Nat × Nat), hits'.Perm hits →
          (hits'.foldl keepNearer (Array.replicate (tk.width.toNat * tk.height.toNat) 0)).toList =
            values) := by
  intro hits
  let size := tk.width.toNat * tk.height.toNat
  let buf := hits.foldl keepNearer (Array.replicate size 0)
  -- each pixel of the buffer folds its own landing depths from an empty pixel
  have hpixel : ∀ j < buf.toList.length,
      buf.toList[j]? = some ((depthsAt hits j).foldl nearer 0) := by
    intro j hj
    have hj' : j < size := by
      simpa [buf, size_foldl_keepNearer, size] using hj
    rw [Array.getElem?_toList, getElem?_foldl_keepNearer, Array.getElem?_replicate, if_pos hj']
    rfl
  have hbound : ∀ v ∈ buf.toList, v < 65536 := by
    intro v hv
    obtain ⟨j, hj, hjv⟩ := List.getElem_of_mem hv
    have h := hpixel j hj
    rw [List.getElem?_eq_getElem hj, hjv, Option.some.injEq] at h
    rw [h]
    exact foldl_nearer_lt (by decide) _ fun w hw => landings_depth_lt _ (mem_depthsAt hw)
  refine ⟨buf.toList, process_align htk ex scale hslot hdepth (alignValues_eq ex scale k hsize hwidth hinside),
    values_flatMap_pairOf hbound, ?_, hpixel, fun hpos => ⟨fun j hj => ?_, fun hits' hperm => ?_⟩⟩
  · rw [Array.length_toList, size_foldl_keepNearer, Array.size_replicate]
  · -- no landing depth is zero, so each pixel ends with the least of its depths
    rw [hpixel j hj, foldl_nearer_eq_min? _ fun v hv => hpos _ (mem_depthsAt hv)]
  · exact congrArg Array.toList
      (foldl_keepNearer_perm hperm (fun hit hm => hpos hit (hperm.mem_iff.1 hm)) _)

/-- A depth image two pixels wide and one high, seen with unit focal lengths from its corner,
with depths `first` and `second`. -/
def pairImage (first second : Nat) : VideoBuffer :=
  ⟨2, 1, 2, ⟨([first, second].flatMap Depth.pairOf).toArray⟩⟩

/-- The calibration of `pairImage`. -/
def pairIntrinsics : Intrinsics := ⟨2, 1, 1, 1, 0, 0, .brownConrady, []⟩

/-- A one-pixel imager with zero focal lengths: every point in front of it is seen at its only
pixel. -/
def pointIntrinsics : Intrinsics := ⟨1, 1, 0, 0, 0, 0, .brownConrady, []⟩

/-- The target imager 0.8 mm in front of the depth imager, looking the same way. -/
def nearTarget : Extrinsics := ⟨Extrinsics.identityRotation, [0, 0, -0.0008]⟩

/-- A frameset of one 16-bit depth frame holding `pairImage first second`. -/
def pairFrameset (first second : Nat) : Frameset :=
  ⟨[{ profile := ⟨⟨.depth, 0⟩, .z16, 2, 1, 30, some pairIntrinsics⟩, timestampMs := 0,
      domain := default, number := 0, payload := .video (pairImage first second) }]⟩

/-- The one-pixel target, a color imager. -/
def pointTarget : Profile := ⟨⟨.color, 0⟩, .rgb8, 1, 1, 30, some pointIntrinsics⟩

/-- Depths 3 and 5 mm both land on the one pixel of the target, 2.2 and 4.2 mm away. -/
theorem align_keeps_nearest_pair :
    firstDepth? (pairFrameset 3 5) = some 0 ∧
      landings nearTarget 0.001 (pairImage 3 5) pairIntrinsics pointIntrinsics = [(0, 2), (0, 4)] ∧
      ∃ values, (Block.align pointTarget nearTarget 0.001).process (pairFrameset 3 5) =
        .ok (.ok ⟨(pairFrameset 3 5).frames.set 0
          (alignedFrame ((pairFrameset 3 5).frames.getD 0 default) pointIntrinsics values)⟩) ∧
        values.length = 1 := by
  have hland : landings nearTarget 0.001 (pairImage 3 5) pairIntrinsics pointIntrinsics =
      [(0, 2), (0, 4)] := by decide +kernel
  obtain ⟨values, hprocess, -, hlength, -⟩ :=
    align_keeps_nearest (show pointTarget.intrinsics = some pointIntrinsics from rfl) nearTarget 0.001
      (show firstDepth? (pairFrameset 3 5) = some 0 from rfl)
      (show depthIntrinsics ((pairFrameset 3 5).frames.getD 0 default) =
        some (pairImage 3 5, pairIntrinsics) from rfl)
      (by decide) (.inl (by decide)) (by rw [hland]; decide)
  exact ⟨rfl, hland, values, hprocess, hlength⟩

/-- Depths 1 and 3 mm land on the one pixel of the target 0.2 and 2.2 mm away, which round to
the depths 0 and 2. The least is 0, but the zero is taken for an empty pixel: visited in this
order the pixel ends with 2, and in the other order with 0. -/
theorem aligned_zero_overwritten :
    landings nearTarget 0.001 (pairImage 1 3) pairIntrinsics pointIntrinsics = [(0, 0), (0, 2)] ∧
      alignValues nearTarget 0.001 (pairImage 1 3) pairIntrinsics pointIntrinsics = .ok [2] ∧
      landings nearTarget 0.001 (pairImage 3 1) pairIntrinsics pointIntrinsics = [(0, 2), (0, 0)] ∧
      alignValues nearTarget 0.001 (pairImage 3 1) pairIntrinsics pointIntrinsics = .ok [0] := by
  have hland : landings nearTarget 0.001 (pairImage 1 3) pairIntrinsics pointIntrinsics =
      [(0, 0), (0, 2)] := by decide +kernel
  have hland' : landings nearTarget 0.001 (pairImage 3 1) pairIntrinsics pointIntrinsics =
      [(0, 2), (0, 0)] := by decide +kernel
  refine ⟨hland, ?_, hland', ?_⟩
  · rw [alignValues_eq _ _ _ (by decide) (.inl (by decide)) (by rw [hland]; decide), hland]
    rfl
  · rw [alignValues_eq _ _ _ (by decide) (.inl (by decide)) (by rw [hland']; decide), hland']
    rfl

end Block
end DepthBridge
