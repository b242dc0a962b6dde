import DepthBridge.Device.Scene
import DepthBridge.Proofs.Decimation

/-!
# The images of the synthetic scene

A scene renders, at one instant, the depth image, the color image and, when the camera has them,
the two infrared images, in that order, each a full `width × height` buffer with 2, 3 and 1
bytes a pixel (`imageLayout`). The sizes are computed in 32 bits: the pixel and byte counts of
each image, and the color ramps `(width - 1) · 255` and `(height - 1) · 255`.
`frameset_renders_layout` says all of it:

* rendering returns exactly when these fit (`DeviceConfig.FitsU32`), and otherwise halts with a
  multiplication overflow;
* what it returns is the layout, each frame with the instant's number and timestamp and a well
  formed buffer (`VideoBuffer.WellFormed`, from decimation);
* an inertial sample is drawn exactly for the accelerometer and the gyroscope, a pose exactly
  when the camera has a pose tracker, each with the instant's number and timestamp.

Checking the settings bounds the size only from below, so a camera of 65536 × 65536 pixels is
accepted and halts the rendering (`frameset_overflows_at_65536`).
-/

namespace DepthBridge

/-- The 32-bit sizes a scene computes with fit for cameras of settings `c`: the byte count of the
color image, the largest, and the color ramps of a nonempty image. -/
def DeviceConfig.FitsU32 (c : DeviceConfig) : Prop :=
  c.width.toNat * c.height.toNat * 3 ≤ Checked.u32Max ∧
    (c.width.toNat * c.height.toNat = 0 ∨
      (c.width.toNat - 1) * 255 ≤ Checked.u32Max ∧ (c.height.toNat - 1) * 255 ≤ Checked.u32Max)

instance : DecidablePred DeviceConfig.FitsU32 := fun _ =>
  inferInstanceAs (Decidable (_ ∧ (_ ∨ _ ∧ _)))

/-- The images a camera of settings `c` renders at once, in order, with their bytes a pixel:
depth, color, then the two infrared imagers when it has them. -/
def imageLayout (c : DeviceConfig) : List (StreamKey × UInt32) :=
  [(⟨.depth, 0⟩, 2), (⟨.color, 0⟩, 3)] ++
    if c.enableInfrared then [(⟨.infrared, 1⟩, 1), (⟨.infrared, 2⟩, 1)] else []

/-- Frame `f` is a sample of stream `k` at the instant numbered `number` and stamped `ts`. -/
def SampleOf (k : StreamKey) (number : UInt64) (ts : Float) (f : Frame) : Prop :=
  f.key = k ∧ f.number = number ∧ f.timestampMs = ts

/-- Frame `f` is the image of stream `kb.1`, `kb.2` bytes a pixel, of a camera of settings `c`,
at the instant numbered `number` and stamped `ts`. -/
def RendersAs (c : DeviceConfig) (number : UInt64) (ts : Float) (f : Frame)
    (kb : StreamKey × UInt32) : Prop :=
  SampleOf kb.1 number ts f ∧
    ∃ v, f.payload = .video v ∧ v.width = c.width ∧ v.height = c.height ∧ v.bpp = kb.2 ∧
      v.WellFormed

namespace Scene

variable (s : Scene)

/-! ## The streams of the scene -/

@[simp] theorem videoProfile_key (c : DeviceConfig) (k : StreamKey) (f : PixelFormat) :
    (Simulated.videoProfile c k f).key = k := rfl

@[simp] theorem videoProfile_width (c : DeviceConfig) (k : StreamKey) (f : PixelFormat) :
    (Simulated.videoProfile c k f).width = c.width := rfl

@[simp] theorem videoProfile_height (c : DeviceConfig) (k : StreamKey) (f : PixelFormat) :
    (Simulated.videoProfile c k f).height = c.height := rfl

/-- A profile the scene finds is of the stream asked for. -/
theorem profile?_key {k : StreamKey} {p : Profile} (hp : p ∈ s.profile? k) : p.key = k := by
  unfold profile? at hp
  have h := List.find?_some (Option.mem_def.1 hp)
  exact beq_iff_eq.1 h

theorem profile?_depth :
    s.profile? ⟨.depth, 0⟩ = some (Simulated.videoProfile s.config ⟨.depth, 0⟩ .z16) := by
  simp [profile?, Simulated.profiles, Simulated.videoProfile]

theorem profile?_color :
    s.profile? ⟨.color, 0⟩ = some (Simulated.videoProfile s.config ⟨.color, 0⟩ .rgb8) := by
  simp [profile?, Simulated.profiles, Simulated.videoProfile, Simulated.motionProfile]

theorem profile?_accel :
    s.profile? ⟨.accel, 0⟩ = some (Simulated.motionProfile .accel s.config.accelHz) := by
  cases h : s.config.enableInfrared <;>
    simp [profile?, Simulated.profiles, Simulated.videoProfile, Simulated.motionProfile, h]

theorem profile?_gyro :
    s.profile? ⟨.gyro, 0⟩ = some (Simulated.motionProfile .gyro s.config.gyroHz) := by
  cases h : s.config.enableInfrared <;>
    simp [profile?, Simulated.profiles, Simulated.videoProfile, Simulated.motionProfile, h]

/-- Only a camera with a pose tracker has a pose stream. -/
theorem profile?_pose_isSome : (s.profile? ⟨.pose, 0⟩).isSome = s.config.enablePose := by
  cases h : s.config.enableInfrared <;> cases hp : s.config.enablePose <;>
    simp [profile?, Simulated.profiles, Simulated.videoProfile, Simulated.motionProfile, h, hp]

/-- The infrared imagers the scene renders: both, or none. -/
theorem infraredProfiles_eq :
    ([1, 2] : List UInt8).filterMap (fun i => s.profile? ⟨.infrared, i⟩) =
      if s.config.enableInfrared then
        [Simulated.videoProfile s.config ⟨.infrared, 1⟩ .y8,
         Simulated.videoProfile s.config ⟨.infrared, 2⟩ .y8]
      else [] := by
  cases h : s.config.enableInfrared <;> cases hp : s.config.enablePose <;>
    simp [profile?, Simulated.profiles, Simulated.videoProfile, Simulated.motionProfile, h, hp]

/-! ## The size checks -/

theorem mulU32_eq (a b : Nat) :
    Checked.mulU32 a b = if a * b ≤ Checked.u32Max then .ok (a * b) else .error .mulOverflow := by
  unfold Checked.mulU32
  by_cases h : a * b ≤ Checked.u32Max
  · rw [if_neg (Nat.not_lt.2 h), if_pos h]
  · rw [if_pos (Nat.lt_of_not_le h), if_neg h]

theorem checkSize_eq (p : Profile) {b : Nat} (hb : 0 < b) :
    checkSize p b =
      if p.width.toNat * p.height.toNat * b ≤ Checked.u32Max then .ok () else .error .mulOverflow := by
  have hle : p.width.toNat * p.height.toNat ≤ p.width.toNat * p.height.toNat * b :=
    Nat.le_mul_of_pos_right _ hb
  unfold checkSize
  simp only [mulU32_eq]
  by_cases h1 : p.width.toNat * p.height.toNat ≤ Checked.u32Max
  · rw [if_pos h1]
    simp only [bind, Except.bind]
    by_cases h : p.width.toNat * p.height.toNat * b ≤ Checked.u32Max
    · rw [if_pos h, if_pos h]
      rfl
    · rw [if_neg h, if_neg h]
      rfl
  · -- the pixel count alone overflows
    have h : ¬ p.width.toNat * p.height.toNat * b ≤ Checked.u32Max := fun h => h1 (Nat.le_trans hle h)
    rw [if_neg h1, if_neg h]
    rfl

theorem checkRamps_eq (p : Profile) :
    checkRamps p =
      if p.width.toNat * p.height.toNat = 0 ∨
          (p.width.toNat - 1) * 255 ≤ Checked.u32Max ∧ (p.height.toNat - 1) * 255 ≤ Checked.u32Max
      then .ok () else .error .mulOverflow := by
  unfold checkRamps
  simp only [mulU32_eq]
  by_cases h0 : p.width.toNat * p.height.toNat = 0
  · -- an empty image draws no ramp
    have h0' : (p.width.toNat = 0 || p.height.toNat = 0) = true := by
      simp only [Bool.or_eq_true, decide_eq_true_eq]
      exact Nat.mul_eq_zero.1 h0
    rw [if_pos (Or.inl h0)]
    simp only [h0', if_true]
    rfl
  · have h0' : (p.width.toNat = 0 || p.height.toNat = 0) = false := by
      simp only [Bool.or_eq_false_iff, decide_eq_false_iff_not]
      exact ⟨fun h => h0 (by simp [h]), fun h => h0 (by simp [h])⟩
    simp only [h0', Bool.false_eq_true, if_false, h0, false_or]
    by_cases hw : (p.width.toNat - 1) * 255 ≤ Checked.u32Max <;>
      by_cases hh : (p.height.toNat - 1) * 255 ≤ Checked.u32Max <;>
      simp only [hw, hh, if_true, if_false, and_true, and_false] <;> rfl

/-! ## The buffers -/

theorem foldl_size_of_push {σ : Type} (step : Array Float32 × σ → Nat → Array Float32 × σ)
    (hstep : ∀ acc i, (step acc i).1.size = acc.1.size + 1) :
    ∀ (l : List Nat) acc, (l.foldl step acc).1.size = acc.1.size + l.length
  | [], acc => rfl
  | i :: l, acc => by
    rw [List.foldl_cons, foldl_size_of_push step hstep l, hstep, List.length_cons]
    omega

/-- One depth a pixel, row by row. -/
theorem depths_length (rng : SeededRng) (w h : Nat) (secs : Float) :
    (depths rng w h secs).1.length = w * h := by
  unfold depths
  dsimp only
  rw [Array.length_toList, foldl_size_of_push _ ?_, List.length_range]
  · simp
  · intro acc i
    split <;> simp

theorem colorBytes_size (w h : Nat) (number : UInt64) : (colorBytes w h number).size = w * h * 3 := by
  simp only [colorBytes, ByteArray.size, List.size_toArray]
  rw [show w * h * 3 = (List.range (w * h)).length * 3 by rw [List.length_range]]
  exact length_flatMap_uniform fun _ _ => rfl

theorem frameOf_sampleOf {p : Profile} {k : StreamKey} {number : UInt64} {ts : Float}
    {payload : Payload} (hk : p.key = k) : SampleOf k number ts (s.frameOf p number ts payload) :=
  ⟨hk, rfl, rfl⟩

/-- A frame of the scene whose buffer is a full `width × height` image of `b` bytes a pixel is the
image of its stream in the layout. -/
theorem frameOf_rendersAs {p : Profile} {k : StreamKey} {b : UInt32} {data : ByteArray}
    {number : UInt64} {ts : Float} (hk : p.key = k)
    (hsize : data.size = s.config.width.toNat * s.config.height.toNat * b.toNat)
    (hfit : s.config.width.toNat * s.config.height.toNat * b.toNat ≤ Checked.u32Max)
    (hpix : s.config.width.toNat * s.config.height.toNat ≤ Checked.u32Max) :
    RendersAs s.config number ts
      (s.frameOf p number ts (.video ⟨s.config.width, s.config.height, b, data⟩)) (k, b) :=
  ⟨s.frameOf_sampleOf hk, _, rfl, rfl, rfl, rfl, ⟨hpix, hfit, hsize⟩⟩

/-! ## Rendering -/

theorem frameset_of_fits (number : UInt64) (ts : Float) (hf : s.config.FitsU32) :
    ∃ F s', s.frameset number ts = .ok (F, s') ∧
      List.Forall₂ (RendersAs s.config number ts) F.frames (imageLayout s.config) := by
  obtain ⟨h3, hr⟩ := hf
  have h2 : s.config.width.toNat * s.config.height.toNat * 2 ≤ Checked.u32Max := by omega
  have h1 : s.config.width.toNat * s.config.height.toNat ≤ Checked.u32Max := by omega
  unfold frameset
  simp only [profile?_depth, profile?_color, infraredProfiles_eq,
    checkSize_eq _ (show 0 < 2 by decide), checkSize_eq _ (show 0 < 3 by decide),
    checkSize_eq _ (show 0 < 1 by decide), checkRamps_eq, videoProfile_width, videoProfile_height,
    h3, h2, hr, if_true, Nat.mul_one]
  -- the depth buffer holds two bytes for each of its `w · h` depths
  have hdepth : ({ data := (List.flatMap (fun d => u16Bytes (units s.config.depthScale d))
      (depths s.rng s.config.width.toNat s.config.height.toNat (ts / 1000)).1).toArray } :
        ByteArray).size = s.config.width.toNat * s.config.height.toNat * 2 := by
    rw [ByteArray.size, List.size_toArray,
      ← depths_length s.rng s.config.width.toNat s.config.height.toNat (ts / 1000)]
    exact length_flatMap_uniform fun _ _ => rfl
  cases hir : s.config.enableInfrared
  · simp only [Bool.false_eq_true, if_false, bind, Except.bind, pure, Except.pure]
    refine ⟨_, _, rfl, ?_⟩
    simp only [imageLayout, hir, Bool.false_eq_true, if_false, List.append_nil, List.map_nil]
    exact .cons (s.frameOf_rendersAs rfl hdepth h2 h1)
      (.cons (s.frameOf_rendersAs rfl (colorBytes_size _ _ _) h3 h1) .nil)
  · simp only [if_true, List.forM_eq_forM, List.forM_cons, List.forM_nil, videoProfile_width,
      videoProfile_height, h1, bind, Except.bind, pure, Except.pure]
    refine ⟨_, _, rfl, ?_⟩
    simp only [imageLayout, hir, if_true, List.map_cons, List.map_nil, List.cons_append,
      List.nil_append, videoProfile_width, videoProfile_height]
    -- an infrared image holds one brightness for each of its `w · h` pixels
    have hir_size : ∀ f : Nat → UInt8, ({ data := ((List.range (s.config.width.toNat *
        s.config.height.toNat)).map f).toArray } : ByteArray).size =
        s.config.width.toNat * s.config.height.toNat * (1 : UInt32).toNat := fun f => by
      simp [ByteArray.size]
    have h1' :
        s.config.width.toNat * s.config.height.toNat * (1 : UInt32).toNat ≤ Checked.u32Max := by
      simpa using h1
    exact .cons (s.frameOf_rendersAs rfl hdepth h2 h1)
      (.cons (s.frameOf_rendersAs rfl (colorBytes_size _ _ _) h3 h1)
        (.cons (s.frameOf_rendersAs rfl (hir_size _) h1' h1)
          (.cons (s.frameOf_rendersAs rfl (hir_size _) h1' h1) .nil)))

theorem frameset_of_not_fits (number : UInt64) (ts : Float) (hf : ¬ s.config.FitsU32) :
    s.frameset number ts = .error .mulOverflow := by
  unfold frameset
  simp only [profile?_depth, profile?_color, checkSize_eq _ (show 0 < 2 by decide),
    checkSize_eq _ (show 0 < 3 by decide), checkRamps_eq, videoProfile_width, videoProfile_height]
  -- the first size that does not fit halts: the depth bytes, the color bytes, or a ramp
  by_cases h2 : s.config.width.toNat * s.config.height.toNat * 2 ≤ Checked.u32Max
  · by_cases h3 : s.config.width.toNat * s.config.height.toNat * 3 ≤ Checked.u32Max
    · have hr : ¬ (s.config.width.toNat * s.config.height.toNat = 0 ∨
          (s.config.width.toNat - 1) * 255 ≤ Checked.u32Max ∧
            (s.config.height.toNat - 1) * 255 ≤ Checked.u32Max) := fun hr => hf ⟨h3, hr⟩
      simp only [h2, h3, hr, if_true, if_false, bind, Except.bind, pure, Except.pure]
    · simp only [h2, h3, if_true, if_false, bind, Except.bind, pure, Except.pure]
  · simp only [h2, if_false, bind, Except.bind]

/-! ## Inertial samples and poses -/

/-- An inertial sample is drawn exactly for the accelerometer and the gyroscope. -/
theorem motion_sampleOf (kind : StreamKind) (number : UInt64) (ts : Float) :
    ((s.motion kind number ts).1.isSome ↔ kind = .accel ∨ kind = .gyro) ∧
      ∀ f ∈ (s.motion kind number ts).1, SampleOf ⟨kind, 0⟩ number ts f := by
  cases kind
  case accel =>
    simp only [motion, profile?_accel, Option.map_some, Option.isSome_some, true_or,
      Option.mem_def, Option.some.injEq, true_and]
    rintro f rfl
    exact s.frameOf_sampleOf rfl
  case gyro =>
    simp only [motion, profile?_gyro, Option.map_some, Option.isSome_some, or_true,
      Option.mem_def, Option.some.injEq, true_and]
    rintro f rfl
    exact s.frameOf_sampleOf rfl
  all_goals simp [motion]

/-- A pose is drawn exactly when the camera has a pose tracker. -/
theorem pose_sampleOf (number : UInt64) (ts : Float) :
    (s.pose number ts).isSome = s.config.enablePose ∧
      ∀ f ∈ s.pose number ts, SampleOf ⟨.pose, 0⟩ number ts f := by
  refine ⟨by rw [pose, Option.isSome_map, profile?_pose_isSome], ?_⟩
  intro f hf
  obtain ⟨p, hp, rfl⟩ := Option.map_eq_some_iff.1 hf
  exact s.frameOf_sampleOf (s.profile?_key hp)

/-! ## The layout -/

/-- What a scene renders at one instant. The images are the layout of the camera, each with the
instant's number and timestamp and a full well-formed buffer, and they are rendered exactly when
their 32-bit sizes fit; otherwise rendering halts on the overflow. Inertial samples are drawn for
the accelerometer and the gyroscope, a pose when the camera tracks one. -/
theorem frameset_renders_layout (number : UInt64) (ts : Float) :
    ((∃ r, s.frameset number ts = .ok r) ↔ s.config.FitsU32) ∧
    (¬ s.config.FitsU32 → s.frameset number ts = .error .mulOverflow) ∧
    (∀ F s', s.frameset number ts = .ok (F, s') →
      List.Forall₂ (RendersAs s.config number ts) F.frames (imageLayout s.config)) ∧
    (∀ kind, ((s.motion kind number ts).1.isSome ↔ kind = .accel ∨ kind = .gyro) ∧
      ∀ f ∈ (s.motion kind number ts).1, SampleOf ⟨kind, 0⟩ number ts f) ∧
    ((s.pose number ts).isSome = s.config.enablePose ∧
      ∀ f ∈ s.pose number ts, SampleOf ⟨.pose, 0⟩ number ts f) := by
  refine ⟨⟨?_, fun hf => ?_⟩, s.frameset_of_not_fits number ts, ?_,
    fun kind => s.motion_sampleOf kind number ts, s.pose_sampleOf number ts⟩
  · rintro ⟨r, hr⟩
    by_contra hf
    rw [s.frameset_of_not_fits number ts hf] at hr
    cases hr
  · obtain ⟨F, s', hok, -⟩ := s.frameset_of_fits number ts hf
    exact ⟨_, hok⟩
  · intro F s' hok
    -- a result is only ever returned when the sizes fit, and then it is the layout
    have hf : s.config.FitsU32 := by
      by_contra hf
      rw [s.frameset_of_not_fits number ts hf] at hok
      cases hok
    obtain ⟨F', s'', hok', hlay⟩ := s.frameset_of_fits number ts hf
    rw [hok] at hok'
    cases hok'
    exact hlay

/-- The settings check bounds the resolution only from below: a camera of 65536 × 65536 pixels
is accepted, and its depth image alone has more bytes than 32 bits count. -/
theorem frameset_overflows_at_65536 :
    Simulated.validate { width := 65536, height := 65536 } = .ok () ∧
      ∃ s, Scene.create { width := 65536, height := 65536 } 0 = .ok s ∧
        s.frameset 1 0 = .error .mulOverflow :=
  ⟨rfl, _, rfl, frameset_of_not_fits _ 1 0 (by decide)⟩

end Scene
end DepthBridge