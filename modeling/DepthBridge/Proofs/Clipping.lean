import DepthBridge.Proofs.Depth
import DepthBridge.Proofs.Image

/-!
# No depth image beyond the clipping distance

With a positive clipping distance `c` and a camera whose depth unit is the millimeter, the
dispatcher clears every depth value above `Depth.clipThreshold c 0.001` before it publishes:
`publishedDepth_within_clip` says that, over any run of samples, every 16-bit image published on
the image channel of a depth stream holds no value above the threshold.

Two things have to hold of the samples for that. A frameset is clipped at its first depth frame
only, so it may carry one depth frame at most; and only a frame in the 16-bit depth format is
clipped, so a depth frame of 2-byte pixels has to be in that format (`Sample.ClipCovered`).
The pipeline may be any selection of the simulated camera's blocks, enabled or not.

The statement is an invariant of the dispatcher (`Dispatcher.ClipsAt`), kept by every
handler in the calculus of `Handling.Keeps`: one lemma per handler, each from the lemmas of the
handlers it calls, and the run theorem from `Handling.Keeps.handleAll`.
-/

namespace DepthBridge

/-- The stream of an image channel. -/
def Channel.imageKey? : Channel → Option StreamKey
  | .image k => some k
  | _ => none

/-- The image a message carries. -/
def Message.image? : Message → Option ImageMessage
  | .image img => some img
  | _ => none

/-- A publication keeps to threshold `t`: a 16-bit image published on the image channel of a
depth stream holds no value above `t`. -/
def PublishedWithinClip (t : Nat) (p : Channel × Message) : Prop :=
  ∀ k ∈ p.1.imageKey?, k.kind = .depth →
    ∀ img ∈ p.2.image?, img.encoding = "16UC1" → Depth.Within t img.data

instance (t : Nat) : DecidablePred (PublishedWithinClip t) := fun p =>
  @Option.decidableForallMem _ _
    (fun _ => @forall_prop_decidable _ _ _
      (fun _ => @Option.decidableForallMem _ _
        (fun _ => @forall_prop_decidable _ _ _ (fun _ => List.decidableBAll _ _)) p.2.image?))
    p.1.imageKey?

/-- Only images are checked. -/
theorem publishedWithinClip_of_image?_eq_none {t : Nat} {p : Channel × Message}
    (h : p.2.image? = none) : PublishedWithinClip t p := by
  intro _ _ _ img himg
  rw [h] at himg
  cases himg

/-- Only the image channels are checked. -/
theorem publishedWithinClip_of_imageKey?_eq_none {t : Nat} {p : Channel × Message}
    (h : p.1.imageKey? = none) : PublishedWithinClip t p := by
  intro k hk
  rw [h] at hk
  cases hk


/-- Only 2-byte pixels are published as 16-bit images. -/
theorem encodingFor_eq_16UC1 {b : UInt32} (h : encodingFor b = some "16UC1") : b = 2 := by
  unfold encodingFor at h
  split at h <;> simp_all

/-- Every frame a frameset within the threshold hands out is within it: the frames it holds,
and the default frame, which carries no pixels. -/
theorem Frameset.WithinClip.getD {t : Nat} {s : Frameset} (hs : s.WithinClip t) (i : Nat) :
    (s.frames.getD i default).WithinClip t := by
  rw [List.getD_eq_getElem?_getD]
  cases h : s.frames[i]? with
  | none => exact Block.withinClip_of_bpp rfl (by decide)
  | some f => exact hs f (List.mem_of_getElem? h)

/-- A frame of another stream kind than depth is within any threshold. -/
theorem Frame.withinClip_of_kind_ne {t : Nat} {f : Frame} (h : f.kind ≠ .depth) : f.WithinClip t :=
  fun hk => absurd hk h

/-- Once its first depth frame is clipped, a frameset of one depth frame at most is within the
threshold, when its depth frames of 2-byte pixels are in the 16-bit format. -/
theorem Dispatcher.withinClip_clipFirstDepth {β : Type} (d : Dispatcher β) {s : Frameset}
    (hc : ¬ d.clipDistance ≤ 0) (hsc : ¬ d.depthScale ≤ 0)
    (hone : s.frames.countP (·.kind == .depth) ≤ 1) (hz : ∀ f ∈ s.frames, f.DepthIsZ16) :
    (d.clipFirstDepth s).WithinClip (Depth.clipThreshold d.clipDistance d.depthScale) := by
  unfold Dispatcher.clipFirstDepth
  split
  next i hi =>
    obtain ⟨hlt, hdepth, -⟩ := List.findIdx?_eq_some_iff_getElem.1 hi
    -- the clipped frame is the only depth frame, so the others are no depth frames
    have hcount := hone
    rw [← List.take_append_drop i s.frames, List.drop_eq_getElem_cons hlt, List.countP_append,
      @List.countP_cons_of_pos _ (fun f : Frame => f.kind == .depth) _ _ hdepth] at hcount
    have hother : ∀ f ∈ s.frames.take i ++ s.frames.drop (i + 1), f.kind ≠ .depth := by
      have h0 : (s.frames.take i ++ s.frames.drop (i + 1)).countP (·.kind == .depth) = 0 := by
        rw [List.countP_append]
        omega
      intro f hf hk
      exact List.countP_eq_zero.1 h0 f hf (by simpa using hk)
    intro f hf
    rw [List.modify_eq_take_cons_drop hlt] at hf
    rcases List.mem_append.1 hf with hf | hf
    · exact Frame.withinClip_of_kind_ne (hother f (List.mem_append_left _ hf))
    rcases List.mem_cons.1 hf with rfl | hf
    · exact d.withinClip_clip hc hsc (hz _ (List.getElem_mem hlt))
    · exact Frame.withinClip_of_kind_ne (hother f (List.mem_append_right _ hf))
  next hi =>
    intro f hf
    refine Frame.withinClip_of_kind_ne fun hk => ?_
    simpa [hk] using List.findIdx?_eq_none_iff.1 hi f hf

/-- The depth of a sample is within reach of the dispatcher's clipping: a frameset carries one
depth frame at most, and every depth frame of 2-byte pixels is in the 16-bit format. -/
def Sample.ClipCovered : Sample → Prop
  | .frameset s => s.frames.countP (·.kind == .depth) ≤ 1 ∧ ∀ f ∈ s.frames, f.DepthIsZ16
  | .frame f => f.DepthIsZ16

instance : DecidablePred Sample.ClipCovered
  | .frameset s => @instDecidableAnd _ _ (Nat.decLe _ _) (List.decidableBAll _ s.frames)
  | .frame f => inferInstanceAs (Decidable f.DepthIsZ16)

/-- The stages of a pipeline configured over the simulated camera hold its blocks. -/
theorem Pipeline.ofConfig_ofSimulated {dc : DeviceConfig} {device : Device}
    (h : Device.simulated dc = .ok device) (filters : List FilterConfig) (pc : PointCloudConfig) :
    ∀ st ∈ (Pipeline.ofConfig filters device pc).stages, st.block.OfSimulated := by
  have hblock : device.block = Simulated.block dc := by
    unfold Device.simulated at h
    cases hv : Simulated.validate dc with
    | error e =>
      rw [hv] at h
      cases h
    | ok u =>
      rw [hv] at h
      cases Except.ok.inj h
      rfl
  intro st hst
  obtain ⟨f, -, hf⟩ := List.mem_filterMap.1 hst
  obtain ⟨b, hb, rfl⟩ := Option.map_eq_some_iff.1 hf
  exact ⟨dc, f.name, hblock ▸ hb⟩

/-- The dispatcher clips at distance `c` on a millimeter camera, its pipeline is made of the
simulated camera's blocks, and the bus holds no depth image beyond the threshold. -/
structure Dispatcher.ClipsAt (c : Float32) (d : Dispatcher RecordingBus) : Prop where
  distance : d.clipDistance = c
  scale : d.depthScale = 0.001
  blocks : ∀ st ∈ d.pipeline.stages, st.block.OfSimulated
  bus : ∀ p ∈ d.bus.published, PublishedWithinClip (Depth.clipThreshold c 0.001) p

namespace Dispatcher.ClipsAt

variable {c : Float32} {d : Dispatcher RecordingBus}

/-- The invariant reads the clipping distance, the depth unit, the pipeline and the bus only. -/
theorem of_eq (hd : d.ClipsAt c) {d' : Dispatcher RecordingBus}
    (h₁ : d'.clipDistance = d.clipDistance) (h₂ : d'.depthScale = d.depthScale)
    (h₃ : d'.pipeline = d.pipeline) (h₄ : d'.bus = d.bus) : d'.ClipsAt c :=
  ⟨h₁ ▸ hd.distance, h₂ ▸ hd.scale, h₃ ▸ hd.blocks, h₄ ▸ hd.bus⟩

/-- Publishing messages within the threshold keeps the invariant. -/
theorem publishAll (hd : d.ClipsAt c) (ms : List (Channel × Message))
    (hms : ∀ p ∈ ms, PublishedWithinClip (Depth.clipThreshold c 0.001) p) :
    { d with bus := MessageBus.publishAll d.bus ms }.ClipsAt c := by
  refine ⟨hd.distance, hd.scale, hd.blocks, fun p hp => ?_⟩
  rw [RecordingBus.publishAll_eq] at hp
  rcases List.mem_append.1 hp with hp | hp
  · exact hd.bus p hp
  · exact hms p hp

theorem publish (hd : d.ClipsAt c) {ch : Channel} {m : Message}
    (hm : PublishedWithinClip (Depth.clipThreshold c 0.001) (ch, m)) :
    { d with bus := MessageBus.publish d.bus ch m }.ClipsAt c := by
  exact hd.publishAll [(ch, m)] (by simpa using hm)

/-- The gate only adds combined inertial messages. -/
theorem deliveredOn (hd : d.ClipsAt c) (g : Gate ImuMessage) (ms : List ImuMessage) :
    { d with gate := g, bus := Gate.deliveredOn d.bus ms }.ClipsAt c := by
  refine ⟨hd.distance, hd.scale, hd.blocks, fun p hp => ?_⟩
  rcases List.mem_append.1 hp with hp | hp
  · exact hd.bus p hp
  · obtain ⟨m, -, rfl⟩ := List.mem_map.1 hp
    exact publishedWithinClip_of_imageKey?_eq_none rfl

/-- A frame within reach of clipping is within the threshold once clipped. -/
theorem withinClip_clip (hd : d.ClipsAt c) (hc : 0 < c) {f : Frame} (hf : f.DepthIsZ16) :
    (d.clip f).WithinClip (Depth.clipThreshold c 0.001) := by
  have h := d.withinClip_clip (by rw [hd.distance]; exact Float32.not_le_zero_of_pos hc)
    (by rw [hd.scale]; decide +kernel) hf
  rwa [hd.distance, hd.scale] at h

theorem withinClip_clipFirstDepth (hd : d.ClipsAt c) (hc : 0 < c) {s : Frameset}
    (hone : s.frames.countP (·.kind == .depth) ≤ 1) (hz : ∀ f ∈ s.frames, f.DepthIsZ16) :
    (d.clipFirstDepth s).WithinClip (Depth.clipThreshold c 0.001) := by
  have h := d.withinClip_clipFirstDepth (by rw [hd.distance]; exact Float32.not_le_zero_of_pos hc)
    (by rw [hd.scale]; decide +kernel) hone hz
  rwa [hd.distance, hd.scale] at h

end Dispatcher.ClipsAt

/-! ## What each operation and handler keeps -/

namespace Dispatching

variable {c : Float32} {α : Type}

theorem timed_keeps_clipsAt (f : Timed α) :
    Keeps (Dispatcher.ClipsAt c) (timed f : Dispatching RecordingBus α) :=
  keeps_timed f fun _ _ hd => hd.of_eq rfl rfl rfl rfl

theorem count_keeps_clipsAt (f : Metrics → Metrics) :
    Keeps (Dispatcher.ClipsAt c) (count f : Dispatching RecordingBus Unit) :=
  keeps_count f fun _ _ hd => hd.of_eq rfl rfl rfl rfl

/-- Publishing on a channel that carries no image keeps the invariant. -/
theorem publish_keeps_clipsAt {ch : Channel} (hch : ch.imageKey? = none) (m : Message) :
    Keeps (Dispatcher.ClipsAt c) (publish ch m : Dispatching RecordingBus Unit) :=
  keeps_publish fun _ hd => hd.publish (publishedWithinClip_of_imageKey?_eq_none hch)

/-- The gate, paused or resumed, only adds combined inertial messages. -/
theorem takeGuard_keeps_clipsAt :
    Keeps (Dispatcher.ClipsAt c) (takeGuard : Dispatching RecordingBus Gate.Guard) :=
  keeps_takeGuard fun _ hd => hd.of_eq rfl rfl rfl rfl

theorem resume_keeps_clipsAt :
    Keeps (Dispatcher.ClipsAt c) (resume : Dispatching RecordingBus (Except SyncError Nat)) :=
  keeps_withGate fun d hd => by
    obtain ⟨ms, hms⟩ := Gate.resume_recording d.gate d.bus
    rw [show ((d.gate.resume deliver).run d.bus).2 = Gate.deliveredOn d.bus ms from hms]
    exact hd.deliveredOn _ ms

end Dispatching

namespace Handling

open Dispatching

variable {c : Float32}

/-- Publishing an image keeps the invariant when the pixels that may go to the image channel of
a depth stream hold no 2-byte value above the threshold. -/
theorem publishImage_keeps_clipsAt {frame : Frame} {key : StreamKey} {cal : Profile}
    {imageCh infoCh : Channel} {stamp : Stamp}
    (himg : ∀ k ∈ imageCh.imageKey?, k.kind = .depth →
      ∀ v ∈ frame.video?, v.bpp = 2 → Depth.Within (Depth.clipThreshold c 0.001) v.data) :
    Keeps (Dispatcher.ClipsAt c)
      (publishImage frame key cal imageCh infoCh stamp : Handling RecordingBus Bool) := by
  intro d hd
  rcases publishImage_cases frame key cal imageCh infoCh stamp d with h | ⟨v, enc, step, r, reg, hv, he, -, h⟩
  · rw [h]
    exact hd
  · rw [h]
    -- the record goes to the registry, which the invariant does not read
    have hd' : ({ d with calibration := reg } : Dispatcher RecordingBus).ClipsAt c :=
      hd.of_eq rfl rfl rfl rfl
    refine hd'.publishAll _ fun p hp => ?_
    simp only [Dispatcher.imagePair, List.mem_cons, List.mem_nil_iff, or_false] at hp
    rcases hp with rfl | rfl
    · exact publishedWithinClip_of_image?_eq_none rfl
    · intro k hk hkd img himg' henc
      cases himg'
      have hb : v.bpp = 2 := encodingFor_eq_16UC1 (henc ▸ he)
      -- on a millimeter camera the pixels go out as they came
      show Depth.Within _ (if frame.isDepthZ16 then Depth.fixScale v.data d.depthScale else v.data)
      rw [hd.scale, Depth.fixScale_millimeter, ite_self]
      exact himg k hk hkd v hv hb

theorem publishFrame_keeps_clipsAt {frame : Frame} {stamp : Stamp}
    (hf : frame.WithinClip (Depth.clipThreshold c 0.001)) :
    Keeps (Dispatcher.ClipsAt c) (publishFrame frame stamp : Handling RecordingBus Bool) := by
  refine publishImage_keeps_clipsAt fun k hk hkd => ?_
  cases hk
  exact hf hkd

/-- Aligned depth goes to channels of its own, which the invariant does not check. -/
theorem publishAligned_keeps_clipsAt (depth : Frame) (target : Profile) (stamp : Stamp) :
    Keeps (Dispatcher.ClipsAt c) (publishAligned depth target stamp : Handling RecordingBus Bool) :=
  publishImage_keeps_clipsAt fun k hk => by cases hk

/-- A point cloud leaves the state as it was, or adds its cloud to the bus. -/
theorem publishPoints_cases {β : Type} [MessageBus β] (p : PointsBuffer) (stamp : Stamp)
    (s : Frameset) (d : Dispatcher β) :
    stateOf ((publishPoints p stamp s).run.run d) = d ∨
      ∃ m, stateOf ((publishPoints p stamp s).run.run d) =
        { d with bus := MessageBus.publish d.bus .pointCloud (.pointCloud m) } :=
  (publishPoints_triple p stamp s d).stays_or_sends

theorem publishPoints_keeps_clipsAt (p : PointsBuffer) (stamp : Stamp) (s : Frameset) :
    Keeps (Dispatcher.ClipsAt c) (publishPoints p stamp s : Handling RecordingBus Bool) := by
  intro d hd
  rcases publishPoints_cases p stamp s d with h | ⟨m, h⟩
  · rw [h]
    exact hd
  · rw [h]
    exact hd.publish (publishedWithinClip_of_imageKey?_eq_none rfl)

/-- Every selected frame of a frameset within the threshold goes out within it. -/
theorem publishSelected_keeps_clipsAt {s : Frameset} (hs : s.WithinClip (Depth.clipThreshold c 0.001))
    (stamp : Stamp) (ps : List Nat) :
    Keeps (Dispatcher.ClipsAt c) (publishSelected s stamp ps : Handling RecordingBus Nat) := by
  induction ps with
  | nil => exact keeps_pure 0
  | cons i rest ih =>
    rw [publishSelected_cons]
    refine Keeps.bind ?_ fun sent => ?_
    · unfold sendFrame
      split
      · exact publishPoints_keeps_clipsAt _ stamp s
      · exact publishFrame_keeps_clipsAt (hs.getD i)
    · dsimp only
      split
      · exact (keeps_lift (count_keeps_clipsAt _)).bind fun _ => ih.bind fun n => keeps_pure _
      · exact ih.bind fun n => keeps_pure _

/-- Processing a frameset keeps the invariant when the depth of the frameset is within reach of
clipping. -/
theorem processFrameset_keeps_clipsAt (hc : 0 < c) {s : Frameset}
    (hone : s.frames.countP (·.kind == .depth) ≤ 1) (hz : ∀ f ∈ s.frames, f.DepthIsZ16) :
    Keeps (Dispatcher.ClipsAt c) (processFrameset s : Handling RecordingBus Nat) := by
  unfold processFrameset
  split
  · refine keeps_lift_get_bind fun d hd => ?_
    refine Keeps.bind (keeps_lift (timed_keeps_clipsAt _)) fun r => ?_
    obtain ⟨_, base⟩ := r
    refine Keeps.bind (keeps_lift (keeps_modify fun _ hd' => hd'.of_eq rfl rfl rfl rfl)) fun _ => ?_
    refine Keeps.bind (keeps_lift (timed_keeps_clipsAt _)) fun stamp => ?_
    -- the clipped frameset is within the threshold, and so is what the pipeline makes of it
    dsimp only
    split
    next filtered hf =>
      have hfiltered := Pipeline.process_withinClip hd.blocks (hd.withinClip_clipFirstDepth hc hone hz) hf
      rw [pure_bind]
      refine (publishSelected_keeps_clipsAt hfiltered stamp _).bind fun n => ?_
      -- aligned depth goes to channels of its own, which the invariant does not check
      refine keeps_ite (Keeps.bind ?_ fun _ => keeps_pure _) (keeps_pure _)
      exact keeps_publishAlignedDepth (fun depth target => publishAligned_keeps_clipsAt depth target stamp) _
    · exact keeps_throw_bind _ _
    · exact keeps_lift_throw_bind _ _
  · exact keeps_pure 0

theorem onVideoFrame_keeps_clipsAt (hc : 0 < c) {frame : Frame} (hz : frame.DepthIsZ16) :
    Keeps (Dispatcher.ClipsAt c) (onVideoFrame frame : Handling RecordingBus Unit) := by
  unfold onVideoFrame sendVideoFrame
  refine Keeps.bind (keeps_lift (keeps_paused ?_ takeGuard_keeps_clipsAt resume_keeps_clipsAt)) fun r => ?_
  · refine keeps_get_bind fun d hd => (timed_keeps_clipsAt _).bind fun stamp => ?_
    exact (publishFrame_keeps_clipsAt (hd.withinClip_clip hc hz)).run
  · obtain ⟨published, resumed⟩ := r
    dsimp only
    split
    · exact keeps_throw_bind _ _
    · exact keeps_liftM_bind published fun sent =>
        keeps_ite (keeps_lift (count_keeps_clipsAt _)) (keeps_pure ())

/-- The combined inertial messages go through the gate, which adds only such messages. -/
theorem sendCombined_keeps_clipsAt (frameId : String) (us : List UnifiedInertial) :
    Keeps (Dispatcher.ClipsAt c) (sendCombined frameId us : Handling RecordingBus Unit) := by
  induction us with
  | nil => exact keeps_pure ()
  | cons u rest ih =>
    rw [sendCombined]
    refine keeps_lift_get_bind fun d _ => ?_
    refine Keeps.bind (keeps_lift (timed_keeps_clipsAt _)) fun stamp => ?_
    refine Keeps.bind (keeps_lift (keeps_withGate fun d' hd' => ?_)) fun r => ?_
    · obtain ⟨ms, hms⟩ := Gate.publish_recording d'.gate d'.bus (u.toMessage stamp frameId d.covariance)
      rw [show ((d'.gate.publish deliver (u.toMessage stamp frameId d.covariance)).run d'.bus).2 =
        Gate.deliveredOn d'.bus ms from hms]
      exact hd'.deliveredOn _ ms
    · split
      · exact ih
      · exact keeps_throw _

theorem handleImu_keeps_clipsAt (frame : Frame) :
    Keeps (Dispatcher.ClipsAt c) (handleImu frame : Handling RecordingBus Nat) := by
  unfold handleImu
  split
  · refine keeps_lift_get_bind fun d _ => ?_
    have hskip : Keeps (Dispatcher.ClipsAt c) (skip >>= fun _ => pure 0 : Handling RecordingBus Nat) :=
      (keeps_lift (count_keeps_clipsAt _)).bind fun _ => keeps_pure 0
    split
    · -- combined: the gate takes what the synchronizer makes of the sample
      refine Keeps.bind (keeps_lift (keeps_listened _)) fun _ => keeps_ite hskip ?_
      refine (keeps_reading frame).bind fun r => ?_
      split
      refine (keeps_lift (keeps_modify fun _ hd => hd.of_eq rfl rfl rfl rfl)).bind fun _ => ?_
      refine (sendCombined_keeps_clipsAt _ _).bind fun _ => ?_
      exact (keeps_lift (count_keeps_clipsAt _)).bind fun _ => keeps_pure _
    · -- single: one inertial message on the sample's own channel
      refine Keeps.bind (keeps_lift (keeps_listened _)) fun _ => keeps_ite hskip ?_
      refine (keeps_reading frame).bind fun r => ?_
      refine Keeps.bind (keeps_lift (timed_keeps_clipsAt _)) fun stamp => ?_
      refine (keeps_lift (publish_keeps_clipsAt rfl _)).bind fun _ => ?_
      exact (keeps_lift (count_keeps_clipsAt _)).bind fun _ => keeps_pure _
  · exact keeps_throw _

/-- A pose publishes transforms and odometry. -/
theorem handlePose_keeps_clipsAt (frame : Frame) :
    Keeps (Dispatcher.ClipsAt c) (handlePose frame : Handling RecordingBus Unit) := by
  unfold handlePose
  split
  · refine (keeps_contract _).bind fun data => keeps_lift_get_bind fun d _ => ?_
    refine Keeps.bind (keeps_lift (timed_keeps_clipsAt _)) fun stamp => ?_
    dsimp only
    -- the transforms, if configured; then the odometry, if anybody listens
    refine keeps_ite ((keeps_lift (publish_keeps_clipsAt rfl _)).bind fun _ => ?_) ?_
    all_goals
      refine Keeps.bind (keeps_lift (keeps_listened _)) fun _ => keeps_ite ?_ ?_
      · exact (keeps_lift (count_keeps_clipsAt _)).bind fun _ => keeps_pure ()
      refine Keeps.bind (keeps_lift (keeps_orHalt _)) fun _ => ?_
      exact (keeps_lift (publish_keeps_clipsAt rfl _)).bind fun _ => keeps_lift (count_keeps_clipsAt _)
  · exact keeps_throw _

theorem onFrame_keeps_clipsAt (hc : 0 < c) {frame : Frame} (hz : frame.DepthIsZ16) :
    Keeps (Dispatcher.ClipsAt c) (onFrame frame : Handling RecordingBus Unit) := by
  unfold onFrame
  refine keeps_lift_get_bind fun d _ => ?_
  refine Keeps.bind (keeps_lift (timed_keeps_clipsAt _)) fun r => ?_
  obtain ⟨_, base⟩ := r
  refine Keeps.bind (keeps_lift (keeps_modify fun _ hd => hd.of_eq rfl rfl rfl rfl)) fun _ => ?_
  split
  · exact (handleImu_keeps_clipsAt frame).discard
  · exact handlePose_keeps_clipsAt frame
  · exact onVideoFrame_keeps_clipsAt hc hz
  · exact keeps_throw _

end Handling

namespace Dispatching

variable {c : Float32}

theorem onFrameset_keeps_clipsAt (hc : 0 < c) {s : Frameset}
    (hone : s.frames.countP (·.kind == .depth) ≤ 1) (hz : ∀ f ∈ s.frames, f.DepthIsZ16) :
    Keeps (Dispatcher.ClipsAt c) (onFrameset s : Dispatching RecordingBus Unit) := by
  unfold onFrameset
  refine Keeps.bind (keeps_paused (Handling.processFrameset_keeps_clipsAt hc hone hz).run
    takeGuard_keeps_clipsAt resume_keeps_clipsAt) fun r => ?_
  exact count_keeps_clipsAt _

end Dispatching

theorem Handling.onSample_keeps_clipsAt {c : Float32} (hc : 0 < c) {x : Sample}
    (hx : x.ClipCovered) :
    Handling.Keeps (Dispatcher.ClipsAt c) (Handling.onSample x : Handling RecordingBus Unit) := by
  cases x with
  | frameset s => exact Handling.keeps_lift (Dispatching.onFrameset_keeps_clipsAt hc hx.1 hx.2)
  | frame f => exact Handling.onFrame_keeps_clipsAt hc hx

/-! ## Every run -/

/-- With a positive clipping distance `c` on a millimeter camera whose pipeline holds blocks of
the simulated camera, enabled or not, handling samples whose depth is within reach of clipping
publishes no 16-bit image on the image channel of a depth stream that holds a value above
`Depth.clipThreshold c 0.001`, whether each sample is handled, refused or halts. -/
theorem publishedDepth_within_clip {c : Float32} (hc : 0 < c) {d : Dispatcher RecordingBus}
    (hdist : d.clipDistance = c) (hscale : d.depthScale = 0.001)
    (hblocks : ∀ st ∈ d.pipeline.stages, st.block.OfSimulated)
    (hbus : ∀ p ∈ d.bus.published, PublishedWithinClip (Depth.clipThreshold c 0.001) p)
    {samples : List Sample} (hs : ∀ x ∈ samples, x.ClipCovered) :
    ∀ p ∈ (d.handleAll (samples.map Handling.onSample)).bus.published,
      PublishedWithinClip (Depth.clipThreshold c 0.001) p := by
  have hkeeps : ∀ x ∈ samples.map Handling.onSample,
      Handling.Keeps (Dispatcher.ClipsAt c) (x : Handling RecordingBus Unit) := by
    intro x hx
    obtain ⟨sample, hsample, rfl⟩ := List.mem_map.1 hx
    exact Handling.onSample_keeps_clipsAt hc (hs sample hsample)
  exact (Handling.Keeps.handleAll hkeeps ⟨hdist, hscale, hblocks, hbus⟩).bus

/-- A depth frame of 4 by 2 pixels in `format`, whose calibration has intrinsics of that size,
holding `values` as 2-byte pixels. -/
def depthFrameOf (format : PixelFormat) (values : List Nat) : Frame :=
  { profile := { key := ⟨.depth, 0⟩, format, width := 4, height := 2, fps := 30
                 intrinsics := some { width := 4, height := 2, fx := 2, fy := 2, ppx := 2, ppy := 1
                                      model := default, coeffs := [] } }
    timestampMs := 5, domain := default, number := 1
    payload := .video ⟨4, 2, 2, ⟨(values.flatMap Depth.pairOf).toArray⟩⟩ }

/-- The simulated camera, clipping at half a meter with every stage of its pipeline enabled,
handles a lone depth frame and a frameset of a depth and a color frame. -/
theorem publishedDepth_within_clip_simulated :
    ∃ device, Device.simulated {} = .ok device ∧
      let d := Dispatcher.ofConfig
        { clipDistance := 0.5, filters := StageTag.canonical.map fun t => ⟨t, true⟩ } device
        ({} : RecordingBus) ⟨0, 0, 0⟩
      let samples := [Sample.frame (depthFrameOf .z16 [400, 600, 500, 501, 1, 2, 3, 4]),
        .frameset ⟨[depthFrameOf .z16 [600, 700, 800, 900, 600, 700, 800, 900],
          colorFrameOfSize 4 2]⟩]
      (∀ x ∈ samples, x.ClipCovered) ∧
        ∀ p ∈ (d.handleAll (samples.map Handling.onSample)).bus.published,
          PublishedWithinClip (Depth.clipThreshold 0.5 0.001) p :=
  have hs : ∀ x ∈ [Sample.frame (depthFrameOf .z16 [400, 600, 500, 501, 1, 2, 3, 4]),
      .frameset ⟨[depthFrameOf .z16 [600, 700, 800, 900, 600, 700, 800, 900],
        colorFrameOfSize 4 2]⟩], x.ClipCovered := by decide
  ⟨_, rfl, hs, publishedDepth_within_clip (by decide +kernel) rfl rfl
    (Pipeline.ofConfig_ofSimulated (show Device.simulated {} = _ from rfl) _ _) (fun _ h => by cases h) hs⟩

/-- Clipping at half a meter, whose threshold is 500: a depth frame of 2-byte pixels in another
format than the 16-bit depth format goes out unclipped, and so does the second depth frame of a
frameset. -/
theorem depth_beyond_clip_uncovered :
    let d : Dispatcher RecordingBus := { (default : Dispatcher RecordingBus) with clipDistance := 0.5 }
    Depth.clipThreshold 0.5 0.001 = 500 ∧
      ¬ (∀ p ∈ (d.handleAll [Handling.onSample
            (.frame (depthFrameOf .y8 [400, 600, 500, 501, 1, 2, 3, 4]))]).bus.published,
          PublishedWithinClip 500 p) ∧
      ¬ (∀ p ∈ (d.handleAll [Handling.onSample
            (.frameset ⟨[depthFrameOf .z16 [100, 200, 300, 400, 100, 200, 300, 400],
              depthFrameOf .z16 [600, 700, 800, 900, 600, 700, 800, 900]]⟩)]).bus.published,
          PublishedWithinClip 500 p) := by
  decide +kernel

end DepthBridge
