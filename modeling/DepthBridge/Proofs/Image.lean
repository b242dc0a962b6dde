import Mathlib.Data.List.Chain
import DepthBridge.Proofs.Frameset
import DepthBridge.Proofs.Invariant
import DepthBridge.Proofs.Triple

/-!
# What publishing an image does

`publishImage` checks that someone listens, that the frame carries pixels of a known size, that a
row fits in 32 bits and that a calibration record can be had, and only then sends anything: the
camera info, then the image. `Handling.publishImage_cases` says this once, for every caller: a
run leaves the state as it was, or it writes the record of the calibration stream and puts
exactly `Dispatcher.imagePair` on the bus.

The camera info is made from the record, and the registry reuses a stream's record while the
width agrees. Its width is then the image's, but its height is the one the record was written
with: a stream whose frames change height at the same width is served a stale record
(`cameraInfo_stale_at_same_width`). Where the width of a stream's frames settles their height,
and each frame's calibration has intrinsics of the frame's size, every camera info states the
size of the image it comes with (`publishImages_describe`).
-/

namespace DepthBridge

/-! ## The two messages of an image -/

namespace Dispatcher

variable {β : Type}

/-- What publishing `frame`, with pixels `v`, as the image of stream `key` sends: the camera
info of record `r` on `infoCh`, then the pixels on `imageCh`, in millimeters for 16-bit
depth. -/
def imagePair (d : Dispatcher β) (frame : Frame) (key : StreamKey) (imageCh infoCh : Channel)
    (v : VideoBuffer) (encoding : String) (step : Nat) (r : CalibrationRecord) (stamp : Stamp) :
    List (Channel × Message) :=
  let header : Header := ⟨stamp, d.names.opticalFrameId key⟩
  [(infoCh, .cameraInfo (r.toCameraInfo header)),
   (imageCh, .image { header, width := v.width, height := v.height, encoding
                      isBigendian := false, step := step.toUInt32
                      data := if frame.isDepthZ16 then Depth.fixScale v.data d.depthScale
                              else v.data })]

end Dispatcher

namespace Handling

variable {β : Type} [MessageBus β]

/-- A publication of an image returns whether it sent anything. When it sends, it has
written the calibration record of the frame's width and put the camera info and the image on
the bus; otherwise, returning, refusing or halting, it leaves the state as it was. -/
theorem publishImage_triple (frame : Frame) (key : StreamKey) (cal : Profile)
    (imageCh infoCh : Channel) (stamp : Stamp) (d : Dispatcher β) :
    Triple (· = d) (publishImage frame key cal imageCh infoCh stamp)
      (fun sent d' => if sent then
          ∃ v enc step r reg, frame.video? = some v ∧ encodingFor v.bpp = some enc ∧
            d.calibration.recordForFrame cal v.width = .ok (r, reg) ∧
            d' = { d with calibration := reg,
                          bus := MessageBus.publishAll d.bus
                            (d.imagePair frame key imageCh infoCh v enc step r stamp) }
        else d' = d)
      (· = d) := by
  intro d' hd'
  subst d'
  -- nothing is sent while neither channel listens
  cases hl : (!MessageBus.hasSubscribers d.bus imageCh && !MessageBus.hasSubscribers d.bus infoCh)
  case true =>
    obtain ⟨h₁, h₂⟩ : MessageBus.hasSubscribers d.bus imageCh = false ∧
        MessageBus.hasSubscribers d.bus infoCh = false := by simpa using hl
    simp only [Ended, Outcome, publishImage, Bool.and_eq_true, Bool.not_eq_eq_eq_not,
      Bool.not_true, Nat.toUInt32_eq, bind_pure_comp, run_bind, run_lift,
      Dispatching.run_listened, h₁, true_and, h₂, ↓reduceIte, ExceptT.run_pure, EStateM.run_pure,
      Bool.false_eq_true]
  have hq : ¬(MessageBus.hasSubscribers d.bus imageCh = false ∧
      MessageBus.hasSubscribers d.bus infoCh = false) := by simpa using hl
  -- then the checks, one by one in the order they are made
  cases hv : frame.video? with
  | none =>
    simp only [Ended, Outcome, publishImage, Bool.and_eq_true, Bool.not_eq_eq_eq_not,
      Bool.not_true, hv, run_bind, run_lift, Dispatching.run_listened, hq, ↓reduceIte,
      ExceptT.run_throw, EStateM.run_pure]
  | some v =>
    cases he : encodingFor v.bpp with
    | none =>
      simp only [Ended, Outcome, publishImage, Bool.and_eq_true, Bool.not_eq_eq_eq_not,
        Bool.not_true, hv, he, run_bind, run_lift, Dispatching.run_listened, hq, ↓reduceIte,
        ExceptT.run_throw, EStateM.run_pure]
    | some enc =>
      cases hs : Checked.mulU32 v.width.toNat v.bpp.toNat with
      | error h =>
        simp only [Ended, publishImage, Bool.and_eq_true, Bool.not_eq_eq_eq_not,
          Bool.not_true, hv, he, hs, Nat.toUInt32_eq, bind_pure_comp, run_bind, run_lift,
          Dispatching.run_listened, hq, ↓reduceIte, EStateM.run_get, Dispatching.run_orHalt]
      | ok step =>
        cases hr : d.calibration.recordForFrame cal v.width with
        | error e =>
          simp only [Ended, Outcome, publishImage, Bool.and_eq_true, Bool.not_eq_eq_eq_not,
            Bool.not_true, hv, he, hs, Nat.toUInt32_eq, bind_pure_comp, run_bind, run_lift,
            Dispatching.run_listened, hq, ↓reduceIte, EStateM.run_get, hr,
            Dispatching.run_orHalt, ExceptT.run_throw, EStateM.run_pure]
        | ok rr =>
          obtain ⟨r, reg⟩ := rr
          simp only [Ended, Outcome, publishImage, Bool.and_eq_true, Bool.not_eq_eq_eq_not,
            Bool.not_true, hv, he, hs, Nat.toUInt32_eq, bind_pure_comp, run_bind, run_lift,
            Dispatching.run_listened, hq, ↓reduceIte, EStateM.run_get, hr,
            Dispatching.run_orHalt, EStateM.run_modify, Dispatching.run_publish, ExceptT.run_map,
            estate_run_map, except_map_ok]
          exact ⟨v, enc, step, r, reg, rfl, he, hr, rfl⟩

/-- A publication of an image either changes nothing, or writes the calibration record of the
frame's width and publishes the camera info and the image. -/
theorem publishImage_cases (frame : Frame) (key : StreamKey) (cal : Profile)
    (imageCh infoCh : Channel) (stamp : Stamp) (d : Dispatcher β) :
    stateOf ((publishImage frame key cal imageCh infoCh stamp).run.run d) = d ∨
      ∃ v enc step r reg, frame.video? = some v ∧ encodingFor v.bpp = some enc ∧
        d.calibration.recordForFrame cal v.width = .ok (r, reg) ∧
        stateOf ((publishImage frame key cal imageCh infoCh stamp).run.run d) =
          { d with calibration := reg,
                   bus := MessageBus.publishAll d.bus
                     (d.imagePair frame key imageCh infoCh v enc step r stamp) } :=
  (publishImage_triple frame key cal imageCh infoCh stamp d).stays_or_sends

/-- A point cloud goes out when somebody listens on the cloud channel, the pipeline makes
clouds and the cloud can be built; otherwise, returning or halting, the state stays as it
was. -/
theorem publishPoints_triple (p : PointsBuffer) (stamp : Stamp) (s : Frameset) (d : Dispatcher β) :
    Triple (· = d) (publishPoints p stamp s)
      (fun sent d' => if sent then
          ∃ m, d' = { d with bus := MessageBus.publish d.bus .pointCloud (.pointCloud m) }
        else d' = d)
      (· = d) := by
  intro d' hd'
  subst d'
  show Ended _ _ ((publishPoints p stamp s).run.run d)
  cases hl : MessageBus.hasSubscribers d.bus .pointCloud
  case true =>
    rw [publishPoints_run p stamp s d hl]
    cases d.pipeline.pointCloud? with
    | none => exact rfl
    | some config =>
      dsimp only
      cases Cloud.message config p stamp s (d.names.opticalFrameId ⟨.depth, 0⟩) with
      | ok m => exact ⟨m, rfl⟩
      | error e => exact rfl
  case false =>
    -- nobody listens: nothing is built and nothing is sent
    cases hc : d.pipeline.pointCloud? <;>
      simp only [publishPoints, hc, Cloud.publish_of_silent _ _ _ _ _ _ hl, run_bind, run_lift,
        EStateM.run_get, Dispatching.run_orHalt, run_pure, EStateM.run_modify] <;>
      rfl

end Handling

/-! ## Camera info against image -/

/-- The width and height a camera info states. -/
def Message.infoSize? : Message → Option (UInt32 × UInt32)
  | .cameraInfo ci => some (ci.width, ci.height)
  | _ => none

/-- The width and height of an image. -/
def Message.imageSize? : Message → Option (UInt32 × UInt32)
  | .image img => some (img.width, img.height)
  | _ => none

/-- A publication describes the next one when, being a camera info followed by an image, it
states that image's width and height. -/
def Describes (a b : Channel × Message) : Prop :=
  ∀ s ∈ a.2.infoSize?, ∀ t ∈ b.2.imageSize?, s = t

-- the instances are spelled out: a search could also decide over all pairs of sizes
instance : DecidableRel Describes := fun a b =>
  @Option.decidableForallMem _ _
    (fun s => @Option.decidableForallMem _ _ (fun t => instDecidableEqProd s t) b.2.imageSize?)
    a.2.infoSize?

/-- An image sent with a record of its size keeps every camera info describing its image. -/
theorem isChain_describes_append_imagePair {β : Type} {ms : List (Channel × Message)}
    (h : ms.IsChain Describes) (d : Dispatcher β) (frame : Frame) (key : StreamKey)
    (imageCh infoCh : Channel) {v : VideoBuffer} (enc : String) (step : Nat)
    {r : CalibrationRecord} (stamp : Stamp) (hw : r.width = v.width) (hh : r.height = v.height) :
    (ms ++ d.imagePair frame key imageCh infoCh v enc step r stamp).IsChain Describes := by
  refine h.append ?_ fun x _ y hy => ?_
  · -- the camera info and its image
    simp [Dispatcher.imagePair, Describes, Message.infoSize?, Message.imageSize?,
      CalibrationRecord.toCameraInfo, hw, hh]
  · -- whatever came before, a camera info is no image
    simp only [Dispatcher.imagePair, List.head?_cons, Option.mem_def, Option.some.injEq] at hy
    subst hy
    simp [Describes, Message.imageSize?]

/-! ## Registries that know the size of every stream -/

namespace CalibrationRegistry

/-- Every record has the height that the width of its stream settles, as `res` says. -/
def SizedBy (reg : CalibrationRegistry) (res : StreamKey → UInt32 → UInt32) : Prop :=
  ∀ k r, reg.lookup k = some r → r.height = res k r.width

theorem lookup_insert_self (reg : CalibrationRegistry) (k : StreamKey) (r : CalibrationRecord) :
    (reg.insert k r).lookup k = some r := by
  simp [insert, lookup]

variable {res : StreamKey → UInt32 → UInt32}

/-- A record of a size the width settles keeps the registry sized. -/
theorem SizedBy.insert {reg : CalibrationRegistry} (h : reg.SizedBy res) (k : StreamKey)
    {r : CalibrationRecord} (hr : r.height = res k r.width) : (reg.insert k r).SizedBy res := by
  intro k' r' hl
  by_cases hk : k' = k
  · subst hk
    rw [lookup_insert_self] at hl
    cases hl
    exact hr
  · rw [lookup_insert_of_ne reg r hk] at hl
    exact h k' r' hl

/-- A record rewritten from intrinsics of the frame's size has the frame's size. -/
theorem update_sized {reg reg' : CalibrationRegistry} {p : Profile} {r : CalibrationRecord}
    {v : VideoBuffer} (h : reg.SizedBy res) (hfit : ∃ k ∈ p.intrinsics, k.width = v.width ∧ k.height = v.height)
    (hres : res p.key v.width = v.height) (hu : reg.update p = .ok (r, reg')) :
    r.width = v.width ∧ r.height = v.height ∧ reg'.SizedBy res := by
  obtain ⟨k, hk, hw, hh⟩ := hfit
  simp only [Option.mem_def] at hk
  simp only [update, hk, Except.ok.injEq, Prod.mk.injEq] at hu
  obtain ⟨rfl, rfl⟩ := hu
  have hw' : (CalibrationRecord.ofIntrinsics k).width = v.width := hw
  have hh' : (CalibrationRecord.ofIntrinsics k).height = v.height := hh
  exact ⟨hw', hh', h.insert p.key (by rw [hh', hw', hres])⟩

/-- In a sized registry, the record of a frame whose calibration fits it has the frame's size. -/
theorem recordForFrame_sized {reg reg' : CalibrationRegistry} {p : Profile} {r : CalibrationRecord}
    {v : VideoBuffer} (h : reg.SizedBy res) (hfit : ∃ k ∈ p.intrinsics, k.width = v.width ∧ k.height = v.height)
    (hres : res p.key v.width = v.height) (hr : reg.recordForFrame p v.width = .ok (r, reg')) :
    r.width = v.width ∧ r.height = v.height ∧ reg'.SizedBy res := by
  unfold recordForFrame at hr
  cases hl : reg.lookup p.key with
  | none =>
    rw [hl] at hr
    exact update_sized h hfit hres hr
  | some c =>
    rw [hl] at hr
    by_cases hw : c.width = v.width
    · -- the cached record, of the same width and so of the height that width settles
      simp only [hw, beq_self_eq_true, if_true, Except.ok.injEq, Prod.mk.injEq] at hr
      obtain ⟨rfl, rfl⟩ := hr
      exact ⟨hw, by rw [h p.key _ hl, hw, hres], h⟩
    · simp only [beq_false_of_ne hw, Bool.false_eq_true, if_false] at hr
      exact update_sized h hfit hres hr

end CalibrationRegistry

/-! ## Runs of image publications -/

/-- A request to publish an image: a frame on its own channels, or depth aligned to a target
stream. -/
inductive ImageRequest where
  | frame (f : Frame) (stamp : Stamp)
  | aligned (depth : Frame) (target : Profile) (stamp : Stamp)

namespace ImageRequest

/-- The frame whose pixels are published. -/
def pixels : ImageRequest → Frame
  | .frame f _ => f
  | .aligned depth _ _ => depth

/-- The profile whose calibration goes with the image. -/
def calibration : ImageRequest → Profile
  | .frame f _ => f.profile
  | .aligned _ target _ => target

/-- The publication the request asks for. -/
def handle {β : Type} [MessageBus β] : ImageRequest → Handling β Bool
  | .frame f stamp => Handling.publishFrame f stamp
  | .aligned depth target stamp => Handling.publishAligned depth target stamp

/-- Either request publishes its pixels with its calibration. -/
theorem handle_eq_publishImage (β : Type) [MessageBus β] (q : ImageRequest) :
    ∃ key imageCh infoCh stamp,
      (q.handle : Handling β Bool) = Handling.publishImage q.pixels key q.calibration imageCh infoCh stamp := by
  cases q with
  | frame f stamp => exact ⟨_, _, _, stamp, rfl⟩
  | aligned depth target stamp => exact ⟨_, _, _, stamp, rfl⟩

/-- The calibration of the request has intrinsics of the size of its pixels. -/
def Fits (q : ImageRequest) : Prop :=
  ∀ v ∈ q.pixels.video?, ∃ k ∈ q.calibration.intrinsics, k.width = v.width ∧ k.height = v.height

instance (q : ImageRequest) : Decidable q.Fits :=
  @Option.decidableForallMem _ _
    (fun _ => @Option.decidableExistsMem _ _ (fun _ => instDecidableAnd) q.calibration.intrinsics)
    q.pixels.video?

/-- The request fits, and its pixels have the height that the width of the calibration's
stream settles, as `res` says. -/
def SizedBy (res : StreamKey → UInt32 → UInt32) (q : ImageRequest) : Prop :=
  q.Fits ∧ ∀ v ∈ q.pixels.video?, res q.calibration.key v.width = v.height

instance (res : StreamKey → UInt32 → UInt32) (q : ImageRequest) : Decidable (q.SizedBy res) :=
  @instDecidableAnd _ _ _ (@Option.decidableForallMem _ _ (fun _ => decEq _ _) q.pixels.video?)

end ImageRequest

/-- The registry knows the size of every stream as `res` says, and every camera info on the bus
describes the image after it. -/
structure Dispatcher.Describing (res : StreamKey → UInt32 → UInt32) (d : Dispatcher RecordingBus) :
    Prop where
  registry : d.calibration.SizedBy res
  bus : d.bus.published.IsChain Describes

/-- One publication keeps a dispatcher describing its images. -/
theorem ImageRequest.keeps_describing {res : StreamKey → UInt32 → UInt32} {q : ImageRequest}
    (hq : q.SizedBy res) : Handling.Keeps (Dispatcher.Describing res) q.handle := by
  intro d hd
  obtain ⟨key, imageCh, infoCh, stamp, heq⟩ := handle_eq_publishImage RecordingBus q
  show Dispatcher.Describing res (stateOf (q.handle.run.run d))
  rw [heq]
  rcases Handling.publishImage_cases q.pixels key q.calibration imageCh infoCh stamp d with
    h | ⟨v, enc, step, r, reg, hv, -, hr, h⟩
  · rw [h]
    exact hd
  · rw [h]
    obtain ⟨hw, hh, hreg⟩ :=
      CalibrationRegistry.recordForFrame_sized hd.registry (hq.1 v hv) (hq.2 v hv) hr
    refine ⟨hreg, ?_⟩
    rw [RecordingBus.publishAll_eq]
    exact isChain_describes_append_imagePair hd.bus d _ _ _ _ enc step stamp hw hh

theorem CalibrationRegistry.sizedBy_empty (res : StreamKey → UInt32 → UInt32) :
    ({} : CalibrationRegistry).SizedBy res := by
  intro k r h
  cases h

/-- Where each frame's calibration has intrinsics of the frame's size and the width of a
stream's frames settles their height, every camera info published with an image states the
image's size. -/
theorem publishImages_describe (res : StreamKey → UInt32 → UInt32) (qs : List ImageRequest)
    (d : Dispatcher RecordingBus) (hreg : d.calibration.SizedBy res)
    (hbus : d.bus.published.IsChain Describes) (hqs : ∀ q ∈ qs, q.SizedBy res) :
    (d.handleAll (qs.map ImageRequest.handle)).bus.published.IsChain Describes := by
  have hkeeps : ∀ x ∈ qs.map ImageRequest.handle, Handling.Keeps (Dispatcher.Describing res) x := by
    intro x hx
    obtain ⟨q, hq, rfl⟩ := List.mem_map.1 hx
    exact ImageRequest.keeps_describing (hqs q hq)
  exact (Handling.Keeps.handleAll hkeeps ⟨hreg, hbus⟩).bus

/-- A color frame of `w` by `h` pixels whose calibration has intrinsics of that size. -/
def colorFrameOfSize (w h : UInt32) : Frame :=
  { profile := { key := ⟨.color, 0⟩, format := .rgb8, width := w, height := h, fps := 30
                 intrinsics := some { width := w, height := h, fx := 2, fy := 2, ppx := 2, ppy := 1
                                      model := default, coeffs := [] } }
    timestampMs := 5, domain := default, number := 1
    payload := .video ⟨w, h, 3, ByteArray.empty⟩ }

/-- A stream resized from 4 by 2 to 8 by 4 pixels, whose heights are half the widths, is
described throughout. -/
theorem publishImages_describe_resized :
    let res : StreamKey → UInt32 → UInt32 := fun _ w => w / 2
    let qs := [ImageRequest.frame (colorFrameOfSize 4 2) ⟨0⟩, .frame (colorFrameOfSize 8 4) ⟨1⟩]
    (default : Dispatcher RecordingBus).calibration.SizedBy res ∧
      (default : Dispatcher RecordingBus).bus.published.IsChain Describes ∧
      (∀ q ∈ qs, q.SizedBy res) ∧
      ((default : Dispatcher RecordingBus).handleAll (qs.map ImageRequest.handle)).bus.published.IsChain
        Describes :=
  have hreg := CalibrationRegistry.sizedBy_empty _
  have hqs : ∀ q ∈ [ImageRequest.frame (colorFrameOfSize 4 2) ⟨0⟩, .frame (colorFrameOfSize 8 4) ⟨1⟩],
      q.SizedBy fun _ w => w / 2 := by decide
  ⟨hreg, .nil, hqs, publishImages_describe _ _ _ hreg .nil hqs⟩

/-- Two frames of one stream, of the same width and different heights, each with intrinsics of
its size: the second image goes out with the camera info of the first size. -/
theorem cameraInfo_stale_at_same_width :
    let qs := [ImageRequest.frame (colorFrameOfSize 4 2) ⟨0⟩, .frame (colorFrameOfSize 4 3) ⟨1⟩]
    (∀ q ∈ qs, q.Fits) ∧
      ¬ ((default : Dispatcher RecordingBus).handleAll (qs.map ImageRequest.handle)).bus.published.IsChain
        Describes := by
  decide +kernel

end DepthBridge
