import DepthBridge.Dispatch.State

/-!
# Publishing images

An image goes out with its calibration, on a pair of channels: its own image and camera-info
channels, or the aligned-depth pair of a target stream. Nothing is built when neither channel
has a subscriber.

The frame must carry pixels of 1, 2 or 3 bytes (`mono8`, `16UC1`, `rgb8`). Depth images are
sent in millimeters. The calibration comes from the registry, refreshed when the image's width
differs from the cached record's. The camera info goes out before the image.
-/

namespace DepthBridge

/-- The image encoding of a pixel size. -/
def encodingFor : UInt32 → Option String
  | 1 => some "mono8"
  | 2 => some "16UC1"
  | 3 => some "rgb8"
  | _ => none

namespace Handling

open Dispatching

variable {β : Type} [MessageBus β]

/-- Publishes `frame` as the image of stream `key` with the calibration of `calibration`, on
the channels `imageCh` and `infoCh`; whether anything was sent. -/
def publishImage (frame : Frame) (key : StreamKey) (calibration : Profile) (imageCh infoCh : Channel)
    (stamp : Stamp) : Handling β Bool := do
  if !(← lift (listened imageCh)) && !(← lift (listened infoCh)) then return false
  let some video := frame.video?
    | throw (.contract (.payloadParse frame.key.name "frame carries no video buffer"))
  let some encoding := encodingFor video.bpp
    | throw (.contract (.unsupportedFormat frame.key.name video.bpp.toNat))
  let d ← lift get
  let data := if frame.isDepthZ16 then Depth.fixScale video.data d.depthScale else video.data
  let frameId := d.names.opticalFrameId key
  let step ← lift (orHalt (Checked.mulU32 video.width.toNat video.bpp.toNat))
  let image : ImageMessage :=
    { header := ⟨stamp, frameId⟩, width := video.width, height := video.height, encoding
      isBigendian := false, step := step.toUInt32, data }
  match d.calibration.recordForFrame calibration video.width with
  | .error e => throw (.calibration e)
  | .ok (record, registry) =>
    lift (modify fun d => { d with calibration := registry })
    lift (publish infoCh (.cameraInfo (record.toCameraInfo ⟨stamp, frameId⟩)))
    lift (publish imageCh (.image image))
    return true

/-- Publishes a frame on its own image and camera-info channels. -/
def publishFrame (frame : Frame) (stamp : Stamp) : Handling β Bool :=
  publishImage frame frame.key frame.profile (.image frame.key) (.cameraInfo frame.key) stamp

/-- Publishes depth aligned to `target`, with the target's frame and calibration. -/
def publishAligned (depth : Frame) (target : Profile) (stamp : Stamp) : Handling β Bool :=
  publishImage depth target.key target (.alignedDepthImage target.key) (.alignedDepthInfo target.key) stamp

end Handling
end DepthBridge
