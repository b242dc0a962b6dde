import DepthBridge.Frame
import DepthBridge.Geometry.Camera
import DepthBridge.Dispatch.Depth

/-!
# Processing blocks

A block turns a frameset into another. The device offers these:

* `passThrough`: changes nothing;
* `decimation`: keeps every `factor`-th pixel of each 16-bit depth image with intrinsics, in
  both directions, and scales the intrinsics;
* `colorizer`: appends an RGB picture of the first depth image, red near, blue far, black
  where there is no depth;
* `pointCloud`: appends the points seen by the first depth image, with their coordinates in
  the texture stream's image;
* `align`: replaces the first depth image by depth seen from the target imager, the nearest
  depth winning where several pixels land on one;

and, to exercise the bridge's error paths, `failing` (always refuses) and `dropDepth`
(removes every depth image).

A block may refuse a frameset with a device error, or halt on an impossible buffer (a size
that overflows 32 bits, a row that runs past the data, a pixel past the end).
-/

namespace DepthBridge

/-- Computations that may refuse with a contract error or halt. -/
abbrev Checked := ExceptT ContractError (Except Halt)

/-- A processing block. -/
inductive Block where
  | passThrough (name : String)
  | decimation (factor : UInt32)
  | colorizer
  | pointCloud (texture : Profile) (extrinsics : Extrinsics) (depthScale : Float32)
  | align (target : Profile) (extrinsics : Extrinsics) (depthScale : Float32)
  | failing (message : String)
  | dropDepth
  deriving Inhabited

namespace Block

/-- The block's name. -/
def name : Block → String
  | .passThrough n => n
  | .decimation _ => "decimation"
  | .colorizer => "colorizer"
  | .pointCloud .. => "pointcloud"
  | .align .. => "align"
  | .failing _ => "fail"
  | .dropDepth => "drop_depth"

/-- Halts the computation. -/
def halt (h : Halt) : Checked α := ExceptT.lift (.error h)

/-- Lifts a computation that may halt. -/
def orHalt (x : Except Halt α) : Checked α := ExceptT.lift x

/-- The 16-bit values of a buffer: its whole little-endian pairs. -/
def depthValues (v : VideoBuffer) : List Nat :=
  (List.range (v.data.size / 2)).map (Depth.valueAt v.data)

/-- A frame made from `source`: same time, domain and number, new profile and payload. -/
def derived (source : Frame) (profile : Profile) (payload : Payload) : Frame :=
  { source with profile, payload }

/-- The depth image of a frame and its intrinsics, for a 16-bit depth frame that has both. -/
def depthIntrinsics (f : Frame) : Option (VideoBuffer × Intrinsics) :=
  if f.isDepthZ16 then
    match f.video?, f.profile.intrinsics with
    | some v, some k => some (v, k)
    | _, _ => none
  else none

/-- The bytes `data[start, start + len)`, halting when the range runs past the end. -/
def slice (data : ByteArray) (start len : Nat) : Except Halt (List UInt8) :=
  if start > data.size then .error (Halt.rangeStartOut start data.size)
  else if start + len > data.size then .error (Halt.rangeEndOut (start + len) data.size)
  else .ok ((List.range len).map fun i => data.data.getD (start + i) 0)

/-- Every `f`-th pixel of a depth image with intrinsics, or `none` for any other frame. -/
def decimate (f : Nat) (frame : Frame) : Except Halt (Option Frame) := do
  match depthIntrinsics frame with
  | none => return none
  | some (video, k) =>
    let width := video.width.toNat / f
    let height := video.height.toNat / f
    let bpp := video.bpp.toNat
    let _ ← Checked.mulU32 width height
    let mut data : List UInt8 := []
    for y in List.range height do
      let row := y * f * (← video.stride)
      for x in List.range width do
        data := data ++ (← slice video.data (row + x * f * bpp) bpp)
    let scaled ← Geometry.scaleIntrinsics k f.toUInt32
    let profile := { frame.profile with width := width.toUInt32, height := height.toUInt32,
                                        intrinsics := some scaled }
    return some (derived frame profile (.video ⟨width.toUInt32, height.toUInt32, video.bpp, ⟨data.toArray⟩⟩))

/-- A single converted to a byte, saturating, NaN to zero. -/
def toByte (x : Float32) : UInt8 := (Depth.toUnsigned 8 x).toUInt8

/-- The RGB picture of a depth image: the smallest positive depth red, the largest blue, green
in between, zero black. -/
def colorize (video : VideoBuffer) : ByteArray :=
  let values := depthValues video
  let positive := values.filter (· > 0)
  let lo := positive.foldl min 65535
  let hi := positive.foldl max 0
  let span := Float32.ofNat (max (hi - lo) 1)
  let pixel (d : Nat) : List UInt8 :=
    if d = 0 then [0, 0, 0]
    else
      let t := Float32.ofNat (d - lo) / span
      [toByte (255 * (1 - t)), toByte (255 * (1 - Float32.abs (2 * t - 1))), toByte (255 * t)]
  ⟨(values.flatMap pixel).toArray⟩

/-- The index of the first 16-bit depth frame. -/
def firstDepth? (s : Frameset) : Option Nat := s.frames.findIdx? Frame.isDepthZ16

/-- The points seen by a depth image and where each lands in the texture's image (zero when
it does not). -/
def deprojectAll (texture : Profile) (ex : Extrinsics) (scale : Float32) (video : VideoBuffer)
    (k : Intrinsics) : Except Halt PointsBuffer := do
  let _ ← Checked.mulU32 video.width.toNat video.height.toNat
  let values := depthValues video
  if values.isEmpty then return {}
  if video.width = 0 then throw Halt.remByZero
  let w := video.width.toNat
  let pts := values.zipIdx.map fun (d, i) =>
    let u := Float32.ofNat (i % Nat.pow 2 32 % w)
    let v := Float32.ofNat (i % Nat.pow 2 32 / w)
    let vertex := Geometry.deproject k u v (Float32.ofNat d * scale)
    let uv := match texture.intrinsics with
      | some tk =>
        match Geometry.project tk (Geometry.transform ex vertex) with
        | some (tu, tv) => (tu / tk.width.toFloat32, tv / tk.height.toFloat32)
        | none => (0, 0)
      | none => (0, 0)
    ((vertex.x, vertex.y, vertex.z), uv)
  return { vertices := pts.map (·.1), texCoords := pts.map (·.2) }

/-- Where the source pixel `i` of depth `d`, in an image `w` pixels wide, lands in the target's
image, and the depth it brings there: its point, moved into the target's frame, projected and
rounded to a pixel. It lands nowhere when it has no depth, when its point is not in front of the
target imager, or when the pixel falls outside the target's image. -/
def landing (ex : Extrinsics) (scale : Float32) (w : Nat) (k target : Intrinsics) (d i : Nat) :
    Option (Nat × Nat) :=
  if d = 0 then none
  else
    let u := Float32.ofNat (i % Nat.pow 2 32 % w)
    let v := Float32.ofNat (i % Nat.pow 2 32 / w)
    let point := Geometry.transform ex (Geometry.deproject k u v (Float32.ofNat d * scale))
    match Geometry.project target point with
    | none => none
    | some (tu, tv) =>
      let tu := Rounding.roundSingle tu
      let tv := Rounding.roundSingle tv
      if tu < 0 || tv < 0 || tu ≥ target.width.toFloat32 || tv ≥ target.height.toFloat32 then none
      else
        some (Depth.toUnsigned 32 tv * target.width.toNat + Depth.toUnsigned 32 tu,
          Depth.units point.z scale)

/-- What a pixel of a depth buffer holds once another depth arrives: the new depth when the
pixel is empty (zero) or the new depth is nearer, the old one otherwise. -/
def nearer (old new : Nat) : Nat := if old = 0 || new < old then new else old

/-- A depth landed on a pixel of a depth buffer. -/
def keepNearer (acc : Array Nat) (hit : Nat × Nat) : Array Nat := acc.modify hit.1 (nearer · hit.2)

/-- A depth landed on a pixel of a depth buffer, halting when the pixel is past the buffer's end.
A NaN projection passes every bounds check and lands on pixel 0, which an empty target lacks. -/
def placeNearer (acc : Array Nat) (hit : Nat × Nat) : Except Halt (Array Nat) :=
  if hit.1 < acc.size then .ok (keepNearer acc hit) else .error (Halt.indexOut acc.size hit.1)

/-- Where the pixels of a depth image land in the target's image, with their depths, in the
order the pixels are visited. -/
def landings (ex : Extrinsics) (scale : Float32) (video : VideoBuffer) (k target : Intrinsics) :
    List (Nat × Nat) :=
  (depthValues video).zipIdx.filterMap fun (d, i) => landing ex scale video.width.toNat k target d i

/-- Depth seen from the target imager: each pixel's point moved into the target's frame and
projected there; where several land on one pixel the nearest wins. -/
def alignValues (ex : Extrinsics) (scale : Float32) (video : VideoBuffer) (k target : Intrinsics) :
    Except Halt (List Nat) := do
  let size ← Checked.mulU32 target.width.toNat target.height.toNat
  if (depthValues video).any (· ≠ 0) && video.width = 0 then throw Halt.remByZero
  let buffer ← (landings ex scale video k target).foldlM placeNearer (Array.replicate size 0)
  return buffer.toList

/-- Runs the block on a frameset. -/
def process (b : Block) (s : Frameset) : Checked Frameset := do
  match b with
  | .passThrough _ => return s
  | .failing message => throw (.device message)
  | .dropDepth => return ⟨s.frames.filter (!·.isDepthZ16)⟩
  | .decimation factor =>
    let f := max factor.toNat 1
    let frames ← s.frames.mapM fun frame => do
      match ← orHalt (decimate f frame) with
      | some smaller => pure smaller
      | none => pure frame
    return ⟨frames⟩
  | .colorizer =>
    match s.frames.find? Frame.isDepthZ16 with
    | none => return s
    | some depth =>
      match depth.video? with
      | none => return s
      | some video =>
        let profile := { depth.profile with format := .rgb8 }
        let colored := derived depth profile (.video ⟨video.width, video.height, 3, colorize video⟩)
        return ⟨s.frames ++ [colored]⟩
  | .pointCloud texture ex scale =>
    match s.frames.find? Frame.isDepthZ16 with
    | none => return s
    | some depth =>
      match depthIntrinsics depth with
      | none => throw (.device "depth frame without intrinsics")
      | some (video, k) =>
        let points ← orHalt (deprojectAll texture ex scale video k)
        let profile := { depth.profile with key := ⟨.depth, 0⟩, format := .xyz32f, intrinsics := none }
        return ⟨s.frames ++ [derived depth profile (.points points)]⟩
  | .align target ex scale =>
    match target.intrinsics with
    | none => throw (.device s!"align target {target.key.name} has no intrinsics")
    | some tk =>
      match firstDepth? s with
      | none => return s
      | some slot =>
        let depth := s.frames.getD slot default
        match depthIntrinsics depth with
        | none => throw (.device "depth frame without intrinsics")
        | some (video, k) =>
          let values ← orHalt (alignValues ex scale video k tk)
          let profile := { depth.profile with width := tk.width, height := tk.height, intrinsics := some tk }
          let aligned := derived depth profile
            (.video ⟨tk.width, tk.height, 2, ⟨(values.flatMap Depth.pairOf).toArray⟩⟩)
          return ⟨s.frames.set slot aligned⟩

end Block
end DepthBridge
