import DepthBridge.Frame
import DepthBridge.Config.Basic
import DepthBridge.Bus.Basic

/-!
# Point cloud messages

A point cloud stage adds a frame of vertices with texture coordinates; the bridge turns it into
a message. Vertices at zero or negative depth are dropped. When the frameset holds an image of
the texture stream, every kept vertex gets the color of the texture pixel under its
coordinate; a vertex whose coordinate is missing, outside the image or in a format without
color is dropped, or colored black when the configuration allows untextured points.

Pixels are read from the raw buffer: row `⌊v · height⌋`, column `⌊u · width⌋`, `bpp` bytes.
RGB and RGBA give their first three bytes, BGR its first three reversed, grey its byte three
times. A buffer whose pixels are narrower than the format needs halts on the missing byte.
-/

namespace DepthBridge
namespace Cloud

/-- The byte `i` of a pixel of `len` bytes, or a halt. -/
def byteOf (pixel : List UInt8) (i : Nat) : Except Halt UInt8 :=
  match pixel[i]? with
  | some b => .ok b
  | none => .error (.indexOut pixel.length i)

/-- Whether a texture coordinate lies in `[0, 1)`. -/
def inUnit (x : Float32) : Bool := 0 ≤ x && x < 1

/-- The color of the texture pixel under `(u, v)`, if any. -/
def sampleTexture (format : PixelFormat) (video : VideoBuffer) (u v : Float32) :
    Except Halt (Option Rgb) := do
  if !(inUnit u && inUnit v) then return none
  let x := Checked.floatToUnsigned 64 (Rounding.widen (u * video.width.toFloat32))
  let y := Checked.floatToUnsigned 64 (Rounding.widen (v * video.height.toFloat32))
  let bpp := video.bpp.toNat
  let stride ← video.stride
  let offset ← Checked.addU64 (y * stride) (x * bpp)
  let stop ← Checked.addU64 offset bpp
  if stop > video.data.size then return none
  let pixel := (video.data.data.toList.drop offset).take bpp
  match format with
  | .rgb8 | .rgba8 => return some (← byteOf pixel 0, ← byteOf pixel 1, ← byteOf pixel 2)
  | .bgr8 => return some (← byteOf pixel 2, ← byteOf pixel 1, ← byteOf pixel 0)
  | .y8 => let g ← byteOf pixel 0; return some (g, g, g)
  | _ => return none

/-- What becomes of a vertex with texture coordinates `uv?`: `none` drops it, `some none` keeps
it without color, `some (some c)` keeps it with color `c`. Reading its texel may halt. -/
def vertexFate (texture : Option (PixelFormat × VideoBuffer)) (allowBlack : Bool) (p : Point3)
    (uv? : Option (Float32 × Float32)) : Except Halt (Option (Option Rgb)) :=
  if p.2.2 ≤ 0 then pure none
  else
    match texture with
    | none => pure (some none)
    | some (format, video) => do
      let color ← match uv? with
        | some (u, v) => sampleTexture format video u v
        | none => pure none
      match color with
      | some c => pure (some (some c))
      | none => pure (if allowBlack then some (some (0, 0, 0)) else none)

/-- The points and colors kept from `vertices`, with texture coordinates `coords` from index
`i` on. -/
def keep (texture : Option (PixelFormat × VideoBuffer)) (allowBlack : Bool) :
    Nat → List Point3 → List (Float32 × Float32) → Except Halt (List Point3 × List Rgb)
  | _, [], _ => .ok ([], [])
  | i, p :: rest, coords => do
    -- the vertex's own fate first, so that a halt comes from the first bad vertex
    let here ← vertexFate texture allowBlack p coords[i]?
    let (points, colors) ← keep texture allowBlack (i + 1) rest coords
    match here with
    | none => return (points, colors)
    | some none => return (p :: points, colors)
    | some (some c) => return (p :: points, c :: colors)

/-- The cloud message of a point buffer, textured from the frameset. -/
def message (c : PointCloudConfig) (points : PointsBuffer) (stamp : Stamp) (s : Frameset)
    (frameId : String) : Except Halt PointCloudMessage := do
  let texture := (s.get? c.textureKey).bind fun f => f.video?.map fun v => (f.format, v)
  let (kept, colors) ← keep texture c.allowNoTexturePoints 0 points.vertices points.texCoords
  return { header := ⟨stamp, frameId⟩, points := kept, colors := texture.map fun _ => colors }

/-- Publishes the cloud message when anybody listens; whether it did. -/
def publish [MessageBus β] (c : PointCloudConfig) (points : PointsBuffer) (stamp : Stamp)
    (s : Frameset) (frameId : String) (bus : β) : Except Halt (Bool × β) := do
  if !MessageBus.hasSubscribers bus .pointCloud then return (false, bus)
  let m ← message c points stamp s frameId
  return (true, MessageBus.publish bus .pointCloud (.pointCloud m))

end Cloud
end DepthBridge
