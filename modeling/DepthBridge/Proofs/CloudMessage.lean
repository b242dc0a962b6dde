import Mathlib
import DepthBridge.Dispatch.Cloud
import DepthBridge.Proofs.Decimation

/-!
# The point cloud message

`Cloud.message` keeps, in order, every vertex not at zero or negative depth, and colors it from
the texture image when the frameset has one. A vertex's fate is a pure function of the vertex,
its coordinate and the texture (`Cloud.fate`): dropped, kept without color (no texture), kept with
the color of the texel under its coordinate (`Cloud.texelColor`), or kept black when the
configuration allows untextured points and there is no such texel.

Reading a texel can halt, and only there: when the row stride `width · bpp` overflows 32 bits,
when the texel's offset overflows 64 bits, or when a texel inside the data is narrower than the
bytes its format's color reads (`Cloud.sampleTexture_ok_iff`). When no texel read halts, the
message is the kept vertices with their colors, and with a texture there is one color per
kept point (`Cloud.message_spec`).

A vertex whose depth is NaN is not at zero or negative depth, and is kept.
-/

namespace DepthBridge
namespace Cloud

/-! ## One texel -/

/-- Column and row of the texel under `(u, v)`: `u · width` and `v · height` as singles,
truncated. -/
def texelAt (video : VideoBuffer) (u v : Float32) : Nat × Nat :=
  (Checked.floatToUnsigned 64 (Rounding.widen (u * video.width.toFloat32)),
    Checked.floatToUnsigned 64 (Rounding.widen (v * video.height.toFloat32)))

/-- The offset of the texel under `(u, v)` in a buffer of rows of `width · bpp` bytes. -/
def texelOffset (video : VideoBuffer) (u v : Float32) : Nat :=
  (texelAt video u v).2 * (video.width.toNat * video.bpp.toNat) +
    (texelAt video u v).1 * video.bpp.toNat

/-- The bytes the color of a pixel reads: three for RGB, RGBA and BGR, one for grey, none for a
format without color. -/
def colorWidth : PixelFormat → Nat
  | .rgb8 | .rgba8 | .bgr8 => 3
  | .y8 => 1
  | _ => 0

/-- The color of a pixel's bytes: RGB and RGBA give their first three bytes, BGR its first three
reversed, grey its byte three times; other formats have none. -/
def colorOf (format : PixelFormat) (pixel : List UInt8) : Option Rgb :=
  match format with
  | .rgb8 | .rgba8 => some (pixel.getD 0 0, pixel.getD 1 0, pixel.getD 2 0)
  | .bgr8 => some (pixel.getD 2 0, pixel.getD 1 0, pixel.getD 0 0)
  | .y8 => some (pixel.getD 0 0, pixel.getD 0 0, pixel.getD 0 0)
  | _ => none

/-- The color of the texel under `(u, v)`: none when a coordinate is outside `[0, 1)`, when the
texel runs past the data, or when the format has no color. -/
def texelColor (format : PixelFormat) (video : VideoBuffer) (u v : Float32) : Option Rgb :=
  if inUnit u && inUnit v then
    if texelOffset video u v + video.bpp.toNat ≤ video.data.size then
      colorOf format ((video.data.data.toList.drop (texelOffset video u v)).take video.bpp.toNat)
    else none
  else none

/-- Reading the texel under `(u, v)` does not halt: for a coordinate in `[0, 1)²`, the row stride
fits 32 bits, the texel's end fits 64 bits, and a texel inside the data holds the bytes its
format's color reads. -/
def TexelReadable (format : PixelFormat) (video : VideoBuffer) (u v : Float32) : Prop :=
  (inUnit u && inUnit v) = true →
    video.width.toNat * video.bpp.toNat ≤ Checked.u32Max ∧
    texelOffset video u v + video.bpp.toNat ≤ Checked.u64Max ∧
    (texelOffset video u v + video.bpp.toNat ≤ video.data.size → colorWidth format ≤ video.bpp.toNat)

theorem stride_of_le {video : VideoBuffer} (h : video.width.toNat * video.bpp.toNat ≤ Checked.u32Max) :
    video.stride = .ok (video.width.toNat * video.bpp.toNat) := by
  unfold VideoBuffer.stride Checked.mulU32
  rw [if_neg (by omega)]

theorem addU64_of_le {a b : Nat} (h : a + b ≤ Checked.u64Max) : Checked.addU64 a b = .ok (a + b) := by
  unfold Checked.addU64
  rw [if_neg (by omega)]

theorem byteOf_of_lt {pixel : List UInt8} {i : Nat} (h : i < pixel.length) :
    byteOf pixel i = .ok (pixel.getD i 0) := by
  unfold byteOf
  rw [List.getElem?_eq_getElem h, List.getD_eq_getElem _ _ h]

/-- The bytes of a texel inside the data: exactly `bpp` of them. -/
theorem length_texelBytes {video : VideoBuffer} {offset : Nat}
    (h : offset + video.bpp.toNat ≤ video.data.size) :
    ((video.data.data.toList.drop offset).take video.bpp.toNat).length = video.bpp.toNat := by
  have hsize : video.data.data.toList.length = video.data.size := Array.length_toList
  simp only [List.length_take, List.length_drop, hsize]
  omega

/-- A readable texel is read as `texelColor` says. -/
theorem sampleTexture_eq {format : PixelFormat} {video : VideoBuffer} {u v : Float32}
    (h : TexelReadable format video u v) :
    sampleTexture format video u v = .ok (texelColor format video u v) := by
  unfold sampleTexture texelColor
  by_cases hin : (inUnit u && inUnit v) = true
  · obtain ⟨hstride, hend, hwide⟩ := h hin
    simp only [hin, Bool.not_true, Bool.false_eq_true, ↓reduceIte]
    set x := Checked.floatToUnsigned 64 (Rounding.widen (u * video.width.toFloat32))
    set y := Checked.floatToUnsigned 64 (Rounding.widen (v * video.height.toFloat32))
    have hoff : texelOffset video u v = y * (video.width.toNat * video.bpp.toNat) + x * video.bpp.toNat := rfl
    rw [hoff] at hend hwide ⊢
    rw [stride_of_le hstride, ok_bind, addU64_of_le (by omega), ok_bind, addU64_of_le hend, ok_bind]
    by_cases hinside : y * (video.width.toNat * video.bpp.toNat) + x * video.bpp.toNat + video.bpp.toNat ≤ video.data.size
    · have hlen := length_texelBytes hinside
      have hw := hwide hinside
      rw [if_neg (by omega), if_pos hinside]
      -- each format reads the bytes of its color, all inside the pixel
      cases format with
      | rgb8 | rgba8 | bgr8 =>
        have h3 : 3 ≤ video.bpp.toNat := hw
        rw [byteOf_of_lt (by omega), ok_bind, byteOf_of_lt (by omega), ok_bind,
          byteOf_of_lt (by omega), ok_bind]
        rfl
      | y8 =>
        have h1 : 1 ≤ video.bpp.toNat := hw
        rw [byteOf_of_lt (by omega), ok_bind]
        rfl
      | z16 | motionXyz32f | sixDof | xyz32f => rfl
    · rw [if_pos (by omega), if_neg hinside]
      rfl
  · simp only [hin, Bool.not_false, ↓reduceIte, Bool.false_eq_true]
    rfl

theorem le_of_stride_ok {video : VideoBuffer} {stride : Nat} (h : video.stride = .ok stride) :
    video.width.toNat * video.bpp.toNat ≤ Checked.u32Max ∧
      stride = video.width.toNat * video.bpp.toNat := by
  unfold VideoBuffer.stride Checked.mulU32 at h
  split at h
  · cases h
  · cases h
    exact ⟨by omega, rfl⟩

theorem le_of_addU64_ok {a b c : Nat} (h : Checked.addU64 a b = .ok c) :
    a + b ≤ Checked.u64Max ∧ c = a + b := by
  unfold Checked.addU64 at h
  split at h
  · cases h
  · cases h
    exact ⟨by omega, rfl⟩

theorem lt_of_byteOf_ok {pixel : List UInt8} {i : Nat} {b : UInt8} (h : byteOf pixel i = .ok b) :
    i < pixel.length := by
  unfold byteOf at h
  split at h
  next hget => exact (List.getElem?_eq_some_iff.mp hget).1
  · cases h

/-- A texel read returns exactly when the texel is readable. -/
theorem sampleTexture_ok_iff (format : PixelFormat) (video : VideoBuffer) (u v : Float32) :
    (∃ c, sampleTexture format video u v = .ok c) ↔ TexelReadable format video u v := by
  constructor
  · rintro ⟨c, hc⟩ hin
    unfold sampleTexture at hc
    simp only [hin, Bool.not_true, Bool.false_eq_true, ↓reduceIte] at hc
    set x := Checked.floatToUnsigned 64 (Rounding.widen (u * video.width.toFloat32))
    set y := Checked.floatToUnsigned 64 (Rounding.widen (v * video.height.toFloat32))
    have hoff : texelOffset video u v = y * (video.width.toNat * video.bpp.toNat) + x * video.bpp.toNat := rfl
    rw [hoff]
    -- the stride, the offset and the end are computed before any byte is read
    obtain ⟨stride, hs, hc⟩ := exists_of_bind_eq_ok hc
    obtain ⟨hstride, rfl⟩ := le_of_stride_ok hs
    obtain ⟨offset, ho, hc⟩ := exists_of_bind_eq_ok hc
    obtain ⟨-, rfl⟩ := le_of_addU64_ok ho
    obtain ⟨stop, hst, hc⟩ := exists_of_bind_eq_ok hc
    obtain ⟨hend, rfl⟩ := le_of_addU64_ok hst
    refine ⟨hstride, hend, fun hinside => ?_⟩
    rw [if_neg (by omega)] at hc
    have hlen := length_texelBytes hinside
    -- the format's bytes were all read, so the pixel holds them
    cases format with
    | rgb8 | rgba8 | bgr8 =>
      obtain ⟨_, h0, hc⟩ := exists_of_bind_eq_ok hc
      obtain ⟨_, h1, hc⟩ := exists_of_bind_eq_ok hc
      obtain ⟨_, h2, -⟩ := exists_of_bind_eq_ok hc
      have := lt_of_byteOf_ok h0
      have := lt_of_byteOf_ok h1
      have := lt_of_byteOf_ok h2
      show 3 ≤ video.bpp.toNat
      omega
    | y8 =>
      obtain ⟨_, h0, -⟩ := exists_of_bind_eq_ok hc
      have := lt_of_byteOf_ok h0
      show 1 ≤ video.bpp.toNat
      omega
    | z16 | motionXyz32f | sixDof | xyz32f => exact Nat.zero_le _
  · intro h
    exact ⟨_, sampleTexture_eq h⟩

/-! ## One vertex -/

/-- What the message makes of vertex `p` with coordinates `uv?`: it is dropped (`none`) at zero
or negative depth; otherwise it is kept without color (`some none`) when there is no texture, with
the color of its texel, or black when untextured points are allowed and it has no texel. -/
def fate (texture : Option (PixelFormat × VideoBuffer)) (allowBlack : Bool) (p : Point3)
    (uv? : Option (Float32 × Float32)) : Option (Option Rgb) :=
  if p.2.2 ≤ 0 then none
  else
    match texture with
    | none => some none
    | some (format, video) =>
      match uv?.bind fun uv => texelColor format video uv.1 uv.2 with
      | some c => some (some c)
      | none => if allowBlack then some (some (0, 0, 0)) else none

/-- The texel of vertex `p` is readable, when it is read at all: the vertex is in front, there is
a texture and the vertex has a coordinate. -/
def FateReadable (texture : Option (PixelFormat × VideoBuffer)) (p : Point3)
    (uv? : Option (Float32 × Float32)) : Prop :=
  ¬ p.2.2 ≤ 0 → ∀ format video, texture = some (format, video) →
    ∀ uv, uv? = some uv → TexelReadable format video uv.1 uv.2

section Vertex

variable {texture : Option (PixelFormat × VideoBuffer)} {allowBlack : Bool} {p : Point3}
  {uv? : Option (Float32 × Float32)}

theorem vertexFate_eq (h : FateReadable texture p uv?) :
    vertexFate texture allowBlack p uv? = .ok (fate texture allowBlack p uv?) := by
  unfold vertexFate fate
  by_cases hz : p.2.2 ≤ 0
  · simp only [hz, ↓reduceIte]
    rfl
  · simp only [hz, ↓reduceIte]
    cases texture with
    | none => rfl
    | some t =>
      obtain ⟨format, video⟩ := t
      cases uv? with
      | none => rfl
      | some uv =>
        obtain ⟨u, v⟩ := uv
        dsimp only
        rw [sampleTexture_eq (h hz format video rfl (u, v) rfl), ok_bind]
        cases hc : texelColor format video u v <;> simp only [Option.bind_some, hc] <;> rfl

theorem vertexFate_ok_iff :
    (∃ r, vertexFate texture allowBlack p uv? = .ok r) ↔ FateReadable texture p uv? := by
  refine ⟨?_, fun h => ⟨_, vertexFate_eq h⟩⟩
  rintro ⟨r, hr⟩ hz format video rfl uv rfl
  -- the only read that can halt is the texel's
  unfold vertexFate at hr
  simp only [hz, ↓reduceIte] at hr
  obtain ⟨color, hcolor, -⟩ := exists_of_bind_eq_ok hr
  exact (sampleTexture_ok_iff format video uv.1 uv.2).mp ⟨color, hcolor⟩

/-- With a texture, no vertex is kept without a color. -/
theorem fate_ne_keep_uncolored (h : texture.isSome = true) :
    fate texture allowBlack p uv? ≠ some none := by
  unfold fate
  split
  · simp
  · cases texture with
    | none => cases h
    | some t =>
      dsimp only
      split
      · simp
      · split <;> simp

end Vertex

/-! ## The vertex list -/

/-- The vertices the message keeps, those from index `i` on. -/
def keptPoints (texture : Option (PixelFormat × VideoBuffer)) (allowBlack : Bool)
    (coords : List (Float32 × Float32)) (ps : List Point3) (i : Nat) : List Point3 :=
  (ps.zipIdx i).filterMap fun pj => (fate texture allowBlack pj.1 coords[pj.2]?).map fun _ => pj.1

/-- The colors of the kept vertices that have one. -/
def keptColors (texture : Option (PixelFormat × VideoBuffer)) (allowBlack : Bool)
    (coords : List (Float32 × Float32)) (ps : List Point3) (i : Nat) : List Rgb :=
  (ps.zipIdx i).filterMap fun pj => (fate texture allowBlack pj.1 coords[pj.2]?).bind id

/-- Every texel the message reads, from index `i` on, is readable. -/
def TexelsReadable (texture : Option (PixelFormat × VideoBuffer))
    (coords : List (Float32 × Float32)) (ps : List Point3) (i : Nat) : Prop :=
  ∀ pj ∈ ps.zipIdx i, FateReadable texture pj.1 coords[pj.2]?

section Vertices

variable {texture : Option (PixelFormat × VideoBuffer)} {allowBlack : Bool}
  {coords : List (Float32 × Float32)}

theorem texelsReadable_cons {p : Point3} {ps : List Point3} {i : Nat} :
    TexelsReadable texture coords (p :: ps) i ↔
      FateReadable texture p coords[i]? ∧ TexelsReadable texture coords ps (i + 1) := by
  simp [TexelsReadable, List.zipIdx_cons]

theorem keep_eq {ps : List Point3} {i : Nat} (h : TexelsReadable texture coords ps i) :
    keep texture allowBlack i ps coords =
      .ok (keptPoints texture allowBlack coords ps i, keptColors texture allowBlack coords ps i) := by
  -- one vertex at a time, the index following the list
  induction ps generalizing i with
  | nil => rfl
  | cons p rest ih =>
    obtain ⟨hp, hrest⟩ := texelsReadable_cons.mp h
    rw [keep, vertexFate_eq hp, ok_bind, ih hrest, ok_bind]
    simp only [keptPoints, keptColors, List.zipIdx_cons, List.filterMap_cons]
    cases fate texture allowBlack p coords[i]? with
    | none => rfl
    | some color => cases color <;> rfl

theorem keep_ok_iff {ps : List Point3} {i : Nat} :
    (∃ r, keep texture allowBlack i ps coords = .ok r) ↔ TexelsReadable texture coords ps i := by
  refine ⟨?_, fun h => ⟨_, keep_eq h⟩⟩
  induction ps generalizing i with
  | nil => simp [TexelsReadable]
  | cons p rest ih =>
    rintro ⟨r, hr⟩
    rw [keep] at hr
    obtain ⟨here, hhere, hr⟩ := exists_of_bind_eq_ok hr
    obtain ⟨rest', hrest, -⟩ := exists_of_bind_eq_ok hr
    exact texelsReadable_cons.mpr ⟨vertexFate_ok_iff.mp ⟨here, hhere⟩, ih ⟨rest', hrest⟩⟩

/-- Dropping the vertices that have no color and keeping the others' colors keeps as many as
there are kept vertices, when none is kept without a color. -/
theorem length_filterMap_colored {α β γ : Type} (f : α → Option (Option β)) (g : α → γ) :
    ∀ l : List α, (∀ a ∈ l, f a ≠ some none) →
      (l.filterMap fun a => (f a).bind id).length = (l.filterMap fun a => (f a).map fun _ => g a).length
  | [], _ => rfl
  | a :: l, h => by
    have hl := length_filterMap_colored f g l fun b hb => h b (List.mem_cons_of_mem a hb)
    have ha := h a List.mem_cons_self
    simp only [List.filterMap_cons]
    cases hfa : f a with
    | none => exact hl
    | some color =>
      cases color with
      | none => exact absurd hfa ha
      | some c =>
        simp only [Option.bind_some, Option.map_some, id_eq, List.length_cons]
        exact congrArg (· + 1) hl

theorem length_keptColors {ps : List Point3} {i : Nat} (h : texture.isSome = true) :
    (keptColors texture allowBlack coords ps i).length = (keptPoints texture allowBlack coords ps i).length :=
  length_filterMap_colored _ _ _ fun _ _ => fate_ne_keep_uncolored h

end Vertices

/-! ## The message -/

/-- The texture of the message: the first frame of the texture stream, when it carries a video
buffer. -/
def textureOf (c : PointCloudConfig) (s : Frameset) : Option (PixelFormat × VideoBuffer) :=
  (s.get? c.textureKey).bind fun f => f.video?.map fun v => (f.format, v)

/-- The message the cloud of `points` gives, when it gives one. -/
def keptMessage (c : PointCloudConfig) (points : PointsBuffer) (stamp : Stamp) (s : Frameset)
    (frameId : String) : PointCloudMessage :=
  { header := ⟨stamp, frameId⟩
    points := keptPoints (textureOf c s) c.allowNoTexturePoints points.texCoords points.vertices 0
    colors := (textureOf c s).map fun _ =>
      keptColors (textureOf c s) c.allowNoTexturePoints points.texCoords points.vertices 0 }

/-- What the cloud message of a point buffer is. -/
structure MessageSpec (c : PointCloudConfig) (points : PointsBuffer) (stamp : Stamp) (s : Frameset)
    (frameId : String) : Prop where
  /-- It halts exactly when a texel it reads is not readable. -/
  returns_iff : (∃ m, message c points stamp s frameId = .ok m) ↔
    TexelsReadable (textureOf c s) points.texCoords points.vertices 0
  /-- Otherwise it holds the kept vertices in order, with their colors when there is a texture. -/
  eq : TexelsReadable (textureOf c s) points.texCoords points.vertices 0 →
    message c points stamp s frameId = .ok (keptMessage c points stamp s frameId)
  /-- It has colors exactly when there is a texture, and then one color per point. -/
  colors : ∀ m, message c points stamp s frameId = .ok m →
    m.colors.isSome = (textureOf c s).isSome ∧ ∀ colors, m.colors = some colors →
      colors.length = m.points.length

section Message

variable {c : PointCloudConfig} {points : PointsBuffer} {stamp : Stamp} {s : Frameset}
  {frameId : String}

theorem message_eq_of_readable (h : TexelsReadable (textureOf c s) points.texCoords points.vertices 0) :
    message c points stamp s frameId = .ok (keptMessage c points stamp s frameId) := by
  unfold message
  show keep (textureOf c s) c.allowNoTexturePoints 0 points.vertices points.texCoords >>= _ = _
  rw [keep_eq h]
  rfl

theorem readable_of_message_ok {m : PointCloudMessage} (h : message c points stamp s frameId = .ok m) :
    TexelsReadable (textureOf c s) points.texCoords points.vertices 0 := by
  unfold message at h
  obtain ⟨r, hr, -⟩ := exists_of_bind_eq_ok h
  exact keep_ok_iff.mp ⟨r, hr⟩

theorem colors_keptMessage :
    (keptMessage c points stamp s frameId).colors.isSome = (textureOf c s).isSome ∧
      ∀ colors, (keptMessage c points stamp s frameId).colors = some colors →
        colors.length = (keptMessage c points stamp s frameId).points.length := by
  refine ⟨Option.isSome_map, fun colors hcolors => ?_⟩
  obtain ⟨t, ht, rfl⟩ := Option.map_eq_some_iff.mp hcolors
  exact length_keptColors (Option.isSome_iff_exists.mpr ⟨t, ht⟩)

end Message

/-- The cloud message of any point buffer: it halts only on an unreadable texel, and otherwise
keeps, in order, the vertices in front that have a color or may go without one, colored from
the texture exactly when there is one. -/
theorem message_spec (c : PointCloudConfig) (points : PointsBuffer) (stamp : Stamp) (s : Frameset)
    (frameId : String) : MessageSpec c points stamp s frameId where
  returns_iff := by
    constructor
    · rintro ⟨m, hm⟩
      exact readable_of_message_ok hm
    · intro h
      exact ⟨_, message_eq_of_readable h⟩
  eq := message_eq_of_readable
  colors m hm := by
    rw [message_eq_of_readable (readable_of_message_ok hm), Except.ok.injEq] at hm
    subst hm
    exact colors_keptMessage

/-- A color image of one row of 2³¹ pixels, two bytes each, with three bytes of data. -/
def wideTextureFrame : Frame :=
  { profile := { key := ⟨.color, 0⟩, format := .rgb8, width := 2147483648, height := 1, fps := 30
                 intrinsics := none }
    timestampMs := 12, domain := default, number := 7
    payload := .video ⟨2147483648, 1, 2, ⟨#[1, 2, 3]⟩⟩ }

/-- The message need not be given: the row of the texture is longer than a 32-bit byte count,
so coloring a vertex from it halts. And a vertex of NaN depth, not being at zero or negative
depth, is kept. -/
theorem wide_texture_halts_and_nan_depth_is_kept :
    (∀ stamp frameId, message {} ⟨[(0, 0, 1)], [(0.5, 0.5)]⟩ stamp ⟨[wideTextureFrame]⟩ frameId =
      .error .mulOverflow) ∧
    ∀ stamp frameId, message {} ⟨[(0, 0, 0 / 0)], [(0.5, 0.5)]⟩ stamp ⟨[]⟩ frameId =
      .ok ⟨⟨stamp, frameId⟩, [(0, 0, 0 / 0)], none⟩ :=
  ⟨fun _ _ => rfl, fun _ _ => rfl⟩

end Cloud
end DepthBridge
