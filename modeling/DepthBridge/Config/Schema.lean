import DepthBridge.Config.Basic

/-!
# The shape of a configuration document

A configuration file, whatever its syntax, is read against a `Shape`: booleans, strings,
doubles and singles, unsigned integers of a given width, names out of a fixed list, lists, and
records of named fields, each field either required or defaulted. Reading produces a `Datum`
of that shape, which `DriverConfig.ofDatum` turns into the configuration; a field that the
document leaves out takes its default there. Writing goes the other way: `DriverConfig.toDatum`
is the configuration as a datum, which a syntax then writes out. `Datum.Fits` says which data a
shape holds in every syntax.

The shape also fixes the words of the reading errors: a record is `struct DriverConfig`, an
integer field is `u32`, a list is `a sequence`.
-/

namespace DepthBridge

/-- What a configuration value must look like. -/
inductive Shape where
  | flag
  | text
  | single
  | double
  | unsigned (typeName : String) (bits : Nat)
  | choice (typeName : String) (names : List String)
  | list (item : Shape)
  | record (typeName : String) (fields : List (String × Shape × Bool))
  deriving Inhabited

namespace Shape

/-- How an error names what was expected. -/
def expected : Shape → String
  | .flag => "a boolean"
  | .text => "a string"
  | .single => "f32"
  | .double => "f64"
  | .unsigned name _ => name
  | .choice name _ => "enum " ++ name
  | .list _ => "a sequence"
  | .record name _ => "struct " ++ name

/-- The shape of field `k` among a record's fields; a flag for a field the record lacks. -/
def fieldShape (fields : List (String × Shape × Bool)) (k : String) : Shape :=
  ((fields.lookup k).map (·.1)).getD .flag

end Shape

/-- A value read against a shape. -/
inductive Datum where
  | flag (b : Bool)
  | text (s : String)
  | single (x : Float32)
  | double (x : Float)
  | nat (n : Nat)
  | choice (i : Nat)
  | list (items : List Datum)
  | record (fields : List (String × Datum))
  deriving Inhabited

namespace Datum

/-- The field `name` of a record, if the document gave it. -/
def field? (d : Datum) (name : String) : Option Datum :=
  match d with
  | .record fs => fs.lookup name
  | _ => none

/-- The boolean field `name`, or `dflt`. -/
def flagOr (d : Datum) (name : String) (dflt : Bool) : Bool :=
  match d.field? name with
  | some (.flag b) => b
  | _ => dflt

/-- The natural field `name`, or `dflt`. -/
def natOr (d : Datum) (name : String) (dflt : Nat) : Nat :=
  match d.field? name with
  | some (.nat n) => n
  | _ => dflt

/-- The single field `name`, or `dflt`. -/
def singleOr (d : Datum) (name : String) (dflt : Float32) : Float32 :=
  match d.field? name with
  | some (.single x) => x
  | _ => dflt

/-- The double field `name`, or `dflt`. -/
def doubleOr (d : Datum) (name : String) (dflt : Float) : Float :=
  match d.field? name with
  | some (.double x) => x
  | _ => dflt

/-- The choice field `name` as its index, or `dflt`. -/
def choiceOr (d : Datum) (name : String) (dflt : Nat) : Nat :=
  match d.field? name with
  | some (.choice i) => i
  | _ => dflt

/-- A datum is a value of a shape that every syntax can write: a finite float, an unsigned
integer within its width, the index of a name of the list, a list of such items, or a record
with every field of the shape, in its order. -/
inductive Fits : Shape → Datum → Prop
  | flag (b : Bool) : Fits .flag (.flag b)
  | text (s : String) : Fits .text (.text s)
  | single {x : Float32} : x.isFinite = true → Fits .single (.single x)
  | double {x : Float} : x.isFinite = true → Fits .double (.double x)
  | nat {name : String} {bits n : Nat} : n < Nat.pow 2 bits → Fits (.unsigned name bits) (.nat n)
  | choice {name : String} {names : List String} {i : Nat} :
      i < names.length → Fits (.choice name names) (.choice i)
  | list {item : Shape} {items : List Datum} :
      (∀ d ∈ items, Fits item d) → Fits (.list item) (.list items)
  | record {name : String} {fields : List (String × Shape × Bool)} {fs : List (String × Datum)} :
      fs.map Prod.fst = fields.map Prod.fst → (∀ p ∈ fields.zip fs, Fits p.1.2.1 p.2.2) →
      Fits (.record name fields) (.record fs)

end Datum

/-! ## The configuration's shape -/

/-- The first required field among `fields` that the fields read so far, `got`, lack. -/
def firstMissing (fields : List (String × Shape × Bool)) (got : List (String × Datum)) :
    Option String :=
  (fields.find? fun (k, _, required) => required && (got.lookup k).isNone).map (·.1)

/-- A field with a default. -/
def optionalField (name : String) (s : Shape) : String × Shape × Bool := (name, s, false)

/-- A field the document must give. -/
def requiredField (name : String) (s : Shape) : String × Shape × Bool := (name, s, true)

/-- Stream kinds by their data-file names. -/
def streamKindShape : Shape := .choice "StreamKind" (StreamKind.all.map StreamKind.tag)

/-- Stages by name. -/
def stageTagShape : Shape := .choice "StageTag" (StageTag.canonical.map StageTag.name)

/-! ## The sections of a configuration

Each record of the configuration has its shape, its value of a datum with defaults filled in
(`ofDatum`), and its datum (`toDatum`): every field in order, a name by its index in its list. -/

/-- The covariances: both must be given. -/
def ImuCovariance.shape : Shape :=
  .record "ImuCovariance"
    [requiredField "linear_accel_cov" .double, requiredField "angular_velocity_cov" .double]

def ImuCovariance.ofDatum (d : Datum) : ImuCovariance :=
  { linearAccelCov := d.doubleOr "linear_accel_cov" 0.01
    angularVelocityCov := d.doubleOr "angular_velocity_cov" 0.01 }

def ImuCovariance.toDatum (i : ImuCovariance) : Datum :=
  .record [("linear_accel_cov", .double i.linearAccelCov),
    ("angular_velocity_cov", .double i.angularVelocityCov)]

/-- A stage of the list: its name must be given. -/
def FilterConfig.shape : Shape :=
  .record "FilterConfig" [requiredField "name" stageTagShape, optionalField "enabled" .flag]

def FilterConfig.ofDatum (d : Datum) : FilterConfig :=
  { name := (StageTag.canonical[d.choiceOr "name" 0]?).getD .decimation
    enabled := d.flagOr "enabled" false }

def FilterConfig.toDatum (f : FilterConfig) : Datum :=
  .record [("name", .choice (StageTag.canonical.idxOf f.name)), ("enabled", .flag f.enabled)]

def PointCloudConfig.shape : Shape :=
  .record "PointCloudConfig"
    [optionalField "texture_stream" streamKindShape, optionalField "texture_index" (.unsigned "u8" 8),
     optionalField "allow_no_texture_points" .flag]

def PointCloudConfig.ofDatum (d : Datum) : PointCloudConfig :=
  { textureStream := (StreamKind.all[d.choiceOr "texture_stream" 1]?).getD .color
    textureIndex := (d.natOr "texture_index" 0).toUInt8
    allowNoTexturePoints := d.flagOr "allow_no_texture_points" false }

def PointCloudConfig.toDatum (p : PointCloudConfig) : Datum :=
  .record [("texture_stream", .choice (StreamKind.all.idxOf p.textureStream)),
    ("texture_index", .nat p.textureIndex.toNat),
    ("allow_no_texture_points", .flag p.allowNoTexturePoints)]

def MonitorConfig.shape : Shape :=
  .record "MonitorConfig" [optionalField "enabled" .flag, optionalField "interval_ms" (.unsigned "u64" 64)]

def MonitorConfig.ofDatum (d : Datum) : MonitorConfig :=
  { enabled := d.flagOr "enabled" true
    intervalMs := (d.natOr "interval_ms" 10000).toUInt64 }

def MonitorConfig.toDatum (m : MonitorConfig) : Datum :=
  .record [("enabled", .flag m.enabled), ("interval_ms", .nat m.intervalMs.toNat)]

def DeviceConfig.shape : Shape :=
  .record "DeviceConfig"
    [optionalField "width" (.unsigned "u32" 32), optionalField "height" (.unsigned "u32" 32),
     optionalField "fps" (.unsigned "u32" 32), optionalField "accel_hz" (.unsigned "u32" 32),
     optionalField "gyro_hz" (.unsigned "u32" 32), optionalField "depth_scale" .single,
     optionalField "enable_infrared" .flag, optionalField "enable_pose" .flag,
     optionalField "system_time_domain" .flag, optionalField "seed" (.unsigned "u64" 64)]

def DeviceConfig.ofDatum (d : Datum) : DeviceConfig :=
  let z : DeviceConfig := {}
  { width := (d.natOr "width" z.width.toNat).toUInt32
    height := (d.natOr "height" z.height.toNat).toUInt32
    fps := (d.natOr "fps" z.fps.toNat).toUInt32
    accelHz := (d.natOr "accel_hz" z.accelHz.toNat).toUInt32
    gyroHz := (d.natOr "gyro_hz" z.gyroHz.toNat).toUInt32
    depthScale := d.singleOr "depth_scale" z.depthScale
    enableInfrared := d.flagOr "enable_infrared" z.enableInfrared
    enablePose := d.flagOr "enable_pose" z.enablePose
    systemTimeDomain := d.flagOr "system_time_domain" z.systemTimeDomain
    seed := (d.natOr "seed" z.seed.toNat).toUInt64 }

def DeviceConfig.toDatum (d : DeviceConfig) : Datum :=
  .record [("width", .nat d.width.toNat), ("height", .nat d.height.toNat),
    ("fps", .nat d.fps.toNat), ("accel_hz", .nat d.accelHz.toNat),
    ("gyro_hz", .nat d.gyroHz.toNat), ("depth_scale", .single d.depthScale),
    ("enable_infrared", .flag d.enableInfrared), ("enable_pose", .flag d.enablePose),
    ("system_time_domain", .flag d.systemTimeDomain), ("seed", .nat d.seed.toNat)]

/-- The shape of the whole configuration: every field has a default. -/
def DriverConfig.shape : Shape :=
  .record "DriverConfig" [
    optionalField "camera_name" .text,
    optionalField "clip_distance" .single,
    optionalField "align_depth" .flag,
    optionalField "unite_imu_method" (.choice "ImuSyncMethod" (ImuSyncMethod.all.map ImuSyncMethod.name)),
    optionalField "imu" ImuCovariance.shape,
    optionalField "imu_queue_capacity" (.unsigned "usize" 64),
    optionalField "publish_tf" .flag,
    optionalField "tf_publish_rate" .double,
    optionalField "publish_odom_tf" .flag,
    optionalField "filters" (.list FilterConfig.shape),
    optionalField "pointcloud" PointCloudConfig.shape,
    optionalField "monitor" MonitorConfig.shape,
    optionalField "device" DeviceConfig.shape]

/-- The configuration of a datum, defaults filled in. A section the document leaves out takes
its defaults field by field, except the covariances, which are given together or not at all. -/
def DriverConfig.ofDatum (d : Datum) : DriverConfig :=
  let z : DriverConfig := {}
  let sub (name : String) : Datum := (d.field? name).getD (.record [])
  { cameraName := match d.field? "camera_name" with | some (.text s) => s | _ => z.cameraName
    clipDistance := d.singleOr "clip_distance" z.clipDistance
    alignDepth := d.flagOr "align_depth" z.alignDepth
    uniteImuMethod := (ImuSyncMethod.all[d.choiceOr "unite_imu_method" 0]?).getD .none
    imu := match d.field? "imu" with
      | some r => ImuCovariance.ofDatum r
      | none => z.imu
    imuQueueCapacity := (d.natOr "imu_queue_capacity" z.imuQueueCapacity.toNat).toUInt64
    publishTf := d.flagOr "publish_tf" z.publishTf
    tfPublishRate := d.doubleOr "tf_publish_rate" z.tfPublishRate
    publishOdomTf := d.flagOr "publish_odom_tf" z.publishOdomTf
    filters := match d.field? "filters" with
      | some (.list items) => items.map FilterConfig.ofDatum
      | _ => z.filters
    pointcloud := PointCloudConfig.ofDatum (sub "pointcloud")
    monitor := MonitorConfig.ofDatum (sub "monitor")
    device := DeviceConfig.ofDatum (sub "device") }

/-- The configuration as a datum of its shape. -/
def DriverConfig.toDatum (c : DriverConfig) : Datum :=
  .record [
    ("camera_name", .text c.cameraName),
    ("clip_distance", .single c.clipDistance),
    ("align_depth", .flag c.alignDepth),
    ("unite_imu_method", .choice (ImuSyncMethod.all.idxOf c.uniteImuMethod)),
    ("imu", c.imu.toDatum),
    ("imu_queue_capacity", .nat c.imuQueueCapacity.toNat),
    ("publish_tf", .flag c.publishTf),
    ("tf_publish_rate", .double c.tfPublishRate),
    ("publish_odom_tf", .flag c.publishOdomTf),
    ("filters", .list (c.filters.map FilterConfig.toDatum)),
    ("pointcloud", c.pointcloud.toDatum),
    ("monitor", c.monitor.toDatum),
    ("device", c.device.toDatum)]

end DepthBridge
