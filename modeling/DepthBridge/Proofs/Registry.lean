import DepthBridge.Proofs.Image
import DepthBridge.Proofs.SignedZero

/-!
# How the calibration registry changes

The registry is read as a map from streams to records (`CalibrationRegistry.lookup`). Each
operation changes that map in one stated way and leaves every other stream alone:

* `update` refuses a profile without intrinsics and otherwise writes the record of its stream,
  and only that one, from the intrinsics (`update_changes`);
* `updateExtrinsics` fails with the device's error or with a stream that has no record, or
  rewrites the right imager's record (`updateExtrinsics_changes`), and in it only the
  rectification and the projection `K_left · [R | (t_x, 0, 0)]` (`stereoRight_changes`). With a
  pinhole left camera and finite inputs, the projection's last column is `(fx_left · t_x, 0, 0)`
  (`stereoRight_baseline`);
* `updateProfiles` records every video profile with intrinsics, the last one of a stream
  winning, then applies the stereo update to the first index-1 imager that has an index-2 imager
  of its kind, and touches no other stream (`updateProfiles_changes`);
* `recordForFrame` returns the cached record while its width agrees and rewrites it otherwise,
  and returns what the registry then holds (`recordForFrame_changes`).

Every record the operations write has a pinhole camera matrix, so the baseline law holds in every
state reachable from the empty registry (`Reachable.pinhole`, `registry_changes`).
-/

namespace DepthBridge

/-- A record's camera matrix is a pinhole imager's, `[fx 0 ppx; 0 fy ppy; 0 0 1]` row by row. -/
def CalibrationRecord.Pinhole (c : CalibrationRecord) : Prop :=
  c.k = [c.fx, 0, c.ppx, 0, c.fy, c.ppy, 0, 0, 1]

theorem CalibrationRecord.pinhole_ofIntrinsics (k : Intrinsics) :
    (CalibrationRecord.ofIntrinsics k).Pinhole :=
  rfl

namespace CalibrationRegistry

/-! ## Writing one record -/

/-- Storing a record changes the map at its stream and nowhere else. -/
theorem lookup_insert (reg : CalibrationRegistry) (key : StreamKey) (r : CalibrationRecord) :
    (reg.insert key r).lookup = Function.update reg.lookup key (some r) := by
  funext k
  by_cases hk : k = key
  · subst hk
    rw [lookup_insert_self, Function.update_self]
  · rw [lookup_insert_of_ne reg r hk, Function.update_of_ne hk]

/-- Rewriting a profile's record: a profile without intrinsics is refused, naming its stream, and
any other has the record of its stream, and only that one, written from its intrinsics. -/
theorem update_changes (reg : CalibrationRegistry) (p : Profile) :
    (p.intrinsics = none ∧ reg.update p = .error (.missingIntrinsics p.key.name)) ∨
    ∃ k, p.intrinsics = some k ∧ ∃ reg', reg.update p = .ok (.ofIntrinsics k, reg') ∧
      reg'.lookup = Function.update reg.lookup p.key (some (.ofIntrinsics k)) := by
  cases hk : p.intrinsics with
  | none => exact .inl ⟨rfl, by simp only [update, hk]⟩
  | some k =>
    refine .inr ⟨k, rfl, _, by simp only [update, hk], lookup_insert _ _ _⟩

/-! ## The stereo update -/

/-- The stereo update fails with the device's error, or for a stream without a record, or
rewrites the right imager's record from the left camera matrix and the motion. -/
theorem updateExtrinsics_changes (reg : CalibrationRegistry) (left right : Profile)
    (device : Device) :
    (∃ e, reg.updateExtrinsics left right device = .error e ∧
      ((∃ c, device.extrinsics right left = .error c ∧ e = .contract c) ∨
        e = .notCalibrated left.key.name ∨ e = .notCalibrated right.key.name)) ∨
    ∃ ex l r, device.extrinsics right left = .ok ex ∧ reg.lookup left.key = some l ∧
      reg.lookup right.key = some r ∧
      reg.updateExtrinsics left right device = .ok (reg.insert right.key (stereoRight l.k ex r)) := by
  -- the device is asked first, then the left record is looked up, then the right one
  cases hex : device.extrinsics right left with
  | error c =>
    exact .inl ⟨.contract c, by rw [updateExtrinsics, hex]; rfl, .inl ⟨c, rfl, rfl⟩⟩
  | ok ex =>
    cases hl : reg.lookup left.key with
    | none => exact .inl ⟨_, by rw [updateExtrinsics, hex, hl]; rfl, .inr (.inl rfl)⟩
    | some l =>
      cases hr : reg.lookup right.key with
      | none => exact .inl ⟨_, by rw [updateExtrinsics, hex, hl, hr]; rfl, .inr (.inr rfl)⟩
      | some r => exact .inr ⟨ex, l, r, rfl, rfl, rfl, by rw [updateExtrinsics, hex, hl, hr]; rfl⟩

theorem getD_rows3x4 (m : Nat → Nat → Float) {i j : Nat} (hi : i < 3) (hj : j < 4) :
    (rows3x4 m).getD (4 * i + j) 0 = m i j := by
  rcases (show i = 0 ∨ i = 1 ∨ i = 2 by omega) with rfl | rfl | rfl <;>
    rcases (show j = 0 ∨ j = 1 ∨ j = 2 ∨ j = 3 by omega) with rfl | rfl | rfl | rfl <;> rfl

/-- The stereo update changes a record's rectification and projection and nothing else: the
rectification takes the device's rotation entries in order, read row by row, and the projection
is the 3×4 product `K_left · [R | (t_x, 0, 0)]`. -/
theorem stereoRight_changes (kLeft : List Float) (ex : Extrinsics) (r : CalibrationRecord) :
    ∃ rect proj, stereoRight kLeft ex r = { r with r := rect, p := proj } ∧
      rect = ex.rotation.map Rounding.widen ++ r.r.drop ex.rotation.length ∧
      proj.length = 12 ∧
      ∀ i < 3, ∀ j < 4,
        proj.getD (4 * i + j) 0 = projectionEntry (entry kLeft 3) (baselineMotion ex) i j := by
  refine ⟨_, _, rfl, by simp, rfl, fun i hi j hj => getD_rows3x4 _ hi hj⟩

/-- The stereo update keeps a record's camera matrix and intrinsics. -/
theorem pinhole_stereoRight (kLeft : List Float) (ex : Extrinsics) {r : CalibrationRecord}
    (hr : r.Pinhole) : (stereoRight kLeft ex r).Pinhole :=
  hr

open Double in
/-- With a pinhole left camera, finite intrinsics and a finite baseline, the last column of the
right projection is `(fx_left · t_x, 0, 0)`: entry 3 compares equal to `fx_left · t_x` and
entries 7 and 11 to zero. -/
theorem stereoRight_baseline {l : CalibrationRecord} (hl : l.Pinhole) (ex : Extrinsics)
    (r : CalibrationRecord) (hfx : l.fx.isFinite = true) (hfy : l.fy.isFinite = true)
    (hppx : l.ppx.isFinite = true) (hppy : l.ppy.isFinite = true)
    (htx : (Rounding.widen (ex.translation.getD 0 0)).isFinite = true) :
    ((stereoRight l.k ex r).p.getD 3 0 == l.fx * Rounding.widen (ex.translation.getD 0 0)) = true ∧
      ((stereoRight l.k ex r).p.getD 7 0 == 0) = true ∧
      ((stereoRight l.k ex r).p.getD 11 0 == 0) = true := by
  set tx := Rounding.widen (ex.translation.getD 0 0)
  -- the last column of `[R | (t_x, 0, 0)]` and the rows of the pinhole matrix
  have hcol : (stereoRight l.k ex r).p.getD 3 0 = l.fx * tx + 0 * 0 + l.ppx * 0 ∧
      (stereoRight l.k ex r).p.getD 7 0 = 0 * tx + l.fy * 0 + l.ppy * 0 ∧
      (stereoRight l.k ex r).p.getD 11 0 = 0 * tx + 0 * 0 + 1 * 0 := by
    have hk : l.k = [l.fx, 0, l.ppx, 0, l.fy, l.ppy, 0, 0, 1] := hl
    simp only [stereoRight, hk]
    exact ⟨rfl, rfl, rfl⟩
  obtain ⟨h3, h7, h11⟩ := hcol
  have hzero : IsZero 0 := isZero_zero
  have hfin0 : (0 : Float).isFinite = true := rfl
  refine ⟨?_, ?_, ?_⟩
  · rw [h3]
    -- the product is kept as it is unless it is itself a zero, and then the sum is one too
    by_cases hw : IsZero (l.fx * tx)
    · exact beq_of_isZero ((hw.add (isZero_mul_zero hfin0 hzero)).add
        (isZero_mul_zero hppx hzero)) hw
    · rw [add_eq_of_isZero hw (isZero_mul_zero hfin0 hzero),
        add_eq_of_isZero hw (isZero_mul_zero hppx hzero)]
      exact beq_self (isNaN_mul hfx htx)
  · rw [h7]
    exact beq_of_isZero (((isZero_zero_mul htx hzero).add (isZero_mul_zero hfy hzero)).add
      (isZero_mul_zero hppy hzero)) hzero
  · rw [h11]
    exact beq_of_isZero (((isZero_zero_mul htx hzero).add (isZero_mul_zero hfin0 hzero)).add
      (isZero_mul_zero isFinite_one hzero)) hzero

/-! ## The stereo pair -/

/-- The stereo pair is led by the first video profile at index 1 that has a partner. -/
theorem stereoPair_eq_some_iff {profiles : List Profile} {left right : Profile} :
    stereoPair profiles = some (left, right) ↔
      (∃ before after,
        profiles.filter (fun p => p.isVideo && p.key.index == 1) = before ++ left :: after ∧
        ∀ l ∈ before, stereoPartner profiles l = none) ∧
      stereoPartner profiles left = some right := by
  unfold stereoPair
  rw [List.findSome?_eq_some_iff]
  constructor
  · rintro ⟨before, l, after, hsplit, hl, hnone⟩
    obtain ⟨r, hr, hlr⟩ := Option.map_eq_some_iff.mp hl
    obtain ⟨rfl, rfl⟩ := Prod.mk.inj hlr
    exact ⟨⟨before, after, hsplit, fun l' hl' => Option.map_eq_none_iff.mp (hnone l' hl')⟩, hr⟩
  · rintro ⟨⟨before, after, hsplit, hnone⟩, hr⟩
    exact ⟨before, left, after, hsplit, by rw [hr]; rfl, fun l' hl' => by rw [hnone l' hl']; rfl⟩

/-! ## Recording a list of profiles -/

/-- The record a list of profiles writes for a stream: that of the last profile of the stream
that has intrinsics. -/
def profileRecord (profiles : List Profile) (key : StreamKey) : Option CalibrationRecord :=
  profiles.reverse.findSome? fun p => if p.key = key then p.intrinsics.map .ofIntrinsics else none

theorem profileRecord_cons (p : Profile) (ps : List Profile) (key : StreamKey) :
    profileRecord (p :: ps) key =
      (profileRecord ps key).or (if p.key = key then p.intrinsics.map .ofIntrinsics else none) := by
  simp only [profileRecord, List.reverse_cons, List.findSome?_append, List.findSome?_singleton]

theorem recordAll_cons (reg : CalibrationRegistry) (p : Profile) (ps : List Profile) :
    reg.recordAll (p :: ps) =
      (match reg.update p with | .ok (_, next) => next | .error _ => reg).recordAll ps :=
  rfl

/-- Recording profiles one after another leaves, for each stream, the record of its last profile
with intrinsics, and the old record where there is none. -/
theorem lookup_recordAll (reg : CalibrationRegistry) (ps : List Profile) (key : StreamKey) :
    (reg.recordAll ps).lookup key = (profileRecord ps key).or (reg.lookup key) := by
  induction ps generalizing reg with
  | nil => rfl
  | cons p rest ih =>
    rw [recordAll_cons, ih, profileRecord_cons, Option.or_assoc]
    congr 1
    -- what the first profile alone does to the stream
    rcases update_changes reg p with ⟨hi, he⟩ | ⟨k, hi, reg', hu, hl⟩
    · simp only [he, hi, Option.map_none, ite_self, Option.none_or]
    · simp only [hu, hl, hi, Option.map_some, Function.update_apply]
      by_cases hk : p.key = key
      · simp [hk]
      · simp [hk, Ne.symm hk]

/-- After the profiles are recorded, the stereo update rewrites the right imager's record when the
device gives the motion and both imagers have records; when it fails nothing changes. -/
theorem lookup_stereoUpdate (reg : CalibrationRegistry) (left right : Profile) (device : Device) :
    (match reg.updateExtrinsics left right device with | .ok next => next | .error _ => reg).lookup =
      match device.extrinsics right left, reg.lookup left.key, reg.lookup right.key with
      | .ok ex, some l, some r => Function.update reg.lookup right.key (some (stereoRight l.k ex r))
      | _, _, _ => reg.lookup := by
  cases hex : device.extrinsics right left with
  | error c => rw [updateExtrinsics, hex]; rfl
  | ok ex =>
    cases hl : reg.lookup left.key with
    | none => rw [updateExtrinsics, hex, hl]; rfl
    | some l =>
      cases hr : reg.lookup right.key with
      | none => rw [updateExtrinsics, hex, hl, hr]; rfl
      | some r =>
        rw [updateExtrinsics, hex, hl, hr]
        exact lookup_insert reg right.key _

theorem lookup_updateProfiles (reg : CalibrationRegistry) (profiles : List Profile) (device : Device) :
    let recorded := reg.recordAll (profiles.filter Profile.isVideo)
    (reg.updateProfiles profiles device).lookup =
      match stereoPair profiles with
      | some (left, right) =>
        match device.extrinsics right left, recorded.lookup left.key, recorded.lookup right.key with
        | .ok ex, some l, some r =>
          Function.update recorded.lookup right.key (some (stereoRight l.k ex r))
        | _, _, _ => recorded.lookup
      | none => recorded.lookup := by
  intro recorded
  unfold updateProfiles
  cases stereoPair profiles with
  | none => rfl
  | some pair => exact lookup_stereoUpdate recorded pair.1 pair.2 device

/-! ## The record for a frame -/

/-- A rewritten record is the one the registry then holds, and no other stream changes. -/
theorem lookup_of_update_ok {reg reg' : CalibrationRegistry} {p : Profile} {r : CalibrationRecord}
    (h : reg.update p = .ok (r, reg')) : reg'.lookup = Function.update reg.lookup p.key (some r) := by
  rcases update_changes reg p with ⟨-, he⟩ | ⟨k, -, reg'', hu, hl⟩
  · rw [he] at h
    cases h
  · rw [hu] at h
    cases h
    exact hl

/-- A frame gets the cached record, with the registry as it is, while its width agrees, and a
rewritten one otherwise; either way the record returned is the one the registry then holds. -/
theorem recordForFrame_changes (reg : CalibrationRegistry) (p : Profile) (w : UInt32) :
    (∀ c, reg.lookup p.key = some c → c.width = w → reg.recordForFrame p w = .ok (c, reg)) ∧
    ((∀ c, reg.lookup p.key = some c → c.width ≠ w) → reg.recordForFrame p w = reg.update p) ∧
    ∀ r reg', reg.recordForFrame p w = .ok (r, reg') →
      reg'.lookup = Function.update reg.lookup p.key (some r) := by
  refine ⟨fun c hc hw => by simp [recordForFrame, hc, hw], fun hne => ?_, fun r reg' h => ?_⟩
  · unfold recordForFrame
    cases hc : reg.lookup p.key with
    | none => rfl
    | some c => simp [hne c hc]
  · unfold recordForFrame at h
    cases hc : reg.lookup p.key with
    | none =>
      rw [hc] at h
      exact lookup_of_update_ok h
    | some c =>
      rw [hc] at h
      by_cases hw : c.width = w
      · -- the cached record comes back with the registry, which already holds it
        simp only [hw, beq_self_eq_true, if_true, Except.ok.injEq, Prod.mk.injEq] at h
        obtain ⟨rfl, rfl⟩ := h
        rw [← hc, Function.update_eq_self]
      · simp only [hw, beq_iff_eq, if_false] at h
        exact lookup_of_update_ok h

/-! ## Reachable registries -/

/-- The registries the operations build from an empty one. A failed operation leaves the registry
it was given, so only successful ones make steps. -/
inductive Reachable : CalibrationRegistry → Prop
  | empty : Reachable {}
  | update {reg reg' : CalibrationRegistry} {p : Profile} {r : CalibrationRecord} :
      Reachable reg → reg.update p = .ok (r, reg') → Reachable reg'
  | updateExtrinsics {reg reg' : CalibrationRegistry} {left right : Profile} {device : Device} :
      Reachable reg → reg.updateExtrinsics left right device = .ok reg' → Reachable reg'
  | updateProfiles {reg : CalibrationRegistry} (profiles : List Profile) (device : Device) :
      Reachable reg → Reachable (reg.updateProfiles profiles device)
  | recordForFrame {reg reg' : CalibrationRegistry} {p : Profile} {w : UInt32}
      {r : CalibrationRecord} :
      Reachable reg → reg.recordForFrame p w = .ok (r, reg') → Reachable reg'

/-- A record written from intrinsics is pinhole. -/
theorem pinhole_of_update_ok {reg reg' : CalibrationRegistry} {p : Profile} {r : CalibrationRecord}
    (hu : reg.update p = .ok (r, reg')) : r.Pinhole := by
  obtain ⟨k, -, rfl⟩ := Option.map_eq_some_iff.mp (update_ok hu).1
  exact CalibrationRecord.pinhole_ofIntrinsics k

/-- Every record of the registry has a pinhole camera matrix. -/
def PinholeRecords (reg : CalibrationRegistry) : Prop :=
  ∀ key c, reg.lookup key = some c → c.Pinhole

section PinholeRecords

variable {reg reg' : CalibrationRegistry} (h : reg.PinholeRecords)
include h

/-- Writing a pinhole record at one stream keeps every record pinhole. -/
theorem PinholeRecords.of_lookup {key : StreamKey} {r : CalibrationRecord}
    (hl : reg'.lookup = Function.update reg.lookup key (some r)) (hr : r.Pinhole) :
    reg'.PinholeRecords := by
  intro key' c hc
  rw [hl, Function.update_apply] at hc
  split_ifs at hc
  · cases hc
    exact hr
  · exact h key' c hc

theorem PinholeRecords.update {p : Profile} {r : CalibrationRecord}
    (hu : reg.update p = .ok (r, reg')) : reg'.PinholeRecords :=
  h.of_lookup (lookup_of_update_ok hu) (pinhole_of_update_ok hu)

theorem PinholeRecords.updateExtrinsics {left right : Profile} {device : Device}
    (hu : reg.updateExtrinsics left right device = .ok reg') : reg'.PinholeRecords := by
  rcases updateExtrinsics_changes reg left right device with ⟨e, he, -⟩ | ⟨ex, l, r, -, -, hr, hok⟩
  · rw [he] at hu
    cases hu
  · rw [hok] at hu
    cases hu
    exact h.of_lookup (lookup_insert reg right.key _) (pinhole_stereoRight l.k ex (h _ _ hr))

theorem PinholeRecords.recordAll (ps : List Profile) : (reg.recordAll ps).PinholeRecords := by
  induction ps generalizing reg with
  | nil => exact h
  | cons p rest ih =>
    rw [recordAll_cons]
    apply ih
    cases hu : reg.update p with
    | error e => exact h
    | ok res =>
      obtain ⟨r, next⟩ := res
      exact h.update hu

theorem PinholeRecords.updateProfiles (ps : List Profile) (device : Device) :
    (reg.updateProfiles ps device).PinholeRecords := by
  have hrec := h.recordAll (ps.filter Profile.isVideo)
  unfold CalibrationRegistry.updateProfiles
  rcases stereoPair ps with _ | ⟨left, right⟩
  · exact hrec
  · dsimp only
    cases hu : (reg.recordAll (ps.filter Profile.isVideo)).updateExtrinsics left right device with
    | error e => exact hrec
    | ok next => exact hrec.updateExtrinsics hu

theorem PinholeRecords.recordForFrame {p : Profile} {w : UInt32} {r : CalibrationRecord}
    (hr : reg.recordForFrame p w = .ok (r, reg')) : reg'.PinholeRecords := by
  -- the record returned is the cached one or one written from intrinsics
  have hpin : r.Pinhole := by
    unfold CalibrationRegistry.recordForFrame at hr
    split at hr
    · split at hr
      · cases hr
        exact h _ _ ‹_›
      · exact pinhole_of_update_ok hr
    · exact pinhole_of_update_ok hr
  exact h.of_lookup ((recordForFrame_changes reg p w).2.2 r reg' hr) hpin

end PinholeRecords

theorem Reachable.pinholeRecords {reg : CalibrationRegistry} (h : Reachable reg) :
    reg.PinholeRecords := by
  induction h with
  | empty => intro key c hc; cases hc
  | update _ hu ih => exact ih.update hu
  | updateExtrinsics _ hu ih => exact ih.updateExtrinsics hu
  | updateProfiles ps device _ ih => exact ih.updateProfiles ps device
  | recordForFrame _ hr ih => exact ih.recordForFrame hr

/-! ## The operations together -/

/-- How each operation may change a registry, read as a map from streams to records. A failed
operation gives no registry, so the caller keeps the one it had. -/
structure OperationsSpec (reg : CalibrationRegistry) : Prop where
  /-- A profile without intrinsics is refused, naming its stream; any other writes the record of
  its stream, and only that one, from its intrinsics. -/
  update : ∀ p : Profile,
    (p.intrinsics = none ∧ reg.update p = .error (.missingIntrinsics p.key.name)) ∨
    ∃ k, p.intrinsics = some k ∧ ∃ reg', reg.update p = .ok (.ofIntrinsics k, reg') ∧
      reg'.lookup = Function.update reg.lookup p.key (some (.ofIntrinsics k))
  /-- The stereo update fails with the device's error or for an imager without a record, or
  changes only the right record's rectification, to the device rotation read row by row, and its
  projection, to `K_left · [R | (t_x, 0, 0)]`. With finite inputs the projection's last column is
  `(fx_left · t_x, 0, 0)`. -/
  updateExtrinsics : ∀ (left right : Profile) (device : Device),
    (∃ e, reg.updateExtrinsics left right device = .error e ∧
      ((∃ c, device.extrinsics right left = .error c ∧ e = .contract c) ∨
        e = .notCalibrated left.key.name ∨ e = .notCalibrated right.key.name)) ∨
    ∃ ex l r rect proj, device.extrinsics right left = .ok ex ∧ reg.lookup left.key = some l ∧
      reg.lookup right.key = some r ∧
      reg.updateExtrinsics left right device =
        .ok (reg.insert right.key { r with r := rect, p := proj }) ∧
      rect = ex.rotation.map Rounding.widen ++ r.r.drop ex.rotation.length ∧
      proj.length = 12 ∧
      (∀ i < 3, ∀ j < 4,
        proj.getD (4 * i + j) 0 = projectionEntry (entry l.k 3) (baselineMotion ex) i j) ∧
      (l.fx.isFinite = true → l.fy.isFinite = true → l.ppx.isFinite = true →
        l.ppy.isFinite = true → (Rounding.widen (ex.translation.getD 0 0)).isFinite = true →
        (proj.getD 3 0 == l.fx * Rounding.widen (ex.translation.getD 0 0)) = true ∧
        (proj.getD 7 0 == 0) = true ∧ (proj.getD 11 0 == 0) = true)
  /-- Every video profile with intrinsics is recorded, the last one of a stream winning; then the
  stereo update runs for the first index-1 imager with a partner, and no other stream changes. -/
  updateProfiles : ∀ (profiles : List Profile) (device : Device),
    (∀ left right, stereoPair profiles = some (left, right) ↔
      (∃ before after,
        profiles.filter (fun p => p.isVideo && p.key.index == 1) = before ++ left :: after ∧
        ∀ l ∈ before, stereoPartner profiles l = none) ∧
      stereoPartner profiles left = some right) ∧
    ∃ recorded : CalibrationRegistry,
      (∀ key, recorded.lookup key =
        (profileRecord (profiles.filter Profile.isVideo) key).or (reg.lookup key)) ∧
      (reg.updateProfiles profiles device).lookup =
        match stereoPair profiles with
        | some (left, right) =>
          match device.extrinsics right left, recorded.lookup left.key, recorded.lookup right.key with
          | .ok ex, some l, some r =>
            Function.update recorded.lookup right.key (some (stereoRight l.k ex r))
          | _, _, _ => recorded.lookup
        | none => recorded.lookup
  /-- A frame gets the cached record while its width agrees, leaving the registry as it is, and a
  rewritten one otherwise; the record returned is the one the registry then holds. -/
  recordForFrame : ∀ (p : Profile) (w : UInt32),
    (∀ c, reg.lookup p.key = some c → c.width = w → reg.recordForFrame p w = .ok (c, reg)) ∧
    ((∀ c, reg.lookup p.key = some c → c.width ≠ w) → reg.recordForFrame p w = reg.update p) ∧
    ∀ r reg', reg.recordForFrame p w = .ok (r, reg') →
      reg'.lookup = Function.update reg.lookup p.key (some r)

/-- Every registry the operations build changes only as `OperationsSpec` says. -/
theorem registry_changes {reg : CalibrationRegistry} (hreg : Reachable reg) :
    reg.OperationsSpec where
  update := update_changes reg
  updateExtrinsics left right device := by
    rcases updateExtrinsics_changes reg left right device with hfail | ⟨ex, l, r, hex, hl, hr, hok⟩
    · exact .inl hfail
    · obtain ⟨rect, proj, hst, hrect, hlen, hproj⟩ := stereoRight_changes l.k ex r
      refine .inr ⟨ex, l, r, rect, proj, hex, hl, hr, hst ▸ hok, hrect, hlen, hproj, ?_⟩
      intro hfx hfy hppx hppy htx
      -- the left record is pinhole because every record of a reachable registry is
      have hbase := stereoRight_baseline (hreg.pinholeRecords _ _ hl) ex r hfx hfy hppx hppy htx
      rwa [hst] at hbase
  updateProfiles profiles device :=
    ⟨fun _ _ => stereoPair_eq_some_iff, _, lookup_recordAll reg _,
      lookup_updateProfiles reg profiles device⟩
  recordForFrame := recordForFrame_changes reg

theorem empty_registry_changes : Reachable {} ∧ ({} : CalibrationRegistry).OperationsSpec :=
  ⟨.empty, registry_changes .empty⟩

end CalibrationRegistry
end DepthBridge
