import DepthBridge.Sync.Inertial
import DepthBridge.Proofs.Invariant

/-!
# What the inertial synchronizers return

A synchronizer is fed samples one at a time and returns the combined samples each one
completes. Here what it returns over a whole run is described without its state, by a
reference that looks at every gyroscope sample in the context of the accelerometer samples
around it:

* `copyReference`: every gyroscope sample after some accelerometer sample, with the reading of
  the last accelerometer sample before it;
* `linearReference`: every gyroscope sample between two accelerometer samples and not older
  than the one before it, on the line between their readings.

The interpolating synchronizer keeps a history and only sweeps it when an accelerometer sample
arrives and at least three samples are held. `ingestAll_linear` shows that this never loses,
adds or changes a combined sample: a history that is not swept yet never holds a gyroscope
sample between two accelerometer samples (`Settled`), and a sweep returns the reference of what
it consumes (`sweep_none`). `ingestAll_eq_reference` puts both methods together, with what
the dispatcher feeds the synchronizer (`Handling.sync_handleImu`).
-/

namespace DepthBridge

/-- Whether a sample is the accelerometer's. -/
def InertialSample.isAccel (s : InertialSample) : Bool :=
  match s.axis with
  | .accel => true
  | .gyro => false

namespace ImuSynchronizer

/-- The combined samples returned when `samples` are fed one at a time, all together. -/
def ingestAll : ImuSynchronizer → List InertialSample → List UnifiedInertial
  | _, [] => []
  | sync, s :: rest => (sync.ingest s).1 ++ ingestAll (sync.ingest s).2 rest

/-- The first accelerometer sample among `samples`. -/
def firstAccel (samples : List InertialSample) : Option InertialSample :=
  samples.find? InertialSample.isAccel

/-- What copying owes to `samples` when `prev` is the last accelerometer sample before them:
every gyroscope sample with the reading of the last accelerometer sample before it, if any. -/
def copyReference : Option InertialSample → List InertialSample → List UnifiedInertial
  | _, [] => []
  | prev, s :: rest =>
    match s.axis with
    | .accel => copyReference (some s) rest
    | .gyro =>
      (prev.map fun a => ⟨s.timeNs, a.reading, s.reading⟩).toList ++ copyReference prev rest

/-- How far time `t` lies from `a0` towards `a1`, as a fraction of the span between them; zero
when `a1` is not later than `a0`. -/
def alphaAt (a0 a1 : InertialSample) (t : Float) : Float :=
  if a1.timeNs - a0.timeNs > 0 then (t - a0.timeNs) / (a1.timeNs - a0.timeNs) else 0

/-- The combined sample owed to the gyroscope sample `g` when `prev` is the last accelerometer
sample before it and `next` the first one after it: none unless both exist and `g` is not
older than `prev`. -/
def interpolated (prev : Option InertialSample) (g : InertialSample)
    (next : Option InertialSample) : List UnifiedInertial :=
  match prev, next with
  | some a0, some a1 =>
    if g.timeNs ≥ a0.timeNs then
      [⟨g.timeNs, lerp a0.reading a1.reading (alphaAt a0 a1 g.timeNs), g.reading⟩]
    else []
  | _, _ => []

/-- What interpolation owes to `samples` when `prev` is the last accelerometer sample before
them. -/
def linearReference : Option InertialSample → List InertialSample → List UnifiedInertial
  | _, [] => []
  | prev, s :: rest =>
    match s.axis with
    | .accel => linearReference (some s) rest
    | .gyro => interpolated prev s (firstAccel rest) ++ linearReference prev rest

/-! ## Copying -/

/-- Copying returns its reference, from any remembered accelerometer sample. -/
theorem ingestAll_copy (latest : Option InertialSample) (samples : List InertialSample) :
    ingestAll (.copy latest) samples = copyReference latest samples := by
  induction samples generalizing latest with
  | nil => rfl
  | cons s rest ih =>
    cases hs : s.axis with
    | accel => simp [ingestAll, ingest, copyReference, hs, ih]
    | gyro =>
      cases latest with
      | none => simp [ingestAll, ingest, copyReference, hs, ih]
      | some a => simp [ingestAll, ingest, copyReference, hs, ih]

/-! ## The interpolation reference -/

section reference

variable {prev : Option InertialSample} {s : InertialSample}

@[simp] theorem linearReference_nil (prev : Option InertialSample) :
    linearReference prev [] = [] := rfl

theorem linearReference_accel (h : s.axis = .accel) (rest : List InertialSample) :
    linearReference prev (s :: rest) = linearReference (some s) rest := by
  simp [linearReference, h]

theorem linearReference_gyro (h : s.axis = .gyro) (rest : List InertialSample) :
    linearReference prev (s :: rest) =
      interpolated prev s (firstAccel rest) ++ linearReference prev rest := by
  simp [linearReference, h]

theorem firstAccel_cons_gyro (h : s.axis = .gyro) (rest : List InertialSample) :
    firstAccel (s :: rest) = firstAccel rest := by
  simp [firstAccel, InertialSample.isAccel, h]

theorem firstAccel_cons_accel (h : s.axis = .accel) (rest : List InertialSample) :
    firstAccel (s :: rest) = some s := by
  simp [firstAccel, InertialSample.isAccel, h]

end reference

/-- The reference splits after an accelerometer sample: nothing before it looks past it, and
it is the last accelerometer sample before everything after it. -/
theorem linearReference_append_accel (prev : Option InertialSample) (front back : List InertialSample)
    {a : InertialSample} (ha : a.axis = .accel) :
    linearReference prev (front ++ a :: back) =
      linearReference prev (front ++ [a]) ++ linearReference (some a) back := by
  induction front generalizing prev with
  | nil => simp [linearReference_accel ha]
  | cons x rest ih =>
    cases hx : x.axis with
    | accel => simp only [List.cons_append, linearReference_accel hx, ih]
    | gyro =>
      -- the first accelerometer sample after `x` lies at `a` or before it
      have hfirst : firstAccel (rest ++ a :: back) = firstAccel (rest ++ [a]) := by
        simp [firstAccel, List.find?_append, InertialSample.isAccel, ha]
      simp only [List.cons_append, linearReference_gyro hx, ih, hfirst, List.append_assoc]

/-- A gyroscope sample at the end has no accelerometer sample after it, and changes nothing. -/
theorem linearReference_append_gyro (prev : Option InertialSample) (front : List InertialSample)
    {g : InertialSample} (hg : g.axis = .gyro) :
    linearReference prev (front ++ [g]) = linearReference prev front := by
  induction front generalizing prev with
  | nil => simp [linearReference_gyro hg, firstAccel, interpolated]
  | cons x rest ih =>
    cases hx : x.axis with
    | accel => simp only [List.cons_append, linearReference_accel hx, ih]
    | gyro =>
      have hfirst : firstAccel (rest ++ [g]) = firstAccel rest := by
        simp [firstAccel, List.find?_append, InertialSample.isAccel, hg]
      simp only [List.cons_append, linearReference_gyro hx, ih, hfirst]

/-! ## A sweep returns the reference of what it consumes -/

/-- The combined samples owed to the gyroscope samples `pending`, waiting since the
accelerometer sample `a0`, once the next accelerometer sample `next` is known. -/
def owed (a0 : InertialSample) (pending : List InertialSample) :
    Option InertialSample → List UnifiedInertial
  | some a1 => interpolate a0 a1 pending
  | none => []

@[simp] theorem owed_some (a0 a1 : InertialSample) (pending : List InertialSample) :
    owed a0 pending (some a1) = interpolate a0 a1 pending := rfl

@[simp] theorem owed_nil (a0 : InertialSample) (next : Option InertialSample) :
    owed a0 [] next = [] := by
  cases next <;> rfl

theorem owed_append {a0 g : InertialSample} (pending : List InertialSample)
    (next : Option InertialSample) (hg : g.timeNs ≥ a0.timeNs) :
    owed a0 (pending ++ [g]) next = owed a0 pending next ++ interpolated (some a0) g next := by
  cases next with
  | none => simp [owed, interpolated]
  | some a1 => simp [owed, interpolated, interpolate, hg, alphaAt]

/-- Sweeping samples after the accelerometer sample `a0`, with gyroscope samples waiting, adds
what those are owed and the reference of the samples. -/
theorem sweep_some (samples : List InertialSample) (a0 : InertialSample)
    (pending : List InertialSample) (out : List UnifiedInertial) :
    sweep samples (some a0) pending out =
      out ++ owed a0 pending (firstAccel samples) ++ linearReference (some a0) samples := by
  -- induction on the samples still to sweep, from any last accelerometer sample and any
  -- gyroscope samples waiting for the next one
  induction samples generalizing a0 pending out with
  | nil => simp [sweep, owed, firstAccel]
  | cons s rest ih =>
    cases hs : s.axis with
    | accel =>
      simp only [sweep, hs, ih, firstAccel_cons_accel hs, linearReference_accel hs, owed_some,
        owed_nil, List.append_nil]
    | gyro =>
      rw [firstAccel_cons_gyro hs, linearReference_gyro hs]
      by_cases ht : s.timeNs ≥ a0.timeNs
      · simp only [sweep, hs, ht, if_true, ih, owed_append pending _ ht, List.append_assoc]
      · -- a gyroscope sample older than `a0` is dropped, and is owed nothing
        have hnone : interpolated (some a0) s (firstAccel rest) = [] := by
          cases firstAccel rest <;> simp [interpolated, ht]
        simp only [sweep, hs, ht, if_false, ih, hnone, List.nil_append]

/-- A sweep from the start returns the reference of what it consumes. -/
theorem sweep_none (samples : List InertialSample) (out : List UnifiedInertial) :
    sweep samples none [] out = out ++ linearReference none samples := by
  induction samples generalizing out with
  | nil => simp [sweep]
  | cons s rest ih =>
    cases hs : s.axis with
    | accel => simp [sweep, hs, sweep_some, linearReference_accel hs]
    | gyro =>
      simp only [sweep, hs, ih, linearReference_gyro hs]
      cases firstAccel rest <;> simp [interpolated]

/-! ## The history between sweeps -/

theorem ingest_linear_of_gyro (history : List InertialSample) {s : InertialSample}
    (hs : s.axis = .gyro) :
    ingest (.linear history) s = ([], .linear (history ++ [s])) := by
  simp [ingest, hs]

theorem ingest_linear_of_short (history : List InertialSample) (s : InertialSample)
    (hl : (history ++ [s]).length < 3) :
    ingest (.linear history) s = ([], .linear (history ++ [s])) := by
  simp only [List.length_append, List.length_singleton] at hl
  simp [ingest, hl]

/-- An accelerometer sample that brings the history to three samples sweeps it, and starts the
next history with itself. -/
theorem ingest_linear_of_accel (history : List InertialSample) {s : InertialSample}
    (hs : s.axis = .accel) (hl : 3 ≤ (history ++ [s]).length) :
    ingest (.linear history) s = (sweep (history ++ [s]) none [] [], .linear [s]) := by
  simp only [List.length_append, List.length_singleton] at hl
  have hnot : ¬ history.length + 1 < 3 := by omega
  simp [ingest, hs, hnot]

/-- A history in which no gyroscope sample is enclosed by accelerometer samples yet, so that it
owes nothing. -/
def Settled (history : List InertialSample) : Prop := linearReference none history = []

/-- Two samples cannot enclose a gyroscope sample between accelerometer samples. -/
theorem settled_of_length_lt (history : List InertialSample) (hl : history.length < 3) :
    Settled history := by
  rcases history with _ | ⟨x, _ | ⟨y, _ | ⟨z, rest⟩⟩⟩
  · rfl
  · cases hx : x.axis with
    | accel => simp [Settled, linearReference_accel hx]
    | gyro => simp [Settled, linearReference_gyro hx, interpolated]
  · cases hx : x.axis with
    | accel =>
      cases hy : y.axis with
      | accel => simp [Settled, linearReference_accel hx, linearReference_accel hy]
      | gyro =>
        simp [Settled, linearReference_accel hx, linearReference_gyro hy, firstAccel,
          interpolated]
    | gyro =>
      cases hy : y.axis with
      | accel => simp [Settled, linearReference_gyro hx, linearReference_accel hy, interpolated]
      | gyro => simp [Settled, linearReference_gyro hx, linearReference_gyro hy, interpolated]
  · simp only [List.length_cons] at hl
    omega

theorem Settled.append_gyro {history : List InertialSample} (h : Settled history)
    {g : InertialSample} (hg : g.axis = .gyro) : Settled (history ++ [g]) := by
  unfold Settled at h ⊢
  rw [linearReference_append_gyro none history hg, h]

/-- Fed to the interpolating synchronizer from a settled history, samples come out as the
reference of the history followed by the samples. The induction is on the samples with the
history generalised; `Settled` is what it carries from one sample to the next. -/
theorem ingestAll_linear (history : List InertialSample) (hs : Settled history)
    (samples : List InertialSample) :
    ingestAll (.linear history) samples = linearReference none (history ++ samples) := by
  -- induction on the samples, from any settled history: a settled history owes nothing, so
  -- the reference of the whole input is what the rest of the run returns
  induction samples generalizing history with
  | nil => simpa [ingestAll] using hs.symm
  | cons s rest ih =>
    by_cases hkeep : s.axis = .gyro ∨ (history ++ [s]).length < 3
    · -- the sample only joins the history, which stays settled
      have hstep : ingest (.linear history) s = ([], .linear (history ++ [s])) := by
        rcases hkeep with hg | hl
        · exact ingest_linear_of_gyro history hg
        · exact ingest_linear_of_short history s hl
      have hs' : Settled (history ++ [s]) := by
        rcases hkeep with hg | hl
        · exact hs.append_gyro hg
        · exact settled_of_length_lt _ hl
      simp only [ingestAll, hstep, ih _ hs', List.nil_append, List.append_assoc,
        List.singleton_append]
    · -- an accelerometer sample sweeps the history: the reference splits at it
      have ha : s.axis = .accel := by
        cases h : s.axis with
        | accel => rfl
        | gyro => exact absurd (Or.inl h) hkeep
      have hl : 3 ≤ (history ++ [s]).length := by omega
      have hsettled : Settled [s] := settled_of_length_lt [s] (by simp)
      rw [ingestAll, ingest_linear_of_accel history ha hl, ih [s] hsettled, sweep_none,
        linearReference_append_accel none history rest ha]
      simp [linearReference_accel ha]

end ImuSynchronizer

/-! ## Feeding the synchronizer

The dispatcher hands the synchronizer the sample of an inertial frame only when the combined
channel has a listener and the frame's record reads (`Handling.sync_handleImu`); a skipped frame,
or one whose record does not read, leaves it as it was.
-/

namespace Handling

open Dispatching

section Feeding

variable {β : Type}

/-- Reading an inertial frame leaves the state as it is. -/
theorem run_reading (frame : Frame) (d : Dispatcher β) :
    ∃ r, (reading frame : Handling β Vector3).run.run d = .ok r d := by
  unfold reading
  split
  · cases readRecord MotionReading frame.key _ <;> exact ⟨_, rfl⟩
  · exact ⟨_, rfl⟩

variable [MessageBus β]

/-- Sending combined samples leaves the synchronizer where it is. -/
theorem sendCombined_keeps_sync (frameId : String) (us : List UnifiedInertial)
    (X : Option ImuSynchronizer) :
    Keeps (fun d : Dispatcher β => d.sync = X) (sendCombined frameId us) := by
  induction us with
  | nil => exact keeps_pure ()
  | cons u rest ih =>
    rw [sendCombined]
    refine keeps_lift_get_bind fun d _ => ?_
    refine Keeps.bind (keeps_lift (keeps_timed _ fun _ _ h => h)) fun stamp => ?_
    refine Keeps.bind (keeps_lift (keeps_withGate fun _ h => h)) fun r => ?_
    cases r with
    | ok _ => exact ih
    | error e => exact keeps_throw _

/-- Without a synchronizer, inertial frames leave it absent. -/
theorem handleImu_keeps_no_sync (frame : Frame) :
    Keeps (fun d : Dispatcher β => d.sync = none) (handleImu frame) := by
  unfold handleImu
  split
  · refine keeps_lift_get_bind fun d hd => ?_
    split
    next sync hsync => exact absurd (hsync.symm.trans hd) (by simp)
    next =>
      have hskip : Keeps (fun d' : Dispatcher β => d'.sync = none) (skip >>= fun _ => pure 0 : Handling β Nat) :=
        (keeps_lift (keeps_count _ fun _ _ h => h)).bind fun _ => keeps_pure 0
      refine Keeps.bind (keeps_lift (keeps_listened _)) fun _ => keeps_ite hskip ?_
      refine (keeps_reading frame).bind fun r => ?_
      refine Keeps.bind (keeps_lift (keeps_timed _ fun _ _ h => h)) fun stamp => ?_
      refine Keeps.bind (keeps_lift (keeps_publish fun _ h => h)) fun _ => ?_
      exact (keeps_lift (keeps_count _ fun _ _ h => h)).bind fun _ => keeps_pure 1
  · exact keeps_throw _

/-- The synchronizer after an inertial frame: with a synchronizer, it takes the frame's sample
when the combined channel has a listener and the frame's record reads, and is left as it was
when the sample is skipped or its record does not read; without one, there stays none. -/
theorem sync_handleImu (frame : Frame) (d : Dispatcher β) :
    (stateOf ((handleImu frame).run.run d)).sync =
      match ImuAxis.ofKind? frame.kind, d.sync with
      | some axis, some sync =>
        if MessageBus.hasSubscribers d.bus .syncedImu = true then
          match (reading frame : Handling β Vector3).run.run d with
          | .ok (.ok r) _ => some (sync.ingest ⟨axis, r, d.base.elapsedNs frame.timestampMs⟩).2
          | _ => some sync
        else some sync
      | _, _ => d.sync := by
  cases ha : ImuAxis.ofKind? frame.kind with
  | none =>
    -- not an inertial stream: refused before anything is read
    unfold handleImu
    simp only [ha]
    rfl
  | some axis =>
    cases hs : d.sync with
    | none => exact handleImu_keeps_no_sync frame d hs
    | some sync =>
      unfold handleImu
      simp only [ha, run_bind, run_lift, EStateM.run_get, hs, run_listened]
      cases hl : MessageBus.hasSubscribers d.bus Channel.syncedImu
      case false =>
        -- nobody listens: the sample is counted as skipped
        have hskip : Keeps (fun d' : Dispatcher β => d'.sync = some sync)
            (skip >>= fun _ => pure 0 : Handling β Nat) :=
          (keeps_lift (keeps_count _ fun _ _ h => h)).bind fun _ => keeps_pure 0
        exact hskip d hs
      case true =>
        obtain ⟨r₀, hr⟩ := run_reading (β := β) frame d
        simp only [Bool.not_true, Bool.false_eq_true, ↓reduceIte, run_bind, hr]
        cases r₀ with
        | error e => exact hs
        | ok r =>
          simp only [run_lift, EStateM.run_modify]
          -- the synchronizer has taken the sample; sending and counting leave it
          generalize hd₁ : ({ d with sync := some (sync.ingest ⟨axis, r, d.base.elapsedNs frame.timestampMs⟩).2 } :
            Dispatcher β) = d₁
          have hsend := sendCombined_keeps_sync (β := β) d.names.imuOpticalFrameId
            (sync.ingest ⟨axis, r, d.base.elapsedNs frame.timestampMs⟩).1
            (some (sync.ingest ⟨axis, r, d.base.elapsedNs frame.timestampMs⟩).2) d₁ (by rw [← hd₁])
          rcases hsent : (sendCombined d.names.imuOpticalFrameId
            (sync.ingest ⟨axis, r, d.base.elapsedNs frame.timestampMs⟩).1 : Handling β Unit).run.run d₁ with
            ⟨_ | _, d₂⟩ | ⟨_, d₂⟩ <;> rw [hsent] at hsend <;> exact hsend

end Feeding

end Handling

namespace ImuSynchronizer

/-- Fed any samples one at a time from the state it is created in, a synchronizer returns, all
together and in the order of the gyroscope samples, exactly its method's reference: copying
pairs every gyroscope sample after some accelerometer sample with the reading of the last one
before it; interpolation places every gyroscope sample that has accelerometer samples on both
sides, and is not older than the one before it, on the line between them. The samples are those
the dispatcher hands over: of each inertial frame it handles while the combined channel has a
listener and whose record reads; any other frame leaves the synchronizer as it was. -/
theorem ingestAll_eq_reference (samples : List InertialSample) :
    (forMethod? .copy).map (ingestAll · samples) = some (copyReference none samples) ∧
      (forMethod? .linearInterpolation).map (ingestAll · samples) =
        some (linearReference none samples) ∧
      ∀ (β : Type) [MessageBus β] (frame : Frame) (d : Dispatcher β),
        (stateOf ((Handling.handleImu frame).run.run d)).sync =
          match ImuAxis.ofKind? frame.kind, d.sync with
          | some axis, some sync =>
            if MessageBus.hasSubscribers d.bus .syncedImu = true then
              match (Handling.reading frame : Handling β Vector3).run.run d with
              | .ok (.ok r) _ => some (sync.ingest ⟨axis, r, d.base.elapsedNs frame.timestampMs⟩).2
              | _ => some sync
            else some sync
          | _, _ => d.sync := by
  refine ⟨?_, ?_, fun β _ frame d => Handling.sync_handleImu frame d⟩
  · simp [forMethod?, ingestAll_copy]
  · simp [forMethod?, ingestAll_linear [] rfl samples]

end ImuSynchronizer
end DepthBridge
