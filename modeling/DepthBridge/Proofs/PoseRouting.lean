import DepthBridge.Proofs.Run

/-!
# Routing a pose record: where it halts, and its covariances

A pose record is routed whatever its bytes: a short record is refused, a full one becomes the
odometry transform and, when anybody listens, an odometry message. The covariances scale with
the tracker confidence, taken as a signed 32-bit integer `c`: the exponents `3 - c` and `1 - c`
are computed in that width. `handlePose_halts_only_in_window` says what a run does once the bus
time of the record is known: it returns or refuses, except that it may halt with a subtraction
overflow when the confidence is one of the four values `2^31 … 2^31 + 3`, whose signed reading is
within three of the least 32-bit integer; and every odometry message it sends carries two equal
diagonal covariances, `linear · 10^(3 - c)` for the positions and `angular · 10^(1 - c)` for the
rotations (`HasCovariances`).

Both differ from a reading of the confidence as a non-negative integer: a record of confidence
`2^31` halts the router of the default dispatcher (`pose_confidence_overflow_halts`).
-/

namespace DepthBridge

/-! ## The covariance matrix -/

theorem covariance6_length (a b : Float) : (covariance6 a b).length = 36 := by
  simp [covariance6]

/-- The 6×6 covariance, read row-major, is diagonal: `a` for the three positions, then `b` for
the three rotations. -/
theorem covariance6_getD (a b : Float) {r k : Nat} (hr : r < 6) (hk : k < 6) :
    (covariance6 a b).getD (6 * r + k) 0 = if r = k then (if r < 3 then a else b) else 0 := by
  have hi : 6 * r + k < 36 := by omega
  simp only [covariance6, List.getD_eq_getElem?_getD, List.getElem?_map, List.getElem?_range hi,
    Option.map_some, Option.getD_some]
  by_cases hrk : r = k
  · -- a diagonal entry sits at a multiple of 7, the first three before 21
    subst hrk
    have h7 : (6 * r + r) % 7 = 0 := by omega
    by_cases h3 : r < 3
    · simp [h7, h3, show 6 * r + r < 21 by omega]
    · simp [h7, h3, show ¬ 6 * r + r < 21 by omega]
  · simp [hrk, show (6 * r + k) % 7 ≠ 0 by omega]

/-! ## The confidence exponents -/

/-- The four confidences whose signed reading `c` makes `3 - c` overflow 32 bits. -/
def InOverflowWindow (c : UInt32) : Prop :=
  Nat.pow 2 31 ≤ c.toNat ∧ c.toNat ≤ Nat.pow 2 31 + 3

instance (c : UInt32) : Decidable (InOverflowWindow c) := inferInstanceAs (Decidable (_ ∧ _))

theorem poseCovariance_of_window {lin ang : Float} {c : UInt32} (h : InOverflowWindow c) :
    poseCovariance lin ang c = .error .subOverflow := by
  obtain ⟨h1, h2⟩ := h
  have hs : asSigned32 c = (c.toNat : Int) - Nat.pow 2 32 := by
    simp [asSigned32, show ¬ c.toNat < Nat.pow 2 31 by omega]
  simp only [poseCovariance, subI32, hs]
  simp only [Nat.pow_eq] at *
  rw [if_pos (by simp; omega)]
  rfl

theorem poseCovariance_of_not_window {lin ang : Float} {c : UInt32} (h : ¬ InOverflowWindow c) :
    poseCovariance lin ang c =
      .ok (lin * powInt 10 (3 - asSigned32 c), ang * powInt 10 (1 - asSigned32 c)) := by
  have hlt := c.toNat_lt
  unfold InOverflowWindow at h
  -- the signed reading lies in the 32-bit range, and outside the window `3 - c` fits too
  have hb : -(Nat.pow 2 31 : Int) ≤ asSigned32 c ∧ asSigned32 c < Nat.pow 2 31 ∧
      3 - asSigned32 c < Nat.pow 2 31 := by
    unfold asSigned32
    split <;> simp only [Nat.pow_eq] at * <;> omega
  simp only [poseCovariance, subI32]
  simp only [Nat.pow_eq] at *
  rw [if_neg (by simp; omega), if_neg (by simp; omega)]
  rfl

/-! ## The router -/

/-- The covariances of an odometry message for a record of confidence `c`: pose and twist equal,
diagonal 6×6, with `linear · 10^(3 - c)` for the positions and `angular · 10^(1 - c)` for the
rotations, `c` read as a signed 32-bit integer. -/
def HasCovariances (cov : ImuCovariance) (c : UInt32) (m : Odometry) : Prop :=
  m.twistCovariance = m.poseCovariance ∧ m.poseCovariance.length = 36 ∧
    ∀ r < 6, ∀ k < 6, m.poseCovariance.getD (6 * r + k) 0 =
      if r = k then
        (if r < 3 then cov.linearAccelCov * powInt 10 (3 - asSigned32 c)
         else cov.angularVelocityCov * powInt 10 (1 - asSigned32 c))
      else 0

/-! ## A record of confidence `2^31` -/

/-- The bytes of a pose record whose tracker confidence is `2^31`, every other byte zero. -/
def overflowPoseBytes : ByteArray :=
  ⟨(List.replicate 79 (0 : UInt8) ++ [128] ++ List.replicate 4 0).toArray⟩

/-- A pose frame carrying that record. -/
def overflowPoseFrame : Frame := { (default : Frame) with payload := .pose overflowPoseBytes }

/-- The default dispatcher has fixed no reference yet: any record's bus time is the clock's first
reading. -/
theorem busTime_of_default (ms : Float) :
    ((default : Dispatcher RecordingBus).base.toBusTime ms).run
        (default : Dispatcher RecordingBus).clock =
      .ok (⟨Checked.wrapI64 0⟩, { (default : Dispatcher RecordingBus).clock with reads := 1 }) :=
  rfl

namespace Handling

open Dispatching

variable {β α : Type} [MessageBus β]

omit [MessageBus β] in
/-- A step taken on one branch only, before a common continuation. -/
theorem ite_bind_same {c : Prop} [Decidable c] (x : Handling β Unit) (T : Handling β α) :
    (if c then x >>= fun _ => T else T) = (if c then x else pure ()) >>= fun _ => T := by
  split <;> simp

/-- A pose record, once its bus time is known, is refused or routed; a run halts only with a
subtraction overflow, for a full record of confidence in the window. Everything the run sends
goes to the bus in order, and each odometry message among it has the covariances of the record's
confidence. -/
theorem handlePose_halts_only_in_window (d : Dispatcher β) (frame : Frame) (bytes : ByteArray)
    (hpose : frame.payload = .pose bytes) {stamp : Stamp} {clock : Clock}
    (htime : (d.base.toBusTime frame.timestampMs).run d.clock = .ok (stamp, clock)) :
    ∃ msgs d', d'.bus = MessageBus.publishAll d.bus msgs ∧
      (∀ m, (Channel.odometry, Message.odometry m) ∈ msgs →
        ∃ data, readRecord PoseData frame.key bytes = .ok data ∧
          HasCovariances d.covariance data.trackerConfidence m) ∧
      ((∃ r, (handlePose frame).run.run d = .ok r d') ∨
        ∃ data, readRecord PoseData frame.key bytes = .ok data ∧
          InOverflowWindow data.trackerConfidence ∧
          (handlePose frame).run.run d = .error .subOverflow d') := by
  cases hrec : readRecord PoseData frame.key bytes with
  | error e =>
    -- a record too short is refused before anything is sent
    refine ⟨[], d, rfl, by simp, .inl ⟨.error (.contract e), ?_⟩⟩
    simp [handlePose, hpose, hrec, contract]
  | ok data =>
    simp only [handlePose, hpose, hrec, contract, run_bind, run_lift, run_pure, EStateM.run_get,
      run_timed, htime]
    rw [ite_bind_same]
    simp only [run_bind]
    -- the odometry transform, when asked for, goes out first
    generalize hr : EStateM.run (ExceptT.run (if d.publishOdomTf = true then _ else pure ())) _ = r1
    obtain ⟨d2, pre, rfl, hbus, hpre⟩ : ∃ d2 pre, r1 = .ok (.ok ()) d2 ∧
        d2.bus = MessageBus.publishAll d.bus pre ∧ (∀ x ∈ pre, x.1 = .tf) := by
      subst hr
      split
      · exact ⟨_, [(Channel.tf, _)], rfl, rfl, by simp⟩
      · exact ⟨_, [], rfl, rfl, by simp⟩
    simp only [run_lift, run_listened]
    cases hl : MessageBus.hasSubscribers d2.bus .odometry
    · -- nobody listens: the record is counted as skipped
      simp only [Bool.not_false, run_bind, run_lift, run_count, run_pure, if_true]
      refine ⟨pre, { d2 with metrics := d2.metrics.skip }, hbus, (fun m hm => by cases hpre _ hm),
        .inl ⟨_, rfl⟩⟩
    · simp only [Bool.not_true, Bool.false_eq_true, if_false]
      by_cases hw : InOverflowWindow data.trackerConfidence
      · -- the exponents overflow: a halt, after what was already sent
        simp only [run_bind, run_lift, run_orHalt, poseCovariance_of_window hw]
        exact ⟨pre, d2, hbus, (fun m hm => by cases hpre _ hm), .inr ⟨data, rfl, hw, rfl⟩⟩
      · simp only [run_bind, run_lift, run_orHalt, poseCovariance_of_not_window hw, run_publish,
          run_count]
        generalize hO : Odometry.mk _ _ _ _ _ _ = O
        refine ⟨pre ++ [(.odometry, .odometry O)], _, ?_, ?_, .inl ⟨_, rfl⟩⟩
        · simp [MessageBus.publishAll_append, hbus]
        · intro m hm
          rcases List.mem_append.1 hm with hm | hm
          · cases hpre _ hm
          · simp only [List.mem_singleton, Prod.mk.injEq, Message.odometry.injEq, true_and] at hm
            subst hm hO
            exact ⟨data, rfl, rfl, covariance6_length _ _, fun r hr k hk => covariance6_getD _ _ hr hk⟩

/-- The default dispatcher and a record of confidence `2^31` meet the conditions above. -/
theorem handlePose_halts_only_in_window_default :
    overflowPoseFrame.payload = .pose overflowPoseBytes ∧
    ((default : Dispatcher RecordingBus).base.toBusTime overflowPoseFrame.timestampMs).run
        (default : Dispatcher RecordingBus).clock =
      .ok (⟨Checked.wrapI64 0⟩, { (default : Dispatcher RecordingBus).clock with reads := 1 }) ∧
    ∃ msgs d', d'.bus = MessageBus.publishAll (default : Dispatcher RecordingBus).bus msgs ∧
      (∀ m, (Channel.odometry, Message.odometry m) ∈ msgs →
        ∃ data, readRecord PoseData overflowPoseFrame.key overflowPoseBytes = .ok data ∧
          HasCovariances (default : Dispatcher RecordingBus).covariance data.trackerConfidence m) ∧
      ((∃ r, (handlePose overflowPoseFrame).run.run (default : Dispatcher RecordingBus) =
          .ok r d') ∨
        ∃ data, readRecord PoseData overflowPoseFrame.key overflowPoseBytes = .ok data ∧
          InOverflowWindow data.trackerConfidence ∧
          (handlePose overflowPoseFrame).run.run (default : Dispatcher RecordingBus) =
            .error .subOverflow d') :=
  ⟨rfl, busTime_of_default _,
    handlePose_halts_only_in_window _ overflowPoseFrame overflowPoseBytes rfl (busTime_of_default _)⟩

end Handling

/-- The router of the default dispatcher, where everybody listens, halts on a full pose record of
confidence `2^31`, although its bus time is known. -/
theorem pose_confidence_overflow_halts :
    overflowPoseFrame.payload = .pose overflowPoseBytes ∧
    ((default : Dispatcher RecordingBus).base.toBusTime overflowPoseFrame.timestampMs).run
        (default : Dispatcher RecordingBus).clock =
      .ok (⟨Checked.wrapI64 0⟩, { (default : Dispatcher RecordingBus).clock with reads := 1 }) ∧
    ∃ d', (Handling.handlePose overflowPoseFrame).run.run (default : Dispatcher RecordingBus) =
      .error Halt.subOverflow d' := by
  refine ⟨rfl, busTime_of_default _, ?_⟩
  have hrec : ∀ k, readRecord PoseData k overflowPoseBytes = .ok (Record.decode overflowPoseBytes) :=
    fun _ => rfl
  have hw : InOverflowWindow (Record.decode overflowPoseBytes : PoseData).trackerConfidence := by
    decide
  have hsub : ∀ m, MessageBus.hasSubscribers
      (MessageBus.publish (default : Dispatcher RecordingBus).bus .tf m) .odometry = true :=
    fun _ => rfl
  simp only [Handling.handlePose, overflowPoseFrame, hrec, Handling.contract, Handling.run_bind,
    Handling.run_lift, Handling.run_pure, EStateM.run_get, Dispatching.run_timed, busTime_of_default,
    show (default : Dispatcher RecordingBus).publishOdomTf = true from rfl, if_true,
    Dispatching.run_publish, Dispatching.run_listened, poseCovariance_of_window hw,
    Dispatching.run_orHalt, hsub, Bool.not_true, Bool.false_eq_true, if_false]
  exact ⟨_, rfl⟩

end DepthBridge
