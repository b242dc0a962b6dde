import DepthBridge.Device.Fake
import DepthBridge.Proofs.Image

/-!
# What the counters count

The dispatcher counts what it publishes: frames (images of a stream and point clouds), poses
(odometry), inertial messages (on a stream's own channel, or accepted by the gate in front of
the combined channel), and every frameset it handles, with its latency. On a recording bus this
traffic can be read off the bus and the gate's queue (`Dispatcher.traffic`), and
`Dispatcher.Accounts` says that the counters agree with it.

`metrics_account_for_traffic`: over any sequence of calls (samples, inertial frames handed
straight to the inertial router, and the pauses and resumes of calls running alongside), the
frame and pose counters equal the frames and poses published, the frameset counters add up to
the latencies measured, and to the framesets handled when no call halts, and the inertial
counter never exceeds the inertial messages published or accepted, and equals them when the
inertial streams are published one by one. With a synchronizer it can fall short: the combined
messages of one sample are counted only once all of them were accepted, and a full queue
refuses the later ones after accepting the first (`imu_uncounted_after_overflow`).

A counter is bumped after what it counts went out, and whether it is depends on what the
publication returned. In between, the counters owe the traffic just published
(`Dispatcher.Owes`), and the handlers are followed with the triples of `Triple`.
-/

namespace DepthBridge

namespace Channel

/-- The frame counter counts the images of a stream and the point clouds. -/
def isFrame : Channel → Bool
  | .image _ => true
  | .pointCloud => true
  | _ => false

/-- The inertial counter counts the messages of a stream's own inertial channel and of the
combined one. -/
def isInertial : Channel → Bool
  | .imu _ => true
  | .syncedImu => true
  | _ => false

end Channel

/-- What the counters are checked against: frames, poses and inertial messages. -/
@[ext] structure Traffic where
  frames : Nat
  poses : Nat
  inertial : Nat
  deriving DecidableEq

namespace Traffic

instance : Add Traffic :=
  ⟨fun a b => ⟨a.frames + b.frames, a.poses + b.poses, a.inertial + b.inertial⟩⟩

@[simp] theorem frames_add (a b : Traffic) : (a + b).frames = a.frames + b.frames := rfl

@[simp] theorem poses_add (a b : Traffic) : (a + b).poses = a.poses + b.poses := rfl

@[simp] theorem inertial_add (a b : Traffic) : (a + b).inertial = a.inertial + b.inertial := rfl

@[simp] theorem add_zero (a : Traffic) : a + ⟨0, 0, 0⟩ = a := rfl

/-- The traffic of a list of published messages. -/
def ofMessages (ms : List (Channel × Message)) : Traffic :=
  ⟨ms.countP (·.1.isFrame), ms.countP (·.1 == .odometry), ms.countP (·.1.isInertial)⟩

end Traffic

/-- The traffic of a dispatcher on a recording bus: what was published, and the inertial
messages waiting behind the gate. -/
def Dispatcher.traffic (d : Dispatcher RecordingBus) : Traffic :=
  Traffic.ofMessages d.bus.published + ⟨0, 0, d.gate.pending.length⟩

/-- The counters after counting the traffic `t`. -/
def Metrics.tally (m : Metrics) (t : Traffic) : Metrics :=
  { m with framesPublished := m.framesPublished + t.frames
           posesPublished := m.posesPublished + t.poses
           imuPublished := m.imuPublished + t.inertial }

/-- Counters `m` account for traffic `t`, with the inertial streams published one by one when
`separate`. -/
structure Metrics.Accounts (m : Metrics) (t : Traffic) (separate : Bool) : Prop where
  frames : m.framesPublished = t.frames
  poses : m.posesPublished = t.poses
  framesets : m.framesetsProcessed + m.framesetsFailed = m.latencyCount
  inertial : m.imuPublished ≤ t.inertial
  inertial_of_separate : separate = true → m.imuPublished = t.inertial

namespace Metrics

variable {m : Metrics} {t : Traffic} {sep : Bool}

theorem tally_tally (m : Metrics) (δ ε : Traffic) : (m.tally ε).tally δ = m.tally (δ + ε) := by
  simp only [tally, Traffic.frames_add, Traffic.poses_add, Traffic.inertial_add, Nat.add_assoc,
    Nat.add_comm ε.frames, Nat.add_comm ε.poses, Nat.add_comm ε.inertial]

/-- Traffic published and owed alike keeps the account. -/
theorem Accounts.add {δ : Traffic} (h : (m.tally δ).Accounts t sep) (ε : Traffic) :
    (m.tally (δ + ε)).Accounts (t + ε) sep := by
  obtain ⟨hf, hp, hs, hi, hsep⟩ := h
  simp only [tally] at *
  constructor <;> simp only [Traffic.frames_add, Traffic.poses_add, Traffic.inertial_add]
  · omega
  · omega
  · exact hs
  · omega
  · intro hsep'
    have := hsep hsep'
    omega

/-- Inertial messages owed need not be counted when the streams are combined. -/
theorem Accounts.forgive {δ : Traffic} {k : Nat}
    (h : (m.tally (δ + ⟨0, 0, k⟩)).Accounts t false) : (m.tally δ).Accounts t false := by
  obtain ⟨hf, hp, hs, hi, -⟩ := h
  simp only [tally, Traffic.frames_add, Traffic.inertial_add] at *
  constructor <;> simp only
  · omega
  · omega
  · exact hs
  · omega
  · intro h
    cases h

end Metrics

namespace Dispatcher

variable {d d' : Dispatcher RecordingBus} {δ : Traffic} {k : Nat} {sep : Bool}

/-- The counters of the dispatcher account for its traffic. -/
def Accounts (d : Dispatcher RecordingBus) : Prop :=
  d.metrics.Accounts d.traffic d.sync.isNone

/-- The counters of the dispatcher account for its traffic once `δ` more is counted; they have
counted `k` framesets, and the inertial streams are published one by one when `sep`. -/
structure Owes (δ : Traffic) (k : Nat) (sep : Bool) (d : Dispatcher RecordingBus) : Prop where
  counts : (d.metrics.tally δ).Accounts d.traffic sep
  framesets : d.metrics.framesetsProcessed + d.metrics.framesetsFailed = k
  separate : d.sync.isNone = sep

theorem Accounts.owes (h : d.Accounts) :
    d.Owes ⟨0, 0, 0⟩ (d.metrics.framesetsProcessed + d.metrics.framesetsFailed) d.sync.isNone :=
  ⟨h, rfl, rfl⟩

theorem Owes.congr (h : d.Owes δ k sep) (ht : d'.traffic = d.traffic) (hm : d'.metrics = d.metrics)
    (hs : d'.sync.isNone = d.sync.isNone) : d'.Owes δ k sep :=
  ⟨hm ▸ ht ▸ h.counts, hm ▸ h.framesets, hs ▸ h.separate⟩

theorem Owes.publish {ε : Traffic} (h : d.Owes δ k sep) (ht : d'.traffic = d.traffic + ε)
    (hm : d'.metrics = d.metrics) (hs : d'.sync.isNone = d.sync.isNone) :
    d'.Owes (δ + ε) k sep :=
  ⟨hm ▸ ht ▸ h.counts.add ε, hm ▸ h.framesets, hs ▸ h.separate⟩

/-- Counting `ε` pays it off. -/
theorem Owes.count {ε : Traffic} (h : d.Owes (δ + ε) k sep) :
    { d with metrics := d.metrics.tally ε }.Owes δ k sep := by
  refine ⟨?_, h.framesets, h.separate⟩
  show ((d.metrics.tally ε).tally δ).Accounts d.traffic sep
  rw [Metrics.tally_tally]
  exact h.counts

/-- Combined inertial messages owed need not be counted. -/
theorem Owes.forgive {n : Nat} (h : d.Owes (δ + ⟨0, 0, n⟩) k false) : d.Owes δ k false :=
  ⟨h.counts.forgive, h.framesets, h.separate⟩

/-- Skipping a sample is counted apart from the traffic. -/
theorem Owes.skip (h : d.Owes δ k sep) : { d with metrics := d.metrics.skip }.Owes δ k sep :=
  ⟨⟨h.1.1, h.1.2, h.1.3, h.1.4, h.1.5⟩, h.2, h.3⟩

/-- A frameset counts as processed or failed, and its latency with it. -/
theorem Owes.recordFrameset (h : d.Owes δ k sep) (success : Bool) :
    { d with metrics := d.metrics.recordFrameset success }.Owes δ (k + 1) sep := by
  obtain ⟨⟨hf, hp, hs, hi, hsep⟩, hk, hsync⟩ := h
  -- only the frameset counters and the latencies move, one step each
  cases success <;> refine ⟨⟨hf, hp, ?_, hi, hsep⟩, ?_, hsync⟩ <;>
    simp only [Metrics.recordFrameset, Metrics.tally, Bool.false_eq_true, ↓reduceIte] at hs hk ⊢ <;>
    omega

theorem traffic_publishAll (d : Dispatcher RecordingBus) (ms : List (Channel × Message)) :
    { d with bus := MessageBus.publishAll d.bus ms }.traffic = d.traffic + Traffic.ofMessages ms := by
  ext <;> simp only [traffic, RecordingBus.publishAll_eq, Traffic.ofMessages, List.countP_append,
    Traffic.frames_add, Traffic.poses_add, Traffic.inertial_add] <;> omega

theorem traffic_pause (d : Dispatcher RecordingBus) :
    { d with gate := d.gate.pause }.traffic = d.traffic := by
  simp only [traffic, Gate.pending_pause]

/-- Combined inertial messages go from the gate's queue to the bus, and count the same. -/
theorem traffic_deliveredOn (d : Dispatcher RecordingBus) (ms : List ImuMessage) :
    { d with bus := Gate.deliveredOn d.bus ms }.traffic = d.traffic + ⟨0, 0, ms.length⟩ := by
  ext <;> simp [traffic, Gate.deliveredOn, Traffic.ofMessages, List.countP_append, List.countP_map,
    Function.comp_def, Channel.isFrame, Channel.isInertial]
  omega

end Dispatcher

namespace Gate

/-- A publication through the gate on a recording bus: an open gate delivers the message, a
paused one queues it, or refuses it when the queue is full. -/
theorem publish_recording_run (g : Gate ImuMessage) (b : RecordingBus) (msg : ImuMessage) :
    ((g.publish Dispatching.deliver msg).run b).run =
      if g.depth = 0 then ((.ok (), g), deliveredOn b [msg])
      else if g.capacity ≤ g.pending.length then
        ((.error (.queueOverflow g.name g.pending.length g.capacity), g), b)
      else ((.ok (), { g with pending := g.pending ++ [msg] }), b) := by
  split
  next h => simp [publish, h, Dispatching.deliver, deliveredOn, MessageBus.publish]
  split
  next h hfull => exact publish_run_of_full g b msg h hfull
  next h hroom => exact publish_run_of_room g b msg h (by omega)

/-- A resume on a recording bus reports no failure. -/
theorem resume_recording_ok (g : Gate ImuMessage) (b : RecordingBus) :
    ∃ n, ((g.resume Dispatching.deliver).run b).run.1.1 = .ok n := by
  rcases Nat.lt_trichotomy g.depth 1 with hlt | heq | hgt
  · exact ⟨0, by rw [resume_run_of_open g b (by omega)]⟩
  · refine ⟨g.pending.length, ?_⟩
    simp only [resume, heq, Nat.one_ne_zero, if_false, gt_iff_lt, Nat.lt_irrefl, StateT.run_bind,
      Id.run_bind, deliverAll_recording]
    rfl
  · exact ⟨0, by rw [resume_run_of_nested g b hgt]⟩

end Gate

namespace Dispatcher

/-- A resume moves the queue onto the bus, which leaves the traffic as it was. -/
theorem traffic_resume (d : Dispatcher RecordingBus) :
    { d with gate := ((d.gate.resume Dispatching.deliver).run d.bus).run.1.2
             bus := ((d.gate.resume Dispatching.deliver).run d.bus).run.2 }.traffic = d.traffic := by
  rcases Nat.lt_trichotomy d.gate.depth 1 with hlt | heq | hgt
  · rw [Gate.resume_run_of_open d.gate d.bus (by omega)]
  · rw [(Gate.resume_run_of_last d.gate d.bus heq).1, (Gate.resume_run_of_last d.gate d.bus heq).2,
      Gate.deliverAll_recording]
    ext <;> simp [traffic, Gate.deliveredOn, Traffic.ofMessages, List.countP_append, List.countP_map,
      Function.comp_def, Channel.isFrame, Channel.isInertial]
  · rw [Gate.resume_run_of_nested d.gate d.bus hgt]
    rfl

/-- A publication through the gate adds one inertial message when it is accepted. -/
theorem traffic_gatePublish (d : Dispatcher RecordingBus) (msg : ImuMessage) :
    { d with gate := ((d.gate.publish Dispatching.deliver msg).run d.bus).run.1.2
             bus := ((d.gate.publish Dispatching.deliver msg).run d.bus).run.2 }.traffic =
      d.traffic + ⟨0, 0, if ((d.gate.publish Dispatching.deliver msg).run d.bus).run.1.1.toBool
        then 1 else 0⟩ := by
  rw [Gate.publish_recording_run]
  split
  · exact traffic_deliveredOn d [msg]
  split
  · ext <;> simp [traffic, Except.toBool]
  · ext <;> simp [traffic, Except.toBool]
    omega

end Dispatcher

/-! ## One lemma per operation -/

namespace Dispatching

variable {α : Type} {δ : Traffic} {k : Nat} {sep : Bool} {R : Dispatcher RecordingBus → Prop}

theorem timed_keeps_owes (f : Timed α) :
    Keeps (Dispatcher.Owes δ k sep) (timed f : Dispatching RecordingBus α) :=
  keeps_timed f fun _ _ h => h.congr rfl rfl rfl

theorem takeGuard_keeps_owes :
    Keeps (Dispatcher.Owes δ k sep) (takeGuard : Dispatching RecordingBus Gate.Guard) :=
  keeps_takeGuard fun d h => h.congr d.traffic_pause rfl rfl

theorem resume_keeps_owes :
    Keeps (Dispatcher.Owes δ k sep) (resume : Dispatching RecordingBus (Except SyncError Nat)) := by
  intro d hd
  rw [run_resume]
  exact hd.congr d.traffic_resume rfl rfl

/-- A resume on a recording bus never reports a failure. -/
theorem resume_triple_owes :
    Triple (Dispatcher.Owes δ k sep) (resume : Dispatching RecordingBus (Except SyncError Nat))
      (fun r d => d.Owes δ k sep ∧ ∃ n, r = .ok n) R := by
  intro d hd
  rw [run_resume]
  exact ⟨hd.congr d.traffic_resume rfl rfl, Gate.resume_recording_ok d.gate d.bus⟩

/-- What is published is owed to the counters. -/
theorem publish_triple_owes (c : Channel) (m : Message) :
    Triple (Dispatcher.Owes δ k sep) (publish c m : Dispatching RecordingBus Unit)
      (fun _ => Dispatcher.Owes (δ + Traffic.ofMessages [(c, m)]) k sep) R :=
  fun d hd => hd.publish (d.traffic_publishAll [(c, m)]) rfl rfl

/-- What goes where nothing is counted is owed nothing. -/
theorem publish_keeps_owes {c : Channel} (m : Message)
    (hc : Traffic.ofMessages [(c, m)] = ⟨0, 0, 0⟩) :
    Keeps (Dispatcher.Owes δ k sep) (publish c m : Dispatching RecordingBus Unit) := by
  intro d hd
  have h := (publish_triple_owes c m : Triple _ _ _ (Dispatcher.Owes δ k sep)) d hd
  rw [hc, Traffic.add_zero] at h
  exact h

/-- A combined inertial message accepted by the gate is owed to the counters. -/
theorem gatePublish_triple_owes (msg : ImuMessage) :
    Triple (Dispatcher.Owes δ k sep)
      (withGate (Gate.publish deliver msg) : Dispatching RecordingBus (Except SyncError Unit))
      (fun r => Dispatcher.Owes (δ + ⟨0, 0, if r.toBool then 1 else 0⟩) k sep) R :=
  fun d hd => hd.publish (d.traffic_gatePublish msg) rfl rfl

/-- Counting pays off what was owed. -/
theorem count_triple_owes (f : Metrics → Metrics) {ε : Traffic} (hf : ∀ m, f m = m.tally ε) :
    Triple (Dispatcher.Owes (δ + ε) k sep) (count f : Dispatching RecordingBus Unit)
      (fun _ => Dispatcher.Owes δ k sep) R := by
  intro d hd
  show Dispatcher.Owes δ k sep { d with metrics := f d.metrics }
  rw [hf]
  exact hd.count

theorem skip_keeps_owes :
    Keeps (Dispatcher.Owes δ k sep) (count Metrics.skip : Dispatching RecordingBus Unit) :=
  keeps_modify fun _ h => h.skip

end Dispatching

/-! ## Frames -/

namespace Handling

open Dispatching

variable {δ : Traffic} {k : Nat} {sep : Bool}

/-- A publication that either sends traffic `ε` or leaves the state as it was owes `ε` when
it sends. -/
theorem triple_owes_of_sends {x : Handling RecordingBus Bool} {ε : Traffic}
    {E : Dispatcher RecordingBus → Dispatcher RecordingBus → Prop}
    (hx : ∀ d, Triple (· = d) x (fun sent d' => if sent then E d d' else d' = d) (· = d))
    (hE : ∀ d d', E d d' →
      d'.traffic = d.traffic + ε ∧ d'.metrics = d.metrics ∧ d'.sync.isNone = d.sync.isNone) :
    Triple (Dispatcher.Owes δ k sep) x (fun sent => Dispatcher.Owes (if sent then δ + ε else δ) k sep)
      (Dispatcher.Owes δ k sep) := by
  intro d hd
  refine (hx d).mono (fun _ h => h) (fun sent d' h => ?_) (fun d' h => by subst h; exact hd) d rfl
  cases sent with
  | false =>
    subst h
    exact hd
  | true =>
    obtain ⟨ht, hm, hs⟩ := hE d d' h
    exact hd.publish ht hm hs

/-- An image sent on channels whose traffic is `ε` owes `ε` to the counters. -/
theorem publishImage_triple_owes (frame : Frame) (key : StreamKey) (cal : Profile)
    (imageCh infoCh : Channel) (stamp : Stamp) {ε : Traffic}
    (hε : ∀ info image : Message, Traffic.ofMessages [(infoCh, info), (imageCh, image)] = ε) :
    Triple (Dispatcher.Owes δ k sep)
      (publishImage frame key cal imageCh infoCh stamp : Handling RecordingBus Bool)
      (fun sent => Dispatcher.Owes (if sent then δ + ε else δ) k sep) (Dispatcher.Owes δ k sep) := by
  refine triple_owes_of_sends (publishImage_triple frame key cal imageCh infoCh stamp) fun d d' h => ?_
  obtain ⟨v, enc, step, r, reg, -, -, -, rfl⟩ := h
  have hpair : Traffic.ofMessages (d.imagePair frame key imageCh infoCh v enc step r stamp) = ε :=
    hε _ _
  exact ⟨hpair ▸ d.traffic_publishAll _, rfl, rfl⟩

/-- A frame on its own channels owes one frame. -/
theorem publishFrame_triple_owes (frame : Frame) (stamp : Stamp) :
    Triple (Dispatcher.Owes δ k sep) (publishFrame frame stamp : Handling RecordingBus Bool)
      (fun sent => Dispatcher.Owes (if sent then δ + ⟨1, 0, 0⟩ else δ) k sep)
      (Dispatcher.Owes δ k sep) :=
  publishImage_triple_owes _ _ _ _ _ _ fun _ _ => rfl

/-- Aligned depth is not counted, and goes where nothing is counted. -/
theorem publishAligned_keeps_owes (depth : Frame) (target : Profile) (stamp : Stamp) :
    Keeps (Dispatcher.Owes δ k sep)
      (publishAligned depth target stamp : Handling RecordingBus Bool) := by
  have h : Triple (Dispatcher.Owes δ k sep)
      (publishAligned depth target stamp : Handling RecordingBus Bool)
      (fun sent => Dispatcher.Owes (if sent then δ + ⟨0, 0, 0⟩ else δ) k sep)
      (Dispatcher.Owes δ k sep) :=
    publishImage_triple_owes _ _ _ _ _ _ fun _ _ => rfl
  refine Triple.keeps (h.mono (fun _ h => h) (fun sent d h => ?_) (fun _ h => h))
  cases sent
  · exact h
  · exact h

/-- A point cloud owes one frame when it goes out. -/
theorem publishPoints_triple_owes (p : PointsBuffer) (stamp : Stamp) (s : Frameset) :
    Triple (Dispatcher.Owes δ k sep) (publishPoints p stamp s : Handling RecordingBus Bool)
      (fun sent => Dispatcher.Owes (if sent then δ + ⟨1, 0, 0⟩ else δ) k sep)
      (Dispatcher.Owes δ k sep) := by
  refine triple_owes_of_sends (publishPoints_triple p stamp s) fun d d' h => ?_
  obtain ⟨m, rfl⟩ := h
  exact ⟨d.traffic_publishAll [(.pointCloud, .pointCloud m)], rfl, rfl⟩

theorem sendFrame_triple_owes (s : Frameset) (stamp : Stamp) (frame : Frame) :
    Triple (Dispatcher.Owes δ k sep) (sendFrame s stamp frame : Handling RecordingBus Bool)
      (fun sent => Dispatcher.Owes (if sent then δ + ⟨1, 0, 0⟩ else δ) k sep)
      (Dispatcher.Owes δ k sep) := by
  unfold sendFrame
  split
  · exact publishPoints_triple_owes _ stamp s
  · exact publishFrame_triple_owes frame stamp

/-- Every selected frame that goes out is counted right after. -/
theorem publishSelected_keeps_owes (s : Frameset) (stamp : Stamp) (ps : List Nat) :
    Keeps (Dispatcher.Owes δ k sep) (publishSelected s stamp ps : Handling RecordingBus Nat) := by
  induction ps with
  | nil => exact keeps_pure 0
  | cons i rest ih =>
    rw [publishSelected_cons]
    refine Triple.keeps ((sendFrame_triple_owes s stamp _).bind fun sent => ?_)
    have hrest := Triple.of_keeps (ih.bind fun n => keeps_pure ((if sent then 1 else 0) + n))
    dsimp only
    cases sent
    · exact hrest
    · exact (triple_lift (count_triple_owes Metrics.frame fun _ => rfl)).bind fun _ => hrest

/-- Processing a frameset counts every frame it publishes. -/
theorem processFrameset_keeps_owes (s : Frameset) :
    Keeps (Dispatcher.Owes δ k sep) (processFrameset s : Handling RecordingBus Nat) := by
  unfold processFrameset
  split
  · refine keeps_lift_get_bind fun d _ => ?_
    refine Keeps.bind (keeps_lift (timed_keeps_owes _)) fun r => ?_
    obtain ⟨_, base⟩ := r
    refine Keeps.bind (keeps_lift (keeps_modify fun _ h => h.congr rfl rfl rfl)) fun _ => ?_
    refine Keeps.bind (keeps_lift (timed_keeps_owes _)) fun stamp => ?_
    dsimp only
    split
    · rw [pure_bind]
      refine (publishSelected_keeps_owes _ stamp _).bind fun n => ?_
      refine keeps_ite (Keeps.bind ?_ fun _ => keeps_pure _) (keeps_pure _)
      exact keeps_publishAlignedDepth (fun depth target => publishAligned_keeps_owes depth target stamp) _
    · exact keeps_throw_bind _ _
    · exact keeps_lift_throw_bind _ _
  · exact keeps_pure 0

/-- A single video frame is counted once the gate is resumed, which never fails on a recording
bus. -/
theorem onVideoFrame_keeps_owes (frame : Frame) :
    Keeps (Dispatcher.Owes δ k sep) (onVideoFrame frame : Handling RecordingBus Unit) := by
  unfold onVideoFrame sendVideoFrame
  refine Triple.keeps ((triple_lift (triple_paused
    (fun published resumed d =>
      Outcome (fun sent => Dispatcher.Owes (if sent then δ + ⟨1, 0, 0⟩ else δ) k sep)
        (Dispatcher.Owes δ k sep) published d ∧ ∃ n, resumed = .ok n)
    (Dispatching.Triple.of_keeps takeGuard_keeps_owes)
    (triple_get_bind fun d _ => (Dispatching.Triple.of_keeps (timed_keeps_owes _)).bind fun stamp =>
      (publishFrame_triple_owes (d.clip frame) stamp).run)
    resume_keeps_owes fun a => ?_)).bind fun r => ?_)
  · cases a
    · exact resume_triple_owes
    · exact resume_triple_owes
  · obtain ⟨published, resumed⟩ := r
    dsimp only
    split
    · intro d hd
      obtain ⟨-, n, hn⟩ := hd
      cases hn
    · refine triple_liftM_bind (fun sent hsent => ?_) fun e he d hd => ?_
      · subst hsent
        cases sent
        · exact fun d hd => hd.1
        · exact (triple_lift (count_triple_owes Metrics.frame fun _ => rfl)).mono (fun _ h => h.1)
            (fun _ _ h => h) (fun _ h => h)
      · subst he
        exact hd.1

end Handling

namespace Dispatching

variable {δ : Traffic} {k : Nat} {sep : Bool} {R : Dispatcher RecordingBus → Prop}

/-- A frameset is counted once, as processed or failed, unless its handling halts. -/
theorem onFrameset_triple_owes (s : Frameset) :
    Triple (Dispatcher.Owes δ k sep) (onFrameset s : Dispatching RecordingBus Unit)
      (fun _ => Dispatcher.Owes δ (k + 1) sep) (Dispatcher.Owes δ k sep) := by
  unfold onFrameset
  exact (Triple.of_keeps (keeps_paused (Handling.processFrameset_keeps_owes s).run takeGuard_keeps_owes
    resume_keeps_owes)).bind fun r d hd => hd.recordFrameset _

end Dispatching

/-! ## Poses and inertial samples -/

namespace Handling

open Dispatching

variable {δ : Traffic} {k : Nat} {sep : Bool}

/-- A pose publishes transforms, which are not counted, and odometry, which is. -/
theorem handlePose_keeps_owes (frame : Frame) :
    Keeps (Dispatcher.Owes δ k sep) (handlePose frame : Handling RecordingBus Unit) := by
  unfold handlePose
  split
  · refine (keeps_contract _).bind fun data => keeps_lift_get_bind fun d _ => ?_
    refine Keeps.bind (keeps_lift (timed_keeps_owes _)) fun stamp => ?_
    dsimp only
    refine keeps_ite ((keeps_lift (publish_keeps_owes _ rfl)).bind fun _ => ?_) ?_
    all_goals
      refine Keeps.bind (keeps_lift (keeps_listened _)) fun _ => keeps_ite ?_ ?_
      · exact (keeps_lift skip_keeps_owes).bind fun _ => keeps_pure ()
      refine Keeps.bind (keeps_lift (keeps_orHalt _)) fun _ => ?_
      exact Triple.keeps ((triple_lift (publish_triple_owes _ _)).bind fun _ =>
        triple_lift (count_triple_owes Metrics.pose fun _ => rfl))
  · exact keeps_throw _

/-- Combined samples go through the gate one by one: each one accepted is owed, and the first
refusal leaves those accepted before it owed for good. -/
theorem sendCombined_triple_owes (frameId : String) (us : List UnifiedInertial) (n : Nat) :
    Triple (Dispatcher.Owes (δ + ⟨0, 0, n⟩) k false)
      (sendCombined frameId us : Handling RecordingBus Unit)
      (fun _ => Dispatcher.Owes (δ + ⟨0, 0, n + us.length⟩) k false) (Dispatcher.Owes δ k false) := by
  induction us generalizing n with
  | nil => exact fun _ hd => hd
  | cons u rest ih =>
    rw [sendCombined]
    have hforgive : ∀ d : Dispatcher RecordingBus,
        d.Owes (δ + ⟨0, 0, n⟩) k false → d.Owes δ k false :=
      fun _ h => h.forgive
    refine triple_lift_get_bind fun d _ => ?_
    refine (triple_lift ((Dispatching.Triple.of_keeps (timed_keeps_owes _)).mono (fun _ h => h.1)
      (fun _ _ h => h) hforgive)).bind fun stamp => ?_
    refine (triple_lift ((gatePublish_triple_owes _).mono (fun _ h => h) (fun _ _ h => h) hforgive)).bind
      fun r => ?_
    cases r with
    | ok v =>
      -- accepted: one more owed, and the rest follows
      refine (ih (n + 1)).mono (fun _ h => h) (fun _ d h => ?_) (fun _ h => h)
      have hlen : n + 1 + rest.length = n + (u :: rest).length := by simp only [List.length_cons]; omega
      rw [← hlen]
      exact h
    | error e =>
      -- refused: the refusal goes on
      exact (triple_throw _).mono (fun _ h => h.forgive.forgive) (fun _ _ h => h) (fun _ h => h)

/-- Inertial samples are counted once published, one by one, or once all the combined samples
they complete are accepted. -/
theorem handleImu_keeps_owes (frame : Frame) :
    Keeps (Dispatcher.Owes δ k sep) (handleImu frame : Handling RecordingBus Nat) := by
  unfold handleImu
  split
  · refine Triple.keeps (triple_lift_get_bind fun d hd => ?_)
    have hskip : Keeps (Dispatcher.Owes δ k sep) (skip >>= fun _ => pure 0 : Handling RecordingBus Nat) :=
      (keeps_lift skip_keeps_owes).bind fun _ => keeps_pure 0
    refine (?_ : Triple (Dispatcher.Owes δ k sep) _ _ _).mono (fun _ h => h.1) (fun _ _ h => h)
      (fun _ h => h)
    split
    next sync hsync =>
      -- combined: the streams stay combined, so what the gate refuses may stay owed
      have hsep : sep = false := by rw [← hd.separate, hsync]; rfl
      subst hsep
      refine (Triple.of_keeps (keeps_lift (keeps_listened _))).bind fun _ =>
        triple_ite (Triple.of_keeps hskip) ?_
      refine (Triple.of_keeps (keeps_reading frame)).bind fun r => ?_
      split
      refine (Triple.of_keeps (keeps_lift (keeps_modify fun _ h => h.congr rfl rfl h.separate.symm))).bind
        fun _ => ?_
      refine ((sendCombined_triple_owes _ _ 0).mono (fun _ h => h) (fun _ _ h => by rwa [Nat.zero_add] at h)
        (fun _ h => h)).bind fun _ => ?_
      exact (triple_lift (count_triple_owes (Metrics.imu · _) fun _ => rfl)).bind fun _ _ h => h
    next hsync =>
      -- single: one message on the sample's own channel, counted right after
      refine (Triple.of_keeps (keeps_lift (keeps_listened _))).bind fun _ =>
        triple_ite (Triple.of_keeps hskip) ?_
      refine (Triple.of_keeps (keeps_reading frame)).bind fun r => ?_
      refine (Triple.of_keeps (keeps_lift (timed_keeps_owes _))).bind fun stamp => ?_
      refine (triple_lift (publish_triple_owes _ _)).bind fun _ => ?_
      exact (triple_lift (count_triple_owes (Metrics.imu · 1) fun _ => rfl)).bind fun _ _ h => h
  · exact keeps_throw _

theorem onFrame_keeps_owes (frame : Frame) :
    Keeps (Dispatcher.Owes δ k sep) (onFrame frame : Handling RecordingBus Unit) := by
  unfold onFrame
  refine keeps_lift_get_bind fun d _ => ?_
  refine Keeps.bind (keeps_lift (timed_keeps_owes _)) fun r => ?_
  obtain ⟨_, base⟩ := r
  refine Keeps.bind (keeps_lift (keeps_modify fun _ h => h.congr rfl rfl rfl)) fun _ => ?_
  split
  · exact (handleImu_keeps_owes frame).discard
  · exact handlePose_keeps_owes frame
  · exact onVideoFrame_keeps_owes frame
  · exact keeps_throw _

end Handling

/-! ## Every run -/

/-- A call into the dispatcher: a sample, an inertial frame handed straight to the inertial
router, or a pause or resume of the gate by a call running alongside. -/
inductive Call where
  | sample (x : Sample)
  | imu (frame : Frame)
  | pause
  | resume

namespace Call

/-- What a call runs. -/
def handle : Call → Handling RecordingBus Unit
  | .sample x => Handling.onSample x
  | .imu frame => discard (Handling.handleImu frame)
  | .pause => Handling.lift Dispatching.pause
  | .resume => Handling.lift (discard Dispatching.resume)

/-- Whether the call hands over a frameset. -/
def isFrameset : Call → Bool
  | .sample (.frameset _) => true
  | _ => false

variable {δ : Traffic} {k : Nat} {sep : Bool}

/-- A call returns, or refuses, with one more frameset counted when it handed one over; it
halts with the counters as they were. -/
theorem handle_triple_owes (c : Call) :
    Dispatching.Triple (Dispatcher.Owes δ k sep) c.handle.run
      (fun _ => Dispatcher.Owes δ (k + if c.isFrameset then 1 else 0) sep) (Dispatcher.Owes δ k sep) := by
  cases c with
  | sample x =>
    cases x with
    | frameset s =>
      -- handing a frameset over never refuses
      intro d hd
      have h := Dispatching.onFrameset_triple_owes s d hd
      show Ended _ _ ((Handling.lift (Dispatching.onFrameset s) : Handling RecordingBus Unit).run.run d)
      rw [Handling.run_lift]
      cases hr : (Dispatching.onFrameset s).run d <;> (rw [hr] at h; exact h)
    | frame f => exact Dispatching.Triple.of_keeps (Handling.onFrame_keeps_owes f).run
  | imu f => exact Dispatching.Triple.of_keeps (Handling.handleImu_keeps_owes f).discard.run
  | pause => exact Dispatching.Triple.of_keeps (Handling.keeps_lift Dispatching.takeGuard_keeps_owes).run
  | resume =>
    exact Dispatching.Triple.of_keeps (Handling.keeps_lift Dispatching.resume_keeps_owes.discard).run

end Call

namespace Dispatcher

/-- Whether no handler of the run from `d` halts. -/
def haltFree {β α : Type} (d : Dispatcher β) : List (Handling β α) → Bool
  | [] => true
  | x :: rest =>
    match x.run.run d with
    | .ok _ d' => d'.haltFree rest
    | .error _ _ => false

variable {δ : Traffic} {k : Nat} {sep : Bool}

/-- Whatever the calls, the counters keep accounting for the traffic, having counted some
number of framesets. -/
theorem handleAll_owes_some (calls : List Call) {d : Dispatcher RecordingBus} (hd : d.Owes δ k sep) :
    ∃ k', (d.handleAll (calls.map Call.handle)).Owes δ k' sep := by
  have hkeeps : ∀ x ∈ calls.map Call.handle,
      Handling.Keeps (fun e : Dispatcher RecordingBus => ∃ k', e.Owes δ k' sep) x := by
    intro x hx e ⟨k', he⟩
    obtain ⟨c, -, rfl⟩ := List.mem_map.1 hx
    exact (c.handle_triple_owes).stateOf (fun _ d h => (⟨_, h⟩ : ∃ k', d.Owes δ k' sep))
      (fun _ h => ⟨_, h⟩) he
  exact Handling.Keeps.handleAll hkeeps ⟨k, hd⟩

/-- When no call halts, every frameset handed over is counted. -/
theorem handleAll_owes (calls : List Call) {d : Dispatcher RecordingBus} (hd : d.Owes δ k sep)
    (hf : d.haltFree (calls.map Call.handle) = true) :
    (d.handleAll (calls.map Call.handle)).Owes δ (k + calls.countP Call.isFrameset) sep := by
  induction calls generalizing d k with
  | nil => exact hd
  | cons c rest ih =>
    have hk : k + (if c.isFrameset then 1 else 0) + rest.countP Call.isFrameset =
        k + (c :: rest).countP Call.isFrameset := by
      rw [List.countP_cons]
      omega
    rw [← hk]
    have h := c.handle_triple_owes d hd
    simp only [List.map_cons, haltFree] at hf
    show ((stateOf (c.handle.run.run d)).handleAll (rest.map Call.handle)).Owes δ _ sep
    revert h hf
    -- the call returns, so its frameset, if any, was counted
    cases c.handle.run.run d with
    | ok a d' => exact fun h hf => ih h hf
    | error e d' => exact fun _ hf => absurd hf Bool.false_ne_true

/-- A dispatcher that has counted nothing, published nothing and queues nothing accounts. -/
theorem accounts_of_fresh {d : Dispatcher RecordingBus} (hm : d.metrics = {}) (hb : d.bus.published = [])
    (hg : d.gate.pending = []) : d.Accounts := by
  unfold Accounts traffic
  rw [hm, hb, hg]
  exact ⟨rfl, rfl, rfl, Nat.le_refl 0, fun _ => rfl⟩

end Dispatcher

/-- Over any sequence of calls from a dispatcher whose counters account for its traffic on a
recording bus: the frame and pose counters equal the frames and poses published, the frameset
counters add up to the latencies measured, and to the framesets handed over when no call
halts, and the inertial counter is at most the inertial messages published or waiting behind
the gate, and equal to them when the inertial streams are published one by one. -/
theorem metrics_account_for_traffic {d : Dispatcher RecordingBus} (hd : d.Accounts)
    (calls : List Call) :
    let d' := d.handleAll (calls.map Call.handle)
    d'.metrics.framesPublished = d'.bus.published.countP (·.1.isFrame) ∧
    d'.metrics.posesPublished = d'.bus.published.countP (·.1 == .odometry) ∧
    d'.metrics.imuPublished ≤ d'.bus.published.countP (·.1.isInertial) + d'.gate.pending.length ∧
    (d.sync = none →
      d'.metrics.imuPublished = d'.bus.published.countP (·.1.isInertial) + d'.gate.pending.length) ∧
    d'.metrics.framesetsProcessed + d'.metrics.framesetsFailed = d'.metrics.latencyCount ∧
    (d.haltFree (calls.map Call.handle) = true →
      d'.metrics.framesetsProcessed + d'.metrics.framesetsFailed =
        d.metrics.framesetsProcessed + d.metrics.framesetsFailed + calls.countP Call.isFrameset) := by
  intro d'
  obtain ⟨k, ⟨hf, hp, hfs, hi, hsep⟩, -, -⟩ := Dispatcher.handleAll_owes_some calls hd.owes
  refine ⟨hf, hp, hi, fun hnone => hsep (by rw [hnone]; rfl), hfs, fun hhalt => ?_⟩
  exact (Dispatcher.handleAll_owes calls hd.owes hhalt).framesets

/-- A fresh dispatcher on the test camera, with the inertial streams interpolated into one
behind a gate whose queue holds a single message. -/
def overflowDispatcher : Dispatcher RecordingBus :=
  Dispatcher.ofConfig { uniteImuMethod := .linearInterpolation, imuQueueCapacity := 1 }
    (Device.fake true) {} ⟨0, 0, 0⟩

/-- A frameset holds the gate while four inertial samples arrive; the last one completes two
combined samples at once. -/
def overflowCalls : List Call :=
  [.pause, .sample (.frame (Fake.motionFrame .accel ⟨0, 0, 9⟩ 0)),
   .sample (.frame (Fake.motionFrame .gyro ⟨1, 0, 0⟩ 1)),
   .sample (.frame (Fake.motionFrame .gyro ⟨2, 0, 0⟩ 2)),
   .sample (.frame (Fake.motionFrame .accel ⟨0, 0, 9⟩ 3)), .resume]

/-- A frameset, then the calls above: no call halts, and the counters account for what went
out. -/
theorem metrics_account_for_traffic_at_overflow :
    let calls := Call.sample (.frameset (Fake.frameset 1 0)) :: overflowCalls
    let d' := overflowDispatcher.handleAll (calls.map Call.handle)
    overflowDispatcher.Accounts ∧ overflowDispatcher.haltFree (calls.map Call.handle) = true ∧
      d'.metrics.framesPublished = d'.bus.published.countP (·.1.isFrame) ∧
      d'.metrics.posesPublished = d'.bus.published.countP (·.1 == .odometry) ∧
      d'.metrics.imuPublished ≤ d'.bus.published.countP (·.1.isInertial) + d'.gate.pending.length ∧
      (overflowDispatcher.sync = none →
        d'.metrics.imuPublished = d'.bus.published.countP (·.1.isInertial) + d'.gate.pending.length) ∧
      d'.metrics.framesetsProcessed + d'.metrics.framesetsFailed = d'.metrics.latencyCount ∧
      (overflowDispatcher.haltFree (calls.map Call.handle) = true →
        d'.metrics.framesetsProcessed + d'.metrics.framesetsFailed =
          overflowDispatcher.metrics.framesetsProcessed + overflowDispatcher.metrics.framesetsFailed +
            calls.countP Call.isFrameset) :=
  ⟨Dispatcher.accounts_of_fresh rfl rfl rfl, by decide +kernel,
    metrics_account_for_traffic (Dispatcher.accounts_of_fresh rfl rfl rfl) _⟩

/-- With combined inertial streams the counter can fall short: the queue accepts the first of
the two combined samples and refuses the second, so the sample is refused and neither is
counted, though the first is published on the resume. -/
theorem imu_uncounted_after_overflow :
    let d' := overflowDispatcher.handleAll (overflowCalls.map Call.handle)
    d'.metrics.imuPublished = 0 ∧
      d'.bus.published.countP (·.1.isInertial) + d'.gate.pending.length = 1 := by
  decide +kernel

end DepthBridge
