import DepthBridge.Proofs.Run
import DepthBridge.Proofs.Selection

/-!
# What a frameset puts on the bus

Handling a frameset composes several steps: the first frame fixes the clock reference and gives
the frameset's bus time, the first depth frame is clipped, the pipeline runs, and the selected
frames go out one after the other until one of them fails.

Here the outcome is described without the monads. `Dispatcher.frameSends` says what one
selected frame sends, or why it fails; `sendAll` walks the selected frames and stops at the
first failure; `Dispatcher.framesetSends` puts the bus time, the clipping and the selection
together. `Handling.onSample_frameset_publishes` then states the contract of frameset handling
when no pipeline stage is enabled, depth is not aligned and the bus listens on every channel.
Handling puts exactly those messages on the bus and leaves the inertial gate as it found it. It
counts the frameset as processed, or as failed when a frame was refused; a halt counts nothing.

Publishing a frame may write the calibration record of its stream, and the records are shared
by all the frames. The selection publishes every stream once (`selected_groups_nodup`), so no
frame reads a record that an earlier frame of the same frameset wrote: each frame sees the
registry as it was before the frameset.
-/

namespace DepthBridge

/-! ## The calibration record of a frame -/

namespace CalibrationRegistry

/-- The record a frame of profile `p` and width `w` is published with: the stream's cached
record while its width agrees, otherwise a fresh one from the profile's intrinsics, if any. -/
def calibrationFor (reg : CalibrationRegistry) (p : Profile) (w : UInt32) :
    Option CalibrationRecord :=
  ((reg.lookup p.key).filter (·.width == w)).or (p.intrinsics.map CalibrationRecord.ofIntrinsics)

theorem lookup_filter_of_ne {k k' : StreamKey} (h : k' ≠ k) :
    ∀ l : List (StreamKey × CalibrationRecord), (l.filter (·.1 != k)).lookup k' = l.lookup k'
  | [] => rfl
  | (k'', r) :: rest => by
    have ih := lookup_filter_of_ne h rest
    by_cases hk : k'' = k
    · subst hk
      simp [List.lookup_cons, beq_false_of_ne h, ih]
    · simp only [List.filter_cons, bne_iff_ne.mpr hk, if_true, List.lookup_cons]
      cases k' == k'' <;> simp [ih]

theorem lookup_insert_of_ne (reg : CalibrationRegistry) {k k' : StreamKey} (r : CalibrationRecord)
    (h : k' ≠ k) : (reg.insert k r).lookup k' = reg.lookup k' := by
  simp [insert, lookup, List.lookup_cons, beq_false_of_ne h, lookup_filter_of_ne h]

theorem update_ok {reg reg' : CalibrationRegistry} {p : Profile} {r : CalibrationRecord}
    (h : reg.update p = .ok (r, reg')) :
    p.intrinsics.map CalibrationRecord.ofIntrinsics = some r ∧
      ∀ k ≠ p.key, reg'.lookup k = reg.lookup k := by
  unfold update at h
  cases hi : p.intrinsics with
  | none => simp [hi] at h
  | some k =>
    simp only [hi, Except.ok.injEq, Prod.mk.injEq] at h
    obtain ⟨rfl, rfl⟩ := h
    exact ⟨rfl, fun k' hk => lookup_insert_of_ne reg _ hk⟩

theorem update_error {reg : CalibrationRegistry} {p : Profile} {e : CalibrationError}
    (h : reg.update p = .error e) : p.intrinsics = none := by
  unfold update at h
  cases hi : p.intrinsics with
  | none => rfl
  | some k => simp [hi] at h

/-- The record of a frame is the one `calibrationFor` names, and no other stream's record
changes. -/
theorem recordForFrame_ok {reg reg' : CalibrationRegistry} {p : Profile} {w : UInt32}
    {r : CalibrationRecord} (h : reg.recordForFrame p w = .ok (r, reg')) :
    reg.calibrationFor p w = some r ∧ ∀ k ≠ p.key, reg'.lookup k = reg.lookup k := by
  unfold recordForFrame at h
  cases hl : reg.lookup p.key with
  | none =>
    rw [hl] at h
    obtain ⟨hr, hk⟩ := update_ok h
    exact ⟨by simp [calibrationFor, hl, hr], hk⟩
  | some c =>
    rw [hl] at h
    cases hw : c.width == w with
    | true =>
      simp only [hw, if_true, Except.ok.injEq, Prod.mk.injEq] at h
      obtain ⟨rfl, rfl⟩ := h
      exact ⟨by simp [calibrationFor, hl, hw], fun _ _ => rfl⟩
    | false =>
      -- a cached record of another width is rewritten from the intrinsics
      simp only [hw, Bool.false_eq_true, if_false] at h
      obtain ⟨hr, hk⟩ := update_ok h
      have hne : c.width ≠ w := by simpa using hw
      exact ⟨by simp [calibrationFor, hl, Option.filter_some, hne, hr], hk⟩

/-- A frame is refused its record only when `calibrationFor` has none. -/
theorem recordForFrame_error {reg : CalibrationRegistry} {p : Profile} {w : UInt32}
    {e : CalibrationError} (h : reg.recordForFrame p w = .error e) :
    reg.calibrationFor p w = none := by
  unfold recordForFrame at h
  cases hl : reg.lookup p.key with
  | none =>
    rw [hl] at h
    simp [calibrationFor, hl, update_error h]
  | some c =>
    rw [hl] at h
    cases hw : c.width == w with
    | true => simp [hw] at h
    | false =>
      simp only [hw, Bool.false_eq_true, if_false] at h
      have hne : c.width ≠ w := by simpa using hw
      simp [calibrationFor, hl, hne, update_error h]

end CalibrationRegistry

/-! ## The steps around publication -/

/-- A pipeline whose stages are all switched off leaves every frameset as it is. -/
theorem Pipeline.process_of_disabled {p : Pipeline} (h : ∀ st ∈ p.stages, st.enabled = false)
    (s : Frameset) : p.process s = .ok (.ok s) := by
  have hf : p.stages.filter (·.enabled) = [] :=
    List.filter_eq_nil_iff.mpr fun st hst => by simp [h st hst]
  simp only [Pipeline.process, hf, List.foldlM_nil]
  rfl

theorem Cloud.publish_of_silent {β : Type} [MessageBus β] (c : PointCloudConfig)
    (points : PointsBuffer) (stamp : Stamp) (s : Frameset) (frameId : String) (bus : β)
    (h : MessageBus.hasSubscribers bus .pointCloud = false) :
    Cloud.publish c points stamp s frameId bus = .ok (false, bus) := by
  simp [Cloud.publish, h]
  rfl

theorem Cloud.publish_of_listened {β : Type} [MessageBus β] (c : PointCloudConfig)
    (points : PointsBuffer) (stamp : Stamp) (s : Frameset) (frameId : String) (bus : β)
    (h : MessageBus.hasSubscribers bus .pointCloud = true) :
    Cloud.publish c points stamp s frameId bus =
      (Cloud.message c points stamp s frameId).map
        fun m => (true, MessageBus.publish bus .pointCloud (.pointCloud m)) := by
  unfold Cloud.publish
  cases Cloud.message c points stamp s frameId <;> simp [h]

/-! ## The outcome, described -/

/-- Sends frames in order with `send` and stops at the first that fails: what was sent, and
the failure, if any. -/
def sendAll (send : Frame → Except Failure (List (Channel × Message))) :
    List Frame → List (Channel × Message) × Option Failure
  | [] => ([], none)
  | f :: rest =>
    match send f with
    | .error e => ([], some e)
    | .ok ms => (ms ++ (sendAll send rest).1, (sendAll send rest).2)

theorem sendAll_congr {send send' : Frame → Except Failure (List (Channel × Message))}
    {fs : List Frame} (h : ∀ f ∈ fs, send' f = send f) : sendAll send' fs = sendAll send fs := by
  induction fs with
  | nil => rfl
  | cons f rest ih =>
    have hrest := ih fun g hg => h g (List.mem_cons_of_mem f hg)
    simp only [sendAll, h f List.mem_cons_self, hrest]

/-- How a frameset whose handling ended with `failure` is counted: as processed, or as failed
when a frame was refused, with its latency either way; a halt counts nothing. -/
def Failure.count : Option Failure → Metrics → Metrics
  | none, m => m.recordFrameset true
  | some .refused, m => m.recordFrameset false
  | some (.halted _), m => m

namespace Dispatcher

variable {β : Type}

/-- The camera info and the image of frame `f`, stamped `stamp`: the calibration record `r`
first, then the pixels of `v` as they are, or in millimeters for 16-bit depth. -/
def imageMessages (d : Dispatcher β) (f : Frame) (v : VideoBuffer) (encoding : String)
    (step : Nat) (r : CalibrationRecord) (stamp : Stamp) : List (Channel × Message) :=
  let header : Header := ⟨stamp, d.names.opticalFrameId f.key⟩
  [(.cameraInfo f.key, .cameraInfo (r.toCameraInfo header)),
   (.image f.key, .image { header, width := v.width, height := v.height, encoding
                           isBigendian := false, step := step.toUInt32
                           data := if f.isDepthZ16 then Depth.fixScale v.data d.depthScale
                                   else v.data })]

/-- What publishing frame `f`, selected from frameset `s`, sends, or why it fails. A point cloud
goes out through the pipeline's point cloud stage, and without one nothing is sent. Any other
frame needs pixels of 1 to 3 bytes, a row that fits in 32 bits and a calibration record. -/
def frameSends (d : Dispatcher β) (stamp : Stamp) (s : Frameset) (f : Frame) :
    Except Failure (List (Channel × Message)) :=
  match f.payload with
  | .points p =>
    match d.pipeline.pointCloud? with
    | none => .ok []
    | some c =>
      match Cloud.message c p stamp s (d.names.opticalFrameId ⟨.depth, 0⟩) with
      | .ok m => .ok [(.pointCloud, .pointCloud m)]
      | .error h => .error (.halted h)
  | .video v =>
    match encodingFor v.bpp with
    | none => .error .refused
    | some encoding =>
      match Checked.mulU32 v.width.toNat v.bpp.toNat with
      | .error h => .error (.halted h)
      | .ok step =>
        match d.calibration.calibrationFor f.profile v.width with
        | none => .error .refused
        | some r => .ok (d.imageMessages f v encoding step r stamp)
  | _ => .error .refused

/-- The bus time of a frameset whose first frame has device time `t`, the clock reference being
fixed by `t` unless it was before. -/
def busTimeOf (d : Dispatcher β) (t : Float) : Except Halt Stamp := do
  let ((_, base), c) ← (d.base.ensureInitialized t).run d.clock
  let (stamp, _) ← (base.toBusTime t).run c
  return stamp

/-- Once the clock reference is settled, the bus time is the conversion's stamp. -/
theorem busTimeOf_of_initialized {d : Dispatcher β} {t : Float} {fresh : Bool} {base : ClockBase}
    {c : Clock} (hi : (d.base.ensureInitialized t).run d.clock = .ok ((fresh, base), c)) :
    d.busTimeOf t = Prod.fst <$> (base.toBusTime t).run c := by
  simp only [busTimeOf, hi]
  rfl

/-- The frameset with its first depth frame clipped. -/
def clipFirstDepth (d : Dispatcher β) (s : Frameset) : Frameset :=
  match s.frames.findIdx? (·.kind == .depth) with
  | some i => ⟨s.frames.modify i d.clip⟩
  | none => s

/-- What handling frameset `F` sends, in order, and the failure that stopped it, if any: the
selected frames of the clipped frameset, each stamped with the frameset's bus time. -/
def framesetSends (d : Dispatcher β) (F : Frameset) : List (Channel × Message) × Option Failure :=
  match F.frames.head? with
  | none => ([], none)
  | some first =>
    match d.busTimeOf first.timestampMs with
    | .error h => ([], some (.halted h))
    | .ok stamp =>
      let F' := d.clipFirstDepth F
      sendAll (d.frameSends stamp F') ((dedupIndices F'.frames).map (F'.frames.getD · default))

/-- The frames of different streams do not read each other's calibration records. -/
theorem frameSends_congr {d d' : Dispatcher β} (stamp : Stamp) (s : Frameset) (f : Frame)
    (hn : d'.names = d.names) (hp : d'.pipeline = d.pipeline) (hs : d'.depthScale = d.depthScale)
    (hc : ∀ k, f.group = some k → d'.calibration.lookup k = d.calibration.lookup k) :
    d'.frameSends stamp s f = d.frameSends stamp s f := by
  have hk : f.isPoints = false →
      d'.calibration.lookup f.profile.key = d.calibration.lookup f.profile.key :=
    fun h => hc f.key (by simp [Frame.group, h])
  unfold frameSends imageMessages CalibrationRegistry.calibrationFor
  rw [hn, hp, hs]
  cases hpay : f.payload with
  | video v => simp [hk (by simp [Frame.isPoints, hpay])]
  | _ => rfl

/-- `d'` is `d` once its frames put `msgs` on the bus. Only the bus, the clock and its reference,
the calibration records and the count of published frames may differ. -/
def Publishes [MessageBus β] (d : Dispatcher β) (msgs : List (Channel × Message))
    (d' : Dispatcher β) : Prop :=
  ∃ (clock : Clock) (base : ClockBase) (reg : CalibrationRegistry) (n : Nat),
    d' = { d with bus := MessageBus.publishAll d.bus msgs, clock, base, calibration := reg
                  metrics := { d.metrics with framesPublished := n } }

theorem Publishes.refl [MessageBus β] (d : Dispatcher β) : d.Publishes [] d :=
  ⟨d.clock, d.base, d.calibration, d.metrics.framesPublished, rfl⟩

theorem Publishes.trans [MessageBus β] {d d₁ d₂ : Dispatcher β} {m₁ m₂ : List (Channel × Message)}
    (h₁ : d.Publishes m₁ d₁) (h₂ : d₁.Publishes m₂ d₂) : d.Publishes (m₁ ++ m₂) d₂ := by
  obtain ⟨c₁, b₁, reg₁, n₁, rfl⟩ := h₁
  obtain ⟨c₂, b₂, reg₂, n₂, rfl⟩ := h₂
  exact ⟨c₂, b₂, reg₂, n₂, by simp [MessageBus.publishAll_append]⟩

end Dispatcher

/-- The selected frames belong to pairwise different groups: no stream is published twice, and
at most one point cloud is. -/
theorem selected_groups_nodup (frames : List Frame) :
    (((dedupIndices frames).map (frames.getD · default)).map Frame.group).Nodup := by
  have h : dedupIndices frames = Selection.publishedPositions frames :=
    (Selection.describes_selectionOf frames).chosen
  rw [h, Selection.publishedPositions, List.map_map, List.map_map]
  apply List.Nodup.map_on _ Selection.openers_nodup
  intro a ha b hb hab
  apply Selection.eq_of_groupAt_eq ha hb
  have hla := Selection.publishedFor_lt (Selection.mem_openers.mp ha).1
  have hlb := Selection.publishedFor_lt (Selection.mem_openers.mp hb).1
  rw [← Selection.groupAt_publishedFor, Selection.groupAt_of_lt hla,
    ← Selection.groupAt_publishedFor (i := b), Selection.groupAt_of_lt hlb]
  simp only [Function.comp] at hab
  rw [List.getElem_eq_getD default, List.getElem_eq_getD default, hab]

/-! ## The runs -/

namespace Handling

open Dispatching

variable {β : Type} [MessageBus β]

/-- The publication of one selected frame of `s`. -/
def sendFrame (s : Frameset) (stamp : Stamp) (frame : Frame) : Handling β Bool :=
  match frame.payload with
  | .points p => publishPoints p stamp s
  | _ => publishFrame frame stamp

theorem publishSelected_cons (s : Frameset) (stamp : Stamp) (i : Nat) (rest : List Nat) :
    (publishSelected s stamp (i :: rest) : Handling β Nat) = do
      let sent ← sendFrame s stamp (s.frames.getD i default)
      if sent then lift (count Metrics.frame)
      let n ← publishSelected s stamp rest
      return (if sent then 1 else 0) + n := by
  rw [publishSelected]
  unfold sendFrame
  cases (s.frames.getD i default).payload <;> rfl

theorem publishPoints_run (p : PointsBuffer) (stamp : Stamp) (s : Frameset) (d : Dispatcher β)
    (h : MessageBus.hasSubscribers d.bus .pointCloud = true) :
    (publishPoints p stamp s).run.run d =
      match d.pipeline.pointCloud? with
      | none => .ok (.ok false) d
      | some c =>
        match Cloud.message c p stamp s (d.names.opticalFrameId ⟨.depth, 0⟩) with
        | .ok m =>
          .ok (.ok true) { d with bus := MessageBus.publish d.bus .pointCloud (.pointCloud m) }
        | .error e => .error e d := by
  unfold publishPoints
  cases hc : d.pipeline.pointCloud? with
  | none => simp [hc]
  | some c =>
    cases hm : Cloud.message c p stamp s (d.names.opticalFrameId ⟨.depth, 0⟩) <;>
      simp [hc, hm, Cloud.publish_of_listened _ _ _ _ _ _ h]

/-- One selected frame, on a bus that listens everywhere: the frame sends what `frameSends`
says and may write its own stream's record, or it fails leaving the state as it was. -/
theorem sendFrame_run (s : Frameset) (stamp : Stamp) (f : Frame) (d : Dispatcher β)
    (hsub : ∀ c, MessageBus.hasSubscribers d.bus c = true) :
    match d.frameSends stamp s f with
    | .ok ms => ∃ reg : CalibrationRegistry,
        (∀ k, some k ≠ f.group → reg.lookup k = d.calibration.lookup k) ∧
        (sendFrame s stamp f).run.run d =
          .ok (.ok !ms.isEmpty) { d with bus := MessageBus.publishAll d.bus ms, calibration := reg }
    | .error e => Ends ((sendFrame s stamp f).run.run d) (some e) d := by
  unfold sendFrame Dispatcher.frameSends
  cases hp : f.payload with
  | points p =>
    simp only
    rw [publishPoints_run p stamp s d (hsub _)]
    cases hc : d.pipeline.pointCloud? with
    | none => exact ⟨d.calibration, fun _ _ => rfl, by simp⟩
    | some c =>
      dsimp only
      cases hm : Cloud.message c p stamp s (d.names.opticalFrameId ⟨.depth, 0⟩) with
      | ok m => exact ⟨d.calibration, fun _ _ => rfl, by simp⟩
      | error e => exact rfl
  | video v =>
    have hv : f.video? = some v := by simp [Frame.video?, hp]
    dsimp only
    -- the checks of an image come one by one, in the order of the description
    cases he : encodingFor v.bpp with
    | none => simp [Ends, publishFrame, publishImage, hsub, hv, he]
    | some enc =>
      dsimp only
      cases hs : Checked.mulU32 v.width.toNat v.bpp.toNat with
      | error h => simp [Ends, publishFrame, publishImage, hsub, hv, he, hs]
      | ok step =>
        dsimp only
        cases hr : d.calibration.recordForFrame f.profile v.width with
        | error e =>
          rw [CalibrationRegistry.recordForFrame_error hr]
          simp [Ends, publishFrame, publishImage, hsub, hv, he, hs, hr]
        | ok rr =>
          obtain ⟨r, reg⟩ := rr
          obtain ⟨hcal, hk⟩ := CalibrationRegistry.recordForFrame_ok hr
          rw [hcal]
          refine ⟨reg, fun k hne => hk k fun hkf => hne ?_, ?_⟩
          · simp [Frame.group, Frame.isPoints, hp, hkf, Frame.key]
          · simp [publishFrame, publishImage, hsub, hv, he, hs, hr, Dispatcher.imageMessages]
  | motion b =>
    have hv : f.video? = none := by simp [Frame.video?, hp]
    simp [Ends, publishFrame, publishImage, hsub, hv]
  | pose b =>
    have hv : f.video? = none := by simp [Frame.video?, hp]
    simp [Ends, publishFrame, publishImage, hsub, hv]

/-- The walk over the selected positions `ps` of `s`: when their frames belong to different
groups, the frames send what `sendAll` says, in order, and the walk ends as it says. -/
theorem publishSelected_run (s : Frameset) (stamp : Stamp) (ps : List Nat) (d : Dispatcher β)
    (hnd : ((ps.map (s.frames.getD · default)).map Frame.group).Nodup)
    (hsub : ∀ msgs c, MessageBus.hasSubscribers (MessageBus.publishAll d.bus msgs) c = true) :
    ∃ d', d.Publishes (sendAll (d.frameSends stamp s) (ps.map (s.frames.getD · default))).1 d' ∧
      Ends ((publishSelected s stamp ps).run.run d)
        (sendAll (d.frameSends stamp s) (ps.map (s.frames.getD · default))).2 d' := by
  -- induction on the positions, from any state: a frame changes the bus and its own stream's
  -- record, and the rest of the walk starts from there
  induction ps generalizing d with
  | nil => exact ⟨d, Dispatcher.Publishes.refl d, 0, rfl⟩
  | cons i rest ih =>
    have hstep := sendFrame_run s stamp (s.frames.getD i default) d (hsub [])
    simp only [List.map_cons, List.nodup_cons, List.mem_map] at hnd
    rw [publishSelected_cons]
    simp only [List.map_cons, sendAll]
    cases hfs : d.frameSends stamp s (s.frames.getD i default) with
    | error e =>
      rw [hfs] at hstep
      exact ⟨d, Dispatcher.Publishes.refl d, ends_bind_of_failure _ _ hstep⟩
    | ok ms =>
      rw [hfs] at hstep
      obtain ⟨reg, hreg, hrun⟩ := hstep
      -- the rest of the walk, from the state once the frame is out, whatever the count
      have finish : ∀ (n : Nat) (g : Nat → Nat), ∃ d',
          d.Publishes (ms ++ (sendAll (d.frameSends stamp s) (rest.map (s.frames.getD · default))).1)
            d' ∧
          Ends ((publishSelected s stamp rest >>= fun k => pure (g k)).run.run
              { d with bus := MessageBus.publishAll d.bus ms, calibration := reg
                       metrics := { d.metrics with framesPublished := n } })
            (sendAll (d.frameSends stamp s) (rest.map (s.frames.getD · default))).2 d' := by
        intro n g
        set d₂ : Dispatcher β := { d with bus := MessageBus.publishAll d.bus ms, calibration := reg
                                          metrics := { d.metrics with framesPublished := n } }
        -- the frames still to come belong to other groups, so their records are untouched
        have hcongr : sendAll (d₂.frameSends stamp s) (rest.map (s.frames.getD · default)) =
            sendAll (d.frameSends stamp s) (rest.map (s.frames.getD · default)) := by
          apply sendAll_congr
          intro f hf
          obtain ⟨j, hj, rfl⟩ := List.mem_map.mp hf
          exact Dispatcher.frameSends_congr stamp s _ rfl rfl rfl fun k hk =>
            hreg k fun heq => hnd.1 ⟨_, ⟨j, hj, rfl⟩, hk.trans heq⟩
        obtain ⟨d', hpub, hends⟩ := ih d₂ hnd.2
          (fun msgs c => by simpa [d₂, MessageBus.publishAll_append] using hsub (ms ++ msgs) c)
        rw [hcongr] at hpub hends
        exact ⟨d', Dispatcher.Publishes.trans ⟨d.clock, d.base, reg, n, rfl⟩ hpub,
          ends_bind_pure _ _ hends⟩
      rw [run_bind, hrun]
      dsimp only
      cases hm : ms.isEmpty with
      | true => exact finish d.metrics.framesPublished _
      | false =>
        simp only [Bool.not_false, if_true]
        rw [run_bind, run_lift, run_count]
        exact finish (d.metrics.framesPublished + 1) _

/-- Processing a frameset with no enabled stage and no depth alignment, on a bus that listens
everywhere, sends what `framesetSends` says and ends as it says. -/
theorem processFrameset_run (F : Frameset) (d : Dispatcher β)
    (hstages : ∀ st ∈ d.pipeline.stages, st.enabled = false) (halign : d.alignDepth = false)
    (hsub : ∀ msgs c, MessageBus.hasSubscribers (MessageBus.publishAll d.bus msgs) c = true) :
    ∃ d', d.Publishes (d.framesetSends F).1 d' ∧
      Ends ((processFrameset F).run.run d) (d.framesetSends F).2 d' := by
  unfold processFrameset Dispatcher.framesetSends
  cases hF : F.frames.head? with
  | none => exact ⟨d, Dispatcher.Publishes.refl d, 0, rfl⟩
  | some first =>
    dsimp only
    simp only [run_bind, run_lift, EStateM.run_get, run_timed, EStateM.run_modify]
    -- the clock reference first, then the bus time; either may halt
    cases hi : (d.base.ensureInitialized first.timestampMs).run d.clock with
    | error h =>
      have hb : d.busTimeOf first.timestampMs = .error h := by
        simp only [Dispatcher.busTimeOf, hi]
        rfl
      simp only [hb]
      exact ⟨d, Dispatcher.Publishes.refl d, rfl⟩
    | ok r =>
      obtain ⟨⟨_, base⟩, c⟩ := r
      dsimp only
      cases hs : (base.toBusTime first.timestampMs).run c with
      | error h =>
        have hb : d.busTimeOf first.timestampMs = .error h := by
          rw [Dispatcher.busTimeOf_of_initialized hi, hs]
          rfl
        simp only [hb]
        exact ⟨_, ⟨c, base, d.calibration, d.metrics.framesPublished, rfl⟩, rfl⟩
      | ok r =>
        obtain ⟨stamp, c'⟩ := r
        have hb : d.busTimeOf first.timestampMs = .ok stamp := by
          rw [Dispatcher.busTimeOf_of_initialized hi, hs]
          rfl
        simp only [hb]
        simp only [Pipeline.process_of_disabled hstages, halign, Bool.false_and, Bool.false_eq_true,
          if_false, pure_bind, bind_pure]
        -- `halign` was rewritten into the state as well; put the flag back as `d` has it
        have hd₁ : ({ d with clock := c', base, alignDepth := false } : Dispatcher β) =
            { d with clock := c', base } := by
          rw [← halign]
        rw [hd₁]
        obtain ⟨d', hpub, hends⟩ := publishSelected_run (d.clipFirstDepth F) stamp _
          { d with clock := c', base } (selected_groups_nodup _) hsub
        refine ⟨d', ?_, hends⟩
        have hstart : d.Publishes [] { d with clock := c', base } :=
          ⟨c', base, d.calibration, d.metrics.framesPublished, rfl⟩
        have hall := hstart.trans hpub
        rw [List.nil_append] at hall
        exact hall

/-- Handling a frameset, when no pipeline stage is enabled, depth is not aligned and the bus
listens on every channel: the bus receives exactly the messages of `framesetSends`, in order.
That is, for every selected frame of the clipped frameset, its camera info and its image (or its
point cloud), each stamped with the frameset's bus time, up to the first frame that fails. The
gate is as it was, so no inertial message was released or held back. The frameset is counted as
processed, or as failed when a frame was refused; a halt goes on and counts nothing. -/
theorem onSample_frameset_publishes (d : Dispatcher β) (F : Frameset)
    (hstages : ∀ st ∈ d.pipeline.stages, st.enabled = false) (halign : d.alignDepth = false)
    (hsub : ∀ msgs c, MessageBus.hasSubscribers (MessageBus.publishAll d.bus msgs) c = true)
    (hgate : d.gate.Valid) :
    ∃ d', (onSample (.frameset F)).run.run d =
        (match (d.framesetSends F).2 with
         | some (.halted h) => .error h d'
         | _ => .ok (.ok ()) d') ∧
      d'.bus = MessageBus.publishAll d.bus (d.framesetSends F).1 ∧ d'.gate = d.gate ∧
      d'.metrics = { Failure.count (d.framesetSends F).2 d.metrics with
                     framesPublished := d'.metrics.framesPublished } := by
  -- the frameset is processed with the gate paused once more
  obtain ⟨d', ⟨c, b, reg, n, rfl⟩, hends⟩ :=
    processFrameset_run F { d with gate := d.gate.pause } hstages halign hsub
  have hbody := ends_stateOf hends
  have hpaused := paused_run (processFrameset F).run d hgate (by rw [hbody])
  simp only [onSample, run_lift, onFrameset, EStateM.run_bind, hpaused]
  -- what the frameset sends does not depend on the gate
  have hsame : ({ d with gate := d.gate.pause } : Dispatcher β).framesetSends F =
      d.framesetSends F := rfl
  rw [hsame] at hends
  generalize d.framesetSends F = out at hends ⊢
  obtain ⟨msgs, o⟩ := out
  match o, hends with
  | none, ⟨a, h⟩ =>
    simp only [h, run_count]
    exact ⟨_, rfl, rfl, rfl, rfl⟩
  | some .refused, ⟨e, h⟩ =>
    simp only [h, run_count]
    exact ⟨_, rfl, rfl, rfl, rfl⟩
  | some (.halted hl), h =>
    simp only [Ends] at h
    simp only [h]
    exact ⟨_, rfl, rfl, rfl, rfl⟩

/-- The default dispatcher over a recording bus meets the conditions above. -/
theorem onSample_frameset_publishes_recording :
    (∀ st ∈ (default : Dispatcher RecordingBus).pipeline.stages, st.enabled = false) ∧
    (default : Dispatcher RecordingBus).alignDepth = false ∧
    (∀ msgs c, MessageBus.hasSubscribers
      (MessageBus.publishAll (default : Dispatcher RecordingBus).bus msgs) c = true) ∧
    (default : Dispatcher RecordingBus).gate.Valid ∧
    ∃ d', (onSample (.frameset ⟨[default]⟩)).run.run (default : Dispatcher RecordingBus) =
        (match ((default : Dispatcher RecordingBus).framesetSends ⟨[default]⟩).2 with
         | some (.halted h) => .error h d'
         | _ => .ok (.ok ()) d') ∧
      d'.bus = MessageBus.publishAll (default : Dispatcher RecordingBus).bus
        ((default : Dispatcher RecordingBus).framesetSends ⟨[default]⟩).1 ∧
      d'.gate = (default : Dispatcher RecordingBus).gate ∧
      d'.metrics = { Failure.count ((default : Dispatcher RecordingBus).framesetSends ⟨[default]⟩).2
                       (default : Dispatcher RecordingBus).metrics with
                     framesPublished := d'.metrics.framesPublished } := by
  have hstages : ∀ st ∈ (default : Dispatcher RecordingBus).pipeline.stages, st.enabled = false :=
    fun _ hst => absurd hst List.not_mem_nil
  have hsub : ∀ msgs c, MessageBus.hasSubscribers
      (MessageBus.publishAll (default : Dispatcher RecordingBus).bus msgs) c = true := by
    intro msgs c
    rw [RecordingBus.publishAll_eq]
    rfl
  obtain ⟨d', hrun, hbus, hgate, hmetrics⟩ :=
    onSample_frameset_publishes default ⟨[default]⟩ hstages rfl hsub (Gate.valid_create _ _ _)
  refine ⟨hstages, rfl, hsub, Gate.valid_create _ _ _, d', ?_, hbus, hgate, hmetrics⟩
  -- the two statements match on the same outcome; split it rather than compute it
  revert hrun
  generalize ((default : Dispatcher RecordingBus).framesetSends ⟨[default]⟩).2 = o
  rcases o with _ | _ | h <;> exact id

end Handling
end DepthBridge
