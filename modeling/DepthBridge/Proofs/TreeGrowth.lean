import DepthBridge.Bridge.Node
import Mathlib.Data.List.Defs

/-!
# Growing the transform tree

A computation of the tree picks its base stream (the first depth imager at index 0, else the
first pose tracker at index 0), keeps the base an earlier computation chose, and then appends the
transforms of each stream in turn. `computeAll_grows_by_stream` says all of it:

* without a candidate base nothing changes and the computation refuses with `noBaseStream`;
* otherwise the tree holds the base, and its transforms grow by the transforms of a prefix of
  the streams, in order, each with the motion the device gives for it (`MotionOf`: the identity
  where the device has no calibration), up to the first stream the device refuses otherwise,
  whose refusal is the result (`Stopped`);
* republishing restamps every transform, changes nothing else, and publishes the whole list
  on the dynamic channel.

The loop is read pointwise: `List.Forall₂ (MotionOf dev base)` pairs the streams it got through
with their motions (`computeEach_grows`, by induction on the streams).
-/

namespace DepthBridge

/-- `b` is the base that the profiles `ps` give: their first depth imager at index 0, or, when
they have none, their first pose tracker at index 0. -/
def IsBaseOf (ps : List Profile) (b : Profile) : Prop :=
  ps.find? (·.key == ⟨.depth, 0⟩) = some b ∨
    ps.find? (·.key == ⟨.depth, 0⟩) = none ∧ ps.find? (·.key == ⟨.pose, 0⟩) = some b

/-- The motion the tree uses for stream `p` below `base`: the device's extrinsics from `p` to
`base`, or the identity when the device has no calibration between the two. -/
def MotionOf (dev : Device) (base p : Profile) (ex : Extrinsics) : Prop :=
  dev.extrinsics p base = .ok ex ∨
    (∃ a b, dev.extrinsics p base = .error (.extrinsicsUnavailable a b)) ∧ ex = .identity

/-- A refusal of the device that is not a missing calibration. -/
def ContractError.Stops (e : ContractError) : Prop :=
  ∀ a b, e ≠ .extrinsicsUnavailable a b

/-- How a pass over the streams ended, given the streams `rest` it did not get through: with
success when there are none, else with the refusal of the device for the first of them. -/
def Stopped (dev : Device) (base : Profile) : List Profile → Except TransformError Unit → Prop
  | [], r => r = .ok ()
  | p :: _, r => ∃ e, dev.extrinsics p base = .error e ∧ e.Stops ∧ r = .error (.contract e)

/-! ## The base -/

theorem rootTest_eq (kind : StreamKind) :
    (fun p : Profile => p.key.kind == kind && p.key.index == 0) = (·.key == ⟨kind, 0⟩) := by
  funext p
  obtain ⟨k, i⟩ := p.key
  rw [Bool.eq_iff_iff]
  simp

theorem selectBase_eq_ok_iff (ps : List Profile) (b : Profile) :
    selectBase ps = .ok b ↔ IsBaseOf ps b := by
  unfold selectBase IsBaseOf
  simp only [List.findSome?_cons, List.findSome?_nil, rootTest_eq]
  cases hd : ps.find? (·.key == ⟨.depth, 0⟩) <;> cases hp : ps.find? (·.key == ⟨.pose, 0⟩) <;>
    simp

theorem selectBase_eq_error_iff (ps : List Profile) (e : TransformError) :
    selectBase ps = .error e ↔
      e = .noBaseStream ∧ ∀ p ∈ ps, p.key ≠ ⟨.depth, 0⟩ ∧ p.key ≠ ⟨.pose, 0⟩ := by
  unfold selectBase
  simp only [List.findSome?_cons, List.findSome?_nil, rootTest_eq]
  cases hd : ps.find? (·.key == ⟨.depth, 0⟩) with
  | some p =>
    -- a depth imager at index 0 is found: no refusal, and the right side fails on it
    have hp := List.mem_of_find?_eq_some hd
    have hk : p.key = ⟨.depth, 0⟩ := by simpa using List.find?_some hd
    simp only [reduceCtorEq, false_iff]
    rintro ⟨-, hall⟩
    exact (hall p hp).1 hk
  | none =>
    have hno := List.find?_eq_none.1 hd
    cases hp : ps.find? (·.key == ⟨.pose, 0⟩) with
    | some p =>
      have hk : p.key = ⟨.pose, 0⟩ := by simpa using List.find?_some hp
      simp only [reduceCtorEq, false_iff]
      rintro ⟨-, hall⟩
      exact (hall p (List.mem_of_find?_eq_some hp)).2 hk
    | none =>
      have hno' := List.find?_eq_none.1 hp
      simp only [Except.error.injEq]
      constructor
      · rintro rfl
        exact ⟨rfl, fun p hp => ⟨by simpa using hno p hp, by simpa using hno' p hp⟩⟩
      · exact fun h => h.1.symm

/-! ## One stream -/

namespace TransformTree

variable {dev : Device} {p base : Profile}

theorem motionTo_eq_ok_iff (ex : Extrinsics) :
    motionTo dev p base = .ok ex ↔ MotionOf dev base p ex := by
  unfold motionTo MotionOf
  cases h : dev.extrinsics p base with
  | ok e => simp
  | error e => cases e <;> simp [eq_comm]

theorem motionTo_eq_error_iff (e : TransformError) :
    motionTo dev p base = .error e ↔
      ∃ c, dev.extrinsics p base = .error c ∧ c.Stops ∧ e = .contract c := by
  unfold motionTo ContractError.Stops
  cases h : dev.extrinsics p base with
  | ok x => simp
  | error c => cases c <;> simp [eq_comm]

/-- With a motion for a stream, adding the stream appends its transforms for that motion. -/
theorem computeFor_of_ok {t : TransformTree} {s : Stamp} {ex : Extrinsics}
    (h : motionTo dev p base = .ok ex) :
    t.computeFor dev p base s =
      .ok { t with transforms := t.transforms ++ entriesFor t.names p base ex s } := by
  simp only [computeFor, h]
  rfl

/-- Without one, adding the stream refuses as the device does and changes nothing. -/
theorem computeFor_of_error {t : TransformTree} {s : Stamp} {e : TransformError}
    (h : motionTo dev p base = .error e) : t.computeFor dev p base s = .error e := by
  simp only [computeFor, h]
  rfl

/-! ## All streams -/

/-- The pass over the streams: it gets through a prefix `pre` of them, pairing each with its
motion, appends their transforms in order, and stops as `Stopped` says on the rest. -/
theorem computeEach_grows (dev : Device) (base : Profile) (s : Stamp) :
    ∀ (t : TransformTree) (ps : List Profile),
      ∃ pre rest exs, ps = pre ++ rest ∧ List.Forall₂ (MotionOf dev base) pre exs ∧
        (computeEach dev base s t ps).1 =
          { t with transforms := t.transforms ++
            (List.zipWith (fun p ex => entriesFor t.names p base ex s) pre exs).flatten } ∧
        Stopped dev base rest (computeEach dev base s t ps).2
  | t, [] => ⟨[], [], [], rfl, .nil, by simp [computeEach], rfl⟩
  | t, p :: ps => by
    cases h : motionTo dev p base with
    | error e =>
      -- the first stream is refused: nothing is appended
      obtain ⟨c, hc, hstop, rfl⟩ := (motionTo_eq_error_iff e).1 h
      refine ⟨[], p :: ps, [], rfl, .nil, ?_, c, hc, hstop, ?_⟩ <;>
        simp [computeEach, computeFor_of_error h]
    | ok ex =>
      -- the first stream goes through; the rest is the pass from the grown tree
      let next : TransformTree :=
        { t with transforms := t.transforms ++ entriesFor t.names p base ex s }
      have hstep : computeEach dev base s t (p :: ps) = computeEach dev base s next ps := by
        simp [computeEach, computeFor_of_ok h, next]
      obtain ⟨pre, rest, exs, rfl, hmotions, htrees, hstop⟩ := computeEach_grows dev base s next ps
      refine ⟨p :: pre, rest, ex :: exs, rfl, .cons ((motionTo_eq_ok_iff ex).1 h) hmotions, ?_, ?_⟩
      · rw [hstep, htrees]
        simp [next, List.append_assoc]
      · rwa [hstep]

theorem computeAll_of_selectBase {t : TransformTree} {ps : List Profile} {s : Stamp} {b : Profile}
    (h : selectBase ps = .ok b) :
    t.computeAll dev ps s =
      computeEach dev (t.base.getD b) s { t with base := some (t.base.getD b) } ps := by
  simp only [computeAll, h]

/-- A computation refuses for want of a base, leaving the tree as it was, exactly when no stream
is a depth imager or a pose tracker at index 0. -/
theorem computeAll_eq_noBase_iff (t : TransformTree) (ps : List Profile) (s : Stamp) :
    t.computeAll dev ps s = (t, .error .noBaseStream) ↔
      ∀ p ∈ ps, p.key ≠ ⟨.depth, 0⟩ ∧ p.key ≠ ⟨.pose, 0⟩ := by
  cases h : selectBase ps with
  | error e =>
    obtain ⟨rfl, hno⟩ := (selectBase_eq_error_iff ps e).1 h
    exact ⟨fun _ => hno, fun _ => by simp [computeAll, h]⟩
  | ok b =>
    obtain ⟨b', hb', hroot⟩ : ∃ b', b' ∈ ps ∧ (b'.key = ⟨.depth, 0⟩ ∨ b'.key = ⟨.pose, 0⟩) := by
      rcases (selectBase_eq_ok_iff ps b).1 h with hd | ⟨-, hp⟩
      · exact ⟨b, List.mem_of_find?_eq_some hd, .inl (by simpa using List.find?_some hd)⟩
      · exact ⟨b, List.mem_of_find?_eq_some hp, .inr (by simpa using List.find?_some hp)⟩
    have hnot : ¬ ∀ p ∈ ps, p.key ≠ ⟨.depth, 0⟩ ∧ p.key ≠ ⟨.pose, 0⟩ :=
      fun hno => by rcases hroot with hk | hk <;> simp_all
    simp only [hnot, iff_false]
    intro heq
    -- with a base the pass ends in success or a contract refusal, never `noBaseStream`
    obtain ⟨pre, rest, exs, -, -, -, hstop⟩ :=
      computeEach_grows dev (t.base.getD b) s { t with base := some (t.base.getD b) } ps
    rw [← computeAll_of_selectBase h, heq] at hstop
    cases rest with
    | nil => cases hstop
    | cons p rest =>
      obtain ⟨e, -, -, he⟩ := hstop
      cases he

/-- A computation of the tree, in full: refused without a base; otherwise the base is the one an
earlier computation chose or else the first candidate (`IsBaseOf`), and the transforms grow by
those of each stream in turn, with its motion, until the device refuses a stream. The
transforms of a stream are `entriesFor`: base frame to stream frame with the motion in body axes,
stream frame to its optical frame, and for an imager at index 1 other than depth the same two
for the frame of depth aligned to it. Republishing restamps them all and publishes them. -/
theorem computeAll_grows_by_stream (t : TransformTree) (dev : Device) (ps : List Profile)
    (s : Stamp) :
    (t.computeAll dev ps s = (t, .error .noBaseStream) ↔
      ∀ p ∈ ps, p.key ≠ ⟨.depth, 0⟩ ∧ p.key ≠ ⟨.pose, 0⟩) ∧
    (∀ b, IsBaseOf ps b →
      ∃ pre rest exs, ps = pre ++ rest ∧ List.Forall₂ (MotionOf dev (t.base.getD b)) pre exs ∧
        (t.computeAll dev ps s).1 =
          { t with base := some (t.base.getD b)
                   transforms := t.transforms ++ (List.zipWith
                     (fun p ex => entriesFor t.names p (t.base.getD b) ex s) pre exs).flatten } ∧
        Stopped dev (t.base.getD b) rest (t.computeAll dev ps s).2) ∧
    (∀ {β : Type} [MessageBus β] (n : Node β) (s' : Stamp),
      let restamped := n.tree.transforms.map fun x => { x with stamp := s' }
      (Node.republish s').run n =
        .ok () { n with tree := { n.tree with transforms := restamped }
                        dispatcher := { n.dispatcher with
                          bus := MessageBus.publish n.dispatcher.bus .tf (.transforms restamped) } }) := by
  refine ⟨computeAll_eq_noBase_iff t ps s, fun b hb => ?_, fun n s' => rfl⟩
  rw [computeAll_of_selectBase ((selectBase_eq_ok_iff ps b).2 hb)]
  exact computeEach_grows dev (t.base.getD b) s { t with base := some (t.base.getD b) } ps

end TransformTree
end DepthBridge
