import DepthBridge.Proofs.Image

/-!
# Calls interleaved around the gate

Framesets and single video frames are handled with the inertial gate paused: the call takes a
guard (one more pause), does its work, and resumes through the guard when it returns, whether
with a result or an error. When it halts instead, dropping the guard resumes, provided the gate
was enabled when the guard was taken. Several callback threads do this at once, and the gate's
operations are the points where they meet.

A `World` is the shared dispatcher with the phase of each such call. An `Event` is one atomic
step: a call takes its guard, releases it or unwinds through it, an inertial message goes
through the gate, or some other work is done that leaves the gate alone. Each step runs the
dispatcher's own operation, and `paused_as_steps` shows that a paused section run on its own
is the guard, its body, then the release or the unwinding. The bodies the dispatcher runs
paused, the processing of a frameset and the publication of a video frame, leave the gate
(`processFrameset_keeps_gate`, `sendVideoFrame_keeps_gate`), so each such section is one call
whose body is a work step (`sections_are_calls`).

The main result, `depth_counts_held_guards`, holds for every sequence of events: the gate's
pause depth is the number of calls holding their guard, and zero for a disabled gate. Once no
call holds its guard, the gate is open and nothing waits in its queue.
-/

namespace DepthBridge

/-! ## What the gate's operations do to its depth -/

namespace Gate

variable {α σ : Type} {p : α → StateM σ (Except ContractError Unit)}

theorem depth_pause (g : Gate α) : g.pause.depth = if g.enabled then g.depth + 1 else g.depth := by
  unfold Gate.pause
  split <;> rfl

@[simp] theorem enabled_pause (g : Gate α) : g.pause.enabled = g.enabled := by
  unfold Gate.pause
  split <;> rfl

/-- A resume closes one level of pause, and none when the gate is open. -/
theorem depth_resume (g : Gate α) (s : σ) : ((g.resume p).run s).run.1.2.depth = g.depth - 1 := by
  rcases Nat.lt_trichotomy g.depth 1 with hlt | heq | hgt
  · rw [resume_run_of_open g s (by omega)]
    show g.depth = g.depth - 1
    omega
  · rw [(resume_run_of_last g s heq).1]
    simp [heq]
  · rw [resume_run_of_nested g s hgt]

theorem depth_publish (g : Gate α) (s : σ) (msg : α) :
    ((g.publish p msg).run s).run.1.2.depth = g.depth := by
  by_cases h : g.depth = 0
  · rw [(publish_run_of_open g s msg h).1]
  · by_cases hfull : g.capacity ≤ g.pending.length
    · rw [publish_run_of_full g s msg h hfull]
    · rw [publish_run_of_room g s msg h (by omega)]

end Gate

namespace Dispatching

variable {β α : Type} [MessageBus β]

/-- A combined inertial message offered to the gate. -/
def offer (msg : ImuMessage) : Dispatching β (Except SyncError Unit) :=
  withGate (Gate.publish deliver msg)

theorem gate_resume (d : Dispatcher β) :
    (stateOf ((resume : Dispatching β (Except SyncError Nat)).run d)).gate =
      ((d.gate.resume deliver).run d.bus).run.1.2 := rfl

theorem gate_offer (d : Dispatcher β) (msg : ImuMessage) :
    (stateOf ((offer msg : Dispatching β _).run d)).gate =
      ((d.gate.publish deliver msg).run d.bus).run.1.2 := rfl

theorem dropGuard_run (active : Bool) (d : Dispatcher β) :
    stateOf ((dropGuard ⟨active⟩ : Dispatching β Unit).run d) =
      if active then stateOf ((resume : Dispatching β (Except SyncError Nat)).run d) else d := by
  cases active <;> rfl

end Dispatching

/-! ## The bodies of paused sections leave the gate -/

namespace Handling

open Dispatching

variable {β : Type} [MessageBus β] (g : Gate ImuMessage)

/-- Publishing an image leaves the gate. -/
theorem publishImage_keeps_gate (frame : Frame) (key : StreamKey) (cal : Profile)
    (imageCh infoCh : Channel) (stamp : Stamp) :
    Keeps (fun d : Dispatcher β => d.gate = g) (publishImage frame key cal imageCh infoCh stamp) := by
  intro d hd
  rcases publishImage_cases frame key cal imageCh infoCh stamp d with h | ⟨_, _, _, _, _, _, _, _, h⟩ <;>
    rw [h] <;> exact hd

/-- Publishing a point cloud leaves the gate. -/
theorem publishPoints_keeps_gate (p : PointsBuffer) (stamp : Stamp) (s : Frameset) :
    Keeps (fun d : Dispatcher β => d.gate = g) (publishPoints p stamp s) := by
  intro d hd
  rcases (publishPoints_triple p stamp s d).stays_or_sends with h | ⟨m, h⟩ <;> rw [h] <;> exact hd

theorem publishSelected_keeps_gate (s : Frameset) (stamp : Stamp) (ps : List Nat) :
    Keeps (fun d : Dispatcher β => d.gate = g) (publishSelected s stamp ps) := by
  induction ps with
  | nil => exact keeps_pure 0
  | cons i rest ih =>
    rw [publishSelected_cons]
    refine Keeps.bind ?_ fun sent => ?_
    · unfold sendFrame
      split
      · exact publishPoints_keeps_gate g _ stamp s
      · exact publishImage_keeps_gate g _ _ _ _ _ stamp
    · dsimp only
      split
      · exact (keeps_lift (keeps_count _ fun _ _ h => h)).bind fun _ => ih.bind fun n => keeps_pure _
      · exact ih.bind fun n => keeps_pure _

/-- Processing a frameset leaves the gate: it is the work of a paused section. -/
theorem processFrameset_keeps_gate (s : Frameset) :
    Keeps (fun d : Dispatcher β => d.gate = g) (processFrameset s) := by
  unfold processFrameset
  split
  · refine keeps_lift_get_bind fun d hd => ?_
    refine Keeps.bind (keeps_lift (keeps_timed _ fun _ _ h => h)) fun r => ?_
    obtain ⟨_, base⟩ := r
    refine Keeps.bind (keeps_lift (keeps_modify fun _ h => h)) fun _ => ?_
    refine Keeps.bind (keeps_lift (keeps_timed _ fun _ _ h => h)) fun stamp => ?_
    dsimp only
    split
    · rw [pure_bind]
      refine (publishSelected_keeps_gate g _ stamp _).bind fun n => ?_
      refine keeps_ite (Keeps.bind ?_ fun _ => keeps_pure _) (keeps_pure _)
      exact keeps_publishAlignedDepth (fun depth target => publishImage_keeps_gate g _ _ _ _ _ stamp) _
    · exact keeps_throw_bind _ _
    · exact keeps_lift_throw_bind _ _
  · exact keeps_pure 0

/-- Publishing a single video frame leaves the gate: it is the work of a paused section. -/
theorem sendVideoFrame_keeps_gate (frame : Frame) :
    Dispatching.Keeps (fun d : Dispatcher β => d.gate = g) (sendVideoFrame frame) := by
  unfold sendVideoFrame
  refine keeps_get_bind fun d _ => (keeps_timed _ fun _ _ h => h).bind fun stamp => ?_
  exact (publishImage_keeps_gate g _ _ _ _ _ stamp).run

end Handling

namespace Interleaving

open Dispatching

/-- Where a call that pauses the gate stands: before its guard, holding it (with the guard's
flag: whether dropping it resumes), or finished. -/
inductive Phase where
  | waiting
  | holding (active : Bool)
  | finished

/-- Whether a call holds its guard. -/
def Phase.isHolding : Phase → Bool
  | .holding _ => true
  | _ => false

/-- One atomic step of the concurrent handling of samples. -/
inductive Event (β : Type) where
  /-- Call `i` takes its pause guard. -/
  | guard (i : Nat)
  /-- Call `i` returns, with a result or an error, and resumes through its guard. -/
  | release (i : Nat)
  /-- Call `i` halts, and dropping its guard resumes if the guard is active. -/
  | unwind (i : Nat)
  /-- A combined inertial message goes through the gate. -/
  | inertial (msg : ImuMessage)
  /-- Any other work, which leaves the gate alone. -/
  | work (f : Dispatcher β → Dispatcher β) (keeps : ∀ d, (f d).gate = d.gate)

/-- The shared dispatcher and the calls that pause its gate. -/
structure World (β : Type) where
  dispatcher : Dispatcher β
  calls : List Phase

namespace World

variable {β : Type}

section running

variable [MessageBus β]

/-- One step. A call can only take its guard while waiting and only release or unwind while it
holds the guard; any other request leaves the world as it is. -/
def step (w : World β) : Event β → World β
  | .guard i =>
    match w.calls[i]? with
    | some .waiting =>
      ⟨stateOf ((takeGuard : Dispatching β Gate.Guard).run w.dispatcher),
        w.calls.set i (.holding w.dispatcher.gate.enabled)⟩
    | _ => w
  | .release i =>
    match w.calls[i]? with
    | some (.holding _) =>
      ⟨stateOf ((resume : Dispatching β (Except SyncError Nat)).run w.dispatcher),
        w.calls.set i .finished⟩
    | _ => w
  | .unwind i =>
    match w.calls[i]? with
    | some (.holding active) =>
      ⟨stateOf ((dropGuard ⟨active⟩ : Dispatching β Unit).run w.dispatcher), w.calls.set i .finished⟩
    | _ => w
  | .inertial msg => { w with dispatcher := stateOf ((offer msg : Dispatching β _).run w.dispatcher) }
  | .work f _ => { w with dispatcher := f w.dispatcher }

/-- The world after a sequence of steps. -/
def run (w : World β) (evs : List (Event β)) : World β := evs.foldl step w

/-! ### What each step does -/

section steps

variable {w : World β} {i : Nat}

theorem step_guard (h : w.calls[i]? = some .waiting) :
    w.step (.guard i) = ⟨{ w.dispatcher with gate := w.dispatcher.gate.pause },
      w.calls.set i (.holding w.dispatcher.gate.enabled)⟩ := by
  simp only [step, h]
  rfl

theorem step_release {a : Bool} (h : w.calls[i]? = some (.holding a)) :
    w.step (.release i) = ⟨stateOf ((resume : Dispatching β (Except SyncError Nat)).run w.dispatcher),
      w.calls.set i .finished⟩ := by
  simp only [step, h]

/-- Unwinding through an active guard resumes just as a release does. -/
theorem step_unwind_active (h : w.calls[i]? = some (.holding true)) :
    w.step (.unwind i) = w.step (.release i) := by
  simp only [step, h, dropGuard_run, if_true]

theorem step_unwind_inactive (h : w.calls[i]? = some (.holding false)) :
    w.step (.unwind i) = ⟨w.dispatcher, w.calls.set i .finished⟩ := by
  simp only [step, h, dropGuard_run, Bool.false_eq_true, if_false]

/-- A call asked for a step its phase does not allow stays where it is. -/
theorem step_guard_of_ne (h : w.calls[i]? ≠ some .waiting) : w.step (.guard i) = w := by
  -- `simp` rules out the branch of the step's match that `h` contradicts
  simp only [step]

theorem step_release_of_not_holding (h : ∀ a, w.calls[i]? ≠ some (.holding a)) :
    w.step (.release i) = w := by
  simp only [step]

theorem step_unwind_of_not_holding (h : ∀ a, w.calls[i]? ≠ some (.holding a)) :
    w.step (.unwind i) = w := by
  simp only [step]

end steps

end running

/-- How many calls hold their guard. -/
def holding (w : World β) : Nat := w.calls.countP Phase.isHolding

/-- Replacing the phase of one call changes the count of held guards by what the two phases
hold. -/
theorem countP_set_phase {calls : List Phase} {i : Nat} {x y : Phase} (h : calls[i]? = some x) :
    (calls.set i y).countP Phase.isHolding =
      calls.countP Phase.isHolding - (if x.isHolding then 1 else 0) +
        (if y.isHolding then 1 else 0) := by
  obtain ⟨hi, rfl⟩ := List.getElem?_eq_some_iff.mp h
  exact List.countP_set hi

theorem one_le_countP_of_holding {calls : List Phase} {i : Nat} {a : Bool}
    (h : calls[i]? = some (.holding a)) : 1 ≤ calls.countP Phase.isHolding := by
  obtain ⟨hi, hx⟩ := List.getElem?_eq_some_iff.mp h
  have := List.boole_getElem_le_countP (p := Phase.isHolding) hi
  simp only [hx, Phase.isHolding, if_true] at this
  exact this

/-! ### The invariant -/

/-- The gate accounts for the calls: it stays valid and switched `on` or off, every held guard
took that switch, and the pause depth is the number of held guards, or zero when the gate is
off. -/
structure Balanced (on : Bool) (w : World β) : Prop where
  valid : w.dispatcher.gate.Valid
  enabled_eq : w.dispatcher.gate.enabled = on
  active_eq : ∀ a, Phase.holding a ∈ w.calls → a = on
  depth_eq : w.dispatcher.gate.depth = if on then w.holding else 0

namespace Balanced

variable {on : Bool} {w : World β} {i : Nat}

theorem guard (hw : w.Balanced on) (hc : w.calls[i]? = some .waiting) :
    Balanced on ⟨{ w.dispatcher with gate := w.dispatcher.gate.pause },
      w.calls.set i (.holding w.dispatcher.gate.enabled)⟩ where
  valid := hw.valid.pause
  enabled_eq := by
    rw [Gate.enabled_pause]
    exact hw.enabled_eq
  active_eq a ha := by
    rcases List.mem_or_eq_of_mem_set ha with hm | heq
    · exact hw.active_eq a hm
    · cases heq
      exact hw.enabled_eq
  depth_eq := by
    have hcount := countP_set_phase (y := .holding on) hc
    have hd := hw.depth_eq
    simp only [holding, Phase.isHolding, Bool.false_eq_true, if_false, if_true,
      Nat.sub_zero] at hcount hd ⊢
    rw [Gate.depth_pause, hw.enabled_eq, hcount]
    -- the pause counts only on an enabled gate, as the new guard does
    cases on <;> simp only [if_true, Bool.false_eq_true, if_false] at hd ⊢ <;> omega

/-- A phase set to `finished` holds no guard, so the guards held afterwards were held before. -/
theorem active_eq_set_finished (hw : w.Balanced on) :
    ∀ a, Phase.holding a ∈ w.calls.set i .finished → a = on := by
  intro a ha
  rcases List.mem_or_eq_of_mem_set ha with hm | heq
  · exact hw.active_eq a hm
  · cases heq

theorem release [MessageBus β] (hw : w.Balanced on) {a : Bool}
    (hc : w.calls[i]? = some (.holding a)) :
    Balanced on ⟨stateOf ((resume : Dispatching β (Except SyncError Nat)).run w.dispatcher),
      w.calls.set i .finished⟩ where
  valid := by
    rw [gate_resume]
    exact hw.valid.resume _
  enabled_eq := by
    rw [gate_resume, (Gate.sameSetup_resume _ _).2.1]
    exact hw.enabled_eq
  active_eq := hw.active_eq_set_finished
  depth_eq := by
    have hcount := countP_set_phase (y := .finished) hc
    have hone := one_le_countP_of_holding hc
    have hd := hw.depth_eq
    simp only [holding, Phase.isHolding, Bool.false_eq_true, if_false, if_true,
      Nat.add_zero] at hcount hd ⊢
    rw [gate_resume, Gate.depth_resume, hcount]
    -- on an enabled gate the depth was the count, at least one; on a disabled one it was zero
    cases on <;> simp only [if_true, Bool.false_eq_true, if_false] at hd ⊢ <;> omega

theorem unwind_inactive (hw : w.Balanced on) (hc : w.calls[i]? = some (.holding false)) :
    Balanced on ⟨w.dispatcher, w.calls.set i .finished⟩ where
  valid := hw.valid
  enabled_eq := hw.enabled_eq
  active_eq := hw.active_eq_set_finished
  depth_eq := by
    -- an inactive guard was taken on a disabled gate, whose depth stays zero
    have hoff : on = false := (hw.active_eq false (List.mem_of_getElem? hc)).symm
    have hd := hw.depth_eq
    simp only [hoff, Bool.false_eq_true, if_false] at hd ⊢
    exact hd

theorem offer [MessageBus β] (hw : w.Balanced on) (msg : ImuMessage) :
    Balanced on
      { w with dispatcher := stateOf ((offer msg : Dispatching β _).run w.dispatcher) } where
  valid := by
    rw [gate_offer]
    exact hw.valid.publish _ _
  enabled_eq := by
    rw [gate_offer, (Gate.sameSetup_publish _ _ _).2.1]
    exact hw.enabled_eq
  active_eq := hw.active_eq
  depth_eq := by
    rw [gate_offer, Gate.depth_publish]
    exact hw.depth_eq

theorem work (hw : w.Balanced on) (f : Dispatcher β → Dispatcher β)
    (keeps : ∀ d, (f d).gate = d.gate) : Balanced on { w with dispatcher := f w.dispatcher } where
  valid := by
    rw [keeps]
    exact hw.valid
  enabled_eq := by
    rw [keeps]
    exact hw.enabled_eq
  active_eq := hw.active_eq
  depth_eq := by
    rw [keeps]
    exact hw.depth_eq

/-- Every step keeps the gate accounting for the calls. -/
theorem step [MessageBus β] (hw : w.Balanced on) (e : Event β) : (w.step e).Balanced on := by
  cases e with
  | guard i =>
    by_cases hc : w.calls[i]? = some .waiting
    · rw [step_guard hc]
      exact hw.guard hc
    · rw [step_guard_of_ne hc]
      exact hw
  | release i =>
    by_cases hc : ∃ a, w.calls[i]? = some (.holding a)
    · obtain ⟨a, hc⟩ := hc
      rw [step_release hc]
      exact hw.release hc
    · rw [step_release_of_not_holding fun a h => hc ⟨a, h⟩]
      exact hw
  | unwind i =>
    by_cases hc : ∃ a, w.calls[i]? = some (.holding a)
    · obtain ⟨a, hc⟩ := hc
      -- an active guard resumes as a release does; an inactive one only ends the call
      cases a with
      | true =>
        rw [step_unwind_active hc, step_release hc]
        exact hw.release hc
      | false =>
        rw [step_unwind_inactive hc]
        exact hw.unwind_inactive hc
    · rw [step_unwind_of_not_holding fun a h => hc ⟨a, h⟩]
      exact hw
  | inertial msg => exact hw.offer msg
  | work f keeps => exact hw.work f keeps

theorem run [MessageBus β] (hw : w.Balanced on) (evs : List (Event β)) :
    (w.run evs).Balanced on := by
  -- induction on the events, from any balanced world
  induction evs generalizing w with
  | nil => exact hw
  | cons e rest ih => exact ih (hw.step e)

end Balanced

/-- A fresh gate and calls that have not started account for each other. -/
theorem balanced_start (d : Dispatcher β) (name : String) (capacity : Nat) (enabled : Bool)
    (n : Nat) :
    Balanced enabled
      ⟨{ d with gate := Gate.create name capacity enabled }, List.replicate n .waiting⟩ where
  valid := Gate.valid_create _ _ _
  enabled_eq := rfl
  active_eq a ha := by
    simp at ha
  depth_eq := by
    simp [holding, List.countP_replicate, Phase.isHolding, Gate.create]

end World

/-- A paused section run on its own is the three steps of one call: the guard, the body, then
the release when the body returns or the unwinding when it halts. -/
theorem paused_as_steps {β α : Type} [MessageBus β] (body : Dispatching β α) (d : Dispatcher β) :
    stateOf ((paused body).run d) =
      let w := (World.mk d [.waiting]).step (.guard 0)
      match body.run w.dispatcher with
      | .ok _ d' => ((World.mk d' w.calls).step (.release 0)).dispatcher
      | .error _ d' => ((World.mk d' w.calls).step (.unwind 0)).dispatcher := by
  simp only [World.step, List.getElem?_cons_zero, List.set_cons_zero, run_takeGuard, stateOf]
  unfold paused
  simp only [EStateM.run_bind, run_takeGuard, run_tryCatch]
  cases body.run { d with gate := d.gate.pause } with
  | ok a d' =>
    dsimp only
    cases (resume : Dispatching β (Except SyncError Nat)).run d' <;> rfl
  | error h d' =>
    dsimp only
    -- the handler resumes only when the guard was taken on an enabled gate
    cases d.gate.enabled with
    | true =>
      simp only [run_dropGuard, if_true, run_discard]
      cases (resume : Dispatching β (Except SyncError Nat)).run d' <;> rfl
    | false => rfl

section calls

variable {β α : Type} [MessageBus β]

/-- One call on its own: it takes its guard, runs `body` as a work step, then releases the guard
when the body returned or unwinds through it when the body halted. -/
def World.call (body : Dispatching β α) (hbody : ∀ d, (stateOf (body.run d)).gate = d.gate)
    (d : Dispatcher β) : Dispatcher β :=
  let w := (World.mk d [.waiting]).step (.guard 0)
  let w' := w.step (.work (fun d => stateOf (body.run d)) hbody)
  match body.run w.dispatcher with
  | .ok _ _ => (w'.step (.release 0)).dispatcher
  | .error _ _ => (w'.step (.unwind 0)).dispatcher

/-- A paused section whose body leaves the gate is one call in the world of calls. -/
theorem paused_eq_call (body : Dispatching β α) (hbody : ∀ d, (stateOf (body.run d)).gate = d.gate)
    (d : Dispatcher β) : stateOf ((paused body).run d) = World.call body hbody d := by
  rw [paused_as_steps, World.call]
  dsimp only
  generalize (World.mk d [.waiting]).step (.guard 0) = w
  -- the work step leaves the world where the body's run ended
  have hw : w.step (.work (fun d => stateOf (body.run d)) hbody) =
      ⟨stateOf (body.run w.dispatcher), w.calls⟩ := rfl
  rw [hw]
  cases body.run w.dispatcher <;> rfl

/-- The sections the dispatcher runs paused, the processing of a frameset and the publication of
a single video frame, are each one call whose body is a work step. -/
theorem sections_are_calls (s : Frameset) (frame : Frame) :
    (∀ d : Dispatcher β, stateOf ((paused (Handling.processFrameset s).run).run d) =
      World.call _ (fun d => Handling.processFrameset_keeps_gate d.gate s d rfl) d) ∧
    ∀ d : Dispatcher β, stateOf ((paused (Handling.sendVideoFrame frame)).run d) =
      World.call _ (fun d => Handling.sendVideoFrame_keeps_gate d.gate frame d rfl) d :=
  ⟨paused_eq_call _ _, paused_eq_call _ _⟩

end calls

/-- Calls that pause the gate, run concurrently in any interleaving of their atomic steps with
inertial messages and other work, each returning or halting at any point: at every point the
gate's pause depth is the number of calls that have taken their guard and not finished, and zero
for a disabled gate. So once no call holds its guard the gate is open and nothing is held back
in its queue. -/
theorem depth_counts_held_guards {β : Type} [MessageBus β] (d : Dispatcher β) (name : String)
    (capacity : Nat) (enabled : Bool) (n : Nat) (evs : List (Event β)) :
    let w := (World.mk { d with gate := Gate.create name capacity enabled }
      (List.replicate n .waiting)).run evs
    w.dispatcher.gate.depth = (if enabled then w.holding else 0) ∧
      (w.holding = 0 → w.dispatcher.gate.depth = 0 ∧ w.dispatcher.gate.pending = []) := by
  intro w
  have hw : w.Balanced enabled := (World.balanced_start d name capacity enabled n).run evs
  have hopen : w.holding = 0 → w.dispatcher.gate.depth = 0 := by
    intro h0
    rw [hw.depth_eq, h0, ite_self]
  exact ⟨hw.depth_eq, fun h0 => ⟨hopen h0, hw.valid.pending_of_open (hopen h0)⟩⟩

end Interleaving
end DepthBridge
