import DepthBridge.Proofs.Run

/-!
# Invariants of sample handling

A property `I` of the dispatcher's state is kept by a computation when every run from a state
with `I` ends, whether it returns, refuses or halts, in a state with `I` again. Handling is
glued from a few operations on the state (read it, change a field, read the clock, publish,
count, pass messages through the gate), so a handler keeps `I` as soon as each of its
operations does: one lemma per operation below, and one per way of gluing (`Keeps.bind`,
`keeps_get_bind`, `keeps_tryCatch`, `keeps_paused`). A run of handlers one after the other
(`Dispatcher.handleAll`) keeps what each of them keeps.

Each lemma asks of `I` only what its operation touches. A property that ignores the clock or
the counters is kept by reading the clock or counting, whatever the values; the messages put
on the bus are where a property of the traffic has something to check. On a recording bus the
gate adds only combined inertial messages (`Gate.resume_recording`, `Gate.publish_recording`).
-/

namespace DepthBridge

namespace Dispatching

variable {β α γ : Type} {I : Dispatcher β → Prop}

/-- `x` keeps `I`: every run of `x` from a state with `I` ends in a state with `I`. -/
def Keeps (I : Dispatcher β → Prop) (x : Dispatching β α) : Prop :=
  ∀ d, I d → I (stateOf (x.run d))

theorem Keeps.bind {x : Dispatching β α} {f : α → Dispatching β γ} (hx : Keeps I x)
    (hf : ∀ a, Keeps I (f a)) : Keeps I (x >>= f) := by
  intro d hd
  have h := hx d hd
  rw [EStateM.run_bind]
  cases hr : x.run d with
  | ok a d' =>
    rw [hr] at h
    exact hf a d' h
  | error e d' =>
    rw [hr] at h
    exact h

/-- What follows a read of the state may rely on `I` of the state it read. -/
theorem keeps_get_bind {f : Dispatcher β → Dispatching β α} (hf : ∀ d, I d → Keeps I (f d)) :
    Keeps I (get >>= f) :=
  fun d hd => hf d hd d hd

theorem keeps_pure (a : α) : Keeps I (pure a : Dispatching β α) := fun _ hd => hd

theorem keeps_throw (h : Halt) : Keeps I (throw h : Dispatching β α) := fun _ hd => hd

theorem keeps_modify {f : Dispatcher β → Dispatcher β} (hf : ∀ d, I d → I (f d)) :
    Keeps I (modify f : Dispatching β Unit) := fun d hd => hf d hd

theorem keeps_orHalt (x : Except Halt α) : Keeps I (orHalt x : Dispatching β α) := by
  intro d hd
  cases x <;> exact hd

theorem keeps_tryCatch {x : Dispatching β α} {handle : Halt → Dispatching β α} (hx : Keeps I x)
    (hh : ∀ h, Keeps I (handle h)) : Keeps I (tryCatch x handle) := by
  intro d hd
  have h := hx d hd
  rw [run_tryCatch]
  cases hr : x.run d with
  | ok a d' =>
    rw [hr] at h
    exact h
  | error e d' =>
    rw [hr] at h
    exact hh e d' h

theorem Keeps.discard {x : Dispatching β α} (hx : Keeps I x) : Keeps I (discard x) := by
  intro d hd
  have h := hx d hd
  rw [run_discard]
  cases hr : x.run d <;> (rw [hr] at h; exact h)

/-- Reading the clock keeps a property that does not look at the clock. -/
theorem keeps_timed (f : Timed α) (hI : ∀ d c, I d → I { d with clock := c }) :
    Keeps I (timed f : Dispatching β α) := by
  intro d hd
  rw [run_timed]
  cases f.run d.clock with
  | ok r => exact hI d r.2 hd
  | error h => exact hd

/-- Counting keeps a property that does not look at the counters. -/
theorem keeps_count (f : Metrics → Metrics) (hI : ∀ d m, I d → I { d with metrics := m }) :
    Keeps I (count f : Dispatching β Unit) := fun d hd => hI d _ hd

/-- A gate operation keeps `I` when `I` survives the gate and bus it leaves. -/
theorem keeps_withGate {f : Gate ImuMessage → StateM β (α × Gate ImuMessage)}
    (h : ∀ d, I d → I { d with gate := ((f d.gate).run d.bus).1.2, bus := ((f d.gate).run d.bus).2 }) :
    Keeps I (withGate f : Dispatching β α) := fun d hd => h d hd

theorem keeps_takeGuard (h : ∀ d, I d → I { d with gate := d.gate.pause }) :
    Keeps I (takeGuard : Dispatching β Gate.Guard) := fun d hd => h d hd

section operations

variable [MessageBus β]

/-- Dropping a guard keeps what resuming keeps. -/
theorem keeps_dropGuard (hresume : Keeps I (resume : Dispatching β (Except SyncError Nat)))
    (guard : Gate.Guard) : Keeps I (dropGuard guard : Dispatching β Unit) := by
  intro d hd
  rw [run_dropGuard]
  split
  · exact hresume.discard d hd
  · exact hd

theorem keeps_listened (c : Channel) : Keeps I (listened c : Dispatching β Bool) := fun _ hd => hd

theorem keeps_publish {c : Channel} {m : Message}
    (h : ∀ d, I d → I { d with bus := MessageBus.publish d.bus c m }) :
    Keeps I (publish c m : Dispatching β Unit) := keeps_modify h

/-- A paused section keeps `I` when its body, taking the guard and the resume each do, whether
the body returns or halts. -/
theorem keeps_paused {body : Dispatching β α} (hbody : Keeps I body)
    (htake : Keeps I (takeGuard : Dispatching β Gate.Guard))
    (hresume : Keeps I (resume : Dispatching β (Except SyncError Nat))) :
    Keeps I (paused body) := by
  unfold paused
  refine htake.bind fun guard => Keeps.bind ?_ fun a => ?_
  · exact keeps_tryCatch hbody fun h => (keeps_dropGuard hresume guard).bind fun _ => keeps_throw h
  · exact hresume.bind fun r => keeps_pure (a, r)

end operations

end Dispatching

namespace Handling

variable {β α γ : Type} {I : Dispatcher β → Prop}

/-- `x` keeps `I`: every run of `x` from a state with `I` ends in a state with `I`, whether it
returns, refuses or halts. -/
def Keeps (I : Dispatcher β → Prop) (x : Handling β α) : Prop := Dispatching.Keeps I x.run

theorem Keeps.bind {x : Handling β α} {f : α → Handling β γ} (hx : Keeps I x)
    (hf : ∀ a, Keeps I (f a)) : Keeps I (x >>= f) := by
  intro d hd
  have h := hx d hd
  rw [run_bind]
  rcases hr : x.run.run d with ⟨_ | a, d'⟩ | ⟨e, d'⟩ <;> rw [hr] at h
  · exact h
  · exact hf a d' h
  · exact h

theorem keeps_pure (a : α) : Keeps I (pure a : Handling β α) := fun _ hd => hd

theorem keeps_throw (e : DispatchError) : Keeps I (throw e : Handling β α) := fun _ hd => hd

/-- What follows a read of the state may rely on `I` of the state it read. -/
theorem keeps_lift_get_bind {f : Dispatcher β → Handling β α} (hf : ∀ d, I d → Keeps I (f d)) :
    Keeps I (lift get >>= f) :=
  fun d hd => hf d hd d hd

theorem keeps_contract (x : Except ContractError α) : Keeps I (contract x : Handling β α) := by
  intro d hd
  cases x <;> exact hd

/-- The run of a handler, as a computation that cannot refuse, keeps what the handler keeps. -/
theorem Keeps.run {x : Handling β α} (hx : Keeps I x) : Dispatching.Keeps I x.run := hx

theorem keeps_lift [MessageBus β] {x : Dispatching β α} (hx : Dispatching.Keeps I x) : Keeps I (lift x) := by
  intro d hd
  have h := hx d hd
  show I (stateOf ((lift x : Handling β α).run.run d))
  rw [run_lift]
  cases hr : x.run d <;> (rw [hr] at h; exact h)

theorem Keeps.map {x : Handling β α} (hx : Keeps I x) (f : α → γ) : Keeps I (f <$> x) := by
  intro d hd
  have h := hx d hd
  show I (stateOf ((f <$> x).run.run d))
  rw [run_map]
  rcases hr : x.run.run d with ⟨_ | a, d'⟩ | ⟨e, d'⟩ <;> rw [hr] at h <;> exact h

theorem Keeps.discard {x : Handling β α} (hx : Keeps I x) : Keeps I (discard x) := hx.map _

theorem keeps_ite {p : Prop} [Decidable p] {x y : Handling β α} (hx : Keeps I x)
    (hy : Keeps I y) : Keeps I (if p then x else y) := by
  split
  · exact hx
  · exact hy

/-- A refusal ends the handler where it stands. -/
theorem keeps_throw_bind (e : DispatchError) (f : α → Handling β γ) : Keeps I (throw e >>= f) :=
  fun _ hd => hd

/-- A halt ends the handler where it stands. -/
theorem keeps_lift_throw_bind [MessageBus β] (h : Halt) (f : α → Handling β γ) :
    Keeps I (lift (throw h) >>= f) :=
  fun _ hd => hd

/-- The outcome of an inner handler, taken up again: it refuses as it did, or goes on. -/
theorem keeps_liftM_bind (x : Except DispatchError α) {f : α → Handling β γ}
    (hf : ∀ a, Keeps I (f a)) : Keeps I (liftM x >>= f) := by
  cases x with
  | error e => exact fun _ hd => hd
  | ok a => exact hf a

/-- Aligning depth to the frames of a frameset keeps what each publication of aligned depth
keeps. -/
theorem keeps_publishAlignedDepth [MessageBus β] {s : Frameset} {stamp : Stamp}
    (h : ∀ depth target, Keeps I (publishAligned depth target stamp : Handling β Bool))
    (targets : List Frame) : Keeps I (publishAlignedDepth s stamp targets : Handling β Nat) := by
  induction targets with
  | nil => exact keeps_pure 0
  | cons target rest ih =>
    rw [publishAlignedDepth]
    dsimp only
    split
    · exact ih
    refine Keeps.bind (keeps_lift (Dispatching.keeps_listened _)) fun _ => ?_
    refine Keeps.bind (keeps_lift (Dispatching.keeps_listened _)) fun _ => ?_
    split
    · exact ih
    refine keeps_lift_get_bind fun d _ => ?_
    -- the alignment may fail; whatever it returns, only aligned depth goes out
    split <;> refine Keeps.bind ?_ fun aligned => ?_
    case h_1.refine_1 => exact keeps_pure _
    case h_2.refine_1 => exact keeps_throw _
    case h_3.refine_1 => exact keeps_lift (Dispatching.keeps_throw _)
    all_goals
      split
      · exact ih
      · exact (h _ _).bind fun _ => ih.bind fun _ => keeps_pure _

/-- Reading an inertial sample changes nothing. -/
theorem keeps_reading [MessageBus β] (frame : Frame) : Keeps I (reading frame : Handling β Vector3) := by
  unfold reading
  split
  · exact (keeps_contract _).bind fun _ => keeps_pure _
  · exact keeps_throw _

end Handling

/-- Runs handlers in turn, each from the state the one before left, whether it returned, refused
or halted. -/
def Dispatcher.handleAll {β α : Type} (d : Dispatcher β) : List (Handling β α) → Dispatcher β
  | [] => d
  | x :: rest => (stateOf (x.run.run d)).handleAll rest

/-- What every handler of a run keeps, the run keeps. -/
theorem Handling.Keeps.handleAll {β α : Type} {I : Dispatcher β → Prop} {xs : List (Handling β α)}
    (hxs : ∀ x ∈ xs, Keeps I x) {d : Dispatcher β} (hd : I d) : I (d.handleAll xs) := by
  induction xs generalizing d with
  | nil => exact hd
  | cons x rest ih =>
    exact ih (fun y hy => hxs y (List.mem_cons_of_mem x hy)) (hxs x List.mem_cons_self d hd)

/-! ## What the gate puts on a recording bus -/

namespace Gate

variable {α : Type}

/-- The bus with the combined inertial messages `ms` published on it, in order. -/
def deliveredOn (b : RecordingBus) (ms : List ImuMessage) : RecordingBus :=
  { b with published := b.published ++ ms.map fun m => (.syncedImu, .imu m) }

theorem deliverAll_recording (ms : List ImuMessage) (b : RecordingBus) :
    ((deliverAll (Dispatching.deliver : ImuMessage → StateM RecordingBus _) ms).run b).run =
      ((ms.length, none), deliveredOn b ms) := by
  induction ms generalizing b with
  | nil => simp [deliverAll, deliveredOn]
  | cons m rest ih =>
    simp only [deliverAll, Dispatching.deliver, StateT.run_bind]
    simp [ih, deliveredOn, MessageBus.publish]

/-- A resume leaves the bus as it was, or with the queue flushed onto the combined channel. -/
theorem resume_recording (g : Gate ImuMessage) (b : RecordingBus) :
    ∃ ms, ((g.resume Dispatching.deliver).run b).run.2 = deliveredOn b ms := by
  rcases Nat.lt_trichotomy g.depth 1 with hlt | heq | hgt
  · exact ⟨[], by rw [resume_run_of_open g b (by omega)]; simp [deliveredOn]⟩
  · exact ⟨g.pending, by rw [(resume_run_of_last g b heq).2, deliverAll_recording]⟩
  · exact ⟨[], by rw [resume_run_of_nested g b hgt]; simp [deliveredOn]⟩

/-- A publication through the gate leaves the bus as it was, or with the message on the
combined channel. -/
theorem publish_recording (g : Gate ImuMessage) (b : RecordingBus) (msg : ImuMessage) :
    ∃ ms, ((g.publish Dispatching.deliver msg).run b).run.2 = deliveredOn b ms := by
  by_cases h : g.depth = 0
  · refine ⟨[msg], ?_⟩
    rw [(publish_run_of_open g b msg h).2.1]
    simp [Dispatching.deliver, deliveredOn, MessageBus.publish]
  · by_cases hfull : g.capacity ≤ g.pending.length
    · exact ⟨[], by rw [publish_run_of_full g b msg h hfull]; simp [deliveredOn]⟩
    · exact ⟨[], by rw [publish_run_of_room g b msg h (by omega)]; simp [deliveredOn]⟩

end Gate

end DepthBridge
