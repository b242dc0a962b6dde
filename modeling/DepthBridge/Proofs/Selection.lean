import Mathlib.Data.Finset.Card
import DepthBridge.Dispatch.Sample

/-!
# Which frames of a frameset are published

`dedupIndices` walks a frameset once, keeping a slot for every stream it has met. Here the same
choice is described without the walk. The frames fall into *groups*: one for every stream, and
one for all point clouds whatever their stream. The groups are listed in the order in which
they first appear, and each group is published through one frame: a stream through its last
frame, the point clouds through the first one.

* `describes_selectionOf`: after any prefix of the frames, the walk's state is that
  description: its chosen positions, whether it met a point cloud, and the slot of each stream.
* `publishedPositions_nodup`, `lt_length_of_mem_publishedPositions`: no position is
  published twice, and every one is a position of the frameset.
* `length_openers`: there are as many positions as streams among the frames other than point
  clouds, and one more when there is a point cloud.
-/

namespace DepthBridge

/-- The group a frame is published in: its stream, or `none` for a point cloud, whatever its
stream. -/
def Frame.group (f : Frame) : Option StreamKey := if f.isPoints then none else some f.key

namespace Selection

/-- The group of the frame at position `i`, when there is a frame there. -/
def groupAt (frames : List Frame) (i : Nat) : Option (Option StreamKey) :=
  frames[i]?.map Frame.group

/-- Whether the frame at position `i` is the first of its group. -/
def opensGroup (frames : List Frame) (i : Nat) : Bool :=
  (List.range i).all fun j => groupAt frames j != groupAt frames i

/-- The positions where a group first appears, in order. -/
def openers (frames : List Frame) : List Nat :=
  (List.range frames.length).filter (opensGroup frames)

/-- The position published for the group of position `i`: the last position of the same
stream, or `i` itself for the point clouds. -/
def publishedFor (frames : List Frame) (i : Nat) : Nat :=
  match groupAt frames i with
  | some (some _) =>
    (((List.range frames.length).filter fun j => groupAt frames j == groupAt frames i).getLast?).getD i
  | _ => i

/-- The positions published: one for every group, in the order the groups first appear. -/
def publishedPositions (frames : List Frame) : List Nat :=
  (openers frames).map (publishedFor frames)

/-- The slot of stream `k` among the published positions: the place of its group. -/
def slotOf (frames : List Frame) (k : StreamKey) : Option Nat :=
  (openers frames).findIdx? fun i => groupAt frames i == some (some k)

/-! ## Groups of positions -/

variable {frames : List Frame} {x : Frame} {i : Nat}

theorem group_eq_none_iff (f : Frame) : f.group = none ↔ f.isPoints = true := by
  unfold Frame.group
  split <;> simp_all

theorem group_of_not_points {f : Frame} (h : f.isPoints = false) : f.group = some f.key := by
  simp [Frame.group, h]

theorem groupAt_append_of_lt (h : i < frames.length) :
    groupAt (frames ++ [x]) i = groupAt frames i := by
  simp [groupAt, List.getElem?_append_left h]

theorem groupAt_append_length : groupAt (frames ++ [x]) frames.length = some x.group := by
  simp [groupAt]

theorem groupAt_of_lt (h : i < frames.length) : groupAt frames i = some frames[i].group := by
  simp [groupAt, List.getElem?_eq_getElem h]

theorem opensGroup_iff :
    opensGroup frames i = true ↔ ∀ j < i, groupAt frames j ≠ groupAt frames i := by
  simp [opensGroup]

theorem opensGroup_append_of_lt (h : i < frames.length) :
    opensGroup (frames ++ [x]) i = opensGroup frames i := by
  apply Bool.eq_iff_iff.mpr
  rw [opensGroup_iff, opensGroup_iff, groupAt_append_of_lt h]
  constructor <;> intro hg j hj
  · rw [← groupAt_append_of_lt (x := x) (by omega)]
    exact hg j hj
  · rw [groupAt_append_of_lt (by omega)]
    exact hg j hj

theorem opensGroup_append_length :
    opensGroup (frames ++ [x]) frames.length = true ↔
      ∀ j < frames.length, groupAt frames j ≠ some x.group := by
  rw [opensGroup_iff, groupAt_append_length]
  constructor <;> intro hg j hj
  · rw [← groupAt_append_of_lt (x := x) hj]
    exact hg j hj
  · rw [groupAt_append_of_lt hj]
    exact hg j hj

theorem mem_openers : i ∈ openers frames ↔ i < frames.length ∧ opensGroup frames i = true := by
  simp [openers]

theorem openers_append :
    openers (frames ++ [x]) =
      openers frames ++ if opensGroup (frames ++ [x]) frames.length then [frames.length] else [] := by
  unfold openers
  rw [List.length_append, List.length_singleton, List.range_succ, List.filter_append]
  congr 1
  · apply List.filter_congr
    intro j hj
    exact opensGroup_append_of_lt (List.mem_range.mp hj)
  · split <;> simp_all

/-- Every group present among the first positions has a position that opens it. -/
theorem exists_opener {g : Option StreamKey} :
    ∀ j, j < frames.length → groupAt frames j = some g →
      ∃ i ∈ openers frames, groupAt frames i = some g := by
  intro j
  induction j using Nat.strong_induction_on with
  | _ j ih =>
    intro hj hg
    by_cases ho : opensGroup frames j = true
    · exact ⟨j, mem_openers.mpr ⟨hj, ho⟩, hg⟩
    · rw [opensGroup_iff] at ho
      push Not at ho
      obtain ⟨j', hj', heq⟩ := ho
      exact ih j' hj' (by omega) (heq.trans hg)

/-- Two positions that open a group open different groups. -/
theorem eq_of_groupAt_eq {i i' : Nat} (hi : i ∈ openers frames) (hi' : i' ∈ openers frames)
    (h : groupAt frames i = groupAt frames i') : i = i' := by
  have oi := (opensGroup_iff.mp (mem_openers.mp hi).2)
  have oi' := (opensGroup_iff.mp (mem_openers.mp hi').2)
  rcases Nat.lt_trichotomy i i' with lt | eq | gt
  · exact absurd h (oi' i lt)
  · exact eq
  · exact absurd h.symm (oi i' gt)

/-! ## The published position of a group -/

theorem publishedFor_append_of_lt (h : i < frames.length) :
    publishedFor (frames ++ [x]) i =
      if x.group.isSome ∧ groupAt frames i = some x.group then frames.length
      else publishedFor frames i := by
  have hg := groupAt_of_lt h
  unfold publishedFor
  rw [groupAt_append_of_lt h, hg]
  cases hk : frames[i].group with
  | none => cases x.group <;> simp
  | some k =>
    simp only
    rw [List.length_append, List.length_singleton, List.range_succ, List.filter_append]
    have same : (List.range frames.length).filter (fun j => groupAt (frames ++ [x]) j == some (some k))
        = (List.range frames.length).filter (fun j => groupAt frames j == some (some k)) := by
      apply List.filter_congr
      intro j hj
      rw [groupAt_append_of_lt (List.mem_range.mp hj)]
    rw [same]
    simp only [List.filter_cons, List.filter_nil, groupAt_append_length]
    by_cases hx : x.group = some k
    · simp [hx]
    · have hx' : ¬ some k = x.group := fun e => hx e.symm
      simp [hx, hx']

theorem publishedFor_append_length :
    publishedFor (frames ++ [x]) frames.length = frames.length := by
  unfold publishedFor
  rw [groupAt_append_length]
  cases hx : x.group with
  | none => rfl
  | some k =>
    simp only
    rw [List.length_append, List.length_singleton, List.range_succ, List.filter_append]
    simp only [List.filter_cons, List.filter_nil, groupAt_append_length, hx]
    simp

/-- The published position of a group belongs to the same group. -/
theorem groupAt_publishedFor :
    groupAt frames (publishedFor frames i) = groupAt frames i := by
  unfold publishedFor
  split
  · rename_i k hk
    cases hl : ((List.range frames.length).filter fun j => groupAt frames j == groupAt frames i).getLast? with
    | none => rfl
    | some j =>
      have hm := List.mem_of_getLast? hl
      simp only [List.mem_filter, beq_iff_eq] at hm
      simpa using hm.2
  · rfl

theorem publishedFor_lt (h : i < frames.length) : publishedFor frames i < frames.length := by
  unfold publishedFor
  split
  · cases hl : ((List.range frames.length).filter fun j => groupAt frames j == groupAt frames i).getLast? with
    | none => simpa using h
    | some j =>
      have hm := List.mem_of_getLast? hl
      simp only [List.mem_filter, List.mem_range] at hm
      simpa using hm.1
  · exact h

/-! ## Slots -/

theorem findIdx?_congr {α : Type} {l : List α} {p q : α → Bool} (h : ∀ a ∈ l, p a = q a) :
    l.findIdx? p = l.findIdx? q := by
  induction l with
  | nil => rfl
  | cons a rest ih =>
    rw [List.findIdx?_cons, List.findIdx?_cons, h a List.mem_cons_self,
      ih fun b hb => h b (List.mem_cons_of_mem a hb)]

theorem lookup_append {α β : Type} [BEq α] (l₁ l₂ : List (α × β)) (a : α) :
    (l₁ ++ l₂).lookup a = (l₁.lookup a).or (l₂.lookup a) := by
  induction l₁ with
  | nil => rfl
  | cons e rest ih =>
    obtain ⟨k, v⟩ := e
    simp only [List.cons_append, List.lookup_cons]
    split <;> simp_all

theorem slotOf_eq_none_iff {k : StreamKey} :
    slotOf frames k = none ↔ ∀ j < frames.length, groupAt frames j ≠ some (some k) := by
  unfold slotOf
  rw [List.findIdx?_eq_none_iff]
  constructor
  · intro h j hj hg
    obtain ⟨i, hi, hgi⟩ := exists_opener j hj hg
    have := h i hi
    simp [hgi] at this
  · intro h i hi
    have hi' := (mem_openers.mp hi).1
    simpa using h i hi'

theorem group_eq_some_iff (f : Frame) (k : StreamKey) :
    f.group = some k ↔ f.isPoints = false ∧ f.key = k := by
  unfold Frame.group
  split <;> simp_all

theorem openers_nodup : (openers frames).Nodup :=
  List.nodup_range.filter _

theorem any_points_iff :
    frames.any Frame.isPoints = true ↔ ∃ j < frames.length, groupAt frames j = some none := by
  rw [List.any_eq_true]
  constructor
  · rintro ⟨f, hf, hp⟩
    obtain ⟨j, hj, rfl⟩ := List.mem_iff_getElem.mp hf
    exact ⟨j, hj, by rw [groupAt_of_lt hj, (group_eq_none_iff _).mpr hp]⟩
  · rintro ⟨j, hj, hg⟩
    rw [groupAt_of_lt hj, Option.some.injEq, group_eq_none_iff] at hg
    exact ⟨frames[j], List.getElem_mem hj, hg⟩

theorem mem_keys_iff {k : StreamKey} :
    k ∈ (frames.filter fun f => !f.isPoints).map Frame.key ↔
      ∃ j < frames.length, groupAt frames j = some (some k) := by
  simp only [List.mem_map, List.mem_filter, Bool.not_eq_eq_eq_not, Bool.not_true]
  constructor
  · rintro ⟨f, ⟨hf, hp⟩, rfl⟩
    obtain ⟨j, hj, rfl⟩ := List.mem_iff_getElem.mp hf
    exact ⟨j, hj, by rw [groupAt_of_lt hj, (group_eq_some_iff _ _).mpr ⟨hp, rfl⟩]⟩
  · rintro ⟨j, hj, hg⟩
    rw [groupAt_of_lt hj, Option.some.injEq, group_eq_some_iff] at hg
    exact ⟨frames[j], ⟨List.getElem_mem hj, hg.1⟩, hg.2⟩

/-! ## One more frame -/

theorem openers_append_of_old (hold : ∃ j < frames.length, groupAt frames j = some x.group) :
    openers (frames ++ [x]) = openers frames := by
  have : opensGroup (frames ++ [x]) frames.length = false := by
    obtain ⟨j, hj, hg⟩ := hold
    cases ho : opensGroup (frames ++ [x]) frames.length with
    | false => rfl
    | true => exact absurd hg (opensGroup_append_length.mp ho j hj)
  rw [openers_append, this]
  simp

theorem openers_append_of_new (hnew : ∀ j < frames.length, groupAt frames j ≠ some x.group) :
    openers (frames ++ [x]) = openers frames ++ [frames.length] := by
  rw [openers_append, if_pos (opensGroup_append_length.mpr hnew)]

theorem publishedPositions_append_of_new
    (hnew : ∀ j < frames.length, groupAt frames j ≠ some x.group) :
    publishedPositions (frames ++ [x]) = publishedPositions frames ++ [frames.length] := by
  unfold publishedPositions
  rw [openers_append_of_new hnew, List.map_append, List.map_singleton, publishedFor_append_length]
  congr 1
  apply List.map_congr_left
  intro i hi
  have hi' := (mem_openers.mp hi).1
  rw [publishedFor_append_of_lt hi', if_neg]
  rintro ⟨-, hg⟩
  exact hnew i hi' hg

theorem publishedPositions_append_of_points (hx : x.isPoints = true)
    (hold : ∃ j < frames.length, groupAt frames j = some x.group) :
    publishedPositions (frames ++ [x]) = publishedPositions frames := by
  unfold publishedPositions
  rw [openers_append_of_old hold]
  apply List.map_congr_left
  intro i hi
  rw [publishedFor_append_of_lt (mem_openers.mp hi).1, if_neg]
  rintro ⟨hs, -⟩
  rw [(group_eq_none_iff x).mpr hx] at hs
  exact absurd hs (by simp)

theorem publishedPositions_append_of_slot {p : Nat} (hx : x.isPoints = false)
    (hp : slotOf frames x.key = some p) :
    publishedPositions (frames ++ [x]) = (publishedPositions frames).set p frames.length := by
  have hxg := group_of_not_points hx
  unfold slotOf at hp
  obtain ⟨hpl, hpg, -⟩ := List.findIdx?_eq_some_iff_getElem.mp hp
  simp only [beq_iff_eq] at hpg
  have hmem : (openers frames)[p] ∈ openers frames := List.getElem_mem hpl
  have hold : ∃ j < frames.length, groupAt frames j = some x.group :=
    ⟨_, (mem_openers.mp hmem).1, by rw [hpg, hxg]⟩
  unfold publishedPositions
  rw [openers_append_of_old hold]
  apply List.ext_getElem
  · simp
  · intro q h1 h2
    simp only [List.getElem_map, List.getElem_set]
    have hq : q < (openers frames).length := by simpa using h1
    have hqm : (openers frames)[q] ∈ openers frames := List.getElem_mem hq
    rw [publishedFor_append_of_lt (mem_openers.mp hqm).1]
    by_cases e : p = q
    · subst e
      simp [hxg, hpg]
    · rw [if_neg e, if_neg]
      rintro ⟨-, hg⟩
      have := eq_of_groupAt_eq hqm hmem (by rw [hg, hpg, hxg])
      exact e ((openers_nodup.getElem_inj_iff).mp this).symm

theorem slotOf_append_of_old {k : StreamKey}
    (hold : ∃ j < frames.length, groupAt frames j = some x.group) :
    slotOf (frames ++ [x]) k = slotOf frames k := by
  unfold slotOf
  rw [openers_append_of_old hold]
  apply findIdx?_congr
  intro i hi
  rw [groupAt_append_of_lt (mem_openers.mp hi).1]

theorem slotOf_append_of_new {k : StreamKey}
    (hnew : ∀ j < frames.length, groupAt frames j ≠ some x.group) :
    slotOf (frames ++ [x]) k =
      (slotOf frames k).or (if x.group = some k then some (openers frames).length else none) := by
  unfold slotOf
  rw [openers_append_of_new hnew, List.findIdx?_append]
  have same : (openers frames).findIdx? (fun i => groupAt (frames ++ [x]) i == some (some k)) =
      (openers frames).findIdx? (fun i => groupAt frames i == some (some k)) := by
    apply findIdx?_congr
    intro i hi
    rw [groupAt_append_of_lt (mem_openers.mp hi).1]
  rw [same]
  congr 1
  simp only [List.findIdx?_cons, List.findIdx?_nil, groupAt_append_length]
  by_cases e : x.group = some k <;> simp [e]

/-! ## The walk -/

/-- A selection describes the frames walked so far: it chose their published positions, knows
whether there was a point cloud, and holds every stream's slot. -/
structure Describes (frames : List Frame) (s : Selection) : Prop where
  chosen : s.chosen = publishedPositions frames
  pointsSeen : s.pointsSeen = frames.any Frame.isPoints
  slots : ∀ k, s.slots.lookup k = slotOf frames k

theorem describes_nil : Describes [] {} where
  chosen := rfl
  pointsSeen := rfl
  slots := fun _ => rfl

theorem add_of_points_seen {s : Selection} (hx : x.isPoints = true) (hp : s.pointsSeen = true) :
    s.add x i = s := by
  simp [Selection.add, hx, hp]

theorem add_of_first_points {s : Selection} (hx : x.isPoints = true) (hp : s.pointsSeen = false) :
    s.add x i = { s with chosen := s.chosen ++ [i], pointsSeen := true } := by
  simp [Selection.add, hx, hp]

theorem add_of_slot {s : Selection} {p : Nat} (hx : x.isPoints = false)
    (hl : s.slots.lookup x.key = some p) : s.add x i = { s with chosen := s.chosen.set p i } := by
  simp [Selection.add, hx, hl]

theorem add_of_new_stream {s : Selection} (hx : x.isPoints = false)
    (hl : s.slots.lookup x.key = none) :
    s.add x i = { s with chosen := s.chosen ++ [i], slots := s.slots ++ [(x.key, s.chosen.length)] } := by
  simp [Selection.add, hx, hl]

theorem Describes.add {s : Selection} (hs : Describes frames s) :
    Describes (frames ++ [x]) (s.add x frames.length) := by
  have hany : (frames ++ [x]).any Frame.isPoints = (frames.any Frame.isPoints || x.isPoints) := by
    simp [List.any_append]
  cases hx : x.isPoints with
  | true =>
    have hxg : x.group = none := (group_eq_none_iff x).mpr hx
    cases hp : s.pointsSeen with
    | true =>
      have hold : ∃ j < frames.length, groupAt frames j = some x.group := by
        rw [hxg, ← any_points_iff, ← hs.pointsSeen, hp]
      rw [add_of_points_seen hx hp]
      exact ⟨by rw [hs.chosen, publishedPositions_append_of_points hx hold],
        by rw [hany, ← hs.pointsSeen, hp, Bool.true_or],
        fun k => by rw [hs.slots, slotOf_append_of_old hold]⟩
    | false =>
      have hnew : ∀ j < frames.length, groupAt frames j ≠ some x.group := by
        intro j hj hg
        rw [hxg] at hg
        have := any_points_iff.mpr ⟨j, hj, hg⟩
        rw [← hs.pointsSeen, hp] at this
        exact absurd this (by simp)
      rw [add_of_first_points hx hp]
      refine ⟨?_, ?_, fun k => ?_⟩
      · show s.chosen ++ [frames.length] = _
        rw [hs.chosen, publishedPositions_append_of_new hnew]
      · show true = _
        rw [hany, hx, Bool.or_true]
      · show s.slots.lookup k = _
        rw [hs.slots, slotOf_append_of_new hnew, hxg]
        simp
  | false =>
    have hxg := group_of_not_points hx
    cases hl : s.slots.lookup x.key with
    | some p =>
      have hslot : slotOf frames x.key = some p := by rw [← hs.slots, hl]
      have hold : ∃ j < frames.length, groupAt frames j = some x.group := by
        unfold slotOf at hslot
        obtain ⟨hpl, hpg, -⟩ := List.findIdx?_eq_some_iff_getElem.mp hslot
        simp only [beq_iff_eq] at hpg
        exact ⟨_, (mem_openers.mp (List.getElem_mem hpl)).1, by rw [hpg, hxg]⟩
      rw [add_of_slot hx hl]
      exact ⟨by show s.chosen.set p frames.length = _
                rw [hs.chosen, publishedPositions_append_of_slot hx hslot],
        by show s.pointsSeen = _
           rw [hany, hx, Bool.or_false, hs.pointsSeen],
        fun k => by show s.slots.lookup k = _
                    rw [hs.slots, slotOf_append_of_old hold]⟩
    | none =>
      have hnew : ∀ j < frames.length, groupAt frames j ≠ some x.group := by
        rw [hxg]
        exact slotOf_eq_none_iff.mp (by rw [← hs.slots, hl])
      rw [add_of_new_stream hx hl]
      refine ⟨?_, ?_, fun k => ?_⟩
      · show s.chosen ++ [frames.length] = _
        rw [hs.chosen, publishedPositions_append_of_new hnew]
      · show s.pointsSeen = _
        rw [hany, hx, Bool.or_false, hs.pointsSeen]
      · show (s.slots ++ [(x.key, s.chosen.length)]).lookup k = _
        rw [lookup_append, hs.slots, slotOf_append_of_new hnew, hxg, hs.chosen]
        by_cases e : x.key = k
        · subst e
          have : slotOf frames x.key = none := by rw [← hs.slots, hl]
          simp [this, publishedPositions]
        · have e' : ¬ some x.key = some k := fun h => e (Option.some.inj h)
          have e'' : (k == x.key) = false := beq_eq_false_iff_ne.mpr (Ne.symm e)
          simp [List.lookup_cons, List.lookup_nil, e', e'']

theorem selectionOf_append : selectionOf (frames ++ [x]) = (selectionOf frames).add x frames.length := by
  simp [selectionOf, List.zipIdx_append, List.foldl_append]

/-- After any prefix of the frames, the walk's state is the description of that prefix. -/
theorem describes_selectionOf (frames : List Frame) : Describes frames (selectionOf frames) := by
  induction frames using List.reverseRecOn with
  | nil => exact describes_nil
  | append_singleton rest x ih =>
    rw [selectionOf_append]
    exact ih.add

/-! ## What is published -/

theorem publishedPositions_nodup : (publishedPositions frames).Nodup := by
  apply List.Nodup.map_on _ openers_nodup
  intro a ha b hb hab
  apply eq_of_groupAt_eq ha hb
  rw [← groupAt_publishedFor, hab, groupAt_publishedFor]

theorem lt_length_of_mem_publishedPositions (h : i ∈ publishedPositions frames) :
    i < frames.length := by
  obtain ⟨a, ha, rfl⟩ := List.mem_map.mp h
  exact publishedFor_lt (mem_openers.mp ha).1

theorem length_openers (frames : List Frame) :
    (openers frames).length =
      ((frames.filter fun f => !f.isPoints).map Frame.key).toFinset.card +
        if frames.any Frame.isPoints then 1 else 0 := by
  induction frames using List.reverseRecOn with
  | nil => simp [openers]
  | append_singleton rest x ih =>
    rw [openers_append, List.length_append, ih, List.filter_append, List.any_append]
    cases hx : x.isPoints with
    | true =>
      have hxg : x.group = none := (group_eq_none_iff x).mpr hx
      have ho : opensGroup (rest ++ [x]) rest.length = !rest.any Frame.isPoints := by
        apply Bool.eq_iff_iff.mpr
        rw [opensGroup_append_length, hxg, Bool.not_eq_true', Bool.eq_false_iff, ne_eq,
          any_points_iff]
        push Not
        rfl
      rw [ho]
      cases rest.any Frame.isPoints <;> simp [hx]
    | false =>
      have hxg := group_of_not_points hx
      have ho : opensGroup (rest ++ [x]) rest.length =
          !decide (x.key ∈ (rest.filter fun f => !f.isPoints).map Frame.key) := by
        apply Bool.eq_iff_iff.mpr
        rw [opensGroup_append_length, hxg, Bool.not_eq_true', decide_eq_false_iff_not, mem_keys_iff]
        push Not
        rfl
      rw [ho]
      simp only [List.filter_cons, List.filter_nil, hx, Bool.not_false, if_true, List.map_append,
        List.map_singleton, List.toFinset_append, List.any_cons, List.any_nil, Bool.or_false]
      rw [List.toFinset_cons, List.toFinset_nil, Finset.union_insert, Finset.union_empty,
        Finset.card_insert_eq_ite]
      by_cases hm : x.key ∈ (rest.filter fun f => !f.isPoints).map Frame.key
      · have hm' : x.key ∈ ((rest.filter fun f => !f.isPoints).map Frame.key).toFinset :=
          List.mem_toFinset.mpr hm
        simp [hm, hm']
      · have hm' : x.key ∉ ((rest.filter fun f => !f.isPoints).map Frame.key).toFinset :=
          fun h => hm (List.mem_toFinset.mp h)
        simp [hm, hm']
        omega

end Selection

/-- The frames published from a frameset are one per group, in the order in which the groups
first appear: a stream through its last frame, all point clouds through the first one. No
position comes twice, each is a position of the frameset, and there are as many as streams
among the frames that are not point clouds, and one more when there is a point cloud. -/
theorem dedupIndices_eq_publishedPositions (frames : List Frame) :
    dedupIndices frames = Selection.publishedPositions frames ∧ (dedupIndices frames).Nodup ∧
      (∀ i ∈ dedupIndices frames, i < frames.length) ∧
      (dedupIndices frames).length =
        ((frames.filter fun f => !f.isPoints).map Frame.key).toFinset.card +
          if frames.any Frame.isPoints then 1 else 0 := by
  have h : dedupIndices frames = Selection.publishedPositions frames :=
    (Selection.describes_selectionOf frames).chosen
  refine ⟨h, ?_, ?_, ?_⟩
  · rw [h]
    exact Selection.publishedPositions_nodup
  · intro i hi
    rw [h] at hi
    exact Selection.lt_length_of_mem_publishedPositions hi
  · rw [h, Selection.publishedPositions, List.length_map, Selection.length_openers]

end DepthBridge
