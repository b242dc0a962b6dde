import Mathlib
import DepthBridge.Bus.Log
import DepthBridge.Transform.Names
import DepthBridge.Proofs.Run

/-!
# Names that never collide

The log bus keeps its counts by channel name and the transform tree links frames by name, so
two channels or two frames with one name would be merged. None are. A stream's name is its
kind's letters followed by the digits of its index, the index left out at zero; everything
else in a channel or frame name is a fixed word. Names are cut into words at the characters
that are neither letters nor digits (`Naming.words`); a stream's name is one word of its own,
so two names compare as two lists of words.

Main statements:
* `StreamKey.name_injective`: a stream's name determines the stream;
* `Channel.name_injective`: a channel's name determines the channel;
* `FrameNames.nameOf_injective`: for every camera name, the body, optical and aligned-depth
  frames of all streams, the combined inertial frame and the odometry frame all have
  different names;
* `LogBus.counts_publishAll`: after any run of publications on a fresh log bus, `counts` lists
  each channel published on once, with its number of publications, in name order.
-/

namespace DepthBridge

namespace Naming

/-- The characters that separate the words of a name: all but letters and digits. -/
def isSeparator (c : Char) : Bool := !c.isAlphanum

/-- The words of a name: its runs of letters and digits, cut at every separator. -/
def words (s : String) : List String := (s.toList.splitOnP isSeparator).map String.ofList

theorem splitOnP_append_separator (xs rest : List Char) {c : Char} (hc : c.isAlphanum = false) :
    (xs ++ c :: rest).splitOnP isSeparator = xs.splitOnP isSeparator ++ rest.splitOnP isSeparator :=
  List.splitOnP_append_cons xs rest (by simp [isSeparator, hc])

/-- Splitting a list that ends in a kept element leaves that element at the end of the last
part. -/
theorem splitOnP_concat_of_neg {α : Type} (p : α → Bool) {c : α} (hc : p c = false)
    (l : List α) : ∃ ws w, (l ++ [c]).splitOnP p = ws ++ [w ++ [c]] := by
  induction l with
  | nil => exact ⟨[], [], by simp [List.splitOnP_cons_eq_if_modifyHead, hc]⟩
  | cons a l ih =>
    obtain ⟨ws, w, h⟩ := ih
    rw [List.cons_append, List.splitOnP_cons_eq_if_modifyHead, h]
    cases hp : p a with
    | true => exact ⟨[] :: ws, w, by simp⟩
    | false =>
      cases ws with
      | nil => exact ⟨[], a :: w, by simp⟩
      | cons v ws => exact ⟨(a :: v) :: ws, w, by simp⟩

/-- A text that opens with a separator adds its words after those of what precedes it. -/
theorem words_append_of_head (s t : String) (ws : List String) (ht : words t = "" :: ws) :
    words (s ++ t) = words s ++ ws := by
  unfold words at ht ⊢
  rw [String.toList_append]
  match htl : t.toList with
  | [] =>
    simp only [htl, List.splitOnP_nil, List.map_singleton, List.cons.injEq, true_and] at ht
    simp [ht]
  | c :: rest =>
    rw [htl, List.splitOnP_cons_eq_if_modifyHead] at ht
    cases hc : c.isAlphanum with
    | true =>
      -- a letter or digit would open a first word that is not empty
      obtain ⟨w, ws', hsplit⟩ := List.exists_cons_of_ne_nil (List.splitOnP_ne_nil isSeparator rest)
      simp [isSeparator, hc, hsplit] at ht
    | false =>
      simp only [isSeparator, hc, Bool.not_false, if_true, List.map_cons, List.cons.injEq] at ht
      rw [splitOnP_append_separator _ _ hc, List.map_append, ht.2]

/-- A text that closes with a separator puts its words before those of what follows it. -/
theorem words_append_of_last (s t : String) (ps : List String) (hs : words s = ps ++ [""]) :
    words (s ++ t) = ps ++ words t := by
  unfold words at hs ⊢
  rw [String.toList_append]
  rcases List.eq_nil_or_concat s.toList with hsl | ⟨init, c, hsl⟩
  all_goals try rw [List.concat_eq_append] at hsl
  · rw [hsl, List.splitOnP_nil, List.map_singleton] at hs
    have hps : ps = [] := by simpa using (List.append_eq_cons_iff.1 hs.symm)
    simp [hsl, hps]
  · rw [hsl] at hs ⊢
    cases hc : c.isAlphanum with
    | true =>
      -- a letter or digit would close a last word that is not empty
      obtain ⟨ws, w, h⟩ := splitOnP_concat_of_neg isSeparator
        (show isSeparator c = false by simp [isSeparator, hc]) init
      rw [h, List.map_append] at hs
      have hlast := congrArg String.toList (List.singleton_inj.1 (List.append_inj' hs rfl).2)
      simp at hlast
    | false =>
      rw [splitOnP_append_separator _ _ hc, List.splitOnP_nil, List.map_append] at hs
      rw [List.append_assoc, List.singleton_append, splitOnP_append_separator _ _ hc,
        List.map_append, (List.append_inj' hs rfl).1]

/-- Two lists that run in `p` up to where `p` fails, or they end, are cut there alike. -/
theorem eq_of_append_eq_of_run {α : Type} {p : α → Bool} {a b x y : List α}
    (ha : ∀ c ∈ a, p c) (hb : ∀ c ∈ b, p c)
    (hx : ∀ c ∈ x.head?, p c = false) (hy : ∀ c ∈ y.head?, p c = false)
    (h : a ++ x = b ++ y) : a = b ∧ x = y := by
  have cut : ∀ {a x : List α}, (∀ c ∈ a, p c) → (∀ c ∈ x.head?, p c = false) →
      (a ++ x).takeWhile p = a := by
    intro a x ha hx
    rw [List.takeWhile_append_of_pos ha]
    cases x with
    | nil => simp
    | cons c x => simp [hx c rfl]
  have hab : a = b := by rw [← cut ha hx, h, cut hb hy]
  exact ⟨hab, List.append_cancel_left (hab ▸ h)⟩

end Naming

open Naming

/-! ## Streams -/

namespace StreamKind

theorem shortName_injective : Function.Injective shortName := by
  intro a b h
  cases a <;> cases b <;> simp_all [shortName]

/-- A short name is made of letters: no digits, no separators. -/
theorem letters_shortName (k : StreamKind) :
    ∀ c ∈ k.shortName.toList, c.isAlphanum = true ∧ c.isDigit = false := by
  cases k <;> simp [shortName]

end StreamKind

namespace StreamKey

/-- A stream's name: the letters of its kind, then the digits of a nonzero index. -/
theorem toList_name (k : StreamKey) :
    k.name.toList = k.kind.shortName.toList ++
      if k.index = 0 then [] else Nat.toDigits 10 k.index.toNat := by
  unfold name
  split <;> simp

/-- The digits of a nonzero index tell it apart from every other index. -/
theorem index_eq_of_digits {i j : UInt8}
    (h : (if i = 0 then [] else Nat.toDigits 10 i.toNat) =
      if j = 0 then [] else Nat.toDigits 10 j.toNat) : i = j := by
  by_cases hi : i = 0 <;> by_cases hj : j = 0 <;> simp only [hi, hj, if_true, if_false] at h
  · rw [hi, hj]
  · exact absurd h.symm Nat.toDigits_ne_nil
  · exact absurd h Nat.toDigits_ne_nil
  · apply UInt8.toNat_inj.1
    apply Nat.repr_injective
    apply String.ext
    simpa [Nat.toList_repr] using h

/-- A stream's name determines the stream. -/
theorem name_injective : Function.Injective name := by
  intro k k' h
  have hl := congrArg String.toList h
  rw [toList_name, toList_name] at hl
  -- the letters of the kind stop where the digits of the index start
  have letters (k : StreamKey) : ∀ c ∈ k.kind.shortName.toList, (!c.isDigit) = true := by
    intro c hc
    simp [(k.kind.letters_shortName c hc).2]
  have digits (k : StreamKey) : ∀ c ∈ (if k.index = 0 then [] else
      Nat.toDigits 10 k.index.toNat).head?, (!c.isDigit) = false := by
    intro c hc
    split at hc
    · simp at hc
    · simpa using Nat.isDigit_of_mem_toDigits (by decide) (by decide) (List.mem_of_mem_head? hc)
  obtain ⟨hkind, hindex⟩ := eq_of_append_eq_of_run (letters k) (letters k') (digits k) (digits k') hl
  have hk : k.kind = k'.kind := StreamKind.shortName_injective (String.ext hkind)
  have hi : k.index = k'.index := index_eq_of_digits hindex
  cases k
  cases k'
  exact (StreamKey.mk.injEq ..).mpr ⟨hk, hi⟩

/-- A stream's name is made of letters and digits. -/
theorem isAlphanum_of_mem_name (k : StreamKey) : ∀ c ∈ k.name.toList, c.isAlphanum := by
  intro c hc
  rw [toList_name, List.mem_append] at hc
  rcases hc with hc | hc
  · exact (k.kind.letters_shortName c hc).1
  · split at hc
    · simp at hc
    · simp [Char.isAlphanum, Nat.isDigit_of_mem_toDigits (by decide) (by decide) hc]

/-- A stream's name is a word of its own. -/
theorem words_name (k : StreamKey) : words k.name = [k.name] := by
  unfold words
  rw [List.splitOnP_eq_singleton (by simpa [isSeparator] using k.isAlphanum_of_mem_name)]
  simp

/-- A word without digits that is no kind's short name names no stream. -/
theorem name_ne_of_word {w : String} (hw : ∀ kind : StreamKind, kind.shortName ≠ w)
    (hd : ∀ c ∈ w.toList, c.isDigit = false) (k : StreamKey) : k.name ≠ w := by
  intro h
  have hl := congrArg String.toList h
  rw [toList_name] at hl
  split at hl
  · exact hw k.kind (String.ext (by simpa using hl))
  · obtain ⟨d, ds, hds⟩ := List.exists_cons_of_ne_nil
      (show Nat.toDigits 10 k.index.toNat ≠ [] from Nat.toDigits_ne_nil)
    have hdigit : d.isDigit = true :=
      Nat.isDigit_of_mem_toDigits (by decide) (by decide)
        (show d ∈ Nat.toDigits 10 k.index.toNat by rw [hds]; simp)
    have hmem : d ∈ w.toList := by rw [← hl, hds]; simp
    simp [hd d hmem] at hdigit

/-- No stream is called `odom`, the word that names odometry. -/
theorem name_ne_odom (k : StreamKey) : k.name ≠ "odom" :=
  name_ne_of_word (by intro kind; cases kind <;> decide) (by simp) k

/-- No stream is called `imu`, the word that names the combined inertial frame. -/
theorem name_ne_imu (k : StreamKey) : k.name ≠ "imu" :=
  name_ne_of_word (by intro kind; cases kind <;> decide) (by simp) k

end StreamKey

namespace Naming

/-- The words of a name that ends in a stream's name after a separator. -/
theorem words_append_name (s : String) (k : StreamKey) (ps : List String)
    (hs : words s = ps ++ [""]) : words (s ++ k.name) = ps ++ [k.name] := by
  rw [words_append_of_last _ _ _ hs, StreamKey.words_name]

/-- The words of a name that starts with a stream's name before a separator. -/
theorem words_name_append (k : StreamKey) (t : String) (ws : List String)
    (ht : words t = "" :: ws) : words (k.name ++ t) = k.name :: ws := by
  rw [words_append_of_head _ _ _ ht, StreamKey.words_name, List.singleton_append]

/-- The words of a name with a stream's name between two separators. -/
theorem words_around_name (s : String) (k : StreamKey) (t : String) (ps ws : List String)
    (hs : words s = ps ++ [""]) (ht : words t = "" :: ws) :
    words (s ++ k.name ++ t) = ps ++ k.name :: ws := by
  rw [words_append_of_head _ _ _ ht, words_append_name _ _ _ hs, List.append_assoc,
    List.singleton_append]

/-- Every name has a word, if only an empty one. -/
theorem words_ne_nil (s : String) : words s ≠ [] := by
  simp [words]

end Naming

/-! ## Channels -/

namespace Channel

/-- The words of each channel's name: fixed words around at most one stream name. -/
def nameWords : Channel → List String
  | .image k => [k.name, "image", "raw"]
  | .cameraInfo k => [k.name, "camera", "info"]
  | .alignedDepthImage k => ["aligned", "depth", "to", k.name, "image", "raw"]
  | .alignedDepthInfo k => ["aligned", "depth", "to", k.name, "camera", "info"]
  | .imu k => [k.name, "sample"]
  | .syncedImu => ["imu"]
  | .odometry => ["odom", "sample"]
  | .pointCloud => ["depth", "color", "points"]
  | .tf => ["", "tf"]
  | .tfStatic => ["", "tf", "static"]
  | .imuInfo k => [k.name, "imu", "info"]
  | .extrinsics k => ["extrinsics", "depth", "to", k.name]

theorem words_name (c : Channel) : words c.name = c.nameWords := by
  cases c with
  | image k => exact words_name_append k "/image_raw" ["image", "raw"] (by decide)
  | cameraInfo k => exact words_name_append k "/camera_info" ["camera", "info"] (by decide)
  | alignedDepthImage k =>
    exact words_around_name "aligned_depth_to_" k "/image_raw" ["aligned", "depth", "to"]
      ["image", "raw"] (by decide) (by decide)
  | alignedDepthInfo k =>
    exact words_around_name "aligned_depth_to_" k "/camera_info" ["aligned", "depth", "to"]
      ["camera", "info"] (by decide) (by decide)
  | imu k => exact words_name_append k "/sample" ["sample"] (by decide)
  | syncedImu => decide
  | odometry => decide
  | pointCloud => decide
  | tf => decide
  | tfStatic => decide
  | imuInfo k => exact words_name_append k "/imu_info" ["imu", "info"] (by decide)
  | extrinsics k =>
    exact words_append_name ("extrinsics/" ++ StreamKind.depth.shortName ++ "_to_") k
      ["extrinsics", "depth", "to"] (by decide)

theorem name_injective : Function.Injective Channel.name := by
  intro c c' h
  have hw := congrArg words h
  rw [words_name, words_name] at hw
  -- the fixed words tell the shapes apart; a stream's name never stands against a fixed
  -- word, since the only candidate, `odom`, names no stream
  cases c <;> cases c' <;> simp_all [nameWords, StreamKey.name_injective.eq_iff,
    StreamKey.name_ne_odom, fun k => (StreamKey.name_ne_odom k).symm]

end Channel

/-! ## Frames -/

namespace FrameNames

/-- The frames of a camera's transform tree. -/
inductive Role where
  /-- The body frame of a stream. -/
  | body (k : StreamKey)
  /-- The optical frame of a stream. -/
  | optical (k : StreamKey)
  /-- The frame of depth aligned to a stream. -/
  | alignedDepth (k : StreamKey)
  /-- The optical frame of the combined inertial channel. -/
  | imuOptical
  /-- The odometry frame. -/
  | odom
  deriving DecidableEq

/-- The name of a frame of the tree. -/
def nameOf (n : FrameNames) : Role → String
  | .body k => n.frameId k
  | .optical k => n.opticalFrameId k
  | .alignedDepth k => n.alignedDepthFrameId k
  | .imuOptical => n.imuOpticalFrameId
  | .odom => n.odomFrame

variable (n : FrameNames) (k : StreamKey)

/-- The camera's name and a separator come first in every frame name but the odometry frame's. -/
theorem words_camera_sep : words (n.camera ++ "_") = words n.camera ++ [""] :=
  words_append_of_head _ _ _ (by decide)

theorem words_frameId : words (n.frameId k) = words n.camera ++ [k.name, "frame"] :=
  words_around_name _ k "_frame" _ ["frame"] (words_camera_sep n) (by decide)

theorem words_opticalFrameId :
    words (n.opticalFrameId k) = words n.camera ++ [k.name, "optical", "frame"] :=
  words_around_name _ k "_optical_frame" _ ["optical", "frame"] (words_camera_sep n) (by decide)

theorem words_alignedDepthFrameId :
    words (n.alignedDepthFrameId k) =
      words n.camera ++ ["aligned", "depth", "to", k.name, "frame"] := by
  have hs : words (n.camera ++ "_aligned_depth_to_") =
      (words n.camera ++ ["aligned", "depth", "to"]) ++ [""] := by
    rw [words_append_of_head _ _ ["aligned", "depth", "to", ""] (by decide)]
    simp
  rw [alignedDepthFrameId, words_around_name _ k "_frame" _ ["frame"] hs (by decide)]
  simp

theorem words_imuOpticalFrameId :
    words n.imuOpticalFrameId = words n.camera ++ ["imu", "optical", "frame"] :=
  words_append_of_head _ _ _ (by decide)

theorem words_odomFrame : words n.odomFrame = ["odom", "frame"] := by
  rw [odomFrame]
  decide

theorem nameOf_injective : Function.Injective n.nameOf := by
  intro r r' h
  have hw := congrArg words h
  have hl := congrArg List.length hw
  clear h
  have hcam : words n.camera ≠ [] := words_ne_nil _
  -- the odometry frame has two words; every other frame has at least one of the camera's
  -- before at least two of its own
  cases r <;> cases r' <;>
    simp only [nameOf, words_frameId, words_opticalFrameId, words_alignedDepthFrameId,
      words_imuOpticalFrameId, words_odomFrame, List.length_append, List.length_cons,
      List.length_nil] at hw hl <;>
    simp_all [StreamKey.name_injective.eq_iff, StreamKey.name_ne_imu,
      fun k => (StreamKey.name_ne_imu k).symm]

end FrameNames

/-! ## Counting on the log bus -/

namespace LogBus

/-- `tally` counts `names`: every name that occurs, once, with its number of occurrences. -/
def Counts (names : List String) (tally : List (String × Nat)) : Prop :=
  (tally.map Prod.fst).Nodup ∧ ∀ s n, (s, n) ∈ tally ↔ s ∈ names ∧ n = names.count s

theorem mem_of_lookup_eq_some {tally : List (String × Nat)} {key : String} {n : Nat}
    (h : tally.lookup key = some n) : (key, n) ∈ tally := by
  obtain ⟨l₁, l₂, rfl, -⟩ := List.lookup_eq_some_iff.1 h
  simp

theorem lookup_ne_none_of_mem {tally : List (String × Nat)} {key : String} {n : Nat}
    (h : (key, n) ∈ tally) : tally.lookup key ≠ none := by
  simpa using ⟨n, h⟩

/-- One publication on a name: a new name joins with a count of one, a known one counts one
more. -/
theorem Counts.bump {names : List String} {tally : List (String × Nat)}
    (h : Counts names tally) (key : String) : Counts (names ++ [key]) (bump tally key) := by
  obtain ⟨hnodup, hmem⟩ := h
  unfold LogBus.bump
  cases hl : tally.lookup key with
  | none =>
    have hkey : key ∉ names := fun hk => lookup_ne_none_of_mem ((hmem key _).2 ⟨hk, rfl⟩) hl
    have hfresh : ∀ s n, (s, n) ∈ tally → ¬s = key := fun s n hsn hs =>
      hkey (hs ▸ ((hmem s n).1 hsn).1)
    refine ⟨by simpa [List.nodup_append] using ⟨hnodup, hfresh⟩, fun s m => ?_⟩
    by_cases hs : s = key
    · subst hs
      simp [hmem, hkey, List.count_append, List.count_eq_zero_of_not_mem hkey]
    · simp [hmem, hs, List.count_append, Ne.symm hs]
  | some n =>
    have hn : key ∈ names ∧ n = names.count key := (hmem key n).1 (mem_of_lookup_eq_some hl)
    refine ⟨by simpa [List.map_map, Function.comp_def, apply_ite] using hnodup, fun s m => ?_⟩
    rw [List.mem_map]
    constructor
    · rintro ⟨⟨k, v⟩, hkv, he⟩
      obtain ⟨hk, rfl⟩ := (hmem k v).1 hkv
      by_cases hkey : k = key
      · subst hkey
        simp only [beq_self_eq_true, if_true, Prod.mk.injEq] at he
        obtain ⟨rfl, rfl⟩ := he
        simp [List.count_append, hk, hn.2]
      · simp only [beq_iff_eq, hkey, if_false, Prod.mk.injEq] at he
        obtain ⟨rfl, rfl⟩ := he
        simp [List.count_append, hk, Ne.symm hkey]
    · rintro ⟨hs, rfl⟩
      by_cases hkey : s = key
      · subst hkey
        exact ⟨(s, n), mem_of_lookup_eq_some hl, by simp [List.count_append, hn.2]⟩
      · have hs' : s ∈ names := by simpa [hkey] using hs
        refine ⟨(s, names.count s), (hmem s _).2 ⟨hs', rfl⟩, ?_⟩
        simp [hkey, List.count_append, Ne.symm hkey]

/-- A run of publications, one name after another. -/
theorem Counts.foldl_bump {names : List String} {tally : List (String × Nat)}
    (h : Counts names tally) (more : List String) :
    Counts (names ++ more) (more.foldl LogBus.bump tally) := by
  induction more generalizing names tally with
  | nil => simpa using h
  | cons key more ih =>
    rw [List.foldl_cons, List.append_cons]
    exact ih (h.bump key)

/-- The bus counts the names of the channels published on, in order. -/
theorem tally_publishAll (b : LogBus) (msgs : List (Channel × Message)) :
    (MessageBus.publishAll b msgs).tally = (msgs.map fun m => m.1.name).foldl bump b.tally := by
  induction msgs generalizing b with
  | nil => rfl
  | cons m rest ih =>
    obtain ⟨c, msg⟩ := m
    rw [MessageBus.publishAll_cons, ih]
    rfl

theorem mem_insertSorted {e x : String × Nat} {l : List (String × Nat)} :
    x ∈ insertSorted e l ↔ x = e ∨ x ∈ l := by
  induction l with
  | nil => simp [insertSorted]
  | cons y l ih =>
    unfold insertSorted
    split
    · simp
    · simp only [List.mem_cons, ih]
      exact or_left_comm

/-- Inserting a count under a new name keeps the names in strict order. -/
theorem pairwise_insertSorted {e : String × Nat} {l : List (String × Nat)}
    (hne : ∀ x ∈ l, x.1 ≠ e.1) (h : l.Pairwise (·.1 < ·.1)) :
    (insertSorted e l).Pairwise (·.1 < ·.1) := by
  induction l with
  | nil => simp [insertSorted]
  | cons y l ih =>
    obtain ⟨hy, hl⟩ := List.pairwise_cons.1 h
    unfold insertSorted
    split
    next hlt =>
      -- `e` goes first: it is below `y`, which is below the rest
      refine List.pairwise_cons.2 ⟨fun x hx => ?_, h⟩
      rcases List.mem_cons.1 hx with rfl | hx
      · exact hlt
      · exact lt_trans hlt (hy x hx)
    next hge =>
      -- `y` stays first: it is below `e`, since their names differ
      have hye : y.1 < e.1 := lt_of_le_of_ne (not_lt.1 hge) (hne y (by simp))
      refine List.pairwise_cons.2 ⟨fun x hx => ?_, ih (fun x hx => hne x (by simp [hx])) hl⟩
      rcases mem_insertSorted.1 hx with rfl | hx
      · exact hye
      · exact hy x hx

theorem mem_foldr_insertSorted (l : List (String × Nat)) (x : String × Nat) :
    x ∈ l.foldr insertSorted [] ↔ x ∈ l := by
  induction l with
  | nil => simp
  | cons e l ih => simp [mem_insertSorted, ih]

/-- Counts under pairwise different names come out in strict name order. -/
theorem pairwise_foldr_insertSorted (l : List (String × Nat)) (h : (l.map Prod.fst).Nodup) :
    (l.foldr insertSorted []).Pairwise (·.1 < ·.1) := by
  induction l with
  | nil => simp
  | cons e l ih =>
    rw [List.map_cons, List.nodup_cons] at h
    refine pairwise_insertSorted (fun x hx hxe => h.1 ?_) (ih h.2)
    exact hxe ▸ List.mem_map_of_mem ((mem_foldr_insertSorted l x).1 hx)

/-- What a list of counts says of a run of channels: it lists, in strict name order, every
channel of the run with its number of occurrences, and nothing else. -/
def Tallies (chans : List Channel) (counts : List (String × Nat)) : Prop :=
  counts.Pairwise (·.1 < ·.1) ∧
    ∀ s n, (s, n) ∈ counts ↔ ∃ c ∈ chans, c.name = s ∧ n = chans.count c

theorem counts_publishAll (name : String) (msgs : List (Channel × Message)) :
    Tallies (msgs.map Prod.fst) (MessageBus.publishAll ({ name := name } : LogBus) msgs).counts := by
  have hstart : Counts [] [] := ⟨List.nodup_nil, by simp⟩
  have hcounts : Counts (msgs.map fun m => m.1.name)
      (MessageBus.publishAll ({ name := name } : LogBus) msgs).tally := by
    rw [tally_publishAll]
    simpa using hstart.foldl_bump (msgs.map fun m => m.1.name)
  obtain ⟨hnodup, hmem⟩ := hcounts
  refine ⟨pairwise_foldr_insertSorted _ hnodup, fun s n => ?_⟩
  -- the bus counts names; names tell channels apart, so a name's count is its channel's
  have hcount (c : Channel) : (msgs.map fun m => m.1.name).count c.name = (msgs.map Prod.fst).count c := by
    rw [show (msgs.map fun m => m.1.name) = (msgs.map Prod.fst).map Channel.name by simp]
    exact List.count_map_of_injective _ _ Channel.name_injective c
  rw [counts, mem_foldr_insertSorted, hmem]
  constructor
  · rintro ⟨hs, rfl⟩
    obtain ⟨m, hm, rfl⟩ := List.mem_map.1 hs
    exact ⟨m.1, List.mem_map_of_mem hm, rfl, hcount m.1⟩
  · rintro ⟨c, hc, rfl, rfl⟩
    obtain ⟨m, hm, rfl⟩ := List.mem_map.1 hc
    exact ⟨List.mem_map_of_mem hm, (hcount m.1).symm⟩

end LogBus

/-- Channel names and frame names never collide, so the log bus counts each channel apart:
after any run of publications on a fresh log bus, `counts` lists every channel published on
once, with its number of publications, in name order. -/
theorem names_never_collide :
    Function.Injective Channel.name ∧ (∀ n : FrameNames, Function.Injective n.nameOf) ∧
    ∀ (name : String) (msgs : List (Channel × Message)),
      LogBus.Tallies (msgs.map Prod.fst)
        (MessageBus.publishAll ({ name := name } : LogBus) msgs).counts :=
  ⟨Channel.name_injective, FrameNames.nameOf_injective, LogBus.counts_publishAll⟩

end DepthBridge
