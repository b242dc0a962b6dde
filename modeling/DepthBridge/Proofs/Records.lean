import Mathlib
import DepthBridge.Frame
import DepthBridge.Proofs.PackedFloat
/-!
# Raw inertial and pose records

An inertial reading and a pose record travel as their fields in declaration order, each field a
32-bit word written little-endian: a single by its bits, a confidence as it is
(`MotionReading.encode`, `PoseData.encode`; 12 and 84 bytes). A record is read back from the
front of a payload by `readRecord`.

Main statements:
* `littleEndian_wordBytes`: the four bytes of a word are its little-endian digits;
* `wordAt_flatMap`: the word read at byte `4k` of a run of written words is the `k`-th word;
* `readRecord_encode`: reading a record from its bytes, followed by any bytes at all, gives back
  the record bit for bit; reading fails exactly on a payload shorter than the record, and then
  with a parse error that names the stream.
-/

namespace DepthBridge

/-! ## Little-endian words -/

/-- The number whose little-endian bytes are given. -/
def littleEndian : List UInt8 → ℕ
  | [] => 0
  | b :: bs => b.toNat + 256 * littleEndian bs

@[simp] theorem length_wordBytes (w : UInt32) : (wordBytes w).length = 4 := rfl

theorem littleEndian_wordBytes (w : UInt32) : littleEndian (wordBytes w) = w.toNat := by
  have hw := w.toNat_lt
  simp [wordBytes, littleEndian, Nat.shiftRight_eq_div_pow]
  omega

/-- The four bytes of a word, each moved back to its place, make up the word. -/
theorem ofBytes_wordBytes (w : UInt32) :
    w.toUInt8.toUInt32 ||| ((w >>> 8).toUInt8.toUInt32 <<< 8) |||
      ((w >>> 16).toUInt8.toUInt32 <<< 16) ||| ((w >>> 24).toUInt8.toUInt32 <<< 24) = w := by
  apply UInt32.toBitVec_inj.1
  ext i hi
  simp only [UInt32.toBitVec_or, UInt32.toBitVec_shiftLeft, UInt32.toBitVec_shiftRight,
    UInt32.toBitVec_toUInt8, UInt8.toBitVec_toUInt32, BitVec.getElem_or, BitVec.shiftLeft_eq',
    BitVec.ushiftRight_eq', BitVec.getElem_shiftLeft, BitVec.getElem_setWidth,
    BitVec.getLsbD_setWidth, BitVec.getLsbD_ushiftRight]
  have h8 : (UInt32.toBitVec 8 % 32).toNat = 8 := rfl
  have h16 : (UInt32.toBitVec 16 % 32).toNat = 16 := rfl
  have h24 : (UInt32.toBitVec 24 % 32).toNat = 24 := rfl
  rw [h8, h16, h24, ← BitVec.getLsbD_eq_getElem hi]
  -- each bit comes from exactly one byte
  rcases (by omega : i < 8 ∨ 8 ≤ i ∧ i < 16 ∨ 16 ≤ i ∧ i < 24 ∨ 24 ≤ i) with h | h | h | h
  · simp [h, show i < 16 by omega, show i < 24 by omega]
  · simp [show ¬ i < 8 by omega, show i - 8 < 8 by omega, show i < 16 by omega,
      show i < 24 by omega, show 8 + (i - 8) = i by omega]
  · simp [show ¬ i < 8 by omega, show ¬ i - 8 < 8 by omega, show ¬ i < 16 by omega,
      show i - 16 < 8 by omega, show i < 24 by omega, show 16 + (i - 16) = i by omega]
  · simp [show ¬ i < 8 by omega, show ¬ i - 8 < 8 by omega, show ¬ i < 16 by omega,
      show ¬ i - 16 < 8 by omega, show ¬ i < 24 by omega, show i - 24 < 8 by omega,
      show 24 + (i - 24) = i by omega]

/-- The word at byte `i` is read from the four bytes from `i` on. -/
theorem wordAt_eq_of_bytes {b : ByteArray} {i : ℕ} {w : UInt32}
    (h : ∀ j < 4, b.data.getD (i + j) 0 = (wordBytes w).getD j 0) : wordAt b i = w := by
  unfold wordAt
  simp only [h 0 (by decide), h 1 (by decide), h 2 (by decide), h 3 (by decide)]
  exact ofBytes_wordBytes w

theorem wordAt_append (pre post : List UInt8) (w : UInt32) :
    wordAt ⟨(pre ++ wordBytes w ++ post).toArray⟩ pre.length = w := by
  apply wordAt_eq_of_bytes
  intro j hj
  simp only [Array.getD_eq_getD_getElem?, List.getElem?_toArray, List.append_assoc]
  rw [List.getElem?_append_right (by omega), Nat.add_sub_cancel_left,
    List.getElem?_append_left (by rw [length_wordBytes]; exact hj)]
  rfl

theorem length_flatMap_wordBytes (ws : List UInt32) :
    (ws.flatMap wordBytes).length = 4 * ws.length := by
  induction ws with
  | nil => rfl
  | cons w ws ih =>
    rw [List.flatMap_cons, List.length_append, ih, length_wordBytes, List.length_cons]
    ring

/-- The word read at byte `4k` of a run of written words, followed by anything, is the `k`-th
word. -/
theorem wordAt_flatMap (ws : List UInt32) (rest : List UInt8) {k : ℕ} (hk : k < ws.length) :
    wordAt ⟨(ws.flatMap wordBytes ++ rest).toArray⟩ (4 * k) = ws[k] := by
  -- cut the run before and after the `k`-th word
  have hsplit : ws.flatMap wordBytes ++ rest = (ws.take k).flatMap wordBytes ++ wordBytes ws[k] ++
      ((ws.drop (k + 1)).flatMap wordBytes ++ rest) := by
    conv_lhs => rw [← List.take_append_drop k ws, ← List.getElem_cons_drop hk]
    simp only [List.flatMap_append, List.flatMap_cons, List.append_assoc]
  have hlen : ((ws.take k).flatMap wordBytes).length = 4 * k := by
    rw [length_flatMap_wordBytes, List.length_take, Nat.min_eq_left hk.le]
  rw [hsplit, ← hlen]
  exact wordAt_append _ _ _

theorem singleAt_flatMap (ws : List UInt32) (rest : List UInt8) {k : ℕ} (hk : k < ws.length) :
    singleAt ⟨(ws.flatMap wordBytes ++ rest).toArray⟩ (4 * k) = Float32.ofBits ws[k] := by
  unfold singleAt
  rw [wordAt_flatMap ws rest hk]

/-- A field of `n` singles written after the singles `pre`: the `n` singles read from its first
byte are the field. -/
theorem ofFn_singleAt {n : ℕ} (pre post : List Float32) {singles : List Float32}
    {f : Vector Float32 n} (hs : singles = pre ++ f.toList ++ post) (tail : List UInt32)
    (rest : List UInt8) {i : ℕ} (hi : i = 4 * pre.length) :
    Vector.ofFn (fun j : Fin n =>
      singleAt ⟨((singles.map Float32.toBits ++ tail).flatMap wordBytes ++ rest).toArray⟩
        (i + 4 * j)) = f := by
  ext j hj
  have hk : pre.length + j < (singles.map Float32.toBits ++ tail).length := by
    simp [hs]
    omega
  have hword : (singles.map Float32.toBits ++ tail)[pre.length + j] = f[j].toBits := by
    simp only [hs, List.map_append, List.append_assoc]
    rw [List.getElem_append_right (by simp), List.getElem_append_left (by simp [hj])]
    simp
  rw [Vector.getElem_ofFn, hi, show 4 * pre.length + 4 * j = 4 * (pre.length + j) by ring,
    singleAt_flatMap _ _ hk, hword, Float32.ofBits_toBits]

/-- A byte array written from a list and followed by more bytes is written from the joined
list. -/
theorem mk_append (l : List UInt8) (e : ByteArray) :
    (⟨l.toArray⟩ : ByteArray) ++ e = ⟨(l ++ e.data.toList).toArray⟩ := by
  apply ByteArray.ext
  simp

/-! ## Reading records -/

section
variable {α : Type} [Record α] (k : StreamKey) (b : ByteArray)

theorem readRecord_of_le (h : Record.size α ≤ b.size) :
    readRecord α k b = .ok (Record.decode b) :=
  if_neg (Nat.not_lt_of_le h)

theorem readRecord_error_iff :
    (∃ msg, readRecord α k b = .error (.payloadParse k.name msg)) ↔ b.size < Record.size α := by
  constructor
  · rintro ⟨msg, hmsg⟩
    by_contra hlt
    rw [readRecord_of_le k b (Nat.le_of_not_lt hlt)] at hmsg
    cases hmsg
  · intro hlt
    exact ⟨_, if_pos hlt⟩

theorem readRecord_ok_iff : (∃ a, readRecord α k b = .ok a) ↔ Record.size α ≤ b.size := by
  constructor
  · rintro ⟨a, ha⟩
    by_contra hlt
    unfold readRecord at ha
    rw [if_pos (Nat.lt_of_not_le hlt)] at ha
    cases ha
  · intro hle
    exact ⟨_, readRecord_of_le k b hle⟩

/-- A record whose bytes are at least a record long is read from any bytes that start with
them, as its decoding says. -/
theorem readRecord_append {a : α} {enc : ByteArray} (e : ByteArray)
    (hsize : Record.size α ≤ enc.size) (hdec : Record.decode (enc ++ e) = a) :
    readRecord α k (enc ++ e) = .ok a := by
  rw [readRecord_of_le k _ (by rw [ByteArray.size_append]; omega), hdec]

end

namespace MotionReading

theorem size_encode (r : MotionReading) : r.encode.size = 12 := rfl

theorem decode_encode_append (r : MotionReading) (e : ByteArray) :
    (Record.decode (r.encode ++ e) : MotionReading) = r := by
  obtain ⟨x, y, z⟩ := r
  have hwords : encode ⟨x, y, z⟩ = ⟨([x.toBits, y.toBits, z.toBits].flatMap wordBytes).toArray⟩ :=
    rfl
  rw [hwords, mk_append]
  show (⟨singleAt _ (4 * 0), singleAt _ (4 * 1), singleAt _ (4 * 2)⟩ : MotionReading) = _
  rw [singleAt_flatMap _ _ (by simp), singleAt_flatMap _ _ (by simp),
    singleAt_flatMap _ _ (by simp)]
  simp only [List.getElem_cons_zero, List.getElem_cons_succ, Float32.ofBits_toBits]

theorem readRecord_encode_append (r : MotionReading) (k : StreamKey) (e : ByteArray) :
    readRecord MotionReading k (r.encode ++ e) = .ok r :=
  readRecord_append k e r.size_encode.ge (decode_encode_append r e)

end MotionReading

namespace PoseData

/-- The singles of a pose record, in declaration order. -/
def singles (p : PoseData) : List Float32 :=
  p.translation.toList ++ p.velocity.toList ++ p.acceleration.toList ++ p.rotation.toList ++
    p.angularVelocity.toList ++ p.angularAcceleration.toList

/-- The words of a pose record, in declaration order. -/
def words (p : PoseData) : List UInt32 :=
  p.singles.map Float32.toBits ++ [p.trackerConfidence, p.mapperConfidence]

theorem encode_eq_words (p : PoseData) : p.encode = ⟨(p.words.flatMap wordBytes).toArray⟩ := by
  simp [encode, words, singles, List.flatMap_append, List.flatMap_map]

@[simp] theorem length_singles (p : PoseData) : p.singles.length = 19 := by
  simp [singles]

theorem size_encode (p : PoseData) : p.encode.size = 84 := by
  rw [encode_eq_words, ByteArray.size, List.size_toArray, length_flatMap_wordBytes]
  simp [words]

theorem decode_encode_append (p : PoseData) (e : ByteArray) :
    (Record.decode (p.encode ++ e) : PoseData) = p := by
  rw [encode_eq_words, mk_append]
  obtain ⟨t, v, a, r, av, aa, tc, mc⟩ := p
  -- the confidences are the last two words
  have hlen : (words ⟨t, v, a, r, av, aa, tc, mc⟩).length = 21 := by simp [words]
  have htc : (words ⟨t, v, a, r, av, aa, tc, mc⟩)[19] = tc := by
    simp [words, List.getElem_append_right]
  have hmc : (words ⟨t, v, a, r, av, aa, tc, mc⟩)[20] = mc := by
    simp [words, List.getElem_append_right]
  show PoseData.mk _ _ _ _ _ _ (wordAt _ (4 * 19)) (wordAt _ (4 * 20)) = _
  congr 1
  -- each field is read at four times the number of singles before it
  · exact ofFn_singleAt [] (v.toList ++ a.toList ++ r.toList ++ av.toList ++ aa.toList)
      (by simp [singles]) _ _ rfl
  · exact ofFn_singleAt t.toList (a.toList ++ r.toList ++ av.toList ++ aa.toList)
      (by simp [singles]) _ _ (by simp)
  · exact ofFn_singleAt (t.toList ++ v.toList) (r.toList ++ av.toList ++ aa.toList)
      (by simp [singles]) _ _ (by simp)
  · exact ofFn_singleAt (t.toList ++ v.toList ++ a.toList) (av.toList ++ aa.toList)
      (by simp [singles]) _ _ (by simp)
  · exact ofFn_singleAt (t.toList ++ v.toList ++ a.toList ++ r.toList) aa.toList
      (by simp [singles]) _ _ (by simp)
  · exact ofFn_singleAt (t.toList ++ v.toList ++ a.toList ++ r.toList ++ av.toList) []
      (by simp [singles]) _ _ (by simp)
  · rw [wordAt_flatMap _ _ (by omega), htc]
  · rw [wordAt_flatMap _ _ (by omega), hmc]

theorem readRecord_encode_append (p : PoseData) (k : StreamKey) (e : ByteArray) :
    readRecord PoseData k (p.encode ++ e) = .ok p :=
  readRecord_append k e p.size_encode.ge (decode_encode_append p e)

end PoseData

/-- Inertial readings and pose records are written as little-endian words in declaration order,
12 and 84 bytes long. Reading a record from its bytes followed by any bytes gives back the same
record, bit for bit; reading fails exactly when the payload is shorter than the record, and then
with a parse error that names the stream. -/
theorem readRecord_encode :
    (∀ w : UInt32, littleEndian (wordBytes w) = w.toNat) ∧
    (∀ (r : MotionReading) (k : StreamKey) (e : ByteArray),
      r.encode.size = 12 ∧ readRecord MotionReading k (r.encode ++ e) = .ok r) ∧
    (∀ (p : PoseData) (k : StreamKey) (e : ByteArray),
      p.encode.size = 84 ∧ readRecord PoseData k (p.encode ++ e) = .ok p) ∧
    ∀ (k : StreamKey) (b : ByteArray),
      ((∃ msg, readRecord MotionReading k b = .error (.payloadParse k.name msg)) ↔ b.size < 12) ∧
      ((∃ r, readRecord MotionReading k b = .ok r) ↔ 12 ≤ b.size) ∧
      ((∃ msg, readRecord PoseData k b = .error (.payloadParse k.name msg)) ↔ b.size < 84) ∧
      ((∃ p, readRecord PoseData k b = .ok p) ↔ 84 ≤ b.size) :=
  ⟨littleEndian_wordBytes,
    fun r k e => ⟨r.size_encode, r.readRecord_encode_append k e⟩,
    fun p k e => ⟨p.size_encode, p.readRecord_encode_append k e⟩,
    fun k b => ⟨readRecord_error_iff k b, readRecord_ok_iff k b, readRecord_error_iff k b,
      readRecord_ok_iff k b⟩⟩

end DepthBridge
