-- Fixed buffers of bytes, and the little-endian layout of packed records. A
-- record goes to a list of bytes field by field; the `take` functions read the
-- fields back in the same order.
import Mathlib.Data.List.OfFn
import Mathlib.Tactic

namespace bytes

/-- A buffer of `n` bytes. -/
abbrev Bytes (n : Nat) := Fin n → UInt8

variable {n : Nat}

/-- `memcpy` of `data` to offset `off` of a buffer. The caller has to check that it fits:
what does not fit is cut off. -/
def memcpy (dst : Bytes n) (off : Nat) (data : List UInt8) : Bytes n := fun i =>
  if off ≤ i.val then data.getD (i.val - off) (dst i) else dst i

/-- A buffer that starts with `data` and is zero after it. -/
def padded (n : Nat) (data : List UInt8) : Bytes n := fun i => data.getD i.val 0

/-- The bytes of a buffer, in order. -/
def listOf (b : Bytes n) : List UInt8 := List.ofFn b

/-- The bytes from `off` on that a reader of `len` bytes gets, at most up to `stop`. -/
def slice (b : Bytes n) (stop off len : Nat) : List UInt8 :=
  (((listOf b).take stop).drop off).take len

/-- The `k` bytes at offset `off`. -/
def window (b : Bytes n) (off k : Nat) (h : off + k ≤ n) : Bytes k := fun i =>
  b ⟨off + i.val, by omega⟩

/-- The bytes the other way round. -/
def reversed (b : Bytes n) : Bytes n := fun i => b i.rev

theorem reversed_reversed (b : Bytes n) : reversed (reversed b) = b := by
  funext i
  simp [reversed]

@[simp] theorem listOf_length (b : Bytes n) : (listOf b).length = n := List.length_ofFn

/-- A reader gets bytes only from below `stop`, and only if it asks for some. -/
theorem slice_ne_nil {b : Bytes n} {stop off len : Nat} (h : slice b stop off len ≠ []) :
    off < stop ∧ 0 < len := by
  constructor
  · by_contra hge
    apply h
    unfold slice
    rw [List.drop_eq_nil_of_le, List.take_nil]
    rw [List.length_take]
    omega
  · by_contra hlen
    apply h
    unfold slice
    rw [show len = 0 by omega, List.take_zero]

/-! ## Fields of a received frame -/

/-- The `k` bytes of a frame from `off` on. -/
def field (frame : List UInt8) (off k : Nat) : List UInt8 := (frame.drop off).take k

theorem window_congr {a b : Bytes n} {off k : Nat} (h : off + k ≤ n)
    (hab : ∀ i : Fin n, i.val < off + k → a i = b i) : window a off k h = window b off k h := by
  funext i
  exact hab ⟨off + i.val, by omega⟩ (by simp)

/-- Another byte at a place of the window makes another window. -/
theorem window_update_ne {a : Bytes n} {off k : Nat} (h : off + k ≤ n) {j : Fin n}
    (hlo : off ≤ j.val) (hhi : j.val < off + k) {b : UInt8} (hb : b ≠ a j) :
    window (Function.update a j b) off k h ≠ window a off k h := by
  intro heq
  have hat := congrFun heq ⟨j.val - off, by omega⟩
  have hj : (⟨off + (j.val - off), by omega⟩ : Fin n) = j := Fin.ext (by simp only; omega)
  simp only [window, hj, Function.update_self] at hat
  exact hb hat

theorem reversed_injective {a b : Bytes n} (h : reversed a = reversed b) : a = b := by
  rw [← reversed_reversed a, h, reversed_reversed]

theorem listOf_injective {a b : Bytes n} (h : listOf a = listOf b) : a = b :=
  List.ofFn_injective h

/-- The first `len` bytes of a buffer, read by index. -/
theorem getD_take_listOf (b : Bytes n) (len : Nat) (i : Fin n) :
    ((listOf b).take len).getD i.val 0 = if i.val < len then b i else 0 := by
  rw [List.getD_eq_getElem?_getD, List.getElem?_take]
  split
  · rw [List.getElem?_eq_getElem (by simp)]
    simp [listOf]
  · rfl

theorem getD_listOf (b : Bytes n) (i : Fin n) : (listOf b).getD i.val 0 = b i := by
  have hall := getD_take_listOf b n i
  rwa [List.take_of_length_le (by simp), if_pos i.isLt] at hall

/-- Two buffers that agree on their first `k` bytes start alike. -/
theorem take_listOf_congr {a b : Bytes n} {k : Nat} (h : ∀ i : Fin n, i.val < k → a i = b i) :
    (listOf a).take k = (listOf b).take k := by
  apply List.ext_getElem
  · simp
  · intro i hi hi'
    simp only [List.length_take, listOf_length] at hi
    simp only [listOf, List.getElem_take, List.getElem_ofFn]
    exact h ⟨i, by omega⟩ (by simp only; omega)

/-- A window of a buffer that holds the frame is a field of the frame. -/
theorem listOf_window {frame : List UInt8} {b : Bytes n} {off k : Nat} (h : off + k ≤ n)
    (hb : ∀ i : Fin n, i.val < frame.length → b i = frame.getD i.val 0)
    (hlen : off + k ≤ frame.length) : listOf (window b off k h) = field frame off k := by
  apply List.ext_getElem
  · simp [field]
    omega
  · intro i hi hi'
    have hk : i < k := by simpa using hi
    have hbyte := hb ⟨off + i, by omega⟩ (by simp only; omega)
    have hget : frame[off + i]? = some frame[off + i] := List.getElem?_eq_getElem (by omega)
    simp only [listOf, window, field, List.getElem_ofFn, List.getElem_take, List.getElem_drop]
    rw [hbyte, List.getD_eq_getElem?_getD, hget]
    rfl

theorem field_two {frame : List UInt8} {off : Nat} (h : off + 2 ≤ frame.length) :
    field frame off 2 = [frame.getD off 0, frame.getD (off + 1) 0] := by
  apply List.ext_getElem
  · simp [field]
    omega
  · intro i hi hi'
    have hi2 : i = 0 ∨ i = 1 := by
      simp only [List.length_cons, List.length_nil] at hi'
      omega
    rcases hi2 with rfl | rfl
    · simp [field, List.getElem?_eq_getElem (show off < frame.length by omega)]
    · simp [field, List.getElem?_eq_getElem (show off + 1 < frame.length by omega)]

/-- What was copied to the start of a buffer is what a reader gets. -/
theorem slice_memcpy (b : Bytes n) {data : List UInt8} (h : data.length ≤ n) :
    slice (memcpy b 0 data) data.length 0 n = data := by
  unfold slice
  apply List.ext_getElem
  · simp
    omega
  · intro i hi hi'
    simp [listOf, memcpy, hi']

theorem take_memcpy (b : Bytes n) {data : List UInt8} (h : data.length ≤ n) :
    (listOf (memcpy b 0 data)).take data.length = data := by
  have hread := slice_memcpy b h
  unfold slice at hread
  rwa [List.drop_zero, List.take_of_length_le (by simp)] at hread

/-! ## Buffers that are filled piece by piece -/

/-- The pieces are stored in order, each at its offset. -/
def storeAll (b : Bytes n) (pieces : List (Nat × List UInt8)) : Bytes n :=
  pieces.foldl (fun dst p => memcpy dst p.1 p.2) b

/-- Each piece starts where the one before it ends, the first at `off`. -/
def Contiguous : Nat → List (Nat × List UInt8) → Prop
  | _, [] => True
  | off, p :: ps => p.1 = off ∧ Contiguous (off + p.2.length) ps

/-- The pieces of a loop that stores a buffer byte by byte from `off` on. -/
def bytewise (off : Nat) (src : Bytes n) : List (Nat × List UInt8) :=
  (List.finRange n).map (fun i => (i.val + off, [src i]))

theorem contiguous_bytewise (off : Nat) (src : Bytes n) : Contiguous off (bytewise off src) := by
  induction n generalizing off with
  | zero => simp [bytewise, Contiguous]
  | succ n ih =>
    have hrest := ih (off + 1) (fun i => src i.succ)
    have hshift : bytewise (off + 1) (fun i => src i.succ) =
        ((List.finRange n).map Fin.succ).map (fun i => (i.val + off, [src i])) := by
      simp [bytewise, Nat.add_assoc, Nat.add_comm 1]
    rw [hshift] at hrest
    unfold bytewise
    rw [List.finRange_succ, List.map_cons]
    exact ⟨Nat.zero_add off, hrest⟩

theorem flatMap_bytewise (off : Nat) (src : Bytes n) :
    (bytewise off src).flatMap Prod.snd = listOf src := by
  unfold bytewise listOf
  rw [List.flatMap_map, List.ofFn_eq_map, List.map_eq_flatMap]

theorem memcpy_nil (b : Bytes n) (off : Nat) : memcpy b off [] = b := by
  funext i
  simp [memcpy]

/-- Two copies, the second right behind the first, are one. -/
theorem memcpy_append (b : Bytes n) (off : Nat) (front back : List UInt8) :
    memcpy (memcpy b off front) (off + front.length) back = memcpy b off (front ++ back) := by
  funext i
  simp only [memcpy, List.getD_eq_getElem?_getD]
  by_cases hback : off + front.length ≤ i.val
  · rw [if_pos hback, if_pos (by omega), if_pos (by omega), List.getElem?_append_right (by omega),
      List.getElem?_eq_none (l := front) (by omega), Nat.sub_sub, Option.getD_none]
  · rw [if_neg hback]
    split
    · rw [List.getElem?_append_left (by omega)]
    · rfl

/-- What a buffer has already may be copied to it again. -/
theorem memcpy_of_take (b : Bytes n) {data : List UInt8}
    (h : (listOf b).take data.length = data) : memcpy b 0 data = b := by
  funext i
  by_cases hi : i.val < data.length
  · have hget : data[i.val]? = some (b i) := by
      rw [← h, List.getElem?_take_of_lt hi]
      simp [listOf]
    simp [memcpy, List.getD_eq_getElem?_getD, hget]
  · simp [memcpy, List.getD_eq_getElem?_getD, List.getElem?_eq_none (Nat.le_of_not_lt hi)]

/-- A piece that is stored right behind the front extends it. -/
theorem take_memcpy_behind (b : Bytes n) {front data : List UInt8}
    (hfront : (listOf b).take front.length = front) (hfit : front.length + data.length ≤ n) :
    (listOf (memcpy b front.length data)).take (front.length + data.length) = front ++ data := by
  have hone := memcpy_append b 0 front data
  rw [memcpy_of_take b hfront, Nat.zero_add] at hone
  rw [hone, ← List.length_append]
  exact take_memcpy b (by rw [List.length_append]; exact hfit)

/-- Contiguous pieces are stored as one. -/
theorem storeAll_contiguous {off : Nat} {pieces : List (Nat × List UInt8)}
    (h : Contiguous off pieces) (b : Bytes n) :
    storeAll b pieces = memcpy b off (pieces.flatMap Prod.snd) := by
  induction pieces generalizing off b with
  | nil => exact (memcpy_nil b off).symm
  | cons p ps ih =>
    obtain ⟨rfl, hrest⟩ := h
    rw [List.flatMap_cons, ← memcpy_append]
    exact ih hrest (memcpy b p.1 p.2)

theorem contiguous_within {off : Nat} {pieces : List (Nat × List UInt8)}
    (h : Contiguous off pieces) {p : Nat × List UInt8} (hp : p ∈ pieces) :
    p.1 + p.2.length ≤ off + (pieces.flatMap Prod.snd).length := by
  induction pieces generalizing off with
  | nil => cases hp
  | cons q qs ih =>
    obtain ⟨rfl, hrest⟩ := h
    rw [List.flatMap_cons, List.length_append]
    rcases List.mem_cons.mp hp with rfl | hmem
    · omega
    · have hle := ih hrest hmem
      omega

theorem listOf_update (b : Bytes n) (j : Fin n) (x : UInt8) :
    listOf (Function.update b j x) = (listOf b).set j.val x := by
  apply List.ext_getElem
  · simp
  · intro i hi hi'
    simp only [listOf, List.getElem_ofFn, List.getElem_set, Function.update_apply, Fin.ext_iff]
    split <;> split <;> first | rfl | omega

/-! ## Numbers, low byte first -/

/-- The low `k` bytes of `v`. -/
def leBytes : Nat → Nat → List UInt8
  | 0, _ => []
  | k + 1, v => UInt8.ofNat v :: leBytes k (v / 256)

def ofLe : List UInt8 → Nat
  | [] => 0
  | b :: bs => b.toNat + 256 * ofLe bs

@[simp] theorem leBytes_length (k v : Nat) : (leBytes k v).length = k := by
  induction k generalizing v with
  | zero => rfl
  | succ k ih => simp [leBytes, ih]

theorem ofLe_leBytes (k v : Nat) : ofLe (leBytes k v) = v % 256 ^ k := by
  induction k generalizing v with
  | zero => simp [leBytes, ofLe, Nat.mod_one]
  | succ k ih =>
    have hb : (UInt8.ofNat v).toNat = v % 256 := UInt8.toNat_ofNat'
    simp only [leBytes, ofLe, ih, hb, Nat.pow_succ', Nat.mod_mul]

theorem ofLe_lt (l : List UInt8) : ofLe l < 256 ^ l.length := by
  induction l with
  | nil => simp [ofLe]
  | cons b bs ih =>
    have hb := b.toNat_lt
    simp only [ofLe, List.length_cons, Nat.pow_succ']
    omega

theorem leBytes_ofLe (l : List UInt8) : leBytes l.length (ofLe l) = l := by
  induction l with
  | nil => rfl
  | cons b bs ih =>
    have hb := b.toNat_lt
    have hdiv : (b.toNat + 256 * ofLe bs) / 256 = ofLe bs := by omega
    have hmod : UInt8.ofNat (b.toNat + 256 * ofLe bs) = b := by
      apply UInt8.toNat_inj.mp
      rw [UInt8.toNat_ofNat']
      omega
    simp only [List.length_cons, leBytes, ofLe, hdiv, hmod, ih]

def le16 (x : UInt16) : List UInt8 := leBytes 2 x.toNat

def le32 (x : UInt32) : List UInt8 := leBytes 4 x.toNat

def ofLe16 (a b : UInt8) : UInt16 := UInt16.ofNat (ofLe [a, b])

def ofLe32 (a b c d : UInt8) : UInt32 := UInt32.ofNat (ofLe [a, b, c, d])

theorem ofLe16_toNat (a b : UInt8) : (ofLe16 a b).toNat = ofLe [a, b] := by
  have h := ofLe_lt [a, b]
  unfold ofLe16
  rw [UInt16.toNat_ofNat', Nat.mod_eq_of_lt (by simpa using h)]

theorem le16_ofLe16 (a b : UInt8) : le16 (ofLe16 a b) = [a, b] := by
  unfold le16
  rw [ofLe16_toNat]
  exact leBytes_ofLe [a, b]

theorem ofLe32_toNat (a b c d : UInt8) : (ofLe32 a b c d).toNat = ofLe [a, b, c, d] := by
  have h := ofLe_lt [a, b, c, d]
  unfold ofLe32
  rw [UInt32.toNat_ofNat', Nat.mod_eq_of_lt (by simpa using h)]

theorem le32_ofLe32 (a b c d : UInt8) : le32 (ofLe32 a b c d) = [a, b, c, d] := by
  unfold le32
  rw [ofLe32_toNat]
  exact leBytes_ofLe [a, b, c, d]

/-! ## Reading a record back -/

def takeU8 (l : List UInt8) : UInt8 × List UInt8 := (l.getD 0 0, l.drop 1)

def takeU16 (l : List UInt8) : UInt16 × List UInt8 := (UInt16.ofNat (ofLe (l.take 2)), l.drop 2)

def takeU32 (l : List UInt8) : UInt32 × List UInt8 := (UInt32.ofNat (ofLe (l.take 4)), l.drop 4)

def takeBytes (n : Nat) (l : List UInt8) : Bytes n × List UInt8 := (padded n l, l.drop n)

@[simp] theorem takeU8_cons (x : UInt8) (rest : List UInt8) : takeU8 (x :: rest) = (x, rest) := by
  simp [takeU8]

theorem ofNat_ofLe_le16 (x : UInt16) : UInt16.ofNat (ofLe (le16 x)) = x := by
  have hx := x.toNat_lt
  apply UInt16.toNat_inj.mp
  rw [UInt16.toNat_ofNat', le16, ofLe_leBytes]
  omega

theorem ofNat_ofLe_le32 (x : UInt32) : UInt32.ofNat (ofLe (le32 x)) = x := by
  have hx := x.toNat_lt
  apply UInt32.toNat_inj.mp
  rw [UInt32.toNat_ofNat', le32, ofLe_leBytes]
  omega

@[simp] theorem takeU16_le16 (x : UInt16) (rest : List UInt8) :
    takeU16 (le16 x ++ rest) = (x, rest) := by
  have htake : (le16 x ++ rest).take 2 = le16 x := List.take_left' (leBytes_length 2 _)
  have hdrop : (le16 x ++ rest).drop 2 = rest := List.drop_left' (leBytes_length 2 _)
  unfold takeU16
  rw [htake, hdrop, ofNat_ofLe_le16]

@[simp] theorem takeU32_le32 (x : UInt32) (rest : List UInt8) :
    takeU32 (le32 x ++ rest) = (x, rest) := by
  have htake : (le32 x ++ rest).take 4 = le32 x := List.take_left' (leBytes_length 4 _)
  have hdrop : (le32 x ++ rest).drop 4 = rest := List.drop_left' (leBytes_length 4 _)
  unfold takeU32
  rw [htake, hdrop, ofNat_ofLe_le32]

@[simp] theorem takeBytes_listOf (f : Bytes n) (rest : List UInt8) :
    takeBytes n (listOf f ++ rest) = (f, rest) := by
  have hdrop : (listOf f ++ rest).drop n = rest := List.drop_left' (listOf_length f)
  unfold takeBytes
  rw [hdrop]
  have hf : padded n (listOf f ++ rest) = f := by
    funext i
    have hi : i.val < (listOf f).length := by rw [listOf_length]; exact i.isLt
    unfold padded
    rw [List.getD_eq_getElem?_getD, List.getElem?_append_left hi]
    simp [listOf]
  rw [hf]

@[simp] theorem takeU32_le32_last (x : UInt32) : takeU32 (le32 x) = (x, []) := by
  simpa using takeU32_le32 x []

@[simp] theorem takeBytes_listOf_last (f : Bytes n) : takeBytes n (listOf f) = (f, []) := by
  simpa using takeBytes_listOf f []

@[simp] theorem takeU8_length (l : List UInt8) : (takeU8 l).2.length = l.length - 1 :=
  List.length_drop

@[simp] theorem takeU16_length (l : List UInt8) : (takeU16 l).2.length = l.length - 2 :=
  List.length_drop

@[simp] theorem takeU32_length (l : List UInt8) : (takeU32 l).2.length = l.length - 4 :=
  List.length_drop

@[simp] theorem takeBytes_length (n : Nat) (l : List UInt8) :
    (takeBytes n l).2.length = l.length - n := List.length_drop

/-! What was taken, put back in front of the rest, is what was there. -/

theorem takeU8_eq {l : List UInt8} (h : 1 ≤ l.length) : (takeU8 l).1 :: (takeU8 l).2 = l := by
  cases l with
  | nil => simp at h
  | cons b bs => rfl

theorem le16_takeU16 {l : List UInt8} (h : 2 ≤ l.length) :
    le16 (takeU16 l).1 ++ (takeU16 l).2 = l := by
  have hlen : (l.take 2).length = 2 := by simp [h]
  have hlt := ofLe_lt (l.take 2)
  have hback := leBytes_ofLe (l.take 2)
  rw [hlen] at hlt hback
  unfold takeU16 le16
  rw [UInt16.toNat_ofNat', Nat.mod_eq_of_lt (by omega), hback, List.take_append_drop]

theorem le32_takeU32 {l : List UInt8} (h : 4 ≤ l.length) :
    le32 (takeU32 l).1 ++ (takeU32 l).2 = l := by
  have hlen : (l.take 4).length = 4 := by simp [h]
  have hlt := ofLe_lt (l.take 4)
  have hback := leBytes_ofLe (l.take 4)
  rw [hlen] at hlt hback
  unfold takeU32 le32
  rw [UInt32.toNat_ofNat', Nat.mod_eq_of_lt (by omega), hback, List.take_append_drop]

theorem listOf_takeBytes {n : Nat} {l : List UInt8} (h : n ≤ l.length) :
    listOf (takeBytes n l).1 ++ (takeBytes n l).2 = l := by
  have htake : listOf (padded n l) = l.take n := by
    apply List.ext_getElem
    · simp [h]
    · intro i hi hi'
      have hlt : i < l.length := by
        simp only [listOf_length] at hi
        omega
      simp [listOf, padded, List.getElem?_eq_getElem hlt]
  unfold takeBytes
  rw [htake, List.take_append_drop]

theorem le32_takeU32_last {l : List UInt8} (h : l.length = 4) : le32 (takeU32 l).1 = l := by
  have hnil : (takeU32 l).2 = [] := List.eq_nil_of_length_eq_zero (by simp [h])
  have hall := le32_takeU32 (l := l) (by omega)
  rw [hnil, List.append_nil] at hall
  exact hall

theorem listOf_takeBytes_last {n : Nat} {l : List UInt8} (h : l.length = n) :
    listOf (takeBytes n l).1 = l := by
  have hnil : (takeBytes n l).2 = [] := List.eq_nil_of_length_eq_zero (by simp [h])
  have hall := listOf_takeBytes (n := n) (l := l) (by omega)
  rw [hnil, List.append_nil] at hall
  exact hall

/-- The layout of a packed record: its bytes in memory, and the record that bytes stand
for. -/
structure Layout (α : Type*) where
  size : Nat
  toBytes : α → List UInt8
  ofBytes : List UInt8 → α
  toBytes_length : ∀ r, (toBytes r).length = size
  ofBytes_toBytes : ∀ r, ofBytes (toBytes r) = r

/-- Every byte of the record is a byte of a field. -/
def Layout.Exact {α : Type*} (layout : Layout α) : Prop :=
  ∀ l, l.length = layout.size → layout.toBytes (layout.ofBytes l) = l

/-- A read of `data` into the memory of a record of `size` bytes: it takes the first bytes
of the record, and the others stay. -/
def overlay (size : Nat) (old data : List UInt8) : List UInt8 :=
  data.take size ++ old.drop (data.take size).length

theorem overlay_full (old data : List UInt8) (h : data.length = old.length) :
    overlay old.length old data = data := by
  unfold overlay
  rw [← h, List.take_length, h, List.drop_length, List.append_nil]

end bytes
