/-
# Pending writes

`put_writes`, `aput_writes` and `_load_writes` of `agent/subagent/checkpoint.py`.  The writes of the
tasks of one checkpoint live in one hash.  The field of a write is the text of its task id and of
its index, so that a reader who sorts the fields gets the writes of a task in the order of the
texts of their indexes.
-/
import EcommerceAgent.Lib.Hash
import EcommerceAgent.Lib.Text
import Mathlib.Data.List.Lex
import Mathlib.Data.Char
import Mathlib.Data.List.Dedup

open EcommerceAgent.Lib

namespace EcommerceAgent.Runtime

/-- `WRITES_IDX_MAP`: the special channels have negative indexes, so that they do not conflict with
the position of an ordinary write. -/
structure WritesIdxMap where
  get : List Char → Option ℤ
  negative : ∀ channel index, get channel = some index → index < 0

/-- The serializer of the checkpointer. -/
structure Serde (ν : Type) where
  dumpsTyped : ν → List Char × List UInt8
  loadsTyped : List Char × List UInt8 → ν
  loads_dumps : ∀ value, loadsTyped (dumpsTyped value) = value

/-- `bytes.decode("latin1")`. -/
def latin1Decode (payload : List UInt8) : List Char :=
  payload.map Char.ofUInt8

/-- `str.encode("latin1")` of a text of characters below 256. -/
def latin1Encode (text : List Char) : List UInt8 :=
  text.map Char.toUInt8

/-- The bytes survive as text. -/
lemma latin1Encode_decode (payload : List UInt8) :
    latin1Encode (latin1Decode payload) = payload := by
  induction payload with
  | nil => rfl
  | cons b payload ih =>
    have hb : (Char.ofUInt8 b).toUInt8 = b := UInt8.toUInt8_toUInt32 b
    rw [latin1Decode, List.map_cons, latin1Encode, List.map_cons, hb]
    exact congrArg (b :: ·) ih

/-- The object that is stored for a write. -/
structure StoredWrite where
  taskId : List Char
  channel : List Char
  type : List Char
  payload : List Char
  taskPath : List Char
deriving DecidableEq, Repr

/-- The arguments of a call of `put_writes` on the checkpoint. -/
structure WritesCall (ν : Type) where
  taskId : List Char
  taskPath : List Char
  writes : List (List Char × ν)

/-- What `_load_writes` returns for a write. -/
structure PendingWrite (ν : Type) where
  taskId : List Char
  channel : List Char
  value : ν
deriving DecidableEq

/-- The hash under the `_writes_key` of the checkpoint. -/
abbrev WritesHash := Hash (List Char) StoredWrite

/-- `f"{write_index}"`. -/
def indexText (index : ℤ) : List Char := (toString index).toList

/-- `f"{task_id}:{write_index}"`. -/
def writeField (taskId : List Char) (index : ℤ) : List Char := taskId ++ ':' :: indexText index

variable {ν : Type} (m : WritesIdxMap) (serde : Serde ν)

/-- `WRITES_IDX_MAP.get(channel, index)`. -/
def writeIndex (channel : List Char) (position : ℕ) : ℤ := (m.get channel).getD position

/-- The value that is stored for a write of the call. -/
def storedWrite (call : WritesCall ν) (write : List Char × ν) : StoredWrite where
  taskId := call.taskId
  channel := write.1
  type := (serde.dumpsTyped write.2).1
  payload := latin1Decode (serde.dumpsTyped write.2).2
  taskPath := call.taskPath

/-- The loop of `put_writes`: what is in the pipeline at its end.  The existing fields are those of
the hash, not those in the pipeline. -/
def pipelined (hash : WritesHash) (call : WritesCall ν) : List (List Char × StoredWrite) :=
  call.writes.zipIdx.filterMap fun (write, position) =>
    let index := writeIndex m write.1 position
    let field := writeField call.taskId index
    if 0 ≤ index ∧ hash.hexists field then none else some (field, storedWrite serde call write)

/-- `put_writes` and `aput_writes`. -/
def putWrites (hash : WritesHash) (call : WritesCall ν) : WritesHash :=
  (pipelined m serde hash call).foldl Hash.hset hash

/-- One turn of the loop of `_load_writes`. -/
def loadWrite (stored : StoredWrite) : PendingWrite ν where
  taskId := stored.taskId
  channel := stored.channel
  value := serde.loadsTyped (stored.type, latin1Encode stored.payload)

/-- `_load_writes` and `_aload_writes`, with the items in the order in which the server lists
them. -/
def loadWrites (rawWrites : List (List Char × StoredWrite)) : List (PendingWrite ν) :=
  (rawWrites.insertionSort fun a b => a.1 ≤ b.1).map fun item => loadWrite serde item.2

/-- The hash after a sequence of calls. -/
def putAll (calls : List (WritesCall ν)) : WritesHash := calls.foldl (putWrites m serde) Hash.empty

/-! ### What should come back -/

namespace WritesCall

/-- The writes of the call with their indexes. -/
def indexed (call : WritesCall ν) : List (ℤ × List Char × ν) :=
  call.writes.zipIdx.map fun (write, position) => (writeIndex m write.1 position, write)

/-- The last write of the call with this index, when the call is one of the task.  A position
occurs once in a call, so that it has no other write. -/
def writeAt (taskId : List Char) (index : ℤ) (call : WritesCall ν) :
    Option (WritesCall ν × List Char × ν) :=
  if call.taskId = taskId then
    ((call.indexed m).reverse.find? fun w => w.1 = index).map fun w => (call, w.2)
  else none

end WritesCall

/-- The write of a task that should be kept at an index: the first one at a position, the last one
at a negative index. -/
def winner (calls : List (WritesCall ν)) (taskId : List Char) (index : ℤ) :
    Option (WritesCall ν × List Char × ν) :=
  if 0 ≤ index then calls.findSome? (WritesCall.writeAt m taskId index)
  else calls.reverse.findSome? (WritesCall.writeAt m taskId index)

/-- The indexes at which the calls of a task write. -/
def usedIndexes (calls : List (WritesCall ν)) (taskId : List Char) : List ℤ :=
  ((calls.filter fun call => call.taskId = taskId).flatMap fun call =>
    (call.indexed m).map Prod.fst).dedup

/-- The kept writes of a task at these indexes, as a reader gets them. -/
def kept (calls : List (WritesCall ν)) (taskId : List Char) (indexes : List ℤ) :
    List (PendingWrite ν) :=
  indexes.filterMap fun index =>
    (winner m calls taskId index).map fun w => ⟨taskId, w.2.1, w.2.2⟩

/-- The positions at which the calls of a task write. -/
def positions (calls : List (WritesCall ν)) (taskId : List Char) : List ℤ :=
  (usedIndexes m calls taskId).filter (0 ≤ ·)

/-- The negative indexes at which the calls of a task write. -/
def specials (calls : List (WritesCall ν)) (taskId : List Char) : List ℤ :=
  (usedIndexes m calls taskId).filter (· < 0)

/-- The writes of the task in what was loaded, on ordinary or on special channels. -/
def ofTask (loaded : List (PendingWrite ν)) (taskId : List Char) (special : Bool) :
    List (PendingWrite ν) :=
  loaded.filter fun w => w.taskId = taskId ∧ (m.get w.channel).isSome = special

/-- Every task gets its ordinary writes back in the order of their positions, the first value at
each position, and its special writes, the last value at each index; no write is missing and none
comes twice. -/
def InOrder (calls : List (WritesCall ν)) (loaded : List (PendingWrite ν)) : Prop :=
  ∀ taskId,
    ofTask m loaded taskId false =
      kept m calls taskId ((positions m calls taskId).insertionSort (· ≤ ·)) ∧
    (ofTask m loaded taskId true).Perm (kept m calls taskId (specials m calls taskId))

/-- What is loaded after the calls is in order, in whatever order the server lists the items. -/
def LoadsInOrder (calls : List (WritesCall ν)) : Prop :=
  ∀ raw : List (List Char × StoredWrite), raw.Perm (putAll m serde calls).items →
    InOrder m calls (loadWrites serde raw)

/-- For every task the positions in the order of their decimal texts hold the same writes, one
after the other, as in the order of the numbers. -/
def TextOrderAgrees (calls : List (WritesCall ν)) : Prop :=
  ∀ taskId,
    kept m calls taskId
        ((positions m calls taskId).insertionSort fun i j => indexText i ≤ indexText j) =
      kept m calls taskId ((positions m calls taskId).insertionSort (· ≤ ·))

/-! ### The fields -/

lemma colon_notMem_indexText (index : ℤ) : ':' ∉ indexText index := by
  have hdigits : ∀ n : ℕ, ':' ∉ Nat.toDigits 10 n := by
    intro n h
    exact absurd (Nat.isDigit_of_mem_toDigits (by decide) (by decide) h) (by decide)
  rw [indexText, Int.toString_eq_repr]
  cases index with
  | ofNat n => simpa [Int.repr] using hdigits n
  | negSucc n => simpa [Int.repr] using hdigits (n + 1)

lemma indexText_injective : Function.Injective indexText := by
  have hminus : ∀ n : ℕ, '-' ∉ Nat.toDigits 10 n := by
    intro n h
    exact absurd (Nat.isDigit_of_mem_toDigits (by decide) (by decide) h) (by decide)
  intro i j h
  rw [indexText, indexText, Int.toString_eq_repr, Int.toString_eq_repr] at h
  cases i with
  | ofNat i =>
    cases j with
    | ofNat j =>
      have hdigits : Nat.toDigits 10 i = Nat.toDigits 10 j := by simpa [Int.repr] using h
      rw [Text.toDigits_injective hdigits]
    | negSucc j =>
      have hdigits : Nat.toDigits 10 i = '-' :: Nat.toDigits 10 (j + 1) := by
        simpa [Int.repr] using h
      exact absurd (by simp [hdigits]) (hminus i)
  | negSucc i =>
    cases j with
    | ofNat j =>
      have hdigits : '-' :: Nat.toDigits 10 (i + 1) = Nat.toDigits 10 j := by
        simpa [Int.repr] using h
      exact absurd (by simp [← hdigits]) (hminus j)
    | negSucc j =>
      have hdigits : Nat.toDigits 10 (i + 1) = Nat.toDigits 10 (j + 1) := by
        simpa [Int.repr] using h
      rw [Nat.succ.inj (Text.toDigits_injective hdigits)]

/-- A field is cut at its last colon, so that the task id may contain colons. -/
lemma writeField_inj {t t' : List Char} {i i' : ℤ} :
    writeField t i = writeField t' i' ↔ t = t' ∧ i = i' := by
  constructor
  · intro h
    have hreverse := congrArg List.reverse h
    simp only [writeField, List.reverse_append, List.reverse_cons, List.append_assoc,
      List.singleton_append] at hreverse
    have hparts := KeyValue.append_sep_inj (by simpa using colon_notMem_indexText i)
      (by simpa using colon_notMem_indexText i') hreverse
    exact ⟨List.reverse_injective hparts.2,
      indexText_injective (List.reverse_injective hparts.1)⟩
  · rintro ⟨rfl, rfl⟩
    rfl

/-- The fields of one task are ordered like the texts of their indexes. -/
lemma writeField_le_iff (t : List Char) (i j : ℤ) :
    writeField t i ≤ writeField t j ↔ indexText i ≤ indexText j := by
  have hcons : ∀ (c : Char) (a b : List Char), c :: a ≤ c :: b ↔ a ≤ b := by
    intro c a b
    rw [← not_lt, ← not_lt]
    exact not_congr List.cons_lt_cons_self
  induction t with
  | nil => exact hcons _ _ _
  | cons c t ih => exact (hcons _ _ _).trans ih

/-! ### One call -/

variable {m serde}

/-- The pipeline goes through the indexed writes of the call. -/
lemma pipelined_eq (hash : WritesHash) (call : WritesCall ν) :
    pipelined m serde hash call = (call.indexed m).filterMap fun w =>
      if 0 ≤ w.1 ∧ hash.hexists (writeField call.taskId w.1) then none
      else some (writeField call.taskId w.1, storedWrite serde call w.2) := by
  rw [WritesCall.indexed, List.filterMap_map]
  rfl

/-- What a call leaves under a field: a position that is taken stays as it is. -/
lemma hget_putWrites (hash : WritesHash) (call : WritesCall ν) (t : List Char) (i : ℤ) :
    (putWrites m serde hash call).hget (writeField t i) =
      let old := hash.hget (writeField t i)
      let new := (call.writeAt m t i).map fun w => storedWrite serde w.1 w.2
      if 0 ≤ i then old.or new else new.or old := by
  rw [putWrites, Hash.hget_foldl_hset, KeyValue.writeAll_apply, KeyValue.lastWrite, pipelined_eq,
    ← List.filterMap_reverse, List.find?_filterMap]
  by_cases htask : call.taskId = t
  · by_cases htaken : 0 ≤ i ∧ hash.hexists (writeField t i)
    · -- no write of the pipeline has this field
      have hnone : ((call.indexed m).reverse.find? fun w => Option.any
          (fun x : List Char × StoredWrite => decide (x.1 = writeField t i))
          (if 0 ≤ w.1 ∧ hash.hexists (writeField call.taskId w.1) then none
            else some (writeField call.taskId w.1, storedWrite serde call w.2))) = none := by
        refine List.find?_eq_none.mpr fun w _ => ?_
        split
        · simp
        · rename_i hfree
          intro h
          have hfield : writeField call.taskId w.1 = writeField t i := by simpa using h
          rw [htask, (writeField_inj.mp hfield).2] at hfree
          exact hfree htaken
      obtain ⟨stored, hstored⟩ := Option.isSome_iff_exists.mp htaken.2
      rw [hnone, hstored]
      simp [htaken.1]
    · have hfind : ((call.indexed m).reverse.find? fun w => Option.any
          (fun x : List Char × StoredWrite => decide (x.1 = writeField t i))
          (if 0 ≤ w.1 ∧ hash.hexists (writeField call.taskId w.1) then none
            else some (writeField call.taskId w.1, storedWrite serde call w.2))) =
          (call.indexed m).reverse.find? fun w => w.1 = i := by
        congr 1
        funext w
        by_cases hi : w.1 = i
        · rw [hi, htask, if_neg htaken]
          simp
        · split
          · simp [hi]
          · simp [hi, writeField_inj]
      have hwritten : ((call.indexed m).reverse.find? fun w => w.1 = i).bind (fun w =>
          if 0 ≤ w.1 ∧ hash.hexists (writeField call.taskId w.1) then none
          else some (writeField call.taskId w.1, storedWrite serde call w.2)) =
          ((call.indexed m).reverse.find? fun w => w.1 = i).map fun w =>
            (writeField t i, storedWrite serde call w.2) := by
        cases hw : (call.indexed m).reverse.find? fun w => w.1 = i with
        | none => rfl
        | some w =>
          have hi : w.1 = i := by simpa using List.find?_some hw
          rw [Option.bind_some, hi, htask, if_neg htaken]
          rfl
      rw [hfind, hwritten, WritesCall.writeAt, if_pos htask, Option.map_map, Option.map_map]
      split
      · rename_i hi
        have hold : hash.hget (writeField t i) = none := by
          rw [← Option.not_isSome_iff_eq_none]
          exact fun h => htaken ⟨hi, h⟩
        rw [hold, Option.or_none]
        rfl
      · rfl
  · have hnone : ((call.indexed m).reverse.find? fun w => Option.any
        (fun x : List Char × StoredWrite => decide (x.1 = writeField t i))
        (if 0 ≤ w.1 ∧ hash.hexists (writeField call.taskId w.1) then none
          else some (writeField call.taskId w.1, storedWrite serde call w.2))) = none := by
      refine List.find?_eq_none.mpr fun w _ => ?_
      split
      · simp
      · simp [writeField_inj, htask]
    rw [hnone, WritesCall.writeAt, if_neg htask]
    simp

/-- A call sets fields of its task only. -/
lemma exists_of_hget_putWrites {hash : WritesHash} {call : WritesCall ν} {field : List Char}
    (h : (putWrites m serde hash call).hget field ≠ none) (hold : hash.hget field = none) :
    ∃ t i, field = writeField t i := by
  rw [putWrites, Hash.hget_foldl_hset, KeyValue.writeAll_apply, hold, Option.or_none] at h
  obtain ⟨item, hitem⟩ := Option.ne_none_iff_exists'.mp h
  obtain ⟨w, hw, -⟩ := Option.map_eq_some_iff.mp hitem
  obtain ⟨hmem, rfl⟩ := KeyValue.lastWrite_eq_some hw
  rw [pipelined_eq, List.mem_filterMap] at hmem
  obtain ⟨x, -, hx⟩ := hmem
  split at hx
  · cases hx
  · obtain rfl := Option.some.inj hx
    exact ⟨_, _, rfl⟩

/-! ### A sequence of calls -/

lemma putAll_append (calls : List (WritesCall ν)) (call : WritesCall ν) :
    putAll m serde (calls ++ [call]) = putWrites m serde (putAll m serde calls) call := by
  rw [putAll, List.foldl_append, List.foldl_cons, List.foldl_nil]
  rfl

/-- A further call changes the write at a position only when there is none yet. -/
lemma winner_append (calls : List (WritesCall ν)) (call : WritesCall ν) (t : List Char) (i : ℤ) :
    winner m (calls ++ [call]) t i =
      if 0 ≤ i then (winner m calls t i).or (call.writeAt m t i)
      else (call.writeAt m t i).or (winner m calls t i) := by
  by_cases hi : 0 ≤ i
  · simp only [winner, if_pos hi, List.findSome?_append, List.findSome?_cons, List.findSome?_nil]
    cases call.writeAt m t i <;> rfl
  · simp only [winner, if_neg hi, List.reverse_append, List.reverse_singleton,
      List.singleton_append, List.findSome?_cons]
    cases call.writeAt m t i <;> rfl

/-- After the calls a field of a task holds the write that should be kept. -/
lemma hget_putAll (calls : List (WritesCall ν)) (t : List Char) (i : ℤ) :
    (putAll m serde calls).hget (writeField t i) =
      (winner m calls t i).map fun w => storedWrite serde w.1 w.2 := by
  induction calls using List.reverseRecOn with
  | nil => simp [putAll, winner]
  | append_singleton calls call ih =>
    rw [putAll_append, hget_putWrites, ih, winner_append]
    by_cases hi : 0 ≤ i
    · simp only [if_pos hi, Option.map_or]
    · simp only [if_neg hi, Option.map_or]

/-- The items of the hash are the writes that should be kept. -/
lemma mem_items_putAll {calls : List (WritesCall ν)} {item : List Char × StoredWrite} :
    item ∈ (putAll m serde calls).items ↔
      ∃ t i w, winner m calls t i = some w ∧
        item = (writeField t i, storedWrite serde w.1 w.2) := by
  have hfield : ∀ calls : List (WritesCall ν), ∀ field,
      (putAll m serde calls).hget field ≠ none → ∃ t i, field = writeField t i := by
    intro calls
    induction calls using List.reverseRecOn with
    | nil => exact fun _ h => absurd rfl h
    | append_singleton calls call ih =>
      intro field h
      rw [putAll_append] at h
      by_cases hold : (putAll m serde calls).hget field = none
      · exact exists_of_hget_putWrites h hold
      · exact ih field hold
  obtain ⟨field, stored⟩ := item
  rw [Hash.mem_items_iff]
  constructor
  · intro h
    obtain ⟨t, i, rfl⟩ := hfield calls field (by simp [h])
    rw [hget_putAll] at h
    obtain ⟨w, hw, rfl⟩ := Option.map_eq_some_iff.mp h
    exact ⟨t, i, w, hw, rfl⟩
  · rintro ⟨t, i, w, hw, hitem⟩
    obtain ⟨rfl, rfl⟩ := Prod.mk.inj hitem
    rw [hget_putAll, hw]
    rfl

/-- A kept write is one of the task, and it has the index. -/
lemma winner_eq_some {calls : List (WritesCall ν)} {t : List Char} {i : ℤ}
    {w : WritesCall ν × List Char × ν} (h : winner m calls t i = some w) :
    w.1.taskId = t ∧ (i, w.2) ∈ w.1.indexed m := by
  have hcall : ∃ call : WritesCall ν, call.writeAt m t i = some w := by
    rw [winner] at h
    split at h
    · obtain ⟨call, -, hw⟩ := List.exists_of_findSome?_eq_some h
      exact ⟨call, hw⟩
    · obtain ⟨call, -, hw⟩ := List.exists_of_findSome?_eq_some h
      exact ⟨call, hw⟩
  obtain ⟨call, hw⟩ := hcall
  rw [WritesCall.writeAt] at hw
  split at hw
  · rename_i htask
    obtain ⟨x, hx, rfl⟩ := Option.map_eq_some_iff.mp hw
    have hi : x.1 = i := by simpa using List.find?_some hx
    have hmem : x ∈ call.indexed m := List.mem_reverse.mp (List.mem_of_find?_eq_some hx)
    exact ⟨htask, hi ▸ hmem⟩
  · cases hw

/-- Something is kept at the indexes at which the calls of the task write. -/
lemma mem_usedIndexes {calls : List (WritesCall ν)} {t : List Char} {i : ℤ} :
    i ∈ usedIndexes m calls t ↔ (winner m calls t i).isSome := by
  have hwrite : ∀ call : WritesCall ν, (call.writeAt m t i).isSome ↔
      call.taskId = t ∧ i ∈ (call.indexed m).map Prod.fst := by
    intro call
    rw [WritesCall.writeAt]
    split
    · rename_i htask
      simp [htask]
    · rename_i htask
      simp [htask]
  have hwinner : (winner m calls t i).isSome ↔ ∃ call ∈ calls, (call.writeAt m t i).isSome := by
    rw [winner]
    split
    · exact List.findSome?_isSome_iff
    · simp [List.findSome?_isSome_iff]
  rw [hwinner, usedIndexes, List.mem_dedup, List.mem_flatMap]
  constructor
  · rintro ⟨call, hcall, hi⟩
    obtain ⟨hmem, htask⟩ := List.mem_filter.mp hcall
    exact ⟨call, hmem, (hwrite call).mpr ⟨of_decide_eq_true htask, hi⟩⟩
  · rintro ⟨call, hmem, hsome⟩
    obtain ⟨htask, hi⟩ := (hwrite call).mp hsome
    exact ⟨call, List.mem_filter.mpr ⟨hmem, decide_eq_true htask⟩, hi⟩

/-- The writes with a negative index are those on the special channels. -/
lemma isSome_get_eq {call : WritesCall ν} {i : ℤ} {w : List Char × ν}
    (h : (i, w) ∈ call.indexed m) : (m.get w.1).isSome = decide (i < 0) := by
  obtain ⟨⟨write, position⟩, -, hw⟩ := List.mem_map.mp h
  obtain ⟨rfl, rfl⟩ := Prod.mk.inj hw
  rw [writeIndex]
  cases hget : m.get write.1 with
  | none => simp
  | some index => simpa using m.negative _ _ hget

/-! ### Reading -/

variable (m serde)

/-- The items of the kept writes of a task at these indexes. -/
def keptItems (calls : List (WritesCall ν)) (t : List Char) (indexes : List ℤ) :
    List (List Char × StoredWrite) :=
  indexes.filterMap fun i =>
    (winner m calls t i).map fun w => (writeField t i, storedWrite serde w.1 w.2)

variable {m serde}

/-- A stored write is read back. -/
lemma map_loadWrite_keptItems (serde : Serde ν) (calls : List (WritesCall ν)) (t : List Char)
    (indexes : List ℤ) :
    (keptItems m serde calls t indexes).map (fun item => loadWrite serde item.2) =
      kept m calls t indexes := by
  rw [keptItems, List.map_filterMap, kept]
  congr 1
  funext i
  rw [Option.map_map]
  cases hw : winner m calls t i with
  | none => rfl
  | some w =>
    have hload : loadWrite serde (storedWrite serde w.1 w.2) = ⟨t, w.2.1, w.2.2⟩ := by
      simp only [loadWrite, storedWrite, latin1Encode_decode, (winner_eq_some hw).1]
      rw [serde.loads_dumps]
    exact congrArg some hload

/-- The items of the writes of a task on ordinary or on special channels. -/
lemma perm_keptItems {calls : List (WritesCall ν)} {raw : List (List Char × StoredWrite)}
    (hraw : raw.Perm (putAll m serde calls).items) (t : List Char) (special : Bool)
    (indexes : List ℤ) (hnodup : indexes.Nodup)
    (hindexes : ∀ i, i ∈ indexes ↔ i ∈ usedIndexes m calls t ∧ decide (i < 0) = special) :
    (raw.filter fun item => item.2.taskId = t ∧ (m.get item.2.channel).isSome = special).Perm
      (keptItems m serde calls t indexes) := by
  have hitems : raw.Nodup := hraw.nodup_iff.mpr (putAll m serde calls).nodup.of_map
  have hkept : (keptItems m serde calls t indexes).Nodup := by
    refine hnodup.filterMap fun i j item hi hj => ?_
    obtain ⟨w, -, hw⟩ := Option.map_eq_some_iff.mp hi
    obtain ⟨w', -, hw'⟩ := Option.map_eq_some_iff.mp hj
    exact (writeField_inj.mp (congrArg Prod.fst (hw.trans hw'.symm))).2
  refine (List.perm_ext_iff_of_nodup (hitems.filter _) hkept).mpr fun item => ?_
  rw [List.mem_filter, hraw.mem_iff, mem_items_putAll, keptItems, List.mem_filterMap]
  constructor
  · rintro ⟨⟨t', i, w, hw, rfl⟩, hitem⟩
    obtain ⟨htask, hspecial⟩ := of_decide_eq_true hitem
    obtain ⟨htask', hmem⟩ := winner_eq_some hw
    obtain rfl : t' = t := htask'.symm.trans htask
    have hused : i ∈ usedIndexes m calls t' := mem_usedIndexes.mpr (by rw [hw]; rfl)
    have hsign : decide (i < 0) = special := (isSome_get_eq hmem).symm.trans hspecial
    exact ⟨i, (hindexes i).mpr ⟨hused, hsign⟩, by rw [hw]; rfl⟩
  · rintro ⟨i, hi, hitem⟩
    obtain ⟨w, hw, rfl⟩ := Option.map_eq_some_iff.mp hitem
    obtain ⟨htask, hmem⟩ := winner_eq_some hw
    exact ⟨⟨t, i, w, hw, rfl⟩,
      decide_eq_true ⟨htask, (isSome_get_eq hmem).trans ((hindexes i).mp hi).2⟩⟩

/-- What is loaded for a task on ordinary or on special channels. -/
lemma ofTask_loadWrites (raw : List (List Char × StoredWrite)) (t : List Char) (special : Bool) :
    ofTask m (loadWrites serde raw) t special =
      ((raw.insertionSort fun a b => a.1 ≤ b.1).filter fun item =>
        item.2.taskId = t ∧ (m.get item.2.channel).isSome = special).map
        fun item => loadWrite serde item.2 := by
  rw [ofTask, loadWrites, List.filter_map]
  rfl

/-- The ordinary writes of a task come back in the order of the texts of their positions. -/
lemma ofTask_loadWrites_false {calls : List (WritesCall ν)}
    {raw : List (List Char × StoredWrite)} (hraw : raw.Perm (putAll m serde calls).items)
    (t : List Char) :
    ofTask m (loadWrites serde raw) t false =
      kept m calls t
        ((positions m calls t).insertionSort fun i j => indexText i ≤ indexText j) := by
  let byField : List Char × StoredWrite → List Char × StoredWrite → Prop := fun a b => a.1 ≤ b.1
  let byText : ℤ → ℤ → Prop := fun i j => indexText i ≤ indexText j
  have : Std.Total byField := ⟨fun a b => le_total a.1 b.1⟩
  have : IsTrans _ byField := ⟨fun a b c => le_trans⟩
  have : Std.Total byText := ⟨fun i j => le_total (indexText i) (indexText j)⟩
  have : IsTrans _ byText := ⟨fun i j k => le_trans⟩
  have hpositions : ((positions m calls t).insertionSort byText).Perm (positions m calls t) :=
    List.perm_insertionSort _ _
  have hsorted : (raw.insertionSort byField).Perm (putAll m serde calls).items :=
    (List.perm_insertionSort _ _).trans hraw
  have hperm := perm_keptItems hsorted t false ((positions m calls t).insertionSort byText)
    (hpositions.nodup_iff.mpr ((List.nodup_dedup _).filter _)) fun i => by
      rw [hpositions.mem_iff, positions, List.mem_filter]
      simp
  rw [ofTask_loadWrites, ← map_loadWrite_keptItems serde]
  congr 1
  have hleft : ((raw.insertionSort byField).filter fun item =>
      item.2.taskId = t ∧ (m.get item.2.channel).isSome = false).Pairwise byField :=
    (List.pairwise_insertionSort byField raw).sublist List.filter_sublist
  have hright : (keptItems m serde calls t
      ((positions m calls t).insertionSort byText)).Pairwise byField := by
    refine (List.pairwise_insertionSort byText _).filterMap _ ?_
    intro i j hij a ha b hb
    obtain ⟨w, -, rfl⟩ := Option.map_eq_some_iff.mp ha
    obtain ⟨w', -, rfl⟩ := Option.map_eq_some_iff.mp hb
    exact (writeField_le_iff t i j).mpr hij
  refine List.Perm.eq_of_pairwise ?_ hleft hright hperm
  -- two items of the hash with the same field are the same
  intro a b ha hb hab hba
  have hmem : ∀ item ∈ (raw.insertionSort byField).filter (fun item =>
      item.2.taskId = t ∧ (m.get item.2.channel).isSome = false),
      item ∈ (putAll m serde calls).items :=
    fun item h => hsorted.mem_iff.mp (List.mem_filter.mp h).1
  exact List.inj_on_of_nodup_map (putAll m serde calls).nodup (hmem a ha)
    (hmem b (hperm.mem_iff.mpr hb)) (le_antisymm hab hba)

/-- The special writes of a task come back. -/
lemma ofTask_loadWrites_true {calls : List (WritesCall ν)}
    {raw : List (List Char × StoredWrite)} (hraw : raw.Perm (putAll m serde calls).items)
    (t : List Char) :
    (ofTask m (loadWrites serde raw) t true).Perm (kept m calls t (specials m calls t)) := by
  have hsorted := (List.perm_insertionSort (fun a b => a.1 ≤ b.1) raw).trans hraw
  have hperm := perm_keptItems hsorted t true (specials m calls t)
    ((List.nodup_dedup _).filter _) fun i => by
      rw [specials, List.mem_filter]
  rw [ofTask_loadWrites, ← map_loadWrite_keptItems serde]
  exact hperm.map _

/-- The pending writes of a sequence of calls come back in order if and only if the order of the
texts of the positions agrees with that of the numbers. -/
theorem loadsInOrder_iff (m : WritesIdxMap) (serde : Serde ν) (calls : List (WritesCall ν)) :
    LoadsInOrder m serde calls ↔ TextOrderAgrees m calls := by
  constructor
  · intro h t
    rw [← ofTask_loadWrites_false (List.Perm.refl _)]
    exact (h _ (List.Perm.refl _) t).1
  · intro h raw hraw t
    exact ⟨(ofTask_loadWrites_false hraw t).trans (h t), ofTask_loadWrites_true hraw t⟩

/-! ### Up to ten writes -/

/-- The order of the texts agrees when no call has more than ten writes. -/
theorem textOrderAgrees_of_length_le {calls : List (WritesCall ν)}
    (h : ∀ call ∈ calls, call.writes.length ≤ 10) : TextOrderAgrees m calls := by
  intro t
  let byText : ℤ → ℤ → Prop := fun i j => indexText i ≤ indexText j
  have : Std.Total byText := ⟨fun i j => le_total (indexText i) (indexText j)⟩
  have : IsTrans _ byText := ⟨fun i j k => le_trans⟩
  have hbound : ∀ i ∈ positions m calls t, 0 ≤ i ∧ i < 10 := by
    intro i hi
    obtain ⟨hused, hpos⟩ := List.mem_filter.mp hi
    have hpos : 0 ≤ i := of_decide_eq_true hpos
    obtain ⟨call, hcall, hindexed⟩ := List.mem_flatMap.mp (List.mem_dedup.mp hused)
    obtain ⟨w, hw, rfl⟩ := List.mem_map.mp hindexed
    obtain ⟨⟨write, position⟩, hmem, rfl⟩ := List.mem_map.mp hw
    have hlength := h call (List.mem_filter.mp hcall).1
    have hposition : position < call.writes.length := by
      have := List.snd_lt_of_mem_zipIdx hmem
      omega
    have hindex : writeIndex m write.1 position = position := by
      cases hget : m.get write.1 with
      | none => simp [writeIndex, hget]
      | some index =>
        have hneg := m.negative _ _ hget
        simp only [writeIndex, hget, Option.getD_some] at hpos
        omega
    simp only [hindex]
    omega
  have hdigits : ∀ i : Fin 10, ∀ j : Fin 10, i ≤ j →
      indexText (i.val : ℤ) ≤ indexText (j.val : ℤ) := by
    decide +kernel
  have hmono : ∀ i ∈ positions m calls t, ∀ j ∈ positions m calls t, i ≤ j → byText i j := by
    intro i hi j hj hij
    obtain ⟨hi0, hi10⟩ := hbound i hi
    obtain ⟨hj0, hj10⟩ := hbound j hj
    have htext := hdigits ⟨i.toNat, by omega⟩ ⟨j.toNat, by omega⟩ (by
      rw [Fin.mk_le_mk]
      omega)
    rwa [Int.toNat_of_nonneg hi0, Int.toNat_of_nonneg hj0] at htext
  have hnumbers : ((positions m calls t).insertionSort (· ≤ ·)).Perm (positions m calls t) :=
    List.perm_insertionSort _ _
  have htexts : ((positions m calls t).insertionSort byText).Pairwise byText :=
    List.pairwise_insertionSort _ _
  have hsorted : ((positions m calls t).insertionSort (· ≤ ·)).Pairwise byText :=
    (List.pairwise_insertionSort _ _).imp_of_mem fun hi hj hij =>
      hmono _ (hnumbers.mem_iff.mp hi) _ (hnumbers.mem_iff.mp hj) hij
  have hanti : ∀ i j : ℤ, byText i j → byText j i → i = j := fun i j hij hji =>
    indexText_injective (le_antisymm hij hji)
  have heq : (positions m calls t).insertionSort byText =
      (positions m calls t).insertionSort (· ≤ ·) :=
    List.Perm.eq_of_pairwise (fun i j _ _ => hanti i j) htexts hsorted
      ((List.perm_insertionSort _ _).trans hnumbers.symm)
  exact congrArg (kept m calls t) heq

/-! ### Eleven writes -/

/-- The special channels of LangGraph. -/
def langgraphIdxMap : WritesIdxMap where
  get channel :=
    if channel = "__error__".toList then some (-1)
    else if channel = "__scheduled__".toList then some (-2)
    else if channel = "__interrupt__".toList then some (-3)
    else if channel = "__resume__".toList then some (-4)
    else none
  negative channel index h := by
    split at h
    · cases h; decide
    split at h
    · cases h; decide
    split at h
    · cases h; decide
    split at h
    · cases h; decide
    · cases h

/-- The serializer on values of the type `bytes`. -/
def bytesSerde : Serde (List UInt8) where
  dumpsTyped value := ("bytes".toList, value)
  loadsTyped stored := stored.2
  loads_dumps _ := rfl

/-- One call with eleven writes. -/
def elevenWrites : WritesCall (List UInt8) where
  taskId := "t".toList
  taskPath := []
  writes := [0, 1, 2, 3, 4, 5, 6, 7, 8, 9, 10].map fun n => ("messages".toList, [n])

/-- The eleventh write comes back as the third one. -/
theorem not_loadsInOrder_elevenWrites :
    ¬ LoadsInOrder langgraphIdxMap bytesSerde [elevenWrites] := by
  intro h
  have hloaded := (h _ (List.Perm.refl _) "t".toList).1
  revert hloaded
  decide +kernel

end EcommerceAgent.Runtime
