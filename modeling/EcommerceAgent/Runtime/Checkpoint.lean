/-
# The checkpoint store

`RedisCheckpointSaver` of `agent/subagent/checkpoint.py`.  A checkpoint is split into a row and one
blob for every channel that changed; rows, blobs and the index of a thread live in one key space,
and a reader puts a checkpoint together from the row and from the blobs that the versions in the
row name.  The bodies of `put` and `aput`, and of `get_tuple` and `aget_tuple`, are the same.
Pending writes have keys of their own and are left out.
-/
import EcommerceAgent.Lib.KeyValue
import EcommerceAgent.Lib.Runs
import EcommerceAgent.Lib.Text

open EcommerceAgent.Lib

namespace EcommerceAgent.Runtime

/-- A channel version as LangGraph hands it over. -/
inductive Version
  | int (n : ℤ)
  | str (s : List Char)
deriving DecidableEq, Repr

/-- `f"{version}"`. -/
def Version.format : Version → List Char
  | .int n => (toString n).toList
  | .str s => s

/-- The prefix of the constructor, without colons at its end. -/
def keyPrefix : List Char := Text.rstripChar ':' "ecommerce_agent:checkpoint".toList

/-- `_checkpoint_key`. -/
def checkpointKey (threadId checkpointNs checkpointId : List Char) : List Char :=
  KeyValue.join ':' [keyPrefix, "ckpt".toList, threadId, checkpointNs, checkpointId]

/-- `_checkpoint_index_key`. -/
def checkpointIndexKey (threadId checkpointNs : List Char) : List Char :=
  KeyValue.join ':' [keyPrefix, "index".toList, threadId, checkpointNs]

/-- `_blob_key`. -/
def blobKey (threadId checkpointNs channel : List Char) (version : Version) : List Char :=
  KeyValue.join ':' [keyPrefix, "blob".toList, threadId, checkpointNs, channel, version.format]

/-- The entries of a checkpoint's row; `fields` stands for the entries of the checkpoint other than
its id, its channel versions and its channel values. -/
structure CheckpointRow (ρ μ : Type) where
  checkpointId : List Char
  channelVersions : List Char → Option Version
  fields : ρ
  metadata : μ
  parentCheckpointId : List Char

/-- What Redis stores under a key.  A blob without value has the type `empty`; the members of an
index have the time of their put as score. -/
inductive RedisValue (ν ρ μ : Type)
  | checkpoint (row : CheckpointRow ρ μ)
  | blob (value : Option ν)
  | index (members : List (List Char × ℕ))

/-- The key space. -/
abbrev Redis (ν ρ μ : Type) := List Char → Option (RedisValue ν ρ μ)

/-- The arguments of a call of `put`, and its time.  `checkpoint_id` of the config is the parent's
id.  LangGraph gives a version to every channel that has a value, and `new_versions` is a part of
the checkpoint's versions.  `metadata` is the value of `get_checkpoint_metadata(config, metadata)`.
-/
structure CheckpointPut (ν ρ μ : Type) where
  threadId : List Char
  checkpointNs : List Char
  parentId : Option (List Char)
  checkpointId : List Char
  channelValues : List Char → Option ν
  channelVersions : List Char → Option Version
  fields : ρ
  metadata : μ
  newVersions : List (List Char × Version)
  time : ℕ
  versioned : ∀ c, channelVersions c = none → channelValues c = none
  listed : ∀ cv ∈ newVersions, channelVersions cv.1 = some cv.2

/-- What `get_tuple` returns, with its own arguments left out. -/
structure CheckpointTuple (ν ρ μ : Type) where
  checkpointId : List Char
  channelValues : List Char → Option ν
  channelVersions : List Char → Option Version
  fields : ρ
  metadata : μ
  parentId : Option (List Char)

variable {ν ρ μ : Type}

namespace CheckpointPut

variable (p : CheckpointPut ν ρ μ)

/-- The address of a checkpoint. -/
def triple : List Char × List Char × List Char := (p.threadId, p.checkpointNs, p.checkpointId)

/-- The key of the row. -/
def rowKey : List Char := checkpointKey p.threadId p.checkpointNs p.checkpointId

/-- The key of the blob of a channel. -/
def channelKey (cv : List Char × Version) : List Char :=
  blobKey p.threadId p.checkpointNs cv.1 cv.2

/-- The row that is stored. -/
def row : CheckpointRow ρ μ where
  checkpointId := p.checkpointId
  channelVersions := p.channelVersions
  fields := p.fields
  metadata := p.metadata
  parentCheckpointId := p.parentId.getD []

/-- The checkpoint that a reader should get back; an empty parent id is no parent. -/
def tuple : CheckpointTuple ν ρ μ where
  checkpointId := p.checkpointId
  channelValues := p.channelValues
  channelVersions := p.channelVersions
  fields := p.fields
  metadata := p.metadata
  parentId := p.parentId.filter (· ≠ [])

end CheckpointPut

namespace Redis

/-- `zadd` of one member. -/
def zadd (member : List Char) (score : ℕ) : Option (RedisValue ν ρ μ) → RedisValue ν ρ μ
  | some (.index members) => .index (members.filter (·.1 ≠ member) ++ [(member, score)])
  | _ => .index [(member, score)]

/-- `put` and `aput`. -/
def put (redis : Redis ν ρ μ) (p : CheckpointPut ν ρ μ) : Redis ν ρ μ :=
  let blobs := KeyValue.writeAll p.channelKey (fun cv => .blob (p.channelValues cv.1)) redis
    p.newVersions
  let rows := Function.update blobs p.rowKey (some (.checkpoint p.row))
  let indexKey := checkpointIndexKey p.threadId p.checkpointNs
  Function.update rows indexKey (some (zadd p.checkpointId p.time (rows indexKey)))

/-- The member with the highest score, the last one in the order of texts among equals. -/
def newest : List (List Char × ℕ) → Option (List Char × ℕ)
  | [] => none
  | m :: ms =>
    match newest ms with
    | none => some m
    | some best => if best.2 < m.2 ∨ best.2 = m.2 ∧ best.1 < m.1 then some m else some best

/-- `zrevrange(…, 0, 0)` of an index. -/
def latest (redis : Redis ν ρ μ) (threadId checkpointNs : List Char) : Option (List Char) :=
  match redis (checkpointIndexKey threadId checkpointNs) with
  | some (.index members) => (newest members).map Prod.fst
  | _ => none

/-- The row under a key. -/
def loadRow (redis : Redis ν ρ μ) (key : List Char) : Option (CheckpointRow ρ μ) :=
  match redis key with
  | some (.checkpoint row) => some row
  | _ => none

/-- One turn of the loop of `_load_blobs`. -/
def loadBlob (redis : Redis ν ρ μ) (key : List Char) : Option ν :=
  match redis key with
  | some (.blob value) => value
  | _ => none

/-- `_load_blobs`. -/
def loadBlobs (redis : Redis ν ρ μ) (threadId checkpointNs : List Char)
    (versions : List Char → Option Version) (channel : List Char) : Option ν :=
  (versions channel).bind fun version =>
    redis.loadBlob (blobKey threadId checkpointNs channel version)

/-- The last part of `get_tuple`, with a row. -/
def assemble (redis : Redis ν ρ μ) (threadId checkpointNs : List Char) (row : CheckpointRow ρ μ) :
    CheckpointTuple ν ρ μ where
  checkpointId := row.checkpointId
  channelValues := redis.loadBlobs threadId checkpointNs row.channelVersions
  channelVersions := row.channelVersions
  fields := row.fields
  metadata := row.metadata
  parentId := if row.parentCheckpointId = [] then none else some row.parentCheckpointId

/-- `get_tuple` and `aget_tuple`; without a checkpoint id the latest checkpoint is read. -/
def getTuple (redis : Redis ν ρ μ) (threadId checkpointNs checkpointId : List Char) :
    Option (CheckpointTuple ν ρ μ) :=
  let wanted := if checkpointId = [] then redis.latest threadId checkpointNs else some checkpointId
  wanted.bind fun id =>
    (redis.loadRow (checkpointKey threadId checkpointNs id)).map
      (redis.assemble threadId checkpointNs)

end Redis

/-! ### The three kinds of keys -/

lemma checkpointKey_ne_blobKey (t n i t' n' c : List Char) (v : Version) :
    checkpointKey t n i ≠ blobKey t' n' c v := by
  intro h
  have := List.append_cancel_left h
  simp [KeyValue.join] at this

lemma checkpointKey_ne_indexKey (t n i t' n' : List Char) :
    checkpointKey t n i ≠ checkpointIndexKey t' n' := by
  intro h
  have := List.append_cancel_left h
  simp [KeyValue.join] at this

lemma blobKey_ne_indexKey (t n c : List Char) (v : Version) (t' n' : List Char) :
    blobKey t n c v ≠ checkpointIndexKey t' n' := by
  intro h
  have := List.append_cancel_left h
  simp [KeyValue.join] at this

namespace Redis

variable {redis : Redis ν ρ μ} {p q : CheckpointPut ν ρ μ}

/-- The value that a put writes for the channels with this key, if it writes one: that of the last
channel listed in `new_versions`. -/
def written (p : CheckpointPut ν ρ μ) (key : List Char) : Option (Option ν) :=
  (KeyValue.lastWrite p.channelKey p.newVersions key).map fun cv => p.channelValues cv.1

/-- A put changes the row of a checkpoint only when the checkpoint has the key of the put. -/
lemma loadRow_put (redis : Redis ν ρ μ) (p q : CheckpointPut ν ρ μ) :
    (redis.put p).loadRow q.rowKey =
      if q.rowKey = p.rowKey then some p.row else redis.loadRow q.rowKey := by
  have hindex : q.rowKey ≠ checkpointIndexKey p.threadId p.checkpointNs :=
    checkpointKey_ne_indexKey _ _ _ _ _
  unfold loadRow put
  rw [Function.update_of_ne hindex]
  by_cases hkey : q.rowKey = p.rowKey
  · rw [if_pos hkey, hkey, Function.update_self]
  · have hnone : KeyValue.lastWrite p.channelKey p.newVersions q.rowKey = none :=
      KeyValue.lastWrite_eq_none fun cv _ => (checkpointKey_ne_blobKey _ _ _ _ _ _ _).symm
    rw [if_neg hkey, Function.update_of_ne hkey, KeyValue.writeAll_apply, hnone]
    rfl

/-- A put changes the blob of a channel only when it writes a channel with the same key. -/
lemma loadBlob_put (redis : Redis ν ρ μ) (p q : CheckpointPut ν ρ μ)
    (cv : List Char × Version) :
    (redis.put p).loadBlob (q.channelKey cv) =
      (written p (q.channelKey cv)).getD (redis.loadBlob (q.channelKey cv)) := by
  have hrow : q.channelKey cv ≠ p.rowKey := (checkpointKey_ne_blobKey _ _ _ _ _ _ _).symm
  have hindex : q.channelKey cv ≠ checkpointIndexKey p.threadId p.checkpointNs :=
    blobKey_ne_indexKey _ _ _ _ _ _
  unfold loadBlob put written
  rw [Function.update_of_ne hindex, Function.update_of_ne hrow, KeyValue.writeAll_apply]
  cases KeyValue.lastWrite p.channelKey p.newVersions (q.channelKey cv) with
  | none => rfl
  | some cv => rfl

/-- A channel that a put lists is written. -/
lemma written_isSome {cv : List Char × Version} (h : cv ∈ p.newVersions) :
    (written p (p.channelKey cv)).isSome := by
  rw [written, Option.isSome_map]
  exact KeyValue.lastWrite_isSome h

/-- The parent of a put survives being stored as a text. -/
lemma parent_stored (stored : List Char) (parentId : Option (List Char)) :
    (if stored = [] then none else some stored) = parentId.filter (· ≠ []) ↔
      stored = parentId.getD [] := by
  cases parentId with
  | none => by_cases h : stored = [] <;> simp [h]
  | some parent =>
    by_cases h : stored = []
    · by_cases h' : parent = [] <;> simp [h, h', Option.filter, eq_comm]
    · by_cases h' : parent = [] <;> simp [h, h', Option.filter]

/-- The row of a checkpoint gives back the checkpoint's own entries. -/
lemma assemble_eq_tuple_iff {row : CheckpointRow ρ μ} :
    redis.assemble q.threadId q.checkpointNs row = q.tuple ↔
      row = q.row ∧ redis.loadBlobs q.threadId q.checkpointNs q.channelVersions =
        q.channelValues := by
  obtain ⟨id, versions, fields, metadata, parent⟩ := row
  simp only [assemble, CheckpointPut.tuple, CheckpointPut.row, CheckpointTuple.mk.injEq,
    CheckpointRow.mk.injEq, parent_stored]
  constructor
  · rintro ⟨hid, hvalues, hversions, hfields, hmetadata, hparent⟩
    exact ⟨⟨hid, hversions, hfields, hmetadata, hparent⟩, hversions ▸ hvalues⟩
  · rintro ⟨⟨hid, hversions, hfields, hmetadata, hparent⟩, hvalues⟩
    exact ⟨hid, hversions ▸ hvalues, hversions, hfields, hmetadata, hparent⟩

/-- A checkpoint is read back when its row is there and the blobs that its versions name hold its
channel values. -/
lemma getTuple_eq_tuple_iff (hid : q.checkpointId ≠ []) :
    redis.getTuple q.threadId q.checkpointNs q.checkpointId = some q.tuple ↔
      redis.loadRow q.rowKey = some q.row ∧
      ∀ c v, q.channelVersions c = some v →
        redis.loadBlob (q.channelKey (c, v)) = q.channelValues c := by
  have hread : redis.getTuple q.threadId q.checkpointNs q.checkpointId =
      (redis.loadRow q.rowKey).map (redis.assemble q.threadId q.checkpointNs) := by
    rw [getTuple, if_neg hid]
    rfl
  have hblobs : redis.loadBlobs q.threadId q.checkpointNs q.channelVersions = q.channelValues ↔
      ∀ c v, q.channelVersions c = some v →
        redis.loadBlob (q.channelKey (c, v)) = q.channelValues c := by
    constructor
    · intro h c v hv
      rw [← h, loadBlobs, hv]
      rfl
    · intro h
      funext c
      cases hv : q.channelVersions c with
      | none =>
        rw [loadBlobs, hv, q.versioned c hv]
        rfl
      | some v =>
        rw [loadBlobs, hv]
        exact h c v hv
  rw [hread, Option.map_eq_some_iff]
  constructor
  · rintro ⟨row, hrow, hrest⟩
    obtain ⟨rfl, hvalues⟩ := assemble_eq_tuple_iff.mp hrest
    exact ⟨hrow, hblobs.mp hvalues⟩
  · rintro ⟨hrow, hvalues⟩
    exact ⟨q.row, hrow, assemble_eq_tuple_iff.mpr ⟨rfl, hblobs.mpr hvalues⟩⟩

end Redis

/-! ### Histories of puts -/

/-- The key space and all puts so far, the latest one first. -/
structure CheckpointStore (ν ρ μ : Type) where
  redis : Redis ν ρ μ
  log : List (CheckpointPut ν ρ μ)

namespace CheckpointStore

/-- The store before the first put. -/
def init : CheckpointStore ν ρ μ := ⟨fun _ => none, []⟩

/-- One put. -/
def step (s : CheckpointStore ν ρ μ) (p : CheckpointPut ν ρ μ) : CheckpointStore ν ρ μ :=
  ⟨s.redis.put p, p :: s.log⟩

variable (s : CheckpointStore ν ρ μ) (p : CheckpointPut ν ρ μ)

/-- The put is the last one of its checkpoint, and the checkpoint can be asked for by its id. -/
def Current : Prop :=
  s.log.find? (fun q => q.triple = p.triple) = some p ∧ p.checkpointId ≠ []

/-- Every checkpoint is read back as its last put stored it. -/
def RoundTrip : Prop :=
  ∀ q, s.Current q →
    s.redis.getTuple q.threadId q.checkpointNs q.checkpointId = some q.tuple

/-- The put lists the channels that it changes: every other channel has the version and the value
that it has in the parent checkpoint. -/
def ListsChanges : Prop :=
  ∀ c v, p.channelVersions c = some v → (c, v) ∈ p.newVersions ∨
    ∃ q, s.Current q ∧ q.threadId = p.threadId ∧ q.checkpointNs = p.checkpointNs ∧
      p.parentId = some q.checkpointId ∧ q.channelVersions c = some v ∧
      q.channelValues c = p.channelValues c

/-- The put shares its keys only with checkpoints that agree with it: a checkpoint whose row has the
same key has the same row, and a checkpoint with a channel whose blob has the key of a listed
channel has the value of this channel there. -/
structure KeepsKeys : Prop where
  row : ∀ q, (s.step p).Current q → q.rowKey = p.rowKey → q.row = p.row
  blob : ∀ q, (s.step p).Current q → ∀ c v, q.channelVersions c = some v →
    ∀ value, Redis.written p (q.channelKey (c, v)) = some value → value = q.channelValues c

variable {s p}

lemma roundTrip_init : (init : CheckpointStore ν ρ μ).RoundTrip := by
  rintro q ⟨hq, -⟩
  cases hq

/-- The last put of a checkpoint is the new one or it was the last one before. -/
lemma Current.step {q : CheckpointPut ν ρ μ} (h : (s.step p).Current q) : q = p ∨ s.Current q := by
  obtain ⟨hfind, hid⟩ := h
  simp only [CheckpointStore.step, List.find?_cons] at hfind
  split at hfind
  · exact .inl (Option.some.inj hfind).symm
  · exact .inr ⟨hfind, hid⟩

/-- A put keeps the store readable exactly when it shares its keys only with checkpoints that agree
with it. -/
lemma roundTrip_step (h : s.RoundTrip) (hp : s.ListsChanges p) :
    (s.step p).RoundTrip ↔ s.KeepsKeys p := by
  constructor
  · intro hnext
    refine ⟨fun q hq hkey => ?_, fun q hq c v hv value hwritten => ?_⟩
    · have hrow := ((Redis.getTuple_eq_tuple_iff hq.2).mp (hnext q hq)).1
      have hput := Redis.loadRow_put s.redis p q
      rw [if_pos hkey] at hput
      exact Option.some.inj (hrow.symm.trans hput)
    · have hblob := ((Redis.getTuple_eq_tuple_iff hq.2).mp (hnext q hq)).2 c v hv
      have hput := Redis.loadBlob_put s.redis p q (c, v)
      rw [hwritten] at hput
      exact (hblob.symm.trans hput).symm
  · intro hkeeps q hq
    have hold : s.Current q → s.redis.loadRow q.rowKey = some q.row ∧
        ∀ c v, q.channelVersions c = some v →
          s.redis.loadBlob (q.channelKey (c, v)) = q.channelValues c :=
      fun hcurrent => (Redis.getTuple_eq_tuple_iff hq.2).mp (h q hcurrent)
    refine (Redis.getTuple_eq_tuple_iff hq.2).mpr ⟨?_, fun c v hv => ?_⟩
    · have hput := Redis.loadRow_put s.redis p q
      by_cases hkey : q.rowKey = p.rowKey
      · rw [if_pos hkey] at hput
        rw [hkeeps.row q hq hkey]
        exact hput
      · rw [if_neg hkey] at hput
        rcases hq.step with rfl | hcurrent
        · exact absurd rfl hkey
        · exact hput.trans (hold hcurrent).1
    · have hput := Redis.loadBlob_put s.redis p q (c, v)
      refine hput.trans ?_
      cases hwritten : Redis.written p (q.channelKey (c, v)) with
      | some value => exact hkeeps.blob q hq c v hv value hwritten
      | none =>
        rcases hq.step with rfl | hcurrent
        · rcases hp c v hv with hlisted | ⟨parent, hcurrent, hthread, hns, -, hversion, hvalue⟩
          · have := Redis.written_isSome hlisted
            rw [hwritten] at this
            cases this
          · have hparent := (Redis.getTuple_eq_tuple_iff hcurrent.2).mp (h parent hcurrent)
            have hread := hparent.2 c v hversion
            rw [CheckpointPut.channelKey, hthread, hns, hvalue] at hread
            exact hread
        · exact (hold hcurrent).2 c v hv

/-- In a history of puts that list the channels they change, every checkpoint can be read back as
it was last stored, after every put, if and only if every put shares its keys only with
checkpoints that agree with it. -/
theorem always_roundTrip_iff (puts : List (CheckpointPut ν ρ μ))
    (hputs : Along step ListsChanges init puts) :
    (∀ ps, ps <+: puts → (run step init ps).RoundTrip) ↔ Along step KeepsKeys init puts :=
  always_iff_along_of (fun _ _ h hp => roundTrip_step h hp) roundTrip_init puts hputs

/-! ### Where no keys are shared -/

/-- No part of the put's keys contains a colon. -/
structure ColonFree (p : CheckpointPut ν ρ μ) : Prop where
  threadId : ':' ∉ p.threadId
  checkpointNs : ':' ∉ p.checkpointNs
  checkpointId : ':' ∉ p.checkpointId
  channel : ∀ c v, p.channelVersions c = some v → ':' ∉ c ∧ ':' ∉ v.format

/-- The two keys of one kind have equal parts. -/
lemma join_prefix_inj (xs ys : List (List Char)) (hx : xs ≠ []) (hy : ys ≠ [])
    (hlength : xs.length = ys.length) (hxs : ∀ x ∈ xs, ':' ∉ x) (hys : ∀ y ∈ ys, ':' ∉ y)
    (h : KeyValue.join ':' (keyPrefix :: xs) = KeyValue.join ':' (keyPrefix :: ys)) : xs = ys := by
  rw [KeyValue.join_cons _ hx, KeyValue.join_cons _ hy] at h
  exact KeyValue.join_inj hlength hxs hys (List.cons_inj_right _ |>.mp (List.append_cancel_left h))

lemma ColonFree.rowKey_inj {q : CheckpointPut ν ρ μ} (hp : ColonFree p) (hq : ColonFree q)
    (h : q.rowKey = p.rowKey) : q.triple = p.triple := by
  have hparts := join_prefix_inj
    ["ckpt".toList, q.threadId, q.checkpointNs, q.checkpointId]
    ["ckpt".toList, p.threadId, p.checkpointNs, p.checkpointId] (by simp) (by simp) rfl
    (by simp [hq.threadId, hq.checkpointNs, hq.checkpointId])
    (by simp [hp.threadId, hp.checkpointNs, hp.checkpointId]) h
  simpa [CheckpointPut.triple] using hparts

lemma ColonFree.channelKey_inj {q : CheckpointPut ν ρ μ} (hp : ColonFree p) (hq : ColonFree q)
    (cv cw : List Char × Version) (hcv : q.channelVersions cv.1 = some cv.2)
    (hcw : p.channelVersions cw.1 = some cw.2) (h : q.channelKey cv = p.channelKey cw) :
    q.threadId = p.threadId ∧ q.checkpointNs = p.checkpointNs ∧ cv.1 = cw.1 ∧
      cv.2.format = cw.2.format := by
  have hparts := join_prefix_inj
    ["blob".toList, q.threadId, q.checkpointNs, cv.1, cv.2.format]
    ["blob".toList, p.threadId, p.checkpointNs, cw.1, cw.2.format] (by simp) (by simp) rfl
    (by simp [hq.threadId, hq.checkpointNs, hq.channel _ _ hcv])
    (by simp [hp.threadId, hp.checkpointNs, hp.channel _ _ hcw]) h
  simpa using hparts

/-- Without colons in the ids and with versions that no other checkpoint of the thread uses for the
channel, a put shares no keys. -/
theorem KeepsKeys.of_fresh (hp : ColonFree p) (hlog : ∀ q ∈ s.log, ColonFree q)
    (hfresh : ∀ q, s.Current q → q.threadId = p.threadId → q.checkpointNs = p.checkpointNs →
      ∀ cv ∈ p.newVersions, ∀ v, q.channelVersions cv.1 = some v → v.format ≠ cv.2.format) :
    s.KeepsKeys p := by
  have hfree : ∀ q, (s.step p).Current q → ColonFree q := by
    intro q hq
    rcases hq.step with rfl | hcurrent
    · exact hp
    · exact hlog q (List.mem_of_find?_eq_some hcurrent.1)
  constructor
  · intro q hq hkey
    have htriple := hp.rowKey_inj (hfree q hq) hkey
    have hfind := hq.1
    simp only [CheckpointStore.step, List.find?_cons, htriple, decide_true] at hfind
    rw [Option.some.inj hfind]
  · intro q hq c v hv value hwritten
    obtain ⟨cw, hcw, rfl⟩ := Option.map_eq_some_iff.mp hwritten
    obtain ⟨hmem, hkey⟩ := KeyValue.lastWrite_eq_some hcw
    obtain ⟨hthread, hns, hchannel, hversion⟩ :=
      hp.channelKey_inj (hfree q hq) (c, v) cw hv (p.listed cw hmem) hkey.symm
    obtain rfl : c = cw.1 := hchannel
    rcases hq.step with rfl | hcurrent
    · rfl
    · exact absurd hversion (hfresh q hcurrent hthread hns cw hmem v hv)

/-! ### A thread and its fork -/

/-- A put of a thread with the single channel `x`, which it changes. -/
def singlePut (id : List Char) (parentId : Option (List Char)) (version : ℤ) (value time : ℕ) :
    CheckpointPut ℕ Unit Unit where
  threadId := "t".toList
  checkpointNs := []
  parentId := parentId
  checkpointId := id
  channelValues c := if c = ['x'] then some value else none
  channelVersions c := if c = ['x'] then some (.int version) else none
  fields := ()
  metadata := ()
  newVersions := [(['x'], .int version)]
  time := time
  versioned c h := by
    by_cases hc : c = ['x']
    · simp [hc] at h
    · simp [hc]
  listed cv h := by
    obtain rfl := List.mem_singleton.mp h
    rfl

lemma listsChanges_singlePut (s : CheckpointStore ℕ Unit Unit) (id : List Char)
    (parentId : Option (List Char)) (version : ℤ) (value time : ℕ) :
    s.ListsChanges (singlePut id parentId version value time) := by
  intro c v hv
  left
  by_cases hc : c = ['x']
  · simp only [singlePut, hc, if_true, Option.some.injEq] at hv
    simp [singlePut, hc, hv]
  · simp [singlePut, hc] at hv

/-- A first checkpoint, and one that continues it. -/
def linear : List (CheckpointPut ℕ Unit Unit) :=
  [singlePut ['1'] none 1 10 100, singlePut ['2'] (some ['1']) 2 20 200]

/-- A third checkpoint that forks from the first one: LangGraph counts its versions up from those
of the parent. -/
def forked : List (CheckpointPut ℕ Unit Unit) :=
  linear ++ [singlePut ['3'] (some ['1']) 2 30 300]

lemma colonFree_singlePut {id : List Char} {parentId : Option (List Char)} {version : ℤ}
    {value time : ℕ} (hid : ':' ∉ id) (hversion : ':' ∉ (Version.int version).format) :
    ColonFree (singlePut id parentId version value time) where
  threadId := by simp [singlePut]
  checkpointNs := by simp [singlePut]
  checkpointId := hid
  channel c v hv := by
    by_cases hc : c = ['x']
    · simp only [singlePut, hc, if_true, Option.some.injEq] at hv
      subst hv
      exact ⟨by simp [hc], hversion⟩
    · simp [singlePut, hc] at hv

/-- The two checkpoints of a linear history can be read back. -/
theorem always_roundTrip_linear : (run step init linear).RoundTrip := by
  refine (always_roundTrip_iff linear ⟨listsChanges_singlePut _ _ _ _ _ _,
    listsChanges_singlePut _ _ _ _ _ _, trivial⟩).mpr ⟨?_, ?_, trivial⟩ linear
    (List.prefix_refl _)
  · refine KeepsKeys.of_fresh (colonFree_singlePut (by decide) (by decide)) ?_ ?_
    · intro q hq
      cases hq
    · rintro q ⟨hq, -⟩
      cases hq
  · have hfirst : ColonFree (singlePut ['1'] none 1 10 100) :=
      colonFree_singlePut (by decide) (by decide)
    have hlog : ∀ q ∈ (step init (singlePut ['1'] none 1 10 100)).log,
        q = singlePut ['1'] none 1 10 100 := fun q hq => List.mem_singleton.mp hq
    refine KeepsKeys.of_fresh (colonFree_singlePut (by decide) (by decide)) ?_ ?_
    · intro q hq
      rw [hlog q hq]
      exact hfirst
    · intro q hq _ _ cv hcv v hv
      obtain rfl := hlog q (List.mem_of_find?_eq_some hq.1)
      obtain rfl := List.mem_singleton.mp hcv
      obtain rfl : v = .int 1 := by simpa [singlePut, eq_comm] using hv
      decide

/-- After the fork the second checkpoint is read with the channel value of the third. -/
theorem fork_overwrites : Along step ListsChanges init forked ∧
    ¬ (run step init forked).RoundTrip := by
  constructor
  · exact ⟨listsChanges_singlePut _ _ _ _ _ _, listsChanges_singlePut _ _ _ _ _ _,
      listsChanges_singlePut _ _ _ _ _ _, trivial⟩
  · intro h
    have hcurrent : (run step init forked).Current (singlePut ['2'] (some ['1']) 2 20 200) :=
      ⟨rfl, by simp [singlePut]⟩
    have hread := congrArg (Option.map fun t => t.channelValues ['x']) (h _ hcurrent)
    have hstored : ((run step init forked).redis.getTuple "t".toList [] ['2']).map
        (fun t => t.channelValues ['x']) = some (some 30) := by decide +kernel
    have hvalue : (some (some 30) : Option (Option ℕ)) = some (some 20) := hstored.symm.trans hread
    cases hvalue

end CheckpointStore

end EcommerceAgent.Runtime
