/-
# Listing the checkpoints of a thread

`list` and `alist` of `agent/subagent/checkpoint.py`.  The index of a thread is a sorted set: its
members are the checkpoint ids, and the score of an id is the time of its last put, as a double.
A reader goes through the ids from the highest score down and stops at the bound `before` by
comparing ids.
-/
import EcommerceAgent.Runtime.Checkpoint
import Mathlib.Data.List.Lex
import Mathlib.Data.Char
import Mathlib.Data.List.Sort
import Mathlib.Data.List.Dedup
import Mathlib.Data.List.Chain
import Mathlib.Algebra.Ring.Nat

open EcommerceAgent.Lib

namespace EcommerceAgent.Runtime

/-- The double nearest to a natural number, the one with an even significand among equals. -/
def nearestDouble (n : ℕ) : ℕ :=
  if n < 2 ^ 53 then n
  else
    let unit := 2 ^ (n.log2 - 52)
    let quotient := n / unit
    let rest := n % unit
    if 2 * rest < unit ∨ 2 * rest = unit ∧ quotient % 2 = 0 then quotient * unit
    else (quotient + 1) * unit

variable {ν ρ μ α : Type}

/-- The put with the score that its time in nanoseconds gets. -/
def CheckpointPut.scored (p : CheckpointPut ν ρ μ) : CheckpointPut ν ρ μ :=
  { p with time := nearestDouble p.time }

/-- The order in which `zrevrange` lists the members of a sorted set. -/
def Descending (a b : List Char × ℕ) : Prop := b.2 < a.2 ∨ a.2 = b.2 ∧ b.1 ≤ a.1

instance : DecidableRel Descending := fun a b =>
  inferInstanceAs (Decidable (b.2 < a.2 ∨ a.2 = b.2 ∧ b.1 ≤ a.1))

namespace Redis

/-- The members of the index of a thread. -/
def indexMembers (redis : Redis ν ρ μ) (threadId checkpointNs : List Char) :
    List (List Char × ℕ) :=
  match redis (checkpointIndexKey threadId checkpointNs) with
  | some (.index members) => members
  | _ => []

/-- `zrevrange(…, 0, -1)` of the index. -/
def zrevrange (redis : Redis ν ρ μ) (threadId checkpointNs : List Char) : List (List Char) :=
  ((redis.indexMembers threadId checkpointNs).insertionSort Descending).map Prod.fst

variable [BEq α] (get : μ → List Char → α)

/-- `filter and not all(item.metadata.get(key) == value …)` does not skip the item. -/
def matchesFilter (filter : List (List Char × α)) (item : CheckpointTuple ν ρ μ) : Bool :=
  filter.all fun kv => get item.metadata kv.1 == kv.2

/-- The loop of `list`.  An empty `maxId` is no bound; neither `None` nor `0` is a limit. -/
def listLoop (redis : Redis ν ρ μ) (threadId checkpointNs : List Char)
    (filter : List (List Char × α)) (maxId : List Char) (limit : Option ℤ) :
    ℤ → List (List Char) → List (CheckpointTuple ν ρ μ)
  | _, [] => []
  | yielded, checkpointId :: rest =>
    if maxId ≠ [] ∧ maxId ≤ checkpointId then
      redis.listLoop threadId checkpointNs filter maxId limit yielded rest
    else
      match redis.getTuple threadId checkpointNs checkpointId with
      | none => redis.listLoop threadId checkpointNs filter maxId limit yielded rest
      | some item =>
        if matchesFilter get filter item then
          item ::
            if limit.any fun k => k ≠ 0 ∧ k ≤ yielded + 1 then []
            else redis.listLoop threadId checkpointNs filter maxId limit (yielded + 1) rest
        else redis.listLoop threadId checkpointNs filter maxId limit yielded rest

/-- `list` and `alist` with a config that names the thread. -/
def list (redis : Redis ν ρ μ) (threadId checkpointNs : List Char) (filter : List (List Char × α))
    (before : List Char) (limit : Option ℤ) : List (CheckpointTuple ν ρ μ) :=
  redis.listLoop get threadId checkpointNs filter before limit 0
    (redis.zrevrange threadId checkpointNs)

end Redis

/-! ### Histories of one thread -/

/-- The puts on one thread and namespace, the first one first.  LangGraph's ids are not empty. -/
structure ThreadHistory (ν ρ μ : Type) where
  threadId : List Char
  checkpointNs : List Char
  puts : List (CheckpointPut ν ρ μ)
  there : ∀ p ∈ puts, p.threadId = threadId ∧ p.checkpointNs = checkpointNs
  named : ∀ p ∈ puts, p.checkpointId ≠ []

/-- The key space after some puts. -/
def putAllScored (puts : List (CheckpointPut ν ρ μ)) : Redis ν ρ μ :=
  puts.foldl (fun redis p => redis.put p.scored) fun _ => none

/-- The last put of a checkpoint. -/
def lastPut (puts : List (CheckpointPut ν ρ μ)) (checkpointId : List Char) :
    Option (CheckpointPut ν ρ μ) :=
  puts.reverse.find? fun p => p.checkpointId = checkpointId

/-- The ids of the checkpoints, the last one created first; a later put of a checkpoint does not
create it again. -/
def createdIds (puts : List (CheckpointPut ν ρ μ)) : List (List Char) :=
  (puts.map CheckpointPut.checkpointId).reverse.dedup

/-- The score of a checkpoint. -/
def scoreOf (puts : List (CheckpointPut ν ρ μ)) (checkpointId : List Char) : ℕ :=
  ((lastPut puts checkpointId).map fun p => nearestDouble p.time).getD 0

namespace ThreadHistory

variable (h : ThreadHistory ν ρ μ)

/-- The key space after the history. -/
def redis : Redis ν ρ μ := putAllScored h.puts

/-- The checkpoint that is stored under an id: the row of its last put, with the channel values
that its versions name. -/
def stored (checkpointId : List Char) : Option (CheckpointTuple ν ρ μ) :=
  (lastPut h.puts checkpointId).map fun p => h.redis.assemble h.threadId h.checkpointNs p.row

/-- The ids that were created before the one of `before`, the last one first. -/
def createdBefore (before : List Char) : List (List Char) :=
  if before = [] then createdIds h.puts
  else ((createdIds h.puts).dropWhile fun id => id ≠ before).tail

/-- What a listing should return. -/
def listing [BEq α] (get : μ → List Char → α) (filter : List (List Char × α))
    (before : List Char) (limit : Option ℤ) : List (CheckpointTuple ν ρ μ) :=
  let items := ((h.createdBefore before).filterMap h.stored).filter
    (Redis.matchesFilter get filter)
  match limit with
  | none => items
  | some k => items.take k.toNat

/-- Listing agrees with what is stored, for every filter and for every `before` that names a stored
checkpoint or nothing, and `get_tuple` without an id returns the first checkpoint of the list. -/
def ListsStored [BEq α] (get : μ → List Char → α) (limit : Option ℤ) : Prop :=
  (∀ (filter : List (List Char × α)) (before : List Char),
    before = [] ∨ before ∈ createdIds h.puts →
      h.redis.list get h.threadId h.checkpointNs filter before limit =
        h.listing get filter before limit) ∧
  h.redis.getTuple h.threadId h.checkpointNs [] =
    (h.redis.list get h.threadId h.checkpointNs [] [] none).head?

/-- Checkpoints created later have greater ids, and the last put of each has at least the score of
those of the checkpoints created before. -/
def Ascending : Prop :=
  (createdIds h.puts).Pairwise fun later earlier =>
    earlier < later ∧ scoreOf h.puts earlier ≤ scoreOf h.puts later

end ThreadHistory

/-! ### The order of a sorted set -/

instance : Std.Total Descending where
  total a b := by
    rcases lt_trichotomy a.2 b.2 with hlt | heq | hgt
    · exact .inr (.inl hlt)
    · rcases le_total a.1 b.1 with hle | hle
      · exact .inr (.inr ⟨heq.symm, hle⟩)
      · exact .inl (.inr ⟨heq, hle⟩)
    · exact .inl (.inl hgt)

instance : IsTrans (List Char × ℕ) Descending where
  trans a b c hab hbc := by
    rcases hab with hab | ⟨hab, hid⟩
    · rcases hbc with hbc | ⟨hbc, -⟩
      · exact .inl (hbc.trans hab)
      · exact .inl (hbc ▸ hab)
    · rcases hbc with hbc | ⟨hbc, hid'⟩
      · exact .inl (hab ▸ hbc)
      · exact .inr ⟨hab.trans hbc, hid'.trans hid⟩

lemma Descending.score_le {a b : List Char × ℕ} (h : Descending a b) : b.2 ≤ a.2 := by
  rcases h with hlt | ⟨heq, -⟩
  · exact hlt.le
  · exact heq.symm.le

lemma Descending.antisymm {a b : List Char × ℕ} (hab : Descending a b) (hba : Descending b a) :
    a = b := by
  rcases hab with hlt | ⟨heq, hid⟩
  · exact absurd hba.score_le (by omega)
  · rcases hba with hlt | ⟨-, hid'⟩
    · omega
    · exact Prod.ext (le_antisymm hid' hid) heq

namespace Redis

variable {redis : Redis ν ρ μ}

/-- The newest member comes before all others. -/
lemma newest_spec (members : List (List Char × ℕ)) :
    (newest members = none → members = []) ∧
      ∀ best, newest members = some best → best ∈ members ∧ ∀ m ∈ members, Descending best m := by
  induction members with
  | nil => exact ⟨fun _ => rfl, fun best hbest => by cases hbest⟩
  | cons m ms ih =>
    rw [newest]
    cases hms : newest ms with
    | none =>
      refine ⟨fun hnone => (by cases hnone), fun best hbest => ?_⟩
      obtain rfl := Option.some.inj hbest
      rw [ih.1 hms]
      refine ⟨List.mem_singleton_self _, fun x hx => ?_⟩
      rw [List.mem_singleton.mp hx]
      exact .inr ⟨rfl, le_rfl⟩
    | some top =>
      obtain ⟨htop, hall⟩ := ih.2 top hms
      by_cases hgreater : top.2 < m.2 ∨ top.2 = m.2 ∧ top.1 < m.1
      · simp only [if_pos hgreater]
        refine ⟨fun hnone => (by cases hnone), fun best hbest => ?_⟩
        obtain rfl := Option.some.inj hbest
        have hmtop : Descending m top := hgreater.imp id fun ⟨heq, hlt⟩ => ⟨heq.symm, hlt.le⟩
        refine ⟨List.mem_cons_self, fun x hx => ?_⟩
        rcases List.mem_cons.mp hx with rfl | hx
        · exact .inr ⟨rfl, le_rfl⟩
        · exact IsTrans.trans m top x hmtop (hall x hx)
      · simp only [if_neg hgreater]
        refine ⟨fun hnone => (by cases hnone), fun best hbest => ?_⟩
        obtain rfl := Option.some.inj hbest
        refine ⟨List.mem_cons_of_mem _ htop, fun x hx => ?_⟩
        rcases List.mem_cons.mp hx with rfl | hx
        · rw [not_or, not_and, not_lt, not_lt] at hgreater
          rcases hgreater.1.lt_or_eq with hlt | heq
          · exact .inl hlt
          · exact .inr ⟨heq.symm, hgreater.2 heq.symm⟩
        · exact hall x hx

/-- `zrevrange(…, 0, 0)` is the head of the whole range. -/
lemma head?_zrevrange (redis : Redis ν ρ μ) (t n : List Char) :
    (redis.zrevrange t n).head? = redis.latest t n := by
  have hlatest : redis.latest t n = (newest (redis.indexMembers t n)).map Prod.fst := by
    rw [latest, indexMembers]
    cases redis (checkpointIndexKey t n) with
    | none => rfl
    | some value => cases value <;> rfl
  rw [hlatest, zrevrange, List.head?_map]
  congr 1
  have hperm := List.perm_insertionSort Descending (redis.indexMembers t n)
  have hsorted := List.pairwise_insertionSort Descending (redis.indexMembers t n)
  obtain ⟨hnone, hbest⟩ := newest_spec (redis.indexMembers t n)
  cases hn : newest (redis.indexMembers t n) with
  | none => rw [hnone hn]; rfl
  | some best =>
    obtain ⟨hmem, hall⟩ := hbest best hn
    cases hlist : (redis.indexMembers t n).insertionSort Descending with
    | nil =>
      rw [hlist] at hperm
      exact absurd (hperm.mem_iff.mpr hmem) List.not_mem_nil
    | cons top rest =>
      rw [hlist] at hperm hsorted
      have htop : top ∈ redis.indexMembers t n := hperm.mem_iff.mp List.mem_cons_self
      have hle : Descending top best := by
        rcases List.mem_cons.mp (hperm.mem_iff.mpr hmem) with rfl | hrest
        · exact .inr ⟨rfl, le_rfl⟩
        · exact (List.pairwise_cons.mp hsorted).1 best hrest
      rw [List.head?_cons, hle.antisymm (hall top htop)]

/-! ### The loop -/

variable [BEq α] (get : μ → List Char → α)

/-- The items that the loop goes through. -/
def items (redis : Redis ν ρ μ) (t n : List Char) (filter : List (List Char × α))
    (maxId : List Char) (ids : List (List Char)) : List (CheckpointTuple ν ρ μ) :=
  ((ids.filter fun id => maxId = [] ∨ id < maxId).filterMap (redis.getTuple t n)).filter
    (matchesFilter get filter)

variable {get}

/-- One turn of the loop. -/
lemma items_cons (t n : List Char) (filter : List (List Char × α)) (maxId id : List Char)
    (ids : List (List Char)) :
    items get redis t n filter maxId (id :: ids) =
      if maxId ≠ [] ∧ maxId ≤ id then items get redis t n filter maxId ids
      else match redis.getTuple t n id with
        | none => items get redis t n filter maxId ids
        | some item =>
          if matchesFilter get filter item then item :: items get redis t n filter maxId ids
          else items get redis t n filter maxId ids := by
  by_cases hbound : maxId ≠ [] ∧ maxId ≤ id
  · have hskip : ¬ (maxId = [] ∨ id < maxId) := by
      rw [not_or, not_lt]
      exact hbound
    rw [if_pos hbound, items, List.filter_cons_of_neg (by simpa using hskip)]
    rfl
  · have hkeep : maxId = [] ∨ id < maxId := by
      rw [not_and_or, not_not, not_le] at hbound
      exact hbound
    rw [if_neg hbound, items, List.filter_cons_of_pos (by simpa using hkeep)]
    cases hget : redis.getTuple t n id with
    | none => rw [List.filterMap_cons_none hget]; rfl
    | some item =>
      rw [List.filterMap_cons_some hget, List.filter_cons]
      rfl

/-- The loop returns the first item, whatever the limit is. -/
lemma head?_listLoop (t n : List Char) (filter : List (List Char × α)) (maxId : List Char)
    (limit : Option ℤ) (yielded : ℤ) (ids : List (List Char)) :
    (redis.listLoop get t n filter maxId limit yielded ids).head? =
      (items get redis t n filter maxId ids).head? := by
  induction ids with
  | nil => rfl
  | cons id ids ih =>
    rw [items_cons, listLoop]
    split
    · exact ih
    · split
      · exact ih
      · split
        · rfl
        · exact ih

/-- Without a limit the loop returns all items. -/
lemma listLoop_none (t n : List Char) (filter : List (List Char × α)) (maxId : List Char)
    (yielded : ℤ) (ids : List (List Char)) :
    redis.listLoop get t n filter maxId none yielded ids =
      items get redis t n filter maxId ids := by
  induction ids generalizing yielded with
  | nil => rfl
  | cons id ids ih =>
    rw [items_cons, listLoop]
    split
    · exact ih _
    · split
      · exact ih _
      · split
        · exact congrArg (_ :: ·) (ih _)
        · exact ih _

/-- With a positive limit the loop returns that many items, or all of them. -/
lemma listLoop_some (t n : List Char) (filter : List (List Char × α)) (maxId : List Char)
    {k yielded : ℤ} (hk : yielded < k) (hyielded : 0 ≤ yielded) (ids : List (List Char)) :
    redis.listLoop get t n filter maxId (some k) yielded ids =
      (items get redis t n filter maxId ids).take (k - yielded).toNat := by
  induction ids generalizing yielded with
  | nil => simp [listLoop, items]
  | cons id ids ih =>
    rw [items_cons, listLoop]
    split
    · exact ih hk hyielded
    · split
      · exact ih hk hyielded
      · split
        · have hrest : (k - yielded).toNat = (k - (yielded + 1)).toNat + 1 := by omega
          rw [hrest, List.take_succ_cons]
          congr 1
          by_cases hlast : k ≤ yielded + 1
          · have hzero : (k - (yielded + 1)).toNat = 0 := by omega
            have hstop : (some k).any (fun k => k ≠ 0 ∧ k ≤ yielded + 1) = true := by
              simp only [Option.any_some, decide_eq_true_eq]
              omega
            rw [if_pos hstop, hzero, List.take_zero]
          · have hgo : ¬ (some k).any (fun k => k ≠ 0 ∧ k ≤ yielded + 1) = true := by
              simp only [Option.any_some, decide_eq_true_eq]
              omega
            rw [if_neg hgo]
            exact ih (by omega) (by omega)
        · exact ih hk hyielded

end Redis

/-! ### What a history leaves -/

section History

variable {puts : List (CheckpointPut ν ρ μ)}

lemma putAllScored_append (puts : List (CheckpointPut ν ρ μ)) (p : CheckpointPut ν ρ μ) :
    putAllScored (puts ++ [p]) = (putAllScored puts).put p.scored := by
  rw [putAllScored, List.foldl_append]
  rfl

lemma lastPut_append (puts : List (CheckpointPut ν ρ μ)) (p : CheckpointPut ν ρ μ)
    (id : List Char) :
    lastPut (puts ++ [p]) id = if p.checkpointId = id then some p else lastPut puts id := by
  rw [lastPut, List.reverse_append, List.reverse_singleton, List.singleton_append,
    List.find?_cons]
  by_cases hid : p.checkpointId = id
  · simp [hid]
  · simp only [hid, decide_false, if_false]
    rfl

lemma lastPut_eq_some {id : List Char} {p : CheckpointPut ν ρ μ} (h : lastPut puts id = some p) :
    p ∈ puts ∧ p.checkpointId = id :=
  ⟨List.mem_reverse.mp (List.mem_of_find?_eq_some h), by simpa using List.find?_some h⟩

/-- The rows of the checkpoints of one thread have different keys. -/
lemma checkpointKey_inj {t n i j : List Char} (h : checkpointKey t n i = checkpointKey t n j) :
    i = j := by
  have htail : ∀ (part a b : List Char), part ++ ':' :: a = part ++ ':' :: b → a = b :=
    fun part a b hab => (List.cons.inj (List.append_cancel_left hab)).2
  exact htail _ _ _ (htail _ _ _ (htail _ _ _ (htail _ _ _ h)))

/-- A checkpoint is created by its first put. -/
lemma mem_createdIds {id : List Char} : id ∈ createdIds puts ↔ (lastPut puts id).isSome := by
  rw [createdIds, List.mem_dedup, List.mem_reverse, lastPut, List.find?_isSome, List.mem_map]
  simp

/-- A put gives its id a new score. -/
lemma indexMembers_put (redis : Redis ν ρ μ) (p : CheckpointPut ν ρ μ) :
    (redis.put p).indexMembers p.threadId p.checkpointNs =
      (redis.indexMembers p.threadId p.checkpointNs).filter (·.1 ≠ p.checkpointId) ++
        [(p.checkpointId, p.time)] := by
  have hrow : checkpointIndexKey p.threadId p.checkpointNs ≠ p.rowKey :=
    (checkpointKey_ne_indexKey _ _ _ _ _).symm
  have hblobs : KeyValue.lastWrite p.channelKey p.newVersions
      (checkpointIndexKey p.threadId p.checkpointNs) = none :=
    KeyValue.lastWrite_eq_none fun cv _ => blobKey_ne_indexKey _ _ _ _ _ _
  simp only [Redis.indexMembers, Redis.put, Function.update_self, Function.update_of_ne hrow,
    KeyValue.writeAll_apply, hblobs, Option.map_none, Option.none_or]
  cases redis (checkpointIndexKey p.threadId p.checkpointNs) with
  | none => rfl
  | some value => cases value <;> rfl

variable {t n : List Char} (hthere : ∀ p ∈ puts, p.threadId = t ∧ p.checkpointNs = n)
include hthere

/-- The index holds every checkpoint once, with the score of its last put. -/
lemma indexMembers_putAllScored :
    (((putAllScored puts).indexMembers t n).map Prod.fst).Nodup ∧
    ∀ m : List Char × ℕ, m ∈ (putAllScored puts).indexMembers t n ↔
      ∃ p, lastPut puts m.1 = some p ∧ m.2 = nearestDouble p.time := by
  induction puts using List.reverseRecOn with
  | nil =>
    refine ⟨List.nodup_nil, fun m => ⟨fun hm => (by cases hm), ?_⟩⟩
    rintro ⟨p, hp, -⟩
    cases hp
  | append_singleton puts p ih =>
    obtain ⟨hnodup, hmem⟩ := ih fun q hq => hthere q (List.mem_append_left _ hq)
    obtain ⟨rfl, rfl⟩ := hthere p (by simp)
    have hput := indexMembers_put (putAllScored puts) p.scored
    rw [putAllScored_append]
    change (putAllScored puts |>.put p.scored).indexMembers p.threadId p.checkpointNs =
      ((putAllScored puts).indexMembers p.threadId p.checkpointNs).filter
        (·.1 ≠ p.checkpointId) ++ [(p.checkpointId, nearestDouble p.time)] at hput
    rw [hput]
    constructor
    · rw [List.map_append, List.nodup_append]
      refine ⟨hnodup.sublist (List.filter_sublist.map _), by simp, fun id hid other hother => ?_⟩
      obtain ⟨m, hm, rfl⟩ := List.mem_map.mp hid
      obtain rfl := List.mem_singleton.mp hother
      exact of_decide_eq_true (List.mem_filter.mp hm).2
    · intro m
      rw [List.mem_append, List.mem_filter, List.mem_singleton, hmem, lastPut_append]
      by_cases hid : p.checkpointId = m.1
      · rw [if_pos hid]
        constructor
        · rintro (⟨-, hne⟩ | rfl)
          · exact absurd hid.symm (of_decide_eq_true hne)
          · exact ⟨p, rfl, rfl⟩
        · rintro ⟨q, hq, hscore⟩
          obtain rfl := Option.some.inj hq
          exact .inr (Prod.ext hid.symm hscore)
      · rw [if_neg hid]
        constructor
        · rintro (⟨hlast, -⟩ | rfl)
          · exact hlast
          · exact absurd rfl hid
        · exact fun hlast => .inl ⟨hlast, decide_eq_true fun h => hid h.symm⟩

/-- A row is the one of the last put of its checkpoint. -/
lemma loadRow_putAllScored (id : List Char) :
    (putAllScored puts).loadRow (checkpointKey t n id) =
      (lastPut puts id).map CheckpointPut.row := by
  induction puts using List.reverseRecOn with
  | nil => rfl
  | append_singleton puts p ih =>
    obtain ⟨rfl, rfl⟩ := hthere p (by simp)
    have hrow := Redis.loadRow_put (putAllScored puts) p.scored
      { p with checkpointId := id }
    change ((putAllScored puts).put p.scored).loadRow
        (checkpointKey p.threadId p.checkpointNs id) =
      if checkpointKey p.threadId p.checkpointNs id =
          checkpointKey p.threadId p.checkpointNs p.checkpointId then some p.row
        else (putAllScored puts).loadRow (checkpointKey p.threadId p.checkpointNs id) at hrow
    rw [putAllScored_append, hrow, lastPut_append,
      ih fun q hq => hthere q (List.mem_append_left _ hq)]
    by_cases hid : p.checkpointId = id
    · rw [if_pos hid, hid, if_pos rfl]
      rfl
    · have hkey : checkpointKey p.threadId p.checkpointNs id ≠
          checkpointKey p.threadId p.checkpointNs p.checkpointId := by
        exact fun hkey => hid (checkpointKey_inj hkey).symm
      rw [if_neg hid, if_neg hkey]

end History

namespace ThreadHistory

variable (h : ThreadHistory ν ρ μ)

lemma createdIds_ne_nil {id : List Char} (hid : id ∈ createdIds h.puts) : id ≠ [] := by
  obtain ⟨p, hp⟩ := Option.isSome_iff_exists.mp (mem_createdIds.mp hid)
  obtain ⟨hmem, rfl⟩ := lastPut_eq_some hp
  exact h.named p hmem

/-- What is stored under an id of the history, and its id. -/
lemma exists_stored {id : List Char} (hid : id ∈ createdIds h.puts) :
    ∃ item, h.stored id = some item ∧ item.checkpointId = id := by
  obtain ⟨p, hp⟩ := Option.isSome_iff_exists.mp (mem_createdIds.mp hid)
  refine ⟨_, by rw [stored, hp]; rfl, (lastPut_eq_some hp).2⟩

/-- A checkpoint of the history is read as it is stored. -/
lemma getTuple_eq_stored {id : List Char} (hid : id ∈ createdIds h.puts) :
    h.redis.getTuple h.threadId h.checkpointNs id = h.stored id := by
  rw [Redis.getTuple, if_neg (h.createdIds_ne_nil hid), Option.bind_some, redis,
    loadRow_putAllScored h.there, Option.map_map]
  rfl

/-- The range lists the ids of the history. -/
lemma perm_zrevrange : (h.redis.zrevrange h.threadId h.checkpointNs).Perm (createdIds h.puts) := by
  obtain ⟨hnodup, hmem⟩ := indexMembers_putAllScored h.there
  have hperm := (List.perm_insertionSort Descending
    (h.redis.indexMembers h.threadId h.checkpointNs)).map Prod.fst
  refine hperm.trans ((List.perm_ext_iff_of_nodup hnodup (List.nodup_dedup _)).mpr fun id => ?_)
  change id ∈ _ ↔ id ∈ createdIds h.puts
  rw [mem_createdIds, List.mem_map]
  constructor
  · rintro ⟨m, hm, rfl⟩
    obtain ⟨p, hp, -⟩ := (hmem m).mp hm
    rw [hp]
    rfl
  · intro hsome
    obtain ⟨p, hp⟩ := Option.isSome_iff_exists.mp hsome
    exact ⟨(id, nearestDouble p.time), (hmem _).mpr ⟨p, hp, rfl⟩, rfl⟩

/-- The ids come in the order of their scores, those with equal scores in the order of texts. -/
lemma pairwise_zrevrange : (h.redis.zrevrange h.threadId h.checkpointNs).Pairwise fun a b =>
    Descending (a, scoreOf h.puts a) (b, scoreOf h.puts b) := by
  obtain ⟨-, hmem⟩ := indexMembers_putAllScored h.there
  rw [Redis.zrevrange, List.pairwise_map]
  refine (List.pairwise_insertionSort Descending _).imp_of_mem fun {a b} ha hb hab => ?_
  have hscore : ∀ m ∈ (h.redis.indexMembers h.threadId h.checkpointNs).insertionSort Descending,
      (m.1, scoreOf h.puts m.1) = m := by
    intro m hm
    obtain ⟨p, hp, hscore⟩ := (hmem m).mp ((List.mem_insertionSort _).mp hm)
    rw [scoreOf, hp]
    exact Prod.ext rfl hscore.symm
  rwa [hscore a ha, hscore b hb]

/-- The stored checkpoints with these ids. -/
lemma filterMap_getTuple {ids : List (List Char)} (hids : ∀ id ∈ ids, id ∈ createdIds h.puts) :
    ids.filterMap (h.redis.getTuple h.threadId h.checkpointNs) = ids.filterMap h.stored :=
  List.filterMap_congr fun id hid => h.getTuple_eq_stored (hids id hid)

/-- The ids of the stored checkpoints with these ids. -/
lemma map_checkpointId_stored {ids : List (List Char)}
    (hids : ∀ id ∈ ids, id ∈ createdIds h.puts) :
    (ids.filterMap h.stored).map CheckpointTuple.checkpointId = ids := by
  induction ids with
  | nil => rfl
  | cons id ids ih =>
    obtain ⟨item, hitem, hid⟩ := h.exists_stored (hids id List.mem_cons_self)
    rw [List.filterMap_cons_some hitem, List.map_cons, hid,
      ih fun x hx => hids x (List.mem_cons_of_mem _ hx)]

/-- `get_tuple` without an id returns the first checkpoint of the list. -/
lemma getTuple_nil [BEq α] (get : μ → List Char → α) :
    h.redis.getTuple h.threadId h.checkpointNs [] =
      (h.redis.list get h.threadId h.checkpointNs [] [] none).head? := by
  have hall : ∀ id ∈ h.redis.zrevrange h.threadId h.checkpointNs, id ∈ createdIds h.puts :=
    fun id hid => h.perm_zrevrange.mem_iff.mp hid
  have hitems : h.redis.list get h.threadId h.checkpointNs [] [] none =
      (h.redis.zrevrange h.threadId h.checkpointNs).filterMap h.stored := by
    rw [Redis.list, Redis.listLoop_none, Redis.items, ← h.filterMap_getTuple hall]
    simp [Redis.matchesFilter]
  rw [hitems, Redis.getTuple, if_pos rfl, ← Redis.head?_zrevrange]
  cases hids : h.redis.zrevrange h.threadId h.checkpointNs with
  | nil => rfl
  | cons id ids =>
    have hid : id ∈ createdIds h.puts := hall id (by rw [hids]; exact List.mem_cons_self)
    obtain ⟨item, hitem, -⟩ := h.exists_stored hid
    rw [List.head?_cons, Option.bind_some, List.filterMap_cons_some hitem, List.head?_cons,
      ← hitem, ← h.getTuple_eq_stored hid, Redis.getTuple, if_neg (h.createdIds_ne_nil hid)]
    rfl

/-! ### The two orders -/

/-- The ids that the loop goes through. -/
def boundedIds (before : List Char) : List (List Char) :=
  (h.redis.zrevrange h.threadId h.checkpointNs).filter fun id => before = [] ∨ id < before

lemma boundedIds_created {before id : List Char} (hid : id ∈ h.boundedIds before) :
    id ∈ createdIds h.puts :=
  h.perm_zrevrange.mem_iff.mp (List.mem_filter.mp hid).1

lemma createdBefore_created {before id : List Char} (hid : id ∈ h.createdBefore before) :
    id ∈ createdIds h.puts := by
  rw [createdBefore] at hid
  split at hid
  · exact hid
  · exact (List.dropWhile_sublist _).subset (List.mem_of_mem_tail hid)

variable [BEq α] {get : μ → List Char → α}

/-- The items that the loop goes through are stored. -/
lemma items_eq (filter : List (List Char × α)) (before : List Char) :
    Redis.items get h.redis h.threadId h.checkpointNs filter before
        (h.redis.zrevrange h.threadId h.checkpointNs) =
      ((h.boundedIds before).filterMap h.stored).filter (Redis.matchesFilter get filter) := by
  rw [Redis.items, ← h.filterMap_getTuple fun id hid => h.boundedIds_created hid]
  rfl

/-- The empty filter keeps every item. -/
lemma filter_matchesFilter_nil (items : List (CheckpointTuple ν ρ μ)) :
    items.filter (Redis.matchesFilter get []) = items :=
  List.filter_eq_self.mpr fun _ _ => rfl

/-- In a listing that agrees with what is stored, the first id is the last one created. -/
lemma head?_boundedIds {limit : Option ℤ} (hlists : h.ListsStored get limit)
    (hlimit : ∀ k, limit = some k → 0 < k) {before : List Char}
    (hbefore : before = [] ∨ before ∈ createdIds h.puts) :
    (h.boundedIds before).head? = (h.createdBefore before).head? := by
  have hlist := congrArg List.head? (hlists.1 [] before hbefore)
  rw [Redis.list, Redis.head?_listLoop, h.items_eq] at hlist
  have hlisting : (h.listing get [] before limit).head? =
      ((h.createdBefore before).filterMap h.stored).head? := by
    cases limit with
    | none => rw [listing.eq_def, filter_matchesFilter_nil]
    | some k =>
      have hk : k.toNat ≠ 0 := by
        have := hlimit k rfl
        omega
      rw [listing.eq_def, filter_matchesFilter_nil]
      exact (List.head?_take).trans (if_neg hk)
  rw [hlisting, filter_matchesFilter_nil] at hlist
  have hids := congrArg (Option.map CheckpointTuple.checkpointId) hlist
  rwa [← List.head?_map, ← List.head?_map,
    h.map_checkpointId_stored fun id hid => h.boundedIds_created hid,
    h.map_checkpointId_stored fun id hid => h.createdBefore_created hid] at hids

omit [BEq α] in
/-- What holds between each element and those after it holds pairwise. -/
lemma pairwise_of_suffix {β : Type} {R : β → β → Prop} {l : List β}
    (hl : ∀ x rest, x :: rest <:+ l → ∀ y ∈ rest, R x y) : l.Pairwise R := by
  induction l with
  | nil => exact .nil
  | cons x rest ih =>
    exact .cons (hl x rest (List.suffix_refl _)) (ih fun y ys hys =>
      hl y ys (hys.trans (List.suffix_cons x rest)))

/-- The ids that were created before one of them. -/
lemma createdBefore_append {a c : List (List Char)} {b : List Char}
    (hids : createdIds h.puts = a ++ b :: c) : h.createdBefore b = c := by
  have hnodup : (a ++ b :: c).Nodup := hids ▸ List.nodup_dedup _
  have hb : b ∈ createdIds h.puts := by
    rw [hids]
    exact List.mem_append_right _ List.mem_cons_self
  have hskip : ∀ x ∈ a, (decide (x ≠ b)) = true := fun x hx =>
    decide_eq_true fun heq => (List.disjoint_of_nodup_append hnodup) (heq ▸ hx) List.mem_cons_self
  rw [createdBefore, if_neg (h.createdIds_ne_nil hb), hids,
    List.dropWhile_append_of_pos hskip, List.dropWhile_cons_of_neg (by simp), List.tail_cons]

/-- If the last one created comes first below every bound, then the ids and the scores ascend. -/
lemma ascending_of_head? (hheads : ∀ before, before = [] ∨ before ∈ createdIds h.puts →
    (h.boundedIds before).head? = (h.createdBefore before).head?) : h.Ascending := by
  have hlt : (createdIds h.puts).Pairwise fun later earlier => earlier < later := by
    refine List.isChain_iff_pairwise.mp (List.isChain_iff_forall_rel_of_append_cons_cons.mpr ?_)
    intro b c a d hids
    have hb : b ∈ createdIds h.puts := by simp [hids]
    have hhead := hheads b (.inr hb)
    rw [h.createdBefore_append hids, List.head?_cons] at hhead
    have hmem : c ∈ h.boundedIds b := List.mem_of_mem_head? hhead
    exact (of_decide_eq_true (List.mem_filter.mp hmem).2).resolve_left (h.createdIds_ne_nil hb)
  have hscore : (createdIds h.puts).Pairwise fun later earlier =>
      scoreOf h.puts earlier ≤ scoreOf h.puts later := by
    refine pairwise_of_suffix fun c rest hsuffix x hx => ?_
    -- the bound below which `c` was created last
    obtain ⟨before, hbefore, hcreated⟩ : ∃ before,
        (before = [] ∨ before ∈ createdIds h.puts) ∧ h.createdBefore before = c :: rest := by
      obtain ⟨a, ha⟩ := hsuffix
      rcases List.eq_nil_or_concat a with rfl | ⟨a, b, rfl⟩
      · exact ⟨[], .inl rfl, by rw [createdBefore, if_pos rfl, ← ha]; rfl⟩
      · have hids : createdIds h.puts = a ++ b :: (c :: rest) := by simpa using ha.symm
        exact ⟨b, .inr (by simp [hids]), h.createdBefore_append hids⟩
    have hhead := hheads before hbefore
    rw [hcreated, List.head?_cons] at hhead
    obtain ⟨tail, htail⟩ : ∃ tail, h.boundedIds before = c :: tail :=
      List.head?_eq_some_iff.mp hhead
    have hxmem : x ∈ h.boundedIds before := by
      have hxids : x ∈ createdIds h.puts :=
        hsuffix.subset (List.mem_cons_of_mem _ hx)
      refine List.mem_filter.mpr ⟨h.perm_zrevrange.mem_iff.mpr hxids, decide_eq_true ?_⟩
      by_cases hnil : before = []
      · exact .inl hnil
      · obtain ⟨a, d, hids⟩ := List.append_of_mem (hbefore.resolve_left hnil)
        have hd : d = c :: rest := (h.createdBefore_append hids).symm.trans hcreated
        rw [hids] at hlt
        have hbelow := (List.pairwise_append.mp hlt).2.1
        exact .inr ((List.pairwise_cons.mp hbelow).1 x (hd ▸ List.mem_cons_of_mem _ hx))
    have hsorted := h.pairwise_zrevrange.sublist
      (List.filter_sublist (p := fun id => decide (before = [] ∨ id < before)))
    change (h.boundedIds before).Pairwise _ at hsorted
    rw [htail] at hsorted hxmem
    rcases List.mem_cons.mp hxmem with rfl | hxtail
    · exact le_rfl
    · exact ((List.pairwise_cons.mp hsorted).1 x hxtail).score_le
  exact hlt.and hscore

/-- In a history that ascends, the loop goes through the ids in the order of creation. -/
lemma Ascending.boundedIds_eq (hascending : h.Ascending) {before : List Char}
    (hbefore : before = [] ∨ before ∈ createdIds h.puts) :
    h.boundedIds before = h.createdBefore before := by
  have hrange : h.redis.zrevrange h.threadId h.checkpointNs = createdIds h.puts := by
    refine List.Perm.eq_of_pairwise ?_ h.pairwise_zrevrange ?_ h.perm_zrevrange
    · intro a b _ _ hab hba
      exact congrArg Prod.fst (hab.antisymm hba)
    · refine hascending.imp fun {later earlier} hlater => ?_
      rcases hlater.2.lt_or_eq with hlt | heq
      · exact .inl hlt
      · exact .inr ⟨heq.symm, hlater.1.le⟩
  rw [boundedIds, hrange]
  by_cases hnil : before = []
  · rw [createdBefore, if_pos hnil]
    exact List.filter_eq_self.mpr fun _ _ => decide_eq_true (.inl hnil)
  · obtain ⟨a, c, hids⟩ := List.append_of_mem (hbefore.resolve_left hnil)
    have hpairs := hascending
    rw [Ascending, hids, List.pairwise_append] at hpairs
    obtain ⟨-, hbelow, habove⟩ := hpairs
    have hskip : a.filter (fun id => decide (before = [] ∨ id < before)) = [] := by
      refine List.filter_eq_nil_iff.mpr fun x hx => ?_
      have hlt := (habove x hx before List.mem_cons_self).1
      simpa [hnil] using hlt.le
    have hkeep : c.filter (fun id => decide (before = [] ∨ id < before)) = c :=
      List.filter_eq_self.mpr fun x hx =>
        decide_eq_true (.inr ((List.pairwise_cons.mp hbelow).1 x hx).1)
    rw [h.createdBefore_append hids, hids, List.filter_append, hskip, List.filter_cons_of_neg
      (by simp [hnil]), hkeep, List.nil_append]

/-- Listing agrees with what is stored if and only if nothing is stored, or the limit is not zero
and ids and scores ascend in the order of creation. -/
theorem listsStored_iff (h : ThreadHistory ν ρ μ) (get : μ → List Char → α) (limit : Option ℤ) :
    h.ListsStored get limit ↔
      h.puts = [] ∨ (∀ k, limit = some k → 0 < k) ∧ h.Ascending := by
  constructor
  · intro hlists
    by_cases hempty : h.puts = []
    · exact .inl hempty
    · have hids : createdIds h.puts ≠ [] := by
        obtain ⟨p, hp⟩ := List.exists_mem_of_ne_nil _ hempty
        have hmem : p.checkpointId ∈ createdIds h.puts := by
          rw [createdIds, List.mem_dedup, List.mem_reverse]
          exact List.mem_map_of_mem hp
        exact List.ne_nil_of_mem hmem
      have hlimit : ∀ k, limit = some k → 0 < k := by
        rintro k rfl
        by_contra hk
        have hlist := congrArg List.head? (hlists.1 [] [] (.inl rfl))
        have hnone : (h.listing get [] [] (some k)).head? = none := by
          have hzero : k.toNat = 0 := by omega
          simp [listing, hzero]
        rw [Redis.list, Redis.head?_listLoop, h.items_eq, hnone] at hlist
        obtain ⟨id, hid⟩ := List.exists_mem_of_ne_nil _ hids
        have hbounded : id ∈ h.boundedIds [] :=
          List.mem_filter.mpr ⟨h.perm_zrevrange.mem_iff.mpr hid, by simp⟩
        obtain ⟨item, hitem, -⟩ := h.exists_stored hid
        have hmem : item ∈ ((h.boundedIds []).filterMap h.stored).filter
            (Redis.matchesFilter get []) :=
          List.mem_filter.mpr ⟨List.mem_filterMap.mpr ⟨id, hbounded, hitem⟩, rfl⟩
        rw [List.head?_eq_none_iff.mp hlist] at hmem
        cases hmem
      exact .inr ⟨hlimit, h.ascending_of_head? fun before hbefore =>
        h.head?_boundedIds hlists hlimit hbefore⟩
  · intro hcond
    have hkeeps : (∀ k, limit = some k → 0 < k) ∨ createdIds h.puts = [] := by
      rcases hcond with hempty | hgood
      · exact .inr (by rw [hempty]; rfl)
      · exact .inl hgood.1
    have hascending : h.Ascending := by
      rcases hcond with hempty | hgood
      · rw [Ascending, hempty]
        exact .nil
      · exact hgood.2
    refine ⟨fun filter before hbefore => ?_, h.getTuple_nil get⟩
    have hitems : Redis.items get h.redis h.threadId h.checkpointNs filter before
          (h.redis.zrevrange h.threadId h.checkpointNs) =
        ((h.createdBefore before).filterMap h.stored).filter
          (Redis.matchesFilter get filter) := by
      rw [h.items_eq, hascending.boundedIds_eq h hbefore]
    rcases limit with _ | k
    · rw [Redis.list, Redis.listLoop_none, hitems, listing]
    · rcases hkeeps with hlimit | hnil
      · rw [Redis.list, Redis.listLoop_some _ _ _ _ (hlimit k rfl) le_rfl, hitems, listing,
          Int.sub_zero]
      · have hrange : h.redis.zrevrange h.threadId h.checkpointNs = [] :=
          List.perm_nil.mp (hnil ▸ h.perm_zrevrange)
        have hcreated : h.createdBefore before = [] := by
          rw [createdBefore, hnil]
          split <;> rfl
        rw [Redis.list, hrange, listing, hcreated]
        simp [Redis.listLoop]

omit [BEq α] in
/-- A history ascends when every put creates a checkpoint, and ids and scores go up. -/
theorem ascending_of_pairwise (hputs : h.puts.Pairwise fun p q =>
    p.checkpointId < q.checkpointId ∧ nearestDouble p.time ≤ nearestDouble q.time) :
    h.Ascending := by
  have hnodup : (h.puts.map CheckpointPut.checkpointId).Nodup := by
    rw [List.Nodup, List.pairwise_map]
    exact hputs.imp fun hpq => hpq.1.ne
  have hscore : ∀ p ∈ h.puts, scoreOf h.puts p.checkpointId = nearestDouble p.time := by
    intro p hp
    have hsome : (lastPut h.puts p.checkpointId).isSome := by
      rw [lastPut, List.find?_isSome]
      exact ⟨p, List.mem_reverse.mpr hp, by simp⟩
    obtain ⟨q, hq⟩ := Option.isSome_iff_exists.mp hsome
    obtain ⟨hmem, hid⟩ := lastPut_eq_some hq
    rw [scoreOf, hq, List.inj_on_of_nodup_map hnodup hmem hp hid]
    rfl
  rw [Ascending, createdIds, (List.nodup_reverse.mpr hnodup).dedup, List.pairwise_reverse,
    List.pairwise_map]
  refine hputs.imp_of_mem fun {p q} hp hq hpq => ?_
  rw [hscore p hp, hscore q hq]
  exact hpq

/-! ### A checkpoint that is put again -/

/-- Two checkpoints, the first of which is put again at last. -/
def putAgain : ThreadHistory ℕ Unit Unit where
  threadId := "t".toList
  checkpointNs := []
  puts := [CheckpointStore.singlePut ['1'] none 1 10 100,
    CheckpointStore.singlePut ['2'] (some ['1']) 2 20 200,
    CheckpointStore.singlePut ['1'] none 1 10 300]
  there := by simp [CheckpointStore.singlePut]
  named := by simp [CheckpointStore.singlePut]

/-- A single checkpoint. -/
def putOnce : ThreadHistory ℕ Unit Unit where
  threadId := "t".toList
  checkpointNs := []
  puts := [CheckpointStore.singlePut ['1'] none 1 10 100]
  there := by simp [CheckpointStore.singlePut]
  named := by simp [CheckpointStore.singlePut]

/-- The checkpoint that was put again is listed first, and with the limit zero the single checkpoint
is listed. -/
theorem not_listsStored_putAgain :
    ¬ putAgain.ListsStored (fun _ _ => false) none ∧
      ¬ putOnce.ListsStored (fun _ _ => false) (some 0) := by
  constructor
  · intro h
    have hids := congrArg (List.map CheckpointTuple.checkpointId) (h.1 [] [] (.inl rfl))
    revert hids
    decide +kernel
  · intro h
    have hlength := congrArg List.length (h.1 [] [] (.inl rfl))
    revert hlength
    decide +kernel

end ThreadHistory

end EcommerceAgent.Runtime
