/-
# Two files of a shop, and one file twice

What a second confirmed file leaves of the rows that a first one created, and what is left of the
tables when a file is confirmed again.  Orders, payments and refunds are upserted, so a created row
stays as it is when the last entry of the second file with its key repeats it
(`Schema.LastWrite.created_stay_iff`); the ids of refunds, and those of rows without an id, are made
from the position in the file, so that such an entry need not be about the same order.
`traffic_stats` is appended to.
-/
import EcommerceAgent.Imports.Importer

open EcommerceAgent.Lib

namespace EcommerceAgent.Imports

variable (lib : Library) (scope : Scope)

/-- No row of the file gives the order of a line. -/
def OrderUnmentioned (rows : List UploadRow) (l : Line) : Prop :=
  ∀ row ∈ rows, lib.cleaned (row.get "order_id") ≠ lib.sourceOrderId l.index l.row

/-- No row of the file gives the product of a line. -/
def ProductUnmentioned (rows : List UploadRow) (l : Line) : Prop :=
  ∀ row ∈ rows, lib.cleaned (orText (row.get "product_id") (row.get "sku_code")) ≠
    lib.sourceProductId l.index l.row

instance (rows : List UploadRow) (l : Line) : Decidable (OrderUnmentioned lib rows l) :=
  inferInstanceAs (Decidable (∀ row ∈ rows, _))

instance (rows : List UploadRow) (l : Line) : Decidable (ProductUnmentioned lib rows l) :=
  inferInstanceAs (Decidable (∀ row ∈ rows, _))

section Table

variable {ρ κ : Type} [DecidableEq κ] [DecidableEq ρ] (S : Schema ρ κ) (entry : Line → ρ)
  (lines : List Line) (p : Line → Prop) (before : List ρ)

/-- The rows of a table that were not there before, and come from lines with the property `p` only,
are still there in the end. -/
def CreatedStay (after last : List ρ) : Prop :=
  ∀ r ∈ after, S.key r ∉ before.map S.key → (∀ l ∈ lines, S.key (entry l) = S.key r → p l) →
    r ∈ last

instance [DecidablePred p] (after last : List ρ) :
    Decidable (CreatedStay S entry lines p before after last) :=
  inferInstanceAs (Decidable (∀ r ∈ after, _))

/-- The last line whose entry has a key. -/
def lastLine (k : κ) : Option Line := (lines.filter fun l => S.key (entry l) = k).getLast?

/-- Where the lines with a new key have the property `p`, the last of them and the last line of the
second file with this key have the same value. -/
def SameLast {V : Type} (value : Line → V) (second : List Line) : Prop :=
  ∀ k ∉ before.map S.key, (∀ l ∈ lines, S.key (entry l) = k → p l) →
    ∀ a ∈ lastLine S entry lines k, ∀ b ∈ lastLine S entry second k, value b = value a

end Table

/-- The first file's rows for orders and products that the second file does not mention are still
present and unchanged after the second file. -/
structure Accumulates (nowA : ℤ) (A : List UploadRow) (nowB : ℤ) (B : List UploadRow)
    (db : Database) : Prop where
  orders : CreatedStay lib.orders (Library.orderOf scope) (lib.lines scope nowA A)
    (OrderUnmentioned lib B) db.orders (lib.importRows scope nowA A db).orders
    (lib.importRows scope nowB B (lib.importRows scope nowA A db)).orders
  payments : CreatedStay lib.payments (Library.paymentOf scope) (lib.lines scope nowA A)
    (OrderUnmentioned lib B) db.payments (lib.importRows scope nowA A db).payments
    (lib.importRows scope nowB B (lib.importRows scope nowA A db)).payments
  refunds : CreatedStay lib.refunds (lib.refundOf scope)
    ((lib.lines scope nowA A).filter fun l => lib.refunded l.row)
    (fun l => OrderUnmentioned lib B l ∧ ProductUnmentioned lib B l) db.refunds
    (lib.importRows scope nowA A db).refunds
    (lib.importRows scope nowB B (lib.importRows scope nowA A db)).refunds
  traffic : (lib.importRows scope nowA A db).traffic <+:
    (lib.importRows scope nowB B (lib.importRows scope nowA A db)).traffic

/-- Confirming the file again, at any times, leaves the tables as after the first time. -/
def RetrySafe (now : ℤ) (rows : List UploadRow) (db : Database) : Prop :=
  ∀ times : List ℤ, times.foldl (fun db now => lib.importRows scope now rows db)
    (lib.importRows scope now rows db) = lib.importRows scope now rows db

/-- Where the second file derives the key of an order, a payment or a refund of the first file that
it does not mention, its last line with this key has the same purchase time, amount or refund
amount. -/
structure RepeatsUnmentioned (nowA : ℤ) (A : List UploadRow) (nowB : ℤ) (B : List UploadRow)
    (db : Database) : Prop where
  orders : SameLast lib.orders (Library.orderOf scope) (lib.lines scope nowA A)
    (OrderUnmentioned lib B) db.orders Line.orderTime (lib.lines scope nowB B)
  payments : SameLast lib.payments (Library.paymentOf scope) (lib.lines scope nowA A)
    (OrderUnmentioned lib B) db.payments Line.payAmount (lib.lines scope nowB B)
  refunds : SameLast lib.refunds (lib.refundOf scope)
    ((lib.lines scope nowA A).filter fun l => lib.refunded l.row)
    (fun l => OrderUnmentioned lib B l ∧ ProductUnmentioned lib B l) db.refunds
    (fun l => lib.toFloat (l.row.get "refund_amount") 0)
    ((lib.lines scope nowB B).filter fun l => lib.refunded l.row)

variable {lib} {scope}

/-! ### Upserted tables -/

lemma lastWith_map {ρ κ : Type} [DecidableEq κ] (S : Schema ρ κ) (entry : Line → ρ)
    (lines : List Line) (k : κ) :
    S.lastWith k (lines.map entry) = (lastLine S entry lines k).map entry := by
  rw [Schema.lastWith, lastLine, List.filter_map, List.getLast?_map]
  rfl

/-- In one table, the created rows stay exactly when the second file repeats the columns that it
writes. -/
lemma createdStay_iff {ρ κ δ V : Type} [DecidableEq κ] {S : Schema ρ κ} {view : ρ → δ}
    (hlast : S.LastWrite view) (entry : Line → ρ) (value : Line → V)
    (hvalue : ∀ a b, view (entry b) = view (entry a) ↔ value b = value a) {before : List ρ}
    (hkeyed : S.Keyed before) (lines second : List Line) (p : Line → Prop) :
    CreatedStay S entry lines p before (S.upsertAll (lines.map entry) before)
      (S.upsertAll (second.map entry) (S.upsertAll (lines.map entry) before)) ↔
    SameLast S entry lines p before value second := by
  have hstay := hlast.created_stay_iff hkeyed (fun k => ∀ l ∈ lines, S.key (entry l) = k → p l)
    (lines.map entry) (second.map entry)
  refine hstay.trans (forall₃_congr fun k _ _ => ?_)
  rw [lastWith_map, lastWith_map]
  constructor
  · intro h a ha b hb
    exact (hvalue a b).mp (h _ (Option.mem_map_of_mem _ ha) _ (Option.mem_map_of_mem _ hb))
  · intro h a ha b hb
    obtain ⟨a, hla, rfl⟩ := Option.mem_map.mp ha
    obtain ⟨b, hlb, rfl⟩ := Option.mem_map.mp hb
    exact (hvalue a b).mpr (h a hla b hlb)

lemma orders_lastWrite :
    lib.orders.LastWrite fun r => (r.orderStatus, r.purchaseTimestamp) where
  view_update _ _ := rfl
  update_update _ _ _ := rfl
  update_eq old new := by
    cases old
    simp [Library.orders]

lemma payments_lastWrite : lib.payments.LastWrite fun r => (r.paymentType, r.paymentValue) where
  view_update _ _ := rfl
  update_update _ _ _ := rfl
  update_eq old new := by
    cases old
    simp [Library.payments]

lemma refunds_lastWrite : lib.refunds.LastWrite fun r => (r.refundStatus, r.refundAmount) where
  view_update _ _ := rfl
  update_update _ _ _ := rfl
  update_eq old new := by
    cases old
    simp [Library.refunds, and_comm]

/-- A second file leaves the first one's rows for other orders and products alone exactly when it
repeats what it writes at their keys. -/
theorem accumulates_iff {db : Database} (hdb : db.Keyed lib) (nowA : ℤ) (A : List UploadRow)
    (nowB : ℤ) (B : List UploadRow) :
    Accumulates lib scope nowA A nowB B db ↔ RepeatsUnmentioned lib scope nowA A nowB B db := by
  have horders := createdStay_iff orders_lastWrite (Library.orderOf scope) Line.orderTime
    (fun a b => by simp [Library.orderOf]) hdb.orders (lib.lines scope nowA A)
    (lib.lines scope nowB B) (OrderUnmentioned lib B)
  have hpayments := createdStay_iff payments_lastWrite (Library.paymentOf scope) Line.payAmount
    (fun a b => by simp [Library.paymentOf]) hdb.payments (lib.lines scope nowA A)
    (lib.lines scope nowB B) (OrderUnmentioned lib B)
  have hrefunds := createdStay_iff refunds_lastWrite (lib.refundOf scope)
    (fun l => lib.toFloat (l.row.get "refund_amount") 0) (fun a b => by simp [Library.refundOf])
    hdb.refunds ((lib.lines scope nowA A).filter fun l => lib.refunded l.row)
    ((lib.lines scope nowB B).filter fun l => lib.refunded l.row)
    fun l => OrderUnmentioned lib B l ∧ ProductUnmentioned lib B l
  constructor
  · rintro ⟨ho, hp, hr, -⟩
    exact ⟨horders.mp ho, hpayments.mp hp, hrefunds.mp hr⟩
  · rintro ⟨ho, hp, hr⟩
    exact ⟨horders.mpr ho, hpayments.mpr hp, hrefunds.mpr hr, List.prefix_append _ _⟩

/-! ### The same file again -/

/-- Only a file without rows can be confirmed again. -/
theorem retrySafe_iff {now : ℤ} {rows : List UploadRow} {db : Database} :
    RetrySafe lib scope now rows db ↔ rows = [] := by
  constructor
  · intro h
    have htwice := congrArg (fun db => db.traffic.length) (h [now])
    simp only [List.foldl_cons, List.foldl_nil, traffic_length_importRows] at htwice
    exact List.length_eq_zero_iff.mp (by omega)
  · rintro rfl times
    induction times with
    | nil => rfl
    | cons now' times ih =>
      rw [List.foldl_cons, importRows_nil lib scope now']
      exact ih

/-- Two files accumulate exactly when the second one repeats what it writes at the keys of the first
one's orders, payments and refunds for orders and products that it does not mention; a file can be
confirmed again exactly when it has no rows. -/
theorem accumulates_and_retrySafe_iff (lib : Library) (scope : Scope) {db : Database}
    (hdb : db.Keyed lib) (nowA : ℤ) (A : List UploadRow) (nowB : ℤ) (B : List UploadRow) :
    (Accumulates lib scope nowA A nowB B db ↔ RepeatsUnmentioned lib scope nowA A nowB B db) ∧
    (RetrySafe lib scope nowA A db ↔ A = []) :=
  ⟨accumulates_iff hdb nowA A nowB B, retrySafe_iff⟩

/-- A row with a refund. -/
def refundRow (orderId productId refundAmount : String) : UploadRow :=
  sampleRow orderId productId "20" ++
    [("refund_flag".toList, "1".toList), ("refund_amount".toList, refundAmount.toList)]

/-- Two files with other orders and products, of which only the first has a refund. -/
theorem accumulates_two_orders :
    RepeatsUnmentioned .sample sampleScope 0 [refundRow "1" "a" "5"] 60 [sampleRow "2" "b" "10"]
      .empty ∧
    ¬ RetrySafe .sample sampleScope 0 [refundRow "1" "a" "5"] .empty := by
  obtain ⟨haccumulates, hretry⟩ := accumulates_and_retrySafe_iff .sample sampleScope
    (Database.keyed_empty .sample) 0 [refundRow "1" "a" "5"] 60 [sampleRow "2" "b" "10"]
  refine ⟨haccumulates.mp ⟨?_, ?_, ?_, ?_⟩, fun h => List.cons_ne_nil _ _ (hretry.mp h)⟩
  all_goals decide +kernel

/-- The refund in the first row of the second file overwrites the amount of the first file's refund,
and confirming the first file twice doubles its traffic. -/
theorem refund_overwritten :
    ¬ Accumulates .sample sampleScope 0 [refundRow "1" "a" "5"] 60 [refundRow "2" "b" "7"]
      .empty ∧
    ¬ RetrySafe .sample sampleScope 0 [refundRow "1" "a" "5"] .empty := by
  constructor
  · intro h
    have hrefunds := h.refunds
    revert hrefunds
    decide +kernel
  · intro h
    have htwice := h [0]
    revert htwice
    decide +kernel

end EcommerceAgent.Imports
