/-
# The time windows of the business metrics

`_time_filter` of `agent/tools/business_metrics.py`, and the sub-queries of `query_daily_metrics`,
`query_daily_risks` and `query_hot_products` that use it.  A range of days is counted back from an
anchor, the latest time of a table: of all orders in the daily queries, and of each table itself in
`query_hot_products`.  So a table that is behind the others has a window of its own there
(`not_oneWindow_traffic`).  What each window is relative to its anchor is `windows`.
-/
import EcommerceAgent.Database.TimeRange

open EcommerceAgent.Lib

namespace EcommerceAgent.Database.TimeWindow

open TimeRange

/-! ### Times of the server -/

/-- The calendar day of a time.  Times are in seconds, and a date stands for its midnight. -/
def dayOf (t : ℤ) : ℤ := t / 86400

/-- `DATE(t)`. -/
def date (t : ℤ) : ℤ := dayOf t * 86400

/-- `MAX(column)`. -/
def maxTime (rows : List (Option ℤ)) : Option ℤ := (rows.filterMap id).max?

/-- `column >= bound`. -/
def ge : Option ℤ → Option ℤ → Bool
  | some t, some bound => decide (bound ≤ t)
  | _, _ => false

/-- `column < bound`. -/
def lt : Option ℤ → Option ℤ → Bool
  | some t, some bound => decide (t < bound)
  | _, _ => false

section

-- The times that the server can represent.
variable (known : ℤ → Bool)

/-- `DATE_ADD(t, INTERVAL n DAY)`, and `DATE_SUB` with `-n` (`NULL` if it is out of range). -/
def dateAdd (t : ℤ) (n : ℤ) : Option ℤ :=
  if known (t + n * 86400) then some (t + n * 86400) else none

/-- `_time_filter`. -/
def timeFilter (range : BusinessTimeRange) (column anchor : Option ℤ) : Bool :=
  if range.label = "today" then
    ge column (anchor.map date) && lt column (anchor.bind fun a => dateAdd known (date a) 1)
  else if range.offsetDays ≠ 0 then
    ge column (anchor.bind fun a => dateAdd known (date a) (-range.offsetDays)) &&
      lt column (anchor.bind fun a => dateAdd known (date a) (-(range.offsetDays - 1)))
  else ge column (anchor.bind fun a => dateAdd known a (-range.days))

end

/-! ### The tables -/

/-- The columns that mark the owner of a row. -/
structure Scope where
  tenantId : String
  shopId : String
deriving DecidableEq, Repr

/-- A row of `orders`. -/
structure Order where
  scope : Scope
  orderId : String
  orderStatus : String
  orderPurchaseTimestamp : Option ℤ
deriving DecidableEq, Repr

/-- A row of `order_items`. -/
structure OrderItem where
  scope : Scope
  orderId : String
  productId : String
deriving DecidableEq, Repr

/-- A row of `products`. -/
structure Product where
  scope : Scope
  productId : String
deriving DecidableEq, Repr

/-- A row of `reviews`. -/
structure Review where
  scope : Scope
  orderId : String
  reviewScore : Option ℤ
deriving DecidableEq, Repr

/-- A row of `refunds`. -/
structure Refund where
  scope : Scope
  refundTime : Option ℤ
deriving DecidableEq, Repr

/-- A row of `customer_service_tickets`. -/
structure Ticket where
  scope : Scope
  ticketTime : Option ℤ
deriving DecidableEq, Repr

/-- A row of `traffic_stats`; `stat_date` is a date. -/
structure TrafficStat where
  scope : Scope
  statDate : Option ℤ
deriving DecidableEq, Repr

/-- The tables. -/
structure Tables where
  orders : List Order := []
  orderItems : List OrderItem := []
  products : List Product := []
  reviews : List Review := []
  refunds : List Refund := []
  tickets : List Ticket := []
  traffic : List TrafficStat := []

/-! ### The queries -/

/-- A sub-query with a time filter: the column that `MAX` is taken of, and the filtered column in
the rows that meet all its other conditions. -/
structure Part where
  anchors : List (Option ℤ)
  rows : List (Option ℤ)

/-- The anchor of the filter. -/
def Part.anchor (p : Part) : Option ℤ := maxTime p.anchors

/-- The times of the rows that contribute. -/
def Part.taken (known : ℤ → Bool) (range : BusinessTimeRange) (p : Part) : List (Option ℤ) :=
  p.rows.filter fun t => timeFilter known range t p.anchor

/-- The queries. -/
inductive Metric
  | dailyMetrics | dailyRisks | hotProducts
deriving DecidableEq, Repr

section

variable (db : Tables) (scope : Scope)

/-- `o.order_status IN (…)`. -/
def soldStatuses : List String := ["delivered", "shipped", "invoiced", "approved"]

/-- The rows of `sales`, before the time filter. -/
def sales : List (Order × OrderItem) :=
  (db.orders.flatMap fun o => (db.orderItems.filter (·.orderId = o.orderId)).map (o, ·)).filter
    fun (o, oi) => o.orderStatus ∈ soldStatuses ∧ o.scope = scope ∧ oi.scope = scope

/-- The reviews with their orders, before the time filter. -/
def reviewed : List (Review × Order) :=
  (db.reviews.flatMap fun r => (db.orders.filter (·.orderId = r.orderId)).map (r, ·)).filter
    fun (r, o) => r.scope = scope ∧ o.scope = scope

/-- `r.review_score <= 2`. -/
def Review.isBad (r : Review) : Bool := r.reviewScore.any (· ≤ 2)

/-- The purchase times of the sales. -/
def saleTimes : List (Option ℤ) := (sales db scope).map (·.1.orderPurchaseTimestamp)

/-- The times of the refunds of the shop. -/
def refundTimes : List (Option ℤ) := (db.refunds.filter (·.scope = scope)).map (·.refundTime)

/-- The times of the tickets of the shop. -/
def ticketTimes : List (Option ℤ) := (db.tickets.filter (·.scope = scope)).map (·.ticketTime)

/-- The dates of the traffic of the shop. -/
def trafficTimes : List (Option ℤ) := (db.traffic.filter (·.scope = scope)).map (·.statDate)

/-- `SELECT MAX(order_purchase_timestamp) FROM orders`, without a filter. -/
def allOrderTimes : List (Option ℤ) := db.orders.map (·.orderPurchaseTimestamp)

/-- The same with the filter of the shop. -/
def ownOrderTimes : List (Option ℤ) :=
  (db.orders.filter (·.scope = scope)).map (·.orderPurchaseTimestamp)

/-- The sub-queries of a query that have a time filter. -/
def Metric.parts : Metric → List Part
  | dailyMetrics =>
    [⟨allOrderTimes db, saleTimes db scope⟩,
      ⟨allOrderTimes db, (reviewed db scope).map (·.2.orderPurchaseTimestamp)⟩,
      ⟨allOrderTimes db, refundTimes db scope⟩]
  | dailyRisks =>
    [⟨allOrderTimes db,
        ((reviewed db scope).filter (·.1.isBad)).map (·.2.orderPurchaseTimestamp)⟩,
      ⟨allOrderTimes db, refundTimes db scope⟩,
      ⟨allOrderTimes db, ticketTimes db scope⟩]
  | hotProducts =>
    [⟨ownOrderTimes db scope, saleTimes db scope⟩,
      ⟨trafficTimes db scope, trafficTimes db scope⟩,
      ⟨refundTimes db scope, refundTimes db scope⟩]

/-- `query_hot_products` finds a product in the time range. -/
def findsProducts (known : ℤ → Bool) (range : BusinessTimeRange) : Bool :=
  (sales db scope).any fun (o, oi) =>
    timeFilter known range o.orderPurchaseTimestamp (maxTime (ownOrderTimes db scope)) &&
      db.products.any fun p => p.productId = oi.productId ∧ p.scope = scope

/-- The range of the fallback. -/
def lastYear : BusinessTimeRange where
  label := "last_365d"
  days := 365

/-- The range that the answer is about. -/
def Metric.activeRange (known : ℤ → Bool) (range : BusinessTimeRange) : Metric →
    BusinessTimeRange
  | hotProducts => if findsProducts db scope known range then range else lastYear
  | _ => range

end

/-! ### What is claimed -/

/-- The calendar day is one of the `days` days up to `offset_days` before `day`. -/
def OnDays (range : BusinessTimeRange) (day : ℤ) (t : ℤ) : Prop :=
  day - range.offsetDays - range.days < dayOf t ∧ dayOf t ≤ day - range.offsetDays

/-- All records that contribute are taken from the days of one window. -/
def OneWindow (known : ℤ → Bool) (range : BusinessTimeRange) (parts : List Part) : Prop :=
  ∃ day, ∀ p ∈ parts, ∀ row ∈ p.taken known range, ∃ t, row = some t ∧ OnDays range day t

/-- One of the two parsers returns the range. -/
def Returned (D : Decimals) (range : BusinessTimeRange) : Prop :=
  (∃ query, parseBusinessTimeRange D query = some range) ∨
    ∃ params, timeRange D params = some range

/-- The range is one calendar day. -/
def IsDay (range : BusinessTimeRange) : Prop :=
  range.label = "today" ∨ range.offsetDays ≠ 0

/-- The server can represent the ends of the window. -/
def Representable (known : ℤ → Bool) (range : BusinessTimeRange) (a : ℤ) : Prop :=
  (∀ n ∈ [1, -range.offsetDays, -(range.offsetDays - 1)], known (date a + n * 86400) = true) ∧
    known (a + -range.days * 86400) = true

/-- What the filter of a sub-query does, relative to its anchor. -/
structure Part.Windowed (known : ℤ → Bool) (range : BusinessTimeRange) (p : Part) : Prop where
  /-- Only rows with a time contribute, and only if there is an anchor. -/
  anchored : ∀ row ∈ p.taken known range, ∃ t a, row = some t ∧ p.anchor = some a
  /-- A range of one day takes nothing from another day. -/
  day : ∀ t a, some t ∈ p.taken known range → p.anchor = some a → IsDay range →
    OnDays range (dayOf a) t
  /-- Another range takes nothing from before the day that is `days` days before the anchor. -/
  notBefore : ∀ t a, some t ∈ p.taken known range → p.anchor = some a → ¬IsDay range →
    dayOf a - range.days ≤ dayOf t
  /-- Everything on the days of the window is taken. -/
  complete : ∀ t a, some t ∈ p.rows → p.anchor = some a → Representable known range a →
    OnDays range (dayOf a) t → some t ∈ p.taken known range

/-- How the windows of one answer are chosen. -/
structure Metric.Windows (metric : Metric) (known : ℤ → Bool) (db : Tables) (scope : Scope)
    (range : BusinessTimeRange) : Prop where
  /-- The answer is about the range that was asked for, or says that it covers a year. -/
  active : metric.activeRange db scope known range = range ∨
    metric = .hotProducts ∧ findsProducts db scope known range = false ∧
      metric.activeRange db scope known range = lastYear
  /-- Every table has one window of the range. -/
  windowed : ∀ p ∈ metric.parts db scope,
    p.Windowed known (metric.activeRange db scope known range)
  /-- The daily queries have one anchor for all tables. -/
  common : metric ≠ .hotProducts → ∀ p ∈ metric.parts db scope, p.anchors = allOrderTimes db
  /-- In `query_hot_products` it is the latest time of the table itself. -/
  own : metric = .hotProducts → ∀ p ∈ metric.parts db scope, p.rows ⊆ p.anchors

/-! ### The parsers -/

/-- A range of one day has one day, and is today or yesterday. -/
structure OneDay (range : BusinessTimeRange) : Prop where
  days : range.days = 1
  today : range.label = "today" → range.offsetDays = 0

lemma oneDay_of_parse {D : Decimals} {query : String} {range : BusinessTimeRange}
    (h : parseBusinessTimeRange D query = some range) (hday : IsDay range) : OneDay range := by
  have hcustom : ∀ {range : BusinessTimeRange}, range.label ≠ "today" → range.offsetDays = 0 →
      ¬IsDay range := by
    rintro range hlabel hoffset (h | h)
    · exact hlabel h
    · exact h hoffset
  rw [parseBusinessTimeRange] at h
  split_ifs at h
  · cases h
    exact ⟨rfl, fun _ => rfl⟩
  · cases h
    exact ⟨rfl, fun h => absurd h (by decide)⟩
  iterate 5
    · cases h
      exact absurd hday (hcustom (by decide) rfl)
  cases hsearch : searchDays D (compactQuery query) with
  | none =>
    rw [hsearch] at h
    cases h
    exact absurd hday (hcustom (by decide) rfl)
  | some digits =>
    rw [hsearch] at h
    obtain ⟨n, -, rfl⟩ := Option.map_eq_some_iff.mp h
    have hlabel : "custom" ≠ "today" := by decide
    exact absurd hday (hcustom hlabel rfl)

lemma oneDay_of_returned {D : Decimals} {range : BusinessTimeRange} (h : Returned D range)
    (hday : IsDay range) : OneDay range := by
  rcases h with ⟨query, h⟩ | ⟨params, h⟩
  · exact oneDay_of_parse h hday
  unfold timeRange at h
  cases hlast : lastDays D params.timeRange with
  | some n =>
    rw [hlast] at h
    cases h
    rcases hday with h | h
    · -- `today` does not begin with `last_`
      have htoday : params.timeRange = "today" := h
      rw [htoday] at hlast
      cases hlast
    · exact absurd rfl h
  | none =>
    simp only [hlast] at h
    split_ifs at h with htoday hyesterday
    · cases h
      exact ⟨rfl, fun _ => rfl⟩
    · cases h
      exact ⟨rfl, fun h => absurd h (by decide)⟩
    · exact oneDay_of_parse h hday
    · exact oneDay_of_parse h hday

/-! ### One filter -/

section

variable {known : ℤ → Bool} {range : BusinessTimeRange} {a t : ℤ}

lemma dateAdd_eq_some {n : ℤ} {b : ℤ} (h : dateAdd known t n = some b) : b = t + n * 86400 := by
  unfold dateAdd at h
  split at h
  · exact (Option.some.inj h).symm
  · cases h

lemma ge_iff {column bound : Option ℤ} :
    ge column bound = true ↔ ∃ t b, column = some t ∧ bound = some b ∧ b ≤ t := by
  cases column with
  | none => simp [ge]
  | some t =>
    cases bound with
    | none => simp [ge]
    | some b => simp [ge]

lemma lt_iff {column bound : Option ℤ} :
    lt column bound = true ↔ ∃ t b, column = some t ∧ bound = some b ∧ t < b := by
  cases column with
  | none => simp [lt]
  | some t =>
    cases bound with
    | none => simp [lt]
    | some b => simp [lt]

lemma today_iff : date a ≤ t ∧ t < date a + 1 * 86400 ↔ dayOf t = dayOf a := by
  unfold date dayOf
  omega

lemma dayBefore_iff {n : ℤ} :
    date a + -n * 86400 ≤ t ∧ t < date a + -(n - 1) * 86400 ↔ dayOf t = dayOf a - n := by
  unfold date dayOf
  omega

lemma rolling_bound {n : ℤ} (h : a + -n * 86400 ≤ t) : dayOf a - n ≤ dayOf t := by
  unfold dayOf
  omega

lemma rolling_complete {n : ℤ} (h : dayOf a - n < dayOf t) : a + -n * 86400 ≤ t := by
  unfold dayOf at h
  omega

/-- What is taken has a time, and there is an anchor. -/
lemma anchored_of_timeFilter {column anchor : Option ℤ}
    (h : timeFilter known range column anchor = true) :
    ∃ t a, column = some t ∧ anchor = some a := by
  cases anchor with
  | none =>
    exfalso
    unfold timeFilter at h
    split_ifs at h
    · obtain ⟨_, _, _, hb, _⟩ := ge_iff.1 (Bool.and_eq_true_iff.1 h).1
      cases hb
    · obtain ⟨_, _, _, hb, _⟩ := ge_iff.1 (Bool.and_eq_true_iff.1 h).1
      cases hb
    · obtain ⟨_, _, _, hb, _⟩ := ge_iff.1 h
      cases hb
  | some a =>
    cases column with
    | some t => exact ⟨t, a, rfl, rfl⟩
    | none =>
      exfalso
      unfold timeFilter at h
      split_ifs at h
      · obtain ⟨_, _, ht, _⟩ := ge_iff.1 (Bool.and_eq_true_iff.1 h).1
        cases ht
      · obtain ⟨_, _, ht, _⟩ := ge_iff.1 (Bool.and_eq_true_iff.1 h).1
        cases ht
      · obtain ⟨_, _, ht, _⟩ := ge_iff.1 h
        cases ht

/-- A bound that the filter computes. -/
lemma le_of_ge {n : ℤ} {b : ℤ} (h : ge (some t) (dateAdd known b n) = true) :
    b + n * 86400 ≤ t := by
  obtain ⟨_, bound, ht, hb, hle⟩ := ge_iff.1 h
  cases ht
  rwa [dateAdd_eq_some hb] at hle

lemma lt_of_lt {n : ℤ} {b : ℤ} (h : lt (some t) (dateAdd known b n) = true) :
    t < b + n * 86400 := by
  obtain ⟨_, bound, ht, hb, hlt⟩ := lt_iff.1 h
  cases ht
  rwa [dateAdd_eq_some hb] at hlt

/-- A range of one day takes the one calendar day. -/
lemma day_of_timeFilter (hday : IsDay range) (hone : OneDay range)
    (h : timeFilter known range (some t) (some a) = true) : OnDays range (dayOf a) t := by
  have hdays := hone.days
  unfold timeFilter at h
  split_ifs at h with htoday hoffset
  · have hzero := hone.today htoday
    rw [Bool.and_eq_true] at h
    obtain ⟨t', b, ht, hb, hle⟩ := ge_iff.1 h.1
    cases ht
    cases hb
    have hsame := today_iff.1 ⟨hle, lt_of_lt h.2⟩
    unfold OnDays
    omega
  · rw [Bool.and_eq_true] at h
    have hsame := dayBefore_iff.1 ⟨le_of_ge h.1, lt_of_lt h.2⟩
    unfold OnDays
    omega
  · exact absurd hday (not_or.2 ⟨htoday, hoffset⟩)

/-- Another range takes no day before the first one. -/
lemma notBefore_of_timeFilter (hday : ¬IsDay range)
    (h : timeFilter known range (some t) (some a) = true) : dayOf a - range.days ≤ dayOf t := by
  obtain ⟨htoday, hoffset⟩ := not_or.1 hday
  rw [timeFilter, if_neg htoday, if_neg hoffset] at h
  exact rolling_bound (le_of_ge h)

/-- Every day of the window is taken. -/
lemma timeFilter_of_onDays (hone : IsDay range → OneDay range)
    (hknown : Representable known range a) (h : OnDays range (dayOf a) t) :
    timeFilter known range (some t) (some a) = true := by
  obtain ⟨hdates, hrolling⟩ := hknown
  have hbound : ∀ n ∈ [1, -range.offsetDays, -(range.offsetDays - 1)],
      dateAdd known (date a) n = some (date a + n * 86400) :=
    fun n hn => if_pos (hdates n hn)
  unfold OnDays at h
  unfold timeFilter
  split_ifs with htoday hoffset
  · have hday := hone (.inl htoday)
    have hdays := hday.days
    have hzero := hday.today htoday
    have hsame := today_iff.2 (show dayOf t = dayOf a by omega)
    rw [Option.bind_some, hbound 1 (by simp), Bool.and_eq_true]
    exact ⟨decide_eq_true hsame.1, decide_eq_true hsame.2⟩
  · have hdays := (hone (.inr hoffset)).days
    have hsame := dayBefore_iff.2 (show dayOf t = dayOf a - range.offsetDays by omega)
    rw [Option.bind_some, Option.bind_some, hbound _ (by simp), hbound _ (by simp),
      Bool.and_eq_true]
    exact ⟨decide_eq_true hsame.1, decide_eq_true hsame.2⟩
  · have hoffset : range.offsetDays = 0 := not_not.1 hoffset
    have hle : a + -range.days * 86400 ≤ t := rolling_complete (by omega)
    rw [Option.bind_some, dateAdd, if_pos hrolling]
    exact decide_eq_true hle

end

/-! ### The queries -/

lemma windowed {known : ℤ → Bool} {range : BusinessTimeRange}
    (hone : IsDay range → OneDay range) (p : Part) : p.Windowed known range where
  anchored row hrow := anchored_of_timeFilter (List.mem_filter.1 hrow).2
  day t a ht ha hday := by
    have hfilter := (List.mem_filter.1 ht).2
    rw [ha] at hfilter
    exact day_of_timeFilter hday (hone hday) hfilter
  notBefore t a ht ha hday := by
    have hfilter := (List.mem_filter.1 ht).2
    rw [ha] at hfilter
    exact notBefore_of_timeFilter hday hfilter
  complete t a ht ha hknown hdays := by
    refine List.mem_filter.2 ⟨ht, ?_⟩
    rw [ha]
    exact timeFilter_of_onDays hone hknown hdays

variable {known : ℤ → Bool} {db : Tables} {scope : Scope} {range : BusinessTimeRange}

lemma activeRange_cases (metric : Metric) : metric.activeRange db scope known range = range ∨
    metric = .hotProducts ∧ findsProducts db scope known range = false ∧
      metric.activeRange db scope known range = lastYear := by
  cases metric with
  | dailyMetrics => exact .inl rfl
  | dailyRisks => exact .inl rfl
  | hotProducts =>
    cases hfinds : findsProducts db scope known range with
    | true => exact .inl (by simp [Metric.activeRange, hfinds])
    | false => exact .inr ⟨rfl, rfl, by simp [Metric.activeRange, hfinds]⟩

/-- The sold orders are orders of the shop. -/
lemma saleTimes_subset : saleTimes db scope ⊆ ownOrderTimes db scope := by
  intro t ht
  simp only [saleTimes, sales, List.mem_map, List.mem_filter, List.mem_flatMap] at ht
  obtain ⟨⟨o, oi⟩, ⟨⟨o', ho', oi', -, heq⟩, hcondition⟩, rfl⟩ := ht
  obtain ⟨rfl, rfl⟩ := Prod.mk.inj heq
  simp only [decide_eq_true_eq] at hcondition
  exact List.mem_map.2 ⟨o', List.mem_filter.2 ⟨ho', by simp [hcondition.2.1]⟩, rfl⟩

/-- Every range that a parser returns gives each table the window of its anchor: all of the orders
in the daily queries, and the table's own in `query_hot_products`, whose fallback covers a year. -/
theorem windows (D : Decimals) (known : ℤ → Bool) (db : Tables) (scope : Scope)
    (range : BusinessTimeRange) (h : Returned D range) (metric : Metric) :
    metric.Windows known db scope range where
  active := activeRange_cases metric
  windowed p _ := by
    have hcases : metric.activeRange db scope known range = range ∨ _ := activeRange_cases metric
    refine windowed (fun hday => ?_) p
    rcases hcases with heq | ⟨-, -, heq⟩
    · rw [heq] at hday ⊢
      exact oneDay_of_returned h hday
    · rw [heq] at hday
      exact absurd hday (not_or.2 ⟨by decide, by decide⟩)
  common hmetric p hp := by
    cases metric with
    | dailyMetrics =>
      simp only [Metric.parts, List.mem_cons, List.not_mem_nil, or_false] at hp
      rcases hp with rfl | rfl | rfl <;> rfl
    | dailyRisks =>
      simp only [Metric.parts, List.mem_cons, List.not_mem_nil, or_false] at hp
      rcases hp with rfl | rfl | rfl <;> rfl
    | hotProducts => exact absurd rfl hmetric
  own hmetric p hp := by
    subst hmetric
    simp only [Metric.parts, List.mem_cons, List.not_mem_nil, or_false] at hp
    rcases hp with rfl | rfl | rfl
    · exact saleTimes_subset
    · exact List.Subset.refl _
    · exact List.Subset.refl _

/-! ### A table that is behind -/

/-- The shop. -/
def shop : Scope := ⟨"tenant-1", "shop-1"⟩

/-- One sale on day 100, and traffic on day 105. -/
def lateTraffic : Tables where
  orders := [⟨shop, "order-1", "delivered", some (100 * 86400 + 3600)⟩]
  orderItems := [⟨shop, "order-1", "product-1"⟩]
  products := [⟨shop, "product-1"⟩]
  traffic := [⟨shop, some (105 * 86400)⟩]

/-- `BusinessTimeRange("today", 1)`. -/
def today : BusinessTimeRange where
  label := "today"
  days := 1

theorem windows_today : Metric.hotProducts.Windows (fun _ => true) lateTraffic shop today :=
  windows .asciiOnly (fun _ => true) lateTraffic shop today (.inl ⟨"今天", by decide⟩) .hotProducts

/-- The conversion of the product is computed from a sale and from traffic of another day. -/
theorem not_oneWindow_traffic :
    ¬OneWindow (fun _ => true)
      (Metric.hotProducts.activeRange lateTraffic shop (fun _ => true) today)
      (Metric.hotProducts.parts lateTraffic shop) := by
  rintro ⟨day, h⟩
  have hactive : Metric.hotProducts.activeRange lateTraffic shop (fun _ => true) today = today := by
    decide
  rw [hactive] at h
  have hsale : some (100 * 86400 + 3600) ∈ Part.taken (fun _ => true) today
      ⟨ownOrderTimes lateTraffic shop, saleTimes lateTraffic shop⟩ := by
    decide
  have htraffic : some (105 * 86400) ∈ Part.taken (fun _ => true) today
      ⟨trafficTimes lateTraffic shop, trafficTimes lateTraffic shop⟩ := by
    decide
  obtain ⟨t, ht, hlow, hhigh⟩ := h _ (by simp [Metric.parts]) _ hsale
  obtain ⟨t', ht', hlow', hhigh'⟩ := h _ (by simp [Metric.parts]) _ htraffic
  cases ht
  cases ht'
  simp only [today, dayOf] at hlow hhigh hlow' hhigh'
  omega

end EcommerceAgent.Database.TimeWindow
