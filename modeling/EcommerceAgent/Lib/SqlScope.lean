/-
# Queries that only read the rows of one owner

Some tables hold the rows of many owners, marked in columns.  A query is scoped when every table it
reads is restricted to one owner: by the `WHERE` clause of its query block or the `ON` clause of its
join, and by the `ON` clause when the table is on the right of a `LEFT JOIN`.  Some sub-queries may
be released, which read more.  A scoped query has the same result in all databases that agree on the
rows of the owner and on the results of the released queries (`Query.eval_agree`).
-/
import EcommerceAgent.Lib.SqlQuery

namespace EcommerceAgent.Lib.SqlQuery

/-- The columns that mark the owner's rows, each with the parameter it must be equal to, table by
table; other tables are out of reach. -/
abbrev Owner := String → Option (List (String × String))

/-! ### Scoped queries -/

section Scoped

/-- The expression is a conjunction with the condition `source.column = param`. -/
def Expr.requires (source column param : String) : Expr → Bool
  | .eq (.col s c) (.param p) => s == source && c == column && p == param
  | .and a b => a.requires source column param || b.requires source column param
  | _ => false

variable (owner : Owner) (released : Query → Bool)

/-- The expression restricts a table, given by its name in the query and its own, to the owner. -/
def Expr.guards (e : Expr) (ref : String × String) : Bool :=
  (owner ref.2).any fun marks => marks.all fun m => e.requires ref.1 m.1 m.2

/-- The tables of a `FROM` clause that its joins do not restrict to the owner. -/
def Source.unguarded : Source → List (String × String)
  | .table name source => [(source, name)]
  | .named _ _ => []
  | .join l r on => (l.unguarded ++ r.unguarded).filter fun ref => !on.guards owner ref
  | .leftJoin l _ _ => l.unguarded

mutual

/-- The sub-queries of the expression are scoped or released. -/
def Expr.scoped : Expr → Bool
  | .true_ | .lit _ | .num _ | .param _ | .col _ _ => true
  | .eq a b => a.scoped && b.scoped
  | .and a b => a.scoped && b.scoped
  | .fn _ args => args.scoped
  | .agg _ e => e.scoped
  | .scalar q => released q || q.scoped

def Exprs.scoped : Exprs → Bool
  | .nil => true
  | .cons e es => e.scoped && es.scoped

/-- The joins are scoped, and the tables on the right of an outer join are restricted there. -/
def Source.scoped : Source → Bool
  | .table _ _ => true
  | .named _ _ => true
  | .join l r on => l.scoped && r.scoped && on.scoped && l.names.all fun n => !r.names.contains n
  | .leftJoin l r on =>
    l.scoped && r.scoped && on.scoped && (l.names.all fun n => !r.names.contains n) &&
      (r.unguarded owner).all fun ref => on.guards owner ref

/-- Every table that the query reads outside of the released queries is restricted to the owner. -/
def Query.scoped : Query → Bool
  | .select _ _ items source condition _ keys order _ _ =>
    items.scoped && source.scoped && condition.scoped && keys.scoped && order.scoped &&
      (source.unguarded owner).all fun ref => condition.guards owner ref
  | .unionAll l r => l.scoped && r.scoped
  | .with_ _ q body => (released q || q.scoped) && body.scoped

end

end Scoped

/-! ### Databases that agree -/

section Agreement

variable {V : Type} (srv : Server V) (params : String → V) (owner : Owner)
  (released : Query → Bool)

/-- The row has the owner's values. -/
def own (marks : List (String × String)) (r : Row V) : Bool :=
  marks.all fun m => srv.truth (srv.eq (Row.get srv r m.1) (params m.2))

/-- The databases have the same rows of the owner, in the same order, and the same results of the
released queries. -/
structure Agree (db db' : Db V) : Prop where
  rows : ∀ name marks, owner name = some marks →
    (db name).filter (own srv params marks) = (db' name).filter (own srv params marks)
  released : ∀ q, released q = true → ∀ ctes outer,
    q.eval srv params db ctes outer = q.eval srv params db' ctes outer

end Agreement

/-! ### Names in a row -/

section Names

variable {V : Type} {srv : Server V} {params : String → V} {owner : Owner} {db : Db V}

lemma lookup_of_mem {env : Env V} {n : String} (h : n ∈ env.map Prod.fst) :
    ∃ r, env.lookup n = some r := by
  induction env with
  | nil => cases h
  | cons p env ih =>
    by_cases hp : n = p.1
    · exact ⟨p.2, by simp [List.lookup, hp]⟩
    · have hmem : n ∈ env.map Prod.fst := by simpa [hp] using h
      obtain ⟨r, hr⟩ := ih hmem
      have hne : (n == p.1) = false := by simpa using hp
      exact ⟨r, by rw [List.lookup, hne]; exact hr⟩

lemma lookup_of_notMem {env : Env V} {n : String} (h : n ∉ env.map Prod.fst) :
    env.lookup n = none := by
  induction env with
  | nil => rfl
  | cons p env ih =>
    simp only [List.map_cons, List.mem_cons, not_or] at h
    have hne : (n == p.1) = false := by simpa using h.1
    rw [List.lookup, hne]
    exact ih h.2

lemma lookup_append_left {a b : Env V} {n : String} (h : n ∈ a.map Prod.fst) :
    (a ++ b).lookup n = a.lookup n := by
  obtain ⟨r, hr⟩ := lookup_of_mem h
  rw [List.lookup_append, hr]
  rfl

lemma lookup_append_right {a b : Env V} {n : String} (h : n ∉ a.map Prod.fst) :
    (a ++ b).lookup n = b.lookup n := by
  rw [List.lookup_append, lookup_of_notMem h]
  rfl

/-- A row of a `FROM` clause has the names that the clause introduces. -/
lemma Source.map_fst : ∀ (s : Source) (ctes) (outer : Env V),
    ∀ env ∈ s.eval srv params db ctes outer, env.map Prod.fst = s.names
  | .table name source, _, _ => by
    intro env h
    obtain ⟨r, -, rfl⟩ := List.mem_map.mp h
    rfl
  | .named name source, _, _ => by
    intro env h
    obtain ⟨r, -, rfl⟩ := List.mem_map.mp h
    rfl
  | .join l r on, ctes, outer => by
    intro env h
    obtain ⟨a, ha, henv⟩ := List.mem_flatMap.mp h
    obtain ⟨b, hb, rfl⟩ := List.mem_map.mp (List.mem_filter.mp henv).1
    rw [List.map_append, map_fst l ctes outer a ha, map_fst r ctes outer b hb]
    rfl
  | .leftJoin l r on, ctes, outer => by
    intro env h
    rw [Source.eval] at h
    obtain ⟨a, ha, henv⟩ := List.mem_flatMap.mp h
    simp only at henv
    split_ifs at henv
    · obtain rfl := List.mem_singleton.mp henv
      have hnull : (nullRow r.names : Env V).map Prod.fst = r.names := by
        simp [nullRow, Function.comp_def]
      rw [List.map_append, map_fst l ctes outer a ha, hnull]
      rfl
    · obtain ⟨b, hb, rfl⟩ := List.mem_map.mp (List.mem_filter.mp henv).1
      rw [List.map_append, map_fst l ctes outer a ha, map_fst r ctes outer b hb]
      rfl

lemma Source.fst_mem_names : ∀ (s : Source), ∀ ref ∈ s.unguarded owner, ref.1 ∈ s.names
  | .table name source => by simp [unguarded, names]
  | .named name source => by simp [unguarded]
  | .join l r on => by
    intro ref h
    rcases List.mem_append.mp (List.mem_filter.mp h).1 with h | h
    · exact List.mem_append_left _ (fst_mem_names l ref h)
    · exact List.mem_append_right _ (fst_mem_names r ref h)
  | .leftJoin l r on => fun ref h => List.mem_append_left _ (fst_mem_names l ref h)

/-- The names of the two sides of a join are different. -/
lemma notMem_of_disjoint {l r : List String} (h : (l.all fun n => !r.contains n) = true)
    {n : String} (hn : n ∈ r) : n ∉ l := by
  intro hl
  have := List.all_eq_true.mp h n hl
  simp [hn] at this

end Names

/-! ### Conditions that restrict a table -/

section Guards

variable {V : Type} {srv : Server V} {params : String → V} {owner : Owner} {db : Db V}

variable (srv params owner) in
/-- The row that a name stands for has the owner's values. -/
def ownRef (env : Env V) (ref : String × String) : Bool :=
  (owner ref.2).any fun marks => own srv params marks ((env.lookup ref.1).getD [])

variable (srv params owner) in
/-- The rows that the names stand for have the owner's values. -/
def ownRefs (refs : List (String × String)) (env : Env V) : Bool :=
  refs.all (ownRef srv params owner env)

/-- Where a conjunction is true, its conditions hold. -/
lemma Expr.requires_sound {e : Expr} {source column param : String}
    (h : e.requires source column param = true) {ctes group} {env : Env V}
    (htrue : srv.truth (e.eval srv params db ctes group env) = true) :
    srv.truth (srv.eq (Env.get srv env source column) (params param)) = true := by
  fun_induction Expr.requires source column param e with
  | case1 s c p =>
    simp only [Bool.and_eq_true, beq_iff_eq] at h
    obtain ⟨⟨rfl, rfl⟩, rfl⟩ := h
    simpa [Expr.eval] using htrue
  | case2 a b iha ihb =>
    rw [Expr.eval, srv.truth_and, Bool.and_eq_true] at htrue
    rcases Bool.or_eq_true_iff.mp h with h | h
    · exact iha h htrue.1
    · exact ihb h htrue.2
  | case3 => cases h

lemma Expr.guards_sound {e : Expr} {ref : String × String} (h : e.guards owner ref = true)
    {ctes group} {env : Env V} (htrue : srv.truth (e.eval srv params db ctes group env) = true) :
    ownRef srv params owner env ref = true := by
  cases hmarks : owner ref.2 with
  | none => simp [Expr.guards, hmarks] at h
  | some marks =>
    simp only [Expr.guards, hmarks, Option.any_some] at h
    simp only [ownRef, hmarks, Option.any_some]
    exact List.all_eq_true.mpr fun m hm =>
      Expr.requires_sound (List.all_eq_true.mp h m hm) htrue

lemma all_congr_of_mem {α : Type} {l : List α} {p q : α → Bool} (h : ∀ x ∈ l, p x = q x) :
    l.all p = l.all q := by
  rw [Bool.eq_iff_iff, List.all_eq_true, List.all_eq_true]
  exact forall₂_congr fun x hx => by rw [h x hx]

lemma ownRefs_append_left {refs : List (String × String)} {a b : Env V}
    (h : ∀ ref ∈ refs, ref.1 ∈ a.map Prod.fst) :
    ownRefs srv params owner refs (a ++ b) = ownRefs srv params owner refs a := by
  refine all_congr_of_mem fun ref href => ?_
  rw [ownRef, ownRef, lookup_append_left (h ref href)]

lemma ownRefs_append_right {refs : List (String × String)} {a b : Env V}
    (h : ∀ ref ∈ refs, ref.1 ∉ a.map Prod.fst) :
    ownRefs srv params owner refs (a ++ b) = ownRefs srv params owner refs b := by
  refine all_congr_of_mem fun ref href => ?_
  rw [ownRef, ownRef, lookup_append_right (h ref href)]

lemma ownRefs_filter {refs : List (String × String)} {env : Env V} {g : String × String → Bool}
    (h : ∀ ref ∈ refs, g ref = true → ownRef srv params owner env ref = true) :
    ownRefs srv params owner (refs.filter fun ref => !g ref) env =
      ownRefs srv params owner refs env := by
  rw [ownRefs, ownRefs, Bool.eq_iff_iff, List.all_eq_true, List.all_eq_true]
  constructor
  · intro hall ref href
    by_cases hg : g ref = true
    · exact h ref href hg
    · exact hall ref (List.mem_filter.mpr ⟨href, by simpa using hg⟩)
  · exact fun hall ref href => hall ref (List.mem_filter.mp href).1

/-- Where a condition restricts all tables of a `FROM` clause, it only holds for the owner's
rows. -/
lemma ownRefs_of_guards {s : Source} {e : Expr} {ctes} {outer env : Env V}
    (hguards : ((s.unguarded owner).all fun ref => e.guards owner ref) = true)
    (henv : env ∈ s.eval srv params db ctes outer) (pre post : Env V)
    (hpre : ∀ ref ∈ s.unguarded owner, ref.1 ∉ pre.map Prod.fst)
    (htrue : srv.truth (e.eval srv params db ctes [] (pre ++ env ++ post)) = true) :
    ownRefs srv params owner (s.unguarded owner) env = true := by
  refine List.all_eq_true.mpr fun ref href => ?_
  have hmem : ref.1 ∈ env.map Prod.fst :=
    (s.map_fst ctes outer env henv).symm ▸ s.fst_mem_names ref href
  have hown := Expr.guards_sound (List.all_eq_true.mp hguards ref href) htrue
  rwa [ownRef, List.append_assoc, lookup_append_right (hpre ref href),
    lookup_append_left hmem] at hown

end Guards

/-! ### Joins of the owner's rows -/

section Lists

variable {α β γ : Type}

lemma filter_join_row {R : List β} {on P : γ → Bool} {mk : β → γ} {kept : Bool} {q : β → Bool}
    (h : ∀ b ∈ R, on (mk b) = true → P (mk b) = (kept && q b)) :
    ((R.map mk).filter on).filter P = if kept then ((R.filter q).map mk).filter on else [] := by
  induction R with
  | nil => simp
  | cons b R ih =>
    have ih := ih fun x hx => h x (List.mem_cons_of_mem _ hx)
    have hb := h b List.mem_cons_self
    cases hon : on (mk b) with
    | false =>
      rw [List.map_cons, List.filter_cons_of_neg (by simp [hon]), ih, List.filter_cons]
      cases hq : q b with
      | false => simp
      | true => simp [hon]
    | true =>
      rw [List.map_cons, List.filter_cons_of_pos (by simp [hon]), List.filter_cons, ih, hb hon,
        List.filter_cons (p := q)]
      cases kept with
      | false => simp
      | true =>
        cases hq : q b with
        | false => simp
        | true => simp [hon]

/-- Filtering what a join made is joining what the filters leave. -/
lemma filter_join {L : List α} {R : List β} {on P : γ → Bool} {mk : α → β → γ} {p : α → Bool}
    {q : β → Bool} (h : ∀ a ∈ L, ∀ b ∈ R, on (mk a b) = true → P (mk a b) = (p a && q b)) :
    (L.flatMap fun a => (R.map (mk a)).filter on).filter P
      = (L.filter p).flatMap fun a => ((R.filter q).map (mk a)).filter on := by
  induction L with
  | nil => rfl
  | cons a L ih =>
    rw [List.flatMap_cons, List.filter_append, ih fun x hx => h x (List.mem_cons_of_mem _ hx),
      filter_join_row (h a List.mem_cons_self), List.filter_cons]
    split_ifs
    · rw [List.flatMap_cons]
    · rw [List.nil_append]

/-- Filtering by what is known of the left rows is filtering these. -/
lemma filter_flatMap_of {L : List α} {f : α → List γ} {P : γ → Bool} {p : α → Bool}
    (h : ∀ a ∈ L, ∀ x ∈ f a, P x = p a) :
    (L.flatMap f).filter P = (L.filter p).flatMap f := by
  induction L with
  | nil => rfl
  | cons a L ih =>
    have ih := ih fun x hx => h x (List.mem_cons_of_mem _ hx)
    have ha := h a List.mem_cons_self
    rw [List.flatMap_cons, List.filter_append, ih, List.filter_cons]
    by_cases hp : p a = true
    · rw [if_pos hp, List.flatMap_cons, List.filter_eq_self.mpr fun x hx => by rw [ha x hx, hp]]
    · rw [if_neg hp, List.filter_eq_nil_iff.mpr fun x hx => by rw [ha x hx]; exact hp,
        List.nil_append]

/-- Where `P` holds of everything that `on` keeps, filtering by `P` first changes nothing. -/
lemma filter_filter_of_imp {L : List α} {on P : α → Bool} (h : ∀ a ∈ L, on a = true → P a = true) :
    (L.filter P).filter on = L.filter on := by
  rw [List.filter_filter]
  refine List.filter_congr fun a ha => ?_
  cases hon : on a with
  | false => simp
  | true => simp [h a ha hon]

/-- A join only sees the right rows that pass its condition. -/
lemma filter_map_of_imp {R : List β} {mk : β → γ} {on : γ → Bool} {q : β → Bool}
    (h : ∀ b ∈ R, on (mk b) = true → q b = true) :
    (R.map mk).filter on = ((R.filter q).map mk).filter on := by
  have hkept : (R.filter q).filter (on ∘ mk) = R.filter (on ∘ mk) := filter_filter_of_imp h
  rw [List.filter_map, List.filter_map, hkept]

end Lists

/-! ### The same results -/

section Agreement

variable {V : Type} {srv : Server V} {params : String → V} {owner : Owner}
  {released : Query → Bool} {db db' : Db V}

/-- The owner's rows of a table, with its name in the query. -/
lemma filter_table (name source : String) (ctes) (outer : Env V) :
    ((Source.table name source).eval srv params db ctes outer).filter
        (ownRefs srv params owner ((Source.table name source).unguarded owner))
      = ((owner name).elim [] fun marks => (db name).filter (own srv params marks)).map
          fun r => [(source, r)] := by
  have hown : ∀ r : Row V, ownRefs srv params owner [(source, name)] [(source, r)]
      = (owner name).any fun marks => own srv params marks r := by
    intro r
    simp [ownRefs, ownRef]
  simp only [Source.eval, Source.unguarded, List.filter_map, Function.comp_def, hown]
  cases owner name with
  | none => simp
  | some marks => simp

/-- The owner's rows of a join come from the owner's rows of its sides. -/
lemma filter_join_eval {l r : Source} {on : Expr}
    (hnames : (l.names.all fun n => !r.names.contains n) = true) (ctes) (outer : Env V) :
    ((Source.join l r on).eval srv params db ctes outer).filter
        (ownRefs srv params owner ((Source.join l r on).unguarded owner))
      = ((l.eval srv params db ctes outer).filter
          (ownRefs srv params owner (l.unguarded owner))).flatMap fun a =>
            (((r.eval srv params db ctes outer).filter
              (ownRefs srv params owner (r.unguarded owner))).map (a ++ ·)).filter fun env =>
                srv.truth (on.eval srv params db ctes [] (env ++ outer)) := by
  refine filter_join fun a ha b hb hon => ?_
  have hl := l.map_fst ctes outer a ha
  have hr := r.map_fst ctes outer b hb
  have hguards : ∀ ref ∈ l.unguarded owner ++ r.unguarded owner, on.guards owner ref = true →
      ownRef srv params owner (a ++ b) ref = true := by
    intro ref href hguard
    have hmem : ref.1 ∈ (a ++ b).map Prod.fst := by
      rw [List.map_append, hl, hr]
      rcases List.mem_append.mp href with h | h
      · exact List.mem_append_left _ (l.fst_mem_names ref h)
      · exact List.mem_append_right _ (r.fst_mem_names ref h)
    have := Expr.guards_sound hguard hon
    rwa [ownRef, lookup_append_left hmem] at this
  rw [Source.unguarded, ownRefs_filter hguards, ownRefs, List.all_append]
  congr 1
  · exact ownRefs_append_left fun ref href => hl ▸ l.fst_mem_names ref href
  · refine ownRefs_append_right fun ref href => ?_
    rw [hl]
    exact notMem_of_disjoint hnames (r.fst_mem_names ref href)

/-- The owner's rows of an outer join come from the owner's rows of its sides. -/
lemma filter_leftJoin_eval {l r : Source} {on : Expr}
    (hnames : (l.names.all fun n => !r.names.contains n) = true)
    (hguards : ((r.unguarded owner).all fun ref => on.guards owner ref) = true)
    (ctes) (outer : Env V) :
    ((Source.leftJoin l r on).eval srv params db ctes outer).filter
        (ownRefs srv params owner ((Source.leftJoin l r on).unguarded owner))
      = ((l.eval srv params db ctes outer).filter
          (ownRefs srv params owner (l.unguarded owner))).flatMap fun a =>
            let joined := (((r.eval srv params db ctes outer).filter
              (ownRefs srv params owner (r.unguarded owner))).map (a ++ ·)).filter fun env =>
                srv.truth (on.eval srv params db ctes [] (env ++ outer))
            if joined.isEmpty then [a ++ nullRow r.names] else joined := by
  have hright : ∀ a ∈ l.eval srv params db ctes outer,
      ((r.eval srv params db ctes outer).map (a ++ ·)).filter
          (fun env => srv.truth (on.eval srv params db ctes [] (env ++ outer)))
        = (((r.eval srv params db ctes outer).filter
            (ownRefs srv params owner (r.unguarded owner))).map (a ++ ·)).filter fun env =>
              srv.truth (on.eval srv params db ctes [] (env ++ outer)) := by
    intro a ha
    refine filter_map_of_imp fun b hb hon => ?_
    refine ownRefs_of_guards hguards hb a outer (fun ref href => ?_) hon
    rw [l.map_fst ctes outer a ha]
    exact notMem_of_disjoint hnames (r.fst_mem_names ref href)
  -- every row of the outer join extends a row of the left side
  rw [Source.eval, Source.unguarded, filter_flatMap_of (p := ownRefs srv params owner
    (l.unguarded owner))]
  · refine List.flatMap_congr fun a ha => ?_
    rw [hright a (List.mem_filter.mp ha).1]
  · intro a ha x hx
    have hleft : ∀ ref ∈ l.unguarded owner, ref.1 ∈ a.map Prod.fst := fun ref href =>
      l.map_fst ctes outer a ha ▸ l.fst_mem_names ref href
    obtain ⟨b, rfl⟩ : ∃ b, x = a ++ b := by
      simp only at hx
      split_ifs at hx
      · exact ⟨_, List.mem_singleton.mp hx⟩
      · obtain ⟨b, -, hb⟩ := List.mem_map.mp (List.mem_filter.mp hx).1
        exact ⟨b, hb.symm⟩
    exact ownRefs_append_left hleft

mutual

/-- A scoped expression has the same value in databases that agree. -/
theorem Expr.eval_agree (h : Agree srv params owner released db db') :
    ∀ e : Expr, e.scoped owner released = true → ∀ ctes group env,
      e.eval srv params db ctes group env = e.eval srv params db' ctes group env
  | .true_, _ | .lit _, _ | .num _, _ | .param _, _ | .col _ _, _ => fun _ _ _ => rfl
  | .eq a b, hs => fun ctes group env => by
    have hab := Bool.and_eq_true_iff.mp hs
    rw [Expr.eval, Expr.eval, Expr.eval_agree h a hab.1, Expr.eval_agree h b hab.2]
  | .and a b, hs => fun ctes group env => by
    have hab := Bool.and_eq_true_iff.mp hs
    rw [Expr.eval, Expr.eval, Expr.eval_agree h a hab.1, Expr.eval_agree h b hab.2]
  | .fn name args, hs => fun ctes group env => by
    rw [Expr.eval, Expr.eval, Exprs.eval_agree h args hs]
  | .agg name e, hs => fun ctes group env => by
    simp only [Expr.eval, Expr.eval_agree h e hs]
  | .scalar q, hs => fun ctes group env => by
    have hq : q.eval srv params db ctes env = q.eval srv params db' ctes env := by
      rcases Bool.or_eq_true_iff.mp hs with hq | hq
      · exact h.released q hq ctes env
      · exact Query.eval_agree h q hq ctes env
    rw [Expr.eval, Expr.eval, hq]

theorem Exprs.eval_agree (h : Agree srv params owner released db db') :
    ∀ es : Exprs, es.scoped owner released = true → ∀ ctes group env,
      es.eval srv params db ctes group env = es.eval srv params db' ctes group env
  | .nil, _ => fun _ _ _ => rfl
  | .cons e es, hs => fun ctes group env => by
    have hes := Bool.and_eq_true_iff.mp hs
    rw [Exprs.eval, Exprs.eval, Expr.eval_agree h e hes.1, Exprs.eval_agree h es hes.2]

/-- The rows of a scoped `FROM` clause that are the owner's are the same. -/
theorem Source.eval_agree (h : Agree srv params owner released db db') :
    ∀ s : Source, s.scoped owner released = true → ∀ ctes outer,
      (s.eval srv params db ctes outer).filter (ownRefs srv params owner (s.unguarded owner))
        = (s.eval srv params db' ctes outer).filter
            (ownRefs srv params owner (s.unguarded owner))
  | .table name source, _ => fun ctes outer => by
    rw [filter_table, filter_table]
    cases hmarks : owner name with
    | none => rfl
    | some marks => rw [Option.elim_some, Option.elim_some, h.rows name marks hmarks]
  | .named name source, _ => fun _ _ => rfl
  | .join l r on, hs => fun ctes outer => by
    simp only [Source.scoped, Bool.and_eq_true] at hs
    obtain ⟨⟨⟨hl, hr⟩, hon⟩, hnames⟩ := hs
    rw [filter_join_eval hnames, filter_join_eval hnames, Source.eval_agree h l hl,
      Source.eval_agree h r hr]
    simp only [Expr.eval_agree h on hon]
  | .leftJoin l r on, hs => fun ctes outer => by
    simp only [Source.scoped, Bool.and_eq_true] at hs
    obtain ⟨⟨⟨⟨hl, hr⟩, hon⟩, hnames⟩, hguards⟩ := hs
    rw [filter_leftJoin_eval hnames hguards, filter_leftJoin_eval hnames hguards,
      Source.eval_agree h l hl, Source.eval_agree h r hr]
    simp only [Expr.eval_agree h on hon]

/-- A scoped query has the same result. -/
theorem Query.eval_agree (h : Agree srv params owner released db db') :
    ∀ q : Query, q.scoped owner released = true → ∀ ctes outer,
      q.eval srv params db ctes outer = q.eval srv params db' ctes outer
  | .select distinct names items source condition grouped keys order descending limit,
      hs => fun ctes outer => by
    simp only [Query.scoped, Bool.and_eq_true] at hs
    obtain ⟨⟨⟨⟨⟨hitems, hsource⟩, hcondition⟩, hkeys⟩, horder⟩, hguards⟩ := hs
    -- the condition only lets rows of the owner through
    have hrows : ∀ db : Db V, (source.eval srv params db ctes outer).filter (fun env =>
          srv.truth (condition.eval srv params db ctes [] (env ++ outer)))
        = ((source.eval srv params db ctes outer).filter
            (ownRefs srv params owner (source.unguarded owner))).filter fun env =>
              srv.truth (condition.eval srv params db ctes [] (env ++ outer)) := by
      intro db
      refine (filter_filter_of_imp fun env henv htrue => ?_).symm
      exact ownRefs_of_guards hguards henv [] outer (fun _ _ => List.not_mem_nil) htrue
    have hkept : (source.eval srv params db ctes outer).filter (fun env =>
          srv.truth (condition.eval srv params db ctes [] (env ++ outer)))
        = (source.eval srv params db' ctes outer).filter fun env =>
            srv.truth (condition.eval srv params db' ctes [] (env ++ outer)) := by
      rw [hrows db, hrows db', Source.eval_agree h source hsource]
      simp only [Expr.eval_agree h condition hcondition]
    rw [Query.eval, Query.eval]
    rw [hkept]
    simp only [Exprs.eval_agree h keys hkeys, Exprs.eval_agree h items hitems,
      Exprs.eval_agree h order horder]
  | .unionAll l r, hs => fun ctes outer => by
    have hlr := Bool.and_eq_true_iff.mp hs
    rw [Query.eval, Query.eval, Query.eval_agree h l hlr.1, Query.eval_agree h r hlr.2]
  | .with_ name q body, hs => fun ctes outer => by
    have hqb := Bool.and_eq_true_iff.mp hs
    have hq : q.eval srv params db ctes outer = q.eval srv params db' ctes outer := by
      rcases Bool.or_eq_true_iff.mp hqb.1 with hq | hq
      · exact h.released q hq ctes outer
      · exact Query.eval_agree h q hq ctes outer
    rw [Query.eval, Query.eval, hq, Query.eval_agree h body hqb.2]

end

end Agreement

end EcommerceAgent.Lib.SqlQuery
