/-
# Programs of statements that may fail

A script is the rest of a sequential program: a value it returns, an exception it raises, or its
next statement together with what comes after it.  A `query` is answered by a server that may refuse
it, and then it raises instead of taking effect; an `act` always goes through.  Scripts are run one
statement at a time (`step`), so that several of them can be interleaved, or to the end (`exec`).

`Through` is a rely-guarantee judgement about a script.  It says what holds whatever happens to its
statements, among the failures that `mayFail` allows, and whatever steps of `R` others take between
them: every effect is a step of `G`, and the end meets `Q`.
-/
import Mathlib.Tactic.Common

namespace EcommerceAgent.Lib

/-- A program with statements labelled by `ι` over states `σ`, exceptions `ε` and results `α`. -/
inductive Script (ι σ ε α : Type)
  | ret (a : α)
  | raise (e : ε)
  | query (label : ι) (effect : σ → σ) (next : σ → Script ι σ ε α) (failed : ε → Script ι σ ε α)
  | act (label : ι) (effect : σ → σ) (next : σ → Script ι σ ε α)

namespace Script

variable {ι σ ε α β : Type}

/-- Sequential composition. -/
def bind : Script ι σ ε α → (α → Script ι σ ε β) → Script ι σ ε β
  | ret a, k => k a
  | raise e, _ => raise e
  | query i f n b, k => query i f (fun s => (n s).bind k) fun e => (b e).bind k
  | act i f n, k => act i f fun s => (n s).bind k

/-- `try: … except: …`, where the handler sees every exception. -/
def tryCatch : Script ι σ ε α → (ε → Script ι σ ε α) → Script ι σ ε α
  | ret a, _ => ret a
  | raise e, h => h e
  | query i f n b, h => query i f (fun s => (n s).tryCatch h) fun e => (b e).tryCatch h
  | act i f n, h => act i f fun s => (n s).tryCatch h

instance : Monad (Script ι σ ε) where
  pure := ret
  bind := bind

instance : MonadExceptOf ε (Script ι σ ε) where
  throw := raise
  tryCatch := tryCatch

/-- A value that was computed, or the exception it raised. -/
def ofExcept : Except ε α → Script ι σ ε α
  | .ok a => ret a
  | .error e => raise e

/-- The label of the next statement. -/
def label? : Script ι σ ε α → Option ι
  | query i .. => some i
  | act i .. => some i
  | _ => none

/-- The next statement takes effect, or raises if it is a query and `failure` is given. -/
def step (failure : Option ε) (s : σ) : Script ι σ ε α → Script ι σ ε α × σ
  | ret a => (ret a, s)
  | raise e => (raise e, s)
  | query _ f n b =>
    match failure with
    | none => (n s, f s)
    | some e => (b e, s)
  | act _ f n => (n s, f s)

/-- The whole run; the list says what happens to the queries, and those after its end succeed. -/
def exec : Script ι σ ε α → List (Option ε) → σ → Except ε α × σ
  | ret a, _, s => (.ok a, s)
  | raise e, _, s => (.error e, s)
  | query _ f n b, failures, s =>
    match failures with
    | [] => (n s).exec [] (f s)
    | none :: failures => (n s).exec failures (f s)
    | some e :: failures => (b e).exec failures s
  | act _ f n, failures, s => (n s).exec failures (f s)

/-- The result, if nothing is left to do. -/
def result? : Script ι σ ε α → Option (Except ε α)
  | ret a => some (.ok a)
  | raise e => some (.error e)
  | _ => none

/-- Whatever happens to the statements, among the failures that `mayFail` allows, and whatever steps
of `R` others take in between: every effect is a step of `G`, and the end meets `Q`. -/
def Through (mayFail : ι → ε → σ → Prop) (R G : σ → σ → Prop) (Q : Except ε α → σ → Prop) :
    Script ι σ ε α → σ → Prop
  | ret a, s => ∀ s', R s s' → Q (.ok a) s'
  | raise e, s => ∀ s', R s s' → Q (.error e) s'
  | query i f n b, s => ∀ s', R s s' →
    (G s' (f s') ∧ Through mayFail R G Q (n s') (f s')) ∧
      ∀ e, mayFail i e s' → Through mayFail R G Q (b e) s'
  | act _ f n, s => ∀ s', R s s' → G s' (f s') ∧ Through mayFail R G Q (n s') (f s')

/-- Every effect is a step of `K`, which may depend on the label, whatever state it starts from. -/
def Effects (K : ι → σ → σ → Prop) : Script ι σ ε α → Prop
  | ret _ => True
  | raise _ => True
  | query i f n b => (∀ s, K i s (f s)) ∧ (∀ s, (n s).Effects K) ∧ ∀ e, (b e).Effects K
  | act i f n => (∀ s, K i s (f s)) ∧ ∀ s, (n s).Effects K

/-! ### The rules -/

@[simp] lemma pure_eq (a : α) : (pure a : Script ι σ ε α) = ret a := rfl

@[simp] lemma bind_eq (p : Script ι σ ε α) (k : α → Script ι σ ε β) : p >>= k = p.bind k := rfl

@[simp] lemma throw_eq (e : ε) : (throw e : Script ι σ ε α) = raise e := rfl

@[simp] lemma tryCatch_eq (p : Script ι σ ε α) (h : ε → Script ι σ ε α) :
    MonadExcept.tryCatch p h = p.tryCatch h := rfl

@[simp] lemma ret_bind (a : α) (k : α → Script ι σ ε β) : (ret a).bind k = k a := rfl

lemma bind_ret (p : Script ι σ ε α) : p.bind ret = p := by
  induction p with
  | ret a => rfl
  | raise e => rfl
  | query i f n b ihn ihb => exact congrArg₂ (query i f) (funext ihn) (funext ihb)
  | act i f n ihn => exact congrArg (act i f) (funext ihn)

lemma bind_bind {γ : Type} (p : Script ι σ ε α) (k : α → Script ι σ ε β) (l : β → Script ι σ ε γ) :
    (p.bind k).bind l = p.bind fun a => (k a).bind l := by
  induction p with
  | ret a => rfl
  | raise e => rfl
  | query i f n b ihn ihb => exact congrArg₂ (query i f) (funext ihn) (funext ihb)
  | act i f n ihn => exact congrArg (act i f) (funext ihn)

variable {mayFail : ι → ε → σ → Prop} {R G : σ → σ → Prop} [Std.Refl R]
  {Q Q' : Except ε α → σ → Prop} {p : Script ι σ ε α} {s s' : σ}

omit [Std.Refl R] in
/-- What others do does not harm. -/
lemma Through.rely [IsTrans σ R] (h : p.Through mayFail R G Q s) (hs : R s s') :
    p.Through mayFail R G Q s' := by
  cases p with
  | ret a => exact fun t ht => h t (Trans.trans hs ht)
  | raise e => exact fun t ht => h t (Trans.trans hs ht)
  | query i f n b => exact fun t ht => h t (Trans.trans hs ht)
  | act i f n => exact fun t ht => h t (Trans.trans hs ht)

/-- The rule of sequential composition. -/
lemma through_bind {Q : Except ε β → σ → Prop} {p : Script ι σ ε α} {k : α → Script ι σ ε β}
    (h : p.Through mayFail R G (fun r s => match r with
      | .ok a => (k a).Through mayFail R G Q s
      | .error e => Q (.error e) s) s) : (p.bind k).Through mayFail R G Q s := by
  induction p generalizing s with
  | ret a => exact h s (refl s)
  | raise e => exact h
  | query i f n b ihn ihb =>
    exact fun t ht => ⟨⟨(h t ht).1.1, ihn t (h t ht).1.2⟩, fun e he => ihb e ((h t ht).2 e he)⟩
  | act i f n ihn => exact fun t ht => ⟨(h t ht).1, ihn t (h t ht).2⟩

/-- The rule of exception handling. -/
lemma through_tryCatch {p : Script ι σ ε α} {handler : ε → Script ι σ ε α}
    (h : p.Through mayFail R G (fun r s => match r with
      | .ok a => Q (.ok a) s
      | .error e => (handler e).Through mayFail R G Q s) s) :
    (p.tryCatch handler).Through mayFail R G Q s := by
  induction p generalizing s with
  | ret a => exact h
  | raise e => exact h s (refl s)
  | query i f n b ihn ihb =>
    exact fun t ht => ⟨⟨(h t ht).1.1, ihn t (h t ht).1.2⟩, fun e he => ihb e ((h t ht).2 e he)⟩
  | act i f n ihn => exact fun t ht => ⟨(h t ht).1, ihn t (h t ht).2⟩

omit [Std.Refl R] in
/-- The rule of consequence. -/
lemma Through.mono (h : p.Through mayFail R G Q s) (hQ : ∀ r s, Q r s → Q' r s) :
    p.Through mayFail R G Q' s := by
  induction p generalizing s with
  | ret a => exact fun t ht => hQ _ _ (h t ht)
  | raise e => exact fun t ht => hQ _ _ (h t ht)
  | query i f n b ihn ihb =>
    exact fun t ht => ⟨⟨(h t ht).1.1, ihn t (h t ht).1.2⟩, fun e he => ihb e ((h t ht).2 e he)⟩
  | act i f n ihn => exact fun t ht => ⟨(h t ht).1, ihn t (h t ht).2⟩

omit [Std.Refl R] in
/-- Others that do less do no harm either. -/
lemma Through.rely_mono {R' : σ → σ → Prop} (h : p.Through mayFail R G Q s)
    (hR : ∀ s s', R' s s' → R s s') : p.Through mayFail R' G Q s := by
  induction p generalizing s with
  | ret a => exact fun t ht => h t (hR _ _ ht)
  | raise e => exact fun t ht => h t (hR _ _ ht)
  | query i f n b ihn ihb =>
    intro t ht
    have hs := h t (hR _ _ ht)
    exact ⟨⟨hs.1.1, ihn t hs.1.2⟩, fun e he => ihb e (hs.2 e he)⟩
  | act i f n ihn =>
    intro t ht
    have hs := h t (hR _ _ ht)
    exact ⟨hs.1, ihn t hs.2⟩

omit [Std.Refl R] in
/-- The rule of constancy: what neither the others nor the script can undo still holds at the end.
-/
lemma Through.stable {I : σ → Prop} (h : p.Through mayFail R G Q s)
    (hR : ∀ s s', I s → R s s' → I s') (hG : ∀ s s', I s → G s s' → I s') (hs : I s) :
    p.Through mayFail R G (fun r s => Q r s ∧ I s) s := by
  induction p generalizing s with
  | ret a => exact fun t ht => ⟨h t ht, hR _ _ hs ht⟩
  | raise e => exact fun t ht => ⟨h t ht, hR _ _ hs ht⟩
  | query i f n b ihn ihb =>
    intro t ht
    have hq := h t ht
    have ht' := hR _ _ hs ht
    exact ⟨⟨hq.1.1, ihn t hq.1.2 (hG _ _ ht' hq.1.1)⟩, fun e he => ihb e (hq.2 e he) ht'⟩
  | act i f n ihn =>
    intro t ht
    have hq := h t ht
    exact ⟨hq.1, ihn t hq.2 (hG _ _ (hR _ _ hs ht) hq.1)⟩

omit [Std.Refl R] in
lemma through_ofExcept {r : Except ε α} (h : ∀ t, R s t → Q r t) :
    (ofExcept r : Script ι σ ε α).Through mayFail R G Q s := by
  cases r with
  | ok a => exact h
  | error e => exact h

/-! ### What a run reaches -/

/-- One statement keeps `Through`, and changes the state by a step of `G` if at all. -/
lemma Through.step (h : p.Through mayFail R G Q s) (failure : Option ε)
    (hfail : ∀ e i, failure = some e → p.label? = some i → mayFail i e s) :
    (p.step failure s).1.Through mayFail R G Q (p.step failure s).2 ∧
      ((p.step failure s).2 = s ∨ G s (p.step failure s).2) := by
  cases p with
  | ret a => exact ⟨h, .inl rfl⟩
  | raise e => exact ⟨h, .inl rfl⟩
  | query i f n b =>
    have hs := h s (refl s)
    cases failure with
    | none => exact ⟨hs.1.2, .inr hs.1.1⟩
    | some e => exact ⟨hs.2 e (hfail e i rfl rfl), .inl rfl⟩
  | act i f n => exact ⟨(h s (refl s)).2, .inr (h s (refl s)).1⟩

/-- At the end the result meets `Q`. -/
lemma Through.result (h : p.Through mayFail R G Q s) {r : Except ε α} (hr : p.result? = some r) :
    Q r s := by
  cases p with
  | ret a =>
    cases hr
    exact h s (refl s)
  | raise e =>
    cases hr
    exact h s (refl s)
  | query | act => cases hr

/-- A run without failures ends as `Through` says. -/
lemma Through.exec_nil (h : p.Through mayFail R G Q s) : Q (p.exec [] s).1 (p.exec [] s).2 := by
  induction p generalizing s with
  | ret a => exact h s (refl s)
  | raise e => exact h s (refl s)
  | query i f n b ihn ihb => exact ihn _ (h s (refl s)).1.2
  | act i f n ihn => exact ihn _ (h s (refl s)).2

/-- If every failure of the list is allowed, the run ends as `Through` says. -/
lemma Through.exec (failures : List (Option ε))
    (hfail : ∀ e, some e ∈ failures → ∀ i s, mayFail i e s) (h : p.Through mayFail R G Q s) :
    Q (p.exec failures s).1 (p.exec failures s).2 := by
  induction p generalizing s failures with
  | ret a => exact h s (refl s)
  | raise e => exact h s (refl s)
  | query i f n b ihn ihb =>
    have hs := h s (refl s)
    match failures with
    | [] => exact ihn _ [] (by simp) hs.1.2
    | none :: failures => exact ihn _ failures (fun e he => hfail e (by simp [he])) hs.1.2
    | some e :: failures =>
      exact ihb e failures (fun e' he => hfail e' (by simp [he])) (hs.2 e (hfail e (by simp) i s))
  | act i f n ihn => exact ihn _ failures hfail (h s (refl s)).2

/-- All effects of a run together are a step of `G`, if `G` composes. -/
lemma Through.exec_guarantee [Std.Refl G] [IsTrans σ G] (failures : List (Option ε))
    (hfail : ∀ e, some e ∈ failures → ∀ i s, mayFail i e s) (h : p.Through mayFail R G Q s) :
    G s (p.exec failures s).2 := by
  induction p generalizing s failures with
  | ret a => exact refl s
  | raise e => exact refl s
  | query i f n b ihn ihb =>
    have hs := h s (refl s)
    match failures with
    | [] => exact Trans.trans hs.1.1 (ihn _ [] (by simp) hs.1.2)
    | none :: failures =>
      exact Trans.trans hs.1.1 (ihn _ failures (fun e he => hfail e (by simp [he])) hs.1.2)
    | some e :: failures =>
      exact ihb e failures (fun e' he => hfail e' (by simp [he])) (hs.2 e (hfail e (by simp) i s))
  | act i f n ihn =>
    have hs := h s (refl s)
    exact Trans.trans hs.1 (ihn _ failures hfail hs.2)

/-- A failure that comes after the last statement does nothing. -/
lemma exec_cut_of_late (p : Script ι σ ε α) (s : σ) (e : ε) :
    ∃ n, ∀ k, n ≤ k → p.exec (List.replicate k none ++ [some e]) s = p.exec [] s := by
  induction p generalizing s with
  | ret a => exact ⟨0, fun _ _ => rfl⟩
  | raise e => exact ⟨0, fun _ _ => rfl⟩
  | query i f n b ihn ihb =>
    obtain ⟨m, hm⟩ := ihn s (f s)
    refine ⟨m + 1, fun k hk => ?_⟩
    obtain ⟨k, rfl⟩ : ∃ k', k = k' + 1 := ⟨k - 1, by omega⟩
    exact hm k (by omega)
  | act i f n ihn => exact ihn s (f s)

/-- What a program does with its result in the end leaves the state alone. -/
lemma exec_bind_ret (p : Script ι σ ε α) (g : α → β) (failures : List (Option ε)) (s : σ) :
    ((p.bind fun a => ret (g a)).exec failures s).2 = (p.exec failures s).2 := by
  induction p generalizing failures s with
  | ret a => rfl
  | raise e => rfl
  | query i f n b ihn ihb =>
    match failures with
    | [] => exact ihn s [] (f s)
    | none :: failures => exact ihn s failures (f s)
    | some e :: failures => exact ihb e failures s
  | act i f n ihn => exact ihn s failures (f s)

/-! ### Effects that do not depend on the state -/

variable {K : ι → σ → σ → Prop}

@[simp] lemma effects_ret (a : α) : (ret a : Script ι σ ε α).Effects K := trivial

@[simp] lemma effects_raise (e : ε) : (raise e : Script ι σ ε α).Effects K := trivial

lemma Effects.bind (hp : p.Effects K) {k : α → Script ι σ ε β} (hk : ∀ a, (k a).Effects K) :
    (p.bind k).Effects K := by
  induction p with
  | ret a => exact hk a
  | raise e => trivial
  | query i f n b ihn ihb =>
    exact ⟨hp.1, fun s => ihn s (hp.2.1 s), fun e => ihb e (hp.2.2 e)⟩
  | act i f n ihn => exact ⟨hp.1, fun s => ihn s (hp.2 s)⟩

/-- One statement of a script changes the state by a step of `K` for its label, if at all. -/
lemma Effects.step (hp : p.Effects K) (failure : Option ε) (s : σ) :
    (p.step failure s).1.Effects K ∧
      ((p.step failure s).2 = s ∨ ∃ i, p.label? = some i ∧ K i s (p.step failure s).2) := by
  cases p with
  | ret a => exact ⟨hp, .inl rfl⟩
  | raise e => exact ⟨hp, .inl rfl⟩
  | query i f n b =>
    cases failure with
    | none => exact ⟨hp.2.1 s, .inr ⟨i, rfl, hp.1 s⟩⟩
    | some e => exact ⟨hp.2.2 e, .inl rfl⟩
  | act i f n => exact ⟨hp.2 s, .inr ⟨i, rfl, hp.1 s⟩⟩

/-- A whole run changes the state by a step of `G`, if all effects are steps of `G` and these
compose. -/
lemma Effects.exec {G : σ → σ → Prop} [Std.Refl G] [IsTrans σ G] (hp : p.Effects fun _ => G)
    (failures : List (Option ε)) (s : σ) : G s (p.exec failures s).2 := by
  induction p generalizing failures s with
  | ret a => exact refl s
  | raise e => exact refl s
  | query i f n b ihn ihb =>
    match failures with
    | [] => exact Trans.trans (hp.1 s) (ihn s (hp.2.1 s) [] (f s))
    | none :: failures => exact Trans.trans (hp.1 s) (ihn s (hp.2.1 s) failures (f s))
    | some e :: failures => exact ihb e (hp.2.2 e) failures s
  | act i f n ihn => exact Trans.trans (hp.1 s) (ihn s (hp.2 s) failures (f s))

/-! ### Failures by label -/

/-- The whole run, if it depends on the label only whether a statement fails. -/
def execBy (fails : ι → Option ε) : Script ι σ ε α → σ → Except ε α × σ
  | ret a, s => (.ok a, s)
  | raise e, s => (.error e, s)
  | query i f n b, s =>
    match fails i with
    | none => (n s).execBy fails (f s)
    | some e => (b e).execBy fails s
  | act _ f n, s => (n s).execBy fails (f s)

/-- `try: … finally: …`. -/
def finally_ (p : Script ι σ ε α) (after : Script ι σ ε Unit) : Script ι σ ε α :=
  (p.tryCatch fun e => after.bind fun _ => raise e).bind fun a => after.bind fun _ => ret a

/-- Code that does its statements one after the other: the first one that fails ends it, after
effects that `K` describes, and if none fails it returns `a` after the effect `f`. -/
def Straight (fails : ι → Option ε) (K : σ → σ → Prop) (stmts : List ι) (p : Script ι σ ε α)
    (a : σ → α) (f : σ → σ) : Prop :=
  ∀ s, (stmts.findSome? fails = none → p.execBy fails s = (.ok (a s), f s)) ∧
    ∀ e, stmts.findSome? fails = some e → ∃ s', p.execBy fails s = (.error e, s') ∧ K s s'

section ExecBy

variable {fails : ι → Option ε}

@[simp] lemma execBy_ret (a : α) : (ret a : Script ι σ ε α).execBy fails s = (.ok a, s) := rfl

@[simp] lemma execBy_raise (e : ε) :
    (raise e : Script ι σ ε α).execBy fails s = (.error e, s) := rfl

lemma execBy_bind (p : Script ι σ ε α) (k : α → Script ι σ ε β) (s : σ) :
    (p.bind k).execBy fails s =
      match (p.execBy fails s).1 with
      | .ok a => (k a).execBy fails (p.execBy fails s).2
      | .error e => (.error e, (p.execBy fails s).2) := by
  induction p generalizing s with
  | ret a => rfl
  | raise e => rfl
  | query i f n b ihn ihb =>
    cases h : fails i with
    | none => simpa only [bind, execBy, h] using ihn s (f s)
    | some e => simpa only [bind, execBy, h] using ihb e s
  | act i f n ihn => exact ihn s (f s)

lemma execBy_tryCatch (p : Script ι σ ε α) (handler : ε → Script ι σ ε α) (s : σ) :
    (p.tryCatch handler).execBy fails s =
      match (p.execBy fails s).1 with
      | .ok a => (.ok a, (p.execBy fails s).2)
      | .error e => (handler e).execBy fails (p.execBy fails s).2 := by
  induction p generalizing s with
  | ret a => rfl
  | raise e => rfl
  | query i f n b ihn ihb =>
    cases h : fails i with
    | none => simpa only [tryCatch, execBy, h] using ihn s (f s)
    | some e => simpa only [tryCatch, execBy, h] using ihb e s
  | act i f n ihn => exact ihn s (f s)

/-- What comes at last is done in any case, if it cannot fail. -/
lemma execBy_finally (p : Script ι σ ε α) (i : ι) (f : σ → σ) (s : σ) :
    (p.finally_ (act i f fun _ => ret ())).execBy fails s =
      ((p.execBy fails s).1, f (p.execBy fails s).2) := by
  rw [finally_, execBy_bind, execBy_tryCatch]
  cases (p.execBy fails s).1 with
  | ok a => rfl
  | error e => rfl

variable {K : σ → σ → Prop} {stmts stmts' : List ι} {a : σ → α} {f : σ → σ}

lemma straight_ret (a : α) : (ret a : Script ι σ ε α).Straight fails K [] (fun _ => a) id :=
  fun _ => ⟨fun _ => rfl, fun _ he => by cases he⟩

lemma straight_act (i : ι) (f : σ → σ) (g : σ → α) :
    (act i f fun s => ret (g s) : Script ι σ ε α).Straight fails K [] g f :=
  fun _ => ⟨fun _ => rfl, fun _ he => by cases he⟩

lemma straight_query [Std.Refl K] (i : ι) (f : σ → σ) :
    (query i f (fun _ => ret ()) raise : Script ι σ ε Unit).Straight fails K [i]
      (fun _ => ()) f := by
  intro s
  constructor
  · intro h
    have hi : fails i = none := by simpa using h
    simp only [execBy, hi]
  · intro e h
    have hi : fails i = some e := by simpa using h
    exact ⟨s, by simp only [execBy, hi], refl s⟩

/-- Straight code followed by straight code. -/
lemma Straight.bind {p : Script ι σ ε α} {k : α → Script ι σ ε β} {b : α → σ → β}
    {g : α → σ → σ} (hp : p.Straight fails K stmts a f)
    (hk : ∀ x, (k x).Straight fails K stmts' (b x) (g x)) (hf : ∀ s s', K (f s) s' → K s s') :
    (p.bind k).Straight fails K (stmts ++ stmts') (fun s => b (a s) (f s))
      fun s => g (a s) (f s) := by
  intro s
  obtain ⟨hok, herror⟩ := hp s
  rw [List.findSome?_append]
  cases h : stmts.findSome? fails with
  | none =>
    have hrun := hok h
    refine ⟨fun h' => ?_, fun e h' => ?_⟩
    · rw [execBy_bind, hrun]
      exact (hk (a s) (f s)).1 h'
    · obtain ⟨s', hs', hK⟩ := (hk (a s) (f s)).2 e h'
      exact ⟨s', by rw [execBy_bind, hrun]; exact hs', hf s s' hK⟩
  | some e =>
    obtain ⟨s', hs', hK⟩ := herror e h
    refine ⟨(nomatch ·), fun e' h' => ?_⟩
    obtain rfl : e = e' := by simpa using h'
    exact ⟨s', by rw [execBy_bind, hs'], hK⟩

end ExecBy

end Script

end EcommerceAgent.Lib
