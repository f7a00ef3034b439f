import Mathlib

/-! Programs with a mutable state that may raise.  A raised exception keeps the state reached so
far, as an exception propagating out of a method does.  `wp` is the weakest precondition with one
postcondition for a returned value and one for a raised exception. -/

namespace NodalArc.StatefulProgram

abbrev Program (ε σ : Type) := ExceptT ε (StateM σ)

variable {ε σ α β : Type}

namespace Program

def exec (m : Program ε σ α) (s : σ) : Except ε α × σ := m.run.run s

def wp (m : Program ε σ α) (s : σ) (Q : α → σ → Prop) (E : ε → σ → Prop) : Prop :=
  match m.exec s with
  | (.ok a, s') => Q a s'
  | (.error e, s') => E e s'

def require (c : Prop) [Decidable c] (e : ε) : Program ε σ Unit :=
  if c then pure () else throw e

def «when» (c : Prop) [Decidable c] (m : Program ε σ Unit) : Program ε σ Unit :=
  if c then m else pure ()

def lift (r : Except ε α) : Program ε σ α :=
  match r with
  | .ok a => pure a
  | .error e => throw e

def zoom {ρ : Type} (part : σ → ρ) (put : ρ → σ → σ) (m : Program ε ρ α) : Program ε σ α := do
  let s ← get
  match m.exec (part s) with
  | (.ok a, t) => do
      set (put t s)
      return a
  | (.error e, t) => do
      set (put t s)
      throw e

end Program

open Program

variable {c : Prop} {τ : Type} {xs : List α} {ys : List β} {b : β}

variable {m : Program ε σ α} {f : α → Program ε σ β} {s s' : σ} {a : α} {e : ε}
    {Q : α → σ → Prop} {E : ε → σ → Prop} {R : Unit → σ → Prop}

theorem wp_of_exec_ok (h : m.exec s = (.ok a, s')) : wp m s Q E ↔ Q a s' := by
  rw [wp, h]

theorem wp_of_exec_error (h : m.exec s = (.error e, s')) : wp m s Q E ↔ E e s' := by
  rw [wp, h]

@[simp] theorem wp_pure : wp (pure a : Program ε σ α) s Q E ↔ Q a s := Iff.rfl

@[simp] theorem wp_throw : wp (throw e : Program ε σ α) s Q E ↔ E e s := Iff.rfl

theorem exec_pure : (pure a : Program ε σ α).exec s = (.ok a, s) := rfl

theorem exec_throw : (throw e : Program ε σ α).exec s = (.error e, s) := rfl

theorem exec_bind : (m >>= f).exec s =
    match m.exec s with
    | (.ok a, s') => (f a).exec s'
    | (.error e, s') => (.error e, s') := by
  simp only [exec, ExceptT.run_bind, StateT.run_bind]
  rcases m.run.run s with ⟨_ | _, _⟩ <;> rfl

@[simp] theorem wp_bind {Q : β → σ → Prop} :
    wp (m >>= f) s Q E ↔ wp m s (fun a s' => wp (f a) s' Q E) E := by
  unfold wp
  rw [exec_bind]
  rcases m.exec s with ⟨_ | _, _⟩ <;> rfl

@[simp] theorem wp_get {Q : σ → σ → Prop} : wp (get : Program ε σ σ) s Q E ↔ Q s s := Iff.rfl

@[simp] theorem wp_set {t : σ} {Q : PUnit → σ → Prop} :
    wp (set t : Program ε σ PUnit) s Q E ↔ Q ⟨⟩ t := Iff.rfl

@[simp] theorem wp_modify {g : σ → σ} {Q : PUnit → σ → Prop} :
    wp (modify g : Program ε σ PUnit) s Q E ↔ Q ⟨⟩ (g s) := Iff.rfl

@[simp] theorem wp_ite [Decidable c] {m n : Program ε σ α} :
    wp (if c then m else n) s Q E ↔ (c → wp m s Q E) ∧ (¬ c → wp n s Q E) := by
  by_cases h : c <;> simp [h]

@[simp] theorem wp_require [Decidable c] :
    wp (require c e : Program ε σ Unit) s R E ↔ (c → R () s) ∧ (¬ c → E e s) := by
  simp [require]

@[simp] theorem wp_when [Decidable c] {m : Program ε σ Unit} :
    wp («when» c m) s R E ↔ (c → wp m s R E) ∧ (¬ c → R () s) := by
  simp [«when»]

@[simp] theorem wp_lift {r : Except ε α} : wp (lift r : Program ε σ α) s Q E ↔
      (∀ a, r = .ok a → Q a s) ∧ (∀ e, r = .error e → E e s) := by
  cases r <;> simp [lift]

theorem wp_zoom {ρ : Type} {part : σ → ρ} {put : ρ → σ → σ} {m : Program ε ρ α} :
    wp (zoom part put m) s Q E ↔
      wp m (part s) (fun a t => Q a (put t s)) (fun e t => E e (put t s)) := by
  rcases hexec : m.exec (part s) with ⟨_ | _, t⟩
  · rw [wp_of_exec_error hexec]
    simp only [zoom, wp_bind, wp_get, hexec, wp_set, wp_throw]
  · rw [wp_of_exec_ok hexec]
    simp only [zoom, wp_bind, wp_get, hexec, wp_set, wp_pure]

@[simp] theorem wp_tryCatch {handler : ε → Program ε σ α} :
    wp (tryCatch m handler) s Q E ↔ wp m s Q (fun e s' => wp (handler e) s' Q E) := by
  unfold wp
  rcases hexec : m.exec s with ⟨_ | _, _⟩ <;>
    simp only [exec, tryCatch, tryCatchThe, MonadExceptOf.tryCatch, ExceptT.tryCatch, ExceptT.run,
      ExceptT.mk, StateT.run_bind] at hexec ⊢ <;> rw [hexec] <;> rfl

theorem wp_mono {Q' : α → σ → Prop} {E' : ε → σ → Prop} (h : wp m s Q E)
    (hQ : ∀ a s', Q a s' → Q' a s') (hE : ∀ e s', E e s' → E' e s') : wp m s Q' E' := by
  unfold wp at *
  split at h <;> simp_all

theorem wp_of_forall (hQ : ∀ a s', Q a s') (hE : ∀ e s', E e s') : wp m s Q E := by
  unfold wp
  split
  · exact hQ _ _
  · exact hE _ _

theorem wp_imp {Q' : α → σ → Prop} (h : wp m s Q E) (hQ : ∀ a s', Q a s' → Q' a s') :
    wp m s Q' E := wp_mono h hQ fun _ _ hE => hE

theorem wp_and {Q' : α → σ → Prop} {E' : ε → σ → Prop} (h : wp m s Q E) (h' : wp m s Q' E') :
    wp m s (fun a t => Q a t ∧ Q' a t) (fun e t => E e t ∧ E' e t) := by
  unfold wp at *
  split at h <;> simp_all

theorem wp_forM {f : α → Program ε σ PUnit} (I : List α → σ → Prop)
    (hstep : ∀ pre x post s, xs = pre ++ x :: post → I pre s →
      wp (f x) s (fun _ => I (pre ++ [x])) E)
    (h : I [] s) : wp (forM xs f) s (fun _ => I xs) E := by
  suffices hgen : ∀ (post pre : List α) (s : σ), xs = pre ++ post → I pre s →
      wp (forM post f) s (fun _ => I xs) E from hgen xs [] s rfl h
  intro post
  induction post with
  | nil =>
    intro pre s hxs hI
    rw [List.append_nil] at hxs
    subst hxs
    simpa using hI
  | cons x post ih =>
    intro pre s hxs hI
    rw [List.forM_cons, wp_bind]
    refine wp_imp (hstep pre x post s hxs hI) ?_
    intro _ s' hI'
    exact ih (pre ++ [x]) s' (by simp [hxs]) hI'

theorem wp_forM_invariant {f : α → Program ε σ PUnit}
    (I : σ → Prop) (hstep : ∀ x ∈ xs, ∀ s, I s → wp (f x) s (fun _ => I) E) (h : I s) :
    wp (forM xs f) s (fun _ => I) E := by
  refine wp_forM (fun _ => I) ?_ h
  intro pre x post s hxs hI
  exact hstep x (by simp [hxs]) s hI

theorem wp_foldlM {f : β → α → Program ε σ β} (I : List α → β → σ → Prop)
    (hstep : ∀ pre x post b s, xs = pre ++ x :: post → I pre b s →
      wp (f b x) s (I (pre ++ [x])) E) (h : I [] b s) : wp (xs.foldlM f b) s (I xs) E := by
  suffices hgen : ∀ (post pre : List α) (b : β) (s : σ), xs = pre ++ post → I pre b s →
      wp (post.foldlM f b) s (I xs) E from hgen xs [] b s rfl h
  intro post
  induction post with
  | nil =>
    intro pre b s hxs hI
    rw [List.append_nil] at hxs
    subst hxs
    simpa using hI
  | cons x post ih =>
    intro pre b s hxs hI
    rw [List.foldlM_cons, wp_bind]
    refine wp_imp (hstep pre x post b s hxs hI) ?_
    intro b' s' hI'
    exact ih (pre ++ [x]) b' s' (by simp [hxs]) hI'

theorem wp_forM_modify {g : α → σ → σ} {Q : PUnit → σ → Prop} :
    wp (forM xs fun x => (modify (g x) : Program ε σ PUnit)) s Q E ↔
      Q ⟨⟩ (xs.foldl (fun s x => g x s) s) := by
  induction xs generalizing s with
  | nil => exact Iff.rfl
  | cons x xs ih =>
    rw [List.forM_cons, wp_bind, wp_modify, List.foldl_cons]
    exact ih

def Within (R : σ → σ → Prop) (m : Program ε σ α) : Prop :=
  ∀ s, wp m s (fun _ => R s) (fun _ => R s)

section Within

variable {R : σ → σ → Prop}

theorem Within.wp (h : Within R m) (s : σ)
    (hQ : ∀ a t, R s t → Q a t) (hE : ∀ e t, R s t → E e t) : Program.wp m s Q E :=
  wp_mono (h s) hQ hE

theorem within_modify {g : σ → σ} (h : ∀ s, R s (g s)) :
    Within R (modify g : Program ε σ PUnit) := h

theorem within_ite [Decidable c] {m n : Program ε σ α} (h : c → Within R m)
    (h' : ¬ c → Within R n) : Within R (if c then m else n) := fun s =>
  wp_ite.mpr ⟨fun hc => h hc s, fun hc => h' hc s⟩

variable [Std.Refl R]

theorem within_pure : Within R (pure a : Program ε σ α) := fun s => Std.Refl.refl s

theorem within_get : Within R (get : Program ε σ σ) := fun s => Std.Refl.refl s

theorem within_lift {r : Except ε α} : Within R (lift r : Program ε σ α) := fun s =>
  wp_lift.mpr ⟨fun _ _ => Std.Refl.refl s, fun _ _ => Std.Refl.refl s⟩

theorem within_throw : Within R (throw e : Program ε σ α) := fun s => Std.Refl.refl s

theorem within_require [Decidable c] : Within R (require c e : Program ε σ Unit) :=
  fun s => wp_require.mpr ⟨fun _ => Std.Refl.refl s, fun _ => Std.Refl.refl s⟩

theorem within_when [Decidable c] {m : Program ε σ Unit} (h : c → Within R m) :
    Within R («when» c m) := fun s =>
  wp_when.mpr ⟨fun hc => h hc s, fun _ => Std.Refl.refl s⟩

variable [IsTrans σ R]

omit [Std.Refl R] in
theorem within_bind (h : Within R m) (hf : ∀ a, Within R (f a)) : Within R (m >>= f) := fun s =>
  wp_bind.mpr <| wp_mono (h s)
    (fun a t hst => (hf a).wp t (fun _ _ htu => IsTrans.trans s t _ hst htu)
      fun _ _ htu => IsTrans.trans s t _ hst htu)
    fun _ _ hst => hst

omit [Std.Refl R] in
theorem within_tryCatch {handler : ε → Program ε σ α} (h : Within R m)
    (hhandler : ∀ e, Within R (handler e)) : Within R (tryCatch m handler) := fun s =>
  wp_tryCatch.mpr <| wp_mono (h s) (fun _ _ hst => hst) fun e t hst =>
    (hhandler e).wp t (fun _ _ htu => IsTrans.trans s t _ hst htu)
      fun _ _ htu => IsTrans.trans s t _ hst htu

theorem within_forM {f : α → Program ε σ PUnit} (h : ∀ x ∈ xs, Within R (f x)) :
    Within R (forM xs f) := by
  induction xs with
  | nil => exact within_pure
  | cons x xs ih =>
    rw [List.forM_cons]
    refine within_bind (h x List.mem_cons_self) fun _ => ?_
    exact ih fun y hy => h y (List.mem_cons_of_mem _ hy)

theorem within_foldlM {f : β → α → Program ε σ β}
    (h : ∀ b, ∀ x ∈ xs, Within R (f b x)) : Within R (xs.foldlM f b) := by
  induction xs generalizing b with
  | nil => exact within_pure
  | cons x xs ih =>
    rw [List.foldlM_cons]
    refine within_bind (h b x List.mem_cons_self) fun b' => ?_
    exact ih fun b y hy => h b y (List.mem_cons_of_mem _ hy)

end Within

/-! ### Runs -/

/-- Programs run one after another, each chosen in a state that allows it, until one raises: the
states reached, with the exception that ended the run if one did. -/
inductive Runs {τ : Type} (step : τ → Program ε σ Unit) (allowed : σ → τ → Prop) (start : σ) :
    Option ε → σ → Prop
  | nil : Runs step allowed start none start
  | returned {s s' : σ} {turn : τ} (run : Runs step allowed start none s)
      (hallowed : allowed s turn) (hexec : (step turn).exec s = (.ok (), s')) :
      Runs step allowed start none s'
  | raised {s s' : σ} {turn : τ} {e : ε} (run : Runs step allowed start none s)
      (hallowed : allowed s turn) (hexec : (step turn).exec s = (.error e, s')) :
      Runs step allowed start (some e) s'

variable {step : τ → Program ε σ Unit} {turns : List τ}

theorem Runs.next {allowed : σ → τ → Prop} {start : σ}
    (run : Runs step allowed start none s) (turn : τ) (hallowed : allowed s turn)
    (hreturns : ((step turn).exec s).1.toBool = true) :
    Runs step allowed start none ((step turn).exec s).2 := by
  refine run.returned hallowed (Prod.ext ?_ rfl)
  cases h : ((step turn).exec s).1 with
  | error e =>
    rw [h] at hreturns
    cases hreturns
  | ok u => rfl

theorem Runs.invariant {allowed : σ → τ → Prop} {start : σ}
    {I J : σ → Prop} (hstart : I start) (hweak : ∀ s, I s → J s)
    (hstep : ∀ s turn, allowed s turn → I s → wp (step turn) s (fun _ => I) (fun _ => J))
    {e : Option ε} (run : Runs step allowed start e s) : J s ∧ (e = none → I s) := by
  induction run with
  | nil => exact ⟨hweak _ hstart, fun _ => hstart⟩
  | returned run hallowed hexec ih =>
    have h := hstep _ _ hallowed (ih.2 rfl)
    rw [wp, hexec] at h
    exact ⟨hweak _ h, fun _ => h⟩
  | raised run hallowed hexec ih =>
    have h := hstep _ _ hallowed (ih.2 rfl)
    rw [wp, hexec] at h
    exact ⟨h, fun hnone => nomatch hnone⟩

/-- Programs run one after another, the next one in the state the last one left, whether that
returned or raised. -/
def runAll {τ : Type} (step : τ → Program ε σ Unit) (s : σ) (turns : List τ) : σ :=
  turns.foldl (fun s turn => ((step turn).exec s).2) s

theorem runAll_append (step : τ → Program ε σ Unit) (s : σ) (turns more : List τ) :
    runAll step s (turns ++ more) = runAll step (runAll step s turns) more :=
  List.foldl_append

theorem runAll_cons (step : τ → Program ε σ Unit) (s : σ) (turn : τ) (turns : List τ) :
    runAll step s (turn :: turns) = runAll step ((step turn).exec s).2 turns := rfl

theorem wp_exec {P : σ → Prop} (h : wp m s (fun _ => P) (fun _ => P)) : P (m.exec s).2 := by
  unfold wp at h
  split at h <;> simp_all

theorem runAll_invariant (I : List τ → σ → Prop)
    (hstep : ∀ pre turn post s, turns = pre ++ turn :: post → I pre s → wp (step turn) s (fun _ =>
      I (pre ++ [turn])) (fun _ => I (pre ++ [turn]))) (h : I [] s)
    : I turns (runAll step s turns) := by
  suffices hgen : ∀ (post pre : List τ) (s : σ), turns = pre ++ post → I pre s →
      I turns (runAll step s post) from hgen turns [] s rfl h
  intro post
  induction post with
  | nil =>
    intro pre s hturns hI
    rw [List.append_nil] at hturns
    subst hturns
    exact hI
  | cons turn post ih =>
    intro pre s hturns hI
    rw [runAll_cons]
    exact ih (pre ++ [turn]) _ (by simp [hturns]) (wp_exec (hstep pre turn post s hturns hI))

/-- Programs run one after another until one raises. -/
def runUntilRaise {τ : Type} (step : τ → Program ε σ Unit) : σ → List τ → Except ε σ
  | s, [] => .ok s
  | s, turn :: turns =>
      match (step turn).exec s with
      | (.ok _, t) => runUntilRaise step t turns
      | (.error e, _) => .error e

theorem runUntilRaise_append (step : τ → Program ε σ Unit) (s : σ) (turns more : List τ)
    : runUntilRaise step s (turns ++ more) =
      (runUntilRaise step s turns).bind fun t => runUntilRaise step t more := by
  induction turns generalizing s with
  | nil => rfl
  | cons turn turns ih =>
    simp only [List.cons_append, runUntilRaise]
    split
    · exact ih _
    · rfl

theorem runUntilRaise_invariant (I : List τ → σ → Prop)
    (hstep : ∀ pre turn post t, turns = pre ++ turn :: post → runUntilRaise step s pre = .ok t → I
      pre t → wp (step turn) t (fun _ => I (pre ++ [turn])) (fun _ _ => False)) (h : I [] s)
    : ∃ t, runUntilRaise step s turns = .ok t ∧ I turns t := by
  suffices hgen : ∀ (post pre : List τ) (t : σ), turns = pre ++ post →
      runUntilRaise step s pre = .ok t → I pre t →
      ∃ t, runUntilRaise step s turns = .ok t ∧ I turns t from hgen turns [] s rfl rfl h
  intro post
  induction post with
  | nil =>
    intro pre t hturns hrun hI
    rw [List.append_nil] at hturns
    subst hturns
    exact ⟨t, hrun, hI⟩
  | cons turn post ih =>
    intro pre t hturns hrun hI
    have hturn := hstep pre turn post t hturns hrun hI
    unfold wp at hturn
    split at hturn
    next u t' hexec =>
      refine ih (pre ++ [turn]) t' (by simp [hturns]) ?_ hturn
      rw [runUntilRaise_append, hrun]
      simp [Except.bind, runUntilRaise, hexec]
    next => exact hturn.elim

/-- A condition on each element and the state a fold reaches before it. -/
def HoldsAlong (step : σ → α → σ) (P : σ → α → Prop) : σ → List α → Prop
  | _, [] => True
  | s, x :: xs => P s x ∧ HoldsAlong step P (step s x) xs

theorem holdsAlong_append {step : σ → α → σ} {P : σ → α → Prop} {xs ys : List α} :
    HoldsAlong step P s (xs ++ ys) ↔
      HoldsAlong step P s xs ∧ HoldsAlong step P (xs.foldl step s) ys := by
  induction xs generalizing s with
  | nil => simp [HoldsAlong]
  | cons x xs ih => simp [HoldsAlong, ih, and_assoc]

theorem HoldsAlong.invariant {step : σ → α → σ} {P : σ → α → Prop} {I : σ → Prop}
    (h : HoldsAlong step P s xs) (hstep : ∀ s x, P s x → I s → I (step s x)) (hs : I s) :
    I (xs.foldl step s) := by
  induction xs generalizing s with
  | nil => exact hs
  | cons x xs ih => exact ih h.2 (hstep s x h.1 hs)

/-! ### Pure computations that may raise -/

section Except

variable {x : Except ε α} {g : α → Except ε β} {b : β}

theorem bind_eq_ok_iff : (x >>= g) = .ok b ↔ ∃ a, x = .ok a ∧ g a = .ok b := by
  cases x with
  | error e => simp [bind, Except.bind]
  | ok a => simp [bind, Except.bind]

theorem bind_eq_error_iff {e : ε} :
    (x >>= g) = .error e ↔ x = .error e ∨ ∃ a, x = .ok a ∧ g a = .error e := by
  cases x with
  | error e => simp [bind, Except.bind]
  | ok a => simp [bind, Except.bind]

theorem foldlM_invariant {f : β → α → Except ε β} {b b' : β} (I : β → Prop)
    (hstep : ∀ a ∈ xs, ∀ b b', I b → f b a = .ok b' → I b')
    (h : xs.foldlM f b = .ok b') (hb : I b) : I b' := by
  induction xs generalizing b with
  | nil =>
    obtain rfl : b = b' := by simpa [pure, Except.pure] using h
    exact hb
  | cons a xs ih =>
    rw [List.foldlM_cons, bind_eq_ok_iff] at h
    obtain ⟨c, hc, h⟩ := h
    exact ih (fun a ha => hstep a (List.mem_cons_of_mem _ ha)) h
      (hstep a List.mem_cons_self b c hb hc)

theorem mapM_nil_eq_ok_iff : [].mapM g = .ok ys ↔ ys = [] := by
  simp [pure, Except.pure, eq_comm]

theorem mapM_cons_eq_ok_iff {x : α} :
    (x :: xs).mapM g = .ok ys ↔ ∃ z zs, g x = .ok z ∧ xs.mapM g = .ok zs ∧ ys = z :: zs := by
  rw [List.mapM_cons, bind_eq_ok_iff]
  simp only [bind_eq_ok_iff, pure, Except.pure, Except.ok.injEq]
  constructor
  · rintro ⟨z, hz, zs, hzs, rfl⟩
    exact ⟨z, zs, hz, hzs, rfl⟩
  · rintro ⟨z, zs, hz, hzs, rfl⟩
    exact ⟨z, hz, zs, hzs, rfl⟩

theorem exists_of_mem_mapM {y : β} (h : xs.mapM g = .ok ys)
    (hy : y ∈ ys) : ∃ x ∈ xs, g x = .ok y := by
  induction xs generalizing ys with
  | nil =>
    obtain rfl := mapM_nil_eq_ok_iff.mp h
    cases hy
  | cons x xs ih =>
    obtain ⟨z, zs, hz, hzs, rfl⟩ := mapM_cons_eq_ok_iff.mp h
    rcases List.mem_cons.mp hy with rfl | hy
    · exact ⟨x, List.mem_cons_self, hz⟩
    · obtain ⟨x', hx', hg⟩ := ih hzs hy
      exact ⟨x', List.mem_cons_of_mem _ hx', hg⟩

theorem exists_ok_of_mapM {x : α} (h : xs.mapM g = .ok ys)
    (hx : x ∈ xs) : ∃ y ∈ ys, g x = .ok y := by
  induction xs generalizing ys with
  | nil => cases hx
  | cons x' xs ih =>
    obtain ⟨z, zs, hz, hzs, rfl⟩ := mapM_cons_eq_ok_iff.mp h
    rcases List.mem_cons.mp hx with rfl | hx
    · exact ⟨z, List.mem_cons_self, hz⟩
    · obtain ⟨y, hy, hg⟩ := ih hzs hx
      exact ⟨y, List.mem_cons_of_mem _ hy, hg⟩

theorem exists_mapM_of_forall (h : ∀ x ∈ xs, ∃ y, g x = .ok y) : ∃ ys, xs.mapM g = .ok ys := by
  induction xs with
  | nil => exact ⟨[], mapM_nil_eq_ok_iff.mpr rfl⟩
  | cons x xs ih =>
    obtain ⟨z, hz⟩ := h x List.mem_cons_self
    obtain ⟨zs, hzs⟩ := ih fun x hx => h x (List.mem_cons_of_mem _ hx)
    exact ⟨z :: zs, mapM_cons_eq_ok_iff.mpr ⟨z, zs, hz, hzs, rfl⟩⟩

theorem exists_bind_mapM_of_forall {γ : Type} {f : List β → γ}
    (h : ∀ x ∈ xs, ∃ y, g x = .ok y) : ∃ z, (do return f (← xs.mapM g)) = .ok z := by
  obtain ⟨ys, hys⟩ := exists_mapM_of_forall h
  exact ⟨f ys, bind_eq_ok_iff.mpr ⟨ys, hys, rfl⟩⟩

theorem map_eq_of_mapM {γ : Type} {key : α → γ} {key' : β → γ}
    (h : xs.mapM g = .ok ys) (hkey : ∀ x ∈ xs, ∀ y, g x = .ok y → key' y = key x) :
    ys.map key' = xs.map key := by
  induction xs generalizing ys with
  | nil =>
    obtain rfl := mapM_nil_eq_ok_iff.mp h
    rfl
  | cons x xs ih =>
    obtain ⟨z, zs, hz, hzs, rfl⟩ := mapM_cons_eq_ok_iff.mp h
    rw [List.map_cons, List.map_cons, hkey x List.mem_cons_self z hz,
      ih hzs fun x hx => hkey x (List.mem_cons_of_mem _ hx)]

theorem forM_eq_ok_iff {f : α → Except ε Unit} : forM xs f = .ok () ↔ ∀ x ∈ xs, f x = .ok () := by
  induction xs with
  | nil => simp [pure, Except.pure]
  | cons x xs ih =>
    rw [List.forM_cons, bind_eq_ok_iff, List.forall_mem_cons, ← ih]
    exact ⟨fun ⟨_, h⟩ => h, fun h => ⟨(), h⟩⟩

end Except

end NodalArc.StatefulProgram
