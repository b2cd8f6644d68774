import Mathlib

/-!
# `RoboGuide.Lib.Fallible`: checks and fallible operations on a mutable state

A method that only reads returns an `Except`; the first half of this module inverts a
sequence of such checks that succeeded. A method that takes `&mut self` and returns a
`Result` can fail after it has already changed something, so it is an `EStateM`
computation: the outcome carries the state that was left behind, in the error case too.
The second half runs one statement of such a method, and derives what a whole method can
do to the state (whether or not it fails) from what its statements can do.
-/

namespace RoboGuide.Lib

open List

variable {ε σ α β : Type}

namespace Fallible

/-! ### Checks -/

/-- `if b { return Err(e) }`. -/
def refuse (b : Bool) (e : ε) : Except ε Unit := if b then .error e else .ok ()

def okOr (o : Option α) (e : ε) : Except ε α :=
  match o with
  | some a => .ok a
  | none => .error e

variable {x : Except ε α} {b : β}

/-- A sequence of checks succeeds exactly when each of them does. -/
@[simp] lemma bind_eq_ok {f : α → Except ε β} :
    (x >>= f) = .ok b ↔ ∃ a, x = .ok a ∧ f a = .ok b := by
  cases x <;> simp [bind, Except.bind]

variable {e : ε} {u : Unit} {a : α} {xs : List α} {b' : β} {s s' : σ}

lemma bind_eq_error {f : α → Except ε β} :
    (x >>= f) = .error e ↔ x = .error e ∨ ∃ a, x = .ok a ∧ f a = .error e := by
  cases x <;> simp [bind, Except.bind]

@[simp] lemma refuse_eq_ok {b : Bool} : refuse b e = .ok u ↔ b = false := by
  cases b <;> simp [refuse]

@[simp] lemma refuse_false (e : ε) : refuse false e = .ok () := rfl

@[simp] lemma okOr_eq_ok {o : Option α} : okOr o e = .ok a ↔ o = some a := by
  cases o <;> simp [okOr]

@[simp] lemma okOr_some (a : α) (e : ε) : okOr (some a) e = .ok a := rfl

@[simp] lemma pure_eq_ok {b : α} : (pure a : Except ε α) = .ok b ↔ a = b := by
  simp [pure, Except.pure]

@[simp] lemma map_eq_ok {f : α → β} : (f <$> x) = .ok b ↔ ∃ a, x = .ok a ∧ f a = b := by
  cases x <;> simp [Functor.map, Except.map]

@[simp] lemma mapError_eq_ok {ε' : Type} {f : ε → ε'} : x.mapError f = .ok a ↔ x = .ok a := by
  cases x <;> simp [Except.mapError]

@[simp] lemma throw_ne_ok : (throw e : Except ε α) ≠ .ok a := by
  simp [throw, throwThe, MonadExceptOf.throw]

/-- A loop of checks succeeds exactly when every element passes. -/
lemma forM_eq_ok {f : α → Except ε Unit} : xs.forM f = .ok u ↔ ∀ x ∈ xs, f x = .ok () := by
  induction xs with
  | nil => simp [List.forM, pure, Except.pure]
  | cons x xs ih =>
    have hcons : (x :: xs).forM f = (f x >>= fun _ => xs.forM f) := rfl
    rw [hcons, bind_eq_ok]
    constructor
    · rintro ⟨⟨⟩, hx, hxs⟩ y hy
      rcases List.mem_cons.mp hy with rfl | hy
      · exact hx
      · exact ih.mp hxs y hy
    · intro h
      exact ⟨(), h x mem_cons_self, ih.mpr fun y hy => h y (mem_cons_of_mem _ hy)⟩

lemma forM_eq_error {f : α → Except ε Unit}
    (h : xs.forM f = .error e) : ∃ x ∈ xs, f x = .error e := by
  induction xs with
  | nil => cases h
  | cons x xs ih =>
    have hcons : (x :: xs).forM f = (f x >>= fun _ => xs.forM f) := rfl
    rw [hcons, bind_eq_error] at h
    rcases h with h | ⟨-, -, h⟩
    · exact ⟨x, mem_cons_self, h⟩
    · obtain ⟨y, hy, h⟩ := ih h
      exact ⟨y, mem_cons_of_mem _ hy, h⟩

/-- What a fold of fallible updates preserves. -/
lemma foldlM_invariant {P : β → Prop} {f : β → α → Except ε β}
    (step : ∀ x ∈ xs, ∀ c c', P c → f c x = .ok c' → P c') (hb : P b)
    (h : xs.foldlM f b = .ok b') : P b' := by
  induction xs generalizing b with
  | nil =>
    obtain rfl : b = b' := by simpa using h
    exact hb
  | cons x xs ih =>
    rw [foldlM_cons, bind_eq_ok] at h
    obtain ⟨c, hc, h⟩ := h
    exact ih (fun y hy => step y (mem_cons_of_mem _ hy))
      (step x mem_cons_self b c hb hc) h

/-- An invariant that names the elements the fold has used. -/
lemma foldlM_appends {P : List α → β → Prop} {l : List α} {f : β → α → Except ε β}
    (step : ∀ {l b x b'}, P l b → f b x = .ok b' → P (l ++ [x]) b')
    (h : xs.foldlM f b = .ok b') (hb : P l b) : P (l ++ xs) b' := by
  induction xs generalizing l b with
  | nil =>
    rw [foldlM_nil, pure_eq_ok] at h
    rw [← h, append_nil]
    exact hb
  | cons x xs ih =>
    rw [foldlM_cons, bind_eq_ok] at h
    obtain ⟨c, hc, h⟩ := h
    have hnext := ih h (step hb hc)
    rw [append_assoc, singleton_append] at hnext
    exact hnext

lemma foldlM_step {f : β → α → Except ε β}
    (h : xs.foldlM f b = .ok b') {x : α} (hx : x ∈ xs) : ∃ c c', f c x = .ok c' := by
  induction xs generalizing b with
  | nil => cases hx
  | cons y ys ih =>
    rw [foldlM_cons, bind_eq_ok] at h
    obtain ⟨c, hc, h⟩ := h
    rcases List.mem_cons.mp hx with rfl | hx
    · exact ⟨b, c, hc⟩
    · exact ih h hx

/-- A loop of checks that compares each element with those before it. -/
def checkAgainstEarlier (f : List α → α → Except ε Unit) : List α → List α → Except ε Unit
  | _, [] => .ok ()
  | earlier, x :: xs => do
    f earlier x
    checkAgainstEarlier f (earlier ++ [x]) xs

lemma checkAgainstEarlier_eq_ok {f : List α → α → Except ε Unit} {earlier : List α}
    : checkAgainstEarlier f earlier xs = .ok u ↔
      ∀ l x r, xs = l ++ x :: r → f (earlier ++ l) x = .ok () := by
  induction xs generalizing earlier with
  | nil => simp [checkAgainstEarlier]
  | cons y ys ih =>
    rw [checkAgainstEarlier, bind_eq_ok]
    constructor
    · rintro ⟨⟨⟩, hy, hys⟩ l x r h
      cases l with
      | nil =>
        obtain ⟨rfl, rfl⟩ := List.cons.inj h
        simpa using hy
      | cons z l =>
        obtain ⟨rfl, rfl⟩ := List.cons.inj h
        simpa using ih.mp hys l x r rfl
    · intro h
      refine ⟨(), by simpa using h [] y ys rfl, ih.mpr fun l x r hl => ?_⟩
      simpa using h (y :: l) x r (by rw [hl]; rfl)

/-- Keys without duplicates are new at their place. -/
lemma not_mem_earlier_keys {α K : Type} {key : α → K} {xs l r : List α} {x : α}
    (hnodup : (xs.map key).Nodup) (hsplit : xs = l ++ x :: r) : key x ∉ l.map key := by
  rw [hsplit, map_append, map_cons] at hnodup
  intro hmem
  exact (nodup_append.mp hnodup).2.2 _ hmem _ mem_cons_self rfl

lemma not_any_of_nodup {α K : Type} [DecidableEq K] {key : α → K} {l r : List α} {x : α}
    (hnodup : ((l ++ x :: r).map key).Nodup) : (l.any fun y => key y == key x) = false := by
  rw [List.any_eq_false]
  intro y hy heq
  exact not_mem_earlier_keys hnodup rfl (eq_of_beq heq ▸ mem_map_of_mem hy)

/-! ### Operations -/

/-- A check that does not touch the state. -/
def check (x : Except ε α) : EStateM ε σ α :=
  match x with
  | .ok a => pure a
  | .error e => throw e

/-- The state an outcome leaves behind. -/
def state : EStateM.Result ε σ α → σ
  | .ok _ s => s
  | .error _ s => s

/-- The error of an outcome that is one. -/
def refusal : EStateM.Result ε σ α → Option ε
  | .ok _ _ => none
  | .error e _ => some e

lemma refusal_eq_some {r : EStateM.Result ε σ α} {e : ε} :
    refusal r = some e ↔ ∃ s, r = .error e s := by
  cases r <;> simp [refusal]

@[simp] lemma state_ok (a : α) (s : σ) : state (.ok a s : EStateM.Result ε σ α) = s := rfl
@[simp] lemma state_error (e : ε) (s : σ) : state (.error e s : EStateM.Result ε σ α) = s := rfl

section

variable (f : α → EStateM ε σ β) (s : σ)

lemma run_bind (x : EStateM ε σ α) : (x >>= f) s = match x s with
    | .ok a s' => f a s'
    | .error e s' => .error e s' := rfl

@[simp] lemma run_get_bind (g : σ → EStateM ε σ β) :
    ((get : EStateM ε σ σ) >>= g) s = g s s := rfl

@[simp] lemma run_set_bind (s' : σ) (g : PUnit → EStateM ε σ β) :
    ((set s' : EStateM ε σ PUnit) >>= g) s = g ⟨⟩ s' := rfl

@[simp] lemma run_modify_bind (h : σ → σ) (g : PUnit → EStateM ε σ β) :
    ((modify h : EStateM ε σ PUnit) >>= g) s = g ⟨⟩ (h s) := rfl

@[simp] lemma run_pure (a : α) : (pure a : EStateM ε σ α) s = .ok a s := rfl

@[simp] lemma run_set (s' : σ) : (set s' : EStateM ε σ PUnit) s = .ok ⟨⟩ s' := rfl

@[simp] lemma run_check_bind (x : Except ε α) : (check x >>= f) s = match x with
      | .ok a => f a s
      | .error e => .error e s := by
  cases x <;> rfl

@[simp] lemma run_check (x : Except ε α) : (check x : EStateM ε σ α) s = match x with
      | .ok a => .ok a s
      | .error e => .error e s := by
  cases x <;> rfl

@[simp] lemma state_map (g : α → β) (x : EStateM ε σ α) : state ((g <$> x) s) = state (x s) := by
  show state (EStateM.map g x s) = _
  unfold EStateM.map
  cases x s <;> rfl

end

lemma run_check_bind_eq_ok {f : α → EStateM ε σ β} :
    (check x >>= f) s = .ok b s' ↔ ∃ a, x = .ok a ∧ f a s = .ok b s' := by
  rw [run_check_bind]
  cases x <;> simp

/-- A check that fails leaves the state; what follows may use that it passed. -/
lemma state_check_bind {P : σ → Prop} {f : α → EStateM ε σ β} (hs : P s)
    (h : ∀ a, x = .ok a → P (state (f a s))) : P (state ((check x >>= f) s)) := by
  rw [run_check_bind]
  cases x with
  | error e => exact hs
  | ok a => exact h a rfl

/-- A method that succeeded ran each of its statements successfully. -/
lemma run_bind_eq_ok {x : EStateM ε σ α} {f : α → EStateM ε σ β} :
    (x >>= f) s = .ok b s' ↔ ∃ a s₁, x s = .ok a s₁ ∧ f a s₁ = .ok b s' := by
  rw [run_bind]
  cases x s with
  | ok a s₁ =>
    constructor
    · intro h
      exact ⟨a, s₁, rfl, h⟩
    · rintro ⟨_, _, ⟨⟩, h⟩
      exact h
  | error => simp

/-! ### What an operation can do to the state -/

/-- Every outcome of `x`, error or not, leaves a state related by `R` to the initial one. -/
def Moves (R : σ → σ → Prop) (x : EStateM ε σ α) : Prop := ∀ s, R s (state (x s))

namespace Moves

variable {R : σ → σ → Prop}

lemma pure (refl : ∀ s, R s s) (a : α) : Moves R (pure a : EStateM ε σ α) := refl

lemma modify {f : σ → σ} (h : ∀ s, R s (f s)) : Moves R (modify f : EStateM ε σ PUnit) := h

lemma bind (trans : ∀ s₁ s₂ s₃, R s₁ s₂ → R s₂ s₃ → R s₁ s₃) {x : EStateM ε σ α}
    {f : α → EStateM ε σ β} (hx : Moves R x) (hf : ∀ a, Moves R (f a)) : Moves R (x >>= f) := by
  intro s
  have h := hx s
  rw [run_bind]
  cases hr : x s with
  | ok a s' =>
    rw [hr] at h
    exact trans _ _ _ h (hf a s')
  | error =>
    rw [hr] at h
    exact h

lemma get_bind {g : σ → EStateM ε σ β} (h : ∀ s, R s (state (g s s))) :
    Moves R ((get : EStateM ε σ σ) >>= g) := h

lemma forM (refl : ∀ s, R s s) (trans : ∀ s₁ s₂ s₃, R s₁ s₂ → R s₂ s₃ → R s₁ s₃)
    {f : α → EStateM ε σ PUnit} (hf : ∀ x ∈ xs, Moves R (f x)) : Moves R (xs.forM f) := by
  induction xs with
  | nil => exact pure refl _
  | cons x xs ih =>
    have hcons : (x :: xs).forM f = (f x >>= fun _ => xs.forM f) := rfl
    rw [hcons]
    exact bind trans (hf x mem_cons_self)
      fun _ => ih fun y hy => hf y (mem_cons_of_mem _ hy)

end Moves

/-- What each turn of a loop establishes for its element, and the later turns keep, holds for
every element after the loop. -/
lemma forM_establishes {P : α → σ → Prop} {f : α → EStateM ε σ PUnit}
    (h : xs.forM f s = .ok ⟨⟩ s') (hturn : ∀ x ∈ xs, ∀ s s', f x s = .ok ⟨⟩ s' → P x s')
    (hkeep : ∀ x y s s', P x s → f y s = .ok ⟨⟩ s' → P x s') : ∀ x ∈ xs, P x s' := by
  have hrest : ∀ (ys : List α) (x : α) (s : σ), P x s → ys.forM f s = .ok ⟨⟩ s' → P x s' := by
    intro ys
    induction ys with
    | nil =>
      intro x s hx hys
      cases hys
      exact hx
    | cons y ys ih =>
      intro x s hx hys
      have hcons : (y :: ys).forM f = (f y >>= fun _ => ys.forM f) := rfl
      rw [hcons] at hys
      obtain ⟨_, s₁, hy, hys⟩ := run_bind_eq_ok.mp hys
      exact ih x s₁ (hkeep x y s s₁ hx hy) hys
  induction xs generalizing s with
  | nil => simp
  | cons y ys ih =>
    have hcons : (y :: ys).forM f = (f y >>= fun _ => ys.forM f) := rfl
    rw [hcons] at h
    obtain ⟨_, s₁, hy, hys⟩ := run_bind_eq_ok.mp h
    intro x hx
    rcases List.mem_cons.mp hx with rfl | hx
    · exact hrest ys x s₁ (hturn x mem_cons_self s s₁ hy) hys
    · exact ih hys (fun z hz => hturn z (mem_cons_of_mem _ hz)) x hx

end Fallible

end RoboGuide.Lib
