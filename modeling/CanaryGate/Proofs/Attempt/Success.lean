import CanaryGate.Proofs.Attempt.Sequencing

/-! # When attempts finish

A sequence finishes exactly when each of its steps does, one after the other. Pure results succeed in the
same way.
-/

namespace CanaryGate

variable {σ α β : Type}

/-- There is a result. -/
def Succeeds (r : Except Fault α) : Prop := ∃ a, r = .ok a

theorem succeeds_ok (a : α) : Succeeds (.ok a : Except Fault α) := ⟨a, rfl⟩

theorem not_succeeds_error (fault : Fault) : ¬ Succeeds (.error fault : Except Fault α) := by
  rintro ⟨a, h⟩
  contradiction

theorem succeeds_map {r : Except Fault α} {f : α → β} : Succeeds (r.map f) ↔ Succeeds r := by
  cases r with
  | error fault => exact iff_of_false (not_succeeds_error fault) (not_succeeds_error fault)
  | ok a => exact iff_of_true (succeeds_ok (f a)) (succeeds_ok a)

theorem except_map_eq_ok {ε : Type} {r : Except ε α} {f : α → β} {b : β} :
    r.map f = .ok b ↔ ∃ a, r = .ok a ∧ f a = b := by
  cases r with
  | error fault => simp [Except.map]
  | ok a => simp [Except.map]

theorem except_bind_eq_ok {ε : Type} {r : Except ε α} {f : α → Except ε β} {b : β} :
    (r >>= f) = .ok b ↔ ∃ a, r = .ok a ∧ f a = .ok b := by
  cases r with
  | error fault => simp [bind, Except.bind]
  | ok a => simp [bind, Except.bind]

theorem succeeds_bind {r : Except Fault α} {f : α → Except Fault β} :
    Succeeds (r >>= f) ↔ ∃ a, r = .ok a ∧ Succeeds (f a) := by
  constructor
  · rintro ⟨b, h⟩
    obtain ⟨a, first, second⟩ := except_bind_eq_ok.mp h
    exact ⟨a, first, b, second⟩
  · rintro ⟨a, first, b, second⟩
    exact ⟨b, except_bind_eq_ok.mpr ⟨a, first, second⟩⟩

theorem succeeds_mapM {f : α → Except Fault β} {xs : List α} :
    Succeeds (xs.mapM f) ↔ ∀ x ∈ xs, Succeeds (f x) := by
  induction xs with
  | nil => simp [Succeeds, pure, Except.pure]
  | cons x rest ih =>
      rw [List.mapM_cons, succeeds_bind]
      simp only [List.forall_mem_cons]
      constructor
      · rintro ⟨b, first, more⟩
        obtain ⟨bs, others, -⟩ := succeeds_bind.mp more
        exact ⟨⟨b, first⟩, ih.mp ⟨bs, others⟩⟩
      · rintro ⟨⟨b, first⟩, others⟩
        obtain ⟨bs, gone⟩ := ih.mpr others
        exact ⟨b, first, succeeds_bind.mpr ⟨bs, gone, _, rfl⟩⟩

theorem mapM_eq_ok {f : α → Except Fault β} {xs : List α} {ys : List β} :
    xs.mapM f = .ok ys ↔ xs.map f = ys.map .ok := by
  induction xs generalizing ys with
  | nil => simp [pure, Except.pure, eq_comm]
  | cons x rest ih =>
      rw [List.mapM_cons, except_bind_eq_ok]
      constructor
      · rintro ⟨y, first, more⟩
        obtain ⟨others, found, made⟩ := except_bind_eq_ok.mp more
        cases made
        rw [List.map_cons, first, ih.mp found, List.map_cons]
      · intro all
        cases ys with
        | nil => contradiction
        | cons y others =>
            obtain ⟨first, rest⟩ := List.cons.inj all
            exact ⟨y, first, except_bind_eq_ok.mpr ⟨others, ih.mpr rest, rfl⟩⟩

theorem succeeds_optionMapM {f : α → Except Fault β} {o : Option α} :
    Succeeds (o.mapM f) ↔ ∀ a, o = some a → Succeeds (f a) := by
  cases o with
  | none => simp [Succeeds, pure, Except.pure]
  | some a =>
      rw [Option.mapM_some]
      cases found : f a with
      | error fault => simp [found, Succeeds, Functor.map, Except.map]
      | ok b => simp [found, Succeeds, Functor.map, Except.map]

theorem optionMapM_some_eq_ok {f : α → Except Fault β} {a : α} {o : Option β} :
    (some a).mapM f = .ok o ↔ ∃ b, f a = .ok b ∧ o = some b := by
  rw [Option.mapM_some]
  cases found : f a with
  | error fault => simp [Functor.map, Except.map]
  | ok b => simp [Functor.map, Except.map, eq_comm]

namespace Attempt

theorem finishes_lift {r : Except Fault α} {s : σ} : Finishes (Attempt.lift r : Attempt σ α) s ↔ Succeeds r := Iff.rfl

theorem finishes_pure (x : α) (s : σ) : Finishes (pure x : Attempt σ α) s := ⟨x, rfl⟩

theorem finishes_of_eq {a : Attempt σ α} {s s' : σ} {x : α} (h : a.outcome s = (.ok x, s')) : Finishes a s :=
  ⟨x, congrArg Prod.fst h⟩

theorem finishes_iff_isOk {a : Attempt σ α} {s : σ} : Finishes a s ↔ (a.outcome s).1.isOk = true := by
  unfold Finishes
  cases (a.outcome s).1 with
  | error fault => simp [Except.isOk, Except.toBool]
  | ok x => simp [Except.isOk, Except.toBool]

theorem Finishes.eq {a : Attempt σ α} {s : σ} (h : Finishes a s) : ∃ x s', a.outcome s = (.ok x, s') := by
  obtain ⟨x, finished⟩ := h
  exact ⟨x, (a.outcome s).2, Prod.ext finished rfl⟩

theorem finishes_bind {a : Attempt σ α} {f : α → Attempt σ β} {s : σ} :
    Finishes (a >>= f) s ↔ ∃ x t, a.outcome s = (.ok x, t) ∧ Finishes (f x) t := by
  constructor
  · intro h
    obtain ⟨y, s', ran⟩ := h.eq
    obtain ⟨x, t, first, second⟩ := bind_eq_ok.mp ran
    exact ⟨x, t, first, finishes_of_eq second⟩
  · rintro ⟨x, t, first, h⟩
    obtain ⟨y, s', second⟩ := h.eq
    exact finishes_of_eq (bind_eq_ok.mpr ⟨x, t, first, second⟩)

/-- Of what the attempt gives, and of the state that it leaves then, the property holds. -/
def Then (a : Attempt σ α) (s : σ) (Q : α → σ → Prop) : Prop := ∀ x t, a.outcome s = (.ok x, t) → Q x t

theorem then_of_eq {a : Attempt σ α} {s t : σ} {x : α} {Q : α → σ → Prop} (h : a.outcome s = (.ok x, t)) :
    a.Then s Q ↔ Q x t := by
  constructor
  · intro holds
    exact holds x t h
  · intro holds y t' ran
    rw [h] at ran
    cases ran
    exact holds

theorem then_congr {a : Attempt σ α} {s : σ} {Q R : α → σ → Prop}
    (h : ∀ x t, a.outcome s = (.ok x, t) → (Q x t ↔ R x t)) : a.Then s Q ↔ a.Then s R :=
  forall_congr' fun x => forall_congr' fun t => forall_congr' fun ran => h x t ran

theorem finishes_bind_then {a : Attempt σ α} {f : α → Attempt σ β} {s : σ} :
    Finishes (a >>= f) s ↔ Finishes a s ∧ a.Then s fun x t => Finishes (f x) t := by
  rw [finishes_bind]
  constructor
  · rintro ⟨x, t, first, second⟩
    exact ⟨finishes_of_eq first, (then_of_eq first).mpr second⟩
  · rintro ⟨first, second⟩
    obtain ⟨x, t, ran⟩ := first.eq
    exact ⟨x, t, ran, second x t ran⟩

theorem finishes_bind_of_total {a : Attempt σ α} {f : α → Attempt σ β} {s : σ} (total : ∀ x t, Finishes (f x) t) :
    Finishes (a >>= f) s ↔ Finishes a s := by
  rw [finishes_bind_then]
  exact and_iff_left fun x t _ => total x t

theorem finishes_lift_bind {r : Except Fault α} {f : α → Attempt σ β} {s : σ} :
    Finishes (Attempt.lift r >>= f) s ↔ Succeeds r ∧ ∀ x, r = .ok x → Finishes (f x) s := by
  rw [finishes_bind_then]
  refine and_congr_right fun _ => ⟨fun rest x here => rest x s (Prod.ext here rfl), ?_⟩
  intro rest x t lifted
  obtain ⟨here, rfl⟩ := Prod.mk.inj lifted
  exact rest x here

/-- Once the first attempt is known to have finished, the rest decides. -/
theorem finishes_bind_of_ok {a : Attempt σ α} {f : α → Attempt σ β} {s t : σ} {x : α}
    (h : a.outcome s = (.ok x, t)) : Finishes (a >>= f) s ↔ Finishes (f x) t := by
  unfold Finishes
  rw [outcome_bind_of_ok h]

end Attempt

end CanaryGate
