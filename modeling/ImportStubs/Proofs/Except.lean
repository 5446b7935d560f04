import Mathlib.Data.List.Forall2
import Mathlib.Tactic.Common

/-!
# Results that may be errors

A chain of actions succeeds exactly if each of them does, and it fails with the error of the first
one that fails. For a fold this is the error of an entry up to which everything went well.
-/

namespace ImportStubs

theorem bind_eq_ok_iff {ε α β : Type} {x : Except ε α} {f : α → Except ε β} {b : β} :
    (x >>= f) = .ok b ↔ ∃ a, x = .ok a ∧ f a = .ok b := by
  cases x with
  | error e => simp [bind, Except.bind]
  | ok a => simp [bind, Except.bind]

theorem map_eq_ok_iff {ε α β : Type} {x : Except ε α} {f : α → β} {b : β} :
    x.map f = .ok b ↔ ∃ a, x = .ok a ∧ f a = b := by
  cases x with
  | error e => simp [Except.map]
  | ok a => simp [Except.map]

theorem map_eq_error_iff {ε α β : Type} {x : Except ε α} {f : α → β} {e : ε} :
    x.map f = .error e ↔ x = .error e := by
  cases x with
  | error e' => simp [Except.map]
  | ok a => simp [Except.map]

theorem mapError_eq_ok_iff {ε ε' α : Type} {x : Except ε α} {f : ε → ε'} {a : α} :
    x.mapError f = .ok a ↔ x = .ok a := by
  cases x with
  | error e => simp [Except.mapError]
  | ok a => simp [Except.mapError]

theorem mapError_eq_error_iff {ε ε' α : Type} {x : Except ε α} {f : ε → ε'} {e : ε'} :
    x.mapError f = .error e ↔ ∃ cause, x = .error cause ∧ f cause = e := by
  cases x with
  | error e => simp [Except.mapError]
  | ok a => simp [Except.mapError]

theorem mapM_eq_ok_iff {ε α β : Type} {f : α → Except ε β} {xs : List α} {ys : List β} :
    xs.mapM f = .ok ys ↔ List.Forall₂ (fun x y => f x = .ok y) xs ys := by
  induction xs generalizing ys with
  | nil => cases ys <;> simp [pure, Except.pure]
  | cons x xs ih =>
    rw [List.mapM_cons, bind_eq_ok_iff]
    constructor
    · rintro ⟨y, hy, hrest⟩
      obtain ⟨rest, hmap, hpure⟩ := bind_eq_ok_iff.mp hrest
      obtain rfl : y :: rest = ys := Except.ok.inj hpure
      exact .cons hy (ih.mp hmap)
    · rintro (_ | ⟨hy, hrest⟩)
      exact ⟨_, hy, bind_eq_ok_iff.mpr ⟨_, ih.mpr hrest, rfl⟩⟩

theorem option_mapM_eq_ok_iff {ε α β : Type} {f : α → Except ε β} {x : Option α} {y : Option β} :
    x.mapM f = .ok y ↔ Option.Rel (fun a b => f a = .ok b) x y := by
  cases x with
  | none =>
    constructor
    · rintro ⟨⟩
      exact .none
    · rintro ⟨⟩
      rfl
  | some a =>
    have hmap : (some a).mapM f = (f a).map some := by cases hf : f a <;> simp [hf] <;> rfl
    rw [hmap, map_eq_ok_iff]
    constructor
    · rintro ⟨b, hb, rfl⟩
      exact .some hb
    · rintro ⟨hb⟩
      exact ⟨_, hb, rfl⟩

theorem bind_eq_error_iff {ε α β : Type} {x : Except ε α} {f : α → Except ε β} {e : ε} :
    (x >>= f) = .error e ↔ x = .error e ∨ ∃ a, x = .ok a ∧ f a = .error e := by
  cases x with
  | error e' => simp [bind, Except.bind]
  | ok a => simp [bind, Except.bind]

/-- A fold fails at the first entry at which its step fails. -/
theorem foldlM_eq_error_iff {ε α β : Type} {f : β → α → Except ε β} {xs : List α} {start : β}
    {e : ε} :
    xs.foldlM f start = .error e ↔ ∃ before x after acc, xs = before ++ x :: after ∧
      before.foldlM f start = .ok acc ∧ f acc x = .error e := by
  induction xs generalizing start with
  | nil => simp [pure, Except.pure]
  | cons x xs ih =>
    rw [List.foldlM_cons, bind_eq_error_iff]
    constructor
    · rintro (hfirst | ⟨acc, hstep, hrest⟩)
      · exact ⟨[], x, xs, start, rfl, rfl, hfirst⟩
      · obtain ⟨before, y, after, last, rfl, hbefore, hlast⟩ := ih.mp hrest
        refine ⟨x :: before, y, after, last, rfl, ?_, hlast⟩
        rw [List.foldlM_cons, hstep]
        exact hbefore
    · rintro ⟨before, y, after, last, hsplit, hbefore, hlast⟩
      cases before with
      | nil =>
        obtain ⟨rfl, rfl⟩ := List.cons.inj hsplit
        cases hbefore
        exact .inl hlast
      | cons z before =>
        obtain ⟨rfl, rfl⟩ := List.cons.inj hsplit
        rw [List.foldlM_cons] at hbefore
        obtain ⟨acc, hstep, hrest⟩ := bind_eq_ok_iff.mp hbefore
        exact .inr ⟨acc, hstep, ih.mpr ⟨before, y, after, last, rfl, hrest, hlast⟩⟩

/-- No error comes out but those with a property. -/
def FailsOnly {ε α : Type} (P : ε → Prop) (x : Except ε α) : Prop := ∀ e, x = .error e → P e

section FailsOnly

variable {ε α β : Type} {P : ε → Prop}

theorem failsOnly_ok (a : α) : FailsOnly P (.ok a : Except ε α) := by
  intro e h
  cases h

theorem failsOnly_error {e : ε} (he : P e) : FailsOnly P (.error e : Except ε α) := by
  intro e' h
  cases h
  exact he

theorem FailsOnly.bind {x : Except ε α} {f : α → Except ε β} (hx : FailsOnly P x)
    (hf : ∀ a, x = .ok a → FailsOnly P (f a)) : FailsOnly P (x >>= f) := by
  intro e h
  rcases bind_eq_error_iff.mp h with hfirst | ⟨a, ha, hrest⟩
  · exact hx e hfirst
  · exact hf a ha e hrest

theorem FailsOnly.map {x : Except ε α} {f : α → β} (hx : FailsOnly P x) :
    FailsOnly P (x.map f) := by
  cases x with
  | ok a => exact failsOnly_ok (f a)
  | error e => exact failsOnly_error (hx e rfl)

theorem FailsOnly.mapError {ε' : Type} {x : Except ε' α} {f : ε' → ε} (hf : ∀ e, P (f e)) :
    FailsOnly P (x.mapError f) := by
  cases x with
  | ok a => exact failsOnly_ok a
  | error e => exact failsOnly_error (hf e)

theorem FailsOnly.mapM {f : α → Except ε β} {xs : List α} (hf : ∀ a ∈ xs, FailsOnly P (f a)) :
    FailsOnly P (xs.mapM f) := by
  induction xs with
  | nil => exact failsOnly_ok []
  | cons x xs ih =>
    obtain ⟨hfirst, hrest⟩ := List.forall_mem_cons.mp hf
    rw [List.mapM_cons]
    exact hfirst.bind fun y _ => (ih hrest).bind fun ys _ => failsOnly_ok (y :: ys)

theorem FailsOnly.foldlM {f : β → α → Except ε β} (hf : ∀ acc x, FailsOnly P (f acc x))
    (xs : List α) (start : β) : FailsOnly P (xs.foldlM f start) := by
  intro e h
  obtain ⟨before, x, after, acc, -, -, hstep⟩ := foldlM_eq_error_iff.mp h
  exact hf acc x e hstep

end FailsOnly

/-- A value comes out, and it has a property. -/
def Succeeds {ε α : Type} (P : α → Prop) (x : Except ε α) : Prop := ∃ a, x = .ok a ∧ P a

section Succeeds

variable {ε ε' α β : Type} {P : α → Prop} {Q : β → Prop}

theorem succeeds_ok {a : α} (ha : P a) : Succeeds P (.ok a : Except ε α) := ⟨a, rfl, ha⟩

theorem Succeeds.bind {x : Except ε α} {f : α → Except ε β} (hx : Succeeds P x)
    (hf : ∀ a, P a → Succeeds Q (f a)) : Succeeds Q (x >>= f) := by
  obtain ⟨a, rfl, ha⟩ := hx
  exact hf a ha

theorem Succeeds.map {x : Except ε α} {f : α → β} (hx : Succeeds P x)
    (hf : ∀ a, P a → Q (f a)) : Succeeds Q (x.map f) := by
  obtain ⟨a, rfl, ha⟩ := hx
  exact succeeds_ok (hf a ha)

theorem Succeeds.mapError {x : Except ε α} (f : ε → ε') (hx : Succeeds P x) :
    Succeeds P (x.mapError f) := by
  obtain ⟨a, rfl, ha⟩ := hx
  exact succeeds_ok ha

theorem Succeeds.mapM {γ : Type} {f : γ → Except ε α} {cs : List γ}
    (hf : ∀ c ∈ cs, Succeeds P (f c)) : Succeeds (fun as => ∀ a ∈ as, P a) (cs.mapM f) := by
  induction cs with
  | nil => exact succeeds_ok fun _ ha => absurd ha List.not_mem_nil
  | cons c cs ih =>
    obtain ⟨hfirst, hrest⟩ := List.forall_mem_cons.mp hf
    rw [List.mapM_cons]
    refine hfirst.bind fun a ha => (ih hrest).bind fun as has => ?_
    exact succeeds_ok (List.forall_mem_cons.mpr ⟨ha, has⟩)

theorem forM_eq_ok {γ : Type} {f : γ → Except ε PUnit} {cs : List γ}
    (hf : ∀ c ∈ cs, f c = .ok PUnit.unit) : cs.forM f = .ok PUnit.unit := by
  induction cs with
  | nil => rfl
  | cons c cs ih =>
    obtain ⟨hfirst, hrest⟩ := List.forall_mem_cons.mp hf
    change (f c >>= fun _ => cs.forM f) = _
    rw [hfirst]
    exact ih hrest

end Succeeds

section State

variable {ε σ α β : Type} {action : ExceptT ε (StateM σ) α} {start after : σ}

theorem run_bind_of_ok {a : α} (h : action.run.run start = (.ok a, after))
    (next : α → ExceptT ε (StateM σ) β) :
    (action >>= next).run.run start = (next a).run.run after := by
  rw [ExceptT.run_bind, StateT.run_bind, h]
  rfl

theorem run_bind_of_error {e : ε} (h : action.run.run start = (.error e, after))
    (next : α → ExceptT ε (StateM σ) β) :
    (action >>= next).run.run start = (.error e, after) := by
  rw [ExceptT.run_bind, StateT.run_bind, h]
  rfl

theorem run_bind_eq_ok_iff {next : α → ExceptT ε (StateM σ) β} {b : β} {last : σ} :
    (action >>= next).run.run start = (.ok b, last) ↔ ∃ a middle,
      action.run.run start = (.ok a, middle) ∧ (next a).run.run middle = (.ok b, last) := by
  rcases hrun : action.run.run start with ⟨e | a, middle⟩
  · rw [run_bind_of_error hrun]
    exact iff_of_false (by rintro ⟨⟩) (by rintro ⟨a, middle, ⟨⟩, -⟩)
  · rw [run_bind_of_ok hrun]
    constructor
    · intro h
      exact ⟨a, middle, rfl, h⟩
    · rintro ⟨_, _, ⟨⟩, h⟩
      exact h

end State

end ImportStubs
