import ImportStubs.Proofs.Session.Steps

/-!
# Properties that chains of steps inherit

An assembly is a chain of steps: a loop over the sections, a loop over the index tables and a loop
over the kinds of stubs. A property that passes from two steps to their chain therefore holds of the
whole assembly if it holds of each step in the loops.
-/

namespace ImportStubs.Session

/-- A chain of two steps has the property if both steps have it, whatever the first one gives. -/
structure Inherited (P : ∀ {α : Type}, Step α → Prop) : Prop where
  pure : ∀ {α : Type} (value : α), P (Pure.pure value : Step α)
  bind : ∀ {α β : Type} {step : Step α} {next : α → Step β}, P step → (∀ value, P (next value)) →
    P (step >>= next)

namespace Inherited

variable {P : ∀ {α : Type}, Step α → Prop} (h : Inherited P) {α γ : Type}
include h

theorem mapM {step : γ → Step α} (hstep : ∀ c, P (step c)) (cs : List γ) : P (cs.mapM step) := by
  induction cs with
  | nil => exact h.pure []
  | cons c cs ih =>
    rw [List.mapM_cons]
    exact h.bind (hstep c) fun value => h.bind ih fun values => h.pure (value :: values)

theorem forM {step : γ → Step PUnit} (hstep : ∀ c, P (step c)) (cs : List γ) :
    P (cs.forM step) := by
  induction cs with
  | nil => exact h.pure PUnit.unit
  | cons c cs ih => exact h.bind (hstep c) fun _ => ih

theorem foldlM {step : α → γ → Step α} (hstep : ∀ value c, P (step value c)) (cs : List γ)
    (value : α) : P (cs.foldlM step value) := by
  induction cs generalizing value with
  | nil => exact h.pure value
  | cons c cs ih =>
    rw [List.foldlM_cons]
    exact h.bind (hstep value c) ih

/-- A condition is checked before the rest. -/
theorem guard {p : Prop} [Decidable p] {cause : LoadFault} {rest : PUnit → Step α}
    (hfail : P (fail cause : Step PUnit)) (hrest : ∀ u, P (rest u)) :
    P (if p then fail cause >>= rest else rest PUnit.unit) := by
  split_ifs
  · exact h.bind hfail hrest
  · exact hrest PUnit.unit

theorem loadSection (hstubs : ∀ kind s, P (loadStubs kind s)) (hsymbols : ∀ s, P (loadSymbols s))
    (s : SectionHeader) : P (loadSection s) := by
  unfold Session.loadSection
  cases stubKind? s with
  | some kind => exact hstubs kind s
  | none =>
    dsimp only
    split_ifs
    · exact hsymbols s
    · exact h.pure PUnit.unit

/-- What an assembly does when its sections are loaded. -/
theorem assemble (hget : P (get : Step Assembly)) (hfail : ∀ cause, P (fail cause : Step PUnit))
    (hsection : ∀ s, P (Session.loadSection s))
    (hextend : ∀ symbols s, P (extendSymbols symbols s))
    (hcorrelate : ∀ symbols kind, P (correlateKind symbols kind)) : P assemble := by
  refine h.bind hget fun start => h.bind (h.forM hsection _) fun _ => h.bind hget fun a => ?_
  refine h.guard (hfail .noStubSections) fun _ => ?_
  cases a.symbols with
  | none => exact hfail .missingSymbolTable
  | some symbols =>
    exact h.bind (h.foldlM hextend _ symbols) fun extended => h.forM (hcorrelate extended) _

end Inherited

end ImportStubs.Session
