import ImportStubs.Display
import ImportStubs.Proofs.Console.Literal

/-!
# Cells with names

The tables of stubs and of unresolved imports have cells for names. Such a cell is the escaped name,
whatever else is known of the stub or the miss, so what it shows is decided by the name alone. It is
the name itself exactly if the name is one that escaping brings back.
-/

namespace ImportStubs.Display

open Console.Markup

/-- A cell of the two tables that stands for a name. -/
inductive NameCell (name : Text) : Text → Prop
  | symbol {s : Stub} {symbol : Symbol} {cell : Text} : s.symbol = some symbol →
      symbol.name = name → (stubRow s)[1]? = some cell → NameCell name cell
  | library {s : Stub} {e : Entity} {cell : Text} : s.library = some e → e.name? = some name →
      (stubRow s)[5]? = some cell → NameCell name cell
  | module {s : Stub} {e : Entity} {cell : Text} : s.module = some e → e.name? = some name →
      (stubRow s)[6]? = some cell → NameCell name cell
  | target {s : Stub} {e : Entity} {cell : Text} : s.target = some e → e.name? = some name →
      (stubRow s)[7]? = some cell → NameCell name cell
  | missed {miss : Miss} {cell : Text} : miss.symbol = name → (missRow miss)[2]? = some cell →
      NameCell name cell

theorem entityMarkup_of_name {e : Entity} {name : Text} (h : e.name? = some name) :
    entityMarkup (some e) = escape name := by
  cases e with
  | value v => cases h
  | _ =>
    cases h
    rfl

theorem NameCell.eq_escape {name cell : Text} (h : NameCell name cell) : cell = escape name := by
  cases h with
  | symbol hsymbol hname hcell =>
    cases hcell
    rw [Stub.displayName, hsymbol, ← hname]
  | library he hname hcell | module he hname hcell | target he hname hcell =>
    cases hcell
    rw [he, entityMarkup_of_name hname]
  | missed hname hcell =>
    cases hcell
    rw [hname]

/-- What comes of a cell for a name. -/
structure CellShows (name cell : Text) : Prop where
  rendered : render cell = .ok { text := shownText name, spans := [] }
  /-- The parts that are shown one by one make up the name. -/
  parts_flatten : (parts name).flatten = name
  shows_name_iff : (render cell).map (·.text) = .ok name ↔ ShowsItself name

/-- Every cell for a name can be shown, and which names it shows as they are. -/
theorem cellShows {name cell : Text} (hvisible : Visible name) (h : NameCell name cell) :
    CellShows name cell := by
  have hrendered : render cell = .ok { text := shownText name, spans := [] } := by
    rw [h.eq_escape, render_escape]
  exact {
    rendered := hrendered
    parts_flatten := flatten_parts name
    shows_name_iff := by
      rw [hrendered, ← shownText_eq_self_iff hvisible]
      exact ⟨fun h => Except.ok.inj h, fun h => congrArg Except.ok h⟩ }

def stubNamed (name : Text) : Stub := { kind := .functionStub, symbol := some { name } }

/-- The brackets of a name are shown. -/
theorem cellShows_tag : Visible "[red]sceKernelExit" ∧
    NameCell "[red]sceKernelExit" (escape "[red]sceKernelExit") ∧
    CellShows "[red]sceKernelExit" (escape "[red]sceKernelExit") ∧
    ShowsItself "[red]sceKernelExit" :=
  have hvisible : Visible "[red]sceKernelExit" := by unfold Visible; decide
  have hcell : NameCell "[red]sceKernelExit" (escape "[red]sceKernelExit") :=
    .symbol (s := stubNamed "[red]sceKernelExit") rfl rfl rfl
  ⟨hvisible, hcell, cellShows hvisible hcell, showsItself_of_notMem (by decide) (by decide)⟩

/-- A backslash in front of a bracket that starts no tag is not shown. -/
theorem backslash_dropped : ∃ name cell, Visible name ∧ NameCell name cell ∧
    (render cell).map (·.text) ≠ .ok name := by
  refine ⟨"\\[1]", escape "\\[1]", by unfold Visible; decide,
    .symbol (s := stubNamed "\\[1]") rfl rfl rfl, ?_⟩
  have hshown : (render (escape "\\[1]")).map (·.text) = .ok "[1]" := by decide +kernel
  rw [hshown]
  decide

end ImportStubs.Display
