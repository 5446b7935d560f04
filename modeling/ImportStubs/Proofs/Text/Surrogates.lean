import ImportStubs.Text
import Mathlib.Data.List.Basic
import Mathlib.Tactic.Common

/-!
# Texts without surrogates

A text that comes from characters, as decoding gives them, has no lone surrogate, and every text
without one comes from exactly one list of characters.
-/

namespace ImportStubs

theorem Text.ofChars_injective : Function.Injective Text.ofChars :=
  List.map_injective_iff.mpr fun _ _ => CodePoint.char.inj

theorem Text.ofString_injective : Function.Injective Text.ofString := fun _ _ h =>
  String.toList_inj.mp (Text.ofChars_injective h)

/-- A text without surrogates, as decoding gives it. -/
def Text.IsDecoded (t : Text) : Prop := ∃ cs, t = Text.ofChars cs

theorem Text.isDecoded_ofChars (cs : List Char) : (Text.ofChars cs).IsDecoded := ⟨cs, rfl⟩

theorem Text.isDecoded_ofString (name : String) : (Text.ofString name).IsDecoded := ⟨_, rfl⟩

theorem Text.IsDecoded.append {t u : Text} (ht : t.IsDecoded) (hu : u.IsDecoded) :
    (t ++ u).IsDecoded := by
  obtain ⟨cs, rfl⟩ := ht
  obtain ⟨ds, rfl⟩ := hu
  exact ⟨cs ++ ds, List.map_append.symm⟩

@[simp] theorem Text.hasSurrogate_ofChars (cs : List Char) :
    Text.hasSurrogate (Text.ofChars cs) = false := by
  rw [Text.hasSurrogate, Text.ofChars, List.any_map, List.any_eq_false]
  intro c _
  simp [CodePoint.isSurrogate]

@[simp] theorem Text.hasSurrogate_ofString (s : String) :
    Text.hasSurrogate (Text.ofString s) = false := Text.hasSurrogate_ofChars _

@[simp] theorem Text.hasSurrogate_append (t u : Text) :
    Text.hasSurrogate (t ++ u) = (Text.hasSurrogate t || Text.hasSurrogate u) := List.any_append

theorem Text.isDecoded_iff {t : Text} : t.IsDecoded ↔ t.hasSurrogate = false := by
  constructor
  · rintro ⟨cs, rfl⟩
    exact Text.hasSurrogate_ofChars cs
  · intro h
    induction t with
    | nil => exact ⟨[], rfl⟩
    | cons c t ih =>
      simp only [Text.hasSurrogate, List.any_cons, Bool.or_eq_false_iff] at h
      obtain ⟨cs, rfl⟩ := ih h.2
      cases c with
      | char c => exact ⟨c :: cs, rfl⟩
      | surrogate i => cases h.1

end ImportStubs
