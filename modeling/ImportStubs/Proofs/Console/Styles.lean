import ImportStubs.Console.Theme
import ImportStubs.Proofs.Text.Surrogates

/-!
# Styles by name

A word that is neither an attribute nor a colour is left alone when it is brought into normal form,
so a style of the theme is asked for under its own name.
-/

namespace ImportStubs

theorem Text.is_ofString (name other : String) :
    Text.is (Text.ofString name) other = decide (name = other) := by
  rw [Text.is, beq_eq_decide]
  exact decide_eq_decide.mpr Text.ofString_injective.eq_iff

namespace Console

/-- What no colour is called and does not start like a number for one. -/
theorem Color.check_of_notMem {name : String} (h : name ∉ "default" :: colorNames)
    (hhash : (name : Text).head? ≠ some (.char '#'))
    (hcolor : arguments? "color" name = none) (hrgb : arguments? "rgb" name = none) :
    check name = .error .unknown := by
  have hnames : ¬(Text.is name "default" = true ∨ (colorNames.any (Text.is name ·)) = true) := by
    simp only [Text.is_ofString, decide_eq_true_eq, List.any_eq_true, exists_eq_right']
    exact fun hmem => h (List.mem_cons.mpr hmem)
  rw [check, if_neg hnames, if_neg fun hand => hhash hand.1, hcolor, hrgb]

/-- A word of small letters that means nothing is its own normal form. -/
theorem Style.normalize_of_unknown {word : Text} (hwords : Text.words word = [word])
    (htrim : Text.trimWhile Text.isSpacing word = word) (hlower : Text.lower word = word)
    (hkeywords : ∀ keyword ∈ ["none", "on", "not", "link"], word.is keyword = false)
    (hattribute : Attribute.ofWord? word = none) (hcolor : Color.check word = .error .unknown) :
    normalize word = .ok word := by
  have hnone := hkeywords "none" (by decide)
  have hon := hkeywords "on" (by decide)
  have hnot := hkeywords "not" (by decide)
  have hlink := hkeywords "link" (by decide)
  have hparse : parse word = .error (.color word .unknown) := by
    rw [parse, htrim, hnone, hwords]
    simp [readWords, hlower, hon, hnot, hlink, hattribute, hcolor]
  rw [normalize, hparse]
  change Except.ok (Text.lower (Text.trimWhile Text.isSpacing word)) = _
  rw [htrim, hlower]

/-- The style has a name, or its words make one. -/
def Theme.isKnown (style : Text) : Bool := (Style.parse style).isOk || defines style

theorem Theme.check_of_isKnown {style : Text} (h : isKnown style = true) :
    check style = .ok () := by
  rw [isKnown, Bool.or_eq_true] at h
  rw [check]
  split_ifs with hdefines
  · rfl
  · have hparse := h.resolve_right hdefines
    cases hstyle : Style.parse style with
    | ok s => rfl
    | error e =>
      rw [hstyle] at hparse
      cases hparse

theorem Theme.look_of_isKnown {style : Text} (h : isKnown style = true) : look style = .ok () := by
  rw [look, check_of_isKnown h]

theorem Theme.isKnown_of_defines {style : Text} (h : defines style = true) :
    isKnown style = true := by
  rw [isKnown, h, Bool.or_true]

end Console
end ImportStubs
