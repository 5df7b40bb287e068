import PocketCalc.Proofs.Calculator.Operands
import PocketCalc.Proofs.Split.Seam

/-!
# Markers and the split

The settings restrict the error marker by tests of their own and with a table of symbols of their
own, and the split of a buffer knows nothing of settings. They agree: a marker has no fault exactly
when the split, with an operator behind it, sets the whole of it aside
(`Split.ofBuffer_setsAside_iff`).

**The law** (`Settings.marker_accepted_iff`): the accepted markers are those that are kept as one
run and set aside as no number.

**What it does not establish.** Anything of the detailed text of a failure, in which the marker has
a reason behind it: see `Calculator.operands_failureText`.
-/

namespace PocketCalc

/-! ## What the split sets aside -/

namespace Split

/-- A run that is set aside is visible, and no numeral. -/
theorem unread_of_ofRun {text : List Char} (h : (ofRun text).discarded = [text]) :
    ¬ Text.isBlankText text ∧ Numeral.read? (Text.trim text) = none := by
  have visible : ¬ Text.isBlankText text := by
    intro blank
    rw [ofRun, Token.ofRun, if_pos blank] at h
    cases h
  refine ⟨visible, ?_⟩
  rw [ofRun, Token.ofRun, if_neg visible, ofTokens, List.foldr_cons, List.foldr_nil, ofToken] at h
  split at h
  next => cases h
  next unread => exact Option.map_eq_none_iff.mp unread

variable {text : List Char} {op : Operator}

/-- **A text in front of an operator is set aside whole** exactly when it is visible, holds no
operator symbol and is no numeral. -/
theorem ofBuffer_setsAside_iff :
    ofBuffer (text ++ [op.symbol]) = ⟨[], [op], [text]⟩ ↔
      ¬ Text.isBlankText text ∧ (∀ c ∈ text, ¬ Operator.isSymbol c) ∧
        Numeral.read? (Text.trim text) = none := by
  constructor
  · intro h
    have ne : text ≠ [] := by
      rintro rfl
      cases h
    rw [ofBuffer_append_operator ne] at h
    have symbols : (text ++ [op.symbol]).filterMap Operator.ofSymbol? = [op] := by
      rw [← Token.operators_cut, ← operators_ofTokens, h]
    -- the last symbol is the operator, so no other is left for the text
    rw [List.filterMap_append, List.filterMap_cons_some (Operator.ofSymbol?_eq_some_iff.mpr rfl)]
      at symbols
    have none : text.filterMap Operator.ofSymbol? = [] := List.append_cancel_right symbols
    have plain : ∀ c ∈ text, ¬ Operator.isSymbol c := by
      intro c hc symbol
      obtain ⟨other, hother⟩ := Operator.isSymbol_iff.mp symbol
      rw [List.filterMap_eq_nil_iff.mp none c hc] at hother
      cases hother
    rw [ofTokens_cut_last plain] at h
    have discarded : (ofRun text).discarded ++ [] = [text] := congrArg Split.discarded h
    rw [List.append_nil] at discarded
    obtain ⟨visible, unread⟩ := unread_of_ofRun discarded
    exact ⟨visible, plain, unread⟩
  · rintro ⟨visible, plain, unread⟩
    have ne : text ≠ [] := by
      rintro rfl
      exact visible rfl
    rw [ofBuffer_append_operator ne, ofTokens_cut_last plain,
      ofRun_of_read?_eq_none visible unread]
    rfl

/-- The same, token by token: the text is one run, and the run is set aside. -/
theorem ofBuffer_setsAside_iff_tokens :
    ofBuffer (text ++ [op.symbol]) = ⟨[], [op], [text]⟩ ↔
      Token.ofBuffer (text ++ [op.symbol]) = [.run text, .operator op] ∧
        ofToken (.run text) = ⟨[], [], [text]⟩ := by
  constructor
  · intro h
    obtain ⟨visible, plain, unread⟩ := ofBuffer_setsAside_iff.mp h
    have run : Token.ofRun text = [.run text] := Token.ofRun_of_isRun ⟨visible, plain⟩
    have aside : ofToken (.run text) = ⟨[], [], [text]⟩ := by
      rw [ofToken, Binary32.read?, unread]
      rfl
    refine ⟨?_, aside⟩
    have long : ¬ (text ++ [op.symbol]).length < 2 := by
      intro short
      rw [ofBuffer, Token.ofBuffer, if_pos short] at h
      cases h
    rw [Token.ofBuffer, if_neg long, Token.cut_operator plain, List.nil_append, run]
    rfl
  · rintro ⟨tokens, aside⟩
    rw [ofBuffer, tokens]
    show ofToken (.run text) ++ (ofToken (.operator op) ++ {}) = _
    rw [aside]
    rfl

end Split

/-! ## What settings accept -/

namespace Settings

/-- **A fault of the error marker**, and not of another setting. -/
def Fault.isOfMarker : Fault → Bool
  | emptyMarker => true
  | markerHoldsSymbol _ => true
  | markerIsNumber _ => true
  | _ => false

theorem markerFault?_eq_none_iff {marker : String} :
    markerFault? marker = none ↔
      ¬ Text.isBlankText marker.toList ∧ (∀ c ∈ marker.toList, ¬ Operator.isSymbol c) ∧
        Numeral.read? (Text.trim marker.toList) = none := by
  refine ⟨markerFault?_eq_none, ?_⟩
  rintro ⟨visible, plain, unread⟩
  have symbols : ¬ (marker.toList.any Operator.isSymbol) := by simpa using plain
  rw [markerFault?, contains_reservedSymbols, if_neg visible, if_neg symbols, unread]
  rfl

theorem isOfMarker_of_markerFault? {marker : String} {fault : Fault}
    (h : markerFault? marker = some fault) : fault.isOfMarker := by
  unfold markerFault? at h
  split at h
  · cases h; rfl
  · split at h
    · cases h; rfl
    · split at h
      · cases h; rfl
      · cases h

/-- **The marker is tested first**, so no other fault hides one of the marker. -/
theorem markerFault?_eq_none_iff_fault? (s : Settings) :
    markerFault? s.display.errorMarker = none ↔
      ∀ fault, s.fault? = some fault → fault.isOfMarker = false := by
  unfold fault?
  cases hmarker : markerFault? s.display.errorMarker with
  | some fault =>
    have := isOfMarker_of_markerFault? hmarker
    simp [this]
  | none =>
    refine ⟨fun _ fault h => ?_, fun _ => rfl⟩
    simp only at h
    split at h
    · cases h; rfl
    · split at h
      · cases h; rfl
      · split at h
        · cases h; rfl
        · cases h

/-- **Settings and the split agree on markers.** Whatever else the settings are, none of the three
faults of a marker is found in them exactly when the marker with a plus sign behind it is split into
no operands, the plus sign alone, and the marker as the one text set aside. That is when it is cut
into one run with the plus sign behind it, and the run is set aside as no number. -/
theorem marker_accepted_iff (s : Settings) :
    let marker := s.display.errorMarker.toList
    let accepted := ∀ fault, s.fault? = some fault → fault.isOfMarker = false
    (accepted ↔ Split.ofBuffer (marker ++ ['+']) = ⟨[], [.add], [marker]⟩) ∧
      (accepted ↔ Token.ofBuffer (marker ++ ['+']) = [.run marker, .operator .add] ∧
        Split.ofToken (.run marker) = ⟨[], [], [marker]⟩) := by
  intro marker accepted
  have agree :
      accepted ↔ Split.ofBuffer (marker ++ [Operator.add.symbol]) = ⟨[], [.add], [marker]⟩ :=
    calc accepted
      _ ↔ markerFault? s.display.errorMarker = none := (markerFault?_eq_none_iff_fault? s).symm
      _ ↔ _ := markerFault?_eq_none_iff
      _ ↔ _ := Split.ofBuffer_setsAside_iff.symm
  exact ⟨agree, agree.trans Split.ofBuffer_setsAside_iff_tokens⟩

/-- One letter is a marker, blanks around it included; a number in any spelling is none. -/
example : markerFault? "\u00a0E " = none ∧ markerFault? " -1" = some (.markerHoldsSymbol " -1") ∧
    markerFault? "\tInfinity" = some (.markerIsNumber "\tInfinity") := by decide

end Settings

end PocketCalc
