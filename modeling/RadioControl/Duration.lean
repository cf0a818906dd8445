import RadioControl.Strtod

/-! # Durations in the configuration

`parseDuration` (`src/config/config_manager.cpp`, third draft) reads a
duration such as `30s`, `5m` or `1h`.  The empty string is `0 s`.  Otherwise
its last character is the unit when it is a letter, and the rest is handed to
`std::stod`; a last character that is not a letter leaves the whole string to
`std::stod`, in seconds.  The double is cast to `int` and only then scaled to
seconds, minutes or hours; any other letter throws `std::invalid_argument`.

So only the number `std::stod` finds at the head of the string counts: text
after it is ignored, and a fraction is dropped before scaling, so `500ms` is
`500 s` and `1.5h` is `3600 s` (`parseDuration_truncates_then_scales`,
`one_and_a_half_hours_truncated`).  Nothing checks the double before
`static_cast<int>`: a NaN, an infinity or a number whose integer part is not an
`int` is undefined behaviour: every integer from `2^31` up is
(`parseDuration_integer`, `large_duration_is_undefined`).  Nor is the sign
checked: a negative count is read as it is, down to `-2^31` units
(`parseDuration_neg_integer`).
-/
namespace RadioControl

/-- `static_cast<int>(numeric)`, undefined when the result is not an `int`. -/
def castToInt (x : Double) : Except Fault Int :=
  match Binary64.staticCastInt x with
  | some n => .ok n
  | none => .error .undefined

/-- The `switch (suffix)` of `parseDuration`: the number cast to `int` as
seconds, minutes or hours, in seconds. -/
def applySuffix (suffix : Char) (numeric : Double) : Except Fault Int :=
  match suffix with
  | 's' | 'S' => castToInt numeric
  | 'm' | 'M' => (60 * ·) <$> castToInt numeric
  | 'h' | 'H' => (3600 * ·) <$> castToInt numeric
  | _ => .error (.thrown ⟨.invalidArgument, "Unsupported duration suffix: " ++ suffix.toString⟩)

/-- **`parseDuration`**, in seconds. -/
def parseDuration (value : String) : Except Fault Int :=
  match value.toList.getLast? with
  | none => .ok 0
  | some back =>
    if back.isAlpha then (stod ⟨value.toList.dropLast⟩).bind (applySuffix back)
    else (stod value).bind (applySuffix 's')

/-! ## One equation per shape of string -/

/-- The unit letters `parseDuration` accepts. -/
def unitLetters : List Char := ['s', 'S', 'm', 'M', 'h', 'H']

/-- The seconds in one unit. -/
def unitFactor (u : Char) : Int :=
  if u = 'm' ∨ u = 'M' then 60 else if u = 'h' ∨ u = 'H' then 3600 else 1

theorem isAlpha_of_mem_unitLetters {u : Char} (hu : u ∈ unitLetters) : u.isAlpha = true := by
  simp only [unitLetters, List.mem_cons, List.not_mem_nil, or_false] at hu
  rcases hu with rfl | rfl | rfl | rfl | rfl | rfl <;> rfl

theorem applySuffix_of_unit {u : Char} (hu : u ∈ unitLetters) (x : Double) :
    applySuffix u x = (unitFactor u * ·) <$> castToInt x := by
  simp only [unitLetters, List.mem_cons, List.not_mem_nil, or_false] at hu
  rcases hu with rfl | rfl | rfl | rfl | rfl | rfl <;> simp [applySuffix, unitFactor]

theorem applySuffix_of_not_unit {u : Char} (hu : u ∉ unitLetters) (x : Double) :
    applySuffix u x =
      .error (.thrown ⟨.invalidArgument, "Unsupported duration suffix: " ++ u.toString⟩) := by
  simp only [unitLetters, List.mem_cons, List.not_mem_nil, or_false, not_or] at hu
  obtain ⟨h₁, h₂, h₃, h₄, h₅, h₆⟩ := hu
  unfold applySuffix; split <;> simp_all

/-- A string ending in a letter: the letter is the unit, the rest the number. -/
theorem parseDuration_letter (p : List Char) {u : Char} (hu : u.isAlpha = true) :
    parseDuration ⟨p ++ [u]⟩ = (stod ⟨p⟩).bind (applySuffix u) := by
  have hstr : (String.mk (p ++ [u])).toList = p ++ [u] := rfl
  simp only [parseDuration, hstr, List.getLast?_concat, hu, if_true, List.dropLast_concat]

/-- A string ending in anything but a letter: all of it is the number, in
seconds. -/
theorem parseDuration_not_letter (p : List Char) {c : Char} (hc : c.isAlpha = false) :
    parseDuration ⟨p ++ [c]⟩ = (stod ⟨p ++ [c]⟩).bind (applySuffix 's') := by
  have hstr : (String.mk (p ++ [c])).toList = p ++ [c] := rfl
  simp only [parseDuration, hstr, List.getLast?_concat, hc, Bool.false_eq_true, if_false]

/-! ## Decimal literals -/

/-- What `parseDuration` gives for a decimal literal in units of `f` seconds:
the double nearest to it (`std::out_of_range` when that under- or overflows),
cast to `int` (undefined when that is not an `int`), then multiplied by
`f`. -/
def DecimalLiteral.seconds (D : DecimalLiteral) (f : Int) : Except Fault Int :=
  if (Binary64.round false D.num D.den).erange then .error (.thrown ⟨.outOfRange, "stod"⟩)
  else (f * ·) <$> castToInt (Binary64.round false D.num D.den).value

theorem DecimalLiteral.text_ne_nil (D : DecimalLiteral) : D.text ≠ [] := by
  obtain ⟨I, F, -, hD⟩ := D
  cases F with
  | none => simpa [DecimalLiteral.text] using hD
  | some F => simp [DecimalLiteral.text]

theorem stod_bind_decimalLiteral (D : DecimalLiteral) {t : List Char} (ht : CannotExtend t)
    (g : Double → Except Fault Int) :
    (stod ⟨D.text ++ t⟩).bind g =
      if (Binary64.round false D.num D.den).erange then .error (.thrown ⟨.outOfRange, "stod"⟩)
      else g (Binary64.round false D.num D.den).value := by
  rw [stod_decimalLiteral D ht]; cases (Binary64.round false D.num D.den).erange <;> rfl

/-- The literal `1.5`. -/
def oneAndAHalf : DecimalLiteral := ⟨['1'], some ['5'], by decide, by decide⟩

/-- **`parseDuration` reads the number at the head of the string, truncates it,
and then scales it.**  The empty string is `0 s`.  For every decimal literal
`D` and every text `t` that cannot continue it: `D t u` with a unit letter `u`
is `D` read as a double, cast to `int` and then multiplied by 1, 60 or 3600;
`D t` not ending in a letter is that in seconds; and `D t u` with any
other letter `u` throws `std::invalid_argument` naming `u`, unless `std::stod`
already threw. -/
theorem parseDuration_truncates_then_scales :
    parseDuration "" = .ok 0 ∧
      (∀ (D : DecimalLiteral) (t : List Char) (u : Char), CannotExtend t → u ∈ unitLetters →
        parseDuration ⟨D.text ++ t ++ [u]⟩ = D.seconds (unitFactor u)) ∧
      (∀ (D : DecimalLiteral) (t : List Char), CannotExtend t →
        (∀ c ∈ (D.text ++ t).getLast?, c.isAlpha = false) →
        parseDuration ⟨D.text ++ t⟩ = D.seconds 1) ∧
      ∀ (D : DecimalLiteral) (t : List Char) (u : Char), CannotExtend t → u.isAlpha = true →
        u ∉ unitLetters →
        parseDuration ⟨D.text ++ t ++ [u]⟩ =
          if (Binary64.round false D.num D.den).erange then .error (.thrown ⟨.outOfRange, "stod"⟩)
          else .error (.thrown ⟨.invalidArgument, "Unsupported duration suffix: " ++ u.toString⟩) := by
  refine ⟨rfl, fun D t u ht hu => ?_, fun D t ht hlast => ?_, fun D t u ht hu hnot => ?_⟩
  · rw [parseDuration_letter _ (isAlpha_of_mem_unitLetters hu), stod_bind_decimalLiteral D ht,
      applySuffix_of_unit hu]
    rfl
  · obtain ⟨c, hc⟩ : ∃ c, (D.text ++ t).getLast? = some c :=
      ⟨_, List.getLast?_eq_getLast _ (List.append_ne_nil_of_left_ne_nil D.text_ne_nil t)⟩
    obtain ⟨p, hpc⟩ := List.getLast?_eq_some_iff.1 hc
    rw [hpc, parseDuration_not_letter _ (hlast c hc), ← hpc, stod_bind_decimalLiteral D ht,
      applySuffix_of_unit (by decide)]
    rfl
  · rw [parseDuration_letter _ hu, stod_bind_decimalLiteral D ht, applySuffix_of_not_unit hnot]

/-- `1.5h`, the literal `1.5` with nothing after it and the unit `h`, is the
literal read as a double, cast to `int` and then scaled: `3600 s`. -/
theorem one_and_a_half_hours_parsed :
    parseDuration ⟨oneAndAHalf.text ++ [] ++ ['h']⟩ = oneAndAHalf.seconds (unitFactor 'h') ∧
      oneAndAHalf.seconds (unitFactor 'h') = .ok 3600 :=
  ⟨parseDuration_truncates_then_scales.2.1 oneAndAHalf [] 'h' (fun _ => nofun) (by decide), by decide⟩

/-- `1.5h` is `3600 s`: the fraction is dropped before the hours are turned
into seconds, where truncating `1.5 × 3600` would give `5400 s`. -/
theorem one_and_a_half_hours_truncated :
    ¬ ∀ (D : DecimalLiteral) (u : Char), u ∈ unitLetters →
        Int.tdiv (D.num * unitFactor u) D.den < 2 ^ 31 →
        parseDuration ⟨D.text ++ [u]⟩ = .ok (Int.tdiv (D.num * unitFactor u) D.den) := by
  intro h
  have claimed := h oneAndAHalf 'h' (by decide) (by decide)
  exact absurd claimed (by decide)

/-! ## Integers -/

/-- An integer literal below `2^53` is read exactly, so its cast is defined
exactly when it is below `2^31`. -/
theorem DecimalLiteral.seconds_of_integer (D : DecimalLiteral) (hD : D.fracPart = none)
    (h : D.num < 2 ^ 53) (f : Int) :
    D.seconds f = if D.num < 2 ^ 31 then .ok (f * D.num) else .error .undefined := by
  have hden : D.den = 1 := by simp [DecimalLiteral.den, DecimalLiteral.frac, hD]
  obtain ⟨he, m, q, hv, ht⟩ := Binary64.round_nat h
  simp only [DecimalLiteral.seconds, hden, he, hv, castToInt, Binary64.staticCastInt, ht,
    Bool.false_eq_true, if_false]
  by_cases hn : D.num < 2 ^ 31
  · rw [if_pos ⟨by omega, by omega⟩, if_pos hn]; rfl
  · rw [if_neg (by omega), if_neg hn]; rfl

/-- **An integer duration is exact below `2^31` and undefined behaviour from
there on.**  For every integer literal `D` below `2^53`, text `t` that cannot
continue it and unit letter `u`, `D t u` is `D` units when `D` is an `int`,
and `static_cast<int>` of a number that is not an `int` otherwise. -/
theorem parseDuration_integer (D : DecimalLiteral) (hD : D.fracPart = none) (h : D.num < 2 ^ 53)
    {t : List Char} (ht : CannotExtend t) {u : Char} (hu : u ∈ unitLetters) :
    parseDuration ⟨D.text ++ t ++ [u]⟩ =
      if D.num < 2 ^ 31 then .ok (unitFactor u * D.num) else .error .undefined := by
  rw [parseDuration_letter _ (isAlpha_of_mem_unitLetters hu), stod_bind_decimalLiteral D ht,
    applySuffix_of_unit hu]
  exact D.seconds_of_integer hD h _

/-- `3000000000s`, `infs` and `nans`: `std::stod` reads 3e9, an infinity and a
NaN, none of them an `int`, and `static_cast<int>` is applied to each. -/
theorem large_duration_is_undefined :
    parseDuration "3000000000s" = .error .undefined ∧ parseDuration "infs" = .error .undefined ∧
      parseDuration "nans" = .error .undefined := by
  decide

/-! ## Negative integers -/

/-- **A negative integer duration is accepted**: nothing checks the sign.  For
every integer literal `D` below `2^53`, text `t` that cannot continue it and
unit letter `u`, `-D t u` is `-D` units when `-D` is an `int`, down to
`-2^31`, one unit further than `parseDuration_integer` goes upwards. -/
theorem parseDuration_neg_integer (D : DecimalLiteral) (hD : D.fracPart = none) (h : D.num < 2 ^ 53)
    {t : List Char} (ht : CannotExtend t) {u : Char} (hu : u ∈ unitLetters) :
    parseDuration ⟨'-' :: (D.text ++ t) ++ [u]⟩ =
      if D.num ≤ 2 ^ 31 then .ok (unitFactor u * -D.num) else .error .undefined := by
  have hden : D.den = 1 := by simp [DecimalLiteral.den, DecimalLiteral.frac, hD]
  obtain ⟨he, m, q, hv, htr⟩ := Binary64.round_nat h
  rw [parseDuration_letter _ (isAlpha_of_mem_unitLetters hu), stod_neg_decimalLiteral D ht]
  simp only [hden, he, hv, Double.withSign, Bool.false_eq_true, if_false, Except.bind,
    applySuffix_of_unit hu, castToInt, Binary64.staticCastInt, Binary64.truncate_true, htr]
  by_cases hn : D.num ≤ 2 ^ 31
  · rw [if_pos ⟨by omega, by omega⟩, if_pos hn]; rfl
  · rw [if_neg (by omega), if_neg hn]; rfl

end RadioControl
