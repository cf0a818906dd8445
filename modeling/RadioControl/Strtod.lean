import RadioControl.Binary64

/-! # `std::stod`

`std::stod(str)` calls `strtod` on `str.c_str()` and throws
`std::invalid_argument("stod")` when no conversion could be made, or
`std::out_of_range("stod")` when `strtod` set `ERANGE`.

`strtod` skips leading white space, then reads the longest initial part of what
is left that has the form of a number, its *subject sequence*: an optional
sign, then a decimal significand with an optional exponent, a `0x` hexadecimal
significand with an optional binary exponent, `inf` or `infinity`, or `nan`
with an optional parenthesised tail, case ignored in the words.  Whatever
follows the subject is left unread (`subject`).  The value is rounded to a
double as `Binary64.round` does.

A decimal literal followed by text that cannot continue it is read as that
literal alone, the text being ignored (`subject_decimalLiteral`); after a minus
sign it is read as the same literal, and the double is negated
(`stod_neg_decimalLiteral`).
-/
namespace RadioControl

/-! ## Exceptions and undefined behaviour -/

/-- The exception classes thrown in this model: `std::invalid_argument`,
`std::out_of_range`, and the `YAML::Exception`s of yaml-cpp. -/
inductive ExceptionType
  | invalidArgument
  | outOfRange
  | yaml
  deriving DecidableEq, Repr

/-- A thrown exception: its class and its `what()`. -/
structure Exception where
  type : ExceptionType
  what : String
  deriving DecidableEq, Repr

/-- How a C++ call ends without returning: it throws, or its behaviour is
undefined, after which nothing more is known. -/
inductive Fault
  | thrown (e : Exception)
  | undefined
  deriving DecidableEq, Repr

/-- Results can be compared, so that a run on a concrete input can be checked. -/
instance decEqExcept {ε α : Type} [DecidableEq ε] [DecidableEq α] : DecidableEq (Except ε α)
  | .ok a, .ok b => if h : a = b then isTrue (h ▸ rfl) else isFalse fun e => h (Except.ok.inj e)
  | .error a, .error b =>
    if h : a = b then isTrue (h ▸ rfl) else isFalse fun e => h (Except.error.inj e)
  | .ok _, .error _ => isFalse nofun
  | .error _, .ok _ => isFalse nofun

/-! ## Characters, as the C locale classes them -/

/-- `isspace`: space, tab, newline, vertical tab, form feed, carriage return. -/
def isSpace (c : Char) : Bool :=
  c == ' ' || c == '\t' || c == '\n' || c == '\x0b' || c == '\x0c' || c == '\r'

/-- `isxdigit`. -/
def isHexDigit (c : Char) : Bool :=
  c.isDigit || decide ('a' ≤ c ∧ c ≤ 'f') || decide ('A' ≤ c ∧ c ≤ 'F')

/-- A character of the tail of `nan(...)`: a letter, a digit or `_`. -/
def isNChar (c : Char) : Bool := c.isAlphanum || c == '_'

/-- The value of a decimal or hexadecimal digit. -/
def digitValue (c : Char) : Nat :=
  if c.isDigit then c.toNat - '0'.toNat
  else if 'a' ≤ c then c.toNat - 'a'.toNat + 10
  else c.toNat - 'A'.toNat + 10

/-- The number the digits `ds` write in base `base`. -/
def digitsValue (base : Nat) (ds : List Char) : Nat :=
  ds.foldl (fun acc c => acc * base + digitValue c) 0

/-! ## The subject sequence -/

/-- An optional sign: whether it is `-`, and what follows. -/
def scanSign : List Char → Bool × List Char
  | '-' :: cs => (true, cs)
  | '+' :: cs => (false, cs)
  | cs => (false, cs)

/-- A significand of digits `isDig`: digits, then optionally a point and more
digits, with at least one digit in all.  The digits before the point, those
after it, and the rest. -/
def scanSignificand (isDig : Char → Bool) (cs : List Char) :
    Option (List Char × List Char × List Char) :=
  let intPart := cs.takeWhile isDig
  match cs.dropWhile isDig with
  | '.' :: rest =>
    let fracPart := rest.takeWhile isDig
    if intPart.isEmpty && fracPart.isEmpty then none
    else some (intPart, fracPart, rest.dropWhile isDig)
  | rest => if intPart.isEmpty then none else some (intPart, [], rest)

/-- An exponent part: one of `markers`, an optional sign, and at least one
decimal digit.  Without a digit nothing is read. -/
def scanExponent (markers : List Char) : List Char → Option (Int × List Char)
  | c :: cs =>
    if c ∈ markers then
      let signed := scanSign cs
      let ds := signed.2.takeWhile Char.isDigit
      if ds.isEmpty then none
      else
        let e : Int := digitsValue 10 ds
        some (if signed.1 then -e else e, signed.2.dropWhile Char.isDigit)
    else none
  | [] => none

/-- The magnitude a subject sequence writes. -/
inductive Magnitude
  /-- `digits · 10^(exp - fracLen)`: `fracLen` of the digits follow the point. -/
  | decimal (digits : List Char) (fracLen : Nat) (exp : Int)
  /-- `digits · 2^(exp - 4 · fracLen)`, the digits hexadecimal. -/
  | hex (digits : List Char) (fracLen : Nat) (exp : Int)
  | infinity
  | nan
  deriving DecidableEq, Repr

/-- A significand and an optional exponent part, as a magnitude. -/
def withExponent (make : List Char → Nat → Int → Magnitude) (markers : List Char)
    (sig : List Char × List Char × List Char) : Magnitude × List Char :=
  match scanExponent markers sig.2.2 with
  | some (e, rest) => (make (sig.1 ++ sig.2.1) sig.2.1.length e, rest)
  | none => (make (sig.1 ++ sig.2.1) sig.2.1.length 0, sig.2.2)

def scanDecimal (cs : List Char) : Option (Magnitude × List Char) :=
  (scanSignificand Char.isDigit cs).map (withExponent .decimal ['e', 'E'])

def scanHex : List Char → Option (Magnitude × List Char)
  | c :: x :: cs =>
    if c = '0' ∧ (x = 'x' ∨ x = 'X') then
      (scanSignificand isHexDigit cs).map (withExponent .hex ['p', 'P'])
    else none
  | _ => none

/-- Whether `cs` begins with `word`, case ignored. -/
def startsWithWord (word : String) (cs : List Char) : Bool :=
  (cs.take word.length).map Char.toLower == word.toList

def scanInfinity (cs : List Char) : Option (Magnitude × List Char) :=
  if startsWithWord "inf" cs then
    some (.infinity, if startsWithWord "infinity" cs then cs.drop 8 else cs.drop 3)
  else none

def scanNan (cs : List Char) : Option (Magnitude × List Char) :=
  if startsWithWord "nan" cs then
    some (.nan, match cs.drop 3 with
      | '(' :: tail =>
        match tail.dropWhile isNChar with
        | ')' :: rest => rest
        | _ => cs.drop 3
      | _ => cs.drop 3)
  else none

/-- **The subject sequence of `strtod`**, after leading white space: whether
it is negative, its magnitude, and the unread rest; `none` when there is no
number to read. -/
def subject (cs : List Char) : Option (Bool × Magnitude × List Char) :=
  let signed := scanSign (cs.dropWhile isSpace)
  let cs := signed.2
  ((scanHex cs).or ((scanDecimal cs).or ((scanInfinity cs).or (scanNan cs)))).map
    fun read => (signed.1, read)

/-! ## The conversion -/

/-- `±n · base^e`, rounded as `strtod` rounds. -/
def roundScaled (neg : Bool) (n base : Nat) (e : Int) : Binary64.Rounded :=
  if 0 ≤ e then Binary64.round neg (n * base ^ e.toNat) 1
  else Binary64.round neg n (base ^ (-e).toNat)

/-- The double `strtod` makes of a magnitude, and whether it sets `ERANGE`. -/
def Magnitude.round (neg : Bool) : Magnitude → Binary64.Rounded
  | .decimal ds fracLen exp => roundScaled neg (digitsValue 10 ds) 10 (exp - fracLen)
  | .hex ds fracLen exp => roundScaled neg (digitsValue 16 ds) 2 (exp - 4 * fracLen)
  | .infinity => ⟨.inf neg, false⟩
  | .nan => ⟨.nan, false⟩

/-- **`std::stod`.** -/
def stod (str : String) : Except Fault Double :=
  match subject str.toList with
  | none => .error (.thrown ⟨.invalidArgument, "stod"⟩)
  | some (neg, m, _) =>
    let r := m.round neg
    if r.erange then .error (.thrown ⟨.outOfRange, "stod"⟩) else .ok r.value

/-! ## Decimal literals -/

/-- **A decimal number literal**: digits, then optionally a point and more
digits, with at least one digit in all. -/
structure DecimalLiteral where
  intPart : List Char
  fracPart : Option (List Char)
  digits : ∀ c ∈ intPart ++ fracPart.getD [], c.isDigit = true
  has_digit : intPart ++ fracPart.getD [] ≠ []

namespace DecimalLiteral
variable (D : DecimalLiteral)

/-- The digits after the point. -/
def frac : List Char := D.fracPart.getD []

/-- The literal as written. -/
def text : List Char :=
  match D.fracPart with
  | none => D.intPart
  | some f => D.intPart ++ '.' :: f

/-- The literal is `num / den`. -/
def num : Nat := digitsValue 10 (D.intPart ++ D.frac)

def den : Nat := 10 ^ D.frac.length

/-- The magnitude the literal writes. -/
def magnitude : Magnitude := .decimal (D.intPart ++ D.frac) D.frac.length 0

end DecimalLiteral

/-- Text that cannot continue a decimal literal: it does not begin with a
digit, a point, an exponent marker or the `x` of a hexadecimal prefix. -/
def CannotExtend (t : List Char) : Prop :=
  ∀ c ∈ t.head?, c.isDigit = false ∧ c ≠ '.' ∧ c ≠ 'e' ∧ c ≠ 'E' ∧ c ≠ 'x' ∧ c ≠ 'X'

/-! ## Reading a decimal literal -/

theorem isSpace_of_isDigit {c : Char} (h : c.isDigit = true) : isSpace c = false := by
  simp only [isSpace, Bool.or_eq_false_iff, beq_eq_false_iff_ne]
  refine ⟨⟨⟨⟨⟨?_, ?_⟩, ?_⟩, ?_⟩, ?_⟩, ?_⟩ <;> rintro rfl <;> revert h <;> decide

/-- A run of `p`-characters, then text whose first character is not one:
`takeWhile p` reads exactly the run. -/
theorem span_append {p : Char → Bool} {l t : List Char} (hl : ∀ c ∈ l, p c = true)
    (ht : ∀ c ∈ t.head?, p c = false) : (l ++ t).takeWhile p = l ∧ (l ++ t).dropWhile p = t := by
  rw [List.takeWhile_append_of_pos hl, List.dropWhile_append_of_pos hl]
  cases t with
  | nil => simp
  | cons c t =>
    have hc : p c = false := ht c rfl
    simp [List.takeWhile_cons_of_neg, List.dropWhile_cons_of_neg, hc]

theorem scanExponent_eq_none {markers t : List Char} (h : ∀ c ∈ t.head?, c ∉ markers) :
    scanExponent markers t = none := by
  cases t with
  | nil => rfl
  | cons c t => simp [scanExponent, h c rfl]

/-- A significand followed by text that cannot continue it. -/
theorem scanDecimal_literal (D : DecimalLiteral) {t : List Char} (ht : CannotExtend t) :
    scanDecimal (D.text ++ t) = some (D.magnitude, t) := by
  have htd : ∀ c ∈ t.head?, Char.isDigit c = false := fun c hc => (ht c hc).1
  have hexp : scanExponent ['e', 'E'] t = none :=
    scanExponent_eq_none fun c hc => by simp [(ht c hc).2.2.1, (ht c hc).2.2.2.1]
  obtain ⟨I, F, hdig, hD⟩ := D
  have hI : ∀ c ∈ I, c.isDigit = true := fun c hc => hdig c (List.mem_append_left _ hc)
  cases F with
  | none =>
    have hne : I ≠ [] := by simpa using hD
    obtain ⟨h₁, h₂⟩ := span_append hI htd
    have hdot : ∀ r, t ≠ '.' :: r := fun r he => by simp [CannotExtend, he] at ht
    simp only [scanDecimal, DecimalLiteral.text, scanSignificand, h₁, h₂]
    simp [hne, withExponent, hexp, DecimalLiteral.magnitude, DecimalLiteral.frac]
  | some F =>
    have hF : ∀ c ∈ F, c.isDigit = true := fun c hc => hdig c (List.mem_append_right _ hc)
    obtain ⟨h₁, h₂⟩ := span_append (t := '.' :: (F ++ t)) hI (by simp)
    obtain ⟨h₃, h₄⟩ := span_append hF htd
    have hne : (I.isEmpty && F.isEmpty) = false := by cases I <;> cases F <;> simp_all
    simp only [scanDecimal, DecimalLiteral.text, List.append_assoc, List.cons_append,
      scanSignificand, h₁, h₂, h₃, h₄]
    simp [hne, withExponent, hexp, DecimalLiteral.magnitude, DecimalLiteral.frac]

theorem scanSign_of_ne {c : Char} {cs : List Char} (h₁ : c ≠ '-') (h₂ : c ≠ '+') :
    scanSign (c :: cs) = (false, c :: cs) := by
  unfold scanSign; split <;> simp_all

theorem scanHex_of_ne {c : Char} {cs : List Char}
    (h : c = '0' → ∀ x ∈ cs.head?, x ≠ 'x' ∧ x ≠ 'X') : scanHex (c :: cs) = none := by
  cases cs with
  | nil => rfl
  | cons x cs =>
    simp only [scanHex, ite_eq_right_iff]
    rintro ⟨rfl, hx⟩
    exact absurd hx (by simpa using h rfl x rfl)

/-- A decimal literal begins with a digit or a point, and a leading `0` is not
followed by the `x` of a hexadecimal prefix. -/
theorem DecimalLiteral.text_append (D : DecimalLiteral) {t : List Char} (ht : CannotExtend t) :
    ∃ c cs, D.text ++ t = c :: cs ∧ (c.isDigit = true ∨ c = '.') ∧
      (c = '0' → ∀ x ∈ cs.head?, x ≠ 'x' ∧ x ≠ 'X') := by
  have notX : ∀ x : Char, x.isDigit = true ∨ x = '.' → x ≠ 'x' ∧ x ≠ 'X' := by
    rintro x (hx | rfl)
    · exact ⟨fun he => by subst he; revert hx; decide, fun he => by subst he; revert hx; decide⟩
    · decide
  have digit_head : ∀ c I rest, (∀ d ∈ c :: I, d.isDigit = true) →
      (∀ x ∈ rest.head?, x ≠ 'x' ∧ x ≠ 'X') → ∀ x ∈ (I ++ rest).head?, x ≠ 'x' ∧ x ≠ 'X' := by
    intro c I rest hI hrest x hx
    cases I with
    | nil => exact hrest x hx
    | cons d I => exact notX x (.inl (Option.some.inj hx ▸ hI d (by simp)))
  obtain ⟨I, F, hdig, hD⟩ := D
  have hI : ∀ c ∈ I, c.isDigit = true := fun c hc => hdig c (List.mem_append_left _ hc)
  cases I with
  | cons c I =>
    refine ⟨c, I ++ ((F.map ('.' :: ·)).getD [] ++ t), ?_, .inl (hI c (List.mem_cons_self _ _)),
      fun _ => digit_head c I _ hI ?_⟩
    · cases F <;> simp [DecimalLiteral.text]
    · cases F with
      | none => exact fun x hx => ⟨(ht x hx).2.2.2.2.1, (ht x hx).2.2.2.2.2⟩
      | some F => exact fun x hx => notX x (.inr (Option.some.inj hx).symm)
  | nil =>
    cases F with
    | none => simp at hD
    | some F => exact ⟨'.', F ++ t, rfl, .inr rfl, by simp⟩

/-- **A decimal literal followed by text that cannot continue it is read as
the literal alone**, positive, and the text is left unread. -/
theorem subject_decimalLiteral (D : DecimalLiteral) {t : List Char} (ht : CannotExtend t) :
    subject (D.text ++ t) = some (false, D.magnitude, t) := by
  obtain ⟨c, cs, hcs, hc, h0⟩ := D.text_append ht
  have hsp : isSpace c = false := hc.elim isSpace_of_isDigit (· ▸ rfl)
  have hsign : scanSign (c :: cs) = (false, c :: cs) :=
    scanSign_of_ne (by rintro rfl; revert hc; decide) (by rintro rfl; revert hc; decide)
  have hdec := scanDecimal_literal D ht
  rw [hcs] at hdec
  simp only [subject, hcs, List.dropWhile_cons_of_neg (by simpa using hsp), hsign,
    scanHex_of_ne h0, hdec]
  rfl

/-- **After a minus sign**, the same literal is read, negative. -/
theorem subject_neg_decimalLiteral (D : DecimalLiteral) {t : List Char} (ht : CannotExtend t) :
    subject ('-' :: (D.text ++ t)) = some (true, D.magnitude, t) := by
  obtain ⟨c, cs, hcs, -, h0⟩ := D.text_append ht
  have hdec := scanDecimal_literal D ht
  rw [hcs] at hdec
  simp only [subject, hcs, List.dropWhile_cons_of_neg (show ¬isSpace '-' = true by decide), scanSign,
    scanHex_of_ne h0, hdec]
  rfl

/-- The sign `strtod` reads only signs the double it makes. -/
theorem Magnitude.round_sign (neg : Bool) (m : Magnitude) :
    m.round neg = ⟨(m.round false).value.withSign neg, (m.round false).erange⟩ := by
  cases m with
  | decimal | hex => simp only [Magnitude.round, roundScaled]; split <;> exact Binary64.round_sign ..
  | infinity | nan => rfl

theorem DecimalLiteral.round_magnitude (D : DecimalLiteral) :
    D.magnitude.round false = Binary64.round false D.num D.den := by
  simp only [DecimalLiteral.magnitude, Magnitude.round, roundScaled, DecimalLiteral.num,
    DecimalLiteral.den]
  by_cases h : D.frac.length = 0
  · simp [h]
  · rw [if_neg (by omega)]
    congr 2
    omega

/-- **`std::stod` of a decimal literal followed by text that cannot continue
it** is the double nearest to the literal, or `std::out_of_range` when that
under- or overflows. -/
theorem stod_decimalLiteral (D : DecimalLiteral) {t : List Char} (ht : CannotExtend t) :
    stod ⟨D.text ++ t⟩ =
      if (Binary64.round false D.num D.den).erange then .error (.thrown ⟨.outOfRange, "stod"⟩)
      else .ok (Binary64.round false D.num D.den).value := by
  have hstr : (String.mk (D.text ++ t)).toList = D.text ++ t := rfl
  simp only [stod, hstr, subject_decimalLiteral D ht, D.round_magnitude]

/-- `std::stod` of a negative decimal literal: the double nearest to the
literal, negated. -/
theorem stod_neg_decimalLiteral (D : DecimalLiteral) {t : List Char} (ht : CannotExtend t) :
    stod ⟨'-' :: (D.text ++ t)⟩ =
      if (Binary64.round false D.num D.den).erange then .error (.thrown ⟨.outOfRange, "stod"⟩)
      else .ok ((Binary64.round false D.num D.den).value.withSign true) := by
  have hstr : (String.mk ('-' :: (D.text ++ t))).toList = '-' :: (D.text ++ t) := rfl
  simp only [stod, hstr, subject_neg_decimalLiteral D ht]
  rw [Magnitude.round_sign, D.round_magnitude]

end RadioControl
