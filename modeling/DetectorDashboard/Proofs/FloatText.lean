import DetectorDashboard.Proofs.JsonText
import DetectorDashboard.Proofs.Rounding

/-! The text of a floating-point number in JSON. Whether it is written with an exponent or without,
the digits that are written and where the point stands give the shortest decimal number of the
magnitude; so whoever rounds the text to the nearest floating-point number has this one again. -/

namespace DetectorDashboard

open Spelling (IsDigits)

/-! ### The value of digits -/

namespace Text

theorem ofDigitChars_zeros (n k : Nat) :
    Nat.ofDigitChars 10 (Layout.zeros k) n = n * 10 ^ k := by
  induction k generalizing n with
  | zero => simp [Layout.zeros]
  | succ k ih =>
      rw [Layout.zeros, List.replicate_succ, Nat.ofDigitChars_cons, ← Layout.zeros, ih]
      simp only [Nat.sub_self, Nat.add_zero]
      ring

end Text

namespace Layout

theorem isDigits_zeros (k : Nat) : IsDigits (zeros k) := by
  intro c hc
  obtain ⟨-, rfl⟩ := List.mem_replicate.mp hc
  rfl

/-! ### Significant digits -/

/-- Digits that do not begin with a zero, unless they are a single zero before the point. -/
structure AreSignificant (digits : List Char) (point : Int) : Prop where
  isDigits : IsDigits digits
  nonempty : digits ≠ []
  leading : digits = ['0'] ∧ point = 1 ∨ digits.head? ≠ some '0'

/-- The number `0.d₁d₂… * 10 ^ point`. -/
def numberAt (digits : List Char) (point : Int) : Decimal :=
  ⟨Nat.ofDigitChars 10 digits 0, point - digits.length⟩

/-- The digits and the point give the number, and nothing that is written is superfluous. -/
theorem significant_spec (d : Decimal) :
    AreSignificant (significant d).1 (significant d).2 ∧
      (numberAt (significant d).1 (significant d).2).value = d.value := by
  obtain ⟨k, hdigits⟩ := exists_eq_append_replicate (p := (· == '0')) (fun _ => beq_iff_eq.mp)
    (Text.digits d.coefficient)
  rw [← zeros] at hdigits
  have hcoefficient : Nat.ofDigitChars 10 (Text.digits d.coefficient) 0 = d.coefficient :=
    Nat.ofDigitChars_ten_toDigits
  have hhead : ((Text.digits d.coefficient).reverse.dropWhile (· == '0')).reverse ≠ [] →
      (Text.digits d.coefficient).head? ≠ some '0' := by
    refine fun hsome => Json.head?_digits fun hzero => hsome ?_
    rw [hzero]
    rfl
  have hall : IsDigits (Text.digits d.coefficient) := fun c => Json.isDigit_of_mem_digits
  obtain ⟨c, e⟩ := d
  unfold significant
  dsimp only at *
  generalize ((Text.digits c).reverse.dropWhile (· == '0')).reverse = trimmed at *
  generalize Text.digits c = digits at *
  subst hdigits
  rw [Nat.ofDigitChars_append, Text.ofDigitChars_zeros] at hcoefficient
  split
  · rename_i hnone
    rw [hnone] at hcoefficient
    have hzero : c = 0 := hcoefficient.symm.trans (Nat.zero_mul _)
    refine ⟨⟨(by decide : IsDigits ['0']), nofun, .inl ⟨rfl, rfl⟩⟩, ?_⟩
    have hvalue : (numberAt ['0'] 1).coefficient = 0 := rfl
    rw [Decimal.value, Decimal.value, hvalue, hzero, Nat.cast_zero, zero_mul, zero_mul]
  · rename_i hsome
    refine ⟨⟨fun c hc => hall c (List.mem_append_left _ hc), hsome, .inr ?_⟩, ?_⟩
    · have hfirst := hhead hsome
      rwa [List.head?_append_of_ne_nil _ hsome] at hfirst
    · have hexponent : ((trimmed ++ zeros k).length : Int) + e - trimmed.length = e + k := by
        rw [List.length_append, zeros, List.length_replicate, Nat.cast_add]
        omega
      rw [numberAt, hexponent, ← Decimal.value_mul_pow, hcoefficient]

/-! ### The two notations -/

def positionalSpelling (digits : List Char) (point : Int) : Spelling :=
  if point ≤ 0 then ⟨none, ['0'], some (zeros (-point).toNat ++ digits), none⟩
  else if digits.length ≤ point then
    ⟨none, digits ++ zeros (point - digits.length).toNat, some ['0'], none⟩
  else ⟨none, digits.take point.toNat, some (digits.drop point.toNat), none⟩

def exponentSpelling (digits : List Char) (point : Int) : Spelling :=
  let fraction := digits.drop 1
  let exponent := point - 1
  ⟨none, digits.take 1, if fraction = [] then none else some fraction,
    some (some (if exponent < 0 then '-' else '+'), Text.digits exponent.natAbs)⟩

/-- A text spells a number that JSON takes, but takes neither for a whole nor for a negative one. -/
structure Spells (s : Spelling) (cs : List Char) (d : Decimal) : Prop where
  unsigned : s.sign = none
  proper : s.IsProper
  number : Json.Written.isNumber s = true
  notWhole : s.isWhole = false
  chars_eq : s.chars = cs
  value_eq : s.decimal.value = d.value

theorem isNumber_of_unsigned {s : Spelling} (hsign : s.sign = none) (hne : s.whole ≠ [])
    (hzero : s.whole = ['0'] ∨ s.whole.head? ≠ some '0') (hfraction : s.fraction ≠ some []) :
    Json.Written.isNumber s = true := by
  simp [Json.Written.isNumber, hsign, hne, hzero, hfraction]

/-- Digits before and after a point. -/
theorem spells_point {whole fraction : List Char} (hwhole : IsDigits whole) (hne : whole ≠ [])
    (hfraction : IsDigits fraction) (hsome : fraction ≠ [])
    (hzero : whole = ['0'] ∨ whole.head? ≠ some '0') {d : Decimal}
    (hvalue : (⟨Nat.ofDigitChars 10 (whole ++ fraction) 0, -fraction.length⟩ : Decimal).value =
      d.value) :
    Spells ⟨none, whole, some fraction, none⟩ (whole ++ '.' :: fraction) d where
  unsigned := rfl
  proper :=
    { sign := nofun
      whole := hwhole
      nonempty := hne
      fraction := fun digits hdigits => Option.some.inj hdigits ▸ hfraction
      exponent := nofun }
  number := isNumber_of_unsigned rfl hne hzero fun heq => hsome (Option.some.inj heq)
  notWhole := rfl
  chars_eq := by simp [Spelling.chars, Spelling.fractionChars, Spelling.exponentChars]
  value_eq := by
    rw [← hvalue, Spelling.decimal, Spelling.exponentValue, Option.getD_some, zero_sub]

theorem exponentValue_of_exponent {s : Spelling} {e : Int}
    (h : s.exponent = some (some (if e < 0 then '-' else '+'), Text.digits e.natAbs)) :
    s.exponentValue = e := by
  have hvalue : Nat.ofDigitChars 10 (Text.digits e.natAbs) 0 = e.natAbs :=
    Nat.ofDigitChars_ten_toDigits
  by_cases hnegative : e < 0
  · simp only [Spelling.exponentValue, h, hvalue, if_pos hnegative, if_true]
    omega
  · simp only [Spelling.exponentValue, h, hvalue, if_neg hnegative]
    rw [if_neg (by decide)]
    omega

section

variable {digits : List Char} (point : Int)

theorem fraction_exponentSpelling (digits : List Char) :
    (exponentSpelling digits point).fraction = none ∧ digits.drop 1 = [] ∨
      (exponentSpelling digits point).fraction = some (digits.drop 1) ∧ digits.drop 1 ≠ [] := by
  by_cases hnone : digits.drop 1 = []
  · exact .inl ⟨if_pos hnone, hnone⟩
  · exact .inr ⟨if_neg hnone, hnone⟩

theorem isProper_exponentSpelling (hdigits : IsDigits digits) (hne : digits ≠ []) :
    (exponentSpelling digits point).IsProper where
  sign := nofun
  whole c hc := hdigits c (List.mem_of_mem_take hc)
  nonempty := by simp [exponentSpelling, hne]
  fraction := by
    intro fraction hfraction
    rcases fraction_exponentSpelling point digits with ⟨hnone, -⟩ | ⟨hsome, -⟩
    · rw [hnone] at hfraction
      cases hfraction
    · obtain rfl := Option.some.inj (hsome.symm.trans hfraction)
      exact fun c hc => hdigits c (List.mem_of_mem_drop hc)
  exponent := by
    intro e he
    obtain rfl := Option.some.inj he
    refine ⟨fun c hc => ?_, fun c => Json.isDigit_of_mem_digits, Nat.toDigits_ne_nil⟩
    obtain rfl := Option.some.inj hc
    split
    · exact .inr rfl
    · exact .inl rfl

theorem isNumber_exponentSpelling (hne : digits ≠ []) :
    Json.Written.isNumber (exponentSpelling digits point) = true := by
  obtain ⟨d, ds, rfl⟩ := List.exists_cons_of_ne_nil hne
  refine isNumber_of_unsigned rfl (List.cons_ne_nil _ _) ?_ ?_
  · by_cases hd : d = '0'
    · exact .inl (by rw [hd]; rfl)
    · exact .inr fun heq => hd (Option.some.inj heq)
  · rcases fraction_exponentSpelling point (d :: ds) with ⟨hnone, -⟩ | ⟨hsome, hrest⟩
    · rw [hnone]
      nofun
    · rw [hsome]
      exact fun heq => hrest (Option.some.inj heq)

theorem chars_exponentSpelling (digits : List Char) (point : Int) :
    (exponentSpelling digits point).chars = exponentText digits point := by
  have hfraction : (exponentSpelling digits point).fractionChars =
      if digits.drop 1 = [] then [] else '.' :: digits.drop 1 := by
    rw [Spelling.fractionChars]
    rcases fraction_exponentSpelling point digits with ⟨hnone, hrest⟩ | ⟨hsome, hrest⟩
    · rw [hnone, if_pos hrest]
      rfl
    · rw [hsome, if_neg hrest]
      rfl
  have hsign : (exponentSpelling digits point).sign.toList = [] := rfl
  rw [Spelling.chars, hsign, List.nil_append, hfraction, exponentText, List.append_assoc]
  rfl

theorem decimal_exponentSpelling (hne : digits ≠ []) :
    (exponentSpelling digits point).decimal = numberAt digits point := by
  have hexponent : (exponentSpelling digits point).exponentValue = point - 1 :=
    exponentValue_of_exponent rfl
  have hfraction : (exponentSpelling digits point).fraction.getD [] = digits.drop 1 := by
    rcases fraction_exponentSpelling point digits with ⟨hnone, hrest⟩ | ⟨hsome, -⟩
    · rw [hnone, hrest, Option.getD_none]
    · rw [hsome, Option.getD_some]
  have hwhole : (exponentSpelling digits point).whole = digits.take 1 := rfl
  have hlength : 0 < digits.length := List.length_pos_of_ne_nil hne
  have hplaces : point - 1 - ((digits.drop 1).length : Int) = point - digits.length := by
    rw [List.length_drop]
    omega
  rw [Spelling.decimal, hexponent, hfraction, hwhole, hplaces, List.take_append_drop, numberAt]

end

section

variable {digits : List Char} {point : Int} (h : AreSignificant digits point)

include h

/-- The point before the digits, with zeros between them. -/
theorem spells_before (hpoint : point ≤ 0) :
    Spells ⟨none, ['0'], some (zeros (-point).toNat ++ digits), none⟩
      ('0' :: '.' :: (zeros (-point).toNat ++ digits)) (numberAt digits point) := by
  have hfraction : IsDigits (zeros (-point).toNat ++ digits) :=
    List.forall_mem_append.mpr ⟨isDigits_zeros _, h.isDigits⟩
  have hsome : zeros (-point).toNat ++ digits ≠ [] :=
    List.append_ne_nil_of_right_ne_nil _ h.nonempty
  have hexponent : -((zeros (-point).toNat ++ digits).length : Int) = point - digits.length := by
    rw [List.length_append, zeros, List.length_replicate]
    omega
  have hzero : Nat.ofDigitChars 10 ['0'] 0 = 0 := rfl
  refine spells_point (by decide : IsDigits ['0']) (List.cons_ne_nil _ _) hfraction hsome
    (.inl rfl) ?_
  rw [numberAt, hexponent, Nat.ofDigitChars_append, Nat.ofDigitChars_append, hzero,
    Text.ofDigitChars_zeros, Nat.zero_mul]

/-- The point after the digits, with zeros between them and one behind it. -/
theorem spells_after {k : Nat} (hk : point = digits.length + k) :
    Spells ⟨none, digits ++ zeros k, some ['0'], none⟩ (digits ++ zeros k ++ ['.', '0'])
      (numberAt digits point) := by
  have hwhole : IsDigits (digits ++ zeros k) :=
    List.forall_mem_append.mpr ⟨h.isDigits, isDigits_zeros _⟩
  have hleading : digits ++ zeros k = ['0'] ∨ (digits ++ zeros k).head? ≠ some '0' := by
    rcases h.leading with ⟨hzero, hone⟩ | hhead
    · rw [hone, hzero, List.length_singleton] at hk
      obtain rfl : k = 0 := by omega
      exact .inl (by rw [hzero]; rfl)
    · exact .inr (by rwa [List.head?_append_of_ne_nil _ h.nonempty])
  have hnext : digits ++ zeros k ++ ['0'] = digits ++ zeros (k + 1) := by
    rw [List.append_assoc, zeros, zeros, List.replicate_succ']
  have hexponent : (-1 + (k + 1 : Nat) : Int) = point - digits.length := by omega
  refine spells_point hwhole (List.append_ne_nil_of_left_ne_nil h.nonempty _)
    (by decide : IsDigits ['0']) (List.cons_ne_nil _ _) hleading ?_
  rw [hnext, Nat.ofDigitChars_append, Text.ofDigitChars_zeros, Decimal.value_mul_pow, numberAt,
    ← hexponent]
  rfl

/-- The point among the digits. -/
theorem spells_among {k : Nat} (hk : point = k + 1) (hlength : ¬ digits.length ≤ point) :
    Spells ⟨none, digits.take (k + 1), some (digits.drop (k + 1)), none⟩
      (digits.take (k + 1) ++ '.' :: digits.drop (k + 1)) (numberAt digits point) := by
  have hwhole : IsDigits (digits.take (k + 1)) :=
    fun c hc => h.isDigits c (List.mem_of_mem_take hc)
  have hfraction : IsDigits (digits.drop (k + 1)) :=
    fun c hc => h.isDigits c (List.mem_of_mem_drop hc)
  have hsome : digits.drop (k + 1) ≠ [] := by
    rw [ne_eq, List.drop_eq_nil_iff]
    omega
  have hleading : (digits.take (k + 1)).head? ≠ some '0' := by
    rw [List.head?_take, if_neg (Nat.succ_ne_zero k)]
    rcases h.leading with ⟨hzero, hone⟩ | hhead
    · rw [hzero, hone] at hlength
      exact absurd (le_refl _) hlength
    · exact hhead
  have hne : digits.take (k + 1) ≠ [] := by
    rw [ne_eq, List.take_eq_nil_iff, not_or]
    exact ⟨Nat.succ_ne_zero k, h.nonempty⟩
  have hexponent : -((digits.drop (k + 1)).length : Int) = point - digits.length := by
    rw [List.length_drop]
    omega
  refine spells_point hwhole hne hfraction hsome (.inr hleading) ?_
  rw [numberAt, hexponent, List.take_append_drop]

theorem spells_positional :
    Spells (positionalSpelling digits point) (positionalText true digits point)
      (numberAt digits point) := by
  unfold positionalSpelling positionalText
  split
  · rename_i hpoint
    exact spells_before h hpoint
  · rename_i hpoint
    split
    · exact spells_after h (by omega)
    · rename_i hlength
      have hwhole : point.toNat = (point - 1).toNat + 1 := by omega
      rw [hwhole]
      exact spells_among h (by omega) hlength

/-- One digit before the point, and the exponent with its sign. -/
theorem spells_exponent :
    Spells (exponentSpelling digits point) (exponentText digits point)
      (numberAt digits point) where
  unsigned := rfl
  proper := isProper_exponentSpelling point h.isDigits h.nonempty
  number := isNumber_exponentSpelling point h.nonempty
  notWhole := Bool.and_false _
  chars_eq := chars_exponentSpelling digits point
  value_eq := congrArg Decimal.value (decimal_exponentSpelling point h.nonempty)

end

theorem exists_spells (m : Binary64.Magnitude) :
    ∃ s, Spells s (json.magnitudeText m) (Decimal.shortest json.tie m) := by
  rw [magnitudeText]
  generalize Decimal.shortest json.tie m = d
  obtain ⟨hsignificant, hvalue⟩ := significant_spec d
  generalize significant d = written at *
  rw [digitsText]
  split
  · have hspells := spells_positional hsignificant
    exact ⟨_, { hspells with value_eq := hspells.value_eq.trans hvalue }⟩
  · have hspells := spells_exponent hsignificant
    exact ⟨_, { hspells with value_eq := hspells.value_eq.trans hvalue }⟩

/-- Whatever is written for a floating-point number spells one that is rounded to it. -/
theorem exists_spelling (x : Binary64.Finite) :
    ∃ s : Spelling, s.IsProper ∧ Json.Written.isNumber s = true ∧ s.isWhole = false ∧
      s.chars = json.finiteText x ∧ s.binary64 = .finite x := by
  obtain ⟨negative, m⟩ := x
  obtain ⟨s, hs⟩ := exists_spells m
  have hproper := hs.proper
  have hmagnitude : s.decimal.magnitude? = some m :=
    (Decimal.magnitude?_congr hs.value_eq).trans (Decimal.magnitude?_shortest json.tie m)
  cases negative with
  | false =>
      refine ⟨s, hs.proper, hs.number, hs.notWhole, ?_, ?_⟩
      · rw [hs.chars_eq, finiteText, if_neg Bool.false_ne_true, List.nil_append]
      · rw [Spelling.binary64, hmagnitude, Spelling.negative, hs.unsigned]
        rfl
  | true =>
      refine ⟨{ s with sign := some '-' }, { hproper with sign := by simp }, ?_, hs.notWhole, ?_,
        ?_⟩
      · have hnumber := hs.number
        simp only [Json.Written.isNumber, hs.unsigned] at hnumber ⊢
        simpa using hnumber
      · have hsigned : ({ s with sign := some '-' } : Spelling).chars = '-' :: s.chars := by
          rw [Spelling.chars, Spelling.chars, hs.unsigned]
          rfl
        rw [hsigned, hs.chars_eq, finiteText, if_pos rfl, List.singleton_append]
      · have hdecimal : ({ s with sign := some '-' } : Spelling).decimal = s.decimal := rfl
        rw [Spelling.binary64, hdecimal, hmagnitude]
        rfl

end Layout

namespace Json

/-! ### Texts of single values -/

theorem isSeparator_of_mem_chars {s : Spelling} (h : s.IsProper) :
    ∀ c ∈ s.chars, Token.isSeparator c = false := by
  intro c hc
  rcases Spelling.mem_chars h hc with hdigit | hmark
  · exact isSeparator_of_isDigit hdigit
  · simp only [List.mem_cons, List.not_mem_nil, or_false] at hmark
    rcases hmark with rfl | rfl | rfl | rfl <;> rfl

theorem read?_chars_spelling {s : Spelling} (h : s.IsProper) (hnumber : Written.isNumber s = true) :
    Written.read? s.chars = some (.number s) := by
  have hne : s.chars ≠ [] := by
    simp [Spelling.chars, h.nonempty]
  rw [Written.read?, scan?_word hne (isSeparator_of_mem_chars h), Option.bind_some]
  simp [Written.ofTokens?, Reader.step, Reader.onValue, Written.ofWord?_chars h hnumber,
    Reader.finish?]

theorem read?_chars_string (s : String) :
    Written.read? (Json.string s).chars = some (.text (s.toList.map piece)) := by
  have hscan : Token.scan? (Json.string s).chars = some [textToken s] := by
    rw [Token.scan?, chars, tokens, legible_text s]
    rfl
  rw [Written.read?, hscan]
  rfl

/-- The number that a spelling stands for: an integer where it is spelled as one that is in range,
and otherwise the floating-point number nearest to it. -/
def Number.nearest? (s : Spelling) : Option Number :=
  match ofSpelling? s with
  | some (.integer n) => some (.integer n)
  | _ =>
    match s.binary64 with
    | .finite x => some (.float x)
    | _ => none

/-- The value of what is neither an array nor an object. Its number is rounded once. -/
def Written.scalar? : Written → Option Json
  | .null => some .null
  | .bool b => some (.bool b)
  | .number s => (Number.nearest? s).map .number
  | .text pieces => (Piece.text? pieces).map .string
  | .array _ | .object _ => none

def scalar? (text : String) : Option Json :=
  (Written.read? text.toList).bind Written.scalar?

/-- A spelling that is not whole is not taken for an integer. -/
theorem ofSpelling?_of_not_isWhole {s : Spelling} (h : s.isWhole = false) (n : Integer) :
    Number.ofSpelling? s ≠ some (.integer n) := by
  rw [Number.ofSpelling?]
  simp [h]

theorem toList_text (v : Json) : v.text.toList = v.chars :=
  String.toList_ofList

theorem scalar?_string (s : String) : scalar? (Json.string s).text = some (.string s) := by
  rw [scalar?, toList_text, read?_chars_string, Option.bind_some, Written.scalar?, text?_pieces,
    Option.map_some]

/-- The text of a number is read as this number. -/
theorem scalar?_number (n : Number) : scalar? (Json.number n).text = some (.number n) := by
  have hchars : (Json.number n).chars = n.chars := List.append_nil _
  cases n with
  | integer n =>
      have hread := read?_chars_spelling (isProper_wholeSpelling n.value)
        (isNumber_wholeSpelling n.value)
      have hnearest : Number.nearest? (wholeSpelling n.value) = some (.integer n) := by
        simp only [Number.nearest?, ofSpelling?_wholeSpelling]
      rw [chars_wholeSpelling] at hread
      rw [scalar?, toList_text, hchars, Number.chars, hread, Option.bind_some, Written.scalar?,
        hnearest, Option.map_some]
  | float x =>
      obtain ⟨s, hproper, hnumber, hwhole, htext, hvalue⟩ := Layout.exists_spelling x
      have hnearest : Number.nearest? s = some (.float x) := by
        unfold Number.nearest?
        split
        · rename_i n hinteger
          exact absurd hinteger (ofSpelling?_of_not_isWhole hwhole n)
        · rw [hvalue]
      rw [scalar?, toList_text, hchars, Number.chars, ← htext, read?_chars_spelling hproper hnumber,
        Option.bind_some, Written.scalar?, hnearest, Option.map_some]

theorem read?_string (s : String) : read? (Json.string s).text = some (.string s) := by
  rw [read?, toList_text, read?_chars_string, Option.bind_some, ofWritten?, text?_pieces,
    Option.map_some]

theorem read?_integer (n : Integer) :
    read? (Json.number (.integer n)).text = some (.number (.integer n)) := by
  have hchars : (Json.number (.integer n)).chars = Text.signedDigits n.value := List.append_nil _
  have hread := read?_chars_spelling (isProper_wholeSpelling n.value)
    (isNumber_wholeSpelling n.value)
  rw [chars_wholeSpelling] at hread
  rw [read?, toList_text, hchars, hread, Option.bind_some, ofWritten?, ofSpelling?_wholeSpelling,
    Option.map_some]

/-- Neither an array nor an object. -/
def IsScalar : Json → Prop
  | .array _ | .object _ => False
  | _ => True

/-- A single value is read from its text, a floating-point number by whoever rounds once. -/
theorem read_text {v : Json} (h : v.IsScalar) :
    scalar? v.text = some v ∧ ((∀ x, v ≠ .number (.float x)) → read? v.text = some v) := by
  cases v with
  | null => exact ⟨rfl, fun _ => rfl⟩
  | bool b => cases b <;> exact ⟨rfl, fun _ => rfl⟩
  | string s => exact ⟨scalar?_string s, fun _ => read?_string s⟩
  | number n =>
      refine ⟨scalar?_number n, fun hexact => ?_⟩
      cases n with
      | integer n => exact read?_integer n
      | float x => exact absurd rfl (hexact x)
  | array items => exact h.elim
  | object members => exact h.elim

end Json

end DetectorDashboard
