import Mathlib.Data.List.TakeWhile
import DetectorDashboard.Json.Written

/-! The texts of spelled numbers. A spelling is found again in its text, since each of its parts ends
where a character comes that the part cannot have; and where its parts are as JSON asks for, the text
is a number among the words of a JSON text. -/

namespace DetectorDashboard

theorem takeWhile_append_of_head? {α : Type} {p : α → Bool} {inside rest : List α}
    (hinside : ∀ x ∈ inside, p x = true) (hrest : ∀ x ∈ rest.head?, p x = false) :
    (inside ++ rest).takeWhile p = inside ∧ (inside ++ rest).dropWhile p = rest := by
  rw [List.takeWhile_append_of_pos hinside, List.dropWhile_append_of_pos hinside]
  cases rest with
  | nil => exact ⟨List.append_nil _, rfl⟩
  | cons x rest =>
      have hx : ¬ p x = true := by simp [hrest x rfl]
      exact ⟨by rw [List.takeWhile_cons_of_neg hx, List.append_nil], List.dropWhile_cons_of_neg hx⟩

/-- What is dropped from the end of a list, where all of it is one element. -/
theorem exists_eq_append_replicate {α : Type} {p : α → Bool} {x : α} (hp : ∀ y, p y = true → y = x)
    (l : List α) : ∃ n, l = (l.reverse.dropWhile p).reverse ++ List.replicate n x := by
  have hall : ∀ y ∈ l.reverse.takeWhile p, y = x := by
    intro y hy
    exact hp y (List.mem_takeWhile_imp hy)
  have hsplit := congrArg List.reverse (List.takeWhile_append_dropWhile (p := p) (l := l.reverse))
  rw [List.eq_replicate_of_mem hall, List.reverse_append, List.reverse_replicate,
    List.reverse_reverse] at hsplit
  exact ⟨_, hsplit.symm⟩

namespace Spelling

/-! ### The text of a spelling -/

def fractionChars (s : Spelling) : List Char :=
  (s.fraction.map ('.' :: ·)).getD []

def exponentChars (s : Spelling) : List Char :=
  (s.exponent.map fun e => 'e' :: (e.1.toList ++ e.2)).getD []

/-- The text of a spelling, with a small letter before the exponent. -/
def chars (s : Spelling) : List Char :=
  s.sign.toList ++ (s.whole ++ (s.fractionChars ++ s.exponentChars))

/-- Only digits. -/
def IsDigits (cs : List Char) : Prop :=
  ∀ c ∈ cs, c.isDigit = true

instance (cs : List Char) : Decidable (IsDigits cs) :=
  List.decidableBAll _ cs

def writeFraction (fraction : Option (List Char)) : List Char :=
  (fraction.map ('.' :: ·)).getD []

def writeExponent (letter : Char) (exponent : Option (Option Char × List Char)) : List Char :=
  (exponent.map fun e => letter :: (e.1.toList ++ e.2)).getD []

def unsignedWith (letter : Char) (s : Spelling) : List Char :=
  s.whole ++ (writeFraction s.fraction ++ writeExponent letter s.exponent)

/-- The text of a spelling, with the letter that is written before the exponent. -/
def charsWith (letter : Char) (s : Spelling) : List Char :=
  s.sign.toList ++ s.unsignedWith letter

/-- Signs and digits are where they belong. -/
structure IsSpelled (s : Spelling) : Prop where
  sign : ∀ c ∈ s.sign, c = '+' ∨ c = '-'
  whole : IsDigits s.whole
  fraction : ∀ digits ∈ s.fraction, IsDigits digits
  exponent : ∀ e ∈ s.exponent, (∀ c ∈ e.1, c = '+' ∨ c = '-') ∧ IsDigits e.2 ∧ e.2 ≠ []

/-- There is a digit before the point. -/
structure IsProper (s : Spelling) : Prop extends IsSpelled s where
  nonempty : s.whole ≠ []

/-- There is a digit before the point or after it. -/
structure IsLax (s : Spelling) : Prop extends IsSpelled s where
  someDigit : s.whole ++ s.fraction.getD [] ≠ []

variable {s : Spelling}

theorem IsProper.isLax (h : s.IsProper) : s.IsLax where
  toIsSpelled := h.toIsSpelled
  someDigit := List.append_ne_nil_of_left_ne_nil h.nonempty _

/-- The letter before an exponent. -/
def IsExponentLetter (letter : Char) : Prop :=
  letter = 'e' ∨ letter = 'E'

/-! ### Reading a text back -/

theorem readSign_append {sign : Option Char} (hsign : ∀ c ∈ sign, c = '+' ∨ c = '-')
    {rest : List Char} (hrest : ∀ c ∈ rest.head?, c ≠ '+' ∧ c ≠ '-') :
    readSign (sign.toList ++ rest) = (sign, rest) := by
  cases sign with
  | some c => rcases hsign c rfl with rfl | rfl <;> rfl
  | none =>
      rw [Option.toList_none, List.nil_append, readSign]
      · rintro _ rfl
        exact (hrest '+' rfl).1 rfl
      · rintro _ rfl
        exact (hrest '-' rfl).2 rfl

theorem ne_sign_of_isDigit {c : Char} (h : c.isDigit = true) : c ≠ '+' ∧ c ≠ '-' := by
  constructor <;>
  · rintro rfl
    cases h

theorem readExponent?_of_letter {exponent : Option (Option Char × List Char)}
    (h : ∀ e ∈ exponent, (∀ c ∈ e.1, c = '+' ∨ c = '-') ∧ IsDigits e.2 ∧ e.2 ≠ [])
    {letter : Char} (hletter : IsExponentLetter letter) :
    readExponent? (writeExponent letter exponent) = some exponent := by
  cases exponent with
  | none => rfl
  | some e =>
      obtain ⟨hsign, hdigits, hne⟩ := h e rfl
      have hfirst : ∀ c ∈ e.2.head?, c ≠ '+' ∧ c ≠ '-' := fun c hc =>
        ne_sign_of_isDigit (hdigits c (List.mem_of_mem_head? hc))
      have hall : e.2.all Char.isDigit = true := List.all_eq_true.mpr hdigits
      have hcondition : letter = 'e' ∨ letter = 'E' := hletter
      simp [writeExponent, readExponent?, readSign_append hsign hfirst, hne, hall, hcondition]

theorem readFraction_append {fraction : Option (List Char)}
    (h : ∀ digits ∈ fraction, IsDigits digits) {rest : List Char}
    (hrest : ∀ c ∈ rest.head?, c.isDigit = false ∧ c ≠ '.') :
    readFraction (writeFraction fraction ++ rest) = (fraction, rest) := by
  cases fraction with
  | none =>
      rw [writeFraction, Option.map_none, Option.getD_none, List.nil_append, readFraction]
      rintro _ rfl
      exact (hrest '.' rfl).2 rfl
  | some digits =>
      have hother : ∀ c ∈ rest.head?, c.isDigit = false := fun c hc => (hrest c hc).1
      obtain ⟨htake, hdrop⟩ := takeWhile_append_of_head? (h digits rfl) hother
      rw [writeFraction, Option.map_some, Option.getD_some, List.cons_append, readFraction, htake,
        hdrop]

/-- What comes first after the sign is a digit or a point. -/
theorem IsLax.exists_unsigned_eq_cons (h : s.IsLax) (letter : Char) :
    ∃ c rest, s.unsignedWith letter = c :: rest ∧ (c.isDigit = true ∨ c = '.') := by
  obtain ⟨sign, whole, fraction, exponent⟩ := s
  cases whole with
  | cons d ds => exact ⟨d, _, rfl, .inl (h.whole d List.mem_cons_self)⟩
  | nil =>
      cases fraction with
      | none => exact absurd rfl h.someDigit
      | some digits => exact ⟨'.', _, rfl, .inr rfl⟩

theorem readSign_charsWith (h : s.IsLax) (letter : Char) :
    readSign (s.charsWith letter) = (s.sign, s.unsignedWith letter) := by
  obtain ⟨c, rest, hfirst, hc⟩ := h.exists_unsigned_eq_cons letter
  refine readSign_append h.sign fun d hd => ?_
  rw [hfirst] at hd
  obtain rfl := Option.some.inj hd
  rcases hc with hdigit | rfl
  · exact ne_sign_of_isDigit hdigit
  · decide

/-- A spelling is found again in its text. -/
theorem read?_charsWith (h : s.IsLax) {letter : Char} (hletter : IsExponentLetter letter) :
    read? (s.charsWith letter) = some s := by
  have hsign := readSign_charsWith h letter
  obtain ⟨sign, whole, fraction, exponent⟩ := s
  have hexponent := readExponent?_of_letter h.exponent hletter
  have hend : ∀ c ∈ (writeExponent letter exponent).head?, c.isDigit = false ∧ c ≠ '.' := by
    intro c hc
    cases exponent with
    | none => cases hc
    | some e =>
        obtain rfl := Option.some.inj hc
        rcases hletter with rfl | rfl <;> decide
  have hfraction := readFraction_append h.fraction hend
  have hother : ∀ c ∈ (writeFraction fraction ++ writeExponent letter exponent).head?,
      c.isDigit = false := by
    intro c hc
    cases fraction with
    | none => exact (hend c hc).1
    | some digits =>
        obtain rfl := Option.some.inj hc
        rfl
  obtain ⟨htake, hdrop⟩ := takeWhile_append_of_head? h.whole hother
  simp only [read?, hsign, unsignedWith, htake, hdrop, hfraction, hexponent, Option.map_some]

theorem read?_chars (h : s.IsProper) : read? s.chars = some s :=
  read?_charsWith h.isLax (.inl rfl)

/-! ### What has been read -/

theorem readSign_spec (cs : List Char) : cs = (readSign cs).1.toList ++ (readSign cs).2 ∧
    ∀ c ∈ (readSign cs).1, c = '+' ∨ c = '-' := by
  unfold readSign
  split <;> simp

theorem readFraction_spec (cs : List Char) :
    cs = writeFraction (readFraction cs).1 ++ (readFraction cs).2 ∧
      ∀ digits ∈ (readFraction cs).1, IsDigits digits := by
  unfold readFraction
  split
  · rename_i rest
    refine ⟨congrArg ('.' :: ·) List.takeWhile_append_dropWhile.symm, fun digits hdigits => ?_⟩
    obtain rfl := Option.some.inj hdigits
    exact fun c => List.mem_takeWhile_imp
  · exact ⟨rfl, nofun⟩

theorem readExponent?_spec {cs : List Char} {exponent : Option (Option Char × List Char)}
    (h : readExponent? cs = some exponent) :
    (∃ letter, IsExponentLetter letter ∧ cs = writeExponent letter exponent) ∧
      ∀ e ∈ exponent, (∀ c ∈ e.1, c = '+' ∨ c = '-') ∧ IsDigits e.2 ∧ e.2 ≠ [] := by
  cases cs with
  | nil =>
      obtain rfl := Option.some.inj h
      exact ⟨⟨'e', .inl rfl, rfl⟩, nofun⟩
  | cons letter rest =>
      obtain ⟨hsplit, hsign⟩ := readSign_spec rest
      simp only [readExponent?] at h
      split at h
      · rename_i hread
        obtain ⟨hletter, hne, hall⟩ := hread
        obtain rfl := Option.some.inj h
        refine ⟨⟨letter, hletter, congrArg (letter :: ·) hsplit⟩, fun e he => ?_⟩
        obtain rfl := Option.some.inj he
        exact ⟨hsign, List.all_eq_true.mp hall, hne⟩
      · cases h

/-- A text from which a spelling is read is a text of that spelling. -/
theorem exists_of_read?_eq_some {cs : List Char} (h : read? cs = some s) :
    s.IsSpelled ∧ ∃ letter, IsExponentLetter letter ∧ cs = s.charsWith letter := by
  obtain ⟨hsplit, hsign⟩ := readSign_spec cs
  obtain ⟨hpoint, hfraction⟩ := readFraction_spec ((readSign cs).2.dropWhile Char.isDigit)
  simp only [read?] at h
  obtain ⟨exponent, hread, rfl⟩ := Option.map_eq_some_iff.mp h
  obtain ⟨⟨letter, hletter, hend⟩, hexponent⟩ := readExponent?_spec hread
  refine ⟨⟨hsign, fun c => List.mem_takeWhile_imp, hfraction, hexponent⟩, letter, hletter, ?_⟩
  rw [charsWith, unsignedWith, ← hend, ← hpoint, List.takeWhile_append_dropWhile]
  exact hsplit

/-! ### The characters of a text -/

theorem mem_chars (h : s.IsProper) {c : Char} (hc : c ∈ s.chars) :
    c.isDigit = true ∨ c ∈ ['+', '-', '.', 'e'] := by
  have hsigns {sign : Option Char} (hsign : ∀ c ∈ sign, c = '+' ∨ c = '-')
      (hmem : c ∈ sign.toList) : c ∈ ['+', '-', '.', 'e'] := by
    rcases hsign c (Option.mem_toList.mp hmem) with rfl | rfl <;> decide
  simp only [chars, List.mem_append] at hc
  rcases hc with hc | hc | hc | hc
  · exact .inr (hsigns h.sign hc)
  · exact .inl (h.whole c hc)
  · unfold fractionChars at hc
    cases hfraction : s.fraction with
    | none => simp [hfraction] at hc
    | some digits =>
        rw [hfraction, Option.map_some, Option.getD_some, List.mem_cons] at hc
        rcases hc with rfl | hc
        · exact .inr (by decide)
        · exact .inl (h.fraction digits hfraction c hc)
  · unfold exponentChars at hc
    cases hexponent : s.exponent with
    | none => simp [hexponent] at hc
    | some e =>
        obtain ⟨hsign, hdigits, -⟩ := h.exponent e hexponent
        rw [hexponent, Option.map_some, Option.getD_some, List.mem_cons, List.mem_append] at hc
        rcases hc with rfl | hc | hc
        · exact .inr (by decide)
        · exact .inr (hsigns hsign hc)
        · exact .inl (hdigits c hc)

end Spelling

/-! ### Numbers in a JSON text -/

namespace Json.Written

theorem ofWord?_chars {s : Spelling} (h : s.IsProper) (hnumber : isNumber s = true) :
    ofWord? s.chars = some (.number s) := by
  have hword (word : List Char) (c : Char) (hc : c ∈ word)
      (hletter : ¬ (c.isDigit = true ∨ c ∈ ['+', '-', '.', 'e'])) : s.chars ≠ word :=
    fun heq => hletter (Spelling.mem_chars h (heq ▸ hc))
  rw [ofWord?, if_neg (hword _ 'n' (by decide) (by decide)),
    if_neg (hword _ 't' (by decide) (by decide)), if_neg (hword _ 'f' (by decide) (by decide)),
    Spelling.read?_chars h, Option.filter_some_pos hnumber, Option.map_some]

end Json.Written

end DetectorDashboard
