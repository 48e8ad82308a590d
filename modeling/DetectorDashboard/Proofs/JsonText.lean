import Mathlib.Data.List.Nodup
import Mathlib.Data.List.TakeWhile
import Mathlib.Tactic.IntervalCases
import DetectorDashboard.Json.Printer
import DetectorDashboard.Proofs.SpelledNumber

/-! The compact text of a JSON value is read back. First the characters: tokens that are written one
after the other are found again, provided that something stands between two words. Then the tokens:
a value is readable if it can be read wherever a value may stand, and an object of readable values
is read as these values under their keys. -/

namespace DetectorDashboard.Json

/-! ### Characters -/

/-- The tokens are found again in what is written for them, whatever stands before it. -/
def Legible (ts : List Token) : Prop :=
  ∀ before, (ts.flatMap Token.chars).foldlM Lexer.step ⟨before, .between⟩ =
    some ⟨ts.reverse ++ before, .between⟩

theorem Legible.append {xs ys : List Token} (hxs : Legible xs) (hys : Legible ys) :
    Legible (xs ++ ys) := by
  intro before
  rw [List.flatMap_append, List.foldlM_append, hxs before, Option.bind_eq_bind, Option.bind_some,
    hys, List.reverse_append, List.append_assoc]

/-- Punctuation is written as one character, which is no space, no quote and no digit. -/
theorem of_punctuation? {c : Char} {t : Token} (h : Token.punctuation? c = some t) :
    t.chars = [c] ∧ Token.isSpace c = false ∧ c ≠ '"' ∧ c.isDigit = false := by
  unfold Token.punctuation? at h
  split at h
  case h_7 => cases h
  all_goals
    obtain rfl := Option.some.inj h
    decide

theorem start_of_punctuation? {c : Char} {t : Token} (h : Token.punctuation? c = some t)
    (before : List Token) : Lexer.start before c = ⟨t :: before, .between⟩ := by
  obtain ⟨-, hspace, hquote, -⟩ := of_punctuation? h
  simp [Lexer.start, hspace, hquote, h]

theorem legible_punctuation {c : Char} {t : Token} (h : Token.punctuation? c = some t) :
    Legible [t] := by
  intro before
  rw [List.flatMap_cons, List.flatMap_nil, List.append_nil, (of_punctuation? h).1]
  simp only [List.foldlM_cons, List.foldlM_nil, Lexer.step, start_of_punctuation? h]
  rfl

/-- A control character is read back from the four digits of its escape. -/
theorem foldlM_unit {n : Nat} (hn : n < 32) (before : List Token) (pieces : List Piece) :
    (Token.pieceChars (.unit n)).foldlM Lexer.step ⟨before, .text pieces⟩ =
      some ⟨before, .text (.unit n :: pieces)⟩ := by
  interval_cases n <;> rfl

/-- A letter is read as the character for which it was written after a backslash. -/
theorem of_escapeLetter? {c letter : Char} (h : Token.escapeLetter? c = some letter) :
    Token.escaped? letter = some c ∧ letter ≠ 'u' ∧ ' ' ≤ letter := by
  unfold Token.escapeLetter? at h
  split at h
  case h_8 => cases h
  all_goals
    obtain rfl := Option.some.inj h
    decide

theorem foldlM_piece (c : Char) (before : List Token) (pieces : List Piece) :
    (Token.pieceChars (piece c)).foldlM Lexer.step ⟨before, .text pieces⟩ =
      some ⟨before, .text (piece c :: pieces)⟩ := by
  unfold piece
  split
  · rename_i hcontrol
    exact foldlM_unit (Char.lt_def.mp hcontrol.1) before pieces
  · rename_i hplain
    unfold Token.pieceChars
    cases hletter : Token.escapeLetter? c with
    | some letter =>
        obtain ⟨hescaped, hunit, -⟩ := of_escapeLetter? hletter
        simp [hletter, Lexer.step, hescaped, hunit]
    | none =>
        have hquote : c ≠ '"' := fun h => by simp [h, Token.escapeLetter?] at hletter
        have hbackslash : c ≠ '\\' := fun h => by simp [h, Token.escapeLetter?] at hletter
        have hprintable : ¬ c < ' ' := fun h => hplain ⟨h, by simp [hletter]⟩
        simp [hletter, Lexer.step, hquote, hbackslash, hprintable]

theorem foldlM_pieces (cs : List Char) (before : List Token) (pieces : List Piece) :
    ((cs.map piece).flatMap Token.pieceChars).foldlM Lexer.step ⟨before, .text pieces⟩ =
      some ⟨before, .text ((cs.map piece).reverse ++ pieces)⟩ := by
  induction cs generalizing pieces with
  | nil => rfl
  | cons c rest ih =>
      rw [List.map_cons, List.flatMap_cons, List.foldlM_append, foldlM_piece, Option.bind_eq_bind,
        Option.bind_some, ih, List.reverse_cons, List.append_assoc, List.singleton_append]

theorem legible_text (s : String) : Legible [textToken s] := by
  intro before
  have hpieces := foldlM_pieces s.toList before []
  rw [List.append_nil] at hpieces
  have hopen : Lexer.step ⟨before, .between⟩ '"' = some ⟨before, .text []⟩ := rfl
  rw [List.flatMap_cons, List.flatMap_nil, List.append_nil, textToken, Token.chars,
    List.foldlM_cons, hopen, Option.bind_eq_bind, Option.bind_some, List.foldlM_append, hpieces]
  simp [Lexer.step]

theorem foldlM_word {letters : List Char} (h : ∀ c ∈ letters, Token.isSeparator c = false)
    (before : List Token) (read : List Char) :
    letters.foldlM Lexer.step ⟨before, .word read⟩ =
      some ⟨before, .word (letters.reverse ++ read)⟩ := by
  induction letters generalizing read with
  | nil => rfl
  | cons c rest ih =>
      obtain ⟨hc, hrest⟩ := List.forall_mem_cons.mp h
      have hstep : Lexer.step ⟨before, .word read⟩ c = some ⟨before, .word (c :: read)⟩ := by
        simp [Lexer.step, hc]
      rw [List.foldlM_cons, hstep, Option.bind_eq_bind, Option.bind_some, ih hrest,
        List.reverse_cons, List.append_assoc, List.singleton_append]

theorem foldlM_letters {letters : List Char} (hne : letters ≠ [])
    (h : ∀ c ∈ letters, Token.isSeparator c = false) (before : List Token) :
    letters.foldlM Lexer.step ⟨before, .between⟩ = some ⟨before, .word letters.reverse⟩ := by
  obtain ⟨first, rest, rfl⟩ := List.exists_cons_of_ne_nil hne
  obtain ⟨hfirst, hrest⟩ := List.forall_mem_cons.mp h
  have hstart : Lexer.step ⟨before, .between⟩ first = some ⟨before, .word [first]⟩ := by
    simp only [Token.isSeparator, Bool.or_eq_false_iff, Option.isSome_eq_false_iff,
      Option.isNone_iff_eq_none, decide_eq_false_iff_not] at hfirst
    simp [Lexer.step, Lexer.start, hfirst]
  rw [List.foldlM_cons, hstart, Option.bind_eq_bind, Option.bind_some, foldlM_word hrest,
    List.reverse_cons]

/-- A word ends where punctuation follows. -/
theorem legible_word {letters : List Char} (hne : letters ≠ [])
    (h : ∀ c ∈ letters, Token.isSeparator c = false) {c : Char} {t : Token}
    (hpunctuation : Token.punctuation? c = some t) : Legible [.word letters, t] := by
  intro before
  have hend : Lexer.step ⟨before, .word letters.reverse⟩ c =
      some ⟨t :: .word letters :: before, .between⟩ := by
    have hseparator : Token.isSeparator c = true := by simp [Token.isSeparator, hpunctuation]
    simp [Lexer.step, hseparator, start_of_punctuation? hpunctuation]
  rw [List.flatMap_cons, List.flatMap_cons, List.flatMap_nil, List.append_nil,
    (of_punctuation? hpunctuation).1, Token.chars, List.foldlM_append, foldlM_letters hne h,
    Option.bind_eq_bind, Option.bind_some, List.foldlM_cons, hend]
  rfl

/-- A word ends with the text. -/
theorem scan?_word {letters : List Char} (hne : letters ≠ [])
    (h : ∀ c ∈ letters, Token.isSeparator c = false) :
    Token.scan? letters = some [.word letters] := by
  simp [Token.scan?, foldlM_letters hne h, Lexer.finish?]

/-! ### Strings and numbers -/

/-- A text without control characters. -/
def IsPrintable (cs : List Char) : Prop :=
  ∀ c ∈ cs, ' ' ≤ c

instance (cs : List Char) : Decidable (IsPrintable cs) :=
  List.decidableBAll _ cs

theorem isPrintable_append {cs ds : List Char} :
    IsPrintable (cs ++ ds) ↔ IsPrintable cs ∧ IsPrintable ds :=
  List.forall_mem_append

/-- The text of a value has no control characters, and the value is read from it wherever a value
may stand, within so many levels. -/
structure Readable (depth : Nat) (v : Json) : Prop where
  legible : ∀ c t, Token.punctuation? c = some t → Legible (v.tokens ++ [t])
  printable : IsPrintable v.chars
  written : ∃ w, ofWritten? depth w = some v ∧
    ∀ frames, v.tokens.foldlM Reader.step (.value frames) = some (.after w frames)

theorem decode?_single {α : Type} (raw escaped : Char → α) {n : Nat}
    (hhigh : ¬ Piece.isHigh n = true) (hlow : ¬ Piece.isLow n = true) (rest : List Piece) :
    Piece.decode? raw escaped (.unit n :: rest) =
      (Piece.decode? raw escaped rest).map (escaped (Char.ofNat n) :: ·) := by
  rw [Piece.decode?.eq_def]
  simp only [hhigh, hlow]
  rfl

theorem decode?_pieces (cs : List Char) : Piece.decode? id id (cs.map piece) = some cs := by
  induction cs with
  | nil => rfl
  | cons c rest ih =>
      rw [List.map_cons, piece]
      split
      · rename_i hcontrol
        have hlt : c.toNat < 32 := Char.lt_def.mp hcontrol.1
        have hhigh : ¬ Piece.isHigh c.toNat = true := by
          simp only [Piece.isHigh, Bool.and_eq_true, decide_eq_true_eq]
          omega
        have hlow : ¬ Piece.isLow c.toNat = true := by
          simp only [Piece.isLow, Bool.and_eq_true, decide_eq_true_eq]
          omega
        rw [decode?_single id id hhigh hlow, ih, Option.map_some, id_eq, Char.ofNat_toNat]
      · rw [Piece.decode?, ih]
        rfl

theorem text?_pieces (s : String) : Piece.text? (s.toList.map piece) = some s := by
  rw [Piece.text?, decode?_pieces, Option.map_some, String.ofList_toList]

theorem isPrintable_pieceChars (c : Char) : IsPrintable (Token.pieceChars (piece c)) := by
  unfold piece
  split
  · rename_i hcontrol
    have hlt : c.toNat < 32 := Char.lt_def.mp hcontrol.1
    generalize c.toNat = n at hlt
    interval_cases n <;> decide
  · rename_i hplain
    unfold Token.pieceChars
    cases hletter : Token.escapeLetter? c with
    | some letter =>
        obtain ⟨-, -, hprintable⟩ := of_escapeLetter? hletter
        have hbackslash : ' ' ≤ '\\' := by decide
        simp only [hletter]
        exact List.forall_mem_cons.mpr ⟨hbackslash, List.forall_mem_singleton.mpr hprintable⟩
    | none =>
        have hprintable : ¬ c < ' ' := fun h => hplain ⟨h, by simp [hletter]⟩
        simpa [IsPrintable, hletter] using hprintable

theorem isPrintable_text (s : String) : IsPrintable (textToken s).chars := by
  have hpieces : IsPrintable ((s.toList.map piece).flatMap Token.pieceChars) := by
    intro d hd
    obtain ⟨p, hp, hd⟩ := List.mem_flatMap.mp hd
    obtain ⟨c, -, rfl⟩ := List.mem_map.mp hp
    exact isPrintable_pieceChars c d hd
  exact List.forall_mem_cons.mpr ⟨by decide, isPrintable_append.mpr ⟨hpieces, by decide⟩⟩

theorem readable_string (depth : Nat) (s : String) : Readable depth (.string s) where
  legible _ _ h := (legible_text s).append (legible_punctuation h)
  printable := by
    rw [chars, tokens, List.flatMap_singleton]
    exact isPrintable_text s
  written := by
    refine ⟨.text (s.toList.map piece), ?_, fun frames => rfl⟩
    rw [ofWritten?, text?_pieces, Option.map_some]

/-- A whole number is spelled without zeros before it. -/
theorem head?_digits {n : Nat} (hn : n ≠ 0) : (Text.digits n).head? ≠ some '0' := by
  induction n using Nat.strong_induction_on with
  | _ n ih =>
      by_cases hlt : n < 10
      · interval_cases n <;> first | exact absurd rfl hn | decide
      · have hquotient : n / 10 ≠ 0 := by omega
        have hdigits : Text.digits n = Text.digits (n / 10) ++ [Nat.digitChar (n % 10)] :=
          Nat.toDigits_of_base_le (by decide) (by omega)
        have hne : Text.digits (n / 10) ≠ [] := Nat.toDigits_ne_nil
        rw [hdigits, List.head?_append_of_ne_nil _ hne]
        exact ih (n / 10) (by omega) hquotient

theorem isDigit_of_mem_digits {n : Nat} {c : Char} (h : c ∈ Text.digits n) : c.isDigit = true :=
  Nat.isDigit_of_mem_toDigits (by decide) (by decide) h

/-- The spelling of a whole number. -/
def wholeSpelling (n : Int) : Spelling :=
  ⟨if n < 0 then some '-' else none, Text.digits n.natAbs, none, none⟩

theorem isProper_wholeSpelling (n : Int) : (wholeSpelling n).IsProper where
  sign c hc := by
    unfold wholeSpelling at hc
    dsimp only at hc
    split at hc
    · exact .inr (Option.some.inj hc).symm
    · cases hc
  whole _ := isDigit_of_mem_digits
  nonempty := Nat.toDigits_ne_nil
  fraction := nofun
  exponent := nofun

theorem chars_wholeSpelling (n : Int) : (wholeSpelling n).chars = Text.signedDigits n := by
  cases n with
  | ofNat n => exact List.append_nil _
  | negSucc n =>
      rw [Spelling.chars, wholeSpelling, if_pos (Int.negSucc_lt_zero n)]
      exact congrArg ('-' :: ·) (List.append_nil _)

theorem isNumber_wholeSpelling (n : Int) : Written.isNumber (wholeSpelling n) = true := by
  have hsign : (wholeSpelling n).sign ≠ some '+' := by
    unfold wholeSpelling
    dsimp only
    split <;> decide
  have hne : (wholeSpelling n).whole ≠ [] := Nat.toDigits_ne_nil
  have hzero : (wholeSpelling n).whole = ['0'] ∨ (wholeSpelling n).whole.head? ≠ some '0' := by
    by_cases hn : n.natAbs = 0
    · left
      simp only [wholeSpelling, hn]
      rfl
    · exact .inr (head?_digits hn)
  have hfraction : (wholeSpelling n).fraction ≠ some [] := nofun
  simp only [Written.isNumber, Bool.and_eq_true, Bool.or_eq_true, decide_eq_true_eq]
  exact ⟨⟨⟨hsign, hne⟩, hzero⟩, hfraction⟩

theorem mem_signedDigits {n : Int} {c : Char} (h : c ∈ Text.signedDigits n) :
    c = '-' ∨ c.isDigit = true := by
  cases n with
  | ofNat n => exact .inr (isDigit_of_mem_digits h)
  | negSucc n => exact (List.mem_cons.mp h).imp id isDigit_of_mem_digits

theorem ofWord?_signedDigits (n : Int) :
    Written.ofWord? (Text.signedDigits n) = some (.number (wholeSpelling n)) := by
  rw [← chars_wholeSpelling,
    Written.ofWord?_chars (isProper_wholeSpelling n) (isNumber_wholeSpelling n)]

theorem ofSpelling?_wholeSpelling (n : Integer) :
    Number.ofSpelling? (wholeSpelling n.value) = some (.integer n) := by
  have hmagnitude : Nat.ofDigitChars 10 (wholeSpelling n.value).whole 0 = n.value.natAbs :=
    Nat.ofDigitChars_ten_toDigits
  have hnegative : (wholeSpelling n.value).negative = decide (n.value < 0) := by
    unfold wholeSpelling Spelling.negative
    by_cases hn : n.value < 0 <;> simp [hn]
  have hsigned : (if decide (n.value < 0) = true then -(n.value.natAbs : Int) else n.value.natAbs) =
      n.value := by
    simp only [decide_eq_true_eq]
    split <;> omega
  have hwhole : (wholeSpelling n.value).isWhole = true := rfl
  have hzero : ¬ (decide (n.value < 0) = true ∧ n.value.natAbs = 0) := by
    simp only [decide_eq_true_eq]
    omega
  simp only [Number.ofSpelling?, hmagnitude, hnegative, hsigned, hwhole, hzero, not_false_eq_true,
    and_self, if_true, Integer.ofInt?, dif_pos n.inRange]

theorem isSeparator_of_isDigit {c : Char} (h : c.isDigit = true) :
    Token.isSeparator c = false := by
  have hspace : Token.isSpace c = false := by
    by_contra hspace
    simp only [Token.isSpace, Bool.not_eq_false, Bool.or_eq_true, decide_eq_true_eq] at hspace
    rcases hspace with ((rfl | rfl) | rfl) | rfl <;> cases h
  have hquote : c ≠ '"' := by
    rintro rfl
    cases h
  have hpunctuation : Token.punctuation? c = none := by
    by_contra hsome
    obtain ⟨t, ht⟩ := Option.ne_none_iff_exists'.mp hsome
    rw [(of_punctuation? ht).2.2.2] at h
    cases h
  simp [Token.isSeparator, hspace, hquote, hpunctuation]

theorem readable_integer (depth : Nat) (n : Integer) : Readable depth (.number (.integer n)) where
  legible c t h := by
    have hne : Text.signedDigits n.value ≠ [] := by
      cases n.value with
      | ofNat n => exact Nat.toDigits_ne_nil
      | negSucc n => exact List.cons_ne_nil _ _
    refine legible_word hne (fun d hd => ?_) h
    rcases mem_signedDigits hd with rfl | hdigit
    · rfl
    · exact isSeparator_of_isDigit hdigit
  printable := by
    rw [chars, tokens, List.flatMap_singleton]
    intro c hc
    rcases mem_signedDigits hc with rfl | hdigit
    · decide
    · have hle : 48 ≤ c.toNat := (Char.isDigit_iff_toNat.mp hdigit).1
      exact Char.le_def.mpr (UInt32.le_iff_toNat_le.mpr (le_trans (by decide) hle))
  written := by
    refine ⟨.number (wholeSpelling n.value), ?_, fun frames => ?_⟩
    · rw [ofWritten?, ofSpelling?_wholeSpelling, Option.map_some]
    · have hstep : Reader.step (.value frames) (.word (Text.signedDigits n.value)) =
          some (.after (.number (wholeSpelling n.value)) frames) := by
        simp only [Reader.step, Reader.onValue, ofWord?_signedDigits, Option.map_some]
      exact congrArg (· >>= fun r => some r) hstep

/-! ### Objects -/

theorem legible_key (key : String) : Legible [textToken key, .colon] :=
  (legible_text key).append (legible_punctuation (c := ':') rfl)

theorem isPrintable_key (key : String) :
    IsPrintable ((textToken key).chars ++ Token.colon.chars) :=
  isPrintable_append.mpr ⟨isPrintable_text key, by decide⟩

section Object

variable {depth : Nat} {members : List (String × Json)}

/-- The members that follow a value, up to the end of the object. -/
theorem legible_laterMembers (h : ∀ m ∈ members, Readable depth m.2) {v : Json}
    (hv : Readable depth v) :
    Legible (v.tokens ++ laterMemberTokens members ++ [.closeObject]) := by
  induction members generalizing v with
  | nil =>
      rw [laterMemberTokens, List.append_nil]
      exact hv.legible '\x7d' _ rfl
  | cons m rest ih =>
      obtain ⟨hm, hrest⟩ := List.forall_mem_cons.mp h
      have hcomma := hv.legible ',' _ rfl
      have hall := hcomma.append ((legible_key m.1).append (ih hrest hm))
      simpa [laterMemberTokens] using hall

theorem legible_object (h : ∀ m ∈ members, Readable depth m.2) :
    Legible (Json.object members).tokens := by
  have hopen : Legible [.openObject] := legible_punctuation (c := '\x7b') rfl
  cases members with
  | nil => exact hopen.append (legible_punctuation (c := '\x7d') rfl)
  | cons m rest =>
      obtain ⟨hm, hrest⟩ := List.forall_mem_cons.mp h
      have hall := hopen.append ((legible_key m.1).append (legible_laterMembers hrest hm))
      simpa [tokens, memberTokens] using hall

theorem isPrintable_laterMembers (h : ∀ m ∈ members, Readable depth m.2) :
    IsPrintable ((laterMemberTokens members).flatMap Token.chars) := by
  induction members with
  | nil => decide
  | cons m rest ih =>
      obtain ⟨hm, hrest⟩ := List.forall_mem_cons.mp h
      have hkey : IsPrintable (Token.comma.chars ++ ((textToken m.1).chars ++ Token.colon.chars)) :=
        isPrintable_append.mpr ⟨by decide, isPrintable_key m.1⟩
      have hall := isPrintable_append.mpr
        ⟨hkey, isPrintable_append.mpr ⟨hm.printable, ih hrest⟩⟩
      simpa [laterMemberTokens, chars] using hall

theorem isPrintable_object (h : ∀ m ∈ members, Readable depth m.2) :
    IsPrintable (Json.object members).chars := by
  cases members with
  | nil => decide
  | cons m rest =>
      obtain ⟨hm, hrest⟩ := List.forall_mem_cons.mp h
      have hkey : IsPrintable
          (Token.openObject.chars ++ ((textToken m.1).chars ++ Token.colon.chars)) :=
        isPrintable_append.mpr ⟨by decide, isPrintable_key m.1⟩
      have hclose : IsPrintable ((laterMemberTokens rest).flatMap Token.chars ++
          Token.closeObject.chars) :=
        isPrintable_append.mpr ⟨isPrintable_laterMembers hrest, by decide⟩
      have hall := isPrintable_append.mpr
        ⟨hkey, isPrintable_append.mpr ⟨hm.printable, hclose⟩⟩
      simpa [tokens, memberTokens, chars] using hall

theorem written_laterMembers (h : ∀ m ∈ members, Readable depth m.2) {v : Json} {w : Written}
    (hw : ∀ frames, v.tokens.foldlM Reader.step (.value frames) = some (.after w frames)) :
    ∃ ws, ofMembers? depth ws = some members ∧ ∀ read key frames,
      (v.tokens ++ laterMemberTokens members ++ [Token.closeObject]).foldlM Reader.step
        (.value (.object read key :: frames)) =
          some (.after (.object (read.reverse ++ (key, w) :: ws)) frames) := by
  induction members generalizing v w with
  | nil =>
      refine ⟨[], rfl, fun read key frames => ?_⟩
      rw [laterMemberTokens, List.append_nil, List.foldlM_append, hw]
      simp [Reader.step]
  | cons m rest ih =>
      obtain ⟨hm, hrest⟩ := List.forall_mem_cons.mp h
      obtain ⟨w', hvalue, hw'⟩ := hm.written
      obtain ⟨ws, hmembers, hread⟩ := ih hrest hw'
      refine ⟨(m.1.toList.map piece, w') :: ws, ?_, fun read key frames => ?_⟩
      · rw [ofMembers?, text?_pieces, hvalue, hmembers]
        rfl
      · have htokens : v.tokens ++ laterMemberTokens (m :: rest) ++ [.closeObject] =
            v.tokens ++ ([.comma, textToken m.1, .colon] ++
              (m.2.tokens ++ laterMemberTokens rest ++ [.closeObject])) := by
          simp [laterMemberTokens]
        have hkey : [.comma, textToken m.1, .colon].foldlM Reader.step
            (.after w (.object read key :: frames)) =
              some (.value (.object ((key, w) :: read) (m.1.toList.map piece) :: frames)) := rfl
        rw [htokens, List.foldlM_append, hw, Option.bind_eq_bind, Option.bind_some,
          List.foldlM_append, hkey, Option.bind_eq_bind, Option.bind_some, hread,
          List.reverse_cons, List.append_assoc, List.singleton_append]

theorem written_object (h : ∀ m ∈ members, Readable depth m.2) :
    ∃ ws, ofMembers? depth ws = some members ∧ ∀ frames,
      (Json.object members).tokens.foldlM Reader.step (.value frames) =
        some (.after (.object ws) frames) := by
  cases members with
  | nil => exact ⟨[], rfl, fun frames => rfl⟩
  | cons m rest =>
      obtain ⟨hm, hrest⟩ := List.forall_mem_cons.mp h
      obtain ⟨w, hvalue, hw⟩ := hm.written
      obtain ⟨ws, hmembers, hread⟩ := written_laterMembers hrest hw
      refine ⟨(m.1.toList.map piece, w) :: ws, ?_, fun frames => ?_⟩
      · rw [ofMembers?, text?_pieces, hvalue, hmembers]
        rfl
      · have htokens : (Json.object (m :: rest)).tokens =
            [.openObject, textToken m.1, .colon] ++
              (m.2.tokens ++ laterMemberTokens rest ++ [.closeObject]) := by
          simp [tokens, memberTokens]
        have hkey : [.openObject, textToken m.1, .colon].foldlM Reader.step (.value frames) =
            some (.value (.object [] (m.1.toList.map piece) :: frames)) := rfl
        rw [htokens, List.foldlM_append, hkey, Option.bind_eq_bind, Option.bind_some, hread,
          List.reverse_nil, List.nil_append]

/-- The text of an object whose values are readable is read as that object. -/
theorem read?_object (h : ∀ m ∈ members, Readable 126 m.2) :
    read? (Json.object members).text = some (ofMembers members) := by
  obtain ⟨ws, hmembers, hread⟩ := written_object h
  have hscan : Token.scan? (Json.object members).chars = some (Json.object members).tokens := by
    rw [Token.scan?, chars, legible_object h, List.append_nil, Option.bind_some, Lexer.finish?,
      List.reverse_reverse]
  rw [read?, text, String.toList_ofList, Written.read?, hscan, Option.bind_some, Written.ofTokens?,
    hread, Option.bind_some, Reader.finish?, Option.bind_some, depthLimit, ofWritten?, hmembers,
    Option.map_some]

end Object

/-! ### Members in the order of their keys -/

theorem insert_perm {key : String} (value : Json) {members : List (String × Json)}
    (h : key ∉ members.map (·.1)) : (insert key value members).Perm ((key, value) :: members) := by
  induction members with
  | nil => exact List.Perm.refl _
  | cons m rest ih =>
      rw [List.map_cons, List.mem_cons, not_or] at h
      rw [insert]
      split
      · exact List.Perm.refl _
      · rw [if_neg h.1]
        exact ((ih h.2).cons m).trans (List.Perm.swap _ _ _)

/-- An object read from members with different keys has exactly these members. -/
theorem ofMembers_perm {members : List (String × Json)} (h : (members.map (·.1)).Nodup) :
    ∃ sorted, ofMembers members = .object sorted ∧ sorted.Perm members := by
  suffices hfold : ∀ sorted : List (String × Json), ((sorted ++ members).map (·.1)).Nodup →
      (members.foldl (fun sorted m => insert m.1 m.2 sorted) sorted).Perm (sorted ++ members) from
    ⟨_, rfl, hfold [] h⟩
  clear h
  induction members with
  | nil =>
      intro sorted _
      rw [List.append_nil]
      exact List.Perm.refl _
  | cons m rest ih =>
      intro sorted h
      have hmiddle : (sorted ++ m :: rest).Perm (m :: sorted ++ rest) := List.perm_middle
      have hnodup := (hmiddle.map (·.1)).nodup_iff.mp h
      have hkey : m.1 ∉ sorted.map (·.1) := fun hmem => by
        rw [List.cons_append, List.map_cons, List.nodup_cons, List.map_append] at hnodup
        exact hnodup.1 (List.mem_append_left _ hmem)
      have hinsert := (insert_perm m.2 hkey).append_right rest
      rw [List.foldl_cons]
      refine (ih _ ?_).trans (hinsert.trans hmiddle.symm)
      exact (hinsert.map (·.1)).nodup_iff.mpr hnodup

end DetectorDashboard.Json
