import DetectorDashboard.ControlServer.ErrorText
import DetectorDashboard.Proofs.JsonText
import DetectorDashboard.Proofs.Utf8

/-! JSON texts read byte by byte. All that is not inside a string is written in characters of one
byte, so a reader that takes every byte for a character finds the same tree as one that reads the
characters; only its strings hold the bytes in the place of the characters, until they are
decoded. -/

namespace DetectorDashboard.Json

/-- A loop over the spellings of some symbols follows the loop over the symbols, if the states
correspond after each symbol. -/
theorem foldlM_flatMap_of_step {σ τ α β : Type} {f : σ → α → Option σ} {g : τ → β → Option τ}
    {φ : σ → τ} {spell : α → List β} (h : ∀ s a, (spell a).foldlM g (φ s) = (f s a).map φ)
    (as : List α) (s : σ) : (as.flatMap spell).foldlM g (φ s) = (as.foldlM f s).map φ := by
  induction as generalizing s with
  | nil => rfl
  | cons a rest ih =>
      rw [List.flatMap_cons, List.foldlM_append, h, List.foldlM_cons]
      cases f s a with
      | none => rfl
      | some s' => exact ih s'

/-! ### Characters of one byte and of several -/

/-- The bytes of a character, each taken for a character. -/
def bytesOf (c : Char) : List Char :=
  (String.utf8EncodeChar c).map fun b => Char.ofNat b.toNat

theorem toNat_ofByte (b : UInt8) : (Char.ofNat b.toNat).toNat = b.toNat :=
  Text.Utf8.toNat_val_ofNat (.inl (by have := b.toNat_lt; omega))

theorem bytesOf_narrow {c : Char} (h : c.toNat < 0x80) : bytesOf c = [c] := by
  rw [bytesOf, Text.Utf8.encodeChar_of_narrow h, List.map_singleton,
    Text.Utf8.toNat_byte (by omega), Char.ofNat_toNat]

theorem bytesOf_ne_nil (c : Char) : bytesOf c ≠ [] := by
  simp only [bytesOf, String.utf8EncodeChar]
  split_ifs <;> exact List.cons_ne_nil _ _

theorem wide_of_mem_bytesOf {c d : Char} (h : 0x80 ≤ c.toNat) (hd : d ∈ bytesOf c) :
    0x80 ≤ d.toNat := by
  obtain ⟨b, hb, rfl⟩ := List.mem_map.mp hd
  rw [toNat_ofByte]
  exact Text.Utf8.wide_of_mem_encodeChar h b hb

/-- A character of several bytes has no meaning of its own, outside of strings or inside. -/
structure Plain (c : Char) : Prop where
  space : Token.isSpace c = false
  quote : c ≠ '"'
  punctuation : Token.punctuation? c = none
  backslash : c ≠ '\\'
  control : ¬ c < ' '
  unit : c ≠ 'u'
  escaped : Token.escaped? c = none
  hex : Text.hexValue? c = none

theorem plain_of_wide {c : Char} (h : 0x80 ≤ c.toNat) : Plain c := by
  have hne (d : Char) (hd : d.toNat < 0x80) : c ≠ d := by
    rintro rfl
    omega
  have hle (d : Char) (hd : d.toNat < 0x80) : ¬ c ≤ d := fun hcd => by
    have hcd : c.toNat ≤ d.toNat := UInt32.le_iff_toNat_le.mp (Char.le_def.mp hcd)
    omega
  constructor
  case space =>
    simp [Token.isSpace, hne ' ' (by decide), hne '\t' (by decide), hne '\n' (by decide),
      hne '\r' (by decide)]
  case quote => exact hne _ (by decide)
  case punctuation =>
    unfold Token.punctuation?
    split
    case h_7 => rfl
    all_goals exact absurd h (by decide)
  case backslash => exact hne _ (by decide)
  case control => exact fun hlt => hle ' ' (by decide) (UInt32.le_of_lt hlt)
  case unit => exact hne _ (by decide)
  case escaped =>
    unfold Token.escaped?
    split
    case h_9 => rfl
    all_goals exact absurd h (by decide)
  case hex =>
    rw [Text.hexValue?, if_neg fun hc => hle '9' (by decide) hc.2,
      if_neg fun hc => hle 'f' (by decide) hc.2, if_neg fun hc => hle 'F' (by decide) hc.2]

/-! ### Tokens -/

/-- The piece with its bytes in the place of a character. -/
def Piece.inBytes : Piece → List Piece
  | .char c => (bytesOf c).map .char
  | .unit n => [.unit n]

def Token.inBytes : Token → Token
  | .text pieces => .text (pieces.flatMap Piece.inBytes)
  | .word letters => .word (letters.flatMap bytesOf)
  | t => t

/-- What has been read stands last first, and so do its bytes. -/
def Scan.inBytes : Scan → Scan
  | .between => .between
  | .word letters => .word (letters.flatMap fun c => (bytesOf c).reverse)
  | .text pieces => .text (pieces.flatMap fun p => p.inBytes.reverse)
  | .escape pieces => .escape (pieces.flatMap fun p => p.inBytes.reverse)
  | .unit pieces owed value => .unit (pieces.flatMap fun p => p.inBytes.reverse) owed value

def Lexer.inBytes (l : Lexer) : Lexer :=
  ⟨l.tokens.map Token.inBytes, l.scan.inBytes⟩

theorem reverse_flatMap_reverse {α β : Type} (f : α → List β) (xs : List α) :
    (xs.flatMap fun x => (f x).reverse).reverse = xs.reverse.flatMap f := by
  rw [List.reverse_flatMap]
  exact congrArg (xs.reverse.flatMap ·) (funext fun x => List.reverse_reverse (f x))

theorem inBytes_of_punctuation? {c : Char} {t : Token} (h : Token.punctuation? c = some t) :
    t.inBytes = t := by
  unfold Token.punctuation? at h
  split at h
  case h_7 => cases h
  all_goals
    obtain rfl := Option.some.inj h
    rfl

theorem narrow_of_escaped? {c e : Char} (h : Token.escaped? c = some e) : e.toNat < 0x80 := by
  unfold Token.escaped? at h
  split at h
  case h_9 => cases h
  all_goals
    obtain rfl := Option.some.inj h
    decide

section Narrow

variable {c : Char}

theorem Lexer.start_inBytes (h : c.toNat < 0x80) (tokens : List Token) :
    Lexer.start (tokens.map Token.inBytes) c = (Lexer.start tokens c).inBytes := by
  unfold Lexer.start
  split_ifs
  · rfl
  · rfl
  · cases hpunctuation : Token.punctuation? c with
    | some t => simp [Lexer.inBytes, Scan.inBytes, inBytes_of_punctuation? hpunctuation]
    | none => simp [Lexer.inBytes, Scan.inBytes, bytesOf_narrow h]

theorem Lexer.step_narrow (h : c.toNat < 0x80) (l : Lexer) :
    l.inBytes.step c = (l.step c).map Lexer.inBytes := by
  obtain ⟨tokens, scan⟩ := l
  cases scan with
  | between => exact congrArg some (start_inBytes h tokens)
  | word letters =>
      have htoken : (Token.word letters.reverse).inBytes =
          .word (letters.flatMap fun c => (bytesOf c).reverse).reverse := by
        rw [reverse_flatMap_reverse]
        rfl
      have hstart := start_inBytes h (.word letters.reverse :: tokens)
      rw [List.map_cons, htoken] at hstart
      simp only [Lexer.step, Lexer.inBytes, Scan.inBytes]
      split_ifs
      · exact congrArg some hstart
      · simp [Lexer.inBytes, Scan.inBytes, bytesOf_narrow h]
  | text pieces =>
      simp only [Lexer.step, Lexer.inBytes, Scan.inBytes]
      split_ifs
      · simp [Lexer.inBytes, Scan.inBytes, Token.inBytes, reverse_flatMap_reverse]
      · rfl
      · rfl
      · simp [Lexer.inBytes, Scan.inBytes, Piece.inBytes, bytesOf_narrow h]
  | escape pieces =>
      simp only [Lexer.step, Lexer.inBytes, Scan.inBytes]
      split_ifs
      · rfl
      · cases hescaped : Token.escaped? c with
        | none => rfl
        | some e =>
            simp [Lexer.inBytes, Scan.inBytes, Piece.inBytes,
              bytesOf_narrow (narrow_of_escaped? hescaped)]
  | unit pieces owed value =>
      simp only [Lexer.step, Lexer.inBytes, Scan.inBytes]
      cases Text.hexValue? c with
      | none => rfl
      | some digit =>
          cases owed with
          | zero => rfl
          | succ owed => rfl

end Narrow

theorem Plain.separator {c : Char} (h : Plain c) : Token.isSeparator c = false := by
  simp [Token.isSeparator, h.space, h.quote, h.punctuation]

theorem Plain.step_between {c : Char} (h : Plain c) (tokens : List Token) :
    Lexer.step ⟨tokens, .between⟩ c = some ⟨tokens, .word [c]⟩ := by
  simp [Lexer.step, Lexer.start, h.space, h.quote, h.punctuation]

section Plain

variable {cs : List Char} (h : ∀ c ∈ cs, Plain c)

include h

theorem foldlM_plain_word (tokens : List Token) (letters : List Char) :
    cs.foldlM Lexer.step ⟨tokens, .word letters⟩ =
      some ⟨tokens, .word (cs.reverse ++ letters)⟩ :=
  foldlM_word (fun c hc => (h c hc).separator) tokens letters

theorem foldlM_plain_text (tokens : List Token) (pieces : List Piece) :
    cs.foldlM Lexer.step ⟨tokens, .text pieces⟩ =
      some ⟨tokens, .text ((cs.map .char).reverse ++ pieces)⟩ := by
  induction cs generalizing pieces with
  | nil => rfl
  | cons c rest ih =>
      obtain ⟨hplain, hrest⟩ := List.forall_mem_cons.mp h
      have hstep : Lexer.step ⟨tokens, .text pieces⟩ c =
          some ⟨tokens, .text (.char c :: pieces)⟩ := by
        simp [Lexer.step, hplain.quote, hplain.backslash, hplain.control]
      rw [List.foldlM_cons, hstep, Option.bind_eq_bind, Option.bind_some, ih hrest, List.map_cons,
        List.reverse_cons, List.append_assoc, List.singleton_append]

end Plain

theorem Lexer.step_inBytes (l : Lexer) (c : Char) :
    (bytesOf c).foldlM Lexer.step l.inBytes = (l.step c).map Lexer.inBytes := by
  rcases Nat.lt_or_ge c.toNat 0x80 with hnarrow | hwide
  · rw [bytesOf_narrow hnarrow, List.foldlM_cons, step_narrow hnarrow]
    cases l.step c <;> rfl
  have hbytes : ∀ d ∈ bytesOf c, Plain d := fun d hd =>
    plain_of_wide (wide_of_mem_bytesOf hwide hd)
  have hplain := plain_of_wide hwide
  obtain ⟨first, rest, hcons⟩ := List.exists_cons_of_ne_nil (bytesOf_ne_nil c)
  obtain ⟨hfirst, hrest⟩ := List.forall_mem_cons.mp (hcons ▸ hbytes)
  obtain ⟨tokens, scan⟩ := l
  cases scan with
  | between =>
      rw [hplain.step_between, hcons, List.foldlM_cons]
      simp only [Lexer.inBytes, Scan.inBytes, hfirst.step_between, Option.bind_eq_bind,
        Option.bind_some, foldlM_plain_word hrest, Option.map_some, List.flatMap_singleton, hcons,
        List.reverse_cons]
  | word letters =>
      simp only [Lexer.inBytes, Scan.inBytes, foldlM_plain_word hbytes]
      simp [Lexer.step, hplain.separator, Lexer.inBytes, Scan.inBytes]
  | text pieces =>
      simp only [Lexer.inBytes, Scan.inBytes, foldlM_plain_text hbytes]
      simp [Lexer.step, hplain.quote, hplain.backslash, hplain.control, Lexer.inBytes, Scan.inBytes,
        Piece.inBytes]
  | escape pieces =>
      simp [Lexer.step, Lexer.inBytes, Scan.inBytes, hcons, hplain.unit, hplain.escaped,
        hfirst.unit, hfirst.escaped]
  | unit pieces owed value =>
      simp [Lexer.step, Lexer.inBytes, Scan.inBytes, hcons, hplain.hex, hfirst.hex]

theorem Lexer.finish?_inBytes (l : Lexer) :
    l.inBytes.finish? = l.finish?.map (·.map Token.inBytes) := by
  obtain ⟨tokens, scan⟩ := l
  cases scan with
  | word letters =>
      simp [Lexer.finish?, Lexer.inBytes, Scan.inBytes, Token.inBytes, reverse_flatMap_reverse]
  | between => simp [Lexer.finish?, Lexer.inBytes, Scan.inBytes]
  | text pieces => rfl
  | escape pieces => rfl
  | unit pieces owed value => rfl

theorem scan?_inBytes (cs : List Char) :
    Token.scan? (cs.flatMap bytesOf) = (Token.scan? cs).map (·.map Token.inBytes) := by
  have hfold := foldlM_flatMap_of_step Lexer.step_inBytes cs ⟨[], .between⟩
  have hstart : Lexer.inBytes ⟨[], .between⟩ = ⟨[], .between⟩ := rfl
  rw [hstart] at hfold
  rw [Token.scan?, Token.scan?, hfold]
  cases cs.foldlM Lexer.step ⟨[], .between⟩ with
  | none => rfl
  | some l => exact l.finish?_inBytes

/-! ### Words -/

theorem narrow_of_isDigit {c : Char} (h : c.isDigit = true) : c.toNat < 0x80 := by
  have hle : c.toNat ≤ 57 := (Char.isDigit_iff_toNat.mp h).2
  omega

theorem mem_readSign {cs : List Char} {c : Char} (hc : c ∈ cs) :
    c.toNat < 0x80 ∨ c ∈ (Spelling.readSign cs).2 := by
  unfold Spelling.readSign
  split
  case h_3 => exact .inr hc
  all_goals
    rcases List.mem_cons.mp hc with rfl | hc
    · exact .inl (by decide)
    · exact .inr hc

theorem mem_dropWhile_isDigit {cs : List Char} {c : Char} (hc : c ∈ cs) :
    c.toNat < 0x80 ∨ c ∈ cs.dropWhile Char.isDigit := by
  rw [← List.takeWhile_append_dropWhile (p := Char.isDigit) (l := cs)] at hc
  exact (List.mem_append.mp hc).imp
    (fun htake => narrow_of_isDigit (List.mem_takeWhile_imp htake)) id

theorem mem_readFraction {cs : List Char} {c : Char} (hc : c ∈ cs) :
    c.toNat < 0x80 ∨ c ∈ (Spelling.readFraction cs).2 := by
  unfold Spelling.readFraction
  split
  case h_2 => exact .inr hc
  case h_1 =>
    rcases List.mem_cons.mp hc with rfl | hc
    · exact .inl (by decide)
    · exact mem_dropWhile_isDigit hc

theorem narrow_of_readExponent? {cs : List Char} {e : Option (Option Char × List Char)}
    (h : Spelling.readExponent? cs = some e) {c : Char} (hc : c ∈ cs) : c.toNat < 0x80 := by
  cases cs with
  | nil => cases hc
  | cons mark rest =>
      dsimp only [Spelling.readExponent?] at h
      split_ifs at h with hparts
      obtain ⟨hmark, -, hdigits⟩ := hparts
      rcases List.mem_cons.mp hc with rfl | hc
      · rcases hmark with rfl | rfl <;> decide
      · rcases mem_readSign hc with hnarrow | hc
        · exact hnarrow
        · exact narrow_of_isDigit (List.all_eq_true.mp hdigits c hc)

theorem narrow_of_read? {cs : List Char} {s : Spelling} (h : Spelling.read? cs = some s) {c : Char}
    (hc : c ∈ cs) : c.toNat < 0x80 := by
  obtain ⟨e, he, -⟩ := Option.map_eq_some_iff.mp h
  rcases mem_readSign hc with hnarrow | hc
  · exact hnarrow
  rcases mem_dropWhile_isDigit hc with hnarrow | hc
  · exact hnarrow
  rcases mem_readFraction hc with hnarrow | hc
  · exact hnarrow
  · exact narrow_of_readExponent? he hc

/-- A word that means something is written in characters of one byte. -/
theorem narrow_of_ofWord? {letters : List Char} {w : Written} (h : Written.ofWord? letters = some w)
    {c : Char} (hc : c ∈ letters) : c.toNat < 0x80 := by
  have hword {word : List Char} (hall : word.all (fun d => d.toNat < 0x80) = true)
      (heq : letters = word) : c.toNat < 0x80 :=
    of_decide_eq_true (List.all_eq_true.mp hall c (heq ▸ hc))
  unfold Written.ofWord? at h
  split_ifs at h with hnull htrue hfalse
  · exact hword (by decide) hnull
  · exact hword (by decide) htrue
  · exact hword (by decide) hfalse
  · obtain ⟨s, hs, -⟩ := Option.map_eq_some_iff.mp h
    exact narrow_of_read? (Option.filter_eq_some_iff.mp hs).1 hc

theorem ofWord?_flatMap_bytesOf (letters : List Char) :
    Written.ofWord? (letters.flatMap bytesOf) = Written.ofWord? letters := by
  by_cases hnarrow : ∀ c ∈ letters, c.toNat < 0x80
  · have hsame : letters.flatMap bytesOf = letters := by
      induction letters with
      | nil => rfl
      | cons c rest ih =>
          obtain ⟨hc, hrest⟩ := List.forall_mem_cons.mp hnarrow
          rw [List.flatMap_cons, bytesOf_narrow hc, ih hrest, List.singleton_append]
    rw [hsame]
  · push Not at hnarrow
    obtain ⟨c, hc, hwide⟩ := hnarrow
    obtain ⟨d, hd⟩ := List.exists_mem_of_ne_nil _ (bytesOf_ne_nil c)
    have hwide' := wide_of_mem_bytesOf hwide hd
    have hd : d ∈ letters.flatMap bytesOf := List.mem_flatMap.mpr ⟨c, hc, hd⟩
    have hnone {letters : List Char} {c : Char} (hc : c ∈ letters) (hwide : 0x80 ≤ c.toNat) :
        Written.ofWord? letters = none := by
      by_contra hsome
      obtain ⟨w, hw⟩ := Option.ne_none_iff_exists'.mp hsome
      exact absurd (narrow_of_ofWord? hw hc) (Nat.not_lt.mpr hwide)
    rw [hnone hc hwide, hnone hd hwide']

/-! ### Trees -/

mutual

def Written.inBytes : Written → Written
  | .null => .null
  | .bool b => .bool b
  | .number s => .number s
  | .text pieces => .text (pieces.flatMap Piece.inBytes)
  | .array items => .array (itemsInBytes items)
  | .object members => .object (membersInBytes members)

def itemsInBytes : List Written → List Written
  | [] => []
  | w :: rest => w.inBytes :: itemsInBytes rest

def membersInBytes : List (List Piece × Written) → List (List Piece × Written)
  | [] => []
  | (key, w) :: rest => (key.flatMap Piece.inBytes, w.inBytes) :: membersInBytes rest

end

/-- A member with its key and its value in bytes. -/
def memberInBytes (m : List Piece × Written) : List Piece × Written :=
  (m.1.flatMap Piece.inBytes, m.2.inBytes)

theorem itemsInBytes_eq (items : List Written) :
    itemsInBytes items = items.map Written.inBytes := by
  induction items with
  | nil => rfl
  | cons w rest ih => rw [itemsInBytes, ih, List.map_cons]

theorem membersInBytes_eq (members : List (List Piece × Written)) :
    membersInBytes members = members.map memberInBytes := by
  induction members with
  | nil => rfl
  | cons m rest ih =>
      obtain ⟨key, w⟩ := m
      rw [membersInBytes, ih, List.map_cons, memberInBytes]

theorem Written.inBytes_array (items : List Written) :
    (Written.array items).inBytes = .array (items.map Written.inBytes) := by
  rw [Written.inBytes, itemsInBytes_eq]

theorem Written.inBytes_object (members : List (List Piece × Written)) :
    (Written.object members).inBytes = .object (members.map memberInBytes) := by
  rw [Written.inBytes, membersInBytes_eq]

theorem inBytes_of_ofWord? {letters : List Char} {w : Written}
    (h : Written.ofWord? letters = some w) : w.inBytes = w := by
  unfold Written.ofWord? at h
  split_ifs at h
  iterate 3
    · obtain rfl := Option.some.inj h
      rfl
  · obtain ⟨s, -, rfl⟩ := Option.map_eq_some_iff.mp h
    rfl

def Frame.inBytes : Frame → Frame
  | .array items => .array (items.map Written.inBytes)
  | .object members key => .object (members.map memberInBytes) (key.flatMap Piece.inBytes)

def Reader.inBytes : Reader → Reader
  | .value frames => .value (frames.map Frame.inBytes)
  | .firstItem frames => .firstItem (frames.map Frame.inBytes)
  | .firstKey frames => .firstKey (frames.map Frame.inBytes)
  | .key frames members => .key (frames.map Frame.inBytes) (members.map memberInBytes)
  | .colon frames members k =>
    .colon (frames.map Frame.inBytes) (members.map memberInBytes) (k.flatMap Piece.inBytes)
  | .after w frames => .after w.inBytes (frames.map Frame.inBytes)

namespace Reader

theorem onValue_inBytes (frames : List Frame) (t : Token) :
    onValue (frames.map Frame.inBytes) t.inBytes = (onValue frames t).map Reader.inBytes := by
  cases t with
  | word letters =>
      rw [Token.inBytes, onValue, onValue, ofWord?_flatMap_bytesOf]
      cases hword : Written.ofWord? letters with
      | none => rfl
      | some w => simp [Reader.inBytes, inBytes_of_ofWord? hword]
  | _ => rfl

theorem onKey_inBytes (frames : List Frame) (members : List (List Piece × Written)) (t : Token) :
    onKey (frames.map Frame.inBytes) (members.map memberInBytes) t.inBytes =
      (onKey frames members t).map Reader.inBytes := by
  cases t <;> rfl

theorem step_inBytes (r : Reader) (t : Token) :
    r.inBytes.step t.inBytes = (r.step t).map Reader.inBytes := by
  cases r with
  | value frames => exact onValue_inBytes frames t
  | firstItem frames =>
      have hvalue := onValue_inBytes (.array [] :: frames) t
      cases t with
      | closeArray => rfl
      | _ => exact hvalue
  | firstKey frames =>
      have hkey := onKey_inBytes frames [] t
      cases t with
      | closeObject => rfl
      | _ => exact hkey
  | key frames members => exact onKey_inBytes frames members t
  | colon frames members key => cases t <;> rfl
  | after w frames =>
      cases frames with
      | nil => cases t <;> rfl
      | cons frame frames =>
          cases frame with
          | array items =>
              cases t with
              | closeArray =>
                  simp [Reader.inBytes, Token.inBytes, Reader.step, Frame.inBytes,
                    Written.inBytes_array]
              | _ => rfl
          | object members key =>
              cases t with
              | closeObject =>
                  simp [Reader.inBytes, Token.inBytes, Reader.step, Frame.inBytes,
                    Written.inBytes_object, memberInBytes]
              | _ => rfl

theorem finish?_inBytes (r : Reader) : r.inBytes.finish? = r.finish?.map Written.inBytes := by
  cases r with
  | after w frames => cases frames <;> rfl
  | _ => rfl

end Reader

theorem ofTokens?_inBytes (tokens : List Token) :
    Written.ofTokens? (tokens.map Token.inBytes) =
      (Written.ofTokens? tokens).map Written.inBytes := by
  have hstep (r : Reader) (t : Token) : [t.inBytes].foldlM Reader.step r.inBytes =
      (r.step t).map Reader.inBytes := by
    rw [List.foldlM_cons, Reader.step_inBytes]
    cases r.step t <;> rfl
  have hfold := foldlM_flatMap_of_step hstep tokens (.value [])
  rw [← List.map_eq_flatMap, Reader.inBytes, List.map_nil] at hfold
  rw [Written.ofTokens?, Written.ofTokens?, hfold]
  cases tokens.foldlM Reader.step (.value []) with
  | none => rfl
  | some r => exact r.finish?_inBytes

/-- Byte by byte, a text is read as the tree of its characters with the strings in bytes. -/
theorem read?_flatMap_bytesOf (cs : List Char) :
    Written.read? (cs.flatMap bytesOf) = (Written.read? cs).map Written.inBytes := by
  rw [Written.read?, Written.read?, scan?_inBytes]
  cases Token.scan? cs with
  | none => rfl
  | some tokens => exact ofTokens?_inBytes tokens

/-! ### Strings -/

theorem decode?_map_char {α : Type} (raw escaped : Char → α) (cs : List Char) (rest : List Piece) :
    Piece.decode? raw escaped (cs.map .char ++ rest) =
      (Piece.decode? raw escaped rest).map (cs.map raw ++ ·) := by
  induction cs with
  | nil => simp
  | cons c cs ih =>
      rw [List.map_cons, List.cons_append, Piece.decode?, ih, Option.map_map]
      rfl

/-- The character that a pair of surrogates stands for. -/
def pairedChar (high low : Nat) : Char :=
  Char.ofNat (0x10000 + (high - 0xD800) * 0x400 + (low - 0xDC00))

theorem decode?_pair {α : Type} (raw escaped : Char → α) {n m : Nat}
    (hhigh : Piece.isHigh n = true) (hlow : Piece.isLow m = true) (rest : List Piece) :
    Piece.decode? raw escaped (.unit n :: .unit m :: rest) =
      (Piece.decode? raw escaped rest).map (escaped (pairedChar n m) :: ·) := by
  rw [Piece.decode?, if_pos hhigh, if_pos hlow, pairedChar]

theorem flatten_map_bytesOf (c : Char) :
    ((bytesOf c).map fun d => [UInt8.ofNat d.toNat]).flatten = Text.Utf8.encode [c] := by
  have hbyte : (fun d : Char => UInt8.ofNat d.toNat) ∘ (fun b : UInt8 => Char.ofNat b.toNat) =
      id := by
    funext b
    exact (congrArg UInt8.ofNat (toNat_ofByte b)).trans UInt8.ofNat_toNat
  rw [← List.flatMap_def, ← List.map_eq_flatMap, bytesOf, List.map_map, hbyte, List.map_id,
    Text.Utf8.encode, List.flatMap_singleton]

theorem map_flatten_append {xs : List (List UInt8)} {c : Char}
    (hxs : xs.flatten = Text.Utf8.encode [c]) {bytes? : Option (List (List UInt8))}
    {cs? : Option (List Char)} (h : bytes?.map List.flatten = cs?.map Text.Utf8.encode) :
    (bytes?.map (xs ++ ·)).map List.flatten = (cs?.map (c :: ·)).map Text.Utf8.encode := by
  cases bytes? with
  | none =>
      rw [Option.map_eq_none_iff.mp h.symm]
      rfl
  | some bytes =>
      obtain ⟨cs, rfl, hcs⟩ := Option.map_eq_some_iff.mp h.symm
      simp only [Option.map_some, List.flatten_append, hxs, ← hcs]
      exact congrArg some (Text.Utf8.encode_append [c] cs).symm

theorem map_flatten_escape {bytes? : Option (List (List UInt8))} {cs? : Option (List Char)}
    (h : bytes?.map List.flatten = cs?.map Text.Utf8.encode) (c : Char) :
    (bytes?.map (Text.Utf8.encode [c] :: ·)).map List.flatten =
      (cs?.map (id c :: ·)).map Text.Utf8.encode :=
  map_flatten_append List.flatten_singleton h

/-- In a string of bytes the bytes stand for themselves, and an escape for the bytes of its
character. -/
theorem decode?_inBytes (pieces : List Piece) :
    (Piece.decode? (fun c => [UInt8.ofNat c.toNat]) (fun c => Text.Utf8.encode [c])
      (pieces.flatMap Piece.inBytes)).map List.flatten =
        (Piece.decode? id id pieces).map Text.Utf8.encode := by
  induction pieces using Piece.decode?.induct with
  | case1 => rfl
  | case2 c rest ih =>
      rw [List.flatMap_cons, Piece.inBytes, decode?_map_char, Piece.decode?]
      exact map_flatten_append (flatten_map_bytesOf c) ih
  | case3 n hhigh m rest hlow ih =>
      rw [List.flatMap_cons, List.flatMap_cons, Piece.inBytes, Piece.inBytes,
        List.singleton_append, List.singleton_append, decode?_pair _ _ hhigh hlow,
        decode?_pair _ _ hhigh hlow]
      exact map_flatten_escape ih (pairedChar n m)
  | case4 n hhigh m rest hlow =>
      simp [Piece.inBytes, Piece.decode?, hhigh, hlow]
  | case5 n rest hhigh hrest =>
      -- What follows the unit starts with no other unit, and neither do its bytes.
      rw [List.flatMap_cons, Piece.inBytes, List.singleton_append]
      cases rest with
      | nil => simp [Piece.decode?, hhigh]
      | cons p rest =>
          cases p with
          | unit m => exact absurd rfl (hrest m rest)
          | char c =>
              obtain ⟨first, bytes, hcons⟩ := List.exists_cons_of_ne_nil (bytesOf_ne_nil c)
              simp [Piece.inBytes, hcons, Piece.decode?, hhigh]
  | case6 n rest hhigh hlow =>
      rw [List.flatMap_cons, Piece.inBytes, List.singleton_append, Piece.decode?.eq_def,
        Piece.decode?.eq_def]
      simp [hhigh, hlow]
  | case7 n rest hhigh hlow ih =>
      rw [List.flatMap_cons, Piece.inBytes, List.singleton_append, decode?_single _ _ hhigh hlow,
        decode?_single _ _ hhigh hlow]
      exact map_flatten_escape ih (Char.ofNat n)

end DetectorDashboard.Json

namespace DetectorDashboard.ControlServer.ErrorText

open Json

/-- A string is decoded from its bytes as from its characters. -/
theorem ofPieces?_inBytes (pieces : List Piece) :
    ofPieces? (pieces.flatMap Piece.inBytes) = Piece.text? pieces := by
  have hbytes := decode?_inBytes pieces
  rw [ofPieces?, Piece.text?]
  cases hdecode : Piece.decode? id id pieces with
  | none =>
      rw [hdecode] at hbytes
      rw [Option.map_eq_none_iff.mp hbytes]
      rfl
  | some cs =>
      rw [hdecode] at hbytes
      obtain ⟨bytes, hread, hflatten⟩ := Option.map_eq_some_iff.mp hbytes
      simp only [hread, hflatten, Option.bind_eq_bind, Option.bind_some,
        Text.Utf8.decode?_eq_some_iff.mpr rfl, Option.map_some]

end DetectorDashboard.ControlServer.ErrorText
