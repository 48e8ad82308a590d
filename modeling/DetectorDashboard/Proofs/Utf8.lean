import Mathlib.Tactic.IntervalCases
import DetectorDashboard.Text.Percent

/-! UTF-8 is read back. Reading the bytes of a text, one at a time, gives the characters of the text
and nothing else, whatever bytes follow them; and bytes that are read without a fault are the bytes
of the text that is read. -/

namespace DetectorDashboard.Text.Utf8

theorem toNat_byte {n : Nat} (h : n < 256) : (UInt8.ofNat n).toNat = n :=
  UInt8.toNat_ofNat_of_lt' h

/-! ### First bytes -/

theorem lead_one {n : Nat} (h : n < 0x80) :
    lead (UInt8.ofNat n) = .character (Char.ofNat n) := by
  simp only [lead, toNat_byte (n := n) (by omega), if_pos h]

theorem lead_two {n : Nat} (hlow : 0xC2 ≤ n) (hhigh : n < 0xE0) :
    lead (UInt8.ofNat n) = .start ⟨0, 0x80, 0xBF, n - 0xC0⟩ := by
  simp only [lead, toNat_byte (n := n) (by omega), if_pos hhigh]
  rw [if_neg (by omega), if_neg (by omega)]

/-- The second byte is restricted where it could give an overlong form or a surrogate. -/
theorem lead_three {n : Nat} (hlow : 0xE0 ≤ n) (hhigh : n < 0xF0) :
    lead (UInt8.ofNat n) =
      .start ⟨1, if n = 0xE0 then 0xA0 else 0x80, if n = 0xED then 0x9F else 0xBF, n - 0xE0⟩ := by
  interval_cases n <;> rfl

/-- The second byte is restricted where it could give an overlong form or no character. -/
theorem lead_four {n : Nat} (hlow : 0xF0 ≤ n) (hhigh : n < 0xF5) :
    lead (UInt8.ofNat n) =
      .start ⟨2, if n = 0xF0 then 0x90 else 0x80, if n = 0xF4 then 0x8F else 0xBF, n - 0xF0⟩ := by
  interval_cases n <;> rfl

theorem scan_lead {b : UInt8} {p : Partial} (rest : List UInt8) (h : lead b = .start p) :
    scan none (b :: rest) = scan (some p) rest := by
  rw [scan, h]

/-! ### Tail bytes -/

theorem inRange {low high : UInt8} {n : Nat} (hn : n < 256) (hlow : low.toNat ≤ n)
    (hhigh : n ≤ high.toNat) : low ≤ UInt8.ofNat n ∧ UInt8.ofNat n ≤ high := by
  rw [UInt8.le_iff_toNat_le, UInt8.le_iff_toNat_le, toNat_byte hn]
  exact ⟨hlow, hhigh⟩

/-- The last tail byte completes a character. -/
theorem scan_last {n bits : Nat} (rest : List UInt8) (hlow : 0x80 ≤ n) (hhigh : n ≤ 0xBF) :
    scan (some ⟨0, 0x80, 0xBF, bits⟩) (UInt8.ofNat n :: rest) =
      some (Char.ofNat (bits * 64 + (n - 0x80))) :: scan none rest := by
  rw [scan, if_pos (inRange (by omega) hlow hhigh), toNat_byte (by omega)]

theorem scan_tail {owed n bits : Nat} {low high : UInt8} (rest : List UInt8) (hn : n < 256)
    (hlow : low.toNat ≤ n) (hhigh : n ≤ high.toNat) :
    scan (some ⟨owed + 1, low, high, bits⟩) (UInt8.ofNat n :: rest) =
      scan (some ⟨owed, 0x80, 0xBF, bits * 64 + (n - 0x80)⟩) rest := by
  rw [scan, if_pos (inRange hn hlow hhigh), toNat_byte hn]

/-! ### Characters and texts -/

theorem encodeChar_of_narrow {c : Char} (h : c.toNat < 0x80) :
    String.utf8EncodeChar c = [UInt8.ofNat c.toNat] := by
  simp only [String.utf8EncodeChar]
  exact if_pos (Nat.le_of_lt_succ h)

/-- A character of several bytes has none that is a character of its own. -/
theorem wide_of_mem_encodeChar {c : Char} (h : 0x80 ≤ c.toNat) :
    ∀ b ∈ String.utf8EncodeChar c, 0x80 ≤ b.toNat := by
  have hbyte {n : Nat} (hlow : 0x80 ≤ n) (hhigh : n < 256) : 0x80 ≤ (UInt8.ofNat n).toNat := by
    rwa [toNat_byte hhigh]
  change 0x80 ≤ c.val.toNat at h
  simp only [String.utf8EncodeChar]
  rw [if_neg (by omega)]
  split_ifs
  all_goals simp only [List.mem_cons, List.not_mem_nil, or_false, forall_eq_or_imp, forall_eq]
  · exact ⟨hbyte (by omega) (by omega), hbyte (by omega) (by omega)⟩
  · exact ⟨hbyte (by omega) (by omega), hbyte (by omega) (by omega), hbyte (by omega) (by omega)⟩
  · exact ⟨hbyte (by omega) (by omega), hbyte (by omega) (by omega), hbyte (by omega) (by omega),
      hbyte (by omega) (by omega)⟩

theorem scan_encodeChar (c : Char) (rest : List UInt8) :
    scan none (String.utf8EncodeChar c ++ rest) = some c :: scan none rest := by
  have hvalid : c.val.toNat < 0xD800 ∨ 0xDFFF < c.val.toNat ∧ c.val.toNat < 0x110000 := c.valid
  have hread {n : Nat} (h : n = c.val.toNat) : Char.ofNat n = c := h ▸ Char.ofNat_toNat c
  simp only [String.utf8EncodeChar]
  generalize c.val.toNat = v at hvalid hread ⊢
  split
  · rw [List.singleton_append, scan, lead_one (by omega)]
    exact congrArg (some · :: _) (hread rfl)
  split
  · simp only [List.cons_append, List.nil_append]
    rw [scan_lead _ (lead_two (by omega) (by omega)), scan_last _ (by omega) (by omega),
      hread (by omega)]
  split
  · simp only [List.cons_append, List.nil_append]
    rw [scan_lead _ (lead_three (by omega) (by omega)), scan_tail _ (by omega) ?_ ?_,
      scan_last _ (by omega) (by omega), hread (by omega)]
    · split
      · change 0xA0 ≤ _
        omega
      · change 0x80 ≤ _
        omega
    · split
      · change _ ≤ 0x9F
        omega
      · change _ ≤ 0xBF
        omega
  · simp only [List.cons_append, List.nil_append]
    rw [scan_lead _ (lead_four (by omega) (by omega)), scan_tail _ (by omega) ?_ ?_,
      scan_tail _ (by omega) (by change 0x80 ≤ _; omega) (by change _ ≤ 0xBF; omega),
      scan_last _ (by omega) (by omega), hread (by omega)]
    · split
      · change 0x90 ≤ _
        omega
      · change 0x80 ≤ _
        omega
    · split
      · change _ ≤ 0x8F
        omega
      · change _ ≤ 0xBF
        omega

theorem scan_encode (cs : List Char) (rest : List UInt8) :
    scan none (encode cs ++ rest) = cs.map some ++ scan none rest := by
  induction cs with
  | nil => rfl
  | cons c cs ih =>
      rw [encode, List.flatMap_cons, List.append_assoc, scan_encodeChar, List.map_cons,
        List.cons_append]
      exact congrArg (some c :: ·) ih

theorem repair_encode (cs : List Char) : repair (encode cs) = cs := by
  have hscan := scan_encode cs []
  rw [List.append_nil] at hscan
  simp [repair, hscan, scan]

theorem encode_cons (c : Char) (cs : List Char) :
    encode (c :: cs) = String.utf8EncodeChar c ++ encode cs :=
  List.flatMap_cons

theorem encode_append (cs ds : List Char) : encode (cs ++ ds) = encode cs ++ encode ds :=
  List.flatMap_append

theorem mapM_id_eq_some_iff {α : Type} {xs : List (Option α)} {ys : List α} :
    xs.mapM id = some ys ↔ xs = ys.map some := by
  induction xs generalizing ys with
  | nil => cases ys <;> simp
  | cons x xs ih =>
      rw [List.mapM_cons]
      constructor
      · intro h
        obtain ⟨z, hz, h⟩ := Option.bind_eq_some_iff.mp h
        obtain ⟨zs, hzs, h⟩ := Option.bind_eq_some_iff.mp h
        obtain rfl : z :: zs = ys := Option.some.inj h
        rw [List.map_cons, ← ih.mp hzs]
        exact congrArg (· :: xs) hz
      · intro h
        obtain ⟨z, zs, rfl, rfl, hzs⟩ := List.map_eq_cons_iff.mp h.symm
        rw [ih.mpr hzs.symm]
        rfl

/-! ### Bytes and texts -/

/-- A character is found again by its number. -/
theorem toNat_val_ofNat {v : Nat} (h : v < 0xD800 ∨ 0xDFFF < v ∧ v < 0x110000) :
    (Char.ofNat v).val.toNat = v := by
  have hvalid : v.isValidChar := h
  rw [Char.ofNat, dif_pos hvalid]
  rfl

/-- The bytes that have been read of a character spell it together with any tail bytes in range. -/
def Completes : Nat → List UInt8 → UInt8 → UInt8 → Nat → Prop
  | 0, read, low, high, bits => ∀ n < 256, low.toNat ≤ n → n ≤ high.toNat →
    String.utf8EncodeChar (Char.ofNat (bits * 64 + (n - 0x80))) = read ++ [UInt8.ofNat n]
  | owed + 1, read, low, high, bits => ∀ n < 256, low.toNat ≤ n → n ≤ high.toNat →
    Completes owed (read ++ [UInt8.ofNat n]) 0x80 0xBF (bits * 64 + (n - 0x80))

theorem completes_two {n : Nat} (hlow : 0xC2 ≤ n) (hhigh : n < 0xE0) :
    Completes 0 [UInt8.ofNat n] 0x80 0xBF (n - 0xC0) := by
  intro t _ (ht : 0x80 ≤ t) (ht' : t ≤ 0xBF)
  generalize hv : (n - 0xC0) * 64 + (t - 0x80) = v
  have hfirst : v / 64 % 32 + 0xC0 = n := by omega
  have hlast : v % 64 + 0x80 = t := by omega
  simp only [String.utf8EncodeChar]
  rw [toNat_val_ofNat (by omega), if_neg (by omega), if_pos (by omega), hfirst, hlast]
  rfl

theorem completes_three {n : Nat} (hlow : 0xE0 ≤ n) (hhigh : n < 0xF0) :
    Completes 1 [UInt8.ofNat n] (if n = 0xE0 then 0xA0 else 0x80)
      (if n = 0xED then 0x9F else 0xBF) (n - 0xE0) := by
  intro t _ ht ht' u _ (hu : 0x80 ≤ u) (hu' : u ≤ 0xBF)
  have hleast : 0x80 ≤ t ∧ (n = 0xE0 → 0xA0 ≤ t) := by
    split at ht
    all_goals
      simp only [UInt8.reduceToNat] at ht
      omega
  have hmost : t ≤ 0xBF ∧ (n = 0xED → t ≤ 0x9F) := by
    split at ht'
    all_goals
      simp only [UInt8.reduceToNat] at ht'
      omega
  generalize hv : ((n - 0xE0) * 64 + (t - 0x80)) * 64 + (u - 0x80) = v
  have hfirst : v / 4096 % 16 + 0xE0 = n := by omega
  have hmiddle : v / 64 % 64 + 0x80 = t := by omega
  have hlast : v % 64 + 0x80 = u := by omega
  simp only [String.utf8EncodeChar]
  rw [toNat_val_ofNat (by omega), if_neg (by omega), if_neg (by omega), if_pos (by omega), hfirst,
    hmiddle, hlast]
  rfl

theorem completes_four {n : Nat} (hlow : 0xF0 ≤ n) (hhigh : n < 0xF5) :
    Completes 2 [UInt8.ofNat n] (if n = 0xF0 then 0x90 else 0x80)
      (if n = 0xF4 then 0x8F else 0xBF) (n - 0xF0) := by
  intro t _ ht ht' u _ (hu : 0x80 ≤ u) (hu' : u ≤ 0xBF) w _ (hw : 0x80 ≤ w) (hw' : w ≤ 0xBF)
  have hleast : 0x80 ≤ t ∧ (n = 0xF0 → 0x90 ≤ t) := by
    split at ht
    all_goals
      simp only [UInt8.reduceToNat] at ht
      omega
  have hmost : t ≤ 0xBF ∧ (n = 0xF4 → t ≤ 0x8F) := by
    split at ht'
    all_goals
      simp only [UInt8.reduceToNat] at ht'
      omega
  generalize hv : (((n - 0xF0) * 64 + (t - 0x80)) * 64 + (u - 0x80)) * 64 + (w - 0x80) = v
  have hfirst : v / 262144 % 8 + 0xF0 = n := by omega
  have hsecond : v / 4096 % 64 + 0x80 = t := by omega
  have hthird : v / 64 % 64 + 0x80 = u := by omega
  have hlast : v % 64 + 0x80 = w := by omega
  simp only [String.utf8EncodeChar]
  rw [toNat_val_ofNat (by omega), if_neg (by omega), if_neg (by omega), if_neg (by omega), hfirst,
    hsecond, hthird, hlast]
  rfl

theorem lead_illFormed {n : Nat} (hn : n < 256) (h : 0x80 ≤ n ∧ n < 0xC2 ∨ 0xF5 ≤ n) :
    lead (UInt8.ofNat n) = .illFormed := by
  simp only [lead, toNat_byte hn]
  rw [if_neg (by omega)]
  rcases h with ⟨-, hsmall⟩ | hlarge
  · rw [if_pos hsmall]
  · iterate 8 rw [if_neg (by omega)]

/-- What a first byte means agrees with the bytes of the characters. -/
theorem lead_sound (b : UInt8) : match lead b with
    | .character c => String.utf8EncodeChar c = [b]
    | .start p => Completes p.owed [b] p.low p.high p.bits
    | .illFormed => True := by
  have hbyte : b.toNat < 256 := b.toNat_lt
  rw [← UInt8.ofNat_toNat (x := b)]
  generalize b.toNat = n at hbyte ⊢
  rcases Nat.lt_or_ge n 0x80 with hone | hone
  · rw [lead_one hone]
    simp only [String.utf8EncodeChar]
    rw [toNat_val_ofNat (by omega), if_pos (by omega)]
  rcases Nat.lt_or_ge n 0xC2 with htail | htail
  · rw [lead_illFormed hbyte (.inl ⟨hone, htail⟩)]
    trivial
  rcases Nat.lt_or_ge n 0xE0 with htwo | htwo
  · rw [lead_two htail htwo]
    exact completes_two htail htwo
  rcases Nat.lt_or_ge n 0xF0 with hthree | hthree
  · rw [lead_three htwo hthree]
    exact completes_three htwo hthree
  rcases Nat.lt_or_ge n 0xF5 with hfour | hfour
  · rw [lead_four hthree hfour]
    exact completes_four hthree hfour
  · rw [lead_illFormed hbyte (.inr hfour)]
    trivial

/-- The bytes read since the last character, in the state in which they leave the reading. -/
inductive Unfinished : Option Partial → List UInt8 → Prop
  | between : Unfinished none []
  | inside {p : Partial} {read : List UInt8} :
    Completes p.owed read p.low p.high p.bits → Unfinished (some p) read

theorem none_cons_ne_map_some (xs : List (Option Char)) (cs : List Char) :
    none :: xs ≠ cs.map some := by
  cases cs <;> simp

theorem encode_of_scan {p? : Option Partial} {read bytes : List UInt8} {cs : List Char}
    (hread : Unfinished p? read) (h : scan p? bytes = cs.map some) :
    encode cs = read ++ bytes := by
  induction bytes generalizing p? read cs with
  | nil =>
      cases hread with
      | between =>
          obtain rfl := List.map_eq_nil_iff.mp h.symm
          rfl
      | inside _ => exact absurd h (none_cons_ne_map_some _ _)
  | cons b rest ih =>
      cases hread with
      | between =>
          have hsound := lead_sound b
          rw [scan] at h
          cases hlead : lead b with
          | character c =>
              rw [hlead] at h hsound
              obtain ⟨d, ds, rfl, hd, hds⟩ := List.map_eq_cons_iff.mp h.symm
              obtain rfl := Option.some.inj hd
              rw [encode_cons, hsound, ih .between hds.symm]
              rfl
          | start p =>
              rw [hlead] at h hsound
              exact ih (.inside hsound) h
          | illFormed =>
              rw [hlead] at h
              exact absurd h (none_cons_ne_map_some _ _)
      | @inside p _ hcompletes =>
          obtain ⟨owed, low, high, bits⟩ := p
          rw [scan] at h
          split at h
          case isFalse => exact absurd h (none_cons_ne_map_some _ _)
          case isTrue hrange =>
            have hlow := UInt8.le_iff_toNat_le.mp hrange.1
            have hhigh := UInt8.le_iff_toNat_le.mp hrange.2
            cases owed with
            | zero =>
                have hlast := hcompletes b.toNat b.toNat_lt hlow hhigh
                rw [UInt8.ofNat_toNat] at hlast
                dsimp only at h
                generalize Char.ofNat (bits * 64 + (b.toNat - 0x80)) = c at h hlast
                obtain ⟨d, ds, rfl, hd, hds⟩ := List.map_eq_cons_iff.mp h.symm
                obtain rfl := Option.some.inj hd
                rw [encode_cons, ih .between hds.symm, hlast, List.append_assoc]
                rfl
            | succ owed =>
                have hnext := hcompletes b.toNat b.toNat_lt hlow hhigh
                rw [UInt8.ofNat_toNat] at hnext
                rw [ih (.inside hnext) h, List.append_assoc]
                rfl

/-- Bytes that are read as a text are the bytes of that text. -/
theorem decode?_eq_some_iff {bytes : List UInt8} {cs : List Char} :
    decode? bytes = some cs ↔ bytes = encode cs := by
  constructor
  · intro h
    exact (encode_of_scan .between (mapM_id_eq_some_iff.mp h)).symm
  · rintro rfl
    have hscan := scan_encode cs []
    rw [List.append_nil] at hscan
    rw [decode?, hscan, scan, List.append_nil]
    exact mapM_id_eq_some_iff.mpr rfl

/-- Bytes that spell a text are not repaired. -/
theorem repair_of_decode? {bytes : List UInt8} {cs : List Char} (h : decode? bytes = some cs) :
    repair bytes = cs := by
  rw [decode?_eq_some_iff.mp h, repair_encode]

end DetectorDashboard.Text.Utf8
