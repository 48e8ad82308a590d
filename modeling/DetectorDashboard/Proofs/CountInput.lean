import DetectorDashboard.Proofs.FloatText
import DetectorDashboard.Proofs.InputFields

/-! Counts as they are typed and as they are sent. A field takes exactly the texts of the numbers that
fit a word of 64 bits: digits, perhaps after a plus sign and with blanks around. What is sent is the
number, in its one text without superfluous digits, however it was typed. -/

namespace DetectorDashboard

open Spelling (IsDigits)
open Text (Trims SpellsUnsigned trim)

/-- Digits of a number, none of them superfluous. -/
structure Text.IsDecimal (cs : List Char) (n : Nat) : Prop where
  isDigits : IsDigits cs
  nonempty : cs ≠ []
  value : Nat.ofDigitChars 10 cs 0 = n
  leading : cs = ['0'] ∨ cs.head? ≠ some '0'

theorem Text.isDecimal_digits (n : Nat) : IsDecimal (digits n) n where
  isDigits _ := Json.isDigit_of_mem_digits
  nonempty := Nat.toDigits_ne_nil
  value := Nat.ofDigitChars_ten_toDigits
  leading := by
    by_cases hzero : n = 0
    · rw [hzero]
      exact .inl rfl
    · exact .inr (Json.head?_digits hzero)

namespace Command

/-- The text of a count, with blanks around it. -/
def SpellsCount (input : String) (n : UInt64) : Prop :=
  ∃ core, Trims input core ∧ SpellsUnsigned core.toList n.toNat

theorem readCount?_eq_some_iff {cs : List Char} {n : UInt64} :
    readCount? cs = some n ↔ SpellsUnsigned cs n.toNat := by
  rw [readCount?, Option.map_eq_some_iff]
  constructor
  · rintro ⟨m, hm, rfl⟩
    obtain ⟨hlt, hspells⟩ := Text.readUnsigned?_eq_some_iff.mp hm
    rwa [UInt64.toNat_ofNat_of_lt' hlt]
  · intro hspells
    refine ⟨n.toNat, Text.readUnsigned?_eq_some_iff.mpr ⟨n.toNat_lt_size, hspells⟩, ?_⟩
    exact UInt64.ofNat_toNat

theorem spellsCount_iff {input : String} {n : UInt64} :
    SpellsCount input n ↔ readCount? (trim input).toList = some n := by
  rw [SpellsCount, Text.exists_trims_iff, readCount?_eq_some_iff]

theorem readsInput_imageCount (input : String) :
    ReadsInput .images .notAnInteger SpellsCount .setImageCount input (imageCount input) :=
  readsInput_readField rfl (fun _ => spellsCount_iff) .setImageCount

theorem readsInput_writer (frames path filename : String) :
    ReadsInput .frames .notAnInteger SpellsCount (.setWriter · (trim path) (trim filename)) frames
      (writer frames path filename) :=
  readsInput_readField rfl (fun _ => spellsCount_iff) _

/-- A count is sent in decimal digits. -/
theorem isDecimal_countBody (n : UInt64) :
    Text.IsDecimal (countBody n).text.toList n.toNat := by
  have hchars : (countBody n).chars = Text.digits n.toNat := List.append_nil _
  rw [Json.toList_text, hchars]
  exact Text.isDecimal_digits n.toNat

end Command

namespace Application

open Command

/-- The inputs that are counts are those that spell a number in 64 bits, and that number is sent, in
digits of which none is superfluous, so that it makes no difference how it was typed. Of the fields
of the file writer the texts are sent without the blanks around them, unless the count cannot be
read: then nothing is sent at all. -/
theorem counts_read_and_sent (a : Application) (images frames path filename : String) :
    let paths := a.dashboard.paths
    let count := imageCount images
    let writer (frames : String) := Command.writer frames path filename
    ReadsInput .images .notAnInteger SpellsCount .setImageCount images count ∧
    ReadsInput .frames .notAnInteger SpellsCount (.setWriter · (trim path) (trim filename)) frames
      (writer frames) ∧
    Trims path (trim path) ∧ Trims filename (trim filename) ∧
    (∀ n, SpellsCount images n →
      Sends a [⟨.put, paths.detector "config/nimages", some (countBody n)⟩] (a.submit count) ∧
      ∀ other, SpellsCount other n → imageCount other = count) ∧
    (∀ n, SpellsCount frames n →
      Sends a
        [ ⟨.put, paths.processorConfig "hdf/frames", some (countBody n)⟩,
          ⟨.put, paths.processorConfig "hdf/file/path", some (.string (trim path))⟩,
          ⟨.put, paths.processorConfig "hdf/file/name", some (.string (trim filename))⟩ ]
        (a.submit (writer frames)) ∧
      ∀ other, SpellsCount other n → writer other = writer frames) ∧
    (∀ n : UInt64, Text.IsDecimal (countBody n).text.toList n.toNat) ∧
    ((∀ n, ¬ SpellsCount images n) → ∃ error, Refuses a error (a.submit count)) ∧
    ((∀ n, ¬ SpellsCount frames n) → ∃ error, Refuses a error (a.submit (writer frames))) := by
  intro paths count writer
  have himages := readsInput_imageCount images
  have hframes (frames : String) := readsInput_writer frames path filename
  refine ⟨himages, hframes frames, Text.trims_trim path, Text.trims_trim filename,
    fun n hn => ⟨?_, fun other hother => ?_⟩, fun n hn => ⟨?_, fun other hother => ?_⟩,
    isDecimal_countBody, fun hnone => ?_, fun hnone => ?_⟩
  · rw [show count = _ from himages.eq_ok hn]
    exact sends_submit a (.setImageCount n)
  · rw [show count = _ from himages.eq_ok hn]
    exact (readsInput_imageCount other).eq_ok hother
  · rw [show writer frames = _ from (hframes frames).eq_ok hn]
    exact sends_submit a (.setWriter n (trim path) (trim filename))
  · rw [show writer frames = _ from (hframes frames).eq_ok hn]
    exact (hframes other).eq_ok hother
  · obtain ⟨error, herror⟩ := himages.exists_error hnone
    rw [show count = _ from herror]
    exact ⟨error, refuses_submit a error⟩
  · obtain ⟨error, herror⟩ := (hframes frames).exists_error hnone
    rw [show writer frames = _ from herror]
    exact ⟨error, refuses_submit a error⟩

/-- The greatest count with a sign, zeros and blanks, and the next number, which is none. -/
theorem counts_at_the_bound :
    let a := ofSettings {} {}
    let typed := "\u00A0+0018446744073709551615\u3000"
    let paths := a.dashboard.paths
    SpellsCount typed 18446744073709551615 ∧
      imageCount typed = imageCount "18446744073709551615" ∧
      Sends a [⟨.put, paths.detector "config/nimages",
        some (countBody 18446744073709551615)⟩] (a.submit (imageCount typed)) ∧
      (countBody 18446744073709551615).text = "18446744073709551615" ∧
      writer "18446744073709551616" "/data" "run" =
        .error (.notAnInteger .frames "18446744073709551616") ∧
      (a.submit (writer "18446744073709551616" "/data" "run")).calls = #[] := by
  intro a typed paths
  have htyped : SpellsCount typed 18446744073709551615 := spellsCount_iff.mpr (by decide +kernel)
  have hplain : SpellsCount "18446744073709551615" 18446744073709551615 :=
    spellsCount_iff.mpr (by decide +kernel)
  have hnone (n : UInt64) : ¬ SpellsCount "18446744073709551616" n := by
    rw [spellsCount_iff]
    have hread : readCount? (trim "18446744073709551616").toList = none := by decide +kernel
    rw [hread]
    exact nofun
  obtain ⟨-, hframes, -, -, himages, -, -, -, hrefuses⟩ :=
    counts_read_and_sent a typed "18446744073709551616" "/data" "run"
  obtain ⟨hsends, hsame⟩ := himages _ htyped
  obtain ⟨error, hrefused⟩ := hrefuses hnone
  have hblank : ¬ Text.AllBlank "18446744073709551616".toList := fun h => by
    simpa [Text.isBlank] using h '1' (by decide)
  exact ⟨htyped, (hsame _ hplain).symm, hsends, by decide +kernel, hframes.eq_refused hblank hnone,
    hrefused.calls⟩

end Application

end DetectorDashboard
