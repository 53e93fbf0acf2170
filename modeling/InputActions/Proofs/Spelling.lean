import InputActions.ViewportText
import Mathlib.Data.List.DropRight

/-!
# How viewports are spelled

Which texts stand for a viewport, as judgments that say nothing of the order in which a text is read
or of what is wrong with another one: two positive numerals with a cross between them, and blanks
around either. Every reader accepts what its judgment does, and gives what is denoted
(`Viewport.ofText_eq_ok_iff`). What a viewport is shown as is one of its spellings, so it reads
back.
-/
namespace InputActions

namespace Text.Integer

/-! ### Digits -/

/-- Decimal digits, of which there is at least one, and the number they denote. -/
structure Decimal (text : List Char) (value : Nat) : Prop where
  inhabited : text ≠ []
  digits : ∀ c ∈ text, c.isDigit = true
  denoted : Nat.ofDigitChars 10 text 0 = value

theorem digit?_of_isDigit {c : Char} (h : c.isDigit = true) :
    digit? c = some (c.toNat - '0'.toNat) :=
  if_pos (by simpa [Char.isDigit, Char.le_def] using h)

theorem digit?_of_not_isDigit {c : Char} (h : c.isDigit = false) : digit? c = none :=
  if_neg (by simpa [Char.isDigit, Char.le_def] using h)

/-- A number only grows with the digits behind it. -/
theorem le_ofDigitChars (value : Nat) (text : List Char) :
    value ≤ Nat.ofDigitChars 10 text value := by
  rw [Nat.ofDigitChars_eq_ofDigitChars_zero]
  exact (Nat.le_mul_of_pos_left value (Nat.pow_pos (by decide))).trans (Nat.le_add_right ..)

theorem readDigits_eq_ok_iff {bound value : Nat} {beyond : Fault} {text : List Char} {n : Nat}
    (fits : value ≤ bound) :
    readDigits bound beyond value text = .ok n ↔
      (∀ c ∈ text, c.isDigit = true) ∧ Nat.ofDigitChars 10 text value = n ∧ n ≤ bound := by
  induction text generalizing value with
  | nil =>
    simp only [readDigits, Except.ok.injEq, List.not_mem_nil, Nat.ofDigitChars_nil]
    constructor
    · rintro rfl
      exact ⟨nofun, rfl, fits⟩
    · exact fun h => h.2.1
  | cons c text ih =>
    rw [Nat.ofDigitChars_cons, List.forall_mem_cons, readDigits]
    cases digit : c.isDigit with
    | false => simp [digit?_of_not_isDigit digit]
    | true =>
      simp only [digit?_of_isDigit digit, true_and]
      split
      next further => exact ih further
      next beyond =>
        -- The digits to come leave the number as large as it is.
        have grows := le_ofDigitChars (10 * value + (c.toNat - '0'.toNat)) text
        simp only [reduceCtorEq, false_iff]
        rintro ⟨-, rfl, small⟩
        exact beyond (grows.trans small)

theorem readMagnitude_eq_ok_iff {bound : Nat} {beyond : Fault} {text : List Char} {n : Nat} :
    readMagnitude bound beyond text = .ok n ↔ Decimal text n ∧ n ≤ bound := by
  cases text with
  | nil => exact ⟨nofun, fun h => absurd rfl h.1.inhabited⟩
  | cons c text =>
    rw [readMagnitude, readDigits_eq_ok_iff (Nat.zero_le bound)]
    · exact ⟨fun ⟨digits, denoted, fits⟩ => ⟨⟨nofun, digits, denoted⟩, fits⟩,
        fun ⟨decimal, fits⟩ => ⟨decimal.digits, decimal.denoted, fits⟩⟩
    · exact nofun

/-! ### Signs -/

/-- An integer in decimal digits, with or without a sign in front. -/
inductive Numeral : List Char → Int → Prop
  | unsigned {text : List Char} {value : Nat} (decimal : Decimal text value) : Numeral text value
  | plus {text : List Char} {value : Nat} (decimal : Decimal text value) :
      Numeral ('+' :: text) value
  | minus {text : List Char} {value : Nat} (decimal : Decimal text value) :
      Numeral ('-' :: text) (-value)

namespace Numeral

theorem mem {text : List Char} {n : Int} (h : Numeral text n) {c : Char} (member : c ∈ text) :
    c = '+' ∨ c = '-' ∨ c.isDigit = true := by
  cases h with
  | unsigned decimal => exact Or.inr (Or.inr (decimal.digits c member))
  | plus decimal =>
    rcases List.mem_cons.mp member with sign | digit
    · exact Or.inl sign
    · exact Or.inr (Or.inr (decimal.digits c digit))
  | minus decimal =>
    rcases List.mem_cons.mp member with sign | digit
    · exact Or.inr (Or.inl sign)
    · exact Or.inr (Or.inr (decimal.digits c digit))

theorem ne_nil {text : List Char} {n : Int} (h : Numeral text n) : text ≠ [] := by
  cases h with
  | unsigned decimal => exact decimal.inhabited
  | plus decimal => exact List.cons_ne_nil _ _
  | minus decimal => exact List.cons_ne_nil _ _

theorem plus_iff {text : List Char} {n : Int} :
    Numeral ('+' :: text) n ↔ ∃ value : Nat, Decimal text value ∧ (value : Int) = n := by
  constructor
  · intro h
    cases h with
    | unsigned decimal => cases decimal.digits '+' List.mem_cons_self
    | plus decimal => exact ⟨_, decimal, rfl⟩
  · rintro ⟨value, decimal, rfl⟩
    exact .plus decimal

theorem minus_iff {text : List Char} {n : Int} :
    Numeral ('-' :: text) n ↔ ∃ value : Nat, Decimal text value ∧ -(value : Int) = n := by
  constructor
  · intro h
    cases h with
    | unsigned decimal => cases decimal.digits '-' List.mem_cons_self
    | minus decimal => exact ⟨_, decimal, rfl⟩
  · rintro ⟨value, decimal, rfl⟩
    exact .minus decimal

theorem unsigned_iff {text : List Char} (plus : ∀ rest, text ≠ '+' :: rest)
    (minus : ∀ rest, text ≠ '-' :: rest) {n : Int} :
    Numeral text n ↔ ∃ value : Nat, Decimal text value ∧ (value : Int) = n := by
  constructor
  · intro h
    cases h with
    | unsigned decimal => exact ⟨_, decimal, rfl⟩
    | plus decimal => exact absurd rfl (plus _)
    | minus decimal => exact absurd rfl (minus _)
  · rintro ⟨value, decimal, rfl⟩
    exact .unsigned decimal

end Numeral

/-- A magnitude that is given a sign. -/
theorem map_readMagnitude_eq_ok_iff {bound : Nat} {beyond : Fault} {text : List Char}
    {sign : Nat → Int} {n : Int} :
    (readMagnitude bound beyond text).map sign = .ok n ↔
      ∃ value, (Decimal text value ∧ value ≤ bound) ∧ sign value = n := by
  have read (value : Nat) :
      (Decimal text value ∧ value ≤ bound) ↔ readMagnitude bound beyond text = .ok value :=
    readMagnitude_eq_ok_iff.symm
  simp only [read]
  cases readMagnitude bound beyond text <;> simp [Except.map]

/-- The sign can be given to a magnitude once it is read. -/
theorem readSigned_minus (least greatest : Nat) (text : List Char) :
    readSigned least greatest ('-' :: text) =
      (readMagnitude least .tooSmall text).map fun value : Nat => -(value : Int) := by
  rw [readSigned]
  cases readMagnitude least .tooSmall text <;> rfl

theorem readSigned_eq_ok_iff {least greatest : Nat} {text : List Char} {n : Int} :
    readSigned least greatest text = .ok n ↔ Numeral text n ∧ -least ≤ n ∧ n ≤ greatest := by
  have natural (digits : List Char) :
      (readMagnitude greatest .tooLarge digits).map Int.ofNat = .ok n ↔
        (∃ value : Nat, Decimal digits value ∧ (value : Int) = n) ∧ -least ≤ n ∧ n ≤ greatest := by
    rw [map_readMagnitude_eq_ok_iff]
    constructor
    · rintro ⟨value, ⟨decimal, fits⟩, rfl⟩
      exact ⟨⟨value, decimal, rfl⟩, Int.neg_natCast_le_natCast .., Int.ofNat_le.mpr fits⟩
    · rintro ⟨⟨value, decimal, rfl⟩, -, fits⟩
      exact ⟨value, ⟨decimal, Int.ofNat_le.mp fits⟩, rfl⟩
  unfold readSigned
  split
  · exact ⟨nofun, fun h => absurd rfl h.1.ne_nil⟩
  next digits => rw [natural, Numeral.plus_iff]
  next digits =>
    change readSigned least greatest ('-' :: digits) = .ok n ↔ _
    rw [readSigned_minus, map_readMagnitude_eq_ok_iff, Numeral.minus_iff]
    constructor
    · rintro ⟨value, ⟨decimal, fits⟩, rfl⟩
      exact ⟨⟨value, decimal, rfl⟩, by omega, by omega⟩
    · rintro ⟨⟨value, decimal, rfl⟩, fits, -⟩
      exact ⟨value, ⟨decimal, by omega⟩, rfl⟩
  next plus minus => rw [natural, Numeral.unsigned_iff plus minus]

theorem readInt64_eq_ok_iff {text : List Char} {word : Int64} :
    readInt64 text = .ok word ↔ Numeral text word.toInt := by
  have least : -(Word.leastSigned : Int) = Int64.minValue.toInt := by decide
  have greatest : (Word.greatestSigned : Int) = Int64.maxValue.toInt := by decide
  have within : -(Word.leastSigned : Int) ≤ word.toInt ∧ word.toInt ≤ Word.greatestSigned := by
    rw [least, greatest]
    exact ⟨Int64.minValue_le_toInt word, Int64.toInt_le word⟩
  unfold readInt64
  cases read : readSigned Word.leastSigned Word.greatestSigned text with
  | error fault =>
    -- Every word is within the bounds, so a numeral of one would have been read.
    simp only [Except.map, reduceCtorEq, false_iff]
    intro numeral
    cases read.symm.trans (readSigned_eq_ok_iff.mpr ⟨numeral, within⟩)
  | ok n =>
    obtain ⟨numeral, low, high⟩ := readSigned_eq_ok_iff.mp read
    rw [least] at low
    rw [greatest] at high
    simp only [Except.map, Except.ok.injEq]
    constructor
    · rintro rfl
      rwa [Int64.toInt_ofInt_of_le low (by rw [Int64.toInt_maxValue] at high; omega)]
    · intro same
      cases read.symm.trans (readSigned_eq_ok_iff.mpr ⟨same, within⟩)
      exact Int64.ofInt_toInt word

/-- What is written of an integer is a numeral of it. -/
theorem numeral_intChars (n : Int) : Numeral (intChars n) n := by
  have written (value : Nat) : Decimal (natChars value) value :=
    ⟨Nat.toDigits_ne_nil,
      fun _ member => Nat.isDigit_of_mem_toDigits (by decide) (by decide) member,
      Nat.ofDigitChars_ten_toDigits⟩
  cases n with
  | ofNat value => exact .unsigned (written value)
  | negSucc value => exact .minus (written (value + 1))

end Text.Integer

/-! ### Blanks -/

namespace Text

theorem isBlank_of_isDigit {c : Char} (h : c.isDigit = true) : isBlank c = false := by
  have zero : '0'.toNat = 48 := rfl
  have nine : '9'.toNat = 57 := rfl
  rw [Char.isDigit_iff_toNat, zero, nine] at h
  simp [isBlank, Property.blank, Ranges.holds]
  omega

/-- A text is blanks, what trimming leaves, and blanks. -/
theorem exists_trim (text : List Char) : ∃ before after, text = before ++ trim text ++ after ∧
    (∀ c ∈ before, isBlank c = true) ∧ ∀ c ∈ after, isBlank c = true := by
  refine ⟨text.takeWhile isBlank, (dropBlanks text).rtakeWhile isBlank, ?_,
    fun _ => List.mem_takeWhile_imp, fun _ => List.mem_rtakeWhile_imp⟩
  have inner : trim text ++ (dropBlanks text).rtakeWhile isBlank = dropBlanks text :=
    List.rdropWhile_append_rtakeWhile
  rw [List.append_assoc, inner]
  exact List.takeWhile_append_dropWhile.symm

/-- Trimming leaves a word without blanks as it is, and takes the blanks around it. -/
theorem trim_word {before word after : List Char} (leading : ∀ c ∈ before, isBlank c = true)
    (trailing : ∀ c ∈ after, isBlank c = true) (inhabited : word ≠ [])
    (solid : ∀ c ∈ word, isBlank c = false) : trim (before ++ word ++ after) = word := by
  -- Used once from either end: nothing is dropped from a word, whatever is behind it.
  have drops (word rest : List Char) (inhabited : word ≠ [])
      (solid : ∀ c ∈ word, isBlank c = false) : dropBlanks (word ++ rest) = word ++ rest := by
    obtain ⟨c, word, rfl⟩ := List.exists_cons_of_ne_nil inhabited
    exact List.dropWhile_cons_of_neg (by simp [solid c List.mem_cons_self])
  have left : dropBlanks (before ++ word ++ after) = word ++ after := by
    rw [List.append_assoc, dropBlanks, List.dropWhile_append_of_pos leading]
    exact drops word after inhabited solid
  have right : dropBlanks (word ++ after).reverse = word.reverse := by
    rw [List.reverse_append, dropBlanks, List.dropWhile_append_of_pos (by simpa using trailing),
      ← List.append_nil word.reverse]
    exact drops word.reverse [] (by simpa using inhabited) (by simpa using solid)
  rw [trim, left, right, List.reverse_reverse]

end Text

/-! ### Viewports -/

namespace Viewport

/-- A positive length, with blanks around it. -/
inductive Side (length : Int64) : List Char → Prop
  | mk {before numeral after : List Char} (leading : ∀ c ∈ before, Text.isBlank c = true)
      (denotes : Text.Integer.Numeral numeral length.toInt) (positive : 0 < length)
      (trailing : ∀ c ∈ after, Text.isBlank c = true) : Side length (before ++ numeral ++ after)

/-- A width and a height, with the first cross of the text between them. -/
inductive Spelled (v : Viewport) : List Char → Prop
  | mk {width height : List Char} {cross : Char} (across : Side v.width width)
      (is : cross = 'x' ∨ cross = 'X') (first : 'x' ∉ width ∧ 'X' ∉ width)
      (down : Side v.height height) : Spelled v (width ++ cross :: height)

theorem isSeparator_iff {c : Char} : isSeparator c = true ↔ c = 'x' ∨ c = 'X' := by
  simp [isSeparator]

theorem side_eq_ok_iff {text : List Char} {length : Int64} :
    side text = .ok length ∧ 0 < length ↔ Side length text := by
  rw [side, Text.Integer.readInt64_eq_ok_iff]
  constructor
  · rintro ⟨denotes, positive⟩
    obtain ⟨before, after, whole, leading, trailing⟩ := Text.exists_trim text
    rw [whole]
    exact .mk leading denotes positive trailing
  · rintro ⟨leading, denotes, positive, trailing⟩
    rw [Text.trim_word leading trailing denotes.ne_nil fun c member => ?_]
    · exact ⟨denotes, positive⟩
    · rcases denotes.mem member with rfl | rfl | digit
      · decide
      · decide
      · exact Text.isBlank_of_isDigit digit

theorem halves?_eq_some_iff {text width height : List Char} :
    halves? text = some (width, height) ↔
      ∃ cross, text = width ++ cross :: height ∧ isSeparator cross = true ∧
        ∀ c ∈ width, isSeparator c = false := by
  unfold halves?
  constructor
  · intro h
    split at h
    · cases h
    next cross rest found =>
      cases h
      refine ⟨cross, ?_, ?_, fun c member => by simpa using List.mem_takeWhile_imp member⟩
      · rw [← found]
        exact List.takeWhile_append_dropWhile.symm
      · have stops := List.head?_dropWhile_not (!isSeparator ·) text
        simpa [found] using stops
  · rintro ⟨cross, rfl, separates, first⟩
    -- The text is cut at the cross, since nothing before it separates.
    have before : ∀ c ∈ width, (!isSeparator c) = true := by simpa using first
    have stops : ¬ (!isSeparator cross) = true := by simp [separates]
    rw [List.dropWhile_append_of_pos before,
      List.dropWhile_cons_of_neg (p := (!isSeparator ·)) stops,
      List.takeWhile_append_of_pos before,
      List.takeWhile_cons_of_neg (p := (!isSeparator ·)) stops, List.append_nil]

/-- Reading succeeds when either half is read and is positive. -/
theorem ofText_eq_ok_iff_halves {text : String} {v : Viewport} :
    ofText text = .ok v ↔ ∃ width height, halves? text.toList = some (width, height) ∧
      (side width = .ok v.width ∧ 0 < v.width) ∧ side height = .ok v.height ∧ 0 < v.height := by
  obtain ⟨w, h⟩ := v
  unfold ofText
  cases halves? text.toList with
  | none => simp
  | some halves =>
    obtain ⟨width, height⟩ := halves
    cases across : side width with
    | error fault => simp [across, Except.mapError, bind, Except.bind]
    | ok a =>
      cases down : side height with
      | error fault => simp [across, down, Except.mapError, bind, Except.bind]
      | ok b =>
        simp only [across, down, Except.mapError, bind, Except.bind, Option.some.injEq,
          Prod.mk.injEq]
        constructor
        · intro read
          split at read
          next positive =>
            cases read
            exact ⟨width, height, ⟨rfl, rfl⟩, ⟨across, positive.1⟩, down, positive.2⟩
          · cases read
        · rintro ⟨_, _, ⟨rfl, rfl⟩, ⟨left, wide⟩, right, high⟩
          cases across.symm.trans left
          cases down.symm.trans right
          exact if_pos ⟨wide, high⟩

theorem ofText_eq_ok_iff {text : String} {v : Viewport} :
    ofText text = .ok v ↔ Spelled v text.toList := by
  rw [ofText_eq_ok_iff_halves]
  constructor
  · rintro ⟨width, height, found, across, down⟩
    obtain ⟨cross, whole, separates, first⟩ := halves?_eq_some_iff.mp found
    rw [whole]
    refine .mk (side_eq_ok_iff.mp across) (isSeparator_iff.mp separates) ⟨?_, ?_⟩
      (side_eq_ok_iff.mp down)
    · exact fun member => absurd (first 'x' member) (by decide)
    · exact fun member => absurd (first 'X' member) (by decide)
  · intro spelled
    generalize text.toList = chars at spelled
    obtain ⟨across, is, first, down⟩ := spelled
    refine ⟨_, _, halves?_eq_some_iff.mpr ⟨_, rfl, isSeparator_iff.mpr is, fun c member => ?_⟩,
      side_eq_ok_iff.mpr across, side_eq_ok_iff.mpr down⟩
    rw [← Bool.not_eq_true, isSeparator_iff]
    rintro (rfl | rfl)
    · exact first.1 member
    · exact first.2 member

/-- A positive number needs no blanks, and there is no cross in it. -/
theorem side_intChars {length : Int64} (positive : 0 < length) :
    Side length (Text.Integer.intChars length.toInt) := by
  simpa using Side.mk (List.forall_mem_nil _) (Text.Integer.numeral_intChars length.toInt) positive
    (List.forall_mem_nil _)

theorem spelled_text {v : Viewport} (across : 0 < v.width) (down : 0 < v.height) :
    Spelled v v.text.toList := by
  have shown : v.text.toList = Text.Integer.intChars v.width.toInt ++
      'x' :: Text.Integer.intChars v.height.toInt := by
    simp [text, Text.Integer.intText]
  have crossless {c : Char} (is : c = 'x' ∨ c = 'X') :
      c ∉ Text.Integer.intChars v.width.toInt := fun member => by
    have digit := (Text.Integer.numeral_intChars v.width.toInt).mem member
    rcases is with rfl | rfl <;> revert digit <;> decide
  rw [shown]
  exact .mk (side_intChars across) (Or.inl rfl)
    ⟨crossless (Or.inl rfl), crossless (Or.inr rfl)⟩ (side_intChars down)

/-- A text is read as a viewport exactly if it is a spelling of it, and what a viewport with
positive sides is shown as reads back. -/
theorem reads_spellings :
    (∀ (text : String) (v : Viewport), ofText text = .ok v ↔ Spelled v text.toList) ∧
      ∀ v : Viewport, 0 < v.width → 0 < v.height → ofText v.text = .ok v := by
  refine ⟨fun _ _ => ofText_eq_ok_iff, fun v across down => ?_⟩
  exact ofText_eq_ok_iff.mpr (spelled_text across down)

/-- Blanks, a sign and leading zeros are no part of what is read, and there is no length too large
to be read back. -/
theorem widest_reads :
    ofText "\t+01024 X 768" = .ok ⟨1024, 768⟩ ∧
      (0 < Int64.maxValue ∧ ofText (⟨Int64.maxValue, 1⟩ : Viewport).text =
        .ok ⟨Int64.maxValue, 1⟩) := by
  have blank {c : Char} (is : Text.isBlank c = true) : ∀ d ∈ [c], Text.isBlank d = true :=
    List.forall_mem_singleton.mpr is
  have across : Side 1024 (['\t'] ++ "+01024".toList ++ [' ']) :=
    .mk (blank rfl) (.plus ⟨nofun, List.all_eq_true.mp rfl, rfl⟩) (by decide) (blank rfl)
  have down : Side 768 ([' '] ++ "768".toList ++ []) :=
    .mk (blank rfl) (.unsigned ⟨nofun, List.all_eq_true.mp rfl, rfl⟩) (by decide) nofun
  have crossless : 'x' ∉ ['\t'] ++ "+01024".toList ++ [' '] ∧
      'X' ∉ ['\t'] ++ "+01024".toList ++ [' '] := by decide
  refine ⟨(reads_spellings.1 _ _).mpr (.mk across (Or.inr rfl) crossless down), by decide, ?_⟩
  exact reads_spellings.2 _ (by decide) (by decide)

end Viewport

end InputActions
