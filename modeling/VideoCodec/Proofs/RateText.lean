import Mathlib
import VideoCodec.Proofs.Reencode
/-!
# The text of a frame rate

A frame rate is read from text (`readFrameRate`): the text is trimmed and cut
at its first point, the fraction is cut after its first two bytes, and the
integer digits with the kept fractional ones are read as a 32-bit numerator
over ten to the number kept. This file says what the reader does with every
text (`readFrameRate_outcome`):

* it reads a rate exactly when the trimmed text is integer digits, optionally
  followed by a point and a fraction whose first two characters (all of them,
  when there are fewer) are digits, and those digits denote a positive 32-bit
  value (`ReadsAsRate`);
* it stops the program exactly when the trimmed text has a point and the text
  after the first one has its second byte inside a character
  (`SplitsAtSecondByte`);
* every other text is refused as an invalid frame rate, quoting it whole.

The fraction is cut in bytes before any of its characters is looked at, and
what follows the cut is never looked at. So `29.97x` and `1.23.4` read as
rates, and `30.1é` stops the program (`trailing_text_read_and_split_character_halts`).
-/

namespace VideoCodec

/-! ### Bytes of UTF-8 -/

@[simp] theorem utf8Length_nil : utf8Length [] = 0 := rfl

@[simp] theorem utf8Length_cons (c : Char) (cs : List Char) :
    utf8Length (c :: cs) = c.utf8Size + utf8Length cs := rfl

/-- A character takes one to four bytes. -/
theorem utf8Size_cases (c : Char) :
    c.utf8Size = 1 ∨ c.utf8Size = 2 ∨ c.utf8Size = 3 ∨ c.utf8Size = 4 := by
  have := c.utf8Size_pos
  have := c.utf8Size_le_four
  omega

/-- Every character takes a byte at least. -/
theorem length_le_utf8Length (cs : List Char) : cs.length ≤ utf8Length cs := by
  induction cs with
  | nil => rfl
  | cons c cs ih =>
    have := c.utf8Size_pos
    simp only [List.length_cons, utf8Length_cons]
    omega

/-- Digits take a byte each. -/
theorem utf8Length_of_digits {cs : List Char} (h : cs.all Char.isDigit = true) :
    utf8Length cs = cs.length := by
  induction cs with
  | nil => rfl
  | cons c cs ih =>
    simp only [List.all_cons, Bool.and_eq_true] at h
    simp [utf8Size_of_isDigit h.1, ih h.2, Nat.add_comm]

@[simp] theorem prefixWithin_zero (cs : List Char) : prefixWithin 0 cs = [] := by
  cases cs with
  | nil => rfl
  | cons c cs =>
    have := c.utf8Size_pos
    simp [prefixWithin]
    omega

/-- What fits in `n` bytes is a prefix. -/
theorem prefixWithin_isPrefix (n : Nat) (cs : List Char) : prefixWithin n cs <+: cs := by
  induction cs generalizing n with
  | nil => exact List.nil_prefix
  | cons c cs ih =>
    unfold prefixWithin
    split
    · exact List.cons_prefix_cons.mpr ⟨rfl, ih _⟩
    · exact List.nil_prefix

/-! ### Cutting the fraction -/

/-- Cutting a text after its second byte falls inside a character: the first
character takes three bytes or more, or it takes one and the next takes two or
more. -/
def SplitsAtSecondByte : List Char → Prop
  | [] => False
  | [c] => 3 ≤ c.utf8Size
  | c :: d :: _ => 3 ≤ c.utf8Size ∨ (c.utf8Size = 1 ∧ 2 ≤ d.utf8Size)

/-- The first two bytes end at a character boundary exactly when the cut splits
no character. -/
theorem utf8Length_prefixWithin_two (r : List Char) :
    utf8Length (prefixWithin 2 r) = min 2 (utf8Length r) ↔ ¬ SplitsAtSecondByte r := by
  match r with
  | [] => simp [prefixWithin, SplitsAtSecondByte]
  | [c] =>
    rcases utf8Size_cases c with hc | hc | hc | hc <;>
      simp [prefixWithin, SplitsAtSecondByte, hc]
  | c :: d :: rest =>
    rcases utf8Size_cases c with hc | hc | hc | hc <;>
    rcases utf8Size_cases d with hd | hd | hd | hd <;>
      simp [prefixWithin, SplitsAtSecondByte, hc, hd] <;> omega

/-- The fraction is kept to its first two bytes, unless they split a character. -/
theorem fractionDigits_eq_ok_iff {r kept : List Char} :
    fractionDigits r = .ok kept ↔ ¬ SplitsAtSecondByte r ∧ kept = prefixWithin 2 r := by
  unfold fractionDigits
  dsimp only
  rw [← utf8Length_prefixWithin_two]
  split_ifs with h <;> simp [h, eq_comm]

/-- A fraction whose first two bytes split a character stops the program, with
the text that names the character. -/
theorem fractionDigits_eq_error_iff {r : List Char} {e : CodecError} :
    fractionDigits r = .error e ↔ SplitsAtSecondByte r ∧ e = .halted (cutInsideText r 2) := by
  unfold fractionDigits
  dsimp only
  split_ifs with h
  · simp [(utf8Length_prefixWithin_two r).mp h]
  · simp [not_not.mp ((utf8Length_prefixWithin_two r).not.mp h), eq_comm]

/-- **Digits kept from a fraction are its first two characters**: the cut keeps
digits exactly when the first two characters, or all when fewer, are
digits, and it keeps just those. -/
theorem fractionDigits_digits_iff {r kept : List Char} :
    fractionDigits r = .ok kept ∧ kept.all Char.isDigit ↔
      kept = r.take 2 ∧ (r.take 2).all Char.isDigit := by
  rw [fractionDigits_eq_ok_iff, ← utf8Length_prefixWithin_two]
  constructor
  · rintro ⟨⟨hfit, rfl⟩, hdig⟩
    -- a prefix of digits is as long as it is wide: two, or all of the fraction
    have hlen : (prefixWithin 2 r).length = min 2 (utf8Length r) := by
      rw [← utf8Length_of_digits hdig, hfit]
    have hpre := List.prefix_iff_eq_take.mp (prefixWithin_isPrefix 2 r)
    have hr := length_le_utf8Length r
    have hp := (prefixWithin_isPrefix 2 r).length_le
    have htake : (prefixWithin 2 r).length = 2 ∨ (prefixWithin 2 r).length = r.length := by omega
    have heq : prefixWithin 2 r = r.take 2 := by
      rcases htake with h2 | hall
      · rwa [h2] at hpre
      · rw [hpre, hall, List.take_length, List.take_of_length_le (by omega)]
    exact ⟨heq, heq ▸ hdig⟩
  · rintro ⟨rfl, hdig⟩
    match r with
    | [] => simp [prefixWithin]
    | [c] =>
      simp only [List.take_succ_cons, List.take_nil, List.all_cons, List.all_nil,
        Bool.and_true] at hdig
      simp [prefixWithin, utf8Size_of_isDigit hdig, hdig]
    | c :: d :: rest =>
      simp only [List.take_succ_cons, List.take_zero, List.all_cons, List.all_nil,
        Bool.and_true, Bool.and_eq_true] at hdig
      have hc := utf8Size_of_isDigit hdig.1
      have hd := utf8Size_of_isDigit hdig.2
      refine ⟨⟨?_, ?_⟩, ?_⟩
      · simp [prefixWithin, hc, hd]
        omega
      · simp [prefixWithin, hc, hd]
      · simp [hdig.1, hdig.2]

/-- A fraction whose first two characters are digits keeps just those. -/
theorem fractionDigits_of_digits {r : List Char} (hdig : (r.take 2).all Char.isDigit = true) :
    fractionDigits r = .ok (r.take 2) :=
  (fractionDigits_digits_iff.mpr ⟨rfl, hdig⟩).1

/-! ### Cutting at the first point -/

/-- Cutting at the first `c`: there is none, or the text is what stands before
the first one, the `c`, and the rest. -/
theorem splitAtFirst_cases (c : Char) (cs : List Char) :
    (splitAtFirst c cs = none ∧ c ∉ cs) ∨
      ∃ l r, splitAtFirst c cs = some (l, r) ∧ cs = l ++ c :: r ∧ c ∉ l := by
  have happ : cs.takeWhile (fun x => decide (x ≠ c)) ++ cs.dropWhile (fun x => decide (x ≠ c)) = cs :=
    List.takeWhile_append_dropWhile
  have hfront : c ∉ cs.takeWhile (fun x => decide (x ≠ c)) := by
    intro hc
    have := List.all_eq_true.mp List.all_takeWhile c hc
    simp at this
  unfold splitAtFirst
  rw [List.span_eq_takeWhile_dropWhile]
  cases hd : cs.dropWhile (fun x => decide (x ≠ c)) with
  | nil =>
    rw [hd, List.append_nil] at happ
    exact .inl ⟨rfl, happ ▸ hfront⟩
  | cons x r =>
    have hx : x = c := by
      have := List.head?_dropWhile_not (fun x => decide (x ≠ c)) cs
      rw [hd] at this
      simpa using this
    subst hx
    rw [hd] at happ
    exact .inr ⟨_, r, rfl, happ.symm, hfront⟩

/-- The two parts of a frame-rate text: before and after the first point, or
the whole text and nothing when it has none. -/
def rateParts (t : List Char) : List Char × List Char :=
  (splitAtFirst '.' t).getD (t, [])

/-- The parts of a text put it back together. -/
theorem rateParts_cases (t : List Char) :
    (t = (rateParts t).1 ∧ (rateParts t).2 = [] ∧ '.' ∉ t) ∨
      (t = (rateParts t).1 ++ '.' :: (rateParts t).2 ∧ '.' ∉ (rateParts t).1) := by
  unfold rateParts
  rcases splitAtFirst_cases '.' t with ⟨hnone, hno⟩ | ⟨l, r, hsome, ht, hl⟩
  · exact .inl ⟨by simp [hnone], by simp [hnone], hno⟩
  · exact .inr ⟨by simpa [hsome] using ht, by simpa [hsome] using hl⟩

/-- A text with a point after a pointless start is cut at that point. -/
theorem rateParts_append_point {int r : List Char} (hno : '.' ∉ int) :
    rateParts (int ++ '.' :: r) = (int, r) := by
  unfold rateParts
  rw [splitAtFirst_append_cons fun x hx hxc => hno (by rw [← hxc]; exact hx)]
  rfl

/-- Integer digits, then nothing or a point and a fraction, are the parts of
their text. -/
theorem rateParts_of_digits {t int r : List Char} (hint : int.all Char.isDigit = true)
    (ht : t = int ∧ r = [] ∨ t = int ++ '.' :: r) : rateParts t = (int, r) := by
  have hno : '.' ∉ int := fun hmem =>
    absurd (List.all_eq_true.mp hint '.' hmem) (by decide)
  rcases ht with ⟨rfl, rfl⟩ | rfl
  · unfold rateParts
    rcases splitAtFirst_cases '.' t with ⟨hnone, -⟩ | ⟨l, r', -, ht', -⟩
    · rw [hnone]
      rfl
    · exact absurd (ht' ▸ List.mem_append_right l List.mem_cons_self) hno
  · exact rateParts_append_point hno

/-! ### Reading the digits -/

/-- Digits read as the number they denote, when it is below the limit. -/
theorem readNat?_ofList_digits {cs : List Char} (hne : cs ≠ [])
    (hdig : cs.all Char.isDigit = true) (limit : Nat) :
    Text.readNat? limit (String.ofList cs) =
      if Nat.ofDigitChars 10 cs 0 < limit then some (Nat.ofDigitChars 10 cs 0) else none := by
  obtain ⟨c, cs', rfl⟩ := List.exists_cons_of_ne_nil hne
  have hc : c.isDigit = true := (List.all_eq_true.mp hdig) c List.mem_cons_self
  rw [Text.readNat?, String.toList_ofList, Text.readNatChars?, Text.unsignedDigits_of_isDigit hc,
    Text.digitsValue?, if_pos ⟨hne, hdig⟩, ← Nat.ofDigitChars_eq_foldl]

/-! ### The reader -/

/-- The reader, once the text is cut at its first point. -/
theorem readFrameRate_eq (s : String) {int frac : List Char}
    (hparts : rateParts (Text.trim s).toList = (int, frac)) :
    readFrameRate s = fractionDigits frac >>= fun kept =>
      if int = [] ∨ ¬ (int ++ kept).all Char.isDigit then .error (.invalidFrameRate s)
      else match Text.readNat? Text.limitU32 (String.ofList (int ++ kept)) with
        | some num => if num = 0 then .error (.invalidFrameRate s)
          else .ok (num, Nat.pow 10 kept.length)
        | none => .error (.invalidFrameRate s) := by
  unfold readFrameRate
  unfold rateParts at hparts
  simp only [hparts]
  rfl

/-- Digits at the end of digits. -/
theorem all_digits_right {xs ys : List Char} (h : (xs ++ ys).all Char.isDigit = true) :
    ys.all Char.isDigit = true := by
  simp only [List.all_append, Bool.and_eq_true] at h
  exact h.2

/-- **A frame rate as the reader takes it**: integer digits, then either
nothing, or a point and a fraction `r` whose first two characters (all of
them, when there are fewer) are digits; nothing after those two is looked at.
The integer digits followed by the kept ones denote `num`, a positive 32-bit
value, and `den` is ten to the number of kept digits. -/
def ReadsAsRate (t : List Char) (num den : Nat) : Prop :=
  ∃ int r, (t = int ∧ r = [] ∨ t = int ++ '.' :: r) ∧ int ≠ [] ∧
    (int ++ r.take 2).all Char.isDigit ∧ Nat.ofDigitChars 10 (int ++ r.take 2) 0 = num ∧
    0 < num ∧ num < Text.limitU32 ∧ den = Nat.pow 10 (r.take 2).length

/-- A text reads as a rate exactly when its parts do. -/
theorem readsAsRate_iff_parts {t : List Char} {num den : Nat} :
    ReadsAsRate t num den ↔ (rateParts t).1 ≠ [] ∧
      ((rateParts t).1 ++ (rateParts t).2.take 2).all Char.isDigit ∧
      Nat.ofDigitChars 10 ((rateParts t).1 ++ (rateParts t).2.take 2) 0 = num ∧
      0 < num ∧ num < Text.limitU32 ∧ den = Nat.pow 10 ((rateParts t).2.take 2).length := by
  constructor
  · rintro ⟨int, r, ht, hne, hdig, hnum, hpos, hlt, hden⟩
    have hint : int.all Char.isDigit = true := by
      simp only [List.all_append, Bool.and_eq_true] at hdig
      exact hdig.1
    rw [rateParts_of_digits hint ht]
    exact ⟨hne, hdig, hnum, hpos, hlt, hden⟩
  · rintro ⟨hne, hdig, hnum, hpos, hlt, hden⟩
    refine ⟨_, _, ?_, hne, hdig, hnum, hpos, hlt, hden⟩
    rcases rateParts_cases t with ⟨ht, hr, -⟩ | ⟨ht, -⟩
    · exact .inl ⟨ht, hr⟩
    · exact .inr ht

/-- **What the reader reads**: exactly the texts that read as rates, trimmed. -/
theorem readFrameRate_eq_ok_iff (s : String) (num den : Nat) :
    readFrameRate s = .ok (num, den) ↔ ReadsAsRate (Text.trim s).toList num den := by
  rcases hparts : rateParts (Text.trim s).toList with ⟨int, frac⟩
  rw [readFrameRate_eq s hparts, readsAsRate_iff_parts, hparts]
  cases hfrac : fractionDigits frac with
  | error e =>
    -- a split character: the fraction's first two characters are no two digits
    have hsplit := (fractionDigits_eq_error_iff.mp hfrac).1
    simp only [bind, Except.bind, reduceCtorEq, false_iff]
    rintro ⟨-, hdig, -⟩
    rw [fractionDigits_of_digits (all_digits_right hdig)] at hfrac
    cases hfrac
  | ok kept =>
    simp only [bind, Except.bind]
    by_cases hcheck : int = [] ∨ ¬ (int ++ kept).all Char.isDigit = true
    · rw [if_pos hcheck]
      simp only [reduceCtorEq, false_iff]
      rintro ⟨hne, hdig, -⟩
      rw [fractionDigits_of_digits (all_digits_right hdig)] at hfrac
      cases hfrac
      exact hcheck.elim hne (· hdig)
    · rw [if_neg hcheck]
      obtain ⟨hne, hdig⟩ : int ≠ [] ∧ (int ++ kept).all Char.isDigit = true := by
        simpa using hcheck
      obtain ⟨rfl, -⟩ := fractionDigits_digits_iff.mp ⟨hfrac, all_digits_right hdig⟩
      rw [readNat?_ofList_digits (by simp [hne]) hdig]
      by_cases hlt : Nat.ofDigitChars 10 (int ++ frac.take 2) 0 < Text.limitU32
      · rw [if_pos hlt]
        dsimp only
        by_cases hzero : Nat.ofDigitChars 10 (int ++ frac.take 2) 0 = 0
        · rw [if_pos hzero]
          simp only [reduceCtorEq, false_iff]
          omega
        · rw [if_neg hzero]
          simp only [Except.ok.injEq, Prod.mk.injEq]
          constructor
          · rintro ⟨rfl, rfl⟩
            exact ⟨hne, hdig, rfl, Nat.pos_of_ne_zero hzero, hlt, rfl⟩
          · rintro ⟨-, -, rfl, -, -, rfl⟩
            exact ⟨rfl, rfl⟩
      · rw [if_neg hlt]
        simp only [reduceCtorEq, false_iff]
        omega

/-- The fraction of a text splits a character at its second byte exactly when
the text has a point and the text after the first one does. -/
theorem splitsAtSecondByte_rateParts_iff (t : List Char) :
    SplitsAtSecondByte (rateParts t).2 ↔
      ∃ int r, t = int ++ '.' :: r ∧ '.' ∉ int ∧ SplitsAtSecondByte r := by
  constructor
  · intro hsplit
    rcases rateParts_cases t with ⟨-, hr, -⟩ | ⟨ht, hno⟩
    · rw [hr] at hsplit
      exact hsplit.elim
    · exact ⟨_, _, ht, hno, hsplit⟩
  · rintro ⟨int, r, rfl, hno, hsplit⟩
    rwa [rateParts_append_point hno]

/-- **When the reader stops the program**: exactly when the text after the
first point has its second byte inside a character. -/
theorem readFrameRate_halts_iff (s : String) :
    (∃ msg, readFrameRate s = .error (.halted msg)) ↔
      ∃ int r, (Text.trim s).toList = int ++ '.' :: r ∧ '.' ∉ int ∧ SplitsAtSecondByte r := by
  have hfrac : (∃ msg, readFrameRate s = .error (.halted msg)) ↔
      SplitsAtSecondByte (rateParts (Text.trim s).toList).2 := by
    rcases hparts : rateParts (Text.trim s).toList with ⟨int, frac⟩
    rw [readFrameRate_eq s hparts]
    cases hf : fractionDigits frac with
    | error e =>
      obtain ⟨hsplit, rfl⟩ := fractionDigits_eq_error_iff.mp hf
      exact ⟨fun _ => hsplit, fun _ => ⟨_, rfl⟩⟩
    | ok kept =>
      -- past the cut, only the invalid-rate failure is left
      have hcut := (fractionDigits_eq_ok_iff.mp hf).1
      simp only [bind, Except.bind, hcut, iff_false, not_exists]
      intro msg
      split_ifs
      · simp
      · split
        · split_ifs <;> simp
        · simp
  rw [hfrac, splitsAtSecondByte_rateParts_iff]

/-- The reader refuses a text only as an invalid frame rate, quoting it, or by
stopping the program. -/
theorem readFrameRate_failsOnly (s : String) :
    FailsOnly (readFrameRate s) fun e => e = .invalidFrameRate s ∨ ∃ msg, e = .halted msg := by
  rcases hparts : rateParts (Text.trim s).toList with ⟨int, frac⟩
  rw [readFrameRate_eq s hparts]
  refine .bind (fun e he => .inr ⟨_, (fractionDigits_eq_error_iff.mp he).2⟩) fun kept => ?_
  refine .ite (.error (.inl rfl)) ?_
  split
  · exact .ite (.error (.inl rfl)) (.ok _)
  · exact .error (.inl rfl)

/-- **Every text's frame rate.** Trimmed, a text reads as a rate exactly as
`ReadsAsRate` says: integer digits, then optionally a point and a fraction of
which only the first two characters are kept and must be digits, denoting a
positive 32-bit numerator over ten to the number kept; what follows two
fractional digits is not looked at. The reader stops the program exactly when
the text has a point and the text after the first one has its second byte
inside a character. Every other text is refused as an invalid frame rate,
quoting it. -/
theorem readFrameRate_outcome (s : String) :
    (∀ num den, readFrameRate s = .ok (num, den) ↔ ReadsAsRate (Text.trim s).toList num den) ∧
    ((∃ msg, readFrameRate s = .error (.halted msg)) ↔
      ∃ int r, (Text.trim s).toList = int ++ '.' :: r ∧ '.' ∉ int ∧ SplitsAtSecondByte r) ∧
    ∀ e, readFrameRate s = .error e → e = .invalidFrameRate s ∨ ∃ msg, e = .halted msg :=
  ⟨readFrameRate_eq_ok_iff s, readFrameRate_halts_iff s, readFrameRate_failsOnly s⟩

/-- Two texts that are no decimal numerals: `29.97x` reads as `2997/100`, its
last character never looked at, and `30.1é` stops the program, its fraction cut
inside the `é`. -/
theorem trailing_text_read_and_split_character_halts :
    readFrameRate "29.97x" = .ok (2997, 100) ∧
      readFrameRate "30.1é" = .error (.halted
        "end byte index 2 is not a char boundary; it is inside 'é' (bytes 1..3 of string)") := by
  constructor
  · cbv
  · decide +kernel

end VideoCodec
