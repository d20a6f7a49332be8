import Mathlib
import VideoCodec.Proofs.RateText
import VideoCodec.Proofs.RateOptions
/-!
# The text of a bitrate

A bitrate is read from text (`readBitrate`): the text is trimmed, a last
character `k`/`K` or `m`/`M` is taken off as a unit of 1024 or 1024², what is
left is read as an unsigned 32-bit numeral, and the numeral is multiplied by
the unit. This file says what the reader does with every text
(`readBitrate_outcome`):

* it reads `n` exactly when the trimmed text is an optional `+`, ASCII digits
  denoting `d` below 2³², then at most one suffix letter standing for a unit
  `m` (1 without one), and `d * m` is below 2³²; `n` is then `d * m`
  (`ReadsAsBitrate`);
* every other text is refused as an invalid bitrate that quotes the text as
  given: the reader never stops the program, and a product too large for 32
  bits is refused, never wrapped.

The numeral is read as every unsigned numeral of the options is read, and
`Text.UnsignedNumeral` describes those once (`Text.readNatChars?_eq_some_iff`).
Only the last character is looked at for a unit, and the text before it is not
trimmed again, so `12 k` and a bare `k` are refused.
-/

namespace VideoCodec

/-! ### Unsigned numerals -/

namespace Text

/-- **An unsigned numeral** denoting `d`: an optional `+`, then one or more
ASCII digits, most significant first, that denote `d`. -/
def UnsignedNumeral (cs : List Char) (d : Nat) : Prop :=
  ∃ sign digits, cs = sign ++ digits ∧ (sign = [] ∨ sign = ['+']) ∧ digits ≠ [] ∧
    digits.all Char.isDigit ∧ Nat.ofDigitChars 10 digits 0 = d

/-- A run of characters has a value exactly when it is a non-empty run of
digits, and the value is the one the digits denote. -/
theorem digitsValue?_eq_some_iff {cs : List Char} {d : Nat} :
    digitsValue? cs = some d ↔
      cs ≠ [] ∧ cs.all Char.isDigit ∧ Nat.ofDigitChars 10 cs 0 = d := by
  unfold digitsValue?
  split_ifs with h
  · simp [h, Nat.ofDigitChars_eq_foldl]
  · simp only [false_iff, not_and]
    exact fun hne hdig _ => h ⟨hne, hdig⟩

/-- A text is its sign, if it has one, followed by what is left once the sign
is dropped. -/
theorem sign_append_unsignedDigits (cs : List Char) :
    ∃ sign, cs = sign ++ unsignedDigits cs ∧ (sign = [] ∨ sign = ['+']) := by
  unfold unsignedDigits
  split
  · exact ⟨['+'], rfl, .inr rfl⟩
  · exact ⟨[], rfl, .inl rfl⟩

/-- Dropping the sign of a signed run of digits leaves the digits. -/
theorem unsignedDigits_sign_append {sign digits : List Char} (hsign : sign = [] ∨ sign = ['+'])
    (hne : digits ≠ []) (hdig : digits.all Char.isDigit = true) :
    unsignedDigits (sign ++ digits) = digits := by
  rcases hsign with rfl | rfl
  · obtain ⟨c, cs, rfl⟩ := List.exists_cons_of_ne_nil hne
    exact unsignedDigits_of_isDigit ((List.all_eq_true.mp hdig) c List.mem_cons_self)
  · rfl

/-- The digits left once the sign is dropped have a value exactly when the text
is an unsigned numeral denoting it. -/
theorem digitsValue?_unsignedDigits_eq_some_iff {cs : List Char} {d : Nat} :
    digitsValue? (unsignedDigits cs) = some d ↔ UnsignedNumeral cs d := by
  constructor
  · intro h
    obtain ⟨sign, hcs, hsign⟩ := sign_append_unsignedDigits cs
    obtain ⟨hne, hdig, hval⟩ := digitsValue?_eq_some_iff.mp h
    exact ⟨sign, _, hcs, hsign, hne, hdig, hval⟩
  · rintro ⟨sign, digits, rfl, hsign, hne, hdig, rfl⟩
    rw [unsignedDigits_sign_append hsign hne hdig]
    exact digitsValue?_eq_some_iff.mpr ⟨hne, hdig, rfl⟩

/-- **The unsigned numerals are what is read**: a text reads as `d` exactly
when it is an unsigned numeral denoting `d` and `d` is below the limit. -/
theorem readNatChars?_eq_some_iff {limit d : Nat} {cs : List Char} :
    readNatChars? limit cs = some d ↔ UnsignedNumeral cs d ∧ d < limit := by
  rw [← digitsValue?_unsignedDigits_eq_some_iff]
  unfold readNatChars?
  cases digitsValue? (unsignedDigits cs) with
  | none => simp
  | some n =>
    by_cases hlt : n < limit
    · simp only [hlt, if_true, Option.some.injEq]
      constructor
      · rintro rfl
        exact ⟨rfl, hlt⟩
      · exact And.left
    · simp only [hlt, if_false, reduceCtorEq, false_iff, Option.some.injEq, not_and]
      rintro rfl
      exact hlt

/-- The same, for the string a character list spells. -/
theorem readNat?_ofList_eq_some_iff {limit d : Nat} {cs : List Char} :
    readNat? limit (String.ofList cs) = some d ↔ UnsignedNumeral cs d ∧ d < limit := by
  rw [readNat?, String.toList_ofList, readNatChars?_eq_some_iff]

/-- A numeral ends in a digit. -/
theorem UnsignedNumeral.getLast?_isDigit {cs : List Char} {d : Nat} (h : UnsignedNumeral cs d) :
    ∃ c, cs.getLast? = some c ∧ c.isDigit = true := by
  obtain ⟨sign, digits, rfl, -, hne, hdig, -⟩ := h
  refine ⟨digits.getLast hne, ?_, (List.all_eq_true.mp hdig) _ (List.getLast_mem hne)⟩
  rw [List.getLast?_append, List.getLast?_eq_some_getLast hne]
  rfl

end Text

/-! ### The unit suffix -/

/-- **The suffix of a bitrate** and the unit it stands for: nothing for 1,
`k` or `K` for 1024, `m` or `M` for 1024². -/
inductive BitrateSuffix : List Char → Nat → Prop
  | none : BitrateSuffix [] 1
  | kilo {c : Char} : c = 'k' ∨ c = 'K' → BitrateSuffix [c] 1024
  | mega {c : Char} : c = 'm' ∨ c = 'M' → BitrateSuffix [c] 1048576

/-- A letter is a suffix exactly when the reader takes it for a unit, and it
stands for the unit the reader multiplies by. -/
theorem bitrateSuffix_singleton_iff {c : Char} {unit : Nat} :
    BitrateSuffix [c] unit ↔ bitrateUnit? c = some unit := by
  constructor
  · rintro (_ | ⟨h⟩ | ⟨h⟩) <;> rcases h with rfl | rfl <;> rfl
  · intro h
    unfold bitrateUnit? at h
    split at h
    · cases h
      exact .kilo (.inl rfl)
    · cases h
      exact .kilo (.inr rfl)
    · cases h
      exact .mega (.inl rfl)
    · cases h
      exact .mega (.inr rfl)
    · cases h

/-- No digit is a unit. -/
theorem bitrateUnit?_of_isDigit {c : Char} (h : c.isDigit = true) : bitrateUnit? c = none := by
  cases hu : bitrateUnit? c with
  | none => rfl
  | some u =>
    rcases bitrateSuffix_singleton_iff.mpr hu with _ | ⟨hc⟩ | ⟨hc⟩ <;>
      rcases hc with rfl | rfl <;> exact absurd h (by decide)

/-! ### Cutting the unit off -/

/-- Where the reader cuts a trimmed text: the text less its last character and
that character's unit, when it is a unit letter, else the whole text and the
unit 1. An empty text has no cut. -/
def bitrateCut (t : List Char) : Option (List Char × Nat) :=
  t.getLast?.map fun last =>
    match bitrateUnit? last with
    | some u => (t.dropLast, u)
    | none => (t, 1)

/-- A cut puts its text back together: the numeral part, then a suffix for the
unit. -/
theorem bitrateCut_eq_some {t digits : List Char} {unit : Nat}
    (h : bitrateCut t = some (digits, unit)) :
    ∃ suffix, t = digits ++ suffix ∧ BitrateSuffix suffix unit := by
  obtain ⟨last, hlast, hcut⟩ := Option.map_eq_some_iff.mp h
  obtain ⟨init, rfl⟩ := List.getLast?_eq_some_iff.mp hlast
  cases hu : bitrateUnit? last with
  | none =>
    simp only [hu, Prod.mk.injEq] at hcut
    obtain ⟨rfl, rfl⟩ := hcut
    exact ⟨[], (List.append_nil _).symm, .none⟩
  | some u =>
    simp only [hu, List.dropLast_concat, Prod.mk.injEq] at hcut
    obtain ⟨rfl, rfl⟩ := hcut
    exact ⟨[last], rfl, bitrateSuffix_singleton_iff.mpr hu⟩

/-- A numeral followed by a suffix is cut between the two. -/
theorem bitrateCut_append {numeral suffix : List Char} {d unit : Nat}
    (hnum : Text.UnsignedNumeral numeral d) (hsuf : BitrateSuffix suffix unit) :
    bitrateCut (numeral ++ suffix) = some (numeral, unit) := by
  cases hsuf with
  | none =>
    -- the text ends in a digit of the numeral, which is no unit
    obtain ⟨c, hlast, hdig⟩ := hnum.getLast?_isDigit
    simp [bitrateCut, hlast, bitrateUnit?_of_isDigit hdig]
  | kilo hc =>
    have hu := bitrateSuffix_singleton_iff.mp (.kilo hc)
    simp [bitrateCut, hu]
  | mega hc =>
    have hu := bitrateSuffix_singleton_iff.mp (.mega hc)
    simp [bitrateCut, hu]

/-! ### The reader -/

/-- **A bitrate as the reader takes it**: an unsigned numeral denoting `d`
below 2³², then a suffix for a unit, and their product, below 2³² too, is
`n`. -/
def ReadsAsBitrate (t : List Char) (n : Nat) : Prop :=
  ∃ numeral suffix d unit, t = numeral ++ suffix ∧ Text.UnsignedNumeral numeral d ∧
    d < Text.limitU32 ∧ BitrateSuffix suffix unit ∧ d * unit < Text.limitU32 ∧ n = d * unit

/-- A text reads as a bitrate exactly when the numeral part of its cut does
and the product with the cut's unit fits 32 bits. -/
theorem readsAsBitrate_iff_cut {t : List Char} {n : Nat} :
    ReadsAsBitrate t n ↔ ∃ digits unit d, bitrateCut t = some (digits, unit) ∧
      Text.UnsignedNumeral digits d ∧ d < Text.limitU32 ∧ d * unit < Text.limitU32 ∧
      n = d * unit := by
  constructor
  · rintro ⟨numeral, suffix, d, unit, rfl, hnum, hd, hsuf, hprod, rfl⟩
    exact ⟨numeral, unit, d, bitrateCut_append hnum hsuf, hnum, hd, hprod, rfl⟩
  · rintro ⟨digits, unit, d, hcut, hnum, hd, hprod, rfl⟩
    obtain ⟨suffix, rfl, hsuf⟩ := bitrateCut_eq_some hcut
    exact ⟨digits, suffix, d, unit, rfl, hnum, hd, hsuf, hprod, rfl⟩

/-- The reader reads `n` exactly when the numeral part of the trimmed text's
cut reads as a 32-bit `d` whose product with the unit is `n` and fits 32
bits. -/
theorem readBitrate_eq_ok_iff_cut (s : String) (n : Nat) :
    readBitrate s = .ok n ↔ ∃ digits unit d,
      bitrateCut (Text.trim s).toList = some (digits, unit) ∧
      Text.readNat? Text.limitU32 (String.ofList digits) = some d ∧ d * unit < Text.limitU32 ∧
      n = d * unit := by
  unfold readBitrate bitrateCut
  generalize (Text.trim s).toList = t
  rcases List.eq_nil_or_concat t with rfl | ⟨init, last, rfl⟩
  · simp
  · simp only [List.concat_eq_append, List.getLast?_concat, Option.map_some, Option.some.injEq]
    -- the cut is the pair the last character chooses; the rest reads its first part
    cases bitrateUnit? last with
    | none =>
      simp only [Prod.mk.injEq, and_assoc, exists_and_left, exists_eq_left']
      cases Text.readNat? Text.limitU32 (String.ofList (init ++ [last])) with
      | none => simp
      | some d =>
        simp only [Option.some.injEq, exists_eq_left', Nat.mul_one]
        split_ifs with h <;> simp [h, eq_comm]
    | some u =>
      simp only [Prod.mk.injEq, and_assoc, exists_and_left, exists_eq_left', List.dropLast_concat]
      cases Text.readNat? Text.limitU32 (String.ofList init) with
      | none => simp
      | some d =>
        simp only [Option.some.injEq, exists_eq_left']
        split_ifs with h <;> simp [h, eq_comm]

/-- **What the reader reads**: exactly the texts that read as bitrates, trimmed. -/
theorem readBitrate_eq_ok_iff (s : String) (n : Nat) :
    readBitrate s = .ok n ↔ ReadsAsBitrate (Text.trim s).toList n := by
  rw [readBitrate_eq_ok_iff_cut, readsAsBitrate_iff_cut]
  simp only [Text.readNat?_ofList_eq_some_iff, and_assoc]

/-- **What the reader refuses**: exactly the texts that read as no bitrate,
trimmed, and it refuses them as invalid bitrates quoting the text as given. -/
theorem readBitrate_eq_error_iff (s : String) :
    readBitrate s = .error (.invalidBitrate s) ↔
      ¬ ∃ n, ReadsAsBitrate (Text.trim s).toList n := by
  constructor
  · rintro h ⟨n, hn⟩
    rw [← readBitrate_eq_ok_iff, h] at hn
    cases hn
  · intro hno
    cases h : readBitrate s with
    | ok n => exact absurd ⟨n, (readBitrate_eq_ok_iff s n).mp h⟩ hno
    | error e => rw [RateControlConfig.readBitrate_error h]

/-- **Every text's bitrate.** Trimmed, a text reads as `n` exactly as
`ReadsAsBitrate` says: an optional `+`, ASCII digits denoting `d` below 2³²,
at most one suffix `k`/`K` (1024) or `m`/`M` (1024²) for a unit `m`, with
`d * m` below 2³² and equal to `n`. Every other text is refused as an invalid
bitrate quoting it as given, and that is the only failure: the reader never
stops the program. -/
theorem readBitrate_outcome (s : String) :
    (∀ n, readBitrate s = .ok n ↔ ReadsAsBitrate (Text.trim s).toList n) ∧
    (readBitrate s = .error (.invalidBitrate s) ↔
      ¬ ∃ n, ReadsAsBitrate (Text.trim s).toList n) ∧
    ∀ e, readBitrate s = .error e → e = .invalidBitrate s :=
  ⟨readBitrate_eq_ok_iff s, readBitrate_eq_error_iff s,
    fun _ h => RateControlConfig.readBitrate_error h⟩

example : readBitrate " +800k\u00a0" = .ok 819200 ∧
    readBitrate "12 k" = .error (.invalidBitrate "12 k") := by
  decide +kernel

end VideoCodec
