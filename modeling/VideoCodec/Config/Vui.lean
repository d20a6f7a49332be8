import VideoCodec.Config.Options
/-!
# Video usability information

The colour description and timing that an encoded stream carries about
itself. A colour-space option whose lowercase text mentions `bt709` selects
BT.709 for primaries, transfer and matrix alike, and one that mentions `bt601`
selects SMPTE 170M; such a choice also marks the signal as full range. Any
other text, or none, leaves the colour unspecified.

Timing is present exactly when both the tick unit and the time scale are
given and non-zero.
-/

namespace VideoCodec

/-- The colour standards a stream can signal, with their code points. -/
inductive ColorStandard where
  | bt709
  | unspecified
  | smpte170m
  deriving DecidableEq, Repr

namespace ColorStandard

/-- The code point of a standard: 1, 2 or 6. -/
def code : ColorStandard → Nat
  | .bt709 => 1
  | .unspecified => 2
  | .smpte170m => 6

/-- The identifier of a standard in records. -/
def ident : ColorStandard → String
  | .bt709 => "Bt709"
  | .unspecified => "Unspecified"
  | .smpte170m => "Smpte170m"

/-- Lowercases the ASCII letters of a text and leaves every other character. -/
def asciiLower (s : String) : String :=
  String.ofList (s.toList.map Char.toLower)

/-- Whether `needle` occurs in `hay` as a contiguous run. -/
def occursIn (needle hay : List Char) : Bool :=
  match hay with
  | [] => needle.isEmpty
  | c :: rest => needle.isPrefixOf (c :: rest) || occursIn needle rest

/-- Reads a standard from a name that mentions `bt709` or `bt601`, in any
ASCII case. -/
def ofName? (s : String) : Option ColorStandard :=
  let l := (asciiLower s).toList
  if occursIn "bt709".toList l then some .bt709
  else if occursIn "bt601".toList l then some .smpte170m
  else none

end ColorStandard

/-- The video usability information of a stream. -/
structure Vui where
  videoSignalTypePresent : Bool := false
  videoFormat : Nat := 5
  videoFullRange : Bool := false
  colourDescriptionPresent : Bool := false
  colourPrimaries : ColorStandard := .unspecified
  transferCharacteristics : ColorStandard := .unspecified
  colourMatrix : ColorStandard := .unspecified
  timingInfoPresent : Bool := false
  numUnitInTicks : Nat := 0
  timeScale : Nat := 0
  deriving DecidableEq, Repr

namespace Vui

/-- The colour part of the usability information for a colour-space option. -/
def ofColorSpace (name : Option String) : Vui :=
  match name.bind ColorStandard.ofName? with
  | some c =>
    { videoSignalTypePresent := true, videoFullRange := true, colourDescriptionPresent := true,
      colourPrimaries := c, transferCharacteristics := c, colourMatrix := c }
  | none => {}

/-- The usability information that the options describe. -/
def ofOptions (o : EncoderOptions) : Except CodecError Vui := do
  let ticks ← o.natOption Text.limitU32 "num_unit_in_ticks"
  let scale ← o.natOption Text.limitU32 "timescale"
  let ticks := ticks.getD 0
  let scale := scale.getD 0
  pure { ofColorSpace (o.get "colorspace") with
    numUnitInTicks := ticks, timeScale := scale, timingInfoPresent := ticks != 0 && scale != 0 }

end Vui

end VideoCodec
