import VideoCodec.Error
import VideoCodec.Text.Blank
import VideoCodec.Text.Decimal
/-!
# Encoder options

Encoder options are a flat map from keys to text values, kept sorted by key;
setting a key again replaces its value.

Reading an option (`EncoderOptions.get`) treats an empty value as absent, so
that `gop=` means "no gop given". Only the question whether a key was given at
all (`EncoderOptions.containsKey`) sees empty values; the resolution limit
`max_res` is the one option that uses it.

The text form is a list of `key=value` words separated by blanks
(`EncoderOptions.parsePairs`): the key is what stands before the first `=`, it
must not be empty, and a later word for a key wins.
-/

namespace VideoCodec

/-- A flat map from option keys to option text, sorted by key. -/
structure EncoderOptions where
  entries : List (String × String)
  deriving DecidableEq, Repr

namespace EncoderOptions

/-- The empty map. -/
def empty : EncoderOptions := ⟨[]⟩

/-- Sets `key` to `value` in a key-sorted list, replacing an earlier value. -/
def insertEntry (key value : String) : List (String × String) → List (String × String)
  | [] => [(key, value)]
  | (k, v) :: rest =>
    if key < k then (key, value) :: (k, v) :: rest
    else if key = k then (key, value) :: rest
    else (k, v) :: insertEntry key value rest

/-- Sets `key` to `value`, replacing an earlier value. -/
def insert (o : EncoderOptions) (key value : String) : EncoderOptions :=
  ⟨insertEntry key value o.entries⟩

/-- Looking a key up after setting one: the new value for that key, the old
lookup for every other. The sorted insertion only decides where the pair
goes, never what a lookup finds. -/
theorem lookup_insertEntry (key value k : String) (entries : List (String × String)) :
    (insertEntry key value entries).lookup k = if k = key then some value else entries.lookup k := by
  induction entries with
  | nil =>
    by_cases hk : k = key
    · subst hk
      simp [insertEntry]
    · simp [insertEntry, List.lookup_cons, beq_false_of_ne hk, hk]
  | cons e rest ih =>
    obtain ⟨k', v'⟩ := e
    unfold insertEntry
    by_cases hk : k = key
    · subst hk
      by_cases hlt : k < k'
      · simp [hlt]
      · by_cases heq : k = k'
        · subst heq
          simp
        · simp [hlt, heq, List.lookup_cons, beq_false_of_ne heq, ih]
    · have hb : (k == key) = false := beq_false_of_ne hk
      by_cases hlt : key < k'
      · simp [hlt, List.lookup_cons, hb, hk]
      · by_cases heq : key = k'
        · subst heq
          simp [List.lookup_cons, hb, hk]
        · simp [hlt, heq, List.lookup_cons, ih, hk]

/-- The map of a list of pairs, set in order, so that a later pair wins. -/
def ofPairs (pairs : List (String × String)) : EncoderOptions :=
  pairs.foldl (fun o p => o.insert p.1 p.2) empty

/-- The value given for `key`, empty or not. -/
def raw? (o : EncoderOptions) (key : String) : Option String :=
  o.entries.lookup key

/-- The non-empty value of `key`. -/
def get (o : EncoderOptions) (key : String) : Option String :=
  (o.raw? key).filter (· ≠ "")

/-- Whether `key` was given at all, even with an empty value. -/
def containsKey (o : EncoderOptions) (key : String) : Bool :=
  (o.raw? key).isSome

/-- Setting a key changes what that key reads and nothing else. -/
theorem raw?_insert (o : EncoderOptions) (key value k : String) :
    (o.insert key value).raw? k = if k = key then some value else o.raw? k :=
  lookup_insertEntry key value k o.entries

/-- Setting a key to a non-empty value makes it read as that value; the
other keys read as before. -/
theorem get_insert (o : EncoderOptions) (key value k : String) :
    (o.insert key value).get k = if k = key then (some value).filter (· ≠ "") else o.get k := by
  unfold get
  rw [raw?_insert]
  split <;> rfl

/-- Number of keys. -/
def size (o : EncoderOptions) : Nat := o.entries.length

/-- Whether no key is given. -/
def isEmpty (o : EncoderOptions) : Bool := o.entries.isEmpty

/-- Splits one word at its first `=` into a key and a value; refuses a word
with no `=` or with an empty key. -/
def splitPair (word : String) : Except CodecError (String × String) :=
  match word.toList.span (· ≠ '=') with
  | (k, _ :: v) => if k = [] then .error (.invalidOption word "")
    else .ok (String.ofList k, String.ofList v)
  | (_, []) => .error (.invalidOption word "")

/-- Reads blank-separated `key=value` words; the first malformed word is the
failure. -/
def parsePairs (s : String) : Except CodecError EncoderOptions :=
  ofPairs <$> (Text.words s).mapM splitPair

/-- The value of `key` read as a number below `limit` after trimming blanks;
an unreadable value is an `invalidOption` failure that quotes it untrimmed. -/
def natOption (o : EncoderOptions) (limit : Nat) (key : String) :
    Except CodecError (Option Nat) :=
  match o.get key with
  | none => .ok none
  | some v =>
    match Text.readNat? limit (Text.trim v) with
    | some n => .ok (some n)
    | none => .error (.invalidOption key v)

/-- The value of `key` read as a signed number in `[-limit, limit)` after
trimming blanks. -/
def intOption (o : EncoderOptions) (limit : Nat) (key : String) :
    Except CodecError (Option Int) :=
  match o.get key with
  | none => .ok none
  | some v =>
    match Text.readInt? limit (Text.trim v) with
    | some n => .ok (some n)
    | none => .error (.invalidOption key v)

end EncoderOptions

end VideoCodec
