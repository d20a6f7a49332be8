import Mathlib
import VideoCodec.Cli
import VideoCodec.Proofs.Resolve
/-!
# The command line and its reconfiguration list

The command reads its arguments as `key=value` pairs, resolves them into
session parameters and prints these as JSON. A trailing
`--reconfigure k₁=v₁,…,kₙ=vₙ` adds a second set of pairs that reconfigures
the resolved session. The two sets are read differently: the main arguments
are joined by blanks and split into words again, while the list has every
comma made a blank first, and only then is it split into words.

For keys and values that the command line can pass (`PlainKey`,
`PlainValue`), the main arguments read back as the map of their pairs, in
which a later pair for a key wins (`parsePairs_words`, `raw?_ofPairs`). The
list reads the same way only when no value holds a comma
(`commasToBlanks_pairList`). A value that does hold one is cut apart at its
commas, and the pieces after the first are words of their own. The quantiser
triple of `qmin`, `10,12,8`, is such a value: its pieces `12` and `8` are no
pairs, so that list fails to read.

The run lemmas go from scanning the arguments (`scan_append_of_plain`) to
the parsed arguments (`parseArgs_reconfigure`), and from those to the whole
run (`run_reconfigure_shows`). What a run shows is said once, by `Shows`: the
JSON of a computation that succeeds, or a failure with nothing on standard
output.
-/

namespace VideoCodec

/-! ### Words of a text -/

namespace Text

/-- A blank ends a word and belongs to none. -/
theorem wordChars_append_blank {c : Char} (hc : isBlank c = true) (x y : List Char) :
    wordChars (x ++ c :: y) = wordChars x ++ wordChars y := by
  unfold wordChars
  rw [List.splitOnP_append_cons x y hc, List.filter_append]

/-- A non-empty run of non-blank characters is one word. -/
theorem wordChars_of_forall {w : List Char} (hne : w ≠ []) (h : ∀ c ∈ w, isBlank c = false) :
    wordChars w = [w] := by
  unfold wordChars
  rw [List.splitOnP_eq_singleton h]
  simp [hne]

/-- **Words joined by blanks read back as themselves.** -/
theorem wordChars_intercalate :
    ∀ {ws : List (List Char)}, (∀ w ∈ ws, w ≠ [] ∧ ∀ c ∈ w, isBlank c = false) →
      wordChars ([' '].intercalate ws) = ws
  | [], _ => by simp [wordChars]
  | [w], h => by
    rw [List.intercalate_singleton]
    exact wordChars_of_forall (h w (by simp)).1 (h w (by simp)).2
  | w :: w' :: ws, h => by
    rw [List.intercalate_cons_cons, List.append_assoc, List.singleton_append,
      wordChars_append_blank (by decide),
      wordChars_of_forall (h w (by simp)).1 (h w (by simp)).2,
      wordChars_intercalate fun v hv => h v (List.mem_cons_of_mem _ hv)]
    rfl

end Text

/-! ### Key-value words -/

namespace EncoderOptions

/-- Setting the pairs in order over a map: a key reads its last pair's value,
and the map's own value where no pair names it. -/
theorem raw?_foldl_insert (pairs : List (String × String)) (o : EncoderOptions) (k : String) :
    (pairs.foldl (fun o p => o.insert p.1 p.2) o).raw? k = (pairs.reverse.lookup k).or (o.raw? k) := by
  induction pairs generalizing o with
  | nil => simp
  | cons p pairs ih =>
    obtain ⟨k', v'⟩ := p
    -- the pair set first is the last one the reversed list looks at
    have hone : [(k', v')].lookup k = if k = k' then some v' else none := by
      by_cases hk : k = k' <;> simp [List.lookup, hk, beq_false_of_ne]
    rw [List.foldl_cons, ih, raw?_insert, List.reverse_cons, List.lookup_append, Option.or_assoc,
      hone]
    by_cases hk : k = k' <;> simp [hk]

/-- **The map of a list of pairs gives each key its last value.** -/
theorem raw?_ofPairs (pairs : List (String × String)) (k : String) :
    (ofPairs pairs).raw? k = pairs.reverse.lookup k := by
  rw [ofPairs, raw?_foldl_insert]
  simp [raw?, empty]

/-- The word `k=v` of a key and a value. -/
def pairWord (kv : String × String) : String := kv.1 ++ "=" ++ kv.2

/-- A word splits at the `=` after a non-empty key with no `=` in it. -/
theorem splitPair_pairWord {k v : String} (hk : k ≠ "") (heq : ∀ c ∈ k.toList, c ≠ '=') :
    splitPair (pairWord (k, v)) = .ok (k, v) := by
  have hword : (pairWord (k, v)).toList = k.toList ++ '=' :: v.toList := by
    simp [pairWord]
  have hne : k.toList ≠ [] := by simpa using hk
  rw [splitPair, hword, span_ne_append_cons heq]
  simp [hne]

end EncoderOptions

namespace Cli

open EncoderOptions

/-- **A key the command line can pass**: not empty, and with no `=`, no comma
and no blank in it. -/
def PlainKey (k : String) : Prop :=
  k ≠ "" ∧ ∀ c ∈ k.toList, c ≠ '=' ∧ c ≠ ',' ∧ Text.isBlank c = false

/-- A value the command line can pass in one word: no blank in it. -/
def PlainValue (v : String) : Prop := ∀ c ∈ v.toList, Text.isBlank c = false

-- Both tests are decided character by character, as Boolean folds.
instance (k : String) : Decidable (PlainKey k) :=
  decidable_of_iff (k ≠ "" ∧ k.toList.all (fun c => c != '=' && c != ',' && !Text.isBlank c))
    (by simp [PlainKey, and_assoc])

instance (v : String) : Decidable (PlainValue v) :=
  decidable_of_iff (v.toList.all fun c => !Text.isBlank c) (by simp [PlainValue])

/-- The words of pairs whose keys and values the command line can pass read
back as the pairs. -/
theorem mapM_splitPair {pairs : List (String × String)} (h : ∀ kv ∈ pairs, PlainKey kv.1) :
    (pairs.map pairWord).mapM splitPair = .ok pairs := by
  induction pairs with
  | nil => rfl
  | cons kv pairs ih =>
    obtain ⟨hk, hchars⟩ := h kv (by simp)
    rw [List.map_cons, List.mapM_cons, splitPair_pairWord hk fun c hc => (hchars c hc).1,
      ih fun kv' hkv' => h kv' (List.mem_cons_of_mem _ hkv')]
    rfl

/-- **Pairs written as blank-separated words read back as the map of the
pairs**, where a later pair for a key wins. -/
theorem parsePairs_words {pairs : List (String × String)} (hk : ∀ kv ∈ pairs, PlainKey kv.1)
    (hv : ∀ kv ∈ pairs, PlainValue kv.2) :
    parsePairs (" ".intercalate (pairs.map pairWord)) = .ok (ofPairs pairs) := by
  -- each word is non-empty, holding its `=`, and has no blank
  have hwords : ∀ w ∈ (pairs.map pairWord).map String.toList,
      w ≠ [] ∧ ∀ c ∈ w, Text.isBlank c = false := by
    simp only [List.map_map, List.mem_map, Function.comp_apply]
    rintro w ⟨kv, hkv, rfl⟩
    refine ⟨by simp [pairWord], fun c hc => ?_⟩
    simp only [pairWord, String.toList_append, List.mem_append] at hc
    rcases hc with (hc | hc) | hc
    · exact ((hk kv hkv).2 c hc).2.2
    · have : c = '=' := by simpa using hc
      subst this
      decide
    · exact hv kv hkv c hc
  have hsplit : Text.words (" ".intercalate (pairs.map pairWord)) = pairs.map pairWord := by
    rw [Text.words, String.toList_intercalate, show " ".toList = [' '] from rfl,
      Text.wordChars_intercalate hwords, List.map_map]
    simp
  rw [parsePairs, hsplit, mapM_splitPair hk]
  rfl

/-! ### The reconfiguration list -/

/-- A text with every comma made a blank, as the command reads its
reconfiguration list. -/
def commasToBlanks (s : String) : String := s.map fun ch => if ch = ',' then ' ' else ch

/-- The reconfiguration list of pairs: their words joined by commas. -/
def pairList (pairs : List (String × String)) : String := ",".intercalate (pairs.map pairWord)

/-- Making commas blanks leaves a text with no comma alone. -/
theorem map_comma_of_not_mem {w : List Char} (h : ',' ∉ w) :
    w.map (fun ch => if ch = ',' then ' ' else ch) = w := by
  induction w with
  | nil => rfl
  | cons c w ih =>
    simp only [List.mem_cons, not_or] at h
    rw [List.map_cons, if_neg fun hc => h.1 hc.symm, ih h.2]

/-- Making commas blanks turns words joined by commas into the same words
joined by blanks, when no word holds a comma. -/
theorem map_intercalate_comma :
    ∀ {ws : List (List Char)}, (∀ w ∈ ws, ',' ∉ w) →
      ([','].intercalate ws).map (fun ch => if ch = ',' then ' ' else ch) = [' '].intercalate ws
  | [], _ => rfl
  | [w], h => by
    rw [List.intercalate_singleton, List.intercalate_singleton]
    exact map_comma_of_not_mem (h w (by simp))
  | w :: w' :: ws, h => by
    rw [List.intercalate_cons_cons, List.intercalate_cons_cons, List.map_append, List.map_append,
      map_intercalate_comma fun v hv => h v (List.mem_cons_of_mem _ hv),
      map_comma_of_not_mem (h w (by simp))]
    rfl

/-- **With no comma in any value, the list the command reads is the pairs'
words joined by blanks.** -/
theorem commasToBlanks_pairList {pairs : List (String × String)}
    (hk : ∀ kv ∈ pairs, PlainKey kv.1) (hv : ∀ kv ∈ pairs, ',' ∉ kv.2.toList) :
    commasToBlanks (pairList pairs) = " ".intercalate (pairs.map pairWord) := by
  have hwords : ∀ w ∈ (pairs.map pairWord).map String.toList, ',' ∉ w := by
    simp only [List.map_map, List.mem_map, Function.comp_apply]
    rintro w ⟨kv, hkv, rfl⟩ hc
    simp only [pairWord, String.toList_append, List.mem_append] at hc
    rcases hc with (hc | hc) | hc
    · exact ((hk kv hkv).2 ',' hc).2.1 rfl
    · simp at hc
    · exact hv kv hkv hc
  apply String.toList_injective
  rw [commasToBlanks, pairList, String.toList_map, String.toList_intercalate,
    String.toList_intercalate, show ",".toList = [','] from rfl, show " ".toList = [' '] from rfl,
    map_intercalate_comma hwords]

/-! ### Scanning the arguments -/

/-- The arguments the command reads as flags. -/
def flags : List String := ["--reconfigure", "--compact", "--help", "-h"]

/-- Arguments that are no flags are set aside as pairs, in order. -/
theorem scan_append_of_plain :
    ∀ {main : List String}, (∀ a ∈ main, a ∉ flags) →
      ∀ rest pairs r c, scan (main ++ rest) pairs r c = scan rest (pairs ++ main) r c
  | [], _, rest, pairs, r, c => by simp
  | a :: main, h, rest, pairs, r, c => by
    have ha := h a (by simp)
    simp only [flags, List.mem_cons, List.not_mem_nil, or_false, not_or] at ha
    obtain ⟨h1, h2, h3, h4⟩ := ha
    rw [List.cons_append, scan.eq_7 _ _ _ _ _ h1 h2 h3 h4,
      scan_append_of_plain (fun b hb => h b (List.mem_cons_of_mem _ hb)), List.append_assoc]
    rfl

/-- A trailing reconfiguration list is read with its commas made blanks. -/
theorem scan_reconfigure (list : String) (pairs : List String) (r : Option String) (c : Bool) :
    scan ["--reconfigure", list] pairs r c = .ok (pairs, some (commasToBlanks list), c) := by
  rw [scan.eq_2]
  rfl

/-- **The arguments of a run with a trailing reconfiguration list**: the
other arguments, joined by blanks, are read as pairs, and so is the list with
its commas made blanks. -/
theorem parseArgs_reconfigure {main : List String} (hmain : ∀ a ∈ main, a ∉ flags)
    (list : String) :
    parseArgs (main ++ ["--reconfigure", list]) =
      match parsePairs (" ".intercalate main), parsePairs (commasToBlanks list) with
      | .ok o, .ok r => .ok ⟨o, some r, false⟩
      | .error e, _ => .error (errorLine e)
      | .ok _, .error e => .error (errorLine e) := by
  rw [parseArgs, scan_append_of_plain hmain, List.nil_append, scan_reconfigure]
  dsimp only [bind, Except.bind]
  cases parsePairs (" ".intercalate main) <;> cases parsePairs (commasToBlanks list) <;> rfl

/-! ### What a run shows -/

/-- **An outcome that shows a computation of session parameters**: exit code
0 with the parameters as indented JSON on standard output when the computation
succeeds, and a non-zero exit code with nothing on standard output when it
fails. -/
def Shows (out : Outcome) : Except CodecError InitializeParams → Prop
  | .ok q => out = ⟨0, q.toJson.pretty ++ "\n", ""⟩
  | .error _ => out.exitCode ≠ 0 ∧ out.stdout = ""

/-- An outcome that shows a computation that succeeds has exit code 0. -/
theorem exitCode_of_shows {out : Outcome} {x : Except CodecError InitializeParams}
    (hx : x.toBool = true) (h : Shows out x) : out.exitCode = 0 := by
  cases x with
  | error e => cases hx
  | ok q =>
    have hout : out = ⟨0, q.toJson.pretty ++ "\n", ""⟩ := h
    rw [hout]

/-- A failed step ends the run with a non-zero exit code and nothing on
standard output. -/
theorem abort_fails (context : String) (e : CodecError) :
    (abort context e).exitCode ≠ 0 ∧ (abort context e).stdout = "" := by
  unfold abort
  split <;> exact ⟨by simp, rfl⟩

/-- A run whose arguments read as options and a reconfiguration shows the
options resolved and then reconfigured. -/
theorem run_of_parseArgs {args : List String} {o r : EncoderOptions}
    (h : parseArgs args = .ok ⟨o, some r, false⟩) : Shows (run args) (resolve o >>= reconfigure r) := by
  unfold run
  rw [h]
  dsimp only
  cases hres : resolve o with
  | error e => exact abort_fails _ e
  | ok p =>
    dsimp only [bind, Except.bind]
    cases hrec : reconfigure r p with
    | error e => exact abort_fails _ e
    | ok q => rfl

/-- A run whose arguments do not read ends with exit code 1 and nothing on
standard output. -/
theorem run_of_parseArgs_error {args : List String} {msg : String}
    (h : parseArgs args = .error msg) : (run args).exitCode ≠ 0 ∧ (run args).stdout = "" := by
  unfold run
  rw [h]
  exact ⟨Nat.one_ne_zero, rfl⟩

/-- **A run with a trailing reconfiguration list** shows the other arguments
read as pairs and resolved, then reconfigured with the list read as pairs
after its commas are made blanks. -/
theorem run_reconfigure_shows {main : List String} (hmain : ∀ a ∈ main, a ∉ flags)
    (list : String) :
    Shows (run (main ++ ["--reconfigure", list]))
      (do
        let o ← parsePairs (" ".intercalate main)
        let r ← parsePairs (commasToBlanks list)
        reconfigure r (← resolve o)) := by
  have hargs := parseArgs_reconfigure hmain list
  cases ho : parsePairs (" ".intercalate main) with
  | error e =>
    rw [ho] at hargs
    exact run_of_parseArgs_error hargs
  | ok o =>
    cases hr : parsePairs (commasToBlanks list) with
    | error e =>
      rw [ho, hr] at hargs
      exact run_of_parseArgs_error hargs
    | ok r =>
      rw [ho, hr] at hargs
      exact run_of_parseArgs hargs

/-- **What a reconfiguration list on the command line does.** Take arguments
that are no flags, and a list `k₁=v₁,…,kₙ=vₙ` of keys the command line can
pass with values that hold no blank. A run shows the arguments read as pairs
and resolved, then reconfigured with the list read as pairs after its commas
are made blanks. The pairs written as blank-separated words read as the map of
the pairs, which gives each key its last value. The run reconfigures with that
map when no value holds a comma. -/
theorem reconfigure_list_read_at_commas (main : List String) (hmain : ∀ a ∈ main, a ∉ flags)
    (pairs : List (String × String)) (hk : ∀ kv ∈ pairs, PlainKey kv.1)
    (hv : ∀ kv ∈ pairs, PlainValue kv.2) :
    Shows (run (main ++ ["--reconfigure", pairList pairs]))
        (do
          let o ← parsePairs (" ".intercalate main)
          let r ← parsePairs (commasToBlanks (pairList pairs))
          reconfigure r (← resolve o)) ∧
      parsePairs (" ".intercalate (pairs.map pairWord)) = .ok (ofPairs pairs) ∧
      (∀ k, (ofPairs pairs).raw? k = pairs.reverse.lookup k) ∧
      ((∀ kv ∈ pairs, ',' ∉ kv.2.toList) →
        Shows (run (main ++ ["--reconfigure", pairList pairs]))
          (do
            let o ← parsePairs (" ".intercalate main)
            reconfigure (ofPairs pairs) (← resolve o))) := by
  refine ⟨run_reconfigure_shows hmain _, parsePairs_words hk hv, raw?_ofPairs pairs, ?_⟩
  intro hcomma
  have hrun := run_reconfigure_shows hmain (pairList pairs)
  rw [commasToBlanks_pairList hk hcomma, parsePairs_words hk hv] at hrun
  exact hrun

/-- The example of the usage text: an AV1 session reconfigured to 2M and 60
frames per second. -/
theorem usage_example_reconfigures :
    let main := ["codec=av1", "gop=30", "bf=3"]
    let pairs := [("bitrate", "2M"), ("fps", "60")]
    (∀ a ∈ main, a ∉ flags) ∧ (∀ kv ∈ pairs, PlainKey kv.1) ∧ (∀ kv ∈ pairs, PlainValue kv.2) ∧
      Shows (run (main ++ ["--reconfigure", pairList pairs]))
          (do
            let o ← parsePairs (" ".intercalate main)
            let r ← parsePairs (commasToBlanks (pairList pairs))
            reconfigure r (← resolve o)) ∧
        parsePairs (" ".intercalate (pairs.map pairWord)) = .ok (ofPairs pairs) ∧
        (∀ k, (ofPairs pairs).raw? k = pairs.reverse.lookup k) ∧
        ((∀ kv ∈ pairs, ',' ∉ kv.2.toList) →
          Shows (run (main ++ ["--reconfigure", pairList pairs]))
            (do
              let o ← parsePairs (" ".intercalate main)
              reconfigure (ofPairs pairs) (← resolve o))) := by
  intro main pairs
  have hmain : ∀ a ∈ main, a ∉ flags := by decide
  have hk : ∀ kv ∈ pairs, PlainKey kv.1 := by decide +kernel
  have hv : ∀ kv ∈ pairs, PlainValue kv.2 := by decide +kernel
  exact ⟨hmain, hk, hv, reconfigure_list_read_at_commas main hmain pairs hk hv⟩

/-- A quantiser triple cannot be reconfigured from the command line. Its key
and value are ones the command line can pass, and the pair read as a
blank-separated word reconfigures, yet the run fails: the pieces `12` and `8`
of the value are read as words of their own. -/
theorem qp_triple_reconfiguration_fails :
    PlainKey "qmin" ∧ PlainValue "10,12,8" ∧
      (run ["--reconfigure", pairList [("qmin", "10,12,8")]]).exitCode = 1 ∧
      ¬ Shows (run ["--reconfigure", pairList [("qmin", "10,12,8")]])
        (do
          let o ← parsePairs (" ".intercalate [])
          let r ← parsePairs (" ".intercalate ([("qmin", "10,12,8")].map pairWord))
          reconfigure r (← resolve o)) := by
  have hexit : (run ["--reconfigure", pairList [("qmin", "10,12,8")]]).exitCode = 1 := by
    decide +kernel
  have hok : (do
      let o ← parsePairs (" ".intercalate [])
      let r ← parsePairs (" ".intercalate ([("qmin", "10,12,8")].map pairWord))
      reconfigure r (← resolve o)).toBool = true := by
    decide +kernel
  -- the reading the pair asks for succeeds, so showing it needs exit code 0
  refine ⟨by decide +kernel, by decide +kernel, hexit, fun hshows => ?_⟩
  have hzero := exitCode_of_shows hok hshows
  rw [hexit] at hzero
  cases hzero

end Cli

end VideoCodec
