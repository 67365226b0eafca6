/-
  WHAT BLUETOOTHCTL PRINTS: `parse_player_show`, `parse_transport_paths` and `parse_transport_volume`
  (`phono_console/bluetooth.py`).

  Each of them removes the control sequences of the terminal, goes through the lines, and takes what
  stands after a colon for the value of what stands before it; a later line wins.

  * `parsePlayerShow`, `parseTransportPaths`, `parseTransportVolume` — the parsers, with what they raise;
  * `parsePlayerShow_ok` — the player's path is always there to be read;
  * `playerLine_fields`, `entry_fields` — what a line `key: value` makes of the dictionary;
  * `player_show_read` — a player that is printed, in colours, is read back;
  * `transports_read`  — so is a list of transports, and the volume of each.
-/
import PhonoConsole.Lib.Text
import PhonoConsole.TransportVolume
import Mathlib.Data.List.Infix

namespace PhonoConsole.BluetoothText

open Text

/-! ## The parsers -/

/-- What the loops keep: the path, and the dictionary, with the entry set last first. -/
structure Shown where
  playerPath : Option (List Char) := none
  values : List (List Char × List Char) := []

/-- `values.get(key)`. -/
def Shown.get (s : Shown) (key : String) : Option (List Char) := s.values.lookup key.toList

/-- One line `key: value`. -/
def Shown.entry (s : Shown) (line : List Char) : Shown :=
  if ':' ∈ line then
    let (key, value) := partition ':' line
    { s with values := (strip key, strip value) :: s.values }
  else s

/-- What Python raises on a text that is not as expected. -/
inductive ParseError
  | indexError
  | valueError
deriving DecidableEq

/-- One turn of `parse_player_show`. -/
def Shown.playerLine (s : Shown) (rawLine : List Char) : Except ParseError Shown :=
  let line := strip rawLine
  if "Player ".toList.isPrefixOf line then
    match (words line)[1]? with
    | some path => .ok { s with playerPath := some path }
    | none => .error .indexError
  else .ok (s.entry line)

/-- The track of a player. -/
structure Track where
  title : Option (List Char)
  artist : Option (List Char)
  album : Option (List Char)
  durationMs : Option Int
  trackNumber : Option Int
  numberOfTracks : Option Int
deriving DecidableEq

/-- What `parse_player_show` reads of a player. -/
structure PlayerState where
  path : List Char
  name : Option (List Char)
  status : List Char
  positionMs : Option Int
  track : Track
deriving DecidableEq

/-- `str.lower`, of ASCII. -/
def lower (s : List Char) : List Char := s.map Char.toLower

/-- `integer`. -/
def Shown.integer (s : Shown) (key : String) : Option Int := (s.get key).bind int0

/-- What is made of the dictionary; `none` where no media is available. -/
def Shown.player (s : Shown) : Option PlayerState :=
  s.playerPath.map fun path =>
    { path
      name := s.get "Name"
      status := lower ((s.get "Status").getD "unknown".toList)
      positionMs := s.integer "Position"
      track :=
        { title := s.get "Track.Title"
          artist := s.get "Track.Artist"
          album := s.get "Track.Album"
          durationMs := s.integer "Track.Duration"
          trackNumber := s.integer "Track.TrackNumber"
          numberOfTracks := s.integer "Track.NumberOfTracks" } }

/-- `parse_player_show`. -/
def parsePlayerShow (output : List Char) : Except ParseError (Option PlayerState) :=
  ((splitlines (removeEscapes output)).foldlM Shown.playerLine {}).map Shown.player

/-- The path of a line of `transport.list`. -/
def transportPath (rawLine : List Char) : Option (List Char) :=
  match words (strip rawLine) with
  | first :: second :: _ =>
    if first = "Transport".toList ∧ ['/'].isPrefixOf second then some second else none
  | _ => none

/-- `parse_transport_paths`. -/
def parseTransportPaths (output : List Char) : List (List Char) :=
  (splitlines (removeEscapes output)).filterMap transportPath

/-- A digit of base 16. -/
def isHexDigit (c : Char) : Bool := digitValue c < 16

/-- A digit of base 10. -/
def isDecimalDigit (c : Char) : Bool := digitValue c < 10

/-- The number at the beginning of a text: `0x[0-9a-fA-F]+`, or else `\d+`. -/
def numberAt (s : List Char) : Option (List Char) :=
  let digits := s.takeWhile isDecimalDigit
  match s with
  | '0' :: 'x' :: t =>
    if t.takeWhile isHexDigit ≠ [] then some ('0' :: 'x' :: t.takeWhile isHexDigit) else some digits
  | _ => if digits ≠ [] then some digits else none

/-- `re.search`, for the first number. -/
def searchNumber : List Char → Option (List Char)
  | [] => none
  | c :: t => (numberAt (c :: t)).or (searchNumber t)

/-- `parse_transport_volume`. -/
def parseTransportVolume (output : List Char) : Except ParseError (Option Int) :=
  let s := (splitlines (removeEscapes output)).foldl (fun s rawLine => s.entry (strip rawLine)) ({} : Shown)
  if lower ((s.get "State").getD []) ≠ "active".toList then .ok none
  else if ¬ "Audio Sink".toList <:+: (s.get "UUID").getD [] then .ok none
  else
    match searchNumber ((s.get "Volume").getD []) with
    | none => .ok none
    | some found =>
      match int0 found with
      | some volume => .ok (some (max 0 (min 127 volume)))
      | none => .error .valueError

/-! ## The path -/

/-- A line that is stripped and begins with `Player ` has a second word. -/
theorem player_path {rawLine : List Char} (h : "Player ".toList.isPrefixOf (strip rawLine) = true) :
    ∃ path, (words (strip rawLine))[1]? = some path := by
  obtain ⟨rest, hrest⟩ := List.isPrefixOf_iff_prefix.mp h
  have hwords : words (strip rawLine) = "Player".toList :: words rest := by
    rw [← hrest]
    exact words_pair (w := "Player".toList) (by decide) (by decide) (c := ' ') (by decide) rest
  -- The last letter of the line is none of `Player `, which ends with a space.
  have hne : rest ≠ [] := by
    rintro rfl
    rw [List.append_nil] at hrest
    have hlast : ' ' ∈ (strip rawLine).getLast? := by
      rw [← hrest]
      rfl
    exact absurd (strip_last hlast) (by decide)
  have hletter : isSpace (rest.getLast hne) = false := by
    refine strip_last (s := rawLine) ?_
    rw [← hrest, List.getLast?_append_of_ne_nil _ hne]
    exact List.getLast?_eq_some_getLast hne
  obtain ⟨path, more, hmore⟩ :=
    List.exists_cons_of_ne_nil (words_ne_nil (List.getLast_mem hne) hletter)
  exact ⟨path, by rw [hwords, hmore]; rfl⟩

/-- No line makes the parser raise. -/
theorem playerLine_ok (s : Shown) (rawLine : List Char) : ∃ s', s.playerLine rawLine = .ok s' := by
  unfold Shown.playerLine
  dsimp only
  split
  · rename_i hplayer
    obtain ⟨path, hpath⟩ := player_path hplayer
    exact ⟨_, by rw [hpath]⟩
  · exact ⟨_, rfl⟩

/-- `parse_player_show` raises nothing, whatever is printed. -/
theorem parsePlayerShow_ok (output : List Char) : ∃ state, parsePlayerShow output = .ok state := by
  have hlines : ∀ (lines : List (List Char)) (s : Shown),
      ∃ s', lines.foldlM Shown.playerLine s = .ok s' := by
    intro lines
    induction lines with
    | nil => exact fun s => ⟨s, rfl⟩
    | cons line rest ih =>
      intro s
      obtain ⟨s', hs'⟩ := playerLine_ok s line
      obtain ⟨s'', hs''⟩ := ih s'
      refine ⟨s'', ?_⟩
      rw [List.foldlM_cons, hs']
      exact hs''
  obtain ⟨s', hs'⟩ := hlines (splitlines (removeEscapes output)) {}
  exact ⟨s'.player, by rw [parsePlayerShow, hs']; rfl⟩

/-! ## What is printed -/

/-- A line `key: value`, indented. -/
def field (key : String) (value : List Char) : List Char :=
  '\t' :: (key.toList ++ ':' :: ' ' :: value)

/-- A key that no player's line begins with. -/
structure Key (key : String) : Prop where
  noColon : ':' ∉ key.toList
  noSpace : ∀ c ∈ key.toList, isSpace c = false

/-- A printed field, stripped: key, colon and value. -/
theorem strip_field {key : String} (hkey : Key key) {value : List Char} (hvalue : Trimmed value) :
    ∃ tail, strip (field key value) = key.toList ++ ':' :: tail ∧ strip tail = value := by
  have hfirst : ∀ tail, ∀ c ∈ (key.toList ++ ':' :: tail).head?, isSpace c = false := by
    intro tail c hc
    cases hk : key.toList with
    | nil =>
      rw [hk] at hc
      obtain rfl := Option.some.inj hc
      rfl
    | cons a k =>
      rw [hk] at hc
      obtain rfl := Option.some.inj hc
      exact hkey.noSpace a (by rw [hk]; exact List.mem_cons_self)
  have htab : ∀ c ∈ ['\t'], isSpace c = true := by decide
  cases value with
  | nil =>
    refine ⟨[], ?_, rfl⟩
    have hlast : ∀ c ∈ (key.toList ++ [':']).getLast?, isSpace c = false := by
      intro c hc
      rw [List.getLast?_concat] at hc
      obtain rfl := Option.some.inj hc
      rfl
    have hstrip := strip_pad ⟨hfirst [], hlast⟩ ['\t'] [' '] htab (by decide)
    rwa [List.append_assoc] at hstrip
  | cons a v =>
    refine ⟨' ' :: a :: v, ?_, ?_⟩
    · have hlast : ∀ c ∈ (key.toList ++ ':' :: ' ' :: a :: v).getLast?, isSpace c = false := by
        intro c hc
        refine hvalue.last c ?_
        rwa [List.getLast?_append_of_ne_nil _ (by simp), List.getLast?_cons_cons,
          List.getLast?_cons_cons] at hc
      have hstrip := strip_pad ⟨hfirst _, hlast⟩ ['\t'] [] htab (List.forall_mem_nil _)
      rwa [List.append_nil] at hstrip
    · have hstrip := strip_pad hvalue [' '] [] (by decide) (List.forall_mem_nil _)
      rwa [List.append_nil] at hstrip

/-- Such a line sets its entry. -/
theorem entry_field {key : String} (hkey : Key key) {value : List Char} (hvalue : Trimmed value)
    (s : Shown) : s.entry (strip (field key value)) =
      { s with values := (key.toList, value) :: s.values } := by
  obtain ⟨tail, hline, htail⟩ := strip_field hkey hvalue
  have hstrip : strip key.toList = key.toList := strip_trimmed (trimmed_of_forall hkey.noSpace)
  rw [Shown.entry, hline, if_pos (by simp), partition_append hkey.noColon]
  show { s with values := (strip key.toList, strip tail) :: s.values } = _
  rw [hstrip, htail]

/-- A printed field is read as this key with this value. -/
theorem playerLine_field {key : String} (hkey : Key key) {value : List Char} (hvalue : Trimmed value)
    (s : Shown) : s.playerLine (field key value) =
      .ok { s with values := (key.toList, value) :: s.values } := by
  obtain ⟨tail, hline, -⟩ := strip_field hkey hvalue
  have hother : "Player ".toList.isPrefixOf (strip (field key value)) = false := by
    refine Bool.eq_false_of_not_eq_true fun hplayer => ?_
    obtain ⟨rest, hrest⟩ := List.isPrefixOf_iff_prefix.mp hplayer
    rw [hline] at hrest
    rcases List.append_eq_append_iff.mp hrest with ⟨k, hk, -⟩ | ⟨k, hk, hcolon⟩
    · exact absurd (hkey.noSpace ' ' (by rw [hk]; simp)) (by decide)
    · cases k with
      | nil =>
        rw [List.append_nil] at hk
        exact absurd (hkey.noSpace ' ' (by rw [← hk]; decide)) (by decide)
      | cons c k =>
        obtain rfl := (List.cons.inj hcolon).1
        exact absurd (show ':' ∈ "Player ".toList by rw [hk]; simp) (by decide)
  rw [Shown.playerLine, hother, if_neg Bool.false_ne_true, entry_field hkey hvalue]

/-- A value that fits on its line. -/
def OneLine (v : List Char) : Prop := Trimmed v ∧ ∀ c ∈ v, isLineBreak c = false

instance (v : List Char) : Decidable (OneLine v) := inferInstanceAs (Decidable (_ ∧ _))

/-- The lines of some fields, one after another. -/
def fieldLines (fields : List (String × List Char)) : List (List Char) :=
  fields.map fun f => field f.1 f.2

/-- What the dictionary holds after them. -/
def Shown.with (s : Shown) (fields : List (String × List Char)) : Shown :=
  { s with values := (fields.map fun f => (f.1.toList, f.2)).reverse ++ s.values }

theorem Shown.with_cons (s : Shown) (f : String × List Char) (rest : List (String × List Char)) :
    ({ s with values := (f.1.toList, f.2) :: s.values } : Shown).with rest = s.with (f :: rest) := by
  simp [Shown.with]

/-- So are all of them, in order. -/
theorem playerLine_fields {fields : List (String × List Char)}
    (h : ∀ f ∈ fields, Key f.1 ∧ Trimmed f.2) (s : Shown) :
    (fieldLines fields).foldlM Shown.playerLine s = .ok (s.with fields) := by
  induction fields generalizing s with
  | nil => rfl
  | cons f rest ih =>
    obtain ⟨hkey, hvalue⟩ := h f List.mem_cons_self
    show (field f.1 f.2 :: fieldLines rest).foldlM Shown.playerLine s = _
    rw [List.foldlM_cons, playerLine_field hkey hvalue, ← Shown.with_cons]
    exact ih (fun g hg => h g (List.mem_cons_of_mem f hg)) _

/-- And by the other parser. -/
theorem entry_fields {fields : List (String × List Char)}
    (h : ∀ f ∈ fields, Key f.1 ∧ Trimmed f.2) (s : Shown) :
    (fieldLines fields).foldl (fun s rawLine => s.entry (strip rawLine)) s = s.with fields := by
  induction fields generalizing s with
  | nil => rfl
  | cons f rest ih =>
    obtain ⟨hkey, hvalue⟩ := h f List.mem_cons_self
    show (field f.1 f.2 :: fieldLines rest).foldl _ s = _
    rw [List.foldl_cons, entry_field hkey hvalue, ← Shown.with_cons]
    exact ih (fun g hg => h g (List.mem_cons_of_mem f hg)) _

/-- A field that is printed if it is there. -/
def optional (key : String) (value : Option (List Char)) : List (String × List Char) :=
  (value.map (key, ·)).toList

theorem Shown.with_append (s : Shown) (before after : List (String × List Char)) :
    s.with (before ++ after) = (s.with before).with after := by
  simp [Shown.with]

/-- A field that was printed is found. -/
theorem get_optional_self (s : Shown) (key : String) (value : Option (List Char)) :
    (s.with (optional key value)).get key = value.or (s.get key) := by
  cases value with
  | none => rfl
  | some v => simp [optional, Shown.with, Shown.get]

/-- Fields of other keys do not matter. -/
theorem get_optional_ne (s : Shown) {key key' : String} (h : key' ≠ key) (value : Option (List Char)) :
    (s.with (optional key value)).get key' = s.get key' := by
  cases value with
  | none => rfl
  | some v =>
    have hne : (key'.toList == key.toList) = false :=
      beq_false_of_ne fun hlist => h (String.toList_inj.mp hlist)
    show ((key.toList, v) :: s.values).lookup key'.toList = _
    rw [List.lookup_cons, hne]
    rfl

@[simp] theorem with_playerPath (s : Shown) (fields : List (String × List Char)) :
    (s.with fields).playerPath = s.playerPath := rfl

/-! ## Players -/

/-- A number as `bluetoothctl` prints it. -/
def integerText (n : Int) : List Char := numeral 10 n.toNat

namespace PlayerState

variable (p : PlayerState)

/-- What there is to print of a player. -/
def entries : List (String × Option (List Char)) :=
  [("Name", p.name), ("Status", some p.status), ("Position", p.positionMs.map integerText),
    ("Track.Title", p.track.title), ("Track.Artist", p.track.artist), ("Track.Album", p.track.album),
    ("Track.Duration", p.track.durationMs.map integerText),
    ("Track.TrackNumber", p.track.trackNumber.map integerText),
    ("Track.NumberOfTracks", p.track.numberOfTracks.map integerText)]

/-- The fields that are printed of a player. -/
def fields : List (String × List Char) := p.entries.flatMap fun e => optional e.1 e.2

/-- What is printed of a player, line by line. -/
def lines : List (List Char) :=
  ("Player ".toList ++ (p.path ++ " [default]".toList)) :: fieldLines p.fields

/-- The texts of a player, and its numbers. -/
def texts : List (List Char) :=
  p.status :: [p.name, p.track.title, p.track.artist, p.track.album].filterMap id

/-- The numbers of a player. -/
def integers : List Int :=
  [p.positionMs, p.track.durationMs, p.track.trackNumber, p.track.numberOfTracks].filterMap id

/-- A player that can be printed: its path is a word, a text is on one line, without space at its ends,
    and a number is no longer than Python reads. -/
structure Printable : Prop where
  path : p.path ≠ [] ∧ ∀ c ∈ p.path, isSpace c = false
  texts : ∀ v ∈ p.texts, OneLine v
  integers : ∀ n ∈ p.integers, 0 ≤ n ∧ (integerText n).length ≤ maxStrDigits
  status : lower p.status = p.status

end PlayerState

/-- The first line gives the path. -/
theorem playerLine_player {path : List Char} (hpath : path ≠ [] ∧ ∀ c ∈ path, isSpace c = false)
    (s : Shown) : s.playerLine ("Player ".toList ++ (path ++ " [default]".toList)) =
      .ok { s with playerPath := some path } := by
  have htrimmed : Trimmed ("Player ".toList ++ (path ++ " [default]".toList)) := by
    constructor
    · intro c hc
      obtain rfl : 'P' = c := Option.some.inj hc
      rfl
    · intro c hc
      rw [List.getLast?_append_of_ne_nil _ (by simp), List.getLast?_append_of_ne_nil _ (by simp)] at hc
      obtain rfl : ']' = c := Option.some.inj hc
      rfl
  have hwords : words ("Player ".toList ++ (path ++ " [default]".toList)) =
      ["Player".toList, path, "[default]".toList] := by
    rw [show "Player ".toList ++ (path ++ " [default]".toList) =
      "Player".toList ++ ' ' :: (path ++ ' ' :: "[default]".toList) from rfl,
      words_pair (by decide) (by decide) rfl, words_pair hpath.1 hpath.2 rfl,
      words_one (by decide) (by decide)]
  rw [Shown.playerLine, strip_trimmed htrimmed, hwords, if_pos]
  · rfl
  · exact List.isPrefixOf_iff_prefix.mpr (List.prefix_append _ _)

/-- A number is read back. -/
theorem int0_integerText {n : Int} (hn : 0 ≤ n) (hlength : (integerText n).length ≤ maxStrDigits) :
    int0 (integerText n) = some n := by
  rw [integerText, int0_decimal hlength, Int.toNat_of_nonneg hn]

theorem integerText_oneLine (n : Int) : OneLine (integerText n) := by
  obtain ⟨-, hdigits⟩ := numeral_digits (show 2 ≤ 10 by omega) (show 10 ≤ 16 by omega) n.toNat
  have hplain : ∀ c ∈ integerText n, isSpace c = false := by
    intro c hc
    obtain ⟨d, hd, rfl⟩ := hdigits c hc
    exact (digitChar_plain (by omega)).1
  exact ⟨trimmed_of_forall hplain, fun c hc => no_break (hplain c hc)⟩

theorem forall_optional {P : String × List Char → Prop} {key : String} {value : Option (List Char)}
    (h : ∀ v ∈ value, P (key, v)) : ∀ f ∈ optional key value, P f := by
  intro f hf
  obtain ⟨v, hv, rfl⟩ := Option.map_eq_some_iff.mp (Option.mem_toList.mp hf)
  exact h v hv

/-- Each field of a printable player fits on its line. -/
theorem PlayerState.Printable.fields {p : PlayerState} (hp : p.Printable) :
    ∀ f ∈ p.fields, Key f.1 ∧ OneLine f.2 := by
  have htext : ∀ {value : Option (List Char)}, (∀ v ∈ value, v ∈ p.texts) → ∀ v ∈ value, OneLine v :=
    fun hmem v hv => hp.texts v (hmem v hv)
  have hnumber : ∀ {value : Option Int}, ∀ v ∈ value.map integerText, OneLine v := fun v hv => by
    obtain ⟨n, -, rfl⟩ := Option.map_eq_some_iff.mp hv
    exact integerText_oneLine n
  have hentries : ∀ e ∈ p.entries, Key e.1 ∧ ∀ v ∈ e.2, OneLine v := by
    simp only [PlayerState.entries, List.forall_mem_cons]
    refine ⟨⟨⟨by decide, by decide⟩, htext ?_⟩, ⟨⟨by decide, by decide⟩, fun v hv => ?_⟩,
      ⟨⟨by decide, by decide⟩, hnumber⟩, ⟨⟨by decide, by decide⟩, htext ?_⟩,
      ⟨⟨by decide, by decide⟩, htext ?_⟩, ⟨⟨by decide, by decide⟩, htext ?_⟩,
      ⟨⟨by decide, by decide⟩, hnumber⟩, ⟨⟨by decide, by decide⟩, hnumber⟩,
      ⟨⟨by decide, by decide⟩, hnumber⟩, List.forall_mem_nil _⟩
    case refine_2 =>
      obtain rfl := Option.mem_some.mp hv
      exact hp.texts _ List.mem_cons_self
    all_goals
      intro v hv
      simp [PlayerState.texts, Option.mem_def.mp hv]
  intro f hf
  obtain ⟨e, he, hf⟩ := List.mem_flatMap.mp hf
  obtain ⟨hkey, hvalue⟩ := hentries e he
  exact forall_optional (P := fun f => Key f.1 ∧ OneLine f.2) (fun v hv => ⟨hkey, hvalue v hv⟩) f hf

/-- A printed field has no break in it. -/
theorem field_oneLine {key : String} (hkey : Key key) {value : List Char} (hvalue : OneLine value) :
    ∀ c ∈ field key value, isLineBreak c = false := by
  intro c hc
  simp only [field, List.mem_cons, List.mem_append] at hc
  rcases hc with rfl | hc | rfl | rfl | hc
  · rfl
  · exact no_break (hkey.noSpace c hc)
  · rfl
  · rfl
  · exact hvalue.2 c hc

/-- A number that may be missing is read back. -/
theorem get_integer {p : PlayerState} (hp : p.Printable) {value : Option Int}
    (hmem : ∀ n ∈ value, n ∈ p.integers) : (value.map integerText).bind int0 = value := by
  cases value with
  | none => rfl
  | some n =>
    obtain ⟨hn, hlength⟩ := hp.integers n (hmem n rfl)
    exact int0_integerText hn hlength

/-- **A player that is printed is read back**, whatever control sequences are put in between. -/
theorem player_show_read {p : PlayerState} (hp : p.Printable) {s : List Char}
    (h : Coloured (unlines p.lines) s) : parsePlayerShow s = .ok (some p) := by
  have hlines : ∀ l ∈ p.lines, ∀ c ∈ l, isLineBreak c = false := by
    intro l hl
    rcases List.mem_cons.mp hl with rfl | hl
    · intro c hc
      simp only [List.mem_append] at hc
      rcases hc with hc | hc | hc
      · exact (show ∀ c ∈ "Player ".toList, isLineBreak c = false by decide) c hc
      · exact no_break (hp.path.2 c hc)
      · exact (show ∀ c ∈ " [default]".toList, isLineBreak c = false by decide) c hc
    · obtain ⟨f, hf, rfl⟩ := List.mem_map.mp hl
      exact field_oneLine (hp.fields f hf).1 (hp.fields f hf).2
  have hfields := playerLine_fields (fun f hf => ⟨(hp.fields f hf).1, (hp.fields f hf).2.1⟩)
    { playerPath := some p.path }
  rw [parsePlayerShow, removeEscapes_coloured h, splitlines_unlines hlines, PlayerState.lines,
    List.foldlM_cons, playerLine_player hp.path]
  show Except.map Shown.player ((fieldLines p.fields).foldlM Shown.playerLine _) = _
  rw [hfields]
  show Except.ok (Shown.player _) = _
  have hnone : ∀ key, ({ playerPath := some p.path } : Shown).get key = none := fun _ => rfl
  have hposition : (p.positionMs.map integerText).bind int0 = p.positionMs :=
    get_integer hp fun n hn => by simp [PlayerState.integers, Option.mem_def.mp hn]
  have hduration : (p.track.durationMs.map integerText).bind int0 = p.track.durationMs :=
    get_integer hp fun n hn => by simp [PlayerState.integers, Option.mem_def.mp hn]
  have hnumber : (p.track.trackNumber.map integerText).bind int0 = p.track.trackNumber :=
    get_integer hp fun n hn => by simp [PlayerState.integers, Option.mem_def.mp hn]
  have hcount : (p.track.numberOfTracks.map integerText).bind int0 = p.track.numberOfTracks :=
    get_integer hp fun n hn => by simp [PlayerState.integers, Option.mem_def.mp hn]
  simp (disch := decide) only [Shown.player, with_playerPath, Option.map_some, PlayerState.fields,
    PlayerState.entries, List.flatMap_cons, List.flatMap_nil, List.append_nil, Shown.with_append,
    Shown.integer, get_optional_self, get_optional_ne, hnone, Option.or_none, Option.getD_some,
    hp.status, hposition, hduration, hnumber, hcount]

/-- A player with a record on. -/
def soWhat : PlayerState where
  path := "/org/bluez/hci0/dev_AA_BB/player0".toList
  name := some "iPhone".toList
  status := "playing".toList
  positionMs := some 42000
  track :=
    { title := some "So What: take 1".toList
      artist := some "Miles Davis".toList
      album := some []
      durationMs := some 545000
      trackNumber := none
      numberOfTracks := none }

/-- A record, coloured: it is read back. -/
theorem player_show_read_soWhat :
    parsePlayerShow ('\x1b' :: '[' :: ("0;94".toList ++ ([] ++ 'm' :: unlines soWhat.lines))) =
      .ok (some soWhat) := by
  have hprintable : soWhat.Printable := ⟨by decide, by decide, by decide, by decide⟩
  exact player_show_read hprintable
    (.escape (by decide) (by decide) (by decide) (.plain (by decide)))

/-! ## Transports -/

/-- A transport, as bluetoothctl knows it. -/
structure Transport where
  path : List Char
  uuid : List Char
  state : List Char
  volume : Option Nat

namespace Transport

variable (t : Transport)

/-- A line of `transport.list`. -/
def listLine : List Char := "Transport ".toList ++ t.path

/-- A volume, in both bases; the first is padded with zeros. -/
def volumeText (zeros volume : Nat) : List Char :=
  '0' :: 'x' :: (List.replicate zeros '0' ++ numeral 16 volume ++
    (" (".toList ++ (numeral 10 volume ++ [')'])))

/-- `transport.show`. -/
def lines (zeros : Nat) : List (List Char) :=
  t.listLine :: fieldLines (optional "UUID" (some t.uuid) ++ optional "State" (some t.state) ++
    optional "Volume" (t.volume.map (volumeText zeros)))

/-- What the model of the volume poll is given of it. -/
def details : TransportDetails where
  active := lower t.state = "active".toList
  audioSink := decide ("Audio Sink".toList <:+: t.uuid)
  volume := t.volume.map fun volume => (volume : ℤ)

/-- A transport that fits on its lines. -/
structure Printable : Prop where
  path : t.path.head? = some '/' ∧ ∀ c ∈ t.path, isSpace c = false ∧ c ≠ ':'
  uuid : OneLine t.uuid
  state : OneLine t.state

end Transport

theorem Transport.Printable.path_ne_nil {t : Transport} (ht : t.Printable) : t.path ≠ [] := by
  intro hnil
  have hhead := ht.path.1
  rw [hnil] at hhead
  cases hhead

theorem trimmed_listLine {t : Transport} (ht : t.Printable) : Trimmed t.listLine := by
  have hfirst : t.listLine.head? = some 'T' := by
    unfold Transport.listLine
    simp
  have hlast : t.listLine.getLast? = t.path.getLast? := by
    unfold Transport.listLine
    exact List.getLast?_append_of_ne_nil _ ht.path_ne_nil
  constructor
  · intro a ha
    obtain rfl := Option.some.inj (hfirst.symm.trans ha)
    rfl
  · intro a ha
    rw [hlast] at ha
    exact (ht.path.2 a (List.mem_of_getLast? ha)).1

/-- A line of the list gives its path. -/
theorem transportPath_listLine {t : Transport} (ht : t.Printable) :
    transportPath t.listLine = some t.path := by
  have hwords : words t.listLine = ["Transport".toList, t.path] := by
    have hline : t.listLine = "Transport".toList ++ ' ' :: t.path := rfl
    rw [hline, words_pair (by decide) (by decide) (by decide),
      words_one ht.path_ne_nil fun c hc => (ht.path.2 c hc).1]
  have hslash : ['/'].isPrefixOf t.path = true := by
    obtain ⟨c, path, hpath⟩ := List.exists_cons_of_ne_nil ht.path_ne_nil
    have hhead := ht.path.1
    rw [hpath] at hhead ⊢
    obtain rfl := Option.some.inj hhead
    rfl
  rw [transportPath, strip_trimmed (trimmed_listLine ht), hwords]
  exact if_pos ⟨rfl, hslash⟩

theorem listLine_oneLine {t : Transport} (ht : t.Printable) :
    ∀ c ∈ t.listLine, isLineBreak c = false := by
  intro c hc
  rcases List.mem_append.mp hc with hc | hc
  · exact (show ∀ c ∈ "Transport ".toList, isLineBreak c = false by decide) c hc
  · exact no_break (ht.path.2 c hc).1

/-- The lines of the list give the paths. -/
theorem transport_paths {ts : List Transport} (hts : ∀ t ∈ ts, t.Printable) :
    (ts.map Transport.listLine).filterMap transportPath = ts.map Transport.path := by
  induction ts with
  | nil => rfl
  | cons t rest ih =>
    rw [List.map_cons, List.filterMap_cons_some (transportPath_listLine (hts t List.mem_cons_self)),
      ih fun a ha => hts a (List.mem_cons_of_mem t ha)]
    rfl

/-- A hexadecimal number is found whole. -/
theorem numberAt_hex {t : List Char} (h : t.takeWhile isHexDigit ≠ []) :
    numberAt ('0' :: 'x' :: t) = some ('0' :: 'x' :: t.takeWhile isHexDigit) := by
  unfold numberAt
  exact if_pos h

/-- The number that is found is the hexadecimal one. -/
theorem searchNumber_volumeText (zeros volume : Nat) :
    searchNumber (Transport.volumeText zeros volume) =
      some ('0' :: 'x' :: (List.replicate zeros '0' ++ numeral 16 volume)) := by
  obtain ⟨hne, hdigits⟩ := numeral_digits (show 2 ≤ 16 by omega) (le_refl 16) volume
  have hhex : ∀ c ∈ List.replicate zeros '0' ++ numeral 16 volume, isHexDigit c = true := by
    intro c hc
    rcases List.mem_append.mp hc with hc | hc
    · rw [List.eq_of_mem_replicate hc]
      rfl
    · obtain ⟨d, hd, rfl⟩ := hdigits c hc
      rw [isHexDigit, digitValue_digitChar hd]
      exact decide_eq_true hd
  have htake : (List.replicate zeros '0' ++ numeral 16 volume ++
      (" (".toList ++ (numeral 10 volume ++ [')']))).takeWhile isHexDigit =
      List.replicate zeros '0' ++ numeral 16 volume :=
    takeWhile_append_stop hhex (b := ' ') rfl _
  have hnumber : numberAt (Transport.volumeText zeros volume) =
      some ('0' :: 'x' :: (List.replicate zeros '0' ++ numeral 16 volume)) := by
    have hat := numberAt_hex (htake ▸ List.append_ne_nil_of_right_ne_nil _ hne)
    rwa [htake] at hat
  unfold Transport.volumeText at hnumber ⊢
  rw [searchNumber, hnumber]
  rfl

theorem volumeText_oneLine (zeros volume : Nat) : OneLine (Transport.volumeText zeros volume) := by
  have hnumeral : ∀ base, 2 ≤ base → base ≤ 16 → ∀ c ∈ numeral base volume, isSpace c = false := by
    intro base h2 h16 c hc
    obtain ⟨d, hd, rfl⟩ := (numeral_digits h2 h16 volume).2 c hc
    exact (digitChar_plain (hd.trans_le h16)).1
  have hlast : (Transport.volumeText zeros volume).getLast? = some ')' := by
    have hclose : Transport.volumeText zeros volume = ('0' :: 'x' :: (List.replicate zeros '0' ++
        numeral 16 volume ++ (" (".toList ++ numeral 10 volume))) ++ [')'] := by
      unfold Transport.volumeText
      simp
    rw [hclose, List.getLast?_concat]
  refine ⟨⟨fun c hc => ?_, fun c hc => ?_⟩, fun c hc => ?_⟩
  · obtain rfl : '0' = c := Option.some.inj hc
    rfl
  · obtain rfl := Option.some.inj (hlast.symm.trans hc)
    rfl
  · unfold Transport.volumeText at hc
    simp only [List.mem_cons, List.mem_append, List.not_mem_nil, or_false] at hc
    rcases hc with rfl | rfl | (hc | hc) | hc | hc | rfl
    · rfl
    · rfl
    · rw [List.eq_of_mem_replicate hc]
      rfl
    · exact no_break (hnumeral 16 (by omega) (by omega) c hc)
    · exact (show ∀ c ∈ " (".toList, isLineBreak c = false by decide) c hc
    · exact no_break (hnumeral 10 (by omega) (by omega) c hc)
    · rfl

/-- Each field of a printable transport fits on its line. -/
theorem Transport.Printable.fields {t : Transport} (ht : t.Printable) (zeros : Nat) :
    ∀ f ∈ optional "UUID" (some t.uuid) ++ optional "State" (some t.state) ++
      optional "Volume" (t.volume.map (Transport.volumeText zeros)), Key f.1 ∧ OneLine f.2 := by
  have huuid : Key "UUID" := ⟨by decide, by decide⟩
  have hstate : Key "State" := ⟨by decide, by decide⟩
  have hvolume : Key "Volume" := ⟨by decide, by decide⟩
  simp only [List.forall_mem_append]
  refine ⟨⟨forall_optional fun v hv => ?_, forall_optional fun v hv => ?_⟩,
    forall_optional fun v hv => ?_⟩
  · obtain rfl := Option.mem_some.mp hv
    exact ⟨huuid, ht.uuid⟩
  · obtain rfl := Option.mem_some.mp hv
    exact ⟨hstate, ht.state⟩
  · obtain ⟨n, -, rfl⟩ := Option.map_eq_some_iff.mp hv
    exact ⟨hvolume, volumeText_oneLine zeros n⟩

/-- What is shown of a transport is read as the poll takes it. -/
theorem transport_volume {t : Transport} (ht : t.Printable) {zeros : Nat} {s : List Char}
    (h : Coloured (unlines (t.lines zeros)) s) :
    parseTransportVolume s = .ok (PhonoConsole.parseTransportVolume t.details) := by
  have hlines : ∀ l ∈ t.lines zeros, ∀ c ∈ l, isLineBreak c = false := by
    intro l hl
    rcases List.mem_cons.mp hl with rfl | hl
    · exact listLine_oneLine ht
    · obtain ⟨f, hf, rfl⟩ := List.mem_map.mp hl
      exact field_oneLine (ht.fields zeros f hf).1 (ht.fields zeros f hf).2
  have hfirst : Shown.entry {} (strip t.listLine) = {} := by
    have hcolon : ':' ∉ t.listLine := by
      intro hc
      rcases List.mem_append.mp hc with hc | hc
      · exact absurd hc (by decide)
      · exact (ht.path.2 ':' hc).2 rfl
    rw [strip_trimmed (trimmed_listLine ht), Shown.entry, if_neg hcolon]
  have hfields := entry_fields
    (fun f hf => ⟨(ht.fields zeros f hf).1, (ht.fields zeros f hf).2.1⟩) {}
  have hread : (splitlines (removeEscapes s)).foldl
      (fun s rawLine => s.entry (strip rawLine)) ({} : Shown) =
        Shown.with {} (optional "UUID" (some t.uuid) ++ optional "State" (some t.state) ++
          optional "Volume" (t.volume.map (Transport.volumeText zeros))) := by
    rw [removeEscapes_coloured h, splitlines_unlines hlines, Transport.lines, List.foldl_cons, hfirst,
      hfields]
  have hnone : ∀ key, ({} : Shown).get key = none := fun _ => rfl
  rw [parseTransportVolume, hread]
  simp (disch := decide) only [Shown.with_append, get_optional_self, get_optional_ne, hnone,
    Option.or_none, Option.getD_some]
  unfold PhonoConsole.parseTransportVolume Transport.details
  generalize "active".toList = active
  generalize "Audio Sink".toList = audioSink
  by_cases hactive : lower t.state = active
  · rw [if_neg (not_not.mpr hactive)]
    by_cases hsink : audioSink <:+: t.uuid
    · rw [if_neg (not_not.mpr hsink)]
      cases hvolume : t.volume with
      | none => simp [hactive, hsink, searchNumber]
      | some volume =>
        simp only [Option.map_some, Option.getD_some, searchNumber_volumeText, int0_hex]
        simp [hactive, hsink]
    · rw [if_pos hsink]
      simp [hactive, hsink]
  · rw [if_pos hactive]
    simp [hactive]

/-- **Transports that are printed are read back**: the list gives their paths, and each of them the
    volume that the poll takes from its state, its UUID and its number. -/
theorem transports_read {ts : List Transport} (hts : ∀ t ∈ ts, t.Printable) {listing : List Char}
    (h : Coloured (unlines (ts.map Transport.listLine)) listing) :
    parseTransportPaths listing = ts.map Transport.path ∧
    ∀ t ∈ ts, ∀ zeros s, Coloured (unlines (t.lines zeros)) s →
      parseTransportVolume s = .ok (PhonoConsole.parseTransportVolume t.details) := by
  refine ⟨?_, fun t ht zeros s hs => transport_volume (hts t ht) hs⟩
  rw [parseTransportPaths, removeEscapes_coloured h, splitlines_unlines, transport_paths hts]
  intro l hl
  obtain ⟨t, ht, rfl⟩ := List.mem_map.mp hl
  exact listLine_oneLine (hts t ht)

/-- A phone that plays, and a headset. -/
def twoTransports : List Transport :=
  [⟨"/org/bluez/hci0/dev_CC_DD/fd1".toList, "Headset (00001108)".toList, "idle".toList, none⟩,
    ⟨"/org/bluez/hci0/dev_AA_BB/fd0".toList, "Audio Sink (0000110b)".toList, "active".toList, some 64⟩]

/-- Of a headset and a phone that plays, the phone has a volume. -/
theorem transports_read_phone :
    parseTransportPaths (unlines (twoTransports.map Transport.listLine)) =
      ["/org/bluez/hci0/dev_CC_DD/fd1".toList, "/org/bluez/hci0/dev_AA_BB/fd0".toList] ∧
    twoTransports.map (fun t => parseTransportVolume (unlines (t.lines 2))) =
      [.ok none, .ok (some 64)] := by
  have hprintable : ∀ t ∈ twoTransports, t.Printable := by
    simp only [twoTransports, List.forall_mem_cons]
    exact ⟨⟨by decide, by decide, by decide⟩, ⟨by decide, by decide, by decide⟩, List.forall_mem_nil _⟩
  obtain ⟨hpaths, hvolume⟩ := transports_read hprintable (.plain (by decide))
  refine ⟨hpaths, ?_⟩
  have hplain : ∀ t ∈ twoTransports, '\x1b' ∉ unlines (t.lines 2) := by decide
  rw [List.map_congr_left fun t ht => hvolume t ht 2 _ (.plain (hplain t ht))]
  decide

end PhonoConsole.BluetoothText
