/-
  TEXT: what a parser of lines asks of a string, with Python's meaning of it, over lists of
  characters.

  * `splitlines`, `strip`, `words`, `partition` — the string methods;
  * `removeEscapes`  — `re.sub` of the control sequences of a terminal, `ESC [ … letter`;
  * `Coloured`       — a text with control sequences put in anywhere;
  * `removeEscapes_coloured` — they are removed again, wherever they stand;
  * `int0`           — `int(s, 0)`;
  * `splitlines_unlines`, `strip_pad`, `words_pair`, `int0_decimal`, `int0_hex` — how each of them
    reads what was written.

  Digits are those of ASCII.
-/
import Mathlib.Data.List.DropRight
import Mathlib.Data.Nat.Digits.Lemmas

namespace Text

/-! ## The characters of a text -/

-- Else they would be decided by going through all characters there are.
instance (priority := 2000) forallMem (P : Char → Prop) [DecidablePred P] (s : List Char) :
    Decidable (∀ c ∈ s, P c) := List.decidableBAll P s

instance (priority := 2000) forallMemOption (P : Char → Prop) [DecidablePred P] (o : Option Char) :
    Decidable (∀ c ∈ o, P c) := Option.decidableForallMem o

/-! ## String methods -/

/-- `str.isspace`. -/
def isSpace (c : Char) : Bool :=
  let n := c.toNat
  (9 ≤ n && n ≤ 13) || (28 ≤ n && n ≤ 32) || n == 0x85 || n == 0xa0 || n == 0x1680 ||
    (0x2000 ≤ n && n ≤ 0x200a) || n == 0x2028 || n == 0x2029 || n == 0x202f || n == 0x205f ||
    n == 0x3000

/-- The line boundaries of `str.splitlines`. -/
def isLineBreak (c : Char) : Bool :=
  let n := c.toNat
  (10 ≤ n && n ≤ 13) || (28 ≤ n && n ≤ 30) || n == 0x85 || n == 0x2028 || n == 0x2029

/-- `str.splitlines`, from a line that has begun. -/
def splitlinesFrom (line : List Char) : List Char → List (List Char)
  | [] => if line = [] then [] else [line]
  | '\r' :: '\n' :: rest => line :: splitlinesFrom [] rest
  | c :: rest =>
    if isLineBreak c then line :: splitlinesFrom [] rest else splitlinesFrom (line ++ [c]) rest

/-- `str.splitlines()`. -/
def splitlines (s : List Char) : List (List Char) := splitlinesFrom [] s

/-- `str.strip`. -/
def strip (s : List Char) : List Char := (s.dropWhile isSpace).rdropWhile isSpace

/-- `str.split`, between runs of space. -/
def words (s : List Char) : List (List Char) := (s.splitOnP isSpace).filter (· ≠ [])

/-- `str.split(c, 1)` of a string in which `c` occurs. -/
def partition (c : Char) (s : List Char) : List Char × List Char :=
  (s.takeWhile (· ≠ c), (s.dropWhile (· ≠ c)).tail)

/-! ## Control sequences -/

/-- From `0` to `?`, from a blank to `/`, and from `@` to `~`. -/
def isParameter (c : Char) : Bool := 0x30 ≤ c.toNat && c.toNat ≤ 0x3f

/-- An intermediate byte of a control sequence. -/
def isIntermediate (c : Char) : Bool := 0x20 ≤ c.toNat && c.toNat ≤ 0x2f

/-- The final byte of a control sequence. -/
def isFinal (c : Char) : Bool := 0x40 ≤ c.toNat && c.toNat ≤ 0x7e

/-- The length of the control sequence at the beginning of a text.  No character is of two kinds, so
    that the greedy match is the only one. -/
def escapeLength : List Char → Option Nat
  | '\x1b' :: '[' :: t =>
    let rest := t.dropWhile isParameter
    match rest.dropWhile isIntermediate with
    | c :: after => if isFinal c then some (2 + t.length - after.length) else none
    | [] => none
  | _ => none

/-- What is left of a text, of which some characters are still to be dropped. -/
def removeEscapesFrom : Nat → List Char → List Char
  | _, [] => []
  | n + 1, _ :: t => removeEscapesFrom n t
  | 0, c :: t =>
    match escapeLength (c :: t) with
    | some n => removeEscapesFrom (n - 1) t
    | none => c :: removeEscapesFrom 0 t

/-- `re.sub` of the control sequences by nothing. -/
def removeEscapes (s : List Char) : List Char := removeEscapesFrom 0 s

/-- `Coloured plain s`: `s` is `plain` with control sequences put in. -/
inductive Coloured : List Char → List Char → Prop
  | nil : Coloured [] []
  | char {c : Char} {plain s : List Char} : c ≠ '\x1b' → Coloured plain s →
      Coloured (c :: plain) (c :: s)
  | escape {plain s parameters intermediates : List Char} {letter : Char} :
      (∀ c ∈ parameters, isParameter c = true) → (∀ c ∈ intermediates, isIntermediate c = true) →
      isFinal letter = true → Coloured plain s →
      Coloured plain ('\x1b' :: '[' :: (parameters ++ (intermediates ++ letter :: s)))

/-- A text without control sequences. -/
theorem Coloured.plain {s : List Char} (h : '\x1b' ∉ s) : Coloured s s := by
  induction s with
  | nil => exact .nil
  | cons c s ih =>
    obtain ⟨hc, hs⟩ := not_or.mp (List.mem_cons.not.mp h)
    exact .char (Ne.symm hc) (ih hs)

/-- What is dropped ends before the first that does not match. -/
theorem dropWhile_append_stop {α : Type} {p : α → Bool} {l : List α} (h : ∀ a ∈ l, p a = true) {b : α}
    (hb : p b = false) (rest : List α) : (l ++ b :: rest).dropWhile p = b :: rest := by
  rw [List.dropWhile_append_of_pos h, List.dropWhile_cons_of_neg (by simp [hb])]

/-- What is taken ends there too. -/
theorem takeWhile_append_stop {α : Type} {p : α → Bool} {l : List α} (h : ∀ a ∈ l, p a = true) {b : α}
    (hb : p b = false) (rest : List α) : (l ++ b :: rest).takeWhile p = l := by
  rw [List.takeWhile_append_of_pos h, List.takeWhile_cons_of_neg (by simp [hb]), List.append_nil]

/-- A control sequence in front of a text is found whole. -/
theorem escapeLength_escape {parameters intermediates : List Char} {letter : Char}
    (hp : ∀ c ∈ parameters, isParameter c = true) (hi : ∀ c ∈ intermediates, isIntermediate c = true)
    (hl : isFinal letter = true) (s : List Char) :
    escapeLength ('\x1b' :: '[' :: (parameters ++ (intermediates ++ letter :: s))) =
      some (2 + (parameters ++ (intermediates ++ [letter])).length) := by
  simp only [isFinal, Bool.and_eq_true, decide_eq_true_iff] at hl
  have hletter : isParameter letter = false ∧ isIntermediate letter = false := by
    constructor
    · simp only [isParameter, Bool.and_eq_false_iff, decide_eq_false_iff_not]
      omega
    · simp only [isIntermediate, Bool.and_eq_false_iff, decide_eq_false_iff_not]
      omega
  have hrest : (parameters ++ (intermediates ++ letter :: s)).dropWhile isParameter =
      intermediates ++ letter :: s := by
    cases intermediates with
    | nil => exact dropWhile_append_stop hp hletter.1 s
    | cons i rest =>
      have hfirst := hi i List.mem_cons_self
      simp only [isIntermediate, Bool.and_eq_true, decide_eq_true_iff] at hfirst
      have hstop : isParameter i = false := by
        simp only [isParameter, Bool.and_eq_false_iff, decide_eq_false_iff_not]
        omega
      exact dropWhile_append_stop hp hstop _
  have hafter := dropWhile_append_stop hi hletter.2 s
  have hfinal : isFinal letter = true := by simpa [isFinal] using hl
  simp only [escapeLength, hrest, hafter, if_pos hfinal]
  congr 1
  simp only [List.length_append, List.length_cons, List.length_nil]
  omega

/-- Within a sequence everything is dropped. -/
theorem removeEscapesFrom_append (l s : List Char) :
    removeEscapesFrom l.length (l ++ s) = removeEscapesFrom 0 s := by
  induction l with
  | nil => rfl
  | cons c l ih => exact ih

/-- **Control sequences are removed wherever they stand.** -/
theorem removeEscapes_coloured {plain s : List Char} (h : Coloured plain s) :
    removeEscapes s = plain := by
  induction h with
  | nil => rfl
  | @char c plain s hc _ ih =>
    have hnone : escapeLength (c :: s) = none := by
      unfold escapeLength
      split
      · exact absurd (List.cons.inj ‹_›).1 hc
      · rfl
    rw [removeEscapes, removeEscapesFrom, hnone]
    exact congrArg (c :: ·) ih
  | @escape plain s parameters intermediates letter hp hi hl _ ih =>
    rw [removeEscapes, removeEscapesFrom, escapeLength_escape hp hi hl]
    have hcount : 2 + (parameters ++ (intermediates ++ [letter])).length - 1 =
        ('[' :: (parameters ++ (intermediates ++ [letter]))).length := by
      rw [List.length_cons]
      omega
    show removeEscapesFrom (2 + (parameters ++ (intermediates ++ [letter])).length - 1) _ = _
    rw [hcount, show '[' :: (parameters ++ (intermediates ++ letter :: s)) =
      '[' :: (parameters ++ (intermediates ++ [letter])) ++ s by simp, removeEscapesFrom_append]
    exact ih

/-! ## Lines and words -/

theorem isSpace_of_isLineBreak {c : Char} (h : isLineBreak c = true) : isSpace c = true := by
  simp only [isLineBreak, Bool.or_eq_true, Bool.and_eq_true, decide_eq_true_iff, beq_iff_eq] at h
  simp only [isSpace, Bool.or_eq_true, Bool.and_eq_true, decide_eq_true_iff, beq_iff_eq]
  omega

theorem no_break {c : Char} (h : isSpace c = false) : isLineBreak c = false :=
  Bool.eq_false_of_not_eq_true fun hbreak =>
    Bool.false_ne_true (h.symm.trans (isSpace_of_isLineBreak hbreak))

/-- The lines of a file. -/
def unlines (lines : List (List Char)) : List Char := lines.flatMap (· ++ ['\n'])

/-- A line is split off at its break. -/
theorem splitlinesFrom_line {l : List Char} (hl : ∀ c ∈ l, isLineBreak c = false) (line rest : List Char) :
    splitlinesFrom line (l ++ '\n' :: rest) = (line ++ l) :: splitlinesFrom [] rest := by
  induction l generalizing line with
  | nil =>
    rw [List.append_nil, List.nil_append, splitlinesFrom]
    · rfl
    · exact nofun
  | cons c l ih =>
    have hc := hl c List.mem_cons_self
    have hr : c ≠ '\r' := by
      rintro rfl
      exact absurd hc (by decide)
    rw [List.cons_append, splitlinesFrom, if_neg (by simp [hc]),
      ih fun a ha => hl a (List.mem_cons_of_mem c ha), List.append_assoc]
    · rfl
    · exact fun _ h _ => absurd h hr

/-- Lines that were put together are split again. -/
theorem splitlines_unlines {lines : List (List Char)}
    (h : ∀ l ∈ lines, ∀ c ∈ l, isLineBreak c = false) : splitlines (unlines lines) = lines := by
  induction lines with
  | nil => rfl
  | cons l rest ih =>
    have hrest := ih fun a ha => h a (List.mem_cons_of_mem l ha)
    show splitlinesFrom [] ((l ++ ['\n']) ++ unlines rest) = _
    rw [List.append_assoc]
    show splitlinesFrom [] (l ++ '\n' :: unlines rest) = _
    rw [splitlinesFrom_line (h l List.mem_cons_self), List.nil_append]
    exact congrArg (l :: ·) hrest

/-- No space at either end. -/
structure Trimmed (s : List Char) : Prop where
  first : ∀ c ∈ s.head?, isSpace c = false
  last : ∀ c ∈ s.getLast?, isSpace c = false

instance (s : List Char) : Decidable (Trimmed s) :=
  decidable_of_iff ((∀ c ∈ s.head?, isSpace c = false) ∧ ∀ c ∈ s.getLast?, isSpace c = false)
    ⟨fun h => ⟨h.1, h.2⟩, fun h => ⟨h.first, h.last⟩⟩

/-- Blanks around a trimmed text are stripped. -/
theorem strip_pad {s : List Char} (hs : Trimmed s) (before after : List Char)
    (hb : ∀ c ∈ before, isSpace c = true) (ha : ∀ c ∈ after, isSpace c = true) :
    strip (before ++ (s ++ after)) = s := by
  rw [strip, List.dropWhile_append_of_pos hb]
  have hafter : ∀ t : List Char, (∀ c ∈ t.getLast?, isSpace c = false) →
      (t ++ after).rdropWhile isSpace = t := by
    intro t ht
    rw [List.rdropWhile, List.reverse_append,
      List.dropWhile_append_of_pos fun c hc => ha c (List.mem_reverse.mp hc)]
    cases t using List.reverseRecOn with
    | nil => rfl
    | append_singleton t c =>
      have hc := ht c (by simp)
      rw [List.reverse_append, List.reverse_singleton, List.singleton_append,
        List.dropWhile_cons_of_neg (by simp [hc]), List.reverse_cons, List.reverse_reverse]
  cases s with
  | nil =>
    have hall : after.dropWhile isSpace = [] := by
      rw [← List.append_nil after, List.dropWhile_append_of_pos ha]
      rfl
    rw [List.nil_append, hall]
    rfl
  | cons c s =>
    have hc := hs.first c rfl
    rw [List.cons_append, List.dropWhile_cons_of_neg (by simp [hc]), ← List.cons_append]
    exact hafter (c :: s) hs.last

/-- A word and a space before more words. -/
theorem words_pair {w : List Char} (hw : w ≠ []) (hword : ∀ c ∈ w, isSpace c = false) {c : Char}
    (hc : isSpace c = true) (rest : List Char) : words (w ++ c :: rest) = w :: words rest := by
  rw [words, List.splitOnP_append_cons_of_forall_mem hword c hc, List.filter_cons_of_pos (by simpa)]
  rfl

/-- One word. -/
theorem words_one {w : List Char} (hw : w ≠ []) (hword : ∀ c ∈ w, isSpace c = false) :
    words w = [w] := by
  rw [words, List.splitOnP_eq_singleton hword, List.filter_cons_of_pos (by simpa)]
  rfl

theorem words_cons {c : Char} (hc : isSpace c = true) (rest : List Char) :
    words (c :: rest) = words rest := by
  rw [words, List.splitOnP_cons_eq_if_modifyHead, if_pos hc, List.filter_cons_of_neg (by simp)]
  rfl

/-- There is a word where there is a letter. -/
theorem words_ne_nil {s : List Char} {c : Char} (hc : c ∈ s) (hletter : isSpace c = false) :
    words s ≠ [] := by
  induction s with
  | nil => exact absurd hc List.not_mem_nil
  | cons a s ih =>
    by_cases ha : isSpace a = true
    · rw [words_cons ha]
      refine ih ((List.mem_cons.mp hc).resolve_left ?_)
      rintro rfl
      exact absurd ha (by simp [hletter])
    · obtain ⟨w, ws, hsplit⟩ := List.exists_cons_of_ne_nil (List.splitOnP_ne_nil isSpace s)
      rw [words, List.splitOnP_cons_eq_if_modifyHead, if_neg ha, hsplit, List.modifyHead_cons,
        List.filter_cons_of_pos (by simp)]
      exact List.cons_ne_nil _ _

theorem strip_last {s : List Char} {c : Char} (hc : c ∈ (strip s).getLast?) : isSpace c = false := by
  have hne : strip s ≠ [] := by
    intro hnil
    rw [hnil] at hc
    exact nomatch hc
  have hlast := List.rdropWhile_last_not isSpace (s.dropWhile isSpace) hne
  rw [List.getLast?_eq_some_getLast hne] at hc
  obtain rfl := Option.some.inj hc
  exact Bool.eq_false_of_not_eq_true hlast

/-- The first colon parts key and value. -/
theorem partition_append {c : Char} {key : List Char} (h : c ∉ key) (value : List Char) :
    partition c (key ++ c :: value) = (key, value) := by
  have hkey : ∀ a ∈ key, decide (a ≠ c) = true := fun a ha =>
    decide_eq_true fun hac => h (hac ▸ ha)
  rw [partition, takeWhile_append_stop hkey (by simp), dropWhile_append_stop hkey (by simp)]
  rfl

/-! ## Numbers -/

/-- The value of a digit, in the bases up to 36. -/
def digitValue (c : Char) : Nat :=
  let n := c.toNat
  if 48 ≤ n ∧ n ≤ 57 then n - 48
  else if 97 ≤ n ∧ n ≤ 122 then n - 87
  else if 65 ≤ n ∧ n ≤ 90 then n - 55
  else 36

/-- Digits of a base, in groups between single underscores. -/
def number (base : Nat) (s : List Char) : Option Nat :=
  if (s.splitOn '_').all fun group => group ≠ [] ∧ ∀ c ∈ group, digitValue c < base then
    some ((s.filter (· ≠ '_')).foldl (fun n c => base * n + digitValue c) 0)
  else none

/-- The digits that may follow a prefix such as `0x`. -/
def afterPrefix (base : Nat) : List Char → Option Nat
  | '_' :: t => number base t
  | t => number base t

/-- `sys.get_int_max_str_digits()`, of decimals. -/
def maxStrDigits : Nat := 4300

/-- `int(s)` of a text of digits, which has a limit on their number. -/
def decimal (s : List Char) : Option Nat :=
  if (s.filter (· ≠ '_')).length ≤ maxStrDigits then number 10 s else none

/-- The literal without its sign: a decimal that begins with a zero is one. -/
def magnitude : List Char → Option Nat
  | '0' :: c :: t =>
    if c = 'x' ∨ c = 'X' then afterPrefix 16 t
    else if c = 'o' ∨ c = 'O' then afterPrefix 8 t
    else if c = 'b' ∨ c = 'B' then afterPrefix 2 t
    else (decimal ('0' :: c :: t)).filter (· = 0)
  | s => decimal s

/-- `int(s, 0)`; `none` where it raises `ValueError`. -/
def int0 (s : List Char) : Option Int :=
  match strip s with
  | '-' :: t => (magnitude t).map fun n => -(n : Int)
  | '+' :: t => (magnitude t).map fun n => (n : Int)
  | t => (magnitude t).map fun n => (n : Int)

/-- A number in digits. -/
def numeral (base n : Nat) : List Char :=
  if n = 0 then ['0'] else (Nat.digits base n).reverse.map Nat.digitChar

/-- A digit is read back. -/
theorem digitValue_digitChar {d : Nat} (h : d < 16) : digitValue d.digitChar = d := by
  interval_cases d <;> rfl

/-- A numeral is made of digits. -/
theorem numeral_digits {base : Nat} (h2 : 2 ≤ base) (h16 : base ≤ 16) (n : Nat) :
    numeral base n ≠ [] ∧ ∀ c ∈ numeral base n, ∃ d < base, c = d.digitChar := by
  unfold numeral
  split
  · exact ⟨by simp, fun c hc => ⟨0, by omega, List.mem_singleton.mp hc⟩⟩
  · rename_i hn
    refine ⟨by simpa using Nat.digits_ne_nil_iff_ne_zero.mpr hn, fun c hc => ?_⟩
    obtain ⟨d, hd, rfl⟩ := List.mem_map.mp hc
    exact ⟨d, Nat.digits_lt_base h2 (List.mem_reverse.mp hd), rfl⟩

/-- And read as the number it writes. -/
theorem foldl_numeral {base : Nat} (h2 : 2 ≤ base) (h16 : base ≤ 16) (n : Nat) :
    (numeral base n).foldl (fun n c => base * n + digitValue c) 0 = n := by
  unfold numeral
  split
  · rename_i hn
    subst hn
    rfl
  · have hread : ∀ digits : List Nat, (∀ d ∈ digits, d < base) →
        (digits.reverse.map Nat.digitChar).foldl (fun n c => base * n + digitValue c) 0 =
          Nat.ofDigits base digits := by
      intro digits hdigits
      induction digits with
      | nil => rfl
      | cons d rest ih =>
        rw [List.reverse_cons, List.map_append, List.foldl_append,
          ih fun a ha => hdigits a (List.mem_cons_of_mem d ha), Nat.ofDigits_cons]
        show base * Nat.ofDigits base rest + digitValue d.digitChar = _
        rw [digitValue_digitChar ((hdigits d List.mem_cons_self).trans_le h16), Nat.add_comm]
    rw [hread _ fun d hd => Nat.digits_lt_base h2 hd, Nat.ofDigits_digits]

/-- Zeros at its front do not count. -/
theorem foldl_zeros (base zeros : Nat) :
    (List.replicate zeros '0').foldl (fun n c => base * n + digitValue c) 0 = 0 := by
  induction zeros with
  | zero => rfl
  | succ k ih =>
    rw [List.replicate_succ, List.foldl_cons, show base * 0 + digitValue '0' = 0 from Nat.mul_zero base]
    exact ih

theorem digitChar_ne_underscore {d : Nat} (h : d < 16) : d.digitChar ≠ '_' := by
  interval_cases d <;> decide

/-- Digits are read as the number they write. -/
theorem number_numeral {base : Nat} (h2 : 2 ≤ base) (h16 : base ≤ 16) (zeros n : Nat) :
    number base (List.replicate zeros '0' ++ numeral base n) = some n := by
  obtain ⟨hne, hdigits⟩ := numeral_digits h2 h16 n
  have hall : ∀ c ∈ List.replicate zeros '0' ++ numeral base n, digitValue c < base ∧ c ≠ '_' := by
    intro c hc
    rcases List.mem_append.mp hc with hc | hc
    · rw [List.eq_of_mem_replicate hc]
      exact ⟨by show 0 < base; omega, by decide⟩
    · obtain ⟨d, hd, rfl⟩ := hdigits c hc
      rw [digitValue_digitChar (by omega)]
      exact ⟨hd, digitChar_ne_underscore (by omega)⟩
  have hsplit : (List.replicate zeros '0' ++ numeral base n).splitOn '_' =
      [List.replicate zeros '0' ++ numeral base n] := by
    rw [List.splitOn_eq_splitOnP]
    exact List.splitOnP_eq_singleton fun c hc => by simpa using (hall c hc).2
  have hfilter : (List.replicate zeros '0' ++ numeral base n).filter (· ≠ '_') =
      List.replicate zeros '0' ++ numeral base n :=
    List.filter_eq_self.mpr fun c hc => by simpa using (hall c hc).2
  rw [number, if_pos, hfilter, List.foldl_append, foldl_zeros, foldl_numeral h2 h16]
  rw [hsplit]
  simp only [List.all_cons, List.all_nil, Bool.and_true, decide_eq_true_iff]
  exact ⟨by simp [hne], fun c hc => (hall c hc).1⟩

theorem trimmed_of_forall {s : List Char} (h : ∀ c ∈ s, isSpace c = false) : Trimmed s :=
  ⟨fun c hc => h c (List.mem_of_head? hc), fun c hc => h c (List.mem_of_getLast? hc)⟩

/-- A trimmed text has nothing to strip. -/
theorem strip_trimmed {s : List Char} (h : Trimmed s) : strip s = s := by
  have hpad := strip_pad h [] [] (List.forall_mem_nil _) (List.forall_mem_nil _)
  rwa [List.nil_append, List.append_nil] at hpad

/-- A text of digits has no sign. -/
theorem int0_digits {s : List Char} (hs : ∀ c ∈ s, isSpace c = false ∧ c ≠ '-' ∧ c ≠ '+') :
    int0 s = (magnitude s).map fun n => (n : Int) := by
  rw [int0, strip_trimmed (trimmed_of_forall fun c hc => (hs c hc).1)]
  split
  · exact absurd rfl (hs '-' List.mem_cons_self).2.1
  · exact absurd rfl (hs '+' List.mem_cons_self).2.2
  · rfl

theorem digitChar_plain {d : Nat} (h : d < 16) :
    isSpace d.digitChar = false ∧ d.digitChar ≠ '-' ∧ d.digitChar ≠ '+' := by
  interval_cases d <;> decide

/-- A decimal number is read back. -/
theorem int0_decimal {n : Nat} (hn : (numeral 10 n).length ≤ maxStrDigits) :
    int0 (numeral 10 n) = some (n : Int) := by
  obtain ⟨hne, hdigits⟩ := numeral_digits (show 2 ≤ 10 by omega) (show 10 ≤ 16 by omega) n
  have hplain : ∀ c ∈ numeral 10 n, isSpace c = false ∧ c ≠ '-' ∧ c ≠ '+' := by
    intro c hc
    obtain ⟨d, hd, rfl⟩ := hdigits c hc
    exact digitChar_plain (by omega)
  have hdecimal : decimal (numeral 10 n) = some n := by
    rw [decimal, if_pos ((List.length_filter_le _ _).trans hn)]
    exact number_numeral (by omega) (by omega) 0 n
  rw [int0_digits hplain]
  have hmagnitude : magnitude (numeral 10 n) = decimal (numeral 10 n) := by
    unfold magnitude
    split
    · -- no number but zero begins with a zero
      rename_i c t hnumeral
      exfalso
      unfold numeral at hnumeral
      split at hnumeral
      · exact absurd (List.cons.inj hnumeral).2 (by simp)
      · rename_i hn
        have hne : Nat.digits 10 n ≠ [] := Nat.digits_ne_nil_iff_ne_zero.mpr hn
        have hhead := congrArg List.head? hnumeral
        rw [List.head?_map, List.head?_reverse, List.getLast?_eq_some_getLast hne] at hhead
        have hvalue := congrArg digitValue (Option.some.inj hhead)
        rw [digitValue_digitChar ((Nat.digits_lt_base (by omega) (List.getLast_mem hne)).trans
          (show 10 < 16 by omega))] at hvalue
        exact Nat.getLast_digit_ne_zero 10 hn hvalue
    · rfl
  rw [hmagnitude, hdecimal]
  rfl

/-- A hexadecimal number is read back, with zeros at its front. -/
theorem int0_hex (zeros n : Nat) :
    int0 ('0' :: 'x' :: (List.replicate zeros '0' ++ numeral 16 n)) = some (n : Int) := by
  obtain ⟨hne, hdigits⟩ := numeral_digits (show 2 ≤ 16 by omega) (le_refl 16) n
  have hplain : ∀ c ∈ '0' :: 'x' :: (List.replicate zeros '0' ++ numeral 16 n),
      isSpace c = false ∧ c ≠ '-' ∧ c ≠ '+' := by
    intro c hc
    simp only [List.mem_cons, List.mem_append] at hc
    rcases hc with rfl | rfl | hc | hc
    · decide
    · decide
    · rw [List.eq_of_mem_replicate hc]
      decide
    · obtain ⟨d, hd, rfl⟩ := hdigits c hc
      exact digitChar_plain hd
  have hafter : afterPrefix 16 (List.replicate zeros '0' ++ numeral 16 n) = some n := by
    have hnumber := number_numeral (show 2 ≤ 16 by omega) (le_refl 16) zeros n
    unfold afterPrefix
    split
    · rename_i t hunderscore
      have hmem : '_' ∈ List.replicate zeros '0' ++ numeral 16 n := hunderscore ▸ List.mem_cons_self
      rcases List.mem_append.mp hmem with hmem | hmem
      · exact absurd (List.eq_of_mem_replicate hmem) (by decide)
      · obtain ⟨d, hd, hchar⟩ := hdigits _ hmem
        exact absurd hchar.symm (digitChar_ne_underscore hd)
    · exact hnumber
  rw [int0_digits hplain, magnitude, if_pos (.inl rfl), hafter]
  rfl

end Text
