import Mathlib.Data.List.Basic
import Mathlib.Data.List.Lemmas
import Mathlib.Data.List.Nodup
import Mathlib.Data.List.TakeWhile

/-!
# The text exposition format

Metric families are written line by line: a `HELP` line, a `TYPE` line, and a line for
each sample with its labels in braces.  Label values may be any text; a backslash, a
double quote and a newline are escaped in them.  A reader of the format gets back the
samples that were written.  Values are read here where they are plain decimal numerals,
without a timestamp.
-/

namespace Prometheus

/-- Label names with their values, in the order they are written. -/
abbrev Labels := List (String × String)

structure Sample where
  metric : String
  labels : Labels
  value : Nat
  deriving DecidableEq, Repr

/-! ## Names and values -/

def isLabelChar (char : Char) : Bool := char.isAlphanum || char == '_'

def isMetricChar (char : Char) : Bool := isLabelChar char || char == ':'

/-- Names are not empty and do not start with a digit. -/
def isName (allowed : Char → Bool) : List Char → Bool
  | [] => false
  | first :: rest => !first.isDigit && (first :: rest).all allowed

def ValidName (allowed : Char → Bool) (name : String) : Prop :=
  isName allowed name.toList = true

theorem ValidName.split {allowed : Char → Bool} {name : String}
    (valid : ValidName allowed name) :
    ∃ first rest, name.toList = first :: rest ∧ first.isDigit = false ∧
      ∀ char ∈ first :: rest, allowed char = true := by
  rw [ValidName] at valid
  cases chars : name.toList with
  | nil =>
      rw [chars] at valid
      cases valid
  | cons first rest =>
      rw [chars, isName, Bool.and_eq_true, Bool.not_eq_true', List.all_eq_true] at valid
      exact ⟨first, rest, rfl, valid⟩

def isBlank (char : Char) : Bool := char == ' ' || char == '\t'

def skipBlanks (chars : List Char) : List Char := chars.dropWhile isBlank

def expect (char : Char) : List Char → Option (List Char)
  | [] => none
  | first :: rest => if first = char then some rest else none

/-- The longest name at the front. -/
def readName (allowed : Char → Bool) (chars : List Char) : Option (String × List Char) :=
  match chars.takeWhile allowed with
  | [] => none
  | first :: rest =>
      if first.isDigit then none
      else some (String.ofList (first :: rest), chars.dropWhile allowed)

def escapeChar (char : Char) : List Char :=
  if char = '\\' then ['\\', '\\']
  else if char = '"' then ['\\', '"']
  else if char = '\n' then ['\\', 'n']
  else [char]

def unescapeChar (char : Char) : Option Char :=
  if char = '\\' then some '\\'
  else if char = '"' then some '"'
  else if char = 'n' then some '\n'
  else none

/-- A label value up to its closing quote. -/
def readValue : List Char → Option (List Char × List Char)
  | [] => none
  | '"' :: rest => some ([], rest)
  | '\\' :: escaped :: rest => do
      let char ← unescapeChar escaped
      let (value, rest) ← readValue rest
      some (char :: value, rest)
  | char :: rest => do
      let (value, rest) ← readValue rest
      some (char :: value, rest)

/-- Labels up to the closing brace; a comma may stand behind the last one. -/
def readLabels : Nat → List Char → Option (Labels × List Char)
  | 0, _ => none
  | fuel + 1, chars =>
      match expect '}' (skipBlanks chars) with
      | some rest => some ([], rest)
      | none => do
          let (name, chars) ← readName isLabelChar (skipBlanks chars)
          let chars ← expect '=' (skipBlanks chars)
          let chars ← expect '"' (skipBlanks chars)
          let (value, chars) ← readValue chars
          match expect ',' (skipBlanks chars) with
          | some rest => do
              let (labels, rest) ← readLabels fuel rest
              some ((name, String.ofList value) :: labels, rest)
          | none => do
              let rest ← expect '}' (skipBlanks chars)
              some ([(name, String.ofList value)], rest)

/-- A decimal numeral that ends the line. -/
def readNumber (chars : List Char) : Option Nat :=
  let digits := chars.takeWhile Char.isDigit
  if digits = [] ∨ skipBlanks (chars.dropWhile Char.isDigit) ≠ [] then none
  else some (Nat.ofDigitChars 10 digits 0)

/-! ## Lines -/

inductive Entry where
  | help (metric : String)
  | type (metric kind : String)
  | sample (sample : Sample)
  deriving DecidableEq, Repr

namespace Entry

def metric : Entry → String
  | .help metric => metric
  | .type metric _ => metric
  | .sample written => written.metric

def sample? : Entry → Option Sample
  | .sample written => some written
  | _ => none

/-- A metric has one `HELP` line and one `TYPE` line, the latter in front of its samples,
and no two samples with the same labels. -/
def compatible : Entry → Entry → Bool
  | .help earlier, .help later => earlier != later
  | .type earlier _, .type later _ => earlier != later
  | .sample earlier, .type later _ => earlier.metric != later
  | .sample earlier, .sample later =>
      earlier.metric != later.metric || earlier.labels != later.labels
  | _, _ => true

end Entry

def kinds : List String := ["counter", "gauge", "histogram", "summary", "untyped"]

def readSample (chars : List Char) : Option Sample := do
  let (metric, chars) ← readName isMetricChar chars
  let (labels, chars) ←
    match expect '{' (skipBlanks chars) with
    | some rest => readLabels chars.length rest
    | none => some ([], chars)
  let value ← readNumber (skipBlanks chars)
  some { metric, labels, value }

/-- What stands behind a number sign; any other text there is a comment. -/
def readComment (chars : List Char) : Option (Option Entry) :=
  let word := (skipBlanks chars).takeWhile (!isBlank ·)
  let rest := skipBlanks ((skipBlanks chars).dropWhile (!isBlank ·))
  if word = "HELP".toList then do
    let (metric, _) ← readName isMetricChar rest
    some (some (.help metric))
  else if word = "TYPE".toList then do
    let (metric, rest) ← readName isMetricChar rest
    let kind := String.ofList (skipBlanks rest)
    if kind ∈ kinds then some (some (.type metric kind)) else none
  else some none

def readLine (line : List Char) : Option (Option Entry) :=
  match skipBlanks line with
  | [] => some none
  | first :: rest =>
      if first = '#' then readComment rest
      else do
        let sample ← readSample (first :: rest)
        some (some (.sample sample))

/-- The lines of a text in which every line is ended. -/
def readLines : List Char → Option (List (List Char))
  | [] => some []
  | char :: rest =>
      if char = '\n' then (readLines rest).map ([] :: ·)
      else
        match readLines rest with
        | some (line :: lines) => some ((char :: line) :: lines)
        | _ => none

/-- All lines of a metric stand together. -/
def contiguous : List String → Bool
  | [] => true
  | metric :: rest => !(rest.dropWhile (· == metric)).contains metric && contiguous rest

/-- The samples of a text in the exposition format. -/
def parse (text : String) : Option (List Sample) := do
  let lines ← readLines text.toList
  let entries ← lines.mapM readLine
  let entries := entries.filterMap id
  if entries.Pairwise (Entry.compatible · ·) ∧ contiguous (entries.map Entry.metric) then
    some (entries.filterMap Entry.sample?)
  else none

/-! ## Writing -/

def formatLabel (label : String × String) : List Char :=
  label.1.toList ++ '=' :: '"' :: (label.2.toList.flatMap escapeChar ++ ['"'])

def formatPairs : Labels → List Char
  | [] => []
  | [label] => formatLabel label
  | label :: next :: labels => formatLabel label ++ ',' :: formatPairs (next :: labels)

def formatLabels (labels : Labels) : List Char := '{' :: (formatPairs labels ++ ['}'])

/-- All samples of one metric. -/
structure Family where
  metric : String
  kind : String
  help : String
  samples : List (Labels × Nat)

namespace Family

def sampleLine (family : Family) (sample : Labels × Nat) : List Char :=
  family.metric.toList ++ formatLabels sample.1 ++ ' ' :: sample.2.repr.toList

def lines (family : Family) : List (List Char) :=
  ("# HELP ".toList ++ family.metric.toList ++ ' ' :: family.help.toList) ::
    ("# TYPE ".toList ++ family.metric.toList ++ ' ' :: family.kind.toList) ::
      family.samples.map family.sampleLine

def entries (family : Family) : List Entry :=
  .help family.metric :: .type family.metric family.kind ::
    family.samples.map fun sample => .sample ⟨family.metric, sample.1, sample.2⟩

/-- A family that can be written and read back. -/
structure Valid (family : Family) : Prop where
  metric : ValidName isMetricChar family.metric
  kind : family.kind ∈ kinds
  help : '\n' ∉ family.help.toList
  names : ∀ sample ∈ family.samples, ∀ label ∈ sample.1, ValidName isLabelChar label.1
  distinct : (family.samples.map Prod.fst).Nodup

end Family

def write (families : List Family) : List Char :=
  (families.flatMap Family.lines).flatMap (· ++ ['\n'])

/-! ## Reading what was written -/

theorem readName_append {allowed : Char → Bool} {name : String} (valid : ValidName allowed name)
    {next : Char} (ends : allowed next = false) (rest : List Char) :
    readName allowed (name.toList ++ next :: rest) = some (name, next :: rest) := by
  rcases valid.split with ⟨first, others, nameEq, notDigit, allAllowed⟩
  have taken : (name.toList ++ next :: rest).takeWhile allowed = first :: others := by
    rw [nameEq, List.takeWhile_append_of_pos allAllowed,
      List.takeWhile_cons_of_neg (by simp [ends]), List.append_nil]
  have dropped : (name.toList ++ next :: rest).dropWhile allowed = next :: rest := by
    rw [nameEq, List.dropWhile_append_of_pos allAllowed,
      List.dropWhile_cons_of_neg (by simp [ends])]
  rw [readName, taken, dropped]
  simp only [notDigit, Bool.false_eq_true, if_false]
  rw [← nameEq, String.ofList_toList]

theorem skipBlanks_cons {first : Char} (solid : isBlank first = false) (rest : List Char) :
    skipBlanks (first :: rest) = first :: rest :=
  List.dropWhile_cons_of_neg (by simp [solid])

theorem skipBlanks_name {allowed : Char → Bool} {name : String} (valid : ValidName allowed name)
    (solid : ∀ char, allowed char = true → isBlank char = false) (rest : List Char) :
    skipBlanks (name.toList ++ rest) = name.toList ++ rest := by
  rcases valid.split with ⟨first, others, nameEq, -, allAllowed⟩
  rw [nameEq, List.cons_append]
  exact skipBlanks_cons (solid first (allAllowed first List.mem_cons_self)) _

theorem readValue_escapeChar (char : Char) (rest : List Char) :
    readValue (escapeChar char ++ rest) =
      (readValue rest).map fun (value, rest) => (char :: value, rest) := by
  by_cases backslash : char = '\\'
  · subst backslash
    cases read : readValue rest <;> simp [escapeChar, readValue, unescapeChar, read]
  · by_cases quote : char = '"'
    · subst quote
      cases read : readValue rest <;> simp [escapeChar, readValue, unescapeChar, read]
    · by_cases newline : char = '\n'
      · subst newline
        cases read : readValue rest <;> simp [escapeChar, readValue, unescapeChar, read]
      · cases read : readValue rest <;>
          simp [escapeChar, readValue, backslash, quote, newline, read]

/-- A written value ends at its closing quote and nowhere before. -/
theorem readValue_escape (value rest : List Char) :
    readValue (value.flatMap escapeChar ++ '"' :: rest) = some (value, rest) := by
  induction value with
  | nil => simp [readValue]
  | cons char value ih =>
      rw [List.flatMap_cons, List.append_assoc, readValue_escapeChar, ih, Option.map_some]

theorem isBlank_of_allowed {allowed : Char → Bool} (space : allowed ' ' = false)
    (tab : allowed '\t' = false) (char : Char) (isAllowed : allowed char = true) :
    isBlank char = false := by
  rw [isBlank, Bool.or_eq_false_iff, beq_eq_false_iff_ne, beq_eq_false_iff_ne]
  constructor
  · rintro rfl
    rw [isAllowed] at space
    cases space
  · rintro rfl
    rw [isAllowed] at tab
    cases tab

theorem expect_self (char : Char) (rest : List Char) :
    expect char (char :: rest) = some rest := by
  simp [expect]

theorem expect_of_ne {char first : Char} (different : first ≠ char) (rest : List Char) :
    expect char (first :: rest) = none := by
  simp [expect, different]

/-- A name does not look like the punctuation that could stand in its place. -/
theorem expect_name {allowed : Char → Bool} {name : String} (valid : ValidName allowed name)
    {char : Char} (notAllowed : allowed char = false) (rest : List Char) :
    expect char (name.toList ++ rest) = none := by
  rcases valid.split with ⟨first, others, nameEq, -, allAllowed⟩
  rw [nameEq, List.cons_append]
  apply expect_of_ne
  rintro rfl
  rw [allAllowed first List.mem_cons_self] at notAllowed
  cases notAllowed

theorem formatLabel_append (label : String × String) (rest : List Char) :
    formatLabel label ++ rest =
      label.1.toList ++ '=' :: '"' :: (label.2.toList.flatMap escapeChar ++ '"' :: rest) := by
  simp [formatLabel]

/-- The part of reading a label that does not depend on what follows it. -/
theorem readLabels_front {label : String × String} (valid : ValidName isLabelChar label.1)
    (fuel : Nat) (rest : List Char) :
    readLabels (fuel + 1) (formatLabel label ++ rest) =
      match expect ',' (skipBlanks rest) with
      | some rest => (readLabels fuel rest).bind fun read => some (label :: read.1, read.2)
      | none => (expect '}' (skipBlanks rest)).bind fun rest => some ([label], rest) := by
  have solid := isBlank_of_allowed (show isLabelChar ' ' = false by decide) (by decide)
  have name := readName_append valid (show isLabelChar '=' = false by decide)
    ('"' :: (label.2.toList.flatMap escapeChar ++ '"' :: rest))
  rw [formatLabel_append, readLabels, skipBlanks_name valid solid,
    expect_name valid (by decide)]
  simp only [name, Option.bind_eq_bind, Option.bind_some, skipBlanks_cons (by decide : isBlank
    '=' = false), skipBlanks_cons (by decide : isBlank '"' = false), expect_self,
    readValue_escape, String.ofList_toList]

theorem readLabels_formatPairs {labels : Labels}
    (names : ∀ label ∈ labels, ValidName isLabelChar label.1) (rest : List Char) {fuel : Nat}
    (enough : labels.length < fuel) :
    readLabels fuel (formatPairs labels ++ '}' :: rest) = some (labels, rest) := by
  induction labels generalizing fuel with
  | nil =>
      cases fuel with
      | zero => cases enough
      | succ fuel =>
          rw [formatPairs, List.nil_append, readLabels, skipBlanks_cons (by decide),
            expect_self]
  | cons label labels ih =>
      cases fuel with
      | zero => cases enough
      | succ fuel =>
          have valid := names label List.mem_cons_self
          cases labels with
          | nil =>
              rw [formatPairs, readLabels_front valid, skipBlanks_cons (by decide),
                expect_of_ne (by decide), expect_self]
              rfl
          | cons next labels =>
              have tail := ih (fun other membership =>
                names other (List.mem_cons_of_mem _ membership)) (Nat.lt_of_succ_lt_succ enough)
              rw [formatPairs, List.append_assoc, List.cons_append, readLabels_front valid,
                skipBlanks_cons (by decide), expect_self]
              simp only [tail, Option.bind_some]

/-- Written labels determine their names and values. -/
theorem formatLabels_injective {left right : Labels}
    (leftNames : ∀ label ∈ left, ValidName isLabelChar label.1)
    (rightNames : ∀ label ∈ right, ValidName isLabelChar label.1)
    (same : formatLabels left = formatLabels right) : left = right := by
  have samePairs : formatPairs left ++ ['}'] = formatPairs right ++ ['}'] :=
    (List.cons.inj same).2
  have readLeft := readLabels_formatPairs leftNames []
    (Nat.lt_succ_of_le (Nat.le_max_left left.length right.length))
  have readRight := readLabels_formatPairs rightNames []
    (Nat.lt_succ_of_le (Nat.le_max_right left.length right.length))
  rw [samePairs, readRight] at readLeft
  exact (congrArg Prod.fst (Option.some.inj readLeft)).symm

/-! ### Lines -/

theorem readNumber_repr (value : Nat) : readNumber value.repr.toList = some value := by
  rw [Nat.repr_eq_ofList_toDigits, String.toList_ofList]
  have digits : ∀ char ∈ Nat.toDigits 10 value, char.isDigit = true := by
    intro char membership
    exact Nat.isDigit_of_mem_toDigits (by decide) (by decide) membership
  have taken : (Nat.toDigits 10 value).takeWhile Char.isDigit = Nat.toDigits 10 value :=
    List.takeWhile_eq_self_iff.mpr digits
  have dropped : (Nat.toDigits 10 value).dropWhile Char.isDigit = [] :=
    List.dropWhile_eq_nil_iff.mpr digits
  simp [readNumber, taken, dropped, skipBlanks, Nat.toDigits_ne_nil,
    Nat.ofDigitChars_ten_toDigits]

theorem skipBlanks_repr (value : Nat) (rest : List Char) :
    skipBlanks (' ' :: (value.repr.toList ++ rest)) = value.repr.toList ++ rest := by
  rw [Nat.repr_eq_ofList_toDigits, String.toList_ofList]
  cases digits : Nat.toDigits 10 value with
  | nil => exact (Nat.toDigits_ne_nil digits).elim
  | cons first others =>
      have isDigit : first.isDigit = true := by
        apply Nat.isDigit_of_mem_toDigits (b := 10) (n := value) (by decide) (by decide)
        rw [digits]
        exact List.mem_cons_self
      have solid := isBlank_of_allowed (show Char.isDigit ' ' = false by decide) (by decide)
        first isDigit
      rw [skipBlanks, List.dropWhile_cons_of_pos (by decide), List.cons_append]
      exact skipBlanks_cons solid _

theorem formatPairs_length (labels : Labels) : labels.length ≤ (formatPairs labels).length := by
  induction labels with
  | nil => exact Nat.le_refl 0
  | cons label labels ih =>
      cases labels with
      | nil =>
          simp only [formatPairs, formatLabel, List.length_append, List.length_cons]
          omega
      | cons next labels =>
          simp only [formatPairs, List.length_append, List.length_cons] at ih ⊢
          omega

namespace Family

variable {family : Family}

theorem readLine_sampleLine (valid : family.Valid) {sample : Labels × Nat}
    (membership : sample ∈ family.samples) :
    readLine (family.sampleLine sample) =
      some (some (.sample ⟨family.metric, sample.1, sample.2⟩)) := by
  have solid := isBlank_of_allowed (show isMetricChar ' ' = false by decide) (by decide)
  have name := readName_append valid.metric (show isMetricChar '{' = false by decide)
    (formatPairs sample.1 ++ '}' :: (' ' :: sample.2.repr.toList))
  have labels := readLabels_formatPairs (valid.names sample membership)
    (' ' :: sample.2.repr.toList)
    (show sample.1.length < ('{' :: (formatPairs sample.1 ++ '}' ::
        (' ' :: sample.2.repr.toList))).length by
      have bounded := formatPairs_length sample.1
      simp only [List.length_append, List.length_cons]
      omega)
  have blank := skipBlanks_repr sample.2 []
  rw [List.append_nil] at blank
  have read : readSample (family.metric.toList ++ '{' :: (formatPairs sample.1 ++ '}' ::
      (' ' :: sample.2.repr.toList))) = some ⟨family.metric, sample.1, sample.2⟩ := by
    simp only [readSample, name, Option.bind_eq_bind, Option.bind_some,
      skipBlanks_cons (show isBlank '{' = false by decide), expect_self, labels, blank,
      readNumber_repr]
  have line : family.sampleLine sample = family.metric.toList ++ '{' ::
      (formatPairs sample.1 ++ '}' :: (' ' :: sample.2.repr.toList)) := by
    simp [sampleLine, formatLabels]
  rw [line, readLine, skipBlanks_name valid.metric solid]
  rcases valid.metric.split with ⟨first, others, nameEq, -, allAllowed⟩
  rw [nameEq, List.cons_append] at read ⊢
  have notComment : first ≠ '#' := by
    rintro rfl
    exact absurd (allAllowed _ List.mem_cons_self) (by decide)
  simp only [if_neg notComment, read, Option.bind_eq_bind, Option.bind_some]

theorem readLine_help (valid : family.Valid) :
    readLine ("# HELP ".toList ++ family.metric.toList ++ ' ' :: family.help.toList) =
      some (some (.help family.metric)) := by
  have solid := isBlank_of_allowed (show isMetricChar ' ' = false by decide) (by decide)
  have name := readName_append valid.metric (show isMetricChar ' ' = false by decide)
    family.help.toList
  have metric := skipBlanks_name valid.metric solid (' ' :: family.help.toList)
  rw [skipBlanks] at metric
  simp [readLine, readComment, skipBlanks, isBlank, metric, name]

theorem readLine_type (valid : family.Valid) :
    readLine ("# TYPE ".toList ++ family.metric.toList ++ ' ' :: family.kind.toList) =
      some (some (.type family.metric family.kind)) := by
  have solid := isBlank_of_allowed (show isMetricChar ' ' = false by decide) (by decide)
  have name := readName_append valid.metric (show isMetricChar ' ' = false by decide)
    family.kind.toList
  have metric := skipBlanks_name valid.metric solid (' ' :: family.kind.toList)
  have kind : skipBlanks (' ' :: family.kind.toList) = family.kind.toList := by
    have known := valid.kind
    simp only [kinds, List.mem_cons, List.not_mem_nil, or_false] at known
    rcases known with known | known | known | known | known <;> rw [known] <;> decide
  have isKind := valid.kind
  rw [skipBlanks] at metric kind
  simp [readLine, readComment, skipBlanks, isBlank, metric, name, kind, isKind]

theorem mapM_readLine_lines (valid : family.Valid) :
    family.lines.mapM readLine = some (family.entries.map some) := by
  have samples : ∀ samples ⊆ family.samples, (samples.map family.sampleLine).mapM readLine =
      some ((samples.map fun sample =>
        Entry.sample ⟨family.metric, sample.1, sample.2⟩).map some) := by
    intro samples isPart
    induction samples with
    | nil => rfl
    | cons sample samples ih =>
        rw [List.map_cons, List.mapM_cons,
          readLine_sampleLine valid (isPart List.mem_cons_self),
          ih fun _ membership => isPart (List.mem_cons_of_mem _ membership)]
        rfl
  rw [lines, List.mapM_cons, readLine_help valid, List.mapM_cons, readLine_type valid,
    samples _ (List.Subset.refl _)]
  rfl

/-! ### Texts -/

theorem newline_notMem_name {allowed : Char → Bool} {name : String}
    (valid : ValidName allowed name) (newline : allowed '\n' = false) : '\n' ∉ name.toList := by
  rcases valid.split with ⟨first, others, nameEq, -, allAllowed⟩
  intro membership
  rw [nameEq] at membership
  rw [allAllowed _ membership] at newline
  cases newline

theorem newline_notMem_escape (value : List Char) : '\n' ∉ value.flatMap escapeChar := by
  intro membership
  rcases List.mem_flatMap.mp membership with ⟨char, -, escaped⟩
  simp only [escapeChar] at escaped
  split at escaped
  · simp at escaped
  · split at escaped
    · simp at escaped
    · split at escaped
      · simp at escaped
      · next different => exact different (List.mem_singleton.mp escaped).symm

theorem newline_notMem_formatPairs {labels : Labels}
    (names : ∀ label ∈ labels, ValidName isLabelChar label.1) : '\n' ∉ formatPairs labels := by
  have single : ∀ label ∈ labels, '\n' ∉ formatLabel label := by
    intro label membership
    have name := newline_notMem_name (names label membership) (by decide)
    have value := newline_notMem_escape label.2.toList
    simp only [formatLabel, List.mem_append, List.mem_cons, List.not_mem_nil, or_false, not_or]
    exact ⟨name, by decide, by decide, value, by decide⟩
  induction labels with
  | nil => exact List.not_mem_nil
  | cons label labels ih =>
      have first := single label List.mem_cons_self
      cases labels with
      | nil => exact first
      | cons next labels =>
          have rest := ih (fun other membership => names other (List.mem_cons_of_mem _ membership))
            (fun other membership => single other (List.mem_cons_of_mem _ membership))
          simp only [formatPairs, List.mem_append, List.mem_cons, not_or]
          exact ⟨first, by decide, rest⟩

theorem newline_notMem_lines (valid : family.Valid) :
    ∀ line ∈ family.lines, '\n' ∉ line := by
  have metric := newline_notMem_name valid.metric (by decide)
  have kind : '\n' ∉ family.kind.toList := by
    have known := valid.kind
    simp only [kinds, List.mem_cons, List.not_mem_nil, or_false] at known
    rcases known with known | known | known | known | known <;> rw [known] <;> decide
  intro line membership
  simp only [lines, List.mem_cons, List.mem_map] at membership
  rcases membership with rfl | rfl | ⟨sample, sampleMembership, rfl⟩
  · simp [metric, valid.help]
  · simp [metric, kind]
  · have pairs := newline_notMem_formatPairs (valid.names sample sampleMembership)
    have digits : '\n' ∉ Nat.toDigits 10 sample.2 := by
      intro isDigit
      exact absurd (Nat.isDigit_of_mem_toDigits (by decide) (by decide) isDigit) (by decide)
    simp [sampleLine, formatLabels, metric, pairs, digits]

end Family

theorem readLines_append {line : List Char} (oneLine : '\n' ∉ line) (rest : List Char) :
    readLines (line ++ '\n' :: rest) = (readLines rest).map (line :: ·) := by
  induction line with
  | nil => simp [readLines]
  | cons char line ih =>
      simp only [List.mem_cons, not_or] at oneLine
      rw [List.cons_append, readLines, if_neg (Ne.symm oneLine.1), ih oneLine.2]
      cases readLines rest <;> rfl

theorem readLines_flatMap {lines : List (List Char)} (oneLine : ∀ line ∈ lines, '\n' ∉ line) :
    readLines (lines.flatMap (· ++ ['\n'])) = some lines := by
  induction lines with
  | nil => rfl
  | cons line lines ih =>
      rw [List.flatMap_cons, List.append_assoc, List.singleton_append,
        readLines_append (oneLine line List.mem_cons_self),
        ih fun other membership => oneLine other (List.mem_cons_of_mem _ membership),
        Option.map_some]

theorem compatible_of_ne {earlier later : Entry} (different : earlier.metric ≠ later.metric) :
    earlier.compatible later = true := by
  cases earlier <;> cases later <;> simp_all [Entry.compatible, Entry.metric]

namespace Family

variable {family : Family}

theorem metric_of_mem_entries {entry : Entry} (membership : entry ∈ family.entries) :
    entry.metric = family.metric := by
  simp only [entries, List.mem_cons, List.mem_map] at membership
  rcases membership with rfl | rfl | ⟨sample, -, rfl⟩ <;> rfl

theorem entries_compatible (valid : family.Valid) :
    family.entries.Pairwise (Entry.compatible · ·) := by
  have distinct := List.pairwise_map.mp valid.distinct
  simp only [entries, List.pairwise_cons, List.mem_cons, List.mem_map]
  constructor
  · rintro entry (rfl | ⟨sample, -, rfl⟩) <;> rfl
  constructor
  · rintro entry ⟨sample, -, rfl⟩
    rfl
  · rw [List.pairwise_map]
    apply distinct.imp
    intro earlier later different
    simp [Entry.compatible, different]

/-- The samples a reader should find. -/
def readBack (family : Family) : List Sample :=
  family.samples.map fun sample => ⟨family.metric, sample.1, sample.2⟩

theorem filterMap_sample_entries : family.entries.filterMap Entry.sample? = family.readBack := by
  rw [entries, List.filterMap_cons_none rfl, List.filterMap_cons_none rfl, List.filterMap_map,
    readBack, ← List.filterMap_eq_map]
  rfl

end Family

theorem contiguous_append (metric : String) {block rest : List String}
    (sameMetric : ∀ other ∈ block, other = metric) (absent : metric ∉ rest)
    (ordered : contiguous rest = true) : contiguous (block ++ rest) = true := by
  induction block with
  | nil => exact ordered
  | cons first block ih =>
      have same := sameMetric first List.mem_cons_self
      have sameTail := fun other membership => sameMetric other (List.mem_cons_of_mem _ membership)
      have dropped : (block ++ rest).dropWhile (· == first) ⊆ rest := by
        rw [List.dropWhile_append_of_pos fun other membership => by
          rw [same, sameTail other membership, beq_self_eq_true]]
        exact (List.dropWhile_sublist _).subset
      rw [List.cons_append, contiguous, ih sameTail, Bool.and_true, Bool.not_eq_true',
        List.contains_eq_mem, decide_eq_false_iff_not]
      intro membership
      rw [same] at dropped membership
      exact absent (dropped membership)

theorem contiguous_entries {families : List Family}
    (distinct : (families.map Family.metric).Nodup) :
    contiguous ((families.flatMap Family.entries).map Entry.metric) = true := by
  induction families with
  | nil => rfl
  | cons family families ih =>
      simp only [List.map_cons, List.nodup_cons] at distinct
      rw [List.flatMap_cons, List.map_append]
      apply contiguous_append family.metric _ _ (ih distinct.2)
      · intro metric membership
        rcases List.mem_map.mp membership with ⟨entry, ofFamily, rfl⟩
        exact Family.metric_of_mem_entries ofFamily
      · intro membership
        rcases List.mem_map.mp membership with ⟨entry, written, sameMetric⟩
        rcases List.mem_flatMap.mp written with ⟨other, otherMembership, ofOther⟩
        rw [Family.metric_of_mem_entries ofOther] at sameMetric
        exact distinct.1 (sameMetric ▸ List.mem_map_of_mem otherMembership)

/-- **Round trip.**  What was written is read back, sample by sample. -/
theorem parse_write {families : List Family} (valid : ∀ family ∈ families, family.Valid)
    (distinct : (families.map Family.metric).Nodup) :
    parse (String.ofList (write families)) = some (families.flatMap Family.readBack) := by
  have lines : readLines (write families) = some (families.flatMap Family.lines) := by
    apply readLines_flatMap
    intro line membership
    rcases List.mem_flatMap.mp membership with ⟨family, familyMembership, ofFamily⟩
    exact Family.newline_notMem_lines (valid family familyMembership) line ofFamily
  have entries : (families.flatMap Family.lines).mapM readLine =
      some ((families.flatMap Family.entries).map some) := by
    clear distinct lines
    induction families with
    | nil => rfl
    | cons family families ih =>
        rw [List.flatMap_cons, List.mapM_append,
          Family.mapM_readLine_lines (valid family List.mem_cons_self),
          ih fun other membership => valid other (List.mem_cons_of_mem _ membership),
          List.flatMap_cons, List.map_append]
        rfl
  have ordered : (families.flatMap Family.entries).Pairwise (Entry.compatible · ·) := by
    rw [List.pairwise_flatMap]
    constructor
    · intro family membership
      exact Family.entries_compatible (valid family membership)
    · apply (List.pairwise_map.mp distinct).imp
      intro left right different earlier ofLeft later ofRight
      apply compatible_of_ne
      rw [Family.metric_of_mem_entries ofLeft, Family.metric_of_mem_entries ofRight]
      exact different
  have samples : (families.flatMap Family.entries).filterMap Entry.sample? =
      families.flatMap Family.readBack := by
    rw [List.filterMap_flatMap]
    simp only [Family.filterMap_sample_entries]
  have reduced : ((families.flatMap Family.entries).map some).filterMap id =
      families.flatMap Family.entries := by
    rw [List.filterMap_map, Function.id_comp, List.filterMap_some]
  simp only [parse, String.toList_ofList, lines, entries, reduced, Option.bind_eq_bind,
    Option.bind_some, samples]
  rw [if_pos ⟨ordered, contiguous_entries distinct⟩]

/-- No two samples that are read have the same metric and the same labels. -/
theorem parse_nodup {text : String} {samples : List Sample} (parsed : parse text = some samples) :
    (samples.map fun sample => (sample.metric, sample.labels)).Nodup := by
  simp only [parse, Option.bind_eq_bind, Option.bind_eq_some_iff] at parsed
  rcases parsed with ⟨lines, -, entries, -, ordered⟩
  split at ordered
  · next compatible =>
      cases ordered
      rw [List.Nodup, List.pairwise_map, List.pairwise_filterMap]
      apply compatible.1.imp
      intro earlier later ok sample isEarlier other isLater same
      cases earlier <;> cases isEarlier
      cases later <;> cases isLater
      rw [Prod.mk.injEq] at same
      simp [Entry.compatible, same.1, same.2] at ok
  · cases ordered

/-! ## Readings -/

/-- What is read for a series; an absent one shows nothing yet. -/
def reading (samples : List Sample) (metric : String) (labels : Labels) : Nat :=
  ((samples.find? fun sample => sample.metric = metric ∧ sample.labels = labels).map
    Sample.value).getD 0

/-- The sample of a series is its reading. -/
theorem reading_of_mem {samples : List Sample}
    (distinct : (samples.map fun sample => (sample.metric, sample.labels)).Nodup)
    {metric : String} {labels : Labels} {value : Nat}
    (membership : ⟨metric, labels, value⟩ ∈ samples) :
    reading samples metric labels = value := by
  rw [reading]
  cases found : samples.find? fun sample => sample.metric = metric ∧ sample.labels = labels with
  | none =>
      have absent := List.find?_eq_none.mp found _ membership
      simp at absent
  | some sample =>
      have series := List.find?_some found
      simp only [decide_eq_true_eq] at series
      have same := List.inj_on_of_nodup_map distinct (List.mem_of_find?_eq_some found)
        membership (Prod.ext series.1 series.2)
      rw [same]
      rfl

theorem reading_of_absent {samples : List Sample} {metric : String} {labels : Labels}
    (absent : ∀ value, ⟨metric, labels, value⟩ ∉ samples) :
    reading samples metric labels = 0 := by
  rw [reading]
  cases found : samples.find? fun sample => sample.metric = metric ∧ sample.labels = labels with
  | none => rfl
  | some sample =>
      have series := List.find?_some found
      simp only [decide_eq_true_eq] at series
      rcases series with ⟨rfl, rfl⟩
      exact absurd (List.mem_of_find?_eq_some found) (absent sample.value)

end Prometheus
