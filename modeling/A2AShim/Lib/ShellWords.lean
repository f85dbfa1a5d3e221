import Mathlib.Data.List.Basic

/-!
# Shell words

The rules by which a shell splits a line into words, without expansions.  What
is said of a splitting counts the characters that quote: a line loses each of
them that it makes use of.
-/

namespace ShellWords

inductive State where
  | delimiter
  | backslash
  | unquoted
  | unquotedBackslash
  | singleQuoted
  | doubleQuoted
  | doubleQuotedBackslash
  | comment
  deriving DecidableEq, Repr

/-- What a character does: it adds to the word, or it ends the word. -/
inductive Advance where
  | go (state : State) (added : List Char)
  | cut
  deriving DecidableEq, Repr

def isDelimiter (char : Char) : Bool :=
  char = ' ' || char = '\t' || char = '\n'

/-- Within double quotes, a backslash quotes these characters; before a newline
it takes the newline with it. -/
def isEscapable (char : Char) : Bool :=
  char = '$' || char = '\x60' || char = '"' || char = '\\' || char = '\n'

def advance : State → Char → Advance
  | .delimiter, char =>
      if char = '\'' then .go .singleQuoted []
      else if char = '"' then .go .doubleQuoted []
      else if char = '\\' then .go .backslash []
      else if isDelimiter char then .go .delimiter []
      else if char = '#' then .go .comment []
      else .go .unquoted [char]
  | .backslash, char =>
      if char = '\n' then .go .delimiter [] else .go .unquoted [char]
  | .unquoted, char =>
      if char = '\'' then .go .singleQuoted []
      else if char = '"' then .go .doubleQuoted []
      else if char = '\\' then .go .unquotedBackslash []
      else if isDelimiter char then .cut
      else .go .unquoted [char]
  | .unquotedBackslash, char =>
      if char = '\n' then .go .unquoted [] else .go .unquoted [char]
  | .singleQuoted, char =>
      if char = '\'' then .go .unquoted [] else .go .singleQuoted [char]
  | .doubleQuoted, char =>
      if char = '"' then .go .unquoted []
      else if char = '\\' then .go .doubleQuotedBackslash []
      else .go .doubleQuoted [char]
  | .doubleQuotedBackslash, char =>
      if char = '\n' then .go .doubleQuoted []
      else if isEscapable char then .go .doubleQuoted [char]
      else .go .doubleQuoted ['\\', char]
  | .comment, char =>
      if char = '\n' then .go .delimiter [] else .go .comment []

/-- The words at the end of the line; a quotation has to be closed. -/
def finish : State → List Char → Option (List (List Char))
  | .delimiter, _ => some []
  | .comment, _ => some []
  | .unquoted, word => some [word]
  | .backslash, word => some [word ++ ['\\']]
  | .unquotedBackslash, word => some [word ++ ['\\']]
  | .singleQuoted, _ => none
  | .doubleQuoted, _ => none
  | .doubleQuotedBackslash, _ => none

def splitFrom : State → List Char → List Char → Option (List (List Char))
  | state, word, [] => finish state word
  | state, word, char :: rest =>
      match advance state char with
      | .go next added => splitFrom next (word ++ added) rest
      | .cut => (splitFrom .delimiter [] rest).map fun words => word :: words

def split (line : String) : Option (List String) :=
  (splitFrom .delimiter [] line.toList).map fun words =>
    words.map String.ofList

variable {state next : State} {char : Char} {word added rest : List Char}
variable {words : List (List Char)}

/-! ## Characters that quote -/

/-- The characters that are lost when they quote, but the double quote. -/
def isQuoting (char : Char) : Bool :=
  char = '\\' || char = '\''

def quoting (chars : List Char) : Nat :=
  chars.countP isQuoting

@[simp] theorem quoting_nil : quoting [] = 0 := rfl

@[simp] theorem quoting_append (first second : List Char) :
    quoting (first ++ second) = quoting first + quoting second :=
  List.countP_append

theorem quoting_cons (char : Char) (rest : List Char) :
    quoting (char :: rest) = quoting [char] + quoting rest :=
  quoting_append [char] rest

theorem quoting_quote (word rest : List Char) :
    quoting (word ++ '"' :: rest) = quoting word + quoting rest := by
  have quote : quoting ['"'] = 0 := rfl
  rw [quoting_append, quoting_cons, quote, Nat.zero_add]

/-- A backslash that has been read and not been decided on. -/
def State.held : State → Nat
  | .backslash => 1
  | .unquotedBackslash => 1
  | .doubleQuotedBackslash => 1
  | _ => 0

/-- The same, or the single quote that has been lost. -/
def State.spent : State → Nat
  | .singleQuoted => 1
  | state => state.held

theorem quoting_of_advance
    (moved : advance state char = .go next added) :
    quoting added + next.held ≤ quoting [char] + state.held := by
  cases state <;> simp only [advance] at moved <;> split_ifs at moved <;>
    cases moved <;> simp_all [quoting, isQuoting, State.held]

/-- A double quote gets into a word by a backslash or by single quotes. -/
theorem quoting_lt_of_advance
    (moved : advance state char = .go next added) (quoted : '"' ∈ added) :
    quoting added + next.held < quoting [char] + state.spent := by
  by_cases isQuote : '"' = char
  · subst isQuote
    cases state <;> cases moved <;> revert quoted <;> decide
  · cases state <;> simp only [advance] at moved <;> split_ifs at moved <;>
      cases moved <;> simp_all

theorem spent_of_advance
    (moved : advance state char = .go next added) :
    quoting added + next.spent ≤ quoting [char] + state.spent := by
  cases state <;> simp only [advance] at moved <;> split_ifs at moved <;>
    cases moved <;>
    simp_all [quoting, isQuoting, State.held, State.spent]

theorem quoting_finish (finished : finish state word = some words) :
    quoting words.flatten ≤ quoting word + state.held := by
  cases state <;> simp only [finish] at finished <;> cases finished <;>
    simp [State.held, quoting, isQuoting]

theorem quote_of_finish (finished : finish state word = some words)
    (quoted : '"' ∈ words.flatten) : '"' ∈ word := by
  cases state <;> simp only [finish] at finished <;> cases finished <;>
    simp_all

/-- The words have no more characters that quote than the line. -/
theorem quoting_splitFrom
    (line : List Char) (taken : splitFrom state word line = some words) :
    quoting words.flatten ≤ quoting word + quoting line + state.held := by
  induction line generalizing state word words with
  | nil =>
      have bound := quoting_finish taken
      simpa using bound
  | cons char rest inductionHypothesis =>
      rw [quoting_cons]
      cases moved : advance state char with
      | go next added =>
          simp only [splitFrom, moved] at taken
          have bound := inductionHypothesis taken
          have spent := quoting_of_advance moved
          rw [quoting_append] at bound
          omega
      | cut =>
          simp only [splitFrom, moved, Option.map_eq_some_iff] at taken
          obtain ⟨others, takenOthers, rfl⟩ := taken
          have bound := inductionHypothesis takenOthers
          simp only [quoting_nil, State.held] at bound
          rw [List.flatten_cons, quoting_append]
          omega

/-- They have less if one of them has a double quote. -/
theorem quoting_lt_of_quote
    (line : List Char) (taken : splitFrom state word line = some words)
    (quoted : '"' ∈ words.flatten) (fresh : '"' ∉ word) :
    quoting words.flatten < quoting word + quoting line + state.spent := by
  induction line generalizing state word words with
  | nil => exact absurd (quote_of_finish taken quoted) fresh
  | cons char rest inductionHypothesis =>
      rw [quoting_cons]
      cases moved : advance state char with
      | go next added =>
          simp only [splitFrom, moved] at taken
          by_cases entered : '"' ∈ added
          · have bound := quoting_splitFrom rest taken
            have lost := quoting_lt_of_advance moved entered
            rw [quoting_append] at bound
            omega
          · have stillFresh : '"' ∉ word ++ added := by
              simp [fresh, entered]
            have bound := inductionHypothesis taken quoted stillFresh
            have spent := spent_of_advance moved
            rw [quoting_append] at bound
            omega
      | cut =>
          simp only [splitFrom, moved, Option.map_eq_some_iff] at taken
          obtain ⟨others, takenOthers, rfl⟩ := taken
          have inOthers : '"' ∈ others.flatten := by
            simpa [fresh] using quoted
          have bound := inductionHypothesis takenOthers inOthers (by simp)
          simp only [quoting_nil, State.spent, State.held] at bound
          rw [List.flatten_cons, quoting_append]
          omega

/-! ## Plain words -/

/-- Between double quotes the word stands for itself: it does not end them,
and its backslashes quote nothing. -/
structure Plain (word : List Char) : Prop where
  noQuote : '"' ∉ word
  literal : ∀ before after, word = before ++ '\\' :: after →
    ∃ next rest, after = next :: rest ∧ isEscapable next = false

theorem plain_nil : Plain [] :=
  ⟨by simp, fun before after split => by simp at split⟩

theorem Plain.tail (plain : Plain (char :: rest)) : Plain rest := by
  refine ⟨fun member => plain.noQuote (List.mem_cons_of_mem _ member), ?_⟩
  intro before after split
  exact plain.literal (char :: before) after (by rw [split]; rfl)

theorem plain_cons_iff (ordinary : char ≠ '\\') :
    Plain (char :: rest) ↔ char ≠ '"' ∧ Plain rest := by
  constructor
  · intro plain
    refine ⟨?_, plain.tail⟩
    rintro rfl
    exact plain.noQuote List.mem_cons_self
  · rintro ⟨noQuote, plain⟩
    refine ⟨?_, ?_⟩
    · simp [Ne.symm noQuote, plain.noQuote]
    · intro before after split
      cases before with
      | nil => exact absurd (List.cons.inj split).1 ordinary
      | cons first others =>
          exact plain.literal others after (List.cons.inj split).2

theorem plain_backslash_iff :
    Plain ('\\' :: rest) ↔
      (∃ next others, rest = next :: others ∧ isEscapable next = false) ∧
        Plain rest := by
  constructor
  · intro plain
    exact ⟨plain.literal [] rest rfl, plain.tail⟩
  · rintro ⟨follows, plain⟩
    refine ⟨?_, ?_⟩
    · simp [plain.noQuote]
    · intro before after split
      cases before with
      | nil =>
          rw [← (List.cons.inj split).2]
          exact follows
      | cons first others =>
          exact plain.literal others after (List.cons.inj split).2

/-- A plain word goes between double quotes as it is. -/
theorem splitFrom_plain
    {quoted : List Char} (plain : Plain quoted) (word rest : List Char) :
    splitFrom .doubleQuoted word (quoted ++ '"' :: rest) =
      splitFrom .unquoted (word ++ quoted) rest := by
  match quoted with
  | [] => simp [splitFrom, advance]
  | char :: others =>
      by_cases isBackslash : char = '\\'
      · subst isBackslash
        obtain ⟨⟨next, more, rfl, literal⟩, _⟩ := plain_backslash_iff.mp plain
        have follows := splitFrom_plain plain.tail.tail (word ++ ['\\', next])
          rest
        have notNewline : next ≠ '\n' := by
          rintro rfl
          cases literal
        simpa [splitFrom, advance, notNewline, literal] using follows
      · obtain ⟨notQuote, plainOthers⟩ := (plain_cons_iff isBackslash).mp plain
        have follows := splitFrom_plain plainOthers (word ++ [char]) rest
        simpa [splitFrom, advance, notQuote, isBackslash] using follows

/-- A backslash between double quotes is lost when it quotes. -/
theorem quoting_of_escape
    (escapable : isEscapable char = true)
    (taken : splitFrom .doubleQuotedBackslash word (char :: rest) =
      some words) :
    quoting words.flatten ≤ quoting word + quoting (char :: rest) := by
  rw [quoting_cons]
  by_cases isNewline : char = '\n'
  · have after : splitFrom .doubleQuoted word rest = some words := by
      simpa [splitFrom, advance, isNewline] using taken
    have bound := quoting_splitFrom rest after
    simp only [State.held] at bound
    omega
  · have after :
        splitFrom .doubleQuoted (word ++ [char]) rest = some words := by
      simpa [splitFrom, advance, isNewline, escapable] using taken
    have bound := quoting_splitFrom rest after
    simp only [quoting_append, State.held] at bound
    omega

/-- A word without a double quote that is not plain loses a backslash. -/
theorem quoting_lt_of_not_plain
    {quoted : List Char} (noQuote : '"' ∉ quoted) (notPlain : ¬ Plain quoted)
    (word rest : List Char)
    (taken : splitFrom .doubleQuoted word (quoted ++ '"' :: rest) =
      some words) :
    quoting words.flatten < quoting word + quoting quoted + quoting rest := by
  match quoted with
  | [] => exact absurd plain_nil notPlain
  | char :: others =>
      have othersNoQuote : '"' ∉ others := fun member =>
        noQuote (List.mem_cons_of_mem _ member)
      by_cases isBackslash : char = '\\'
      · subst isBackslash
        have after : splitFrom .doubleQuotedBackslash word
            (others ++ '"' :: rest) = some words := by
          simpa [splitFrom, advance] using taken
        have lost : quoting ['\\'] = 1 := rfl
        rw [quoting_cons]
        match others with
        | [] =>
            have bound :
                quoting words.flatten ≤
                  quoting word + quoting ([] ++ '"' :: rest) :=
              quoting_of_escape rfl after
            rw [quoting_quote] at bound
            omega
        | next :: more =>
            by_cases escapable : isEscapable next = true
            · have bound :
                  quoting words.flatten ≤
                    quoting word + quoting (next :: more ++ '"' :: rest) :=
                quoting_of_escape escapable after
              rw [quoting_quote] at bound
              omega
            · have literal : isEscapable next = false := by
                simpa using escapable
              have notNewline : next ≠ '\n' := by
                rintro rfl
                cases literal
              have notBackslash : next ≠ '\\' := by
                rintro rfl
                cases literal
              have notPlainMore : ¬ Plain more := by
                intro plain
                refine notPlain (plain_backslash_iff.mpr
                  ⟨⟨next, more, rfl, literal⟩, ?_⟩)
                refine (plain_cons_iff notBackslash).mpr ⟨?_, plain⟩
                rintro rfl
                exact othersNoQuote List.mem_cons_self
              have afterNext :
                  splitFrom .doubleQuoted (word ++ ['\\', next])
                    (more ++ '"' :: rest) = some words := by
                simpa [splitFrom, advance, notNewline, literal] using after
              have bound := quoting_lt_of_not_plain
                (fun member => othersNoQuote (List.mem_cons_of_mem _ member))
                notPlainMore (word ++ ['\\', next]) rest afterNext
              rw [quoting_append, quoting_cons '\\'] at bound
              rw [quoting_cons next]
              omega
      · have notQuote : char ≠ '"' := by
          rintro rfl
          exact noQuote List.mem_cons_self
        have notPlainOthers : ¬ Plain others := fun plain =>
          notPlain ((plain_cons_iff isBackslash).mpr ⟨notQuote, plain⟩)
        have after : splitFrom .doubleQuoted (word ++ [char])
            (others ++ '"' :: rest) = some words := by
          simpa [splitFrom, advance, notQuote, isBackslash] using taken
        have bound := quoting_lt_of_not_plain othersNoQuote notPlainOthers
          (word ++ [char]) rest after
        rw [quoting_append] at bound
        rw [quoting_cons]
        omega

/-! ## Lines of quoted words -/

/-- Each word between double quotes, with a blank before it. -/
def quotedTail : List (List Char) → List Char
  | [] => []
  | word :: others => ' ' :: '"' :: (word ++ '"' :: quotedTail others)

/-- The words, each between double quotes. -/
def quotedLine (first : List Char) (others : List (List Char)) : List Char :=
  '"' :: (first ++ '"' :: quotedTail others)

theorem quoting_quotedTail (others : List (List Char)) :
    quoting (quotedTail others) = quoting others.flatten := by
  induction others with
  | nil => rfl
  | cons word rest inductionHypothesis =>
      have blank : quoting [' ', '"'] = 0 := rfl
      have split : quotedTail (word :: rest) =
          [' ', '"'] ++ (word ++ '"' :: quotedTail rest) := rfl
      rw [split, quoting_append, blank, quoting_quote, inductionHypothesis,
        List.flatten_cons, quoting_append, Nat.zero_add]

theorem quoting_quotedLine (first : List Char) (others : List (List Char)) :
    quoting (quotedLine first others) =
      quoting (first :: others).flatten := by
  have split : quotedLine first others =
      [] ++ '"' :: (first ++ '"' :: quotedTail others) := rfl
  rw [split, quoting_quote, quoting_quote, quoting_quotedTail,
    List.flatten_cons, quoting_append, quoting_nil, Nat.zero_add]

theorem splitFrom_quotedLine (first : List Char) (others : List (List Char)) :
    splitFrom .delimiter [] (quotedLine first others) =
      splitFrom .doubleQuoted [] (first ++ '"' :: quotedTail others) :=
  rfl

/-- A quoted word is followed by the next one. -/
theorem splitFrom_quotedTail
    (word next : List Char) (others : List (List Char)) :
    splitFrom .unquoted word (quotedTail (next :: others)) =
      (splitFrom .delimiter [] (quotedLine next others)).map
        fun words => word :: words :=
  rfl

/-- Plain words come out as they are. -/
theorem splitFrom_quotedLine_of_plain
    (first : List Char) (others : List (List Char))
    (plain : ∀ word, word ∈ first :: others → Plain word) :
    splitFrom .delimiter [] (quotedLine first others) =
      some (first :: others) := by
  induction others generalizing first with
  | nil =>
      rw [splitFrom_quotedLine,
        splitFrom_plain (plain first List.mem_cons_self)]
      rfl
  | cons next rest inductionHypothesis =>
      have later := inductionHypothesis next fun word member =>
        plain word (List.mem_cons_of_mem first member)
      rw [splitFrom_quotedLine,
        splitFrom_plain (plain first List.mem_cons_self), List.nil_append,
        splitFrom_quotedTail, later, Option.map_some]

/-- A word that is not plain loses a character that quotes. -/
theorem quoting_lt_of_quotedLine
    (first : List Char) (others : List (List Char))
    (noQuote : '"' ∉ (first :: others).flatten)
    (notPlain : ¬ ∀ word, word ∈ first :: others → Plain word)
    (taken : splitFrom .delimiter [] (quotedLine first others) =
      some words) :
    quoting words.flatten < quoting (first :: others).flatten := by
  induction others generalizing first words with
  | nil =>
      have firstNoQuote : '"' ∉ first := by simpa using noQuote
      have firstNotPlain : ¬ Plain first := by simpa using notPlain
      have bound := quoting_lt_of_not_plain firstNoQuote firstNotPlain []
        (quotedTail []) taken
      simpa [quotedTail] using bound
  | cons next rest inductionHypothesis =>
      rw [List.flatten_cons, List.mem_append, not_or] at noQuote
      rw [List.flatten_cons, quoting_append]
      by_cases plain : Plain first
      · have restNotPlain : ¬ ∀ word, word ∈ next :: rest → Plain word := by
          intro restPlain
          refine notPlain fun word member => ?_
          rcases List.mem_cons.mp member with rfl | later
          · exact plain
          · exact restPlain word later
        rw [splitFrom_quotedLine, splitFrom_plain plain, List.nil_append,
          splitFrom_quotedTail] at taken
        obtain ⟨later, takenLater, rfl⟩ := Option.map_eq_some_iff.mp taken
        have bound := inductionHypothesis next noQuote.2 restNotPlain
          takenLater
        rw [List.flatten_cons, quoting_append]
        omega
      · have bound := quoting_lt_of_not_plain noQuote.1 plain []
          (quotedTail (next :: rest)) taken
        rw [quoting_quotedTail, quoting_nil] at bound
        omega

/-- The words of a line are what is between its double quotes exactly when all
of that is plain. -/
theorem splitFrom_quotedLine_iff
    (first : List Char) (others : List (List Char)) :
    splitFrom .delimiter [] (quotedLine first others) =
        some (first :: others) ↔
      ∀ word, word ∈ first :: others → Plain word := by
  constructor
  · intro taken
    by_contra notPlain
    have whole := quoting_quotedLine first others
    have noQuote : '"' ∉ (first :: others).flatten := by
      intro quoted
      have bound := quoting_lt_of_quote _ taken quoted (by simp)
      simp only [whole, quoting_nil, State.spent, State.held] at bound
      omega
    have bound := quoting_lt_of_quotedLine first others noQuote notPlain taken
    exact Nat.lt_irrefl _ bound
  · exact splitFrom_quotedLine_of_plain first others

end ShellWords
