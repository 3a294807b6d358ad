import Mathlib.Data.List.Forall2
import Mathlib.Data.List.TakeWhile
import SeqChart.Command.Request
/-!
What a command line asks for, said apart from how it is gone through. Main statement,
`Request.ofArguments?_eq_some_iff`: the request that is made of the arguments is the one that they
spell.
-/

namespace SeqChart.Command

/-! ## What can be asked for -/

/-- One thing that is asked for. -/
inductive Ask where
  | switch (switch : Switch)
  | value (option : ValueOption) (value : String)
  | path (path : String)
deriving DecidableEq, Repr

/-- The letters are those of the switches. -/
abbrev SwitchLetters (letters : List Char) (switches : List Switch) : Prop :=
  List.Forall₂ (fun letter switch => shortOption? letter = some (.inl switch)) letters switches

/-- What a word asks for, and the option that it leaves without a value. -/
inductive Word : String → List Ask → Option ValueOption → Prop
  | path {word : String} (plain : word = "-" ∨ word.toList.head? ≠ some '-') :
      Word word [.path word] none
  | switch {name : String} {switch : Switch} (named : longOption? name = some (.inl switch)) :
      Word ("--" ++ name) [.switch switch] none
  | option {name : String} {option : ValueOption} (named : longOption? name = some (.inr option)) :
      Word ("--" ++ name) [] (some option)
  | optionIs {name : String} {option : ValueOption} (value : String)
      (named : longOption? name = some (.inr option)) :
      Word ("--" ++ name ++ "=" ++ value) [.value option value] none
  | letters {letters : List Char} {switches : List Switch} (some : letters ≠ [])
      (on : SwitchLetters letters switches) :
      Word (String.ofList ('-' :: letters)) (switches.map .switch) none
  | lettersOption {letters : List Char} {switches : List Switch} {last : Char}
      {option : ValueOption} (on : SwitchLetters letters switches)
      (named : shortOption? last = some (.inr option)) :
      Word (String.ofList ('-' :: (letters ++ [last]))) (switches.map .switch) (some option)
  | lettersOptionIs {letters : List Char} {switches : List Switch} {last : Char}
      {option : ValueOption} {value : String} (on : SwitchLetters letters switches)
      (named : shortOption? last = some (.inr option)) (some : value ≠ "") :
      Word (String.ofList ('-' :: (letters ++ last :: value.toList)))
        (switches.map .switch ++ [.value option value]) none

/-- What the arguments ask for, from the first to the last. -/
inductive Spells : List String → List Ask → Prop
  | nothing : Spells [] []
  | word {word : String} {asks more : List Ask} {rest : List String} (spelled : Word word asks none)
      (others : Spells rest more) : Spells (word :: rest) (asks ++ more)
  | wordAndValue {word value : String} {asks more : List Ask} {option : ValueOption}
      {rest : List String} (spelled : Word word asks (some option)) (others : Spells rest more) :
      Spells (word :: value :: rest) (asks ++ .value option value :: more)
  | onlyPaths (paths : List String) : Spells ("--" :: paths) (paths.map .path)

def valuesOf (option : ValueOption) (asks : List Ask) : List String :=
  asks.filterMap fun
    | .value other value => if other = option then some value else none
    | _ => none

def pathsOf (asks : List Ask) : List String :=
  asks.filterMap fun
    | .path path => some path
    | _ => none

def Request.isOn (request : Request) : Switch → Bool
  | .minify => request.minify
  | .json => request.json
  | .debug => request.debug

/-- The order counts only among the values of one option, of which the last one stands. -/
structure Request.Meets (request : Request) (asks : List Ask) : Prop where
  switches : ∀ switch, request.isOn switch = true ↔ .switch switch ∈ asks
  dialect : dialectOf? (valuesOf .dialect asks).getLast? = some request.dialect
  output : request.output = (valuesOf .output asks).getLast?.filter (· ≠ "")
  input : pathsOf asks = request.input.toList

/-- The request is the one that the arguments make. -/
def Request.SpelledBy (request : Request) (arguments : List String) : Prop :=
  ∃ asks, Spells arguments asks ∧ request.Meets asks

/-! ## Words -/

def Words.ask (words : Words) : Ask → Words
  | .switch switch => words.turnOn switch
  | .value option value => words.set value option
  | .path path => words.addPaths [path]

/-- Everything that is asked for, one after another. -/
def Words.asked (words : Words) (asks : List Ask) : Words := asks.foldl ask words

theorem Words.asked_append (words : Words) (asks more : List Ask) :
    words.asked (asks ++ more) = (words.asked asks).asked more := List.foldl_append

theorem Words.asked_paths (words : Words) (paths : List String) :
    words.asked (paths.map .path) = words.addPaths paths := by
  induction paths generalizing words with
  | nil => simp [asked, addPaths]
  | cons path rest step =>
    refine (step _).trans ?_
    simp [ask, addPaths]

/-- No name is empty or holds the sign that ends it. -/
theorem name_of_longOption? {name : String} {found : Switch ⊕ ValueOption}
    (named : longOption? name = some found) :
    name.toList ≠ [] ∧ ∀ c ∈ name.toList, (c != '=') = true := by
  rw [← List.all_eq_true]
  unfold longOption? at named
  split at named <;> cases named
  all_goals decide

theorem long_name {name : String} {found : Switch ⊕ ValueOption}
    (named : longOption? name = some found) (words : Words) :
    long words name.toList =
      some (found.elim (fun switch => (words.turnOn switch, none))
        fun option => (words, some option)) := by
  obtain ⟨-, inside⟩ := name_of_longOption? named
  rw [long, List.takeWhile_eq_self_iff.2 inside, List.dropWhile_eq_nil_iff.2 inside,
    String.ofList_toList, named]
  cases found <;> rfl

theorem long_nameIs {name : String} {found : Switch ⊕ ValueOption}
    (named : longOption? name = some found) (value : List Char) (words : Words) :
    long words (name.toList ++ '=' :: value) =
      found.elim (fun _ => none) fun option =>
        some (words.set (String.ofList value) option, none) := by
  obtain ⟨-, inside⟩ := name_of_longOption? named
  rw [long, List.takeWhile_append_of_pos inside, List.dropWhile_append_of_pos inside]
  simp only [List.takeWhile_cons, List.dropWhile_cons, bne_self_eq_false, Bool.false_eq_true,
    if_false, List.append_nil, String.ofList_toList, named]
  cases found <;> rfl

theorem joined_switches {letters : List Char} {switches : List Switch}
    (on : SwitchLetters letters switches) (rest : List Char) (words : Words) :
    joined words (letters ++ rest) = joined (words.asked (switches.map .switch)) rest := by
  induction on generalizing words with
  | nil => rfl
  | cons first others step =>
    rw [List.cons_append, joined, first]
    exact step _

theorem joined_option {letter : Char} {option : ValueOption}
    (named : shortOption? letter = some (.inr option)) (words : Words) :
    joined words [letter] = some (words, some option) := by
  rw [joined, named]
  rfl

theorem joined_optionIs {letter : Char} {option : ValueOption}
    (named : shortOption? letter = some (.inr option)) {value : List Char} (some : value ≠ [])
    (words : Words) :
    joined words (letter :: value) = .some (words.set (String.ofList value) option, none) := by
  rw [joined, named]
  exact if_neg (by simpa using some)

theorem not_dash_of_shortOption? {letter : Char} {found : Switch ⊕ ValueOption}
    (named : shortOption? letter = some found) : letter ≠ '-' := by
  rintro rfl
  cases named

/-- What a word is read as; nothing where it ends the options. -/
def progressOf (words : Words) (word : String) : Option (Option Progress) :=
  match word.toList with
  | ['-', '-'] => none
  | '-' :: '-' :: text => some (long words text)
  | '-' :: c :: text => some (joined words (c :: text))
  | _ => some (some (words.addPaths [word], none))

theorem progressOf_path {word : String} (plain : word = "-" ∨ word.toList.head? ≠ some '-')
    (words : Words) : progressOf words word = some (some (words.addPaths [word], none)) := by
  rcases plain with rfl | plain
  · rfl
  · unfold progressOf
    split
    · rename_i chars
      exact absurd (congrArg List.head? chars) plain
    · rename_i chars
      exact absurd (congrArg List.head? chars) plain
    · rename_i chars
      exact absurd (congrArg List.head? chars) plain
    · rfl

theorem progressOf_long {word : String} {text : List Char}
    (chars : word.toList = '-' :: '-' :: text) (some : text ≠ []) (words : Words) :
    progressOf words word = .some (long words text) := by
  obtain ⟨c, more, rfl⟩ := List.exists_cons_of_ne_nil some
  rw [progressOf, chars]
  rfl

theorem progressOf_short {word : String} {c : Char} {text : List Char}
    (chars : word.toList = '-' :: c :: text) (other : c ≠ '-') (words : Words) :
    progressOf words word = some (joined words (c :: text)) := by
  rw [progressOf, chars]
  split
  · rename_i same
    exact absurd (List.cons.inj (List.cons.inj same).2).1 other
  · rename_i same
    exact absurd (List.cons.inj (List.cons.inj same).2).1 other
  · rename_i same
    cases same
    rfl
  · rename_i short
    exact absurd rfl (short c text)

/-- Letters with an option among them do not look like a long option. -/
theorem exists_of_letters {letters : List Char} {switches : List Switch} {last : Char}
    {option : ValueOption} (on : SwitchLetters letters switches)
    (named : shortOption? last = some (.inr option)) (value : List Char) :
    ∃ c rest, letters ++ last :: value = c :: rest ∧ c ≠ '-' := by
  cases on with
  | nil => exact ⟨last, value, rfl, not_dash_of_shortOption? named⟩
  | cons first => exact ⟨_, _, rfl, not_dash_of_shortOption? first⟩

theorem progressOf_word {word : String} {asks : List Ask} {waiting : Option ValueOption}
    (spelled : Word word asks waiting) (words : Words) :
    progressOf words word = some (some (words.asked asks, waiting)) := by
  cases spelled with
  | path plain => exact progressOf_path plain words
  | switch named =>
    rw [progressOf_long (String.toList_append ..) (name_of_longOption? named).1, long_name named]
    rfl
  | option named =>
    rw [progressOf_long (String.toList_append ..) (name_of_longOption? named).1, long_name named]
    rfl
  | @optionIs name option value named =>
    have chars : ("--" ++ name ++ "=" ++ value).toList =
        '-' :: '-' :: (name.toList ++ '=' :: value.toList) := by
      simp [String.toList_append]
    rw [progressOf_long chars (by simp), long_nameIs named, String.ofList_toList]
    rfl
  | @letters letters switches some on =>
    cases on with
    | nil => exact absurd rfl some
    | @cons c switch letters switches first others =>
      rw [progressOf_short String.toList_ofList (not_dash_of_shortOption? first)]
      have read := joined_switches (.cons first others) [] words
      rw [List.append_nil] at read
      rw [read]
      rfl
  | @lettersOption letters switches last option on named =>
    obtain ⟨c, rest, starts, other⟩ := exists_of_letters on named []
    rw [progressOf_short (String.toList_ofList.trans (congrArg _ starts)) other, ← starts,
      joined_switches on, joined_option named]
  | @lettersOptionIs letters switches last option value on named some =>
    obtain ⟨c, rest, starts, other⟩ := exists_of_letters on named value.toList
    rw [progressOf_short (String.toList_ofList.trans (congrArg _ starts)) other, ← starts,
      joined_switches on, joined_optionIs named (mt String.toList_eq_nil_iff.1 some),
      String.ofList_toList, Words.asked_append]
    rfl

/-- Joined letters are switches, then nothing or an option with or without its value. -/
theorem switches_of_joined {words : Words} {text : List Char} {progress : Progress}
    (read : joined words text = some progress) :
    ∃ letters switches, SwitchLetters letters switches ∧
      (text = letters ∧ progress.2 = none ∨
        ∃ last option, shortOption? last = some (.inr option) ∧
          (text = letters ++ [last] ∧ progress.2 = some option ∨
            ∃ value, value ≠ [] ∧ text = letters ++ last :: value ∧ progress.2 = none)) := by
  induction text generalizing words with
  | nil =>
    cases read
    exact ⟨[], [], .nil, .inl ⟨rfl, rfl⟩⟩
  | cons c rest step =>
    rw [joined] at read
    cases named : shortOption? c with
    | none =>
      rw [named] at read
      cases read
    | some found =>
      rw [named] at read
      rcases found with switch | option
      · obtain ⟨letters, switches, on, ends⟩ := step read
        refine ⟨c :: letters, switch :: switches, .cons named on, ?_⟩
        rcases ends with ⟨rfl, waits⟩ | ⟨last, option, named, ends⟩
        · exact .inl ⟨rfl, waits⟩
        · refine .inr ⟨last, option, named, ?_⟩
          rcases ends with ⟨rfl, waits⟩ | ⟨value, some, rfl, waits⟩
          · exact .inl ⟨rfl, waits⟩
          · exact .inr ⟨value, some, rfl, waits⟩
      · -- The letter ends the switches, and what is left is its value.
        refine ⟨[], [], .nil, .inr ⟨c, option, named, ?_⟩⟩
        change (if rest.isEmpty then _ else _) = _ at read
        split at read
        · rename_i ends
          cases read
          exact .inl ⟨by rw [List.isEmpty_iff.1 ends]; rfl, rfl⟩
        · rename_i more
          cases read
          exact .inr ⟨rest, mt List.isEmpty_iff.2 more, rfl, rfl⟩

theorem word_of_long {words : Words} {text : List Char} {progress : Progress}
    (read : long words text = some progress) :
    ∃ asks, Word ("--" ++ String.ofList text) asks progress.2 := by
  have splits := List.takeWhile_append_dropWhile (p := (· != '=')) (l := text)
  have stops := List.head?_dropWhile_not (· != '=') text
  unfold long at read
  generalize text.takeWhile (· != '=') = name at splits read
  generalize text.dropWhile (· != '=') = value at splits stops read
  dsimp only at read
  cases named : longOption? (String.ofList name) with
  | none =>
    rw [named] at read
    cases read
  | some found =>
    rw [named] at read
    rcases found with switch | option <;> rcases value with _ | ⟨c, value⟩
    · cases read
      rw [← splits, List.append_nil]
      exact ⟨_, .switch named⟩
    · cases read
    · cases read
      rw [← splits, List.append_nil]
      exact ⟨_, .option named⟩
    · cases read
      -- Only the sign can have ended the name.
      obtain rfl : c = '=' := by simpa using stops
      have spelled := Word.optionIs (String.ofList value) named
      have joins : "--" ++ String.ofList text =
          "--" ++ String.ofList name ++ "=" ++ String.ofList value := by
        rw [← splits]
        exact String.toList_injective (by simp [String.toList_append])
      exact ⟨_, joins ▸ spelled⟩

theorem word_of_progressOf {words : Words} {word : String} {progress : Progress}
    (read : progressOf words word = some (some progress)) : ∃ asks, Word word asks progress.2 := by
  unfold progressOf at read
  have whole := String.ofList_toList (s := word)
  split at read
  · cases read
  · rename_i text _ chars
    obtain ⟨asks, spelled⟩ := word_of_long (Option.some.inj read)
    have joins : word = "--" ++ String.ofList text :=
      String.toList_injective (chars.trans (by simp [String.toList_append]))
    exact ⟨asks, joins ▸ spelled⟩
  · rename_i c text _ _ chars
    rw [chars] at whole
    obtain ⟨letters, switches, on, ends⟩ := switches_of_joined (Option.some.inj read)
    rw [← whole]
    rcases ends with ⟨same, waits⟩ | ⟨last, option, named, ends⟩
    · rw [same, waits]
      exact ⟨_, .letters (same ▸ List.cons_ne_nil c text) on⟩
    · rcases ends with ⟨same, waits⟩ | ⟨value, some, same, waits⟩
      · rw [same, waits]
        exact ⟨_, .lettersOption on named⟩
      · rw [same, waits, ← String.toList_ofList (l := value)]
        exact ⟨_, .lettersOptionIs on named (by simpa using some)⟩
  · rename_i none dashes short
    cases read
    refine ⟨_, .path ?_⟩
    rcases chars : word.toList with _ | ⟨c, _ | ⟨second, text⟩⟩
    · exact .inr (by simp)
    · by_cases dash : c = '-'
      · exact .inl (by rw [← whole, chars, dash])
      · exact .inr (by simpa using dash)
    · refine .inr fun dash => short second text ?_
      rw [chars, Option.some.inj dash]

theorem eq_dashes_of_progressOf {words : Words} {word : String}
    (ends : progressOf words word = none) : word = "--" := by
  unfold progressOf at ends
  split at ends
  · rename_i chars
    exact String.toList_injective chars
  · cases ends
  · cases ends
  · cases ends

/-! ## Arguments -/

/-- Goes on after a word. -/
def resume : Option Progress → List String → Option Words
  | none, _ => none
  | some (words, none), rest => collect words rest
  | some (_, some _), [] => none
  | some (words, some option), value :: rest => collect (words.set value option) rest

theorem collect_cons (words : Words) (word : String) (rest : List String) :
    collect words (word :: rest) =
      (progressOf words word).elim (some (words.addPaths rest)) (resume · rest) := by
  rw [collect]
  split
  · rename_i found
    have found : progressOf words word = none := found
    rw [found]
    rfl
  · rename_i found
    have found : progressOf words word = some none := found
    rw [found]
    rfl
  · rename_i next found
    have found : progressOf words word = some (some (next, none)) := found
    rw [found]
    rfl
  · rename_i next option found
    have found : progressOf words word = some (some (next, some option)) := found
    rw [found]
    cases rest <;> rfl

theorem exists_spells_of_collect : ∀ {arguments : List String} {words final : Words},
    collect words arguments = some final → ∃ asks, Spells arguments asks ∧ words.asked asks = final
  | [], _, _, read => ⟨[], .nothing, Option.some.inj read⟩
  | word :: rest, words, final, read => by
    rw [collect_cons] at read
    cases started : progressOf words word with
    | none =>
      obtain rfl := eq_dashes_of_progressOf started
      rw [started] at read
      exact ⟨_, .onlyPaths rest, (Words.asked_paths words rest).trans (Option.some.inj read)⟩
    | some progress =>
      rw [started] at read
      rcases progress with _ | ⟨next, waiting⟩
      · cases read
      -- What the word spells does not depend on the words before it, so it is what was read.
      obtain ⟨asks, spelled⟩ := word_of_progressOf started
      obtain rfl : words.asked asks = next := by
        simpa [progressOf_word spelled words] using started
      rcases waiting with _ | option
      · obtain ⟨more, others, rfl⟩ := exists_spells_of_collect read
        exact ⟨_, .word spelled others, Words.asked_append ..⟩
      · rcases rest with _ | ⟨value, rest⟩
        · cases read
        · obtain ⟨more, others, rfl⟩ := exists_spells_of_collect read
          exact ⟨_, .wordAndValue spelled others, Words.asked_append ..⟩

theorem collect_of_spells {arguments : List String} {asks : List Ask}
    (spelled : Spells arguments asks) (words : Words) :
    collect words arguments = some (words.asked asks) := by
  induction spelled generalizing words with
  | nothing => rfl
  | word spelled _ step =>
    rw [collect_cons, progressOf_word spelled, Words.asked_append]
    exact step _
  | wordAndValue spelled _ step =>
    rw [collect_cons, progressOf_word spelled, Words.asked_append]
    exact step _
  | onlyPaths paths =>
    rw [collect_cons, Words.asked_paths]
    rfl

theorem collect_eq_some_iff {arguments : List String} {words final : Words} :
    collect words arguments = some final ↔
      ∃ asks, Spells arguments asks ∧ words.asked asks = final := by
  constructor
  · exact exists_spells_of_collect
  · rintro ⟨asks, spelled, rfl⟩
    exact collect_of_spells spelled words

/-! ## Requests -/

def Words.isOn (words : Words) : Switch → Bool
  | .minify => words.minify
  | .json => words.json
  | .debug => words.debug

def Words.value? (words : Words) : ValueOption → Option String
  | .dialect => words.dialect
  | .output => words.output

theorem Words.isOn_asked (words : Words) (asks : List Ask) (switch : Switch) :
    (words.asked asks).isOn switch = true ↔ words.isOn switch = true ∨ .switch switch ∈ asks := by
  induction asks generalizing words with
  | nil => simp [asked]
  | cons ask rest step =>
    refine (step (words.ask ask)).trans ?_
    rcases ask with other | ⟨option, value⟩ | path
    · cases other <;> cases switch <;> simp [Words.ask, turnOn, isOn]
    · cases option <;> cases switch <;> simp [Words.ask, set, isOn]
    · cases switch <;> simp [Words.ask, addPaths, isOn]

theorem Words.value?_asked (words : Words) (asks : List Ask) (option : ValueOption) :
    (words.asked asks).value? option =
      (valuesOf option asks).getLast?.or (words.value? option) := by
  induction asks generalizing words with
  | nil => rfl
  | cons ask rest step =>
    refine (step (words.ask ask)).trans ?_
    rcases ask with switch | ⟨other, value⟩ | path
    · cases switch <;> rfl
    · by_cases same : other = option
      · subst same
        have ends : valuesOf other (.value other value :: rest) = value :: valuesOf other rest := by
          simp [valuesOf]
        have here : (words.set value other).value? other = some value := by cases other <;> rfl
        rw [ends, List.getLast?_cons, Words.ask, here]
        cases (valuesOf other rest).getLast? <;> rfl
      · have ends : valuesOf option (.value other value :: rest) = valuesOf option rest := by
          simp [valuesOf, same]
        have there : (words.set value other).value? option = words.value? option := by
          cases other <;> cases option <;> first
            | rfl
            | exact absurd rfl same
        rw [ends, Words.ask, there]
    · rfl

theorem Words.paths_asked (words : Words) (asks : List Ask) :
    (words.asked asks).paths = words.paths ++ pathsOf asks := by
  induction asks generalizing words with
  | nil => simp [asked, pathsOf]
  | cons ask rest step =>
    refine (step (words.ask ask)).trans ?_
    rcases ask with switch | ⟨option, value⟩ | path
    · cases switch <;> rfl
    · cases option <;> rfl
    · simp [Words.ask, addPaths, pathsOf]

theorem bind_nonempty (path : Option String) :
    (path.bind fun path => if path.isEmpty then none else some path) = path.filter (· ≠ "") := by
  cases path with
  | none => rfl
  | some path => by_cases empty : path = "" <;> simp [Option.filter, empty]

/-- The words make a request if and only if it says the same as they do. -/
theorem Request.ofArguments?_eq_some {arguments : List String} {request : Request} :
    Request.ofArguments? arguments = some request ↔
      ∃ words, collect {} arguments = some words ∧
        (∀ switch, words.isOn switch = request.isOn switch) ∧
        dialectOf? (words.value? .dialect) = some request.dialect ∧
        request.output = (words.value? .output).filter (· ≠ "") ∧
        words.paths = request.input.toList := by
  constructor
  · intro made
    obtain ⟨words, read, made⟩ := Option.bind_eq_some_iff.1 made
    obtain ⟨dialect, named, made⟩ := Option.bind_eq_some_iff.1 made
    refine ⟨words, read, ?_⟩
    dsimp only at made
    split at made
    · rename_i paths
      cases made
      exact ⟨fun switch => by cases switch <;> rfl, named, bind_nonempty _, paths⟩
    · rename_i path paths
      cases made
      exact ⟨fun switch => by cases switch <;> rfl, named, bind_nonempty _, paths⟩
    · cases made
  · rintro ⟨words, read, on, named, out, paths⟩
    obtain ⟨input, minify, dialect, json, output, debug⟩ := request
    obtain rfl : words.minify = minify := on .minify
    obtain rfl : words.json = json := on .json
    obtain rfl : words.debug = debug := on .debug
    dsimp only at named out paths
    rw [← bind_nonempty] at out
    subst out
    refine Option.bind_eq_some_iff.2 ⟨words, read, Option.bind_eq_some_iff.2 ⟨_, named, ?_⟩⟩
    cases input <;> (rw [paths]; rfl)

/-- The arguments make a request if and only if they spell it. -/
theorem Request.ofArguments?_eq_some_iff {arguments : List String} {request : Request} :
    Request.ofArguments? arguments = some request ↔ request.SpelledBy arguments := by
  have switches (asks : List Ask) (switch : Switch) :
      ((({} : Words).asked asks).isOn switch = request.isOn switch) ↔
        (request.isOn switch = true ↔ .switch switch ∈ asks) := by
    rw [Bool.eq_iff_iff, Words.isOn_asked]
    have off : ({} : Words).isOn switch = false := by cases switch <;> rfl
    rw [off]
    simp only [Bool.false_eq_true, false_or]
    exact iff_comm
  have values (asks : List Ask) (option : ValueOption) :
      (({} : Words).asked asks).value? option = (valuesOf option asks).getLast? := by
    rw [Words.value?_asked]
    cases option <;> exact Option.or_none
  rw [Request.ofArguments?_eq_some]
  constructor
  · rintro ⟨words, read, on, named, out, paths⟩
    obtain ⟨asks, spelled, rfl⟩ := collect_eq_some_iff.1 read
    rw [values] at named out
    exact ⟨asks, spelled, fun switch => (switches asks switch).1 (on switch), named, out,
      (Words.paths_asked {} asks).symm.trans paths⟩
  · rintro ⟨asks, spelled, on, named, out, paths⟩
    rw [← values asks] at named out
    exact ⟨_, collect_eq_some_iff.2 ⟨asks, spelled, rfl⟩,
      fun switch => (switches asks switch).2 (on switch), named, out,
      (Words.paths_asked {} asks).trans paths⟩

end SeqChart.Command
