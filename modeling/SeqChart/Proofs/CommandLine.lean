import SeqChart.Command.Run
import SeqChart.Proofs.Command.Console
import SeqChart.Proofs.Command.Disk
import SeqChart.Proofs.Data.Except
import SeqChart.Proofs.Data.Json
import SeqChart.Proofs.Writing.Translate
/-!
What a command leaves behind. Main statement, `run_refuses_or_delivers`: it fails and leaves
everything as it was, or it puts one text in one place, and the text is what a translation gives, or
the chart as JSON.

One would expect that there is no third case, and that the standard output gets the text as it is,
like a file. But a file is emptied before it is written, so it keeps a beginning of the text when
that breaks off. And the standard output gets the text less the control sequences of terminals, so
it has the whole text if and only if none stands in it, and labels and names may hold them
(`control_sequence_lost`).
-/

namespace SeqChart

theorem Dialect.named_token (dialect : Dialect) :
    Dialect.named (some dialect.token) = .ok dialect := by
  cases dialect <;> decide +kernel

namespace Command

open Text (ControlSequence)

/-- The text that a request is given: what is read at its path, or else the standard input. -/
inductive Request.Given (request : Request) (disk : Disk) (stdin : String) : String → Prop
  | stdin (unnamed : request.input = none) : Given request disk stdin stdin
  | path {path text : String} (named : request.input = some path)
      (reads : disk.Reads stdin path text) : Given request disk stdin text

/-- The text that is asked for, of a source that is read as a chart. -/
def Request.Forms (request : Request) (source : String) (chart : Chart) (text : String) : Prop :=
  if request.json then text = Json.document chart.toPlain
  else (translate source request.minify (some request.dialect.token)).outcome = .ok text

/-- The command has failed with this exit code and changed nothing. -/
structure Result.Refuses (result : Result) (code : Nat) (before : Disk) : Prop where
  exit : result.exit = code
  stdout : result.stdout = ""
  disk : result.disk = before

/-- The command has printed the text and changed nothing. -/
structure Result.Prints (result : Result) (console : Console) (before : Disk) (text : String) :
    Prop where
  exit : result.exit = 0
  stdout : result.stdout = console.printed text
  disk : result.disk = before

/-- The command has written the text to what was opened. -/
structure Result.Saves (result : Result) (before : Disk) (handle : Handle) (text : String) :
    Prop where
  exit : result.exit = 0
  puts : before.Puts text handle result.disk result.stdout

/-- The command has failed when so many characters were written to what was opened. -/
structure Result.BreaksOff (result : Result) (before : Disk) (handle : Handle) (text : String)
    (kept : Nat) : Prop where
  exit : result.exit = 1
  puts : before.Puts (String.ofList (text.toList.take kept)) handle result.disk result.stdout

section

variable {request : Request} {console : Console} {disk : Disk} {stdin input : String}
  {chart : Chart}

/-- Under any options, what is read has a text. -/
theorem Request.exists_forms (request : Request) (read : Chart.parse (unixText input) = .ok chart) :
    ∃ text, request.Forms (unixText input) chart text ∧
      (request.produce input).outcome = .ok (text.push '\n') := by
  have made := outcome_produce request input
  rw [read] at made
  refine ⟨_, ?_, made⟩
  unfold Forms
  split
  · rfl
  · rw [outcome_translate, Dialect.named_token, read]

theorem Request.input?_eq_ok_iff :
    request.input? disk stdin = .ok input ↔ request.Given disk stdin input := by
  unfold input?
  constructor
  · intro done
    split at done
    · cases done
      exact .stdin ‹_›
    · cases read : disk.read stdin _ with
      | error trouble =>
        rw [read] at done
        cases done
      | ok text =>
        rw [read] at done
        cases done
        exact .path ‹_› (Disk.read_eq_ok_iff.1 read)
  · intro given
    cases given with
    | stdin unnamed => rw [unnamed]
    | path named reads =>
      rw [named]
      dsimp only
      rw [Disk.read_eq_ok_iff.2 reads]
      rfl

theorem Request.run_of_not_given (unread : ∀ input, ¬ request.Given disk stdin input) :
    (request.run console disk stdin).Refuses 1 disk := by
  unfold run
  split
  · exact ⟨rfl, rfl, rfl⟩
  · rename_i input done
    exact absurd (input?_eq_ok_iff.1 done) (unread input)

theorem Request.run_of_syntaxError {e : SyntaxError}
    (given : request.Given disk stdin input)
    (bad : Chart.parse (unixText input) = .error e) :
    (request.run console disk stdin).Refuses 1 disk := by
  have failed := outcome_produce request input
  rw [bad] at failed
  rw [run, input?_eq_ok_iff.2 given]
  dsimp only
  rw [failed]
  exact ⟨rfl, rfl, rfl⟩

theorem Request.run_prints {text : String} (given : request.Given disk stdin input)
    (made : (request.produce input).outcome = .ok text) (unnamed : request.output = none) :
    (request.run console disk stdin).Prints console disk text := by
  rw [run, input?_eq_ok_iff.2 given]
  dsimp only
  rw [made, unnamed]
  exact ⟨rfl, rfl, rfl⟩

theorem Request.run_eq_save {text path : String} (given : request.Given disk stdin input)
    (made : (request.produce input).outcome = .ok text) (named : request.output = some path) :
    request.run console disk stdin =
      request.save console disk (request.produce input).notes path text := by
  rw [run, input?_eq_ok_iff.2 given]
  dsimp only
  rw [made, named]

/-! ## Writing to a path -/

variable {notes : List Note} {path text : String} {handle : Handle}

theorem Request.disk_save : (request.save console disk notes path text).disk =
    (disk.write path text).disk := by
  unfold save
  dsimp only
  split <;> rfl

theorem Request.save_of_not_opens (unopened : ∀ handle, ¬ disk.Opens path handle) :
    (request.save console disk notes path text).Refuses 1 disk := by
  obtain ⟨unchanged, silent, reason, failed⟩ := Disk.write_of_not_opens text unopened
  unfold save
  dsimp only
  rw [failed]
  exact ⟨rfl, silent, unchanged⟩

/-- The exit code tells whether the writing broke off. -/
theorem Request.save_of_opens (request : Request) (console : Console) (notes : List Note)
    (text : String) (opens : disk.Opens path handle) :
    let result := request.save console disk notes path text
    disk.Puts (disk.passed handle text) handle result.disk result.stdout ∧
      result.exit = if (disk.breakAt? handle).isSome then 1 else 0 := by
  obtain ⟨puts, trouble⟩ := Disk.write_of_opens text opens
  unfold save
  dsimp only
  rw [trouble]
  cases disk.breakAt? handle with
  | none => exact ⟨puts, rfl⟩
  | some broken => exact ⟨puts, rfl⟩

theorem Request.save_saves (opens : disk.Opens path handle)
    (through : disk.breakAt? handle = none) :
    (request.save console disk notes path text).Saves disk handle text := by
  obtain ⟨puts, exit⟩ := request.save_of_opens console notes text opens
  rw [Disk.passed, through] at puts
  rw [through] at exit
  exact ⟨exit, puts⟩

theorem Request.save_breaksOff {broken : Break} (opens : disk.Opens path handle)
    (breaks : disk.breakAt? handle = some broken) :
    (request.save console disk notes path text).BreaksOff disk handle text broken.kept := by
  obtain ⟨puts, exit⟩ := request.save_of_opens console notes text opens
  rw [Disk.passed, breaks] at puts
  rw [breaks] at exit
  exact ⟨exit, puts⟩

/-- A command changes no file but the one that its output path is opened as. -/
theorem Request.changes_of_run {names : Path}
    (changed : (names, text) ∈ (request.run console disk stdin).disk.changesSince disk) :
    ∃ path, request.output = some path ∧ disk.Opens path (.file (disk.here ++ names)) := by
  unfold run at changed
  split at changed
  · exact absurd changed Disk.not_mem_changesSince_self
  · dsimp only at changed
    split at changed
    · exact absurd changed Disk.not_mem_changesSince_self
    · split at changed
      · exact absurd changed Disk.not_mem_changesSince_self
      · rename_i path named
        rw [disk_save] at changed
        exact ⟨path, named, Disk.opens_of_changes changed⟩

end

/-! ## What is printed -/

section

variable {console : Console} (lawful : console.Lawful)
include lawful

/-- A text is printed as it is if and only if no control sequence stands in it. -/
theorem printed_push_iff {text : String} : console.printed (text.push '\n') = text.push '\n' ↔
    ∀ sequence, ControlSequence sequence → ¬ sequence <:+: text.toList := by
  rw [lawful.printed_eq_self_iff, String.toList_push]
  refine forall_congr' fun sequence => forall_congr' fun control => not_congr ?_
  exact ⟨Text.infix_of_infix_newline control,
    fun inside => inside.trans (List.infix_append_left ..)⟩

theorem printed_document (value : Plain) :
    console.printed ((Json.document value).push '\n') = (Json.document value).push '\n' := by
  refine (printed_push_iff lawful).2 fun sequence control inside => ?_
  cases control with
  | mk _ _ =>
    -- A sequence starts with an escape character, which a document does not show.
    have shown := Json.shown_iff.1 (Json.shown_document value) _ (inside.subset List.mem_cons_self)
    exact absurd shown (by decide)

end

/-- Let the arguments ask for something. If the input that they name does not exist or may not be
read, they are refused, which has its own exit code. Else an input that cannot be read or is no
chart is an error, which leaves everything as it was. What is read as a chart has a text: the chart
as JSON if that is asked for, in any dialect, minified or not, and else what a translation gives.
Without an output path the text and a line feed are printed, less control sequences, so a JSON text
is printed as it is. With a path, which may be that of the input, it is an error that leaves
everything as it was if the path cannot be opened. If it can, the text is stored there as it is,
unless the writing breaks off, which is an error again, but leaves a beginning of the text there.
Whatever else is on the disk stays. -/
theorem run_refuses_or_delivers {console : Console} (lawful : console.Lawful)
    {arguments : List String} {request : Request} (spelled : request.SpelledBy arguments)
    {disk : Disk} {stdin : String} {result : Result}
    (ran : execute arguments disk stdin console = result) :
    (request.hasInput disk = false → result.Refuses 2 disk) ∧
    (request.hasInput disk = true →
      ((∀ input, ¬ request.Given disk stdin input) → result.Refuses 1 disk) ∧
      ∀ input, request.Given disk stdin input →
        (∀ e, Chart.parse (unixText input) = .error e → result.Refuses 1 disk) ∧
        ∀ chart, Chart.parse (unixText input) = .ok chart → ∃ text,
          request.Forms (unixText input) chart text ∧
          (request.output = none → result.Prints console disk (text.push '\n') ∧
            (result.stdout = text.push '\n' ↔
              ∀ sequence, ControlSequence sequence → ¬ sequence <:+: text.toList) ∧
            (request.json = true → result.stdout = text.push '\n')) ∧
          ∀ path, request.output = some path →
            ((∀ handle, ¬ disk.Opens path handle) → result.Refuses 1 disk) ∧
            ∀ handle, disk.Opens path handle →
              (disk.breakAt? handle = none → result.Saves disk handle (text.push '\n')) ∧
              ∀ broken, disk.breakAt? handle = some broken →
                result.BreaksOff disk handle (text.push '\n') broken.kept) := by
  refine ⟨fun absent => ?_, fun present => ?_⟩
  · rw [← ran, execute, run?, lawful.refuses spelled absent]
    exact ⟨rfl, rfl, rfl⟩
  · rw [execute, run?, lawful.accepts spelled present, Option.map_some, Option.getD_some] at ran
    subst ran
    refine ⟨fun unread => Request.run_of_not_given unread, fun input given =>
      ⟨fun e bad => Request.run_of_syntaxError given bad, fun chart read => ?_⟩⟩
    obtain ⟨text, forms, made⟩ := request.exists_forms read
    refine ⟨text, forms, fun unnamed => ?_, fun path named => ?_⟩
    · have prints : (request.run console disk stdin).Prints console disk (text.push '\n') :=
        Request.run_prints given made unnamed
      refine ⟨prints, ?_, fun json => ?_⟩
      · rw [prints.stdout]
        exact printed_push_iff lawful
      · rw [Request.Forms, if_pos json] at forms
        rw [prints.stdout, forms]
        exact printed_document lawful _
    · rw [Request.run_eq_save given made named]
      exact ⟨fun unopened => Request.save_of_not_opens unopened, fun handle opens =>
        ⟨fun through => Request.save_saves opens through,
          fun broken breaks => Request.save_breaksOff opens breaks⟩⟩

/-- A file is replaced by its translation, and the one beside it stays. -/
theorem run_refuses_or_delivers_overInput : ∃ result text,
    execute ["-mo", "a", "a"]
        { files := [(["a"], "msc \x7b a,b;\r\na => b; \x7d"), (["b"], "x")] } "" = result ∧
      (translate "msc \x7b a,b;\na => b; \x7d" true (some "xu")).outcome = .ok text ∧
      result.exit = 0 ∧ result.stdout = "" ∧ result.disk.text? ["a"] = some (text.push '\n') ∧
      result.disk.text? ["b"] = some "x" := by
  let source := "msc \x7b a,b;\r\na => b; \x7d"
  let disk : Disk := { files := [(["a"], source), (["b"], "x")] }
  have spelled :
      Request.SpelledBy ⟨some "a", true, .xu, false, some "a", false⟩ ["-mo", "a", "a"] :=
    Request.ofArguments?_eq_some_iff.1 (by decide +kernel)
  have leads : disk.target "a" = .file ["a"] source := by decide +kernel
  have parsed : (Chart.parse (unixText source)).toOption.any (fun _ => true) = true := by
    decide +kernel
  obtain ⟨chart, read, -⟩ := Except.any_toOption_iff.1 parsed
  obtain ⟨result, ran⟩ : ∃ result, execute ["-mo", "a", "a"] disk "" = result := ⟨_, rfl⟩
  obtain ⟨-, delivers⟩ :=
    (run_refuses_or_delivers Console.standard_lawful spelled ran).2 (by decide +kernel)
  obtain ⟨text, forms, -, saves⟩ := (delivers source (.path rfl (.file leads rfl rfl))).2 chart read
  obtain ⟨exit, puts⟩ := ((saves "a" rfl).2 _ (.file leads rfl)).1 rfl
  obtain ⟨stores, silent⟩ := puts.stores
  have unix : unixText source = "msc \x7b a,b;\na => b; \x7d" := by decide +kernel
  rw [unix] at forms
  exact ⟨result, text, ran, forms, exit, silent, stores.there, stores.elsewhere ["b"] (by decide)⟩

/-- A file that cannot grow is emptied all the same. -/
example :
    execute ["-o", "a"]
        { files := [(["a"], "x")], limits := [(["a"], { breaks := some ⟨0, .tooLarge⟩ })] }
        "msc\x7b\x7d" =
      ⟨1, "", "error: cannot write 'a': [Errno 27] File too large\n",
        { files := [(["a"], "")], limits := [(["a"], { breaks := some ⟨0, .tooLarge⟩ })] }⟩ := by
  decide +kernel

/-- A file gets the label and the standard output does not. -/
theorem control_sequence_lost :
    (translate "msc\x7ba[label=\"\x1b[m\"];\x7d").outcome.toOption =
        some "msc \x7b\n  a [label=\"\x1b[m\"];\n\n\x7d" ∧
      execute [] {} "msc\x7ba[label=\"\x1b[m\"];\x7d" =
        ⟨0, "msc \x7b\n  a [label=\"\"];\n\n\x7d\n", "", {}⟩ ∧
      execute ["-o", "b"] {} "msc\x7ba[label=\"\x1b[m\"];\x7d" =
        ⟨0, "", "", { files := [(["b"], "msc \x7b\n  a [label=\"\x1b[m\"];\n\n\x7d\n")] }⟩ := by
  decide +kernel

end Command

end SeqChart
