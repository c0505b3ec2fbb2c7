import GrammarCheck.Command.Run
import GrammarCheck.Proofs.Checking.Refusal
import GrammarCheck.Proofs.Lexing.Exposing

/-! # Files in order

What the command prints for a file and whether the file fails is told by the file alone. The command
prints the files one behind the other, up to the first that fails, and its exit code tells whether
one did, and under `--strict` whether a diagnostic was printed.
-/

namespace GrammarCheck.Command

open Receiver (handOver)

/-- What a file comes to by itself: the lines that it prints, and its end. -/
@[ext]
structure Transcript where
  printed : List String
  result : Except FileError Unit

namespace Transcript

/-- A check prints its diagnostics. -/
def ofCheck (name : String) (source : Utf8Lines) : Transcript :=
  let outcome := check source name ({} : Collector)
  { printed := outcome.state.receiver.diagnostics.map Diagnostic.render
    result := (outcome.result.map fun _ => ()).mapError (.checking name) }

/-- A listing prints the tokens that come up when the lookahead is asked for and dropped in turn. A
failure takes the place of the last of them. -/
def ofListing (name : String) (source : Utf8Lines) : Transcript :=
  let tokens := (Lexer.start source name 0 0).exposed.1
  let failure? := (Lexer.start source name 0 0).exposed.2
  { printed := (if failure? = none then tokens else tokens.dropLast).map Written.tokenLine
    result := failure?.elim (.ok ()) fun failure => .error (.listing name failure) }

/-- What a path comes to. One that cannot be opened prints nothing. -/
def ofPath (tokens : Bool) (openPath : String → Except IoFailure Feed) (stdin : Feed)
    (path : String) : Transcript :=
  let ofText := if tokens then ofListing else ofCheck
  if isStandardInput path then ofText standardInputName (Utf8Lines.ofFeed blockSize stdin)
  else
    match openPath path with
    | .error cause => { printed := [], result := .error (.opening path cause) }
    | .ok feed => ofText path (Utf8Lines.ofFeed blockSize feed)

end Transcript

section Writing

/-- A writer on a sink without a bound that has taken these lines. -/
def holding (texts : List String) : LineWriter :=
  ⟨⟨(lines texts).toUTF8, none⟩⟩

/-- A sink without a bound takes every line. -/
private theorem writeLine_holding (texts : List String) (line : String) :
    (holding texts).sink.writeLine line = .ok () (holding (texts ++ [line])).sink := by
  have longer : (lines (texts ++ [line])).toUTF8 =
      (lines texts).toUTF8 ++ (line.push '\n').toUTF8 := by
    rw [lines, List.map_append, String.join_append, List.map_singleton, String.join_cons,
      String.join_nil, String.append_empty]
    exact String.toByteArray_append
  rw [holding, holding, longer]
  rfl

private theorem handOver_holding (diagnostics : List Diagnostic) (texts : List String) :
    handOver diagnostics (holding texts) =
      .ok () (holding (texts ++ diagnostics.map Diagnostic.render)) := by
  induction diagnostics generalizing texts with
  | nil => rw [Receiver.handOver_nil, List.map_nil, List.append_nil]
  | cons diagnostic diagnostics ih =>
    have received : Receiver.receive diagnostic (holding texts) =
        .ok () (holding (texts ++ [diagnostic.render])) :=
      congrArg (Outcome.lift id LineWriter.mk) (writeLine_holding texts diagnostic.render)
    rw [Receiver.handOver_cons, received, Outcome.andThen_ok, ih, List.append_assoc]
    rfl

/-- The tokens of a listing are written, and then its failure comes. -/
private theorem writeTokens_holding (tokens : List Token) (failure? : Option Failure)
    (texts : List String) :
    let writer := holding (texts ++ tokens.map Written.tokenLine)
    writeTokens (tokens.map .ok ++ failure?.toList.map .error) (holding texts) =
      failure?.elim (.ok () writer) fun failure => .error failure writer := by
  induction tokens generalizing texts with
  | nil =>
    have same : holding (texts ++ []) = holding texts := congrArg holding (List.append_nil texts)
    cases failure? with
    | none => exact congrArg (Outcome.ok ()) same.symm
    | some failure => exact congrArg (Outcome.error failure) same.symm
  | cons token tokens ih =>
    have further := ih (texts ++ [Written.tokenLine token])
    rw [List.append_assoc] at further
    rw [List.map_cons, List.map_cons, List.cons_append, writeTokens, writeLine_holding]
    exact further

end Writing

/-- A session that has printed `texts` goes through a file: it prints the lines of the file and ends
as the file does. The standard input is left alone unless it is the file. -/
structure Session.GoesThrough (texts : List String) (session : Session) (fromStdin : Bool)
    (file : Transcript) (counted : Nat) (outcome : Outcome FileError Session Unit) : Prop where
  result_eq : outcome.result = file.result
  stdout_eq : outcome.state.stdout = holding (texts ++ file.printed)
  total_eq : file.result = .ok () → outcome.state.total = session.total + counted
  stdin_eq : fromStdin = false → outcome.state.stdin = session.stdin

namespace Session

variable {session : Session} {texts : List String}

private theorem stdin_absorb {fromStdin : Bool} (other : fromStdin = false)
    (cursor : Cursor Utf8Lines) (stdout : LineWriter) :
    (session.absorb fromStdin cursor stdout).stdin = session.stdin := by
  rw [other]
  rfl

private theorem checkText_goesThrough (written : session.stdout = holding texts) (name : String)
    (fromStdin : Bool) (source : Utf8Lines) :
    let file := Transcript.ofCheck name source
    session.GoesThrough texts fromStdin file file.printed.length
      (session.checkText name fromStdin source) := by
  intro file
  obtain ⟨taken, same, counted⟩ | ⟨cause, refused, -⟩ :=
    check_hands_over source name session.stdout
  · rw [written, handOver_holding, ← written] at taken
    have printed := (Outcome.ok.inj taken).2
    have ended : file.result = _ := congrArg (Except.mapError _ <| Except.map _ ·) same.symm
    rw [checkText]
    cases checked : check source name session.stdout with
    | error failure checker =>
      rw [checked] at ended printed
      refine ⟨ended.symm, printed.symm, fun passed => ?_, fun other => stdin_absorb other _ _⟩
      exact absurd (ended.symm.trans passed) nofun
    | ok count checker =>
      rw [checked] at ended printed counted
      refine ⟨ended.symm, printed.symm, fun _ => ?_,
        fun other => stdin_absorb other checker.tokens.cursor checker.receiver⟩
      have length := counted count rfl
      rw [← List.length_map] at length
      exact congrArg (session.total + ·) length
  · rw [written, handOver_holding] at refused
    contradiction

private theorem listText_goesThrough (written : session.stdout = holding texts) (name : String)
    (fromStdin : Bool) (source : Utf8Lines) :
    session.GoesThrough texts fromStdin (Transcript.ofListing name source) 0
      (session.listText name fromStdin source) := by
  have going : (Lexer.start source name 0 0).finished = false := rfl
  obtain ⟨-, items⟩ := Lexer.toList_eq_exposed going
  rw [listText]
  dsimp only
  rw [items, written, writeTokens_holding, Transcript.ofListing]
  generalize (Lexer.start source name 0 0).exposed = shown
  obtain ⟨tokens, _ | failure⟩ := shown
  · exact ⟨rfl, rfl, fun _ => rfl, fun other => stdin_absorb other _ _⟩
  · exact ⟨rfl, rfl, nofun, fun other => stdin_absorb other _ _⟩

variable (options : Options) (openPath : String → Except IoFailure Feed) {stdin : Feed}

/-- The command goes through a path as through the file that it stands for. -/
theorem processFile_goesThrough (written : session.stdout = holding texts) {path : String}
    (unread : isStandardInput path = true → session.stdin = stdin) :
    let file := Transcript.ofPath options.tokens openPath stdin path
    session.GoesThrough texts (isStandardInput path) file
      (if options.tokens then 0 else file.printed.length)
      (session.processFile options openPath path) := by
  rw [processFile, Transcript.ofPath]
  cases named : isStandardInput path with
  | true =>
    rw [if_pos rfl, if_pos rfl, unread named]
    cases options.tokens with
    | true => exact listText_goesThrough written ..
    | false => exact checkText_goesThrough written ..
  | false =>
    rw [if_neg Bool.false_ne_true, if_neg Bool.false_ne_true]
    cases openPath path with
    | error cause =>
      refine ⟨rfl, ?_, nofun, fun _ => rfl⟩
      exact written.trans (congrArg holding (List.append_nil texts).symm)
    | ok feed =>
      cases options.tokens with
      | true => exact listText_goesThrough written ..
      | false => exact checkText_goesThrough written ..

/-- Behind files that do not fail the command goes on with the others. It has printed the lines of
those files, and the standard input is untouched if it is still to come. -/
theorem exists_processFiles_append {before rest : List String}
    (written : session.stdout = holding texts)
    (once : (before ++ rest).countP isStandardInput ≤ 1)
    (unread : ∀ path ∈ before ++ rest, isStandardInput path = true → session.stdin = stdin)
    (passing : ∀ path ∈ before,
      (Transcript.ofPath options.tokens openPath stdin path).result = .ok ()) :
    let printed :=
      before.flatMap fun path => (Transcript.ofPath options.tokens openPath stdin path).printed
    ∃ next : Session, session.processFiles options openPath (before ++ rest) =
        next.processFiles options openPath rest ∧
      next.stdout = holding (texts ++ printed) ∧
      next.total = session.total + (if options.tokens then 0 else printed.length) ∧
      ∀ path ∈ rest, isStandardInput path = true → next.stdin = stdin := by
  induction before generalizing session texts with
  | nil =>
    refine ⟨session, rfl, written.trans (congrArg holding (List.append_nil texts).symm), ?_, unread⟩
    split <;> rfl
  | cons path before ih =>
    obtain ⟨here, others⟩ := List.forall_mem_cons.mp passing
    have through := processFile_goesThrough options openPath written
      (unread path (List.mem_cons_self ..))
    have stepped := Outcome.eq_ok_of_result_eq (through.result_eq.trans here)
    have printed := through.stdout_eq
    have counted := through.total_eq here
    have once' : (before ++ rest).countP isStandardInput ≤ 1 :=
      (List.sublist_cons_self ..).countP_le.trans once
    have unread' : ∀ other ∈ before ++ rest, isStandardInput other = true →
        (session.processFile options openPath path).state.stdin = stdin := by
      intro other member named
      cases first : isStandardInput path with
      | true =>
        rw [List.cons_append, List.countP_cons_of_pos first] at once
        have none_ : (before ++ rest).countP isStandardInput = 0 := by omega
        exact absurd named (List.countP_eq_zero.mp none_ other member)
      | false =>
        exact (through.stdin_eq first).trans (unread other (List.mem_cons_of_mem _ member) named)
    obtain ⟨next, ran, printed', counted', unread''⟩ := ih printed once' unread' others
    refine ⟨next, ?_, ?_, ?_, unread''⟩
    · rw [← ran, List.cons_append, processFiles, stepped]
      rfl
    · rw [printed', List.append_assoc]
      rfl
    · rw [counted', counted, Nat.add_assoc]
      split
      · rfl
      · rw [← List.length_append]
        rfl

end Session

section Reports

variable {options : Options} (filter : LogFilter) {openPath : String → Except IoFailure Feed}
  {stdin : Feed} (once : options.files.countP isStandardInput ≤ 1)

include once

/-- The first file that fails is the last one printed, as far as it goes. -/
private theorem run_of_failing {before after : List String} {path : String}
    (split : options.files = before ++ path :: after)
    (passing : ∀ earlier ∈ before,
      (Transcript.ofPath options.tokens openPath stdin earlier).result = .ok ())
    (failing : (Transcript.ofPath options.tokens openPath stdin path).result ≠ .ok ()) :
    let report := run options filter openPath stdin
    report.stdout = (lines ((before ++ [path]).flatMap fun path =>
        (Transcript.ofPath options.tokens openPath stdin path).printed)).toUTF8 ∧
      report.code = 2 := by
  intro report
  have start : ({ stdin } : Session).stdout = holding [] := rfl
  have fresh : ∀ other ∈ before ++ path :: after, isStandardInput other = true →
      ({ stdin } : Session).stdin = stdin := fun _ _ _ => rfl
  rw [split] at once
  obtain ⟨next, ran, printed, -, unread⟩ :=
    Session.exists_processFiles_append options openPath start once fresh passing
  have through := Session.processFile_goesThrough options openPath printed
    (unread path (List.mem_cons_self ..))
  dsimp only [report]
  rw [run, split, ran, Session.processFiles]
  cases processed : next.processFile options openPath path with
  | ok _ last =>
    rw [processed] at through
    exact absurd through.result_eq.symm failing
  | error failure last =>
    have written := through.stdout_eq
    rw [processed, List.nil_append] at written
    have whole : last.stdout = holding ((before ++ [path]).flatMap fun path =>
        (Transcript.ofPath options.tokens openPath stdin path).printed) := by
      rw [List.flatMap_append, List.flatMap_singleton]
      exact written
    exact ⟨congrArg (fun writer => writer.sink.written) whole, rfl⟩

/-- Where no file fails all are printed, and the diagnostics among their lines decide. -/
private theorem run_of_passing (passing : ∀ path ∈ options.files,
      (Transcript.ofPath options.tokens openPath stdin path).result = .ok ()) :
    let report := run options filter openPath stdin
    let file := Transcript.ofPath options.tokens openPath stdin
    report.stdout = (lines (options.files.flatMap fun path => (file path).printed)).toUTF8 ∧
      report.code = if options.strict ∧ ¬ options.tokens ∧
        ∃ path ∈ options.files, (file path).printed ≠ [] then 1 else 0 := by
  intro report file
  have start : ({ stdin } : Session).stdout = holding [] := rfl
  have fresh : ∀ path ∈ options.files ++ [], isStandardInput path = true →
      ({ stdin } : Session).stdin = stdin := fun _ _ _ => rfl
  rw [← List.append_nil options.files] at once
  obtain ⟨next, ran, printed, counted, -⟩ :=
    Session.exists_processFiles_append options openPath start once fresh passing
  rw [List.append_nil, Session.processFiles] at ran
  dsimp only [report]
  rw [run, ran]
  refine ⟨congrArg (fun writer => writer.sink.written) printed, ?_⟩
  have some_ : 0 < (options.files.flatMap fun path => (file path).printed).length ↔
      ∃ path ∈ options.files, (file path).printed ≠ [] := by
    rw [List.length_pos_iff, ne_eq, List.flatMap_eq_nil_iff]
    simp
  have total := counted.trans (Nat.zero_add _)
  have reported : 0 < next.total ↔
      ¬ options.tokens ∧ ∃ path ∈ options.files, (file path).printed ≠ [] := by
    rw [total, ← some_]
    split
    · next listing => simp [listing]
    · next checking => exact (and_iff_right checking).symm
  change (if options.strict && decide (0 < next.total) then 1 else 0) = _
  simp only [reported, Bool.and_eq_true, decide_eq_true_eq]

end Reports

/-- The command prints the files in order, each as it would be printed by itself, up to and with the
first that fails. It exits with 2 if one fails, and else with 1 if it is strict and has printed a
diagnostic. -/
theorem files_in_order_up_to_the_first_failure (options : Options) (filter : LogFilter)
    (openPath : String → Except IoFailure Feed) (stdin : Feed)
    (once : options.files.countP isStandardInput ≤ 1) :
    let report := run options filter openPath stdin
    let file := Transcript.ofPath options.tokens openPath stdin
    (∀ before path after, options.files = before ++ path :: after →
      (∀ earlier ∈ before, (file earlier).result = .ok ()) → (file path).result ≠ .ok () →
      report.stdout = (lines ((before ++ [path]).flatMap fun path => (file path).printed)).toUTF8 ∧
        report.code = 2) ∧
    ((∀ path ∈ options.files, (file path).result = .ok ()) →
      report.stdout = (lines (options.files.flatMap fun path => (file path).printed)).toUTF8 ∧
        report.code = if options.strict ∧ ¬ options.tokens ∧
          ∃ path ∈ options.files, (file path).printed ≠ [] then 1 else 0) := by
  intro report file
  constructor
  · intro before path after split passing failing
    exact run_of_failing filter once split passing failing
  · intro passing
    exact run_of_passing filter once passing

/-- A path without a slash is the standard input only as a lone hyphen. -/
private theorem isStandardInput_of_splitOn {path : String} (whole : path.splitOn "/" = [path]) :
    isStandardInput path = decide (path = "-") := by
  rw [isStandardInput, whole]
  exact Bool.and_true _

/-- The first file of three is text and the second is not. Behind its first line the second fails a
check and a listing, and what was printed by then stays. -/
theorem files_up_to_one_that_is_not_text :
    let broken := "T = .\n".toUTF8.data.toList ++ [255]
    let openPath (path : String) : Except IoFailure Feed :=
      .ok (Feed.ofBytes (if path = "b" then broken else "U".toUTF8.data.toList))
    let stdin := Feed.ofBytes "S 'x\"'".toUTF8.data.toList
    let report (files : List String) (tokens : Bool) :=
      run { files, strict := true, tokens } (.choose none 0) openPath stdin
    let files := ["-", "b", "c"]
    let refused := ["<stdin>(1, 3): expected '=', found literal 'x\"'",
      "<stdin>(1, 7): expected '.', found end of input"]
    let listed := ["<stdin>(1, 1): Identifier \"S\"", "<stdin>(1, 3): Literal \"'x\\\"'\"",
      "<stdin>(1, 7): EndOfInput \"\""]
    files.countP isStandardInput ≤ 1 ∧
      (report files false).stdout = (lines (refused ++
        ["b(1, 5): expected identifier, literal, '(', '[' or '\x7b', found '.'"])).toUTF8 ∧
      (report files false).code = 2 ∧
      (report files true).stdout = (lines (listed ++
        ["b(1, 1): Identifier \"T\"", "b(1, 3): Assign \"=\""])).toUTF8 ∧
      (report files true).code = 2 ∧
      (report ["-"] false).stdout = (lines refused).toUTF8 ∧ (report ["-"] false).code = 1 ∧
      (report ["-"] true).stdout = (lines listed).toUTF8 ∧ (report ["-"] true).code = 0 := by
  intro broken openPath stdin report files refused listed
  have cuts : "-".splitOn "/" = ["-"] ∧ "b".splitOn "/" = ["b"] ∧ "c".splitOn "/" = ["c"] := by
    refine ⟨?_, ?_, ?_⟩
    all_goals
      rw [String.splitOn, String.splitOnAux, String.splitOnAux]
      rfl
  have dash : isStandardInput "-" = true := isStandardInput_of_splitOn cuts.1
  have letter : isStandardInput "b" = false := isStandardInput_of_splitOn cuts.2.1
  have other : isStandardInput "c" = false := isStandardInput_of_splitOn cuts.2.2
  have once : files.countP isStandardInput ≤ 1 := by simp [files, dash, letter, other]
  have alone : ["-"].countP isStandardInput ≤ 1 := by simp [dash]
  let file (tokens : Bool) := Transcript.ofPath tokens openPath stdin
  have checked : file false "-" = ⟨refused, .ok ()⟩ :=
    (if_pos dash).trans (Transcript.ext (by decide +kernel) (by decide +kernel))
  have listing : file true "-" = ⟨listed, .ok ()⟩ :=
    (if_pos dash).trans (Transcript.ext (by decide +kernel) (by decide +kernel))
  have brokenCheck : file false "b" =
      ⟨["b(1, 5): expected identifier, literal, '(', '[' or '\x7b', found '.'"],
        .error (.checking "b" (.io .invalidUtf8))⟩ :=
    (if_neg (ne_true_of_eq_false letter)).trans
      (Transcript.ext (by decide +kernel) (by decide +kernel))
  have brokenListing : file true "b" = ⟨["b(1, 1): Identifier \"T\"", "b(1, 3): Assign \"=\""],
        .error (.listing "b" (.io .invalidUtf8))⟩ :=
    (if_neg (ne_true_of_eq_false letter)).trans
      (Transcript.ext (by decide +kernel) (by decide +kernel))
  have stops (tokens : Bool) {first second : List String} {failure : FileError}
      (passed : file tokens "-" = ⟨first, .ok ()⟩)
      (failed : file tokens "b" = ⟨second, .error failure⟩) :
      (report files tokens).stdout = (lines (first ++ second)).toUTF8 ∧
        (report files tokens).code = 2 := by
    have passing : ∀ earlier ∈ ["-"], (file tokens earlier).result = .ok () := by
      rw [List.forall_mem_singleton, passed]
    have failing : (file tokens "b").result ≠ .ok () := by
      rw [failed]
      exact nofun
    have stopped := (files_in_order_up_to_the_first_failure { files, strict := true, tokens }
      (.choose none 0) openPath stdin once).1 ["-"] "b" ["c"] rfl passing failing
    have printed : (["-"] ++ ["b"]).flatMap (fun path => (file tokens path).printed) =
        first ++ second := by
      rw [List.flatMap_append, List.flatMap_singleton, List.flatMap_singleton, passed, failed]
    rwa [printed] at stopped
  have passes (tokens : Bool) {printed : List String}
      (passed : file tokens "-" = ⟨printed, .ok ()⟩) :
      (report ["-"] tokens).stdout = (lines printed).toUTF8 ∧
        (report ["-"] tokens).code = if ¬ tokens ∧ printed ≠ [] then 1 else 0 := by
    have passing : ∀ path ∈ ["-"], (file tokens path).result = .ok () := by
      rw [List.forall_mem_singleton, passed]
    have whole := (files_in_order_up_to_the_first_failure
      { files := ["-"], strict := true, tokens } (.choose none 0) openPath stdin alone).2 passing
    change _ = (lines (["-"].flatMap fun path => (file tokens path).printed)).toUTF8 ∧ _ =
      if true ∧ ¬ tokens ∧ ∃ path ∈ ["-"], (file tokens path).printed ≠ [] then 1 else 0 at whole
    simpa [passed] using whole
  obtain ⟨checkedOut, checkedCode⟩ := stops false checked brokenCheck
  obtain ⟨listedOut, listedCode⟩ := stops true listing brokenListing
  obtain ⟨strictOut, strictCode⟩ := passes false checked
  obtain ⟨plainOut, plainCode⟩ := passes true listing
  exact ⟨once, checkedOut, checkedCode, listedOut, listedCode, strictOut, strictCode, plainOut,
    plainCode⟩

end GrammarCheck.Command
