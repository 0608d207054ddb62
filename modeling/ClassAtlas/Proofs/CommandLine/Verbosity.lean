import ClassAtlas.Proofs.CommandLine.Agreement
import ClassAtlas.Proofs.Logging.Directives

/-! # Saying more changes nothing else

    How much a run says, and how it logs, is settled by three switches and three
    variables of the environment.  Two runs that differ in these only come to the
    same exit code, output, disk and error (`run_sameResult`), as long as both
    filters can be read, or neither.

    A filter that cannot be read keeps the whole run from being done
    (`not_forall_run_sameResult`).  No filter is of that kind in which no blank
    stands in front of a directive (`Environment.Unindented.ne_unreadableFilter`).
-/

namespace ClassAtlas.CommandLine

/-! ## What arguments say -/

/-- The choice is about how much is said, or how. -/
def Choice.isLogging : Choice → Bool
  | .verbose | .logLevel _ | .logFormat _ => true
  | .source _ | .output _ | .builtIn _ | .stdout | .json | .start _ => false

def Reading.isLogging : Reading → Bool
  | .choice c => c.isLogging
  | .help | .version | .misread => false

/-- What arguments say on both sides of the command, and the arguments that belong
    to no switch. -/
structure Wording where
  before : List Reading
  name : CommandName
  after : List Reading
  rest : List Bytes
  deriving DecidableEq, Repr

namespace Wording

/-- The wording of arguments that name a command. -/
def ofArguments? (args : List Bytes) : Option Wording :=
  match Level.top.read args with
  | (_, []) => none
  | (before, word :: rest) =>
    (CommandName.ofBytes? word).map fun name =>
      { before, name,
        after := ((Level.after name).read rest).1
        rest := ((Level.after name).read rest).2 }

/-- The wording without what it says about logging. -/
def unlogged (w : Wording) : Wording :=
  { w with
    before := w.before.filter (! ·.isLogging)
    after := w.after.filter (! ·.isLogging) }

end Wording

/-- The arguments say the same, wherever and however often switches for logging
    stand between the others. -/
def SameButLogging (args args' : List Bytes) : Prop :=
  (Wording.ofArguments? args).map Wording.unlogged
    = (Wording.ofArguments? args').map Wording.unlogged

instance (args args' : List Bytes) : Decidable (SameButLogging args args') :=
  inferInstanceAs (Decidable (_ = _))

/-! ## The command does not depend on it -/

/-- Accepted readings are choices, and these are what they settle. -/
theorem Level.settle_eq_ok {level : Level} {made : List Choice} {rs : List Reading}
    {cs : List Choice} (h : level.settle made rs = .ok cs) :
    ∃ more, rs = more.map .choice ∧ cs = made ++ more := by
  induction rs generalizing made with
  | nil =>
    cases h
    exact ⟨[], rfl, (List.append_nil _).symm⟩
  | cons r rs ih =>
    cases r with
    | choice c =>
      rw [settle] at h
      split at h
      · cases h
      · obtain ⟨more, hrs, hcs⟩ := ih h
        refine ⟨c :: more, by rw [hrs, List.map_cons], ?_⟩
        rw [hcs, List.append_assoc, List.singleton_append]
    | help | version | misread => cases h

theorem filter_map_choice (cs : List Choice) :
    (cs.map Reading.choice).filter (! ·.isLogging)
      = (cs.filter (! ·.isLogging)).map Reading.choice := by
  rw [List.filter_map]
  rfl

theorem lastChoice?_filter {α : Type} {value? : Choice → Option α}
    (h : ∀ c, c.isLogging → value? c = none) (cs : List Choice) :
    lastChoice? value? (cs.filter (! ·.isLogging)) = lastChoice? value? cs := by
  rw [lastChoice?, lastChoice?, ← List.filter_reverse]
  generalize cs.reverse = cs
  induction cs with
  | nil => rfl
  | cons c cs ih =>
    by_cases hc : c.isLogging
    · rw [List.filter_cons_of_neg (by simp [hc]), List.findSome?_cons, h c hc, ih]
    · rw [List.filter_cons_of_pos (by simp [hc]), List.findSome?_cons, List.findSome?_cons, ih]

theorem contains_filter_choice {c : Choice} (hc : c.isLogging = false) (cs : List Choice) :
    (cs.filter (! ·.isLogging)).contains c = cs.contains c := by
  rw [Bool.eq_iff_iff, List.contains_iff_mem, List.contains_iff_mem, List.mem_filter]
  simp [hc]

/-- What is said about logging is no part of a command. -/
theorem Choice.eq_none_of_isLogging {c : Choice} (h : c.isLogging) :
    c.source? = none ∧ c.output? = none ∧ c.start? = none ∧ c.builtIn? = none := by
  cases c with
  | verbose | logLevel | logFormat => exact ⟨rfl, rfl, rfl, rfl⟩
  | source | output | builtIn | stdout | json | start => cases h

/-- A command is made of the other choices. -/
theorem CommandName.command_filter (name : CommandName) (cs : List Choice) :
    name.command (cs.filter (! ·.isLogging)) = name.command cs := by
  have hsource := lastChoice?_filter (fun _ h => (Choice.eq_none_of_isLogging h).1) cs
  have houtput := lastChoice?_filter (fun _ h => (Choice.eq_none_of_isLogging h).2.1) cs
  have hstart := lastChoice?_filter (fun _ h => (Choice.eq_none_of_isLogging h).2.2.1) cs
  have hbuiltIns : (cs.filter (! ·.isLogging)).filterMap Choice.builtIn?
      = cs.filterMap Choice.builtIn? := by
    rw [List.filterMap_filter]
    refine List.filterMap_congr fun c _ => ?_
    by_cases hc : c.isLogging
    · simp [hc, (Choice.eq_none_of_isLogging hc).2.2.2]
    · simp [hc]
  cases name with
  | generate =>
    rw [command, command, hsource, houtput, hbuiltIns, contains_filter_choice rfl]
  | inspect => rw [command, command, hsource, contains_filter_choice rfl]
  | root => rw [command, command, hstart]

namespace Invocation

/-- What is accepted after a command are choices, with the mark that ends the switches
    behind them or nothing. -/
theorem ofRest_cases {name : CommandName} {before : List Choice} {args : List Bytes}
    {invocation : Invocation} (h : ofRest name before args = .ok invocation) :
    ∃ cs, (Level.after name).settle [] ((Level.after name).read args).1 = .ok cs
      ∧ ofChoices name before cs = invocation
      ∧ (((Level.after name).read args).2 = []
        ∨ ∃ last, ((Level.after name).read args).2 = [last] ∧ Argument.ofBytes last = .ending) := by
  unfold ofRest at h
  cases hsettle : (Level.after name).settle [] ((Level.after name).read args).1 with
  | error reply =>
    simp only [bind, Except.bind, hsettle] at h
    cases h
  | ok cs =>
    simp only [bind, Except.bind, hsettle] at h
    refine ⟨cs, rfl, ?_⟩
    split at h
    · cases h
    · split at h
      · next hrest => exact ⟨Except.ok.inj h, .inl hrest⟩
      · next last hrest =>
        split at h
        · next hending => exact ⟨Except.ok.inj h, .inr ⟨last, hrest, hending⟩⟩
        · cases h
      · cases h

/-- Accepted arguments are choices, the word of a command, and what is accepted after
    it. -/
theorem ofArguments_cases {args : List Bytes} {invocation : Invocation}
    (h : ofArguments args = .ok invocation) :
    ∃ before word rest name, Level.top.settle [] (Level.top.read args).1 = .ok before
      ∧ (Level.top.read args).2 = word :: rest
      ∧ CommandName.ofBytes? word = some name
      ∧ ofRest name before rest = .ok invocation := by
  unfold ofArguments at h
  cases hsettle : Level.top.settle [] (Level.top.read args).1 with
  | error reply =>
    simp only [bind, Except.bind, hsettle] at h
    cases h
  | ok before =>
    simp only [bind, Except.bind, hsettle] at h
    split at h
    · cases h
    · next word rest hrest =>
      split at h
      · next name hname => exact ⟨before, word, rest, name, rfl, hrest, hname, h⟩
      · cases h

/-- An accepted invocation is that of a command with the choices after it. -/
theorem exists_wording_of_ok {args : List Bytes} {invocation : Invocation}
    (h : ofArguments args = .ok invocation) :
    ∃ w cs, Wording.ofArguments? args = some w ∧ w.after = cs.map Reading.choice
      ∧ invocation.command = w.name.command cs := by
  obtain ⟨before, word, rest, name, -, hrest, hname, hafter⟩ := ofArguments_cases h
  obtain ⟨cs, hsettle, rfl, -⟩ := ofRest_cases hafter
  obtain ⟨_, hreadings, rfl⟩ := Level.settle_eq_ok hsettle
  have hw : Wording.ofArguments? args = some
      ⟨(Level.top.read args).1, name, ((Level.after name).read rest).1,
        ((Level.after name).read rest).2⟩ := by
    unfold Wording.ofArguments?
    generalize Level.top.read args = said at *
    obtain ⟨readings, left⟩ := said
    cases hrest
    simp only [hname, Option.map_some]
  exact ⟨_, cs, hw, hreadings, rfl⟩

/-- Arguments that say the same but for logging ask for the same command. -/
theorem command_eq_of_sameButLogging {args args' : List Bytes} {invocation invocation' : Invocation}
    (h : ofArguments args = .ok invocation) (h' : ofArguments args' = .ok invocation')
    (hsame : SameButLogging args args') : invocation.command = invocation'.command := by
  obtain ⟨w, cs, hw, hcs, hcommand⟩ := exists_wording_of_ok h
  obtain ⟨w', cs', hw', hcs', hcommand'⟩ := exists_wording_of_ok h'
  have hunlogged : w.unlogged = w'.unlogged := by
    unfold SameButLogging at hsame
    rw [hw, hw'] at hsame
    exact Option.some.inj hsame
  have hname : w.name = w'.name := by
    have hnames := congrArg Wording.name hunlogged
    exact hnames
  have hafter : cs.filter (! ·.isLogging) = cs'.filter (! ·.isLogging) := by
    have hreadings : w.unlogged.after = w'.unlogged.after := congrArg _ hunlogged
    rw [Wording.unlogged, Wording.unlogged, hcs, hcs', filter_map_choice, filter_map_choice]
      at hreadings
    exact List.map_injective_iff.2 (fun _ _ => Reading.choice.inj) hreadings
  rw [hcommand, hcommand', ← w.name.command_filter cs, ← w'.name.command_filter cs', hafter, hname]

end Invocation

/-! ## Filters that can be read -/

/-- No blank stands in front of a directive of the filter that the environment
    gives, if it gives one. -/
def Environment.Unindented (env : Environment) : Prop :=
  ∀ text, env.logLevel?.or env.sharedLogLevel? = some text → LogFilter.Unindented text

theorem Environment.unindented_unset : Environment.Unindented {} := by
  intro text htext
  cases htext

/-- Such a filter can be read, and so can those of the switches. -/
theorem Environment.Unindented.ne_unreadableFilter {env : Environment} (h : env.Unindented)
    (invocation : Invocation) : Logger.ofInvocation env invocation ≠ .unreadableFilter := by
  have hlevels : ∀ level : LogLevel, LogFilter.Unindented level.name := by
    intro level
    cases level <;> decide
  have htext : LogFilter.Unindented
      ((env.logLevel?.or env.sharedLogLevel?).getD invocation.logLevel.name) := by
    cases hset : env.logLevel?.or env.sharedLogLevel? with
    | none => exact hlevels _
    | some text => exact h text hset
  obtain ⟨filter, hfilter⟩ := Option.isSome_iff_exists.1 htext.isSome_ofText?
  cases hformat : LogFormat.ofName? (env.logFormat?.getD invocation.logFormat.name) with
  | none =>
    simp only [Logger.ofInvocation, hformat, ne_eq, reduceCtorEq, not_false_eq_true]
  | some format =>
    simp only [Logger.ofInvocation, hformat, hfilter, ne_eq, reduceCtorEq, not_false_eq_true]

/-! ## The results do not depend on it -/

/-- Two runs came to the same, error included. -/
structure Outcome.SameResult (o o' : Outcome) : Prop where
  exitCode : o.exitCode = o'.exitCode
  stdout : o.stdout = o'.stdout
  disk : o.disk = o'.disk
  error : o.exitCode = 1 → ∃ e : GenerationError,
    o.said.getLast? = some ("Error: " ++ e.report ++ "\n")
      ∧ o'.said.getLast? = some ("Error: " ++ e.report ++ "\n")

namespace Invocation

section

variable {env env' : Environment} {invocation invocation' : Invocation} (disk : Disk)

/-- A run whose filter cannot be read does nothing. -/
theorem run_of_unreadableFilter (h : Logger.ofInvocation env invocation = .unreadableFilter) :
    (invocation.run env disk).exitCode = 101 ∧ (invocation.run env disk).stdout = ""
      ∧ (invocation.run env disk).disk = disk := by
  simp [run, h]

/-- A run that fails prints nothing; what it has changed stays changed. -/
theorem results_of_error {disk disk' : Disk} {e : GenerationError}
    (hstart : Logger.ofInvocation env invocation ≠ .unreadableFilter)
    (h : invocation.command.perform disk = (disk', .error e)) :
    (invocation.run env disk).stdout = "" ∧ (invocation.run env disk).disk = disk' := by
  simp [run, hstart, h]

theorem exitCode_run_eq_iff :
    (invocation.run env disk).exitCode = 101
      ↔ Logger.ofInvocation env invocation = .unreadableFilter := by
  constructor
  · intro hexit
    by_contra hstart
    rcases hperform : invocation.command.perform disk with ⟨disk', e | text⟩
    · have hone := (run_of_error hstart hperform).1
      omega
    · have hzero := (run_of_ok hstart hperform).1
      omega
  · exact fun h => (run_of_unreadableFilter disk h).1

/-- What a command does is all that a run comes to, if its filter can be read. -/
theorem sameResult_of_readable (hstart : Logger.ofInvocation env invocation ≠ .unreadableFilter)
    (hstart' : Logger.ofInvocation env' invocation' ≠ .unreadableFilter)
    (hcommand : invocation.command = invocation'.command) :
    (invocation.run env disk).SameResult (invocation'.run env' disk) := by
  rcases hperform : invocation.command.perform disk with ⟨disk', e | text⟩
  · have hperform' : invocation'.command.perform disk = (disk', .error e) := by
      rw [← hcommand, hperform]
    obtain ⟨hexit, hsaid⟩ := run_of_error hstart hperform
    obtain ⟨hexit', hsaid'⟩ := run_of_error hstart' hperform'
    obtain ⟨hstdout, hdisk⟩ := results_of_error hstart hperform
    obtain ⟨hstdout', hdisk'⟩ := results_of_error hstart' hperform'
    exact ⟨by rw [hexit, hexit'], by rw [hstdout, hstdout'], by rw [hdisk, hdisk'],
      fun _ => ⟨e, hsaid, hsaid'⟩⟩
  · have hperform' : invocation'.command.perform disk = (disk', .ok text) := by
      rw [← hcommand, hperform]
    obtain ⟨hexit, hstdout, hdisk⟩ := run_of_ok hstart hperform
    obtain ⟨hexit', hstdout', hdisk'⟩ := run_of_ok hstart' hperform'
    refine ⟨by rw [hexit, hexit'], by rw [hstdout, hstdout'], by rw [hdisk, hdisk'], ?_⟩
    intro hone
    omega

end

end Invocation

/-- Runs of arguments that say the same but for logging come to the same, whatever
    the environment says about logging and however much is said; unless the filter
    of just one of them cannot be read, which takes a blank in front of a
    directive. -/
theorem run_sameResult (env env' : Environment) (disk : Disk) {args args' : List Bytes}
    {invocation invocation' : Invocation} (hargs : Invocation.ofArguments args = .ok invocation)
    (hargs' : Invocation.ofArguments args' = .ok invocation') (hsame : SameButLogging args args') :
    ((run env disk args).SameResult (run env' disk args')
      ↔ (Logger.ofInvocation env invocation = .unreadableFilter
        ↔ Logger.ofInvocation env' invocation' = .unreadableFilter))
    ∧ (env.Unindented → env'.Unindented →
        (run env disk args).SameResult (run env' disk args')) := by
  have hcommand := Invocation.command_eq_of_sameButLogging hargs hargs' hsame
  have hrun : run env disk args = invocation.run env disk := by rw [run, hargs]
  have hrun' : run env' disk args' = invocation'.run env' disk := by rw [run, hargs']
  rw [hrun, hrun']
  refine ⟨⟨?_, ?_⟩, ?_⟩
  · intro h
    rw [← Invocation.exitCode_run_eq_iff disk, h.exitCode, Invocation.exitCode_run_eq_iff]
  · intro hstarts
    by_cases hstart : Logger.ofInvocation env invocation = .unreadableFilter
    · -- neither run does anything
      obtain ⟨hexit, hstdout, hdisk⟩ := Invocation.run_of_unreadableFilter disk hstart
      obtain ⟨hexit', hstdout', hdisk'⟩ :=
        Invocation.run_of_unreadableFilter disk (hstarts.1 hstart)
      refine ⟨by rw [hexit, hexit'], by rw [hstdout, hstdout'], by rw [hdisk, hdisk'], ?_⟩
      intro hone
      omega
    · have hstart' : Logger.ofInvocation env' invocation' ≠ .unreadableFilter :=
        fun h => hstart (hstarts.2 h)
      exact Invocation.sameResult_of_readable disk hstart hstart' hcommand
  · intro henv henv'
    exact Invocation.sameResult_of_readable disk (henv.ne_unreadableFilter invocation)
      (henv'.ne_unreadableFilter invocation') hcommand

/-- An inspection of which much is said, by a filter that asks for it. -/
def wordyArgs : List Bytes :=
  ["--log-level", "trace", "inspect", "-vs", "/game"].map Utf8.encode

def wordyInvocation : Invocation where
  command := .inspect (some (.ofString "/game")) false
  verbose := true
  logLevel := .trace

def wordyEnvironment : Environment := { logLevel? := some "info,pumlgen[load\x7broot=é\x7d]=debug" }

/-- The same in a format that does not exist, so the filter is not looked at. -/
def plainArgs : List Bytes :=
  ["inspect", "--source=/game", "--log-format", "pretty"].map Utf8.encode

def plainInvocation : Invocation where
  command := .inspect (some (.ofString "/game")) false
  logFormat := .pretty

def plainEnvironment : Environment :=
  { logFormat? := some "xml", sharedLogLevel? := some " é=info" }

theorem run_sameResult_wordy_plain :
    Invocation.ofArguments wordyArgs = .ok wordyInvocation
      ∧ Invocation.ofArguments plainArgs = .ok plainInvocation
      ∧ SameButLogging wordyArgs plainArgs
      ∧ (run wordyEnvironment (linkedDisk .empty) wordyArgs).SameResult
          (run plainEnvironment (linkedDisk .empty) plainArgs) := by
  have hwordy : Invocation.ofArguments wordyArgs = .ok wordyInvocation := by decide
  have hplain : Invocation.ofArguments plainArgs = .ok plainInvocation := by decide
  have hsame : SameButLogging wordyArgs plainArgs := by decide
  have hreadable : Logger.ofInvocation wordyEnvironment wordyInvocation ≠ .unreadableFilter := by
    have hunindented : LogFilter.Unindented "info,pumlgen[load\x7broot=é\x7d]=debug" := by decide
    apply Environment.Unindented.ne_unreadableFilter
    intro text htext
    cases htext
    exact hunindented
  have hreadable' : Logger.ofInvocation plainEnvironment plainInvocation ≠ .unreadableFilter := by
    have hformat : LogFormat.ofName? "xml" = none := by cbv
    simp only [Logger.ofInvocation, plainEnvironment, Option.getD_some, hformat, ne_eq,
      reduceCtorEq, not_false_eq_true]
  have hresult := (run_sameResult wordyEnvironment plainEnvironment (linkedDisk .empty)
    hwordy hplain hsame).1
  exact ⟨hwordy, hplain, hsame, hresult.2 (iff_of_false hreadable hreadable')⟩

/-- Nothing is done if a variable holds a blank in front of a name that is cut by
    it. -/
theorem not_forall_run_sameResult :
    ¬ ∀ (env env' : Environment) (disk : Disk) (args : List Bytes) (invocation : Invocation),
        Invocation.ofArguments args = .ok invocation →
        (run env disk args).SameResult (run env' disk args) := by
  intro h
  let disk : Disk := { top := .directory (Utf8.encode ".git") .empty .empty }
  let invocation : Invocation := { command := .root none }
  have hargs : Invocation.ofArguments [Utf8.encode "root"] = .ok invocation := by decide
  have hsame := h {} { sharedLogLevel? := some " é=info" } disk _ invocation hargs
  have hformat : LogFormat.ofName? LogFormat.compact.name = some .compact := by cbv
  have hfilter : LogFilter.ofText? " é=info" = none := by decide
  have hcut : Logger.ofInvocation { sharedLogLevel? := some " é=info" } invocation
      = .unreadableFilter := by
    simp only [Logger.ofInvocation, invocation, Option.getD_none, Option.none_or,
      Option.getD_some, hformat, hfilter]
  -- the exit code tells of the filter, so the codes differ
  have hexit := hsame.exitCode
  simp only [run, hargs] at hexit
  rw [(Invocation.exitCode_run_eq_iff disk).2 hcut, Invocation.exitCode_run_eq_iff] at hexit
  exact Environment.unindented_unset.ne_unreadableFilter invocation hexit

end ClassAtlas.CommandLine
