import Mathlib.Data.List.Pairwise
import ClassAtlas.Proofs.CommandLine.Spelling
import ClassAtlas.Proofs.CommandLine.Verbosity

/-! # Command lines that mean the same

    The switches of a command can be given in another order and in other spellings,
    and the global ones on the other side of the command:

        --log-level debug generate -vs src --builtin-type A --builtin-type B
        generate --builtin-type=A --log-level=debug --builtin-type B --source src -v

    If none is given twice, this is the same invocation
    (`Invocation.ofArguments_of_rearranged`).  Only the built-in types have to
    keep their order.
-/

namespace ClassAtlas.CommandLine

/-! ## Requests and their choices -/

namespace Request

/-- The switch that is asked for. -/
def switch : Request → Switch
  | .alone s | .valued s _ => s

/-- The built-in type that is asked for. -/
def builtIn? : Request → Option Bytes
  | .valued .builtIn value => some value
  | _ => none

/-- What the request settles, if there is nothing wrong with it. -/
def choice? (r : Request) : Option Choice :=
  match r.reading with
  | .choice c => some c
  | .help | .version | .misread => none

/-- At most one of the two may be given. -/
def Apart (r q : Request) : Prop := r.switch = q.switch → r.switch.repeats

instance : DecidableRel Apart := fun _ _ => inferInstanceAs (Decidable (_ = _ → _))

instance : Std.Symm Apart := ⟨fun _ _ h heq => heq ▸ h heq.symm⟩

theorem choice?_eq_some_iff {r : Request} {c : Choice} :
    r.choice? = some c ↔ r.reading = .choice c := by
  cases hr : r.reading <;> simp [choice?, hr]

end Request

/-- A choice is made by the switch that is read. -/
theorem Switch.switch_of_choice? {s : Switch} {value : Bytes} {c : Choice}
    (h : s.choice? value = some c) : c.switch = s := by
  cases s with
  | logLevel | logFormat | source | output | start | builtIn =>
    obtain ⟨_, -, rfl⟩ := Option.map_eq_some_iff.1 h
    rfl
  | verbose | stdout | json | help | version => cases h

namespace Request

theorem switch_of_choice? {r : Request} {c : Choice} (h : r.choice? = some c) :
    c.switch = r.switch := by
  rw [choice?_eq_some_iff] at h
  cases r with
  | alone s => cases s <;> cases h <;> rfl
  | valued s value =>
    rw [reading, Switch.readWith] at h
    split at h
    · next hc =>
      cases h
      exact Switch.switch_of_choice? hc
    · cases h

/-- The built-in types that are asked for are those that are chosen. -/
theorem bind_builtIn? (r : Request) :
    r.choice?.bind Choice.builtIn? = r.builtIn?.bind Utf8.decode? := by
  by_cases hr : r.switch = .builtIn
  · cases r with
    | alone s =>
      cases hr
      rfl
    | valued s value =>
      cases hr
      cases htext : Utf8.decode? value <;>
        simp [choice?, reading, Switch.readWith, Switch.choice?, builtIn?, Choice.builtIn?, htext]
  · have hnone : r.builtIn? = none := by
      cases r with
      | alone => rfl
      | valued s value => cases s <;> first | rfl | exact absurd rfl hr
    rw [hnone, Option.bind_none, Option.bind_eq_none_iff]
    intro c hc
    have hswitch := switch_of_choice? hc
    cases c <;> first | rfl | exact absurd hswitch.symm hr

end Request

/-- What a list of requests settles. -/
def chosen (rs : List Request) : List Choice := rs.filterMap Request.choice?

theorem chosen_append (rs qs : List Request) : chosen (rs ++ qs) = chosen rs ++ chosen qs :=
  List.filterMap_append

theorem builtIns_chosen (rs : List Request) :
    (chosen rs).filterMap Choice.builtIn?
      = (rs.filterMap Request.builtIn?).filterMap Utf8.decode? := by
  rw [chosen, List.filterMap_filterMap, List.filterMap_filterMap]
  exact List.filterMap_congr fun r _ => r.bind_builtIn?

theorem map_reading_eq_iff {rs : List Request} {cs : List Choice} :
    rs.map Request.reading = cs.map .choice ↔ (∀ r ∈ rs, r.choice?.isSome) ∧ chosen rs = cs := by
  induction rs generalizing cs with
  | nil => cases cs <;> simp [chosen]
  | cons r rs ih =>
    cases hr : r.choice? with
    | none =>
      -- what settles nothing reads as no choice, so neither side holds
      have hne : ∀ c, r.reading ≠ .choice c := fun c h => by
        rw [Request.choice?_eq_some_iff.2 h] at hr
        cases hr
      cases cs with
      | nil => simp [hr]
      | cons c cs => simp [hr, hne]
    | some c =>
      have hreading := Request.choice?_eq_some_iff.1 hr
      cases cs with
      | nil => simp [chosen, hr]
      | cons d cs =>
        have hchosen : chosen (r :: rs) = c :: chosen rs := List.filterMap_cons_some hr
        simp only [List.map_cons, List.cons.injEq, hreading, Reading.choice.injEq, ih, hchosen,
          List.forall_mem_cons, hr, Option.isSome_some, true_and]
        tauto

/-! ## Choices in another order -/

/-- At most one of the two may be made. -/
def Choice.Apart (c d : Choice) : Prop := c.switch = d.switch → c.switch.repeats

instance : Std.Symm Choice.Apart := ⟨fun _ _ h heq => heq ▸ h heq.symm⟩

theorem apart_chosen {rs : List Request} (h : rs.Pairwise Request.Apart) :
    (chosen rs).Pairwise Choice.Apart := by
  rw [chosen, List.pairwise_filterMap]
  refine h.imp fun hapart c hc d hd => ?_
  rw [Choice.Apart, Request.switch_of_choice? hc, Request.switch_of_choice? hd]
  exact hapart

/-- Choices that are apart are settled as they are. -/
theorem Level.settle_map_choice (level : Level) {made cs : List Choice}
    (h : (made ++ cs).Pairwise Choice.Apart) :
    level.settle made (cs.map .choice) = .ok (made ++ cs) := by
  induction cs generalizing made with
  | nil => rw [List.append_nil]; rfl
  | cons c cs ih =>
    have hfirst : (! c.switch.repeats && made.any (·.switch == c.switch)) = false := by
      by_contra hagain
      simp only [Bool.not_eq_false, Bool.and_eq_true, Bool.not_eq_true', List.any_eq_true,
        beq_iff_eq] at hagain
      obtain ⟨honce, d, hd, hsame⟩ := hagain
      have hapart := (List.pairwise_append.1 h).2.2 d hd c List.mem_cons_self hsame
      rw [hsame, honce] at hapart
      cases hapart
    have hsplit : made ++ c :: cs = (made ++ [c]) ++ cs := by simp
    rw [List.map_cons, settle, hfirst, if_neg Bool.false_ne_true, hsplit]
    exact ih (hsplit ▸ h)

/-- Requests that are apart are settled if there is nothing wrong with any. -/
theorem Level.settle_map_reading_eq_ok_iff (level : Level) {rs : List Request} {cs : List Choice}
    (h : rs.Pairwise Request.Apart) :
    level.settle [] (rs.map Request.reading) = .ok cs
      ↔ (∀ r ∈ rs, r.choice?.isSome) ∧ chosen rs = cs := by
  rw [← map_reading_eq_iff]
  constructor
  · intro hsettle
    obtain ⟨more, hreadings, rfl⟩ := Level.settle_eq_ok hsettle
    exact hreadings
  · intro hreadings
    have hcs : chosen rs = cs := (map_reading_eq_iff.1 hreadings).2
    have hapart : ([] ++ cs).Pairwise Choice.Apart := hcs ▸ apart_chosen h
    rw [hreadings]
    exact level.settle_map_choice hapart

section

variable {cs cs' : List Choice}

/-- The last value of a switch that does not repeat is its only one. -/
theorem lastChoice?_eq_some_iff {α : Type} {value? : Choice → Option α} {s : Switch}
    (hswitch : ∀ c v, value? c = some v → c.switch = s) (hs : s.repeats = false)
    (h : cs.Pairwise Choice.Apart) {v : α} :
    lastChoice? value? cs = some v ↔ ∃ c ∈ cs, value? c = some v := by
  have hfound : ∀ {w}, lastChoice? value? cs = some w → ∃ c ∈ cs, value? c = some w := by
    intro w hw
    obtain ⟨c, hc, hvalue⟩ := List.exists_of_findSome?_eq_some hw
    exact ⟨c, List.mem_reverse.1 hc, hvalue⟩
  refine ⟨hfound, fun ⟨c, hc, hvalue⟩ => ?_⟩
  cases hlast : lastChoice? value? cs with
  | none =>
    have hnone := List.findSome?_eq_none_iff.1 hlast c (List.mem_reverse.2 hc)
    rw [hvalue] at hnone
    cases hnone
  | some w =>
    obtain ⟨d, hd, hvalue'⟩ := hfound hlast
    -- both are made by the switch, which may be given only once
    have hsame : c = d := by
      by_contra hne
      have hrepeats := h.forall hc hd hne
        ((hswitch c v hvalue).trans (hswitch d w hvalue').symm)
      rw [hswitch c v hvalue, hs] at hrepeats
      cases hrepeats
    rw [← hvalue, ← hvalue', hsame]

theorem lastChoice?_perm {α : Type} {value? : Choice → Option α} {s : Switch}
    (hswitch : ∀ c v, value? c = some v → c.switch = s) (hs : s.repeats = false)
    (h : cs.Pairwise Choice.Apart) (hperm : cs'.Perm cs) :
    lastChoice? value? cs' = lastChoice? value? cs := by
  have h' := (hperm.pairwise_iff fun hcd => symm hcd).2 h
  ext v
  rw [lastChoice?_eq_some_iff hswitch hs h, lastChoice?_eq_some_iff hswitch hs h']
  simp only [hperm.mem_iff]

/-- A command is the same whatever the order of its choices, that of the built-in
    types apart. -/
theorem CommandName.command_perm (name : CommandName) (h : cs.Pairwise Choice.Apart)
    (hperm : cs'.Perm cs)
    (hbuiltIns : cs'.filterMap Choice.builtIn? = cs.filterMap Choice.builtIn?) :
    name.command cs' = name.command cs := by
  have hsource : lastChoice? Choice.source? cs' = lastChoice? Choice.source? cs :=
    lastChoice?_perm (s := .source) (fun c _ hc => by cases c <;> cases hc; rfl) rfl h hperm
  have houtput : lastChoice? Choice.output? cs' = lastChoice? Choice.output? cs :=
    lastChoice?_perm (s := .output) (fun c _ hc => by cases c <;> cases hc; rfl) rfl h hperm
  have hstart : lastChoice? Choice.start? cs' = lastChoice? Choice.start? cs :=
    lastChoice?_perm (s := .start) (fun c _ hc => by cases c <;> cases hc; rfl) rfl h hperm
  cases name with
  | generate => rw [command, command, hsource, houtput, hbuiltIns, hperm.contains_eq]
  | inspect => rw [command, command, hsource, hperm.contains_eq]
  | root => rw [command, command, hstart]

end

/-- Choices about logging are no part of a command. -/
theorem CommandName.command_append (name : CommandName) {before : List Choice}
    (h : ∀ c ∈ before, c.isLogging) (after : List Choice) :
    name.command (before ++ after) = name.command after := by
  have hnone : before.filter (! ·.isLogging) = [] := by
    rw [List.filter_eq_nil_iff]
    intro c hc
    simp [h c hc]
  rw [← name.command_filter (before ++ after), List.filter_append, hnone, List.nil_append,
    name.command_filter]

/-- An invocation is the same whatever the order of the choices and on whichever side
    those about logging stand. -/
theorem Invocation.ofChoices_perm (name : CommandName) {before after before' after' : List Choice}
    (hbefore : ∀ c ∈ before, c.isLogging) (hbefore' : ∀ c ∈ before', c.isLogging)
    (h : (before ++ after).Pairwise Choice.Apart) (hperm : (before' ++ after').Perm (before ++ after))
    (hbuiltIns : (before' ++ after').filterMap Choice.builtIn?
      = (before ++ after).filterMap Choice.builtIn?) :
    ofChoices name before' after' = ofChoices name before after := by
  have hcommand : name.command after' = name.command after := by
    calc name.command after'
      _ = name.command (before' ++ after') := (name.command_append hbefore' after').symm
      _ = name.command (before ++ after) := name.command_perm h hperm hbuiltIns
      _ = name.command after := name.command_append hbefore after
  have hlevel : lastChoice? Choice.logLevel? (before' ++ after')
      = lastChoice? Choice.logLevel? (before ++ after) :=
    lastChoice?_perm (s := .logLevel) (fun c _ hc => by cases c <;> cases hc; rfl) rfl h hperm
  have hformat : lastChoice? Choice.logFormat? (before' ++ after')
      = lastChoice? Choice.logFormat? (before ++ after) :=
    lastChoice?_perm (s := .logFormat) (fun c _ hc => by cases c <;> cases hc; rfl) rfl h hperm
  rw [ofChoices, ofChoices, hcommand, hlevel, hformat, hperm.contains_eq]

/-! ## Lines -/

/-- A command with the requests on both sides of it. -/
structure Line where
  before : List Request
  name : CommandName
  after : List Request
  deriving DecidableEq, Repr

namespace Line

def requests (l : Line) : List Request := l.before ++ l.after

/-- The arguments ask for the requests of the line in their order, each in some
    spelling, and for nothing else. -/
def Spells (l : Line) (args : List Bytes) : Prop :=
  ∃ front back, Level.top.Spells l.before front ∧ (Level.after l.name).Spells l.after back
    ∧ args = front ++ Utf8.encode l.name.word :: back

/-- No switch is given twice, on whichever side, but for those that repeat. -/
def Once (l : Line) : Prop := l.requests.Pairwise Request.Apart

instance (l : Line) : Decidable l.Once := inferInstanceAs (Decidable (List.Pairwise _ _))

/-- The line `l'` has the requests of `l`, in whatever order and on whichever side of
    the same command, with the built-in types in the order of `l`. -/
structure Rearranged (l l' : Line) : Prop where
  name : l'.name = l.name
  perm : l'.requests.Perm l.requests
  builtIns : l'.requests.filterMap Request.builtIn? = l.requests.filterMap Request.builtIn?

end Line

/-! ### The requests that are spelled -/

theorem Level.mem_switches_of_bundles {level : Level} {rs : List Request} {bs : Bytes}
    {next? : Option Bytes} (h : level.Bundles rs bs next?) : ∀ r ∈ rs, r.switch ∈ level.switches := by
  induction h with
  | nil => exact List.forall_mem_nil _
  | flag hs _ _ ih => exact List.forall_mem_cons.2 ⟨hs.1, ih⟩
  | detached hs | attached hs | equals hs => exact List.forall_mem_singleton.2 hs.1

/-- Only switches of the level are spelled there. -/
theorem Level.mem_switches_of_spells {level : Level} {rs : List Request} {args : List Bytes}
    (h : level.Spells rs args) : ∀ r ∈ rs, r.switch ∈ level.switches := by
  induction h with
  | nil => exact List.forall_mem_nil _
  | long hs _ ih | longDetached hs _ _ ih | longAttached hs _ ih =>
    exact List.forall_mem_cons.2 ⟨hs.1, ih⟩
  | cluster hbundle _ _ ih =>
    exact List.forall_mem_append.2 ⟨mem_switches_of_bundles hbundle, ih⟩

/-- What is settled before the command is about logging. -/
theorem Level.isLogging_of_spells {rs : List Request} {args : List Bytes}
    (h : Level.top.Spells rs args) : ∀ c ∈ chosen rs, c.isLogging := by
  intro c hc
  obtain ⟨r, hr, hchoice⟩ := List.mem_filterMap.1 hc
  have hmem : c.switch ∈ Level.top.switches := by
    rw [Request.switch_of_choice? hchoice]
    exact mem_switches_of_spells h r hr
  cases c with
  | verbose | logLevel | logFormat => rfl
  | source | output | builtIn | stdout | json | start =>
    simp [Choice.switch, switches] at hmem

/-! ### Reading a line -/

theorem CommandName.ofBytes?_word (name : CommandName) :
    ofBytes? (Utf8.encode name.word) = some name := by
  cases name <;> decide

theorem CommandName.word_of_ofBytes? {word : Bytes} {name : CommandName}
    (h : ofBytes? word = some name) : Utf8.encode name.word = word := by
  have hname : (Utf8.encode name.word == word) = true := by simpa using List.find?_some h
  exact eq_of_beq hname

theorem Level.speak?_word (level : Level) (name : CommandName) :
    level.speak? (Utf8.encode name.word) = none := by
  cases name <;> rfl

namespace Line

theorem ofArguments_eq {l : Line} {args : List Bytes} (h : l.Spells args) :
    Invocation.ofArguments args = (do
      let before ← Level.top.settle [] (l.before.map Request.reading)
      let after ← (Level.after l.name).settle [] (l.after.map Request.reading)
      let invocation := Invocation.ofChoices l.name before after
      if invocation.command.isTorn then throw .misuse
      return invocation) := by
  obtain ⟨front, back, hfront, hback, rfl⟩ := h
  have htop : Level.top.read (front ++ Utf8.encode l.name.word :: back)
      = (l.before.map Request.reading, Utf8.encode l.name.word :: back) :=
    Level.read_of_spells hfront fun arg harg => by
      cases harg
      exact Level.top.speak?_word l.name
  have hafter : (Level.after l.name).read back = (l.after.map Request.reading, []) := by
    have hnone : ∀ arg ∈ ([] : List Bytes).head?, (Level.after l.name).speak? arg = none := by simp
    have hread := Level.read_of_spells hback hnone
    rwa [List.append_nil] at hread
  simp only [Invocation.ofArguments, htop, l.name.ofBytes?_word, Invocation.ofRest, hafter]

theorem ofArguments_eq_ok_iff {l : Line} {args : List Bytes} (h : l.Spells args)
    {invocation : Invocation} :
    Invocation.ofArguments args = .ok invocation
      ↔ ∃ before after, Level.top.settle [] (l.before.map Request.reading) = .ok before
        ∧ (Level.after l.name).settle [] (l.after.map Request.reading) = .ok after
        ∧ (Invocation.ofChoices l.name before after).command.isTorn = false
        ∧ Invocation.ofChoices l.name before after = invocation := by
  rw [ofArguments_eq h]
  cases Level.top.settle [] (l.before.map Request.reading) with
  | error reply => simp [bind, Except.bind]
  | ok before =>
    cases (Level.after l.name).settle [] (l.after.map Request.reading) with
    | error reply => simp [bind, Except.bind]
    | ok after =>
      cases htorn : (Invocation.ofChoices l.name before after).command.isTorn with
      | true => simp [bind, Except.bind, htorn]
      | false => simp [bind, Except.bind, pure, Except.pure, htorn]

/-- A line without repetition is accepted if there is nothing wrong with any request
    and the document does not go to two places. -/
theorem ofArguments_eq_ok_iff_of_once {l : Line} {args : List Bytes} (h : l.Spells args)
    (honce : l.Once) {invocation : Invocation} :
    Invocation.ofArguments args = .ok invocation
      ↔ (∀ r ∈ l.requests, r.choice?.isSome)
        ∧ (Invocation.ofChoices l.name (chosen l.before) (chosen l.after)).command.isTorn = false
        ∧ Invocation.ofChoices l.name (chosen l.before) (chosen l.after) = invocation := by
  obtain ⟨hbefore, hafter, -⟩ := List.pairwise_append.1 honce
  simp only [ofArguments_eq_ok_iff h, Level.settle_map_reading_eq_ok_iff _ hbefore,
    Level.settle_map_reading_eq_ok_iff _ hafter, requests, List.forall_mem_append]
  constructor
  · rintro ⟨_, _, ⟨hall, rfl⟩, ⟨hall', rfl⟩, hinvocation⟩
    exact ⟨⟨hall, hall'⟩, hinvocation⟩
  · rintro ⟨⟨hall, hall'⟩, hinvocation⟩
    exact ⟨_, _, ⟨hall, rfl⟩, ⟨hall', rfl⟩, hinvocation⟩

/-- A rearranged line is accepted like the line itself, and is the same invocation. -/
theorem Rearranged.ofArguments_eq_ok {l l' : Line} (hre : l.Rearranged l') (honce : l.Once)
    {args args' : List Bytes} (h : l.Spells args) (h' : l'.Spells args') {invocation : Invocation}
    (hok : Invocation.ofArguments args = .ok invocation) :
    Invocation.ofArguments args' = .ok invocation := by
  have honce' : l'.Once := (hre.perm.pairwise_iff fun hapart => symm hapart).2 honce
  obtain ⟨hall, htorn, hinvocation⟩ := (ofArguments_eq_ok_iff_of_once h honce).1 hok
  have hsame : Invocation.ofChoices l'.name (chosen l'.before) (chosen l'.after)
      = Invocation.ofChoices l.name (chosen l.before) (chosen l.after) := by
    rw [hre.name]
    obtain ⟨_, _, hfront, -⟩ := h
    obtain ⟨_, _, hfront', -⟩ := h'
    apply Invocation.ofChoices_perm l.name (Level.isLogging_of_spells hfront)
      (Level.isLogging_of_spells hfront')
    · rw [← chosen_append]
      exact apart_chosen honce
    · rw [← chosen_append, ← chosen_append]
      exact hre.perm.filterMap _
    · rw [← chosen_append, ← chosen_append, builtIns_chosen, builtIns_chosen]
      exact congrArg _ hre.builtIns
  refine (ofArguments_eq_ok_iff_of_once h' honce').2 ⟨?_, ?_, ?_⟩
  · exact fun r hr => hall r (hre.perm.mem_iff.1 hr)
  · rw [hsame]
    exact htorn
  · rw [hsame]
    exact hinvocation

end Line

/-! ### Every accepted command line is a line -/

theorem Argument.eq_of_ofBytes_ending {arg : Bytes} (h : ofBytes arg = .ending) :
    arg = [dash, dash] := by
  rcases ofBytes_cases arg with hword | ⟨harg, -⟩ | ⟨cs, hcs, rfl⟩ | ⟨b, bs, hb, rfl⟩
  · rw [hword] at h
    cases h
  · exact harg
  · rw [ofBytes_dashes hcs] at h
    cases h
  · rw [ofBytes_cluster hb] at h
    cases h

theorem Level.misread_not_mem_of_settle {level : Level} {rs : List Reading} {cs : List Choice}
    (h : level.settle [] rs = .ok cs) : .misread ∉ rs := by
  obtain ⟨more, rfl, -⟩ := settle_eq_ok h
  simp

theorem Invocation.exists_spells_of_ofRest {name : CommandName} {before : List Choice}
    {args : List Bytes} {invocation : Invocation} (h : ofRest name before args = .ok invocation)
    (hlast : args.getLast? ≠ some [dash, dash]) : ∃ after, (Level.after name).Spells after args := by
  obtain ⟨cs, hsettle, -, hrest⟩ := ofRest_cases h
  obtain ⟨after, front, hargs, hspells, -⟩ :=
    Level.exists_spells_of_read (Level.misread_not_mem_of_settle hsettle)
  -- a mark that ends the switches would be the last argument
  rcases hrest with hnil | ⟨last, hone, hending⟩
  · rw [hnil, List.append_nil] at hargs
    exact ⟨after, hargs ▸ hspells⟩
  · rw [hone, Argument.eq_of_ofBytes_ending hending] at hargs
    rw [hargs, List.getLast?_concat] at hlast
    exact absurd rfl hlast

/-- Accepted arguments spell a line, if they do not end with the mark that ends the
    switches. -/
theorem Line.exists_spells_of_ok {args : List Bytes} {invocation : Invocation}
    (h : Invocation.ofArguments args = .ok invocation) (hlast : args.getLast? ≠ some [dash, dash]) :
    ∃ l : Line, l.Spells args := by
  obtain ⟨cs, word, rest, name, hsettle, hrest, hname, hafter⟩ := Invocation.ofArguments_cases h
  obtain ⟨before, front, hargs, hfront, -⟩ :=
    Level.exists_spells_of_read (Level.misread_not_mem_of_settle hsettle)
  rw [hrest] at hargs
  have hlast' : rest.getLast? ≠ some [dash, dash] := fun hending => hlast <| by
    rw [hargs, List.append_cons, List.getLast?_append, hending, Option.some_or]
  obtain ⟨after, hback⟩ := Invocation.exists_spells_of_ofRest hafter hlast'
  rw [← CommandName.word_of_ofBytes? hname] at hargs
  exact ⟨⟨before, name, after⟩, front, rest, hfront, hback, hargs⟩

/-! ## The same invocation -/

/-- Accepted arguments spell a line.  If no switch of the line is given twice, then
    whatever spells a rearrangement of it is accepted too, as the same invocation.
    A plain value is spelled in every way that there is to give it. -/
theorem Invocation.ofArguments_of_rearranged {args : List Bytes} {invocation : Invocation}
    (h : ofArguments args = .ok invocation) (hlast : args.getLast? ≠ some [dash, dash]) :
    (∃ l : Line, l.Spells args)
      ∧ (∀ l l' : Line, l.Spells args → l.Once → l.Rearranged l' →
          ∀ args', l'.Spells args' → ofArguments args' = .ok invocation)
      ∧ ∀ (level : Level) (s : Switch) (value : Bytes), level.TakesValue s → Plain value →
          ∀ way ∈ s.ways value, ∀ rs more, level.Spells rs more →
            level.Spells (.valued s value :: rs) (way ++ more) := by
  refine ⟨Line.exists_spells_of_ok h hlast, ?_, ?_⟩
  · intro l l' hspells honce hre args' hspells'
    exact hre.ofArguments_eq_ok honce hspells hspells' h
  · intro level s value hs hplain way hway rs more hmore
    exact Level.spells_of_plain hs hplain hway hmore

/-- A global switch before the command, and letters after it. -/
def lettersLine : Line where
  before := [.valued .logLevel (Utf8.encode "debug")]
  name := .generate
  after := [.alone .verbose, .valued .source (Utf8.encode "root"),
    .valued .builtIn (Utf8.encode "A"), .valued .builtIn (Utf8.encode "B")]

def lettersArgs : List Bytes :=
  ["--log-level", "debug", "generate", "-vs", "root", "--builtin-type", "A",
    "--builtin-type=B"].map Utf8.encode

/-- The same after the command, by long names. -/
def wordsLine : Line where
  before := []
  name := .generate
  after := [.valued .builtIn (Utf8.encode "A"), .valued .logLevel (Utf8.encode "debug"),
    .valued .builtIn (Utf8.encode "B"), .valued .source (Utf8.encode "root"), .alone .verbose]

def wordsArgs : List Bytes :=
  ["generate", "--builtin-type=A", "--log-level=debug", "--builtin-type", "B", "--source=root",
    "--verbose"].map Utf8.encode

def generateInvocation : Invocation where
  command := .generate (some (.ofString "root")) none ["A", "B"] false
  verbose := true
  logLevel := .debug

theorem lettersLine_spells : lettersLine.Spells lettersArgs := by
  refine ⟨["--log-level", "debug"].map Utf8.encode,
    ["-vs", "root", "--builtin-type", "A", "--builtin-type=B"].map Utf8.encode, ?_, ?_, rfl⟩
  · exact .longDetached (s := .logLevel) ⟨by decide, rfl⟩ rfl .nil
  · exact .cluster (.flag (s := .verbose) ⟨by decide, rfl⟩ rfl
      (.detached (s := .source) ⟨by decide, rfl⟩ rfl rfl)) (by decide)
      (.longDetached (s := .builtIn) ⟨by decide, rfl⟩ rfl
        (.longAttached (s := .builtIn) ⟨by decide, rfl⟩ .nil))

theorem wordsLine_spells : wordsLine.Spells wordsArgs := by
  refine ⟨[], wordsArgs.tail, .nil, ?_, rfl⟩
  exact .longAttached (s := .builtIn) ⟨by decide, rfl⟩
    (.longAttached (s := .logLevel) ⟨by decide, rfl⟩
      (.longDetached (s := .builtIn) ⟨by decide, rfl⟩ rfl
        (.longAttached (s := .source) ⟨by decide, rfl⟩
          (.long (s := .verbose) ⟨by decide, rfl⟩ .nil))))

theorem ofArguments_of_rearranged_letters_words :
    Invocation.ofArguments lettersArgs = .ok generateInvocation
      ∧ lettersLine.Once ∧ lettersLine.Rearranged wordsLine
      ∧ Invocation.ofArguments wordsArgs = .ok generateInvocation := by
  have hletters : Invocation.ofArguments lettersArgs = .ok generateInvocation := by decide
  have honce : lettersLine.Once := by decide
  have hre : lettersLine.Rearranged wordsLine := ⟨rfl, by decide, by decide⟩
  have hsame := (Invocation.ofArguments_of_rearranged hletters (by decide)).2.1
    lettersLine wordsLine lettersLine_spells honce hre wordsArgs wordsLine_spells
  exact ⟨hletters, honce, hre, hsame⟩

end ClassAtlas.CommandLine
