import Mathlib.Data.List.TakeWhile
import ClassAtlas.CommandLine.Argument

/-! # Spellings of switches

    A switch can be asked for in several ways:

        --verbose      --source src      --source=src
        -v      -s src      -ssrc      -s=src      -vs src      -vssrc

    `Level.Spells` is the grammar of these, `Level.read` the reader.  The reader
    finds what the arguments spell (`Level.read_of_spells`), and the arguments
    that it finds nothing wrong with spell what it found
    (`Level.exists_spells_of_read`).  A value can be given in each of these ways,
    unless it is empty or starts with a dash or an equals sign
    (`Level.spells_of_plain`).
-/

namespace ClassAtlas.CommandLine

/-! ## Requests -/

/-- A switch that is asked for, with its value if it has one. -/
inductive Request where
  | alone (s : Switch)
  | valued (s : Switch) (value : Bytes)
  deriving DecidableEq, Repr

/-- What comes of reading a request. -/
def Request.reading : Request → Reading
  | .alone s => s.readAlone?.getD .misread
  | .valued s value => s.readWith value

namespace Switch

/-- The argument that asks for the switch by its long name. -/
def longArgument (s : Switch) : Bytes := dash :: dash :: Utf8.encode s.long

/-- The letter of the switch, as it stands in an argument. -/
def letterByte? (s : Switch) : Option UInt8 := s.letter?.map fun c => UInt8.ofNat c.toNat

end Switch

namespace Level

/-- The switch may stand there, and it has no value. -/
def TakesAlone (level : Level) (s : Switch) : Prop := s ∈ level.switches ∧ s.readAlone?.isSome

/-- The switch may stand there, and it has a value. -/
def TakesValue (level : Level) (s : Switch) : Prop := s ∈ level.switches ∧ s.readAlone? = none

/-! ## The grammar -/

/-- Letters behind one dash.  Switches without a value come first; the value of the
    last may stand in the next argument, behind its letter or behind an equals
    sign. -/
inductive Bundles (level : Level) : List Request → Bytes → Option Bytes → Prop where
  | nil : Bundles level [] [] none
  | flag {s : Switch} {b : UInt8} {rs : List Request} {bs : Bytes} {next? : Option Bytes}
      (hs : level.TakesAlone s) (hb : s.letterByte? = some b) (h : Bundles level rs bs next?) :
      Bundles level (.alone s :: rs) (b :: bs) next?
  | detached {s : Switch} {b : UInt8} {value : Bytes} (hs : level.TakesValue s)
      (hb : s.letterByte? = some b) (hword : Argument.ofBytes value = .word) :
      Bundles level [.valued s value] [b] (some value)
  | attached {s : Switch} {b c : UInt8} {cs : Bytes} (hs : level.TakesValue s)
      (hb : s.letterByte? = some b) (hc : c ≠ equalsSign) :
      Bundles level [.valued s (c :: cs)] (b :: c :: cs) none
  | equals {s : Switch} {b : UInt8} {value : Bytes} (hs : level.TakesValue s)
      (hb : s.letterByte? = some b) : Bundles level [.valued s value] (b :: equalsSign :: value) none

/-- Arguments that ask for switches of the level and for nothing else. -/
inductive Spells (level : Level) : List Request → List Bytes → Prop where
  | nil : Spells level [] []
  | long {s : Switch} {rs : List Request} {args : List Bytes} (hs : level.TakesAlone s)
      (h : Spells level rs args) : Spells level (.alone s :: rs) (s.longArgument :: args)
  | longDetached {s : Switch} {value : Bytes} {rs : List Request} {args : List Bytes}
      (hs : level.TakesValue s) (hword : Argument.ofBytes value = .word)
      (h : Spells level rs args) :
      Spells level (.valued s value :: rs) (s.longArgument :: value :: args)
  | longAttached {s : Switch} {value : Bytes} {rs : List Request} {args : List Bytes}
      (hs : level.TakesValue s) (h : Spells level rs args) :
      Spells level (.valued s value :: rs) ((s.longArgument ++ equalsSign :: value) :: args)
  | cluster {bundle : List Request} {bs : Bytes} {next? : Option Bytes} {rs : List Request}
      {args : List Bytes} (hbundle : level.Bundles bundle bs next?) (hbs : bs ≠ [])
      (h : Spells level rs args) :
      Spells level (bundle ++ rs) ((dash :: bs) :: (next?.toList ++ args))

/-! ## Names and letters -/

theorem named?_long {level : Level} {s : Switch} (h : s ∈ level.switches) :
    level.named? (Utf8.encode s.long) = some s := by
  have hall : ∀ s ∈ level.switches, level.named? (Utf8.encode s.long) = some s := by
    rcases level with _ | (_ | _ | _) <;> decide
  exact hall s h

theorem lettered?_letterByte {level : Level} {s : Switch} {b : UInt8} (h : s ∈ level.switches)
    (hb : s.letterByte? = some b) : level.lettered? b = some s := by
  have hall : ∀ s ∈ level.switches,
      s.letterByte?.bind level.lettered? = s.letterByte?.map fun _ => s := by
    rcases level with _ | (_ | _ | _) <;> decide
  have hs := hall s h
  rwa [hb, Option.bind_some, Option.map_some] at hs

theorem mem_of_named? {level : Level} {name : Bytes} {s : Switch} (h : level.named? name = some s) :
    s ∈ level.switches ∧ Utf8.encode s.long = name := by
  have hname : (Utf8.encode s.long == name) = true := by simpa using List.find?_some h
  exact ⟨List.mem_of_find?_eq_some h, eq_of_beq hname⟩

theorem mem_of_lettered? {level : Level} {b : UInt8} {s : Switch} (h : level.lettered? b = some s) :
    s ∈ level.switches ∧ s.letterByte? = some b := by
  refine ⟨List.mem_of_find?_eq_some h, ?_⟩
  have hletter : s.letter?.map Char.toNat = some b.toNat := by simpa using List.find?_some h
  obtain ⟨c, hc, hcode⟩ := Option.map_eq_some_iff.1 hletter
  rw [Switch.letterByte?, hc, Option.map_some, hcode, UInt8.ofNat_toNat]

theorem letterByte_ne_dash {s : Switch} {b : UInt8} (h : s.letterByte? = some b) : b ≠ dash := by
  have hne : s.letterByte? ≠ some dash := by
    cases s <;> decide
  rintro rfl
  exact hne h

end Level

theorem Switch.long_ne_nil (s : Switch) : Utf8.encode s.long ≠ [] := by
  cases s <;> decide

theorem Switch.equalsSign_not_mem_long (s : Switch) : equalsSign ∉ Utf8.encode s.long := by
  cases s <;> decide

namespace Argument

theorem ofBytes_dashes {cs : Bytes} (h : cs ≠ []) :
    ofBytes (dash :: dash :: cs) = .long (splitValue cs).1 (splitValue cs).2 := by
  cases cs with
  | nil => exact absurd rfl h
  | cons c cs => rfl

theorem ofBytes_cluster {b : UInt8} (h : b ≠ dash) (bs : Bytes) :
    ofBytes (dash :: b :: bs) = .cluster (b :: bs) := by
  simp [ofBytes, h]

/-- The forms of arguments, by their bytes. -/
theorem ofBytes_cases (arg : Bytes) :
    ofBytes arg = .word ∨ (arg = [dash, dash] ∧ ofBytes arg = .ending)
      ∨ (∃ cs, cs ≠ [] ∧ arg = dash :: dash :: cs)
      ∨ ∃ b bs, b ≠ dash ∧ arg = dash :: b :: bs := by
  match arg with
  | [] => exact .inl rfl
  | b :: bs =>
    by_cases hb : b = dash
    · subst hb
      match bs with
      | [] => exact .inl rfl
      | c :: cs =>
        by_cases hc : c = dash
        · subst hc
          cases cs with
          | nil => exact .inr (.inl ⟨rfl, rfl⟩)
          | cons d ds => exact .inr (.inr (.inl ⟨d :: ds, List.cons_ne_nil _ _, rfl⟩))
        · exact .inr (.inr (.inr ⟨c, cs, hc, rfl⟩))
    · exact .inl (if_neg hb)

theorem splitValue_name {name : Bytes} (h : equalsSign ∉ name) : splitValue name = (name, none) := by
  have hall : ∀ b ∈ name, (b != equalsSign) = true := fun b hb =>
    bne_iff_ne.2 fun heq => h (heq ▸ hb)
  rw [splitValue, List.takeWhile_eq_self_iff.2 hall, List.dropWhile_eq_nil_iff.2 hall]
  rfl

theorem splitValue_append {name : Bytes} (h : equalsSign ∉ name) (value : Bytes) :
    splitValue (name ++ equalsSign :: value) = (name, some value) := by
  have hall : ∀ b ∈ name, (b != equalsSign) = true := fun b hb =>
    bne_iff_ne.2 fun heq => h (heq ▸ hb)
  rw [splitValue, List.takeWhile_append_of_pos hall, List.dropWhile_append_of_pos hall]
  simp

/-- A cut at the first equals sign loses nothing else. -/
theorem eq_of_splitValue (bs : Bytes) :
    (splitValue bs).2 = none ∧ bs = (splitValue bs).1
      ∨ ∃ value, (splitValue bs).2 = some value ∧ bs = (splitValue bs).1 ++ equalsSign :: value := by
  have hcut := (List.takeWhile_append_dropWhile (p := (· != equalsSign)) (l := bs)).symm
  simp only [splitValue]
  cases hrest : bs.dropWhile (· != equalsSign) with
  | nil =>
    left
    rw [hrest, List.append_nil] at hcut
    exact ⟨rfl, hcut⟩
  | cons b value =>
    right
    have hhead := List.head?_dropWhile_not (· != equalsSign) bs
    rw [hrest] at hhead
    have hb : b = equalsSign := by simpa using hhead
    rw [hrest, hb] at hcut
    exact ⟨value, rfl, hcut⟩

end Argument

namespace Level

/-! ## What one argument says -/

section

variable {level : Level} {s : Switch}

theorem TakesAlone.readAlone?_eq (h : level.TakesAlone s) :
    s.readAlone? = some (Request.alone s).reading := by
  obtain ⟨r, hr⟩ := Option.isSome_iff_exists.1 h.2
  rw [Request.reading, hr, Option.getD_some]

theorem speak?_long (h : level.TakesAlone s) :
    level.speak? s.longArgument = some { readings := [(Request.alone s).reading] } := by
  rw [speak?, Switch.longArgument, Argument.ofBytes_dashes s.long_ne_nil,
    Argument.splitValue_name s.equalsSign_not_mem_long]
  simp only [speakLong, named?_long h.1, h.readAlone?_eq]

theorem speak?_longDetached (h : level.TakesValue s) :
    level.speak? s.longArgument = some { awaiting? := some s } := by
  rw [speak?, Switch.longArgument, Argument.ofBytes_dashes s.long_ne_nil,
    Argument.splitValue_name s.equalsSign_not_mem_long]
  simp only [speakLong, named?_long h.1, h.2]

theorem speak?_longAttached (h : level.TakesValue s) (value : Bytes) :
    level.speak? (s.longArgument ++ equalsSign :: value)
      = some { readings := [(Request.valued s value).reading] } := by
  rw [speak?, Switch.longArgument, List.cons_append, List.cons_append,
    Argument.ofBytes_dashes (List.append_ne_nil_of_left_ne_nil s.long_ne_nil _),
    Argument.splitValue_append s.equalsSign_not_mem_long]
  simp only [speakLong, named?_long h.1, h.2]
  rfl

variable {b : UInt8}

theorem speakCluster_flag (h : level.TakesAlone s) (hb : s.letterByte? = some b) (bs : Bytes) :
    level.speakCluster (b :: bs) = (level.speakCluster bs).cons (Request.alone s).reading := by
  rw [speakCluster, lettered?_letterByte h.1 hb]
  simp only [h.readAlone?_eq]

theorem speakCluster_last (h : level.TakesValue s) (hb : s.letterByte? = some b) :
    level.speakCluster [b] = { awaiting? := some s } := by
  rw [speakCluster, lettered?_letterByte h.1 hb]
  simp only [h.2]

theorem speakCluster_valued (h : level.TakesValue s) (hb : s.letterByte? = some b) (c : UInt8)
    (cs : Bytes) :
    level.speakCluster (b :: c :: cs)
      = { readings := [s.readWith (if c = equalsSign then cs else c :: cs)] } := by
  rw [speakCluster, lettered?_letterByte h.1 hb]
  simp only [h.2]

end

/-- A bundle says what it bundles.  Its last switch is left waiting where the value
    stands in the next argument. -/
theorem speakCluster_of_bundles {level : Level} {rs : List Request} {bs : Bytes}
    {next? : Option Bytes} (h : level.Bundles rs bs next?) :
    (next? = none ∧ level.speakCluster bs = { readings := rs.map Request.reading })
      ∨ ∃ flags s value, next? = some value ∧ Argument.ofBytes value = .word
        ∧ rs = flags ++ [.valued s value]
        ∧ level.speakCluster bs
          = { readings := flags.map Request.reading, awaiting? := some s } := by
  induction h with
  | nil => exact .inl ⟨rfl, rfl⟩
  | @flag s b rs bs next? hs hb _ ih =>
    rw [speakCluster_flag hs hb]
    rcases ih with ⟨hnone, hspoken⟩ | ⟨flags, t, value, hnext, hword, hrs, hspoken⟩
    · left
      rw [hspoken]
      exact ⟨hnone, rfl⟩
    · right
      rw [hspoken, hrs]
      exact ⟨.alone s :: flags, t, value, hnext, hword, rfl, rfl⟩
  | @detached s b value hs hb hword =>
    right
    rw [speakCluster_last hs hb]
    exact ⟨[], s, value, rfl, hword, rfl, rfl⟩
  | @attached s b c cs hs hb hc =>
    left
    rw [speakCluster_valued hs hb, if_neg hc]
    exact ⟨rfl, rfl⟩
  | @equals s b value hs hb =>
    left
    rw [speakCluster_valued hs hb, if_pos rfl]
    exact ⟨rfl, rfl⟩

theorem speak?_bundle {level : Level} {rs : List Request} {bs : Bytes} {next? : Option Bytes}
    (h : level.Bundles rs bs next?) (hne : bs ≠ []) :
    level.speak? (dash :: bs) = some (level.speakCluster bs) := by
  obtain ⟨b, more, rfl⟩ := List.exists_cons_of_ne_nil hne
  have hb : b ≠ dash := by
    cases h with
    | flag _ hb | detached _ hb | attached _ hb | equals _ hb => exact letterByte_ne_dash hb
  rw [speak?, Argument.ofBytes_cluster hb]

/-! ## Reading what is spelled -/

section

variable {level : Level} {arg : Bytes} {readings : List Reading}

theorem read_cons (h : level.speak? arg = some { readings }) (args : List Bytes) :
    level.read (arg :: args) = (readings ++ (level.read args).1, (level.read args).2) := by
  rw [read, h]

theorem read_cons_cons {s : Switch} {value : Bytes}
    (h : level.speak? arg = some { readings, awaiting? := some s })
    (hword : Argument.ofBytes value = .word) (args : List Bytes) :
    level.read (arg :: value :: args)
      = (readings ++ s.readWith value :: (level.read args).1, (level.read args).2) := by
  rw [read, h]
  simp only [hword, if_true]

theorem read_of_no_switch {args : List Bytes} (h : ∀ arg ∈ args.head?, level.speak? arg = none) :
    level.read args = ([], args) := by
  cases args with
  | nil => rfl
  | cons arg args => rw [read, h arg rfl]

end

/-- The reader finds what is spelled, and stops where something else begins. -/
theorem read_of_spells {level : Level} {rs : List Request} {args : List Bytes}
    (h : level.Spells rs args) {rest : List Bytes}
    (hrest : ∀ arg ∈ rest.head?, level.speak? arg = none) :
    level.read (args ++ rest) = (rs.map Request.reading, rest) := by
  induction h with
  | nil => exact read_of_no_switch hrest
  | @long s rs args hs _ ih =>
    rw [List.cons_append, read_cons (speak?_long hs), ih]
    rfl
  | @longDetached s value rs args hs hword _ ih =>
    rw [List.cons_append, List.cons_append, read_cons_cons (speak?_longDetached hs) hword, ih]
    rfl
  | @longAttached s value rs args hs _ ih =>
    rw [List.cons_append, read_cons (speak?_longAttached hs value), ih]
    rfl
  | @cluster bundle bs next? rs args hbundle hbs _ ih =>
    have hspeak := speak?_bundle hbundle hbs
    rcases speakCluster_of_bundles hbundle with
      ⟨rfl, hspoken⟩ | ⟨flags, s, value, rfl, hword, rfl, hspoken⟩
    · rw [hspoken] at hspeak
      rw [Option.toList_none, List.nil_append, List.cons_append, read_cons hspeak, ih,
        List.map_append]
    · rw [hspoken] at hspeak
      rw [Option.toList_some, List.cons_append, List.cons_append, List.cons_append,
        List.nil_append, read_cons_cons hspeak hword, ih]
      simp [Request.reading]

/-! ## What was read is spelled -/

/-- A cluster with nothing wrong in it bundles what it says; if a switch is left
    waiting, it does so with any value in the next argument. -/
theorem bundles_of_speakCluster {level : Level} {bs : Bytes}
    (hok : .misread ∉ (level.speakCluster bs).readings) :
    ((level.speakCluster bs).awaiting? = none →
      ∃ rs, level.Bundles rs bs none ∧ (level.speakCluster bs).readings = rs.map Request.reading)
    ∧ ∀ s value, (level.speakCluster bs).awaiting? = some s → Argument.ofBytes value = .word →
      ∃ flags, level.Bundles (flags ++ [.valued s value]) bs (some value)
        ∧ (level.speakCluster bs).readings = flags.map Request.reading := by
  induction bs using speakCluster.induct level with
  | case1 => 
    refine ⟨fun _ => ⟨[], .nil, rfl⟩, fun s value h => ?_⟩
    cases h
  | case2 b bs hnone => 
    rw [speakCluster, hnone] at hok
    exact absurd List.mem_cons_self hok
  | case3 b s hs r bs hr ih =>
    obtain ⟨hmem, hb⟩ := mem_of_lettered? hs
    have htakes : level.TakesAlone s := ⟨hmem, by rw [hr]; rfl⟩
    rw [speakCluster_flag htakes hb] at hok ⊢
    obtain ⟨hall, hwaiting⟩ := ih fun h => hok (List.mem_cons_of_mem _ h)
    constructor
    · intro h
      obtain ⟨rs, hbundle, hreadings⟩ := hall h
      exact ⟨_, .flag htakes hb hbundle, congrArg _ hreadings⟩
    · intro t value h hword
      obtain ⟨flags, hbundle, hreadings⟩ := hwaiting t value h hword
      exact ⟨.alone s :: flags, .flag htakes hb hbundle, congrArg _ hreadings⟩
  | case4 b s hs hnone =>
    obtain ⟨hmem, hb⟩ := mem_of_lettered? hs
    rw [speakCluster_last ⟨hmem, hnone⟩ hb]
    refine ⟨fun h => ?_, fun t value h hword => ?_⟩
    · cases h
    · cases h
      exact ⟨[], .detached ⟨hmem, hnone⟩ hb hword, rfl⟩
  | case5 b s hs c cs hnone =>
    obtain ⟨hmem, hb⟩ := mem_of_lettered? hs
    rw [speakCluster_valued ⟨hmem, hnone⟩ hb]
    refine ⟨fun _ => ?_, fun t value h => ?_⟩
    · by_cases hc : c = equalsSign
      · rw [if_pos hc, hc]
        exact ⟨_, .equals ⟨hmem, hnone⟩ hb, rfl⟩
      · rw [if_neg hc]
        exact ⟨_, .attached ⟨hmem, hnone⟩ hb hc, rfl⟩
    · cases h

/-- Whatever is spelled behind it, the argument spells what it says in front of it,
    with the next argument for the value of a switch that is left waiting. -/
structure Accounts (level : Level) (arg : Bytes) (spoken : Spoken) : Prop where
  silent : spoken.awaiting? = none →
    ∃ rs, spoken.readings = rs.map Request.reading
      ∧ ∀ more args, level.Spells more args → level.Spells (rs ++ more) (arg :: args)
  waiting : ∀ s value, spoken.awaiting? = some s → Argument.ofBytes value = .word →
    ∃ flags, spoken.readings = flags.map Request.reading
      ∧ ∀ more args, level.Spells more args →
        level.Spells (flags ++ .valued s value :: more) (arg :: value :: args)

theorem accounts_speakLong {level : Level} {cs : Bytes}
    (hok : .misread ∉ (level.speakLong (Argument.splitValue cs).1 (Argument.splitValue cs).2).readings) :
    level.Accounts (dash :: dash :: cs)
      (level.speakLong (Argument.splitValue cs).1 (Argument.splitValue cs).2) := by
  have hcut := Argument.eq_of_splitValue cs
  generalize (Argument.splitValue cs).1 = name at *
  generalize (Argument.splitValue cs).2 = value? at *
  cases hname : level.named? name with
  | none => simp [speakLong, hname] at hok
  | some s =>
    obtain ⟨hmem, hlong⟩ := mem_of_named? hname
    cases halone : s.readAlone? with
    | some r =>
      have htakes : level.TakesAlone s := ⟨hmem, by rw [halone]; rfl⟩
      rcases hcut with ⟨rfl, hcs⟩ | ⟨value, rfl, -⟩
      · have harg : dash :: dash :: cs = s.longArgument := by rw [hcs, ← hlong]; rfl
        have hspoken : level.speakLong name none = { readings := [r] } := by
          simp only [speakLong, hname, halone]
        rw [hspoken, harg]
        refine ⟨fun _ => ⟨[.alone s], ?_, fun more args h => .long htakes h⟩, fun t v h => ?_⟩
        · rw [List.map_singleton, Request.reading, halone, Option.getD_some]
        · cases h
      · simp [speakLong, hname, halone] at hok
    | none =>
      have htakes : level.TakesValue s := ⟨hmem, halone⟩
      rcases hcut with ⟨rfl, hcs⟩ | ⟨value, rfl, hcs⟩
      · have harg : dash :: dash :: cs = s.longArgument := by rw [hcs, ← hlong]; rfl
        have hspoken : level.speakLong name none = { awaiting? := some s } := by
          simp only [speakLong, hname, halone]
        rw [hspoken, harg]
        refine ⟨fun h => ?_, fun t v h hword => ?_⟩
        · cases h
        · cases h
          exact ⟨[], rfl, fun more args hmore => .longDetached htakes hword hmore⟩
      · have harg : dash :: dash :: cs = s.longArgument ++ equalsSign :: value := by
          rw [hcs, ← hlong]
          rfl
        have hspoken : level.speakLong name (some value) = { readings := [s.readWith value] } := by
          simp only [speakLong, hname, halone]
        rw [hspoken, harg]
        refine ⟨fun _ => ⟨[.valued s value], rfl, fun more args h => .longAttached htakes h⟩,
          fun t v h => ?_⟩
        cases h

theorem accounts_speakCluster {level : Level} {bs : Bytes} (hbs : bs ≠ [])
    (hok : .misread ∉ (level.speakCluster bs).readings) :
    level.Accounts (dash :: bs) (level.speakCluster bs) := by
  obtain ⟨hall, hwaiting⟩ := bundles_of_speakCluster hok
  constructor
  · intro h
    obtain ⟨rs, hbundle, hreadings⟩ := hall h
    exact ⟨rs, hreadings, fun more args hmore => .cluster hbundle hbs hmore⟩
  · intro s value h hword
    obtain ⟨flags, hbundle, hreadings⟩ := hwaiting s value h hword
    refine ⟨flags, hreadings, fun more args hmore => ?_⟩
    have hspells := Spells.cluster hbundle hbs hmore
    rwa [List.append_assoc] at hspells

theorem accounts_of_speak? {level : Level} {arg : Bytes} {spoken : Spoken}
    (h : level.speak? arg = some spoken) (hok : .misread ∉ spoken.readings) :
    level.Accounts arg spoken := by
  rcases Argument.ofBytes_cases arg with hword | ⟨-, hending⟩ | ⟨cs, hcs, rfl⟩ | ⟨b, bs, hb, rfl⟩
  · rw [speak?, hword] at h
    cases h
  · rw [speak?, hending] at h
    cases h
  · rw [speak?, Argument.ofBytes_dashes hcs] at h
    cases h
    exact accounts_speakLong hok
  · rw [speak?, Argument.ofBytes_cluster hb] at h
    cases h
    exact accounts_speakCluster (List.cons_ne_nil _ _) hok

/-- Arguments with nothing wrong in them spell what was read, up to the first that
    belongs to no switch. -/
theorem exists_spells_of_read {level : Level} {args : List Bytes}
    (hok : .misread ∉ (level.read args).1) :
    ∃ rs front, args = front ++ (level.read args).2 ∧ level.Spells rs front
      ∧ (level.read args).1 = rs.map Request.reading := by
  induction args using read.induct level with
  | case1 => exact ⟨[], [], rfl, .nil, rfl⟩
  | case2 arg args hnone =>
    rw [read, hnone]
    exact ⟨[], [], rfl, .nil, rfl⟩
  | case3 arg args readings hspeak more rest _ ih =>
    rw [read_cons hspeak] at hok ⊢
    obtain ⟨hfirst, hmore⟩ := not_or.1 (mt List.mem_append.2 hok)
    obtain ⟨rs, hreadings, hspells⟩ := (accounts_of_speak? hspeak hfirst).silent rfl
    obtain ⟨rs', front, hargs, hfront, hreadings'⟩ := ih hmore
    refine ⟨rs ++ rs', arg :: front, congrArg _ hargs, hspells _ _ hfront, ?_⟩
    have hfirst' : readings = rs.map Request.reading := hreadings
    rw [List.map_append, ← hreadings', ← hfirst']
  | case4 arg readings s hspeak =>
    rw [read, hspeak] at hok
    exact absurd (List.mem_append_right _ List.mem_cons_self) hok
  | case5 arg readings s hspeak value args hword more rest _ ih =>
    rw [read_cons_cons hspeak hword] at hok ⊢
    obtain ⟨hfirst, hmore⟩ := not_or.1 (mt List.mem_append.2 hok)
    obtain ⟨flags, hreadings, hspells⟩ :=
      (accounts_of_speak? hspeak hfirst).waiting s value rfl hword
    obtain ⟨rs', front, hargs, hfront, hreadings'⟩ := ih fun h => hmore (List.mem_cons_of_mem _ h)
    refine ⟨flags ++ .valued s value :: rs', arg :: value :: front,
      congrArg (arg :: value :: ·) hargs, hspells _ _ hfront, ?_⟩
    have hfirst' : readings = flags.map Request.reading := hreadings
    rw [List.map_append, List.map_cons, ← hreadings', ← hfirst']
    rfl
  | case6 arg readings s hspeak value args hword =>
    rw [read, hspeak] at hok
    simp only [hword, if_false] at hok
    exact absurd (List.mem_append_right _ List.mem_cons_self) hok

end Level

/-! ## Plain values -/

/-- A value that is not empty and starts with neither a dash nor an equals sign. -/
def Plain (value : Bytes) : Prop := ∃ b bs, value = b :: bs ∧ b ≠ dash ∧ b ≠ equalsSign

/-- The ways to give a switch its value: by its long name, and by its letter if it
    has one, in the next argument, behind an equals sign or right behind the letter. -/
def Switch.ways (s : Switch) (value : Bytes) : List (List Bytes) :=
  [[s.longArgument, value], [s.longArgument ++ equalsSign :: value]]
    ++ s.letterByte?.toList.flatMap fun b =>
      [[[dash, b], value], [dash :: b :: value], [dash :: b :: equalsSign :: value]]

/-- A plain value can be given in every way. -/
theorem Level.spells_of_plain {level : Level} {s : Switch} {value : Bytes} (hs : level.TakesValue s)
    (hplain : Plain value) {way : List Bytes} (hway : way ∈ s.ways value) {rs : List Request}
    {args : List Bytes} (h : level.Spells rs args) :
    level.Spells (.valued s value :: rs) (way ++ args) := by
  obtain ⟨c, cs, rfl, hdash, hequals⟩ := hplain
  have hword : Argument.ofBytes (c :: cs) = .word := if_neg hdash
  rcases List.mem_append.1 hway with hlong | hshort
  · simp only [List.mem_cons, List.not_mem_nil, or_false] at hlong
    rcases hlong with rfl | rfl
    · exact .longDetached hs hword h
    · exact .longAttached hs h
  · obtain ⟨b, hb, hmem⟩ := List.mem_flatMap.1 hshort
    rw [Option.mem_toList] at hb
    simp only [List.mem_cons, List.not_mem_nil, or_false] at hmem
    rcases hmem with rfl | rfl | rfl
    · exact .cluster (.detached hs hb hword) (List.cons_ne_nil _ _) h
    · exact .cluster (.attached hs hb hequals) (List.cons_ne_nil _ _) h
    · exact .cluster (.equals hs hb) (List.cons_ne_nil _ _) h

end ClassAtlas.CommandLine
