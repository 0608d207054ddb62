import ClassAtlas.CommandLine.Switch

/-! # Arguments

    An argument is a word, the mark `--` that ends the switches, a long switch
    or a cluster of letters:

        generate
        --log-level        --log-level=debug
        -v        -vs        -ssrc        -s=src

    A switch whose value is not attached takes the next argument, which must be
    a word.  Reading goes on to the first argument that belongs to no switch.
-/

namespace ClassAtlas.CommandLine

/-- The byte `-` -/
def dash : UInt8 := 0x2D

/-- The byte `=` -/
def equalsSign : UInt8 := 0x3D

/-- The forms of arguments. -/
inductive Argument where
  /-- A word has no dash in front, or is a single dash. -/
  | word
  /-- The mark that ends the switches. -/
  | ending
  | long (name : Bytes) (value? : Option Bytes)
  | cluster (letters : Bytes)
  deriving DecidableEq, Repr

namespace Argument

/-- What stands between the dashes and the equals sign, and after it. -/
def splitValue (bs : Bytes) : Bytes × Option Bytes :=
  (bs.takeWhile (· != equalsSign), (bs.dropWhile (· != equalsSign)).tail?)

/-- The form of an argument. -/
def ofBytes : Bytes → Argument
  | [] => .word
  | b :: bs =>
    if b = dash then
      match bs with
      | [] => .word
      | c :: cs =>
        if c = dash then
          if cs.isEmpty then .ending else .long (splitValue cs).1 (splitValue cs).2
        else .cluster (c :: cs)
    else .word

end Argument

/-! ## Reading switches -/

/-- What one argument says, and the switch that still lacks its value. -/
structure Spoken where
  readings : List Reading := []
  awaiting? : Option Switch := none
  deriving DecidableEq, Repr

/-- A reading in front of others. -/
def Spoken.cons (r : Reading) (s : Spoken) : Spoken := { s with readings := r :: s.readings }

namespace Level

/-- What a long switch says. -/
def speakLong (level : Level) (name : Bytes) (value? : Option Bytes) : Spoken :=
  match level.named? name with
  | none => { readings := [.misread] }
  | some s =>
    match s.readAlone?, value? with
    | some r, none => { readings := [r] }
    | some _, some _ => { readings := [.misread] }
    | none, some value => { readings := [s.readWith value] }
    | none, none => { awaiting? := some s }

/-- What a cluster of letters says.  The first letter whose switch has a value
    takes the rest of the cluster for it. -/
def speakCluster (level : Level) : Bytes → Spoken
  | [] => {}
  | b :: bs =>
    match level.lettered? b with
    | none => { readings := [.misread] }
    | some s =>
      match s.readAlone?, bs with
      | some r, bs => (level.speakCluster bs).cons r
      | none, [] => { awaiting? := some s }
      | none, c :: cs => { readings := [s.readWith (if c = equalsSign then cs else c :: cs)] }

/-- What an argument says, if it belongs to a switch. -/
def speak? (level : Level) (arg : Bytes) : Option Spoken :=
  match Argument.ofBytes arg with
  | .word | .ending => none
  | .long name value? => some (level.speakLong name value?)
  | .cluster letters => some (level.speakCluster letters)

/-- What the arguments say up to the first that belongs to no switch, and the
    arguments from there. -/
def read (level : Level) : List Bytes → List Reading × List Bytes
  | [] => ([], [])
  | arg :: args =>
    match level.speak? arg with
    | none => ([], arg :: args)
    | some { readings, awaiting? := none } =>
      let (more, rest) := level.read args
      (readings ++ more, rest)
    | some { readings, awaiting? := some s } =>
      match args with
      | [] => (readings ++ [.misread], [])
      | value :: args =>
        if Argument.ofBytes value = .word then
          let (more, rest) := level.read args
          (readings ++ s.readWith value :: more, rest)
        else (readings ++ [.misread], [])

end Level

end ClassAtlas.CommandLine
